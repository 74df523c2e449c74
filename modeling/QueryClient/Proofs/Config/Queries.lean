import QueryClient.Proofs.Config.Dsn
import QueryClient.Proofs.Config.Occurrences
import QueryClient.Proofs.Url.Query

/-!
# Queries of connection strings

What stands before the query of a connection string says where the service is and how it is reached,
and the query says the options (`ofDsn_query`). A connection string is read if it is read without its
options, all of them are accepted and the last mode agrees with the scheme (`exists_ofDsn_iff`), and
the order of options with different names does not matter (`ofDsn_of_perm`).
-/

namespace QueryClient

open Text

namespace Config

open Decimal

section Strings

variable {c c₀ start : Config} {named : Option Transport} {options : List (String × String)}

/-- How a configuration is completed once its address was read. -/
def Completes (start : Config) (named : Option Transport) (options : List (String × String))
    (c : Config) : Prop :=
  ∃ read transport, start.withOptions options = .ok read
    ∧ transportOf named read.sslMode = .ok transport
    ∧ c = { read with transport, isExplicit := named.isSome }

theorem ofUrl_eq_ok_iff {u : Url} :
    ofUrl u = .ok c ↔ ∃ named start, transportOfScheme u.scheme = .ok named
      ∧ ofAuthority u = .ok start ∧ Completes start named (Url.Form.pairs (u.query.getD "")) c := by
  constructor
  · intro h
    obtain ⟨named, hnamed, h⟩ := exists_of_bind h
    obtain ⟨start, hstart, h⟩ := exists_of_bind h
    obtain ⟨read, hread, h⟩ := exists_of_bind h
    obtain ⟨transport, htransport, h⟩ := exists_of_bind h
    exact ⟨named, start, hnamed, hstart, read, transport, hread, htransport,
      (Except.ok.inj h).symm⟩
  · rintro ⟨named, start, hnamed, hstart, read, transport, hread, htransport, rfl⟩
    simp only [ofUrl, hnamed, hstart, hread, htransport, bind, Except.bind]
    rfl

/-- Whether a text starts a connection string with a transport and an address. -/
def Addresses (base : String) (named : Option Transport) (start : Config) : Prop :=
  ∃ u, Url.Starts base.toList u ∧ transportOfScheme u.scheme = .ok named ∧ ofAuthority u = .ok start

theorem ofDsn_ending {base r : String} (hbase : Url.IsBefore base.toList)
    (hr : Url.IsEnding r.toList)
    (hlast : r.toList = [] → ∀ d ∈ base.toList.getLast?, 0x20 < d.toNat) :
    ofDsn (base ++ r) = .ok c ↔ ∃ named start, Addresses base named start
      ∧ Completes start named
        (Url.Form.pairs ((Url.query? .other (Url.significantAfter r.toList)).getD "")) c := by
  have htext : base ++ r = String.ofList (base.toList ++ r.toList) := by simp
  have hquery {u : Url} (hk : Url.SchemeKind.ofScheme u.scheme = .other) :
      (u.withEnding (Url.significantAfter r.toList)).query
        = Url.query? .other (Url.significantAfter r.toList) := by
    rw [Url.withEnding, hk]
  rw [ofDsn, htext]
  constructor
  · intro h
    split at h
    · next u hu =>
      obtain ⟨named, start, hnamed, hstart, hc⟩ := ofUrl_eq_ok_iff.1 h
      have hk := opaque_of_transportOfScheme hnamed
      have hhost : u.host? ≠ none := by
        intro hnone
        rw [ofAuthority, hnone] at hstart
        cases hstart
      obtain ⟨u₀, hu₀, rfl⟩ := (Url.parse_ending hbase hr hlast hk).1 ⟨hu, hhost⟩
      rw [hquery (u := u₀) hk] at hc
      exact ⟨named, start, ⟨u₀, hu₀, hnamed, hstart⟩, hc⟩
    · cases h
  · rintro ⟨named, start, ⟨u₀, hu₀, hnamed, hstart⟩, hc⟩
    have hk := opaque_of_transportOfScheme hnamed
    obtain ⟨hu, -⟩ := (Url.parse_ending (u := u₀.withEnding (Url.significantAfter r.toList))
      hbase hr hlast hk).2 ⟨u₀, hu₀, rfl⟩
    rw [hu]
    refine ofUrl_eq_ok_iff.2 ⟨named, start, hnamed, hstart, ?_⟩
    rwa [hquery hk]

/-- Whether the last mode of some options agrees with the transport, if that was named. -/
def Agrees (c : Config) (options : List (String × String)) : Prop :=
  c.isExplicit = true →
    ∀ mode ∈ lastValue options "sslmode", (c.transport = .http ↔ mode = "disable")

/-- Whether a configuration is another one without options, with some options. -/
structure HasOptions (c₀ : Config) (options : List (String × String)) (c : Config) : Prop where
  option : ∀ key, c.Holds key (lastValue options key)
  settings : ∀ key ∈ optionNames, c.settings.get? key = none
  transport : c.transport = if c₀.isExplicit then c₀.transport
    else if lastValue options "sslmode" = some "disable" then .http else .https
  isExplicit : c.isExplicit = c₀.isExplicit
  host : c.host = c₀.host
  port : c.port = c₀.port
  credentials : c.credentials = c₀.credentials
  database : c.database = c₀.database

theorem HasOptions.eq {c' : Config} {options' : List (String × String)}
    (h : HasOptions c₀ options c) (h' : HasOptions c₀ options' c')
    (hlast : ∀ key, lastValue options key = lastValue options' key) : c = c' := by
  have hoptions := eq_of_holds h.option (fun key => hlast key ▸ h'.option key) fun key hkey => by
    rw [h.settings key hkey, h'.settings key hkey]
  rw [hoptions, h'.host, h'.port, h'.credentials, h'.database, h'.transport, h'.isExplicit, ← hlast,
    ← h.host, ← h.port, ← h.credentials, ← h.database, ← h.transport, ← h.isExplicit]

/-- Whether nothing but an address was read yet. -/
structure IsFresh (start : Config) : Prop where
  holds : ∀ key, start.Holds key none
  settings : ∀ key, start.settings.get? key = none

theorem isFresh_of_ofAuthority {u : Url} (h : ofAuthority u = .ok start) : start.IsFresh := by
  unfold ofAuthority at h
  split at h
  · obtain ⟨user, -, h⟩ := exists_of_bind h
    obtain ⟨password, -, h⟩ := exists_of_bind h
    obtain ⟨database, -, h⟩ := exists_of_bind h
    obtain rfl := Except.ok.inj h
    refine ⟨fun key => ?_, fun key => rfl⟩
    unfold Holds
    split <;> first | rfl | exact .none
  · cases h

theorem IsFresh.sslMode (h : start.IsFresh) : start.sslMode = none := by
  have hmode : none = start.sslMode.map SslMode.text := h.holds "sslmode"
  exact Option.map_eq_none_iff.1 hmode.symm

theorem IsFresh.completes_nil (h : start.IsFresh) (named : Option Transport) :
    Completes start named [] { start with
      transport := named.getD .https, isExplicit := named.isSome } := by
  refine ⟨start, named.getD .https, rfl, ?_, rfl⟩
  rw [h.sslMode]
  rcases named with _ | _ | _ <;> rfl

theorem Completes.eq {c' : Config} (h : Completes start named options c)
    (h' : Completes start named options c') : c = c' := by
  obtain ⟨read, t, hread, ht, rfl⟩ := h
  obtain ⟨read', t', hread', ht', rfl⟩ := h'
  rw [hread] at hread'
  obtain rfl := Except.ok.inj hread'
  rw [ht] at ht'
  rw [Except.ok.inj ht']

section Fresh

variable (h : start.IsFresh)

include h in
theorem IsFresh.lastValue_eq {read : Config} (hread : start.withOptions options = .ok read) :
    lastValue options "sslmode" = read.sslMode.map SslMode.text := by
  have hmode := (setsAll_of_withOptions hread).holds _ _ (h.holds "sslmode")
  rwa [Option.or_none] at hmode

include h in
theorem IsFresh.exists_completes_iff :
    (∃ c, Completes start named options c) ↔ (∀ e ∈ options, IsAccepted e.1 e.2)
      ∧ Agrees { start with transport := named.getD .https, isExplicit := named.isSome }
        options := by
  have hagrees {read : Config} (hread : start.withOptions options = .ok read) :
      (∃ t, transportOf named read.sslMode = .ok t)
        ↔ Agrees { start with transport := named.getD .https, isExplicit := named.isSome }
          options := by
    rw [Agrees, h.lastValue_eq hread]
    rcases named with _ | _ | _ <;> rcases read.sslMode with _ | _ | _ | _ <;>
      simp [transportOf, SslMode.text]
  constructor
  · rintro ⟨c, read, t, hread, ht, -⟩
    exact ⟨exists_withOptions_iff.1 ⟨read, hread⟩, (hagrees hread).1 ⟨t, ht⟩⟩
  · rintro ⟨haccepted, hmode⟩
    obtain ⟨read, hread⟩ := (exists_withOptions_iff (c := start)).2 haccepted
    obtain ⟨t, ht⟩ := (hagrees hread).2 hmode
    exact ⟨_, read, t, hread, ht, rfl⟩

include h in
theorem IsFresh.hasOptions (hc : Completes start named options c) :
    HasOptions { start with transport := named.getD .https, isExplicit := named.isSome } options
      c := by
  obtain ⟨read, t, hread, ht, rfl⟩ := hc
  have hs := setsAll_of_withOptions hread
  refine ⟨fun key => ?_, fun key hkey => (hs.settings key hkey).trans (h.settings key), ?_, rfl,
    hs.host, hs.port, hs.credentials, hs.database⟩
  · have hkey := hs.holds key none (h.holds key)
    rwa [Option.or_none] at hkey
  · rw [h.lastValue_eq hread]
    revert ht
    rcases named with _ | _ | _ <;> rcases read.sslMode with _ | _ | _ | _ <;> cases t <;>
      simp [transportOf, SslMode.text]

end Fresh

/-- Whether a text is the form of some options. It may encode more than it has to. -/
def IsForm (query : String) (options : List (String × String)) : Prop :=
  (∀ c ∈ query.toList, Url.Percent.Leaves Url.querySet c ∧ 0x20 < c.toNat)
    ∧ Url.Form.pairs query = options

theorem isForm_encodePairs (options : List (String × String)) :
    IsForm (Url.Form.encodePairs options) options :=
  ⟨fun _ => Url.Form.mem_encodePairs, Url.Form.pairs_encodePairs options⟩

theorem Addresses.isFresh {base : String} (h : Addresses base named start) : start.IsFresh := by
  obtain ⟨u, -, -, hstart⟩ := h
  exact isFresh_of_ofAuthority hstart

section Query

variable {base tail query : String} (hbase : Url.IsBefore base.toList)
  (htail : Url.IsFragment tail.toList)

theorem isFragment_significantAfter {t : List Char} (h : Url.IsFragment t) :
    Url.IsFragment (Url.significantAfter t) := by
  unfold Url.IsFragment
  rwa [Url.head?_significantAfter h.isEnding]

include hbase htail in
/-- The query of a connection string says what its options are, and nothing else. -/
theorem ofDsn_query (hq : IsForm query options) :
    ofDsn (base ++ "?" ++ query ++ tail) = .ok c
      ↔ ∃ named start, Addresses base named start ∧ Completes start named options c := by
  have hchars : ("?" ++ query ++ tail).toList = '?' :: query.toList ++ tail.toList := by simp
  have hvisible : ∀ d ∈ '?' :: query.toList, 0x20 < d.toNat :=
    List.forall_mem_cons.2 ⟨by decide, fun d hd => (hq.1 d hd).2⟩
  have hr : Url.IsEnding ("?" ++ query ++ tail).toList := by
    rw [hchars]
    rintro d hd
    exact .inl (Option.some.inj hd).symm
  have hassoc : base ++ "?" ++ query ++ tail = base ++ ("?" ++ query ++ tail) := by
    simp only [String.append_assoc]
  rw [hassoc, ofDsn_ending hbase hr (fun hnil => by rw [hchars] at hnil; cases hnil), hchars,
    Url.significantAfter_append hvisible,
    Url.query?_append (fun d hd => (hq.1 d hd).1) (isFragment_significantAfter htail)]
  simp only [Option.getD_some, String.ofList_toList, hq.2]

include hbase htail in
theorem ofDsn_empty :
    ofDsn (base ++ "?" ++ tail) = .ok c
      ↔ ∃ named start, Addresses base named start ∧ Completes start named [] c := by
  have hempty : IsForm "" [] := isForm_encodePairs []
  rw [← ofDsn_query hbase htail hempty, String.append_empty]

include hbase htail in
theorem ofDsn_bare (hlast : tail = "" → ∀ d ∈ base.toList.getLast?, 0x20 < d.toNat) :
    ofDsn (base ++ tail) = .ok c ↔ ofDsn (base ++ "?" ++ tail) = .ok c := by
  rw [ofDsn_empty hbase htail, ofDsn_ending hbase htail.isEnding
    fun hnil => hlast (String.toList_eq_nil_iff.1 hnil),
    Url.query?_eq_none _ (isFragment_significantAfter htail)]
  rfl

include hbase htail in
theorem exists_ofDsn_iff (hq : IsForm query options) :
    (∃ c, ofDsn (base ++ "?" ++ query ++ tail) = .ok c)
      ↔ ∃ c₀, ofDsn (base ++ "?" ++ tail) = .ok c₀ ∧ (∀ e ∈ options, IsAccepted e.1 e.2)
        ∧ Agrees c₀ options := by
  simp only [ofDsn_query hbase htail hq, ofDsn_empty hbase htail]
  constructor
  · rintro ⟨c, named, start, haddress, hc⟩
    have hfresh := haddress.isFresh
    exact ⟨_, ⟨named, start, haddress, hfresh.completes_nil named⟩,
      hfresh.exists_completes_iff.1 ⟨c, hc⟩⟩
  · rintro ⟨c₀, ⟨named, start, haddress, hc₀⟩, hoptions⟩
    have hfresh := haddress.isFresh
    obtain rfl := hc₀.eq (hfresh.completes_nil named)
    obtain ⟨c, hc⟩ := hfresh.exists_completes_iff.2 hoptions
    exact ⟨c, named, start, haddress, hc⟩

include hbase htail in
theorem hasOptions_of_ofDsn (hq : IsForm query options)
    (hc : ofDsn (base ++ "?" ++ query ++ tail) = .ok c) :
    ∃ c₀, ofDsn (base ++ "?" ++ tail) = .ok c₀ ∧ HasOptions c₀ options c := by
  obtain ⟨named, start, haddress, hc⟩ := (ofDsn_query hbase htail hq).1 hc
  have hfresh := haddress.isFresh
  exact ⟨_, (ofDsn_empty hbase htail).2 ⟨named, start, haddress, hfresh.completes_nil named⟩,
    hfresh.hasOptions hc⟩

include hbase htail in
theorem ofDsn_of_perm {query' : String} {options' : List (String × String)}
    (hq : IsForm query options) (hq' : IsForm query' options') (hperm : options.Perm options')
    (hn : (options.map Prod.fst).Nodup) (hc : ofDsn (base ++ "?" ++ query ++ tail) = .ok c) :
    ofDsn (base ++ "?" ++ query' ++ tail) = .ok c := by
  have hlast := lastValue_perm hperm hn
  obtain ⟨c₀, hc₀, haccepted, hagrees⟩ := (exists_ofDsn_iff hbase htail hq).1 ⟨c, hc⟩
  obtain ⟨c', hc'⟩ := (exists_ofDsn_iff hbase htail hq').2
    ⟨c₀, hc₀, fun e he => haccepted e (hperm.mem_iff.2 he), by
      unfold Agrees at hagrees ⊢
      rwa [← hlast]⟩
  obtain ⟨c₁, hc₁, hhas⟩ := hasOptions_of_ofDsn hbase htail hq hc
  obtain ⟨c₂, hc₂, hhas'⟩ := hasOptions_of_ofDsn hbase htail hq' hc'
  rw [hc₁] at hc₂
  rw [hhas.eq (Except.ok.inj hc₂ ▸ hhas') hlast, hc']

end Query

end Strings

/-- A connection string is read if it is one without its options, all of its options are accepted and
the last mode agrees with the transport that its scheme names. Every known option then has the last
value it was given, and the settings are the last values of the others. So options with different
names may stand in any order. -/
theorem ofDsn_options (base tail : String) (hbase : ∀ c ∈ base.toList, c ≠ '?' ∧ c ≠ '#')
    (htail : ∀ c ∈ tail.toList.head?, c = '#') :
    (∀ options, IsForm (Url.Form.encodePairs options) options)
      ∧ (∀ query options, IsForm query options →
        ((∃ c, ofDsn (base ++ "?" ++ query ++ tail) = .ok c)
          ↔ ∃ c₀, ofDsn (base ++ "?" ++ tail) = .ok c₀ ∧ (∀ e ∈ options, IsAccepted e.1 e.2)
            ∧ Agrees c₀ options)
        ∧ ∀ c, ofDsn (base ++ "?" ++ query ++ tail) = .ok c →
          ∃ c₀, ofDsn (base ++ "?" ++ tail) = .ok c₀ ∧ HasOptions c₀ options c)
      ∧ (∀ query options query' options', IsForm query options → IsForm query' options' →
        options.Perm options' → (options.map Prod.fst).Nodup → ∀ c,
          ofDsn (base ++ "?" ++ query ++ tail) = .ok c
            ↔ ofDsn (base ++ "?" ++ query' ++ tail) = .ok c)
      ∧ ((tail = "" → ∀ c ∈ base.toList.getLast?, 0x20 < c.toNat) → ∀ c,
        ofDsn (base ++ tail) = .ok c ↔ ofDsn (base ++ "?" ++ tail) = .ok c) := by
  refine ⟨isForm_encodePairs, fun query options hq =>
    ⟨exists_ofDsn_iff hbase htail hq, fun c => hasOptions_of_ofDsn hbase htail hq⟩,
    fun query options query' options' hq hq' hperm hn c =>
      ⟨ofDsn_of_perm hbase htail hq hq' hperm hn, ofDsn_of_perm hbase htail hq' hq hperm.symm ?_⟩,
    fun hlast c => ofDsn_bare hbase htail hlast⟩
  exact (hperm.map Prod.fst).nodup_iff.1 hn

/-- Options that are given twice, an option that is not accepted although a later one is, and two
orders of two options. -/
theorem ofDsn_options_repeated :
    let base := "databend+https://u@h/db"
    let tail := "#f"
    let twice := [("sslmode", "disable"), ("tenant", "a b"), ("k", "1"), ("tenant", "c&d"), ("k", "2"),
      ("sslmode", "require")]
    let zero := [("connect_timeout", "0"), ("connect_timeout", "5")]
    let text (options : List (String × String)) : String :=
      base ++ "?" ++ Url.Form.encodePairs options ++ tail
    (∀ c ∈ base.toList, c ≠ '?' ∧ c ≠ '#') ∧ (∀ c ∈ tail.toList.head?, c = '#')
      ∧ IsForm (Url.Form.encodePairs twice) twice
      ∧ (∃ c, ofDsn (text twice) = .ok c ∧ c.sslMode.map SslMode.text = some "require"
        ∧ c.tenant = some "c&d" ∧ c.settings.get? "k" = some "2" ∧ c.settings.get? "tenant" = none)
      ∧ (¬ ∃ c, ofDsn (text zero) = .ok c)
      ∧ (∃ c, ofDsn (text [("connect_timeout", "5"), ("k", "1")]) = .ok c
        ∧ ofDsn (text [("k", "1"), ("connect_timeout", "5")]) = .ok c)
      ∧ ∃ c, ofDsn (base ++ tail) = .ok c ∧ ofDsn (base ++ "?" ++ tail) = .ok c := by
  intro base tail twice zero text
  have hall : base.toList.all (fun c => c ≠ '?' ∧ c ≠ '#') = true := by decide
  have hbase : ∀ c ∈ base.toList, c ≠ '?' ∧ c ≠ '#' := fun c hc =>
    of_decide_eq_true (List.all_eq_true.1 hall c hc)
  have htail : ∀ c ∈ tail.toList.head?, c = '#' := by
    have hhead : tail.toList.head? = some '#' := by decide
    intro c hc
    exact Option.some.inj (hc.symm.trans hhead)
  have hrest : ofDsn (base ++ "?" ++ tail) = .ok
      { transport := .https, isExplicit := true, host := "h", credentials := { user := "u" },
        database := some "db" } := by decide +kernel
  obtain ⟨hform, hread, hperm, hbare⟩ := ofDsn_options base tail hbase htail
  obtain ⟨htwice, hhas⟩ := hread _ twice (hform twice)
  obtain ⟨c, hc⟩ := htwice.2 ⟨_, hrest, by simp [twice, IsAccepted], fun _ => by decide⟩
  obtain ⟨c₀, -, hoptions⟩ := hhas c hc
  have hzero : ¬ ∃ c, ofDsn (text zero) = .ok c := by
    intro hc
    obtain ⟨-, -, haccepted, -⟩ := (hread _ zero (hform zero)).1.1 hc
    obtain ⟨n, hpos, -, hn⟩ := haccepted ("connect_timeout", "0") (by decide)
    rw [isNatural_unique hn (isNatural_digits 0)] at hpos
    cases hpos
  have hfive : IsAccepted "connect_timeout" "5" :=
    ⟨5, by decide, by decide, isNatural_digits 5⟩
  obtain ⟨d, hd⟩ := (hread _ [("connect_timeout", "5"), ("k", "1")] (hform _)).1.2
    ⟨_, hrest, by simpa [IsAccepted] using hfive, fun _ => by decide⟩
  exact ⟨hbase, htail, hform twice,
    ⟨c, hc, (hoptions.option "sslmode").symm.trans (by decide),
      (hoptions.option "tenant").symm.trans (by decide),
      (hoptions.option "k").symm.trans (by decide), hoptions.settings "tenant" (by decide)⟩,
    hzero, ⟨d, hd, (hperm _ _ _ _ (hform _) (hform _) (.swap _ _ _) (by decide) d).1 hd⟩,
    _, (hbare (fun hnil => absurd hnil (by decide)) _).2 hrest, hrest⟩

end Config

end QueryClient
