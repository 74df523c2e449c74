import QueryClient.Proofs.Config.Options
import QueryClient.Proofs.Url.Form
import QueryClient.Proofs.Url.Opaque

/-!
# Connection strings and back

A configuration that was read from a connection string can be written (`isWellFormed_of_ofDsn`), and a
configuration that can be written is read back from what was written (`ofDsn_dsn`), with its timeouts in
whole seconds.
-/

namespace QueryClient

open Text

namespace Config

open Url (Host Path IsSegment)

/-- Whether everything in a configuration can be written. The transport agrees with the mode, and
follows from it if it was not named. -/
structure IsWellFormed (c : Config) : Prop where
  host : ∃ u, Url.parse ("databend://" ++ c.host) = .ok u ∧ u.host? = some c.host
  password : c.credentials.password ≠ some ""
  database : c.database ∉ [some "", some ".", some ".."]
  settings : ∀ e ∈ c.settings.entries, e.1 ∉ optionNames
  mode : ∀ m ∈ c.sslMode, (c.transport = .http ↔ m = .disable)
  inferred : c.isExplicit = false → (c.transport = .http ↔ c.sslMode = some .disable)
  timeouts : ∀ d ∈ c.timeouts, d.IsWritable

variable {c : Config}

/-! ## Parts -/

section Parts

variable {part : DsnPart} {s t : String}

theorem decodePart_eq_ok_iff :
    decodePart part s = .ok t ↔ Url.Percent.decode s.toList = Utf8.encode t.toList := by
  rw [← Utf8.decode?_eq_some_iff]
  unfold decodePart
  split
  · next cs hcs =>
    rw [hcs, Except.ok.injEq, Option.some.injEq, ← String.toList_inj, String.toList_ofList]
  · next hcs => simp [hcs]

@[simp] theorem decodePart_encodePart (part : DsnPart) (s : String) :
    decodePart part (encodePart s) = .ok s := by
  rw [decodePart_eq_ok_iff, encodePart, Url.encodeText, String.toList_ofList,
    Url.Percent.decode_encode (by decide)]

theorem decodePart_eq_empty_iff (h : decodePart part s = .ok t) : t = "" ↔ s = "" := by
  have hdecode := decodePart_eq_ok_iff.1 h
  rw [← String.toList_eq_nil_iff, ← String.toList_eq_nil_iff,
    ← Url.Percent.decode_eq_nil_iff (s := s.toList), hdecode]
  constructor
  · intro ht
    rw [ht]
    rfl
  · exact fun ht => Utf8.encode_injective (t := []) ht

theorem encodePart_eq_empty_iff : encodePart s = "" ↔ s = "" :=
  (decodePart_eq_empty_iff (decodePart_encodePart .user s)).symm

theorem isSingleDot_iff_of_decodePart (h : decodePart part s = .ok t) :
    Url.isSingleDot s.toList = true ↔ t = "." := by
  rw [Url.isSingleDot_iff, decodePart_eq_ok_iff.1 h, ← String.toList_inj]
  exact ⟨fun h => Utf8.encode_injective (t := ".".toList) h, fun h => by rw [h]; rfl⟩

theorem isDoubleDot_iff_of_decodePart (h : decodePart part s = .ok t) :
    Url.isDoubleDot s.toList = true ↔ t = ".." := by
  rw [Url.isDoubleDot_iff, decodePart_eq_ok_iff.1 h, ← String.toList_inj]
  exact ⟨fun h => Utf8.encode_injective (t := "..".toList) h, fun h => by rw [h]; rfl⟩

/-- What a part is written with has no meaning anywhere in a URL. -/
theorem mem_encodePart {c : Char} (h : c ∈ (encodePart s).toList) :
    Url.Percent.Leaves Url.userinfoSet c ∧ Url.Percent.Leaves Url.pathSet c
      ∧ 0x20 < c.toNat ∧ c ≠ '/' := by
  rw [encodePart, Url.encodeText, String.toList_ofList] at h
  unfold Url.Percent.Leaves
  exact Url.Percent.of_isWritten
    (P := fun c => (c.toNat < 0x80 ∧ Url.userinfoSet c = false)
      ∧ (c.toNat < 0x80 ∧ Url.pathSet c = false) ∧ 0x20 < c.toNat ∧ c ≠ '/')
    (by decide +kernel) (Url.Percent.isWritten_of_mem h)

theorem isSegment_encodePart (h : s ≠ "." ∧ s ≠ "..") : IsSegment (encodePart s).toList where
  slash hmem := (mem_encodePart hmem).2.2.2 rfl
  dots _ := by
    have hs := decodePart_encodePart .database s
    rw [← Bool.not_eq_true, ← Bool.not_eq_true, isDoubleDot_iff_of_decodePart hs,
      isSingleDot_iff_of_decodePart hs]
    exact ⟨h.2, h.1⟩

end Parts

/-! ## Transports and hosts -/

section Hosts

theorem transportOf_eq_ok_iff {named : Option Transport} {mode : Option SslMode} {t : Transport} :
    transportOf named mode = .ok t ↔
      (∀ t' ∈ named, t' = t) ∧ (∀ m ∈ mode, (t = .http ↔ m = .disable))
        ∧ (named = none → (t = .http ↔ mode = some .disable)) := by
  rcases named with _ | _ | _ <;> rcases mode with _ | _ | _ | _ <;> cases t <;> simp [transportOf]

/-- The schemes of a connection string are written as they are read, and have no port of their own. -/
theorem parse_dsnScheme {body : List Char} (hbody : ∀ c ∈ body, 0x20 < c.toNat) {scheme : String}
    (h : scheme ∈ ["databend", "databend+http", "databend+https"]) :
    Url.SchemeKind.ofScheme scheme = .other ∧ Url.defaultPort? scheme = none
      ∧ Url.parse (String.ofList (scheme.toList ++ ':' :: '/' :: '/' :: body))
        = Url.afterSlashes scheme body := by
  have hall : ∀ s ∈ ["databend", "databend+http", "databend+https"],
      Url.SchemeKind.ofScheme s = .other ∧ Url.defaultPort? s = none
        ∧ Url.IsScheme s.toList := by
    decide
  obtain ⟨hk, hport, hname⟩ := hall scheme h
  have hparse := Url.parse_opaque hname (by rw [String.ofList_toList]; exact hk) hbody
  rw [String.ofList_toList] at hparse
  exact ⟨hk, hport, hparse⟩

/-- A host is one that can be written if the URL of it has this very host. -/
theorem isHost_iff {s : String} :
    (∃ u, Url.parse ("databend://" ++ s) = .ok u ∧ u.host? = some s)
      ↔ ∃ h : Host, h.IsOpaque ∧ h.isEmpty = false ∧ s = h.text := by
  have hscheme : "databend" ∈ ["databend", "databend+http", "databend+https"] := by decide
  have htext : "databend://" ++ s
      = String.ofList ("databend".toList ++ ':' :: '/' :: '/' :: s.toList) := by
    apply String.ext
    simp
  constructor
  · rintro ⟨u, hu, hhost⟩
    obtain ⟨a, ha, hhost⟩ := Option.bind_eq_some_iff.1 hhost
    split at hhost
    · cases hhost
    · next hne =>
      have hother := hu
      rw [htext, Url.parse_scheme (by decide), Url.ofScheme] at hother
      have hk : Url.SchemeKind.ofScheme u.scheme = .other := by
        rw [Url.scheme_of_ofOther hother]
        rfl
      exact ⟨a.host, (Url.isOpaque_of_parse hu hk ha).host, by simpa using hne,
        (Option.some.inj hhost).symm⟩
  · rintro ⟨h, hh, hne, rfl⟩
    obtain ⟨hk, -, hparse⟩ := parse_dsnScheme (fun d hd => (Host.mem_text hh hd).1) hscheme
    rw [htext, hparse, Url.afterSlashes_text hk hh hne]
    exact ⟨_, rfl, by simp [Url.host?, Url.finish, hne]⟩

end Hosts

/-! ## Writing -/

section Writing

/-- The transport that a configuration names. -/
def named (c : Config) : Option Transport :=
  if c.isExplicit then some c.transport else none

/-- The options of a configuration as a query, if it has any. -/
def dsnQuery (c : Config) : Option (List Char) :=
  if c.dsnOptions = [] then none else some (Url.Form.encodePairs c.dsnOptions).toList

theorem dsn_eq (c : Config) :
    c.dsn = String.ofList (c.dsnScheme.toList ++ ':' :: '/' :: '/' ::
      ((encodePart c.credentials.user).toList
        ++ (c.credentials.password.map fun p => (encodePart p).toList).elim [] (':' :: ·) ++ '@' ::
        ((c.host.toList ++ Url.portChars (c.port.map UInt16.toNat)) ++ '/' ::
          ((encodePart (c.database.getD "")).toList ++ c.dsnQuery.elim [] ('?' :: ·))))) := by
  have hquery : (if (Url.Form.encodePairs c.dsnOptions).isEmpty then ""
      else "?" ++ Url.Form.encodePairs c.dsnOptions).toList
      = c.dsnQuery.elim [] ('?' :: ·) := by
    unfold dsnQuery
    by_cases h : c.dsnOptions = []
    · simp [h, Url.Form.encodePairs]
    · have hne : (Url.Form.encodePairs c.dsnOptions).isEmpty = false := by
        simpa [Url.Form.encodePairs_eq_empty_iff] using h
      simp [h, hne]
  apply String.ext
  simp only [dsn, String.toList_append, String.toList_ofList, hquery]
  cases c.credentials.password <;> cases c.port <;> simp [Url.portChars, Decimal.text]

theorem dsnScheme_mem (c : Config) :
    c.dsnScheme ∈ ["databend", "databend+http", "databend+https"] := by
  unfold dsnScheme
  split
  · cases c.transport <;> decide
  · decide

theorem transportOfScheme_dsnScheme (c : Config) :
    transportOfScheme c.dsnScheme = .ok c.named := by
  unfold dsnScheme named
  split
  · cases c.transport <;> rfl
  · rfl

theorem visible_of_mem_portChars {port : Option Nat} {c : Char} (hc : c ∈ Url.portChars port) :
    0x20 < c.toNat := by
  cases port with
  | none => cases hc
  | some n =>
    rcases List.mem_cons.1 hc with rfl | hc
    · decide
    · have hdigit := Decimal.isDigit_of_mem_digits hc
      simp only [Char.isDigit, Bool.and_eq_true, decide_eq_true_eq] at hdigit
      have hlow : '0'.toNat ≤ c.toNat := hdigit.1
      exact Nat.lt_of_lt_of_le (by decide) hlow

theorem mem_dsnQuery {q : List Char} (hq : q ∈ c.dsnQuery) {d : Char} (hd : d ∈ q) :
    Url.Percent.Leaves Url.querySet d ∧ 0x20 < d.toNat := by
  unfold dsnQuery at hq
  split at hq
  · cases hq
  · obtain rfl := Option.some.inj hq
    exact Url.Form.mem_encodePairs hd

/-- The connection string of a configuration as a URL. -/
def dsnUrl (c : Config) (h : Host) : Url where
  scheme := c.dsnScheme
  authority := some
    { username := encodePart c.credentials.user
      password := c.credentials.password.map encodePart
      host := h
      port := c.port.map UInt16.toNat }
  path := .segments [encodePart (c.database.getD "")]
  query := c.dsnQuery.map String.ofList

theorem parse_dsn {h : Host} (hh : h.IsOpaque) (hne : h.isEmpty = false) (htext : c.host = h.text)
    (hpassword : c.credentials.password ≠ some "")
    (hdb : c.database ∉ [some "", some ".", some ".."]) :
    Url.parse c.dsn = .ok (c.dsnUrl h) := by
  let password := c.credentials.password.map fun p => (encodePart p).toList
  let port := c.port.map UInt16.toNat
  have hpasswordChars : ∀ p ∈ password, p ≠ [] ∧ ∀ d ∈ p, Url.Percent.Leaves Url.userinfoSet d
      ∧ 0x20 < d.toNat := by
    intro p hp
    obtain ⟨q, hq, rfl⟩ := Option.map_eq_some_iff.1 hp
    refine ⟨fun hnil => hpassword ?_, fun d hd => ?_⟩
    · rw [hq, encodePart_eq_empty_iff.1 (String.toList_eq_nil_iff.1 hnil)]
    · exact ⟨(mem_encodePart hd).1, (mem_encodePart hd).2.2.1⟩
  have hportMax : ∀ n ∈ port, n ≤ 65535 := by
    intro n hn
    obtain ⟨p, -, rfl⟩ := Option.map_eq_some_iff.1 hn
    exact Nat.le_of_lt_succ p.toNat_lt
  have hsegment : IsSegment (encodePart (c.database.getD "")).toList := by
    refine isSegment_encodePart ?_
    cases hc : c.database with
    | none => decide
    | some db =>
      have hnot : db ≠ "" ∧ db ≠ "." ∧ db ≠ ".." := by simpa [hc] using hdb
      exact hnot.2
  have hvisible : ∀ d ∈ (encodePart c.credentials.user).toList
        ++ password.elim [] (':' :: ·) ++ '@' :: ((c.host.toList ++ Url.portChars port) ++ '/' ::
          ((encodePart (c.database.getD "")).toList ++ c.dsnQuery.elim [] ('?' :: ·))),
      0x20 < d.toNat := by
    simp only [List.forall_mem_append, List.forall_mem_cons]
    refine ⟨⟨fun d hd => (mem_encodePart hd).2.2.1, ?_⟩, by decide, ⟨fun d hd => ?_,
      fun d => visible_of_mem_portChars⟩, by decide, fun d hd => (mem_encodePart hd).2.2.1, ?_⟩
    · cases hp : password with
      | none => exact fun d hd => absurd hd List.not_mem_nil
      | some p =>
        exact List.forall_mem_cons.2 ⟨by decide, fun d hd => ((hpasswordChars p hp).2 d hd).2⟩
    · rw [htext] at hd
      exact (Host.mem_text hh hd).1
    · cases hq : c.dsnQuery with
      | none => exact fun d hd => absurd hd List.not_mem_nil
      | some q => exact List.forall_mem_cons.2 ⟨by decide, fun d hd => (mem_dsnQuery hq hd).2⟩
  obtain ⟨hk, hport, hparse⟩ := parse_dsnScheme hvisible c.dsnScheme_mem
  rw [dsn_eq, hparse, htext, Url.afterSlashes_login hk hport hh hne
      (fun d hd => (mem_encodePart hd).1)
      (fun p hp => ⟨(hpasswordChars p hp).1, fun d hd => ((hpasswordChars p hp).2 d hd).1⟩) hportMax,
    Url.finish_segment hk _ (fun d hd => (mem_encodePart hd).2.1) hsegment
      fun q hq d hd => (mem_dsnQuery hq hd).1]
  simp [dsnUrl, password, port, Function.comp_def]

theorem databaseOfPath_encodePart (hdb : c.database ≠ some "") :
    databaseOfPath (Path.segments [encodePart (c.database.getD "")]).text = .ok c.database := by
  have hslash : ∀ d ∈ (encodePart (c.database.getD "")).toList, decide (d = '/') = false :=
    fun d hd => decide_eq_false (mem_encodePart hd).2.2.2
  have htrim : trimWhile (· = '/') (Path.segments [encodePart (c.database.getD "")]).text.toList
      = (encodePart (c.database.getD "")).toList := by
    rw [Url.toList_text_segments, ← trimWhile_eq_self hslash]
    simp [trimWhile]
  unfold databaseOfPath
  rw [htrim, String.ofList_toList]
  cases hc : c.database with
  | none => rfl
  | some db =>
    have hne : encodePart db ≠ "" := by
      rw [Ne, encodePart_eq_empty_iff]
      rintro rfl
      exact hdb hc
    rw [Option.getD_some]
    split
    · next hempty => exact absurd hempty hne
    · rw [decodePart_encodePart]
      rfl

theorem ofAuthority_dsnUrl {h : Host} (hne : h.isEmpty = false) (htext : c.host = h.text)
    (hdb : c.database ≠ some "") :
    ofAuthority (c.dsnUrl h) = .ok
      { host := c.host, port := c.port, credentials := c.credentials, database := c.database } := by
  have hhost : (c.dsnUrl h).host? = some c.host := by simp [Url.host?, dsnUrl, hne, htext]
  have hpassword : (c.credentials.password.map encodePart).mapM (decodePart .password)
      = .ok c.credentials.password := by
    cases c.credentials.password with
    | none => rfl
    | some p =>
      rw [Option.map_some, Option.mapM_some, decodePart_encodePart]
      rfl
  have hport : (c.port.map UInt16.toNat).map UInt16.ofNat = c.port := by
    cases c.port <;> simp
  unfold ofAuthority
  rw [hhost]
  simp only [dsnUrl, decodePart_encodePart, hpassword, databaseOfPath_encodePart hdb, hport]
  rfl

theorem ofDsn_dsn (hw : c.IsWellFormed) : ofDsn c.dsn = .ok c.inWholeSeconds := by
  obtain ⟨h, hh, hne, htext⟩ := isHost_iff.1 hw.host
  have hdb : c.database ≠ some "" := fun hdb => hw.database (hdb ▸ List.mem_cons_self)
  have hpairs : Url.Form.pairs ((c.dsnUrl h).query.getD "") = c.dsnOptions := by
    unfold dsnUrl dsnQuery
    by_cases hnil : c.dsnOptions = []
    · rw [if_pos hnil, hnil]
      rfl
    · simp [hnil, Url.Form.pairs_encodePairs]
  have htransport : transportOf c.named c.inWholeSeconds.sslMode = .ok c.transport := by
    refine transportOf_eq_ok_iff.2 ⟨fun t ht => ?_, hw.mode, fun hnamed => hw.inferred ?_⟩
    · unfold named at ht
      split at ht
      · exact (Option.some.inj ht).symm
      · cases ht
    · simpa [named] using hnamed
  have hexplicit : c.named.isSome = c.isExplicit := by
    unfold named
    cases c.isExplicit <;> rfl
  have hscheme : transportOfScheme (c.dsnUrl h).scheme = .ok c.named :=
    transportOfScheme_dsnScheme c
  unfold ofDsn
  rw [parse_dsn hh hne htext hw.password hw.database]
  simp only [ofUrl, hscheme, ofAuthority_dsnUrl hne htext hdb, hpairs,
    withOptions_dsnOptions hw.settings hw.timeouts, bind, Except.bind, htransport, hexplicit]
  rfl

end Writing

/-! ## Reading -/

section Reading

theorem opaque_of_transportOfScheme {scheme : String} {named : Option Transport}
    (h : transportOfScheme scheme = .ok named) : Url.SchemeKind.ofScheme scheme = .other := by
  unfold transportOfScheme at h
  split at h
  case h_4 => cases h
  all_goals rfl

theorem dots_of_trimWhile {l : List String} (hl : ∀ t ∈ l, IsSegment t.toList) {s : List Char}
    (hs : trimWhile (· = '/') (Path.segments l).text.toList = s) (hne : s ≠ []) :
    ¬ Url.isDoubleDot s = true ∧ ¬ Url.isSingleDot s = true := by
  rw [Url.toList_text_segments] at hs
  have hslash : ∀ t ∈ l.map String.toList, '/' ∉ t := by
    intro t ht
    obtain ⟨seg, hseg, rfl⟩ := List.mem_map.1 ht
    exact (hl seg hseg).slash
  -- Dots have no slash, so they would be a segment.
  have hdots (hfree : '/' ∉ s) : Url.isDoubleDot s = false ∧ Url.isSingleDot s = false := by
    obtain ⟨seg, hseg, rfl⟩ := List.mem_map.1 (Url.mem_of_trimWhile hslash hs hne hfree)
    exact (hl seg hseg).dots hne
  constructor
  · intro h
    rw [(hdots (Url.not_mem_of_isDoubleDot h)).1] at h
    cases h
  · intro h
    rw [(hdots (Url.not_mem_of_isSingleDot h)).2] at h
    cases h

/-- No path names dots as a database. -/
theorem not_mem_of_databaseOfPath {l : List String} (hl : ∀ t ∈ l, IsSegment t.toList)
    {database : Option String} (h : databaseOfPath (Path.segments l).text = .ok database) :
    database ∉ [some "", some ".", some ".."] := by
  unfold databaseOfPath at h
  split at h
  · obtain rfl := Except.ok.inj h
    decide
  · next hne =>
    obtain ⟨db, hdb, h⟩ := exists_of_bind h
    obtain rfl := Except.ok.inj h
    obtain ⟨hdouble, hsingle⟩ :=
      dots_of_trimWhile hl rfl fun hnil => hne (String.toList_eq_nil_iff.1 (by simpa using hnil))
    rw [← String.toList_ofList (l := trimWhile _ _), isDoubleDot_iff_of_decodePart hdb] at hdouble
    rw [← String.toList_ofList (l := trimWhile _ _), isSingleDot_iff_of_decodePart hdb] at hsingle
    have hempty : db ≠ "" := fun h => hne ((decodePart_eq_empty_iff hdb).1 h)
    simp [hempty, hsingle, hdouble]

theorem password_ne_empty {password decoded : Option String} (hne : password ≠ some "")
    (h : password.mapM (decodePart .password) = .ok decoded) : decoded ≠ some "" := by
  cases password with
  | none =>
    obtain rfl := Except.ok.inj h
    simp
  | some p =>
    obtain ⟨q, hq, h⟩ := exists_of_bind h
    obtain rfl := Except.ok.inj h
    rintro hempty
    have hp := (decodePart_eq_empty_iff hq).1 (Option.some.inj hempty)
    exact hne (congrArg some hp)

theorem ofAuthority_ok {u : Url} (h : ofAuthority u = .ok c) :
    ∃ a, u.authority = some a ∧ a.host.isEmpty = false ∧ c.host = a.host.text
      ∧ a.password.mapM (decodePart .password) = .ok c.credentials.password
      ∧ databaseOfPath u.path.text = .ok c.database ∧ c.settings.entries = [] ∧ c.timeouts = []
      ∧ c.port = a.port.map UInt16.ofNat := by
  unfold ofAuthority at h
  split at h
  · next host a hhost ha =>
    obtain ⟨user, -, h⟩ := exists_of_bind h
    obtain ⟨password, hpassword, h⟩ := exists_of_bind h
    obtain ⟨database, hdatabase, h⟩ := exists_of_bind h
    obtain rfl := Except.ok.inj h
    have hsome : a.host.isEmpty = false ∧ a.host.text = host := by
      simpa [Url.host?, ha] using hhost
    exact ⟨a, ha, hsome.1, hsome.2.symm, hpassword, hdatabase, rfl, rfl, rfl⟩
  · cases h

theorem isWellFormed_of_ofDsn {text : String} (h : ofDsn text = .ok c) :
    c.IsWellFormed ∧ ∀ d ∈ c.timeouts, ∃ n, d = .ofSeconds n := by
  unfold ofDsn at h
  split at h
  · next u hu =>
    obtain ⟨named, hnamed, h⟩ := exists_of_bind h
    obtain ⟨start, hstart, h⟩ := exists_of_bind h
    obtain ⟨read, hread, h⟩ := exists_of_bind h
    obtain ⟨transport, htransport, h⟩ := exists_of_bind h
    obtain rfl := Except.ok.inj h
    obtain ⟨a, ha, hne, hhost, hpassword, hdatabase, hentries, htimeouts, -⟩ :=
      ofAuthority_ok hstart
    have ho := Url.isOpaque_of_parse hu (opaque_of_transportOfScheme hnamed) ha
    obtain ⟨l, hl, hsegments⟩ := ho.path
    have hreadable : start.IsReadable :=
      ⟨by simp [hentries], by simp [htimeouts]⟩
    obtain ⟨hreadable, hhost', huser', hdb'⟩ := hreadable.withOptions hread
    obtain ⟨-, hmode, hinferred⟩ := transportOf_eq_ok_iff.1 htransport
    rw [hl] at hdatabase
    refine ⟨⟨isHost_iff.2 ⟨a.host, ho.host, hne, hhost'.trans hhost⟩, ?_, ?_, hreadable.settings,
      hmode, fun hnot => hinferred (by simpa using hnot), fun d hd => ?_⟩, fun d hd => ?_⟩
    · change read.credentials.password ≠ some ""
      rw [huser']
      exact password_ne_empty ho.password hpassword
    · change read.database ∉ _
      rw [hdb']
      exact not_mem_of_databaseOfPath hsegments hdatabase
    · obtain ⟨n, hpos, hn, rfl⟩ := hreadable.timeouts d hd
      unfold Duration.IsWritable Duration.ofSeconds
      unfold UInt64.size at hn ⊢
      dsimp only
      omega
    · obtain ⟨n, -, -, hn⟩ := hreadable.timeouts d hd
      exact ⟨n, hn⟩
  · cases h

theorem inWholeSeconds_eq_self (h : ∀ d ∈ c.timeouts, ∃ n, d = .ofSeconds n) :
    c.inWholeSeconds = c := by
  have hmap {timeout : Option Duration} (ht : ∀ d, timeout = some d → d ∈ c.timeouts) :
      timeout.map Duration.wholeSeconds = timeout := by
    cases timeout with
    | none => rfl
    | some d =>
      obtain ⟨n, rfl⟩ := h d (ht d rfl)
      rw [Option.map_some, Duration.wholeSeconds_ofSeconds]
  unfold inWholeSeconds
  rw [hmap fun d hd => mem_timeouts.2 (.inl hd), hmap fun d hd => mem_timeouts.2 (.inr (.inl hd)),
    hmap fun d hd => mem_timeouts.2 (.inr (.inr hd))]

end Reading

/-- What is read can be written, what can be written is read back in whole seconds, and what was read
is read back as it was. -/
theorem dsn_roundTrip :
    (∀ text c, ofDsn text = .ok c → c.IsWellFormed ∧ ∀ d ∈ c.timeouts, ∃ n, d = .ofSeconds n)
      ∧ (∀ c : Config, c.IsWellFormed → ofDsn c.dsn = .ok c.inWholeSeconds)
      ∧ ∀ text c, ofDsn text = .ok c → ofDsn c.dsn = .ok c := by
  refine ⟨fun _ _ => isWellFormed_of_ofDsn, fun _ => ofDsn_dsn, fun text c h => ?_⟩
  obtain ⟨hw, hwhole⟩ := isWellFormed_of_ofDsn h
  rw [ofDsn_dsn hw, inWholeSeconds_eq_self hwhole]

theorem dsn_roundTrip_address :
    ofDsn "databend://a%20b:@[::1]//x/y/?connect_timeout=3" = .ok
        { host := "[::1]", credentials := ⟨"a b", none⟩, database := some "x/y",
          connectTimeout := some (.ofSeconds 3) }
      ∧ ofDsn (dsn
        { host := "[::1]", credentials := ⟨"a b", none⟩, database := some "x/y",
          connectTimeout := some (.ofSeconds 3) }) = .ok
        { host := "[::1]", credentials := ⟨"a b", none⟩, database := some "x/y",
          connectTimeout := some (.ofSeconds 3) }
      ∧ ofDsn (dsn
        { host := "[::1]", credentials := ⟨"a b", none⟩, database := some "x/y",
          connectTimeout := some (.ofMilliseconds 1500) }) = .ok
        { host := "[::1]", credentials := ⟨"a b", none⟩, database := some "x/y",
          connectTimeout := some (.ofSeconds 2) } := by
  have hread : ofDsn "databend://a%20b:@[::1]//x/y/?connect_timeout=3" = .ok
        { host := "[::1]", credentials := ⟨"a b", none⟩, database := some "x/y",
          connectTimeout := some (.ofSeconds 3) } := by
    decide +kernel
  have hw := (dsn_roundTrip.1 _ _ hread).1
  refine ⟨hread, dsn_roundTrip.2.2 _ _ hread, dsn_roundTrip.2.1 _ { hw with timeouts := ?_ }⟩
  intro d hd
  obtain rfl := List.mem_singleton.1 hd
  unfold Duration.IsWritable Duration.ofMilliseconds
  decide

end Config

end QueryClient
