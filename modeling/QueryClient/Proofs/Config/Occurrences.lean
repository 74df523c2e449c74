import Mathlib.Data.List.Nodup
import QueryClient.Proofs.Config.Options
import QueryClient.Proofs.Text.Numerals

/-!
# Options one by one

Which options a connection string may have (`IsAccepted`), and what each of them leaves behind
(`Holds`): an option writes its own place and no other (`sets_of_withOption`). So of the options with
one name the last one counts, and all others only have to be acceptable (`setsAll_of_withOptions`,
`exists_withOptions_iff`). A configuration with given options is determined by its address and its
transport (`eq_of_holds`).
-/

namespace QueryClient

open Text

namespace Config

open Decimal

/-! ## Single options -/

/-- Whether an option may stand in a connection string. -/
def IsAccepted (key value : String) : Prop :=
  match key with
  | "sslmode" => value ∈ ["disable", "require", "enable"]
  | "wait_time_secs" | "max_rows_in_buffer" | "max_rows_per_page" =>
    ∃ n < 2 ^ 64, IsNatural value.toList n
  | "page_request_timeout_secs" | "connect_timeout" | "load_timeout_secs" =>
    ∃ n, 0 < n ∧ n < 2 ^ 64 ∧ IsNatural value.toList n
  | _ => True

/-- Whether a text is that of a number. -/
def Counts (value : String) (n : UInt64) : Prop :=
  IsNatural value.toList n.toNat

/-- Whether a text is that of a number of seconds. -/
def Lasts (value : String) (d : Duration) : Prop :=
  ∃ n, IsNatural value.toList n ∧ d = .ofSeconds n

/-- Whether a configuration has the value of an option, or none if the option is missing. -/
def Holds (c : Config) (key : String) (value : Option String) : Prop :=
  match key with
  | "sslmode" => value = c.sslMode.map SslMode.text
  | "wait_time_secs" => Option.Rel Counts value c.pagination.waitSeconds
  | "max_rows_in_buffer" => Option.Rel Counts value c.pagination.bufferRows
  | "max_rows_per_page" => Option.Rel Counts value c.pagination.pageRows
  | "page_request_timeout_secs" => Option.Rel Lasts value c.pageTimeout
  | "connect_timeout" => Option.Rel Lasts value c.connectTimeout
  | "load_timeout_secs" => Option.Rel Lasts value c.loadTimeout
  | "tenant" => value = c.tenant
  | "warehouse" => value = c.warehouse
  | key => value = c.settings.get? key

section Single

variable {c d : Config} {key value : String}

theorem count_eq_ok_iff {n : UInt64} : count key value = .ok n ↔ Counts value n := by
  have hpos : 0 < UInt64.size := by decide
  have hlt : n.toNat < UInt64.size := n.toNat_lt
  unfold count Counts
  split
  · next m hm =>
    obtain ⟨hread, hle⟩ := readNat?_eq_some_iff.1 hm
    have hof : (UInt64.ofNat m).toNat = m := UInt64.toNat_ofNat_of_lt' (by omega)
    constructor
    · rintro h
      rwa [← Except.ok.inj h, hof]
    · intro hn
      have hboth := readNat?_eq_some_iff.2 ⟨hn, show n.toNat ≤ UInt64.size - 1 by omega⟩
      rw [hm] at hboth
      rw [Option.some.inj hboth, UInt64.ofNat_toNat]
  · next hnone =>
    constructor
    · nofun
    · intro hn
      rw [readNat?_eq_some_iff.2 ⟨hn, show n.toNat ≤ UInt64.size - 1 by omega⟩] at hnone
      cases hnone

theorem exists_count_iff : (∃ n, count key value = .ok n) ↔ ∃ n < 2 ^ 64, IsNatural value.toList n := by
  simp only [count_eq_ok_iff, Counts]
  constructor
  · rintro ⟨n, hn⟩
    exact ⟨_, n.toNat_lt, hn⟩
  · rintro ⟨n, hlt, hn⟩
    refine ⟨UInt64.ofNat n, ?_⟩
    rwa [UInt64.toNat_ofNat_of_lt' hlt]

theorem seconds_eq_ok_iff {d : Duration} :
    seconds key value = .ok d ↔ ∃ n : UInt64, n ≠ 0 ∧ Counts value n ∧ d = .ofSeconds n.toNat := by
  constructor
  · intro h
    obtain ⟨n, hn, h⟩ := exists_of_bind h
    split at h
    · cases h
    · next hne =>
      exact ⟨n, hne, count_eq_ok_iff.1 hn, (Except.ok.inj h).symm⟩
  · rintro ⟨n, hne, hn, rfl⟩
    simp only [seconds, count_eq_ok_iff.2 hn, bind, Except.bind, hne, if_false]
    rfl

theorem exists_seconds_iff :
    (∃ d, seconds key value = .ok d) ↔ ∃ n, 0 < n ∧ n < 2 ^ 64 ∧ IsNatural value.toList n := by
  simp only [seconds_eq_ok_iff, Counts]
  constructor
  · rintro ⟨d, n, hne, hn, -⟩
    exact ⟨_, Nat.pos_of_ne_zero fun hz => hne (UInt64.toNat_inj.1 hz), n.toNat_lt, hn⟩
  · rintro ⟨n, hpos, hlt, hn⟩
    have hof : (UInt64.ofNat n).toNat = n := UInt64.toNat_ofNat_of_lt' hlt
    refine ⟨_, UInt64.ofNat n, ?_, by rwa [hof], rfl⟩
    rintro hz
    rw [hz, UInt64.toNat_zero] at hof
    omega

theorem ofText_eq_ok_iff {m : SslMode} : SslMode.ofText value = .ok m ↔ value = m.text := by
  constructor
  · intro h
    unfold SslMode.ofText at h
    split at h <;> cases h <;> rfl
  · rintro rfl
    exact ofText_text m

/-- What taking an option over does. -/
structure Sets (c : Config) (key value : String) (d : Config) : Prop where
  holds : d.Holds key (some value)
  others : ∀ k ≠ key, ∀ v, c.Holds k v → d.Holds k v
  settings : ∀ k ∈ optionNames, d.settings.get? k = c.settings.get? k
  host : d.host = c.host
  port : d.port = c.port
  credentials : d.credentials = c.credentials
  database : d.database = c.database

theorem holds_of_not_mem (h : key ∉ optionNames) (c : Config) (value : Option String) :
    c.Holds key value ↔ value = c.settings.get? key := by
  unfold Holds
  split <;> simp_all [optionNames]

theorem sets_withSetting (h : key ∉ optionNames) (value : String) :
    Sets c key value (c.withSetting key value) where
  holds := by
    rw [holds_of_not_mem h, withSetting, SortedMap.get?_insert, if_pos rfl]
  others k hk v hv := by
    by_cases hmem : k ∈ optionNames
    · revert hv
      simp only [optionNames, List.mem_cons, List.not_mem_nil, or_false] at hmem
      rcases hmem with rfl | rfl | rfl | rfl | rfl | rfl | rfl | rfl | rfl <;> exact id
    · rw [holds_of_not_mem hmem] at hv ⊢
      rw [withSetting, SortedMap.get?_insert, if_neg hk, hv]
  settings k hk := by
    rw [withSetting, SortedMap.get?_insert, if_neg]
    rintro rfl
    exact h hk
  host := rfl
  port := rfl
  credentials := rfl
  database := rfl

theorem exists_of_map_iff {α β ε : Type} {x : Except ε α} {f : α → β} :
    (∃ b, (do return f (← x)) = Except.ok b) ↔ ∃ a, x = .ok a := by
  cases x with
  | error e => simp [bind, Except.bind]
  | ok a => simp [bind, Except.bind, pure, Except.pure]

theorem exists_withOption_iff : (∃ d, c.withOption key value = .ok d) ↔ IsAccepted key value := by
  unfold withOption IsAccepted
  split
  case h_1 =>
    rw [exists_of_map_iff]
    simp only [ofText_eq_ok_iff]
    constructor
    · rintro ⟨m, rfl⟩
      cases m <;> decide
    · intro h
      simp only [List.mem_cons, List.not_mem_nil, or_false] at h
      rcases h with rfl | rfl | rfl
      exacts [⟨.disable, rfl⟩, ⟨.require, rfl⟩, ⟨.enable, rfl⟩]
  case h_2 | h_3 | h_4 => exact exists_of_map_iff.trans exists_count_iff
  case h_5 | h_6 | h_7 => exact exists_of_map_iff.trans exists_seconds_iff
  case h_8 | h_9 => simp [pure, Except.pure]
  case h_10 => simp_all [pure, Except.pure]

theorem lasts_of_seconds {e : Duration} (h : seconds key value = .ok e) : Lasts value e := by
  obtain ⟨n, -, hn, rfl⟩ := seconds_eq_ok_iff.1 h
  exact ⟨_, hn, rfl⟩

/-- A known option leaves the settings and the address as they are. -/
theorem sets_of_mem (hholds : d.Holds key (some value))
    (hothers : ∀ k ∈ optionNames, k ≠ key → ∀ v, c.Holds k v → d.Holds k v)
    (hsame : d = { d with
      settings := c.settings, host := c.host, port := c.port, credentials := c.credentials,
      database := c.database }) : Sets c key value d := by
  have hsettings : d.settings = c.settings := by rw [hsame]
  refine ⟨hholds, fun k hk v hv => ?_, fun k _ => by rw [hsettings], by rw [hsame], by rw [hsame],
    by rw [hsame], by rw [hsame]⟩
  by_cases hmem : k ∈ optionNames
  · exact hothers k hmem hk v hv
  · rw [holds_of_not_mem hmem] at hv ⊢
    rw [hsettings, hv]

/-- Options with different names have different places. -/
theorem sets_of_withOption (h : c.withOption key value = .ok d) : Sets c key value d := by
  by_cases hmem : key ∈ optionNames
  · unfold withOption at h
    split at h
    case h_1 =>
      obtain ⟨m, hm, h⟩ := exists_of_bind h
      obtain rfl := Except.ok.inj h
      exact sets_of_mem (congrArg some (ofText_eq_ok_iff.1 hm)) (by simp [optionNames, Holds]) rfl
    case h_2 | h_3 | h_4 =>
      obtain ⟨n, hn, h⟩ := exists_of_bind h
      obtain rfl := Except.ok.inj h
      exact sets_of_mem (.some (count_eq_ok_iff.1 hn)) (by simp [optionNames, Holds]) rfl
    case h_5 | h_6 | h_7 =>
      obtain ⟨e, he, h⟩ := exists_of_bind h
      obtain rfl := Except.ok.inj h
      exact sets_of_mem (.some (lasts_of_seconds he)) (by simp [optionNames, Holds]) rfl
    case h_8 | h_9 =>
      obtain rfl := Except.ok.inj h
      exact sets_of_mem rfl (by simp [optionNames, Holds]) rfl
    case h_10 => simp_all [optionNames]
  · rw [withOption_of_not_mem hmem] at h
    obtain rfl := Except.ok.inj h
    exact sets_withSetting hmem value

end Single

/-! ## Lists of options -/

/-- The value of the last option with a name. -/
def lastValue (options : List (String × String)) (key : String) : Option String :=
  options.reverse.lookup key

section Lists

variable {c d : Config} {l m : List (String × String)} {key : String}

theorem lastValue_cons (e : String × String) (l : List (String × String)) (key : String) :
    lastValue (e :: l) key = (lastValue l key).or (if key = e.1 then some e.2 else none) := by
  rw [lastValue, List.reverse_cons, List.lookup_append, SortedMap.lookup_cons_eq_ite]
  rfl

theorem lastValue_eq_some_iff (hn : (l.map Prod.fst).Nodup) {value : String} :
    lastValue l key = some value ↔ (key, value) ∈ l := by
  have hne : l.reverse.Pairwise fun a b => a.1 ≠ b.1 :=
    List.pairwise_reverse.2 ((List.pairwise_map.1 hn).imp Ne.symm)
  rw [← List.mem_reverse]
  exact ⟨SortedMap.mem_of_lookup, SortedMap.lookup_of_mem hne⟩

/-- The order of options with different names does not matter. -/
theorem lastValue_perm (h : l.Perm m) (hn : (l.map Prod.fst).Nodup) (key : String) :
    lastValue l key = lastValue m key := by
  have hm : (m.map Prod.fst).Nodup := (h.map Prod.fst).nodup_iff.1 hn
  exact Option.ext fun value => by
    rw [lastValue_eq_some_iff hn, lastValue_eq_some_iff hm, h.mem_iff]

/-- What taking options over in order does. -/
structure SetsAll (c : Config) (l : List (String × String)) (d : Config) : Prop where
  holds : ∀ key v, c.Holds key v → d.Holds key ((lastValue l key).or v)
  settings : ∀ key ∈ optionNames, d.settings.get? key = c.settings.get? key
  host : d.host = c.host
  port : d.port = c.port
  credentials : d.credentials = c.credentials
  database : d.database = c.database

theorem setsAll_of_withOptions (h : c.withOptions l = .ok d) : SetsAll c l d := by
  induction l generalizing c with
  | nil =>
    obtain rfl := Except.ok.inj h
    exact ⟨fun _ _ h => h, fun _ _ => rfl, rfl, rfl, rfl, rfl⟩
  | cons e l ih =>
    obtain ⟨next, hnext, h⟩ := exists_of_bind h
    have hs := sets_of_withOption hnext
    have hrest := ih h
    refine ⟨fun key v hv => ?_, fun key hk => (hrest.settings key hk).trans (hs.settings key hk),
      hrest.host.trans hs.host, hrest.port.trans hs.port,
      hrest.credentials.trans hs.credentials, hrest.database.trans hs.database⟩
    rw [lastValue_cons, Option.or_assoc]
    by_cases hkey : key = e.1
    · rw [if_pos hkey]
      exact hrest.holds key (some e.2) (hkey ▸ hs.holds)
    · rw [if_neg hkey]
      exact hrest.holds key v (hs.others key hkey v hv)

theorem exists_withOptions_iff :
    (∃ d, c.withOptions l = .ok d) ↔ ∀ e ∈ l, IsAccepted e.1 e.2 := by
  induction l generalizing c with
  | nil => exact ⟨fun _ => nofun, fun _ => ⟨c, rfl⟩⟩
  | cons e l ih =>
    rw [List.forall_mem_cons]
    constructor
    · rintro ⟨d, h⟩
      obtain ⟨next, hnext, h⟩ := exists_of_bind h
      exact ⟨exists_withOption_iff.1 ⟨next, hnext⟩, ih.1 ⟨d, h⟩⟩
    · rintro ⟨he, hl⟩
      obtain ⟨next, hnext⟩ := (exists_withOption_iff (c := c)).2 he
      obtain ⟨d, hd⟩ := (ih (c := next)).2 hl
      exact ⟨d, by simp only [withOptions, hnext, bind, Except.bind, hd]⟩

theorem eq_of_rel {α β : Type} {r : α → β → Prop} (hr : ∀ a b b', r a b → r a b' → b = b')
    {x : Option α} {y y' : Option β} (h : Option.Rel r x y) (h' : Option.Rel r x y') : y = y' := by
  cases h with
  | none => cases h'; rfl
  | some h => cases h' with
    | some h' => rw [hr _ _ _ h h']

theorem isNatural_unique {s : List Char} {n n' : Nat} (h : IsNatural s n) (h' : IsNatural s n') :
    n = n' := by
  have hn := readNat?_eq_some_iff.2 ⟨h, Nat.le_max_left n n'⟩
  rw [readNat?_eq_some_iff.2 ⟨h', Nat.le_max_right n n'⟩] at hn
  exact (Option.some.inj hn).symm

theorem Counts.eq {value : String} {n n' : UInt64} (h : Counts value n) (h' : Counts value n') :
    n = n' :=
  UInt64.toNat_inj.1 (isNatural_unique h h')

theorem Lasts.eq {value : String} {e e' : Duration} (h : Lasts value e) (h' : Lasts value e') :
    e = e' := by
  obtain ⟨n, hn, rfl⟩ := h
  obtain ⟨n', hn', rfl⟩ := h'
  rw [isNatural_unique hn hn']

/-- Two configurations with the same options differ in their addresses and transports only. -/
theorem eq_of_holds {value : String → Option String} (hc : ∀ key, c.Holds key (value key))
    (hd : ∀ key, d.Holds key (value key))
    (hsettings : ∀ key ∈ optionNames, c.settings.get? key = d.settings.get? key) :
    d = { c with
      host := d.host, port := d.port, credentials := d.credentials, database := d.database,
      transport := d.transport, isExplicit := d.isExplicit } := by
  have hrel {α : Type} {r : String → α → Prop} (hr : ∀ a b b', r a b → r a b' → b = b')
      {key : String} {x y : Option α} (hx : Option.Rel r (value key) x)
      (hy : Option.Rel r (value key) y) : y = x := eq_of_rel hr hy hx
  have hcounts : ∀ a n n', Counts a n → Counts a n' → n = n' := fun _ _ _ => Counts.eq
  have hlasts : ∀ a e e', Lasts a e → Lasts a e' → e = e' := fun _ _ _ => Lasts.eq
  have hmode : d.sslMode = c.sslMode := by
    have htext : d.sslMode.map SslMode.text = c.sslMode.map SslMode.text :=
      (hd "sslmode").symm.trans (hc "sslmode")
    refine Option.map_injective (fun m m' h => ?_) htext
    cases m <;> cases m' <;> first | rfl | exact absurd h (by decide)
  have hwait := hrel hcounts (hc "wait_time_secs") (hd "wait_time_secs")
  have hbuffer := hrel hcounts (hc "max_rows_in_buffer") (hd "max_rows_in_buffer")
  have hrows := hrel hcounts (hc "max_rows_per_page") (hd "max_rows_per_page")
  have hpage := hrel hlasts (hc "page_request_timeout_secs") (hd "page_request_timeout_secs")
  have hconnect := hrel hlasts (hc "connect_timeout") (hd "connect_timeout")
  have hload := hrel hlasts (hc "load_timeout_secs") (hd "load_timeout_secs")
  have htenant : d.tenant = c.tenant := (hd "tenant").symm.trans (hc "tenant")
  have hwarehouse : d.warehouse = c.warehouse := (hd "warehouse").symm.trans (hc "warehouse")
  have hmap : d.settings = c.settings := by
    refine SortedMap.eq_of_get? fun key => ?_
    by_cases hkey : key ∈ optionNames
    · exact (hsettings key hkey).symm
    · rw [← (holds_of_not_mem hkey c _).1 (hc key), ← (holds_of_not_mem hkey d _).1 (hd key)]
  obtain ⟨transport, isExplicit, mode, host, port, credentials, database, tenant, warehouse,
    ⟨wait, buffer, rows⟩, page, connect, load, settings⟩ := d
  dsimp only at *
  rw [hmode, hwait, hbuffer, hrows, hpage, hconnect, hload, htenant, hwarehouse, hmap]

end Lists

end Config

end QueryClient
