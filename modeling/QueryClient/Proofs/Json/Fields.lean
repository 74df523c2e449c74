import QueryClient.Json.Fields

/-!
# Members and the readers of their values

The member that is found under a name is the first one, so it does not depend on the order of the
members when the name occurs once (`member?_perm`). A text, a number and a map of texts are each
read from one tree only (`text?_eq_some_iff`, `natural?_eq_some_iff`, `textMap?_eq_some_iff`).
-/

namespace QueryClient.Json

/-! ## Members -/

section Members

variable {name : String} {ms ms' : List (Option String × Json)} {v : Json}

theorem occurrences_cons (name : String) (m : Option String × Json)
    (ms : List (Option String × Json)) :
    occurrences name (m :: ms) = occurrences name ms + if m.1 = some name then 1 else 0 := by
  simp [occurrences, List.countP_cons]

theorem occurrences_eq_count : occurrences name ms = (ms.map (·.1)).count (some name) := by
  rw [occurrences, List.count, List.countP_map]
  exact List.countP_congr fun m _ => by simp

theorem occurrences_eq_zero_iff : occurrences name ms = 0 ↔ ∀ m ∈ ms, m.1 ≠ some name := by
  simp [occurrences, List.countP_eq_zero]

theorem member?_eq_none_iff : member? name ms = none ↔ ∀ m ∈ ms, m.1 ≠ some name := by
  simp [member?]

theorem mem_of_member? (h : member? name ms = some v) : (some name, v) ∈ ms := by
  obtain ⟨m, hm, rfl⟩ := Option.map_eq_some_iff.1 h
  have hname := List.find?_some hm
  rw [decide_eq_true_eq] at hname
  exact hname ▸ List.mem_of_find?_eq_some hm

theorem member?_cons (name : String) (m : Option String × Json) (ms : List (Option String × Json)) :
    member? name (m :: ms) = if m.1 = some name then some m.2 else member? name ms := by
  by_cases h : m.1 = some name <;> simp [member?, h]

theorem member?_append (name : String) (ms ms' : List (Option String × Json)) :
    member? name (ms ++ ms') = (member? name ms).or (member? name ms') := by
  simp [member?, List.find?_append, Option.map_or]

/-- The member of a name that occurs once is the one with the name. -/
theorem member?_eq_some_iff (h : occurrences name ms ≤ 1) :
    member? name ms = some v ↔ (some name, v) ∈ ms := by
  induction ms with
  | nil => simp [member?]
  | cons m ms ih =>
    rw [occurrences_cons] at h
    rw [member?_cons, List.mem_cons]
    split
    · next hm =>
      rw [if_pos hm] at h
      have hno : (some name, v) ∉ ms := fun hv =>
        occurrences_eq_zero_iff.1 (by omega) _ hv rfl
      obtain ⟨m, w⟩ := m
      obtain rfl : m = some name := hm
      simp [hno, eq_comm]
    · next hm =>
      rw [if_neg hm] at h
      have hne : (some name, v) ≠ m := fun he => hm (congrArg Prod.fst he).symm
      rw [ih h, or_iff_right hne]

theorem member?_perm (hp : ms.Perm ms') (h : occurrences name ms ≤ 1) :
    member? name ms = member? name ms' := by
  have h' : occurrences name ms' ≤ 1 := by rwa [occurrences, ← hp.countP_eq]
  ext v
  rw [member?_eq_some_iff h, member?_eq_some_iff h', hp.mem_iff]

end Members

/-! ## Values -/

/-- Where every value is read from one tree only, so is every list of them. -/
theorem mapM_eq_some_iff {α β : Type} {f : α → Option β} {g : β → α}
    (h : ∀ a b, f a = some b ↔ a = g b) {l : List α} {bs : List β} :
    l.mapM f = some bs ↔ l = bs.map g := by
  induction l generalizing bs with
  | nil => cases bs <;> simp
  | cons a l ih =>
    rw [List.mapM_cons]
    cases bs <;> simp [Option.bind_eq_some_iff, h, ih]

section Values

variable {j : Json}

theorem text?_eq_some_iff {s : String} : text? j = some s ↔ j = .ofString s := by
  cases j <;> simp [text?, Json.ofString]

theorem natural?_eq_some_iff {max n : Nat} : natural? max j = some n ↔ n ≤ max ∧ j = .ofNat n := by
  cases j with
  | number k =>
    obtain ⟨negative, whole, fraction, exponent⟩ := k
    simp only [natural?, Number.natural?, Json.ofNat, Option.ite_none_right_eq_some,
      Option.some.injEq, Json.number.injEq, Number.mk.injEq]
    constructor
    · rintro ⟨⟨hn, hf, he, hle⟩, rfl⟩
      exact ⟨hle, hn, rfl, hf, he⟩
    · rintro ⟨hle, hn, rfl, hf, he⟩
      exact ⟨⟨hn, hf, he, hle⟩, rfl⟩
  | _ => simp [natural?, Json.ofNat]

theorem uint64?_eq_some_iff {n : UInt64} : uint64? j = some n ↔ j = .ofNat n.toNat := by
  rw [uint64?, Option.map_eq_some_iff]
  constructor
  · rintro ⟨k, hk, rfl⟩
    obtain ⟨hle, rfl⟩ := natural?_eq_some_iff.1 hk
    rw [UInt64.toNat_ofNat_of_lt' (Nat.lt_of_le_sub_one (by decide) hle)]
  · rintro rfl
    exact ⟨n.toNat, natural?_eq_some_iff.2 ⟨Nat.le_sub_one_of_lt n.toNat_lt, rfl⟩, n.ofNat_toNat⟩

theorem textMap?_eq_some_iff {l : List (String × String)} :
    textMap? j = some l ↔ j = .object (l.map fun e => (some e.1, .ofString e.2)) := by
  cases j with
  | object ms =>
    rw [textMap?, Json.object.injEq]
    refine mapM_eq_some_iff fun m e => ?_
    obtain ⟨name, v⟩ := m
    obtain ⟨k, t⟩ := e
    simp [Option.bind_eq_some_iff, text?_eq_some_iff]
  | _ => simp [textMap?]

end Values

end QueryClient.Json
