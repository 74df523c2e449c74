import QueryClient.Http.Header
import QueryClient.Proofs.SortedMap
import QueryClient.Proofs.Text.Letters

/-!
# Names of fields

Of the fields with one name the last one counts, whatever letters their names are written in
(`get?_insertHeaders`). In ascending order that is the one that is written in small letters, if there
is one (`lastNamed_of_get?`): capital letters come before them (`canonicalName_not_lt`).
-/

namespace QueryClient.Http

/-- The value of the last field with a name, which is the one that counts. -/
def lastNamed (name : String) : List (String × String) → Option String
  | [] => none
  | f :: rest => (lastNamed name rest).or (if canonicalName f.1 = name then some f.2 else none)

section LastNamed

variable {name : String}

theorem lastNamed_append (a b : List (String × String)) :
    lastNamed name (a ++ b) = (lastNamed name b).or (lastNamed name a) := by
  induction a with
  | nil => simp [lastNamed]
  | cons f a ih => simp [lastNamed, ih, Option.or_assoc]

theorem lastNamed_insertEntry {k : String} (hk : canonicalName k ≠ name) (v : String)
    (l : List (String × String)) :
    lastNamed name (SortedMap.insertEntry k v l) = lastNamed name l := by
  induction l with
  | nil => simp [SortedMap.insertEntry, lastNamed, hk]
  | cons f l ih =>
    rw [SortedMap.insertEntry]
    split
    · simp [lastNamed, hk]
    · split
      · next he => simp [lastNamed, hk, ← he]
      · simp [lastNamed, ih]

theorem lastNamed_eq_none {l : List (String × String)} (h : ∀ f ∈ l, canonicalName f.1 ≠ name) :
    lastNamed name l = none := by
  induction l with
  | nil => rfl
  | cons f l ih =>
    obtain ⟨hf, hl⟩ := List.forall_mem_cons.1 h
    rw [lastNamed, ih hl, if_neg hf]
    rfl

/-- A field counts if it is the only one of its name. -/
theorem lastNamed_eq_some {l : List (String × String)} {f : String × String} (hf : f ∈ l)
    (hname : canonicalName f.1 = name) (hone : ∀ g ∈ l, canonicalName g.1 = name → g = f) :
    lastNamed name l = some f.2 := by
  induction l with
  | nil => exact absurd hf List.not_mem_nil
  | cons g l ih =>
    obtain ⟨hg, hl⟩ := List.forall_mem_cons.1 hone
    rw [lastNamed]
    by_cases hmem : f ∈ l
    · rw [ih hmem hl, Option.some_or]
    · obtain rfl : f = g := (List.mem_cons.1 hf).resolve_right hmem
      rw [lastNamed_eq_none fun g hg he => hmem (hl g hg he ▸ hg), if_pos hname, Option.none_or]

theorem get?_insertHeaders {h h' : Headers} {l : List (String × String)}
    (hh : insertHeaders h l = .ok h') : h'.get? name = (lastNamed name l).or (h.get? name) := by
  induction l generalizing h with
  | nil =>
    obtain rfl : h = h' := by simpa [insertHeaders] using hh
    simp [lastNamed]
  | cons f l ih =>
    unfold insertHeaders at hh
    obtain ⟨h₁, hf, hh⟩ := exists_of_bind hh
    have hfirst : h₁ = h.insert (canonicalName f.1) f.2 := by
      unfold insertHeader at hf
      split at hf
      · simp at hf
      · split at hf <;> simp at hf
        exact hf.symm
    rw [ih hh, hfirst, SortedMap.get?_insert, lastNamed]
    cases lastNamed name l <;> by_cases hn : name = canonicalName f.1 <;> simp [hn, eq_comm]

end LastNamed

/-! ## Order -/

/-- No name comes behind itself in small letters. -/
theorem canonicalName_not_lt (name : String) : ¬ canonicalName name < name := by
  have hlist (s : List Char) : ¬ s.map Char.toLower < s := by
    induction s with
    | nil => exact List.not_lt_nil _
    | cons c s ih =>
      rw [List.map_cons, List.cons_lt_cons_iff]
      rintro (h | ⟨-, h⟩)
      · exact Text.toLower_not_lt c h
      · exact ih h
  rw [String.lt_iff, canonicalName, String.toList_ofList]
  exact hlist _

/-- In ascending order a field that is written in small letters is the last one of its name. -/
theorem lastNamed_of_lookup {l : List (String × String)} (hl : l.Pairwise fun a b => a.1 < b.1)
    {name value : String} (hname : canonicalName name = name) (h : l.lookup name = some value) :
    lastNamed name l = some value := by
  induction l with
  | nil => cases h
  | cons f l ih =>
    obtain ⟨hf, hl⟩ := List.pairwise_cons.1 hl
    rw [SortedMap.lookup_cons_eq_ite] at h
    split at h
    · next he =>
      have hnone : lastNamed name l = none :=
        lastNamed_eq_none fun g hg hgn => canonicalName_not_lt g.1 (hgn ▸ he ▸ hf g hg)
      rw [lastNamed, hnone, ← he, if_pos hname, Option.none_or, h]
    · rw [lastNamed, ih hl h, Option.some_or]

theorem lastNamed_of_get? {m : SortedMap String} {name value : String}
    (hname : canonicalName name = name) (h : m.get? name = some value) :
    lastNamed name m.entries = some value :=
  lastNamed_of_lookup m.sorted hname h

end QueryClient.Http
