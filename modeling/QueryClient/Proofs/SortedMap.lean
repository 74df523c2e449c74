import QueryClient.SortedMap

/-!
# Lookups in sorted maps

A map is determined by what it holds (`eq_of_get?`), as there is only one ascending list of given
entries. What a list of writes leaves behind is read off the list (`get?_foldl_insert`).
-/

namespace QueryClient.SortedMap

variable {α : Type}

@[simp] theorem get?_emptyCollection (k : String) : (∅ : SortedMap α).get? k = none := rfl

theorem get?_foldl_insert {l : List (String × α)} (hl : l.Pairwise fun a b => a.1 < b.1)
    (m : SortedMap α) (k : String) :
    (l.foldl (fun m e => m.insert e.1 e.2) m).get? k = (l.lookup k).or (m.get? k) := by
  induction l generalizing m with
  | nil => simp
  | cons e l ih =>
    obtain ⟨he, hl⟩ := List.pairwise_cons.1 hl
    rw [List.foldl_cons, ih hl, get?_insert, lookup_cons_eq_ite]
    by_cases hk : k = e.1
    · -- Every later key is larger, so none of them overwrites this one.
      have hnone : l.lookup k = none := by
        refine List.lookup_eq_none_iff.2 fun a ha => ?_
        have hne : k ≠ a.1 := fun h => String.lt_irrefl k (by simpa [← h, ← hk] using he a ha)
        simpa using hne
      simp [hk ▸ hnone, hk]
    · simp [hk]

theorem mem_of_lookup {k : String} {v : α} {l : List (String × α)} (h : l.lookup k = some v) :
    (k, v) ∈ l := by
  obtain ⟨before, after, rfl, -⟩ := List.lookup_eq_some_iff.1 h
  simp

/-- Entries with different keys are all found. -/
theorem lookup_of_mem {k : String} {v : α} {l : List (String × α)}
    (hl : l.Pairwise fun a b => a.1 ≠ b.1) (h : (k, v) ∈ l) : l.lookup k = some v := by
  induction l with
  | nil => exact absurd h List.not_mem_nil
  | cons a l ih =>
    obtain ⟨ha, hl⟩ := List.pairwise_cons.1 hl
    rw [lookup_cons_eq_ite]
    rcases List.mem_cons.1 h with rfl | h
    · rw [if_pos rfl]
    · rw [if_neg (ha _ h).symm, ih hl h]

theorem pairwise_ne (m : SortedMap α) : m.entries.Pairwise fun a b => a.1 ≠ b.1 :=
  m.sorted.imp String.ne_of_lt

/-- A map holds what its entries say. -/
theorem get?_eq_some_iff {m : SortedMap α} {k : String} {v : α} :
    m.get? k = some v ↔ (k, v) ∈ m.entries :=
  ⟨mem_of_lookup, lookup_of_mem m.pairwise_ne⟩

theorem contains_eq_true_iff {m : SortedMap α} {k : String} :
    m.contains k = true ↔ ∃ v, m.get? k = some v :=
  Option.isSome_iff_exists

theorem contains_of_get? {m : SortedMap α} {k : String} {v : α} (h : m.get? k = some v) :
    m.contains k = true :=
  contains_eq_true_iff.2 ⟨v, h⟩

theorem contains_eq_false_iff {m : SortedMap α} {k : String} :
    m.contains k = false ↔ m.get? k = none := by
  rw [contains, Option.isSome_eq_false_iff, Option.isNone_iff_eq_none]

/-- In ascending order there is one list with given entries. -/
theorem eq_of_lookup {l m : List (String × α)} (hl : l.Pairwise fun a b => a.1 < b.1)
    (hm : m.Pairwise fun a b => a.1 < b.1) (h : ∀ k, l.lookup k = m.lookup k) : l = m := by
  induction l generalizing m with
  | nil =>
    cases m with
    | nil => rfl
    | cons b m => simpa [lookup_cons_eq_ite] using h b.1
  | cons a l ih =>
    cases m with
    | nil => simpa [lookup_cons_eq_ite] using h a.1
    | cons b m =>
      obtain ⟨ha, hl⟩ := List.pairwise_cons.1 hl
      obtain ⟨hb, hm⟩ := List.pairwise_cons.1 hm
      simp only [lookup_cons_eq_ite] at h
      have hkey : a.1 = b.1 := by
        refine Classical.byContradiction fun hne => ?_
        have hab := h a.1
        have hba := h b.1
        rw [if_pos rfl, if_neg hne] at hab
        rw [if_pos rfl, if_neg (Ne.symm hne)] at hba
        exact String.lt_irrefl _
          (String.lt_trans (hb _ (mem_of_lookup hab.symm)) (ha _ (mem_of_lookup hba)))
      have hvalue : a.2 = b.2 := by
        have hab := h a.1
        rwa [if_pos rfl, if_pos hkey, Option.some.injEq] at hab
      rw [Prod.ext hkey hvalue, ih hl hm fun k => ?_]
      by_cases hk : k = a.1
      · have hnone {n : List (String × α)} (hn : ∀ e ∈ n, a.1 < e.1) : n.lookup k = none := by
          refine Option.eq_none_iff_forall_ne_some.2 fun v hv => ?_
          exact String.lt_irrefl a.1 (hk ▸ hn _ (mem_of_lookup hv))
        rw [hnone ha, hnone fun e he => hkey ▸ hb e he]
      · have hrest := h k
        rwa [if_neg hk, if_neg (hkey ▸ hk)] at hrest

theorem eq_of_get? {m n : SortedMap α} (h : ∀ k, m.get? k = n.get? k) : m = n := by
  obtain ⟨l, hl⟩ := m
  obtain ⟨l', hl'⟩ := n
  obtain rfl := eq_of_lookup hl hl' h
  rfl

theorem insertEntry_last {k : String} {v : α} {l : List (String × α)} (h : ∀ e ∈ l, e.1 < k) :
    insertEntry k v l = l ++ [(k, v)] := by
  induction l with
  | nil => rfl
  | cons e l ih =>
    obtain ⟨he, hl⟩ := List.forall_mem_cons.1 h
    have hle : ¬ k < e.1 := fun hk => String.lt_irrefl k (String.lt_trans hk he)
    have hne : k ≠ e.1 := fun hk => String.lt_irrefl k (hk ▸ he)
    rw [insertEntry, if_neg hle, if_neg hne, ih hl, List.cons_append]

/-- Entries in ascending order are only ever added at the end. -/
theorem entries_foldl_insert {l : List (String × α)} {m : SortedMap α}
    (h : (m.entries ++ l).Pairwise fun a b => a.1 < b.1) :
    (l.foldl (fun m e => m.insert e.1 e.2) m).entries = m.entries ++ l := by
  induction l generalizing m with
  | nil => rw [List.foldl_nil, List.append_nil]
  | cons e l ih =>
    have hlast : (m.insert e.1 e.2).entries = m.entries ++ [e] :=
      insertEntry_last fun a ha => (List.pairwise_append.1 h).2.2 a ha e List.mem_cons_self
    rw [List.foldl_cons, ih, hlast, List.append_assoc]
    · rfl
    · rwa [hlast, List.append_assoc]

theorem foldl_insert_entries (m : SortedMap α) :
    m.entries.foldl (fun m e => m.insert e.1 e.2) {} = m := by
  have h := entries_foldl_insert (m := ({} : SortedMap α)) (l := m.entries) m.sorted
  obtain ⟨entries, sorted⟩ := m
  generalize entries.foldl (fun (m : SortedMap α) e => m.insert e.1 e.2) {} = made at h ⊢
  obtain ⟨_, _⟩ := made
  obtain rfl := h
  rfl

end QueryClient.SortedMap
