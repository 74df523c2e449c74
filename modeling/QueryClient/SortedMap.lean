/-!
# Maps with sorted keys

A map from texts, kept as its entries in ascending order of their keys, so that two maps with the
same entries are the same map. `get?_insert` says what a map holds after a write.
-/

namespace QueryClient

structure SortedMap (α : Type) where
  entries : List (String × α)
  sorted : entries.Pairwise fun a b => a.1 < b.1
  deriving DecidableEq, Repr

namespace SortedMap

variable {α : Type}

/-- Writes an entry into sorted entries; an entry with the same key is replaced. -/
def insertEntry (k : String) (v : α) : List (String × α) → List (String × α)
  | [] => [(k, v)]
  | e :: rest =>
    if k < e.1 then (k, v) :: e :: rest
    else if k = e.1 then (k, v) :: rest
    else e :: insertEntry k v rest

theorem mem_insertEntry {k : String} {v : α} {e : String × α} {l : List (String × α)}
    (h : e ∈ insertEntry k v l) : e = (k, v) ∨ e ∈ l := by
  induction l with
  | nil => simpa [insertEntry] using h
  | cons a l ih =>
    rw [insertEntry] at h
    split at h
    · simpa using h
    · split at h
      · exact (List.mem_cons.1 h).imp_right (List.mem_cons_of_mem _)
      · rcases List.mem_cons.1 h with h | h
        · exact .inr (h ▸ List.mem_cons_self)
        · exact (ih h).imp_right (List.mem_cons_of_mem _)

theorem pairwise_insertEntry (k : String) (v : α) {l : List (String × α)}
    (h : l.Pairwise fun a b => a.1 < b.1) :
    (insertEntry k v l).Pairwise fun a b => a.1 < b.1 := by
  induction l with
  | nil => simp [insertEntry]
  | cons a l ih =>
    obtain ⟨ha, hl⟩ := List.pairwise_cons.1 h
    rw [insertEntry]
    split
    · next hk =>
      refine List.pairwise_cons.2 ⟨fun b hb => ?_, h⟩
      rcases List.mem_cons.1 hb with rfl | hb
      · exact hk
      · exact String.lt_trans hk (ha b hb)
    · split
      · next hk => exact List.pairwise_cons.2 ⟨fun b hb => hk ▸ ha b hb, hl⟩
      · next h1 h2 =>
        refine List.pairwise_cons.2 ⟨fun b hb => ?_, ih hl⟩
        rcases mem_insertEntry hb with rfl | hb
        · exact Std.not_le.1 fun hle => h2 (String.le_antisymm hle (Std.not_lt.1 h1))
        · exact ha b hb

def empty : SortedMap α := ⟨[], .nil⟩

instance : EmptyCollection (SortedMap α) := ⟨empty⟩

instance : Inhabited (SortedMap α) := ⟨empty⟩

def insert (m : SortedMap α) (k : String) (v : α) : SortedMap α :=
  ⟨insertEntry k v m.entries, pairwise_insertEntry k v m.sorted⟩

def get? (m : SortedMap α) (k : String) : Option α :=
  m.entries.lookup k

def contains (m : SortedMap α) (k : String) : Bool :=
  (m.get? k).isSome

def isEmpty (m : SortedMap α) : Bool :=
  m.entries.isEmpty

/-- The map with the given entries; of entries with the same key the last one counts. -/
def ofList (l : List (String × α)) : SortedMap α :=
  l.foldl (fun m e => m.insert e.1 e.2) empty

theorem lookup_cons_eq_ite (k : String) (a : String × α) (l : List (String × α)) :
    (a :: l).lookup k = if k = a.1 then some a.2 else l.lookup k := by
  obtain ⟨k', v⟩ := a
  rw [List.lookup_cons]
  by_cases h : k = k'
  · simp [h]
  · have : (k == k') = false := by simpa using h
    simp [this, h]

theorem lookup_insertEntry (k k' : String) (v : α) (l : List (String × α)) :
    (insertEntry k v l).lookup k' = if k' = k then some v else l.lookup k' := by
  induction l with
  | nil => simp [insertEntry, lookup_cons_eq_ite]
  | cons a l ih =>
    rw [insertEntry]
    split
    · simp only [lookup_cons_eq_ite]
    · split
      · next hk => subst hk; simp only [lookup_cons_eq_ite]; split <;> rfl
      · next hk =>
        simp only [lookup_cons_eq_ite, ih]
        by_cases h : k' = a.1
        · simp [h, Ne.symm hk]
        · simp [h]

/-- A write is seen at its key and nowhere else. -/
@[simp]
theorem get?_insert (m : SortedMap α) (k k' : String) (v : α) :
    (m.insert k v).get? k' = if k' = k then some v else m.get? k' :=
  lookup_insertEntry k k' v m.entries

@[simp]
theorem get?_empty (k : String) : (empty : SortedMap α).get? k = none := rfl

end SortedMap

end QueryClient
