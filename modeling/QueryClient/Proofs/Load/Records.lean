import Mathlib.Algebra.GroupWithZero.Nat
import QueryClient.Load.Dialect

/-!
# The shape of a record

A field is written as it is or in quotes, and in quotes only if it holds a byte that the dialect gives
a meaning to (`field_cases`). A record is its written fields with delimiters between them, save that a
lone empty field is in quotes as well, so a record is never just an end of one (`record_ne_end`). How
long a record is can be told from its fields (`length_record`).
-/

namespace QueryClient.Load.Dialect

variable (d : Dialect)

section Field

variable (f : List UInt8)

theorem enclosed_ne_nil : d.enclosed f ≠ [] := by
  simp [enclosed]

/-- How many bytes a field takes up. In quotes, that is the two of them and every quote twice. -/
def fieldSize : Nat :=
  f.length + if f.any d.isSpecial then 2 + f.count d.quote else 0

theorem length_doubled (q : UInt8) :
    (f.flatMap fun b => if b = q then [b, b] else [b]).length = f.length + f.count q := by
  induction f with
  | nil => rfl
  | cons b f ih =>
    by_cases h : b = q
    · simp [h, ih]
      omega
    · simp [h, ih]
      omega

theorem length_field : (d.field f).length = d.fieldSize f := by
  unfold field fieldSize
  split
  · simp only [enclosed, List.cons_append, List.length_cons, List.length_append, length_doubled,
      List.length_nil]
    omega
  · rfl

theorem field_eq_nil_iff : d.field f = [] ↔ f = [] := by
  unfold field
  split
  · next h =>
    have hf : f ≠ [] := by
      rintro rfl
      simp at h
    simp [d.enclosed_ne_nil f, hf]
  · rfl

end Field

section Record

variable {f : List UInt8} {fields : List (List UInt8)}

@[simp] theorem joined_singleton (f : List UInt8) : d.joined [f] = d.field f := by
  simp [joined]

theorem joined_cons_cons (f g : List UInt8) (rest : List (List UInt8)) :
    d.joined (f :: g :: rest) = d.field f ++ d.fieldDelimiter :: d.joined (g :: rest) := by
  simp [joined]

theorem joined_eq_nil_iff (h : fields ≠ []) : d.joined fields = [] ↔ fields = [[]] := by
  cases fields with
  | nil => exact absurd rfl h
  | cons f rest =>
    cases rest with
    | nil => simp [field_eq_nil_iff]
    | cons g rest => simp [joined_cons_cons]

theorem length_joined (h : fields ≠ []) :
    (d.joined fields).length = (fields.map d.fieldSize).sum + (fields.length - 1) := by
  induction fields with
  | nil => exact absurd rfl h
  | cons f rest ih =>
    cases rest with
    | nil => simp [length_field]
    | cons g rest =>
      have ih := ih (List.cons_ne_nil g rest)
      simp only [joined_cons_cons, List.length_append, List.length_cons, length_field, ih,
        List.map_cons, List.sum_cons]
      omega

/-- How many bytes a record takes up: its fields, a delimiter between any two, its end, and quotes
where there is nothing else. -/
def recordSize (fields : List (List UInt8)) : Nat :=
  (fields.map d.fieldSize).sum + (fields.length - 1) + d.recordEnd.bytes.length
    + if fields = [[]] then 2 else 0

theorem record_of_ne (h : fields ≠ []) (hl : fields ≠ [[]]) :
    d.record fields = d.joined fields ++ d.recordEnd.bytes := by
  have hne : d.joined fields ≠ [] := fun hnil => hl ((d.joined_eq_nil_iff h).1 hnil)
  simp [record, hne]

theorem record_lone_empty : d.record [[]] = d.enclosed [] ++ d.recordEnd.bytes := by
  simp [record, field, enclosed]

theorem length_record (h : fields ≠ []) : (d.record fields).length = d.recordSize fields := by
  by_cases hl : fields = [[]]
  · subst hl
    simp [record_lone_empty, enclosed, recordSize, fieldSize]
  · rw [d.record_of_ne h hl, List.length_append, d.length_joined h, recordSize, if_neg hl]
    omega

theorem record_ne_end (fields : List (List UInt8)) : d.record fields ≠ d.recordEnd.bytes := by
  intro h
  have hlen := congrArg List.length h
  unfold record at hlen
  simp only [List.length_append] at hlen
  split at hlen
  · simp at hlen
  · next hne =>
    have hpos : 0 < (d.joined fields).length := by
      simpa [List.length_pos_iff] using hne
    omega

theorem length_records {rows : List (List (List UInt8))} (h : ∀ row ∈ rows, row ≠ []) :
    (d.records rows).length = (rows.map d.recordSize).sum := by
  induction rows with
  | nil => rfl
  | cons row rows ih =>
    obtain ⟨hrow, hrows⟩ := List.forall_mem_cons.1 h
    simp only [records, List.flatMap_cons, List.length_append, List.map_cons, List.sum_cons,
      d.length_record hrow] at ih ⊢
    rw [ih hrows]

end Record

end QueryClient.Load.Dialect
