import QueryClient.Proofs.Value.RoundTrip

/-!
# Fields of loads and back

The fields of a load have forms of their own for nulls and timestamps, and are read with them
(`ofLoadField?`). A field is read as the value it was written for, whatever the type of its column,
and so different values have different fields (`loadField_faithful`). One text has two readings: the
null marker is also the field of the string that looks like it, and is read as a null.
-/

namespace QueryClient

open QueryClient.Text Decimal

namespace Calendar.Timestamp

/-- Reads a timestamp as loads are written, with years of either sign. -/
def ofUniversal? (text : String) : Option Timestamp :=
  if text.toList.getLast? = some 'Z' then separated? 'T' text.toList.dropLast else none

theorem ofUniversal?_inputText (t : Timestamp) : ofUniversal? t.inputText = some t := by
  rw [ofUniversal?, inputText, String.toList_ofList, List.getLast?_concat, if_pos rfl,
    List.dropLast_concat]
  exact separated?_eq_some_iff.2 ⟨_, _, isYear_yearText t.date,
    isFraction_fractionChars t.time.nanosecond_lt, by rw [t.chars_eq, Date.chars_eq]⟩

end Calendar.Timestamp

namespace Value

open QueryClient.Calendar

/-- Reads a field of a load that is no null marker. -/
def ofLoadText? (type : ColumnType) (raw : String) : Option Value :=
  match type.inner with
  | .timestamp => (Timestamp.ofUniversal? raw).map timestamp
  | _ => ofText? type raw

/-- Reads a field of a load. -/
def ofLoadField? (type : ColumnType) (raw : String) : Option Value :=
  if raw = Value.null.loadField then some null else ofLoadText? type raw

section Reading

variable {type : ColumnType} {v w : Value}

theorem ofLoadText?_loadField (h : HasType type v) (hnull : v ≠ .null)
    (hfloat : ∀ x, v ≠ .float64 x) : ofLoadText? type v.loadField = some v := by
  have hread := ofText?_text h hnull hfloat
  cases h with
  | null _ => exact absurd rfl hnull
  | float64 _ => exact absurd rfl (hfloat _)
  | timestamp ht =>
    simp only [ofLoadText?, ht, loadField, Timestamp.ofUniversal?_inputText, Option.map_some]
  | int64 ht _ _ | uint64 ht _ | string ht | date ht =>
    simpa only [ofLoadText?, ht, loadField] using hread

/-- Only a column of strings has a null marker among its texts. -/
theorem ofLoadText?_marker (h : ofLoadText? type Value.null.loadField = some v)
    (hv : HasType type v) (hnull : v ≠ .null) (hfloat : ∀ x, v ≠ .float64 x) :
    v = .string Value.null.loadField := by
  cases hv with
  | null _ => exact absurd rfl hnull
  | float64 _ => exact absurd rfl (hfloat _)
  | int64 ht _ _ =>
    simp only [ofLoadText?, ht] at h
    obtain ⟨n, -, hn, -⟩ := (ofText?_of_signed ht).1 h
    generalize n.toInt = n at hn
    cases hn with
    | natural hn => cases hn with
      | plain hds => exact absurd rfl (hds.ne_cons (by decide) _)
  | uint64 ht _ =>
    simp only [ofLoadText?, ht] at h
    obtain ⟨n, -, hn, -⟩ := (ofText?_of_unsigned ht).1 h
    generalize n.toNat = n at hn
    cases hn with
    | plain hds => exact absurd rfl (hds.ne_cons (by decide) _)
  | string ht =>
    simp only [ofLoadText?, ht, ofText?_of_string ht, Option.some.injEq] at h
    exact h.symm
  | date ht =>
    have hnone : Date.ofText? Value.null.loadField = none := by decide
    simp only [ofLoadText?, ht, ofText?, hnone, Option.map_none] at h
    cases h
  | timestamp ht =>
    have hnone : Timestamp.ofUniversal? Value.null.loadField = none := by decide
    simp only [ofLoadText?, ht, hnone, Option.map_none] at h
    cases h

theorem ofLoadField?_loadField (h : HasType type v) (hfloat : ∀ x, v ≠ .float64 x)
    (hmarker : v ≠ .string Value.null.loadField) : ofLoadField? type v.loadField = some v := by
  unfold ofLoadField?
  by_cases hnull : v = .null
  · rw [hnull, if_pos rfl]
  · have hread := ofLoadText?_loadField h hnull hfloat
    rw [if_neg, hread]
    intro heq
    rw [heq] at hread
    exact hmarker (ofLoadText?_marker hread h hnull hfloat)

theorem loadField_eq_marker_iff (h : HasType type v) (hfloat : ∀ x, v ≠ .float64 x) :
    v.loadField = Value.null.loadField ↔ v = .null ∨ v = .string Value.null.loadField := by
  constructor
  · intro heq
    by_contra hnot
    obtain ⟨hnull, hmarker⟩ := not_or.1 hnot
    have hread := ofLoadField?_loadField h hfloat hmarker
    rw [heq, ofLoadField?, if_pos rfl] at hread
    exact hnull (Option.some.inj hread).symm
  · rintro (rfl | rfl) <;> rfl

theorem loadField_eq_iff (hv : HasType type v) (hw : HasType type w)
    (hfv : ∀ x, v ≠ .float64 x) (hfw : ∀ x, w ≠ .float64 x) :
    v.loadField = w.loadField ↔ v = w ∨ (v = .null ∧ w = .string Value.null.loadField)
      ∨ (v = .string Value.null.loadField ∧ w = .null) := by
  constructor
  · intro heq
    by_cases hmarker : v.loadField = Value.null.loadField
    · rcases (loadField_eq_marker_iff hv hfv).1 hmarker with rfl | rfl <;>
        rcases (loadField_eq_marker_iff hw hfw).1 (heq ▸ hmarker) with rfl | rfl <;> simp
    · have hread {u : Value} (hu : HasType type u) (hfu : ∀ x, u ≠ .float64 x)
          (hne : u.loadField ≠ Value.null.loadField) : ofLoadField? type u.loadField = some u :=
        ofLoadField?_loadField hu hfu fun hu => hne (hu ▸ rfl)
      have hboth := hread hv hfv hmarker
      rw [heq, hread hw hfw (heq ▸ hmarker)] at hboth
      exact .inl (Option.some.inj hboth).symm
  · rintro (rfl | ⟨rfl, rfl⟩ | ⟨rfl, rfl⟩) <;> rfl

theorem HasType.ne_float64 (h : HasType type v)
    (hfloat : type.inner ≠ .float32 ∧ type.inner ≠ .float64) (x : Binary64) : v ≠ .float64 x := by
  rintro rfl
  cases h with
  | float64 ht => exact ht.elim hfloat.1 hfloat.2

end Reading

/-- The fields of a column tell its values apart, and are read as the values that they were written
for, but that a string column has a text that is written and read as the null marker. -/
theorem loadField_faithful (type : ColumnType)
    (hfloat : type.inner ≠ .float32 ∧ type.inner ≠ .float64) :
    (∀ v w, HasType type v → HasType type w →
        (v.loadField = w.loadField ↔ v = w ∨ (v = .null ∧ w = .string "\\N")
          ∨ (v = .string "\\N" ∧ w = .null)))
      ∧ (∀ v, HasType type v → v ≠ .string "\\N" → ofLoadField? type v.loadField = some v)
      ∧ (type.inner ≠ .string → ∀ v w, HasType type v → HasType type w →
        ofLoadField? type v.loadField = some v ∧ (v.loadField = w.loadField ↔ v = w)) := by
  have hread (v : Value) (hv : HasType type v) :
      v ≠ .string "\\N" → ofLoadField? type v.loadField = some v :=
    ofLoadField?_loadField hv (hv.ne_float64 hfloat)
  refine ⟨fun v w hv hw => loadField_eq_iff hv hw (hv.ne_float64 hfloat) (hw.ne_float64 hfloat),
    hread, fun hstring v w hv hw => ?_⟩
  have hmarker {u : Value} (hu : HasType type u) : u ≠ .string "\\N" := by
    rintro rfl
    cases hu with
    | string ht => exact hstring ht
  refine ⟨hread v hv (hmarker hv), fun heq => ?_, congrArg loadField⟩
  have hboth := hread v hv (hmarker hv)
  rw [heq, hread w hw (hmarker hw)] at hboth
  exact (Option.some.inj hboth).symm

/-- Two fractions of a second before the year 0, and a string that is shown like a null. -/
theorem loadField_faithful_fractions :
    let type := ColumnType.nullable .timestamp
    let date : Date := ⟨-4, 2, 29, by decide, by decide, by decide⟩
    let v := Value.timestamp
      ⟨date, ⟨23, 59, 59, 100000000, by decide, by decide, by decide, by decide⟩⟩
    let w := Value.timestamp
      ⟨date, ⟨23, 59, 59, 100000001, by decide, by decide, by decide, by decide⟩⟩
    let text := Value.string "NULL"
    (type.inner ≠ .float32 ∧ type.inner ≠ .float64) ∧ type.inner ≠ .string
      ∧ HasType type v ∧ HasType type w
      ∧ v.loadField ≠ w.loadField
      ∧ v.loadField = "-0004-02-29T23:59:59.1Z"
      ∧ ofLoadField? type "-0004-02-29T23:59:59.1Z" = some v
      ∧ HasType (.nullable .string) text ∧ text ≠ .string "\\N"
      ∧ ofLoadField? (.nullable .string) "NULL" = some text
      ∧ text.loadField ≠ Value.null.loadField := by
  intro type date v w text
  have hfloat : type.inner ≠ .float32 ∧ type.inner ≠ .float64 := ⟨by decide, by decide⟩
  have hstring : type.inner ≠ .string := by decide
  have hv : HasType type v := .timestamp rfl
  have hw : HasType type w := .timestamp rfl
  have htext : HasType (.nullable .string) text := .string rfl
  have hne : text ≠ .string "\\N" := by decide
  have hfield : v.loadField = "-0004-02-29T23:59:59.1Z" := by decide
  obtain ⟨-, -, hothers⟩ := loadField_faithful type hfloat
  obtain ⟨hread, heq⟩ := hothers hstring v w hv hw
  obtain ⟨hstrings, hreads, -⟩ := loadField_faithful (.nullable .string) ⟨by decide, by decide⟩
  exact ⟨hfloat, hstring, hv, hw, mt heq.1 (by decide), hfield, hfield ▸ hread, htext, hne,
    hreads text htext hne, mt (hstrings text null htext (.null rfl)).1 (by decide)⟩

/-- A string that is the null marker is written like a null, and is read as one. -/
theorem loadField_string_marker :
    let type := ColumnType.nullable .string
    let s := Value.string "\\N"
    HasType type null ∧ HasType type s ∧ s ≠ null
      ∧ s.loadField = null.loadField ∧ ofLoadField? type s.loadField = some null :=
  ⟨.null rfl, .string rfl, nofun, rfl, by decide⟩

end Value

end QueryClient
