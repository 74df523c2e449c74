import QueryClient.Proofs.Calendar.RoundTrip
import QueryClient.Proofs.Value.Domain

/-!
# Texts of values and back

The text of a value is read as the value under every type that the value has (`decode_text`), so no
text that is shown loses anything of what was decoded. Nulls and floats are left out: the text of a
null is a text like any other to a string column, and the texts of floats are a matter of their own.
-/

namespace QueryClient.Value

open QueryClient.Text QueryClient.Calendar Decimal

theorem ofText?_text {type : ColumnType} {v : Value} (h : HasType type v) (hnull : v ≠ .null)
    (hfloat : ∀ x, v ≠ .float64 x) : ofText? type v.text = some v := by
  cases h with
  | null _ => exact absurd rfl hnull
  | int64 ht lo hi =>
    refine (ofText?_of_signed ht).2 ⟨_, rfl, ?_, lo, hi⟩
    rw [text, Decimal.signedText, String.toList_ofList]
    exact isInteger_signed _
  | uint64 ht hi =>
    refine (ofText?_of_unsigned ht).2 ⟨_, rfl, ?_, hi⟩
    rw [text, Decimal.text, String.toList_ofList]
    exact isNatural_digits _
  | float64 _ => exact absurd rfl (hfloat _)
  | string ht => exact ofText?_of_string ht
  | date ht => simp only [ofText?, ht, text, Date.ofText?_text, Option.map_some]
  | timestamp ht => simp only [ofText?, ht, text, Timestamp.ofText?_text, Option.map_some]

theorem decode_text {type : ColumnType} {v : Value} (h : HasType type v) (hnull : v ≠ .null)
    (hfloat : ∀ x, v ≠ .float64 x) (column : Nat) : decode type (some v.text) column = .ok v :=
  decode_some_eq_ok_iff.2 (ofText?_text h hnull hfloat)

theorem exists_hasType (v : Value) : ∃ type, HasType type v := by
  cases v with
  | null => exact ⟨.null, .null rfl⟩
  | int64 n => exact ⟨.signed .w64, .int64 rfl n.le_toInt n.toInt_lt⟩
  | uint64 n => exact ⟨.unsigned .w64, .uint64 rfl n.toNat_lt⟩
  | float64 x => exact ⟨.float64, .float64 (.inr rfl)⟩
  | string s => exact ⟨.string, .string rfl⟩
  | date d => exact ⟨.date, .date rfl⟩
  | timestamp t => exact ⟨.timestamp, .timestamp rfl⟩

/-- A decoded value that is neither null nor a float is decoded from its own text, under the same
type and in every column; and each such value has a type under which it is. -/
theorem text_roundTrip (v : Value) (hnull : v ≠ .null) (hfloat : ∀ x, v ≠ .float64 x) :
    (∀ type raw column, decode type raw column = .ok v →
        ∀ column', decode type (some v.text) column' = .ok v)
      ∧ ∃ type, ∀ column, decode type (some v.text) column = .ok v := by
  refine ⟨fun type raw column h => decode_text (hasType_of_decode h) hnull hfloat, ?_⟩
  obtain ⟨type, h⟩ := v.exists_hasType
  exact ⟨type, decode_text h hnull hfloat⟩

/-- Zeros in front of a number and behind a fraction are not written again. -/
theorem text_roundTrip_zeros :
    let n := Value.int64 7
    let t := Value.timestamp ⟨⟨-4, 2, 29, by decide, by decide, by decide⟩,
      ⟨23, 59, 59, 10, by decide, by decide, by decide, by decide⟩⟩
    let byte := ColumnType.nullable (.signed .w8)
    n ≠ .null ∧ (∀ x, n ≠ .float64 x) ∧ t ≠ .null ∧ (∀ x, t ≠ .float64 x)
      ∧ decode byte (some "+007") 0 = .ok n ∧ decode byte (some "7") 4 = .ok n
      ∧ decode .timestamp (some "-0004-02-29 23:59:59.000000010") 0 = .ok t
      ∧ decode .timestamp (some "-0004-02-29 23:59:59.00000001") 4 = .ok t := by
  intro n t byte
  have hn : n ≠ .null ∧ ∀ x, n ≠ .float64 x := ⟨nofun, nofun⟩
  have ht : t ≠ .null ∧ ∀ x, t ≠ .float64 x := ⟨nofun, nofun⟩
  have hnread : decode byte (some "+007") 0 = .ok n := rfl
  have htread : decode .timestamp (some "-0004-02-29 23:59:59.000000010") 0 = .ok t :=
    decode_some_eq_ok_iff.2 (by decide)
  have hntext : n.text = "7" := rfl
  have httext : t.text = "-0004-02-29 23:59:59.00000001" := by decide
  exact ⟨hn.1, hn.2, ht.1, ht.2, hnread,
    hntext ▸ (text_roundTrip n hn.1 hn.2).1 byte _ 0 hnread 4, htread,
    httext ▸ (text_roundTrip t ht.1 ht.2).1 .timestamp _ 0 htread 4⟩

end QueryClient.Value
