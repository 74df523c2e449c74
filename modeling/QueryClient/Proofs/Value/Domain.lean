import QueryClient.Proofs.Text.Numerals
import QueryClient.Proofs.Value.Typing

/-!
# What a field may hold

Which fields a column type accepts, and as which value. An integer column takes the numerals of the
numbers of its width, with leading zeros and signs, and a minus only if it is signed
(`ofText?_of_signed`, `ofText?_of_unsigned`); a string column takes every text as it is; a missing
field is taken by the types that allow nulls, and by no other (`decode_none_eq_ok_iff`). A refusal
names the column, the field and the declared type, with its wrappers (`error_of_decode`).
-/

namespace QueryClient.Value

open QueryClient.Text Decimal

section Decode

variable {type : ColumnType} {raw : Option String} {text : String} {column : Nat} {v : Value}

theorem decode_some_eq_ok_iff :
    decode type (some text) column = .ok v ↔ ofText? type text = some v := by
  unfold decode
  dsimp only
  split
  · next u hu => simp [hu]
  · next hu => simp [hu]

theorem decode_none_eq_ok_iff :
    decode type none column = .ok v ↔ v = .null ∧ type.isNullable = true := by
  unfold decode
  dsimp only
  split_ifs with h <;> simp [h, eq_comm]

theorem error_of_decode {e : Error} (h : decode type raw column = .error e) :
    e = .decode column (raw.getD "null") type.text := by
  unfold decode at h
  split at h
  · split_ifs at h
    exact (Except.error.inj h).symm
  · split at h
    · cases h
    · exact (Except.error.inj h).symm

theorem isNullable_iff : type.isNullable = true ↔ type = .null ∨ ∃ t, type = .nullable t := by
  cases type <;> simp [ColumnType.isNullable]

theorem isNullable_of_decode (h : decode type raw column = .ok .null) :
    type.isNullable = true := by
  cases hasType_of_decode h with
  | null h => exact h

theorem ofText?_of_signed {w : Width} (h : type.inner = .signed w) :
    ofText? type text = some v ↔ ∃ n : Int64, v = .int64 n ∧ IsInteger text.toList n.toInt
      ∧ -2 ^ (w.bits - 1) ≤ n.toInt ∧ n.toInt < 2 ^ (w.bits - 1) := by
  simp only [ofText?, h, Option.map_eq_some_iff, readInt?_eq_some_iff, w.size_half_int]
  constructor
  · rintro ⟨n, ⟨hread, lo, hi⟩, rfl⟩
    have hn := w.toInt_ofInt lo (by omega)
    refine ⟨_, rfl, ?_⟩
    rw [hn]
    exact ⟨hread, lo, by omega⟩
  · rintro ⟨n, rfl, hread, lo, hi⟩
    exact ⟨n.toInt, ⟨hread, lo, by omega⟩, by rw [Int64.ofInt_toInt]⟩

theorem ofText?_of_unsigned {w : Width} (h : type.inner = .unsigned w) :
    ofText? type text = some v
      ↔ ∃ n : UInt64, v = .uint64 n ∧ IsNatural text.toList n.toNat ∧ n.toNat < 2 ^ w.bits := by
  have hpos : 0 < 2 ^ w.bits := Nat.two_pow_pos _
  simp only [ofText?, h, Option.map_eq_some_iff, readNat?_eq_some_iff, w.size_eq]
  constructor
  · rintro ⟨n, ⟨hread, hi⟩, rfl⟩
    have hn := w.toNat_ofNat (n := n) (by omega)
    refine ⟨_, rfl, ?_⟩
    rw [hn]
    exact ⟨hread, by omega⟩
  · rintro ⟨n, rfl, hread, hi⟩
    exact ⟨n.toNat, ⟨hread, by omega⟩, by rw [UInt64.ofNat_toNat]⟩

theorem ofText?_of_string (h : type.inner = .string) : ofText? type text = some (.string text) := by
  simp only [ofText?, h]

end Decode

/-- However often a type is wrapped, its fields are the numerals of its numbers, or all texts, and a
missing field is one of the types that allow nulls. Whatever is refused is reported with the column,
the field as it came and the type as it was declared. -/
theorem decode_domain (type : ColumnType) (column : Nat) :
    (∀ w, type.inner = .signed w → ∀ text v, decode type (some text) column = .ok v
        ↔ ∃ n : Int64, v = .int64 n ∧ IsInteger text.toList n.toInt
          ∧ -2 ^ (w.bits - 1) ≤ n.toInt ∧ n.toInt < 2 ^ (w.bits - 1))
      ∧ (∀ w, type.inner = .unsigned w → ∀ text v, decode type (some text) column = .ok v
        ↔ ∃ n : UInt64, v = .uint64 n ∧ IsNatural text.toList n.toNat ∧ n.toNat < 2 ^ w.bits)
      ∧ (type.inner = .string → ∀ text, decode type (some text) column = .ok (.string text))
      ∧ (∀ v, decode type none column = .ok v
        ↔ v = .null ∧ (type = .null ∨ ∃ t, type = .nullable t))
      ∧ (∀ raw, decode type raw column = .ok .null → type = .null ∨ ∃ t, type = .nullable t)
      ∧ ∀ raw e, decode type raw column = .error e
        → e = .decode column (raw.getD "null") type.text := by
  refine ⟨fun w h text v => ?_, fun w h text v => ?_, fun h text => ?_, fun v => ?_,
    fun raw h => ?_, fun raw e h => error_of_decode h⟩
  · rw [decode_some_eq_ok_iff, ofText?_of_signed h]
  · rw [decode_some_eq_ok_iff, ofText?_of_unsigned h]
  · exact decode_some_eq_ok_iff.2 (ofText?_of_string h)
  · rw [decode_none_eq_ok_iff, isNullable_iff]
  · exact isNullable_iff.1 (isNullable_of_decode h)

/-- The least byte with leading zeros, the greatest word with a plus, a text that looks like a null,
and one number too many. -/
theorem decode_domain_ends :
    let byte := ColumnType.nullable (.signed .w8)
    byte.inner = .signed .w8 ∧ decode byte (some "-000128") 3 = .ok (.int64 (-128))
      ∧ (ColumnType.unsigned .w16).inner = .unsigned .w16
      ∧ decode (.unsigned .w16) (some "+65535") 0 = .ok (.uint64 65535)
      ∧ ColumnType.string.inner = .string ∧ decode .string (some "null") 1 = .ok (.string "null")
      ∧ decode byte none 3 = .ok .null ∧ (byte = .null ∨ ∃ t, byte = .nullable t)
      ∧ decode byte (some "128") 3 = .error (.decode 3 "128" "Nullable(Int8)") := by
  intro byte
  obtain ⟨hsigned, -, -, -, hnull, herror⟩ := decode_domain byte 3
  have hminus : IsInteger "-000128".toList (-128) := .minus (by decide)
  have hplus : IsNatural "+65535".toList 65535 := .plus (by decide)
  have hmissing : decode byte none 3 = .ok .null := rfl
  obtain ⟨e, hbeyond⟩ : ∃ e, decode byte (some "128") 3 = .error e := ⟨_, rfl⟩
  refine ⟨rfl, (hsigned .w8 rfl _ _).2 ⟨-128, rfl, hminus, by decide, by decide⟩, rfl,
    ((decode_domain _ 0).2.1 .w16 rfl _ _).2 ⟨65535, rfl, hplus, by decide⟩, rfl,
    (decode_domain _ 1).2.2.1 rfl _, hmissing, hnull none hmissing, ?_⟩
  rw [hbeyond, herror _ e hbeyond]
  rfl

end QueryClient.Value
