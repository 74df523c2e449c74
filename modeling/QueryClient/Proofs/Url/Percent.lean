import QueryClient.Proofs.Text.Split
import QueryClient.Proofs.Text.Utf8
import QueryClient.Url.Percent

/-!
# Percent encoding and back

A text that was encoded with a set that has the percent sign is decoded to its own bytes
(`decode_encode`). What a text decodes to can be told byte by byte: each byte is spelled by itself or by
a triple (`spells_of_decodeBytes`).
-/

namespace QueryClient.Url.Percent

open QueryClient.Text

/-! ## Decoding -/

/-- How a byte can be written. -/
inductive Spells : List UInt8 → UInt8 → Prop
  | byte (x : UInt8) : Spells [x] x
  | triple {hi lo x : UInt8} (h : byte? hi lo = some x) : Spells [0x25, hi, lo] x

section Decode

variable {bs t : List UInt8} {b x : UInt8}

theorem decodeBytes_cons_of_ne (h : b ≠ 0x25) (rest : List UInt8) :
    decodeBytes (b :: rest) = b :: decodeBytes rest := by
  match rest with
  | [] | [_] => rfl
  | _ :: _ :: _ => simp [decodeBytes, h]

theorem decodeBytes_triple {hi lo : UInt8} (h : byte? hi lo = some x) (rest : List UInt8) :
    decodeBytes (0x25 :: hi :: lo :: rest) = x :: decodeBytes rest := by
  simp [decodeBytes, h]

theorem spells_of_decodeBytes (h : decodeBytes bs = x :: t) :
    ∃ unit rest, Spells unit x ∧ bs = unit ++ rest ∧ decodeBytes rest = t := by
  fun_cases decodeBytes bs with
  | case1 => cases h
  | case2 b hi lo rest y hy =>
    rw [decodeBytes, hy] at h
    obtain ⟨rfl, ht⟩ := List.cons.inj h
    by_cases hb : b = 0x25
    · rw [if_pos hb] at hy
      exact ⟨[0x25, hi, lo], rest, .triple hy, by rw [hb]; rfl, ht⟩
    · rw [if_neg hb] at hy
      cases hy
  | case3 b hi lo rest hy =>
    rw [decodeBytes, hy] at h
    obtain ⟨rfl, ht⟩ := List.cons.inj h
    exact ⟨[b], hi :: lo :: rest, .byte b, rfl, ht⟩
  | case4 b rest hrest =>
    rw [decodeBytes] at h
    · obtain ⟨rfl, ht⟩ := List.cons.inj h
      exact ⟨[b], rest, .byte b, rfl, ht⟩
    · exact hrest

theorem decodeBytes_eq_nil_iff : decodeBytes bs = [] ↔ bs = [] := by
  constructor
  · intro h
    match bs with
    | [] => rfl
    | b :: hi :: lo :: rest =>
      unfold decodeBytes at h
      split at h <;> cases h
    | [b] | [b, c] => cases h
  · rintro rfl
    rfl

end Decode

/-! ## Encoding -/

/-- The characters of a triple. -/
def isTripleChar (c : Char) : Bool :=
  c = '%' || c ∈ "0123456789ABCDEF".toList

theorem of_isTripleChar {P : Char → Prop} [DecidablePred P]
    (h : ("%0123456789ABCDEF".toList.all fun c => decide (P c)) = true) {c : Char}
    (hc : isTripleChar c = true) : P c :=
  of_mem_of_all h (by simpa [isTripleChar] using hc)

theorem triple_of_hexDigit (n : Nat) :
    (hexDigit n).toNat < 0x80 ∧ isTripleChar (hexDigit n) = true := by
  have h : ∀ m < 16, (Nat.digitChar m).toUpper.toNat < 0x80
      ∧ isTripleChar (Nat.digitChar m).toUpper = true := by decide
  exact h _ (Nat.mod_lt n (by omega))

theorem triple_of_mem {b : UInt8} {c : Char} (h : c ∈ encodeByte b) :
    c.toNat < 0x80 ∧ isTripleChar c = true := by
  simp only [encodeByte, List.mem_cons, List.not_mem_nil, or_false] at h
  rcases h with rfl | rfl | rfl
  · decide
  · exact triple_of_hexDigit _
  · exact triple_of_hexDigit _

section Encode

variable {set : EncodeSet} {s t : List Char} {c : Char}

theorem encode_cons : encode set (c :: s) = encodeChar set c ++ encode set s := rfl

/-- Whether a character can occur in an encoded text. -/
def isWritten (set : EncodeSet) (c : Char) : Bool :=
  c.toNat < 0x80 && (!set c || isTripleChar c)

theorem isWritten_of_mem_encodeChar {d : Char} (h : d ∈ encodeChar set c) :
    isWritten set d = true := by
  unfold encodeChar at h
  split at h
  · next hc =>
    obtain rfl := List.mem_singleton.1 h
    simp_all [isWritten]
  · obtain ⟨b, -, hb⟩ := List.mem_flatMap.1 h
    obtain ⟨hlt, htriple⟩ := triple_of_mem hb
    simp [isWritten, hlt, htriple]

theorem isWritten_of_mem {d : Char} (h : d ∈ encode set s) : isWritten set d = true := by
  obtain ⟨c, -, hd⟩ := List.mem_flatMap.1 h
  exact isWritten_of_mem_encodeChar hd

theorem mem_encode {d : Char} (h : d ∈ encode set s) :
    d ∈ s ∧ d.toNat < 0x80 ∧ set d = false ∨ d.toNat < 0x80 ∧ isTripleChar d = true := by
  obtain ⟨c, hc, hd⟩ := List.mem_flatMap.1 h
  unfold encodeChar at hd
  split at hd
  · next hset =>
    obtain rfl := List.mem_singleton.1 hd
    exact .inl ⟨hc, by simpa using hset⟩
  · obtain ⟨b, -, hb⟩ := List.mem_flatMap.1 hd
    exact .inr (triple_of_mem hb)

/-- What holds of all characters of ASCII that can be written holds of all that are. -/
theorem of_isWritten {P : Char → Prop}
    (h : ∀ n < 0x80, isWritten set (Char.ofNat n) = true → P (Char.ofNat n))
    (hc : isWritten set c = true) : P c := by
  have hlt : c.toNat < 0x80 := by
    simp only [isWritten, Bool.and_eq_true, decide_eq_true_eq] at hc
    exact hc.1
  have := h c.toNat hlt
  rw [Char.ofNat_toNat] at this
  exact this hc

/-- Whether a set leaves a character as it is. -/
def Leaves (set : EncodeSet) (c : Char) : Prop :=
  c.toNat < 0x80 ∧ set c = false

theorem Leaves.ne {d : Char} (h : Leaves set c) (hd : set d = true) : c ≠ d := by
  rintro rfl
  rw [h.2] at hd
  cases hd

theorem encodeChar_of_leaves (h : Leaves set c) : encodeChar set c = [c] := by
  simp [encodeChar, h.1, h.2]

theorem encode_eq_self (h : ∀ c ∈ s, Leaves set c) : encode set s = s := by
  induction s with
  | nil => rfl
  | cons c s ih =>
    obtain ⟨hc, hs⟩ := List.forall_mem_cons.1 h
    rw [encode_cons, encodeChar_of_leaves hc, ih hs]
    rfl

theorem encode_eq_nil_iff : encode set s = [] ↔ s = [] := by
  constructor
  · intro h
    cases s with
    | nil => rfl
    | cons c s =>
      have hc : encodeChar set c = [] := (List.append_eq_nil_iff.1 h).1
      unfold encodeChar at hc
      split at hc
      · cases hc
      · have hne := @String.utf8EncodeChar_ne_nil c
        cases he : String.utf8EncodeChar c with
        | nil => exact absurd he hne
        | cons b bs => simp [Utf8.encode, he, encodeByte] at hc
  · rintro rfl
    rfl

end Encode

/-! ## Both -/

theorem hexValue?_hexDigit (n : Nat) :
    hexValue? (UInt8.ofNat (hexDigit n).toNat) = some (n % 16) := by
  have h : ∀ m < 16, hexValue? (UInt8.ofNat (Nat.digitChar m).toUpper.toNat) = some m := by decide
  exact h _ (Nat.mod_lt n (by omega))

theorem encode_encodeByte (b : UInt8) : Utf8.encode (encodeByte b)
    = [0x25, UInt8.ofNat (hexDigit (b.toNat / 16)).toNat, UInt8.ofNat (hexDigit b.toNat).toNat] := by
  have hpercent : String.utf8EncodeChar '%' = [0x25] := by decide
  simp only [encodeByte, Utf8.encode_cons, hpercent, Utf8.encodeChar_of_lt (triple_of_hexDigit _).1]
  rfl

theorem decodeBytes_encodeByte (b : UInt8) (rest : List UInt8) :
    decodeBytes (Utf8.encode (encodeByte b) ++ rest) = b :: decodeBytes rest := by
  have hb : b.toNat < 256 := b.toNat_lt
  have hvalue : b.toNat / 16 % 16 * 16 + b.toNat % 16 = b.toNat := by omega
  rw [encode_encodeByte]
  refine decodeBytes_triple ?_ rest
  simp only [byte?, hexValue?_hexDigit, Option.bind_eq_bind, Option.bind_some, hvalue,
    UInt8.ofNat_toNat]
  rfl

theorem decodeBytes_encodeBytes (bs rest : List UInt8) :
    decodeBytes (Utf8.encode (bs.flatMap encodeByte) ++ rest) = bs ++ decodeBytes rest := by
  induction bs with
  | nil => rfl
  | cons b bs ih =>
    rw [List.flatMap_cons, Utf8.encode_append, List.append_assoc, decodeBytes_encodeByte, ih]
    rfl

theorem decodeBytes_encodeChar {set : EncodeSet} (h : set '%' = true) (c : Char)
    (rest : List UInt8) :
    decodeBytes (Utf8.encode (encodeChar set c) ++ rest) = Utf8.encode [c] ++ decodeBytes rest := by
  unfold encodeChar
  split
  · next hc =>
    simp only [Bool.and_eq_true, decide_eq_true_eq, Bool.not_eq_true'] at hc
    have hne : UInt8.ofNat c.toNat ≠ 0x25 := by
      intro heq
      have hb : (UInt8.ofNat c.toNat).toNat = c.toNat :=
        UInt8.toNat_ofNat_of_lt (show c.toNat < 256 by omega)
      have hn : c.toNat = 0x25 := by
        rw [← hb, heq]
        rfl
      have hp : c = '%' := by rw [← Char.ofNat_toNat c, hn]
      rw [hp, h] at hc
      cases hc.2
    rw [Utf8.encode_cons, Utf8.encodeChar_of_lt hc.1]
    exact decodeBytes_cons_of_ne hne rest
  · exact decodeBytes_encodeBytes _ rest

theorem decodeBytes_encode {set : EncodeSet} (h : set '%' = true) (s : List Char)
    (rest : List UInt8) :
    decodeBytes (Utf8.encode (encode set s) ++ rest) = Utf8.encode s ++ decodeBytes rest := by
  induction s with
  | nil => rfl
  | cons c s ih =>
    rw [encode_cons, Utf8.encode_append, List.append_assoc, decodeBytes_encodeChar h, ih]
    simp [Utf8.encode]

theorem decode_encode {set : EncodeSet} (h : set '%' = true) (s : List Char) :
    decode (encode set s) = Utf8.encode s := by
  have := decodeBytes_encode h s []
  simpa [decode, decodeBytes] using this

theorem decode_eq_nil_iff {s : List Char} : decode s = [] ↔ s = [] := by
  rw [decode, decodeBytes_eq_nil_iff]
  constructor
  · intro h
    exact Utf8.encode_injective (t := []) h
  · rintro rfl
    rfl

end QueryClient.Url.Percent
