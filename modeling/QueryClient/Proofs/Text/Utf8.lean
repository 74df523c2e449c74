import QueryClient.Text.Utf8

/-!
# Well-formed UTF-8

The characters of a text are read back from its bytes, and only the bytes of a text are read without a
gap (`decode?_eq_some_iff`). A character beyond ASCII takes a leading byte and up to three that follow;
`scanFrom_encodeChar` and `eq_encodeChar_of_scanFrom` go through the four lengths in either direction.
-/

namespace QueryClient.Text.Utf8

theorem encode_cons (c : Char) (s : List Char) :
    encode (c :: s) = String.utf8EncodeChar c ++ encode s := rfl

@[simp] theorem encode_append (s t : List Char) : encode (s ++ t) = encode s ++ encode t := by
  simp [encode]

/-! ## The four lengths -/

theorem encodeChar_of_lt {c : Char} (h : c.toNat < 0x80) :
    String.utf8EncodeChar c = [UInt8.ofNat c.toNat] := by
  have hle : c.toNat ≤ 127 := by omega
  simp [String.utf8EncodeChar, hle]

theorem toNat_ofNat {v : Nat} (h : v.isValidChar) : (Char.ofNat v).toNat = v := by
  unfold Char.ofNat
  rw [dif_pos h]
  rfl

theorem encodeChar_one {n : Nat} (h : n < 128) :
    String.utf8EncodeChar (Char.ofNat n) = [UInt8.ofNat n] := by
  have hn : (Char.ofNat n).toNat = n := toNat_ofNat (.inl (by omega))
  rw [encodeChar_of_lt (by omega), hn]

theorem encodeChar_two {a k : Nat} (ha : 2 ≤ a) (ha' : a < 32) (hk : k < 64) :
    String.utf8EncodeChar (Char.ofNat (a * 64 + k))
      = [UInt8.ofNat (a + 192), UInt8.ofNat (k + 128)] := by
  have hv : (Char.ofNat (a * 64 + k)).toNat = a * 64 + k := toNat_ofNat (.inl (by omega))
  have h1 : (a * 64 + k) / 64 % 32 = a := by omega
  have h2 : (a * 64 + k) % 64 = k := by omega
  simp only [String.utf8EncodeChar, Char.toNat_val, hv, h1, h2]
  rw [if_neg (by omega), if_pos (by omega)]

theorem encodeChar_three {a k j : Nat} (ha : a < 16) (hk : k < 64) (hj : j < 64)
    (hlow : a = 0 → 32 ≤ k) (hhigh : a = 13 → k < 32) :
    String.utf8EncodeChar (Char.ofNat ((a * 64 + k) * 64 + j))
      = [UInt8.ofNat (a + 224), UInt8.ofNat (k + 128), UInt8.ofNat (j + 128)] := by
  have hv : (Char.ofNat ((a * 64 + k) * 64 + j)).toNat = (a * 64 + k) * 64 + j := by
    refine toNat_ofNat ?_
    unfold Nat.isValidChar
    omega
  have h1 : ((a * 64 + k) * 64 + j) / 4096 % 16 = a := by omega
  have h2 : ((a * 64 + k) * 64 + j) / 64 % 64 = k := by omega
  have h3 : ((a * 64 + k) * 64 + j) % 64 = j := by omega
  simp only [String.utf8EncodeChar, Char.toNat_val, hv, h1, h2, h3]
  rw [if_neg (by omega), if_neg (by omega), if_pos (by omega)]

theorem encodeChar_four {a k j i : Nat} (ha : a < 5) (hk : k < 64) (hj : j < 64) (hi : i < 64)
    (hlow : a = 0 → 16 ≤ k) (hhigh : a = 4 → k < 16) :
    String.utf8EncodeChar (Char.ofNat (((a * 64 + k) * 64 + j) * 64 + i))
      = [UInt8.ofNat (a + 240), UInt8.ofNat (k + 128), UInt8.ofNat (j + 128),
        UInt8.ofNat (i + 128)] := by
  have hv : (Char.ofNat (((a * 64 + k) * 64 + j) * 64 + i)).toNat
      = ((a * 64 + k) * 64 + j) * 64 + i := by
    refine toNat_ofNat ?_
    unfold Nat.isValidChar
    omega
  have h1 : (((a * 64 + k) * 64 + j) * 64 + i) / 262144 % 8 = a := by omega
  have h2 : (((a * 64 + k) * 64 + j) * 64 + i) / 4096 % 64 = k := by omega
  have h3 : (((a * 64 + k) * 64 + j) * 64 + i) / 64 % 64 = j := by omega
  have h4 : (((a * 64 + k) * 64 + j) * 64 + i) % 64 = i := by omega
  simp only [String.utf8EncodeChar, Char.toNat_val, hv, h1, h2, h3, h4]
  rw [if_neg (by omega), if_neg (by omega), if_neg (by omega)]

/-! ## Reading what was written -/

section Scan

variable {bs : List UInt8} {n : Nat}

theorem scanFrom_lead {g : Begun} (h : lead (UInt8.ofNat n) = .begun g) :
    scanFrom none (UInt8.ofNat n :: bs) = scanFrom (some g) bs := by
  simp [scanFrom, h]

theorem scanFrom_next {g : Begun} (hn : n < 256) (hlow : g.low.toNat ≤ n)
    (hhigh : n ≤ g.high.toNat) :
    scanFrom (some g) (UInt8.ofNat n :: bs)
      = if g.needed ≤ 1 then some (Char.ofNat (g.bits * 64 + n % 64)) :: scanFrom none bs
        else scanFrom (some ⟨g.needed - 1, 0x80, 0xbf, g.bits * 64 + n % 64⟩) bs := by
  have hb : (UInt8.ofNat n).toNat = n := UInt8.toNat_ofNat_of_lt hn
  have hrange : g.low ≤ UInt8.ofNat n ∧ UInt8.ofNat n ≤ g.high := by
    simp only [UInt8.le_iff_toNat_le, hb]
    exact ⟨hlow, hhigh⟩
  simp only [scanFrom, hrange, and_self, if_true, hb]

/-- A byte of six bits that is in no way special. -/
theorem scanFrom_tail {needed bits k : Nat} (hk : k < 64) :
    scanFrom (some ⟨needed, 0x80, 0xbf, bits⟩) (UInt8.ofNat (k + 128) :: bs)
      = if needed ≤ 1 then some (Char.ofNat (bits * 64 + k)) :: scanFrom none bs
        else scanFrom (some ⟨needed - 1, 0x80, 0xbf, bits * 64 + k⟩) bs := by
  have hmod : (k + 128) % 64 = k := by omega
  rw [scanFrom_next (by omega) (by simp) (by simp; omega), hmod]

/-! The leading bytes of two, three and four. -/

theorem lead_two {a : Nat} (h : 2 ≤ a) (h' : a < 32) :
    lead (UInt8.ofNat (a + 192)) = .begun ⟨1, 0x80, 0xbf, a⟩ := by
  have hb : (UInt8.ofNat (a + 192)).toNat = a + 192 :=
    UInt8.toNat_ofNat_of_lt (show a + 192 < 256 by omega)
  simp only [lead, hb]
  rw [if_neg (by omega), if_neg (by omega), if_pos (by omega), Nat.add_sub_cancel]

theorem lead_three {a : Nat} (h : a < 16) :
    lead (UInt8.ofNat (a + 224))
      = .begun ⟨2, if a = 0 then 0xa0 else 0x80, if a = 13 then 0x9f else 0xbf, a⟩ := by
  have hb : (UInt8.ofNat (a + 224)).toNat = a + 224 :=
    UInt8.toNat_ofNat_of_lt (show a + 224 < 256 by omega)
  have hlow : a + 224 = 224 ↔ a = 0 := by omega
  have hhigh : a + 224 = 237 ↔ a = 13 := by omega
  simp only [lead, hb, hlow, hhigh]
  rw [if_neg (by omega), if_neg (by omega), if_neg (by omega), if_pos (by omega),
    Nat.add_sub_cancel]

theorem lead_four {a : Nat} (h : a < 5) :
    lead (UInt8.ofNat (a + 240))
      = .begun ⟨3, if a = 0 then 0x90 else 0x80, if a = 4 then 0x8f else 0xbf, a⟩ := by
  have hb : (UInt8.ofNat (a + 240)).toNat = a + 240 :=
    UInt8.toNat_ofNat_of_lt (show a + 240 < 256 by omega)
  have hlow : a + 240 = 240 ↔ a = 0 := by omega
  have hhigh : a + 240 = 244 ↔ a = 4 := by omega
  simp only [lead, hb, hlow, hhigh]
  rw [if_neg (by omega), if_neg (by omega), if_neg (by omega), if_neg (by omega),
    if_pos (by omega), Nat.add_sub_cancel]

/-! The characters of one byte up to four. -/

theorem scanFrom_one (h : n < 128) :
    scanFrom none (UInt8.ofNat n :: bs) = some (Char.ofNat n) :: scanFrom none bs := by
  have hb : (UInt8.ofNat n).toNat = n := UInt8.toNat_ofNat_of_lt (show n < 256 by omega)
  simp [scanFrom, lead, hb, h]

variable {a k j i : Nat}

/-- The range of a second byte, which some first bytes narrow. -/
theorem second_mem {p q : Prop} [Decidable p] [Decidable q] (low high : UInt8) (hk : k < 64)
    (hlow : p → low.toNat ≤ k + 128) (hhigh : q → k + 128 ≤ high.toNat) :
    (if p then low else 0x80).toNat ≤ k + 128 ∧ k + 128 ≤ (if q then high else 0xbf).toNat := by
  constructor
  · split
    · next h => exact hlow h
    · exact Nat.le_add_left 128 k
  · split
    · next h => exact hhigh h
    · exact Nat.add_le_add_right (Nat.le_of_lt_succ hk) 128

theorem scanFrom_two (ha : 2 ≤ a) (ha' : a < 32) (hk : k < 64) :
    scanFrom none (UInt8.ofNat (a + 192) :: UInt8.ofNat (k + 128) :: bs)
      = some (Char.ofNat (a * 64 + k)) :: scanFrom none bs := by
  rw [scanFrom_lead (lead_two ha ha'), scanFrom_tail hk, if_pos (Nat.le_refl 1)]

theorem scanFrom_three (ha : a < 16) (hk : k < 64) (hj : j < 64)
    (hlow : a = 0 → 32 ≤ k) (hhigh : a = 13 → k < 32) :
    scanFrom none (UInt8.ofNat (a + 224) :: UInt8.ofNat (k + 128) :: UInt8.ofNat (j + 128) :: bs)
      = some (Char.ofNat ((a * 64 + k) * 64 + j)) :: scanFrom none bs := by
  have hmod : (k + 128) % 64 = k := by omega
  obtain ⟨hfirst, hlast⟩ := second_mem (p := a = 0) (q := a = 13) 0xa0 0x9f hk
    (fun h => Nat.add_le_add_right (hlow h) 128)
    (fun h => Nat.add_le_add_right (Nat.le_of_lt_succ (hhigh h)) 128)
  rw [scanFrom_lead (lead_three ha), scanFrom_next (by omega) hfirst hlast, if_neg (by simp), hmod,
    scanFrom_tail hj, if_pos (by simp)]

theorem scanFrom_four (ha : a < 5) (hk : k < 64) (hj : j < 64) (hi : i < 64)
    (hlow : a = 0 → 16 ≤ k) (hhigh : a = 4 → k < 16) :
    scanFrom none (UInt8.ofNat (a + 240) :: UInt8.ofNat (k + 128) :: UInt8.ofNat (j + 128)
        :: UInt8.ofNat (i + 128) :: bs)
      = some (Char.ofNat (((a * 64 + k) * 64 + j) * 64 + i)) :: scanFrom none bs := by
  have hmod : (k + 128) % 64 = k := by omega
  obtain ⟨hfirst, hlast⟩ := second_mem (p := a = 0) (q := a = 4) 0x90 0x8f hk
    (fun h => Nat.add_le_add_right (hlow h) 128)
    (fun h => Nat.add_le_add_right (Nat.le_of_lt_succ (hhigh h)) 128)
  rw [scanFrom_lead (lead_four ha), scanFrom_next (by omega) hfirst hlast, if_neg (by simp), hmod,
    scanFrom_tail hj, if_neg (by simp), scanFrom_tail hi, if_pos (by simp)]

theorem exists_sixBits (n : Nat) : ∃ a k, k < 64 ∧ n = a * 64 + k :=
  ⟨n / 64, n % 64, by omega, by omega⟩

theorem scanFrom_encodeChar (c : Char) :
    scanFrom none (String.utf8EncodeChar c ++ bs) = some c :: scanFrom none bs := by
  obtain ⟨n, hn, rfl⟩ : ∃ n, n.isValidChar ∧ c = Char.ofNat n :=
    ⟨c.toNat, c.valid, (Char.ofNat_toNat c).symm⟩
  unfold Nat.isValidChar at hn
  rcases Nat.lt_or_ge n 0x80 with h1 | h1
  · rw [encodeChar_one h1]
    exact scanFrom_one h1
  obtain ⟨n, k, hk, rfl⟩ := exists_sixBits n
  rcases Nat.lt_or_ge n 32 with h2 | h2
  · rw [encodeChar_two (by omega) h2 hk]
    exact scanFrom_two (by omega) h2 hk
  obtain ⟨n, j, hj, rfl⟩ := exists_sixBits n
  rcases Nat.lt_or_ge n 16 with h3 | h3
  · rw [encodeChar_three h3 hj hk (by omega) (by omega)]
    exact scanFrom_three h3 hj hk (by omega) (by omega)
  obtain ⟨n, i, hi, rfl⟩ := exists_sixBits n
  rw [encodeChar_four (by omega) hi hj hk (by omega) (by omega)]
  exact scanFrom_four (by omega) hi hj hk (by omega) (by omega)

theorem scan_encode (s : List Char) : scan (encode s) = s.map some := by
  unfold scan
  induction s with
  | nil => rfl
  | cons c s ih => rw [encode_cons, scanFrom_encodeChar, ih, List.map_cons]

end Scan

theorem allSome?_map_some (s : List Char) : allSome? (s.map some) = some s := by
  induction s with
  | nil => rfl
  | cons c s ih => simp [allSome?, ih]

@[simp] theorem decode?_encode (s : List Char) : decode? (encode s) = some s := by
  rw [decode?, scan_encode, allSome?_map_some]

@[simp] theorem decodeLossy_encode (s : List Char) : decodeLossy (encode s) = s := by
  simp [decodeLossy, scan_encode, Function.comp_def]

theorem encode_injective {s t : List Char} (h : encode s = encode t) : s = t := by
  have := congrArg decode? h
  simpa using this

/-! ## Writing what was read -/

theorem allSome?_cons {c : Option Char} {l : List (Option Char)} {s : List Char}
    (h : allSome? (c :: l) = some s) : ∃ d t, c = some d ∧ s = d :: t ∧ allSome? l = some t := by
  cases c with
  | none => cases h
  | some d =>
    obtain ⟨t, ht, rfl⟩ := Option.map_eq_some_iff.1 h
    exact ⟨d, t, rfl, rfl, ht⟩

theorem exists_ofNat (b : UInt8) : ∃ n, n < 256 ∧ b = UInt8.ofNat n ∧ b.toNat = n :=
  ⟨b.toNat, b.toNat_lt, UInt8.ofNat_toNat.symm, rfl⟩

section Sound

variable {bs : List UInt8} {s : List Char}

/-- A sequence that was begun goes on with a byte in its range. -/
theorem exists_next {g : Begun} (h : allSome? (scanFrom (some g) bs) = some s) :
    ∃ n rest, n < 256 ∧ bs = UInt8.ofNat n :: rest ∧ g.low.toNat ≤ n ∧ n ≤ g.high.toNat := by
  cases bs with
  | nil => simp [scanFrom, allSome?] at h
  | cons b rest =>
    obtain ⟨n, hn, hb, hbn⟩ := exists_ofNat b
    by_cases hrange : g.low ≤ b ∧ b ≤ g.high
    · simp only [UInt8.le_iff_toNat_le, hbn] at hrange
      exact ⟨n, rest, hn, by rw [hb], hrange.1, hrange.2⟩
    · simp only [scanFrom, hrange, if_false] at h
      split at h <;> simp [allSome?] at h

/-- The last byte of a sequence. -/
theorem exists_last {bits : Nat}
    (h : allSome? (scanFrom (some ⟨1, 0x80, 0xbf, bits⟩) bs) = some s) :
    ∃ k rest t, k < 64 ∧ bs = UInt8.ofNat (k + 128) :: rest
      ∧ s = Char.ofNat (bits * 64 + k) :: t ∧ allSome? (scanFrom none rest) = some t := by
  obtain ⟨n, rest, -, rfl, hlow, hhigh⟩ := exists_next h
  obtain ⟨k, rfl⟩ : ∃ k, n = k + 128 := ⟨n - 128, by simp at hlow; omega⟩
  have hk : k < 64 := by simp at hhigh; omega
  rw [scanFrom_tail hk, if_pos (Nat.le_refl 1)] at h
  obtain ⟨d, t, hd, hs, ht⟩ := allSome?_cons h
  exact ⟨k, rest, t, hk, rfl, by rw [hs, Option.some.inj hd], ht⟩

/-- A byte in the middle of a sequence. -/
theorem exists_middle {needed bits : Nat} {low high : UInt8} (hn : 1 < needed)
    (hlow : 0x80 ≤ low.toNat) (hhigh : high.toNat ≤ 0xbf)
    (h : allSome? (scanFrom (some ⟨needed, low, high, bits⟩) bs) = some s) :
    ∃ k rest, k < 64 ∧ bs = UInt8.ofNat (k + 128) :: rest
      ∧ low.toNat ≤ k + 128 ∧ k + 128 ≤ high.toNat
      ∧ allSome? (scanFrom (some ⟨needed - 1, 0x80, 0xbf, bits * 64 + k⟩) rest) = some s := by
  obtain ⟨n, rest, hn', rfl, hl, hh⟩ := exists_next h
  dsimp only at hl hh
  obtain ⟨k, rfl⟩ : ∃ k, n = k + 128 := ⟨n - 128, by omega⟩
  have hmod : (k + 128) % 64 = k := by omega
  rw [scanFrom_next hn' hl hh, if_neg (by dsimp only; omega)] at h
  dsimp only at h
  rw [hmod] at h
  exact ⟨k, rest, by omega, rfl, hl, hh, h⟩

/-- What is read first, and what it was read from. -/
theorem eq_encodeChar_of_scanFrom {b : UInt8}
    (h : allSome? (scanFrom none (b :: bs)) = some s) :
    ∃ c t rest, s = c :: t ∧ b :: bs = String.utf8EncodeChar c ++ rest
      ∧ allSome? (scanFrom none rest) = some t := by
  obtain ⟨n, hn, rfl, hb⟩ := exists_ofNat b
  rcases Nat.lt_or_ge n 0x80 with h1 | h1
  · have hlead : lead (UInt8.ofNat n) = .char (Char.ofNat n) := by simp [lead, hb, h1]
    simp only [scanFrom, hlead] at h
    obtain ⟨c, t, hc, hs, ht⟩ := allSome?_cons h
    obtain rfl := Option.some.inj hc
    exact ⟨_, t, bs, hs, by rw [encodeChar_one h1]; rfl, ht⟩
  · rcases Nat.lt_or_ge n 0xc2 with h2 | h2
    · have hlead : lead (UInt8.ofNat n) = .illFormed := by
        simp only [lead, hb]
        rw [if_neg (by omega), if_pos h2]
      simp [scanFrom, hlead, allSome?] at h
    · rcases Nat.lt_or_ge n 0xe0 with h3 | h3
      · obtain ⟨a, rfl⟩ : ∃ a, n = a + 192 := ⟨n - 192, by omega⟩
        have ha : 2 ≤ a ∧ a < 32 := by omega
        rw [scanFrom_lead (lead_two ha.1 ha.2)] at h
        obtain ⟨k, rest, t, hk, rfl, hs, ht⟩ := exists_last h
        exact ⟨_, t, rest, hs, by rw [encodeChar_two ha.1 ha.2 hk]; rfl, ht⟩
      · rcases Nat.lt_or_ge n 0xf0 with h4 | h4
        · obtain ⟨a, rfl⟩ : ∃ a, n = a + 224 := ⟨n - 224, by omega⟩
          have ha : a < 16 := by omega
          rw [scanFrom_lead (lead_three ha)] at h
          obtain ⟨k, rest, hk, rfl, hlow, hhigh, h⟩ :=
            exists_middle (by omega) (by split <;> simp) (by split <;> simp) h
          obtain ⟨j, rest, t, hj, rfl, hs, ht⟩ := exists_last h
          have hcode := encodeChar_three ha hk hj
            (fun ha => by simp [ha] at hlow; omega) (fun ha => by simp [ha] at hhigh; omega)
          exact ⟨_, t, rest, hs, by rw [hcode]; rfl, ht⟩
        · rcases Nat.lt_or_ge n 0xf5 with h5 | h5
          · obtain ⟨a, rfl⟩ : ∃ a, n = a + 240 := ⟨n - 240, by omega⟩
            have ha : a < 5 := by omega
            rw [scanFrom_lead (lead_four ha)] at h
            obtain ⟨k, rest, hk, rfl, hlow, hhigh, h⟩ :=
              exists_middle (by omega) (by split <;> simp) (by split <;> simp) h
            obtain ⟨j, rest, hj, rfl, -, -, h⟩ := exists_middle (by omega) (by simp) (by simp) h
            obtain ⟨i, rest, t, hi, rfl, hs, ht⟩ := exists_last h
            have hcode := encodeChar_four ha hk hj hi
              (fun ha => by simp [ha] at hlow; omega) (fun ha => by simp [ha] at hhigh; omega)
            exact ⟨_, t, rest, hs, by rw [hcode]; rfl, ht⟩
          · have hlead : lead (UInt8.ofNat n) = .illFormed := by
              simp only [lead, hb]
              rw [if_neg (by omega), if_neg (by omega), if_neg (by omega), if_neg (by omega),
                if_neg (by omega)]
            simp [scanFrom, hlead, allSome?] at h

theorem eq_encode_of_scanFrom (bytes : List UInt8) {s : List Char}
    (h : allSome? (scanFrom none bytes) = some s) : bytes = encode s := by
  match bytes with
  | [] =>
    obtain rfl : s = [] := by simpa [scanFrom, allSome?] using h.symm
    rfl
  | b :: bs =>
    obtain ⟨c, t, rest, rfl, hbytes, ht⟩ := eq_encodeChar_of_scanFrom h
    have hlen : rest.length ≤ bs.length := by
      have := congrArg List.length hbytes
      have hpos := List.length_pos_iff.2 (@String.utf8EncodeChar_ne_nil c)
      simp only [List.length_cons, List.length_append] at this
      omega
    rw [encode_cons, ← eq_encode_of_scanFrom rest ht, hbytes]
termination_by bytes.length

end Sound

theorem decode?_eq_some_iff {bytes : List UInt8} {s : List Char} :
    decode? bytes = some s ↔ bytes = encode s :=
  ⟨fun h => eq_encode_of_scanFrom bytes h, fun h => h ▸ decode?_encode s⟩

/-- A byte of ASCII is a character. -/
theorem encode_eq_cons {b : UInt8} {bs : List UInt8} {s : List Char} (hb : b.toNat < 0x80)
    (h : encode s = b :: bs) : ∃ t, s = Char.ofNat b.toNat :: t ∧ encode t = bs := by
  have hscan : scan (b :: bs) = some (Char.ofNat b.toNat) :: scan bs := by
    simp [scan, scanFrom, lead, hb]
  rw [← h, scan_encode] at hscan
  cases s with
  | nil => cases hscan
  | cons c t =>
    obtain ⟨hc, ht⟩ := List.cons.inj hscan
    refine ⟨t, by rw [Option.some.inj hc], ?_⟩
    have hdecode : decode? bs = some t := by rw [decode?, ← ht, allSome?_map_some]
    exact (decode?_eq_some_iff.1 hdecode).symm

end QueryClient.Text.Utf8
