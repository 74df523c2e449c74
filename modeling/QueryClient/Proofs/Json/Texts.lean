import QueryClient.Json.Reader
import QueryClient.Proofs.Text.Numerals
import QueryClient.Proofs.Text.Split
import QueryClient.Proofs.Text.Utf8

/-!
# Strings and numbers of a JSON text

What stands between the quotes of a text that was written is read as the text
(`textOf?_content`), and the characters of a number as the number (`Number.ofChars?_write`). A
character is written as itself, as one of the short escapes, or by number; `exists_unit` is where
the three forms are told apart.
-/

namespace QueryClient.Json

open QueryClient.Text

/-! ## Strings -/

/-- What a text has between its quotes. -/
def content : Option String → List Char
  | some s => s.toList.flatMap escape
  | none => ['\\', 'u', 'd', '8', '0', '0']

theorem writeText_eq (t : Option String) : writeText t = '"' :: (content t ++ ['"']) := by
  cases t <;> rfl

/-- The forms of a character between quotes. -/
theorem escape_cases (c : Char) :
    (∃ d, escape c = ['\\', d] ∧ d ≠ 'u' ∧ shortEscape? d = some c)
      ∨ (c.toNat < 0x20
        ∧ escape c = ['\\', 'u', '0', '0', hexDigit (c.toNat / 16), hexDigit c.toNat])
      ∨ (0x20 ≤ c.toNat ∧ c ≠ '"' ∧ c ≠ '\\' ∧ escape c = [c]) := by
  unfold escape
  split
  case h_8 hquote hslash _ _ _ _ _ =>
    split
    · next h => exact .inr (.inl ⟨h, rfl⟩)
    · next h => exact .inr (.inr ⟨Nat.le_of_not_lt h, hquote, hslash, rfl⟩)
  all_goals exact .inl ⟨_, rfl, by decide, rfl⟩

theorem hex4?_control {n : Nat} (h : n < 0x20) :
    hex4? '0' '0' (hexDigit (n / 16)) (hexDigit n) = some n := by
  revert n
  decide

/-- A code below the surrogates is a character by itself. -/
theorem join?_code {n : Nat} (h : n < 0xd800) (us : List TextUnit) :
    join? (.code n :: us) = (join? us).map (Char.ofNat n :: ·) := by
  have hhigh : isHighSurrogate n = false := by simp [isHighSurrogate]; omega
  have hlow : isLowSurrogate n = false := by simp [isLowSurrogate]; omega
  cases us with
  | nil => simp [join?, hhigh, hlow]
  | cons u us => cases u <;> simp [join?, hhigh, hlow]

/-- A character between quotes is one piece, and the piece is the character. -/
theorem exists_unit (c : Char) :
    ∃ u, (∀ rest, units? ((escape c).map some ++ rest) = (units? rest).map (u :: ·))
      ∧ ∀ us, join? (u :: us) = (join? us).map (c :: ·) := by
  rcases escape_cases c with ⟨d, he, hu, hd⟩ | ⟨hc, he⟩ | ⟨hc, -, hslash, he⟩
  · refine ⟨.char c, fun rest => ?_, fun us => rfl⟩
    simp only [he, List.map_cons, List.map_nil, List.cons_append, List.nil_append, units?, hu,
      imp_self, implies_true, hd, Option.bind_eq_bind, Option.bind_some]
    cases units? rest <;> rfl
  · refine ⟨.code c.toNat, fun rest => ?_, fun us => ?_⟩
    · simp only [he, List.map_cons, List.map_nil, List.cons_append, List.nil_append, units?,
        hex4?_control hc, Option.bind_eq_bind, Option.bind_some]
      cases units? rest <;> rfl
    · rw [join?_code (by omega), Char.ofNat_toNat]
  · refine ⟨.char c, fun rest => ?_, fun us => rfl⟩
    have hlow : ¬ c.toNat < 0x20 := Nat.not_lt.2 hc
    simp [he, units?, hslash, hlow]

theorem exists_units (s : List Char) :
    ∃ us, units? ((s.flatMap escape).map some) = some us ∧ join? us = some s := by
  induction s with
  | nil => exact ⟨[], rfl, rfl⟩
  | cons c s ih =>
    obtain ⟨us, hus, hs⟩ := ih
    obtain ⟨u, hu, hc⟩ := exists_unit c
    refine ⟨u :: us, ?_, ?_⟩
    · rw [List.flatMap_cons, List.map_append, hu, hus, Option.map_some]
    · rw [hc, hs, Option.map_some]

theorem textOf?_content (t : Option String) : textOf? ((content t).map some) = some t := by
  cases t with
  | none => decide
  | some s =>
    obtain ⟨us, hus, hs⟩ := exists_units s.toList
    rw [textOf?, content, hus, Option.map_some, hs, Option.map_some, String.ofList_toList]

/-! ## Numbers -/

namespace Number

/-- The fraction of a number with its point. -/
def fractionText (n : Number) : List Char :=
  if n.fraction.isEmpty then [] else '.' :: n.fraction.map fun d => Decimal.digit d.val

/-- The exponent of a number with its mark. -/
def exponentText (n : Number) : List Char :=
  match n.exponent with
  | none => []
  | some e => 'e' :: Decimal.signed e

theorem write_eq (n : Number) :
    n.write = (if n.negative then ['-'] else [])
      ++ (Decimal.digits n.whole ++ (n.fractionText ++ n.exponentText)) := by
  have hwrite : n.write = (if n.negative then ['-'] else []) ++ Decimal.digits n.whole
      ++ n.fractionText ++ n.exponentText := rfl
  rw [hwrite, List.append_assoc, List.append_assoc]

theorem digit?_digit (d : Fin 10) : Decimal.digit? (Decimal.digit d.val) = some d.val := by
  revert d
  decide

theorem fractionOf?_map (ds : List (Fin 10)) :
    fractionOf? (ds.map fun d => Decimal.digit d.val) = some ds := by
  induction ds with
  | nil => rfl
  | cons d ds ih => simp [fractionOf?, digit?_digit, ih]

theorem exponentOf?_signed (e : Int) : exponentOf? (Decimal.signed e) = some e := by
  cases e with
  | negSucc n =>
    rw [Decimal.signed, exponentOf?, Decimal.value?_digits]
    rfl
  | ofNat n =>
    have hds := Decimal.isDigits_digits n
    rw [Decimal.signed]
    unfold exponentOf?
    split
    · next h => exact absurd h (hds.ne_cons rfl _)
    · next h => exact absurd h (hds.ne_cons rfl _)
    · rw [Decimal.value?_digits]
      rfl

theorem head?_exponentText {n : Number} {c : Char} (h : n.exponentText.head? = some c) :
    c = 'e' := by
  unfold exponentText at h
  cases he : n.exponent <;> simp [he] at h
  exact h.symm

theorem tailOf?_write (n : Number) :
    tailOf? (n.fractionText ++ n.exponentText) = some (n.fraction, n.exponent) := by
  cases hf : n.fraction with
  | nil =>
    cases he : n.exponent with
    | none => simp [fractionText, exponentText, hf, he, tailOf?]
    | some e => simp [fractionText, exponentText, hf, he, tailOf?, exponentOf?_signed]
  | cons d ds =>
    have htext : n.fractionText = '.' :: (d :: ds).map fun d => Decimal.digit d.val := by
      simp [fractionText, hf]
    have hall : ∀ d : Fin 10,
        (!(decide (Decimal.digit d = 'e') || decide (Decimal.digit d = 'E'))) = true := by decide
    have hdigits : ∀ c ∈ (d :: ds).map fun d => Decimal.digit d.val,
        (!(decide (c = 'e') || decide (c = 'E'))) = true := by
      intro c hc
      obtain ⟨x, -, rfl⟩ := List.mem_map.1 hc
      exact hall x
    have hmark : ∀ c ∈ n.exponentText.head?,
        (!(decide (c = 'e') || decide (c = 'E'))) = false := fun c hc => by
      rw [head?_exponentText hc]
      rfl
    have htake := takeWhile_append_eq_left hdigits hmark
    have hdrop := dropWhile_append_eq_right hdigits hmark
    rw [htext, List.cons_append, tailOf?]
    simp only [htake, hdrop, fractionOf?_map]
    cases he : n.exponent with
    | none => simp [exponentText, he]
    | some e => simp [exponentText, he, exponentOf?_signed]

/-- Digits that start with a zero are that zero. -/
theorem length_digits_of_head? {n : Nat} (h : (Decimal.digits n).head? = some '0') :
    (Decimal.digits n).length = 1 := by
  obtain ⟨t, ht⟩ := List.head?_eq_some_iff.1 h
  have hvalue := Decimal.valueFrom?_digits n
  have hle : (Decimal.digits n).length ≤ (Decimal.padded t.length n).length := by
    rw [Decimal.padded, List.length_append]
    omega
  rw [ht] at hvalue hle ⊢
  by_cases hne : t = []
  · rw [hne]
    rfl
  · rw [Decimal.padded_of_valueFrom? hne hvalue, List.length_cons] at hle
    omega

theorem ofChars?_write (n : Number) : ofChars? n.write = some n := by
  have hds := Decimal.isDigits_digits n.whole
  have hzero : ¬ ((Decimal.digits n.whole).head? = some '0'
      ∧ (Decimal.digits n.whole).length ≠ 1) := fun h => h.2 (length_digits_of_head? h.1)
  have hplain :
      (Decimal.digits n.whole ++ (n.fractionText ++ n.exponentText)).head? ≠ some '-' := by
    obtain ⟨c, t, ht⟩ := List.exists_cons_of_ne_nil hds.ne_nil
    have hc : c.isDigit = true := hds.isDigit c (ht ▸ List.mem_cons_self)
    rw [ht, List.cons_append, List.head?_cons]
    rintro ⟨⟩
    cases hc
  have htail : ∀ c ∈ (n.fractionText ++ n.exponentText).head?, c.isDigit = false := by
    intro c hc
    unfold fractionText at hc
    split at hc
    · rw [head?_exponentText hc]
      decide
    · obtain rfl := Option.some.inj hc
      decide
  have htake := takeWhile_append_eq_left hds.isDigit htail
  have hdrop := dropWhile_append_eq_right hds.isDigit htail
  rw [write_eq]
  unfold ofChars?
  cases hn : n.negative with
  | true =>
    simp only [if_true, List.singleton_append, List.head?_cons, decide_true, List.tail_cons, htake,
      hdrop, if_neg hzero, Decimal.value?_digits, tailOf?_write]
    rw [← hn]
    rfl
  | false =>
    simp only [Bool.false_eq_true, if_false, List.nil_append, decide_eq_false hplain, if_neg hplain,
      htake, hdrop, if_neg hzero, Decimal.value?_digits, tailOf?_write]
    rw [← hn]
    rfl

theorem isNumberChar_of_isDigit {c : Char} (h : c.isDigit = true) : isNumberChar c = true := by
  simp [isNumberChar, h]

theorem isNumberChar_of_mem_signed {e : Int} {c : Char} (h : c ∈ Decimal.signed e) :
    isNumberChar c = true := by
  cases e with
  | ofNat n => exact isNumberChar_of_isDigit (Decimal.isDigit_of_mem_digits h)
  | negSucc n =>
    rcases List.mem_cons.1 h with rfl | h
    · decide
    · exact isNumberChar_of_isDigit (Decimal.isDigit_of_mem_digits h)

theorem isNumberChar_of_mem_write {n : Number} {c : Char} (h : c ∈ n.write) :
    isNumberChar c = true := by
  rw [write_eq, List.mem_append, List.mem_append, List.mem_append] at h
  rcases h with h | h | h | h
  · split at h
    · obtain rfl := List.mem_singleton.1 h
      decide
    · cases h
  · exact isNumberChar_of_isDigit (Decimal.isDigit_of_mem_digits h)
  · unfold fractionText at h
    split at h
    · cases h
    · rcases List.mem_cons.1 h with rfl | h
      · decide
      · have hall : ∀ d : Fin 10, isNumberChar (Decimal.digit d.val) = true := by decide
        obtain ⟨d, -, rfl⟩ := List.mem_map.1 h
        exact hall d
  · unfold exponentText at h
    split at h
    · cases h
    · rcases List.mem_cons.1 h with rfl | h
      · decide
      · exact isNumberChar_of_mem_signed h

theorem write_ne_nil (n : Number) : n.write ≠ [] := by
  rw [write_eq]
  have := Decimal.digits_ne_nil n.whole
  simp [this]

end Number

end QueryClient.Json
