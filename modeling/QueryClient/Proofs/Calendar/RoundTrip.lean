import QueryClient.Proofs.Calendar.Instant
import QueryClient.Proofs.Calendar.Reading
import Mathlib.Data.List.DropRight

/-!
# Texts of dates and timestamps and back

What is written is read as it was in its own direction (`Date.ofText?_text`, `Timestamp.ofText?_text`,
`ofInput_inputText`) and in no other, since each direction has a character that the other one never
has (`Timestamp.separated?_eq_none`). What is read was written, but for signs and for the zeros at the
end of a fraction (`Date.text_of_ofText?`, `Timestamp.text_of_ofText?`).
-/

namespace QueryClient.Calendar

open QueryClient.Text Decimal

/-! ## Fractions -/

section Fraction

variable {n : Nat} {ds : List Char}

theorem exists_valueFrom? (h : ∀ c ∈ ds, c.isDigit = true) (acc : Nat) :
    ∃ v, valueFrom? acc ds = some v := by
  induction ds generalizing acc with
  | nil => exact ⟨acc, rfl⟩
  | cons c ds ih =>
    obtain ⟨hc, hds⟩ := List.forall_mem_cons.1 h
    have hrange : 0x30 ≤ c.val ∧ c.val ≤ 0x39 := by
      simpa [Char.isDigit] using hc
    have hdigit : digit? c = some (c.toNat - 0x30) := if_pos hrange
    simp only [valueFrom?, hdigit]
    exact ih hds _

/-- Nine digits are those of their nanoseconds; fewer are filled up with zeros. -/
theorem padded_nanoseconds (h : ∀ c ∈ ds, c.isDigit = true) (hlen : ds.length ≤ 9) :
    padded 9 (nanoseconds ds) = ds ++ List.replicate (9 - ds.length) '0' := by
  have hdigits : ∀ c ∈ ds ++ List.replicate (9 - ds.length) '0', c.isDigit = true := by
    intro c hc
    rcases List.mem_append.1 hc with hc | hc
    · exact h c hc
    · rw [List.eq_of_mem_replicate hc]
      rfl
  obtain ⟨v, hv⟩ := exists_valueFrom? hdigits 0
  have hn : nanoseconds ds = v := by
    simp only [nanoseconds, List.take_of_length_le hlen, hv, Option.getD_some]
  have hnine : (ds ++ List.replicate (9 - ds.length) '0').length = 9 := by
    rw [List.length_append, List.length_replicate]
    omega
  have hpadded := padded_of_valueFrom? (by rw [← List.length_pos_iff]; omega) hv
  rwa [hnine, ← hn] at hpadded

theorem nanoseconds_of_padded (hlen : ds.length ≤ 9)
    (h : padded 9 n = ds ++ List.replicate (9 - ds.length) '0') : nanoseconds ds = n := by
  have hvalue := (value?_eq_some_iff.1 (value?_padded 9 n)).2
  rw [h] at hvalue
  simp only [nanoseconds, List.take_of_length_le hlen, hvalue, Option.getD_some]

theorem fractionDigits_append_zeros (n : Nat) :
    ∃ k, padded 9 n = fractionDigits n ++ List.replicate k '0' := by
  refine ⟨((padded 9 n).rtakeWhile (· = '0')).length, ?_⟩
  have hzeros : (padded 9 n).rtakeWhile (· = '0')
      = List.replicate ((padded 9 n).rtakeWhile (· = '0')).length '0' := by
    refine List.eq_replicate_iff.2 ⟨rfl, fun c hc => ?_⟩
    simpa using List.mem_rtakeWhile_imp hc
  rw [← hzeros]
  exact (List.rdropWhile_append_rtakeWhile).symm

theorem nanoseconds_fractionDigits (h : n < 1000000000) : nanoseconds (fractionDigits n) = n := by
  obtain ⟨k, hk⟩ := fractionDigits_append_zeros n
  have hlen := length_padded (w := 9) (by decide) h
  rw [hk, List.length_append, List.length_replicate] at hlen
  obtain rfl : k = 9 - (fractionDigits n).length := by omega
  exact nanoseconds_of_padded (by omega) hk

theorem isDigit_of_mem_fractionDigits {c : Char} (h : c ∈ fractionDigits n) : c.isDigit = true := by
  obtain ⟨k, hk⟩ := fractionDigits_append_zeros n
  exact isDigit_of_mem_padded (hk ▸ List.mem_append_left _ h)

/-- Digits without a zero at the end are those that their nanoseconds are written with. -/
theorem fractionDigits_nanoseconds (h : ∀ c ∈ ds, c.isDigit = true) (hlen : ds.length ≤ 9)
    (hlast : ds.getLast? ≠ some '0') : fractionDigits (nanoseconds ds) = ds := by
  have hzeros : ∀ c ∈ List.replicate (9 - ds.length) '0', decide (c = '0') = true := by
    simp
  have hds : ds.reverse.dropWhile (· = '0') = ds.reverse := by
    cases hr : ds.reverse with
    | nil => rfl
    | cons c s =>
      have hc : c ≠ '0' := by
        rintro rfl
        rw [List.reverse_eq_cons_iff.1 hr] at hlast
        simp at hlast
      simp [hc]
  rw [fractionDigits, padded_nanoseconds h hlen, List.reverse_append, List.reverse_replicate,
    List.dropWhile_append_of_pos hzeros, hds, List.reverse_reverse]

theorem isFraction_fractionChars (h : n < 1000000000) : IsFraction (fractionChars n) n := by
  unfold fractionChars
  split
  · next hzero => exact hzero ▸ .none
  · next hne =>
    have hread := nanoseconds_fractionDigits h
    have hnil : fractionDigits n ≠ [] := by
      intro hnil
      rw [hnil] at hread
      exact hne hread.symm
    have hfraction := IsFraction.digits hnil fun c => isDigit_of_mem_fractionDigits
    rwa [hread] at hfraction

theorem fractionChars_nanoseconds (hne : ds ≠ []) (h : ∀ c ∈ ds, c.isDigit = true)
    (hlen : ds.length ≤ 9) (hlast : ds.getLast? ≠ some '0') :
    fractionChars (nanoseconds ds) = '.' :: ds := by
  have hdigits := fractionDigits_nanoseconds h hlen hlast
  have hzero : nanoseconds ds ≠ 0 := by
    intro hzero
    rw [hzero] at hdigits
    exact hne hdigits.symm
  rw [fractionChars, if_neg hzero, hdigits]

end Fraction

/-! ## What is written is read -/

theorem isYear_yearText (d : Date) : IsYear (yearText d.year) d.year := by
  have hyear := d.year_mem
  unfold yearText
  split
  · next hneg =>
    have hy := IsYear.minus (n := d.year.natAbs) (by omega)
    rwa [show -(d.year.natAbs : Int) = d.year by omega] at hy
  · next hpos =>
    have hy := IsYear.plain (n := d.year.natAbs) (by omega)
    rwa [show (d.year.natAbs : Int) = d.year by omega] at hy

theorem Date.chars_eq (d : Date) : d.chars = yearText d.year ++ d.monthDay := by
  simp [Date.chars, Date.monthDay]

theorem Timestamp.chars_eq (t : Timestamp) (sep : Char) :
    t.chars sep = t.date.chars ++ sep :: (t.time.clockChars ++ fractionChars t.time.nanosecond) := by
  simp [Timestamp.chars]

theorem Timestamp.ofText?_text (t : Timestamp) : Timestamp.ofText? t.text = some t := by
  rw [Timestamp.ofText?, Timestamp.text, String.toList_ofList]
  exact Timestamp.separated?_eq_some_iff.2 ⟨_, _, isYear_yearText t.date,
    isFraction_fractionChars t.time.nanosecond_lt, by rw [t.chars_eq, Date.chars_eq]⟩

theorem Date.ofText?_text (d : Date) : Date.ofText? d.text = some d := by
  have hread : date? signedYear? d.chars = some (d, []) :=
    (date?_eq_some_iff signedYear?_eq_some_iff).2
      ⟨_, isYear_yearText d, by rw [List.append_nil, d.chars_eq]⟩
  rw [Date.ofText?, Date.text, String.toList_ofList, hread]

theorem Date.length_text (d : Date) : d.text.length = if d.year < 0 then 11 else 10 := by
  obtain ⟨hm, hd⟩ := d.month_day_lt
  have hyear := d.year_mem
  have hy : (padded 4 d.year.natAbs).length = 4 := length_padded (by decide) (by omega)
  have hm : (padded 2 d.month).length = 2 := length_padded (by decide) hm
  have hd : (padded 2 d.day).length = 2 := length_padded (by decide) hd
  rw [Date.text, String.length_ofList]
  simp only [Date.chars, yearText, List.length_append, List.length_cons, hy, hm, hd]
  split <;> simp

/-! ## Characters of a text -/

section Characters

variable {c : Char}

theorem IsYear.mem {p : List Char} {y : Int} (h : IsYear p y) (hc : c ∈ p) :
    c.isDigit = true ∨ c = '+' ∨ c = '-' := by
  cases h with
  | plain _ => exact .inl (isDigit_of_mem_padded hc)
  | plus _ =>
    rcases List.mem_cons.1 hc with hc | hc
    · exact .inr (.inl hc)
    · exact .inl (isDigit_of_mem_padded hc)
  | minus _ =>
    rcases List.mem_cons.1 hc with hc | hc
    · exact .inr (.inr hc)
    · exact .inl (isDigit_of_mem_padded hc)

theorem IsFraction.mem {f : List Char} {n : Nat} (h : IsFraction f n) (hc : c ∈ f) :
    c.isDigit = true ∨ c = '.' := by
  cases h with
  | none => cases hc
  | digits _ hds =>
    rcases List.mem_cons.1 hc with hc | hc
    · exact .inr hc
    · exact .inl (hds c hc)

theorem mem_monthDay {d : Date} (hc : c ∈ d.monthDay) : c.isDigit = true ∨ c = '-' := by
  simp only [Date.monthDay, List.mem_append, List.mem_cons] at hc
  rcases hc with (hc | hc) | hc | hc
  · exact .inr hc
  · exact .inl (isDigit_of_mem_padded hc)
  · exact .inr hc
  · exact .inl (isDigit_of_mem_padded hc)

theorem mem_clockChars {t : TimeOfDay} (hc : c ∈ t.clockChars) : c.isDigit = true ∨ c = ':' := by
  simp only [TimeOfDay.clockChars, List.mem_append, List.mem_cons] at hc
  rcases hc with (hc | hc | hc) | hc | hc
  · exact .inl (isDigit_of_mem_padded hc)
  · exact .inr hc
  · exact .inl (isDigit_of_mem_padded hc)
  · exact .inr hc
  · exact .inl (isDigit_of_mem_padded hc)

/-- A reader with a separator of its own takes digits, signs, colons and points, and nothing else. -/
theorem Timestamp.separated?_eq_none {sep : Char} {s : List Char} (hc : c ∈ s)
    (hdigit : c.isDigit = false) (hsep : c ≠ sep) (hother : c ∉ ['+', '-', ':', '.']) :
    Timestamp.separated? sep s = none := by
  simp only [List.mem_cons, List.not_mem_nil, or_false, not_or] at hother
  obtain ⟨hplus, hminus, hcolon, hpoint⟩ := hother
  cases h : Timestamp.separated? sep s with
  | none => rfl
  | some t =>
    obtain ⟨p, f, hp, hf, rfl⟩ := Timestamp.separated?_eq_some_iff.1 h
    have hyear : c ∉ p := fun hc => by simpa [hdigit, hplus, hminus] using hp.mem hc
    have hdate : c ∉ t.date.monthDay := fun hc => by
      simpa [hdigit, hminus] using mem_monthDay hc
    have hclock : c ∉ t.time.clockChars := fun hc => by
      simpa [hdigit, hcolon] using mem_clockChars hc
    have hfraction : c ∉ f := fun hc => by simpa [hdigit, hpoint] using hf.mem hc
    simp [hyear, hdate, hclock, hfraction, hsep] at hc

end Characters

/-! ## Directions -/

section Directions

variable {t : Timestamp}

theorem zoned?_of_year_neg (h : t.date.year < 0) (sep : Char) (rest : List Char) :
    zoned? (t.chars sep ++ rest) = none := by
  refine zoned?_minus ?_
  simp [Timestamp.chars, Date.chars, yearText, h]

theorem Timestamp.ofZoned_of_none {s : List Char} (h : zoned? s = none) :
    Timestamp.ofZoned s = .error .malformed := by
  simp only [Timestamp.ofZoned, h]

theorem ofInput_of_none {text : String} (hz : zoned? text.toList = none)
    (hs : Timestamp.separated? 'T' text.toList = none) :
    Timestamp.ofInput text = .error .malformed := by
  simp only [Timestamp.ofInput, Timestamp.ofZoned_of_none hz, hs]

/-- A text with an offset is read as the local time less the offset. -/
theorem ofInput_of_offset (hy : 0 ≤ t.date.year) {f rest : List Char}
    (hf : IsFraction f t.time.nanosecond) (hr : ∀ c ∈ rest.head?, c.isDigit = false ∧ c ≠ '.')
    {offset : Int} (ho : offset? rest = some (offset, [])) :
    Timestamp.ofInput (String.ofList (t.date.chars ++ 'T' :: (t.time.clockChars ++ (f ++ rest))))
      = (t.minus? offset).elim (.error .outOfRange) .ok := by
  have hz : zoned? (t.date.chars ++ 'T' :: (t.time.clockChars ++ (f ++ rest)))
      = some (t, offset, false) := by
    simpa [ho] using zoned?_chars hy 'T' (by decide) hf hr
  rw [Timestamp.ofInput, String.toList_ofList, Timestamp.ofZoned, hz]
  cases hm : t.minus? offset <;> simp [hm]

theorem ofInput_inputText (hy : 0 ≤ t.date.year) : Timestamp.ofInput t.inputText = .ok t := by
  have hzone : ∀ c ∈ ['Z'].head?, c.isDigit = false ∧ c ≠ '.' := by simp
  have hread := ofInput_of_offset hy (isFraction_fractionChars t.time.nanosecond_lt) hzone rfl
  rw [t.minus?_zero] at hread
  rw [Timestamp.inputText, t.chars_eq]
  simpa using hread

theorem ofInput_inputText_of_neg (h : t.date.year < 0) :
    Timestamp.ofInput t.inputText = .error .malformed := by
  refine ofInput_of_none ?_ ?_
  · rw [Timestamp.inputText, String.toList_ofList]
    exact zoned?_of_year_neg h _ _
  · rw [Timestamp.inputText, String.toList_ofList]
    exact Timestamp.separated?_eq_none (c := 'Z') (by simp) (by decide) (by decide) (by decide)

theorem ofText?_inputText (t : Timestamp) : Timestamp.ofText? t.inputText = none := by
  rw [Timestamp.ofText?, Timestamp.inputText, String.toList_ofList]
  exact Timestamp.separated?_eq_none (c := 'Z') (by simp) (by decide) (by decide) (by decide)

theorem ofInput_text (t : Timestamp) : Timestamp.ofInput t.text = .error .malformed := by
  refine ofInput_of_none ?_ ?_
  · rw [Timestamp.text, String.toList_ofList]
    by_cases h : t.date.year < 0
    · simpa using zoned?_of_year_neg h ' ' []
    · have hend : ∀ c ∈ ([] : List Char).head?, c.isDigit = false ∧ c ≠ '.' := by simp
      have hz := zoned?_chars (Int.not_lt.1 h) ' ' (by decide)
        (isFraction_fractionChars t.time.nanosecond_lt) hend
      rw [List.append_nil, ← t.chars_eq] at hz
      exact hz
  · rw [Timestamp.text, String.toList_ofList]
    exact Timestamp.separated?_eq_none (c := ' ') (by simp [Timestamp.chars]) (by decide)
      (by decide) (by decide)

end Directions

/-! ## What is read is written -/

/-- Whether a text does not start with a sign. -/
def IsUnsigned (s : List Char) : Prop :=
  ∀ c ∈ s.head?, c ≠ '+' ∧ c ≠ '-'

/-- The digits after the point of a text. -/
def fractionOf (s : List Char) : List Char :=
  (s.dropWhile (· ≠ '.')).tail

theorem IsYear.eq_yearText {p rest : List Char} {y : Int} (h : IsYear p y)
    (hs : IsUnsigned (p ++ rest)) : p = yearText y := by
  cases h with
  | plain _ => simp [yearText]
  | plus _ => exact absurd rfl (hs '+' rfl).1
  | minus _ => exact absurd rfl (hs '-' rfl).2

theorem Date.text_of_ofText? {text : String} {d : Date} (hs : IsUnsigned text.toList)
    (h : Date.ofText? text = some d) : d.text = text := by
  unfold Date.ofText? at h
  split at h
  · next hread =>
    obtain rfl := Option.some.inj h
    obtain ⟨p, hp, htext⟩ := (date?_eq_some_iff signedYear?_eq_some_iff).1 hread
    rw [List.append_nil] at htext
    rw [htext] at hs
    rw [Date.text, Date.chars_eq, ← hp.eq_yearText hs, ← htext, String.ofList_toList]
  · cases h

theorem Timestamp.text_of_ofText? {text : String} {t : Timestamp} (hs : IsUnsigned text.toList)
    (h : Timestamp.ofText? text = some t) (hlen : (fractionOf text.toList).length ≤ 9)
    (hlast : (fractionOf text.toList).getLast? ≠ some '0') : t.text = text := by
  obtain ⟨p, f, hp, hf, htext⟩ := Timestamp.separated?_eq_some_iff.1 h
  have hsplit : text.toList = (p ++ t.date.monthDay ++ ' ' :: t.time.clockChars) ++ f := by
    rw [htext]
    simp
  have hpoint : ∀ c ∈ p ++ t.date.monthDay ++ ' ' :: t.time.clockChars,
      decide (c ≠ '.') = true := by
    intro c hc
    refine decide_eq_true ?_
    rintro rfl
    simp only [List.mem_append, List.mem_cons] at hc
    rcases hc with (hc | hc) | hc | hc
    · exact absurd (hp.mem hc) (by decide)
    · exact absurd (mem_monthDay hc) (by decide)
    · cases hc
    · exact absurd (mem_clockChars hc) (by decide)
  have hyear : p = yearText t.date.year := by
    rw [htext, List.append_assoc] at hs
    exact hp.eq_yearText hs
  have hchars : fractionChars t.time.nanosecond = f := by
    rw [fractionOf, hsplit, List.dropWhile_append_of_pos hpoint] at hlen hlast
    generalize t.time.nanosecond = n at hf
    cases hf with
    | none => rfl
    | digits hne hds =>
      exact fractionChars_nanoseconds hne hds (by simpa using hlen) (by simpa using hlast)
  rw [Timestamp.text, t.chars_eq, Date.chars_eq, hchars, ← hyear, ← htext, String.ofList_toList]

/-- Every date and every timestamp has a text of its own in each direction, which is read as what was
written and never in the other direction. A year before 0 cannot be loaded. Apart from signs and
fractions that nobody writes, a text that is read is the text that is written. -/
theorem texts_roundTrip :
    (∀ d : Date, d.text.length = (if d.year < 0 then 11 else 10) ∧ Date.ofText? d.text = some d)
      ∧ (∀ t : Timestamp, Timestamp.ofText? t.text = some t
        ∧ (0 ≤ t.date.year → Timestamp.ofInput t.inputText = .ok t)
        ∧ (t.date.year < 0 → Timestamp.ofInput t.inputText = .error .malformed)
        ∧ Timestamp.ofText? t.inputText = none
        ∧ Timestamp.ofInput t.text = .error .malformed)
      ∧ ∀ text : String, IsUnsigned text.toList →
        (∀ d, Date.ofText? text = some d → d.text = text)
        ∧ ∀ t, Timestamp.ofText? text = some t → (fractionOf text.toList).length ≤ 9 →
          (fractionOf text.toList).getLast? ≠ some '0' → t.text = text :=
  ⟨fun d => ⟨d.length_text, d.ofText?_text⟩,
    fun t => ⟨t.ofText?_text, ofInput_inputText, ofInput_inputText_of_neg, ofText?_inputText t,
      ofInput_text t⟩,
    fun _ hs => ⟨fun _ => Date.text_of_ofText? hs, fun _ => Timestamp.text_of_ofText? hs⟩⟩

/-- A leap day before the year 0, a last nanosecond, and a text with half a second. -/
theorem texts_roundTrip_leap_day :
    let d : Date := ⟨-4, 2, 29, by decide, by decide, by decide⟩
    let t : Timestamp := ⟨d, ⟨23, 59, 59, 999999999, by decide, by decide, by decide, by decide⟩⟩
    let read : Timestamp := ⟨⟨2016, 4, 4, by decide, by decide, by decide⟩,
      ⟨11, 30, 0, 500000000, by decide, by decide, by decide, by decide⟩⟩
    d.text = "-0004-02-29" ∧ Date.ofText? "-0004-02-29" = some d
      ∧ t.date.year < 0 ∧ Timestamp.ofInput t.inputText = .error .malformed
      ∧ 0 ≤ read.date.year ∧ Timestamp.ofInput read.inputText = .ok read
      ∧ IsUnsigned "2016-04-04 11:30:00.5".toList
      ∧ Timestamp.ofText? "2016-04-04 11:30:00.5" = some read
      ∧ read.text = "2016-04-04 11:30:00.5" := by
  intro d t read
  obtain ⟨hdates, htimes, htexts⟩ := texts_roundTrip
  have htext : d.text = "-0004-02-29" := by decide
  have hsign : IsUnsigned "2016-04-04 11:30:00.5".toList := by
    intro c hc
    obtain rfl : '2' = c := by simpa using hc
    decide
  have hread : Timestamp.ofText? "2016-04-04 11:30:00.5" = some read := by decide
  have hneg : t.date.year < 0 := Int.negSucc_lt_zero 3
  have hyear : 0 ≤ read.date.year := Int.natCast_nonneg 2016
  exact ⟨htext, htext ▸ (hdates d).2, hneg, (htimes t).2.2.1 hneg, hyear, (htimes read).2.1 hyear,
    hsign, hread, (htexts _ hsign).2 read hread (by decide) (by decide)⟩

end QueryClient.Calendar