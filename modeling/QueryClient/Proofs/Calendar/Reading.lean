import QueryClient.Calendar.Text
import QueryClient.Proofs.Calendar.Days
import QueryClient.Proofs.Text.Decimal
import QueryClient.Proofs.Text.Split
import Mathlib.Data.List.TakeWhile

/-!
# What is read as a timestamp

The texts of dates and timestamps as grammars: what each reader accepts is a year of four digits, then
parts of two digits with their separators, then a fraction (`Timestamp.separated?_eq_some_iff`). With
an offset the year has no sign, and what follows the fraction is read by `offset?` (`zoned?_chars`).
-/

namespace QueryClient.Calendar

open QueryClient.Text Decimal

theorem fixed?_eq_some_iff {w n : Nat} (hw : 0 < w) {s rest : List Char} :
    fixed? w s = some (n, rest) ↔ n < 10 ^ w ∧ s = padded w n ++ rest := by
  constructor
  · intro h
    unfold fixed? at h
    dsimp only at h
    split at h
    · next hlen =>
      obtain ⟨v, hv, h⟩ := Option.map_eq_some_iff.1 h
      obtain ⟨rfl, rfl⟩ := Prod.mk.inj h
      obtain ⟨hne, hv⟩ := value?_eq_some_iff.1 hv
      have hlt := lt_of_valueFrom? hv
      have hpadded := padded_of_valueFrom? hne hv
      rw [hlen] at hlt hpadded
      exact ⟨hlt, by rw [hpadded, List.take_append_drop]⟩
    · cases h
  · rintro ⟨hlt, rfl⟩
    have hlen := length_padded hw hlt
    have htake : (padded w n ++ rest).take w = padded w n := List.take_left' hlen
    have hdrop : (padded w n ++ rest).drop w = rest := List.drop_left' hlen
    simp only [fixed?, htake, hdrop, hlen, value?_padded, if_true, Option.map_some]

theorem after?_eq_some_iff {c : Char} {s rest : List Char} :
    after? c s = some rest ↔ s = c :: rest := by
  cases s with
  | nil => simp [after?]
  | cons d s => simp [after?]

theorem isDigit_of_padded_append {w n : Nat} {c : Char} {s t : List Char}
    (h : padded w n ++ s = c :: t) : c.isDigit = true := by
  cases hp : padded w n with
  | nil => exact absurd hp (padded_ne_nil w n)
  | cons d p =>
    rw [hp] at h
    obtain rfl := (List.cons.inj h).1
    exact isDigit_of_mem_padded (hp ▸ List.mem_cons_self)

/-- The texts of a year: four digits, with an optional sign. -/
inductive IsYear : List Char → Int → Prop
  | plain {n : Nat} (h : n < 10000) : IsYear (padded 4 n) n
  | plus {n : Nat} (h : n < 10000) : IsYear ('+' :: padded 4 n) n
  | minus {n : Nat} (h : n < 10000) : IsYear ('-' :: padded 4 n) (-n)

theorem signedYear?_eq_some_iff {s rest : List Char} {y : Int} :
    signedYear? s = some (y, rest) ↔ ∃ p, IsYear p y ∧ s = p ++ rest := by
  have hfixed {n : Nat} {s : List Char} :
      fixed? 4 s = some (n, rest) ↔ n < 10000 ∧ s = padded 4 n ++ rest :=
    fixed?_eq_some_iff (by decide)
  constructor
  · intro h
    unfold signedYear? at h
    split at h <;>
      obtain ⟨⟨n, r⟩, hread, h⟩ := Option.map_eq_some_iff.1 h <;>
      obtain ⟨rfl, rfl⟩ := Prod.mk.inj h <;>
      obtain ⟨hlt, rfl⟩ := hfixed.1 hread
    · exact ⟨_, .minus hlt, rfl⟩
    · exact ⟨_, .plus hlt, rfl⟩
    · exact ⟨_, .plain hlt, rfl⟩
  · rintro ⟨p, hp, rfl⟩
    cases hp with
    | plain hlt =>
      unfold signedYear?
      split
      · next heq => cases isDigit_of_padded_append heq
      · next heq => cases isDigit_of_padded_append heq
      · rw [hfixed.2 ⟨hlt, rfl⟩, Option.map_some]
    | plus hlt | minus hlt =>
      simp only [List.cons_append, signedYear?, hfixed.2 ⟨hlt, rfl⟩, Option.map_some]

theorem TimeOfDay.of?_eq_some_iff {h m s n : Nat} {t : TimeOfDay} :
    TimeOfDay.of? h m s n = some t ↔ t.hour = h ∧ t.minute = m ∧ t.second = s ∧ t.nanosecond = n := by
  unfold TimeOfDay.of?
  constructor
  · intro h
    split at h
    · obtain rfl := Option.some.inj h
      exact ⟨rfl, rfl, rfl, rfl⟩
    · cases h
  · rintro ⟨rfl, rfl, rfl, rfl⟩
    rw [dif_pos ⟨t.hour_lt, t.minute_lt, t.second_lt, t.nanosecond_lt⟩]

/-- The text of a month and a day. -/
def Date.monthDay (d : Date) : List Char :=
  '-' :: padded 2 d.month ++ '-' :: padded 2 d.day

theorem Date.month_day_lt (d : Date) : d.month < 10 ^ 2 ∧ d.day < 10 ^ 2 := by
  have hmonth := d.month_mem
  have hday := d.day_mem
  have hdays := daysInMonth_le d.year d.month
  omega

section Date

variable {year? : Read Int} {Year : List Char → Int → Prop}
  (hyear : ∀ {s rest y}, year? s = some (y, rest) ↔ ∃ p, Year p y ∧ s = p ++ rest)

include hyear in
theorem date?_eq_some_iff {s rest : List Char} {d : Date} :
    date? year? s = some (d, rest) ↔ ∃ p, Year p d.year ∧ s = p ++ d.monthDay ++ rest := by
  simp only [date?, Option.bind_eq_bind, Option.bind_eq_some_iff, Prod.exists, hyear,
    after?_eq_some_iff, fixed?_eq_some_iff (show 0 < 2 by decide), Date.of?_eq_some_iff,
    Option.pure_def, Option.some.injEq, Prod.mk.injEq]
  constructor
  · rintro ⟨y, s₁, ⟨p, hp, rfl⟩, s₂, rfl, m, s₃, ⟨-, rfl⟩, s₄, rfl, n, s₅, ⟨-, rfl⟩, e,
      ⟨rfl, rfl, rfl⟩, rfl, rfl⟩
    exact ⟨p, hp, by simp [Date.monthDay]⟩
  · rintro ⟨p, hp, rfl⟩
    obtain ⟨hm, hd⟩ := d.month_day_lt
    exact ⟨_, _, ⟨p, hp, List.append_assoc ..⟩, _, rfl, _, _, ⟨hm, List.append_assoc ..⟩, _, rfl,
      _, _, ⟨hd, rfl⟩, d, ⟨rfl, rfl, rfl⟩, rfl, rfl⟩

end Date

theorem clock?_eq_some_iff {h m sec : Nat} {s rest : List Char} :
    clock? s = some ((h, m, sec), rest) ↔ (h < 10 ^ 2 ∧ m < 10 ^ 2 ∧ sec < 10 ^ 2)
      ∧ s = padded 2 h ++ ':' :: padded 2 m ++ ':' :: padded 2 sec ++ rest := by
  simp only [clock?, Option.bind_eq_bind, Option.bind_eq_some_iff, Prod.exists,
    after?_eq_some_iff, fixed?_eq_some_iff (show 0 < 2 by decide), Option.pure_def,
    Option.some.injEq, Prod.mk.injEq]
  constructor
  · rintro ⟨h, s₁, ⟨hh, rfl⟩, s₂, rfl, m, s₃, ⟨hm, rfl⟩, s₄, rfl, sec, s₅, ⟨hs, rfl⟩,
      ⟨rfl, rfl, rfl⟩, rfl⟩
    exact ⟨⟨hh, hm, hs⟩, by simp⟩
  · rintro ⟨⟨hh, hm, hs⟩, rfl⟩
    have hassoc : padded 2 h ++ ':' :: padded 2 m ++ ':' :: padded 2 sec ++ rest
        = padded 2 h ++ ':' :: (padded 2 m ++ ':' :: (padded 2 sec ++ rest)) := by simp
    exact ⟨h, _, ⟨hh, hassoc⟩, _, rfl, m, _, ⟨hm, rfl⟩, _, rfl, sec, rest, ⟨hs, rfl⟩,
      ⟨rfl, rfl, rfl⟩, rfl⟩

theorem clock?_clockChars (t : TimeOfDay) (rest : List Char) :
    clock? (t.clockChars ++ rest) = some ((t.hour, t.minute, t.second), rest) := by
  have hhour := t.hour_lt
  have hminute := t.minute_lt
  have hsecond := t.second_lt
  exact clock?_eq_some_iff.2 ⟨by omega, rfl⟩

/-- The texts of a fraction of a second, which may be missing. -/
inductive IsFraction : List Char → Nat → Prop
  | none : IsFraction [] 0
  | digits {ds : List Char} (hne : ds ≠ []) (h : ∀ c ∈ ds, c.isDigit = true) :
    IsFraction ('.' :: ds) (nanoseconds ds)

section Fraction

variable {n : Nat} {f rest : List Char}

theorem fraction_append (hf : IsFraction f n)
    (hr : ∀ c ∈ rest.head?, c.isDigit = false ∧ c ≠ '.') : fraction (f ++ rest) = (n, rest) := by
  have hend : ∀ c ∈ rest.head?, c.isDigit = false := fun c hc => (hr c hc).1
  cases hf with
  | none =>
    unfold fraction
    split
    · next heq => exact absurd rfl (hr '.' (by simp at heq; simp [heq])).2
    · rfl
  | @digits ds hne h =>
    have htake := takeWhile_append_eq_left h hend
    have hdrop := dropWhile_append_eq_right h hend
    simp only [List.cons_append, fraction, htake, hdrop, List.isEmpty_iff, hne, if_false]

theorem fraction_eq_nil_iff : fraction f = (n, []) ↔ IsFraction f n := by
  constructor
  · intro h
    unfold fraction at h
    split at h
    · next s =>
      dsimp only at h
      split at h
      · cases h
      · next hne =>
        obtain ⟨rfl, hs⟩ := Prod.mk.inj h
        have hall : ∀ c ∈ s, c.isDigit = true := List.dropWhile_eq_nil_iff.1 hs
        have htake : s.takeWhile Char.isDigit = s := List.takeWhile_eq_self_iff.2 hall
        rw [htake] at hne ⊢
        exact .digits (by simpa using hne) hall
    · obtain ⟨rfl, rfl⟩ := Prod.mk.inj h
      exact .none
  · intro h
    have hend : ∀ c ∈ ([] : List Char).head?, c.isDigit = false ∧ c ≠ '.' := by simp
    simpa using fraction_append h hend

end Fraction

theorem Timestamp.separated?_eq_some_iff {sep : Char} {s : List Char} {t : Timestamp} :
    Timestamp.separated? sep s = some t ↔ ∃ p f, IsYear p t.date.year
      ∧ IsFraction f t.time.nanosecond
      ∧ s = p ++ t.date.monthDay ++ sep :: (t.time.clockChars ++ f) := by
  constructor
  · intro h
    unfold Timestamp.separated? at h
    obtain ⟨⟨d, s₁⟩, hd, h⟩ := Option.bind_eq_some_iff.1 h
    obtain ⟨s₂, hsep, h⟩ := Option.bind_eq_some_iff.1 h
    obtain ⟨⟨⟨hour, minute, second⟩, s₃⟩, hc, h⟩ := Option.bind_eq_some_iff.1 h
    dsimp only at h
    split at h
    · next hend =>
      obtain ⟨c, hof, h⟩ := Option.bind_eq_some_iff.1 h
      obtain rfl := Option.some.inj h
      obtain ⟨p, hp, rfl⟩ := (date?_eq_some_iff signedYear?_eq_some_iff).1 hd
      obtain rfl := after?_eq_some_iff.1 hsep
      obtain ⟨-, rfl⟩ := clock?_eq_some_iff.1 hc
      obtain ⟨rfl, rfl, rfl, hn⟩ := TimeOfDay.of?_eq_some_iff.1 hof
      refine ⟨p, s₃, hp, ?_, ?_⟩
      · have hfraction : fraction s₃ = (c.nanosecond, []) :=
          Prod.ext hn.symm (List.isEmpty_iff.1 hend)
        exact fraction_eq_nil_iff.1 hfraction
      · simp [TimeOfDay.clockChars]
    · cases h
  · rintro ⟨p, f, hp, hf, rfl⟩
    have hd : date? signedYear? (p ++ t.date.monthDay ++ sep :: (t.time.clockChars ++ f))
        = some (t.date, sep :: (t.time.clockChars ++ f)) :=
      (date?_eq_some_iff signedYear?_eq_some_iff).2 ⟨p, hp, rfl⟩
    have hof : TimeOfDay.of? t.time.hour t.time.minute t.time.second t.time.nanosecond
        = some t.time := TimeOfDay.of?_eq_some_iff.2 ⟨rfl, rfl, rfl, rfl⟩
    simp only [separated?, hd, after?, if_true, Option.bind_eq_bind, Option.bind_some,
      clock?_clockChars, fraction_eq_nil_iff.2 hf, List.isEmpty_nil, hof, Option.pure_def]

/-! ## Zones -/

/-- A year without a sign. -/
theorem date?_chars {d : Date} (hy : 0 ≤ d.year) (rest : List Char) :
    date? (fun s => (fixed? 4 s).map fun (y, r) => ((y : Int), r)) (d.chars ++ rest)
      = some (d, rest) := by
  have hyear {s rest : List Char} {y : Int} :
      (fixed? 4 s).map (fun (y, r) => ((y : Int), r)) = some (y, rest)
        ↔ ∃ p, (y.natAbs < 10000 ∧ 0 ≤ y ∧ p = padded 4 y.natAbs) ∧ s = p ++ rest := by
    simp only [Option.map_eq_some_iff, Prod.exists, fixed?_eq_some_iff (show 0 < 4 by decide),
      Prod.mk.injEq]
    constructor
    · rintro ⟨n, r, ⟨hn, rfl⟩, rfl, rfl⟩
      exact ⟨_, ⟨by omega, by omega, by simp⟩, rfl⟩
    · rintro ⟨p, ⟨hn, hy, rfl⟩, rfl⟩
      exact ⟨y.natAbs, rest, ⟨hn, rfl⟩, by omega, rfl⟩
  have hmem := d.year_mem
  refine (date?_eq_some_iff hyear).2 ⟨_, ⟨by omega, hy, rfl⟩, ?_⟩
  simp [Date.chars, Date.monthDay, yearText, hy]

theorem zoned?_chars {t : Timestamp} (hy : 0 ≤ t.date.year) (sep : Char)
    (hsep : sep.toNat < 0x80) {f rest : List Char} (hf : IsFraction f t.time.nanosecond)
    (hr : ∀ c ∈ rest.head?, c.isDigit = false ∧ c ≠ '.') :
    zoned? (t.date.chars ++ sep :: (t.time.clockChars ++ (f ++ rest)))
      = (offset? rest).bind fun o => if o.2.isEmpty then some (t, o.1, false) else none := by
  have hsecond := t.time.second_lt
  have hof : TimeOfDay.of? t.time.hour t.time.minute t.time.second t.time.nanosecond
      = some t.time := TimeOfDay.of?_eq_some_iff.2 ⟨rfl, rfl, rfl, rfl⟩
  have hpoint : ¬ ((f ++ rest).head? = some '.' ∧ rest = f ++ rest) := by
    rintro ⟨hhead, hrest⟩
    have hnil : f = [] := List.append_left_eq_self.1 hrest.symm
    rw [hnil, List.nil_append] at hhead
    exact (hr '.' hhead).2 rfl
  have hascii : ¬ 0x80 ≤ sep.toNat := by omega
  simp only [zoned?, date?_chars hy, Option.bind_eq_bind, Option.bind_some, List.head?_cons,
    List.tail_cons, clock?_clockChars, fraction_append hf hr, hpoint, hascii, if_false,
    Nat.ne_of_lt hsecond, hof, decide_false]
  rfl

theorem zoned?_minus {s : List Char} (h : s.head? = some '-') : zoned? s = none := by
  have hfixed : fixed? 4 s = none := by
    cases hf : fixed? 4 s with
    | none => rfl
    | some r =>
      obtain ⟨-, rfl⟩ := (fixed?_eq_some_iff (by decide)).1 hf
      cases hs : padded 4 r.1 ++ r.2 with
      | nil => rw [hs] at h; cases h
      | cons c s =>
        rw [hs] at h
        obtain rfl := Option.some.inj h
        cases isDigit_of_padded_append hs
  simp only [zoned?, date?, hfixed, Option.map_none, Option.bind_eq_bind, Option.bind_none]

end QueryClient.Calendar
