import QueryClient.Calendar.Date

/-!
# Days in order

The number of a day grows with its date (`Date.Before.dayNumber_lt`), so a day is known by its number.
Every day has the next one a number later and the previous one a number earlier, but for the two ends
of the range (`next?_cases`, `prev?_cases`).
-/

namespace QueryClient.Calendar

namespace Date

theorem daysInMonth_le (y : Int) (m : Nat) : 28 ≤ daysInMonth y m ∧ daysInMonth y m ≤ 31 := by
  unfold daysInMonth
  split
  · split <;> omega
  all_goals omega

theorem daysBeforeMonth_succ (y : Int) {m : Nat} (h : 1 ≤ m) :
    daysBeforeMonth y (m + 1) = daysBeforeMonth y m + daysInMonth y m := by
  cases m with
  | zero => omega
  | succ m => rfl

theorem daysBeforeMonth_add_le (y : Int) {m m' : Nat} (h : 1 ≤ m) (hlt : m < m') :
    daysBeforeMonth y m + daysInMonth y m ≤ daysBeforeMonth y m' := by
  induction m' with
  | zero => omega
  | succ k ih =>
    rcases Nat.lt_or_eq_of_le (Nat.le_of_lt_succ hlt) with hk | rfl
    · rw [daysBeforeMonth_succ y (by omega)]
      have := ih hk
      omega
    · exact Nat.le_of_eq (daysBeforeMonth_succ y h).symm

/-- The days of a year are those of its months. -/
theorem daysBeforeYear_succ (y : Int) :
    daysBeforeYear (y + 1) = daysBeforeYear y + (daysBeforeMonth y 12 + 31) := by
  have hleap : isLeap y = true ↔ y % 4 = 0 ∧ (y % 100 ≠ 0 ∨ y % 400 = 0) := by
    simp [isLeap]
  have hdays : (daysBeforeMonth y 12 : Int) + 31 = if isLeap y then 366 else 365 := by
    simp only [daysBeforeMonth, daysInMonth]
    split <;> rfl
  rw [hdays]
  unfold daysBeforeYear
  split <;> next h =>
    rw [hleap] at h
    omega

theorem daysBeforeYear_le {y y' : Int} (h : y ≤ y') : daysBeforeYear y ≤ daysBeforeYear y' := by
  unfold daysBeforeYear
  omega

variable {d e : Date}

/-- The day of the year. -/
def dayOfYear (d : Date) : Nat :=
  daysBeforeMonth d.year d.month + d.day

theorem dayNumber_eq (d : Date) : d.dayNumber = daysBeforeYear d.year + d.dayOfYear - 1 := by
  simp only [dayNumber, dayOfYear]
  omega

theorem dayOfYear_mem (d : Date) :
    1 ≤ d.dayOfYear ∧ d.dayOfYear ≤ daysBeforeMonth d.year 12 + 31 := by
  have hmonth := d.month_mem
  have hday := d.day_mem
  have hdecember : daysInMonth d.year 12 = 31 := rfl
  refine ⟨by unfold dayOfYear; omega, ?_⟩
  rcases Nat.lt_or_eq_of_le hmonth.2 with hlt | heq
  · have := daysBeforeMonth_add_le d.year hmonth.1 hlt
    unfold dayOfYear
    omega
  · rw [heq] at hday
    unfold dayOfYear
    rw [heq]
    omega

/-- Whether a date comes before another, year by year, month by month and day by day. -/
def Before (d e : Date) : Prop :=
  d.year < e.year ∨ d.year = e.year ∧ (d.month < e.month ∨ d.month = e.month ∧ d.day < e.day)

theorem eq_of_not_before (hd : ¬ d.Before e) (he : ¬ e.Before d) : d = e := by
  unfold Before at hd he
  obtain ⟨hyear, hmonth, hday⟩ : d.year = e.year ∧ d.month = e.month ∧ d.day = e.day := by omega
  cases d
  cases e
  simp_all

theorem Before.dayNumber_lt (h : d.Before e) : d.dayNumber < e.dayNumber := by
  rw [dayNumber_eq, dayNumber_eq]
  obtain ⟨hlow, hhigh⟩ := d.dayOfYear_mem
  obtain ⟨hlow', hhigh'⟩ := e.dayOfYear_mem
  have hday := d.day_mem
  have hday' := e.day_mem
  rcases h with hyear | ⟨hyear, hmonth | ⟨hmonth, hlt⟩⟩
  · have hyears := daysBeforeYear_le (show d.year + 1 ≤ e.year by omega)
    rw [daysBeforeYear_succ] at hyears
    omega
  · have hmonths := daysBeforeMonth_add_le d.year d.month_mem.1 hmonth
    simp only [dayOfYear, ← hyear]
    omega
  · simp only [dayOfYear, ← hyear, ← hmonth]
    omega

theorem dayNumber_injective (h : d.dayNumber = e.dayNumber) : d = e :=
  eq_of_not_before (fun hlt => by have := hlt.dayNumber_lt; omega)
    (fun hlt => by have := hlt.dayNumber_lt; omega)

/-! ### Neighbours -/

theorem of?_eq_some_iff {y : Int} {m n : Nat} :
    of? y m n = some d ↔ d.year = y ∧ d.month = m ∧ d.day = n := by
  unfold of?
  constructor
  · intro h
    split at h
    · obtain rfl := Option.some.inj h
      exact ⟨rfl, rfl, rfl⟩
    · cases h
  · rintro ⟨rfl, rfl, rfl⟩
    rw [dif_pos ⟨d.year_mem, d.month_mem, d.day_mem⟩]

theorem exists_of? {y : Int} {m n : Nat} (hy : -9999 ≤ y ∧ y ≤ 9999) (hm : 1 ≤ m ∧ m ≤ 12)
    (hn : 1 ≤ n ∧ n ≤ daysInMonth y m) : ∃ d, of? y m n = some d :=
  ⟨⟨y, m, n, hy, hm, hn⟩, of?_eq_some_iff.2 ⟨rfl, rfl, rfl⟩⟩

def first : Date := ⟨-9999, 1, 1, by decide, by decide, by decide⟩

def last : Date := ⟨9999, 12, 31, by decide, by decide, by decide⟩

theorem not_before_first (d : Date) : ¬ d.Before first := by
  have hyear := d.year_mem
  have hmonth := d.month_mem
  have hday := d.day_mem
  simp only [Before, first]
  omega

theorem not_last_before (d : Date) : ¬ last.Before d := by
  have hyear := d.year_mem
  have hmonth := d.month_mem
  have hday := d.day_mem
  have hdays := daysInMonth_le d.year d.month
  simp only [Before, last]
  omega

theorem dayNumber_le_last (d : Date) : d.dayNumber ≤ last.dayNumber := by
  by_cases h : d.Before last
  · exact Int.le_of_lt h.dayNumber_lt
  · exact Int.le_of_eq (congrArg dayNumber (eq_of_not_before h d.not_last_before))

theorem next?_cases (d : Date) :
    (d = last ∧ d.next? = none) ∨ ∃ e, d.next? = some e ∧ e.dayNumber = d.dayNumber + 1 := by
  have hyear := d.year_mem
  have hmonth := d.month_mem
  have hday := d.day_mem
  have hdays := daysInMonth_le d.year d.month
  unfold next?
  split
  · next hlt =>
    obtain ⟨e, he⟩ := exists_of? hyear hmonth ⟨by omega, hlt⟩ (n := d.day + 1)
    obtain ⟨hy, hm, hd⟩ := of?_eq_some_iff.1 he
    refine .inr ⟨e, he, ?_⟩
    simp only [dayNumber, hy, hm, hd]
    omega
  · split
    · next hend hlt =>
      have hdays := daysInMonth_le d.year (d.month + 1)
      obtain ⟨e, he⟩ := exists_of? hyear (m := d.month + 1) (n := 1) (by omega) (by omega)
      obtain ⟨hy, hm, hd⟩ := of?_eq_some_iff.1 he
      refine .inr ⟨e, he, ?_⟩
      simp only [dayNumber, hy, hm, hd, daysBeforeMonth_succ _ hmonth.1]
      omega
    · next hend hdecember =>
      have hmonth : d.month = 12 := by omega
      have hlen : daysInMonth d.year 12 = 31 := rfl
      rw [hmonth, hlen] at hday hend
      rcases Int.lt_or_eq_of_le hyear.2 with hlt | heq
      · obtain ⟨e, he⟩ := exists_of? (y := d.year + 1) (m := 1) (n := 1) (by omega) (by omega)
          (by simp only [daysInMonth]; omega)
        obtain ⟨hy, hm, hd⟩ := of?_eq_some_iff.1 he
        refine .inr ⟨e, he, ?_⟩
        have hzero : daysBeforeMonth (d.year + 1) 1 = 0 := rfl
        simp only [dayNumber, hy, hm, hd, hmonth, daysBeforeYear_succ, hzero]
        omega
      · refine .inl ⟨eq_of_not_before ?_ d.not_last_before, ?_⟩
        · simp only [Before, last]
          omega
        · rw [heq]
          rfl

theorem prev?_cases (d : Date) :
    (d = first ∧ d.prev? = none) ∨ ∃ e, d.prev? = some e ∧ e.dayNumber = d.dayNumber - 1 := by
  have hyear := d.year_mem
  have hmonth := d.month_mem
  have hday := d.day_mem
  unfold prev?
  split
  · next hlt =>
    obtain ⟨e, he⟩ := exists_of? hyear hmonth ⟨by omega, by omega⟩ (n := d.day - 1)
    obtain ⟨hy, hm, hd⟩ := of?_eq_some_iff.1 he
    refine .inr ⟨e, he, ?_⟩
    simp only [dayNumber, hy, hm, hd]
    omega
  · split
    · next hstart hlt =>
      obtain ⟨m, hm⟩ : ∃ m, d.month = m + 1 := ⟨d.month - 1, by omega⟩
      have hdays := daysInMonth_le d.year m
      rw [hm, Nat.add_sub_cancel]
      obtain ⟨e, he⟩ := exists_of? hyear (m := m) (by omega) ⟨by omega, Nat.le_refl _⟩
      obtain ⟨hy', hm', hd'⟩ := of?_eq_some_iff.1 he
      refine .inr ⟨e, he, ?_⟩
      simp only [dayNumber, hy', hm', hd', hm, daysBeforeMonth_succ _ (show 1 ≤ m by omega)]
      omega
    · next hstart hjanuary =>
      have hmonth : d.month = 1 := by omega
      rcases Int.lt_or_eq_of_le hyear.1 with hlt | heq
      · obtain ⟨e, he⟩ := exists_of? (y := d.year - 1) (m := 12) (n := 31) (by omega) (by omega)
          (by simp only [daysInMonth]; omega)
        obtain ⟨hy, hm, hd⟩ := of?_eq_some_iff.1 he
        refine .inr ⟨e, he, ?_⟩
        have hzero : daysBeforeMonth d.year 1 = 0 := rfl
        have hyears := daysBeforeYear_succ (d.year - 1)
        rw [Int.sub_add_cancel] at hyears
        simp only [dayNumber, hy, hm, hd, hmonth, hyears, hzero]
        omega
      · refine .inl ⟨eq_of_not_before d.not_before_first ?_, ?_⟩
        · simp only [Before, first]
          omega
        · rw [← heq]
          rfl

end Date

end QueryClient.Calendar
