import QueryClient.Calendar.Timestamp
import QueryClient.Proofs.Calendar.Days

/-!
# Instants

A timestamp is known by its instant (`instant_injective`), and an offset that is taken from it is
taken from the instant, unless a day is needed that does not exist (`minus?_cases`).
-/

namespace QueryClient.Calendar

namespace TimeOfDay

theorem seconds_lt (t : TimeOfDay) : t.seconds < 86400 := by
  have hhour := t.hour_lt
  have hminute := t.minute_lt
  have hsecond := t.second_lt
  unfold seconds
  omega

theorem seconds_atSeconds (t : TimeOfDay) {n : Nat} (h : n < 86400) :
    (t.atSeconds n).seconds = n := by
  simp only [atSeconds, seconds]
  omega

theorem eq_of_seconds {t u : TimeOfDay} (hs : t.seconds = u.seconds)
    (hn : t.nanosecond = u.nanosecond) : t = u := by
  have hm := t.minute_lt
  have hm' := u.minute_lt
  have hs' := t.second_lt
  have hs'' := u.second_lt
  unfold seconds at hs
  obtain ⟨hhour, hminute, hsecond⟩ :
      t.hour = u.hour ∧ t.minute = u.minute ∧ t.second = u.second := by omega
  cases t
  cases u
  simp_all

end TimeOfDay

namespace Timestamp

variable {t u : Timestamp}

def last : Timestamp :=
  ⟨.last, ⟨23, 59, 59, 999999999, by decide, by decide, by decide, by decide⟩⟩

theorem instant_mem (t : Timestamp) :
    t.date.dayNumber * 86400000000000 ≤ t.instant
      ∧ t.instant < (t.date.dayNumber + 1) * 86400000000000 := by
  have hseconds := t.time.seconds_lt
  have hnano := t.time.nanosecond_lt
  simp only [instant, daySeconds]
  omega

theorem instant_injective (h : t.instant = u.instant) : t = u := by
  have hseconds := t.time.seconds_lt
  have hnano := t.time.nanosecond_lt
  have hseconds' := u.time.seconds_lt
  have hnano' := u.time.nanosecond_lt
  simp only [instant, daySeconds] at h
  obtain ⟨hdate, hs, hn⟩ : t.date.dayNumber = u.date.dayNumber
      ∧ t.time.seconds = u.time.seconds ∧ t.time.nanosecond = u.time.nanosecond := by omega
  have hd := Date.dayNumber_injective hdate
  have htime := TimeOfDay.eq_of_seconds hs hn
  cases t
  cases u
  simp_all

/-- A timestamp of another day, with the fraction of a second of a given one. -/
theorem instant_atSeconds (t : Timestamp) (d : Date) {n : Int} (h : 0 ≤ n ∧ n < 86400) :
    (Timestamp.mk d (t.time.atSeconds n.toNat)).instant
      = (d.dayNumber * 86400 + n) * 1000000000 + t.time.nanosecond := by
  have hseconds := t.time.seconds_atSeconds (n := n.toNat) (by omega)
  have hnano : (t.time.atSeconds n.toNat).nanosecond = t.time.nanosecond := rfl
  simp only [instant, daySeconds, hseconds, hnano]
  omega

theorem minus?_same_day (t : Timestamp) {minutes : Int}
    (h : 0 ≤ (t.time.seconds : Int) - minutes * 60 ∧ t.time.seconds - minutes * 60 < 86400) :
    t.minus? minutes
      = some ⟨t.date, t.time.atSeconds (t.time.seconds - minutes * 60).toNat⟩ := by
  have hday : daySeconds = 86400 := rfl
  unfold minus?
  dsimp only
  rw [if_neg (by omega), if_neg (by omega)]

theorem minus?_zero (t : Timestamp) : t.minus? 0 = some t := by
  have hseconds := t.time.seconds_lt
  have htime : t.time.atSeconds t.time.seconds = t.time :=
    TimeOfDay.eq_of_seconds (t.time.seconds_atSeconds hseconds) rfl
  rw [t.minus?_same_day (by omega), Int.zero_mul, Int.sub_zero, Int.toNat_natCast, htime]

/-- An offset of less than a day is subtracted, or the result lies outside the range of dates. -/
theorem minus?_cases (t : Timestamp) {minutes : Int} (h : -1440 < minutes ∧ minutes < 1440) :
    (∃ u, t.minus? minutes = some u ∧ u.instant = t.instant - minutes * 60000000000)
      ∨ (t.date = .first ∨ t.date = .last
          ∧ last.instant < t.instant - minutes * 60000000000)
        ∧ t.minus? minutes = none := by
  have hseconds := t.time.seconds_lt
  have hinstant : t.instant
      = (t.date.dayNumber * 86400 + t.time.seconds) * 1000000000 + t.time.nanosecond := rfl
  by_cases hborrow : (t.time.seconds : Int) - minutes * 60 < 0
  · have hminus : t.minus? minutes = t.date.prev?.map fun d =>
        ⟨d, t.time.atSeconds (t.time.seconds - minutes * 60 + daySeconds).toNat⟩ := if_pos hborrow
    rcases t.date.prev?_cases with ⟨hfirst, hnone⟩ | ⟨d, hd, hnumber⟩
    · exact .inr ⟨.inl hfirst, by rw [hminus, hnone]; rfl⟩
    · refine .inl ⟨_, by rw [hminus, hd]; rfl, ?_⟩
      rw [instant_atSeconds t d (by simp only [daySeconds]; omega)]
      simp only [daySeconds]
      omega
  by_cases hcarry : 86400 ≤ (t.time.seconds : Int) - minutes * 60
  · have hminus : t.minus? minutes = t.date.next?.map fun d =>
        ⟨d, t.time.atSeconds (t.time.seconds - minutes * 60 - daySeconds).toNat⟩ :=
      (if_neg hborrow).trans (if_pos hcarry)
    rcases t.date.next?_cases with ⟨hlast, hnone⟩ | ⟨d, hd, hnumber⟩
    · refine .inr ⟨.inr ⟨hlast, ?_⟩, by rw [hminus, hnone]; rfl⟩
      have hend : last.instant < (t.date.dayNumber + 1) * 86400000000000 :=
        hlast ▸ last.instant_mem.2
      omega
    · refine .inl ⟨_, by rw [hminus, hd]; rfl, ?_⟩
      rw [instant_atSeconds t d (by simp only [daySeconds]; omega)]
      simp only [daySeconds]
      omega
  · refine .inl ⟨_, t.minus?_same_day (by omega), ?_⟩
    rw [instant_atSeconds t t.date (by omega)]
    omega

theorem instant_le_last (t : Timestamp) : t.instant ≤ last.instant := by
  have hday := t.date.dayNumber_le_last
  have hseconds := t.time.seconds_lt
  have hnano := t.time.nanosecond_lt
  have hlast : last.instant = (Date.last.dayNumber * 86400 + 86399) * 1000000000 + 999999999 := rfl
  rw [hlast]
  simp only [instant, daySeconds]
  omega

end Timestamp
end QueryClient.Calendar
