import QueryClient.Calendar.Date

/-!
# Timestamps

A date with a time of day to the nanosecond, without a time zone. `minus?` subtracts an offset from
universal time; it has no answer when the result leaves the range of dates.
-/

namespace QueryClient.Calendar

structure TimeOfDay where
  hour : Nat
  minute : Nat
  second : Nat
  nanosecond : Nat
  hour_lt : hour < 24
  minute_lt : minute < 60
  second_lt : second < 60
  nanosecond_lt : nanosecond < 1000000000
  deriving DecidableEq, Repr

namespace TimeOfDay

def of? (hour minute second nanosecond : Nat) : Option TimeOfDay :=
  if h : hour < 24 ∧ minute < 60 ∧ second < 60 ∧ nanosecond < 1000000000 then
    some ⟨hour, minute, second, nanosecond, h.1, h.2.1, h.2.2.1, h.2.2.2⟩
  else none

/-- The whole seconds since midnight. -/
def seconds (t : TimeOfDay) : Nat :=
  t.hour * 3600 + t.minute * 60 + t.second

/-- The time a number of whole seconds after midnight, with the fraction of another time. -/
def atSeconds (t : TimeOfDay) (n : Nat) : TimeOfDay where
  hour := n / 3600 % 24
  minute := n / 60 % 60
  second := n % 60
  nanosecond := t.nanosecond
  hour_lt := Nat.mod_lt _ (by decide)
  minute_lt := Nat.mod_lt _ (by decide)
  second_lt := Nat.mod_lt _ (by decide)
  nanosecond_lt := t.nanosecond_lt

end TimeOfDay

structure Timestamp where
  date : Date
  time : TimeOfDay
  deriving DecidableEq, Repr

namespace Timestamp

/-- Seconds in a day. -/
def daySeconds : Int := 86400

/-- The timestamp a number of minutes, less than a day, before another. -/
def minus? (t : Timestamp) (minutes : Int) : Option Timestamp :=
  let n : Int := t.time.seconds - minutes * 60
  if n < 0 then t.date.prev?.map fun d => ⟨d, t.time.atSeconds (n + daySeconds).toNat⟩
  else if daySeconds ≤ n then t.date.next?.map fun d => ⟨d, t.time.atSeconds (n - daySeconds).toNat⟩
  else some ⟨t.date, t.time.atSeconds n.toNat⟩

/-- Nanoseconds since the start of the year 0. -/
def instant (t : Timestamp) : Int :=
  (t.date.dayNumber * daySeconds + t.time.seconds) * 1000000000 + t.time.nanosecond

end Timestamp

end QueryClient.Calendar
