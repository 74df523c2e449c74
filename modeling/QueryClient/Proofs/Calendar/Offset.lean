import QueryClient.Proofs.Calendar.RoundTrip

/-!
# Offsets from universal time

A timestamp with an offset is read as the instant that it names (`ofInput_zonedText`), so two of them
are read alike if they name one instant. Only an instant after the last timestamp cannot be read.
-/

namespace QueryClient.Calendar

open QueryClient.Text Decimal

/-- How far a clock is from universal time. -/
structure Offset where
  /-- Whether the clock is behind. -/
  isBehind : Bool
  hours : Nat
  minutes : Nat
  hours_le : hours ≤ 23
  minutes_le : minutes ≤ 59

namespace Offset

def chars (o : Offset) : List Char :=
  (if o.isBehind then '-' else '+') :: (padded 2 o.hours ++ ':' :: padded 2 o.minutes)

/-- The minutes that the clock is ahead. -/
def ahead (o : Offset) : Int :=
  (if o.isBehind then -1 else 1) * (o.hours * 60 + o.minutes : Nat)

theorem ahead_mem (o : Offset) : -1440 < o.ahead ∧ o.ahead < 1440 := by
  have hhours := o.hours_le
  have hminutes := o.minutes_le
  unfold ahead
  split <;> omega

theorem offset?_chars (o : Offset) : offset? o.chars = some (o.ahead, []) := by
  have hhours := o.hours_le
  have hminutes := o.minutes_le
  have hread : fixed? 2 (padded 2 o.hours ++ ':' :: padded 2 o.minutes)
      = some (o.hours, ':' :: padded 2 o.minutes) :=
    (fixed?_eq_some_iff (by decide)).2 ⟨by omega, rfl⟩
  have hread' : fixed? 2 (padded 2 o.minutes) = some (o.minutes, []) :=
    (fixed?_eq_some_iff (by decide)).2 ⟨by omega, (List.append_nil _).symm⟩
  unfold chars ahead
  cases o.isBehind <;>
    simp [offset?, hread, hread', after?, hhours, hminutes]

end Offset

theorem padded_mul_pow {k : Nat} (hk : 0 < k) (n j : Nat) :
    padded (k + j) (n * 10 ^ j) = padded k n ++ List.replicate j '0' := by
  induction j with
  | zero => simp
  | succ j ih =>
    have hdiv : n * 10 ^ (j + 1) / 10 = n * 10 ^ j := by
      rw [Nat.pow_succ, ← Nat.mul_assoc, Nat.mul_div_cancel _ (by decide)]
    have hmod : n * 10 ^ (j + 1) % 10 = 0 := by
      rw [Nat.pow_succ, ← Nat.mul_assoc, Nat.mul_mod_left]
    have hzero : Nat.digitChar 0 = '0' := rfl
    rw [← Nat.add_assoc, padded_succ (by omega), hdiv, hmod, ih, hzero, List.append_assoc,
      List.replicate_succ']

/-- A fraction of a second in a number of digits; none is written without a digit. -/
def fractionText (k nanosecond : Nat) : List Char :=
  if k = 0 then [] else '.' :: padded k (nanosecond / 10 ^ (9 - k))

/-- Whether a number of digits, at most nine, is enough for a fraction of a second. -/
def Suffices (k nanosecond : Nat) : Prop :=
  k ≤ 9 ∧ 10 ^ (9 - k) ∣ nanosecond

theorem isFraction_fractionText {k n : Nat} (hk : Suffices k n) (hn : n < 1000000000) :
    IsFraction (fractionText k n) n := by
  obtain ⟨hk, m, rfl⟩ := hk
  unfold fractionText
  split
  · next hzero =>
    subst hzero
    obtain rfl : m = 0 := by omega
    exact .none
  · next hne =>
    have hpow : 10 ^ k * 10 ^ (9 - k) = 1000000000 := by
      rw [← Nat.pow_add, Nat.add_sub_cancel' hk]
    have hpos : 0 < 10 ^ (9 - k) := Nat.pow_pos (by decide)
    have hlt : m < 10 ^ k := by
      rw [← hpow, Nat.mul_comm] at hn
      exact Nat.lt_of_mul_lt_mul_right hn
    have hlen : (padded k m).length = k := length_padded (by omega) hlt
    have hread : nanoseconds (padded k m) = 10 ^ (9 - k) * m := by
      refine nanoseconds_of_padded (by omega) ?_
      have hpadded := padded_mul_pow (show 0 < k by omega) m (9 - k)
      rwa [hlen, Nat.mul_comm, ← Nat.add_sub_cancel' hk, Nat.add_sub_cancel_left]
    have hfraction := IsFraction.digits (padded_ne_nil k m) fun c => isDigit_of_mem_padded
    rwa [Nat.mul_div_cancel_left m hpos, ← hread]

namespace Timestamp

/-- The text of a timestamp in a zone, with a number of digits after the point. -/
def zonedText (t : Timestamp) (k : Nat) (o : Offset) : String :=
  String.ofList (t.date.chars
    ++ 'T' :: (t.time.clockChars ++ (fractionText k t.time.nanosecond ++ o.chars)))

/-- The instant that a timestamp names in a zone. -/
def instantIn (t : Timestamp) (o : Offset) : Int :=
  t.instant - o.ahead * 60000000000

section Zoned

variable {t : Timestamp} {k : Nat} (o : Offset)

theorem ofInput_zonedText (hy : 0 ≤ t.date.year) (hk : Suffices k t.time.nanosecond) :
    (last.instant < t.instantIn o ∧ ofInput (t.zonedText k o) = .error .outOfRange)
      ∨ ∃ u, u.instant = t.instantIn o ∧ ofInput (t.zonedText k o) = .ok u := by
  have hsign : ∀ c ∈ o.chars.head?, c.isDigit = false ∧ c ≠ '.' := by
    unfold Offset.chars
    cases o.isBehind <;> simp
  have hread := ofInput_of_offset hy (isFraction_fractionText hk t.time.nanosecond_lt) hsign
    o.offset?_chars
  rcases t.minus?_cases o.ahead_mem with ⟨u, hu, hinstant⟩ | ⟨hfirst | ⟨-, hlast⟩, hnone⟩
  · rw [hu] at hread
    exact .inr ⟨u, hinstant, hread⟩
  · rw [hfirst] at hy
    exact absurd hy (by decide)
  · rw [hnone] at hread
    exact .inl ⟨hlast, hread⟩

theorem ofInput_zonedText_eq_ok_iff (hy : 0 ≤ t.date.year) (hk : Suffices k t.time.nanosecond)
    {u : Timestamp} : ofInput (t.zonedText k o) = .ok u ↔ u.instant = t.instantIn o := by
  rcases ofInput_zonedText o hy hk with ⟨hlast, hread⟩ | ⟨v, hv, hread⟩
  · have hle := u.instant_le_last
    rw [hread]
    exact ⟨fun h => (by cases h), fun h => by omega⟩
  · rw [hread, ← hv]
    exact ⟨fun h => Except.ok.inj h ▸ rfl, fun h => by rw [instant_injective h]⟩

theorem ofInput_zonedText_eq_outOfRange_iff (hy : 0 ≤ t.date.year)
    (hk : Suffices k t.time.nanosecond) :
    ofInput (t.zonedText k o) = .error .outOfRange ↔ last.instant < t.instantIn o := by
  rcases ofInput_zonedText o hy hk with ⟨hlast, hread⟩ | ⟨v, hv, hread⟩
  · exact ⟨fun _ => hlast, fun _ => hread⟩
  · have hle := v.instant_le_last
    rw [hread]
    exact ⟨fun h => (by cases h), fun h => by omega⟩

end Zoned

/-- A text with an offset is read as the timestamp of the instant that it names, unless that comes
after the last one, and then there is no answer. So two texts are read as one timestamp if and only if
they name one instant. -/
theorem ofInput_instants (t : Timestamp) (k : Nat) (o : Offset) (hy : 0 ≤ t.date.year)
    (hk : Suffices k t.time.nanosecond) :
    (∀ u, ofInput (t.zonedText k o) = .ok u ↔ u.instant = t.instantIn o)
      ∧ (ofInput (t.zonedText k o) = .error .outOfRange ↔ last.instant < t.instantIn o)
      ∧ ofInput (t.zonedText k o) ≠ .error .malformed
      ∧ ∀ (t' : Timestamp) (k' : Nat) (o' : Offset), 0 ≤ t'.date.year →
        Suffices k' t'.time.nanosecond →
        ((∃ u, ofInput (t.zonedText k o) = .ok u ∧ ofInput (t'.zonedText k' o') = .ok u)
            ↔ t.instantIn o = t'.instantIn o' ∧ t.instantIn o ≤ last.instant)
          ∧ (t.instantIn o = t'.instantIn o' →
            ofInput (t.zonedText k o) = ofInput (t'.zonedText k' o')) := by
  refine ⟨fun u => ofInput_zonedText_eq_ok_iff o hy hk,
    ofInput_zonedText_eq_outOfRange_iff o hy hk, ?_, fun t' k' o' hy' hk' => ⟨⟨?_, ?_⟩, ?_⟩⟩
  · intro h
    rcases ofInput_zonedText o hy hk with ⟨-, hread⟩ | ⟨u, -, hread⟩ <;>
      rw [hread] at h <;> cases h
  · rintro ⟨u, hread, hread'⟩
    have hu := (ofInput_zonedText_eq_ok_iff o hy hk).1 hread
    have hu' := (ofInput_zonedText_eq_ok_iff o' hy' hk').1 hread'
    exact ⟨hu.symm.trans hu', hu ▸ u.instant_le_last⟩
  · rintro ⟨hsame, hle⟩
    rcases ofInput_zonedText o hy hk with ⟨hlast, -⟩ | ⟨u, hu, hread⟩
    · omega
    · exact ⟨u, hread, (ofInput_zonedText_eq_ok_iff o' hy' hk').2 (hu.trans hsame)⟩
  · intro hsame
    rcases ofInput_zonedText o hy hk with ⟨hlast, hread⟩ | ⟨u, hu, hread⟩ <;> rw [hread]
    · exact ((ofInput_zonedText_eq_outOfRange_iff o' hy' hk').2 (hsame ▸ hlast)).symm
    · exact ((ofInput_zonedText_eq_ok_iff o' hy' hk').2 (hu.trans hsame)).symm

/-- A leap day in one zone is the first of March in another, and the last second of all has no
universal time a minute behind. -/
theorem ofInput_instants_leap_day :
    let march : Timestamp := ⟨⟨2016, 3, 1, by decide, by decide, by decide⟩,
      ⟨0, 30, 0, 250000000, by decide, by decide, by decide, by decide⟩⟩
    let february : Timestamp := ⟨⟨2016, 2, 29, by decide, by decide, by decide⟩,
      ⟨17, 0, 0, 250000000, by decide, by decide, by decide, by decide⟩⟩
    let utc : Timestamp := ⟨february.date,
      ⟨22, 30, 0, 250000000, by decide, by decide, by decide, by decide⟩⟩
    let east : Offset := ⟨false, 2, 0, by decide, by decide⟩
    let west : Offset := ⟨true, 5, 30, by decide, by decide⟩
    march.zonedText 2 east = "2016-03-01T00:30:00.25+02:00"
      ∧ february.zonedText 3 west = "2016-02-29T17:00:00.250-05:30"
      ∧ (0 ≤ march.date.year ∧ Suffices 2 march.time.nanosecond)
      ∧ (0 ≤ february.date.year ∧ Suffices 3 february.time.nanosecond)
      ∧ ofInput (march.zonedText 2 east) = .ok utc
      ∧ ofInput (march.zonedText 2 east) = ofInput (february.zonedText 3 west)
      ∧ (0 ≤ last.date.year ∧ Suffices 9 last.time.nanosecond)
      ∧ ofInput (last.zonedText 9 ⟨true, 0, 1, by decide, by decide⟩) = .error .outOfRange := by
  intro march february utc east west
  have hmarch : 0 ≤ march.date.year ∧ Suffices 2 march.time.nanosecond := by unfold Suffices; decide
  have hfebruary : 0 ≤ february.date.year ∧ Suffices 3 february.time.nanosecond := by
    unfold Suffices; decide
  have hlast : 0 ≤ last.date.year ∧ Suffices 9 last.time.nanosecond := by unfold Suffices; decide
  obtain ⟨hread, -, -, hsame⟩ := ofInput_instants march 2 east hmarch.1 hmarch.2
  obtain ⟨-, hend⟩ := hsame february 3 west hfebruary.1 hfebruary.2
  obtain ⟨-, hafter, -, -⟩ :=
    ofInput_instants last 9 ⟨true, 0, 1, by decide, by decide⟩ hlast.1 hlast.2
  exact ⟨by decide, by decide, hmarch, hfebruary, (hread utc).2 (by decide), hend (by decide),
    hlast, hafter.2 (by decide)⟩

end Timestamp

end QueryClient.Calendar
