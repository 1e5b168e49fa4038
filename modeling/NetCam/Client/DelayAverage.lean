import NetCam.Client.DisplayMonitor
import NetCam.Semantics.Truncation

/-! The delay that `checkDelay` shows outside idle mode.

`currentAverageDelay` is computed anew when its window of two seconds has passed. Each
sample is divided before it is added up.
-/

set_option autoImplicit false

namespace NetCam.Client

open Semantics

namespace DisplayMonitor

def windowStart (dm : DisplayMonitor) (started : Int64) : Int64 :=
  if dm.timeOfStart = -1 then started else dm.timeOfStart

def Recomputes (dm : DisplayMonitor) (started checked : Int64) : Prop :=
  dm.mode ≠ MODE_IDLE ∧ checked - dm.windowStart started ≥ 2000

instance (dm : DisplayMonitor) (started checked : Int64) : Decidable (dm.Recomputes started checked) :=
  inferInstanceAs (Decidable (_ ∧ _))

def average (rolling : List Int64) : Int64 :=
  rolling.foldl (fun sum l => sum + l / Int64.ofNat rolling.length) 0

section CheckDelay

variable (dm : DisplayMonitor) (started checked : Int64) (rolling : List Int64) (added : rolling ≠ [])

theorem checkDelay_average :
    (dm.checkDelay started checked rolling added).2.2.currentAverageDelay =
      if dm.Recomputes started checked then average rolling else dm.currentAverageDelay := by
  unfold checkDelay Recomputes windowStart average
  grind

theorem checkDelay_timeOfStart :
    (dm.checkDelay started checked rolling added).2.2.timeOfStart =
      if dm.Recomputes started checked then -1 else dm.windowStart started := by
  unfold checkDelay Recomputes windowStart
  grind

theorem checkDelay_delay :
    (dm.checkDelay started checked rolling added).1 =
      if dm.mode = MODE_IDLE then rolling.getLast added
      else (dm.checkDelay started checked rolling added).2.2.currentAverageDelay := by
  unfold checkDelay
  grind

theorem checkDelay_rolling :
    (dm.checkDelay started checked rolling added).2.1 =
      if dm.mode = MODE_IDLE then [] else if rolling.length ≥ 180 then rolling.tail else rolling := by
  unfold checkDelay
  grind

theorem checkDelay_keeps :
    let next := (dm.checkDelay started checked rolling added).2.2
    next.isSynced = dm.isSynced ∧ next.mode = dm.mode ∧
      next.rollingTimestampAverage = dm.rollingTimestampAverage := by
  unfold checkDelay
  dsimp only
  repeat' split
  all_goals exact ⟨rfl, rfl, rfl⟩

end CheckDelay

theorem toInt_foldl {n : Nat} (small : n < 2 ^ 63) (rolling : List Int64) (sum : Int64) :
    (rolling.foldl (fun sum l => sum + l / Int64.ofNat n) sum).toInt =
      (sum.toInt + quotients n (rolling.map Int64.toInt)).bmod (2 ^ 64) := by
  induction rolling generalizing sum with
  | nil =>
    simp [quotients]
  | cons l rest ih =>
    have divisor : (Int64.ofNat n).toInt = n := Int64.toInt_ofNat_of_lt small
    have not_neg_one : Int64.ofNat n ≠ -1 := by
      intro same
      rw [same] at divisor
      simp at divisor
    have quotient : (l / Int64.ofNat n).toInt = l.toInt.tdiv n := by
      rw [Int64.toInt_div_of_ne_right _ _ not_neg_one, divisor]
    rw [List.foldl_cons, ih, Int64.toInt_add, Int.bmod_add_bmod, quotient]
    simp only [quotients, List.map_cons, List.sum_cons, add_assoc]

theorem toInt_average {rolling : List Int64} (small : rolling.length < 2 ^ 63) (added : rolling ≠ []) :
    (average rolling).toInt = quotients rolling.length (rolling.map Int64.toInt) := by
  have length : (rolling.map Int64.toInt).length = rolling.length := List.length_map _
  have some_left : rolling.map Int64.toInt ≠ [] := by simpa using added
  have upper := @quotients_le _ (2 ^ 63 - 1) some_left (by decide) (by
    intro l member
    obtain ⟨k, _, rfl⟩ := List.mem_map.mp member
    exact Int.le_sub_one_of_lt k.toInt_lt)
  have lower := @le_quotients _ (2 ^ 63) some_left (by decide) (by
    intro l member
    obtain ⟨k, _, rfl⟩ := List.mem_map.mp member
    exact k.le_toInt)
  -- The accumulator wraps as it goes, so only the total has to be in range.
  rw [length] at upper lower
  unfold average
  rw [toInt_foldl small, Int64.toInt_zero, zero_add]
  exact Int.bmod_eq_of_le (by omega) (by omega)

theorem toInt_average_replicate {n : Nat} (small : n < 2 ^ 63) (positive : 0 < n) (l : Int64) :
    (average (List.replicate n l)).toInt = n * l.toInt.tdiv n := by
  have length : (List.replicate n l).length = n := List.length_replicate
  rw [toInt_average (by rw [length]; exact small) (List.ne_nil_of_length_pos (by rw [length]; exact positive)),
    length, List.map_replicate, quotients_replicate]

end DisplayMonitor

def samples (rolling : List Int64) : List Int := rolling.map Int64.toInt

def smallest (rolling : List Int64) (added : rolling ≠ []) : Int :=
  (samples rolling).min (List.map_eq_nil_iff.not.mpr added)

def largest (rolling : List Int64) (added : rolling ≠ []) : Int :=
  (samples rolling).max (List.map_eq_nil_iff.not.mpr added)

theorem smallest_replicate {n : Nat} {l : Int64} (added : List.replicate n l ≠ []) :
    smallest (List.replicate n l) added = l.toInt := by
  simp [smallest, samples]

structure IsAverage (rolling : List Int64) (added : rolling ≠ []) (delay : Int) : Prop where
  smallest_le : smallest rolling added ≤ delay
  le_largest : delay ≤ largest rolling added
  near_mean : |(delay : ℚ) - mean (samples rolling)| ≤ 1

/-- What the divisions drop, the remainders of the samples by their number, adds up to no more
than that number. Nor is it more than by how much the samples exceed the smallest of them, or
less than by how much they fall short of the largest. -/
structure LittleDropped (rolling : List Int64) (added : rolling ≠ []) : Prop where
  le_length : |remainders rolling.length (samples rolling)| ≤ rolling.length
  le_excess : remainders rolling.length (samples rolling) ≤
    ((samples rolling).map fun l => l - smallest rolling added).sum
  le_shortfall : -remainders rolling.length (samples rolling) ≤
    ((samples rolling).map fun l => largest rolling added - l).sum

/-- The delay that is computed is an average of the samples in the window precisely when
little is dropped by the divisions. -/
theorem recomputed_average_iff (dm : DisplayMonitor) (started checked : Int64) (rolling : List Int64)
    (added : rolling ≠ []) (held : rolling.length ≤ 180) (recomputes : dm.Recomputes started checked) :
    IsAverage rolling added
      (dm.checkDelay started checked rolling added).2.2.currentAverageDelay.toInt ↔
      LittleDropped rolling added := by
  have length : (samples rolling).length = rolling.length := List.length_map _
  have some_left : samples rolling ≠ [] := List.map_eq_nil_iff.not.mpr added
  have above := le_quotients_iff some_left (smallest rolling added)
  have below := quotients_le_iff some_left (largest rolling added)
  have near := near_mean_iff some_left
  rw [length] at above below near
  rw [dm.checkDelay_average, if_pos recomputes, DisplayMonitor.toInt_average (by omega) added]
  constructor
  · intro average
    exact ⟨near.mp average.near_mean, above.mp average.smallest_le, below.mp average.le_largest⟩
  · intro little
    exact ⟨above.mpr little.le_excess, below.mpr little.le_shortfall, near.mpr little.le_length⟩

theorem recomputed_average_of_two :
    let dm := { DisplayMonitor.fresh with mode := MODE_MOVIE, timeOfStart := 0 }
    IsAverage [100, 102] (by decide)
      (dm.checkDelay 0 2000 [100, 102] (by decide)).2.2.currentAverageDelay.toInt :=
  (recomputed_average_iff _ 0 2000 [100, 102] (by decide) (by decide) (by decide)).mpr
    ⟨by decide, by decide, by decide⟩

theorem full_window_of_hundreds :
    let dm := { DisplayMonitor.fresh with mode := MODE_MOVIE, timeOfStart := 0 }
    let rolling : List Int64 := List.replicate 180 100
    dm.Recomputes 0 2000 ∧ rolling.length ≤ 180 ∧
      ¬ IsAverage rolling (by simp [rolling])
        (dm.checkDelay 0 2000 rolling (by simp [rolling])).2.2.currentAverageDelay.toInt := by
  have length : (List.replicate 180 (100 : Int64)).length = 180 := List.length_replicate
  have recomputes :
      { DisplayMonitor.fresh with mode := MODE_MOVIE, timeOfStart := 0 }.Recomputes 0 2000 := by decide
  refine ⟨recomputes, length.le, ?_⟩
  intro average
  have smallest_le := average.smallest_le
  rw [DisplayMonitor.checkDelay_average, if_pos recomputes,
    DisplayMonitor.toInt_average_replicate (by decide) (by decide), smallest_replicate] at smallest_le
  exact absurd smallest_le (by decide)

end NetCam.Client
