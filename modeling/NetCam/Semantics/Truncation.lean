import Mathlib.Algebra.Order.BigOperators.Group.List
import Mathlib.Algebra.Order.Field.Basic
import Mathlib.Algebra.Order.Field.Rat
import Mathlib.Data.Rat.Cast.Order
import Mathlib.Tactic.FieldSimp
import Mathlib.Tactic.Ring

/-! Means computed as a sum of truncated quotients.

What such a sum loses of the mean is the sum of the remainders, which the signs of the
numbers carry.
-/

set_option autoImplicit false

namespace NetCam.Semantics

def quotients (n : Int) (ls : List Int) : Int := (ls.map fun l => l.tdiv n).sum

def remainders (n : Int) (ls : List Int) : Int := (ls.map fun l => l.tmod n).sum

def mean (ls : List Int) : ℚ := ls.sum / ls.length

section Quotients

variable {n : Int} {ls : List Int}

theorem mul_quotients_add_remainders (n : Int) (ls : List Int) :
    n * quotients n ls + remainders n ls = ls.sum := by
  induction ls with
  | nil => simp [quotients, remainders]
  | cons l rest ih =>
    have split := Int.mul_tdiv_add_tmod l n
    simp only [quotients, remainders, List.map_cons, List.sum_cons] at ih ⊢
    rw [← ih, mul_add]
    omega

theorem sum_map_sub (ls : List Int) (m : Int) :
    (ls.map fun l => l - m).sum = ls.sum - ls.length * m := by
  induction ls with
  | nil => simp
  | cons l rest ih =>
    simp only [List.map_cons, List.sum_cons, List.length_cons, Nat.cast_succ, ih]
    ring

theorem sum_map_sub_left (ls : List Int) (m : Int) :
    (ls.map fun l => m - l).sum = ls.length * m - ls.sum := by
  induction ls with
  | nil => simp
  | cons l rest ih =>
    simp only [List.map_cons, List.sum_cons, List.length_cons, Nat.cast_succ, ih]
    ring

theorem quotients_neg (n : Int) (ls : List Int) : quotients n (ls.map fun l => -l) = -quotients n ls := by
  induction ls with
  | nil => rfl
  | cons l rest ih =>
    simp only [quotients, List.map_cons, List.sum_cons, Int.neg_tdiv, neg_add] at ih ⊢
    rw [ih]

theorem quotients_replicate (n : Int) (count : Nat) (l : Int) :
    quotients n (List.replicate count l) = count * l.tdiv n := by
  simp [quotients]

end Quotients

section Mean

variable {ls : List Int}

theorem quotients_le {b : Int} (some_left : ls ≠ []) (nonneg : 0 ≤ b) (bounded : ∀ l ∈ ls, l ≤ b) :
    quotients ls.length ls ≤ b := by
  have positive : 0 < (ls.length : Int) := Int.natCast_pos.mpr (List.length_pos_of_ne_nil some_left)
  have each : ∀ q ∈ ls.map fun l => l.tdiv ls.length, q ≤ b.tdiv ls.length := by
    intro q member
    obtain ⟨l, inside, rfl⟩ := List.mem_map.mp member
    exact Int.tdiv_le_tdiv positive (bounded l inside)
  calc quotients ls.length ls ≤ (ls.map fun l => l.tdiv ls.length).length • b.tdiv ls.length :=
        List.sum_le_card_nsmul _ _ each
    _ = ls.length * b.tdiv ls.length := by rw [List.length_map, nsmul_eq_mul]
    _ ≤ b := Int.mul_tdiv_self_le nonneg

theorem le_quotients {b : Int} (some_left : ls ≠ []) (nonneg : 0 ≤ b) (bounded : ∀ l ∈ ls, -b ≤ l) :
    -b ≤ quotients ls.length ls := by
  have mirrored : ∀ l ∈ ls.map fun l => -l, l ≤ b := by
    intro l member
    obtain ⟨k, inside, rfl⟩ := List.mem_map.mp member
    exact Int.neg_le_of_neg_le (bounded k inside)
  have below := quotients_le (by simpa using some_left) nonneg mirrored
  rw [List.length_map, quotients_neg] at below
  exact Int.neg_le_of_neg_le below

theorem le_quotients_iff (some_left : ls ≠ []) (m : Int) :
    m ≤ quotients ls.length ls ↔ remainders ls.length ls ≤ (ls.map fun l => l - m).sum := by
  have positive : 0 < (ls.length : Int) := Int.natCast_pos.mpr (List.length_pos_of_ne_nil some_left)
  rw [sum_map_sub, ← mul_quotients_add_remainders ls.length ls, ← mul_le_mul_iff_right₀ positive]
  omega

theorem quotients_le_iff (some_left : ls ≠ []) (m : Int) :
    quotients ls.length ls ≤ m ↔ -remainders ls.length ls ≤ (ls.map fun l => m - l).sum := by
  have positive : 0 < (ls.length : Int) := Int.natCast_pos.mpr (List.length_pos_of_ne_nil some_left)
  rw [sum_map_sub_left, ← mul_quotients_add_remainders ls.length ls, ← mul_le_mul_iff_right₀ positive]
  omega

/-- What is missing from the mean is the sum of the remainders, divided. -/
theorem mean_sub_quotients (some_left : ls ≠ []) :
    mean ls - quotients ls.length ls = remainders ls.length ls / ls.length := by
  have nonzero : (ls.length : ℚ) ≠ 0 := Nat.cast_ne_zero.mpr (List.length_pos_of_ne_nil some_left).ne'
  have total : ((ls.sum : Int) : ℚ) = ls.length * quotients ls.length ls + remainders ls.length ls := by
    rw [← mul_quotients_add_remainders ls.length ls]
    push_cast
    rfl
  rw [mean, total]
  field_simp
  ring

theorem near_mean_iff (some_left : ls ≠ []) :
    |(quotients ls.length ls : ℚ) - mean ls| ≤ 1 ↔ |remainders ls.length ls| ≤ ls.length := by
  have positive : (0 : ℚ) < ls.length := Nat.cast_pos.mpr (List.length_pos_of_ne_nil some_left)
  rw [abs_sub_comm, mean_sub_quotients some_left, abs_div, abs_of_pos positive, div_le_one positive,
    ← Int.cast_abs]
  exact_mod_cast Iff.rfl

end Mean

end NetCam.Semantics
