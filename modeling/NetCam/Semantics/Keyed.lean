import Mathlib.Data.List.Basic
import Mathlib.Order.Basic

/-! Logs whose entries carry a key, such as the connection they belong to.

Two logs that are ordered by their keys compare as a whole as they compare key by key.
-/

set_option autoImplicit false

namespace NetCam.Semantics

variable {κ α β : Type} [DecidableEq κ]

def entriesOf (k : κ) (log : List (κ × α)) : List α :=
  log.filterMap fun entry => if entry.1 = k then some entry.2 else none

def KeysOrdered [LE κ] (log : List (κ × α)) : Prop := log.Pairwise fun earlier later => earlier.1 ≤ later.1

variable {k : κ} {log xs ys : List (κ × α)} {entry : κ × α}

@[simp] theorem entriesOf_append : entriesOf k (xs ++ ys) = entriesOf k xs ++ entriesOf k ys :=
  List.filterMap_append

theorem entriesOf_cons_self : entriesOf entry.1 (entry :: log) = entry.2 :: entriesOf entry.1 log := by
  simp [entriesOf]

theorem entriesOf_cons_of_ne (other : entry.1 ≠ k) : entriesOf k (entry :: log) = entriesOf k log := by
  simp [entriesOf, other]

theorem entriesOf_map (f : α → β) : entriesOf k (log.map fun entry => (entry.1, f entry.2)) =
    (entriesOf k log).map f := by
  unfold entriesOf
  rw [List.filterMap_map, List.map_filterMap]
  congr 1
  funext entry
  dsimp only [Function.comp_apply]
  split <;> rfl

theorem mem_entriesOf {a : α} : a ∈ entriesOf k log ↔ (k, a) ∈ log := by
  unfold entriesOf
  rw [List.mem_filterMap]
  constructor
  · rintro ⟨⟨j, b⟩, member, found⟩
    dsimp only at found
    split at found <;> cases found
    next own =>
    exact own ▸ member
  · intro member
    exact ⟨(k, a), member, by simp⟩

omit [DecidableEq κ] in
theorem keysOrdered_append [Preorder κ] (ordered : KeysOrdered xs) (below : ∀ entry ∈ xs, entry.1 ≤ k)
    (same : ∀ entry ∈ ys, entry.1 = k) : KeysOrdered (xs ++ ys) := by
  refine List.pairwise_append.mpr ⟨ordered, ?_, ?_⟩
  · rw [List.pairwise_iff_forall_sublist]
    intro earlier later both
    rw [same earlier (both.subset (by simp)), same later (both.subset (by simp))]
  · intro earlier before later after
    rw [same later after]
    exact below earlier before

/-- A log whose entries of each key are the first ones of another log is a part of that log. -/
theorem sublist_of_forall_key [PartialOrder κ] (left : KeysOrdered xs) (right : KeysOrdered ys)
    (each : ∀ k, entriesOf k xs <+: entriesOf k ys) : xs.Sublist ys := by
  induction ys generalizing xs with
  | nil =>
    cases xs with
    | nil => exact .slnil
    | cons x rest =>
      have first := each x.1
      rw [entriesOf_cons_self] at first
      exact absurd (List.prefix_nil.mp first) (List.cons_ne_nil _ _)
  | cons y later ih =>
    cases xs with
    | nil => exact List.nil_sublist _
    | cons x rest =>
      obtain ⟨behind, ordered⟩ := List.pairwise_cons.mp left
      obtain ⟨above, tail⟩ := List.pairwise_cons.mp right
      -- the heads are the same entry or the right one is of an earlier key
      by_cases same : x.1 = y.1
      · have first := each x.1
        rw [entriesOf_cons_self, same, entriesOf_cons_self, ← same] at first
        obtain ⟨equal, _⟩ := List.cons_prefix_cons.mp first
        obtain rfl : x = y := Prod.ext same equal
        refine (ih ordered tail fun k => ?_).cons_cons x
        have own := each k
        by_cases at_ : x.1 = k
        · subst at_
          rw [entriesOf_cons_self, entriesOf_cons_self] at own
          exact (List.cons_prefix_cons.mp own).2
        · rwa [entriesOf_cons_of_ne at_, entriesOf_cons_of_ne at_] at own
      · -- nothing of the left log has the key of the first entry on the right
        have there : (x.1, x.2) ∈ y :: later := by
          apply mem_entriesOf.mp
          apply (each x.1).subset
          rw [entriesOf_cons_self]
          exact List.mem_cons_self
        have below : y.1 < x.1 := by
          rcases List.mem_cons.mp there with first | member
          · exact absurd (congrArg Prod.fst first) same
          · exact lt_of_le_of_ne (above _ member) (Ne.symm same)
        refine (ih left tail fun k => ?_).cons y
        have own := each k
        by_cases at_ : y.1 = k
        · subst at_
          have none_left : entriesOf y.1 (x :: rest) = [] := by
            rw [List.eq_nil_iff_forall_not_mem]
            intro a member
            rcases List.mem_cons.mp (mem_entriesOf.mp member) with first | member
            · exact same (congrArg Prod.fst first).symm
            · exact absurd (lt_of_lt_of_le below (behind _ member)) (lt_irrefl _)
          rw [none_left]
          exact List.nil_prefix
        · rwa [entriesOf_cons_of_ne at_] at own

end NetCam.Semantics
