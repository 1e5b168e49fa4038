import NetCam.Semantics.Trace

/-! Systems that come to rest, whatever is done next.

A rank that every step lowers bounds the runs, and so there is no need for fairness: the
goal has to hold in the states that no step leaves.
-/

set_option autoImplicit false

namespace NetCam.Semantics

variable {σ α ε : Type}

def Final (step : Step σ α ε) (s : σ) : Prop := ∀ a, step s a = none

/-- The runs from here are bounded, and those that cannot be continued end at the goal. -/
def EndsIn (step : Step σ α ε) (goal : σ → Prop) (s : σ) : Prop :=
  ∃ bound, ∀ as t log, run step s as = some (t, log) →
    as.length ≤ bound ∧ (Final step t → goal t)

section

variable (step : Step σ α ε) {P goal : σ → Prop} {s t : σ}

theorem length_add_rank_le (rank : σ → Nat)
    (lowers : ∀ s a t es, P s → step s a = some (t, es) → P t ∧ rank t < rank s) (held : P s)
    {as : List α} {log : List ε} (ran : run step s as = some (t, log)) :
    P t ∧ as.length + rank t ≤ rank s := by
  induction as generalizing s log with
  | nil =>
    cases ran
    exact ⟨held, Nat.le_of_eq (Nat.zero_add _)⟩
  | cons a rest ih =>
    obtain ⟨u, es, more, taken, tail, rfl⟩ := (run_cons_iff step).mp ran
    obtain ⟨kept, lower⟩ := lowers s a u es held taken
    obtain ⟨last, bound⟩ := ih kept tail
    refine ⟨last, ?_⟩
    rw [List.length_cons]
    omega

theorem endsIn_of_rank (rank : σ → Nat)
    (lowers : ∀ s a t es, P s → step s a = some (t, es) → P t ∧ rank t < rank s)
    (rests : ∀ s, P s → Final step s → goal s) (held : P s) : EndsIn step goal s := by
  refine ⟨rank s, fun as t log ran => ?_⟩
  obtain ⟨kept, bound⟩ := length_add_rank_le step rank lowers held ran
  exact ⟨by omega, rests t kept⟩

theorem exists_final (bound : Nat)
    (short : ∀ as t log, run step s as = some (t, log) → as.length ≤ bound) :
    ∃ as t log, run step s as = some (t, log) ∧ Final step t := by
  induction bound generalizing s with
  | zero =>
    refine ⟨[], s, [], rfl, fun a => ?_⟩
    by_contra possible
    obtain ⟨⟨t, es⟩, taken⟩ := Option.ne_none_iff_exists'.mp possible
    exact absurd (short [a] t es ((run_singleton_iff step).mpr taken)) (Nat.not_succ_le_zero 0)
  | succ bound ih =>
    by_cases final : Final step s
    · exact ⟨[], s, [], rfl, final⟩
    · unfold Final at final
      push Not at final
      obtain ⟨a, possible⟩ := final
      obtain ⟨⟨t, es⟩, taken⟩ := Option.ne_none_iff_exists'.mp possible
      obtain ⟨as, u, log, ran, last⟩ := @ih t fun as u log ran => by
        have longer := short (a :: as) u (es ++ log) ((run_cons_iff step).mpr ⟨t, es, log, taken, ran, rfl⟩)
        rw [List.length_cons] at longer
        omega
      exact ⟨a :: as, u, es ++ log, (run_cons_iff step).mpr ⟨t, es, log, taken, ran, rfl⟩, last⟩

theorem EndsIn.of_run (ends : EndsIn step goal s) {as : List α} {log : List ε}
    (ran : run step s as = some (t, log)) : EndsIn step goal t := by
  obtain ⟨bound, ends⟩ := ends
  refine ⟨bound, fun more u tail rest => ?_⟩
  obtain ⟨short, last⟩ := ends (as ++ more) u (log ++ tail)
    ((run_append_iff step).mpr ⟨t, log, tail, ran, rest, rfl⟩)
  rw [List.length_append] at short
  exact ⟨by omega, last⟩

/-- What every step keeps keeps the end of a bounded system from a goal outside it. -/
theorem not_endsIn_of_kept (next : ∀ s a t es, P s → step s a = some (t, es) → P t)
    (never : ∀ s, P s → ¬ goal s) (held : P s) : ¬ EndsIn step goal s := by
  rintro ⟨bound, ends⟩
  obtain ⟨as, t, log, ran, final⟩ := exists_final step bound fun as t log ran => (ends as t log ran).1
  have kept : P t := run_invariant step (fun _ _ s => P s) (fun _ _ s a t es => next s a t es) held ran
  exact never t kept ((ends as t log ran).2 final)

end

end NetCam.Semantics
