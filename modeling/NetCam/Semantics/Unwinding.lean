import Mathlib.Data.List.Forall2
import NetCam.Semantics.Trace

/-! What an observer sees of two runs.

Noninterference by unwinding: a relation between the states of the two runs that
corresponding actions keep, and under which they look the same.
-/

set_option autoImplicit false

namespace NetCam.Semantics

variable {σ α ε δ : Type}

/-- What is seen of the events of a run, as far as it can be taken. -/
def seen (step : Step σ α ε) (view : ε → Option δ) (s : σ) : List α → List δ
  | [] => []
  | a :: rest =>
    match step s a with
    | none => []
    | some (t, es) => es.filterMap view ++ seen step view t rest

inductive Matched (R : σ → σ → Prop) (view : ε → Option δ) :
    Option (σ × List ε) → Option (σ × List ε) → Prop where
  | blocked : Matched R view none none
  | taken {s t : σ} {es fs : List ε} : R s t → es.filterMap view = fs.filterMap view →
      Matched R view (some (s, es)) (some (t, fs))

section
variable {step : Step σ α ε} {view : ε → Option δ}

theorem seen_cons {s t : σ} {a : α} {rest : List α} {es : List ε} (taken : step s a = some (t, es)) :
    seen step view s (a :: rest) = es.filterMap view ++ seen step view t rest := by
  simp only [seen, taken]

/-- Corresponding runs look the same if admitted actions unwind. -/
theorem seen_eq_of_unwinding {guard : σ → α → Prop} {R : σ → σ → Prop} {A : α → α → Prop}
    (unwinds : ∀ s t a b, R s t → A a b → guard s a → Matched R view (step s a) (step t b))
    {s t : σ} (related : R s t) {as bs : List α} (alike : List.Forall₂ A as bs)
    (guarded : Guarded step guard s as) : seen step view s as = seen step view t bs := by
  induction alike generalizing s t with
  | nil => rfl
  | @cons a b rest more pair _ ih =>
    obtain ⟨admitted, later⟩ := guarded
    have matched := unwinds s t a b related pair admitted
    simp only [seen]
    generalize step s a = left at matched later ⊢
    generalize step t b = right at matched ⊢
    cases matched with
    | blocked => rfl
    | taken kept same => exact congrArg₂ (· ++ ·) same (ih kept later)

end

end NetCam.Semantics
