import Mathlib.Logic.Function.Basic
import NetCam.Semantics.Trace

/-! Monitors whose methods wait on one condition variable.

A method holds the lock while it tests its guard and while it takes effect. As long as the
guard is false the calling thread sleeps, and it sleeps until it is woken. Waking up only
leads to another test.
-/

set_option autoImplicit false

namespace NetCam.Semantics

/-- What a method does for the sleeping threads: nothing, or it wakes them all, before or
after it gives up the lock. -/
inductive Notify where
  | never
  | inside
  | after
  deriving DecidableEq, Repr

structure Monitor (σ μ : Type) where
  guard : σ → μ → Bool
  effect : σ → μ → σ
  notify : μ → Notify

inductive Status (μ : Type) where
  | outside
  | asleep (method : μ)
  | woken (method : μ)
  | notifying
  deriving DecidableEq, Repr

structure Monitored (σ ι μ : Type) where
  shared : σ
  status : ι → Status μ

inductive Activity (ι μ : Type) where
  | call (i : ι) (method : μ)
  | resume (i : ι)
  | notify (i : ι)
  | spurious (i : ι)
  deriving DecidableEq, Repr

def Status.wake {μ : Type} : Status μ → Status μ
  | asleep method => woken method
  | status => status

variable {σ ι μ : Type}

namespace Monitor

-- The methods as single steps that are possible when their guards hold.
def atomic (m : Monitor σ μ) : Step σ (ι × μ) (ι × μ) := fun s (i, method) =>
  if m.guard s method then some (m.effect s method, [(i, method)]) else none

/-- A method that can end a wait wakes the sleeping threads. -/
def Announces (m : Monitor σ μ) : Prop :=
  ∀ s method waiting, m.guard s method = true → m.guard s waiting = false →
    m.guard (m.effect s method) waiting = true → m.notify method ≠ .never

variable [DecidableEq ι]

-- A thread that has the lock tests the guard.
def enter (m : Monitor σ μ) (s : Monitored σ ι μ) (i : ι) (method : μ) :
    Monitored σ ι μ × List (ι × μ) :=
  if m.guard s.shared method then
    let shared := m.effect s.shared method
    match m.notify method with
    | .never => (⟨shared, Function.update s.status i .outside⟩, [(i, method)])
    | .inside => (⟨shared, fun j => (Function.update s.status i .outside j).wake⟩, [(i, method)])
    | .after => (⟨shared, Function.update s.status i .notifying⟩, [(i, method)])
  else ({ s with status := Function.update s.status i (.asleep method) }, [])

def step (m : Monitor σ μ) : Step (Monitored σ ι μ) (Activity ι μ) (ι × μ)
  | s, .call i method =>
    match s.status i with
    | .outside => some (m.enter s i method)
    | _ => none
  | s, .resume i =>
    match s.status i with
    | .woken method => some (m.enter s i method)
    | _ => none
  | s, .notify i =>
    match s.status i with
    | .notifying => some ({ s with status := fun j => (Function.update s.status i .outside j).wake }, [])
    | _ => none
  | s, .spurious i =>
    match s.status i with
    | .asleep method => some ({ s with status := Function.update s.status i (.woken method) }, [])
    | _ => none

end Monitor

namespace Monitored

def start (shared : σ) : Monitored σ ι μ := ⟨shared, fun _ => .outside⟩

/-- A thread sleeps on a guard that holds only if it is about to be woken. -/
def NoneForgotten (m : Monitor σ μ) (s : Monitored σ ι μ) : Prop :=
  ∀ i method, s.status i = .asleep method → m.guard s.shared method = true →
    ∃ j, s.status j = .notifying

end Monitored

namespace Monitor

variable [DecidableEq ι] {m : Monitor σ μ} {s next : Monitored σ ι μ} {log : List (ι × μ)}

section Steps

omit [DecidableEq ι] in
theorem wake_ne_asleep (status : Status μ) (method : μ) : status.wake ≠ .asleep method := by
  cases status <;> simp [Status.wake]

theorem still_notifying {i j : ι} {status : Status μ} (notifying : s.status j = .notifying)
    (silent : s.status i ≠ .notifying) : Function.update s.status i status j = .notifying := by
  have other : j ≠ i := by
    rintro rfl
    exact silent notifying
  rw [Function.update_of_ne other]
  exact notifying

/-- What a step does to the shared fields is what the logged methods do one after another. -/
theorem enter_atomic (i : ι) (method : μ) :
    run m.atomic s.shared (m.enter s i method).2 =
      some ((m.enter s i method).1.shared, (m.enter s i method).2) := by
  unfold enter
  cases holds : m.guard s.shared method with
  | false => rfl
  | true =>
    rw [if_pos rfl]
    cases m.notify method <;> simp [run, atomic, holds]

inductive Moves (m : Monitor σ μ) (s : Monitored σ ι μ) : Monitored σ ι μ → List (ι × μ) → Prop where
  | enters {i : ι} (method : μ) (silent : s.status i ≠ .notifying) :
    Moves m s (m.enter s i method).1 (m.enter s i method).2
  | notifies (i : ι) :
    Moves m s { s with status := fun j => (Function.update s.status i .outside j).wake } []
  | wakes {i : ι} {method : μ} (asleep : s.status i = .asleep method) :
    Moves m s { s with status := Function.update s.status i (.woken method) } []

theorem step_moves {activity : Activity ι μ} (taken : m.step s activity = some (next, log)) :
    m.Moves s next log := by
  have entered {i : ι} {method : μ} (silent : s.status i ≠ .notifying)
      (taken : some (m.enter s i method) = some (next, log)) : m.Moves s next log := by
    have same := Option.some.inj taken
    have moved := Moves.enters (m := m) method silent
    rw [same] at moved
    exact moved
  cases activity with
  | call i method =>
    simp only [step] at taken
    split at taken
    · next outside => exact entered (by simp [outside]) taken
    · cases taken
  | resume i =>
    simp only [step] at taken
    split at taken
    · next method woken => exact entered (by simp [woken]) taken
    · cases taken
  | notify i =>
    simp only [step] at taken
    split at taken <;> cases taken
    exact .notifies i
  | spurious i =>
    simp only [step] at taken
    split at taken <;> cases taken
    exact .wakes (by assumption)

theorem step_atomic {activity : Activity ι μ} (taken : m.step s activity = some (next, log)) :
    run m.atomic s.shared log = some (next.shared, log) := by
  cases step_moves taken with
  | enters method => exact enter_atomic _ method
  | notifies | wakes => rfl

/-- A thread that enters does not sleep on a guard that holds, and neither does anyone because
of it. The thread was not the one about to wake the others. -/
theorem enter_none_forgotten (announces : m.Announces) (sound : s.NoneForgotten m) {i : ι}
    (silent : s.status i ≠ .notifying) (method : μ) : (m.enter s i method).1.NoneForgotten m := by
  unfold enter
  cases holds : m.guard s.shared method with
  | false =>
    rw [if_neg Bool.false_ne_true]
    intro j waiting asleep ready
    dsimp only at asleep ready
    by_cases own : j = i
    · subst own
      rw [Function.update_self] at asleep
      cases asleep
      rw [holds] at ready
      cases ready
    · rw [Function.update_of_ne own] at asleep
      obtain ⟨k, notifying⟩ := sound j waiting asleep ready
      exact ⟨k, still_notifying notifying silent⟩
  | true =>
    rw [if_pos rfl]
    cases announced : m.notify method with
    | inside =>
      intro j waiting asleep _
      exact absurd asleep (wake_ne_asleep _ waiting)
    | after =>
      intro _ _ _ _
      exact ⟨i, Function.update_self ..⟩
    | never =>
      intro j waiting asleep ready
      dsimp only at asleep ready
      by_cases own : j = i
      · subst own
        rw [Function.update_self] at asleep
        cases asleep
      · rw [Function.update_of_ne own] at asleep
        -- an unannounced method ends no wait, so the guard held before
        have before : m.guard s.shared waiting = true := by
          by_contra ended
          exact announces s.shared method waiting holds (Bool.not_eq_true _ ▸ ended) ready announced
        obtain ⟨k, notifying⟩ := sound j waiting asleep before
        exact ⟨k, still_notifying notifying silent⟩

theorem step_none_forgotten (announces : m.Announces) (sound : s.NoneForgotten m)
    {activity : Activity ι μ} (taken : m.step s activity = some (next, log)) :
    next.NoneForgotten m := by
  cases step_moves taken with
  | enters method silent => exact enter_none_forgotten announces sound silent method
  | notifies =>
    intro j waiting asleep _
    exact absurd asleep (wake_ne_asleep _ waiting)
  | @wakes i method asleep =>
    intro j waiting sleeps ready
    dsimp only at sleeps ready
    by_cases own : j = i
    · subst own
      rw [Function.update_self] at sleeps
      cases sleeps
    · rw [Function.update_of_ne own] at sleeps
      obtain ⟨k, notifying⟩ := sound j waiting sleeps ready
      exact ⟨k, still_notifying notifying (by simp [asleep])⟩

end Steps

/-- Whatever the threads of a monitor do is a sequence of its methods, each of them taken
when its guard held. -/
theorem run_atomic {shared : σ} {activities : List (Activity ι μ)}
    (ran : run m.step (.start shared) activities = some (s, log)) :
    run m.atomic shared log = some (s.shared, log) := by
  refine run_invariant m.step (fun _ log s => run m.atomic shared log = some (s.shared, log)) ?_ rfl ran
  intro _ log s activity next more held taken
  exact (run_append_iff _).mpr ⟨s.shared, log, more, held, step_atomic taken, rfl⟩

/-- No wake-up is lost. -/
theorem none_forgotten (announces : m.Announces) {shared : σ} {activities : List (Activity ι μ)}
    (ran : run m.step (.start shared) activities = some (s, log)) : s.NoneForgotten m :=
  run_invariant m.step (fun _ _ s => s.NoneForgotten m)
    (fun _ _ _ _ _ _ sound taken => step_none_forgotten announces sound taken)
    (fun _ _ asleep => by cases asleep) ran

/-- A woken thread gets through if its guard holds. -/
theorem resume_proceeds {i : ι} {method : μ} (woken : s.status i = .woken method)
    (holds : m.guard s.shared method = true) :
    ∃ next, m.step s (.resume i) = some (next, [(i, method)]) := by
  have entered : m.step s (.resume i) = some (m.enter s i method) := by
    simp only [step, woken]
  have logged : (m.enter s i method).2 = [(i, method)] := by
    unfold enter
    rw [if_pos holds]
    cases m.notify method <;> rfl
  rw [entered, ← logged]
  exact ⟨_, rfl⟩

/-- The threads have behaved as if every method were a single step, and whoever sleeps has to. -/
structure Exact (m : Monitor σ μ) (shared : σ) (log : List (ι × μ)) (s : Monitored σ ι μ) : Prop where
  atomic : run m.atomic shared log = some (s.shared, log)
  asleep : ∀ i method, s.status i = .asleep method → m.guard s.shared method = false
  woken : ∀ i method, s.status i = .woken method → m.guard s.shared method = true →
    ∃ next, m.step s (.resume i) = some (next, [(i, method)])

section Inside

theorem step_not_notifying (prompt : ∀ method, m.notify method ≠ .after)
    (quiet : ∀ i, s.status i ≠ .notifying) {activity : Activity ι μ}
    (taken : m.step s activity = some (next, log)) (j : ι) : next.status j ≠ .notifying := by
  have kept {i : ι} {status : Status μ} (new : status ≠ .notifying) :
      Function.update s.status i status j ≠ .notifying := by
    by_cases own : j = i
    · rw [own, Function.update_self]
      exact new
    · rw [Function.update_of_ne own]
      exact quiet j
  have wakes {status : Status μ} (other : status ≠ .notifying) : status.wake ≠ .notifying := by
    cases status <;> simp_all [Status.wake]
  cases step_moves taken with
  | enters method =>
    unfold enter
    split
    · cases announced : m.notify method with
      | never => exact kept nofun
      | inside => exact wakes (kept nofun)
      | after => exact absurd announced (prompt method)
    · exact kept nofun
  | notifies => exact wakes (kept nofun)
  | wakes => exact kept nofun

/-- A monitor that announces what can end a wait before it gives up the lock is as good as one
with single steps. -/
theorem exact_of_announces (announces : m.Announces) (prompt : ∀ method, m.notify method ≠ .after)
    {shared : σ} {activities : List (Activity ι μ)}
    (ran : run m.step (.start shared) activities = some (s, log)) : Exact m shared log s := by
  refine ⟨run_atomic ran, ?_, fun i method => resume_proceeds⟩
  have quiet : ∀ i, s.status i ≠ .notifying := by
    refine run_invariant m.step (fun _ _ s => ∀ i, s.status i ≠ .notifying) ?_ (fun _ at_ => by cases at_) ran
    intro _ _ _ _ _ _ quiet taken
    exact step_not_notifying prompt quiet taken
  intro i method asleep
  by_contra holds
  obtain ⟨j, notifying⟩ := none_forgotten announces ran i method asleep (Bool.not_eq_false _ ▸ holds)
  exact quiet j notifying

end Inside

end Monitor

end NetCam.Semantics
