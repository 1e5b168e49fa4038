import NetCam.Client.PictureOrder
import NetCam.Semantics.Condition

/-! The waits of `ClientMonitor` with the threads that sleep in them.

`getPicture` and `getNewMode` sleep on one condition, whatever they wait for. A call of
`Calls` is the whole method, so a run with sleeping threads is compared with a run of calls.
-/

set_option autoImplicit false

namespace NetCam.Client

open Semantics

namespace ClientMonitor

/-- The synchronized methods, but for `getModeUpdate`, which nobody calls. -/
inductive Method where
  | call (call : Call)
  | getNewMode (currentMode : Int32)
  deriving DecidableEq, Repr

/-- A method that throws leaves the fields to the next one; see `step_of_guard`. -/
def methods : Monitor ClientMonitor Method where
  guard cm
    | .call (.getPicture c) => cm.available c
    | .call (.putPicture ..) | .call (.setForcedSync _) | .call (.setMode _)
    | .call (.setMotionDetected ..) => true
    | .getNewMode currentMode => currentMode ≠ cm.modeToSend
  effect cm
    | .call call =>
      match cm.step call with
      | some (next, _) => next
      | none => cm
    | .getNewMode _ => cm
  notify
    | .call (.putPicture ..) | .call (.setMode _) | .call (.setMotionDetected ..) => .inside
    | .call (.getPicture _) | .call (.setForcedSync _) | .getNewMode _ => .never

theorem step_of_guard {cm : ClientMonitor} (stocked : cm.Stocked) {call : Call}
    (ready : methods.guard cm (.call call) = true) :
    ∃ es, cm.step call = some (methods.effect cm (.call call), es) := by
  have completed {next : ClientMonitor} {es : List Event} (taken : cm.step call = some (next, es)) :
      ∃ es, cm.step call = some (methods.effect cm (.call call), es) := by
    refine ⟨es, ?_⟩
    simp only [methods, taken]
  cases call with
  | putPicture now pic c =>
    obtain ⟨next, done⟩ := cm.putPicture_ok now pic c
    refine @completed next [.put c (next.lastPic c)] ?_
    simp only [step, done]
  | getPicture c =>
    have up : cm.available c = true := ready
    obtain ⟨pic, rest, held⟩ := List.exists_cons_of_ne_nil (stocked c up)
    refine @completed (cm.take rest c) [.got c pic] ?_
    simp only [step, getPicture_ok_iff.mpr ⟨up, rest, held, rfl⟩]
  | setForcedSync | setMode | setMotionDetected => exact completed rfl

/-- Taking a picture ends no wait. -/
theorem take_ends_no_wait {cm : ClientMonitor} {rest : List Picture} {c : Cam} {waiting : Method}
    (waits : methods.guard cm waiting = false) : methods.guard (cm.take rest c) waiting = false := by
  cases waiting with
  | getNewMode currentMode => cases c <;> exact waits
  | call call =>
    cases call with
    | putPicture | setForcedSync | setMode | setMotionDetected => cases waits
    | getPicture d =>
      change (cm.take rest c).available d = false
      rw [take_available, Function.update_apply]
      split
      · rfl
      · exact waits

theorem methods_announces : methods.Announces := by
  intro cm method waiting _ waits ended silent
  cases method with
  | getNewMode currentMode => exact absurd (waits.symm.trans ended) Bool.false_ne_true
  | call call =>
    cases call with
    | putPicture | setMode | setMotionDetected => cases silent
    | getPicture c =>
      cases taken : cm.step (.getPicture c) with
      | none =>
        simp only [methods, taken] at waits ended
        exact absurd (waits.symm.trans ended) Bool.false_ne_true
      | some result =>
        obtain ⟨next, es⟩ := result
        obtain ⟨pic, rest, _, _, rfl, _⟩ := step_getPicture taken
        simp only [methods, taken] at waits ended
        exact absurd ((take_ends_no_wait waits).symm.trans ended) Bool.false_ne_true
    | setForcedSync sync =>
      have kept : methods.guard (cm.setForcedSync sync) waiting = methods.guard cm waiting := by
        cases sync <;> rfl
      exact absurd (waits.symm.trans (kept.symm.trans ended)) Bool.false_ne_true

/-- The call an entry of the log stands for, if it is one of `Calls`. -/
def Method.called {ι : Type} : ι × Method → Option Call
  | (_, call c) => some c
  | (_, getNewMode _) => none

theorem stocked_fresh : fresh.Stocked := by
  intro c up
  cases c <;> cases up

theorem calls_of_atomic {ι : Type} {log logged : List (ι × Method)} {cm : ClientMonitor}
    (ran : run methods.atomic .fresh log = some (cm, logged)) :
    ∃ events, run step .fresh (log.filterMap Method.called) = some (cm, events) := by
  suffices kept : cm.Stocked ∧
      ∃ events, run step .fresh (log.filterMap Method.called) = some (cm, events) from kept.2
  refine run_invariant methods.atomic
    (fun done _ cm => cm.Stocked ∧
      ∃ events, run step .fresh (done.filterMap Method.called) = some (cm, events))
    ?_ ⟨stocked_fresh, [], rfl⟩ ran
  rintro done _ cm ⟨i, method⟩ next _ ⟨stocked, events, before⟩ taken
  unfold Monitor.atomic at taken
  dsimp only at taken
  split at taken
  · next ready =>
    cases taken
    rw [List.filterMap_append]
    cases method with
    | getNewMode currentMode =>
      have unseen : [(i, Method.getNewMode currentMode)].filterMap Method.called = [] := rfl
      rw [unseen, List.append_nil]
      exact ⟨stocked, events, before⟩
    | call c =>
      obtain ⟨es, called⟩ := step_of_guard stocked ready
      have seen : [(i, Method.call c)].filterMap Method.called = [c] := rfl
      rw [seen]
      exact ⟨step_stocked stocked called, events ++ es,
        (run_append_iff _).mpr ⟨cm, events, es, before, (run_singleton_iff _).mpr called, rfl⟩⟩
  · cases taken

/-- With any threads inside its methods the monitor is in a state that a sequence of completed
calls leads to, and a thread sleeps only while the call it is in could not complete. -/
theorem sleeps_only_while_blocked {ι : Type} [DecidableEq ι] {activities : List (Activity ι Method)}
    {s : Monitored ClientMonitor ι Method} {log : List (ι × Method)}
    (ran : run methods.step (.start .fresh) activities = some (s, log)) :
    Monitor.Exact methods .fresh log s ∧
      ∃ events, run step .fresh (log.filterMap Method.called) = some (s.shared, events) := by
  have exact_ := Monitor.exact_of_announces methods_announces
    (fun method => by
      cases method with
      | getNewMode => nofun
      | call c => cases c <;> nofun) ran
  exact ⟨exact_, calls_of_atomic exact_.atomic⟩

def pictureArrives : List (Activity (Fin 3) Method) :=
  [.call 0 (.call (.getPicture .one)), .call 1 (.getNewMode 0),
    .call 2 (.call (.putPicture 1000 ⟨[], 7⟩ .one)), .resume 1, .resume 0]

theorem sleeps_only_while_blocked_picture : ∃ s log,
    run methods.step (.start .fresh) pictureArrives = some (s, log) ∧
      s.status 1 = .asleep (.getNewMode 0) ∧ log.map Prod.fst = [2, 0] ∧
      Monitor.Exact methods .fresh log s ∧
      ∃ events, run step .fresh (log.filterMap Method.called) = some (s.shared, events) :=
  ⟨_, _, rfl, rfl, rfl, @sleeps_only_while_blocked (Fin 3) _ pictureArrives _ _ rfl⟩

end ClientMonitor

end NetCam.Client
