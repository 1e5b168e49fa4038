import NetCam.Client.Calls

/-! Who decides the mode that is sent to the cameras: the user or the motion reports.

`setMode(MODE_AUTO)` sets `modeIsSetToAuto`, which nothing reads, and leaves `mode` at the
last manual mode. Motion reports are only heeded while `mode` is `MODE_AUTO`, so they
are never heeded again once the user has chosen a manual mode.
-/

set_option autoImplicit false

namespace NetCam.Client

open Semantics

def modeOf : Call → Option UserMode
  | .setMode mode => some mode
  | _ => none

def motionOf (c : Cam) : Call → Option Bool
  | .setMotionDetected d detected => if d = c then some detected else none
  | _ => none

def lastMode (calls : List Call) : Option UserMode := (calls.filterMap modeOf).getLast?

def lastManual (calls : List Call) : Option UserMode :=
  ((calls.filterMap modeOf).filter (· ≠ .auto)).getLast?

def lastMotion (calls : List Call) (c : Cam) : Bool :=
  (calls.filterMap (motionOf c)).getLast?.getD false

def Motion (calls : List Call) : Prop := ∃ c, lastMotion calls c = true

/-- The last call is a motion report, and the user's last choice leaves the mode to it. -/
def MotionDecides (calls : List Call) : Prop :=
  (∃ earlier c detected, calls = earlier ++ [.setMotionDetected c detected]) ∧
    (lastMode calls = none ∨ lastMode calls = some .auto)

structure Arbitrated (calls : List Call) (cm : ClientMonitor) : Prop where
  idle : lastMode calls = some .idle → cm.modeToSend = 0
  movie : lastMode calls = some .movie → cm.modeToSend = 1
  motion : MotionDecides calls → (cm.modeToSend = 1 ↔ Motion calls)

structure Remembered (calls : List Call) (cm : ClientMonitor) : Prop where
  mode : cm.mode = (lastManual calls).elim MODE_AUTO UserMode.code
  sent : ∀ m, lastManual calls = some m → cm.modeToSend = m.code - 1
  flags : ∀ c, cm.motionDetected c = lastMotion calls c

theorem lastMotion_concat_self (calls : List Call) (c : Cam) (detected : Bool) :
    lastMotion (calls ++ [.setMotionDetected c detected]) c = detected := by
  simp [lastMotion, motionOf]

theorem lastMotion_concat_of_ne {c d : Cam} (differ : d ≠ c) (calls : List Call) (detected : Bool) :
    lastMotion (calls ++ [.setMotionDetected d detected]) c = lastMotion calls c := by
  simp [lastMotion, motionOf, differ]

theorem lastManual_concat_auto (calls : List Call) :
    lastManual (calls ++ [.setMode .auto]) = lastManual calls := by
  simp [lastManual, modeOf]

theorem lastManual_concat_manual {m : UserMode} (manual : m ≠ .auto) (calls : List Call) :
    lastManual (calls ++ [.setMode m]) = some m := by
  simp [lastManual, modeOf, manual]

theorem lastManual_ne_auto {calls : List Call} {m : UserMode} (found : lastManual calls = some m) :
    m ≠ .auto := by
  have member := List.mem_of_getLast? found
  simpa using (List.mem_filter.mp member).2

theorem Remembered.other {calls : List Call} {cm next : ClientMonitor} {call : Call}
    (known : Remembered calls cm) (quiet : modeOf call = none) (still : ∀ c, motionOf c call = none)
    (mode : next.mode = cm.mode) (sent : next.modeToSend = cm.modeToSend)
    (flags : next.motionDetected = cm.motionDetected) : Remembered (calls ++ [call]) next where
  mode := by simpa [lastManual, quiet, mode] using known.mode
  sent := by simpa [lastManual, quiet, sent] using known.sent
  flags := by simpa [lastMotion, still, flags] using known.flags

theorem remembered_fresh : Remembered [] .fresh where
  mode := rfl
  sent := by intro m found; cases found
  flags := by intro c; cases c <;> rfl

theorem Remembered.setMode {calls : List Call} {cm : ClientMonitor} (known : Remembered calls cm)
    (mode : UserMode) : Remembered (calls ++ [.setMode mode]) (cm.setMode mode.code) := by
  have flags : ∀ c, lastMotion (calls ++ [.setMode mode]) c = lastMotion calls c := by
    intro c
    simp [lastMotion, motionOf]
  by_cases auto : mode = .auto
  · -- only `modeIsSetToAuto` changes, so the last manual mode stays
    subst auto
    refine ⟨?_, ?_, ?_⟩
    · rw [lastManual_concat_auto]
      exact known.mode
    · rw [lastManual_concat_auto]
      exact known.sent
    · intro c
      rw [flags c, ← known.flags c]
      cases c <;> rfl
  · have manual : mode.code ≠ MODE_AUTO := by cases mode <;> first | exact absurd rfl auto | decide
    rw [ClientMonitor.setMode, if_neg manual]
    refine ⟨?_, ?_, ?_⟩
    · rw [lastManual_concat_manual auto]
      rfl
    · rw [lastManual_concat_manual auto]
      rintro m ⟨⟩
      rfl
    · intro c
      rw [flags c, ← known.flags c]
      cases c <;> rfl

theorem Remembered.setMotionDetected {calls : List Call} {cm : ClientMonitor} (known : Remembered calls cm)
    (c : Cam) (detected : Bool) :
    Remembered (calls ++ [.setMotionDetected c detected]) (cm.setMotionDetected c.nbr detected) := by
  have quiet : modeOf (.setMotionDetected c detected) = none := rfl
  have manual : lastManual (calls ++ [.setMotionDetected c detected]) = lastManual calls := by
    simp [lastManual, quiet]
  refine ⟨?_, ?_, ?_⟩
  · rw [ClientMonitor.setMotionDetected_mode, manual]
    exact known.mode
  · intro m found
    rw [manual] at found
    -- a manual mode was set and never left, so the report is not heeded
    have kept := known.mode
    rw [found] at kept
    have notAuto : cm.mode ≠ MODE_AUTO := by
      have never := lastManual_ne_auto found
      rw [kept]
      cases m <;> first | exact absurd rfl never | decide
    rw [ClientMonitor.setMotionDetected_modeToSend, if_neg notAuto]
    exact known.sent m found
  · intro d
    rw [ClientMonitor.setMotionDetected_motionDetected]
    rcases eq_or_ne d c with rfl | differ
    · rw [Function.update_self, lastMotion_concat_self]
    · rw [Function.update_of_ne differ, lastMotion_concat_of_ne differ.symm]
      exact known.flags d

theorem remembered_step (calls : List Call) (cm : ClientMonitor) (call : Call)
    (next : ClientMonitor) (es : List Event) (known : Remembered calls cm)
    (taken : cm.step call = some (next, es)) : Remembered (calls ++ [call]) next := by
  cases call with
  | putPicture now pic c =>
    obtain ⟨done, _⟩ := ClientMonitor.step_putPicture taken
    have stored := ClientMonitor.putPicture_stores done
    exact known.other rfl (fun _ => rfl)
      (stored.mode.trans (ClientMonitor.store_mode ..))
      (stored.modeToSend.trans (ClientMonitor.store_modeToSend ..))
      (stored.motionDetected.trans (ClientMonitor.store_motionDetected ..))
  | getPicture c =>
    obtain ⟨pic, rest, _, _, rfl, _⟩ := ClientMonitor.step_getPicture taken
    exact known.other rfl (fun _ => rfl) (by cases c <;> rfl) (by cases c <;> rfl)
      (by funext d; cases c <;> cases d <;> rfl)
  | setForcedSync sync =>
    cases taken
    exact known.other rfl (fun _ => rfl) (by cases sync <;> rfl) (by cases sync <;> rfl)
      (by funext d; cases sync <;> cases d <;> rfl)
  | setMode mode =>
    cases taken
    exact known.setMode mode
  | setMotionDetected c detected =>
    cases taken
    exact known.setMotionDetected c detected

theorem remembered_run {calls : List Call} {cm : ClientMonitor} {log : List Event}
    (ran : run ClientMonitor.step .fresh calls = some (cm, log)) : Remembered calls cm :=
  run_invariant ClientMonitor.step (fun calls _ cm => Remembered calls cm)
    (fun calls _ cm call next es => remembered_step calls cm call next es) remembered_fresh ran

theorem lastManual_of_lastMode {calls : List Call} {m : UserMode} (manual : m ≠ .auto)
    (found : lastMode calls = some m) : lastManual calls = some m := by
  obtain ⟨earlier, choices⟩ := List.getLast?_eq_some_iff.mp found
  rw [lastManual, choices]
  simp [manual]

theorem motion_iff {calls : List Call} {cm : ClientMonitor} (known : Remembered calls cm) :
    Motion calls ↔ (cm.motionDetected .one || cm.motionDetected .two) = true := by
  rw [Bool.or_eq_true, known.flags, known.flags]
  constructor
  · rintro ⟨c, flag⟩
    cases c with
    | one => exact .inl flag
    | two => exact .inr flag
  · rintro (flag | flag)
    · exact ⟨.one, flag⟩
    · exact ⟨.two, flag⟩

/-- The mode that a history of calls asks for: the last manual choice, which a return to `AUTO`
does not take back, or else what the cameras have seen. -/
def asked (calls : List Call) : Int32 :=
  match lastManual calls with
  | some m => m.code - 1
  | none => if lastMotion calls .one || lastMotion calls .two then 1 else 0

section Asked

variable {calls : List Call} {cm next : ClientMonitor} {call : Call} {es : List Event}

theorem asked_concat (quiet : modeOf call = none) (still : ∀ c, motionOf c call = none) :
    asked (calls ++ [call]) = asked calls := by
  simp [asked, lastManual, lastMotion, quiet, still]

theorem asked_step (known : Remembered calls cm) (same : cm.modeToSend = asked calls)
    (taken : cm.step call = some (next, es)) : next.modeToSend = asked (calls ++ [call]) := by
  have later := remembered_step calls cm call next es known taken
  cases call with
  | putPicture now pic c =>
    obtain ⟨done, _⟩ := ClientMonitor.step_putPicture taken
    rw [(ClientMonitor.putPicture_stores done).modeToSend, ClientMonitor.store_modeToSend, same]
    exact (asked_concat rfl fun _ => rfl).symm
  | getPicture c =>
    obtain ⟨pic, rest, _, _, rfl, _⟩ := ClientMonitor.step_getPicture taken
    rw [asked_concat rfl fun _ => rfl, ← same]
    cases c <;> rfl
  | setForcedSync sync =>
    cases taken
    rw [asked_concat rfl fun _ => rfl, ← same]
    cases sync <;> rfl
  | setMode mode =>
    by_cases auto : mode = .auto
    · -- a return to `AUTO` leaves the mode and every report of motion as they were
      subst auto
      cases taken
      have motion : ∀ c, lastMotion (calls ++ [.setMode .auto]) c = lastMotion calls c := by
        intro c
        simp [lastMotion, motionOf]
      unfold asked
      rw [lastManual_concat_auto, motion, motion]
      exact same
    · have chosen := lastManual_concat_manual auto calls
      unfold asked
      rw [chosen]
      exact later.sent mode chosen
  | setMotionDetected c detected =>
    unfold asked
    cases found : lastManual (calls ++ [.setMotionDetected c detected]) with
    | some m => exact later.sent m found
    -- without a manual choice the flags decide, and they are the last reports
    | none =>
      have auto : next.mode = MODE_AUTO := by
        rw [later.mode, found]
        rfl
      dsimp only
      rw [← later.flags, ← later.flags]
      cases taken
      rw [ClientMonitor.setMotionDetected_mode] at auto
      rw [ClientMonitor.setMotionDetected_modeToSend, if_pos auto]

theorem modeToSend_eq_asked {log : List Event}
    (ran : run ClientMonitor.step .fresh calls = some (cm, log)) : cm.modeToSend = asked calls :=
  (run_invariant ClientMonitor.step
    (fun calls _ cm => Remembered calls cm ∧ cm.modeToSend = asked calls)
    (fun calls _ cm call next es known taken =>
      ⟨remembered_step calls cm call next es known.1 taken, asked_step known.1 known.2 taken⟩)
    ⟨remembered_fresh, rfl⟩ ran).2

end Asked

/-- After a motion report, with no manual choice ever made, motion decides. -/
theorem motion_decides {calls : List Call} {cm : ClientMonitor} {log : List Event}
    (ran : run ClientMonitor.step .fresh calls = some (cm, log)) (decides : MotionDecides calls)
    (never : lastManual calls = none) : cm.modeToSend = 1 ↔ Motion calls := by
  have known := remembered_run ran
  have auto : cm.mode = MODE_AUTO := by rw [known.mode, never]; rfl
  rw [motion_iff known]
  obtain ⟨⟨earlier, c, detected, rfl⟩, _⟩ := decides
  obtain ⟨before, _, _, _, taken, _⟩ := (run_append_iff ClientMonitor.step).mp ran
  cases (run_singleton_iff ClientMonitor.step).mp taken
  rw [ClientMonitor.setMotionDetected_mode] at auto
  rw [ClientMonitor.setMotionDetected_modeToSend, if_pos auto]
  split
  · next asked => exact iff_of_true rfl asked
  · next quiet => exact iff_of_false (by decide) quiet

/-- The mode is arbitrated as meant, except after a motion report that follows a return
from a manual mode to AUTO and does not happen to ask for the manual mode left behind. -/
theorem arbitrated_iff {calls : List Call} {cm : ClientMonitor} {log : List Event}
    (ran : run ClientMonitor.step .fresh calls = some (cm, log)) :
    Arbitrated calls cm ↔
      (MotionDecides calls → ∀ m, lastManual calls = some m → (m = .movie ↔ Motion calls)) := by
  have known := remembered_run ran
  have manual : ∀ m, lastManual calls = some m → (cm.modeToSend = 1 ↔ m = .movie) := by
    intro m found
    have never := lastManual_ne_auto found
    rw [known.sent m found]
    cases m with
    | auto => exact absurd rfl never
    | idle => decide
    | movie => decide
  constructor
  · intro arbitrated decides m found
    rw [← manual m found]
    exact arbitrated.motion decides
  · intro coincides
    refine ⟨?_, ?_, ?_⟩
    · intro idle
      exact known.sent .idle (lastManual_of_lastMode (by decide) idle)
    · intro movie
      exact known.sent .movie (lastManual_of_lastMode (by decide) movie)
    · intro decides
      cases found : lastManual calls with
      | none => exact motion_decides ran decides found
      | some m => rw [manual m found, coincides decides m found]

/-- Movie mode, then motion in AUTO mode: the mode stays right by coincidence. -/
theorem arbitrated_when_motion_agrees : ∃ cm log,
    run ClientMonitor.step .fresh
        [.setMode .movie, .setMode .auto, .setMotionDetected .one true] = some (cm, log) ∧
      Arbitrated [.setMode .movie, .setMode .auto, .setMotionDetected .one true] cm := by
  refine ⟨_, _, rfl, (arbitrated_iff rfl).mpr ?_⟩
  rintro _ m ⟨⟩
  exact iff_of_true rfl ⟨.one, rfl⟩

/-- Back in AUTO mode after IDLE, motion on camera one leaves the cameras idle. -/
theorem motion_ignored_after_manual : ∃ cm log,
    run ClientMonitor.step .fresh
        [.setMode .idle, .setMode .auto, .setMotionDetected .one true] = some (cm, log) ∧
      lastMode [.setMode .idle, .setMode .auto, .setMotionDetected .one true] = some .auto ∧
      lastMotion [.setMode .idle, .setMode .auto, .setMotionDetected .one true] .one = true ∧
      cm.modeToSend = 0 ∧
      ¬ Arbitrated [.setMode .idle, .setMode .auto, .setMotionDetected .one true] cm := by
  refine ⟨_, _, rfl, rfl, rfl, rfl, ?_⟩
  intro arbitrated
  have law := arbitrated.motion
    ⟨⟨[.setMode .idle, .setMode .auto], .one, true, rfl⟩, .inr rfl⟩
  exact absurd (law.mpr ⟨.one, rfl⟩) (by decide)

end NetCam.Client
