import NetCam.Client.SyncTracking

/-! The two stamp lists and the loop that trims them, whatever the time stamps and the
clock. Nothing here depends on a difference of time stamps not wrapping around.
-/

set_option autoImplicit false

namespace NetCam.Client

open Semantics

namespace ClientMonitor

structure Bookkept (cm : ClientMonitor) : Prop where
  empty : cm.synced = false → ∀ c, cm.stamps c = []
  short : cm.synced = true → ∀ c, (cm.stamps c).length ≤ delayedFramesTolerance - 1

/-- The loop of `asyncCheck`, on the branch that leads to it: it stops at some stamp. -/
def LoopStops (cm : ClientMonitor) (pic other : Picture) (c : Cam) : Prop :=
  let diff := pic.timeStamp - other.timeStamp
  ¬ (diff.abs ≤ syncToleranceMillis ∨ diff < 0 ∨ cm.forceSync = true) →
    ∃ first kept, removeConforming other.timeStamp (cm.stamps c ++ [pic.timeStamp]) = .ok (first :: kept)

theorem removeConforming_ne_nil (o : Int64) (stamps : List Int64) :
    removeConforming o stamps ≠ .ok [] := by
  induction stamps with
  | nil => simp [removeConforming]
  | cons first rest ih =>
    rw [removeConforming]
    split
    · exact ih
    · simp

theorem loopStops (cm : ClientMonitor) (pic other : Picture) (c : Cam) : cm.LoopStops pic other c := by
  intro apart
  rw [not_or, not_or] at apart
  obtain ⟨far, nonneg, _⟩ := apart
  rw [abs_of_nonneg nonneg] at far
  obtain ⟨kept, removed⟩ := removeConforming_ne_error far (cm.stamps c)
  cases kept with
  | nil => exact absurd removed (removeConforming_ne_nil _ _)
  | cons first kept => exact ⟨first, kept, removed⟩

theorem bookkept_clearStamps (cm : ClientMonitor) : cm.clearStamps.Bookkept where
  empty := by intro _ c; cases c <;> rfl
  short := by intro _ c; cases c <;> exact Nat.zero_le _

theorem bookkept_asyncCheck {cm next : ClientMonitor} {syncReq : Bool} {diff : Int64} {c d : Cam}
    {pic other : Picture} (synced : cm.synced = true)
    (checked : cm.asyncCheck syncReq diff c d pic other = .ok next) : next.Bookkept := by
  unfold asyncCheck at checked
  split at checked
  · cases checked
    exact bookkept_clearStamps cm
  split at checked
  · cases checked
  · next kept _ =>
    dsimp only at checked
    split at checked
    · cases checked
      exact ⟨fun _ d => by cases d <;> rfl, fun impossible => by cases impossible⟩
    · next few =>
      cases checked
      refine ⟨fun idle => ?_, fun _ d => ?_⟩
      · rw [setStamps_synced, synced] at idle
        cases idle
      · rw [not_or] at few
        cases d with
        | one => exact Nat.le_of_lt_succ (Nat.lt_of_not_le few.1)
        | two => exact Nat.le_of_lt_succ (Nat.lt_of_not_le few.2)

theorem bookkept_syncReqCheck {cm next : ClientMonitor} {pic other : Picture} {c d : Cam}
    (kept : cm.Bookkept) (checked : cm.syncReqCheck pic other c d = .ok next) : next.Bookkept := by
  unfold syncReqCheck at checked
  dsimp only at checked
  split at checked
  · next synced => exact bookkept_asyncCheck synced checked
  · next idle =>
    unfold syncCheck at checked
    split at checked
    · next acquired =>
      split at acquired
      · cases acquired
        cases checked
        refine ⟨fun impossible => ?_, fun _ d => ?_⟩
        · rw [setStamps_synced] at impossible
          cases impossible
        · have alone : (cm.clearStamps.setSynced true).stamps = fun _ => [] := by
            funext e
            cases e <;> rfl
          rw [setStamps_stamps, alone, Function.update_apply]
          split
          · exact Nat.le_add_left 1 8
          · exact Nat.zero_le _
      · cases acquired
    · next kept_idle =>
      split at kept_idle
      · cases kept_idle
      · cases kept_idle
        cases checked
        exact kept

theorem bookkept_putPicture {cm next : ClientMonitor} {now : Int64} {pic : Picture} {c : Cam}
    (kept : cm.Bookkept) (done : cm.putPicture now pic c.nbr = .ok next) : next.Bookkept := by
  have stored : (cm.store (cm.baselineFor now pic c) (cm.converted now pic c) c).Bookkept :=
    ⟨by simpa only [store_synced, store_stamps] using kept.empty,
      by simpa only [store_synced, store_stamps] using kept.short⟩
  rw [putPicture_nbr] at done
  dsimp only at done
  split at done
  · exact bookkept_syncReqCheck stored done
  · cases done
    exact stored

end ClientMonitor

theorem SameSyncFields.bookkept {cm next : ClientMonitor} (same : SameSyncFields cm next)
    (kept : cm.Bookkept) : next.Bookkept where
  empty := by rw [same.synced, same.stamps]; exact kept.empty
  short := by rw [same.synced, same.stamps]; exact kept.short

theorem bookkept_step (cm : ClientMonitor) (call : Call) (next : ClientMonitor) (es : List Event)
    (kept : cm.Bookkept) (taken : cm.step call = some (next, es)) : next.Bookkept := by
  cases call with
  | putPicture now pic c =>
    exact ClientMonitor.bookkept_putPicture kept (ClientMonitor.step_putPicture taken).1
  | getPicture c =>
    obtain ⟨pic, rest, _, _, rfl, _⟩ := ClientMonitor.step_getPicture taken
    exact (sameSyncFields_take cm rest c).bookkept kept
  | setForcedSync sync =>
    cases taken
    cases sync <;> exact ⟨kept.empty, kept.short⟩
  | setMode mode =>
    cases taken
    exact (sameSyncFields_setMode cm mode.code).bookkept kept
  | setMotionDetected c detected =>
    cases taken
    exact (sameSyncFields_setMotionDetected cm c detected).bookkept kept

theorem bookkept_fresh : ClientMonitor.fresh.Bookkept where
  empty := by intro _ c; cases c <;> rfl
  short := by intro synced; cases synced

/-- After any calls the stamps are as they should be, the trimming loop stops before it
empties a list, and the next `putPicture` returns. -/
theorem sync_bookkeeping {calls : List Call} {cm : ClientMonitor} {log : List Event}
    (ran : run ClientMonitor.step .fresh calls = some (cm, log)) :
    cm.Bookkept ∧ (∀ pic other c, cm.LoopStops pic other c) ∧
      ∀ now pic (c : Cam), ∃ next, cm.putPicture now pic c.nbr = .ok next := by
  refine ⟨?_, cm.loopStops, cm.putPicture_ok⟩
  exact run_invariant ClientMonitor.step (fun _ _ cm => cm.Bookkept)
    (fun _ _ cm call next es => bookkept_step cm call next es) bookkept_fresh ran

/-- Forced into synchronous mode, with time stamps whose difference overflows. -/
theorem sync_bookkeeping_overflow : ∃ cm log,
    run ClientMonitor.step .fresh [.setForcedSync true, .putPicture 1000 ⟨[], 7⟩ .one,
        .putPicture 1000 ⟨[], -9223372036854775808⟩ .two,
        .putPicture 0 ⟨[], 9223372036854775807⟩ .one] = some (cm, log) ∧
      cm.synced = true ∧ cm.Bookkept := by
  have finishes : (run ClientMonitor.step .fresh [.setForcedSync true, .putPicture 1000 ⟨[], 7⟩ .one,
        .putPicture 1000 ⟨[], -9223372036854775808⟩ .two,
        .putPicture 0 ⟨[], 9223372036854775807⟩ .one]).map (fun result => result.1.synced) =
      some true := by decide +kernel
  obtain ⟨⟨cm, log⟩, ran, synced⟩ := Option.map_eq_some_iff.mp finishes
  exact ⟨cm, log, ran, synced, (sync_bookkeeping ran).1⟩

end NetCam.Client
