import NetCam.Client.Calls

/-! The two cameras exchanged.

The source writes every operation on a camera twice. The two halves agree: with all fields
of the cameras exchanged, each operation does for one camera what it did for the other.
-/

set_option autoImplicit false

namespace NetCam.Client

open Semantics

theorem Cam.nbr_other (c : Cam) : c.other.nbr = 3 - c.nbr := by cases c <;> decide

def Call.mirror : Call → Call
  | .putPicture now pic c => .putPicture now pic c.other
  | .getPicture c => .getPicture c.other
  | .setForcedSync sync => .setForcedSync sync
  | .setMode mode => .setMode mode
  | .setMotionDetected c detected => .setMotionDetected c.other detected

def Event.mirror : Event → Event
  | .put c pic => .put c.other pic
  | .got c pic => .got c.other pic

namespace ClientMonitor

def mirror (cm : ClientMonitor) : ClientMonitor :=
  { cm with
    motionDetected1 := cm.motionDetected2
    motionDetected2 := cm.motionDetected1
    picBuffer1 := cm.picBuffer2
    picBuffer2 := cm.picBuffer1
    pic1Available := cm.pic2Available
    pic2Available := cm.pic1Available
    lastPic1 := cm.lastPic2
    lastPic2 := cm.lastPic1
    syncStamps1 := cm.syncStamps2
    syncStamps2 := cm.syncStamps1
    baseline1 := cm.baseline2
    baseline2 := cm.baseline1 }

theorem mirror_fresh : fresh.mirror = fresh := rfl

section Fields

variable (cm : ClientMonitor) (c : Cam)

@[simp] theorem mirror_baseline : cm.mirror.baseline c.other = cm.baseline c := by cases c <;> rfl

@[simp] theorem mirror_lastPic : cm.mirror.lastPic c.other = cm.lastPic c := by cases c <;> rfl

@[simp] theorem mirror_available : cm.mirror.available c.other = cm.available c := by cases c <;> rfl

@[simp] theorem mirror_buffer : cm.mirror.buffer c.other = cm.buffer c := by cases c <;> rfl

@[simp] theorem mirror_stamps : cm.mirror.stamps c.other = cm.stamps c := by cases c <;> rfl

theorem mirror_store (base : Int64) (pic : Picture) :
    cm.mirror.store base pic c.other = (cm.store base pic c).mirror := by cases c <;> rfl

theorem mirror_take (rest : List Picture) :
    cm.mirror.take rest c.other = (cm.take rest c).mirror := by cases c <;> rfl

theorem mirror_setStamps (stamps : List Int64) :
    cm.mirror.setStamps c.other stamps = (cm.setStamps c stamps).mirror := by cases c <;> rfl

end Fields

theorem mirror_asyncCheck (cm : ClientMonitor) (syncReq : Bool) (diff : Int64) (c d : Cam)
    (pic other : Picture) : cm.mirror.asyncCheck syncReq diff c.other d.other pic other =
      (cm.asyncCheck syncReq diff c d pic other).map mirror := by
  have forced : cm.mirror.forceSync = cm.forceSync := rfl
  unfold asyncCheck
  rw [forced, mirror_stamps]
  split
  · rfl
  · cases removeConforming other.timeStamp (cm.stamps c ++ [pic.timeStamp]) with
    | error stop => rfl
    | ok kept =>
      have lengths : ((cm.setStamps c kept).mirror.syncStamps1.length ≥ delayedFramesTolerance ∨
          (cm.setStamps c kept).mirror.syncStamps2.length ≥ delayedFramesTolerance) =
          ((cm.setStamps c kept).syncStamps1.length ≥ delayedFramesTolerance ∨
            (cm.setStamps c kept).syncStamps2.length ≥ delayedFramesTolerance) :=
        propext or_comm
      dsimp only
      simp only [mirror_setStamps, lengths]
      split <;> rfl

theorem mirror_syncReqCheck (cm : ClientMonitor) (pic other : Picture) (c d : Cam) :
    cm.mirror.syncReqCheck pic other c.other d.other =
      (cm.syncReqCheck pic other c d).map mirror := by
  have synced : cm.mirror.synced = cm.synced := rfl
  have forced : cm.mirror.forceSync = cm.forceSync := rfl
  unfold syncReqCheck
  dsimp only
  rw [synced, mirror_asyncCheck]
  split
  · rfl
  · have cleared : cm.mirror.clearStamps.setSynced true = (cm.clearStamps.setSynced true).mirror := rfl
    simp only [syncCheck, forced]
    by_cases joins : (cm.forceSync ||
        decide ((pic.timeStamp - other.timeStamp).abs ≤ syncToleranceMillis)) = true
    · simp only [joins, if_true, cleared, mirror_setStamps, mirror_stamps]
      rfl
    · simp only [joins, Bool.false_eq_true, if_false]
      rfl

theorem mirror_putPicture (cm : ClientMonitor) (now : Int64) (pic : Picture) (c : Cam) :
    cm.mirror.putPicture now pic c.other.nbr = (cm.putPicture now pic c.nbr).map mirror := by
  have base : cm.mirror.baselineFor now pic c.other = cm.baselineFor now pic c := by
    simp only [baselineFor, mirror_baseline]
  have converted : cm.mirror.converted now pic c.other = cm.converted now pic c := by
    simp only [ClientMonitor.converted, base]
  rw [putPicture_nbr, putPicture_nbr, mirror_lastPic, base, converted]
  dsimp only
  rw [mirror_store, mirror_syncReqCheck]
  split <;> rfl

theorem mirror_getPicture (cm : ClientMonitor) (c : Cam) :
    cm.mirror.getPicture c.other.nbr =
      (cm.getPicture c.nbr).map fun got => (got.1, got.2.mirror) := by
  rw [getPicture_nbr, getPicture_nbr, mirror_available, mirror_buffer]
  split
  · rfl
  · cases cm.buffer c with
    | nil => rfl
    | cons pic rest =>
      dsimp only
      rw [mirror_take]
      rfl

theorem mirror_setMotionDetected (cm : ClientMonitor) (c : Cam) (detected : Bool) :
    cm.mirror.setMotionDetected c.other.nbr detected =
      (cm.setMotionDetected c.nbr detected).mirror := by
  have mode : cm.mirror.mode = cm.mode := rfl
  have differ : (2 : Int32) ≠ 1 := by decide
  unfold setMotionDetected
  cases c
  all_goals
    simp only [Cam.other, Cam.nbr, if_true, differ, if_false, mode]
    by_cases auto : cm.mode = MODE_AUTO
    · simp only [auto, if_true, mirror]
      rw [Bool.or_comm]
      split <;> rfl
    · simp only [auto, if_false]
      rfl

theorem mirror_step (cm : ClientMonitor) (call : Call) :
    cm.mirror.step call.mirror = (cm.step call).map fun r => (r.1.mirror, r.2.map Event.mirror) := by
  cases call with
  | putPicture now pic c =>
    simp only [step, Call.mirror, mirror_putPicture]
    cases cm.putPicture now pic c.nbr with
    | error stop => rfl
    | ok next => simp [Except.map, Event.mirror]
  | getPicture c =>
    simp only [step, Call.mirror, mirror_getPicture]
    cases cm.getPicture c.nbr with
    | error stop => rfl
    | ok got => rfl
  | setForcedSync sync => cases sync <;> rfl
  | setMode mode => cases mode <;> rfl
  | setMotionDetected c detected =>
    simp only [step, Call.mirror, mirror_setMotionDetected]
    rfl

end ClientMonitor

/-- A run with the cameras exchanged returns the same pictures and ends in the same state,
with the cameras exchanged. -/
theorem cameras_alike (calls : List Call) :
    (∀ c : Cam, c.other.nbr = 3 - c.nbr) ∧
    run ClientMonitor.step .fresh (calls.map Call.mirror) =
      (run ClientMonitor.step .fresh calls).map fun r => (r.1.mirror, r.2.map Event.mirror) := by
  refine ⟨Cam.nbr_other, ?_⟩
  rw [← ClientMonitor.mirror_fresh]
  exact run_map ClientMonitor.step ClientMonitor.step ClientMonitor.mirror Call.mirror Event.mirror
    ClientMonitor.mirror_step .fresh calls

end NetCam.Client
