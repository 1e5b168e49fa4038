import Mathlib.Logic.Function.Basic
import NetCam.Client.Monitor

/-! Runs of calls on one `ClientMonitor`, and its fields read by camera.

The source writes every operation twice, once for each camera. The lemmas here restate
the operations with the camera as an index, so that later proofs treat both at once.
-/

set_option autoImplicit false

namespace NetCam.Client

open Semantics

/-- The mode constants as the user input passes them. -/
inductive UserMode where
  | auto
  | idle
  | movie
  deriving DecidableEq, Repr

def UserMode.code : UserMode → Int32
  | auto => MODE_AUTO
  | idle => MODE_IDLE
  | movie => MODE_MOVIE

inductive Call where
  | putPicture (now : Int64) (pic : Picture) (c : Cam)
  | getPicture (c : Cam)
  | setForcedSync (sync : Bool)
  | setMode (mode : UserMode)
  | setMotionDetected (c : Cam) (detected : Bool)
  deriving DecidableEq, Repr

inductive Event where
  | put (c : Cam) (pic : Picture)
  | got (c : Cam) (pic : Picture)
  deriving DecidableEq, Repr

namespace ClientMonitor

def buffer (cm : ClientMonitor) : Cam → List Picture
  | .one => cm.picBuffer1
  | .two => cm.picBuffer2

def available (cm : ClientMonitor) : Cam → Bool
  | .one => cm.pic1Available
  | .two => cm.pic2Available

def lastPic (cm : ClientMonitor) : Cam → Picture
  | .one => cm.lastPic1
  | .two => cm.lastPic2

def baseline (cm : ClientMonitor) : Cam → Int64
  | .one => cm.baseline1
  | .two => cm.baseline2

def motionDetected (cm : ClientMonitor) : Cam → Bool
  | .one => cm.motionDetected1
  | .two => cm.motionDetected2

def step : Step ClientMonitor Call Event
  | cm, .putPicture now pic c =>
    match cm.putPicture now pic c.nbr with
    | .ok next => some (next, [.put c (next.lastPic c)])
    | .error _ => none
  | cm, .getPicture c =>
    match cm.getPicture c.nbr with
    | .ok (pic, next) => some (next, [.got c pic])
    | .error _ => none
  | cm, .setForcedSync sync => some (cm.setForcedSync sync, [])
  | cm, .setMode mode => some (cm.setMode mode.code, [])
  | cm, .setMotionDetected c detected => some (cm.setMotionDetected c.nbr detected, [])

/-- The baseline in force once the picture has been looked at. -/
def baselineFor (cm : ClientMonitor) (now : Int64) (pic : Picture) (c : Cam) : Int64 :=
  if cm.baseline c = 0 then now - pic.timeStamp else cm.baseline c

def converted (cm : ClientMonitor) (now : Int64) (pic : Picture) (c : Cam) : Picture :=
  pic.convertToJavaTime (cm.baselineFor now pic c)

def store (cm : ClientMonitor) (baseline : Int64) (pic : Picture) : Cam → ClientMonitor
  | .one => { cm with
      baseline1 := baseline
      picBuffer1 := cm.picBuffer1 ++ [pic]
      lastPic1 := pic
      pic1Available := true }
  | .two => { cm with
      baseline2 := baseline
      picBuffer2 := cm.picBuffer2 ++ [pic]
      lastPic2 := pic
      pic2Available := true }

theorem putPicture_nbr (cm : ClientMonitor) (now : Int64) (pic : Picture) (c : Cam) :
    cm.putPicture now pic c.nbr =
      let stored := cm.store (cm.baselineFor now pic c) (cm.converted now pic c) c
      if (cm.lastPic c.other).timeStamp ≠ 0 then
        stored.syncReqCheck (cm.converted now pic c) (cm.lastPic c.other) c c.other
      else .ok stored := by
  cases c with
  | one =>
    by_cases unset : cm.baseline1 = 0 <;>
      simp [putPicture, setBaseLine, syncReqCheckCam1Add, Cam.nbr, Cam.other, store, converted,
        baselineFor, baseline, lastPic, unset]
  | two =>
    have differ : (2 : Int32) ≠ 1 := by decide
    by_cases unset : cm.baseline2 = 0 <;>
      simp [putPicture, setBaseLine, syncReqCheckCam2Add, Cam.nbr, Cam.other, store, converted,
        baselineFor, baseline, lastPic, unset, differ]

def take (cm : ClientMonitor) (rest : List Picture) : Cam → ClientMonitor
  | .one => { cm with pic1Available := false, picBuffer1 := rest }
  | .two => { cm with pic2Available := false, picBuffer2 := rest }

theorem getPicture_nbr (cm : ClientMonitor) (c : Cam) :
    cm.getPicture c.nbr =
      if !cm.available c then .error .waits
      else match cm.buffer c with
        | [] => .error .noSuchElement
        | pic :: rest => .ok (pic, cm.take rest c) := by
  cases c with
  | one => cases found : cm.picBuffer1 <;> simp [getPicture, Cam.nbr, available, buffer, take, found]
  | two => cases found : cm.picBuffer2 <;> simp [getPicture, Cam.nbr, available, buffer, take, found]

theorem getPicture_waits_iff (cm : ClientMonitor) (c : Cam) :
    cm.getPicture c.nbr = .error .waits ↔ cm.available c = false := by
  rw [getPicture_nbr]
  cases cm.available c <;> cases cm.buffer c <;> simp

theorem getPicture_ok_iff {cm next : ClientMonitor} {c : Cam} {pic : Picture} :
    cm.getPicture c.nbr = .ok (pic, next) ↔
      cm.available c = true ∧ ∃ rest, cm.buffer c = pic :: rest ∧ next = cm.take rest c := by
  rw [getPicture_nbr]
  cases cm.available c <;> cases cm.buffer c <;> simp [and_assoc, eq_comm]

def SameButSync (cm next : ClientMonitor) : Prop :=
  next = { cm with
    synced := next.synced, syncStamps1 := next.syncStamps1, syncStamps2 := next.syncStamps2 }

section
variable {cm next : ClientMonitor} (same : SameButSync cm next)
include same

theorem SameButSync.buffer : next.buffer = cm.buffer := by rw [same]; rfl

theorem SameButSync.available : next.available = cm.available := by rw [same]; rfl

theorem SameButSync.lastPic : next.lastPic = cm.lastPic := by rw [same]; rfl

theorem SameButSync.baseline : next.baseline = cm.baseline := by rw [same]; rfl

theorem SameButSync.forceSync : next.forceSync = cm.forceSync := by rw [same]

theorem SameButSync.mode : next.mode = cm.mode := by rw [same]

theorem SameButSync.modeToSend : next.modeToSend = cm.modeToSend := by rw [same]

theorem SameButSync.motionDetected : next.motionDetected = cm.motionDetected := by rw [same]; rfl

end

section
variable (cm : ClientMonitor) (base : Int64) (pic : Picture) (rest : List Picture) (c : Cam)

theorem store_buffer : (cm.store base pic c).buffer =
    Function.update cm.buffer c (cm.buffer c ++ [pic]) := by
  funext d
  cases c <;> cases d <;> rfl

theorem store_available : (cm.store base pic c).available =
    Function.update cm.available c true := by
  funext d
  cases c <;> cases d <;> rfl

theorem store_lastPic : (cm.store base pic c).lastPic = Function.update cm.lastPic c pic := by
  funext d
  cases c <;> cases d <;> rfl

theorem store_baseline : (cm.store base pic c).baseline = Function.update cm.baseline c base := by
  funext d
  cases c <;> cases d <;> rfl

theorem store_stamps : (cm.store base pic c).stamps = cm.stamps := by
  funext d
  cases c <;> cases d <;> rfl

@[simp] theorem store_synced : (cm.store base pic c).synced = cm.synced := by cases c <;> rfl

@[simp] theorem store_mode : (cm.store base pic c).mode = cm.mode := by cases c <;> rfl

@[simp] theorem store_modeToSend : (cm.store base pic c).modeToSend = cm.modeToSend := by
  cases c <;> rfl

@[simp] theorem store_motionDetected :
    (cm.store base pic c).motionDetected = cm.motionDetected := by
  funext d
  cases c <;> cases d <;> rfl

@[simp] theorem store_forceSync : (cm.store base pic c).forceSync = cm.forceSync := by
  cases c <;> rfl

theorem take_buffer : (cm.take rest c).buffer = Function.update cm.buffer c rest := by
  funext d
  cases c <;> cases d <;> rfl

theorem take_available : (cm.take rest c).available = Function.update cm.available c false := by
  funext d
  cases c <;> cases d <;> rfl

theorem setStamps_stamps (stamps : List Int64) :
    (cm.setStamps c stamps).stamps = Function.update cm.stamps c stamps := by
  funext d
  cases c <;> cases d <;> rfl

@[simp] theorem setStamps_synced (stamps : List Int64) :
    (cm.setStamps c stamps).synced = cm.synced := by cases c <;> rfl

@[simp] theorem setStamps_forceSync (stamps : List Int64) :
    (cm.setStamps c stamps).forceSync = cm.forceSync := by cases c <;> rfl

end

theorem sameButSync_setStamps (cm : ClientMonitor) (c : Cam) (stamps : List Int64) :
    SameButSync cm (cm.setStamps c stamps) := by
  cases c <;> rfl

theorem SameButSync.trans {first second third : ClientMonitor} (left : SameButSync first second)
    (right : SameButSync second third) : SameButSync first third := by
  unfold SameButSync at *
  rw [right, left]

theorem sameButSync_syncReqCheck {cm next : ClientMonitor} {pic other : Picture} {c d : Cam}
    (checked : cm.syncReqCheck pic other c d = .ok next) : SameButSync cm next := by
  simp only [syncReqCheck, asyncCheck, syncCheck] at checked
  split at checked
  · split at checked
    · cases checked; rfl
    · split at checked
      · cases checked
      · split at checked <;> cases checked
        · exact (sameButSync_setStamps cm c _).trans rfl
        · exact sameButSync_setStamps cm c _
  · split at checked
    · next acquired =>
      cases checked
      split at acquired <;> cases acquired
      have cleared : SameButSync cm (cm.clearStamps.setSynced true) := rfl
      exact cleared.trans (sameButSync_setStamps _ c _)
    · next kept =>
      cases checked
      split at kept <;> cases kept
      rfl

/-- Where a completed `putPicture` leaves everything that is not sync bookkeeping. -/
theorem putPicture_stores {cm next : ClientMonitor} {now : Int64} {pic : Picture} {c : Cam}
    (done : cm.putPicture now pic c.nbr = .ok next) :
    SameButSync (cm.store (cm.baselineFor now pic c) (cm.converted now pic c) c) next := by
  rw [putPicture_nbr] at done
  dsimp only at done
  split at done
  · exact sameButSync_syncReqCheck done
  · cases done; rfl

theorem lastPic_putPicture {cm next : ClientMonitor} {now : Int64} {pic : Picture} {c : Cam}
    (done : cm.putPicture now pic c.nbr = .ok next) : next.lastPic c = cm.converted now pic c := by
  rw [(putPicture_stores done).lastPic, store_lastPic, Function.update_self]

theorem put_buffer {cm next : ClientMonitor} {now : Int64} {pic : Picture} {c : Cam}
    (done : cm.putPicture now pic c.nbr = .ok next) :
    next.buffer = Function.update cm.buffer c (cm.buffer c ++ [cm.converted now pic c]) ∧
      next.available = Function.update cm.available c true := by
  have stored := putPicture_stores done
  exact ⟨stored.buffer.trans (store_buffer ..), stored.available.trans (store_available ..)⟩

section Inversion
variable {cm next : ClientMonitor} {es : List Event} {c : Cam}

theorem step_putPicture {now : Int64} {pic : Picture}
    (taken : cm.step (.putPicture now pic c) = some (next, es)) :
    cm.putPicture now pic c.nbr = .ok next ∧ es = [.put c (cm.converted now pic c)] := by
  simp only [step] at taken
  split at taken
  · next done =>
    cases taken
    rw [lastPic_putPicture done]
    exact ⟨done, rfl⟩
  · cases taken

theorem step_getPicture (taken : cm.step (.getPicture c) = some (next, es)) :
    ∃ pic rest, cm.available c = true ∧ cm.buffer c = pic :: rest ∧
      next = cm.take rest c ∧ es = [.got c pic] := by
  simp only [step] at taken
  split at taken
  · next pic reached got =>
    cases taken
    obtain ⟨up, rest, held, rfl⟩ := getPicture_ok_iff.mp got
    exact ⟨pic, rest, up, held, rfl, rfl⟩
  · cases taken

theorem step_keeps_queues {call : Call} (taken : cm.step call = some (next, es))
    (put : ∀ now pic c, call ≠ .putPicture now pic c) (get : ∀ c, call ≠ .getPicture c) :
    es = [] ∧ next.buffer = cm.buffer ∧ next.available = cm.available := by
  cases call with
  | putPicture now pic c => exact absurd rfl (put now pic c)
  | getPicture c => exact absurd rfl (get c)
  | setForcedSync sync =>
    cases taken
    cases sync <;> exact ⟨rfl, rfl, rfl⟩
  | setMode mode =>
    cases taken
    cases mode <;> exact ⟨rfl, rfl, rfl⟩
  | setMotionDetected c detected =>
    cases taken
    refine ⟨rfl, ?_, ?_⟩
    all_goals
      funext d
      simp only [setMotionDetected]
      repeat' split
      all_goals rfl

theorem step_keeps_pictures {call : Call} (taken : cm.step call = some (next, es))
    (put : ∀ now pic c, call ≠ .putPicture now pic c) :
    next.baseline = cm.baseline ∧ next.lastPic = cm.lastPic := by
  cases call with
  | putPicture now pic c => exact absurd rfl (put now pic c)
  | getPicture c =>
    obtain ⟨pic, rest, _, _, rfl, _⟩ := step_getPicture taken
    refine ⟨?_, ?_⟩
    all_goals
      funext d
      cases c <;> cases d <;> rfl
  | setForcedSync sync =>
    cases taken
    cases sync <;> exact ⟨rfl, rfl⟩
  | setMode mode =>
    cases taken
    cases mode <;> exact ⟨rfl, rfl⟩
  | setMotionDetected c detected =>
    cases taken
    refine ⟨?_, ?_⟩
    all_goals
      funext d
      simp only [setMotionDetected]
      repeat' split
      all_goals rfl

end Inversion

/-- The stamp just appended is beyond tolerance, so the loop that removes conforming
stamps never empties the list, whatever wraps. -/
theorem removeConforming_ne_error {o t : Int64} (far : ¬ t - o ≤ syncToleranceMillis)
    (stamps : List Int64) : ∃ kept, removeConforming o (stamps ++ [t]) = .ok kept := by
  induction stamps with
  | nil => exact ⟨[t], by simp [removeConforming, far]⟩
  | cons first rest ih =>
    simp only [List.cons_append, removeConforming]
    split
    · exact ih
    · exact ⟨_, rfl⟩

theorem abs_of_nonneg {x : Int64} (nonneg : ¬ x < 0) : x.abs = x := by
  have sign : x.toBitVec.msb = false := by
    rw [BitVec.msb_eq_toInt, decide_eq_false_iff_not]
    intro negative
    exact nonneg (Int64.lt_iff_toInt_lt.mpr negative)
  have bits : x.abs.toBitVec = x.toBitVec := by
    change x.toBitVec.abs = x.toBitVec
    rw [BitVec.abs_eq, sign]
    rfl
  exact Int64.toBitVec.inj bits

theorem asyncCheck_ok (cm : ClientMonitor) (pic other : Picture) (c d : Cam) :
    ∃ next, cm.asyncCheck ((pic.timeStamp - other.timeStamp).abs ≤ syncToleranceMillis)
      (pic.timeStamp - other.timeStamp) c d pic other = .ok next := by
  simp only [asyncCheck]
  split
  · exact ⟨_, rfl⟩
  · next apart =>
    simp only [Bool.or_eq_true, decide_eq_true_eq, not_or] at apart
    -- the picture is ahead by more than the tolerance, so it is not removed itself
    obtain ⟨⟨far, nonneg⟩, _⟩ := apart
    rw [abs_of_nonneg nonneg] at far
    obtain ⟨kept, removed⟩ := removeConforming_ne_error far (cm.stamps c)
    rw [removed]
    dsimp only
    split
    · exact ⟨_, rfl⟩
    · exact ⟨_, rfl⟩

theorem putPicture_ok (cm : ClientMonitor) (now : Int64) (pic : Picture) (c : Cam) :
    ∃ next, cm.putPicture now pic c.nbr = .ok next := by
  rw [putPicture_nbr]
  dsimp only
  split
  · simp only [syncReqCheck]
    split
    · exact asyncCheck_ok _ _ _ _ _
    · split
      · exact ⟨_, rfl⟩
      · exact ⟨_, rfl⟩
  · exact ⟨_, rfl⟩

theorem setMotionDetected_mode (cm : ClientMonitor) (c : Cam) (detected : Bool) :
    (cm.setMotionDetected c.nbr detected).mode = cm.mode := by
  simp only [setMotionDetected]
  repeat' split
  all_goals rfl

theorem setMotionDetected_forceSync (cm : ClientMonitor) (c : Cam) (detected : Bool) :
    (cm.setMotionDetected c.nbr detected).forceSync = cm.forceSync := by
  simp only [setMotionDetected]
  repeat' split
  all_goals rfl

theorem setMode_forceSync (cm : ClientMonitor) (mode : Int32) :
    (cm.setMode mode).forceSync = cm.forceSync := by
  unfold setMode
  split <;> rfl

theorem setForcedSync_forceSync (cm : ClientMonitor) (sync : Bool) :
    (cm.setForcedSync sync).forceSync = (cm.forceSync || sync) := by
  cases sync <;> simp [setForcedSync]

theorem step_forceSync {cm next : ClientMonitor} {call : Call} {es : List Event}
    (taken : cm.step call = some (next, es)) (unforced : ∀ sync, call ≠ .setForcedSync sync) :
    next.forceSync = cm.forceSync := by
  cases call with
  | putPicture now pic c =>
    have stored := putPicture_stores (step_putPicture taken).1
    exact stored.forceSync.trans (store_forceSync ..)
  | getPicture c =>
    obtain ⟨pic, rest, _, _, rfl, _⟩ := step_getPicture taken
    cases c <;> rfl
  | setForcedSync sync => exact absurd rfl (unforced sync)
  | setMode mode =>
    cases taken
    exact setMode_forceSync ..
  | setMotionDetected c detected =>
    cases taken
    exact setMotionDetected_forceSync ..

theorem setMotionDetected_motionDetected (cm : ClientMonitor) (c : Cam) (detected : Bool) :
    (cm.setMotionDetected c.nbr detected).motionDetected =
      Function.update cm.motionDetected c detected := by
  have differ : (2 : Int32) ≠ 1 := by decide
  funext d
  simp only [setMotionDetected]
  cases c <;> cases d <;> simp only [Cam.nbr, if_pos, differ, if_false]
  all_goals repeat' split
  all_goals rfl

theorem setMotionDetected_modeToSend (cm : ClientMonitor) (c : Cam) (detected : Bool) :
    (cm.setMotionDetected c.nbr detected).modeToSend =
      if cm.mode = MODE_AUTO then
        if (cm.setMotionDetected c.nbr detected).motionDetected .one ||
          (cm.setMotionDetected c.nbr detected).motionDetected .two then 1 else 0
      else cm.modeToSend := by
  have differ : (2 : Int32) ≠ 1 := by decide
  rw [setMotionDetected_motionDetected]
  simp only [setMotionDetected]
  cases c <;> simp only [Cam.nbr, if_pos, differ, if_false]
  all_goals
    by_cases auto : cm.mode = MODE_AUTO
    · simp only [auto, if_true, motionDetected, Function.update_apply]
      split <;> simp_all
    · simp only [auto, if_false]

end ClientMonitor

end NetCam.Client
