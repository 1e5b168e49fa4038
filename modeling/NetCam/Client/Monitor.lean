import NetCam.Semantics.Trace

/-! `client.ClientMonitor`, the monitor shared by the receivers, the display threads,
the mode sender and the user input.

Java `int` and `long` are `Int32` and `Int64`, so arithmetic wraps as in the source.
Each synchronized method is one function on the monitor's fields. The clock read by
`setBaseLine` is an argument. A method that cannot go on stops with `Stop`; printing
and `notifyAll` have no effect on the fields, and guards are tested again after a wait.
Every picture is a new object (`PictureReciever.run`), so pictures are values here.
-/

set_option autoImplicit false

namespace NetCam.Client

inductive Cam where
  | one
  | two
  deriving DecidableEq, Repr

namespace Cam

def nbr : Cam → Int32
  | one => 1
  | two => 2

def other : Cam → Cam
  | one => two
  | two => one

@[simp] theorem other_other (c : Cam) : c.other.other = c := by cases c <;> rfl

@[simp] theorem other_ne (c : Cam) : c.other ≠ c := by cases c <;> decide

theorem eq_or_eq_other (c d : Cam) : d = c ∨ d = c.other := by cases c <;> cases d <;> simp [other]

end Cam

structure Picture where
  byteStream : List UInt8
  timeStamp : Int64
  deriving DecidableEq, Repr

def Picture.convertToJavaTime (pic : Picture) (baseline : Int64) : Picture :=
  { pic with timeStamp := pic.timeStamp + baseline }

/-- Why a method does not return: it waits for a notification, or it throws. -/
inductive Stop where
  | waits
  | nullPointer
  | noSuchElement
  deriving DecidableEq, Repr

def MODE_AUTO : Int32 := 0
def MODE_IDLE : Int32 := 1
def MODE_MOVIE : Int32 := 2

def delayedFramesTolerance : Nat := 10
def syncToleranceMillis : Int64 := 200

structure ClientMonitor where
  mode : Int32
  modeToSend : Int32
  modeChanged : Bool
  modeIsSetToAuto : Bool
  motionDetected1 : Bool
  motionDetected2 : Bool
  forceSync : Bool
  synced : Bool
  picBuffer1 : List Picture
  picBuffer2 : List Picture
  pic1Available : Bool
  pic2Available : Bool
  lastPic1 : Picture
  lastPic2 : Picture
  syncStamps1 : List Int64
  syncStamps2 : List Int64
  baseline1 : Int64
  baseline2 : Int64
  deriving DecidableEq, Repr

namespace ClientMonitor

def setMode (cm : ClientMonitor) (mode : Int32) : ClientMonitor :=
  if mode = MODE_AUTO then
    { cm with modeIsSetToAuto := true }
  else
    { cm with mode := mode, modeChanged := true, modeToSend := mode - 1 }

def setForcedSync (cm : ClientMonitor) (sync : Bool) : ClientMonitor :=
  if sync then { cm with forceSync := true } else cm

def setSynced (cm : ClientMonitor) (sync : Bool) : ClientMonitor :=
  { cm with synced := sync }

/-- The constructor, over the fields' initial values. `new Picture(null, 0)` is only
read for its time stamp. -/
def fresh : ClientMonitor :=
  let blank : ClientMonitor :=
    { mode := 0, modeToSend := 0, modeChanged := false, modeIsSetToAuto := false,
      motionDetected1 := false, motionDetected2 := false, forceSync := false, synced := false,
      picBuffer1 := [], picBuffer2 := [], pic1Available := false, pic2Available := false,
      lastPic1 := ⟨[], 0⟩, lastPic2 := ⟨[], 0⟩, syncStamps1 := [], syncStamps2 := [],
      baseline1 := 0, baseline2 := 0 }
  { (blank.setSynced false).setMode MODE_AUTO with modeIsSetToAuto := true, modeChanged := false }

def setBaseLine (cm : ClientMonitor) (now : Int64) (pic : Picture) (camNbr : Int32) : ClientMonitor :=
  if camNbr = 1 then { cm with baseline1 := now - pic.timeStamp }
  else if camNbr = 2 then { cm with baseline2 := now - pic.timeStamp }
  else cm

/-- The list a `LinkedList` argument refers to: the field of that camera. -/
def stamps (cm : ClientMonitor) : Cam → List Int64
  | .one => cm.syncStamps1
  | .two => cm.syncStamps2

def setStamps (cm : ClientMonitor) : Cam → List Int64 → ClientMonitor
  | .one, stamps => { cm with syncStamps1 := stamps }
  | .two, stamps => { cm with syncStamps2 := stamps }

def clearStamps (cm : ClientMonitor) : ClientMonitor :=
  { cm with syncStamps1 := [], syncStamps2 := [] }

/-- The while loop of `asyncCheck`. It has no emptiness test: on an empty list
`peekFirst` gives null, which is unboxed. -/
def removeConforming (other : Int64) : List Int64 → Except Stop (List Int64)
  | [] => .error .nullPointer
  | first :: rest =>
    if first - other ≤ syncToleranceMillis then removeConforming other rest
    else .ok (first :: rest)

def asyncCheck (cm : ClientMonitor) (syncReq : Bool) (diff : Int64) (syncStamps _otherSyncStamps : Cam)
    (pic otherLastPic : Picture) : Except Stop ClientMonitor :=
  if syncReq || diff < 0 || cm.forceSync then
    .ok cm.clearStamps
  else
    match removeConforming otherLastPic.timeStamp (cm.stamps syncStamps ++ [pic.timeStamp]) with
    | .error stop => .error stop
    | .ok kept =>
      let cm := cm.setStamps syncStamps kept
      if cm.syncStamps1.length ≥ delayedFramesTolerance ∨
          cm.syncStamps2.length ≥ delayedFramesTolerance then
        .ok (cm.clearStamps.setSynced false)
      else .ok cm

/-- True exactly when the monitor went synchronous; its argument list is not used. -/
def syncCheck (cm : ClientMonitor) (syncReq : Bool) (_syncStamps : Cam) : Bool × ClientMonitor :=
  if cm.forceSync || syncReq then (true, cm.clearStamps.setSynced true) else (false, cm)

def syncReqCheck (cm : ClientMonitor) (pic otherLastPic : Picture)
    (syncStamps otherSyncStamps : Cam) : Except Stop ClientMonitor :=
  let diff := pic.timeStamp - otherLastPic.timeStamp
  let syncReq : Bool := diff.abs ≤ syncToleranceMillis
  if cm.synced then
    cm.asyncCheck syncReq diff syncStamps otherSyncStamps pic otherLastPic
  else
    match cm.syncCheck syncReq syncStamps with
    | (true, cm) => .ok (cm.setStamps syncStamps (cm.stamps syncStamps ++ [pic.timeStamp]))
    | (false, cm) => .ok cm

def syncReqCheckCam1Add (cm : ClientMonitor) (pic : Picture) : Except Stop ClientMonitor :=
  cm.syncReqCheck pic cm.lastPic2 .one .two

def syncReqCheckCam2Add (cm : ClientMonitor) (pic : Picture) : Except Stop ClientMonitor :=
  cm.syncReqCheck pic cm.lastPic1 .two .one

def putPicture (cm : ClientMonitor) (now : Int64) (pic : Picture) (camNumber : Int32) :
    Except Stop ClientMonitor :=
  let cm :=
    if cm.baseline1 = 0 ∧ camNumber = 1 then cm.setBaseLine now pic 1
    else if cm.baseline2 = 0 ∧ camNumber = 2 then cm.setBaseLine now pic 2
    else cm
  let pic := pic.convertToJavaTime (if camNumber = 1 then cm.baseline1 else cm.baseline2)
  if camNumber = 1 then
    let cm := { cm with picBuffer1 := cm.picBuffer1 ++ [pic], lastPic1 := pic, pic1Available := true }
    if cm.lastPic2.timeStamp ≠ 0 then cm.syncReqCheckCam1Add pic else .ok cm
  else
    let cm := { cm with picBuffer2 := cm.picBuffer2 ++ [pic], lastPic2 := pic, pic2Available := true }
    if cm.lastPic1.timeStamp ≠ 0 then cm.syncReqCheckCam2Add pic else .ok cm

/-- `LinkedList.remove` throws on an empty list, after the flag has been lowered. -/
def getPicture (cm : ClientMonitor) (camNumber : Int32) : Except Stop (Picture × ClientMonitor) :=
  if camNumber = 1 then
    if !cm.pic1Available then .error .waits
    else match cm.picBuffer1 with
      | [] => .error .noSuchElement
      | pic :: rest => .ok (pic, { cm with pic1Available := false, picBuffer1 := rest })
  else
    if !cm.pic2Available then .error .waits
    else match cm.picBuffer2 with
      | [] => .error .noSuchElement
      | pic :: rest => .ok (pic, { cm with pic2Available := false, picBuffer2 := rest })

def getSyncMode (cm : ClientMonitor) : Bool := cm.synced

def setMotionDetected (cm : ClientMonitor) (camNbr : Int32) (detected : Bool) : ClientMonitor :=
  let cm :=
    if camNbr = 1 then { cm with motionDetected1 := detected }
    else { cm with motionDetected2 := detected }
  if cm.mode = MODE_AUTO then
    if cm.motionDetected1 || cm.motionDetected2 then { cm with modeToSend := 1 }
    else { cm with modeToSend := 0 }
  else cm

def getNewMode (cm : ClientMonitor) (currentMode : Int32) : Except Stop Int32 :=
  if currentMode = cm.modeToSend then .error .waits else .ok cm.modeToSend

def getMode (cm : ClientMonitor) : Int32 := cm.mode

end ClientMonitor

end NetCam.Client
