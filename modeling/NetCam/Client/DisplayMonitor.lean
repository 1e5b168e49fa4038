import NetCam.Client.Monitor

/-! `client.DisplayMonitor`, which decides when a picture reaches its panel.

`updatePicture1` and `updatePicture2` are one function with the camera as an argument.
It is cut in two at the `wait` of `syncDelayThread`, where the monitor is released.
`setSynced` and `setMode` are not synchronized. Every clock reading is an argument.
-/

set_option autoImplicit false

namespace NetCam.Client

structure DisplayMonitor where
  pic1 : Option Picture
  pic2 : Option Picture
  showedTime : Int64
  lastTimeStamp : Int64
  timeDiff : Int64
  currentAverageDelay : Int64
  isSynced : Bool
  rollingTimestampAverage1 : List Int64
  rollingTimestampAverage2 : List Int64
  mode : Int32
  timeOfStart : Int64
  deriving DecidableEq, Repr

structure Readings where
  entered : Int64
  showed : Int64
  sampled : Int64
  started : Int64
  checked : Int64
  deriving DecidableEq, Repr

namespace DisplayMonitor

def fresh : DisplayMonitor :=
  { pic1 := none, pic2 := none, showedTime := 0, lastTimeStamp := 0, timeDiff := 0,
    currentAverageDelay := 0, isSynced := false, rollingTimestampAverage1 := [],
    rollingTimestampAverage2 := [], mode := 0, timeOfStart := -1 }

def pic (dm : DisplayMonitor) : Cam → Option Picture
  | .one => dm.pic1
  | .two => dm.pic2

def setPic (dm : DisplayMonitor) (pic : Picture) : Cam → DisplayMonitor
  | .one => { dm with pic1 := some pic }
  | .two => { dm with pic2 := some pic }

def rollingTimestampAverage (dm : DisplayMonitor) : Cam → List Int64
  | .one => dm.rollingTimestampAverage1
  | .two => dm.rollingTimestampAverage2

def setRollingTimestampAverage (dm : DisplayMonitor) (rolling : List Int64) : Cam → DisplayMonitor
  | .one => { dm with rollingTimestampAverage1 := rolling }
  | .two => { dm with rollingTimestampAverage2 := rolling }

def setSynced (dm : DisplayMonitor) (syncMode : Bool) : DisplayMonitor :=
  { dm with isSynced := syncMode }

def setMode (dm : DisplayMonitor) (mode : Int32) : DisplayMonitor := { dm with mode := mode }

/-- The timeout of the wait that is entered. A negative one makes `wait` throw, which is
caught and ignored; zero waits until a notification, and nothing notifies. -/
def syncDelayThread (dm : DisplayMonitor) (now : Int64) (pic : Picture) :
    Option Int64 × DisplayMonitor :=
  if dm.isSynced && dm.showedTime ≠ 0 then
    let dm := { dm with timeDiff := pic.timeStamp - dm.lastTimeStamp }
    let timeout := now - (dm.showedTime + dm.timeDiff)
    (if timeout < 0 then none else some timeout, dm)
  else (none, dm)

/-- The label to show, the list as it is left, and the monitor. A sample has just been
added to the list. -/
def checkDelay (dm : DisplayMonitor) (started checked : Int64) (rolling : List Int64)
    (added : rolling ≠ []) : Int64 × List Int64 × DisplayMonitor :=
  let dm := if dm.timeOfStart = -1 then { dm with timeOfStart := started } else dm
  let trim (rolling : List Int64) := if rolling.length ≥ 180 then rolling.tail else rolling
  if dm.mode = MODE_IDLE then (rolling.getLast added, trim [], dm)
  else
    let dm :=
      if checked - dm.timeOfStart ≥ 2000 then
        { dm with
          currentAverageDelay := rolling.foldl (fun sum l => sum + l / Int64.ofNat rolling.length) 0
          timeOfStart := -1 }
      else dm
    (dm.currentAverageDelay, trim rolling, dm)

def enterUpdate (dm : DisplayMonitor) (c : Cam) (clock : Readings) (pic : Picture) :
    Option Int64 × DisplayMonitor :=
  (dm.setPic pic c).syncDelayThread clock.entered pic

def finishUpdate (dm : DisplayMonitor) (c : Cam) (clock : Readings) (pic : Picture) :
    Option Picture × Int64 × DisplayMonitor :=
  let image := dm.pic c
  let dm := { dm with showedTime := clock.showed, lastTimeStamp := pic.timeStamp }
  let rolling := dm.rollingTimestampAverage c ++ [clock.sampled - pic.timeStamp]
  let (label, rolling, dm) :=
    dm.checkDelay clock.started clock.checked rolling (by simp [rolling])
  (image, label, dm.setRollingTimestampAverage rolling c)

theorem enterUpdate_pic (dm : DisplayMonitor) (c : Cam) (clock : Readings) (pic : Picture) (d : Cam) :
    (dm.enterUpdate c clock pic).2.pic d = if d = c then some pic else dm.pic d := by
  unfold enterUpdate syncDelayThread
  split <;> cases c <;> cases d <;> rfl

theorem finishUpdate_pic (dm : DisplayMonitor) (c : Cam) (clock : Readings) (pic : Picture) :
    (dm.finishUpdate c clock pic).2.2.pic = dm.pic := by
  funext d
  unfold finishUpdate checkDelay
  dsimp only
  repeat' split
  all_goals cases c <;> cases d <;> rfl

theorem enterUpdate_keeps (dm : DisplayMonitor) (c : Cam) (clock : Readings) (pic : Picture) :
    let next := (dm.enterUpdate c clock pic).2
    next.isSynced = dm.isSynced ∧ next.showedTime = dm.showedTime ∧
      next.lastTimeStamp = dm.lastTimeStamp := by
  unfold enterUpdate syncDelayThread
  split <;> cases c <;> exact ⟨rfl, rfl, rfl⟩

theorem enterUpdate_timeout {dm : DisplayMonitor} (synced : dm.isSynced = true) (c : Cam)
    (clock : Readings) (pic : Picture) : (dm.enterUpdate c clock pic).1 =
      let timeout := clock.entered - (dm.showedTime + (pic.timeStamp - dm.lastTimeStamp))
      if dm.showedTime = 0 ∨ timeout < 0 then none else some timeout := by
  unfold enterUpdate syncDelayThread
  have fields : (dm.setPic pic c).isSynced = dm.isSynced ∧ (dm.setPic pic c).showedTime = dm.showedTime ∧
      (dm.setPic pic c).lastTimeStamp = dm.lastTimeStamp := by cases c <;> exact ⟨rfl, rfl, rfl⟩
  rw [fields.1, fields.2.1, fields.2.2, synced]
  by_cases never : dm.showedTime = 0
  · simp [never]
  · simp [never]

theorem finishUpdate_fields (dm : DisplayMonitor) (c : Cam) (clock : Readings) (pic : Picture) :
    let next := (dm.finishUpdate c clock pic).2.2
    next.isSynced = dm.isSynced ∧ next.showedTime = clock.showed ∧
      next.lastTimeStamp = pic.timeStamp := by
  unfold finishUpdate checkDelay
  dsimp only
  repeat' split
  all_goals cases c <;> exact ⟨rfl, rfl, rfl⟩

end DisplayMonitor

end NetCam.Client
