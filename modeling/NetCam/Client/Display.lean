import NetCam.Client.Calls
import NetCam.Client.DisplayMonitor

/-! The two `client.Display` threads between `ClientMonitor` and `DisplayMonitor`.

The receivers and the other threads of the client appear as calls on the `ClientMonitor`
at any time. A `Display` thread is where its next statement is; an action of it is one
synchronized call, or one part of an update.
-/

set_option autoImplicit false

namespace NetCam.Client

open Semantics

inductive Position where
  | getSyncMode
  | setSynced (syncMode : Bool)
  | getMode
  | setMode (mode : Int32)
  | getPicture
  /-- outside `updatePicture`, about to enter it -/
  | update (pic : Picture)
  /-- in the `wait` of `syncDelayThread`, not holding the display monitor -/
  | waiting (pic : Picture) (timeout : Int64)
  /-- behind `syncDelayThread`, holding the display monitor -/
  | showing (pic : Picture)
  deriving DecidableEq, Repr

structure Displays where
  clientMonitor : ClientMonitor
  displayMonitor : DisplayMonitor
  /-- the thread inside a synchronized method of the display monitor -/
  owner : Option Cam
  position : Cam → Position

inductive DisplayAction where
  | call (call : Call)
  | display (c : Cam) (clock : Readings)
  deriving DecidableEq, Repr

inductive DisplayEvent where
  | monitor (event : Event)
  | updateImage (c : Cam) (image : Option Picture)
  | setDelayLabel (c : Cam) (label : Int64)
  deriving DecidableEq, Repr

namespace Displays

def fresh : Displays :=
  { clientMonitor := .fresh, displayMonitor := .fresh, owner := none,
    position := fun _ => .getSyncMode }

def goto (s : Displays) (c : Cam) (position : Position) : Displays :=
  { s with position := Function.update s.position c position }

def display (s : Displays) (c : Cam) (clock : Readings) : Option (Displays × List DisplayEvent) :=
  match s.position c with
  | .getSyncMode => some (s.goto c (.setSynced s.clientMonitor.getSyncMode), [])
  | .setSynced syncMode =>
    some ({ s with displayMonitor := s.displayMonitor.setSynced syncMode }.goto c .getMode, [])
  | .getMode => some (s.goto c (.setMode s.clientMonitor.getMode), [])
  | .setMode mode =>
    some ({ s with displayMonitor := s.displayMonitor.setMode mode }.goto c .getPicture, [])
  | .getPicture =>
    match s.clientMonitor.getPicture c.nbr with
    | .ok (pic, monitor) =>
      some ({ s with clientMonitor := monitor }.goto c (.update pic), [.monitor (.got c pic)])
    | .error _ => none
  | .update pic =>
    if s.owner = none then
      match s.displayMonitor.enterUpdate c clock pic with
      | (some timeout, monitor) =>
        some ({ s with displayMonitor := monitor }.goto c (.waiting pic timeout), [])
      | (none, monitor) =>
        some ({ s with displayMonitor := monitor, owner := some c }.goto c (.showing pic), [])
    else none
  | .waiting pic _ =>
    if s.owner = none then some ({ s with owner := some c }.goto c (.showing pic), [])
    else none
  | .showing pic =>
    let (image, label, monitor) := s.displayMonitor.finishUpdate c clock pic
    some ({ s with displayMonitor := monitor, owner := none }.goto c .getSyncMode,
      [.updateImage c image, .setDelayLabel c label])

/-- Only the `Display` threads take pictures out of the `ClientMonitor`. -/
def step : Step Displays DisplayAction DisplayEvent
  | _, .call (.getPicture _) => none
  | s, .call call =>
    match s.clientMonitor.step call with
    | some (monitor, es) => some ({ s with clientMonitor := monitor }, es.map .monitor)
    | none => none
  | s, .display c clock => s.display c clock

end Displays

end NetCam.Client
