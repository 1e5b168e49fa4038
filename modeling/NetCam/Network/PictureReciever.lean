import Mathlib.Logic.Function.Basic
import NetCam.Client.Monitor
import NetCam.Network.InputStream
import NetCam.Network.NetMonitor
import NetCam.Network.PicturePack

/-! `networking.PictureReciever`, which cuts the byte stream back into pictures.

The two read loops differ in where the next read stores: the header loop passes the
last count as the offset, the payload loop adds the counts up.
-/

set_option autoImplicit false

namespace NetCam.Network

open Semantics

def MAXIMUM_PICTURE_SIZE : Nat := 50000

namespace PictureReciever

abbrev Buffer := Memory MAXIMUM_PICTURE_SIZE

def headerLoop : Nat → Buffer → Nat → Nat → EStateM Failure InputStream (Nat × Buffer) :=
  readLoop fun _ n => n

def payloadLoop : Nat → Buffer → Nat → Nat → EStateM Failure InputStream (Nat × Buffer) :=
  readLoop fun currentPosition n => currentPosition + n

/-- One turn of the inner loop: the picture put in the monitor, none when it breaks.
Every read that goes on takes at least one byte, so one turn more than bytes is enough. -/
def receive : EStateM Failure InputStream (Option Client.Picture) := do
  let buffer := Memory.filled MAXIMUM_PICTURE_SIZE 65
  -- Read header
  let (size, buffer) ← headerLoop (HEAD_SIZE + 1) buffer 0 HEAD_SIZE
  if size ≠ 0 then return none
  match PicturePack.getTimeStamp buffer, PicturePack.getPictureSize buffer with
  | some ts, some pictureSize =>
    -- Read image data
    let pictureSize := pictureSize.toNatClampNeg
    let (size, buffer) ← payloadLoop (pictureSize + 1) buffer HEAD_SIZE pictureSize
    if size ≠ 0 then return none
    match buffer.load HEAD_SIZE pictureSize with
    | some imageData => return some ⟨imageData, ts⟩
    | none => throw .indexOutOfBounds
  | _, _ => throw .indexOutOfBounds

def receiveAll : Nat → InputStream → List Client.Picture × EStateM.Result Failure InputStream Unit
  | 0, is => ([], .error .unfinished is)
  | turns + 1, is =>
    match receive is with
    | .ok none is => ([], .ok () is)
    | .ok (some pic) is => (pic :: (receiveAll turns is).1, (receiveAll turns is).2)
    | .error failure is => ([], .error failure is)

/-- A monitor and the streams of the sockets it has been given. -/
structure Link where
  netMonitor : NetMonitor Nat
  streams : Nat → InputStream

def Link.connected (is : InputStream) : Link :=
  { netMonitor := { socket := some 0, isActive := true, shutdown := false }, streams := fun _ => is }

/-- At most so many turns of the outer loop: the pictures put and the link left behind.
The thread goes no further when it has exited or waits for a connection. -/
def run : Nat → Link → List Client.Picture × Link
  | 0, link => ([], link)
  | turns + 1, link =>
    if link.netMonitor.isShutdown then ([], link)
    else if !link.netMonitor.waitUntilActive then ([], link)
    else
      match link.netMonitor.getSocket with
      | none => ([], { link with netMonitor := link.netMonitor.shutDown })
      | some socket =>
        let is := link.streams socket
        let session := receiveAll (is.pending.length + 1) is
        match session.2 with
        | .ok () is =>
          let later := run turns { link with streams := Function.update link.streams socket is }
          (session.1 ++ later.1, later.2)
        | .error .ioException is =>
          let later := run turns
            { netMonitor := link.netMonitor.setActive false
              streams := Function.update link.streams socket is }
          (session.1 ++ later.1, later.2)
        | .error _ is =>
          (session.1,
            { netMonitor := link.netMonitor.shutDown
              streams := Function.update link.streams socket is })

end PictureReciever

end NetCam.Network
