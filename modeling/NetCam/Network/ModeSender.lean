import NetCam.Client.Monitor
import NetCam.Network.NetMonitor

/-! `networking.ModeSender` and `networking.ModePack`.

The sender keeps the mode it believes the camera to be in. It is assigned before the byte
is written, and nothing takes it back when the write throws.
-/

set_option autoImplicit false

namespace NetCam.Network

def pack (movieMode : Int32) : UInt8 := if movieMode = 1 then 0x01 else 0x00

inductive Sending where
  | loop
  | waitUntilActive
  | getSocket
  | getNewMode
  | write
  | flush
  | sleep
  | exited
  deriving DecidableEq, Repr

structure ModeSender where
  position : Sending
  mode : Int32
  socket : Option Nat
  deriving DecidableEq, Repr

/-- One statement, none while it waits: the monitor, a byte that is handed to the socket, and
the sender. `fails` makes an operation on the socket throw an `IOException`. -/
def modeSender (cMon : Client.ClientMonitor) (monitor : NetMonitor Nat) (fails : Bool)
    (sender : ModeSender) : Option (NetMonitor Nat × Option UInt8 × ModeSender) :=
  let caught := some (monitor.setActive false, none, { sender with position := .loop })
  match sender.position with
  | .loop =>
    some (monitor, none,
      { sender with position := if monitor.isShutdown then .exited else .waitUntilActive })
  | .waitUntilActive =>
    if monitor.waitUntilActive then some (monitor, none, { sender with position := .getSocket })
    else none
  | .getSocket =>
    if fails then caught
    else
      match monitor.getSocket with
      | some socket =>
        some (monitor, none, { sender with socket := some socket, position := .getNewMode })
      | none => none
  | .getNewMode =>
    match cMon.getNewMode sender.mode with
    | .ok mode => some (monitor, none, { sender with mode := mode, position := .write })
    | .error _ => none
  | .write =>
    if fails then caught
    else some (monitor, some (pack sender.mode), { sender with position := .flush })
  | .flush => if fails then caught else some (monitor, none, { sender with position := .sleep })
  | .sleep => some (monitor, none, { sender with position := .getNewMode })
  | .exited => none

end NetCam.Network
