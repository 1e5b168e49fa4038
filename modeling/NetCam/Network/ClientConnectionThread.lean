import NetCam.Network.NetMonitor

/-! `networking.ClientConnectionThread`, which keeps a `NetMonitor` connected.

Sockets are numbered in the order in which the client opens them. The thread is where its
next statement is; sleeping is left out.
-/

set_option autoImplicit false

namespace NetCam.Network

inductive Connecting where
  | loop
  | connect
  | setSocket (socket : Nat)
  | setActive
  | waitUntilNotActive
  | close
  | exited
  deriving DecidableEq, Repr

/-- One statement, none while it waits: the monitor, the number of sockets opened so far, a
socket that is closed, and the next statement. `fails` makes the connection attempt throw. -/
def clientConnectionThread (monitor : NetMonitor Nat) (opened : Nat) (fails : Bool) :
    Connecting → Option (NetMonitor Nat × Nat × Option Nat × Connecting)
  | .loop => some (monitor, opened, none, if monitor.isShutdown then .exited else .connect)
  | .connect =>
    if fails then some (monitor.setActive false, opened, none, .close)
    else some (monitor, opened + 1, none, .setSocket opened)
  | .setSocket socket => some (monitor.setSocket socket, opened, none, .setActive)
  | .setActive => some (monitor.setActive true, opened, none, .waitUntilNotActive)
  | .waitUntilNotActive =>
    if monitor.waitUntilNotActive then some (monitor, opened, none, .close) else none
  | .close => some (monitor, opened, monitor.getSocket, .loop)
  | .exited => none

end NetCam.Network
