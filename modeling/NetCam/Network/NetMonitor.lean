/-! `networking.NetMonitor`, shared by the threads that work on one connection.

Every method is synchronized, so each is one step on the fields. A wait is given by the
condition that ends it; `notifyAll` is left out, as every guard is tested again.
-/

set_option autoImplicit false

namespace NetCam.Network

structure NetMonitor (Socket : Type) where
  socket : Option Socket
  isActive : Bool
  shutdown : Bool
  deriving DecidableEq, Repr

namespace NetMonitor

variable {Socket : Type}

def fresh : NetMonitor Socket := { socket := none, isActive := false, shutdown := false }

def getSocket (monitor : NetMonitor Socket) : Option Socket := monitor.socket

def setSocket (monitor : NetMonitor Socket) (s : Socket) : NetMonitor Socket :=
  { monitor with socket := some s }

def setActive (monitor : NetMonitor Socket) (active : Bool) : NetMonitor Socket :=
  { monitor with isActive := active }

def waitUntilActive (monitor : NetMonitor Socket) : Bool := monitor.isActive

def waitUntilNotActive (monitor : NetMonitor Socket) : Bool := !monitor.isActive

def shutDown (monitor : NetMonitor Socket) : NetMonitor Socket :=
  { monitor with isActive := false, shutdown := true }

def isShutdown (monitor : NetMonitor Socket) : Bool := monitor.shutdown

end NetMonitor

end NetCam.Network
