import Mathlib.Logic.Function.Basic
import NetCam.Camera.Server
import NetCam.Client.Calls
import NetCam.Network.ClientConnectionThread
import NetCam.Network.ModeSender

/-! The mode channel from `ClientMonitor` to the camera server.

It is made of the two threads of a `NetMonitor` on the client, the camera server with its
tasks, and the connections between them. The server takes connections in the order in
which they were opened. A connection can be lost at any time.
-/

set_option autoImplicit false

namespace NetCam.Network

open Semantics

/-- One mode connection: what was written and not yet read, and how it ended. -/
structure Connection where
  unread : List UInt8
  closed : Bool
  lost : Bool
  deriving DecidableEq, Repr

def Connection.deliver (connection : Connection) : Camera.ModeRead → Option Connection
  | .byte b =>
    match connection.unread with
    | first :: rest => if first = b then some { connection with unread := rest } else none
    | [] => none
  | .endOfFile =>
    if connection.unread = [] ∧ (connection.closed ∨ connection.lost) then some connection else none
  | .error => if connection.unread = [] ∧ connection.lost then some connection else none

structure Channel where
  cMon : Client.ClientMonitor
  monitor : NetMonitor Nat
  sender : ModeSender
  connecting : Connecting
  connections : Nat → Connection
  opened : Nat
  accepted : Nat
  server : Camera.Server

/-- A call on the `ClientMonitor`, a statement of one of the two client threads, the loss of
a connection with only the first few unread bytes still delivered, or a step of the server. -/
inductive ChannelAction where
  | call (call : Client.Call)
  | sender (fails : Bool)
  | connector (fails : Bool)
  | lose (socket kept : Nat)
  | server (action : Camera.Action)

namespace Channel

def start (camMon : Camera.CameraMonitor) : Channel :=
  { cMon := .fresh
    monitor := .fresh
    sender := { position := .loop, mode := 0, socket := none }
    connecting := .loop
    connections := fun _ => { unread := [], closed := false, lost := false }
    opened := 0
    accepted := 0
    server :=
      { shared := { camMon := camMon, isConnected := false, globalMutex := none }
        take := .returned
        send := .returned
        update := .returned
        buf := 0 } }

def serving (s : Channel) : Nat := s.accepted - 1

/-- A byte written to a lost connection goes nowhere. -/
def put (s : Channel) (socket : Nat) (b : UInt8) : Nat → Connection :=
  let connection := s.connections socket
  if connection.lost then s.connections
  else Function.update s.connections socket { connection with unread := connection.unread ++ [b] }

def step (sane : Bool) : Step Channel ChannelAction Camera.ServerEvent
  | s, .call call =>
    match s.cMon.step call with
    | some (cMon, _) => some ({ s with cMon := cMon }, [])
    | none => none
  | s, .sender fails =>
    match modeSender s.cMon s.monitor fails s.sender with
    | some (monitor, none, sender) => some ({ s with monitor := monitor, sender := sender }, [])
    | some (monitor, some b, sender) =>
      match s.sender.socket with
      | some socket =>
        some ({ s with monitor := monitor, sender := sender, connections := s.put socket b }, [])
      | none => none
    | none => none
  | s, .connector fails =>
    match clientConnectionThread s.monitor s.opened fails s.connecting with
    | some (monitor, opened, closed, connecting) =>
      let connections :=
        match closed with
        | some socket =>
          Function.update s.connections socket { s.connections socket with closed := true }
        | none => s.connections
      some ({ s with
        monitor := monitor, opened := opened, connecting := connecting, connections := connections }, [])
    | none => none
  | s, .lose socket kept =>
    if socket < s.opened then
      let connection := s.connections socket
      some ({ s with
        connections := Function.update s.connections socket
          { connection with unread := connection.unread.take kept, lost := true } }, [])
    else none
  | s, .server (.update arrived) =>
    let read := s.server.update = .read
    match if read then (s.connections s.serving).deliver arrived else some (s.connections s.serving) with
    | some connection =>
      match Camera.Server.step sane s.server (.update arrived) with
      | some (server, es) =>
        some ({ s with
          server := server
          connections := Function.update s.connections s.serving connection }, es)
      | none => none
    | none => none
  | s, .server .accept =>
    if s.accepted < s.opened then
      match Camera.Server.step sane s.server .accept with
      | some (server, es) => some ({ s with server := server, accepted := s.accepted + 1 }, es)
      | none => none
    else none
  | s, .server action =>
    match Camera.Server.step sane s.server action with
    | some (server, es) => some ({ s with server := server }, es)
    | none => none

end Channel

end NetCam.Network
