import NetCam.Network.Assembly
import NetCam.Network.Pipeline

/-! The pictures of one camera over connections that come and go.

The tasks of the camera serve one client after another, the connection thread of the client opens
one socket after another, and a connection can be lost at either end and at any byte. A socket
whose read threw in the middle of a picture is never read again, and this is what keeps the
receiver at the beginning of a packet whenever it starts on a socket.
-/

set_option autoImplicit false

namespace NetCam.Network

open Semantics

structure Wire where
  pending : List UInt8
  closed : Bool

/-- The connections have the numbers of the client's sockets; `session` is the one that the
server accepted last. -/
structure Feed where
  server : Camera.Server
  session : Nat
  wires : Nat → Wire
  client : Group pictureThreads

/-- A connection that is lost keeps some of what is on its way. A read returns the bytes in pieces
of any size, an ended stream may be reset, and an operation of the receiver may throw. -/
inductive FeedAction where
  | server (action : Camera.Action) (calls : List Int32)
  | loses (socket kept : Nat)
  | receiver (cuts : List Nat) (reset fails : Bool)
  | connector (fails : Bool)
  | closer
  | shutDown

inductive FeedEvent where
  | server (session : Nat) (event : Camera.ServerEvent)
  | client (act : PictureReciever.Act)

def Wire.takes (wire : Wire) (bytes : List UInt8) : Wire :=
  if wire.closed then wire else { wire with pending := wire.pending ++ bytes }

/-- Nothing gets through after a write that failed. -/
def Wire.after (wire : Wire) : Camera.ServerEvent → Wire
  | .wrote _ _ written => { wire with closed := wire.closed || decide (written < 0) }
  | .closedConnfd _ => { wire with closed := true }
  | _ => wire

namespace Feed

def start (camMon : Camera.CameraMonitor) (fields : PictureReciever.Fields) : Feed :=
  { server := .start camMon, session := 0, wires := fun _ => ⟨[], false⟩, client := .start fun _ => fields }

def receiver (s : Feed) : Thread Program.pictureReciever := s.client.threads ()

def moment (s : Feed) (cuts : List Nat) (reset fails : Bool) : Moment :=
  let pending :=
    match s.receiver.position with
    | .work socket _ => (s.wires socket).pending
    | _ => []
  ⟨⟨pending, cuts, reset⟩, fails, .fresh⟩

-- A read waits while there is nothing to read and more can come.
def blocks (s : Feed) : Bool :=
  match s.receiver.position with
  | .work socket stage =>
    match stage.window with
    | some (_, len) => len != 0 && (s.wires socket).pending.isEmpty && !(s.wires socket).closed
    | none => false
  | _ => false

def afterAct (wires : Nat → Wire) : PictureReciever.Act → Nat → Wire
  | .reads socket bytes => Function.update wires socket
      { wires socket with pending := (wires socket).pending.drop bytes.length }
  | _ => wires

def clientStep (s : Feed) (action : GroupAction Unit) : Option (Feed × List FeedEvent) :=
  match Group.step s.client action with
  | some (client, _) => some ({ s with client := client }, [])
  | none => none

def step (sane : Bool) : Step Feed FeedAction FeedEvent
  | s, .server .accept _ =>
    -- the next connection that the client has opened
    if s.session + 1 < s.client.opened then
      match Camera.Server.step sane s.server .accept with
      | some (server, es) =>
        some ({ s with server := server, session := s.session + 1 }, es.map (.server (s.session + 1)))
      | none => none
    else none
  | s, .server action calls =>
    if s.session < s.client.opened then
      match stepOnto sane s.server action calls with
      | some (server, es, bytes) =>
        some ({ s with
          server := server
          wires := Function.update s.wires s.session
            (es.foldl Wire.after ((s.wires s.session).takes bytes)) },
          es.map (.server s.session))
      | none => none
    else none
  | s, .loses socket kept =>
    some ({ s with
      wires := Function.update s.wires socket ⟨(s.wires socket).pending.take kept, true⟩ }, [])
  | s, .receiver cuts reset fails =>
    if s.blocks && !fails then none
    else
      match Group.step s.client (.thread () (s.moment cuts reset fails)) with
      | some (client, _) =>
        let acts := PictureReciever.acts s.receiver (s.client.monitor, s.moment cuts reset fails)
        some ({ s with client := client, wires := acts.foldl afterAct s.wires }, acts.map .client)
      | none => none
  | s, .connector fails => s.clientStep (.connector fails)
  | s, .closer => s.clientStep .closer
  | s, .shutDown => s.clientStep .shutDown

-- A header comes in at most two pieces.
def InTwoPieces (moment : Moment) (buffer : PictureReciever.Buffer) : Position PictureReciever.Stage → Prop
  | .work _ (.header n size) =>
    size = HEAD_SIZE ∨ ∀ piece ∈ PictureReciever.taken moment buffer n size, piece.length = size
  | _ => True

/-- Frames have a size, and neither a write nor a header puts bytes out of place. -/
def Sound (s : Feed) : FeedAction → Prop
  | .server action calls => CapturesSized action ∧ Answered calls (writing s.server action)
  | .receiver cuts reset fails =>
    InTwoPieces (s.moment cuts reset fails) s.receiver.fields.buffer s.receiver.position
  | _ => True

end Feed

section Logs

def PictureReciever.pictures (acts : List PictureReciever.Act) : List (Nat × Client.Picture) :=
  acts.filterMap fun
    | .puts socket _ pic => some (socket, pic)
    | _ => none

namespace Feed

def serverLog (log : List FeedEvent) : List Camera.ServerEvent :=
  log.filterMap fun
    | .server _ event => some event
    | _ => none

def clientLog (log : List FeedEvent) : List PictureReciever.Act :=
  log.filterMap fun
    | .client act => some act
    | _ => none

def sessions (log : List FeedEvent) : List Nat :=
  log.filterMap fun
    | .server session (.wrote _ _ _) => some session
    | _ => none

/-- The frames whose packets were written, under the connections they were written to. Packets
are written in the order in which their frames were saved. -/
def written (log : List FeedEvent) : List (Nat × Camera.Frame) :=
  (sessions log).zip (frames (serverLog log))

def put (log : List FeedEvent) : List (Nat × Client.Picture) := PictureReciever.pictures (clientLog log)

variable {log : List FeedEvent} {session : Nat}

theorem serverLog_server (es : List Camera.ServerEvent) :
    serverLog (log ++ es.map (.server session)) = serverLog log ++ es := by
  simp [serverLog, List.filterMap_append, List.filterMap_map]

theorem serverLog_client (acts : List PictureReciever.Act) :
    serverLog (log ++ acts.map .client) = serverLog log := by
  simp [serverLog, List.filterMap_append, List.filterMap_map]

theorem clientLog_server (es : List Camera.ServerEvent) :
    clientLog (log ++ es.map (.server session)) = clientLog log := by
  simp [clientLog, List.filterMap_append, List.filterMap_map]

theorem clientLog_client (acts : List PictureReciever.Act) :
    clientLog (log ++ acts.map .client) = clientLog log ++ acts := by
  simp [clientLog, List.filterMap_append, List.filterMap_map]

theorem put_server (es : List Camera.ServerEvent) : put (log ++ es.map (.server session)) = put log := by
  unfold put
  rw [clientLog_server]

theorem written_client (acts : List PictureReciever.Act) : written (log ++ acts.map .client) = written log := by
  unfold written
  rw [serverLog_client]
  simp [sessions, List.filterMap_append, List.filterMap_map]

theorem sessions_quiet {es : List Camera.ServerEvent} (quiet : ∀ e ∈ es, e.packetSent = none) :
    sessions (log ++ es.map (.server session)) = sessions log := by
  unfold sessions
  rw [List.filterMap_append, List.filterMap_map]
  refine (congrArg _ (List.filterMap_eq_nil_iff.mpr ?_)).trans (List.append_nil _)
  intro e member
  have silent := quiet e member
  cases e <;> first | rfl | cases silent

theorem sessions_wrote {picPacket : Memory Camera.BUFSIZE} {packetSz written : Int32} :
    sessions (log ++ [.server session (.wrote picPacket packetSz written)]) = sessions log ++ [session] := by
  simp [sessions, List.filterMap_append]

end Feed

end Logs

end NetCam.Network
