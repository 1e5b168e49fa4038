import NetCam.Camera.Monitor
import NetCam.Semantics.Trace

/-! The tasks that serve one client in `server.c`, as steps on their shared state.

`take_picture_task` and `send_picture_task` have the same outline: test the connection,
lock, wait for the turn, do the work, flip the turn, unlock. A step is one call on a
mutex, on the condition variable or on the camera monitor. A waiting task may wake up at
any time, by a broadcast or spuriously.
-/

set_option autoImplicit false

namespace NetCam.Camera

open Semantics

inductive Task where
  | take
  | send
  deriving DecidableEq, Repr

def Task.turn : Task → Int32
  | take => TAKE_PIC_STATE
  | send => SEND_PIC_STATE

/-- The statement a picture task is at; the work it does on its turn has its own stages. -/
inductive Position (Stage : Type) where
  | test
  | lock
  | check
  | condWait
  | waiting
  | relock
  | work (stage : Stage)
  | flip
  | unlock
  | broadcast
  | close
  | returned
  deriving DecidableEq, Repr

/-- Local variables of `try_get_frame` and `client_save_frame` are kept in the stage. -/
inductive TakeStage where
  | getMode
  | capture
  | savePacketSize (fr : Frame) (packetSz : Int32) (picPacket : Memory BUFSIZE)
  | savePacket (fr : Frame) (packetSz : Int32) (picPacket : Memory BUFSIZE)

inductive SendStage where
  | getPacket
  | getPacketSize (picPacket : Memory BUFSIZE)
  | clientWriteN (picPacket : Memory BUFSIZE) (packetSz : Int32)

/-- Where `update_mode_task` is; `buf` is its one-byte buffer. -/
inductive UpdatePosition where
  | test
  | read
  | setMode
  | close
  | returned
  deriving DecidableEq, Repr

structure Shared where
  camMon : CameraMonitor
  isConnected : Bool
  globalMutex : Option Task

structure Server where
  shared : Shared
  take : Position TakeStage
  send : Position SendStage
  update : UpdatePosition
  buf : UInt8

/-- What `read` on the mode connection returns. -/
inductive ModeRead where
  | byte (b : UInt8)
  | endOfFile
  | error
  deriving DecidableEq, Repr

/-- One step of a task, with what the environment contributes to it: what the capture
library returns and what is in an uninitialised array, the result of the write, the
result of the read. The main thread accepts the next client. -/
inductive Action where
  | take (captured : Option MediaFrame) (stack : Memory BUFSIZE)
  | send (written : Int32)
  | update (arrived : ModeRead)
  | accept

inductive ServerEvent where
  | saved (fr : Frame) (picPacket : Memory BUFSIZE) (packetSz : Int32)
  | wrote (picPacket : Memory BUFSIZE) (packetSz written : Int32)
  | closedConnfd (task : Task)
  | closedConnmodefd
  | accepted

section Tasks

variable {Stage : Type}

def outline (task : Task) (first : Stage) (shared : Shared) :
    Position Stage → Option (Shared × Position Stage × List ServerEvent)
  | .test => some (shared, if shared.isConnected then .lock else .close, [])
  | .lock | .relock =>
    if shared.globalMutex = none then some ({ shared with globalMutex := some task }, .check, [])
    else none
  | .check =>
    some (shared, if shared.camMon.getPicTakeSend ≠ task.turn then .condWait else .work first, [])
  | .condWait => some ({ shared with globalMutex := none }, .waiting, [])
  | .waiting => some (shared, .relock, [])
  | .work _ => none
  | .flip => some ({ shared with camMon := shared.camMon.flipPicTakeSend }, .unlock, [])
  | .unlock => some ({ shared with globalMutex := none }, .broadcast, [])
  | .broadcast => some (shared, .test, [])
  | .close => some (shared, .returned, [.closedConnfd task])
  | .returned => none

/-- `try_get_frame` and the first part of `client_save_frame`: the frame and the packet made
of it, or an error. `sane` is the outcome of the size check, which the build fixes. Nothing
is returned where `setup_packet` is undefined. -/
def tryGetFrame (sane : Bool) (captured : Option MediaFrame) (stack : Memory BUFSIZE) :
    Option (Option (Frame × Int32 × Memory BUFSIZE)) :=
  match cameraGetFrame captured with
  | none => some none
  | some fr =>
    if !sane then some none
    else
      match setupPacket stack (getFrameTimestamp fr) (getFrameSize fr) (getFrameBytes fr) with
      | none => none
      | some (packetSz, picPacket) => some (some (fr, packetSz, picPacket))

def takeWork (sane : Bool) (captured : Option MediaFrame) (stack : Memory BUFSIZE) (shared : Shared) :
    TakeStage → Option (Shared × Position TakeStage × List ServerEvent)
  | .getMode => some (shared, .work .capture, [])
  | .capture =>
    if !shared.camMon.cam then some (shared, .flip, [])
    else
      match tryGetFrame sane captured stack with
      | none => none
      | some none => some (shared, .flip, [])
      | some (some (fr, packetSz, picPacket)) =>
        some (shared, .work (.savePacketSize fr packetSz picPacket), [])
  | .savePacketSize fr packetSz picPacket =>
    some ({ shared with camMon := shared.camMon.savePacketSize packetSz },
      .work (.savePacket fr packetSz picPacket), [])
  | .savePacket fr packetSz picPacket =>
    some ({ shared with camMon := shared.camMon.savePacket picPacket }, .flip,
      [.saved fr picPacket packetSz])

/-- `try_send_frame` and `client_send_frame`. Whether all bytes were written only changes
what is printed. -/
def sendWork (sane : Bool) (written : Int32) (shared : Shared) :
    SendStage → Option (Shared × Position SendStage × List ServerEvent)
  | .getPacket =>
    if !shared.camMon.cam || !sane then some (shared, .flip, [])
    else some (shared, .work (.getPacketSize shared.camMon.getPacket), [])
  | .getPacketSize picPacket =>
    some (shared, .work (.clientWriteN picPacket shared.camMon.getPacketSize), [])
  | .clientWriteN picPacket packetSz => some (shared, .flip, [.wrote picPacket packetSz written])

def takePictureTask (sane : Bool) (captured : Option MediaFrame) (stack : Memory BUFSIZE)
    (shared : Shared) (position : Position TakeStage) :
    Option (Shared × Position TakeStage × List ServerEvent) :=
  match position with
  | .work stage => takeWork sane captured stack shared stage
  | position => outline .take .getMode shared position

def sendPictureTask (sane : Bool) (written : Int32) (shared : Shared) (position : Position SendStage) :
    Option (Shared × Position SendStage × List ServerEvent) :=
  match position with
  | .work stage => sendWork sane written shared stage
  | position => outline .send .getPacket shared position

/-- The byte is a signed `char`. At the end of file it is whatever was read last. -/
def updateModeTask (arrived : ModeRead) (s : Server) : Option (Server × List ServerEvent) :=
  match s.update with
  | .test => some ({ s with update := if s.shared.isConnected then .read else .close }, [])
  | .read =>
    match arrived with
    | .byte b => some ({ s with buf := b, update := .setMode }, [])
    | .endOfFile =>
      some ({ s with shared := { s.shared with isConnected := false }, update := .setMode }, [])
    | .error => some ({ s with update := .returned }, [])
  | .setMode =>
    some ({ s with
      shared := { s.shared with camMon := s.shared.camMon.setMode s.buf.toInt8.toInt32 }
      update := .test }, [])
  | .close => some ({ s with update := .returned }, [.closedConnmodefd])
  | .returned => none

end Tasks

section Stages

variable {sane : Bool} {captured : Option MediaFrame} {stack : Memory BUFSIZE} {written : Int32}
  {shared next : Shared} {es : List ServerEvent}

/-- What one stage of the work of `take_picture_task` does. -/
inductive TakeStage.Does (sane : Bool) (captured : Option MediaFrame) (stack : Memory BUFSIZE)
    (shared : Shared) : TakeStage → Shared → Position TakeStage → List ServerEvent → Prop where
  | getsMode : Does sane captured stack shared .getMode shared (.work .capture) []
  | noCamera (missing : shared.camMon.cam = false) :
    Does sane captured stack shared .capture shared .flip []
  | failed (there : shared.camMon.cam = true) (error : tryGetFrame sane captured stack = some none) :
    Does sane captured stack shared .capture shared .flip []
  | packed {fr : Frame} {packetSz : Int32} {picPacket : Memory BUFSIZE}
      (there : shared.camMon.cam = true)
      (got : tryGetFrame sane captured stack = some (some (fr, packetSz, picPacket))) :
    Does sane captured stack shared .capture shared (.work (.savePacketSize fr packetSz picPacket)) []
  | savesPacketSize (fr : Frame) (packetSz : Int32) (picPacket : Memory BUFSIZE) :
    Does sane captured stack shared (.savePacketSize fr packetSz picPacket)
      { shared with camMon := shared.camMon.savePacketSize packetSz }
      (.work (.savePacket fr packetSz picPacket)) []
  | savesPacket (fr : Frame) (packetSz : Int32) (picPacket : Memory BUFSIZE) :
    Does sane captured stack shared (.savePacket fr packetSz picPacket)
      { shared with camMon := shared.camMon.savePacket picPacket } .flip [.saved fr picPacket packetSz]

theorem takeWork_does {stage : TakeStage} {q : Position TakeStage}
    (taken : takeWork sane captured stack shared stage = some (next, q, es)) :
    stage.Does sane captured stack shared next q es := by
  cases stage with
  | getMode => cases taken; exact .getsMode
  | capture =>
    simp only [takeWork] at taken
    split at taken
    · next missing =>
      cases taken
      exact .noCamera (by simpa using missing)
    · next there =>
      have camera : shared.camMon.cam = true := by simpa using there
      split at taken <;> cases taken
      · exact .failed camera (by assumption)
      · exact .packed camera (by assumption)
  | savePacketSize fr packetSz picPacket => cases taken; exact .savesPacketSize fr packetSz picPacket
  | savePacket fr packetSz picPacket => cases taken; exact .savesPacket fr packetSz picPacket

inductive SendStage.Does (sane : Bool) (written : Int32) (shared : Shared) :
    SendStage → Shared → Position SendStage → List ServerEvent → Prop where
  | failed (off : (shared.camMon.cam && sane) = false) :
    Does sane written shared .getPacket shared .flip []
  | getsPacket (on : (shared.camMon.cam && sane) = true) :
    Does sane written shared .getPacket shared (.work (.getPacketSize shared.camMon.getPacket)) []
  | getsPacketSize (picPacket : Memory BUFSIZE) :
    Does sane written shared (.getPacketSize picPacket) shared
      (.work (.clientWriteN picPacket shared.camMon.getPacketSize)) []
  | writes (picPacket : Memory BUFSIZE) (packetSz : Int32) :
    Does sane written shared (.clientWriteN picPacket packetSz) shared .flip
      [.wrote picPacket packetSz written]

theorem sendWork_does {stage : SendStage} {q : Position SendStage}
    (taken : sendWork sane written shared stage = some (next, q, es)) :
    stage.Does sane written shared next q es := by
  cases stage with
  | getPacket =>
    simp only [sendWork] at taken
    split at taken
    · next gone =>
      cases taken
      rw [← Bool.not_and, Bool.not_eq_true'] at gone
      exact .failed gone
    · next there =>
      cases taken
      rw [← Bool.not_and, Bool.not_eq_true', Bool.not_eq_false] at there
      exact .getsPacket there
  | getPacketSize picPacket => cases taken; exact .getsPacketSize picPacket
  | clientWriteN picPacket packetSz => cases taken; exact .writes picPacket packetSz

end Stages

namespace Server

def start (camMon : CameraMonitor) : Server :=
  { shared := { camMon := camMon, isConnected := true, globalMutex := none }
    take := .test
    send := .test
    update := .test
    buf := 0 }

def step (sane : Bool) : Step Server Action ServerEvent
  | s, .take captured stack =>
    match takePictureTask sane captured stack s.shared s.take with
    | some (shared, position, es) => some ({ s with shared := shared, take := position }, es)
    | none => none
  | s, .send written =>
    match sendPictureTask sane written s.shared s.send with
    | some (shared, position, es) => some ({ s with shared := shared, send := position }, es)
    | none => none
  | s, .update arrived => updateModeTask arrived s
  | s, .accept =>
    -- the main thread joins the three tasks before it serves the next client
    match s.take, s.send, s.update with
    | .returned, .returned, .returned =>
      some ({ s with
        shared := { s.shared with isConnected := true }
        take := .test
        send := .test
        update := .test
        buf := 0 }, [.accepted])
    | _, _, _ => none

inductive Moves (sane : Bool) (s : Server) : Action → Server → List ServerEvent → Prop where
  | take {captured : Option MediaFrame} {stack : Memory BUFSIZE} {shared : Shared}
      {position : Position TakeStage} {es : List ServerEvent}
      (task : takePictureTask sane captured stack s.shared s.take = some (shared, position, es)) :
    Moves sane s (.take captured stack) { s with shared := shared, take := position } es
  | send {written : Int32} {shared : Shared} {position : Position SendStage} {es : List ServerEvent}
      (task : sendPictureTask sane written s.shared s.send = some (shared, position, es)) :
    Moves sane s (.send written) { s with shared := shared, send := position } es
  | update {arrived : ModeRead} {next : Server} {es : List ServerEvent}
      (task : updateModeTask arrived s = some (next, es)) :
    Moves sane s (.update arrived) next es
  | accept (takeDone : s.take = .returned) (sendDone : s.send = .returned)
      (updateDone : s.update = .returned) :
    Moves sane s .accept { s with
      shared := { s.shared with isConnected := true }
      take := .test
      send := .test
      update := .test
      buf := 0 } [.accepted]

variable {sane : Bool} {s next : Server} {es : List ServerEvent}

theorem step_moves {action : Action} (taken : step sane s action = some (next, es)) :
    Moves sane s action next es := by
  cases action with
  | take captured stack =>
    simp only [step] at taken
    split at taken <;> cases taken
    exact .take (by assumption)
  | send written =>
    simp only [step] at taken
    split at taken <;> cases taken
    exact .send (by assumption)
  | update arrived => exact .update taken
  | accept =>
    simp only [step] at taken
    split at taken <;> cases taken
    exact .accept (by assumption) (by assumption) (by assumption)

end Server

theorem updateModeTask_frame {arrived : ModeRead} {s next : Server} {es : List ServerEvent}
    (taken : updateModeTask arrived s = some (next, es)) :
    next.take = s.take ∧ next.send = s.send ∧ (es = [] ∨ es = [.closedConnmodefd]) := by
  unfold updateModeTask at taken
  split at taken
  · cases taken
    exact ⟨rfl, rfl, .inl rfl⟩
  · split at taken <;> cases taken <;> exact ⟨rfl, rfl, .inl rfl⟩
  · cases taken
    exact ⟨rfl, rfl, .inl rfl⟩
  · cases taken
    exact ⟨rfl, rfl, .inr rfl⟩
  · cases taken

end NetCam.Camera
