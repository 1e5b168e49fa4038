import Mathlib.Data.List.Forall2
import NetCam.Client.PictureOrder
import NetCam.Network.Encoding
import NetCam.Network.Reassembly

/-! The way of a picture, from the capture library of a camera to its panel.

Both camera servers run with their tasks interleaved, what they write is in flight until
the receiver of that camera reads it, and the receivers share the client with the display
threads. A turn of a receiver is taken when it ends: by then its bytes have come, in
pieces of any size.
-/

set_option autoImplicit false

namespace NetCam.Network

open Semantics

section Receiving

open PictureReciever

/-- The header decodes as it was sent, although its chunks may be stored out of place. -/
def HeaderKept (cuts : List Nat) (bytes : List UInt8) : Prop :=
  let header := bytes.take HEAD_SIZE
  let laid := laidHeader (divide cuts HEAD_SIZE).1 header
  timeStampIn laid = timeStampIn header ∧ sizeIn laid = sizeIn header

def framePicture (fr : Camera.Frame) : Client.Picture :=
  ⟨Camera.getFrameBytes fr, (getInt (littleEndian 4 (Camera.getFrameTimestamp fr / 1000000).toNat)).toInt64⟩

def frameHeader (fr : Camera.Frame) : List UInt8 :=
  littleEndian 8 (Camera.getFrameTimestamp fr / 1000000).toNat ++
    littleEndian 2 (Camera.getFrameBytes fr).length

theorem frameHeader_length (fr : Camera.Frame) : (frameHeader fr).length = HEAD_SIZE := by
  simp [frameHeader, HEAD_SIZE]

theorem frameBytes_eq (fr : Camera.Frame) :
    frameBytes fr = frameHeader fr ++ Camera.getFrameBytes fr := rfl

theorem timeStampIn_frameHeader (fr : Camera.Frame) :
    timeStampIn (frameHeader fr) = (framePicture fr).timeStamp := by
  have front : (frameHeader fr).take 4 =
      littleEndian 4 (Camera.getFrameTimestamp fr / 1000000).toNat := by
    unfold frameHeader
    rw [List.take_append_of_le_length (by simp), littleEndian_take 4 4]
  unfold timeStampIn
  rw [front]
  rfl

theorem sizeIn_frameHeader {fr : Camera.Frame}
    (fits : (Camera.getFrameBytes fr).length ≤ Camera.BUFSIZE - 10) :
    sizeIn (frameHeader fr) = (Camera.getFrameBytes fr).length := by
  have field : ((frameHeader fr).drop 8).take 2 = littleEndian 2 (Camera.getFrameBytes fr).length := by
    unfold frameHeader
    rw [List.drop_left' (by simp), List.take_of_length_le (by simp)]
  have small : (Camera.getFrameBytes fr).length % 256 ^ 2 = (Camera.getFrameBytes fr).length := by
    unfold Camera.BUFSIZE at fits
    exact Nat.mod_eq_of_lt (by omega)
  have read := PicturePack.getInt_size (littleEndian_length 2 (Camera.getFrameBytes fr).length)
  rw [fromLittleEndian_littleEndian, small] at read
  unfold sizeIn Int32.toNatClampNeg
  rw [field, read]
  rfl

theorem receive_frame {fr : Camera.Frame} {more : List UInt8} {cuts : List Nat}
    (fits : (Camera.getFrameBytes fr).length ≤ Camera.BUFSIZE - 10)
    (kept : HeaderKept cuts (frameBytes fr ++ more)) :
    ∃ is, receive ⟨frameBytes fr ++ more, cuts, false⟩ = .ok (some (framePicture fr)) is ∧
      is.pending = more := by
  have front : (frameBytes fr ++ more).take HEAD_SIZE = frameHeader fr := by
    rw [frameBytes_eq, List.append_assoc, List.take_left' (frameHeader_length fr)]
  have behind : (frameBytes fr ++ more).drop HEAD_SIZE = Camera.getFrameBytes fr ++ more := by
    rw [frameBytes_eq, List.append_assoc, List.drop_left' (frameHeader_length fr)]
  unfold HeaderKept at kept
  dsimp only at kept
  rw [front, timeStampIn_frameHeader, sizeIn_frameHeader fits] at kept
  obtain ⟨time, size⟩ := kept
  have laid : header ⟨frameBytes fr ++ more, cuts, false⟩ =
      laidHeader (divide cuts HEAD_SIZE).1 (frameHeader fr) := by
    unfold header
    rw [front]
  have rest : (afterHeader ⟨frameBytes fr ++ more, cuts, false⟩).pending =
      Camera.getFrameBytes fr ++ more := behind
  have delivered := @receive_delivers ⟨frameBytes fr ++ more, cuts, false⟩
    (by rw [frameBytes_eq, List.length_append, List.length_append, frameHeader_length]; omega)
    (by rw [laid, size]; unfold HEAD_SIZE MAXIMUM_PICTURE_SIZE Camera.BUFSIZE at *; omega)
    (by rw [laid, size, rest, List.length_append]; omega)
  rw [laid, size, rest, time, List.take_left, List.drop_left] at delivered
  exact ⟨_, delivered, rfl⟩

/-- A turn that puts a picture takes the first frame in flight. -/
theorem receive_inFlight {inFlight : List Camera.Frame} {cuts : List Nat} {pic : Client.Picture}
    {is : InputStream} (fit : ∀ fr ∈ inFlight, (Camera.getFrameBytes fr).length ≤ Camera.BUFSIZE - 10)
    (kept : HeaderKept cuts (inFlight.flatMap frameBytes))
    (got : receive ⟨inFlight.flatMap frameBytes, cuts, false⟩ = .ok (some pic) is) :
    ∃ fr rest, inFlight = fr :: rest ∧ pic = framePicture fr ∧ is.pending = rest.flatMap frameBytes := by
  cases inFlight with
  | nil =>
    have short : ([] : List Camera.Frame).flatMap frameBytes = [] := rfl
    rw [short] at got
    obtain ⟨last, ⟨stopped, _⟩ | failed | failed⟩ :=
      @silent_of_short_header ⟨[], cuts, false⟩ (Nat.zero_lt_succ 9)
    · cases stopped.symm.trans got
    · cases failed.symm.trans got
    · cases failed.symm.trans got
  | cons fr rest =>
    rw [List.flatMap_cons] at got kept
    obtain ⟨next, received, pending⟩ := receive_frame (fit fr List.mem_cons_self) kept
    cases received.symm.trans got
    exact ⟨fr, rest, rfl, rfl, pending⟩

end Receiving

open Client (Cam Displays DisplayAction DisplayEvent putsFor shownOn)

/-- The two camera servers, their picture connections, and the client. -/
structure Pipeline where
  server : Cam → Camera.Server
  wire : Cam → List UInt8
  displays : Displays

inductive PipelineAction where
  | server (c : Cam) (action : Camera.Action) (calls : List Int32)
  | receive (c : Cam) (cuts : List Nat) (now : Int64)
  | client (action : DisplayAction)

inductive PipelineEvent where
  | server (c : Cam) (event : Camera.ServerEvent)
  | received (c : Cam) (pic : Client.Picture)
  | client (event : DisplayEvent)

namespace Pipeline

def start (camMon : Cam → Camera.CameraMonitor) : Pipeline :=
  { server := fun c => .start (camMon c), wire := fun _ => [], displays := .fresh }

/-- Nobody but the receivers puts pictures, and every camera keeps its first client. -/
def step (sane : Bool) : Step Pipeline PipelineAction PipelineEvent
  | _, .server _ .accept _ => none
  | p, .server c action calls =>
    match stepOnto sane (p.server c) action calls with
    | some (server, es, bytes) =>
      some ({ p with
        server := Function.update p.server c server
        wire := Function.update p.wire c (p.wire c ++ bytes) }, es.map (.server c))
    | none => none
  | p, .receive c cuts now =>
    match PictureReciever.receive ⟨p.wire c, cuts, false⟩ with
    | .ok (some pic) is =>
      match Displays.step p.displays (.call (.putPicture now pic c)) with
      | some (displays, es) =>
        some ({ p with wire := Function.update p.wire c is.pending, displays := displays },
          .received c pic :: es.map .client)
      | none => none
    | _ => none
  | _, .client (.call (.putPicture ..)) => none
  | p, .client action =>
    match Displays.step p.displays action with
    | some (displays, es) => some ({ p with displays := displays }, es.map .client)
    | none => none

/-- Writes deliver their packets, frames have a size, and no header is disturbed. -/
def Sound (p : Pipeline) : PipelineAction → Prop
  | .server c action calls =>
    CapturesSized action ∧ Answered calls (writing (p.server c) action) ∧ ∀ tmp ∈ calls, 0 < tmp
  | .receive c cuts _ => HeaderKept cuts (p.wire c)
  | .client _ => True

end Pipeline

def PipelineEvent.serverOf (c : Cam) : PipelineEvent → Option Camera.ServerEvent
  | server d event => if d = c then some event else none
  | _ => none

def PipelineEvent.receivedOf (c : Cam) : PipelineEvent → Option Client.Picture
  | received d pic => if d = c then some pic else none
  | _ => none

def PipelineEvent.clientOf : PipelineEvent → Option DisplayEvent
  | client event => some event
  | _ => none

def serverLog (c : Cam) (log : List PipelineEvent) : List Camera.ServerEvent :=
  log.filterMap (PipelineEvent.serverOf c)

def received (c : Cam) (log : List PipelineEvent) : List Client.Picture :=
  log.filterMap (PipelineEvent.receivedOf c)

def clientLog (log : List PipelineEvent) : List DisplayEvent := log.filterMap PipelineEvent.clientOf

/-- The frames of one camera, by how far they have come. -/
structure Flowing (sane cam : Bool) (c : Cam) (log : List PipelineEvent) (p : Pipeline)
    (done inFlight : List Camera.Frame) : Prop where
  handOver : Camera.HandOver sane cam (serverLog c log) (p.server c)
  made : (p.server c).take.AtWork TakeStageEncodes
  encodes : EncodesAll (frames (serverLog c log)) (Camera.saves (serverLog c log))
  written : done ++ inFlight = (frames (serverLog c log)).take (Camera.sends (serverLog c log)).length
  wire : p.wire c = inFlight.flatMap frameBytes
  arrived : received c log = done.map framePicture
  put : (putsFor c (clientLog log)).map (·.byteStream) = (received c log).map (·.byteStream)

section Logs

variable {c d : Cam} {log : List PipelineEvent}

theorem serverLog_own (es : List Camera.ServerEvent) :
    serverLog c (log ++ es.map (.server c)) = serverLog c log ++ es := by
  simp [serverLog, List.filterMap_append, List.filterMap_map, Function.comp_def, PipelineEvent.serverOf]

theorem serverLog_other (differ : d ≠ c) (es : List Camera.ServerEvent) :
    serverLog c (log ++ es.map (.server d)) = serverLog c log := by
  simp [serverLog, List.filterMap_append, List.filterMap_map, Function.comp_def, PipelineEvent.serverOf,
    differ]

theorem received_server (es : List Camera.ServerEvent) :
    received c (log ++ es.map (.server d)) = received c log := by
  simp [received, List.filterMap_append, List.filterMap_map, Function.comp_def, PipelineEvent.receivedOf]

theorem clientLog_server (es : List Camera.ServerEvent) :
    clientLog (log ++ es.map (.server d)) = clientLog log := by
  simp [clientLog, List.filterMap_append, List.filterMap_map, Function.comp_def, PipelineEvent.clientOf]

theorem serverLog_client (es : List DisplayEvent) :
    serverLog c (log ++ es.map .client) = serverLog c log := by
  simp [serverLog, List.filterMap_append, List.filterMap_map, Function.comp_def, PipelineEvent.serverOf]

theorem received_client (es : List DisplayEvent) :
    received c (log ++ es.map .client) = received c log := by
  simp [received, List.filterMap_append, List.filterMap_map, Function.comp_def, PipelineEvent.receivedOf]

theorem clientLog_client (es : List DisplayEvent) :
    clientLog (log ++ es.map .client) = clientLog log ++ es := by
  simp [clientLog, List.filterMap_append, List.filterMap_map, Function.comp_def, PipelineEvent.clientOf]

theorem putsFor_append (log es : List DisplayEvent) : putsFor c (log ++ es) = putsFor c log ++ putsFor c es :=
  List.filterMap_append

end Logs

section Flow

variable {sane cam : Bool} {c : Cam} {log : List PipelineEvent} {p : Pipeline}
  {done inFlight : List Camera.Frame}

theorem Flowing.of_same (flowing : Flowing sane cam c log p done inFlight) {next : Pipeline}
    {later : List PipelineEvent} (server : next.server c = p.server c) (wire : next.wire c = p.wire c)
    (servers : serverLog c later = serverLog c log) (receives : received c later = received c log)
    (puts : putsFor c (clientLog later) = putsFor c (clientLog log)) :
    Flowing sane cam c later next done inFlight := by
  obtain ⟨handOver, made, encodes, written, wire', arrived, put⟩ := flowing
  constructor
  · rw [servers, server]
    exact handOver
  · rw [server]
    exact made
  · rw [servers]
    exact encodes
  · rw [servers]
    exact written
  · rw [wire]
    exact wire'
  · rw [receives]
    exact arrived
  · rw [puts, receives]
    exact put

theorem EncodesAll.written {fs : List Camera.Frame}
    {saved written pending : List (Memory Camera.BUFSIZE × Int32)} (encodes : EncodesAll fs saved)
    (balance : saved = written ++ pending) :
    EncodesAll (fs.take written.length) written ∧ fs.length = written.length + pending.length := by
  have front := List.forall₂_take written.length encodes
  have long := encodes.length_eq
  rw [balance, List.take_left' rfl] at front
  rw [balance, List.length_append] at long
  exact ⟨front, long⟩

theorem Flowing.server_step (flowing : Flowing sane cam c log p done inFlight) {action : Camera.Action}
    {calls : List Int32} {server : Camera.Server} {es : List Camera.ServerEvent} {bytes : List UInt8}
    (sound : p.Sound (.server c action calls))
    (taken : stepOnto sane (p.server c) action calls = some (server, es, bytes)) :
    ∃ more, Flowing sane cam c (log ++ es.map (.server c)) { p with
      server := Function.update p.server c server
      wire := Function.update p.wire c (p.wire c ++ bytes) } done (inFlight ++ more) := by
  obtain ⟨handOver, made, encodes, written, wire, arrived, put⟩ := flowing
  obtain ⟨sized, answered, through⟩ := sound
  obtain ⟨_, sized', moved⟩ := stepOnto_moves sized taken
  have handOver' := Camera.handOver_step handOver moved
  obtain ⟨made', fresh⟩ := encodes_step made sized' moved
  have encodes' : EncodesAll (frames (serverLog c log ++ es)) (Camera.saves (serverLog c log ++ es)) := by
    unfold frames
    rw [List.filterMap_append, Camera.saves_append]
    exact List.rel_append encodes fresh
  obtain ⟨_, counted⟩ := encodes.written handOver.balance
  obtain ⟨all, _⟩ := encodes'.written handOver'.balance
  rw [Camera.sends_append, List.length_append] at all
  have front : ((frames (serverLog c log ++ es)).take
      ((Camera.sends (serverLog c log)).length + (Camera.sends es).length)).take
        (Camera.sends (serverLog c log)).length = done ++ inFlight := by
    unfold frames
    rw [List.take_take, Nat.min_eq_left (Nat.le_add_right _ _), List.filterMap_append,
      List.take_append_of_le_length (by change _ ≤ (frames (serverLog c log)).length; omega)]
    exact written.symm
  -- the frames of the packets that this step has written
  have behind := List.forall₂_drop (Camera.sends (serverLog c log)).length all
  rw [List.drop_left' rfl] at behind
  refine ⟨((frames (serverLog c log ++ es)).take
    ((Camera.sends (serverLog c log)).length + (Camera.sends es).length)).drop
      (Camera.sends (serverLog c log)).length, ?_⟩
  constructor
  · rw [serverLog_own]
    dsimp only
    rw [Function.update_self]
    exact handOver'
  · dsimp only
    rw [Function.update_self]
    exact made'
  · rw [serverLog_own]
    exact encodes'
  · rw [serverLog_own, Camera.sends_append, List.length_append, ← List.append_assoc, ← front,
      List.take_append_drop]
  · dsimp only
    rw [Function.update_self, wire, stepOnto_bytes answered through taken behind, List.flatMap_append]
  · rw [received_server]
    exact arrived
  · rw [clientLog_server, received_server]
    exact put

theorem step_putPicture {s next : Displays} {now : Int64} {pic : Client.Picture} {es : List DisplayEvent}
    (taken : Displays.step s (.call (.putPicture now pic c)) = some (next, es)) :
    ∃ converted, es = [.monitor (.put c converted)] ∧ converted.byteStream = pic.byteStream := by
  simp only [Displays.step] at taken
  split at taken
  · next called =>
    cases taken
    obtain ⟨_, rfl⟩ := Client.ClientMonitor.step_putPicture called
    exact ⟨_, rfl, rfl⟩
  · cases taken

theorem putsFor_step {s next : Displays} {action : DisplayAction} {es : List DisplayEvent}
    (other : ∀ now pic d, action ≠ .call (.putPicture now pic d))
    (taken : Displays.step s action = some (next, es)) : putsFor c es = [] := by
  cases action with
  | call call =>
    cases call with
    | putPicture now pic d => exact absurd rfl (other now pic d)
    | getPicture => cases taken
    | setForcedSync | setMode | setMotionDetected =>
      simp only [Displays.step] at taken
      split at taken
      · next called =>
        cases taken
        obtain ⟨rfl, _⟩ := Client.ClientMonitor.step_keeps_queues called (by simp) (by simp)
        rfl
      · cases taken
  | display d clock =>
    simp only [Displays.step, Displays.display] at taken
    repeat' split at taken
    all_goals cases taken <;> rfl

theorem Flowing.receive (flowing : Flowing sane cam c log p done inFlight) {cuts : List Nat} {now : Int64}
    {pic : Client.Picture} {is : InputStream} {displays : Displays} {es : List DisplayEvent}
    (sound : p.Sound (.receive c cuts now))
    (got : PictureReciever.receive ⟨p.wire c, cuts, false⟩ = .ok (some pic) is)
    (taken : Displays.step p.displays (.call (.putPicture now pic c)) = some (displays, es)) :
    ∃ fr rest, inFlight = fr :: rest ∧
      Flowing sane cam c (log ++ (.received c pic :: es.map .client))
        { p with wire := Function.update p.wire c is.pending, displays := displays }
        (done ++ [fr]) rest := by
  obtain ⟨handOver, made, encodes, written, wire, arrived, put⟩ := flowing
  obtain ⟨all, _⟩ := encodes.written handOver.balance
  have fit : ∀ fr ∈ inFlight, (Camera.getFrameBytes fr).length ≤ Camera.BUFSIZE - 10 := by
    rw [← written] at all
    exact fun fr member => all.fits fr (List.mem_append_right done member)
  have kept : HeaderKept cuts (p.wire c) := sound
  rw [wire] at kept got
  obtain ⟨fr, rest, rfl, rfl, pending⟩ := receive_inFlight fit kept got
  obtain ⟨converted, rfl, same⟩ := step_putPicture taken
  -- what the step logs, as each view of the log sees it
  have servers : serverLog c (log ++ [.received c (framePicture fr), .client (.monitor (.put c converted))]) =
      serverLog c log := by
    simp [serverLog, List.filterMap_append, PipelineEvent.serverOf]
  have receives : Network.received c
      (log ++ [.received c (framePicture fr), .client (.monitor (.put c converted))]) =
        Network.received c log ++ [framePicture fr] := by
    simp [Network.received, List.filterMap_append, PipelineEvent.receivedOf]
  have puts : putsFor c (clientLog
      (log ++ [.received c (framePicture fr), .client (.monitor (.put c converted))])) =
        putsFor c (clientLog log) ++ [converted] := by
    unfold clientLog putsFor
    rw [List.filterMap_append, List.filterMap_append]
    simp [List.filterMap_cons, PipelineEvent.clientOf, DisplayEvent.putFor, Client.Event.putFor]
  refine ⟨fr, rest, rfl, ?_⟩
  rw [List.map_singleton]
  constructor
  · rw [servers]
    exact handOver
  · exact made
  · rw [servers]
    exact encodes
  · rw [servers, List.append_assoc]
    exact written
  · dsimp only
    rw [Function.update_self, pending]
  · rw [receives, arrived, List.map_append]
    rfl
  · rw [puts, receives, List.map_append, List.map_append, put, List.map_singleton, List.map_singleton, same]

end Flow

structure Delivers (sane : Bool) (cam : Cam → Bool) (log : List PipelineEvent) (p : Pipeline) : Prop where
  flows : ∀ c, ∃ done inFlight, Flowing sane (cam c) c log p done inFlight
  order : Displays.InOrder (clientLog log) p.displays

section Runs

variable {sane : Bool} {cam : Cam → Bool} {log : List PipelineEvent} {p next : Pipeline}

theorem Delivers.server (delivers : Delivers sane cam log p) {c : Cam} {action : Camera.Action}
    {calls : List Int32} {server : Camera.Server} {es : List Camera.ServerEvent} {bytes : List UInt8}
    (sound : p.Sound (.server c action calls))
    (taken : stepOnto sane (p.server c) action calls = some (server, es, bytes)) :
    Delivers sane cam (log ++ es.map (.server c)) { p with
      server := Function.update p.server c server
      wire := Function.update p.wire c (p.wire c ++ bytes) } := by
  refine ⟨fun d => ?_, ?_⟩
  · obtain ⟨done, inFlight, flowing⟩ := delivers.flows d
    rcases eq_or_ne d c with rfl | differ
    · obtain ⟨more, flowing⟩ := flowing.server_step sound taken
      exact ⟨done, inFlight ++ more, flowing⟩
    · refine ⟨done, inFlight, flowing.of_same ?_ ?_ (serverLog_other differ.symm es)
        (received_server es) (by rw [clientLog_server])⟩
      · exact Function.update_of_ne differ ..
      · exact Function.update_of_ne differ ..
  · rw [clientLog_server]
    exact delivers.order

theorem Delivers.receive (delivers : Delivers sane cam log p) {c : Cam} {cuts : List Nat} {now : Int64}
    {pic : Client.Picture} {is : InputStream} {displays : Displays} {es : List DisplayEvent}
    (sound : p.Sound (.receive c cuts now))
    (got : PictureReciever.receive ⟨p.wire c, cuts, false⟩ = .ok (some pic) is)
    (taken : Displays.step p.displays (.call (.putPicture now pic c)) = some (displays, es)) :
    Delivers sane cam (log ++ (.received c pic :: es.map .client))
      { p with wire := Function.update p.wire c is.pending, displays := displays } := by
  refine ⟨fun d => ?_, ?_⟩
  · obtain ⟨done, inFlight, flowing⟩ := delivers.flows d
    rcases eq_or_ne d c with rfl | differ
    · obtain ⟨fr, rest, _, later⟩ := flowing.receive sound got taken
      exact ⟨done ++ [fr], rest, later⟩
    · obtain ⟨converted, rfl, _⟩ := step_putPicture taken
      refine ⟨done, inFlight, flowing.of_same rfl (Function.update_of_ne differ ..) ?_ ?_ ?_⟩
      · simp [serverLog, List.filterMap_append, PipelineEvent.serverOf]
      · simp [received, List.filterMap_append, PipelineEvent.receivedOf, differ.symm]
      · unfold clientLog putsFor
        rw [List.filterMap_append, List.filterMap_append]
        simp [List.filterMap_cons, PipelineEvent.clientOf, DisplayEvent.putFor, Client.Event.putFor,
          differ.symm]
  · have clients : clientLog (log ++ (.received c pic :: es.map .client)) = clientLog log ++ es := by
      simp [clientLog, List.filterMap_append, List.filterMap_cons, List.filterMap_map, Function.comp_def,
        PipelineEvent.clientOf]
    rw [clients]
    exact Displays.inOrder_step delivers.order taken

theorem Delivers.client (delivers : Delivers sane cam log p) {action : DisplayAction} {displays : Displays}
    {es : List DisplayEvent} (other : ∀ now pic d, action ≠ .call (.putPicture now pic d))
    (taken : Displays.step p.displays action = some (displays, es)) :
    Delivers sane cam (log ++ es.map .client) { p with displays := displays } := by
  refine ⟨fun d => ?_, ?_⟩
  · obtain ⟨done, inFlight, flowing⟩ := delivers.flows d
    refine ⟨done, inFlight, flowing.of_same rfl rfl (serverLog_client es) (received_client es) ?_⟩
    rw [clientLog_client, putsFor_append, putsFor_step other taken, List.append_nil]
  · rw [clientLog_client]
    exact Displays.inOrder_step delivers.order taken

theorem delivers_step (delivers : Delivers sane cam log p) {action : PipelineAction}
    {es : List PipelineEvent} (sound : p.Sound action)
    (taken : Pipeline.step sane p action = some (next, es)) : Delivers sane cam (log ++ es) next := by
  cases action with
  | server c action calls =>
    cases action with
    | accept => cases taken
    | take | send | update =>
      simp only [Pipeline.step] at taken
      split at taken <;> cases taken
      exact delivers.server sound (by assumption)
  | receive c cuts now =>
    simp only [Pipeline.step] at taken
    split at taken
    · next got =>
      split at taken <;> cases taken
      exact delivers.receive sound got (by assumption)
    · cases taken
  | client action =>
    have others {displays : Displays} {logged : List DisplayEvent}
        (other : ∀ now pic d, action ≠ .call (.putPicture now pic d))
        (taken : Displays.step p.displays action = some (displays, logged)) :
        Delivers sane cam (log ++ logged.map .client) { p with displays := displays } :=
      delivers.client other taken
    cases action with
    | call call =>
      cases call with
      | putPicture => cases taken
      | getPicture | setForcedSync | setMode | setMotionDetected =>
        simp only [Pipeline.step] at taken
        split at taken <;> cases taken
        exact others nofun (by assumption)
    | display d clock =>
      simp only [Pipeline.step] at taken
      split at taken <;> cases taken
      exact others nofun (by assumption)

theorem delivers_start {picPacket : Cam → Memory Camera.BUFSIZE} {packetSz : Cam → Int32} :
    Delivers sane cam [] (.start fun c => .init (picPacket c) (packetSz c) (cam c)) := by
  refine ⟨fun c => ⟨[], [], ?_⟩, Displays.inOrder_fresh⟩
  exact ⟨Camera.handOver_start (.init (picPacket c) (packetSz c) (cam c)) rfl, trivial, .nil, rfl, rfl,
    rfl, rfl⟩

end Runs

/-- At every moment the frames that a camera has saved are, in order, those that arrived, those in
flight and at most one that is not written yet, and the panel of the camera has shown
the data of the first ones that arrived. -/
theorem frames_reach_their_panel {sane : Bool} {picPacket : Cam → Memory Camera.BUFSIZE}
    {packetSz : Cam → Int32} {cam : Cam → Bool} {actions : List PipelineAction} {p : Pipeline}
    {log : List PipelineEvent}
    (sound : Guarded (Pipeline.step sane) Pipeline.Sound
      (.start fun c => .init (picPacket c) (packetSz c) (cam c)) actions)
    (ran : run (Pipeline.step sane) (.start fun c => .init (picPacket c) (packetSz c) (cam c)) actions =
      some (p, log)) (c : Cam) :
    ∃ done inFlight waiting, frames (serverLog c log) = done ++ inFlight ++ waiting ∧
      waiting.length ≤ 1 ∧ p.wire c = inFlight.flatMap frameBytes ∧
      received c log = done.map framePicture ∧
      (shownOn c (clientLog log)).map (Option.map (·.byteStream)) <+:
        done.map fun fr => some (Camera.getFrameBytes fr) := by
  have delivers : Delivers sane cam ([] ++ log) p :=
    @run_invariant_of_guarded _ _ _ (Pipeline.step sane) Pipeline.Sound
      (fun _ log p => Delivers sane cam log p)
      (fun _ _ _ _ _ _ delivers sound taken => delivers_step delivers sound taken) _ _ [] actions [] log
      delivers_start sound ran
  rw [List.nil_append] at delivers
  obtain ⟨done, inFlight, flowing⟩ := delivers.flows c
  obtain ⟨_, counted⟩ := flowing.encodes.written flowing.handOver.balance
  refine ⟨done, inFlight, (frames (serverLog c log)).drop (Camera.sends (serverLog c log)).length, ?_, ?_,
    flowing.wire, flowing.arrived, ?_⟩
  · rw [flowing.written, List.take_append_drop]
  · have few := Camera.length_pending_le (cam c && sane) (p.server c)
    rw [List.length_drop]
    omega
  · -- what was shown was put, and it was put with the data of the frame
    have order := delivers.order
    have shown : shownOn c (clientLog log) <+: (putsFor c (clientLog log)).map some := by
      rw [order.queue c, List.map_append, order.taken c, List.append_assoc]
      exact List.prefix_append _ _
    have data : ((putsFor c (clientLog log)).map some).map (Option.map (·.byteStream)) =
        done.map fun fr => some (Camera.getFrameBytes fr) := by
      have put := congrArg (List.map some) flowing.put
      rw [flowing.arrived, List.map_map, List.map_map, List.map_map] at put
      rw [List.map_map]
      exact put
    rw [← data]
    exact shown.map _

instance (p : Pipeline) : (action : PipelineAction) → Decidable (p.Sound action)
  | .server _ _ calls =>
    have := List.decidableBAll (fun tmp : Int32 => 0 < tmp) calls
    inferInstanceAs (Decidable (_ ∧ _ ∧ _))
  | .receive _ _ _ => inferInstanceAs (Decidable (_ ∧ _))
  | .client _ => inferInstanceAs (Decidable True)

def oneFrame : List PipelineAction :=
  (Camera.takeTurn (some ⟨[1, 2, 3], 5000000⟩) ++ Camera.sendTurn).map
    (PipelineAction.server .one · [13]) ++
    [.receive .one [4, 8] 1000] ++ List.replicate 7 (.client (.display .one ⟨1010, 1010, 1010, 1010, 1010⟩))

theorem frames_reach_their_panel_one : ∃ p log,
    run (Pipeline.step true) (.start fun _ => .init (.filled _ 0) 0 true) oneFrame = some (p, log) ∧
      shownOn .one (clientLog log) = [some ⟨[1, 2, 3], 1000⟩] ∧
      ∃ done inFlight waiting, frames (serverLog .one log) = done ++ inFlight ++ waiting ∧
        waiting.length ≤ 1 ∧ p.wire .one = inFlight.flatMap frameBytes ∧
        received .one log = done.map framePicture ∧
        (shownOn .one (clientLog log)).map (Option.map (·.byteStream)) <+:
          done.map fun fr => some (Camera.getFrameBytes fr) := by
  have finishes : (run (Pipeline.step true) (.start fun _ => .init (.filled _ 0) 0 true) oneFrame).map
      (fun reached => shownOn .one (clientLog reached.2)) = some [some ⟨[1, 2, 3], 1000⟩] := by
    decide +kernel
  obtain ⟨⟨p, log⟩, ran, shown⟩ := Option.map_eq_some_iff.mp finishes
  exact ⟨p, log, ran, shown, frames_reach_their_panel (by decide +kernel) ran .one⟩

end NetCam.Network
