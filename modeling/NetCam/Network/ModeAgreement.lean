import NetCam.Camera.ModeHistory
import NetCam.Network.ModeChannel

/-! When client and camera agree on the mode.

`ModeSender` and the server agree as long as every byte written arrives: the mode the
server will be in once it has read everything is the one the sender recorded. A write
that throws breaks this for good, since the mode has been recorded and is not sent again.
-/

set_option autoImplicit false

namespace NetCam.Network

open Semantics

def modeOfByte (b : UInt8) : Int32 := b.toInt8.toInt32

def outcome (mode : Int32) (bytes : List UInt8) : Int32 := bytes.foldl (fun _ b => modeOfByte b) mode

namespace Channel

-- The mode the server has set, or is just about to set.
def applied (s : Channel) : Int32 :=
  if s.server.update = .setMode then modeOfByte s.server.buf else s.server.shared.camMon.mode

theorem applied_of_ne (s : Channel) (away : s.server.update ≠ .setMode) :
    s.applied = s.server.shared.camMon.mode := if_neg away

def outstanding (s : Channel) : List UInt8 :=
  match s.sender.socket with
  | some socket => (s.connections socket).unread
  | none => []

-- The server has read and applied every byte written on the sender's connection.
def Consumed (s : Channel) : Prop :=
  s.outstanding = [] ∧ ¬ (s.server.update = .setMode ∧ s.sender.socket = some s.serving)

/-- The sender waiting for a new mode on an active connection, all its bytes consumed, the
camera is in the mode to be sent. -/
def Agrees (s : Channel) : Prop :=
  s.sender.position = .getNewMode → s.cMon.getNewMode s.sender.mode = .error .waits →
    s.monitor.isActive = true → s.Consumed → s.server.shared.camMon.mode = s.cMon.modeToSend

/-- The steps at which no mode is lost. A write succeeds, on a connection that still works. A
loss drops no byte that mattered. At the end of a connection the buffer of the server
holds the mode it is in. A new socket is used when the old one has been read to the end. -/
def Survives (s : Channel) : ChannelAction → Prop
  | .sender fails =>
    match s.sender.position with
    | .getSocket =>
      s.outstanding = [] ∧
        (s.server.update = .setMode → modeOfByte s.server.buf = s.server.shared.camMon.mode)
    | .write => fails = false ∧ ∀ socket ∈ s.sender.socket, (s.connections socket).lost = false
    | _ => True
  | .lose socket kept =>
    outcome s.applied ((s.connections socket).unread.take kept) =
      outcome s.applied (s.connections socket).unread
  | .server (.update .endOfFile) =>
    s.server.update = .read → modeOfByte s.server.buf = s.server.shared.camMon.mode
  | _ => True

structure InStep (s : Channel) : Prop where
  requested : s.cMon.modeToSend = 0 ∨ s.cMon.modeToSend = 1
  recorded : s.sender.mode = 0 ∨ s.sender.mode = 1
  elsewhere : ∀ socket, s.sender.socket ≠ some socket → (s.connections socket).unread = []
  settled : s.sender.position ≠ .write → outcome s.applied s.outstanding = s.sender.mode
  pending : s.server.update = .setMode → s.sender.socket ≠ some s.serving →
    modeOfByte s.server.buf = s.server.shared.camMon.mode

theorem inStep_start {camMon : Camera.CameraMonitor} (idle : camMon.mode = Camera.IDLE_MODE) :
    (start camMon).InStep where
  requested := .inl rfl
  recorded := .inl rfl
  elsewhere _ _ := rfl
  settled _ := idle
  pending := nofun

theorem InStep.agrees {s : Channel} (inStep : s.InStep) : s.Agrees := by
  intro at_ waits _ consumed
  obtain ⟨nothing, done⟩ := consumed
  have same : s.sender.mode = s.cMon.modeToSend := by
    unfold Client.ClientMonitor.getNewMode at waits
    split at waits
    · assumption
    · cases waits
  have settled := inStep.settled (by rw [at_]; decide)
  rw [nothing, same] at settled
  change s.applied = _ at settled
  unfold applied at settled
  split at settled
  · next setting =>
    rw [← settled]
    exact (inStep.pending setting (fun own => done ⟨setting, own⟩)).symm
  · exact settled

theorem modeOfByte_pack {mode : Int32} (bit : mode = 0 ∨ mode = 1) : modeOfByte (pack mode) = mode := by
  rcases bit with rfl | rfl <;> decide

theorem requested_step {cm next : Client.ClientMonitor} {call : Client.Call} {es : List Client.Event}
    (bit : cm.modeToSend = 0 ∨ cm.modeToSend = 1) (taken : cm.step call = some (next, es)) :
    next.modeToSend = 0 ∨ next.modeToSend = 1 := by
  cases call with
  | putPicture now pic c =>
    obtain ⟨done, _⟩ := Client.ClientMonitor.step_putPicture taken
    rw [(Client.ClientMonitor.putPicture_stores done).modeToSend, Client.ClientMonitor.store_modeToSend]
    exact bit
  | getPicture c =>
    obtain ⟨pic, rest, _, _, rfl, _⟩ := Client.ClientMonitor.step_getPicture taken
    cases c <;> exact bit
  | setForcedSync sync => cases taken; cases sync <;> exact bit
  | setMode mode =>
    cases taken
    cases mode with
    | auto => exact bit
    | idle => exact .inl rfl
    | movie => exact .inr rfl
  | setMotionDetected c detected =>
    cases taken
    rw [Client.ClientMonitor.setMotionDetected_modeToSend]
    split
    · split
      · exact .inr rfl
      · exact .inl rfl
    · exact bit

section Steps

variable {sane : Bool} {s next : Channel} {es : List Camera.ServerEvent}

theorem InStep.move (inStep : s.InStep) (before : s.sender.position ≠ .write)
    (monitor : NetMonitor Nat) (position : Sending) :
    InStep { s with monitor := monitor, sender := { s.sender with position := position } } :=
  ⟨inStep.requested, inStep.recorded, inStep.elsewhere, fun _ => inStep.settled before, inStep.pending⟩

theorem InStep.attach (inStep : s.InStep) (before : s.sender.position ≠ .write)
    (drained : s.outstanding = [])
    (finished : s.server.update = .setMode → modeOfByte s.server.buf = s.server.shared.camMon.mode)
    (monitor : NetMonitor Nat) (socket : Nat) :
    InStep { s with
      monitor := monitor
      sender := { s.sender with socket := some socket, position := .getNewMode } } := by
  -- the old connection was read to the end, and nothing was ever left on the others
  have empty : ∀ k, (s.connections k).unread = [] := by
    intro k
    by_cases own : s.sender.socket = some k
    · unfold outstanding at drained
      rw [own] at drained
      exact drained
    · exact inStep.elsewhere k own
  refine ⟨inStep.requested, inStep.recorded, fun k _ => empty k, ?_, fun setting _ => finished setting⟩
  intro _
  have settled := inStep.settled before
  rw [drained] at settled
  change outcome s.applied (s.connections socket).unread = _
  rw [empty socket]
  exact settled

theorem InStep.wrote (inStep : s.InStep) {socket : Nat} (own : s.sender.socket = some socket)
    (works : (s.connections socket).lost = false) (monitor : NetMonitor Nat) :
    InStep { s with
      monitor := monitor
      sender := { s.sender with position := .flush }
      connections := s.put socket (pack s.sender.mode) } := by
  have put : s.put socket (pack s.sender.mode) = Function.update s.connections socket
      { s.connections socket with
        unread := (s.connections socket).unread ++ [pack s.sender.mode] } := by
    unfold Channel.put
    rw [if_neg (by rw [works]; decide)]
  refine ⟨inStep.requested, inStep.recorded, ?_, ?_, inStep.pending⟩
  · intro k other
    have differ : k ≠ socket := by
      rintro rfl
      exact other own
    change (s.put socket (pack s.sender.mode) k).unread = []
    rw [put, Function.update_of_ne differ]
    exact inStep.elsewhere k other
  · intro _
    simp only [outstanding, own, put, Function.update_self]
    rw [outcome, List.foldl_append]
    exact modeOfByte_pack inStep.recorded

theorem InStep.sender (inStep : s.InStep) {fails : Bool} (survives : s.Survives (.sender fails))
    (taken : step sane s (.sender fails) = some (next, es)) : next.InStep := by
  simp only [step, modeSender] at taken
  cases at_ : s.sender.position with
  | getNewMode =>
    simp only [at_, Client.ClientMonitor.getNewMode] at taken
    split at taken
    · next found =>
      split at found
      · next recorded =>
        split at recorded <;> cases recorded
        cases found
        cases taken
        -- the mode counts as recorded from here on, although no byte has been written
        exact ⟨inStep.requested, inStep.requested, inStep.elsewhere, fun away => absurd rfl away, inStep.pending⟩
      · cases found
    · next found => split at found <;> cases found
    · cases taken
  | write =>
    simp only [Survives, at_] at survives
    obtain ⟨rfl, works⟩ := survives
    simp only [at_, Bool.false_eq_true, if_false] at taken
    split at taken
    · next socket own =>
      cases taken
      exact inStep.wrote own (works socket own) s.monitor
    · cases taken
  | getSocket =>
    have before : s.sender.position ≠ .write := by rw [at_]; decide
    simp only [Survives, at_] at survives
    simp only [at_] at taken
    cases fails with
    | true => cases taken; exact inStep.move before _ _
    | false =>
      cases current : s.monitor.getSocket with
      | none => simp only [current] at taken; cases taken
      | some socket =>
        simp only [current] at taken
        cases taken
        exact inStep.attach before survives.1 survives.2 _ _
  | waitUntilActive =>
    have before : s.sender.position ≠ .write := by rw [at_]; decide
    simp only [at_] at taken
    cases active : s.monitor.waitUntilActive with
    | true => simp only [active] at taken; cases taken; exact inStep.move before _ _
    | false => simp only [active] at taken; cases taken
  | flush =>
    have before : s.sender.position ≠ .write := by rw [at_]; decide
    simp only [at_] at taken
    cases fails <;> cases taken <;> exact inStep.move before _ _
  | loop | sleep =>
    have before : s.sender.position ≠ .write := by rw [at_]; decide
    simp only [at_] at taken
    cases taken
    exact inStep.move before _ _
  | exited => simp only [at_] at taken; cases taken

theorem InStep.connector (inStep : s.InStep) {fails : Bool}
    (taken : step sane s (.connector fails) = some (next, es)) : next.InStep := by
  simp only [step] at taken
  split at taken
  · next monitor opened closed connecting _ =>
    cases taken
    cases closed with
    | none => exact ⟨inStep.requested, inStep.recorded, inStep.elsewhere, inStep.settled, inStep.pending⟩
    | some socket =>
      have same : ∀ k, (Function.update s.connections socket
          { s.connections socket with closed := true } k).unread = (s.connections k).unread := by
        intro k
        rcases eq_or_ne k socket with rfl | differ
        · rw [Function.update_self]
        · rw [Function.update_of_ne differ]
      refine ⟨inStep.requested, inStep.recorded, ?_, ?_, inStep.pending⟩
      · intro k other
        exact (same k).trans (inStep.elsewhere k other)
      · intro before
        have settled := inStep.settled before
        unfold outstanding at settled ⊢
        simp only [same]
        exact settled
  · cases taken

theorem InStep.lose (inStep : s.InStep) {socket kept : Nat} (survives : s.Survives (.lose socket kept))
    (taken : step sane s (.lose socket kept) = some (next, es)) : next.InStep := by
  simp only [step] at taken
  split at taken
  · cases taken
    refine ⟨inStep.requested, inStep.recorded, ?_, ?_, inStep.pending⟩
    · intro k other
      have empty := inStep.elsewhere k other
      change (Function.update s.connections socket _ k).unread = []
      rcases eq_or_ne k socket with rfl | differ
      · rw [Function.update_self]
        change (s.connections k).unread.take kept = []
        rw [empty, List.take_nil]
      · rw [Function.update_of_ne differ, empty]
    · intro before
      have settled := inStep.settled before
      unfold outstanding at settled ⊢
      cases own : s.sender.socket with
      | none =>
        simp only [own] at settled ⊢
        exact settled
      | some k =>
        simp only [own] at settled ⊢
        rcases eq_or_ne k socket with rfl | differ
        · rw [Function.update_self]
          exact survives.trans settled
        · rw [Function.update_of_ne differ]
          exact settled
  · cases taken

theorem InStep.server_same (inStep : s.InStep) {server : Camera.Server} {accepted : Nat}
    (mode : server.shared.camMon.mode = s.applied) (quiet : server.update ≠ .setMode) :
    InStep { s with server := server, accepted := accepted } := by
  have same : Channel.applied { s with server := server, accepted := accepted } = s.applied :=
    (applied_of_ne _ quiet).trans mode
  refine ⟨inStep.requested, inStep.recorded, inStep.elsewhere, ?_, fun setting => absurd setting quiet⟩
  intro before
  rw [same]
  exact inStep.settled before

theorem InStep.server_kept (inStep : s.InStep) {server : Camera.Server}
    (mode : server.shared.camMon.mode = s.server.shared.camMon.mode)
    (update : server.update = s.server.update) (buf : server.buf = s.server.buf) :
    InStep { s with server := server } := by
  have same : Channel.applied { s with server := server } = s.applied := by
    simp only [applied, mode, update, buf]
  refine ⟨inStep.requested, inStep.recorded, inStep.elsewhere, ?_, ?_⟩
  · intro before
    rw [same]
    exact inStep.settled before
  · simp only [mode, update, buf]
    exact inStep.pending

/-- The server reads the oldest byte outstanding. -/
theorem InStep.read (inStep : s.InStep) {b : UInt8} {rest : List UInt8}
    (first : (s.connections s.serving).unread = b :: rest) :
    InStep { s with
      server := { s.server with buf := b, update := .setMode }
      connections := Function.update s.connections s.serving
        { s.connections s.serving with unread := rest } } := by
  have own : s.sender.socket = some s.serving := by
    by_contra other
    rw [inStep.elsewhere _ other] at first
    cases first
  refine ⟨inStep.requested, inStep.recorded, ?_, ?_, fun _ other => absurd own other⟩
  · intro k other
    have differ : k ≠ s.serving := by
      rintro rfl
      exact other own
    change (Function.update s.connections s.serving _ k).unread = []
    rw [Function.update_of_ne differ]
    exact inStep.elsewhere k other
  · intro before
    have settled := inStep.settled before
    simp only [outstanding, own, first] at settled
    simp only [outstanding, own, Function.update_self, applied, if_true]
    exact settled

/-- At the end of a connection the mode is set to what the buffer holds, which it is already. -/
theorem InStep.ended (inStep : s.InStep) (reading : s.server.update = .read)
    (same : modeOfByte s.server.buf = s.server.shared.camMon.mode) :
    InStep { s with server := { s.server with
      shared := { s.server.shared with isConnected := false }, update := .setMode } } := by
  refine ⟨inStep.requested, inStep.recorded, inStep.elsewhere, ?_, fun _ _ => same⟩
  intro before
  have settled := inStep.settled before
  rw [s.applied_of_ne (by rw [reading]; decide)] at settled
  unfold applied
  rw [if_pos rfl, same]
  exact settled

theorem deliver_byte {connection after : Connection} {b : UInt8}
    (delivered : connection.deliver (.byte b) = some after) :
    ∃ rest, connection.unread = b :: rest ∧ after = { connection with unread := rest } := by
  simp only [Connection.deliver] at delivered
  split at delivered
  · next first rest held =>
    split at delivered
    · next same =>
      cases delivered
      exact ⟨rest, same ▸ held, rfl⟩
    · cases delivered
  · cases delivered

theorem deliver_same {connection after : Connection} {arrived : Camera.ModeRead}
    (quiet : ∀ b, arrived ≠ .byte b) (delivered : connection.deliver arrived = some after) :
    after = connection := by
  cases arrived with
  | byte b => exact absurd rfl (quiet b)
  | endOfFile | error =>
    simp only [Connection.deliver] at delivered
    split at delivered <;> cases delivered
    rfl

theorem InStep.update (inStep : s.InStep) {arrived : Camera.ModeRead}
    (survives : s.Survives (.server (.update arrived)))
    (taken : step sane s (.server (.update arrived)) = some (next, es)) : next.InStep := by
  simp only [step, Camera.Server.step, Camera.updateModeTask] at taken
  cases at_ : s.server.update with
  | read =>
    have applied_mode := s.applied_of_ne (by rw [at_]; decide)
    simp only [at_, if_true] at taken
    split at taken
    · next after delivered =>
      cases arrived with
      | byte b =>
        obtain ⟨rest, first, rfl⟩ := deliver_byte delivered
        cases taken
        exact inStep.read first
      | endOfFile =>
        cases deliver_same (by simp) delivered
        cases taken
        rw [Function.update_eq_self]
        exact inStep.ended at_ (survives at_)
      | error =>
        cases deliver_same (by simp) delivered
        cases taken
        rw [Function.update_eq_self]
        exact inStep.server_same applied_mode.symm (by simp)
    · cases taken
  | setMode =>
    -- what was about to be set is set
    have applied_mode : s.applied = modeOfByte s.server.buf := by
      unfold applied
      rw [at_, if_pos rfl]
    simp only [at_, reduceCtorEq, if_false, Function.update_eq_self] at taken
    cases taken
    exact inStep.server_same applied_mode.symm (by simp)
  | test =>
    have applied_mode := s.applied_of_ne (by rw [at_]; decide)
    simp only [at_, reduceCtorEq, if_false, Function.update_eq_self] at taken
    cases taken
    refine inStep.server_same applied_mode.symm ?_
    split <;> simp
  | close =>
    have applied_mode := s.applied_of_ne (by rw [at_]; decide)
    simp only [at_, reduceCtorEq, if_false, Function.update_eq_self] at taken
    cases taken
    exact inStep.server_same applied_mode.symm (by simp)
  | returned =>
    simp only [at_, reduceCtorEq, if_false] at taken

theorem InStep.accept (inStep : s.InStep)
    (taken : step sane s (.server .accept) = some (next, es)) : next.InStep := by
  simp only [step] at taken
  split at taken
  · split at taken
    · next server es joined =>
      cases taken
      cases Camera.Server.step_moves joined with
      | accept _ _ done =>
        have applied_mode := s.applied_of_ne (by rw [done]; decide)
        exact inStep.server_same applied_mode.symm (by simp)
    · cases taken
  · cases taken

theorem InStep.picture (inStep : s.InStep) {action : Camera.Action}
    (mode : ∀ arrived, action ≠ .update arrived) (client : action ≠ .accept)
    (taken : step sane s (.server action) = some (next, es)) : next.InStep := by
  cases action with
  | take captured stack =>
    simp only [step] at taken
    split at taken
    · next server es stepped =>
      cases taken
      cases Camera.Server.step_moves stepped with
      | take task => exact inStep.server_kept (Camera.takePictureTask_mode task).1 rfl rfl
    · cases taken
  | send written =>
    simp only [step] at taken
    split at taken
    · next server es stepped =>
      cases taken
      cases Camera.Server.step_moves stepped with
      | send task => exact inStep.server_kept (Camera.sendPictureTask_mode task).1 rfl rfl
    · cases taken
  | update arrived => exact absurd rfl (mode arrived)
  | accept => exact absurd rfl client

theorem inStep_step {action : ChannelAction} (inStep : s.InStep) (survives : s.Survives action)
    (taken : step sane s action = some (next, es)) : next.InStep := by
  cases action with
  | call call =>
    simp only [step] at taken
    split at taken
    · next cMon _ called =>
      cases taken
      exact ⟨requested_step inStep.requested called, inStep.recorded, inStep.elsewhere,
        inStep.settled, inStep.pending⟩
    · cases taken
  | sender fails => exact inStep.sender survives taken
  | connector fails => exact inStep.connector taken
  | lose socket kept => exact inStep.lose survives taken
  | server action =>
    cases action with
    | update arrived => exact inStep.update survives taken
    | accept => exact inStep.accept taken
    | take _ _ | send _ => exact inStep.picture (by simp) (by simp) taken

end Steps

end Channel

open Channel

/-- In every run of the channel in which no mode is lost on the way, client and camera agree
whenever the sender has nothing to do and the camera has read all it was sent. -/
theorem mode_agreement {sane : Bool} {picPacket : Memory Camera.BUFSIZE} {packetSz : Int32}
    {cam : Bool} {actions : List ChannelAction} {s : Channel} {log : List Camera.ServerEvent}
    (survives : Guarded (Channel.step sane) Channel.Survives
      (.start (.init picPacket packetSz cam)) actions)
    (ran : run (Channel.step sane) (.start (.init picPacket packetSz cam)) actions = some (s, log)) :
    s.Agrees := by
  have inStep := run_preserves_of_guarded (Channel.step sane) Channel.Survives Channel.InStep
    (fun _ _ _ _ inStep survives taken => inStep_step inStep survives taken)
    (inStep_start rfl) survives ran
  exact inStep.agrees

instance (s : Channel) : Decidable s.Consumed := by
  unfold Channel.Consumed
  infer_instance

instance (s : Channel) (action : ChannelAction) : Decidable (s.Survives action) := by
  unfold Channel.Survives
  repeat' split
  all_goals infer_instance

def movieChosen : List ChannelAction :=
  List.replicate 4 (.connector false) ++ List.replicate 3 (.sender false) ++
    [.call (.setMode .movie), .sender false]

def reconnected : List ChannelAction :=
  List.replicate 6 (.connector false) ++ List.replicate 3 (.sender false)

def flushFails : List ChannelAction :=
  movieChosen ++
    [.sender false, .server .accept, .server (.update .error), .server (.update (.byte 1)),
      .server (.update .error), .sender true] ++
    reconnected ++ List.replicate 5 (.server (.update .endOfFile))

theorem flush_failure_survived : ∃ s log,
    run (Channel.step true) (.start (.init (.filled _ 0) 0 true)) flushFails = some (s, log) ∧
      s.server.shared.camMon.mode = 1 ∧ s.Agrees := by
  have finishes : (run (Channel.step true) (.start (.init (.filled _ 0) 0 true)) flushFails).map
      (fun reached => reached.1.server.shared.camMon.mode) = some 1 := by decide +kernel
  obtain ⟨⟨s, log⟩, ran, mode⟩ := Option.map_eq_some_iff.mp finishes
  exact ⟨s, log, ran, mode, mode_agreement (by decide +kernel) ran⟩

def writeFails : List ChannelAction :=
  movieChosen ++ [.lose 0 0, .sender true] ++ reconnected ++ [.server .accept] ++
    List.replicate 5 (.server (.update .endOfFile)) ++
    List.replicate 2 (.server (.take none (.filled _ 0))) ++ List.replicate 2 (.server (.send 0)) ++
    [.server .accept, .server (.update .error)]

/-- The sender waits with the movie mode recorded, and the camera stays idle. -/
theorem write_failure_loses_mode : ∃ s log,
    run (Channel.step true) (.start (.init (.filled _ 0) 0 true)) writeFails = some (s, log) ∧
      s.server.update = .read ∧ s.server.shared.camMon.mode = 0 ∧ s.cMon.modeToSend = 1 ∧
      ¬ s.Agrees := by
  have finishes : (run (Channel.step true) (.start (.init (.filled _ 0) 0 true)) writeFails).map
      (fun reached => decide (reached.1.server.update = .read ∧
        reached.1.server.shared.camMon.mode = 0 ∧ reached.1.cMon.modeToSend = 1 ∧
        reached.1.sender.position = .getNewMode ∧ reached.1.sender.mode = 1 ∧
        reached.1.monitor.isActive = true ∧ reached.1.Consumed)) = some true := by decide +kernel
  obtain ⟨⟨s, log⟩, ran, reached⟩ := Option.map_eq_some_iff.mp finishes
  obtain ⟨reading, idle, movie, at_, recorded, active, consumed⟩ := of_decide_eq_true reached
  refine ⟨s, log, ran, reading, idle, movie, ?_⟩
  intro agrees
  have waits : s.cMon.getNewMode s.sender.mode = .error .waits := by
    unfold Client.ClientMonitor.getNewMode
    rw [if_pos (recorded.trans movie.symm)]
  have same := agrees at_ waits active consumed
  rw [idle, movie] at same
  cases same

end NetCam.Network
