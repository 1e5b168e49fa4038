import NetCam.Camera.Server

/-! The packet slot between `take_picture_task` and `send_picture_task`.

The task that works holds `global_mutex` and has the turn, so the other one is not at
work. A packet is in the slot from the end of a take to the end of the next send, and
that is the whole difference between what was saved and what was sent.
-/

set_option autoImplicit false

namespace NetCam.Camera

open Semantics

namespace Position

variable {Stage : Type}

def holds : Position Stage → Bool
  | check | condWait | work _ | flip | unlock => true
  | _ => false

/-- The task is on its turn: it works, or has worked and not yet passed the turn on. -/
def busy : Position Stage → Bool
  | work _ | flip => true
  | _ => false

def flipping : Position Stage → Bool
  | flip => true
  | _ => false

theorem holds_of_busy {position : Position Stage} (busy : position.busy = true) :
    position.holds = true := by
  cases position <;> first | rfl | cases busy

theorem not_flipping_of_idle {position : Position Stage} (idle : position.busy = false) :
    position.flipping = false := by
  cases position <;> first | rfl | cases idle

theorem eq_flip {position : Position Stage} (late : position.flipping = true) : position = .flip := by
  cases position <;> first | rfl | cases late

def AtWork (P : Stage → Prop) : Position Stage → Prop
  | work stage => P stage
  | _ => True

theorem atWork_of_idle {P : Stage → Prop} {position : Position Stage} (idle : position.busy = false) :
    position.AtWork P := by
  cases position <;> trivial

end Position

/-- What one step of a picture task does to the lock and the turn. -/
structure Disciplined {Stage : Type} (task : Task) (shared next : Shared) (p q : Position Stage) :
    Prop where
  locked : q.holds = true ↔ next.globalMutex = some task
  others : ∀ other, other ≠ task → (next.globalMutex = some other ↔ shared.globalMutex = some other)
  turn : q.busy = true → next.camMon.picTakeSend = task.turn
  kept : p.busy = false → next.camMon.picTakeSend = shared.camMon.picTakeSend
  camera : next.camMon.cam = shared.camMon.cam

theorem outline_disciplined {Stage : Type} {task : Task} {first : Stage} {shared next : Shared}
    {p q : Position Stage} {es : List ServerEvent}
    (taken : outline task first shared p = some (next, q, es))
    (locked : p.holds = true ↔ shared.globalMutex = some task) :
    Disciplined task shared next p q := by
  cases p with
  | test =>
    cases taken
    refine ⟨?_, fun _ _ => .rfl, ?_, fun _ => rfl, rfl⟩
    · cases shared.isConnected <;> exact locked
    · cases shared.isConnected <;> nofun
  | lock | relock =>
    simp only [outline] at taken
    split at taken
    · next free =>
      cases taken
      refine ⟨by simp [Position.holds], ?_, nofun, fun _ => rfl, rfl⟩
      intro other differ
      simp [free, Ne.symm differ]
    · cases taken
  | check =>
    cases taken
    refine ⟨?_, fun _ _ => .rfl, ?_, fun _ => rfl, rfl⟩
    · split <;> exact locked
    · split
      · nofun
      · next own =>
        intro _
        exact Classical.not_not.mp own
  | condWait | unlock =>
    cases taken
    have own := locked.mp rfl
    refine ⟨by simp [Position.holds], ?_, nofun, fun _ => rfl, rfl⟩
    intro other differ
    simp [own, Ne.symm differ]
  | flip =>
    cases taken
    refine ⟨locked, fun _ _ => .rfl, nofun, nofun, ?_⟩
    unfold CameraMonitor.flipPicTakeSend
    split <;> rfl
  | waiting | broadcast | close =>
    cases taken
    exact ⟨locked, fun _ _ => .rfl, nofun, fun _ => rfl, rfl⟩
  | work _ | returned => cases taken

theorem outline_quiet {Stage : Type} {task : Task} {first : Stage} {shared next : Shared}
    {p q : Position Stage} {es : List ServerEvent} {P : Stage → Prop}
    (taken : outline task first shared p = some (next, q, es)) (start : P first) :
    q.flipping = false ∧ q.AtWork P ∧ (p.flipping = false → next.camMon = shared.camMon) ∧
      (es = [] ∨ es = [.closedConnfd task]) := by
  cases p with
  | test =>
    cases taken
    cases shared.isConnected <;> exact ⟨rfl, trivial, fun _ => rfl, .inl rfl⟩
  | lock | relock =>
    simp only [outline] at taken
    split at taken
    · cases taken
      exact ⟨rfl, trivial, fun _ => rfl, .inl rfl⟩
    · cases taken
  | check =>
    cases taken
    split
    · exact ⟨rfl, trivial, fun _ => rfl, .inl rfl⟩
    · exact ⟨rfl, start, fun _ => rfl, .inl rfl⟩
  | flip =>
    cases taken
    exact ⟨rfl, trivial, nofun, .inl rfl⟩
  | condWait | unlock | waiting | broadcast =>
    cases taken
    exact ⟨rfl, trivial, fun _ => rfl, .inl rfl⟩
  | close =>
    cases taken
    exact ⟨rfl, trivial, fun _ => rfl, .inr rfl⟩
  | work _ | returned => cases taken

def ServerEvent.packetSaved : ServerEvent → Option (Memory BUFSIZE × Int32)
  | .saved _ picPacket packetSz => some (picPacket, packetSz)
  | _ => none

def ServerEvent.packetSent : ServerEvent → Option (Memory BUFSIZE × Int32)
  | .wrote picPacket packetSz _ => some (picPacket, packetSz)
  | _ => none

def saves (log : List ServerEvent) : List (Memory BUFSIZE × Int32) :=
  log.filterMap ServerEvent.packetSaved

def sends (log : List ServerEvent) : List (Memory BUFSIZE × Int32) :=
  log.filterMap ServerEvent.packetSent

/-- The variables of a stage agree with the slot. Past the tests for the camera and the size
check, both have succeeded. -/
def TakeStage.Agrees (active : Bool) (camMon : CameraMonitor) : TakeStage → Prop
  | .getMode | .capture => True
  | .savePacketSize _ _ _ => active = true
  | .savePacket _ packetSz _ => active = true ∧ camMon.packetSz = packetSz

def SendStage.Agrees (active : Bool) (camMon : CameraMonitor) : SendStage → Prop
  | .getPacket => True
  | .getPacketSize picPacket => active = true ∧ picPacket = camMon.picPacket
  | .clientWriteN picPacket packetSz =>
    active = true ∧ picPacket = camMon.picPacket ∧ packetSz = camMon.packetSz

/-- The packet that has been saved and not been sent. -/
def Server.pending (active : Bool) (s : Server) : List (Memory BUFSIZE × Int32) :=
  if active &&
      (s.take.flipping || (s.shared.camMon.picTakeSend = SEND_PIC_STATE && !s.send.flipping)) then
    [(s.shared.camMon.picPacket, s.shared.camMon.packetSz)]
  else []

namespace Server

variable {active : Bool} {s : Server}

theorem pending_inactive (off : active = false) : s.pending active = [] := by
  simp [pending, off]

theorem pending_taking (turn : s.shared.camMon.picTakeSend = TAKE_PIC_STATE)
    (early : s.take.flipping = false) : s.pending active = [] := by
  have other : ¬ TAKE_PIC_STATE = SEND_PIC_STATE := by decide
  simp [pending, turn, early, other]

theorem pending_taken (on : active = true) (late : s.take.flipping = true) :
    s.pending active = [(s.shared.camMon.picPacket, s.shared.camMon.packetSz)] := by
  simp [pending, on, late]

theorem pending_sending (on : active = true) (turn : s.shared.camMon.picTakeSend = SEND_PIC_STATE)
    (early : s.send.flipping = false) :
    s.pending active = [(s.shared.camMon.picPacket, s.shared.camMon.packetSz)] := by
  simp [pending, on, turn, early]

theorem pending_sent (idle : s.take.flipping = false) (late : s.send.flipping = true) :
    s.pending active = [] := by
  simp [pending, idle, late]

end Server

structure HandOver (sane cam : Bool) (log : List ServerEvent) (s : Server) : Prop where
  camera : s.shared.camMon.cam = cam
  takeLocked : s.take.holds = true ↔ s.shared.globalMutex = some .take
  sendLocked : s.send.holds = true ↔ s.shared.globalMutex = some .send
  takeTurn : s.take.busy = true → s.shared.camMon.picTakeSend = TAKE_PIC_STATE
  sendTurn : s.send.busy = true → s.shared.camMon.picTakeSend = SEND_PIC_STATE
  taking : s.take.AtWork (TakeStage.Agrees (cam && sane) s.shared.camMon)
  sending : s.send.AtWork (SendStage.Agrees (cam && sane) s.shared.camMon)
  balance : saves log = sends log ++ s.pending (cam && sane)

section Invariant

variable {sane cam : Bool} {log es : List ServerEvent} {s : Server}

theorem handOver_start (camMon : CameraMonitor) (turn : camMon.picTakeSend = TAKE_PIC_STATE) :
    HandOver sane camMon.cam [] (.start camMon) := by
  refine ⟨rfl, ⟨nofun, nofun⟩, ⟨nofun, nofun⟩, nofun, nofun, trivial, trivial, ?_⟩
  have early : ¬ camMon.picTakeSend = SEND_PIC_STATE := by
    rw [turn]
    decide
  simp [saves, sends, Server.pending, Server.start, Position.flipping, early]

theorem HandOver.send_idle (inv : HandOver sane cam log s) (busy : s.take.busy = true) :
    s.send.busy = false := by
  by_contra both
  have first := inv.takeLocked.mp (Position.holds_of_busy busy)
  have second := inv.sendLocked.mp (Position.holds_of_busy (Bool.not_eq_false _ ▸ both))
  cases first.symm.trans second

theorem HandOver.take_idle (inv : HandOver sane cam log s) (busy : s.send.busy = true) :
    s.take.busy = false := by
  by_contra both
  have first := inv.takeLocked.mp (Position.holds_of_busy (Bool.not_eq_false _ ▸ both))
  have second := inv.sendLocked.mp (Position.holds_of_busy busy)
  cases first.symm.trans second

/-- The part of the invariant that does not depend on what the step is. -/
theorem HandOver.after_take (inv : HandOver sane cam log s) {next : Shared} {q : Position TakeStage}
    (disciplined : Disciplined .take s.shared next s.take q)
    (taking : q.AtWork (TakeStage.Agrees (cam && sane) next.camMon))
    (sending : s.send.AtWork (SendStage.Agrees (cam && sane) next.camMon))
    (balance : saves (log ++ es) = sends (log ++ es) ++
      Server.pending (cam && sane) { s with shared := next, take := q }) :
    HandOver sane cam (log ++ es) { s with shared := next, take := q } where
  camera := disciplined.camera.trans inv.camera
  takeLocked := disciplined.locked
  sendLocked := inv.sendLocked.trans (disciplined.others .send nofun).symm
  takeTurn := disciplined.turn
  sendTurn busy := (disciplined.kept (inv.take_idle busy)).trans (inv.sendTurn busy)
  taking := taking
  sending := sending
  balance := balance

theorem HandOver.after_send (inv : HandOver sane cam log s) {next : Shared} {q : Position SendStage}
    (disciplined : Disciplined .send s.shared next s.send q)
    (taking : s.take.AtWork (TakeStage.Agrees (cam && sane) next.camMon))
    (sending : q.AtWork (SendStage.Agrees (cam && sane) next.camMon))
    (balance : saves (log ++ es) = sends (log ++ es) ++
      Server.pending (cam && sane) { s with shared := next, send := q }) :
    HandOver sane cam (log ++ es) { s with shared := next, send := q } where
  camera := disciplined.camera.trans inv.camera
  takeLocked := inv.takeLocked.trans (disciplined.others .take nofun).symm
  sendLocked := disciplined.locked
  takeTurn busy := (disciplined.kept (inv.send_idle busy)).trans (inv.takeTurn busy)
  sendTurn := disciplined.turn
  taking := taking
  sending := sending
  balance := balance

theorem disciplined_work {Stage : Type} {task : Task} {shared : Shared} {camMon : CameraMonitor}
    {p q : Position Stage} (locked : p.holds = true ↔ shared.globalMutex = some task)
    (before : p.busy = true) (after : q.busy = true)
    (turn : camMon.picTakeSend = task.turn) (camera : camMon.cam = shared.camMon.cam) :
    Disciplined task shared { shared with camMon := camMon } p q where
  locked := iff_of_true (Position.holds_of_busy after) (locked.mp (Position.holds_of_busy before))
  others _ _ := .rfl
  turn _ := turn
  kept idle := absurd before (by rw [idle]; decide)
  camera := camera

theorem saves_append (log es : List ServerEvent) : saves (log ++ es) = saves log ++ saves es :=
  List.filterMap_append

theorem sends_append (log es : List ServerEvent) : sends (log ++ es) = sends log ++ sends es :=
  List.filterMap_append

theorem tryGetFrame_error {captured : Option MediaFrame} {stack : Memory BUFSIZE}
    (failed : tryGetFrame sane captured stack = some none) : sane = false := by
  simp only [tryGetFrame, cameraGetFrame] at failed
  cases sane with
  | false => rfl
  | true =>
    rw [if_neg (by decide)] at failed
    split at failed <;> cases failed

theorem tryGetFrame_ok {captured : Option MediaFrame} {stack picPacket : Memory BUFSIZE} {fr : Frame}
    {packetSz : Int32} (got : tryGetFrame sane captured stack = some (some (fr, packetSz, picPacket))) :
    sane = true ∧ fr = ⟨captured⟩ := by
  simp only [tryGetFrame, cameraGetFrame] at got
  cases sane with
  | false => cases got
  | true =>
    rw [if_neg (by decide)] at got
    split at got
    · cases got
    · cases got
      exact ⟨rfl, rfl⟩

theorem HandOver.take_work (inv : HandOver sane cam log s) {captured : Option MediaFrame}
    {stack : Memory BUFSIZE} {stage : TakeStage} {next : Shared} {q : Position TakeStage}
    (at_ : s.take = .work stage)
    (taken : takeWork sane captured stack s.shared stage = some (next, q, es)) :
    HandOver sane cam (log ++ es) { s with shared := next, take := q } := by
  have busy : s.take.busy = true := by rw [at_]; rfl
  have sending {P : SendStage → Prop} : s.send.AtWork P := Position.atWork_of_idle (inv.send_idle busy)
  have turn := inv.takeTurn busy
  have before : s.pending (cam && sane) = [] :=
    Server.pending_taking turn (by rw [at_]; rfl)
  have balance := inv.balance
  rw [before, List.append_nil] at balance
  have working {camMon : CameraMonitor} {later : TakeStage}
      (turn : camMon.picTakeSend = TAKE_PIC_STATE) :
      Server.pending (cam && sane)
        { s with shared := { s.shared with camMon := camMon }, take := .work later } = [] :=
    Server.pending_taking turn rfl
  have taking := inv.taking
  rw [at_] at taking
  -- a turn that ends in the capture has saved nothing, and the tests it failed are those of the sender
  have idle (off : (cam && sane) = false) : HandOver sane cam (log ++ [])
      { s with shared := s.shared, take := .flip } := by
    refine inv.after_take (disciplined_work inv.takeLocked busy rfl turn rfl) trivial sending ?_
    rw [List.append_nil, Server.pending_inactive off, List.append_nil, balance]
  cases takeWork_does taken with
  | getsMode =>
    refine inv.after_take (disciplined_work inv.takeLocked busy rfl turn rfl) trivial sending ?_
    rw [List.append_nil, working turn, List.append_nil, balance]
  | noCamera missing => exact idle (by rw [← inv.camera, missing, Bool.false_and])
  | failed _ error => exact idle (by rw [tryGetFrame_error error, Bool.and_false])
  | packed there got =>
    have on : (cam && sane) = true := by
      rw [(tryGetFrame_ok got).1, Bool.and_true, ← inv.camera, there]
    refine inv.after_take (disciplined_work inv.takeLocked busy rfl turn rfl) on sending ?_
    rw [List.append_nil, working turn, List.append_nil, balance]
  | savesPacketSize fr packetSz picPacket =>
    have same : (s.shared.camMon.savePacketSize packetSz).picTakeSend = TAKE_PIC_STATE := turn
    refine inv.after_take (disciplined_work inv.takeLocked busy rfl turn rfl) ⟨taking, rfl⟩ sending ?_
    rw [List.append_nil, working same, List.append_nil, balance]
  | savesPacket fr packetSz picPacket =>
    obtain ⟨on, rfl⟩ := taking
    -- the slot is full from here on
    refine inv.after_take (disciplined_work inv.takeLocked busy rfl turn rfl) trivial sending ?_
    rw [Server.pending_taken on rfl, saves_append, sends_append, balance]
    simp [saves, sends, ServerEvent.packetSaved, ServerEvent.packetSent, CameraMonitor.savePacket]

theorem HandOver.send_work (inv : HandOver sane cam log s) {written : Int32} {stage : SendStage}
    {next : Shared} {q : Position SendStage} (at_ : s.send = .work stage)
    (taken : sendWork sane written s.shared stage = some (next, q, es)) :
    HandOver sane cam (log ++ es) { s with shared := next, send := q } := by
  have busy : s.send.busy = true := by rw [at_]; rfl
  have idle := inv.take_idle busy
  have taking {P : TakeStage → Prop} : s.take.AtWork P := Position.atWork_of_idle idle
  have turn := inv.sendTurn busy
  have disciplined {later : Position SendStage} (after : later.busy = true) :
      Disciplined .send s.shared s.shared s.send later :=
    disciplined_work inv.sendLocked busy after turn rfl
  have full (on : (cam && sane) = true) {later : SendStage} :
      Server.pending (cam && sane) { s with shared := s.shared, send := .work later } =
        [(s.shared.camMon.picPacket, s.shared.camMon.packetSz)] :=
    Server.pending_sending on turn rfl
  have before (on : (cam && sane) = true) : s.pending (cam && sane) =
      [(s.shared.camMon.picPacket, s.shared.camMon.packetSz)] :=
    Server.pending_sending on turn (by rw [at_]; rfl)
  have balance := inv.balance
  have sending := inv.sending
  rw [at_] at sending
  cases sendWork_does taken with
  | failed off =>
    -- a turn without a write: nothing was saved in the turn before either
    rw [inv.camera] at off
    refine inv.after_send (disciplined rfl) taking trivial ?_
    rw [List.append_nil, Server.pending_inactive off, balance, Server.pending_inactive off]
  | getsPacket on =>
    rw [inv.camera] at on
    refine inv.after_send (disciplined rfl) taking ⟨on, rfl⟩ ?_
    rw [List.append_nil, full on, balance, before on]
  | getsPacketSize picPacket =>
    obtain ⟨on, same⟩ := sending
    refine inv.after_send (disciplined rfl) taking ⟨on, same, rfl⟩ ?_
    rw [List.append_nil, full on, balance, before on]
  | writes picPacket packetSz =>
    obtain ⟨on, rfl, rfl⟩ := sending
    -- the slot is empty once its packet has been written
    refine inv.after_send (disciplined rfl) taking trivial ?_
    have after : Server.pending (cam && sane) { s with shared := s.shared, send := .flip } = [] :=
      Server.pending_sent (Position.not_flipping_of_idle idle) rfl
    rw [after, saves_append, sends_append, balance, before on]
    simp [saves, sends, ServerEvent.packetSaved, ServerEvent.packetSent]

theorem outline_logs_no_packet {task : Task} (quiet : es = [] ∨ es = [.closedConnfd task]) :
    saves es = [] ∧ sends es = [] := by
  rcases quiet with rfl | rfl <;> exact ⟨rfl, rfl⟩

theorem HandOver.take_outline (inv : HandOver sane cam log s) {next : Shared}
    {q : Position TakeStage} (taken : outline .take .getMode s.shared s.take = some (next, q, es)) :
    HandOver sane cam (log ++ es) { s with shared := next, take := q } := by
  obtain ⟨early, taking, same, logged⟩ :=
    outline_quiet (P := TakeStage.Agrees (cam && sane) next.camMon) taken trivial
  have disciplined := outline_disciplined taken inv.takeLocked
  obtain ⟨no_save, no_send⟩ := outline_logs_no_packet logged
  have balance := inv.balance
  cases late : s.take.flipping with
  | false =>
    -- the monitor is as it was, and neither task flips
    have kept := same late
    refine inv.after_take disciplined taking (kept ▸ inv.sending) ?_
    rw [saves_append, sends_append, no_save, no_send, List.append_nil, List.append_nil, balance]
    simp only [Server.pending, kept, late, early]
  | true =>
    have at_ := Position.eq_flip late
    have busy : s.take.busy = true := by rw [at_]; rfl
    have idle := inv.send_idle busy
    rw [at_] at taken
    cases taken
    refine inv.after_take disciplined taking (Position.atWork_of_idle idle) ?_
    rw [List.append_nil, balance]
    cases on : cam && sane with
    | false => rw [Server.pending_inactive rfl, Server.pending_inactive rfl]
    | true =>
      -- the packet was pending on the flip, and is now pending on the turn
      have turn := inv.takeTurn busy
      have after : Server.pending true
          { s with
            shared := { s.shared with camMon := s.shared.camMon.flipPicTakeSend }, take := .unlock } =
            [(s.shared.camMon.picPacket, s.shared.camMon.packetSz)] := by
        rw [CameraMonitor.flip_take turn]
        exact Server.pending_sending rfl rfl (Position.not_flipping_of_idle idle)
      rw [Server.pending_taken rfl late, after]

theorem HandOver.send_outline (inv : HandOver sane cam log s) {next : Shared}
    {q : Position SendStage}
    (taken : outline .send .getPacket s.shared s.send = some (next, q, es)) :
    HandOver sane cam (log ++ es) { s with shared := next, send := q } := by
  obtain ⟨early, sending, same, logged⟩ :=
    outline_quiet (P := SendStage.Agrees (cam && sane) next.camMon) taken trivial
  have disciplined := outline_disciplined taken inv.sendLocked
  obtain ⟨no_save, no_send⟩ := outline_logs_no_packet logged
  have balance := inv.balance
  cases late : s.send.flipping with
  | false =>
    have kept := same late
    refine inv.after_send disciplined (kept ▸ inv.taking) sending ?_
    rw [saves_append, sends_append, no_save, no_send, List.append_nil, List.append_nil, balance]
    simp only [Server.pending, kept, late, early]
  | true =>
    have at_ := Position.eq_flip late
    have busy : s.send.busy = true := by rw [at_]; rfl
    have idle := inv.take_idle busy
    have resting := Position.not_flipping_of_idle idle
    rw [at_] at taken
    cases taken
    refine inv.after_send disciplined (Position.atWork_of_idle idle) sending ?_
    have after : Server.pending (cam && sane)
        { s with
          shared := { s.shared with camMon := s.shared.camMon.flipPicTakeSend }, send := .unlock } = [] := by
      rw [CameraMonitor.flip_send (inv.sendTurn busy)]
      exact Server.pending_taking rfl resting
    rw [List.append_nil, balance, after, Server.pending_sent resting late]

theorem HandOver.take_step (inv : HandOver sane cam log s) {captured : Option MediaFrame}
    {stack : Memory BUFSIZE} {next : Shared} {q : Position TakeStage}
    (taken : takePictureTask sane captured stack s.shared s.take = some (next, q, es)) :
    HandOver sane cam (log ++ es) { s with shared := next, take := q } := by
  unfold takePictureTask at taken
  split at taken
  · next stage at_ => exact inv.take_work at_ taken
  · exact inv.take_outline taken

theorem HandOver.send_step (inv : HandOver sane cam log s) {written : Int32} {next : Shared}
    {q : Position SendStage}
    (taken : sendPictureTask sane written s.shared s.send = some (next, q, es)) :
    HandOver sane cam (log ++ es) { s with shared := next, send := q } := by
  unfold sendPictureTask at taken
  split at taken
  · next stage at_ => exact inv.send_work at_ taken
  · exact inv.send_outline taken

theorem HandOver.of_mode (inv : HandOver sane cam log s) (val : Int32) (isConnected : Bool)
    (update : UpdatePosition) (buf : UInt8) :
    HandOver sane cam log { s with
      shared := { s.shared with camMon := s.shared.camMon.setMode val, isConnected := isConnected }
      update := update
      buf := buf } :=
  ⟨inv.camera, inv.takeLocked, inv.sendLocked, inv.takeTurn, inv.sendTurn, inv.taking, inv.sending,
    inv.balance⟩

theorem HandOver.update_step (inv : HandOver sane cam log s) {arrived : ModeRead} {next : Server}
    (taken : updateModeTask arrived s = some (next, es)) : HandOver sane cam (log ++ es) next := by
  have same := inv.of_mode s.shared.camMon.mode
  unfold updateModeTask at taken
  split at taken
  · cases taken
    rw [List.append_nil]
    exact same _ _ _
  · split at taken
    all_goals
      cases taken
      rw [List.append_nil]
      exact same _ _ _
  · cases taken
    rw [List.append_nil]
    exact inv.of_mode _ _ _ _
  · cases taken
    refine { same s.shared.isConnected .returned s.buf with balance := ?_ }
    rw [saves_append, sends_append]
    change saves log ++ [] = sends log ++ [] ++ s.pending (cam && sane)
    rw [List.append_nil, List.append_nil]
    exact inv.balance
  · cases taken

theorem HandOver.accept_step (inv : HandOver sane cam log s) {next : Server}
    (taken : Server.step sane s .accept = some (next, es)) : HandOver sane cam (log ++ es) next := by
  cases Server.step_moves taken with
  | accept takeDone sendDone _ =>
    have takeFree := inv.takeLocked
    have sendFree := inv.sendLocked
    have balance := inv.balance
    rw [takeDone] at takeFree
    rw [sendDone] at sendFree
    refine ⟨inv.camera, takeFree, sendFree, nofun, nofun, trivial, trivial, ?_⟩
    simp only [Server.pending, takeDone, sendDone] at balance
    rw [saves_append, sends_append]
    change saves log ++ [] = sends log ++ [] ++ _
    rw [List.append_nil, List.append_nil]
    exact balance

theorem handOver_step (inv : HandOver sane cam log s) {action : Action} {next : Server}
    (taken : Server.step sane s action = some (next, es)) : HandOver sane cam (log ++ es) next := by
  cases Server.step_moves taken with
  | take task => exact inv.take_step task
  | send task => exact inv.send_step task
  | update task => exact inv.update_step task
  | accept => exact inv.accept_step taken

end Invariant

theorem length_pending_le (active : Bool) (s : Server) : (s.pending active).length ≤ 1 := by
  unfold Server.pending
  split <;> simp

/-- Whatever the interleaving and however often clients come and go, what has been sent is
what has been saved, except for at most the last packet. -/
theorem sends_prefix_of_saves {sane : Bool} {picPacket : Memory BUFSIZE} {packetSz : Int32} {cam : Bool}
    {actions : List Action} {s : Server} {log : List ServerEvent}
    (ran : run (Server.step sane) (.start (.init picPacket packetSz cam)) actions = some (s, log)) :
    sends log <+: saves log ∧ (saves log).length ≤ (sends log).length + 1 := by
  have inv : HandOver sane cam log s := run_invariant (Server.step sane)
    (fun _ log s => HandOver sane cam log s) (fun _ _ _ _ _ _ inv taken => handOver_step inv taken)
    (handOver_start (.init picPacket packetSz cam) rfl) ran
  have short := length_pending_le (cam && sane) s
  rw [inv.balance, List.length_append]
  exact ⟨List.prefix_append _ _, by omega⟩

def takeTurn (captured : Option MediaFrame) : List Action :=
  List.replicate 10 (.take captured (.filled BUFSIZE 170))

def sendTurn : List Action := List.replicate 6 (.send 13)

theorem frame_saved_and_sent : ∃ s log,
    run (Server.step true) (.start (.init (.filled BUFSIZE 85) 0 true))
        (takeTurn (some ⟨[1, 2, 3], 5000000⟩) ++ sendTurn) = some (s, log) ∧
      (sends log).map (fun packet => (packet.1.load 0 13, packet.2)) =
        [(some [5, 0, 0, 0, 0, 0, 0, 0, 3, 0, 1, 2, 3], 13)] ∧
      sends log <+: saves log ∧ (saves log).length ≤ (sends log).length + 1 := by
  have finishes : (run (Server.step true) (.start (.init (.filled BUFSIZE 85) 0 true))
        (takeTurn (some ⟨[1, 2, 3], 5000000⟩) ++ sendTurn)).map
          (fun reached => (sends reached.2).map fun packet => (packet.1.load 0 13, packet.2)) =
      some [(some [5, 0, 0, 0, 0, 0, 0, 0, 3, 0, 1, 2, 3], 13)] := by decide +kernel
  obtain ⟨⟨s, log⟩, ran, sent⟩ := Option.map_eq_some_iff.mp finishes
  exact ⟨s, log, ran, sent, sends_prefix_of_saves ran⟩

end NetCam.Camera
