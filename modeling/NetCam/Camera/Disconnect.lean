import NetCam.Camera.HandOver

/-! What a disconnect leaves of the two picture tasks.

Neither wait looks at `isConnected`, so a waiting task depends on the other one to flip
the turn once more. When the connection ends while the other one is already past its
turn, it returns instead, and the waiting task stays where it is.
-/

set_option autoImplicit false

namespace NetCam.Camera

open Semantics

def Task.other : Task → Task
  | take => send
  | send => take

namespace Position

variable {Stage : Type}

-- Past the test of the connection, and not yet on its turn.
def entering : Position Stage → Bool
  | lock | check | condWait | waiting | relock => true
  | _ => false

/-- The task is going to flip the turn without testing the connection before. -/
def coming (position : Position Stage) : Bool := position.entering || position.busy

def gone : Position Stage → Bool
  | close | returned => true
  | _ => false

theorem coming_of_busy {position : Position Stage} (busy : position.busy = true) :
    position.coming = true := by
  unfold coming
  rw [busy, Bool.or_true]

theorem not_entering_of_busy {position : Position Stage} (busy : position.busy = true) :
    position.entering = false := by
  cases position <;> first | rfl | cases busy

theorem not_gone_of_busy {position : Position Stage} (busy : position.busy = true) :
    position.gone = false := by
  cases position <;> first | rfl | cases busy

/-- How far a task is from its return when the connection is lost. -/
def rank (stageRank : Stage → Nat) (own : Bool) : Position Stage → Nat
  | lock | relock => if own then 14 else 20
  | check => if own then 13 else 19
  | condWait => if own then 16 else 18
  | waiting => if own then 15 else 17
  | work stage => 5 + stageRank stage
  | flip => 5
  | unlock => 4
  | broadcast => 3
  | test => 2
  | close => 1
  | returned => 0

theorem rank_le (stageRank : Stage → Nat) (own : Bool) (position : Position Stage) :
    position.rank stageRank own ≤ position.rank stageRank false := by
  cases position <;> cases own <;> simp [rank]

end Position

def TakeStage.rank : TakeStage → Nat
  | .getMode => 4
  | .capture => 3
  | .savePacketSize _ _ _ => 2
  | .savePacket _ _ _ => 1

def SendStage.rank : SendStage → Nat
  | .getPacket => 3
  | .getPacketSize _ => 2
  | .clientWriteN _ _ => 1

def UpdatePosition.rank : UpdatePosition → Nat
  | .read => 4
  | .setMode => 3
  | .test => 2
  | .close => 1
  | .returned => 0

/-- If it is the task's turn and the other one waits for its own, the task is going to flip. -/
def Serves {A B : Type} (task : Task) (shared : Shared) (p : Position A) (q : Position B) : Prop :=
  shared.camMon.picTakeSend = task.turn → q.entering = true → p.coming = true

namespace Server

-- A picture task waits for its turn, and the other one, whose turn it is, has returned.
def Stranded (s : Server) : Prop :=
  (s.take = .waiting ∧ s.shared.camMon.picTakeSend ≠ TAKE_PIC_STATE ∧ s.send = .returned) ∨
    (s.send = .waiting ∧ s.shared.camMon.picTakeSend ≠ SEND_PIC_STATE ∧ s.take = .returned)

-- All that the three joins of `try_accept` wait for.
def Joined (s : Server) : Prop := s.take = .returned ∧ s.send = .returned ∧ s.update = .returned

def Served (s : Server) : Prop :=
  Serves .take s.shared s.take s.send ∧ Serves .send s.shared s.send s.take

def rank (s : Server) : Nat :=
  s.take.rank TakeStage.rank (s.shared.camMon.picTakeSend = TAKE_PIC_STATE) +
    s.send.rank SendStage.rank (s.shared.camMon.picTakeSend = SEND_PIC_STATE) + s.update.rank

end Server

/-- The mode connection does not end while a picture task is past its turn and the other
one is waiting for that turn to end. -/
def DisconnectsServed (s : Server) : Action → Prop
  | .update .endOfFile => s.update = .read → s.Served
  | _ => True

/-- What keeps the waiting tasks from being left alone. -/
structure Attended (s : Server) : Prop where
  takeLocked : s.take.holds = true ↔ s.shared.globalMutex = some .take
  sendLocked : s.send.holds = true ↔ s.shared.globalMutex = some .send
  turn : s.shared.camMon.picTakeSend = TAKE_PIC_STATE ∨ s.shared.camMon.picTakeSend = SEND_PIC_STATE
  takeTurn : s.take.busy = true → s.shared.camMon.picTakeSend = TAKE_PIC_STATE
  sendTurn : s.send.busy = true → s.shared.camMon.picTakeSend = SEND_PIC_STATE
  connected : s.shared.isConnected = true → s.take.gone = false ∧ s.send.gone = false
  lost : s.shared.isConnected = false → s.Served ∧ s.update ≠ .read

/-- What one step of a picture task does to the turn, the connection and its own position. -/
structure Moved {Stage : Type} (task : Task) (shared next : Shared) (p q : Position Stage) :
    Prop where
  disciplined : Disciplined task shared next p q
  connected : next.isConnected = shared.isConnected
  turn : next.camMon.picTakeSend = shared.camMon.picTakeSend ∨
    next.camMon.picTakeSend = TAKE_PIC_STATE ∨ next.camMon.picTakeSend = SEND_PIC_STATE
  entered : q.entering = true →
    next.camMon.picTakeSend = shared.camMon.picTakeSend ∧
      (shared.isConnected = false → p.entering = true)
  serving : p.coming = true → shared.camMon.picTakeSend = task.turn →
    q.coming = true ∨ next.camMon.picTakeSend ≠ task.turn
  stays : shared.isConnected = true → p.gone = false → q.gone = false

theorem Moved.turn_either {Stage : Type} {task : Task} {shared next : Shared} {p q : Position Stage}
    (moved : Moved task shared next p q)
    (either : shared.camMon.picTakeSend = TAKE_PIC_STATE ∨ shared.camMon.picTakeSend = SEND_PIC_STATE) :
    next.camMon.picTakeSend = TAKE_PIC_STATE ∨ next.camMon.picTakeSend = SEND_PIC_STATE := by
  rcases moved.turn with same | flipped
  · rw [same]
    exact either
  · exact flipped

theorem flip_turn (camMon : CameraMonitor) :
    camMon.flipPicTakeSend.picTakeSend = TAKE_PIC_STATE ∨
      camMon.flipPicTakeSend.picTakeSend = SEND_PIC_STATE := by
  unfold CameraMonitor.flipPicTakeSend
  split
  · exact .inl rfl
  · exact .inr rfl

theorem flip_other {task : Task} {camMon : CameraMonitor} (own : camMon.picTakeSend = task.turn) :
    camMon.flipPicTakeSend.picTakeSend ≠ task.turn := by
  cases task with
  | take =>
    rw [CameraMonitor.flip_take own]
    exact (by decide : SEND_PIC_STATE ≠ TAKE_PIC_STATE)
  | send =>
    rw [CameraMonitor.flip_send own]
    exact (by decide : TAKE_PIC_STATE ≠ SEND_PIC_STATE)

theorem outline_moved {Stage : Type} {task : Task} {first : Stage} {shared next : Shared}
    {p q : Position Stage} {es : List ServerEvent}
    (taken : outline task first shared p = some (next, q, es))
    (locked : p.holds = true ↔ shared.globalMutex = some task) : Moved task shared next p q := by
  have disciplined := outline_disciplined taken locked
  cases p with
  | test =>
    cases taken
    -- the only look at the connection
    refine ⟨disciplined, rfl, .inl rfl, ?_, (fun coming => by cases coming), ?_⟩
    · cases shared.isConnected with
      | true => exact fun _ => ⟨rfl, fun lost => by cases lost⟩
      | false => exact fun entering => by cases entering
    · intro there _
      rw [there]
      rfl
  | lock | relock =>
    simp only [outline] at taken
    split at taken
    · cases taken
      exact ⟨disciplined, rfl, .inl rfl, fun _ => ⟨rfl, fun _ => rfl⟩, fun _ _ => .inl rfl,
        fun _ _ => rfl⟩
    · cases taken
  | check =>
    cases taken
    refine ⟨disciplined, rfl, .inl rfl, fun _ => ⟨rfl, fun _ => rfl⟩, ?_, ?_⟩
    · intro _ _
      left
      split <;> rfl
    · intro _ _
      split <;> rfl
  | flip =>
    cases taken
    exact ⟨disciplined, rfl, .inr (flip_turn _), (fun entering => by cases entering),
      fun _ own => .inr (flip_other own), fun _ _ => rfl⟩
  | condWait | waiting =>
    cases taken
    exact ⟨disciplined, rfl, .inl rfl, fun _ => ⟨rfl, fun _ => rfl⟩, fun _ _ => .inl rfl,
      fun _ _ => rfl⟩
  | unlock | broadcast =>
    cases taken
    exact ⟨disciplined, rfl, .inl rfl, (fun entering => by cases entering), (fun coming => by cases coming),
      fun _ _ => rfl⟩
  | close =>
    cases taken
    exact ⟨disciplined, rfl, .inl rfl, (fun entering => by cases entering), (fun coming => by cases coming),
      (fun _ gone => by cases gone)⟩
  | work _ | returned => cases taken

structure Worked {Stage : Type} (shared next : Shared) (q : Position Stage) : Prop where
  busy : q.busy = true
  mutex : next.globalMutex = shared.globalMutex
  connected : next.isConnected = shared.isConnected
  turn : next.camMon.picTakeSend = shared.camMon.picTakeSend
  camera : next.camMon.cam = shared.camMon.cam

theorem Worked.moved {Stage : Type} {task : Task} {shared next : Shared} {p q : Position Stage}
    (worked : Worked shared next q) (busy : p.busy = true)
    (locked : p.holds = true ↔ shared.globalMutex = some task)
    (own : shared.camMon.picTakeSend = task.turn) : Moved task shared next p q := by
  refine ⟨⟨?_, ?_, ?_, fun _ => worked.turn, worked.camera⟩, worked.connected, .inl worked.turn, ?_,
    fun _ _ => .inl (Position.coming_of_busy worked.busy), ?_⟩
  · rw [worked.mutex]
    exact iff_of_true (Position.holds_of_busy worked.busy) (locked.mp (Position.holds_of_busy busy))
  · intro _ _
    rw [worked.mutex]
  · intro _
    rw [worked.turn, own]
  · intro entering
    rw [Position.not_entering_of_busy worked.busy] at entering
    cases entering
  · intro _ _
    exact Position.not_gone_of_busy worked.busy

theorem takeWork_worked {sane : Bool} {captured : Option MediaFrame} {stack : Memory BUFSIZE}
    {shared next : Shared} {stage : TakeStage} {q : Position TakeStage} {es : List ServerEvent}
    (taken : takeWork sane captured stack shared stage = some (next, q, es)) :
    Worked shared next q ∧
      q.rank TakeStage.rank (next.camMon.picTakeSend = TAKE_PIC_STATE) < 5 + stage.rank := by
  cases takeWork_does taken with
  | getsMode | noCamera | failed | packed | savesPacketSize | savesPacket =>
    exact ⟨⟨rfl, rfl, rfl, rfl, rfl⟩, by simp [Position.rank, TakeStage.rank]⟩

theorem sendWork_worked {sane : Bool} {written : Int32} {shared next : Shared} {stage : SendStage}
    {q : Position SendStage} {es : List ServerEvent}
    (taken : sendWork sane written shared stage = some (next, q, es)) :
    Worked shared next q ∧
      q.rank SendStage.rank (next.camMon.picTakeSend = SEND_PIC_STATE) < 5 + stage.rank := by
  cases sendWork_does taken with
  | failed | getsPacket | getsPacketSize | writes =>
    exact ⟨⟨rfl, rfl, rfl, rfl, rfl⟩, by simp [Position.rank, SendStage.rank]⟩

section Steps

variable {sane : Bool} {s : Server} {es : List ServerEvent}

theorem Attended.take_moved (attended : Attended s) {captured : Option MediaFrame}
    {stack : Memory BUFSIZE} {next : Shared} {q : Position TakeStage}
    (taken : takePictureTask sane captured stack s.shared s.take = some (next, q, es)) :
    Moved .take s.shared next s.take q := by
  unfold takePictureTask at taken
  split at taken
  · next stage at_ =>
    have busy : s.take.busy = true := by rw [at_]; rfl
    exact (takeWork_worked taken).1.moved busy attended.takeLocked (attended.takeTurn busy)
  · exact outline_moved taken attended.takeLocked

theorem Attended.send_moved (attended : Attended s) {written : Int32} {next : Shared}
    {q : Position SendStage}
    (taken : sendPictureTask sane written s.shared s.send = some (next, q, es)) :
    Moved .send s.shared next s.send q := by
  unfold sendPictureTask at taken
  split at taken
  · next stage at_ =>
    have busy : s.send.busy = true := by rw [at_]; rfl
    exact (sendWork_worked taken).1.moved busy attended.sendLocked (attended.sendTurn busy)
  · exact outline_moved taken attended.sendLocked

theorem Moved.serves {A B : Type} {task : Task} {shared next : Shared} {p p' : Position A}
    {q : Position B} (moved : Moved task shared next p p') (lost : shared.isConnected = false)
    (own : p.busy = true → shared.camMon.picTakeSend = task.turn)
    (serves : Serves task shared p q) (served : Serves task.other shared q p) :
    Serves task next p' q ∧ Serves task.other next q p' := by
  constructor
  · intro turn entering
    have before : shared.camMon.picTakeSend = task.turn := by
      cases busy : p.busy with
      | true => exact own busy
      | false => exact (moved.disciplined.kept busy).symm.trans turn
    rcases moved.serving (serves before entering) before with coming | flipped
    · exact coming
    · exact absurd turn flipped
  · intro turn entering
    obtain ⟨same, earlier⟩ := moved.entered entering
    exact served (same.symm.trans turn) (earlier lost)

theorem Attended.idle_of_busy {A B : Type} {task : Task} {shared : Shared} {p : Position A}
    {q : Position B} (locked : p.holds = true ↔ shared.globalMutex = some task)
    (otherLocked : q.holds = true ↔ shared.globalMutex = some task.other) (busy : p.busy = true) :
    q.busy = false := by
  by_contra both
  have first := locked.mp (Position.holds_of_busy busy)
  have second := otherLocked.mp (Position.holds_of_busy (Bool.not_eq_false _ ▸ both))
  rw [first] at second
  cases task <;> cases second

theorem Attended.take_step (attended : Attended s) {next : Shared} {q : Position TakeStage}
    (moved : Moved .take s.shared next s.take q) :
    Attended { s with shared := next, take := q } := by
  have disciplined := moved.disciplined
  refine ⟨disciplined.locked, attended.sendLocked.trans (disciplined.others .send nofun).symm, ?_,
    disciplined.turn, ?_, ?_, ?_⟩
  · exact moved.turn_either attended.turn
  · intro busy
    have idle := @Attended.idle_of_busy _ _ .send _ _ _ attended.sendLocked attended.takeLocked busy
    exact (disciplined.kept idle).trans (attended.sendTurn busy)
  · intro there
    have before := moved.connected.symm.trans there
    obtain ⟨stays, other⟩ := attended.connected before
    exact ⟨moved.stays before stays, other⟩
  · intro lost
    have before := moved.connected.symm.trans lost
    obtain ⟨⟨serves, served⟩, reading⟩ := attended.lost before
    obtain ⟨serves, served⟩ := moved.serves before attended.takeTurn serves served
    exact ⟨⟨serves, served⟩, reading⟩

theorem Attended.send_step (attended : Attended s) {next : Shared} {q : Position SendStage}
    (moved : Moved .send s.shared next s.send q) :
    Attended { s with shared := next, send := q } := by
  have disciplined := moved.disciplined
  refine ⟨attended.takeLocked.trans (disciplined.others .take nofun).symm, disciplined.locked, ?_, ?_,
    disciplined.turn, ?_, ?_⟩
  · exact moved.turn_either attended.turn
  · intro busy
    have idle := @Attended.idle_of_busy _ _ .take _ _ _ attended.takeLocked attended.sendLocked busy
    exact (disciplined.kept idle).trans (attended.takeTurn busy)
  · intro there
    have before := moved.connected.symm.trans there
    obtain ⟨other, stays⟩ := attended.connected before
    exact ⟨other, moved.stays before stays⟩
  · intro lost
    have before := moved.connected.symm.trans lost
    obtain ⟨⟨served, serves⟩, reading⟩ := attended.lost before
    obtain ⟨serves, served⟩ := moved.serves before attended.sendTurn serves served
    exact ⟨⟨served, serves⟩, reading⟩

theorem Attended.of_mode (attended : Attended s) (val : Int32) (buf : UInt8) {update : UpdatePosition}
    (quiet : s.shared.isConnected = false → update ≠ .read) :
    Attended { s with
      shared := { s.shared with camMon := s.shared.camMon.setMode val }
      update := update
      buf := buf } :=
  ⟨attended.takeLocked, attended.sendLocked, attended.turn, attended.takeTurn, attended.sendTurn,
    attended.connected, fun lost => ⟨(attended.lost lost).1, quiet lost⟩⟩

theorem Attended.update_step (attended : Attended s) {arrived : ModeRead} {next : Server}
    (served : DisconnectsServed s (.update arrived))
    (taken : updateModeTask arrived s = some (next, es)) : Attended next := by
  have same := fun {update : UpdatePosition} =>
    @Attended.of_mode s attended s.shared.camMon.mode s.buf update
  unfold updateModeTask at taken
  split at taken
  · cases taken
    apply same
    intro lost
    rw [lost]
    exact (by decide : UpdatePosition.close ≠ .read)
  · next at_ =>
    split at taken
    · cases taken
      exact attended.of_mode s.shared.camMon.mode _ (fun _ => by decide)
    · cases taken
      -- the connection is lost here, so the guard is what the invariant asks for
      exact ⟨attended.takeLocked, attended.sendLocked, attended.turn, attended.takeTurn,
        attended.sendTurn, fun there => (by cases there),
        fun _ => ⟨served at_, (by decide : UpdatePosition.setMode ≠ .read)⟩⟩
    · cases taken
      exact same (fun _ => by decide)
  · cases taken
    exact attended.of_mode _ s.buf (fun _ => by decide)
  · cases taken
    exact same (fun _ => by decide)
  · cases taken

theorem Attended.accept_step (attended : Attended s) {next : Server}
    (taken : Server.step sane s .accept = some (next, es)) : Attended next := by
  cases Server.step_moves taken with
  | accept takeDone sendDone _ =>
    have takeFree := attended.takeLocked
    have sendFree := attended.sendLocked
    rw [takeDone] at takeFree
    rw [sendDone] at sendFree
    exact ⟨takeFree, sendFree, attended.turn, fun busy => (by cases busy),
      fun busy => (by cases busy), fun _ => ⟨rfl, rfl⟩, fun lost => (by cases lost)⟩

theorem attended_step {action : Action} {next : Server} (attended : Attended s)
    (served : DisconnectsServed s action) (taken : Server.step sane s action = some (next, es)) :
    Attended next := by
  cases Server.step_moves taken with
  | take task => exact attended.take_step (attended.take_moved task)
  | send task => exact attended.send_step (attended.send_moved task)
  | update task => exact attended.update_step served task
  | accept => exact attended.accept_step taken

theorem attended_start {camMon : CameraMonitor}
    (turn : camMon.picTakeSend = TAKE_PIC_STATE ∨ camMon.picTakeSend = SEND_PIC_STATE) :
    Attended (.start camMon) :=
  ⟨iff_of_false Bool.false_ne_true (by simp [Server.start]),
    iff_of_false Bool.false_ne_true (by simp [Server.start]), turn, fun busy => (by cases busy),
    fun busy => (by cases busy), fun _ => ⟨rfl, rfl⟩, fun lost => (by cases lost)⟩

/-- The other task would be past its loop only with the connection lost, and then it was served. -/
theorem Attended.not_stranded (attended : Attended s) : ¬ s.Stranded := by
  rintro (⟨waits, turn, gone⟩ | ⟨waits, turn, gone⟩)
  · cases connected : s.shared.isConnected with
    | true =>
      have there := (attended.connected connected).2
      rw [gone] at there
      cases there
    | false =>
      have coming := (attended.lost connected).1.2 (attended.turn.resolve_left turn)
        (by rw [waits]; rfl)
      rw [gone] at coming
      cases coming
  · cases connected : s.shared.isConnected with
    | true =>
      have there := (attended.connected connected).1
      rw [gone] at there
      cases there
    | false =>
      have coming := (attended.lost connected).1.1 (attended.turn.resolve_right turn)
        (by rw [waits]; rfl)
      rw [gone] at coming
      cases coming

end Steps

section Progress

variable {sane : Bool} {s : Server}

/-- Once the connection is lost, a task that is neither asleep nor kept out gets nearer to its
return with every step. -/
theorem outline_progress {Stage : Type} {stageRank : Stage → Nat} {task : Task} {first : Stage}
    {shared : Shared} {p : Position Stage} (short : stageRank first ≤ 7)
    (lost : shared.isConnected = false) (idle : ∀ stage, p ≠ .work stage)
    (free : p.holds = true ∨ shared.globalMutex = none)
    (awake : p = .waiting → shared.camMon.picTakeSend = task.turn) (there : p ≠ .returned) :
    ∃ next q es, outline task first shared p = some (next, q, es) ∧
      q.rank stageRank (next.camMon.picTakeSend = task.turn) <
        p.rank stageRank (shared.camMon.picTakeSend = task.turn) := by
  cases p with
  | test =>
    refine ⟨_, _, _, rfl, ?_⟩
    rw [lost]
    exact Nat.lt_succ_self 1
  | lock | relock =>
    have unlocked := free.resolve_left Bool.false_ne_true
    refine ⟨_, _, _, if_pos unlocked, ?_⟩
    by_cases own : shared.camMon.picTakeSend = task.turn <;> simp [Position.rank, own]
  | check =>
    refine ⟨_, _, _, rfl, ?_⟩
    by_cases own : shared.camMon.picTakeSend = task.turn
    · simp only [CameraMonitor.getPicTakeSend, own, ne_eq, not_true_eq_false, if_false, decide_true,
        Position.rank, if_true]
      omega
    · simp [CameraMonitor.getPicTakeSend, Position.rank, own]
  | condWait =>
    refine ⟨_, _, _, rfl, ?_⟩
    by_cases own : shared.camMon.picTakeSend = task.turn <;> simp [Position.rank, own]
  | waiting =>
    refine ⟨_, _, _, rfl, ?_⟩
    simp [Position.rank, awake rfl]
  | work stage => exact absurd rfl (idle stage)
  | flip | unlock | broadcast | close =>
    refine ⟨_, _, _, rfl, ?_⟩
    simp [Position.rank]
  | returned => exact absurd rfl there

theorem takeWork_progress (stack : Memory BUFSIZE) (shared : Shared) (stage : TakeStage) :
    ∃ result, takeWork sane none stack shared stage = some result := by
  cases stage with
  | getMode | savePacketSize _ _ _ | savePacket _ _ _ => exact ⟨_, rfl⟩
  | capture =>
    simp only [takeWork]
    split
    · exact ⟨_, rfl⟩
    · obtain ⟨packetSz, packet, built, _⟩ :=
        @setupPacket_spec stack (getFrameTimestamp ⟨none⟩) (getFrameSize ⟨none⟩) [] rfl (by decide)
      have got : ∃ outcome, tryGetFrame sane none stack = some outcome := by
        simp only [tryGetFrame, cameraGetFrame]
        split
        · exact ⟨_, rfl⟩
        · have same : getFrameBytes ⟨none⟩ = [] := rfl
          rw [same, built]
          exact ⟨_, rfl⟩
      obtain ⟨outcome, got⟩ := got
      rw [got]
      cases outcome with
      | none => exact ⟨_, rfl⟩
      | some made => exact ⟨_, rfl⟩

theorem sendWork_progress (written : Int32) (shared : Shared) (stage : SendStage) :
    ∃ result, sendWork sane written shared stage = some result := by
  cases stage with
  | getPacket =>
    simp only [sendWork]
    split <;> exact ⟨_, rfl⟩
  | getPacketSize _ | clientWriteN _ _ => exact ⟨_, rfl⟩

/-- The turn changes in favour of the other task, if at all. -/
theorem Moved.rank_le {A B : Type} {task : Task} {shared next : Shared} {p p' : Position A}
    (moved : Moved task shared next p p') (own : p.busy = true → shared.camMon.picTakeSend = task.turn)
    (stageRank : B → Nat) (q : Position B) :
    q.rank stageRank (next.camMon.picTakeSend = task.other.turn) ≤
      q.rank stageRank (shared.camMon.picTakeSend = task.other.turn) := by
  cases busy : p.busy with
  | false => rw [moved.disciplined.kept busy]
  | true =>
    have other : ¬ shared.camMon.picTakeSend = task.other.turn := by
      rw [own busy]
      cases task <;> decide
    rw [decide_eq_false other]
    exact q.rank_le stageRank _

theorem Attended.take_progress (attended : Attended s) (lost : s.shared.isConnected = false)
    (free : s.take.holds = true ∨ s.shared.globalMutex = none)
    (awake : s.take = .waiting → s.shared.camMon.picTakeSend = TAKE_PIC_STATE)
    (there : s.take ≠ .returned) :
    ∃ action t es, Server.step sane s action = some (t, es) ∧
      (Attended t ∧ t.shared.isConnected = false) ∧ t.rank < s.rank := by
  have stepped : ∃ next q es,
      takePictureTask sane none (.filled BUFSIZE 0) s.shared s.take = some (next, q, es) ∧
        q.rank TakeStage.rank (next.camMon.picTakeSend = TAKE_PIC_STATE) <
          s.take.rank TakeStage.rank (s.shared.camMon.picTakeSend = TAKE_PIC_STATE) := by
    unfold takePictureTask
    split
    · next stage at_ =>
      obtain ⟨⟨next, q, es⟩, taken⟩ := @takeWork_progress sane (.filled BUFSIZE 0) s.shared stage
      rw [at_]
      exact ⟨next, q, es, taken, (takeWork_worked taken).2⟩
    · next idle => exact outline_progress (by decide) lost idle free awake there
  obtain ⟨next, q, es, taken, nearer⟩ := stepped
  have moved := attended.take_moved taken
  have others := moved.rank_le attended.takeTurn SendStage.rank s.send
  refine ⟨.take none (.filled BUFSIZE 0), { s with shared := next, take := q }, es, ?_,
    ⟨attended.take_step moved, moved.connected.trans lost⟩, ?_⟩
  · simp only [Server.step, taken]
  · simp only [Server.rank]
    change _ + s.send.rank SendStage.rank (next.camMon.picTakeSend = SEND_PIC_STATE) + _ < _
    change s.send.rank SendStage.rank (next.camMon.picTakeSend = SEND_PIC_STATE) ≤
      s.send.rank SendStage.rank (s.shared.camMon.picTakeSend = SEND_PIC_STATE) at others
    omega

theorem Attended.send_progress (attended : Attended s) (lost : s.shared.isConnected = false)
    (free : s.send.holds = true ∨ s.shared.globalMutex = none)
    (awake : s.send = .waiting → s.shared.camMon.picTakeSend = SEND_PIC_STATE)
    (there : s.send ≠ .returned) :
    ∃ action t es, Server.step sane s action = some (t, es) ∧
      (Attended t ∧ t.shared.isConnected = false) ∧ t.rank < s.rank := by
  have stepped : ∃ next q es,
      sendPictureTask sane 0 s.shared s.send = some (next, q, es) ∧
        q.rank SendStage.rank (next.camMon.picTakeSend = SEND_PIC_STATE) <
          s.send.rank SendStage.rank (s.shared.camMon.picTakeSend = SEND_PIC_STATE) := by
    unfold sendPictureTask
    split
    · next stage at_ =>
      obtain ⟨⟨next, q, es⟩, taken⟩ := @sendWork_progress sane 0 s.shared stage
      rw [at_]
      exact ⟨next, q, es, taken, (sendWork_worked taken).2⟩
    · next idle => exact outline_progress (by decide) lost idle free awake there
  obtain ⟨next, q, es, taken, nearer⟩ := stepped
  have moved := attended.send_moved taken
  have others := moved.rank_le attended.sendTurn TakeStage.rank s.take
  refine ⟨.send 0, { s with shared := next, send := q }, es, ?_,
    ⟨attended.send_step moved, moved.connected.trans lost⟩, ?_⟩
  · simp only [Server.step, taken]
  · simp only [Server.rank]
    change s.take.rank TakeStage.rank (next.camMon.picTakeSend = TAKE_PIC_STATE) + _ + _ < _
    change s.take.rank TakeStage.rank (next.camMon.picTakeSend = TAKE_PIC_STATE) ≤
      s.take.rank TakeStage.rank (s.shared.camMon.picTakeSend = TAKE_PIC_STATE) at others
    omega

theorem Attended.update_progress (attended : Attended s) (lost : s.shared.isConnected = false)
    (there : s.update ≠ .returned) :
    ∃ action t es, Server.step sane s action = some (t, es) ∧
      (Attended t ∧ t.shared.isConnected = false) ∧ t.rank < s.rank := by
  have stepped : ∃ t es, updateModeTask .error s = some (t, es) ∧
      t.shared.isConnected = false ∧ t.rank < s.rank := by
    cases at_ : s.update with
    | read => exact absurd at_ (attended.lost lost).2
    | returned => exact absurd at_ there
    | test =>
      simp only [updateModeTask, at_, lost]
      have nearer : UpdatePosition.close.rank < s.update.rank := by rw [at_]; decide
      exact ⟨_, _, rfl, lost, Nat.add_lt_add_left nearer _⟩
    | setMode =>
      simp only [updateModeTask, at_]
      have nearer : UpdatePosition.test.rank < s.update.rank := by rw [at_]; decide
      exact ⟨_, _, rfl, lost, Nat.add_lt_add_left nearer _⟩
    | close =>
      simp only [updateModeTask, at_]
      have nearer : UpdatePosition.returned.rank < s.update.rank := by rw [at_]; decide
      exact ⟨_, _, rfl, lost, Nat.add_lt_add_left nearer _⟩
  obtain ⟨t, es, taken, still, nearer⟩ := stepped
  have served : DisconnectsServed s (.update .error) := trivial
  exact ⟨.update .error, t, es, taken, ⟨attended.update_step served taken, still⟩, nearer⟩

/-- After a disconnect some task can go on until all have returned. -/
theorem Attended.progress (attended : Attended s) (lost : s.shared.isConnected = false)
    (unfinished : ¬ s.Joined) :
    ∃ action t es, Server.step sane s action = some (t, es) ∧
      (Attended t ∧ t.shared.isConnected = false) ∧ t.rank < s.rank := by
  by_cases updated : s.update = .returned
  case neg => exact attended.update_progress lost updated
  by_cases held : s.shared.globalMutex = none
  case neg =>
    -- who holds the mutex can go on
    cases owner : s.shared.globalMutex with
    | none => exact absurd owner held
    | some task =>
      cases task with
      | take =>
        have holds := attended.takeLocked.mpr owner
        exact attended.take_progress lost (.inl holds) (fun at_ => by rw [at_] at holds; cases holds)
          (fun at_ => by rw [at_] at holds; cases holds)
      | send =>
        have holds := attended.sendLocked.mpr owner
        exact attended.send_progress lost (.inl holds) (fun at_ => by rw [at_] at holds; cases holds)
          (fun at_ => by rw [at_] at holds; cases holds)
  by_cases takeAwake : s.take = .waiting → s.shared.camMon.picTakeSend = TAKE_PIC_STATE
  case neg =>
    -- the take task waits for the turn of the send task to end, which is coming
    obtain ⟨at_, turn⟩ := Classical.not_imp.mp takeAwake
    have own := attended.turn.resolve_left turn
    have coming := (attended.lost lost).1.2 own (by rw [at_]; rfl)
    exact attended.send_progress lost (.inr held) (fun _ => own)
      (fun gone => by rw [gone] at coming; cases coming)
  by_cases takeThere : s.take = .returned
  case neg => exact attended.take_progress lost (.inr held) takeAwake takeThere
  by_cases sendThere : s.send = .returned
  case pos => exact absurd ⟨takeThere, sendThere, updated⟩ unfinished
  refine attended.send_progress lost (.inr held) ?_ sendThere
  intro at_
  by_contra turn
  have coming := (attended.lost lost).1.1 (attended.turn.resolve_right turn) (by rw [at_]; rfl)
  rw [takeThere] at coming
  cases coming

end Progress

/-- In every run in which the mode connection never ends while one picture task waits for
the other and that one is past its turn, no task is stranded, and after a disconnect
the three tasks can always return. -/
theorem disconnect_strands_no_one {sane : Bool} {camMon : CameraMonitor} {actions : List Action}
    {s : Server} {log : List ServerEvent}
    (turn : camMon.picTakeSend = TAKE_PIC_STATE ∨ camMon.picTakeSend = SEND_PIC_STATE)
    (served : Guarded (Server.step sane) DisconnectsServed (.start camMon) actions)
    (ran : run (Server.step sane) (.start camMon) actions = some (s, log)) :
    ¬ s.Stranded ∧
      (s.shared.isConnected = false → CanReach (Server.step sane) Server.Joined s) := by
  have attended := run_preserves_of_guarded (Server.step sane) DisconnectsServed Attended
    (fun _ _ _ _ attended served taken => attended_step attended served taken)
    (attended_start turn) served ran
  refine ⟨attended.not_stranded, ?_⟩
  intro lost
  exact canReach_of_rank (Server.step sane) Server.rank
    (fun s held unfinished => Attended.progress held.1 held.2 unfinished) ⟨attended, lost⟩

instance {A B : Type} (task : Task) (shared : Shared) (p : Position A) (q : Position B) :
    Decidable (Serves task shared p q) :=
  inferInstanceAs (Decidable (shared.camMon.picTakeSend = task.turn → q.entering = true → p.coming = true))

instance (s : Server) (action : Action) : Decidable (DisconnectsServed s action) :=
  match action with
  | .update .endOfFile => inferInstanceAs (Decidable (s.update = .read →
      Serves .take s.shared s.take s.send ∧ Serves .send s.shared s.send s.take))
  | .update (.byte _) | .update .error | .take _ _ | .send _ | .accept => .isTrue trivial

def servedDisconnect : List Action :=
  List.replicate 4 (.send 0) ++ List.replicate 4 (.take none (.filled BUFSIZE 0)) ++
    List.replicate 2 (.update .endOfFile)

theorem served_disconnect_strands_no_one : ∃ s log,
    run (Server.step true) (.start (.init (.filled BUFSIZE 0) 0 true)) servedDisconnect = some (s, log) ∧
      s.shared.isConnected = false ∧ s.send = .waiting ∧ s.take = .work .capture ∧ ¬ s.Stranded ∧
      CanReach (Server.step true) Server.Joined s := by
  obtain ⟨safe, joins⟩ := @disconnect_strands_no_one true
    (.init (.filled BUFSIZE 0) 0 true) servedDisconnect _ _ (.inl rfl) (by decide +kernel) rfl
  exact ⟨_, _, rfl, rfl, rfl, rfl, safe, joins rfl⟩

def lateDisconnect : List Action :=
  List.replicate 4 (.send 0) ++ List.replicate 2 (.update .endOfFile) ++
    List.replicate 2 (.take none (.filled BUFSIZE 0)) ++ List.replicate 3 (.update .endOfFile)

theorem late_disconnect_strands_send : ∃ s log,
    run (Server.step true) (.start (.init (.filled BUFSIZE 0) 0 true)) lateDisconnect = some (s, log) ∧
      s.update = .returned ∧ s.Stranded :=
  ⟨_, _, rfl, rfl, .inr ⟨rfl, (by decide : TAKE_PIC_STATE ≠ SEND_PIC_STATE), rfl⟩⟩

end NetCam.Camera
