import NetCam.Network.Group
import NetCam.Network.Receivers

/-! What follows when a receiver has come to the end of a stream.

A `break` leads around the clause that deactivates the connection. The receiver is back at its
socket at once, unless another thread has got the connection replaced by then.
-/

set_option autoImplicit false

namespace NetCam.Network

open Semantics

namespace PictureReciever

def Stage.window : Stage → Option (Nat × Nat)
  | .fill => none
  | .header n size => some (n, size)
  | .data _ _ currentPosition size => some (currentPosition, size)

theorem decodeHeader_ne_breaks (buffer : Buffer) : (decodeHeader buffer).1 ≠ .breaks := by
  unfold decodeHeader
  split <;> simp

theorem put_ne_breaks (camNbr : Client.Cam) (ts : Int64) (pictureSize : Nat) (buffer : Buffer) :
    (put camNbr ts pictureSize buffer).1 ≠ .breaks := by
  unfold put
  split <;> simp

/-- The thread leaves the loop by a `break` exactly when its read returned `-1`. -/
theorem turn_breaks_iff {moment : Moment} {fields : Fields} {stage : Stage} :
    (turn moment fields stage).1 = .breaks ↔ ∃ off len, stage.window = some (off, len) ∧
      moment.fails = false ∧
      ∃ is, InputStream.read fields.buffer off len moment.is = .ok (-1, fields.buffer) is := by
  cases stage with
  | fill => simp [turn, Stage.window]
  | header n size =>
    simp only [turn, Stage.window, readTurn_breaks_iff decodeHeader_ne_breaks]
    simp
  | data ts pictureSize currentPosition size =>
    simp only [turn, Stage.window, readTurn_breaks_iff (put_ne_breaks fields.camNbr ts pictureSize)]
    simp

end PictureReciever

namespace MotionDataReceiver

def Stage.window : Stage → Nat × Nat
  | .header n size => (n, size)
  | .times n size => (n, size)

theorem decodeHeader_ne_breaks (buffer : MotionPack.Buffer) : (decodeHeader buffer).1 ≠ .breaks := by
  unfold decodeHeader
  repeat' split
  all_goals simp

theorem report_ne_breaks (lastMotionTime : Int32) (camNbr : Client.Cam) (buffer : MotionPack.Buffer) :
    (report lastMotionTime camNbr buffer).1 ≠ .breaks := by
  unfold report
  split <;> simp

theorem turn_breaks_iff {moment : Moment} {fields : Fields} {stage : Stage} :
    (turn moment fields stage).1 = .breaks ↔ moment.fails = false ∧
      ∃ is, InputStream.read fields.buffer stage.window.1 stage.window.2 moment.is =
        .ok (-1, fields.buffer) is := by
  cases stage with
  | header n size =>
    simp only [turn, Stage.window, readTurn_breaks_iff decodeHeader_ne_breaks]
  | times n size =>
    simp only [turn, Stage.window,
      readTurn_breaks_iff (report_ne_breaks fields.lastMotionTime fields.camNbr)]

end MotionDataReceiver

-- The thread is at work on a socket whose stream it left at the end, and it has not called
-- `setActive(false)` since.
def Thread.rereads {program : Program} (thread : Thread program) : Bool :=
  match thread.position with
  | .work socket _ => thread.ended == some socket
  | _ => false

namespace Group

variable {ι : Type} [DecidableEq ι] {programs : ι → Program}

def NeverRereads (s : Group programs) : Prop := ∀ i, (s.threads i).rereads = false

/-- When a thread that has come to the end of a stream takes the socket of the monitor, that
is another one by then. -/
def Replaced (s : Group programs) : GroupAction ι → Prop
  | .thread i moment => (s.threads i).position = .getSocket → moment.fails = false →
    (s.threads i).ended = none ∨ (s.threads i).ended ≠ s.monitor.getSocket
  | _ => True

end Group

section Steps

variable {program : Program} {monitor next : NetMonitor Nat} {moment : Moment}
  {thread after : Thread program} {reports : List program.Report}

theorem rereads_of_not_work (idle : ∀ socket stage, thread.position ≠ .work socket stage) :
    thread.rereads = false := by
  unfold Thread.rereads
  split
  · next socket stage at_ => exact absurd at_ (idle socket stage)
  · rfl

theorem otherException_not_work (socket : Nat) (stage : program.Stage) :
    program.otherException ≠ .work socket stage := by
  rcases program.otherException_cases with left | left <;> rw [left] <;> simp

/-- A thread comes back to the same socket only by taking it from the monitor. -/
theorem step_rereads_iff (fresh : thread.rereads = false)
    (taken : program.step monitor moment thread = some (next, after, reports)) :
    after.rereads = false ↔ (thread.position = .getSocket → moment.fails = false →
      thread.ended = none ∨ thread.ended ≠ monitor.getSocket) := by
  cases Program.step_moves taken with
  | noSocket at_ nothing =>
    refine iff_of_true (rereads_of_not_work otherException_not_work) ?_
    intro _ _
    rw [nothing]
    cases thread.ended <;> simp
  | noStream at_ current fails =>
    refine iff_of_true rfl ?_
    intro _ works
    rw [fails] at works
    cases works
  | @takes socket at_ current works =>
    rw [at_, current, works]
    change (thread.ended == some socket) = false ↔ _
    cases thread.ended <;> simp
  | goesOn at_ =>
    refine iff_of_true ?_ (by simp [at_])
    unfold Thread.rereads at fresh
    simp only [at_] at fresh
    exact fresh
  | otherException at_ =>
    exact iff_of_true (rereads_of_not_work otherException_not_work) (by simp [at_])
  | goesIn at_ | exits at_ | waits at_ | breaks at_ | ioException at_ | setsInactive at_ | shutsDown at_ =>
    exact iff_of_true rfl (by simp [at_])

end Steps

namespace Group

variable {ι : Type} [DecidableEq ι] {programs : ι → Program}

theorem neverRereads_iff_replaced {s next : Group programs} {action : GroupAction ι}
    {events : List SocketEvent} (never : s.NeverRereads) (taken : step s action = some (next, events)) :
    next.NeverRereads ↔ s.Replaced action := by
  cases action with
  | thread i moment =>
    obtain ⟨monitor, thread, reports, moved, rfl, _⟩ := step_thread taken
    exact (forall_update_iff (P := fun _ thread => thread.rereads = false) never).trans
      (step_rereads_iff (never i) moved)
  | connector fails =>
    obtain ⟨_, _, _, _, _, rfl, _⟩ := step_connector taken
    exact iff_of_true never trivial
  | closer =>
    obtain ⟨_, _, _, rfl, _⟩ := step_closer taken
    exact iff_of_true never trivial
  | shutDown =>
    cases taken
    exact iff_of_true never trivial

theorem stuck_replaced {s : Group programs} {action : GroupAction ι} (stuck : step s action = none) :
    s.Replaced action := by
  cases action with
  | thread i moment =>
    intro taking
    simp only [step, Program.step, taking] at stuck
    cases stuck
  | connector _ | closer | shutDown => trivial

end Group

/-- No thread reads on at the end of a stream exactly if the monitor has another socket
whenever one that has been there asks for it. -/
theorem never_rereads_iff {ι : Type} [DecidableEq ι] {programs : ι → Program}
    (fields : (i : ι) → (programs i).Fields) (actions : List (GroupAction ι)) :
    Always Group.step Group.NeverRereads (.start fields : Group programs) actions ↔
      Guarded Group.step Group.Replaced (.start fields : Group programs) actions := by
  apply always_iff_guarded
  · intro s action _ stuck
    exact Group.stuck_replaced stuck
  · intro s action next events never taken
    exact Group.neverRereads_iff_replaced never taken
  · intro i
    rfl

def pictureThreads : Unit → Program := fun _ => .pictureReciever

def pictureGroup : Group pictureThreads :=
  .start fun _ => ⟨.filled MAXIMUM_PICTURE_SIZE 0, .one⟩

def closedByServer : Moment := ⟨⟨[], [], false⟩, false, .fresh⟩

/-- The client connects, and the server closes the connection at once. The receiver comes
to the end of the stream and takes the same socket again. -/
def serverCloses : List (GroupAction Unit) :=
  List.replicate 4 (.connector false) ++ List.replicate 8 (.thread () closedByServer)

def oneMoreRound : List (GroupAction Unit) := List.replicate 5 (.thread () closedByServer)

theorem receiver_loops_at_end : ∃ s again, run Group.step pictureGroup serverCloses = some (s, [.set 0]) ∧
    run Group.step s oneMoreRound = some (again, []) ∧
    again.connecting = .waitUntilNotActive ∧ again.monitor.isActive = true ∧
    (s.threads ()).rereads = true ∧ (again.threads ()).rereads = true ∧
    ¬ Always Group.step Group.NeverRereads pictureGroup serverCloses := by
  refine ⟨_, _, rfl, rfl, rfl, rfl, rfl, rfl, ?_⟩
  intro always
  have never := of_always Group.step always rfl ()
  cases never

end NetCam.Network
