import NetCam.Network.Group
import NetCam.Network.Receivers
import NetCam.Network.Senders

/-! Which connection an `IOException` takes down.

A thread does not say which socket failed when it calls `setActive(false)`. By then the
monitor may hold another one.
-/

set_option autoImplicit false

namespace NetCam.Network

open Semantics

-- The socket on which the `IOException` occurred that the thread answers next.
def Thread.failed {program : Program} (thread : Thread program) : Option Nat :=
  match thread.position with
  | .setInactive socket => some socket
  | _ => none

/-- The thread's next operation on its socket throws an `IOException`. -/
def Thread.Throws {program : Program} (thread : Thread program) (moment : Moment) (socket : Nat) : Prop :=
  ∃ stage fields reports, thread.position = .work socket stage ∧
    program.turn moment thread.fields stage = some (.ioException, fields, reports)

namespace Group

variable {ι : Type} [DecidableEq ι] {programs : ι → Program}

/-- A thread that is about to set the connection inactive has failed on the monitor's socket. -/
def FailuresCurrent (s : Group programs) : Prop :=
  ∀ i, (s.threads i).failed = none ∨ (s.threads i).failed = s.monitor.getSocket

/-- A thread fails only while its socket is the monitor's, and the monitor gets another
one only when no thread is about to answer a failure. -/
def Timely (s : Group programs) : GroupAction ι → Prop
  | .thread i moment => ∀ socket, (s.threads i).Throws moment socket →
    s.monitor.getSocket = some socket
  | .connector _ => ∀ socket, s.connecting = .setSocket socket → ∀ i, (s.threads i).failed = none
  | _ => True

structure SocketsFresh (s : Group programs) : Prop where
  opened : ∀ socket, s.monitor.getSocket = some socket → socket < s.opened
  pending : ∀ socket, s.connecting = .setSocket socket →
    socket < s.opened ∧ s.monitor.getSocket ≠ some socket

end Group

section Steps

variable {program : Program} {monitor next : NetMonitor Nat} {moment : Moment}
  {thread after : Thread program} {reports : List program.Report}

theorem otherException_failed (fields : program.Fields) (ended : Option Nat) :
    (Thread.mk program.otherException fields ended : Thread program).failed = none := by
  unfold Thread.failed
  rcases program.otherException_cases with left | left <;> rw [left]

theorem step_of_failed {socket : Nat} (monitor : NetMonitor Nat) (moment : Moment)
    (failed : thread.failed = some socket) :
    ∃ after, program.step monitor moment thread = some (monitor.setActive false, after, []) := by
  unfold Thread.failed at failed
  split at failed
  · next socket at_ =>
    simp only [Program.step, at_]
    exact ⟨_, rfl⟩
  · cases failed

theorem step_failed_iff (taken : program.step monitor moment thread = some (next, after, reports)) :
    (after.failed = none ∨ after.failed = monitor.getSocket) ↔
      ∀ socket, thread.Throws moment socket → monitor.getSocket = some socket := by
  have idle (quiet : ∀ socket stage, thread.position = .work socket stage →
        ∀ fields reports, program.turn moment thread.fields stage ≠ some (.ioException, fields, reports)) :
      ∀ socket, thread.Throws moment socket → monitor.getSocket = some socket := by
    rintro socket ⟨stage, fields, reports, at_, threw⟩
    exact absurd threw (quiet socket stage at_ fields reports)
  cases Program.step_moves taken with
  | noSocket at_ => exact iff_of_true (.inl (otherException_failed _ _)) (idle (by simp [at_]))
  | noStream at_ current => exact iff_of_true (.inr current.symm) (idle (by simp [at_]))
  | @ioException socket stage fields _ at_ turned =>
    change some socket = none ∨ some socket = monitor.getSocket ↔ _
    constructor
    · rintro (none_failed | current) failing ⟨_, _, _, there, _⟩
      · cases none_failed
      · rw [at_] at there
        cases there
        exact current.symm
    · intro current
      exact .inr (current socket ⟨stage, _, _, at_, turned⟩).symm
  | otherException at_ turned =>
    exact iff_of_true (.inl (otherException_failed _ _)) (idle (by simp [at_, turned]))
  | goesOn at_ turned | breaks at_ turned => exact iff_of_true (.inl rfl) (idle (by simp [at_, turned]))
  | goesIn at_ | exits at_ | waits at_ | takes at_ | setsInactive at_ | shutsDown at_ =>
    exact iff_of_true (.inl rfl) (idle (by simp [at_]))

end Steps

namespace Group

variable {ι : Type} [DecidableEq ι] {programs : ι → Program} {s next : Group programs}
  {action : GroupAction ι} {events : List SocketEvent}

theorem socketsFresh_connector {fails : Bool} (fresh : s.SocketsFresh)
    (taken : step s (.connector fails) = some (next, events)) : next.SocketsFresh := by
  cases connector_moves taken with
  | exits | goesOn | throws | activates | waits | closes =>
    exact ⟨fresh.opened, fun socket there => (by cases there)⟩
  | opens =>
    refine ⟨fun socket there => Nat.lt_succ_of_lt (fresh.opened socket there), ?_⟩
    rintro _ ⟨⟩
    -- the number of a new socket is that of the sockets opened before
    refine ⟨Nat.lt_succ_self _, ?_⟩
    intro there
    exact absurd (fresh.opened _ there) (Nat.lt_irrefl _)
  | @sets socket at_ =>
    refine ⟨?_, fun socket there => (by cases there)⟩
    rintro _ ⟨⟩
    exact (fresh.pending socket at_).1

theorem socketsFresh_step (fresh : s.SocketsFresh) (taken : step s action = some (next, events)) :
    next.SocketsFresh := by
  cases action with
  | thread i moment =>
    obtain ⟨monitor, thread, reports, moved, rfl, _⟩ := step_thread taken
    have same := Program.step_getSocket moved
    refine ⟨?_, ?_⟩
    · intro socket there
      exact fresh.opened socket (same ▸ there)
    · intro socket there
      obtain ⟨below, other⟩ := fresh.pending socket there
      exact ⟨below, fun current => other (same ▸ current)⟩
  | connector fails => exact socketsFresh_connector fresh taken
  | closer =>
    obtain ⟨_, _, _, rfl, _⟩ := step_closer taken
    exact ⟨fresh.opened, fresh.pending⟩
  | shutDown =>
    cases taken
    exact ⟨fresh.opened, fresh.pending⟩

theorem failuresCurrent_iff_timely (fresh : s.SocketsFresh) (current : s.FailuresCurrent)
    (taken : step s action = some (next, events)) : next.FailuresCurrent ↔ s.Timely action := by
  cases action with
  | thread i moment =>
    obtain ⟨monitor, thread, reports, moved, rfl, _⟩ := step_thread taken
    have law := step_failed_iff moved
    unfold FailuresCurrent
    rw [Program.step_getSocket moved]
    exact (forall_update_iff
      (P := fun _ thread => thread.failed = none ∨ thread.failed = s.monitor.getSocket) current).trans law
  | connector fails =>
    cases connector_moves taken with
    | @sets socket at_ =>
      have other := (fresh.pending socket at_).2
      change (∀ i, (s.threads i).failed = none ∨ (s.threads i).failed = some socket) ↔ _
      constructor
      · intro all _ _ i
        rcases all i with none_failed | new
        · exact none_failed
        · rcases current i with none_failed | old
          · exact none_failed
          · exact absurd (old.symm.trans new) other
      · intro timely i
        exact .inl (timely socket at_ i)
    | exits at_ | goesOn at_ | throws at_ | opens at_ | activates at_ | waits at_ | closes at_ =>
      exact iff_of_true current fun socket there => (by cases at_.symm.trans there)
  | closer =>
    obtain ⟨_, _, _, rfl, _⟩ := step_closer taken
    exact iff_of_true current trivial
  | shutDown =>
    cases taken
    exact iff_of_true current trivial

theorem stuck_timely (stuck : step s action = none) : s.Timely action := by
  cases action with
  | thread i moment =>
    rintro socket ⟨stage, fields, reports, there, threw⟩
    simp only [step, Program.step, there, threw] at stuck
    cases stuck
  | connector fails =>
    intro socket there
    simp only [step, there, clientConnectionThread] at stuck
    cases stuck
  | closer | shutDown => trivial

end Group

/-- Every failure that is answered with `setActive(false)` is one of the monitor's socket
exactly if each is answered before the monitor gets the next socket. -/
theorem failures_current_iff {ι : Type} [DecidableEq ι] {programs : ι → Program}
    (fields : (i : ι) → (programs i).Fields) (actions : List (GroupAction ι)) :
    Always Group.step Group.FailuresCurrent (.start fields : Group programs) actions ↔
      Guarded Group.step Group.Timely (.start fields : Group programs) actions := by
  apply @always_iff_guarded_of_inv _ _ _ Group.step Group.Timely Group.FailuresCurrent Group.SocketsFresh
  · intro s action _ _ stuck
    exact Group.stuck_timely stuck
  · intro s action next events fresh current taken
    exact Group.failuresCurrent_iff_timely fresh current taken
  · intro s action next events fresh taken
    exact Group.socketsFresh_step fresh taken
  · exact ⟨fun socket there => (by cases there), fun socket there => (by cases there)⟩
  · intro i
    exact .inl rfl

inductive MotionThread where
  | sender
  | receiver
  deriving DecidableEq, Repr

def motionThreads : MotionThread → Program
  | .sender => .motionRequestSender
  | .receiver => .motionDataReceiver

def motionGroup : Group motionThreads :=
  .start fun
    | .sender => ()
    | .receiver => MotionDataReceiver.fields .one

def calm : Moment := ⟨⟨[], [], true⟩, false, .fresh⟩

def failing : Moment := ⟨⟨[], [], true⟩, true, .fresh⟩

/-- The sender sleeps while the receiver's read fails and the client connects again. Then
the sender writes to the first socket. -/
def lateWrite : List (GroupAction MotionThread) :=
  List.replicate 4 (.connector false) ++ List.replicate 5 (.thread .sender calm) ++
    List.replicate 5 (.thread .receiver calm) ++ List.replicate 6 (.connector false) ++
    [.thread .sender calm, .thread .sender failing]

theorem late_write_ends_new_connection : ∃ s last,
    run Group.step motionGroup lateWrite = some (s, [.set 0, .closed 0, .set 1]) ∧
    s.monitor = { socket := some 1, isActive := true, shutdown := false } ∧
    (s.threads .sender).failed = some 0 ∧
    run Group.step s [.thread .sender calm] = some (last, []) ∧
    last.monitor = { socket := some 1, isActive := false, shutdown := false } ∧
    ¬ Always Group.step Group.FailuresCurrent motionGroup lateWrite := by
  have finishes : (run Group.step motionGroup lateWrite).map (fun reached =>
      (reached.1.monitor, (reached.1.threads .sender).failed, reached.2)) =
        some (⟨some 1, true, false⟩, some 0, [.set 0, .closed 0, .set 1]) := by decide +kernel
  obtain ⟨⟨s, log⟩, ran, reached⟩ := Option.map_eq_some_iff.mp finishes
  obtain ⟨monitor, failed, rfl⟩ : s.monitor = _ ∧ (s.threads .sender).failed = _ ∧ log = _ := by
    simpa only [Prod.mk.injEq] using reached
  obtain ⟨after, answered⟩ := step_of_failed s.monitor calm failed
  refine ⟨s, _, ran, monitor, failed, by simp only [run, Group.step, answered, List.append_nil]; rfl, ?_, ?_⟩
  · change s.monitor.setActive false = _
    rw [monitor]
    rfl
  · intro always
    rcases of_always Group.step always ran .sender with none_failed | current
    · rw [failed] at none_failed
      cases none_failed
    · rw [failed, monitor] at current
      cases current

end NetCam.Network
