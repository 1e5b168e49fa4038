import NetCam.Network.MotionAnswers
import NetCam.Network.StaleFailure

/-! The motion server and a client, over connections that come and go.

The server answers one request on each connection and then closes it, so the client has to
connect again for the next answer. An answer arrives whole or not at all, and the receiver leaves
the last two bytes of it on the socket.
-/

set_option autoImplicit false

namespace NetCam.Network

open Semantics

/-- The connections have the numbers of the client's sockets, and `served` is the first one that
the server has not come to. No step reads `answers`: it remembers the state and the clock that a
connection was answered with. -/
structure MotionFeed where
  task : Motion.MotionTask
  served : Nat
  asked : Nat → Bool
  answers : Nat → Option (Motion.GlobalState × Int32)
  unread : Nat → List UInt8
  closed : Nat → Bool
  client : Group motionThreads

/-- The camera notifies the server, and the server comes to a connection that carries a request.
What a lost connection still had on its way is gone. -/
inductive MotionAction where
  | notifies (polled : Motion.Poll)
  | serves (socket : Nat) (now : Int32)
  | loses (socket : Nat)
  | sender (fails : Bool)
  | receiver (reset fails : Bool)
  | connector (fails : Bool)
  | closer
  | shutDown

structure Verdict where
  socket : Nat
  call : Option MotionDataReceiver.Call
  deriving DecidableEq, Repr

def MotionDataReceiver.Stage.len : MotionDataReceiver.Stage → Nat
  | .header _ size => size
  | .times _ size => size

/-- The read for nothing behind the times is followed by the verdict. -/
def MotionDataReceiver.verdicts (socket : Nat) (fields : Fields) : Stage → List Verdict
  | .times _ 0 => [⟨socket, (report fields.lastMotionTime fields.camNbr fields.buffer).2.head?⟩]
  | _ => []

namespace MotionFeed

def start (c : Client.Cam) : MotionFeed :=
  { task := .start ⟨0, 0⟩
    served := 0
    asked := fun _ => false
    answers := fun _ => none
    unread := fun _ => []
    closed := fun _ => false
    client := .start fun
      | .sender => ()
      | .receiver => MotionDataReceiver.fields c }

def sender (s : MotionFeed) : Thread Program.motionRequestSender := s.client.threads .sender

def receiver (s : MotionFeed) : Thread Program.motionDataReceiver := s.client.threads .receiver

def afterWrite (s : MotionFeed) (fails : Bool) : Nat → Bool :=
  match s.sender.position with
  | .work socket .write => if fails then s.asked else Function.update s.asked socket true
  | _ => s.asked

def blocks (s : MotionFeed) : Bool :=
  match s.receiver.position with
  | .work socket stage => stage.len != 0 && (s.unread socket).isEmpty && !s.closed socket
  | _ => false

-- A read for nothing returns at once, whatever has become of the connection.
def moment (s : MotionFeed) (reset fails : Bool) : Moment :=
  match s.receiver.position with
  | .work socket stage => ⟨⟨s.unread socket, [], reset⟩, fails && stage.len != 0, .fresh⟩
  | _ => ⟨⟨[], [], reset⟩, fails, .fresh⟩

def afterRead (s : MotionFeed) (fails : Bool) : Nat → List UInt8 :=
  match s.receiver.position with
  | .work socket stage =>
    if fails && stage.len != 0 then s.unread
    else Function.update s.unread socket ((s.unread socket).drop stage.len)
  | _ => s.unread

def verdicts (s : MotionFeed) : List Verdict :=
  match s.receiver.position with
  | .work socket stage => MotionDataReceiver.verdicts socket s.receiver.fields stage
  | _ => []

def clientStep (s : MotionFeed) (action : GroupAction MotionThread) : Option (MotionFeed × List Verdict) :=
  match Group.step s.client action with
  | some (client, _) => some ({ s with client := client }, [])
  | none => none

def step : Step MotionFeed MotionAction Verdict
  | s, .notifies polled =>
    match Motion.motionTask s.task polled with
    | some (task, _) => some ({ s with task := task }, [])
    | none => none
  | s, .serves socket now =>
    -- connections are accepted in order, and nothing reaches one that is lost
    if s.served ≤ socket ∧ s.asked socket = true then
      match Motion.serveClient s.task.state ⟨MotionPack.pack, now, by decide⟩ with
      | some response =>
        some ({ s with
          served := socket + 1
          answers := Function.update s.answers socket (some (s.task.state, now))
          unread := if s.closed socket then s.unread else Function.update s.unread socket response
          closed := Function.update s.closed socket true }, [])
      | none => none
    else none
  | s, .loses socket =>
    some ({ s with
      unread := Function.update s.unread socket []
      closed := Function.update s.closed socket true }, [])
  | s, .sender fails =>
    match Group.step s.client (.thread .sender ⟨⟨[], [], false⟩, fails, .fresh⟩) with
    | some (client, _) => some ({ s with client := client, asked := s.afterWrite fails }, [])
    | none => none
  | s, .receiver reset fails =>
    if s.blocks && !fails then none
    else
      match Group.step s.client (.thread .receiver (s.moment reset fails)) with
      | some (client, _) => some ({ s with client := client, unread := s.afterRead fails }, s.verdicts)
      | none => none
  | s, .connector fails => s.clientStep (.connector fails)
  | s, .closer => s.clientStep .closer
  | s, .shutDown => s.clientStep .shutDown

end MotionFeed

inductive Exchange where
  | idle (i : Idle)
  | answer (a : Answer)

/-- How many digits the first number of an answer has. One that was given before the first
notification is the shortest as a whole, and counts for none. -/
def digits : Motion.GlobalState × Int32 → Nat
  | (state, now) =>
    if state = ⟨0, 0⟩ then 0 else (signedNumeral (now.toInt - state.tLocal.toInt)).length

namespace Exchange

def entry : Exchange → Motion.GlobalState × Int32
  | idle i => (⟨0, 0⟩, i.now)
  | answer a => (a.state, a.now)

def times : Exchange → Times
  | idle i => i.times
  | answer a => a.times

theorem served (x : Exchange) :
    Motion.serveClient x.entry.1 ⟨MotionPack.pack, x.entry.2, by decide⟩ = some x.times.response := by
  cases x with
  | idle i => exact i.served
  | answer a => exact a.served

theorem notified (a : Answer) : a.state ≠ ⟨0, 0⟩ := by
  intro never
  have late := a.late
  rw [never] at late
  exact absurd late (by decide)

theorem digits_answer (a : Answer) : digits (answer a).entry = a.elapsed.length := by
  unfold Answer.elapsed
  rw [a.tdiff_toInt]
  exact if_neg (notified a)

end Exchange

/-- The camera's notifications carry a time, every clock shows one of ten digits, and the answers
come less than thirty years after the notification. -/
def MotionFeed.Timely (s : MotionFeed) : MotionAction → Prop
  | .notifies (.delivers request _) => 10 ^ 9 ≤ request.now.toInt
  | .serves _ now => ∃ x : Exchange, x.entry = (s.task.state, now)
  | _ => True

namespace Group

variable {ι : Type} [DecidableEq ι] {programs : ι → Program} {s next : Group programs}
  {action : GroupAction ι} {events : List SocketEvent}

/-- Each socket of the monitor is newer than the last, and a thread works on none that is newer
than the monitor's. -/
structure Ascending (s : Group programs) : Prop where
  opened : ∀ k, s.monitor.getSocket = some k → k < s.opened
  pending : ∀ k, s.connecting = .setSocket k → k < s.opened ∧ ∀ m, s.monitor.getSocket = some m → m < k
  working : ∀ i k stage, (s.threads i).position = .work k stage →
    ∃ m, s.monitor.getSocket = some m ∧ k ≤ m

omit [DecidableEq ι] in
theorem ascending_start (fields : (i : ι) → (programs i).Fields) : Ascending (start fields) :=
  ⟨fun _ there => (by cases there), fun _ there => (by cases there), fun _ _ _ there => (by cases there)⟩

theorem ascending_connector {fails : Bool} (ascending : s.Ascending)
    (taken : step s (.connector fails) = some (next, events)) : next.Ascending := by
  cases connector_moves taken with
  | exits | goesOn | throws | activates | waits | closes =>
    exact ⟨ascending.opened, fun k there => (by cases there), ascending.working⟩
  | opens =>
    refine ⟨fun k there => Nat.lt_succ_of_lt (ascending.opened k there), ?_, ascending.working⟩
    rintro _ ⟨⟩
    exact ⟨Nat.lt_succ_self _, ascending.opened⟩
  | @sets k at_ =>
    obtain ⟨below, newer⟩ := ascending.pending k at_
    refine ⟨?_, fun j there => (by cases there), ?_⟩
    · rintro _ ⟨⟩
      exact below
    · -- a thread may still be at work on an older socket
      intro i j stage there
      obtain ⟨m, current, behind⟩ := ascending.working i j stage there
      exact ⟨k, rfl, Nat.le_trans behind (Nat.le_of_lt (newer m current))⟩

theorem step_working {program : Program} {monitor after : NetMonitor Nat} {moment : Moment}
    {thread last : Thread program} {reports : List program.Report} {k : Nat} {stage : program.Stage}
    (moved : program.step monitor moment thread = some (after, last, reports))
    (at_ : last.position = .work k stage) :
    monitor.getSocket = some k ∨ ∃ earlier, thread.position = .work k earlier := by
  cases Program.step_moves moved with
  | takes _ current =>
    cases at_
    exact .inl current
  | goesOn there =>
    cases at_
    exact .inr ⟨_, there⟩
  | noSocket | otherException =>
    rcases program.otherException_cases with left | left <;> cases left.symm.trans at_
  | _ => cases at_

/-- The monitor keeps its socket, or gets a newer one. -/
theorem Ascending.later (ascending : s.Ascending) (taken : step s action = some (next, events)) {k : Nat}
    (current : s.monitor.getSocket = some k) : ∃ m, next.monitor.getSocket = some m ∧ k ≤ m := by
  have kept (same : next.monitor.getSocket = s.monitor.getSocket) :
      ∃ m, next.monitor.getSocket = some m ∧ k ≤ m := ⟨k, same.trans current, Nat.le_refl k⟩
  cases action with
  | thread i moment =>
    obtain ⟨_, _, _, moved, rfl, _⟩ := step_thread taken
    exact kept (Program.step_getSocket moved)
  | connector fails =>
    cases connector_moves taken with
    | @sets m setting => exact ⟨m, rfl, Nat.le_of_lt ((ascending.pending m setting).2 k current)⟩
    | exits | goesOn | throws | opens | activates | waits | closes => exact kept rfl
  | closer =>
    obtain ⟨_, _, _, rfl, _⟩ := step_closer taken
    exact kept rfl
  | shutDown =>
    cases taken
    exact kept rfl

theorem shutdown_stays (taken : step s action = some (next, events)) (down : s.monitor.isShutdown = true) :
    next.monitor.isShutdown = true := by
  cases action with
  | thread i moment =>
    obtain ⟨_, _, _, moved, rfl, _⟩ := step_thread taken
    rcases Program.step_monitor moved with rfl | rfl | ⟨_, rfl⟩
    · exact down
    · exact down
    · rfl
  | connector fails =>
    cases connector_moves taken <;> exact down
  | closer =>
    obtain ⟨_, _, _, rfl, _⟩ := step_closer taken
    exact down
  | shutDown =>
    cases taken
    rfl

theorem ascending_step (ascending : s.Ascending) (taken : step s action = some (next, events)) :
    next.Ascending := by
  cases action with
  | thread i moment =>
    obtain ⟨monitor, thread, reports, moved, rfl, _⟩ := step_thread taken
    have same := Program.step_getSocket moved
    refine ⟨?_, ?_, ?_⟩
    · rw [same]
      exact ascending.opened
    · rw [same]
      exact ascending.pending
    · rw [same]
      apply (forall_update_iff (P := fun _ thread => ∀ k stage, thread.position = .work k stage →
        ∃ m, s.monitor.getSocket = some m ∧ k ≤ m) ascending.working).mpr
      intro k stage there
      rcases step_working moved there with current | ⟨earlier, before⟩
      · exact ⟨k, current, Nat.le_refl k⟩
      · exact ascending.working i k earlier before
  | connector fails => exact ascending_connector ascending taken
  | closer =>
    obtain ⟨_, _, _, rfl, _⟩ := step_closer taken
    exact ⟨ascending.opened, ascending.pending, ascending.working⟩
  | shutDown =>
    cases taken
    exact ⟨ascending.opened, ascending.pending, ascending.working⟩

end Group

end NetCam.Network
