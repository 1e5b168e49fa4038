import NetCam.Client.Monitor
import NetCam.Network.InputStream
import NetCam.Network.NetMonitor
import NetCam.Semantics.Trace

/-! The outline that the senders and receivers of `networking` share.

A thread waits until there is a connection, takes its socket, and works on it until it
leaves a loop or an exception is thrown. The threads differ in the work, which is given
one operation at a time. Nothing interrupts them, so an `InterruptedException` never occurs.
-/

set_option autoImplicit false

namespace NetCam.Network

open Semantics

/-- What a thread finds when it takes a step: the stream it reads from, whether the operation
on the socket throws an `IOException`, and the client's monitor. -/
structure Moment where
  is : InputStream
  fails : Bool
  cMon : Client.ClientMonitor

inductive Outcome (Stage : Type) where
  | goesOn (stage : Stage)
  | breaks
  | ioException
  | otherException

structure Program where
  Fields : Type
  Stage : Type
  Report : Type
  first : Stage
  /-- One operation, none while it waits; reports are calls and bytes that others see. -/
  turn : Moment → Fields → Stage → Option (Outcome Stage × Fields × List Report)
  /-- Whether every other exception is caught and answered with `shutdown`. -/
  catchesAll : Bool

inductive Position (Stage : Type) where
  | loop
  | waitUntilActive
  | getSocket
  | work (socket : Nat) (stage : Stage)
  | setInactive (socket : Nat)
  | shutDown
  | exited
  deriving DecidableEq, Repr

/-- No step reads `ended`: it remembers the socket whose stream was left at its end by a
`break`, until the thread calls `setActive(false)`. -/
structure Thread (program : Program) where
  position : Position program.Stage
  fields : program.Fields
  ended : Option Nat

namespace Program

variable {program : Program}

def start (program : Program) (fields : program.Fields) : Thread program :=
  { position := .loop, fields := fields, ended := none }

/-- Where an exception other than an `IOException` leads. -/
def otherException (program : Program) : Position program.Stage :=
  if program.catchesAll then .shutDown else .exited

def step (program : Program) (monitor : NetMonitor Nat) (moment : Moment) (thread : Thread program) :
    Option (NetMonitor Nat × Thread program × List program.Report) :=
  match thread.position with
  | .loop =>
    let position := if monitor.isShutdown then .exited else .waitUntilActive
    some (monitor, { thread with position := position }, [])
  | .waitUntilActive =>
    if monitor.waitUntilActive then some (monitor, { thread with position := .getSocket }, [])
    else none
  | .getSocket =>
    let position :=
      match monitor.getSocket with
      | none => program.otherException
      | some socket => if moment.fails then .setInactive socket else .work socket program.first
    some (monitor, { thread with position := position }, [])
  | .work socket stage =>
    match program.turn moment thread.fields stage with
    | none => none
    | some (.goesOn stage, fields, reports) =>
      some (monitor, { thread with position := .work socket stage, fields := fields }, reports)
    | some (.breaks, fields, reports) =>
      some (monitor, { position := .loop, fields := fields, ended := some socket }, reports)
    | some (.ioException, fields, reports) =>
      some (monitor, { thread with position := .setInactive socket, fields := fields }, reports)
    | some (.otherException, fields, reports) =>
      some (monitor, { thread with position := program.otherException, fields := fields }, reports)
  | .setInactive _ =>
    some (monitor.setActive false, { thread with position := .loop, ended := none }, [])
  | .shutDown => some (monitor.shutDown, { thread with position := .exited }, [])
  | .exited => none

theorem otherException_cases (program : Program) :
    program.otherException = .shutDown ∨ program.otherException = .exited := by
  unfold otherException
  cases program.catchesAll with
  | true => exact .inl rfl
  | false => exact .inr rfl

def alone (program : Program) : Step (Thread program) (NetMonitor Nat × Moment) program.Report :=
  fun thread (monitor, moment) =>
    match program.step monitor moment thread with
    | some (_, after, reports) => some (after, reports)
    | none => none

variable {monitor next : NetMonitor Nat} {moment : Moment} {thread after : Thread program}
  {reports : List program.Report}

inductive Moves (monitor : NetMonitor Nat) (moment : Moment) (thread : Thread program) :
    NetMonitor Nat → Thread program → List program.Report → Prop where
  | goesIn (at_ : thread.position = .loop) (up : monitor.isShutdown = false) :
    Moves monitor moment thread monitor { thread with position := .waitUntilActive } []
  | exits (at_ : thread.position = .loop) (down : monitor.isShutdown = true) :
    Moves monitor moment thread monitor { thread with position := .exited } []
  | waits (at_ : thread.position = .waitUntilActive) (active : monitor.waitUntilActive = true) :
    Moves monitor moment thread monitor { thread with position := .getSocket } []
  | noSocket (at_ : thread.position = .getSocket) (nothing : monitor.getSocket = none) :
    Moves monitor moment thread monitor { thread with position := program.otherException } []
  | noStream {socket : Nat} (at_ : thread.position = .getSocket)
      (current : monitor.getSocket = some socket) (fails : moment.fails = true) :
    Moves monitor moment thread monitor { thread with position := .setInactive socket } []
  | takes {socket : Nat} (at_ : thread.position = .getSocket)
      (current : monitor.getSocket = some socket) (works : moment.fails = false) :
    Moves monitor moment thread monitor { thread with position := .work socket program.first } []
  | goesOn {socket : Nat} {stage later : program.Stage} {fields : program.Fields}
      {reports : List program.Report} (at_ : thread.position = .work socket stage)
      (turned : program.turn moment thread.fields stage = some (.goesOn later, fields, reports)) :
    Moves monitor moment thread monitor { thread with position := .work socket later, fields := fields }
      reports
  | breaks {socket : Nat} {stage : program.Stage} {fields : program.Fields}
      {reports : List program.Report} (at_ : thread.position = .work socket stage)
      (turned : program.turn moment thread.fields stage = some (.breaks, fields, reports)) :
    Moves monitor moment thread monitor { position := .loop, fields := fields, ended := some socket }
      reports
  | ioException {socket : Nat} {stage : program.Stage} {fields : program.Fields}
      {reports : List program.Report} (at_ : thread.position = .work socket stage)
      (turned : program.turn moment thread.fields stage = some (.ioException, fields, reports)) :
    Moves monitor moment thread monitor { thread with position := .setInactive socket, fields := fields }
      reports
  | otherException {socket : Nat} {stage : program.Stage} {fields : program.Fields}
      {reports : List program.Report} (at_ : thread.position = .work socket stage)
      (turned : program.turn moment thread.fields stage = some (.otherException, fields, reports)) :
    Moves monitor moment thread monitor { thread with position := program.otherException, fields := fields }
      reports
  | setsInactive {socket : Nat} (at_ : thread.position = .setInactive socket) :
    Moves monitor moment thread (monitor.setActive false) { thread with position := .loop, ended := none } []
  | shutsDown (at_ : thread.position = .shutDown) :
    Moves monitor moment thread monitor.shutDown { thread with position := .exited } []

theorem step_moves (taken : program.step monitor moment thread = some (next, after, reports)) :
    program.Moves monitor moment thread next after reports := by
  cases at_ : thread.position with
  | loop =>
    simp only [step, at_] at taken
    cases taken
    cases down : monitor.isShutdown with
    | true => exact .exits at_ down
    | false => exact .goesIn at_ down
  | waitUntilActive =>
    simp only [step, at_] at taken
    split at taken <;> cases taken
    exact .waits at_ (by assumption)
  | getSocket =>
    simp only [step, at_] at taken
    cases taken
    cases current : monitor.getSocket with
    | none => exact .noSocket at_ current
    | some socket =>
      cases fails : moment.fails with
      | true => exact .noStream at_ current fails
      | false => exact .takes at_ current fails
  | work socket stage =>
    simp only [step, at_] at taken
    split at taken <;> cases taken
    · exact .goesOn at_ (by assumption)
    · exact .breaks at_ (by assumption)
    · exact .ioException at_ (by assumption)
    · exact .otherException at_ (by assumption)
  | setInactive socket =>
    simp only [step, at_] at taken
    cases taken
    exact .setsInactive at_
  | shutDown =>
    simp only [step, at_] at taken
    cases taken
    exact .shutsDown at_
  | exited =>
    simp only [step, at_] at taken
    cases taken

theorem step_fields (taken : program.step monitor moment thread = some (next, after, reports)) :
    after.fields = thread.fields ∧ reports = [] ∨
      ∃ stage outcome, program.turn moment thread.fields stage = some (outcome, after.fields, reports) := by
  cases step_moves taken with
  | goesOn at_ turned | breaks at_ turned | ioException at_ turned | otherException at_ turned =>
    exact .inr ⟨_, _, turned⟩
  | goesIn | exits | waits | noSocket | noStream | takes | setsInactive | shutsDown =>
    exact .inl ⟨rfl, rfl⟩

/-- What a thread of this outline can do to the monitor. -/
theorem step_monitor (taken : program.step monitor moment thread = some (next, after, reports)) :
    next = monitor ∨ next = monitor.setActive false ∨
      thread.position = .shutDown ∧ next = monitor.shutDown := by
  cases step_moves taken with
  | setsInactive => exact .inr (.inl rfl)
  | shutsDown at_ => exact .inr (.inr ⟨at_, rfl⟩)
  | _ => exact .inl rfl

theorem step_getSocket (taken : program.step monitor moment thread = some (next, after, reports)) :
    next.getSocket = monitor.getSocket := by
  rcases step_monitor taken with rfl | rfl | ⟨_, rfl⟩ <;> rfl

/-- A thread begins to wait for a connection only while there is no shutdown. -/
theorem step_waits (taken : program.step monitor moment thread = some (next, after, reports))
    (waits : after.position = .waitUntilActive) : next.isShutdown = false := by
  cases step_moves taken with
  | goesIn _ up => exact up
  | noSocket | otherException =>
    rcases program.otherException_cases with left | left <;> cases left.symm.trans waits
  | _ => cases waits

/-- A thread comes to take a socket only when the connection is active. -/
theorem step_takes (taken : program.step monitor moment thread = some (next, after, reports))
    (takes : after.position = .getSocket) : monitor.isActive = true := by
  cases step_moves taken with
  | waits _ active => exact active
  | noSocket | otherException =>
    rcases program.otherException_cases with left | left <;> cases left.symm.trans takes
  | _ => cases takes

theorem turn_of_stuck {socket : Nat} {stage : program.Stage} (at_ : thread.position = .work socket stage)
    (stuck : program.step monitor moment thread = none) :
    program.turn moment thread.fields stage = none := by
  simp only [step, at_] at stuck
  split at stuck
  · assumption
  all_goals cases stuck

theorem alone_eq_some (taken : program.alone thread (monitor, moment) = some (after, reports)) :
    ∃ next, program.step monitor moment thread = some (next, after, reports) := by
  unfold alone at taken
  dsimp only at taken
  split at taken
  · next stepped =>
    cases taken
    exact ⟨_, stepped⟩
  · cases taken

end Program

end NetCam.Network
