import Mathlib.Logic.Function.Basic
import NetCam.Network.ClientConnectionThread
import NetCam.Network.Program

/-! The threads that share one `NetMonitor`: any senders and receivers, the
`ClientConnectionThread` and the `ClientShutdownThread`.

`shutdown` can be called at any moment, also from outside the group. The log has the sockets
handed to `setSocket` and those that are closed.
-/

set_option autoImplicit false

namespace NetCam.Network

open Semantics

inductive Closing where
  | waitUntilShutdown
  | close
  | exited
  deriving DecidableEq, Repr

/-- One statement, none while it waits: a socket that is closed, and the next statement. -/
def clientShutdownThread (monitor : NetMonitor Nat) : Closing → Option (Option Nat × Closing)
  | .waitUntilShutdown => if monitor.isShutdown then some (none, .close) else none
  | .close => some (monitor.getSocket, .exited)
  | .exited => none

inductive SocketEvent where
  | set (socket : Nat)
  | closed (socket : Nat)
  deriving DecidableEq, Repr

structure Group {ι : Type} (programs : ι → Program) where
  monitor : NetMonitor Nat
  opened : Nat
  connecting : Connecting
  closing : Closing
  threads : (i : ι) → Thread (programs i)

inductive GroupAction (ι : Type) where
  | connector (fails : Bool)
  | closer
  | thread (i : ι) (moment : Moment)
  | shutDown

namespace Group

variable {ι : Type} [DecidableEq ι] {programs : ι → Program}

def start (fields : (i : ι) → (programs i).Fields) : Group programs :=
  { monitor := .fresh
    opened := 0
    connecting := .loop
    closing := .waitUntilShutdown
    threads := fun i => (programs i).start (fields i) }

def setting (s : Group programs) : List SocketEvent :=
  match s.connecting with
  | .setSocket socket => [.set socket]
  | _ => []

def step : Step (Group programs) (GroupAction ι) SocketEvent
  | s, .connector fails =>
    match clientConnectionThread s.monitor s.opened fails s.connecting with
    | some (monitor, opened, closed, connecting) =>
      some ({ s with monitor := monitor, opened := opened, connecting := connecting },
        s.setting ++ closed.toList.map .closed)
    | none => none
  | s, .closer =>
    match clientShutdownThread s.monitor s.closing with
    | some (closed, closing) => some ({ s with closing := closing }, closed.toList.map .closed)
    | none => none
  | s, .thread i moment =>
    match (programs i).step s.monitor moment (s.threads i) with
    | some (monitor, thread, _) =>
      some ({ s with monitor := monitor, threads := Function.update s.threads i thread }, [])
    | none => none
  | s, .shutDown => some ({ s with monitor := s.monitor.shutDown }, [])

variable {s next : Group programs} {events : List SocketEvent}

theorem step_thread {i : ι} {moment : Moment}
    (taken : step s (.thread i moment) = some (next, events)) :
    ∃ monitor thread reports, (programs i).step s.monitor moment (s.threads i) =
        some (monitor, thread, reports) ∧
      next = { s with monitor := monitor, threads := Function.update s.threads i thread } ∧
      events = [] := by
  simp only [step] at taken
  split at taken
  · next monitor thread reports stepped =>
    cases taken
    exact ⟨monitor, thread, reports, stepped, rfl, rfl⟩
  · cases taken

theorem step_thread_stuck {i : ι} {moment : Moment} (stuck : step s (.thread i moment) = none) :
    (programs i).step s.monitor moment (s.threads i) = none := by
  simp only [step] at stuck
  split at stuck
  · cases stuck
  · assumption

theorem step_connector {fails : Bool} (taken : step s (.connector fails) = some (next, events)) :
    ∃ monitor opened closed connecting,
      clientConnectionThread s.monitor s.opened fails s.connecting =
        some (monitor, opened, closed, connecting) ∧
      next = { s with monitor := monitor, opened := opened, connecting := connecting } ∧
      events = s.setting ++ closed.toList.map .closed := by
  simp only [step] at taken
  split at taken
  · next monitor opened closed connecting stepped =>
    cases taken
    exact ⟨monitor, opened, closed, connecting, stepped, rfl, rfl⟩
  · cases taken

theorem step_closer (taken : step s .closer = some (next, events)) :
    ∃ closed closing, clientShutdownThread s.monitor s.closing = some (closed, closing) ∧
      next = { s with closing := closing } ∧ events = closed.toList.map .closed := by
  simp only [step] at taken
  split at taken
  · next closed closing stepped =>
    cases taken
    exact ⟨closed, closing, stepped, rfl, rfl⟩
  · cases taken

theorem step_threads (i : ι) {action : GroupAction ι} (taken : step s action = some (next, events)) :
    (∀ moment, action ≠ .thread i moment) ∧ next.threads i = s.threads i ∨
      ∃ moment reports, action = .thread i moment ∧
        (programs i).step s.monitor moment (s.threads i) = some (next.monitor, next.threads i, reports) := by
  cases action with
  | thread j moment =>
    obtain ⟨monitor, thread, reports, moved, rfl, _⟩ := step_thread taken
    by_cases own : i = j
    · subst own
      refine .inr ⟨moment, reports, rfl, ?_⟩
      dsimp only
      rw [moved, Function.update_self]
    · refine .inl ⟨?_, Function.update_of_ne own thread s.threads⟩
      rintro _ ⟨⟩
      exact own rfl
  | connector fails =>
    obtain ⟨_, _, _, _, _, rfl, _⟩ := step_connector taken
    exact .inl ⟨by simp, rfl⟩
  | closer =>
    obtain ⟨_, _, _, rfl, _⟩ := step_closer taken
    exact .inl ⟨by simp, rfl⟩
  | shutDown =>
    cases taken
    exact .inl ⟨by simp, rfl⟩

/-- What holds of every thread holds after one of them moved if it holds of that one. -/
theorem forall_update_iff {P : (i : ι) → Thread (programs i) → Prop}
    {threads : (i : ι) → Thread (programs i)} {i : ι} {thread : Thread (programs i)}
    (held : ∀ j, P j (threads j)) :
    (∀ j, P j (Function.update threads i thread j)) ↔ P i thread := by
  constructor
  · intro all
    have own := all i
    rw [Function.update_self] at own
    exact own
  · intro own j
    by_cases same : j = i
    · subst same
      rw [Function.update_self]
      exact own
    · rw [Function.update_of_ne same]
      exact held j

inductive Connects (s : Group programs) (fails : Bool) : Group programs → List SocketEvent → Prop where
  | exits (at_ : s.connecting = .loop) (down : s.monitor.isShutdown = true) :
    Connects s fails { s with connecting := .exited } []
  | goesOn (at_ : s.connecting = .loop) (up : s.monitor.isShutdown = false) :
    Connects s fails { s with connecting := .connect } []
  | throws (at_ : s.connecting = .connect) (failed : fails = true) :
    Connects s fails { s with monitor := s.monitor.setActive false, connecting := .close } []
  | opens (at_ : s.connecting = .connect) (works : fails = false) :
    Connects s fails { s with opened := s.opened + 1, connecting := .setSocket s.opened } []
  | sets {socket : Nat} (at_ : s.connecting = .setSocket socket) :
    Connects s fails { s with monitor := s.monitor.setSocket socket, connecting := .setActive }
      [.set socket]
  | activates (at_ : s.connecting = .setActive) :
    Connects s fails { s with monitor := s.monitor.setActive true, connecting := .waitUntilNotActive } []
  | waits (at_ : s.connecting = .waitUntilNotActive) (inactive : s.monitor.isActive = false) :
    Connects s fails { s with connecting := .close } []
  | closes (at_ : s.connecting = .close) :
    Connects s fails { s with connecting := .loop } (s.monitor.getSocket.toList.map .closed)

theorem connector_moves {fails : Bool} (taken : step s (.connector fails) = some (next, events)) :
    s.Connects fails next events := by
  obtain ⟨monitor, opened, closed, connecting, moved, rfl, rfl⟩ := step_connector taken
  cases at_ : s.connecting with
  | loop =>
    rw [at_] at moved
    cases moved
    simp only [setting, at_]
    cases down : s.monitor.isShutdown with
    | true => exact .exits at_ down
    | false => exact .goesOn at_ down
  | connect =>
    rw [at_] at moved
    simp only [setting, at_]
    cases fails with
    | true =>
      cases moved
      exact .throws at_ rfl
    | false =>
      cases moved
      exact .opens at_ rfl
  | setSocket socket =>
    rw [at_] at moved
    cases moved
    simp only [setting, at_]
    exact .sets at_
  | setActive =>
    rw [at_] at moved
    cases moved
    simp only [setting, at_]
    exact .activates at_
  | waitUntilNotActive =>
    rw [at_] at moved
    simp only [clientConnectionThread] at moved
    split at moved <;> cases moved
    next off =>
    simp only [setting, at_]
    exact .waits at_ (by simpa [NetMonitor.waitUntilNotActive] using off)
  | close =>
    rw [at_] at moved
    cases moved
    simp only [setting, at_]
    exact .closes at_
  | exited =>
    rw [at_] at moved
    cases moved

structure Connected (s : Group programs) : Prop where
  active : s.monitor.isActive = true → s.monitor.getSocket ≠ none
  setActive : s.connecting = .setActive → s.monitor.getSocket ≠ none
  taking : ∀ i, (s.threads i).position = .getSocket → s.monitor.getSocket ≠ none

omit [DecidableEq ι] in
theorem connected_start (fields : (i : ι) → (programs i).Fields) : Connected (start fields) :=
  ⟨fun active => (by cases active), fun setting => (by cases setting), fun _ taking => (by cases taking)⟩

theorem connected_step {action : GroupAction ι} (connected : s.Connected)
    (taken : step s action = some (next, events)) : next.Connected := by
  cases action with
  | thread i moment =>
    obtain ⟨monitor, thread, reports, moved, rfl, _⟩ := step_thread taken
    have same := Program.step_getSocket moved
    refine ⟨?_, ?_, ?_⟩
    · intro active
      rw [same]
      apply connected.active
      rcases Program.step_monitor moved with rfl | rfl | ⟨_, rfl⟩
      · exact active
      · cases active
      · cases active
    · intro setting
      rw [same]
      exact connected.setActive setting
    · rw [same]
      apply (forall_update_iff (P := fun _ thread =>
        thread.position = .getSocket → s.monitor.getSocket ≠ none) connected.taking).mpr
      intro takes
      exact connected.active (Program.step_takes moved takes)
  | connector fails =>
    cases connector_moves taken with
    | exits | goesOn | opens | waits | closes =>
      exact ⟨connected.active, fun setting => (by cases setting), connected.taking⟩
    | throws => exact ⟨fun active => (by cases active), fun setting => (by cases setting), connected.taking⟩
    | sets =>
      exact ⟨fun _ => Option.some_ne_none _, fun _ => Option.some_ne_none _, fun _ _ => Option.some_ne_none _⟩
    | activates at_ =>
      have there := connected.setActive at_
      exact ⟨fun _ => there, fun _ => there, fun _ _ => there⟩
  | closer =>
    obtain ⟨_, _, _, rfl, _⟩ := step_closer taken
    exact ⟨connected.active, connected.setActive, connected.taking⟩
  | shutDown =>
    cases taken
    exact ⟨fun active => (by cases active), connected.setActive, connected.taking⟩

end Group

end NetCam.Network
