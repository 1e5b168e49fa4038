import NetCam.Motion.Server
import NetCam.Semantics.Termination

/-! The threads of `motion_server.c`, and how the server ends.

`do_quit` clears `running` and wakes all who wait for the condition variable. The two
threads that poll look at `running` again and again, except while they read from a client
they have accepted. `bg_task` tests it before it locks the mutex, and then waits without a
test.
-/

set_option autoImplicit false

namespace NetCam.Motion

open Semantics

/-- The loop around `poll` that `serve_clients` and `motion_task` share. -/
inductive PollLoop where
  | test
  | poll
  | pollTest
  | polled
  | accept
  | read
  | left
  deriving DecidableEq, Repr

inductive PollResult where
  | failed
  | timeout
  | ready
  deriving DecidableEq, Repr

namespace PollLoop

/-- What the loop does by itself: from a read it comes back only with its client. -/
def step (running : Bool) (ret : PollResult) (accepted : Bool) : PollLoop → Option PollLoop
  | test => some (if running then poll else left)
  | poll =>
    match ret with
    | .failed => some left
    | .timeout => some pollTest
    | .ready => some polled
  | pollTest => some (if running then poll else polled)
  | polled => some (if running then accept else test)
  | accept => some (if accepted then read else test)
  | read | left => none

end PollLoop

inductive Main where
  | serveClients (loop : PollLoop)
  | joinBg
  | joinMotion
  | closeListenfd
  | closeMotionfd
  | exited
  deriving DecidableEq, Repr

inductive BgTask where
  | test
  | lock
  | waiting
  | woken
  | returned
  deriving DecidableEq, Repr

inductive UiTask where
  | test
  | getchar
  | returned
  deriving DecidableEq, Repr

def BgTask.wake : BgTask → BgTask
  | waiting => woken
  | position => position

structure Process where
  running : Bool
  quit : Bool
  task : MotionTask
  main : Main
  motion : PollLoop
  bg : BgTask
  ui : UiTask

/-- A step of a thread, with what comes of `poll` and `accept`. -/
inductive Own where
  | main (ret : PollResult) (accepted : Bool)
  | motion (ret : PollResult) (accepted : Bool)
  | bg
  | ui

/-- What ends a `read`: an error, or what the client has sent up to now; nothing, if it has
closed. -/
inductive Received where
  | fails
  | delivers (request : Request) (closed : Bool)

def Received.polled : Received → Poll
  | fails => .readFails
  | delivers request closed => .delivers request closed

/-- The clients of the main thread and of `motion_task`. -/
inductive Client where
  | asks (received : Received)
  | notifies (received : Received)

/-- What the threads do by themselves, the clients, a key, Ctrl-C, and a wake-up without a cause. -/
inductive ProcessAction where
  | own (own : Own)
  | client (client : Client)
  | key (c : UInt8)
  | sigint
  | spurious

inductive ProcessEvent where
  | answered (response : List UInt8)
  | judged (hres : Int32)
  | closedListenfd
  | closedMotionfd
  deriving DecidableEq, Repr

namespace Process

def start (state : GlobalState) : Process :=
  { running := true, quit := false, task := .start state, main := .serveClients .test, motion := .test
    bg := .test, ui := .test }

def doQuit (s : Process) : Process := { s with quit := true, running := false, bg := s.bg.wake }

def signalToBgTask (s : Process) : Process := { s with bg := s.bg.wake }

/-- `serve_client`: what goes wrong there leaves the loop going. -/
def answer (s : Process) : Received → Option (List ProcessEvent)
  | .fails => some []
  | .delivers request _ => (serveClient s.task.state request).map fun response => [.answered response]

def own : Step Process Own ProcessEvent
  | s, .main ret accepted =>
    match s.main with
    | .serveClients .left => some ({ s with main := .joinBg }, [])
    | .serveClients loop =>
      (loop.step s.running ret accepted).map fun loop => ({ s with main := .serveClients loop }, [])
    | .joinBg => if s.bg = .returned then some ({ s with main := .joinMotion }, []) else none
    | .joinMotion => if s.motion = .left then some ({ s with main := .closeListenfd }, []) else none
    | .closeListenfd => some ({ s with main := .closeMotionfd }, [.closedListenfd])
    | .closeMotionfd => some ({ s with main := .exited }, [.closedMotionfd])
    | .exited => none
  | s, .motion ret accepted =>
    (s.motion.step s.running ret accepted).map fun loop => ({ s with motion := loop }, [])
  | s, .bg =>
    match s.bg with
    | .test => some ({ s with bg := if s.running then .lock else .returned }, [])
    | .lock => some ({ s with bg := .waiting }, [])
    | .woken => some ({ s with bg := .test }, [])
    | .waiting | .returned => none
  | s, .ui =>
    match s.ui with
    | .test => some ({ s with ui := if s.running then .getchar else .returned }, [])
    | .getchar | .returned => none

def client : Step Process Client ProcessEvent
  | s, .asks received =>
    match s.main with
    | .serveClients .read =>
      (s.answer received).map fun es => ({ s with main := .serveClients .test }, es)
    | _ => none
  | s, .notifies received =>
    match s.motion with
    | .read =>
      (motionTask s.task received.polled).map fun (task, hres) =>
        ({ s with task := task, motion := if task.exited then .left else .test }, hres.map .judged)
    | _ => none

/-- The threads, with clients that do not keep them waiting for ever. -/
def served : Step Process (Own ⊕ Client) ProcessEvent
  | s, .inl thread => own s thread
  | s, .inr heard => client s heard

/-- A key and what it does are one step, and so are the handler of the signal and `do_quit`. -/
def step : Step Process ProcessAction ProcessEvent
  | s, .own thread => own s thread
  | s, .client heard => client s heard
  | s, .key c =>
    match s.ui with
    | .getchar =>
      -- 113 is `q`, 98 is `b`
      let s := if c = 113 then s.doQuit else if c = 98 then s.signalToBgTask else s
      some ({ s with ui := .test }, [])
    | _ => none
  | s, .sigint => some (s.doQuit, [])
  | s, .spurious =>
    match s.bg with
    | .waiting => some ({ s with bg := .woken }, [])
    | _ => none

variable {s next : Process} {es : List ProcessEvent}

inductive Moves (s : Process) : Process → List ProcessEvent → Prop where
  | serves {loop later : PollLoop} {ret : PollResult} {accepted : Bool}
      (at_ : s.main = .serveClients loop) (stepped : loop.step s.running ret accepted = some later) :
    Moves s { s with main := .serveClients later } []
  | answers {received : Received} {es : List ProcessEvent} (at_ : s.main = .serveClients .read)
      (answered : s.answer received = some es) : Moves s { s with main := .serveClients .test } es
  | leaves (at_ : s.main = .serveClients .left) : Moves s { s with main := .joinBg } []
  | joinsBg (at_ : s.main = .joinBg) (gone : s.bg = .returned) :
    Moves s { s with main := .joinMotion } []
  | joinsMotion (at_ : s.main = .joinMotion) (gone : s.motion = .left) :
    Moves s { s with main := .closeListenfd } []
  | closesListenfd (at_ : s.main = .closeListenfd) :
    Moves s { s with main := .closeMotionfd } [.closedListenfd]
  | closesMotionfd (at_ : s.main = .closeMotionfd) : Moves s { s with main := .exited } [.closedMotionfd]
  | polls {later : PollLoop} {ret : PollResult} {accepted : Bool}
      (stepped : s.motion.step s.running ret accepted = some later) :
    Moves s { s with motion := later } []
  | judges {polled : Poll} {task : MotionTask} {hres : List Int32} (at_ : s.motion = .read)
      (judged : motionTask s.task polled = some (task, hres)) :
    Moves s { s with task := task, motion := if task.exited then .left else .test } (hres.map .judged)
  | tests (at_ : s.bg = .test) : Moves s { s with bg := if s.running then .lock else .returned } []
  | sleeps (at_ : s.bg = .lock) : Moves s { s with bg := .waiting } []
  | relocks (at_ : s.bg = .woken) : Moves s { s with bg := .test } []
  | prompts (at_ : s.ui = .test) : Moves s { s with ui := if s.running then .getchar else .returned } []

theorem own_moves {thread : Own} (taken : own s thread = some (next, es)) : s.Moves next es := by
  cases thread with
  | main ret accepted =>
    simp only [own] at taken
    split at taken
    · next at_ =>
      cases taken
      exact .leaves at_
    · next loop _ at_ =>
      obtain ⟨_, stepped, same⟩ := Option.map_eq_some_iff.mp taken
      cases same
      exact .serves at_ stepped
    · next at_ =>
      split at taken <;> cases taken
      exact .joinsBg at_ (by assumption)
    · next at_ =>
      split at taken <;> cases taken
      exact .joinsMotion at_ (by assumption)
    · next at_ =>
      cases taken
      exact .closesListenfd at_
    · next at_ =>
      cases taken
      exact .closesMotionfd at_
    · cases taken
  | motion ret accepted =>
    obtain ⟨_, stepped, same⟩ := Option.map_eq_some_iff.mp taken
    cases same
    exact .polls stepped
  | bg =>
    simp only [own] at taken
    split at taken <;> cases taken
    · exact .tests (by assumption)
    · exact .sleeps (by assumption)
    · exact .relocks (by assumption)
  | ui =>
    simp only [own] at taken
    split at taken <;> cases taken
    exact .prompts (by assumption)

theorem client_moves {heard : Client} (taken : client s heard = some (next, es)) : s.Moves next es := by
  cases heard with
  | asks received =>
    simp only [client] at taken
    split at taken
    · next at_ =>
      obtain ⟨_, answered, same⟩ := Option.map_eq_some_iff.mp taken
      cases same
      exact .answers at_ answered
    · cases taken
  | notifies received =>
    simp only [client] at taken
    split at taken
    · next at_ =>
      obtain ⟨_, judged, same⟩ := Option.map_eq_some_iff.mp taken
      cases same
      exact .judges at_ judged
    · cases taken

theorem served_moves {turn : Own ⊕ Client} (taken : served s turn = some (next, es)) :
    s.Moves next es := by
  cases turn with
  | inl thread => exact own_moves taken
  | inr heard => exact client_moves taken

end Process

section Ranks

def PollLoop.rank : PollLoop → Nat
  | left => 0
  | test => 1
  | polled | read => 2
  | pollTest | accept => 3
  | poll => 4

def Main.rank : Main → Nat
  | exited => 0
  | closeMotionfd => 1
  | closeListenfd => 2
  | joinMotion => 3
  | joinBg => 4
  | serveClients loop => 5 + loop.rank

def BgTask.rank : BgTask → Nat
  | returned | waiting => 0
  | test | lock => 1
  | woken => 2

def UiTask.rank : UiTask → Nat
  | returned | getchar => 0
  | test => 1

def Process.rank (s : Process) : Nat := s.main.rank + s.motion.rank + s.bg.rank + s.ui.rank

theorem PollLoop.step_rank {ret : PollResult} {accepted : Bool} {loop later : PollLoop}
    (stepped : loop.step false ret accepted = some later) : later.rank < loop.rank := by
  cases loop with
  | poll => cases ret <;> cases stepped <;> decide
  | accept => cases accepted <;> cases stepped <;> decide
  | test | pollTest | polled => cases stepped; decide
  | read | left => cases stepped

theorem PollLoop.step_isSome {running : Bool} {loop : PollLoop} (inside : loop ≠ .left)
    (free : loop ≠ .read) : ∃ later, loop.step running .timeout false = some later := by
  cases loop with
  | left => exact absurd rfl inside
  | read => exact absurd rfl free
  | test | poll | pollTest | polled | accept => exact ⟨_, rfl⟩

theorem PollLoop.step_stays_free {ret : PollResult} {accepted : Bool} {loop later : PollLoop}
    (free : loop ≠ .accept) (stepped : loop.step false ret accepted = some later) :
    later ≠ .accept ∧ later ≠ .read := by
  cases loop with
  | poll => cases ret <;> cases stepped <;> decide
  | accept => exact absurd rfl free
  | test | pollTest | polled => cases stepped; decide
  | read | left => cases stepped

end Ranks

namespace Process

variable {s next : Process} {es : List ProcessEvent}

-- `bg_task` sleeps, or is going to without another test.
def Unwakeable (s : Process) : Prop := s.bg = .lock ∨ s.bg = .waiting

def Engaged (s : Process) : Prop :=
  (s.main = .serveClients .accept ∨ s.main = .serveClients .read) ∨ s.motion = .accept ∨ s.motion = .read

-- The process is over, and so are the threads that the main thread joins.
def Ended (s : Process) : Prop := s.main = .exited ∧ s.motion = .left ∧ s.bg = .returned

instance (s : Process) : Decidable s.Unwakeable := inferInstanceAs (Decidable (_ ∨ _))

theorem moves_running (moved : s.Moves next es) : next.running = s.running := by
  cases moved <;> rfl

theorem moves_rank (stopped : s.running = false) (moved : s.Moves next es) : next.rank < s.rank := by
  unfold rank
  cases moved with
  | @serves loop later ret accepted at_ stepped =>
    rw [stopped] at stepped
    have lower := PollLoop.step_rank stepped
    simp only [at_, Main.rank]
    omega
  | @polls later ret accepted stepped =>
    rw [stopped] at stepped
    have lower := PollLoop.step_rank stepped
    dsimp only
    omega
  | @judges polled task hres at_ judged =>
    have lower : (if task.exited then PollLoop.left else .test).rank < PollLoop.rank .read := by
      cases task.exited <;> decide
    simp only [at_]
    omega
  | answers at_ | leaves at_ | joinsBg at_ | joinsMotion at_ | closesListenfd at_ | closesMotionfd at_ =>
    simp only [at_, Main.rank, PollLoop.rank]
    omega
  | tests at_ =>
    simp only [at_, stopped, Bool.false_eq_true, if_false, BgTask.rank]
    omega
  | sleeps at_ | relocks at_ =>
    simp only [at_, BgTask.rank]
    omega
  | prompts at_ =>
    simp only [at_, stopped, Bool.false_eq_true, if_false, UiTask.rank]
    omega

def closes (log : List ProcessEvent) : List ProcessEvent :=
  log.filter fun e => e = .closedListenfd ∨ e = .closedMotionfd

def Joined (log : List ProcessEvent) (s : Process) : Prop :=
  match s.main with
  | .serveClients _ | .joinBg => closes log = []
  | .joinMotion => closes log = [] ∧ s.bg = .returned
  | .closeListenfd => closes log = [] ∧ s.bg = .returned ∧ s.motion = .left
  | .closeMotionfd => closes log = [.closedListenfd] ∧ s.bg = .returned ∧ s.motion = .left
  | .exited => closes log = [.closedListenfd, .closedMotionfd] ∧ s.bg = .returned ∧ s.motion = .left

structure Sound (log : List ProcessEvent) (s : Process) : Prop where
  exits : s.task.exited = true → s.motion = .left
  joined : s.Joined log

section Invariant

variable {log : List ProcessEvent}

theorem closes_append (log es : List ProcessEvent) : closes (log ++ es) = closes log ++ closes es :=
  List.filter_append ..

theorem Joined.kept (joined : s.Joined log) (same : next.main = s.main) (none_closed : closes es = [])
    (bg : s.bg = .returned → next.bg = .returned) (motion : s.motion = .left → next.motion = .left) :
    next.Joined (log ++ es) := by
  unfold Joined at joined ⊢
  rw [same, closes_append, none_closed, List.append_nil]
  generalize s.main = main at joined ⊢
  cases main with
  | serveClients loop | joinBg => exact joined
  | joinMotion => exact ⟨joined.1, bg joined.2⟩
  | closeListenfd | closeMotionfd | exited => exact ⟨joined.1, bg joined.2.1, motion joined.2.2⟩

theorem answer_closes {received : Received} (answered : s.answer received = some es) :
    closes es = [] := by
  cases received with
  | fails =>
    cases answered
    rfl
  | delivers request closed =>
    obtain ⟨response, _, rfl⟩ := Option.map_eq_some_iff.mp answered
    rfl

theorem closes_judged (hres : List Int32) : closes (hres.map .judged) = [] := by
  apply List.filter_eq_nil_iff.mpr
  intro e member
  obtain ⟨r, _, rfl⟩ := List.mem_map.mp member
  simp

theorem moves_sound (sound : s.Sound log) (moved : s.Moves next es) : next.Sound (log ++ es) := by
  obtain ⟨exits, joined⟩ := sound
  cases moved with
  | polls stepped =>
    have inside : s.motion ≠ .left := by
      intro left
      rw [left] at stepped
      cases stepped
    exact ⟨fun gone => absurd (exits gone) inside,
      joined.kept rfl rfl id fun left => absurd left inside⟩
  | judges at_ judged =>
    refine ⟨fun gone => ?_, joined.kept rfl (closes_judged _) id fun left => ?_⟩
    · change (if _ then _ else _) = _
      rw [if_pos gone]
    · rw [at_] at left
      cases left
  | tests at_ | sleeps at_ | relocks at_ =>
    refine ⟨exits, joined.kept rfl rfl (fun gone => ?_) id⟩
    rw [at_] at gone
    cases gone
  | prompts => exact ⟨exits, joined.kept rfl rfl id id⟩
  | answers at_ answered =>
    refine ⟨exits, ?_⟩
    simp only [Joined, at_] at joined ⊢
    rw [closes_append, joined, answer_closes answered]
    rfl
  | serves at_ | leaves at_ =>
    refine ⟨exits, ?_⟩
    simp only [Joined, at_, List.append_nil] at joined ⊢
    exact joined
  | joinsBg at_ gone =>
    refine ⟨exits, ?_⟩
    simp only [Joined, at_, List.append_nil] at joined ⊢
    exact ⟨joined, gone⟩
  | joinsMotion at_ gone =>
    refine ⟨exits, ?_⟩
    simp only [Joined, at_, List.append_nil] at joined ⊢
    exact ⟨joined.1, joined.2, gone⟩
  | closesListenfd at_ | closesMotionfd at_ =>
    refine ⟨exits, ?_⟩
    simp only [Joined, at_] at joined ⊢
    rw [closes_append, joined.1]
    exact ⟨rfl, joined.2⟩

theorem wake_returned {bg : BgTask} (gone : bg = .returned) : bg.wake = .returned := by
  rw [gone]
  rfl

theorem step_sound {action : ProcessAction} (sound : s.Sound log)
    (taken : step s action = some (next, es)) : next.Sound (log ++ es) := by
  cases action with
  | own thread => exact moves_sound sound (own_moves taken)
  | client heard => exact moves_sound sound (client_moves taken)
  | key c =>
    simp only [step] at taken
    split at taken
    · cases taken
      refine ⟨?_, ?_⟩
      · split <;> [skip; split] <;> exact sound.exits
      · split <;> [skip; split]
        · exact sound.joined.kept rfl rfl wake_returned id
        · exact sound.joined.kept rfl rfl wake_returned id
        · exact sound.joined.kept rfl rfl id id
    · cases taken
  | sigint =>
    cases taken
    exact ⟨sound.exits, sound.joined.kept rfl rfl wake_returned id⟩
  | spurious =>
    simp only [step] at taken
    split at taken <;> cases taken
    refine ⟨sound.exits, sound.joined.kept rfl rfl (fun gone => ?_) id⟩
    next at_ =>
      rw [at_] at gone
      cases gone

theorem start_sound (state : GlobalState) : (start state).Sound [] := ⟨nofun, rfl⟩

theorem run_sound {state : GlobalState} {actions : List ProcessAction}
    (ran : run step (start state) actions = some (s, log)) : s.Sound log :=
  run_invariant step (fun _ log s => s.Sound log) (fun _ _ _ _ _ _ sound taken => step_sound sound taken)
    (start_sound state) ran

end Invariant

section AfterQuit

variable {log : List ProcessEvent}

structure Noticing (s : Process) : Prop where
  stopped : s.running = false
  awake : ¬ s.Unwakeable
  exits : s.task.exited = true → s.motion = .left
  joined : ∃ log, s.Joined log

theorem moves_noticing (noticing : s.Noticing) (moved : s.Moves next es) : next.Noticing := by
  obtain ⟨stopped, awake, exits, log, joined⟩ := noticing
  obtain ⟨exits, joined⟩ := moves_sound ⟨exits, joined⟩ moved
  refine ⟨(moves_running moved).trans stopped, ?_, exits, _, joined⟩
  unfold Unwakeable at awake ⊢
  cases moved with
  | tests at_ => simp [stopped]
  | relocks at_ => simp
  | sleeps at_ => exact absurd (.inl at_) awake
  | _ => exact awake

/-- No thread is blocked for good, but by a client. -/
theorem Noticing.ended (noticing : s.Noticing) (final : Final own s)
    (asked : s.main ≠ .serveClients .read) (notified : s.motion ≠ .read) : s.Ended := by
  obtain ⟨stopped, awake, exits, log, joined⟩ := noticing
  have bg : s.bg = .returned := by
    cases at_ : s.bg with
    | returned => rfl
    | lock => exact absurd (.inl at_) awake
    | waiting => exact absurd (.inr at_) awake
    | test | woken =>
      have moves := final .bg
      simp [own, at_] at moves
  have motion : s.motion = .left := by
    by_contra inside
    have moves := final (.motion .timeout false)
    obtain ⟨later, stepped⟩ := @PollLoop.step_isSome s.running s.motion inside notified
    simp [own, stepped] at moves
  refine ⟨?_, motion, bg⟩
  have moves := final (.main .timeout false)
  cases at_ : s.main with
  | exited => rfl
  | joinBg | joinMotion | closeListenfd | closeMotionfd => simp [own, at_, bg, motion] at moves
  | serveClients loop =>
    cases loop with
    | read => exact absurd at_ asked
    | accept | left | test | poll | pollTest | polled => simp [own, at_, PollLoop.step] at moves

/-- A client that may send or close can at least do the one or the other. -/
theorem Noticing.served_ended (noticing : s.Noticing) (final : Final served s) : s.Ended := by
  refine noticing.ended (fun thread => final (.inl thread)) (fun at_ => ?_) fun at_ => ?_
  · have moves := final (.inr (.asks .fails))
    simp [served, client, at_, answer] at moves
  · have up : s.task.exited = false := by
      by_contra gone
      have left := noticing.exits (Bool.not_eq_false _ ▸ gone)
      rw [at_] at left
      cases left
    have moves := final (.inr (.notifies .fails))
    simp [served, client, at_, motionTask, Received.polled, up] at moves

theorem own_keeps_reading {thread : Own} (taken : own s thread = some (next, es)) :
    (s.main = .serveClients .read → next.main = .serveClients .read) ∧
      (s.motion = .read → next.motion = .read) := by
  have moved := own_moves taken
  constructor
  · intro at_
    cases thread with
    | main ret accepted => simp [own, at_, PollLoop.step] at taken
    | motion ret accepted =>
      obtain ⟨_, _, same⟩ := Option.map_eq_some_iff.mp taken
      cases same
      exact at_
    | bg | ui =>
      simp only [own] at taken
      split at taken <;> cases taken <;> exact at_
  · intro at_
    cases thread with
    | motion ret accepted => simp [own, at_, PollLoop.step] at taken
    | main ret accepted =>
      simp only [own] at taken
      split at taken
      case h_2 =>
        obtain ⟨_, _, same⟩ := Option.map_eq_some_iff.mp taken
        cases same
        exact at_
      case h_3 | h_4 =>
        split at taken <;> cases taken
        exact at_
      all_goals cases taken <;> exact at_
    | bg | ui =>
      simp only [own] at taken
      split at taken <;> cases taken <;> exact at_

/-- Nothing frees a thread from a client that stays silent. -/
theorem not_endsIn_of_engaged (engaged : s.Engaged) : ¬ EndsIn own Ended s := by
  have asked {t : Process} (at_ : t.main = .serveClients .read) : ¬ EndsIn own Ended t :=
    @not_endsIn_of_kept _ _ _ own (fun t => t.main = .serveClients .read) Ended t
      (fun _ _ _ _ held taken => (own_keeps_reading taken).1 held)
      (fun _ held ended => nomatch held.symm.trans ended.1) at_
  have notified {t : Process} (at_ : t.motion = .read) : ¬ EndsIn own Ended t :=
    @not_endsIn_of_kept _ _ _ own (fun t => t.motion = .read) Ended t
      (fun _ _ _ _ held taken => (own_keeps_reading taken).2 held)
      (fun _ held ended => nomatch held.symm.trans ended.2.1) at_
  intro ends
  rcases engaged with (at_ | at_) | at_ | at_
  · have reads : own s (.main .timeout true) = some ({ s with main := .serveClients .read }, []) := by
      simp [own, at_, PollLoop.step]
    exact asked rfl (ends.of_run own ((run_singleton_iff own).mpr reads))
  · exact asked at_ ends
  · have reads : own s (.motion .timeout true) = some ({ s with motion := .read }, []) := by
      simp [own, at_, PollLoop.step]
    exact notified rfl (ends.of_run own ((run_singleton_iff own).mpr reads))
  · exact notified at_ ends

theorem own_stays_free {thread : Own} (stopped : s.running = false) (free : ¬ s.Engaged)
    (taken : own s thread = some (next, es)) : ¬ next.Engaged := by
  simp only [Engaged, not_or] at free ⊢
  obtain ⟨⟨main, asked⟩, motion, notified⟩ := free
  cases own_moves taken with
  | @serves loop later ret accepted at_ stepped =>
    have outside : loop ≠ .accept := fun same => main (at_.trans (same ▸ rfl))
    rw [stopped] at stepped
    have stays := PollLoop.step_stays_free outside stepped
    exact ⟨⟨fun same => stays.1 (Main.serveClients.inj same), fun same => stays.2 (Main.serveClients.inj same)⟩,
      motion, notified⟩
  | polls stepped =>
    rw [stopped] at stepped
    exact ⟨⟨main, asked⟩, PollLoop.step_stays_free motion stepped⟩
  | answers at_ => exact absurd at_ asked
  | judges at_ => exact absurd at_ notified
  | leaves | joinsBg | joinsMotion | closesListenfd | closesMotionfd =>
    exact ⟨⟨nofun, nofun⟩, motion, notified⟩
  | tests | sleeps | relocks | prompts => exact ⟨⟨main, asked⟩, motion, notified⟩

structure Stranded (s : Process) : Prop where
  asleep : s.Unwakeable
  waits : s.main = .joinBg ∨ ∃ loop, s.main = .serveClients loop

theorem moves_stranded (stranded : s.Stranded) (moved : s.Moves next es) : next.Stranded := by
  obtain ⟨asleep, waits⟩ := stranded
  have blocked : s.bg ≠ .returned := by
    intro gone
    unfold Unwakeable at asleep
    rw [gone] at asleep
    rcases asleep with impossible | impossible <;> cases impossible
  cases moved with
  | serves | answers => exact ⟨asleep, .inr ⟨_, rfl⟩⟩
  | leaves => exact ⟨asleep, .inl rfl⟩
  | joinsBg at_ gone => exact absurd gone blocked
  | joinsMotion at_ | closesListenfd at_ | closesMotionfd at_ =>
    rw [at_] at waits
    rcases waits with impossible | ⟨_, impossible⟩ <;> cases impossible
  | polls | judges | prompts => exact ⟨asleep, waits⟩
  | sleeps at_ => exact ⟨.inr rfl, waits⟩
  | tests at_ | relocks at_ =>
    unfold Unwakeable at asleep
    rw [at_] at asleep
    rcases asleep with impossible | impossible <;> cases impossible

/-- The main thread joins `bg_task` before anything else. -/
theorem Sound.stranded {log : List ProcessEvent} (sound : s.Sound log) (asleep : s.Unwakeable) :
    s.Stranded := by
  refine ⟨asleep, ?_⟩
  have joined := sound.joined
  unfold Joined at joined
  have blocked : s.bg ≠ .returned := by
    intro gone
    rcases asleep with at_ | at_ <;> rw [gone] at at_ <;> cases at_
  cases at_ : s.main with
  | serveClients loop => exact .inr ⟨loop, rfl⟩
  | joinBg => exact .inl rfl
  | joinMotion =>
    rw [at_] at joined
    exact absurd joined.2 blocked
  | closeListenfd | closeMotionfd | exited =>
    rw [at_] at joined
    exact absurd joined.2.1 blocked

theorem Stranded.not_ended (stranded : s.Stranded) : ¬ s.Ended := by
  intro ended
  rcases stranded.asleep with at_ | at_ <;> rw [ended.2.2] at at_ <;> cases at_

end AfterQuit

/-- Once the server has been told to quit it ends, whatever its threads do next and in which
order, unless the call came between the test of `bg_task` and its wait. That takes clients that
send something or close once they have been accepted; a silent one keeps the server for as long
as it likes, if it was found before the call. The sockets are closed behind the threads that use
them. -/
theorem ends_iff_noticed {state : GlobalState} {actions : List ProcessAction} {log : List ProcessEvent}
    (ran : run step (start state) actions = some (s, log)) (stopped : s.running = false) :
    s.Joined log ∧
      (EndsIn served Ended s ↔ s.bg ≠ .lock ∧ s.bg ≠ .waiting) ∧
      (EndsIn own Ended s ↔ (s.bg ≠ .lock ∧ s.bg ≠ .waiting) ∧
        ¬ ((s.main = .serveClients .accept ∨ s.main = .serveClients .read) ∨
          s.motion = .accept ∨ s.motion = .read)) := by
  have sound := run_sound ran
  have noticing (noticed : s.bg ≠ .lock ∧ s.bg ≠ .waiting) : s.Noticing :=
    ⟨stopped, fun asleep => asleep.elim noticed.1 noticed.2, sound.exits, log, sound.joined⟩
  have missed (unnoticed : ¬ (s.bg ≠ .lock ∧ s.bg ≠ .waiting)) : s.Stranded := by
    refine sound.stranded ?_
    unfold Unwakeable
    by_contra awake
    exact unnoticed ⟨fun at_ => awake (.inl at_), fun at_ => awake (.inr at_)⟩
  refine ⟨sound.joined, ⟨fun ends => ?_, fun noticed => ?_⟩, ⟨fun ends => ⟨?_, ?_⟩, ?_⟩⟩
  · by_contra unnoticed
    exact not_endsIn_of_kept served (fun _ _ _ _ held taken => moves_stranded held (served_moves taken))
      (fun t held => held.not_ended) (missed unnoticed) ends
  · refine @endsIn_of_rank _ _ _ served Noticing Ended s rank ?_ (fun t held => held.served_ended)
      (noticing noticed)
    intro t turn next es held taken
    have moved := served_moves taken
    exact ⟨moves_noticing held moved, moves_rank held.stopped moved⟩
  · by_contra unnoticed
    exact not_endsIn_of_kept own (fun _ _ _ _ held taken => moves_stranded held (own_moves taken))
      (fun t held => held.not_ended) (missed unnoticed) ends
  · exact fun engaged => not_endsIn_of_engaged engaged ends
  · rintro ⟨noticed, free⟩
    refine @endsIn_of_rank _ _ _ own (fun t => t.Noticing ∧ ¬ t.Engaged) Ended s rank ?_ ?_
      ⟨noticing noticed, free⟩
    · intro t thread next es held taken
      have moved := own_moves taken
      exact ⟨⟨moves_noticing held.1 moved, own_stays_free held.1.stopped held.2 taken⟩,
        moves_rank held.1.stopped moved⟩
    · intro t held final
      exact held.1.ended final (fun at_ => held.2 (.inl (.inr at_))) fun at_ => held.2 (.inr (.inr at_))

/-- Ctrl-C between the test and the wait: the server never ends. And while it reads from a client
that has been accepted, it ends with that client only. -/
theorem missed_quit_never_ends :
    (∃ s log, run step (start ⟨0, 0⟩) [.own .bg, .sigint, .own .bg] = some (s, log) ∧
        ¬ EndsIn served Ended s) ∧
      ∃ s log, run step (start ⟨0, 0⟩) [.own (.main .ready true), .own (.main .ready true),
          .own (.main .ready true), .own (.main .ready true), .sigint] = some (s, log) ∧
        EndsIn served Ended s ∧ ¬ EndsIn own Ended s := by
  have waits : (run step (start ⟨0, 0⟩) [.own .bg, .sigint, .own .bg]).map
      (fun reached => (reached.1.running, reached.1.bg)) = some (false, .waiting) := by decide +kernel
  have reads : (run step (start ⟨0, 0⟩) [.own (.main .ready true), .own (.main .ready true),
      .own (.main .ready true), .own (.main .ready true), .sigint]).map
      (fun reached => (reached.1.running, reached.1.bg, reached.1.main)) =
        some (false, .test, .serveClients .read) := by decide +kernel
  constructor
  · obtain ⟨⟨s, log⟩, ran, shape⟩ := Option.map_eq_some_iff.mp waits
    obtain ⟨stopped, asleep⟩ := Prod.mk.inj shape
    exact ⟨s, log, ran, fun ends => ((ends_iff_noticed ran stopped).2.1.mp ends).2 asleep⟩
  · obtain ⟨⟨s, log⟩, ran, shape⟩ := Option.map_eq_some_iff.mp reads
    obtain ⟨stopped, shape⟩ := Prod.mk.inj shape
    obtain ⟨awake, at_⟩ := Prod.mk.inj shape
    dsimp only at awake
    obtain ⟨_, served, alone⟩ := ends_iff_noticed ran stopped
    refine ⟨s, log, ran, served.mpr ?_, fun ends => (alone.mp ends).2 (.inl (.inr at_))⟩
    rw [awake]
    exact ⟨nofun, nofun⟩

end Process

end NetCam.Motion
