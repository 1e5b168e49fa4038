import NetCam.Network.Shutdown

/-! What makes the client connect again.

As long as every failure is answered in time, a connection is given up only after one of the
threads has failed on that very connection. An answer that comes late takes down the next
connection instead, and the thread on that one comes late in its turn.
-/

set_option autoImplicit false

namespace NetCam.Network

open Semantics

/-- What happens to the sockets, and the `IOException`s on them. -/
inductive Happening where
  | did (event : SocketEvent)
  | failed (socket : Nat)
  deriving DecidableEq, Repr

def Happening.setOf : Happening → Option Nat
  | .did (.set socket) => some socket
  | _ => none

def socketsSet (log : List Happening) : List Nat := log.filterMap Happening.setOf

/-- The monitor gets another socket only after a thread failed on the one it has. -/
def Replaces (before : List Happening) : Happening → Prop
  | .did (.set _) => ∀ socket, (socketsSet before).getLast? = some socket → .failed socket ∈ before
  | _ => True

namespace Group

variable {ι : Type} [DecidableEq ι] {programs : ι → Program}

def failures (s : Group programs) : GroupAction ι → List Happening
  | .thread i moment =>
    match (programs i).step s.monitor moment (s.threads i) with
    | some (_, after, _) => after.failed.toList.map .failed
    | none => []
  | _ => []

def traced : Step (Group programs) (GroupAction ι) Happening := fun s action =>
  match step s action with
  | some (next, events) => some (next, events.map .did ++ s.failures action)
  | none => none

-- A thread failed on the monitor's socket, if there is one.
def Lost (log : List Happening) (s : Group programs) : Prop :=
  ∀ socket, s.monitor.getSocket = some socket → .failed socket ∈ log

-- Why the connection thread is where it is.
def Justified (log : List Happening) (s : Group programs) : Connecting → Prop
  | .waitUntilNotActive => s.monitor.isActive = true ∨ s.Lost log ∨ s.monitor.isShutdown = true
  | .close | .loop => s.Lost log ∨ s.monitor.isShutdown = true
  | .connect | .setSocket _ => s.Lost log
  | .setActive | .exited => True

structure Replacing (log : List Happening) (s : Group programs) : Prop where
  accounted : Accounted Replaces log
  current : (socketsSet log).getLast? = s.monitor.getSocket
  fresh : s.SocketsFresh
  timely : s.FailuresCurrent
  answered : ∀ i, (s.threads i).failed ≠ none → s.Lost log
  justified : s.Justified log s.connecting

end Group

section Steps

variable {program : Program} {monitor next : NetMonitor Nat} {moment : Moment}
  {thread after : Thread program} {reports : List program.Report}

/-- A thread turns the connection off only to answer a failure, or for good. -/
theorem step_turnsOff (taken : program.step monitor moment thread = some (next, after, reports)) :
    next = monitor ∨ thread.failed ≠ none ∨ next.isShutdown = true := by
  cases Program.step_moves taken with
  | setsInactive at_ =>
    refine .inr (.inl ?_)
    unfold Thread.failed
    rw [at_]
    exact Option.some_ne_none _
  | shutsDown => exact .inr (.inr rfl)
  | _ => exact .inl rfl

theorem step_isShutdown (taken : program.step monitor moment thread = some (next, after, reports))
    (down : monitor.isShutdown = true) : next.isShutdown = true := by
  rcases Program.step_monitor taken with rfl | rfl | ⟨_, rfl⟩
  · exact down
  · exact down
  · rfl

end Steps

namespace Group

variable {ι : Type} [DecidableEq ι] {programs : ι → Program} {s next : Group programs}
  {log es : List Happening} {action : GroupAction ι}

theorem traced_eq_some (taken : traced s action = some (next, es)) :
    ∃ events, step s action = some (next, events) ∧ es = events.map .did ++ s.failures action := by
  unfold traced at taken
  split at taken
  · next after events stepped =>
    cases taken
    exact ⟨events, stepped, rfl⟩
  · cases taken

omit [DecidableEq ι] in
theorem Lost.later (lost : s.Lost log) (same : next.monitor.getSocket = s.monitor.getSocket) :
    next.Lost (log ++ es) := by
  intro socket current
  exact List.mem_append_left es (lost socket (same ▸ current))

theorem socketsSet_append_quiet (quiet : ∀ e ∈ es, e.setOf = none) :
    socketsSet (log ++ es) = socketsSet log := by
  unfold socketsSet
  rw [List.filterMap_append, List.filterMap_eq_nil_iff.mpr quiet, List.append_nil]

theorem replaces_quiet {e : Happening} (quiet : e.setOf = none) (before : List Happening) :
    Replaces before e := by
  cases e with
  | did event =>
    cases event with
    | set socket => cases quiet
    | closed socket => trivial
  | failed socket => trivial

omit [DecidableEq ι] in
theorem Replacing.quiet (kept : s.Replacing log) (quiet : ∀ e ∈ es, e.setOf = none)
    (same : next.monitor.getSocket = s.monitor.getSocket) (fresh : next.SocketsFresh)
    (timely : next.FailuresCurrent) (answered : ∀ i, (next.threads i).failed ≠ none → next.Lost (log ++ es))
    (justified : next.Justified (log ++ es) next.connecting) : next.Replacing (log ++ es) where
  accounted := accounted_append_of_forall kept.accounted fun e member => replaces_quiet (quiet e member)
  current := by rw [socketsSet_append_quiet quiet, kept.current, same]
  fresh := fresh
  timely := timely
  answered := answered
  justified := justified

omit [DecidableEq ι] in
theorem Justified.later {connecting : Connecting} (justified : s.Justified log connecting)
    (same : next.monitor.getSocket = s.monitor.getSocket)
    (down : s.monitor.isShutdown = true → next.monitor.isShutdown = true)
    (off : s.monitor.isActive = true →
      next.monitor.isActive = true ∨ s.Lost log ∨ next.monitor.isShutdown = true) :
    next.Justified (log ++ es) connecting := by
  cases connecting with
  | waitUntilNotActive =>
    rcases justified with active | lost | shut
    · rcases off active with still | lost | shut
      · exact .inl still
      · exact .inr (.inl (lost.later same))
      · exact .inr (.inr shut)
    · exact .inr (.inl (lost.later same))
    · exact .inr (.inr (down shut))
  | close | loop =>
    rcases justified with lost | shut
    · exact .inl (lost.later same)
    · exact .inr (down shut)
  | connect | setSocket _ => exact Lost.later justified same
  | setActive | exited => trivial

theorem replacing_thread {i : ι} {moment : Moment} (kept : s.Replacing log)
    (timely : s.Timely (.thread i moment))
    (taken : traced s (.thread i moment) = some (next, es)) : next.Replacing (log ++ es) := by
  obtain ⟨events, stepped, rfl⟩ := traced_eq_some taken
  have fresh := socketsFresh_step kept.fresh stepped
  have current := (failuresCurrent_iff_timely kept.fresh kept.timely stepped).mpr timely
  obtain ⟨monitor, thread, reports, moved, rfl, rfl⟩ := step_thread stepped
  have same := Program.step_getSocket moved
  have failed : s.failures (.thread i moment) = thread.failed.toList.map .failed := by
    simp only [failures, moved]
  rw [failed, List.map_nil, List.nil_append]
  refine kept.quiet ?_ same fresh current ?_ ?_
  · intro e member
    obtain ⟨socket, _, rfl⟩ := List.mem_map.mp member
    rfl
  · apply (forall_update_iff (P := fun _ thread => thread.failed ≠ none → _)
      fun j failing => (kept.answered j failing).later same).mpr
    intro failing socket there
    have own := current i
    dsimp only at own
    rw [Function.update_self] at own
    rcases own with none_failed | on
    · exact absurd none_failed failing
    · refine List.mem_append_right log (List.mem_map.mpr ⟨socket, ?_, rfl⟩)
      rw [on, there]
      exact List.mem_singleton_self socket
  · refine kept.justified.later same (step_isShutdown moved) ?_
    intro active
    rcases step_turnsOff moved with rfl | failing | shut
    · exact .inl active
    · exact .inr (.inl (kept.answered i failing))
    · exact .inr (.inr shut)

theorem replacing_connector {fails : Bool} (kept : s.Replacing log) (timely : s.Timely (.connector fails))
    (taken : traced s (.connector fails) = some (next, es)) : next.Replacing (log ++ es) := by
  obtain ⟨events, stepped, rfl⟩ := traced_eq_some taken
  have fresh := socketsFresh_step kept.fresh stepped
  have current := (failuresCurrent_iff_timely kept.fresh kept.timely stepped).mpr timely
  have justified := kept.justified
  have answered {later : Group programs} {more : List Happening} (threads : later.threads = s.threads)
      (same : later.monitor.getSocket = s.monitor.getSocket) :
      ∀ i, (later.threads i).failed ≠ none → later.Lost (log ++ more) :=
    fun i failing => (kept.answered i (threads ▸ failing)).later same
  have silent : s.failures (.connector fails) = [] := rfl
  rw [silent, List.append_nil]
  cases connector_moves stepped with
  | exits => exact kept.quiet (List.forall_mem_nil _) rfl fresh current (answered rfl rfl) trivial
  | goesOn at_ up =>
    rw [at_] at justified
    refine kept.quiet (List.forall_mem_nil _) rfl fresh current (answered rfl rfl) ?_
    rcases justified with lost | shut
    · exact lost.later rfl
    · cases up.symm.trans shut
  | throws at_ =>
    rw [at_] at justified
    exact kept.quiet (List.forall_mem_nil _) rfl fresh current (answered rfl rfl)
      (.inl (Lost.later justified rfl))
  | opens at_ =>
    rw [at_] at justified
    exact kept.quiet (List.forall_mem_nil _) rfl fresh current (answered rfl rfl) (Lost.later justified rfl)
  | @sets socket at_ =>
    -- the one step that replaces a socket
    rw [at_] at justified
    have replaces : Replaces log (.did (.set socket)) := fun last set => justified last (kept.current ▸ set)
    refine ⟨accounted_concat kept.accounted replaces, ?_, fresh, current, ?_, trivial⟩
    · simp [socketsSet, Happening.setOf, NetMonitor.setSocket, NetMonitor.getSocket]
    · intro i failing
      exact absurd (timely socket at_ i) failing
  | activates => exact kept.quiet (List.forall_mem_nil _) rfl fresh current (answered rfl rfl) (.inl rfl)
  | waits at_ inactive =>
    rw [at_] at justified
    refine kept.quiet (List.forall_mem_nil _) rfl fresh current (answered rfl rfl) ?_
    -- the wait has ended, which leaves a failure or the shutdown as the reason
    rcases justified with active | lost | shut
    · cases inactive.symm.trans active
    · exact .inl (lost.later rfl)
    · exact .inr shut
  | closes at_ =>
    rw [at_] at justified
    refine kept.quiet ?_ rfl fresh current (answered rfl rfl) ?_
    · intro e member
      obtain ⟨event, there, rfl⟩ := List.mem_map.mp member
      obtain ⟨socket, _, rfl⟩ := List.mem_map.mp there
      rfl
    · exact justified.imp_left fun lost => lost.later rfl

theorem replacing_step (kept : s.Replacing log) (timely : s.Timely action)
    (taken : traced s action = some (next, es)) : next.Replacing (log ++ es) := by
  cases action with
  | thread i moment => exact replacing_thread kept timely taken
  | connector fails => exact replacing_connector kept timely taken
  | closer =>
    obtain ⟨events, stepped, rfl⟩ := traced_eq_some taken
    have fresh := socketsFresh_step kept.fresh stepped
    obtain ⟨closed, closing, _, rfl, rfl⟩ := step_closer stepped
    refine kept.quiet ?_ rfl fresh kept.timely (fun i failing => (kept.answered i failing).later rfl)
      (kept.justified.later rfl id .inl)
    intro e member
    have silent : s.failures .closer = [] := rfl
    rw [silent, List.append_nil] at member
    obtain ⟨event, there, rfl⟩ := List.mem_map.mp member
    obtain ⟨socket, _, rfl⟩ := List.mem_map.mp there
    rfl
  | shutDown =>
    cases taken
    exact kept.quiet nofun rfl ⟨kept.fresh.opened, kept.fresh.pending⟩ kept.timely
      (fun i failing => (kept.answered i failing).later rfl)
      (kept.justified.later rfl (fun _ => rfl) fun _ => .inr (.inr rfl))

end Group

/-- When every failure is answered in time, the client gives a connection up only after one of
its threads failed on that connection. -/
theorem replaced_only_when_failed {ι : Type} [DecidableEq ι] {programs : ι → Program}
    {fields : (i : ι) → (programs i).Fields} {actions : List (GroupAction ι)} {s : Group programs}
    {log : List Happening} (timely : Guarded Group.traced Group.Timely (.start fields) actions)
    (ran : run Group.traced (.start fields) actions = some (s, log)) : Accounted Replaces log := by
  have kept := @run_invariant_of_guarded _ _ _ Group.traced Group.Timely
    (fun _ log (s : Group programs) => s.Replacing log)
    (fun _ _ _ _ _ _ kept timely taken => Group.replacing_step kept timely taken) (.start fields) s []
    actions [] log ?_ timely ran
  · exact kept.accounted
  · refine ⟨accounted_nil Replaces, rfl, ⟨nofun, nofun⟩, fun _ => .inl rfl, ?_, .inl nofun⟩
    intro i failing
    exact absurd rfl failing

section Timely

def Thread.throwing {program : Program} (thread : Thread program) (moment : Moment) : Option Nat :=
  match thread.position with
  | .work socket stage =>
    match program.turn moment thread.fields stage with
    | some (.ioException, _, _) => some socket
    | _ => none
  | _ => none

theorem throws_iff_throwing {program : Program} {thread : Thread program} {moment : Moment} {socket : Nat} :
    thread.Throws moment socket ↔ thread.throwing moment = some socket := by
  unfold Thread.throwing
  constructor
  · rintro ⟨stage, fields, reports, at_, threw⟩
    simp only [at_, threw]
  · intro throwing
    split at throwing
    · next stage at_ =>
      split at throwing
      · next fields reports threw =>
        cases throwing
        exact ⟨stage, fields, reports, at_, threw⟩
      · cases throwing
    · cases throwing

variable {ι : Type} [DecidableEq ι] [Fintype ι] {programs : ι → Program}

instance (s : Group programs) (action : GroupAction ι) : Decidable (s.Timely action) :=
  match action with
  | .thread i moment =>
    decidable_of_iff (∀ socket ∈ (s.threads i).throwing moment, s.monitor.getSocket = some socket) (by
      simp only [Group.Timely, throws_iff_throwing, Option.mem_def])
  | .connector _ =>
    match at_ : s.connecting with
    | .setSocket _ =>
      decidable_of_iff (∀ i, (s.threads i).failed = none) (by simp [Group.Timely, at_])
    | .loop | .connect | .setActive | .waitUntilNotActive | .close | .exited =>
      .isTrue (by simp [Group.Timely, at_])
  | .closer | .shutDown => .isTrue trivial

def bothFail : List (GroupAction MotionThread) :=
  List.flatten [List.replicate 4 (.connector false), List.replicate 3 (.thread .sender calm),
    List.replicate 3 (.thread .receiver calm),
    [.thread .sender failing, .thread .receiver failing, .thread .sender calm, .thread .receiver calm],
    List.replicate 6 (.connector false)]

theorem both_fail_and_reconnect : ∃ s, run Group.traced motionGroup bothFail =
      some (s, [.did (.set 0), .failed 0, .failed 0, .did (.closed 0), .did (.set 1)]) ∧
    Accounted Replaces [.did (.set 0), .failed 0, .failed 0, .did (.closed 0), .did (.set 1)] := by
  have timely : Guarded Group.traced Group.Timely motionGroup bothFail := by decide +kernel
  have logged : (run Group.traced motionGroup bothFail).map (·.2) =
      some [.did (.set 0), .failed 0, .failed 0, .did (.closed 0), .did (.set 1)] := by decide +kernel
  obtain ⟨⟨s, _⟩, ran, rfl⟩ := Option.map_eq_some_iff.mp logged
  exact ⟨s, ran, replaced_only_when_failed timely ran⟩

end Timely

section Chase

def MotionThread.other : MotionThread → MotionThread
  | .sender => .receiver
  | .receiver => .sender

def motionFields : (i : MotionThread) → (motionThreads i).Fields
  | .sender => ()
  | .receiver => MotionDataReceiver.fields .one

def onSocket (i : MotionThread) (socket : Nat) : Thread (motionThreads i) :=
  { position := .work socket (motionThreads i).first, fields := motionFields i, ended := none }

def chase (k : Nat) (late : MotionThread) : Group motionThreads :=
  { monitor := { socket := some (k + 1), isActive := true, shutdown := false }
    opened := k + 2
    connecting := .waitUntilNotActive
    closing := .waitUntilShutdown
    threads := fun i => onSocket i (if i = late then k else k + 1) }

def fallsBehind (late : MotionThread) : List (GroupAction MotionThread) :=
  List.flatten [[.thread late failing, .thread late calm], List.replicate 6 (.connector false),
    List.replicate 3 (.thread late calm)]

def parts (s : Group motionThreads) :=
  (s.monitor, s.opened, s.connecting, s.closing, s.threads .sender, s.threads .receiver)

theorem parts_injective : Function.Injective parts := by
  rintro ⟨monitor, opened, connecting, closing, threads⟩ ⟨_, _, _, _, others⟩ same
  simp only [parts, Prod.mk.injEq] at same
  obtain ⟨rfl, rfl, rfl, rfl, sender, receiver⟩ := same
  have all : threads = others := by
    funext i
    cases i with
    | sender => exact sender
    | receiver => exact receiver
  rw [all]

theorem run_of_parts {s t : Group motionThreads} {actions : List (GroupAction MotionThread)}
    {log : List Happening}
    (found : (run Group.traced s actions).map (Prod.map parts id) = some (parts t, log)) :
    run Group.traced s actions = some (t, log) := by
  obtain ⟨⟨u, es⟩, ran, same⟩ := Option.map_eq_some_iff.mp found
  obtain ⟨parted, rfl⟩ := Prod.mk.inj same
  rw [ran, parts_injective parted]
  rfl

theorem chase_goes_on (k : Nat) (late : MotionThread) :
    run Group.traced (chase k late) (fallsBehind late) =
      some (chase (k + 1) late.other, [.failed k, .did (.closed (k + 1)), .did (.set (k + 2))]) := by
  apply run_of_parts
  cases late with
  | sender => rfl
  | receiver => rfl

def firstLoss : List (GroupAction MotionThread) :=
  List.flatten [List.replicate 4 (.connector false), List.replicate 3 (.thread .sender calm),
    List.replicate 3 (.thread .receiver calm), fallsBehind .receiver]

theorem firstLoss_ran : run Group.traced motionGroup firstLoss =
    some (chase 0 .sender, [.did (.set 0), .failed 0, .did (.closed 0), .did (.set 1)]) := by
  apply run_of_parts
  rfl

/-- Nothing fails on a connection but the first before the client itself has closed it. -/
def OwnDoing (before : List Happening) : Happening → Prop
  | .failed socket => socket = 0 ∨ .did (.closed socket) ∈ before
  | _ => True

theorem fallsBehind_calm {late : MotionThread} {action : GroupAction MotionThread}
    (member : action ∈ fallsBehind late) : action ≠ .connector true ∧ action ≠ .shutDown := by
  simp only [fallsBehind, List.mem_flatten, List.mem_cons, List.not_mem_nil, or_false] at member
  obtain ⟨part, rfl | rfl | rfl, there⟩ := member
  · simp only [List.mem_cons, List.not_mem_nil, or_false] at there
    rcases there with rfl | rfl <;> exact ⟨nofun, nofun⟩
  · obtain ⟨_, rfl⟩ := List.mem_replicate.mp there
    exact ⟨nofun, nofun⟩
  · obtain ⟨_, rfl⟩ := List.mem_replicate.mp there
    exact ⟨nofun, nofun⟩

theorem chase_reached (n : Nat) : ∃ late actions log,
    run Group.traced motionGroup actions = some (chase n late, log) ∧
      (∀ action ∈ actions, action ≠ .connector true ∧ action ≠ .shutDown) ∧
      Accounted OwnDoing log ∧ .did (.closed n) ∈ log ∧ (socketsSet log).length = n + 2 := by
  induction n with
  | zero =>
    refine ⟨.sender, firstLoss, _, firstLoss_ran, ?_, ?_, by decide, rfl⟩
    · simp [firstLoss, fallsBehind]
    · have begins : Accounted OwnDoing [.did (.set 0)] := accounted_concat (accounted_nil OwnDoing) trivial
      have lost : OwnDoing [.did (.set 0)] (.failed 0) := .inl rfl
      have answered : ∀ e ∈ [Happening.did (.closed 0), .did (.set 1)], ∀ before, OwnDoing before e := by
        simp [OwnDoing]
      exact accounted_append_of_forall (accounted_concat begins lost) answered
  | succ n ih =>
    obtain ⟨late, actions, log, ran, calmly, own, closed, count⟩ := ih
    refine ⟨late.other, actions ++ fallsBehind late, _,
      (run_append_iff _).mpr ⟨_, log, _, ran, chase_goes_on n late, rfl⟩, ?_, ?_, by simp, ?_⟩
    · intro action member
      rcases List.mem_append.mp member with before | after
      · exact calmly action before
      · exact fallsBehind_calm after
    · have lost : OwnDoing log (.failed n) := .inr closed
      have answered : ∀ e ∈ [Happening.did (.closed (n + 1)), .did (.set (n + 2))],
          ∀ before, OwnDoing before e := by
        simp [OwnDoing]
      have further := accounted_append_of_forall (accounted_concat own lost) answered
      rw [List.append_assoc] at further
      exact further
    · rw [socketsSet, List.filterMap_append, List.length_append]
      change (socketsSet log).length + 1 = n + 1 + 2
      omega

/-- One lost connection can cost any number of others, although the network loses no more of
them: the two motion threads keep ending each other's connections. -/
theorem one_loss_costs_any_number (n : Nat) : ∃ actions s log,
    run Group.traced motionGroup actions = some (s, log) ∧
      (∀ action ∈ actions, action ≠ .connector true ∧ action ≠ .shutDown) ∧
      Accounted OwnDoing log ∧ n < (socketsSet log).length := by
  obtain ⟨late, actions, log, ran, calmly, own, _, count⟩ := chase_reached n
  exact ⟨actions, _, log, ran, calmly, own, by omega⟩

end Chase

end NetCam.Network
