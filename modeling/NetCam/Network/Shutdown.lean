import NetCam.Network.StaleFailure

/-! What `shutdown` leaves of the threads that share a `NetMonitor`.

The waits do not look at the flag. A thread that has tested it before can go on to a wait
that never ends, and the connection thread can go on to store a new socket and set it active.
-/

set_option autoImplicit false

namespace NetCam.Network

open Semantics

namespace Group

variable {ι : Type} {programs : ι → Program}

/-- No thread is between its test of the flag and the end of its wait for a connection, and
the connection thread has no new socket to set active. -/
structure Settled (s : Group programs) : Prop where
  waiting : ∀ i, (s.threads i).position ≠ .waitUntilActive
  socket : ∀ socket, s.connecting ≠ .setSocket socket
  active : s.connecting ≠ .setActive

/-- The first shutdown finds the threads settled, and a connection attempt that is under
way then fails. -/
def ShutsDownSettled (s : Group programs) : GroupAction ι → Prop
  | .shutDown => s.monitor.isShutdown = false → s.Settled
  | .thread i _ => (s.threads i).position = .shutDown → s.monitor.isShutdown = false → s.Settled
  | .connector fails => s.monitor.isShutdown = true → s.connecting = .connect → fails = true
  | .closer => True

instance (s : Group programs) : Decidable (∀ socket, s.connecting ≠ .setSocket socket) :=
  match s.connecting with
  | .setSocket socket => .isFalse fun away => away socket rfl
  | .loop | .connect | .setActive | .waitUntilNotActive | .close | .exited => .isTrue (by simp)

instance [Fintype ι] [∀ i, DecidableEq (programs i).Stage] (s : Group programs) : Decidable s.Settled :=
  decidable_of_iff ((∀ i, (s.threads i).position ≠ .waitUntilActive) ∧
      (∀ socket, s.connecting ≠ .setSocket socket) ∧ s.connecting ≠ .setActive)
    ⟨fun ⟨waiting, socket, active⟩ => ⟨waiting, socket, active⟩,
      fun settled => ⟨settled.waiting, settled.socket, settled.active⟩⟩

instance [Fintype ι] [∀ i, DecidableEq (programs i).Stage] (s : Group programs) (action : GroupAction ι) :
    Decidable (s.ShutsDownSettled action) :=
  match action with
  | .shutDown => inferInstanceAs (Decidable (_ → _))
  | .thread _ _ => inferInstanceAs (Decidable (_ → _ → _))
  | .connector _ => inferInstanceAs (Decidable (_ → _ → _))
  | .closer => .isTrue trivial

-- A thread is at a wait whose guard is false.
def Blocked (s : Group programs) : Prop :=
  (∃ i, (s.threads i).position = .waitUntilActive ∧ s.monitor.waitUntilActive = false) ∨
    s.connecting = .waitUntilNotActive ∧ s.monitor.waitUntilNotActive = false ∨
    s.closing = .waitUntilShutdown ∧ s.monitor.isShutdown = false

structure Closes (log : List SocketEvent) (s : Group programs) : Prop where
  settled : s.monitor.isShutdown = true → s.Settled
  inactive : s.monitor.isShutdown = true → s.monitor.isActive = false
  /-- A socket that was set is closed, or it is the monitor's and the connection thread has
  not closed it yet. -/
  closed : ∀ socket, .set socket ∈ log → .closed socket ∈ log ∨
    s.monitor.getSocket = some socket ∧
      (s.connecting = .setActive ∨ s.connecting = .waitUntilNotActive ∨ s.connecting = .close)

variable {s next : Group programs} {log events : List SocketEvent}

theorem closes_start (fields : (i : ι) → (programs i).Fields) : Closes [] (start fields) :=
  ⟨fun down => (by cases down), fun down => (by cases down), fun _ set => (by cases set)⟩

theorem Closes.of_connecting (closes : Closes log s)
    (away : s.connecting ≠ .setActive ∧ s.connecting ≠ .waitUntilNotActive ∧ s.connecting ≠ .close) :
    ∀ socket, .set socket ∈ log → .closed socket ∈ log := by
  intro socket set
  rcases closes.closed socket set with done | ⟨_, active | waiting | closing⟩
  · exact done
  · exact absurd active away.1
  · exact absurd waiting away.2.1
  · exact absurd closing away.2.2

theorem Closes.not_blocked (closes : Closes log s) (down : s.monitor.isShutdown = true) : ¬ s.Blocked := by
  rintro (⟨i, waits, _⟩ | ⟨_, active⟩ | ⟨_, up⟩)
  · exact (closes.settled down).waiting i waits
  · simp [NetMonitor.waitUntilNotActive, closes.inactive down] at active
  · rw [down] at up
    cases up

variable [DecidableEq ι]

theorem closes_thread {i : ι} {moment : Moment} (closes : Closes log s)
    (settled : s.ShutsDownSettled (.thread i moment))
    (taken : step s (.thread i moment) = some (next, events)) : Closes (log ++ events) next := by
  obtain ⟨monitor, thread, reports, moved, rfl, rfl⟩ := step_thread taken
  have calm : monitor.isShutdown = true → s.Settled := by
    intro down
    by_cases before : s.monitor.isShutdown = true
    · exact closes.settled before
    · rcases Program.step_monitor moved with rfl | rfl | ⟨last, rfl⟩
      · exact absurd down before
      · exact absurd down before
      · exact settled last (by simpa using before)
  rw [List.append_nil]
  refine ⟨?_, ?_, ?_⟩
  · intro down
    obtain ⟨waiting, socket, active⟩ := calm down
    refine ⟨?_, socket, active⟩
    have own : thread.position ≠ .waitUntilActive := by
      intro waits
      rw [Program.step_waits moved waits] at down
      cases down
    exact (forall_update_iff (P := fun _ thread => thread.position ≠ .waitUntilActive) waiting).mpr own
  · intro down
    rcases Program.step_monitor moved with rfl | rfl | ⟨_, rfl⟩
    · exact closes.inactive down
    · rfl
    · rfl
  · intro socket set
    rw [Program.step_getSocket moved]
    exact closes.closed socket set

theorem closes_connector {fails : Bool} (closes : Closes log s)
    (settled : s.ShutsDownSettled (.connector fails))
    (taken : step s (.connector fails) = some (next, events)) : Closes (log ++ events) next := by
  have waiting (down : s.monitor.isShutdown = true) := (closes.settled down).waiting
  cases connector_moves taken with
  | exits at_ | goesOn at_ =>
    rw [List.append_nil]
    refine ⟨fun down => ⟨waiting down, by simp, by simp⟩, closes.inactive, fun socket set => ?_⟩
    exact .inl (closes.of_connecting (by simp [at_]) socket set)
  | throws at_ =>
    rw [List.append_nil]
    refine ⟨fun down => ⟨waiting down, by simp, by simp⟩, fun _ => rfl, fun socket set => ?_⟩
    exact .inl (closes.of_connecting (by simp [at_]) socket set)
  | opens at_ works =>
    rw [List.append_nil]
    refine ⟨fun down => ?_, closes.inactive, fun socket set => ?_⟩
    · -- while the group shuts down the attempt fails
      cases works.symm.trans (settled down at_)
    · exact .inl (closes.of_connecting (by simp [at_]) socket set)
  | @sets socket at_ =>
    refine ⟨fun down => ?_, closes.inactive, fun other set => ?_⟩
    · -- a settled group was not shut down with a new socket on hand
      exact absurd at_ ((closes.settled down).socket socket)
    · rcases List.mem_append.mp set with earlier | new
      · exact .inl (List.mem_append_left _ (closes.of_connecting (by simp [at_]) other earlier))
      · obtain rfl : other = socket := by simpa using new
        exact .inr ⟨rfl, .inl rfl⟩
  | activates at_ =>
    rw [List.append_nil]
    refine ⟨fun down => ?_, fun down => ?_, fun socket set => ?_⟩
    · exact absurd at_ (closes.settled down).active
    · exact absurd at_ (closes.settled down).active
    · exact (closes.closed socket set).imp_right fun ⟨current, _⟩ => ⟨current, .inr (.inl rfl)⟩
  | waits at_ =>
    rw [List.append_nil]
    refine ⟨fun down => ⟨waiting down, by simp, by simp⟩, closes.inactive, fun socket set => ?_⟩
    exact (closes.closed socket set).imp_right fun ⟨current, _⟩ => ⟨current, .inr (.inr rfl)⟩
  | closes at_ =>
    refine ⟨fun down => ⟨waiting down, by simp, by simp⟩, closes.inactive, fun socket set => .inl ?_⟩
    have before : .set socket ∈ log := by simpa using set
    rcases closes.closed socket before with done | ⟨current, _⟩
    · exact List.mem_append_left _ done
    · -- the current socket is the only one left to close
      rw [current]
      exact List.mem_append_right _ (by simp)

theorem closes_step {action : GroupAction ι} (closes : Closes log s)
    (settled : s.ShutsDownSettled action) (taken : step s action = some (next, events)) :
    Closes (log ++ events) next := by
  cases action with
  | thread i moment => exact closes_thread closes settled taken
  | connector fails => exact closes_connector closes settled taken
  | closer =>
    obtain ⟨_, _, _, rfl, rfl⟩ := step_closer taken
    refine ⟨fun down => ?_, closes.inactive, ?_⟩
    · obtain ⟨waiting, socket, active⟩ := closes.settled down
      exact ⟨waiting, socket, active⟩
    · intro socket set
      have before : .set socket ∈ log := by
        rcases List.mem_append.mp set with earlier | new
        · exact earlier
        · simp at new
      exact (closes.closed socket before).imp_left (List.mem_append_left _)
  | shutDown =>
    cases taken
    rw [List.append_nil]
    refine ⟨fun _ => ?_, fun _ => rfl, closes.closed⟩
    have calm : s.Settled := by
      by_cases before : s.monitor.isShutdown = true
      · exact closes.settled before
      · exact settled (by simpa using before)
    exact ⟨calm.waiting, calm.socket, calm.active⟩

-- The threads that close sockets can go no further.
def Finished (s : Group programs) : Prop :=
  (∀ fails, step s (.connector fails) = none) ∧ step s .closer = none

theorem finished_of_exited (connecting : s.connecting = .exited) (closing : s.closing = .exited) :
    s.Finished := by
  constructor
  · intro fails
    simp only [step, connecting, clientConnectionThread]
  · simp only [step, closing, clientShutdownThread]

theorem connecting_of_finished (finished : s.Finished) (inactive : s.monitor.isActive = false) :
    s.connecting = .exited := by
  have stuck := finished.1 true
  simp only [step] at stuck
  split at stuck
  · cases stuck
  · next blocked =>
    cases at_ : s.connecting with
    | exited => rfl
    | waitUntilNotActive =>
      simp [at_, clientConnectionThread, NetMonitor.waitUntilNotActive, inactive] at blocked
    | loop | connect | setSocket | setActive | close => simp [at_, clientConnectionThread] at blocked

end Group

/-- In a group that is settled when it is shut down, the connection stays inactive, no thread
is left waiting, and every socket is closed in the end. -/
theorem shutdown_final {ι : Type} [DecidableEq ι] {programs : ι → Program}
    {fields : (i : ι) → (programs i).Fields} {actions : List (GroupAction ι)} {s : Group programs}
    {log : List SocketEvent} (settled : Guarded Group.step Group.ShutsDownSettled (.start fields) actions)
    (ran : run Group.step (.start fields) actions = some (s, log)) (down : s.monitor.isShutdown = true) :
    s.monitor.isActive = false ∧ ¬ s.Blocked ∧
      (s.Finished → ∀ socket, .set socket ∈ log → .closed socket ∈ log) := by
  have closes : Group.Closes log s :=
    @run_invariant_of_guarded _ _ _ Group.step Group.ShutsDownSettled (fun _ log s => Group.Closes log s)
      (fun _ _ _ _ _ _ closes settled taken => Group.closes_step closes settled taken) _ _ [] _ [] _
      (Group.closes_start fields) settled ran
  refine ⟨closes.inactive down, closes.not_blocked down, ?_⟩
  intro finished
  apply closes.of_connecting
  simp [Group.connecting_of_finished finished (closes.inactive down)]

instance : Fintype MotionThread := ⟨{.sender, .receiver}, by rintro (_ | _) <;> decide⟩

instance : ∀ i, DecidableEq (motionThreads i).Stage
  | .sender => inferInstanceAs (DecidableEq Program.RequestStage)
  | .receiver => inferInstanceAs (DecidableEq MotionDataReceiver.Stage)

def shutDownAtWork : List (GroupAction MotionThread) :=
  List.flatten [List.replicate 4 (.connector false), List.replicate 3 (.thread .sender calm),
    List.replicate 3 (.thread .receiver calm), [.shutDown], List.replicate 3 (.connector false),
    List.replicate 2 .closer]

theorem shut_down_at_work_settled : ∃ s log,
    run Group.step motionGroup shutDownAtWork = some (s, log) ∧ .set 0 ∈ log ∧ s.Finished ∧
      s.monitor.isActive = false ∧ ¬ s.Blocked ∧ ∀ socket, .set socket ∈ log → .closed socket ∈ log := by
  have finishes : (run Group.step motionGroup shutDownAtWork).map (fun reached =>
      decide (reached.1.connecting = .exited ∧ reached.1.closing = .exited ∧
        reached.1.monitor.isShutdown = true ∧ .set 0 ∈ reached.2)) = some true := by decide +kernel
  obtain ⟨⟨s, log⟩, ran, reached⟩ := Option.map_eq_some_iff.mp finishes
  obtain ⟨connecting, closing, down, set⟩ := of_decide_eq_true reached
  have finished := Group.finished_of_exited connecting closing
  obtain ⟨inactive, free, closed⟩ := shutdown_final (by decide +kernel) ran down
  exact ⟨s, log, ran, set, finished, inactive, free, closed finished⟩

def shutDownBeforeSetSocket : List (GroupAction MotionThread) :=
  [.connector false, .connector false, .shutDown, .closer, .closer, .connector false, .connector false,
    .thread .sender calm, .thread .receiver calm]

def shutDownBeforeWait : List (GroupAction MotionThread) :=
  [.thread .sender calm, .shutDown, .thread .receiver calm, .connector false, .closer, .closer]

def Group.Halted {ι : Type} [DecidableEq ι] {programs : ι → Program} (s : Group programs) : Prop :=
  s.Finished ∧ ∀ i moment, Group.step s (.thread i moment) = none

theorem shutdown_races : (∃ s, run Group.step motionGroup shutDownBeforeSetSocket = some (s, [.set 0]) ∧
      s.monitor = { socket := some 0, isActive := true, shutdown := true } ∧ s.Blocked ∧ s.Halted) ∧
    ∃ s, run Group.step motionGroup shutDownBeforeWait = some (s, []) ∧
      s.monitor = { socket := none, isActive := false, shutdown := true } ∧ s.Blocked ∧ s.Halted := by
  constructor
  · refine ⟨_, rfl, rfl, .inr (.inl ⟨rfl, rfl⟩), ⟨fun _ => rfl, rfl⟩, ?_⟩
    rintro (_ | _) moment <;> rfl
  · refine ⟨_, rfl, rfl, .inl ⟨.sender, rfl, rfl⟩, ⟨fun _ => rfl, rfl⟩, ?_⟩
    rintro (_ | _) moment <;> rfl

end NetCam.Network
