import NetCam.Camera.Disconnect

/-! The descriptors of a client connection.

Both picture tasks end with `close(cam_mon->connfd)`. `update_mode_task` closes its own
descriptor on the way out of its loop, and not when a read fails.
-/

set_option autoImplicit false

namespace NetCam.Camera

open Semantics

inductive Descriptor where
  | connfd
  | connmodefd
  deriving DecidableEq, Repr

inductive Access where
  | send (fd : Descriptor)
  | read (fd : Descriptor)
  | close (fd : Descriptor)
  deriving DecidableEq, Repr

def Access.fd : Access → Descriptor
  | send fd | read fd | close fd => fd

def accesses (s : Server) : Action → List Access
  | .take _ _ =>
    match s.take with
    | .close => [.close .connfd]
    | _ => []
  | .send _ =>
    match s.send with
    | .work (.clientWriteN _ _) => [.send .connfd]
    | .close => [.close .connfd]
    | _ => []
  | .update _ =>
    match s.update with
    | .read => [.read .connmodefd]
    | .close => [.close .connmodefd]
    | _ => []
  | .accept => []

/-- Neither descriptor is used after it was closed, and by the time the tasks have returned both
have been closed once. -/
structure SoundLifeCycle (s : Server) (log : List Access) : Prop where
  closed : s.Joined → ∀ fd, log.count (.close fd) = 1
  unused : ∀ fd before after, log = before ++ .close fd :: after → ∀ access ∈ after, access.fd ≠ fd

def NoEndOfFile (s : Server) : Action → Prop
  | .update .endOfFile => s.update ≠ .read
  | _ => True

def ReadsSucceed (s : Server) : Action → Prop
  | .update .error => s.update ≠ .read
  | _ => True

def Position.closes {Stage : Type} : Position Stage → Nat
  | returned => 1
  | _ => 0

def UpdatePosition.closes : UpdatePosition → Nat
  | returned => 1
  | _ => 0

section Steps

variable {sane : Bool} {s next : Server} {es : List ServerEvent}

theorem outline_closes {Stage : Type} {task : Task} {first : Stage} {shared after : Shared}
    {p q : Position Stage} (taken : outline task first shared p = some (after, q, es))
    (inside : p ≠ .close) : p.closes = 0 ∧ q.closes = 0 := by
  cases p with
  | test => cases taken; cases shared.isConnected <;> exact ⟨rfl, rfl⟩
  | lock | relock =>
    simp only [outline] at taken
    split at taken <;> cases taken
    exact ⟨rfl, rfl⟩
  | check => cases taken; split <;> exact ⟨rfl, rfl⟩
  | condWait | waiting | flip | unlock | broadcast => cases taken; exact ⟨rfl, rfl⟩
  | close => exact absurd rfl inside
  | work _ | returned => cases taken

theorem closes_of_busy {Stage : Type} {position : Position Stage} (busy : position.busy = true) :
    position.closes = 0 := by
  cases position <;> first | rfl | cases busy

theorem take_closes {captured : Option MediaFrame} {stack : Memory BUFSIZE} {shared : Shared}
    {q : Position TakeStage}
    (taken : takePictureTask sane captured stack s.shared s.take = some (shared, q, es)) :
    (accesses s (.take captured stack)).count (.close .connfd) + s.take.closes = q.closes := by
  by_cases at_ : s.take = .close
  · rw [at_] at taken
    cases taken
    simp [accesses, at_, Position.closes]
  · have quiet : (accesses s (.take captured stack)).count (.close .connfd) = 0 := by
      simp only [accesses]
      rfl
    have open_ : s.take.closes = 0 ∧ q.closes = 0 := by
      unfold takePictureTask at taken
      split at taken
      · next stage here =>
        rw [here]
        exact ⟨rfl, closes_of_busy (takeWork_worked taken).1.busy⟩
      · exact outline_closes taken at_
    omega

theorem send_closes {written : Int32} {shared : Shared} {q : Position SendStage}
    (taken : sendPictureTask sane written s.shared s.send = some (shared, q, es)) :
    (accesses s (.send written)).count (.close .connfd) + s.send.closes = q.closes := by
  by_cases at_ : s.send = .close
  · rw [at_] at taken
    cases taken
    simp [accesses, at_, Position.closes]
  · have quiet : (accesses s (.send written)).count (.close .connfd) = 0 := by
      simp only [accesses]
      split
      · rfl
      · next closing => exact absurd closing at_
      · rfl
    have open_ : s.send.closes = 0 ∧ q.closes = 0 := by
      unfold sendPictureTask at taken
      split at taken
      · next stage here =>
        rw [here]
        exact ⟨rfl, closes_of_busy (sendWork_worked taken).1.busy⟩
      · exact outline_closes taken at_
    omega

theorem connfd_step {action : Action} {log : List Access} (client : action ≠ .accept)
    (counted : log.count (.close .connfd) = s.take.closes + s.send.closes)
    (taken : Server.step sane s action = some (next, es)) :
    (log ++ accesses s action).count (.close .connfd) = next.take.closes + next.send.closes := by
  rw [List.count_append]
  cases Server.step_moves taken with
  | take task =>
    have one := take_closes task
    dsimp only
    omega
  | send task =>
    have one := send_closes task
    dsimp only
    omega
  | @update arrived _ _ task =>
    have apart : (accesses s (.update arrived)).count (.close .connfd) = 0 := by
      simp only [accesses]
      split <;> rfl
    obtain ⟨takes, sends, _⟩ := updateModeTask_frame task
    rw [apart, takes, sends, counted]
    rfl
  | accept => exact absurd rfl client

theorem connmodefd_step {action : Action} {log : List Access} (client : action ≠ .accept)
    (succeeds : ReadsSucceed s action)
    (counted : log.count (.close .connmodefd) = s.update.closes)
    (taken : Server.step sane s action = some (next, es)) :
    (log ++ accesses s action).count (.close .connmodefd) = next.update.closes := by
  rw [List.count_append, counted]
  cases Server.step_moves taken with
  | @take captured stack _ _ _ task =>
    have apart : (accesses s (.take captured stack)).count (.close .connmodefd) = 0 := by
      simp only [accesses]
      split <;> rfl
    rw [apart]
    rfl
  | @send written _ _ _ task =>
    have apart : (accesses s (.send written)).count (.close .connmodefd) = 0 := by
      simp only [accesses]
      split <;> rfl
    rw [apart]
    rfl
  | @update arrived _ _ task =>
    cases at_ : s.update with
    | test =>
      simp only [updateModeTask, at_] at task
      cases task
      simp only [accesses, at_]
      split <;> rfl
    | read =>
      simp only [updateModeTask, at_] at task
      cases arrived with
      | byte b | endOfFile =>
        cases task
        simp [accesses, at_, UpdatePosition.closes]
      -- the task would return without its `close`
      | error => exact absurd at_ succeeds
    | setMode | close =>
      simp only [updateModeTask, at_] at task
      cases task
      simp [accesses, at_, UpdatePosition.closes]
    | returned =>
      simp only [updateModeTask, at_] at task
      cases task
  | accept => exact absurd rfl client

structure InLoops (s : Server) : Prop where
  connected : s.shared.isConnected = true
  take : s.take.gone = false
  send : s.send.gone = false
  update : s.update ≠ .close

theorem outline_stays {Stage : Type} {task : Task} {first : Stage} {shared after : Shared}
    {p q : Position Stage} (taken : outline task first shared p = some (after, q, es))
    (connected : shared.isConnected = true) (inside : p.gone = false) :
    after.isConnected = true ∧ q.gone = false := by
  cases p with
  | test =>
    cases taken
    rw [connected]
    exact ⟨rfl, rfl⟩
  | lock | relock =>
    simp only [outline] at taken
    split at taken <;> cases taken
    exact ⟨connected, rfl⟩
  | check =>
    cases taken
    refine ⟨connected, ?_⟩
    split <;> rfl
  | condWait | waiting | flip | unlock | broadcast =>
    cases taken
    exact ⟨connected, rfl⟩
  | close => cases inside
  | work _ | returned => cases taken

theorem InLoops.take_step (loops : InLoops s) {captured : Option MediaFrame} {stack : Memory BUFSIZE}
    {shared : Shared} {q : Position TakeStage}
    (taken : takePictureTask sane captured stack s.shared s.take = some (shared, q, es)) :
    shared.isConnected = true ∧ q.gone = false := by
  unfold takePictureTask at taken
  split at taken
  · have worked := (takeWork_worked taken).1
    exact ⟨worked.connected.trans loops.connected, Position.not_gone_of_busy worked.busy⟩
  · exact outline_stays taken loops.connected loops.take

theorem InLoops.send_step (loops : InLoops s) {written : Int32} {shared : Shared} {q : Position SendStage}
    (taken : sendPictureTask sane written s.shared s.send = some (shared, q, es)) :
    shared.isConnected = true ∧ q.gone = false := by
  unfold sendPictureTask at taken
  split at taken
  · have worked := (sendWork_worked taken).1
    exact ⟨worked.connected.trans loops.connected, Position.not_gone_of_busy worked.busy⟩
  · exact outline_stays taken loops.connected loops.send

/-- Only an end of file leads out of the loops. -/
theorem inLoops_step {action : Action} (loops : InLoops s) (client : action ≠ .accept)
    (goesOn : NoEndOfFile s action) (taken : Server.step sane s action = some (next, es)) : InLoops next := by
  cases Server.step_moves taken with
  | take task =>
    obtain ⟨connected, inside⟩ := loops.take_step task
    exact ⟨connected, inside, loops.send, loops.update⟩
  | send task =>
    obtain ⟨connected, inside⟩ := loops.send_step task
    exact ⟨connected, loops.take, inside, loops.update⟩
  | @update arrived _ _ task =>
    cases at_ : s.update with
    | test =>
      simp only [updateModeTask, at_, loops.connected] at task
      cases task
      exact ⟨loops.connected, loops.take, loops.send, by simp⟩
    | read =>
      simp only [updateModeTask, at_] at task
      cases arrived with
      | byte b =>
        cases task
        exact ⟨loops.connected, loops.take, loops.send, by simp⟩
      | endOfFile => exact absurd at_ goesOn
      | error =>
        cases task
        exact ⟨loops.connected, loops.take, loops.send, by simp⟩
    | setMode =>
      simp only [updateModeTask, at_] at task
      cases task
      exact ⟨loops.connected, loops.take, loops.send, by simp⟩
    | close => exact absurd at_ loops.update
    | returned =>
      simp only [updateModeTask, at_] at task
      cases task
  | accept => exact absurd rfl client

theorem InLoops.keeps_open (loops : InLoops s) (action : Action) (fd : Descriptor) :
    Access.close fd ∉ accesses s action := by
  obtain ⟨_, take, send, update⟩ := loops
  unfold accesses
  split
  · split
    · next closing =>
      rw [closing] at take
      cases take
    · simp
  · split
    · simp
    · next closing =>
      rw [closing] at send
      cases send
    · simp
  · split
    · simp
    · next closing => exact absurd closing update
    · simp
  · simp

theorem InLoops.not_joined (loops : InLoops s) : ¬ s.Joined := by
  rintro ⟨returned, _⟩
  have inside := loops.take
  rw [returned] at inside
  cases inside

end Steps

theorem not_sound_of_count {s : Server} {log : List Access} {fd : Descriptor} (joined : s.Joined)
    (often : log.count (.close fd) ≠ 1) : ¬ SoundLifeCycle s log := fun sound => often (sound.closed joined fd)

theorem sound_of_open {s : Server} {log : List Access} (loops : InLoops s)
    (kept : ∀ fd, Access.close fd ∉ log) : SoundLifeCycle s log := by
  refine ⟨fun joined => absurd joined loops.not_joined, ?_⟩
  rintro fd before after rfl
  exact absurd (List.mem_append_right before List.mem_cons_self) (kept fd)

section Runs

variable {sane : Bool} {camMon : CameraMonitor} {actions : List Action} {s : Server} {log : List Access}

/-- Whenever the three tasks of a connection have returned, `connfd` has been closed twice. -/
theorem connfd_twice (client : ∀ action ∈ actions, action ≠ .accept)
    (ran : run (observe (Server.step sane) accesses) (.start camMon) actions = some (s, log))
    (joined : s.Joined) : log.count (.close .connfd) = 2 := by
  have counted : log.count (.close .connfd) = s.take.closes + s.send.closes := by
    refine @run_invariant_of_guarded _ _ _ (observe (Server.step sane) accesses)
      (fun _ action => action ≠ .accept)
      (fun _ log s => log.count (.close .connfd) = s.take.closes + s.send.closes) ?_ _ _ [] actions [] log
      rfl (guarded_of_forall _ (fun action member _ => client action member) _) ran
    rintro _ log s action t seen counted admitted taken
    obtain ⟨es, stepped, rfl⟩ := (observe_eq_some_iff _).mp taken
    exact connfd_step admitted counted stepped
  rwa [joined.1, joined.2.1] at counted

/-- Without an end of file nothing is ever closed. After a failed read in particular the picture
tasks go on for good. -/
theorem open_without_end_of_file
    (goesOn : Guarded (observe (Server.step sane) accesses)
      (fun s action => action ≠ .accept ∧ NoEndOfFile s action) (.start camMon) actions)
    (ran : run (observe (Server.step sane) accesses) (.start camMon) actions = some (s, log)) :
    InLoops s ∧ ∀ fd, Access.close fd ∉ log := by
  refine @run_invariant_of_guarded _ _ _ (observe (Server.step sane) accesses)
    (fun s action => action ≠ .accept ∧ NoEndOfFile s action)
    (fun _ log s => InLoops s ∧ ∀ fd, Access.close fd ∉ log) ?_ _ _ [] actions [] log
    ⟨⟨rfl, rfl, rfl, by simp [Server.start]⟩, by simp⟩ goesOn ran
  rintro _ log s action t seen ⟨loops, kept⟩ ⟨client, goesOn⟩ taken
  obtain ⟨es, stepped, rfl⟩ := (observe_eq_some_iff _).mp taken
  refine ⟨inLoops_step loops client goesOn stepped, ?_⟩
  intro fd member
  rcases List.mem_append.mp member with before | now
  · exact kept fd before
  · exact loops.keeps_open action fd now

end Runs

/-- As long as the mode connection does not end with the end of file, the life cycle is sound,
because nothing is closed and no picture task returns. When the tasks of a connection have
returned, `connfd` has been closed twice. -/
theorem life_cycle_sound_without_end_of_file {sane : Bool} {camMon : CameraMonitor} {actions : List Action}
    {s : Server} {log : List Access} (client : ∀ action ∈ actions, action ≠ .accept)
    (ran : run (observe (Server.step sane) accesses) (.start camMon) actions = some (s, log)) :
    (Guarded (observe (Server.step sane) accesses) NoEndOfFile (.start camMon) actions →
      SoundLifeCycle s log ∧ ¬ s.Joined ∧ ∀ fd, Access.close fd ∉ log) ∧
    (s.Joined → log.count (.close .connfd) = 2 ∧ ¬ SoundLifeCycle s log) := by
  constructor
  · intro goesOn
    have clients := guarded_of_forall (observe (Server.step sane) accesses)
      (fun action member _ => client action member) (.start camMon)
    obtain ⟨loops, kept⟩ := open_without_end_of_file (guarded_and _ clients goesOn) ran
    exact ⟨sound_of_open loops kept, loops.not_joined, kept⟩
  · intro joined
    have twice := connfd_twice client ran joined
    exact ⟨twice, not_sound_of_count joined (by rw [twice]; decide)⟩

instance (s : Server) : (action : Action) → Decidable (NoEndOfFile s action)
  | .update .endOfFile => inferInstanceAs (Decidable (s.update ≠ .read))
  | .update (.byte _) | .update .error | .take _ _ | .send _ | .accept => inferInstanceAs (Decidable True)

def failedModeRead : List Action :=
  List.replicate 2 (.update .error) ++ takeTurn (some ⟨[1, 2, 3], 5000000⟩) ++ sendTurn

theorem failed_read_closes_nothing : ∃ s log,
    run (observe (Server.step true) accesses) (.start (.init (.filled BUFSIZE 0) 0 true)) failedModeRead =
        some (s, log) ∧
      s.update = .returned ∧ SoundLifeCycle s log ∧ ¬ s.Joined ∧ ∀ fd, Access.close fd ∉ log := by
  have returned : ∃ s log,
      run (observe (Server.step true) accesses) (.start (.init (.filled BUFSIZE 0) 0 true)) failedModeRead =
        some (s, log) ∧ s.update = .returned := ⟨_, _, rfl, rfl⟩
  obtain ⟨s, log, ran, returned⟩ := returned
  exact ⟨s, log, ran, returned,
    (life_cycle_sound_without_end_of_file (by simp [failedModeRead, takeTurn, sendTurn]) ran).1 (by decide +kernel)⟩

def busyConnection : List Action :=
  takeTurn (some ⟨[1, 2, 3], 5000000⟩) ++ List.replicate 4 (.send 13) ++
    List.replicate 2 (.update .endOfFile) ++ List.replicate 2 (.take none (.filled BUFSIZE 0)) ++
    List.replicate 7 (.send 13) ++ List.replicate 3 (.update .endOfFile)

/-- The take task closes the descriptor, then the send task writes to it and closes it again. -/
theorem connfd_used_after_close : ∃ s log,
    run (observe (Server.step true) accesses) (.start (.init (.filled BUFSIZE 0) 0 true))
        busyConnection = some (s, log) ∧
      s.Joined ∧
      log = [.read .connmodefd, .close .connfd, .send .connfd, .close .connfd, .close .connmodefd] ∧
      ¬ SoundLifeCycle s log :=
  ⟨_, _, rfl, ⟨rfl, rfl, rfl⟩, rfl, @not_sound_of_count _ _ .connfd ⟨rfl, rfl, rfl⟩ (by decide)⟩

theorem connmodefd_closed_once {sane : Bool} {camMon : CameraMonitor} {actions : List Action}
    {s : Server} {log : List Access}
    (succeeds : Guarded (observe (Server.step sane) accesses)
      (fun s action => action ≠ .accept ∧ ReadsSucceed s action) (.start camMon) actions)
    (ran : run (observe (Server.step sane) accesses) (.start camMon) actions = some (s, log))
    (joined : s.Joined) : log.count (.close .connmodefd) = 1 := by
  have counted : log.count (.close .connmodefd) = s.update.closes := by
    refine @run_invariant_of_guarded _ _ _ (observe (Server.step sane) accesses)
      (fun s action => action ≠ .accept ∧ ReadsSucceed s action)
      (fun _ log s => log.count (.close .connmodefd) = s.update.closes) ?_ _ _ [] actions [] log
      rfl succeeds ran
    rintro _ log s action t seen counted ⟨admitted, succeeds⟩ taken
    obtain ⟨es, stepped, rfl⟩ := (observe_eq_some_iff _).mp taken
    exact connmodefd_step admitted succeeds counted stepped
  rw [joined.2.2] at counted
  exact counted

end NetCam.Camera
