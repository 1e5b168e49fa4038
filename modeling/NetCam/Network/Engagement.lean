import NetCam.Network.EndOfStream

/-! Which connections the receiver of pictures may still read from.

The connection thread replaces a connection only when the receiver is not at work on it, and a
socket whose read threw is never read again.
-/

set_option autoImplicit false

namespace NetCam.Network

open Semantics

-- The thread has waited for the connection and not yet given it up.
def Thread.engaged {program : Program} (thread : Thread program) : Bool :=
  match thread.position with
  | .getSocket | .work _ _ | .setInactive _ => true
  | _ => false

theorem Thread.engaged_of_work {program : Program} {thread : Thread program} {socket : Nat}
    {stage : program.Stage} (at_ : thread.position = .work socket stage) : thread.engaged = true := by
  unfold Thread.engaged
  rw [at_]

def Connecting.opening : Connecting → Bool
  | connect | setSocket _ | setActive => true
  | _ => false

namespace Group

/-- While the receiver is engaged, the connection thread leaves the connection alone. -/
structure Engaging (s : Group pictureThreads) : Prop where
  active : s.monitor.isActive = true → s.connecting = .waitUntilNotActive
  engaged : (s.threads ()).engaged = true →
    s.connecting = .waitUntilNotActive ∧ (s.monitor.isActive = true ∨ s.monitor.isShutdown = true) ∨
      (s.connecting = .close ∨ s.connecting = .loop ∨ s.connecting = .exited) ∧
        s.monitor.isShutdown = true
  own : ∀ socket stage, (s.threads ()).position = .work socket stage → s.monitor.getSocket = some socket
  newest : ∀ socket, s.connecting = .setSocket socket → socket < s.opened ∧
    ∀ earlier, s.monitor.getSocket = some earlier → earlier < socket
  opened : ∀ socket, s.monitor.getSocket = some socket → socket < s.opened

def Readable (s : Group pictureThreads) (socket : Nat) : Prop :=
  s.opened ≤ socket ∨ s.connecting = .setSocket socket ∨
    s.monitor.getSocket = some socket ∧ (s.connecting = .setActive ∨
      s.monitor.isActive = true ∧
        ((s.threads ()).position = .loop ∨ (s.threads ()).position = .waitUntilActive) ∨
      (s.threads ()).position = .getSocket ∨ ∃ stage, (s.threads ()).position = .work socket stage)

variable {s next : Group pictureThreads} {es : List SocketEvent}

theorem engaging_start (fields : (i : Unit) → (pictureThreads i).Fields) :
    Engaging (start fields : Group pictureThreads) :=
  ⟨fun active => (by cases active), fun engaged => (by cases engaged), fun _ _ at_ => (by cases at_),
    fun _ setting => (by cases setting), fun _ there => (by cases there)⟩

theorem Engaging.idle {P : Prop} (engaging : s.Engaging) (opening : s.connecting.opening = true)
    (engaged : (s.threads ()).engaged = true) : P := by
  rcases engaging.engaged engaged with ⟨there, _⟩ | ⟨there | there | there, _⟩ <;>
    rw [there] at opening <;> cases opening

theorem Engaging.thread {moment : Moment} (engaging : s.Engaging)
    (taken : step s (.thread () moment) = some (next, es)) : next.Engaging := by
  obtain ⟨monitor, thread, reports, moved, rfl, _⟩ := step_thread taken
  have same := Program.step_getSocket moved
  have active : monitor.isActive = true → s.connecting = .waitUntilNotActive := by
    intro active
    rcases Program.step_monitor moved with rfl | rfl | ⟨_, rfl⟩
    · exact engaging.active active
    · cases active
    · cases active
  refine ⟨active, ?_, ?_, ?_, ?_⟩
  · dsimp only
    rw [Function.update_self]
    intro engaged
    -- only the wait makes it engaged, and what it waited for is that the connection is up
    cases Program.step_moves moved with
    | waits _ there => exact .inl ⟨engaging.active there, .inl there⟩
    | noStream at_ | takes at_ | goesOn at_ | ioException at_ =>
      exact engaging.engaged (by unfold Thread.engaged; rw [at_])
    | goesIn | exits | breaks | setsInactive | shutsDown | noSocket | otherException => cases engaged
  · dsimp only
    rw [Function.update_self, same]
    intro socket stage there
    cases Program.step_moves moved with
    | takes _ current =>
      cases there
      exact current
    | goesOn at_ =>
      cases there
      exact engaging.own _ _ at_
    | _ => cases there
  · dsimp only
    rw [same]
    exact engaging.newest
  · dsimp only
    rw [same]
    exact engaging.opened

theorem Engaging.connector {fails : Bool} (engaging : s.Engaging)
    (taken : step s (.connector fails) = some (next, es)) : next.Engaging := by
  -- an active connection has the thread waiting, and so has an engaged receiver, but for a shutdown
  cases connector_moves taken with
  | exits at_ down =>
    refine ⟨fun active => ?_, fun engaged => ?_, engaging.own, fun _ setting => (by cases setting),
      engaging.opened⟩
    · cases at_.symm.trans (engaging.active active)
    · exact .inr ⟨.inr (.inr rfl), down⟩
  | goesOn at_ up =>
    refine ⟨fun active => ?_, fun engaged => ?_, engaging.own, fun _ setting => (by cases setting),
      engaging.opened⟩
    · cases at_.symm.trans (engaging.active active)
    · rcases engaging.engaged engaged with ⟨there, _⟩ | ⟨_, down⟩
      · cases at_.symm.trans there
      · cases up.symm.trans down
  | throws at_ =>
    exact ⟨fun active => (by cases active), engaging.idle (by rw [at_]; rfl), engaging.own,
      fun _ setting => (by cases setting), engaging.opened⟩
  | opens at_ =>
    refine ⟨fun active => ?_, engaging.idle (by rw [at_]; rfl), engaging.own, fun socket setting => ?_, ?_⟩
    · cases at_.symm.trans (engaging.active active)
    · cases setting
      exact ⟨Nat.lt_succ_self _, engaging.opened⟩
    · exact fun socket there => Nat.lt_succ_of_lt (engaging.opened socket there)
  | sets at_ =>
    refine ⟨fun active => ?_, engaging.idle (by rw [at_]; rfl), ?_, fun _ setting => (by cases setting),
      fun socket there => ?_⟩
    · cases at_.symm.trans (engaging.active active)
    · exact fun socket stage there => engaging.idle (by rw [at_]; rfl) (Thread.engaged_of_work there)
    · cases there
      exact (engaging.newest _ at_).1
  | activates at_ =>
    exact ⟨fun _ => rfl, engaging.idle (by rw [at_]; rfl), engaging.own, fun _ setting => (by cases setting),
      engaging.opened⟩
  | waits at_ inactive =>
    refine ⟨fun active => ?_, fun engaged => ?_, engaging.own, fun _ setting => (by cases setting),
      engaging.opened⟩
    · cases inactive.symm.trans active
    · rcases engaging.engaged engaged with ⟨_, active | down⟩ | ⟨_, down⟩
      · cases inactive.symm.trans active
      · exact .inr ⟨.inl rfl, down⟩
      · exact .inr ⟨.inl rfl, down⟩
  | closes at_ =>
    refine ⟨fun active => ?_, fun engaged => ?_, engaging.own, fun _ setting => (by cases setting),
      engaging.opened⟩
    · cases at_.symm.trans (engaging.active active)
    · rcases engaging.engaged engaged with ⟨there, _⟩ | ⟨_, down⟩
      · cases at_.symm.trans there
      · exact .inr ⟨.inr (.inl rfl), down⟩

theorem engaging_step {action : GroupAction Unit} (engaging : s.Engaging)
    (taken : step s action = some (next, es)) : next.Engaging := by
  cases action with
  | thread i moment => exact engaging.thread taken
  | connector fails => exact engaging.connector taken
  | closer =>
    obtain ⟨_, _, _, rfl, _⟩ := step_closer taken
    exact ⟨engaging.active, engaging.engaged, engaging.own, engaging.newest, engaging.opened⟩
  | shutDown =>
    cases taken
    refine ⟨fun active => (by cases active), fun engaged => ?_, engaging.own, engaging.newest,
      engaging.opened⟩
    rcases engaging.engaged engaged with ⟨there, _⟩ | ⟨there, _⟩
    · exact .inl ⟨there, .inr rfl⟩
    · exact .inr ⟨there, rfl⟩

theorem readable_thread {moment : Moment} {socket : Nat} (engaging : s.Engaging)
    (taken : step s (.thread () moment) = some (next, es)) (later : next.Readable socket) :
    s.Readable socket := by
  obtain ⟨monitor, thread, reports, moved, rfl, _⟩ := step_thread taken
  rcases later with unopened | setting | ⟨current, reading⟩
  · exact .inl unopened
  · exact .inr (.inl setting)
  dsimp only at current reading
  rw [Program.step_getSocket moved] at current
  rw [Function.update_self] at reading
  refine .inr (.inr ⟨current, ?_⟩)
  rcases reading with setting | ⟨active, waits⟩ | taking | ⟨stage, works⟩
  · exact .inl setting
  · -- a `break` leads back to the socket the receiver was at work on
    cases Program.step_moves moved with
    | goesIn at_ => exact .inr (.inl ⟨active, .inl at_⟩)
    | @breaks own stage _ _ at_ =>
      cases current.symm.trans (engaging.own own stage at_)
      exact .inr (.inr (.inr ⟨stage, at_⟩))
    | setsInactive | shutsDown => cases active
    | _ => rcases waits with there | there <;> cases there
  · cases Program.step_moves moved with
    | waits at_ there => exact .inr (.inl ⟨there, .inr at_⟩)
    | _ => cases taking
  · cases Program.step_moves moved with
    | takes at_ => exact .inr (.inr (.inl at_))
    | @goesOn own stage _ _ _ at_ =>
      cases works
      exact .inr (.inr (.inr ⟨stage, at_⟩))
    | _ => cases works

theorem readable_step {action : GroupAction Unit} {socket : Nat} (engaging : s.Engaging)
    (taken : step s action = some (next, es)) (later : next.Readable socket) : s.Readable socket := by
  cases action with
  | thread i moment => exact readable_thread engaging taken later
  | closer =>
    obtain ⟨_, _, _, rfl, _⟩ := step_closer taken
    exact later
  | shutDown =>
    cases taken
    rcases later with unopened | setting | ⟨current, setting | ⟨active, _⟩ | reading⟩
    · exact .inl unopened
    · exact .inr (.inl setting)
    · exact .inr (.inr ⟨current, .inl setting⟩)
    · cases active
    · exact .inr (.inr ⟨current, .inr (.inr reading)⟩)
  | connector fails =>
    unfold Readable at later ⊢
    cases connector_moves taken with
    | exits at_ | goesOn at_ | waits at_ | closes at_ => simpa [at_] using later
    | throws =>
      rcases later with unopened | setting | ⟨current, setting | ⟨active, _⟩ | reading⟩
      · exact .inl unopened
      · cases setting
      · cases setting
      · cases active
      · exact .inr (.inr ⟨current, .inr (.inr reading)⟩)
    | opens at_ =>
      rcases later with unopened | setting | ⟨current, reading⟩
      · exact .inl (Nat.le_of_succ_le unopened)
      · cases setting
        exact .inl (Nat.le_refl _)
      · exact .inr (.inr ⟨current, by simpa [at_] using reading⟩)
    | sets at_ =>
      -- the socket before this one is out of reach from here on
      rcases later with unopened | setting | ⟨current, _⟩
      · exact .inl unopened
      · cases setting
      · cases current
        exact .inr (.inl at_)
    | activates at_ =>
      rcases later with unopened | setting | ⟨current, _⟩
      · exact .inl unopened
      · cases setting
      · exact .inr (.inr ⟨current, .inl at_⟩)

theorem step_receiver {moment : Moment} (taken : step s (.thread () moment) = some (next, es)) :
    ∃ reports, Program.pictureReciever.step s.monitor moment (s.threads ()) =
      some (next.monitor, next.threads (), reports) := by
  rcases step_threads () taken with ⟨other, _⟩ | ⟨_, reports, same, moved⟩
  · exact absurd rfl (other moment)
  · cases same
    exact ⟨reports, moved⟩

theorem socket_grows {action : GroupAction Unit} {socket : Nat} (engaging : s.Engaging)
    (taken : step s action = some (next, es)) (current : s.monitor.getSocket = some socket) :
    ∃ later, next.monitor.getSocket = some later ∧ socket ≤ later := by
  cases action with
  | thread i moment =>
    obtain ⟨_, _, _, moved, rfl, _⟩ := step_thread taken
    exact ⟨socket, (Program.step_getSocket moved).trans current, Nat.le_refl socket⟩
  | closer =>
    obtain ⟨_, _, _, rfl, _⟩ := step_closer taken
    exact ⟨socket, current, Nat.le_refl socket⟩
  | shutDown =>
    cases taken
    exact ⟨socket, current, Nat.le_refl socket⟩
  | connector fails =>
    cases connector_moves taken with
    | @sets own setting =>
      exact ⟨own, rfl, Nat.le_of_lt ((engaging.newest own setting).2 socket current)⟩
    | exits | goesOn | throws | opens | activates | waits | closes =>
      exact ⟨socket, current, Nat.le_refl socket⟩

theorem not_readable_left {moment : Moment} {socket : Nat} {stage : PictureReciever.Stage}
    (engaging : s.Engaging) (at_ : (s.threads ()).position = .work socket stage)
    (taken : step s (.thread () moment) = some (next, es))
    (left : (next.threads ()).position = .setInactive socket ∨ (next.threads ()).position = .shutDown) :
    ¬ next.Readable socket := by
  obtain ⟨monitor, thread, reports, moved, rfl, _⟩ := step_thread taken
  have engaged := Thread.engaged_of_work at_
  rintro (unopened | setting | ⟨_, setting | ⟨_, away⟩ | away | ⟨later, away⟩⟩)
  · exact absurd (engaging.opened socket (engaging.own socket stage at_)) (Nat.not_lt_of_le unopened)
  · exact engaging.idle (by dsimp only at setting; rw [setting]; rfl) engaged
  · exact engaging.idle (by dsimp only at setting; rw [setting]; rfl) engaged
  · rcases left with left | left <;> rcases away with away | away <;> cases left.symm.trans away
  · rcases left with left | left <;> cases left.symm.trans away
  · rcases left with left | left <;> cases left.symm.trans away

end Group

end NetCam.Network
