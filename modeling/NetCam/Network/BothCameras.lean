import NetCam.Client.ModeArbitration
import NetCam.Network.ModeAgreement
import NetCam.Network.MotionVerdicts
import NetCam.Semantics.Termination

/-! The two mode channels of one `ClientMonitor`, and the mode that both cameras come to.

What happens at one camera decides the mode of both. The channels share the client's monitor
and nothing else, and their steps come in any order. In front of them are the motion server
of the camera and the thread that reads its answers.
-/

set_option autoImplicit false

namespace NetCam.Network

open Semantics Client

namespace Channel

def Up (s : Channel) : Prop :=
  s.sender.position ∈ [.getNewMode, .write, .flush, .sleep] ∧ s.sender.socket = some s.serving ∧
    s.monitor.isActive = true ∧ (s.connections s.serving).closed = false ∧
    (s.connections s.serving).lost = false ∧ s.server.shared.isConnected = true ∧
    s.server.update ∈ [.test, .read, .setMode]

instance (s : Channel) : Decidable s.Up := by
  unfold Up
  infer_instance

def sendRank : Sending → Nat
  | .write => 9
  | .flush => 5
  | .sleep => 4
  | _ => 0

def readRank : Camera.UpdatePosition → Nat
  | .setMode => 2
  | .test => 1
  | _ => 0

/-- An outdated mode is sent once more, and every byte on the way is read and set. -/
def rank (s : Channel) : Nat :=
  sendRank s.sender.position + (if s.sender.mode = s.cMon.modeToSend then 0 else 10) +
    3 * (s.connections s.serving).unread.length + readRank s.server.update

section Calm

variable {sane : Bool} {s next : Channel} {es : List Camera.ServerEvent}

theorem step_cMon {action : ChannelAction} (taken : step sane s action = some (next, es)) :
    (∃ call called, action = .call call ∧ s.cMon.step call = some (next.cMon, called)) ∨
      (∀ call, action ≠ .call call) ∧ next.cMon = s.cMon := by
  cases action with
  | call call =>
    simp only [step] at taken
    split at taken <;> cases taken
    exact .inl ⟨call, _, rfl, by assumption⟩
  | sender fails =>
    refine .inr ⟨by simp, ?_⟩
    simp only [step] at taken
    split at taken
    · cases taken
      rfl
    · split at taken <;> cases taken
      rfl
    · cases taken
  | connector fails =>
    refine .inr ⟨by simp, ?_⟩
    simp only [step] at taken
    split at taken <;> cases taken
    rfl
  | lose socket kept =>
    refine .inr ⟨by simp, ?_⟩
    simp only [step] at taken
    split at taken <;> cases taken
    rfl
  | server action =>
    refine .inr ⟨by simp, ?_⟩
    cases action with
    | update arrived =>
      simp only [step] at taken
      split at taken
      · split at taken <;> cases taken
        rfl
      · cases taken
    | accept =>
      simp only [step] at taken
      split at taken
      · split at taken <;> cases taken
        rfl
      · cases taken
    | take captured stack | send written =>
      simp only [step] at taken
      split at taken <;> cases taken
      rfl

theorem Up.sends (up : s.Up) (taken : step sane s (.sender false) = some (next, es)) :
    next.Up ∧ next.rank < s.rank ∧ s.Survives (.sender false) := by
  obtain ⟨sending, own, active, unclosed, works, connected, reading⟩ := up
  simp only [step, modeSender] at taken
  simp only [List.mem_cons, List.not_mem_nil, or_false] at sending
  rcases sending with at_ | at_ | at_ | at_
  · -- by where the sender is: reading the mode, writing, flushing, back to the mode
    simp only [at_, ClientMonitor.getNewMode] at taken
    split at taken
    · next found =>
      split at found
      · next recorded =>
        split at recorded <;> cases recorded
        next outdated =>
        cases found
        cases taken
        refine ⟨⟨by simp, own, active, unclosed, works, connected, reading⟩, ?_, ?_⟩
        · simp only [rank, serving, at_, outdated, if_true, if_false, sendRank]
          omega
        · simp only [Survives, at_]
      · cases found
    · next found => split at found <;> cases found
    · cases taken
  · simp only [at_, Bool.false_eq_true, if_false, own] at taken
    cases taken
    have sent : s.put s.serving (pack s.sender.mode) = Function.update s.connections s.serving
        { s.connections s.serving with
          unread := (s.connections s.serving).unread ++ [pack s.sender.mode] } := by
      unfold Channel.put
      rw [if_neg (by rw [works]; decide)]
    refine ⟨⟨by simp, rfl, active, ?_, ?_, connected, reading⟩, ?_, ?_⟩
    · change (s.put s.serving (pack s.sender.mode) s.serving).closed = false
      rw [sent, Function.update_self]
      exact unclosed
    · change (s.put s.serving (pack s.sender.mode) s.serving).lost = false
      rw [sent, Function.update_self]
      exact works
    · -- the byte counts for three steps, which is less than the write did
      have long : (s.put s.serving (pack s.sender.mode) s.serving).unread.length =
          (s.connections s.serving).unread.length + 1 := by
        rw [sent, Function.update_self, List.length_append, List.length_singleton]
      change sendRank .flush + _ + 3 * (s.put s.serving (pack s.sender.mode) s.serving).unread.length +
        readRank s.server.update < s.rank
      rw [long]
      simp only [rank, at_, sendRank]
      omega
    · simp only [Survives, at_, own, true_and]
      rintro socket ⟨⟩
      exact works
  · simp only [at_, Bool.false_eq_true, if_false] at taken
    cases taken
    refine ⟨⟨by simp, own, active, unclosed, works, connected, reading⟩, ?_, ?_⟩
    · simp only [rank, serving, at_, sendRank]
      omega
    · simp only [Survives, at_]
  · simp only [at_] at taken
    cases taken
    refine ⟨⟨by simp, own, active, unclosed, works, connected, reading⟩, ?_, ?_⟩
    · simp only [rank, serving, at_, sendRank]
      omega
    · simp only [Survives, at_]

theorem Up.reads (up : s.Up) {arrived : Camera.ModeRead}
    (taken : step sane s (.server (.update arrived)) = some (next, es)) :
    next.Up ∧ next.rank < s.rank ∧ s.Survives (.server (.update arrived)) := by
  obtain ⟨sending, own, active, unclosed, works, connected, reading⟩ := up
  simp only [step, Camera.Server.step, Camera.updateModeTask] at taken
  simp only [List.mem_cons, List.not_mem_nil, or_false] at reading
  -- nothing is lost where nothing is read
  have quiet : s.server.update ≠ .read → s.Survives (.server (.update arrived)) := by
    intro away
    cases arrived with
    | endOfFile => exact fun reads => absurd reads away
    | byte | error => trivial
  rcases reading with at_ | at_ | at_
  · simp only [at_, reduceCtorEq, if_false, Function.update_eq_self, connected, if_true] at taken
    cases taken
    refine ⟨⟨sending, own, active, unclosed, works, connected, by simp⟩, ?_, quiet (by rw [at_]; decide)⟩
    simp only [rank, serving, at_, readRank]
    omega
  · simp only [at_, if_true] at taken
    split at taken
    · next after delivered =>
      cases arrived with
      | byte b =>
        -- a byte less on the way outweighs the steps of setting it
        obtain ⟨rest, first, rfl⟩ := deliver_byte delivered
        cases taken
        refine ⟨⟨sending, own, active, ?_, ?_, connected, by simp⟩, ?_, trivial⟩
        · simp only [serving, Function.update_self]
          exact unclosed
        · simp only [serving, Function.update_self]
          exact works
        · simp only [rank, serving, Function.update_self, at_, readRank]
          change (s.connections (s.accepted - 1)).unread = b :: rest at first
          rw [first, List.length_cons]
          omega
      | endOfFile | error => simp [Connection.deliver, unclosed, works] at delivered
    · cases taken
  · simp only [at_, reduceCtorEq, if_false, Function.update_eq_self] at taken
    cases taken
    refine ⟨⟨sending, own, active, unclosed, works, connected, by simp⟩, ?_, quiet (by rw [at_]; decide)⟩
    simp only [rank, serving, at_, readRank]
    omega

/-- Where neither side can go on, the camera is in the mode of the client. -/
theorem Up.rests (up : s.Up) (inStep : s.InStep) (sender : step sane s (.sender false) = none)
    (reader : ∀ arrived, step sane s (.server (.update arrived)) = none) :
    s.server.shared.camMon.mode = s.cMon.modeToSend := by
  obtain ⟨sending, own, active, unclosed, works, connected, reading⟩ := up
  have waits : s.sender.position = .getNewMode ∧ s.cMon.getNewMode s.sender.mode = .error .waits := by
    simp only [step, modeSender] at sender
    simp only [List.mem_cons, List.not_mem_nil, or_false] at sending
    rcases sending with at_ | at_ | at_ | at_
    · refine ⟨at_, ?_⟩
      simp only [at_, ClientMonitor.getNewMode] at sender ⊢
      split
      · rfl
      · next outdated => simp [outdated] at sender
    · simp [at_, own] at sender
    · simp [at_] at sender
    · simp [at_] at sender
  have consumed : s.Consumed := by
    simp only [step, Camera.Server.step, Camera.updateModeTask] at reader
    simp only [List.mem_cons, List.not_mem_nil, or_false] at reading
    rcases reading with at_ | at_ | at_
    · exact (by simpa [at_] using reader .error : False).elim
    · refine ⟨?_, fun setting => by rw [at_] at setting; cases setting.1⟩
      unfold outstanding
      rw [own]
      cases held : (s.connections s.serving).unread with
      | nil => exact held
      | cons b rest =>
        have stuck := reader (.byte b)
        simp [at_, Connection.deliver, held] at stuck
    · exact (by simpa [at_] using reader .error : False).elim
  exact inStep.agrees waits.1 waits.2 active consumed

end Calm

end Channel

structure BothChannels where
  cMon : ClientMonitor
  channels : Cam → Channel

namespace BothChannels

def start (camMon : Cam → Camera.CameraMonitor) : BothChannels :=
  { cMon := .fresh, channels := fun c => .start (camMon c) }

def channel (s : BothChannels) (c : Cam) : Channel := { s.channels c with cMon := s.cMon }

/-- A step of one of the channels. A call on the monitor may be made in either. -/
def step (sane : Bool) : Step BothChannels (Cam × ChannelAction) (Cam × Camera.ServerEvent) :=
  fun s (c, action) =>
    match Channel.step sane (s.channel c) action with
    | some (next, es) =>
      some ({ cMon := next.cMon, channels := Function.update s.channels c next }, es.map ((c, ·)))
    | none => none

/-- A statement of a sender whose connection works, or of a camera's `update_mode_task`. -/
inductive ModeStep where
  | send
  | update (arrived : Camera.ModeRead)

def ModeStep.action : ModeStep → ChannelAction
  | .send => .sender false
  | .update arrived => .server (.update arrived)

-- The threads that carry the mode, left to themselves.
def settle (sane : Bool) : Step BothChannels (Cam × ModeStep) (Cam × Camera.ServerEvent) :=
  fun s (c, statement) => step sane s (c, statement.action)

-- No mode is lost in the channel that takes the step.
def Survives (s : BothChannels) (action : Cam × ChannelAction) : Prop :=
  (s.channel action.1).Survives action.2

instance (s : BothChannels) (action : Cam × ChannelAction) : Decidable (s.Survives action) :=
  inferInstanceAs (Decidable ((s.channel action.1).Survives action.2))

def callOf : Cam × ChannelAction → Option Call
  | (_, .call call) => some call
  | _ => none

def calls (actions : List (Cam × ChannelAction)) : List Call := actions.filterMap callOf

section Steps

variable {sane : Bool} {s next : BothChannels} {c : Cam} {action : ChannelAction}
  {es : List (Cam × Camera.ServerEvent)}

theorem step_channels (taken : step sane s (c, action) = some (next, es)) :
    (∃ own, Channel.step sane (s.channel c) action = some (next.channel c, own)) ∧
      ∀ d, d ≠ c → next.channel d = { s.channel d with cMon := next.cMon } := by
  simp only [step] at taken
  split at taken
  · next after own stepped =>
    cases taken
    refine ⟨⟨own, ?_⟩, ?_⟩
    · simp only [channel, Function.update_self]
      exact stepped
    · intro d differ
      simp only [channel, Function.update_of_ne differ]
  · cases taken

theorem step_calls (taken : step sane s (c, action) = some (next, es)) :
    (∃ call called, callOf (c, action) = some call ∧ s.cMon.step call = some (next.cMon, called)) ∨
      callOf (c, action) = none ∧ next.cMon = s.cMon := by
  obtain ⟨⟨own, stepped⟩, _⟩ := step_channels taken
  rcases Channel.step_cMon stepped with ⟨call, called, rfl, made⟩ | ⟨other, same⟩
  · exact .inl ⟨call, called, rfl, made⟩
  · refine .inr ⟨?_, same⟩
    cases action with
    | call call => exact absurd rfl (other call)
    | _ => rfl

def InStep (s : BothChannels) : Prop := ∀ c, (s.channel c).InStep

theorem inStep_step (inStep : s.InStep) (survives : s.Survives (c, action))
    (taken : step sane s (c, action) = some (next, es)) : next.InStep := by
  obtain ⟨⟨own, stepped⟩, others⟩ := step_channels taken
  have moved := Channel.inStep_step (inStep c) survives stepped
  intro d
  rcases eq_or_ne d c with rfl | differ
  · exact moved
  · obtain ⟨_, recorded, elsewhere, settled, pending⟩ := inStep d
    rw [others d differ]
    exact ⟨moved.requested, recorded, elsewhere, settled, pending⟩

def Followed (done : List (Cam × ChannelAction)) (s : BothChannels) : Prop :=
  s.InStep ∧ ∃ es, run ClientMonitor.step .fresh (calls done) = some (s.cMon, es)

theorem followed_step {done : List (Cam × ChannelAction)} (held : Followed done s)
    (survives : s.Survives (c, action)) (taken : step sane s (c, action) = some (next, es)) :
    Followed (done ++ [(c, action)]) next := by
  obtain ⟨inStep, log, called⟩ := held
  refine ⟨inStep_step inStep survives taken, ?_⟩
  rw [calls, List.filterMap_append]
  rcases step_calls taken with ⟨call, more, is_call, made⟩ | ⟨other, same⟩
  · refine ⟨log ++ more, (run_append_iff ClientMonitor.step).mpr ⟨_, log, more, called, ?_, rfl⟩⟩
    simp only [List.filterMap_cons, is_call, List.filterMap_nil]
    exact (run_singleton_iff ClientMonitor.step).mpr made
  · refine ⟨log, ?_⟩
    simp only [List.filterMap_cons, other, List.filterMap_nil, List.append_nil, same]
    exact called

theorem followed_run {camMon : Cam → Camera.CameraMonitor} {actions : List (Cam × ChannelAction)}
    {log : List (Cam × Camera.ServerEvent)} (idle : ∀ c, (camMon c).mode = Camera.IDLE_MODE)
    (survives : Guarded (step sane) Survives (start camMon) actions)
    (ran : run (step sane) (start camMon) actions = some (s, log)) : Followed actions s :=
  @run_invariant_of_guarded _ _ _ (step sane) Survives (fun done _ s => Followed done s)
    (fun _ _ _ _ _ _ held survives taken => followed_step held survives taken) (start camMon) s []
    actions [] log ⟨fun c => Channel.inStep_start (idle c), [], rfl⟩ survives ran

end Steps

section Settle

variable {sane : Bool} {s next : BothChannels} {es : List (Cam × Camera.ServerEvent)}

def Up (s : BothChannels) : Prop := ∀ c, (s.channel c).Up

def rank (s : BothChannels) : Nat := (s.channel .one).rank + (s.channel .two).rank

theorem ModeStep.action_ne_call (statement : ModeStep) (call : Call) : statement.action ≠ .call call := by
  cases statement <;> exact nofun

/-- A statement of one of the threads brings its own channel nearer to rest, and leaves the
other one alone. -/
theorem settle_channels {c : Cam} {statement : ModeStep} (up : s.Up)
    (taken : settle sane s (c, statement) = some (next, es)) :
    next.cMon = s.cMon ∧ s.Survives (c, statement.action) ∧ (next.channel c).Up ∧
      (next.channel c).rank < (s.channel c).rank ∧ ∀ d, d ≠ c → next.channel d = s.channel d := by
  obtain ⟨⟨own, stepped⟩, others⟩ := step_channels taken
  have same : next.cMon = s.cMon := by
    rcases Channel.step_cMon stepped with ⟨call, _, made, _⟩ | ⟨_, same⟩
    · exact absurd made (statement.action_ne_call call)
    · exact same
  have moved : (next.channel c).Up ∧ (next.channel c).rank < (s.channel c).rank ∧
      (s.channel c).Survives statement.action := by
    cases statement with
    | send => exact (up c).sends stepped
    | update arrived => exact (up c).reads stepped
  refine ⟨same, moved.2.2, moved.1, moved.2.1, ?_⟩
  intro d differ
  rw [others d differ, same]
  rfl

theorem settle_lowers {mode : Int32} (a : Cam × ModeStep)
    (held : s.InStep ∧ s.Up ∧ s.cMon.modeToSend = mode) (taken : settle sane s a = some (next, es)) :
    (next.InStep ∧ next.Up ∧ next.cMon.modeToSend = mode) ∧ next.rank < s.rank := by
  obtain ⟨c, statement⟩ := a
  obtain ⟨inStep, up, sent⟩ := held
  obtain ⟨same, survives, still, lower, others⟩ := settle_channels up taken
  refine ⟨⟨inStep_step inStep survives taken, ?_, by rw [same]; exact sent⟩, ?_⟩
  · intro d
    rcases eq_or_ne d c with rfl | differ
    · exact still
    · rw [others d differ]
      exact up d
  · unfold rank
    cases c with
    | one =>
      rw [others .two (by decide)]
      omega
    | two =>
      rw [others .one (by decide)]
      omega

theorem settle_rests (inStep : s.InStep) (up : s.Up) (final : Final (settle sane) s) (c : Cam) :
    (s.channel c).server.shared.camMon.mode = s.cMon.modeToSend := by
  have stuck : ∀ statement : ModeStep, Channel.step sane (s.channel c) statement.action = none := by
    intro statement
    have never := final (c, statement)
    simp only [settle, step] at never
    split at never
    · cases never
    · assumption
  exact (up c).rests (inStep c) (stuck .send) fun arrived => stuck (.update arrived)

/-- From a run in which no mode is lost the channels settle on the mode that its calls ask for. -/
theorem settles {camMon : Cam → Camera.CameraMonitor} {actions : List (Cam × ChannelAction)}
    {log : List (Cam × Camera.ServerEvent)} (idle : ∀ c, (camMon c).mode = Camera.IDLE_MODE)
    (survives : Guarded (step sane) Survives (start camMon) actions)
    (ran : run (step sane) (start camMon) actions = some (s, log)) (up : s.Up) :
    EndsIn (settle sane)
      (fun t => ∀ c, (t.channel c).server.shared.camMon.mode = asked (calls actions)) s := by
  obtain ⟨inStep, es, called⟩ := followed_run idle survives ran
  refine endsIn_of_rank (settle sane) rank (fun _ a _ _ => settle_lowers a) ?_
    (show s.InStep ∧ s.Up ∧ s.cMon.modeToSend = asked (calls actions) from
      ⟨inStep, up, modeToSend_eq_asked called⟩)
  rintro t ⟨inStep, up, sent⟩ final c
  rw [settle_rests inStep up final c, sent]

end Settle

/-- When no mode has been lost and both connections are up, the threads that carry the mode come
to rest in every order of their steps, with both cameras in the mode that the calls so far ask
for: motion at one camera turns on the movie mode of both. -/
theorem both_cameras_follow {sane : Bool} {camMon : Cam → Camera.CameraMonitor}
    {actions : List (Cam × ChannelAction)} {s : BothChannels} {log : List (Cam × Camera.ServerEvent)}
    (idle : ∀ c, (camMon c).mode = Camera.IDLE_MODE)
    (survives : Guarded (step sane) Survives (start camMon) actions)
    (ran : run (step sane) (start camMon) actions = some (s, log)) (up : s.Up) :
    EndsIn (settle sane)
      (fun t => ∀ c, (t.channel c).server.shared.camMon.mode = asked (calls actions)) s :=
  settles idle survives ran up

def connected (c : Cam) : List (Cam × ChannelAction) :=
  List.replicate 4 (c, .connector false) ++ List.replicate 3 (c, .sender false) ++ [(c, .server .accept)]

def motionAtOne : List (Cam × ChannelAction) :=
  connected .one ++ connected .two ++ [(.one, .call (.setMotionDetected .one true))]

theorem motionAtOne_ran : ∃ s log,
    run (step true) (start fun _ => .init (.filled _ 0) 0 true) motionAtOne = some (s, log) ∧
      Guarded (step true) Survives (start fun _ => .init (.filled _ 0) 0 true) motionAtOne ∧ s.Up := by
  have finishes : (run (step true) (start fun _ => .init (.filled _ 0) 0 true) motionAtOne).map
      (fun reached => decide ((reached.1.channel .one).Up ∧ (reached.1.channel .two).Up)) = some true := by
    decide +kernel
  obtain ⟨⟨s, log⟩, ran, up⟩ := Option.map_eq_some_iff.mp finishes
  have both := of_decide_eq_true up
  refine ⟨s, log, ran, by decide +kernel, ?_⟩
  intro c
  cases c with
  | one => exact both.1
  | two => exact both.2

theorem motion_at_one_starts_both : asked (calls motionAtOne) = 1 ∧ ∃ s log,
    run (step true) (start fun _ => .init (.filled _ 0) 0 true) motionAtOne = some (s, log) ∧
      EndsIn (settle true)
        (fun t => ∀ c, (t.channel c).server.shared.camMon.mode = asked (calls motionAtOne)) s := by
  obtain ⟨s, log, ran, survives, up⟩ := motionAtOne_ran
  exact ⟨by decide, s, log, ran, both_cameras_follow (fun _ => rfl) survives ran up⟩

end BothChannels

end NetCam.Network
