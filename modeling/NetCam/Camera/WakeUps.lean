import Mathlib.Logic.Function.Basic
import NetCam.Camera.Disconnect

/-! The wait of the picture tasks on `global_cond`, with the broadcasts it depends on.

In `Server` a waiting task may wake up at any time. Here it sleeps until a broadcast or a
spurious wake-up, so a broadcast that came too early would be missed. Every run of this
server is one of `Server`.
-/

set_option autoImplicit false

namespace NetCam.Camera

open Semantics

namespace Position

variable {Stage : Type}

def asleep : Position Stage → Bool
  | waiting => true
  | _ => false

def broadcasting : Position Stage → Bool
  | broadcast => true
  | _ => false

def announcing : Position Stage → Bool
  | unlock | broadcast => true
  | _ => false

theorem not_asleep_of_holds {position : Position Stage} (holds : position.holds = true) :
    position.asleep = false := by
  cases position <;> first | rfl | cases holds

theorem not_asleep_of_announcing {position : Position Stage} (owed : position.announcing = true) :
    position.asleep = false := by
  cases position <;> first | rfl | cases owed

-- The lock is given up before the broadcast.
theorem holds_of_announcing {position : Position Stage} (owed : position.announcing = true)
    (silent : position.broadcasting = false) : position.holds = true := by
  cases position <;> first | rfl | cases owed; done | cases silent

theorem not_announcing_of_busy {position : Position Stage} (busy : position.busy = true) :
    position.announcing = false := by
  cases position <;> first | rfl | cases busy

end Position

namespace Server

def asleep (s : Server) : Task → Bool
  | .take => s.take.asleep
  | .send => s.send.asleep

def broadcasting (s : Server) : Task → Bool
  | .take => s.take.broadcasting
  | .send => s.send.broadcasting

def announcing (s : Server) : Task → Bool
  | .take => s.take.announcing
  | .send => s.send.announcing

def busy (s : Server) : Task → Bool
  | .take => s.take.busy
  | .send => s.send.busy

end Server

def Action.task : Action → Option Task
  | .take _ _ => some .take
  | .send _ => some .send
  | .update _ | .accept => none

/-- The server, and which of its sleeping tasks have been woken. -/
structure Waking where
  server : Server
  woken : Task → Bool

inductive WakingAction where
  | act (action : Action)
  | spurious (task : Task)

namespace Waking

def start (camMon : CameraMonitor) : Waking := ⟨.start camMon, fun _ => false⟩

-- The task sleeps and nobody has woken it.
def keeps (w : Waking) (action : Action) : Bool :=
  match action.task with
  | some task => w.server.asleep task && !w.woken task
  | none => false

/-- A broadcast wakes every task. A task that goes to sleep has not been woken yet. -/
def wokenAfter (w : Waking) (action : Action) : Task → Bool :=
  match action.task with
  | some task =>
    if w.server.broadcasting task then fun _ => true else Function.update w.woken task false
  | none => w.woken

-- The steps without a spurious wake-up.
def act (sane : Bool) : Step Waking Action ServerEvent := fun w action =>
  if w.keeps action then none
  else
    match Server.step sane w.server action with
    | none => none
    | some (next, es) => some (⟨next, w.wokenAfter action⟩, es)

def step (sane : Bool) : Step Waking WakingAction ServerEvent
  | w, .act action => act sane w action
  | w, .spurious task =>
    if w.server.asleep task then some ({ w with woken := Function.update w.woken task true }, [])
    else none

/-- A task that sleeps unwoken on its own turn is about to be woken by the other one. -/
def NoneForgotten (w : Waking) : Prop :=
  ∀ task, w.server.asleep task = true → w.woken task = false →
    w.server.shared.camMon.picTakeSend = task.turn → w.server.announcing task.other = true

end Waking

def WakingAction.act? : WakingAction → Option Action
  | act action => some action
  | spurious _ => none

structure Ordered (s : Server) : Prop where
  takeLocked : s.take.holds = true ↔ s.shared.globalMutex = some .take
  sendLocked : s.send.holds = true ↔ s.shared.globalMutex = some .send
  turn : s.shared.camMon.picTakeSend = TAKE_PIC_STATE ∨ s.shared.camMon.picTakeSend = SEND_PIC_STATE
  takeTurn : s.take.busy = true → s.shared.camMon.picTakeSend = TAKE_PIC_STATE
  sendTurn : s.send.busy = true → s.shared.camMon.picTakeSend = SEND_PIC_STATE
  takeRests : s.take = .condWait → s.shared.camMon.picTakeSend ≠ TAKE_PIC_STATE
  sendRests : s.send = .condWait → s.shared.camMon.picTakeSend ≠ SEND_PIC_STATE
  connected : s.shared.isConnected = true → s.take.gone = false ∧ s.send.gone = false
  reading : s.shared.isConnected = false → s.update ≠ .read
  closing : s.update = .close → s.shared.isConnected = false

/-- What one step of a picture task does for the other one's sleep and for its own. -/
structure Announced {Stage : Type} (task : Task) (shared next : Shared) (p q : Position Stage) :
    Prop where
  slept : q.asleep = true → p = .condWait
  rests : q = .condWait → next.camMon.picTakeSend ≠ task.turn
  turned : next.camMon.picTakeSend ≠ shared.camMon.picTakeSend → q = .unlock
  passes : p.announcing = true → p.broadcasting = true ∨ q = .broadcast
  works : q.busy = true → p.coming = true
  waits : p.entering = true → shared.camMon.picTakeSend ≠ task.turn → q.entering = true

theorem outline_announced {Stage : Type} {task : Task} {first : Stage} {shared next : Shared}
    {p q : Position Stage} {es : List ServerEvent}
    (taken : outline task first shared p = some (next, q, es)) : Announced task shared next p q := by
  have never {P : Prop} (impossible : false = true) : P := absurd impossible Bool.false_ne_true
  have same {P : Prop} {turn : Int32} (turned : turn ≠ turn) : P := absurd rfl turned
  cases p with
  | test =>
    cases taken
    cases shared.isConnected <;> exact ⟨never, by simp, same, never, never, never⟩
  | lock | relock =>
    simp only [outline] at taken
    split at taken <;> cases taken
    exact ⟨never, by simp, same, never, never, fun _ _ => rfl⟩
  | check =>
    cases taken
    split
    · next other =>
      exact ⟨never, fun _ => other, same, never, never, fun _ _ => rfl⟩
    · next own =>
      exact ⟨never, by simp, same, never, fun _ => rfl, fun _ other => absurd other own⟩
  | condWait =>
    cases taken
    exact ⟨fun _ => rfl, by simp, same, never, never, fun _ _ => rfl⟩
  | flip =>
    cases taken
    exact ⟨never, by simp, fun _ => rfl, never, never, never⟩
  | unlock =>
    cases taken
    exact ⟨never, by simp, same, fun _ => .inr rfl, never, never⟩
  | broadcast =>
    cases taken
    exact ⟨never, by simp, same, fun _ => .inl rfl, never, never⟩
  | waiting =>
    cases taken
    exact ⟨never, by simp, same, never, never, fun _ _ => rfl⟩
  | close =>
    cases taken
    exact ⟨never, by simp, same, never, never, never⟩
  | work _ | returned => cases taken

theorem Worked.announced {Stage : Type} {task : Task} {shared next : Shared} {p q : Position Stage}
    (worked : Worked shared next q) (busy : p.busy = true) : Announced task shared next p q := by
  have after := worked.busy
  refine ⟨fun asleep => ?_, fun rests => ?_, fun turned => absurd worked.turn turned, fun announcing => ?_,
    fun _ => Position.coming_of_busy busy, fun entering => ?_⟩
  · rw [Position.not_asleep_of_holds (Position.holds_of_busy after)] at asleep
    cases asleep
  · rw [rests] at after
    cases after
  · rw [Position.not_announcing_of_busy busy] at announcing
    cases announcing
  · rw [Position.not_entering_of_busy busy] at entering
    cases entering

section Tasks

variable {sane : Bool} {s : Server} {next : Shared} {es : List ServerEvent}

theorem Ordered.take_moves (ordered : Ordered s) {captured : Option MediaFrame} {stack : Memory BUFSIZE}
    {q : Position TakeStage}
    (taken : takePictureTask sane captured stack s.shared s.take = some (next, q, es)) :
    Moved .take s.shared next s.take q ∧ Announced .take s.shared next s.take q := by
  unfold takePictureTask at taken
  split at taken
  · next stage at_ =>
    have busy : s.take.busy = true := by rw [at_]; rfl
    have worked := (takeWork_worked taken).1
    exact ⟨worked.moved busy ordered.takeLocked (ordered.takeTurn busy), worked.announced busy⟩
  · exact ⟨outline_moved taken ordered.takeLocked, outline_announced taken⟩

theorem Ordered.send_moves (ordered : Ordered s) {written : Int32} {q : Position SendStage}
    (taken : sendPictureTask sane written s.shared s.send = some (next, q, es)) :
    Moved .send s.shared next s.send q ∧ Announced .send s.shared next s.send q := by
  unfold sendPictureTask at taken
  split at taken
  · next stage at_ =>
    have busy : s.send.busy = true := by rw [at_]; rfl
    have worked := (sendWork_worked taken).1
    exact ⟨worked.moved busy ordered.sendLocked (ordered.sendTurn busy), worked.announced busy⟩
  · exact ⟨outline_moved taken ordered.sendLocked, outline_announced taken⟩

theorem Moved.rests {A B : Type} {task : Task} {shared : Shared} {p p' : Position A} {q : Position B}
    (moved : Moved task shared next p p') (locked : p.holds = true ↔ shared.globalMutex = some task)
    (otherLocked : q.holds = true ↔ shared.globalMutex = some task.other)
    (rests : q = .condWait → shared.camMon.picTakeSend ≠ task.other.turn) (at_ : q = .condWait) :
    next.camMon.picTakeSend ≠ task.other.turn := by
  have idle : p.busy = false := by
    by_contra busy
    have both := Attended.idle_of_busy locked otherLocked (Bool.not_eq_false _ ▸ busy)
    have first := locked.mp (Position.holds_of_busy (Bool.not_eq_false _ ▸ busy))
    have second := otherLocked.mp (by rw [at_]; rfl)
    rw [first] at second
    cases task <;> cases second
  rw [moved.disciplined.kept idle]
  exact rests at_

theorem Ordered.take_step (ordered : Ordered s) {q : Position TakeStage}
    (moved : Moved .take s.shared next s.take q) (announced : Announced .take s.shared next s.take q) :
    Ordered { s with shared := next, take := q } := by
  have disciplined := moved.disciplined
  refine ⟨disciplined.locked, ordered.sendLocked.trans (disciplined.others .send nofun).symm,
    moved.turn_either ordered.turn, disciplined.turn, ?_, announced.rests,
    moved.rests ordered.takeLocked ordered.sendLocked ordered.sendRests, ?_, ?_, ?_⟩
  · intro busy
    have idle := @Attended.idle_of_busy _ _ .send _ _ _ ordered.sendLocked ordered.takeLocked busy
    exact (disciplined.kept idle).trans (ordered.sendTurn busy)
  · intro there
    have before := moved.connected.symm.trans there
    obtain ⟨stays, other⟩ := ordered.connected before
    exact ⟨moved.stays before stays, other⟩
  · intro lost
    exact ordered.reading (moved.connected.symm.trans lost)
  · intro closing
    exact moved.connected.trans (ordered.closing closing)

theorem Ordered.send_step (ordered : Ordered s) {q : Position SendStage}
    (moved : Moved .send s.shared next s.send q) (announced : Announced .send s.shared next s.send q) :
    Ordered { s with shared := next, send := q } := by
  have disciplined := moved.disciplined
  refine ⟨ordered.takeLocked.trans (disciplined.others .take nofun).symm, disciplined.locked,
    moved.turn_either ordered.turn, ?_, disciplined.turn,
    moved.rests ordered.sendLocked ordered.takeLocked ordered.takeRests, announced.rests, ?_, ?_, ?_⟩
  · intro busy
    have idle := @Attended.idle_of_busy _ _ .take _ _ _ ordered.takeLocked ordered.sendLocked busy
    exact (disciplined.kept idle).trans (ordered.takeTurn busy)
  · intro there
    have before := moved.connected.symm.trans there
    obtain ⟨other, stays⟩ := ordered.connected before
    exact ⟨other, moved.stays before stays⟩
  · intro lost
    exact ordered.reading (moved.connected.symm.trans lost)
  · intro closing
    exact moved.connected.trans (ordered.closing closing)

structure Updated (s next : Server) : Prop where
  take : next.take = s.take
  send : next.send = s.send
  mutex : next.shared.globalMutex = s.shared.globalMutex
  turn : next.shared.camMon.picTakeSend = s.shared.camMon.picTakeSend
  connected : next.shared.isConnected = true → s.shared.isConnected = true
  reading : next.update = .read → next.shared.isConnected = true
  closing : next.update = .close → next.shared.isConnected = false

theorem Updated.asleep {t : Server} (updated : Updated s t) : t.asleep = s.asleep := by
  funext task
  cases task with
  | take => exact congrArg Position.asleep updated.take
  | send => exact congrArg Position.asleep updated.send

theorem Updated.announcing {t : Server} (updated : Updated s t) : t.announcing = s.announcing := by
  funext task
  cases task with
  | take => exact congrArg Position.announcing updated.take
  | send => exact congrArg Position.announcing updated.send

theorem updateModeTask_updated {arrived : ModeRead} {t : Server}
    (taken : updateModeTask arrived s = some (t, es)) : Updated s t := by
  unfold updateModeTask at taken
  split at taken
  · cases taken
    refine ⟨rfl, rfl, rfl, rfl, id, fun at_ => ?_, fun at_ => ?_⟩
    · cases there : s.shared.isConnected with
      | true => rfl
      | false =>
        rw [there] at at_
        cases at_
    · cases there : s.shared.isConnected with
      | false => rfl
      | true =>
        rw [there] at at_
        cases at_
  · split at taken <;> cases taken
    · exact ⟨rfl, rfl, rfl, rfl, id, nofun, nofun⟩
    · exact ⟨rfl, rfl, rfl, rfl, nofun, nofun, nofun⟩
    · exact ⟨rfl, rfl, rfl, rfl, id, nofun, nofun⟩
  · cases taken
    exact ⟨rfl, rfl, rfl, rfl, id, nofun, nofun⟩
  · cases taken
    exact ⟨rfl, rfl, rfl, rfl, id, nofun, nofun⟩
  · cases taken

theorem Ordered.update_step (ordered : Ordered s) {t : Server} (updated : Updated s t) : Ordered t := by
  obtain ⟨take, send, mutex, turn, connected, reading, closing⟩ := updated
  constructor
  · rw [take, mutex]
    exact ordered.takeLocked
  · rw [send, mutex]
    exact ordered.sendLocked
  · rw [turn]
    exact ordered.turn
  · rw [take, turn]
    exact ordered.takeTurn
  · rw [send, turn]
    exact ordered.sendTurn
  · rw [take, turn]
    exact ordered.takeRests
  · rw [send, turn]
    exact ordered.sendRests
  · rw [take, send]
    exact fun there => ordered.connected (connected there)
  · intro lost at_
    rw [reading at_] at lost
    cases lost
  · exact closing

theorem ordered_step {action : Action} {t : Server} (ordered : Ordered s)
    (taken : Server.step sane s action = some (t, es)) : Ordered t := by
  cases Server.step_moves taken with
  | take task =>
    obtain ⟨moved, announced⟩ := ordered.take_moves task
    exact ordered.take_step moved announced
  | send task =>
    obtain ⟨moved, announced⟩ := ordered.send_moves task
    exact ordered.send_step moved announced
  | update task => exact ordered.update_step (updateModeTask_updated task)
  | accept takeDone sendDone _ =>
    have takeFree := ordered.takeLocked
    have sendFree := ordered.sendLocked
    rw [takeDone] at takeFree
    rw [sendDone] at sendFree
    exact ⟨takeFree, sendFree, ordered.turn, nofun, nofun, nofun, nofun, fun _ => ⟨rfl, rfl⟩, nofun,
      nofun⟩

theorem ordered_start {camMon : CameraMonitor}
    (turn : camMon.picTakeSend = TAKE_PIC_STATE ∨ camMon.picTakeSend = SEND_PIC_STATE) :
    Ordered (.start camMon) :=
  ⟨iff_of_false Bool.false_ne_true nofun, iff_of_false Bool.false_ne_true nofun, turn, nofun, nofun,
    nofun, nofun, fun _ => ⟨rfl, rfl⟩, nofun, nofun⟩

end Tasks

theorem Announced.own {Stage : Type} {task : Task} {shared next : Shared} {p q : Position Stage}
    (announced : Announced task shared next p q)
    (rests : p = .condWait → shared.camMon.picTakeSend ≠ task.turn) (asleep : q.asleep = true) :
    next.camMon.picTakeSend ≠ task.turn := by
  have kept : next.camMon.picTakeSend = shared.camMon.picTakeSend := by
    by_contra turned
    rw [announced.turned turned] at asleep
    cases asleep
  rw [kept]
  exact rests (announced.slept asleep)

theorem Announced.other {Stage : Type} {task : Task} {shared next : Shared} {p q : Position Stage}
    (announced : Announced task shared next p q) (silent : p.broadcasting = false)
    (sound : shared.camMon.picTakeSend = task.other.turn → p.announcing = true)
    (turn : next.camMon.picTakeSend = task.other.turn) : q.announcing = true := by
  by_cases kept : next.camMon.picTakeSend = shared.camMon.picTakeSend
  · rcases announced.passes (sound (kept.symm.trans turn)) with loud | passed
    · rw [silent] at loud
      cases loud
    · rw [passed]
      rfl
  · rw [announced.turned kept]
    rfl

namespace Waking

variable {sane : Bool} {w t : Waking} {es : List ServerEvent}

theorem act_eq_some_iff {action : Action} : act sane w action = some (t, es) ↔
    w.keeps action = false ∧ Server.step sane w.server action = some (t.server, es) ∧
      t.woken = w.wokenAfter action := by
  unfold act
  cases kept : w.keeps action with
  | true => exact iff_of_false nofun nofun
  | false =>
    obtain ⟨server, woken⟩ := t
    cases taken : Server.step sane w.server action with
    | none => simp
    | some next =>
      obtain ⟨next, logged⟩ := next
      simp only [Bool.false_eq_true, if_false, Option.some.injEq, Prod.mk.injEq, mk.injEq, true_and,
        and_assoc]
      exact ⟨fun ⟨server, woken, events⟩ => ⟨server, events, woken.symm⟩,
        fun ⟨server, events, woken⟩ => ⟨server, woken.symm, events⟩⟩

theorem NoneForgotten.act (sound : w.NoneForgotten) (ordered : Ordered w.server) {action : Action}
    (taken : Waking.act sane w action = some (t, es)) : t.NoneForgotten := by
  obtain ⟨_, taken, woken⟩ := act_eq_some_iff.mp taken
  obtain ⟨server, woken'⟩ := t
  obtain rfl : woken' = w.wokenAfter action := woken
  cases Server.step_moves taken with
  | take task =>
    obtain ⟨_, announced⟩ := ordered.take_moves task
    intro sleeper asleep unwoken turn
    cases sleeper with
    | take => exact absurd turn (announced.own ordered.takeRests asleep)
    | send =>
      cases loud : w.server.take.broadcasting with
      | true => simp [wokenAfter, Action.task, Server.broadcasting, loud] at unwoken
      | false =>
        have before : w.woken .send = false := by
          simpa [wokenAfter, Action.task, Server.broadcasting, loud] using unwoken
        exact announced.other loud (sound .send asleep before) turn
  | send task =>
    obtain ⟨_, announced⟩ := ordered.send_moves task
    intro sleeper asleep unwoken turn
    cases sleeper with
    | send => exact absurd turn (announced.own ordered.sendRests asleep)
    | take =>
      cases loud : w.server.send.broadcasting with
      | true => simp [wokenAfter, Action.task, Server.broadcasting, loud] at unwoken
      | false =>
        have before : w.woken .take = false := by
          simpa [wokenAfter, Action.task, Server.broadcasting, loud] using unwoken
        exact announced.other loud (sound .take asleep before) turn
  | update task =>
    have updated := updateModeTask_updated task
    intro sleeper asleep unwoken turn
    rw [updated.announcing]
    rw [updated.asleep] at asleep
    rw [updated.turn] at turn
    exact sound sleeper asleep unwoken turn
  | accept =>
    intro sleeper asleep
    cases sleeper <;> cases asleep

theorem NoneForgotten.spurious (sound : w.NoneForgotten) (task : Task) :
    NoneForgotten { w with woken := Function.update w.woken task true } := by
  intro sleeper asleep unwoken turn
  refine sound sleeper asleep ?_ turn
  dsimp only at unwoken
  by_cases own : sleeper = task
  · subst own
    simp at unwoken
  · rwa [Function.update_of_ne own] at unwoken

/-- Every run is one of the server without wait sets. -/
theorem run_server {actions : List WakingAction} {log : List ServerEvent}
    (ran : run (step sane) w actions = some (t, log)) :
    run (Server.step sane) w.server (actions.filterMap WakingAction.act?) = some (t.server, log) := by
  refine run_invariant (step sane)
    (fun done log t => run (Server.step sane) w.server (done.filterMap WakingAction.act?) =
      some (t.server, log)) ?_ rfl ran
  intro done log t action next es before taken
  rw [List.filterMap_append]
  cases action with
  | spurious task =>
    simp only [step] at taken
    split at taken <;> cases taken
    have unseen : [WakingAction.spurious task].filterMap WakingAction.act? = [] := rfl
    rw [unseen, List.append_nil, List.append_nil]
    exact before
  | act action =>
    have stepped := (act_eq_some_iff.mp taken).2.1
    exact (run_append_iff _).mpr ⟨t.server, log, es, before, (run_singleton_iff _).mpr stepped, rfl⟩

structure Alert (w : Waking) : Prop where
  ordered : Ordered w.server
  sound : w.NoneForgotten

theorem Alert.act (alert : w.Alert) {action : Action} (taken : Waking.act sane w action = some (t, es)) :
    t.Alert :=
  ⟨ordered_step alert.ordered (act_eq_some_iff.mp taken).2.1, alert.sound.act alert.ordered taken⟩

theorem alert_of_run {camMon : CameraMonitor}
    (turn : camMon.picTakeSend = TAKE_PIC_STATE ∨ camMon.picTakeSend = SEND_PIC_STATE)
    {actions : List WakingAction} {log : List ServerEvent}
    (ran : run (step sane) (.start camMon) actions = some (w, log)) : w.Alert := by
  refine run_invariant (step sane) (fun _ _ w => w.Alert) ?_
    ⟨ordered_start turn, fun task asleep => by cases task <;> cases asleep⟩ ran
  intro _ _ w action t es alert taken
  cases action with
  | act action => exact alert.act taken
  | spurious task =>
    simp only [step] at taken
    split at taken <;> cases taken
    exact ⟨alert.ordered, alert.sound.spurious task⟩

end Waking

section Progress

/-- How far a task is from the end of its turn, or, when it is not its turn, from a rest. -/
def Position.toTurn {Stage : Type} (stageRank : Stage → Nat) (own : Bool) : Position Stage → Nat
  | unlock => if own then 14 else 4
  | broadcast => if own then 13 else 2
  | test => if own then 12 else 0
  | waiting => if own then 12 else 0
  | lock | relock => if own then 11 else 0
  | check => if own then 10 else 4
  | condWait => if own then 0 else 3
  | work stage => 1 + stageRank stage
  | flip => 1
  | close | returned => 0

theorem Position.toTurn_le {Stage : Type} {stageRank : Stage → Nat} (short : ∀ stage, stageRank stage ≤ 4)
    (own : Bool) (p : Position Stage) : p.toTurn stageRank own ≤ 14 := by
  cases p with
  | work stage =>
    have := short stage
    simp only [toTurn]
    omega
  | _ => cases own <;> simp [toTurn]

theorem flip_ne (camMon : CameraMonitor) :
    camMon.flipPicTakeSend.picTakeSend ≠ camMon.picTakeSend := by
  unfold CameraMonitor.flipPicTakeSend
  split
  · next one =>
    rw [one]
    exact (by decide : (0 : Int32) ≠ 1)
  · next other => exact Ne.symm other

/-- A task that is on its turn, or has to get out of the way, gets nearer to that with each step. -/
theorem outline_nears {Stage : Type} {stageRank : Stage → Nat} {task : Task} {first : Stage}
    {shared : Shared} {p : Position Stage} (short : stageRank first ≤ 4)
    (idle : ∀ stage, p ≠ .work stage) (connected : shared.isConnected = true)
    (free : p.holds = true ∨ shared.globalMutex = none)
    (needed : shared.camMon.picTakeSend = task.turn ∨ p.holds = true ∨ p.broadcasting = true)
    (rests : p = .condWait → shared.camMon.picTakeSend ≠ task.turn) (there : p.gone = false) :
    ∃ next q es, outline task first shared p = some (next, q, es) ∧
      (next.camMon.picTakeSend = shared.camMon.picTakeSend →
        q.toTurn stageRank (next.camMon.picTakeSend = task.turn) <
          p.toTurn stageRank (shared.camMon.picTakeSend = task.turn)) := by
  cases p with
  | test =>
    have own := needed.resolve_right (by simp [Position.holds, Position.broadcasting])
    refine ⟨_, _, _, rfl, fun _ => ?_⟩
    rw [connected]
    simp [Position.toTurn, own]
  | lock | relock =>
    have own := needed.resolve_right (by simp [Position.holds, Position.broadcasting])
    have unlocked := free.resolve_left Bool.false_ne_true
    refine ⟨_, _, _, if_pos unlocked, fun _ => ?_⟩
    simp [Position.toTurn, own]
  | check =>
    refine ⟨_, _, _, rfl, fun _ => ?_⟩
    by_cases own : shared.camMon.picTakeSend = task.turn
    · simp only [CameraMonitor.getPicTakeSend, own, ne_eq, not_true_eq_false, if_false, decide_true,
        Position.toTurn, if_true]
      omega
    · simp [CameraMonitor.getPicTakeSend, Position.toTurn, own]
  | condWait =>
    refine ⟨_, _, _, rfl, fun _ => ?_⟩
    simp [Position.toTurn, rests rfl]
  | waiting =>
    have own := needed.resolve_right (by simp [Position.holds, Position.broadcasting])
    refine ⟨_, _, _, rfl, fun _ => ?_⟩
    simp [Position.toTurn, own]
  | work stage => exact absurd rfl (idle stage)
  -- the turn changes, of which the rank says nothing
  | flip => exact ⟨_, _, _, rfl, fun kept => absurd kept (flip_ne shared.camMon)⟩
  | unlock | broadcast =>
    refine ⟨_, _, _, rfl, fun _ => ?_⟩
    by_cases own : shared.camMon.picTakeSend = task.turn <;> simp [Position.toTurn, own]
  | close | returned => cases there

theorem takeStage_rank_le (stage : TakeStage) : stage.rank ≤ 4 := by
  cases stage <;> simp [TakeStage.rank]

theorem sendStage_rank_le (stage : SendStage) : stage.rank ≤ 4 := by
  cases stage <;> simp [SendStage.rank]

theorem takeWork_nears {sane : Bool} {captured : Option MediaFrame} {stack : Memory BUFSIZE}
    {shared next : Shared} {stage : TakeStage} {q : Position TakeStage} {es : List ServerEvent}
    (taken : takeWork sane captured stack shared stage = some (next, q, es)) (own : Bool) :
    q.toTurn TakeStage.rank own < 1 + stage.rank := by
  cases takeWork_does taken with
  | getsMode | noCamera | failed | packed | savesPacketSize | savesPacket =>
    simp [Position.toTurn, TakeStage.rank]

theorem sendWork_nears {sane : Bool} {written : Int32} {shared next : Shared} {stage : SendStage}
    {q : Position SendStage} {es : List ServerEvent}
    (taken : sendWork sane written shared stage = some (next, q, es)) (own : Bool) :
    q.toTurn SendStage.rank own < 1 + stage.rank := by
  cases sendWork_does taken with
  | failed | getsPacket | getsPacketSize | writes => simp [Position.toTurn, SendStage.rank]

namespace Waking

variable {sane : Bool} {w : Waking}

def rank (goal : Task) (s : Server) : Nat :=
  (if s.shared.camMon.picTakeSend = goal.turn then 0 else 30) +
    s.take.toTurn TakeStage.rank (s.shared.camMon.picTakeSend = TAKE_PIC_STATE) +
    s.send.toTurn SendStage.rank (s.shared.camMon.picTakeSend = SEND_PIC_STATE)

theorem rank_lt_of_turn {goal : Task} {s t : Server}
    (before : s.shared.camMon.picTakeSend ≠ goal.turn) (after : t.shared.camMon.picTakeSend = goal.turn) :
    rank goal t < rank goal s := by
  have first := t.take.toTurn_le takeStage_rank_le (t.shared.camMon.picTakeSend = TAKE_PIC_STATE)
  have second := t.send.toTurn_le sendStage_rank_le (t.shared.camMon.picTakeSend = SEND_PIC_STATE)
  simp only [rank]
  rw [if_pos after, if_neg before]
  omega

theorem take_nears (alert : w.Alert) (connected : w.server.shared.isConnected = true)
    (free : w.server.take.holds = true ∨ w.server.shared.globalMutex = none)
    (needed : w.server.shared.camMon.picTakeSend = TAKE_PIC_STATE ∨ w.server.take.holds = true ∨
      w.server.take.broadcasting = true)
    (awake : w.server.take.asleep = true → w.woken .take = true)
    {goal : Task} (resting : w.server.busy goal = false) :
    ∃ action t es, act sane w action = some (t, es) ∧
      (t.Alert ∧ t.server.shared.isConnected = true ∧ t.server.update = w.server.update) ∧
        rank goal t.server < rank goal w.server := by
  have ordered := alert.ordered
  have stepped : ∃ next q es,
      takePictureTask sane none (.filled BUFSIZE 0) w.server.shared w.server.take = some (next, q, es) ∧
        (next.camMon.picTakeSend = w.server.shared.camMon.picTakeSend →
          q.toTurn TakeStage.rank (next.camMon.picTakeSend = TAKE_PIC_STATE) <
            w.server.take.toTurn TakeStage.rank
              (w.server.shared.camMon.picTakeSend = TAKE_PIC_STATE)) := by
    unfold takePictureTask
    split
    · next stage at_ =>
      obtain ⟨⟨next, q, es⟩, taken⟩ := @takeWork_progress sane (.filled BUFSIZE 0) w.server.shared stage
      rw [at_]
      exact ⟨next, q, es, taken, fun _ => takeWork_nears taken _⟩
    · next idle =>
      exact outline_nears (takeStage_rank_le _) idle connected free needed ordered.takeRests
        (ordered.connected connected).1
  obtain ⟨next, q, es, taken, nearer⟩ := stepped
  obtain ⟨moved, _⟩ := ordered.take_moves taken
  -- a capture without a frame is always possible, so the step does not depend on the camera
  have kept : w.keeps (.take none (.filled BUFSIZE 0)) = false := by
    cases asleep : w.server.take.asleep with
    | false => simp [keeps, Action.task, Server.asleep, asleep]
    | true => simp [keeps, Action.task, awake asleep]
  have acted : act sane w (.take none (.filled BUFSIZE 0)) =
      some (⟨{ w.server with shared := next, take := q }, w.wokenAfter (.take none (.filled BUFSIZE 0))⟩, es) := by
    refine act_eq_some_iff.mpr ⟨kept, ?_, rfl⟩
    simp only [Server.step, taken]
  refine ⟨_, _, es, acted, ⟨alert.act acted, moved.connected.trans connected, rfl⟩, ?_⟩
  by_cases same : next.camMon.picTakeSend = w.server.shared.camMon.picTakeSend
  · have closer := nearer same
    simp only [rank]
    rw [same] at closer ⊢
    omega
  · -- the task has just passed the turn on to the other one
    have busy : w.server.take.busy = true := by
      by_contra idle
      exact same (moved.disciplined.kept (Bool.not_eq_true _ ▸ idle))
    have own := ordered.takeTurn busy
    rw [own] at same
    have turned := (moved.turn_either ordered.turn).resolve_left same
    cases goal with
    | take =>
      rw [Server.busy, busy] at resting
      cases resting
    | send =>
      refine rank_lt_of_turn ?_ turned
      rw [own]
      decide

theorem send_nears (alert : w.Alert) (connected : w.server.shared.isConnected = true)
    (free : w.server.send.holds = true ∨ w.server.shared.globalMutex = none)
    (needed : w.server.shared.camMon.picTakeSend = SEND_PIC_STATE ∨ w.server.send.holds = true ∨
      w.server.send.broadcasting = true)
    (awake : w.server.send.asleep = true → w.woken .send = true)
    {goal : Task} (resting : w.server.busy goal = false) :
    ∃ action t es, act sane w action = some (t, es) ∧
      (t.Alert ∧ t.server.shared.isConnected = true ∧ t.server.update = w.server.update) ∧
        rank goal t.server < rank goal w.server := by
  have ordered := alert.ordered
  have stepped : ∃ next q es,
      sendPictureTask sane 0 w.server.shared w.server.send = some (next, q, es) ∧
        (next.camMon.picTakeSend = w.server.shared.camMon.picTakeSend →
          q.toTurn SendStage.rank (next.camMon.picTakeSend = SEND_PIC_STATE) <
            w.server.send.toTurn SendStage.rank
              (w.server.shared.camMon.picTakeSend = SEND_PIC_STATE)) := by
    unfold sendPictureTask
    split
    · next stage at_ =>
      obtain ⟨⟨next, q, es⟩, taken⟩ := @sendWork_progress sane 0 w.server.shared stage
      rw [at_]
      exact ⟨next, q, es, taken, fun _ => sendWork_nears taken _⟩
    · next idle =>
      exact outline_nears (sendStage_rank_le _) idle connected free needed ordered.sendRests
        (ordered.connected connected).2
  obtain ⟨next, q, es, taken, nearer⟩ := stepped
  obtain ⟨moved, _⟩ := ordered.send_moves taken
  have kept : w.keeps (.send 0) = false := by
    cases asleep : w.server.send.asleep with
    | false => simp [keeps, Action.task, Server.asleep, asleep]
    | true => simp [keeps, Action.task, awake asleep]
  have acted : act sane w (.send 0) =
      some (⟨{ w.server with shared := next, send := q }, w.wokenAfter (.send 0)⟩, es) := by
    refine act_eq_some_iff.mpr ⟨kept, ?_, rfl⟩
    simp only [Server.step, taken]
  refine ⟨_, _, es, acted, ⟨alert.act acted, moved.connected.trans connected, rfl⟩, ?_⟩
  by_cases same : next.camMon.picTakeSend = w.server.shared.camMon.picTakeSend
  · have closer := nearer same
    simp only [rank]
    rw [same] at closer ⊢
    omega
  · have busy : w.server.send.busy = true := by
      by_contra idle
      exact same (moved.disciplined.kept (Bool.not_eq_true _ ▸ idle))
    have own := ordered.sendTurn busy
    rw [own] at same
    have turned := (moved.turn_either ordered.turn).resolve_right same
    cases goal with
    | send =>
      rw [Server.busy, busy] at resting
      cases resting
    | take =>
      refine rank_lt_of_turn ?_ turned
      rw [own]
      decide

/-- As long as the connection lasts one of the two tasks can go on without being woken first. -/
theorem nears (alert : w.Alert) (connected : w.server.shared.isConnected = true) {goal : Task}
    (resting : w.server.busy goal = false) :
    ∃ action t es, act sane w action = some (t, es) ∧
      (t.Alert ∧ t.server.shared.isConnected = true ∧ t.server.update = w.server.update) ∧
        rank goal t.server < rank goal w.server := by
  have ordered := alert.ordered
  have awake_of_holds {Stage : Type} {p : Position Stage} {woken : Prop} (holds : p.holds = true)
      (asleep : p.asleep = true) : woken := by
    rw [Position.not_asleep_of_holds holds] at asleep
    cases asleep
  have awake_of_loud {Stage : Type} {p : Position Stage} {woken : Prop} (loud : p.broadcasting = true)
      (asleep : p.asleep = true) : woken := by
    cases p <;> first | cases loud; done | cases asleep
  cases owner : w.server.shared.globalMutex with
  | some task =>
    cases task with
    | take =>
      have holds := ordered.takeLocked.mpr owner
      exact take_nears alert connected (.inl holds) (.inr (.inl holds)) (awake_of_holds holds) resting
    | send =>
      have holds := ordered.sendLocked.mpr owner
      exact send_nears alert connected (.inl holds) (.inr (.inl holds)) (awake_of_holds holds) resting
  | none =>
    cases takeLoud : w.server.take.broadcasting with
    | true =>
      exact take_nears alert connected (.inr owner) (.inr (.inr takeLoud)) (awake_of_loud takeLoud) resting
    | false =>
    cases sendLoud : w.server.send.broadcasting with
    | true =>
      exact send_nears alert connected (.inr owner) (.inr (.inr sendLoud)) (awake_of_loud sendLoud) resting
    | false =>
    -- nobody has the lock or owes a broadcast, so the task whose turn it is has been woken
    rcases ordered.turn with turn | turn
    · refine take_nears alert connected (.inr owner) (.inl turn) (fun asleep => ?_) resting
      by_contra unwoken
      have owed : w.server.send.announcing = true :=
        alert.sound .take asleep (Bool.not_eq_true _ ▸ unwoken) turn
      have locked := ordered.sendLocked.mp (Position.holds_of_announcing owed sendLoud)
      rw [owner] at locked
      cases locked
    · refine send_nears alert connected (.inr owner) (.inl turn) (fun asleep => ?_) resting
      by_contra unwoken
      have owed : w.server.take.announcing = true :=
        alert.sound .send asleep (Bool.not_eq_true _ ▸ unwoken) turn
      have locked := ordered.takeLocked.mp (Position.holds_of_announcing owed takeLoud)
      rw [owner] at locked
      cases locked

end Waking

end Progress

theorem Waking.Alert.canReach_busy {sane : Bool} {w : Waking} (alert : w.Alert)
    (connected : w.server.shared.isConnected = true) (task : Task) :
    CanReach (Waking.act sane) (fun t => (t.Alert ∧ t.server.shared.isConnected = true ∧
      t.server.update = w.server.update) ∧ t.server.busy task = true) w := by
  refine @canReach_of_rank _ _ _ (Waking.act sane)
    (fun t => t.Alert ∧ t.server.shared.isConnected = true ∧ t.server.update = w.server.update) _
    (fun t => Waking.rank task t.server) ?_ w ⟨alert, connected, rfl⟩
  intro t held away
  have resting : t.server.busy task = false := by
    by_contra busy
    exact away ⟨held, Bool.not_eq_false _ ▸ busy⟩
  obtain ⟨alert, connected, update⟩ := held
  obtain ⟨action, u, es, acted, ⟨alert, connected, same⟩, nearer⟩ := Waking.nears alert connected resting
  exact ⟨action, u, es, acted, ⟨alert, connected, same.trans update⟩, nearer⟩

/-- No broadcast is missed. As long as the client is connected each of the two tasks can get to
its work without a spurious wake-up, and all they do is a run of `Server`. -/
theorem both_tasks_get_their_turn {sane : Bool} {camMon : CameraMonitor} {actions : List WakingAction}
    {w : Waking} {log : List ServerEvent}
    (turn : camMon.picTakeSend = TAKE_PIC_STATE ∨ camMon.picTakeSend = SEND_PIC_STATE)
    (ran : run (Waking.step sane) (.start camMon) actions = some (w, log)) :
    run (Server.step sane) (.start camMon) (actions.filterMap WakingAction.act?) = some (w.server, log) ∧
      w.NoneForgotten ∧
      (w.server.shared.isConnected = true →
        ∀ task, CanReach (Waking.act sane) (fun t => t.server.busy task = true) w) := by
  have alert := Waking.alert_of_run turn ran
  refine ⟨Waking.run_server ran, alert.sound, fun connected task => ?_⟩
  obtain ⟨actions, t, log, ran, _, busy⟩ := alert.canReach_busy connected task
  exact ⟨actions, t, log, ran, busy⟩

def beforeBroadcast : List WakingAction :=
  List.replicate 4 (.act (.send 0)) ++ List.replicate 6 (.act (.take none (.filled BUFSIZE 0)))

theorem both_tasks_get_their_turn_asleep : ∃ w log,
    run (Waking.step true) (.start (.init (.filled BUFSIZE 0) 0 false)) beforeBroadcast = some (w, log) ∧
      w.server.asleep .send = true ∧ w.woken .send = false ∧
      w.server.shared.camMon.picTakeSend = SEND_PIC_STATE ∧ w.NoneForgotten ∧
      CanReach (Waking.act true) (fun t => t.server.busy .send = true) w := by
  obtain ⟨_, sound, works⟩ := @both_tasks_get_their_turn true (.init (.filled BUFSIZE 0) 0 false)
    beforeBroadcast _ _ (.inl rfl) rfl
  exact ⟨_, _, rfl, rfl, rfl, rfl, sound, works rfl .send⟩

end NetCam.Camera
