import NetCam.Camera.WakeUps

/-! When the server can still serve another client.

`try_accept` joins the three tasks before it returns. A failed read ends `update_mode_task`
with `isConnected` still set, so the picture tasks go on for good. An end of file clears it,
and then everything depends on whether the sleeping task is still served.
-/

set_option autoImplicit false

namespace NetCam.Camera

open Semantics

/-- While connected the end of file has to be read; afterwards the picture tasks owe each other
their turns. -/
def Server.Recoverable (s : Server) : Prop :=
  if s.shared.isConnected then s.update ≠ .returned else s.Served

section Unrecoverable

variable {sane : Bool} {s t : Server} {es : List ServerEvent}

/-- `update_mode_task` has given up reading, and nobody will clear `isConnected`. -/
structure Unread (s : Server) : Prop where
  ordered : Ordered s
  connected : s.shared.isConnected = true
  returned : s.update = .returned

theorem unread_step {action : Action} (unread : Unread s)
    (taken : Server.step sane s action = some (t, es)) : Unread t := by
  have ordered := ordered_step unread.ordered taken
  cases Server.step_moves taken with
  | take task =>
    obtain ⟨moved, _⟩ := unread.ordered.take_moves task
    exact ⟨ordered, moved.connected.trans unread.connected, unread.returned⟩
  | send task =>
    obtain ⟨moved, _⟩ := unread.ordered.send_moves task
    exact ⟨ordered, moved.connected.trans unread.connected, unread.returned⟩
  | update task =>
    simp only [updateModeTask, unread.returned] at task
    cases task
  | accept takeDone _ _ =>
    have there := (unread.ordered.connected unread.connected).1
    rw [takeDone] at there
    cases there

theorem Unread.not_joined (unread : Unread s) : ¬ s.Joined := by
  intro joined
  have there := (unread.ordered.connected unread.connected).1
  rw [joined.1] at there
  cases there

def Forsaken {A B : Type} (task : Task) (shared : Shared) (p : Position A) (q : Position B) : Prop :=
  shared.camMon.picTakeSend = task.other.turn ∧ p.entering = true ∧ q.coming = false

theorem not_served_iff (s : Server) : ¬ s.Served ↔
    Forsaken .send s.shared s.send s.take ∨ Forsaken .take s.shared s.take s.send := by
  simp only [Server.Served, Serves, Forsaken, Task.other, not_and_or, Classical.not_imp,
    Bool.not_eq_true]

theorem Moved.forsaken_waits {A B : Type} {task : Task} {shared next : Shared} {p p' : Position A}
    {q : Position B} (moved : Moved task shared next p p') (announced : Announced task shared next p p')
    (forsaken : Forsaken task shared p q) : Forsaken task next p' q := by
  obtain ⟨turn, entering, away⟩ := forsaken
  have idle : p.busy = false := by
    by_contra busy
    rw [Position.not_entering_of_busy (Bool.not_eq_false _ ▸ busy)] at entering
    cases entering
  refine ⟨(moved.disciplined.kept idle).trans turn, announced.waits entering ?_, away⟩
  rw [turn]
  cases task <;> decide

/-- With the connection lost a task that is past its turn goes on to its return. -/
theorem Moved.forsaken_leaves {A B : Type} {task : Task} {shared next : Shared} {p : Position A}
    {q q' : Position B} (moved : Moved task.other shared next q q')
    (announced : Announced task.other shared next q q') (lost : shared.isConnected = false)
    (forsaken : Forsaken task shared p q) : Forsaken task next p q' := by
  obtain ⟨turn, entering, away⟩ := forsaken
  obtain ⟨outside, idle⟩ := Bool.or_eq_false_iff.mp away
  refine ⟨(moved.disciplined.kept idle).trans turn, entering, ?_⟩
  refine Bool.or_eq_false_iff.mpr ⟨?_, ?_⟩
  · by_contra entered
    have before := (moved.entered (Bool.not_eq_false _ ▸ entered)).2 lost
    rw [outside] at before
    cases before
  · by_contra busy
    have before := announced.works (Bool.not_eq_false _ ▸ busy)
    rw [away] at before
    cases before

structure Lost (s : Server) : Prop where
  ordered : Ordered s
  lost : s.shared.isConnected = false
  forsaken : Forsaken .send s.shared s.send s.take ∨ Forsaken .take s.shared s.take s.send

theorem lost_step {action : Action} (lost : Lost s)
    (taken : Server.step sane s action = some (t, es)) : Lost t := by
  have ordered := ordered_step lost.ordered taken
  cases Server.step_moves taken with
  | take task =>
    obtain ⟨moved, announced⟩ := lost.ordered.take_moves task
    refine ⟨ordered, moved.connected.trans lost.lost, ?_⟩
    rcases lost.forsaken with forsaken | forsaken
    · exact .inl (@Moved.forsaken_leaves _ _ .send _ _ _ _ _ moved announced lost.lost forsaken)
    · exact .inr (moved.forsaken_waits announced forsaken)
  | send task =>
    obtain ⟨moved, announced⟩ := lost.ordered.send_moves task
    refine ⟨ordered, moved.connected.trans lost.lost, ?_⟩
    rcases lost.forsaken with forsaken | forsaken
    · exact .inl (moved.forsaken_waits announced forsaken)
    · exact .inr (@Moved.forsaken_leaves _ _ .take _ _ _ _ _ moved announced lost.lost forsaken)
  | update task =>
    have updated := updateModeTask_updated task
    have still : t.shared.isConnected = false := by
      by_contra back
      have before := updated.connected (Bool.not_eq_false _ ▸ back)
      rw [lost.lost] at before
      cases before
    refine ⟨ordered, still, ?_⟩
    unfold Forsaken
    rw [updated.turn, updated.take, updated.send]
    exact lost.forsaken
  | accept takeDone sendDone _ =>
    rcases lost.forsaken with ⟨_, entering, _⟩ | ⟨_, entering, _⟩
    · rw [sendDone] at entering
      cases entering
    · rw [takeDone] at entering
      cases entering

theorem Lost.not_joined (lost : Lost s) : ¬ s.Joined := by
  rintro ⟨takeDone, sendDone, _⟩
  rcases lost.forsaken with ⟨_, entering, _⟩ | ⟨_, entering, _⟩
  · rw [sendDone] at entering
    cases entering
  · rw [takeDone] at entering
    cases entering

theorem recoverable_of_canReach (ordered : Ordered s)
    (reach : CanReach (Server.step sane) Server.Joined s) : s.Recoverable := by
  unfold Server.Recoverable
  cases connected : s.shared.isConnected with
  | true =>
    intro returned
    exact not_canReach_of_kept (Server.step sane) (fun _ _ _ _ => unread_step)
      (fun _ unread => unread.not_joined) ⟨ordered, connected, returned⟩ reach
  | false =>
    change s.Served
    by_contra unserved
    exact not_canReach_of_kept (Server.step sane) (fun _ _ _ _ => lost_step)
      (fun _ lost => lost.not_joined) ⟨ordered, connected, (not_served_iff s).mp unserved⟩ reach

end Unrecoverable

section Recovery

variable {sane : Bool} {w : Waking}

theorem take_announces {s : Server} (announcing : s.take.announcing = true) :
    ∃ t es, Server.step sane s (.take none (.filled BUFSIZE 0)) = some (t, es) ∧
      t.shared.isConnected = s.shared.isConnected ∧ t.rank < s.rank := by
  cases at_ : s.take with
  | unlock | broadcast =>
    simp only [Server.step, at_, takePictureTask, outline]
    refine ⟨_, _, rfl, rfl, ?_⟩
    simp only [Server.rank, at_, Position.rank]
    omega
  | _ =>
    rw [at_] at announcing
    cases announcing

theorem send_announces {s : Server} (announcing : s.send.announcing = true) :
    ∃ t es, Server.step sane s (.send 0) = some (t, es) ∧
      t.shared.isConnected = s.shared.isConnected ∧ t.rank < s.rank := by
  cases at_ : s.send with
  | unlock | broadcast =>
    simp only [Server.step, at_, sendPictureTask, outline]
    refine ⟨_, _, rfl, rfl, ?_⟩
    simp only [Server.rank, at_, Position.rank]
    omega
  | _ =>
    rw [at_] at announcing
    cases announcing

/-- A task that wakes up gets nearer to its return only on its own turn. -/
theorem wakes_on_own_turn {s t : Server} {es : List ServerEvent} {action : Action} {task : Task}
    (acts : action.task = some task) (asleep : s.asleep task = true)
    (taken : Server.step sane s action = some (t, es)) (nearer : t.rank < s.rank) :
    s.shared.camMon.picTakeSend = task.turn := by
  by_contra other
  cases Server.step_moves taken with
  | take stepped =>
    cases acts
    cases at_ : s.take with
    | waiting =>
      rw [at_] at stepped
      cases stepped
      have late : ¬ s.shared.camMon.picTakeSend = TAKE_PIC_STATE := other
      simp [Server.rank, at_, Position.rank, late] at nearer
    | _ => rw [Server.asleep, at_] at asleep; cases asleep
  | send stepped =>
    cases acts
    cases at_ : s.send with
    | waiting =>
      rw [at_] at stepped
      cases stepped
      have late : ¬ s.shared.camMon.picTakeSend = SEND_PIC_STATE := other
      simp [Server.rank, at_, Position.rank, late] at nearer
    | _ => rw [Server.asleep, at_] at asleep; cases asleep
  | update | accept => cases acts

/-- After the end of file the tasks can get nearer to their returns without a spurious wake-up. -/
theorem leaves (alert : w.Alert) (attended : Attended w.server)
    (lost : w.server.shared.isConnected = false) (unfinished : ¬ w.server.Joined) :
    ∃ action t es, Waking.act sane w action = some (t, es) ∧
      (t.Alert ∧ Attended t.server ∧ t.server.shared.isConnected = false) ∧
      t.server.rank < w.server.rank := by
  have acted {action : Action} {t : Server} {es : List ServerEvent} (free : w.keeps action = false)
      (taken : Server.step sane w.server action = some (t, es)) (attended : Attended t)
      (lost : t.shared.isConnected = false) (nearer : t.rank < w.server.rank) :
      ∃ action t es, Waking.act sane w action = some (t, es) ∧
        (t.Alert ∧ Attended t.server ∧ t.server.shared.isConnected = false) ∧
        t.server.rank < w.server.rank := by
    have acted : Waking.act sane w action = some (⟨t, w.wokenAfter action⟩, es) :=
      Waking.act_eq_some_iff.mpr ⟨free, taken, rfl⟩
    exact ⟨action, _, es, acted, ⟨alert.act acted, attended, lost⟩, nearer⟩
  obtain ⟨action, t, es, taken, ⟨kept, still⟩, nearer⟩ := @Attended.progress sane _ attended lost unfinished
  cases asleep : w.keeps action with
  | false => exact acted asleep taken kept still nearer
  | true =>
    -- the step was a wake-up without a cause, and the other task is about to give one
    cases acts : action.task with
    | none =>
      simp only [Waking.keeps, acts] at asleep
      cases asleep
    | some task =>
      simp only [Waking.keeps, acts, Bool.and_eq_true, Bool.not_eq_true'] at asleep
      obtain ⟨asleep, unwoken⟩ := asleep
      have owed := alert.sound task asleep unwoken (wakes_on_own_turn acts asleep taken nearer)
      cases task with
      | take =>
        obtain ⟨u, es, taken, same, nearer⟩ := @send_announces sane _ owed
        have awake : w.server.send.asleep = false :=
          Position.not_asleep_of_announcing owed
        have free : w.keeps (.send 0) = false := by
          simp [Waking.keeps, Action.task, Server.asleep, awake]
        have served : DisconnectsServed w.server (.send 0) := trivial
        exact acted free taken (attended_step attended served taken) (same.trans lost) nearer
      | send =>
        obtain ⟨u, es, taken, same, nearer⟩ := @take_announces sane _ owed
        have awake : w.server.take.asleep = false :=
          Position.not_asleep_of_announcing owed
        have free : w.keeps (.take none (.filled BUFSIZE 0)) = false := by
          simp [Waking.keeps, Action.task, Server.asleep, awake]
        have served : DisconnectsServed w.server (.take none (.filled BUFSIZE 0)) := trivial
        exact acted free taken (attended_step attended served taken) (same.trans lost) nearer

theorem Ordered.attended {s : Server} (ordered : Ordered s)
    (served : s.shared.isConnected = false → s.Served) : Attended s :=
  ⟨ordered.takeLocked, ordered.sendLocked, ordered.turn, ordered.takeTurn, ordered.sendTurn,
    ordered.connected, fun lost => ⟨served lost, ordered.reading lost⟩⟩

theorem joins_of_served (alert : w.Alert) (lost : w.server.shared.isConnected = false)
    (served : w.server.Served) : CanReach (Waking.act sane) (fun t => t.server.Joined) w := by
  refine @canReach_of_rank _ _ _ (Waking.act sane)
    (fun t => t.Alert ∧ Attended t.server ∧ t.server.shared.isConnected = false) _
    (fun t => t.server.rank) ?_ w ⟨alert, alert.ordered.attended fun _ => served, lost⟩
  rintro t ⟨alert, attended, lost⟩ unfinished
  exact leaves alert attended lost unfinished

-- Once `update_mode_task` is at its `read` the client may leave.
theorem reads_end_of_file (alert : w.Alert) (reading : w.server.update = .read)
    (busy : w.server.busy .take = true) : CanReach (Waking.act sane) (fun t => t.server.Joined) w := by
  have acted : Waking.act sane w (.update .endOfFile) = some (⟨{ w.server with
      shared := { w.server.shared with isConnected := false }, update := .setMode }, w.woken⟩, []) := by
    refine Waking.act_eq_some_iff.mpr ⟨rfl, ?_, rfl⟩
    simp only [Server.step, updateModeTask, reading]
  refine canReach_of_run _ ((run_singleton_iff _).mpr acted) (joins_of_served (alert.act acted) rfl ?_)
  -- the take task is on its turn, so it is going to flip, and nobody waits for the send task
  refine ⟨fun _ _ => Position.coming_of_busy busy, fun turn => ?_⟩
  have own := alert.ordered.takeTurn busy
  rw [own] at turn
  exact absurd turn (by decide)

theorem reaches_read (alert : w.Alert) (connected : w.server.shared.isConnected = true)
    (there : w.server.update ≠ .returned) (busy : w.server.busy .take = true) :
    CanReach (Waking.act sane) (fun t => t.server.Joined) w := by
  have tests {w : Waking} (alert : w.Alert) (connected : w.server.shared.isConnected = true)
      (at_ : w.server.update = .test) (busy : w.server.busy .take = true) :
      CanReach (Waking.act sane) (fun t => t.server.Joined) w := by
    have acted : Waking.act sane w (.update .error) =
        some (⟨{ w.server with update := .read }, w.woken⟩, []) := by
      refine Waking.act_eq_some_iff.mpr ⟨rfl, ?_, rfl⟩
      simp only [Server.step, updateModeTask, at_, connected, if_true]
    exact canReach_of_run _ ((run_singleton_iff _).mpr acted) (reads_end_of_file (alert.act acted) rfl busy)
  cases at_ : w.server.update with
  | test => exact tests alert connected at_ busy
  | read => exact reads_end_of_file alert at_ busy
  | setMode =>
    have acted : Waking.act sane w (.update .error) = some (⟨{ w.server with
        shared := { w.server.shared with
          camMon := w.server.shared.camMon.setMode w.server.buf.toInt8.toInt32 }
        update := .test }, w.woken⟩, []) := by
      refine Waking.act_eq_some_iff.mpr ⟨rfl, ?_, rfl⟩
      simp only [Server.step, updateModeTask, at_]
    exact canReach_of_run _ ((run_singleton_iff _).mpr acted) (tests (alert.act acted) connected rfl busy)
  | close =>
    rw [alert.ordered.closing at_] at connected
    cases connected
  | returned => exact absurd at_ there

theorem joins_of_recoverable (alert : w.Alert) (recoverable : w.server.Recoverable) :
    CanReach (Waking.act sane) (fun t => t.server.Joined) w := by
  unfold Server.Recoverable at recoverable
  cases connected : w.server.shared.isConnected with
  | false =>
    rw [connected, if_neg Bool.false_ne_true] at recoverable
    exact joins_of_served alert connected recoverable
  | true =>
    rw [connected, if_pos rfl] at recoverable
    obtain ⟨actions, t, log, ran, ⟨later, still, same⟩, busy⟩ :=
      @Waking.Alert.canReach_busy sane _ alert connected .take
    exact canReach_of_run _ ran (reaches_read later still (same ▸ recoverable) busy)

/-- With every task counted as woken there is nobody to wake. -/
theorem joins_iff_recoverable {s : Server} (ordered : Ordered s) :
    CanReach (Server.step sane) Server.Joined s ↔ s.Recoverable := by
  refine ⟨recoverable_of_canReach ordered, fun recoverable => ?_⟩
  have alert : Waking.Alert ⟨s, fun _ => true⟩ := ⟨ordered, fun _ _ unwoken _ => nomatch unwoken⟩
  obtain ⟨actions, t, log, ran, joined⟩ := @joins_of_recoverable sane _ alert recoverable
  obtain ⟨u, followed, rfl⟩ := run_follows (Waking.act sane) (Server.step sane) (fun w s => s = w.server)
    (fun w _ action t es same taken => ⟨t.server, same ▸ (Waking.act_eq_some_iff.mp taken).2.1, rfl⟩)
    rfl ran
  exact ⟨actions, _, log, followed, joined⟩

end Recovery

/-- After any run the three tasks can return, which lets the server accept another client,
precisely when the state is recoverable: then they can without a spurious wake-up, and else not
even with one. -/
theorem next_client_iff_recoverable {sane : Bool} {camMon : CameraMonitor} {actions : List WakingAction}
    {w : Waking} {log : List ServerEvent}
    (turn : camMon.picTakeSend = TAKE_PIC_STATE ∨ camMon.picTakeSend = SEND_PIC_STATE)
    (ran : run (Waking.step sane) (.start camMon) actions = some (w, log)) :
    (w.server.Recoverable → CanReach (Waking.act sane) (fun t => t.server.Joined) w) ∧
      (CanReach (Waking.step sane) (fun t => t.server.Joined) w → w.server.Recoverable) := by
  have alert := Waking.alert_of_run turn ran
  refine ⟨joins_of_recoverable alert, ?_⟩
  rintro ⟨more, t, later, ran, joined⟩
  exact recoverable_of_canReach alert.ordered ⟨_, t.server, later, Waking.run_server ran, joined⟩

def failedRead : List WakingAction := List.replicate 2 (.act (.update .error))

theorem next_client_iff_recoverable_failed : ∃ w log,
    run (Waking.step true) (.start (.init (.filled BUFSIZE 0) 0 true)) failedRead = some (w, log) ∧
      w.server.shared.isConnected = true ∧
      ¬ CanReach (Waking.step true) (fun t => t.server.Joined) w := by
  obtain ⟨_, needed⟩ := @next_client_iff_recoverable true (.init (.filled BUFSIZE 0) 0 true)
    failedRead _ _ (.inl rfl) rfl
  exact ⟨_, _, rfl, rfl, fun reach => needed reach rfl⟩

end NetCam.Camera
