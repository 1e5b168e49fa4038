import Mathlib.Algebra.Group.Int.Defs
import Mathlib.Algebra.Group.Nat.Defs
import Mathlib.Data.List.Chain
import Mathlib.Logic.Function.Basic
import NetCam.Client.DisplayMonitor
import NetCam.Semantics.Trace

/-! The pace of the pictures in synchronous mode.

`syncDelayThread` waits for the time by which the picture is late, not for the time that
is left until it is due. A wait ends when its timeout has passed, and the other camera may
be shown meanwhile. Clock readings are integers here, so that nothing wraps in what is due.
-/

set_option autoImplicit false

namespace NetCam.Client

open Semantics

/-- A picture passed to the panel: no earlier than `earliest`, and before the clock was read. -/
structure Showing where
  timeStamp : Int
  earliest : Int
  showed : Int
  deriving DecidableEq, Repr

/-- An update inside the `wait` of `syncDelayThread`, `after` the picture shown last then. -/
structure Waiting where
  pic : Picture
  timeout : Int64
  since : Int
  after : Option Showing
  deriving DecidableEq, Repr

/-- What no step reads: `last`, the picture that was shown last, and `after` in the waits. -/
structure Pacing where
  displayMonitor : DisplayMonitor
  waiting : Cam → Option Waiting
  clock : Int
  last : Option Showing

inductive PaceAction where
  | update (c : Cam) (pic : Picture) (clock : Readings)
  | wake (c : Cam) (clock : Readings)
  deriving DecidableEq, Repr

inductive PaceEvent where
  | waits (timeout : Int64)
  | shown (showing : Showing)
  deriving DecidableEq, Repr

def Readings.Follow (clock : Readings) (earliest : Int) : Prop :=
  earliest ≤ clock.showed.toInt ∧ clock.showed ≤ clock.sampled ∧ clock.sampled ≤ clock.started ∧
    clock.started ≤ clock.checked

instance (clock : Readings) (earliest : Int) : Decidable (clock.Follow earliest) :=
  inferInstanceAs (Decidable (_ ∧ _))

namespace Pacing

def remembered (dm : DisplayMonitor) : Option Showing :=
  if dm.showedTime = 0 then none
  else some ⟨dm.lastTimeStamp.toInt, dm.showedTime.toInt, dm.showedTime.toInt⟩

def start (dm : DisplayMonitor) (now : Int) : Pacing :=
  { displayMonitor := dm.setSynced true, waiting := fun _ => none, clock := now, last := remembered dm }

def history (dm : DisplayMonitor) : List PaceEvent := (remembered dm).toList.map .shown

def pass (s : Pacing) (c : Cam) (pic : Picture) (earliest : Int) (clock : Readings) :
    Option (Pacing × List PaceEvent) :=
  if clock.Follow earliest then
    let showing : Showing := ⟨pic.timeStamp.toInt, earliest, clock.showed.toInt⟩
    some ({ s with
      displayMonitor := (s.displayMonitor.finishUpdate c clock pic).2.2
      clock := clock.checked.toInt
      last := some showing }, [.shown showing])
  else none

/-- The clock does not go back, and a wait lasts as long as it was asked to. Nothing
notifies a wait without a timeout. Each camera has one thread that makes its updates. -/
def step : Step Pacing PaceAction PaceEvent
  | s, .update c pic clock =>
    if s.waiting c = none ∧ s.clock ≤ clock.entered.toInt then
      match s.displayMonitor.enterUpdate c clock pic with
      | (none, monitor) => { s with displayMonitor := monitor }.pass c pic clock.entered.toInt clock
      | (some timeout, monitor) =>
        some ({ s with
          displayMonitor := monitor
          waiting := Function.update s.waiting c (some ⟨pic, timeout, clock.entered.toInt, s.last⟩)
          clock := clock.entered.toInt }, [.waits timeout])
    else none
  | s, .wake c clock =>
    match s.waiting c with
    | none => none
    | some w =>
      -- Such a wait lasts until a notification.
      if w.timeout = 0 then none
      else { s with waiting := Function.update s.waiting c none }.pass c w.pic
        (max s.clock (w.since + w.timeout.toInt)) clock

-- When a picture is due after the one shown before it.
def due (before : Showing) (timeStamp : Int) : Int := before.showed + (timeStamp - before.timeStamp)

def showings (log : List PaceEvent) : List Showing :=
  log.filterMap fun
    | .shown showing => some showing
    | .waits _ => none

-- No picture is passed before it is due, and no wait is without a timeout.
def Paced (log : List PaceEvent) : Prop :=
  (showings log).IsChain (fun before next => due before next.timeStamp ≤ next.earliest) ∧
    .waits 0 ∉ log

instance (log : List PaceEvent) : Decidable (Paced log) := inferInstanceAs (Decidable (_ ∧ _))

def StartsLate (late : Int) : Prop := if 0 < late then late ≠ 2 ^ 64 else 0 < late.bmod (2 ^ 64)

/-- A wait that was overdue when it began, and that no other picture was shown in. -/
def Undisturbed (w : Waiting) (before : Showing) : Prop :=
  w.after = some before ∧ due before w.pic.timeStamp.toInt ≤ w.since

/-- What a picture is owed after the last one: a step that can be taken starts an update only
when it is overdue, and ends a disturbed wait only when it is due. After a picture that was
shown at time zero there is no wait. -/
def Punctual (s : Pacing) (a : PaceAction) : Prop :=
  s.step a ≠ none → ∀ before ∈ s.last,
    match a with
    | .update _ pic clock =>
      let late := clock.entered.toInt - due before pic.timeStamp.toInt
      if before.showed = 0 then 0 ≤ late else StartsLate late
    | .wake c _ => ∀ w ∈ s.waiting c, ¬ Undisturbed w before →
      due before w.pic.timeStamp.toInt ≤ max s.clock (w.since + w.timeout.toInt)

structure Sound (log : List PaceEvent) (s : Pacing) : Prop where
  synced : s.displayMonitor.isSynced = true
  last : s.last = (showings log).getLast?
  showed : ∀ before ∈ s.last, s.displayMonitor.showedTime.toInt = before.showed
  timeStamp : ∀ before ∈ s.last, s.displayMonitor.lastTimeStamp.toInt = before.timeStamp
  none : s.last = none → s.displayMonitor.showedTime = 0
  waiting : ∀ c, ∀ w ∈ s.waiting c, 0 ≤ w.timeout

theorem sound_start (dm : DisplayMonitor) (now : Int) : Sound (history dm) (start dm now) := by
  unfold history start remembered
  split
  · next never => exact ⟨rfl, rfl, by simp, by simp, fun _ => never, by simp⟩
  · exact ⟨rfl, rfl, by simp [DisplayMonitor.setSynced], by simp [DisplayMonitor.setSynced], by simp,
      by simp⟩

theorem paced_history (dm : DisplayMonitor) : Paced (history dm) := by
  unfold history
  cases remembered dm with
  | none => exact ⟨.nil, by simp⟩
  | some showing => exact ⟨.singleton showing, by simp⟩

section Inversion

variable {s t : Pacing} {es : List PaceEvent} {c : Cam} {clock : Readings}

theorem pass_eq_some {pic : Picture} {earliest : Int} (passed : s.pass c pic earliest clock = some (t, es)) :
    let showing : Showing := ⟨pic.timeStamp.toInt, earliest, clock.showed.toInt⟩
    es = [.shown showing] ∧ t.last = some showing ∧ t.waiting = s.waiting ∧
      t.displayMonitor.isSynced = s.displayMonitor.isSynced ∧
      t.displayMonitor.showedTime.toInt = showing.showed ∧
      t.displayMonitor.lastTimeStamp.toInt = showing.timeStamp := by
  unfold pass at passed
  split at passed
  · cases passed
    obtain ⟨synced, showed, timeStamp⟩ := s.displayMonitor.finishUpdate_fields c clock pic
    dsimp only
    rw [synced, showed, timeStamp]
    exact ⟨rfl, rfl, rfl, rfl, rfl, rfl⟩
  · cases passed

theorem step_update {pic : Picture} (synced : s.displayMonitor.isSynced = true)
    (taken : s.step (.update c pic clock) = some (t, es)) :
    let timeout := clock.entered - (s.displayMonitor.showedTime +
      (pic.timeStamp - s.displayMonitor.lastTimeStamp))
    ((s.displayMonitor.showedTime = 0 ∨ timeout < 0) ∧ ∃ monitor,
      monitor.isSynced = s.displayMonitor.isSynced ∧
        { s with displayMonitor := monitor }.pass c pic clock.entered.toInt clock = some (t, es)) ∨
    (¬ (s.displayMonitor.showedTime = 0 ∨ timeout < 0) ∧ es = [.waits timeout] ∧ t.last = s.last ∧
      t.waiting = Function.update s.waiting c (some ⟨pic, timeout, clock.entered.toInt, s.last⟩) ∧
      t.displayMonitor.isSynced = s.displayMonitor.isSynced ∧
      t.displayMonitor.showedTime = s.displayMonitor.showedTime ∧
      t.displayMonitor.lastTimeStamp = s.displayMonitor.lastTimeStamp) := by
  intro timeout
  have asked := s.displayMonitor.enterUpdate_timeout synced c clock pic
  obtain ⟨kept, showed, timeStamp⟩ := s.displayMonitor.enterUpdate_keeps c clock pic
  simp only [step] at taken
  split at taken
  · cases entered : s.displayMonitor.enterUpdate c clock pic with
    | mk first monitor =>
      rw [entered] at taken asked kept showed timeStamp
      dsimp only at asked kept showed timeStamp
      by_cases never : s.displayMonitor.showedTime = 0 ∨ timeout < 0
      · rw [if_pos never] at asked
        subst asked
        exact .inl ⟨never, monitor, kept, taken⟩
      · rw [if_neg never] at asked
        subst asked
        cases taken
        exact .inr ⟨never, rfl, rfl, rfl, kept, showed, timeStamp⟩
  · cases taken

theorem step_wake (taken : s.step (.wake c clock) = some (t, es)) :
    ∃ w, s.waiting c = some w ∧ { s with waiting := Function.update s.waiting c none }.pass c w.pic
      (max s.clock (w.since + w.timeout.toInt)) clock = some (t, es) := by
  simp only [step] at taken
  split at taken
  · cases taken
  · next w waits =>
    split at taken
    · cases taken
    · exact ⟨w, waits, taken⟩

end Inversion

section Log

variable {log : List PaceEvent}

theorem showings_append (log es : List PaceEvent) :
    showings (log ++ es) = showings log ++ showings es := List.filterMap_append

theorem paced_shown_iff (paced : Paced log) (showing : Showing) : Paced (log ++ [.shown showing]) ↔
    ∀ before ∈ (showings log).getLast?, due before showing.timeStamp ≤ showing.earliest := by
  have one : showings [.shown showing] = [showing] := rfl
  unfold Paced
  rw [showings_append, one, List.isChain_append]
  simp only [List.mem_append, not_or, paced.1, List.isChain_singleton, List.head?_cons, Option.mem_def,
    Option.some.injEq, true_and]
  constructor
  · rintro ⟨chained, _⟩ before last
    exact chained before last showing rfl
  · intro punctual
    refine ⟨?_, paced.2, by simp⟩
    rintro before last next rfl
    exact punctual before last

theorem paced_waits_iff (paced : Paced log) (timeout : Int64) :
    Paced (log ++ [.waits timeout]) ↔ timeout ≠ 0 := by
  have none_shown : showings [.waits timeout] = [] := rfl
  unfold Paced
  rw [showings_append, none_shown, List.append_nil]
  simp only [paced.1, List.mem_append, paced.2, false_or, true_and, List.mem_singleton,
    PaceEvent.waits.injEq]
  exact ne_comm

end Log

theorem sound_pass {s t : Pacing} {es log : List PaceEvent} {c : Cam} {pic : Picture} {earliest : Int}
    {clock : Readings} (synced : s.displayMonitor.isSynced = true)
    (waits : ∀ c, ∀ w ∈ s.waiting c, 0 ≤ w.timeout)
    (passed : s.pass c pic earliest clock = some (t, es)) : Sound (log ++ es) t := by
  obtain ⟨rfl, last, waiting, kept, showed, timeStamp⟩ := pass_eq_some passed
  refine ⟨kept.trans synced, ?_, ?_, ?_, ?_, ?_⟩
  · rw [last, showings_append]
    exact (List.getLast?_concat).symm
  · rw [last]
    rintro before ⟨⟩
    exact showed
  · rw [last]
    rintro before ⟨⟩
    exact timeStamp
  · rw [last]
    intro impossible
    cases impossible
  · rw [waiting]
    exact waits

theorem sound_step (log : List PaceEvent) (s : Pacing) (a : PaceAction) (t : Pacing)
    (es : List PaceEvent) (sound : Sound log s) (taken : s.step a = some (t, es)) :
    Sound (log ++ es) t := by
  cases a with
  | update c pic clock =>
    rcases step_update sound.synced taken with ⟨_, monitor, kept, passed⟩ |
      ⟨always, rfl, last, waiting, synced, showed, timeStamp⟩
    · exact @sound_pass { s with displayMonitor := monitor } _ _ _ _ _ _ _ (kept.trans sound.synced)
        sound.waiting passed
    · refine ⟨synced.trans sound.synced, ?_, ?_, ?_, ?_, ?_⟩
      · rw [last, showings_append, sound.last]
        exact congrArg List.getLast? (List.append_nil _).symm
      · rw [last, showed]
        exact sound.showed
      · rw [last, timeStamp]
        exact sound.timeStamp
      · rw [last, showed]
        exact sound.none
      · rw [waiting]
        refine (Function.forall_update_iff s.waiting fun _ waits => ∀ w ∈ waits, 0 ≤ w.timeout).mpr
          ⟨?_, fun d _ => sound.waiting d⟩
        rintro w ⟨⟩
        exact Int64.not_lt.mp fun negative => always (.inr negative)
  | wake c clock =>
    obtain ⟨w, _, passed⟩ := step_wake taken
    refine @sound_pass { s with waiting := Function.update s.waiting c none } _ _ _ _ _ _ _
      sound.synced ?_ passed
    refine (Function.forall_update_iff s.waiting fun _ waits => ∀ w ∈ waits, 0 ≤ w.timeout).mpr
      ⟨?_, fun d _ => sound.waiting d⟩
    rintro w ⟨⟩

section Late

variable {late : Int}

theorem startsLate_of_neg (negative : late.bmod (2 ^ 64) < 0) : StartsLate late ↔ 0 ≤ late := by
  unfold StartsLate
  split
  · next positive =>
    refine iff_of_true ?_ (Int.le_of_lt positive)
    rintro rfl
    exact absurd negative (by decide)
  · next nonpositive =>
    refine iff_of_false (by omega) ?_
    intro nonneg
    obtain rfl : late = 0 := by omega
    exact absurd negative (by decide)

theorem startsLate_of_nonneg (bound : late < 2 ^ 65) (nonneg : ¬ late.bmod (2 ^ 64) < 0) :
    StartsLate late ↔ late.bmod (2 ^ 64) ≠ 0 := by
  unfold StartsLate
  rw [Int.bmod_def] at *
  split
  · omega
  · omega

end Late

section Timeout

variable {log : List PaceEvent} {s : Pacing} {before : Showing}

/-- The timeout, as a number: how late the update starts, wrapped. -/
theorem Sound.toInt_timeout (sound : Sound log s) (member : before ∈ s.last)
    (entered timeStamp : Int64) :
    (entered - (s.displayMonitor.showedTime + (timeStamp - s.displayMonitor.lastTimeStamp))).toInt =
      (entered.toInt - due before timeStamp.toInt).bmod (2 ^ 64) := by
  rw [Int64.toInt_sub, Int64.toInt_add, Int64.toInt_sub, sound.showed before member,
    sound.timeStamp before member, due]
  simp

theorem Sound.showedTime_eq_zero_iff (sound : Sound log s) (member : before ∈ s.last) :
    s.displayMonitor.showedTime = 0 ↔ before.showed = 0 := by
  rw [← sound.showed before member]
  exact Int64.toInt_inj.symm

theorem Sound.late_lt (sound : Sound log s) (member : before ∈ s.last) (entered timeStamp : Int64) :
    entered.toInt - due before timeStamp.toInt < 2 ^ 65 := by
  have upper := entered.toInt_lt
  have lower := timeStamp.le_toInt
  have lastTimeStamp := s.displayMonitor.lastTimeStamp.toInt_lt
  have showed := s.displayMonitor.showedTime.le_toInt
  rw [sound.timeStamp before member] at lastTimeStamp
  rw [sound.showed before member] at showed
  unfold due
  omega

end Timeout

/-- A step keeps the pace precisely when it is punctual. -/
theorem paced_step_iff (log : List PaceEvent) (s : Pacing) (a : PaceAction) (t : Pacing)
    (es : List PaceEvent) (sound : Sound log s) (paced : Paced log)
    (taken : s.step a = some (t, es)) : Paced (log ++ es) ↔ s.Punctual a := by
  have possible : s.step a ≠ none := by
    rw [taken]
    exact Option.some_ne_none _
  cases a with
  | update c pic clock =>
    rcases step_update sound.synced taken with ⟨never, monitor, _, passed⟩ |
      ⟨always, rfl, _⟩
    -- Passed at once: the timeout is negative, so that a late start means an overdue picture.
    · obtain ⟨rfl, _⟩ := pass_eq_some passed
      rw [paced_shown_iff paced, ← sound.last]
      have one : ∀ before ∈ s.last, due before pic.timeStamp.toInt ≤ clock.entered.toInt ↔
          if before.showed = 0 then 0 ≤ clock.entered.toInt - due before pic.timeStamp.toInt
          else StartsLate (clock.entered.toInt - due before pic.timeStamp.toInt) := by
        intro before member
        split
        · omega
        · next shown =>
          have negative := never.resolve_left (mt (sound.showedTime_eq_zero_iff member).mp shown)
          rw [Int64.lt_iff_toInt_lt, sound.toInt_timeout member] at negative
          rw [startsLate_of_neg negative]
          omega
      constructor
      · intro in_time _ before member
        exact (one before member).mp (in_time before member)
      · intro punctual before member
        exact (one before member).mpr (punctual possible before member)
    -- A wait that is entered must not be one of timeout zero.
    · rw [paced_waits_iff paced]
      cases last : s.last with
      | none => exact absurd (.inl (sound.none last)) always
      | some before =>
        have member : before ∈ s.last := last
        have shown : before.showed ≠ 0 := fun at_zero =>
          always (.inl ((sound.showedTime_eq_zero_iff member).mpr at_zero))
        have nonneg : ¬ (clock.entered.toInt - due before pic.timeStamp.toInt).bmod (2 ^ 64) < 0 := by
          rw [← sound.toInt_timeout member]
          exact fun negative => always (.inr (Int64.lt_iff_toInt_lt.mpr negative))
        have law := startsLate_of_nonneg (sound.late_lt member _ _) nonneg
        rw [← sound.toInt_timeout member, ← Int64.toInt_zero, Ne, Int64.toInt_inj] at law
        rw [Punctual, last]
        simp only [possible, ne_eq, not_false_eq_true, Option.mem_def, Option.some.injEq, forall_eq',
          shown, if_false, forall_const]
        exact law.symm
  | wake c clock =>
    obtain ⟨w, waits, passed⟩ := step_wake taken
    obtain ⟨rfl, _⟩ := pass_eq_some passed
    rw [paced_shown_iff paced, ← sound.last]
    constructor
    · intro in_time _ before member w' waits' _
      cases waits.symm.trans waits'
      exact in_time before member
    · intro punctual before member
      -- An overdue start makes up for any timeout, as none is negative.
      by_cases undisturbed : Undisturbed w before
      · have lasts := Int64.le_iff_toInt_le.mp (sound.waiting c w waits)
        have overdue := undisturbed.2
        rw [Int64.toInt_zero] at lasts
        dsimp only
        omega
      · exact punctual possible before member w waits undisturbed

/-- Synchronous mode keeps the pace in precisely the runs whose updates start when their pictures
are overdue, and whose disturbed waits end when theirs are due. -/
theorem paced_iff (dm : DisplayMonitor) (now : Int) (as : List PaceAction) :
    AlwaysLogged step (fun log _ => Paced log) (history dm) (start dm now) as ↔
      Guarded step Punctual (start dm now) as := by
  refine @alwaysLogged_iff_guarded _ _ _ step Punctual (fun log _ => Paced log) Sound ?_ ?_ ?_
    (history dm) (start dm now) (sound_start dm now) (paced_history dm) as
  · intro _ s a _ _ idle
    exact fun possible => absurd idle possible
  · exact fun log s a t es => paced_step_iff log s a t es
  · exact fun log s a t es sound _ => sound_step log s a t es sound

/-- A picture that comes ninety milliseconds before it is due is shown at once, and one that
comes when it is due waits for a notification. -/
theorem shown_early_and_waits_forever :
    ¬ AlwaysLogged step (fun log _ => Paced log) (history .fresh) (start .fresh 0)
      [.update .one ⟨[], 1000⟩ ⟨5000, 5000, 5000, 5000, 5000⟩,
        .update .two ⟨[], 1100⟩ ⟨5010, 5010, 5010, 5010, 5010⟩] ∧
    ¬ AlwaysLogged step (fun log _ => Paced log) (history .fresh) (start .fresh 0)
      [.update .one ⟨[], 1000⟩ ⟨5000, 5000, 5000, 5000, 5000⟩,
        .update .two ⟨[], 1100⟩ ⟨5100, 5100, 5100, 5100, 5100⟩] := by
  decide +kernel

end Pacing

end NetCam.Client
