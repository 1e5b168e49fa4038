import NetCam.Client.DelayAverage
import NetCam.Semantics.Unwinding

/-! The delay labels of the two cameras.

The samples are kept for each camera, but the window and the average that is computed when
it ends are shared. The label of one camera can show the average of the other's samples.
-/

set_option autoImplicit false

namespace NetCam.Client

open Semantics

inductive LabelCall where
  | setMode (mode : Int32)
  | update (c : Cam) (clock : Readings) (pic : Picture)
  deriving DecidableEq, Repr

/-- No step reads `averaged`: the camera from whose samples the average was last computed. -/
structure Labelling where
  displayMonitor : DisplayMonitor
  averaged : Option Cam

namespace Labelling

def fresh : Labelling := { displayMonitor := .fresh, averaged := none }

def step : Step Labelling LabelCall (Cam × Int64)
  | s, .setMode mode => some ({ s with displayMonitor := s.displayMonitor.setMode mode }, [])
  | s, .update c clock pic =>
    match s.displayMonitor.enterUpdate c clock pic with
    | (some _, _) => none
    | (none, monitor) =>
      let (_, label, next) := monitor.finishUpdate c clock pic
      let recomputed := monitor.Recomputes clock.started clock.checked
      some (⟨next, if recomputed then some c else s.averaged⟩, [(c, label)])

def labelOf (c : Cam) (event : Cam × Int64) : Option Int64 :=
  if event.1 = c then some event.2 else none

/-- Corresponding calls: the same but for the pictures of the other camera. -/
inductive Alike (c : Cam) : LabelCall → LabelCall → Prop where
  | setMode (mode : Int32) : Alike c (.setMode mode) (.setMode mode)
  | own (clock : Readings) (pic : Picture) : Alike c (.update c clock pic) (.update c clock pic)
  | other (clock : Readings) (pic pic' : Picture) :
      Alike c (.update c.other clock pic) (.update c.other clock pic')

/-- An average that is shown for a camera was computed from its own samples: by this very
update, or by one before it that the other camera's have not replaced. -/
def Own (c : Cam) (s : Labelling) : LabelCall → Prop
  | .setMode _ => True
  | .update d clock _ => d = c → s.displayMonitor.mode ≠ MODE_IDLE →
    s.displayMonitor.Recomputes clock.started clock.checked ∨ s.averaged ≠ some c.other

structure Updated (s : Labelling) (c : Cam) (clock : Readings) (pic : Picture) (t : Labelling)
    (label : Int64) : Prop where
  isSynced : t.displayMonitor.isSynced = false
  mode : t.displayMonitor.mode = s.displayMonitor.mode
  timeOfStart : t.displayMonitor.timeOfStart =
    if s.displayMonitor.Recomputes clock.started clock.checked then -1
    else s.displayMonitor.windowStart clock.started
  averaged : t.averaged =
    if s.displayMonitor.Recomputes clock.started clock.checked then some c else s.averaged
  average : t.displayMonitor.currentAverageDelay =
    if s.displayMonitor.Recomputes clock.started clock.checked then
      DisplayMonitor.average
        (s.displayMonitor.rollingTimestampAverage c ++ [clock.sampled - pic.timeStamp])
    else s.displayMonitor.currentAverageDelay
  label : label =
    if s.displayMonitor.mode = MODE_IDLE then clock.sampled - pic.timeStamp
    else t.displayMonitor.currentAverageDelay
  own : t.displayMonitor.rollingTimestampAverage c =
    if s.displayMonitor.mode = MODE_IDLE then []
    else
      let rolling := s.displayMonitor.rollingTimestampAverage c ++ [clock.sampled - pic.timeStamp]
      if rolling.length ≥ 180 then rolling.tail else rolling
  others : ∀ d, d ≠ c →
    t.displayMonitor.rollingTimestampAverage d = s.displayMonitor.rollingTimestampAverage d

theorem step_update {s : Labelling} (unsynced : s.displayMonitor.isSynced = false) (c : Cam)
    (clock : Readings) (pic : Picture) :
    ∃ t label, step s (.update c clock pic) = some (t, [(c, label)]) ∧
      Updated s c clock pic t label := by
  let dm := s.displayMonitor.setPic pic c
  let dm' : DisplayMonitor := { dm with showedTime := clock.showed, lastTimeStamp := pic.timeStamp }
  have entered : s.displayMonitor.enterUpdate c clock pic = (none, dm) := by
    unfold DisplayMonitor.enterUpdate DisplayMonitor.syncDelayThread
    have still : (s.displayMonitor.setPic pic c).isSynced = false := by cases c <;> exact unsynced
    simp [still, dm]
  have added : dm'.rollingTimestampAverage c ++ [clock.sampled - pic.timeStamp] ≠ [] := by simp
  have average := dm'.checkDelay_average clock.started clock.checked _ added
  have timeOfStart := dm'.checkDelay_timeOfStart clock.started clock.checked _ added
  have delay := dm'.checkDelay_delay clock.started clock.checked _ added
  have rolling := dm'.checkDelay_rolling clock.started clock.checked _ added
  obtain ⟨isSynced, mode, kept⟩ := dm'.checkDelay_keeps clock.started clock.checked _ added
  rw [List.getLast_concat] at delay
  have finished : dm.finishUpdate c clock pic =
      let checked := dm'.checkDelay clock.started clock.checked _ added
      (dm.pic c, checked.1, checked.2.2.setRollingTimestampAverage checked.2.1 c) := rfl
  generalize dm'.checkDelay clock.started clock.checked _ added = checked at *
  refine ⟨⟨checked.2.2.setRollingTimestampAverage checked.2.1 c, _⟩, checked.1, by
    simp only [step, entered, finished]; rfl, ?_⟩
  cases c with
  | one =>
    refine ⟨isSynced.trans unsynced, mode, timeOfStart, rfl, average, delay, rolling, ?_⟩
    intro d not_one
    cases d with
    | one => exact absurd rfl not_one
    | two => exact congrFun kept .two
  | two =>
    refine ⟨isSynced.trans unsynced, mode, timeOfStart, rfl, average, delay, rolling, ?_⟩
    intro d not_two
    cases d with
    | one => exact congrFun kept .one
    | two => exact absurd rfl not_two

structure SameWindow (s t : Labelling) : Prop where
  left : s.displayMonitor.isSynced = false
  right : t.displayMonitor.isSynced = false
  mode : s.displayMonitor.mode = t.displayMonitor.mode
  timeOfStart : s.displayMonitor.timeOfStart = t.displayMonitor.timeOfStart
  averaged : s.averaged = t.averaged

structure Indistinguishable (c : Cam) (s t : Labelling) : Prop extends SameWindow s t where
  rolling : s.displayMonitor.rollingTimestampAverage c = t.displayMonitor.rollingTimestampAverage c
  average : s.averaged ≠ some c.other →
    s.displayMonitor.currentAverageDelay = t.displayMonitor.currentAverageDelay

theorem indistinguishable_fresh (c : Cam) : Indistinguishable c fresh fresh :=
  ⟨⟨rfl, rfl, rfl, rfl, rfl⟩, rfl, fun _ => rfl⟩

section Windows

variable {s t s' t' : Labelling} {c : Cam} {clock : Readings} {pic pic' : Picture} {label label' : Int64}

theorem SameWindow.recomputes_iff (same : SameWindow s t) :
    s.displayMonitor.Recomputes clock.started clock.checked ↔
      t.displayMonitor.Recomputes clock.started clock.checked := by
  unfold DisplayMonitor.Recomputes DisplayMonitor.windowStart
  rw [same.mode, same.timeOfStart]

theorem SameWindow.setMode (same : SameWindow s t) (mode : Int32) :
    SameWindow { s with displayMonitor := s.displayMonitor.setMode mode }
      { t with displayMonitor := t.displayMonitor.setMode mode } :=
  ⟨same.left, same.right, rfl, same.timeOfStart, same.averaged⟩

theorem SameWindow.update (same : SameWindow s t) (left : Updated s c clock pic s' label)
    (right : Updated t c clock pic' t' label') : SameWindow s' t' := by
  refine ⟨left.isSynced, right.isSynced, ?_, ?_, ?_⟩
  · rw [left.mode, right.mode, same.mode]
  · rw [left.timeOfStart, right.timeOfStart, DisplayMonitor.windowStart, DisplayMonitor.windowStart,
      same.timeOfStart]
    simp only [same.recomputes_iff]
  · rw [left.averaged, right.averaged, same.averaged]
    simp only [same.recomputes_iff]

/-- After an update of its own camera the average is the same. -/
theorem Indistinguishable.average_own (same : Indistinguishable c s t)
    (left : Updated s c clock pic s' label) (right : Updated t c clock pic t' label')
    (own : s'.averaged ≠ some c.other) :
    s'.displayMonitor.currentAverageDelay = t'.displayMonitor.currentAverageDelay := by
  rw [left.averaged] at own
  rw [left.average, right.average, same.rolling]
  simp only [← same.recomputes_iff]
  split
  · rfl
  · next kept =>
    rw [if_neg kept] at own
    exact same.average own

end Windows

/-- Calls that are alike unwind, if what they show is the camera's own. -/
theorem alike_unwinds (c : Cam) (s t : Labelling) (a b : LabelCall) (same : Indistinguishable c s t)
    (alike : Alike c a b) (owned : Own c s a) :
    Matched (Indistinguishable c) (labelOf c) (s.step a) (t.step b) := by
  cases alike with
  | setMode mode => exact .taken ⟨same.toSameWindow.setMode mode, same.rolling, same.average⟩ rfl
  | own clock pic =>
    obtain ⟨s', label, taken, left⟩ := step_update same.left c clock pic
    obtain ⟨t', label', taken', right⟩ := step_update same.right c clock pic
    have averages := same.average_own left right
    rw [taken, taken']
    refine .taken ⟨same.toSameWindow.update left right, ?_, averages⟩ ?_
    · rw [left.own, right.own, same.rolling, same.mode]
    · have labels : label = label' := by
        rw [left.label, right.label, same.mode]
        by_cases idle : t.displayMonitor.mode = MODE_IDLE
        · rw [if_pos idle, if_pos idle]
        · rw [if_neg idle, if_neg idle]
          refine averages ?_
          rw [left.averaged]
          split
          · exact fun replaced => Cam.other_ne c (Option.some.inj replaced).symm
          · next kept => exact (owned rfl (same.mode ▸ idle)).resolve_left kept
      rw [labels]
  | other clock pic pic' =>
    -- A recomputation here makes the averages differ, and gives up that they are the camera's own.
    obtain ⟨s', label, taken, left⟩ := step_update same.left c.other clock pic
    obtain ⟨t', label', taken', right⟩ := step_update same.right c.other clock pic'
    have not_other : c ≠ c.other := (Cam.other_ne c).symm
    rw [taken, taken']
    refine .taken ⟨same.toSameWindow.update left right, ?_, ?_⟩ ?_
    · rw [left.others c not_other, right.others c not_other, same.rolling]
    · rw [left.averaged, left.average, right.average]
      simp only [← same.recomputes_iff]
      split
      · exact fun own => absurd rfl own
      · exact same.average
    · simp [labelOf]

-- The same call, with a picture that makes a given sample if it is the other camera's.
def withSample (c : Cam) (k : Int64) : LabelCall → LabelCall
  | .setMode mode => .setMode mode
  | .update d clock pic =>
    .update d clock (if d = c then pic else { pic with timeStamp := clock.sampled - k })

theorem alike_withSample (c : Cam) (k : Int64) (a : LabelCall) : Alike c a (withSample c k a) := by
  cases a with
  | setMode mode => exact .setMode mode
  | update d clock pic =>
    rcases Cam.eq_or_eq_other c d with rfl | rfl
    · rw [withSample, if_pos rfl]
      exact .own clock pic
    · exact .other clock pic _

-- All the samples of the other camera are `k`.
structure Filled (c : Cam) (k : Int64) (s : Labelling) : Prop where
  rolling : ∃ n < 180, s.displayMonitor.rollingTimestampAverage c.other = List.replicate n k
  average : s.averaged = some c.other → ∃ n, 0 < n ∧ n ≤ 180 ∧
    s.displayMonitor.currentAverageDelay = DisplayMonitor.average (List.replicate n k)

theorem filled_fresh (c : Cam) (k : Int64) : Filled c k fresh := by
  refine ⟨⟨0, by decide, by cases c <;> rfl⟩, ?_⟩
  intro impossible
  cases impossible

section Filled

variable {s t : Labelling} {c d : Cam} {k label : Int64} {clock : Readings} {pic : Picture}

theorem Filled.update_own (filled : Filled c k s) (updated : Updated s c clock pic t label) :
    Filled c k t := by
  refine ⟨?_, ?_⟩
  · rw [updated.others _ (Cam.other_ne c)]
    exact filled.rolling
  · rw [updated.averaged, updated.average]
    split
    · exact fun replaced => absurd (Option.some.inj replaced).symm (Cam.other_ne c)
    · exact filled.average

theorem Filled.update_other (filled : Filled c k s) (updated : Updated s c.other clock pic t label)
    (sample : clock.sampled - pic.timeStamp = k) : Filled c k t := by
  obtain ⟨n, short, rolling⟩ := filled.rolling
  have longer : s.displayMonitor.rollingTimestampAverage c.other ++ [clock.sampled - pic.timeStamp] =
      List.replicate (n + 1) k := by
    rw [rolling, sample, List.replicate_succ']
  refine ⟨?_, ?_⟩
  · rw [updated.own, longer]
    dsimp only
    split
    · exact ⟨0, by decide, rfl⟩
    · split
      · exact ⟨n, short, rfl⟩
      · next fits =>
        rw [List.length_replicate] at fits
        exact ⟨n + 1, by omega, rfl⟩
  · rw [updated.averaged, updated.average, longer]
    split
    · exact fun _ => ⟨n + 1, n.succ_pos, short, rfl⟩
    · exact filled.average

theorem average_zero_ne {n m : Nat} (some_zero : 0 < n) (short : n ≤ 180) (some_full : 0 < m)
    (short' : m ≤ 180) : DisplayMonitor.average (List.replicate n 0) ≠
      DisplayMonitor.average (List.replicate m 180) := by
  intro same
  have values := congrArg Int64.toInt same
  rw [DisplayMonitor.toInt_average_replicate (by omega) some_zero,
    DisplayMonitor.toInt_average_replicate (by omega) some_full] at values
  have quotient : 1 ≤ (180 : Int).tdiv m := by
    rw [Int.tdiv_eq_ediv_of_nonneg (by decide), Int.le_ediv_iff_mul_le (by omega)]
    omega
  have zero : Int64.toInt 0 = 0 := rfl
  have full : Int64.toInt 180 = 180 := rfl
  rw [zero, full, Int.zero_tdiv, mul_zero] at values
  have positive := Int.mul_pos (Int.natCast_pos.mpr some_full) quotient
  omega

/-- An average of the other camera's samples tells the two runs apart. -/
theorem labels_ne {s s₀ s₁ t₀ t₁ : Labelling} {c : Cam} {clock : Readings} {pic : Picture}
    {label₀ label₁ : Int64} (same₀ : SameWindow s s₀) (same₁ : SameWindow s s₁) (zero : Filled c 0 s₀)
    (full : Filled c 180 s₁) (updated₀ : Updated s₀ c clock pic t₀ label₀)
    (updated₁ : Updated s₁ c clock pic t₁ label₁) (not_idle : s.displayMonitor.mode ≠ MODE_IDLE)
    (kept : ¬ s.displayMonitor.Recomputes clock.started clock.checked)
    (averaged : s.averaged = some c.other) : label₀ ≠ label₁ := by
  obtain ⟨n, some_zero, short, average₀⟩ := zero.average (same₀.averaged ▸ averaged)
  obtain ⟨m, some_full, short', average₁⟩ := full.average (same₁.averaged ▸ averaged)
  rw [updated₀.label, updated₁.label, if_neg (same₀.mode ▸ not_idle), if_neg (same₁.mode ▸ not_idle),
    updated₀.average, updated₁.average, if_neg (mt same₀.recomputes_iff.mpr kept),
    if_neg (mt same₁.recomputes_iff.mpr kept), average₀, average₁]
  exact average_zero_ne some_zero short some_full short'

end Filled

/-- The other camera's samples are seen through an average that is not the camera's own: the
two runs in which they are all zero and all a hundred and eighty look different. -/
theorem own_of_seen {c : Cam} (as : List LabelCall) {s s₀ s₁ : Labelling} (same₀ : SameWindow s s₀)
    (same₁ : SameWindow s s₁) (zero : Filled c 0 s₀) (full : Filled c 180 s₁)
    (alike : seen step (labelOf c) s₀ (as.map (withSample c 0)) =
      seen step (labelOf c) s₁ (as.map (withSample c 180))) : Guarded step (Own c) s as := by
  induction as generalizing s s₀ s₁ with
  | nil => trivial
  | cons a rest ih =>
    cases a with
    | setMode mode => exact ⟨trivial, ih (same₀.setMode mode) (same₁.setMode mode)
        ⟨zero.rolling, zero.average⟩ ⟨full.rolling, full.average⟩ alike⟩
    | update d clock pic =>
      obtain ⟨t, label, taken, updated⟩ := step_update same₀.left d clock pic
      rcases Cam.eq_or_eq_other c d with rfl | rfl
      -- The camera's own update puts one label into each of the two lists.
      · obtain ⟨t₀, label₀, taken₀, updated₀⟩ := step_update same₀.right d clock pic
        obtain ⟨t₁, label₁, taken₁, updated₁⟩ := step_update same₁.right d clock pic
        have call (k : Int64) : withSample d k (.update d clock pic) = .update d clock pic := by
          rw [withSample, if_pos rfl]
        have view (label : Int64) : [(d, label)].filterMap (labelOf d) = [label] := by simp [labelOf]
        rw [List.map_cons, List.map_cons, call, call, seen_cons taken₀, seen_cons taken₁, view,
          view] at alike
        obtain ⟨labels, later⟩ := List.cons.inj alike
        refine ⟨?_, ?_⟩
        · intro _ not_idle
          by_contra foreign
          obtain ⟨kept, others⟩ := not_or.mp foreign
          exact labels_ne same₀ same₁ zero full updated₀ updated₁ not_idle kept (not_not.mp others) labels
        · rw [taken]
          exact ih (same₀.update updated updated₀) (same₁.update updated updated₁)
            (zero.update_own updated₀) (full.update_own updated₁) later
      -- The other camera's puts none, and fills its window.
      · have call (k : Int64) : withSample c k (.update c.other clock pic) =
            .update c.other clock { pic with timeStamp := clock.sampled - k } := by
          rw [withSample, if_neg (Cam.other_ne c)]
        have view (label : Int64) : [(c.other, label)].filterMap (labelOf c) = [] := by simp [labelOf]
        obtain ⟨t₀, label₀, taken₀, updated₀⟩ :=
          step_update same₀.right c.other clock { pic with timeStamp := clock.sampled - 0 }
        obtain ⟨t₁, label₁, taken₁, updated₁⟩ :=
          step_update same₁.right c.other clock { pic with timeStamp := clock.sampled - 180 }
        rw [List.map_cons, List.map_cons, call, call, seen_cons taken₀, seen_cons taken₁, view,
          view] at alike
        refine ⟨fun own => absurd own (Cam.other_ne c), ?_⟩
        rw [taken]
        exact ih (same₀.update updated updated₀) (same₁.update updated updated₁)
          (zero.update_other updated₀ (by grind)) (full.update_other updated₁ (by grind)) alike

/-- The labels of a camera are the same whatever the other camera's pictures are, in precisely
the runs in which the averages it shows were computed from its own samples. -/
theorem labels_independent_iff (c : Cam) (as : List LabelCall) :
    (∀ bs, List.Forall₂ (Alike c) as bs →
      seen step (labelOf c) fresh as = seen step (labelOf c) fresh bs) ↔
      Guarded step (Own c) fresh as := by
  have corresponds (k : Int64) : List.Forall₂ (Alike c) as (as.map (withSample c k)) :=
    List.forall₂_map_right_iff.mpr (List.forall₂_same.mpr fun a _ => alike_withSample c k a)
  have same := (indistinguishable_fresh c).toSameWindow
  constructor
  · intro independent
    exact own_of_seen as same same (filled_fresh c 0) (filled_fresh c 180)
      ((independent _ (corresponds 0)).symm.trans (independent _ (corresponds 180)))
  · intro owned bs alike
    exact seen_eq_of_unwinding (fun s t a b => alike_unwinds c s t a b) (indistinguishable_fresh c)
      alike owned

/-- The label of the first camera shows the delay of the second. -/
theorem average_of_the_other :
    let clock (now : Int64) : Readings := ⟨now, now, now, now, now⟩
    let calls (timeStamp : Int64) : List LabelCall :=
      [.setMode MODE_MOVIE, .update .one (clock 1000) ⟨[], 990⟩,
        .update .two (clock 3000) ⟨[], timeStamp⟩, .update .one (clock 3010) ⟨[], 3000⟩]
    List.Forall₂ (Alike .one) (calls 2900) (calls 2500) ∧
      seen step (labelOf .one) fresh (calls 2900) = [0, 100] ∧
      seen step (labelOf .one) fresh (calls 2500) = [0, 500] := by
  refine ⟨?_, by decide +kernel, by decide +kernel⟩
  exact .cons (.setMode _) (.cons (.own _ _) (.cons (.other _ _ _) (.cons (.own _ _) .nil)))

end Labelling

end NetCam.Client
