import Mathlib.Algebra.Group.Int.Defs
import NetCam.Client.Calls
import NetCam.Semantics.Synchrony

/-! The sync bookkeeping of `ClientMonitor` as a `Tracker` over the cameras' arrivals.

The source compares 64-bit time stamps with wrapping arithmetic. On converted time stamps
in `(0, 2^62)` nothing wraps, and every `putPicture` is an arrival at the tracker.
-/

set_option autoImplicit false

namespace NetCam.Client

open Semantics Semantics.Synchrony

instance : Paired Cam where
  peer := Cam.other
  peer_peer := Cam.other_other
  peer_ne := Cam.other_ne
  eq_or_eq_peer := Cam.eq_or_eq_other

def tolerance : Tolerance Int where
  horizon := fun t => t + 200
  monotone := fun _ _ le => Int.add_le_add_right le 200

def arrivals (log : List Event) : List (Cam × Int) :=
  log.filterMap fun
    | .put c pic => some (c, pic.timeStamp.toInt)
    | .got _ _ => none

-- Converted time stamps are positive, below 2^62 and do not decrease for either camera.
structure Regular (history : List (Cam × Int)) : Prop where
  range : ∀ a ∈ history, 0 < a.2 ∧ a.2 < 2 ^ 62
  ordered : Ordered history

def InRange (t : Int64) : Prop := 0 < t.toInt ∧ t.toInt < 2 ^ 62

theorem InRange.ne_zero {t : Int64} (range : InRange t) : t ≠ 0 := by
  rintro rfl
  exact absurd range.1 (by decide)

theorem toInt_sub_of_inRange {t o : Int64} (ht : InRange t) (ho : InRange o) :
    (t - o).toInt = t.toInt - o.toInt := by
  obtain ⟨tpos, tsmall⟩ := ht
  obtain ⟨opos, osmall⟩ := ho
  rw [Int64.toInt_sub, Int.bmod_def]
  omega

theorem sub_le_tolerance_iff {t o : Int64} (ht : InRange t) (ho : InRange o) :
    t - o ≤ syncToleranceMillis ↔ t.toInt ≤ tolerance.horizon o.toInt := by
  have tol : syncToleranceMillis.toInt = 200 := by decide
  rw [Int64.le_iff_toInt_le, toInt_sub_of_inRange ht ho, tol]
  simp only [tolerance]
  omega

theorem sub_neg_iff {t o : Int64} (ht : InRange t) (ho : InRange o) :
    t - o < 0 ↔ t.toInt < o.toInt := by
  have zero : (0 : Int64).toInt = 0 := by decide
  rw [Int64.lt_iff_toInt_lt, toInt_sub_of_inRange ht ho, zero]
  omega

theorem toInt_abs {x : Int64} (fits : x.toInt ≠ -2 ^ 63) : x.abs.toInt = x.toInt.natAbs := by
  have bits : x.toBitVec ≠ BitVec.intMin 64 := by
    intro same
    apply fits
    change x.toBitVec.toInt = _
    rw [same]
    decide
  exact BitVec.toInt_abs_eq_natAbs_of_ne_intMin bits

theorem abs_sub_le_tolerance_iff {t o : Int64} (ht : InRange t) (ho : InRange o) :
    (t - o).abs ≤ syncToleranceMillis ↔
      t.toInt ≤ tolerance.horizon o.toInt ∧ o.toInt ≤ tolerance.horizon t.toInt := by
  have tol : syncToleranceMillis.toInt = 200 := by decide
  have difference := toInt_sub_of_inRange ht ho
  obtain ⟨tpos, tsmall⟩ := ht
  obtain ⟨opos, osmall⟩ := ho
  have fits : (t - o).toInt ≠ -2 ^ 63 := by omega
  rw [Int64.le_iff_toInt_le, toInt_abs fits, difference, tol]
  simp only [tolerance]
  omega

namespace ClientMonitor

def tracker (cm : ClientMonitor) : Tracker Cam Int where
  forced := cm.forceSync
  synced := cm.synced
  last := fun c => if (cm.lastPic c).timeStamp = 0 then none else some (cm.lastPic c).timeStamp.toInt
  stamps := fun c => (cm.stamps c).map Int64.toInt

/-- Nothing the sync check reads can overflow, and no list has reached the limit. -/
structure Sound (cm : ClientMonitor) : Prop where
  last : ∀ c, (cm.lastPic c).timeStamp = 0 ∨ InRange (cm.lastPic c).timeStamp
  stamps : ∀ c, ∀ t ∈ cm.stamps c, InRange t
  short : ∀ c, (cm.stamps c).length < delayedFramesTolerance

theorem removeConforming_inRange {o : Int64} (ho : InRange o) {stamps : List Int64}
    (range : ∀ t ∈ stamps, InRange t)
    (beyond : ∃ t ∈ stamps, ¬ t.toInt ≤ tolerance.horizon o.toInt) :
    ∃ kept, removeConforming o stamps = .ok kept ∧ kept <:+ stamps ∧
      kept.map Int64.toInt =
        (stamps.map Int64.toInt).dropWhile (· ≤ tolerance.horizon o.toInt) := by
  induction stamps with
  | nil => simp at beyond
  | cons first rest ih =>
    have conform := sub_le_tolerance_iff (range first (by simp)) ho
    by_cases within : first.toInt ≤ tolerance.horizon o.toInt
    · obtain ⟨t, member, far⟩ := beyond
      have later : t ∈ rest := by
        rcases List.mem_cons.mp member with rfl | member
        · exact absurd within far
        · exact member
      obtain ⟨kept, removed, suffix, same⟩ :=
        ih (fun u found => range u (List.mem_cons_of_mem _ found)) ⟨t, later, far⟩
      refine ⟨kept, ?_, suffix.trans (List.suffix_cons first rest), ?_⟩
      · rw [removeConforming, if_pos (conform.mpr within)]
        exact removed
      · simp [within, same]
    · refine ⟨first :: rest, ?_, List.suffix_refl _, ?_⟩
      · rw [removeConforming, if_neg (fun le => within (conform.mp le))]
      · simp [within]

theorem clears_iff {cm : ClientMonitor} {t o : Int64} (ht : InRange t) (ho : InRange o) :
    (((t - o).abs ≤ syncToleranceMillis) || t - o < 0 || cm.forceSync) = true ↔
      cm.forceSync = true ∨ t.toInt ≤ tolerance.horizon o.toInt := by
  simp only [Bool.or_eq_true, decide_eq_true_eq, abs_sub_le_tolerance_iff ht ho, sub_neg_iff ht ho]
  simp only [tolerance]
  cases cm.forceSync with
  | true => simp
  | false => simp; omega

theorem Sound.clear {cm : ClientMonitor} (sound : cm.Sound) (synced : Bool) :
    (cm.clearStamps.setSynced synced).Sound where
  last := sound.last
  stamps := by intro c t member; cases c <;> cases member
  short := by intro c; cases c <;> exact Nat.zero_lt_succ 9

theorem tracker_clear (cm : ClientMonitor) (synced : Bool) :
    (cm.clearStamps.setSynced synced).tracker = cm.tracker.clear synced := by
  simp only [tracker, Tracker.clear]
  congr 1
  funext c
  cases c <;> rfl

theorem setStamps_lastPic (cm : ClientMonitor) (c : Cam) (stamps : List Int64) :
    (cm.setStamps c stamps).lastPic = cm.lastPic := by
  funext d
  cases c <;> cases d <;> rfl

theorem tracker_setStamps (cm : ClientMonitor) (c : Cam) (stamps : List Int64) :
    (cm.setStamps c stamps).tracker =
      { cm.tracker with
        stamps := Function.update cm.tracker.stamps c (stamps.map Int64.toInt) } := by
  simp only [tracker, setStamps_lastPic, setStamps_synced, setStamps_forceSync]
  congr 1
  funext d
  cases c <;> cases d <;> rfl

theorem Sound.setStamps {cm : ClientMonitor} (sound : cm.Sound) {c : Cam} {stamps : List Int64}
    (range : ∀ t ∈ stamps, InRange t) (short : stamps.length < delayedFramesTolerance) :
    (cm.setStamps c stamps).Sound where
  last := by rw [setStamps_lastPic]; exact sound.last
  stamps := by
    intro d t member
    rw [setStamps_stamps, Function.update_apply] at member
    split at member
    · exact range t member
    · exact sound.stamps d t member
  short := by
    intro d
    rw [setStamps_stamps, Function.update_apply]
    split
    · exact short
    · exact sound.short d

theorem full_iff {cm : ClientMonitor} (sound : cm.Sound) (c : Cam) (kept : List Int64) :
    ((cm.setStamps c kept).syncStamps1.length ≥ delayedFramesTolerance ∨
      (cm.setStamps c kept).syncStamps2.length ≥ delayedFramesTolerance) ↔
      delayedFramesTolerance ≤ kept.length := by
  have short := sound.short c.other
  cases c <;> simp only [setStamps, Cam.other, stamps] at * <;> omega

/-- The sync check refines the tracker's comparison of two stamps. -/
theorem tracker_syncReqCheck {cm : ClientMonitor} (sound : cm.Sound) {pic other : Picture} {c d : Cam}
    (ht : InRange pic.timeStamp) (ho : InRange other.timeStamp) :
    ∃ next, cm.syncReqCheck pic other c d = .ok next ∧ next.Sound ∧
      next.tracker = cm.tracker.compare tolerance delayedFramesTolerance c
        pic.timeStamp.toInt other.timeStamp.toInt := by
  simp only [syncReqCheck, Tracker.compare]
  by_cases synced : cm.synced = true
  · rw [if_pos synced, if_pos (show cm.tracker.synced = true from synced), asyncCheck]
    by_cases clears : cm.forceSync = true ∨ pic.timeStamp.toInt ≤ tolerance.horizon other.timeStamp.toInt
    · rw [if_pos ((clears_iff ht ho).mpr clears),
        if_pos (show cm.tracker.forced = true ∨ _ from clears)]
      have same : cm.clearStamps = cm.clearStamps.setSynced true := by
        rw [clearStamps, setSynced, ← synced]
      refine ⟨cm.clearStamps, rfl, ?_, ?_⟩
      · rw [same]
        exact sound.clear true
      · rw [same]
        exact tracker_clear cm true
    · -- the stamp leads: it is appended, and the conforming ones are removed from the front
      rw [if_neg (fun held => clears ((clears_iff ht ho).mp held)),
        if_neg (show ¬ (cm.tracker.forced = true ∨ _) from clears)]
      have range : ∀ t ∈ cm.stamps c ++ [pic.timeStamp], InRange t := by
        intro t member
        rcases List.mem_append.mp member with member | member
        · exact sound.stamps c t member
        · rw [List.mem_singleton.mp member]
          exact ht
      obtain ⟨kept, removed, suffix, same⟩ := removeConforming_inRange ho range
        ⟨pic.timeStamp, by simp, fun within => clears (.inr within)⟩
      have trimmed : (cm.tracker.stamps c ++ [pic.timeStamp.toInt]).dropWhile
          (· ≤ tolerance.horizon other.timeStamp.toInt) = kept.map Int64.toInt := by
        rw [same, List.map_append]
        rfl
      simp only [removed, trimmed, List.length_map]
      by_cases full : delayedFramesTolerance ≤ kept.length
      · rw [if_pos ((full_iff sound c kept).mpr full), if_pos full]
        have emptied : (cm.setStamps c kept).clearStamps = cm.clearStamps := by cases c <;> rfl
        rw [emptied]
        exact ⟨_, rfl, sound.clear false, tracker_clear cm false⟩
      · rw [if_neg (fun held => full ((full_iff sound c kept).mp held)), if_neg full]
        exact ⟨_, rfl, sound.setStamps (fun t member => range t (suffix.subset member))
          (Nat.lt_of_not_le full), tracker_setStamps cm c kept⟩
  · rw [if_neg synced, if_neg (show ¬ cm.tracker.synced = true from synced), syncCheck]
    have joins : (cm.forceSync || decide ((pic.timeStamp - other.timeStamp).abs ≤ syncToleranceMillis)) =
        true ↔ cm.tracker.forced = true ∨
          pic.timeStamp.toInt ≤ tolerance.horizon other.timeStamp.toInt ∧
            other.timeStamp.toInt ≤ tolerance.horizon pic.timeStamp.toInt := by
      simp only [Bool.or_eq_true, decide_eq_true_eq, abs_sub_le_tolerance_iff ht ho, tracker]
    -- going synchronous clears both lists before the stamp is appended
    by_cases together : cm.tracker.forced = true ∨
        pic.timeStamp.toInt ≤ tolerance.horizon other.timeStamp.toInt ∧
          other.timeStamp.toInt ≤ tolerance.horizon pic.timeStamp.toInt
    · rw [if_pos (joins.mpr together), if_pos together]
      have emptied : (cm.clearStamps.setSynced true).stamps c = [] := by cases c <;> rfl
      simp only [emptied, List.nil_append]
      refine ⟨_, rfl, (sound.clear true).setStamps ?_ (Nat.lt_of_sub_eq_succ rfl), ?_⟩
      · intro t member
        rw [List.mem_singleton.mp member]
        exact ht
      · rw [tracker_setStamps, tracker_clear]
        rfl
    · rw [if_neg (fun held => together (joins.mp held)), if_neg together]
      exact ⟨cm, rfl, sound, rfl⟩

theorem tracker_store (cm : ClientMonitor) (base : Int64) (pic : Picture) (c : Cam)
    (range : InRange pic.timeStamp) :
    (cm.store base pic c).tracker =
      { cm.tracker with last := Function.update cm.tracker.last c (some pic.timeStamp.toInt) } := by
  simp only [tracker, store_lastPic, store_stamps, store_synced, store_forceSync]
  congr 1
  funext d
  rcases eq_or_ne d c with rfl | differ
  · simp [range.ne_zero]
  · simp [differ]

theorem Sound.store {cm : ClientMonitor} (sound : cm.Sound) {base : Int64} {pic : Picture} {c : Cam}
    (range : InRange pic.timeStamp) : (cm.store base pic c).Sound where
  last := by
    intro d
    rw [store_lastPic, Function.update_apply]
    split
    · exact .inr range
    · exact sound.last d
  stamps := by rw [store_stamps]; exact sound.stamps
  short := by rw [store_stamps]; exact sound.short

/-- Putting a picture refines an arrival at the tracker. -/
theorem tracker_putPicture {cm : ClientMonitor} (sound : cm.Sound) {now : Int64} {pic : Picture}
    {c : Cam} (range : InRange (cm.converted now pic c).timeStamp) :
    ∃ next, cm.putPicture now pic c.nbr = .ok next ∧ next.Sound ∧
      next.tracker = cm.tracker.arrive tolerance delayedFramesTolerance c
        (cm.converted now pic c).timeStamp.toInt := by
  have stored := tracker_store cm (cm.baselineFor now pic c) _ c range
  rw [putPicture_nbr, Tracker.arrive]
  dsimp only
  by_cases first : (cm.lastPic c.other).timeStamp = 0
  · rw [if_neg (not_not_intro first)]
    have alone : cm.tracker.last (peer c) = none := if_pos first
    rw [alone]
    exact ⟨_, rfl, sound.store range, stored⟩
  · rw [if_pos first]
    have known : cm.tracker.last (peer c) = some (cm.lastPic c.other).timeStamp.toInt := if_neg first
    rw [known]
    obtain ⟨next, checked, sound', same⟩ := tracker_syncReqCheck (sound.store range) (c := c)
      (d := c.other) range ((sound.last c.other).resolve_left first)
    exact ⟨next, checked, sound', by rw [same, stored]⟩

end ClientMonitor

theorem arrivals_append (xs ys : List Event) : arrivals (xs ++ ys) = arrivals xs ++ arrivals ys :=
  List.filterMap_append

@[simp] theorem arrivals_nil : arrivals [] = [] := rfl

@[simp] theorem arrivals_put (c : Cam) (pic : Picture) :
    arrivals [.put c pic] = [(c, pic.timeStamp.toInt)] := rfl

@[simp] theorem arrivals_got (c : Cam) (pic : Picture) : arrivals [.got c pic] = [] := rfl

theorem Regular.left {xs ys : List (Cam × Int)} (regular : Regular (xs ++ ys)) : Regular xs where
  range := fun a member => regular.range a (List.mem_append_left ys member)
  ordered := regular.ordered.left

/-- On regular arrivals the monitor is a tracker that knows the arrivals. -/
def Faithful (log : List Event) (cm : ClientMonitor) : Prop :=
  Regular (arrivals log) →
    cm.Sound ∧ Tracker.Consistent tolerance delayedFramesTolerance cm.tracker (arrivals log)

theorem faithful_fresh : Faithful [] .fresh := by
  intro _
  refine ⟨⟨?_, ?_, ?_⟩, ?_⟩
  · intro c
    cases c <;> exact .inl rfl
  · intro c t member
    cases c <;> cases member
  · intro c
    cases c <;> decide
  · have start : ClientMonitor.fresh.tracker = Tracker.initial := by
      simp only [ClientMonitor.tracker, Tracker.initial]
      congr 1 <;> funext c <;> cases c <;> rfl
    rw [start]
    exact Tracker.consistent_initial (by decide)

structure SameSyncFields (cm next : ClientMonitor) : Prop where
  forceSync : next.forceSync = cm.forceSync
  synced : next.synced = cm.synced
  lastPic : next.lastPic = cm.lastPic
  stamps : next.stamps = cm.stamps

theorem SameSyncFields.tracker {cm next : ClientMonitor} (same : SameSyncFields cm next) :
    next.tracker = cm.tracker := by
  simp only [ClientMonitor.tracker, same.forceSync, same.synced, same.lastPic, same.stamps]

theorem SameSyncFields.sound {cm next : ClientMonitor} (same : SameSyncFields cm next)
    (sound : cm.Sound) : next.Sound where
  last := by rw [same.lastPic]; exact sound.last
  stamps := by rw [same.stamps]; exact sound.stamps
  short := by rw [same.stamps]; exact sound.short

theorem sameSyncFields_take (cm : ClientMonitor) (rest : List Picture) (c : Cam) :
    SameSyncFields cm (cm.take rest c) := by
  constructor <;> first | (funext d; cases c <;> cases d <;> rfl) | (cases c <;> rfl)

theorem sameSyncFields_setMode (cm : ClientMonitor) (mode : Int32) :
    SameSyncFields cm (cm.setMode mode) := by
  unfold ClientMonitor.setMode
  split <;> constructor <;> rfl

theorem sameSyncFields_setMotionDetected (cm : ClientMonitor) (c : Cam) (detected : Bool) :
    SameSyncFields cm (cm.setMotionDetected c.nbr detected) := by
  unfold ClientMonitor.setMotionDetected
  dsimp only
  repeat' split
  all_goals constructor <;> rfl

theorem tracker_setForcedSync (cm : ClientMonitor) (sync : Bool) :
    (cm.setForcedSync sync).tracker = if sync then cm.tracker.force else cm.tracker := by
  cases sync <;> rfl

theorem faithful_step (log : List Event) (cm : ClientMonitor) (call : Call) (next : ClientMonitor)
    (es : List Event) (faithful : Faithful log cm)
    (taken : cm.step call = some (next, es)) : Faithful (log ++ es) next := by
  intro regular
  rw [arrivals_append] at regular ⊢
  obtain ⟨sound, consistent⟩ := faithful regular.left
  cases call with
  | putPicture now pic c =>
    obtain ⟨done, rfl⟩ := ClientMonitor.step_putPicture taken
    rw [arrivals_put] at *
    have range : InRange (cm.converted now pic c).timeStamp :=
      regular.range (c, (cm.converted now pic c).timeStamp.toInt)
        (List.mem_append_right _ (List.mem_singleton_self _))
    obtain ⟨reached, done', sound', same⟩ := ClientMonitor.tracker_putPicture sound range
    cases done.symm.trans done'
    rw [same]
    exact ⟨sound', Tracker.consistent_arrive (by decide) consistent regular.ordered⟩
  | getPicture c =>
    obtain ⟨pic, rest, _, _, rfl, rfl⟩ := ClientMonitor.step_getPicture taken
    have same := sameSyncFields_take cm rest c
    rw [arrivals_got, List.append_nil, same.tracker]
    exact ⟨same.sound sound, consistent⟩
  | setForcedSync sync =>
    cases taken
    rw [arrivals_nil, List.append_nil, tracker_setForcedSync]
    cases sync with
    | true =>
      exact ⟨⟨sound.last, sound.stamps, sound.short⟩, Tracker.consistent_force consistent⟩
    | false => exact ⟨sound, consistent⟩
  | setMode mode =>
    cases taken
    have same := sameSyncFields_setMode cm mode.code
    rw [arrivals_nil, List.append_nil, same.tracker]
    exact ⟨same.sound sound, consistent⟩
  | setMotionDetected c detected =>
    cases taken
    have same := sameSyncFields_setMotionDetected cm c detected
    rw [arrivals_nil, List.append_nil, same.tracker]
    exact ⟨same.sound sound, consistent⟩

theorem faithful_run {calls : List Call} {cm : ClientMonitor} {log : List Event}
    (ran : run ClientMonitor.step .fresh calls = some (cm, log)) : Faithful log cm :=
  run_invariant ClientMonitor.step (fun _ log cm => Faithful log cm)
    (fun _ log cm call next es => faithful_step log cm call next es) faithful_fresh ran

end NetCam.Client
