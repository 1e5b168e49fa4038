import Mathlib.Data.List.DropRight
import NetCam.Client.DelayLabels

/-! The delay labels over whole runs.

What the labels are for is said with all the samples that a camera has had since it was last
shown in idle mode. The lists of `DisplayMonitor` hold the end of them that is needed.
-/

set_option autoImplicit false

namespace NetCam.Client

open Semantics

structure History where
  mode : Int32
  timeOfStart : Int64
  shown : Int64
  samples : Cam → List Int64

namespace History

def fresh : History := { mode := 0, timeOfStart := -1, shown := 0, samples := fun _ => [] }

/-- An idle camera shows its last sample and begins anew. Another one shows the average of at
most the last 180, as it was when the window of two seconds last passed. -/
def step : Step History LabelCall (Cam × Int64)
  | h, .setMode mode => some ({ h with mode := mode }, [])
  | h, .update c clock pic =>
    let sample := clock.sampled - pic.timeStamp
    let start := if h.timeOfStart = -1 then clock.started else h.timeOfStart
    if h.mode = MODE_IDLE then
      some ({ h with timeOfStart := start, samples := Function.update h.samples c [] }, [(c, sample)])
    else
      let samples := h.samples c ++ [sample]
      let h := { h with samples := Function.update h.samples c samples }
      if clock.checked - start ≥ 2000 then
        let shown := DisplayMonitor.average (samples.rtake 180)
        some ({ h with timeOfStart := -1, shown := shown }, [(c, shown)])
      else some ({ h with timeOfStart := start }, [(c, h.shown)])

end History

section Trim

variable {α : Type} {n : Nat}

theorem length_rtake {l : List α} (long : n ≤ l.length) : (l.rtake n).length = n := by
  unfold List.rtake
  rw [List.length_drop]
  omega

theorem rtake_of_le {l : List α} (short : l.length ≤ n) : l.rtake n = l := by
  unfold List.rtake
  rw [Nat.sub_eq_zero_of_le short, List.drop_zero]

theorem trim_rtake (samples : List α) (sample : α) :
    (let rolling := samples.rtake (n + 1) ++ [sample]
      if rolling.length ≥ n + 2 then rolling.tail else rolling) = (samples ++ [sample]).rtake (n + 1) := by
  rw [List.rtake_concat_succ]
  dsimp only
  by_cases full : n + 1 ≤ samples.length
  · have shorter : samples.rtake n = (samples.rtake (n + 1)).tail := by
      rw [List.rtake, List.rtake, List.tail_drop]
      congr 1
      omega
    have length := length_rtake full
    have count : (samples.rtake (n + 1) ++ [sample]).length ≥ n + 2 := by
      rw [List.length_append, length]
      exact Nat.le_refl (n + 2)
    rw [if_pos count, shorter, List.tail_append_of_ne_nil (List.ne_nil_of_length_pos (by omega))]
  · have count : ¬ (samples ++ [sample]).length ≥ n + 2 := by
      rw [List.length_append, List.length_singleton]
      omega
    rw [rtake_of_le (by omega), if_neg count, rtake_of_le (by omega)]

end Trim

namespace Labelling

structure Holds (s : Labelling) (h : History) : Prop where
  unsynced : s.displayMonitor.isSynced = false
  mode : s.displayMonitor.mode = h.mode
  timeOfStart : s.displayMonitor.timeOfStart = h.timeOfStart
  shown : s.displayMonitor.currentAverageDelay = h.shown
  rolling : ∀ c, s.displayMonitor.rollingTimestampAverage c = (h.samples c).rtake 179

variable {s t : Labelling} {h : History} {es : List (Cam × Int64)}

theorem Holds.idle (holds : Holds s h) {c : Cam} {clock : Readings} {pic : Picture} {label : Int64}
    (updated : Updated s c clock pic t label) (idle : h.mode = MODE_IDLE) :
    ∃ g, History.step h (.update c clock pic) = some (g, [(c, label)]) ∧ Holds t g := by
  have quiet : s.displayMonitor.mode = MODE_IDLE := holds.mode.trans idle
  have same : ¬ s.displayMonitor.Recomputes clock.started clock.checked := fun busy => busy.1 quiet
  have start := updated.timeOfStart
  have average := updated.average
  have shows := updated.label
  have own := updated.own
  rw [if_neg same] at start average
  rw [if_pos quiet] at shows own
  refine ⟨{ h with
      timeOfStart := if h.timeOfStart = -1 then clock.started else h.timeOfStart
      samples := Function.update h.samples c [] },
    by simp only [History.step, if_pos idle, shows], updated.isSynced, ?_, ?_, ?_, ?_⟩
  · exact updated.mode.trans holds.mode
  · rw [start, DisplayMonitor.windowStart, holds.timeOfStart]
  · exact average.trans holds.shown
  · intro d
    dsimp only
    by_cases same : d = c
    · rw [same, own, Function.update_self]
      rfl
    · rw [updated.others d same, holds.rolling d, Function.update_of_ne same]

theorem Holds.busy (holds : Holds s h) {c : Cam} {clock : Readings} {pic : Picture} {label : Int64}
    (updated : Updated s c clock pic t label) (busy : h.mode ≠ MODE_IDLE) :
    ∃ g, History.step h (.update c clock pic) = some (g, [(c, label)]) ∧ Holds t g := by
  have active : s.displayMonitor.mode ≠ MODE_IDLE := fun idle => busy (holds.mode.symm.trans idle)
  have start := updated.timeOfStart
  have average := updated.average
  have shows := updated.label
  have own := updated.own
  rw [if_neg active] at shows own
  rw [holds.rolling c] at average own
  have trimmed := @trim_rtake _ 178 (h.samples c) (clock.sampled - pic.timeStamp)
  rw [trimmed] at own
  have added : (h.samples c).rtake 179 ++ [clock.sampled - pic.timeStamp] =
      (h.samples c ++ [clock.sampled - pic.timeStamp]).rtake 180 := (List.rtake_concat_succ ..).symm
  rw [added] at average
  -- the fields and the history have the same start of the window
  have recomputes : s.displayMonitor.Recomputes clock.started clock.checked ↔
      clock.checked - (if h.timeOfStart = -1 then clock.started else h.timeOfStart) ≥ 2000 := by
    unfold DisplayMonitor.Recomputes DisplayMonitor.windowStart
    rw [holds.timeOfStart, and_iff_right active]
  have rolling : ∀ d, t.displayMonitor.rollingTimestampAverage d =
      (Function.update h.samples c (h.samples c ++ [clock.sampled - pic.timeStamp]) d).rtake 179 := by
    intro d
    by_cases same : d = c
    · rw [same, own, Function.update_self]
    · rw [updated.others d same, holds.rolling d, Function.update_of_ne same]
  by_cases passed : s.displayMonitor.Recomputes clock.started clock.checked
  · rw [if_pos passed] at start average
    refine ⟨{ h with
        timeOfStart := -1
        shown := DisplayMonitor.average ((h.samples c ++ [clock.sampled - pic.timeStamp]).rtake 180)
        samples := Function.update h.samples c (h.samples c ++ [clock.sampled - pic.timeStamp]) },
      by simp only [History.step, if_neg busy, if_pos (recomputes.mp passed), shows, average],
      updated.isSynced, updated.mode.trans holds.mode, start, ?_, rolling⟩
    dsimp only
    rw [average]
  · rw [if_neg passed] at start average
    refine ⟨{ h with
        timeOfStart := if h.timeOfStart = -1 then clock.started else h.timeOfStart
        samples := Function.update h.samples c (h.samples c ++ [clock.sampled - pic.timeStamp]) },
      by simp only [History.step, if_neg busy, if_neg (mt recomputes.mpr passed), shows, average, holds.shown],
      updated.isSynced, updated.mode.trans holds.mode, ?_, average.trans holds.shown, rolling⟩
    rw [start, DisplayMonitor.windowStart, holds.timeOfStart]

end Labelling

end NetCam.Client
