import Mathlib.Data.List.Induction
import NetCam.Client.SyncTracking

/-! When `ClientMonitor` loses synchrony, and when it stays synchronous although the
cameras have come apart.
-/

set_option autoImplicit false

namespace NetCam.Client

open Semantics Semantics.Synchrony

/-- A synchronous monitor goes asynchronous at a put exactly when synchrony is not forced
and the last ten pictures of that camera are overdue. -/
theorem putPicture_drops_iff {calls : List Call} {cm next : ClientMonitor} {log es : List Event}
    {now : Int64} {pic : Picture} {c : Cam}
    (ran : run ClientMonitor.step .fresh calls = some (cm, log))
    (taken : cm.step (.putPicture now pic c) = some (next, es))
    (regular : Regular (arrivals (log ++ es))) (synced : cm.synced = true) :
    next.synced = false ↔ cm.forceSync = false ∧
      Overdue tolerance delayedFramesTolerance (arrivals (log ++ es)) c := by
  rw [arrivals_append] at regular ⊢
  obtain ⟨sound, consistent⟩ := faithful_run ran regular.left
  obtain ⟨done, rfl⟩ := ClientMonitor.step_putPicture taken
  rw [arrivals_put] at *
  have range : InRange (cm.converted now pic c).timeStamp :=
    regular.range (c, (cm.converted now pic c).timeStamp.toInt)
      (List.mem_append_right _ (List.mem_singleton_self _))
  obtain ⟨reached, done', _, same⟩ := ClientMonitor.tracker_putPicture sound range
  cases done.symm.trans done'
  have law := Tracker.arrive_drops_iff consistent regular.ordered synced
  rw [← same] at law
  exact law

/-- Losing synchrony is justified by ten late pictures of one camera. -/
theorem loses_sync_only_when_overdue {calls : List Call} {cm next : ClientMonitor}
    {log es : List Event} {now : Int64} {pic : Picture} {c : Cam}
    (ran : run ClientMonitor.step .fresh calls = some (cm, log))
    (taken : cm.step (.putPicture now pic c) = some (next, es))
    (regular : Regular (arrivals (log ++ es)))
    (before : cm.synced = true) (after : next.synced = false) :
    cm.forceSync = false ∧ Overdue tolerance delayedFramesTolerance (arrivals (log ++ es)) c :=
  (putPicture_drops_iff ran taken regular before).mp after

def startTogether : List Call :=
  [.putPicture 1000 ⟨[], 0⟩ .one, .putPicture 1000 ⟨[], 0⟩ .two]

def ahead (k : Nat) : Call := .putPicture 0 ⟨[], 4000 + Int64.ofNat k⟩ .two

theorem loses_sync_after_ten : ∃ cm next log es,
    run ClientMonitor.step .fresh (startTogether ++ (List.range 9).map ahead) = some (cm, log) ∧
      cm.step (ahead 9) = some (next, es) ∧ cm.synced = true ∧ next.synced = false ∧
      cm.forceSync = false ∧
      Overdue tolerance delayedFramesTolerance (arrivals (log ++ es)) .two := by
  obtain ⟨free, overdue⟩ := @loses_sync_only_when_overdue
    (startTogether ++ (List.range 9).map ahead) _ _ _ _ 0 ⟨[], 4009⟩ .two rfl rfl
    ⟨by decide, by intro c; cases c <;> decide⟩ rfl rfl
  exact ⟨_, _, _, _, rfl, rfl, rfl, rfl, free, overdue⟩

def Call.isPut : Call → Bool
  | .putPicture .. => true
  | _ => false

theorem Call.eq_put {call : Call} (put : call.isPut) :
    ∃ now pic c, call = .putPicture now pic c := by
  cases call with
  | putPicture now pic c => exact ⟨now, pic, c, rfl⟩
  | _ => cases put

theorem forceSync_of_puts {puts : List Call} (only : ∀ call ∈ puts, call.isPut)
    {cm next : ClientMonitor} {log : List Event}
    (ran : run ClientMonitor.step cm puts = some (next, log)) : next.forceSync = cm.forceSync := by
  refine run_preserves_of_guarded ClientMonitor.step (fun _ call => call.isPut)
    (fun t => t.forceSync = cm.forceSync) ?_ rfl
    (guarded_of_forall ClientMonitor.step (fun call member _ => only call member) cm) ran
  intro before call after _ same put taken
  obtain ⟨now, pic, c, rfl⟩ := Call.eq_put put
  obtain ⟨done, _⟩ := ClientMonitor.step_putPicture taken
  rw [(ClientMonitor.putPicture_stores done).forceSync, ClientMonitor.store_forceSync, same]

/-- Over a continuation of puts, synchrony is lost at some point exactly when at some
point ten pictures of one camera are overdue. A picture that is older than the other
camera's newest one starts the count again for both cameras. -/
theorem desync_detected_iff {calls puts : List Call} {cm last : ClientMonitor}
    {log more : List Event} (ran : run ClientMonitor.step .fresh calls = some (cm, log))
    (synced : cm.synced = true) (free : cm.forceSync = false) (only : ∀ call ∈ puts, call.isPut)
    (continued : run ClientMonitor.step cm puts = some (last, more))
    (regular : Regular (arrivals (log ++ more))) :
    (∃ part t es, part <+: puts ∧ run ClientMonitor.step cm part = some (t, es) ∧
        t.synced = false) ↔
      ∃ part now pic c t es, part ++ [Call.putPicture now pic c] <+: puts ∧
        run ClientMonitor.step cm (part ++ [Call.putPicture now pic c]) = some (t, es) ∧
        Overdue tolerance delayedFramesTolerance (arrivals (log ++ es)) c := by
  -- every initial part of the continuation has run, on regular arrivals
  have early : ∀ part t es, part <+: puts → run ClientMonitor.step cm part = some (t, es) →
      run ClientMonitor.step .fresh (calls ++ part) = some (t, log ++ es) ∧
        Regular (arrivals (log ++ es)) ∧ t.forceSync = false := by
    rintro part t es ⟨rest, rfl⟩ ranPart
    obtain ⟨_, _, later, ranPart', _, rfl⟩ := (run_append_iff ClientMonitor.step).mp continued
    cases ranPart.symm.trans ranPart'
    rw [← List.append_assoc, arrivals_append] at regular
    refine ⟨(run_append_iff ClientMonitor.step).mpr ⟨cm, log, es, ran, ranPart, rfl⟩,
      regular.left, ?_⟩
    rw [forceSync_of_puts (fun call member => only call (List.mem_append_left _ member)) ranPart]
    exact free
  constructor
  · rintro ⟨part, t, es, isPart, ranPart, lost⟩
    -- induction on the length of the part: the loss happened at its last put or before
    induction part using List.reverseRecOn generalizing t es with
    | nil =>
      cases ranPart
      rw [synced] at lost
      cases lost
    | append_singleton part call ih =>
      obtain ⟨u, es₁, es₂, ranU, taken, rfl⟩ := (run_append_iff ClientMonitor.step).mp ranPart
      rw [run_singleton_iff] at taken
      have isPart' : part <+: puts := (List.prefix_append part [call]).trans isPart
      cases before : u.synced with
      | false => exact ih u es₁ isPart' ranU before
      | true =>
        obtain ⟨now, pic, c, rfl⟩ := Call.eq_put (only call (isPart.subset (by simp)))
        obtain ⟨ranAll, _, _⟩ := early part u es₁ isPart' ranU
        obtain ⟨_, regular', _⟩ := early _ t (es₁ ++ es₂) isPart ranPart
        rw [← List.append_assoc] at regular'
        obtain ⟨_, overdue⟩ := (putPicture_drops_iff ranAll taken regular' before).mp lost
        rw [List.append_assoc] at overdue
        exact ⟨part, now, pic, c, t, es₁ ++ es₂, isPart, ranPart, overdue⟩
  · rintro ⟨part, now, pic, c, t, es, isPart, ranPart, overdue⟩
    obtain ⟨u, es₁, es₂, ranU, taken, rfl⟩ := (run_append_iff ClientMonitor.step).mp ranPart
    rw [run_singleton_iff] at taken
    have isPart' : part <+: puts := (List.prefix_append part _).trans isPart
    cases before : u.synced with
    | false => exact ⟨part, u, es₁, isPart', ranU, before⟩
    | true =>
      obtain ⟨ranAll, _, free'⟩ := early part u es₁ isPart' ranU
      obtain ⟨_, regular', _⟩ := early _ t (es₁ ++ es₂) isPart ranPart
      rw [← List.append_assoc] at regular' overdue
      exact ⟨_, t, es₁ ++ es₂, isPart, ranPart,
        (putPicture_drops_iff ranAll taken regular' before).mpr ⟨free', overdue⟩⟩

theorem desync_detected_when_silent : ∃ cm log part now pic c t es,
    run ClientMonitor.step .fresh startTogether = some (cm, log) ∧
      part ++ [Call.putPicture now pic c] <+: (List.range 20).map ahead ∧
      run ClientMonitor.step cm (part ++ [Call.putPicture now pic c]) = some (t, es) ∧
      Overdue tolerance delayedFramesTolerance (arrivals (log ++ es)) c := by
  obtain ⟨part, now, pic, c, t, es, isPart, ranPart, overdue⟩ := (desync_detected_iff
    (show run ClientMonitor.step .fresh startTogether = some (_, _) from rfl) rfl rfl
    (show ∀ call ∈ (List.range 20).map ahead, call.isPut from by decide) rfl ⟨by decide, by intro c; cases c <;> decide⟩).mp
    ⟨(List.range 10).map ahead, _, _, ⟨(List.range' 10 10).map ahead, rfl⟩, rfl, rfl⟩
  exact ⟨_, _, part, now, pic, c, t, es, rfl, isPart, ranPart, overdue⟩

def Apart (history : List (Cam × Int)) (a : Cam × Int) : Prop :=
  ∀ o ∈ newest history (peer a.1), a.2 + 200 < o ∨ o + 200 < a.2

instance (history : List (Cam × Int)) (a : Cam × Int) : Decidable (Apart history a) :=
  inferInstanceAs (Decidable (∀ o ∈ newest history (peer a.1), a.2 + 200 < o ∨ o + 200 < a.2))

def alternating : List Call :=
  (List.range 10).flatMap fun k => [ahead k, .putPicture 0 ⟨[], 1 + Int64.ofNat k⟩ .one]

theorem desync_missed : ∃ cm last log more,
    run ClientMonitor.step .fresh startTogether = some (cm, log) ∧
      cm.synced = true ∧ cm.forceSync = false ∧
      alternating.length = 20 ∧ (∀ call ∈ alternating, call.isPut) ∧
      run ClientMonitor.step cm alternating = some (last, more) ∧
      Regular (arrivals (log ++ more)) ∧ EachArrival Apart (arrivals log) (arrivals more) ∧
      Always ClientMonitor.step (fun t => t.synced = true) cm alternating :=
  ⟨_, _, _, _, rfl, rfl, rfl, rfl, by decide, rfl,
    ⟨by decide, by intro c; cases c <;> decide⟩, by decide, by decide⟩

end NetCam.Client
