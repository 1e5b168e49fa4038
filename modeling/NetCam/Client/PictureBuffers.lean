import Mathlib.Data.List.Induction
import NetCam.Client.Calls

/-! The availability flags of `ClientMonitor` against the buffers they stand for.

`putPicture` raises a camera's flag and `getPicture` lowers it whatever is left, so the
flag agrees with the buffer only as long as no picture waits behind another one.
-/

set_option autoImplicit false

namespace NetCam.Client

open Semantics

namespace ClientMonitor

def Mirrored (cm : ClientMonitor) : Prop := ∀ c, cm.available c = true ↔ cm.buffer c ≠ []

def BlocksIffEmpty (cm : ClientMonitor) : Prop :=
  ∀ c, cm.getPicture c.nbr = .error .waits ↔ cm.buffer c = []

theorem blocksIffEmpty_iff (cm : ClientMonitor) : cm.BlocksIffEmpty ↔ cm.Mirrored := by
  apply forall_congr'
  intro c
  rw [getPicture_waits_iff]
  cases cm.available c <;> simp

/-- The guard of the exact condition: a picture is taken only when none waits behind it. -/
def TakesLast (cm : ClientMonitor) : Call → Prop
  | .getPicture c => (cm.buffer c).length ≤ 1
  | _ => True

theorem mirrored_fresh : fresh.Mirrored := by
  intro c
  cases c <;> simp [fresh, setSynced, setMode, available, buffer]

theorem mirrored_take_iff {cm : ClientMonitor} (mirrored : cm.Mirrored) {c : Cam} {pic : Picture}
    {rest : List Picture} (held : cm.buffer c = pic :: rest) :
    (cm.take rest c).Mirrored ↔ cm.TakesLast (.getPicture c) := by
  have last : cm.TakesLast (.getPicture c) ↔ rest = [] := by
    simp [TakesLast, held, List.length_eq_zero_iff]
  rw [last]
  constructor
  -- the flag is down now, so the buffer has to be empty
  · intro after
    have own := after c
    rw [take_available, take_buffer, Function.update_self, Function.update_self] at own
    by_contra more
    exact Bool.false_ne_true (own.mpr more)
  · rintro rfl d
    rw [take_available, take_buffer]
    rcases eq_or_ne d c with rfl | differ
    · simp
    · rw [Function.update_of_ne differ, Function.update_of_ne differ]
      exact mirrored d

theorem mirrored_step_iff {cm next : ClientMonitor} {call : Call} {es : List Event}
    (mirrored : cm.Mirrored) (taken : cm.step call = some (next, es)) :
    next.Mirrored ↔ cm.TakesLast call := by
  cases call with
  | putPicture now pic c =>
    obtain ⟨done, rfl⟩ := step_putPicture taken
    obtain ⟨buffer, available⟩ := put_buffer done
    refine iff_of_true ?_ trivial
    intro d
    rw [buffer, available]
    rcases eq_or_ne d c with rfl | differ
    · simp
    · rw [Function.update_of_ne differ, Function.update_of_ne differ]
      exact mirrored d
  | getPicture c =>
    obtain ⟨pic, rest, _, held, rfl, rfl⟩ := step_getPicture taken
    exact mirrored_take_iff mirrored held
  | setForcedSync _ | setMode _ | setMotionDetected _ _ =>
    obtain ⟨_, buffer, available⟩ := step_keeps_queues taken (by simp) (by simp)
    refine iff_of_true ?_ trivial
    intro d
    rw [buffer, available]
    exact mirrored d

theorem takesLast_of_stuck {cm : ClientMonitor} {call : Call} (mirrored : cm.Mirrored)
    (stuck : cm.step call = none) : cm.TakesLast call := by
  cases call with
  | getPicture c =>
    cases held : cm.buffer c with
    | nil => simp [TakesLast, held]
    | cons pic rest =>
      have up : cm.available c = true := (mirrored c).mpr (by simp [held])
      have got : cm.getPicture c.nbr = .ok (pic, cm.take rest c) :=
        getPicture_ok_iff.mpr ⟨up, rest, held, rfl⟩
      simp [step, got] at stuck
  | _ => trivial

def burst (c : Cam) (pics : List (Int64 × Picture)) : List Call :=
  pics.map (fun p => .putPicture p.1 p.2 c) ++ List.replicate pics.length (.getPicture c)

def Drains (cm : ClientMonitor) (c : Cam) (pics : List (Int64 × Picture)) : Prop :=
  (run step cm (burst c pics)).isSome = true

theorem run_puts (cm : ClientMonitor) (c : Cam) (pics : List (Int64 × Picture)) :
    ∃ next es, run step cm (pics.map fun p => .putPicture p.1 p.2 c) = some (next, es) ∧
      (next.buffer c).length = (cm.buffer c).length + pics.length ∧
      (pics ≠ [] → next.available c = true) := by
  induction pics using List.reverseRecOn with
  | nil => exact ⟨cm, [], rfl, rfl, by simp⟩
  | append_singleton pics p ih =>
    obtain ⟨middle, es, ran, length, _⟩ := ih
    obtain ⟨next, done⟩ := putPicture_ok middle p.1 p.2 c
    obtain ⟨buffer, available⟩ := put_buffer done
    refine ⟨next, es ++ [.put c (next.lastPic c)], ?_, ?_, ?_⟩
    · rw [List.map_append]
      refine (run_append_iff step).mpr ⟨middle, es, _, ran, (run_singleton_iff step).mpr ?_, rfl⟩
      simp only [step, done]
    · rw [buffer, Function.update_self]
      simp only [List.length_append, List.length_singleton, length]
      omega
    · intro _
      rw [available, Function.update_self]

/-- A burst into an empty buffer can be drained without waiting only if it is no burst. -/
theorem drains_iff (cm : ClientMonitor) (c : Cam) (pics : List (Int64 × Picture))
    (empty : cm.buffer c = []) : cm.Drains c pics ↔ pics.length ≤ 1 := by
  obtain ⟨full, es, ran, length, up⟩ := run_puts cm c pics
  rw [empty, List.length_nil, Nat.zero_add] at length
  have split : cm.Drains c pics ↔
      (run step full (List.replicate pics.length (.getPicture c))).isSome = true := by
    rw [Drains, burst]
    constructor
    · intro drained
      obtain ⟨⟨last, log⟩, whole⟩ := Option.isSome_iff_exists.mp drained
      obtain ⟨_, _, fs, ran', rest, _⟩ := (run_append_iff step).mp whole
      cases ran.symm.trans ran'
      rw [rest]
      rfl
    · intro drained
      obtain ⟨⟨last, fs⟩, rest⟩ := Option.isSome_iff_exists.mp drained
      rw [(run_append_iff step).mpr ⟨full, es, fs, ran, rest, rfl⟩]
      rfl
  rw [split]
  match pics, length, up with
  | [], _, _ => simp
  | [p], length, up =>
    obtain ⟨pic, held⟩ := List.length_eq_one_iff.mp length
    have got := getPicture_ok_iff.mpr ⟨up (by simp), [], held, rfl⟩
    simp [run, step, got]
  | p :: q :: more, length, up =>
    -- the first take lowers the flag in front of the second
    refine iff_of_false ?_ (by simp)
    cases held : full.buffer c with
    | nil => rw [held] at length; cases length
    | cons pic rest =>
      have got := getPicture_ok_iff.mpr ⟨up (by simp), rest, held, rfl⟩
      have down : (full.take rest c).getPicture c.nbr = .error .waits := by
        rw [getPicture_waits_iff, take_available, Function.update_self]
      simp [List.replicate_succ, run, step, got, down]

end ClientMonitor

open ClientMonitor

/-- Blocking agrees with emptiness in every state of a run exactly when no picture is ever
taken in front of another one; and a burst drains without waiting only if it is a
single picture. -/
theorem blocks_iff_empty_iff (calls : List Call) :
    (Always ClientMonitor.step BlocksIffEmpty .fresh calls ↔
      Guarded ClientMonitor.step TakesLast .fresh calls) ∧
    ∀ (cm : ClientMonitor) (c : Cam) (pics : List (Int64 × Picture)),
      cm.buffer c = [] → (cm.Drains c pics ↔ pics.length ≤ 1) := by
  refine ⟨?_, drains_iff⟩
  apply always_iff_guarded
  · intro cm call blocks stuck
    exact takesLast_of_stuck ((blocksIffEmpty_iff cm).mp blocks) stuck
  · intro cm call next es blocks taken
    rw [blocksIffEmpty_iff]
    exact mirrored_step_iff ((blocksIffEmpty_iff cm).mp blocks) taken
  · exact (blocksIffEmpty_iff _).mpr mirrored_fresh

theorem single_picture_drains :
    ClientMonitor.fresh.Drains .one [(1000, ⟨[], 0⟩)] :=
  ((blocks_iff_empty_iff []).2 .fresh .one [(1000, ⟨[], 0⟩)] rfl).mpr (by decide)

/-- Two pictures, one taken: the second is in the buffer and `getPicture` waits. -/
theorem buffered_picture_blocks : ∃ cm log,
    run ClientMonitor.step .fresh
        [.putPicture 1000 ⟨[], 0⟩ .one, .putPicture 1040 ⟨[], 40⟩ .one, .getPicture .one] =
      some (cm, log) ∧
      cm.getPicture Cam.one.nbr = .error .waits ∧ cm.buffer .one = [⟨[], 1040⟩] :=
  ⟨_, _, rfl, rfl, rfl⟩

end NetCam.Client
