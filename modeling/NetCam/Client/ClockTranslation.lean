import NetCam.Client.SyncTracking

/-! Camera clocks translated to the client's clock.

A camera's first picture fixes its baseline, the difference of the two clocks at its
arrival. Zero stands for a baseline that is not set and for the time stamp of no picture;
with a clock beyond 2^33 and raw time stamps of 32 bits neither is ever zero by accident.
-/

set_option autoImplicit false

namespace NetCam.Client

open Semantics Semantics.Synchrony

structure Delivery where
  now : Int
  raw : Int
  deriving DecidableEq, Repr

def deliveryOf (c : Cam) : Call → Option Delivery
  | .putPicture now pic d => if d = c then some ⟨now.toInt, pic.timeStamp.toInt⟩ else none
  | _ => none

def deliveries (c : Cam) (calls : List Call) : List Delivery := calls.filterMap (deliveryOf c)

def shift : List Delivery → Int
  | [] => 0
  | first :: _ => first.now - first.raw

/-- Raw time stamps are of 32 bits, and the clock is between 2^33 and 2^62 ms. -/
def Ordinary : Call → Prop
  | .putPicture now pic _ =>
    (∃ raw : Int32, pic.timeStamp = raw.toInt64) ∧ 2 ^ 33 ≤ now.toInt ∧ now.toInt ≤ 2 ^ 62
  | _ => True

/-- Every picture of the camera is moved by the same shift, its own. -/
structure Translated (calls : List Call) (log : List Event) (cm : ClientMonitor) (c : Cam) : Prop where
  stamps : stampsOf (arrivals log) c =
    (deliveries c calls).map fun d => d.raw + shift (deliveries c calls)
  baseline : (cm.baseline c).toInt = shift (deliveries c calls)
  last : (cm.lastPic c).timeStamp.toInt = (stampsOf (arrivals log) c).getLast?.getD 0

section Deliveries

variable {c : Cam} {calls : List Call} {ds : List Delivery}

theorem deliveries_concat_of_quiet {call : Call} (quiet : deliveryOf c call = none) :
    deliveries c (calls ++ [call]) = deliveries c calls := by
  simp [deliveries, quiet]

theorem deliveries_concat_put (now : Int64) (pic : Picture) :
    deliveries c (calls ++ [.putPicture now pic c]) =
      deliveries c calls ++ [⟨now.toInt, pic.timeStamp.toInt⟩] := by
  simp [deliveries, deliveryOf]

theorem shift_concat (first : Delivery) (rest : List Delivery) (d : Delivery) :
    shift (first :: rest ++ [d]) = shift (first :: rest) := rfl

theorem raw_range {d : Delivery} (ordinary : ∀ call ∈ calls, Ordinary call)
    (member : d ∈ deliveries c calls) :
    (-2 ^ 31 ≤ d.raw ∧ d.raw < 2 ^ 31) ∧ 2 ^ 33 ≤ d.now ∧ d.now ≤ 2 ^ 62 := by
  obtain ⟨call, asked, found⟩ := List.mem_filterMap.mp member
  have ranged := ordinary call asked
  cases call with
  | putPicture now pic e =>
    simp only [deliveryOf] at found
    split at found
    · cases found
      obtain ⟨⟨raw, same⟩, clock⟩ := ranged
      rw [same, Int32.toInt_toInt64]
      exact ⟨⟨raw.le_toInt, raw.toInt_lt⟩, clock⟩
    · cases found
  | _ => cases found

theorem shift_range (ordinary : ∀ call ∈ calls, Ordinary call) (some_put : deliveries c calls ≠ []) :
    2 ^ 32 < shift (deliveries c calls) ∧ shift (deliveries c calls) < 2 ^ 62 + 2 ^ 32 := by
  obtain ⟨first, rest, found⟩ := List.exists_cons_of_ne_nil some_put
  have range := @raw_range c calls first ordinary (by rw [found]; exact List.mem_cons_self)
  rw [found, shift]
  omega

end Deliveries

theorem deliveryOf_put_of_ne {c d : Cam} (differ : d ≠ c) (now : Int64) (pic : Picture) :
    deliveryOf c (.putPicture now pic d) = none := by
  simp [deliveryOf, differ]

theorem Translated.keep {calls : List Call} {log es : List Event} {cm next : ClientMonitor} {c : Cam}
    {call : Call} (known : Translated calls log cm c) (quiet : deliveryOf c call = none)
    (silent : stampsOf (arrivals es) c = []) (baseline : next.baseline c = cm.baseline c)
    (last : next.lastPic c = cm.lastPic c) : Translated (calls ++ [call]) (log ++ es) next c where
  stamps := by
    rw [arrivals_append, stampsOf_append, silent, List.append_nil, deliveries_concat_of_quiet quiet]
    exact known.stamps
  baseline := by
    rw [baseline, deliveries_concat_of_quiet quiet]
    exact known.baseline
  last := by
    rw [last, arrivals_append, stampsOf_append, silent, List.append_nil]
    exact known.last

theorem translated_fresh (c : Cam) : Translated [] [] .fresh c where
  stamps := rfl
  baseline := by cases c <;> rfl
  last := by cases c <;> rfl

theorem baselineFor_toInt {calls : List Call} {log : List Event} {cm : ClientMonitor} {c : Cam}
    {now : Int64} {pic : Picture} (known : Translated calls log cm c)
    (ordinary : ∀ call ∈ calls ++ [.putPicture now pic c], Ordinary call) :
    (cm.baselineFor now pic c).toInt = shift (deliveries c (calls ++ [.putPicture now pic c])) := by
  have base := known.baseline
  unfold ClientMonitor.baselineFor
  cases found : deliveries c calls with
  | nil =>
    rw [found] at base
    have unset : cm.baseline c = 0 := Int64.toInt_inj.mp base
    have range := @raw_range c _ ⟨now.toInt, pic.timeStamp.toInt⟩ ordinary
      (by rw [deliveries_concat_put]; simp)
    dsimp only at range
    rw [if_pos unset, deliveries_concat_put, found, List.nil_append, Int64.toInt_sub, Int.bmod_def]
    change _ = now.toInt - pic.timeStamp.toInt
    omega
  | cons first rest =>
    have range := @shift_range c calls (fun call member => ordinary call (List.mem_append_left _ member))
      (by rw [found]; simp)
    have set : cm.baseline c ≠ 0 := by
      intro unset
      rw [unset, Int64.toInt_zero] at base
      omega
    rw [if_neg set, deliveries_concat_put, found, shift_concat, ← found]
    exact base

/-- Nothing overflows when the picture is converted. -/
theorem converted_toInt {calls : List Call} {log : List Event} {cm : ClientMonitor} {c : Cam}
    {now : Int64} {pic : Picture} (known : Translated calls log cm c)
    (ordinary : ∀ call ∈ calls ++ [.putPicture now pic c], Ordinary call) :
    (cm.converted now pic c).timeStamp.toInt =
      pic.timeStamp.toInt + shift (deliveries c (calls ++ [.putPicture now pic c])) := by
  have base := baselineFor_toInt known ordinary
  have range := @shift_range c _ ordinary (by rw [deliveries_concat_put]; simp)
  have raw := @raw_range c _ ⟨now.toInt, pic.timeStamp.toInt⟩ ordinary
    (by rw [deliveries_concat_put]; simp)
  unfold ClientMonitor.converted Picture.convertToJavaTime
  rw [Int64.toInt_add, base, Int.bmod_def]
  dsimp only at raw
  omega

theorem translated_put {calls : List Call} {log : List Event} {cm next : ClientMonitor} {c : Cam}
    {now : Int64} {pic : Picture} (known : Translated calls log cm c)
    (ordinary : ∀ call ∈ calls ++ [.putPicture now pic c], Ordinary call)
    (done : cm.putPicture now pic c.nbr = .ok next) :
    Translated (calls ++ [.putPicture now pic c]) (log ++ [.put c (cm.converted now pic c)]) next c := by
  have stored := ClientMonitor.putPicture_stores done
  have base := baselineFor_toInt known ordinary
  have stamp := converted_toInt known ordinary
  refine ⟨?_, ?_, ?_⟩
  · rw [arrivals_append, stampsOf_append, arrivals_put, stampsOf_cons_self, stampsOf_nil, stamp,
      known.stamps, deliveries_concat_put]
    cases deliveries c calls with
    | nil => rfl
    | cons first rest =>
      rw [shift_concat, List.map_append]
      rfl
  · rw [stored.baseline, ClientMonitor.store_baseline, Function.update_self]
    exact base
  · rw [ClientMonitor.lastPic_putPicture done, arrivals_append, arrivals_put, stampsOf_append,
      stampsOf_cons_self]
    simp

theorem translated_step (calls : List Call) (log : List Event) (cm : ClientMonitor) (call : Call)
    (next : ClientMonitor) (es : List Event)
    (known : (∀ call ∈ calls, Ordinary call) → ∀ c, Translated calls log cm c)
    (taken : cm.step call = some (next, es)) :
    (∀ call' ∈ calls ++ [call], Ordinary call') → ∀ c, Translated (calls ++ [call]) (log ++ es) next c := by
  intro ordinary c
  have before := known (fun earlier member => ordinary earlier (List.mem_append_left _ member)) c
  cases call with
  | putPicture now pic d =>
    obtain ⟨done, rfl⟩ := ClientMonitor.step_putPicture taken
    rcases eq_or_ne d c with rfl | differ
    · exact translated_put before ordinary done
    · have stored := ClientMonitor.putPicture_stores done
      refine before.keep (deliveryOf_put_of_ne differ now pic) ?_ ?_ ?_
      · rw [arrivals_put, stampsOf_cons_of_ne differ, stampsOf_nil]
      · rw [stored.baseline, ClientMonitor.store_baseline, Function.update_of_ne differ.symm]
      · rw [stored.lastPic, ClientMonitor.store_lastPic, Function.update_of_ne differ.symm]
  | getPicture d =>
    have same := ClientMonitor.step_keeps_pictures taken (by simp)
    obtain ⟨pic, rest, _, _, _, rfl⟩ := ClientMonitor.step_getPicture taken
    exact before.keep rfl rfl (by rw [same.1]) (by rw [same.2])
  | setForcedSync _ | setMode _ | setMotionDetected _ _ =>
    have same := ClientMonitor.step_keeps_pictures taken (by simp)
    cases taken
    exact before.keep rfl rfl (by rw [same.1]) (by rw [same.2])

theorem Translated.baseline_eq_zero_iff {calls : List Call} {log : List Event} {cm : ClientMonitor} {c : Cam}
    (known : Translated calls log cm c) (ordinary : ∀ call ∈ calls, Ordinary call) :
    cm.baseline c = 0 ↔ deliveries c calls = [] := by
  have base := known.baseline
  constructor
  · intro unset
    by_contra some_put
    have range := shift_range ordinary some_put
    rw [unset, Int64.toInt_zero] at base
    omega
  · intro none_put
    rw [none_put] at base
    exact Int64.toInt_inj.mp base

theorem Translated.last_eq_zero_iff {calls : List Call} {log : List Event} {cm : ClientMonitor} {c : Cam}
    (known : Translated calls log cm c) (ordinary : ∀ call ∈ calls, Ordinary call) :
    (cm.lastPic c).timeStamp = 0 ↔ deliveries c calls = [] := by
  have last := known.last
  rw [known.stamps, List.getLast?_map] at last
  rcases List.eq_nil_or_concat' (deliveries c calls) with none_put | ⟨earlier, d, found⟩
  · rw [none_put] at last
    exact iff_of_true (Int64.toInt_inj.mp last) none_put
  · have some_put : deliveries c calls ≠ [] := by simp [found]
    have range := shift_range ordinary some_put
    have raw := @raw_range c calls d ordinary (by simp [found])
    have newest : (deliveries c calls).getLast? = some d := by simp [found]
    rw [newest] at last
    refine iff_of_false ?_ some_put
    intro unset
    rw [unset, Int64.toInt_zero] at last
    simp only [Option.map_some, Option.getD_some] at last
    omega

theorem Translated.first {calls : List Call} {log : List Event} {cm : ClientMonitor} {c : Cam}
    (known : Translated calls log cm c) :
    (stampsOf (arrivals log) c).head? = (deliveries c calls).head?.map Delivery.now := by
  rw [known.stamps]
  cases deliveries c calls with
  | nil => rfl
  | cons first rest =>
    have back : first.raw + (first.now - first.raw) = first.now := by omega
    simp [shift, back]

/-- The first picture of a camera is stamped with the clock at its arrival, all others keep their
distance from it, and each camera has its own baseline. Zero stands for no picture in
baseline and time stamp, so sync is checked exactly when the other camera has delivered. -/
theorem clock_translation {calls : List Call} {cm : ClientMonitor} {log : List Event}
    (ran : run ClientMonitor.step .fresh calls = some (cm, log))
    (ordinary : ∀ call ∈ calls, Ordinary call) (c : Cam) :
    Translated calls log cm c ∧
      (stampsOf (arrivals log) c).head? = (deliveries c calls).head?.map Delivery.now ∧
      (cm.baseline c = 0 ↔ deliveries c calls = []) ∧
      ((cm.lastPic c).timeStamp = 0 ↔ deliveries c calls = []) ∧
      ∀ now pic, cm.putPicture now pic c.nbr =
        let stored := cm.store (cm.baselineFor now pic c) (cm.converted now pic c) c
        if deliveries c.other calls = [] then .ok stored
        else stored.syncReqCheck (cm.converted now pic c) (cm.lastPic c.other) c c.other := by
  have known := run_invariant ClientMonitor.step
    (fun calls log cm => (∀ call ∈ calls, Ordinary call) → ∀ c, Translated calls log cm c)
    (fun calls log cm call next es => translated_step calls log cm call next es)
    (fun _ c => translated_fresh c) ran ordinary
  refine ⟨known c, (known c).first, (known c).baseline_eq_zero_iff ordinary,
    (known c).last_eq_zero_iff ordinary, ?_⟩
  intro now pic
  have other := (known c.other).last_eq_zero_iff ordinary
  rw [ClientMonitor.putPicture_nbr]
  dsimp only
  by_cases none_put : deliveries c.other calls = []
  · rw [if_pos none_put, if_neg (not_not.mpr (other.mpr none_put))]
  · rw [if_neg none_put, if_pos (fun unset => none_put (other.mp unset))]

/-- Two pictures of camera one, the later one with the lower raw time stamp, around one of
camera two. -/
theorem clock_translation_backwards : ∃ cm log,
    run ClientMonitor.step .fresh [.putPicture 1700000000000 ⟨[], 5⟩ .one,
        .putPicture 1700000000100 ⟨[], -2147483648⟩ .two,
        .putPicture 1700000000200 ⟨[], -35⟩ .one] = some (cm, log) ∧
      stampsOf (arrivals log) .one = [1700000000000, 1699999999960] := by
  have ordinary : ∀ call ∈ [Call.putPicture 1700000000000 ⟨[], 5⟩ .one,
      .putPicture 1700000000100 ⟨[], -2147483648⟩ .two, .putPicture 1700000000200 ⟨[], -35⟩ .one],
      Ordinary call := by
    simp only [List.forall_mem_cons, Ordinary]
    exact ⟨⟨⟨5, rfl⟩, by decide, by decide⟩, ⟨⟨-2147483648, rfl⟩, by decide, by decide⟩,
      ⟨⟨-35, rfl⟩, by decide, by decide⟩, by simp⟩
  have finishes : (run ClientMonitor.step .fresh [.putPicture 1700000000000 ⟨[], 5⟩ .one,
      .putPicture 1700000000100 ⟨[], -2147483648⟩ .two,
      .putPicture 1700000000200 ⟨[], -35⟩ .one]).isSome = true := by decide +kernel
  obtain ⟨⟨cm, log⟩, ran⟩ := Option.isSome_iff_exists.mp finishes
  exact ⟨cm, log, ran, (clock_translation ran ordinary .one).1.stamps⟩

end NetCam.Client
