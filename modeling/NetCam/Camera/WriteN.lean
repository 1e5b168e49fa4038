import Mathlib.Data.List.Infix
import NetCam.Camera.Packet

/-! `write_n` and `write_string` of `server_common.c`, on the 32-bit target.

The kernel decides how much of a `send` (or `write`) it takes, and when one fails. Its
results come in as a list. Every call is made with the start of the buffer, however much
has been written.
-/

set_option autoImplicit false

namespace NetCam.Camera

/-- The while loop of `write_n`: the bytes put on the socket and the value returned. None
when there are fewer results than calls. -/
def writeLoop (buf : List UInt8) (n : UInt32) : UInt32 → List Int32 → Option (List UInt8 × Int32)
  | written, [] => if written < n then none else some ([], written.toInt32)
  | written, tmp :: results =>
    if written < n then
      if tmp < 0 then some ([], tmp)
      else
        match writeLoop buf n (written + tmp.toUInt32) results with
        | none => none
        | some (sent, result) => some (buf.take tmp.toNatClampNeg ++ sent, result)
    else some ([], written.toInt32)

def writeN (buf : List UInt8) (n : UInt32) (results : List Int32) : Option (List UInt8 × Int32) :=
  writeLoop buf n 0 results

/-- Undefined when the bytes that may be read have no NUL among them. -/
def strlen (buf : List UInt8) : Option UInt32 :=
  if 0 ∈ buf then some (UInt32.ofNat (buf.takeWhile (· ≠ 0)).length) else none

def writeString (buf : List UInt8) (results : List Int32) : Option (List UInt8 × Int32) :=
  match strlen buf with
  | none => none
  | some n => writeN buf n results

/-- The results of the calls made from here on: each is a positive count of at most what
was asked for, or a negative error, which is the last one. -/
inductive Answers (n : UInt32) : UInt32 → List Int32 → Prop where
  | done : Answers n n []
  | failed {written : UInt32} {tmp : Int32} : written < n → tmp < 0 → Answers n written [tmp]
  | accepted {written : UInt32} {tmp : Int32} {results : List Int32} : written < n → 0 < tmp →
      tmp.toInt ≤ (n - written).toNat → Answers n (written + tmp.toUInt32) results →
      Answers n written (tmp :: results)

/-- The contract: all of the bytes and their number, or a part from the start and an error. -/
structure Delivers (bytes : List UInt8) (results : List Int32) (sent : List UInt8) (result : Int32) :
    Prop where
  all : (∀ tmp ∈ results, 0 < tmp) → sent = bytes ∧ result.toInt = bytes.length
  part : (∃ tmp ∈ results, tmp < 0) → sent <+: bytes ∧ result < 0

/-- Wherever a call takes bytes, those at the start of the buffer are those due there. -/
def InStep (buf : List UInt8) : Nat → List Int32 → Prop
  | _, [] => True
  | written, tmp :: results =>
    (buf.drop written).take tmp.toNatClampNeg = buf.take tmp.toNatClampNeg ∧
      InStep buf (written + tmp.toNatClampNeg) results

section Counts
variable {n written : UInt32} {tmp : Int32}

theorem toNatClampNeg_of_neg (negative : tmp < 0) : tmp.toNatClampNeg = 0 := by
  rw [Int32.lt_iff_toInt_lt, Int32.toInt_zero] at negative
  rw [← Int32.toNat_toInt]
  omega

theorem toNatClampNeg_pos (positive : 0 < tmp) : 0 < tmp.toNatClampNeg := by
  rw [Int32.lt_iff_toInt_lt, Int32.toInt_zero] at positive
  rw [← Int32.toNat_toInt]
  omega

theorem not_neg_of_pos (positive : 0 < tmp) : ¬ tmp < 0 := by
  rw [Int32.lt_iff_toInt_lt] at positive ⊢
  omega

theorem toNat_add_count (more : written < n) (positive : 0 < tmp)
    (asked : tmp.toInt ≤ (n - written).toNat) :
    (written + tmp.toUInt32).toNat = written.toNat + tmp.toNatClampNeg ∧
      written.toNat + tmp.toNatClampNeg ≤ n.toNat := by
  have within := UInt32.lt_iff_toNat_lt.mp more
  have bound := n.toNat_lt
  have count := toNatClampNeg_pos positive
  rw [UInt32.toNat_sub_of_le n written (UInt32.le_of_lt more), ← Int.toNat_le, Int32.toNat_toInt]
    at asked
  rw [UInt32.toNat_add, Int32.toNat_toUInt32_of_le (Int32.le_of_lt positive),
    Nat.mod_eq_of_lt (by omega)]
  omega

end Counts

theorem append_isPrefix_iff {first rest bytes : List UInt8} :
    first ++ rest <+: bytes ↔ bytes.take first.length = first ∧ rest <+: bytes.drop first.length := by
  constructor
  · rintro ⟨last, rfl⟩
    simp
  · rintro ⟨same, later⟩
    have split := List.take_append_drop first.length bytes
    rw [same] at split
    rw [← split]
    exact (List.prefix_append_right_inj first).mpr later

/-- What the loop sends belongs at its place precisely when the calls are in step. -/
theorem writeLoop_spec {buf : List UInt8} {n written : UInt32} {results : List Int32}
    (inside : n.toNat ≤ buf.length) (answers : Answers n written results) :
    ∃ sent result, writeLoop buf n written results = some (sent, result) ∧
      (sent <+: buf.drop written.toNat ↔ InStep buf written.toNat results) ∧
      ((∀ tmp ∈ results, 0 < tmp) → written.toNat + sent.length = n.toNat ∧ result = n.toInt32) ∧
      ((∃ tmp ∈ results, tmp < 0) → written.toNat + sent.length < n.toNat ∧ result < 0) := by
  induction answers with
  | done =>
    refine ⟨[], n.toInt32, ?_, ?_, ?_, ?_⟩
    · simp [writeLoop]
    · simp [InStep]
    · simp
    · simp
  | @failed written tmp more negative =>
    refine ⟨[], tmp, ?_, ?_, ?_, ?_⟩
    · simp [writeLoop, more, negative]
    · simp [InStep, toNatClampNeg_of_neg negative]
    · intro positive
      exact absurd negative (not_neg_of_pos (positive tmp (by simp)))
    · intro _
      exact ⟨UInt32.lt_iff_toNat_lt.mp more, negative⟩
  | @accepted written tmp results more positive asked answers ih =>
    obtain ⟨sent, result, looped, place, all, part⟩ := ih
    obtain ⟨total, limit⟩ := toNat_add_count more positive asked
    have taken : (buf.take tmp.toNatClampNeg).length = tmp.toNatClampNeg := by
      rw [List.length_take]
      omega
    refine ⟨buf.take tmp.toNatClampNeg ++ sent, result, ?_, ?_, ?_, ?_⟩
    · simp [writeLoop, more, not_neg_of_pos positive, looped]
    · rw [append_isPrefix_iff, taken, List.drop_drop, ← total, place, total]
      rfl
    · intro succeed
      rw [List.length_append, taken, ← Nat.add_assoc, ← total]
      exact all (fun later member => succeed later (List.mem_cons_of_mem tmp member))
    · rintro ⟨later, member, negative⟩
      rw [List.length_append, taken, ← Nat.add_assoc, ← total]
      rcases List.mem_cons.mp member with rfl | member
      · exact absurd negative (not_neg_of_pos positive)
      · exact part ⟨later, member, negative⟩

theorem answers_cases {n written : UInt32} {results : List Int32} (answers : Answers n written results) :
    (∀ tmp ∈ results, 0 < tmp) ∨ ∃ tmp ∈ results, tmp < 0 := by
  induction answers with
  | done => exact .inl (by simp)
  | @failed _ tmp _ negative => exact .inr ⟨tmp, by simp, negative⟩
  | @accepted _ tmp _ _ positive _ _ ih =>
    rcases ih with succeed | ⟨later, member, negative⟩
    · exact .inl (List.forall_mem_cons.mpr ⟨positive, succeed⟩)
    · exact .inr ⟨later, List.mem_cons_of_mem tmp member, negative⟩

theorem toInt32_toInt_iff (n : UInt32) : n.toInt32.toInt = n.toNat ↔ n.toNat < 2 ^ 31 := by
  constructor
  · intro same
    have bound := n.toInt32.toInt_lt
    omega
  · exact toInt32_toInt

def Delivered (bytes : List UInt8) (results : List Int32) (outcome : Option (List UInt8 × Int32)) :
    Prop :=
  ∃ sent result, outcome = some (sent, result) ∧ Delivers bytes results sent result

theorem writeN_delivers_iff {buf : List UInt8} {n : UInt32} {results : List Int32}
    (inside : n.toNat ≤ buf.length) (answers : Answers n 0 results) :
    Delivered (buf.take n.toNat) results (writeN buf n results) ↔
      InStep buf 0 results ∧ ((∀ tmp ∈ results, 0 < tmp) → n.toNat < 2 ^ 31) := by
  obtain ⟨sent, result, looped, place, all, part⟩ := writeLoop_spec inside answers
  simp only [UInt32.toNat_zero, List.drop_zero, Nat.zero_add] at place all part
  have long : (buf.take n.toNat).length = n.toNat := by
    rw [List.length_take]
    omega
  have unique : Delivered (buf.take n.toNat) results (writeN buf n results) ↔
      Delivers (buf.take n.toNat) results sent result := by
    unfold Delivered writeN
    rw [looped]
    simp
  rw [unique, ← place]
  -- with all calls succeeding everything is sent, and else a part and an error
  rcases answers_cases answers with succeed | failed
  · obtain ⟨full, rfl⟩ := all succeed
    have never : ¬ ∃ tmp ∈ results, tmp < 0 := by
      rintro ⟨tmp, member, negative⟩
      exact not_neg_of_pos (succeed tmp member) negative
    constructor
    · intro delivers
      obtain ⟨rfl, number⟩ := delivers.all succeed
      rw [long] at number
      exact ⟨List.take_prefix n.toNat buf, fun _ => (toInt32_toInt_iff n).mp number⟩
    · rintro ⟨place, small⟩
      refine ⟨fun _ => ⟨?_, ?_⟩, fun failed => absurd failed never⟩
      · rw [← full]
        exact List.prefix_iff_eq_take.mp place
      · rw [long]
        exact (toInt32_toInt_iff n).mpr (small succeed)
  · obtain ⟨short, error⟩ := part failed
    have never : ¬ ∀ tmp ∈ results, 0 < tmp := by
      obtain ⟨tmp, member, negative⟩ := failed
      exact fun succeed => not_neg_of_pos (succeed tmp member) negative
    constructor
    · intro delivers
      have place := (delivers.part failed).1
      exact ⟨place.trans (List.take_prefix n.toNat buf), fun succeed => absurd succeed never⟩
    · rintro ⟨place, _⟩
      refine ⟨fun succeed => absurd succeed never, fun _ => ⟨?_, error⟩⟩
      exact List.prefix_take_iff.mpr ⟨place, Nat.le_of_lt short⟩

/-- Both functions deliver as promised precisely when the calls are in step, and the number of
bytes can be returned. -/
theorem delivers_iff {buf : List UInt8} {n : UInt32} {results : List Int32}
    (inside : n.toNat ≤ buf.length) (answers : Answers n 0 results) :
    (Delivered (buf.take n.toNat) results (writeN buf n results) ↔
      InStep buf 0 results ∧ ((∀ tmp ∈ results, 0 < tmp) → n.toNat < 2 ^ 31)) ∧
    (strlen buf = some n →
      (Delivered (buf.take n.toNat) results (writeString buf results) ↔
        InStep buf 0 results ∧ ((∀ tmp ∈ results, 0 < tmp) → n.toNat < 2 ^ 31))) := by
  refine ⟨writeN_delivers_iff inside answers, ?_⟩
  intro counted
  unfold writeString
  rw [counted]
  exact writeN_delivers_iff inside answers

theorem delivers_repeated_byte :
    Delivered [7, 7] [1, 1] (writeN [7, 7, 0] 2 [1, 1]) ∧
      Delivered [7, 7] [1, 1] (writeString [7, 7, 0] [1, 1]) := by
  have answers : Answers 2 0 [1, 1] :=
    .accepted (by decide) (by decide) (by decide) (.accepted (by decide) (by decide) (by decide) .done)
  have law := @delivers_iff [7, 7, 0] 2 [1, 1] (by decide) answers
  have in_step : InStep [7, 7, 0] 0 [1, 1] ∧
      ((∀ tmp ∈ [1, 1], (0 : Int32) < tmp) → (2 : UInt32).toNat < 2 ^ 31) :=
    ⟨⟨rfl, rfl, trivial⟩, fun _ => by decide⟩
  exact ⟨law.1.mpr in_step, (law.2 rfl).mpr in_step⟩

/-- Six bytes in two parts: the first part is sent twice. -/
theorem first_part_sent_twice :
    writeN [1, 2, 3, 4, 5, 6] 6 [3, 3] = some ([1, 2, 3, 1, 2, 3], 6) ∧
      Answers 6 0 [3, 3] ∧
      ¬ Delivered [1, 2, 3, 4, 5, 6] [3, 3] (writeN [1, 2, 3, 4, 5, 6] 6 [3, 3]) := by
  have ran : writeN [1, 2, 3, 4, 5, 6] 6 [3, 3] = some ([1, 2, 3, 1, 2, 3], 6) := rfl
  refine ⟨ran, ?_, ?_⟩
  · exact .accepted (by decide) (by decide) (by decide)
      (.accepted (by decide) (by decide) (by decide) .done)
  · rintro ⟨sent, result, same, delivers⟩
    cases ran.symm.trans same
    have positive : ∀ tmp ∈ [3, 3], (0 : Int32) < tmp := by simp
    exact absurd (delivers.all positive).1 (by decide)

theorem inStep_of_failed {buf : List UInt8} {results : List Int32} (written : Nat)
    (failed : ∀ tmp ∈ results, tmp < 0) : InStep buf written results := by
  induction results generalizing written with
  | nil => trivial
  | cons tmp results ih =>
    obtain ⟨negative, failed⟩ := List.forall_mem_cons.mp failed
    refine ⟨?_, ih _ failed⟩
    rw [toNatClampNeg_of_neg negative, List.take_zero, List.take_zero]

/-- No buffer suffers precisely when only the first call takes anything. -/
theorem inStep_every_buffer_iff {n : UInt32} {results : List Int32} (answers : Answers n 0 results) :
    (∀ buf : List UInt8, n.toNat ≤ buf.length → InStep buf 0 results) ↔
      ∀ tmp ∈ results.tail, tmp < 0 := by
  constructor
  · intro in_step
    cases answers with
    | done => simp
    | failed => simp
    | @accepted _ tmp results more positive asked answers =>
      cases answers with
      | done => simp
      | failed _ negative => simpa using negative
      | @accepted _ second results more_left second_positive _ _ =>
        have left := UInt32.lt_iff_toNat_lt.mp more_left
        rw [(toNat_add_count more positive asked).1, UInt32.toNat_zero, Nat.zero_add] at left
        obtain ⟨first, first_eq⟩ :=
          Nat.exists_eq_succ_of_ne_zero (Nat.ne_of_gt (toNatClampNeg_pos positive))
        obtain ⟨count, count_eq⟩ :=
          Nat.exists_eq_succ_of_ne_zero (Nat.ne_of_gt (toNatClampNeg_pos second_positive))
        obtain ⟨rest, rest_eq⟩ := Nat.exists_eq_add_of_lt left
        -- zeros for the first call, then ones
        have same := (in_step (List.replicate tmp.toNatClampNeg 0 ++ List.replicate (rest + 1) 1)
          (by simp; omega)).2.1
        rw [Nat.zero_add, List.drop_left' List.length_replicate, count_eq, first_eq,
          List.replicate_succ, List.replicate_succ, List.cons_append, List.take_succ_cons,
          List.take_succ_cons] at same
        exact absurd (List.cons.inj same).1 (by decide)
  · intro failed buf _
    cases results with
    | nil => trivial
    | cons tmp results => exact ⟨rfl, inStep_of_failed _ failed⟩

end NetCam.Camera
