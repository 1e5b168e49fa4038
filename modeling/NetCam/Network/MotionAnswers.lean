import NetCam.Network.MotionResponse

/-! Motion from the server's two times to the calls of `setMotionDetected`.

The client skips the end of each answer, and reads on into what an earlier and longer one
left in the buffer. The digits it finds there are added to the camera's time, which is all
right for two of them and makes `Integer.parseInt` throw from the third on.
-/

set_option autoImplicit false

namespace NetCam.Network

open Semantics MotionPack

structure Idle where
  now : Int32
  late : 10 ^ 9 ≤ now.toInt

/-- A request after a notification, less than thirty years later. Both times have ten digits,
and the camera's is not among the last that an int holds. -/
structure Answer where
  state : Motion.GlobalState
  now : Int32
  late : 10 ^ 9 ≤ state.tLocal.toInt
  after : state.tLocal.toInt ≤ now.toInt
  recent : now.toInt - state.tLocal.toInt < 10 ^ 9
  remoteLate : 10 ^ 9 ≤ state.tRemote.toInt
  remoteEarly : state.tRemote.toInt < 2147483600

section Numerals

theorem signedNumeral_of_nonneg {z : Int} (nonneg : 0 ≤ z) : signedNumeral z = numeral z.toNat := by
  have same : z.natAbs = z.toNat := by omega
  unfold signedNumeral
  rw [if_neg (by omega), same]

theorem signedNumeral_long {x : Int32} (late : 10 ^ 9 ≤ x.toInt) : (signedNumeral x.toInt).length = 10 := by
  have bound := x.toInt_lt
  rw [signedNumeral_of_nonneg (by omega)]
  exact @numeral_length _ 9 (by omega) (by omega)

theorem digitsValue_take {n k : Nat} (long : (numeral n).length = k + 2) :
    digitsValue ((numeral n).take k) = n / 100 := by
  have parts := digitsValue_append ((numeral n).take k) ((numeral n).drop k)
  have rest : ((numeral n).drop k).length = 2 := by
    rw [List.length_drop, long]
    omega
  have small := @digitsValue_lt ((numeral n).drop k) fun c member =>
    numeral_isDigit (List.mem_of_mem_drop member)
  rw [List.take_append_drop, digitsValue_numeral, rest] at parts
  rw [rest] at small
  omega

end Numerals

namespace Answer

variable (a : Answer)

def tdiff : Int32 := Int32.ofInt (a.now.toInt - a.state.tLocal.toInt)

theorem tdiff_toInt : a.tdiff.toInt = a.now.toInt - a.state.tLocal.toInt := by
  have recent := a.recent
  have after := a.after
  exact Int32.toInt_ofInt_of_le (by omega) (by omega)

def elapsed : List Nat := signedNumeral a.tdiff.toInt

theorem elapsed_digits {c : Nat} (member : c ∈ a.elapsed) : isDigit c = true := by
  have after := a.after
  have value := a.tdiff_toInt
  unfold elapsed at member
  rw [signedNumeral_of_nonneg (by omega)] at member
  exact numeral_isDigit member

theorem elapsed_pos : 0 < a.elapsed.length := signedNumeral_length_pos _

theorem elapsed_short : a.elapsed.length ≤ 9 := by
  have after := a.after
  have recent := a.recent
  have value := a.tdiff_toInt
  unfold elapsed
  rw [signedNumeral_of_nonneg (by omega)]
  exact numeral_length_le (by decide) (by omega)

theorem length_times :
    (Motion.times a.tdiff a.state.tLocal a.state.tRemote).length = a.elapsed.length + 22 := by
  have first := signedNumeral_long a.late
  have second := signedNumeral_long a.remoteLate
  unfold Motion.times elapsed
  simp only [List.length_append, List.length_singleton, first, second]

def times : Times where
  tdiff := a.tdiff
  tLocal := a.state.tLocal
  tRemote := a.state.tRemote
  long := by
    rw [length_times]
    omega
  fits := by
    have short := a.elapsed_short
    rw [length_times]
    change 58 + _ ≤ 100
    omega

theorem length_body : a.times.body.length = a.elapsed.length + 22 := a.length_times

theorem served : Motion.serveClient a.state ⟨MotionPack.pack, a.now, by decide⟩ = some a.times.response :=
  a.times.served rfl rfl rfl a.tdiff_toInt.symm

def remote : List Nat := (signedNumeral a.state.tRemote.toInt).take 8

theorem remote_digits {c : Nat} (member : c ∈ a.remote) : isDigit c = true := by
  have late := a.remoteLate
  unfold remote at member
  rw [signedNumeral_of_nonneg (by omega)] at member
  exact numeral_isDigit (List.mem_of_mem_take member)

theorem length_remote : a.remote.length = 8 := by
  unfold remote
  rw [List.length_take, signedNumeral_long a.remoteLate]
  rfl

theorem remote_value : digitsValue a.remote = a.state.tRemote.toInt.toNat / 100 := by
  have long := signedNumeral_long a.remoteLate
  have late := a.remoteLate
  unfold remote
  rw [signedNumeral_of_nonneg (by omega)] at long ⊢
  exact digitsValue_take long

theorem rest_eq : a.times.rest = signedNumeral a.state.tLocal.toInt ++ 58 :: a.remote := by
  have long := signedNumeral_long a.late
  have count : a.times.body.length - (signedNumeral a.times.tdiff.toInt).length - 3 = 10 + 9 := by
    rw [length_body]
    change a.elapsed.length + 22 - a.elapsed.length - 3 = 19
    omega
  unfold Times.rest
  rw [count]
  change (signedNumeral a.state.tLocal.toInt ++ 58 :: signedNumeral a.state.tRemote.toInt).take (10 + 9) = _
  rw [← long, List.take_length_add_append]
  rfl

end Answer

section Text

theorem tokens_single {text : List Nat} (apart : 58 ∉ text) (some_text : text ≠ []) :
    tokens text = [text] := by
  unfold tokens
  rw [List.splitOn_eq_singleton apart]
  simp [some_text]

theorem not_delimiter_of_digits {digits : List Nat} (all : ∀ c ∈ digits, isDigit c = true) :
    58 ∉ digits := fun member => absurd (all 58 member) (by decide)

theorem parseInt_of_digits {digits : List Nat} (some_digits : digits ≠ [])
    (all : ∀ c ∈ digits, isDigit c = true) :
    parseInt digits = if digitsValue digits < 2 ^ 31 then .ok (Int32.ofNat (digitsValue digits))
      else .error .numberFormat := by
  unfold parseInt
  rw [splitSign_digits all]
  dsimp only
  by_cases small : digitsValue digits < 2 ^ 31
  · rw [if_pos small, if_pos]
    · rfl
    · refine ⟨some_digits, List.all_eq_true.mpr all, ?_, ?_⟩
      · change -2 ^ 31 ≤ (digitsValue digits : Int)
        omega
      · change (digitsValue digits : Int) < 2 ^ 31
        omega
  · rw [if_neg small, if_neg]
    rintro ⟨_, _, _, fits⟩
    change (digitsValue digits : Int) < 2 ^ 31 at fits
    omega

theorem trim_digits {digits : List Nat} (all : ∀ c ∈ digits, isDigit c = true) (zeros : Nat) :
    trim (digits ++ List.replicate zeros 0) = digits :=
  trim_solid (fun c member => solid_of_isDigit (all c member)) fun c member => by
    rw [List.eq_of_mem_replicate member]
    decide

theorem parseInt_suffix {n k : Nat} (small : n < 2 ^ 31) (some_left : k < (numeral n).length) :
    ∃ value, parseInt (trim ((numeral n).drop k)) = .ok value := by
  have digits : ∀ c ∈ (numeral n).drop k, isDigit c = true := fun c member =>
    numeral_isDigit (List.mem_of_mem_drop member)
  have trimmed := trim_digits digits 0
  rw [List.replicate_zero, List.append_nil] at trimmed
  have parts := digitsValue_append ((numeral n).take k) ((numeral n).drop k)
  rw [List.take_append_drop, digitsValue_numeral] at parts
  rw [trimmed, parseInt_of_digits (by rw [ne_eq, List.drop_eq_nil_iff]; omega) digits, if_pos (by omega)]
  exact ⟨_, rfl⟩

theorem parseTimes_last {front : List (List Nat)} {values : List Int32} {last : List Nat}
    (parsed : List.Forall₂ (fun str value => parseInt (trim str) = .ok value) front values)
    (few : values.length ≤ 2) :
    parseTimes (front ++ [last]) [] =
      match parseInt (trim last) with
      | .ok value => .ok (values ++ [value])
      | .error thrown => .error thrown := by
  cases parsed with
  | nil =>
    simp only [List.nil_append, parseTimes]
    cases parseInt (trim last) <;> rfl
  | cons first rest =>
    cases rest with
    | nil =>
      simp only [List.cons_append, List.nil_append, parseTimes, first]
      cases parseInt (trim last) <;> rfl
    | cons second more =>
      cases more with
      | nil =>
        simp only [List.cons_append, List.nil_append, parseTimes, first, second]
        cases parseInt (trim last) <;> rfl
      | cons => simp at few

end Text

structure Left (most : Nat) (text : List UInt8) : Prop where
  length : text.length = 36
  digit : ∀ i b, 17 ≤ i → i < most + 16 → text[i]? = some b → isDigit b.toNat = true
  zero : ∀ i b, 17 ≤ i → most + 16 ≤ i → text[i]? = some b → b = 0

section Decode

variable {a : Answer} {text : List UInt8} {most : Nat}

theorem Left.behind (left : Left most text) (positive : 0 < a.elapsed.length) : ∃ digits zeros,
    (text.drop (a.elapsed.length + 16)).map char ++ List.replicate 6 0 =
        digits ++ List.replicate zeros 0 ∧
      digits.length = min (most - a.elapsed.length) (20 - a.elapsed.length) ∧
      ∀ c ∈ digits, isDigit c = true := by
  have size := left.length
  generalize shape : text.drop (a.elapsed.length + 16) = more
  have long : more.length = 20 - a.elapsed.length := by
    rw [← shape, List.length_drop, size]
    omega
  -- an index into what is left is one into the text, further on by the length of the answer
  have digits : ∀ b ∈ more.take (most - a.elapsed.length), isDigit b.toNat = true := by
    intro b member
    obtain ⟨i, inside, found⟩ := List.mem_iff_getElem.mp member
    rw [List.length_take] at inside
    refine left.digit (a.elapsed.length + 16 + i) b (by omega) (by omega) ?_
    rw [← List.getElem?_drop, shape, ← found, List.getElem_take, List.getElem?_eq_getElem]
  have zeros : ∀ b ∈ more.drop (most - a.elapsed.length), b = 0 := by
    intro b member
    obtain ⟨i, inside, found⟩ := List.mem_iff_getElem.mp member
    refine left.zero (a.elapsed.length + 16 + (most - a.elapsed.length + i)) b (by omega) (by omega) ?_
    rw [← List.getElem?_drop, shape, ← List.getElem?_drop, ← found, List.getElem?_eq_getElem]
  have ascii : ∀ b : UInt8, isDigit b.toNat = true → char b = b.toNat := by
    intro b digit
    simp only [isDigit, decide_eq_true_eq] at digit
    unfold char
    rw [if_pos (UInt8.lt_iff_toNat_lt.mpr (by change b.toNat < 128; omega))]
  have tail : (more.drop (most - a.elapsed.length)).map char =
      List.replicate (more.drop (most - a.elapsed.length)).length 0 := by
    refine List.eq_replicate_iff.mpr ⟨List.length_map _, fun c member => ?_⟩
    obtain ⟨b, there, rfl⟩ := List.mem_map.mp member
    rw [zeros b there]
    rfl
  refine ⟨(more.take (most - a.elapsed.length)).map char,
    (more.drop (most - a.elapsed.length)).length + 6, ?_, ?_, ?_⟩
  · rw [List.replicate_add, ← List.append_assoc, ← tail, ← List.map_append, List.take_append_drop]
  · rw [List.length_map, List.length_take, long]
  · intro c member
    obtain ⟨b, there, rfl⟩ := List.mem_map.mp member
    rw [ascii b (digits b there)]
    exact digits b there

/-- The part of the body that is read, up to the camera's time. -/
theorem take_body_eq (a : Answer) : a.times.body.take (a.times.body.length - 2) =
    (a.elapsed ++ 58 :: (signedNumeral a.state.tLocal.toInt ++ [58])) ++ a.remote := by
  rw [a.times.take_body, a.rest_eq]
  simp [Answer.elapsed, Answer.times]

theorem Left.answer (left : Left most text) (a : Answer) :
    Left (max most a.elapsed.length)
      (((a.times.body.take (a.times.body.length - 2)).drop 4).map UInt8.ofNat ++
        text.drop (a.elapsed.length + 16)) := by
  have size := left.length
  have positive := a.elapsed_pos
  have short := a.elapsed_short
  have second := signedNumeral_long a.late
  have remote := a.length_remote
  have front : (((a.times.body.take (a.times.body.length - 2)).drop 4).map UInt8.ofNat).length =
      a.elapsed.length + 16 := by
    rw [List.length_map, List.length_drop, List.length_take, a.length_body]
    omega
  -- below the end of this answer its own digits, behind it what an earlier one left
  have own : ∀ i b, 17 ≤ i → i < a.elapsed.length + 16 →
      (((a.times.body.take (a.times.body.length - 2)).drop 4).map UInt8.ofNat)[i]? = some b →
        isDigit b.toNat = true := by
    intro i b late inside found
    rw [List.getElem?_map, List.getElem?_drop, take_body_eq, List.getElem?_append_right] at found
    · obtain ⟨c, there, rfl⟩ := Option.map_eq_some_iff.mp found
      have digit := a.remote_digits (List.mem_of_getElem? there)
      have value : (UInt8.ofNat c).toNat = c := by
        simp only [isDigit, decide_eq_true_eq] at digit
        rw [UInt8.toNat_ofNat']
        exact Nat.mod_eq_of_lt (by omega)
      rw [value]
      exact digit
    · simp only [List.length_append, List.length_cons, List.length_nil, second]
      omega
  have behind : ∀ i b, a.elapsed.length + 16 ≤ i →
      (((a.times.body.take (a.times.body.length - 2)).drop 4).map UInt8.ofNat ++
        text.drop (a.elapsed.length + 16))[i]? = some b → text[i]? = some b := by
    intro i b late found
    rw [List.getElem?_append_right (by rw [front]; exact late), front, List.getElem?_drop,
      Nat.add_sub_cancel' late] at found
    exact found
  refine ⟨?_, ?_, ?_⟩
  · rw [List.length_append, front, List.length_drop, size]
    omega
  · intro i b late inside found
    by_cases new : i < a.elapsed.length + 16
    · rw [List.getElem?_append_left (by rw [front]; exact new)] at found
      exact own i b late new found
    · exact left.digit i b late (by omega) (behind i b (by omega) found)
  · intro i b late outside found
    exact left.zero i b late (by omega) (behind i b (by omega) found)

theorem receive_answer {buffer : Buffer} (loaded : buffer.load 64 (BUFFER_SIZE - 64) = some text)
    (left : Left most text) (a : Answer) : ∃ next text' digits zeros,
      receiveWhole buffer a.times.response = some next ∧
      next.load 64 (BUFFER_SIZE - 64) = some text' ∧ Left (max most a.elapsed.length) text' ∧
      (timeData next).filter (fun c => !isSpace c) =
        (a.elapsed ++ 58 :: (signedNumeral a.state.tLocal.toInt ++ 58 :: a.remote)).drop 4 ++
          (digits ++ List.replicate zeros 0) ∧
      digits.length = min (most - a.elapsed.length) (20 - a.elapsed.length) ∧
      ∀ c ∈ digits, isDigit c = true := by
  obtain ⟨next, cells, received, behind, spec⟩ := receiveWhole_spec a.times buffer
  obtain ⟨digits, zeros, shape, count, all⟩ := left.behind a.elapsed_pos
  -- the part behind the header is looked at from its seventh byte on
  have part := Memory.load_part 6 (BUFFER_SIZE - 64) behind (by decide)
  have start : MotionPack.HEAD_SIZE + 6 = 64 := rfl
  have size : (cells.drop 6).length ≤ BUFFER_SIZE - 64 := by
    rw [List.length_drop, (Memory.load_eq_some_iff.mp behind).2.1]
    exact Nat.le_refl 36
  rw [start, loaded, List.take_of_length_le size] at part
  have same : text = cells.drop 6 := Option.some.inj part
  have index : a.times.body.length = 6 + (a.elapsed.length + 16) := by
    rw [a.length_body]
    omega
  have dropped : cells.drop a.times.body.length = text.drop (a.elapsed.length + 16) := by
    rw [same, List.drop_drop, index]
  rw [dropped] at spec
  have solid : ∀ c ∈ digits ++ List.replicate zeros 0, (!isSpace c) = true := by
    intro c member
    rcases List.mem_append.mp member with digit | zero
    · have range := all c digit
      simp only [isDigit, decide_eq_true_eq] at range
      simp only [isSpace, Bool.not_eq_true', decide_eq_false_iff_not]
      omega
    · rw [List.eq_of_mem_replicate zero]
      rfl
  refine ⟨next, _, digits, zeros, received, spec, left.answer a, ?_, count, all⟩
  rw [text_received spec, shape, List.filter_eq_self.mpr solid, a.rest_eq]
  rfl

theorem signedNumeral_digits {z : Int} (nonneg : 0 ≤ z) : ∀ c ∈ signedNumeral z, isDigit c = true := by
  intro c member
  rw [signedNumeral_of_nonneg nonneg] at member
  exact numeral_isDigit member

/-- The cut answer has one or two tokens in front of the camera's time. -/
theorem tokens_answer (a : Answer) {more : List Nat} (clean : 58 ∉ more) : ∃ front,
    tokens ((a.elapsed ++ 58 :: (signedNumeral a.state.tLocal.toInt ++ 58 :: a.remote)).drop 4 ++ more) =
        front ++ [a.remote ++ more] ∧
      ((∃ k, k < 10 ∧ front = [(signedNumeral a.state.tLocal.toInt).drop k]) ∨
        4 < a.elapsed.length ∧ front = [a.elapsed.drop 4, signedNumeral a.state.tLocal.toInt]) := by
  have long := signedNumeral_long a.late
  have nonneg : 0 ≤ a.state.tLocal.toInt := by
    have late := a.late
    omega
  have apart := not_delimiter_of_digits (signedNumeral_digits nonneg)
  have ends : tokens (a.remote ++ more) = [a.remote ++ more] := by
    refine tokens_single ?_ (List.append_ne_nil_of_left_ne_nil ?_ _)
    · intro member
      rcases List.mem_append.mp member with own | other
      · exact not_delimiter_of_digits (fun _ => a.remote_digits) own
      · exact clean other
    · exact List.ne_nil_of_length_pos (by rw [a.length_remote]; decide)
  -- the local time, from some digit on
  have behind : ∀ k, k < 10 → tokens (((signedNumeral a.state.tLocal.toInt).drop k ++ 58 :: a.remote) ++
      more) = [(signedNumeral a.state.tLocal.toInt).drop k] ++ [a.remote ++ more] := by
    intro k inside
    have some_left : (signedNumeral a.state.tLocal.toInt).drop k ≠ [] := by
      rw [ne_eq, List.drop_eq_nil_iff, long]
      omega
    rw [List.append_assoc, List.cons_append,
      tokens_append (fun member => apart (List.mem_of_mem_drop member)) some_left, ends]
    rfl
  rcases Nat.lt_trichotomy a.elapsed.length 4 with less | same | greater
  · refine ⟨_, ?_, .inl ⟨3 - a.elapsed.length, by omega, rfl⟩⟩
    have left : 4 - a.elapsed.length = (3 - a.elapsed.length) + 1 := by omega
    rw [List.drop_append, List.drop_eq_nil_iff.mpr (by omega), List.nil_append, left, List.drop_succ_cons,
      List.drop_append_of_le_length (by omega)]
    exact behind _ (by omega)
  · refine ⟨_, ?_, .inl ⟨0, by decide, rfl⟩⟩
    rw [← same, List.drop_left, List.cons_append, tokens_delimiter]
    exact behind 0 (by decide)
  · refine ⟨_, ?_, .inr ⟨greater, rfl⟩⟩
    have some_left : a.elapsed.drop 4 ≠ [] := by
      rw [ne_eq, List.drop_eq_nil_iff]
      omega
    have digits : 58 ∉ a.elapsed.drop 4 := fun member =>
      not_delimiter_of_digits (fun _ => a.elapsed_digits) (List.mem_of_mem_drop member)
    rw [List.drop_append_of_le_length (by omega), List.append_assoc, List.cons_append,
      tokens_append digits some_left]
    exact congrArg _ (behind 0 (by decide))

/-- The tokens in front are parsed, and a positive number behind them leaves a positive second
one. -/
theorem front_parsed {front : List (List Nat)}
    (shape : (∃ k, k < 10 ∧ front = [(signedNumeral a.state.tLocal.toInt).drop k]) ∨
      4 < a.elapsed.length ∧ front = [a.elapsed.drop 4, signedNumeral a.state.tLocal.toInt]) :
    ∃ values, List.Forall₂ (fun str value => parseInt (trim str) = .ok value) front values ∧
      values.length ≤ 2 ∧ ∀ value more, 0 < value → 0 < (values ++ [value] ++ more).getD 1 0 := by
  have late := a.late
  have bound := a.state.tLocal.toInt_lt
  have long := signedNumeral_long late
  rw [signedNumeral_of_nonneg (by omega)] at shape long
  rcases shape with ⟨k, inside, rfl⟩ | ⟨many, rfl⟩
  · obtain ⟨value, parsed⟩ := @parseInt_suffix a.state.tLocal.toInt.toNat k (by omega) (by omega)
    exact ⟨[value], .cons parsed .nil, Nat.le_succ 1, fun _ _ positive => positive⟩
  · have after := a.after
    have recent := a.recent
    have since := a.tdiff_toInt
    unfold Answer.elapsed at many ⊢
    rw [signedNumeral_of_nonneg (by omega)] at many ⊢
    obtain ⟨first, parsed⟩ := @parseInt_suffix a.tdiff.toInt.toNat 4 (by omega) many
    have digits : ∀ c ∈ numeral a.state.tLocal.toInt.toNat, isDigit c = true := fun _ => numeral_isDigit
    have trimmed := trim_digits digits 0
    rw [List.replicate_zero, List.append_nil] at trimmed
    have second : parseInt (trim (numeral a.state.tLocal.toInt.toNat)) =
        .ok (Int32.ofNat a.state.tLocal.toInt.toNat) := by
      rw [trimmed, parseInt_of_digits (List.ne_nil_of_length_pos (by omega)) digits, digitsValue_numeral,
        if_pos (by omega)]
    refine ⟨[first, _], .cons parsed (.cons second .nil), Nat.le_refl 2, fun _ _ _ => ?_⟩
    change 0 < Int32.ofNat a.state.tLocal.toInt.toNat
    rw [Int32.lt_iff_toInt_lt, Int32.toInt_ofNat_of_lt (by omega)]
    change (0 : Int) < _
    omega

/-- The camera's time and the digits behind it are an int for two more digits, and none for
three. -/
theorem parseInt_remote (a : Answer) {digits : List Nat} (all : ∀ c ∈ digits, isDigit c = true)
    (zeros : Nat) :
    if digits.length ≤ 2 then
      ∃ value, parseInt (trim (a.remote ++ (digits ++ List.replicate zeros 0))) = .ok value ∧ 0 < value
    else parseInt (trim (a.remote ++ (digits ++ List.replicate zeros 0))) = .error .numberFormat := by
  have late := a.remoteLate
  have early := a.remoteEarly
  have both : ∀ c ∈ a.remote ++ digits, isDigit c = true := by
    intro c member
    rcases List.mem_append.mp member with own | other
    · exact a.remote_digits own
    · exact all c other
  have some_digits : a.remote ++ digits ≠ [] :=
    List.append_ne_nil_of_left_ne_nil (List.ne_nil_of_length_pos (by rw [a.length_remote]; decide)) _
  have number := digitsValue_append a.remote digits
  have small := digitsValue_lt all
  rw [a.remote_value] at number
  rw [← List.append_assoc, trim_digits both, parseInt_of_digits some_digits both, number]
  split
  · next few =>
    have tail : 10 ^ digits.length ≤ 10 ^ 2 := Nat.pow_le_pow_right (by decide) few
    have positive : 0 < 10 ^ digits.length := Nat.pow_pos (by decide)
    have fits : a.state.tRemote.toInt.toNat / 100 * 10 ^ digits.length + digitsValue digits <
        2 ^ 31 := by
      have scaled := Nat.mul_le_mul_left (a.state.tRemote.toInt.toNat / 100 + 1) tail
      rw [Nat.add_mul, Nat.one_mul] at scaled
      omega
    have least := Nat.mul_le_mul_left (a.state.tRemote.toInt.toNat / 100) positive
    rw [if_pos fits]
    refine ⟨_, rfl, ?_⟩
    rw [Int32.lt_iff_toInt_lt, Int32.toInt_ofNat_of_lt (by omega)]
    change (0 : Int) < _
    omega
  · next many =>
    have tail : 10 ^ 3 ≤ 10 ^ digits.length := Nat.pow_le_pow_right (by decide) (by omega)
    have scaled := Nat.mul_le_mul_left (a.state.tRemote.toInt.toNat / 100) tail
    rw [if_neg (by omega)]

theorem report_answer (c : Client.Cam) (a : Answer) {next : Buffer} {digits : List Nat} {zeros : Nat}
    (all : ∀ c ∈ digits, isDigit c = true)
    (shape : (timeData next).filter (fun c => !isSpace c) =
      (a.elapsed ++ 58 :: (signedNumeral a.state.tLocal.toInt ++ 58 :: a.remote)).drop 4 ++
        (digits ++ List.replicate zeros 0)) :
    if digits.length ≤ 2 then ∃ call, MotionDataReceiver.report 0 c next =
        (.goesOn (.header 0 MotionPack.HEAD_SIZE), [call]) ∧ call.detected = true
    else MotionDataReceiver.report 0 c next = (.otherException, []) := by
  have clean : 58 ∉ digits ++ List.replicate zeros 0 := by
    intro member
    rcases List.mem_append.mp member with digit | zero
    · exact not_delimiter_of_digits all digit
    · exact absurd (List.eq_of_mem_replicate zero) (by decide)
  obtain ⟨front, cut, before⟩ := tokens_answer a clean
  obtain ⟨values, parsed, few, second⟩ := front_parsed before
  have last := parseInt_remote a all zeros
  have times : getTimes next = match parseInt (trim (a.remote ++ (digits ++ List.replicate zeros 0))) with
      | .ok value => .ok (values ++ [value] ++ List.replicate (3 - (values ++ [value]).length) 0)
      | .error thrown => .error thrown := by
    unfold getTimes
    rw [shape, cut, parseTimes_last parsed few]
    cases parseInt (trim (a.remote ++ (digits ++ List.replicate zeros 0))) <;> rfl
  unfold MotionDataReceiver.report
  split at last
  · obtain ⟨value, ok, positive⟩ := last
    rw [ok] at times
    rw [times, if_pos (by assumption)]
    exact ⟨_, rfl, decide_eq_true (second value _ positive)⟩
  · rw [last] at times
    rw [times, if_neg (by assumption)]

end Decode

section Receive

variable {fields : MotionDataReceiver.Fields}

/-- A receiver whose buffer holds this text behind the header, after answers with at most so
many digits in front. -/
structure Holds (most : Nat) (fields : MotionDataReceiver.Fields) : Prop where
  zero : fields.lastMotionTime = 0
  left : ∃ text, fields.buffer.load 64 (BUFFER_SIZE - 64) = some text ∧ Left most text

/-- An answer is reported as motion if it leaves at most two digits of the last ones, else it
ends the thread. -/
theorem Holds.answer {most : Nat} (holds : Holds most fields) (a : Answer) : ∃ next,
    receiveWhole fields.buffer a.times.response = some next ∧
      Holds (max most a.elapsed.length) { fields with buffer := next } ∧
      if most ≤ a.elapsed.length + 2 then
        ∃ call, MotionDataReceiver.report fields.lastMotionTime fields.camNbr next =
          (.goesOn (.header 0 MotionPack.HEAD_SIZE), [call]) ∧ call.detected = true
      else MotionDataReceiver.report fields.lastMotionTime fields.camNbr next = (.otherException, []) := by
  obtain ⟨zero, text, loaded, left⟩ := holds
  obtain ⟨next, text', digits, zeros, received, later, kept, shape, count, all⟩ :=
    receive_answer loaded left a
  have reported := report_answer fields.camNbr a all shape
  have short := a.elapsed_short
  refine ⟨next, received, ⟨zero, text', later, kept⟩, ?_⟩
  rw [zero]
  split
  · rwa [if_pos (by omega)] at reported
  · rwa [if_neg (by omega)] at reported

end Receive

namespace Idle

variable (i : Idle)

theorem length_now : (signedNumeral i.now.toInt).length = 10 := signedNumeral_long i.late

theorem length_times : (Motion.times i.now 0 0).length = 14 := by
  unfold Motion.times
  simp only [List.length_append, i.length_now]
  rfl

def times : Times where
  tdiff := i.now
  tLocal := 0
  tRemote := 0
  long := by
    rw [length_times]
    decide
  fits := by
    rw [length_times]
    decide

theorem length_body : i.times.body.length = 14 := i.length_times

theorem served : Motion.serveClient ⟨0, 0⟩ ⟨MotionPack.pack, i.now, by decide⟩ = some i.times.response :=
  i.times.served rfl rfl rfl (Int.sub_zero _)

theorem rest_eq : i.times.rest = [48] := by
  have count : i.times.body.length - (signedNumeral i.times.tdiff.toInt).length - 3 = 1 := by
    rw [i.length_body]
    change 14 - (signedNumeral i.now.toInt).length - 3 = 1
    rw [i.length_now]
  unfold Times.rest
  rw [count]
  rfl

end Idle

structure Blank (fields : MotionDataReceiver.Fields) : Prop where
  zero : fields.lastMotionTime = 0
  left : ∃ text, fields.buffer.load 64 (BUFFER_SIZE - 64) = some text ∧ text.drop 8 = List.replicate 28 0

theorem blank_start (c : Client.Cam) : Blank (MotionDataReceiver.fields c) := by
  refine ⟨rfl, List.replicate 36 0, ?_, rfl⟩
  exact Memory.load_filled (by decide)

theorem Blank.holds {fields : MotionDataReceiver.Fields} (blank : Blank fields) : Holds 0 fields := by
  obtain ⟨zero, text, loaded, behind⟩ := blank
  refine ⟨zero, text, loaded, (Memory.load_eq_some_iff.mp loaded).2.1, ?_, ?_⟩
  · intro i b late early
    omega
  · intro i b late _ found
    have there : (text.drop 8)[i - 8]? = some b := by
      rw [List.getElem?_drop, Nat.add_sub_cancel' (by omega)]
      exact found
    rw [behind] at there
    exact List.eq_of_mem_replicate (List.mem_of_getElem? there)

section Quiet

variable {fields : MotionDataReceiver.Fields}

theorem Blank.idle (blank : Blank fields) (i : Idle) : ∃ next call,
    receiveWhole fields.buffer i.times.response = some next ∧ Blank { fields with buffer := next } ∧
      MotionDataReceiver.report fields.lastMotionTime fields.camNbr next =
        (.goesOn (.header 0 MotionPack.HEAD_SIZE), [call]) ∧ call.detected = false := by
  obtain ⟨zero, text, loaded, behind⟩ := blank
  obtain ⟨next, cells, received, under, spec⟩ := receiveWhole_spec i.times fields.buffer
  have size : (cells.drop 6).length ≤ BUFFER_SIZE - 64 := by
    rw [List.length_drop, (Memory.load_eq_some_iff.mp under).2.1]
    exact Nat.le_refl 36
  have part := Memory.load_part 6 (BUFFER_SIZE - 64) under (by decide)
  have start : MotionPack.HEAD_SIZE + 6 = 64 := rfl
  rw [start, loaded, List.take_of_length_le size] at part
  have dropped : cells.drop i.times.body.length = List.replicate 28 0 := by
    rw [i.length_body, ← behind, Option.some.inj part, List.drop_drop]
  rw [dropped] at spec
  have late := i.late
  have bound := i.now.toInt_lt
  have long := i.length_now
  have digits := signedNumeral_digits (z := i.now.toInt) (by omega)
  have read : (timeData next).filter (fun c => !isSpace c) =
      (signedNumeral i.now.toInt).drop 4 ++ 58 :: (48 :: List.replicate 34 0) := by
    rw [text_received spec, i.rest_eq]
    change (signedNumeral i.now.toInt ++ 58 :: [48]).drop 4 ++ _ = _
    rw [List.drop_append_of_le_length (by omega), List.append_assoc]
    rfl
  -- the two tokens: the end of the first number, and the second one with the zeros behind it
  have some_left : (signedNumeral i.now.toInt).drop 4 ≠ [] := by
    rw [ne_eq, List.drop_eq_nil_iff]
    omega
  have apart : 58 ∉ (signedNumeral i.now.toInt).drop 4 := fun member =>
    not_delimiter_of_digits digits (List.mem_of_mem_drop member)
  obtain ⟨value, parsed⟩ := @parseInt_suffix i.now.toInt.toNat 4 (by omega) (by
    rw [← signedNumeral_of_nonneg (by omega)]
    omega)
  rw [← signedNumeral_of_nonneg (by omega)] at parsed
  have last : parseInt (trim (48 :: List.replicate 34 0)) = .ok 0 := by decide
  have times : getTimes next = .ok [value, 0, 0] := by
    unfold getTimes
    rw [read, tokens_append apart some_left, tokens_single (by decide) (by decide)]
    have both := @parseTimes_last [_] [value] (48 :: List.replicate 34 0) (.cons parsed .nil)
      (Nat.le_succ 1)
    rw [last, List.singleton_append] at both
    rw [both]
    rfl
  have reported : MotionDataReceiver.report fields.lastMotionTime fields.camNbr next =
      (.goesOn (.header 0 MotionPack.HEAD_SIZE), [⟨fields.camNbr, false, [value, 0, 0]⟩]) := by
    unfold MotionDataReceiver.report
    rw [times, zero]
    rfl
  refine ⟨next, _, received, ⟨zero, _, spec, ?_⟩, reported, rfl⟩
  have front : (((i.times.body.take (i.times.body.length - 2)).drop 4).map UInt8.ofNat).length = 8 := by
    rw [List.length_map, List.length_drop, List.length_take, i.length_body]
    rfl
  rw [← front, List.drop_left]

end Quiet

end NetCam.Network
