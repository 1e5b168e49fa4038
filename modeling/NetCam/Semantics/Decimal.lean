import Mathlib.Data.List.TakeWhile
import Mathlib.Data.Nat.Digits.Lemmas

/-! Decimal numerals in ASCII text.

A text is the list of its character codes. A number is read off the front of a text:
white space, a sign and digits, up to the first character that does not belong to it.
-/

set_option autoImplicit false

namespace NetCam.Semantics

def ascii (text : String) : List UInt8 := text.toList.map fun c => UInt8.ofNat c.toNat

def isDigit (c : Nat) : Bool := decide (48 ≤ c ∧ c ≤ 57)

def isSpace (c : Nat) : Bool := decide (c = 32 ∨ 9 ≤ c ∧ c ≤ 13)

def digitsValue (digits : List Nat) : Nat := Nat.ofDigits 10 (digits.reverse.map (· - 48))

def numeral (n : Nat) : List Nat :=
  if n = 0 then [48] else (Nat.digits 10 n).reverse.map (· + 48)

def signedNumeral (z : Int) : List Nat :=
  if z < 0 then 45 :: numeral z.natAbs else numeral z.natAbs

def splitSign : List Nat → Bool × List Nat
  | 45 :: rest => (true, rest)
  | 43 :: rest => (false, rest)
  | text => (false, text)

def withSign (negative : Bool) (n : Nat) : Int := if negative then -(n : Int) else n

/-- The number that a text is as a whole, none if it is no decimal numeral. -/
def readInt (text : List Nat) : Option Int :=
  let (negative, digits) := splitSign text
  if digits ≠ [] ∧ digits.all isDigit = true then some (withSign negative (digitsValue digits)) else none

/-- What follows the white space, taken apart at the sign. -/
def splitNumber (text : List Nat) : Bool × List Nat := splitSign (text.dropWhile isSpace)

/-- The number that a text starts with, zero if there is none. -/
def leadingInt (text : List Nat) : Int :=
  withSign (splitNumber text).1 (digitsValue ((splitNumber text).2.takeWhile isDigit))

def afterInt (text : List Nat) : List Nat := (splitNumber text).2.dropWhile isDigit

section Numerals

variable {n k : Nat} {digits more : List Nat}

theorem digitsValue_nil : digitsValue [] = 0 := rfl

theorem digitsValue_append (digits more : List Nat) :
    digitsValue (digits ++ more) = digitsValue digits * 10 ^ more.length + digitsValue more := by
  unfold digitsValue
  rw [List.reverse_append, List.map_append, Nat.ofDigits_append, List.length_map,
    List.length_reverse]
  ring

theorem digitsValue_lt (all : ∀ c ∈ digits, isDigit c = true) :
    digitsValue digits < 10 ^ digits.length := by
  have small : ∀ d ∈ digits.reverse.map (· - 48), d < 10 := by
    intro d member
    obtain ⟨c, there, rfl⟩ := List.mem_map.mp member
    have digit := all c (List.mem_reverse.mp there)
    simp only [isDigit, decide_eq_true_eq] at digit
    omega
  have bound := Nat.ofDigits_lt_base_pow_length (by decide) small
  rw [List.length_map, List.length_reverse] at bound
  exact bound

theorem numeral_ne_nil (n : Nat) : numeral n ≠ [] := by
  unfold numeral
  split
  · simp
  · next positive => simpa using Nat.digits_ne_nil_iff_ne_zero.mpr positive

theorem numeral_isDigit {c : Nat} (member : c ∈ numeral n) : isDigit c = true := by
  unfold numeral at member
  split at member
  · rw [List.mem_singleton.mp member]
    rfl
  · obtain ⟨d, there, rfl⟩ := List.mem_map.mp member
    have small := Nat.digits_lt_base (by decide) (List.mem_reverse.mp there)
    simp only [isDigit, decide_eq_true_eq]
    omega

theorem digitsValue_numeral (n : Nat) : digitsValue (numeral n) = n := by
  unfold numeral
  split
  · next zero =>
    rw [zero]
    rfl
  · unfold digitsValue
    rw [← List.map_reverse, List.reverse_reverse, List.map_map]
    have same : (fun d => d - 48) ∘ (fun d => d + 48) = id := by
      funext d
      simp
    rw [same, List.map_id, Nat.ofDigits_digits]

/-- A numeral has no digit more than it needs. -/
theorem pow_le_of_lt_numeral_length (positive : 0 < k) (long : k < (numeral n).length) :
    10 ^ k ≤ n := by
  unfold numeral at long
  split at long
  · rw [List.length_singleton] at long
    omega
  · rw [List.length_map, List.length_reverse] at long
    exact (Nat.lt_digits_length_iff (by decide) n).mp long

theorem numeral_length (low : 10 ^ k ≤ n) (high : n < 10 ^ (k + 1)) : (numeral n).length = k + 1 := by
  have positive : n ≠ 0 := by
    have power := Nat.pow_pos (n := k) (by decide : 0 < 10)
    omega
  have long := (Nat.lt_digits_length_iff (by decide : 1 < 10) n).mpr low
  have short := (Nat.digits_length_le_iff (by decide : 1 < 10) n).mpr high
  unfold numeral
  rw [if_neg positive, List.length_map, List.length_reverse]
  omega

theorem signedNumeral_ne_nil (z : Int) : signedNumeral z ≠ [] := by
  unfold signedNumeral
  split
  · exact List.cons_ne_nil _ _
  · exact numeral_ne_nil _

theorem mem_signedNumeral {z : Int} {c : Nat} (member : c ∈ signedNumeral z) :
    c = 45 ∨ isDigit c = true := by
  unfold signedNumeral at member
  split at member
  · rcases List.mem_cons.mp member with minus | digit
    · exact .inl minus
    · exact .inr (numeral_isDigit digit)
  · exact .inr (numeral_isDigit member)

theorem signedNumeral_bound {z : Int} {c : Nat} (member : c ∈ signedNumeral z) : 32 < c ∧ c < 58 := by
  rcases mem_signedNumeral member with minus | digit
  · omega
  · simp only [isDigit, decide_eq_true_eq] at digit
    omega

theorem not_delimiter (z : Int) : 58 ∉ signedNumeral z := by
  intro member
  have bound := signedNumeral_bound member
  omega

theorem numeral_length_le (positive : 0 < k) (small : n < 10 ^ k) : (numeral n).length ≤ k := by
  by_contra long
  have large := pow_le_of_lt_numeral_length positive (Nat.lt_of_not_le long)
  omega

theorem signedNumeral_length_le {z : Int} (positive : 0 < k) (small : z.natAbs < 10 ^ k) :
    (signedNumeral z).length ≤ k + 1 := by
  have digits := numeral_length_le positive small
  unfold signedNumeral
  split
  · exact Nat.succ_le_succ digits
  · exact Nat.le_succ_of_le digits

end Numerals

section Reading

variable {text rest : List Nat}

theorem withSign_eq_zero_iff {negative : Bool} {n : Nat} : withSign negative n = 0 ↔ n = 0 := by
  cases negative <;> simp [withSign]

theorem withSign_inj {negative : Bool} {n m : Nat} :
    withSign negative n = withSign negative m ↔ n = m := by
  cases negative <;> simp [withSign]

theorem splitSign_digits {digits : List Nat} (all : ∀ c ∈ digits, isDigit c = true) :
    splitSign digits = (false, digits) := by
  unfold splitSign
  split
  · exact absurd (all 45 (by simp)) (by decide)
  · exact absurd (all 43 (by simp)) (by decide)
  · rfl

/-- A number that is printed is read back. -/
theorem readInt_signedNumeral (z : Int) : readInt (signedNumeral z) = some z := by
  have digits : ∀ c ∈ numeral z.natAbs, isDigit c = true := fun c member => numeral_isDigit member
  have valid : numeral z.natAbs ≠ [] ∧ (numeral z.natAbs).all isDigit = true :=
    ⟨numeral_ne_nil _, List.all_eq_true.mpr digits⟩
  by_cases negative : z < 0
  · have split : splitSign (signedNumeral z) = (true, numeral z.natAbs) := by
      rw [signedNumeral, if_pos negative]
      rfl
    unfold readInt
    rw [split]
    dsimp only
    rw [if_pos valid, digitsValue_numeral, withSign, if_pos rfl]
    congr 1
    omega
  · have split : splitSign (signedNumeral z) = (false, numeral z.natAbs) := by
      rw [signedNumeral, if_neg negative, splitSign_digits digits]
    unfold readInt
    rw [split]
    dsimp only
    rw [if_pos valid, digitsValue_numeral, withSign, if_neg Bool.false_ne_true]
    congr 1
    omega

theorem splitSign_append (some_left : text ≠ []) (rest : List Nat) :
    splitSign (text ++ rest) = ((splitSign text).1, (splitSign text).2 ++ rest) := by
  cases text with
  | nil => exact absurd rfl some_left
  | cons c text =>
    rw [List.cons_append]
    unfold splitSign
    split <;> split <;> simp_all

theorem splitNumber_append (some_left : (splitNumber text).2 ≠ []) (rest : List Nat) :
    splitNumber (text ++ rest) = ((splitNumber text).1, (splitNumber text).2 ++ rest) := by
  have visible : text.dropWhile isSpace ≠ [] := by
    intro none_left
    unfold splitNumber at some_left
    rw [none_left] at some_left
    exact some_left rfl
  unfold splitNumber
  rw [List.dropWhile_append, if_neg (by simpa using visible)]
  exact splitSign_append visible rest

theorem splitNumber_of_ends (ends : afterInt text ≠ []) : (splitNumber text).2 ≠ [] := by
  intro none_left
  apply ends
  rw [afterInt, none_left]
  rfl

theorem afterInt_append (ends : afterInt text ≠ []) (rest : List Nat) :
    afterInt (text ++ rest) = afterInt text ++ rest := by
  unfold afterInt
  rw [splitNumber_append (splitNumber_of_ends ends), List.dropWhile_append,
    if_neg (by simpa [afterInt] using ends)]

/-- A number that ends within a text does not depend on what follows the text. -/
theorem leadingInt_append (ends : afterInt text ≠ []) (rest : List Nat) :
    leadingInt (text ++ rest) = leadingInt text := by
  unfold leadingInt
  rw [splitNumber_append (splitNumber_of_ends ends), List.takeWhile_append, if_neg]
  intro all
  have whole := congrArg List.length
    (List.takeWhile_append_dropWhile (p := isDigit) (l := (splitNumber text).2))
  rw [List.length_append, all] at whole
  exact ends (List.eq_nil_of_length_eq_zero (by unfold afterInt; omega))

/-- A number that runs to the end of a text keeps its value exactly if no digit follows. -/
theorem leadingInt_append_iff (runs : afterInt text = []) (nonzero : leadingInt text ≠ 0)
    (rest : List Nat) :
    leadingInt (text ++ rest) = leadingInt text ↔ rest.takeWhile isDigit = [] := by
  have digits : ∀ c ∈ (splitNumber text).2, isDigit c = true :=
    List.dropWhile_eq_nil_iff.mp runs
  have own : (splitNumber text).2.takeWhile isDigit = (splitNumber text).2 :=
    List.takeWhile_eq_self_iff.mpr digits
  have positive : digitsValue (splitNumber text).2 ≠ 0 := by
    intro zero
    apply nonzero
    rw [leadingInt, own, zero]
    exact withSign_eq_zero_iff.mpr rfl
  have some_left : (splitNumber text).2 ≠ [] := by
    intro none_left
    rw [none_left] at positive
    exact positive digitsValue_nil
  unfold leadingInt
  rw [splitNumber_append some_left, List.takeWhile_append_of_pos digits, own, withSign_inj,
    digitsValue_append]
  constructor
  · intro same
    by_contra more
    -- one digit more already makes the number ten times as large
    have length : 1 ≤ (rest.takeWhile isDigit).length := List.length_pos_iff.mpr more
    have tenfold : 10 ^ 1 ≤ 10 ^ (rest.takeWhile isDigit).length :=
      Nat.pow_le_pow_right (by decide) length
    have scaled := Nat.mul_le_mul_left (digitsValue (splitNumber text).2) tenfold
    omega
  · intro none_more
    rw [none_more, List.length_nil, digitsValue_nil]
    omega

theorem splitNumber_signedNumeral (z : Int) (rest : List Nat) :
    splitNumber (signedNumeral z ++ rest) = (decide (z < 0), numeral z.natAbs ++ rest) := by
  have front : (signedNumeral z ++ rest).dropWhile isSpace = signedNumeral z ++ rest := by
    cases shape : signedNumeral z with
    | nil => exact absurd shape (signedNumeral_ne_nil z)
    | cons c more =>
      have bound := signedNumeral_bound (shape ▸ List.mem_cons_self : c ∈ signedNumeral z)
      refine List.dropWhile_cons_of_neg ?_
      simp only [isSpace, decide_eq_true_eq]
      omega
  unfold splitNumber
  rw [front, splitSign_append (signedNumeral_ne_nil z)]
  unfold signedNumeral
  split
  · next negative => simp [splitSign, negative]
  · next positive => rw [splitSign_digits fun _ => numeral_isDigit, decide_eq_false positive]

theorem leadingInt_signedNumeral (z : Int) {c : Nat} (stops : isDigit c = false) (rest : List Nat) :
    leadingInt (signedNumeral z ++ c :: rest) = z ∧ afterInt (signedNumeral z ++ c :: rest) = c :: rest := by
  have digits : ∀ d ∈ numeral z.natAbs, isDigit d = true := fun _ => numeral_isDigit
  have last : ¬ isDigit c = true := by simp [stops]
  unfold leadingInt afterInt
  rw [splitNumber_signedNumeral]
  dsimp only
  rw [List.takeWhile_append_of_pos digits, List.dropWhile_append_of_pos digits,
    List.takeWhile_cons_of_neg last, List.dropWhile_cons_of_neg last, List.append_nil, digitsValue_numeral]
  refine ⟨?_, rfl⟩
  unfold withSign
  by_cases negative : z < 0
  · rw [decide_eq_true negative, if_pos rfl]
    omega
  · rw [decide_eq_false negative, if_neg Bool.false_ne_true]
    omega

end Reading

end NetCam.Semantics
