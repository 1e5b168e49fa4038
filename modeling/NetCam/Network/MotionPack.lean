import Mathlib.Data.List.DropRight
import NetCam.Semantics.Decimal
import NetCam.Semantics.Memory

/-! `networking.MotionPack`, which takes the three times out of a response.

The methods of `String`, `StringTokenizer` and `Integer` that it calls are modelled on the
character codes; all delimiters and digits in question are ASCII.
-/

set_option autoImplicit false

namespace NetCam.Network

open Semantics

inductive Unchecked where
  | numberFormat
  | arrayIndexOutOfBounds
  deriving DecidableEq, Repr

/-- A byte is signed, so the cast to `char` extends its sign. -/
def char (b : UInt8) : Nat := if b < 128 then b.toNat else 0xFF00 + b.toNat

def trim (text : List Nat) : List Nat := (text.dropWhile (· ≤ 32)).rdropWhile (· ≤ 32)

def parseInt (text : List Nat) : Except Unchecked Int32 :=
  let (negative, digits) := splitSign text
  let value := withSign negative (digitsValue digits)
  if digits ≠ [] ∧ digits.all isDigit = true ∧ -2 ^ 31 ≤ value ∧ value < 2 ^ 31 then
    .ok (Int32.ofInt value)
  else .error .numberFormat

/-- The tokens of a `StringTokenizer` are never empty. -/
def tokens (text : List Nat) : List (List Nat) := (text.splitOn 58).filter (· ≠ [])

namespace MotionPack

def HEAD_SIZE : Nat := 58

def BUFFER_SIZE : Nat := 100

abbrev Buffer := Memory BUFFER_SIZE

/-- The six bytes that `pack` puts into the buffer of `MotionRequestSender`. -/
def pack : List UInt8 := ascii "GET / "

def parseTimes : List (List Nat) → List Int32 → Except Unchecked (List Int32)
  | [], timeBuffer => .ok timeBuffer
  | str :: rest, timeBuffer =>
    match parseInt (trim str) with
    | .error thrown => .error thrown
    | .ok value =>
      if timeBuffer.length < 3 then parseTimes rest (timeBuffer ++ [value])
      else .error .arrayIndexOutOfBounds

/-- The array of characters is six longer than the part of the buffer that is copied. -/
def timeData (buffer : Buffer) : List Nat :=
  ((buffer.load 64 (BUFFER_SIZE - 64)).getD []).map char ++ List.replicate 6 0

def getTimes (buffer : Buffer) : Except Unchecked (List Int32) :=
  match parseTimes (tokens ((timeData buffer).filter fun c => !isSpace c)) [] with
  | .error thrown => .error thrown
  | .ok timeBuffer => .ok (timeBuffer ++ List.replicate (3 - timeBuffer.length) 0)

def getTimeSize (buffer : Buffer) : Except Unchecked Int32 :=
  parseInt (trim (((buffer.load 31 3).getD []).map char))

end MotionPack

section Tokens

variable {text rest : List Nat}

theorem tokens_append (apart : 58 ∉ text) (some_text : text ≠ []) :
    tokens (text ++ 58 :: rest) = text :: tokens rest := by
  unfold tokens
  rw [List.splitOn_append_cons_self_of_not_mem apart]
  simp [some_text]

theorem tokens_delimiter (rest : List Nat) : tokens (58 :: rest) = tokens rest := by
  unfold tokens
  rw [List.splitOn_cons_eq_if_modifyHead]
  simp

theorem tokens_length_le (text : List Nat) : (tokens text).length ≤ text.count 58 + 1 := by
  have pieces : (text.splitOn 58).length = text.count 58 + 1 := by
    induction text with
    | nil => rfl
    | cons c rest ih =>
      rw [List.splitOn_cons_eq_if_modifyHead, List.count_cons]
      split
      · rw [List.length_cons, ih]
      · rw [List.length_modifyHead, ih]
  rw [← pieces]
  exact List.length_filter_le _ _

end Tokens

section Parse

open MotionPack

theorem parseTimes_spec {strs : List (List Nat)} {filled values : List Int32}
    (parsed : parseTimes strs filled = .ok values) :
    ∃ added, values = filled ++ added ∧
      List.Forall₂ (fun str value => parseInt (trim str) = .ok value) strs added := by
  induction strs generalizing filled with
  | nil =>
    cases parsed
    exact ⟨[], (List.append_nil _).symm, .nil⟩
  | cons str rest ih =>
    simp only [parseTimes] at parsed
    split at parsed
    · cases parsed
    · next value first =>
      split at parsed
      · obtain ⟨added, rfl, all⟩ := ih parsed
        exact ⟨value :: added, List.append_assoc _ _ _, .cons first all⟩
      · cases parsed

theorem dropWhile_solid {text : List Nat} (solid : ∀ c ∈ text, 32 < c) :
    text.dropWhile (· ≤ 32) = text := by
  cases text with
  | nil => rfl
  | cons c rest =>
    apply List.dropWhile_cons_of_neg
    have bound := solid c (List.mem_cons_self)
    simp only [decide_eq_true_eq]
    omega

theorem trim_solid {text blanks : List Nat} (solid : ∀ c ∈ text, 32 < c)
    (blank : ∀ c ∈ blanks, c ≤ 32) : trim (text ++ blanks) = text := by
  have tail : (text ++ blanks).rdropWhile (· ≤ 32) = text := by
    unfold List.rdropWhile
    rw [List.reverse_append, List.dropWhile_append_of_pos (by simpa using blank),
      dropWhile_solid (by simpa using solid), List.reverse_reverse]
  unfold trim
  cases text with
  | nil =>
    rw [List.nil_append, List.dropWhile_eq_nil_iff.mpr (by simpa using blank)]
    rfl
  | cons c rest =>
    have front : (c :: rest ++ blanks).dropWhile (· ≤ 32) = c :: rest ++ blanks := by
      apply List.dropWhile_cons_of_neg
      have bound := solid c (List.mem_cons_self)
      simp only [decide_eq_true_eq]
      omega
    rw [front, tail]

theorem solid_of_isDigit {c : Nat} (digit : isDigit c = true) : 32 < c := by
  simp only [isDigit, decide_eq_true_eq] at digit
  omega

theorem parseInt_numeral {n : Nat} (small : n < 2 ^ 31) :
    parseInt (numeral n) = .ok (Int32.ofNat n) := by
  have split := splitSign_digits (fun c member => @numeral_isDigit n c member)
  unfold parseInt
  rw [split]
  dsimp only
  rw [digitsValue_numeral, if_pos]
  · rfl
  · refine ⟨numeral_ne_nil n, List.all_eq_true.mpr fun c member => numeral_isDigit member, ?_, ?_⟩
    · change -2 ^ 31 ≤ (n : Int)
      omega
    · change (n : Int) < 2 ^ 31
      omega

theorem parseInt_eq_ok_iff {text : List Nat} {value : Int32} :
    parseInt text = .ok value ↔ readInt text = some value.toInt := by
  unfold parseInt readInt
  dsimp only
  constructor
  · intro parsed
    split at parsed
    · next valid =>
      obtain ⟨some_digits, all, low, high⟩ := valid
      cases parsed
      rw [if_pos ⟨some_digits, all⟩, Int32.toInt_ofInt_of_le low high]
    · cases parsed
  · intro read
    split at read
    · next valid =>
      have same := Option.some.inj read
      have low := value.le_toInt
      have high := value.toInt_lt
      rw [if_pos ⟨valid.1, valid.2, by omega, by omega⟩, same, Int32.ofInt_toInt]
    · cases read

/-- The loop ends without an exception for at most three tokens that are all numerals. -/
theorem parseTimes_isOk_iff {strs : List (List Nat)} {filled : List Int32} (room : filled.length ≤ 3) :
    (∃ values, parseTimes strs filled = .ok values) ↔
      filled.length + strs.length ≤ 3 ∧
        ∀ str ∈ strs, ∃ value : Int32, readInt (trim str) = some value.toInt := by
  induction strs generalizing filled with
  | nil => exact iff_of_true ⟨filled, rfl⟩ ⟨room, by simp⟩
  | cons str rest ih =>
    simp only [parseTimes, List.length_cons, List.forall_mem_cons]
    cases first : parseInt (trim str) with
    | error thrown =>
      refine iff_of_false (by simp) ?_
      rintro ⟨_, ⟨value, read⟩, _⟩
      rw [parseInt_eq_ok_iff.mpr read] at first
      cases first
    | ok value =>
      have read := parseInt_eq_ok_iff.mp first
      dsimp only
      by_cases more : filled.length < 3
      · rw [if_pos more, ih (by rw [List.length_append, List.length_singleton]; omega),
          List.length_append, List.length_singleton]
        constructor
        · rintro ⟨few, all⟩
          exact ⟨by omega, ⟨value, read⟩, all⟩
        · rintro ⟨few, _, all⟩
          exact ⟨by omega, all⟩
      · rw [if_neg more]
        refine iff_of_false (by simp) ?_
        rintro ⟨few, _⟩
        omega

theorem parseInt_eq_ok {text : List Nat} {value : Int32} (parsed : parseInt text = .ok value) :
    (splitSign text).2 ≠ [] ∧ (∀ c ∈ (splitSign text).2, isDigit c = true) ∧
      value.toInt = withSign (splitSign text).1 (digitsValue (splitSign text).2) := by
  unfold parseInt at parsed
  dsimp only at parsed
  split at parsed
  · next valid =>
    obtain ⟨some_digits, all, low, high⟩ := valid
    cases parsed
    exact ⟨some_digits, List.all_eq_true.mp all, Int32.toInt_ofInt_of_le low high⟩
  · cases parsed

end Parse

end NetCam.Network
