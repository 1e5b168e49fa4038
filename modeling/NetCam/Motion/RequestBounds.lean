import NetCam.Motion.Notifications

/-! Which bytes `parse_motion_request` looks at.

The parser is told the size of the buffer and does not use it. It relies on a character that
ends the number, and a read that fills the buffer leaves none behind.
-/

set_option autoImplicit false

namespace NetCam.Motion

open Semantics

/-- `strncmp` of a text without a NUL, from an index on: the indices up to the first difference,
and whether there is none. -/
def strncmp : Nat → List UInt8 → List UInt8 → List Nat × Bool
  | _, _, [] => ([], true)
  | i, [], _ :: _ => ([i], false)
  | i, b :: cells, c :: text =>
    if b = c then
      let (indices, same) := strncmp (i + 1) cells text
      (i :: indices, same)
    else ([i], false)

section Atol

-- The loop of `atol` over the digits. What ends it is looked at too, and may lie outside.
def digitIndices : Nat → List Nat → List Nat
  | i, [] => [i]
  | i, c :: rest => if isDigit c then i :: digitIndices (i + 1) rest else [i]

def signIndices : Nat → List Nat → List Nat
  | i, [] => [i]
  | i, c :: rest => if c = 45 ∨ c = 43 then i :: digitIndices (i + 1) rest else digitIndices i (c :: rest)

/-- The indices `atol` looks at, from its first one on. -/
def atolIndices : Nat → List Nat → List Nat
  | i, [] => [i]
  | i, c :: rest => if isSpace c then i :: atolIndices (i + 1) rest else signIndices i (c :: rest)

end Atol

def contents (buf : Memory REQUEST_SIZE) : List UInt8 := (buf.load 0 REQUEST_SIZE).getD []

/-- `parse_motion_request` with the indices of the buffer that it looks at, in order. -/
def parseInspecting (buf : Memory REQUEST_SIZE) (now : Int32) (state : GlobalState) :
    List Nat × Option (Int32 × GlobalState) :=
  let cells := contents buf
  let r := strncmp 0 cells (ascii "GET ")
  let rl := strncmp 0 cells (ascii "get ")
  if !r.2 && !rl.2 then (r.1 ++ rl.1, some (501, state))
  else
    let path := strncmp 4 (cells.drop 4) (ascii "/motion")
    if !path.2 then (r.1 ++ rl.1 ++ path.1, some (404, state))
    else
      let parameter := strncmp 11 (cells.drop 11) (ascii "?Message=")
      let before := r.1 ++ rl.1 ++ path.1 ++ parameter.1
      if !parameter.2 then (before, some (1, { tLocal := now, tRemote := 0 }))
      else
        (before ++ atolIndices 20 ((cells.drop 20).map UInt8.toNat),
          (atol (cells.drop 20)).map fun tRemote => (1, { tLocal := now, tRemote := tRemote }))

def OnlyDigits (text : List Nat) : Prop := ∀ c ∈ text, isDigit c = true

def OnlySigned (text : List Nat) : Prop :=
  OnlyDigits text ∨ ∃ sign digits, text = sign :: digits ∧ (sign = 45 ∨ sign = 43) ∧ OnlyDigits digits

-- White space, a sign or none, and nothing but digits up to the last character.
def RunsToEnd (text : List Nat) : Prop :=
  ∃ blanks number, text = blanks ++ number ∧ (∀ c ∈ blanks, isSpace c = true) ∧ OnlySigned number

section Indices

variable {i : Nat}

theorem strncmp_same (i : Nat) (cells text : List UInt8) :
    (strncmp i cells text).2 = text.isPrefixOf cells := by
  induction text generalizing i cells with
  | nil => simp [strncmp]
  | cons c text ih =>
    cases cells with
    | nil => rfl
    | cons b cells =>
      simp only [strncmp]
      by_cases same : b = c
      · rw [if_pos same, same]
        simp [List.isPrefixOf, ih]
      · rw [if_neg same]
        have other : (c == b) = false := by simpa using Ne.symm same
        simp [List.isPrefixOf, other]

theorem strncmp_indices {cells text : List UInt8} {j : Nat} (member : j ∈ (strncmp i cells text).1) :
    j < i + text.length := by
  induction text generalizing i cells with
  | nil => simp [strncmp] at member
  | cons c text ih =>
    rw [List.length_cons]
    cases cells with
    | nil =>
      obtain rfl := List.mem_singleton.mp member
      omega
    | cons b cells =>
      simp only [strncmp] at member
      split at member
      · rcases List.mem_cons.mp member with rfl | later
        · omega
        · have bound := ih later
          omega
      · obtain rfl := List.mem_singleton.mp member
        omega

theorem digitIndices_le {text : List Nat} {j : Nat} (member : j ∈ digitIndices i text) :
    j ≤ i + text.length := by
  induction text generalizing i with
  | nil =>
    obtain rfl := List.mem_singleton.mp member
    exact Nat.le_refl _
  | cons c rest ih =>
    rw [List.length_cons]
    simp only [digitIndices] at member
    split at member
    · rcases List.mem_cons.mp member with rfl | later
      · omega
      · have bound := ih later
        omega
    · obtain rfl := List.mem_singleton.mp member
      omega

theorem digitIndices_end_iff (i : Nat) (text : List Nat) :
    i + text.length ∈ digitIndices i text ↔ OnlyDigits text := by
  unfold OnlyDigits
  induction text generalizing i with
  | nil => simp [digitIndices]
  | cons c rest ih =>
    rw [List.length_cons, List.forall_mem_cons, digitIndices]
    by_cases digit : isDigit c = true
    · rw [if_pos digit, List.mem_cons, ← ih (i + 1), Nat.add_right_comm i 1, ← Nat.add_assoc]
      constructor
      · rintro (here | later)
        · omega
        · exact ⟨digit, later⟩
      · rintro ⟨_, later⟩
        exact .inr later
    · rw [if_neg digit, List.mem_singleton]
      refine iff_of_false (by omega) ?_
      rintro ⟨other, _⟩
      exact digit other

theorem signIndices_le {text : List Nat} {j : Nat} (member : j ∈ signIndices i text) :
    j ≤ i + text.length := by
  cases text with
  | nil =>
    obtain rfl := List.mem_singleton.mp member
    exact Nat.le_refl _
  | cons c rest =>
    simp only [signIndices] at member
    split at member
    · rw [List.length_cons]
      rcases List.mem_cons.mp member with rfl | later
      · omega
      · have bound := digitIndices_le later
        omega
    · exact digitIndices_le member

theorem signIndices_end_iff (i : Nat) (text : List Nat) :
    i + text.length ∈ signIndices i text ↔ OnlySigned text := by
  unfold OnlySigned
  cases text with
  | nil => exact iff_of_true (List.mem_singleton_self i) (.inl (by simp [OnlyDigits]))
  | cons c rest =>
    simp only [signIndices]
    by_cases sign : c = 45 ∨ c = 43
    · have other : ¬ OnlyDigits (c :: rest) := by
        intro all
        have digit := all c List.mem_cons_self
        rcases sign with rfl | rfl <;> cases digit
      rw [if_pos sign, List.mem_cons, List.length_cons, or_iff_right (by omega), or_iff_right other]
      have law := digitIndices_end_iff (i + 1) rest
      rw [Nat.add_assoc, Nat.add_comm 1] at law
      rw [law]
      constructor
      · intro all
        exact ⟨c, rest, rfl, sign, all⟩
      · rintro ⟨_, _, same, _, all⟩
        cases same
        exact all
    · rw [if_neg sign, digitIndices_end_iff i (c :: rest)]
      refine (or_iff_left ?_).symm
      rintro ⟨_, _, same, signed, _⟩
      cases same
      exact sign signed

theorem atolIndices_le {text : List Nat} {j : Nat} (member : j ∈ atolIndices i text) :
    j ≤ i + text.length := by
  induction text generalizing i with
  | nil =>
    obtain rfl := List.mem_singleton.mp member
    exact Nat.le_refl _
  | cons c rest ih =>
    simp only [atolIndices] at member
    split at member
    · rw [List.length_cons]
      rcases List.mem_cons.mp member with rfl | later
      · omega
      · have bound := ih later
        omega
    · exact signIndices_le member

theorem not_space_of_onlySigned {c : Nat} {rest : List Nat} (signed : OnlySigned (c :: rest)) :
    isSpace c = false := by
  have visible : 43 ≤ c := by
    rcases signed with all | ⟨_, _, same, sign, _⟩
    · have digit := all c List.mem_cons_self
      simp only [isDigit, decide_eq_true_eq] at digit
      omega
    · cases same
      omega
  simp only [isSpace, decide_eq_false_iff_not]
  omega

theorem runsToEnd_cons {c : Nat} {rest : List Nat} :
    RunsToEnd (c :: rest) ↔ if isSpace c then RunsToEnd rest else OnlySigned (c :: rest) := by
  constructor
  · rintro ⟨blanks, number, same, blank, signed⟩
    cases blanks with
    | nil =>
      rw [List.nil_append] at same
      subst same
      rw [if_neg (by simp [not_space_of_onlySigned signed])]
      exact signed
    | cons b blanks =>
      cases same
      rw [if_pos (blank c List.mem_cons_self)]
      exact ⟨blanks, number, rfl, fun b member => blank b (List.mem_cons_of_mem c member), signed⟩
  · intro held
    split at held
    · next space =>
      obtain ⟨blanks, number, rfl, blank, signed⟩ := held
      exact ⟨c :: blanks, number, rfl, List.forall_mem_cons.mpr ⟨space, blank⟩, signed⟩
    · exact ⟨[], c :: rest, rfl, by simp, held⟩

/-- The scan leaves the text exactly when nothing in it ends the number. -/
theorem atolIndices_end_iff (i : Nat) (text : List Nat) :
    i + text.length ∈ atolIndices i text ↔ RunsToEnd text := by
  induction text generalizing i with
  | nil => exact iff_of_true (List.mem_singleton_self i) ⟨[], [], rfl, by simp, .inl (by simp [OnlyDigits])⟩
  | cons c rest ih =>
    rw [runsToEnd_cons, atolIndices]
    split
    · have law := ih (i + 1)
      rw [Nat.add_assoc, Nat.add_comm 1] at law
      rw [List.mem_cons, List.length_cons, or_iff_right (by omega), law]
    · exact signIndices_end_iff i (c :: rest)

end Indices

section Parse

variable (buf : Memory REQUEST_SIZE) (now : Int32) (state : GlobalState)

theorem load_contents : buf.load 0 REQUEST_SIZE = some (contents buf) := by
  obtain ⟨cells, loaded⟩ := @Memory.load_isSome _ buf 0 REQUEST_SIZE (Nat.le_refl _)
  unfold contents
  rw [loaded, Option.getD_some]

/-- Following the indices changes nothing in the result. -/
theorem parseInspecting_result : (parseInspecting buf now state).2 = parseMotionRequest buf now state := by
  have loaded := load_contents buf
  have text := @load_drop _ _ loaded 20 (by decide)
  have upper := @startsWith_eq _ _ loaded 0 (ascii "GET ") (by decide)
  have lower := @startsWith_eq _ _ loaded 0 (ascii "get ") (by decide)
  have path := @startsWith_eq _ _ loaded 4 (ascii "/motion") (by decide)
  have parameter := @startsWith_eq _ _ loaded 11 (ascii "?Message=") (by decide)
  rw [List.drop_zero] at upper lower
  unfold parseInspecting parseMotionRequest
  rw [upper, lower, path, parameter, text]
  simp only [strncmp_same, Option.bind_some]
  split
  · rfl
  split
  · rfl
  by_cases found : (ascii "?Message=").isPrefixOf ((contents buf).drop 11) = true
  · simp only [found, Bool.not_true, Bool.false_eq_true, if_false, if_true]
    cases atol ((contents buf).drop 20) <;> rfl
  · simp only [found, Bool.not_false, if_true, if_false, Bool.false_eq_true]

theorem comparisons_inside {cells : List UInt8} {j : Nat}
    (member : j ∈ (strncmp 0 cells (ascii "GET ")).1 ++ (strncmp 0 cells (ascii "get ")).1 ++
      (strncmp 4 (cells.drop 4) (ascii "/motion")).1 ++ (strncmp 11 (cells.drop 11) (ascii "?Message=")).1) :
    j < 20 := by
  simp only [List.mem_append] at member
  rcases member with ((upper | lower) | path) | parameter
  · exact Nat.lt_of_lt_of_le (strncmp_indices upper) (by decide)
  · exact Nat.lt_of_lt_of_le (strncmp_indices lower) (by decide)
  · exact Nat.lt_of_lt_of_le (strncmp_indices path) (by decide)
  · exact Nat.lt_of_lt_of_le (strncmp_indices parameter) (by decide)

theorem parseInspecting_indices : ∃ before : List Nat, (∀ j ∈ before, j < 20) ∧
    (parseInspecting buf now state).1 =
      if asksMotion (contents buf) && hasMessage (contents buf) then
        before ++ atolIndices 20 (messageText (contents buf))
      else before := by
  unfold parseInspecting asksMotion hasMessage messageText
  simp only [strncmp_same]
  rw [← Bool.not_or]
  generalize ((ascii "GET ").isPrefixOf (contents buf) || (ascii "get ").isPrefixOf (contents buf)) = get
  generalize (ascii "/motion").isPrefixOf ((contents buf).drop 4) = motion
  generalize (ascii "?Message=").isPrefixOf ((contents buf).drop 11) = found
  cases get with
  | false =>
    refine ⟨_, ?_, rfl⟩
    intro j member
    exact comparisons_inside (List.mem_append_left _ (List.mem_append_left _ member))
  | true =>
    cases motion with
    | false =>
      refine ⟨_, ?_, rfl⟩
      intro j member
      exact comparisons_inside (List.mem_append_left _ member)
    | true =>
      refine ⟨_, fun j member => @comparisons_inside (contents buf) j member, ?_⟩
      cases found <;> rfl

theorem length_messageText : 20 + (messageText (contents buf)).length = REQUEST_SIZE := by
  have all := (Memory.load_eq_some_iff.mp (load_contents buf)).2.1
  unfold messageText
  rw [List.length_map, List.length_drop, all]
  rfl

theorem parseInspecting_le {j : Nat} (member : j ∈ (parseInspecting buf now state).1) : j ≤ REQUEST_SIZE := by
  obtain ⟨before, near, indices⟩ := parseInspecting_indices buf now state
  have inside : ∀ j ∈ before, j ≤ REQUEST_SIZE := by
    intro j first
    exact Nat.le_trans (Nat.le_of_lt (near j first)) (by decide)
  rw [indices] at member
  split at member
  · rcases List.mem_append.mp member with first | number
    · exact inside j first
    · have bound := atolIndices_le number
      rw [length_messageText] at bound
      exact bound
  · exact inside j member

/-- The first index outside is looked at only by a number that does not end. -/
theorem end_inspected_iff : REQUEST_SIZE ∈ (parseInspecting buf now state).1 ↔
    asksMotion (contents buf) = true ∧ hasMessage (contents buf) = true ∧
      RunsToEnd (messageText (contents buf)) := by
  obtain ⟨before, near, indices⟩ := parseInspecting_indices buf now state
  have away : REQUEST_SIZE ∉ before := by
    intro member
    exact absurd (near _ member) (by decide)
  have law := atolIndices_end_iff 20 (messageText (contents buf))
  rw [length_messageText] at law
  rw [indices, ← and_assoc, ← Bool.and_eq_true_iff]
  split
  · next asks => rw [List.mem_append, or_iff_right away, law, and_iff_right asks]
  · next other => exact iff_of_false away fun asks => other asks.1

end Parse

/-- The parser stays inside the buffer exactly when it has no number to read, or when something
behind the white space, the sign and the digits ends the number before the buffer does. -/
theorem parse_stays_inside_iff (buf : Memory REQUEST_SIZE) (now : Int32) (state : GlobalState) :
    (∀ i ∈ (parseInspecting buf now state).1, i < REQUEST_SIZE) ↔
      ¬ (asksMotion (contents buf) = true ∧ hasMessage (contents buf) = true ∧
        RunsToEnd (messageText (contents buf))) := by
  rw [← end_inspected_iff buf now state]
  constructor
  · intro all outside
    exact Nat.lt_irrefl _ (all _ outside)
  · intro away j member
    apply Nat.lt_of_le_of_ne (parseInspecting_le buf now state member)
    rintro rfl
    exact away member

def endlessNumber : List UInt8 := ascii "GET /motion?Message=" ++ List.replicate 1004 49

theorem endless_number_leaves_buffer : ∃ buf : Memory REQUEST_SIZE,
    (MotionTask.start ⟨0, 0⟩).buf.store 0 endlessNumber = some buf ∧
      REQUEST_SIZE ∈ (parseInspecting buf 7 ⟨0, 0⟩).1 ∧
      ¬ ∀ i ∈ (parseInspecting buf 7 ⟨0, 0⟩).1, i < REQUEST_SIZE := by
  have full : endlessNumber.length = REQUEST_SIZE := by
    unfold endlessNumber
    rw [List.length_append, List.length_replicate]
    rfl
  obtain ⟨buf, stored⟩ := Memory.store_isSome (MotionTask.start ⟨0, 0⟩).buf 0 endlessNumber
    (by rw [full]; exact Nat.le_refl _)
  have seen : contents buf = endlessNumber := by
    have whole := Memory.load_store_self stored
    rw [full, load_contents] at whole
    exact Option.some.inj whole
  have digits : messageText endlessNumber = List.replicate 1004 49 := by
    have front : (ascii "GET /motion?Message=").length = 20 := rfl
    unfold messageText endlessNumber
    rw [List.drop_left' front, List.map_replicate]
    rfl
  have outside : REQUEST_SIZE ∈ (parseInspecting buf 7 ⟨0, 0⟩).1 := by
    apply (end_inspected_iff buf 7 ⟨0, 0⟩).mpr
    rw [seen, digits]
    refine ⟨rfl, rfl, [], List.replicate 1004 49, (List.nil_append _).symm, by simp, .inl ?_⟩
    intro c member
    rw [List.eq_of_mem_replicate member]
    rfl
  exact ⟨buf, stored, outside, fun all => Nat.lt_irrefl _ (all _ outside)⟩

end NetCam.Motion
