import Mathlib.Tactic.MkIffOfInductiveProp
import NetCam.Motion.Server

/-! What the bytes left in the buffer of `motion_task` do to the next notification.

The parser does not know how many bytes were read. A request that ends before the part of
it that is being read is completed by whatever an earlier request left there.
-/

set_option autoImplicit false

namespace NetCam.Motion

open Semantics

def asksMotion (bytes : List UInt8) : Bool :=
  ((ascii "GET ").isPrefixOf bytes || (ascii "get ").isPrefixOf bytes) &&
    (ascii "/motion").isPrefixOf (bytes.drop 4)

def hasMessage (bytes : List UInt8) : Bool := (ascii "?Message=").isPrefixOf (bytes.drop 11)

def messageText (bytes : List UInt8) : List Nat := (bytes.drop 20).map UInt8.toNat

def message (bytes : List UInt8) : Int :=
  if hasMessage bytes then leadingInt (messageText bytes) else 0

/-- The times are assigned exactly if the bytes of this connection ask for it, and then to
what these bytes say. -/
def JudgedOnOwn (task : MotionTask) : Poll → Prop
  | .delivers request closed => task.exited = false →
    ∃ next hres, motionTask task (.delivers request closed) = some (next, [hres]) ∧
      if asksMotion request.bytes then
        hres = 1 ∧ next.state.tLocal = request.now ∧
          next.state.tRemote.toInt = message request.bytes
      else hres ≠ 1 ∧ next.state = task.state
  | _ => True

def MotionTask.leftover (task : MotionTask) (request : Request) : List UInt8 :=
  (task.buf.load request.bytes.length (REQUEST_SIZE - request.bytes.length)).getD []

/-- The leftover bytes do not complete the request to a different one. -/
@[mk_iff]
structure Unchanged (own left : List UInt8) : Prop where
  /-- A request that is shorter than a GET of `/motion` does not become one. -/
  path : own.length < 11 → asksMotion (own ++ left) = false
  /-- One that is shorter than the parameter does not get a number other than zero. -/
  parameter : asksMotion own = true → own.length < 20 → hasMessage (own ++ left) = true →
    leadingInt (messageText (own ++ left)) = 0 ∧ afterInt (messageText (own ++ left)) ≠ []
  range : asksMotion own = true → hasMessage own = true → FitsLong (leadingInt (messageText own))
  /-- A number that runs to the end of the request is not continued, or only from zero to zero. -/
  number : asksMotion own = true → hasMessage own = true → afterInt (messageText own) = [] →
    afterInt (messageText own ++ left.map UInt8.toNat) ≠ [] ∧
      if leadingInt (messageText own) = 0 then
        leadingInt (messageText own ++ left.map UInt8.toNat) = 0
      else (left.map UInt8.toNat).takeWhile isDigit = []

def Undisturbed (task : MotionTask) : Poll → Prop
  | .delivers request _ => task.exited = false → Unchanged request.bytes (task.leftover request)
  | _ => True

instance (own left : List UInt8) : Decidable (Unchanged own left) :=
  decidable_of_iff' _ (unchanged_iff own left)

instance (task : MotionTask) (polled : Poll) : Decidable (Undisturbed task polled) := by
  unfold Undisturbed
  split <;> infer_instance

section Prefixes

variable {own left text : List UInt8} {offset : Nat}

theorem isPrefixOf_append (inside : offset + text.length ≤ own.length) :
    text.isPrefixOf ((own ++ left).drop offset) = text.isPrefixOf (own.drop offset) := by
  rw [Bool.eq_iff_iff, List.isPrefixOf_iff_prefix, List.isPrefixOf_iff_prefix,
    List.prefix_iff_eq_take, List.prefix_iff_eq_take, List.drop_append_of_le_length (by omega),
    List.take_append_of_le_length (by rw [List.length_drop]; omega)]

theorem inside_of_isPrefixOf (found : text.isPrefixOf (own.drop offset) = true) (some_text : text ≠ []) :
    offset + text.length ≤ own.length := by
  have short := (List.isPrefixOf_iff_prefix.mp found).length_le
  have positive := List.length_pos_iff.mpr some_text
  rw [List.length_drop] at short
  omega

theorem asksMotion_append (long : 11 ≤ own.length) : asksMotion (own ++ left) = asksMotion own := by
  have upper := @isPrefixOf_append own left (ascii "GET ") 0 (by change 4 ≤ _; omega)
  have lower := @isPrefixOf_append own left (ascii "get ") 0 (by change 4 ≤ _; omega)
  have path := @isPrefixOf_append own left (ascii "/motion") 4 (by change 11 ≤ _; omega)
  rw [List.drop_zero, List.drop_zero] at upper lower
  unfold asksMotion
  rw [upper, lower, path]

theorem length_of_asksMotion (asks : asksMotion own = true) : 11 ≤ own.length := by
  unfold asksMotion at asks
  exact inside_of_isPrefixOf (Bool.and_eq_true_iff.mp asks).2 (by decide)

theorem hasMessage_append (long : 20 ≤ own.length) : hasMessage (own ++ left) = hasMessage own :=
  isPrefixOf_append (by change 20 ≤ _; omega)

theorem length_of_hasMessage (has : hasMessage own = true) : 20 ≤ own.length :=
  inside_of_isPrefixOf has (by decide)

theorem messageText_append (long : 20 ≤ own.length) :
    messageText (own ++ left) = messageText own ++ left.map UInt8.toNat := by
  unfold messageText
  rw [List.drop_append_of_le_length long, List.map_append]

end Prefixes

section Parse

variable {buf : Memory REQUEST_SIZE} {seen : List UInt8}

theorem load_drop (loaded : buf.load 0 REQUEST_SIZE = some seen) {offset : Nat} (inside : offset ≤ REQUEST_SIZE) :
    buf.load offset (REQUEST_SIZE - offset) = some (seen.drop offset) := by
  have part := Memory.load_within offset (REQUEST_SIZE - offset) loaded (by omega)
  have long := (Memory.load_eq_some_iff.mp loaded).2.1
  rw [List.take_of_length_le (by rw [List.length_drop, long])] at part
  exact part

theorem startsWith_eq (loaded : buf.load 0 REQUEST_SIZE = some seen) {offset : Nat} {text : List UInt8}
    (inside : offset + text.length ≤ REQUEST_SIZE) :
    startsWith buf offset text = text.isPrefixOf (seen.drop offset) := by
  have part := Memory.load_within offset text.length loaded inside
  unfold startsWith
  rw [part, Bool.eq_iff_iff, List.isPrefixOf_iff_prefix, List.prefix_iff_eq_take, beq_iff_eq,
    Option.some.injEq, eq_comm]

theorem parseMotionRequest_eq (loaded : buf.load 0 REQUEST_SIZE = some seen) (now : Int32)
    (state : GlobalState) :
    ∃ hres, hres ≠ 1 ∧ parseMotionRequest buf now state =
      if asksMotion seen then
        (if hasMessage seen then atol (seen.drop 20) else some 0).map fun tRemote =>
          (1, { tLocal := now, tRemote := tRemote })
      else some (hres, state) := by
  have upper := @startsWith_eq _ _ loaded 0 (ascii "GET ") (by decide)
  have lower := @startsWith_eq _ _ loaded 0 (ascii "get ") (by decide)
  have path := @startsWith_eq _ _ loaded 4 (ascii "/motion") (by decide)
  have parameter := @startsWith_eq _ _ loaded 11 (ascii "?Message=") (by decide)
  rw [List.drop_zero] at upper lower
  have text := @load_drop _ _ loaded 20 (by decide)
  unfold parseMotionRequest asksMotion hasMessage
  rw [upper, lower, path, parameter, text]
  rw [← Bool.not_or, Option.bind_some]
  generalize ((ascii "GET ").isPrefixOf seen || (ascii "get ").isPrefixOf seen) = get
  generalize (ascii "/motion").isPrefixOf (seen.drop 4) = motion
  generalize (if (ascii "?Message=").isPrefixOf (seen.drop 11) = true then atol (seen.drop 20)
    else some 0) = tRemote
  cases get with
  | false => exact ⟨501, by decide, rfl⟩
  | true =>
    refine ⟨404, by decide, ?_⟩
    cases motion with
    | false => rfl
    | true => cases tRemote <;> rfl

-- What the parser makes of the buffer is what the request alone asks for.
def Agrees (own seen : List UInt8) : Prop :=
  if asksMotion seen then
    asksMotion own = true ∧ ∃ tRemote,
      (if hasMessage seen then atol (seen.drop 20) else some 0) = some tRemote ∧
        tRemote.toInt = message own
  else asksMotion own = false

theorem motionTask_delivers {task : MotionTask} (request : Request) (closed : Bool)
    (running : task.exited = false) :
    ∃ buf : Memory REQUEST_SIZE,
      buf.load 0 REQUEST_SIZE = some (request.bytes ++ task.leftover request) ∧
      motionTask task (.delivers request closed) =
        (parseMotionRequest buf request.now task.state).map fun parsed =>
          ({ state := parsed.2, buf := buf, exited := !closed }, [parsed.1]) := by
  have short := request.short
  obtain ⟨cells, loaded⟩ := @Memory.load_isSome _ task.buf 0 REQUEST_SIZE (by omega)
  have long := (Memory.load_eq_some_iff.mp loaded).2.1
  obtain ⟨buf, stored⟩ := Memory.store_isSome task.buf 0 request.bytes (by omega)
  have behind : task.leftover request = cells.drop request.bytes.length := by
    unfold MotionTask.leftover
    rw [load_drop loaded short, Option.getD_some]
  refine ⟨buf, ?_, ?_⟩
  · have front : task.buf.store (0 + 0) request.bytes = some buf := stored
    have whole := Memory.load_store_within loaded front (by omega)
    rw [Memory.splice, List.take_zero, List.nil_append, Nat.zero_add] at whole
    rw [whole, behind]
  · unfold motionTask
    rw [if_neg (by simp [running])]
    simp only [stored]
    cases parseMotionRequest buf request.now task.state <;> rfl

theorem judgedOnOwn_iff_agrees {task : MotionTask} {request : Request} {closed : Bool}
    (running : task.exited = false) :
    JudgedOnOwn task (.delivers request closed) ↔
      Agrees request.bytes (request.bytes ++ task.leftover request) := by
  obtain ⟨buf, loaded, turn⟩ := motionTask_delivers request closed running
  obtain ⟨hres, other, parsed⟩ := parseMotionRequest_eq loaded request.now task.state
  simp only [JudgedOnOwn, Agrees, turn, parsed]
  generalize (if hasMessage (request.bytes ++ task.leftover request) = true then
    atol ((request.bytes ++ task.leftover request).drop 20) else some 0) = read
  by_cases seen : asksMotion (request.bytes ++ task.leftover request) = true
  · rw [if_pos seen, if_pos seen]
    constructor
    · intro judged
      obtain ⟨next, result, taken, outcome⟩ := judged running
      cases read with
      | none => cases taken
      | some tRemote =>
        cases taken
        split at outcome
        · next asks => exact ⟨asks, tRemote, rfl, outcome.2.2⟩
        · exact absurd rfl outcome.1
    · rintro ⟨asks, tRemote, rfl, same⟩ _
      refine ⟨_, _, rfl, ?_⟩
      rw [if_pos asks]
      exact ⟨rfl, rfl, same⟩
  · rw [if_neg seen, if_neg seen]
    constructor
    · intro judged
      obtain ⟨next, result, taken, outcome⟩ := judged running
      cases taken
      split at outcome
      · exact absurd outcome.1 other
      · next refused => simpa using refused
    · intro refused _
      refine ⟨_, _, rfl, ?_⟩
      rw [if_neg (by simp [refused])]
      exact ⟨other, rfl⟩

end Parse

section Exact

variable {own left : List UInt8}

/-- The number in the buffer is that of the request itself. -/
theorem number_agrees_iff {text rest : List Nat} :
    (afterInt (text ++ rest) ≠ [] ∧
        ∃ t : Int32, t.toInt = leadingInt (text ++ rest) ∧ t.toInt = leadingInt text) ↔
      FitsLong (leadingInt text) ∧
        (afterInt text = [] →
          afterInt (text ++ rest) ≠ [] ∧
            if leadingInt text = 0 then leadingInt (text ++ rest) = 0
            else rest.takeWhile isDigit = []) := by
  have held : FitsLong (leadingInt text) ↔ ∃ t : Int32, t.toInt = leadingInt text := by
    rw [← long_isSome_iff]
    exact exists_congr fun _ => long_eq_some_iff
  by_cases ends : afterInt text = []
  · have same : leadingInt (text ++ rest) = leadingInt text ↔
        if leadingInt text = 0 then leadingInt (text ++ rest) = 0
        else rest.takeWhile isDigit = [] := by
      split
      · next zero => rw [zero]
      · next nonzero => exact leadingInt_append_iff ends nonzero rest
    rw [← same, held]
    constructor
    · rintro ⟨terminated, t, whole, own⟩
      exact ⟨⟨t, own⟩, fun _ => ⟨terminated, by rw [← whole, own]⟩⟩
    · rintro ⟨⟨t, own⟩, continued⟩
      obtain ⟨terminated, equal⟩ := continued ends
      exact ⟨terminated, t, by rw [equal, own], own⟩
  · have terminated : afterInt (text ++ rest) ≠ [] := by
      rw [afterInt_append ends]
      simp [ends]
    rw [leadingInt_append ends, held]
    simp [terminated, ends]

theorem agrees_iff_unchanged (own left : List UInt8) : Agrees own (own ++ left) ↔ Unchanged own left := by
  unfold Agrees
  by_cases asks : asksMotion own = true
  · have long := length_of_asksMotion asks
    rw [if_pos (by rw [asksMotion_append long, asks]), and_iff_right asks]
    have path : ¬ own.length < 11 := by omega
    by_cases has : hasMessage own = true
    · have whole := length_of_hasMessage has
      have parameter : ¬ own.length < 20 := by omega
      rw [hasMessage_append whole, if_pos has, message, if_pos has]
      have law := @number_agrees_iff (messageText own) (left.map UInt8.toNat)
      rw [← messageText_append whole] at law
      have read : (∃ tRemote, atol ((own ++ left).drop 20) = some tRemote ∧
            tRemote.toInt = leadingInt (messageText own)) ↔
          (afterInt (messageText (own ++ left)) ≠ [] ∧
            ∃ t : Int32, t.toInt = leadingInt (messageText (own ++ left)) ∧
              t.toInt = leadingInt (messageText own)) := by
        simp only [atol_eq_some_iff, and_assoc]
        exact exists_and_left
      rw [read, law, messageText_append whole]
      constructor
      · rintro ⟨range, number⟩
        exact ⟨fun short => absurd short path, fun _ short => absurd short parameter,
          fun _ _ => range, fun _ _ => number⟩
      · intro unchanged
        exact ⟨unchanged.range asks has, unchanged.number asks has⟩
    · rw [message, if_neg has]
      have range : ∀ {P : Prop}, hasMessage own = true → P := fun there => absurd there has
      by_cases more : hasMessage (own ++ left) = true
      -- the parameter is completed by the leftover bytes
      · have short : own.length < 20 := by
          by_contra whole
          rw [hasMessage_append (Nat.le_of_not_lt whole)] at more
          exact has more
        rw [if_pos more]
        simp only [atol_eq_some_iff]
        constructor
        · rintro ⟨t, ⟨terminated, whole⟩, zero⟩
          exact ⟨fun short => absurd short path, fun _ _ _ => ⟨whole.symm.trans zero, terminated⟩,
            fun _ => range, fun _ => range⟩
        · intro unchanged
          obtain ⟨zero, terminated⟩ := unchanged.parameter asks short more
          exact ⟨0, ⟨terminated, zero.symm⟩, rfl⟩
      · rw [if_neg more]
        refine iff_of_true ⟨0, rfl, rfl⟩ ?_
        exact ⟨fun short => absurd short path, fun _ _ there => absurd there more, fun _ => range,
          fun _ => range⟩
  · have refused : asksMotion own = false := by simpa using asks
    have range : ∀ {P : Prop}, asksMotion own = true → P := fun there => absurd there asks
    by_cases more : asksMotion (own ++ left) = true
    · rw [if_pos more]
      refine iff_of_false (fun agrees => asks agrees.1) ?_
      intro unchanged
      have short : own.length < 11 := by
        by_contra whole
        rw [asksMotion_append (Nat.le_of_not_lt whole)] at more
        exact asks more
      rw [unchanged.path short] at more
      cases more
    · rw [if_neg more]
      exact iff_of_true refused ⟨fun _ => by simpa using more, range, range, range⟩

theorem judgedOnOwn_iff (task : MotionTask) (polled : Poll) :
    JudgedOnOwn task polled ↔ Undisturbed task polled := by
  cases polled with
  | acceptFails | readFails => exact Iff.rfl
  | delivers request closed =>
    constructor
    · intro judged running
      exact (agrees_iff_unchanged _ _).mp ((judgedOnOwn_iff_agrees running).mp judged)
    · intro undisturbed running
      exact (judgedOnOwn_iff_agrees running).mpr
        ((agrees_iff_unchanged _ _).mpr (undisturbed running)) running

end Exact

/-- A request with a number that ends before the request does is judged on its own bytes,
whatever came before it. -/
theorem undisturbed_of_ends {task : MotionTask} {request : Request} {closed : Bool}
    (long : 20 ≤ request.bytes.length)
    (ends : afterInt (messageText request.bytes) ≠ [])
    (fits : FitsLong (leadingInt (messageText request.bytes))) :
    Undisturbed task (.delivers request closed) := by
  intro _
  refine ⟨?_, ?_, fun _ _ => fits, fun _ _ endless => absurd endless ends⟩
  · intro short
    omega
  · intro _ short
    omega

/-- Every notification of a sequence is judged on its own bytes exactly if none of them is
completed by bytes of an earlier one. -/
theorem notifications_judged_iff (state : GlobalState) (polls : List Poll) :
    Guarded motionTask JudgedOnOwn (.start state) polls ↔
      Guarded motionTask Undisturbed (.start state) polls := by
  have same : JudgedOnOwn = Undisturbed := by
    funext task polled
    exact propext (judgedOnOwn_iff task polled)
  rw [same]

instance (task : MotionTask) (polled : Poll) : Decidable (JudgedOnOwn task polled) :=
  decidable_of_iff' _ (judgedOnOwn_iff task polled)

def emptyConnection : List Poll :=
  [.delivers ⟨ascii "GET /motion?Message=1447000000 HTTP/1.0\n\n", 100, by decide⟩ true,
    .delivers ⟨[], 200, by decide⟩ true]

/-- The empty connection is taken for a second motion event. -/
theorem empty_connection_judged_as_motion :
    ¬ Guarded motionTask JudgedOnOwn (.start ⟨0, 0⟩) emptyConnection ∧
      (run motionTask (.start ⟨0, 0⟩) emptyConnection).map (fun reached => (reached.1.state, reached.2)) =
        some (⟨200, 1447000000⟩, [1, 1]) := by
  exact ⟨by decide +kernel, by decide +kernel⟩

end NetCam.Motion
