import Mathlib.Data.List.GetD
import Mathlib.Logic.Relation
import NetCam.Network.EndOfStream
import NetCam.Network.Reassembly

/-! Reassembly of motion responses from a stream that arrives in chunks.

Both read loops of `MotionDataReceiver` pass the last count as the offset of the next
read. A second chunk of the header is stored where it belongs, a third one is not, and of
the body nothing but the first chunk is.
-/

set_option autoImplicit false

namespace NetCam.Network

open Semantics

namespace MotionDataReceiver

def headerLoop : Nat → MotionPack.Buffer → Nat → Nat →
    EStateM Failure InputStream (Nat × MotionPack.Buffer) :=
  readLoop fun _ n => n

def timesLoop : Nat → MotionPack.Buffer → Nat → Nat →
    EStateM Failure InputStream (Nat × MotionPack.Buffer) :=
  readLoop fun _ n => n

-- How a loop is left: with all its bytes, at the end of the stream, or by an exception.
def loopOutcome : EStateM.Result Failure InputStream (Nat × MotionPack.Buffer) →
    Outcome MotionPack.Buffer × InputStream
  | .ok (size, buffer) is => (if size ≠ 0 then .breaks else .goesOn buffer, is)
  | .error .ioException is => (.ioException, is)
  | .error _ is => (.otherException, is)

/-- The two read loops of one turn of the inner loop: the buffer that is left to `getTimes`. -/
def receive (buffer : MotionPack.Buffer) (is : InputStream) : Outcome MotionPack.Buffer × InputStream :=
  match loopOutcome (headerLoop (MotionPack.HEAD_SIZE + 1) buffer 0 MotionPack.HEAD_SIZE is) with
  | (.goesOn buffer, is) =>
    match MotionPack.getTimeSize buffer with
    | .error _ => (.otherException, is)
    | .ok timeSize =>
      if timeSize < 0 then (.otherException, is)
      else
        let size := timeSize.toNatClampNeg
        loopOutcome (timesLoop (size + 1) buffer MotionPack.HEAD_SIZE size is)
  | left => left

section Turns

variable (cMon : Client.ClientMonitor) (fields : Fields)

def Reads (s t : Stage × MotionPack.Buffer × InputStream) : Prop :=
  (∃ n, InputStream.read s.2.1 s.1.window.1 s.1.window.2 s.2.2 = .ok (n, t.2.1) t.2.2) ∧
    turn ⟨s.2.2, false, cMon⟩ { fields with buffer := s.2.1 } s.1 =
      (.goesOn t.1, { fields with buffer := t.2.1 }, [])

variable {complete : MotionPack.Buffer → Outcome Stage × List Call} {stage : Nat → Nat → Stage}
  {buffer filled : MotionPack.Buffer} {is last : InputStream}

theorem loop_reads (window : ∀ off len, (stage off len).window = (off, len))
    (turned : ∀ moment buffer off len, turn moment { fields with buffer := buffer } (stage off len) =
      let result := readTurn moment buffer off len (fun n => stage n (len - n)) complete
      (result.1, { fields with buffer := result.2.1 }, result.2.2))
    {turns first len : Nat}
    (looped : readLoop (fun _ n => n) turns buffer first len is = .ok (0, filled) last) :
    ∃ off, off ≤ MotionPack.BUFFER_SIZE ∧
      Relation.ReflTransGen (Reads cMon fields) (stage first len, buffer, is)
        (stage off 0, filled, last) := by
  induction turns generalizing first len buffer is with
  | zero => cases looped
  | succ turns ih =>
    rw [readLoop_succ] at looped
    cases read : InputStream.read buffer first len is with
    | error failure after =>
      rw [read] at looped
      cases looped
    | ok result after =>
      obtain ⟨n, stored⟩ := result
      rw [read] at looped
      dsimp only at looped
      by_cases some_read : n > 0
      · rw [if_pos some_read] at looped
        obtain ⟨off, inside, later⟩ := ih looped
        refine ⟨off, inside, .head ⟨⟨n, ?_⟩, ?_⟩ later⟩
        · rw [window]
          exact read
        · rw [turned]
          simp [readTurn, read, some_read]
      · rw [if_neg some_read] at looped
        cases looped
        -- the read for no bytes that ends the loop
        have inside : first ≤ MotionPack.BUFFER_SIZE := by
          by_contra outside
          unfold InputStream.read at read
          rw [if_pos (by omega)] at read
          cases read
        rw [read_nothing inside] at read
        cases read
        exact ⟨first, inside, .refl⟩

theorem receive_turns (received : receive buffer is = (.goesOn filled, last)) :
    ∃ off, Relation.ReflTransGen (Reads cMon fields)
        (.header 0 MotionPack.HEAD_SIZE, buffer, is) (.times off 0, filled, last) ∧
      turn ⟨last, false, cMon⟩ { fields with buffer := filled } (.times off 0) =
        ((report fields.lastMotionTime fields.camNbr filled).1, { fields with buffer := filled },
          (report fields.lastMotionTime fields.camNbr filled).2) := by
  have of_goesOn : ∀ {result buffer is}, loopOutcome result = (.goesOn buffer, is) →
      result = .ok (0, buffer) is := by
    intro result buffer is left
    match result with
    | .ok (0, _) _ => cases left; rfl
    | .ok (_ + 1, _) _ => simp [loopOutcome] at left
    | .error failure _ => cases failure <;> cases left
  unfold receive at received
  split at received
  · next first mid headed =>
    split at received
    · cases received
    · next timeSize found =>
      split at received
      · cases received
      · next counted =>
        obtain ⟨end_header, inside, header⟩ := @loop_reads cMon fields decodeHeader Stage.header
          _ _ _ _ (fun _ _ => rfl) (fun _ _ _ _ => rfl) _ _ _ (of_goesOn headed)
        obtain ⟨off, within, times⟩ := @loop_reads cMon fields
          (report fields.lastMotionTime fields.camNbr) Stage.times _ _ _ _
          (fun _ _ => rfl) (fun _ _ _ _ => rfl) _ _ _ (of_goesOn received)
        have decoded : Reads cMon fields (.header end_header 0, first, mid)
            (.times MotionPack.HEAD_SIZE timeSize.toNatClampNeg, first, mid) := by
          refine ⟨⟨0, read_nothing inside⟩, ?_⟩
          simp only [turn]
          rw [readTurn_nothing rfl inside]
          simp only [decodeHeader, found, if_neg counted]
        refine ⟨off, (header.tail decoded).trans times, ?_⟩
        simp only [turn]
        rw [readTurn_nothing rfl within]
  · next left stopped =>
    exact absurd received (stopped filled last)

end Turns

/-- The time size `MotionPack` finds in a header. -/
def timeSizeIn (header : List UInt8) : Except Unchecked Int32 :=
  parseInt (trim (((header.drop 31).take 3).map char))

/-- A header that announces the bytes that follow it, and room for both. -/
structure Response where
  header : List UInt8
  body : List UInt8
  headed : header.length = MotionPack.HEAD_SIZE
  sized : timeSizeIn header = .ok (Int32.ofNat body.length)
  fits : MotionPack.HEAD_SIZE + body.length ≤ MotionPack.BUFFER_SIZE

namespace Response

def bytes (response : Response) : List UInt8 := response.header ++ response.body

def size (response : Response) : Nat := MotionPack.HEAD_SIZE + response.body.length

theorem length_bytes (response : Response) : response.bytes.length = response.size := by
  rw [bytes, size, List.length_append, response.headed]

def headerChunks (cuts : List Nat) : List Nat := (divide cuts MotionPack.HEAD_SIZE).1

def bodyChunks (response : Response) (cuts : List Nat) : List Nat :=
  (divide (divide cuts MotionPack.HEAD_SIZE).2 response.body.length).1

def laidHeader (response : Response) (cuts : List Nat) (cells : List UInt8) : List UInt8 :=
  lay (fun _ n => n) cells 0 (headerChunks cuts) response.header

def laid (response : Response) (cuts : List Nat) (cells : List UInt8) : List UInt8 :=
  lay (fun _ n => n) (response.laidHeader cuts cells) MotionPack.HEAD_SIZE (response.bodyChunks cuts)
    response.body

-- The two loops take exactly the response from the stream, and leave it in the buffer.
def Reassembled (response : Response) (buffer : MotionPack.Buffer) (cuts : List Nat)
    (more : List UInt8) (reset : Bool) : Prop :=
  ∃ filled last, receive buffer ⟨response.bytes ++ more, cuts, reset⟩ = (.goesOn filled, last) ∧
    filled.load 0 response.size = some response.bytes ∧ last.pending = more

end Response

theorem timeSizeIn_of_load {buffer : MotionPack.Buffer} {window : Nat} {cells : List UInt8}
    (loaded : buffer.load 0 window = some cells) (inside : 34 ≤ window) :
    MotionPack.getTimeSize buffer = timeSizeIn cells := by
  have part := Memory.load_within 31 3 loaded inside
  unfold MotionPack.getTimeSize timeSizeIn
  rw [part]
  rfl

section Loops

variable (response : Response) (cuts : List Nat) (more : List UInt8) (reset : Bool)
  {buffer : MotionPack.Buffer} {cells : List UInt8}

theorem headerLoop_complete (loaded : buffer.load 0 response.size = some cells) :
    ∃ first, headerLoop (MotionPack.HEAD_SIZE + 1) buffer 0 MotionPack.HEAD_SIZE
        ⟨response.bytes ++ more, cuts, reset⟩ =
          .ok (0, first) ⟨response.body ++ more, (divide cuts MotionPack.HEAD_SIZE).2, reset⟩ ∧
      first.load 0 response.size = some (response.laidHeader cuts cells) := by
  have headed := response.headed
  obtain ⟨first, looped, laid⟩ := @readLoop_complete _ _ steady_last response.size
    (MotionPack.HEAD_SIZE + 1) 0 MotionPack.HEAD_SIZE buffer ⟨response.bytes ++ more, cuts, reset⟩ cells
    (by unfold Response.size; omega)
    (by rw [List.length_append, response.length_bytes]; unfold Response.size; omega)
    (Nat.lt_succ_self _) loaded
  refine ⟨first, ?_, ?_⟩
  · rw [headerLoop, looped]
    simp only [Response.bytes, List.append_assoc, List.drop_left' headed]
  · rw [laid]
    simp only [Response.bytes, List.append_assoc, List.take_left' headed]
    rfl

theorem receive_eq (loaded : buffer.load 0 response.size = some cells) :
    ∃ first, first.load 0 response.size = some (response.laidHeader cuts cells) ∧
      receive buffer ⟨response.bytes ++ more, cuts, reset⟩ =
        let is : InputStream := ⟨response.body ++ more, (divide cuts MotionPack.HEAD_SIZE).2, reset⟩
        match timeSizeIn (response.laidHeader cuts cells) with
        | .error _ => (.otherException, is)
        | .ok timeSize =>
          if timeSize < 0 then (.otherException, is)
          else loopOutcome (timesLoop (timeSize.toNatClampNeg + 1) first MotionPack.HEAD_SIZE
            timeSize.toNatClampNeg is) := by
  obtain ⟨first, looped, laid⟩ := headerLoop_complete response cuts more reset loaded
  have size := timeSizeIn_of_load laid (by unfold Response.size MotionPack.HEAD_SIZE; omega)
  refine ⟨first, laid, ?_⟩
  simp only [receive, looped, loopOutcome, ne_eq, not_true_eq_false, if_false, size]

theorem timesLoop_iff {first : MotionPack.Buffer} (cuts : List Nat) {size : Nat}
    (loaded : first.load 0 response.size = some cells) :
    (∃ filled last, loopOutcome (timesLoop (size + 1) first MotionPack.HEAD_SIZE size
          ⟨response.body ++ more, cuts, reset⟩) = (.goesOn filled, last) ∧
        filled.load 0 response.size = some response.bytes ∧ last.pending = more) ↔
      size = response.body.length ∧
        lay (fun _ n => n) cells MotionPack.HEAD_SIZE (divide cuts response.body.length).1
          response.body = response.bytes := by
  have fits := response.fits
  by_cases own : size = response.body.length
  · subst own
    obtain ⟨filled, looped, laid⟩ := @readLoop_complete _ _ steady_last response.size
      (response.body.length + 1) MotionPack.HEAD_SIZE response.body.length first
      ⟨response.body ++ more, cuts, reset⟩ cells (Nat.le_refl _)
      (by rw [List.length_append]; omega) (Nat.lt_succ_self _) loaded
    simp only [List.take_left' rfl, List.drop_left' rfl] at looped laid
    simp only [timesLoop, looped, loopOutcome, ne_eq, not_true_eq_false, if_false, true_and]
    constructor
    · rintro ⟨_, _, same, whole, _⟩
      cases same
      exact Option.some.inj (laid.symm.trans whole)
    · intro same
      exact ⟨filled, _, rfl, same ▸ laid, rfl⟩
  · refine iff_of_false ?_ (fun both => own both.1)
    rintro ⟨filled, last, left, whole, rest⟩
    by_cases outside : MotionPack.BUFFER_SIZE < MotionPack.HEAD_SIZE + size
    · rw [timesLoop, readLoop_outside outside] at left
      cases left
    by_cases there : size ≤ (response.body ++ more).length
    · obtain ⟨cells, loaded⟩ : ∃ cells, first.load 0 (MotionPack.HEAD_SIZE + size) = some cells :=
        Memory.load_isSome first (by omega)
      obtain ⟨next, looped, _⟩ := @readLoop_complete _ _ steady_last _ (size + 1)
        MotionPack.HEAD_SIZE size first ⟨response.body ++ more, cuts, reset⟩ cells (Nat.le_refl _)
        there (Nat.lt_succ_self _) loaded
      simp only [timesLoop, looped, loopOutcome, ne_eq, not_true_eq_false, if_false] at left
      cases left
      -- what is left of the stream tells how much was taken
      have taken := congrArg List.length rest
      rw [List.length_append] at there
      simp only [List.length_drop, List.length_append] at taken
      omega
    · obtain ⟨ended, _, _, outcome⟩ := @readLoop_short _ _ steady_last (size + 1)
        MotionPack.HEAD_SIZE size first ⟨response.body ++ more, cuts, reset⟩ (by omega)
        (Nat.lt_of_not_le there) (Nat.lt_succ_self _)
      rcases outcome with ⟨_, failed⟩ | ⟨_, size, next, some_left, stopped⟩
      · rw [timesLoop, failed] at left
        cases left
      · rw [timesLoop, stopped] at left
        simp only [loopOutcome, ne_eq, some_left, not_false_eq_true, if_true] at left
        cases left

end Loops

/-- A response is reassembled precisely when the chunks of its header, each at the offset the loop
gives it, spell the right size, and all chunks together the response. -/
theorem reassembled_iff_laid (response : Response) {buffer : MotionPack.Buffer} {cells : List UInt8}
    (loaded : buffer.load 0 response.size = some cells) (cuts : List Nat) (more : List UInt8)
    (reset : Bool) :
    response.Reassembled buffer cuts more reset ↔
      timeSizeIn (response.laidHeader cuts cells) = .ok (Int32.ofNat response.body.length) ∧
        response.laid cuts cells = response.bytes := by
  have fits := response.fits
  have short : response.body.length < 2 ^ 31 := by
    unfold MotionPack.BUFFER_SIZE at fits
    omega
  obtain ⟨first, headed, received⟩ := receive_eq response cuts more reset loaded
  unfold Response.Reassembled
  rw [received]
  cases found : timeSizeIn (response.laidHeader cuts cells) with
  | error thrown => simp
  | ok timeSize =>
    dsimp only
    by_cases negative : timeSize < 0
    · rw [if_pos negative]
      refine iff_of_false ?_ ?_
      · rintro ⟨_, _, left, _⟩
        cases left
      · rintro ⟨same, _⟩
        cases same
        rw [Int32.lt_iff_toInt_lt, Int32.toInt_ofNat_of_lt short] at negative
        exact absurd negative (by simp)
    · rw [if_neg negative, timesLoop_iff response more reset _ headed]
      have number : timeSize.toNatClampNeg = response.body.length ↔
          (.ok timeSize : Except Unchecked Int32) = .ok (Int32.ofNat response.body.length) := by
        constructor
        · intro same
          rw [← same, Int32.ofNat_toNatClampNeg timeSize (Int32.not_lt.mp negative)]
        · intro same
          cases same
          exact Int32.toNatClampNeg_ofNat_of_lt short
      rw [number]
      rfl

section Chunks

variable {cells bytes : List UInt8} {off i : Nat} {chunks : List Nat}

theorem divide_pos (cuts : List Nat) (total : Nat) : ∀ n ∈ (divide cuts total).1, 0 < n := by
  induction total using Nat.strongRecOn generalizing cuts with
  | ind total ih =>
    rcases Nat.eq_zero_or_pos total with rfl | more
    · cases cuts <;> simp [divide]
    · have size : 1 ≤ InputStream.chunk cuts total ∧ InputStream.chunk cuts total ≤ total := by
        unfold InputStream.chunk
        omega
      rw [divide_succ cuts more]
      exact List.forall_mem_cons.mpr ⟨size.1, ih _ (by omega) _⟩

theorem splice_getElem? {first : List UInt8} (inside : off + first.length ≤ cells.length)
    (beyond : i < off ∨ off + first.length ≤ i) : (Memory.splice cells off first)[i]? = cells[i]? := by
  have front : (cells.take off).length = off := by
    rw [List.length_take]
    omega
  unfold Memory.splice
  rcases beyond with before | behind
  · rw [List.append_assoc, List.getElem?_append_left (by omega), List.getElem?_take_of_lt before]
  · rw [List.getElem?_append_right (by rw [List.length_append]; omega), List.length_append, front,
      List.getElem?_drop]
    congr 1
    omega

theorem splice_length {first : List UInt8} (inside : off + first.length ≤ cells.length) :
    (Memory.splice cells off first).length = cells.length := by
  simp only [Memory.splice, List.length_append, List.length_take, List.length_drop]
  omega

theorem lay_last_length (inside : off + chunks.sum ≤ cells.length) :
    (lay (fun _ n => n) cells off chunks bytes).length = cells.length := by
  induction chunks generalizing cells bytes off with
  | nil => rfl
  | cons n chunks ih =>
    rw [List.sum_cons] at inside
    have count : (bytes.take n).length ≤ n := by
      rw [List.length_take]
      exact Nat.min_le_left _ _
    have long := @splice_length cells off (bytes.take n) (by omega)
    rw [lay, ih (by omega), long]

theorem lay_last_beyond (beyond : off + chunks.sum ≤ i) (inside : i < cells.length) :
    (lay (fun _ n => n) cells off chunks bytes)[i]? = cells[i]? := by
  induction chunks generalizing cells bytes off with
  | nil => rfl
  | cons n chunks ih =>
    rw [List.sum_cons] at beyond
    have count : (bytes.take n).length ≤ n := by
      rw [List.length_take]
      exact Nat.min_le_left _ _
    have long := @splice_length cells off (bytes.take n) (by omega)
    rw [lay, ih (by omega) (by rw [long]; exact inside)]
    exact splice_getElem? (by omega) (.inr (by omega))

end Chunks

/-- Of three chunks and more, stored from the front on, none gets to the last cell. -/
theorem lay_last_of_three {cells bytes : List UInt8} {first second i : Nat} {rest : List Nat}
    (some_first : 0 < first) (some_rest : 0 < rest.sum) (total : first + (second + rest.sum) = i + 1)
    (inside : i < cells.length) :
    (lay (fun _ n => n) cells 0 (first :: second :: rest) bytes)[i]? = cells[i]? := by
  have count : (bytes.take first).length ≤ first := by
    rw [List.length_take]
    exact Nat.min_le_left _ _
  have next : ((bytes.drop first).take second).length ≤ second := by
    rw [List.length_take]
    exact Nat.min_le_left _ _
  have long := @splice_length cells 0 (bytes.take first) (by omega)
  have longer := @splice_length _ first ((bytes.drop first).take second)
    (show _ ≤ (Memory.splice cells 0 (bytes.take first)).length by omega)
  rw [lay, lay, lay_last_beyond (by omega) (by omega), splice_getElem? (by omega) (.inr (by omega)),
    splice_getElem? (by omega) (.inr (by omega))]

theorem lay_of_one {cells bytes : List UInt8} {off : Nat} {chunks : List Nat}
    (few : chunks.length ≤ 1) (whole : chunks.sum = bytes.length) :
    lay (fun _ n => n) cells off chunks bytes = Memory.splice cells off bytes := by
  match chunks, few with
  | [], _ =>
    have none_left : bytes = [] := List.eq_nil_of_length_eq_zero whole.symm
    simp [lay, none_left, Memory.splice]
  | [n], _ =>
    have all : bytes.length ≤ n := by simpa using Nat.le_of_eq whole.symm
    simp only [lay, List.take_of_length_le all]

namespace Response

variable (response : Response) {cuts : List Nat} {cells : List UInt8}

theorem headerChunks_sum (cuts : List Nat) : (headerChunks cuts).sum = response.header.length := by
  rw [headerChunks, divide_sum, response.headed]

theorem bodyChunks_sum (cuts : List Nat) : (response.bodyChunks cuts).sum = response.body.length :=
  divide_sum _ _

/-- Two chunks for the header and one for the body are the best that can be hoped for. -/
theorem laid_of_few (whole : cells.length = response.size)
    (header : (headerChunks cuts).length ≤ 2) (body : (response.bodyChunks cuts).length ≤ 1) :
    response.laidHeader cuts cells = Memory.splice cells 0 response.header ∧
      response.laid cuts cells = response.bytes := by
  have headed := response.headed
  have inside : response.header.length ≤ cells.length := by
    rw [whole, size]
    omega
  have first := lay_of_two header (response.headerChunks_sum cuts) inside
  refine ⟨first, ?_⟩
  unfold laid laidHeader
  rw [first, lay_of_one body (response.bodyChunks_sum cuts), ← headed]
  have after := @Memory.splice_append 0 response.header cells response.body (Nat.zero_le _)
  rw [Nat.zero_add] at after
  rw [after]
  exact Memory.splice_all (by rw [whole]; exact response.length_bytes)

theorem timeSizeIn_splice (cells : List UInt8) :
    timeSizeIn (Memory.splice cells 0 response.header) = .ok (Int32.ofNat response.body.length) := by
  have headed := response.headed
  rw [← response.sized]
  unfold timeSizeIn Memory.splice
  rw [List.take_zero, List.nil_append, List.drop_append_of_le_length (by rw [headed]; decide),
    List.take_append_of_le_length (by rw [List.length_drop, headed]; decide)]

/-- The last cell of the header is never written when a third chunk is needed. -/
theorem laidHeader_last (inside : MotionPack.HEAD_SIZE ≤ cells.length)
    (many : 2 < (headerChunks cuts).length) :
    (response.laidHeader cuts cells)[MotionPack.HEAD_SIZE - 1]? =
      cells[MotionPack.HEAD_SIZE - 1]? := by
  have sum := response.headerChunks_sum cuts
  have positive : ∀ n ∈ headerChunks cuts, 0 < n := divide_pos cuts MotionPack.HEAD_SIZE
  unfold laidHeader
  generalize headerChunks cuts = chunks at many sum positive
  match chunks, many with
  | first :: second :: third :: rest, _ =>
    simp only [List.forall_mem_cons] at positive
    rw [response.headed, List.sum_cons, List.sum_cons, List.sum_cons] at sum
    unfold MotionPack.HEAD_SIZE at *
    exact lay_last_of_three (by omega) (by rw [List.sum_cons]; omega) (by rw [List.sum_cons]; omega)
      (by omega)

theorem laidHeader_length (whole : cells.length = response.size) :
    (response.laidHeader cuts cells).length = response.size := by
  rw [← whole]
  apply lay_last_length
  rw [response.headerChunks_sum, response.headed, whole, Nat.zero_add]
  exact Nat.le_add_right _ _

/-- Nor is the last cell of the body when there is a second chunk. -/
theorem laid_last (whole : cells.length = response.size)
    (many : 1 < (response.bodyChunks cuts).length) :
    (response.laid cuts cells)[response.size - 1]? = cells[response.size - 1]? := by
  have sum := response.bodyChunks_sum cuts
  have head := response.headerChunks_sum cuts
  have positive : ∀ n ∈ response.bodyChunks cuts, 0 < n := divide_pos _ _
  have fits := response.fits
  have headed := response.headed
  have long := @laidHeader_length response cuts cells whole
  rw [headed] at head
  unfold size MotionPack.HEAD_SIZE MotionPack.BUFFER_SIZE at *
  unfold laid
  generalize response.bodyChunks cuts = chunks at many sum positive
  match chunks, many with
  | first :: second :: rest, _ =>
    simp only [List.forall_mem_cons] at positive
    rw [List.sum_cons, List.sum_cons] at sum
    have count : (response.body.take first).length ≤ first := by
      rw [List.length_take]
      exact Nat.min_le_left _ _
    have kept : (response.laidHeader cuts cells)[58 + response.body.length - 1]? =
        cells[58 + response.body.length - 1]? := lay_last_beyond (by omega) (by omega)
    rw [← kept, lay, lay_last_beyond (by rw [List.sum_cons]; omega)]
    · unfold MotionPack.HEAD_SIZE
      exact splice_getElem? (by omega) (.inr (by omega))
    · rw [splice_length (by unfold MotionPack.HEAD_SIZE; omega)]
      omega

def front (buffer : MotionPack.Buffer) : List UInt8 := (buffer.load 0 response.size).getD []

theorem load_front (buffer : MotionPack.Buffer) :
    buffer.load 0 response.size = some (response.front buffer) := by
  have fits := response.fits
  obtain ⟨cells, loaded⟩ := @Memory.load_isSome _ buffer 0 response.size (by unfold size; omega)
  rw [front, loaded]
  rfl

theorem exists_other (first second : UInt8) : ∃ other, other ≠ first ∧ other ≠ second := by
  by_cases free : first ≠ 0 ∧ second ≠ 0
  · exact ⟨0, free.1.symm, free.2.symm⟩
  · by_cases free : first ≠ 1 ∧ second ≠ 1
    · exact ⟨1, free.1.symm, free.2.symm⟩
    · exact ⟨2, by grind⟩

/-- A response is reassembled precisely when its chunks, at the offsets that the loops give
them, spell its size and then the response. Over whatever the buffer holds, this is so only
for a header in at most two chunks and a body in at most one. -/
theorem reassembled_iff (cuts : List Nat) (more : List UInt8) (reset : Bool) :
    (∀ buffer, response.Reassembled buffer cuts more reset ↔
      timeSizeIn (response.laidHeader cuts (response.front buffer)) =
          .ok (Int32.ofNat response.body.length) ∧
        response.laid cuts (response.front buffer) = response.bytes) ∧
    ((∀ buffer, response.Reassembled buffer cuts more reset) ↔
      (headerChunks cuts).length ≤ 2 ∧ (response.bodyChunks cuts).length ≤ 1) := by
  have law : ∀ buffer, _ := fun buffer =>
    reassembled_iff_laid response (response.load_front buffer) cuts more reset
  refine ⟨law, ?_, ?_⟩
  · intro always
    have headed := response.headed
    have fits := response.fits
    have long := response.length_bytes
    -- a buffer full of a byte that ends neither the header nor the response
    obtain ⟨other, header, body⟩ := exists_other (response.bytes.getD (MotionPack.HEAD_SIZE - 1) 0)
      (response.bytes.getD (response.size - 1) 0)
    have filled : response.front (.filled _ other) = List.replicate response.size other := by
      rw [front, Memory.load_filled (by unfold size; omega)]
      rfl
    have spelled := ((law (.filled _ other)).mp (always _)).2
    rw [filled] at spelled
    have cell : ∀ i, i < response.size → other ≠ response.bytes.getD i 0 →
        (response.laid cuts (List.replicate response.size other))[i]? ≠
          (List.replicate response.size other)[i]? := by
      intro i inside differ same
      rw [spelled, List.getElem?_eq_getElem (by omega), List.getElem?_eq_getElem (by simpa using inside)]
        at same
      simp only [List.getElem_replicate, Option.some.injEq] at same
      rw [List.getD_eq_getElem _ _ (by omega)] at differ
      exact differ same.symm
    have room : 0 < response.size := by unfold size MotionPack.HEAD_SIZE; omega
    have one : (response.bodyChunks cuts).length ≤ 1 := by
      by_contra many
      exact cell _ (by omega) body (response.laid_last List.length_replicate (by omega))
    refine ⟨?_, one⟩
    by_contra many
    have untouched := @laidHeader_last response cuts (List.replicate response.size other)
      (by rw [List.length_replicate]; unfold size; omega) (by omega)
    apply cell (MotionPack.HEAD_SIZE - 1) (by unfold size MotionPack.HEAD_SIZE; omega) header
    rw [← untouched, laid, lay_of_one one (response.bodyChunks_sum cuts)]
    refine splice_getElem? ?_ (.inl (by decide))
    rw [response.laidHeader_length List.length_replicate]
    exact Nat.le_refl _
  · rintro ⟨header, body⟩ buffer
    have whole := (Memory.load_eq_some_iff.mp (response.load_front buffer)).2.1
    obtain ⟨first, both⟩ := response.laid_of_few whole header body
    apply (law buffer).mpr
    rw [first]
    exact ⟨response.timeSizeIn_splice _, both⟩

/-- What the client takes of the motion server's response `500:1000:500`. -/
def sample : Response :=
  { header := ascii "HTTP/1.0 200 OK\nContent-Length:12\nContent-Type: text/plain"
    body := ascii "\n\n500:1000:5"
    headed := by decide
    sized := by decide
    fits := by decide }

/-- The body in chunks of two and ten bytes: the second one is stored in the header. -/
theorem second_chunk_in_header : ¬ sample.Reassembled (.filled _ 0) [58, 2, 10] [] false := by
  rw [reassembled_iff_laid sample (Memory.load_filled (by decide))]
  rintro ⟨_, same⟩
  exact absurd same (by decide)

end Response

end MotionDataReceiver

end NetCam.Network
