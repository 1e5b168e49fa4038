import NetCam.Network.EndOfStream
import NetCam.Network.Reassembly

/-! The turns of `PictureReciever` on one stream, and the inner loop that they are cut from.

Between the turns nothing but the thread itself reads from the stream.
-/

set_option autoImplicit false

namespace NetCam.Network

open Semantics

namespace PictureReciever

structure Session where
  fields : Fields
  stage : Stage
  is : InputStream

namespace Session

def turn (cMon : Client.ClientMonitor) (s : Session) :
    Outcome Stage × Fields × List (Client.Cam × Client.Picture) :=
  PictureReciever.turn ⟨s.is, false, cMon⟩ s.fields s.stage

def left (s : Session) : InputStream :=
  match s.stage.window with
  | none => s.is
  | some (off, len) =>
    match InputStream.read s.fields.buffer off len s.is with
    | .ok _ is => is
    | .error _ is => is

def step (cMon : Client.ClientMonitor) : Step Session Unit (Client.Cam × Client.Picture) := fun s _ =>
  match s.turn cMon with
  | (.goesOn stage, fields, reports) => some (⟨fields, stage, s.left⟩, reports)
  | _ => none

-- So many turns that report nothing.
def Reaches (cMon : Client.ClientMonitor) (s t : Session) : Prop :=
  ∃ k, Semantics.run (step cMon) s (List.replicate k ()) = some (t, [])

variable {cMon : Client.ClientMonitor} {s t u : Session}

theorem Reaches.refl : s.Reaches cMon s := ⟨0, rfl⟩

theorem Reaches.trans (first : s.Reaches cMon t) (second : t.Reaches cMon u) : s.Reaches cMon u := by
  obtain ⟨k, first⟩ := first
  obtain ⟨m, second⟩ := second
  refine ⟨k + m, ?_⟩
  rw [List.replicate_add]
  exact (run_append_iff (step cMon)).mpr ⟨t, [], [], first, second, rfl⟩

theorem reaches_of_turn {stage : Stage} {fields : Fields} (turned : s.turn cMon = (.goesOn stage, fields, [])) :
    s.Reaches cMon ⟨fields, stage, s.left⟩ := by
  refine ⟨1, ?_⟩
  apply (run_singleton_iff (step cMon)).mpr
  simp only [step, turned]

end Session

/-- A read loop, as stages and as it is written: where the next read stores, and what
follows the loop. -/
structure Loop (camNbr : Client.Cam) (next : Nat → Nat → Nat) (stage : Nat → Nat → Stage)
    (complete : Buffer → Outcome Stage × List (Client.Cam × Client.Picture)) : Prop where
  window : ∀ off len, (stage off len).window = some (off, len)
  turn : ∀ moment buffer off len, PictureReciever.turn moment ⟨buffer, camNbr⟩ (stage off len) =
    let turned := readTurn moment buffer off len (fun n => stage (next off n) (len - n)) complete
    (turned.1, ⟨turned.2.1, camNbr⟩, turned.2.2)

theorem header_loop (camNbr : Client.Cam) : Loop camNbr (fun _ n => n) .header decodeHeader :=
  ⟨fun _ _ => rfl, fun _ _ _ _ => rfl⟩

theorem data_loop (camNbr : Client.Cam) (ts : Int64) (pictureSize : Nat) :
    Loop camNbr (fun currentPosition n => currentPosition + n) (.data ts pictureSize)
      (put camNbr ts pictureSize) :=
  ⟨fun _ _ => rfl, fun _ _ _ _ => rfl⟩

section Loops

variable {camNbr : Client.Cam} {next : Nat → Nat → Nat} {stage : Nat → Nat → Stage}
  {complete : Buffer → Outcome Stage × List (Client.Cam × Client.Picture)} (cMon : Client.ClientMonitor)

/-- The last read of a loop, where it throws or stores nothing. -/
def Ends (looped : EStateM.Result Failure InputStream (Nat × Buffer)) (buffer : Buffer) (off len : Nat)
    (is : InputStream) : Prop :=
  match looped with
  | .ok (size, filled) last => size = len ∧ filled = buffer ∧
    ∃ n, ¬ 0 < n ∧ InputStream.read buffer off len is = .ok (n, buffer) last
  | .error failure last => InputStream.read buffer off len is = .error failure last

theorem Loop.reaches_of_read (loop : Loop camNbr next stage complete) {off len : Nat} {n : Int}
    {buffer stored : Buffer} {is after : InputStream} (some_read : 0 < n)
    (read : InputStream.read buffer off len is = .ok (n, stored) after) :
    Session.Reaches cMon ⟨⟨buffer, camNbr⟩, stage off len, is⟩
      ⟨⟨stored, camNbr⟩, stage (next off n.toNat) (len - n.toNat), after⟩ := by
  have left : Session.left ⟨⟨buffer, camNbr⟩, stage off len, is⟩ = after := by
    simp only [Session.left, loop.window, read]
  have turned : Session.turn cMon ⟨⟨buffer, camNbr⟩, stage off len, is⟩ =
      (.goesOn (stage (next off n.toNat) (len - n.toNat)), ⟨stored, camNbr⟩, []) := by
    simp [Session.turn, loop.turn, readTurn, read, some_read]
  rw [← left]
  exact Session.reaches_of_turn turned

theorem Loop.turn_of_ok (loop : Loop camNbr next stage complete) {off len : Nat} {n : Int}
    {buffer : Buffer} {is last : InputStream} (none_read : ¬ 0 < n)
    (read : InputStream.read buffer off len is = .ok (n, buffer) last) :
    Session.turn cMon ⟨⟨buffer, camNbr⟩, stage off len, is⟩ =
        (if len ≠ 0 then (.breaks, ⟨buffer, camNbr⟩, [])
        else ((complete buffer).1, ⟨buffer, camNbr⟩, (complete buffer).2)) ∧
      Session.left ⟨⟨buffer, camNbr⟩, stage off len, is⟩ = last := by
  constructor
  · simp only [Session.turn, loop.turn, readTurn, read, Bool.false_eq_true, if_false, none_read]
    split <;> rfl
  · simp only [Session.left, loop.window, read]

theorem Loop.turn_of_error (loop : Loop camNbr next stage complete) {off len : Nat} {failure : Failure}
    {buffer : Buffer} {is last : InputStream}
    (read : InputStream.read buffer off len is = .error failure last) :
    Session.turn cMon ⟨⟨buffer, camNbr⟩, stage off len, is⟩ =
        (if failure = .ioException then .ioException else .otherException, ⟨buffer, camNbr⟩, []) ∧
      Session.left ⟨⟨buffer, camNbr⟩, stage off len, is⟩ = last := by
  constructor
  · simp only [Session.turn, loop.turn, readTurn, read, Bool.false_eq_true, if_false]
    cases failure <;> rfl
  · simp only [Session.left, loop.window, read]

theorem Loop.turn_of_ends (loop : Loop camNbr next stage complete) {off rest size : Nat}
    {buffer filled : Buffer} {is last : InputStream} (ends : Ends (.ok (size, filled) last) buffer off rest is) :
    filled = buffer ∧ Session.left ⟨⟨buffer, camNbr⟩, stage off rest, is⟩ = last ∧
      Session.turn cMon ⟨⟨buffer, camNbr⟩, stage off rest, is⟩ =
        if size ≠ 0 then (.breaks, ⟨buffer, camNbr⟩, [])
        else ((complete buffer).1, ⟨buffer, camNbr⟩, (complete buffer).2) := by
  obtain ⟨rfl, rfl, n, none_read, read⟩ := ends
  obtain ⟨turned, left⟩ := loop.turn_of_ok cMon none_read read
  exact ⟨rfl, left, turned⟩

/-- The turns of a loop lead to its last read. Where its offsets only grow, they leave alone
what lies before the first one. -/
theorem Loop.reaches (loop : Loop camNbr next stage complete) {turns off len : Nat} {buffer : Buffer}
    {is : InputStream} (enough : len < turns) : ∃ filled last rest left,
      Session.Reaches cMon ⟨⟨buffer, camNbr⟩, stage off len, is⟩ ⟨⟨filled, camNbr⟩, stage last rest, left⟩ ∧
        Ends (readLoop next turns buffer off len is) filled last rest left ∧
        ((∀ off n, off ≤ next off n) → ∀ front, front ≤ off →
          filled.load 0 front = buffer.load 0 front) := by
  induction turns generalizing off len buffer is with
  | zero => omega
  | succ turns ih =>
    rw [readLoop_succ]
    cases read : InputStream.read buffer off len is with
    | error failure after => exact ⟨buffer, off, len, is, .refl, read, fun _ _ _ => rfl⟩
    | ok result after =>
      obtain ⟨n, stored⟩ := result
      dsimp only
      by_cases some_read : n > 0
      · rw [if_pos some_read]
        have asked : len ≠ 0 := by
          rcases read_count read with ⟨_, rfl, _⟩ | ⟨asked, _⟩
          · omega
          · exact asked
        obtain ⟨filled, last, rest, left, reaches, ends, kept⟩ :=
          @ih (next off n.toNat) (len - n.toNat) stored after (by omega)
        refine ⟨filled, last, rest, left, .trans (loop.reaches_of_read cMon some_read read) reaches, ends, ?_⟩
        intro onward front behind
        have further := onward off n.toNat
        rw [kept onward front (by omega), read_front behind read]
      · rw [if_neg some_read]
        obtain rfl : stored = buffer := by
          rcases read_count read with ⟨_, _, same⟩ | ⟨_, ⟨_, same⟩ | more⟩
          · exact same
          · exact same
          · exact absurd more some_read
        exact ⟨stored, off, len, is, .refl, ⟨rfl, rfl, n, some_read, read⟩, fun _ _ _ => rfl⟩

end Loops

theorem decodeHeader_of_load {buffer : Buffer} {header : List UInt8}
    (loaded : buffer.load 0 HEAD_SIZE = some header) :
    decodeHeader buffer =
      (.goesOn (.data (timeStampIn header) (sizeIn header) HEAD_SIZE (sizeIn header)), []) := by
  obtain ⟨time, length⟩ := fields_of_header loaded
  simp only [decodeHeader, time, length]
  rfl

def Received (camNbr : Client.Cam) (result : EStateM.Result Failure InputStream (Option Client.Picture))
    (turned : Outcome Stage × Fields × List (Client.Cam × Client.Picture)) (left : InputStream) : Prop :=
  match result with
  | .ok (some pic) last => turned.1 = .goesOn .fill ∧ turned.2.2 = [(camNbr, pic)] ∧ left = last
  | .ok none last => turned.1 = .breaks ∧ turned.2.2 = [] ∧ left = last
  | .error failure last =>
    turned.1 = (if failure = .ioException then .ioException else .otherException) ∧
      turned.2.2 = [] ∧ left = last

theorem data_turns (camNbr : Client.Cam) (cMon : Client.ClientMonitor) (ts : Int64) (pictureSize : Nat)
    (buffer : Buffer) (is : InputStream) : ∃ last : Session,
      Session.Reaches cMon ⟨⟨buffer, camNbr⟩, .data ts pictureSize HEAD_SIZE pictureSize, is⟩ last ∧
        Received camNbr
          (match payloadLoop (pictureSize + 1) buffer HEAD_SIZE pictureSize is with
          | .ok (size, buffer) last =>
            if size ≠ 0 then .ok none last
            else
              match buffer.load HEAD_SIZE pictureSize with
              | some imageData => .ok (some ⟨imageData, ts⟩) last
              | none => .error .indexOutOfBounds last
          | .error failure last => .error failure last)
          (last.turn cMon) last.left := by
  have loop := data_loop camNbr ts pictureSize
  obtain ⟨body, off, rest, mid, reaches, ends, _⟩ :=
    @Loop.reaches _ _ _ _ cMon loop _ HEAD_SIZE _ buffer is (Nat.lt_succ_self pictureSize)
  refine ⟨_, reaches, ?_⟩
  unfold payloadLoop
  cases looped : readLoop (fun currentPosition n => currentPosition + n) (pictureSize + 1) buffer
      HEAD_SIZE pictureSize is with
  | error failure last =>
    rw [looped] at ends
    obtain ⟨turned, left⟩ := loop.turn_of_error cMon ends
    simp only [Received, turned, left, and_self]
  | ok result last =>
    obtain ⟨size, after⟩ := result
    rw [looped] at ends
    obtain ⟨rfl, left, turned⟩ := loop.turn_of_ends cMon ends
    rw [left, turned]
    by_cases short : size ≠ 0
    · simp only [short, ne_eq, not_false_eq_true, if_true, Received, and_self]
    · simp only [short, if_false, put]
      cases after.load HEAD_SIZE pictureSize <;> simp [Received]

theorem receive_turns (camNbr : Client.Cam) (cMon : Client.ClientMonitor) (buffer : Buffer)
    (is : InputStream) : ∃ last : Session,
      Session.Reaches cMon ⟨⟨buffer, camNbr⟩, .fill, is⟩ last ∧
        Received camNbr (receive is) (last.turn cMon) last.left := by
  have loop := header_loop camNbr
  have filled : Session.Reaches cMon ⟨⟨buffer, camNbr⟩, .fill, is⟩
      ⟨⟨.filled MAXIMUM_PICTURE_SIZE 65, camNbr⟩, .header 0 HEAD_SIZE, is⟩ := Session.reaches_of_turn rfl
  obtain ⟨header, off, rest, mid, headed, ends, _⟩ :=
    @Loop.reaches _ _ _ _ cMon loop _ 0 _ (.filled _ 65) is (Nat.lt_succ_self HEAD_SIZE)
  have reaches := filled.trans headed
  cases looped : readLoop (fun _ n => n) (HEAD_SIZE + 1) (.filled MAXIMUM_PICTURE_SIZE 65) 0 HEAD_SIZE is with
  | error failure last =>
    rw [looped] at ends
    obtain ⟨turned, left⟩ := loop.turn_of_error cMon ends
    refine ⟨_, reaches, ?_⟩
    simp only [receive, headerLoop, bind, EStateM.bind, looped, Received, turned, left, and_self]
  | ok result last =>
    obtain ⟨size, after⟩ := result
    rw [looped] at ends
    obtain ⟨rfl, left, turned⟩ := loop.turn_of_ends cMon ends
    by_cases short : size ≠ 0
    · rw [if_pos short] at turned
      refine ⟨_, reaches, ?_⟩
      simp only [receive, headerLoop, bind, EStateM.bind, looped, Received, turned, left, short, ne_eq,
        not_false_eq_true, if_true, pure, EStateM.pure, and_self]
    · obtain rfl : size = 0 := of_not_not short
      obtain ⟨bytes, loaded⟩ := @Memory.load_isSome _ after 0 HEAD_SIZE (by decide)
      rw [if_neg short, decodeHeader_of_load loaded] at turned
      have decoded := Session.reaches_of_turn turned
      rw [left] at decoded
      obtain ⟨final, carried, received⟩ :=
        data_turns camNbr cMon (timeStampIn bytes) (sizeIn bytes) after last
      rw [receive_body looped loaded]
      exact ⟨final, (reaches.trans decoded).trans carried, received⟩

/-- The loop ends for every size that fits and however the bytes are cut up, and does not
touch the header. With the picture there it takes its bytes and no more, in order, and the
thread is back at the next header; else it comes to the end of the stream and puts nothing. -/
theorem payload_loop {s turns : Nat} (fits : HEAD_SIZE + s ≤ MAXIMUM_PICTURE_SIZE) (enough : s < turns)
    (buffer : Buffer) (is : InputStream) (camNbr : Client.Cam) (cMon : Client.ClientMonitor) (ts : Int64) :
    ∃ last : Session, Session.Reaches cMon ⟨⟨buffer, camNbr⟩, .data ts s HEAD_SIZE s, is⟩ last ∧
      last.fields.buffer.load 0 HEAD_SIZE = buffer.load 0 HEAD_SIZE ∧
      if s ≤ is.pending.length then
        payloadLoop turns buffer HEAD_SIZE s is = .ok (0, last.fields.buffer) last.left ∧
          last.left = { is with pending := is.pending.drop s, cuts := (divide is.cuts s).2 } ∧
          last.fields.buffer.load HEAD_SIZE s = some (is.pending.take s) ∧
          last.turn cMon = (.goesOn .fill, last.fields, [(camNbr, ⟨is.pending.take s, ts⟩)])
      else
        last.left.pending = [] ∧
          if is.reset then
            payloadLoop turns buffer HEAD_SIZE s is = .error .ioException last.left ∧
              last.turn cMon = (.ioException, last.fields, [])
          else
            (∃ size, 0 < size ∧
              payloadLoop turns buffer HEAD_SIZE s is = .ok (size, last.fields.buffer) last.left) ∧
              last.turn cMon = (.breaks, last.fields, []) := by
  have loop := data_loop camNbr ts s
  obtain ⟨filled, off, rest, mid, reaches, ends, kept⟩ :=
    @Loop.reaches _ _ _ _ cMon loop _ HEAD_SIZE _ buffer is enough
  have front := kept (fun off n => Nat.le_add_right off n) HEAD_SIZE (Nat.le_refl _)
  refine ⟨_, reaches, front, ?_⟩
  -- with the picture there the loop ends with the read for nothing, else with one that finds no more
  by_cases there : s ≤ is.pending.length
  · obtain ⟨stored, done, loaded⟩ := payloadLoop_complete buffer fits there enough
    rw [if_pos there]
    unfold payloadLoop at done ⊢
    rw [done] at ends
    obtain ⟨rfl, left, turned⟩ := loop.turn_of_ends cMon ends
    rw [left, turned, if_neg (not_not_intro rfl)]
    refine ⟨done, rfl, loaded, ?_⟩
    simp only [put, loaded]
  · obtain ⟨last, ended, same, outcome⟩ :=
      @readLoop_short _ _ steady_sum turns HEAD_SIZE s buffer is fits (Nat.lt_of_not_le there) enough
    rw [if_neg there]
    unfold payloadLoop
    rcases outcome with ⟨reset, failed⟩ | ⟨calm, size, stored, more, stopped⟩
    · rw [failed] at ends
      obtain ⟨turned, left⟩ := loop.turn_of_error cMon ends
      rw [left, if_pos reset]
      exact ⟨ended, failed, turned⟩
    · rw [stopped] at ends
      obtain ⟨rfl, left, turned⟩ := loop.turn_of_ends cMon ends
      rw [left, if_neg (by rw [calm]; exact Bool.false_ne_true), turned, if_pos more]
      exact ⟨ended, ⟨size, Nat.pos_of_ne_zero more, stopped⟩, rfl⟩

theorem payload_loop_two : ∃ last : Session,
    Session.Reaches .fresh ⟨⟨.filled _ 65, .one⟩, .data 7 2 HEAD_SIZE 2, ⟨[1, 2, 3], [1], false⟩⟩ last ∧
      last.left.pending = [3] ∧
      last.turn .fresh = (.goesOn .fill, last.fields, [(.one, ⟨[1, 2], 7⟩)]) := by
  obtain ⟨last, reaches, _, taken⟩ := @payload_loop 2 3 (by decide) (by decide) (.filled _ 65)
    ⟨[1, 2, 3], [1], false⟩ .one .fresh 7
  obtain ⟨_, left, _, turned⟩ := taken
  refine ⟨last, reaches, ?_, turned⟩
  rw [left]
  rfl

end PictureReciever

end NetCam.Network
