import NetCam.Network.Feed

/-! Packets that are read where they begin.

What the receiver has read of a packet, with what is still on its way, is what was written. A
receiver that is in step with the connection gets the next frame out of it.
-/

set_option autoImplicit false

namespace NetCam.Network

open Semantics

/-- What has been read of a packet, with what is on its way, is what was written; all of it as
long as the connection is up. -/
structure Aligned (wire : Wire) (held : List UInt8) (rest : List Camera.Frame) : Prop where
  whole : wire.closed = false → held ++ wire.pending = rest.flatMap frameBytes
  front : held ++ wire.pending <+: rest.flatMap frameBytes

section Wires

variable {wire : Wire} {held : List UInt8} {rest : List Camera.Frame}

theorem Wire.takes_nil : wire.takes [] = wire := by
  unfold Wire.takes
  split
  · rfl
  · rw [List.append_nil]

theorem Aligned.writes (aligned : Aligned wire held rest) {fr : Camera.Frame}
    {picPacket : Memory Camera.BUFSIZE} {packetSz written : Int32} {calls : List Int32} {bytes : List UInt8}
    (encodes : Encodes fr picPacket packetSz) (answered : Answered calls (some (picPacket, packetSz)))
    (wrote : clientWriteN picPacket packetSz calls = some (bytes, written)) :
    Aligned ((wire.takes bytes).after (.wrote picPacket packetSz written)) held (rest ++ [fr]) := by
  have grows : rest.flatMap frameBytes <+: (rest ++ [fr]).flatMap frameBytes := by
    rw [List.flatMap_append]
    exact List.prefix_append _ _
  unfold Wire.after Wire.takes
  dsimp only
  split
  · next closed =>
    -- the kernel may take bytes that go nowhere
    refine ⟨fun up => ?_, aligned.front.trans grows⟩
    dsimp only at up
    rw [closed] at up
    cases up
  · next up =>
    have whole := aligned.whole (Bool.not_eq_true _ ▸ up)
    have sends := encodes.sends answered wrote
    constructor
    · intro still
      have succeeds : ¬ written < 0 := by simpa [up] using still
      rcases sends with ⟨rfl, _⟩ | ⟨_, _, failed⟩
      · dsimp only
        rw [← List.append_assoc, whole, List.flatMap_append]
        simp
      · exact absurd failed succeeds
    · have part : bytes <+: frameBytes fr := by
        rcases sends with ⟨rfl, _⟩ | ⟨_, front, _⟩
        · exact List.prefix_rfl
        · exact front
      dsimp only
      rw [← List.append_assoc, whole, List.flatMap_append]
      refine (List.prefix_append_right_inj _).mpr ?_
      simpa using part

theorem Aligned.quiet (aligned : Aligned wire held rest) {e : Camera.ServerEvent}
    (silent : e.packetSent = none) : Aligned (wire.after e) held rest := by
  cases e with
  | wrote => cases silent
  | closedConnfd =>
    refine ⟨fun up => ?_, aligned.front⟩
    cases up
  | saved | closedConnmodefd | accepted => exact aligned

theorem Aligned.quiets {es : List Camera.ServerEvent} (aligned : Aligned wire held rest)
    (silent : ∀ e ∈ es, e.packetSent = none) : Aligned (es.foldl Wire.after wire) held rest := by
  induction es generalizing wire with
  | nil => exact aligned
  | cons e later ih =>
    exact ih (aligned.quiet (silent e List.mem_cons_self)) fun f member => silent f (List.mem_cons_of_mem e member)

theorem Aligned.loses (aligned : Aligned wire held rest) (kept : Nat) :
    Aligned ⟨wire.pending.take kept, true⟩ held rest :=
  ⟨nofun, ((List.prefix_append_right_inj held).mpr (List.take_prefix kept wire.pending)).trans aligned.front⟩

theorem Aligned.reads (aligned : Aligned wire held rest) {piece : List UInt8} (first : piece <+: wire.pending) :
    Aligned { wire with pending := wire.pending.drop piece.length } (held ++ piece) rest := by
  obtain ⟨more, split⟩ := first
  have same : held ++ piece ++ wire.pending.drop piece.length = held ++ wire.pending := by
    rw [List.append_assoc, ← split, List.drop_left]
  constructor
  · intro up
    exact same.trans (aligned.whole up)
  · dsimp only
    rw [same]
    exact aligned.front

theorem aligned_ended (closed : wire.closed = true) (ended : wire.pending = []) : Aligned wire [] rest := by
  constructor
  · intro up
    cases closed.symm.trans up
  · rw [ended]
    exact List.nil_prefix

/-- A packet that has been read is that of the next frame. -/
theorem Aligned.next_frame (aligned : Aligned wire held rest) (some_read : HEAD_SIZE ≤ held.length) :
    ∃ fr more, rest = fr :: more ∧ held.take HEAD_SIZE = frameHeader fr ∧
      (held.length = HEAD_SIZE + (Camera.getFrameBytes fr).length →
        held = frameBytes fr ∧ Aligned wire [] more) := by
  obtain ⟨behind, split⟩ := aligned.front
  cases rest with
  | nil =>
    have empty := congrArg List.length split
    rw [List.flatMap_nil, List.length_append, List.length_append, List.length_nil] at empty
    unfold HEAD_SIZE at some_read
    omega
  | cons fr more =>
    refine ⟨fr, more, rfl, ?_, ?_⟩
    · have front := congrArg (List.take HEAD_SIZE) split
      rw [List.append_assoc, List.take_append_of_le_length some_read, List.flatMap_cons, frameBytes_eq,
        List.append_assoc, List.take_left' (frameHeader_length fr)] at front
      exact front
    · intro long
      have size : held.length = (frameBytes fr).length := by
        rw [frameBytes_eq, List.length_append, frameHeader_length, long]
      rw [List.flatMap_cons, List.append_assoc] at split
      obtain ⟨same, others⟩ := List.append_inj split size
      refine ⟨same, ?_, ⟨behind, others⟩⟩
      intro up
      have whole := aligned.whole up
      rw [List.flatMap_cons, same] at whole
      exact List.append_cancel_left whole

end Wires

namespace PictureReciever

def pieces (log : List Act) : List (List UInt8) :=
  log.foldl (fun held act =>
    match act with
    | .fills _ => []
    | .reads _ bytes => held ++ [bytes]
    | .puts _ _ _ => held) []

/-- The header is as it was sent, as far as it has come. A third piece would not be. -/
def Laid (heads : List (List UInt8)) (n size : Nat) : Prop :=
  n + size = HEAD_SIZE ∧ (headerOf heads).1 = heads.flatten ++ List.replicate size 65 ∨
    size = 0 ∧ (headerOf heads).1 = heads.flatten

section Pieces

variable {log : List Act} {socket : Nat}

theorem pieces_fills : pieces (log ++ [.fills socket]) = [] := by
  unfold pieces
  rw [List.foldl_append]
  rfl

theorem pieces_reads {bytes : List UInt8} : pieces (log ++ [.reads socket bytes]) = pieces log ++ [bytes] := by
  unfold pieces
  rw [List.foldl_append]
  rfl

theorem pieces_since (chunks : List (List UInt8)) :
    pieces (log ++ .fills socket :: chunks.map (.reads socket)) = chunks := by
  induction chunks using List.reverseRecOn with
  | nil => exact pieces_fills
  | append_singleton rest last ih =>
    rw [List.map_append, List.map_singleton, ← List.cons_append, ← List.append_assoc, pieces_reads, ih]

theorem laid_nil : Laid [] 0 HEAD_SIZE := .inl ⟨rfl, rfl⟩

theorem Laid.complete {heads : List (List UInt8)} {n : Nat} (laid : Laid heads n 0) :
    (headerOf heads).1 = heads.flatten := by
  rcases laid with ⟨_, filled⟩ | ⟨_, filled⟩
  · rw [filled, List.replicate_zero, List.append_nil]
  · exact filled

theorem Laid.piece {heads : List (List UInt8)} {n size : Nat} {piece : List UInt8} (laid : Laid heads n size)
    (whole : heads.flatten.length + size = HEAD_SIZE) (at_ : (headerOf heads).2 = n)
    (few : piece.length ≤ size) (fits : size = HEAD_SIZE ∨ piece.length = size) :
    Laid (heads ++ [piece]) piece.length (size - piece.length) := by
  unfold Laid
  rw [headerOf_concat, List.flatten_concat, at_]
  rcases laid with ⟨offset, filled⟩ | ⟨rfl, filled⟩
  · -- the loop stores at the length of the last piece, its end only when that was the first one
    have front : heads.flatten.length = n := by omega
    have spliced : Memory.splice (headerOf heads).1 n piece =
        heads.flatten ++ piece ++ List.replicate (size - piece.length) 65 := by
      unfold Memory.splice
      rw [filled, ← front, List.take_left' rfl, ← List.drop_drop, List.drop_left' rfl, List.drop_replicate]
    rcases fits with rfl | all
    · exact .inl ⟨by omega, spliced⟩
    · refine .inr ⟨by omega, ?_⟩
      dsimp only
      rw [spliced, all, Nat.sub_self, List.replicate_zero, List.append_nil]
  · obtain rfl : piece = [] := List.eq_nil_of_length_eq_zero (by omega)
    refine .inr ⟨rfl, ?_⟩
    simp [Memory.splice, filled]

end Pieces

-- What a turn of the work on a socket does, when the log and the buffer are in step.
inductive Does (c : Client.Cam) (moment : Moment) (buffer : Buffer) (log : List Act) (socket : Nat) :
    Stage → List Act → Outcome Stage → Prop where
  | fills : Does c moment buffer log socket .fill [.fills socket] (.goesOn (.header 0 HEAD_SIZE))
  | header {n size : Nat} {piece : List UInt8} (took : taken moment buffer n size = [piece])
      (few : piece.length ≤ size) :
    Does c moment buffer log socket (.header n size) [.reads socket piece]
      (.goesOn (.header piece.length (size - piece.length)))
  | decodes {n : Nat} {heads : List (List UInt8)} (read : pieces log = heads) :
    Does c moment buffer log socket (.header n 0) []
      (.goesOn (.data (timeStampIn (headerOf heads).1) (sizeIn (headerOf heads).1) HEAD_SIZE
        (sizeIn (headerOf heads).1)))
  | data {ts : Int64} {pictureSize currentPosition size : Nat} {piece : List UInt8}
      (took : taken moment buffer currentPosition size = [piece]) :
    Does c moment buffer log socket (.data ts pictureSize currentPosition size) [.reads socket piece]
      (.goesOn (.data ts pictureSize (currentPosition + piece.length) (size - piece.length)))
  | puts {ts : Int64} {pictureSize currentPosition : Nat} {imageData : List UInt8}
      (long : (pieces log).flatten.length = HEAD_SIZE + pictureSize)
      (behind : (pieces log).flatten.drop HEAD_SIZE = imageData) :
    Does c moment buffer log socket (.data ts pictureSize currentPosition 0)
      [.puts socket c ⟨imageData, ts⟩] (.goesOn .fill)
  | stops {stage : Stage} {outcome : Outcome Stage} (stops : ∀ later, outcome ≠ .goesOn later)
      (ended : outcome = .breaks → moment.fails = false ∧ moment.is.pending = [] ∧
        ∃ off len, stage.window = some (off, len) ∧ len ≠ 0) :
    Does c moment buffer log socket stage [] outcome

section Turns

variable {c : Client.Cam} {moment : Moment} {fields : Fields} {log : List Act} {socket : Nat} {stage : Stage}

theorem taken_prefix {buffer : Buffer} {off len : Nat} {piece : List UInt8}
    (took : taken moment buffer off len = [piece]) : piece <+: moment.is.pending := by
  unfold taken at took
  repeat' split at took
  all_goals cases took
  exact List.take_prefix _ _

theorem turn_ended (breaks : (turn moment fields stage).1 = .breaks) : moment.fails = false ∧
    moment.is.pending = [] ∧ ∃ off len, stage.window = some (off, len) ∧ len ≠ 0 := by
  obtain ⟨off, len, window, works, is, read⟩ := turn_breaks_iff.mp breaks
  unfold InputStream.read at read
  split at read
  · cases read
  split at read
  · cases read
  next asked =>
  split at read
  · next ended => exact ⟨works, ended, off, len, window, asked⟩
  · dsimp only at read
    split at read
    · cases read
    · injection read with same
      injection same with count
      omega

theorem turn_does (own : fields.camNbr = c) (held : Assembled log socket fields.buffer stage) :
    Does c moment fields.buffer log socket stage (actsOf socket moment fields stage)
      (turn moment fields stage).1 := by
  subst own
  have ended := @turn_ended moment fields stage
  cases stage with
  | fill => exact .fills
  | header n size =>
    obtain ⟨earlier, heads, rfl, whole, inside, next, loaded⟩ := held
    rcases readTurn_taken moment fields.buffer n size (fun n => .header n (size - n)) decodeHeader with
      ⟨chunk, stored, count, store, took, turned⟩ | ⟨took, ⟨rfl, turned⟩ | ⟨stops, silent⟩⟩
    · simp only [actsOf, Stage.window, took, turn, turned, List.map_cons, List.map_nil, List.append_nil]
      exact .header took count
    · rw [decodeHeader_of_load loaded] at turned
      simp only [actsOf, Stage.window, took, turn, turned, List.map_nil, List.append_nil]
      exact .decodes (pieces_since heads)
    · simp only [turn] at ended
      simp only [actsOf, Stage.window, took, turn, silent, List.map_nil, List.append_nil]
      exact .stops stops ended
  | data ts pictureSize currentPosition size =>
    obtain ⟨earlier, heads, chunks, rfl, whole, rfl, rfl, total, rfl, loaded⟩ := held
    rcases readTurn_taken moment fields.buffer (HEAD_SIZE + chunks.flatten.length) size
        (fun n => .data (timeStampIn (headerOf heads).1) (sizeIn (headerOf heads).1)
          (HEAD_SIZE + chunks.flatten.length + n) (size - n))
        (put fields.camNbr (timeStampIn (headerOf heads).1) (sizeIn (headerOf heads).1)) with
      ⟨chunk, stored, count, store, took, turned⟩ | ⟨took, ⟨rfl, turned⟩ | ⟨stops, silent⟩⟩
    · simp only [actsOf, Stage.window, took, turn, turned, List.map_cons, List.map_nil, List.append_nil]
      exact .data took
    · rw [Nat.add_zero] at total
      rw [put, ← total, loaded] at turned
      simp only [actsOf, Stage.window, took, turn, ← total, turned, List.map_nil, List.nil_append,
        List.map_cons]
      apply Does.puts
      · rw [pieces_since, List.flatten_append, List.length_append, whole]
      · rw [pieces_since, List.flatten_append, List.drop_left' whole]
    · simp only [turn] at ended
      simp only [actsOf, Stage.window, took, turn, silent, List.map_nil, List.append_nil]
      exact .stops stops ended

end Turns

-- What a stage of the work knows of the frame it reads.
def Suits (held : List (List UInt8)) (rest : List Camera.Frame) : Stage → Prop
  | .fill => True
  | .header n size => Laid held n size
  | .data ts pictureSize _ _ => ∃ fr more, rest = fr :: more ∧ ts = (framePicture fr).timeStamp ∧
      pictureSize = (Camera.getFrameBytes fr).length

def heldAt (log : List Act) : Stage → List UInt8
  | .fill => []
  | .header _ _ | .data _ _ _ _ => (pieces log).flatten

structure InStep (log : List Act) (wire : Wire) (rest : List Camera.Frame) (stage : Stage) : Prop where
  suits : Suits (pieces log) rest stage
  aligned : Aligned wire (heldAt log stage) rest

section Work

variable {c : Client.Cam} {moment : Moment} {buffer : Buffer} {log as : List Act} {wires : Nat → Wire}
  {socket : Nat} {rest : List Camera.Frame} {stage later : Stage}

theorem Assembled.header {n size : Nat} (held : Assembled log socket buffer (.header n size)) :
    (pieces log).flatten.length + size = HEAD_SIZE ∧ (headerOf (pieces log)).2 = n := by
  obtain ⟨earlier, heads, rfl, whole, _, at_, _⟩ := held
  rw [pieces_since]
  exact ⟨whole, at_⟩

/-- A turn that goes on stays in step with what was written, and a picture it puts is that of the
next frame. -/
theorem InStep.goesOn (inStep : InStep log (wires socket) rest stage)
    (held : Assembled log socket buffer stage)
    (fits : ∀ fr ∈ rest, (Camera.getFrameBytes fr).length ≤ Camera.BUFSIZE - 10)
    (finds : moment.is.pending = (wires socket).pending)
    (sound : ∀ n size, stage = .header n size →
      size = HEAD_SIZE ∨ ∀ piece ∈ taken moment buffer n size, piece.length = size)
    (does : Does c moment buffer log socket stage as (.goesOn later)) :
    ∃ behind, InStep (log ++ as) ((as.foldl Feed.afterAct wires) socket) behind later ∧
      (behind = rest ∧ pictures as = [] ∨
        ∃ fr, rest = fr :: behind ∧ pictures as = [(socket, framePicture fr)]) := by
  obtain ⟨suits, aligned⟩ := inStep
  generalize at_ : Outcome.goesOn later = outcome at does
  cases does with
  | fills =>
    cases at_
    refine ⟨rest, ⟨?_, ?_⟩, .inl ⟨rfl, rfl⟩⟩
    · rw [pieces_fills]
      exact laid_nil
    · rw [heldAt, pieces_fills]
      exact aligned
  | @header n size piece took few =>
    cases at_
    obtain ⟨whole, next⟩ := held.header
    refine ⟨rest, ⟨?_, ?_⟩, .inl ⟨rfl, rfl⟩⟩
    · rw [pieces_reads]
      refine Laid.piece suits whole next few ?_
      exact (sound n size rfl).imp_right fun all => all piece (by rw [took]; exact List.mem_singleton_self piece)
    · rw [heldAt, pieces_reads, List.flatten_concat]
      simp only [List.foldl_cons, List.foldl_nil, Feed.afterAct, Function.update_self]
      exact aligned.reads (finds ▸ taken_prefix took)
  | @decodes n heads read =>
    -- the header that was laid out is that of the next frame
    cases at_
    obtain ⟨whole, _⟩ := held.header
    rw [Nat.add_zero] at whole
    have laid := Laid.complete suits
    rw [read] at laid whole
    have holds : heldAt log (.header n 0) = heads.flatten := by rw [heldAt, read]
    rw [holds] at aligned
    obtain ⟨fr, more, rfl, front, _⟩ := aligned.next_frame (Nat.le_of_eq whole.symm)
    rw [← whole, List.take_length] at front
    refine ⟨fr :: more, ⟨⟨fr, more, rfl, ?_, ?_⟩, ?_⟩, .inl ⟨rfl, rfl⟩⟩
    · rw [laid, front, timeStampIn_frameHeader]
    · rw [laid, front, sizeIn_frameHeader (fits fr List.mem_cons_self)]
    · rw [List.append_nil, heldAt, read]
      exact aligned
  | @data ts pictureSize currentPosition size piece took =>
    cases at_
    refine ⟨rest, ⟨suits, ?_⟩, .inl ⟨rfl, rfl⟩⟩
    rw [heldAt, pieces_reads, List.flatten_concat]
    simp only [List.foldl_cons, List.foldl_nil, Feed.afterAct, Function.update_self]
    exact aligned.reads (finds ▸ taken_prefix took)
  | @puts ts pictureSize currentPosition imageData long behind =>
    cases at_
    obtain ⟨fr, more, rfl, time, size⟩ := suits
    obtain ⟨first, others, same, _, packet⟩ := aligned.next_frame (by rw [heldAt, long]; omega)
    cases same
    obtain ⟨bytes, next⟩ := packet (by rw [heldAt, long, size])
    refine ⟨more, ⟨trivial, next⟩, .inr ⟨fr, rfl, ?_⟩⟩
    rw [heldAt] at bytes
    rw [bytes, frameBytes_eq, List.drop_left' (frameHeader_length fr)] at behind
    rw [← behind, time]
    rfl
  | stops stops => exact absurd at_.symm (stops later)

theorem Does.stopped {outcome : Outcome Stage} (does : Does c moment buffer log socket stage as outcome)
    (stops : ∀ later, outcome ≠ .goesOn later) : as = [] ∧ (outcome = .breaks → moment.fails = false ∧
      moment.is.pending = [] ∧ ∃ off len, stage.window = some (off, len) ∧ len ≠ 0) := by
  cases does with
  | stops _ ended => exact ⟨rfl, ended⟩
  | fills | header | decodes | data | puts => exact absurd rfl (stops _)

end Work

end PictureReciever

end NetCam.Network
