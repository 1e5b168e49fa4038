import NetCam.Network.Turns

/-! The reads that a picture is put together from, in runs with any number of connections.

A connection can be lost in the middle of a header or of a picture, and the thread goes on
with the next socket it finds. What it has read by then stays in the buffer only until the
buffer is filled again.
-/

set_option autoImplicit false

namespace NetCam.Network

open Semantics

namespace PictureReciever

inductive Act where
  | fills (socket : Nat)
  | reads (socket : Nat) (bytes : List UInt8)
  | puts (socket : Nat) (camNbr : Client.Cam) (pic : Client.Picture)

def taken (moment : Moment) (buffer : Buffer) (off len : Nat) : List (List UInt8) :=
  if moment.fails then []
  else
    match InputStream.read buffer off len moment.is with
    | .ok (n, _) _ => if n > 0 then [moment.is.pending.take n.toNat] else []
    | .error _ _ => []

def actsOf (socket : Nat) (moment : Moment) (fields : Fields) (stage : Stage) : List Act :=
  match stage.window with
  | none => [.fills socket]
  | some (off, len) =>
    (taken moment fields.buffer off len).map (.reads socket) ++
      (turn moment fields stage).2.2.map fun put => .puts socket put.1 put.2

def acts (thread : Thread Program.pictureReciever) (now : NetMonitor Nat × Moment) : List Act :=
  match thread.position with
  | .work socket stage => actsOf socket now.2 thread.fields stage
  | _ => []

def headerOf (chunks : List (List UInt8)) : List UInt8 × Nat :=
  chunks.foldl (fun laid chunk => (Memory.splice laid.1 laid.2 chunk, chunk.length))
    (List.replicate HEAD_SIZE 65, 0)

/-- A picture is what the reads since the buffer was filled have returned, all on the socket it
is put for: the header first, and then the data and nothing else. -/
def FromReads (c : Client.Cam) (before : List Act) : Act → Prop
  | .puts socket camNbr pic => camNbr = c ∧ ∃ earlier heads chunks,
      before = earlier ++ .fills socket :: (heads ++ chunks).map (.reads socket) ∧
      heads.flatten.length = HEAD_SIZE ∧ pic.timeStamp = timeStampIn (headerOf heads).1 ∧
      chunks.flatten.length = sizeIn (headerOf heads).1 ∧ pic.byteStream = chunks.flatten
  | _ => True

-- What the log and the buffer hold at a stage of the work on a socket.
def Assembled (log : List Act) (socket : Nat) (buffer : Buffer) : Stage → Prop
  | .fill => True
  | .header n size => ∃ earlier heads, log = earlier ++ .fills socket :: heads.map (.reads socket) ∧
      heads.flatten.length + size = HEAD_SIZE ∧ n + size ≤ HEAD_SIZE ∧ (headerOf heads).2 = n ∧
      buffer.load 0 HEAD_SIZE = some (headerOf heads).1
  | .data ts pictureSize currentPosition size => ∃ earlier heads chunks,
      log = earlier ++ .fills socket :: (heads ++ chunks).map (.reads socket) ∧
      heads.flatten.length = HEAD_SIZE ∧ ts = timeStampIn (headerOf heads).1 ∧
      pictureSize = sizeIn (headerOf heads).1 ∧ chunks.flatten.length + size = pictureSize ∧
      currentPosition = HEAD_SIZE + chunks.flatten.length ∧
      buffer.load HEAD_SIZE chunks.flatten.length = some chunks.flatten

section Turns

variable {moment : Moment} {fields : Fields}

theorem headerOf_concat (heads : List (List UInt8)) (chunk : List UInt8) :
    headerOf (heads ++ [chunk]) =
      (Memory.splice (headerOf heads).1 (headerOf heads).2 chunk, chunk.length) := by
  unfold headerOf
  rw [List.foldl_append]
  rfl

theorem readTurn_taken (moment : Moment) (buffer : Buffer) (off len : Nat) (more : Nat → Stage)
    (complete : Buffer → Outcome Stage × List (Client.Cam × Client.Picture)) :
    (∃ chunk stored, chunk.length ≤ len ∧ buffer.store off chunk = some stored ∧
      taken moment buffer off len = [chunk] ∧
      readTurn moment buffer off len more complete = (.goesOn (more chunk.length), stored, [])) ∨
    taken moment buffer off len = [] ∧
      (len = 0 ∧ readTurn moment buffer off len more complete =
          ((complete buffer).1, buffer, (complete buffer).2) ∨
        (∀ stage, (readTurn moment buffer off len more complete).1 ≠ .goesOn stage) ∧
          (readTurn moment buffer off len more complete).2.2 = []) := by
  unfold taken readTurn
  cases moment.fails with
  | true => exact .inr ⟨rfl, .inr ⟨(fun _ goes => nomatch goes), rfl⟩⟩
  | false =>
    simp only [Bool.false_eq_true, if_false]
    by_cases outside : MAXIMUM_PICTURE_SIZE < off + len
    · unfold InputStream.read
      rw [if_pos outside]
      exact .inr ⟨rfl, .inr ⟨(fun _ goes => nomatch goes), rfl⟩⟩
    · rcases Nat.eq_zero_or_pos len with rfl | asked
      · rw [read_nothing (by omega)]
        exact .inr ⟨rfl, .inl ⟨rfl, rfl⟩⟩
      · -- from here on the read returns `-1` or some bytes
        by_cases ended : moment.is.pending = []
        · rw [read_end (by omega) asked ended]
          cases moment.is.reset with
          | true => exact .inr ⟨rfl, .inr ⟨(fun _ goes => nomatch goes), rfl⟩⟩
          | false =>
            refine .inr ⟨rfl, .inr ⟨?_, ?_⟩⟩ <;> simp [Nat.ne_of_gt asked]
        · obtain ⟨stored, store, read⟩ :=
            @read_chunk _ buffer off len moment.is (by omega) asked ended
          have held : 0 < moment.is.pending.length := List.length_pos_iff.mpr ended
          generalize counted : InputStream.chunk moment.is.cuts (min len moment.is.pending.length) = n
            at store read
          have count : 0 < n ∧ n ≤ len ∧ n ≤ moment.is.pending.length := by
            unfold InputStream.chunk at counted
            omega
          have long : (moment.is.pending.take n).length = n := by
            rw [List.length_take]
            omega
          refine .inl ⟨moment.is.pending.take n, stored, by omega, store, ?_, ?_⟩
          · simp only [read]
            rw [if_pos (by omega), Int.toNat_natCast]
          · simp only [read]
            rw [if_pos (by omega), Int.toNat_natCast, long]

-- What the next stage finds of the log and the buffer, if the work goes on.
def Carries (c : Client.Cam) (log : List Act) (socket : Nat) (turned : Outcome Stage × Fields) : Prop :=
  Accounted (FromReads c) log ∧ turned.2.camNbr = c ∧
    ∀ later, turned.1 = .goesOn later → Assembled log socket turned.2.buffer later

theorem header_carries {c : Client.Cam} {log : List Act} {socket n size : Nat}
    (accounted : Accounted (FromReads c) log) (own : fields.camNbr = c)
    (held : Assembled log socket fields.buffer (.header n size)) :
    Carries c (log ++ actsOf socket moment fields (.header n size)) socket
      ((turn moment fields (.header n size)).1, (turn moment fields (.header n size)).2.1) := by
  obtain ⟨earlier, heads, rfl, whole, inside, next, loaded⟩ := held
  rcases readTurn_taken moment fields.buffer n size (fun n => .header n (size - n)) decodeHeader with
    ⟨chunk, stored, count, store, took, turned⟩ | ⟨took, ⟨rfl, turned⟩ | ⟨stops, silent⟩⟩
  · simp only [actsOf, Stage.window, took, turn, turned, List.map_cons, List.map_nil, List.append_nil]
    refine ⟨accounted_concat accounted trivial, own, ?_⟩
    intro later goes
    cases goes
    rw [← Nat.zero_add n] at store
    have kept := Memory.load_store_within loaded store (by omega)
    refine ⟨earlier, heads ++ [chunk], by simp, ?_, by omega, by rw [headerOf_concat], ?_⟩
    · rw [List.flatten_concat, List.length_append]
      omega
    · rw [headerOf_concat, next]
      exact kept
  · rw [decodeHeader_of_load loaded] at turned
    simp only [actsOf, Stage.window, took, turn, turned, List.map_nil, List.append_nil]
    refine ⟨accounted, own, ?_⟩
    intro later goes
    cases goes
    refine ⟨earlier, heads, [], by simp, whole, rfl, rfl, by simp, rfl, ?_⟩
    exact Memory.load_eq_some_iff.mpr ⟨by decide, rfl, fun i below => absurd below (Nat.not_lt_zero i)⟩
  · simp only [actsOf, Stage.window, took, turn, silent, List.map_nil, List.append_nil]
    exact ⟨accounted, own, fun later goes => absurd goes (stops later)⟩

theorem data_carries {c : Client.Cam} {log : List Act} {socket pictureSize currentPosition size : Nat}
    {ts : Int64} (accounted : Accounted (FromReads c) log) (own : fields.camNbr = c)
    (held : Assembled log socket fields.buffer (.data ts pictureSize currentPosition size)) :
    Carries c (log ++ actsOf socket moment fields (.data ts pictureSize currentPosition size)) socket
      ((turn moment fields (.data ts pictureSize currentPosition size)).1,
        (turn moment fields (.data ts pictureSize currentPosition size)).2.1) := by
  obtain ⟨earlier, heads, chunks, rfl, whole, rfl, rfl, total, rfl, loaded⟩ := held
  rcases readTurn_taken moment fields.buffer (HEAD_SIZE + chunks.flatten.length) size
      (fun n => .data (timeStampIn (headerOf heads).1) (sizeIn (headerOf heads).1)
        (HEAD_SIZE + chunks.flatten.length + n) (size - n))
      (put fields.camNbr (timeStampIn (headerOf heads).1) (sizeIn (headerOf heads).1)) with
    ⟨chunk, stored, count, store, took, turned⟩ | ⟨took, ⟨rfl, turned⟩ | ⟨stops, silent⟩⟩
  · simp only [actsOf, Stage.window, took, turn, turned, List.map_cons, List.map_nil, List.append_nil]
    refine ⟨accounted_concat accounted trivial, own, ?_⟩
    intro later goes
    cases goes
    -- the chunk is stored right behind the others
    have behind := Memory.load_store_disjoint store (.inl (Nat.le_refl (HEAD_SIZE + chunks.flatten.length)))
    have joined := Memory.load_append (behind.trans loaded) (Memory.load_store_self store)
    refine ⟨earlier, heads, chunks ++ [chunk], by simp, whole, rfl, rfl, ?_, ?_, ?_⟩
    · rw [List.flatten_concat, List.length_append]
      omega
    · rw [List.flatten_concat, List.length_append, Nat.add_assoc]
    · rw [List.flatten_concat, List.length_append]
      exact joined
  · rw [Nat.add_zero] at total
    rw [put, ← total, loaded] at turned
    simp only [actsOf, Stage.window, took, turn, ← total, turned, List.map_nil, List.nil_append,
      List.map_cons]
    refine ⟨accounted_concat accounted ⟨own, earlier, heads, chunks, rfl, whole, rfl, total, rfl⟩, own, ?_⟩
    intro later goes
    cases goes
    trivial
  · simp only [actsOf, Stage.window, took, turn, silent, List.map_nil, List.append_nil]
    exact ⟨accounted, own, fun later goes => absurd goes (stops later)⟩

theorem turn_carries {c : Client.Cam} {log : List Act} {socket : Nat} {stage : Stage}
    (accounted : Accounted (FromReads c) log) (own : fields.camNbr = c)
    (held : Assembled log socket fields.buffer stage) :
    Carries c (log ++ actsOf socket moment fields stage) socket
      ((turn moment fields stage).1, (turn moment fields stage).2.1) := by
  cases stage with
  | fill =>
    refine ⟨accounted_concat accounted trivial, own, ?_⟩
    intro later goes
    cases goes
    exact ⟨log, [], rfl, rfl, Nat.le_refl HEAD_SIZE, rfl, Memory.load_filled (by decide)⟩
  | header n size => exact header_carries accounted own held
  | data ts pictureSize currentPosition size => exact data_carries accounted own held

end Turns

section Runs

variable {c : Client.Cam} {log : List Act} {thread after : Thread Program.pictureReciever}

structure Kept (c : Client.Cam) (log : List Act) (thread : Thread Program.pictureReciever) : Prop where
  accounted : Accounted (FromReads c) log
  own : thread.fields.camNbr = c
  assembled : ∀ socket stage, thread.position = .work socket stage →
    Assembled log socket thread.fields.buffer stage

theorem acts_idle (now : NetMonitor Nat × Moment)
    (idle : ∀ socket stage, thread.position ≠ .work socket stage) : acts thread now = [] := by
  unfold acts
  split
  · next socket stage at_ => exact absurd at_ (idle socket stage)
  · rfl

theorem acts_working {now : NetMonitor Nat × Moment} {socket : Nat} {stage : Stage}
    (at_ : thread.position = .work socket stage) :
    acts thread now = actsOf socket now.2 thread.fields stage := by
  unfold acts
  rw [at_]

theorem Kept.idle {position : Position Stage} {ended : Option Nat} (kept : Kept c log thread)
    (now : NetMonitor Nat × Moment) (before : ∀ socket stage, thread.position ≠ .work socket stage)
    (later : ∀ socket stage, position = .work socket stage → stage = .fill) :
    Kept c (log ++ acts thread now) ⟨position, thread.fields, ended⟩ := by
  rw [acts_idle now before, List.append_nil]
  refine ⟨kept.accounted, kept.own, ?_⟩
  intro socket stage at_
  rw [later socket stage at_]
  trivial

theorem Kept.working {position : Position Stage} {ended : Option Nat} {moment : Moment} {socket : Nat}
    {stage : Stage} {outcome : Outcome Stage} {fields : Fields} {reports : List (Client.Cam × Client.Picture)}
    (kept : Kept c log thread) (monitor : NetMonitor Nat) (at_ : thread.position = .work socket stage)
    (turned : turn moment thread.fields stage = (outcome, fields, reports))
    (goes : ∀ other later, position = .work other later → other = socket ∧ outcome = .goesOn later) :
    Kept c (log ++ acts thread (monitor, moment)) ⟨position, fields, ended⟩ := by
  rw [acts_working at_]
  obtain ⟨accounted, own, carried⟩ :=
    @turn_carries moment _ _ _ socket stage kept.accounted kept.own (kept.assembled socket stage at_)
  rw [turned] at own carried
  refine ⟨accounted, own, ?_⟩
  intro other later there
  obtain ⟨rfl, on⟩ := goes other later there
  exact carried later on

theorem otherException_not_work {socket : Nat} {stage : Stage} :
    Program.pictureReciever.otherException ≠ .work socket stage := nofun

theorem kept_step {now : NetMonitor Nat × Moment} {reports : List (Client.Cam × Client.Picture)}
    (kept : Kept c log thread)
    (taken : Program.pictureReciever.alone thread now = some (after, reports)) :
    Kept c (log ++ acts thread now) after := by
  obtain ⟨monitor, moment⟩ := now
  obtain ⟨next, stepped⟩ := Program.alone_eq_some taken
  cases Program.step_moves stepped with
  | goesIn at_ | exits at_ | waits at_ | noSocket at_ | noStream at_ | setsInactive at_ | shutsDown at_ =>
    refine kept.idle _ ?_ nofun
    rw [at_]
    exact nofun
  | takes at_ =>
    refine kept.idle _ (by rw [at_]; exact nofun) ?_
    intro socket stage there
    cases there
    rfl
  | goesOn at_ turned =>
    refine kept.working monitor at_ (Option.some.inj turned) ?_
    intro other later there
    cases there
    exact ⟨rfl, rfl⟩
  | breaks at_ turned | ioException at_ turned | otherException at_ turned =>
    exact kept.working monitor at_ (Option.some.inj turned) nofun

/-- Every picture put, in every run and over any number of connections, is what the reads on one
of them returned, from the first byte of its header on. -/
theorem pictures_from_one_connection {c : Client.Cam} {buffer : Buffer}
    {moments : List (NetMonitor Nat × Moment)} {thread : Thread Program.pictureReciever} {log : List Act}
    (ran : Semantics.run (observe Program.pictureReciever.alone acts)
      (Program.pictureReciever.start ⟨buffer, c⟩) moments = some (thread, log)) :
    Accounted (FromReads c) log := by
  refine (run_invariant _ (fun _ log thread => Kept c log thread) ?_ ?_ ran).accounted
  · intro _ log thread now after seen kept taken
    obtain ⟨reports, stepped, rfl⟩ := (observe_eq_some_iff _).mp taken
    exact kept_step kept stepped
  · exact ⟨accounted_nil _, rfl, nofun⟩

end Runs

def smallHeader : List UInt8 := [1, 0, 0, 0, 0, 0, 0, 0, 2, 0]

def onSocket (socket : Nat) (reads : List (List UInt8)) : List (NetMonitor Nat × Moment) :=
  (List.replicate 3 [] ++ reads).map fun bytes =>
    (⟨some socket, true, false⟩, ⟨⟨bytes, [], false⟩, false, .fresh⟩)

def lostInPicture : List (NetMonitor Nat × Moment) :=
  List.flatten [onSocket 0 [[], smallHeader, [], [7]],
    List.replicate 2 (⟨some 0, true, false⟩, ⟨⟨[], [], true⟩, true, .fresh⟩),
    onSocket 1 [[], smallHeader, [], [8], [9], []]]

theorem picture_after_lost_connection : ∃ thread,
    Semantics.run (observe Program.pictureReciever.alone acts)
      (Program.pictureReciever.start ⟨.filled MAXIMUM_PICTURE_SIZE 0, .one⟩) lostInPicture =
        some (thread, [.fills 0, .reads 0 smallHeader, .reads 0 [7], .fills 1, .reads 1 smallHeader,
          .reads 1 [8], .reads 1 [9], .puts 1 .one ⟨[8, 9], 1⟩]) ∧
      Accounted (FromReads .one) [.fills 0, .reads 0 smallHeader, .reads 0 [7], .fills 1,
        .reads 1 smallHeader, .reads 1 [8], .reads 1 [9], .puts 1 .one ⟨[8, 9], 1⟩] :=
  ⟨_, rfl, @pictures_from_one_connection .one (.filled MAXIMUM_PICTURE_SIZE 0) lostInPicture _ _ rfl⟩

end PictureReciever

end NetCam.Network
