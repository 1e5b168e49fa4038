import NetCam.Network.Assembly

/-! Which picture headers `PictureReciever` survives.

The size field goes up to 65535, and nothing compares it with the size of the buffer before
the payload is read behind the header. A read outside the buffer is answered with `shutdown`.
A header in three pieces is not laid out as it was sent, and may decode to a size that fits
where the one sent does not.
-/

set_option autoImplicit false

namespace NetCam.Network

open Semantics

namespace PictureReciever

/-- The next read of a stage, and the copy that follows the payload, stay inside the buffer. -/
def Stage.Inside : Stage → Prop
  | .fill => True
  | .header n size => n + size ≤ MAXIMUM_PICTURE_SIZE
  | .data _ pictureSize currentPosition size =>
    currentPosition + size ≤ MAXIMUM_PICTURE_SIZE ∧ HEAD_SIZE + pictureSize ≤ MAXIMUM_PICTURE_SIZE

/-- What the two loops keep: the header loop stays in the header, and the position in the
payload and what is missing of it add up. -/
def Stage.Paced : Stage → Prop
  | .fill => True
  | .header n size => n + size ≤ HEAD_SIZE
  | .data _ pictureSize currentPosition size => currentPosition + size = HEAD_SIZE + pictureSize

/-- The size field in front of the buffer leaves room for the header. -/
def SizeFits (buffer : Buffer) : Prop :=
  ∀ sizeData, buffer.load 8 2 = some sizeData →
    HEAD_SIZE + fromLittleEndian sizeData ≤ MAXIMUM_PICTURE_SIZE

def Stage.Decodes (moment : Moment) : Stage → Prop
  | .header _ 0 => moment.fails = false
  | _ => False

def Stage.HeaderFits (moment : Moment) (buffer : Buffer) (stage : Stage) : Prop :=
  stage.Decodes moment → SizeFits buffer

-- The size field of a packet, as it was received.
def sizeField (held : List UInt8) : Nat := fromLittleEndian ((held.drop 8).take 2)

def heldAfter (held : List UInt8) : Act → List UInt8
  | .fills _ => []
  | .reads _ bytes => held ++ bytes
  | .puts _ _ _ => held

/-- The size field in front of the buffer is the one that was received, and it fits. -/
def SizeKept (buffer : Buffer) (held : List UInt8) : Prop :=
  (buffer.load 8 2).map fromLittleEndian = some (sizeField held) ∧
    HEAD_SIZE + sizeField held ≤ MAXIMUM_PICTURE_SIZE

-- A header that is decoded now has the size that was received, and that one fits.
def Stage.HeaderKept (moment : Moment) (buffer : Buffer) (held : List UInt8) (stage : Stage) : Prop :=
  stage.Decodes moment → SizeKept buffer held

/-- The payload that is read is that of a packet whose size fits, and as long as that size. -/
def Stage.Own (held : List UInt8) : Stage → Prop
  | .data _ pictureSize _ _ =>
    pictureSize = sizeField held ∧ HEAD_SIZE + sizeField held ≤ MAXIMUM_PICTURE_SIZE
  | _ => True

def Stage.Holds (held : List UInt8) : Stage → Prop
  | .fill => True
  | .header _ size => held.length + size = HEAD_SIZE
  | .data _ _ _ _ => HEAD_SIZE ≤ held.length

/-- How the thread gets from one stage to the next, and what it does on its socket. -/
inductive Advances (moment : Moment) (buffer : Buffer) (socket : Nat) : Stage → List Act → Stage → Prop where
  | fill : Advances moment buffer socket .fill [.fills socket] (.header 0 HEAD_SIZE)
  | header {off size : Nat} {bytes : List UInt8} (some_read : 0 < bytes.length)
      (count : bytes.length ≤ size) :
    Advances moment buffer socket (.header off size) [.reads socket bytes]
      (.header bytes.length (size - bytes.length))
  | decode {off : Nat} {ts : Int64} {sizeData : List UInt8} (works : moment.fails = false)
      (loaded : buffer.load 8 2 = some sizeData) :
    Advances moment buffer socket (.header off 0) []
      (.data ts (fromLittleEndian sizeData) HEAD_SIZE (fromLittleEndian sizeData))
  | data {ts : Int64} {pictureSize currentPosition size : Nat} {bytes : List UInt8}
      (some_read : 0 < bytes.length) (count : bytes.length ≤ size) :
    Advances moment buffer socket (.data ts pictureSize currentPosition size) [.reads socket bytes]
      (.data ts pictureSize (currentPosition + bytes.length) (size - bytes.length))
  | put {ts : Int64} {pictureSize currentPosition : Nat} {camNbr : Client.Cam} {imageData : List UInt8}
      (long : imageData.length = pictureSize) :
    Advances moment buffer socket (.data ts pictureSize currentPosition 0)
      [.puts socket camNbr ⟨imageData, ts⟩] .fill

section Turns

variable {moment : Moment} {fields : Fields} {stage next : Stage}

theorem taken_pos {buffer : Buffer} {off len : Nat} {bytes : List UInt8}
    (took : taken moment buffer off len = [bytes]) : 0 < bytes.length := by
  unfold taken at took
  split at took
  · cases took
  split at took
  · next read =>
    split at took
    · next some_read =>
      cases took
      have held : moment.is.pending ≠ [] := by
        intro ended
        unfold InputStream.read at read
        repeat' split at read
        all_goals first | cases read; cases some_read | contradiction
      have long := List.length_pos_iff.mpr held
      rw [List.length_take]
      omega
    · cases took
  · cases took

theorem decodeHeader_eq (buffer : Buffer) : ∃ ts sizeData, buffer.load 8 2 = some sizeData ∧
    decodeHeader buffer =
      (.goesOn (.data ts (fromLittleEndian sizeData) HEAD_SIZE (fromLittleEndian sizeData)), []) := by
  obtain ⟨header, loaded⟩ := @Memory.load_isSome _ buffer 0 HEAD_SIZE (by decide)
  have long := (Memory.load_eq_some_iff.mp loaded).2.1
  have field := Memory.load_within 8 2 loaded (by decide)
  have short : ((header.drop 8).take 2).length = 2 := by
    rw [List.length_take, List.length_drop, long]
    rfl
  have size : sizeIn header = fromLittleEndian ((header.drop 8).take 2) := by
    unfold sizeIn
    rw [Int32.toNatClampNeg, PicturePack.getInt_size short, Int.toNat_natCast]
  refine ⟨timeStampIn header, _, field, ?_⟩
  rw [decodeHeader_of_load loaded, size]

theorem put_cases (camNbr : Client.Cam) (ts : Int64) (pictureSize : Nat) (buffer : Buffer) :
    (MAXIMUM_PICTURE_SIZE < HEAD_SIZE + pictureSize ∧
        put camNbr ts pictureSize buffer = (.otherException, [])) ∨
      ∃ imageData, imageData.length = pictureSize ∧ HEAD_SIZE + pictureSize ≤ MAXIMUM_PICTURE_SIZE ∧
        put camNbr ts pictureSize buffer = (.goesOn .fill, [(camNbr, ⟨imageData, ts⟩)]) := by
  unfold put
  cases loaded : buffer.load HEAD_SIZE pictureSize with
  | none =>
    left
    refine ⟨?_, rfl⟩
    by_contra inside
    obtain ⟨imageData, there⟩ := Memory.load_isSome buffer (Nat.le_of_not_lt inside)
    rw [loaded] at there
    cases there
  | some imageData =>
    obtain ⟨inside, long, _⟩ := Memory.load_eq_some_iff.mp loaded
    exact .inr ⟨imageData, long, inside, rfl⟩

theorem turn_advances (socket : Nat) (turned : (turn moment fields stage).1 = .goesOn next) :
    Advances moment fields.buffer socket stage (actsOf socket moment fields stage) next := by
  cases stage with
  | fill =>
    cases turned
    exact .fill
  | header off size =>
    rcases readTurn_taken moment fields.buffer off size (fun n => .header n (size - n)) decodeHeader with
      ⟨chunk, stored, count, store, took, read⟩ | ⟨took, ⟨rfl, read⟩ | ⟨stops, _⟩⟩
    · simp only [turn, read] at turned
      cases turned
      simp only [actsOf, Stage.window, took, turn, read, List.map_cons, List.map_nil, List.append_nil]
      exact .header (taken_pos took) count
    · obtain ⟨ts, sizeData, loaded, same⟩ := decodeHeader_eq fields.buffer
      simp only [turn] at turned
      rcases readTurn_goesOn turned with ⟨n, some_read, none_left, _⟩ | ⟨works, _, decoded⟩
      · exact absurd (Nat.lt_of_lt_of_le some_read none_left) (Nat.lt_irrefl 0)
      · -- the loop asked for nothing more, and the header is decoded in the same turn
        rw [same] at decoded read
        cases decoded
        simp only [actsOf, Stage.window, took, turn, read, List.map_nil, List.append_nil]
        exact .decode works loaded
    · exact absurd turned (stops next)
  | data ts pictureSize currentPosition size =>
    rcases readTurn_taken moment fields.buffer currentPosition size
        (fun n => .data ts pictureSize (currentPosition + n) (size - n))
        (put fields.camNbr ts pictureSize) with
      ⟨chunk, stored, count, store, took, read⟩ | ⟨took, ⟨rfl, read⟩ | ⟨stops, _⟩⟩
    · simp only [turn, read] at turned
      cases turned
      simp only [actsOf, Stage.window, took, turn, read, List.map_cons, List.map_nil, List.append_nil]
      exact .data (taken_pos took) count
    · rcases put_cases fields.camNbr ts pictureSize fields.buffer with ⟨_, same⟩ | ⟨imageData, long, _, same⟩
      · rw [same] at read
        simp only [turn, read] at turned
        cases turned
      · rw [same] at read
        simp only [turn, read] at turned
        cases turned
        simp only [actsOf, Stage.window, took, turn, read, List.map_cons, List.map_nil, List.nil_append]
        exact .put long
    · exact absurd turned (stops next)

theorem actsOf_leaves (socket : Nat) (leaves : ∀ next, (turn moment fields stage).1 ≠ .goesOn next) :
    actsOf socket moment fields stage = [] := by
  cases stage with
  | fill => exact absurd rfl (leaves _)
  | header off size =>
    rcases readTurn_taken moment fields.buffer off size (fun n => .header n (size - n)) decodeHeader with
      ⟨chunk, _, _, _, _, read⟩ | ⟨took, ⟨rfl, read⟩ | ⟨_, silent⟩⟩
    · refine absurd ?_ (leaves (.header chunk.length (size - chunk.length)))
      simp only [turn, read]
    · obtain ⟨ts, sizeData, _, same⟩ := decodeHeader_eq fields.buffer
      rw [same] at read
      refine absurd ?_ (leaves (.data ts (fromLittleEndian sizeData) HEAD_SIZE (fromLittleEndian sizeData)))
      simp only [turn, read]
    · simp only [actsOf, Stage.window, took, turn, silent, List.map_nil, List.append_nil]
  | data ts pictureSize currentPosition size =>
    rcases readTurn_taken moment fields.buffer currentPosition size
        (fun n => .data ts pictureSize (currentPosition + n) (size - n))
        (put fields.camNbr ts pictureSize) with
      ⟨chunk, _, _, _, _, read⟩ | ⟨took, ⟨rfl, read⟩ | ⟨_, silent⟩⟩
    · refine absurd ?_ (leaves (.data ts pictureSize (currentPosition + chunk.length) (size - chunk.length)))
      simp only [turn, read]
    · rcases put_cases fields.camNbr ts pictureSize fields.buffer with ⟨_, same⟩ | ⟨_, _, _, same⟩
      · rw [same] at read
        simp only [actsOf, Stage.window, took, turn, read, List.map_nil, List.append_nil]
      · rw [same] at read
        refine absurd ?_ (leaves .fill)
        simp only [turn, read]
    · simp only [actsOf, Stage.window, took, turn, silent, List.map_nil, List.append_nil]

theorem turn_inside (inside : stage.Inside) : (turn moment fields stage).1 ≠ .otherException := by
  intro throws
  cases stage with
  | fill => cases throws
  | header off size =>
    change off + size ≤ MAXIMUM_PICTURE_SIZE at inside
    simp only [turn] at throws
    rcases readTurn_otherException throws with outside | ⟨_, _, decoded⟩
    · omega
    · obtain ⟨_, _, _, same⟩ := decodeHeader_eq fields.buffer
      rw [same] at decoded
      cases decoded
  | data ts pictureSize currentPosition size =>
    obtain ⟨inside, copied⟩ := inside
    simp only [turn] at throws
    rcases readTurn_otherException throws with outside | ⟨_, _, done⟩
    · omega
    · rcases put_cases fields.camNbr ts pictureSize fields.buffer with ⟨outside, _⟩ | ⟨_, _, _, same⟩
      · omega
      · rw [same] at done
        cases done

theorem not_decodes_of_leaves (inside : stage.Inside)
    (leaves : ∀ next, (turn moment fields stage).1 ≠ .goesOn next) : ¬ stage.Decodes moment := by
  intro works
  cases stage with
  | fill | data => cases works
  | header off size =>
    cases size with
    | succ size => cases works
    | zero =>
      have within : off ≤ MAXIMUM_PICTURE_SIZE := inside
      obtain ⟨ts, sizeData, _, same⟩ := decodeHeader_eq fields.buffer
      refine absurd ?_ (leaves (.data ts (fromLittleEndian sizeData) HEAD_SIZE (fromLittleEndian sizeData)))
      simp only [turn, readTurn_nothing works within, same]

variable {socket : Nat} {as : List Act}

theorem Advances.paced (advances : Advances moment fields.buffer socket stage as next)
    (paced : stage.Paced) : next.Paced := by
  cases advances with
  | fill => exact Nat.le_refl _
  | header some_read count =>
    unfold Stage.Paced at paced ⊢
    omega
  | decode => rfl
  | data some_read count =>
    unfold Stage.Paced at paced ⊢
    omega
  | put => trivial

/-- Only the step that decodes a header can lead to a read outside the buffer. -/
theorem Advances.inside_iff (advances : Advances moment fields.buffer socket stage as next)
    (paced : next.Paced) (inside : stage.Inside) : next.Inside ↔ stage.HeaderFits moment fields.buffer := by
  cases advances with
  | fill => exact iff_of_true (by unfold Stage.Inside; decide) nofun
  | @header off size bytes some_read count =>
    have there : (Stage.header bytes.length (size - bytes.length)).Inside := by
      have room : HEAD_SIZE ≤ MAXIMUM_PICTURE_SIZE := by decide
      unfold Stage.Paced at paced
      unfold Stage.Inside
      omega
    refine iff_of_true there ?_
    -- while the header is still missing something, nothing is decoded
    cases size with
    | zero => omega
    | succ size => exact nofun
  | decode works loaded =>
    constructor
    · rintro ⟨_, copied⟩ _ sizeData there
      obtain rfl := Option.some.inj (loaded.symm.trans there)
      exact copied
    · intro decodes
      have room := decodes works _ loaded
      exact ⟨room, room⟩
  | data some_read count =>
    refine iff_of_true ?_ nofun
    unfold Stage.Inside at inside ⊢
    omega
  | put => exact iff_of_true trivial nofun

variable {held : List UInt8}

theorem sizeField_append (long : HEAD_SIZE ≤ held.length) (more : List UInt8) :
    sizeField (held ++ more) = sizeField held := by
  unfold sizeField
  unfold HEAD_SIZE at long
  rw [List.drop_append_of_le_length (by omega),
    List.take_append_of_le_length (by rw [List.length_drop]; omega)]

theorem Advances.holds (advances : Advances moment fields.buffer socket stage as next)
    (holds : stage.Holds held) : next.Holds (as.foldl heldAfter held) := by
  cases advances with
  | fill => rfl
  | header some_read count =>
    unfold Stage.Holds at holds ⊢
    simp only [List.foldl_cons, List.foldl_nil, heldAfter, List.length_append]
    omega
  | decode =>
    unfold Stage.Holds at holds ⊢
    exact Nat.le_of_eq holds.symm
  | data =>
    unfold Stage.Holds at holds ⊢
    simp only [List.foldl_cons, List.foldl_nil, heldAfter, List.length_append]
    omega
  | put => trivial

/-- Only the step that decodes a header can take on a packet that is none of its own. -/
theorem Advances.own_iff (advances : Advances moment fields.buffer socket stage as next)
    (inside : next.Inside) (holds : stage.Holds held) (own : stage.Own held) :
    next.Own (as.foldl heldAfter held) ↔ stage.HeaderKept moment fields.buffer held := by
  cases advances with
  | fill => exact iff_of_true trivial nofun
  | @header off size _ some_read count =>
    refine iff_of_true trivial ?_
    cases size with
    | zero => omega
    | succ size => exact nofun
  | decode works loaded =>
    constructor
    · rintro ⟨same, room⟩ _
      refine ⟨?_, room⟩
      rw [loaded]
      exact congrArg some same
    · intro kept
      obtain ⟨same, room⟩ := kept works
      rw [loaded] at same
      exact ⟨Option.some.inj same, room⟩
  | @data _ _ _ _ bytes =>
    refine iff_of_true ?_ nofun
    simp only [List.foldl_cons, List.foldl_nil, heldAfter]
    unfold Stage.Own
    rw [sizeField_append holds]
    exact own
  | put => exact iff_of_true trivial nofun

theorem Stage.HeaderKept.fits (kept : stage.HeaderKept moment fields.buffer held) :
    stage.HeaderFits moment fields.buffer := by
  intro decodes sizeData loaded
  obtain ⟨same, room⟩ := kept decodes
  rw [loaded] at same
  rw [Option.some.inj same]
  exact room

end Turns

end PictureReciever

open PictureReciever

def PictureReciever.packets (held : List UInt8) (as : List Act) : List (List UInt8 × Client.Picture) :=
  as.filterMap fun
    | .puts _ _ pic => some (held, pic)
    | _ => none

def Thread.Unharmed (thread : Thread .pictureReciever) : Prop :=
  match thread.position with
  | .work _ stage => stage.Inside
  | .shutDown => False
  | _ => True

def Thread.HeaderFits (thread : Thread .pictureReciever) (moment : Moment) : Prop :=
  match thread.position with
  | .work _ stage => stage.HeaderFits moment thread.fields.buffer
  | _ => True

def Thread.Paced (thread : Thread .pictureReciever) : Prop :=
  match thread.position with
  | .work _ stage => stage.Paced
  | _ => True

def Thread.HeaderKept (thread : Thread .pictureReciever) (moment : Moment) (held : List UInt8) : Prop :=
  match thread.position with
  | .work _ stage => stage.HeaderKept moment thread.fields.buffer held
  | _ => True

def Thread.Own (thread : Thread .pictureReciever) (held : List UInt8) : Prop :=
  match thread.position with
  | .work _ stage => stage.Own held
  | _ => True

def Thread.Holds (thread : Thread .pictureReciever) (held : List UInt8) : Prop :=
  match thread.position with
  | .work _ stage => stage.Holds held
  | _ => True

section Steps

variable {monitor next : NetMonitor Nat} {moment : Moment} {thread after : Thread .pictureReciever}
  {reports : List (Client.Cam × Client.Picture)}

theorem step_paced (paced : thread.Paced)
    (taken : Program.pictureReciever.step monitor moment thread = some (next, after, reports)) :
    after.Paced := by
  cases Program.step_moves taken with
  | takes => trivial
  | goesOn at_ turned =>
    simp only [Thread.Paced, at_] at paced ⊢
    have goes := congrArg Prod.fst (Option.some.inj turned)
    exact (turn_advances 0 goes).paced paced
  | goesIn | exits | waits | noSocket | noStream | breaks | ioException | otherException | setsInactive
  | shutsDown => trivial

/-- From where it is unharmed the receiver comes to harm only by a header that does not fit. -/
theorem step_unharmed_iff (paced : thread.Paced) (unharmed : thread.Unharmed)
    (connected : thread.position = .getSocket → monitor.getSocket ≠ none)
    (taken : Program.pictureReciever.step monitor moment thread = some (next, after, reports)) :
    after.Unharmed ↔ thread.HeaderFits moment := by
  cases Program.step_moves taken with
  | noSocket at_ nothing => exact absurd nothing (connected at_)
  | goesOn at_ turned =>
    -- the one step that can lead outside, by the stage it goes on to
    simp only [Thread.Paced, Thread.Unharmed, Thread.HeaderFits, at_] at paced unharmed ⊢
    have goes := congrArg Prod.fst (Option.some.inj turned)
    have advances := turn_advances 0 goes
    exact advances.inside_iff (advances.paced paced) unharmed
  | breaks at_ turned | ioException at_ turned =>
    -- no header is decoded in a turn that leaves the inner loop
    simp only [Thread.Unharmed, Thread.HeaderFits, at_] at unharmed ⊢
    refine iff_of_true trivial fun decodes =>
      absurd decodes (@not_decodes_of_leaves moment thread.fields _ unharmed ?_)
    intro stage goes
    cases (congrArg Prod.fst (Option.some.inj turned)).symm.trans goes
  | otherException at_ turned =>
    simp only [Thread.Unharmed, at_] at unharmed
    exact absurd (congrArg Prod.fst (Option.some.inj turned)) (turn_inside unharmed)
  | shutsDown at_ =>
    simp only [Thread.Unharmed, at_] at unharmed
  | goesIn at_ | exits at_ | waits at_ | noStream at_ | takes at_ | setsInactive at_ =>
    refine iff_of_true trivial ?_
    simp only [Thread.HeaderFits, at_]

variable {held : List UInt8}

theorem step_holds (holds : thread.Holds held)
    (taken : Program.pictureReciever.step monitor moment thread = some (next, after, reports)) :
    after.Holds ((acts thread (monitor, moment)).foldl heldAfter held) := by
  cases Program.step_moves taken with
  | takes => trivial
  | @goesOn socket _ _ _ _ at_ turned =>
    rw [acts_working at_]
    simp only [Thread.Holds, at_] at holds ⊢
    have goes := congrArg Prod.fst (Option.some.inj turned)
    exact (turn_advances socket goes).holds holds
  | goesIn | exits | waits | noSocket | noStream | breaks | ioException | otherException | setsInactive
  | shutsDown => trivial

theorem step_own_iff (unharmed : thread.Unharmed) (holds : thread.Holds held) (own : thread.Own held)
    (taken : Program.pictureReciever.step monitor moment thread = some (next, after, reports))
    (inside : after.Unharmed) :
    after.Own ((acts thread (monitor, moment)).foldl heldAfter held) ↔ thread.HeaderKept moment held := by
  cases Program.step_moves taken with
  | @goesOn socket _ _ _ _ at_ turned =>
    rw [acts_working at_]
    simp only [Thread.Holds, Thread.Own, Thread.HeaderKept, at_] at holds own ⊢
    have goes := congrArg Prod.fst (Option.some.inj turned)
    exact (turn_advances socket goes).own_iff inside holds own
  | breaks at_ turned | ioException at_ turned | otherException at_ turned =>
    simp only [Thread.Unharmed, Thread.HeaderKept, at_] at unharmed ⊢
    refine iff_of_true trivial fun decodes =>
      absurd decodes (@not_decodes_of_leaves moment thread.fields _ unharmed ?_)
    intro stage goes
    cases (congrArg Prod.fst (Option.some.inj turned)).symm.trans goes
  | goesIn at_ | exits at_ | waits at_ | noSocket at_ | noStream at_ | takes at_ | setsInactive at_
  | shutsDown at_ =>
    refine iff_of_true trivial ?_
    simp only [Thread.HeaderKept, at_]

theorem Thread.HeaderKept.fits (kept : thread.HeaderKept moment held) : thread.HeaderFits moment := by
  unfold Thread.HeaderKept at kept
  unfold Thread.HeaderFits
  split
  · next at_ =>
    rw [at_] at kept
    exact Stage.HeaderKept.fits kept
  · trivial

/-- What is put is as long as the size field says, and that fits. -/
theorem packets_own (own : thread.Own held) (now : NetMonitor Nat × Moment) :
    ∀ packet ∈ PictureReciever.packets held (acts thread now),
      packet.2.byteStream.length = sizeField packet.1 ∧
        HEAD_SIZE + sizeField packet.1 ≤ MAXIMUM_PICTURE_SIZE := by
  intro packet member
  by_cases working : ∃ socket stage, thread.position = .work socket stage
  · obtain ⟨socket, stage, at_⟩ := working
    rw [acts_working at_] at member
    simp only [Thread.Own, at_] at own
    by_cases goesOn : ∃ later, (turn now.2 thread.fields stage).1 = .goesOn later
    · obtain ⟨later, goes⟩ := goesOn
      have advances := turn_advances socket goes
      generalize actsOf socket now.2 thread.fields stage = as at advances member
      cases advances with
      | fill | header | decode | data => cases member
      | put long =>
        obtain rfl := List.mem_singleton.mp member
        exact ⟨long.trans own.1, own.2⟩
    · rw [actsOf_leaves socket fun later goes => goesOn ⟨later, goes⟩] at member
      cases member
  · rw [acts_idle now fun socket stage at_ => working ⟨socket, stage, at_⟩] at member
    cases member

end Steps

namespace Group

def Unharmed (s : Group pictureThreads) : Prop := Thread.Unharmed (s.threads ())

def HeadersFit (s : Group pictureThreads) : GroupAction Unit → Prop
  | .thread _ moment => Thread.HeaderFits (s.threads ()) moment
  | _ => True

theorem unharmed_iff_headersFit {s next : Group pictureThreads} {action : GroupAction Unit}
    {events : List SocketEvent} (connected : s.Connected) (paced : Thread.Paced (s.threads ()))
    (unharmed : s.Unharmed) (taken : step s action = some (next, events)) :
    next.Unharmed ↔ s.HeadersFit action := by
  rcases step_threads () taken with ⟨other, same⟩ | ⟨moment, reports, rfl, moved⟩
  · have kept : next.Unharmed := by
      unfold Unharmed
      rw [same]
      exact unharmed
    refine iff_of_true kept ?_
    cases action with
    | thread i moment => exact absurd rfl (other moment)
    | connector _ | closer | shutDown => trivial
  · exact step_unharmed_iff paced unharmed (connected.taking ()) moved

theorem paced_step {s next : Group pictureThreads} {action : GroupAction Unit} {events : List SocketEvent}
    (paced : Thread.Paced (s.threads ())) (taken : step s action = some (next, events)) :
    Thread.Paced (next.threads ()) := by
  rcases step_threads () taken with ⟨_, same⟩ | ⟨moment, reports, rfl, moved⟩
  · rw [same]
    exact paced
  · exact step_paced paced moved

theorem stuck_headersFit {s : Group pictureThreads} {action : GroupAction Unit}
    (stuck : step s action = none) : s.HeadersFit action := by
  cases action with
  | thread i moment =>
    unfold HeadersFit Thread.HeaderFits
    cases at_ : (s.threads ()).position with
    | work socket stage => cases Program.turn_of_stuck at_ (step_thread_stuck stuck)
    | _ => trivial
  | connector _ | closer | shutDown => trivial

end Group

structure Receiving where
  group : Group pictureThreads
  held : List UInt8

namespace Receiving

def start (fields : (i : Unit) → (pictureThreads i).Fields) : Receiving := ⟨.start fields, []⟩

def acts (s : Receiving) : GroupAction Unit → List Act
  | .thread _ moment => PictureReciever.acts (s.group.threads ()) (s.group.monitor, moment)
  | _ => []

def step : Step Receiving (GroupAction Unit) (List UInt8 × Client.Picture) := fun s action =>
  match Group.step s.group action with
  | some (group, _) =>
    some (⟨group, (s.acts action).foldl heldAfter s.held⟩, PictureReciever.packets s.held (s.acts action))
  | none => none

/-- The receiver is unharmed, and at work on no packet whose size does not fit. -/
structure Sound (s : Receiving) : Prop where
  unharmed : s.group.Unharmed
  own : Thread.Own (s.group.threads ()) s.held

/-- A header that is decoded has kept its size, and that fits. -/
def HeadersKept (s : Receiving) : GroupAction Unit → Prop
  | .thread _ moment => Thread.HeaderKept (s.group.threads ()) moment s.held
  | _ => True

structure Tracks (s : Receiving) : Prop where
  connected : s.group.Connected
  paced : Thread.Paced (s.group.threads ())
  holds : Thread.Holds (s.group.threads ()) s.held

variable {s next : Receiving} {action : GroupAction Unit} {packets : List (List UInt8 × Client.Picture)}

theorem step_eq_some (taken : step s action = some (next, packets)) : ∃ events,
    Group.step s.group action = some (next.group, events) ∧
      next.held = (s.acts action).foldl heldAfter s.held ∧
      packets = PictureReciever.packets s.held (s.acts action) := by
  unfold step at taken
  split at taken
  · next moved =>
    cases taken
    exact ⟨_, moved, rfl, rfl⟩
  · cases taken

theorem acts_other (other : ∀ moment, action ≠ .thread () moment) : s.acts action = [] := by
  cases action with
  | thread i moment => exact absurd rfl (other moment)
  | connector _ | closer | shutDown => rfl

theorem tracks_step (tracks : s.Tracks) (taken : step s action = some (next, packets)) : next.Tracks := by
  obtain ⟨events, moved, held, _⟩ := step_eq_some taken
  refine ⟨Group.connected_step tracks.connected moved, Group.paced_step tracks.paced moved, ?_⟩
  rcases Group.step_threads () moved with ⟨other, same⟩ | ⟨moment, reports, rfl, stepped⟩
  · rw [held, same, acts_other other]
    exact tracks.holds
  · rw [held]
    exact step_holds tracks.holds stepped

theorem sound_iff_headersKept (tracks : s.Tracks) (sound : s.Sound)
    (taken : step s action = some (next, packets)) : next.Sound ↔ s.HeadersKept action := by
  obtain ⟨events, moved, held, _⟩ := step_eq_some taken
  rcases Group.step_threads () moved with ⟨other, same⟩ | ⟨moment, reports, rfl, stepped⟩
  · refine iff_of_true ⟨?_, ?_⟩ ?_
    · unfold Group.Unharmed
      rw [same]
      exact sound.unharmed
    · rw [held, same, acts_other other]
      exact sound.own
    · cases action with
      | thread i moment => exact absurd rfl (other moment)
      | connector _ | closer | shutDown => trivial
  · have inside := step_unharmed_iff tracks.paced sound.unharmed (tracks.connected.taking ()) stepped
    have own := step_own_iff sound.unharmed tracks.holds sound.own stepped
    constructor
    · rintro ⟨unharmed, kept⟩
      rw [held] at kept
      exact (own unharmed).mp kept
    · intro kept
      have unharmed := inside.mpr (Thread.HeaderKept.fits kept)
      refine ⟨unharmed, ?_⟩
      rw [held]
      exact (own unharmed).mpr kept

theorem stuck_headersKept (stuck : step s action = none) : s.HeadersKept action := by
  have still : Group.step s.group action = none := by
    unfold step at stuck
    split at stuck
    · cases stuck
    · next none_taken => exact none_taken
  cases action with
  | thread i moment =>
    unfold HeadersKept Thread.HeaderKept
    cases at_ : (s.group.threads ()).position with
    | work socket stage => cases Program.turn_of_stuck at_ (Group.step_thread_stuck still)
    | _ => trivial
  | connector _ | closer | shutDown => trivial

theorem packets_fit (sound : s.Sound) (taken : step s action = some (next, packets)) :
    ∀ packet ∈ packets, packet.2.byteStream.length = sizeField packet.1 ∧
      HEAD_SIZE + sizeField packet.1 ≤ MAXIMUM_PICTURE_SIZE := by
  obtain ⟨_, _, _, rfl⟩ := step_eq_some taken
  unfold acts
  split
  · exact packets_own sound.own _
  · exact List.forall_mem_nil _

theorem tracks_start (fields : (i : Unit) → (pictureThreads i).Fields) : (start fields).Tracks :=
  ⟨Group.connected_start fields, trivial, trivial⟩

end Receiving

/-- The receiver keeps inside its buffer and away from `shutdown` exactly as long as every header
decodes to a size that fits, and besides is never at work on a packet whose size does not fit exactly as
long as every header keeps the size it was sent with and that fits. Then no packet is delivered
whose size does not fit. -/
theorem picture_receiver_unharmed_iff (fields : (i : Unit) → (pictureThreads i).Fields)
    (actions : List (GroupAction Unit)) :
    (Always Group.step Group.Unharmed (.start fields : Group pictureThreads) actions ↔
        Guarded Group.step Group.HeadersFit (.start fields : Group pictureThreads) actions) ∧
      (Always Receiving.step Receiving.Sound (.start fields) actions ↔
        Guarded Receiving.step Receiving.HeadersKept (.start fields) actions) ∧
      (Guarded Receiving.step Receiving.HeadersKept (.start fields) actions →
        ∀ s packets, run Receiving.step (.start fields) actions = some (s, packets) →
          ∀ packet ∈ packets, packet.2.byteStream.length = sizeField packet.1 ∧
            HEAD_SIZE + sizeField packet.1 ≤ MAXIMUM_PICTURE_SIZE) := by
  refine ⟨?_, ?_, ?_⟩
  · apply @always_iff_guarded_of_inv _ _ _ Group.step Group.HeadersFit Group.Unharmed fun s =>
      s.Connected ∧ Thread.Paced (s.threads ())
    · intro s action _ _ stuck
      exact Group.stuck_headersFit stuck
    · intro s action next events sound unharmed taken
      exact Group.unharmed_iff_headersFit sound.1 sound.2 unharmed taken
    · intro s action next events sound taken
      exact ⟨Group.connected_step sound.1 taken, Group.paced_step sound.2 taken⟩
    · exact ⟨Group.connected_start fields, trivial⟩
    · exact trivial
  · apply @always_iff_guarded_of_inv _ _ _ Receiving.step Receiving.HeadersKept Receiving.Sound
      Receiving.Tracks
    · intro s action _ _ stuck
      exact Receiving.stuck_headersKept stuck
    · intro s action next packets tracks sound taken
      exact Receiving.sound_iff_headersKept tracks sound taken
    · intro s action next packets tracks taken
      exact Receiving.tracks_step tracks taken
    · exact Receiving.tracks_start fields
    · exact ⟨trivial, trivial⟩
  · -- along admitted steps every packet delivered is one that was sound when it was at work
    intro kept s packets ran
    have whole := @run_invariant_of_guarded _ _ _ Receiving.step Receiving.HeadersKept
      (fun _ log s => (s.Tracks ∧ s.Sound) ∧ ∀ packet ∈ log,
        packet.2.byteStream.length = sizeField packet.1 ∧
          HEAD_SIZE + sizeField packet.1 ≤ MAXIMUM_PICTURE_SIZE) ?_ _ _ [] actions [] packets
      ⟨⟨Receiving.tracks_start fields, trivial, trivial⟩, List.forall_mem_nil _⟩ kept ran
    · exact whole.2
    · rintro _ log s action t more ⟨⟨tracks, sound⟩, before⟩ admitted taken
      refine ⟨⟨Receiving.tracks_step tracks taken,
        (Receiving.sound_iff_headersKept tracks sound taken).mpr admitted⟩, ?_⟩
      intro packet member
      rcases List.mem_append.mp member with earlier | now
      · exact before packet earlier
      · exact Receiving.packets_fit sound taken packet now

instance (moment : Moment) : (stage : Stage) → Decidable (stage.Decodes moment)
  | .header _ 0 => inferInstanceAs (Decidable (moment.fails = false))
  | .header _ (_ + 1) | .fill | .data _ _ _ _ => inferInstanceAs (Decidable False)

instance (buffer : Buffer) (held : List UInt8) : Decidable (SizeKept buffer held) :=
  inferInstanceAs (Decidable (_ ∧ _))

instance (moment : Moment) (buffer : Buffer) (held : List UInt8) (stage : Stage) :
    Decidable (stage.HeaderKept moment buffer held) :=
  inferInstanceAs (Decidable (stage.Decodes moment → SizeKept buffer held))

instance decidableHeaderKept (moment : Moment) (held : List UInt8) :
    (thread : Thread .pictureReciever) → Decidable (thread.HeaderKept moment held)
  | ⟨.work _ stage, fields, _⟩ =>
    inferInstanceAs (Decidable (Stage.HeaderKept moment (Fields.buffer fields) held stage))
  | ⟨.loop, _, _⟩ | ⟨.waitUntilActive, _, _⟩ | ⟨.getSocket, _, _⟩ | ⟨.setInactive _, _, _⟩
  | ⟨.shutDown, _, _⟩ | ⟨.exited, _, _⟩ => inferInstanceAs (Decidable True)

instance (s : Receiving) : (action : GroupAction Unit) → Decidable (s.HeadersKept action)
  | .thread _ moment => decidableHeaderKept moment s.held (s.group.threads ())
  | .connector _ | .closer | .shutDown => inferInstanceAs (Decidable True)

def reading (bytes : List UInt8) : GroupAction Unit := .thread () ⟨⟨bytes, [], false⟩, false, .fresh⟩

def smallPicture : List (GroupAction Unit) :=
  List.flatten [List.replicate 4 (.connector false), List.replicate 4 (reading []),
    [reading [1, 0, 0], reading [0, 0, 0, 0, 0, 2, 0], reading [], reading [7, 8], reading []]]

theorem small_picture_unharmed : ∃ s held pic,
    run Receiving.step (.start fun _ => ⟨.filled _ 0, .one⟩) smallPicture = some (s, [(held, pic)]) ∧
      Always Receiving.step Receiving.Sound (.start fun _ => ⟨.filled _ 0, .one⟩) smallPicture ∧
      pic.byteStream.length = sizeField held := by
  obtain ⟨_, exact_when, delivers⟩ := picture_receiver_unharmed_iff (fun _ => ⟨.filled _ 0, .one⟩) smallPicture
  have kept : Guarded Receiving.step Receiving.HeadersKept (.start fun _ => ⟨.filled _ 0, .one⟩) smallPicture := by
    decide +kernel
  have put : (run Receiving.step (.start fun _ => ⟨.filled _ 0, .one⟩) smallPicture).map (·.2) =
      some [([1, 0, 0, 0, 0, 0, 0, 0, 2, 0, 7, 8], ⟨[7, 8], 1⟩)] := by
    decide +kernel
  obtain ⟨⟨s, packets⟩, ran, rfl⟩ := Option.map_eq_some_iff.mp put
  exact ⟨s, _, _, ran, exact_when.mpr kept, (delivers kept s _ ran _ (List.mem_singleton_self _)).1⟩

/-- A header with the size of the buffer in its size field. -/
def oversizedHeader : Moment := ⟨⟨[0, 0, 0, 0, 0, 0, 0, 0, 0x50, 0xc3], [], false⟩, false, .fresh⟩

def oversized : List (GroupAction Unit) :=
  List.flatten [List.replicate 4 (.connector false), List.replicate 5 (.thread () oversizedHeader),
    List.replicate 2 (.thread () closedByServer)]

theorem oversized_header_shuts_down : ∃ s last, run Group.step pictureGroup oversized = some (s, [.set 0]) ∧
    Group.step s (.thread () closedByServer) = some (last, []) ∧ last.monitor.isShutdown = true ∧
    ¬ Always Group.step Group.Unharmed pictureGroup oversized := by
  refine ⟨_, _, rfl, rfl, rfl, ?_⟩
  intro always
  exact of_always Group.step always rfl

end NetCam.Network
