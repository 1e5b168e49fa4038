import NetCam.Network.MotionPack
import NetCam.Network.PicturePack
import NetCam.Network.PictureReciever
import NetCam.Network.Program

/-! `networking.PictureReciever` and `networking.MotionDataReceiver`, one read at a time.

All four read loops are one operation with parameters: the loops of the motion receiver and
the header loop of the other pass the last count as the offset of the next read.
-/

set_option autoImplicit false

namespace NetCam.Network

open Semantics

/-- One turn of `while ((n = is.read(buffer, off, len)) > 0) len -= n` and, once the loop is
left, `if (len != 0) break`. -/
def readTurn {size : Nat} {Stage Report : Type} (moment : Moment) (buffer : Memory size) (off len : Nat)
    (more : Nat → Stage) (complete : Memory size → Outcome Stage × List Report) :
    Outcome Stage × Memory size × List Report :=
  match (if moment.fails then .error .ioException moment.is
    else InputStream.read buffer off len moment.is) with
  | .error .ioException _ => (.ioException, buffer, [])
  | .error _ _ => (.otherException, buffer, [])
  | .ok (n, buffer) _ =>
    if n > 0 then (.goesOn (more n.toNat), buffer, [])
    else if len ≠ 0 then (.breaks, buffer, [])
    else ((complete buffer).1, buffer, (complete buffer).2)

section ReadTurn

variable {size off len : Nat} {Stage Report : Type} {moment : Moment} {buffer : Memory size}
  {more : Nat → Stage} {complete : Memory size → Outcome Stage × List Report}

theorem readTurn_nothing (works : moment.fails = false) (inside : off ≤ size) :
    readTurn moment buffer off 0 more complete = ((complete buffer).1, buffer, (complete buffer).2) := by
  unfold readTurn
  rw [works]
  simp only [Bool.false_eq_true, if_false, read_nothing inside]
  rfl

theorem readTurn_whole {bytes : List UInt8} {reset : Bool} {cMon : Client.ClientMonitor}
    (inside : off + len ≤ size) (asked : 0 < len) (there : len ≤ bytes.length) :
    ∃ stored, buffer.store off (bytes.take len) = some stored ∧
      readTurn ⟨⟨bytes, [], reset⟩, false, cMon⟩ buffer off len more complete =
        (.goesOn (more len), stored, []) := by
  have some_left : bytes ≠ [] := List.length_pos_iff.mp (by omega)
  obtain ⟨stored, store, read⟩ := @read_chunk size buffer off len ⟨bytes, [], reset⟩ inside asked some_left
  have all : InputStream.chunk [] (min len bytes.length) = len := by
    rw [Nat.min_eq_left there]
    simp only [InputStream.chunk, List.headD_nil]
    omega
  rw [all] at store read
  refine ⟨stored, store, ?_⟩
  unfold readTurn
  simp only [Bool.false_eq_true, if_false, read]
  rw [if_pos (by omega), Int.toNat_natCast]

theorem readTurn_part {bytes : List UInt8} {reset : Bool} {cMon : Client.ClientMonitor}
    (inside : off + len ≤ size) (some_left : bytes ≠ []) (short : bytes.length ≤ len) : ∃ stored,
      readTurn ⟨⟨bytes, [], reset⟩, false, cMon⟩ buffer off len more complete =
        (.goesOn (more bytes.length), stored, []) := by
  have positive : 0 < bytes.length := List.length_pos_iff.mpr some_left
  obtain ⟨stored, _, read⟩ :=
    @read_chunk size buffer off len ⟨bytes, [], reset⟩ inside (by omega) some_left
  have all : InputStream.chunk [] (min len bytes.length) = bytes.length := by
    rw [Nat.min_eq_right short]
    simp only [InputStream.chunk, List.headD_nil]
    omega
  rw [all] at read
  refine ⟨stored, ?_⟩
  unfold readTurn
  simp only [Bool.false_eq_true, if_false, read]
  rw [if_pos (by omega), Int.toNat_natCast]

theorem readTurn_ends (inside : off + len ≤ size) (asked : 0 < len)
    (nothing : moment.fails = true ∨ moment.is.pending = []) : ∃ outcome,
      (outcome = .breaks ∨ outcome = .ioException) ∧
        readTurn moment buffer off len more complete = (outcome, buffer, []) := by
  unfold readTurn
  cases fails : moment.fails with
  | true => exact ⟨_, .inr rfl, rfl⟩
  | false =>
    simp only [Bool.false_eq_true, if_false]
    rw [read_end inside asked (nothing.resolve_left (by rw [fails]; decide))]
    cases moment.is.reset with
    | true => exact ⟨_, .inr rfl, rfl⟩
    | false => exact ⟨_, .inl rfl, if_pos (Nat.ne_of_gt asked)⟩

/-- A turn leaves what lies behind its window alone. -/
theorem readTurn_behind {first count : Nat} (before : off + len ≤ first) :
    (readTurn moment buffer off len more complete).2.1.load first count = buffer.load first count := by
  unfold readTurn
  cases moment.fails with
  | true => rfl
  | false =>
    simp only [Bool.false_eq_true, if_false]
    cases at_ : InputStream.read buffer off len moment.is with
    | error failure is => cases failure <;> rfl
    | ok result is =>
      have kept := @read_behind _ _ _ _ _ _ count _ _ _ before at_
      dsimp only
      split
      · exact kept
      · split <;> exact kept

inductive Turned (moment : Moment) (buffer : Memory size) (off len : Nat) (more : Nat → Stage)
    (complete : Memory size → Outcome Stage × List Report) :
    Outcome Stage × Memory size × List Report → Prop where
  | fails : Turned moment buffer off len more complete (.ioException, buffer, [])
  | outside (works : moment.fails = false) (outside : size < off + len) :
    Turned moment buffer off len more complete (.otherException, buffer, [])
  | chunk {n : Nat} {stored : Memory size} (some_read : 0 < n) (count : n ≤ len) :
    Turned moment buffer off len more complete (.goesOn (more n), stored, [])
  | ended (asked : len ≠ 0) : Turned moment buffer off len more complete (.breaks, buffer, [])
  | completes (works : moment.fails = false) (nothing : len = 0) :
    Turned moment buffer off len more complete ((complete buffer).1, buffer, (complete buffer).2)

theorem readTurn_cases (moment : Moment) (buffer : Memory size) (off len : Nat) (more : Nat → Stage)
    (complete : Memory size → Outcome Stage × List Report) :
    Turned moment buffer off len more complete (readTurn moment buffer off len more complete) := by
  unfold readTurn
  cases works : moment.fails with
  | true => exact .fails
  | false =>
    simp only [Bool.false_eq_true, if_false]
    generalize at_ : InputStream.read buffer off len moment.is = result
    cases read_cases at_ with
    | outside outside => exact .outside works outside
    | reset => exact .fails
    | nothing nothing =>
      subst nothing
      exact .completes works rfl
    | ended asked =>
      dsimp only
      rw [if_neg (by decide), if_pos asked]
      exact .ended asked
    | chunk some_read count =>
      dsimp only
      rw [if_pos (by omega), Int.toNat_natCast]
      exact .chunk some_read count

theorem readTurn_goesOn {next : Stage}
    (goes : (readTurn moment buffer off len more complete).1 = .goesOn next) :
    (∃ n, 0 < n ∧ n ≤ len ∧ next = more n) ∨
      moment.fails = false ∧ len = 0 ∧ (complete buffer).1 = .goesOn next := by
  have turned := readTurn_cases moment buffer off len more complete
  generalize readTurn moment buffer off len more complete = result at goes turned
  cases turned with
  | fails | outside | ended => cases goes
  | @chunk n _ some_read count =>
    cases goes
    exact .inl ⟨n, some_read, count, rfl⟩
  | completes works nothing => exact .inr ⟨works, nothing, goes⟩

theorem readTurn_otherException
    (throws : (readTurn moment buffer off len more complete).1 = .otherException) :
    size < off + len ∨
      moment.fails = false ∧ len = 0 ∧ (complete buffer).1 = .otherException := by
  have turned := readTurn_cases moment buffer off len more complete
  generalize readTurn moment buffer off len more complete = result at throws turned
  cases turned with
  | fails | chunk | ended => cases throws
  | outside _ outside => exact .inl outside
  | completes works nothing => exact .inr ⟨works, nothing, throws⟩

/-- A receiver leaves its loop by a `break` exactly when a read returned `-1`. -/
theorem readTurn_breaks_iff (goes : ∀ buffer, (complete buffer).1 ≠ .breaks) :
    (readTurn moment buffer off len more complete).1 = .breaks ↔
      moment.fails = false ∧ ∃ is, InputStream.read buffer off len moment.is = .ok (-1, buffer) is := by
  unfold readTurn
  cases moment.fails with
  | true => simp
  | false =>
    simp only [Bool.false_eq_true, if_false, true_and]
    cases at_ : InputStream.read buffer off len moment.is with
    | error failure is => cases failure <;> simp
    | ok result is =>
      obtain ⟨n, filled⟩ := result
      dsimp only
      rcases read_count at_ with ⟨rfl, rfl, rfl⟩ | ⟨asked, ⟨rfl, rfl⟩ | some_read⟩
      · simp [goes]
      · simp [asked]
      · rw [if_pos some_read]
        constructor
        · intro left
          cases left
        · rintro ⟨_, same⟩
          cases same
          omega

theorem readTurn_reports {report : Report}
    (member : report ∈ (readTurn moment buffer off len more complete).2.2) :
    ∃ filled, report ∈ (complete filled).2 := by
  have turned := readTurn_cases moment buffer off len more complete
  generalize readTurn moment buffer off len more complete = result at member turned
  cases turned with
  | completes => exact ⟨buffer, member⟩
  | fails | outside | chunk | ended => cases member

end ReadTurn

namespace PictureReciever

inductive Stage where
  | fill
  | header (n size : Nat)
  | data (ts : Int64) (pictureSize currentPosition size : Nat)
  deriving DecidableEq, Repr

structure Fields where
  buffer : Buffer
  camNbr : Client.Cam

def decodeHeader (buffer : Buffer) : Outcome Stage × List (Client.Cam × Client.Picture) :=
  match PicturePack.getTimeStamp buffer, PicturePack.getPictureSize buffer with
  | some ts, some pictureSize =>
    let pictureSize := pictureSize.toNatClampNeg
    (.goesOn (.data ts pictureSize HEAD_SIZE pictureSize), [])
  | _, _ => (.otherException, [])

def put (camNbr : Client.Cam) (ts : Int64) (pictureSize : Nat) (buffer : Buffer) :
    Outcome Stage × List (Client.Cam × Client.Picture) :=
  match buffer.load HEAD_SIZE pictureSize with
  | some imageData => (.goesOn .fill, [(camNbr, ⟨imageData, ts⟩)])
  | none => (.otherException, [])

def turn (moment : Moment) (fields : Fields) :
    Stage → Outcome Stage × Fields × List (Client.Cam × Client.Picture)
  | .fill =>
    (.goesOn (.header 0 HEAD_SIZE), { fields with buffer := .filled MAXIMUM_PICTURE_SIZE 65 }, [])
  | .header n size =>
    let (outcome, buffer, reports) := readTurn moment fields.buffer n size
      (fun n => .header n (size - n)) decodeHeader
    (outcome, { fields with buffer := buffer }, reports)
  | .data ts pictureSize currentPosition size =>
    let (outcome, buffer, reports) := readTurn moment fields.buffer currentPosition size
      (fun n => .data ts pictureSize (currentPosition + n) (size - n)) (put fields.camNbr ts pictureSize)
    (outcome, { fields with buffer := buffer }, reports)

end PictureReciever

namespace MotionDataReceiver

inductive Stage where
  | header (n size : Nat)
  | times (n size : Nat)
  deriving DecidableEq, Repr

structure Fields where
  buffer : MotionPack.Buffer
  lastMotionTime : Int32
  camNbr : Client.Cam

/-- A call of `setMotionDetected`, and the times it was computed from. -/
structure Call where
  camNbr : Client.Cam
  detected : Bool
  times : List Int32
  deriving DecidableEq, Repr

def Call.tLocal (call : Call) : Int32 := call.times.getD 1 0

def fields (camNbr : Client.Cam) : Fields :=
  { buffer := .filled MotionPack.BUFFER_SIZE 0, lastMotionTime := 0, camNbr := camNbr }

def decodeHeader (buffer : MotionPack.Buffer) : Outcome Stage × List Call :=
  match MotionPack.getTimeSize buffer with
  | .ok timeSize =>
    if timeSize < 0 then (.otherException, [])
    else (.goesOn (.times MotionPack.HEAD_SIZE timeSize.toNatClampNeg), [])
  | .error _ => (.otherException, [])

def report (lastMotionTime : Int32) (camNbr : Client.Cam) (buffer : MotionPack.Buffer) :
    Outcome Stage × List Call :=
  match MotionPack.getTimes buffer with
  | .ok times =>
    (.goesOn (.header 0 MotionPack.HEAD_SIZE), [⟨camNbr, times.getD 1 0 > lastMotionTime, times⟩])
  | .error _ => (.otherException, [])

/-- Nothing assigns `lastMotionTime`. -/
def turn (moment : Moment) (fields : Fields) : Stage → Outcome Stage × Fields × List Call
  | .header n size =>
    let (outcome, buffer, calls) := readTurn moment fields.buffer n size
      (fun n => .header n (size - n)) decodeHeader
    (outcome, { fields with buffer := buffer }, calls)
  | .times n size =>
    let (outcome, buffer, calls) := readTurn moment fields.buffer n size
      (fun n => .times n (size - n)) (report fields.lastMotionTime fields.camNbr)
    (outcome, { fields with buffer := buffer }, calls)

end MotionDataReceiver

namespace Program

abbrev pictureReciever : Program :=
  { Fields := PictureReciever.Fields
    Stage := PictureReciever.Stage
    Report := Client.Cam × Client.Picture
    first := .fill
    turn := fun moment fields stage => some (PictureReciever.turn moment fields stage)
    catchesAll := true }

abbrev motionDataReceiver : Program :=
  { Fields := MotionDataReceiver.Fields
    Stage := MotionDataReceiver.Stage
    Report := MotionDataReceiver.Call
    first := .header 0 MotionPack.HEAD_SIZE
    turn := fun moment fields stage => some (MotionDataReceiver.turn moment fields stage)
    catchesAll := false }

end Program

end NetCam.Network
