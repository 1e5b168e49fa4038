import NetCam.Motion.Server
import NetCam.Network.EndOfStream
import NetCam.Network.StaleFailure

/-! Which responses `MotionDataReceiver` survives.

Text at fixed places is taken for numbers, without a look at the status line, and the thread
catches an `IOException` only. What is no number, or a length that does not fit, ends it.
-/

set_option autoImplicit false

namespace NetCam.Network

open Semantics MotionPack

namespace MotionDataReceiver

def Stage.Inside (stage : Stage) : Prop := stage.window.1 + stage.window.2 ≤ BUFFER_SIZE

/-- The three characters at 31 are the length of a body that fits behind the header. -/
def LengthFits (buffer : MotionPack.Buffer) : Prop :=
  ∃ length : Nat, readInt (trim (((buffer.load 31 3).getD []).map char)) = some (length : Int) ∧
    MotionPack.HEAD_SIZE + length ≤ BUFFER_SIZE

/-- What lies between the colons from 64 on are at most three numbers, each within an int. -/
def TimesFit (buffer : MotionPack.Buffer) : Prop :=
  let strs := tokens ((timeData buffer).filter fun c => !isSpace c)
  strs.length ≤ 3 ∧ ∀ str ∈ strs, ∃ value : Int32, readInt (trim str) = some value.toInt

def Stage.Accepts (moment : Moment) (buffer : MotionPack.Buffer) : Stage → Prop
  | .header _ 0 => moment.fails = false → LengthFits buffer
  | .times _ 0 => moment.fails = false → TimesFit buffer
  | _ => True

section Decoding

variable {buffer : MotionPack.Buffer}

theorem decodeHeader_of_fits (fits : LengthFits buffer) : ∃ length,
    decodeHeader buffer = (.goesOn (.times MotionPack.HEAD_SIZE length), []) ∧
      (Stage.times MotionPack.HEAD_SIZE length).Inside := by
  obtain ⟨length, read, room⟩ := fits
  have small : length < 2 ^ 31 := by
    unfold BUFFER_SIZE at room
    omega
  have value := Int32.toInt_ofNat_of_lt small
  have parsed : getTimeSize buffer = .ok (Int32.ofNat length) := by
    apply parseInt_eq_ok_iff.mpr
    rw [value]
    exact read
  refine ⟨length, ?_, room⟩
  have natural : (Int32.ofNat length).toNatClampNeg = length := by
    rw [Int32.toNatClampNeg, value, Int.toNat_natCast]
  unfold decodeHeader
  simp only [parsed]
  rw [if_neg, natural]
  rw [Int32.lt_iff_toInt_lt, value]
  change ¬ (length : Int) < 0
  omega

theorem decodeHeader_outcome (buffer : MotionPack.Buffer) :
    (∃ next, (decodeHeader buffer).1 = .goesOn next) ∨ (decodeHeader buffer).1 = .otherException := by
  unfold decodeHeader
  split
  · split
    · exact .inr rfl
    · exact .inl ⟨_, rfl⟩
  · exact .inr rfl

theorem fits_of_decodeHeader {next : Stage} (decoded : (decodeHeader buffer).1 = .goesOn next)
    (inside : next.Inside) : LengthFits buffer := by
  unfold decodeHeader at decoded
  split at decoded
  · next timeSize parsed =>
    split at decoded
    · cases decoded
    · next natural =>
      cases decoded
      refine ⟨timeSize.toNatClampNeg, ?_, inside⟩
      have read := parseInt_eq_ok_iff.mp parsed
      have positive : 0 ≤ timeSize.toInt := by
        rw [Int32.lt_iff_toInt_lt] at natural
        exact Int.not_lt.mp natural
      rw [read, Int32.toNatClampNeg, Int.toNat_of_nonneg positive]
  · cases decoded

theorem getTimes_isOk_iff : (∃ times, getTimes buffer = .ok times) ↔ TimesFit buffer := by
  have law := @parseTimes_isOk_iff (tokens ((timeData buffer).filter fun c => !isSpace c)) [] (Nat.zero_le 3)
  rw [List.length_nil, Nat.zero_add] at law
  unfold TimesFit getTimes
  rw [← law]
  cases parseTimes (tokens ((timeData buffer).filter fun c => !isSpace c)) [] <;> simp

theorem report_of_fits (lastMotionTime : Int32) (camNbr : Client.Cam) (fits : TimesFit buffer) :
    ∃ call, report lastMotionTime camNbr buffer = (.goesOn (.header 0 MotionPack.HEAD_SIZE), [call]) := by
  obtain ⟨times, parsed⟩ := getTimes_isOk_iff.mpr fits
  refine ⟨⟨camNbr, times.getD 1 0 > lastMotionTime, times⟩, ?_⟩
  simp only [report, parsed]

theorem fits_of_report {lastMotionTime : Int32} {camNbr : Client.Cam}
    (reported : (report lastMotionTime camNbr buffer).1 ≠ .otherException) : TimesFit buffer := by
  apply getTimes_isOk_iff.mp
  unfold report at reported
  split at reported
  · next times parsed => exact ⟨times, parsed⟩
  · exact absurd rfl reported

end Decoding

section Turns

variable {moment : Moment} {fields : Fields} {stage next : Stage}

theorem header_inside : (Stage.header 0 MotionPack.HEAD_SIZE).Inside := by
  unfold Stage.Inside
  decide

theorem turn_header {off : Nat} (works : moment.fails = false) (inside : (Stage.header off 0).Inside) :
    turn moment fields (.header off 0) =
      ((decodeHeader fields.buffer).1, fields, (decodeHeader fields.buffer).2) := by
  have within : off ≤ BUFFER_SIZE := inside
  simp only [turn, readTurn_nothing works within]

theorem turn_times {off : Nat} (works : moment.fails = false) (inside : (Stage.times off 0).Inside) :
    let reported := report fields.lastMotionTime fields.camNbr fields.buffer
    turn moment fields (.times off 0) = (reported.1, fields, reported.2) := by
  have within : off ≤ BUFFER_SIZE := inside
  simp only [turn, readTurn_nothing works within]

/-- A loop stays inside the buffer, and from one loop the thread gets to the next one only
when what it has read is well formed. -/
theorem turn_inside (inside : stage.Inside) (accepts : stage.Accepts moment fields.buffer)
    (turned : (turn moment fields stage).1 = .goesOn next) : next.Inside := by
  cases stage with
  | header off size =>
    simp only [turn] at turned
    rcases readTurn_goesOn turned with ⟨n, some_read, count, rfl⟩ | ⟨works, rfl, decoded⟩
    · unfold Stage.Inside Stage.window at inside ⊢
      dsimp only at inside ⊢
      omega
    · obtain ⟨length, same, within⟩ := decodeHeader_of_fits (accepts works)
      rw [same] at decoded
      cases decoded
      exact within
  | times off size =>
    simp only [turn] at turned
    rcases readTurn_goesOn turned with ⟨n, some_read, count, rfl⟩ | ⟨works, rfl, reported⟩
    · unfold Stage.Inside Stage.window at inside ⊢
      dsimp only at inside ⊢
      omega
    · obtain ⟨call, same⟩ := report_of_fits fields.lastMotionTime fields.camNbr (accepts works)
      rw [same] at reported
      cases reported
      exact header_inside

theorem turn_catches (inside : stage.Inside) (accepts : stage.Accepts moment fields.buffer) :
    (turn moment fields stage).1 ≠ .otherException := by
  intro throws
  unfold Stage.Inside Stage.window at inside
  cases stage with
  | header off size =>
    simp only [turn] at throws
    rcases readTurn_otherException throws with outside | ⟨works, rfl, decoded⟩
    · dsimp only at inside
      omega
    · obtain ⟨length, same, _⟩ := decodeHeader_of_fits (accepts works)
      rw [same] at decoded
      cases decoded
  | times off size =>
    simp only [turn] at throws
    rcases readTurn_otherException throws with outside | ⟨works, rfl, reported⟩
    · dsimp only at inside
      omega
    · obtain ⟨call, same⟩ := report_of_fits fields.lastMotionTime fields.camNbr (accepts works)
      rw [same] at reported
      cases reported

/-- A well-formed response leads to one call. -/
theorem turn_answers {off : Nat} (works : moment.fails = false) (inside : (Stage.times off 0).Inside)
    (accepts : (Stage.times off 0).Accepts moment fields.buffer) : ∃ call,
      turn moment fields (.times off 0) = (.goesOn (.header 0 MotionPack.HEAD_SIZE), fields, [call]) := by
  obtain ⟨call, same⟩ := report_of_fits fields.lastMotionTime fields.camNbr (accepts works)
  refine ⟨call, ?_⟩
  rw [turn_times works inside, same]

end Turns

end MotionDataReceiver

open MotionDataReceiver

-- The receiver at work reads inside its buffer, and it never is about to call `shutdown`.
def Thread.Sound (thread : Thread .motionDataReceiver) : Prop :=
  match thread.position with
  | .work _ stage => stage.Inside
  | .shutDown => False
  | _ => True

def Thread.Accepts (thread : Thread .motionDataReceiver) (moment : Moment) : Prop :=
  match thread.position with
  | .work _ stage => stage.Accepts moment thread.fields.buffer
  | _ => True

-- A statement of the receiver that ends the thread only by the test of the outer loop, asks for
-- a read inside the buffer only, and answers a response that is there with one call.
structure Harmless (moment : Moment) (thread after : Thread .motionDataReceiver) (calls : List Call) :
    Prop where
  exits : after.position = .exited → thread.position = .loop
  sound : after.Sound
  answers : ∀ socket off, thread.position = .work socket (.times off 0) → moment.fails = false →
    ∃ call, calls = [call]

section Steps

variable {monitor next : NetMonitor Nat} {moment : Moment} {thread after : Thread .motionDataReceiver}
  {calls : List Call}

theorem step_harmless (connected : thread.position = .getSocket → monitor.getSocket ≠ none)
    (sound : thread.Sound) (accepts : thread.Accepts moment)
    (taken : Program.motionDataReceiver.step monitor moment thread = some (next, after, calls)) :
    Harmless moment thread after calls := by
  cases Program.step_moves taken with
  | noSocket at_ nothing => exact absurd nothing (connected at_)
  | exits at_ => exact ⟨fun _ => at_, trivial, by simp [at_]⟩
  | takes at_ => exact ⟨by simp, header_inside, by simp [at_]⟩
  | goesIn at_ | waits at_ | noStream at_ | setsInactive at_ => exact ⟨by simp, trivial, by simp [at_]⟩
  | shutsDown at_ => simp only [Thread.Sound, at_] at sound
  | goesOn at_ turned =>
    simp only [Thread.Sound, Thread.Accepts, at_] at sound accepts
    have same := Option.some.inj turned
    refine ⟨by simp, turn_inside sound accepts (congrArg Prod.fst same), ?_⟩
    intro socket off there works
    cases at_.symm.trans there
    obtain ⟨call, answered⟩ := turn_answers works sound accepts
    rw [answered] at same
    cases same
    exact ⟨call, rfl⟩
  | breaks at_ turned | ioException at_ turned =>
    simp only [Thread.Sound, Thread.Accepts, at_] at sound accepts
    have same := Option.some.inj turned
    refine ⟨by simp, trivial, ?_⟩
    -- a response that is there would have been answered
    intro socket off there works
    cases at_.symm.trans there
    obtain ⟨call, answered⟩ := turn_answers works sound accepts
    rw [answered] at same
    cases same
  | otherException at_ turned =>
    simp only [Thread.Sound, Thread.Accepts, at_] at sound accepts
    exact absurd (congrArg Prod.fst (Option.some.inj turned)) (turn_catches sound accepts)

theorem turn_of_harmless {socket : Nat} {stage : Stage} (at_ : thread.position = .work socket stage)
    (harmless : ∀ next after calls,
      Program.motionDataReceiver.step monitor moment thread = some (next, after, calls) →
        Harmless moment thread after calls) :
    (turn moment thread.fields stage).1 ≠ .otherException ∧
      ∀ next, (turn moment thread.fields stage).1 = .goesOn next → next.Inside := by
  simp only [Program.step, at_] at harmless
  generalize turn moment thread.fields stage = turned at harmless
  obtain ⟨outcome, fields, calls⟩ := turned
  constructor
  · rintro rfl
    -- the thread would end, and it is not at the test of the outer loop
    have exits := (harmless _ _ _ rfl).exits rfl
    rw [at_] at exits
    cases exits
  · rintro next rfl
    exact (harmless _ _ _ rfl).sound

/-- What is not well formed does harm in the statement that takes it apart. -/
theorem accepts_of_harmless (sound : thread.Sound)
    (harmless : ∀ next after calls,
      Program.motionDataReceiver.step monitor moment thread = some (next, after, calls) →
        Harmless moment thread after calls) : thread.Accepts moment := by
  unfold Thread.Accepts
  cases at_ : thread.position with
  | work socket stage =>
    obtain ⟨catches, inside⟩ := turn_of_harmless at_ harmless
    simp only [Thread.Sound, at_] at sound
    cases stage with
    | header off size =>
      cases size with
      | succ size => trivial
      | zero =>
        intro works
        rw [turn_header works sound] at catches inside
        rcases decodeHeader_outcome thread.fields.buffer with ⟨next, goes⟩ | throws
        · exact fits_of_decodeHeader goes (inside next goes)
        · exact absurd throws catches
    | times off size =>
      cases size with
      | succ size => trivial
      | zero =>
        intro works
        rw [turn_times works sound] at catches
        exact fits_of_report catches
  | _ => trivial

end Steps

namespace Group

def ReceiverHarmless (s : Group motionThreads) : GroupAction MotionThread → Prop
  | .thread .receiver moment => ∀ next after calls,
    Program.motionDataReceiver.step s.monitor moment (s.threads .receiver) = some (next, after, calls) →
      Harmless moment (s.threads .receiver) after calls
  | _ => True

def ResponsesFit (s : Group motionThreads) : GroupAction MotionThread → Prop
  | .thread .receiver moment => Thread.Accepts (s.threads .receiver) moment
  | _ => True

variable {s next : Group motionThreads} {action : GroupAction MotionThread} {events : List SocketEvent}

theorem receiverHarmless_iff (connected : s.Connected) (sound : Thread.Sound (s.threads .receiver)) :
    s.ReceiverHarmless action ↔ s.ResponsesFit action := by
  cases action with
  | thread i moment =>
    cases i with
    | sender => exact Iff.rfl
    | receiver =>
      constructor
      · intro harmless
        exact accepts_of_harmless sound harmless
      · intro accepts next after calls taken
        exact step_harmless (connected.taking .receiver) sound accepts taken
  | connector _ | closer | shutDown => exact Iff.rfl

theorem sound_step (connected : s.Connected) (sound : Thread.Sound (s.threads .receiver))
    (fits : s.ResponsesFit action) (taken : step s action = some (next, events)) :
    Thread.Sound (next.threads .receiver) := by
  rcases step_threads .receiver taken with ⟨_, same⟩ | ⟨moment, reports, rfl, moved⟩
  · rw [same]
    exact sound
  · exact (step_harmless (connected.taking .receiver) sound fits moved).sound

end Group

/-- Every statement of the receiver is harmless exactly as long as every response it takes apart
is well formed at the places it looks at. -/
theorem motion_receiver_harmless_iff (fields : (i : MotionThread) → (motionThreads i).Fields)
    (actions : List (GroupAction MotionThread)) :
    Guarded Group.step Group.ReceiverHarmless (.start fields : Group motionThreads) actions ↔
      Guarded Group.step Group.ResponsesFit (.start fields : Group motionThreads) actions := by
  apply @guarded_iff_guarded_of_inv _ _ _ Group.step Group.ReceiverHarmless Group.ResponsesFit fun s =>
    s.Connected ∧ Thread.Sound (s.threads .receiver)
  · intro s action sound
    exact Group.receiverHarmless_iff sound.1 sound.2
  · intro s action next events sound fits taken
    exact ⟨Group.connected_step sound.1 taken, Group.sound_step sound.1 sound.2 fits taken⟩
  · exact ⟨Group.connected_start fields, trivial⟩

/-- What the server sends when it is asked for a file that it does not have. -/
def notFoundResponse : List UInt8 :=
  Motion.respond "404 Not Found\nContent-Length: " (ascii "404: File not found")

def notFound : List (GroupAction MotionThread) :=
  List.replicate 4 (.connector false) ++
    List.replicate 4 (.thread .receiver ⟨⟨notFoundResponse, [], false⟩, false, .fresh⟩)

theorem not_found_ends_receiver : ∃ request s last,
    Motion.serveClient ⟨0, 0⟩ request = some notFoundResponse ∧
      run Group.step motionGroup notFound = some (s, [.set 0]) ∧
      Group.step s (.thread .receiver calm) = some (last, []) ∧
      (last.threads .receiver).position = .exited ∧ last.monitor.isShutdown = false ∧
      ¬ Guarded Group.step Group.ReceiverHarmless motionGroup (notFound ++ [.thread .receiver calm]) := by
  have served : Motion.serveClient ⟨0, 0⟩ ⟨ascii "GET /x ", 0, by decide⟩ = some notFoundResponse := by
    decide +kernel
  refine ⟨_, _, _, served, rfl, rfl, rfl, rfl, ?_⟩
  intro guarded
  have harmless := of_guarded Group.step guarded rfl
  cases (harmless _ _ _ rfl).exits rfl

end NetCam.Network
