import NetCam.Motion.Server
import NetCam.Network.Receivers

/-! Which responses `MotionDataReceiver` reports as motion.

The time of the last event is a field that is compared with and never assigned, so it stays
zero, and every response with a positive local time is a new event.
-/

set_option autoImplicit false

namespace NetCam.Network

open Semantics

namespace MotionDataReceiver

/-- Each call reports motion exactly if its local time is later than all before, and the
first one if it is positive. -/
def ReportsOnce (calls : List Call) : Prop :=
  ∀ before call later, calls = before ++ call :: later →
    (call.detected = true ↔
      if before = [] then 0 < call.tLocal else ∀ earlier ∈ before, earlier.tLocal < call.tLocal)

/-- From the second on, a positive local time is later than all before, and one that is not
positive is not later than all before. -/
def NeverRepeats (locals : List Int32) : Prop :=
  ∀ before tLocal later, locals = before ++ tLocal :: later → before ≠ [] →
    (0 < tLocal → ∀ earlier ∈ before, earlier < tLocal) ∧
      (tLocal ≤ 0 → ∃ earlier ∈ before, tLocal ≤ earlier)

theorem decodeHeader_silent (buffer : MotionPack.Buffer) : (decodeHeader buffer).2 = [] := by
  unfold decodeHeader
  repeat' split
  all_goals rfl

theorem report_detected {lastMotionTime : Int32} {camNbr : Client.Cam} {buffer : MotionPack.Buffer}
    {call : Call} (member : call ∈ (report lastMotionTime camNbr buffer).2) :
    call.detected = decide (lastMotionTime < call.tLocal) := by
  unfold report at member
  split at member
  · rw [List.mem_singleton.mp member]
    rfl
  · cases member

theorem turn_reports {moment : Moment} {fields after : Fields} {stage : Stage} {outcome : Outcome Stage}
    {calls : List Call} (turned : turn moment fields stage = (outcome, after, calls)) :
    after.lastMotionTime = fields.lastMotionTime ∧
      ∀ call ∈ calls, call.detected = decide (fields.lastMotionTime < call.tLocal) := by
  cases stage with
  | header n size =>
    simp only [turn] at turned
    cases turned
    refine ⟨rfl, ?_⟩
    intro call member
    obtain ⟨filled, there⟩ := readTurn_reports member
    rw [decodeHeader_silent] at there
    cases there
  | times n size =>
    simp only [turn] at turned
    cases turned
    refine ⟨rfl, ?_⟩
    intro call member
    obtain ⟨filled, there⟩ := readTurn_reports member
    exact report_detected there

structure Unchanging (calls : List Call) (thread : Thread Program.motionDataReceiver) : Prop where
  zero : thread.fields.lastMotionTime = 0
  detected : ∀ call ∈ calls, call.detected = decide (0 < call.tLocal)

theorem step_unchanging {calls more : List Call} {thread after : Thread Program.motionDataReceiver}
    {monitor next : NetMonitor Nat} {moment : Moment} (unchanging : Unchanging calls thread)
    (taken : Program.motionDataReceiver.step monitor moment thread = some (next, after, more)) :
    Unchanging (calls ++ more) after := by
  rcases Program.step_fields taken with ⟨same, rfl⟩ | ⟨stage, outcome, turned⟩
  · rw [List.append_nil]
    exact ⟨by rw [same, unchanging.zero], unchanging.detected⟩
  · obtain ⟨kept, detected⟩ := turn_reports (Option.some.inj turned)
    rw [unchanging.zero] at kept detected
    refine ⟨kept, ?_⟩
    intro call member
    rcases List.mem_append.mp member with earlier | new
    · exact unchanging.detected call earlier
    · exact detected call new

theorem reportsOnce_iff_neverRepeats {calls : List Call}
    (detected : ∀ call ∈ calls, call.detected = decide (0 < call.tLocal)) :
    ReportsOnce calls ↔ NeverRepeats (calls.map Call.tLocal) := by
  constructor
  · intro once before tLocal later split some_before
    obtain ⟨earlier, rest, rfl, rfl, more⟩ := List.map_eq_append_iff.mp split
    obtain ⟨call, following, rfl, rfl, rfl⟩ := List.map_eq_cons_iff.mp more
    have law := once earlier call following rfl
    rw [detected call (by simp), if_neg (by simpa using some_before), decide_eq_true_eq] at law
    constructor
    · intro positive
      simpa using law.mp positive
    · intro negative
      by_contra none_later
      push Not at none_later
      have positive := law.mpr (by simpa using none_later)
      exact absurd positive (Int32.not_lt.mpr negative)
  · intro never before call later split
    rw [detected call (by simp [split]), decide_eq_true_eq]
    split
    · rfl
    · next some_before =>
      obtain ⟨positive, negative⟩ := never (before.map Call.tLocal) call.tLocal (later.map Call.tLocal)
        (by simp [split]) (by simpa using some_before)
      constructor
      · intro new
        simpa using positive new
      · intro latest
        by_contra old
        obtain ⟨_, member, not_later⟩ := negative (Int32.not_lt.mp old)
        obtain ⟨earlier, there, rfl⟩ := List.mem_map.mp member
        exact absurd (latest earlier there) (Int32.not_lt.mpr not_later)

end MotionDataReceiver

open MotionDataReceiver

/-- The receiver reports every event once exactly if none of the responses it decodes
repeats one. -/
theorem reports_once_iff {camNbr : Client.Cam} {actions : List (NetMonitor Nat × Moment)}
    {thread : Thread Program.motionDataReceiver} {calls : List Call}
    (ran : run Program.motionDataReceiver.alone (Program.motionDataReceiver.start (fields camNbr))
      actions = some (thread, calls)) :
    ReportsOnce calls ↔ NeverRepeats (calls.map Call.tLocal) := by
  have unchanging : Unchanging calls thread := by
    refine run_invariant Program.motionDataReceiver.alone (fun _ calls thread => Unchanging calls thread)
      ?_ ⟨rfl, by simp⟩ ran
    rintro _ calls thread ⟨monitor, moment⟩ after more unchanging taken
    obtain ⟨next, stepped⟩ := Program.alone_eq_some taken
    exact step_unchanging unchanging stepped
  exact reportsOnce_iff_neverRepeats unchanging.detected

def turnOn (socket : Nat) (bytes : List UInt8) : NetMonitor Nat × Moment :=
  ({ socket := some socket, isActive := true, shutdown := false }, ⟨⟨bytes, [], false⟩, false, .fresh⟩)

/-- The receiver takes the socket, and reads a response that is not cut up: the header, the times
behind it, the two bytes that these leave unread, and the end of the stream. -/
def respond (socket : Nat) (response : List UInt8) : List (NetMonitor Nat × Moment) :=
  let rest := response.drop MotionPack.HEAD_SIZE
  let unread := response.drop (response.length - 2)
  List.replicate 3 (turnOn socket response) ++
    [turnOn socket response, turnOn socket rest, turnOn socket rest, turnOn socket unread,
      turnOn socket unread, turnOn socket []]

def motionEvent (tdiff : Int32) : List UInt8 := Motion.okResponse tdiff 1447000000 1447000003

theorem first_event_reported_once : ∃ thread call,
    run Program.motionDataReceiver.alone (Program.motionDataReceiver.start (fields .one))
        (respond 0 (motionEvent 5)) = some (thread, [call]) ∧
      call.detected = true ∧ (ReportsOnce [call] ↔ NeverRepeats [call.tLocal]) := by
  have finishes : (run Program.motionDataReceiver.alone (Program.motionDataReceiver.start (fields .one))
      (respond 0 (motionEvent 5))).map Prod.snd = some [⟨.one, true, [47000000, 14470000, 0]⟩] := by
    decide +kernel
  obtain ⟨⟨thread, calls⟩, ran, rfl⟩ := Option.map_eq_some_iff.mp finishes
  exact ⟨thread, _, ran, rfl, reports_once_iff ran⟩

/-- The client connects again, and the response about the same event is reported as motion again. -/
theorem repeated_event_reported_again : ∃ thread call,
    run Program.motionDataReceiver.alone (Program.motionDataReceiver.start (fields .one))
        (respond 0 (motionEvent 5) ++ respond 1 (motionEvent 9)) = some (thread, [call, call]) ∧
      call.detected = true ∧ ¬ ReportsOnce [call, call] := by
  have finishes : (run Program.motionDataReceiver.alone (Program.motionDataReceiver.start (fields .one))
      (respond 0 (motionEvent 5) ++ respond 1 (motionEvent 9))).map Prod.snd =
        some [⟨.one, true, [47000000, 14470000, 0]⟩, ⟨.one, true, [47000000, 14470000, 0]⟩] := by
    decide +kernel
  obtain ⟨⟨thread, calls⟩, ran, rfl⟩ := Option.map_eq_some_iff.mp finishes
  refine ⟨thread, _, ran, rfl, ?_⟩
  intro once
  have second := (once [_] _ [] rfl).mp rfl
  rw [if_neg (List.cons_ne_nil _ _)] at second
  exact absurd (second _ (List.mem_singleton_self _)) (by decide)

end NetCam.Network
