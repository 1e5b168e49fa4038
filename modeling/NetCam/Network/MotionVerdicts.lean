import NetCam.Network.MotionFeed

/-! What the receiver makes of the answers, over all its connections.

The buffer outlives the connections. What an answer leaves in it is read together with the next
one, however many connections, lost answers and ends of streams are in between.
-/

set_option autoImplicit false

namespace NetCam.Network

open Semantics MotionPack

-- The most digits in front of an answer that was read.
def longest (answers : Nat → Option (Motion.GlobalState × Int32)) (log : List Verdict) : Nat :=
  log.foldl (fun most v => max most (((answers v.socket).map digits).getD 0)) 0

/-- The answers are taken up in the order of their connections, none of them twice. An answer that is
more than two digits shorter in front than an earlier one ends the thread, and any other is a call:
motion, if the server had been notified. -/
def Follows (c : Client.Cam) (answers : Nat → Option (Motion.GlobalState × Int32)) (before : List Verdict)
    (v : Verdict) : Prop :=
  (∀ earlier ∈ before, earlier.socket < v.socket ∧ earlier.call ≠ none) ∧
    ∃ entry, answers v.socket = some entry ∧
      (v.call = none ↔ digits entry + 2 < longest answers before) ∧
      ∀ call, v.call = some call → call.camNbr = c ∧ (call.detected = true ↔ entry.1 ≠ ⟨0, 0⟩)

section Longest

variable {answers others : Nat → Option (Motion.GlobalState × Int32)} {log : List Verdict}

theorem longest_concat (v : Verdict) :
    longest answers (log ++ [v]) = max (longest answers log) (((answers v.socket).map digits).getD 0) := by
  unfold longest
  rw [List.foldl_append]
  rfl

theorem longest_congr (same : ∀ v ∈ log, others v.socket = answers v.socket) :
    longest others log = longest answers log := by
  induction log using List.reverseRecOn with
  | nil => rfl
  | append_singleton log v ih =>
    rw [longest_concat, longest_concat, same v (by simp), ih fun w member => same w (by simp [member])]

theorem longest_eq_zero (none_asked : ∀ v ∈ log, ((answers v.socket).map digits).getD 0 = 0) :
    longest answers log = 0 := by
  induction log using List.reverseRecOn with
  | nil => rfl
  | append_singleton log v ih =>
    rw [longest_concat, none_asked v (by simp), ih fun w member => none_asked w (by simp [member])]
    rfl

theorem accounted_congr {c : Client.Cam} (same : ∀ v ∈ log, others v.socket = answers v.socket)
    (all : Accounted (Follows c answers) log) : Accounted (Follows c others) log := by
  intro before v after split
  obtain ⟨new, entry, given, law⟩ := all before v after split
  subst split
  refine ⟨new, entry, (same v (by simp)).trans given, ?_⟩
  rwa [longest_congr fun w member => same w (by simp [member])]

end Longest

structure Buffered (most : Nat) (fields : MotionDataReceiver.Fields) : Prop where
  holds : Holds most fields
  blank : most = 0 → Blank fields

section Turn

open MotionDataReceiver (Fields Stage turn report)

variable {fields after : Fields} {outcome : Outcome Stage} {calls : List MotionDataReceiver.Call}
  {moment : Moment} {most : Nat}

theorem Buffered.kept (buffered : Buffered most fields)
    (same : after.buffer.load 64 (BUFFER_SIZE - 64) = fields.buffer.load 64 (BUFFER_SIZE - 64))
    (zero : after.lastMotionTime = fields.lastMotionTime) : Buffered most after := by
  obtain ⟨⟨nothing, text, loaded, left⟩, blank⟩ := buffered
  refine ⟨⟨zero.trans nothing, text, same.trans loaded, left⟩, fun none_asked => ?_⟩
  obtain ⟨_, text, loaded, behind⟩ := blank none_asked
  exact ⟨zero.trans nothing, text, same.trans loaded, behind⟩

theorem turn_fields {stage : Stage} (turned : turn moment fields stage = (outcome, after, calls)) :
    after.lastMotionTime = fields.lastMotionTime ∧ after.camNbr = fields.camNbr := by
  cases stage <;> cases turned <;> exact ⟨rfl, rfl⟩

theorem Buffered.header {n size : Nat} (buffered : Buffered most fields) (inside : n + size ≤ 64)
    (turned : turn moment fields (.header n size) = (outcome, after, calls)) : Buffered most after := by
  have same : after = (turn moment fields (.header n size)).2.1 := by rw [turned]
  refine buffered.kept ?_ (turn_fields turned).1
  rw [same]
  exact @readTurn_behind _ n size _ _ moment fields.buffer (fun n => .header n (size - n))
    MotionDataReceiver.decodeHeader 64 _ inside

theorem report_camNbr {lastMotionTime : Int32} {camNbr : Client.Cam} {buffer : Buffer}
    {call : MotionDataReceiver.Call} (member : call ∈ (report lastMotionTime camNbr buffer).2) :
    call.camNbr = camNbr := by
  unfold report at member
  split at member
  · rw [List.mem_singleton.mp member]
  · cases member

theorem turn_ends {stage : Stage} (inside : ∃ n, (stage = .header n stage.len ∨ stage = .times n stage.len) ∧
      n + stage.len ≤ BUFFER_SIZE) (asked : 0 < stage.len)
    (nothing : moment.fails = true ∨ moment.is.pending = []) : ∃ outcome,
      (outcome = .breaks ∨ outcome = .ioException) ∧ turn moment fields stage = (outcome, fields, []) := by
  obtain ⟨n, there, inside⟩ := inside
  generalize stage.len = len at *
  rcases there with rfl | rfl
  · obtain ⟨outcome, out, ended⟩ := @readTurn_ends _ n len _ _ moment fields.buffer
      (fun n => .header n (len - n)) MotionDataReceiver.decodeHeader inside asked nothing
    exact ⟨outcome, out, by simp only [turn, ended]⟩
  · obtain ⟨outcome, out, ended⟩ := @readTurn_ends _ n len _ _ moment fields.buffer
      (fun n => .times n (len - n)) (report fields.lastMotionTime fields.camNbr) inside asked nothing
    exact ⟨outcome, out, by simp only [turn, ended]⟩

end Turn

section Reading

open MotionDataReceiver (Fields Stage turn report verdicts)

variable {c : Client.Cam} {answers : Nat → Option (Motion.GlobalState × Int32)} {log : List Verdict}
  {k : Nat} {unread : List UInt8} {fields after : Fields} {stage : Stage} {outcome : Outcome Stage}
  {calls : List MotionDataReceiver.Call} {reset fails : Bool}

-- Where the receiver can be with a connection: before the answer, in it, or in the rest of one.
inductive Reading (answers : Nat → Option (Motion.GlobalState × Int32)) (log : List Verdict) (k : Nat)
    (unread : List UInt8) : Fields → Stage → Prop where
  | begins {fields : Fields} (buffered : Buffered (longest answers log) fields) :
    Reading answers log k unread fields (.header 0 MotionPack.HEAD_SIZE)
  | rest {fields : Fields} {n size : Nat} (total : n + size = MotionPack.HEAD_SIZE) (some_left : 0 < size)
      (nothing : unread = []) (given : answers k ≠ none) (buffered : Buffered (longest answers log) fields) :
    Reading answers log k unread fields (.header n size)
  | headed {old fields : Fields} {x : Exchange} (given : answers k = some x.entry)
      (new : ∀ v ∈ log, v.socket ≠ k) (buffered : Buffered (longest answers log) old)
      (first : turn ⟨⟨x.times.response, [], false⟩, false, .fresh⟩ old (.header 0 MotionPack.HEAD_SIZE) =
        (.goesOn (.header MotionPack.HEAD_SIZE 0), fields, []))
      (left : unread = [] ∨ unread = x.times.response.drop MotionPack.HEAD_SIZE) :
    Reading answers log k unread fields (.header MotionPack.HEAD_SIZE 0)
  | sized {old fields : Fields} {x : Exchange} (given : answers k = some x.entry)
      (new : ∀ v ∈ log, v.socket ≠ k) (buffered : Buffered (longest answers log) old)
      (first : turn ⟨⟨x.times.response, [], false⟩, false, .fresh⟩ old (.header 0 MotionPack.HEAD_SIZE) =
        (.goesOn (.header MotionPack.HEAD_SIZE 0), fields, []))
      (left : unread = [] ∨ unread = x.times.response.drop MotionPack.HEAD_SIZE) :
    Reading answers log k unread fields (.times MotionPack.HEAD_SIZE x.times.body.length)
  | complete {old : Fields} {next : Buffer} {x : Exchange} (given : answers k = some x.entry)
      (new : ∀ v ∈ log, v.socket ≠ k) (buffered : Buffered (longest answers log) old)
      (received : receiveWhole old.buffer x.times.response = some next) (short : unread.length < MotionPack.HEAD_SIZE) :
    Reading answers log k unread { old with buffer := next } (.times x.times.body.length 0)

/-- What a turn comes to, with the verdict it gives. -/
inductive Progress (c : Client.Cam) (answers : Nat → Option (Motion.GlobalState × Int32))
    (log : List Verdict) (k : Nat) (unread : List UInt8) : Outcome Stage → Fields → List Verdict → Prop where
  | goesOn {later : Stage} {after : Fields} (reading : Reading answers log k unread after later) :
    Progress c answers log k unread (.goesOn later) after []
  | leaves {outcome : Outcome Stage} {after : Fields} (out : outcome = .breaks ∨ outcome = .ioException)
      (buffered : Buffered (longest answers log) after) : Progress c answers log k unread outcome after []
  | reports {call : MotionDataReceiver.Call} {after : Fields}
      (buffered : Buffered (longest answers (log ++ [⟨k, some call⟩])) after)
      (follows : Follows c answers log ⟨k, some call⟩) :
    Progress c answers log k unread (.goesOn (.header 0 MotionPack.HEAD_SIZE)) after [⟨k, some call⟩]
  | throws {after : Fields} (follows : Follows c answers log ⟨k, none⟩) :
    Progress c answers log k unread .otherException after [⟨k, none⟩]

theorem Times.length_response (t : Times) : t.response.length = MotionPack.HEAD_SIZE + (2 + t.body.length) := by
  obtain ⟨head, response, headed, _⟩ := t.response_eq
  rw [response, List.length_append, headed, List.length_append, List.length_map]
  rfl

theorem Times.body_short (t : Times) : t.body.length ≤ 42 := by
  have fits := t.fits
  change 58 + t.body.length ≤ 100 at fits
  omega

section Stages

theorem progress_begins (buffered : Buffered (longest answers log) fields)
    (arrived : unread.length < MotionPack.HEAD_SIZE ∨
      (∃ x : Exchange, answers k = some x.entry ∧ unread = x.times.response) ∧ ∀ v ∈ log, v.socket ≠ k)
    (given : unread ≠ [] → answers k ≠ none)
    (turned : turn ⟨⟨unread, [], reset⟩, fails, .fresh⟩ fields (.header 0 MotionPack.HEAD_SIZE) =
      (outcome, after, calls)) :
    Progress c answers log k (if fails then unread else unread.drop MotionPack.HEAD_SIZE) outcome after [] := by
  by_cases nothing : fails = true ∨ unread = []
  · obtain ⟨_, out, ended⟩ := @turn_ends fields ⟨⟨unread, [], reset⟩, fails, .fresh⟩
      (.header 0 MotionPack.HEAD_SIZE) ⟨0, .inl rfl, by decide⟩ (by decide) nothing
    cases ended.symm.trans turned
    exact .leaves out buffered
  · obtain ⟨works, some_left⟩ := not_or.mp nothing
    rw [Bool.not_eq_true] at works
    subst works
    rcases arrived with short | ⟨⟨x, there, rfl⟩, new⟩
    · obtain ⟨stored, part⟩ := @readTurn_part _ 0 MotionPack.HEAD_SIZE _ _ fields.buffer
        (fun n => .header n (MotionPack.HEAD_SIZE - n)) MotionDataReceiver.decodeHeader unread reset .fresh
        (by decide) some_left (Nat.le_of_lt short)
      have header : turn ⟨⟨unread, [], reset⟩, false, .fresh⟩ fields (.header 0 MotionPack.HEAD_SIZE) =
          (.goesOn (.header unread.length (MotionPack.HEAD_SIZE - unread.length)),
            { fields with buffer := stored }, []) := by simp only [turn, part]
      have kept := buffered.header (by decide) header
      cases header.symm.trans turned
      refine .goesOn (.rest (by omega) (by omega) ?_ (given some_left) kept)
      rw [if_neg Bool.false_ne_true]
      exact List.drop_eq_nil_iff.mpr (Nat.le_of_lt short)
    · obtain ⟨next, _, received, _⟩ := receiveWhole_spec x.times fields.buffer
      obtain ⟨first, header, _⟩ := turns_receiveWhole x.times fields received .fresh
      cases (header reset).symm.trans turned
      exact .goesOn (.headed there new buffered (header false) (.inr (if_neg Bool.false_ne_true)))

theorem progress_headed {old : Fields} {x : Exchange} (there : answers k = some x.entry)
    (new : ∀ v ∈ log, v.socket ≠ k) (buffered : Buffered (longest answers log) old)
    (first : turn ⟨⟨x.times.response, [], false⟩, false, .fresh⟩ old (.header 0 MotionPack.HEAD_SIZE) =
      (.goesOn (.header MotionPack.HEAD_SIZE 0), fields, []))
    (left : unread = [] ∨ unread = x.times.response.drop MotionPack.HEAD_SIZE)
    (turned : turn ⟨⟨unread, [], reset⟩, false, .fresh⟩ fields (.header MotionPack.HEAD_SIZE 0) =
      (outcome, after, calls)) : Progress c answers log k unread outcome after [] := by
  obtain ⟨next, _, received, _⟩ := receiveWhole_spec x.times old.buffer
  obtain ⟨laid, header, size, _⟩ := turns_receiveWhole x.times old received .fresh
  cases (header false).symm.trans first
  cases (size unread reset).symm.trans turned
  exact .goesOn (.sized there new buffered first left)

theorem progress_sized {old : Fields} {x : Exchange} (there : answers k = some x.entry)
    (new : ∀ v ∈ log, v.socket ≠ k) (buffered : Buffered (longest answers log) old)
    (first : turn ⟨⟨x.times.response, [], false⟩, false, .fresh⟩ old (.header 0 MotionPack.HEAD_SIZE) =
      (.goesOn (.header MotionPack.HEAD_SIZE 0), fields, []))
    (left : unread = [] ∨ unread = x.times.response.drop MotionPack.HEAD_SIZE)
    (turned : turn ⟨⟨unread, [], reset⟩, fails, .fresh⟩ fields
      (.times MotionPack.HEAD_SIZE x.times.body.length) = (outcome, after, calls)) :
    Progress c answers log k (if fails then unread else unread.drop x.times.body.length) outcome after [] := by
  have long := x.times.long
  change 10 ≤ x.times.body.length at long
  have short := x.times.body_short
  by_cases nothing : fails = true ∨ unread = []
  · obtain ⟨_, out, ended⟩ := @turn_ends fields ⟨⟨unread, [], reset⟩, fails, .fresh⟩
      (.times MotionPack.HEAD_SIZE x.times.body.length)
      ⟨MotionPack.HEAD_SIZE, .inr rfl, by change 58 + x.times.body.length ≤ 100; omega⟩
      (by change 0 < x.times.body.length; omega) nothing
    cases ended.symm.trans turned
    exact .leaves out (buffered.header (by decide) first)
  · obtain ⟨works, some_left⟩ := not_or.mp nothing
    rw [Bool.not_eq_true] at works
    subst works
    rw [left.resolve_left some_left] at turned ⊢
    obtain ⟨next, _, received, _⟩ := receiveWhole_spec x.times old.buffer
    obtain ⟨laid, header, _, body, _⟩ := turns_receiveWhole x.times old received .fresh
    cases (header false).symm.trans first
    cases (body reset).symm.trans turned
    refine .goesOn (.complete there new buffered received ?_)
    rw [if_neg Bool.false_ne_true, List.length_drop, List.length_drop, x.times.length_response]
    change 58 + _ - 58 - _ < 58
    omega

/-- The verdict on an answer that has come whole. -/
theorem progress_complete {old : Fields} {next : Buffer} {x : Exchange} (there : answers k = some x.entry)
    (new : ∀ v ∈ log, v.socket < k ∧ v.call ≠ none) (camera : old.camNbr = c)
    (ordered : x.entry.1 = ⟨0, 0⟩ → longest answers log = 0) (buffered : Buffered (longest answers log) old)
    (received : receiveWhole old.buffer x.times.response = some next)
    (turned : turn ⟨⟨unread, [], reset⟩, false, .fresh⟩ { old with buffer := next }
      (.times x.times.body.length 0) = (outcome, after, calls)) :
    Progress c answers log k unread outcome after
      (verdicts k { old with buffer := next } (.times x.times.body.length 0)) := by
  obtain ⟨_, _, _, _, times⟩ := turns_receiveWhole x.times old received .fresh
  cases (times unread reset).symm.trans turned
  unfold MotionDataReceiver.verdicts
  dsimp only
  have own (call : MotionDataReceiver.Call) (member : call ∈ (report old.lastMotionTime old.camNbr next).2) :
      call.camNbr = c := (report_camNbr member).trans camera
  have most (call : Option MotionDataReceiver.Call) :
      longest answers (log ++ [⟨k, call⟩]) = max (longest answers log) (digits x.entry) := by
    rw [longest_concat, there]
    rfl
  cases x with
  | idle i =>
    have zero := ordered rfl
    obtain ⟨_, call, same, blank, reported, quiet⟩ := (buffered.blank zero).idle i
    cases same.symm.trans received
    rw [reported] at own ⊢
    refine .reports ?_ ⟨new, _, there, ?_, ?_⟩
    · rw [most, zero]
      exact ⟨blank.holds, fun _ => blank⟩
    · rw [zero]
      simp
    · rintro _ ⟨⟩
      exact ⟨own call (List.mem_singleton_self call), by simp [quiet, Exchange.entry]⟩
  | answer a =>
    obtain ⟨_, same, holds, reported⟩ := buffered.holds.answer a
    cases same.symm.trans received
    have count := Exchange.digits_answer a
    have positive := a.elapsed_pos
    split at reported
    · next fits =>
      obtain ⟨call, reported, detected⟩ := reported
      rw [reported] at own ⊢
      refine .reports ?_ ⟨new, _, there, ?_, ?_⟩
      · rw [most, count]
        exact ⟨holds, fun none_asked => by omega⟩
      · rw [count]
        simp [fits]
      · rintro _ ⟨⟩
        exact ⟨own call (List.mem_singleton_self call), by simp [detected, Exchange.entry, Exchange.notified]⟩
    · -- more than two digits of an earlier answer: the camera's time is no int
      next long =>
      rw [reported]
      refine .throws ⟨new, _, there, ?_, fun _ absent => by cases absent⟩
      rw [count]
      exact iff_of_true rfl (by omega)

end Stages

theorem Reading.progress (reading : Reading answers log k unread fields stage)
    (asked : fails = true → 0 < stage.len) (camera : fields.camNbr = c)
    (arrived : unread.length < MotionPack.HEAD_SIZE ∨
      (∃ x : Exchange, answers k = some x.entry ∧ unread = x.times.response) ∧ ∀ v ∈ log, v.socket ≠ k)
    (given : unread ≠ [] → answers k ≠ none) (earlier : ∀ v ∈ log, v.socket ≤ k ∧ v.call ≠ none)
    (ordered : ∀ entry, answers k = some entry → entry.1 = ⟨0, 0⟩ → (∀ v ∈ log, v.socket ≠ k) →
      longest answers log = 0)
    (turned : turn ⟨⟨unread, [], reset⟩, fails, .fresh⟩ fields stage = (outcome, after, calls)) :
    Progress c answers log k (if fails then unread else unread.drop stage.len) outcome after
      (verdicts k fields stage) := by
  cases reading with
  | begins buffered => exact progress_begins buffered arrived given turned
  | @rest _ n size total some_left nothing _ buffered =>
    obtain ⟨_, out, ended⟩ := @turn_ends fields ⟨⟨unread, [], reset⟩, fails, .fresh⟩ (.header n size)
      ⟨n, .inl rfl, by change n + size ≤ 100; rw [total]; decide⟩ some_left (.inr nothing)
    cases ended.symm.trans turned
    exact .leaves out buffered
  | headed there new buffered first left =>
    cases fails with
    | true => cases asked rfl
    | false => exact progress_headed there new buffered first left turned
  | @sized old _ x there new buffered first left =>
    have long := x.times.long
    change 10 ≤ x.times.body.length at long
    have silent : verdicts k fields (.times MotionPack.HEAD_SIZE x.times.body.length) = [] := by
      generalize x.times.body.length = size at long
      cases size with
      | zero => omega
      | succ => rfl
    rw [silent]
    exact progress_sized there new buffered first left turned
  | complete there new buffered received =>
    cases fails with
    | true => cases asked rfl
    | false =>
      refine progress_complete there (fun v member => ?_) camera (fun idle => ordered _ there idle new) buffered
        received turned
      have before := earlier v member
      exact ⟨Nat.lt_of_le_of_ne before.1 (new v member), before.2⟩

/-- What is left on the socket is less than a header. -/
theorem Reading.left_short (reading : Reading answers log k unread fields stage)
    (arrived : unread.length < MotionPack.HEAD_SIZE ∨
      (∃ x : Exchange, answers k = some x.entry ∧ unread = x.times.response) ∧ ∀ v ∈ log, v.socket ≠ k) :
    (unread.drop stage.len).length < MotionPack.HEAD_SIZE := by
  have rest (t : Times) : (t.response.drop MotionPack.HEAD_SIZE).length < MotionPack.HEAD_SIZE := by
    have short := t.body_short
    rw [List.length_drop, t.length_response]
    change 58 + _ - 58 < 58
    omega
  rcases arrived with short | ⟨⟨x, _, rfl⟩, _⟩
  · rw [List.length_drop]
    omega
  · have long := x.times.length_response
    cases reading with
    | begins => exact rest x.times
    | rest _ _ nothing =>
      rw [nothing, List.drop_nil]
      exact (by decide : 0 < MotionPack.HEAD_SIZE)
    | @headed _ _ y _ _ _ _ left | @sized _ _ y _ _ _ _ left =>
      rw [List.length_drop]
      rcases left with nothing | same
      · rw [nothing]
        exact Nat.lt_of_le_of_lt (Nat.sub_le _ _) (by decide)
      · rw [same]
        exact Nat.lt_of_le_of_lt (Nat.sub_le _ _) (rest y.times)
    | complete _ _ _ _ short =>
      rw [List.length_drop]
      omega

theorem Reading.kept {others : Nat → Option (Motion.GlobalState × Int32)} {left : List UInt8}
    (reading : Reading answers log k unread fields stage) (most : longest others log = longest answers log)
    (same : answers k ≠ none → others k = answers k) (fewer : answers k ≠ none → left = unread ∨ left = []) :
    Reading others log k left fields stage := by
  have keeps {x : Exchange} (there : answers k = some x.entry) : others k = some x.entry :=
    (same (there ▸ Option.some_ne_none _)).trans there
  have lost {x : Exchange} {bytes : List UInt8} (there : answers k = some x.entry)
      (before : unread = [] ∨ unread = bytes) : left = [] ∨ left = bytes := by
    rcases fewer (there ▸ Option.some_ne_none _) with rfl | gone
    · exact before
    · exact .inl gone
  cases reading with
  | begins buffered => exact .begins (most ▸ buffered)
  | rest total some_left nothing given buffered =>
    refine .rest total some_left ?_ ((same given).trans_ne given) (most ▸ buffered)
    exact (fewer given).elim (fun kept => kept.trans nothing) id
  | headed there new buffered first before =>
    exact .headed (keeps there) new (most ▸ buffered) first (lost there before)
  | sized there new buffered first before =>
    exact .sized (keeps there) new (most ▸ buffered) first (lost there before)
  | complete there new buffered received short =>
    refine .complete (keeps there) new (most ▸ buffered) received ?_
    rcases fewer (there ▸ Option.some_ne_none _) with rfl | rfl
    · exact short
    · exact (by decide : 0 < MotionPack.HEAD_SIZE)

end Reading

namespace MotionFeed

def Receiving (log : List Verdict) (s : MotionFeed) : Prop :=
  match s.receiver.position with
  | .work k stage => (∀ v ∈ log, v.socket ≤ k ∧ v.call ≠ none) ∧
    Reading s.answers log k (s.unread k) s.receiver.fields stage
  | .exited => s.client.monitor.isShutdown = true ∨ ∃ v ∈ log, v.call = none
  | .shutDown => False
  | _ => (∀ v ∈ log, v.call ≠ none) ∧ Buffered (longest s.answers log) s.receiver.fields

structure Sound (c : Client.Cam) (log : List Verdict) (s : MotionFeed) : Prop where
  fresh : ∀ k, s.served ≤ k → s.answers k = none
  /-- No answer that was given before the first notification comes behind one given after it. -/
  began : s.task.state = ⟨0, 0⟩ → ∀ k entry, s.answers k = some entry → entry.1 = ⟨0, 0⟩
  ordered : ∀ j k first second, j < k → s.answers j = some first → s.answers k = some second →
    second.1 = ⟨0, 0⟩ → first.1 = ⟨0, 0⟩
  given : ∀ k, s.unread k ≠ [] → s.answers k ≠ none
  arrived : ∀ k, (s.unread k).length < MotionPack.HEAD_SIZE ∨
    (∃ x : Exchange, s.answers k = some x.entry ∧ s.unread k = x.times.response) ∧ ∀ v ∈ log, v.socket ≠ k
  connected : s.client.Connected
  ascending : s.client.Ascending
  follows : Accounted (Follows c s.answers) log
  latest : ∀ v ∈ log, ∃ m, s.client.monitor.getSocket = some m ∧ v.socket ≤ m
  camera : s.receiver.fields.camNbr = c
  receiving : s.Receiving log

variable {c : Client.Cam} {log : List Verdict} {s next : MotionFeed}

theorem sound_start (c : Client.Cam) : Sound c [] (start c) where
  fresh _ _ := rfl
  began _ _ _ there := by cases there
  ordered _ _ _ _ _ there := by cases there
  given _ some_left := absurd rfl some_left
  arrived _ := .inl (by change 0 < 58; decide)
  connected := Group.connected_start _
  ascending := Group.ascending_start _
  follows := accounted_nil _
  latest _ member := by cases member
  camera := rfl
  receiving := ⟨fun _ member => (by cases member), (blank_start c).holds, fun _ => blank_start c⟩

theorem Sound.answered (sound : Sound c log s) {v : Verdict} (member : v ∈ log) :
    s.answers v.socket ≠ none := by
  obtain ⟨before, after, split⟩ := List.append_of_mem member
  obtain ⟨_, entry, there, _⟩ := sound.follows before v after split
  rw [there]
  exact Option.some_ne_none entry

theorem Sound.longest_zero (sound : Sound c log s) {k : Nat} {entry : Motion.GlobalState × Int32}
    (there : s.answers k = some entry) (idle : entry.1 = ⟨0, 0⟩) (below : ∀ v ∈ log, v.socket < k) :
    longest s.answers log = 0 := by
  apply longest_eq_zero
  intro v member
  cases earlier : s.answers v.socket with
  | none => rfl
  | some first => exact if_pos (sound.ordered _ _ _ _ (below v member) earlier there idle)

theorem Receiving.kept (receiving : s.Receiving log) (same : next.receiver = s.receiver)
    (answers : ∀ k, s.answers k ≠ none → next.answers k = s.answers k)
    (answered : ∀ v ∈ log, s.answers v.socket ≠ none)
    (unread : ∀ k, s.answers k ≠ none → next.unread k = s.unread k ∨ next.unread k = [])
    (down : s.client.monitor.isShutdown = true → next.client.monitor.isShutdown = true) :
    next.Receiving log := by
  have most : longest next.answers log = longest s.answers log :=
    longest_congr fun v member => answers _ (answered v member)
  unfold Receiving at receiving ⊢
  rw [same, most]
  split at receiving
  · next k stage _ => exact ⟨receiving.1, receiving.2.kept most (answers k) (unread k)⟩
  · exact receiving.imp_left down
  · exact receiving
  · exact receiving

theorem Sound.client (sound : Sound c log s) {action : GroupAction MotionThread} {client : Group motionThreads}
    {es : List SocketEvent} (away : ∀ moment, action ≠ .thread .receiver moment)
    (taken : Group.step s.client action = some (client, es)) (asked : Nat → Bool) :
    Sound c log { s with client := client, asked := asked } := by
  have same : client.threads .receiver = s.client.threads .receiver := by
    rcases Group.step_threads .receiver taken with ⟨_, same⟩ | ⟨moment, _, rfl, _⟩
    · exact same
    · exact absurd rfl (away moment)
  refine { sound with
    connected := Group.connected_step sound.connected taken
    ascending := Group.ascending_step sound.ascending taken
    latest := fun v member => ?_
    camera := ?_
    receiving := sound.receiving.kept same (fun _ _ => rfl) (fun _ => sound.answered) (fun _ _ => .inl rfl)
      (Group.shutdown_stays taken) }
  · obtain ⟨k, current, behind⟩ := sound.latest v member
    obtain ⟨m, later, newer⟩ := sound.ascending.later taken current
    exact ⟨m, later, Nat.le_trans behind newer⟩
  · change (client.threads .receiver).fields.camNbr = c
    rw [same]
    exact sound.camera

theorem notified_state {task after : Motion.MotionTask} {polled : Motion.Poll} {results : List Int32}
    (timely : s.Timely (.notifies polled)) (taken : Motion.motionTask task polled = some (after, results))
    (never : after.state = ⟨0, 0⟩) : task.state = ⟨0, 0⟩ := by
  unfold Motion.motionTask at taken
  split at taken
  · cases taken
  cases polled with
  | acceptFails | readFails =>
    cases taken
    exact never
  | delivers request closed =>
    dsimp only at taken
    split at taken
    · cases taken
    split at taken <;> cases taken
    next parsed =>
    unfold Motion.parseMotionRequest at parsed
    split at parsed
    · cases parsed
      exact never
    split at parsed
    · cases parsed
      exact never
    dsimp only at parsed
    split at parsed <;> cases parsed
    have zero : request.now = 0 := congrArg Motion.GlobalState.tLocal never
    have late : 10 ^ 9 ≤ request.now.toInt := timely
    rw [zero] at late
    exact absurd late (by decide)

theorem Sound.serves_began (sound : Sound c log s) {socket : Nat} {now : Int32}
    (never : s.task.state = ⟨0, 0⟩) (k : Nat) (entry : Motion.GlobalState × Int32)
    (there : Function.update s.answers socket (some (s.task.state, now)) k = some entry) :
    entry.1 = ⟨0, 0⟩ := by
  by_cases same : k = socket
  · subst same
    rw [Function.update_self] at there
    cases there
    exact never
  · exact sound.began never k entry ((Function.update_of_ne same _ _).symm.trans there)

theorem Sound.serves_ordered (sound : Sound c log s) {socket : Nat} {now : Int32} (later : s.served ≤ socket)
    (j k : Nat) (first second : Motion.GlobalState × Int32) (below : j < k)
    (earlier : Function.update s.answers socket (some (s.task.state, now)) j = some first)
    (there : Function.update s.answers socket (some (s.task.state, now)) k = some second)
    (idle : second.1 = ⟨0, 0⟩) : first.1 = ⟨0, 0⟩ := by
  by_cases same : k = socket
  · subst same
    rw [Function.update_self] at there
    cases there
    exact sound.began idle j first ((Function.update_of_ne (Nat.ne_of_lt below) _ _).symm.trans earlier)
  · have before := (Function.update_of_ne same _ _).symm.trans there
    refine sound.ordered j k first second below ?_ before idle
    by_cases new : j = socket
    · -- the server has not come to any later connection
      subst new
      rw [sound.fresh k (Nat.le_trans later (Nat.le_of_lt below))] at before
      cases before
    · exact (Function.update_of_ne new _ _).symm.trans earlier

/-- The server answers on a connection that it has not come to. -/
theorem Sound.serves (sound : Sound c log s) {socket : Nat} {now : Int32} {x : Exchange}
    (timely : x.entry = (s.task.state, now)) (later : s.served ≤ socket) :
    Sound c log { s with
      served := socket + 1
      answers := Function.update s.answers socket (some (s.task.state, now))
      unread := if s.closed socket then s.unread else Function.update s.unread socket x.times.response
      closed := Function.update s.closed socket true } := by
  -- the connection has neither been answered nor judged, and what others hold stays as it is
  have unasked := sound.fresh socket later
  have silent : s.unread socket = [] := Classical.not_not.mp fun some_left => sound.given socket some_left unasked
  have others {k : Nat} (given : s.answers k ≠ none) :
      Function.update s.answers socket (some (s.task.state, now)) k = s.answers k := by
    apply Function.update_of_ne
    rintro rfl
    exact given unasked
  have own : Function.update s.answers socket (some (s.task.state, now)) socket = some x.entry := by
    rw [Function.update_self, timely]
  have elsewhere {k : Nat} (other : k ≠ socket) :
      (if s.closed socket then s.unread else Function.update s.unread socket x.times.response) k =
        s.unread k := by
    split
    · rfl
    · exact Function.update_of_ne other _ _
  have unjudged (v : Verdict) (member : v ∈ log) : v.socket ≠ socket := by
    rintro rfl
    exact sound.answered member unasked
  refine { sound with
    fresh := fun k beyond => ?_
    began := sound.serves_began
    ordered := sound.serves_ordered later
    given := fun k some_left => ?_
    arrived := fun k => ?_
    follows := accounted_congr (fun v member => others (sound.answered member)) sound.follows
    receiving := sound.receiving.kept rfl (fun _ => others) (fun _ => sound.answered) (fun k given => ?_) id }
  · exact (Function.update_of_ne (Nat.ne_of_gt beyond) _ _).trans
      (sound.fresh k (Nat.le_trans later (Nat.le_of_lt beyond)))
  · by_cases same : k = socket
    · subst same
      exact own.trans_ne (Option.some_ne_none _)
    · have given := sound.given k ((elsewhere same).symm.trans_ne some_left)
      exact (others given).trans_ne given
  · by_cases same : k = socket
    · subst same
      dsimp only
      split
      · rw [silent]
        exact .inl (by change 0 < 58; decide)
      · exact .inr ⟨⟨x, own, Function.update_self ..⟩, unjudged⟩
    · dsimp only
      rw [elsewhere same, Function.update_of_ne same]
      exact sound.arrived k
  · left
    apply elsewhere
    rintro rfl
    exact given unasked

theorem Sound.loses (sound : Sound c log s) (socket : Nat) :
    Sound c log { s with
      unread := Function.update s.unread socket []
      closed := Function.update s.closed socket true } := by
  have fewer (k : Nat) : Function.update s.unread socket [] k = s.unread k ∨
      Function.update s.unread socket [] k = [] := by
    by_cases same : k = socket
    · subst same
      exact .inr (Function.update_self ..)
    · exact .inl (Function.update_of_ne same _ _)
  refine { sound with
    given := fun k some_left => ?_
    arrived := fun k => ?_
    receiving := sound.receiving.kept rfl (fun _ _ => rfl) (fun _ => sound.answered) (fun k _ => fewer k) id }
  · rcases fewer k with kept | gone
    · exact sound.given k (kept ▸ some_left)
    · exact absurd gone some_left
  · dsimp only
    rcases fewer k with kept | gone
    · rw [kept]
      exact sound.arrived k
    · rw [gone]
      exact .inl (by change 0 < 58; decide)

section Receiver

variable {k : Nat} {stage : MotionDataReceiver.Stage} {reset fails : Bool}
  {monitor : NetMonitor Nat} {thread : Thread Program.motionDataReceiver}
  {reports : List MotionDataReceiver.Call}

def withReceiver (s : MotionFeed) (monitor : NetMonitor Nat) (thread : Thread Program.motionDataReceiver)
    (unread : Nat → List UInt8) : MotionFeed :=
  { s with
    client := { s.client with
      monitor := monitor
      threads := Function.update s.client.threads .receiver thread }
    unread := unread }

@[simp] theorem receiver_withReceiver {unread : Nat → List UInt8} :
    (s.withReceiver monitor thread unread).receiver = thread :=
  @Function.update_self _ (fun i => Thread (motionThreads i)) _ MotionThread.receiver thread s.client.threads

theorem Sound.idle (sound : Sound c log s) {moment : Moment}
    (away : ∀ k stage, s.receiver.position ≠ .work k stage)
    (taken : Group.step s.client (.thread .receiver moment) =
      some ((s.withReceiver monitor thread s.unread).client, []))
    (moved : Program.motionDataReceiver.step s.client.monitor moment s.receiver = some (monitor, thread, reports)) :
    Sound c log (s.withReceiver monitor thread s.unread) := by
  have receiving := sound.receiving
  refine { sound with
    connected := Group.connected_step sound.connected taken
    ascending := Group.ascending_step sound.ascending taken
    latest := fun v member => ?_
    camera := ?_
    receiving := ?_ }
  · obtain ⟨j, current, behind⟩ := sound.latest v member
    obtain ⟨m, later, newer⟩ := sound.ascending.later taken current
    exact ⟨m, later, Nat.le_trans behind newer⟩
  · rw [receiver_withReceiver]
    refine Eq.trans ?_ sound.camera
    rcases Program.step_fields moved with ⟨same, _⟩ | ⟨stage, _, turned⟩
    · rw [same]
    · exact (turn_fields (Option.some.inj turned)).2
  · unfold Receiving at receiving ⊢
    rw [receiver_withReceiver]
    cases Program.step_moves moved with
    | goesIn at_ | waits at_ | noStream at_ | setsInactive at_ =>
      rw [at_] at receiving
      exact receiving
    | exits at_ down => exact .inl down
    | noSocket at_ nothing => exact absurd nothing (sound.connected.taking .receiver at_)
    | takes at_ current =>
      rw [at_] at receiving
      refine ⟨fun v member => ⟨?_, receiving.1 v member⟩, .begins receiving.2⟩
      obtain ⟨m, there, behind⟩ := sound.latest v member
      cases there.symm.trans current
      exact behind
    | goesOn at_ | breaks at_ | ioException at_ | otherException at_ => exact absurd at_ (away _ _)
    | shutsDown at_ =>
      rw [at_] at receiving
      exact receiving.elim

theorem moment_work (at_ : s.receiver.position = .work k stage) :
    s.moment reset fails = ⟨⟨s.unread k, [], reset⟩, fails && stage.len != 0, .fresh⟩ := by
  unfold moment
  rw [at_]

theorem afterRead_work (at_ : s.receiver.position = .work k stage) :
    s.afterRead fails k = (if fails && stage.len != 0 then s.unread k else (s.unread k).drop stage.len) ∧
      ∀ j, j ≠ k → s.afterRead fails j = s.unread j := by
  unfold afterRead
  rw [at_]
  dsimp only
  split
  · exact ⟨rfl, fun _ _ => rfl⟩
  · exact ⟨Function.update_self .., fun j other => Function.update_of_ne other _ _⟩

/-- A step of the receiver on a connection touches the bytes of that connection alone. -/
theorem Sound.reads (sound : Sound c log s) (at_ : s.receiver.position = .work k stage) {new : List Verdict}
    (reading : Reading s.answers log k (s.unread k) s.receiver.fields stage)
    (taken : Group.step s.client (.thread .receiver (s.moment reset fails)) =
      some ((s.withReceiver monitor thread (s.afterRead fails)).client, []))
    (camera : thread.fields.camNbr = c) (sockets : ∀ v ∈ new, v.socket = k)
    (silent : 0 < stage.len → new = []) (follows : Accounted (Follows c s.answers) (log ++ new))
    (receiving : (s.withReceiver monitor thread (s.afterRead fails)).Receiving (log ++ new)) :
    Sound c (log ++ new) (s.withReceiver monitor thread (s.afterRead fails)) := by
  obtain ⟨own, elsewhere⟩ := @afterRead_work s k stage fails at_
  refine { sound with
    given := fun j some_left => ?_
    arrived := fun j => ?_
    connected := Group.connected_step sound.connected taken
    ascending := Group.ascending_step sound.ascending taken
    follows := follows
    latest := fun v member => ?_
    camera := ?_
    receiving := receiving }
  · -- bytes only go away, so the facts about what is unread are kept
    apply sound.given j
    intro nothing
    apply some_left
    change s.afterRead fails j = []
    by_cases same : j = k
    · subst same
      rw [own, nothing, List.drop_nil, ite_self]
    · rw [elsewhere j same, nothing]
  · change (s.afterRead fails j).length < _ ∨ (∃ x : Exchange, _ ∧ s.afterRead fails j = _) ∧ _
    by_cases same : j = k
    · subst same
      rw [own]
      split
      · next failing =>
        -- a read that throws has taken nothing and gives no verdict
        have asked : 0 < stage.len := by
          simp only [Bool.and_eq_true, bne_iff_ne, ne_eq] at failing
          omega
        rw [silent asked, List.append_nil]
        exact sound.arrived j
      · exact .inl (reading.left_short (sound.arrived j))
    · rw [elsewhere j same]
      refine (sound.arrived j).imp_right fun ⟨given, unjudged⟩ => ⟨given, fun v member => ?_⟩
      rcases List.mem_append.mp member with old | fresh
      · exact unjudged v old
      · rw [sockets v fresh]
        exact Ne.symm same
  · have current : ∃ m, s.client.monitor.getSocket = some m ∧ v.socket ≤ m := by
      rcases List.mem_append.mp member with old | fresh
      · exact sound.latest v old
      · rw [sockets v fresh]
        exact sound.ascending.working .receiver k stage at_
    obtain ⟨j, current, behind⟩ := current
    obtain ⟨m, later, newer⟩ := sound.ascending.later taken current
    exact ⟨m, later, Nat.le_trans behind newer⟩
  · rw [receiver_withReceiver]
    exact camera

theorem verdicts_asked {fields : MotionDataReceiver.Fields} (asked : 0 < stage.len) :
    MotionDataReceiver.verdicts k fields stage = [] := by
  cases stage with
  | header => rfl
  | times n size =>
    cases size with
    | zero => exact absurd asked (Nat.lt_irrefl 0)
    | succ => rfl

/-- On a connection the receiver reads on, leaves it, or comes to a verdict. -/
theorem Sound.works (sound : Sound c log s) (at_ : s.receiver.position = .work k stage)
    (taken : Group.step s.client (.thread .receiver (s.moment reset fails)) =
      some ((s.withReceiver monitor thread (s.afterRead fails)).client, []))
    (moved : Program.motionDataReceiver.step s.client.monitor (s.moment reset fails) s.receiver =
      some (monitor, thread, reports)) :
    Sound c (log ++ s.verdicts) (s.withReceiver monitor thread (s.afterRead fails)) := by
  have receiving := sound.receiving
  unfold Receiving at receiving
  rw [at_] at receiving
  obtain ⟨earlier, reading⟩ := receiving
  obtain ⟨own, elsewhere⟩ := @afterRead_work s k stage fails at_
  have verdicts : s.verdicts = MotionDataReceiver.verdicts k s.receiver.fields stage := by
    unfold MotionFeed.verdicts
    rw [at_]
  generalize turned : MotionDataReceiver.turn (s.moment reset fails) s.receiver.fields stage = result
  obtain ⟨outcome, after, calls⟩ := result
  have fields := turn_fields turned
  have progress := reading.progress (fun asked => by simp at asked; omega) sound.camera (sound.arrived k)
    (sound.given k) earlier (fun entry there idle new => sound.longest_zero there idle fun v member =>
      Nat.lt_of_le_of_ne (earlier v member).1 (new v member)) ((moment_work at_).symm ▸ turned)
  rw [← own] at progress
  simp only [Program.step, at_, turned] at moved
  rw [verdicts]
  have finishes {new : List Verdict} := @Sound.reads c log s k stage reset fails monitor thread sound at_ new
    reading taken
  have camera : after.camNbr = c := fields.2.trans sound.camera
  have silent := @verdicts_asked k stage s.receiver.fields
  generalize MotionDataReceiver.verdicts k s.receiver.fields stage = new at progress silent ⊢
  -- by what the turn comes to: only the last two give a verdict
  cases progress with
  | goesOn later =>
    cases moved
    refine finishes camera (fun v member => by cases member) silent (by rw [List.append_nil]; exact sound.follows) ?_
    unfold Receiving
    rw [receiver_withReceiver, List.append_nil]
    exact ⟨earlier, later⟩
  | leaves out buffered =>
    have still : (s.withReceiver monitor thread (s.afterRead fails)).Receiving log := by
      unfold Receiving
      rw [receiver_withReceiver]
      rcases out with rfl | rfl <;> cases moved <;> exact ⟨fun v member => (earlier v member).2, buffered⟩
    have kept : thread.fields = after := by rcases out with rfl | rfl <;> cases moved <;> rfl
    refine finishes (kept ▸ camera) (fun v member => by cases member) silent
      (by rw [List.append_nil]; exact sound.follows) ?_
    rw [List.append_nil]
    exact still
  | reports buffered follows =>
    cases moved
    refine finishes camera (fun v member => by rw [List.mem_singleton.mp member]) silent
      (accounted_concat sound.follows follows) ?_
    unfold Receiving
    rw [receiver_withReceiver]
    refine ⟨fun v member => ?_, .begins buffered⟩
    rcases List.mem_append.mp member with old | fresh
    · exact earlier v old
    · rw [List.mem_singleton.mp fresh]
      exact ⟨Nat.le_refl k, Option.some_ne_none _⟩
  | throws follows =>
    cases moved
    refine finishes camera (fun v member => by rw [List.mem_singleton.mp member]) silent
      (accounted_concat sound.follows follows) ?_
    unfold Receiving
    rw [receiver_withReceiver]
    exact .inr ⟨_, List.mem_append_right _ (List.mem_singleton_self _), rfl⟩

end Receiver

theorem Sound.others (sound : Sound c log s) {action : GroupAction MotionThread} {es : List Verdict}
    (away : ∀ moment, action ≠ .thread .receiver moment) (taken : s.clientStep action = some (next, es)) :
    Sound c (log ++ es) next := by
  unfold clientStep at taken
  split at taken <;> cases taken
  next moved =>
  rw [List.append_nil]
  exact sound.client away moved s.asked

theorem Sound.step (sound : Sound c log s) {action : MotionAction} {es : List Verdict}
    (timely : s.Timely action) (taken : step s action = some (next, es)) : Sound c (log ++ es) next := by
  cases action with
  | notifies polled =>
    simp only [MotionFeed.step] at taken
    split at taken <;> cases taken
    next moved =>
    rw [List.append_nil]
    exact { sound with began := fun never => sound.began (notified_state timely moved never) }
  | serves socket now =>
    simp only [MotionFeed.step] at taken
    split at taken
    · next later =>
      obtain ⟨x, asked⟩ := timely
      have served := x.served
      rw [asked] at served
      rw [served] at taken
      cases taken
      rw [List.append_nil]
      exact sound.serves asked later.1
    · cases taken
  | loses socket =>
    cases taken
    rw [List.append_nil]
    exact sound.loses socket
  | sender fails =>
    simp only [MotionFeed.step] at taken
    split at taken <;> cases taken
    next moved =>
    rw [List.append_nil]
    exact sound.client (fun _ same => by cases same) moved _
  | receiver reset fails =>
    simp only [MotionFeed.step] at taken
    split at taken
    · cases taken
    split at taken <;> cases taken
    next stepped =>
    obtain ⟨monitor, thread, reports, moved, rfl, rfl⟩ := Group.step_thread stepped
    -- only at work the receiver touches bytes or comes to verdicts
    cases at_ : s.receiver.position with
    | work k stage => exact sound.works at_ stepped moved
    | _ =>
      have quiet : s.verdicts = [] ∧ s.afterRead fails = s.unread := by
        unfold verdicts afterRead
        rw [at_]
        exact ⟨rfl, rfl⟩
      rw [quiet.1, quiet.2, List.append_nil]
      exact sound.idle (by simp [at_]) stepped moved
  | connector fails => exact sound.others (fun _ same => by cases same) taken
  | closer => exact sound.others (fun _ same => by cases same) taken
  | shutDown => exact @Sound.others c log s next sound .shutDown es (fun _ same => by cases same) taken

def reported (log : List Verdict) : List Bool := log.filterMap fun v => v.call.map (·.detected)

instance (entry : Motion.GlobalState × Int32) : Decidable (∃ x : Exchange, x.entry = entry) :=
  decidable_of_iff (entry.1 = ⟨0, 0⟩ ∧ 10 ^ 9 ≤ entry.2.toInt ∨
      (10 ^ 9 ≤ entry.1.tLocal.toInt ∧ entry.1.tLocal.toInt ≤ entry.2.toInt ∧
        entry.2.toInt - entry.1.tLocal.toInt < 10 ^ 9 ∧ 10 ^ 9 ≤ entry.1.tRemote.toInt ∧
        entry.1.tRemote.toInt < 2147483600)) (by
    constructor
    · rintro (⟨never, late⟩ | ⟨late, after, recent, remoteLate, remoteEarly⟩)
      · exact ⟨.idle ⟨entry.2, late⟩, Prod.ext never.symm rfl⟩
      · exact ⟨.answer ⟨entry.1, entry.2, late, after, recent, remoteLate, remoteEarly⟩, rfl⟩
    · rintro ⟨i | a, rfl⟩
      · exact .inl ⟨rfl, i.late⟩
      · exact .inr ⟨a.late, a.after, a.recent, a.remoteLate, a.remoteEarly⟩)

instance (s : MotionFeed) (action : MotionAction) : Decidable (s.Timely action) :=
  match action with
  | .notifies (.delivers request _) => inferInstanceAs (Decidable (10 ^ 9 ≤ request.now.toInt))
  | .notifies .acceptFails | .notifies .readFails => .isTrue trivial
  | .serves _ now => inferInstanceAs (Decidable (∃ x : Exchange, x.entry = (s.task.state, now)))
  | .loses _ | .sender _ | .receiver _ _ | .connector _ | .closer | .shutDown => .isTrue trivial

def noticing (now : Int32) : MotionAction :=
  .notifies (.delivers ⟨ascii "GET /motion?Message=1500000000\n", now, by decide +kernel⟩ true)

end MotionFeed

end NetCam.Network
