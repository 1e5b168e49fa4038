import NetCam.Camera.OversizedFrames
import NetCam.Motion.Notifications
import NetCam.Motion.ResponseText

/-! The fake camera of `fakecapture.c`, and its notifications at the motion server.

The frames are files that are played in a loop. Some of them come with a notification, over
a socket that is opened for it and closed again only if the connection could be made. What
goes out over the connection is up to `write_string`, whose error is only printed.
-/

set_option autoImplicit false

namespace NetCam.Camera

open Semantics

namespace FakeCapture

def START_FRAME : Nat := 80

def NUM_FRAMES : Nat := 247

def FILEPATH_LENGTH : Nat := 100

/-- The number of the next frame, and the sockets that are open. -/
structure MediaStream where
  frameNr : Nat
  sockets : Nat
  deriving DecidableEq, Repr

/-- What comes of the connection for a notification: if it is made, the results of the calls of
`send` on it. -/
inductive Connection where
  | noSocket
  | refused
  | made (results : List Int32)
  deriving DecidableEq, Repr

def Connection.isMade : Connection → Bool
  | made _ => true
  | _ => false

/-- What the system contributes to one call: the file if it can be opened, what is in it if it
can be read, the two clocks, and the connection. -/
structure Surroundings where
  file : Option (Option (List UInt8))
  time : UInt64
  clock : Int32
  connection : Connection
  deriving DecidableEq, Repr

inductive CaptureEvent where
  | opens (fname : List UInt8)
  | returns (fr : Option MediaFrame)
  | notifies (sent : List UInt8) (result : Int32)

def mediaFrame (nr : Nat) : List UInt8 :=
  Motion.snprintf (FILEPATH_LENGTH - 1) (ascii "media/film" ++
    (List.replicate (3 - (numeral nr).length) 48 ++ numeral nr).map UInt8.ofNat ++ ascii ".jpg")

def motionMessage (clock : Int32) : List UInt8 :=
  Motion.snprintf 100 (ascii "GET /motion?Message=" ++ (signedNumeral clock.toInt).map UInt8.ofNat ++ [10])

/-- A socket that cannot be connected is left open. One that can is closed also when the write
fails. -/
def fakeMotionNotify (env : Surroundings) (stream : MediaStream) :
    Option (MediaStream × List CaptureEvent) :=
  match env.connection with
  | .noSocket => some (stream, [])
  | .refused => some ({ stream with sockets := stream.sockets + 1 }, [])
  | .made results =>
    match writeString (motionMessage env.clock ++ [0]) results with
    | none => none
    | some (sent, result) => some (stream, [.notifies sent result])

def fakeMotionDetect (env : Surroundings) (stream : MediaStream) :
    Option (MediaStream × List CaptureEvent) :=
  if stream.frameNr > 86 ∧ stream.frameNr < 219 ∧ stream.frameNr % 5 = 0 then fakeMotionNotify env stream
  else some (stream, [])

def captureOpenStream : MediaStream := { frameNr := START_FRAME, sockets := 1 }

def captureGetFrame : Step MediaStream Surroundings CaptureEvent := fun stream env =>
  let fname := mediaFrame stream.frameNr
  let stream := { stream with
    frameNr := if stream.frameNr + 1 > NUM_FRAMES then START_FRAME else stream.frameNr + 1 }
  match env.file with
  | none => some (stream, [.opens fname, .returns none])
  | some content =>
    -- a file that cannot be read is no frame, and yet may be motion
    match fakeMotionDetect env stream with
    | none => none
    | some (stream, es) =>
      let res := content.map fun data => { data := data.take FRAME_BUF_SZ, timestamp := env.time }
      some (stream, .opens fname :: es ++ [.returns res])

def film (k : Nat) : Nat := START_FRAME + k % (NUM_FRAMES + 1 - START_FRAME)

/-- Whether a call is one that notifies: the frame after it is one of every fifth. -/
def Moving (k : Nat) : Prop := film (k + 1) > 86 ∧ film (k + 1) < 219 ∧ film (k + 1) % 5 = 0

instance (k : Nat) : Decidable (Moving k) := inferInstanceAs (Decidable (_ ∧ _))

def attempts (envs : List Surroundings) : List Surroundings :=
  (envs.zipIdx.filter fun (env, k) => Moving k ∧ env.file.isSome = true).map Prod.fst

def opened (log : List CaptureEvent) : List (List UInt8) :=
  log.filterMap fun
    | .opens fname => some fname
    | _ => none

def notified (log : List CaptureEvent) : List (List UInt8 × Int32) :=
  log.filterMap fun
    | .notifies sent result => some (sent, result)
    | _ => none

-- What becomes of a notification, if a connection is made for it.
def outcome (env : Surroundings) : Option (List UInt8 × Int32) :=
  match env.connection with
  | .made results => writeString (motionMessage env.clock ++ [0]) results
  | _ => none

def clocks (envs : List Surroundings) : List Int32 :=
  ((attempts envs).filter fun env => env.connection.isMade).map Surroundings.clock

def refusals (envs : List Surroundings) : List Surroundings :=
  (attempts envs).filter fun env => env.connection = .refused

/-- The results are those of calls of `send` that are asked to send the notification. -/
def Surroundings.Answered (env : Surroundings) : Prop :=
  ∀ results, env.connection = .made results →
    Answers (UInt32.ofNat (motionMessage env.clock).length) 0 results

def Surroundings.TakenWhole (env : Surroundings) : Prop :=
  ∀ results, env.connection = .made results →
    InStep (motionMessage env.clock ++ [0]) 0 results ∧ ∀ tmp ∈ results, 0 < tmp

theorem film_succ (k : Nat) : film (k + 1) = if film k + 1 > NUM_FRAMES then START_FRAME else film k + 1 := by
  unfold film NUM_FRAMES START_FRAME
  split <;> omega

section Message

open Motion

theorem motionMessage_eq (clock : Int32) : motionMessage clock =
    ascii "GET /motion?Message=" ++ ((signedNumeral clock.toInt ++ [10]).map UInt8.ofNat) := by
  have low := clock.le_toInt
  have high := clock.toInt_lt
  have short : (signedNumeral clock.toInt).length ≤ 11 := signedNumeral_length_le (by decide) (by omega)
  have front : (ascii "GET /motion?Message=").length = 20 := rfl
  unfold motionMessage
  rw [snprintf_of_short, List.map_append, List.append_assoc]
  · rfl
  · rw [List.length_append, List.length_append, front, List.length_map, List.length_singleton]
    omega

theorem motionMessage_length (clock : Int32) : (motionMessage clock).length < 100 := by
  have bound : (motionMessage clock).length ≤ 99 := List.length_take_le ..
  omega

theorem motionMessage_ne_zero (clock : Int32) : ∀ c ∈ motionMessage clock, c ≠ 0 := by
  intro c member
  rw [motionMessage_eq] at member
  rcases List.mem_append.mp member with front | number
  · have none_zero : (ascii "GET /motion?Message=").contains 0 = false := by decide +kernel
    rintro rfl
    rw [List.contains_iff_mem.mpr front] at none_zero
    cases none_zero
  · obtain ⟨code, digit, rfl⟩ := List.mem_map.mp number
    intro zero
    have same := congrArg UInt8.toNat zero
    rw [UInt8.toNat_ofNat', UInt8.toNat_zero] at same
    rcases List.mem_append.mp digit with digit | newline
    · have bound := signedNumeral_bound digit
      omega
    · rw [List.mem_singleton.mp newline] at same
      cases same

theorem strlen_motionMessage (clock : Int32) :
    strlen (motionMessage clock ++ [0]) = some (UInt32.ofNat (motionMessage clock).length) := by
  unfold strlen
  rw [if_pos (List.mem_append_right _ (List.mem_singleton_self 0)),
    List.takeWhile_append_of_pos fun c member => by simpa using motionMessage_ne_zero clock c member]
  simp

theorem toNat_message_length (clock : Int32) :
    (UInt32.ofNat (motionMessage clock).length).toNat = (motionMessage clock).length := by
  have bound := motionMessage_length clock
  rw [UInt32.toNat_ofNat', Nat.mod_eq_of_lt (by omega)]

theorem writeString_isSome {clock : Int32} {results : List Int32}
    (answers : Answers (UInt32.ofNat (motionMessage clock).length) 0 results) :
    ∃ sent result, writeString (motionMessage clock ++ [0]) results = some (sent, result) := by
  obtain ⟨sent, result, looped, _⟩ := @writeLoop_spec (motionMessage clock ++ [0]) _ 0 results
    (by rw [toNat_message_length, List.length_append]; omega) answers
  refine ⟨sent, result, ?_⟩
  unfold writeString
  rw [strlen_motionMessage]
  exact looped

theorem outcome_of_takenWhole {env : Surroundings} (answered : env.Answered) (whole : env.TakenWhole)
    (made : env.connection.isMade = true) :
    ∃ result, outcome env = some (motionMessage env.clock, result) := by
  unfold outcome
  cases connection : env.connection with
  | noSocket | refused =>
    rw [connection] at made
    cases made
  | made results =>
    obtain ⟨in_step, succeed⟩ := whole results connection
    have inside := toNat_message_length env.clock
    have bound := motionMessage_length env.clock
    obtain ⟨sent, result, wrote, delivers⟩ := (writeN_delivers_iff (by
        rw [inside, List.length_append]
        omega) (answered results connection)).mpr ⟨in_step, fun _ => by rw [inside]; omega⟩
    refine ⟨result, ?_⟩
    unfold writeString
    rw [strlen_motionMessage]
    change writeN _ _ _ = _
    rw [wrote, (delivers.all succeed).1, inside, List.take_left]

end Message

section Film

variable {envs : List Surroundings} {stream next : MediaStream} {log es : List CaptureEvent}

/-- After so many calls, what has been opened and notified, and what is still open. -/
structure Played (envs : List Surroundings) (log : List CaptureEvent) (stream : MediaStream) : Prop where
  frame : stream.frameNr = film envs.length
  opened : opened log = (List.range envs.length).map fun k => mediaFrame (film k)
  notified : notified log = (attempts envs).filterMap outcome
  sockets : stream.sockets = 1 + (refusals envs).length

theorem attempts_append (envs : List Surroundings) (env : Surroundings) :
    attempts (envs ++ [env]) =
      attempts envs ++ if Moving envs.length ∧ env.file.isSome = true then [env] else [] := by
  unfold attempts
  rw [List.zipIdx_append, List.filter_append, List.map_append]
  congr 1
  by_cases fires : Moving envs.length ∧ env.file.isSome = true
  · simp [fires]
  · rw [if_neg fires]
    simpa using fires

theorem refusals_append (envs : List Surroundings) (env : Surroundings) :
    refusals (envs ++ [env]) = refusals envs ++
      if (Moving envs.length ∧ env.file.isSome = true) ∧ env.connection = .refused then [env] else [] := by
  unfold refusals
  rw [attempts_append, List.filter_append]
  congr 1
  by_cases fires : Moving envs.length ∧ env.file.isSome = true
  · rw [if_pos fires]
    by_cases refused : env.connection = .refused <;> simp [fires, refused]
  · rw [if_neg fires, if_neg fun both => fires both.1]
    rfl

theorem fakeMotionNotify_spec {env : Surroundings} (answered : env.Answered) (stream : MediaStream) :
    ∃ es, fakeMotionNotify env stream = some ({ stream with
        sockets := stream.sockets + if env.connection = .refused then 1 else 0 }, es) ∧
      opened es = [] ∧ notified es = (outcome env).toList := by
  unfold fakeMotionNotify outcome
  cases connection : env.connection with
  | noSocket | refused => exact ⟨[], rfl, rfl, rfl⟩
  | made results =>
    obtain ⟨sent, result, wrote⟩ := writeString_isSome (answered results connection)
    simp only [wrote]
    exact ⟨_, rfl, rfl, rfl⟩

theorem captureGetFrame_spec {k : Nat} {env : Surroundings} (at_ : stream.frameNr = film k)
    (answered : Moving k ∧ env.file.isSome = true → env.Answered) :
    ∃ next es, captureGetFrame stream env = some (next, es) ∧ next.frameNr = film (k + 1) ∧
      opened es = [mediaFrame (film k)] ∧
      notified es = (if Moving k ∧ env.file.isSome = true then (outcome env).toList else []) ∧
      next.sockets = stream.sockets +
        if (Moving k ∧ env.file.isSome = true) ∧ env.connection = .refused then 1 else 0 := by
  have moves := film_succ k
  unfold captureGetFrame
  rw [at_, ← moves]
  dsimp only
  cases file : env.file with
  | none => exact ⟨_, _, rfl, rfl, rfl, by simp [notified], by simp⟩
  | some content =>
    by_cases moving : Moving k
    · have detected : fakeMotionDetect env ⟨film (k + 1), stream.sockets⟩ =
          fakeMotionNotify env ⟨film (k + 1), stream.sockets⟩ := if_pos moving
      obtain ⟨es, notifies, files, messages⟩ :=
        fakeMotionNotify_spec (answered ⟨moving, by rw [file]; rfl⟩) ⟨film (k + 1), stream.sockets⟩
      simp only [detected, notifies]
      refine ⟨_, _, rfl, rfl, ?_, ?_, ?_⟩
      · simpa [opened] using files
      · simpa [notified, moving] using messages
      · simp [moving]
    · have silent : fakeMotionDetect env ⟨film (k + 1), stream.sockets⟩ =
          some (⟨film (k + 1), stream.sockets⟩, []) := if_neg moving
      simp only [silent]
      exact ⟨_, _, rfl, rfl, rfl, by simp [notified, moving], by simp [moving]⟩

theorem step_played {env : Surroundings} (played : Played envs log stream)
    (answered : Moving envs.length ∧ env.file.isSome = true → env.Answered)
    (taken : captureGetFrame stream env = some (next, es)) : Played (envs ++ [env]) (log ++ es) next := by
  obtain ⟨frame, files, messages, sockets⟩ := played
  obtain ⟨_, _, same, number, file, message, left⟩ := captureGetFrame_spec frame answered
  cases taken.symm.trans same
  refine ⟨?_, ?_, ?_, ?_⟩
  · rw [number, List.length_append]
    rfl
  · rw [List.length_append, List.length_singleton, List.range_succ, List.map_append, ← files]
    exact (List.filterMap_append ..).trans (congrArg _ file)
  · rw [attempts_append, List.filterMap_append, ← messages]
    refine (List.filterMap_append ..).trans (congrArg _ (message.trans ?_))
    split
    · cases there : outcome env <;> simp [there]
    · rfl
  · rw [left, sockets, refusals_append, List.length_append, Nat.add_assoc]
    congr 2
    split <;> rfl

theorem run_played (answered : ∀ env ∈ attempts envs, env.Answered) : ∃ stream log,
    run captureGetFrame captureOpenStream envs = some (stream, log) ∧ Played envs log stream := by
  induction envs using List.reverseRecOn with
  | nil => exact ⟨captureOpenStream, [], rfl, rfl, rfl, rfl, rfl⟩
  | append_singleton done env ih =>
    rw [attempts_append] at answered
    obtain ⟨stream, log, ran, played⟩ := ih fun earlier member =>
      answered earlier (List.mem_append_left _ member)
    have last : Moving done.length ∧ env.file.isSome = true → env.Answered := fun fires =>
      answered env (List.mem_append_right _ (by rw [if_pos fires]; exact List.mem_singleton_self env))
    obtain ⟨next, es, taken, _⟩ := captureGetFrame_spec played.frame last
    exact ⟨next, log ++ es, (run_append_iff captureGetFrame).mpr
      ⟨stream, log, es, ran, (run_singleton_iff captureGetFrame).mpr taken, rfl⟩,
      step_played played last taken⟩

theorem sent_whole {tried : List Surroundings} (answered : ∀ env ∈ tried, env.Answered)
    (whole : ∀ env ∈ tried, env.TakenWhole) :
    (tried.filterMap outcome).map Prod.fst =
      ((tried.filter fun env => env.connection.isMade).map Surroundings.clock).map motionMessage := by
  induction tried with
  | nil => rfl
  | cons env rest ih =>
    obtain ⟨answered, others⟩ := List.forall_mem_cons.mp answered
    obtain ⟨whole, further⟩ := List.forall_mem_cons.mp whole
    have tail := ih others further
    cases made : env.connection.isMade with
    | true =>
      obtain ⟨result, sent⟩ := outcome_of_takenWhole answered whole made
      simp only [List.filterMap_cons, sent, List.filter_cons, made, if_true, List.map_cons, tail]
    | false =>
      have nothing : outcome env = none := by
        unfold outcome
        cases connection : env.connection with
        | made results =>
          rw [connection] at made
          cases made
        | noSocket | refused => rfl
      simp only [List.filterMap_cons, nothing, List.filter_cons, made, Bool.false_eq_true, if_false, tail]

end Film

section Notify

open Motion

theorem messageText_motionMessage (clock : Int32) :
    messageText (motionMessage clock) = signedNumeral clock.toInt ++ [10] := by
  rw [motionMessage_eq, messageText_append (by decide)]
  change codes _ = _
  refine codes_map_ofNat fun c member => ?_
  rcases List.mem_append.mp member with digit | newline
  · have bound := signedNumeral_bound digit
    omega
  · rw [List.mem_singleton.mp newline]
    decide

/-- A notification is judged to be one, and its times are right, whatever is in the buffer. -/
theorem notification_judged {task : MotionTask} (up : task.exited = false) {request : Request}
    {clock : Int32} (asked : request.bytes = motionMessage clock) :
    ∃ next, motionTask task (.delivers request true) = some (next, [1]) ∧
      next.exited = false ∧ next.state = { tLocal := request.now, tRemote := clock } := by
  have asks : asksMotion request.bytes = true := by
    rw [asked, motionMessage_eq, asksMotion_append (by decide)]
    decide
  have has : hasMessage request.bytes = true := by
    rw [asked, motionMessage_eq, hasMessage_append (by decide)]
    decide
  obtain ⟨value, ends⟩ := leadingInt_signedNumeral clock.toInt (by decide : isDigit 10 = false) []
  rw [← messageText_motionMessage, ← asked] at value ends
  have judged : JudgedOnOwn task (.delivers request true) := by
    refine (judgedOnOwn_iff task _).mpr (undisturbed_of_ends (length_of_hasMessage has) ?_ ?_)
    · rw [ends]
      exact List.cons_ne_nil _ _
    · rw [value]
      exact ⟨clock.le_toInt, clock.toInt_lt⟩
  obtain ⟨next, hres, taken, law⟩ := judged up
  rw [if_pos asks] at law
  obtain ⟨rfl, tLocal, tRemote⟩ := law
  rw [message, if_pos has, value] at tRemote
  obtain ⟨buf, _, turn⟩ := motionTask_delivers request true up
  have closed : next.exited = false := by
    obtain ⟨parsed, _, same⟩ := Option.map_eq_some_iff.mp (turn.symm.trans taken)
    exact (congrArg (fun result => result.1.exited) same).symm
  refine ⟨next, taken, closed, ?_⟩
  cases state : next.state with
  | mk l r =>
    rw [state] at tLocal tRemote
    rw [← Int32.toInt_inj.mp tRemote, ← tLocal]

-- What the last of the notifications leaves in the state.
def latest (state : GlobalState) (requests : List Request) (clocks : List Int32) : GlobalState :=
  (requests.zip clocks).foldl (fun _ (request, clock) => { tLocal := request.now, tRemote := clock }) state

theorem notifications_run {clocks : List Int32} {requests : List Request}
    (asked : requests.map Request.bytes = clocks.map motionMessage) {task : MotionTask}
    (up : task.exited = false) :
    ∃ next, run motionTask task (requests.map (.delivers · true)) =
        some (next, requests.map fun _ => 1) ∧
      next.exited = false ∧ next.state = latest task.state requests clocks := by
  induction requests generalizing clocks task with
  | nil => exact ⟨task, rfl, up, rfl⟩
  | cons request later ih =>
    cases clocks with
    | nil => cases asked
    | cons clock rest =>
      obtain ⟨own, others⟩ := List.cons.inj asked
      obtain ⟨next, taken, still, state⟩ := notification_judged up own
      obtain ⟨last, ran, up, times⟩ := ih others still
      refine ⟨last, (run_cons_iff motionTask).mpr ⟨next, [1], _, taken, ran, rfl⟩, up, ?_⟩
      rw [times, state]
      rfl

end Notify

/-- However often the fake camera is asked for a frame, it plays its film in a loop, tries to
notify at the frames that show motion and leaves a socket open for each connection that was
refused. On every other one it puts what `write_string` makes of the notification. If that is the
whole notification each time, and one read returns it, the motion server takes every one for what
it is. -/
theorem film_notifies_server {envs : List Surroundings}
    (answered : ∀ env ∈ attempts envs, env.Answered) {task : Motion.MotionTask} (up : task.exited = false) :
    ∃ stream log,
      run captureGetFrame captureOpenStream envs = some (stream, log) ∧
      opened log = (List.range envs.length).map (fun k => mediaFrame (film k)) ∧
      notified log = (attempts envs).filterMap outcome ∧
      stream.sockets = 1 + (refusals envs).length ∧
      ∀ requests : List Motion.Request, (∀ env ∈ attempts envs, env.TakenWhole) →
        requests.map Motion.Request.bytes = (notified log).map Prod.fst →
        ∃ next, run Motion.motionTask task (requests.map (.delivers · true)) =
            some (next, requests.map fun _ => 1) ∧
          next.state = latest task.state requests (clocks envs) := by
  obtain ⟨stream, log, ran, played⟩ := run_played answered
  refine ⟨stream, log, ran, played.opened, played.notified, played.sockets, fun requests whole read => ?_⟩
  rw [played.notified, sent_whole answered whole] at read
  obtain ⟨next, judged, _, state⟩ := notifications_run read up
  exact ⟨next, judged, state⟩

def tenFrames : List Surroundings := List.replicate 10 ⟨some (some [255]), 0, 1447000000, .made [31]⟩

theorem tenth_frame_notifies : ∃ stream log next,
    run captureGetFrame captureOpenStream tenFrames = some (stream, log) ∧
      notified log = [(motionMessage 1447000000, 31)] ∧ stream.sockets = 1 ∧
      run Motion.motionTask (.start ⟨0, 0⟩)
          [.delivers ⟨motionMessage 1447000000, 1447000003, by decide +kernel⟩ true] = some (next, [1]) ∧
      next.state = ⟨1447000003, 1447000000⟩ := by
  have tried : attempts tenFrames = [⟨some (some [255]), 0, 1447000000, .made [31]⟩] := by decide +kernel
  obtain ⟨stream, log, ran, _, sent, sockets, judged⟩ := @film_notifies_server tenFrames (by
      intro env member results made
      rw [tried] at member
      cases List.mem_singleton.mp member
      cases made
      exact .accepted (by decide +kernel) (by decide) (by decide +kernel) .done) (.start ⟨0, 0⟩) rfl
  have sent : notified log = [(motionMessage 1447000000, 31)] := by
    rw [sent, tried]
    decide +kernel
  obtain ⟨next, ran', state⟩ := judged [⟨motionMessage 1447000000, 1447000003, by decide +kernel⟩] (by
      intro env member results made
      rw [tried] at member
      cases List.mem_singleton.mp member
      cases made
      exact ⟨⟨rfl, trivial⟩, List.forall_mem_singleton.mpr (by decide)⟩) (by rw [sent]; rfl)
  refine ⟨stream, log, next, ran, sent, sockets.trans (by decide +kernel), ran', state.trans ?_⟩
  decide +kernel

end FakeCapture

end NetCam.Camera
