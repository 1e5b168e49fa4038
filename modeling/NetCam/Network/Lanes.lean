import NetCam.Network.Alignment
import NetCam.Network.Engagement
import NetCam.Network.Serving

/-! The pictures that come over the connections of one camera.

The frames written to a connection lie on it as in a lane: those whose pictures have been put, and
behind them those that are being read or on their way.
-/

set_option autoImplicit false

namespace NetCam.Network

open Semantics
open PictureReciever (Assembled InStep Kept actsOf acts acts_idle acts_working pictures turn_does)

/-- The frames written to a connection, by whether their pictures have been put, and what is still
to come of the others. -/
structure Lane (log : List FeedEvent) (s : Feed) (k : Nat) (done rest : List Camera.Frame) : Prop where
  written : entriesOf k (Feed.written log) = done ++ rest
  put : entriesOf k (Feed.put log) = done.map framePicture
  idle : s.client.Readable k → (∀ stage, s.receiver.position ≠ .work k stage) → Aligned (s.wires k) [] rest
  working : ∀ stage, s.receiver.position = .work k stage →
    InStep (Feed.clientLog log) (s.wires k) rest stage

section Lanes

variable {c : Client.Cam} {log : List FeedEvent} {s next : Feed} {k : Nat} {done rest : List Camera.Frame}

theorem PictureReciever.Suits.grows {held : List (List UInt8)} {more : List Camera.Frame}
    {stage : PictureReciever.Stage} (suits : PictureReciever.Suits held rest stage) :
    PictureReciever.Suits held (rest ++ more) stage := by
  cases stage with
  | fill => trivial
  | header => exact suits
  | data ts pictureSize currentPosition size =>
    obtain ⟨fr, others, rfl, time, size⟩ := suits
    exact ⟨fr, others ++ more, rfl, time, size⟩

theorem Lane.passes (lane : Lane log s k done rest) {later : List FeedEvent} {more : List Camera.Frame}
    (written : entriesOf k (Feed.written later) = entriesOf k (Feed.written log) ++ more)
    (client : Feed.clientLog later = Feed.clientLog log) (receiver : next.receiver = s.receiver)
    (readable : next.client.Readable k → s.client.Readable k)
    (aligned : ∀ held, Aligned (s.wires k) held rest → Aligned (next.wires k) held (rest ++ more)) :
    Lane later next k done (rest ++ more) := by
  refine ⟨?_, ?_, ?_, ?_⟩
  · rw [written, lane.written, List.append_assoc]
  · unfold Feed.put
    rw [client]
    exact lane.put
  · rw [receiver]
    exact fun open_ away => aligned [] (lane.idle (readable open_) away)
  · rw [receiver, client]
    intro stage at_
    obtain ⟨suits, held⟩ := lane.working stage at_
    exact ⟨suits.grows, aligned _ held⟩

section Receiver

variable {cuts : List Nat} {reset fails : Bool} {client : Group pictureThreads} {events : List SocketEvent}

theorem moment_pending {socket : Nat} {stage : PictureReciever.Stage}
    (at_ : s.receiver.position = .work socket stage) :
    (s.moment cuts reset fails).is.pending = (s.wires socket).pending := by
  unfold Feed.moment
  rw [at_]

theorem closed_of_ended {socket off len : Nat} {stage : PictureReciever.Stage}
    (at_ : s.receiver.position = .work socket stage) (window : stage.window = some (off, len))
    (asked : len ≠ 0) (ended : (s.wires socket).pending = []) (through : s.blocks = false) :
    (s.wires socket).closed = true := by
  unfold Feed.blocks at through
  rw [at_] at through
  simpa [window, asked, ended] using through

theorem afterAct_other {as : List PictureReciever.Act} {wires : Nat → Wire} {socket : Nat} (other : k ≠ socket)
    (own : ∀ act ∈ as, ∀ j bytes, act = .reads j bytes → j = socket) :
    (as.foldl Feed.afterAct wires) k = wires k := by
  induction as generalizing wires with
  | nil => rfl
  | cons act more ih =>
    rw [List.foldl_cons, ih fun later member => own later (List.mem_cons_of_mem act member)]
    cases act with
    | fills | puts => rfl
    | reads j bytes =>
      obtain rfl := own _ List.mem_cons_self j bytes rfl
      exact Function.update_of_ne other ..

theorem actsOf_own {moment : Moment} {fields : PictureReciever.Fields} {stage : PictureReciever.Stage}
    {socket : Nat} {act : PictureReciever.Act} (member : act ∈ actsOf socket moment fields stage) :
    (∀ j bytes, act = .reads j bytes → j = socket) ∧ ∀ j camNbr pic, act = .puts j camNbr pic → j = socket := by
  unfold actsOf at member
  split at member
  · rw [List.mem_singleton.mp member]
    exact ⟨nofun, nofun⟩
  · rcases List.mem_append.mp member with read | put
    · obtain ⟨bytes, _, rfl⟩ := List.mem_map.mp read
      refine ⟨?_, nofun⟩
      rintro j _ ⟨⟩
      rfl
    · obtain ⟨⟨camNbr, pic⟩, _, rfl⟩ := List.mem_map.mp put
      refine ⟨nofun, ?_⟩
      rintro j _ _ ⟨⟩
      rfl

theorem put_client (as : List PictureReciever.Act) :
    Feed.put (log ++ as.map .client) = Feed.put log ++ pictures as := by
  unfold Feed.put pictures
  rw [Feed.clientLog_client, List.filterMap_append]

theorem pictures_other {as : List PictureReciever.Act} {socket : Nat} (other : k ≠ socket)
    (own : ∀ act ∈ as, ∀ j camNbr pic, act = .puts j camNbr pic → j = socket) :
    entriesOf k (pictures as) = [] := by
  rw [List.eq_nil_iff_forall_not_mem]
  intro pic member
  obtain ⟨act, there, found⟩ := List.mem_filterMap.mp (mem_entriesOf.mp member)
  cases act with
  | fills | reads => cases found
  | puts j camNbr pic' =>
    cases found
    exact other (own _ there k camNbr pic rfl)

theorem Lane.rests (lane : Lane log s k done rest) (engaging : s.client.Engaging) {moment : Moment}
    (taken : Group.step s.client (.thread () moment) = some (client, events))
    {as : List PictureReciever.Act}
    (put : entriesOf k (pictures as) = []) (wire : (as.foldl Feed.afterAct s.wires) k = s.wires k)
    (before : ∀ stage, s.receiver.position ≠ .work k stage)
    (after : ∀ stage, (client.threads ()).position = .work k stage → stage = .fill) :
    Lane (log ++ as.map .client) { s with client := client, wires := as.foldl Feed.afterAct s.wires } k done
      rest := by
  have readable : client.Readable k → s.client.Readable k := Group.readable_step engaging taken
  refine ⟨?_, ?_, ?_, ?_⟩
  · rw [Feed.written_client]
    exact lane.written
  · rw [put_client, entriesOf_append, put, List.append_nil]
    exact lane.put
  · dsimp only
    rw [wire]
    exact fun open_ _ => lane.idle (readable open_) before
  · dsimp only
    rw [wire]
    intro stage at_
    have current := (Group.engaging_step engaging taken).own k stage at_
    rw [after stage at_]
    exact ⟨trivial, lane.idle (readable (.inr (.inr ⟨current, .inr (.inr (.inr ⟨stage, at_⟩))⟩))) before⟩

theorem Lane.goesOn (lane : Lane log s k done rest) {stage later : PictureReciever.Stage}
    (at_ : s.receiver.position = .work k stage) {buffer : PictureReciever.Buffer}
    (assembled : Assembled (Feed.clientLog log) k buffer stage)
    (fits : ∀ fr ∈ rest, (Camera.getFrameBytes fr).length ≤ Camera.BUFSIZE - 10)
    (sound : ∀ n size, stage = .header n size → size = HEAD_SIZE ∨
      ∀ piece ∈ PictureReciever.taken (s.moment cuts reset fails) buffer n size, piece.length = size)
    {as : List PictureReciever.Act}
    (does : PictureReciever.Does c (s.moment cuts reset fails) buffer (Feed.clientLog log) k stage as
      (.goesOn later))
    (there : (client.threads ()).position = .work k later) :
    ∃ done' rest', Lane (log ++ as.map .client)
      { s with client := client, wires := as.foldl Feed.afterAct s.wires } k done' rest' := by
  obtain ⟨behind, inStep, put⟩ :=
    (lane.working stage at_).goesOn assembled fits (moment_pending at_) sound does
  have written : entriesOf k (Feed.written (log ++ as.map .client)) = done ++ rest := by
    rw [Feed.written_client]
    exact lane.written
  have working : ∀ late, (client.threads ()).position = .work k late →
      InStep (Feed.clientLog (log ++ as.map .client)) ((as.foldl Feed.afterAct s.wires) k) behind late := by
    intro late position
    cases there.symm.trans position
    rw [Feed.clientLog_client]
    exact inStep
  rcases put with ⟨rfl, none_put⟩ | ⟨fr, rfl, one_put⟩
  · refine ⟨done, behind, written, ?_, fun _ away => absurd there (away later), working⟩
    rw [put_client, none_put, List.append_nil]
    exact lane.put
  · -- the picture of the next frame has come
    refine ⟨done ++ [fr], behind, ?_, ?_, fun _ away => absurd there (away later), working⟩
    · rw [written, List.append_assoc]
      rfl
    · rw [put_client, one_put, entriesOf_append, lane.put, List.map_append]
      simp [entriesOf]

theorem Lane.leaves (lane : Lane log s k done rest)
    (out : ∀ later, (client.threads ()).position ≠ .work k later)
    (aligned : client.Readable k → Aligned (s.wires k) [] rest) :
    Lane log { s with client := client } k done rest where
  written := lane.written
  put := lane.put
  idle open_ _ := aligned open_
  working later there := absurd there (out later)

theorem Lane.reads (lane : Lane log s k done rest) (engaging : s.client.Engaging)
    (kept : Kept c (Feed.clientLog log) s.receiver) {stage : PictureReciever.Stage}
    (at_ : s.receiver.position = .work k stage)
    (fits : ∀ fr ∈ rest, (Camera.getFrameBytes fr).length ≤ Camera.BUFSIZE - 10)
    (sound : s.Sound (.receiver cuts reset fails)) (through : (s.blocks && !fails) = false)
    (taken : Group.step s.client (.thread () (s.moment cuts reset fails)) = some (client, events))
    {as : List PictureReciever.Act}
    (did : as = actsOf k (s.moment cuts reset fails) s.receiver.fields stage) :
    ∃ done' rest', Lane (log ++ as.map .client)
      { s with client := client, wires := as.foldl Feed.afterAct s.wires } k done' rest' := by
  have does := @turn_does c (s.moment cuts reset fails) _ _ k stage kept.own (kept.assembled k stage at_)
  rw [← did] at does
  have gone := Group.not_readable_left engaging at_ taken
  obtain ⟨reports, moved⟩ := Group.step_receiver taken
  generalize client.monitor = monitor at moved
  generalize after : client.threads () = thread at moved gone
  cases Program.step_moves moved with
  | @goesOn socket own later fields _ there turned =>
    cases at_.symm.trans there
    have same : (PictureReciever.turn (s.moment cuts reset fails) s.receiver.fields stage).1 = .goesOn later :=
      congrArg Prod.fst (Option.some.inj turned)
    rw [same] at does
    apply lane.goesOn at_ (kept.assembled k stage at_) fits ?_ does (congrArg Thread.position after)
    intro n size header
    have held : Feed.InTwoPieces _ _ s.receiver.position := sound
    rw [at_, header] at held
    exact held
  | @breaks socket own fields _ there turned =>
    cases at_.symm.trans there
    have same : (PictureReciever.turn (s.moment cuts reset fails) s.receiver.fields stage).1 = .breaks :=
      congrArg Prod.fst (Option.some.inj turned)
    rw [same] at does
    obtain ⟨rfl, stopped⟩ := does.stopped (by simp)
    obtain ⟨works, ended, off, len, window, asked⟩ := stopped rfl
    -- the receiver may come back to this socket, but nothing is left on it
    rw [moment_pending at_] at ended
    have runs : s.blocks = false := by
      rw [show fails = false from works] at through
      simpa using through
    rw [List.map_nil, List.append_nil]
    refine ⟨done, rest, lane.leaves (by simp [after]) fun _ => ?_⟩
    exact aligned_ended (closed_of_ended at_ window asked ended runs) ended
  | @ioException socket own fields _ there turned =>
    cases at_.symm.trans there
    have same : (PictureReciever.turn (s.moment cuts reset fails) s.receiver.fields stage).1 = .ioException :=
      congrArg Prod.fst (Option.some.inj turned)
    rw [same] at does
    obtain ⟨rfl, _⟩ := does.stopped (by simp)
    rw [List.map_nil, List.append_nil]
    exact ⟨done, rest, lane.leaves (by simp [after]) fun open_ => absurd open_ (gone (.inl rfl))⟩
  | @otherException socket own fields _ there turned =>
    cases at_.symm.trans there
    have same : (PictureReciever.turn (s.moment cuts reset fails) s.receiver.fields stage).1 =
        .otherException := congrArg Prod.fst (Option.some.inj turned)
    rw [same] at does
    obtain ⟨rfl, _⟩ := does.stopped (by simp)
    -- the thread has ended
    rw [List.map_nil, List.append_nil]
    refine ⟨done, rest, lane.leaves ?_ fun open_ => absurd open_ (gone (.inr rfl))⟩
    rw [after]
    exact fun later there => by cases there
  | goesIn there | exits there | waits there | noSocket there | noStream there | takes there
    | setsInactive there | shutsDown there => cases at_.symm.trans there

theorem Lane.receiver (lane : Lane log s k done rest) (engaging : s.client.Engaging)
    (kept : Kept c (Feed.clientLog log) s.receiver)
    (fits : ∀ fr ∈ rest, (Camera.getFrameBytes fr).length ≤ Camera.BUFSIZE - 10)
    (sound : s.Sound (.receiver cuts reset fails)) (through : (s.blocks && !fails) = false)
    (taken : Group.step s.client (.thread () (s.moment cuts reset fails)) = some (client, events)) :
    ∃ done' rest', Lane
      (log ++ (acts s.receiver (s.client.monitor, s.moment cuts reset fails)).map .client)
      { s with
        client := client
        wires := (acts s.receiver (s.client.monitor, s.moment cuts reset fails)).foldl Feed.afterAct s.wires }
      k done' rest' := by
  obtain ⟨reports, moved⟩ := Group.step_receiver taken
  by_cases working : ∃ socket stage, s.receiver.position = .work socket stage
  · obtain ⟨socket, stage, at_⟩ := working
    rw [acts_working at_]
    by_cases own : k = socket
    · subst own
      exact lane.reads engaging kept at_ fits sound through taken rfl
    · -- it is at work on another connection
      have away : ∀ later, s.receiver.position ≠ .work k later := by
        intro later there
        cases at_.symm.trans there
        exact own rfl
      refine ⟨done, rest, lane.rests engaging taken ?_ ?_ away ?_⟩
      · exact pictures_other own fun act member => (actsOf_own member).2
      · exact afterAct_other own fun act member => (actsOf_own member).1
      · intro later there
        generalize client.monitor = monitor at moved
        generalize client.threads () = thread at moved there
        cases Program.step_moves moved with
        | goesOn before =>
          cases there
          exact absurd before (away _)
        | takes before => cases at_.symm.trans before
        | _ => cases there
  · have away : ∀ socket stage, s.receiver.position ≠ .work socket stage :=
      fun socket stage at_ => working ⟨socket, stage, at_⟩
    rw [acts_idle _ away]
    refine ⟨done, rest, lane.rests engaging taken rfl rfl (away k) ?_⟩
    intro later there
    generalize client.monitor = monitor at moved
    generalize client.threads () = thread at moved there
    cases Program.step_moves moved with
    | goesOn before => exact absurd before (away _ _)
    | takes =>
      cases there
      rfl
    | _ => cases there

end Receiver

end Lanes

structure Feeding (sane cam : Bool) (c : Client.Cam) (log : List FeedEvent) (s : Feed) : Prop where
  serving : Serving sane cam log s.server s.session
  engaging : s.client.Engaging
  kept : Kept c (Feed.clientLog log) s.receiver
  ordered : KeysOrdered (Feed.put log)
  latest : ∀ entry ∈ Feed.put log,
    ∃ socket, s.client.monitor.getSocket = some socket ∧ entry.1 ≤ socket
  lanes : ∀ k, ∃ done rest, Lane log s k done rest

section Runs

variable {sane cam : Bool} {c : Client.Cam} {log : List FeedEvent} {s next : Feed} {es : List FeedEvent}

theorem Feeding.server (feeding : Feeding sane cam c log s) {action : Camera.Action} {calls : List Int32}
    {server : Camera.Server} {events : List Camera.ServerEvent} {bytes : List UInt8}
    (sound : s.Sound (.server action calls))
    (taken : stepOnto sane s.server action calls = some (server, events, bytes)) :
    Feeding sane cam c (log ++ events.map (.server s.session)) { s with
      server := server
      wires := Function.update s.wires s.session
        (events.foldl Wire.after ((s.wires s.session).takes bytes)) } := by
  obtain ⟨serving, engaging, kept, ordered, latest, lanes⟩ := feeding
  obtain ⟨sized, answered⟩ := sound
  obtain ⟨serving', logged⟩ := serving.step sized taken (Nat.le_refl s.session)
  have client := @Feed.clientLog_server log s.session events
  refine ⟨serving', engaging, ?_, ?_, ?_, fun k => ?_⟩
  · rwa [client]
  · rwa [Feed.put_server]
  · rwa [Feed.put_server]
  obtain ⟨done, rest, lane⟩ := lanes k
  -- the connection that is written to, and the others
  by_cases own : k = s.session
  · subst own
    rcases logged with ⟨picPacket, packetSz, count, fr, writes, wrote, rfl, encodes, grown⟩ | ⟨silent, rfl, same⟩
    · refine ⟨done, rest ++ [fr], lane.passes ?_ client rfl id ?_⟩
      · rw [grown]
        simp [entriesOf]
      · intro held aligned
        dsimp only
        rw [Function.update_self]
        exact aligned.writes encodes (writes ▸ answered) wrote
    · refine ⟨done, rest ++ [], lane.passes (by rw [same, List.append_nil]) client rfl id ?_⟩
      intro held aligned
      dsimp only
      rw [Function.update_self, List.append_nil, Wire.takes_nil]
      exact aligned.quiets silent
  · have wire : Function.update s.wires s.session
        (events.foldl Wire.after ((s.wires s.session).takes bytes)) k = s.wires k := Function.update_of_ne own ..
    refine ⟨done, rest ++ [], lane.passes ?_ client rfl id ?_⟩
    · rcases logged with ⟨_, _, _, fr, _, _, _, _, grown⟩ | ⟨_, _, same⟩
      · rw [grown]
        simp [entriesOf, Ne.symm own]
      · rw [same, List.append_nil]
    · intro held aligned
      dsimp only
      rw [wire, List.append_nil]
      exact aligned

theorem Feeding.accept (feeding : Feeding sane cam c log s) {server : Camera.Server}
    {events : List Camera.ServerEvent}
    (taken : Camera.Server.step sane s.server .accept = some (server, events)) :
    Feeding sane cam c (log ++ events.map (.server (s.session + 1)))
      { s with server := server, session := s.session + 1 } := by
  obtain ⟨serving, engaging, kept, ordered, latest, lanes⟩ := feeding
  have accepted : stepOnto sane s.server .accept [] = some (server, events, []) := by
    simp [stepOnto, writing, taken]
  obtain ⟨serving', logged⟩ := @Serving.step _ _ _ _ _ _ _ (s.session + 1) serving .accept [] [] trivial accepted
    (Nat.le_succ s.session)
  have client := @Feed.clientLog_server log (s.session + 1) events
  have same : Feed.written (log ++ events.map (.server (s.session + 1))) = Feed.written log := by
    rcases logged with ⟨_, _, _, _, writes, _⟩ | ⟨_, _, same⟩
    · cases writes
    · exact same
  refine ⟨serving', engaging, ?_, ?_, ?_, fun k => ?_⟩
  · rwa [client]
  · rwa [Feed.put_server]
  · rwa [Feed.put_server]
  · obtain ⟨done, rest, lane⟩ := lanes k
    refine ⟨done, rest ++ [], lane.passes (by rw [same, List.append_nil]) client rfl id ?_⟩
    intro held aligned
    rwa [List.append_nil]

theorem Feeding.loses (feeding : Feeding sane cam c log s) (socket kept : Nat) :
    Feeding sane cam c log { s with
      wires := Function.update s.wires socket ⟨(s.wires socket).pending.take kept, true⟩ } := by
  refine ⟨feeding.serving, feeding.engaging, feeding.kept, feeding.ordered, feeding.latest, fun k => ?_⟩
  obtain ⟨done, rest, lane⟩ := feeding.lanes k
  refine ⟨done, rest ++ [], lane.passes (by rw [List.append_nil]) rfl rfl id ?_⟩
  intro held aligned
  dsimp only
  rw [List.append_nil]
  by_cases own : k = socket
  · subst own
    rw [Function.update_self]
    exact aligned.loses kept
  · rw [Function.update_of_ne own]
    exact aligned

theorem Feeding.client (feeding : Feeding sane cam c log s) {action : GroupAction Unit}
    (other : ∀ moment, action ≠ .thread () moment) {client : Group pictureThreads}
    {events : List SocketEvent} (taken : Group.step s.client action = some (client, events)) :
    Feeding sane cam c log { s with client := client } := by
  have receiver : client.threads () = s.client.threads () := by
    rcases Group.step_threads () taken with ⟨_, same⟩ | ⟨moment, _, same, _⟩
    · exact same
    · exact absurd same (other moment)
  have same : ({ s with client := client } : Feed).receiver = s.receiver := receiver
  refine ⟨feeding.serving, Group.engaging_step feeding.engaging taken, ?_, feeding.ordered, ?_, fun k => ?_⟩
  · rw [same]
    exact feeding.kept
  · intro entry member
    obtain ⟨socket, current, below⟩ := feeding.latest entry member
    obtain ⟨later, there, grown⟩ := Group.socket_grows feeding.engaging taken current
    exact ⟨later, there, Nat.le_trans below grown⟩
  · obtain ⟨done, rest, lane⟩ := feeding.lanes k
    refine ⟨done, rest ++ [], lane.passes (by rw [List.append_nil]) rfl same
      (Group.readable_step feeding.engaging taken) ?_⟩
    intro held aligned
    rwa [List.append_nil]

/-- The pictures of a turn are those of the connection that the thread works on. -/
theorem pictures_own {moment : Moment} {entry : Nat × Client.Picture}
    (member : entry ∈ pictures (acts s.receiver (s.client.monitor, moment))) :
    ∃ stage, s.receiver.position = .work entry.1 stage := by
  obtain ⟨act, there, found⟩ := List.mem_filterMap.mp member
  by_cases working : ∃ socket stage, s.receiver.position = .work socket stage
  · obtain ⟨socket, stage, at_⟩ := working
    rw [acts_working at_] at there
    cases act with
    | fills | reads => cases found
    | puts j camNbr pic =>
      cases found
      obtain rfl := (actsOf_own there).2 _ _ _ rfl
      exact ⟨stage, at_⟩
  · rw [acts_idle _ fun socket stage at_ => working ⟨socket, stage, at_⟩] at there
    cases there

theorem Feeding.receiver {cuts : List Nat} {reset fails : Bool} {client : Group pictureThreads}
    {events : List SocketEvent} (feeding : Feeding sane cam c log s)
    (sound : s.Sound (.receiver cuts reset fails)) (through : (s.blocks && !fails) = false)
    (taken : Group.step s.client (.thread () (s.moment cuts reset fails)) = some (client, events)) :
    Feeding sane cam c
      (log ++ (acts s.receiver (s.client.monitor, s.moment cuts reset fails)).map .client)
      { s with
        client := client
        wires := (acts s.receiver (s.client.monitor, s.moment cuts reset fails)).foldl Feed.afterAct
          s.wires } := by
  obtain ⟨serving, engaging, kept, ordered, latest, lanes⟩ := feeding
  obtain ⟨reports, moved⟩ := Group.step_receiver taken
  have alone : Program.pictureReciever.alone s.receiver (s.client.monitor, s.moment cuts reset fails) =
      some (client.threads (), reports) := by
    simp only [Program.alone, Feed.receiver, moved]
    rfl
  -- the pictures of this turn come from the newest socket of the monitor
  have own : ∀ entry ∈ pictures (acts s.receiver (s.client.monitor, s.moment cuts reset fails)),
      s.client.monitor.getSocket = some entry.1 := by
    intro entry member
    obtain ⟨stage, at_⟩ := pictures_own member
    exact engaging.own _ stage at_
  refine ⟨serving.client _, Group.engaging_step engaging taken, ?_, ?_, ?_, fun k => ?_⟩
  · rw [Feed.clientLog_client]
    exact PictureReciever.kept_step kept alone
  · rw [put_client]
    cases current : s.client.monitor.getSocket with
    | none =>
      -- nothing is read before there is a socket
      have none_put : pictures (acts s.receiver (s.client.monitor, s.moment cuts reset fails)) = [] := by
        rw [List.eq_nil_iff_forall_not_mem]
        intro entry member
        cases current.symm.trans (own entry member)
      rw [none_put, List.append_nil]
      exact ordered
    | some socket =>
      refine @keysOrdered_append _ _ socket _ _ _ ordered ?_ ?_
      · intro entry member
        obtain ⟨_, there, below⟩ := latest entry member
        cases current.symm.trans there
        exact below
      · intro entry member
        cases current.symm.trans (own entry member)
        rfl
  · rw [put_client]
    intro entry member
    have before : ∃ socket, s.client.monitor.getSocket = some socket ∧ entry.1 ≤ socket := by
      rcases List.mem_append.mp member with earlier | now
      · exact latest entry earlier
      · exact ⟨entry.1, own entry now, Nat.le_refl _⟩
    obtain ⟨socket, current, below⟩ := before
    obtain ⟨later, there, grown⟩ := Group.socket_grows engaging taken current
    exact ⟨later, there, Nat.le_trans below grown⟩
  · obtain ⟨done, rest, lane⟩ := lanes k
    refine lane.receiver engaging kept (fun fr member => ?_) sound through taken
    have written : fr ∈ entriesOf k (Feed.written log) := by
      rw [lane.written]
      exact List.mem_append_right done member
    exact serving.fits (mem_entriesOf.mp written)

theorem feeding_start {picPacket : Memory Camera.BUFSIZE} {packetSz : Int32} {buffer : PictureReciever.Buffer} :
    Feeding sane cam c [] (.start (.init picPacket packetSz cam) ⟨buffer, c⟩) := by
  refine ⟨⟨Camera.handOver_start (.init picPacket packetSz cam) rfl, trivial, .nil, rfl, .nil, List.forall_mem_nil _⟩,
    Group.engaging_start _, ⟨accounted_nil _, rfl, nofun⟩, .nil, List.forall_mem_nil _, fun k => ?_⟩
  exact ⟨[], [], rfl, rfl, fun _ _ => ⟨fun _ => rfl, List.prefix_rfl⟩, nofun⟩

theorem feeding_step {action : FeedAction} (feeding : Feeding sane cam c log s) (sound : s.Sound action)
    (taken : Feed.step sane s action = some (next, es)) : Feeding sane cam c (log ++ es) next := by
  -- the other threads of the client log nothing
  have others (action : GroupAction Unit) (other : ∀ moment, action ≠ .thread () moment)
      (taken : s.clientStep action = some (next, es)) : Feeding sane cam c (log ++ es) next := by
    unfold Feed.clientStep at taken
    split at taken
    · next moved =>
      cases taken
      rw [List.append_nil]
      exact feeding.client other moved
    · cases taken
  cases action with
  | server action calls =>
    cases action with
    | accept =>
      simp only [Feed.step] at taken
      split at taken
      · split at taken
        · next moved =>
          cases taken
          exact feeding.accept moved
        · cases taken
      · cases taken
    | take | send | update =>
      simp only [Feed.step] at taken
      split at taken
      · split at taken
        · next moved =>
          cases taken
          refine feeding.server ?_ moved
          exact sound
        · cases taken
      · cases taken
  | loses socket kept =>
    cases taken
    rw [List.append_nil]
    exact feeding.loses socket kept
  | receiver cuts reset fails =>
    simp only [Feed.step] at taken
    split at taken
    · cases taken
    · next through =>
      split at taken
      · next moved =>
        cases taken
        exact feeding.receiver sound (Bool.not_eq_true _ ▸ through) moved
      · cases taken
  | connector fails => exact others (.connector fails) (fun moment same => by cases same) taken
  | closer => exact others .closer (fun moment same => by cases same) taken
  | shutDown => exact others .shutDown (fun moment same => by cases same) taken

end Runs

/-- However many connections are lost, the pictures put are those of saved frames, in the order in
which they were saved and none of them twice. On each connection they are those of the first frames
written to it, and while it is up the others are being read or on their way. -/
theorem pictures_in_order {sane cam : Bool} {picPacket : Memory Camera.BUFSIZE} {packetSz : Int32}
    {buffer : PictureReciever.Buffer} {c : Client.Cam} {actions : List FeedAction} {s : Feed}
    {log : List FeedEvent}
    (sound : Guarded (Feed.step sane) Feed.Sound (.start (.init picPacket packetSz cam) ⟨buffer, c⟩) actions)
    (ran : run (Feed.step sane) (.start (.init picPacket packetSz cam) ⟨buffer, c⟩) actions = some (s, log)) :
    ((Feed.put log).map Prod.snd).Sublist ((frames (Feed.serverLog log)).map framePicture) ∧
      ∀ k, ∃ done rest, entriesOf k (Feed.written log) = done ++ rest ∧
        entriesOf k (Feed.put log) = done.map framePicture ∧
        ∀ stage, s.receiver.position = .work k stage → (s.wires k).closed = false →
          PictureReciever.heldAt (Feed.clientLog log) stage ++ (s.wires k).pending =
            rest.flatMap frameBytes := by
  have feeding : Feeding sane cam c ([] ++ log) s :=
    @run_invariant_of_guarded _ _ _ (Feed.step sane) Feed.Sound (fun _ log s => Feeding sane cam c log s)
      (fun _ _ _ _ _ _ feeding sound taken => feeding_step feeding sound taken) _ _ [] actions [] log
      feeding_start sound ran
  rw [List.nil_append] at feeding
  constructor
  · have each : ∀ k, entriesOf k (Feed.put log) <+:
        entriesOf k ((Feed.written log).map fun entry => (entry.1, framePicture entry.2)) := by
      intro k
      obtain ⟨done, rest, lane⟩ := feeding.lanes k
      rw [entriesOf_map, lane.written, lane.put, List.map_append]
      exact List.prefix_append _ _
    have right : KeysOrdered ((Feed.written log).map fun entry => (entry.1, framePicture entry.2)) :=
      List.pairwise_map.mpr feeding.serving.ordered
    have whole := (sublist_of_forall_key feeding.ordered right each).map Prod.snd
    rw [List.map_map] at whole
    refine whole.trans ?_
    have part := (feeding.serving.part.map framePicture).sublist
    rw [List.map_map] at part
    exact part
  · intro k
    obtain ⟨done, rest, lane⟩ := feeding.lanes k
    exact ⟨done, rest, lane.written, lane.put, fun stage at_ up => (lane.working stage at_).aligned.whole up⟩

section Reconnects

instance (moment : Moment) (buffer : PictureReciever.Buffer) :
    (position : Position PictureReciever.Stage) → Decidable (Feed.InTwoPieces moment buffer position)
  | .work _ (.header n size) =>
    inferInstanceAs (Decidable (size = HEAD_SIZE ∨
      ∀ piece ∈ PictureReciever.taken moment buffer n size, piece.length = size))
  | .work _ .fill | .work _ (.data _ _ _ _) | .loop | .waitUntilActive | .getSocket | .setInactive _
  | .shutDown | .exited => inferInstanceAs (Decidable True)

instance (s : Feed) : (action : FeedAction) → Decidable (s.Sound action)
  | .server _ _ => inferInstanceAs (Decidable (_ ∧ _))
  | .receiver _ _ _ => inferInstanceAs (Decidable (Feed.InTwoPieces _ _ _))
  | .loses _ _ | .connector _ | .closer | .shutDown => inferInstanceAs (Decidable True)

def saveAndSend (data : List UInt8) : List FeedAction :=
  (Camera.takeTurn (some ⟨data, 5000000⟩) ++ Camera.sendTurn).map (FeedAction.server · [13])

def serverGoes (n : Nat) (action : Camera.Action) : List FeedAction := List.replicate n (.server action [])

def lostInSecond : List FeedAction :=
  List.flatten [List.replicate 4 (.connector false), List.replicate 4 (.receiver [] false false),
    saveAndSend [1, 2, 3], List.replicate 4 (.receiver [] false false), serverGoes 3 (.send 0),
    saveAndSend [4, 5, 6], serverGoes 3 (.send 0), [.loses 0 11],
    List.replicate 4 (.receiver [] false false), List.replicate 2 (.receiver [] true false),
    List.replicate 6 (.connector false), serverGoes 5 (.update .endOfFile), serverGoes 2 (.send 0),
    serverGoes 2 (.take none (.filled _ 0)), serverGoes 1 .accept, saveAndSend [7, 8, 9],
    List.replicate 8 (.receiver [] false false)]

theorem third_picture_after_lost_second : ∃ s log,
    run (Feed.step true) (.start (.init (.filled _ 0) 0 true) ⟨.filled _ 0, .one⟩) lostInSecond = some (s, log) ∧
      Feed.put log = [(0, ⟨[1, 2, 3], 5⟩), (1, ⟨[7, 8, 9], 5⟩)] ∧
      ((Feed.put log).map Prod.snd).Sublist ((frames (Feed.serverLog log)).map framePicture) ∧
      ∀ k, ∃ done rest, entriesOf k (Feed.written log) = done ++ rest ∧
        entriesOf k (Feed.put log) = done.map framePicture ∧
        ∀ stage, s.receiver.position = .work k stage → (s.wires k).closed = false →
          PictureReciever.heldAt (Feed.clientLog log) stage ++ (s.wires k).pending =
            rest.flatMap frameBytes := by
  have finishes : (run (Feed.step true) (.start (.init (.filled _ 0) 0 true) ⟨.filled _ 0, .one⟩)
      lostInSecond).map (fun reached => Feed.put reached.2) =
        some [(0, ⟨[1, 2, 3], 5⟩), (1, ⟨[7, 8, 9], 5⟩)] := by
    decide +kernel
  obtain ⟨⟨s, log⟩, ran, put⟩ := Option.map_eq_some_iff.mp finishes
  exact ⟨s, log, ran, put, pictures_in_order (by decide +kernel) ran⟩

end Reconnects

end NetCam.Network
