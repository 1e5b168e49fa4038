import NetCam.Camera.NextClient

/-! The threads of `server.c` that outlive a client: `main`, `bg_task`, and `serve_clients`.

`serve_clients` joins the tasks of each client before it takes the next one. It tells the
others to quit when it cannot go on, and then goes on. It returns only when there is no memory
for the next client. `main` then joins `update_mode_task`, which is gone or never was.
-/

set_option autoImplicit false

namespace NetCam.Camera

open Semantics

inductive ServeClients where
  | malloc
  | poll
  | pollTest
  | polled
  | tryAccept
  | join
  | serverQuit
  | free
  | closeCamera
  | returned
  deriving DecidableEq, Repr

/-- It tests `running` with the mutex locked, and the wait gives the mutex up. -/
inductive BgTask where
  | lock
  | waiting
  | woken
  | returned
  deriving DecidableEq, Repr

inductive Main where
  | joinBg
  | joinMain
  | joinUpdateMode
  deriving DecidableEq, Repr

def BgTask.wake : BgTask → BgTask
  | waiting => woken
  | position => position

inductive PollResult where
  | failed
  | timeout
  | ready
  deriving DecidableEq, Repr

/-- What comes of `try_accept` up to the joins. `result` is `errno`, which a thread that cannot be
created need not have set. Only the first one may fail here: after a later failure the tasks
created would go on with a client that has been freed. -/
inductive Accepted where
  | cameraFails
  | acceptFails
  | noThread (errno : Bool)
  | created
  deriving DecidableEq, Repr

/-- `cam` is whether the camera is open, `client` whether one is allocated. -/
structure Supervision where
  running : Bool
  quit : Bool
  cam : Bool
  client : Bool
  serve : ServeClients
  bg : BgTask
  main : Main
  tasks : Server

/-- A step of a thread, with what the system makes of its calls. The condition variable of
`bg_task` is that of the tasks, and they broadcast on it. -/
inductive SupervisionAction where
  | serve (allocated : Bool) (ret : PollResult) (accepted : Accepted)
  | task (action : Action)
  | bg
  | main
  | broadcast

inductive SupervisionEvent where
  | allocated
  | outOfMemory
  | freed
  | openedCamera
  | closedCamera
  | accepts
  deriving DecidableEq, Repr

namespace Server

def idle (camMon : CameraMonitor) : Server :=
  { shared := { camMon := camMon, isConnected := false, globalMutex := none }
    take := .returned
    send := .returned
    update := .returned
    buf := 0 }

def withCamera (s : Server) : Server :=
  { s with shared := { s.shared with camMon := { s.shared.camMon with cam := true } } }

def joined (s : Server) : Bool :=
  match s.take, s.send, s.update with
  | .returned, .returned, .returned => true
  | _, _, _ => false

theorem joined_iff (s : Server) : s.joined = true ↔ s.Joined := by
  unfold joined Joined
  split
  · next take send update => exact iff_of_true rfl ⟨take, send, update⟩
  · next other => exact iff_of_false Bool.false_ne_true fun all => other all.1 all.2.1 all.2.2

variable {sane : Bool} {s t : Server} {es : List ServerEvent}

/-- Tasks that have returned leave only the next client to be accepted. -/
theorem Joined.rests {action : Action} (joined : s.Joined) (other : action ≠ .accept) :
    step sane s action = none := by
  obtain ⟨take, send, update⟩ := joined
  cases action with
  | take captured stack => simp [step, take, takePictureTask, outline]
  | send written => simp [step, send, sendPictureTask, outline]
  | update arrived => simp [step, updateModeTask, update]
  | accept => exact absurd rfl other

theorem idle_ordered {camMon : CameraMonitor}
    (turn : camMon.picTakeSend = TAKE_PIC_STATE ∨ camMon.picTakeSend = SEND_PIC_STATE) :
    Ordered (idle camMon) :=
  ⟨iff_of_false Bool.false_ne_true nofun, iff_of_false Bool.false_ne_true nofun, turn, nofun, nofun,
    nofun, nofun, nofun, nofun, nofun⟩

theorem withCamera_ordered (ordered : Ordered s) : Ordered s.withCamera :=
  ⟨ordered.takeLocked, ordered.sendLocked, ordered.turn, ordered.takeTurn, ordered.sendTurn,
    ordered.takeRests, ordered.sendRests, ordered.connected, ordered.reading, ordered.closing⟩

theorem Joined.unlocked (joined : s.Joined) (ordered : Ordered s) : s.shared.globalMutex = none := by
  have take := ordered.takeLocked
  have send := ordered.sendLocked
  rw [joined.1] at take
  rw [joined.2.1] at send
  cases mutex : s.shared.globalMutex with
  | none => rfl
  | some task =>
    cases task with
    | take => cases take.mpr mutex
    | send => cases send.mpr mutex

end Server

namespace Supervision

def start (picPacket : Memory BUFSIZE) (packetSz : Int32) : Supervision :=
  { running := true, quit := false, cam := false, client := false, serve := .malloc, bg := .lock
    main := .joinBg, tasks := .idle (.init picPacket packetSz false) }

def isRunning (s : Supervision) : Bool := s.running

def serverQuit (s : Supervision) : Supervision :=
  { s with quit := true, running := false, bg := s.bg.wake }

def tryAccept (sane : Bool) (s : Supervision) (accepted : Accepted) :
    Option (Supervision × List SupervisionEvent) :=
  match s.cam, accepted with
  | false, .cameraFails => some ({ s with serve := .serverQuit }, [])
  | _, accepted =>
    let es := if s.cam then [.accepts] else [.openedCamera, .accepts]
    let s := { s with cam := true }
    match accepted with
    | .cameraFails | .acceptFails => some ({ s with serve := .serverQuit }, es)
    | .noThread errno => some ({ s with serve := if errno then .serverQuit else .free }, es)
    | .created =>
      (Server.step sane s.tasks.withCamera .accept).map fun (tasks, _) =>
        ({ s with serve := .join, tasks := tasks }, es)

def serveClients (sane : Bool) (s : Supervision) (allocated : Bool) (ret : PollResult)
    (accepted : Accepted) : Option (Supervision × List SupervisionEvent) :=
  match s.serve with
  | .malloc =>
    if allocated then some ({ s with serve := .poll, client := true }, [.allocated])
    else some ({ s with serve := .closeCamera }, [.outOfMemory])
  | .poll =>
    match ret with
    | .failed => some ({ s with serve := .serverQuit }, [])
    | .timeout => some ({ s with serve := .pollTest }, [])
    | .ready => some ({ s with serve := .polled }, [])
  | .pollTest => some ({ s with serve := if s.isRunning then .poll else .polled }, [])
  | .polled => some ({ s with serve := if s.isRunning then .tryAccept else .free }, [])
  | .tryAccept => s.tryAccept sane accepted
  -- a task that does not return keeps it here
  | .join => if s.tasks.joined then some ({ s with serve := .free }, []) else none
  | .serverQuit => some ({ s.serverQuit with serve := .free }, [])
  | .free => some ({ s with serve := .malloc, client := false }, [.freed])
  | .closeCamera =>
    some ({ s with serve := .returned, cam := false }, if s.cam then [.closedCamera] else [])
  | .returned => none

def step (sane : Bool) : Step Supervision SupervisionAction SupervisionEvent
  | s, .serve allocated ret accepted => s.serveClients sane allocated ret accepted
  | s, .task action =>
    match action with
    -- this is for `try_accept` to do
    | .accept => none
    | action => (Server.step sane s.tasks action).map fun (tasks, _) => ({ s with tasks := tasks }, [])
  | s, .bg =>
    match s.bg with
    | .lock | .woken =>
      if s.tasks.shared.globalMutex = none then
        some ({ s with bg := if s.running then .waiting else .returned }, [])
      else none
    | .waiting | .returned => none
  | s, .main =>
    match s.main with
    | .joinBg => if s.bg = .returned then some ({ s with main := .joinMain }, []) else none
    | .joinMain => if s.serve = .returned then some ({ s with main := .joinUpdateMode }, []) else none
    -- a thread that has been joined before, or was never created: nothing is defined from here on
    | .joinUpdateMode => none
  | s, .broadcast => some ({ s with bg := s.bg.wake }, [])

variable {sane : Bool} {s next : Supervision} {es log : List SupervisionEvent}

inductive Moves (sane : Bool) (s : Supervision) : Supervision → List SupervisionEvent → Prop where
  | allocates (at_ : s.serve = .malloc) :
    Moves sane s { s with serve := .poll, client := true } [.allocated]
  | runsOut (at_ : s.serve = .malloc) : Moves sane s { s with serve := .closeCamera } [.outOfMemory]
  | polls (at_ : s.serve = .poll) (later : ServeClients)
      (chosen : later = .serverQuit ∨ later = .pollTest ∨ later = .polled) :
    Moves sane s { s with serve := later } []
  | tests (at_ : s.serve = .pollTest) :
    Moves sane s { s with serve := if s.isRunning then .poll else .polled } []
  | looks (at_ : s.serve = .polled) :
    Moves sane s { s with serve := if s.isRunning then .tryAccept else .free } []
  | noCamera (at_ : s.serve = .tryAccept) : Moves sane s { s with serve := .serverQuit } []
  | fails (at_ : s.serve = .tryAccept) (later : ServeClients)
      (chosen : later = .serverQuit ∨ later = .free) :
    Moves sane s { s with cam := true, serve := later }
      (if s.cam then [.accepts] else [.openedCamera, .accepts])
  | connects (at_ : s.serve = .tryAccept) {tasks : Server} {done : List ServerEvent}
      (started : Server.step sane s.tasks.withCamera .accept = some (tasks, done)) :
    Moves sane s { s with cam := true, serve := .join, tasks := tasks }
      (if s.cam then [.accepts] else [.openedCamera, .accepts])
  | joins (at_ : s.serve = .join) (joined : s.tasks.Joined) : Moves sane s { s with serve := .free } []
  | quits (at_ : s.serve = .serverQuit) : Moves sane s { s.serverQuit with serve := .free } []
  | frees (at_ : s.serve = .free) : Moves sane s { s with serve := .malloc, client := false } [.freed]
  | leaves (at_ : s.serve = .closeCamera) :
    Moves sane s { s with serve := .returned, cam := false } (if s.cam then [.closedCamera] else [])
  | works {action : Action} {tasks : Server} {done : List ServerEvent} (own : action ≠ .accept)
      (stepped : Server.step sane s.tasks action = some (tasks, done)) :
    Moves sane s { s with tasks := tasks } []
  | bgTests (at_ : s.bg = .lock ∨ s.bg = .woken) :
    Moves sane s { s with bg := if s.running then .waiting else .returned } []
  | joinsBg (at_ : s.main = .joinBg) (gone : s.bg = .returned) :
    Moves sane s { s with main := .joinMain } []
  | joinsMain (at_ : s.main = .joinMain) (gone : s.serve = .returned) :
    Moves sane s { s with main := .joinUpdateMode } []
  | broadcasts : Moves sane s { s with bg := s.bg.wake } []

theorem tryAccept_moves {accepted : Accepted} (at_ : s.serve = .tryAccept)
    (taken : s.tryAccept sane accepted = some (next, es)) : s.Moves sane next es := by
  unfold tryAccept at taken
  split at taken
  · cases taken
    exact .noCamera at_
  · dsimp only at taken
    split at taken
    · cases taken
      exact .fails at_ .serverQuit (.inl rfl)
    · cases taken
      exact .fails at_ .serverQuit (.inl rfl)
    · next errno _ =>
      cases taken
      refine .fails at_ _ ?_
      cases errno
      · exact .inr rfl
      · exact .inl rfl
    · obtain ⟨_, started, same⟩ := Option.map_eq_some_iff.mp taken
      cases same
      exact .connects at_ started

theorem serveClients_moves {allocated : Bool} {ret : PollResult} {accepted : Accepted}
    (taken : s.serveClients sane allocated ret accepted = some (next, es)) : s.Moves sane next es := by
  unfold serveClients at taken
  split at taken
  · next at_ =>
    split at taken <;> cases taken
    · exact .allocates at_
    · exact .runsOut at_
  · next at_ =>
    split at taken <;> cases taken
    · exact .polls at_ _ (.inl rfl)
    · exact .polls at_ _ (.inr (.inl rfl))
    · exact .polls at_ _ (.inr (.inr rfl))
  · next at_ => cases taken; exact .tests at_
  · next at_ => cases taken; exact .looks at_
  · next at_ => exact tryAccept_moves at_ taken
  · next at_ =>
    split at taken <;> cases taken
    exact .joins at_ ((Server.joined_iff _).mp (by assumption))
  · next at_ => cases taken; exact .quits at_
  · next at_ => cases taken; exact .frees at_
  · next at_ => cases taken; exact .leaves at_
  · cases taken

theorem step_moves {action : SupervisionAction} (taken : step sane s action = some (next, es)) :
    s.Moves sane next es := by
  cases action with
  | serve allocated ret accepted => exact serveClients_moves taken
  | task action =>
    simp only [step] at taken
    split at taken
    · cases taken
    · next own =>
      obtain ⟨_, stepped, same⟩ := Option.map_eq_some_iff.mp taken
      cases same
      exact .works own stepped
  | bg =>
    simp only [step] at taken
    split at taken
    · next at_ =>
      split at taken <;> cases taken
      exact .bgTests (.inl at_)
    · next at_ =>
      split at taken <;> cases taken
      exact .bgTests (.inr at_)
    · cases taken
    · cases taken
  | main =>
    simp only [step] at taken
    split at taken
    · next at_ =>
      split at taken <;> cases taken
      exact .joinsBg at_ (by assumption)
    · next at_ =>
      split at taken <;> cases taken
      exact .joinsMain at_ (by assumption)
    · cases taken
  | broadcast =>
    cases taken
    exact .broadcasts

structure Sound (s : Supervision) : Prop where
  /-- Nobody sleeps through the end. -/
  noticed : s.running = false → s.bg ≠ .waiting
  gone : s.bg = .returned → s.running = false
  joinedBg : s.main ≠ .joinBg → s.bg = .returned
  joinedMain : s.main = .joinUpdateMode → s.serve = .returned
  accepting : s.serve = .tryAccept ∨ s.serve = .join → s.running = true
  alone : s.serve ≠ .join → s.tasks.Joined
  ordered : Ordered s.tasks

theorem start_sound (picPacket : Memory BUFSIZE) (packetSz : Int32) : (start picPacket packetSz).Sound :=
  ⟨nofun, nofun, fun other => absurd rfl other, nofun, fun at_ => at_.elim nofun nofun,
    fun _ => ⟨rfl, rfl, rfl⟩, Server.idle_ordered (.inl rfl)⟩

theorem Sound.serves (sound : s.Sound) (inside : s.serve ≠ .returned) (alone : s.tasks.Joined)
    {cam client : Bool} {later : ServeClients}
    (accepting : later = .tryAccept ∨ later = .join → s.running = true) :
    Sound { s with serve := later, cam := cam, client := client } :=
  ⟨sound.noticed, sound.gone, sound.joinedBg, fun main => absurd (sound.joinedMain main) inside,
    accepting, fun _ => alone, sound.ordered⟩

theorem wake_ne_waiting (bg : BgTask) : bg.wake ≠ .waiting := by
  cases bg <;> simp [BgTask.wake]

theorem wake_eq_returned_iff (bg : BgTask) : bg.wake = .returned ↔ bg = .returned := by
  cases bg <;> simp [BgTask.wake]

theorem Sound.bgTests (sound : s.Sound) (at_ : s.bg = .lock ∨ s.bg = .woken) :
    Sound { s with bg := if s.running then .waiting else .returned } := by
  have first : s.main = .joinBg := by
    by_contra other
    rw [sound.joinedBg other] at at_
    rcases at_ with impossible | impossible <;> cases impossible
  refine ⟨fun stopped => ?_, fun gone => ?_, fun other => absurd first other, sound.joinedMain,
    sound.accepting, sound.alone, sound.ordered⟩
  · change s.running = false at stopped
    change (if _ then _ else _) ≠ _
    rw [stopped]
    nofun
  · change (if _ then _ else _) = _ at gone
    split at gone
    · cases gone
    · next stopped => exact Bool.not_eq_true _ ▸ stopped

theorem moves_sound (sound : s.Sound) (moved : s.Moves sane next es) : next.Sound := by
  have inside {position : ServeClients} (at_ : s.serve = position) (other : position ≠ .returned) :
      s.serve ≠ .returned := by rwa [at_]
  have alone {position : ServeClients} (at_ : s.serve = position) (other : position ≠ .join) :
      s.tasks.Joined := sound.alone (by rwa [at_])
  cases moved with
  | allocates at_ | runsOut at_ | noCamera at_ | frees at_ | leaves at_ =>
    exact sound.serves (inside at_ nofun) (alone at_ nofun) fun accepts => accepts.elim nofun nofun
  | polls at_ later chosen =>
    refine sound.serves (inside at_ nofun) (alone at_ nofun) fun accepts => ?_
    rcases chosen with rfl | rfl | rfl <;> rcases accepts with impossible | impossible <;> cases impossible
  | tests at_ =>
    refine sound.serves (inside at_ nofun) (alone at_ nofun) fun accepts => ?_
    split at accepts <;> rcases accepts with impossible | impossible <;> cases impossible
  | looks at_ =>
    refine sound.serves (inside at_ nofun) (alone at_ nofun) fun accepts => ?_
    split at accepts
    · assumption
    · rcases accepts with impossible | impossible <;> cases impossible
  | fails at_ later chosen =>
    refine sound.serves (inside at_ nofun) (alone at_ nofun) fun accepts => ?_
    rcases chosen with rfl | rfl <;> rcases accepts with impossible | impossible <;> cases impossible
  | connects at_ started =>
    exact ⟨sound.noticed, sound.gone, sound.joinedBg,
      fun main => absurd (sound.joinedMain main) (inside at_ nofun), fun _ => sound.accepting (.inl at_),
      fun other => absurd rfl other, ordered_step (Server.withCamera_ordered sound.ordered) started⟩
  | joins at_ joined =>
    exact sound.serves (inside at_ nofun) joined fun accepts => accepts.elim nofun nofun
  | quits at_ =>
    refine ⟨fun _ => wake_ne_waiting s.bg, fun _ => rfl, fun other => ?_, fun main => ?_,
      fun accepts => accepts.elim nofun nofun, fun _ => alone at_ nofun, sound.ordered⟩
    · exact (wake_eq_returned_iff s.bg).mpr (sound.joinedBg other)
    · exact absurd (sound.joinedMain main) (inside at_ nofun)
  | works own stepped =>
    refine ⟨sound.noticed, sound.gone, sound.joinedBg, sound.joinedMain, sound.accepting, fun other => ?_,
      ordered_step sound.ordered stepped⟩
    rw [(sound.alone other).rests own] at stepped
    cases stepped
  | bgTests at_ => exact sound.bgTests at_
  | joinsBg at_ gone =>
    exact ⟨sound.noticed, sound.gone, fun _ => gone, nofun, sound.accepting, sound.alone, sound.ordered⟩
  | joinsMain at_ gone =>
    exact ⟨sound.noticed, sound.gone, fun _ => sound.joinedBg (by rw [at_]; nofun), fun _ => gone,
      sound.accepting, sound.alone, sound.ordered⟩
  | broadcasts =>
    exact ⟨fun _ => wake_ne_waiting s.bg, fun gone => sound.gone ((wake_eq_returned_iff s.bg).mp gone),
      fun other => (wake_eq_returned_iff s.bg).mpr (sound.joinedBg other), sound.joinedMain,
      sound.accepting, sound.alone, sound.ordered⟩

def ServeClients.holds : ServeClients → Bool
  | .malloc | .closeCamera | .returned => false
  | _ => true

structure Accounts (log : List SupervisionEvent) (s : Supervision) : Prop where
  refused : s.serve = .closeCamera ∨ s.serve = .returned → .outOfMemory ∈ log
  held : s.client = ServeClients.holds s.serve
  clients : log.count .allocated = log.count .freed + s.client.toNat
  camera : log.count .openedCamera = log.count .closedCamera + s.cam.toNat

theorem start_accounts (picPacket : Memory BUFSIZE) (packetSz : Int32) :
    (start picPacket packetSz).Accounts [] :=
  ⟨fun at_ => at_.elim nofun nofun, rfl, rfl, rfl⟩

section Accounts

variable {running quit : Bool} {bg : BgTask} {main : Main} {tasks : Server} {later : ServeClients}

theorem Accounts.step (accounts : s.Accounts log)
    (refused : next.serve = .closeCamera ∨ next.serve = .returned → .outOfMemory ∈ log ++ es)
    (held : next.client = ServeClients.holds next.serve)
    (clients : es.count .allocated + s.client.toNat = es.count .freed + next.client.toNat)
    (camera : es.count .openedCamera + s.cam.toNat = es.count .closedCamera + next.cam.toNat) :
    next.Accounts (log ++ es) := by
  have before := accounts.clients
  have opened := accounts.camera
  refine ⟨refused, held, ?_, ?_⟩
  · rw [List.count_append, List.count_append]
    omega
  · rw [List.count_append, List.count_append]
    omega

theorem Accounts.silent (accounts : s.Accounts log)
    (refused : later = .closeCamera ∨ later = .returned → .outOfMemory ∈ log)
    (held : ServeClients.holds later = ServeClients.holds s.serve) :
    Accounts (log ++ []) ⟨running, quit, s.cam, s.client, later, bg, main, tasks⟩ :=
  accounts.step (fun at_ => List.mem_append_left _ (refused at_)) (accounts.held.trans held.symm) rfl rfl

theorem Accounts.accepts (accounts : s.Accounts log) (at_ : s.serve = .tryAccept)
    (busy : ServeClients.holds later = true) :
    Accounts (log ++ (if s.cam then [.accepts] else [.openedCamera, .accepts]))
      ⟨running, quit, true, s.client, later, bg, main, tasks⟩ := by
  have held := accounts.held
  rw [at_] at held
  refine accounts.step (fun done => ?_) (held.trans busy.symm) ?_ ?_
  · rcases done with rfl | rfl <;> cases busy
  · cases s.cam <;> rfl
  · cases opened : s.cam <;> rfl

theorem moves_accounts (accounts : s.Accounts log) (moved : s.Moves sane next es) :
    next.Accounts (log ++ es) := by
  have held := accounts.held
  cases moved with
  | polls at_ later chosen =>
    rcases chosen with rfl | rfl | rfl <;>
      exact accounts.silent (fun at_ => at_.elim nofun nofun) (by rw [at_]; rfl)
  | tests at_ | looks at_ =>
    refine accounts.silent ?_ ?_
    · split <;> exact fun at_ => at_.elim nofun nofun
    · split <;> rw [at_] <;> rfl
  | noCamera at_ | joins at_ | quits at_ =>
    exact accounts.silent (fun at_ => at_.elim nofun nofun) (by rw [at_]; rfl)
  | works | bgTests | broadcasts | joinsBg | joinsMain => exact accounts.silent accounts.refused rfl
  | fails at_ later chosen =>
    rcases chosen with rfl | rfl <;> exact accounts.accepts at_ rfl
  | connects at_ => exact accounts.accepts at_ rfl
  | allocates at_ =>
    rw [at_] at held
    exact accounts.step (fun at_ => at_.elim nofun nofun) rfl (by rw [held]; rfl) rfl
  | runsOut at_ =>
    rw [at_] at held
    exact accounts.step (fun _ => List.mem_append_right _ (List.mem_singleton_self _)) held rfl rfl
  | frees at_ =>
    rw [at_] at held
    exact accounts.step (fun at_ => at_.elim nofun nofun) rfl (by rw [held]; rfl) rfl
  | leaves at_ =>
    rw [at_] at held
    refine accounts.step (fun _ => List.mem_append_left _ (accounts.refused (.inl at_))) held ?_ ?_
    · cases s.cam <;> rfl
    · cases opened : s.cam <;> rfl

end Accounts

theorem run_sound {picPacket : Memory BUFSIZE} {packetSz : Int32} {actions : List SupervisionAction}
    (ran : run (step sane) (start picPacket packetSz) actions = some (s, log)) :
    s.Sound ∧ s.Accounts log :=
  run_invariant (step sane) (fun _ log s => s.Sound ∧ s.Accounts log)
    (fun _ _ _ _ _ _ held taken =>
      ⟨moves_sound held.1 (step_moves taken), moves_accounts held.2 (step_moves taken)⟩)
    ⟨start_sound picPacket packetSz, start_accounts picPacket packetSz⟩ ran

section NeverEnds

-- `serve_clients` has given up, and nobody has told the others.
def Abandoned (s : Supervision) : Prop :=
  s.running = true ∧ (s.serve = .closeCamera ∨ s.serve = .returned)

instance (s : Supervision) : Decidable s.Abandoned := inferInstanceAs (Decidable (_ ∧ _))

theorem moves_abandoned (abandoned : s.Abandoned) (moved : s.Moves sane next es) :
    next.Abandoned := by
  obtain ⟨running, done⟩ := abandoned
  have elsewhere {position : ServeClients} (at_ : s.serve = position)
      (inside : position ≠ .closeCamera) (busy : position ≠ .returned) : next.Abandoned := by
    rw [at_] at done
    exact absurd done (by rintro (same | same) <;> contradiction)
  cases moved with
  | allocates at_ | runsOut at_ | polls at_ | tests at_ | looks at_ | noCamera at_ | fails at_
  | connects at_ | joins at_ | quits at_ | frees at_ => exact elsewhere at_ nofun nofun
  | leaves => exact ⟨running, .inr rfl⟩
  | works | bgTests | joinsBg | joinsMain | broadcasts => exact ⟨running, done⟩

theorem Abandoned.not_ended (abandoned : s.Abandoned) (sound : s.Sound) : s.main ≠ .joinUpdateMode := by
  intro ended
  have stopped := sound.gone (sound.joinedBg (by rw [ended]; nofun))
  rw [abandoned.1] at stopped
  cases stopped

/-- `serve_clients` joins tasks that are not all going to return. -/
def Forlorn (sane : Bool) (s : Supervision) : Prop :=
  s.serve = .join ∧ ¬ CanReach (Server.step sane) Server.Joined s.tasks

theorem moves_forlorn (forlorn : s.Forlorn sane) (moved : s.Moves sane next es) : next.Forlorn sane := by
  obtain ⟨there, never⟩ := forlorn
  have elsewhere {position : ServeClients} (at_ : s.serve = position) (other : position ≠ .join) :
      next.Forlorn sane := absurd (at_.symm.trans there) other
  cases moved with
  | allocates at_ | runsOut at_ | polls at_ | tests at_ | looks at_ | noCamera at_ | fails at_
  | connects at_ | quits at_ | frees at_ | leaves at_ => exact elsewhere at_ nofun
  | joins at_ joined => exact absurd ⟨[], s.tasks, [], rfl, joined⟩ never
  | works own stepped =>
    exact ⟨there, fun reach => never (canReach_of_run _ ((run_singleton_iff _).mpr stepped) reach)⟩
  | bgTests | joinsBg | joinsMain | broadcasts => exact ⟨there, never⟩

theorem Forlorn.not_ended (forlorn : s.Forlorn sane) (sound : s.Sound) : s.main ≠ .joinUpdateMode :=
  fun ended => nomatch forlorn.1.symm.trans (sound.joinedMain ended)

end NeverEnds

section Ends

def ServeClients.rank (running : Bool) : ServeClients → Nat
  | .returned => 0
  | .closeCamera => 1
  | .malloc => if running then 9 else 2
  | .free => if running then 10 else 3
  | .join => if running then 11 else 4
  | .serverQuit => 4
  | .poll | .tryAccept => 5
  | .polled => 6
  | .pollTest => 7

def BgTask.rank : BgTask → Nat
  | .returned => 0
  | .woken => 1
  | .waiting | .lock => 2

def Main.rank : Main → Nat
  | .joinUpdateMode => 0
  | .joinMain => 1
  | .joinBg => 2

def rank (s : Supervision) : Nat :=
  ServeClients.rank s.running s.serve + BgTask.rank s.bg + Main.rank s.main

theorem wake_rank (bg : BgTask) : BgTask.rank bg.wake ≤ BgTask.rank bg := by
  cases bg <;> decide

theorem rank_lt_of_serve (lower : ServeClients.rank next.running next.serve <
    ServeClients.rank s.running s.serve) (bg : BgTask.rank next.bg ≤ BgTask.rank s.bg)
    (main : next.main = s.main) : next.rank < s.rank := by
  unfold rank
  rw [main]
  omega

def Free (s : Supervision) : Prop := ¬ s.Abandoned ∧ s.serve ≠ .join

theorem free_of_serve {later : ServeClients} {running quit cam client : Bool} {bg : BgTask} {main : Main}
    {tasks : Server} (told : running = true → later ≠ .closeCamera ∧ later ≠ .returned)
    (outside : later ≠ .join) : Free ⟨running, quit, cam, client, later, bg, main, tasks⟩ :=
  ⟨fun done => done.2.elim (told done.1).1 (told done.1).2, outside⟩

-- Inside the loop, and not at `pthread_join`.
theorem free_of_inside {later : ServeClients} {running quit cam client : Bool} {bg : BgTask} {main : Main}
    {tasks : Server} (inside : later ∉ [.join, .closeCamera, .returned]) :
    Free ⟨running, quit, cam, client, later, bg, main, tasks⟩ := by
  simp only [List.mem_cons, List.not_mem_nil, or_false, not_or] at inside
  exact free_of_serve (fun _ => inside.2) inside.1

-- `serve_clients` can always fail.
theorem serve_nearer (inside : s.serve ≠ .returned) (free : s.Free) :
    ∃ action next es, step sane s action = some (next, es) ∧ next.Free ∧ next.rank < s.rank := by
  -- memory is found as long as the server runs, everything else fails
  refine ⟨.serve s.running .failed .acceptFails, ?_⟩
  cases at_ : s.serve with
  | returned => exact absurd at_ inside
  | join => exact absurd at_ free.2
  | serverQuit =>
    refine ⟨{ s.serverQuit with serve := .free }, [], by simp only [step, serveClients, at_],
      free_of_inside (by decide), rank_lt_of_serve ?_ (wake_rank s.bg) rfl⟩
    rw [at_]
    exact Nat.lt_succ_self 3
  | closeCamera =>
    refine ⟨{ s with serve := .returned, cam := false }, _, by simp only [step, serveClients, at_]; rfl,
      free_of_serve (fun up => absurd ⟨up, .inl at_⟩ free.1) (by decide),
      rank_lt_of_serve ?_ (Nat.le_refl _) rfl⟩
    rw [at_]
    exact Nat.zero_lt_one
  | malloc =>
    cases running : s.running with
    | true =>
      refine ⟨{ s with serve := .poll, client := true }, [.allocated], by simp [step, serveClients, at_],
        free_of_inside (by decide), rank_lt_of_serve ?_ (Nat.le_refl _) rfl⟩
      rw [at_, running]
      exact (by decide : 5 < 9)
    | false =>
      refine ⟨{ s with serve := .closeCamera }, [.outOfMemory], by simp [step, serveClients, at_],
        free_of_serve (fun up => ?_) (by decide), rank_lt_of_serve ?_ (Nat.le_refl _) rfl⟩
      · rw [running] at up
        cases up
      · rw [at_, running]
        exact Nat.one_lt_two
  | poll =>
    refine ⟨{ s with serve := .serverQuit }, [], by simp only [step, serveClients, at_],
      free_of_inside (by decide), rank_lt_of_serve ?_ (Nat.le_refl _) rfl⟩
    rw [at_]
    exact Nat.lt_succ_self 4
  | free =>
    refine ⟨{ s with serve := .malloc, client := false }, [.freed], by simp only [step, serveClients, at_],
      free_of_inside (by decide), rank_lt_of_serve ?_ (Nat.le_refl _) rfl⟩
    rw [at_]
    change ServeClients.rank s.running .malloc < _
    cases s.running <;> decide
  | tryAccept =>
    refine ⟨{ s with cam := true, serve := .serverQuit },
      if s.cam then [.accepts] else [.openedCamera, .accepts],
      by simp [step, serveClients, at_, tryAccept],
      free_of_inside (by decide), rank_lt_of_serve ?_ (Nat.le_refl _) rfl⟩
    rw [at_]
    exact Nat.lt_succ_self 4
  | polled =>
    refine ⟨{ s with serve := if s.isRunning then .tryAccept else .free }, [],
      by simp only [step, serveClients, at_], ?_, rank_lt_of_serve ?_ (Nat.le_refl _) rfl⟩
    · cases s.isRunning <;> exact free_of_inside (by decide)
    · rw [at_]
      change ServeClients.rank s.running (if s.running then _ else _) < _
      cases s.running <;> decide
  | pollTest =>
    refine ⟨{ s with serve := if s.isRunning then .poll else .polled }, [],
      by simp only [step, serveClients, at_], ?_, rank_lt_of_serve ?_ (Nat.le_refl _) rfl⟩
    · cases s.isRunning <;> exact free_of_inside (by decide)
    · rw [at_]
      change ServeClients.rank s.running (if s.running then _ else _) < _
      cases s.running <;> decide

theorem others_nearer (sound : s.Sound) (out : s.serve = .returned) (stopped : s.running = false)
    (up : s.main ≠ .joinUpdateMode) :
    ∃ action next es, step sane s action = some (next, es) ∧ next.Free ∧ next.rank < s.rank := by
  have free {bg : BgTask} {main : Main} : Free { s with bg := bg, main := main } := by
    refine free_of_serve (fun running => ?_) (by rw [out]; nofun)
    rw [stopped] at running
    cases running
  have unlocked : s.tasks.shared.globalMutex = none :=
    (sound.alone (by rw [out]; nofun)).unlocked sound.ordered
  cases at_ : s.bg with
  | waiting => exact absurd at_ (sound.noticed stopped)
  | lock | woken =>
    refine ⟨.bg, { s with bg := .returned }, [], by simp [step, at_, stopped, unlocked], free, ?_⟩
    simp only [rank, at_, BgTask.rank]
    omega
  | returned =>
    refine ⟨.main, ?_⟩
    cases main : s.main with
    | joinUpdateMode => exact absurd main up
    | joinBg | joinMain =>
      refine ⟨_, _, by simp only [step, main, at_, out, if_true]; rfl, free, ?_⟩
      simp only [rank, main, at_, Main.rank]
      omega

theorem free_reaches_end (sound : s.Sound) (free : s.Free) :
    CanReach (step sane) (fun t => t.main = .joinUpdateMode) s := by
  refine @canReach_of_rank _ _ _ (step sane) (fun t => t.Sound ∧ t.Free) _ rank ?_ s ⟨sound, free⟩
  rintro t ⟨sound, free⟩ up
  have nearer : ∃ action next es, step sane t action = some (next, es) ∧ next.Free ∧
      next.rank < t.rank := by
    by_cases inside : t.serve = .returned
    · refine others_nearer sound inside ?_ up
      by_contra running
      exact free.1 ⟨Bool.not_eq_false _ ▸ running, .inr inside⟩
    · exact serve_nearer inside free
  obtain ⟨action, next, es, taken, free, lower⟩ := nearer
  exact ⟨action, next, es, taken, ⟨moves_sound sound (step_moves taken), free⟩, lower⟩

/-- The tasks run on their own until all of them have returned. -/
theorem tasks_join {sane : Bool} {tasks : Server} (reach : CanReach (Server.step sane) Server.Joined tasks)
    (s : Supervision) : ∃ actions later log,
      run (step sane) { s with tasks := tasks } actions = some ({ s with tasks := later }, log) ∧
        later.Joined := by
  obtain ⟨actions, last, log, ran, joined⟩ := reach
  induction actions generalizing tasks log with
  | nil =>
    cases ran
    exact ⟨[], last, [], rfl, joined⟩
  | cons action rest ih =>
    obtain ⟨next, _, _, taken, tail, _⟩ := (run_cons_iff _).mp ran
    by_cases own : action = .accept
    · subst own
      cases Server.step_moves taken with
      | accept take send update => exact ⟨[], _, [], rfl, take, send, update⟩
    · obtain ⟨actions, later, log, ran, joined⟩ := ih _ tail
      refine ⟨.task action :: actions, later, _, (run_cons_iff _).mpr ⟨_, [], log, ?_, ran, rfl⟩, joined⟩
      cases action with
      | accept => exact absurd rfl own
      | take | send | update => simp [step, taken]

/-- The tasks return, and `serve_clients` goes on. -/
theorem joined_reaches_end (sound : s.Sound) (at_ : s.serve = .join)
    (reach : CanReach (Server.step sane) Server.Joined s.tasks) :
    CanReach (step sane) (fun t => t.main = .joinUpdateMode) s := by
  obtain ⟨actions, tasks, log, ran, joined⟩ := tasks_join reach s
  have after : Sound { s with tasks := tasks } :=
    run_invariant (step sane) (fun _ _ s => s.Sound)
      (fun _ _ _ _ _ _ held taken => moves_sound held (step_moves taken)) sound ran
  have goesOn : step sane { s with tasks := tasks } (.serve true .failed .acceptFails) =
      some ({ s with tasks := tasks, serve := .free }, []) := by
    simp only [step, serveClients, at_, (Server.joined_iff tasks).mpr joined, if_true]
  refine canReach_of_run _ ran (canReach_of_run _ ((run_singleton_iff _).mpr goesOn) ?_)
  exact free_reaches_end (moves_sound after (step_moves goesOn))
    (free_of_inside (by decide))

end Ends

theorem moves_stopped (stopped : s.running = false) (moved : s.Moves sane next es) :
    next.running = false := by
  cases moved with
  | quits => rfl
  | _ => exact stopped

theorem moves_refuses (sound : s.Sound) (stopped : s.running = false) (moved : s.Moves sane next es) :
    .accepts ∉ es := by
  have closed (at_ : s.serve = .tryAccept) : False := by
    have running := sound.accepting (.inl at_)
    rw [stopped] at running
    cases running
  cases moved with
  | fails at_ | connects at_ => exact (closed at_).elim
  | leaves => cases s.cam <;> simp
  | _ => simp

/-- `main` can still come to its last join exactly as long as `serve_clients` has not run out of
memory before anybody was told to quit, and does not join tasks that are never going to return. It
comes there in no other way than by running out of memory, and then the task it joins is gone or
never was. Once told to quit the server accepts nobody, and `bg_task` notices. -/
theorem ends_only_out_of_memory {picPacket : Memory BUFSIZE} {packetSz : Int32}
    {actions : List SupervisionAction}
    (ran : run (step sane) (start picPacket packetSz) actions = some (s, log)) :
    (CanReach (step sane) (fun t => t.main = .joinUpdateMode) s ↔
        ¬ (s.running = true ∧ (s.serve = .closeCamera ∨ s.serve = .returned)) ∧
          (s.serve = .join → s.tasks.Recoverable)) ∧
      (s.main = .joinUpdateMode → .outOfMemory ∈ log ∧ s.running = false ∧ s.tasks.update = .returned) ∧
      (s.running = false → s.bg ≠ .waiting ∧
        ∀ later t more, run (step sane) s later = some (t, more) → .accepts ∉ more) ∧
      log.count .allocated ≤ log.count .freed + 1 ∧
      log.count .openedCamera ≤ log.count .closedCamera + 1 := by
  obtain ⟨sound, accounts⟩ := run_sound ran
  refine ⟨⟨fun reach => ⟨fun abandoned => ?_, fun there => ?_⟩, ?_⟩, fun ended => ?_,
    fun stopped => ⟨sound.noticed stopped, ?_⟩, ?_, ?_⟩
  · -- both obstacles are for good
    exact @not_canReach_of_kept _ _ _ (step sane) (fun t => t.Abandoned ∧ t.Sound) _
      (fun _ _ _ _ held taken =>
        ⟨moves_abandoned held.1 (step_moves taken), moves_sound held.2 (step_moves taken)⟩)
      (fun t held => held.1.not_ended held.2) s ⟨abandoned, sound⟩ reach
  · rw [← @joins_iff_recoverable sane _ sound.ordered]
    by_contra never
    exact @not_canReach_of_kept _ _ _ (step sane) (fun t => t.Forlorn sane ∧ t.Sound) _
      (fun _ _ _ _ held taken =>
        ⟨moves_forlorn held.1 (step_moves taken), moves_sound held.2 (step_moves taken)⟩)
      (fun t held => held.1.not_ended held.2) s ⟨⟨there, never⟩, sound⟩ reach
  · rintro ⟨told, recoverable⟩
    by_cases there : s.serve = .join
    · exact joined_reaches_end sound there ((joins_iff_recoverable sound.ordered).mpr (recoverable there))
    · exact free_reaches_end sound ⟨told, there⟩
  · have out := sound.joinedMain ended
    exact ⟨accounts.refused (.inr out), sound.gone (sound.joinedBg (by rw [ended]; nofun)),
      (sound.alone (by rw [out]; nofun)).2.2⟩
  · intro later t more rest
    have refuses := run_invariant (step sane) (fun _ log t => t.Sound ∧ t.running = false ∧ .accepts ∉ log)
      (fun _ log t _ next es held taken => by
        obtain ⟨sound, stopped, none_accepted⟩ := held
        have moved := step_moves taken
        refine ⟨moves_sound sound moved, moves_stopped stopped moved, fun there => ?_⟩
        exact (List.mem_append.mp there).elim none_accepted (moves_refuses sound stopped moved))
      ⟨sound, stopped, List.not_mem_nil⟩ rest
    exact refuses.2.2
  · have clients := accounts.clients
    have one := Bool.toNat_le s.client
    omega
  · have camera := accounts.camera
    have one := Bool.toNat_le s.cam
    omega

def failedClient : List SupervisionAction :=
  List.replicate 4 (.serve true .ready .created) ++ List.replicate 2 (.task (.update .error))

/-- No memory for the first client: nobody is left who could tell the others. And after a failed
read the server waits for tasks that go on for good. -/
theorem abandoned_without_memory :
    (∃ s log, run (step true) (start (.filled BUFSIZE 0) 0)
          (List.replicate 2 (.serve false .failed .acceptFails)) = some (s, log) ∧
        ¬ CanReach (step true) (fun t => t.main = .joinUpdateMode) s) ∧
      ∃ s log, run (step true) (start (.filled BUFSIZE 0) 0) failedClient = some (s, log) ∧
        s.running = true ∧ ¬ CanReach (step true) (fun t => t.main = .joinUpdateMode) s := by
  constructor
  · obtain ⟨exactly, _⟩ := @ends_only_out_of_memory true _ _ (.filled BUFSIZE 0) 0
      (List.replicate 2 (.serve false .failed .acceptFails)) rfl
    exact ⟨_, _, rfl, fun reach => (exactly.mp reach).1 ⟨rfl, .inr rfl⟩⟩
  · obtain ⟨exactly, _⟩ := @ends_only_out_of_memory true _ _ (.filled BUFSIZE 0) 0 failedClient rfl
    exact ⟨_, _, rfl, rfl, fun reach => (exactly.mp reach).2 rfl rfl⟩

end Supervision

end NetCam.Camera
