import NetCam.Camera.Server

/-! The mode of the camera against the bytes it was sent.

The mode outlives a connection, and the buffer of `update_mode_task` does not. At the end
of file the task still calls `set_mode` with the buffer, which is zero when nothing was
received on the connection.
-/

set_option autoImplicit false

namespace NetCam.Camera

open Semantics

def received (s : Server) : Action → List UInt8
  | .update (.byte b) => if s.update = .read then [b] else []
  | _ => []

/-- The mode of the last byte, or the one set by `init`. -/
def lastReceived (bytes : List UInt8) : Int32 :=
  match bytes.getLast? with
  | some b => b.toInt8.toInt32
  | none => IDLE_MODE

-- The mode is the one last received, unless the call of `set_mode` is still to come.
def Current (bytes : List UInt8) (s : Server) : Prop :=
  s.update ≠ .setMode → s.shared.camMon.mode = lastReceived bytes

/-- At the end of file the buffer stands for the mode in force: a byte was received on
this connection, or the mode is that of a zero byte. -/
def EndsUnchanged (s : Server) : Action → Prop
  | .update _ =>
    s.update = .setMode → s.shared.isConnected = false →
      s.buf.toInt8.toInt32 = s.shared.camMon.mode
  | _ => True

structure Remembers (bytes : List UInt8) (s : Server) : Prop where
  reading : s.update = .read → s.shared.isConnected = true
  received : s.update = .setMode → s.shared.isConnected = true →
    lastReceived bytes = s.buf.toInt8.toInt32
  ended : s.update = .setMode → s.shared.isConnected = false →
    lastReceived bytes = s.shared.camMon.mode

theorem lastReceived_concat (bytes : List UInt8) (b : UInt8) :
    lastReceived (bytes ++ [b]) = b.toInt8.toInt32 := by
  unfold lastReceived
  rw [List.getLast?_concat]

section Tasks

variable {sane : Bool} {shared next : Shared} {es : List ServerEvent}

theorem outline_mode {Stage : Type} {task : Task} {first : Stage} {p q : Position Stage}
    (taken : outline task first shared p = some (next, q, es)) :
    next.camMon.mode = shared.camMon.mode ∧ next.isConnected = shared.isConnected := by
  cases p with
  | lock | relock =>
    simp only [outline] at taken
    split at taken <;> cases taken
    exact ⟨rfl, rfl⟩
  | flip =>
    cases taken
    refine ⟨?_, rfl⟩
    simp only [CameraMonitor.flipPicTakeSend]
    split <;> rfl
  | work _ | returned => cases taken
  | test | check | condWait | waiting | unlock | broadcast | close => cases taken; exact ⟨rfl, rfl⟩

theorem takePictureTask_mode {captured : Option MediaFrame} {stack : Memory BUFSIZE}
    {p q : Position TakeStage}
    (taken : takePictureTask sane captured stack shared p = some (next, q, es)) :
    next.camMon.mode = shared.camMon.mode ∧ next.isConnected = shared.isConnected := by
  unfold takePictureTask at taken
  split at taken
  · cases takeWork_does taken with
    | getsMode | noCamera | failed | packed | savesPacketSize | savesPacket => exact ⟨rfl, rfl⟩
  · exact outline_mode taken

theorem sendPictureTask_mode {written : Int32} {p q : Position SendStage}
    (taken : sendPictureTask sane written shared p = some (next, q, es)) :
    next.camMon.mode = shared.camMon.mode ∧ next.isConnected = shared.isConnected := by
  unfold sendPictureTask at taken
  split at taken
  · cases sendWork_does taken with
    | failed | getsPacket | getsPacketSize | writes => exact ⟨rfl, rfl⟩
  · exact outline_mode taken

end Tasks

section Steps

variable {sane : Bool} {s next : Server} {es : List ServerEvent} {bytes : List UInt8}

structure SameMode (s next : Server) : Prop where
  mode : next.shared.camMon.mode = s.shared.camMon.mode
  connected : next.shared.isConnected = s.shared.isConnected
  update : next.update = s.update
  buf : next.buf = s.buf

theorem SameMode.current (same : SameMode s next) : Current bytes next ↔ Current bytes s := by
  unfold Current
  rw [same.mode, same.update]

theorem SameMode.remembers (same : SameMode s next) (remembers : Remembers bytes s) :
    Remembers bytes next := by
  obtain ⟨mode, connected, update, buf⟩ := same
  refine ⟨?_, ?_, ?_⟩
  · rw [update, connected]
    exact remembers.reading
  · rw [update, connected, buf]
    exact remembers.received
  · rw [update, connected, mode]
    exact remembers.ended

theorem step_sameMode {action : Action} (taken : Server.step sane s action = some (next, es))
    (update : ∀ arrived, action ≠ .update arrived) (client : action ≠ .accept) : SameMode s next := by
  cases Server.step_moves taken with
  | take task =>
    obtain ⟨mode, connected⟩ := takePictureTask_mode task
    exact ⟨mode, connected, rfl, rfl⟩
  | send task =>
    obtain ⟨mode, connected⟩ := sendPictureTask_mode task
    exact ⟨mode, connected, rfl, rfl⟩
  | update => exact absurd rfl (update _)
  | accept => exact absurd rfl client

theorem received_of_ne {action : Action} (update : ∀ arrived, action ≠ .update arrived) :
    received s action = [] := by
  cases action with
  | update arrived => exact absurd rfl (update arrived)
  | take _ _ | send _ | accept => rfl

theorem read_current {arrived : ModeRead} (remembers : Remembers bytes s) (current : Current bytes s)
    (at_ : s.update = .read) (taken : updateModeTask arrived s = some (next, es)) :
    (Current (bytes ++ received s (.update arrived)) next ↔ EndsUnchanged s (.update arrived)) ∧
      Remembers (bytes ++ received s (.update arrived)) next := by
  have mode := current (by rw [at_]; decide)
  have connected := remembers.reading at_
  have admitted : EndsUnchanged s (.update arrived) := by
    intro setting
    rw [at_] at setting
    cases setting
  simp only [updateModeTask, at_] at taken
  cases arrived with
  | byte b =>
    cases taken
    have one : received s (.update (.byte b)) = [b] := if_pos at_
    refine ⟨iff_of_true (fun away => absurd rfl away) admitted, ?_⟩
    rw [one]
    -- the byte is now the last one received, and `set_mode` is still to come
    refine ⟨fun reading => (by cases reading), fun _ _ => lastReceived_concat bytes b, ?_⟩
    intro _ lost
    rw [connected] at lost
    cases lost
  | endOfFile =>
    cases taken
    refine ⟨iff_of_true (fun away => absurd rfl away) admitted, ?_⟩
    have nothing : received s (.update .endOfFile) = [] := rfl
    rw [nothing, List.append_nil]
    -- nothing was received, so the mode is still that of the last byte
    exact ⟨fun reading => (by cases reading), fun _ there => (by cases there), fun _ _ => mode.symm⟩
  | error =>
    cases taken
    have nothing : received s (.update .error) = [] := rfl
    rw [nothing, List.append_nil]
    exact ⟨iff_of_true (fun _ => mode) admitted, fun reading => (by cases reading),
      fun setting => (by cases setting), fun setting => (by cases setting)⟩

theorem setMode_current {arrived : ModeRead} (remembers : Remembers bytes s) (at_ : s.update = .setMode)
    (taken : updateModeTask arrived s = some (next, es)) :
    (Current (bytes ++ received s (.update arrived)) next ↔ EndsUnchanged s (.update arrived)) ∧
      Remembers (bytes ++ received s (.update arrived)) next := by
  have nothing : received s (.update arrived) = [] := by cases arrived <;> simp [received, at_]
  simp only [updateModeTask, at_] at taken
  cases taken
  rw [nothing, List.append_nil]
  refine ⟨?_, fun reading => (by cases reading), fun setting => (by cases setting),
    fun setting => (by cases setting)⟩
  -- the only step that changes the mode: to what the buffer holds
  have law : Current bytes { s with
      shared := { s.shared with camMon := s.shared.camMon.setMode s.buf.toInt8.toInt32 }
      update := .test } ↔ s.buf.toInt8.toInt32 = lastReceived bytes :=
    ⟨fun held => held (by decide : UpdatePosition.test ≠ .setMode), fun same _ => same⟩
  rw [law]
  cases connected : s.shared.isConnected with
  | true =>
    refine iff_of_true (remembers.received at_ connected).symm ?_
    intro _ lost
    rw [connected] at lost
    cases lost
  | false =>
    rw [remembers.ended at_ connected]
    exact ⟨fun same _ _ => same, fun admitted => admitted at_ connected⟩

theorem update_current {arrived : ModeRead} (remembers : Remembers bytes s) (current : Current bytes s)
    (taken : updateModeTask arrived s = some (next, es)) :
    (Current (bytes ++ received s (.update arrived)) next ↔ EndsUnchanged s (.update arrived)) ∧
      Remembers (bytes ++ received s (.update arrived)) next := by
  cases at_ : s.update with
  | test =>
    have mode := current (by rw [at_]; decide)
    have nothing : received s (.update arrived) = [] := by cases arrived <;> simp [received, at_]
    simp only [updateModeTask, at_] at taken
    cases taken
    rw [nothing, List.append_nil]
    refine ⟨iff_of_true (fun _ => mode) (fun setting => by rw [at_] at setting; cases setting), ?_⟩
    cases connected : s.shared.isConnected with
    | true => exact ⟨fun _ => connected, fun setting => (by cases setting), fun setting => (by cases setting)⟩
    | false => exact ⟨fun reading => (by cases reading), fun setting => (by cases setting),
        fun setting => (by cases setting)⟩
  | read => exact read_current remembers current at_ taken
  | setMode => exact setMode_current remembers at_ taken
  | close =>
    have mode := current (by rw [at_]; decide)
    have nothing : received s (.update arrived) = [] := by cases arrived <;> simp [received, at_]
    simp only [updateModeTask, at_] at taken
    cases taken
    rw [nothing, List.append_nil]
    exact ⟨iff_of_true (fun _ => mode) (fun setting => by rw [at_] at setting; cases setting),
      fun reading => (by cases reading), fun setting => (by cases setting),
      fun setting => (by cases setting)⟩
  | returned =>
    simp only [updateModeTask, at_] at taken
    cases taken

theorem accept_current (current : Current bytes s)
    (taken : Server.step sane s .accept = some (next, es)) :
    Current bytes next ∧ Remembers bytes next := by
  cases Server.step_moves taken with
  | accept _ _ done =>
    have mode := current (by rw [done]; decide)
    exact ⟨fun _ => mode, fun reading => (by cases reading), fun setting => (by cases setting),
      fun setting => (by cases setting)⟩

theorem step_current {action : Action} (remembers : Remembers bytes s) (current : Current bytes s)
    (taken : Server.step sane s action = some (next, es)) :
    (Current (bytes ++ received s action) next ↔ EndsUnchanged s action) ∧
      Remembers (bytes ++ received s action) next := by
  cases action with
  | update arrived => exact update_current remembers current taken
  | accept =>
    obtain ⟨kept, later⟩ := accept_current current taken
    rw [received_of_ne (by simp), List.append_nil]
    exact ⟨iff_of_true kept trivial, later⟩
  | take _ _ | send _ =>
    have same := step_sameMode taken (by simp) (by simp)
    rw [received_of_ne (by simp), List.append_nil]
    exact ⟨iff_of_true (same.current.mpr current) trivial, same.remembers remembers⟩

end Steps

/-- The server, and whether a byte has come on the present connection. -/
structure Hearing where
  server : Server
  heard : Bool

namespace Hearing

def start (camMon : CameraMonitor) : Hearing := { server := .start camMon, heard := false }

def hears (s : Hearing) : Action → Bool
  | .accept => false
  | action => s.heard || !(received s.server action).isEmpty

def step (sane : Bool) : Step Hearing Action UInt8 := fun s action =>
  match Server.step sane s.server action with
  | some (server, _) => some ({ server := server, heard := s.hears action }, received s.server action)
  | none => none

/-- When `set_mode` is called after the end of file, a byte has come on the connection, or the mode
is that of a zero byte. -/
def EndsHeard (s : Hearing) : Action → Prop
  | .update _ =>
    s.server.update = .setMode → s.server.shared.isConnected = false →
      s.heard = true ∨ s.server.shared.camMon.mode = IDLE_MODE
  | _ => True

/-- The buffer is zero until a byte comes, and then it holds the mode, but for the time until the
byte is set. -/
structure Keeps (s : Hearing) : Prop where
  silent : s.heard = false → s.server.buf = 0
  holds : s.heard = true → (s.server.update = .setMode → s.server.shared.isConnected = false) →
    s.server.buf.toInt8.toInt32 = s.server.shared.camMon.mode

variable {sane : Bool} {s next : Hearing} {action : Action} {bytes seen : List UInt8}

theorem step_eq_some_iff : step sane s action = some (next, seen) ↔
    ∃ es, Server.step sane s.server action = some (next.server, es) ∧ next.heard = s.hears action ∧
      seen = received s.server action := by
  unfold step
  cases Server.step sane s.server action with
  | none => simp
  | some result =>
    obtain ⟨server, es⟩ := result
    constructor
    · rintro ⟨⟩
      exact ⟨es, rfl, rfl, rfl⟩
    · rintro ⟨_, same, heard, rfl⟩
      cases same
      obtain ⟨server, _⟩ := next
      cases heard
      rfl

/-- What has come on the connection tells what the buffer stands for. -/
theorem endsHeard_iff_endsUnchanged (keeps : s.Keeps) : s.EndsHeard action ↔ EndsUnchanged s.server action := by
  cases action with
  | update arrived =>
    refine forall_congr' fun setting => forall_congr' fun lost => ?_
    cases heard : s.heard with
    | true => exact iff_of_true (.inl rfl) (keeps.holds heard fun _ => lost)
    | false =>
      rw [keeps.silent heard]
      exact ⟨fun idle => (idle.resolve_left Bool.false_ne_true).symm, fun idle => .inr idle.symm⟩
  | take _ _ | send _ | accept => rfl

theorem keeps_update {arrived : ModeRead} {es : List ServerEvent} (keeps : s.Keeps)
    (remembers : Remembers bytes s.server)
    (taken : updateModeTask arrived s.server = some (next.server, es))
    (hears : next.heard = s.hears (.update arrived)) : next.Keeps := by
  obtain ⟨server, heard⟩ := next
  dsimp only at taken hears
  subst hears
  cases at_ : s.server.update with
  | read =>
    have connected := remembers.reading at_
    have away : s.server.update = .setMode → s.server.shared.isConnected = false := by
      rw [at_]
      rintro ⟨⟩
    simp only [updateModeTask, at_] at taken
    cases arrived with
    | byte b =>
      cases taken
      refine ⟨fun silent => ?_, fun _ lost => ?_⟩
      · simp [hears, received, at_] at silent
      · cases connected.symm.trans (lost rfl)
    | endOfFile | error =>
      cases taken
      simp only [hears, received, List.isEmpty_nil, Bool.not_true, Bool.or_false]
      exact ⟨keeps.silent, fun heard _ => keeps.holds heard away⟩
  | setMode =>
    have kept : s.hears (.update arrived) = s.heard := by cases arrived <;> simp [hears, received, at_]
    simp only [updateModeTask, at_] at taken
    cases taken
    exact ⟨fun silent => keeps.silent (kept ▸ silent), fun _ _ => rfl⟩
  | test | close =>
    have kept : s.hears (.update arrived) = s.heard := by cases arrived <;> simp [hears, received, at_]
    simp only [updateModeTask, at_] at taken
    cases taken
    refine ⟨fun silent => keeps.silent (kept ▸ silent), fun heard _ => keeps.holds (kept ▸ heard) ?_⟩
    rw [at_]
    rintro ⟨⟩
  | returned =>
    simp only [updateModeTask, at_] at taken
    cases taken

theorem keeps_step (keeps : s.Keeps) (remembers : Remembers bytes s.server)
    (taken : step sane s action = some (next, seen)) : next.Keeps := by
  obtain ⟨es, stepped, heard, _⟩ := step_eq_some_iff.mp taken
  cases action with
  | update arrived => exact keeps_update keeps remembers stepped heard
  | accept =>
    obtain ⟨server, _⟩ := next
    cases heard
    cases Server.step_moves stepped with
    | accept => exact ⟨fun _ => rfl, fun heard => by cases heard⟩
  | take _ _ | send _ =>
    obtain ⟨mode, connected, update, buf⟩ := step_sameMode stepped (by simp) (by simp)
    have kept : next.heard = s.heard := by simp [heard, hears, received]
    refine ⟨?_, ?_⟩
    · rw [kept, buf]
      exact keeps.silent
    · rw [kept, buf, mode, connected, update]
      exact keeps.holds

theorem stuck_admitted (keeps : s.Keeps) (stuck : step sane s action = none) : s.EndsHeard action := by
  rw [endsHeard_iff_endsUnchanged keeps]
  cases action with
  | update arrived =>
    intro setting
    simp only [step, Server.step, updateModeTask, setting] at stuck
    cases stuck
  | take _ _ | send _ | accept => trivial

theorem alwaysLogged_server (P : List UInt8 → Server → Prop) (bytes : List UInt8) (s : Hearing)
    (actions : List Action) :
    AlwaysLogged (observe (Server.step sane) received) P bytes s.server actions ↔
      AlwaysLogged (step sane) (fun bytes s => P bytes s.server) bytes s actions := by
  induction actions generalizing bytes s with
  | nil => rfl
  | cons action rest ih =>
    simp only [AlwaysLogged, observe, step]
    cases Server.step sane s.server action with
    | none => rfl
    | some result => exact and_congr_right fun _ => ih _ ⟨result.1, s.hears action⟩

end Hearing

/-- The mode is that of the last byte received throughout a run exactly when no connection
ends without a byte while the mode is another than that of a zero byte. -/
theorem mode_last_received_iff {sane : Bool} {picPacket : Memory BUFSIZE} {packetSz : Int32} {cam : Bool}
    (actions : List Action) :
    AlwaysLogged (observe (Server.step sane) received) Current []
        (.start (.init picPacket packetSz cam)) actions ↔
      Guarded (Hearing.step sane) Hearing.EndsHeard (.start (.init picPacket packetSz cam)) actions := by
  apply (Hearing.alwaysLogged_server Current [] (.start (.init picPacket packetSz cam)) actions).trans
  apply @alwaysLogged_iff_guarded _ _ _ (Hearing.step sane) Hearing.EndsHeard
    (fun bytes s => Current bytes s.server) fun bytes s => Remembers bytes s.server ∧ s.Keeps
  · intro bytes s action sound _ stuck
    exact Hearing.stuck_admitted sound.2 stuck
  · intro bytes s action next seen sound current taken
    obtain ⟨es, stepped, _, rfl⟩ := Hearing.step_eq_some_iff.mp taken
    rw [Hearing.endsHeard_iff_endsUnchanged sound.2]
    exact (step_current sound.1 current stepped).1
  · intro bytes s action next seen sound current taken
    have keeps := Hearing.keeps_step sound.2 sound.1 taken
    obtain ⟨es, stepped, _, rfl⟩ := Hearing.step_eq_some_iff.mp taken
    exact ⟨(step_current sound.1 current stepped).2, keeps⟩
  · exact ⟨⟨fun reading => (by cases reading), fun setting => (by cases setting),
      fun setting => (by cases setting)⟩, fun _ => rfl, fun heard => (by cases heard)⟩
  · exact fun _ => rfl

instance (bytes : List UInt8) (s : Server) : Decidable (Current bytes s) := by
  unfold Current
  infer_instance

def twoClients : List Action :=
  [.update .endOfFile, .update (.byte 1)] ++ List.replicate 6 (.update .endOfFile) ++
    List.replicate 2 (.take none (.filled BUFSIZE 0)) ++ List.replicate 2 (.send 0) ++ [.accept] ++
    List.replicate 3 (.update .endOfFile)

/-- The movie mode that the first client set is lost with the second connection. -/
theorem silent_connection_resets_mode :
    ¬ AlwaysLogged (observe (Server.step true) received) Current []
      (.start (.init (.filled BUFSIZE 0) 0 true)) twoClients ∧
    ∃ s, run (observe (Server.step true) received) (.start (.init (.filled BUFSIZE 0) 0 true))
        twoClients = some (s, [1]) ∧ s.update = .test ∧ s.shared.camMon.mode = 0 := by
  exact ⟨by decide +kernel, _, rfl, rfl, rfl⟩

end NetCam.Camera
