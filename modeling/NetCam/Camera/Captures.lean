import NetCam.Camera.HandOver

/-! Captures that fail.

`camera_get_frame` wraps whatever the capture library returned in a frame of its own, so
the test for a null frame in `try_get_frame` always passes. A failed capture is packed as
an empty frame at time zero, and sent.
-/

set_option autoImplicit false

namespace NetCam.Camera

open Semantics

/-- A packet saved from a frame that the capture library did return. -/
def ServerEvent.packetCaptured : ServerEvent → Option (Memory BUFSIZE × Int32)
  | .saved ⟨some _⟩ picPacket packetSz => some (picPacket, packetSz)
  | _ => none

-- The packets of successful captures, with their sizes.
def captures (log : List ServerEvent) : List (Memory BUFSIZE × Int32) :=
  log.filterMap ServerEvent.packetCaptured

/-- The capture library returns a frame whenever its result is going to be packed. -/
def CapturesFrame (sane : Bool) (s : Server) : Action → Prop
  | .take captured _ =>
    match s.take with
    | .work .capture => (s.shared.camMon.cam && sane) = true → captured.isSome = true
    | _ => True
  | _ => True

def TakeStage.Captured : TakeStage → Prop
  | .getMode | .capture => True
  | .savePacketSize fr _ _ | .savePacket fr _ _ => fr.fr.isSome = true

theorem captures_append (log es : List ServerEvent) :
    captures (log ++ es) = captures log ++ captures es :=
  List.filterMap_append

theorem captured_take_step {sane : Bool} {s : Server} {captured : Option MediaFrame}
    {stack : Memory BUFSIZE} {next : Shared} {q : Position TakeStage} {es : List ServerEvent}
    (made : s.take.AtWork TakeStage.Captured)
    (frame : CapturesFrame sane s (.take captured stack))
    (taken : takePictureTask sane captured stack s.shared s.take = some (next, q, es)) :
    q.AtWork TakeStage.Captured ∧ captures es = saves es := by
  unfold takePictureTask at taken
  split at taken
  · next stage at_ =>
    rw [at_] at made
    simp only [CapturesFrame, at_] at frame
    cases takeWork_does taken with
    | getsMode | noCamera | failed => exact ⟨trivial, rfl⟩
    | packed there got =>
      obtain ⟨rfl, rfl⟩ := tryGetFrame_ok got
      refine ⟨frame ?_, rfl⟩
      rw [there, Bool.and_true]
    | savesPacketSize => exact ⟨made, rfl⟩
    | savesPacket fr =>
      obtain ⟨fr⟩ := fr
      cases fr with
      | none => cases made
      | some media => exact ⟨trivial, rfl⟩
  · obtain ⟨_, started, _, logged⟩ := outline_quiet (P := TakeStage.Captured) taken trivial
    rcases logged with rfl | rfl <;> exact ⟨started, rfl⟩

theorem captured_send_step {sane : Bool} {s : Server} {written : Int32} {next : Shared}
    {q : Position SendStage} {es : List ServerEvent}
    (taken : sendPictureTask sane written s.shared s.send = some (next, q, es)) :
    captures es = saves es := by
  unfold sendPictureTask at taken
  split at taken
  · cases sendWork_does taken with
    | failed | getsPacket | getsPacketSize | writes => rfl
  · obtain ⟨_, _, _, logged⟩ := outline_quiet (P := fun _ => True) taken trivial
    rcases logged with rfl | rfl <;> rfl

theorem captured_step {sane : Bool} {s next : Server} {action : Action} {es : List ServerEvent}
    (made : s.take.AtWork TakeStage.Captured) (frame : CapturesFrame sane s action)
    (taken : Server.step sane s action = some (next, es)) :
    next.take.AtWork TakeStage.Captured ∧ captures es = saves es := by
  cases Server.step_moves taken with
  | take task => exact captured_take_step made frame task
  | send task => exact ⟨made, captured_send_step task⟩
  | update task =>
    obtain ⟨same, _, reported⟩ := updateModeTask_frame task
    refine ⟨same ▸ made, ?_⟩
    rcases reported with rfl | rfl <;> rfl
  | accept => exact ⟨trivial, rfl⟩

/-- If `capture_get_frame` never returns null, all that is ever sent are the packets of
successful captures, each once and in order, and never more than there were. -/
theorem sends_prefix_of_captures {sane : Bool} {picPacket : Memory BUFSIZE} {packetSz : Int32}
    {cam : Bool} {actions : List Action} {s : Server} {log : List ServerEvent}
    (frames : Guarded (Server.step sane) (CapturesFrame sane)
      (.start (.init picPacket packetSz cam)) actions)
    (ran : run (Server.step sane) (.start (.init picPacket packetSz cam)) actions = some (s, log)) :
    sends log <+: captures log ∧ (sends log).length ≤ (captures log).length := by
  have next : ∀ (done : List Action) (log : List ServerEvent) (s : Server) action next es,
      s.take.AtWork TakeStage.Captured ∧ captures log = saves log → CapturesFrame sane s action →
      Server.step sane s action = some (next, es) →
      next.take.AtWork TakeStage.Captured ∧ captures (log ++ es) = saves (log ++ es) := by
    rintro _ log s action next es ⟨made, same⟩ frame taken
    obtain ⟨later, also⟩ := captured_step made frame taken
    exact ⟨later, by rw [captures_append, saves_append, same, also]⟩
  have made := @run_invariant_of_guarded _ _ _ (Server.step sane) (CapturesFrame sane)
    (fun _ log s => s.take.AtWork TakeStage.Captured ∧ captures log = saves log) next
    (.start (.init picPacket packetSz cam)) s [] actions [] log ⟨trivial, rfl⟩ frames ran
  change _ ∧ captures log = saves log at made
  rw [made.2]
  have sent := (sends_prefix_of_saves ran).1
  exact ⟨sent, sent.length_le⟩

instance (sane : Bool) (s : Server) (action : Action) : Decidable (CapturesFrame sane s action) := by
  unfold CapturesFrame
  split
  · split <;> infer_instance
  · infer_instance

theorem captured_frame_sent : ∃ s log,
    run (Server.step true) (.start (.init (.filled BUFSIZE 85) 0 true))
        (takeTurn (some ⟨[1, 2, 3], 5000000⟩) ++ sendTurn) = some (s, log) ∧
      (sends log).length = 1 ∧
      sends log <+: captures log ∧ (sends log).length ≤ (captures log).length := by
  have finishes : (run (Server.step true) (.start (.init (.filled BUFSIZE 85) 0 true))
        (takeTurn (some ⟨[1, 2, 3], 5000000⟩) ++ sendTurn)).map
          (fun reached => (sends reached.2).length) = some 1 := by decide +kernel
  obtain ⟨⟨s, log⟩, ran, sent⟩ := Option.map_eq_some_iff.mp finishes
  exact ⟨s, log, ran, sent, sends_prefix_of_captures (by decide +kernel) ran⟩

theorem failed_capture_sent : ∃ s log,
    run (Server.step true) (.start (.init (.filled BUFSIZE 85) 0 true))
        (takeTurn none ++ sendTurn) = some (s, log) ∧
      captures log = [] ∧
      (sends log).map (fun packet => (packet.1.load 0 10, packet.2)) =
        [(some (List.replicate 10 0), 10)] := by
  have finishes : (run (Server.step true) (.start (.init (.filled BUFSIZE 85) 0 true))
        (takeTurn none ++ sendTurn)).map (fun reached =>
          ((captures reached.2).length, (sends reached.2).map fun packet =>
            (packet.1.load 0 10, packet.2))) =
      some (0, [(some (List.replicate 10 0), 10)]) := by decide +kernel
  obtain ⟨⟨s, log⟩, ran, counted⟩ := Option.map_eq_some_iff.mp finishes
  obtain ⟨none_captured, sent⟩ := Prod.mk.inj counted
  exact ⟨s, log, ran, List.eq_nil_of_length_eq_zero none_captured, sent⟩

end NetCam.Camera
