import Mathlib.Data.List.DropRight
import NetCam.Camera.HandOver

/-! Packets across client connections.

`init` sets the turn once for the whole server, and `client_init` does not set it again. A
connection that ends on the turn of the send task leaves its last packet in the slot,
and the next client gets it first.
-/

set_option autoImplicit false

namespace NetCam.Camera

open Semantics

def ServerEvent.isAccepted : ServerEvent → Bool
  | .accepted => true
  | _ => false

/-- The events since the last client was accepted. -/
def session (log : List ServerEvent) : List ServerEvent := log.rtakeWhile fun e => !e.isAccepted

def StartsFresh (sane : Bool) (s : Server) : Action → Prop
  | .accept => (s.shared.camMon.cam && sane) = true → s.shared.camMon.picTakeSend = TAKE_PIC_STATE
  | _ => True

theorem session_append {log es : List ServerEvent} (within : ∀ e ∈ es, e.isAccepted = false) :
    session (log ++ es) = session log ++ es := by
  have rest : ∀ e ∈ es.reverse, (!e.isAccepted) = true := by
    intro e member
    rw [within e (List.mem_reverse.mp member)]
    rfl
  unfold session List.rtakeWhile
  rw [List.reverse_append, List.takeWhile_append_of_pos rest, List.reverse_append, List.reverse_reverse]

theorem session_accepted (log : List ServerEvent) : session (log ++ [.accepted]) = [] :=
  List.rtakeWhile_concat_neg _ _ _ (by simp [ServerEvent.isAccepted])

section Steps

variable {sane cam : Bool} {s next : Server} {log es : List ServerEvent}

theorem step_within_session {action : Action} (taken : Server.step sane s action = some (next, es))
    (task : action ≠ .accept) : ∀ e ∈ es, e.isAccepted = false := by
  cases Server.step_moves taken with
  | take worked =>
    unfold takePictureTask at worked
    split at worked
    · cases takeWork_does worked with
      | getsMode | noCamera | failed | packed | savesPacketSize => simp
      | savesPacket => simp [ServerEvent.isAccepted]
    · obtain ⟨_, _, _, rfl | rfl⟩ := outline_quiet (P := fun _ => True) worked trivial
      · simp
      · simp [ServerEvent.isAccepted]
  | send worked =>
    unfold sendPictureTask at worked
    split at worked
    · cases sendWork_does worked with
      | failed | getsPacket | getsPacketSize => simp
      | writes => simp [ServerEvent.isAccepted]
    · obtain ⟨_, _, _, rfl | rfl⟩ := outline_quiet (P := fun _ => True) worked trivial
      · simp
      · simp [ServerEvent.isAccepted]
  | update updated =>
    obtain ⟨_, _, rfl | rfl⟩ := updateModeTask_frame updated
    · simp
    · simp [ServerEvent.isAccepted]
  | accept => exact absurd rfl task

/-- Nothing is pending for the new client, so its session starts with a clean balance. -/
theorem HandOver.accept_fresh (inv : HandOver sane cam log s) (fresh : StartsFresh sane s .accept)
    (taken : Server.step sane s .accept = some (next, es)) :
    HandOver sane cam [] next ∧ es = [.accepted] := by
  have camera := inv.camera
  cases Server.step_moves taken with
  | accept takeDone sendDone _ =>
    have takeFree := inv.takeLocked
    have sendFree := inv.sendLocked
    rw [takeDone] at takeFree
    rw [sendDone] at sendFree
    refine ⟨⟨camera, takeFree, sendFree, fun busy => (by cases busy), fun busy => (by cases busy),
      trivial, trivial, ?_⟩, rfl⟩
    change [] = Server.pending (cam && sane) _
    cases on : cam && sane with
    | false => rw [Server.pending_inactive rfl]
    | true =>
      rw [← camera] at on
      symm
      apply Server.pending_taking
      · exact fresh on
      · rfl

theorem handOver_session {action : Action} (inv : HandOver sane cam (session log) s)
    (fresh : StartsFresh sane s action) (taken : Server.step sane s action = some (next, es)) :
    HandOver sane cam (session (log ++ es)) next := by
  by_cases task : action = .accept
  · subst task
    obtain ⟨clean, rfl⟩ := inv.accept_fresh fresh taken
    rw [session_accepted]
    exact clean
  · rw [session_append (step_within_session taken task)]
    exact handOver_step inv taken

end Steps

/-- If every client is accepted on the turn of the take task, what is sent to a client was
saved since it was accepted, in the same order. -/
theorem sends_within_session {sane : Bool} {picPacket : Memory BUFSIZE} {packetSz : Int32} {cam : Bool}
    {actions : List Action} {s : Server} {log : List ServerEvent}
    (fresh : Guarded (Server.step sane) (StartsFresh sane)
      (.start (.init picPacket packetSz cam)) actions)
    (ran : run (Server.step sane) (.start (.init picPacket packetSz cam)) actions = some (s, log)) :
    sends (session log) <+: saves (session log) := by
  have inv : HandOver sane cam (session ([] ++ log)) s :=
    @run_invariant_of_guarded _ _ _ (Server.step sane) (StartsFresh sane)
      (fun _ log s => HandOver sane cam (session log) s)
      (fun _ _ _ _ _ _ inv fresh taken => handOver_session inv fresh taken) _ _ [] actions [] log
      (handOver_start (.init picPacket packetSz cam) rfl) fresh ran
  rw [List.nil_append] at inv
  rw [inv.balance]
  exact List.prefix_append _ _

instance (sane : Bool) (s : Server) (action : Action) : Decidable (StartsFresh sane s action) := by
  unfold StartsFresh
  split <;> infer_instance

def nextClient : List Action :=
  [.update .endOfFile, .update .endOfFile] ++ List.replicate 2 (.take none (.filled BUFSIZE 0)) ++
    List.replicate 2 (.send 0) ++ List.replicate 3 (.update .endOfFile) ++ [.accept]

theorem second_client_gets_own_frame : ∃ s log,
    run (Server.step true) (.start (.init (.filled BUFSIZE 85) 0 true))
        (nextClient ++ takeTurn (some ⟨[1, 2, 3], 5000000⟩) ++ sendTurn) = some (s, log) ∧
      (sends (session log)).length = 1 ∧ sends (session log) <+: saves (session log) := by
  have finishes : (run (Server.step true) (.start (.init (.filled BUFSIZE 85) 0 true))
        (nextClient ++ takeTurn (some ⟨[1, 2, 3], 5000000⟩) ++ sendTurn)).map
          (fun reached => (sends (session reached.2)).length) = some 1 := by decide +kernel
  obtain ⟨⟨s, log⟩, ran, sent⟩ := Option.map_eq_some_iff.mp finishes
  exact ⟨s, log, ran, sent, sends_within_session (by decide +kernel) ran⟩

/-- The first client leaves before its picture is sent, and the second one gets it. -/
theorem second_client_gets_old_frame : ∃ s log,
    run (Server.step true) (.start (.init (.filled BUFSIZE 85) 0 true))
        (takeTurn (some ⟨[1, 2, 3], 5000000⟩) ++ nextClient ++ sendTurn) = some (s, log) ∧
      saves (session log) = [] ∧
      (sends (session log)).map (fun packet => (packet.1.load 0 13, packet.2)) =
        [(some [5, 0, 0, 0, 0, 0, 0, 0, 3, 0, 1, 2, 3], 13)] := by
  have finishes : (run (Server.step true) (.start (.init (.filled BUFSIZE 85) 0 true))
        (takeTurn (some ⟨[1, 2, 3], 5000000⟩) ++ nextClient ++ sendTurn)).map (fun reached =>
          ((saves (session reached.2)).length, (sends (session reached.2)).map fun packet =>
            (packet.1.load 0 13, packet.2))) =
      some (0, [(some [5, 0, 0, 0, 0, 0, 0, 0, 3, 0, 1, 2, 3], 13)]) := by decide +kernel
  obtain ⟨⟨s, log⟩, ran, counted⟩ := Option.map_eq_some_iff.mp finishes
  obtain ⟨none_saved, sent⟩ := Prod.mk.inj counted
  exact ⟨s, log, ran, List.eq_nil_of_length_eq_zero none_saved, sent⟩

end NetCam.Camera
