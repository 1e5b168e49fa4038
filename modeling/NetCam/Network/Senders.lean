import NetCam.Network.ModeSender
import NetCam.Network.MotionPack
import NetCam.Network.Program

/-! `networking.ModeSender` and `networking.MotionRequestSender` among the threads of a monitor.

Here an exception and the call of `setActive(false)` that answers it are two steps.
-/

set_option autoImplicit false

namespace NetCam.Network

namespace Program

def sendTurn {Stage Fields Report : Type} (moment : Moment) (fields : Fields) (next : Stage)
    (sent : List Report) : Option (Outcome Stage × Fields × List Report) :=
  if moment.fails then some (.ioException, fields, []) else some (.goesOn next, fields, sent)

inductive ModeStage where
  | getNewMode
  | write
  | flush
  | sleep
  deriving DecidableEq, Repr

/-- The field is the mode sent last. -/
abbrev modeSender : Program :=
  { Fields := Int32
    Stage := ModeStage
    Report := UInt8
    first := .getNewMode
    turn := fun moment mode stage =>
      match stage with
      | .getNewMode =>
        match moment.cMon.getNewMode mode with
        | .ok mode => some (.goesOn .write, mode, [])
        | .error _ => none
      | .write => sendTurn moment mode .flush [pack mode]
      | .flush => sendTurn moment mode .sleep []
      | .sleep => some (.goesOn .getNewMode, mode, [])
    catchesAll := false }

inductive RequestStage where
  | write
  | flush
  | sleep
  deriving DecidableEq, Repr

abbrev motionRequestSender : Program :=
  { Fields := Unit
    Stage := RequestStage
    Report := List UInt8
    first := .write
    turn := fun moment fields stage =>
      match stage with
      | .write => sendTurn moment fields .flush [MotionPack.pack]
      | .flush => sendTurn moment fields .sleep []
      | .sleep => some (.goesOn .write, fields, [])
    catchesAll := false }

end Program

def Sending.position (socket : Nat) : Sending → Position Program.ModeStage
  | .loop => .loop
  | .waitUntilActive => .waitUntilActive
  | .getSocket => .getSocket
  | .getNewMode => .work socket .getNewMode
  | .write => .work socket .write
  | .flush => .work socket .flush
  | .sleep => .work socket .sleep
  | .exited => .exited

structure ModeSender.Represents (sender : ModeSender) (thread : Thread Program.modeSender) : Prop where
  mode : thread.fields = sender.mode
  position : thread.position = sender.position.position (sender.socket.getD 0)

/-- A step of the mode sender is one of the thread, or two if it answers an exception. -/
theorem modeSender_steps {cMon : Client.ClientMonitor} {monitor next : NetMonitor Nat} {fails : Bool}
    {sender after : ModeSender} {byte : Option UInt8} {thread : Thread Program.modeSender}
    (represents : sender.Represents thread) (is : InputStream)
    (connected : sender.position = .getSocket → monitor.getSocket ≠ none)
    (taken : modeSender cMon monitor fails sender = some (next, byte, after)) :
    ∃ last, after.Represents last ∧
      (Program.modeSender.step monitor ⟨is, fails, cMon⟩ thread = some (next, last, byte.toList) ∨
        byte = none ∧ ∃ caught,
          Program.modeSender.step monitor ⟨is, fails, cMon⟩ thread = some (monitor, caught, []) ∧
          Program.modeSender.step monitor ⟨is, fails, cMon⟩ caught = some (next, last, [])) := by
  rcases sender with ⟨position, mode, socket⟩
  rcases thread with ⟨at_, fields, ended⟩
  obtain ⟨same, there⟩ := represents
  dsimp only at same there connected
  subst same there
  cases position with
  | loop =>
    cases taken
    refine ⟨_, ⟨rfl, ?_⟩, .inl rfl⟩
    cases monitor.isShutdown <;> rfl
  | waitUntilActive =>
    simp only [modeSender] at taken
    split at taken <;> cases taken
    next active => exact ⟨_, ⟨rfl, rfl⟩, .inl (if_pos active)⟩
  | getSocket =>
    cases current : monitor.getSocket with
    | none => exact absurd current (connected rfl)
    | some socket =>
      simp only [modeSender, current] at taken
      cases fails with
      | true =>
        cases taken
        -- `modeSender` answers the exception in the step that throws it
        refine ⟨_, ⟨rfl, rfl⟩, .inr ⟨rfl, ⟨.setInactive socket, fields, ended⟩, ?_, rfl⟩⟩
        simp [Program.step, Sending.position, current]
      | false =>
        cases taken
        refine ⟨⟨.work socket .getNewMode, fields, ended⟩, ⟨rfl, rfl⟩, .inl ?_⟩
        simp [Program.step, Sending.position, current]
  | getNewMode =>
    cases asked : cMon.getNewMode fields with
    | ok mode =>
      simp only [modeSender, asked] at taken
      cases taken
      refine ⟨⟨.work (socket.getD 0) .write, mode, ended⟩, ⟨rfl, rfl⟩, .inl ?_⟩
      simp [Program.step, Sending.position, asked]
    | error _ =>
      simp only [modeSender, asked] at taken
      cases taken
  | write | flush =>
    cases fails <;> cases taken
    · exact ⟨_, ⟨rfl, rfl⟩, .inl rfl⟩
    · exact ⟨_, ⟨rfl, rfl⟩, .inr ⟨rfl, _, rfl, rfl⟩⟩
  | sleep =>
    cases taken
    exact ⟨_, ⟨rfl, rfl⟩, .inl rfl⟩
  | exited => cases taken

end NetCam.Network
