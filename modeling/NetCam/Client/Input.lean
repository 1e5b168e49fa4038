import NetCam.Client.Calls

/-! The user's settings, from `client.SwingGui` by way of the `client.Input` thread to
`ClientMonitor`.

A GUI event is a click together with its handler. The handlers and `getInput` are
synchronized on the window, so an event falls between two statements of `Input.run`.
The other threads of the client appear as calls on the monitor at any time.
-/

set_option autoImplicit false

namespace NetCam.Client

open Semantics

structure SwingGui where
  newInput : Bool
  mode : Int32
  syncMode : Int32
  autoRadioButton : Bool
  idleRadioButton : Bool
  movieRadioButton : Bool
  syncCheckBox : Bool
  deriving DecidableEq, Repr

inductive GuiEvent where
  | auto
  | idle
  | movie
  | synchronize
  deriving DecidableEq, Repr

namespace SwingGui

def MODE_ASYNC : Int32 := 1
def MODE_SYNC : Int32 := 2

/-- `syncMode` is not assigned by the constructor. -/
def fresh : SwingGui :=
  { newInput := false, mode := MODE_AUTO, syncMode := 0, autoRadioButton := true,
    idleRadioButton := false, movieRadioButton := false, syncCheckBox := false }

def radioButtonActionPerformed (gui : SwingGui) (mode : UserMode) : SwingGui :=
  { gui with
    autoRadioButton := mode = .auto
    idleRadioButton := mode = .idle
    movieRadioButton := mode = .movie
    newInput := true
    mode := mode.code }

def autoRadioButtonActionPerformed (gui : SwingGui) : SwingGui :=
  gui.radioButtonActionPerformed .auto

def idleRadioButtonActionPerformed (gui : SwingGui) : SwingGui :=
  gui.radioButtonActionPerformed .idle

def movieRadioButtonActionPerformed (gui : SwingGui) : SwingGui :=
  gui.radioButtonActionPerformed .movie

def syncCheckBoxActionPerformed (gui : SwingGui) : SwingGui :=
  { gui with
    newInput := true
    syncMode := if gui.syncCheckBox then MODE_SYNC else MODE_ASYNC }

def handle (gui : SwingGui) : GuiEvent → SwingGui
  | .auto => gui.autoRadioButtonActionPerformed
  | .idle => gui.idleRadioButtonActionPerformed
  | .movie => gui.movieRadioButtonActionPerformed
  | .synchronize => { gui with syncCheckBox := !gui.syncCheckBox }.syncCheckBoxActionPerformed

def getInput (gui : SwingGui) : Except Stop ((Int32 × Int32) × SwingGui) :=
  if !gui.newInput then .error .waits
  else .ok ((gui.mode, gui.syncMode), { gui with newInput := false })

structure Shown (gui : SwingGui) : Prop where
  auto : gui.autoRadioButton = true ↔ gui.mode = MODE_AUTO
  idle : gui.idleRadioButton = true ↔ gui.mode = MODE_IDLE
  movie : gui.movieRadioButton = true ↔ gui.mode = MODE_MOVIE
  sync : gui.syncCheckBox = true ↔ gui.syncMode = MODE_SYNC

theorem shown_fresh : Shown fresh := by constructor <;> decide

theorem Shown.radioButton {gui : SwingGui} (shown : Shown gui) (mode : UserMode) :
    Shown (gui.radioButtonActionPerformed mode) := by
  refine ⟨?_, ?_, ?_, shown.sync⟩
  all_goals
    simp only [radioButtonActionPerformed]
    cases mode <;> simp [UserMode.code, MODE_AUTO, MODE_IDLE, MODE_MOVIE]

theorem Shown.handle {gui : SwingGui} (shown : Shown gui) (event : GuiEvent) :
    Shown (gui.handle event) := by
  cases event with
  | auto => exact shown.radioButton .auto
  | idle => exact shown.radioButton .idle
  | movie => exact shown.radioButton .movie
  | synchronize =>
    refine ⟨shown.auto, shown.idle, shown.movie, ?_⟩
    simp only [SwingGui.handle, syncCheckBoxActionPerformed]
    cases gui.syncCheckBox <;> simp [SwingGui.MODE_SYNC, SwingGui.MODE_ASYNC]

theorem handle_newInput (gui : SwingGui) (event : GuiEvent) :
    (gui.handle event).newInput = true := by
  cases event <;> rfl

theorem getInput_ok_iff {gui next : SwingGui} {inputs : Int32 × Int32} :
    gui.getInput = .ok (inputs, next) ↔
      gui.newInput = true ∧ inputs = (gui.mode, gui.syncMode) ∧
        next = { gui with newInput := false } := by
  unfold getInput
  cases gui.newInput <;> simp [eq_comm]

end SwingGui

inductive InputPosition where
  | getInput
  | setMode (inputs : Int32 × Int32)
  | setForcedSync (inputs : Int32 × Int32)
  deriving DecidableEq, Repr

def InputPosition.endsUnticked : InputPosition → Bool
  | .setForcedSync inputs => inputs.2 ≠ SwingGui.MODE_SYNC
  | _ => false

structure Settings where
  gui : SwingGui
  clientMonitor : ClientMonitor
  position : InputPosition
  oldSyncMode : Int32
  oldMode : Int32
  deriving DecidableEq, Repr

inductive SettingsAction where
  | gui (event : GuiEvent)
  | input
  | call (call : Call)
  deriving DecidableEq, Repr

inductive SettingsEvent where
  | setMode (mode : Int32)
  | setForcedSync (sync : Bool)
  deriving DecidableEq, Repr

namespace Settings

def fresh : Settings :=
  { gui := .fresh, clientMonitor := .fresh, position := .getInput,
    oldSyncMode := SwingGui.MODE_ASYNC, oldMode := MODE_AUTO }

def input (s : Settings) : Option (Settings × List SettingsEvent) :=
  match s.position with
  | .getInput =>
    match s.gui.getInput with
    | .ok (inputs, gui) => some ({ s with gui := gui, position := .setMode inputs }, [])
    | .error _ => none
  | .setMode inputs =>
    if s.oldMode ≠ inputs.1 then
      some ({ s with
        clientMonitor := s.clientMonitor.setMode inputs.1
        oldMode := inputs.1
        position := .setForcedSync inputs }, [.setMode inputs.1])
    else some ({ s with position := .setForcedSync inputs }, [])
  | .setForcedSync inputs =>
    if s.oldSyncMode ≠ inputs.2 then
      let sync : Bool := inputs.2 = SwingGui.MODE_SYNC
      some ({ s with
        clientMonitor := s.clientMonitor.setForcedSync sync
        oldSyncMode := inputs.2
        position := .getInput }, [.setForcedSync sync])
    else some ({ s with position := .getInput }, [])

/-- Only `Input` sets the mode and forces synchronous display. -/
def step : Step Settings SettingsAction SettingsEvent
  | s, .gui event => some ({ s with gui := s.gui.handle event }, [])
  | s, .input => s.input
  | _, .call (.setForcedSync _) => none
  | _, .call (.setMode _) => none
  | s, .call call =>
    match s.clientMonitor.step call with
    | some (monitor, _) => some ({ s with clientMonitor := monitor }, [])
    | none => none

def Settled (s : Settings) : Prop := s.position = .getInput ∧ s.gui.newInput = false

instance : DecidablePred Settled := fun _ => inferInstanceAs (Decidable (_ ∧ _))

def modePassed : SettingsEvent → Option Int32
  | .setMode mode => some mode
  | .setForcedSync _ => none

def lastPassed (log : List SettingsEvent) : Option Int32 := (log.filterMap modePassed).getLast?

-- The monitor has been told this mode, or it is the one it starts with.
def Told (log : List SettingsEvent) (mode : Int32) : Prop :=
  lastPassed log = some mode ∨ (lastPassed log = none ∧ mode = MODE_AUTO)

instance (log : List SettingsEvent) (mode : Int32) : Decidable (Told log mode) :=
  inferInstanceAs (Decidable (_ ∨ _))

-- The monitor goes by what the window shows.
def InForce (log : List SettingsEvent) (s : Settings) : Prop :=
  Told log s.gui.mode ∧ (s.clientMonitor.forceSync = true ↔ s.gui.syncCheckBox = true)

instance (log : List SettingsEvent) (s : Settings) : Decidable (InForce log s) :=
  inferInstanceAs (Decidable (_ ∧ _))

/-- Every setting has come into force by the time there is nothing left to read. -/
def Obeyed (log : List SettingsEvent) (s : Settings) : Prop := s.Settled → InForce log s

instance (log : List SettingsEvent) (s : Settings) : Decidable (Obeyed log s) :=
  inferInstanceAs (Decidable (_ → _))

/-- `Input` does not end an iteration, with no newer event to read, in which it has read
an unticked check box while synchronous display is forced. -/
def NotUnticked (s : Settings) (a : SettingsAction) : Prop :=
  a = .input → s.position.endsUnticked = true → s.gui.newInput = false →
    s.clientMonitor.forceSync = false

instance (s : Settings) (a : SettingsAction) : Decidable (NotUnticked s a) :=
  inferInstanceAs (Decidable (_ → _))

-- What `Input` has read is what the window says, unless there is newer input.
def Read (s : Settings) : Prop :=
  match s.position with
  | .getInput => s.oldMode = s.gui.mode
  | .setMode inputs => inputs = (s.gui.mode, s.gui.syncMode)
  | .setForcedSync inputs => inputs = (s.gui.mode, s.gui.syncMode) ∧ s.oldMode = inputs.1

structure Sound (log : List SettingsEvent) (s : Settings) : Prop where
  shown : s.gui.Shown
  told : Told log s.oldMode
  forced : s.oldSyncMode = SwingGui.MODE_SYNC → s.clientMonitor.forceSync = true
  read : s.gui.newInput = false → s.Read

theorem sound_fresh : Sound [] fresh where
  shown := SwingGui.shown_fresh
  told := by decide
  forced := by decide
  read := fun _ => rfl

section Inversion
variable {s t : Settings} {es : List SettingsEvent}

theorem step_call {call : Call} (taken : s.step (.call call) = some (t, es)) :
    es = [] ∧ ∃ monitor, t = { s with clientMonitor := monitor } ∧
      monitor.forceSync = s.clientMonitor.forceSync := by
  unfold step at taken
  split at taken
  · next absurd => cases absurd
  · next absurd => cases absurd
  · cases taken
  · cases taken
  · next unforced _ same =>
    cases same
    split at taken
    · next monitor events stepped =>
      cases taken
      have kept := ClientMonitor.step_forceSync stepped unforced
      exact ⟨rfl, monitor, rfl, kept⟩
    · cases taken

theorem step_input (taken : s.step .input = some (t, es)) :
    (s.position = .getInput ∧ s.gui.newInput = true ∧ es = [] ∧
      t = { s with
        gui := { s.gui with newInput := false }
        position := .setMode (s.gui.mode, s.gui.syncMode) }) ∨
    (∃ inputs, s.position = .setMode inputs ∧ t.gui = s.gui ∧
      t.position = .setForcedSync inputs ∧ t.oldMode = inputs.1 ∧ t.oldSyncMode = s.oldSyncMode ∧
      t.clientMonitor.forceSync = s.clientMonitor.forceSync ∧
      ((es = [] ∧ s.oldMode = inputs.1) ∨ es = [.setMode inputs.1])) ∨
    (∃ inputs, s.position = .setForcedSync inputs ∧ t.gui = s.gui ∧ t.position = .getInput ∧
      t.oldMode = s.oldMode ∧ t.oldSyncMode = inputs.2 ∧ es.filterMap modePassed = [] ∧
      (t.clientMonitor.forceSync = true ↔ s.clientMonitor.forceSync = true ∨
        (s.oldSyncMode ≠ inputs.2 ∧ inputs.2 = SwingGui.MODE_SYNC))) := by
  change s.input = some (t, es) at taken
  unfold input at taken
  split at taken
  · next position =>
    split at taken
    · next inputs gui got =>
      obtain ⟨new, rfl, rfl⟩ := SwingGui.getInput_ok_iff.mp got
      cases taken
      exact .inl ⟨position, new, rfl, rfl⟩
    · cases taken
  · next inputs position =>
    refine .inr (.inl ⟨inputs, position, ?_⟩)
    split at taken
    · cases taken
      exact ⟨rfl, rfl, rfl, rfl, ClientMonitor.setMode_forceSync .., .inr rfl⟩
    · next same =>
      cases taken
      exact ⟨rfl, rfl, not_not.mp same, rfl, rfl, .inl ⟨rfl, not_not.mp same⟩⟩
  · next inputs position =>
    refine .inr (.inr ⟨inputs, position, ?_⟩)
    split at taken
    · next differ =>
      cases taken
      refine ⟨rfl, rfl, rfl, rfl, rfl, ?_⟩
      simp [ClientMonitor.setForcedSync_forceSync, differ]
    · next same =>
      cases taken
      refine ⟨rfl, rfl, rfl, not_not.mp same, rfl, ?_⟩
      simp [not_not.mp same]

end Inversion

theorem told_concat (log : List SettingsEvent) (mode : Int32) :
    Told (log ++ [.setMode mode]) mode := by
  simp [Told, lastPassed, modePassed]

theorem told_append_of_quiet {log es : List SettingsEvent} {mode : Int32}
    (quiet : es.filterMap modePassed = []) : Told (log ++ es) mode ↔ Told log mode := by
  simp [Told, lastPassed, quiet]

theorem sound_step (log : List SettingsEvent) (s : Settings) (a : SettingsAction) (t : Settings)
    (es : List SettingsEvent) (sound : Sound log s) (taken : s.step a = some (t, es)) :
    Sound (log ++ es) t := by
  cases a with
  | gui event =>
    cases taken
    rw [List.append_nil]
    refine ⟨sound.shown.handle event, sound.told, sound.forced, ?_⟩
    intro old
    rw [SwingGui.handle_newInput] at old
    cases old
  | call call =>
    obtain ⟨rfl, monitor, rfl, kept⟩ := step_call taken
    rw [List.append_nil]
    exact ⟨sound.shown, sound.told, fun sync => kept.trans (sound.forced sync), sound.read⟩
  | input =>
    rcases step_input taken with ⟨_, _, rfl, rfl⟩ |
      ⟨inputs, position, gui, later, mode, syncMode, kept, passed⟩ |
      ⟨inputs, position, gui, later, mode, syncMode, quiet, forced⟩
    · rw [List.append_nil]
      exact ⟨⟨sound.shown.auto, sound.shown.idle, sound.shown.movie, sound.shown.sync⟩,
        sound.told, sound.forced, fun _ => rfl⟩
    · -- `setMode` has been passed or was not needed
      refine ⟨gui ▸ sound.shown, ?_, ?_, ?_⟩
      · rw [mode]
        rcases passed with ⟨rfl, same⟩ | rfl
        · rw [List.append_nil, ← same]
          exact sound.told
        · exact told_concat log inputs.1
      · rw [syncMode, kept]
        exact sound.forced
      · intro old
        have read := sound.read (gui ▸ old)
        unfold Read at read ⊢
        rw [position] at read
        rw [later, gui]
        exact ⟨read, mode⟩
    · refine ⟨gui ▸ sound.shown, ?_, ?_, ?_⟩
      · rw [mode, told_append_of_quiet quiet]
        exact sound.told
      · rw [syncMode, forced]
        intro sync
        by_cases same : s.oldSyncMode = inputs.2
        · exact .inl (sound.forced (same.trans sync))
        · exact .inr ⟨same, sync⟩
      · intro old
        have read := sound.read (gui ▸ old)
        unfold Read at read ⊢
        rw [position] at read
        rw [later, gui]
        obtain ⟨rfl, same⟩ := read
        exact mode.trans same

theorem obeyed_ends_iff {log after : List SettingsEvent} {s t : Settings} {inputs : Int32 × Int32}
    (sound : Sound log s) (reached : Sound after t) (position : s.position = .setForcedSync inputs)
    (gui : t.gui = s.gui) (later : t.position = .getInput) (syncMode : t.oldSyncMode = inputs.2)
    (forced : t.clientMonitor.forceSync = true ↔ s.clientMonitor.forceSync = true ∨
      (s.oldSyncMode ≠ inputs.2 ∧ inputs.2 = SwingGui.MODE_SYNC)) :
    Obeyed after t ↔ NotUnticked s .input := by
  have read : s.gui.newInput = false → inputs.2 = s.gui.syncMode := by
    intro old
    have read := sound.read old
    unfold Read at read
    rw [position] at read
    rw [read.1]
  have ticked := sound.shown.sync
  rw [← gui] at ticked read
  have ends : s.position.endsUnticked = true ↔ inputs.2 ≠ SwingGui.MODE_SYNC := by
    rw [position]
    exact decide_eq_true_iff
  constructor
  · rintro obeyed _ unticked old
    rw [← gui] at old
    rw [ends, read old, Ne, ← ticked, ← (obeyed ⟨later, old⟩).2, forced] at unticked
    simpa using (not_or.mp unticked).1
  · intro admitted settled
    have told := reached.told
    have same := reached.read settled.2
    unfold Read at same
    rw [later] at same
    refine ⟨same ▸ told, ?_⟩
    rw [ticked, ← read settled.2]
    constructor
    · intro forces
      rcases forced.mp forces with before | ⟨_, sync⟩
      · -- forced before, and not ticked any more: this is what is not admitted
        by_contra unticked
        have free := admitted rfl (ends.mpr unticked) (gui ▸ settled.2)
        rw [before] at free
        cases free
      · exact sync
    · rw [← syncMode]
      exact reached.forced

/-- What a step does to a settled property: only the end of an iteration matters. -/
theorem obeyed_step_iff (log : List SettingsEvent) (s : Settings) (a : SettingsAction) (t : Settings)
    (es : List SettingsEvent) (sound : Sound log s) (obeyed : Obeyed log s)
    (taken : s.step a = some (t, es)) : Obeyed (log ++ es) t ↔ NotUnticked s a := by
  have reached := sound_step log s a t es sound taken
  cases a with
  | gui event =>
    cases taken
    refine iff_of_true ?_ (fun input => by cases input)
    rintro ⟨_, old⟩
    rw [SwingGui.handle_newInput] at old
    cases old
  | call call =>
    obtain ⟨rfl, monitor, rfl, kept⟩ := step_call taken
    refine iff_of_true ?_ (fun input => by cases input)
    rw [List.append_nil]
    intro settled
    obtain ⟨told, sync⟩ := obeyed settled
    exact ⟨told, kept ▸ sync⟩
  | input =>
    rcases step_input taken with ⟨position, _, rfl, rfl⟩ |
      ⟨inputs, position, gui, later, _⟩ |
      ⟨inputs, position, gui, later, mode, syncMode, quiet, forced⟩
    · refine iff_of_true ?_ ?_
      · rintro ⟨at_getInput, _⟩
        cases at_getInput
      · rintro _ ends
        rw [position] at ends
        cases ends
    · refine iff_of_true ?_ ?_
      · rintro ⟨at_getInput, _⟩
        rw [later] at at_getInput
        cases at_getInput
      · rintro _ ends
        rw [position] at ends
        cases ends
    · exact obeyed_ends_iff sound reached position gui later syncMode forced

/-- The settings come into force throughout a run precisely when the check box is never
read unticked after it has been read ticked, unless newer input is waiting. -/
theorem obeyed_iff (as : List SettingsAction) :
    AlwaysLogged step Obeyed [] fresh as ↔ Guarded step NotUnticked fresh as := by
  refine @alwaysLogged_iff_guarded _ _ _ step NotUnticked Obeyed Sound ?_ obeyed_step_iff ?_ _ _
    sound_fresh ?_ as
  · intro log s a sound obeyed stuck
    rintro rfl ends
    -- the end of an iteration is never blocked
    change s.input = none at stuck
    unfold input at stuck
    split at stuck
    · next position => rw [position] at ends; cases ends
    · next position => rw [position] at ends; cases ends
    · split at stuck <;> cases stuck
  · intro log s a t es sound _
    exact sound_step log s a t es sound
  · intro _
    decide

theorem told_of_settled {as : List SettingsAction} {s : Settings} {log : List SettingsEvent}
    (ran : run step fresh as = some (s, log)) (settled : s.Settled) : Told log s.gui.mode := by
  have sound := run_invariant step (fun _ => Sound)
    (fun _ log s a t es => sound_step log s a t es) sound_fresh ran
  have read := sound.read settled.2
  unfold Read at read
  rw [settled.1] at read
  exact read ▸ sound.told

-- two events read as one, the box ticked for good
example : Guarded step NotUnticked fresh
    [.gui .synchronize, .gui .movie, .input, .input, .input] := by decide +kernel

/-- The check box is ticked, and unticked again: synchronous display stays forced. -/
theorem unticking_ignored : ∃ s log,
    run step fresh [.gui .synchronize, .input, .input, .input,
      .gui .synchronize, .input, .input, .input] = some (s, log) ∧
    s.Settled ∧ s.gui.syncCheckBox = false ∧ s.clientMonitor.forceSync = true ∧
    ¬ AlwaysLogged step Obeyed [] fresh [.gui .synchronize, .input, .input, .input,
      .gui .synchronize, .input, .input, .input] := by
  refine ⟨_, _, rfl, ?_, rfl, rfl, ?_⟩
  · decide
  · decide +kernel

end Settings

end NetCam.Client
