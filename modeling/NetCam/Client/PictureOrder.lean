import NetCam.Client.Display
import NetCam.Client.PictureBuffers

/-! The way of a picture from `putPicture` to its panel.

Each camera has its own queue: the pictures already shown, the one its `Display` thread
is busy with, and the buffer. Nothing another thread does moves a picture in it.
-/

set_option autoImplicit false

namespace NetCam.Client

open Semantics

def Event.putFor (c : Cam) : Event → Option Picture
  | .put d pic => if d = c then some pic else none
  | .got _ _ => none

def Event.gotFor (c : Cam) : Event → Option Picture
  | .put _ _ => none
  | .got d pic => if d = c then some pic else none

namespace ClientMonitor

def Stocked (cm : ClientMonitor) : Prop := ∀ c, cm.available c = true → cm.buffer c ≠ []

/-- Pictures enter a buffer at the end and leave it at the front. -/
theorem step_queue {cm next : ClientMonitor} {call : Call} {es : List Event}
    (taken : cm.step call = some (next, es)) (c : Cam) :
    cm.buffer c ++ es.filterMap (Event.putFor c) = es.filterMap (Event.gotFor c) ++ next.buffer c := by
  cases call with
  | putPicture now pic d =>
    obtain ⟨done, rfl⟩ := step_putPicture taken
    rw [(put_buffer done).1]
    by_cases own : d = c
    · subst own
      simp [Event.putFor, Event.gotFor]
    · simp [Event.putFor, Event.gotFor, own, Ne.symm own]
  | getPicture d =>
    obtain ⟨pic, rest, _, held, rfl, rfl⟩ := step_getPicture taken
    rw [take_buffer]
    by_cases own : d = c
    · subst own
      simp [Event.putFor, Event.gotFor, held]
    · simp [Event.putFor, Event.gotFor, own, Ne.symm own]
  | setForcedSync _ | setMode _ | setMotionDetected _ _ =>
    obtain ⟨rfl, buffer, _⟩ := step_keeps_queues taken (by simp) (by simp)
    simp [buffer]

theorem step_stocked {cm next : ClientMonitor} {call : Call} {es : List Event}
    (stocked : cm.Stocked) (taken : cm.step call = some (next, es)) : next.Stocked := by
  intro c
  cases call with
  | putPicture now pic d =>
    obtain ⟨done, rfl⟩ := step_putPicture taken
    obtain ⟨buffer, available⟩ := put_buffer done
    rw [buffer, available]
    rcases eq_or_ne c d with rfl | differ
    · simp
    · rw [Function.update_of_ne differ, Function.update_of_ne differ]
      exact stocked c
  | getPicture d =>
    obtain ⟨pic, rest, _, _, rfl, rfl⟩ := step_getPicture taken
    rw [take_available, take_buffer]
    rcases eq_or_ne c d with rfl | differ
    · simp
    · rw [Function.update_of_ne differ, Function.update_of_ne differ]
      exact stocked c
  | setForcedSync _ | setMode _ | setMotionDetected _ _ =>
    obtain ⟨_, buffer, available⟩ := step_keeps_queues taken (by simp) (by simp)
    rw [buffer, available]
    exact stocked c

theorem stocked_never_throws {cm : ClientMonitor} (stocked : cm.Stocked) (c : Cam) :
    cm.getPicture c.nbr ≠ .error .noSuchElement := by
  have there := stocked c
  rw [getPicture_nbr]
  cases up : cm.available c with
  | false => simp
  | true =>
    cases held : cm.buffer c with
    | nil => exact absurd held (there up)
    | cons pic rest => simp

end ClientMonitor

def DisplayEvent.putFor (c : Cam) : DisplayEvent → Option Picture
  | .monitor event => event.putFor c
  | _ => none

def DisplayEvent.gotFor (c : Cam) : DisplayEvent → Option Picture
  | .monitor event => event.gotFor c
  | _ => none

def DisplayEvent.shownOn (c : Cam) : DisplayEvent → Option (Option Picture)
  | .updateImage d image => if d = c then some image else none
  | _ => none

def putsFor (c : Cam) (log : List DisplayEvent) : List Picture := log.filterMap (DisplayEvent.putFor c)

def gotsFor (c : Cam) (log : List DisplayEvent) : List Picture := log.filterMap (DisplayEvent.gotFor c)

def shownOn (c : Cam) (log : List DisplayEvent) : List (Option Picture) :=
  log.filterMap (DisplayEvent.shownOn c)

namespace Position

-- The picture taken out of the buffer and not yet shown.
def inFlight : Position → List Picture
  | update pic | waiting pic _ | showing pic => [pic]
  | _ => []

def entered : Position → Option Picture
  | waiting pic _ | showing pic => some pic
  | _ => none

end Position

namespace Displays

structure InOrder (log : List DisplayEvent) (s : Displays) : Prop where
  queue : ∀ c, putsFor c log = gotsFor c log ++ s.clientMonitor.buffer c
  taken : ∀ c, (gotsFor c log).map some = shownOn c log ++ ((s.position c).inFlight).map some
  current : ∀ c pic, (s.position c).entered = some pic → s.displayMonitor.pic c = some pic
  stocked : s.clientMonitor.Stocked

theorem inOrder_fresh : fresh.InOrder [] where
  queue c := by cases c <;> rfl
  taken c := rfl
  current c pic entered := by cases entered
  stocked c up := by cases c <;> cases up

variable {s next : Displays} {log : List DisplayEvent}

theorem InOrder.call (order : InOrder log s) {call : Call} {monitor : ClientMonitor}
    {es : List Event} (taken : s.clientMonitor.step call = some (monitor, es))
    (get : ∀ c, call ≠ .getPicture c) :
    InOrder (log ++ es.map .monitor) { s with clientMonitor := monitor } := by
  have none_got : ∀ c, es.filterMap (Event.gotFor c) = [] := by
    intro c
    cases call with
    | putPicture now pic d =>
      obtain ⟨_, rfl⟩ := ClientMonitor.step_putPicture taken
      rfl
    | getPicture d => exact absurd rfl (get d)
    | setForcedSync _ | setMode _ | setMotionDetected _ _ => cases taken; rfl
  have puts : ∀ c, putsFor c (log ++ es.map .monitor) =
      putsFor c log ++ es.filterMap (Event.putFor c) := by
    intro c
    simp only [putsFor, List.filterMap_append, List.filterMap_map]
    rfl
  have gots : ∀ c, gotsFor c (log ++ es.map .monitor) = gotsFor c log := by
    intro c
    rw [← List.append_nil (gotsFor c log), ← none_got c]
    simp only [gotsFor, List.filterMap_append, List.filterMap_map]
    rfl
  have shown : ∀ c, shownOn c (log ++ es.map .monitor) = shownOn c log := by
    intro c
    simp [shownOn, List.filterMap_append, List.filterMap_map, Function.comp_def, DisplayEvent.shownOn]
  refine ⟨?_, ?_, order.current, ClientMonitor.step_stocked order.stocked taken⟩
  · intro c
    have kept := ClientMonitor.step_queue taken c
    rw [none_got c, List.nil_append] at kept
    rw [puts, gots, order.queue c, List.append_assoc, kept]
  · intro c
    rw [gots, shown]
    exact order.taken c

theorem InOrder.move (order : InOrder log s) {c : Cam} {position : Position}
    {monitor : DisplayMonitor} {owner : Option Cam}
    (same : position.inFlight = (s.position c).inFlight)
    (others : ∀ d, d ≠ c → monitor.pic d = s.displayMonitor.pic d)
    (own : ∀ pic, position.entered = some pic → monitor.pic c = some pic) :
    InOrder log ({ s with displayMonitor := monitor, owner := owner }.goto c position) := by
  refine ⟨order.queue, ?_, ?_, order.stocked⟩
  · intro d
    simp only [goto]
    rcases eq_or_ne d c with rfl | differ
    · rw [Function.update_self, same]
      exact order.taken d
    · rw [Function.update_of_ne differ]
      exact order.taken d
  · intro d pic
    simp only [goto]
    rcases eq_or_ne d c with rfl | differ
    · rw [Function.update_self]
      exact own pic
    · rw [Function.update_of_ne differ, others d differ]
      exact order.current d pic

theorem InOrder.get (order : InOrder log s) {c : Cam} {pic : Picture} {monitor : ClientMonitor}
    (there : s.position c = .getPicture)
    (got : s.clientMonitor.getPicture c.nbr = .ok (pic, monitor)) :
    InOrder (log ++ [.monitor (.got c pic)])
      ({ s with clientMonitor := monitor }.goto c (.update pic)) := by
  have taken : s.clientMonitor.step (.getPicture c) = some (monitor, [.got c pic]) := by
    simp only [ClientMonitor.step, got]
  have puts : ∀ d, putsFor d (log ++ [.monitor (.got c pic)]) = putsFor d log := by
    intro d
    simp [putsFor, DisplayEvent.putFor, Event.putFor]
  have gots : ∀ d, gotsFor d (log ++ [.monitor (.got c pic)]) =
      gotsFor d log ++ [Event.got c pic].filterMap (Event.gotFor d) := by
    intro d
    rw [gotsFor, List.filterMap_append]
    rfl
  have shown : ∀ d, shownOn d (log ++ [.monitor (.got c pic)]) = shownOn d log := by
    intro d
    simp [shownOn, DisplayEvent.shownOn]
  refine ⟨?_, ?_, ?_, ClientMonitor.step_stocked order.stocked taken⟩
  -- the picture goes from the front of the buffer to the end of those taken
  · intro d
    have kept := ClientMonitor.step_queue taken d
    rw [puts, gots, order.queue d, List.append_assoc]
    simp only [goto]
    rw [← kept]
    simp [Event.putFor]
  · intro d
    rw [gots, shown, List.map_append, order.taken d]
    simp only [goto]
    rcases eq_or_ne d c with rfl | differ
    · simp [Function.update_self, there, Position.inFlight, Event.gotFor]
    · simp [Function.update_of_ne differ, Event.gotFor, Ne.symm differ]
  · intro d
    simp only [goto]
    rcases eq_or_ne d c with rfl | differ
    · rw [Function.update_self]
      intro _ entered
      cases entered
    · rw [Function.update_of_ne differ]
      exact order.current d

theorem InOrder.show (order : InOrder log s) {c : Cam} {pic : Picture} (clock : Readings)
    (there : s.position c = .showing pic) :
    let update := s.displayMonitor.finishUpdate c clock pic
    InOrder (log ++ [.updateImage c update.1, .setDelayLabel c update.2.1])
      ({ s with displayMonitor := update.2.2, owner := none }.goto c .getSyncMode) := by
  intro update
  have image : update.1 = some pic := order.current c pic (by rw [there]; rfl)
  have pics : update.2.2.pic = s.displayMonitor.pic := DisplayMonitor.finishUpdate_pic ..
  have puts : ∀ d, putsFor d (log ++ [.updateImage c update.1, .setDelayLabel c update.2.1]) =
      putsFor d log := by
    intro d
    simp [putsFor, DisplayEvent.putFor]
  have gots : ∀ d, gotsFor d (log ++ [.updateImage c update.1, .setDelayLabel c update.2.1]) =
      gotsFor d log := by
    intro d
    simp [gotsFor, DisplayEvent.gotFor]
  refine ⟨?_, ?_, ?_, order.stocked⟩
  · intro d
    rw [puts, gots]
    exact order.queue d
  · intro d
    rw [gots, order.taken d, image]
    simp only [goto]
    rcases eq_or_ne d c with rfl | differ
    · simp [Function.update_self, there, Position.inFlight, shownOn, DisplayEvent.shownOn]
    · simp [Function.update_of_ne differ, shownOn, DisplayEvent.shownOn, Ne.symm differ]
  · intro d
    simp only [goto, pics]
    rcases eq_or_ne d c with rfl | differ
    · rw [Function.update_self]
      intro _ entered
      cases entered
    · rw [Function.update_of_ne differ]
      exact order.current d

theorem InOrder.enters (order : InOrder log s) {c : Cam} {pic : Picture} (at_ : s.position c = .update pic)
    (clock : Readings) (position : Position) (owner : Option Cam) (holds : position.inFlight = [pic])
    (entered : position.entered = some pic) :
    InOrder log ({ s with
      displayMonitor := (s.displayMonitor.enterUpdate c clock pic).2
      owner := owner }.goto c position) := by
  -- the picture is written to the field of this camera alone
  have pics := s.displayMonitor.enterUpdate_pic c clock pic
  refine order.move (by rw [at_, holds]; rfl) ?_ ?_
  · intro d differ
    rw [pics d, if_neg differ]
  · intro own there
    cases entered.symm.trans there
    rw [pics c, if_pos rfl]

theorem InOrder.display (order : InOrder log s) {c : Cam} {clock : Readings}
    {es : List DisplayEvent} (taken : s.display c clock = some (next, es)) :
    InOrder (log ++ es) next := by
  unfold Displays.display at taken
  split at taken
  · next at_ =>
    cases taken
    rw [List.append_nil]
    exact order.move (by rw [at_]; rfl) (fun _ _ => rfl) nofun
  · next syncMode at_ =>
    cases taken
    rw [List.append_nil]
    refine order.move (by rw [at_]; rfl) ?_ nofun
    intro d _
    cases d <;> rfl
  · next at_ =>
    cases taken
    rw [List.append_nil]
    exact order.move (by rw [at_]; rfl) (fun _ _ => rfl) nofun
  · next mode at_ =>
    cases taken
    rw [List.append_nil]
    refine order.move (by rw [at_]; rfl) ?_ nofun
    intro d _
    cases d <;> rfl
  · next at_ =>
    split at taken
    · next pic monitor got =>
      cases taken
      exact order.get at_ got
    · cases taken
  · next pic at_ =>
    split at taken
    · split at taken
      · next timeout monitor entered =>
        cases taken
        have enters := order.enters at_ clock (.waiting pic timeout) s.owner rfl rfl
        rw [entered] at enters
        rw [List.append_nil]
        exact enters
      · next monitor entered =>
        cases taken
        have enters := order.enters at_ clock (.showing pic) (some c) rfl rfl
        rw [entered] at enters
        rw [List.append_nil]
        exact enters
    · cases taken
  · next pic timeout at_ =>
    split at taken
    · cases taken
      rw [List.append_nil]
      refine order.move (by rw [at_]; rfl) (fun _ _ => rfl) ?_
      rintro _ ⟨⟩
      exact order.current c pic (by rw [at_]; rfl)
    · cases taken
  · next pic at_ =>
    cases taken
    exact order.show clock at_

theorem inOrder_step {action : DisplayAction} {es : List DisplayEvent} (order : InOrder log s)
    (taken : step s action = some (next, es)) : InOrder (log ++ es) next := by
  cases action with
  | call call =>
    cases call with
    | getPicture c => cases taken
    | putPicture _ _ _ | setForcedSync _ | setMode _ | setMotionDetected _ _ =>
      simp only [step] at taken
      split at taken
      · next monitor es called =>
        cases taken
        exact order.call called (by simp)
      · cases taken
  | display c clock => exact order.display taken

end Displays

open Displays

/-- At every moment of every interleaving, each panel has shown the first pictures put for
its camera, each once and in order, and no buffer is ever read empty. -/
theorem panels_show_in_order {actions : List DisplayAction} {s : Displays} {log : List DisplayEvent}
    (ran : run Displays.step .fresh actions = some (s, log)) (c : Cam) :
    shownOn c log <+: (putsFor c log).map some ∧
      s.clientMonitor.getPicture c.nbr ≠ .error .noSuchElement := by
  have order : InOrder log s := run_invariant Displays.step (fun _ log s => InOrder log s)
    (fun _ _ _ _ _ _ order taken => inOrder_step order taken) inOrder_fresh ran
  refine ⟨?_, ClientMonitor.stocked_never_throws order.stocked c⟩
  rw [order.queue c, List.map_append, order.taken c, List.append_assoc]
  exact List.prefix_append _ _

def bothPanels : List DisplayAction :=
  [.call (.putPicture 1000 ⟨[1], 0⟩ .one), .call (.putPicture 1000 ⟨[2], 0⟩ .two)] ++
    List.replicate 7 (.display .one ⟨1010, 1010, 1010, 1010, 1010⟩) ++
    List.replicate 8 (.display .two ⟨1015, 1020, 1020, 1020, 1020⟩)

theorem panels_show_after_wait : ∃ s log,
    run Displays.step .fresh bothPanels = some (s, log) ∧ shownOn .two log = [some ⟨[2], 1000⟩] ∧
      shownOn .two log <+: (putsFor .two log).map some ∧
      s.clientMonitor.getPicture Cam.two.nbr ≠ .error .noSuchElement := by
  have finishes : (run Displays.step .fresh bothPanels).map (fun reached => shownOn .two reached.2) =
      some [some ⟨[2], 1000⟩] := by decide +kernel
  obtain ⟨⟨s, log⟩, ran, shown⟩ := Option.map_eq_some_iff.mp finishes
  exact ⟨s, log, ran, shown, panels_show_in_order ran .two⟩

end NetCam.Client
