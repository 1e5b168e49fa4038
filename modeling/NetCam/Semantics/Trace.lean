import Mathlib.Data.List.Basic

/-! Runs of an action-driven transition system with an ordered event log.

All choice is in the actions: an action is impossible in a state, or it has one
successor and logs some events. A thread that is blocked is an impossible action,
so an interleaving is a list of actions and every prefix of a run is a run.
-/

set_option autoImplicit false

namespace NetCam.Semantics

variable {σ α ε : Type}

/-- One action: none when it cannot happen, else the next state and the events. -/
abbrev Step (σ α ε : Type) := σ → α → Option (σ × List ε)

def run (step : Step σ α ε) (s : σ) : List α → Option (σ × List ε)
  | [] => some (s, [])
  | a :: rest =>
    match step s a with
    | none => none
    | some (t, es) =>
      match run step t rest with
      | none => none
      | some (u, fs) => some (u, es ++ fs)

/-- Every action of the run is taken in a state that the guard admits for it. -/
def Guarded (step : Step σ α ε) (guard : σ → α → Prop) (s : σ) : List α → Prop
  | [] => True
  | a :: rest => guard s a ∧
    match step s a with
    | none => True
    | some (t, _) => Guarded step guard t rest

/-- The property holds in the first state of the run and in every state it reaches. -/
def Always (step : Step σ α ε) (P : σ → Prop) (s : σ) : List α → Prop
  | [] => P s
  | a :: rest => P s ∧
    match step s a with
    | none => True
    | some (t, _) => Always step P t rest

/-- The same for a property of the log so far and the state. -/
def AlwaysLogged (step : Step σ α ε) (P : List ε → σ → Prop) (log : List ε) (s : σ) : List α → Prop
  | [] => P log s
  | a :: rest => P log s ∧
    match step s a with
    | none => True
    | some (t, es) => AlwaysLogged step P (log ++ es) t rest

def CanReach (step : Step σ α ε) (goal : σ → Prop) (s : σ) : Prop :=
  ∃ as t log, run step s as = some (t, log) ∧ goal t

/-- A law about every event of a log and what was logged before it. -/
def Accounted (P : List ε → ε → Prop) (log : List ε) : Prop :=
  ∀ before e after, log = before ++ e :: after → P before e

/-- The same runs, logging what is seen of each step instead of its events. -/
def observe {δ : Type} (step : Step σ α ε) (view : σ → α → List δ) : Step σ α δ := fun s a =>
  match step s a with
  | some (t, _) => some (t, view s a)
  | none => none

instance decidableGuarded (step : Step σ α ε) (guard : σ → α → Prop)
    [∀ s a, Decidable (guard s a)] (s : σ) (as : List α) : Decidable (Guarded step guard s as) :=
  match as with
  | [] => .isTrue trivial
  | a :: rest =>
    have : Decidable (match step s a with
        | none => True
        | some (t, _) => Guarded step guard t rest) :=
      match step s a with
      | none => .isTrue trivial
      | some (t, _) => decidableGuarded step guard t rest
    inferInstanceAs (Decidable (_ ∧ _))

instance decidableAlways (step : Step σ α ε) (P : σ → Prop) [DecidablePred P] (s : σ)
    (as : List α) : Decidable (Always step P s as) :=
  match as with
  | [] => inferInstanceAs (Decidable (P s))
  | a :: rest =>
    have : Decidable (match step s a with
        | none => True
        | some (t, _) => Always step P t rest) :=
      match step s a with
      | none => .isTrue trivial
      | some (t, _) => decidableAlways step P t rest
    inferInstanceAs (Decidable (_ ∧ _))

instance decidableAlwaysLogged (step : Step σ α ε) (P : List ε → σ → Prop)
    [∀ log s, Decidable (P log s)] (log : List ε) (s : σ) (as : List α) :
    Decidable (AlwaysLogged step P log s as) :=
  match as with
  | [] => inferInstanceAs (Decidable (P log s))
  | a :: rest =>
    have : Decidable (match step s a with
        | none => True
        | some (t, es) => AlwaysLogged step P (log ++ es) t rest) :=
      match step s a with
      | none => .isTrue trivial
      | some (t, es) => decidableAlwaysLogged step P (log ++ es) t rest
    inferInstanceAs (Decidable (_ ∧ _))

section
variable (step : Step σ α ε)

@[simp] theorem run_nil (s : σ) : run step s [] = some (s, []) := rfl

theorem run_cons_iff {s u : σ} {a : α} {rest : List α} {log : List ε} :
    run step s (a :: rest) = some (u, log) ↔
      ∃ t es fs, step s a = some (t, es) ∧ run step t rest = some (u, fs) ∧ log = es ++ fs := by
  constructor
  · intro ran
    simp only [run] at ran
    split at ran
    · cases ran
    · next t es taken =>
      split at ran
      · cases ran
      · next v fs tail =>
        cases ran
        exact ⟨t, es, fs, taken, tail, rfl⟩
  · rintro ⟨t, es, fs, taken, tail, rfl⟩
    simp only [run, taken, tail]

theorem run_append_iff {s u : σ} {as bs : List α} {log : List ε} :
    run step s (as ++ bs) = some (u, log) ↔
      ∃ t es fs, run step s as = some (t, es) ∧ run step t bs = some (u, fs) ∧ log = es ++ fs := by
  induction as generalizing s log with
  | nil =>
    constructor
    · intro ran
      exact ⟨s, [], log, rfl, ran, rfl⟩
    · rintro ⟨t, es, fs, start, ran, rfl⟩
      cases start
      exact ran
  | cons a rest ih =>
    rw [List.cons_append, run_cons_iff]
    constructor
    · rintro ⟨t, es, fs, taken, tail, rfl⟩
      obtain ⟨v, es', fs', middle, last, rfl⟩ := ih.mp tail
      exact ⟨v, es ++ es', fs', (run_cons_iff step).mpr ⟨t, es, es', taken, middle, rfl⟩, last,
        (List.append_assoc es es' fs').symm⟩
    · rintro ⟨v, es, fs, first, last, rfl⟩
      obtain ⟨t, es', fs', taken, middle, rfl⟩ := (run_cons_iff step).mp first
      exact ⟨t, es', fs' ++ fs, taken, ih.mpr ⟨v, fs', fs, middle, last, rfl⟩,
        List.append_assoc es' fs' fs⟩

theorem run_singleton_iff {s u : σ} {a : α} {log : List ε} :
    run step s [a] = some (u, log) ↔ step s a = some (u, log) := by
  rw [run_cons_iff]
  constructor
  · rintro ⟨t, es, fs, taken, tail, rfl⟩
    cases tail
    rw [List.append_nil]
    exact taken
  · intro taken
    exact ⟨u, log, [], taken, rfl, (List.append_nil log).symm⟩

/-- Invariant rule over runs whose steps meet a guard. The invariant may mention the
actions taken and the events logged so far, starting from earlier ones. -/
theorem run_invariant_of_guarded (guard : σ → α → Prop) (P : List α → List ε → σ → Prop)
    (next : ∀ done log s a t es, P done log s → guard s a → step s a = some (t, es) →
      P (done ++ [a]) (log ++ es) t)
    {s u : σ} {done as : List α} {log es : List ε} (start : P done log s)
    (guarded : Guarded step guard s as) (ran : run step s as = some (u, es)) :
    P (done ++ as) (log ++ es) u := by
  induction as generalizing s done log es with
  | nil =>
    cases ran
    rw [List.append_nil, List.append_nil]
    exact start
  | cons a rest ih =>
    obtain ⟨t, es', fs, taken, tail, rfl⟩ := (run_cons_iff step).mp ran
    obtain ⟨admitted, guarded⟩ := guarded
    simp only [taken] at guarded
    have later := ih (next done log s a t es' start admitted taken) guarded tail
    rw [List.append_assoc, List.append_assoc] at later
    exact later

theorem guarded_of_forall {guard : σ → α → Prop} {as : List α}
    (admitted : ∀ a ∈ as, ∀ s, guard s a) (s : σ) : Guarded step guard s as := by
  induction as generalizing s with
  | nil => trivial
  | cons a rest ih =>
    refine ⟨admitted a (by simp) s, ?_⟩
    split
    · trivial
    · exact ih (fun b member => admitted b (List.mem_cons_of_mem a member)) _

theorem guarded_and {P Q : σ → α → Prop} {as : List α} {s : σ} (left : Guarded step P s as)
    (right : Guarded step Q s as) : Guarded step (fun s a => P s a ∧ Q s a) s as := by
  induction as generalizing s with
  | nil => trivial
  | cons a rest ih =>
    obtain ⟨admitted, behind⟩ := left
    obtain ⟨other, after⟩ := right
    refine ⟨⟨admitted, other⟩, ?_⟩
    split
    · trivial
    · next moved =>
      rw [moved] at behind after
      exact ih behind after

theorem run_invariant (P : List α → List ε → σ → Prop)
    (next : ∀ done log s a t es, P done log s → step s a = some (t, es) →
      P (done ++ [a]) (log ++ es) t)
    {s u : σ} {as : List α} {es : List ε} (start : P [] [] s)
    (ran : run step s as = some (u, es)) : P as es u :=
  run_invariant_of_guarded step (fun _ _ => True) P
    (fun done log s a t es held _ taken => next done log s a t es held taken) start
    (guarded_of_forall step (fun _ _ _ => trivial) s) ran

/-- The rule for an invariant of the state alone. -/
theorem run_preserves_of_guarded (guard : σ → α → Prop) (P : σ → Prop)
    (next : ∀ s a t es, P s → guard s a → step s a = some (t, es) → P t)
    {s u : σ} {as : List α} {es : List ε} (start : P s)
    (guarded : Guarded step guard s as) (ran : run step s as = some (u, es)) : P u :=
  @run_invariant_of_guarded σ α ε step guard (fun _ _ s => P s)
    (fun _ _ s a t es => next s a t es) s u [] as [] es start guarded ran

theorem of_always {P : σ → Prop} {s u : σ} {as : List α} {es : List ε} (always : Always step P s as)
    (ran : run step s as = some (u, es)) : P u := by
  induction as generalizing s es with
  | nil =>
    cases ran
    exact always
  | cons a rest ih =>
    obtain ⟨t, _, _, taken, tail, _⟩ := (run_cons_iff step).mp ran
    have later := always.2
    rw [taken] at later
    exact ih later tail

/-- A logged property holds throughout a run precisely when every action is admitted, if
an invariant makes the guard exact for one step. -/
theorem alwaysLogged_iff_guarded {guard : σ → α → Prop} {P Inv : List ε → σ → Prop}
    (idle : ∀ log s a, Inv log s → P log s → step s a = none → guard s a)
    (sharp : ∀ log s a t es, Inv log s → P log s → step s a = some (t, es) →
      (P (log ++ es) t ↔ guard s a))
    (next : ∀ log s a t es, Inv log s → P log s → step s a = some (t, es) → Inv (log ++ es) t)
    {log : List ε} {s : σ} (sound : Inv log s) (start : P log s) (as : List α) :
    AlwaysLogged step P log s as ↔ Guarded step guard s as := by
  induction as generalizing log s with
  | nil => exact iff_of_true start trivial
  | cons a rest ih =>
    simp only [AlwaysLogged, Guarded]
    cases taken : step s a with
    | none => exact iff_of_true ⟨start, trivial⟩ ⟨idle log s a sound start taken, trivial⟩
    | some result =>
      obtain ⟨t, es⟩ := result
      have law := sharp log s a t es sound start taken
      have kept := next log s a t es sound start taken
      constructor
      · rintro ⟨_, always⟩
        have held : P (log ++ es) t := by
          cases rest with
          | nil => exact always
          | cons b more => exact always.1
        exact ⟨law.mp held, (ih kept held).mp always⟩
      · rintro ⟨admitted, guarded⟩
        exact ⟨start, (ih kept (law.mpr admitted)).mpr guarded⟩

/-- Two guards that are the same under an invariant admit the same runs. -/
theorem guarded_iff_guarded_of_inv {property guard : σ → α → Prop} {Inv : σ → Prop}
    (same : ∀ s a, Inv s → (property s a ↔ guard s a))
    (next : ∀ s a t es, Inv s → guard s a → step s a = some (t, es) → Inv t)
    {s : σ} (sound : Inv s) (as : List α) : Guarded step property s as ↔ Guarded step guard s as := by
  induction as generalizing s with
  | nil => rfl
  | cons a rest ih =>
    simp only [Guarded, same s a sound]
    apply and_congr_right
    intro admitted
    cases taken : step s a with
    | none => rfl
    | some result => exact ih (next s a _ _ sound admitted taken)

theorem of_guarded {guard : σ → α → Prop} {s t : σ} {as : List α} {a : α} {es : List ε}
    (guarded : Guarded step guard s (as ++ [a])) (ran : run step s as = some (t, es)) : guard t a := by
  induction as generalizing s es with
  | nil =>
    cases ran
    exact guarded.1
  | cons b rest ih =>
    obtain ⟨u, _, _, taken, tail, _⟩ := (run_cons_iff step).mp ran
    have later := guarded.2
    rw [taken] at later
    exact ih later tail

theorem alwaysLogged_iff_always {P : σ → Prop} {log : List ε} {s : σ} (as : List α) :
    AlwaysLogged step (fun _ => P) log s as ↔ Always step P s as := by
  induction as generalizing log s with
  | nil => rfl
  | cons a rest ih =>
    simp only [AlwaysLogged, Always]
    cases step s a with
    | none => rfl
    | some next => exact and_congr_right fun _ => ih

/-- A guard that is exact for one step under an invariant is exact for the whole run: the
property holds in every state reached precisely when every action is admitted. -/
theorem always_iff_guarded_of_inv {guard : σ → α → Prop} {P Inv : σ → Prop}
    (idle : ∀ s a, Inv s → P s → step s a = none → guard s a)
    (sharp : ∀ s a t es, Inv s → P s → step s a = some (t, es) → (P t ↔ guard s a))
    (next : ∀ s a t es, Inv s → step s a = some (t, es) → Inv t)
    {s : σ} (sound : Inv s) (start : P s) (as : List α) :
    Always step P s as ↔ Guarded step guard s as := by
  rw [← alwaysLogged_iff_always step as]
  exact @alwaysLogged_iff_guarded _ _ ε step guard (fun _ => P) (fun _ => Inv)
    (fun _ => idle) (fun _ => sharp) (fun _ s a t es sound _ => next s a t es sound) [] s sound start as

theorem always_iff_guarded {guard : σ → α → Prop} {P : σ → Prop}
    (idle : ∀ s a, P s → step s a = none → guard s a)
    (sharp : ∀ s a t es, P s → step s a = some (t, es) → (P t ↔ guard s a))
    {s : σ} (start : P s) (as : List α) :
    Always step P s as ↔ Guarded step guard s as :=
  @always_iff_guarded_of_inv _ _ _ step guard P (fun _ => True) (fun s a _ => idle s a)
    (fun s a t es _ => sharp s a t es) (fun _ _ _ _ _ _ => trivial) s trivial start as

/-- A goal is reached from wherever some step brings it nearer. -/
theorem canReach_of_rank {P goal : σ → Prop} (rank : σ → Nat)
    (progress : ∀ s, P s → ¬ goal s → ∃ a t es, step s a = some (t, es) ∧ P t ∧ rank t < rank s)
    {s : σ} (held : P s) : CanReach step goal s := by
  induction distance : rank s using Nat.strongRecOn generalizing s with
  | ind n ih =>
    by_cases there : goal s
    · exact ⟨[], s, [], rfl, there⟩
    · obtain ⟨a, t, es, taken, kept, nearer⟩ := progress s held there
      obtain ⟨as, u, fs, ran, reached⟩ := ih (rank t) (distance ▸ nearer) kept rfl
      exact ⟨a :: as, u, es ++ fs, (run_cons_iff step).mpr ⟨t, es, fs, taken, ran, rfl⟩, reached⟩

theorem canReach_of_run {goal : σ → Prop} {s t : σ} {as : List α} {log : List ε}
    (ran : run step s as = some (t, log)) (reach : CanReach step goal t) : CanReach step goal s := by
  obtain ⟨bs, u, more, later, reached⟩ := reach
  exact ⟨as ++ bs, u, log ++ more, (run_append_iff step).mpr ⟨t, log, more, ran, later, rfl⟩, reached⟩

theorem not_canReach_of_kept {P goal : σ → Prop}
    (next : ∀ s a t es, P s → step s a = some (t, es) → P t) (never : ∀ s, P s → ¬ goal s)
    {s : σ} (held : P s) : ¬ CanReach step goal s := by
  rintro ⟨as, t, log, ran, reached⟩
  exact never t (run_invariant step (fun _ _ s => P s) (fun _ _ s a t es => next s a t es) held ran) reached

/-- A system whose steps another one can follow, with the same events, has runs that it follows. -/
theorem run_follows {τ : Type} (other : Step τ α ε) (R : σ → τ → Prop)
    (follows : ∀ s h a t es, R s h → step s a = some (t, es) → ∃ g, other h a = some (g, es) ∧ R t g)
    {s t : σ} {h : τ} {as : List α} {log : List ε} (related : R s h)
    (ran : run step s as = some (t, log)) : ∃ g, run other h as = some (g, log) ∧ R t g := by
  induction as generalizing s h log with
  | nil =>
    cases ran
    exact ⟨h, rfl, related⟩
  | cons a rest ih =>
    obtain ⟨u, es, fs, taken, tail, rfl⟩ := (run_cons_iff step).mp ran
    obtain ⟨g, followed, later⟩ := follows s h a u es related taken
    obtain ⟨last, others, ends⟩ := ih later tail
    exact ⟨last, (run_cons_iff other).mpr ⟨g, es, fs, followed, others, rfl⟩, ends⟩

theorem accounted_nil (P : List ε → ε → Prop) : Accounted P [] := by
  intro before e after split
  have lengths := congrArg List.length split
  simp at lengths

theorem accounted_concat {P : List ε → ε → Prop} {log : List ε} {e : ε} (all : Accounted P log)
    (last : P log e) : Accounted P (log ++ [e]) := by
  intro before f after split
  rcases List.eq_nil_or_concat after with rfl | ⟨front, g, rfl⟩
  · obtain ⟨rfl, same⟩ := List.append_inj' split rfl
    cases same
    exact last
  · rw [List.concat_eq_append, ← List.cons_append, ← List.append_assoc] at split
    obtain ⟨earlier, _⟩ := List.append_inj' split rfl
    exact all before f front earlier

theorem accounted_append_of_forall {P : List ε → ε → Prop} {log es : List ε} (all : Accounted P log)
    (always : ∀ e ∈ es, ∀ before, P before e) : Accounted P (log ++ es) := by
  induction es generalizing log with
  | nil => rwa [List.append_nil]
  | cons e rest ih =>
    have later := ih (accounted_concat all (always e (by simp) log))
      fun f member => always f (List.mem_cons_of_mem e member)
    rwa [List.append_assoc] at later

theorem run_map {τ β δ : Type} (other : Step τ β δ) (f : σ → τ) (g : α → β) (h : ε → δ)
    (commutes : ∀ s a, other (f s) (g a) = (step s a).map fun r => (f r.1, r.2.map h))
    (s : σ) (as : List α) :
    run other (f s) (as.map g) = (run step s as).map fun r => (f r.1, r.2.map h) := by
  induction as generalizing s with
  | nil => rfl
  | cons a rest ih =>
    simp only [List.map_cons, run, commutes]
    cases step s a with
    | none => rfl
    | some next =>
      obtain ⟨t, es⟩ := next
      simp only [Option.map_some, ih]
      cases run step t rest with
      | none => rfl
      | some last => simp

theorem observe_eq_some_iff {δ : Type} {view : σ → α → List δ} {s t : σ} {a : α} {seen : List δ} :
    observe step view s a = some (t, seen) ↔ ∃ es, step s a = some (t, es) ∧ seen = view s a := by
  unfold observe
  constructor
  · intro taken
    split at taken
    · next t es stepped =>
      cases taken
      exact ⟨es, stepped, rfl⟩
    · cases taken
  · rintro ⟨es, stepped, rfl⟩
    rw [stepped]

end

end NetCam.Semantics
