import Mathlib.Data.List.TakeWhile
import Mathlib.Order.Lattice

/-! Detecting that two streams of time stamps have come apart.

A tracker counts, for each stream, the stamps that lie ahead of the other stream's
newest stamp by more than a tolerance. A stamp that is not ahead clears the counts,
and reaching the limit ends synchrony. `Tracker.arrive_drops_iff` says what the
counting amounts to in terms of the arrivals alone.
-/

set_option autoImplicit false

namespace NetCam.Semantics.Synchrony

/-- An index type with exactly two members. -/
class Paired (ι : Type) where
  peer : ι → ι
  peer_peer : ∀ i, peer (peer i) = i
  peer_ne : ∀ i, peer i ≠ i
  eq_or_eq_peer : ∀ i j : ι, j = i ∨ j = peer i

export Paired (peer)

/-- The latest stamp that still counts as together with a given newest stamp. -/
structure Tolerance (T : Type) [LinearOrder T] where
  horizon : T → T
  monotone : Monotone horizon

variable {ι T : Type} [DecidableEq ι]

def stampsOf (history : List (ι × T)) (i : ι) : List T :=
  history.filterMap fun a => if a.1 = i then some a.2 else none

def newest (history : List (ι × T)) (i : ι) : Option T := (stampsOf history i).getLast?

@[simp] theorem stampsOf_nil (i : ι) : stampsOf ([] : List (ι × T)) i = [] := rfl

@[simp] theorem stampsOf_append (xs ys : List (ι × T)) (i : ι) :
    stampsOf (xs ++ ys) i = stampsOf xs i ++ stampsOf ys i := List.filterMap_append

@[simp] theorem stampsOf_cons_self (i : ι) (t : T) (rest : List (ι × T)) :
    stampsOf ((i, t) :: rest) i = t :: stampsOf rest i := by simp [stampsOf]

theorem stampsOf_cons_of_ne {i j : ι} (differ : i ≠ j) (t : T) (rest : List (ι × T)) :
    stampsOf ((i, t) :: rest) j = stampsOf rest j := by simp [stampsOf, differ]

theorem stampsOf_concat_of_ne {i j : ι} (differ : i ≠ j) (history : List (ι × T)) (t : T) :
    stampsOf (history ++ [(i, t)]) j = stampsOf history j := by
  simp [stampsOf_cons_of_ne differ]

@[simp] theorem newest_concat_self (history : List (ι × T)) (i : ι) (t : T) :
    newest (history ++ [(i, t)]) i = some t := by simp [newest]

theorem newest_concat_of_ne {i j : ι} (differ : i ≠ j) (history : List (ι × T)) (t : T) :
    newest (history ++ [(i, t)]) j = newest history j := by
  simp only [newest, stampsOf_concat_of_ne differ]

theorem stampsOf_split {history : List (ι × T)} {i : ι} {xs ys : List T} {t : T}
    (split : stampsOf history i = xs ++ t :: ys) :
    ∃ before rest, history = before ++ (i, t) :: rest ∧ stampsOf before i = xs ∧
      stampsOf rest i = ys := by
  obtain ⟨early, late, rfl, first, second⟩ := List.filterMap_eq_append_iff.mp split
  obtain ⟨skipped, a, rest, rfl, none, found, rfl⟩ := List.filterMap_eq_cons_iff.mp second
  obtain ⟨j, u⟩ := a
  have same : j = i ∧ u = t := by
    by_cases same : j = i
    · exact ⟨same, by simpa [same] using found⟩
    · simp [same] at found
  obtain ⟨rfl, rfl⟩ := same
  refine ⟨early ++ skipped, rest, by simp, ?_, rfl⟩
  have quiet : stampsOf skipped j = [] := List.filterMap_eq_nil_iff.mpr none
  rw [stampsOf_append, quiet, List.append_nil]
  exact first

variable [LinearOrder T]

def Ordered (history : List (ι × T)) : Prop := ∀ i, (stampsOf history i).Pairwise (· ≤ ·)

theorem Ordered.left {xs ys : List (ι × T)} (ordered : Ordered (xs ++ ys)) : Ordered xs := by
  intro i
  have whole := ordered i
  rw [stampsOf_append] at whole
  exact (List.pairwise_append.mp whole).1

theorem le_getLast {stamps : List T} {t o : T} (sorted : stamps.Pairwise (· ≤ ·))
    (member : t ∈ stamps) (last : stamps.getLast? = some o) : t ≤ o := by
  obtain ⟨early, rfl⟩ := List.getLast?_eq_some_iff.mp last
  rcases List.mem_append.mp member with member | member
  · exact (List.pairwise_append.mp sorted).2.2 t member o (by simp)
  · exact le_of_eq (List.mem_singleton.mp member)

theorem Ordered.newest_mono {xs ys : List (ι × T)} {i : ι} {o o' : T} (ordered : Ordered (xs ++ ys))
    (early : newest xs i = some o) (late : newest (xs ++ ys) i = some o') : o ≤ o' := by
  refine le_getLast (ordered i) ?_ late
  rw [stampsOf_append]
  exact List.mem_append_left _ (List.mem_of_getLast? early)

/-! ### Trimming a list of stamps against a bound -/

theorem lt_of_mem_dropWhile {bound : T} {stamps : List T} (sorted : stamps.Pairwise (· ≤ ·)) :
    ∀ t ∈ stamps.dropWhile (· ≤ bound), bound < t := by
  induction stamps with
  | nil => simp
  | cons first rest ih =>
    obtain ⟨least, sorted⟩ := List.pairwise_cons.mp sorted
    by_cases within : first ≤ bound
    · simpa [within] using ih sorted
    · have beyond : bound < first := lt_of_not_ge within
      simp only [within, decide_false, Bool.false_eq_true, not_false_eq_true,
        List.dropWhile_cons_of_neg]
      intro t member
      rcases List.mem_cons.mp member with rfl | member
      · exact beyond
      · exact beyond.trans_le (least t member)

theorem length_le_dropWhile {bound : T} (early : List T) {late : List T}
    (beyond : ∀ t ∈ late, bound < t) :
    late.length ≤ ((early ++ late).dropWhile (· ≤ bound)).length := by
  have untouched : late.dropWhile (fun t => decide (t ≤ bound)) = late := by
    cases late with
    | nil => rfl
    | cons t rest => simp [not_le_of_gt (beyond t (by simp))]
  rw [List.dropWhile_append]
  split
  · rw [untouched]
  · simp

/-- Stamps beyond the bound at the end of a list outlast an initial part within it. -/
theorem kept_suffix {bound : T} {gone kept early late : List T}
    (same : gone ++ kept = early ++ late) (within : ∀ t ∈ gone, t ≤ bound)
    (beyond : ∀ t ∈ late, bound < t) : ∃ middle, kept = middle ++ late := by
  rcases List.append_eq_append_iff.mp same with ⟨middle, _, rest⟩ | ⟨overlap, first, second⟩
  · exact ⟨middle, rest⟩
  · cases overlap with
    | nil => exact ⟨[], second.symm⟩
    | cons t overlap =>
      have low : t ≤ bound := within t (by rw [first]; simp)
      have high : bound < t := beyond t (by rw [second]; simp)
      exact absurd low (not_le_of_gt high)

section
variable [Paired ι] (tol : Tolerance T)

/-- Beyond the tolerance of the other stream's newest stamp. Without one, vacuously. -/
def Leads (history : List (ι × T)) (a : ι × T) : Prop :=
  ∀ o ∈ newest history (peer a.1), tol.horizon o < a.2

def EachArrival (P : List (ι × T) → ι × T → Prop) (history : List (ι × T)) : List (ι × T) → Prop
  | [] => True
  | a :: rest => P history a ∧ EachArrival P (history ++ [a]) rest

def AllLead (history : List (ι × T)) : List (ι × T) → Prop := EachArrival (Leads tol) history

/-- The last `limit` stamps of stream `i` all lie beyond the other stream's newest one,
and nothing has arrived since the first of them that did not lead. -/
def Overdue (limit : Nat) (history : List (ι × T)) (i : ι) : Prop :=
  ∃ before first rest, history = before ++ (i, first) :: rest ∧
    (stampsOf ((i, first) :: rest) i).length = limit ∧
    (∃ o ∈ newest history (peer i), ∀ t ∈ stampsOf ((i, first) :: rest) i, tol.horizon o < t) ∧
    AllLead tol before ((i, first) :: rest)

omit [DecidableEq ι] [LinearOrder T] [Paired ι] in
theorem eachArrival_append (P : List (ι × T) → ι × T → Prop) (history xs ys : List (ι × T)) :
    EachArrival P history (xs ++ ys) ↔
      EachArrival P history xs ∧ EachArrival P (history ++ xs) ys := by
  induction xs generalizing history with
  | nil => simp [EachArrival]
  | cons a xs ih => simp [EachArrival, ih, and_assoc]

theorem allLead_append (history xs ys : List (ι × T)) :
    AllLead tol history (xs ++ ys) ↔ AllLead tol history xs ∧ AllLead tol (history ++ xs) ys :=
  eachArrival_append (Leads tol) history xs ys

instance decidableEachArrival (P : List (ι × T) → ι × T → Prop) [∀ h a, Decidable (P h a)]
    (history rest : List (ι × T)) : Decidable (EachArrival P history rest) :=
  match rest with
  | [] => .isTrue trivial
  | a :: more =>
    have : Decidable (EachArrival P (history ++ [a]) more) :=
      decidableEachArrival P (history ++ [a]) more
    inferInstanceAs (Decidable (_ ∧ _))

structure Tracker (ι T : Type) where
  forced : Bool
  synced : Bool
  last : ι → Option T
  stamps : ι → List T

namespace Tracker

def clear (s : Tracker ι T) (synced : Bool) : Tracker ι T :=
  { s with synced := synced, stamps := fun _ => [] }

def initial : Tracker ι T := ⟨false, false, fun _ => none, fun _ => []⟩

def force (s : Tracker ι T) : Tracker ι T := { s with forced := true }

-- A stamp on stream `i`, once the other stream's newest stamp `o` is known.
def compare (limit : Nat) (s : Tracker ι T) (i : ι) (t o : T) : Tracker ι T :=
  if s.synced then
    if s.forced ∨ t ≤ tol.horizon o then s.clear true
    else
      -- counted, while older stamps that are within tolerance by now are forgotten
      let kept := (s.stamps i ++ [t]).dropWhile (· ≤ tol.horizon o)
      if limit ≤ kept.length then s.clear false
      else { s with stamps := Function.update s.stamps i kept }
  else if s.forced ∨ (t ≤ tol.horizon o ∧ o ≤ tol.horizon t) then
    { s.clear true with stamps := Function.update (fun _ => []) i [t] }
  else s

def arrive (limit : Nat) (s : Tracker ι T) (i : ι) (t : T) : Tracker ι T :=
  let s' := { s with last := Function.update s.last i (some t) }
  match s.last (peer i) with
  | none => s'
  | some o => s'.compare tol limit i t o

/-- Since the pivot, which did not lead, all arrivals lead. The counted stamps are those
of the pivot and its successors, except for an initial part within tolerance by now. -/
structure Window (s : Tracker ι T) (history before : List (ι × T)) (pivot : ι × T)
    (tail : List (ι × T)) : Prop where
  split : history = before ++ pivot :: tail
  behind : ∃ o ∈ newest before (peer pivot.1), pivot.2 ≤ tol.horizon o
  leads : AllLead tol (before ++ [pivot]) tail
  counted : ∀ i, ∃ gone, stampsOf (pivot :: tail) i = gone ++ s.stamps i ∧
    ∀ t ∈ gone, ∃ o ∈ newest history (peer i), t ≤ tol.horizon o

-- What the tracker knows about the arrivals so far.
structure Consistent (limit : Nat) (s : Tracker ι T) (history : List (ι × T)) : Prop where
  last : ∀ i, s.last i = newest history i
  idle : s.synced = false → ∀ i, s.stamps i = []
  short : ∀ i, (s.stamps i).length < limit
  window : s.synced = true → s.forced = false →
    ∃ before pivot tail, Window tol s history before pivot tail

end Tracker

namespace Tracker
variable {tol} {limit : Nat} {s : Tracker ι T} {history before tail : List (ι × T)} {pivot : ι × T}
  {i : ι} {t o : T}

theorem Window.allLead_concat (window : Window tol s history before pivot tail)
    (leads : Leads tol history (i, t)) : AllLead tol (before ++ [pivot]) (tail ++ [(i, t)]) := by
  rw [allLead_append]
  refine ⟨window.leads, ?_, trivial⟩
  have same : before ++ [pivot] ++ tail = history := by simp [window.split]
  rw [same]
  exact leads

theorem Window.not_leads (window : Window tol s history before pivot tail) :
    ¬ Leads tol before pivot := by
  obtain ⟨o, last, low⟩ := window.behind
  intro leads
  exact absurd low (not_le_of_gt (leads o last))

/-- Everything that was removed from stream `i` so far is within tolerance of the other
stream's newest stamp. -/
theorem Window.counted_concat (window : Window tol s history before pivot tail)
    (newest_eq : newest history (peer i) = some o) :
    ∃ gone, stampsOf (pivot :: (tail ++ [(i, t)])) i = gone ++ (s.stamps i ++ [t]) ∧
      ∀ u ∈ gone, u ≤ tol.horizon o := by
  obtain ⟨gone, counted, within⟩ := window.counted i
  refine ⟨gone, ?_, ?_⟩
  · rw [← List.cons_append, stampsOf_append, counted]
    simp
  · intro u member
    obtain ⟨o', last, low⟩ := within u member
    rw [newest_eq] at last
    cases last
    exact low

theorem Window.pivot_within (window : Window tol s history before pivot tail)
    (ordered : Ordered history) (same : pivot.1 = i) (newest_eq : newest history (peer i) = some o) :
    pivot.2 ≤ tol.horizon o := by
  subst same
  obtain ⟨o', last, low⟩ := window.behind
  have split := window.split
  subst split
  exact low.trans (tol.monotone (ordered.newest_mono last newest_eq))

theorem Window.sorted (window : Window tol s history before pivot tail)
    (ordered : Ordered (history ++ [(i, t)])) : (s.stamps i ++ [t]).Pairwise (· ≤ ·) := by
  obtain ⟨gone, counted, _⟩ := window.counted i
  have whole := ordered i
  rw [window.split, List.append_assoc, stampsOf_append, List.cons_append, ← List.cons_append,
    stampsOf_append, counted, List.append_assoc] at whole
  have late := (List.pairwise_append.mp whole).2.1
  simpa using (List.pairwise_append.mp late).2.1

/-- Reaching the limit means that the last stamps of the stream are all overdue. -/
theorem Window.overdue (window : Window tol s history before pivot tail)
    (ordered : Ordered (history ++ [(i, t)])) (short : (s.stamps i).length < limit)
    (newest_eq : newest history (peer i) = some o) (leads : Leads tol history (i, t))
    (full : limit ≤ ((s.stamps i ++ [t]).dropWhile (· ≤ tol.horizon o)).length) :
    Overdue tol limit (history ++ [(i, t)]) i := by
  have beyond : ∀ u ∈ (s.stamps i ++ [t]).dropWhile (· ≤ tol.horizon o), tol.horizon o < u :=
    lt_of_mem_dropWhile (window.sorted ordered)
  have parts := List.takeWhile_append_dropWhile (p := (· ≤ tol.horizon o)) (l := s.stamps i ++ [t])
  -- one stamp was added to fewer than the limit, so the limit is met exactly
  have most : ((s.stamps i ++ [t]).dropWhile (· ≤ tol.horizon o)).length ≤ limit := by
    have whole := congrArg List.length parts
    simp only [List.length_append, List.length_singleton] at whole
    omega
  obtain ⟨gone, counted, _⟩ := window.counted_concat (t := t) newest_eq
  generalize (s.stamps i ++ [t]).dropWhile (· ≤ tol.horizon o) = kept at *
  cases kept with
  | nil => simp only [List.length_nil] at full; omega
  | cons first later =>
    rw [← parts, ← List.append_assoc] at counted
    obtain ⟨early, rest, split, _, rfl⟩ := stampsOf_split counted
    cases early with
    | nil =>
      -- the pivot itself cannot be the first of the kept stamps
      obtain ⟨rfl, _⟩ := List.cons.inj split
      exact absurd (window.pivot_within ordered.left rfl newest_eq)
        (not_le_of_gt (beyond first (by simp)))
    | cons a early =>
      obtain ⟨rfl, stretch⟩ := List.cons.inj split
      have lead := window.allLead_concat leads
      rw [stretch, List.append_eq, allLead_append] at lead
      refine ⟨before ++ [pivot] ++ early, first, rest, ?_, ?_, ?_, lead.2⟩
      · simp [window.split, stretch]
      · rw [stampsOf_cons_self]
        exact le_antisymm most full
      · refine ⟨o, ?_, ?_⟩
        · rw [newest_concat_of_ne (Paired.peer_ne i).symm]
          exact newest_eq
        · rw [stampsOf_cons_self]
          exact beyond

/-- When the last stamps are overdue, none of them has been removed. -/
theorem Window.full_of_overdue (window : Window tol s history before pivot tail)
    (newest_eq : newest history (peer i) = some o)
    (overdue : Overdue tol limit (history ++ [(i, t)]) i) :
    ¬ t ≤ tol.horizon o ∧
      limit ≤ ((s.stamps i ++ [t]).dropWhile (· ≤ tol.horizon o)).length := by
  obtain ⟨early, first, rest, split, length, ⟨o', last, beyond⟩, lead⟩ := overdue
  rw [newest_concat_of_ne (Paired.peer_ne i).symm, newest_eq] at last
  cases last
  obtain ⟨gone, counted, within⟩ := window.counted_concat (t := t) newest_eq
  -- the overdue stretch starts after the pivot, since the pivot did not lead
  have inside : ∃ skipped, tail ++ [(i, t)] = skipped ++ (i, first) :: rest := by
    have same : before ++ pivot :: (tail ++ [(i, t)]) = early ++ (i, first) :: rest := by
      rw [← split, window.split, List.append_assoc, List.cons_append]
    rcases List.append_eq_append_iff.mp same with ⟨skipped, rfl, late⟩ | ⟨overlap, rfl, late⟩
    · cases skipped with
      | nil =>
        obtain ⟨rfl, _⟩ := List.cons.inj late
        rw [List.append_nil] at lead
        exact absurd lead.1 window.not_leads
      | cons a skipped => exact ⟨skipped, (List.cons.inj late).2⟩
    · rw [late, allLead_append] at lead
      exact absurd lead.2.1 window.not_leads
  obtain ⟨skipped, inside⟩ := inside
  rw [inside, ← List.cons_append, stampsOf_append] at counted
  obtain ⟨middle, kept⟩ := kept_suffix counted.symm within beyond
  have newer : t ∈ stampsOf ((i, first) :: rest) i := by
    have final := congrArg List.getLast? kept
    rw [List.getLast?_append, List.getLast?_append, stampsOf_cons_self] at final
    have last : (first :: stampsOf rest i).getLast? = some t := by
      cases found : (first :: stampsOf rest i).getLast? with
      | none => simp at found
      | some u => simpa [found, eq_comm] using final
    rw [stampsOf_cons_self]
    exact List.mem_of_getLast? last
  refine ⟨not_le_of_gt (beyond t newer), ?_⟩
  rw [kept, ← length]
  exact length_le_dropWhile middle beyond

/-- Synchrony ends exactly when it is not forced and the last `limit` stamps of the
arriving stream are overdue. -/
theorem arrive_drops_iff (consistent : Consistent tol limit s history)
    (ordered : Ordered (history ++ [(i, t)])) (synced : s.synced = true) :
    (s.arrive tol limit i t).synced = false ↔
      s.forced = false ∧ Overdue tol limit (history ++ [(i, t)]) i := by
  have last := consistent.last (peer i)
  cases found : s.last (peer i) with
  | none =>
    -- a stream cannot be overdue against one that has not delivered
    refine iff_of_false (by simp [arrive, found, synced]) ?_
    rintro ⟨_, _, _, _, _, _, ⟨o, newest_eq, _⟩, _⟩
    rw [newest_concat_of_ne (Paired.peer_ne i).symm, ← last, found] at newest_eq
    cases newest_eq
  | some o =>
    have newest_eq : newest history (peer i) = some o := last.symm.trans found
    cases forced : s.forced with
    | true => exact iff_of_false (by simp [arrive, compare, clear, found, synced, forced]) (by simp)
    | false =>
      obtain ⟨before, pivot, tail, window⟩ := consistent.window synced forced
      simp only [arrive, compare, clear, found, synced, forced, true_and, if_true,
        Bool.false_eq_true, false_or]
      constructor
      · intro dropped
        split at dropped
        · cases dropped
        · next beyond =>
          split at dropped
          · next full =>
            refine window.overdue ordered (consistent.short i) newest_eq ?_ full
            intro o' found'
            rw [newest_eq] at found'
            cases found'
            exact lt_of_not_ge beyond
          · cases dropped
      · intro overdue
        obtain ⟨beyond, full⟩ := window.full_of_overdue newest_eq overdue
        rw [if_neg beyond, if_pos full]

theorem last_arrive (s : Tracker ι T) (i : ι) (t : T) :
    (s.arrive tol limit i t).last = Function.update s.last i (some t) := by
  simp only [arrive, compare, clear]
  repeat' split
  all_goals rfl

theorem forced_arrive (s : Tracker ι T) (i : ι) (t : T) :
    (s.arrive tol limit i t).forced = s.forced := by
  simp only [arrive, compare, clear]
  repeat' split
  all_goals rfl

theorem idle_arrive (idle : s.synced = false → ∀ i, s.stamps i = []) :
    (s.arrive tol limit i t).synced = false → ∀ j, (s.arrive tol limit i t).stamps j = [] := by
  simp only [arrive, compare, clear]
  repeat' split
  all_goals simp_all

theorem short_arrive (several : 1 < limit) (short : ∀ j, (s.stamps j).length < limit) (j : ι) :
    ((s.arrive tol limit i t).stamps j).length < limit := by
  have room := short j
  simp only [arrive, compare, clear]
  repeat' split
  all_goals simp only [Function.update_apply, List.length_nil]
  all_goals try split
  all_goals first | exact several | simp only [List.length_nil] | skip
  all_goals omega

theorem Window.start (newest_eq : newest history (peer i) = some o) (low : t ≤ tol.horizon o)
    {s' : Tracker ι T} (own : s'.stamps i = [t] ∨ s'.stamps i = []) (others : s'.stamps (peer i) = []) :
    Window tol s' (history ++ [(i, t)]) history (i, t) [] where
  split := rfl
  behind := ⟨o, newest_eq, low⟩
  leads := trivial
  counted := by
    intro j
    rcases Paired.eq_or_eq_peer i j with rfl | rfl
    · rcases own with own | own
      · exact ⟨[], by simp [own], by simp⟩
      · refine ⟨[t], by simp [own], ?_⟩
        intro u member
        rw [List.mem_singleton] at member
        subst member
        exact ⟨o, (newest_concat_of_ne (Paired.peer_ne j).symm history u).trans newest_eq, low⟩
    · refine ⟨[], ?_, by simp⟩
      rw [others, stampsOf_cons_of_ne (Paired.peer_ne i).symm]
      rfl

/-- A leading stamp prolongs the window; older stamps of its own list may now be removed. -/
theorem Window.prolong (window : Window tol s history before pivot tail)
    (ordered : Ordered (history ++ [(i, t)])) (newest_eq : newest history (peer i) = some o)
    (leads : Leads tol history (i, t)) {s' : Tracker ι T}
    (own : s'.stamps i = (s.stamps i ++ [t]).dropWhile (· ≤ tol.horizon o))
    (others : s'.stamps (peer i) = s.stamps (peer i)) :
    Window tol s' (history ++ [(i, t)]) before pivot (tail ++ [(i, t)]) where
  split := by rw [window.split, List.append_assoc, List.cons_append]
  behind := window.behind
  leads := window.allLead_concat leads
  counted := by
    intro j
    rcases Paired.eq_or_eq_peer i j with rfl | rfl
    · obtain ⟨gone, counted, within⟩ := window.counted_concat (t := t) newest_eq
      refine ⟨gone ++ (s.stamps j ++ [t]).takeWhile (· ≤ tol.horizon o), ?_, ?_⟩
      · rw [counted, own, List.append_assoc, List.takeWhile_append_dropWhile]
      · intro u member
        refine ⟨o, (newest_concat_of_ne (Paired.peer_ne j).symm history t).trans newest_eq, ?_⟩
        rcases List.mem_append.mp member with member | member
        · exact within u member
        · simpa using List.mem_takeWhile_imp member
    · obtain ⟨gone, counted, within⟩ := window.counted (peer i)
      refine ⟨gone, ?_, ?_⟩
      · rw [← List.cons_append, stampsOf_concat_of_ne (Paired.peer_ne i).symm, counted, others]
      · intro u member
        obtain ⟨o', last, low⟩ := within u member
        rw [Paired.peer_peer] at last ⊢
        exact ⟨t, newest_concat_self history i t,
          low.trans (tol.monotone (ordered.newest_mono last (newest_concat_self history i t)))⟩

theorem Window.newest_ne_none (window : Window tol s history before pivot tail) (i : ι) :
    newest history i ≠ none := by
  intro missing
  have empty : stampsOf history i = [] := List.getLast?_eq_none_iff.mp missing
  rw [window.split, stampsOf_append, List.append_eq_nil_iff] at empty
  rcases Paired.eq_or_eq_peer pivot.1 i with same | same
  · have present : stampsOf (pivot :: tail) i = pivot.2 :: stampsOf tail i := by
      rw [same]
      exact stampsOf_cons_self pivot.1 pivot.2 tail
    rw [present] at empty
    cases empty.2
  · obtain ⟨o, last, _⟩ := window.behind
    rw [newest, ← same, empty.1] at last
    cases last

theorem window_arrive (consistent : Consistent tol limit s history)
    (ordered : Ordered (history ++ [(i, t)]))
    (synced : (s.arrive tol limit i t).synced = true) (free : s.forced = false) :
    ∃ before pivot tail,
      Window tol (s.arrive tol limit i t) (history ++ [(i, t)]) before pivot tail := by
  have last := consistent.last (peer i)
  cases found : s.last (peer i) with
  | none =>
    have still : s.synced = true := by simpa [arrive, found] using synced
    obtain ⟨before, pivot, tail, window⟩ := consistent.window still free
    exact absurd (last.symm.trans found) (window.newest_ne_none (peer i))
  | some o =>
    have newest_eq : newest history (peer i) = some o := last.symm.trans found
    simp only [arrive, compare, found, free, Bool.false_eq_true, false_or] at synced ⊢
    split at synced
    · next still =>
      obtain ⟨before, pivot, tail, window⟩ := consistent.window still free
      split at synced
      · next low =>
        -- the stamp does not lead and clears the counts: it is the new pivot
        rw [if_pos still, if_pos low]
        exact ⟨history, (i, t), [], Window.start newest_eq low (.inr rfl) rfl⟩
      · next beyond =>
        split at synced
        · cases synced
        · next room =>
          -- the stamp leads and is counted, so the window goes on
          rw [if_pos still, if_neg beyond, if_neg room]
          refine ⟨before, pivot, tail ++ [(i, t)], window.prolong ordered newest_eq ?_
            (Function.update_self ..) (Function.update_of_ne (Paired.peer_ne i) ..)⟩
          intro o' found'
          rw [newest_eq] at found'
          cases found'
          exact lt_of_not_ge beyond
    · next apart =>
      split at synced
      · next together =>
        -- synchrony begins with this stamp, and it is counted already
        rw [if_neg apart, if_pos together]
        refine ⟨history, (i, t), [], Window.start newest_eq together.1 (.inl ?_) ?_⟩
        · simp
        · simp [Paired.peer_ne]
      · exact absurd synced apart

theorem consistent_initial (several : 1 < limit) :
    Consistent tol limit (initial : Tracker ι T) [] where
  last := fun _ => rfl
  idle := fun _ _ => rfl
  short := fun _ => Nat.lt_of_succ_lt several
  window := by intro synced; cases synced

theorem consistent_force (consistent : Consistent tol limit s history) :
    Consistent tol limit s.force history where
  last := consistent.last
  idle := consistent.idle
  short := consistent.short
  window := by intro _ free; cases free

theorem consistent_arrive (several : 1 < limit) (consistent : Consistent tol limit s history)
    (ordered : Ordered (history ++ [(i, t)])) :
    Consistent tol limit (s.arrive tol limit i t) (history ++ [(i, t)]) where
  last := by
    intro j
    rw [last_arrive]
    rcases Paired.eq_or_eq_peer i j with rfl | rfl
    · rw [Function.update_self, newest_concat_self]
    · rw [Function.update_of_ne (Paired.peer_ne i), newest_concat_of_ne (Paired.peer_ne i).symm,
        consistent.last]
  idle := idle_arrive consistent.idle
  short := short_arrive several consistent.short
  window := by
    intro synced free
    rw [forced_arrive] at free
    exact window_arrive consistent ordered synced free

end Tracker
end

end NetCam.Semantics.Synchrony
