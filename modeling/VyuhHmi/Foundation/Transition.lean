import Mathlib.Data.List.Infix
import Mathlib.Logic.Relation

/-!
# Runs of labelled step relations

A system is given by a step relation between states, labelled by the action taken.  `Run` collects
the finite runs from one state; `guarded` cuts a step relation down to the steps that meet a
condition, so that "every run all of whose steps meet the condition" is a `Run` of the guarded
relation.  Executable systems give the step as a partial function, and `exec` replays a list of
actions.
-/

namespace Transition

/-- `step s label t`: the action `label` takes the system from `s` to `t`. -/
abbrev Step (State Label : Type*) := State → Label → State → Prop

variable {State Label : Type*} {step : Step State Label} {start s t : State}

/-- The finite runs from `start`, with the actions taken in order. -/
inductive Run (step : Step State Label) (start : State) : List Label → State → Prop
  | nil : Run step start [] start
  | snoc {labels : List Label} {s t : State} {label : Label} :
      Run step start labels s → step s label t → Run step start (labels ++ [label]) t

/-- Keep only the steps whose source state and action meet `guard`. -/
def guarded (guard : State → Label → Prop) (step : Step State Label) : Step State Label :=
  fun s label t ↦ guard s label ∧ step s label t

/-- The steps of a partial function. -/
def ofOption (f : State → Label → Option State) : Step State Label :=
  fun s label t ↦ f s label = some t

/-- Replay a list of actions. -/
def exec (f : State → Label → Option State) (start : State) (labels : List Label) : Option State :=
  labels.foldlM f start

/-! ## Rules for runs -/

theorem Run.single {label : Label} (h : step s label t) : Run step s [label] t := by
  simpa using Run.snoc Run.nil h

/-- Runs compose. -/
theorem Run.append {first second : List Label} (hfirst : Run step start first s)
    (hsecond : Run step s second t) : Run step start (first ++ second) t := by
  induction hsecond with
  | nil => simpa using hfirst
  | snoc _ hstep ih =>
      rw [← List.append_assoc]
      exact ih.snoc hstep

/-- **Invariant rule.** A property of the start state that every step keeps holds after every
run. -/
theorem Run.invariant {Inv : State → Prop} (hstart : Inv start)
    (hstep : ∀ s label t, Inv s → step s label t → Inv t)
    {labels : List Label} (hrun : Run step start labels s) : Inv s := by
  induction hrun with
  | nil => exact hstart
  | snoc _ h ih => exact hstep _ _ _ ih h

theorem Run.mono {step' : Step State Label} (hmono : ∀ s label t, step s label t → step' s label t)
    {labels : List Label} (hrun : Run step start labels s) : Run step' start labels s := by
  induction hrun with
  | nil => exact .nil
  | snoc _ h ih => exact ih.snoc (hmono _ _ _ h)

/-- Forgetting the guard leaves an ordinary run. -/
theorem Run.of_guarded {guard : State → Label → Prop} {labels : List Label}
    (hrun : Run (guarded guard step) start labels s) : Run step start labels s :=
  hrun.mono fun _ _ _ h ↦ h.2

/-! ## Executable systems -/

variable {f : State → Label → Option State}

theorem exec_append_singleton (start : State) (labels : List Label) (label : Label) :
    exec f start (labels ++ [label]) = (exec f start labels).bind fun s ↦ f s label := by
  simp [exec, List.foldlM_append]

/-- The runs of a partial function are its successful replays. -/
theorem run_ofOption_iff {labels : List Label} :
    Run (ofOption f) start labels s ↔ exec f start labels = some s := by
  constructor
  · intro hrun
    induction hrun with
    | nil => rfl
    | snoc _ h ih =>
        rw [exec_append_singleton, ih]
        exact h
  · induction labels using List.reverseRecOn generalizing s with
    | nil =>
        intro h
        obtain rfl : start = s := by simpa [exec] using h
        exact .nil
    | append_singleton labels label ih =>
        intro h
        rw [exec_append_singleton, Option.bind_eq_some_iff] at h
        obtain ⟨u, hu, hlast⟩ := h
        exact (ih hu).snoc hlast

/-- A decidable guard can be replayed together with the step, and the last state tested. -/
theorem exists_run_guarded_of_any {guard : State → Label → Prop}
    [∀ s label, Decidable (guard s label)] {test : State → Bool} {labels : List Label}
    (h : (exec (fun s label ↦ if guard s label then f s label else none) start labels).any test) :
    ∃ s, Run (guarded guard (ofOption f)) start labels s ∧ test s := by
  obtain ⟨s, hs, htest⟩ := (Option.any_eq_true _ _).mp h
  refine ⟨s, (run_ofOption_iff.mpr hs).mono fun u label v hstep ↦ ?_, htest⟩
  simp only [ofOption] at hstep
  split at hstep
  case isTrue hguard => exact ⟨hguard, hstep⟩
  case isFalse => cases hstep

theorem exists_run_guarded {guard : State → Label → Prop}
    [∀ s label, Decidable (guard s label)] {labels : List Label}
    (h : (exec (fun s label ↦ if guard s label then f s label else none) start labels).isSome) :
    ∃ s, Run (guarded guard (ofOption f)) start labels s := by
  obtain ⟨s, hs⟩ := Option.isSome_iff_exists.mp h
  have hany : (exec (fun s label ↦ if guard s label then f s label else none) start labels).any
      fun _ ↦ true := by rw [hs, Option.any_some]
  obtain ⟨u, hrun, -⟩ := exists_run_guarded_of_any hany
  exact ⟨u, hrun⟩

/-- A replay that ends in a state where a test fails refutes what implies the test. -/
theorem exists_exec_not {Good : State → Prop} {test : State → Bool}
    (htest : ∀ s, Good s → test s) {labels : List Label}
    (h : (exec f start labels).any fun s ↦ !test s) :
    ∃ s, exec f start labels = some s ∧ ¬Good s := by
  obtain ⟨s, hs, hfail⟩ := (Option.any_eq_true _ _).mp h
  refine ⟨s, hs, fun hgood ↦ ?_⟩
  rw [htest s hgood] at hfail
  cases hfail

theorem exec_append (start : State) (first second : List Label) :
    exec f start (first ++ second) = (exec f start first).bind fun s ↦ exec f s second := by
  simp [exec, List.foldlM_append]

/-- A reflexive and transitive relation holds between any two states of a replay, in their order,
exactly when every action is taken under its guard, provided the guard decides whether one step
respects the relation. -/
theorem exec_relates_iff {Rel : State → State → Prop} {guard : State → Label → Prop}
    (hrefl : ∀ s, Rel s s) (htrans : ∀ s t u, Rel s t → Rel t u → Rel s u)
    (hstep : ∀ s label, guard s label ↔ ∀ t, f s label = some t → Rel s t)
    (start : State) (labels : List Label) :
    (∀ first second, first ++ second <+: labels → ∀ s t, exec f start first = some s →
        exec f s second = some t → Rel s t) ↔
      ∀ first label, first ++ [label] <+: labels → ∀ s, exec f start first = some s →
        guard s label := by
  constructor
  · intro hall first label hpre s hs
    rw [hstep]
    intro t ht
    exact hall first [label] hpre s t hs (by simpa [exec] using ht)
  · intro hguard first second hpre s t hs
    induction second using List.reverseRecOn generalizing t with
    | nil =>
        intro ht
        obtain rfl : s = t := by simpa [exec] using ht
        exact hrefl s
    | append_singleton second label ih =>
        intro ht
        rw [exec_append_singleton, Option.bind_eq_some_iff] at ht
        obtain ⟨u, hu, hlast⟩ := ht
        rw [← List.append_assoc] at hpre
        have hbefore := ih ((List.prefix_append _ _).trans hpre) u hu
        have hreach : exec f start (first ++ second) = some u := by
          rw [exec_append, hs]
          exact hu
        exact htrans _ _ _ hbefore ((hstep u label).mp (hguard _ label hpre u hreach) t hlast)

/-! ## Total systems -/

/-- The states of a run of a total function all meet `Good` exactly when every action is taken
under its guard, provided the guard decides what one step does to `Good`. -/
theorem foldl_always_iff {f : State → Label → State} {Good : State → Prop}
    {guard : State → Label → Prop} (hstart : Good start)
    (hstep : ∀ s label, Good s → (Good (f s label) ↔ guard s label)) (labels : List Label) :
    (∀ before, before <+: labels → Good (before.foldl f start)) ↔
      ∀ before label, before ++ [label] <+: labels → guard (before.foldl f start) label := by
  have hsnoc (before : List Label) (label : Label) :
      (before ++ [label]).foldl f start = f (before.foldl f start) label := by
    simp [List.foldl_append]
  constructor
  · intro hall before label hpre
    have hbefore := hall before ((List.prefix_append before [label]).trans hpre)
    have hafter := hall (before ++ [label]) hpre
    rw [hsnoc] at hafter
    exact (hstep _ _ hbefore).mp hafter
  · intro hguard before hpre
    induction before using List.reverseRecOn with
    | nil => exact hstart
    | append_singleton before label ih =>
        have hbefore := ih ((List.prefix_append before [label]).trans hpre)
        rw [hsnoc]
        exact (hstep _ _ hbefore).mpr (hguard before label hpre)

/-- A reflexive and transitive relation holds between any two states of a run of a total function,
in their order, exactly when every action is taken under its guard, provided the guard decides
whether one step respects the relation. -/
theorem foldl_relates_iff {f : State → Label → State} {Rel : State → State → Prop}
    {guard : State → Label → Prop} (hrefl : ∀ s, Rel s s)
    (htrans : ∀ s t u, Rel s t → Rel t u → Rel s u)
    (hstep : ∀ s label, guard s label ↔ Rel s (f s label)) (start : State) (labels : List Label) :
    (∀ first second, first ++ second <+: labels →
        Rel (first.foldl f start) ((first ++ second).foldl f start)) ↔
      ∀ first label, first ++ [label] <+: labels → guard (first.foldl f start) label := by
  have hsnoc (before : List Label) (label : Label) :
      (before ++ [label]).foldl f start = f (before.foldl f start) label := by
    simp [List.foldl_append]
  constructor
  · intro hall first label hpre
    rw [hstep, ← hsnoc]
    exact hall first [label] hpre
  · intro hguard first second hpre
    induction second using List.reverseRecOn with
    | nil =>
        rw [List.append_nil]
        exact hrefl _
    | append_singleton second label ih =>
        rw [← List.append_assoc] at hpre ⊢
        rw [hsnoc]
        exact htrans _ _ _ (ih ((List.prefix_append _ _).trans hpre))
          ((hstep _ label).mp (hguard _ label hpre))

/-- What does not hold at the start of a run and holds at its end has begun at some action, and held
from then on. -/
theorem exists_onset {P : List Label → Prop} {labels : List Label} (hstart : ¬P [])
    (hend : P labels) :
    ∃ before label later, labels = before ++ label :: later ∧ ¬P before ∧
      ∀ part, part <+: later → P (before ++ label :: part) := by
  induction labels using List.reverseRecOn with
  | nil => exact absurd hend hstart
  | append_singleton labels last ih =>
      by_cases hbefore : P labels
      · obtain ⟨before, label, later, rfl, hnot, hheld⟩ := ih hbefore
        refine ⟨before, label, later ++ [last], by simp, hnot, fun part hpart ↦ ?_⟩
        rcases List.prefix_concat_iff.mp hpart with rfl | hpart
        · simpa using hend
        · exact hheld part hpart
      · refine ⟨labels, last, [], rfl, hbefore, fun part hpart ↦ ?_⟩
        rw [List.prefix_nil.mp hpart]
        exact hend

/-- What holds at the start of a run and not at its end is lost at some action. -/
theorem foldl_exists_lost {f : State → Label → State} {Good : State → Prop} {labels : List Label}
    (hstart : Good start) (hend : ¬Good (labels.foldl f start)) :
    ∃ before label after, labels = before ++ label :: after ∧ Good (before.foldl f start) ∧
      ¬Good (f (before.foldl f start) label) := by
  induction labels generalizing start with
  | nil => exact absurd hstart hend
  | cons label labels ih =>
      by_cases hnext : Good (f start label)
      · obtain ⟨before, lost, after, rfl, hbefore, hlost⟩ := ih hnext hend
        exact ⟨label :: before, lost, after, rfl, hbefore, hlost⟩
      · exact ⟨[], label, labels, rfl, hstart, hnext⟩

end Transition
