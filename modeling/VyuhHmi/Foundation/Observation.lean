import VyuhHmi.Foundation.Transition

/-!
# Observers of a run

An observer watches the steps of a run and keeps a record of its own, which the system knows nothing
about.  What a run puts out, how often it does something and where it was at some step are all
records of observers.  An invariant that ties the record to the state is shown one step at a time.
-/

namespace Transition

variable {State Label Seen : Type*} {f : State → Label → Option State}
  {watch : Seen → State → Label → Seen} {start s t : State} {seen : Seen} {labels : List Label}

/-- The record of an observer at the end of a replay. -/
def observe (f : State → Label → Option State) (watch : Seen → State → Label → Seen) :
    Seen → State → List Label → Seen
  | seen, _, [] => seen
  | seen, s, label :: labels =>
      match f s label with
      | some t => observe f watch (watch seen s label) t labels
      | none => seen

@[simp] theorem observe_nil : observe f watch seen start [] = seen := rfl

theorem observe_cons {label : Label} (hstep : f start label = some t) (labels : List Label) :
    observe f watch seen start (label :: labels) =
      observe f watch (watch seen start label) t labels := by
  rw [observe, hstep]

/-- The observer goes on where it was. -/
theorem observe_append (hexec : exec f start labels = some s) (more : List Label) :
    observe f watch seen start (labels ++ more) =
      observe f watch (observe f watch seen start labels) s more := by
  induction labels generalizing start seen with
  | nil =>
      obtain rfl : start = s := by simpa [exec] using hexec
      rfl
  | cons label labels ih =>
      rw [exec, List.foldlM_cons] at hexec
      obtain ⟨t, hstep, hrest⟩ := Option.bind_eq_some_iff.mp hexec
      rw [List.cons_append, observe_cons hstep, observe_cons hstep]
      exact ih hrest

theorem observe_append_singleton {label : Label} (hexec : exec f start labels = some s)
    (hstep : f s label = some t) :
    observe f watch seen start (labels ++ [label]) =
      watch (observe f watch seen start labels) s label := by
  rw [observe_append hexec, observe_cons hstep, observe_nil]

/-- **Invariant rule.** What ties the record to the state. -/
theorem Run.observe_invariant {guard : State → Label → Prop} {Inv : Seen → State → Prop}
    (hstart : Inv seen start)
    (hstep : ∀ seen s label t, Inv seen s → guard s label → f s label = some t →
      Inv (watch seen s label) t)
    (hrun : Run (guarded guard (ofOption f)) start labels s) :
    Inv (observe f watch seen start labels) s := by
  induction hrun with
  | nil => exact hstart
  | snoc hbefore hlast ih =>
      rw [observe_append_singleton (run_ofOption_iff.mp hbefore.of_guarded) hlast.2]
      exact hstep _ _ _ _ ih hlast.1 hlast.2

theorem observe_invariant {Inv : Seen → State → Prop} (hstart : Inv seen start)
    (hstep : ∀ seen s label t, Inv seen s → f s label = some t → Inv (watch seen s label) t)
    (hexec : exec f start labels = some s) : Inv (observe f watch seen start labels) s := by
  have hrun : Run (guarded (fun _ _ ↦ True) (ofOption f)) start labels s :=
    (run_ofOption_iff.mpr hexec).mono fun _ _ _ h ↦ ⟨trivial, h⟩
  exact hrun.observe_invariant hstart fun seen s label t hinv _ h ↦ hstep seen s label t hinv h

end Transition
