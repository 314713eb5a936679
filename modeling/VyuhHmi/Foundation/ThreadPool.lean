import VyuhHmi.Foundation.Transition

/-!
# Interleaved calls over a shared state

Any number of concurrent calls, each a sequence of atomic statements on one shared state.  A
thread is the rest of a call: running its next statement, with whatever the environment supplies
to it, changes the shared state and leaves the thread that remains.  Threads may be started at any
time, and any thread that can run may run next.
-/

/-- The shared state and the calls in progress, by their order of arrival. -/
structure ThreadPool (Shared Thread : Type*) where
  shared : Shared
  threads : List Thread

namespace ThreadPool

/-- A scheduling decision: start a call, or run the next statement of one. -/
inductive Action (Input Thread : Type*)
  | spawn (thread : Thread)
  | run (index : ℕ) (input : Input)

variable {Shared Thread Input : Type*}

/-- A statement of a thread; `none` when the call is over or has to wait. -/
abbrev Statement (Shared Thread Input : Type*) := Input → Shared → Thread → Option (Shared × Thread)

/-- One scheduling step. -/
def step (statement : Statement Shared Thread Input) (pool : ThreadPool Shared Thread) :
    Action Input Thread → Option (ThreadPool Shared Thread)
  | .spawn thread => some { pool with threads := pool.threads ++ [thread] }
  | .run index input =>
      pool.threads[index]?.bind fun thread ↦
        (statement input pool.shared thread).map fun next ↦
          { shared := next.1, threads := pool.threads.set index next.2 }

/-- Run the statements of one call without interruption. -/
def runAlone (statement : Statement Shared Thread Input) (shared : Shared) (thread : Thread)
    (inputs : List Input) : Option (Shared × Thread) :=
  Transition.exec (fun state input ↦ statement input state.1 state.2) (shared, thread) inputs

variable {statement : Statement Shared Thread Input} {pool pool' : ThreadPool Shared Thread}

@[simp] theorem step_spawn (thread : Thread) :
    step statement pool (.spawn thread) =
      some { pool with threads := pool.threads ++ [thread] } := rfl

theorem step_run_eq_some_iff {index : ℕ} {input : Input} :
    step statement pool (.run index input) = some pool' ↔
      ∃ thread shared thread', pool.threads[index]? = some thread ∧
        statement input pool.shared thread = some (shared, thread') ∧
        pool' = { shared := shared, threads := pool.threads.set index thread' } := by
  cases hthread : pool.threads[index]? with
  | none => simp [step, hthread]
  | some thread =>
      cases hstatement : statement input pool.shared thread with
      | none => simp [step, hthread, hstatement]
      | some next =>
          obtain ⟨shared, thread'⟩ := next
          simp [step, hthread, hstatement, eq_comm, and_assoc]

@[simp] theorem runAlone_nil (shared : Shared) (thread : Thread) :
    runAlone statement shared thread [] = some (shared, thread) := rfl

@[simp] theorem runAlone_cons (shared : Shared) (thread : Thread) (input : Input)
    (inputs : List Input) :
    runAlone statement shared thread (input :: inputs) =
      (statement input shared thread).bind fun next ↦ runAlone statement next.1 next.2 inputs := by
  simp [runAlone, Transition.exec]

theorem runAlone_append (shared : Shared) (thread : Thread) (first second : List Input) :
    runAlone statement shared thread (first ++ second) =
      (runAlone statement shared thread first).bind fun next ↦
        runAlone statement next.1 next.2 second :=
  Transition.exec_append _ first second

/-- **Interleaving rule.** A reflexive and transitive relation on shared states is respected by
every schedule exactly when each statement runs under its guard, provided the guard decides
whether the statement respects the relation. -/
theorem shared_relates_iff {Rel : Shared → Shared → Prop} {guard : Input → Shared → Thread → Prop}
    (hrefl : ∀ s, Rel s s) (htrans : ∀ s t u, Rel s t → Rel t u → Rel s u)
    (hstatement : ∀ input shared thread, guard input shared thread ↔
      ∀ shared' thread', statement input shared thread = some (shared', thread') → Rel shared shared')
    (pool : ThreadPool Shared Thread) (schedule : List (Action Input Thread)) :
    (∀ first second, first ++ second <+: schedule → ∀ p q,
        Transition.exec (step statement) pool first = some p →
        Transition.exec (step statement) p second = some q → Rel p.shared q.shared) ↔
      ∀ first index input, first ++ [.run index input] <+: schedule → ∀ p,
        Transition.exec (step statement) pool first = some p →
        ∀ thread, p.threads[index]? = some thread → guard input p.shared thread := by
  let stepGuard : ThreadPool Shared Thread → Action Input Thread → Prop := fun p action ↦
    ∀ index input, action = .run index input → ∀ thread, p.threads[index]? = some thread →
      guard input p.shared thread
  have hstep (p : ThreadPool Shared Thread) (action : Action Input Thread) :
      stepGuard p action ↔ ∀ q, step statement p action = some q → Rel p.shared q.shared := by
    cases action with
    | spawn thread =>
        constructor
        · intro _ q hq
          obtain rfl := Option.some.inj hq
          exact hrefl p.shared
        · intro _ index input haction
          cases haction
    | run index input =>
        constructor
        · intro hguard q hq
          obtain ⟨thread, shared, thread', hthread, hrun, rfl⟩ := step_run_eq_some_iff.mp hq
          have hthis := hguard index input rfl thread hthread
          exact (hstatement input p.shared thread).mp hthis shared thread' hrun
        · intro hrel index' input' haction thread hthread
          cases haction
          rw [hstatement]
          intro shared' thread' hrun
          exact hrel _ (step_run_eq_some_iff.mpr ⟨thread, shared', thread', hthread, hrun, rfl⟩)
  have hiff := Transition.exec_relates_iff (fun p : ThreadPool Shared Thread ↦ hrefl p.shared)
    (fun p q r ↦ htrans p.shared q.shared r.shared) hstep pool schedule
  rw [hiff]
  constructor
  · intro h first index input hpre p hp
    exact h first (.run index input) hpre p hp index input rfl
  · rintro h first action hpre p hp index input rfl
    exact h first index input hpre p hp

end ThreadPool
