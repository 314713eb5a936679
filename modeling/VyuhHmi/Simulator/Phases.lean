import VyuhHmi.Foundation.Pacing
import VyuhHmi.Simulator.Updates

/-!
# The batches of the simulated reactor

While no client writes the register of the batch state, the reactor goes round its states by itself.
Idle, holding and complete last a fixed number of cycles, heating and cooling as long as the
temperature takes.  The register shows it.
-/

namespace VyuhHmi.Simulator

variable {F : Type} [PyFloat F]

/-- The state after this one. -/
def State.next : State → State
  | idle => heating
  | heating => holding
  | holding => cooling
  | cooling => complete
  | complete => idle

@[simp] theorem State.next_ne (state : State) : state.next ≠ state := by
  cases state <;> decide

/-- The seconds that a state lasts, if the temperature has nothing to do with it. -/
def State.duration : State → Option ℕ
  | idle => some idleDuration
  | holding => some holdDuration
  | complete => some 3
  | _ => none

theorem State.duration_pos (state : State) : ∀ d ∈ state.duration, 0 < d := by
  cases state <;> simp [duration, idleDuration, holdDuration]

/-- The batches completed in a history of states. -/
def completions : List State → ℕ
  | a :: b :: states => (if a = .complete ∧ b = .idle then 1 else 0) + completions (b :: states)
  | _ => 0

theorem completions_append (front : List State) (a b : State) :
    completions (front ++ [a] ++ [b]) =
      completions (front ++ [a]) + (if a = .complete ∧ b = .idle then 1 else 0) := by
  induction front with
  | nil => simp [completions]
  | cons c front ih =>
      cases front with
      | nil => simp [completions]
      | cons e front =>
          simp only [List.cons_append, completions] at ih ⊢
          rw [ih, Nat.add_assoc]

namespace BatchReactor

variable {reactor : BatchReactor F}

/-- A second either goes on with the state, which is not over then unless the reactor is stopped, or
moves to the next one. -/
theorem tick_cases (noise : Noise F) :
    ((reactor.tick noise).state = reactor.state ∧
      (reactor.tick noise).stateTimer = reactor.stateTimer + 1 ∧
      (reactor.tick noise).batchCount = reactor.batchCount ∧
      ∀ d ∈ reactor.state.duration, reactor.stateTimer + 1 < d ∨ reactor.emergencyStopped = true) ∨
    ((reactor.tick noise).state = reactor.state.next ∧
      (reactor.tick noise).stateTimer = 0 ∧
      (reactor.tick noise).batchCount =
        reactor.batchCount + (if reactor.state = .complete then 1 else 0) ∧
      (reactor.emergencyStopped = true → reactor.state ≠ .idle) ∧
      ∀ d ∈ reactor.state.duration, d ≤ reactor.stateTimer + 1) := by
  cases hstate : reactor.state with
  | idle =>
      simp only [tick, hstate, tickIdle]
      split
      case isTrue hover =>
        refine Or.inr ⟨rfl, rfl, rfl, fun hon ↦ ?_, by simpa [State.duration] using hover.1⟩
        exact absurd (hon.symm.trans hover.2) (by decide)
      case isFalse hmore =>
        refine Or.inl ⟨rfl, rfl, rfl, fun d hd ↦ ?_⟩
        obtain rfl := Option.some.inj hd
        by_contra hneither
        rw [not_or, not_lt, Bool.not_eq_true] at hneither
        exact hmore hneither
  | heating =>
      simp only [tick, hstate, tickHeating]
      split
      · exact Or.inr ⟨rfl, rfl, rfl, by simp, by simp [State.duration]⟩
      · exact Or.inl ⟨rfl, rfl, rfl, by simp [State.duration]⟩
  | holding =>
      simp only [tick, hstate, tickHolding]
      split
      case isTrue hover => exact Or.inr ⟨rfl, rfl, rfl, by simp, by simpa [State.duration] using hover⟩
      case isFalse hmore =>
        exact Or.inl ⟨rfl, rfl, rfl, by simpa [State.duration] using Or.inl (not_le.mp hmore)⟩
  | cooling =>
      simp only [tick, hstate, tickCooling]
      split
      · exact Or.inr ⟨rfl, rfl, rfl, by simp, by simp [State.duration]⟩
      · exact Or.inl ⟨rfl, rfl, rfl, by simp [State.duration]⟩
  | complete =>
      simp only [tick, hstate, tickComplete]
      split
      case isTrue hover => exact Or.inr ⟨rfl, rfl, rfl, by simp, by simpa [State.duration] using hover⟩
      case isFalse hmore =>
        exact Or.inl ⟨rfl, rfl, rfl, by simpa [State.duration] using Or.inl (not_le.mp hmore)⟩

end BatchReactor

namespace Simulation

variable {sim next : Simulation F}

/-- The states published by the cycles of a run. -/
def published (sim : Simulation F) : List (Event F) → List ℤ
  | [] => []
  | .write register value :: events => (sim.write register value).published events
  | .cycle noise :: events =>
      (sim.cycle noise).registers 1032 :: (sim.cycle noise).published events

/-- The register of the batch state holds what the simulator wrote. -/
def Untouched (sim : Simulation F) : Prop := sim.lastWritten 1032 = some (sim.registers 1032)

/-- The two agree on all that has to do with the course of the batches. -/
structure SameCourse (sim next : Simulation F) : Prop extends SameStop sim next where
  stateTimer : next.reactor.stateTimer = sim.reactor.stateTimer
  batchCount : next.reactor.batchCount = sim.reactor.batchCount

omit [PyFloat F] in
theorem SameCourse.trans {between : Simulation F} (hfirst : sim.SameCourse between)
    (hsecond : between.SameCourse next) : sim.SameCourse next :=
  ⟨hfirst.toSameStop.trans hsecond.toSameStop, hsecond.stateTimer.trans hfirst.stateTimer,
    hsecond.batchCount.trans hfirst.batchCount⟩

omit [PyFloat F] in
theorem checkWrite_sameCourse {register : ℕ} (h : register ≠ 1032) :
    sim.SameCourse (sim.checkWrite register) := by
  refine ⟨checkWrite_sameStop h, ?_, ?_⟩ <;>
    rcases @reactor_checkWrite_cases F sim register with hreactor | hreactor <;>
    rw [hreactor] <;> unfold BatchReactor.handleWrite <;> split_ifs <;> rfl

omit [PyFloat F] in
/-- Where nobody wrote the register of the batch state, nothing is passed on. -/
theorem Untouched.checkWrite (h : sim.Untouched) : sim.SameCourse (sim.checkWrite 1032) := by
  have hreactor : (sim.checkWrite 1032).reactor = sim.reactor := by
    unfold Simulation.checkWrite
    simp only [show sim.lastWritten 1032 = some (sim.registers 1032) from h, ne_eq,
      not_true_eq_false, if_false]
  have hlast : (sim.checkWrite 1032).lastWritten 1032 = sim.lastWritten 1032 := by
    show Function.update sim.lastWritten 1032 (some (sim.registers 1032)) 1032 = _
    rw [Function.update_self]
    exact h.symm
  exact ⟨⟨by rw [hreactor], by rw [hreactor], rfl, hlast⟩, by rw [hreactor], by rw [hreactor]⟩

omit [PyFloat F] in
theorem Untouched.of_sameCourse (h : sim.Untouched) (hsame : sim.SameCourse next) :
    next.Untouched := by
  rw [Untouched, hsame.lastWritten, hsame.register]
  exact h

omit [PyFloat F] in
theorem Untouched.checkWrites (h : sim.Untouched) : sim.SameCourse sim.checkWrites := by
  have hbefore : sim.SameCourse ((sim.checkWrite 1028).checkWrite 1031) :=
    (checkWrite_sameCourse (by decide)).trans (checkWrite_sameCourse (by decide))
  have hstate := hbefore.trans (h.of_sameCourse hbefore).checkWrite
  exact hstate.trans ((checkWrite_sameCourse (by decide)).trans (checkWrite_sameCourse (by decide)))

theorem cycle_untouched (noise : Noise F) : (sim.cycle noise).Untouched := by
  rw [Untouched, register_cycle, lastWritten_cycle]

omit [PyFloat F] in
theorem Untouched.write (h : sim.Untouched) {register : ℕ} (hregister : register ≠ 1032)
    (value : UInt16) : (sim.write register value).Untouched := by
  show sim.lastWritten 1032 = some (Function.update sim.registers register _ 1032)
  rw [Function.update_of_ne hregister.symm]
  exact h

/-- How far a history of states is the course of the batches up to `sim`. -/
structure Course (history : List State) (sim : Simulation F) : Prop
    extends Paced State.next State.duration history sim.reactor.stateTimer where
  last : history.getLast? = some sim.reactor.state
  stopped : sim.reactor.emergencyStopped = true → ∀ state ∈ history, state = .idle

/-- A cycle of an untouched simulator. -/
theorem Course.cycle {history : List State} (h : Course history sim) (huntouched : sim.Untouched)
    (noise : Noise F) :
    Course (history ++ [(sim.cycle noise).reactor.state]) (sim.cycle noise) ∧
      (sim.cycle noise).reactor.batchCount + completions history = sim.reactor.batchCount +
        completions (history ++ [(sim.cycle noise).reactor.state]) := by
  have hsame := huntouched.checkWrites
  have hstopped : (sim.cycle noise).reactor.emergencyStopped = sim.reactor.emergencyStopped := by
    rw [reactor_cycle, BatchReactor.emergencyStopped_tick, hsame.emergencyStopped]
  obtain ⟨front, hfront⟩ := List.getLast?_eq_some_iff.mp h.last
  have hcount : ∀ b, completions (history ++ [b]) =
      completions history + (if sim.reactor.state = .complete ∧ b = .idle then 1 else 0) := by
    intro b
    rw [hfront, completions_append]
  have hidle : sim.reactor.emergencyStopped = true → sim.reactor.state = .idle := fun hon ↦
    h.stopped hon _ (List.mem_of_getLast? h.last)
  have hcases := @BatchReactor.tick_cases F _ sim.checkWrites.reactor noise
  rw [hsame.state, hsame.stateTimer, hsame.batchCount, hsame.emergencyStopped] at hcases
  rcases hcases with ⟨hstate, htimer, hbatches, hmore⟩ | ⟨hstate, htimer, hbatches, hmoves, hover⟩
  · rw [hcount, reactor_cycle, hstate, hbatches]
    refine ⟨⟨?_, by simp [reactor_cycle, hstate], fun hon state hmem ↦ ?_⟩, ?_⟩
    · rw [reactor_cycle, htimer]
      refine h.toPaced.stay h.last fun hother d hd ↦ ?_
      rcases hmore d hd with hmore | hon
      · omega
      · obtain ⟨b, hb, hne⟩ := hother
        exact absurd ((h.stopped hon b hb).trans (hidle hon).symm) hne
    · rw [hstopped] at hon
      rcases List.mem_append.mp hmem with hmem | hmem
      · exact h.stopped hon state hmem
      · rw [List.mem_singleton.mp hmem]
        exact hidle hon
    · rw [if_neg]
      · omega
      · rintro ⟨hcomplete, hidle⟩
        rw [hcomplete] at hidle
        cases hidle
  · rw [hcount, reactor_cycle, hstate, hbatches]
    refine ⟨⟨?_, by simp [reactor_cycle, hstate], fun hon ↦ ?_⟩, ?_⟩
    · rw [reactor_cycle, htimer]
      exact h.toPaced.move h.last (State.next_ne _) hover (State.duration_pos _)
    · rw [hstopped] at hon
      exact absurd (hidle hon) (hmoves hon)
    · cases sim.reactor.state <;> simp [State.next]
      omega

/-- Run lemma: the states published while nobody writes the register of the batch state. -/
theorem Course.run {events : List (Event F)} (hevents : ∀ value, Event.write 1032 value ∉ events) :
    ∀ {sim : Simulation F} {history : List State}, Course history sim → sim.Untouched →
      ∃ states, sim.published events = states.map State.code ∧
        Course (history ++ states) (sim.run events) ∧
        (sim.run events).reactor.batchCount + completions history =
          sim.reactor.batchCount + completions (history ++ states) := by
  induction events with
  | nil =>
      intro sim history h _
      refine ⟨[], rfl, ?_, ?_⟩ <;> rw [List.append_nil]
      · exact h
      · rfl
  | cons event events ih =>
      intro sim history h huntouched
      have hlater : ∀ value, Event.write 1032 value ∉ events := fun value hmem ↦
        hevents value (List.mem_cons_of_mem _ hmem)
      cases event with
      | write register value =>
          have hregister : register ≠ 1032 := by
            rintro rfl
            exact hevents value List.mem_cons_self
          exact ih hlater ⟨h.toPaced, h.last, h.stopped⟩ (huntouched.write hregister value)
      | cycle noise =>
          obtain ⟨hcycle, hcount⟩ := h.cycle huntouched noise
          obtain ⟨states, hpublished, hcourse, hbatches⟩ := ih hlater hcycle (cycle_untouched noise)
          refine ⟨(sim.cycle noise).reactor.state :: states, ?_, ?_, ?_⟩
          · rw [published, register_cycle, hpublished, List.map_cons]
          · rw [List.append_assoc] at hcourse
            exact hcourse
          · rw [List.append_assoc, List.singleton_append] at hbatches
            show ((sim.cycle noise).run events).reactor.batchCount + _ = _
            omega

/-- **The course of the batches.**  While no client writes the register of the batch state, whatever
else they write and whatever the noise, the reactor publishes its states in their order; idle,
holding and complete last exactly 5, 30 and 3 cycles, and no longer while they are not over; and the
batches counted are those whose completion it published. -/
theorem published_in_phases (events : List (Event F)) (noise : Noise F) (later : List (Event F))
    (hlater : ∀ value, Event.write 1032 value ∉ later) :
    let sim := (start.run events).cycle noise
    ∃ states, sim.published later = states.map State.code ∧
      InPhases State.next State.duration (sim.reactor.state :: states) ∧
      (sim.run later).reactor.batchCount =
        sim.reactor.batchCount + completions (sim.reactor.state :: states) := by
  intro sim
  have hstopped : sim.reactor.StoppedIsIdle :=
    (cycle_published (run_stoppedIsIdle events) noise).stoppedIsIdle
  have hcourse : Course [sim.reactor.state] sim :=
    ⟨Paced.singleton _ _, rfl, fun hon state hmem ↦ by
      rw [List.mem_singleton.mp hmem]
      exact hstopped hon⟩
  obtain ⟨states, hpublished, hstates, hbatches⟩ :=
    Course.run hlater hcourse (cycle_untouched noise)
  exact ⟨states, hpublished, hstates.toInPhases, hbatches⟩

theorem published_in_phases_still :
    let sim : Simulation ℚ := (start.run []).cycle still
    let later := Event.write 1034 250 :: List.replicate 70 (.cycle still)
    ∃ states, sim.published later = states.map State.code ∧
      InPhases State.next State.duration (sim.reactor.state :: states) ∧
      (sim.run later).reactor.batchCount =
        sim.reactor.batchCount + completions (sim.reactor.state :: states) :=
  published_in_phases [] still _ (by simp)

end Simulation

end VyuhHmi.Simulator
