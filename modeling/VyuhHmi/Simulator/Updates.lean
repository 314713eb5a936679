import Mathlib.Data.List.Infix
import Mathlib.Logic.Function.Basic
import VyuhHmi.Simulator.Reactor

/-!
# The update cycle of the simulator

Once a second the simulator compares its writable registers with what it wrote there itself, passes
on what has changed, lets the reactor run for a second and publishes the registers.  Between two
cycles clients write to any register.  A write of what the register holds already is not noticed:
the emergency stop is lost on a reactor that is idle but not stopped.
-/

namespace VyuhHmi.Simulator

variable {F : Type} [PyFloat F]

/-- The reactor, the holding registers, and the values last written to the writable ones. -/
structure Simulation (F : Type) where
  reactor : BatchReactor F
  registers : ℕ → ℤ
  lastWritten : ℕ → Option ℤ

/-- Writable register addresses and their offsets from base (1028). -/
def writableRegisters : List (ℕ × ℕ) := [(1028, 0), (1031, 3), (1032, 4), (1034, 6), (1035, 7)]

namespace Simulation

def start : Simulation F where
  reactor := BatchReactor.init
  registers := fun _ ↦ 0
  lastWritten := fun _ ↦ none

/-- A client writes a register. -/
def write (sim : Simulation F) (register : ℕ) (value : UInt16) : Simulation F :=
  { sim with registers := Function.update sim.registers register value.toNat }

/-- Pass on the value of one register if it is not the one last written. -/
def checkWrite (sim : Simulation F) (register : ℕ) : Simulation F :=
  let current := sim.registers register
  let reactor :=
    match sim.lastWritten register with
    | some last =>
        if current ≠ last then sim.reactor.handleWrite register current else sim.reactor
    | none => sim.reactor
  { sim with
    reactor := reactor
    lastWritten := Function.update sim.lastWritten register (some current) }

/-- The comparison of all writable registers. -/
def checkWrites (sim : Simulation F) : Simulation F :=
  writableRegisters.foldl (fun sim entry ↦ sim.checkWrite entry.1) sim

/-- The values go to consecutive registers, from 1028 on. -/
def setValues (sim : Simulation F) (values : List ℤ) : Simulation F :=
  { sim with
    registers := fun register ↦
      if 1028 ≤ register ∧ register < 1028 + values.length then values.getD (register - 1028) 0
      else sim.registers register }

/-- Update the value last written after the simulation writes. -/
def noteWritten (sim : Simulation F) (values : List ℤ) (register offset : ℕ) : Simulation F :=
  { sim with
    lastWritten := Function.update sim.lastWritten register (some (values.getD offset 0)) }

/-- One turn of the loop of `update_values`. -/
def cycle (sim : Simulation F) (noise : Noise F) : Simulation F :=
  let checked := sim.checkWrites
  let ticked := { checked with reactor := checked.reactor.tick noise }
  let values := ticked.reactor.getRegisters noise
  writableRegisters.foldl (fun sim entry ↦ sim.noteWritten values entry.1 entry.2)
    (ticked.setValues values)

end Simulation

/-- What happens to the simulator. -/
inductive Event (F : Type)
  | write (register : ℕ) (value : UInt16)
  | cycle (noise : Noise F)

/-- A client's write, as a register and a value. -/
def Event.ofWrite (request : ℕ × UInt16) : Event F := .write request.1 request.2

namespace Simulation

def step (sim : Simulation F) : Event F → Simulation F
  | .write register value => sim.write register value
  | .cycle noise => sim.cycle noise

def run (sim : Simulation F) (events : List (Event F)) : Simulation F := events.foldl step sim

/-! ## What the register of the batch state does -/

/-- The register of the batch state holds a zero that is not the published state, or the reactor is
stopped already and the register does not tell it to start. -/
def StopDue (sim : Simulation F) : Prop :=
  sim.registers 1032 = 0 ∧ sim.reactor.state ≠ .idle ∨
    sim.reactor.emergencyStopped = true ∧ sim.registers 1032 ≠ 1

instance (sim : Simulation F) : Decidable sim.StopDue := inferInstanceAs (Decidable (_ ∨ _))

/-- A cycle has published the state that the reactor is in. -/
structure Published (sim : Simulation F) : Prop where
  stoppedIsIdle : sim.reactor.StoppedIsIdle
  lastWritten : sim.lastWritten 1032 = some sim.reactor.state.code

/-- The two agree on all that the register of the batch state has to do with. -/
structure SameStop (sim next : Simulation F) : Prop where
  state : next.reactor.state = sim.reactor.state
  emergencyStopped : next.reactor.emergencyStopped = sim.reactor.emergencyStopped
  register : next.registers 1032 = sim.registers 1032
  lastWritten : next.lastWritten 1032 = sim.lastWritten 1032

omit [PyFloat F] in
theorem SameStop.trans {sim between next : Simulation F} (hfirst : sim.SameStop between)
    (hsecond : between.SameStop next) : sim.SameStop next :=
  ⟨hsecond.state.trans hfirst.state, hsecond.emergencyStopped.trans hfirst.emergencyStopped,
    hsecond.register.trans hfirst.register, hsecond.lastWritten.trans hfirst.lastWritten⟩

variable {sim next : Simulation F}

omit [PyFloat F] in
theorem SameStop.stoppedIsIdle (h : sim.SameStop next) (hidle : sim.reactor.StoppedIsIdle) :
    next.reactor.StoppedIsIdle := by
  intro hstopped
  rw [h.state]
  exact hidle (h.emergencyStopped ▸ hstopped)

omit [PyFloat F] in
theorem SameStop.published (h : sim.SameStop next) (hsim : sim.Published) : next.Published :=
  ⟨h.stoppedIsIdle hsim.stoppedIsIdle, by rw [h.lastWritten, h.state, hsim.lastWritten]⟩

omit [PyFloat F] in
theorem SameStop.stopDue_iff (h : sim.SameStop next) : next.StopDue ↔ sim.StopDue := by
  unfold StopDue
  rw [h.state, h.emergencyStopped, h.register]

omit [PyFloat F] in
/-- The value is passed on, or the reactor is left alone. -/
theorem reactor_checkWrite_cases (register : ℕ) :
    (sim.checkWrite register).reactor = sim.reactor ∨
      (sim.checkWrite register).reactor =
        sim.reactor.handleWrite register (sim.registers register) := by
  unfold checkWrite
  dsimp only
  cases sim.lastWritten register with
  | none => exact .inl rfl
  | some last =>
      by_cases hsame : sim.registers register = last
      · exact .inl (if_neg (not_not.mpr hsame))
      · exact .inr (if_pos hsame)

omit [PyFloat F] in
/-- The other registers have nothing to do with it. -/
theorem checkWrite_sameStop {register : ℕ} (h : register ≠ 1032) :
    sim.SameStop (sim.checkWrite register) := by
  have hlast : (sim.checkWrite register).lastWritten 1032 = sim.lastWritten 1032 :=
    Function.update_of_ne h.symm _ _
  rcases @reactor_checkWrite_cases F sim register with hreactor | hreactor
  · exact ⟨congrArg _ hreactor, congrArg _ hreactor, rfl, hlast⟩
  · have hwritten := sim.reactor.handleWrite_of_ne h (sim.registers register)
    rw [← hreactor] at hwritten
    exact ⟨hwritten.1, hwritten.2, rfl, hlast⟩

omit [PyFloat F] in
/-- A value passed on from the register of the batch state keeps a stopped reactor idle. -/
theorem handleWrite_stoppedIsIdle {reactor : BatchReactor F} (h : reactor.StoppedIsIdle)
    (value : ℤ) : (reactor.handleWrite 1032 value).StoppedIsIdle := by
  unfold BatchReactor.handleWrite
  simp only [Nat.reduceEqDiff, if_false, if_true]
  split_ifs
  · exact fun _ ↦ rfl
  · exact fun hfalse ↦ nomatch hfalse
  · exact h

omit [PyFloat F] in
theorem checkWrite_stoppedIsIdle (h : sim.reactor.StoppedIsIdle) :
    (sim.checkWrite 1032).reactor.StoppedIsIdle := by
  rcases @reactor_checkWrite_cases F sim 1032 with hreactor | hreactor
  · rw [hreactor]
    exact h
  · rw [hreactor]
    exact handleWrite_stoppedIsIdle h _

omit [PyFloat F] in
/-- The comparison of the batch state's register stops the reactor exactly when that is due. -/
theorem emergencyStopped_checkWrite_iff (h : sim.Published) :
    (sim.checkWrite 1032).reactor.emergencyStopped = true ↔ sim.StopDue := by
  have hidle := h.stoppedIsIdle
  unfold checkWrite StopDue
  simp only [h.lastWritten, BatchReactor.StoppedIsIdle] at hidle ⊢
  by_cases hsame : sim.registers 1032 = sim.reactor.state.code
  · -- nothing is passed on: the register holds the published state
    rw [if_neg (not_not.mpr hsame), hsame, State.code_eq_zero_iff]
    constructor
    · intro hstopped
      exact .inr ⟨hstopped, by rw [hidle hstopped]; decide⟩
    · rintro (⟨hzero, hne⟩ | ⟨hstopped, -⟩)
      · exact absurd hzero hne
      · exact hstopped
  · rw [if_pos hsame]
    unfold BatchReactor.handleWrite
    simp only [Nat.reduceEqDiff, if_false, if_true]
    split_ifs with hzero hone
    · -- a stop
      have hzero' : sim.registers 1032 = 0 := hzero
      rw [hzero'] at hsame
      simp only [hzero', true_and, true_iff]
      exact .inl fun hstate ↦ hsame (hstate ▸ rfl)
    · -- a start
      have hone' : sim.registers 1032 = 1 := hone
      simp [hone', BatchReactor.transition]
    · have hzero' : sim.registers 1032 ≠ 0 := hzero
      have hone' : sim.registers 1032 ≠ 1 := hone
      simp [hzero', hone']

/-! ## One cycle -/

omit [PyFloat F] in
/-- Up to what has nothing to do with it, only the batch state's register is compared. -/
theorem checkWrites_sameStop :
    ∃ before, sim.SameStop before ∧ (before.checkWrite 1032).SameStop sim.checkWrites :=
  ⟨(sim.checkWrite 1028).checkWrite 1031,
    (checkWrite_sameStop (by decide)).trans (checkWrite_sameStop (by decide)),
    (checkWrite_sameStop (by decide)).trans (checkWrite_sameStop (by decide))⟩

omit [PyFloat F] in
theorem checkWrites_stoppedIsIdle (h : sim.reactor.StoppedIsIdle) :
    sim.checkWrites.reactor.StoppedIsIdle := by
  obtain ⟨before, hbefore, hafter⟩ := @checkWrites_sameStop F sim
  exact hafter.stoppedIsIdle (checkWrite_stoppedIsIdle (hbefore.stoppedIsIdle h))

omit [PyFloat F] in
theorem emergencyStopped_checkWrites_iff (h : sim.Published) :
    sim.checkWrites.reactor.emergencyStopped = true ↔ sim.StopDue := by
  obtain ⟨before, hbefore, hafter⟩ := @checkWrites_sameStop F sim
  rw [hafter.emergencyStopped, emergencyStopped_checkWrite_iff (hbefore.published h),
    hbefore.stopDue_iff]

theorem reactor_cycle (noise : Noise F) :
    (sim.cycle noise).reactor = sim.checkWrites.reactor.tick noise := rfl

/-- The cycle publishes the state it leaves the reactor in. -/
theorem lastWritten_cycle (noise : Noise F) :
    (sim.cycle noise).lastWritten 1032 = some (sim.cycle noise).reactor.state.code := rfl

theorem register_cycle (noise : Noise F) :
    (sim.cycle noise).registers 1032 = (sim.cycle noise).reactor.state.code := by
  simp [cycle, writableRegisters, noteWritten, setValues, BatchReactor.getRegisters]

/-- Whatever the clients wrote, a cycle leaves a stopped reactor idle and publishes its state. -/
theorem cycle_published (h : sim.reactor.StoppedIsIdle) (noise : Noise F) :
    (sim.cycle noise).Published :=
  ⟨BatchReactor.tick_stoppedIsIdle (checkWrites_stoppedIsIdle h) noise, lastWritten_cycle noise⟩

theorem emergencyStopped_cycle_iff (h : sim.Published) (noise : Noise F) :
    (sim.cycle noise).reactor.emergencyStopped = true ↔ sim.StopDue := by
  rw [reactor_cycle, BatchReactor.emergencyStopped_tick, emergencyStopped_checkWrites_iff h]

/-! ## Runs -/

theorem run_append_singleton (events : List (Event F)) (event : Event F) :
    sim.run (events ++ [event]) = (sim.run events).step event := by
  simp [run, List.foldl_append]

/-- In every run a stopped reactor is idle. -/
theorem run_stoppedIsIdle (events : List (Event F)) :
    (start.run events : Simulation F).reactor.StoppedIsIdle := by
  induction events using List.reverseRecOn with
  | nil => exact fun hfalse ↦ nomatch hfalse
  | append_singleton events event ih =>
      rw [run_append_singleton]
      cases event with
      | write register value => exact ih
      | cycle noise => exact (cycle_published ih noise).stoppedIsIdle

/-- From the first cycle on the state last written is the reactor's. -/
theorem run_published {events : List (Event F)} (h : ∃ noise, Event.cycle noise ∈ events) :
    (start.run events : Simulation F).Published := by
  induction events using List.reverseRecOn with
  | nil =>
      obtain ⟨noise, hnoise⟩ := h
      exact absurd hnoise List.not_mem_nil
  | append_singleton events event ih =>
      rw [run_append_singleton]
      cases event with
      | write register value =>
          obtain ⟨noise, hnoise⟩ := h
          have hearlier : Event.cycle noise ∈ events := by simpa using hnoise
          have hpublished := ih ⟨noise, hearlier⟩
          exact ⟨hpublished.stoppedIsIdle, hpublished.lastWritten⟩
      | cycle noise => exact cycle_published (run_stoppedIsIdle events) noise

/-- Stopped, and not told to start. -/
structure Stopped (sim : Simulation F) : Prop where
  published : sim.Published
  emergencyStopped : sim.reactor.emergencyStopped = true
  register : sim.registers 1032 ≠ 1

theorem Stopped.cycle (h : sim.Stopped) (noise : Noise F) : (sim.cycle noise).Stopped := by
  have hpublished := cycle_published h.published.stoppedIsIdle noise
  have hstopped := (emergencyStopped_cycle_iff h.published noise).mpr
    (.inr ⟨h.emergencyStopped, h.register⟩)
  refine ⟨hpublished, hstopped, ?_⟩
  rw [register_cycle, hpublished.stoppedIsIdle hstopped]
  decide

omit [PyFloat F] in
theorem Stopped.write (h : sim.Stopped) {register : ℕ} {value : UInt16}
    (hwrite : ¬(register = 1032 ∧ value = 1)) : (sim.write register value).Stopped := by
  refine ⟨⟨h.published.stoppedIsIdle, h.published.lastWritten⟩, h.emergencyStopped, ?_⟩
  change Function.update sim.registers register (value.toNat : ℤ) 1032 ≠ 1
  by_cases hregister : register = 1032
  · subst hregister
    rw [Function.update_self]
    intro hone
    have hvalue : value.toNat = (1 : UInt16).toNat := by exact_mod_cast hone
    exact hwrite ⟨rfl, UInt16.toNat_inj.mp hvalue⟩
  · rw [Function.update_of_ne (Ne.symm hregister)]
    exact h.register

/-- Run lemma: the reactor stays stopped until a client writes 1. -/
theorem Stopped.run (h : sim.Stopped) {events : List (Event F)}
    (hevents : ∀ event ∈ events, event ≠ .write 1032 1) : (sim.run events).Stopped := by
  induction events using List.reverseRecOn with
  | nil => exact h
  | append_singleton events event ih =>
      rw [run_append_singleton]
      have hbefore := ih fun earlier hmem ↦ hevents earlier (List.mem_append_left _ hmem)
      have hlast := hevents event (by simp)
      cases event with
      | write register value =>
          refine hbefore.write fun hwrite ↦ hlast ?_
          rw [hwrite.1, hwrite.2]
      | cycle noise => exact hbefore.cycle noise

/-- The next cycle leaves the reactor idle with the emergency stop latched, and it stays idle until
a client writes 1 to the register of the batch state. -/
def StopsUntilStart (sim : Simulation F) (noise : Noise F) : Prop :=
  (sim.cycle noise).reactor.state = .idle ∧ (sim.cycle noise).reactor.emergencyStopped = true ∧
    ∀ later : List (Event F), (∀ event ∈ later, event ≠ .write 1032 1) →
      ((sim.cycle noise).run later).reactor.state = .idle

theorem stopsUntilStart_iff (h : sim.Published) (noise : Noise F) :
    sim.StopsUntilStart noise ↔ sim.StopDue := by
  constructor
  · intro hstops
    exact (emergencyStopped_cycle_iff h noise).mp hstops.2.1
  · intro hdue
    have hpublished := cycle_published h.stoppedIsIdle noise
    have hstopped := (emergencyStopped_cycle_iff h noise).mpr hdue
    have hidle := hpublished.stoppedIsIdle hstopped
    refine ⟨hidle, hstopped, fun later hlater ↦ ?_⟩
    have hnext : (sim.cycle noise).Stopped :=
      ⟨hpublished, hstopped, by rw [register_cycle, hidle]; decide⟩
    have hrun := hnext.run hlater
    exact hrun.published.stoppedIsIdle hrun.emergencyStopped

/-- **A zero written to the batch state's register** after the first cycle, with any other writes
around it, stops the reactor until it is told to start exactly when the next cycle finds a zero that
is not the published state, or a reactor that is stopped already and not told to start. -/
theorem write_zero_stopsUntilStart_iff {earlier : List (Event F)}
    (hearlier : ∃ noise, Event.cycle noise ∈ earlier) (after : List (ℕ × UInt16))
    (noise : Noise F) :
    (start.run (earlier ++ [.write 1032 0] ++ after.map .ofWrite)).StopsUntilStart noise ↔
      (start.run (earlier ++ [.write 1032 0] ++ after.map .ofWrite)).StopDue := by
  obtain ⟨first, hfirst⟩ := hearlier
  exact stopsUntilStart_iff (run_published ⟨first, by simp [hfirst]⟩) noise

/-- A second without random disturbance. -/
def still : Noise ℚ where
  temperature := 0
  pressure := 0
  flow := 0
  agitator := 0
  ph := 0
  humidity := 0

theorem write_zero_stopsUntilStart_still :
    (start.run ([.cycle still] ++ [.write 1032 0] ++ [])).StopsUntilStart still ↔
      (start.run ([.cycle still] ++ [.write 1032 0] ++ []) : Simulation ℚ).StopDue :=
  write_zero_stopsUntilStart_iff ⟨still, by simp⟩ [] still

/-- The reactor idles between two batches: the stop is not noticed, and the next batch starts. -/
theorem write_zero_lost_when_idle :
    let sim : Simulation ℚ := start.run ([.cycle still] ++ [.write 1032 0])
    ¬sim.StopsUntilStart still ∧
      (sim.run (List.replicate 4 (.cycle still))).reactor.state = .heating := by
  refine ⟨fun hstops ↦ ?_, ?_⟩
  · exact absurd hstops.2.1 (by decide +kernel)
  · decide +kernel

end Simulation

end VyuhHmi.Simulator
