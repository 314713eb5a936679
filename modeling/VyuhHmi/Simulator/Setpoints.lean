import VyuhHmi.Simulator.Updates

/-!
# The setpoints of the simulated reactor

Four writable registers take a setpoint, which the simulator keeps within limits and publishes in
the place of its own value.  A cycle takes over what it finds in a register if that is not what the
cycle before has published there, and it holds until the register is written again; an emergency
stop takes the agitator's back.
-/

namespace VyuhHmi.Simulator

variable {F : Type} [PyFloat F]

inductive Setpoint
  | temperature | flow | agitator | ph
deriving DecidableEq

namespace Setpoint

def register : Setpoint → ℕ
  | temperature => 1028
  | flow => 1031
  | agitator => 1034
  | ph => 1035

def low : Setpoint → ℤ
  | temperature => 10
  | flow | agitator => 0
  | ph => 30

def high : Setpoint → ℤ
  | temperature => 150
  | flow => 100
  | agitator => 500
  | ph => 130

variable (setpoint : Setpoint)

/-- The setpoint in the reactor. -/
def get (reactor : BatchReactor F) : Option ℤ :=
  match setpoint with
  | temperature => reactor.tempSetpoint
  | flow => reactor.flowSetpoint
  | agitator => reactor.agitatorOverride
  | ph => reactor.phSetpoint

/-- What a written value sets. -/
def set (value : ℤ) : Option ℤ := BatchReactor.setpoint setpoint.low setpoint.high value

/-- Within the limits. -/
def Allows (value : ℤ) : Prop := setpoint.low ≤ value ∧ value ≤ setpoint.high

variable {setpoint} {reactor : BatchReactor F}

theorem allows_of_set {value set : ℤ} (h : setpoint.set value = some set) : setpoint.Allows set := by
  have hlimits : setpoint.low ≤ setpoint.high := by cases setpoint <;> decide
  unfold Setpoint.set BatchReactor.setpoint at h
  split at h
  · cases h
  · obtain rfl := Option.some.inj h
    exact ⟨le_max_left _ _, max_le hlimits (min_le_left _ _)⟩

theorem Allows.nonneg {value : ℤ} (h : setpoint.Allows value) : 0 ≤ value := by
  have hlow : 0 ≤ setpoint.low := by cases setpoint <;> decide
  exact hlow.trans h.1

omit [PyFloat F] in
@[simp] theorem get_handleWrite_self (value : ℤ) :
    setpoint.get (reactor.handleWrite setpoint.register value) = setpoint.set value := by
  cases setpoint <;> rfl

omit [PyFloat F] in
/-- Another register leaves the setpoint, except that an emergency stop clears the agitator's. -/
theorem get_handleWrite {register : ℕ} {value : ℤ} (hregister : register ≠ setpoint.register)
    (hstop : setpoint = agitator → ¬(register = 1032 ∧ value = 0)) :
    setpoint.get (reactor.handleWrite register value) = setpoint.get reactor := by
  by_cases hstate : register = 1032
  · subst hstate
    simp only [BatchReactor.handleWrite, Nat.reduceEqDiff, if_false, if_true]
    by_cases hzero : value = State.idle.code
    · rw [if_pos hzero]
      cases setpoint with
      | agitator => exact absurd ⟨rfl, hzero⟩ (hstop rfl)
      | temperature | flow | ph => rfl
    · rw [if_neg hzero]
      split <;> cases setpoint <;> rfl
  · simp only [BatchReactor.handleWrite, hstate, if_false]
    cases setpoint <;> split_ifs <;> first | rfl | exact absurd ‹_› hregister

/-- The setpoint of the reactor is within the limits. -/
def InLimits (setpoint : Setpoint) (reactor : BatchReactor F) : Prop :=
  ∀ value, setpoint.get reactor = some value → setpoint.Allows value

omit [PyFloat F] in
theorem InLimits.handleWrite (h : setpoint.InLimits reactor) (register : ℕ) (value : ℤ) :
    setpoint.InLimits (reactor.handleWrite register value) := by
  intro set hset
  by_cases hregister : register = setpoint.register
  · subst hregister
    rw [get_handleWrite_self] at hset
    exact allows_of_set hset
  · by_cases hstop : setpoint = agitator ∧ register = 1032 ∧ value = 0
    · obtain ⟨rfl, rfl, rfl⟩ := hstop
      cases hset
    · rw [get_handleWrite hregister fun hagitator hzero ↦ hstop ⟨hagitator, hzero⟩] at hset
      exact h set hset

theorem get_tick (noise : Noise F) : setpoint.get (reactor.tick noise) = setpoint.get reactor := by
  cases setpoint <;> unfold BatchReactor.tick BatchReactor.tickIdle BatchReactor.tickHeating
    BatchReactor.tickHolding BatchReactor.tickCooling BatchReactor.tickComplete <;>
    dsimp only <;> split <;> split <;> rfl

/-- The offset of the register among the published ones. -/
def offset : Setpoint → ℕ
  | temperature => 0
  | flow => 3
  | agitator => 6
  | ph => 7

/-- The register is checked once. -/
theorem split_writableRegisters (setpoint : Setpoint) :
    ∃ front back, writableRegisters = front ++ (setpoint.register, setpoint.offset) :: back ∧
      (∀ entry ∈ front, entry.1 ≠ setpoint.register) ∧
      ∀ entry ∈ back, entry.1 ≠ setpoint.register := by
  cases setpoint with
  | temperature => exact ⟨[], _, rfl, by decide, by decide⟩
  | flow => exact ⟨[(1028, 0)], _, rfl, by decide, by decide⟩
  | agitator => exact ⟨[(1028, 0), (1031, 3), (1032, 4)], _, rfl, by decide, by decide⟩
  | ph => exact ⟨[(1028, 0), (1031, 3), (1032, 4), (1034, 6)], _, rfl, by decide, by decide⟩

/-- A setpoint that is not negative is published as it is. -/
theorem getRegisters_of_get {value : ℤ} (hget : setpoint.get reactor = some value)
    (hpositive : 0 ≤ value) (noise : Noise F) :
    (reactor.getRegisters noise).getD setpoint.offset 0 = value := by
  cases setpoint <;> simp only [get] at hget <;>
    simp [BatchReactor.getRegisters, offset, hget, hpositive]

end Setpoint

namespace Simulation

variable {setpoint : Setpoint} {sim next : Simulation F}

/-- No emergency stop is due that would clear the agitator's setpoint. -/
def Unstopped (setpoint : Setpoint) (sim : Simulation F) : Prop :=
  setpoint = .agitator → sim.registers 1032 = 0 → sim.lastWritten 1032 = some (sim.registers 1032)

/-- The two agree on all that has to do with a setpoint. -/
structure SameSetpoint (setpoint : Setpoint) (sim next : Simulation F) : Prop where
  get : setpoint.get next.reactor = setpoint.get sim.reactor
  registers : next.registers = sim.registers
  lastWritten : next.lastWritten setpoint.register = sim.lastWritten setpoint.register
  unstopped : Unstopped setpoint sim → Unstopped setpoint next

omit [PyFloat F] in
theorem SameSetpoint.trans {between : Simulation F} (hfirst : SameSetpoint setpoint sim between)
    (hsecond : SameSetpoint setpoint between next) : SameSetpoint setpoint sim next :=
  ⟨hsecond.get.trans hfirst.get, hsecond.registers.trans hfirst.registers,
    hsecond.lastWritten.trans hfirst.lastWritten, fun h ↦ hsecond.unstopped (hfirst.unstopped h)⟩

omit [PyFloat F] in
theorem checkWrite_unstopped (h : Unstopped setpoint sim) (register : ℕ) :
    Unstopped setpoint (sim.checkWrite register) := by
  intro hagitator hzero
  show Function.update sim.lastWritten register (some (sim.registers register)) 1032 = _
  by_cases hregister : register = 1032
  · subst hregister
    exact Function.update_self _ _ _
  · rw [Function.update_of_ne (Ne.symm hregister)]
    exact h hagitator hzero

omit [PyFloat F] in
theorem checkWrite_sameSetpoint {register : ℕ} (h : Unstopped setpoint sim)
    (hregister : register ≠ setpoint.register) :
    SameSetpoint setpoint sim (sim.checkWrite register) := by
  refine ⟨?_, rfl, Function.update_of_ne hregister.symm _ _, fun h ↦ checkWrite_unstopped h register⟩
  unfold checkWrite
  dsimp only
  split
  case h_2 => rfl
  case h_1 last hlast =>
    split
    case isFalse => rfl
    case isTrue hchanged =>
      refine Setpoint.get_handleWrite hregister fun hagitator hstop ↦ ?_
      obtain ⟨rfl, hzero⟩ := hstop
      have hnoticed := h hagitator hzero
      rw [hlast] at hnoticed
      exact hchanged (Option.some.inj hnoticed).symm

omit [PyFloat F] in
theorem foldl_checkWrite_sameSetpoint {entries : List (ℕ × ℕ)}
    (hentries : ∀ entry ∈ entries, entry.1 ≠ setpoint.register) (h : Unstopped setpoint sim) :
    SameSetpoint setpoint sim (entries.foldl (fun sim entry ↦ sim.checkWrite entry.1) sim) := by
  induction entries generalizing sim with
  | nil => exact ⟨rfl, rfl, rfl, id⟩
  | cons entry entries ih =>
      have hfirst := checkWrite_sameSetpoint h (hentries entry List.mem_cons_self)
      exact hfirst.trans
        (ih (fun later hmem ↦ hentries later (List.mem_cons_of_mem _ hmem)) (hfirst.unstopped h))

omit [PyFloat F] in
/-- Only the check of its own register has to do with a setpoint. -/
theorem checkWrites_sameSetpoint (h : Unstopped setpoint sim) :
    ∃ before, SameSetpoint setpoint sim before ∧
      SameSetpoint setpoint (before.checkWrite setpoint.register) sim.checkWrites := by
  obtain ⟨front, back, hsplit, hfront, hback⟩ := setpoint.split_writableRegisters
  have hbefore := foldl_checkWrite_sameSetpoint hfront h
  refine ⟨_, hbefore, ?_⟩
  rw [checkWrites, hsplit, List.foldl_append, List.foldl_cons]
  exact foldl_checkWrite_sameSetpoint hback (checkWrite_unstopped (hbefore.unstopped h) _)

omit [PyFloat F] in
theorem get_checkWrite_register {last : ℤ}
    (hlast : sim.lastWritten setpoint.register = some last) :
    setpoint.get (sim.checkWrite setpoint.register).reactor =
      if sim.registers setpoint.register ≠ last then setpoint.set (sim.registers setpoint.register)
      else setpoint.get sim.reactor := by
  rw [checkWrite, hlast]
  dsimp only
  split
  · exact Setpoint.get_handleWrite_self _
  · rfl

omit [PyFloat F] in
/-- What the checks find in the register is passed on if it has changed. -/
theorem get_checkWrites (h : Unstopped setpoint sim) {last : ℤ}
    (hlast : sim.lastWritten setpoint.register = some last) :
    setpoint.get sim.checkWrites.reactor =
      if sim.registers setpoint.register ≠ last then setpoint.set (sim.registers setpoint.register)
      else setpoint.get sim.reactor := by
  obtain ⟨before, hbefore, hafter⟩ := checkWrites_sameSetpoint h
  rw [hafter.get, get_checkWrite_register (hbefore.lastWritten.trans hlast), hbefore.registers,
    hbefore.get]

omit [PyFloat F] in
/-- An emergency stop that is noticed clears the agitator's setpoint, before its register is
checked. -/
theorem get_checkWrites_of_stopped (hzero : sim.registers 1032 = 0) {state last : ℤ}
    (hstate : sim.lastWritten 1032 = some state) (hne : state ≠ 0)
    (hlast : sim.lastWritten 1034 = some last) :
    Setpoint.agitator.get sim.checkWrites.reactor =
      if sim.registers 1034 ≠ last then Setpoint.agitator.set (sim.registers 1034) else none := by
  have hstopped : Setpoint.agitator.get
      (((sim.checkWrite 1028).checkWrite 1031).checkWrite 1032).reactor = none := by
    have hnoticed : ((sim.checkWrite 1028).checkWrite 1031).lastWritten 1032 = some state := hstate
    rw [checkWrite, hnoticed]
    dsimp only
    have hfound : ((sim.checkWrite 1028).checkWrite 1031).registers 1032 = 0 := hzero
    rw [hfound, if_pos hne.symm]
    rfl
  have hown := @get_checkWrite_register F .agitator
    (((sim.checkWrite 1028).checkWrite 1031).checkWrite 1032) last hlast
  rw [hstopped] at hown
  have hunstopped : Unstopped .agitator
      ((((sim.checkWrite 1028).checkWrite 1031).checkWrite 1032).checkWrite 1034) := fun _ _ ↦ rfl
  exact (checkWrite_sameSetpoint hunstopped (by decide)).get.trans hown

/-! ## Cycles -/

theorem registers_cycle (noise : Noise F) (setpoint : Setpoint) :
    (sim.cycle noise).registers setpoint.register =
      ((sim.cycle noise).reactor.getRegisters noise).getD setpoint.offset 0 := by
  cases setpoint <;>
    simp [cycle, writableRegisters, noteWritten, setValues, Setpoint.register, Setpoint.offset,
      BatchReactor.getRegisters]

theorem lastWritten_cycle_register (noise : Noise F) (setpoint : Setpoint) :
    (sim.cycle noise).lastWritten setpoint.register =
      some ((sim.cycle noise).registers setpoint.register) := by
  rw [registers_cycle]
  cases setpoint <;> rfl

/-- The setpoint is `value`, which is published, and the cycles know of it. -/
structure Holds (setpoint : Setpoint) (value : Option ℤ) (sim : Simulation F) : Prop where
  get : setpoint.get sim.reactor = value
  allows : ∀ set, value = some set → setpoint.Allows set
  published : ∀ set, value = some set → sim.registers setpoint.register = set
  noticed : sim.lastWritten setpoint.register = some (sim.registers setpoint.register)
  unstopped : Unstopped setpoint sim

theorem cycle_unstopped (noise : Noise F) : Unstopped setpoint (sim.cycle noise) := by
  intro _ _
  rw [register_cycle, lastWritten_cycle]

theorem Holds.of_checkWrites {value : Option ℤ} (h : setpoint.get sim.checkWrites.reactor = value)
    (hallows : ∀ set, value = some set → setpoint.Allows set) (noise : Noise F) :
    Holds setpoint value (sim.cycle noise) := by
  have hget : setpoint.get (sim.cycle noise).reactor = value := by
    rw [reactor_cycle, Setpoint.get_tick, h]
  refine ⟨hget, hallows, fun set hset ↦ ?_, lastWritten_cycle_register noise setpoint,
    cycle_unstopped noise⟩
  rw [registers_cycle, Setpoint.getRegisters_of_get (hget.trans hset) (hallows set hset).nonneg]

theorem Holds.cycle {value : Option ℤ} (h : Holds setpoint value sim) (noise : Noise F) :
    Holds setpoint value (sim.cycle noise) := by
  refine .of_checkWrites ?_ h.allows noise
  rw [get_checkWrites h.unstopped h.noticed, if_neg (not_not.mpr rfl), h.get]

omit [PyFloat F] in
theorem Unstopped.write (h : Unstopped setpoint sim) {register : ℕ} {value : UInt16}
    (hstop : setpoint = .agitator → ¬(register = 1032 ∧ value = 0)) :
    Unstopped setpoint (sim.write register value) := by
  intro hagitator hzero
  simp only [Simulation.write] at hzero ⊢
  by_cases hregister : register = 1032
  · subst hregister
    rw [Function.update_self] at hzero
    have hvalue : value.toNat = (0 : UInt16).toNat := by exact_mod_cast hzero
    exact absurd ⟨rfl, UInt16.toNat_inj.mp hvalue⟩ (hstop hagitator)
  · rw [Function.update_of_ne (Ne.symm hregister)] at hzero ⊢
    exact h hagitator hzero

omit [PyFloat F] in
theorem Holds.write {value : Option ℤ} (h : Holds setpoint value sim) {register : ℕ}
    {written : UInt16} (hregister : register ≠ setpoint.register)
    (hstop : setpoint = .agitator → ¬(register = 1032 ∧ written = 0)) :
    Holds setpoint value (sim.write register written) := by
  have hsame : (sim.write register written).registers setpoint.register =
      sim.registers setpoint.register := Function.update_of_ne hregister.symm _ _
  refine ⟨h.get, h.allows, ?_, ?_, h.unstopped.write hstop⟩
  · rw [hsame]
    exact h.published
  · rw [hsame]
    exact h.noticed

/-- The events of a run that leave a setpoint alone. -/
def LeavesAlone (setpoint : Setpoint) : Event F → Prop
  | .write register value =>
      register ≠ setpoint.register ∧ (setpoint = .agitator → ¬(register = 1032 ∧ value = 0))
  | .cycle _ => True

/-- Run lemma: a setpoint that holds goes on holding. -/
theorem Holds.run {value : Option ℤ} (h : Holds setpoint value sim) {events : List (Event F)}
    (hevents : ∀ event ∈ events, LeavesAlone setpoint event) :
    Holds setpoint value (sim.run events) := by
  induction events using List.reverseRecOn with
  | nil => exact h
  | append_singleton events event ih =>
      rw [run_append_singleton]
      have hbefore := ih fun earlier hmem ↦ hevents earlier (List.mem_append_left _ hmem)
      have hlast := hevents event List.mem_concat_self
      cases event with
      | write register written => exact hbefore.write hlast.1 hlast.2
      | cycle noise => exact hbefore.cycle noise

/-! ## The limits -/

omit [PyFloat F] in
theorem inLimits_checkWrites (h : setpoint.InLimits sim.reactor) :
    setpoint.InLimits sim.checkWrites.reactor := by
  unfold checkWrites
  generalize writableRegisters = entries
  induction entries generalizing sim with
  | nil => exact h
  | cons entry entries ih =>
      rw [List.foldl_cons]
      apply ih
      rcases @reactor_checkWrite_cases F sim entry.1 with hreactor | hreactor
      · rwa [hreactor]
      · rw [hreactor]
        exact h.handleWrite _ _

/-- In every run the setpoints are within their limits. -/
theorem inLimits_run (setpoint : Setpoint) (events : List (Event F)) :
    setpoint.InLimits (start.run events : Simulation F).reactor := by
  induction events using List.reverseRecOn with
  | nil =>
      intro value hvalue
      cases setpoint <;> cases hvalue
  | append_singleton events event ih =>
      rw [run_append_singleton]
      cases event with
      | write register value => exact ih
      | cycle noise =>
          intro value hvalue
          rw [step, reactor_cycle, Setpoint.get_tick] at hvalue
          exact inLimits_checkWrites ih value hvalue

/-! ## Writes between two cycles -/

/-- The clients write to the registers only. -/
theorem run_ofWrite (sim : Simulation F) (requests : List (ℕ × UInt16)) :
    (sim.run (requests.map .ofWrite)).reactor = sim.reactor ∧
      (sim.run (requests.map .ofWrite)).lastWritten = sim.lastWritten := by
  induction requests generalizing sim with
  | nil => exact ⟨rfl, rfl⟩
  | cons request requests ih => exact ih (sim.write request.1 request.2)

/-- What a cycle makes of the setpoint if it finds these registers after the last cycle has
published others. -/
def passedOn (setpoint : Setpoint) (published found : Simulation F) : Option ℤ :=
  if found.registers setpoint.register ≠ published.registers setpoint.register then
    setpoint.set (found.registers setpoint.register)
  else if setpoint = .agitator ∧ found.registers 1032 = 0 ∧ published.registers 1032 ≠ 0 then none
  else setpoint.get published.reactor

theorem get_checkWrites_eq_passedOn (setpoint : Setpoint) (noise : Noise F)
    (between : List (ℕ × UInt16)) :
    setpoint.get ((sim.cycle noise).run (between.map .ofWrite)).checkWrites.reactor =
      passedOn setpoint (sim.cycle noise) ((sim.cycle noise).run (between.map .ofWrite)) := by
  obtain ⟨hreactor, hwritten⟩ := run_ofWrite (sim.cycle noise) between
  have hstate : (sim.cycle noise).lastWritten 1032 = some ((sim.cycle noise).registers 1032) := by
    rw [lastWritten_cycle, register_cycle]
  generalize (sim.cycle noise).run (between.map .ofWrite) = found at hreactor hwritten ⊢
  have hlast := @lastWritten_cycle_register F _ sim noise setpoint
  rw [← hwritten] at hlast hstate
  unfold passedOn
  by_cases hstop : setpoint = .agitator ∧ found.registers 1032 = 0 ∧
      (sim.cycle noise).registers 1032 ≠ 0
  · rw [if_pos hstop]
    obtain ⟨rfl, hzero, hne⟩ := hstop
    exact get_checkWrites_of_stopped hzero hstate hne hlast
  · have hunstopped : Unstopped setpoint found := by
      intro hagitator hzero
      rw [hstate, hzero]
      by_contra hne
      exact hstop ⟨hagitator, hzero, fun heq ↦ hne (by rw [heq])⟩
    rw [if_neg hstop, get_checkWrites hunstopped hlast, hreactor]

omit [PyFloat F] in
theorem allows_passedOn {published found : Simulation F} (h : setpoint.InLimits published.reactor)
    {value : ℤ} (hvalue : passedOn setpoint published found = some value) :
    setpoint.Allows value := by
  unfold passedOn at hvalue
  split at hvalue
  · exact Setpoint.allows_of_set hvalue
  · split at hvalue
    · cases hvalue
    · exact h value hvalue

/-- **A setpoint holds.**  Whatever the clients write between two cycles, the second takes over what
it finds in the register of a setpoint if that is not what the first has published there, brought
within the limits; a zero leaves the reactor without a setpoint, as an emergency stop does the
agitator.  From then on, whatever is written to other registers and whatever the noise, it stays and
is published until the register is written again or, for the agitator, the emergency stop is. -/
theorem setpoint_holds (setpoint : Setpoint) (earlier : List (Event F)) (noise next : Noise F)
    (between : List (ℕ × UInt16)) (later : List (Event F))
    (hlater : ∀ event ∈ later, LeavesAlone setpoint event) {published found sim : Simulation F}
    (hpublished : (start.run earlier).cycle noise = published)
    (hfound : published.run (between.map .ofWrite) = found)
    (hsim : (found.cycle next).run later = sim) :
    setpoint.get sim.reactor = passedOn setpoint published found ∧
      ∀ value, passedOn setpoint published found = some value →
        setpoint.low ≤ value ∧ value ≤ setpoint.high ∧ sim.registers setpoint.register = value := by
  subst hsim hfound hpublished
  have hlimits := inLimits_run setpoint (earlier ++ [.cycle noise])
  rw [run_append_singleton] at hlimits
  have hholds := (Holds.of_checkWrites (get_checkWrites_eq_passedOn setpoint noise between)
    (fun value hvalue ↦ allows_passedOn hlimits hvalue) next).run hlater
  refine ⟨hholds.get, fun value hvalue ↦ ?_⟩
  obtain ⟨hlow, hhigh⟩ := hholds.allows value hvalue
  exact ⟨hlow, hhigh, hholds.published value hvalue⟩

/-- The agitator is set beyond its limit, and stays; a temperature that is taken back before the next
cycle is not noticed. -/
theorem setpoint_holds_agitator :
    let published : Simulation ℚ := (start.run []).cycle still
    let found := published.run ([(1034, 900), (1028, 90), (1028, 25)].map .ofWrite)
    let sim := (found.cycle still).run [.cycle still, .write 1028 70, .write 1032 1, .cycle still]
    sim.registers 1034 = 500 ∧ Setpoint.temperature.get (found.cycle still).reactor = none := by
  intro published found sim
  have hagitator := setpoint_holds .agitator [] still still [(1034, 900), (1028, 90), (1028, 25)]
    [.cycle still, .write 1028 70, .write 1032 1, .cycle still]
    (by simp [LeavesAlone, Setpoint.register]) rfl rfl rfl
  have htemperature := setpoint_holds .temperature [] still still
    [(1034, 900), (1028, 90), (1028, 25)] [] (by simp) rfl rfl rfl
  exact ⟨(hagitator.2 500 (by decide +kernel)).2.2, htemperature.1.trans (by decide +kernel)⟩

end Simulation
end VyuhHmi.Simulator
