import VyuhHmi.Device.Clients
import VyuhHmi.Foundation.Transition

/-!
# The OPC UA simulator

A polling action ticks the simulated filling line once a second and publishes its values.  The batch
goes round in 120 ticks: it starts on the tick that is 10 modulo 60, and what is left of the second
minute after it is complete is the pause before the next one.  The measurements are functions of the
tick alone; their arithmetic is a parameter.
-/

namespace VyuhHmi.OpcUaSim

open Transition

/-- What the simulator does with `f64`. -/
class RustFloat (F : Type) extends Add F, Mul F where
  lit : ℚ → F
  ofU32 : UInt32 → F
  sin : F → F
  cos : F → F
  /-- `as u16`, which saturates. -/
  asU16 : F → UInt16

/-- Simulation state. -/
structure SimState where
  temperature : UInt16
  pressure : UInt16
  humidity : UInt16
  flowRate : UInt16
  batchState : UInt16
  batchProgress : UInt16
  ph : UInt16
  agitatorRpm : UInt16
  tickCount : UInt32
deriving DecidableEq

namespace SimState

def default : SimState where
  temperature := 65
  pressure := 1013
  humidity := 45
  flowRate := 50
  batchState := 0
  batchProgress := 0
  ph := 70
  agitatorRpm := 0
  tickCount := 0

/-- `self.tick_count += 1`. -/
def nextTick (overflowChecks : Bool) (tickCount : UInt32) : Option UInt32 :=
  if overflowChecks && tickCount == UInt32.ofNat (2 ^ 32 - 1) then none else some (tickCount + 1)

/-- Batch process state machine, on the second of the minute: the phase and the progress. -/
def advance (overflowChecks : Bool) (second : ℕ) (batchState batchProgress : UInt16) :
    Option (UInt16 × UInt16) :=
  match batchState with
  | 0 => some (if second = 10 then (1, 0) else (0, batchProgress))
  | 1 => (addU16 overflowChecks batchProgress 2).map fun raised ↦
      let progress := min raised 30
      (if 30 ≤ progress then 2 else 1, progress)
  | 2 => (addU16 overflowChecks batchProgress 1).map fun raised ↦
      let progress := min raised 90
      (if 90 ≤ progress then 3 else 2, progress)
  | 3 => (addU16 overflowChecks batchProgress 1).map fun raised ↦
      let progress := min raised 100
      (if 100 ≤ progress then 4 else 3, progress)
  | 4 => some (if second = 0 then (0, 0) else (4, batchProgress))
  | _ => some (0, batchProgress)

/-- Agitator RPM: driven by batch state. -/
def agitatorFor : UInt16 → UInt16
  | 1 => 150
  | 2 => 300
  | 3 => 100
  | _ => 0

open RustFloat

/-- A wave over the ticks, about a middle value. -/
def wave {F : Type} [RustFloat F] (f : F → F) (middle swing rate : ℚ) (tickCount : UInt32) :
    UInt16 :=
  asU16 (lit middle + f (ofU32 tickCount * lit rate) * lit swing)

/-- One second; `none` is a panic on overflow. -/
def tick (F : Type) [RustFloat F] (overflowChecks : Bool) (s : SimState) : Option SimState :=
  (nextTick overflowChecks s.tickCount).bind fun tickCount ↦
    (advance overflowChecks (tickCount % 60).toNat s.batchState s.batchProgress).map
      fun (batchState, batchProgress) ↦
        { temperature := wave (F := F) sin 70 10 0.05 tickCount
          pressure := wave (F := F) cos 1013 50 0.03 tickCount
          humidity := wave (F := F) sin 47 8 0.02 tickCount
          flowRate := wave (F := F) sin 50 5 0.04 tickCount
          batchState := batchState
          batchProgress := batchProgress
          ph := wave (F := F) sin 70 2 0.025 tickCount
          agitatorRpm := agitatorFor batchState
          tickCount := tickCount }

/-- The state after this many seconds. -/
def after (F : Type) [RustFloat F] (overflowChecks : Bool) : ℕ → Option SimState
  | 0 => some default
  | n + 1 => (after F overflowChecks n).bind (tick F overflowChecks)

end SimState

/-! ## The cycle -/

/-- The phase after a number of ticks. -/
def phaseAt (n : ℕ) : UInt16 :=
  let k := n % 120
  if k < 10 then 0 else if k < 25 then 1 else if k < 85 then 2 else if k < 95 then 3 else 4

/-- The progress after a number of ticks. -/
def progressAt (n : ℕ) : UInt16 :=
  let k := n % 120
  UInt16.ofNat (if k < 10 then 0 else if k < 25 then 2 * (k - 10) else if k < 95 then k + 5 else 100)

theorem phaseAt_mod (n : ℕ) : phaseAt (n % 120) = phaseAt n := by
  simp [phaseAt]

theorem progressAt_mod (n : ℕ) : progressAt (n % 120) = progressAt n := by
  simp [progressAt]

/-- The state machine goes round once in two minutes. -/
theorem advance_cycle (overflowChecks : Bool) : ∀ k < 120,
    SimState.advance overflowChecks ((k + 1) % 60) (phaseAt k) (progressAt k) =
      some (phaseAt (k + 1), progressAt (k + 1)) := by
  cases overflowChecks with
  | false => decide
  | true => decide

theorem advance_phaseAt (overflowChecks : Bool) (n : ℕ) :
    SimState.advance overflowChecks ((n + 1) % 60) (phaseAt n) (progressAt n) =
      some (phaseAt (n + 1), progressAt (n + 1)) := by
  have hcycle := advance_cycle overflowChecks (n % 120) (Nat.mod_lt n (by decide))
  have hsecond : (n % 120 + 1) % 60 = (n + 1) % 60 := by omega
  have hnext : (n % 120 + 1) % 120 = (n + 1) % 120 := by omega
  rw [phaseAt_mod, progressAt_mod, ← phaseAt_mod (n % 120 + 1), ← progressAt_mod (n % 120 + 1),
    hsecond, hnext, phaseAt_mod, progressAt_mod] at hcycle
  exact hcycle

variable {F : Type} [RustFloat F] {overflowChecks : Bool}

/-- **The cycle.** No tick panics before the counter is full, and the phase, the progress and the
agitator are those of the place in the cycle. -/
theorem after_cycle (F : Type) [RustFloat F] (overflowChecks : Bool) {n : ℕ} (hn : n < 2 ^ 32) :
    ∃ s, SimState.after F overflowChecks n = some s ∧ s.tickCount = UInt32.ofNat n ∧
      s.batchState = phaseAt n ∧ s.batchProgress = progressAt n ∧
      s.agitatorRpm = SimState.agitatorFor (phaseAt n) := by
  induction n with
  | zero => exact ⟨.default, rfl, rfl, rfl, rfl, rfl⟩
  | succ n ih =>
      obtain ⟨s, hafter, hcount, hphase, hprogress, -⟩ := ih (Nat.lt_of_succ_lt hn)
      have hnext : SimState.nextTick overflowChecks s.tickCount = some (UInt32.ofNat (n + 1)) := by
        have hmax : UInt32.ofNat n ≠ UInt32.ofNat (2 ^ 32 - 1) := by
          rw [Ne, ← UInt32.toNat_inj, UInt32.toNat_ofNat', UInt32.toNat_ofNat',
            Nat.mod_eq_of_lt (Nat.lt_of_succ_lt hn)]
          omega
        rw [SimState.nextTick, hcount, beq_false_of_ne hmax, Bool.and_false, UInt32.ofNat_add]
        rfl
      have hsecond : (UInt32.ofNat (n + 1) % 60).toNat = (n + 1) % 60 := by
        rw [UInt32.toNat_mod, UInt32.toNat_ofNat', Nat.mod_eq_of_lt hn]
        rfl
      have hadvance := advance_phaseAt overflowChecks n
      rw [SimState.after, hafter, Option.bind_some, SimState.tick, hnext, Option.bind_some, hsecond,
        hphase, hprogress, hadvance, Option.map_some]
      exact ⟨_, rfl, rfl, rfl, rfl, rfl⟩

/-- A measurement is the tick. -/
instance tickFloat : RustFloat ℕ where
  lit _ := 0
  ofU32 := UInt32.toNat
  sin := id
  cos := id
  asU16 := UInt16.ofNat

/-- In the second batch. -/
theorem after_cycle_twoMinutes :
    ∃ s, SimState.after ℕ true 150 = some s ∧ s.tickCount = 150 ∧ s.batchState = 2 ∧
      s.batchProgress = 35 ∧ s.agitatorRpm = 300 := by
  obtain ⟨s, hafter, hcount, hphase, hprogress, hagitator⟩ :=
    @after_cycle ℕ tickFloat true 150 (by decide)
  exact ⟨s, hafter, hcount, hphase.trans (by decide), hprogress.trans (by decide),
    hagitator.trans (by decide)⟩

end VyuhHmi.OpcUaSim
