import Mathlib.Data.Rat.Floor

/-!
# The simulated batch reactor

`BatchReactor` of the Modbus simulator: a batch goes from idle through heating, holding, cooling and
complete, and back.  The arithmetic on Python's floats is a parameter.  All of them are finite here,
so that `int` always has a value.  A second draws its random numbers anew, one for each use.
-/

namespace VyuhHmi.Simulator

/-- What the simulator does with Python's `float`. -/
class PyFloat (F : Type) extends Add F, Sub F, Mul F, Div F where
  /-- The number written in the program. -/
  lit : ℚ → F
  lt : F → F → Bool
  le : F → F → Bool
  sin : F → F
  /-- Towards zero. -/
  toInt : F → ℤ

/-- Exact numbers, with some function for the sine. -/
instance exactFloat : PyFloat ℚ where
  lit := id
  lt x y := decide (x < y)
  le x y := decide (x ≤ y)
  sin x := x
  toInt x := x.num.tdiv x.den

variable {F : Type} [PyFloat F]

open PyFloat

/-- `min` of two numbers: the first, unless the second is smaller. -/
def pyMin (x y : F) : F := if lt y x then y else x

def pyMax (x y : F) : F := if lt x y then y else x

/-! ## States and parameters -/

inductive State
  | idle | heating | holding | cooling | complete
deriving DecidableEq

def State.code : State → ℤ
  | idle => 0
  | heating => 1
  | holding => 2
  | cooling => 3
  | complete => 4

@[simp] theorem State.code_eq_zero_iff {state : State} : state.code = 0 ↔ state = idle := by
  cases state <;> decide

/-- Starting temperature (°C). -/
def ambientTemp : F := lit 25

/-- Batch target temperature (°C). -/
def targetTemp : F := lit 80

/-- Cooling target (°C). -/
def coolTemp : F := lit 30

/-- °C per second (heating). -/
def heatRate : F := lit 2

/-- °C per second (cooling). -/
def coolRate : F := lit 1.5

/-- Seconds to hold at target temp. -/
def holdDuration : ℕ := 30

/-- Seconds between batches. -/
def idleDuration : ℕ := 5

/-- The random numbers of one second. -/
structure Noise (F : Type) where
  temperature : F
  pressure : F
  flow : F
  agitator : F
  ph : F
  humidity : F

/-- Simulates a pharma batch reactor process. -/
structure BatchReactor (F : Type) where
  state : State
  temperature : F
  pressure : F
  humidity : F
  flowRate : F
  agitatorRpm : ℤ
  ph : F
  progress : ℤ
  stateTimer : ℕ
  batchCount : ℕ
  /-- The agitator speed set by the operator. -/
  agitatorOverride : Option ℤ
  /-- Stay in idle, don't auto-restart. -/
  emergencyStopped : Bool
  tempSetpoint : Option ℤ
  flowSetpoint : Option ℤ
  /-- pH override (raw x10 value). -/
  phSetpoint : Option ℤ

namespace BatchReactor

/-- `__init__`. -/
def init : BatchReactor F where
  state := .idle
  temperature := ambientTemp
  pressure := lit 1013
  humidity := lit 55
  flowRate := lit 0
  agitatorRpm := 0
  ph := lit 7
  progress := 0
  stateTimer := 0
  batchCount := 0
  agitatorOverride := none
  emergencyStopped := false
  tempSetpoint := none
  flowSetpoint := none
  phSetpoint := none

variable (reactor : BatchReactor F)

def transition (newState : State) : BatchReactor F :=
  { reactor with state := newState, stateTimer := 0 }

/-! ## One second of each state -/

def tickIdle (noise : Noise F) : BatchReactor F :=
  let next := { reactor with
    temperature := ambientTemp + noise.temperature
    pressure := lit 1013 + noise.pressure
    flowRate := lit 0
    agitatorRpm := 0
    ph := lit 7 + noise.ph
    progress := 0 }
  if idleDuration ≤ next.stateTimer ∧ next.emergencyStopped = false then next.transition .heating
  else next

def tickHeating (noise : Noise F) : BatchReactor F :=
  let temperature :=
    pyMin (reactor.temperature + heatRate + noise.temperature * lit 0.5) targetTemp
  let next := { reactor with
    temperature := temperature
    pressure := lit 1013 + (temperature - ambientTemp) * lit 5
    flowRate := lit 15 + noise.flow
    agitatorRpm := 200 + toInt noise.agitator
    ph := lit 7 - (temperature - ambientTemp) * lit 0.01 + noise.ph
    progress :=
      toInt (pyMin ((temperature - ambientTemp) / (targetTemp - ambientTemp) * lit 33) (lit 33)) }
  if le (targetTemp - lit 0.5) next.temperature then next.transition .holding else next

def tickHolding (noise : Noise F) : BatchReactor F :=
  let next := { reactor with
    temperature :=
      targetTemp + sin (lit reactor.stateTimer * lit 0.3) * lit 0.3 + noise.temperature * lit 0.1
    pressure := lit 1013 + (targetTemp - ambientTemp) * lit 5 + noise.pressure
    flowRate := lit 5 + noise.flow
    agitatorRpm := 300 + toInt noise.agitator
    ph := lit 6.5 + noise.ph
    progress :=
      33 + toInt (pyMin (lit reactor.stateTimer / lit holdDuration * lit 34 : F) (lit 34)) }
  if holdDuration ≤ next.stateTimer then next.transition .cooling else next

def tickCooling (noise : Noise F) : BatchReactor F :=
  let temperature := pyMax (reactor.temperature - coolRate + noise.temperature * lit 0.3) coolTemp
  let next := { reactor with
    temperature := temperature
    pressure := lit 1013 + (temperature - ambientTemp) * lit 5
    flowRate := lit 20 + noise.flow
    agitatorRpm := 150 + toInt noise.agitator
    ph := lit 6.8 + coolTemp / temperature * lit 0.2 + noise.ph
    progress := 67 +
      toInt (pyMin ((targetTemp - temperature) / (targetTemp - coolTemp) * lit 33) (lit 33)) }
  if le next.temperature (coolTemp + lit 0.5) then next.transition .complete else next

def tickComplete (noise : Noise F) : BatchReactor F :=
  let next := { reactor with
    temperature := coolTemp + noise.temperature
    pressure := lit 1013 + noise.pressure
    flowRate := lit 0
    agitatorRpm := 0
    ph := lit 7 + noise.ph
    progress := 100 }
  if 3 ≤ next.stateTimer then
    { next with batchCount := next.batchCount + 1 }.transition .idle
  else next

/-- Advance simulation by 1 second. -/
def tick (noise : Noise F) : BatchReactor F :=
  let next := { reactor with stateTimer := reactor.stateTimer + 1 }
  match next.state with
  | .idle => next.tickIdle noise
  | .heating => next.tickHeating noise
  | .holding => next.tickHolding noise
  | .cooling => next.tickCooling noise
  | .complete => next.tickComplete noise

/-! ## Writes -/

/-- A setpoint within its limits; zero clears it. -/
def setpoint (low high value : ℤ) : Option ℤ :=
  if value = 0 then none else some (max low (min high value))

/-- Process an external Modbus write request. -/
def handleWrite (register : ℕ) (value : ℤ) : BatchReactor F :=
  if register = 1028 then { reactor with tempSetpoint := setpoint 10 150 value }
  else if register = 1031 then { reactor with flowSetpoint := setpoint 0 100 value }
  else if register = 1032 then
    if value = State.idle.code then
      { reactor.transition .idle with agitatorOverride := none, emergencyStopped := true }
    else if value = State.heating.code then
      { reactor with emergencyStopped := false }.transition .heating
    else reactor
  else if register = 1034 then { reactor with agitatorOverride := setpoint 0 500 value }
  else if register = 1035 then { reactor with phSetpoint := setpoint 30 130 value }
  else reactor

/-- Register values as integers, from 1028 on. -/
def getRegisters (noise : Noise F) : List ℤ :=
  let temp := reactor.tempSetpoint.getD (max 0 (toInt reactor.temperature))
  let flow := reactor.flowSetpoint.getD (max 0 (toInt reactor.flowRate))
  let agitator := reactor.agitatorOverride.getD reactor.agitatorRpm
  let ph := reactor.phSetpoint.getD (max 0 (min 140 (toInt (reactor.ph * lit 10))))
  [max 0 temp, max 0 (toInt reactor.pressure),
    max 0 (min 100 (toInt (reactor.humidity + noise.humidity))), max 0 flow, reactor.state.code,
    reactor.progress, max 0 agitator, max 0 ph]

/-! ## The emergency stop -/

variable {reactor}

/-- A stopped reactor is idle. -/
def StoppedIsIdle (reactor : BatchReactor F) : Prop :=
  reactor.emergencyStopped = true → reactor.state = .idle

/-- No second sets or clears the emergency stop. -/
@[simp] theorem emergencyStopped_tick (noise : Noise F) :
    (reactor.tick noise).emergencyStopped = reactor.emergencyStopped := by
  unfold tick tickIdle tickHeating tickHolding tickCooling tickComplete
  dsimp only
  split <;> split <;> rfl

/-- A stopped reactor stays idle. -/
theorem tick_stoppedIsIdle (h : reactor.StoppedIsIdle) (noise : Noise F) :
    (reactor.tick noise).StoppedIsIdle := by
  intro hstopped
  rw [emergencyStopped_tick] at hstopped
  have hidle := h hstopped
  simp [tick, tickIdle, hidle, hstopped]

omit [PyFloat F] in
/-- Only the register of the batch state has to do with the state and the emergency stop. -/
theorem handleWrite_of_ne {register : ℕ} (h : register ≠ 1032) (value : ℤ) :
    (reactor.handleWrite register value).state = reactor.state ∧
      (reactor.handleWrite register value).emergencyStopped = reactor.emergencyStopped := by
  unfold handleWrite
  rw [if_neg h]
  split_ifs <;> exact ⟨rfl, rfl⟩

end BatchReactor

end VyuhHmi.Simulator
