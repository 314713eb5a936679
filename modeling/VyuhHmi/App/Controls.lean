import VyuhHmi.App.Display
import VyuhHmi.Foundation.Transition

/-!
# Writes from the dashboard

A write goes to the device that is active when it begins; the store goes on when the reply is there,
whatever has happened in between.  The flag for an operator's override of the agitator is one for
all devices.  It follows every write that is answered, confirmed or not, and is cleared before the
write that clears the override.
-/

open Transition

namespace VyuhHmi.App

/-- The parts of `ControlsConfig` that the store uses. -/
structure EmergencyStopConfig where
  register : ℤ
  stopValue : ℤ
  restartValue : ℤ

structure AgitatorConfig where
  register : ℤ

structure ControlsConfig where
  emergencyStop : Option EmergencyStopConfig
  agitator : Option AgitatorConfig

structure StoreConfig (D : Type) extends DashboardConfig D where
  controls : Option ControlsConfig

variable {D : Type} [DartDouble D]

namespace StoreConfig

variable (config : StoreConfig D)

def emergencyStop : Option EmergencyStopConfig := config.controls.bind ControlsConfig.emergencyStop

def agitator : Option AgitatorConfig := config.controls.bind ControlsConfig.agitator

/-- The register is that of the agitator. -/
def isAgitator (register : ℤ) : Bool := config.agitator.any fun ctrl ↦ register == ctrl.register

end StoreConfig

/-- What the call of `POST /api/write` comes to: a response with the `success` of its body, an
exception that `ApiService` catches, or one that gets out of it. -/
inductive ApiReply
  | response (statusCode : ℕ) (success : Option Bool)
  | failed
  | thrown (error : String)
deriving DecidableEq

/-- `ApiService.writeRegister`. -/
def ApiReply.outcome : ApiReply → Except String Bool
  | .response statusCode success => .ok (statusCode == 200 && success == some true)
  | .failed => .ok false
  | .thrown error => .error error

/-- The server has confirmed the write. -/
def ApiReply.confirms (reply : ApiReply) : Bool :=
  match reply.outcome with
  | .ok success => success
  | .error _ => false

structure WriteRequest where
  deviceId : String
  register : ℤ
  value : ℤ
deriving DecidableEq

/-- The store with its write control state. -/
structure ControlStore (D : Type) extends DashboardStore D where
  isWriting : Bool
  agitatorOverrideActive : Bool
  lastWriteError : Option String

namespace ControlStore

variable (config : StoreConfig D) (s : ControlStore D)

def init : ControlStore D where
  toDashboardStore := .init config.toDashboardConfig
  isWriting := false
  agitatorOverrideActive := false
  lastWriteError := none

/-- `writeRegister` up to the call of the server. -/
def beginWrite : ControlStore D := { s with isWriting := true, lastWriteError := none }

/-- `writeRegister` from the reply on, and what it returns. -/
def endWrite (request : WriteRequest) (reply : ApiReply) : ControlStore D × Bool :=
  match reply.outcome with
  | .ok success =>
      let lastWriteError :=
        if success then s.lastWriteError
        else some ("Server rejected write to register " ++ toString request.register)
      let agitatorOverrideActive :=
        if config.isAgitator request.register then decide (0 < request.value)
        else s.agitatorOverrideActive
      ({ s with
        lastWriteError := lastWriteError
        agitatorOverrideActive := agitatorOverrideActive
        isWriting := false }, success)
  | .error error => ({ s with lastWriteError := some error, isWriting := false }, false)

end ControlStore

/-! ## Runs -/

/-- The store, the writes that wait for their reply, and the value of the last agitator write that
the server has confirmed for each device. -/
structure ControlRun (D : Type) where
  store : ControlStore D
  pending : List WriteRequest
  confirmed : String → Option ℤ

/-- Messages and switches, the operator's writes, and a reply to one of those that wait. -/
inductive ControlOp (D : Type)
  | store (op : StoreOp D)
  | writeRegister (register value : ℤ)
  | emergencyStop
  | restartBatch
  | setAgitatorRpm (rpm : ℤ)
  | clearAgitatorOverride
  | reply (index : ℕ) (reply : ApiReply)

namespace ControlRun

variable (config : StoreConfig D) (s : ControlRun D)

def init : ControlRun D := ⟨.init config, [], fun _ ↦ none⟩

/-- A write of the active device. -/
def writeRegister (register value : ℤ) : ControlRun D :=
  { s with
    store := s.store.beginWrite
    pending := s.pending ++ [⟨s.store.activeDeviceId, register, value⟩] }

def receiveReply (index : ℕ) (reply : ApiReply) : ControlRun D :=
  match s.pending[index]? with
  | none => s
  | some request =>
      { store := (s.store.endWrite config request reply).1
        pending := s.pending.eraseIdx index
        confirmed :=
          if reply.confirms && config.isAgitator request.register then
            Function.update s.confirmed request.deviceId (some request.value)
          else s.confirmed }

def apply : ControlOp D → ControlRun D
  | .store op =>
      { s with store :=
          { s.store with
            toDashboardStore := s.store.toDashboardStore.apply config.toDashboardConfig op } }
  | .writeRegister register value => s.writeRegister register value
  | .emergencyStop =>
      match config.emergencyStop with
      | none => s
      | some ctrl => s.writeRegister ctrl.register ctrl.stopValue
  | .restartBatch =>
      match config.emergencyStop with
      | none => s
      | some ctrl => s.writeRegister ctrl.register ctrl.restartValue
  | .setAgitatorRpm rpm =>
      match config.agitator with
      | none => s
      | some ctrl => s.writeRegister ctrl.register rpm
  | .clearAgitatorOverride =>
      let cleared := { s with store := { s.store with agitatorOverrideActive := false } }
      match config.agitator with
      | none => cleared
      | some ctrl => cleared.writeRegister ctrl.register 0
  | .reply index reply => s.receiveReply config index reply

def run (ops : List (ControlOp D)) : ControlRun D := ops.foldl (apply config) (init config)

/-! ## The override flag -/

/-- The last confirmed agitator write of a device overrides the agitator. -/
def overridden (deviceId : String) : Bool := (s.confirmed deviceId).any fun value ↦ decide (0 < value)

/-- The flag is that of the active device. -/
def Agrees : Prop := s.store.agitatorOverrideActive = s.overridden s.store.activeDeviceId

/-- A switch goes to a device with the same override, an override is cleared where there is none,
and the reply to an agitator write confirms it for the active device, or its value says what the
last confirmed one of the active device does. -/
def KeepsAgreement : ControlOp D → Prop
  | .store (.switchDevice deviceId) =>
      s.overridden deviceId = s.overridden s.store.activeDeviceId
  | .clearAgitatorOverride => s.overridden s.store.activeDeviceId = false
  | .reply index reply =>
      ∀ request, s.pending[index]? = some request → config.isAgitator request.register = true →
        ∀ success, reply.outcome = .ok success →
          success = true ∧ request.deviceId = s.store.activeDeviceId ∨
            decide (0 < request.value) = s.overridden s.store.activeDeviceId
  | _ => True

variable {config s}

theorem store_agrees_iff (op : StoreOp D) (h : s.Agrees) :
    (s.apply config (.store op)).Agrees ↔ s.KeepsAgreement config (.store op) := by
  have hactive :=
    DashboardStore.activeDeviceId_apply config.toDashboardConfig s.store.toDashboardStore op
  unfold Agrees at h
  change s.store.agitatorOverrideActive = s.overridden (s.store.toDashboardStore.apply
    config.toDashboardConfig op).activeDeviceId ↔ _
  rw [hactive, h]
  cases op with
  | onData data now => simp [StoreOp.activates, KeepsAgreement]
  | switchDevice deviceId => exact eq_comm

theorem clearAgitatorOverride_agrees_iff :
    (s.apply config .clearAgitatorOverride).Agrees ↔
      s.KeepsAgreement config .clearAgitatorOverride := by
  have hcleared : { s with store := { s.store with agitatorOverrideActive := false } }.Agrees ↔
      s.overridden s.store.activeDeviceId = false := eq_comm
  rw [apply]
  cases config.agitator with
  | none => exact hcleared
  | some ctrl => exact hcleared

omit [DartDouble D] in
/-- A reply that throws, or to a write of another register, leaves flag and confirmations. -/
theorem receiveReply_of_other {index : ℕ} {reply : ApiReply} {request : WriteRequest}
    (hrequest : s.pending[index]? = some request)
    (hother : config.isAgitator request.register = true → ∃ error, reply.outcome = .error error) :
    (s.receiveReply config index reply).Agrees ↔ s.Agrees := by
  unfold receiveReply ControlStore.endWrite ApiReply.confirms
  rw [hrequest]
  cases hregister : config.isAgitator request.register with
  | false => cases reply.outcome <;> simp [hregister, Agrees, overridden]
  | true =>
      obtain ⟨error, herror⟩ := hother hregister
      rw [herror]
      simp [Agrees, overridden]

omit [DartDouble D] in
/-- A reply to an agitator write sets the flag, whether the write is confirmed or not. -/
theorem receiveReply_agitator {index : ℕ} {reply : ApiReply} {request : WriteRequest}
    {success : Bool} (hrequest : s.pending[index]? = some request)
    (hregister : config.isAgitator request.register = true) (hreply : reply.outcome = .ok success) :
    (s.receiveReply config index reply).Agrees ↔
      success = true ∧ request.deviceId = s.store.activeDeviceId ∨
        decide (0 < request.value) = s.overridden s.store.activeDeviceId := by
  unfold receiveReply ControlStore.endWrite ApiReply.confirms
  rw [hrequest]
  simp only [hreply, hregister, if_true, Bool.and_true, Agrees, overridden]
  cases success with
  | false => simp
  | true =>
      by_cases hdevice : request.deviceId = s.store.activeDeviceId
      · simp [hdevice]
      · simp [hdevice, Function.update_of_ne (Ne.symm hdevice)]

/-- **Step lemma.** -/
theorem apply_agrees_iff (config : StoreConfig D) (s : ControlRun D) (op : ControlOp D)
    (h : s.Agrees) : (s.apply config op).Agrees ↔ s.KeepsAgreement config op := by
  cases op with
  | store op => exact store_agrees_iff op h
  | writeRegister register value => exact iff_of_true h trivial
  | emergencyStop =>
      rw [apply]
      cases config.emergencyStop <;> exact iff_of_true h trivial
  | restartBatch =>
      rw [apply]
      cases config.emergencyStop <;> exact iff_of_true h trivial
  | setAgitatorRpm rpm =>
      rw [apply]
      cases config.agitator <;> exact iff_of_true h trivial
  | clearAgitatorOverride => exact clearAgitatorOverride_agrees_iff
  | reply index reply =>
      rw [apply, KeepsAgreement]
      cases hrequest : s.pending[index]? with
      | none =>
          rw [receiveReply, hrequest]
          simp [h]
      | some request =>
          cases hregister : config.isAgitator request.register with
          | false =>
              rw [receiveReply_of_other hrequest (by simp [hregister])]
              simp [h, hregister]
          | true =>
              cases houtcome : reply.outcome with
              | error error =>
                  rw [receiveReply_of_other hrequest fun _ ↦ ⟨error, houtcome⟩]
                  simp [h]
              | ok success =>
                  rw [receiveReply_agitator hrequest hregister houtcome]
                  simp [hregister]

/-- **The override flag** says in every state of a run whether the last agitator write that the
server has confirmed for the active device has a value above zero, exactly when every operation is
one that keeps the two in agreement. -/
theorem run_agrees_iff (config : StoreConfig D) (ops : List (ControlOp D)) :
    (∀ before, before <+: ops → (run config before).Agrees) ↔
      ∀ before op, before ++ [op] <+: ops → (run config before).KeepsAgreement config op := by
  have hinit : (init config).Agrees := rfl
  exact foldl_always_iff hinit (apply_agrees_iff config) ops

end ControlRun

/-- A dashboard with controls. -/
def controlsDashboard : StoreConfig ExactDouble where
  deviceId := "plc-01"
  registers := []
  alarms := []
  controls := some ⟨some ⟨1032, 0, 1⟩, some ⟨1034⟩⟩

/-- A write that the server rejects sets the flag. -/
theorem rejected_write_not_agrees :
    ¬∀ before, before <+: [.setAgitatorRpm 100, .reply 0 (.response 200 (some false))] →
      (ControlRun.run controlsDashboard before).Agrees := by
  intro hall
  have hrejected := hall [.setAgitatorRpm 100, .reply 0 (.response 200 (some false))]
    (List.prefix_refl _)
  exact absurd hrejected (by unfold ControlRun.Agrees; decide)

end VyuhHmi.App
