import VyuhHmi.Device.PollingLoop

/-!
# Register ranges

A device's range is computed in three places in 16-bit arithmetic: as a pair of start and count for
Modbus, as `start..start + count` in the OPC UA client, and address by address in the polling loop.
The end of a Rust range is one above its last address, so a range up to the last register overflows
in the OPC UA client and nowhere else.
-/

namespace VyuhHmi

open DeviceRuntime (TaskEvent)

def ProtocolClient.isModbus : ProtocolClient → Bool
  | .modbus _ => true
  | .opcUa _ => false

/-- The request of this call. -/
def ClientCall.asksFor (start count : UInt16) (call : ClientCall) : Prop :=
  call = .readingCache start count ∨ call = .pollingServer start count

/-- What a successful answer has for each register. -/
def ProtocolClient.contentOf (client : ProtocolClient) (call : ClientCall) (answer : ReadAnswer) :
    Option (ℕ → UInt16) :=
  match client, call, answer with
  | .modbus _, .pollingServer _ _, .holding (.ok (.ok content)) => some content
  | .opcUa client, .readingCache _ _, .cache =>
      some fun register ↦ (client.subCache register).getD 0
  | .opcUa _, .pollingServer _ _, .nodes (.ok (.ok content)) =>
      some fun register ↦ variantToU16 (content register)
  | _, _, _ => none

/-- The readings of these registers, in order. -/
def DeviceConfig.readingsOf (config : DeviceConfig) (content : ℕ → UInt16)
    (times : ℕ → Rfc3339.Instant) : List PlcData :=
  (registersFrom config.registerStart config.registerCount).mapIdx fun i register ↦
    ⟨config.id, UInt16.ofNat register, (content register).toNat, times i⟩

/-- A successful answer is read for exactly the device's registers in order, and each value goes out
under its own address. -/
structure ReadsInFull (overflowChecks : Bool) (config : DeviceConfig) (locals : TaskLocals)
    (answer : ReadAnswer) (content : ℕ → UInt16) : Prop where
  values : ∃ client, locals.client.finishRead overflowChecks locals.call answer =
    some (client, .values
      ((registersFrom config.registerStart config.registerCount).map content))
  sent : ∀ times, ∃ locals' taskEvent,
    locals.step overflowChecks config (.read answer times) = some (locals', some taskEvent) ∧
      locals'.sent = locals.sent ++ config.readingsOf content times

section ranges

variable {overflowChecks : Bool} {start count : UInt16} {config : DeviceConfig}

/-! ## The addresses of the loop -/

/-- **Addresses.** While the last address exists, the loop gives every value its own. -/
theorem labelFrom_map (content : ℕ → UInt16) {i n : ℕ} (h : start.toNat + i + n ≤ 2 ^ 16) :
    labelFrom overflowChecks start i ((List.range' (start.toNat + i) n).map content) =
      ((List.range' (start.toNat + i) n).map fun register ↦
        (UInt16.ofNat register, content register), true) := by
  induction n generalizing i with
  | zero => rfl
  | succ n ih =>
      have hi : (UInt16.ofNat i).toNat = i := by
        rw [UInt16.toNat_ofNat', Nat.mod_eq_of_lt (by omega)]
      have haddress : start + UInt16.ofNat i = UInt16.ofNat (start.toNat + i) := by
        rw [← UInt16.toNat_inj, UInt16.toNat_add, hi, UInt16.toNat_ofNat']
      have hadd : addU16 overflowChecks start (UInt16.ofNat i) =
          some (UInt16.ofNat (start.toNat + i)) := by
        rw [addU16_of_lt (by omega), haddress]
      have hrest := @ih (i + 1) (by omega)
      rw [List.range'_succ, List.map_cons, labelFrom, hadd]
      dsimp only
      rw [Nat.add_assoc, hrest, List.map_cons]

/-- The labelled values of a poll of the whole range. -/
theorem labelFrom_registersFrom (content : ℕ → UInt16)
    (h : start.toNat + count.toNat ≤ 2 ^ 16) :
    labelFrom overflowChecks start 0 ((registersFrom start count).map content) =
      ((registersFrom start count).map fun register ↦
        (UInt16.ofNat register, content register), true) :=
  labelFrom_map content h

theorem readings_registersFrom (content : ℕ → UInt16) (times : ℕ → Rfc3339.Instant)
    (h : config.registerStart.toNat + config.registerCount.toNat ≤ 2 ^ 16) :
    TaskLocals.readings overflowChecks config
      ((registersFrom config.registerStart config.registerCount).map content) times =
        config.readingsOf content times := by
  unfold TaskLocals.readings DeviceConfig.readingsOf
  rw [labelFrom_registersFrom content h]
  apply List.ext_getElem?
  intro i
  simp only [List.getElem?_mapIdx, List.getElem?_map, Option.map_map]
  rfl

/-! ## The reads of the clients -/

/-- A range that the client can compute is read in full. -/
theorem finishRead_of_fits {client : ProtocolClient} {call : ClientCall} {answer : ReadAnswer}
    {content : ℕ → UInt16} (hcall : call.asksFor start count)
    (hcontent : client.contentOf call answer = some content)
    (hfits : client.isModbus = false → start.toNat + count.toNat < 2 ^ 16) :
    client.finishRead overflowChecks call answer =
      some (client, .values ((registersFrom start count).map content)) := by
  unfold ProtocolClient.contentOf at hcontent
  split at hcontent
  case h_1 =>
      obtain hcall | hcall := hcall
      · cases hcall
      · cases hcall
        cases hcontent
        rfl
  case h_2 =>
      obtain hcall | hcall := hcall
      · cases hcall
        cases hcontent
        simp only [ProtocolClient.finishRead, addressRange_of_lt (hfits rfl)]
      · cases hcall
  case h_3 =>
      obtain hcall | hcall := hcall
      · cases hcall
      · cases hcall
        cases hcontent
        simp only [ProtocolClient.finishRead, addressRange_of_lt (hfits rfl)]
  case h_4 => cases hcontent

theorem readsInFull_of_fits {locals : TaskLocals} {answer : ReadAnswer} {content : ℕ → UInt16}
    (hrange : config.registerStart.toNat + config.registerCount.toNat ≤ 2 ^ 16)
    (hcall : locals.call.asksFor config.registerStart config.registerCount)
    (hcontent : locals.client.contentOf locals.call answer = some content)
    (hfits : locals.client.isModbus = false →
      config.registerStart.toNat + config.registerCount.toNat < 2 ^ 16) :
    ReadsInFull overflowChecks config locals answer content := by
  have hfinish : locals.client.finishRead overflowChecks locals.call answer = _ :=
    finishRead_of_fits hcall hcontent hfits
  refine ⟨⟨_, hfinish⟩, fun times ↦ ?_⟩
  rw [TaskLocals.step, hfinish, Option.map_some]
  refine ⟨_, _, rfl, ?_⟩
  rw [TaskLocals.sent_process, readings_registersFrom content times hrange]

/-- Up to the last register there is no range for the cache: a panic, or no address at all. -/
theorem finishRead_cache_of_le (client : OpcUaClient) (h : 2 ^ 16 ≤ start.toNat + count.toNat) :
    (ProtocolClient.opcUa client).finishRead overflowChecks (.readingCache start count) .cache =
      some (.opcUa client, if overflowChecks then .panicked else .values []) := by
  simp only [ProtocolClient.finishRead, addressRange_of_le h]
  cases overflowChecks <;> rfl

end ranges

/-! ## Ranges of existing registers -/

/-- **Ranges.** A range of existing registers is read in full, in every build, exactly when the
client is a Modbus client or the range ends below the last register. -/
theorem readsInFull_iff (config : DeviceConfig)
    (hrange : config.registerStart.toNat + config.registerCount.toNat ≤ 2 ^ 16) (isModbus : Bool) :
    (∀ (overflowChecks : Bool) (locals : TaskLocals) (answer : ReadAnswer) (content : ℕ → UInt16),
        locals.client.isModbus = isModbus →
        locals.call.asksFor config.registerStart config.registerCount →
        locals.client.contentOf locals.call answer = some content →
        ReadsInFull overflowChecks config locals answer content) ↔
      isModbus = true ∨ config.registerStart.toNat + config.registerCount.toNat < 2 ^ 16 := by
  constructor
  · intro hall
    by_contra hnot
    obtain ⟨hopcUa, htop⟩ := not_or.mp hnot
    have hread := hall true ⟨.opcUa .new, .readingCache config.registerStart config.registerCount,
      ⟨none, 0⟩, [], false⟩ .cache (fun _ ↦ 0) (Bool.not_eq_true _ ▸ hopcUa).symm (.inl rfl) rfl
    obtain ⟨client, hvalues⟩ := hread.values
    rw [finishRead_cache_of_le _ (Nat.not_lt.mp htop)] at hvalues
    cases hvalues
  · intro hfits overflowChecks locals answer content hclient hcall hcontent
    refine readsInFull_of_fits hrange hcall hcontent fun hopcUa ↦ hfits.resolve_left ?_
    rw [← hclient, hopcUa]
    exact Bool.false_ne_true

/-- A device whose only register is the last one. -/
def lastRegister : DeviceConfig where
  id := "plc-01"
  name := "Gateway"
  address := "opc.tcp://127.0.0.1:4840/"
  protocol := "opcua"
  pollRateMs := 1000
  registerStart := 65535
  registerCount := 1
  writable := []

theorem readsInFull_iff_lastRegister :
    (∀ (overflowChecks : Bool) (locals : TaskLocals) (answer : ReadAnswer) (content : ℕ → UInt16),
        locals.client.isModbus = true →
        locals.call.asksFor lastRegister.registerStart lastRegister.registerCount →
        locals.client.contentOf locals.call answer = some content →
        ReadsInFull overflowChecks lastRegister locals answer content) ↔
      true = true ∨
        lastRegister.registerStart.toNat + lastRegister.registerCount.toNat < 2 ^ 16 :=
  readsInFull_iff lastRegister (by decide) true

/-- A subscription has delivered, and the last register is read. -/
def lastRegisterRead : TaskLocals where
  client := ((ProtocolClient.opcUa
    ((OpcUaClient.connected true).deliver [⟨1028, some (.uint16 75)⟩])).beginRead 65535 1).1
  call := ((ProtocolClient.opcUa
    ((OpcUaClient.connected true).deliver [⟨1028, some (.uint16 75)⟩])).beginRead 65535 1).2
  tracking := ⟨none, 0⟩
  sent := []
  panicked := false

/-- The last register alone: a build with overflow checks panics, any other reads nothing. -/
theorem lastRegister_not_read :
    lastRegisterRead.call.asksFor lastRegister.registerStart lastRegister.registerCount ∧
      (∃ content, lastRegisterRead.client.contentOf lastRegisterRead.call .cache = some content ∧
        ¬ReadsInFull true lastRegister lastRegisterRead .cache content ∧
        ¬ReadsInFull false lastRegister lastRegisterRead .cache content) := by
  have hoverflow : 2 ^ 16 ≤ lastRegister.registerStart.toNat + lastRegister.registerCount.toNat := by
    decide
  refine ⟨.inl rfl, _, rfl, fun hread ↦ ?_, fun hread ↦ ?_⟩
  · obtain ⟨client, hvalues⟩ := hread.values
    rw [show lastRegisterRead.client.finishRead true lastRegisterRead.call .cache = _ from
      finishRead_cache_of_le _ hoverflow] at hvalues
    cases hvalues
  · obtain ⟨client, hvalues⟩ := hread.values
    rw [show lastRegisterRead.client.finishRead false lastRegisterRead.call .cache = _ from
      finishRead_cache_of_le _ hoverflow] at hvalues
    cases hvalues

end VyuhHmi
