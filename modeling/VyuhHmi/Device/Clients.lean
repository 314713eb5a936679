import VyuhHmi.Device.Handlers
import VyuhHmi.OpcUa.Client

/-!
# Protocol clients

The two implementations of `PlcProtocol`, and the arithmetic on register addresses that they share
with the polling loop.  What the libraries below them answer is up to the environment: a value for
each register or node they are asked for, an error of the PLC or an error of the connection.  The
Modbus client gives its connection up on an error of the connection, the OPC UA client on an error
of the PLC.
-/

namespace VyuhHmi

/-! ## Register addresses -/

/-- `a + b` of two `u16`: an overflow panics in a build that checks for it, and wraps in any
other. -/
def addU16 (overflowChecks : Bool) (a b : UInt16) : Option UInt16 :=
  if overflowChecks && decide (2 ^ 16 ≤ a.toNat + b.toNat) then none else some (a + b)

/-- `start..start + count`. -/
def addressRange (overflowChecks : Bool) (start count : UInt16) : Option (List ℕ) :=
  (addU16 overflowChecks start count).map fun last ↦
    List.range' start.toNat (last.toNat - start.toNat)

section addresses

variable {overflowChecks : Bool} {a b start count : UInt16}

theorem addU16_of_lt (h : a.toNat + b.toNat < 2 ^ 16) : addU16 overflowChecks a b = some (a + b) := by
  unfold addU16
  rw [decide_eq_false (Nat.not_le.mpr h), Bool.and_false]
  rfl

theorem addU16_of_le (h : 2 ^ 16 ≤ a.toNat + b.toNat) :
    addU16 overflowChecks a b = if overflowChecks then none else some (a + b) := by
  unfold addU16
  rw [decide_eq_true h, Bool.and_true]

theorem addressRange_of_lt (h : start.toNat + count.toNat < 2 ^ 16) :
    addressRange overflowChecks start count = some (registersFrom start count) := by
  have hlast : (start + count).toNat - start.toNat = count.toNat := by
    rw [UInt16.toNat_add, Nat.mod_eq_of_lt h, Nat.add_sub_cancel_left]
  unfold addressRange
  rw [addU16_of_lt h, Option.map_some, hlast]
  rfl

/-- A range that ends above the last address: a panic, or no address at all. -/
theorem addressRange_of_le (h : 2 ^ 16 ≤ start.toNat + count.toNat) :
    addressRange overflowChecks start count = if overflowChecks then none else some [] := by
  have hlast : (start + count).toNat - start.toNat = 0 := by
    have hstart := UInt16.toNat_lt start
    have hcount := UInt16.toNat_lt count
    rw [UInt16.toNat_add]
    omega
  unfold addressRange
  rw [addU16_of_le h]
  cases overflowChecks with
  | true => rfl
  | false =>
      rw [if_neg Bool.false_ne_true, Option.map_some, hlast]
      rfl

end addresses

/-! ## The clients -/

/-- `ModbusClient`, without its address. -/
structure ModbusClient where
  hasContext : Bool
deriving DecidableEq

namespace OpcUaClient

def new : OpcUaClient where
  hasSession := false
  subCache := fun _ ↦ none
  subUpdateCount := 0
  lastReadCount := 0
  subActive := false
  subStaleReads := 0

/-- `connect`, with its outcome: whether the subscription could be created, or an error. -/
def connect (client : OpcUaClient) (outcome : Except String Bool) : OpcUaClient :=
  let cleared : OpcUaClient :=
    { client with subCache := fun _ ↦ none, subUpdateCount := 0, lastReadCount := 0 }
  match outcome with
  | .ok subActive =>
      { cleared with hasSession := true, subActive := subActive, subStaleReads := 0 }
  | .error _ => cleared

/-- One call of the subscription's callback, from beginning to end. -/
def deliver (client : OpcUaClient) (items : List NodeValue) : OpcUaClient :=
  { client.store items with subUpdateCount := client.subUpdateCount + 1 }

end OpcUaClient

inductive ProtocolClient
  | modbus (client : ModbusClient)
  | opcUa (client : OpcUaClient)

/-- The answer to a read: none is needed without a connection or from the cache, and otherwise it
comes from the library.  Of the two errors the outer one is that of the connection for Modbus, and
that of the blocking thread for OPC UA. -/
inductive ReadAnswer
  | notConnected
  | cache
  | holding (answer : Except String (Except String (ℕ → UInt16)))
  | nodes (answer : Except String (Except String (ℕ → Option Variant)))

/-- What `read_registers` comes to. -/
inductive ReadOutcome
  | values (registers : List UInt16)
  | error (message : String)
  | panicked
deriving DecidableEq

namespace ProtocolClient

/-- The client that is created for a supported protocol. -/
def newFor (protocol : String) : ProtocolClient :=
  if protocol = "modbus" then .modbus ⟨false⟩ else .opcUa .new

def isConnected : ProtocolClient → Bool
  | .modbus client => client.hasContext
  | .opcUa client => client.hasSession

/-- `connect`, with its outcome; a Modbus client has no use for the flag. -/
def connect (client : ProtocolClient) (outcome : Except String Bool) : ProtocolClient :=
  match client, outcome with
  | .modbus _, .ok _ => .modbus ⟨true⟩
  | .modbus client, .error _ => .modbus client
  | .opcUa client, outcome => .opcUa (client.connect outcome)

/-- The first part of `read_registers`, up to its answer. -/
def beginRead (client : ProtocolClient) (start count : UInt16) : ProtocolClient × ClientCall :=
  match client with
  | .modbus client =>
      (.modbus client, if client.hasContext then .pollingServer start count else .idle)
  | .opcUa client =>
      (.opcUa (client.beginRead start count).1, (client.beginRead start count).2)

/-- The rest of `read_registers`; `none` if this is no answer to the call.  A panic while the nodes
are listed is one of the blocking thread, and comes back as its error. -/
def finishRead (overflowChecks : Bool) (client : ProtocolClient) (call : ClientCall)
    (answer : ReadAnswer) : Option (ProtocolClient × ReadOutcome) :=
  match client, call, answer with
  | client, .idle, .notConnected => some (client, .error "Not connected")
  | .modbus client, .pollingServer start count, .holding (.ok (.ok content)) =>
      some (.modbus client, .values ((registersFrom start count).map content))
  | .modbus client, .pollingServer _ _, .holding (.ok (.error e)) =>
      some (.modbus client, .error ("Modbus exception: " ++ e))
  | .modbus _, .pollingServer _ _, .holding (.error e) =>
      some (.modbus ⟨false⟩, .error ("Read failed: " ++ e))
  | .opcUa client, .readingCache start count, .cache =>
      match addressRange overflowChecks start count with
      | some range =>
          some (.opcUa client, .values (range.map fun register ↦
            (client.subCache register).getD 0))
      | none => some (.opcUa client, .panicked)
  | .opcUa client, .pollingServer start count, .nodes answer =>
      match addressRange overflowChecks start count, answer with
      | some range, .ok (.ok content) =>
          some (.opcUa client, .values (range.map fun register ↦ variantToU16 (content register)))
      | some _, .ok (.error e) =>
          some (.opcUa client.disconnect, .error ("OPC UA read failed: " ++ e))
      | _, .error e => some (.opcUa client, .error ("Spawn blocking failed: " ++ e))
      | none, .ok _ => none
  | _, _, _ => none

/-- A read that gives values changes nothing in the client. -/
theorem client_of_values {overflowChecks : Bool} {client client' : ProtocolClient}
    {call : ClientCall} {answer : ReadAnswer} {values : List UInt16}
    (h : client.finishRead overflowChecks call answer = some (client', .values values)) :
    client' = client := by
  unfold finishRead at h
  split at h
  case h_1 | h_3 | h_4 => cases h
  case h_2 =>
      cases h
      rfl
  case h_5 | h_6 =>
      split at h <;> cases h
      rfl
  case h_7 => cases h

/-- `write_register`, with the two errors as for a read. -/
def writeRegister (client : ProtocolClient) (answer : Except String (Except String Unit)) :
    ProtocolClient × Except String Unit :=
  if client.isConnected then
    match client, answer with
    | client, .ok (.ok ()) => (client, .ok ())
    | .modbus client, .ok (.error e) => (.modbus client, .error ("Modbus write exception: " ++ e))
    | .modbus _, .error e => (.modbus ⟨false⟩, .error ("Write failed: " ++ e))
    | .opcUa client, .ok (.error e) => (.opcUa client.disconnect, .error e)
    | .opcUa client, .error e => (.opcUa client, .error ("Spawn blocking failed: " ++ e))
  else (client, .error "Not connected")

/-- One call of the subscription's callback; Modbus has none. -/
def deliver (client : ProtocolClient) (items : List NodeValue) : Option ProtocolClient :=
  match client with
  | .modbus _ => none
  | .opcUa client => if items = [] then none else some (.opcUa (client.deliver items))

end ProtocolClient

end VyuhHmi
