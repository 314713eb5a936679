import VyuhHmi.Foundation.EventMap
import VyuhHmi.Foundation.Transition
import VyuhHmi.OpcUa.Variant

/-!
# The OPC UA client

One connection of `OpcUaClient`.  The subscription's callback runs on a thread of its own: it stores
a delivery in the cache and then counts it.  A read is answered from the cache if the counter has
moved since the last such read, and by the server otherwise; after six reads without a delivery the
client stops looking at the cache.
-/

namespace VyuhHmi

/-- `OpcUaClient`, without its address. -/
structure OpcUaClient where
  hasSession : Bool
  subCache : ℕ → Option UInt16
  subUpdateCount : ℕ
  lastReadCount : ℕ
  subActive : Bool
  subStaleReads : ℕ

/-- A value for a node of namespace 2, by the node's number. -/
structure NodeValue where
  node : ℕ
  value : Option Variant
deriving DecidableEq

def NodeValue.converted (item : NodeValue) : UInt16 := variantToU16 item.value

/-- What the client does at the moment; requests are made one at a time. -/
inductive ClientCall
  | idle
  | readingCache (start count : UInt16)
  | pollingServer (start count : UInt16)
deriving DecidableEq

namespace OpcUaClient

/-- After `connect`, with or without a subscription. -/
def connected (subActive : Bool) : OpcUaClient where
  hasSession := true
  subCache := fun _ ↦ none
  subUpdateCount := 0
  lastReadCount := 0
  subActive := subActive
  subStaleReads := 0

variable (client : OpcUaClient)

/-- The callback stores a delivery. -/
def store (items : List NodeValue) : OpcUaClient :=
  { client with
    subCache := items.foldl
      (fun cache item ↦ Function.update cache item.node (some item.converted)) client.subCache }

/-- The subscription has delivered since the last read from the cache. -/
def isFresh : Bool := client.subActive && client.lastReadCount < client.subUpdateCount

/-- The first part of `read_registers`: where the answer is to come from. -/
def beginRead (start count : UInt16) : OpcUaClient × ClientCall :=
  if client.isFresh then
    ({ client with lastReadCount := client.subUpdateCount, subStaleReads := 0 },
      .readingCache start count)
  else
    let client :=
      if client.subActive then
        { client with
          subStaleReads := client.subStaleReads + 1
          subActive := !(5 < client.subStaleReads + 1) }
      else client
    (client, if client.hasSession then .pollingServer start count else .idle)

/-- The session is given up. -/
def disconnect : OpcUaClient :=
  { client with
    hasSession := false
    subActive := false
    subCache := fun _ ↦ none }

end OpcUaClient

/-- The registers of a request. -/
def registersFrom (start count : UInt16) : List ℕ := List.range' start.toNat count.toNat

/-- One connection.  `pendingCount` tells that a stored delivery is not yet counted; `delivered` and
`returned` are history: what the server has given by subscription and by reads. -/
structure OpcUaLink where
  client : OpcUaClient
  call : ClientCall
  pendingCount : Bool
  delivered : List NodeValue
  returned : List NodeValue

namespace OpcUaLink

def init (subActive : Bool) : OpcUaLink where
  client := .connected subActive
  call := .idle
  pendingCount := false
  delivered := []
  returned := []

/-- One step of the callback, of a request or of the server. -/
inductive Label
  | deliver (items : List NodeValue)
  | countDelivery
  | beginRead (start count : UInt16)
  | readCache
  | serverRead (results : Except String (List (Option Variant)))
  | write (outcome : Except String Unit)
deriving DecidableEq

/-- The values that the results of a read give to its nodes. -/
def resultsFor (start : UInt16) (results : List (Option Variant)) : List NodeValue :=
  results.mapIdx fun i value ↦ ⟨start.toNat + i, value⟩

def step (s : OpcUaLink) : Label → Option OpcUaLink
  | .deliver items =>
      if items ≠ [] ∧ s.pendingCount = false then
        some { s with
          client := s.client.store items
          pendingCount := true
          delivered := s.delivered ++ items }
      else none
  | .countDelivery =>
      if s.pendingCount then
        some { s with
          client := { s.client with subUpdateCount := s.client.subUpdateCount + 1 }
          pendingCount := false }
      else none
  | .beginRead start count =>
      -- the end of the range must not overflow
      if s.call = .idle ∧ start.toNat + count.toNat < 2 ^ 16 then
        some { s with
          client := (s.client.beginRead start count).1
          call := (s.client.beginRead start count).2 }
      else none
  | .readCache =>
      match s.call with
      | .readingCache _ _ => some { s with call := .idle }
      | _ => none
  | .serverRead results =>
      match s.call with
      | .pollingServer start _ =>
          match results with
          | .ok values =>
              some { s with call := .idle, returned := s.returned ++ resultsFor start values }
          | .error _ => some { s with client := s.client.disconnect, call := .idle }
      | _ => none
  | .write outcome =>
      if s.call = .idle ∧ s.client.hasSession then
        match outcome with
        | .ok () => some s
        | .error _ => some { s with client := s.client.disconnect }
      else none

/-- What `read_registers` returns at a step, with the first register asked for. -/
def reply (s : OpcUaLink) : Label → Option (UInt16 × Except String (List UInt16))
  | .beginRead start _ =>
      if s.client.isFresh || s.client.hasSession then none else some (start, .error "Not connected")
  | .readCache =>
      match s.call with
      | .readingCache start count =>
          some (start, .ok ((registersFrom start count).map fun register ↦
            (s.client.subCache register).getD 0))
      | _ => none
  | .serverRead results =>
      match s.call with
      | .pollingServer start _ => some (start, results.map fun values ↦ values.map variantToU16)
      | _ => none
  | _ => none

end OpcUaLink

end VyuhHmi
