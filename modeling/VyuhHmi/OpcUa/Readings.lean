import Mathlib.Data.List.GetD
import Mathlib.Data.List.Range
import VyuhHmi.OpcUa.Client

/-!
# Genuine readings

A reading is genuine if the server gave the node a number that converts to it.  The cache holds the
conversion of each node's last delivery, but a register without a delivery, and a value that is no
number, read as zero: an answer is genuine exactly when the numbers it needs have been given.
-/

namespace VyuhHmi

namespace OpcUaLink

variable {s t : OpcUaLink} {label : Label} {labels : List Label}

/-- The value holds a number. -/
def NumericValue (value : Option Variant) : Prop := value.any Variant.isNumeric = true

/-- On this connection the server gave the node a number that converts to this value. -/
def GaveNumber (s : OpcUaLink) (node : ℕ) (value : UInt16) : Prop :=
  ∃ item ∈ s.delivered ++ s.returned, item.node = node ∧ NumericValue item.value ∧
    item.converted = value

/-- Every value that a step returns is genuine. -/
def Genuine (s : OpcUaLink) (label : Label) (t : OpcUaLink) : Prop :=
  ∀ start values, s.reply label = some (start, .ok values) →
    ∀ i value, values[i]? = some value → t.GaveNumber (start.toNat + i) value

/-- The last delivery for the node holds a number. -/
def LastDeliveredNumber (s : OpcUaLink) (node : ℕ) : Prop :=
  ∃ item, EventMap.lastOn NodeValue.node s.delivered node = some item ∧ NumericValue item.value

/-- What an answer needs: from the cache, a number in the last delivery of every register asked
for; from the server, a number for every node; or that the node was given a zero before. -/
def Answerable (s : OpcUaLink) : Label → Prop
  | .readCache => ∀ start count, s.call = .readingCache start count →
      ∀ register ∈ registersFrom start count,
        s.LastDeliveredNumber register ∨ s.GaveNumber register 0
  | .serverRead (.ok results) => ∀ start count, s.call = .pollingServer start count →
      ∀ i value, results[i]? = some value →
        NumericValue value ∨ s.GaveNumber (start.toNat + i) 0
  | _ => True

/-- While the cache may be read it holds the last delivery of each node. -/
def Coherent (s : OpcUaLink) : Prop :=
  s.client.subActive = true ∨ (∃ start count, s.call = .readingCache start count) →
    s.client.subCache =
      EventMap.after NodeValue.node (fun item ↦ some item.converted) s.delivered

/-! ## The cache -/

theorem subCache_store (items : List NodeValue) {client : OpcUaClient} {delivered : List NodeValue}
    (h : client.subCache =
      EventMap.after NodeValue.node (fun item ↦ some item.converted) delivered) :
    (client.store items).subCache =
      EventMap.after NodeValue.node (fun item ↦ some item.converted) (delivered ++ items) := by
  unfold OpcUaClient.store
  rw [h]
  exact EventMap.foldl_update_after delivered

/-- A read that goes to the cache found the subscription active; no other read makes it so. -/
theorem beginRead_cases (client : OpcUaClient) (start count : UInt16) :
    (client.beginRead start count).1.subCache = client.subCache ∧
      ((client.beginRead start count).1.subActive = true ∨
        (∃ start' count', (client.beginRead start count).2 = .readingCache start' count') →
          client.subActive = true) := by
  unfold OpcUaClient.beginRead OpcUaClient.isFresh
  cases hactive : client.subActive with
  | true =>
      split
      · exact ⟨rfl, fun _ ↦ rfl⟩
      · exact ⟨rfl, fun _ ↦ rfl⟩
  | false =>
      refine ⟨rfl, ?_⟩
      simp only [Bool.false_and, Bool.false_eq_true, if_false, hactive, false_or]
      rintro ⟨start', count', hcall⟩
      split at hcall <;> cases hcall

/-- **One step.** -/
theorem Coherent.step (h : s.Coherent) (hstep : s.step label = some t) : t.Coherent := by
  unfold OpcUaLink.step at hstep
  cases label with
  | deliver items =>
      dsimp only at hstep
      split at hstep
      · cases hstep
        exact fun hactive ↦ subCache_store items (h hactive)
      · cases hstep
  | countDelivery =>
      dsimp only at hstep
      split at hstep
      · cases hstep
        exact h
      · cases hstep
  | beginRead start count =>
      dsimp only at hstep
      split at hstep
      · cases hstep
        obtain ⟨hcache, hactive⟩ := beginRead_cases s.client start count
        intro hread
        dsimp only at hread ⊢
        rw [hcache]
        exact h (.inl (hactive hread))
      · cases hstep
  | readCache =>
      dsimp only at hstep
      split at hstep
      case h_1 start count hcall =>
          cases hstep
          intro _
          exact h (.inr ⟨start, count, hcall⟩)
      case h_2 => cases hstep
  | serverRead results =>
      dsimp only at hstep
      split at hstep
      case h_1 start count hcall =>
          split at hstep
          · cases hstep
            rintro (hactive | ⟨_, _, hidle⟩)
            · exact h (.inl hactive)
            · cases hidle
          · cases hstep
            rintro (hactive | ⟨_, _, hidle⟩)
            · cases hactive
            · cases hidle
      case h_2 => cases hstep
  | write outcome =>
      dsimp only at hstep
      split at hstep
      case isTrue hidle =>
          split at hstep
          · cases hstep
            exact h
          · cases hstep
            rintro (hactive | ⟨_, _, hcall⟩)
            · cases hactive
            · rw [hidle.1] at hcall
              cases hcall
      case isFalse => cases hstep

theorem coherent_exec {subActive : Bool}
    (hexec : Transition.exec OpcUaLink.step (init subActive) labels = some s) : s.Coherent := by
  refine (Transition.run_ofOption_iff.mpr hexec).invariant ?_ fun _ _ _ h hstep ↦ h.step hstep
  exact fun _ ↦ rfl

/-! ## Answers -/

theorem converted_of_not_numeric {value : Option Variant} (h : ¬NumericValue value) :
    variantToU16 value = 0 :=
  variantToU16_of_not_numeric (Bool.not_eq_true _ ▸ h)

/-- **From the cache.** The entry of a register is genuine exactly when its last delivery holds a
number or a zero was given before. -/
theorem gaveNumber_cache_iff (register : ℕ) :
    s.GaveNumber register ((EventMap.after NodeValue.node (fun item ↦ some item.converted)
        s.delivered register).getD 0) ↔
      s.LastDeliveredNumber register ∨ s.GaveNumber register 0 := by
  unfold EventMap.after LastDeliveredNumber
  cases hlast : EventMap.lastOn NodeValue.node s.delivered register with
  | none =>
      rw [Option.bind_none, Option.getD_none]
      exact ⟨.inr, fun h ↦ h.elim (fun ⟨_, hnone, _⟩ ↦ by cases hnone) id⟩
  | some item =>
      rw [Option.bind_some, Option.getD_some]
      by_cases hnumeric : NumericValue item.value
      · refine iff_of_true ⟨item, ?_, EventMap.key_of_lastOn hlast, hnumeric, rfl⟩
          (.inl ⟨item, rfl, hnumeric⟩)
        obtain ⟨earlier, later, hsplit, -⟩ := EventMap.lastOn_eq_some_iff.mp hlast
        rw [hsplit]
        simp
      · have hzero : item.converted = 0 := converted_of_not_numeric hnumeric
        rw [hzero]
        refine ⟨.inr, fun h ↦ h.elim (fun ⟨other, hother, hvalue⟩ ↦ ?_) id⟩
        obtain rfl := Option.some.inj hother
        exact absurd hvalue hnumeric

theorem mem_resultsFor {start : UInt16} {results : List (Option Variant)} {item : NodeValue} :
    item ∈ resultsFor start results ↔
      ∃ i, results[i]? = some item.value ∧ item.node = start.toNat + i := by
  unfold resultsFor
  rw [List.mem_mapIdx]
  constructor
  · rintro ⟨i, hi, rfl⟩
    exact ⟨i, List.getElem?_eq_getElem hi, rfl⟩
  · rintro ⟨i, hvalue, hnode⟩
    obtain ⟨hi, heq⟩ := List.getElem?_eq_some_iff.mp hvalue
    refine ⟨i, hi, ?_⟩
    rw [heq, ← hnode]

/-- **From the server.** The result for a node is genuine exactly when it holds a number or a zero
was given before. -/
theorem gaveNumber_result_iff {start : UInt16} {results : List (Option Variant)} {i : ℕ}
    {value : Option Variant} (hvalue : results[i]? = some value)
    (hdelivered : t.delivered = s.delivered)
    (hreturned : t.returned = s.returned ++ resultsFor start results) :
    t.GaveNumber (start.toNat + i) (variantToU16 value) ↔
      NumericValue value ∨ s.GaveNumber (start.toNat + i) 0 := by
  unfold GaveNumber
  rw [hdelivered, hreturned]
  by_cases hnumeric : NumericValue value
  · refine iff_of_true ⟨⟨start.toNat + i, value⟩, ?_, rfl, hnumeric, rfl⟩ (.inl hnumeric)
    have hmem : NodeValue.mk (start.toNat + i) value ∈ resultsFor start results :=
      mem_resultsFor.mpr ⟨i, hvalue, rfl⟩
    simp [hmem]
  · rw [converted_of_not_numeric hnumeric, or_iff_right hnumeric]
    constructor
    · rintro ⟨item, hmem, hnode, hitem, hzero⟩
      rw [← List.append_assoc] at hmem
      rcases List.mem_append.mp hmem with hbefore | hnew
      · exact ⟨item, hbefore, hnode, hitem, hzero⟩
      · -- the result for this node is the value without a number
        obtain ⟨j, hj, hnode'⟩ := mem_resultsFor.mp hnew
        obtain rfl : i = j := by omega
        rw [hvalue] at hj
        rw [← Option.some.inj hj] at hitem
        exact absurd hitem hnumeric
    · rintro ⟨item, hmem, hrest⟩
      refine ⟨item, ?_, hrest⟩
      rw [← List.append_assoc]
      exact List.mem_append_left _ hmem

theorem eq_of_getElem?_registersFrom {start count : UInt16} {i register : ℕ}
    (h : (registersFrom start count)[i]? = some register) : register = start.toNat + i := by
  unfold registersFrom at h
  obtain ⟨hi, heq⟩ := List.getElem?_eq_some_iff.mp h
  rw [List.getElem_range'] at heq
  omega

theorem genuine_readCache_iff {start count : UInt16} (h : s.Coherent)
    (hcall : s.call = .readingCache start count) (hdelivered : t.delivered = s.delivered)
    (hreturned : t.returned = s.returned) :
    s.Genuine .readCache t ↔ s.Answerable .readCache := by
  have hcache := h (.inr ⟨start, count, hcall⟩)
  have hreply : s.reply .readCache = some (start, .ok ((registersFrom start count).map
      fun register ↦ (s.client.subCache register).getD 0)) := by
    unfold reply
    simp only [hcall]
  have hgave (node : ℕ) (value : UInt16) : t.GaveNumber node value ↔ s.GaveNumber node value := by
    unfold GaveNumber
    rw [hdelivered, hreturned]
  have hentry (register : ℕ) : s.GaveNumber register ((s.client.subCache register).getD 0) ↔
      s.LastDeliveredNumber register ∨ s.GaveNumber register 0 := by
    rw [hcache]
    exact gaveNumber_cache_iff register
  constructor
  · intro hgenuine start' count' hcall' register hmem
    obtain ⟨rfl, rfl⟩ := ClientCall.readingCache.inj (hcall.symm.trans hcall')
    obtain ⟨i, hi⟩ := List.getElem?_of_mem hmem
    rw [← hentry, ← hgave, eq_of_getElem?_registersFrom hi]
    refine hgenuine start _ hreply i _ ?_
    rw [List.getElem?_map, hi, Option.map_some, eq_of_getElem?_registersFrom hi]
  · intro hanswer start' values hvalues i value hvalue
    rw [hreply] at hvalues
    cases hvalues
    rw [List.getElem?_map, Option.map_eq_some_iff] at hvalue
    obtain ⟨register, hi, rfl⟩ := hvalue
    rw [hgave, ← eq_of_getElem?_registersFrom hi, hentry]
    exact hanswer start count hcall register (List.mem_of_getElem? hi)

theorem genuine_serverRead_iff {start count : UInt16} {results : List (Option Variant)}
    (hcall : s.call = .pollingServer start count) (hdelivered : t.delivered = s.delivered)
    (hreturned : t.returned = s.returned ++ resultsFor start results) :
    s.Genuine (.serverRead (.ok results)) t ↔ s.Answerable (.serverRead (.ok results)) := by
  have hreply : s.reply (.serverRead (.ok results)) =
      some (start, .ok (results.map variantToU16)) := by
    unfold reply
    simp only [hcall]
    rfl
  constructor
  · intro hgenuine start' count' hcall' i value hvalue
    obtain ⟨rfl, rfl⟩ := ClientCall.pollingServer.inj (hcall.symm.trans hcall')
    rw [← gaveNumber_result_iff hvalue hdelivered hreturned]
    refine hgenuine start _ hreply i _ ?_
    rw [List.getElem?_map, hvalue, Option.map_some]
  · intro hanswer start' values hvalues i value hvalue
    rw [hreply] at hvalues
    cases hvalues
    rw [List.getElem?_map, Option.map_eq_some_iff] at hvalue
    obtain ⟨result, hi, rfl⟩ := hvalue
    rw [gaveNumber_result_iff hi hdelivered hreturned]
    exact hanswer start count hcall i result hi

/-- **One answer.** -/
theorem genuine_iff_answerable (h : s.Coherent) (hstep : s.step label = some t) :
    s.Genuine label t ↔ s.Answerable label := by
  unfold OpcUaLink.step at hstep
  cases label with
  | readCache =>
      dsimp only at hstep
      split at hstep
      case h_1 start count hcall =>
          cases hstep
          exact genuine_readCache_iff h hcall rfl rfl
      case h_2 => cases hstep
  | serverRead results =>
      dsimp only at hstep
      split at hstep
      case h_1 start count hcall =>
          cases results with
          | ok results =>
              cases hstep
              exact genuine_serverRead_iff hcall rfl rfl
          | error e =>
              refine iff_of_true (fun start' values hvalues ↦ ?_) trivial
              unfold reply at hvalues
              simp only [hcall] at hvalues
              cases hvalues
      case h_2 => cases hstep
  | beginRead start count =>
      refine iff_of_true (fun start' values hvalues ↦ ?_) trivial
      unfold reply at hvalues
      dsimp only at hvalues
      split at hvalues <;> cases hvalues
  | _ => exact iff_of_true (fun _ _ hvalues ↦ by cases hvalues) trivial

/-- **Readings.** On a connection every read returns genuine values exactly when every answer has
what it needs. -/
theorem genuine_iff (subActive : Bool) (labels : List Label) :
    (∀ before label, before ++ [label] <+: labels → ∀ s t,
        Transition.exec OpcUaLink.step (init subActive) before = some s →
          s.step label = some t → s.Genuine label t) ↔
      ∀ before label, before ++ [label] <+: labels → ∀ s t,
        Transition.exec OpcUaLink.step (init subActive) before = some s →
          s.step label = some t → s.Answerable label := by
  have hanswer (before : List Label) (label : Label) (s t : OpcUaLink)
      (hexec : Transition.exec OpcUaLink.step (init subActive) before = some s)
      (hstep : s.step label = some t) : s.Genuine label t ↔ s.Answerable label :=
    genuine_iff_answerable (coherent_exec hexec) hstep
  constructor
  · intro hall before label hpre s t hexec hstep
    exact (hanswer before label s t hexec hstep).mp (hall before label hpre s t hexec hstep)
  · intro hall before label hpre s t hexec hstep
    exact (hanswer before label s t hexec hstep).mpr (hall before label hpre s t hexec hstep)

/-- The first delivery has one of the registers, and two are asked for. -/
def partialRun : List Label :=
  [.deliver [⟨1028, some (.uint16 75)⟩], .countDelivery, .beginRead 1028 2]

/-- The cache is about to be read, and holds nothing for the second register. -/
def missesSecond (s : OpcUaLink) : Bool :=
  s.call == .readingCache 1028 2 && (s.client.subCache 1029).isNone &&
    s.delivered == [⟨1028, some (.uint16 75)⟩] && s.returned == []

/-- A register that the server never gave a value for reads as zero. -/
theorem partialRun_not_genuine :
    ¬ ∀ (before : List Label) (label : Label) (s t : OpcUaLink),
      Transition.exec OpcUaLink.step (init true) before = some s → s.step label = some t →
        s.Genuine label t := by
  intro h
  obtain ⟨s, hexec, htest⟩ := (Option.any_eq_true missesSecond
    (Transition.exec OpcUaLink.step (init true) partialRun)).mp (by decide)
  simp only [missesSecond, Bool.and_eq_true, beq_iff_eq, Option.isNone_iff_eq_none] at htest
  obtain ⟨⟨⟨hcall, hnone⟩, hdelivered⟩, hreturned⟩ := htest
  have hstep : s.step .readCache = some { s with call := .idle } := by
    unfold step
    simp only [hcall]
  have hreply : s.reply .readCache = some (1028, .ok [(s.client.subCache 1028).getD 0, 0]) := by
    have hregisters : registersFrom 1028 2 = [1028, 1029] := rfl
    unfold reply
    simp only [hcall, hregisters, List.map_cons, List.map_nil, hnone, Option.getD_none]
  obtain ⟨item, hmem, hnode, -⟩ := h partialRun .readCache s _ hexec hstep 1028 _ hreply 1 0 rfl
  dsimp only at hmem
  rw [hdelivered, hreturned, List.append_nil, List.mem_singleton] at hmem
  rw [hmem] at hnode
  revert hnode
  decide

end OpcUaLink

end VyuhHmi
