import VyuhHmi.Device.Clients
import VyuhHmi.OpcUa.Readings

/-!
# Freshness of cached readings

The reads and deliveries of one connection, interleaved between any two of their lock sections, for
as long as no lock is poisoned and no read fails.  A read decides at the counter where its answer
comes from.  It goes to the cache only if a delivery has been counted since the last read that did,
and six reads in a row without one end the cache for good.  As long as the ranges can be computed
the connection is the link of the other modules, with a log.
-/

namespace VyuhHmi

/-- What has happened on a connection: a delivery has been counted, or a read has looked at the
counter and gone one way or the other. -/
inductive ReadLogEntry
  | delivery
  | cacheRead
  | serverRead
deriving DecidableEq

/-- One connection.  `pendingCount` tells that a stored delivery is not yet counted; `delivered` and
`log` are history. -/
structure OpcUaConnection where
  client : OpcUaClient
  call : ClientCall
  pendingCount : Bool
  delivered : List NodeValue
  log : List ReadLogEntry

namespace OpcUaConnection

/-- After `connect`, with or without a subscription. -/
def init (subActive : Bool) : OpcUaConnection where
  client := .connected subActive
  call := .idle
  pendingCount := false
  delivered := []
  log := []

inductive Label
  | deliver (items : List NodeValue)
  | countDelivery
  | beginRead (start count : UInt16)
  | finishRead (answer : ReadAnswer)

/-- What the log says of a read that has looked at the counter. -/
def logged : ClientCall → List ReadLogEntry
  | .readingCache _ _ => [.cacheRead]
  | .pollingServer _ _ => [.serverRead]
  | .idle => []

/-- One lock section, or the answer of the server.  A read that panics would poison the cache, and
one that fails would end the connection. -/
def step (overflowChecks : Bool) (s : OpcUaConnection) : Label → Option OpcUaConnection
  | .deliver items =>
      if items ≠ [] ∧ s.pendingCount = false then
        some { s with
          client := s.client.store items
          pendingCount := true
          delivered := s.delivered ++ items }
      else none
  | .countDelivery =>
      if s.pendingCount then
        some { s with
          client := { s.client with subUpdateCount := s.client.subUpdateCount + 1 }
          pendingCount := false
          log := s.log ++ [.delivery] }
      else none
  | .beginRead start count =>
      if s.call = .idle then
        some { s with
          client := (s.client.beginRead start count).1
          call := (s.client.beginRead start count).2
          log := s.log ++ logged (s.client.beginRead start count).2 }
      else none
  | .finishRead answer =>
      match (ProtocolClient.opcUa s.client).finishRead overflowChecks s.call answer with
      | some (.opcUa client, .values _) => some { s with client := client, call := .idle }
      | _ => none

/-- The answer from the cache, if that is where the read has gone. -/
def cacheAnswer (overflowChecks : Bool) (s : OpcUaConnection) : Option (List UInt16) :=
  match (ProtocolClient.opcUa s.client).finishRead overflowChecks s.call .cache with
  | some (_, .values values) => some values
  | _ => none

/-! ## What fresh means -/

/-- The entries since the last read from the cache, latest first. -/
def sinceCacheRead (log : List ReadLogEntry) : List ReadLogEntry :=
  log.reverse.takeWhile (· ≠ .cacheRead)

/-- Every read from the cache has a delivery between the previous one, or the beginning, and
itself. -/
def Fresh (log : List ReadLogEntry) : Prop :=
  ∀ before after, log = before ++ [.cacheRead] ++ after → .delivery ∈ sinceCacheRead before

/-- After six reads in a row without a delivery no read goes to the cache. -/
def FallsBack (log : List ReadLogEntry) : Prop :=
  ∀ before after, log = before ++ List.replicate 6 .serverRead ++ after → .cacheRead ∉ after

/-- An answer from the cache has, for every register asked for that has been delivered, the value
delivered last. -/
def AnswersLatest (overflowChecks : Bool) (s : OpcUaConnection) : Prop :=
  ∀ start count values, s.call = .readingCache start count →
    s.cacheAnswer overflowChecks = some values →
    ∀ register ∈ registersFrom start count, ∀ item,
      EventMap.lastOn NodeValue.node s.delivered register = some item →
      values[register - start.toNat]? = some item.converted

theorem sinceCacheRead_append_singleton (log : List ReadLogEntry) (entry : ReadLogEntry) :
    sinceCacheRead (log ++ [entry]) =
      if entry = .cacheRead then [] else entry :: sinceCacheRead log := by
  unfold sinceCacheRead
  rw [List.reverse_append, List.reverse_singleton, List.singleton_append, List.takeWhile_cons]
  cases entry <;> rfl

theorem sinceCacheRead_append {log rest : List ReadLogEntry} (h : .cacheRead ∉ rest) :
    sinceCacheRead (log ++ rest) = rest.reverse ++ sinceCacheRead log := by
  have hall : ∀ entry ∈ rest.reverse, decide (entry ≠ ReadLogEntry.cacheRead) = true := by
    intro entry hentry
    rw [decide_eq_true_eq]
    rintro rfl
    exact h (List.mem_reverse.mp hentry)
  unfold sinceCacheRead
  rw [List.reverse_append, List.takeWhile_append_of_pos hall]

/-- What the client knows of its log. -/
structure Tracked (s : OpcUaConnection) : Prop where
  session : s.client.hasSession = true
  cache : s.client.subCache =
    EventMap.after NodeValue.node (fun item ↦ some item.converted) s.delivered
  counted : s.client.subUpdateCount =
    s.client.lastReadCount + (sinceCacheRead s.log).count .delivery
  stale : s.client.subActive = true →
    (sinceCacheRead s.log).count .serverRead = s.client.subStaleReads ∧ s.client.subStaleReads ≤ 5
  fresh : Fresh s.log
  fallsBack : FallsBack s.log

variable {overflowChecks : Bool} {s t : OpcUaConnection} {label : Label} {labels : List Label}

/-! ## Entries -/

/-- The last entry of a split log. -/
theorem split_append_singleton {log before : List ReadLogEntry} {entry : ReadLogEntry}
    {segment after : List ReadLogEntry} (h : log ++ [entry] = before ++ segment ++ after) :
    (after = [] ∧ before ++ segment = log ++ [entry]) ∨
      ∃ after', after = after' ++ [entry] ∧ log = before ++ segment ++ after' := by
  rcases List.eq_nil_or_concat after with rfl | ⟨after', last, rfl⟩
  · rw [List.append_nil] at h
    exact .inl ⟨rfl, h.symm⟩
  · rw [List.concat_eq_append, ← List.append_assoc] at h
    obtain ⟨hlog, hlast⟩ := List.append_inj' h rfl
    obtain rfl := List.singleton_inj.mp hlast
    exact .inr ⟨after', List.concat_eq_append, hlog⟩

/-- While the subscription counts as alive there have not been six reads in a row without a
delivery. -/
theorem Tracked.not_six (h : s.Tracked) (hactive : s.client.subActive = true)
    (before after : List ReadLogEntry) :
    s.log ≠ before ++ List.replicate 6 .serverRead ++ after := by
  intro hlog
  have hnone : ReadLogEntry.cacheRead ∉ List.replicate 6 .serverRead ++ after := by
    rw [List.mem_append, not_or]
    exact ⟨fun hmem ↦ (nomatch List.eq_of_mem_replicate hmem), h.fallsBack before after hlog⟩
  obtain ⟨hstale, hle⟩ := h.stale hactive
  rw [hlog, List.append_assoc, sinceCacheRead_append hnone, List.count_append, List.count_reverse,
    List.count_append, List.count_replicate_self] at hstale
  omega

section log

variable {log : List ReadLogEntry} {entry : ReadLogEntry}

theorem Fresh.append (h : Fresh log)
    (hentry : entry = .cacheRead → .delivery ∈ sinceCacheRead log) : Fresh (log ++ [entry]) := by
  intro before after hsplit
  rcases split_append_singleton hsplit with ⟨-, hlast⟩ | ⟨after', -, hlog⟩
  · obtain ⟨rfl, hsame⟩ := List.append_inj' hlast rfl
    exact hentry (List.singleton_inj.mp hsame).symm
  · exact h before after' hlog

theorem FallsBack.append (h : FallsBack log)
    (hentry : entry = .cacheRead →
      ∀ before after, log ≠ before ++ List.replicate 6 .serverRead ++ after) :
    FallsBack (log ++ [entry]) := by
  intro before after hsplit hmem
  rcases split_append_singleton hsplit with ⟨rfl, -⟩ | ⟨after', rfl, hlog⟩
  · cases hmem
  · rcases List.mem_append.mp hmem with hearlier | hlast
    · exact h before after' hlog hearlier
    · exact hentry (List.mem_singleton.mp hlast).symm before after' hlog

end log

/-! ## Steps -/

theorem tracked_init (subActive : Bool) : (init subActive).Tracked where
  session := rfl
  cache := rfl
  counted := rfl
  stale _ := ⟨rfl, Nat.zero_le 5⟩
  fresh before after hsplit := by
    have hlength := congrArg List.length hsplit
    simp [init] at hlength
  fallsBack before after hsplit := by
    have hlength := congrArg List.length hsplit
    simp [init] at hlength

section beginRead

variable {client : OpcUaClient} {start count : UInt16}

theorem beginRead_of_new (hactive : client.subActive = true)
    (hnew : client.lastReadCount < client.subUpdateCount) :
    client.beginRead start count =
      ({ client with lastReadCount := client.subUpdateCount, subStaleReads := 0 },
        .readingCache start count) := by
  unfold OpcUaClient.beginRead OpcUaClient.isFresh
  rw [hactive, decide_eq_true hnew]
  rfl

theorem beginRead_of_stale (hactive : client.subActive = true)
    (hnew : ¬client.lastReadCount < client.subUpdateCount) (hsession : client.hasSession = true) :
    client.beginRead start count =
      ({ client with
          subStaleReads := client.subStaleReads + 1
          subActive := !decide (5 < client.subStaleReads + 1) },
        .pollingServer start count) := by
  unfold OpcUaClient.beginRead OpcUaClient.isFresh
  simp only [hactive, decide_eq_false hnew, hsession, Bool.and_false, Bool.false_eq_true, if_false,
    if_true]

theorem beginRead_of_inactive (hactive : client.subActive = false)
    (hsession : client.hasSession = true) :
    client.beginRead start count = (client, .pollingServer start count) := by
  unfold OpcUaClient.beginRead OpcUaClient.isFresh
  simp only [hactive, hsession, Bool.false_and, Bool.false_eq_true, if_false, if_true]

end beginRead

/-- A read looks at the counter. -/
theorem Tracked.beginRead (h : s.Tracked) (start count : UInt16) :
    Tracked { s with
      client := (s.client.beginRead start count).1
      call := (s.client.beginRead start count).2
      log := s.log ++ logged (s.client.beginRead start count).2 } := by
  have hserver := sinceCacheRead_append_singleton s.log .serverRead
  rw [if_neg (by decide)] at hserver
  cases hactive : s.client.subActive with
  | false =>
      rw [beginRead_of_inactive hactive h.session]
      refine ⟨h.session, h.cache, ?_, fun htrue ↦ ?_, h.fresh.append nofun,
        h.fallsBack.append nofun⟩
      · dsimp only [logged]
        rw [hserver, List.count_cons_of_ne (by decide)]
        exact h.counted
      · rw [hactive] at htrue
        cases htrue
  | true =>
      by_cases hnew : s.client.lastReadCount < s.client.subUpdateCount
      · rw [beginRead_of_new hactive hnew]
        have hcache := sinceCacheRead_append_singleton s.log .cacheRead
        rw [if_pos rfl] at hcache
        refine ⟨h.session, h.cache, ?_, fun _ ↦ ?_, h.fresh.append fun _ ↦ ?_,
          h.fallsBack.append fun _ ↦ h.not_six hactive⟩
        · dsimp only [logged]
          rw [hcache, List.count_nil]
          rfl
        · dsimp only [logged]
          rw [hcache, List.count_nil]
          exact ⟨rfl, Nat.zero_le 5⟩
        · have hcounted := h.counted
          exact List.count_pos_iff.mp (by omega)
      · rw [beginRead_of_stale hactive hnew h.session]
        obtain ⟨hstale, hle⟩ := h.stale hactive
        refine ⟨h.session, h.cache, ?_, fun hstill ↦ ?_, h.fresh.append nofun,
          h.fallsBack.append nofun⟩
        · dsimp only [logged]
          rw [hserver, List.count_cons_of_ne (by decide)]
          exact h.counted
        · dsimp only [logged] at hstill ⊢
          rw [hserver, List.count_cons_self, hstale]
          rw [Bool.not_eq_true', decide_eq_false_iff_not] at hstill
          exact ⟨rfl, by omega⟩

/-- **Step lemma.** -/
theorem Tracked.step (h : s.Tracked) (hstep : s.step overflowChecks label = some t) :
    t.Tracked := by
  unfold OpcUaConnection.step at hstep
  cases label with
  | deliver items =>
      dsimp only at hstep
      split at hstep
      · cases hstep
        exact ⟨h.session, OpcUaLink.subCache_store items h.cache, h.counted, h.stale, h.fresh,
          h.fallsBack⟩
      · cases hstep
  | countDelivery =>
      dsimp only at hstep
      split at hstep
      · cases hstep
        have hsince := sinceCacheRead_append_singleton s.log .delivery
        rw [if_neg nofun] at hsince
        refine ⟨h.session, h.cache, ?_, ?_, h.fresh.append nofun, h.fallsBack.append nofun⟩
        · dsimp only
          rw [hsince, List.count_cons_self, h.counted, Nat.add_assoc]
        · dsimp only
          rw [hsince, List.count_cons_of_ne (by decide)]
          exact h.stale
      · cases hstep
  | beginRead start count =>
      dsimp only at hstep
      split at hstep
      · cases hstep
        exact h.beginRead start count
      · cases hstep
  | finishRead answer =>
      dsimp only at hstep
      split at hstep
      case h_1 client values hfinish =>
          cases hstep
          cases ProtocolClient.client_of_values hfinish
          exact ⟨h.session, h.cache, h.counted, h.stale, h.fresh, h.fallsBack⟩
      case h_2 => cases hstep

/-! ## Connections as links -/

/-- The connection without its log, with what reads have returned. -/
def toLink (s : OpcUaConnection) (returned : List NodeValue) : OpcUaLink where
  client := s.client
  call := s.call
  pendingCount := s.pendingCount
  delivered := s.delivered
  returned := returned

/-- The range of a new read can be computed. -/
def RangeFits (_ : OpcUaConnection) : Label → Prop
  | .beginRead start count => start.toNat + count.toNat < 2 ^ 16
  | _ => True

/-- The range of the read in progress can be computed. -/
def CallFits (s : OpcUaConnection) : Prop :=
  ∀ start count, s.call = .readingCache start count ∨ s.call = .pollingServer start count →
    start.toNat + count.toNat < 2 ^ 16

theorem callFits_beginRead {start count : UInt16} (hrange : start.toNat + count.toNat < 2 ^ 16)
    (client : OpcUaClient) (start' count' : UInt16)
    (hcall : (client.beginRead start count).2 = .readingCache start' count' ∨
      (client.beginRead start count).2 = .pollingServer start' count') :
    start'.toNat + count'.toNat < 2 ^ 16 := by
  unfold OpcUaClient.beginRead at hcall
  split at hcall
  · rcases hcall with hcall | hcall <;> cases hcall
    exact hrange
  · dsimp only at hcall
    repeat' split at hcall
    all_goals
      rcases hcall with hcall | hcall <;> cases hcall
    all_goals exact hrange

/-- A read that has its answer gives the same one on the link. -/
theorem toLink_finishRead {answer : ReadAnswer} {client : ProtocolClient} {values : List UInt16}
    (hfits : s.CallFits)
    (hfinish : (ProtocolClient.opcUa s.client).finishRead overflowChecks s.call answer =
      some (client, .values values)) (returned : List NodeValue) :
    ∃ label returned' start,
      (s.toLink returned).step label = some ({ s with call := .idle }.toLink returned') ∧
      (s.toLink returned).reply label = some (start, .ok values) := by
  unfold ProtocolClient.finishRead at hfinish
  cases hcall : s.call with
  | idle =>
      rw [hcall] at hfinish
      cases answer <;> cases hfinish
  | readingCache start count =>
      rw [hcall] at hfinish
      cases answer with
      | cache =>
          dsimp only at hfinish
          rw [addressRange_of_lt (hfits start count (.inl hcall))] at hfinish
          cases hfinish
          refine ⟨.readCache, returned, start, ?_, ?_⟩
          · unfold OpcUaLink.step
            dsimp only [toLink]
            rw [hcall]
          · unfold OpcUaLink.reply
            dsimp only [toLink]
            rw [hcall]
      | _ => cases hfinish
  | pollingServer start count =>
      rw [hcall] at hfinish
      cases answer with
      | nodes answer =>
          dsimp only at hfinish
          rw [addressRange_of_lt (hfits start count (.inr hcall))] at hfinish
          split at hfinish
          case h_1 range content hrange =>
              cases hrange
              cases hfinish
              let results := (registersFrom start count).map content
              refine ⟨.serverRead (.ok results),
                returned ++ OpcUaLink.resultsFor start results, start, ?_, ?_⟩
              · unfold OpcUaLink.step
                dsimp only [toLink]
                rw [hcall]
              · unfold OpcUaLink.reply
                dsimp only [toLink]
                rw [hcall, Except.map, List.map_map]
                rfl
          all_goals cases hfinish
      | _ => cases hfinish

/-- **One step.** -/
theorem exists_link_step (hfits : s.CallFits) (hrange : s.RangeFits label)
    (hstep : s.step overflowChecks label = some t) (returned : List NodeValue) :
    t.CallFits ∧ ∃ linkLabel returned',
      (s.toLink returned).step linkLabel = some (t.toLink returned') := by
  unfold step at hstep
  cases label with
  | deliver items =>
      dsimp only at hstep
      split at hstep
      case isTrue hdeliver =>
          cases hstep
          exact ⟨hfits, .deliver items, returned, if_pos hdeliver⟩
      case isFalse => cases hstep
  | countDelivery =>
      dsimp only at hstep
      split at hstep
      case isTrue hpending =>
          cases hstep
          exact ⟨hfits, .countDelivery, returned, if_pos hpending⟩
      case isFalse => cases hstep
  | beginRead start count =>
      dsimp only at hstep
      split at hstep
      case isTrue hidle =>
          cases hstep
          exact ⟨callFits_beginRead hrange s.client, .beginRead start count, returned,
            if_pos ⟨hidle, hrange⟩⟩
      case isFalse => cases hstep
  | finishRead answer =>
      dsimp only at hstep
      split at hstep
      case h_1 client values hfinish =>
          cases hstep
          obtain ⟨linkLabel, returned', _, hlink, -⟩ := toLink_finishRead hfits hfinish returned
          cases ProtocolClient.client_of_values hfinish
          refine ⟨fun start count hcall ↦ ?_, linkLabel, returned', hlink⟩
          rcases hcall with hcall | hcall <;> cases hcall
      case h_2 => cases hstep

/-- **Refinement.** A run whose ranges can be computed is one of the link, with the same client. -/
theorem exists_link_run {subActive : Bool}
    (hrun : Transition.Run
      (Transition.guarded RangeFits (Transition.ofOption (step overflowChecks)))
      (init subActive) labels s) :
    ∃ linkLabels returned, Transition.Run (Transition.ofOption OpcUaLink.step)
      (.init subActive) linkLabels (s.toLink returned) := by
  have hlinked : s.CallFits ∧ ∃ linkLabels returned,
      Transition.Run (Transition.ofOption OpcUaLink.step) (.init subActive) linkLabels
        (s.toLink returned) := by
    induction hrun with
    | nil =>
        refine ⟨fun start count hcall ↦ ?_, [], [], .nil⟩
        rcases hcall with hcall | hcall <;> cases hcall
    | snoc _ hlast ih =>
        obtain ⟨hfits, linkLabels, returned, hlink⟩ := ih
        obtain ⟨hfits', linkLabel, returned', hnext⟩ :=
          exists_link_step hfits hlast.1 hlast.2 returned
        exact ⟨hfits', linkLabels ++ [linkLabel], returned', hlink.snoc hnext⟩
  exact hlinked.2

/-! ## Answers from the cache -/

theorem cacheAnswer_of_lt {start count : UInt16} (hcall : s.call = .readingCache start count)
    (hlt : start.toNat + count.toNat < 2 ^ 16) :
    s.cacheAnswer overflowChecks = some ((registersFrom start count).map fun register ↦
      (s.client.subCache register).getD 0) := by
  simp only [cacheAnswer, hcall, ProtocolClient.finishRead, addressRange_of_lt hlt]

/-- A range that overflows: no answer or an empty one. -/
theorem cacheAnswer_of_le {start count : UInt16} (hcall : s.call = .readingCache start count)
    (hle : 2 ^ 16 ≤ start.toNat + count.toNat) :
    s.cacheAnswer overflowChecks = if overflowChecks then none else some [] := by
  simp only [cacheAnswer, hcall, ProtocolClient.finishRead, addressRange_of_le hle]
  cases overflowChecks <;> rfl

/-- The value of a register in an answer from the cache. -/
theorem getElem?_cached (h : s.Tracked) {start count : UInt16} {register : ℕ}
    (hregister : register ∈ registersFrom start count) {item : NodeValue}
    (hitem : EventMap.lastOn NodeValue.node s.delivered register = some item) :
    ((registersFrom start count).map fun register ↦
      (s.client.subCache register).getD 0)[register - start.toNat]? = some item.converted := by
  obtain ⟨hle, hlt⟩ := List.mem_range'_1.mp hregister
  have hindex : (registersFrom start count)[register - start.toNat]? = some register := by
    rw [registersFrom, List.getElem?_range' (by omega)]
    exact congrArg some (by omega)
  have hvalue : s.client.subCache register = some item.converted := by
    rw [h.cache, EventMap.after, hitem, Option.bind_some]
  rw [List.getElem?_map, hindex, Option.map_some, hvalue, Option.getD_some]

/-- The range of a read from the cache can be computed, or none of its registers has been
delivered. -/
def RangeIsRead (s : OpcUaConnection) : Prop :=
  ∀ start count, s.call = .readingCache start count →
    start.toNat + count.toNat < 2 ^ 16 ∨ ∀ register ∈ registersFrom start count,
      EventMap.lastOn NodeValue.node s.delivered register = none

theorem answersLatest_iff (h : s.Tracked) :
    s.AnswersLatest overflowChecks ↔ overflowChecks = true ∨ s.RangeIsRead := by
  constructor
  · intro hlatest
    by_contra hnot
    obtain ⟨hchecks, hrange⟩ := not_or.mp hnot
    apply hrange
    intro start count hcall
    rcases Nat.lt_or_ge (start.toNat + count.toNat) (2 ^ 16) with hlt | hle
    · exact .inl hlt
    · refine .inr fun register hregister ↦ ?_
      have hempty := @cacheAnswer_of_le overflowChecks _ _ _ hcall hle
      rw [if_neg hchecks] at hempty
      cases hitem : EventMap.lastOn NodeValue.node s.delivered register with
      | none => rfl
      | some item => cases hlatest start count [] hcall hempty register hregister item hitem
  · rintro hcondition start count values hcall hanswer register hregister item hitem
    rcases Nat.lt_or_ge (start.toNat + count.toNat) (2 ^ 16) with hlt | hle
    · rw [cacheAnswer_of_lt hcall hlt] at hanswer
      cases hanswer
      exact getElem?_cached h hregister hitem
    · rw [cacheAnswer_of_le hcall hle] at hanswer
      rcases hcondition with hchecks | hrange
      · rw [if_pos hchecks] at hanswer
        cases hanswer
      · have hnone :=
          (hrange start count hcall).resolve_left (Nat.not_lt.mpr hle) register hregister
        rw [hnone] at hitem
        cases hitem

/-- **Freshness.** In every reachable state of a connection the reads are fresh, fall back and
answer with the latest deliveries exactly when a read that is at the cache can compute its range, or
asks for nothing that has been delivered. -/
theorem reads_fresh_iff {subActive : Bool}
    (hrun : Transition.Run (Transition.ofOption (step overflowChecks)) (init subActive) labels s) :
    (Fresh s.log ∧ FallsBack s.log ∧ s.AnswersLatest overflowChecks) ↔
      overflowChecks = true ∨ s.RangeIsRead := by
  have htracked : s.Tracked :=
    hrun.invariant (tracked_init subActive) fun _ _ _ hu hstep ↦ hu.step hstep
  rw [and_iff_right htracked.fresh, and_iff_right htracked.fallsBack]
  exact answersLatest_iff htracked

/-- A register has been delivered, and is read with the one behind it. -/
def answeredRun : List Label :=
  [.deliver [⟨1028, some (.uint16 75)⟩], .countDelivery, .beginRead 1028 2]

theorem reads_fresh_iff_answeredRun :
    ∃ s, Transition.exec (step false) (init true) answeredRun = some s ∧
      Fresh s.log ∧ FallsBack s.log ∧ s.AnswersLatest false := by
  have hreads : (Transition.exec (step false) (init true) answeredRun).any
      fun s ↦ s.call = .readingCache 1028 2 := by decide
  obtain ⟨s, hs, hcall⟩ := (Option.any_eq_true _ _).mp hreads
  refine ⟨s, hs, (reads_fresh_iff (Transition.run_ofOption_iff.mpr hs)).mpr (.inr ?_)⟩
  intro start count hread
  rw [of_decide_eq_true hcall] at hread
  cases hread
  exact .inl (by decide)

/-- A register has been delivered, and a range around it is read that ends above the last one. -/
def wrappedRun : List Label :=
  [.deliver [⟨1028, some (.uint16 75)⟩], .countDelivery, .beginRead 1000 64536]

/-- In a release build the answer is empty. -/
theorem wrappedRun_not_latest :
    ∃ s, Transition.exec (step false) (init true) wrappedRun = some s ∧
      ¬(Fresh s.log ∧ FallsBack s.log ∧ s.AnswersLatest false) := by
  refine ⟨_, rfl, fun ⟨_, _, hlatest⟩ ↦ ?_⟩
  have hanswered := hlatest 1000 64536 [] rfl (cacheAnswer_of_le rfl (by decide))
  have hregister : 1028 ∈ registersFrom 1000 64536 := List.mem_range'_1.mpr (by decide)
  cases hanswered 1028 hregister ⟨1028, some (.uint16 75)⟩ rfl

end OpcUaConnection

end VyuhHmi
