import VyuhHmi.Device.Performed

/-!
# Requests handled one at a time

A request that is handled to completion with no other request in progress: its handler runs to its
end, or until it waits for a polling task, which then takes its steps.  What the lock sections do
one after the other is stated here for each handler as a whole.
-/

namespace VyuhHmi

/-- Phases of a handler that has answered success. -/
def RequestPhase.succeeded : RequestPhase → Bool
  | .done (some response) => response.success
  | _ => false

namespace DeviceRuntime

variable (socketAddr : String → Bool) (overflowChecks : Bool)

/-- Run a handler through at most so many sections, as long as it does not wait. -/
def settle (now : Instant) (request : ℕ) : ℕ → DeviceRuntime → DeviceRuntime
  | 0, s => s
  | sections + 1, s =>
      match s.advance socketAddr request now with
      | some t => settle now request sections t
      | none => s

/-- No handler has more sections between two waits. -/
def maxSections : ℕ := 4

/-- Steps of polling tasks, in order. -/
def pollAll (s : DeviceRuntime) (polls : List (ℕ × TaskEvent)) : Option DeviceRuntime :=
  polls.foldlM (fun u poll ↦ u.pollTask overflowChecks poll.1 poll.2) s

/-- Handle a request from its arrival to its answer, with the steps that polling tasks take while
the handler waits; none if it is not answered by then. -/
def handleAlone (s : DeviceRuntime) (call : DeviceCall) (now : Instant)
    (polls : List (ℕ × TaskEvent)) : Option DeviceRuntime :=
  let request := s.requests.length
  (s.arrive call).bind fun arrived ↦
    ((arrived.settle socketAddr now request maxSections).pollAll overflowChecks polls).bind fun u ↦
      some (u.settle socketAddr now request maxSections) |>.filter fun t ↦
        t.requests[request]?.any DeviceRequest.isDone

/-- The steps taken on behalf of one request. -/
def Label.handles (request : ℕ) (now : Instant) : Label → Prop
  | .advance i now' => i = request ∧ now' = now
  | .poll _ _ => True
  | _ => False

variable {socketAddr overflowChecks}
variable {s t : DeviceRuntime} {call : DeviceCall} {now : Instant} {i : ℕ}
  {polls : List (ℕ × TaskEvent)}

/-! ## As a run -/

/-- The steps of a request that is handled alone. -/
abbrev HandlingRun (socketAddr : String → Bool) (overflowChecks : Bool) (request : ℕ)
    (now : Instant) (s : DeviceRuntime) (labels : List Label) (t : DeviceRuntime) : Prop :=
  Transition.Run (Transition.guarded (fun _ label ↦ label.handles request now)
    (Transition.ofOption (step socketAddr overflowChecks))) s labels t

theorem run_settle (s : DeviceRuntime) (now : Instant) (i sections : ℕ) :
    ∃ labels, HandlingRun socketAddr overflowChecks i now s labels
      (s.settle socketAddr now i sections) := by
  induction sections generalizing s with
  | zero => exact ⟨[], .nil⟩
  | succ sections ih =>
      unfold settle
      cases hadvance : s.advance socketAddr i now with
      | none => exact ⟨[], .nil⟩
      | some t =>
          obtain ⟨labels, hrest⟩ := ih t
          have hfirst : HandlingRun socketAddr overflowChecks i now s [.advance i now] t :=
            Transition.Run.single ⟨⟨rfl, rfl⟩, hadvance⟩
          exact ⟨_, hfirst.append hrest⟩

theorem run_pollAll (h : s.pollAll overflowChecks polls = some t) :
    ∃ labels, HandlingRun socketAddr overflowChecks i now s labels t := by
  induction polls generalizing s with
  | nil =>
      obtain rfl : s = t := Option.some.inj h
      exact ⟨[], .nil⟩
  | cons poll polls ih =>
      rw [pollAll, List.foldlM_cons] at h
      obtain ⟨u, hpoll, hpolls⟩ := Option.bind_eq_some_iff.mp h
      obtain ⟨labels, hrest⟩ := ih hpolls
      have hfirst : HandlingRun socketAddr overflowChecks i now s [.poll poll.1 poll.2] u :=
        Transition.Run.single ⟨trivial, hpoll⟩
      exact ⟨_, hfirst.append hrest⟩

theorem arrive_eq_some_iff : s.arrive call = some t ↔
    (s.configured.isEmpty && s.persisted.isEmpty) ∧ t = s.arrived call := by
  unfold arrive
  split
  case isTrue h => rw [and_iff_right h, Option.some_inj, eq_comm]
  case isFalse h => exact iff_of_false nofun fun hboth ↦ h hboth.1

/-- A request handled alone is a run of its own steps and those of polling tasks. -/
theorem run_of_handleAlone
    (h : s.handleAlone socketAddr overflowChecks call now polls = some t) :
    ∃ labels, HandlingRun socketAddr overflowChecks s.requests.length now (s.arrived call) labels t ∧
      t.requests[s.requests.length]?.any DeviceRequest.isDone := by
  obtain ⟨arrived, harrive, hrest⟩ := Option.bind_eq_some_iff.mp h
  obtain ⟨u, hpolls, hlast⟩ := Option.bind_eq_some_iff.mp hrest
  obtain rfl := (arrive_eq_some_iff.mp harrive).2
  obtain ⟨hsettled, hdone⟩ := Option.filter_eq_some_iff.mp hlast
  obtain rfl := Option.some.inj hsettled
  obtain ⟨first, hfirst⟩ := @run_settle socketAddr overflowChecks (s.arrived call) now
    s.requests.length maxSections
  obtain ⟨middle, hmiddle⟩ := run_pollAll hpolls
  obtain ⟨last, hlast⟩ := @run_settle socketAddr overflowChecks u now s.requests.length maxSections
  exact ⟨_, (hfirst.append hmiddle).append hlast, hdone⟩

/-! ## A write handled alone -/

/-- The audit trail after a write request has been performed. -/
def writeLogged (trail : AuditTable) (claims : Claims) (req : WriteRequest) (now : Instant) :
    AuditTable :=
  logAudit trail claims.userId claims.sub "write_register" (some req.deviceId)
    (writeDetails req.register req.value) none now

/-- A write request has its entry exactly when it has answered success. -/
structure WriteTrail (trail : AuditTable) (i : ℕ) (claims : Claims) (req : WriteRequest)
    (now : Instant) (s : DeviceRuntime) : Prop where
  call : s.calls[i]? = some (.postWrite claims req)
  trail : s.auditTrail = if (s.phaseOf i).any RequestPhase.succeeded then
    writeLogged trail claims req now else trail

section write

variable {trail : AuditTable} {claims : Claims} {req : WriteRequest} {request : DeviceRequest}

/-- A step of the request that neither answers success nor writes to the trail. -/
theorem WriteTrail.setPhase (h : WriteTrail trail i claims req now s)
    (hrequest : s.requests[i]? = some request) (hold : request.phase.succeeded = false)
    {phase : RequestPhase} (hnew : phase.succeeded = false) :
    WriteTrail trail i claims req now (s.setPhase i phase) where
  call := by
    rw [calls_setPhase]
    exact h.call
  trail := by
    have hbefore := h.trail
    rw [phaseOf_of_some hrequest, Option.any_some, hold] at hbefore
    rw [phaseOf_setPhase hrequest, if_pos rfl, Option.any_some, hnew]
    exact hbefore

theorem WriteTrail.reply (h : WriteTrail trail i claims req now s) (commands : List WriteCommand)
    (reply : WriteReply) : WriteTrail trail i claims req now (s.reply commands reply) where
  call := by
    rw [calls_reply]
    exact h.call
  trail := by
    have hbefore := h.trail
    rw [phaseOf_reply]
    split
    case isTrue hwaits =>
        rw [hwaits.2] at hbefore
        exact hbefore
    case isFalse => exact hbefore

theorem not_succeeded_of_returns {phase : RequestPhase} (hphase : phase.returns) :
    phase.succeeded = false := by
  unfold RequestPhase.returns at hphase
  split at hphase <;> first | rfl | cases hphase

/-- **Step lemma.** -/
theorem writeTrail_effect {label : Label} (hhandles : label.handles i now)
    (h : WriteTrail trail i claims req now s) (heffect : Effect socketAddr s label t) :
    WriteTrail trail i claims req now t := by
  have hcall {request : DeviceRequest} (hrequest : s.requests[i]? = some request) :
      request.call = .postWrite claims req := by
    simpa [calls, hrequest] using h.call
  cases heffect with
  | register | skip | arrive | cancel | acceptLate => cases hhandles
  | answer table response hrequest hphase hwrite =>
      obtain ⟨rfl, rfl⟩ := hhandles
      have hsame : WriteTrail trail _ claims req _ { s with deviceTable := table } :=
        ⟨h.call, h.trail⟩
      apply hsame.setPhase hrequest (not_succeeded_of_returns hphase)
      apply hwrite
      rw [DeviceRequest.isWrite, hcall hrequest]
  | createNew hrequest | createAgain hrequest hhandle | registerAdded hrequest
  | registerConnected response hrequest hhandle | registerGone response hrequest hgone
  | remove hrequest hhandle | disconnect response hrequest hhandle =>
      obtain ⟨rfl, rfl⟩ := hhandles
      cases hcall hrequest
  | @spawn _ _ call config hrequest =>
      obtain ⟨rfl, rfl⟩ := hhandles
      have hsame : WriteTrail trail _ claims req _ (s.spawnTask config) := ⟨h.call, h.trail⟩
      exact hsame.setPhase hrequest rfl rfl
  | panic hrequest | send hrequest hhandle hwritable | succeed hrequest =>
      obtain ⟨rfl, rfl⟩ := hhandles
      exact h.setPhase hrequest rfl rfl
  | @push j _ claims' req' channel task hrequest htask hroom =>
      obtain ⟨rfl, rfl⟩ := hhandles
      have hsame : WriteTrail trail j claims req _ (s.updateTask channel fun task ↦
          { task with queue := task.queue ++ [⟨req'.register, req'.value, j⟩] }) :=
        ⟨h.call, h.trail⟩
      exact hsame.setPhase hrequest rfl rfl
  | @audit j now' claims' req' hrequest =>
      obtain ⟨rfl, rfl⟩ := hhandles
      obtain ⟨rfl, rfl⟩ : claims' = claims ∧ req' = req := DeviceCall.postWrite.inj (hcall hrequest)
      refine ⟨(congrArg (·[j]?) (calls_setPhase j _)).trans h.call, ?_⟩
      have hbefore := h.trail
      rw [phaseOf_of_some hrequest] at hbefore
      have hphase : (s.auditWrite j claims' req' now').phaseOf j = some (.done (some (.text (.ok
          ("[" ++ req'.deviceId ++ "] Register " ++ toString req'.register.toNat ++ " = " ++
            toString req'.value.toNat))))) :=
        (phaseOf_setPhase hrequest _ j).trans (if_pos rfl)
      rw [hphase]
      exact congrArg (writeLogged · claims' req' now') hbefore
  | move phase htask hfrom hto => exact ⟨h.call, h.trail⟩
  | receive htask hphase hqueue => exact ⟨h.call, h.trail⟩
  | accept htask hphase => exact ⟨h.call, h.trail⟩
  | @written k task command htask hphase =>
      have hsame : WriteTrail trail i claims req now
          (s.setTaskPhase k .polling) := ⟨h.call, h.trail⟩
      exact hsame.reply [command] .ok
  | @writeFailed k task command accepted error connected htask hphase =>
      have hsame : WriteTrail trail i claims req now
          (s.setTaskPhase k (if connected then .polling else .sleeping)) := ⟨h.call, h.trail⟩
      have hreplied := hsame.reply [command] (.err error)
      exact ⟨hreplied.call, hreplied.trail⟩
  | @finish k event task htask hevent =>
      have hsame : WriteTrail trail i claims req now (s.updateTask k fun task ↦
          { task with phase := .finished, queue := [] }) := ⟨h.call, h.trail⟩
      have hreplied := hsame.reply task.commands .dropped
      exact ⟨hreplied.call, hreplied.trail⟩

theorem performed_of_succeeded {phase : RequestPhase} (h : phase.succeeded) : phase.performed := by
  cases phase with
  | done response =>
      cases response with
      | none => cases h
      | some response => exact h
  | _ => cases h

/-- A write request handled alone answers success exactly with its entry, and then its write is one
that a PLC has accepted. -/
theorem postWrite_alone (hrouted : s.Routed fun _ _ ↦ True) (hperformed : s.Performed)
    (h : s.handleAlone socketAddr overflowChecks (.postWrite claims req) now polls = some t) :
    t.auditTrail = (if (t.phaseOf s.requests.length).any RequestPhase.succeeded then
        writeLogged s.auditTrail claims req now else s.auditTrail) ∧
      ((t.phaseOf s.requests.length).any RequestPhase.succeeded →
        ⟨req.deviceId, req.register, req.value, s.requests.length⟩ ∈ t.plcWrites) := by
  obtain ⟨labels, hrun, -⟩ := run_of_handleAlone h
  have hkept : WriteTrail s.auditTrail s.requests.length claims req now t ∧
      (t.Routed fun _ _ ↦ True) ∧ t.Performed := by
    apply @Transition.Run.invariant _ _ _ _ _ (fun u ↦
      WriteTrail s.auditTrail s.requests.length claims req now u ∧
        (u.Routed fun _ _ ↦ True) ∧ u.Performed) _ _ _ hrun
    · refine ⟨⟨by simp [calls], ?_⟩, hrouted.arrive _, hperformed.arrive _⟩
      rw [phaseOf_arrive, if_pos rfl]
      rfl
    · rintro u label v ⟨htrail, hrouted, hperformed⟩ ⟨hhandles, hstep⟩
      have heffect := effect_of_step hstep
      exact ⟨writeTrail_effect hhandles htrail heffect, routed_step hrouted hstep,
        performed_effect hperformed heffect⟩
  obtain ⟨htrail, hrouted', hperformed'⟩ := hkept
  refine ⟨htrail.trail, fun hsucceeded ↦ ?_⟩
  have hcall := htrail.call
  rw [calls, List.getElem?_map] at hcall
  obtain ⟨⟨call, phase⟩, hrequest, rfl⟩ := Option.map_eq_some_iff.mp hcall
  rw [phaseOf_of_some hrequest, Option.any_some] at hsucceeded
  obtain ⟨write, hmem, hresponse⟩ :=
    hperformed'.request _ _ hrequest rfl (performed_of_succeeded hsucceeded)
  obtain ⟨claims', req', hissued, hdevice, hregister, hvalue⟩ :=
    hrouted'.write write (List.mem_append_right _ hmem)
  rw [hresponse, htrail.call] at hissued
  obtain ⟨-, rfl⟩ := DeviceCall.postWrite.inj (Option.some.inj hissued)
  have hwrite : write = ⟨req.deviceId, req.register, req.value, s.requests.length⟩ := by
    rw [hdevice, hregister, hvalue, ← hresponse]
  rwa [← hwrite]

end write

/-! ## Other requests handled alone -/

section alone

/-- No request is in progress. -/
def AllDone (s : DeviceRuntime) : Prop := ∀ request ∈ s.requests, request.isDone

/-- No request other than `i` is in progress. -/
def OthersDone (s : DeviceRuntime) (i : ℕ) : Prop :=
  ∀ (j : ℕ) request, s.requests[j]? = some request → j ≠ i → request.isDone

variable {request : DeviceRequest}

theorem OthersDone.setPhase (h : s.OthersDone i) (hrequest : s.requests[i]? = some request)
    (phase : RequestPhase) : (s.setPhase i phase).OthersDone i := by
  intro j request' hj hne
  rw [setPhase_requests, ListUpdate.getElem?_modify_of_some hrequest, if_neg hne] at hj
  exact h j request' hj hne

theorem OthersDone.reply (h : s.OthersDone i) (commands : List WriteCommand) (reply : WriteReply) :
    (s.reply commands reply).OthersDone i := by
  intro j request' hj hne
  rcases reply_cases hj with hbefore | ⟨call, -, -, -, hbefore, -⟩
  · exact h j request' hbefore hne
  · -- a request that waits is not done
    cases h j _ hbefore hne

/-- **Step lemma.** -/
theorem othersDone_effect {label : Label} (hhandles : label.handles i now) (h : s.OthersDone i)
    (heffect : Effect socketAddr s label t) : t.OthersDone i := by
  cases heffect with
  | register | skip | arrive | cancel | acceptLate => cases hhandles
  | move | receive | accept => exact h
  | written htask hphase => exact OthersDone.reply h _ _
  | writeFailed error connected htask hphase => exact OthersDone.reply h _ _
  | finish htask hevent => exact OthersDone.reply h _ _
  | answer _ _ hrequest | createNew hrequest | createAgain hrequest | spawn hrequest
  | panic hrequest | registerAdded hrequest | registerConnected _ hrequest
  | registerGone _ hrequest | remove hrequest | disconnect _ hrequest | send hrequest
  | push hrequest | succeed hrequest | audit hrequest =>
      obtain ⟨rfl, rfl⟩ := hhandles
      exact OthersDone.setPhase h hrequest _

/-- Only write requests write to the audit trail. -/
theorem auditTrail_effect {label : Label} (hhandles : label.handles i now)
    (hcall : s.calls[i]? = some call) (hwrite : ∀ claims req, call ≠ .postWrite claims req)
    (heffect : Effect socketAddr s label t) : t.auditTrail = s.auditTrail := by
  cases heffect with
  | @audit _ _ claims req hrequest =>
      obtain ⟨rfl, rfl⟩ := hhandles
      have heq : call = .postWrite claims req := by
        rw [calls, List.getElem?_map, hrequest] at hcall
        exact (Option.some.inj hcall).symm
      exact absurd heq (hwrite claims req)
  | _ => rfl

theorem allDone_iff : s.AllDone ↔ ∀ i, s.OthersDone i := by
  constructor
  · intro h i j request hj _
    exact h request (List.mem_of_getElem? hj)
  · intro h request hmem
    obtain ⟨j, hj⟩ := List.mem_iff_getElem?.mp hmem
    exact h (j + 1) j request hj (Nat.succ_ne_self j).symm

theorem OthersDone.arrived (hdone : s.AllDone) (call : DeviceCall) :
    (s.arrived call).OthersDone s.requests.length := by
  intro j request hj hne
  rw [ListUpdate.getElem?_append_singleton, if_neg hne] at hj
  exact hdone request (List.mem_of_getElem? hj)

theorem canWrite_of_othersDone (h : s.OthersDone i) (hrequest : s.requests[i]? = some request)
    (hfree : request.holdsLock = false) : s.canWrite = true := by
  rw [canWrite, List.all_eq_true]
  intro other hmem
  obtain ⟨j, hj⟩ := List.mem_iff_getElem?.mp hmem
  by_cases hji : j = i
  · subst hji
    obtain rfl := Option.some.inj (hrequest.symm.trans hj)
    simpa [DeviceRequest.holdsLock, and_comm] using hfree
  · have hdone := h j other hj hji
    obtain ⟨call, phase⟩ := other
    cases phase with
    | done response => rfl
    | _ => cases hdone

theorem canRead_of_canWrite (h : s.canWrite = true) : s.canRead = true := by
  rw [canWrite, List.all_eq_true] at h
  rw [canRead, List.all_eq_true]
  intro request hmem
  exact (Bool.and_eq_true_iff.mp (h request hmem)).1

theorem advance_of_done {response : Option Response}
    (hrequest : s.requests[i]? = some ⟨call, .done response⟩) :
    s.advance socketAddr i now = none := by
  rw [advance, hrequest, Option.bind_some]
  cases call <;> rfl

/-- A handler that is done stays as it is. -/
theorem settle_of_done {response : Option Response}
    (hrequest : s.requests[i]? = some ⟨call, .done response⟩) (sections : ℕ) :
    s.settle socketAddr now i sections = s := by
  cases sections with
  | zero => rfl
  | succ sections => rw [settle, advance_of_done hrequest]

theorem settle_succ (h : s.advance socketAddr i now = some t) (sections : ℕ) :
    s.settle socketAddr now i (sections + 1) = t.settle socketAddr now i sections := by
  rw [settle, h]

theorem getElem?_setPhase_self {phase : RequestPhase}
    (hrequest : s.requests[i]? = some ⟨call, phase⟩)
    (phase' : RequestPhase) : (s.setPhase i phase').requests[i]? = some ⟨call, phase'⟩ := by
  rw [setPhase_requests, ListUpdate.getElem?_modify_of_some hrequest, if_pos rfl]

/-- The handler has run to its end with this response. -/
def SettlesWith (socketAddr : String → Bool) (now : Instant) (s : DeviceRuntime) (i sections : ℕ)
    (call : DeviceCall) (t : DeviceRuntime) (response : Option Response) : Prop :=
  s.settle socketAddr now i sections = t ∧ t.requests[i]? = some ⟨call, .done response⟩

theorem settlesWith_of_done {response : Option Response}
    (hrequest : s.requests[i]? = some ⟨call, .done response⟩) (sections : ℕ) :
    SettlesWith socketAddr now s i sections call s response :=
  ⟨settle_of_done hrequest sections, hrequest⟩

theorem SettlesWith.step {u : DeviceRuntime} {sections : ℕ} {response : Option Response}
    (hadvance : s.advance socketAddr i now = some u)
    (h : SettlesWith socketAddr now u i sections call t response) :
    SettlesWith socketAddr now s i (sections + 1) call t response :=
  ⟨(settle_succ hadvance sections).trans h.1, h.2⟩

theorem SettlesWith.answer {phase : RequestPhase} {response : Response} {u : DeviceRuntime}
    (hrequest : u.requests[i]? = some ⟨call, phase⟩)
    (hadvance : s.advance socketAddr i now = some (u.answer i response)) (sections : ℕ) :
    SettlesWith socketAddr now s i (sections + 1) call (u.answer i response) (some response) :=
  .step hadvance (settlesWith_of_done (getElem?_setPhase_self hrequest _) sections)

/-- The second section of `add_device` and `connect_device`: a client is created and a task
started, or the request is over. -/
theorem startClient_cases {config : DeviceConfig} (hothers : s.OthersDone i)
    (hrequest : s.requests[i]? = some ⟨call, .creating config⟩)
    (hadvance : s.advance socketAddr i now = some (s.startClient socketAddr i config)) :
    (newClient socketAddr config = .created ∧
      ∃ u, s.advance socketAddr i now = some u ∧ u.registry = s.registry ∧
        u.tasks = s.tasks ++ [.spawn config] ∧ u.OthersDone i ∧
        u.requests[i]? = some ⟨call, .registering config s.tasks.length⟩) ∨
    newClient socketAddr config ≠ .created ∧ ∀ sections, ∃ t response,
      SettlesWith socketAddr now s i (sections + 1) call t response ∧
        response.any Response.success = false := by
  rw [hadvance]
  unfold startClient at hadvance ⊢
  split at hadvance
  case h_1 hcreated =>
      left
      rw [hcreated]
      have hspawned : (s.spawnTask config).OthersDone i := hothers
      exact ⟨rfl, _, rfl, rfl, rfl, hspawned.setPhase hrequest _, getElem?_setPhase_self hrequest _⟩
  case h_2 hunsupported =>
      right
      rw [hunsupported]
      exact ⟨nofun, fun sections ↦ ⟨_, _, .answer hrequest hadvance sections, rfl⟩⟩
  case h_3 hpanicked =>
      right
      rw [hpanicked]
      exact ⟨nofun, fun sections ↦ ⟨_, none, .step hadvance
        (settlesWith_of_done (getElem?_setPhase_self hrequest _) sections), rfl⟩⟩

theorem addDevice_settles {req : AddDeviceRequest} (hothers : s.OthersDone i)
    (hrequest : s.requests[i]? = some ⟨.addDevice req, .ready⟩) :
    ∃ t response, SettlesWith socketAddr now s i maxSections (.addDevice req) t response ∧
      if s.registry req.id = none ∧ newClient socketAddr req.config = .created then
        response.any Response.success ∧ (t.registry req.id).isSome
      else response.any Response.success = false := by
  have hread := canRead_of_canWrite (canWrite_of_othersDone hothers hrequest rfl)
  have hready : s.advance socketAddr i now = if (s.registry req.id).isSome then
      some (s.answer i (.device (.fail ("Device '" ++ req.id ++ "' already exists"))))
      else some (s.setPhase i (.creating req.config)) := by
    rw [advance, hrequest, Option.bind_some]
    exact if_pos hread
  cases hentry : s.registry req.id with
  | some handle =>
      rw [hentry, Option.isSome_some, if_pos rfl] at hready
      refine ⟨_, _, .answer hrequest hready 3, ?_⟩
      rw [if_neg (by simp)]
      rfl
  | none =>
      rw [hentry, Option.isSome_none, if_neg Bool.false_ne_true] at hready
      have hcreating := getElem?_setPhase_self hrequest (.creating req.config)
      have hstart : (s.setPhase i (.creating req.config)).advance socketAddr i now =
          some ((s.setPhase i (.creating req.config)).startClient socketAddr i req.config) := by
        rw [advance, hcreating]
        rfl
      rcases startClient_cases (hothers.setPhase hrequest _) hcreating hstart with
        ⟨hcreated, u, hspawn, hregistry, htasks, hothers', hregistering⟩ | ⟨hnot, hsettles⟩
      · have hwrite := canWrite_of_othersDone hothers' hregistering rfl
        have hstore : u.advance socketAddr i now = some ((u.register req.id
            ⟨s.tasks.length, s.tasks.length, req.config⟩).setPhase i (.saving req.config)) := by
          rw [advance, hregistering]
          exact if_pos hwrite
        let stored := (u.register req.id ⟨s.tasks.length, s.tasks.length, req.config⟩).setPhase i
          (.saving req.config)
        have hsaving : stored.requests[i]? = some ⟨.addDevice req, .saving req.config⟩ :=
          getElem?_setPhase_self hregistering _
        have hsave : stored.advance socketAddr i now = some ((stored.saveDevice req.config).answer i
            (.device (.ok req.config.connected))) := by
          rw [advance, hsaving]
          rfl
        have hsaved : SettlesWith socketAddr now stored i 1 (.addDevice req) _ _ :=
          .answer (u := stored.saveDevice req.config) hsaving hsave 0
        refine ⟨_, _, .step hready (.step hspawn (.step hstore hsaved)), ?_⟩
        rw [if_pos ⟨rfl, hcreated⟩]
        exact ⟨rfl, congrArg Option.isSome (Function.update_self req.id _ u.registry)⟩
      · obtain ⟨t, response, hsettles, hfailed⟩ := hsettles 2
        refine ⟨t, response, .step hready hsettles, ?_⟩
        rw [if_neg fun hboth ↦ hnot hboth.2]
        exact hfailed

theorem removeDevice_settles {deviceId : String} (hothers : s.OthersDone i)
    (hrequest : s.requests[i]? = some ⟨.removeDevice deviceId, .ready⟩) :
    ∃ t response, SettlesWith socketAddr now s i maxSections (.removeDevice deviceId) t response ∧
      if (s.registry deviceId).isSome then
        response.any Response.success ∧ t.registry deviceId = none
      else response.any Response.success = false := by
  have hwrite := canWrite_of_othersDone hothers hrequest rfl
  cases hentry : s.registry deviceId with
  | none =>
      have hready : s.advance socketAddr i now = some (s.answer i
          (.text (.fail ("Device '" ++ deviceId ++ "' not found")))) := by
        simp only [advance, hrequest, Option.bind_some, removeDevice, if_pos hwrite, hentry]
      exact ⟨_, _, .answer hrequest hready 3, rfl⟩
  | some handle =>
      let removed := ((s.unregister deviceId).abort handle.task).setPhase i .deleting
      have hready : s.advance socketAddr i now = some removed := by
        simp only [advance, hrequest, Option.bind_some, removeDevice, if_pos hwrite, hentry, removed]
      have hdeleting : removed.requests[i]? = some ⟨.removeDevice deviceId, .deleting⟩ :=
        getElem?_setPhase_self hrequest _
      have hdelete : removed.advance socketAddr i now = some ((removed.deleteDevice deviceId).answer i
          (.text (.ok ("Device '" ++ deviceId ++ "' removed")))) := by
        rw [advance, hdeleting]
        rfl
      have hdeleted : SettlesWith socketAddr now removed i 3 (.removeDevice deviceId) _ _ :=
        .answer (u := removed.deleteDevice deviceId) hdeleting hdelete 2
      have hgone : Function.update s.registry deviceId none deviceId = none :=
        Function.update_self ..
      exact ⟨_, _, .step hready hdeleted, rfl, hgone⟩

theorem disconnectDevice_settles {deviceId : String} (hothers : s.OthersDone i)
    (hrequest : s.requests[i]? = some ⟨.disconnectDevice deviceId, .ready⟩) :
    ∃ t response, SettlesWith socketAddr now s i maxSections (.disconnectDevice deviceId) t response ∧
      ((∃ handle, s.registry deviceId = some handle ∧ s.taskIsFinished handle.task = false ∧
          response.any Response.success ∧ t.registry = s.registry ∧
          t.tasks = (s.abort handle.task).tasks ∧ t.plcWrites = s.plcWrites) ∨
        (∀ handle, s.registry deviceId = some handle → s.taskIsFinished handle.task = true) ∧
          response.any Response.success = false) := by
  have hwrite := canWrite_of_othersDone hothers hrequest rfl
  cases hentry : s.registry deviceId with
  | none =>
      have hready : s.advance socketAddr i now = some (s.answer i
          (.text (.fail ("Device '" ++ deviceId ++ "' not found")))) := by
        simp only [advance, hrequest, Option.bind_some, disconnectDevice, if_pos hwrite, hentry]
      exact ⟨_, _, .answer hrequest hready 3, .inr ⟨nofun, rfl⟩⟩
  | some handle =>
      cases hfinished : s.taskIsFinished handle.task with
      | true =>
          have hready : s.advance socketAddr i now = some (s.answer i
              (.text (.fail ("Device '" ++ deviceId ++ "' is already disconnected")))) := by
            simp only [advance, hrequest, Option.bind_some, disconnectDevice, if_pos hwrite, hentry,
              if_pos hfinished]
          refine ⟨_, _, .answer hrequest hready 3, .inr ⟨fun handle' heq ↦ ?_, rfl⟩⟩
          rwa [← Option.some.inj heq]
      | false =>
          have hready : s.advance socketAddr i now = some ((s.abort handle.task).answer i
              (.text (.ok ("Device '" ++ deviceId ++ "' disconnected")))) := by
            simp only [advance, hrequest, Option.bind_some, disconnectDevice, if_pos hwrite, hentry,
              hfinished, Bool.false_eq_true, if_false]
          exact ⟨_, _, .answer (u := s.abort handle.task) hrequest hready 3,
            .inl ⟨handle, rfl, hfinished, rfl, rfl, rfl, rfl⟩⟩

theorem connectDevice_settles {deviceId : String} (hothers : s.OthersDone i)
    (hrequest : s.requests[i]? = some ⟨.connectDevice deviceId, .ready⟩) :
    ∃ t response, SettlesWith socketAddr now s i maxSections (.connectDevice deviceId) t response ∧
      if (s.registry deviceId).any fun handle ↦ s.taskIsFinished handle.task &&
          newClient socketAddr handle.config == .created then
        response.any Response.success ∧ s.tasks.length < t.tasks.length
      else response.any Response.success = false := by
  have hread := canRead_of_canWrite (canWrite_of_othersDone hothers hrequest rfl)
  cases hentry : s.registry deviceId with
  | none =>
      have hready : s.advance socketAddr i now = some (s.answer i
          (.device (.fail ("Device '" ++ deviceId ++ "' not found")))) := by
        simp only [advance, hrequest, Option.bind_some, connectDevice, if_pos hread, hentry]
      exact ⟨_, _, .answer hrequest hready 3, rfl⟩
  | some handle =>
      rw [Option.any_some]
      cases hfinished : s.taskIsFinished handle.task with
      | false =>
          have hready : s.advance socketAddr i now = some (s.answer i
              (.device (.fail ("Device '" ++ deviceId ++ "' is already connected")))) := by
            simp only [advance, hrequest, Option.bind_some, connectDevice, if_pos hread, hentry,
              hfinished, Bool.false_eq_true, if_false]
          exact ⟨_, _, .answer hrequest hready 3, rfl⟩
      | true =>
          have hready : s.advance socketAddr i now = some (s.setPhase i (.creating handle.config)) := by
            simp only [advance, hrequest, Option.bind_some, connectDevice, if_pos hread, hentry,
              if_pos hfinished]
          have hcreating := getElem?_setPhase_self hrequest (.creating handle.config)
          have hstart : (s.setPhase i (.creating handle.config)).advance socketAddr i now =
              some ((s.setPhase i (.creating handle.config)).startClient socketAddr i
                handle.config) := by
            rw [advance, hcreating]
            rfl
          rcases startClient_cases (hothers.setPhase hrequest _) hcreating hstart with
            ⟨hcreated, u, hspawn, hregistry, htasks, hothers', hregistering⟩ | ⟨hnot, hsettles⟩
          · have hwrite := canWrite_of_othersDone hothers' hregistering rfl
            have hentry' : u.registry deviceId = some handle := by rw [hregistry]; exact hentry
            let stored := u.register deviceId
              { handle with task := s.tasks.length, writeTx := s.tasks.length }
            have hstore : u.advance socketAddr i now = some (stored.answer i
                (.device (.ok handle.config.connected))) := by
              rw [advance, hregistering, Option.bind_some]
              simp only [connectDevice, if_pos hwrite, hentry']
              rfl
            have hstored : SettlesWith socketAddr now u i 2 (.connectDevice deviceId) _ _ :=
              .answer (u := stored) hregistering hstore 1
            refine ⟨_, _, .step hready (.step hspawn hstored), ?_⟩
            rw [if_pos (by simp [hcreated])]
            refine ⟨rfl, ?_⟩
            rw [setPhase_tasks, register_tasks, htasks, setPhase_tasks, List.length_append]
            exact Nat.lt_succ_self _
          · obtain ⟨t, response, hsettles, hfailed⟩ := hsettles 2
            refine ⟨t, response, .step hready hsettles, ?_⟩
            rw [if_neg (by simpa using hnot)]
            exact hfailed

theorem succeeded_done (response : Option Response) :
    RequestPhase.succeeded (.done response) = response.any Response.success := by
  cases response <;> rfl

/-- The request will change the registry or a polling task. -/
def changesDevices (socketAddr : String → Bool) (s : DeviceRuntime) : DeviceCall → Bool
  | .addDevice req => (s.registry req.id).isNone && newClient socketAddr req.config == .created
  | .removeDevice deviceId => (s.registry deviceId).isSome
  | .disconnectDevice deviceId =>
      (s.registry deviceId).any fun handle ↦ s.taskIsLive handle.task
  | .connectDevice deviceId =>
      (s.registry deviceId).any fun handle ↦ s.taskIsFinished handle.task &&
        newClient socketAddr handle.config == .created
  | .postWrite _ _ => false

/-- The registry, the polling tasks or a PLC is not as it was. -/
def DevicesChanged (s t : DeviceRuntime) : Prop :=
  t.registry ≠ s.registry ∨ t.tasks ≠ s.tasks ∨ t.plcWrites ≠ s.plcWrites

/-- Telling a task to stop changes it unless it has been told before. -/
theorem abort_tasks_eq_iff (s : DeviceRuntime) (i : ℕ) :
    (s.abort i).tasks = s.tasks ↔ ∀ task, s.tasks[i]? = some task → task.aborted := by
  rw [updateTask_tasks]
  constructor
  · intro heq task htask
    have hsame := congrArg (·[i]?) heq
    simp only [List.getElem?_modify_eq, htask, Option.map_eq_map, Option.map_some,
      Option.some.injEq] at hsame
    rw [← hsame]
  · intro haborted
    apply List.ext_getElem?
    intro j
    rw [List.getElem?_modify]
    cases htask : s.tasks[j]? with
    | none => rfl
    | some task =>
        split
        case isTrue hij =>
            subst hij
            have hset := haborted task htask
            obtain ⟨config, phase, queue, aborted⟩ := task
            obtain rfl : aborted = true := hset
            rfl
        case isFalse => rfl

/-- A request that settles at once is handled. -/
theorem eq_of_settlesWith {response : Option Response} {u : DeviceRuntime}
    (hsettles : SettlesWith socketAddr now (s.arrived call) s.requests.length maxSections call t
      response)
    (h : s.handleAlone socketAddr overflowChecks call now [] = some u) :
    u = t ∧ u.phaseOf s.requests.length = some (.done response) := by
  obtain ⟨arrived, harrive, hrest⟩ := Option.bind_eq_some_iff.mp h
  obtain ⟨v, hpolls, hlast⟩ := Option.bind_eq_some_iff.mp hrest
  obtain rfl := (arrive_eq_some_iff.mp harrive).2
  obtain ⟨hsettled, -⟩ := Option.filter_eq_some_iff.mp hlast
  rw [hsettles.1] at hpolls
  obtain rfl : t = v := Option.some.inj hpolls
  rw [settle_of_done hsettles.2] at hsettled
  obtain rfl := Option.some.inj hsettled
  exact ⟨rfl, phaseOf_of_some hsettles.2⟩

theorem auditTrail_handleAlone (hwrite : ∀ claims req, call ≠ .postWrite claims req)
    (h : s.handleAlone socketAddr overflowChecks call now polls = some t) :
    t.auditTrail = s.auditTrail := by
  obtain ⟨labels, hrun, -⟩ := run_of_handleAlone h
  have hkept : t.calls[s.requests.length]? = some call ∧ t.auditTrail = s.auditTrail := by
    apply @Transition.Run.invariant _ _ _ _ _ (fun u ↦
      u.calls[s.requests.length]? = some call ∧ u.auditTrail = s.auditTrail) _ _ _ hrun
    · exact ⟨by simp [calls], rfl⟩
    · rintro u label v ⟨hcall, htrail⟩ ⟨hhandles, hstep⟩
      have heffect := effect_of_step hstep
      exact ⟨ListUpdate.getElem?_of_prefix (calls_prefix_of_effect heffect) hcall,
        (auditTrail_effect hhandles hcall hwrite heffect).trans htrail⟩
  exact hkept.2

/-- **Devices.** A request other than a write, handled alone, answers success and changes the
devices exactly when it was going to. -/
theorem devicesChanged_iff (hdone : s.AllDone) (hwrite : ∀ claims req, call ≠ .postWrite claims req)
    (h : s.handleAlone socketAddr overflowChecks call now [] = some t) :
    ((t.phaseOf s.requests.length).any RequestPhase.succeeded ∧ s.DevicesChanged t) ↔
      s.changesDevices socketAddr call := by
  have hrequest : (s.arrived call).requests[s.requests.length]? = some ⟨call, .ready⟩ := by simp
  have hothers := OthersDone.arrived hdone call
  cases call with
  | addDevice req =>
      obtain ⟨u, response, hsettles, hresult⟩ := addDevice_settles hothers hrequest
      obtain ⟨rfl, hphase⟩ := eq_of_settlesWith hsettles h
      rw [hphase, Option.any_some, succeeded_done]
      split at hresult
      case isTrue hadds =>
          refine iff_of_true ⟨hresult.1, .inl fun heq ↦ ?_⟩ (by simpa [changesDevices] using hadds)
          have hentry := hresult.2
          rw [heq, hadds.1] at hentry
          cases hentry
      case isFalse hnot =>
          refine iff_of_false (fun hboth ↦ ?_) (by simpa [changesDevices] using hnot)
          rw [hresult] at hboth
          cases hboth.1
  | removeDevice deviceId =>
      obtain ⟨u, response, hsettles, hresult⟩ := removeDevice_settles hothers hrequest
      obtain ⟨rfl, hphase⟩ := eq_of_settlesWith hsettles h
      rw [hphase, Option.any_some, succeeded_done]
      split at hresult
      case isTrue hentry =>
          refine iff_of_true ⟨hresult.1, .inl fun heq ↦ ?_⟩ hentry
          rw [← heq, hresult.2] at hentry
          cases hentry
      case isFalse hnot =>
          refine iff_of_false (fun hboth ↦ ?_) hnot
          rw [hresult] at hboth
          cases hboth.1
  | disconnectDevice deviceId =>
      obtain ⟨u, response, hsettles, hresult⟩ := disconnectDevice_settles hothers hrequest
      obtain ⟨rfl, hphase⟩ := eq_of_settlesWith hsettles h
      rw [hphase, Option.any_some, succeeded_done]
      rcases hresult with ⟨handle, hentry, hrunning, hsucceeded, hregistry, htasks, hwrites⟩ |
        ⟨hfinished, hfailed⟩
      · have hentry' : s.registry deviceId = some handle := hentry
        have hchanged : s.DevicesChanged t ↔ ¬(s.abort handle.task).tasks = s.tasks := by
          have htasks' : t.tasks = (s.abort handle.task).tasks := htasks
          rw [DevicesChanged, ← htasks']
          simp [hregistry, hwrites]
        rw [and_iff_right hsucceeded, hchanged, abort_tasks_eq_iff, changesDevices, hentry',
          Option.any_some]
        have hrunning' : s.taskIsFinished handle.task = false := hrunning
        rw [taskIsFinished] at hrunning'
        rw [taskIsLive]
        cases htask : s.tasks[handle.task]? with
        | none =>
            rw [htask] at hrunning'
            cases hrunning'
        | some task =>
            rw [htask, Option.all_some] at hrunning'
            simp [PollingTask.isLive, hrunning']
      · refine iff_of_false (fun hboth ↦ ?_) fun hlive ↦ ?_
        · rw [hfailed] at hboth
          cases hboth.1
        · obtain ⟨handle, hentry, hlive⟩ := (Option.any_eq_true _ _).mp hlive
          obtain ⟨task, htask, hlive⟩ := (Option.any_eq_true _ _).mp hlive
          have hstopped := hfinished handle hentry
          simp only [taskIsFinished, htask, Option.all_some] at hstopped
          simp [PollingTask.isLive, hstopped] at hlive
  | connectDevice deviceId =>
      obtain ⟨u, response, hsettles, hresult⟩ := connectDevice_settles hothers hrequest
      obtain ⟨rfl, hphase⟩ := eq_of_settlesWith hsettles h
      rw [hphase, Option.any_some, succeeded_done]
      split at hresult
      case isTrue hconnects =>
          refine iff_of_true ⟨hresult.1, .inr (.inl fun heq ↦ ?_)⟩ hconnects
          have hlonger := hresult.2
          rw [heq] at hlonger
          exact Nat.lt_irrefl _ hlonger
      case isFalse hnot =>
          refine iff_of_false (fun hboth ↦ ?_) hnot
          rw [hresult] at hboth
          cases hboth.1
  | postWrite claims req => exact absurd rfl (hwrite claims req)

/-- What holds between two requests that are handled one after the other. -/
structure Idle (s : DeviceRuntime) : Prop where
  done : s.AllDone
  routed : s.Routed fun _ _ ↦ True
  performed : s.Performed

theorem Idle.handleAlone (hidle : s.Idle)
    (h : s.handleAlone socketAddr overflowChecks call now polls = some t) : t.Idle := by
  obtain ⟨labels, hrun, hanswered⟩ := run_of_handleAlone h
  have hkept : t.OthersDone s.requests.length ∧ (t.Routed fun _ _ ↦ True) ∧ t.Performed := by
    apply @Transition.Run.invariant _ _ _ _ _ (fun u ↦
      u.OthersDone s.requests.length ∧ (u.Routed fun _ _ ↦ True) ∧ u.Performed) _ _ _ hrun
    · exact ⟨.arrived hidle.done call, hidle.routed.arrive call, hidle.performed.arrive call⟩
    · rintro u label v ⟨hothers, hrouted, hperformed⟩ ⟨hhandles, hstep⟩
      have heffect := effect_of_step hstep
      exact ⟨othersDone_effect hhandles hothers heffect, routed_step hrouted hstep,
        performed_effect hperformed heffect⟩
  refine ⟨fun request hmem ↦ ?_, hkept.2.1, hkept.2.2⟩
  obtain ⟨j, hj⟩ := List.mem_iff_getElem?.mp hmem
  by_cases hjn : j = s.requests.length
  · subst hjn
    rwa [hj, Option.any_some] at hanswered
  · exact hkept.1 j request hj hjn

/-- What goes on between two requests: start-up, polling tasks and late writes. -/
def Label.isBackground : Label → Bool
  | .registerAtStart | .poll _ _ | .acceptLate _ => true
  | _ => false

theorem Idle.background {label : Label} (hidle : s.Idle) (hbackground : label.isBackground)
    (hstep : step socketAddr overflowChecks s label = some t) :
    t.Idle ∧ t.auditTrail = s.auditTrail := by
  have heffect := effect_of_step hstep
  have hrouted := routed_step hidle.routed hstep
  have hperformed := performed_effect hidle.performed heffect
  cases label with
  | poll task event =>
      have hhandles (i : ℕ) : (Label.poll task event).handles i 0 := trivial
      have hdone : t.AllDone := allDone_iff.mpr fun i ↦
        othersDone_effect (hhandles i) (allDone_iff.mp hidle.done i) heffect
      refine ⟨⟨hdone, hrouted, hperformed⟩, ?_⟩
      cases heffect <;> rfl
  | registerAtStart =>
      cases heffect with
      | register => exact ⟨⟨hidle.done, hrouted, hperformed⟩, rfl⟩
      | skip => exact ⟨⟨hidle.done, hrouted, hperformed⟩, rfl⟩
  | acceptLate index =>
      cases heffect
      exact ⟨⟨hidle.done, hrouted, hperformed⟩, rfl⟩
  | _ => cases hbackground

theorem idle_init (configured deviceTable : List DeviceConfig) :
    (init configured deviceTable).Idle where
  done := fun _ h ↦ by cases h
  routed := routed_init _ configured deviceTable
  performed := ⟨fun _ _ h ↦ (by cases h), fun _ _ h ↦ (by cases h)⟩

/-- The audit trail may also be written by others. -/
theorem Idle.withTrail (hidle : s.Idle) (trail : AuditTable) :
    Idle { s with auditTrail := trail } where
  done := hidle.done
  routed := ⟨hidle.routed.handle, hidle.routed.request, hidle.routed.command, hidle.routed.write⟩
  performed := ⟨hidle.performed.task, hidle.performed.request⟩

end alone

end DeviceRuntime

end VyuhHmi
