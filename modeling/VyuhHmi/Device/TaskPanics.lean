import VyuhHmi.Device.RegisterRanges

/-!
# Panics of a polling task

A polling task panics on a zero poll rate, and in a build with overflow checks on a range that ends
too high and on one batch start too many.  Nothing else that its client's library answers ends it:
whether a task can panic is decided by the device it polls.
-/

namespace VyuhHmi

open DeviceRuntime (TaskEvent)

namespace DeviceConfig

variable (config : DeviceConfig)

/-- The client can compute the end of the range, and the loop all its addresses. -/
def rangeFits : Prop :=
  if config.protocol = "modbus" then
    config.registerStart.toNat + config.registerCount.toNat ≤ 2 ^ 16
  else config.registerStart.toNat + config.registerCount.toNat < 2 ^ 16

/-- The batch phase is among the registers that are read. -/
def readsBatchRegister : Prop :=
  batchRegister.toNat ∈ registersFrom config.registerStart config.registerCount

/-- What it takes for a polling task of the device never to panic. -/
def runsSafely (overflowChecks : Bool) : Prop :=
  config.pollRateMs ≠ 0 ∧ (overflowChecks = true → config.rangeFits ∧ ¬config.readsBatchRegister)

instance : Decidable config.rangeFits := inferInstanceAs (Decidable (ite _ _ _))

instance : Decidable config.readsBatchRegister := inferInstanceAs (Decidable (_ ∈ _))

instance (overflowChecks : Bool) : Decidable (config.runsSafely overflowChecks) :=
  inferInstanceAs (Decidable (_ ∧ _))

variable {config}

theorem le_of_rangeFits (h : config.rangeFits) :
    config.registerStart.toNat + config.registerCount.toNat ≤ 2 ^ 16 := by
  unfold rangeFits at h
  split at h
  · exact h
  · exact Nat.le_of_lt h

theorem lt_of_rangeFits (h : config.rangeFits) (hopcUa : decide (config.protocol = "modbus") = false) :
    config.registerStart.toNat + config.registerCount.toNat < 2 ^ 16 := by
  unfold rangeFits at h
  rwa [if_neg (of_decide_eq_false hopcUa)] at h

end DeviceConfig

/-! ## The kind of a client -/

namespace ProtocolClient

variable {overflowChecks : Bool} {client client' : ProtocolClient} {start count : UInt16}

@[simp] theorem isModbus_newFor (protocol : String) :
    (newFor protocol).isModbus = decide (protocol = "modbus") := by
  unfold newFor
  split
  case isTrue h => rw [decide_eq_true h, isModbus]
  case isFalse h => rw [decide_eq_false h, isModbus]

@[simp] theorem isModbus_connect (outcome : Except String Bool) :
    (client.connect outcome).isModbus = client.isModbus := by
  cases client with
  | modbus client => cases outcome <;> rfl
  | opcUa client => rfl

@[simp] theorem isModbus_beginRead : (client.beginRead start count).1.isModbus = client.isModbus := by
  cases client <;> rfl

@[simp] theorem isModbus_writeRegister (answer : Except String (Except String Unit)) :
    (client.writeRegister answer).1.isModbus = client.isModbus := by
  unfold writeRegister
  split
  · split <;> rfl
  · rfl

theorem isModbus_deliver {items : List NodeValue} (h : client.deliver items = some client') :
    client'.isModbus = client.isModbus := by
  unfold deliver at h
  split at h
  case h_1 => cases h
  case h_2 =>
      split at h <;> cases h
      rfl

theorem isModbus_finishRead {call : ClientCall} {answer : ReadAnswer} {outcome : ReadOutcome}
    (h : client.finishRead overflowChecks call answer = some (client', outcome)) :
    client'.isModbus = client.isModbus := by
  unfold finishRead at h
  split at h
  case h_5 | h_6 => split at h <;> cases h <;> rfl
  case h_7 => cases h
  all_goals
    cases h
    rfl

/-- A read asks for the range it was called for, or for nothing without a connection. -/
theorem call_beginRead : (client.beginRead start count).2 = .idle ∨
    (client.beginRead start count).2.asksFor start count := by
  cases client with
  | modbus client =>
      unfold beginRead
      dsimp only
      split
      · exact .inr (.inr rfl)
      · exact .inl rfl
  | opcUa client =>
      unfold beginRead OpcUaClient.beginRead
      dsimp only
      split
      · exact .inr (.inl rfl)
      · dsimp only
        -- the subscription may be given up, the session is not
        split
        all_goals
          split
          · exact .inr (.inr rfl)
          · exact .inl rfl

/-- A read does not panic unless the range overflows, and gives a value for each register. -/
theorem finishRead_outcome {call : ClientCall} {answer : ReadAnswer} {outcome : ReadOutcome}
    (hcall : call = .idle ∨ call.asksFor start count)
    (hfits : client.isModbus = false → start.toNat + count.toNat < 2 ^ 16)
    (h : client.finishRead overflowChecks call answer = some (client', outcome)) :
    outcome ≠ .panicked ∧ ∀ values, outcome = .values values →
      ∃ content : ℕ → UInt16, values = (registersFrom start count).map content := by
  cases hcontent : client.contentOf call answer with
  | some content =>
      rcases hcall with rfl | hcall
      · have hidle : client.contentOf .idle answer = none := by cases client <;> rfl
        rw [hidle] at hcontent
        cases hcontent
      · rw [finishRead_of_fits hcall hcontent hfits] at h
        cases h
        refine ⟨nofun, fun values hvalues ↦ ⟨content, ?_⟩⟩
        cases hvalues
        rfl
  | none =>
      -- no success, so the outcome is an error
      unfold finishRead at h
      split at h
      case h_1 | h_3 | h_4 =>
          cases h
          exact ⟨nofun, nofun⟩
      case h_2 => cases hcontent
      case h_5 => cases hcontent
      case h_6 client start' count' answer =>
          split at h
          case h_1 => cases hcontent
          case h_2 | h_3 =>
              cases h
              exact ⟨nofun, nofun⟩
          case h_4 => cases h
      case h_7 => cases h

/-- Without overflow checks no read panics. -/
theorem finishRead_unchecked {call : ClientCall} {answer : ReadAnswer} {outcome : ReadOutcome}
    (h : client.finishRead false call answer = some (client', outcome)) : outcome ≠ .panicked := by
  unfold finishRead at h
  split at h
  case h_5 client start count =>
      rcases Nat.lt_or_ge (start.toNat + count.toNat) (2 ^ 16) with hlt | hle
      · rw [addressRange_of_lt hlt] at h
        cases h
        nofun
      · rw [addressRange_of_le hle] at h
        cases h
        nofun
  case h_6 =>
      split at h <;> cases h <;> nofun
  case h_7 => cases h
  all_goals
    cases h
    nofun

end ProtocolClient

/-! ## Tasks that never panic -/

namespace TaskLocals

variable {overflowChecks : Bool} {config : DeviceConfig} {locals locals' : TaskLocals}
  {event : ClientEvent} {values : List UInt16} {times : ℕ → Rfc3339.Instant}

theorem panicked_process {tracking : BatchTracking}
    (hlabelled : (labelFrom overflowChecks config.registerStart 0 values).2 = true)
    (htracked : trackBatch overflowChecks locals.tracking
      (labelFrom overflowChecks config.registerStart 0 values).1 = some tracking) :
    (locals.process overflowChecks config values times).1.panicked = locals.panicked := by
  unfold process
  simp only [hlabelled, if_true, htracked]

/-- Without overflow checks the loop gives every value an address. -/
theorem labelFrom_unchecked (start : UInt16) (i : ℕ) (values : List UInt16) :
    (labelFrom false start i values).2 = true := by
  induction values generalizing i with
  | nil => rfl
  | cons value values ih => exact ih (i + 1)

theorem trackBatch_unchecked (tracking : BatchTracking) (labelled : List (UInt16 × UInt16)) :
    ∃ tracking', trackBatch false tracking labelled = some tracking' := by
  unfold trackBatch BatchTracking.poll countedStarts nextBatchCounter
  split
  · split <;> exact ⟨_, rfl⟩
  · exact ⟨_, rfl⟩

/-- A poll without register 1032 leaves the batch block alone. -/
theorem trackBatch_of_not_read (tracking : BatchTracking) (content : ℕ → UInt16)
    (hrange : config.registerStart.toNat + config.registerCount.toNat ≤ 2 ^ 16)
    (hbatch : ¬config.readsBatchRegister) :
    trackBatch overflowChecks tracking
        ((registersFrom config.registerStart config.registerCount).map fun register ↦
          (UInt16.ofNat register, content register)) = some tracking := by
  have hnone : regMap ((registersFrom config.registerStart config.registerCount).map
      fun register ↦ (UInt16.ofNat register, content register)) batchRegister = none := by
    unfold regMap EventMap.after
    rw [Option.bind_eq_none_iff]
    intro reading hlast
    have hkey := EventMap.key_of_lastOn hlast
    have hmem := List.mem_reverse.mp (List.mem_of_find?_eq_some hlast)
    obtain ⟨register, hregister, rfl⟩ := List.mem_map.mp hmem
    change UInt16.ofNat register = batchRegister at hkey
    obtain ⟨k, hk, rfl⟩ := List.mem_range'.mp hregister
    exfalso
    apply hbatch
    unfold DeviceConfig.readsBatchRegister
    rw [← hkey, UInt16.toNat_ofNat', Nat.mod_eq_of_lt (by omega)]
    exact hregister
  unfold trackBatch
  rw [hnone]

/-- A poll of a device that runs safely does not panic. -/
theorem panicked_process_of_runsSafely (hsafe : config.runsSafely overflowChecks)
    (hvalues : overflowChecks = true → ∃ content : ℕ → UInt16,
      values = (registersFrom config.registerStart config.registerCount).map content) :
    (locals.process overflowChecks config values times).1.panicked = locals.panicked := by
  cases overflowChecks with
  | false =>
      obtain ⟨tracking, htracked⟩ := trackBatch_unchecked locals.tracking
        (labelFrom false config.registerStart 0 values).1
      exact panicked_process (labelFrom_unchecked _ 0 values) htracked
  | true =>
      obtain ⟨hfits, hbatch⟩ := hsafe.2 rfl
      obtain ⟨content, rfl⟩ := hvalues rfl
      have hrange := DeviceConfig.le_of_rangeFits hfits
      have hlabelled : labelFrom true config.registerStart 0
          ((registersFrom config.registerStart config.registerCount).map content) = _ :=
        labelFrom_registersFrom content hrange
      have htracked : trackBatch true locals.tracking (labelFrom true config.registerStart 0
          ((registersFrom config.registerStart config.registerCount).map content)).1 =
          some locals.tracking := by
        rw [hlabelled]
        exact trackBatch_of_not_read locals.tracking content hrange hbatch
      exact panicked_process (by rw [hlabelled]) htracked

/-- What keeps a task from panicking. -/
structure Guarded (overflowChecks : Bool) (stage : TaskPhase × DeviceConfig) (locals : TaskLocals) :
    Prop where
  kind : locals.client.isModbus = decide (stage.2.protocol = "modbus")
  call : locals.call = .idle ∨
    locals.call.asksFor stage.2.registerStart stage.2.registerCount
  alive : stage.2.runsSafely overflowChecks → locals.panicked = false

theorem guarded_start (config : DeviceConfig) :
    Guarded overflowChecks (.connecting, config) (.start config) where
  kind := ProtocolClient.isModbus_newFor config.protocol
  call := .inl rfl
  alive _ := rfl

/-- **Step lemma.** -/
theorem Guarded.step {phase phase' : TaskPhase} {taskEvent : Option TaskEvent}
    (h : Guarded overflowChecks (phase, config) locals)
    (hevent : locals.step overflowChecks config event = some (locals', taskEvent)) :
    Guarded overflowChecks (phase', config) locals' := by
  obtain ⟨hkind, hcall, halive⟩ := h
  dsimp only at hkind hcall halive
  unfold TaskLocals.step at hevent
  cases event with
  | connect outcome =>
      have hconnect := (@ProtocolClient.isModbus_connect locals.client outcome).trans hkind
      cases outcome with
      | error e =>
          cases hevent
          exact ⟨hconnect, hcall, halive⟩
      | ok subActive =>
          cases hevent
          refine ⟨hconnect, hcall, fun hsafe ↦ ?_⟩
          dsimp only
          rw [halive hsafe, Bool.false_or, beq_eq_false_iff_ne]
          exact hsafe.1
  | slept | receive | accept | stop =>
      cases hevent
      exact ⟨hkind, hcall, halive⟩
  | write answer =>
      have hwrite := (@ProtocolClient.isModbus_writeRegister locals.client answer).trans hkind
      dsimp only at hevent
      split at hevent
      all_goals
        cases hevent
        exact ⟨hwrite, hcall, halive⟩
  | tick =>
      cases hevent
      exact ⟨ProtocolClient.isModbus_beginRead.trans hkind, ProtocolClient.call_beginRead, halive⟩
  | deliver items =>
      obtain ⟨client, hdeliver, hresult⟩ := Option.map_eq_some_iff.mp hevent
      cases hresult
      exact ⟨(ProtocolClient.isModbus_deliver hdeliver).trans hkind, hcall, halive⟩
  | read answer times =>
      obtain ⟨⟨client, outcome⟩, hfinish, hresult⟩ := Option.map_eq_some_iff.mp hevent
      have hclient := (ProtocolClient.isModbus_finishRead hfinish).trans hkind
      have houtcome (hchecks : overflowChecks = true) (hsafe : config.runsSafely overflowChecks) :=
        ProtocolClient.finishRead_outcome hcall
          (fun hopcUa ↦ DeviceConfig.lt_of_rangeFits (hsafe.2 hchecks).1 (hkind ▸ hopcUa)) hfinish
      dsimp only at hresult
      split at hresult
      case h_1 values =>
          cases hresult
          refine ⟨by rw [client_process]; exact hclient, .inl (by rw [call_process]),
            fun hsafe ↦ ?_⟩
          rw [panicked_process_of_runsSafely hsafe]
          · exact halive hsafe
          · exact fun hchecks ↦ (houtcome hchecks hsafe).2 values rfl
      case h_2 =>
          cases hresult
          exact ⟨hclient, .inl rfl, halive⟩
      case h_3 =>
          cases hresult
          refine ⟨hclient, .inl rfl, fun hsafe ↦ ?_⟩
          -- a read that panics has overflowed in a build that checks for it
          cases overflowChecks with
          | false => exact absurd rfl (ProtocolClient.finishRead_unchecked hfinish)
          | true => exact absurd rfl (houtcome rfl hsafe).1

end TaskLocals

namespace PollingSystem

variable {socketAddr : String → Bool} {overflowChecks : Bool} {s t : PollingSystem}
  {configured deviceTable : List DeviceConfig} {labels : List Label} {label : Label} {i : ℕ}
  {config : DeviceConfig}

/-- The task has panicked. -/
def panicked (s : PollingSystem) (task : ℕ) : Bool := s.locals[task]?.any TaskLocals.panicked

/-- Whatever happens from here on, the task does not panic. -/
def NeverPanics (socketAddr : String → Bool) (overflowChecks : Bool) (s : PollingSystem)
    (task : ℕ) : Prop :=
  ∀ labels t, Transition.Run (Transition.ofOption (step socketAddr overflowChecks)) s labels t →
    t.panicked task = false

theorem guarded_step (h : s.AllTasks (TaskLocals.Guarded overflowChecks))
    (hstep : s.step socketAddr overflowChecks label = some t) :
    t.AllTasks (TaskLocals.Guarded overflowChecks) :=
  AllTasks.step TaskLocals.guarded_start
    (fun _ _ _ _ _ _ _ hguarded _ hevent _ ↦ hguarded.step hevent)
    (fun _ _ _ _ _ hguarded hevent ↦ hguarded.step hevent) h hstep

/-- The task polls this device. -/
def Polls (task : ℕ) (config : DeviceConfig) (s : PollingSystem) : Prop :=
  ∃ phase, s.server.stages[task]? = some (phase, config)

/-- A task polls the same device to its end. -/
theorem Polls.step (h : s.Polls i config)
    (hstep : s.step socketAddr overflowChecks label = some t) : t.Polls i config := by
  obtain ⟨phase, hstage⟩ := h
  cases effect_of_step hstep with
  | @server label server hlabel hserver =>
      obtain ⟨configs, hstages⟩ :=
        DeviceRuntime.stages_of_effect hlabel (DeviceRuntime.effect_of_step hserver)
      refine ⟨phase, ?_⟩
      change server.stages[i]? = some (phase, config)
      rw [hstages, List.getElem?_append_left (List.getElem?_eq_some_iff.mp hstage).1]
      exact hstage
  | @task j event task locals locals' taskEvent server htask hlocals hevent hpoll =>
      obtain ⟨phase', hstages, -⟩ := DeviceRuntime.stages_of_pollTask htask hpoll
      change ∃ phase, server.stages[i]? = some (phase, config)
      rw [hstages, List.getElem?_set]
      split
      case isTrue hij =>
          subst hij
          rw [if_pos (List.getElem?_eq_some_iff.mp hstage).1]
          rw [DeviceRuntime.getElem?_stages, htask, Option.map_some] at hstage
          cases hstage
          exact ⟨phase', rfl⟩
      case isFalse => exact ⟨phase, hstage⟩
  | quiet => exact ⟨phase, hstage⟩

/-- **Safe devices.** -/
theorem neverPanics_of_runsSafely (h : s.AllTasks (TaskLocals.Guarded overflowChecks))
    (hpolls : s.Polls i config) (hsafe : config.runsSafely overflowChecks) :
    s.NeverPanics socketAddr overflowChecks i := by
  intro labels t hrun
  have hall : t.AllTasks (TaskLocals.Guarded overflowChecks) :=
    hrun.invariant h fun _ _ _ hu hstep ↦ guarded_step hu hstep
  obtain ⟨phase, hstage⟩ : t.Polls i config :=
    hrun.invariant hpolls fun _ _ _ hu hstep ↦ hu.step hstep
  have hlt : i < t.locals.length := hall.length ▸ (List.getElem?_eq_some_iff.mp hstage).1
  have hlocals := List.getElem?_eq_getElem hlt
  unfold panicked
  rw [hlocals, Option.any_some]
  exact (hall.each i _ _ hstage hlocals).alive hsafe

end PollingSystem

/-! ## Tasks that can panic -/

namespace DeviceRuntime

/-- In this phase the event takes a task of the device to the next one. -/
def Moves (overflowChecks : Bool) (config : DeviceConfig) (phase : TaskPhase) (event : TaskEvent)
    (next : TaskPhase) : Prop :=
  ∀ (s : DeviceRuntime) (i : ℕ), s.stages[i]? = some (phase, config) →
    ∃ t, s.pollTask overflowChecks i event = some t ∧ t.stages[i]? = some (next, config)

variable {overflowChecks : Bool} {config : DeviceConfig} {phase next : TaskPhase}
  {event : TaskEvent}

/-- The phase is written to the task. -/
theorem moves_of_pollTask
    (h : ∀ (s : DeviceRuntime) i task, s.tasks[i]? = some task → task.phase = phase →
      task.config = config → ∃ t f, s.pollTask overflowChecks i event = some t ∧
        t.tasks = s.tasks.modify i f ∧ (f task).stage = (next, task.config)) :
    Moves overflowChecks config phase event next := by
  intro s i hstage
  rw [getElem?_stages] at hstage
  obtain ⟨task, htask, hpair⟩ := Option.map_eq_some_iff.mp hstage
  cases hpair
  obtain ⟨t, f, hpoll, htasks, hnext⟩ := h s i task htask rfl rfl
  refine ⟨t, hpoll, ?_⟩
  rw [getElem?_stages, htasks, ListUpdate.getElem?_modify_of_some htask, if_pos rfl,
    Option.map_some, hnext]

theorem moves_connected (hrate : config.pollRateMs ≠ 0) :
    Moves overflowChecks config .connecting .connected .polling := by
  apply moves_of_pollTask
  intro s i task htask hphase hconfig
  refine ⟨s.setTaskPhase i .polling, _, ?_, rfl, rfl⟩
  rw [pollTask, htask, Option.bind_some, hphase]
  exact congrArg some (if_neg (hconfig ▸ hrate))

theorem moves_connected_zero (hrate : config.pollRateMs = 0) :
    Moves overflowChecks config .connecting .connected .finished := by
  apply moves_of_pollTask
  intro s i task htask hphase hconfig
  refine ⟨s.finish i task, _, ?_, rfl, rfl⟩
  rw [pollTask, htask, Option.bind_some, hphase]
  exact congrArg some (if_pos (hconfig ▸ hrate))

theorem moves_tick : Moves overflowChecks config .polling .tick .reading := by
  apply moves_of_pollTask
  intro s i task htask hphase hconfig
  refine ⟨s.setTaskPhase i .reading, _, ?_, rfl, rfl⟩
  rw [pollTask, htask, Option.bind_some, hphase]

theorem moves_readDone : Moves overflowChecks config .reading .readDone .polling := by
  apply moves_of_pollTask
  intro s i task htask hphase hconfig
  refine ⟨s.setTaskPhase i .polling, _, ?_, rfl, rfl⟩
  rw [pollTask, htask, Option.bind_some, hphase]

theorem moves_readPanicked : Moves true config .reading .readPanicked .finished := by
  apply moves_of_pollTask
  intro s i task htask hphase hconfig
  refine ⟨s.finish i task, _, ?_, rfl, rfl⟩
  rw [pollTask, htask, Option.bind_some, hphase]
  rfl

end DeviceRuntime

/-- A way for a task of the device from one phase and state of its own to another. -/
inductive TaskPath (overflowChecks : Bool) (config : DeviceConfig) (phase : TaskPhase)
    (locals : TaskLocals) : TaskPhase → TaskLocals → Prop
  | start : TaskPath overflowChecks config phase locals phase locals
  | act {phase' next : TaskPhase} {locals' locals'' : TaskLocals} {taskEvent : TaskEvent}
      (hpath : TaskPath overflowChecks config phase locals phase' locals') (event : ClientEvent)
      (hevent : locals'.step overflowChecks config event = some (locals'', some taskEvent))
      (hmoves : DeviceRuntime.Moves overflowChecks config phase' taskEvent next) :
      TaskPath overflowChecks config phase locals next locals''
  | quiet {phase' : TaskPhase} {locals' locals'' : TaskLocals}
      (hpath : TaskPath overflowChecks config phase locals phase' locals') (event : ClientEvent)
      (hevent : locals'.step overflowChecks config event = some (locals'', none)) :
      TaskPath overflowChecks config phase locals phase' locals''

namespace PollingSystem

variable {socketAddr : String → Bool} {overflowChecks : Bool} {s : PollingSystem} {i : ℕ}
  {config : DeviceConfig} {phase phase' : TaskPhase} {locals locals' : TaskLocals}

/-- The task is in this phase, with this state of its own. -/
structure At (i : ℕ) (phase : TaskPhase) (config : DeviceConfig) (locals : TaskLocals)
    (s : PollingSystem) : Prop where
  stage : s.server.stages[i]? = some (phase, config)
  locals : s.locals[i]? = some locals

theorem At.set {server : DeviceRuntime} (h : s.At i phase config locals)
    (hstage : server.stages[i]? = some (phase', config)) (locals' : TaskLocals) :
    At i phase' config locals' ⟨server, s.locals.set i locals'⟩ where
  stage := hstage
  locals := by rw [List.getElem?_set, if_pos rfl, if_pos (List.getElem?_eq_some_iff.mp h.locals).1]

/-- The system can take a task along any way of its own. -/
theorem exists_run_of_path (h : s.At i phase config locals)
    (hpath : TaskPath overflowChecks config phase locals phase' locals') :
    ∃ labels t, Transition.Run (Transition.ofOption (step socketAddr overflowChecks)) s labels t ∧
      t.At i phase' config locals' := by
  induction hpath with
  | start => exact ⟨[], s, .nil, h⟩
  | @act _ _ _ locals'' _ hpath event hevent hmoves ih =>
      obtain ⟨labels, t, hrun, hat⟩ := ih
      obtain ⟨server, hpoll, hstage⟩ := hmoves t.server i hat.stage
      have hbefore := hat.stage
      rw [DeviceRuntime.getElem?_stages] at hbefore
      obtain ⟨task, htask, hpair⟩ := Option.map_eq_some_iff.mp hbefore
      cases hpair
      have hstep : t.step socketAddr overflowChecks (.task i event) =
          some ⟨server, t.locals.set i locals''⟩ := by
        simp only [step, stepTask, htask, hat.locals, hevent, hpoll, Option.bind_some,
          Option.map_some]
      exact ⟨_, _, hrun.snoc hstep, hat.set hstage _⟩
  | @quiet _ _ locals'' hpath event hevent ih =>
      obtain ⟨labels, t, hrun, hat⟩ := ih
      have hbefore := hat.stage
      rw [DeviceRuntime.getElem?_stages] at hbefore
      obtain ⟨task, htask, hpair⟩ := Option.map_eq_some_iff.mp hbefore
      cases hpair
      have hstep : t.step socketAddr overflowChecks (.task i event) =
          some { t with locals := t.locals.set i locals'' } := by
        simp only [step, stepTask, htask, hat.locals, hevent, Option.bind_some]
      exact ⟨_, _, hrun.snoc hstep, hat.set hat.stage _⟩

end PollingSystem

/-! ### Overflows -/

section overflow

variable {config : DeviceConfig} {locals : TaskLocals}

/-- Values beyond the last address. -/
theorem labelFrom_of_overflow {start : UInt16} {i : ℕ} {values : List UInt16}
    (hi : start.toNat + i ≤ 2 ^ 16) (hcount : i + values.length ≤ 2 ^ 16)
    (hlast : 2 ^ 16 < start.toNat + i + values.length) :
    (labelFrom true start i values).2 = false := by
  induction values generalizing i with
  | nil =>
      rw [List.length_nil] at hlast
      omega
  | cons value values ih =>
      rw [List.length_cons] at hcount hlast
      have hsmall : (UInt16.ofNat i).toNat = i := by
        rw [UInt16.toNat_ofNat', Nat.mod_eq_of_lt (by omega)]
      rw [labelFrom]
      rcases Nat.lt_or_ge (start.toNat + i) (2 ^ 16) with hlt | hge
      · rw [addU16_of_lt (by omega)]
        exact ih (by omega) (by omega) (by omega)
      · rw [addU16_of_le (by omega)]
        rfl

section process

variable {overflowChecks : Bool} {values : List UInt16} {times : ℕ → Rfc3339.Instant}

theorem process_of_overflow
    (h : (labelFrom overflowChecks config.registerStart 0 values).2 = false) :
    (locals.process overflowChecks config values times).1.panicked = true ∧
      (locals.process overflowChecks config values times).2 = .readPanicked := by
  unfold TaskLocals.process
  simp only [h, Bool.false_eq_true, if_false, and_self]

theorem process_of_untracked
    (hlabelled : (labelFrom overflowChecks config.registerStart 0 values).2 = true)
    (htracked : TaskLocals.trackBatch overflowChecks locals.tracking
      (labelFrom overflowChecks config.registerStart 0 values).1 = none) :
    (locals.process overflowChecks config values times).1.panicked = true ∧
      (locals.process overflowChecks config values times).2 = .readPanicked := by
  unfold TaskLocals.process
  simp only [hlabelled, if_true, htracked, and_self]

theorem process_of_tracked {tracking : BatchTracking}
    (hlabelled : (labelFrom overflowChecks config.registerStart 0 values).2 = true)
    (htracked : TaskLocals.trackBatch overflowChecks locals.tracking
      (labelFrom overflowChecks config.registerStart 0 values).1 = some tracking) :
    (locals.process overflowChecks config values times).1.tracking = tracking ∧
      (locals.process overflowChecks config values times).2 = .readDone := by
  unfold TaskLocals.process
  simp only [hlabelled, if_true, htracked, and_self]

end process

/-- A poll whose read gives values. -/
theorem TaskPath.read {phase next : TaskPhase} {locals' : TaskLocals} {client : ProtocolClient}
    {values : List UInt16} (hpath : TaskPath true config phase locals .polling locals')
    (answer : ReadAnswer)
    (hread : (locals'.client.beginRead config.registerStart config.registerCount).1.finishRead true
      (locals'.client.beginRead config.registerStart config.registerCount).2 answer =
        some (client, .values values))
    {taskEvent : TaskEvent}
    (hprocess : (TaskLocals.process true config ⟨client, .idle, locals'.tracking, locals'.sent,
      locals'.panicked⟩ values fun _ ↦ 0).2 = taskEvent)
    (hmoves : DeviceRuntime.Moves true config .reading taskEvent next) :
    TaskPath true config phase locals next (TaskLocals.process true config ⟨client, .idle,
      locals'.tracking, locals'.sent, locals'.panicked⟩ values fun _ ↦ 0).1 := by
  have hreading := hpath.act .tick rfl DeviceRuntime.moves_tick
  refine hreading.act (.read answer fun _ ↦ 0) ?_ hmoves
  rw [TaskLocals.step, hread, ← hprocess]
  rfl

/-- A poll whose read panics. -/
theorem TaskPath.readPanics {phase : TaskPhase} {locals' : TaskLocals} {client : ProtocolClient}
    (hpath : TaskPath true config phase locals .polling locals') (answer : ReadAnswer)
    (hread : (locals'.client.beginRead config.registerStart config.registerCount).1.finishRead true
      (locals'.client.beginRead config.registerStart config.registerCount).2 answer =
        some (client, .panicked)) :
    TaskPath true config phase locals .finished
      ⟨client, .idle, locals'.tracking, locals'.sent, true⟩ := by
  have hreading := hpath.act .tick rfl DeviceRuntime.moves_tick
  refine hreading.act (.read answer fun _ ↦ 0) ?_ DeviceRuntime.moves_readPanicked
  rw [TaskLocals.step, hread]
  rfl

/-- A task that has just connected. -/
theorem path_connect (hrate : config.pollRateMs ≠ 0) (subActive : Bool) :
    TaskPath true config .connecting (.start config) .polling
      ⟨(ProtocolClient.newFor config.protocol).connect (.ok subActive), .idle, ⟨none, 0⟩, [],
        false || config.pollRateMs == 0⟩ :=
  .act .start (.connect (.ok subActive)) rfl (DeviceRuntime.moves_connected hrate)

/-- The task can panic. -/
def CanPanic (overflowChecks : Bool) (config : DeviceConfig) : Prop :=
  ∃ phase locals, TaskPath overflowChecks config .connecting (.start config) phase locals ∧
    locals.panicked = true

/-- A zero poll rate. -/
theorem canPanic_of_zero {overflowChecks : Bool} (hrate : config.pollRateMs = 0) :
    CanPanic overflowChecks config := by
  refine ⟨.finished, _, .act .start (.connect (.ok true)) rfl
    (DeviceRuntime.moves_connected_zero hrate), ?_⟩
  change (false || config.pollRateMs == 0) = true
  rw [hrate]
  rfl

/-- A Modbus range with values beyond the last address. -/
theorem canPanic_modbus (hrate : config.pollRateMs ≠ 0) (hmodbus : config.protocol = "modbus")
    (hlast : 2 ^ 16 < config.registerStart.toNat + config.registerCount.toNat) :
    CanPanic true config := by
  have hclient : ProtocolClient.newFor config.protocol = .modbus ⟨false⟩ := if_pos hmodbus
  have hpolling := path_connect hrate true
  rw [hclient] at hpolling
  have hoverflow : (labelFrom true config.registerStart 0
      ((registersFrom config.registerStart config.registerCount).map fun _ ↦ 0)).2 = false := by
    have hstart := UInt16.toNat_lt config.registerStart
    have hcount := UInt16.toNat_lt config.registerCount
    have hlength : ((registersFrom config.registerStart config.registerCount).map
        fun _ ↦ (0 : UInt16)).length = config.registerCount.toNat := by
      rw [List.length_map, registersFrom, List.length_range']
    apply labelFrom_of_overflow
    · omega
    · omega
    · omega
  obtain ⟨hpanicked, hevent⟩ := process_of_overflow hoverflow
  exact ⟨_, _, hpolling.read (.holding (.ok (.ok fun _ ↦ 0))) rfl hevent
    DeviceRuntime.moves_readPanicked, hpanicked⟩

/-- An OPC UA range whose end overflows, read from the cache. -/
theorem canPanic_opcUa (hrate : config.pollRateMs ≠ 0) (hopcUa : config.protocol ≠ "modbus")
    (hlast : 2 ^ 16 ≤ config.registerStart.toNat + config.registerCount.toNat) :
    CanPanic true config := by
  have hclient : ProtocolClient.newFor config.protocol = .opcUa .new := if_neg hopcUa
  have hpolling := path_connect hrate true
  rw [hclient] at hpolling
  have hdelivered := hpolling.quiet (.deliver [⟨1028, some (.uint16 75)⟩]) rfl
  exact ⟨_, _, hdelivered.readPanics .cache (finishRead_cache_of_le _ hlast), rfl⟩

/-! ### One batch too many -/

/-- A connected client that reads from its server. -/
def ReadsServer (config : DeviceConfig) (client : ProtocolClient) : Prop :=
  config.protocol = "modbus" ∧ client = .modbus ⟨true⟩ ∨
    config.protocol ≠ "modbus" ∧ client = .opcUa (.connected false)

theorem readsServer_connect (config : DeviceConfig) :
    ReadsServer config ((ProtocolClient.newFor config.protocol).connect (.ok false)) := by
  unfold ReadsServer ProtocolClient.newFor
  split
  case isTrue hmodbus => exact .inl ⟨hmodbus, rfl⟩
  case isFalse hopcUa => exact .inr ⟨hopcUa, rfl⟩

/-- The server can answer any value for all registers. -/
theorem exists_answer {client : ProtocolClient} (hreads : ReadsServer config client)
    (hfits : config.rangeFits) (value : UInt16) :
    ∃ answer, (client.beginRead config.registerStart config.registerCount).1.finishRead true
      (client.beginRead config.registerStart config.registerCount).2 answer = some (client, .values
        ((registersFrom config.registerStart config.registerCount).map fun _ ↦ value)) := by
  obtain ⟨-, rfl⟩ | ⟨hopcUa, rfl⟩ := hreads
  · exact ⟨.holding (.ok (.ok fun _ ↦ value)), rfl⟩
  · refine ⟨.nodes (.ok (.ok fun _ ↦ some (.uint16 value))), ?_⟩
    exact finishRead_of_fits (.inr rfl) rfl fun _ ↦
      DeviceConfig.lt_of_rangeFits hfits (decide_eq_false hopcUa)

theorem regMap_const (value : UInt16) (hbatch : config.readsBatchRegister) :
    TaskLocals.regMap ((registersFrom config.registerStart config.registerCount).map
      fun register ↦ (UInt16.ofNat register, value)) batchRegister = some value := by
  obtain ⟨reading, hlast⟩ : ∃ reading, EventMap.lastOn Prod.fst
      ((registersFrom config.registerStart config.registerCount).map fun register ↦
        (UInt16.ofNat register, value)) batchRegister = some reading := by
    rw [← Option.isSome_iff_exists, EventMap.lastOn, List.find?_isSome]
    refine ⟨(batchRegister, value), List.mem_reverse.mpr (List.mem_map.mpr
      ⟨batchRegister.toNat, hbatch, ?_⟩), decide_eq_true rfl⟩
    rw [UInt16.ofNat_toNat]
  have hmem := List.mem_reverse.mp (List.mem_of_find?_eq_some hlast)
  obtain ⟨register, -, rfl⟩ := List.mem_map.mp hmem
  unfold TaskLocals.regMap EventMap.after
  rw [hlast, Option.bind_some]

/-- A poll that finds the same value in all registers. -/
theorem TaskPath.poll {phase : TaskPhase} {locals' : TaskLocals}
    (hpath : TaskPath true config phase locals .polling locals')
    (hreads : ReadsServer config locals'.client) (hfits : config.rangeFits)
    (hbatch : config.readsBatchRegister) (value : UInt16) :
    match locals'.tracking.poll true value with
    | some tracking => ∃ locals'', TaskPath true config phase locals .polling locals'' ∧
        locals''.client = locals'.client ∧ locals''.tracking = tracking
    | none => ∃ locals'', TaskPath true config phase locals .finished locals'' ∧
        locals''.panicked = true := by
  obtain ⟨answer, hread⟩ := exists_answer hreads hfits value
  have hlabelled : labelFrom true config.registerStart 0
      ((registersFrom config.registerStart config.registerCount).map fun _ ↦ value) = _ :=
    labelFrom_registersFrom (fun _ ↦ value) (DeviceConfig.le_of_rangeFits hfits)
  have htrack : TaskLocals.trackBatch true locals'.tracking
      (labelFrom true config.registerStart 0
        ((registersFrom config.registerStart config.registerCount).map fun _ ↦ value)).1 =
      locals'.tracking.poll true value := by
    rw [hlabelled, TaskLocals.trackBatch, regMap_const value hbatch]
  have hall : (labelFrom true config.registerStart 0
      ((registersFrom config.registerStart config.registerCount).map fun _ ↦ value)).2 = true := by
    rw [hlabelled]
  let answered : TaskLocals :=
    ⟨locals'.client, .idle, locals'.tracking, locals'.sent, locals'.panicked⟩
  cases hpoll : locals'.tracking.poll true value with
  | some tracking =>
      rw [hpoll] at htrack
      obtain ⟨htracking, hevent⟩ := @process_of_tracked _ answered _ _ (fun _ ↦ 0) _ hall htrack
      exact ⟨_, hpath.read answer hread hevent DeviceRuntime.moves_readDone,
        TaskLocals.client_process .., htracking⟩
  | none =>
      rw [hpoll] at htrack
      obtain ⟨hpanicked, hevent⟩ := @process_of_untracked _ answered _ _ (fun _ ↦ 0) hall htrack
      exact ⟨_, hpath.read answer hread hevent DeviceRuntime.moves_readPanicked, hpanicked⟩

/-- The counter of a task that has seen so many starts. -/
theorem path_batches (hrate : config.pollRateMs ≠ 0) (hfits : config.rangeFits)
    (hbatch : config.readsBatchRegister) {n : ℕ} (hn : n < 2 ^ 32) :
    ∃ locals, TaskPath true config .connecting (.start config) .polling locals ∧
      ReadsServer config locals.client ∧
      ∃ prev, locals.tracking = ⟨prev, UInt32.ofNat n⟩ := by
  induction n with
  | zero =>
      exact ⟨_, path_connect hrate false, readsServer_connect config, none, rfl⟩
  | succ n ih =>
      obtain ⟨locals, hpath, hreads, prev, htracking⟩ := ih (Nat.lt_of_succ_lt hn)
      -- the phase goes to idle, and from there to heating
      have hidle := hpath.poll hreads hfits hbatch batchIdle
      rw [htracking, BatchTracking.poll_idle] at hidle
      obtain ⟨locals', hpath', hclient', htracking'⟩ := hidle
      have hheating := hpath'.poll (hclient' ▸ hreads) hfits hbatch batchHeating
      rw [htracking', BatchTracking.poll_heating n fun _ ↦ Nat.lt_of_succ_lt hn,
        if_neg fun htop ↦ absurd hn (Nat.not_lt.mpr htop.2)] at hheating
      obtain ⟨locals'', hpath'', hclient'', htracking''⟩ := hheating
      exact ⟨locals'', hpath'', by rw [hclient'', hclient']; exact hreads, _, htracking''⟩

/-- One start more than the counter can hold. -/
theorem canPanic_batch (hrate : config.pollRateMs ≠ 0) (hfits : config.rangeFits)
    (hbatch : config.readsBatchRegister) : CanPanic true config := by
  have hlast : 2 ^ 32 - 1 < 2 ^ 32 := by decide
  obtain ⟨locals, hpath, hreads, prev, htracking⟩ := path_batches hrate hfits hbatch hlast
  have hidle := hpath.poll hreads hfits hbatch batchIdle
  rw [htracking, BatchTracking.poll_idle] at hidle
  obtain ⟨locals', hpath', hclient', htracking'⟩ := hidle
  have hheating := hpath'.poll (hclient' ▸ hreads) hfits hbatch batchHeating
  rw [htracking', BatchTracking.poll_heating _ fun _ ↦ hlast, if_pos ⟨rfl, by decide⟩] at hheating
  obtain ⟨locals'', hpath'', hpanicked⟩ := hheating
  exact ⟨.finished, locals'', hpath'', hpanicked⟩

/-- **Unsafe devices.** -/
theorem canPanic_of_not_runsSafely {overflowChecks : Bool}
    (h : ¬config.runsSafely overflowChecks) : CanPanic overflowChecks config := by
  by_cases hrate : config.pollRateMs = 0
  · exact canPanic_of_zero hrate
  · unfold DeviceConfig.runsSafely at h
    rw [not_and] at h
    obtain ⟨hchecks, hunsafe⟩ := Classical.not_imp.mp (h hrate)
    subst hchecks
    by_cases hfits : config.rangeFits
    · exact canPanic_batch hrate hfits (not_not.mp fun hbatch ↦ hunsafe ⟨hfits, hbatch⟩)
    · unfold DeviceConfig.rangeFits at hfits
      split at hfits
      case isTrue hmodbus => exact canPanic_modbus hrate hmodbus (Nat.not_le.mp hfits)
      case isFalse hopcUa => exact canPanic_opcUa hrate hopcUa (Nat.not_lt.mp hfits)

end overflow

namespace PollingSystem

variable {socketAddr : String → Bool} {overflowChecks : Bool} {s : PollingSystem} {i : ℕ}
  {config : DeviceConfig}

/-- **Panics of a task.** A fresh task never panics exactly when its device runs safely. -/
theorem neverPanics_iff (h : s.AllTasks (TaskLocals.Guarded overflowChecks))
    (hfresh : s.At i .connecting config (.start config)) :
    s.NeverPanics socketAddr overflowChecks i ↔ config.runsSafely overflowChecks := by
  constructor
  · intro hnever
    by_contra hunsafe
    obtain ⟨phase, locals, hpath, hpanicked⟩ := canPanic_of_not_runsSafely hunsafe
    obtain ⟨labels, t, hrun, hat⟩ := @exists_run_of_path socketAddr _ _ _ _ _ _ _ _ hfresh hpath
    have hfalse := hnever labels t hrun
    unfold panicked at hfalse
    rw [hat.locals, Option.any_some, hpanicked] at hfalse
    cases hfalse
  · exact neverPanics_of_runsSafely h ⟨.connecting, hfresh.stage⟩

end PollingSystem

end VyuhHmi
