import Mathlib.Data.List.Nodup
import VyuhHmi.Device.Persistence

/-!
# What a restart brings back

A device request changes the registry first and the table later.  While the two differ on a device,
some request that has changed the registry must still have its statement to run, and it must be the
last to run one.  `add_device` saves without the registry lock and without looking at the registry
again, so nothing in the code ensures that; under the condition that it is so, a restart brings back
the runtime-added devices.
-/

namespace VyuhHmi

namespace StoreView

/-- What request `j` still has to write to the table is what the registry says of the device. -/
def settles (v : StoreView) (id : String) (j : ℕ) : Bool :=
  match v.pending j with
  | some (.saving config) => config.id == id && v.registered id == some config
  | some (.deleting deviceId) => deviceId == id
  | _ => false

/-- Another request than `i` still has to write what the registry says of the device. -/
def settledByOther (v : StoreView) (id : String) (i : ℕ) : Bool :=
  (List.range v.requestCount).any fun j ↦ j != i && v.settles id j

/-- A configuration is saved while the registry holds it, and no request is dropped between its
change of the registry and its database statement, unless another request still has to write what
the registry says of the device. -/
def inTurn (v : StoreView) : DeviceRuntime.Label → Bool
  | .advance i _ =>
      match v.pending i with
      | some (.saving config) =>
          v.registered config.id == some config || v.settledByOther config.id i
      | _ => true
  | .cancel i =>
      match v.pending i with
      | some (.saving config) => v.settledByOther config.id i
      | some (.deleting deviceId) => v.settledByOther deviceId i
      | _ => true
  | _ => true

variable {socketAddr : String → Bool} {v v' : StoreView} {id : String} {i : ℕ}

theorem settles_iff {j : ℕ} : v.settles id j ↔
    (∃ config, v.pending j = some (.saving config) ∧ config.id = id ∧
      v.registered id = some config) ∨ v.pending j = some (.deleting id) := by
  unfold settles
  split
  case h_1 config hpending =>
      simp only [Bool.and_eq_true, beq_iff_eq, hpending, Option.some.injEq, PendingChange.saving.injEq,
        exists_eq_left', reduceCtorEq, or_false]
  case h_2 deviceId hpending => simp [hpending]
  case h_3 hsaving hdeleting =>
      simp only [Bool.false_eq_true, false_iff, not_or, not_exists, not_and]
      exact ⟨fun config hpending _ _ ↦ hsaving config hpending, hdeleting id⟩

theorem exists_settles_of_other (h : v.settledByOther id i) : ∃ j, j ≠ i ∧ v.settles id j := by
  obtain ⟨j, -, hj⟩ := List.any_eq_true.mp h
  rw [Bool.and_eq_true, bne_iff_ne] at hj
  exact ⟨j, hj⟩

/-! ## The table and the requests -/

/-- The table has one row for a device, and every device in it or on its way into it has a protocol
that start-up can create a client for. -/
structure Sound (socketAddr : String → Bool) (v : StoreView) : Prop where
  nodup : (v.table.map DeviceConfig.id).Nodup
  creatable : ∀ config ∈ v.table, newClient socketAddr config = .created
  pendingCreatable : ∀ i config,
    v.pending i = some (.registering config) ∨ v.pending i = some (.saving config) →
      newClient socketAddr config = .created
  counted : ∀ i change, v.pending i = some change → i < v.requestCount
  started : 0 < v.requestCount → v.Started

theorem Sound.started_of_pending (h : v.Sound socketAddr) {change : PendingChange}
    (hpending : v.pending i = some change) : v.Started :=
  h.started (Nat.zero_lt_of_lt (h.counted i change hpending))

theorem nodup_ids_filter {table : List DeviceConfig} (h : (table.map DeviceConfig.id).Nodup)
    (p : DeviceConfig → Bool) : ((table.filter p).map DeviceConfig.id).Nodup :=
  h.sublist (List.filter_sublist.map _)

theorem nodup_ids_replace {table : List DeviceConfig} (h : (table.map DeviceConfig.id).Nodup)
    (config : DeviceConfig) :
    ((table.filter (fun row ↦ row.id != config.id) ++ [config]).map DeviceConfig.id).Nodup := by
  have hfresh : config.id ∉ (table.filter fun row ↦ row.id != config.id).map DeviceConfig.id := by
    simp
  rw [List.map_append, List.map_singleton, List.nodup_append]
  refine ⟨nodup_ids_filter h _, List.nodup_singleton _, fun id hid id' hid' ↦ ?_⟩
  obtain rfl := List.mem_singleton.mp hid'
  exact ne_of_mem_of_not_mem hid hfresh

/-- The changes pending after request `i` has got another one. -/
theorem pending_update {change : Option PendingChange} {j : ℕ} {new : PendingChange}
    (h : Function.update v.pending i change j = some new) :
    j = i ∧ change = some new ∨ j ≠ i ∧ v.pending j = some new := by
  rw [Function.update_apply] at h
  split at h
  case isTrue hj => exact .inl ⟨hj, h⟩
  case isFalse hj => exact .inr ⟨hj, h⟩

/-- A request that goes on keeps the table and the requests sound if what it writes is. -/
theorem Sound.update (h : v.Sound socketAddr) {registered : String → Option DeviceConfig}
    {table : List DeviceConfig} {change : Option PendingChange}
    (hnodup : (table.map DeviceConfig.id).Nodup)
    (hcreatable : ∀ config ∈ table, newClient socketAddr config = .created)
    (hcounted : change.isSome → i < v.requestCount)
    (hchange : ∀ config, change = some (.registering config) ∨ change = some (.saving config) →
      newClient socketAddr config = .created) :
    Sound socketAddr { v with
      registered := registered
      table := table
      pending := Function.update v.pending i change } where
  nodup := hnodup
  creatable := hcreatable
  pendingCreatable := by
    intro j config hj
    dsimp only at hj
    by_cases hij : j = i
    · rw [hij, Function.update_self] at hj
      exact hchange config hj
    · rw [Function.update_of_ne hij] at hj
      exact h.pendingCreatable j config hj
  counted := by
    intro j new hj
    rcases pending_update hj with ⟨rfl, rfl⟩ | ⟨-, hold⟩
    · exact hcounted rfl
    · exact h.counted j new hold
  started := h.started

/-- **Step lemma.** -/
theorem sound_step {label : DeviceRuntime.Label} (h : v.Sound socketAddr)
    (hstep : Step socketAddr v label v') : v'.Sound socketAddr := by
  cases hstep with
  | registerConfigured config rest hnext hcreated =>
      exact { h with started := fun hcount ↦ absurd (h.started hcount).1 (by simp [hnext]) }
  | skipConfigured config rest hnext hunsupported =>
      exact { h with started := fun hcount ↦ absurd (h.started hcount).1 (by simp [hnext]) }
  | restore config rest hconfigured hnext hnone hcreated =>
      exact { h with started := fun hcount ↦ absurd (h.started hcount).2 (by simp [hnext]) }
  | skipPersisted config rest hconfigured hnext hskip =>
      exact { h with started := fun hcount ↦ absurd (h.started hcount).2 (by simp [hnext]) }
  | arrive call hstarted =>
      exact { h with
        counted := fun j change hj ↦ Nat.lt_succ_of_lt (h.counted j change hj)
        started := fun _ ↦ hstarted }
  | quiet label pending hkept hnew =>
      refine { h with pendingCreatable := fun j config hj ↦ ?_, counted := fun j change hj ↦ ?_ }
      · rcases hj with hj | hj
        · rcases hnew j _ hj with hold | ⟨-, config', heq, hcreated⟩
          · exact h.pendingCreatable j config (.inl hold)
          · obtain rfl := PendingChange.registering.inj heq
            exact hcreated
        · rcases hnew j _ hj with hold | ⟨-, config', heq, -⟩
          · exact h.pendingCreatable j config (.inr hold)
          · cases heq
      · rcases hnew j change hj with hold | ⟨hlt, -⟩
        · exact h.counted j change hold
        · exact hlt
  | register j now config hunlocked hpending =>
      refine h.update h.nodup h.creatable (fun _ ↦ h.counted j _ hpending) fun config' hconfig ↦ ?_
      have hcreated := h.pendingCreatable j config (.inl hpending)
      rcases hconfig with hconfig | hconfig
      · cases hconfig
      · obtain rfl := PendingChange.saving.inj (Option.some.inj hconfig)
        exact hcreated
  | unregister j now deviceId hunlocked hrequest hpending =>
      exact h.update h.nodup h.creatable (fun _ ↦ hrequest) nofun
  | save j now config hpending =>
      refine h.update (nodup_ids_replace h.nodup config) (fun row hrow ↦ ?_) nofun nofun
      rcases List.mem_append.mp hrow with hold | hnew
      · exact h.creatable row (List.mem_of_mem_filter hold)
      · obtain rfl := List.mem_singleton.mp hnew
        exact h.pendingCreatable j row (.inr hpending)
  | delete j now deviceId hpending =>
      exact h.update (nodup_ids_filter h.nodup _)
        (fun row hrow ↦ h.creatable row (List.mem_of_mem_filter hrow)) nofun nofun
  | drop j => exact h.update h.nodup h.creatable nofun nofun

/-! ## Registry and table -/

/-- The devices that are not in the configuration file are registered as the restored part of the
table says, or a request still has to write what the registry says. -/
structure InLine (socketAddr : String → Bool) (listed : List DeviceConfig) (v : StoreView) :
    Prop where
  configured : ∀ config ∈ v.configured, config ∈ listed
  startable : ∀ config ∈ listed, config ∈ v.configured ∨ newClient socketAddr config ≠ .panicked
  deleting : ∀ i id, v.pending i = some (.deleting id) → v.registered id = none
  rows : ∃ restored, v.table = restored ++ v.persisted ∧
    ∀ id ∉ listed.map DeviceConfig.id,
      v.registered id = rowOf restored id ∨ ∃ i, v.settles id i

/-- What a request is to write to the table keeps being so while the registry entry of the device
stays and the request does not go on. -/
theorem settles_of_same {j : ℕ} (h : v.settles id j)
    (hregistered : v'.registered id = v.registered id)
    (hpending : v'.pending j = v.pending j) : v'.settles id j := by
  simpa only [settles, hregistered, hpending] using h

/-- Request `i` goes on and changes registry or table on one device: the other devices stay as they
are. -/
theorem rows_update {listed : List String} {table table' : List DeviceConfig} (deviceId : String)
    (hrows : ∀ id ∉ listed, v.registered id = rowOf table id ∨ ∃ j, v.settles id j)
    (hpending : ∀ j ≠ i, v'.pending j = v.pending j)
    (hregistered : ∀ id ≠ deviceId, v'.registered id = v.registered id)
    (htable : ∀ id ≠ deviceId, rowOf table' id = rowOf table id)
    (hown : ∀ id ≠ deviceId, ¬v.settles id i)
    (hdevice : v'.registered deviceId = rowOf table' deviceId ∨ ∃ j, v'.settles deviceId j) :
    ∀ id ∉ listed, v'.registered id = rowOf table' id ∨ ∃ j, v'.settles id j := by
  intro id hlisted
  by_cases hid : id = deviceId
  · rw [hid]
    exact hdevice
  · rcases hrows id hlisted with hrow | ⟨j, hj⟩
    · exact .inl ((hregistered id hid).trans (hrow.trans (htable id hid).symm))
    · have hne : j ≠ i := by
        rintro rfl
        exact hown id hid hj
      exact .inr ⟨j, settles_of_same hj (hregistered id hid) (hpending j hne)⟩

theorem Sound.table_of_pending (h : v.Sound socketAddr) {restored : List DeviceConfig}
    (htable : v.table = restored ++ v.persisted) {change : PendingChange}
    (hpending : v.pending i = some change) : restored = v.table := by
  rw [htable, (h.started_of_pending hpending).2, List.append_nil]

/-- No request is there before start-up is over. -/
theorem Sound.not_settles (h : v.Sound socketAddr) (hstarted : ¬v.Started) : ¬v.settles id i := by
  intro hsettles
  rcases settles_iff.mp hsettles with ⟨config, hpending, -⟩ | hpending
  · exact hstarted (h.started_of_pending hpending)
  · exact hstarted (h.started_of_pending hpending)

/-- Start-up has not yet come to the row of the device. -/
theorem Sound.rowOf_restored (h : v.Sound socketAddr) {restored rest : List DeviceConfig}
    {config : DeviceConfig} (htable : v.table = restored ++ config :: rest) :
    rowOf restored config.id = none := by
  have hnodup := h.nodup
  rw [htable, List.map_append, List.map_cons, List.nodup_append] at hnodup
  rw [rowOf_eq_none_iff]
  intro hmem
  exact hnodup.2.2 _ hmem _ List.mem_cons_self rfl

/-- Start-up comes to the row of a device: the other devices stay as they are. -/
theorem rows_next {listed : List String} {restored : List DeviceConfig} {config : DeviceConfig}
    (hrows : ∀ id ∉ listed, v.registered id = rowOf restored id ∨ ∃ j, v.settles id j)
    (hregistered : ∀ id ≠ config.id, v'.registered id = v.registered id)
    (hpending : v'.pending = v.pending) (hnone : rowOf restored config.id = none)
    (hdevice : config.id ∉ listed → v'.registered config.id = some config) :
    ∀ id ∉ listed, v'.registered id = rowOf (restored ++ [config]) id ∨ ∃ j, v'.settles id j := by
  intro id hlisted
  rw [rowOf_append_singleton]
  by_cases hid : id = config.id
  · subst hid
    rw [hnone, if_pos rfl]
    exact .inl (hdevice hlisted)
  · rw [if_neg hid, Option.or_none, hregistered id hid]
    rcases hrows id hlisted with hrow | ⟨j, hj⟩
    · exact .inl hrow
    · exact .inr ⟨j, settles_of_same hj (hregistered id hid) (congrFun hpending j)⟩

/-- What a request that only wants a registry entry or has none to write settles: nothing. -/
theorem not_settles_of_quiet (hsaving : ∀ config, v.pending i ≠ some (.saving config))
    (hdeleting : ∀ deviceId, v.pending i ≠ some (.deleting deviceId)) : ¬v.settles id i := by
  intro hsettles
  rcases settles_iff.mp hsettles with ⟨config, hpending, -⟩ | hpending
  · exact hsaving config hpending
  · exact hdeleting id hpending

theorem id_eq_of_settles_saving {config : DeviceConfig}
    (hpending : v.pending i = some (.saving config)) (hsettles : v.settles id i) : id = config.id := by
  rw [settles_iff, hpending] at hsettles
  rcases hsettles with ⟨config', heq, hid, -⟩ | heq
  · obtain rfl := PendingChange.saving.inj (Option.some.inj heq)
    exact hid.symm
  · cases heq

theorem id_eq_of_settles_deleting {deviceId : String}
    (hpending : v.pending i = some (.deleting deviceId)) (hsettles : v.settles id i) :
    id = deviceId := by
  rw [settles_iff, hpending] at hsettles
  rcases hsettles with ⟨config, heq, -⟩ | heq
  · cases heq
  · exact (PendingChange.deleting.inj (Option.some.inj heq)).symm

/-- A request that goes on to something else than a deletion adds no deletion. -/
theorem deleting_of_update {change : Option PendingChange} {j : ℕ}
    (hchange : ∀ deviceId, change ≠ some (.deleting deviceId))
    (h : Function.update v.pending i change j = some (.deleting id)) :
    v.pending j = some (.deleting id) := by
  rcases pending_update h with ⟨-, heq⟩ | ⟨-, hold⟩
  · exact absurd heq (hchange id)
  · exact hold

/-! ### Start-up -/

/-- Start-up has dealt with the next device of the configuration file. -/
theorem InLine.startable_next {listed rest : List DeviceConfig} {config : DeviceConfig}
    (h : v.InLine socketAddr listed) (hnext : v.configured = config :: rest)
    (hdone : newClient socketAddr config ≠ .panicked) :
    ∀ config' ∈ listed, config' ∈ rest ∨ newClient socketAddr config' ≠ .panicked := by
  intro config' hmem
  rcases h.startable config' hmem with hleft | hstartable
  · rw [hnext] at hleft
    rcases List.mem_cons.mp hleft with rfl | hrest
    · exact .inr hdone
    · exact .inl hrest
  · exact .inr hstartable

theorem InLine.configured_next {listed rest : List DeviceConfig} {config : DeviceConfig}
    (h : v.InLine socketAddr listed) (hnext : v.configured = config :: rest) :
    config ∈ listed ∧ ∀ config' ∈ rest, config' ∈ listed := by
  have hconfigured := h.configured
  rw [hnext] at hconfigured
  exact ⟨hconfigured config List.mem_cons_self,
    fun config' hmem ↦ hconfigured config' (List.mem_cons_of_mem _ hmem)⟩

theorem InLine.registerConfigured {listed rest : List DeviceConfig} {config : DeviceConfig}
    (hsound : v.Sound socketAddr) (h : v.InLine socketAddr listed)
    (hnext : v.configured = config :: rest) (hcreated : newClient socketAddr config = .created) :
    InLine socketAddr listed { v with
      registered := Function.update v.registered config.id (some config)
      configured := rest } := by
  obtain ⟨restored, htable, hrows⟩ := h.rows
  obtain ⟨hlisted, hrest⟩ := h.configured_next hnext
  refine { h with
    configured := hrest
    startable := h.startable_next hnext (by simp [hcreated])
    deleting := fun j id hj ↦ absurd (hsound.started_of_pending hj).1 (by simp [hnext])
    rows := ⟨restored, htable, fun id hid ↦ ?_⟩ }
  have hne : id ≠ config.id := by
    rintro rfl
    exact hid (List.mem_map_of_mem hlisted)
  have hsame : Function.update v.registered config.id (some config) id = v.registered id :=
    Function.update_of_ne hne _ _
  rcases hrows id hid with hrow | ⟨j, hj⟩
  · exact .inl (hsame.trans hrow)
  · exact .inr ⟨j, settles_of_same hj hsame rfl⟩

theorem InLine.restore {listed rest : List DeviceConfig} {config : DeviceConfig}
    (hsound : v.Sound socketAddr) (h : v.InLine socketAddr listed)
    (hnext : v.persisted = config :: rest) :
    InLine socketAddr listed { v with
      registered := Function.update v.registered config.id (some config)
      persisted := rest } := by
  obtain ⟨restored, htable, hrows⟩ := h.rows
  rw [hnext] at htable
  refine { h with
    deleting := fun j id hj ↦ absurd (hsound.started_of_pending hj).2 (by simp [hnext])
    rows := ⟨restored ++ [config], by simpa using htable, ?_⟩ }
  exact rows_next hrows (fun id hne ↦ Function.update_of_ne hne _ _) rfl
    (hsound.rowOf_restored htable) fun _ ↦ Function.update_self _ _ _

/-- A row is only skipped for a device of the configuration file. -/
theorem InLine.skipPersisted {listed rest : List DeviceConfig} {config : DeviceConfig}
    (hsound : v.Sound socketAddr) (h : v.InLine socketAddr listed)
    (hnext : v.persisted = config :: rest)
    (hskip : (v.registered config.id).isSome ∨ newClient socketAddr config ≠ .created) :
    InLine socketAddr listed { v with persisted := rest } := by
  obtain ⟨restored, htable, hrows⟩ := h.rows
  have hstarted : ¬v.Started := by
    intro hstarted
    rw [hstarted.2] at hnext
    cases hnext
  rw [hnext] at htable
  have hnone := hsound.rowOf_restored htable
  refine { h with rows := ⟨restored ++ [config], by simpa using htable, ?_⟩ }
  refine rows_next hrows (fun _ _ ↦ rfl) rfl hnone fun hlisted ↦ ?_
  exfalso
  rcases hskip with hsome | hcreated
  · rcases hrows config.id hlisted with hrow | ⟨j, hj⟩
    · rw [hrow, hnone] at hsome
      cases hsome
    · exact hsound.not_settles hstarted hj
  · exact hcreated (hsound.creatable config (by rw [htable]; simp))

/-! ### Requests -/

theorem InLine.quiet {listed : List DeviceConfig} {pending : ℕ → Option PendingChange}
    (h : v.InLine socketAddr listed)
    (hkept : ∀ i change, v.pending i = some change →
      pending i = some change ∨ ∃ config, change = .registering config)
    (hnew : ∀ i change, pending i = some change → v.pending i = some change ∨
      i < v.requestCount ∧
        ∃ config, change = .registering config ∧ newClient socketAddr config = .created) :
    InLine socketAddr listed { v with pending := pending } := by
  obtain ⟨restored, htable, hrows⟩ := h.rows
  refine { h with deleting := fun j deviceId hj ↦ ?_, rows := ⟨restored, htable, fun id hid ↦ ?_⟩ }
  · rcases hnew j _ hj with hold | ⟨-, config, heq, -⟩
    · exact h.deleting j deviceId hold
    · cases heq
  · rcases hrows id hid with hrow | ⟨j, hj⟩
    · exact .inl hrow
    · refine .inr ⟨j, ?_⟩
      rcases settles_iff.mp hj with ⟨config, hpending, hsame, hregistered⟩ | hpending
      · rcases hkept j _ hpending with hkeep | ⟨config', heq⟩
        · exact settles_iff.mpr (.inl ⟨config, hkeep, hsame, hregistered⟩)
        · cases heq
      · rcases hkept j _ hpending with hkeep | ⟨config', heq⟩
        · exact settles_iff.mpr (.inr hkeep)
        · cases heq

/-- `add_device` registers: now the request has to save. -/
theorem InLine.register {listed : List DeviceConfig} {config : DeviceConfig}
    (h : v.InLine socketAddr listed) (hunlocked : v.Unlocked)
    (hpending : v.pending i = some (.registering config)) :
    InLine socketAddr listed { v with
      registered := Function.update v.registered config.id (some config)
      pending := Function.update v.pending i (some (.saving config)) } := by
  obtain ⟨restored, htable, hrows⟩ := h.rows
  have hquiet (id : String) : ¬v.settles id i :=
    not_settles_of_quiet (by simp [hpending]) (by simp [hpending])
  refine { h with
    deleting := fun j deviceId hj ↦ absurd (deleting_of_update (by simp) hj) (hunlocked j deviceId)
    rows := ⟨restored, htable, ?_⟩ }
  refine rows_update config.id hrows (fun _ hne ↦ Function.update_of_ne hne _ _)
    (fun _ hne ↦ Function.update_of_ne hne _ _) (fun _ _ ↦ rfl) (fun id _ ↦ hquiet id)
    (.inr ⟨i, settles_iff.mpr (.inl ⟨config, ?_, rfl, ?_⟩)⟩)
  · exact Function.update_self _ _ _
  · exact Function.update_self _ _ _

/-- `remove_device` takes the handle out: now the request has to delete. -/
theorem InLine.unregister {listed : List DeviceConfig} {deviceId : String}
    (h : v.InLine socketAddr listed) (hunlocked : v.Unlocked) (hpending : v.pending i = none) :
    InLine socketAddr listed { v with
      registered := Function.update v.registered deviceId none
      pending := Function.update v.pending i (some (.deleting deviceId)) } := by
  obtain ⟨restored, htable, hrows⟩ := h.rows
  have hquiet (id : String) : ¬v.settles id i :=
    not_settles_of_quiet (by simp [hpending]) (by simp [hpending])
  refine { h with
    deleting := fun j deviceId' hj ↦ ?_
    rows := ⟨restored, htable, rows_update deviceId hrows
      (fun _ hne ↦ Function.update_of_ne hne _ _) (fun _ hne ↦ Function.update_of_ne hne _ _)
      (fun _ _ ↦ rfl) (fun id _ ↦ hquiet id)
      (.inr ⟨i, settles_iff.mpr (.inr (Function.update_self _ _ _))⟩)⟩ }
  rcases pending_update hj with ⟨-, heq⟩ | ⟨-, hold⟩
  · obtain rfl := PendingChange.deleting.inj (Option.some.inj heq)
    exact Function.update_self _ _ _
  · exact absurd hold (hunlocked j deviceId')

/-- `INSERT OR REPLACE` runs in its turn: the registry holds what is saved, or another request has
yet to write. -/
theorem InLine.save {listed : List DeviceConfig} {config : DeviceConfig} {now : Instant}
    (hsound : v.Sound socketAddr) (h : v.InLine socketAddr listed)
    (hturn : v.inTurn (.advance i now)) (hpending : v.pending i = some (.saving config)) :
    InLine socketAddr listed { v with
      table := v.table.filter (fun row ↦ row.id != config.id) ++ [config]
      pending := Function.update v.pending i none } := by
  obtain ⟨restored, htable, hrows⟩ := h.rows
  obtain rfl := hsound.table_of_pending htable hpending
  have hempty := (hsound.started_of_pending hpending).2
  refine { h with
    deleting := fun j deviceId hj ↦ h.deleting j deviceId (deleting_of_update (by simp) hj)
    rows := ⟨v.table.filter (fun row ↦ row.id != config.id) ++ [config], by simp [hempty],
      rows_update config.id hrows (fun _ hne ↦ Function.update_of_ne hne _ _) (fun _ _ ↦ rfl)
      (fun id hne ↦ by rw [rowOf_replace, if_neg hne])
      (fun id hne hj ↦ hne (id_eq_of_settles_saving hpending hj)) ?_⟩ }
  simp only [inTurn, hpending, Bool.or_eq_true, beq_iff_eq] at hturn
  rcases hturn with hregistered | hother
  · left
    rw [rowOf_replace, if_pos rfl]
    exact hregistered
  · obtain ⟨j, hne, hj⟩ := exists_settles_of_other hother
    exact .inr ⟨j, settles_of_same hj rfl (Function.update_of_ne hne _ _)⟩

/-- The registry lock is held until the `DELETE` has run, so the device is still not registered. -/
theorem InLine.delete {listed : List DeviceConfig} {deviceId : String}
    (hsound : v.Sound socketAddr) (h : v.InLine socketAddr listed)
    (hpending : v.pending i = some (.deleting deviceId)) :
    InLine socketAddr listed { v with
      table := v.table.filter fun row ↦ row.id != deviceId
      pending := Function.update v.pending i none } := by
  obtain ⟨restored, htable, hrows⟩ := h.rows
  obtain rfl := hsound.table_of_pending htable hpending
  have hempty := (hsound.started_of_pending hpending).2
  refine { h with
    deleting := fun j deviceId' hj ↦ h.deleting j deviceId' (deleting_of_update (by simp) hj)
    rows := ⟨v.table.filter (fun row ↦ row.id != deviceId), by simp [hempty],
      rows_update deviceId hrows (fun _ hne ↦ Function.update_of_ne hne _ _) (fun _ _ ↦ rfl)
      (fun id hne ↦ by rw [rowOf_delete, if_neg hne])
      (fun id hne hj ↦ hne (id_eq_of_settles_deleting hpending hj)) (.inl ?_)⟩ }
  rw [rowOf_delete, if_pos rfl]
  exact h.deleting i deviceId hpending

/-- The dropped request is not the only one that has to write. -/
theorem InLine.drop {listed : List DeviceConfig} (h : v.InLine socketAddr listed)
    (hturn : v.inTurn (.cancel i)) :
    InLine socketAddr listed { v with pending := Function.update v.pending i none } := by
  obtain ⟨restored, htable, hrows⟩ := h.rows
  have hkeep {id : String} {j : ℕ} (hne : j ≠ i) (hj : v.settles id j) :
      settles { v with pending := Function.update v.pending i none } id j :=
    settles_of_same hj rfl (Function.update_of_ne hne _ _)
  refine { h with
    deleting := fun j deviceId hj ↦ h.deleting j deviceId (deleting_of_update (by simp) hj)
    rows := ⟨restored, htable, fun id hid ↦ ?_⟩ }
  rcases hrows id hid with hrow | ⟨j, hj⟩
  · exact .inl hrow
  · by_cases hne : j = i
    · have hother : v.settledByOther id i := by
        subst hne
        rcases settles_iff.mp hj with ⟨config, hpending, rfl, -⟩ | hpending
        · simpa only [inTurn, hpending] using hturn
        · simpa only [inTurn, hpending] using hturn
      obtain ⟨other, hne', hsettles⟩ := exists_settles_of_other hother
      exact .inr ⟨other, hkeep hne' hsettles⟩
    · exact .inr ⟨j, hkeep hne hj⟩

/-- **Step lemma.** -/
theorem inLine_step {listed : List DeviceConfig} {label : DeviceRuntime.Label}
    (hsound : v.Sound socketAddr) (h : v.InLine socketAddr listed) (hturn : v.inTurn label)
    (hstep : Step socketAddr v label v') : v'.InLine socketAddr listed := by
  cases hstep with
  | registerConfigured config rest hnext hcreated => exact h.registerConfigured hsound hnext hcreated
  | skipConfigured config rest hnext hunsupported =>
      exact { h with
        configured := (h.configured_next hnext).2
        startable := h.startable_next hnext (by simp [hunsupported]) }
  | restore config rest hconfigured hnext hnone hcreated => exact h.restore hsound hnext
  | skipPersisted config rest hconfigured hnext hskip => exact h.skipPersisted hsound hnext hskip
  | arrive call hstarted => exact { h with }
  | quiet label pending hkept hnew => exact h.quiet hkept hnew
  | register j now config hunlocked hpending => exact h.register hunlocked hpending
  | unregister j now deviceId hunlocked hrequest hpending => exact h.unregister hunlocked hpending
  | save j now config hpending => exact h.save hsound hturn hpending
  | delete j now deviceId hpending => exact h.delete hsound hpending
  | drop j => exact h.drop hturn

/-- With nothing left to do, registry and table agree. -/
theorem InLine.registered_eq {listed : List DeviceConfig} (h : v.InLine socketAddr listed)
    (hstarted : v.Started) (hquiet : ∀ i, v.pending i = none)
    (hid : id ∉ listed.map DeviceConfig.id) :
    v.registered id = rowOf v.table id := by
  obtain ⟨restored, htable, hrows⟩ := h.rows
  rw [htable, hstarted.2, List.append_nil]
  rcases hrows id hid with hrow | ⟨i, hi⟩
  · exact hrow
  · exact absurd hi (not_settles_of_quiet (by simp [hquiet i]) (by simp [hquiet i]))

end StoreView

namespace DeviceRuntime

variable {socketAddr : String → Bool} {overflowChecks : Bool} {s t : DeviceRuntime}

/-- The tables that the server may find at its start: none of its lives before has to have ended
well. -/
inductive StoredTable (socketAddr : String → Bool) (overflowChecks : Bool) :
    List DeviceConfig → Prop
  | fresh : StoredTable socketAddr overflowChecks []
  | stopped {listed table : List DeviceConfig} {labels : List Label} {s : DeviceRuntime}
      (htable : StoredTable socketAddr overflowChecks table)
      (hrun : Transition.Run (Transition.ofOption (step socketAddr overflowChecks))
        (init listed table) labels s) :
      StoredTable socketAddr overflowChecks s.deviceTable

/-- The server is started anew over the rows of the table, and start-up comes to its end. -/
def Restarts (socketAddr : String → Bool) (overflowChecks : Bool) (listed : List DeviceConfig)
    (rows : List DeviceRow) (u : DeviceRuntime) : Prop :=
  (∃ n, Transition.exec (step socketAddr overflowChecks) (init listed (loadDevices rows))
    (List.replicate n .registerAtStart) = some u) ∧ u.view.Started

theorem sound_init {table : List DeviceConfig} (listed : List DeviceConfig)
    (hnodup : (table.map DeviceConfig.id).Nodup)
    (hcreatable : ∀ config ∈ table, newClient socketAddr config = .created) :
    (init listed table).view.Sound socketAddr := by
  refine ⟨hnodup, hcreatable, fun i config hi ↦ ?_, nofun, fun hcount ↦ ?_⟩
  · rcases hi with hi | hi <;> cases hi
  · exact absurd hcount (lt_irrefl 0)

theorem sound_of_run {listed table : List DeviceConfig}
    (hnodup : (table.map DeviceConfig.id).Nodup)
    (hcreatable : ∀ config ∈ table, newClient socketAddr config = .created) {labels : List Label}
    (hrun : Transition.Run (Transition.ofOption (step socketAddr overflowChecks))
      (init listed table) labels s) : s.view.Sound socketAddr := by
  induction hrun with
  | nil => exact sound_init listed hnodup hcreatable
  | snoc _ hstep ih => exact StoreView.sound_step ih (view_step hstep)

theorem StoredTable.sound {table : List DeviceConfig}
    (h : StoredTable socketAddr overflowChecks table) :
    (table.map DeviceConfig.id).Nodup ∧ ∀ config ∈ table, newClient socketAddr config = .created := by
  induction h with
  | fresh => exact ⟨List.nodup_nil, nofun⟩
  | stopped _ hrun ih =>
      have hsound := sound_of_run ih.1 ih.2 hrun
      exact ⟨hsound.nodup, hsound.creatable⟩

theorem inLine_of_run {listed table : List DeviceConfig}
    (htable : StoredTable socketAddr overflowChecks table) {labels : List Label}
    (hrun : Transition.Run (Transition.guarded (fun s label ↦ s.view.inTurn label)
      (Transition.ofOption (step socketAddr overflowChecks))) (init listed table) labels s) :
    s.view.Sound socketAddr ∧ s.view.InLine socketAddr listed := by
  obtain ⟨hnodup, hcreatable⟩ := htable.sound
  have hinit : (init listed table).view.InLine socketAddr listed :=
    ⟨fun _ hmem ↦ hmem, fun _ hmem ↦ .inl hmem, nofun, [], rfl, fun _ _ ↦ .inl rfl⟩
  induction hrun with
  | nil => exact ⟨sound_init listed hnodup hcreatable, hinit⟩
  | snoc _ hstep ih =>
      have hview := view_step hstep.2
      exact ⟨StoreView.sound_step ih.1 hview, StoreView.inLine_step ih.1 ih.2 hstep.1 hview⟩

theorem pending_eq_none (hdone : ∀ request ∈ s.requests, request.isDone) (i : ℕ) :
    s.view.pending i = none := by
  cases hrequest : s.requests[i]? with
  | none => simp [view, hrequest]
  | some request =>
      obtain ⟨call, phase⟩ := request
      have hphase := hdone _ (List.mem_of_getElem? hrequest)
      rw [pending_of_some hrequest]
      cases phase with
      | done response => cases call <;> rfl
      | _ => cases hphase

theorem registerAtStart_frame (h : s.registerAtStart socketAddr = some t) :
    t.requests = s.requests ∧ t.deviceTable = s.deviceTable := by
  have heffect := effect_registerAtStart h
  cases heffect <;> exact ⟨rfl, rfl⟩

/-- Start-up is always in turn, and neither requests nor table change meanwhile. -/
theorem run_startUp {n : ℕ} (h : Transition.exec (step socketAddr overflowChecks) s
    (List.replicate n .registerAtStart) = some t) :
    Transition.Run (Transition.guarded (fun s label ↦ s.view.inTurn label)
        (Transition.ofOption (step socketAddr overflowChecks))) s
      (List.replicate n .registerAtStart) t ∧
      t.requests = s.requests ∧ t.deviceTable = s.deviceTable := by
  induction n generalizing t with
  | zero =>
      obtain rfl : s = t := Option.some.inj h
      exact ⟨.nil, rfl, rfl⟩
  | succ n ih =>
      rw [List.replicate_succ', Transition.exec_append_singleton, Option.bind_eq_some_iff] at h
      obtain ⟨u, hu, hstep⟩ := h
      obtain ⟨hrun, hrequests, htable⟩ := ih hu
      obtain ⟨hrequests', htable'⟩ := registerAtStart_frame hstep
      rw [List.replicate_succ']
      exact ⟨hrun.snoc ⟨rfl, hstep⟩, hrequests'.trans hrequests, htable'.trans htable⟩

/-- Start-up comes to the next device. -/
theorem exists_registerAtStart (hstarted : ¬s.view.Started)
    (hconfigured : ∀ config ∈ s.configured, newClient socketAddr config ≠ .panicked)
    (hpersisted : ∀ config ∈ s.persisted, newClient socketAddr config ≠ .panicked) :
    ∃ t, s.registerAtStart socketAddr = some t ∧ t.configured ⊆ s.configured ∧
      t.persisted ⊆ s.persisted ∧
      t.configured.length + t.persisted.length < s.configured.length + s.persisted.length := by
  unfold registerAtStart
  split
  case h_1 config rest hnext =>
      have hclient := hconfigured config (by rw [hnext]; exact List.mem_cons_self)
      split
      case h_3 hpanicked => exact absurd hpanicked hclient
      all_goals
        refine ⟨_, rfl, ?_, List.Subset.refl _, ?_⟩
        · simp [hnext]
        · simp [hnext, registerNew, spawnTask, register]
  case h_2 config rest hempty hnext =>
      have hclient := hpersisted config (by rw [hnext]; exact List.mem_cons_self)
      split
      case isTrue =>
          refine ⟨_, rfl, List.Subset.refl _, ?_, ?_⟩
          · simp [hnext]
          · simp [hnext]
      case isFalse =>
          split
          case h_3 hpanicked => exact absurd hpanicked hclient
          all_goals
            refine ⟨_, rfl, List.Subset.refl _, ?_, ?_⟩
            · simp [hnext]
            · simp [hnext, registerNew, spawnTask, register]
  case h_3 hconfigured hpersisted => exact absurd ⟨hconfigured, hpersisted⟩ hstarted

/-- Start-up comes to its end if none of its devices makes it panic. -/
theorem exists_started (overflowChecks : Bool) (s : DeviceRuntime)
    (hconfigured : ∀ config ∈ s.configured, newClient socketAddr config ≠ .panicked)
    (hpersisted : ∀ config ∈ s.persisted, newClient socketAddr config ≠ .panicked) :
    ∃ n u, Transition.exec (step socketAddr overflowChecks) s (List.replicate n .registerAtStart) =
      some u ∧ u.view.Started := by
  by_cases hstarted : s.view.Started
  · exact ⟨0, s, rfl, hstarted⟩
  · obtain ⟨t, hstep, hconf, hpers, hless⟩ :=
      exists_registerAtStart hstarted hconfigured hpersisted
    obtain ⟨n, u, hu, hdone⟩ := exists_started overflowChecks t
      (fun config hmem ↦ hconfigured config (hconf hmem))
      fun config hmem ↦ hpersisted config (hpers hmem)
    refine ⟨n + 1, u, ?_, hdone⟩
    have hfirst : step socketAddr overflowChecks s .registerAtStart = some t := hstep
    rw [List.replicate_succ, Transition.exec, List.foldlM_cons, hfirst]
    exact hu
termination_by s.configured.length + s.persisted.length

/-- **Devices across restarts.** In every run in which each configuration is saved, and each request
dropped, in turn: once start-up is over and no request is in progress, the registry holds a device
that is not in the configuration file exactly if the table has a row for it, with the configuration
that the row reads back to; and a restart succeeds and brings back the same devices. -/
theorem restart_restores {listed table : List DeviceConfig}
    (htable : StoredTable socketAddr overflowChecks table) {labels : List Label}
    (hrun : Transition.Run (Transition.guarded (fun s label ↦ s.view.inTurn label)
      (Transition.ofOption (step socketAddr overflowChecks))) (init listed table) labels s)
    (hstarted : s.view.Started) (hdone : ∀ request ∈ s.requests, request.isDone) :
    (s.deviceTable.map DeviceConfig.id).Nodup ∧
      (∀ id ∉ listed.map DeviceConfig.id, (s.registry id).map DeviceHandle.config =
        rowOf (loadDevices (s.deviceTable.map DeviceConfig.toRow)) id) ∧
      (∃ u, Restarts socketAddr overflowChecks listed (s.deviceTable.map DeviceConfig.toRow) u) ∧
      ∀ u, Restarts socketAddr overflowChecks listed (s.deviceTable.map DeviceConfig.toRow) u →
        ∀ id ∉ listed.map DeviceConfig.id, (u.registry id).map DeviceHandle.config =
          (s.registry id).map DeviceHandle.config := by
  obtain ⟨hsound, hinLine⟩ := inLine_of_run htable hrun
  have hagrees : ∀ id ∉ listed.map DeviceConfig.id,
      s.view.registered id = rowOf s.deviceTable id := fun id hid ↦
    hinLine.registered_eq hstarted (pending_eq_none hdone) hid
  rw [loadDevices_toRow]
  refine ⟨hsound.nodup, hagrees, ?_, ?_⟩
  · have hconfigured : ∀ config ∈ listed, newClient socketAddr config ≠ .panicked := by
      intro config hmem
      rcases hinLine.startable config hmem with hleft | hclient
      · rw [hstarted.1] at hleft
        cases hleft
      · exact hclient
    have hpersisted : ∀ config ∈ s.deviceTable, newClient socketAddr config ≠ .panicked := by
      intro config hmem
      rw [hsound.creatable config hmem]
      nofun
    obtain ⟨n, u, hu, hover⟩ := exists_started overflowChecks (init listed s.deviceTable)
      hconfigured hpersisted
    refine ⟨u, ⟨n, ?_⟩, hover⟩
    rw [loadDevices_toRow]
    exact hu
  · rintro u ⟨⟨n, hu⟩, hover⟩ id hid
    rw [loadDevices_toRow] at hu
    obtain ⟨hrestart, hrequests, hkept⟩ := run_startUp hu
    have hstored : StoredTable socketAddr overflowChecks s.deviceTable :=
      .stopped htable hrun.of_guarded
    obtain ⟨-, hinLine'⟩ := inLine_of_run hstored hrestart
    have hnone : ∀ request ∈ u.requests, request.isDone := by
      rw [hrequests]
      exact fun _ hmem ↦ absurd hmem List.not_mem_nil
    have hrestored : u.view.registered id = rowOf u.deviceTable id :=
      hinLine'.registered_eq hover (pending_eq_none hnone) hid
    calc
      u.view.registered id = rowOf u.deviceTable id := hrestored
      _ = rowOf s.deviceTable id := congrArg (fun table ↦ rowOf table id) hkept
      _ = s.view.registered id := (hagrees id hid).symm

/-- Start-up is over and no request is in progress. -/
def isIdle (s : DeviceRuntime) : Bool :=
  s.configured.isEmpty && s.persisted.isEmpty && s.requests.all DeviceRequest.isDone

theorem isIdle_iff : s.isIdle ↔ s.view.Started ∧ ∀ request ∈ s.requests, request.isDone := by
  simp [isIdle, StoreView.Started, view, and_assoc]

/-- A device of the configuration file is registered, and another is added, removed and added
again. -/
def readdedRun : List Label :=
  .registerAtStart :: handled 0 (.addDevice (reactor [1031])) 4 ++
    handled 1 (.removeDevice "plc-01") 2 ++ handled 2 (.addDevice (reactor [1028])) 4

theorem restart_restores_readdedRun :
    let listed := [{ (reactor []).config with id := "plc-02" }]
    ∃ s, Transition.exec (step (fun _ ↦ true) true) (init listed []) readdedRun = some s ∧
      (s.registry "plc-01").map DeviceHandle.config =
        rowOf (loadDevices (s.deviceTable.map DeviceConfig.toRow)) "plc-01" ∧
      ∃ u, Restarts (fun _ ↦ true) true listed (s.deviceTable.map DeviceConfig.toRow) u ∧
        (u.registry "plc-01").map DeviceHandle.config =
          (s.registry "plc-01").map DeviceHandle.config := by
  intro listed
  obtain ⟨s, hrun, hidle⟩ := @Transition.exists_run_guarded_of_any _ _ (init listed [])
    (step (fun _ ↦ true) true) (fun s label ↦ s.view.inTurn label) _ isIdle readdedRun (by decide)
  obtain ⟨hstarted, hdone⟩ := isIdle_iff.mp hidle
  obtain ⟨-, hrows, ⟨u, hu⟩, hsame⟩ := restart_restores .fresh hrun hstarted hdone
  have hid : "plc-01" ∉ listed.map DeviceConfig.id := by decide
  exact ⟨s, Transition.run_ofOption_iff.mp hrun.of_guarded, hrows _ hid, u, hu, hsame u hu _ hid⟩

/-- A device is removed after `add_device` has registered it and before it saves it. -/
def overtakenRun : List Label :=
  handled 0 (.addDevice (reactor [1031])) 3 ++ handled 1 (.removeDevice "plc-01") 2 ++
    [.advance 0 0]

theorem overtakenRun_disagrees :
    ∃ s, Transition.exec (step (fun _ ↦ true) true) (init [] []) overtakenRun = some s ∧
      ¬(s.view.Started → (∀ request ∈ s.requests, request.isDone) →
        ∀ id ∉ [], (s.registry id).map DeviceHandle.config =
          rowOf (loadDevices (s.deviceTable.map DeviceConfig.toRow)) id) := by
  apply @Transition.exists_exec_not _ _ _ _ _ fun s ↦
    !(s.isIdle && (s.registry "plc-01").isNone && (rowOf s.deviceTable "plc-01").isSome)
  · intro s hagrees
    rw [Bool.not_eq_true', ← Bool.not_eq_true]
    simp only [Bool.and_eq_true, Option.isNone_iff_eq_none]
    rintro ⟨⟨hidle, hnone⟩, hsome⟩
    obtain ⟨hstarted, hdone⟩ := isIdle_iff.mp hidle
    have hrow := hagrees hstarted hdone "plc-01" List.not_mem_nil
    rw [loadDevices_toRow, hnone, Option.map_none] at hrow
    rw [← hrow] at hsome
    cases hsome
  · decide

end DeviceRuntime

end VyuhHmi
