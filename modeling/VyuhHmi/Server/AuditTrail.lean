import VyuhHmi.Server.Routes

/-!
# What the audit trail says of requests

Requests are handled one after the other.  Between them the polling tasks run, alarms are raised,
cleared and unshelved, and the other routes write their own entries.  A request is audited when its
success and its change go with exactly one new entry, which names the user of the token and states
the change.
-/

namespace VyuhHmi

/-- The alarm is shelved by this user until this instant. -/
def Alarm.shelvedFor (username : String) (until_ : Instant) (alarm : Alarm) : Bool :=
  alarm.state == .shelved && alarm.shelvedBy == some username && alarm.shelvedUntil == some until_

theorem Alarm.shelve_eq_self_iff {username : String} {until_ : Instant} {alarm : Alarm} :
    alarm.shelve username until_ = alarm ↔ alarm.shelvedFor username until_ := by
  simp only [Alarm.shelvedFor, Bool.and_eq_true, beq_iff_eq]
  constructor
  · intro heq
    rw [← heq]
    exact ⟨⟨rfl, rfl⟩, rfl⟩
  · rintro ⟨⟨hstate, huser⟩, huntil⟩
    obtain ⟨⟩ := alarm
    subst hstate huser huntil
    rfl

theorem Alarm.shelvedFor_shelve_iff {username : String} {until_ until' : Instant} {alarm : Alarm} :
    (alarm.shelve username until_).shelvedFor username until' ↔ until_ = until' := by
  simp [Alarm.shelve, Alarm.shelvedFor]

namespace DeviceCall

/-- The device that a request is about. -/
def deviceId : DeviceCall → String
  | .addDevice req => req.id
  | .removeDevice deviceId | .disconnectDevice deviceId | .connectDevice deviceId => deviceId
  | .postWrite _ req => req.deviceId

end DeviceCall

theorem shelveDetails_inj {alarmId : ℤ} {minutes minutes' : ℕ} {reason : String}
    (h : shelveDetails alarmId minutes reason = shelveDetails alarmId minutes' reason) :
    minutes = minutes' := by
  unfold shelveDetails at h
  rw [String.append_left_inj, String.append_left_inj, String.append_right_inj] at h
  exact toString_nat_inj h

namespace ServerState

variable {socketAddr : String → Bool} {overflowChecks : Bool} {classes : CharClasses}
  {s t : ServerState} {checked : AuthOutcome} {claims : Claims} {call : ServerCall} {now : Instant}
  {answer : Answer}

/-! ## The law -/

/-- The devices, an alarm or the users table is not as it was. -/
def Changed (s t : ServerState) : Prop :=
  s.devices.DevicesChanged t.devices ∨ t.alarms.rows ≠ s.alarms.rows ∨ t.users.rows ≠ s.users.rows

/-- The entry states what the request has changed. -/
def States (s t : ServerState) (claims : Claims) (now : Instant) (entry : AuditEntry) :
    ServerCall → Prop
  | .postWrite body _ => ∃ req, body = .parsed req ∧ entry.action = "write_register" ∧
      entry.deviceId = some req.deviceId ∧ entry.details = writeDetails req.register req.value ∧
      ⟨req.deviceId, req.register, req.value, s.devices.requests.length⟩ ∈ t.devices.plcWrites
  | .ackAlarm alarmId _ _ => entry.action = "alarm_ack" ∧ entry.details = ackDetails alarmId ∧
      ∃ alarm ∈ t.alarms.rows, alarm.id = alarmId ∧ alarm.state = .acknowledged ∧
        alarm.ackedBy = some claims.sub
  | .shelveAlarm alarmId body _ => ∃ req minutes, body = .parsed req ∧
      entry.action = "alarm_shelve" ∧ entry.details = shelveDetails alarmId minutes req.reason ∧
      ∃ alarm ∈ t.alarms.rows, alarm.id = alarmId ∧
        alarm.shelvedFor claims.sub (now + minutes * nanosPerMinute)
  | .createUser _ _ _ _ => ∃ user ∈ t.users.rows, user ∉ s.users.rows ∧
      entry.action = "create_user" ∧ entry.details = createdDetails user.username user.role
  | call => ∃ deviceCall, call.device = some deviceCall ∧ entry.deviceId = some deviceCall.deviceId

/-- **The law of the audit trail**, for one request. -/
structure Audited (s t : ServerState) (checked : AuthOutcome) (call : ServerCall) (now : Instant)
    (answer : Answer) : Prop where
  kept : s.auditTrail.rows <+: t.auditTrail.rows
  failed : answer.success = false → t.auditTrail.rows = s.auditTrail.rows
  logged : answer.success → s.Changed t → ∃ claims entry, checked = .passed claims ∧
    t.auditTrail.rows = s.auditTrail.rows ++ [entry] ∧ entry.userId = claims.userId ∧
    entry.username = claims.sub ∧ s.States t claims now entry call

theorem not_changed_self : ¬s.Changed s := by
  simp [Changed, DeviceRuntime.DevicesChanged]

/-- A request that writes nothing to the trail must not change anything with success. -/
theorem audited_iff_of_trail_eq (htrail : t.auditTrail = s.auditTrail) :
    s.Audited t checked call now answer ↔ ¬(answer.success ∧ s.Changed t) := by
  constructor
  · rintro haudited ⟨hsuccess, hchanged⟩
    obtain ⟨claims, entry, -, hrows, -⟩ := haudited.logged hsuccess hchanged
    rw [htrail] at hrows
    exact List.cons_ne_nil entry [] (List.self_eq_append_right.mp hrows)
  · intro hnot
    have hrows : t.auditTrail.rows = s.auditTrail.rows := congrArg RowTable.rows htrail
    exact ⟨hrows ▸ List.prefix_rfl, fun _ ↦ hrows, fun hsuccess hchanged ↦
      absurd ⟨hsuccess, hchanged⟩ hnot⟩

theorem audited_self : s.Audited s checked call now answer :=
  (audited_iff_of_trail_eq rfl).mpr fun hboth ↦ not_changed_self hboth.2

/-- A successful request with one entry under its own name must state its change. -/
theorem audited_iff_of_logged {action details : String} {deviceId : Option String}
    (htrail : t.auditTrail =
      logAudit s.auditTrail claims.userId claims.sub action deviceId details none now)
    (hsuccess : answer.success) :
    s.Audited t (.passed claims) call now answer ↔ (s.Changed t → s.States t claims now
      (auditEntry claims.userId claims.sub action deviceId details none now
        (s.auditTrail.seq + 1)) call) := by
  have hrows := congrArg RowTable.rows htrail
  rw [rows_logAudit] at hrows
  constructor
  · intro haudited hchanged
    obtain ⟨claims', entry, hchecked, hentry, -, -, hstates⟩ := haudited.logged hsuccess hchanged
    obtain rfl := AuthOutcome.passed.inj hchecked
    rw [hrows] at hentry
    obtain rfl := List.singleton_inj.mp (List.append_cancel_left hentry)
    exact hstates
  · intro hstates
    refine ⟨hrows ▸ List.prefix_append _ _, fun hfailed ↦ ?_, fun _ hchanged ↦ ?_⟩
    · rw [hsuccess] at hfailed
      cases hfailed
    · exact ⟨claims, _, rfl, hrows, rfl, rfl, hstates hchanged⟩

/-! ## Device requests -/

theorem handleDevice_eq_some_iff {deviceCall : DeviceCall}
    {polls : List (ℕ × DeviceRuntime.TaskEvent)} :
    s.handleDevice socketAddr overflowChecks deviceCall polls now = some (t, answer) ↔
      ∃ devices response,
        s.devices.handleAlone socketAddr overflowChecks deviceCall now polls = some devices ∧
        devices.phaseOf s.devices.requests.length = some (.done response) ∧
        t = { s with devices := devices } ∧ answer = .routes response := by
  rw [handleDevice, Option.bind_eq_some_iff]
  constructor
  · rintro ⟨devices, halone, hanswer⟩
    split at hanswer
    case h_1 response hphase =>
        cases hanswer
        exact ⟨devices, response, halone, hphase, rfl, rfl⟩
    case h_2 => cases hanswer
  · rintro ⟨devices, response, halone, hphase, rfl, rfl⟩
    refine ⟨devices, halone, ?_⟩
    rw [hphase]

/-- Requests to the device registry write nothing to the trail. -/
theorem audited_device_iff {deviceCall : DeviceCall} (hidle : s.devices.Idle)
    (hwrite : ∀ claims req, deviceCall ≠ .postWrite claims req)
    (h : s.handleDevice socketAddr overflowChecks deviceCall [] now = some (t, answer)) :
    s.Audited t checked call now answer ↔
      s.devices.changesDevices socketAddr deviceCall = false := by
  obtain ⟨devices, response, halone, hphase, rfl, rfl⟩ := handleDevice_eq_some_iff.mp h
  have htrail : devices.auditTrail = s.auditTrail :=
    DeviceRuntime.auditTrail_handleAlone hwrite halone
  have hchanges := DeviceRuntime.devicesChanged_iff hidle.done hwrite halone
  rw [hphase, Option.any_some, DeviceRuntime.succeeded_done] at hchanges
  rw [audited_iff_of_trail_eq htrail, ← Bool.not_eq_true, ← hchanges]
  simp [Answer.success, Changed]

/-- A write is audited. -/
theorem audited_postWrite {body : Body WriteRequest} {polls : List (ℕ × DeviceRuntime.TaskEvent)}
    (hidle : s.devices.Idle)
    (h : s.postWrite socketAddr overflowChecks claims body polls now = some (t, answer)) :
    s.Audited t (.passed claims) (.postWrite body polls) now answer := by
  cases body with
  | unreadable | invalid =>
      cases h
      exact audited_self
  | parsed req =>
      obtain ⟨devices, response, halone, hphase, rfl, rfl⟩ := handleDevice_eq_some_iff.mp h
      obtain ⟨htrail, hwritten⟩ :=
        DeviceRuntime.postWrite_alone hidle.routed hidle.performed halone
      rw [hphase, Option.any_some, DeviceRuntime.succeeded_done] at htrail hwritten
      cases hsuccess : response.any Response.success with
      | false =>
          rw [hsuccess, if_neg Bool.false_ne_true] at htrail
          rw [audited_iff_of_trail_eq htrail]
          rintro ⟨hsuccess', -⟩
          rw [Answer.success, hsuccess] at hsuccess'
          cases hsuccess'
      | true =>
          rw [hsuccess, if_pos rfl] at htrail
          have hlogged : ServerState.auditTrail { s with devices := devices } =
              logAudit s.auditTrail claims.userId claims.sub "write_register" (some req.deviceId)
                (writeDetails req.register req.value) none now := htrail
          have hanswer : (Answer.routes response).success := hsuccess
          rw [audited_iff_of_logged hlogged hanswer]
          intro _
          exact ⟨req, rfl, rfl, rfl, rfl, hwritten hsuccess⟩

/-! ## Alarm requests -/

/-- Spec of the handler of `/ack`: the alarm was active, is updated and logged, or nothing
happens. -/
theorem ackAlarm_cases (s : ServerState) (claims : Claims) (alarmId : ℤ)
    (body : Body AckAlarmRequest) (failure : Option DbFailure) (now : Instant) :
    (selectState s.alarms alarmId = some .active ∧
      s.ackAlarm claims alarmId body failure now =
        ({ s with alarms :=
            ackUpdate s.alarms alarmId claims.sub (ackMessage (ackComment body)) now }.log
            claims "alarm_ack" none (ackDetails alarmId) now,
          .text (.ok ("Alarm #" ++ toString alarmId ++ " acknowledged")))) ∨
    ∃ e, s.ackAlarm claims alarmId body failure now = (s, .text (.fail e)) := by
  unfold ackAlarm
  cases failure with
  | some failure =>
      obtain ⟨e, hattempt⟩ := attempt_some s.alarms
        (VyuhHmi.ackAlarm s.alarms alarmId claims.sub (ackComment body) now) "Failed to ack alarm"
        failure
      rw [hattempt]
      exact .inr ⟨e, rfl⟩
  | none =>
      rcases VyuhHmi.ackAlarm_cases s.alarms alarmId claims.sub (ackComment body) now with
        ⟨hactive, hack⟩ | ⟨e, hack⟩
      · rw [attempt, hack]
        exact .inl ⟨hactive, rfl⟩
      · rw [attempt, hack]
        exact .inr ⟨e, rfl⟩

/-- An acknowledgement is audited. -/
theorem audited_ackAlarm {alarmId : ℤ} {body : Body AckAlarmRequest} {failure : Option DbFailure}
    (h : s.ackAlarm claims alarmId body failure now = (t, answer)) :
    s.Audited t (.passed claims) (.ackAlarm alarmId body failure) now answer := by
  rcases ackAlarm_cases s claims alarmId body failure now with ⟨hactive, hack⟩ | ⟨e, hack⟩
  · rw [hack] at h
    cases h
    rw [audited_iff_of_logged rfl rfl]
    intro _
    obtain ⟨alarm, hmem, hid, -⟩ := selectState_eq_some_iff.mp hactive
    refine ⟨rfl, rfl, alarm.acknowledge claims.sub (ackMessage (ackComment body)) now, ?_, hid, rfl,
      rfl⟩
    refine List.mem_map.mpr ⟨alarm, hmem, ?_⟩
    rw [if_pos (beq_iff_eq.mpr hid)]
  · rw [hack] at h
    cases h
    exact audited_self

/-! ## Shelving -/

/-- The state after a shelving that is carried out. -/
def shelved (s : ServerState) (claims : Claims) (alarmId : ℤ) (req : ShelveAlarmRequest)
    (now : Instant) : ServerState :=
  let alarms := shelveUpdate s.alarms alarmId claims.sub (shelveUntil req.durationMinutes now)
  { s with alarms := alarms }.log claims "alarm_shelve" none
    (shelveDetails alarmId req.durationMinutes.toNat req.reason) now

/-- Spec of the handler of `/shelve`, for a request that is carried out. -/
theorem shelveAlarm_of_uncleared {alarmId : ℤ} {req : ShelveAlarmRequest} {state : AlarmState}
    (hselect : selectState s.alarms alarmId = some state) (hstate : state ≠ .cleared) :
    s.shelveAlarm claims alarmId (.parsed req) none now =
      (s.shelved claims alarmId req now,
        .text (.ok ("Alarm #" ++ toString alarmId ++ " shelved for " ++
          toString req.durationMinutes.toNat ++ " minutes"))) := by
  have hcheck := shelveCheck_eq_ok_iff.mpr ⟨state, hselect, hstate⟩
  rw [shelveAlarm, attempt, VyuhHmi.shelveAlarm, hcheck]
  rfl

/-- Spec of the handler of `/shelve`, for any other request. -/
theorem shelveAlarm_of_refused {alarmId : ℤ} {body : Body ShelveAlarmRequest}
    {failure : Option DbFailure}
    (hrefused : (∃ req, body = .parsed req) → failure = none →
      ∀ state, selectState s.alarms alarmId = some state → state = .cleared) :
    ∃ e, s.shelveAlarm claims alarmId body failure now = (s, .text (.fail e)) := by
  cases body with
  | unreadable | invalid => exact ⟨_, rfl⟩
  | parsed req =>
      unfold shelveAlarm
      cases failure with
      | some failure =>
          obtain ⟨e, hattempt⟩ := attempt_some s.alarms
            (VyuhHmi.shelveAlarm s.alarms alarmId claims.sub req.durationMinutes now)
            "Failed to shelve alarm" failure
          simp only [hattempt]
          exact ⟨e, rfl⟩
      | none =>
          rcases shelveAlarm_cases s.alarms alarmId claims.sub req.durationMinutes now with
            ⟨state, hselect, hstate, -⟩ | ⟨e, hshelve⟩
          · exact absurd (hrefused ⟨req, rfl⟩ rfl state hselect) hstate
          · simp only [attempt, hshelve]
            exact ⟨e, rfl⟩

section shelving

variable {alarmId : ℤ} {until_ : Instant} {alarm : Alarm}

/-- A row of this key, after the update. -/
theorem shelved_of_mem {alarms : AlarmTable} {username : String}
    (hmem : alarm ∈ (shelveUpdate alarms alarmId username until_).rows) (hid : alarm.id = alarmId) :
    ∃ before ∈ alarms.rows, before.id = alarmId ∧ alarm = before.shelve username until_ := by
  obtain ⟨before, hbefore, rfl⟩ := List.mem_map.mp hmem
  split at hid
  case isTrue hkey =>
      rw [if_pos hkey]
      exact ⟨before, hbefore, beq_iff_eq.mp hkey, rfl⟩
  case isFalse hkey => exact absurd (beq_iff_eq.mpr hid) hkey

theorem shelve_mem {alarms : AlarmTable} {username : String} (hmem : alarm ∈ alarms.rows)
    (hid : alarm.id = alarmId) :
    alarm.shelve username until_ ∈ (shelveUpdate alarms alarmId username until_).rows := by
  refine List.mem_map.mpr ⟨alarm, hmem, ?_⟩
  rw [if_pos (beq_iff_eq.mpr hid)]

theorem shelveUntil_eq_iff {durationMinutes : UInt32} :
    shelveUntil durationMinutes now = now + durationMinutes.toNat * nanosPerMinute ↔
      durationMinutes.toNat ≤ 480 := by
  have hpos : 0 < nanosPerMinute := by decide
  rw [shelveUntil, Nat.add_left_cancel_iff, Nat.mul_left_inj hpos.ne', shelveMinutes]
  exact min_eq_left_iff

/-- Shelving changes the table exactly when it changes the row. -/
theorem shelveUpdate_changes_iff {username : String} (hmem : alarm ∈ s.alarms.rows)
    (hid : alarm.id = alarmId) :
    (shelveUpdate s.alarms alarmId username until_).rows ≠ s.alarms.rows ↔
      alarm.shelvedFor username until_ = false := by
  have hrow : (∀ row ∈ s.alarms.rows, row.id = alarmId → row.shelve username until_ = row) ↔
      alarm.shelve username until_ = alarm := by
    constructor
    · intro hall
      exact hall alarm hmem hid
    · intro hsame row hrow hkey
      obtain rfl := RowTable.eq_of_rowid_eq hrow hmem (hkey.trans hid.symm)
      exact hsame
  have hrows : (shelveUpdate s.alarms alarmId username until_).rows = s.alarms.rows ↔
      ∀ row ∈ s.alarms.rows, row.id = alarmId → row.shelve username until_ = row :=
    RowTable.rows_updateWhere_eq_iff
  rw [Ne, hrows, hrow, Alarm.shelve_eq_self_iff, Bool.not_eq_true]

/-- A shelving that is carried out is audited exactly when it takes the requested time or changes
nothing. -/
theorem audited_shelveAlarm_of_uncleared {req : ShelveAlarmRequest} (hmem : alarm ∈ s.alarms.rows)
    (hid : alarm.id = alarmId) (hstate : alarm.state ≠ .cleared)
    (h : s.shelveAlarm claims alarmId (.parsed req) none now = (t, answer)) :
    s.Audited t (.passed claims) (.shelveAlarm alarmId (.parsed req) none) now answer ↔
      ¬(480 < req.durationMinutes.toNat ∧
        alarm.shelvedFor claims.sub (now + 480 * nanosPerMinute) = false) := by
  have hselect := selectState_eq_some_iff.mpr ⟨alarm, hmem, hid, rfl⟩
  rw [shelveAlarm_of_uncleared hselect hstate] at h
  cases h
  rw [audited_iff_of_logged rfl rfl]
  have hchanged : s.Changed (s.shelved claims alarmId req now) ↔
      alarm.shelvedFor claims.sub (shelveUntil req.durationMinutes now) = false := by
    rw [← shelveUpdate_changes_iff hmem hid]
    simp [Changed, DeviceRuntime.DevicesChanged, shelved, log]
  rw [hchanged]
  constructor
  · rintro hstates ⟨hlong, hfresh⟩
    have huntil : shelveUntil req.durationMinutes now = now + 480 * nanosPerMinute := by
      rw [shelveUntil, shelveMinutes, Nat.min_eq_right hlong.le]
    rw [huntil] at hstates
    obtain ⟨req', minutes, hreq, -, hdetails, after, hafter, hkey, hshelved⟩ := hstates hfresh
    obtain rfl := Body.parsed.inj hreq
    obtain rfl := shelveDetails_inj hdetails
    obtain ⟨before, -, -, rfl⟩ := shelved_of_mem hafter hkey
    rw [Alarm.shelvedFor_shelve_iff] at hshelved
    exact Nat.not_le.mpr hlong (shelveUntil_eq_iff.mp hshelved)
  · intro hnot hfresh
    have hshort : req.durationMinutes.toNat ≤ 480 := by
      by_contra hlong
      rw [Nat.not_le] at hlong
      rw [shelveUntil, shelveMinutes, Nat.min_eq_right hlong.le] at hfresh
      exact hnot ⟨hlong, hfresh⟩
    refine ⟨req, req.durationMinutes.toNat, rfl, rfl, rfl,
      alarm.shelve claims.sub (shelveUntil req.durationMinutes now), shelve_mem hmem hid, hid, ?_⟩
    rw [Alarm.shelvedFor_shelve_iff]
    exact shelveUntil_eq_iff.mpr hshort

end shelving

/-! ## User requests -/

theorem createdUser_notMem {users : UserTable} {user : User}
    (hfresh : users.conflicts user = false) : user ∉ users.rows := by
  intro hmem
  have hnone := List.any_eq_false.mp hfresh user hmem
  simp at hnone

/-- The creation of a user is audited. -/
theorem audited_createUser {body : Body CreateUserRequest} {userId : String}
    {hash : Except String String} {failure : Option String}
    (h : s.createUser classes claims body userId hash failure now = (t, answer)) :
    s.Audited t (.passed claims) (.createUser body userId hash failure) now answer := by
  unfold createUser at h
  split at h
  case h_1 | h_2 =>
      cases h
      exact audited_self
  case h_3 req =>
      split at h
      case isTrue =>
          cases h
          exact audited_self
      case isFalse =>
          split at h
          case h_1 | h_2 | h_3 =>
              cases h
              exact audited_self
          case h_4 =>
              split at h
              case isTrue hfresh =>
                  cases h
                  rw [audited_iff_of_logged rfl rfl]
                  intro _
                  exact ⟨_, List.mem_append_right _ (List.mem_singleton_self _),
                    createdUser_notMem hfresh, rfl, rfl⟩
              case isFalse =>
                  cases h
                  exact audited_self

/-! ## Every request -/

/-- The requests whose success the trail does not tell, or not truly: those that change the device
registry or its tasks, and those that shelve an alarm for longer than it can be shelved. -/
def escapesAudit (socketAddr : String → Bool) (s : ServerState) (checked : AuthOutcome)
    (call : ServerCall) (now : Instant) : Bool :=
  match checked, call with
  | .passed claims, .shelveAlarm alarmId (.parsed req) none =>
      decide (480 < req.durationMinutes.toNat) && (s.alarms.byId alarmId).any fun alarm ↦
        alarm.state != .cleared && !alarm.shelvedFor claims.sub (now + 480 * nanosPerMinute)
  | .passed _, call => call.device.any (s.devices.changesDevices socketAddr)
  | _, _ => false

theorem audited_shelveAlarm_iff {alarmId : ℤ} {body : Body ShelveAlarmRequest}
    {failure : Option DbFailure}
    (h : s.shelveAlarm claims alarmId body failure now = (t, answer)) :
    s.Audited t (.passed claims) (.shelveAlarm alarmId body failure) now answer ↔
      s.escapesAudit socketAddr (.passed claims) (.shelveAlarm alarmId body failure) now =
        false := by
  by_cases haccepted : (∃ req, body = .parsed req) ∧ failure = none ∧
      ∃ alarm ∈ s.alarms.rows, alarm.id = alarmId ∧ alarm.state ≠ .cleared
  · obtain ⟨⟨req, rfl⟩, rfl, alarm, hmem, hid, hstate⟩ := haccepted
    have hrow : s.alarms.byId alarmId = some alarm := RowTable.byId_eq_some_iff.mpr ⟨hmem, hid⟩
    rw [audited_shelveAlarm_of_uncleared hmem hid hstate h]
    simp [escapesAudit, hrow, hstate]
  · have hrefused : ∃ e, s.shelveAlarm claims alarmId body failure now = (s, .text (.fail e)) := by
      apply shelveAlarm_of_refused
      intro hparsed hnone state hselect
      obtain ⟨alarm, hmem, hid, rfl⟩ := selectState_eq_some_iff.mp hselect
      by_contra hstate
      exact haccepted ⟨hparsed, hnone, alarm, hmem, hid, hstate⟩
    obtain ⟨e, hsame⟩ := hrefused
    rw [hsame] at h
    cases h
    refine iff_of_true audited_self ?_
    rw [Bool.eq_false_iff]
    intro hescapes
    unfold escapesAudit at hescapes
    split at hescapes
    case h_1 _ _ _ hchecked hcall =>
        obtain ⟨rfl, rfl, rfl⟩ := ServerCall.shelveAlarm.inj hcall
        obtain ⟨-, hrow⟩ := Bool.and_eq_true_iff.mp hescapes
        obtain ⟨alarm, hmem, hid, halarm⟩ := RowTable.any_byId_iff.mp hrow
        obtain ⟨hstate, -⟩ := Bool.and_eq_true_iff.mp halarm
        exact haccepted ⟨⟨_, rfl⟩, rfl, alarm, hmem, hid, by simpa using hstate⟩
    case h_2 => cases hescapes
    case h_3 => cases hescapes

/-- **Step lemma.** A request is audited exactly when it does not escape. -/
theorem audited_iff (hidle : s.devices.Idle)
    (h : s.handle socketAddr overflowChecks classes checked call now = some (t, answer)) :
    s.Audited t checked call now answer ↔ s.escapesAudit socketAddr checked call now = false := by
  cases checked with
  | dropped => cases h
  | replied reply =>
      cases h
      exact iff_of_true audited_self rfl
  | passed claims =>
      cases call with
      | readOnly success =>
          cases h
          exact iff_of_true audited_self rfl
      | addDevice | removeDevice | connectDevice | disconnectDevice =>
          exact audited_device_iff hidle (fun _ _ heq ↦ by cases heq) h
      | postWrite body polls => exact iff_of_true (audited_postWrite hidle h) rfl
      | ackAlarm alarmId body failure =>
          exact iff_of_true (audited_ackAlarm (Option.some.inj h)) rfl
      | shelveAlarm alarmId body failure => exact audited_shelveAlarm_iff (Option.some.inj h)
      | createUser body userId hash failure =>
          exact iff_of_true (audited_createUser (Option.some.inj h)) rfl

/-! ## Runs -/

/-- A request handled to its end, or what goes on between two requests: start-up, polling tasks and
late writes, the alarms' own life, and the entries of other routes. -/
inductive Label
  | request (checked : AuthOutcome) (call : ServerCall) (now : Instant)
  | devices (label : DeviceRuntime.Label)
  | setAlarms (alarms : AlarmTable)
  | logged (claims : Claims) (action : String) (deviceId : Option String) (details : String)
      (now : Instant)

def step (socketAddr : String → Bool) (overflowChecks : Bool) (classes : CharClasses)
    (s : ServerState) : Label → Option ServerState
  | .request checked call now =>
      (s.handle socketAddr overflowChecks classes checked call now).map Prod.fst
  | .devices label =>
      if label.isBackground then
        (DeviceRuntime.step socketAddr overflowChecks s.devices label).map fun devices ↦
          { s with devices := devices }
      else none
  | .setAlarms alarms => some { s with alarms := alarms }
  | .logged claims action deviceId details now => some (s.log claims action deviceId details now)

/-- A server that starts with these tables. -/
def init (configured deviceTable : List DeviceConfig) (alarms : AlarmTable) (users : UserTable)
    (auditTrail : AuditTable) : ServerState where
  devices := { DeviceRuntime.init configured deviceTable with auditTrail := auditTrail }
  alarms := alarms
  users := users

theorem idle_handleDevice {deviceCall : DeviceCall} {polls : List (ℕ × DeviceRuntime.TaskEvent)}
    (hidle : s.devices.Idle)
    (h : s.handleDevice socketAddr overflowChecks deviceCall polls now = some (t, answer)) :
    t.devices.Idle := by
  obtain ⟨devices, response, halone, -, rfl, -⟩ := handleDevice_eq_some_iff.mp h
  exact hidle.handleAlone halone

theorem idle_log (hidle : s.devices.Idle) (action details : String) (deviceId : Option String) :
    (s.log claims action deviceId details now).devices.Idle := hidle.withTrail _

theorem idle_handle (hidle : s.devices.Idle)
    (h : s.handle socketAddr overflowChecks classes checked call now = some (t, answer)) :
    t.devices.Idle := by
  cases checked with
  | dropped => cases h
  | replied reply =>
      cases h
      exact hidle
  | passed claims =>
      cases call with
      | readOnly success =>
          cases h
          exact hidle
      | addDevice | removeDevice | connectDevice | disconnectDevice =>
          exact idle_handleDevice hidle h
      | postWrite body polls =>
          cases body with
          | unreadable | invalid =>
              cases h
              exact hidle
          | parsed req => exact idle_handleDevice hidle h
      | ackAlarm alarmId body failure =>
          have hack := Option.some.inj h
          rcases ackAlarm_cases s claims alarmId body failure now with ⟨-, hdone⟩ | ⟨e, hdone⟩
          · rw [hdone] at hack
            cases hack
            exact idle_log hidle _ _ _
          · rw [hdone] at hack
            cases hack
            exact hidle
      | shelveAlarm alarmId body failure =>
          have hshelve := Option.some.inj h
          unfold shelveAlarm at hshelve
          repeat' split at hshelve
          all_goals cases hshelve
          · exact hidle
          · exact hidle
          · exact idle_log hidle _ _ _
          · exact hidle
      | createUser body userId hash failure =>
          have hcreate := Option.some.inj h
          unfold createUser at hcreate
          repeat' split at hcreate
          all_goals cases hcreate
          all_goals first | exact hidle | exact idle_log hidle _ _ _

/-- **Step lemma.** -/
theorem idle_step {label : Label} (hidle : s.devices.Idle)
    (h : step socketAddr overflowChecks classes s label = some t) : t.devices.Idle := by
  cases label with
  | request checked call now =>
      obtain ⟨⟨t', answer⟩, hhandle, rfl⟩ := Option.map_eq_some_iff.mp h
      exact idle_handle hidle hhandle
  | devices label =>
      simp only [step] at h
      split at h
      case isTrue hbackground =>
          obtain ⟨devices, hstep, rfl⟩ := Option.map_eq_some_iff.mp h
          exact (hidle.background hbackground hstep).1
      case isFalse => cases h
  | setAlarms alarms =>
      cases h
      exact hidle
  | logged claims action deviceId details now =>
      cases h
      exact idle_log hidle _ _ _

/-- The request is handled at this point of the sequence. -/
def Handled (socketAddr : String → Bool) (overflowChecks : Bool) (classes : CharClasses)
    (start : ServerState) (labels : List Label) (s : ServerState) (checked : AuthOutcome)
    (call : ServerCall) (now : Instant) (t : ServerState) (answer : Answer) : Prop :=
  ∃ earlier later, labels = earlier ++ .request checked call now :: later ∧
    Transition.exec (step socketAddr overflowChecks classes) start earlier = some s ∧
    s.handle socketAddr overflowChecks classes checked call now = some (t, answer)

variable {configured deviceTable : List DeviceConfig} {alarms : AlarmTable} {users : UserTable}
  {auditTrail : AuditTable} {labels : List Label}

theorem Handled.idle (h : Handled socketAddr overflowChecks classes
    (init configured deviceTable alarms users auditTrail) labels s checked call now t answer) :
    s.devices.Idle := by
  obtain ⟨earlier, later, -, hrun, -⟩ := h
  apply @Transition.Run.invariant _ _ _ _ _ (fun u ↦ u.devices.Idle) _ _ _
    (Transition.run_ofOption_iff.mpr hrun)
  · exact (DeviceRuntime.idle_init configured deviceTable).withTrail auditTrail
  · exact fun u label v hidle hstep ↦ idle_step hidle hstep

/-- **The audit trail.** Every request of a sequence is audited exactly when none of them escapes:
no device is added, removed, connected or disconnected, and no alarm is shelved for longer than it
can be. -/
theorem audited_iff_not_escapesAudit (socketAddr : String → Bool) (overflowChecks : Bool)
    (classes : CharClasses) (configured deviceTable : List DeviceConfig) (alarms : AlarmTable)
    (users : UserTable) (auditTrail : AuditTable) (labels : List Label) :
    (∀ s checked call now t answer, Handled socketAddr overflowChecks classes
        (init configured deviceTable alarms users auditTrail) labels s checked call now t answer →
      s.Audited t checked call now answer) ↔
    ∀ s checked call now t answer, Handled socketAddr overflowChecks classes
        (init configured deviceTable alarms users auditTrail) labels s checked call now t answer →
      s.escapesAudit socketAddr checked call now = false := by
  constructor
  · intro haudited s checked call now t answer hhandled
    have hidle := hhandled.idle
    have hone := haudited s checked call now t answer hhandled
    obtain ⟨-, -, -, -, hhandle⟩ := hhandled
    exact (audited_iff hidle hhandle).mp hone
  · intro hnone s checked call now t answer hhandled
    have hidle := hhandled.idle
    have hone := hnone s checked call now t answer hhandled
    obtain ⟨-, -, -, -, hhandle⟩ := hhandled
    exact (audited_iff hidle hhandle).mpr hone

/-- Whether audited or not, a request keeps the earlier entries, and writes none if it fails. -/
theorem kept_of_handle (hidle : s.devices.Idle)
    (h : s.handle socketAddr overflowChecks classes checked call now = some (t, answer)) :
    s.auditTrail.rows <+: t.auditTrail.rows ∧
      (answer.success = false → t.auditTrail.rows = s.auditTrail.rows) := by
  cases hescapes : s.escapesAudit socketAddr checked call now with
  | false =>
      have haudited := (audited_iff hidle h).mpr hescapes
      exact ⟨haudited.kept, haudited.failed⟩
  | true =>
      unfold escapesAudit at hescapes
      split at hescapes
      case h_1 claims alarmId req =>
          obtain ⟨-, hrow⟩ := Bool.and_eq_true_iff.mp hescapes
          obtain ⟨alarm, hmem, hid, halarm⟩ := RowTable.any_byId_iff.mp hrow
          have hstate : alarm.state ≠ .cleared := by
            simpa using (Bool.and_eq_true_iff.mp halarm).1
          have hselect := selectState_eq_some_iff.mpr ⟨alarm, hmem, hid, rfl⟩
          have hdone := (shelveAlarm_of_uncleared hselect hstate).symm.trans (Option.some.inj h)
          cases hdone
          exact ⟨List.prefix_append _ _, fun hfailed ↦ by cases hfailed⟩
      case h_2 claims _ =>
          obtain ⟨deviceCall, hcall, -⟩ := (Option.any_eq_true _ _).mp hescapes
          cases call with
          | addDevice | removeDevice | connectDevice | disconnectDevice =>
              obtain ⟨devices, response, halone, -, rfl, -⟩ := handleDevice_eq_some_iff.mp h
              have htrail : devices.auditTrail = s.auditTrail :=
                DeviceRuntime.auditTrail_handleAlone (fun _ _ heq ↦ by cases heq) halone
              exact ⟨htrail ▸ List.prefix_rfl, fun _ ↦ congrArg RowTable.rows htrail⟩
          | _ => cases hcall
      case h_3 => cases hescapes

/-! ## A device that nobody is said to have added -/

def operatorClaims : Claims := newClaims 0 "session-1" "user-2" "operator" "operator"

/-- A reactor with a Modbus interface. -/
def reactorRequest : AddDeviceRequest where
  id := "reactor"
  name := "Reactor 1"
  address := "192.168.1.10:502"
  protocol := "modbus"
  pollRateMs := none
  registerStart := 1024
  registerCount := 16
  writable := [1029]

/-- A server with empty tables. -/
def emptyServer : ServerState := init [] [] .empty .empty .empty

/-- The operator adds the reactor: the request succeeds and leaves no entry. -/
theorem addedReactor_unaudited :
    ∃ t answer, Handled (fun _ ↦ true) true ⟨Char.isUpper, Char.isLower⟩ emptyServer
        [.request (.passed operatorClaims) (.addDevice reactorRequest) 0] emptyServer
        (.passed operatorClaims) (.addDevice reactorRequest) 0 t answer ∧
      answer.success ∧ (t.devices.registry "reactor").isSome ∧ t.auditTrail.rows = [] ∧
      ¬emptyServer.Audited t (.passed operatorClaims) (.addDevice reactorRequest) 0 answer := by
  have hsome : (emptyServer.handle (fun _ ↦ true) true ⟨Char.isUpper, Char.isLower⟩
      (.passed operatorClaims) (.addDevice reactorRequest) 0).any fun result ↦
        result.2.success && (result.1.devices.registry "reactor").isSome &&
          result.1.auditTrail.rows.isEmpty := by
    decide
  obtain ⟨⟨t, answer⟩, hhandle, htest⟩ := (Option.any_eq_true _ _).mp hsome
  simp only [Bool.and_eq_true, List.isEmpty_iff] at htest
  refine ⟨t, answer, ⟨[], [], rfl, rfl, hhandle⟩, htest.1.1, htest.1.2, htest.2, ?_⟩
  have hidle : emptyServer.devices.Idle :=
    (DeviceRuntime.idle_init [] []).withTrail .empty
  rw [audited_iff hidle hhandle]
  decide

end ServerState

end VyuhHmi
