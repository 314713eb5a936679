import VyuhHmi.Server.Accounts
import VyuhHmi.Server.JsonText

/-!
# What the audit trail says of accounts

The trail names the creator of an account after the account is there.  In between the client may go
away, and the entry is then never written; a failure to write it is ignored.  Entries about accounts
that do not exist are never written.
-/

open Transition Lineage

namespace VyuhHmi

/-- The entry says that a user with this id and name has created the account. -/
structure AuditEntry.Tells (entry : AuditEntry) (userId username : String) (user : User) : Prop where
  action : entry.action = "create_user"
  userId : entry.userId = userId
  username : entry.username = username
  details : entry.details = createdDetails user.username user.role

/-- An entry about an account is about no other account of the table. -/
theorem AuditEntry.Tells.unique {users : UserTable} {entry : AuditEntry}
    {userId username : String} {user other : User}
    (h : entry.Tells userId username user) (hother : entry.Tells userId username other)
    (hmem : user ∈ users.rows) (hmem' : other ∈ users.rows) : other = user := by
  have hname := (createdDetails_inj (hother.details.symm.trans h.details)).1
  exact List.inj_on_of_nodup_map users.uniqueUsername hmem' hmem hname

/-- Entries are added, none of them about a new account. -/
def AuditTable.Keeps (trail trail' : AuditTable) : Prop :=
  ∃ added, trail'.rows = trail.rows ++ added ∧ ∀ entry ∈ added, entry.action ≠ "create_user"

theorem AuditTable.Keeps.refl (trail : AuditTable) : AuditTable.Keeps trail trail :=
  ⟨[], (List.append_nil _).symm, fun _ h ↦ by cases h⟩

theorem keeps_logAudit (trail : AuditTable) (userId username : String) {action : String}
    (deviceId : Option String) (details : String) (ipAddress : Option String) (now : Instant)
    (haction : action ≠ "create_user") :
    AuditTable.Keeps trail
      (logAudit trail userId username action deviceId details ipAddress now) := by
  refine ⟨_, rows_logAudit trail userId username action deviceId details ipAddress now, ?_⟩
  intro entry hentry
  rw [List.mem_singleton.mp hentry]
  exact haction

namespace AuthRuntime

variable {jwt : Jwt} {verifyPassword : String → String → Bool} {s t : AuthRuntime jwt} {i : ℕ}

theorem keeps_login {req : LoginRequest} {phase : AuthPhase jwt}
    (hstep : s.login i verifyPassword req phase = some t) :
    AuditTable.Keeps s.auditTrail t.auditTrail := by
  unfold login at hstep
  split at hstep
  case h_5 issued =>
      cases hstep
      exact keeps_logAudit _ _ _ _ _ _ _ (by decide)
  case h_6 => cases hstep
  all_goals
    cases hstep
    exact .refl _

theorem keeps_logout {headers : Headers} {phase : AuthPhase jwt}
    (hstep : s.logout i headers phase = some t) :
    AuditTable.Keeps s.auditTrail t.auditTrail := by
  unfold logout at hstep
  split at hstep
  case h_3 claims =>
      cases hstep
      exact keeps_logAudit _ _ _ _ _ _ _ (by decide)
  case h_4 => cases hstep
  all_goals
    cases hstep
    exact .refl _

/-- Logins and logouts are all that is written here. -/
theorem keeps_step {label : Label} (hstep : step verifyPassword s label = some t) :
    AuditTable.Keeps s.auditTrail t.auditTrail := by
  cases label with
  | tick now =>
      simp only [step] at hstep
      split at hstep
      case isTrue =>
          cases hstep
          exact .refl _
      case isFalse => cases hstep
  | setUsers users | arrive call =>
      cases hstep
      exact .refl _
  | advance i =>
      obtain ⟨⟨call, phase⟩, -, hadvance⟩ := Option.bind_eq_some_iff.mp hstep
      cases call with
      | login req => exact keeps_login hadvance
      | logout headers => exact keeps_logout hadvance
      | checkToken route headers =>
          simp only [checkToken] at hadvance
          split at hadvance
          case h_3 => cases hadvance
          all_goals
            cases hadvance
            exact .refl _
  | failQuery i =>
      obtain ⟨request, -, hfail⟩ := Option.bind_eq_some_iff.mp hstep
      split at hfail
      case h_1 =>
          cases hfail
          exact .refl _
      case h_2 => cases hfail
  | issueToken i sessionId =>
      obtain ⟨request, -, hissue⟩ := Option.bind_eq_some_iff.mp hstep
      split at hissue
      case h_1 =>
          split at hissue
          all_goals
            cases hissue
            exact .refl _
      case h_2 => cases hissue
  | cancel i =>
      obtain ⟨request, -, hcancel⟩ := Option.bind_eq_some_iff.mp hstep
      split at hcancel
      case h_1 => cases hcancel
      case h_2 =>
          cases hcancel
          exact .refl _

end AuthRuntime

namespace AccountServer

abbrev auditTrail {jwt : Jwt} (s : AccountServer jwt) : AuditTable := s.auth.auditTrail

variable {jwt : Jwt} {foreign : String → Prop} {verifyPassword : String → String → Bool}
  {classes : CharClasses} {s t : AccountServer jwt} {users : UserTable} {auditTrail : AuditTable}
  {i : ℕ} {creation : Creation}

/-! ## Entries -/

/-- **Entries.** What has been created is in the table, with its creator, and an entry of the trail
about a new account tells of such a creation, unless the trail had it at the start. -/
structure Genuine (auditTrail : AuditTable) (s : AccountServer jwt) : Prop where
  listed : ∀ claims user, (claims, user) ∈ s.created → user ∈ s.auth.users.rows ∧
    ∃ admin ∈ s.auth.users.rows, admin.role = "admin" ∧ admin.Holds claims
  inserted : ∀ (i : ℕ) creation, s.creations[i]? = some creation → ∀ user,
    creation.phase = .auditing user → (creation.claims, user) ∈ s.created
  told : ∀ entry ∈ s.auditTrail.rows, entry.action = "create_user" → entry ∈ auditTrail.rows ∨
    ∃ claims user, (claims, user) ∈ s.created ∧ entry.Tells claims.userId claims.sub user

theorem genuine_init (jwt : Jwt) (now : Instant) (users : UserTable) (auditTrail : AuditTable) :
    (init jwt now users auditTrail).Genuine auditTrail where
  listed := fun _ _ h ↦ by cases h
  inserted := fun _ _ h ↦ by cases h
  told := fun entry hentry _ ↦ .inl hentry

/-- A call of `create_user` moves to a phase in which it has nothing to write. -/
theorem Genuine.setPhase (h : s.Genuine auditTrail) {phase : CreatePhase}
    (hphase : ∀ user, phase = .auditing user → ∀ creation, s.creations[i]? = some creation →
      (creation.claims, user) ∈ s.created) : (s.setPhase i phase).Genuine auditTrail where
  listed := h.listed
  inserted := by
    refine ListUpdate.forall_modify (fun j other _ ↦ h.inserted j other) fun other hother ↦ ?_
    exact fun user hauditing ↦ hphase user hauditing other hother
  told := h.told

theorem Genuine.keeps (h : s.Genuine auditTrail) {auth : AuthRuntime jwt}
    (husers : auth.users = s.auth.users) (hkeeps : s.auditTrail.Keeps auth.auditTrail) :
    Genuine auditTrail { s with auth := auth } := by
  obtain ⟨added, hrows, hadded⟩ := hkeeps
  refine ⟨?_, h.inserted, ?_⟩
  · intro claims user hcreated
    rw [husers]
    exact h.listed claims user hcreated
  · intro entry hentry haction
    rw [hrows] at hentry
    rcases List.mem_append.mp hentry with hold | hnew
    · exact h.told entry hold haction
    · exact absurd haction (hadded entry hnew)

/-- The account is added. -/
theorem Genuine.addUser (h : s.Genuine auditTrail) {claims : Claims} {user : User}
    (hfresh : s.auth.users.conflicts user = false)
    (hadmin : ∃ admin ∈ s.auth.users.rows, admin.role = "admin" ∧ admin.Holds claims) :
    (s.addUser claims user hfresh).Genuine auditTrail where
  listed := by
    intro claims' user' hcreated
    rcases List.mem_append.mp hcreated with hold | hnew
    · obtain ⟨hmem, admin, hadmin', hrest⟩ := h.listed claims' user' hold
      exact ⟨List.mem_append_left _ hmem, admin, List.mem_append_left _ hadmin', hrest⟩
    · obtain ⟨rfl, rfl⟩ := Prod.mk.inj (List.mem_singleton.mp hnew)
      obtain ⟨admin, hmem, hrest⟩ := hadmin
      exact ⟨List.mem_append_right _ (List.mem_singleton_self _), admin,
        List.mem_append_left _ hmem, hrest⟩
  inserted := fun j other hother user' hauditing ↦
    List.mem_append_left _ (h.inserted j other hother user' hauditing)
  told := by
    intro entry hentry haction
    rcases h.told entry hentry haction with hold | ⟨claims', user', hcreated, htells⟩
    · exact .inl hold
    · exact .inr ⟨claims', user', List.mem_append_left _ hcreated, htells⟩

/-- The entry is written. -/
theorem Genuine.logCreated (h : s.Genuine auditTrail) {claims : Claims} {user : User}
    (hcreated : (claims, user) ∈ s.created) : (s.logCreated claims user).Genuine auditTrail where
  listed := h.listed
  inserted := h.inserted
  told := by
    intro entry hentry haction
    rcases List.mem_append.mp hentry with hold | hnew
    · exact h.told entry hold haction
    · obtain rfl := List.mem_singleton.mp hnew
      exact .inr ⟨claims, user, hcreated, rfl, rfl, rfl, rfl⟩

/-- **Step lemma.** -/
theorem genuine_effect (hjwt : jwt.Lawful) (hsound : s.Sound foreign users)
    (h : s.Genuine auditTrail) {label : AccountLabel} (heffect : Effect verifyPassword s label t) : t.Genuine auditTrail := by
  cases heffect with
  | auth hlabel hstep =>
      obtain ⟨-, husers⟩ :=
        AuthRuntime.identified_step hjwt hsound.tracked hsound.identified hlabel hstep
      exact h.keeps husers (AuthRuntime.keeps_step hstep)
  | start hrequest =>
      refine ⟨h.listed, ListUpdate.forall_append_singleton h.inserted ?_, h.told⟩
      exact fun user hauditing ↦ by cases hauditing
  | move phase _ hphase => exact h.setPhase fun user huser ↦ absurd huser (hphase user)
  | @insert i creation user hcreation hphase hfresh =>
      refine (h.addUser hfresh (hsound.authorised i _ hcreation)).setPhase ?_
      intro user' huser other hother
      obtain rfl := CreatePhase.auditing.inj huser
      obtain rfl := Option.some.inj (hcreation.symm.trans hother)
      exact List.mem_append_right _ (List.mem_singleton_self _)
  | @audit i creation user hcreation hphase =>
      refine (h.logCreated (h.inserted i _ hcreation user hphase)).setPhase ?_
      exact fun user huser ↦ by cases huser
  | log userId username deviceId details ipAddress haction =>
      exact h.keeps rfl (keeps_logAudit _ _ _ _ _ _ _ haction)

theorem genuine_of_run (hjwt : jwt.Lawful) {now : Instant} {labels : List AccountLabel}
    (hrun : Run (guarded (Assumed foreign) (ofOption (step verifyPassword classes)))
      (init jwt now users auditTrail) labels s) :
    s.Sound foreign users ∧ s.Genuine auditTrail := by
  apply @Run.invariant _ _ _ _ _ (fun u ↦ u.Sound foreign users ∧ u.Genuine auditTrail) _ _ _ hrun
  · exact ⟨sound_init foreign now users auditTrail, genuine_init jwt now users auditTrail⟩
  · intro u label v ⟨hsound, hgenuine⟩ hnext
    have heffect := effect_of_step hnext.2
    exact ⟨sound_effect hjwt hnext.1 hsound heffect, genuine_effect hjwt hsound hgenuine heffect⟩

/-- **No invented accounts.** An entry about a new account that is written while the server runs
gives the name and the role of exactly one account of the table, and the id and the name of an
active admin account of the table as its creator. -/
theorem entries_genuine (hjwt : jwt.Lawful) {now : Instant} {labels : List AccountLabel}
    (hrun : Run (guarded (Assumed foreign) (ofOption (step verifyPassword classes)))
      (init jwt now users auditTrail) labels s) :
    ∀ entry ∈ s.auditTrail.rows, entry.action = "create_user" → entry ∈ auditTrail.rows ∨
      ∃ admin ∈ s.auth.users.rows, ∃ user ∈ s.auth.users.rows, admin.role = "admin" ∧
        admin.isActive ∧ entry.Tells admin.id admin.username user ∧
        ∀ other ∈ s.auth.users.rows, entry.Tells admin.id admin.username other → other = user := by
  intro entry hentry haction
  obtain ⟨-, hgenuine⟩ := genuine_of_run hjwt hrun
  rcases hgenuine.told entry hentry haction with hold | ⟨claims, user, hcreated, htells⟩
  · exact .inl hold
  · obtain ⟨hmem, admin, hadmin, hrole, hholds⟩ := hgenuine.listed claims user hcreated
    rw [hholds.userId, hholds.username] at htells
    exact .inr ⟨admin, hadmin, user, hmem, hrole, hholds.active, htells,
      fun other hother htells' ↦ htells.unique htells' hmem hother⟩

theorem entries_genuine_supervisorRun : ∃ s : AccountServer (soleJwt adminClaims),
    s.supervised ∧ ∀ entry ∈ s.auditTrail.rows, entry.action = "create_user" →
      ∃ admin ∈ s.auth.users.rows, ∃ user ∈ s.auth.users.rows, admin.role = "admin" ∧
        admin.isActive ∧ entry.Tells admin.id admin.username user := by
  obtain ⟨s, hrun, htest⟩ := exists_supervisorRun
  refine ⟨s, htest, fun entry hentry haction ↦ ?_⟩
  rcases entries_genuine (lawful_soleJwt _) (hrun.mono fun _ _ _ hnext ↦
    ⟨assumed_of_orderly hnext.1, hnext.2⟩) entry hentry haction with
    hold | ⟨admin, hadmin, user, huser, hrole, hactive, htells, -⟩
  · cases hold
  · exact ⟨admin, hadmin, user, huser, hrole, hactive, htells⟩

/-! ## Records -/

/-- The entry of a new account is written: its `INSERT` succeeds, and the client does not go away
before it. -/
def KeepsRecord (s : AccountServer jwt) : AccountLabel → Prop
  | .audit _ written => written
  | .cancel i => ∀ creation, s.creations[i]? = some creation →
      ∀ user, creation.phase ≠ .auditing user
  | _ => True

/-- The entry about an account is next. -/
def Pending (s : AccountServer jwt) (claims : Claims) (user : User) : Prop :=
  ∃ (i : ℕ) (creation : Creation), s.creations[i]? = some creation ∧ creation.claims = claims ∧
    creation.phase = .auditing user

def Told (s : AccountServer jwt) (claims : Claims) (user : User) : Prop :=
  ∃ entry ∈ s.auditTrail.rows, entry.Tells claims.userId claims.sub user

/-- **Records.** -/
def Recorded (s : AccountServer jwt) : Prop :=
  ∀ claims user, (claims, user) ∈ s.created → s.Told claims user ∨ s.Pending claims user

theorem Told.mono (hrows : s.auditTrail.rows ⊆ t.auditTrail.rows) {claims : Claims} {user : User}
    (h : s.Told claims user) : t.Told claims user := by
  obtain ⟨entry, hentry, htells⟩ := h
  exact ⟨entry, hrows hentry, htells⟩

/-- Another call goes on. -/
theorem Pending.setPhase {claims : Claims} {user : User} (h : s.Pending claims user)
    (hother : ∀ creation, s.creations[i]? = some creation → creation.claims = claims →
      creation.phase ≠ .auditing user) (phase : CreatePhase) :
    (s.setPhase i phase).Pending claims user := by
  obtain ⟨j, creation, hcreation, hclaims, hphase⟩ := h
  refine ⟨j, creation, ?_, hclaims, hphase⟩
  have hji : i ≠ j := by
    rintro rfl
    exact hother creation hcreation hclaims hphase
  exact (List.getElem?_modify_ne _ _ hji).trans hcreation

theorem Recorded.keeps (h : s.Recorded) {auth : AuthRuntime jwt}
    (hkeeps : s.auditTrail.Keeps auth.auditTrail) : Recorded { s with auth := auth } := by
  intro claims user hcreated
  obtain ⟨added, hrows, -⟩ := hkeeps
  rcases h claims user hcreated with htold | hpending
  · exact .inl (htold.mono (t := { s with auth := auth }) (hrows ▸ List.subset_append_left _ _))
  · exact .inr hpending

theorem Recorded.setPhase (h : s.Recorded)
    (hother : ∀ creation, s.creations[i]? = some creation → ∀ user, creation.phase ≠ .auditing user)
    (phase : CreatePhase) : (s.setPhase i phase).Recorded := by
  intro claims user hcreated
  rcases h claims user hcreated with htold | hpending
  · exact .inl htold
  · exact .inr (hpending.setPhase (fun creation hcreation _ ↦ hother creation hcreation user) phase)

/-- **Step lemma.** -/
theorem recorded_effect {label : AccountLabel} (hkeeps : s.KeepsRecord label) (h : s.Recorded)
    (heffect : Effect verifyPassword s label t) : t.Recorded := by
  cases heffect with
  | auth hlabel hstep => exact h.keeps (AuthRuntime.keeps_step hstep)
  | start hrequest =>
      intro claims user hcreated
      rcases h claims user hcreated with htold | ⟨i, creation, hcreation, hrest⟩
      · exact .inl htold
      · have hlt := (List.getElem?_eq_some_iff.mp hcreation).1
        exact .inr ⟨i, creation, (List.getElem?_append_left hlt).trans hcreation, hrest⟩
  | @move label i creation phase hcreation _ hauditing =>
      refine h.setPhase (fun other hother user huser ↦ ?_) phase
      obtain rfl := Option.some.inj (hcreation.symm.trans hother)
      rcases hauditing user huser with rfl | rfl
      · exact hkeeps creation hcreation user huser
      · cases hkeeps
  | @insert i creation user hcreation hphase hfresh =>
      intro claims' user' hcreated
      rcases List.mem_append.mp hcreated with hold | hnew
      · rcases h claims' user' hold with htold | hpending
        · exact .inl htold
        · refine .inr (Pending.setPhase (s := s.addUser creation.claims user hfresh) hpending ?_ _)
          intro other hother _ hauditing
          obtain rfl := Option.some.inj (hcreation.symm.trans hother)
          rw [hphase] at hauditing
          cases hauditing
      · obtain ⟨rfl, rfl⟩ := Prod.mk.inj (List.mem_singleton.mp hnew)
        refine .inr ⟨i, { creation with phase := .auditing user' }, ?_, rfl, rfl⟩
        exact (ListUpdate.getElem?_modify_of_some hcreation _).trans (if_pos rfl)
  | @audit i creation user hcreation hphase =>
      intro claims' user' hcreated
      have htrail : s.auditTrail.rows ⊆ (s.logCreated creation.claims user).auditTrail.rows :=
        List.subset_append_left _ _
      rcases h claims' user' hcreated with htold | hpending
      · exact .inl (htold.mono (t := s.logCreated creation.claims user) htrail)
      · by_cases hthis : creation.claims = claims' ∧ user = user'
        · obtain ⟨rfl, rfl⟩ := hthis
          exact .inl ⟨_, List.mem_append_right _ (List.mem_singleton_self _), rfl, rfl, rfl, rfl⟩
        · refine .inr (Pending.setPhase (s := s.logCreated creation.claims user) hpending ?_ _)
          intro other hother hclaims hauditing
          obtain rfl := Option.some.inj (hcreation.symm.trans hother)
          rw [hphase] at hauditing
          exact hthis ⟨hclaims, CreatePhase.auditing.inj hauditing⟩
  | log userId username deviceId details ipAddress haction =>
      exact h.keeps (keeps_logAudit _ _ _ _ _ _ _ haction)

/-- The trail names the admin account as the creator of the user. -/
def NamedBy (s : AccountServer jwt) (admin user : User) : Prop :=
  admin ∈ s.auth.users.rows ∧ admin.role = "admin" ∧ admin.isActive ∧
    ∃ entry ∈ s.auditTrail.rows, entry.Tells admin.id admin.username user

/-- **Accountability.** Where entries can be written and clients stay until they are, and no entry
is still to come, the audit trail alone gives for every account a chain of active admin accounts to
it from one that was there at the start. -/
theorem accounts_recorded (hjwt : jwt.Lawful) {now : Instant} {labels : List AccountLabel}
    (hrun : Run (guarded (fun s label ↦ s.Assumed foreign label ∧ s.KeepsRecord label)
      (ofOption (step verifyPassword classes))) (init jwt now users auditTrail) labels s)
    (hrest : ∀ creation ∈ s.creations, ∀ user, creation.phase ≠ .auditing user) :
    ∀ user ∈ s.auth.users.rows, Descends s.NamedBy users.rows user := by
  have hrecorded : s.Recorded :=
    hrun.invariant (fun _ _ h ↦ by cases h) fun _ _ _ hu hnext ↦
      recorded_effect hnext.1.2 hu (effect_of_step hnext.2)
  have hsound : s.Sound foreign users :=
    sound_of_run hjwt (hrun.mono fun _ _ _ hnext ↦ ⟨hnext.1.1, hnext.2⟩)
  intro user hmem
  refine (hsound.grown.descends user hmem).mono fun admin user hcreated ↦ ?_
  obtain ⟨hadmin, hrole, claims, hclaims, hholds⟩ := hcreated
  rcases hrecorded claims user hclaims with ⟨entry, hentry, htells⟩ | ⟨i, creation, hcreation, -, hphase⟩
  · rw [hholds.userId, hholds.username] at htells
    exact ⟨hadmin, hrole, hholds.active, entry, hentry, htells⟩
  · exact absurd hphase (hrest creation (List.mem_of_getElem? hcreation) user)

theorem keepsRecord_of_orderly {label : AccountLabel} (h : s.orderly label) :
    s.KeepsRecord label := by
  cases label with
  | audit i written => exact h
  | cancel i => cases h
  | _ => trivial

theorem accounts_recorded_supervisorRun : ∃ s : AccountServer (soleJwt adminClaims),
    s.supervised ∧ ∀ user ∈ s.auth.users.rows, Descends s.NamedBy installedUsers.rows user := by
  obtain ⟨s, hrun, htest⟩ := exists_supervisorRun
  refine ⟨s, htest, accounts_recorded (lawful_soleJwt _) (hrun.mono fun _ _ _ hnext ↦
    ⟨⟨assumed_of_orderly hnext.1, keepsRecord_of_orderly hnext.1⟩, hnext.2⟩) ?_⟩
  intro creation hcreation user hphase
  have hall := List.all_eq_true.mp ((Bool.and_eq_true _ _).mp htest).2 creation hcreation
  rw [hphase] at hall
  cases hall

end AccountServer

end VyuhHmi
