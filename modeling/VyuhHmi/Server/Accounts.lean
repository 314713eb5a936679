import VyuhHmi.Auth.Identity
import VyuhHmi.Foundation.Lineage
import VyuhHmi.Server.Routes

/-!
# Who creates accounts

`create_user` reads the body, inserts the row and writes the audit entry.  It is suspended in
between, beside logins, logouts, token checks and other calls of itself, and its client may go away
at any time.  Accounts come from nowhere else once the server runs.
-/

open Transition Lineage

namespace VyuhHmi

/-! ## Creating a user -/

/-- Where `create_user` is suspended, with the row it is about to insert or has inserted. -/
inductive CreatePhase
  | reading
  | inserting (user : User)
  | auditing (user : User)
  | answered (reply : AuthReply)
  | dropped
deriving DecidableEq

/-- A call of `create_user`: its request, the claims that `require_admin` has passed on, and how far
it is. -/
structure Creation where
  request : ℕ
  claims : Claims
  phase : CreatePhase
deriving DecidableEq

/-- `create_user` up to its `INSERT`. -/
def readBody (classes : CharClasses) (body : Body CreateUserRequest) (userId : String)
    (hash : Except String String) (now : Instant) : CreatePhase :=
  match body with
  | .unreadable => .answered (.fail .badRequest "Invalid request body")
  | .invalid e => .answered (.fail .badRequest ("Invalid JSON: " ++ e))
  | .parsed req =>
      if req.role ∉ ServerState.userRoles then
        .answered (.fail .badRequest "Role must be viewer, operator, or admin")
      else
        match validatePasswordComplexity classes req.password, hash with
        | .error msg, _ => .answered (.fail .badRequest msg)
        | .ok (), .error e => .answered (.fail .internalServerError e)
        | .ok (), .ok hash => .inserting (ServerState.createdUser req userId hash now)

/-! ## A new database -/

/-- An `INSERT` of `init_auth_tables`, whose error is ignored. -/
def seedUser (failed : String → Bool) (users : UserTable) (user : User) : UserTable :=
  if hfresh : users.conflicts user = false then
    if failed user.username then users else users.insertFresh user hfresh
  else users

def defaultUsers (hashPassword : String → String) (adminId opId vId : String) (now : Instant) :
    List User :=
  [⟨adminId, "admin", hashPassword "admin123", "admin", now, true⟩,
    ⟨opId, "operator", hashPassword "operator123", "operator", now, true⟩,
    ⟨vId, "viewer", hashPassword "viewer123", "viewer", now, true⟩]

/-- Seed default users if no users exist; a count that fails reads as zero. -/
def initAuthTables (hashPassword : String → String) (adminId opId vId : String) (counted : Bool)
    (failed : String → Bool) (now : Instant) (users : UserTable) : UserTable :=
  if counted && !users.rows.isEmpty then users
  else (defaultUsers hashPassword adminId opId vId now).foldl (seedUser failed) users

theorem mem_foldl_seedUser {failed : String → Bool} {added : List User} {users : UserTable}
    {user : User} (h : user ∈ (added.foldl (seedUser failed) users).rows) :
    user ∈ users.rows ∨ user ∈ added := by
  induction added generalizing users with
  | nil => exact .inl h
  | cons first rest ih =>
      rcases ih h with hold | hrest
      · unfold seedUser at hold
        split at hold
        case isTrue =>
            split at hold
            case isTrue => exact .inl hold
            case isFalse =>
                rcases List.mem_append.mp hold with hbefore | hnew
                · exact .inl hbefore
                · exact .inr (List.mem_cons.mpr (.inl (List.mem_singleton.mp hnew)))
        case isFalse => exact .inl hold
      · exact .inr (List.mem_cons_of_mem _ hrest)

/-! ## The system -/

/-- The server's accounts, with the calls of `create_user`.  `created` is history: the accounts that
have been created, each with the claims of the request that did. -/
structure AccountServer (jwt : Jwt) where
  auth : AuthRuntime jwt
  creations : List Creation
  created : List (Claims × User)

inductive AccountLabel
  | auth (label : AuthRuntime.Label)
  /-- A request that has passed `require_admin` reaches `create_user`. -/
  | createUser (request : ℕ)
  | readBody (creation : ℕ) (body : Body CreateUserRequest) (userId : String)
      (hash : Except String String)
  | insert (creation : ℕ) (failure : Option String)
  /-- `log_audit` ignores a failure of its `INSERT`. -/
  | audit (creation : ℕ) (written : Bool)
  /-- The client goes away. -/
  | cancel (creation : ℕ)
  /-- Another handler writes to the audit trail. -/
  | log (userId username action : String) (deviceId : Option String) (details : String)
      (ipAddress : Option String)

namespace AccountServer

variable {jwt : Jwt}

def init (jwt : Jwt) (now : Instant) (users : UserTable) (auditTrail : AuditTable) :
    AccountServer jwt where
  auth := .init jwt now users auditTrail
  creations := []
  created := []

section Handlers

variable (s : AccountServer jwt)

def setPhase (i : ℕ) (phase : CreatePhase) : AccountServer jwt :=
  { s with creations := s.creations.modify i fun creation ↦ { creation with phase := phase } }

def setAuditTrail (auditTrail : AuditTable) : AccountServer jwt :=
  { s with auth := { s.auth with auditTrail := auditTrail } }

/-- The row is inserted. -/
def addUser (claims : Claims) (user : User) (hfresh : s.auth.users.conflicts user = false) :
    AccountServer jwt :=
  { s with
    auth := { s.auth with users := s.auth.users.insertFresh user hfresh }
    created := s.created ++ [(claims, user)] }

/-- The `INSERT` of `create_user`. -/
def insertUser (i : ℕ) (claims : Claims) (user : User) (failure : Option String) :
    AccountServer jwt :=
  match failure with
  | some e => s.setPhase i (.answered (.fail .conflict (ServerState.insertError user.username e)))
  | none =>
      if hfresh : s.auth.users.conflicts user = false then
        (s.addUser claims user hfresh).setPhase i (.auditing user)
      else
        s.setPhase i
          (.answered (.fail .conflict ("Username '" ++ user.username ++ "' already exists")))

/-- The audit entry of `create_user`. -/
def logCreated (claims : Claims) (user : User) : AccountServer jwt :=
  s.setAuditTrail (logAudit s.auth.auditTrail claims.userId claims.sub "create_user" none
    (createdDetails user.username user.role) none s.auth.now)

/-- The answer of `create_user`. -/
def createdReply (user : User) : AuthReply :=
  ⟨.created, true, some (.created ⟨user.id, user.username, user.role⟩), none⟩

end Handlers

/-- One step of the server or its environment. -/
def step (verifyPassword : String → String → Bool) (classes : CharClasses) (s : AccountServer jwt) :
    AccountLabel → Option (AccountServer jwt)
  | .auth label =>
      if label.isSetUsers then none
      else (s.auth.step verifyPassword label).map fun auth ↦ { s with auth := auth }
  | .createUser request =>
      match s.auth.requests[request]? with
      | some ⟨.checkToken .requireAdmin _, .done (.passed claims)⟩ =>
          if request ∈ s.creations.map Creation.request then none
          else some { s with creations := s.creations ++ [⟨request, claims, .reading⟩] }
      | _ => none
  | .readBody i body userId hash =>
      match s.creations[i]? with
      | some ⟨_, _, .reading⟩ =>
          some (s.setPhase i (VyuhHmi.readBody classes body userId hash s.auth.now))
      | _ => none
  | .insert i failure =>
      match s.creations[i]? with
      | some ⟨_, claims, .inserting user⟩ => some (s.insertUser i claims user failure)
      | _ => none
  | .audit i written =>
      match s.creations[i]? with
      | some ⟨_, claims, .auditing user⟩ =>
          some ((if written then s.logCreated claims user else s).setPhase i
            (.answered (createdReply user)))
      | _ => none
  | .cancel i =>
      match s.creations[i]? with
      | some ⟨_, _, .answered _⟩ | some ⟨_, _, .dropped⟩ | none => none
      | some _ => some (s.setPhase i .dropped)
  | .log userId username action deviceId details ipAddress =>
      if action = "create_user" then none
      else
        some (s.setAuditTrail (logAudit s.auth.auditTrail userId username action deviceId details
          ipAddress s.auth.now))

/-! ## What a step can do -/

variable {foreign : String → Prop} {verifyPassword : String → String → Bool} {classes : CharClasses}
  {s t : AccountServer jwt} {i : ℕ} {creation : Creation}

/-- The cases of a step. -/
inductive Effect (verifyPassword : String → String → Bool) (s : AccountServer jwt) :
    AccountLabel → AccountServer jwt → Prop
  | auth {label : AuthRuntime.Label} {auth : AuthRuntime jwt} (hlabel : label.isSetUsers = false)
      (hstep : s.auth.step verifyPassword label = some auth) :
      Effect verifyPassword s (.auth label) { s with auth := auth }
  | start {request : ℕ} {headers : Headers} {claims : Claims}
      (hrequest : s.auth.requests[request]? =
        some ⟨.checkToken .requireAdmin headers, .done (.passed claims)⟩) :
      Effect verifyPassword s (.createUser request)
        { s with creations := s.creations ++ [⟨request, claims, .reading⟩] }
  | move {label : AccountLabel} {i : ℕ} {creation : Creation} (phase : CreatePhase)
      (hcreation : s.creations[i]? = some creation) (hphase : ∀ user, phase ≠ .auditing user)
      (hauditing : ∀ user, creation.phase = .auditing user →
        label = .cancel i ∨ label = .audit i false) :
      Effect verifyPassword s label (s.setPhase i phase)
  | insert {i : ℕ} {creation : Creation} {user : User} (hcreation : s.creations[i]? = some creation)
      (hphase : creation.phase = .inserting user) (hfresh : s.auth.users.conflicts user = false) :
      Effect verifyPassword s (.insert i none)
        ((s.addUser creation.claims user hfresh).setPhase i (.auditing user))
  | audit {i : ℕ} {creation : Creation} {user : User} (hcreation : s.creations[i]? = some creation)
      (hphase : creation.phase = .auditing user) :
      Effect verifyPassword s (.audit i true)
        ((s.logCreated creation.claims user).setPhase i (.answered (createdReply user)))
  | log {label : AccountLabel} (userId username : String) {action : String}
      (deviceId : Option String) (details : String) (ipAddress : Option String)
      (haction : action ≠ "create_user") :
      Effect verifyPassword s label (s.setAuditTrail (logAudit s.auth.auditTrail userId username
        action deviceId details ipAddress s.auth.now))

theorem readBody_ne_auditing {body : Body CreateUserRequest} {userId : String}
    {hash : Except String String} {now : Instant} {user : User} :
    readBody classes body userId hash now ≠ .auditing user := by
  unfold readBody
  repeat' split
  all_goals exact CreatePhase.noConfusion

theorem effect_insertUser {claims : Claims} {user : User} {failure : Option String} {request : ℕ}
    (hcreation : s.creations[i]? = some ⟨request, claims, .inserting user⟩) :
    Effect verifyPassword s (.insert i failure) (s.insertUser i claims user failure) := by
  unfold insertUser
  split
  case h_1 e => exact .move _ hcreation (fun _ h ↦ by cases h) fun _ h ↦ by cases h
  case h_2 =>
      split
      case isTrue hfresh => exact .insert hcreation rfl hfresh
      case isFalse => exact .move _ hcreation (fun _ h ↦ by cases h) fun _ h ↦ by cases h

/-- **Inversion of a step.** -/
theorem effect_of_step {label : AccountLabel} (h : step verifyPassword classes s label = some t) :
    Effect verifyPassword s label t := by
  cases label with
  | auth label =>
      simp only [step] at h
      split at h
      case isTrue => cases h
      case isFalse hlabel =>
          obtain ⟨auth, hstep, rfl⟩ := Option.map_eq_some_iff.mp h
          exact .auth (Bool.eq_false_iff.mpr hlabel) hstep
  | createUser request =>
      simp only [step] at h
      split at h
      case h_1 hrequest =>
          split at h
          case isTrue => cases h
          case isFalse =>
              cases h
              exact .start hrequest
      case h_2 => cases h
  | readBody i body userId hash =>
      simp only [step] at h
      split at h
      case h_1 hcreation =>
          cases h
          exact .move _ hcreation (fun _ ↦ readBody_ne_auditing) fun _ h ↦ by cases h
      case h_2 => cases h
  | insert i failure =>
      simp only [step] at h
      split at h
      case h_1 hcreation =>
          cases h
          exact effect_insertUser hcreation
      case h_2 => cases h
  | audit i written =>
      simp only [step] at h
      split at h
      case h_1 hcreation =>
          cases h
          cases written with
          | true => exact .audit hcreation rfl
          | false => exact .move _ hcreation (fun _ h ↦ by cases h) fun _ _ ↦ .inr rfl
      case h_2 => cases h
  | cancel i =>
      simp only [step] at h
      split at h
      case h_4 creation hcreation =>
          cases h
          exact .move _ hcreation (fun _ h ↦ by cases h) fun _ _ ↦ .inl rfl
      all_goals cases h
  | log userId username action deviceId details ipAddress =>
      simp only [step] at h
      split at h
      case isTrue => cases h
      case isFalse haction =>
          cases h
          exact .log userId username deviceId details ipAddress haction

/-! ## One call alone -/

theorem getElem?_setPhase {request : ℕ} {claims : Claims} {phase : CreatePhase}
    (hcreation : s.creations[i]? = some ⟨request, claims, phase⟩) (phase' : CreatePhase) :
    (s.setPhase i phase').creations[i]? = some ⟨request, claims, phase'⟩ :=
  (ListUpdate.getElem?_modify_of_some hcreation _).trans (if_pos rfl)

theorem step_insert {request : ℕ} {claims : Claims} {user : User}
    (hcreation : s.creations[i]? = some ⟨request, claims, .inserting user⟩)
    (failure : Option String) : step verifyPassword classes s (.insert i failure) =
      some (s.insertUser i claims user failure) := by
  simp only [step, hcreation]

/-- A user whose id and name are free is inserted and audited. -/
theorem run_insert_audit {request : ℕ} {claims : Claims} {user : User}
    (hcreation : s.creations[i]? = some ⟨request, claims, .inserting user⟩)
    (hfresh : s.auth.users.conflicts user = false) :
    Run (ofOption (step verifyPassword classes)) s [.insert i none, .audit i true]
      ((((s.addUser claims user hfresh).setPhase i (.auditing user)).logCreated claims user).setPhase i
        (.answered (createdReply user))) := by
  have hinserted : s.insertUser i claims user none =
      (s.addUser claims user hfresh).setPhase i (.auditing user) := dif_pos hfresh
  have hadded := getElem?_setPhase (s := s.addUser claims user hfresh) hcreation (.auditing user)
  have hinsert : step verifyPassword classes s (.insert i none) = _ :=
    (step_insert hcreation none).trans (congrArg some hinserted)
  refine (Run.single hinsert).snoc ?_
  simp only [ofOption, step, hadded, if_true]

theorem step_insert_error {request : ℕ} {claims : Claims} {user : User}
    (hcreation : s.creations[i]? = some ⟨request, claims, .inserting user⟩) (e : String) :
    step verifyPassword classes s (.insert i (some e)) =
      some (s.setPhase i (.answered (.fail .conflict (ServerState.insertError user.username e)))) :=
  step_insert hcreation (some e)

theorem step_insert_conflict {request : ℕ} {claims : Claims} {user : User}
    (hcreation : s.creations[i]? = some ⟨request, claims, .inserting user⟩)
    (hconflict : ¬s.auth.users.conflicts user = false) :
    step verifyPassword classes s (.insert i none) = some (s.setPhase i
      (.answered (.fail .conflict ("Username '" ++ user.username ++ "' already exists")))) :=
  (step_insert hcreation none).trans (congrArg some (dif_neg hconflict))

/-- **One call alone.** The handler from its request to its answer is a run of these steps. -/
theorem exists_run_createUser (verifyPassword : String → String → Bool) {server server' : ServerState}
    {answer : Answer} (husers : server.users = s.auth.users)
    (htrail : server.auditTrail = s.auth.auditTrail) {request : ℕ} {claims : Claims}
    (hcreation : s.creations[i]? = some ⟨request, claims, .reading⟩)
    {body : Body CreateUserRequest} {userId : String} {hash : Except String String}
    {failure : Option String}
    (h : server.createUser classes claims body userId hash failure s.auth.now = (server', answer)) :
    ∃ labels t reply, Run (ofOption (step verifyPassword classes)) s labels t ∧
      answer = .auth reply ∧ t.creations[i]? = some ⟨request, claims, .answered reply⟩ ∧
      t.auth.users = server'.users ∧ t.auth.auditTrail = server'.auditTrail := by
  obtain ⟨devices, alarms, users⟩ := server
  obtain rfl : users = s.auth.users := husers
  have hread : step verifyPassword classes s (.readBody i body userId hash) =
      some (s.setPhase i (VyuhHmi.readBody classes body userId hash s.auth.now)) := by
    simp only [step, hcreation]
  have hnext := getElem?_setPhase hcreation (VyuhHmi.readBody classes body userId hash s.auth.now)
  unfold ServerState.createUser at h
  unfold VyuhHmi.readBody at hread hnext
  split at h
  case h_1 | h_2 =>
      cases h
      exact ⟨_, _, _, .single hread, rfl, hnext, rfl, htrail.symm⟩
  case h_3 req =>
      split at h
      case isTrue hrole =>
          cases h
          simp only [if_pos hrole] at hread hnext
          exact ⟨_, _, _, .single hread, rfl, hnext, rfl, htrail.symm⟩
      case isFalse hrole =>
          simp only [if_neg hrole] at hread hnext
          split at h
          case h_1 hvalid | h_2 hvalid =>
              cases h
              simp only [hvalid] at hread hnext
              exact ⟨_, _, _, .single hread, rfl, hnext, rfl, htrail.symm⟩
          case h_3 e hvalid =>
              cases h
              simp only [hvalid] at hread hnext
              exact ⟨_, _, _, (Run.single hread).snoc (step_insert_error hnext e), rfl,
                getElem?_setPhase hnext _, rfl, htrail.symm⟩
          case h_4 hvalid =>
              simp only [hvalid] at hread hnext
              split at h
              case isTrue hfresh =>
                  cases h
                  refine ⟨_, _, _, (Run.single hread).append (run_insert_audit hnext hfresh), rfl, ?_,
                    rfl, congrArg (logAudit · _ _ _ _ _ _ _) htrail.symm⟩
                  exact getElem?_setPhase (getElem?_setPhase hnext (.auditing _)) _
              case isFalse hconflict =>
                  cases h
                  exact ⟨_, _, _, (Run.single hread).snoc (step_insert_conflict hnext hconflict), rfl,
                    getElem?_setPhase hnext _, rfl, htrail.symm⟩

/-! ## The invariant -/

/-- What is assumed of tokens and session ids. -/
def Assumed (foreign : String → Prop) (s : AccountServer jwt) : AccountLabel → Prop
  | .auth label => s.auth.Assumed foreign label
  | _ => True

/-- An admin account of the table has created the user. -/
def Created (s : AccountServer jwt) (admin user : User) : Prop :=
  admin ∈ s.auth.users.rows ∧ admin.role = "admin" ∧
    ∃ claims, (claims, user) ∈ s.created ∧ admin.Holds claims

/-- **Accounts.** Every call of `create_user` acts for an admin account, and the table has grown from
its first rows by what admin accounts have created. -/
structure Sound (foreign : String → Prop) (users : UserTable) (s : AccountServer jwt) : Prop where
  tracked : s.auth.Tracked foreign
  identified : s.auth.Identified
  authorised : ∀ (i : ℕ) creation, s.creations[i]? = some creation →
    ∃ admin ∈ s.auth.users.rows, admin.role = "admin" ∧ admin.Holds creation.claims
  grown : Grown s.Created users.rows s.auth.users.rows

theorem Created.mono (hrows : s.auth.users.rows ⊆ t.auth.users.rows) (hcreated : s.created ⊆ t.created)
    {admin user : User} (h : s.Created admin user) : t.Created admin user := by
  obtain ⟨hmem, hrole, claims, hclaims, hholds⟩ := h
  exact ⟨hrows hmem, hrole, claims, hcreated hclaims, hholds⟩

theorem sound_init (foreign : String → Prop) (now : Instant) (users : UserTable)
    (auditTrail : AuditTable) : (init jwt now users auditTrail).Sound foreign users where
  tracked := AuthRuntime.tracked_init foreign now users auditTrail
  identified := AuthRuntime.identified_init now users auditTrail
  authorised := fun _ _ h ↦ by cases h
  grown := .start

variable {users : UserTable}

/-- A call of `create_user` goes on. -/
theorem Sound.setPhase (h : s.Sound foreign users) (i : ℕ) (phase : CreatePhase) :
    (s.setPhase i phase).Sound foreign users where
  tracked := h.tracked
  identified := h.identified
  authorised := by
    refine ListUpdate.forall_modify (fun j other _ ↦ h.authorised j other) fun other hother ↦ ?_
    exact h.authorised i other hother
  grown := h.grown

theorem Sound.setAuditTrail (h : s.Sound foreign users) (auditTrail : AuditTable) :
    (s.setAuditTrail auditTrail).Sound foreign users where
  tracked := { h.tracked with }
  identified := ⟨h.identified.signed, h.identified.phase⟩
  authorised := h.authorised
  grown := h.grown

/-- An account is added by a call of `create_user`. -/
theorem Sound.addUser (h : s.Sound foreign users) (hcreation : s.creations[i]? = some creation)
    {user : User} (hfresh : s.auth.users.conflicts user = false) :
    (s.addUser creation.claims user hfresh).Sound foreign users := by
  have hrows : s.auth.users.rows ⊆ (s.auth.users.insertFresh user hfresh).rows :=
    List.subset_append_left _ _
  obtain ⟨admin, hmem, hrole, hholds⟩ := h.authorised i _ hcreation
  refine ⟨{ h.tracked with }, h.identified.addUsers hrows, ?_, ?_⟩
  · intro j other hother
    obtain ⟨admin', hmem', hrest⟩ := h.authorised j other hother
    exact ⟨admin', hrows hmem', hrest⟩
  · have hbefore : Grown (s.addUser creation.claims user hfresh).Created users.rows
        s.auth.users.rows :=
      h.grown.mono fun _ _ hcreated ↦ hcreated.mono hrows (List.subset_append_left _ _)
    refine hbefore.add hmem ⟨hrows hmem, hrole, creation.claims, ?_, hholds⟩
    exact List.mem_append_right _ (List.mem_singleton_self _)

/-- A step of logins, logouts and token checks. -/
theorem Sound.auth (hjwt : jwt.Lawful) (h : s.Sound foreign users) {label : AuthRuntime.Label}
    (hassumed : s.auth.Assumed foreign label) (hlabel : label.isSetUsers = false)
    {auth : AuthRuntime jwt} (hstep : s.auth.step verifyPassword label = some auth) :
    Sound foreign users { s with auth := auth } := by
  obtain ⟨hidentified, husers⟩ :=
    AuthRuntime.identified_step hjwt h.tracked h.identified hlabel hstep
  have hrows : s.auth.users.rows = auth.users.rows := congrArg UserTable.rows husers.symm
  refine ⟨AuthRuntime.tracked_effect hassumed h.tracked (AuthRuntime.effect_of_step hstep),
    hidentified, ?_, ?_⟩
  · intro i creation hcreation
    obtain ⟨admin, hmem, hrest⟩ := h.authorised i creation hcreation
    exact ⟨admin, hrows ▸ hmem, hrest⟩
  · have hgrown : Grown (Created { s with auth := auth }) users.rows s.auth.users.rows :=
      h.grown.mono fun _ _ hcreated ↦ ⟨hrows ▸ hcreated.1, hcreated.2⟩
    rwa [hrows] at hgrown

/-- **Step lemma.** -/
theorem sound_effect (hjwt : jwt.Lawful) {label : AccountLabel} (hassumed : s.Assumed foreign label)
    (h : s.Sound foreign users) (heffect : Effect verifyPassword s label t) :
    t.Sound foreign users := by
  cases heffect with
  | auth hlabel hstep => exact h.auth hjwt hassumed hlabel hstep
  | start hrequest =>
      obtain ⟨⟨admin, hmem, hholds⟩, hpermits⟩ := h.identified.phase _ _ hrequest
      have hrole : admin.role = "admin" := hholds.role.symm.trans (hpermits _ _ rfl)
      exact ⟨h.tracked, h.identified,
        ListUpdate.forall_append_singleton h.authorised ⟨admin, hmem, hrole, hholds⟩, h.grown⟩
  | move phase => exact h.setPhase _ phase
  | insert hcreation _ hfresh => exact (h.addUser hcreation hfresh).setPhase _ _
  | @audit i creation user =>
      have hlogged : (s.logCreated creation.claims user).Sound foreign users := h.setAuditTrail _
      exact hlogged.setPhase i _
  | log => exact h.setAuditTrail _

variable {now : Instant} {auditTrail : AuditTable} {labels : List AccountLabel}

/-- **Run lemma.** -/
theorem sound_of_run (hjwt : jwt.Lawful)
    (hrun : Run (guarded (Assumed foreign) (ofOption (step verifyPassword classes)))
      (init jwt now users auditTrail) labels s) : s.Sound foreign users :=
  hrun.invariant (sound_init foreign now users auditTrail) fun _ _ _ hu hnext ↦
    sound_effect hjwt hnext.1 hu (effect_of_step hnext.2)

/-- **No privilege escalation.** Every account was there when the server started or descends, by a
chain of creations each made with the token of an active admin account of the table, from one that
was.  What a request that passes a token check says of itself is true of an active account, whose
role the route permits.  Without an active admin to start with there are never any other accounts,
and nothing passes `require_admin`. -/
theorem accounts_descend (hjwt : jwt.Lawful)
    (hrun : Run (guarded (Assumed foreign) (ofOption (step verifyPassword classes)))
      (init jwt now users auditTrail) labels s) :
    (∀ user ∈ s.auth.users.rows, Descends s.Created users.rows user) ∧
      (∀ (i : ℕ) route headers claims,
        s.auth.requests[i]? = some ⟨.checkToken route headers, .done (.passed claims)⟩ →
          ∃ user ∈ s.auth.users.rows, user.Holds claims ∧ route.Permits user.role) ∧
      ((∀ user ∈ users.rows, user.isActive → user.role ≠ "admin") →
        s.auth.users.rows = users.rows ∧ ∀ (i : ℕ) headers claims, s.auth.requests[i]? ≠
          some ⟨.checkToken .requireAdmin headers, .done (.passed claims)⟩) := by
  have hsound := sound_of_run hjwt hrun
  have hpassed (i : ℕ) (route : TokenRoute) (headers : Headers) (claims : Claims)
      (hrequest : s.auth.requests[i]? = some ⟨.checkToken route headers, .done (.passed claims)⟩) :
      ∃ user ∈ s.auth.users.rows, user.Holds claims ∧ route.Permits user.role := by
    obtain ⟨⟨user, hmem, hholds⟩, hpermits⟩ := hsound.identified.phase _ _ hrequest
    exact ⟨user, hmem, hholds, hholds.role ▸ hpermits route headers rfl⟩
  refine ⟨hsound.grown.descends, hpassed, fun hnone ↦ ?_⟩
  have hrows : s.auth.users.rows = users.rows := by
    refine hsound.grown.eq_initial fun admin hmem user hcreated ↦ ?_
    obtain ⟨-, hrole, claims, -, hholds⟩ := hcreated
    exact hnone admin hmem hholds.active hrole
  refine ⟨hrows, fun i headers claims hrequest ↦ ?_⟩
  obtain ⟨user, hmem, hholds, hpermits⟩ := hpassed i _ headers claims hrequest
  rw [hrows] at hmem
  exact hnone user hmem hholds.active hpermits

/-! ## A new installation -/

/-- **One administrator.** On a new database every account is a default one or descends from the
default administrator. -/
theorem new_accounts_descend (hjwt : jwt.Lawful) {hashPassword : String → String}
    {adminId opId vId : String} {counted : Bool} {failed : String → Bool} {installed : Instant}
    (hrun : Run (guarded (Assumed foreign) (ofOption (step verifyPassword classes)))
      (init jwt now (initAuthTables hashPassword adminId opId vId counted failed installed .empty)
        auditTrail) labels s) :
    ∀ user ∈ s.auth.users.rows, user ∈ defaultUsers hashPassword adminId opId vId installed ∨
      ∃ admin ∈ s.auth.users.rows, admin.id = adminId ∧ admin.username = "admin" ∧
        Relation.TransGen s.Created admin user := by
  have hdefault {user : User} (h : user ∈
      (initAuthTables hashPassword adminId opId vId counted failed installed .empty).rows) :
      user ∈ defaultUsers hashPassword adminId opId vId installed := by
    unfold initAuthTables at h
    split at h
    case isTrue => cases h
    case isFalse =>
        rcases mem_foldl_seedUser h with hold | hnew
        · cases hold
        · exact hnew
  intro user hmem
  rcases ((sound_of_run hjwt hrun).grown.descends user hmem).mem_or_parent with
    hfirst | ⟨admin, hadmin, ⟨child, hpresent, hrole, -⟩, hchain⟩
  · exact .inl (hdefault hfirst)
  · have hwho : admin.id = adminId ∧ admin.username = "admin" := by
      have hcases := hdefault hadmin
      simp only [defaultUsers, List.mem_cons, List.not_mem_nil, or_false] at hcases
      rcases hcases with rfl | rfl | rfl
      · exact ⟨rfl, rfl⟩
      · exact absurd hrole (by simp)
      · exact absurd hrole (by simp)
    exact .inr ⟨admin, hpresent, hwho.1, hwho.2, hchain⟩

/-! ## A concrete run -/

/-- Signing as far as one token needs it. -/
def soleJwt (claims : Claims) : Jwt where
  encode := fun claims' ↦
    if claims' = claims then .ok "header.claims.signature" else .error "InvalidKeyFormat"
  decode := fun now token ↦
    if token = "header.claims.signature" then
      if timestamp now ≤ claims.exp + leeway then .ok claims else .error "ExpiredSignature"
    else .error "InvalidToken"

theorem lawful_soleJwt (claims : Claims) : (soleJwt claims).Lawful where
  decode_encode := by
    intro claims' token hencode now decoded
    simp only [soleJwt] at hencode ⊢
    split at hencode
    case isTrue heq =>
        cases hencode
        subst heq
        rw [if_pos rfl]
        split
        case isTrue hfresh => simp [hfresh, eq_comm]
        case isFalse hexpired => simp [hexpired]
    case isFalse => cases hencode

/-- The claims of the default administrator's first token. -/
def adminClaims : Claims := newClaims 0 "session-1" "user-1" "admin" "admin"

def installedUsers : UserTable :=
  initAuthTables ("argon2:" ++ ·) "user-1" "user-2" "user-3" true (fun _ ↦ false) 0 .empty

/-- The administrator logs in and adds a supervisor. -/
def supervisorRun : List AccountLabel :=
  [.auth (.arrive (.login ⟨"admin", "admin123"⟩)), .auth (.advance 0), .auth (.advance 0),
    .auth (.issueToken 0 "session-1"), .auth (.advance 0), .auth (.advance 0),
    .auth (.arrive (.checkToken .requireAdmin (AuthRuntime.bearerHeaders "header.claims.signature"))),
    .auth (.advance 1), .auth (.advance 1), .createUser 1,
    .readBody 0 (.parsed ⟨"supervisor", "Supervis0r", "operator"⟩) "user-4"
      (.ok "argon2:Supervis0r"), .insert 0 none, .audit 0 true]

/-- Tokens are presented after they have been signed, and new accounts are audited. -/
def orderly (s : AccountServer jwt) : AccountLabel → Bool
  | .auth label => s.auth.presentsSigned label
  | .cancel _ => false
  | .audit _ written => written
  | _ => true

theorem assumed_of_orderly {label : AccountLabel} (h : s.orderly label) :
    s.Assumed (fun _ ↦ False) label := by
  cases label with
  | auth label => exact AuthRuntime.assumed_of_presentsSigned h
  | _ => trivial

/-- The supervisor has an account, and no entry is to be written. -/
def supervised (s : AccountServer jwt) : Bool :=
  (s.auth.users.rows.any fun user ↦ user.username == "supervisor") &&
    s.creations.all fun creation ↦
      match creation.phase with
      | .auditing _ => false
      | _ => true

theorem exists_supervisorRun : ∃ s : AccountServer (soleJwt adminClaims),
    Run (guarded (fun s label ↦ s.orderly label)
        (ofOption (step AuthRuntime.verifyHash sampleClasses)))
      (init (soleJwt adminClaims) 0 installedUsers .empty) supervisorRun s ∧ s.supervised :=
  exists_run_guarded_of_any (by decide)

theorem accounts_descend_supervisorRun : ∃ s : AccountServer (soleJwt adminClaims),
    s.supervised ∧ ∀ user ∈ s.auth.users.rows, Descends s.Created installedUsers.rows user := by
  obtain ⟨s, hrun, htest⟩ := exists_supervisorRun
  refine ⟨s, htest, ?_⟩
  exact (accounts_descend (lawful_soleJwt _) (hrun.mono fun _ _ _ hnext ↦
    ⟨assumed_of_orderly hnext.1, hnext.2⟩)).1

end AccountServer

end VyuhHmi
