import VyuhHmi.Foundation.Transition
import VyuhHmi.Server.Signatures

/-!
# Signing the emergency stop

The dashboard stops the batch only after an electronic signature.  The dialog asks the server, which
writes the signature to the audit trail before it answers, and answers as well if that fails; requests
and answers may take any time, an answer may come after the dialog has given up, and the password
field can send several requests from one dialog.  A dialog that is left is still mounted for a while.
-/

open Transition

namespace VyuhHmi.App

/-- The state of one `ESignatureDialog`. -/
structure SignatureDialog where
  mounted : Bool := false
  isVerifying : Bool := false
  error : Option String := none
deriving DecidableEq

/-- What the dashboard gives as the reason of the signature. -/
def stopAction : String := "Emergency Stop — Force Batch to IDLE"

/-- The dialogs of an app, the calls of `verifyESignature` that wait for an answer, what is on its
way to the server and back, and the server's audit trail.  A call has a number; `stops` are the calls
after which the app stopped the batch. -/
structure SigningSystem where
  dialogs : ℕ → SignatureDialog
  /-- The dialogs of the navigator, the topmost first. -/
  opened : List ℕ
  awaiting : List (ℕ × ℕ)
  requests : List (ℕ × EsigRequest)
  answers : List (ℕ × Bool)
  stops : List ℕ
  auditTrail : AuditTable
  fresh : ℕ

inductive SigningEvent
  /-- The emergency stop is pressed and confirmed. -/
  | show
  | verify (dialog : ℕ) (username password : String)
  /-- `electronic_signature` handles a request. -/
  | serve (call : ℕ) (esig : EsigArrival)
  /-- A request is turned down before it. -/
  | refuse (call : ℕ)
  | answered (call dialog : ℕ) (ok : Bool)
  | timedOut (call dialog : ℕ)
  | cancel (dialog : ℕ)
  /-- The route of a dialog that was popped is gone. -/
  | unmount (dialog : ℕ)
  /-- Something else is written to the audit trail. -/
  | log (userId username action : String) (deviceId : Option String) (details : String)
      (ipAddress : Option String) (now : Instant)

/-- The server can write the entry of a signature. -/
def SigningEvent.written : SigningEvent → Bool
  | .serve _ esig => esig.written
  | _ => true

namespace SigningSystem

def init (auditTrail : AuditTable) : SigningSystem where
  dialogs := fun _ ↦ {}
  opened := []
  awaiting := []
  requests := []
  answers := []
  stops := []
  auditTrail := auditTrail
  fresh := 0

variable (s : SigningSystem)

def setDialog (dialog : ℕ) (state : SignatureDialog) : SigningSystem :=
  { s with dialogs := Function.update s.dialogs dialog state }

/-- `showDialog`. -/
def showDialog : SigningSystem :=
  { s.setDialog s.fresh { mounted := true } with
    opened := s.fresh :: s.opened
    fresh := s.fresh + 1 }

/-- `_verify` up to the request. -/
def verify (dialog : ℕ) (username password : String) : SigningSystem :=
  if username.isEmpty || password.isEmpty then
    s.setDialog dialog
      { s.dialogs dialog with error := some "Username and password are required" }
  else
    { s.setDialog dialog { s.dialogs dialog with isVerifying := true, error := none } with
      awaiting := s.awaiting ++ [(s.fresh, dialog)]
      requests := s.requests ++ [(s.fresh, ⟨username, password, stopAction⟩)]
      fresh := s.fresh + 1 }

/-- `Navigator.pop(true)`: the topmost dialog is popped, and what showed it goes on. -/
def popTrue (call : ℕ) : SigningSystem :=
  match s.opened with
  | [] => s
  | _ :: rest => { s with opened := rest, stops := s.stops ++ [call] }

/-- `_verify` after the answer. -/
def goOn (call dialog : ℕ) (ok : Bool) : SigningSystem :=
  if !(s.dialogs dialog).mounted then s
  else if ok then s.popTrue call
  else
    s.setDialog dialog
      { s.dialogs dialog with
        isVerifying := false
        error := some "Verification failed — invalid credentials" }

/-- What `verifyESignature` makes of the answer. -/
def verified : EsigReply → Bool
  | .ok _ => true
  | .fail _ _ => false

def serve (verifyPassword : String → String → Bool) (call : ℕ) (esig : EsigArrival) :
    SigningSystem :=
  let result := electronicSignature verifyPassword s.auditTrail esig
  { s with
    requests := s.requests.erase (call, esig.req)
    answers := s.answers ++ [(call, verified result.reply)]
    auditTrail := result.auditTrail }

def step (verifyPassword : String → String → Bool) (s : SigningSystem) :
    SigningEvent → Option SigningSystem
  | .show => some s.showDialog
  | .verify dialog username password =>
      if (s.dialogs dialog).mounted then some (s.verify dialog username password) else none
  | .serve call esig =>
      if (call, esig.req) ∈ s.requests then some (s.serve verifyPassword call esig) else none
  | .refuse call =>
      if call ∈ s.requests.map Prod.fst then
        some { s with
          requests := s.requests.filter fun request ↦ request.1 != call
          answers := s.answers ++ [(call, false)] }
      else none
  | .answered call dialog ok =>
      if (call, ok) ∈ s.answers ∧ (call, dialog) ∈ s.awaiting then
        some ({ s with
          answers := s.answers.erase (call, ok)
          awaiting := s.awaiting.erase (call, dialog) }.goOn call dialog ok)
      else none
  | .timedOut call dialog =>
      if (call, dialog) ∈ s.awaiting then
        some ({ s with awaiting := s.awaiting.erase (call, dialog) }.goOn call dialog false)
      else none
  | .cancel dialog =>
      if dialog ∈ s.opened ∧ (s.dialogs dialog).isVerifying = false then
        some { s with opened := s.opened.drop 1 }
      else none
  | .unmount dialog =>
      if dialog ∉ s.opened then some (s.setDialog dialog { s.dialogs dialog with mounted := false })
      else none
  | .log userId username action deviceId details ipAddress now =>
      some { s with
        auditTrail := logAudit s.auditTrail userId username action deviceId details ipAddress now }

/-! ## What the server signs -/

/-- The entry of a signature for the emergency stop, by an active user whose password was right. -/
def IsSignature (verifyPassword : String → String → Bool) (entry : AuditEntry) : Prop :=
  ∃ (esig : EsigArrival) (user : User), esig.account = some user ∧
    verifyPassword esig.req.password user.passwordHash = true ∧
    entry = auditEntry user.id user.username "electronic_signature" none (esigDetails stopAction) none
      esig.receivedAt entry.id

variable {s} {verifyPassword : String → String → Bool}

/-- The server answers yes just when it has verified a signature, and writes it if it can. -/
theorem electronicSignature_cases (auditTrail : AuditTable) (esig : EsigArrival) :
    let result := electronicSignature verifyPassword auditTrail esig
    (verified result.reply = false ∧ result.auditTrail = auditTrail) ∨
      (verified result.reply = true ∧ ∃ user, esig.account = some user ∧
        verifyPassword esig.req.password user.passwordHash = true ∧
        result.auditTrail = if esig.written then
            logAudit auditTrail user.id user.username "electronic_signature" none
              (esigDetails esig.req.reason) none esig.receivedAt
          else auditTrail) := by
  unfold electronicSignature EsigArrival.account
  split
  · exact Or.inl ⟨rfl, rfl⟩
  · cases hactive : esig.users.activeByUsername esig.req.username with
    | none => exact Or.inl ⟨rfl, rfl⟩
    | some user =>
        cases hpassword : verifyPassword esig.req.password user.passwordHash with
        | false => exact Or.inl (by simp [hpassword, verified])
        | true => exact Or.inr (by simp [hpassword, verified])

/-- The calls that the server has signed, each with its own entry. -/
structure Signed (verifyPassword : String → String → Bool) (before : ℤ)
    (entries : List (ℕ × AuditEntry)) (s : SigningSystem) : Prop where
  calls : (entries.map Prod.fst).Nodup
  ids : (entries.map fun entry ↦ entry.2.id).Nodup
  logged : ∀ entry ∈ entries, entry.2 ∈ s.auditTrail.rows ∧ before < entry.2.id ∧
    IsSignature verifyPassword entry.2
  before_le : before ≤ s.auditTrail.seq

theorem Signed.snoc {before : ℤ} {entries : List (ℕ × AuditEntry)} {t : SigningSystem}
    (h : Signed verifyPassword before entries s) {call : ℕ} {entry : AuditEntry}
    (hcall : call ∉ entries.map Prod.fst) (hentry : IsSignature verifyPassword entry)
    (hid : entry.id = s.auditTrail.seq + 1) (hrows : t.auditTrail.rows = s.auditTrail.rows ++ [entry])
    (hseq : t.auditTrail.seq = s.auditTrail.seq + 1) :
    Signed verifyPassword before (entries ++ [(call, entry)]) t := by
  have hle := h.before_le
  refine ⟨?_, ?_, fun logged hlogged ↦ ?_, by omega⟩
  · rw [List.map_append]
    refine List.nodup_append.mpr ⟨h.calls, List.nodup_singleton _, fun a ha b hb hab ↦ hcall ?_⟩
    rwa [hab, List.mem_singleton.mp hb] at ha
  · rw [List.map_append]
    refine List.nodup_append.mpr ⟨h.ids, List.nodup_singleton _, fun a ha b hb hab ↦ ?_⟩
    obtain ⟨earlier, hearlier, rfl⟩ := List.mem_map.mp ha
    have hbounded := s.auditTrail.bounded earlier.2 (h.logged earlier hearlier).1
    have hb : b = entry.id := List.mem_singleton.mp hb
    omega
  · rw [hrows]
    rcases List.mem_append.mp hlogged with hlogged | hlogged
    · have hearlier := h.logged logged hlogged
      exact ⟨List.mem_append_left _ hearlier.1, hearlier.2⟩
    · obtain rfl := List.mem_singleton.mp hlogged
      refine ⟨List.mem_append_right _ List.mem_cons_self, ?_, hentry⟩
      dsimp only
      omega

/-- Every call is asked once, answered with yes only if it is signed, and stops the batch once. -/
structure Accounted (verifyPassword : String → String → Bool) (before : ℤ)
    (entries : List (ℕ × AuditEntry)) (s : SigningSystem) : Prop
    extends Signed verifyPassword before entries s where
  requests_nodup : (s.requests.map Prod.fst).Nodup
  awaiting_nodup : (s.awaiting.map Prod.fst).Nodup
  stops_nodup : s.stops.Nodup
  requests_fresh : ∀ call ∈ s.requests.map Prod.fst, call < s.fresh
  awaiting_fresh : ∀ call ∈ s.awaiting.map Prod.fst, call < s.fresh
  stops_fresh : ∀ call ∈ s.stops, call < s.fresh
  entries_fresh : ∀ call ∈ entries.map Prod.fst, call < s.fresh
  unserved : ∀ call ∈ s.requests.map Prod.fst, call ∉ entries.map Prod.fst
  reason : ∀ request ∈ s.requests, request.2.reason = stopAction
  answered : ∀ call, (call, true) ∈ s.answers → call ∈ entries.map Prod.fst
  unstopped : ∀ call ∈ s.awaiting.map Prod.fst, call ∉ s.stops
  signed : ∀ call ∈ s.stops, call ∈ entries.map Prod.fst

namespace Accounted

variable {before : ℤ} {entries : List (ℕ × AuditEntry)} {t : SigningSystem}

/-- Calls that are forgotten do not matter, and dialogs never do. -/
theorem mono (h : Accounted verifyPassword before entries s)
    (hrequests : t.requests.Sublist s.requests) (hawaiting : t.awaiting.Sublist s.awaiting)
    (hanswers : ∀ call, (call, true) ∈ t.answers → (call, true) ∈ s.answers)
    (hstops : t.stops = s.stops) (htrail : t.auditTrail = s.auditTrail) (hfresh : s.fresh ≤ t.fresh) :
    Accounted verifyPassword before entries t where
  calls := h.calls
  ids := h.ids
  logged := by rw [htrail]; exact h.logged
  before_le := by rw [htrail]; exact h.before_le
  requests_nodup := h.requests_nodup.sublist (hrequests.map _)
  awaiting_nodup := h.awaiting_nodup.sublist (hawaiting.map _)
  stops_nodup := by rw [hstops]; exact h.stops_nodup
  requests_fresh call hcall := (h.requests_fresh call ((hrequests.map _).subset hcall)).trans_le hfresh
  awaiting_fresh call hcall := (h.awaiting_fresh call ((hawaiting.map _).subset hcall)).trans_le hfresh
  stops_fresh call hcall := (h.stops_fresh call (by rwa [← hstops])).trans_le hfresh
  entries_fresh call hcall := (h.entries_fresh call hcall).trans_le hfresh
  unserved call hcall := h.unserved call ((hrequests.map _).subset hcall)
  reason request hrequest := h.reason request (hrequests.subset hrequest)
  answered call hcall := h.answered call (hanswers call hcall)
  unstopped call hcall := by rw [hstops]; exact h.unstopped call ((hawaiting.map _).subset hcall)
  signed := by rw [hstops]; exact h.signed

/-- A new request. -/
theorem verify (h : Accounted verifyPassword before entries s) (dialog : ℕ)
    (username password : String) :
    Accounted verifyPassword before entries (s.verify dialog username password) := by
  rw [SigningSystem.verify]
  split
  · exact h.mono (.refl _) (.refl _) (fun _ hmem ↦ hmem) rfl rfl le_rfl
  · have hgrow : ∀ {calls : List ℕ}, (∀ call ∈ calls, call < s.fresh) →
        ∀ call ∈ calls, call < s.fresh + 1 := fun hcalls call hcall ↦
      (hcalls call hcall).trans (Nat.lt_succ_self _)
    have hsnoc : ∀ {calls : List ℕ}, (∀ call ∈ calls, call < s.fresh) →
        ∀ call ∈ calls ++ [s.fresh], call < s.fresh + 1 := fun hcalls call hcall ↦ by
      rcases List.mem_append.mp hcall with hcall | hcall
      · exact hgrow hcalls call hcall
      · rw [List.mem_singleton.mp hcall]
        exact Nat.lt_succ_self _
    have hnew : ∀ {calls : List ℕ}, (∀ call ∈ calls, call < s.fresh) → s.fresh ∉ calls :=
      fun hcalls hmem ↦ lt_irrefl _ (hcalls _ hmem)
    have hnodup : ∀ {calls : List ℕ}, calls.Nodup → (∀ call ∈ calls, call < s.fresh) →
        (calls ++ [s.fresh]).Nodup := fun hcalls hlt ↦
      List.nodup_append.mpr ⟨hcalls, List.nodup_singleton _, fun a ha b hb hab ↦
        hnew hlt (by rw [List.mem_singleton.mp hb] at hab; rwa [← hab])⟩
    refine ⟨⟨h.calls, h.ids, h.logged, h.before_le⟩, ?_, ?_, h.stops_nodup, ?_, ?_,
      hgrow h.stops_fresh, hgrow h.entries_fresh, ?_, ?_, h.answered, ?_, h.signed⟩
    · rw [List.map_append]
      exact hnodup h.requests_nodup h.requests_fresh
    · rw [List.map_append]
      exact hnodup h.awaiting_nodup h.awaiting_fresh
    · rw [List.map_append]
      exact hsnoc h.requests_fresh
    · rw [List.map_append]
      exact hsnoc h.awaiting_fresh
    · rw [List.map_append]
      intro call hcall
      rcases List.mem_append.mp hcall with hcall | hcall
      · exact h.unserved call hcall
      · rw [List.mem_singleton.mp hcall]
        exact hnew h.entries_fresh
    · intro request hrequest
      rcases List.mem_append.mp hrequest with hrequest | hrequest
      · exact h.reason request hrequest
      · rw [List.mem_singleton.mp hrequest]
    · rw [List.map_append]
      intro call hcall
      rcases List.mem_append.mp hcall with hcall | hcall
      · exact h.unstopped call hcall
      · rw [List.mem_singleton.mp hcall]
        exact hnew h.stops_fresh

theorem not_mem_erase_of_nodup {α : Type} [DecidableEq α] {calls : List (ℕ × α)} {call : ℕ} {x : α}
    (hnodup : (calls.map Prod.fst).Nodup) (hmem : (call, x) ∈ calls) :
    call ∉ (calls.erase (call, x)).map Prod.fst := by
  have hperm := (List.perm_cons_erase hmem).map Prod.fst
  exact (List.nodup_cons.mp (hperm.nodup_iff.mp hnodup)).1

/-- The answer to a call that waits for it. -/
theorem goOn {call dialog : ℕ} {ok : Bool} (h : Accounted verifyPassword before entries s)
    (hcall : call < s.fresh) (hawaiting : call ∉ s.awaiting.map Prod.fst) (hstops : call ∉ s.stops)
    (hok : ok = true → call ∈ entries.map Prod.fst) :
    Accounted verifyPassword before entries (s.goOn call dialog ok) := by
  rw [SigningSystem.goOn]
  split
  · exact h
  · split
    case isFalse => exact h.mono (.refl _) (.refl _) (fun _ hmem ↦ hmem) rfl rfl le_rfl
    case isTrue htrue =>
      rw [popTrue]
      split
      · exact h
      · refine ⟨⟨h.calls, h.ids, h.logged, h.before_le⟩, h.requests_nodup, h.awaiting_nodup, ?_,
          h.requests_fresh, h.awaiting_fresh, ?_, h.entries_fresh, h.unserved, h.reason, h.answered,
          ?_, ?_⟩
        · refine List.nodup_append.mpr ⟨h.stops_nodup, List.nodup_singleton _, fun a ha b hb hab ↦ ?_⟩
          rw [List.mem_singleton.mp hb] at hab
          exact hstops (by rwa [← hab])
        · intro stop hstop
          rcases List.mem_append.mp hstop with hstop | hstop
          · exact h.stops_fresh stop hstop
          · rwa [List.mem_singleton.mp hstop]
        · intro other hother hstop
          rcases List.mem_append.mp hstop with hstop | hstop
          · exact h.unstopped other hother hstop
          · rw [List.mem_singleton.mp hstop] at hother
            exact hawaiting hother
        · intro stop hstop
          rcases List.mem_append.mp hstop with hstop | hstop
          · exact h.signed stop hstop
          · rw [List.mem_singleton.mp hstop]
            exact hok htrue

/-- Another entry of the audit trail leaves the signatures where they are. -/
theorem log (h : Accounted verifyPassword before entries s) (userId username action : String)
    (deviceId : Option String) (details : String) (ipAddress : Option String) (now : Instant) :
    Accounted verifyPassword before entries { s with
      auditTrail := logAudit s.auditTrail userId username action deviceId details ipAddress now } :=
  { h with
    logged := fun entry hentry ↦
      have hlogged := h.logged entry hentry
      ⟨by rw [rows_logAudit]; exact List.mem_append_left _ hlogged.1, hlogged.2⟩
    before_le := h.before_le.trans (le_of_lt (Int.lt_succ s.auditTrail.seq)) }

/-- A request that is served: the server signs it, or says no. -/
theorem serve (h : Accounted verifyPassword before entries s) {call : ℕ} {esig : EsigArrival}
    (hmem : (call, esig.req) ∈ s.requests) (hwritten : esig.written) :
    ∃ more, Accounted verifyPassword before (entries ++ more) (s.serve verifyPassword call esig) := by
  have hcall : call ∈ s.requests.map Prod.fst := List.mem_map_of_mem hmem
  have hgone := not_mem_erase_of_nodup h.requests_nodup hmem
  have hsub : (s.requests.erase (call, esig.req)).Sublist s.requests := List.erase_sublist
  rcases @electronicSignature_cases verifyPassword s.auditTrail esig with
    ⟨hno, htrail⟩ | ⟨hyes, user, haccount, hpassword, htrail⟩
  · refine ⟨[], ?_⟩
    rw [List.append_nil]
    refine h.mono hsub (.refl _) (fun other hother ↦ ?_) rfl htrail le_rfl
    rcases List.mem_append.mp hother with hother | hother
    · exact hother
    · rw [List.mem_singleton, hno] at hother
      cases hother
  · have hreason : esig.req.reason = stopAction := h.reason _ hmem
    rw [hreason, if_pos hwritten] at htrail
    let entry := auditEntry user.id user.username "electronic_signature" none
      (esigDetails stopAction) none esig.receivedAt (s.auditTrail.seq + 1)
    refine ⟨[(call, entry)], ?_⟩
    have hold : ∀ {other : ℕ}, other ∈ entries.map Prod.fst →
        other ∈ (entries ++ [(call, entry)]).map Prod.fst := fun hother ↦ by
      rw [List.map_append]
      exact List.mem_append_left _ hother
    have hnew : ∀ {other : ℕ}, other ∈ (entries ++ [(call, entry)]).map Prod.fst →
        other ∈ entries.map Prod.fst ∨ other = call := fun hother ↦ by
      rw [List.map_append] at hother
      exact (List.mem_append.mp hother).imp id List.mem_singleton.mp
    have hentry : IsSignature verifyPassword entry := ⟨esig, user, haccount, hpassword, rfl⟩
    have hserved : (s.serve verifyPassword call esig).auditTrail = logAudit s.auditTrail user.id
        user.username "electronic_signature" none (esigDetails stopAction) none esig.receivedAt := htrail
    refine ⟨h.toSigned.snoc (h.unserved call hcall) hentry rfl (by rw [hserved]; rfl)
      (by rw [hserved]; rfl), h.requests_nodup.sublist (hsub.map _), h.awaiting_nodup, h.stops_nodup,
      fun other hother ↦ h.requests_fresh other ((hsub.map _).subset hother), h.awaiting_fresh,
      h.stops_fresh, fun other hother ↦ ?_, fun other hother hsigned ↦ ?_,
      fun request hrequest ↦ h.reason request (hsub.subset hrequest), fun other hother ↦ ?_,
      h.unstopped, fun stop hstop ↦ hold (h.signed stop hstop)⟩
    · rcases hnew hother with hother | rfl
      · exact h.entries_fresh other hother
      · exact h.requests_fresh other hcall
    · rcases hnew hsigned with hsigned | rfl
      · exact h.unserved other ((hsub.map _).subset hother) hsigned
      · exact hgone hother
    · rcases List.mem_append.mp hother with hother | hother
      · exact hold (h.answered other hother)
      · obtain ⟨rfl, -⟩ := Prod.mk.inj (List.mem_singleton.mp hother)
        rw [List.map_append]
        exact List.mem_append_right _ List.mem_cons_self

theorem step {event : SigningEvent} (h : Accounted verifyPassword before entries s)
    (hwritten : event.written) (hstep : s.step verifyPassword event = some t) :
    ∃ more, Accounted verifyPassword before (entries ++ more) t := by
  cases event with
  | serve call esig =>
      obtain ⟨hmem, ht⟩ := Option.ite_none_right_eq_some.mp hstep
      obtain rfl := Option.some.inj ht
      exact h.serve hmem hwritten
  | «show» =>
      obtain rfl := Option.some.inj hstep
      refine ⟨[], ?_⟩
      rw [List.append_nil]
      exact h.mono (.refl _) (.refl _) (fun _ hmem ↦ hmem) rfl rfl (Nat.le_succ _)
  | verify dialog username password =>
      obtain ⟨-, ht⟩ := Option.ite_none_right_eq_some.mp hstep
      obtain rfl := Option.some.inj ht
      refine ⟨[], ?_⟩
      rw [List.append_nil]
      exact h.verify dialog username password
  | refuse call =>
      obtain ⟨-, ht⟩ := Option.ite_none_right_eq_some.mp hstep
      obtain rfl := Option.some.inj ht
      refine ⟨[], ?_⟩
      rw [List.append_nil]
      refine h.mono List.filter_sublist (.refl _) (fun other hother ↦ ?_) rfl rfl le_rfl
      rcases List.mem_append.mp hother with hother | hother
      · exact hother
      · cases List.mem_singleton.mp hother
  | answered call dialog ok =>
      obtain ⟨⟨hanswer, hwaits⟩, ht⟩ := Option.ite_none_right_eq_some.mp hstep
      obtain rfl := Option.some.inj ht
      have hcall : call ∈ s.awaiting.map Prod.fst := List.mem_map_of_mem hwaits
      refine ⟨[], ?_⟩
      rw [List.append_nil]
      refine goOn (h.mono (.refl _) List.erase_sublist (fun _ hmem ↦ List.mem_of_mem_erase hmem) rfl
        rfl le_rfl) (h.awaiting_fresh call hcall) (not_mem_erase_of_nodup h.awaiting_nodup hwaits)
        (h.unstopped call hcall) fun hok ↦ ?_
      subst hok
      exact h.answered call hanswer
  | timedOut call dialog =>
      obtain ⟨hwaits, ht⟩ := Option.ite_none_right_eq_some.mp hstep
      obtain rfl := Option.some.inj ht
      have hcall : call ∈ s.awaiting.map Prod.fst := List.mem_map_of_mem hwaits
      refine ⟨[], ?_⟩
      rw [List.append_nil]
      exact goOn (h.mono (.refl _) List.erase_sublist (fun _ hmem ↦ hmem) rfl rfl le_rfl)
        (h.awaiting_fresh call hcall) (not_mem_erase_of_nodup h.awaiting_nodup hwaits)
        (h.unstopped call hcall) fun hok ↦ by cases hok
  | cancel dialog =>
      obtain ⟨-, ht⟩ := Option.ite_none_right_eq_some.mp hstep
      obtain rfl := Option.some.inj ht
      refine ⟨[], ?_⟩
      rw [List.append_nil]
      exact h.mono (.refl _) (.refl _) (fun _ hmem ↦ hmem) rfl rfl le_rfl
  | unmount dialog =>
      obtain ⟨-, ht⟩ := Option.ite_none_right_eq_some.mp hstep
      obtain rfl := Option.some.inj ht
      refine ⟨[], ?_⟩
      rw [List.append_nil]
      exact h.mono (.refl _) (.refl _) (fun _ hmem ↦ hmem) rfl rfl le_rfl
  | log userId username action deviceId details ipAddress now =>
      obtain rfl := Option.some.inj hstep
      refine ⟨[], ?_⟩
      rw [List.append_nil]
      exact h.log userId username action deviceId details ipAddress now

end Accounted

/-- **Every emergency stop is signed.**  Whatever the order of requests, answers, timeouts and
dialogs, and whatever else is written to the audit trail: while the entries of the signatures can be
written, each stop of the batch that the app asked for has an entry of its own in the audit trail,
made since the start, which names the emergency stop and an active user whose password was right. -/
theorem every_stop_signed (verifyPassword : String → String → Bool) (auditTrail : AuditTable)
    (events : List SigningEvent) (s : SigningSystem)
    (hrun : Run (guarded (fun _ event ↦ event.written) (ofOption (step verifyPassword)))
      (init auditTrail) events s) :
    s.stops.Nodup ∧ ∃ entries : List (ℕ × AuditEntry),
      (entries.map Prod.fst).Perm s.stops ∧ (entries.map fun entry ↦ entry.2.id).Nodup ∧
        ∀ entry ∈ entries, entry.2 ∈ s.auditTrail.rows ∧ auditTrail.seq < entry.2.id ∧
          IsSignature verifyPassword entry.2 := by
  have hinv : ∃ entries, Accounted verifyPassword auditTrail.seq entries s := by
    apply @Run.invariant _ _ _ _ _
      (fun s ↦ ∃ entries, Accounted verifyPassword auditTrail.seq entries s) _ _ _ hrun
    · exact ⟨[], by constructor <;> simp [init]; constructor <;> simp⟩
    · rintro u event v ⟨entries, hu⟩ hstep
      obtain ⟨more, hv⟩ := hu.step hstep.1 hstep.2
      exact ⟨entries ++ more, hv⟩
  obtain ⟨entries, h⟩ := hinv
  have hsub : (entries.filter fun entry ↦ s.stops.contains entry.1).Sublist entries :=
    List.filter_sublist
  refine ⟨h.stops_nodup, entries.filter fun entry ↦ s.stops.contains entry.1, ?_,
    h.ids.sublist (hsub.map _), fun entry hentry ↦ h.logged entry (hsub.subset hentry)⟩
  rw [List.perm_ext_iff_of_nodup (h.calls.sublist (hsub.map _)) h.stops_nodup]
  intro call
  constructor
  · intro hcall
    obtain ⟨entry, hentry, rfl⟩ := List.mem_map.mp hcall
    simpa using (List.mem_filter.mp hentry).2
  · intro hstop
    obtain ⟨entry, hentry, rfl⟩ := List.mem_map.mp (h.signed call hstop)
    exact List.mem_map_of_mem (List.mem_filter.mpr ⟨hentry, by simpa using hstop⟩)

/-- The operator signs after a wrong password and a call that timed out. -/
def secondAttempt : List SigningEvent :=
  [.show, .verify 0 "operator" "guess",
    .serve 1 ⟨⟨"operator", "guess", stopAction⟩, operatorOnly, false, true, 0⟩, .answered 1 0 false,
    .verify 0 "operator" "secret", .timedOut 2 0, .verify 0 "operator" "secret",
    .serve 3 ⟨⟨"operator", "secret", stopAction⟩, operatorOnly, false, true, 7⟩, .answered 3 0 true]

theorem every_stop_signed_secondAttempt :
    ∃ s : SigningSystem, s.stops = [3] ∧ ∃ entries : List (ℕ × AuditEntry),
      (entries.map Prod.fst).Perm [3] ∧
        ∀ entry ∈ entries, entry.2 ∈ s.auditTrail.rows ∧ 0 < entry.2.id := by
  obtain ⟨s, hrun, hstops⟩ := @exists_run_guarded_of_any _ _ (init .empty)
    (step fun password hash ↦ password == hash) (fun _ event ↦ event.written) _
    (fun s ↦ s.stops == [3]) secondAttempt (by decide)
  obtain ⟨-, entries, hcalls, -, hentries⟩ :=
    every_stop_signed (fun password hash ↦ password == hash) .empty secondAttempt s hrun
  rw [beq_iff_eq.mp hstops] at hcalls
  exact ⟨s, beq_iff_eq.mp hstops, entries, hcalls,
    fun entry hentry ↦ ⟨(hentries entry hentry).1, (hentries entry hentry).2.1⟩⟩

end SigningSystem
end VyuhHmi.App
