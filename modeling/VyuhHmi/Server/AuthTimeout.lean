import VyuhHmi.Server.Stream

/-!
# The authentication timeout

A socket has ten seconds to present its token, but every wait for a message has ten seconds of its
own, and a message that is skipped begins a new wait.  In runs that keep to the timeouts, and in
which looking something up or sending a few bytes takes no time, a socket is open for longer without
a token exactly when something is skipped within the ten seconds and nothing in them ends the wait.
-/

namespace VyuhHmi

/-- Binary messages, pings, pongs and errors are skipped before authentication. -/
def Received.isSkipped : Received → Bool
  | .frame => true
  | .error => true
  | _ => false

namespace SocketPhase

/-- Open, and no valid token has come. -/
def isUnauthenticated : SocketPhase → Bool
  | .waiting _ => true
  | .refusing _ => true
  | _ => false

def isWaiting : SocketPhase → Bool
  | .waiting _ => true
  | _ => false

/-- Turned down. -/
def isOver : SocketPhase → Bool
  | .refusing _ => true
  | .closed => true
  | _ => false

/-- Until when a handler can be as it is. -/
def deadline (now : Instant) : SocketPhase → Option Instant
  | .waiting since => some (since + 10 * nanosPerSecond)
  | .checking _ _ => some now
  | .refusing _ => some now
  | .acknowledging _ => some now
  | _ => none

end SocketPhase

/-- Only the clock's own step moves the clock. -/
theorem AuthRuntime.now_of_step {jwt : Jwt} {verifyPassword : String → String → Bool}
    {a b : AuthRuntime jwt} {label : AuthRuntime.Label}
    (hstep : a.step verifyPassword label = some b) (hlabel : ∀ now, label ≠ .tick now) :
    b.now = a.now := by
  cases AuthRuntime.effect_of_step hstep with
  | tick now => exact absurd rfl (hlabel now)
  | _ => rfl

namespace StreamState

variable {jwt : Jwt}

/-- Time does not pass a deadline. -/
def Prompt (s : StreamState jwt) : Label → Prop
  | .auth (.tick now) => ∀ socket ∈ s.sockets, ∀ deadline ∈ socket.phase.deadline s.auth.now,
      now ≤ deadline
  | _ => True

instance (s : StreamState jwt) : DecidablePred s.Prompt
  | .auth (.tick now) => inferInstanceAs (Decidable (∀ socket ∈ s.sockets,
      ∀ deadline ∈ socket.phase.deadline s.auth.now, now ≤ deadline))
  | .auth (.setUsers _) => isTrue trivial
  | .auth (.arrive _) => isTrue trivial
  | .auth (.advance _) => isTrue trivial
  | .auth (.failQuery _) => isTrue trivial
  | .auth (.issueToken _ _) => isTrue trivial
  | .auth (.cancel _) => isTrue trivial
  | .publish _ => isTrue trivial
  | .upgrade => isTrue trivial
  | .receive _ _ => isTrue trivial
  | .timeOut _ => isTrue trivial
  | .checkSession _ => isTrue trivial
  | .finishSend _ _ => isTrue trivial
  | .takeReading _ => isTrue trivial
  | .lag _ _ => isTrue trivial

/-- A message to one of the sockets. -/
def Label.isMessage : Label → Bool
  | .receive _ _ => true
  | _ => false

/-- The socket has been open for more than ten seconds, without a valid token. -/
def OpenTooLong (s : StreamState jwt) (socket : ℕ) : Prop :=
  ∃ openedAt phase, s.sockets[socket]? = some ⟨openedAt, phase⟩ ∧ phase.isUnauthenticated = true ∧
    openedAt + 10 * nanosPerSecond < s.auth.now

section history

variable (verifyPassword : String → String → Bool) (start : StreamState jwt) (labels : List Label)
  (socket : ℕ)

/-- What a socket has received, and when. -/
def ReceivedAt (received : Received) (time : Instant) : Prop :=
  ∃ earlier s, earlier ++ [.receive socket received] <+: labels ∧
    Transition.exec (step verifyPassword) start earlier = some s ∧ s.auth.now = time

/-- Whether a socket has ever been open for too long. -/
def WasOpenTooLong : Prop :=
  ∃ earlier s, earlier <+: labels ∧ Transition.exec (step verifyPassword) start earlier = some s ∧
    s.OpenTooLong socket

end history

/-! ## One socket -/

section attended

variable {receivedAt receivedAt' : Received → Instant → Prop} {tooLong : Prop}
  {now now' openedAt since : Instant} {phase phase' : SocketPhase} {entry : Option Socket}

/-- Something has ended the wait in time. -/
def Decided (receivedAt : Received → Instant → Prop) (openedAt : Instant) : Prop :=
  ∃ received time, receivedAt received time ∧ received.isSkipped = false ∧
    time ≤ openedAt + 10 * nanosPerSecond

/-- Something has been skipped while there was still time. -/
def Skipped (receivedAt : Received → Instant → Prop) (openedAt : Instant) : Prop :=
  ∃ received time, receivedAt received time ∧ received.isSkipped = true ∧ openedAt < time ∧
    time ≤ openedAt + 10 * nanosPerSecond

/-- How a socket stands, after what it has received: not there yet, in its first wait, in a later
one, or done with waiting in time or too late. -/
inductive Attended (receivedAt : Received → Instant → Prop) (tooLong : Prop) (now : Instant) :
    Option Socket → Prop
  | absent (hreceived : ∀ received time, ¬receivedAt received time) (hlong : ¬tooLong) :
      Attended receivedAt tooLong now none
  | fresh {openedAt : Instant} (hle : openedAt ≤ now)
      (hdeadline : now ≤ openedAt + 10 * nanosPerSecond) (hlong : ¬tooLong)
      (hdecided : ¬Decided receivedAt openedAt) (hskipped : ¬Skipped receivedAt openedAt) :
      Attended receivedAt tooLong now (some ⟨openedAt, .waiting openedAt⟩)
  | restarted {openedAt since : Instant} (hopened : openedAt < since) (hle : since ≤ now)
      (hdeadline : now ≤ since + 10 * nanosPerSecond)
      (hlong : tooLong ↔ openedAt + 10 * nanosPerSecond < now)
      (hdecided : ¬Decided receivedAt openedAt) (hskipped : Skipped receivedAt openedAt) :
      Attended receivedAt tooLong now (some ⟨openedAt, .waiting since⟩)
  | inTime {openedAt : Instant} {phase : SocketPhase} (hphase : phase.isWaiting = false)
      (hbrief : phase.deadline now = some now → now ≤ openedAt + 10 * nanosPerSecond)
      (hlong : ¬tooLong)
      (hdecided : Decided receivedAt openedAt ∨
        ¬Skipped receivedAt openedAt ∧ phase.isOver = true) :
      Attended receivedAt tooLong now (some ⟨openedAt, phase⟩)
  | late {openedAt : Instant} {phase : SocketPhase} (hphase : phase.isWaiting = false)
      (hlate : openedAt + 10 * nanosPerSecond < now) (hlong : tooLong)
      (hdecided : ¬Decided receivedAt openedAt) (hskipped : Skipped receivedAt openedAt) :
      Attended receivedAt tooLong now (some ⟨openedAt, phase⟩)

theorem deadline_of_isUnauthenticated (hphase : phase.isWaiting = false)
    (h : phase.isUnauthenticated = true) (now : Instant) : phase.deadline now = some now := by
  cases phase with
  | waiting since => cases hphase
  | refusing => rfl
  | _ => cases h

/-- **The condition.** -/
theorem Attended.not_tooLong_iff (h : Attended receivedAt tooLong now (some ⟨openedAt, phase⟩)) :
    ¬tooLong ↔ now ≤ openedAt + 10 * nanosPerSecond ∨ Decided receivedAt openedAt ∨
      ¬Skipped receivedAt openedAt := by
  cases h with
  | fresh _ _ hlong _ hskipped => exact iff_of_true hlong (.inr (.inr hskipped))
  | restarted _ _ _ hlong hdecided hskipped =>
      rw [hlong, Nat.not_lt, or_iff_left]
      exact not_or.mpr ⟨hdecided, not_not_intro hskipped⟩
  | inTime _ _ hlong hdecided => exact iff_of_true hlong (.inr (hdecided.imp_right And.left))
  | late _ hlate hlong hdecided hskipped =>
      refine iff_of_false (not_not_intro hlong) (not_or.mpr ⟨Nat.not_le.mpr hlate, not_or.mpr ?_⟩)
      exact ⟨hdecided, not_not_intro hskipped⟩

/-- A socket that is open for too long now has been noticed. -/
theorem Attended.noticed (h : Attended receivedAt tooLong now (some ⟨openedAt, phase⟩))
    (hopen : phase.isUnauthenticated = true) (hlate : openedAt + 10 * nanosPerSecond < now) :
    tooLong := by
  cases h with
  | fresh _ hdeadline => exact absurd hlate (Nat.not_lt.mpr hdeadline)
  | restarted _ _ _ hlong => exact hlong.mpr hlate
  | inTime hphase hbrief =>
      exact absurd hlate (Nat.not_lt.mpr (hbrief (deadline_of_isUnauthenticated hphase hopen now)))
  | late _ _ hlong => exact hlong

/-- Time passes, up to the deadline at most. -/
theorem Attended.tick (h : Attended receivedAt tooLong now entry) (hle : now ≤ now')
    (hprompt : ∀ socket ∈ entry, ∀ deadline ∈ socket.phase.deadline now, now' ≤ deadline) :
    Attended receivedAt (tooLong ∨ ∃ openedAt phase, entry = some ⟨openedAt, phase⟩ ∧
      phase.isUnauthenticated = true ∧ openedAt + 10 * nanosPerSecond < now') now' entry := by
  cases h with
  | absent hreceived hlong => exact .absent hreceived (not_or.mpr ⟨hlong, nofun⟩)
  | fresh hopened _ hlong hdecided hskipped =>
      have hdeadline := hprompt _ rfl _ rfl
      refine .fresh (hopened.trans hle) hdeadline (not_or.mpr ⟨hlong, ?_⟩) hdecided hskipped
      rintro ⟨_, _, heq, -, hlate⟩
      cases heq
      exact absurd hlate (Nat.not_lt.mpr hdeadline)
  | restarted hopened hsince _ hlong hdecided hskipped =>
      refine .restarted hopened (hsince.trans hle) (hprompt _ rfl _ rfl) ⟨?_, fun hlate ↦ ?_⟩
        hdecided hskipped
      · rintro (hbefore | ⟨_, _, heq, -, hlate⟩)
        · exact (hlong.mp hbefore).trans_le hle
        · cases heq
          exact hlate
      · exact .inr ⟨_, _, rfl, rfl, hlate⟩
  | @inTime openedAt phase hphase hbrief hlong hdecided =>
      have hstill (hnow : phase.deadline now = some now) :
          now' ≤ openedAt + 10 * nanosPerSecond :=
        (hprompt _ rfl now hnow).trans (hbrief hnow)
      refine .inTime hphase (fun hnow' ↦ hstill ?_) (not_or.mpr ⟨hlong, ?_⟩) hdecided
      · cases phase with
        | waiting since => cases hphase
        | checking | refusing | acknowledging => rfl
        | streaming | sending | closed => cases hnow'
      · rintro ⟨_, _, heq, hopen, hlate⟩
        cases heq
        have hnow := deadline_of_isUnauthenticated hphase hopen now
        exact absurd hlate (Nat.not_lt.mpr (hstill hnow))
  | late hphase hlate hlong hdecided hskipped =>
      exact .late hphase (hlate.trans_le hle) (.inl hlong) hdecided hskipped

/-- The timeout ends a wait. -/
theorem Attended.timeOut
    (h : Attended receivedAt tooLong now (some ⟨openedAt, .waiting since⟩))
    (hdue : since + 10 * nanosPerSecond ≤ now) (error : String) :
    Attended receivedAt tooLong now (some ⟨openedAt, .refusing error⟩) := by
  cases h with
  | fresh _ hdeadline hlong _ hskipped =>
      exact .inTime rfl (fun _ ↦ hdeadline) hlong (.inr ⟨hskipped, rfl⟩)
  | restarted hopened _ _ hlong hdecided hskipped =>
      have hlate : openedAt + 10 * nanosPerSecond < now :=
        (Nat.add_lt_add_right hopened _).trans_le hdue
      exact .late rfl hlate (hlong.mpr hlate) hdecided hskipped
  | inTime hphase => cases hphase
  | late hphase => cases hphase

/-- With one more message. -/
def alsoAt (receivedAt : Received → Instant → Prop) (received : Received) (now : Instant) :
    Received → Instant → Prop :=
  fun other time ↦ receivedAt other time ∨ other = received ∧ time = now

section message

variable {received : Received}

theorem Decided.alsoAt (h : Decided receivedAt openedAt) :
    Decided (alsoAt receivedAt received now) openedAt := by
  obtain ⟨other, time, hother, hrest⟩ := h
  exact ⟨other, time, .inl hother, hrest⟩

theorem Skipped.alsoAt (h : Skipped receivedAt openedAt) :
    Skipped (alsoAt receivedAt received now) openedAt := by
  obtain ⟨other, time, hother, hrest⟩ := h
  exact ⟨other, time, .inl hother, hrest⟩

/-- A message that is skipped, or comes too late, decides nothing. -/
theorem not_decided_alsoAt (h : ¬Decided receivedAt openedAt)
    (hreceived : received.isSkipped = true ∨ openedAt + 10 * nanosPerSecond < now) :
    ¬Decided (alsoAt receivedAt received now) openedAt := by
  rintro ⟨other, time, hother | ⟨rfl, rfl⟩, hdecides, hle⟩
  · exact h ⟨other, time, hother, hdecides, hle⟩
  · rcases hreceived with hskipped | hlate
    · rw [hskipped] at hdecides
      cases hdecides
    · exact absurd hlate (Nat.not_lt.mpr hle)

/-- A message is skipped. -/
theorem Attended.skip (h : Attended receivedAt tooLong now (some ⟨openedAt, .waiting since⟩))
    (hskips : received.isSkipped = true) :
    Attended (alsoAt receivedAt received now) tooLong now (some ⟨openedAt, .waiting now⟩) := by
  cases h with
  | fresh hle hdeadline hlong hdecided hskipped =>
      rcases hle.eq_or_lt with rfl | hlt
      · refine .fresh le_rfl hdeadline hlong (not_decided_alsoAt hdecided (.inl hskips)) ?_
        rintro ⟨other, time, hother | ⟨-, rfl⟩, hrest⟩
        · exact hskipped ⟨other, time, hother, hrest⟩
        · exact absurd hrest.2.1 (Nat.lt_irrefl _)
      · exact .restarted hlt le_rfl (Nat.le_add_right _ _)
          (iff_of_false hlong (Nat.not_lt.mpr hdeadline))
          (not_decided_alsoAt hdecided (.inl hskips))
          ⟨received, now, .inr ⟨rfl, rfl⟩, hskips, hlt, hdeadline⟩
  | restarted hopened hle _ hlong hdecided hskipped =>
      exact .restarted (hopened.trans_le hle) le_rfl (Nat.le_add_right _ _) hlong
        (not_decided_alsoAt hdecided (.inl hskips)) hskipped.alsoAt
  | inTime hphase => cases hphase
  | late hphase => cases hphase

/-- A message ends the wait. -/
theorem Attended.decide (h : Attended receivedAt tooLong now (some ⟨openedAt, .waiting since⟩))
    (hdecides : received.isSkipped = false) (hphase : phase.isWaiting = false) :
    Attended (alsoAt receivedAt received now) tooLong now (some ⟨openedAt, phase⟩) := by
  have hdecided (hle : now ≤ openedAt + 10 * nanosPerSecond) :
      Decided (StreamState.alsoAt receivedAt received now) openedAt :=
    ⟨received, now, .inr ⟨rfl, rfl⟩, hdecides, hle⟩
  cases h with
  | fresh _ hdeadline hlong =>
      exact .inTime hphase (fun _ ↦ hdeadline) hlong (.inl (hdecided hdeadline))
  | restarted _ _ _ hlong hundecided hskipped =>
      rcases Nat.lt_or_ge (openedAt + 10 * nanosPerSecond) now with hlate | hle
      · exact .late hphase hlate (hlong.mpr hlate) (not_decided_alsoAt hundecided (.inr hlate))
          hskipped.alsoAt
      · exact .inTime hphase (fun _ ↦ hle) (mt hlong.mp (Nat.not_lt.mpr hle)) (.inl (hdecided hle))
  | inTime hphase => cases hphase
  | late hphase => cases hphase

/-- A message after the wait. -/
theorem Attended.after (h : Attended receivedAt tooLong now (some ⟨openedAt, phase⟩))
    (hphase : phase.isWaiting = false) (hover : phase.isOver = false) :
    Attended (alsoAt receivedAt received now) tooLong now (some ⟨openedAt, phase⟩) := by
  cases h with
  | fresh => cases hphase
  | restarted => cases hphase
  | inTime _ hbrief hlong hdecided =>
      refine .inTime hphase hbrief hlong (.inl ?_)
      rcases hdecided with hdecided | ⟨-, hisOver⟩
      · exact hdecided.alsoAt
      · rw [hover] at hisOver
        cases hisOver
  | late _ hlate hlong hdecided hskipped =>
      exact .late hphase hlate hlong (not_decided_alsoAt hdecided (.inr hlate)) hskipped.alsoAt

end message

/-- After the wait the handler goes on. -/
theorem Attended.proceed (h : Attended receivedAt tooLong now (some ⟨openedAt, phase⟩))
    (hphase : phase.isWaiting = false) (hphase' : phase'.isWaiting = false)
    (hover : phase.isOver = false ∨ phase'.isOver = true)
    (hbrief : phase'.deadline now = none ∨ phase.deadline now = some now) :
    Attended receivedAt tooLong now (some ⟨openedAt, phase'⟩) := by
  cases h with
  | fresh => cases hphase
  | restarted => cases hphase
  | inTime _ hnow hlong hdecided =>
      refine .inTime hphase' (fun hdeadline ↦ hnow ?_) hlong (hdecided.imp_right ?_)
      · rcases hbrief with hnone | hbrief
        · rw [hnone] at hdeadline
          cases hdeadline
        · exact hbrief
      · rintro ⟨hskipped, hisOver⟩
        rcases hover with hover | hover
        · rw [hover] at hisOver
          cases hisOver
        · exact ⟨hskipped, hover⟩
  | late _ hlate hlong hdecided hskipped => exact .late hphase' hlate hlong hdecided hskipped

end attended

/-! ## Runs -/

section Runs

variable {verifyPassword : String → String → Bool} {start s t : StreamState jwt}
  {labels : List Label} {label : Label} {socket : ℕ}

theorem receivedAt_append_singleton
    (hexec : Transition.exec (step verifyPassword) start labels = some s) (label : Label)
    (received : Received) (time : Instant) :
    ReceivedAt verifyPassword start (labels ++ [label]) socket received time ↔
      ReceivedAt verifyPassword start labels socket received time ∨
        label = .receive socket received ∧ s.auth.now = time := by
  constructor
  · rintro ⟨earlier, u, hpre, hu, htime⟩
    rcases List.prefix_concat_iff.mp hpre with heq | hpre
    · obtain ⟨rfl, hlabel⟩ := List.append_inj' heq rfl
      obtain rfl := Option.some.inj (hu.symm.trans hexec)
      exact .inr ⟨(List.singleton_inj.mp hlabel).symm, htime⟩
    · exact .inl ⟨earlier, u, hpre, hu, htime⟩
  · rintro (⟨earlier, u, hpre, hu, htime⟩ | ⟨rfl, htime⟩)
    · exact ⟨earlier, u, hpre.trans (List.prefix_append labels [label]), hu, htime⟩
    · exact ⟨labels, s, List.prefix_rfl, hexec, htime⟩

theorem wasOpenTooLong_append_singleton
    (hexec : Transition.exec (step verifyPassword) start (labels ++ [label]) = some t) :
    WasOpenTooLong verifyPassword start (labels ++ [label]) socket ↔
      WasOpenTooLong verifyPassword start labels socket ∨ t.OpenTooLong socket := by
  constructor
  · rintro ⟨earlier, u, hpre, hu, hlong⟩
    rcases List.prefix_concat_iff.mp hpre with rfl | hpre
    · obtain rfl := Option.some.inj (hu.symm.trans hexec)
      exact .inr hlong
    · exact .inl ⟨earlier, u, hpre, hu, hlong⟩
  · rintro (⟨earlier, u, hpre, hu, hlong⟩ | hlong)
    · exact ⟨earlier, u, hpre.trans (List.prefix_append labels [label]), hu, hlong⟩
    · exact ⟨labels ++ [label], t, List.prefix_rfl, hexec, hlong⟩

/-- Every socket stands as it should after what it has received. -/
def SocketsAttended (verifyPassword : String → String → Bool) (start : StreamState jwt)
    (labels : List Label) (s : StreamState jwt) : Prop :=
  ∀ socket, Attended (ReceivedAt verifyPassword start labels socket)
    (WasOpenTooLong verifyPassword start labels socket) s.auth.now s.sockets[socket]?

/-- An action that is no message for the socket. -/
theorem receivedAt_of_other (hexec : Transition.exec (step verifyPassword) start labels = some s)
    (hlabel : ∀ received, label ≠ .receive socket received) :
    ReceivedAt verifyPassword start (labels ++ [label]) socket =
      ReceivedAt verifyPassword start labels socket := by
  funext received time
  rw [receivedAt_append_singleton hexec, or_iff_left_of_imp]
  rintro ⟨heq, -⟩
  exact absurd heq (hlabel received)

/-- An action that is no message. -/
theorem receivedAt_of_isMessage
    (hexec : Transition.exec (step verifyPassword) start labels = some s)
    (hlabel : label.isMessage = false) (socket : ℕ) :
    ReceivedAt verifyPassword start (labels ++ [label]) socket =
      ReceivedAt verifyPassword start labels socket := by
  refine receivedAt_of_other hexec fun received heq ↦ ?_
  rw [heq] at hlabel
  cases hlabel

/-- A message for the socket. -/
theorem receivedAt_of_receive {received : Received}
    (hexec : Transition.exec (step verifyPassword) start labels = some s) :
    ReceivedAt verifyPassword start (labels ++ [.receive socket received]) socket =
      alsoAt (ReceivedAt verifyPassword start labels socket) received s.auth.now := by
  funext other time
  rw [receivedAt_append_singleton hexec, alsoAt, Label.receive.injEq, eq_comm (a := socket),
    eq_self_iff_true, true_and, eq_comm (a := received), eq_comm (a := s.auth.now)]

/-- A step that takes no time. -/
theorem SocketsAttended.of_now_eq (hnow : t.auth.now = s.auth.now)
    (hexec : Transition.exec (StreamState.step verifyPassword) start (labels ++ [label]) = some t)
    (h : ∀ socket, Attended (ReceivedAt verifyPassword start (labels ++ [label]) socket)
      (WasOpenTooLong verifyPassword start labels socket) s.auth.now t.sockets[socket]?) :
    SocketsAttended verifyPassword start (labels ++ [label]) t := by
  intro socket
  have hsocket := h socket
  have hlong : WasOpenTooLong verifyPassword start (labels ++ [label]) socket =
      WasOpenTooLong verifyPassword start labels socket := by
    rw [eq_iff_iff, wasOpenTooLong_append_singleton hexec, or_iff_left_of_imp]
    rintro ⟨openedAt, phase, hentry, hopen, hlate⟩
    rw [hentry] at hsocket
    rw [hnow] at hlate
    exact hsocket.noticed hopen hlate
  rw [hlong, hnow]
  exact hsocket

/-- A step of one handler. -/
theorem SocketsAttended.onSocket (h : SocketsAttended verifyPassword start labels s)
    (hexec : Transition.exec (StreamState.step verifyPassword) start labels = some s)
    (hnext : Transition.exec (StreamState.step verifyPassword) start (labels ++ [label]) = some t)
    {f : SocketPhase → Option SocketPhase} (hstep : s.onSocket socket f = some t)
    (hlabel : ∀ other received, label = .receive other received → other = socket)
    (hphase : ∀ openedAt phase phase', f phase = some phase' →
      Attended (ReceivedAt verifyPassword start labels socket)
        (WasOpenTooLong verifyPassword start labels socket) s.auth.now (some ⟨openedAt, phase⟩) →
      Attended (ReceivedAt verifyPassword start (labels ++ [label]) socket)
        (WasOpenTooLong verifyPassword start labels socket) s.auth.now
        (some ⟨openedAt, phase'⟩)) :
    SocketsAttended verifyPassword start (labels ++ [label]) t := by
  obtain ⟨openedAt, phase, phase', hentry, hf, rfl⟩ := onSocket_eq_some_iff.mp hstep
  refine .of_now_eq rfl hnext fun other ↦ ?_
  rw [setPhase, ListUpdate.getElem?_modify_of_some hentry]
  have hother := h other
  split
  case isTrue heq =>
      subst heq
      rw [hentry] at hother
      exact hphase openedAt phase phase' hf hother
  case isFalse hne =>
      rw [receivedAt_of_other hexec fun received heq ↦ hne (hlabel other received heq)]
      exact hother

/-- A step of one handler that is no message. -/
theorem SocketsAttended.onSocket_of_ne (h : SocketsAttended verifyPassword start labels s)
    (hexec : Transition.exec (StreamState.step verifyPassword) start labels = some s)
    (hnext : Transition.exec (StreamState.step verifyPassword) start (labels ++ [label]) = some t)
    {f : SocketPhase → Option SocketPhase} (hstep : s.onSocket socket f = some t)
    (hlabel : label.isMessage = false)
    (hphase : ∀ {receivedAt tooLong openedAt phase phase'},
      Attended receivedAt tooLong s.auth.now (some ⟨openedAt, phase⟩) → f phase = some phase' →
        Attended receivedAt tooLong s.auth.now (some ⟨openedAt, phase'⟩)) :
    SocketsAttended verifyPassword start (labels ++ [label]) t := by
  refine h.onSocket hexec hnext hstep (fun other received heq ↦ ?_) ?_
  · rw [heq] at hlabel
    cases hlabel
  · intro openedAt phase phase' hf hattended
    rw [receivedAt_of_isMessage hexec hlabel]
    exact hphase hattended hf

theorem isWaiting_presentToken (s : StreamState jwt) (text : String) :
    (s.presentToken text).isWaiting = false := by
  unfold presentToken
  repeat' split
  all_goals rfl

section phases

variable {receivedAt : Received → Instant → Prop} {tooLong : Prop} {openedAt : Instant}
  {phase phase' : SocketPhase}

theorem attended_receive {received : Received}
    (h : Attended receivedAt tooLong s.auth.now (some ⟨openedAt, phase⟩))
    (hstep : s.receive received phase = some phase') :
    Attended (alsoAt receivedAt received s.auth.now) tooLong s.auth.now
      (some ⟨openedAt, phase'⟩) := by
  cases phase with
  | waiting since =>
      cases hstep
      cases received with
      | text text => exact h.decide rfl (s.isWaiting_presentToken text)
      | frame | error => exact h.skip rfl
      | close | ended => exact h.decide rfl rfl
  | streaming claims cursor =>
      have hafter := @Attended.after _ _ _ _ _ received h rfl rfl
      cases hstep
      cases received with
      | text | frame => exact hafter
      | error | close | ended => exact hafter.proceed rfl rfl (.inl rfl) (.inl rfl)
  | sending claims cursor reading =>
      have hafter := @Attended.after _ _ _ _ _ received h rfl rfl
      cases hstep
      cases received with
      | text | frame => exact hafter
      | error | close | ended => exact hafter.proceed rfl rfl (.inl rfl) (.inl rfl)
  | _ => cases hstep

theorem attended_timeOut (h : Attended receivedAt tooLong s.auth.now (some ⟨openedAt, phase⟩))
    (hstep : s.timeOut phase = some phase') :
    Attended receivedAt tooLong s.auth.now (some ⟨openedAt, phase'⟩) := by
  cases phase with
  | waiting since =>
      simp only [timeOut] at hstep
      split at hstep
      case isTrue hdue =>
          cases hstep
          exact h.timeOut hdue _
      case isFalse => cases hstep
  | _ => cases hstep

theorem attended_checkSession
    (h : Attended receivedAt tooLong s.auth.now (some ⟨openedAt, phase⟩))
    (hstep : s.checkSession phase = some phase') :
    Attended receivedAt tooLong s.auth.now (some ⟨openedAt, phase'⟩) := by
  cases phase with
  | checking claims sessionId =>
      cases hstep
      split
      · exact h.proceed rfl rfl (.inl rfl) (.inr rfl)
      · exact h.proceed rfl rfl (.inl rfl) (.inr rfl)
  | _ => cases hstep

theorem attended_finishSend {delivered : Bool}
    (h : Attended receivedAt tooLong s.auth.now (some ⟨openedAt, phase⟩))
    (hstep : s.finishSend delivered phase = some phase') :
    Attended receivedAt tooLong s.auth.now (some ⟨openedAt, phase'⟩) := by
  cases phase with
  | refusing error =>
      cases hstep
      exact h.proceed rfl rfl (.inr rfl) (.inl rfl)
  | acknowledging claims =>
      cases hstep
      exact h.proceed rfl rfl (.inl rfl) (.inl rfl)
  | sending claims cursor reading =>
      cases hstep
      cases delivered with
      | true => exact h.proceed rfl rfl (.inl rfl) (.inl rfl)
      | false => exact h.proceed rfl rfl (.inl rfl) (.inl rfl)
  | _ => cases hstep

theorem attended_takeReading (h : Attended receivedAt tooLong s.auth.now (some ⟨openedAt, phase⟩))
    (hstep : s.takeReading phase = some phase') :
    Attended receivedAt tooLong s.auth.now (some ⟨openedAt, phase'⟩) := by
  cases phase with
  | streaming claims cursor =>
      obtain ⟨reading, -, rfl⟩ := Option.map_eq_some_iff.mp hstep
      exact h.proceed rfl rfl (.inl rfl) (.inl rfl)
  | _ => cases hstep

theorem attended_lag {oldest : ℕ}
    (h : Attended receivedAt tooLong s.auth.now (some ⟨openedAt, phase⟩))
    (hstep : s.lag oldest phase = some phase') :
    Attended receivedAt tooLong s.auth.now (some ⟨openedAt, phase'⟩) := by
  cases phase with
  | streaming claims cursor =>
      simp only [lag] at hstep
      split at hstep
      · cases hstep
        exact h.proceed rfl rfl (.inl rfl) (.inl rfl)
      · cases hstep
  | _ => cases hstep

end phases

/-- A connection is opened. -/
theorem SocketsAttended.upgrade (h : SocketsAttended verifyPassword start labels s)
    (hexec : Transition.exec (StreamState.step verifyPassword) start labels = some s)
    (hnext : Transition.exec (StreamState.step verifyPassword) start (labels ++ [.upgrade]) =
      some { s with sockets := s.sockets ++ [⟨s.auth.now, .waiting s.auth.now⟩] }) :
    SocketsAttended verifyPassword start (labels ++ [.upgrade])
      { s with sockets := s.sockets ++ [⟨s.auth.now, .waiting s.auth.now⟩] } := by
  refine .of_now_eq rfl hnext fun socket ↦ ?_
  rw [receivedAt_of_isMessage hexec rfl, ListUpdate.getElem?_append_singleton]
  have hsocket := h socket
  split
  case isTrue heq =>
      rw [heq, List.getElem?_eq_none le_rfl] at hsocket
      rw [heq]
      cases hsocket with
      | absent hreceived hlong =>
          refine .fresh le_rfl (Nat.le_add_right _ _) hlong ?_ ?_
          · rintro ⟨received, time, hreceivedAt, -⟩
            exact hreceived received time hreceivedAt
          · rintro ⟨received, time, hreceivedAt, -⟩
            exact hreceived received time hreceivedAt
  case isFalse => exact hsocket

theorem SocketsAttended.tick (h : SocketsAttended verifyPassword start labels s)
    (hexec : Transition.exec (StreamState.step verifyPassword) start labels = some s)
    {now : Instant} (hle : s.auth.now ≤ now) (hprompt : s.Prompt (.auth (.tick now)))
    (hnext : Transition.exec (StreamState.step verifyPassword) start
      (labels ++ [.auth (.tick now)]) = some { s with auth := { s.auth with now := now } }) :
    SocketsAttended verifyPassword start (labels ++ [.auth (.tick now)])
      { s with auth := { s.auth with now := now } } := by
  intro socket
  rw [receivedAt_of_isMessage hexec rfl, propext (wasOpenTooLong_append_singleton hnext)]
  refine (h socket).tick hle fun entry hentry ↦ hprompt entry ?_
  exact List.mem_of_getElem? hentry

/-- **One step.** -/
theorem SocketsAttended.step (h : SocketsAttended verifyPassword start labels s)
    (hexec : Transition.exec (StreamState.step verifyPassword) start labels = some s)
    (hprompt : s.Prompt label) (hstep : s.step verifyPassword label = some t) :
    SocketsAttended verifyPassword start (labels ++ [label]) t := by
  have hnext : Transition.exec (StreamState.step verifyPassword) start (labels ++ [label]) =
      some t := by
    rw [Transition.exec_append_singleton, hexec]
    exact hstep
  cases label with
  | auth label =>
      obtain ⟨auth, hauth, rfl⟩ := Option.map_eq_some_iff.mp hstep
      by_cases htick : ∃ now, label = .tick now
      · obtain ⟨now, rfl⟩ := htick
        simp only [AuthRuntime.step] at hauth
        split at hauth
        case isTrue hle =>
            cases hauth
            exact h.tick hexec hle hprompt hnext
        case isFalse => cases hauth
      · have hnow := AuthRuntime.now_of_step hauth (not_exists.mp htick)
        refine .of_now_eq hnow hnext fun socket ↦ ?_
        rw [receivedAt_of_isMessage hexec rfl]
        exact h socket
  | publish reading =>
      cases hstep
      refine .of_now_eq rfl hnext fun socket ↦ ?_
      rw [receivedAt_of_isMessage hexec rfl]
      exact h socket
  | upgrade =>
      cases hstep
      exact h.upgrade hexec hnext
  | receive socket received =>
      refine h.onSocket hexec hnext hstep (fun _ _ heq ↦ (Label.receive.inj heq).1.symm) ?_
      intro openedAt phase phase' hphase hattended
      rw [receivedAt_of_receive hexec]
      exact attended_receive hattended hphase
  | timeOut socket => exact h.onSocket_of_ne hexec hnext hstep rfl attended_timeOut
  | checkSession socket => exact h.onSocket_of_ne hexec hnext hstep rfl attended_checkSession
  | finishSend socket delivered => exact h.onSocket_of_ne hexec hnext hstep rfl attended_finishSend
  | takeReading socket => exact h.onSocket_of_ne hexec hnext hstep rfl attended_takeReading
  | lag socket oldest => exact h.onSocket_of_ne hexec hnext hstep rfl attended_lag

theorem socketsAttended_init (hsockets : start.sockets = []) :
    SocketsAttended verifyPassword start [] start := by
  intro socket
  rw [hsockets]
  refine .absent ?_ ?_
  · rintro received time ⟨earlier, u, hpre, -⟩
    have hlength := hpre.length_le
    simp at hlength
  · rintro ⟨earlier, u, hpre, hu, openedAt, phase, hsocket, -⟩
    obtain rfl := List.prefix_nil.mp hpre
    obtain rfl : start = u := by simpa [Transition.exec] using hu
    rw [hsockets] at hsocket
    cases hsocket

theorem socketsAttended_run (hsockets : start.sockets = [])
    (hrun : Transition.Run
      (Transition.guarded Prompt (Transition.ofOption (StreamState.step verifyPassword)))
      start labels s) : SocketsAttended verifyPassword start labels s := by
  induction hrun with
  | nil => exact socketsAttended_init hsockets
  | snoc hbefore hlast ih =>
      exact ih.step (Transition.run_ofOption_iff.mp hbefore.of_guarded) hlast.1 hlast.2

/-- **Time to authenticate.** In a run that keeps to the timeouts a socket is at no time open for
more than ten seconds without a valid token exactly when the run ends within its ten seconds, or
something in them has ended the wait, or nothing has been skipped in them. -/
theorem open_atMost_iff {now : Instant} {users : UserTable} {auditTrail : AuditTable}
    (hrun : Transition.Run
      (Transition.guarded Prompt (Transition.ofOption (StreamState.step verifyPassword)))
      (init jwt now users auditTrail) labels s)
    {openedAt : Instant} {phase : SocketPhase}
    (hsocket : s.sockets[socket]? = some ⟨openedAt, phase⟩) :
    ¬WasOpenTooLong verifyPassword (init jwt now users auditTrail) labels socket ↔
      s.auth.now ≤ openedAt + 10 * nanosPerSecond ∨
      Decided (ReceivedAt verifyPassword (init jwt now users auditTrail) labels socket) openedAt ∨
      ¬Skipped (ReceivedAt verifyPassword (init jwt now users auditTrail) labels socket)
        openedAt := by
  have hattended := socketsAttended_run rfl hrun socket
  rw [hsocket] at hattended
  exact hattended.not_tooLong_iff

end Runs

/-! ## Two connections -/

/-- A ping after three seconds, a text after five. -/
def textRun : List Label :=
  [.upgrade, .auth (.tick (3 * nanosPerSecond)), .receive 0 .frame,
    .auth (.tick (5 * nanosPerSecond)), .receive 0 (.text "token"), .finishSend 0 true,
    .auth (.tick (20 * nanosPerSecond))]

theorem open_atMost_iff_textRun : ∃ s, Transition.Run
      (Transition.guarded Prompt (Transition.ofOption (step AuthRuntime.verifyHash)))
      (init AuthRuntime.firstJwt 0 AuthRuntime.operatorTable .empty) textRun s ∧
    ¬WasOpenTooLong AuthRuntime.verifyHash
      (init AuthRuntime.firstJwt 0 AuthRuntime.operatorTable .empty) textRun 0 := by
  have htest : (Transition.exec
      (fun s label ↦ if s.Prompt label then s.step AuthRuntime.verifyHash label else none)
      (init AuthRuntime.firstJwt 0 AuthRuntime.operatorTable .empty) textRun).any fun s ↦
        s.sockets[0]? == some ⟨0, .closed⟩ := by decide
  obtain ⟨s, hrun, hsocket⟩ := Transition.exists_run_guarded_of_any htest
  have hreceived : ReceivedAt AuthRuntime.verifyHash
      (init AuthRuntime.firstJwt 0 AuthRuntime.operatorTable .empty) textRun 0 (.text "token")
      (5 * nanosPerSecond) := ⟨textRun.take 4, _, List.take_prefix 5 textRun, rfl, rfl⟩
  refine ⟨s, hrun, (open_atMost_iff hrun (beq_iff_eq.mp hsocket)).mpr (.inr (.inl ?_))⟩
  exact ⟨_, _, hreceived, rfl, by decide⟩

/-- A ping after nine seconds, and nothing else. -/
def pingRun : List Label :=
  [.upgrade, .auth (.tick (9 * nanosPerSecond)), .receive 0 .frame,
    .auth (.tick (12 * nanosPerSecond))]

/-- The socket is still open after twelve seconds. -/
theorem pingRun_openTooLong : ∃ s, Transition.Run
      (Transition.guarded Prompt (Transition.ofOption (step AuthRuntime.verifyHash)))
      (init AuthRuntime.firstJwt 0 AuthRuntime.operatorTable .empty) pingRun s ∧
    s.OpenTooLong 0 := by
  have htest : (Transition.exec
      (fun s label ↦ if s.Prompt label then s.step AuthRuntime.verifyHash label else none)
      (init AuthRuntime.firstJwt 0 AuthRuntime.operatorTable .empty) pingRun).any fun s ↦
        s.sockets[0]? == some ⟨0, .waiting (9 * nanosPerSecond)⟩ &&
          decide (10 * nanosPerSecond < s.auth.now) := by decide
  obtain ⟨s, hrun, hs⟩ := Transition.exists_run_guarded_of_any htest
  obtain ⟨hsocket, hnow⟩ := Bool.and_eq_true_iff.mp hs
  refine ⟨s, hrun, 0, _, beq_iff_eq.mp hsocket, rfl, ?_⟩
  rw [Nat.zero_add]
  exact of_decide_eq_true hnow

end StreamState

end VyuhHmi
