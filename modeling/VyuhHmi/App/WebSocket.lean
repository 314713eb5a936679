import VyuhHmi.Foundation.Transition

/-!
# The web socket service

The service keeps one connection to the server and opens it again, after a delay, when it is lost.
Its fields name a channel, a subscription and a timer.  What goes on whether or not a field still
names it is beside them: the attempts that wait for their handshake, the subscriptions that still
deliver, and the timers that will fire.  After a handshake the service goes on with the channel that
its field names by then.
-/

open Transition

namespace VyuhHmi.App

variable {Data : Type}

/-- What the message handler makes of a frame: an answer to the token, an error, a reading, or none
of them. -/
inductive Frame (Data : Type)
  | authOk
  | error
  | data (data : Data)
  | malformed
deriving DecidableEq

/-- The callbacks of the service. -/
inductive Callback
  | connectionChanged (connected : Bool)
  | authFailed
deriving DecidableEq

structure WebSocketService (Data : Type) where
  authToken : Option String
  channel : Option ℕ
  subscription : Option ℕ
  reconnectTimer : Option ℕ
  disposed : Bool
  authFailed : Bool
  /-- The readings given to the listeners of the stream. -/
  stream : List Data
  calls : List Callback
  inFlight : List ℕ
  listening : List ℕ
  timers : List ℕ
  /-- The connection attempts begun so far. -/
  attempts : ℕ
  /-- The name of the next channel, subscription or timer. -/
  fresh : ℕ
deriving DecidableEq

namespace WebSocketService

def create (authToken : Option String) : WebSocketService Data where
  authToken := authToken
  channel := none
  subscription := none
  reconnectTimer := none
  disposed := false
  authFailed := false
  stream := []
  calls := []
  inFlight := []
  listening := []
  timers := []
  attempts := 0
  fresh := 0

variable (service : WebSocketService Data)

/-- Whether currently connected. -/
def isConnected : Bool := service.channel.isSome

/-- Set auth token (called after login). -/
def setAuthToken (token : Option String) : WebSocketService Data :=
  { service with authToken := token, authFailed := false }

def call (callback : Callback) : WebSocketService Data :=
  { service with calls := service.calls ++ [callback] }

def cancelSubscription : WebSocketService Data :=
  { service with listening := service.listening.filter fun id ↦ service.subscription != some id }

def cancelTimer : WebSocketService Data :=
  { service with timers := service.timers.filter fun id ↦ service.reconnectTimer != some id }

def closeChannel : WebSocketService Data :=
  { service.cancelSubscription with channel := none, subscription := none }

/-- `_reconnectTimer = Timer(reconnectDelay, _doConnect)`. -/
def startTimer : WebSocketService Data :=
  { service with
    reconnectTimer := some service.fresh
    timers := service.fresh :: service.timers
    fresh := service.fresh + 1 }

def handleDisconnect : WebSocketService Data :=
  let closed := service.closeChannel.call (.connectionChanged false)
  if !closed.disposed && !closed.authFailed then closed.cancelTimer.startTimer else closed

/-- Up to the handshake; `opens` is false if the address or the opening of the channel throws. -/
def doConnect (opens : Bool) : WebSocketService Data :=
  if service.authFailed || service.disposed then service
  else
    let attempted := { service with attempts := service.attempts + 1 }
    if opens then
      { attempted with
        channel := some attempted.fresh
        inFlight := attempted.fresh :: attempted.inFlight
        fresh := attempted.fresh + 1 }
    else attempted.handleDisconnect

/-- Start the connection. -/
def connect (opens : Bool) : WebSocketService Data :=
  if service.disposed then service
  else { service with authFailed := false }.doConnect opens

/-- `_doConnect` after the handshake: the field may be null by then, and sending may throw. -/
def afterHandshake (sendThrows : Bool) : WebSocketService Data :=
  match service.channel with
  | none => service.handleDisconnect
  | some _ =>
      if service.authToken.isSome && sendThrows then service.handleDisconnect
      else
        { service with
          subscription := some service.fresh
          listening := service.fresh :: service.listening
          fresh := service.fresh + 1 }

/-- The message handler.  Nothing can be added to the stream after `dispose`. -/
def onFrame : Frame Data → WebSocketService Data
  | .authOk => service.call (.connectionChanged true)
  | .error =>
      let closed := { service with authFailed := true }.closeChannel
      (closed.call (.connectionChanged false)).call .authFailed
  | .data data =>
      if service.disposed then service else { service with stream := service.stream ++ [data] }
  | .malformed => service

/-- Close the connection permanently. -/
def dispose : WebSocketService Data :=
  { service with disposed := true }.cancelTimer.cancelSubscription

end WebSocketService

/-! ## Events -/

/-- What can happen to the service, with the attempt, the subscription or the timer it happens
to. -/
inductive SocketEvent (Data : Type)
  | connect (opens : Bool)
  | handshakeSucceeded (attempt : ℕ) (sendThrows : Bool)
  | handshakeFailed (attempt : ℕ)
  | frame (subscription : ℕ) (frame : Frame Data)
  | streamError (subscription : ℕ)
  | streamEnd (subscription : ℕ)
  | timerFired (timer : ℕ) (opens : Bool)
  | setAuthToken (token : Option String)
  | dispose
deriving DecidableEq

/-- `setAuthToken` or `connect`. -/
def SocketEvent.allowsReconnect : SocketEvent Data → Bool
  | .connect _ => true
  | .setAuthToken _ => true
  | _ => false

namespace WebSocketService

/-- Nothing is in flight, open or pending. -/
def Quiet (service : WebSocketService Data) : Prop :=
  service.inFlight = [] ∧ service.listening = [] ∧ service.timers = []

instance (service : WebSocketService Data) : Decidable service.Quiet :=
  inferInstanceAs (Decidable (_ ∧ _ ∧ _))

/-- One event.  `connect` is called only when nothing is in flight, open or pending. -/
def step (service : WebSocketService Data) : SocketEvent Data → Option (WebSocketService Data)
  | .connect opens => if service.Quiet then some (service.connect opens) else none
  | .handshakeSucceeded attempt sendThrows =>
      if attempt ∈ service.inFlight then
        some ({ service with inFlight := service.inFlight.erase attempt }.afterHandshake sendThrows)
      else none
  | .handshakeFailed attempt =>
      if attempt ∈ service.inFlight then
        some { service with inFlight := service.inFlight.erase attempt }.handleDisconnect
      else none
  | .frame subscription frame =>
      if subscription ∈ service.listening then some (service.onFrame frame) else none
  | .streamError subscription =>
      if subscription ∈ service.listening then some service.handleDisconnect else none
  | .streamEnd subscription =>
      if subscription ∈ service.listening then
        some { service with listening := service.listening.erase subscription }.handleDisconnect
      else none
  | .timerFired timer opens =>
      if timer ∈ service.timers then
        some ({ service with timers := service.timers.erase timer }.doConnect opens)
      else none
  | .setAuthToken token => some (service.setAuthToken token)
  | .dispose => some service.dispose

/-! ## One at a time -/

/-- The fields name what there is, and there is at most one of it. -/
structure Coherent (service : WebSocketService Data) : Prop where
  atMostOne :
    service.inFlight.length + service.listening.length + service.timers.length ≤ 1
  subscribed : ∀ id ∈ service.listening, service.subscription = some id
  scheduled : ∀ id ∈ service.timers, service.reconnectTimer = some id
  stopped : service.disposed = true → service.timers = []
  rejected : service.authFailed = true → service.Quiet

variable {service : WebSocketService Data}

/-- With nothing going on the fields do not matter. -/
theorem Quiet.coherent (h : service.Quiet) : service.Coherent := by
  refine ⟨?_, ?_, ?_, fun _ ↦ h.2.2, fun _ ↦ h⟩
  · simp [h.1, h.2.1, h.2.2]
  · simp [h.2.1]
  · simp [h.2.2]

theorem create_coherent (authToken : Option String) :
    (create authToken : WebSocketService Data).Coherent :=
  Quiet.coherent ⟨rfl, rfl, rfl⟩

/-- Of at most one in all, one is all there is. -/
theorem alone_of_mem {l l' l'' : List ℕ} (hone : l.length + l'.length + l''.length ≤ 1) {id : ℕ}
    (hmem : id ∈ l) : l = [id] ∧ l' = [] ∧ l'' = [] := by
  have hpos := List.length_pos_of_mem hmem
  obtain ⟨only, rfl⟩ := List.length_eq_one_iff.mp (show l.length = 1 by omega)
  rw [List.mem_singleton.mp hmem]
  exact ⟨rfl, List.eq_nil_of_length_eq_zero (by omega), List.eq_nil_of_length_eq_zero (by omega)⟩

namespace Coherent

/-- An attempt in flight is alone. -/
theorem erase_attempt (h : service.Coherent) {attempt : ℕ} (hmem : attempt ∈ service.inFlight) :
    { service with inFlight := service.inFlight.erase attempt }.Quiet := by
  obtain ⟨hinFlight, hlistening, htimers⟩ := alone_of_mem h.atMostOne hmem
  exact ⟨by simp [hinFlight], hlistening, htimers⟩

/-- A subscription is alone. -/
theorem alone_of_listening (h : service.Coherent) {subscription : ℕ}
    (hmem : subscription ∈ service.listening) :
    service.inFlight = [] ∧ service.listening = [subscription] ∧ service.timers = [] := by
  have hone := h.atMostOne
  rw [Nat.add_comm service.inFlight.length] at hone
  obtain ⟨hlistening, hinFlight, htimers⟩ := alone_of_mem hone hmem
  exact ⟨hinFlight, hlistening, htimers⟩

/-- A timer is alone. -/
theorem erase_timer (h : service.Coherent) {timer : ℕ} (hmem : timer ∈ service.timers) :
    { service with timers := service.timers.erase timer }.Quiet := by
  have hone := h.atMostOne
  rw [Nat.add_comm, ← Nat.add_assoc] at hone
  obtain ⟨htimers, hinFlight, hlistening⟩ := alone_of_mem hone hmem
  exact ⟨hinFlight, hlistening, by simp [htimers]⟩

/-- Cancelling the subscription leaves none. -/
theorem listening_cancelSubscription (h : service.Coherent) :
    service.cancelSubscription.listening = [] := by
  refine List.filter_eq_nil_iff.mpr fun id hid ↦ ?_
  simp [h.subscribed id hid]

theorem timers_cancelTimer (h : service.Coherent) : service.cancelTimer.timers = [] := by
  refine List.filter_eq_nil_iff.mpr fun id hid ↦ ?_
  simp [h.scheduled id hid]

end Coherent

/-- A timer started when nothing goes on is the only thing there is. -/
theorem Quiet.startTimer (h : service.Quiet) (hdisposed : service.disposed = false)
    (hauthFailed : service.authFailed = false) : service.startTimer.Coherent := by
  obtain ⟨hinFlight, hlistening, htimers⟩ := h
  constructor <;> simp_all [WebSocketService.startTimer]

theorem Quiet.cancelTimer (h : service.Quiet) : service.cancelTimer.Quiet :=
  ⟨h.1, h.2.1, by simp [WebSocketService.cancelTimer, h.2.2]⟩

theorem Quiet.call (h : service.Quiet) (callback : Callback) : (service.call callback).Quiet := h

/-- After a lost connection there is at most a timer. -/
theorem handleDisconnect_coherent (h : service.closeChannel.Quiet) :
    service.handleDisconnect.Coherent := by
  have hclosed := h.call (.connectionChanged false)
  unfold handleDisconnect
  dsimp only
  split
  · next hgo =>
      rw [Bool.and_eq_true, Bool.not_eq_true', Bool.not_eq_true'] at hgo
      exact hclosed.cancelTimer.startTimer hgo.1 hgo.2
  · exact hclosed.coherent

theorem Quiet.closeChannel (h : service.Quiet) : service.closeChannel.Quiet :=
  ⟨h.1, by simp [WebSocketService.closeChannel, cancelSubscription, h.2.1], h.2.2⟩

/-- A connection begun when nothing goes on is in flight, or has failed already. -/
theorem Quiet.doConnect (h : service.Quiet) (opens : Bool) : (service.doConnect opens).Coherent := by
  unfold WebSocketService.doConnect
  split
  · exact h.coherent
  · next hgo =>
      dsimp only
      split
      · obtain ⟨hinFlight, hlistening, htimers⟩ := h
        constructor <;> simp_all
      · exact handleDisconnect_coherent (Quiet.closeChannel h)

theorem Quiet.connect (h : service.Quiet) (opens : Bool) : (service.connect opens).Coherent := by
  unfold WebSocketService.connect
  split
  · exact h.coherent
  · have hallowed : Quiet { service with authFailed := false } := h
    exact hallowed.doConnect opens

/-- A handshake that is over leaves a subscription, or has failed after all. -/
theorem Quiet.afterHandshake (h : service.Quiet) (hauthFailed : service.authFailed = false)
    (sendThrows : Bool) : (service.afterHandshake sendThrows).Coherent := by
  unfold WebSocketService.afterHandshake
  split
  · exact handleDisconnect_coherent h.closeChannel
  · split
    · exact handleDisconnect_coherent h.closeChannel
    · obtain ⟨hinFlight, hlistening, htimers⟩ := h
      constructor <;> simp_all

theorem Coherent.setAuthToken (h : service.Coherent) (token : Option String) :
    (service.setAuthToken token).Coherent :=
  ⟨h.atMostOne, h.subscribed, h.scheduled, h.stopped, fun hfalse ↦ nomatch hfalse⟩

/-- After `dispose` only a handshake may go on. -/
theorem Coherent.dispose (h : service.Coherent) : service.dispose.Coherent := by
  have htimers : service.dispose.timers = [] := h.timers_cancelTimer
  have hlistening : service.dispose.listening = [] := h.listening_cancelSubscription
  have hone := h.atMostOne
  refine ⟨?_, ?_, ?_, fun _ ↦ htimers, fun hrejected ↦ ?_⟩
  · rw [htimers, hlistening]
    change service.inFlight.length + 0 + 0 ≤ 1
    omega
  · simp [hlistening]
  · simp [htimers]
  · exact ⟨(h.rejected hrejected).1, hlistening, htimers⟩

/-- An open connection that is given up leaves nothing. -/
theorem Coherent.closeChannel_quiet (h : service.Coherent) {subscription : ℕ}
    (hmem : subscription ∈ service.listening) : service.closeChannel.Quiet := by
  obtain ⟨hinFlight, -, htimers⟩ := h.alone_of_listening hmem
  exact ⟨hinFlight, h.listening_cancelSubscription, htimers⟩

theorem Coherent.onFrame (h : service.Coherent) {subscription : ℕ}
    (hmem : subscription ∈ service.listening) (frame : Frame Data) :
    (service.onFrame frame).Coherent := by
  cases frame with
  | authOk => exact ⟨h.atMostOne, h.subscribed, h.scheduled, h.stopped, h.rejected⟩
  | error =>
      have hclosed : Quiet ({ service with authFailed := true }.closeChannel) :=
        h.closeChannel_quiet hmem
      exact ((hclosed.call _).call _).coherent
  | data data =>
      unfold WebSocketService.onFrame
      dsimp only
      split
      · exact h
      · exact ⟨h.atMostOne, h.subscribed, h.scheduled, h.stopped, h.rejected⟩
  | malformed => exact h

/-- Step lemma: every event keeps the fields and what goes on together. -/
theorem Coherent.step {next : WebSocketService Data} (h : service.Coherent)
    {event : SocketEvent Data} (hstep : service.step event = some next) : next.Coherent := by
  cases event <;>
    simp only [WebSocketService.step, Option.ite_none_right_eq_some, Option.some.injEq] at hstep
  case connect opens =>
    obtain ⟨hquiet, rfl⟩ := hstep
    exact hquiet.connect opens
  case handshakeSucceeded attempt sendThrows =>
    obtain ⟨hmem, rfl⟩ := hstep
    refine Quiet.afterHandshake (h.erase_attempt hmem) ?_ sendThrows
    -- an attempt in flight is none of a rejected service
    refine Bool.eq_false_iff.mpr fun hrejected ↦ ?_
    rw [(h.rejected hrejected).1] at hmem
    exact absurd hmem List.not_mem_nil
  case handshakeFailed attempt =>
    obtain ⟨hmem, rfl⟩ := hstep
    exact handleDisconnect_coherent (Quiet.closeChannel (h.erase_attempt hmem))
  case frame subscription frame =>
    obtain ⟨hmem, rfl⟩ := hstep
    exact h.onFrame hmem frame
  case streamError subscription =>
    obtain ⟨hmem, rfl⟩ := hstep
    exact handleDisconnect_coherent (h.closeChannel_quiet hmem)
  case streamEnd subscription =>
    obtain ⟨hmem, rfl⟩ := hstep
    obtain ⟨hinFlight, hlistening, htimers⟩ := h.alone_of_listening hmem
    refine handleDisconnect_coherent (Quiet.closeChannel ⟨hinFlight, ?_, htimers⟩)
    simp [hlistening]
  case timerFired timer opens =>
    obtain ⟨hmem, rfl⟩ := hstep
    exact Quiet.doConnect (h.erase_timer hmem) opens
  case setAuthToken token =>
    obtain rfl := hstep
    exact h.setAuthToken token
  case dispose =>
    obtain rfl := hstep
    exact h.dispose

/-- Run lemma: whatever the order of the events. -/
theorem coherent_of_exec {authToken : Option String} {events : List (SocketEvent Data)}
    (hrun : exec step (create authToken) events = some service) : service.Coherent :=
  (run_ofOption_iff.mpr hrun).invariant (create_coherent authToken)
    fun _ _ _ hcoherent hstep ↦ hcoherent.step hstep

/-! ## No more attempts -/

/-- No connection is attempted in this state until the service is told to. -/
def Closed (service : WebSocketService Data) : Prop :=
  service.disposed = true ∨ service.authFailed = true

/-- The second state has attempted no more than the first, and is closed if the first is. -/
def NoAttempt (service next : WebSocketService Data) : Prop :=
  next.attempts = service.attempts ∧ (service.disposed = true → next.disposed = true) ∧
    (service.authFailed = true → next.authFailed = true)

variable {next : WebSocketService Data}

theorem handleDisconnect_noAttempt : service.NoAttempt service.handleDisconnect := by
  unfold handleDisconnect
  dsimp only
  split <;> exact ⟨rfl, id, id⟩

theorem afterHandshake_noAttempt (sendThrows : Bool) :
    service.NoAttempt (service.afterHandshake sendThrows) := by
  unfold afterHandshake
  split
  · exact handleDisconnect_noAttempt
  · split
    · exact handleDisconnect_noAttempt
    · exact ⟨rfl, id, id⟩

theorem onFrame_noAttempt (frame : Frame Data) : service.NoAttempt (service.onFrame frame) := by
  cases frame with
  | authOk => exact ⟨rfl, id, id⟩
  | error => exact ⟨rfl, id, fun _ ↦ rfl⟩
  | data data =>
      unfold onFrame
      dsimp only
      split <;> exact ⟨rfl, id, id⟩
  | malformed => exact ⟨rfl, id, id⟩

theorem doConnect_noAttempt (h : service.Closed) (opens : Bool) :
    service.NoAttempt (service.doConnect opens) := by
  have hclosed : (service.authFailed || service.disposed) = true := by
    rcases h with h | h <;> simp [h]
  rw [doConnect, if_pos hclosed]
  exact ⟨rfl, id, id⟩

/-- A closed service attempts nothing, unless a rejected one is told to. -/
theorem step_noAttempt {event : SocketEvent Data} (hstep : service.step event = some next)
    (h : service.disposed = true ∨
      service.authFailed = true ∧ event.allowsReconnect = false) :
    next.attempts = service.attempts ∧ (service.disposed = true → next.disposed = true) ∧
      (service.authFailed = true → event.allowsReconnect = false → next.authFailed = true) := by
  have hweaken (hnext : service.NoAttempt next) : next.attempts = service.attempts ∧
      (service.disposed = true → next.disposed = true) ∧
      (service.authFailed = true → event.allowsReconnect = false → next.authFailed = true) :=
    ⟨hnext.1, hnext.2.1, fun hfailed _ ↦ hnext.2.2 hfailed⟩
  cases event <;>
    simp only [WebSocketService.step, Option.ite_none_right_eq_some, Option.some.injEq] at hstep
  case connect opens =>
    obtain ⟨-, rfl⟩ := hstep
    have hdisposed : service.disposed = true := by
      rcases h with h | ⟨-, h⟩
      · exact h
      · exact nomatch h
    rw [connect, if_pos hdisposed]
    exact ⟨rfl, id, fun hfailed _ ↦ hfailed⟩
  case handshakeSucceeded attempt sendThrows =>
    obtain ⟨-, rfl⟩ := hstep
    exact hweaken (afterHandshake_noAttempt sendThrows)
  case handshakeFailed attempt =>
    obtain ⟨-, rfl⟩ := hstep
    exact hweaken handleDisconnect_noAttempt
  case frame subscription frame =>
    obtain ⟨-, rfl⟩ := hstep
    exact hweaken (onFrame_noAttempt frame)
  case streamError subscription =>
    obtain ⟨-, rfl⟩ := hstep
    exact hweaken handleDisconnect_noAttempt
  case streamEnd subscription =>
    obtain ⟨-, rfl⟩ := hstep
    exact hweaken handleDisconnect_noAttempt
  case timerFired timer opens =>
    obtain ⟨-, rfl⟩ := hstep
    have hclosed : Closed { service with timers := service.timers.erase timer } :=
      h.imp_right And.left
    exact hweaken (doConnect_noAttempt hclosed opens)
  case setAuthToken token =>
    obtain rfl := hstep
    exact ⟨rfl, id, fun _ hallows ↦ nomatch hallows⟩
  case dispose =>
    obtain rfl := hstep
    exact ⟨rfl, fun _ ↦ rfl, fun hfailed _ ↦ hfailed⟩

/-- Run lemma: a disposed service attempts nothing, a rejected one nothing until it is told to. -/
theorem attempts_of_exec {events : List (SocketEvent Data)}
    (hrun : exec step service events = some next)
    (h : service.disposed = true ∨
      service.authFailed = true ∧ ∀ event ∈ events, event.allowsReconnect = false) :
    next.attempts = service.attempts := by
  induction events generalizing service with
  | nil =>
      obtain rfl : service = next := by simpa [exec] using hrun
      rfl
  | cons event events ih =>
      rw [exec, List.foldlM_cons] at hrun
      obtain ⟨between, hfirst, hrest⟩ := Option.bind_eq_some_iff.mp hrun
      obtain ⟨hattempts, hdisposed, hfailed⟩ := step_noAttempt hfirst
        (h.imp_right fun hrejected ↦ ⟨hrejected.1, hrejected.2 _ List.mem_cons_self⟩)
      rw [← hattempts]
      refine ih hrest (h.imp hdisposed fun hrejected ↦ ⟨?_, fun later hlater ↦ ?_⟩)
      · exact hfailed hrejected.1 (hrejected.2 _ List.mem_cons_self)
      · exact hrejected.2 later (List.mem_cons_of_mem _ hlater)

theorem disposed_of_step (hstep : service.step .dispose = some next) : next.disposed = true := by
  obtain rfl : service.dispose = next := by simpa [WebSocketService.step] using hstep
  rfl

theorem authFailed_of_step {subscription : ℕ}
    (hstep : service.step (.frame subscription .error) = some next) : next.authFailed = true := by
  simp only [WebSocketService.step, Option.ite_none_right_eq_some, Option.some.injEq] at hstep
  obtain ⟨-, rfl⟩ := hstep
  rfl

/-- **One connection at most.** In every reachable state at most one attempt in flight, listening
subscription or pending timer exists; and no attempt begins after `dispose`, or after an error frame
until `setAuthToken` or `connect`. -/
theorem exec_connects_once {authToken : Option String} {events : List (SocketEvent Data)}
    (hrun : exec step (create authToken) events = some service) :
    service.inFlight.length + service.listening.length + service.timers.length ≤ 1 ∧
      ∀ before event after, events = before ++ [event] ++ after →
        (event = .dispose ∨ (∃ subscription, event = .frame subscription .error) ∧
          ∀ later ∈ after, later.allowsReconnect = false) →
        ∀ closed, exec step (create authToken) (before ++ [event]) = some closed →
          service.attempts = closed.attempts := by
  refine ⟨(coherent_of_exec hrun).atMostOne, ?_⟩
  rintro before event after rfl hevent closed hclosed
  rw [exec_append, hclosed, Option.bind_some] at hrun
  rw [exec_append_singleton, Option.bind_eq_some_iff] at hclosed
  obtain ⟨earlier, -, hstep⟩ := hclosed
  rcases hevent with rfl | ⟨⟨subscription, rfl⟩, hafter⟩
  · exact attempts_of_exec hrun (.inl (disposed_of_step hstep))
  · exact attempts_of_exec hrun (.inr ⟨authFailed_of_step hstep, hafter⟩)

/-- Connected, lost and connected again. -/
def connectedAgain : List (SocketEvent ℕ) :=
  [.connect true, .handshakeSucceeded 0 false, .streamEnd 1, .timerFired 2 true,
    .handshakeSucceeded 3 false]

/-- What a rejection leaves of that. -/
def rejectedService : WebSocketService ℕ where
  authToken := some "token"
  channel := none
  subscription := none
  reconnectTimer := some 2
  disposed := false
  authFailed := true
  stream := []
  calls := [.connectionChanged false, .connectionChanged false, .authFailed]
  inFlight := []
  listening := []
  timers := []
  attempts := 2
  fresh := 5

theorem exec_connects_once_rejected :
    rejectedService.dispose.inFlight.length + rejectedService.dispose.listening.length +
        rejectedService.dispose.timers.length ≤ 1 ∧
      rejectedService.dispose.attempts = rejectedService.attempts := by
  have hclosed : exec step (create (some "token")) (connectedAgain ++ [.frame 4 .error]) =
      some rejectedService := rfl
  have hrun : exec step (create (some "token")) (connectedAgain ++ [.frame 4 .error] ++ [.dispose]) =
      some rejectedService.dispose := rfl
  obtain ⟨hone, hattempts⟩ := exec_connects_once hrun
  exact ⟨hone, hattempts connectedAgain (.frame 4 .error) [.dispose] rfl
    (.inr ⟨⟨4, rfl⟩, fun later hlater ↦ by rw [List.mem_singleton.mp hlater]; rfl⟩) _ hclosed⟩

end WebSocketService

end VyuhHmi.App
