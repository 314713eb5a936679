import VyuhHmi.App.WebSocket

/-!
# The shell of the app

The app shows the login screen or the dashboard.  Every login creates a store, with a web socket
service of its own, and a logout or a token that the server rejects disposes of it.  All of this
waits for answers in between: a logout may end when another session has begun, and a store may be
disposed of before it has started.
-/

open Transition

namespace VyuhHmi.App

variable {User Data : Type}

/-- How far `init` of a store has come. -/
inductive Startup
  | notStarted
  | checkingHealth
  | fetchingDevices
  | done
deriving DecidableEq

/-- A store, as far as its lifetime goes. -/
structure StoreLifetime (Data : Type) where
  startup : Startup
  ws : WebSocketService Data
  /-- `_devicePollTimer` runs. -/
  polling : Bool
  /-- As history: how far `init` had come when `dispose` was last called. -/
  disposedAt : Option Startup

namespace StoreLifetime

variable (store : StoreLifetime Data)

/-- A store that nobody has started. -/
def create : StoreLifetime Data where
  startup := .notStarted
  ws := .create none
  polling := false
  disposedAt := none

/-- The token is given to the services, and `init` checks the server's health first. -/
def start (token : Option String) : StoreLifetime Data where
  startup := .checkingHealth
  ws := (WebSocketService.create none).setAuthToken token
  polling := false
  disposedAt := none

/-- The rest of `init`; `opens` is whether a channel can be opened. -/
def finish (opens : Bool) : StoreLifetime Data :=
  { store with startup := .done, ws := store.ws.connect opens, polling := true }

def healthChecked (ok opens : Bool) : StoreLifetime Data :=
  if ok then { store with startup := .fetchingDevices } else store.finish opens

def dispose : StoreLifetime Data :=
  { store with ws := store.ws.dispose, polling := false, disposedAt := some store.startup }

end StoreLifetime

/-- The calls of the authentication service that wait, a login for the screen it came from. -/
inductive AuthTask
  | loginPosting (screen : ℕ)
  | loginPrefs (screen : ℕ)
  | loginSaving (screen : ℕ)
  | logoutPosting
  | logoutPrefs
  | logoutRemoving
  | clearPrefs
deriving DecidableEq

/-- The app once its configuration is loaded.  `_store` is the last of the stores it has created. -/
structure AppShell (User Data : Type) where
  currentUser : Option User
  /-- `auth_user` in the shared preferences. -/
  saved : Option User
  tasks : List AuthTask
  stores : List (StoreLifetime Data)
  isAuthenticated : Bool
  /-- The login screen that the last frame shows, if it is not the dashboard. -/
  loginScreen : Option ℕ
  fresh : ℕ

inductive ShellEvent (User Data : Type)
  | frame
  | login
  | loginAnswered (screen : ℕ) (user : Option User)
  | loginPrefs (screen : ℕ)
  | loginSaved (screen : ℕ)
  /-- The confirmation dialog of the dashboard, or the inactivity detector; either may be left over
  when the login screen is shown. -/
  | logout
  | logoutAnswered
  | logoutPrefs
  | logoutRemoved
  | clearPrefs
  | healthChecked (store : ℕ) (ok opens : Bool)
  | devicesFetched (store : ℕ) (opens : Bool)
  | socket (store : ℕ) (event : SocketEvent Data)

/-- The events that the program itself calls for. -/
def SocketEvent.isCall : SocketEvent Data → Bool
  | .connect _ => true
  | .setAuthToken _ => true
  | .dispose => true
  | _ => false

namespace AppShell

/-- The end of `_loadConfig`, with the user of the session that was restored. -/
def loaded (token : User → String) (restored : Option User) : AppShell User Data where
  currentUser := restored
  saved := restored
  tasks := []
  stores := [match restored with
    | some user => .start (some (token user))
    | none => .create]
  isAuthenticated := restored.isSome
  loginScreen := none
  fresh := 0

variable (s : AppShell User Data)

/-- `_store?.dispose()` and `_isAuthenticated = false`. -/
def leave : AppShell User Data :=
  { s with
    stores := s.stores.modify (s.stores.length - 1) StoreLifetime.dispose
    isAuthenticated := false }

/-- `_onWsAuthFailed`; `clearSavedSession` is not waited for. -/
def onWsAuthFailed : AppShell User Data :=
  leave { s with currentUser := none, tasks := s.tasks ++ [.clearPrefs] }

def onLoginSuccess (token : User → String) : AppShell User Data :=
  { s with
    stores := s.stores ++ [.start (s.currentUser.map token)]
    isAuthenticated := true }

def replaceTask (task : AuthTask) (next : List AuthTask) : AppShell User Data :=
  { s with tasks := s.tasks.erase task ++ next }

/-- The frame after `setState`. -/
def frame : AppShell User Data :=
  if s.isAuthenticated then { s with loginScreen := none }
  else if s.loginScreen.isSome then s
  else { s with loginScreen := some s.fresh, fresh := s.fresh + 1 }

/-- The service of a store has called `onAuthFailed`. -/
def rejected (before after : WebSocketService Data) : Bool :=
  (after.calls.drop before.calls.length).contains .authFailed

/-- An event of a task that waits. -/
def resume (token : User → String) (s : AppShell User Data) :
    ShellEvent User Data → Option (AppShell User Data)
  | .loginAnswered screen user =>
      if .loginPosting screen ∈ s.tasks then
        match user with
        | some user =>
            some { s.replaceTask (.loginPosting screen) [.loginPrefs screen] with
              currentUser := some user }
        | none => some (s.replaceTask (.loginPosting screen) [])
      else none
  | .loginPrefs screen =>
      if .loginPrefs screen ∈ s.tasks then
        match s.currentUser with
        | some user =>
            some { s.replaceTask (.loginPrefs screen) [.loginSaving screen] with saved := some user }
        -- `_currentUser!` throws, and the login has failed.
        | none => some (s.replaceTask (.loginPrefs screen) [])
      else none
  | .loginSaved screen =>
      if .loginSaving screen ∈ s.tasks then
        let s := s.replaceTask (.loginSaving screen) []
        some (if s.loginScreen = some screen then s.onLoginSuccess token else s)
      else none
  | .logoutAnswered =>
      if .logoutPosting ∈ s.tasks then
        some { s.replaceTask .logoutPosting [.logoutPrefs] with currentUser := none }
      else none
  | .logoutPrefs =>
      if .logoutPrefs ∈ s.tasks then
        some { s.replaceTask .logoutPrefs [.logoutRemoving] with saved := none }
      else none
  | .logoutRemoved =>
      if .logoutRemoving ∈ s.tasks then some (s.replaceTask .logoutRemoving []).leave else none
  | .clearPrefs =>
      if .clearPrefs ∈ s.tasks then some { s.replaceTask .clearPrefs [] with saved := none }
      else none
  | _ => none

def step (token : User → String) (s : AppShell User Data) (event : ShellEvent User Data) :
    Option (AppShell User Data) :=
  match event with
  | .frame => some s.frame
  | .login => s.loginScreen.map fun screen ↦ { s with tasks := s.tasks ++ [.loginPosting screen] }
  | .logout =>
      some { s with
        tasks := s.tasks ++ [if s.currentUser.isSome then .logoutPosting else .logoutPrefs] }
  | .healthChecked store ok opens =>
      if (s.stores[store]?.map StoreLifetime.startup) = some .checkingHealth then
        some { s with stores := s.stores.modify store fun store ↦ store.healthChecked ok opens }
      else none
  | .devicesFetched store opens =>
      if (s.stores[store]?.map StoreLifetime.startup) = some .fetchingDevices then
        some { s with stores := s.stores.modify store fun store ↦ store.finish opens }
      else none
  | .socket store event =>
      if event.isCall then none
      else
        (s.stores[store]?).bind fun lifetime ↦
          (lifetime.ws.step event).map fun ws ↦
            let s := { s with stores := s.stores.modify store fun store ↦ { store with ws := ws } }
            if rejected lifetime.ws ws then s.onWsAuthFailed else s
  | event => s.resume token event

end AppShell

/-! ## The service of a store -/

namespace WebSocketService

variable {service next : WebSocketService Data}

@[simp] theorem handleDisconnect_disposed : service.handleDisconnect.disposed = service.disposed := by
  simp only [handleDisconnect, apply_ite disposed]
  exact ite_self _

@[simp] theorem doConnect_disposed (opens : Bool) :
    (service.doConnect opens).disposed = service.disposed := by
  unfold doConnect
  split
  · rfl
  · dsimp only
    split
    · rfl
    · exact handleDisconnect_disposed

@[simp] theorem connect_disposed (opens : Bool) :
    (service.connect opens).disposed = service.disposed := by
  unfold connect
  split
  · rfl
  · exact doConnect_disposed opens

theorem onFrame_disposed (frame : Frame Data) : (service.onFrame frame).disposed = service.disposed := by
  cases frame with
  | data data =>
      unfold onFrame
      dsimp only
      split <;> rfl
  | _ => rfl

theorem afterHandshake_disposed (sendThrows : Bool) :
    (service.afterHandshake sendThrows).disposed = service.disposed := by
  unfold afterHandshake
  split
  · exact handleDisconnect_disposed
  · split
    · exact handleDisconnect_disposed
    · rfl

/-- Only `dispose` disposes of a service, and with nothing going on nothing happens to it. -/
theorem step_of_not_isCall {event : SocketEvent Data} (hcall : event.isCall = false)
    (hstep : service.step event = some next) :
    next.disposed = service.disposed ∧ ¬service.Quiet := by
  cases event <;> simp only [SocketEvent.isCall, Bool.true_eq_false] at hcall <;>
    simp only [WebSocketService.step, Option.ite_none_right_eq_some, Option.some.injEq] at hstep <;>
    obtain ⟨hmem, rfl⟩ := hstep
  case handshakeSucceeded attempt sendThrows =>
    exact ⟨afterHandshake_disposed sendThrows, fun h ↦ by rw [h.1] at hmem; cases hmem⟩
  case handshakeFailed attempt =>
    exact ⟨handleDisconnect_disposed, fun h ↦ by rw [h.1] at hmem; cases hmem⟩
  case frame subscription frame =>
    exact ⟨onFrame_disposed frame, fun h ↦ by rw [h.2.1] at hmem; cases hmem⟩
  case streamError subscription =>
    exact ⟨handleDisconnect_disposed, fun h ↦ by rw [h.2.1] at hmem; cases hmem⟩
  case streamEnd subscription =>
    exact ⟨handleDisconnect_disposed, fun h ↦ by rw [h.2.1] at hmem; cases hmem⟩
  case timerFired timer opens =>
    exact ⟨doConnect_disposed opens, fun h ↦ by rw [h.2.2] at hmem; cases hmem⟩

end WebSocketService

/-! ## The stores -/

namespace StoreLifetime

variable {store : StoreLifetime Data}

/-- Disposed of, or never started. -/
def Over (store : StoreLifetime Data) : Prop :=
  store.disposedAt.isSome = true ∨ store.startup = .notStarted

/-- What holds of every store.  One that was disposed of while it started goes on polling. -/
structure Sound (store : StoreLifetime Data) : Prop where
  coherent : store.ws.Coherent
  polls : store.polling = true ↔ store.startup = .done ∧ store.disposedAt ≠ some .done
  disposed : store.ws.disposed = store.disposedAt.isSome
  waiting : store.startup ≠ .done → store.ws.Quiet
  late : store.disposedAt = some .done → store.startup = .done

theorem create_sound : (create : StoreLifetime Data).Sound :=
  ⟨WebSocketService.create_coherent _, by simp [create], rfl, fun _ ↦ ⟨rfl, rfl, rfl⟩,
    by simp [create]⟩

theorem start_sound (token : Option String) : (start token : StoreLifetime Data).Sound :=
  ⟨(WebSocketService.create_coherent _).setAuthToken token, by simp [start], rfl,
    fun _ ↦ ⟨rfl, rfl, rfl⟩, by simp [start]⟩

theorem Sound.finish (h : store.Sound) (hwaits : store.startup ≠ .done) (opens : Bool) :
    (store.finish opens).Sound := by
  refine ⟨(h.waiting hwaits).connect opens, ?_, ?_, fun hnot ↦ absurd rfl hnot, fun _ ↦ rfl⟩
  · exact ⟨fun _ ↦ ⟨rfl, fun hlate ↦ hwaits (h.late hlate)⟩, fun _ ↦ rfl⟩
  · exact (WebSocketService.connect_disposed opens).trans h.disposed

theorem Sound.healthChecked (h : store.Sound) (hwaits : store.startup = .checkingHealth)
    (ok opens : Bool) : (store.healthChecked ok opens).Sound := by
  have hnot : store.startup ≠ .done := by rw [hwaits]; decide
  unfold StoreLifetime.healthChecked
  split
  · refine ⟨h.coherent, ?_, h.disposed, fun _ ↦ h.waiting hnot, fun hlate ↦ absurd (h.late hlate) hnot⟩
    exact ⟨fun hpolls ↦ absurd (h.polls.mp hpolls).1 hnot, fun hdone ↦ by cases hdone.1⟩
  · exact h.finish hnot opens

theorem Sound.dispose (h : store.Sound) : store.dispose.Sound := by
  refine ⟨h.coherent.dispose, ?_, rfl, fun hnot ↦ ?_, fun hlate ↦ Option.some.inj hlate⟩
  · refine ⟨fun hpolls ↦ (by cases hpolls), fun hdone ↦ absurd ?_ hdone.2⟩
    exact congrArg some hdone.1
  · obtain ⟨hinFlight, hlistening, htimers⟩ := h.waiting hnot
    refine ⟨hinFlight, ?_, ?_⟩
    · simp [StoreLifetime.dispose, WebSocketService.dispose, WebSocketService.cancelSubscription,
        WebSocketService.cancelTimer, hlistening]
    · simp [StoreLifetime.dispose, WebSocketService.dispose, WebSocketService.cancelSubscription,
        WebSocketService.cancelTimer, htimers]

theorem Sound.socket (h : store.Sound) {event : SocketEvent Data} {ws : WebSocketService Data}
    (hcall : event.isCall = false) (hstep : store.ws.step event = some ws) :
    { store with ws := ws }.Sound := by
  obtain ⟨hdisposed, hbusy⟩ := WebSocketService.step_of_not_isCall hcall hstep
  exact ⟨h.coherent.step hstep, h.polls, hdisposed.trans h.disposed,
    fun hnot ↦ absurd (h.waiting hnot) hbusy, h.late⟩

/-- A store that is over reconnects to nothing. -/
theorem Sound.timers_eq_nil (h : store.Sound) (hover : store.Over) : store.ws.timers = [] := by
  rcases hover with hdisposed | hnot
  · exact h.coherent.stopped (h.disposed.trans hdisposed)
  · exact (h.waiting (by rw [hnot]; decide)).2.2

end StoreLifetime
/-! ## The shell -/

namespace AppShell

variable {s t : AppShell User Data} {token : User → String}

/-- The last store belongs to the session, if there is one, and all others are over. -/
structure Arranged (s : AppShell User Data) : Prop where
  sound : ∀ store ∈ s.stores, store.Sound
  ended : ∀ i store, s.stores[i]? = some store → i + 1 < s.stores.length ∨ s.isAuthenticated = false →
    store.Over
  live : ∀ i store, s.stores[i]? = some store → i + 1 = s.stores.length → s.isAuthenticated = true →
    ¬store.Over

/-- No login is completed by a login screen that another login has replaced, though no frame has
shown it yet. -/
def OneLogin (s : AppShell User Data) : ShellEvent User Data → Prop
  | .loginSaved screen => s.loginScreen = some screen → s.isAuthenticated = false
  | _ => True

instance (s : AppShell User Data) (event : ShellEvent User Data) : Decidable (s.OneLogin event) :=
  match event with
  | .loginSaved screen =>
      inferInstanceAs (Decidable (s.loginScreen = some screen → s.isAuthenticated = false))
  | .frame | .login | .loginAnswered _ _ | .loginPrefs _ | .logout | .logoutAnswered | .logoutPrefs
  | .logoutRemoved | .clearPrefs | .healthChecked _ _ _ | .devicesFetched _ _ | .socket _ _ =>
      isTrue trivial

namespace Arranged

theorem congr (h : Arranged s) (hstores : t.stores = s.stores)
    (hauthenticated : t.isAuthenticated = s.isAuthenticated) : Arranged t := by
  refine ⟨?_, ?_, ?_⟩
  · rw [hstores]
    exact h.sound
  · rw [hstores, hauthenticated]
    exact h.ended
  · rw [hstores, hauthenticated]
    exact h.live

/-- A change to one store that does not begin or end its life. -/
theorem modify (h : Arranged s) {k : ℕ} {f : StoreLifetime Data → StoreLifetime Data}
    (hf : ∀ store, s.stores[k]? = some store → (f store).Sound ∧ ((f store).Over ↔ store.Over))
    (hstores : t.stores = s.stores.modify k f)
    (hauthenticated : t.isAuthenticated = s.isAuthenticated) : Arranged t := by
  have hlength : t.stores.length = s.stores.length := by rw [hstores, List.length_modify]
  have hget : ∀ (i : ℕ) (store : StoreLifetime Data), t.stores[i]? = some store →
      ∃ before : StoreLifetime Data, s.stores[i]? = some before ∧
      (store.Over ↔ before.Over) ∧ store.Sound := by
    intro i store hstore
    rw [hstores, List.getElem?_modify] at hstore
    obtain ⟨before, hbefore, rfl⟩ := Option.map_eq_some_iff.mp hstore
    refine ⟨before, hbefore, ?_⟩
    by_cases hk : k = i
    · subst hk
      rw [if_pos rfl]
      exact ⟨(hf before hbefore).2, (hf before hbefore).1⟩
    · rw [if_neg hk]
      exact ⟨Iff.rfl, h.sound before (List.mem_of_getElem? hbefore)⟩
  refine ⟨fun store hstore ↦ ?_, fun i store hstore hcase ↦ ?_, fun i store hstore hlast hon ↦ ?_⟩
  · obtain ⟨i, hi⟩ := List.mem_iff_getElem?.mp hstore
    obtain ⟨-, -, -, hsound⟩ := hget i store hi
    exact hsound
  · obtain ⟨before, hbefore, hover, -⟩ := hget i store hstore
    rw [hlength, hauthenticated] at hcase
    exact hover.mpr (h.ended i before hbefore hcase)
  · obtain ⟨before, hbefore, hover, -⟩ := hget i store hstore
    rw [hlength] at hlast
    rw [hauthenticated] at hon
    exact fun hstore ↦ h.live i before hbefore hlast hon (hover.mp hstore)

/-- After a logout everything is over. -/
theorem leave (h : Arranged s) : Arranged s.leave := by
  have hget : ∀ (i : ℕ) (store : StoreLifetime Data), s.leave.stores[i]? = some store →
      store.Over ∧ store.Sound := by
    intro i store hstore
    rw [AppShell.leave, List.getElem?_modify] at hstore
    obtain ⟨before, hbefore, rfl⟩ := Option.map_eq_some_iff.mp hstore
    have hsound := h.sound before (List.mem_of_getElem? hbefore)
    have hlt := (List.getElem?_eq_some_iff.mp hbefore).1
    by_cases hi : s.stores.length - 1 = i
    · rw [if_pos hi]
      exact ⟨Or.inl rfl, hsound.dispose⟩
    · rw [if_neg hi]
      exact ⟨h.ended i before hbefore (Or.inl (by omega)), hsound⟩
  refine ⟨fun store hstore ↦ ?_, fun i store hstore _ ↦ (hget i store hstore).1,
    fun i store hstore _ hon ↦ by cases hon⟩
  obtain ⟨i, hi⟩ := List.mem_iff_getElem?.mp hstore
  exact (hget i store hi).2

/-- A login creates the store of the session. -/
theorem onLoginSuccess (h : Arranged s) (hout : s.isAuthenticated = false) :
    Arranged (s.onLoginSuccess token) := by
  have hnew : ∀ (i : ℕ) (store : StoreLifetime Data), (s.onLoginSuccess token).stores[i]? = some store →
      s.stores[i]? = some store ∨
        (i = s.stores.length ∧ store = .start (s.currentUser.map token)) := by
    intro i store hstore
    rw [AppShell.onLoginSuccess, List.getElem?_append] at hstore
    split at hstore
    case isTrue => exact Or.inl hstore
    case isFalse hge =>
      have hlt := (List.getElem?_eq_some_iff.mp hstore).1
      rw [List.length_singleton] at hlt
      obtain rfl : i = s.stores.length := by omega
      rw [Nat.sub_self] at hstore
      exact Or.inr ⟨rfl, (Option.some.inj hstore).symm⟩
  have hlength : (s.onLoginSuccess token).stores.length = s.stores.length + 1 := by
    rw [AppShell.onLoginSuccess, List.length_append, List.length_singleton]
  refine ⟨fun store hstore ↦ ?_, fun i store hstore hcase ↦ ?_, fun i store hstore hlast _ ↦ ?_⟩
  · obtain ⟨i, hi⟩ := List.mem_iff_getElem?.mp hstore
    rcases hnew i store hi with hold | ⟨-, rfl⟩
    · exact h.sound store (List.mem_of_getElem? hold)
    · exact StoreLifetime.start_sound _
  · rcases hnew i store hstore with hold | ⟨rfl, -⟩
    · exact h.ended i store hold (Or.inr hout)
    · rcases hcase with hlt | hfalse
      · omega
      · cases hfalse
  · rcases hnew i store hstore with hold | ⟨-, rfl⟩
    · have hlt := (List.getElem?_eq_some_iff.mp hold).1
      omega
    · rintro (hdisposed | hnot)
      · cases hdisposed
      · cases hnot

theorem loaded (token : User → String) (restored : Option User) :
    Arranged (loaded token restored : AppShell User Data) := by
  cases restored with
  | none =>
      refine ⟨fun store hstore ↦ ?_, fun i store hstore _ ↦ ?_, fun i store _ _ hon ↦ by cases hon⟩
      · rw [List.mem_singleton.mp hstore]
        exact StoreLifetime.create_sound
      · rw [List.mem_singleton.mp (List.mem_of_getElem? hstore)]
        exact Or.inr rfl
  | some user =>
      refine ⟨fun store hstore ↦ ?_, fun i store hstore hcase ↦ ?_, fun i store hstore _ _ ↦ ?_⟩
      · rw [List.mem_singleton.mp hstore]
        exact StoreLifetime.start_sound _
      · have hlt := (List.getElem?_eq_some_iff.mp hstore).1
        rcases hcase with hcase | hfalse
        · have hone : (AppShell.loaded token (some user) : AppShell User Data).stores.length = 1 := rfl
          omega
        · cases hfalse
      · rw [List.mem_singleton.mp (List.mem_of_getElem? hstore)]
        rintro (hdisposed | hnot)
        · cases hdisposed
        · cases hnot

/-- The tasks of the authentication service touch the stores only at their end. -/
theorem resume {event : ShellEvent User Data} (token : User → String) (h : Arranged s)
    (hlogin : s.OneLogin event)
    (hresume : s.resume token event = some t) : Arranged t := by
  cases event <;> simp only [AppShell.resume, Option.ite_none_right_eq_some, Option.some.injEq,
    reduceCtorEq] at hresume
  case loginAnswered screen user =>
    obtain ⟨-, hresume⟩ := hresume
    cases user <;> obtain rfl := Option.some.inj hresume <;> exact h.congr rfl rfl
  case loginPrefs screen =>
    obtain ⟨-, hresume⟩ := hresume
    cases huser : s.currentUser <;> rw [huser] at hresume <;>
      obtain rfl := Option.some.inj hresume <;> exact h.congr rfl rfl
  case loginSaved screen =>
    obtain ⟨-, rfl⟩ := hresume
    have hbefore : Arranged (s.replaceTask (.loginSaving screen) []) := h.congr rfl rfl
    split
    case isTrue hmounted => exact hbefore.onLoginSuccess (hlogin hmounted)
    case isFalse => exact hbefore
  case logoutAnswered =>
    obtain ⟨-, rfl⟩ := hresume
    exact h.congr rfl rfl
  case logoutPrefs =>
    obtain ⟨-, rfl⟩ := hresume
    exact h.congr rfl rfl
  case logoutRemoved =>
    obtain ⟨-, rfl⟩ := hresume
    have hbefore : Arranged (s.replaceTask .logoutRemoving []) := h.congr rfl rfl
    exact hbefore.leave
  case clearPrefs =>
    obtain ⟨-, rfl⟩ := hresume
    exact h.congr rfl rfl

theorem step {event : ShellEvent User Data} (h : Arranged s) (hlogin : s.OneLogin event)
    (hstep : s.step token event = some t) : Arranged t := by
  cases event with
  | frame =>
      obtain rfl := Option.some.inj hstep
      unfold AppShell.frame
      split
      · exact h.congr rfl rfl
      · split <;> exact h.congr rfl rfl
  | login =>
      obtain ⟨screen, -, rfl⟩ := Option.map_eq_some_iff.mp hstep
      exact h.congr rfl rfl
  | logout =>
      obtain rfl := Option.some.inj hstep
      exact h.congr rfl rfl
  | healthChecked k ok opens =>
      obtain ⟨hstartup, ht⟩ := Option.ite_none_right_eq_some.mp hstep
      obtain rfl := Option.some.inj ht
      refine h.modify (fun store hstore ↦ ?_) rfl rfl
      rw [hstore, Option.map_some, Option.some.injEq] at hstartup
      refine ⟨(h.sound store (List.mem_of_getElem? hstore)).healthChecked hstartup ok opens, ?_⟩
      cases ok <;> simp [StoreLifetime.Over, StoreLifetime.healthChecked, StoreLifetime.finish, hstartup]
  | devicesFetched k opens =>
      obtain ⟨hstartup, ht⟩ := Option.ite_none_right_eq_some.mp hstep
      obtain rfl := Option.some.inj ht
      refine h.modify (fun store hstore ↦ ?_) rfl rfl
      rw [hstore, Option.map_some, Option.some.injEq] at hstartup
      refine ⟨(h.sound store (List.mem_of_getElem? hstore)).finish (by rw [hstartup]; decide) opens, ?_⟩
      simp [StoreLifetime.Over, StoreLifetime.finish, hstartup]
  | socket k event =>
      simp only [AppShell.step] at hstep
      split at hstep
      case isTrue => cases hstep
      case isFalse hcall =>
        rw [Bool.not_eq_true] at hcall
        obtain ⟨lifetime, hlifetime, hstep⟩ := Option.bind_eq_some_iff.mp hstep
        obtain ⟨ws, hws, ht⟩ := Option.map_eq_some_iff.mp hstep
        have hnext : Arranged { s with
            stores := s.stores.modify k fun store ↦ { store with ws := ws } } := by
          refine h.modify (fun store hstore ↦ ?_) rfl rfl
          obtain rfl : lifetime = store := Option.some.inj (hlifetime.symm.trans hstore)
          exact ⟨(h.sound _ (List.mem_of_getElem? hstore)).socket hcall hws, Iff.rfl⟩
        split at ht
        · obtain rfl := ht
          exact leave (hnext.congr rfl rfl)
        · obtain rfl := ht
          exact hnext
  | loginAnswered | loginPrefs | loginSaved | logoutAnswered | logoutPrefs | logoutRemoved
  | clearPrefs => exact h.resume token hlogin hstep

end Arranged

/-- **One live store.**  Whatever the order of logins, logouts, rejected tokens, answers and frames,
if no login screen completes a second login before the next frame: the last store is in use just
while the user is authenticated, and all others were disposed of or never started; none of these
waits to reconnect.  The device list is polled by the stores that have started, except those disposed
of since: a store disposed of during its start goes on polling. -/
theorem one_live_store (token : User → String) (restored : Option User)
    (events : List (ShellEvent User Data)) (s : AppShell User Data)
    (hrun : Run (guarded OneLogin (ofOption (step token))) (loaded token restored) events s) :
    (∀ i store, s.stores[i]? = some store →
        (store.Over ↔ i + 1 < s.stores.length ∨ s.isAuthenticated = false)) ∧
      ∀ store ∈ s.stores, (store.Over → store.ws.timers = []) ∧
        (store.polling = true ↔ store.startup = .done ∧ store.disposedAt ≠ some .done) := by
  have h : Arranged s := hrun.invariant (Arranged.loaded token restored)
    fun _ _ _ h hstep ↦ h.step hstep.1 hstep.2
  refine ⟨fun i store hstore ↦ ⟨fun hover ↦ ?_, h.ended i store hstore⟩, fun store hstore ↦
    ⟨(h.sound store hstore).timers_eq_nil, (h.sound store hstore).polls⟩⟩
  have hlt := (List.getElem?_eq_some_iff.mp hstore).1
  rcases Nat.lt_or_ge (i + 1) s.stores.length with hearlier | hlast
  · exact Or.inl hearlier
  · refine Or.inr ?_
    by_contra hon
    exact h.live i store hstore (by omega) (by simpa using hon) hover

/-- A logout while the store still waits for the server's health: its timer starts after all. -/
def hastyLogout : List (ShellEvent String ℕ) :=
  [.frame, .login, .loginAnswered 0 (some "token"), .loginPrefs 0, .loginSaved 0, .frame, .logout,
    .logoutAnswered, .logoutPrefs, .logoutRemoved, .healthChecked 1 false true]

theorem one_live_store_hastyLogout :
    ∃ s, Run (guarded OneLogin (ofOption (step id))) (loaded id none) hastyLogout s ∧
      s.isAuthenticated = false ∧ ∃ store, s.stores[1]? = some store ∧ store.polling = true ∧
        store.Over ∧ store.ws.timers = [] := by
  have hrun : (exec (fun s event ↦ if OneLogin s event then step id s event else none)
      (loaded id none) hastyLogout).any fun s ↦
        !s.isAuthenticated && s.stores[1]?.any StoreLifetime.polling := by decide
  obtain ⟨s, hrun, htest⟩ := exists_run_guarded_of_any hrun
  rw [Bool.and_eq_true, Bool.not_eq_true'] at htest
  obtain ⟨store, hstore, hpolls⟩ := (Option.any_eq_true _ _).mp htest.2
  obtain ⟨hover, hstores⟩ := one_live_store id none hastyLogout s hrun
  have hstoreOver := (hover 1 store hstore).mpr (Or.inr htest.1)
  exact ⟨s, hrun, htest.1, store, hstore, hpolls, hstoreOver,
    (hstores store (List.mem_of_getElem? hstore)).1 hstoreOver⟩

end AppShell
end VyuhHmi.App
