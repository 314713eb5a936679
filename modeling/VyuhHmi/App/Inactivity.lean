import Mathlib.Tactic.Ring
import VyuhHmi.Foundation.Observation
import VyuhHmi.Foundation.TimerField

/-!
# Logging out after inactivity

The detector around the screens of a logged-in user runs two timers, which start again with every
pointer event: one to warn of the logout, and one for the logout itself.  While the warning is shown
only its button starts them again.  A timer may fire later than it is due; a run in which none does
is prompt.  Moments and durations are in milliseconds.
-/

open Transition

namespace VyuhHmi.App

structure InactivityDetector where
  timeoutMinutes : ℤ
  /-- How many seconds before final timeout to show the "still there?" dialog. -/
  warningBeforeSeconds : ℤ := 60

namespace InactivityDetector

variable (widget : InactivityDetector)

def timeout : ℤ := widget.timeoutMinutes * 60000

def warningAt : ℤ := widget.timeout - widget.warningBeforeSeconds * 1000

/-- `_warningAt.inSeconds > 0`. -/
def warns : Bool := 0 < widget.warningAt.tdiv 1000

theorem warns_iff : widget.warns ↔ 0 < widget.warningAt := by
  have hseconds : widget.warningAt =
      (widget.timeoutMinutes * 60 - widget.warningBeforeSeconds) * 1000 := by
    rw [warningAt, timeout]
    ring
  rw [warns, decide_eq_true_iff, hseconds, Int.mul_tdiv_cancel _ (by decide)]
  omega

end InactivityDetector

/-- The state of the detector, with what is beside it: the clock, the warning dialog on the screen
and the moments at which `onTimeout` was called. -/
structure DetectorState where
  now : ℤ
  mounted : Bool
  logoutTimer : TimerField
  warningTimer : TimerField
  countdownTicker : TimerField
  warningVisible : Bool
  secondsRemaining : ℤ
  dialogOpen : Bool
  timeouts : List ℤ
deriving DecidableEq

inductive DetectorTimer
  | logout
  | warning
  | countdown
deriving DecidableEq

inductive DetectorEvent
  | elapse (duration : ℕ)
  | fires (timer : DetectorTimer) (due : ℤ)
  /-- `onPointerDown` or `onPointerMove`. -/
  | pointer
  /-- The button of the warning dialog. -/
  | stayLoggedIn
  | dispose
deriving DecidableEq

namespace DetectorState

variable (widget : InactivityDetector) (s : DetectorState)

def field : DetectorTimer → TimerField
  | .logout => s.logoutTimer
  | .warning => s.warningTimer
  | .countdown => s.countdownTicker

def cancelTimers : DetectorState :=
  { s with
    logoutTimer := s.logoutTimer.cancel
    warningTimer := s.warningTimer.cancel
    countdownTicker := s.countdownTicker.cancel }

def resetTimers : DetectorState :=
  if widget.timeoutMinutes ≤ 0 then s
  else
    let cancelled := s.cancelTimers
    let closed :=
      if cancelled.warningVisible then
        { cancelled with
          warningVisible := false
          dialogOpen := cancelled.dialogOpen && !cancelled.mounted }
      else cancelled
    let warned :=
      if widget.warns then
        { closed with warningTimer := closed.warningTimer.start (closed.now + widget.warningAt) }
      else closed
    { warned with logoutTimer := warned.logoutTimer.start (warned.now + widget.timeout) }

/-- Before `initState`. -/
def create (now : ℤ) : DetectorState where
  now := now
  mounted := true
  logoutTimer := {}
  warningTimer := {}
  countdownTicker := {}
  warningVisible := false
  secondsRemaining := 0
  dialogOpen := false
  timeouts := []

def initState (now : ℤ) : DetectorState := (create now).resetTimers widget

def dispose : DetectorState := { s.cancelTimers with mounted := false }

def showWarning : DetectorState :=
  if !s.mounted then s
  else
    { s with
      secondsRemaining := widget.warningBeforeSeconds
      warningVisible := true
      countdownTicker := s.countdownTicker.start (s.now + 1000)
      dialogOpen := true }

/-- The callback of the periodic timer that `_showWarning` starts. -/
def tick : DetectorState :=
  if !s.mounted then s
  else
    let counted := { s with secondsRemaining := s.secondsRemaining - 1 }
    if counted.secondsRemaining ≤ 0 then
      { counted with countdownTicker := counted.countdownTicker.cancel }
    else counted

/-- `onStayLoggedIn` of the dialog. -/
def stayLoggedIn : DetectorState :=
  { s with
    dialogOpen := false
    warningVisible := false
    countdownTicker := s.countdownTicker.cancel }.resetTimers widget

def doTimeout : DetectorState :=
  let cancelled := s.cancelTimers
  let closed :=
    if cancelled.mounted && cancelled.warningVisible then
      { cancelled with dialogOpen := false, warningVisible := false }
    else cancelled
  { closed with timeouts := closed.timeouts ++ [closed.now] }

def onUserActivity : DetectorState := if s.warningVisible then s else s.resetTimers widget

def fire (due : ℤ) : DetectorTimer → DetectorState
  | .logout => { s with logoutTimer := s.logoutTimer.finish due }.doTimeout
  | .warning => { s with warningTimer := s.warningTimer.finish due }.showWarning widget
  | .countdown => { s with countdownTicker := s.countdownTicker.again due 1000 }.tick

/-- Pointer events reach the detector while it is mounted and not disabled, the button is there as
long as the dialog is. -/
def step : DetectorEvent → Option DetectorState
  | .elapse duration => some { s with now := s.now + duration }
  | .fires timer due =>
      if due ∈ (s.field timer).running ∧ due ≤ s.now then some (s.fire widget due timer) else none
  | .pointer =>
      if s.mounted ∧ 0 < widget.timeoutMinutes then some (s.onUserActivity widget) else none
  | .stayLoggedIn => if s.dialogOpen then some (s.stayLoggedIn widget) else none
  | .dispose => if s.mounted then some s.dispose else none

/-! ## What counts as activity -/

/-- A pointer event does not count while the warning is shown; its button does. -/
def counts : DetectorEvent → Bool
  | .pointer => !s.warningVisible
  | .stayLoggedIn => true
  | _ => false

def watchActivity (activity : List ℤ) (s : DetectorState) (event : DetectorEvent) : List ℤ :=
  if s.counts event then activity ++ [s.now] else activity

def watchLatest (latest : ℤ) (s : DetectorState) (event : DetectorEvent) : ℤ :=
  if s.counts event then s.now else latest

/-! ## The operations on the timers -/

section Operations

variable {widget s}

theorem resetTimers_disabled (hoff : widget.timeoutMinutes ≤ 0) : s.resetTimers widget = s := by
  rw [resetTimers, if_pos hoff]

theorem resetTimers_enabled (hon : 0 < widget.timeoutMinutes) :
    s.resetTimers widget =
      { s with
        logoutTimer := s.logoutTimer.cancel.start (s.now + widget.timeout)
        warningTimer :=
          if widget.warns then s.warningTimer.cancel.start (s.now + widget.warningAt)
          else s.warningTimer.cancel
        countdownTicker := s.countdownTicker.cancel
        warningVisible := false
        dialogOpen := s.dialogOpen && !(s.warningVisible && s.mounted) } := by
  rw [resetTimers, if_neg (not_le.mpr hon)]
  cases hvisible : s.warningVisible <;> cases widget.warns <;> simp [cancelTimers, hvisible]

@[simp] theorem resetTimers_mounted : (s.resetTimers widget).mounted = s.mounted := by
  rcases le_or_gt widget.timeoutMinutes 0 with hoff | hon
  · rw [resetTimers_disabled hoff]
  · rw [resetTimers_enabled hon]

@[simp] theorem stayLoggedIn_mounted : (s.stayLoggedIn widget).mounted = s.mounted :=
  resetTimers_mounted

theorem doTimeout_mounted : s.doTimeout.mounted = s.mounted := by
  cases hmounted : s.mounted <;> cases hvisible : s.warningVisible <;>
    simp [doTimeout, cancelTimers, hmounted, hvisible]

@[simp] theorem fire_mounted {due : ℤ} {timer : DetectorTimer} :
    (s.fire widget due timer).mounted = s.mounted := by
  cases timer with
  | logout => exact doTimeout_mounted
  | warning => simp only [fire, showWarning, apply_ite mounted, ite_self]
  | countdown => simp only [fire, tick, apply_ite mounted, ite_self]

end Operations

/-- Every running timer is the one its field names. -/
structure Orderly (s : DetectorState) : Prop where
  logout : s.logoutTimer.Sole
  warning : s.warningTimer.Sole
  countdown : s.countdownTicker.Sole
  ticker_free : s.warningTimer.due.isSome → s.countdownTicker.due = none

namespace Orderly

variable {widget : InactivityDetector} {s : DetectorState} {due : ℤ}

theorem fire_logout (h : Orderly s) (hdue : due ∈ s.logoutTimer.running) :
    s.fire widget due .logout =
      { s.cancelTimers with
        warningVisible := s.warningVisible && !s.mounted
        dialogOpen := s.dialogOpen && !(s.warningVisible && s.mounted)
        timeouts := s.timeouts ++ [s.now] } := by
  rw [fire, h.logout.finish hdue, doTimeout]
  cases hmounted : s.mounted <;> cases hvisible : s.warningVisible <;>
    simp [DetectorState.cancelTimers, TimerField.cancel, hmounted, hvisible]

theorem fire_warning (h : Orderly s) (hdue : due ∈ s.warningTimer.running) :
    s.fire widget due .warning =
      if s.mounted then
        { s with
          warningTimer := s.warningTimer.cancel
          secondsRemaining := widget.warningBeforeSeconds
          warningVisible := true
          countdownTicker := s.countdownTicker.start (s.now + 1000)
          dialogOpen := true }
      else { s with warningTimer := s.warningTimer.cancel } := by
  rw [fire, h.warning.finish hdue, showWarning]
  cases s.mounted <;> simp

/-- The countdown goes on while there are seconds left. -/
theorem fire_countdown (h : Orderly s) (hdue : due ∈ s.countdownTicker.running) :
    s.fire widget due .countdown =
      { s with
        secondsRemaining := if s.mounted then s.secondsRemaining - 1 else s.secondsRemaining
        countdownTicker :=
          if s.mounted ∧ s.secondsRemaining - 1 ≤ 0 then s.countdownTicker.cancel
          else { s.countdownTicker with due := some (due + 1000) } } := by
  rw [fire, h.countdown.again hdue, tick]
  cases s.mounted
  case false => simp
  case true =>
    simp only [Bool.not_true, Bool.false_eq_true, if_false, if_true, true_and]
    split <;> rfl

theorem reset (widget : InactivityDetector) (h : Orderly s) : Orderly (s.resetTimers widget) := by
  rcases le_or_gt widget.timeoutMinutes 0 with hoff | hon
  · rwa [resetTimers_disabled hoff]
  · rw [resetTimers_enabled hon]
    refine ⟨(TimerField.sole_cancel.mpr h.logout).start rfl _, ?_,
      TimerField.sole_cancel.mpr h.countdown, fun _ ↦ rfl⟩
    dsimp only
    split
    · exact (TimerField.sole_cancel.mpr h.warning).start rfl _
    · exact TimerField.sole_cancel.mpr h.warning

theorem cancelTimers (h : Orderly s) : Orderly s.cancelTimers where
  logout := TimerField.sole_cancel.mpr h.logout
  warning := TimerField.sole_cancel.mpr h.warning
  countdown := TimerField.sole_cancel.mpr h.countdown
  ticker_free _ := rfl

theorem stayLoggedIn (h : Orderly s) : Orderly (s.stayLoggedIn widget) :=
  reset widget ⟨h.logout, h.warning, TimerField.sole_cancel.mpr h.countdown, fun _ ↦ rfl⟩

theorem fire {timer : DetectorTimer} (widget : InactivityDetector) (h : Orderly s)
    (hdue : due ∈ (s.field timer).running) :
    Orderly (s.fire widget due timer) := by
  cases timer with
  | logout =>
      rw [h.fire_logout hdue]
      exact ⟨h.cancelTimers.logout, h.cancelTimers.warning, h.cancelTimers.countdown, fun _ ↦ rfl⟩
  | warning =>
      have hnames : s.warningTimer.due = some due := h.warning.mem_running.mp hdue
      have hfree : s.countdownTicker.due = none := h.ticker_free (by rw [hnames]; rfl)
      rw [h.fire_warning hdue]
      split
      · exact ⟨h.logout, TimerField.sole_cancel.mpr h.warning, h.countdown.start hfree _,
          fun hwarning ↦ by cases hwarning⟩
      · exact ⟨h.logout, TimerField.sole_cancel.mpr h.warning, h.countdown, fun _ ↦ hfree⟩
  | countdown =>
      have hnames : s.countdownTicker.due = some due := h.countdown.mem_running.mp hdue
      have hfree : s.warningTimer.due.isSome = false := by
        rw [Bool.eq_false_iff]
        intro hwarning
        rw [h.ticker_free hwarning] at hnames
        cases hnames
      rw [h.fire_countdown hdue]
      refine ⟨h.logout, h.warning, ?_, fun hwarning ↦ ?_⟩
      · dsimp only
        split
        · exact TimerField.sole_cancel.mpr h.countdown
        · exact h.countdown
      · rw [hfree] at hwarning
        cases hwarning

theorem step {event : DetectorEvent} {t : DetectorState} (h : Orderly s)
    (hstep : s.step widget event = some t) : Orderly t := by
  cases event with
  | elapse duration =>
      obtain rfl := Option.some.inj hstep
      exact ⟨h.logout, h.warning, h.countdown, h.ticker_free⟩
  | fires timer due =>
      obtain ⟨⟨hdue, -⟩, ht⟩ := Option.ite_none_right_eq_some.mp hstep
      obtain rfl := Option.some.inj ht
      exact h.fire widget hdue
  | pointer =>
      obtain ⟨-, ht⟩ := Option.ite_none_right_eq_some.mp hstep
      obtain rfl := Option.some.inj ht
      rw [onUserActivity]
      split
      · exact h
      · exact h.reset widget
  | stayLoggedIn =>
      obtain ⟨-, ht⟩ := Option.ite_none_right_eq_some.mp hstep
      obtain rfl := Option.some.inj ht
      exact h.stayLoggedIn
  | dispose =>
      obtain ⟨-, ht⟩ := Option.ite_none_right_eq_some.mp hstep
      obtain rfl := Option.some.inj ht
      exact ⟨h.cancelTimers.logout, h.cancelTimers.warning, h.cancelTimers.countdown, fun _ ↦ rfl⟩

theorem initState (start : ℤ) : Orderly (initState widget start) :=
  reset widget ⟨rfl, rfl, rfl, fun _ ↦ rfl⟩

end Orderly

/-! ## Never too early -/

/-- What the logout timer and the past calls have to do with the activity. -/
structure Unattended (widget : InactivityDetector) (activity : List ℤ) (s : DetectorState) :
    Prop where
  orderly : Orderly s
  activity_le : ∀ moment ∈ activity, moment ≤ s.now
  timeouts_le : ∀ timeout ∈ s.timeouts, timeout ≤ s.now
  activity_due : ∀ due ∈ s.logoutTimer.due, ∀ moment ∈ activity, moment + widget.timeout ≤ due
  timeouts_due : ∀ due ∈ s.logoutTimer.due, ∀ timeout ∈ s.timeouts, timeout + widget.timeout ≤ due
  unattended : ∀ timeout ∈ s.timeouts, ∀ moment ∈ activity,
    moment + widget.timeout ≤ timeout ∨ timeout ≤ moment
  apart : s.timeouts.Pairwise fun earlier later ↦ earlier + widget.timeout ≤ later
  count : s.timeouts.length + s.logoutTimer.due.toList.length ≤ activity.length
  disabled : widget.timeoutMinutes ≤ 0 → s.logoutTimer.due = none ∧ s.dialogOpen = false ∧
    s.warningTimer.due = none ∧ s.timeouts = []

namespace Unattended

variable {widget : InactivityDetector} {activity : List ℤ} {s t : DetectorState} {due : ℤ}

/-- Restarting the timers counts as activity. -/
theorem reset (h : Unattended widget activity s) (hon : 0 < widget.timeoutMinutes) :
    Unattended widget (activity ++ [s.now]) (s.resetTimers widget) := by
  have horderly := h.orderly.reset widget
  rw [resetTimers_enabled hon] at horderly ⊢
  have hmoment : ∀ moment ∈ activity ++ [s.now], moment ≤ s.now := by
    intro moment hmem
    rcases List.mem_append.mp hmem with hmem | hmem
    · exact h.activity_le moment hmem
    · exact (List.mem_singleton.mp hmem).le
  constructor
  · exact horderly
  · exact hmoment
  · exact h.timeouts_le
  · rintro _ ⟨⟩ moment hmem
    have := hmoment moment hmem
    omega
  · rintro _ ⟨⟩ timeout hmem
    have := h.timeouts_le timeout hmem
    omega
  · intro timeout htimeout moment hmem
    rcases List.mem_append.mp hmem with hmem | hmem
    · exact h.unattended timeout htimeout moment hmem
    · rw [List.mem_singleton.mp hmem]
      exact Or.inr (h.timeouts_le timeout htimeout)
  · exact h.apart
  · have := h.count
    simp only [TimerField.start_due, Option.toList_some, List.length_singleton,
      List.length_append] at this ⊢
    omega
  · intro hoff
    omega

/-- Timers other than the one for the logout do not matter here. -/
theorem congr (h : Unattended widget activity s) (horderly : Orderly t) (hnow : s.now ≤ t.now)
    (hlogout : t.logoutTimer.due = s.logoutTimer.due ∨ t.logoutTimer.due = none)
    (htimeouts : t.timeouts = s.timeouts)
    (hdisabled : widget.timeoutMinutes ≤ 0 → t.dialogOpen = false ∧ t.warningTimer.due = none) :
    Unattended widget activity t := by
  have hdue : ∀ due ∈ t.logoutTimer.due, due ∈ s.logoutTimer.due := by
    intro due hmem
    rcases hlogout with hlogout | hlogout
    · rwa [← hlogout]
    · rw [hlogout] at hmem
      cases hmem
  constructor
  · exact horderly
  · exact fun moment hmem ↦ (h.activity_le moment hmem).trans hnow
  · rw [htimeouts]
    exact fun timeout hmem ↦ (h.timeouts_le timeout hmem).trans hnow
  · exact fun due hmem ↦ h.activity_due due (hdue due hmem)
  · rw [htimeouts]
    exact fun due hmem ↦ h.timeouts_due due (hdue due hmem)
  · rw [htimeouts]
    exact h.unattended
  · rw [htimeouts]
    exact h.apart
  · have := h.count
    rw [htimeouts]
    rcases hlogout with hlogout | hlogout
    · rwa [hlogout]
    · rw [hlogout, Option.toList_none, List.length_nil]
      omega
  · intro hoff
    obtain ⟨hnone, -, -, hempty⟩ := h.disabled hoff
    refine ⟨?_, (hdisabled hoff).1, (hdisabled hoff).2, htimeouts.trans hempty⟩
    rcases hlogout with hlogout | hlogout
    · exact hlogout.trans hnone
    · exact hlogout

/-- The timer for the logout is due the whole timeout after the last activity. -/
theorem doTimeout (h : Unattended widget activity s) (hdue : due ∈ s.logoutTimer.due)
    (hlate : due ≤ s.now) (horderly : Orderly t) (hnow : t.now = s.now)
    (hlogout : t.logoutTimer.due = none) (htimeouts : t.timeouts = s.timeouts ++ [s.now]) :
    Unattended widget activity t := by
  constructor
  · exact horderly
  · rw [hnow]
    exact h.activity_le
  · rw [hnow, htimeouts]
    intro timeout hmem
    rcases List.mem_append.mp hmem with hmem | hmem
    · exact h.timeouts_le timeout hmem
    · exact (List.mem_singleton.mp hmem).le
  · rw [hlogout]
    rintro _ ⟨⟩
  · rw [hlogout]
    rintro _ ⟨⟩
  · rw [htimeouts]
    intro timeout htimeout moment hmem
    rcases List.mem_append.mp htimeout with htimeout | htimeout
    · exact h.unattended timeout htimeout moment hmem
    · rw [List.mem_singleton.mp htimeout]
      exact Or.inl ((h.activity_due due hdue moment hmem).trans hlate)
  · rw [htimeouts, List.pairwise_append]
    refine ⟨h.apart, List.pairwise_singleton _ _, fun earlier hmem later hlater ↦ ?_⟩
    rw [List.mem_singleton.mp hlater]
    exact (h.timeouts_due due hdue earlier hmem).trans hlate
  · have := h.count
    rw [Option.mem_def.mp hdue, Option.toList_some, List.length_singleton] at this
    rw [hlogout, htimeouts, List.length_append, Option.toList_none]
    simpa using this
  · intro hoff
    rw [(h.disabled hoff).1] at hdue
    cases hdue

theorem fire {timer : DetectorTimer} (h : Unattended widget activity s)
    (hdue : due ∈ (s.field timer).running) (hlate : due ≤ s.now) :
    Unattended widget activity (s.fire widget due timer) := by
  have horderly := h.orderly.fire widget hdue
  cases timer with
  | logout =>
      rw [h.orderly.fire_logout hdue] at horderly ⊢
      exact h.doTimeout (h.orderly.logout.mem_running.mp hdue) hlate horderly rfl rfl rfl
  | warning =>
      rw [h.orderly.fire_warning hdue] at horderly ⊢
      have hon : ¬widget.timeoutMinutes ≤ 0 := by
        intro hoff
        have := h.orderly.warning.mem_running.mp hdue
        rw [(h.disabled hoff).2.2.1] at this
        cases this
      split
      case isTrue hmounted =>
        rw [if_pos hmounted] at horderly
        exact h.congr horderly le_rfl (Or.inl rfl) rfl fun hoff ↦ absurd hoff hon
      case isFalse hmounted =>
        rw [if_neg hmounted] at horderly
        exact h.congr horderly le_rfl (Or.inl rfl) rfl fun hoff ↦ absurd hoff hon
  | countdown =>
      rw [h.orderly.fire_countdown hdue] at horderly ⊢
      exact h.congr horderly le_rfl (Or.inl rfl) rfl fun hoff ↦
        ⟨(h.disabled hoff).2.1, (h.disabled hoff).2.2.1⟩

theorem step {event : DetectorEvent} (h : Unattended widget activity s)
    (hstep : s.step widget event = some t) :
    Unattended widget (watchActivity activity s event) t := by
  have horderly := h.orderly.step hstep
  cases event with
  | elapse duration =>
      obtain rfl := Option.some.inj hstep
      refine h.congr horderly ?_ (Or.inl rfl) rfl fun hoff ↦
        ⟨(h.disabled hoff).2.1, (h.disabled hoff).2.2.1⟩
      show s.now ≤ s.now + duration
      omega
  | fires timer due =>
      obtain ⟨⟨hdue, hlate⟩, ht⟩ := Option.ite_none_right_eq_some.mp hstep
      obtain rfl := Option.some.inj ht
      exact h.fire hdue hlate
  | pointer =>
      obtain ⟨⟨-, hon⟩, ht⟩ := Option.ite_none_right_eq_some.mp hstep
      obtain rfl := Option.some.inj ht
      rw [onUserActivity, watchActivity, counts]
      cases s.warningVisible with
      | false => exact h.reset hon
      | true => exact h
  | stayLoggedIn =>
      obtain ⟨hopen, ht⟩ := Option.ite_none_right_eq_some.mp hstep
      obtain rfl := Option.some.inj ht
      have hon : 0 < widget.timeoutMinutes := by
        by_contra hoff
        rw [(h.disabled (not_lt.mp hoff)).2.1] at hopen
        cases hopen
      refine reset (h.congr (t := { s with
        dialogOpen := false
        warningVisible := false
        countdownTicker := s.countdownTicker.cancel }) ?_ le_rfl (Or.inl rfl) rfl fun hoff ↦ ?_) hon
      · exact ⟨h.orderly.logout, h.orderly.warning, TimerField.sole_cancel.mpr h.orderly.countdown,
          fun _ ↦ rfl⟩
      · exact ⟨rfl, (h.disabled hoff).2.2.1⟩
  | dispose =>
      obtain ⟨-, ht⟩ := Option.ite_none_right_eq_some.mp hstep
      obtain rfl := Option.some.inj ht
      exact h.congr horderly le_rfl (Or.inr rfl) rfl fun hoff ↦ ⟨(h.disabled hoff).2.1, rfl⟩

theorem create (start : ℤ) : Unattended widget [] (create start) where
  orderly := ⟨rfl, rfl, rfl, fun _ ↦ rfl⟩
  activity_le := by simp
  timeouts_le := by simp [DetectorState.create]
  activity_due := by simp
  timeouts_due := by simp [DetectorState.create]
  unattended := by simp
  apart := List.Pairwise.nil
  count := le_rfl
  disabled _ := ⟨rfl, rfl, rfl, rfl⟩

theorem initState (start : ℤ) : Unattended widget [start] (initState widget start) := by
  rcases le_or_gt widget.timeoutMinutes 0 with hoff | hon
  · rw [DetectorState.initState, resetTimers_disabled hoff]
    have h : Unattended widget [] _ := create start
    exact ⟨h.orderly, by simp [DetectorState.create], h.timeouts_le, by simp [DetectorState.create],
      h.timeouts_due, by simp [DetectorState.create], h.apart, by simp [DetectorState.create],
      h.disabled⟩
  · exact (create start).reset hon

end Unattended

/-- Disposed of without a dialog on the screen, so that nothing can start a timer again. -/
structure Gone (s : DetectorState) : Prop where
  orderly : Orderly s
  mounted : s.mounted = false
  dialogOpen : s.dialogOpen = false
  due : ∀ timer, (s.field timer).due = none

theorem Gone.step {widget : InactivityDetector} {s t : DetectorState} {event : DetectorEvent}
    (h : Gone s) (hstep : s.step widget event = some t) : Gone t ∧ t.timeouts = s.timeouts := by
  cases event with
  | elapse duration =>
      obtain rfl := Option.some.inj hstep
      refine ⟨⟨h.orderly.step hstep, h.mounted, h.dialogOpen, fun timer ↦ ?_⟩, rfl⟩
      cases timer
      exacts [h.due .logout, h.due .warning, h.due .countdown]
  | fires timer due =>
      obtain ⟨⟨hdue, -⟩, -⟩ := Option.ite_none_right_eq_some.mp hstep
      have hsole : (s.field timer).Sole := by
        cases timer
        · exact h.orderly.logout
        · exact h.orderly.warning
        · exact h.orderly.countdown
      rw [hsole.mem_running, h.due timer] at hdue
      cases hdue
  | pointer =>
      obtain ⟨⟨hmounted, -⟩, -⟩ := Option.ite_none_right_eq_some.mp hstep
      rw [h.mounted] at hmounted
      cases hmounted
  | stayLoggedIn =>
      obtain ⟨hopen, -⟩ := Option.ite_none_right_eq_some.mp hstep
      rw [h.dialogOpen] at hopen
      cases hopen
  | dispose =>
      obtain ⟨hmounted, -⟩ := Option.ite_none_right_eq_some.mp hstep
      rw [h.mounted] at hmounted
      cases hmounted

theorem Gone.exec {widget : InactivityDetector} {s t : DetectorState} {events : List DetectorEvent}
    (h : Gone s) (hexec : exec (DetectorState.step widget) s events = some t) :
    t.timeouts = s.timeouts := by
  have hinv : Gone t ∧ t.timeouts = s.timeouts := by
    apply @Run.invariant _ _ _ _ _ (fun u ↦ Gone u ∧ u.timeouts = s.timeouts) _ _ _
      (run_ofOption_iff.mpr hexec)
    · exact ⟨h, rfl⟩
    · exact fun u event v hu hstep ↦ ⟨(hu.1.step hstep).1, (hu.1.step hstep).2.trans hu.2⟩
  exact hinv.2

/-- **Nobody is logged out early.**  However late the timers fire: before every call of `onTimeout`
lies a whole timeout without activity, two calls are a whole timeout apart, and there are no more
calls than there was activity; a disabled detector never calls it, and neither does one that was
disposed of while no warning was shown. -/
theorem timeouts_after_inactivity (widget : InactivityDetector) (start : ℤ)
    (events : List DetectorEvent) (s : DetectorState)
    (hexec : exec (step widget) (initState widget start) events = some s) :
    let activity := observe (step widget) watchActivity [start] (initState widget start) events
    (∀ timeout ∈ s.timeouts, ∀ moment ∈ activity,
        moment + widget.timeout ≤ timeout ∨ timeout ≤ moment) ∧
      (s.timeouts.Pairwise fun earlier later ↦ earlier + widget.timeout ≤ later) ∧
      s.timeouts.length ≤ activity.length ∧
      (widget.timeoutMinutes ≤ 0 → s.timeouts = []) ∧
      (s.dialogOpen = false → ∀ more t, exec (step widget) s (.dispose :: more) = some t →
        t.timeouts = s.timeouts) := by
  have h : Unattended widget (observe (step widget) watchActivity [start]
      (initState widget start) events) s :=
    observe_invariant (Unattended.initState start) (fun _ _ _ _ hinv hstep ↦ hinv.step hstep) hexec
  refine ⟨h.unattended, h.apart, (Nat.le_add_right _ _).trans h.count,
    fun hoff ↦ (h.disabled hoff).2.2.2, fun hclosed more t hmore ↦ ?_⟩
  rw [exec, List.foldlM_cons] at hmore
  obtain ⟨d, hdispose, hrest⟩ := Option.bind_eq_some_iff.mp hmore
  have horderly := h.orderly.step hdispose
  obtain ⟨-, hd⟩ := Option.ite_none_right_eq_some.mp hdispose
  obtain rfl := Option.some.inj hd
  have hgone : Gone s.dispose := by
    refine ⟨horderly, rfl, hclosed, fun timer ↦ ?_⟩
    cases timer <;> rfl
  exact hgone.exec hrest

theorem timeouts_after_inactivity_twoMinutes :
    ∃ s, exec (step ⟨2, 60⟩) (initState ⟨2, 60⟩ 0)
        [.elapse 30000, .pointer, .elapse 60500, .fires .warning 90000, .elapse 29500, .pointer,
          .stayLoggedIn, .elapse 60000, .fires .warning 180000, .elapse 70000,
          .fires .logout 240000] = some s ∧
      s.timeouts = [250000] ∧
      ∀ moment ∈ observe (step ⟨2, 60⟩) watchActivity [0] (initState ⟨2, 60⟩ 0)
        [.elapse 30000, .pointer, .elapse 60500, .fires .warning 90000, .elapse 29500, .pointer,
          .stayLoggedIn, .elapse 60000, .fires .warning 180000, .elapse 70000,
          .fires .logout 240000], moment + 120000 ≤ 250000 ∨ (250000 : ℤ) ≤ moment := by
  refine ⟨_, rfl, by decide, fun moment hmem ↦ ?_⟩
  exact (timeouts_after_inactivity ⟨2, 60⟩ 0 _ _ rfl).1 250000 (by decide) moment hmem

end DetectorState
end VyuhHmi.App
