import VyuhHmi.App.Inactivity

/-!
# The warning before the logout

When no timer is late, the moment of the latest activity says where the detector is: it waits, it
counts down the last seconds in a dialog, or it has logged the user out.
-/

open Transition

namespace VyuhHmi.App
namespace DetectorState

/-- No time passes while a timer is due. -/
def Prompt (s : DetectorState) : DetectorEvent → Prop
  | .elapse duration => ∀ timer, ∀ due ∈ (s.field timer).due, s.now + duration ≤ due
  | _ => True

/-- How the detector stands while its screen is there, `latest` being the moment of the latest
activity.  The countdown is the detector's own; when the dialog reads it is left open. -/
structure OnTime (widget : InactivityDetector) (latest : ℤ) (s : DetectorState) : Prop where
  not_early : s.now < latest + widget.timeout → ∀ timeout ∈ s.timeouts, timeout ≤ latest
  not_late : latest + widget.timeout < s.now → latest + widget.timeout ∈ s.timeouts
  dialog : s.dialogOpen = s.warningVisible
  hidden : s.warningVisible → 0 < widget.warningAt ∧ latest + widget.warningAt ≤ s.now ∧
    s.now ≤ latest + widget.timeout
  shown : 0 < widget.warningAt → latest + widget.warningAt < s.now →
    s.now < latest + widget.timeout → s.warningVisible
  counted : s.warningVisible → (s.secondsRemaining - 1) * 1000 ≤ latest + widget.timeout - s.now ∧
    latest + widget.timeout - s.now ≤ s.secondsRemaining * 1000

/-- The countdown is due again while there are seconds left. -/
def Counting (widget : InactivityDetector) (latest : ℤ) (s : DetectorState) : Prop :=
  (s.countdownTicker.due = some (latest + widget.timeout - (s.secondsRemaining - 1) * 1000) ∧
      latest + widget.timeout - s.secondsRemaining * 1000 ≤ s.now) ∨
    (s.countdownTicker.due = none ∧ s.secondsRemaining ≤ 0 ∧
      latest + widget.timeout - s.secondsRemaining * 1000 ≤ s.now)

/-- The time since the latest activity, by what the timers have done so far. -/
inductive Phase (widget : InactivityDetector) (latest : ℤ) (s : DetectorState) : Prop
  | waiting (logout : s.logoutTimer.due = some (latest + widget.timeout))
      (warning : s.warningTimer.due =
        if widget.warns then some (latest + widget.warningAt) else none)
      (countdown : s.countdownTicker.due = none) (hidden : s.warningVisible = false)
      (closed : s.dialogOpen = false) (not_yet : ∀ timeout ∈ s.timeouts, timeout ≤ latest)
  | warned (warns : 0 < widget.warningAt)
      (logout : s.logoutTimer.due = some (latest + widget.timeout))
      (warning : s.warningTimer.due = none) (since : latest + widget.warningAt ≤ s.now)
      (counting : Counting widget latest s) (visible : s.warningVisible = true)
      (shown : s.dialogOpen = true) (not_yet : ∀ timeout ∈ s.timeouts, timeout ≤ latest)
  | expired (logout : s.logoutTimer.due = none) (warning : s.warningTimer.due = none)
      (countdown : s.countdownTicker.due = none) (hidden : s.warningVisible = false)
      (closed : s.dialogOpen = false) (called : latest + widget.timeout ∈ s.timeouts)
      (since : latest + widget.timeout ≤ s.now)

structure Timely (widget : InactivityDetector) (latest : ℤ) (s : DetectorState) : Prop where
  orderly : Orderly s
  urgent : ∀ timer, ∀ due ∈ (s.field timer).due, s.now ≤ due
  timeouts_le : ∀ timeout ∈ s.timeouts, timeout ≤ s.now
  phase : Phase widget latest s

namespace Timely

variable {widget : InactivityDetector} {latest due : ℤ} {s t : DetectorState}

theorem onTime (h : Timely widget latest s) : OnTime widget latest s := by
  have hlogout := h.urgent .logout
  have hwarning := h.urgent .warning
  have hcountdown := h.urgent .countdown
  simp only [field] at hlogout hwarning hcountdown
  cases h.phase with
  | waiting logout warning countdown hidden closed not_yet =>
      have hbefore := hlogout _ logout
      refine ⟨fun _ ↦ not_yet, by omega, closed.trans hidden.symm, ?_, fun hwarns hafter ↦ ?_, ?_⟩
      · simp [hidden]
      · rw [if_pos (widget.warns_iff.mpr hwarns)] at warning
        have := hwarning _ warning
        omega
      · simp [hidden]
  | warned warns logout warning since counting visible shown not_yet =>
      have hbefore := hlogout _ logout
      refine ⟨fun _ ↦ not_yet, by omega, shown.trans visible.symm, fun _ ↦ ⟨warns, since, hbefore⟩,
        fun _ _ _ ↦ visible, fun _ ↦ ?_⟩
      rcases counting with ⟨hticker, hsince⟩ | ⟨-, hnone, hsince⟩
      · have := hcountdown _ hticker
        omega
      · omega
  | expired logout warning countdown hidden closed called since =>
      refine ⟨by omega, fun _ ↦ called, closed.trans hidden.symm, ?_, by omega, ?_⟩ <;>
        simp [hidden]

theorem reset (hon : 0 < widget.timeoutMinutes) (horderly : Orderly s)
    (htimeouts : ∀ timeout ∈ s.timeouts, timeout ≤ s.now) (hclosed : s.dialogOpen = false) :
    Timely widget s.now (s.resetTimers widget) := by
  have hreset := horderly.reset widget
  have htimeout : 0 < widget.timeout := by
    rw [InactivityDetector.timeout]
    omega
  rw [resetTimers_enabled hon] at hreset ⊢
  refine ⟨hreset, fun timer ↦ ?_, htimeouts, .waiting rfl ?_ rfl rfl ?_ htimeouts⟩
  · cases timer with
    | logout =>
        rintro _ ⟨⟩
        dsimp only
        omega
    | warning =>
        intro due hdue
        simp only [field] at hdue ⊢
        split at hdue
        case isTrue hwarns =>
          have := widget.warns_iff.mp hwarns
          have := Option.some.inj hdue
          omega
        case isFalse => cases hdue
    | countdown => rintro _ ⟨⟩
  · dsimp only
    split <;> rfl
  · dsimp only
    rw [hclosed, Bool.false_and]

theorem fire {timer : DetectorTimer} (h : Timely widget latest s) (hmounted : s.mounted = true)
    (hdue : due ∈ (s.field timer).running) (hlate : due ≤ s.now) :
    Timely widget latest (s.fire widget due timer) := by
  have horderly := h.orderly.fire widget hdue
  cases timer with
  | logout =>
      have hnames : s.logoutTimer.due = some due := h.orderly.logout.mem_running.mp hdue
      rw [h.orderly.fire_logout hdue] at horderly ⊢
      have hnow := h.urgent .logout due hnames
      obtain rfl : s.now = due := by omega
      refine ⟨horderly, fun timer ↦ ?_, fun timeout hmem ↦ ?_, ?_⟩
      · cases timer <;> rintro _ ⟨⟩
      · rcases List.mem_append.mp hmem with hmem | hmem
        · exact h.timeouts_le timeout hmem
        · exact (List.mem_singleton.mp hmem).le
      · have hexpired : ∀ latest, s.logoutTimer.due = some (latest + widget.timeout) →
            latest + widget.timeout = s.now := by
          intro latest hlogout
          rw [hnames] at hlogout
          exact (Option.some.inj hlogout).symm
        cases h.phase with
        | waiting logout warning countdown hidden closed not_yet =>
            refine .expired rfl rfl rfl ?_ ?_ ?_ (hexpired latest logout).le
            · simp [hidden]
            · simp [closed]
            · simp [hexpired latest logout]
        | warned warns logout warning since counting visible shown not_yet =>
            refine .expired rfl rfl rfl ?_ ?_ ?_ (hexpired latest logout).le
            · simp [hmounted]
            · simp [hmounted, visible]
            · simp [hexpired latest logout]
        | expired logout warning countdown hidden closed called since =>
            rw [hnames] at logout
            cases logout
  | warning =>
      have hnames : s.warningTimer.due = some due := h.orderly.warning.mem_running.mp hdue
      rw [h.orderly.fire_warning hdue, if_pos hmounted] at horderly ⊢
      have hnow := h.urgent .warning due hnames
      cases h.phase with
      | waiting logout warning countdown hidden closed not_yet =>
          rw [hnames] at warning
          split at warning
          case isFalse => cases warning
          case isTrue hwarns =>
            obtain rfl := Option.some.inj warning
            have hat : widget.warningAt = widget.timeout - widget.warningBeforeSeconds * 1000 := rfl
            refine ⟨horderly, fun timer ↦ ?_, h.timeouts_le, .warned (widget.warns_iff.mp hwarns)
              logout rfl hlate (Or.inl ⟨congrArg some ?_, ?_⟩) rfl rfl not_yet⟩
            · cases timer with
              | logout => exact h.urgent .logout
              | warning => rintro _ ⟨⟩
              | countdown =>
                  rintro _ ⟨⟩
                  dsimp only
                  omega
            · dsimp only
              omega
            · dsimp only
              omega
      | warned warns logout warning since counting visible shown not_yet =>
          rw [hnames] at warning
          cases warning
      | expired logout warning countdown hidden closed called since =>
          rw [hnames] at warning
          cases warning
  | countdown =>
      have hnames : s.countdownTicker.due = some due := h.orderly.countdown.mem_running.mp hdue
      rw [h.orderly.fire_countdown hdue] at horderly ⊢
      simp only [hmounted, if_true, true_and] at horderly ⊢
      cases h.phase with
      | waiting logout warning countdown hidden closed not_yet =>
          rw [hnames] at countdown
          cases countdown
      | warned warns logout warning since counting visible shown not_yet =>
          have hdue : due = latest + widget.timeout - (s.secondsRemaining - 1) * 1000 := by
            rcases counting with ⟨hticker, -⟩ | ⟨hticker, -⟩
            · rw [hnames] at hticker
              exact Option.some.inj hticker
            · rw [hnames] at hticker
              cases hticker
          refine ⟨horderly, fun timer ↦ ?_, h.timeouts_le,
            .warned warns logout warning since ?_ visible shown not_yet⟩
          · cases timer with
            | logout => exact h.urgent .logout
            | warning => exact h.urgent .warning
            | countdown =>
                intro next hnext
                have := h.urgent .countdown due hnames
                simp only [field] at hnext ⊢
                split at hnext
                · cases hnext
                · have := Option.some.inj hnext
                  omega
          · simp only [Counting]
            split
            case isTrue hover =>
              refine Or.inr ⟨rfl, hover, ?_⟩
              omega
            case isFalse hmore =>
              refine Or.inl ⟨congrArg some ?_, ?_⟩ <;> omega
      | expired logout warning countdown hidden closed called since =>
          rw [hnames] at countdown
          cases countdown

/-- A prompt step keeps the times, as long as the detector is there. -/
theorem step {event : DetectorEvent} (hon : 0 < widget.timeoutMinutes)
    (h : s.mounted = true → Timely widget latest s) (hprompt : Prompt s event)
    (hstep : s.step widget event = some t) (hmounted : t.mounted = true) :
    Timely widget (watchLatest latest s event) t := by
  cases event with
  | elapse duration =>
      obtain rfl := Option.some.inj hstep
      have h := h hmounted
      show Timely widget latest _
      refine ⟨h.orderly.step hstep, fun timer due hdue ↦ ?_, fun timeout hmem ↦ ?_, ?_⟩
      · cases timer
        exacts [hprompt .logout due hdue, hprompt .warning due hdue, hprompt .countdown due hdue]
      · have := h.timeouts_le timeout hmem
        dsimp only
        omega
      · cases h.phase with
        | waiting logout warning countdown hidden closed not_yet =>
            exact .waiting logout warning countdown hidden closed not_yet
        | warned warns logout warning since counting visible shown not_yet =>
            refine .warned warns logout warning ?_ ?_ visible shown not_yet
            · dsimp only
              omega
            · exact counting.imp (fun hticker ↦ ⟨hticker.1, by dsimp only; omega⟩)
                fun hticker ↦ ⟨hticker.1, hticker.2.1, by dsimp only; omega⟩
        | expired logout warning countdown hidden closed called since =>
            refine .expired logout warning countdown hidden closed called ?_
            dsimp only
            omega
  | fires timer due =>
      obtain ⟨⟨hdue, hlate⟩, ht⟩ := Option.ite_none_right_eq_some.mp hstep
      obtain rfl := Option.some.inj ht
      rw [fire_mounted] at hmounted
      exact (h hmounted).fire hmounted hdue hlate
  | pointer =>
      obtain ⟨⟨hthere, -⟩, ht⟩ := Option.ite_none_right_eq_some.mp hstep
      obtain rfl := Option.some.inj ht
      have h := h hthere
      rw [onUserActivity, watchLatest, counts]
      cases hvisible : s.warningVisible with
      | false => exact reset hon h.orderly h.timeouts_le (h.onTime.dialog.trans hvisible)
      | true => exact h
  | stayLoggedIn =>
      obtain ⟨-, ht⟩ := Option.ite_none_right_eq_some.mp hstep
      obtain rfl := Option.some.inj ht
      rw [stayLoggedIn_mounted] at hmounted
      have h := h hmounted
      let cancelled := { s with
        dialogOpen := false, warningVisible := false, countdownTicker := s.countdownTicker.cancel }
      exact reset (s := cancelled) hon ⟨h.orderly.logout, h.orderly.warning,
        TimerField.sole_cancel.mpr h.orderly.countdown, fun _ ↦ rfl⟩ h.timeouts_le rfl
  | dispose =>
      obtain ⟨-, ht⟩ := Option.ite_none_right_eq_some.mp hstep
      obtain rfl := Option.some.inj ht
      cases hmounted

end Timely

instance (s : DetectorState) (event : DetectorEvent) : Decidable (Prompt s event) :=
  match event with
  | .elapse duration =>
      decidable_of_iff ((s.logoutTimer.due.all fun due ↦ decide (s.now + duration ≤ due)) ∧
        (s.warningTimer.due.all fun due ↦ decide (s.now + duration ≤ due)) ∧
        s.countdownTicker.due.all fun due ↦ decide (s.now + duration ≤ due)) (by
          simp only [Option.all_eq_true, decide_eq_true_eq]
          refine ⟨fun h timer ↦ ?_, fun h ↦ ⟨h .logout, h .warning, h .countdown⟩⟩
          cases timer
          exacts [h.1, h.2.1, h.2.2])
  | .fires _ _ | .pointer | .stayLoggedIn | .dispose => isTrue trivial

end DetectorState
end VyuhHmi.App
