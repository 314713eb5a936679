import Mathlib.Data.List.Perm.Basic

/-!
# Logs of channels

Messages are sent on channels and received from them, each with an entry in a log of its own.  On a
first-in-first-out channel the messages received are the first of those sent, in the same order.
If that holds on every channel, no message is received more often than it is sent, and none from
another channel than its own.
-/

namespace ChannelLog

variable {Channel Message : Type*} [DecidableEq Channel] {channel other : Channel}
  {message : Message} {log sent received : List (Channel × Message)}

/-- The messages of one channel, in their order. -/
def on (channel : Channel) (log : List (Channel × Message)) : List Message :=
  (log.filter fun entry ↦ entry.1 = channel).map Prod.snd

/-- The messages received from each channel are the first of those sent on it. -/
def Fifo (sent received : List (Channel × Message)) : Prop :=
  ∀ channel, on channel received <+: on channel sent

@[simp] theorem on_nil (channel : Channel) : on channel ([] : List (Channel × Message)) = [] := rfl

theorem on_append (channel : Channel) (log log' : List (Channel × Message)) :
    on channel (log ++ log') = on channel log ++ on channel log' := by
  simp [on]

theorem on_snoc (channel other : Channel) (message : Message) (log : List (Channel × Message)) :
    on channel (log ++ [(other, message)]) =
      on channel log ++ if other = channel then [message] else [] := by
  rw [on_append]
  by_cases h : other = channel <;> simp [on, h]

@[simp] theorem on_snoc_self (channel : Channel) (message : Message)
    (log : List (Channel × Message)) :
    on channel (log ++ [(channel, message)]) = on channel log ++ [message] := by
  rw [on_snoc, if_pos rfl]

theorem on_snoc_of_ne (h : other ≠ channel) (message : Message) (log : List (Channel × Message)) :
    on channel (log ++ [(other, message)]) = on channel log := by
  rw [on_snoc, if_neg h, List.append_nil]

theorem mem_on_iff : message ∈ on channel log ↔ (channel, message) ∈ log := by
  simp [on]

theorem count_on [DecidableEq Message] (channel : Channel) (message : Message)
    (log : List (Channel × Message)) :
    (on channel log).count message = log.count (channel, message) := by
  induction log with
  | nil => rfl
  | cons entry log ih =>
      obtain ⟨other, message'⟩ := entry
      have hsplit : on channel ((other, message') :: log) =
          (if other = channel then [message'] else []) ++ on channel log := by
        by_cases h : other = channel <;> simp [on, h]
      rw [hsplit, List.count_append, ih, List.count_cons, Nat.add_comm]
      by_cases h : other = channel <;> simp [h, List.count_singleton]

/-! ## First in, first out -/

theorem fifo_nil : Fifo ([] : List (Channel × Message)) [] := fun _ ↦ List.prefix_rfl

/-- Sending more. -/
theorem Fifo.send (h : Fifo sent received) (more : List (Channel × Message)) :
    Fifo (sent ++ more) received := by
  intro channel
  rw [on_append]
  exact (h channel).trans (List.prefix_append _ _)

/-- Receiving the next message of a channel. -/
theorem Fifo.receive (h : Fifo sent received) {rest : List Message}
    (hnext : on channel sent = on channel received ++ message :: rest) :
    Fifo sent (received ++ [(channel, message)]) := by
  intro channel'
  by_cases hchannel : channel = channel'
  · subst hchannel
    rw [on_snoc_self, hnext]
    exact ⟨rest, by simp⟩
  · rw [on_snoc_of_ne hchannel]
    exact h channel'

theorem Fifo.mem (h : Fifo sent received) {entry : Channel × Message} (hmem : entry ∈ received) :
    entry ∈ sent := by
  have hon : entry.2 ∈ on entry.1 sent := (h entry.1).subset (mem_on_iff.mpr hmem)
  exact mem_on_iff.mp hon

theorem Fifo.subperm (h : Fifo sent received) : received.Subperm sent := by
  classical
  rw [List.subperm_ext_iff]
  intro entry _
  calc
    received.count entry = (on entry.1 received).count entry.2 := (count_on _ _ _).symm
    _ ≤ (on entry.1 sent).count entry.2 := (h entry.1).sublist.count_le _
    _ = sent.count entry := count_on _ _ _

theorem Fifo.on_eq_nil (h : Fifo sent received) (hsent : on channel sent = []) :
    on channel received = [] := by
  have hpre := h channel
  rw [hsent] at hpre
  exact List.prefix_nil.mp hpre

end ChannelLog
