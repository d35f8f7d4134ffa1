-- The budget of a call over the network. It is what the slowest exchange
-- takes, each attempt lasting up to its timeout and followed by its pause,
-- unless no span is that long. That the pauses are added at once from the
-- cap on changes nothing.
import Mathlib.Algebra.BigOperators.Intervals
import Progression.Gateway.Retry

namespace Progression

open Finset

/-! ## Pauses grow up to the cap -/

theorem doublings_mono {m n : Nat} (h : m ≤ n) : doublings m ≤ doublings n := by
  have hsize : UInt32.size = 2 ^ 32 := rfl
  unfold doublings
  simp only [Nat.shiftLeft_eq, Nat.one_mul, hsize]
  by_cases hn : n < 32
  · rw [if_pos (by omega), if_pos hn]
    exact Nat.pow_le_pow_right (by decide) h
  · rw [if_neg hn]
    by_cases hm : m < 32
    · rw [if_pos hm]
      have : 2 ^ m ≤ 2 ^ 31 := Nat.pow_le_pow_right (by decide) (by omega)
      omega
    · rw [if_neg hm]

theorem retryDelay_le (attempt : Nat) : (retryDelay attempt).nanos ≤ longestDelay.nanos := by
  rw [retryDelay, Span.nanos_min]
  exact Nat.min_le_right ..

theorem retryDelay_mono {m n : Nat} (h : m ≤ n) : (retryDelay m).nanos ≤ (retryDelay n).nanos := by
  have hd : firstDelay.nanos * doublings (m - 1) ≤ firstDelay.nanos * doublings (n - 1) :=
    Nat.mul_le_mul_left _ (doublings_mono (by omega))
  simp only [retryDelay, Span.nanos_min, Span.nanos_times]
  omega

/-- Once a pause has reached the cap, so have all later ones. -/
theorem retryDelay_capped {m n : Nat} (h : retryDelay m = longestDelay) (hmn : m ≤ n) :
    retryDelay n = longestDelay := by
  apply Span.ext
  have hle := retryDelay_mono hmn
  rw [h] at hle
  exact Nat.le_antisymm (retryDelay_le n) hle

/-- The nanoseconds of the pauses after the `pauses` attempts from `attempt` on. -/
def pauseNanos (pauses attempt : Nat) : Nat :=
  ∑ k ∈ range pauses, (retryDelay (attempt + k)).nanos

theorem pauseNanos_succ (pauses attempt : Nat) :
    pauseNanos (pauses + 1) attempt
      = (retryDelay attempt).nanos + pauseNanos pauses (attempt + 1) := by
  unfold pauseNanos
  rw [sum_range_succ', Nat.add_comm]
  simp only [Nat.add_zero, Nat.add_assoc, Nat.add_comm 1]

theorem pauseNanos_capped {attempt : Nat} (h : retryDelay attempt = longestDelay) (pauses : Nat) :
    pauseNanos pauses attempt = longestDelay.nanos * pauses := by
  have capped (k : Nat) : retryDelay (attempt + k) = longestDelay :=
    retryDelay_capped h (Nat.le_add_right ..)
  unfold pauseNanos
  rw [sum_const_nat fun k _ => congrArg Span.nanos (capped k), card_range, Nat.mul_comm]

/-! ## The budget -/

/-- The pauses are all added, up to the longest span. -/
theorem nanos_addDelays (pauses attempt : Nat) (total : Span) :
    (addDelays pauses attempt total).nanos
      = min (total.nanos + pauseNanos pauses attempt) longestNanos := by
  induction pauses generalizing attempt total with
  | zero =>
    have := total.le_longest
    simp only [addDelays, pauseNanos, range_zero, sum_empty]
    omega
  | succ pauses ih =>
    unfold addDelays
    dsimp only
    by_cases h : retryDelay attempt = longestDelay
    · rw [if_pos h, pauseNanos_capped h, h, Span.nanos_add, Span.nanos_times]
      omega
    · rw [if_neg h, ih, pauseNanos_succ, Span.nanos_add]
      omega

/-- The nanoseconds that a call takes if each attempt lasts as long as its timeout allows and all
attempts are made. -/
def slowestNanos (timeout : Span) (retries : UInt32) : Nat :=
  timeout.nanos * attemptsOf retries + pauseNanos (attemptsOf retries - 1) 1

theorem nanos_callBudget (timeout : Span) (retries : UInt32) :
    (callBudget timeout retries).nanos = min (slowestNanos timeout retries) longestNanos := by
  simp only [callBudget, nanos_addDelays, Span.nanos_times, slowestNanos]
  omega

/-- A deadline leaves time for three of the slowest calls and for the slack, unless it is the
longest span. -/
theorem rounds_le_requestDeadline (requestTimeout clientTimeout : Span) (retries : UInt32) :
    requestDeadline requestTimeout clientTimeout retries = Span.longest ∨
      slowestNanos clientTimeout retries * gatewayRounds + deadlineSlack.nanos
        ≤ (requestDeadline requestTimeout clientTimeout retries).nanos := by
  have hbudget := nanos_callBudget clientTimeout retries
  have hle := (requestDeadline requestTimeout clientTimeout retries).le_longest
  by_cases h : (requestDeadline requestTimeout clientTimeout retries).nanos = longestNanos
  · exact .inl (Span.ext h)
  · right
    simp only [requestDeadline, gatewayRounds, Span.nanos_max, Span.nanos_add,
      Span.nanos_times] at h hle ⊢
    omega

/-! ## The time of an exchange -/

namespace Gateway

/-- The nanoseconds of an exchange whose attempts are numbered from `first` on, if the attempt of
each number lasts that long. -/
def Sent.nanos (lasts : Nat → Span) (first : Nat) (sent : Sent) : Nat :=
  ∑ k ∈ range sent.requests.length, (lasts (first + k)).nanos + (sent.pauses.map Span.nanos).sum

section Exchange

variable {operation : String} {request : WireRequest} {network : Network} {lasts : Nat → Span}
  {timeout : Span}

theorem Sent.nanos_single (lasts : Nat → Span) (first : Nat)
    (result : Except PaymentFault Payload) (request : WireRequest) :
    (Sent.mk result [request] []).nanos lasts first = (lasts first).nanos := by
  simp [Sent.nanos]

theorem Sent.nanos_after (lasts : Nat → Span) (first : Nat) (request : WireRequest) (pause : Span)
    (sent : Sent) :
    (sent.after request pause).nanos lasts first
      = (lasts first).nanos + pause.nanos + sent.nanos lasts (first + 1) := by
  simp only [Sent.nanos, Sent.after, List.length_cons, List.map_cons, List.sum_cons,
    sum_range_succ', Nat.add_zero, Nat.add_assoc, Nat.add_comm 1]
  omega

/-- No exchange takes longer than all its attempts and pauses. -/
theorem nanos_sendFrom_le (short : ∀ number, (lasts number).nanos ≤ timeout.nanos)
    (left number : Nat) :
    (sendFrom operation request network left number).nanos lasts number
      ≤ timeout.nanos * (left + 1) + pauseNanos left number := by
  induction left generalizing number with
  | zero =>
    have := short number
    simp only [sendFrom, Sent.nanos_single]
    omega
  | succ left ih =>
    have hshort := short number
    have hih := ih (number + 1)
    have hpauses := pauseNanos_succ left number
    have hmul : timeout.nanos * (left + 1 + 1) = timeout.nanos * (left + 1) + timeout.nanos :=
      Nat.mul_succ ..
    unfold sendFrom
    dsimp only
    split
    · rw [Sent.nanos_after]
      omega
    · rw [Sent.nanos_single]
      omega

theorem nanos_sendFrom_eq (retried : ∀ number,
      isRetried ((network number request).verdict operation number) = true)
    (slow : ∀ number, lasts number = timeout) (left number : Nat) :
    (sendFrom operation request network left number).nanos lasts number
      = timeout.nanos * (left + 1) + pauseNanos left number := by
  induction left generalizing number with
  | zero => simp [sendFrom, Sent.nanos_single, slow, pauseNanos]
  | succ left ih =>
    have hmul : timeout.nanos * (left + 1 + 1) = timeout.nanos * (left + 1) + timeout.nanos :=
      Nat.mul_succ ..
    unfold sendFrom
    simp only [retried number, if_true, Sent.nanos_after, ih (number + 1), slow number,
      pauseNanos_succ left number]
    omega

theorem attemptsOf_pred_succ (retries : UInt32) :
    attemptsOf retries - 1 + 1 = attemptsOf retries := by
  have hsize : UInt32.size = 4294967296 := rfl
  unfold attemptsOf
  omega

/-- A call takes no longer than the slowest one. -/
theorem nanos_send_le (short : ∀ number, (lasts number).nanos ≤ timeout.nanos)
    (operation : String) (request : WireRequest) (retries : UInt32) (network : Network) :
    (send operation request retries network).nanos lasts 1 ≤ slowestNanos timeout retries := by
  refine (nanos_sendFrom_le short (attemptsOf retries - 1) 1).trans_eq ?_
  rw [attemptsOf_pred_succ, slowestNanos]

/-- A call that is in doubt to the end, and that waits for each attempt to the end, is as slow as
the budget says. -/
theorem nanos_send_eq (retried : ∀ number,
      isRetried ((network number request).verdict operation number) = true)
    (slow : ∀ number, lasts number = timeout) (retries : UInt32) :
    (send operation request retries network).nanos lasts 1 = slowestNanos timeout retries := by
  have h := nanos_sendFrom_eq retried slow (attemptsOf retries - 1) 1
  rwa [attemptsOf_pred_succ] at h

end Exchange

end Gateway

end Progression
