-- The budget as a plain sum. The pauses double up to their cap and never
-- shrink, so a loop that stops at the first one of full length and counts
-- the rest adds what a loop over all of them adds. Both stop growing at
-- the longest span, and no sooner than the exact sum does.
import Mathlib.Algebra.Order.BigOperators.Group.Finset
import Progression.Proofs.Budget

namespace Progression

open Finset

/-! ## The pause in closed form -/

theorem nanos_firstDelay : firstDelay.nanos = 100 * 1000000 := by decide

theorem nanos_longestDelay : longestDelay.nanos = 5 * nanosPerSecond := by decide

/-- Where the doublings stop, the cap has long been reached. -/
theorem capped_doublings (n : Nat) :
    min (firstDelay.nanos * doublings n) longestDelay.nanos
      = min (firstDelay.nanos * 2 ^ n) longestDelay.nanos := by
  have hsize : UInt32.size = 2 ^ 32 := rfl
  have hsecond : nanosPerSecond = 1000000000 := rfl
  rw [nanos_firstDelay, nanos_longestDelay]
  unfold doublings
  by_cases h : n < 32
  · rw [if_pos h, Nat.shiftLeft_eq, Nat.one_mul]
  · have hpow : 2 ^ 32 ≤ 2 ^ n := Nat.pow_le_pow_right (by decide) (by omega)
    rw [if_neg h]
    omega

/-- The pause doubles from the second attempt on, up to the cap. -/
theorem nanos_retryDelay (attempt : Nat) :
    (retryDelay attempt).nanos
      = min (firstDelay.nanos * 2 ^ (max attempt 1 - 1)) longestDelay.nanos := by
  have hlong : longestDelay.nanos ≤ longestNanos := longestDelay.le_longest
  have hback : attempt - 1 = max attempt 1 - 1 := by omega
  rw [← capped_doublings, ← hback]
  simp only [retryDelay, Span.nanos_min, Span.nanos_times]
  omega

/-! ## One pause after the other -/

/-- `total` and the pauses after the `pauses` attempts from `attempt` on, added one by one. -/
def addEachDelay : (pauses attempt : Nat) → Span → Span
  | 0, _, total => total
  | pauses + 1, attempt, total => addEachDelay pauses (attempt + 1) (total + retryDelay attempt)

theorem nanos_addEachDelay (pauses attempt : Nat) (total : Span) :
    (addEachDelay pauses attempt total).nanos
      = min (total.nanos + pauseNanos pauses attempt) longestNanos := by
  induction pauses generalizing attempt total with
  | zero =>
    have := total.le_longest
    simp only [addEachDelay, pauseNanos, range_zero, sum_empty]
    omega
  | succ pauses ih =>
    unfold addEachDelay
    rw [ih, pauseNanos_succ, Span.nanos_add]
    omega

/-- To add the pauses of full length at once changes nothing. -/
theorem addDelays_eq_addEachDelay (pauses attempt : Nat) (total : Span) :
    addDelays pauses attempt total = addEachDelay pauses attempt total := by
  apply Span.ext
  rw [nanos_addDelays, nanos_addEachDelay]

/-! ## The sum -/

/-- The exact sum of what the attempts and the pauses between them may take. -/
theorem slowestNanos_eq_sum (timeout : Span) (retries : UInt32) :
    slowestNanos timeout retries = timeout.nanos * attemptsOf retries
      + ∑ k ∈ Ico 1 (attemptsOf retries), (retryDelay k).nanos := by
  unfold slowestNanos pauseNanos
  rw [sum_Ico_eq_sum_range]

theorem attemptsOf_mono {m n : UInt32} (h : m ≤ n) : attemptsOf m ≤ attemptsOf n := by
  have hle := UInt32.le_iff_toNat_le.mp h
  unfold attemptsOf
  omega

/-- More attempts of a longer timeout take longer. -/
theorem slowestNanos_mono {short long : Span} {m n : UInt32} (hs : short ≤ long) (hr : m ≤ n) :
    slowestNanos short m ≤ slowestNanos long n := by
  have attempts := attemptsOf_mono hr
  rw [slowestNanos_eq_sum, slowestNanos_eq_sum]
  apply Nat.add_le_add
  · exact Nat.mul_le_mul (Span.le_def.mp hs) attempts
  · exact sum_le_sum_of_subset (Ico_subset_Ico_right attempts)

/-- A budget is the exact sum of its attempts and pauses, cut off at the longest span, and it grows
with the timeout and with the retries. A pause is 100 milliseconds doubled with each attempt after
the first, cut off at 5 seconds, so it never shrinks, and from the first pause of full length on all
of them may be added at once. -/
theorem a_budget_is_the_plain_sum_of_its_attempts_and_pauses :
    (∀ attempt : Nat, (retryDelay attempt).nanos
      = min (100 * 1000000 * 2 ^ (max attempt 1 - 1)) (5 * nanosPerSecond)) ∧
    (∀ m n : Nat, m ≤ n → retryDelay m ≤ retryDelay n) ∧
    (∀ (timeout : Span) (retries : UInt32), (callBudget timeout retries).nanos
      = min longestNanos (timeout.nanos * min (retries.toNat + 1) (UInt32.size - 1)
        + ∑ k ∈ Ico 1 (min (retries.toNat + 1) (UInt32.size - 1)), (retryDelay k).nanos)) ∧
    (∀ (short long : Span) (m n : UInt32), short ≤ long → m ≤ n →
      callBudget short m ≤ callBudget long n) ∧
    ∀ (pauses attempt : Nat) (total : Span),
      addDelays pauses attempt total = addEachDelay pauses attempt total := by
  refine ⟨?_, ?_, ?_, ?_, addDelays_eq_addEachDelay⟩
  · intro attempt
    rw [nanos_retryDelay, nanos_firstDelay, nanos_longestDelay]
  · intro m n h
    exact Span.le_def.mpr (retryDelay_mono h)
  · intro timeout retries
    rw [nanos_callBudget, slowestNanos_eq_sum, Nat.min_comm]
    rfl
  · intro short long m n hs hr
    have slowest := slowestNanos_mono hs hr
    rw [Span.le_def, nanos_callBudget, nanos_callBudget]
    omega

/-- Four attempts of five seconds and three pauses take 20.7 seconds, and no fewer attempts of five
seconds take longer. -/
theorem four_attempts_outlast_three :
    (callBudget (.ofSeconds 5) 3).nanos = 20700 * 1000000 ∧
      callBudget (.ofSeconds 5) 2 ≤ callBudget (.ofSeconds 5) 3 := by
  obtain ⟨-, -, sum, mono, -⟩ := a_budget_is_the_plain_sum_of_its_attempts_and_pauses
  refine ⟨?_, mono _ _ 2 3 (Nat.le_refl _) (by decide)⟩
  rw [sum]
  decide

end Progression
