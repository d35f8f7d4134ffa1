-- How long a remote call may take. A failed attempt is followed by a
-- pause that doubles up to a cap, so a call has a budget of attempts and
-- pauses, and a request has a deadline that covers the gateway calls it
-- makes one after another.
import Progression.Span

namespace Progression

/-- The pause after the first failed attempt. -/
def firstDelay : Span := Span.ofMillis 100

/-- No pause is longer than this. -/
def longestDelay : Span := Span.ofSeconds 5

/-- Two to the power `n`, or the largest 32-bit word if that is smaller. -/
def doublings (n : Nat) : Nat := if n < 32 then 1 <<< n else UInt32.size - 1

/-- The pause after failed attempt `attempt`, counted from one. -/
def retryDelay (attempt : Nat) : Span :=
  min (firstDelay.times (doublings (attempt - 1))) longestDelay

/-- The attempts of a call with `retries` retries, a number that itself fits 32 bits. -/
def attemptsOf (retries : UInt32) : Nat := min (retries.toNat + 1) (UInt32.size - 1)

/-- `total` and the pauses after the `pauses` attempts from `attempt` on. Once a pause has reached
the cap, so have all later ones, and they are added at once. -/
def addDelays : (pauses attempt : Nat) → Span → Span
  | 0, _, total => total
  | pauses + 1, attempt, total =>
    let delay := retryDelay attempt
    if delay = longestDelay then total + delay.times (pauses + 1)
    else addDelays pauses (attempt + 1) (total + delay)

/-- The longest that one call may take: every attempt up to its timeout, and every pause. -/
def callBudget (timeout : Span) (retries : UInt32) : Span :=
  let attempts := attemptsOf retries
  addDelays (attempts - 1) 1 (timeout.times attempts)

/-! ## The deadline of a request -/

/-- The gateway calls that a level-up waits for one after another: the two questions, which it
asks at once, the reservation and its settlement. -/
def gatewayRounds : Nat := 3

/-- The time that a request may spend on the store and the cache. -/
def deadlineSlack : Span := Span.ofSeconds 2

/-- A request may last as long as its configured timeout, and as long as its gateway calls. -/
def requestDeadline (requestTimeout clientTimeout : Span) (retries : UInt32) : Span :=
  max requestTimeout ((callBudget clientTimeout retries).times gatewayRounds + deadlineSlack)

/-- A request is never given less than its configured timeout. -/
theorem le_requestDeadline (requestTimeout clientTimeout : Span) (retries : UInt32) :
    requestTimeout ≤ requestDeadline requestTimeout clientTimeout retries := by
  simp only [Span.le_def, requestDeadline, Span.nanos_max]
  exact Nat.le_max_left ..

end Progression
