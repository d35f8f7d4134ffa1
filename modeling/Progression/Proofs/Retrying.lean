-- Where a call with retries ends: at its first attempt that is not worth
-- another one, or at the last one that it may make. All the attempts before
-- that have failed ambiguously, and only the last of them is reported.
import Progression.Gateway.Client

namespace Progression.Gateway

/-- What the attempt of that number means. -/
def outcome (operation : String) (request : WireRequest) (network : Network) (number : Nat) :
    Except PaymentFault Payload := (network number request).verdict operation number

/-- A call that may make the attempts from `first` to `limit` ends with attempt `last`. -/
structure EndsAt (results : Nat → Except PaymentFault Payload) (first limit last : Nat) : Prop where
  begun : first ≤ last
  within : last ≤ limit
  retried : ∀ number, first ≤ number → number < last → isRetried (results number) = true
  final : isRetried (results last) = true → last = limit

section Send

variable {operation : String} {request : WireRequest} {network : Network}
  {results : Nat → Except PaymentFault Payload} {first limit last : Nat}

/-- A call that goes on ends where the rest of it does. -/
theorem EndsAt.again (h : EndsAt results (first + 1) limit last)
    (worth : isRetried (results first) = true) : EndsAt results first limit last where
  begun := by
    have := h.begun
    omega
  within := h.within
  retried number hfirst hlast := by
    by_cases hn : number = first
    · rwa [hn]
    · exact h.retried number (by omega) hlast
  final := h.final

theorem sendFrom_endsAt (operation : String) (request : WireRequest) (network : Network)
    (left number : Nat) :
    ∃ last, EndsAt (outcome operation request network) number (number + left) last ∧
      (sendFrom operation request network left number).result
        = outcome operation request network last ∧
      (sendFrom operation request network left number).requests
        = List.replicate (last + 1 - number) request := by
  induction left generalizing number with
  | zero =>
    have hone : number + 1 - number = 1 := by omega
    exact ⟨number, ⟨Nat.le_refl _, Nat.le_refl _, fun _ _ _ => by omega, fun _ => rfl⟩, rfl,
      by rw [hone]; rfl⟩
  | succ left ih =>
    by_cases worth : isRetried (outcome operation request network number) = true
    · obtain ⟨last, ends, hresult, hrequests⟩ := ih (number + 1)
      have ends : EndsAt (outcome operation request network) (number + 1) (number + (left + 1))
          last := by
        rwa [Nat.add_assoc, Nat.add_comm 1] at ends
      have hcount : last + 1 - number = (last + 1 - (number + 1)) + 1 := by
        have := ends.begun
        omega
      have hsend : sendFrom operation request network (left + 1) number
          = (sendFrom operation request network left (number + 1)).after request
            (retryDelay number) := if_pos worth
      refine ⟨last, ends.again worth, ?_, ?_⟩
      · rw [hsend]
        exact hresult
      · rw [hsend, hcount, List.replicate_succ, ← hrequests]
        rfl
    · have hsend : sendFrom operation request network (left + 1) number
          = ⟨outcome operation request network number, [request], []⟩ := if_neg worth
      have hone : number + 1 - number = 1 := by omega
      refine ⟨number, ⟨Nat.le_refl _, by omega, fun _ _ _ => by omega,
        fun hw => absurd hw worth⟩, ?_, ?_⟩
      · rw [hsend]
      · rw [hsend, hone]
        rfl

theorem one_le_attemptsOf (retries : UInt32) : 1 ≤ attemptsOf retries := by
  have hsize : UInt32.size = 4294967296 := rfl
  unfold attemptsOf
  omega

/-- A call makes its first attempt and at most as many as are allowed. Its result is what the last
one means. -/
theorem send_endsAt (operation : String) (request : WireRequest) (retries : UInt32)
    (network : Network) :
    ∃ last, EndsAt (outcome operation request network) 1 (attemptsOf retries) last ∧
      (send operation request retries network).result = outcome operation request network last ∧
      (send operation request retries network).requests = List.replicate last request := by
  have hlimit : 1 + (attemptsOf retries - 1) = attemptsOf retries := by
    have := one_le_attemptsOf retries
    omega
  have h := sendFrom_endsAt operation request network (attemptsOf retries - 1) 1
  rwa [hlimit] at h

end Send

/-! ## Doubts and refusals -/

/-- The gateway has surely not done what it was asked for. -/
def IsRefused (result : Except PaymentFault Payload) : Prop :=
  ∃ fault, result = .error fault ∧ fault.isAmbiguous = false

theorem IsRefused.not_isRetried {result : Except PaymentFault Payload} (h : IsRefused result) :
    isRetried result = false := by
  obtain ⟨fault, rfl, clear⟩ := h
  exact clear

/-- A refusal that follows a doubt: the attempts before it have all failed ambiguously. -/
def RefusedAfterDoubt (results : Nat → Except PaymentFault Payload) (limit : Nat) : Prop :=
  ∃ number, 2 ≤ number ∧ number ≤ limit ∧
    (∀ before, 1 ≤ before → before < number → isRetried (results before) = true) ∧
    IsRefused (results number)

/-- A call in doubt about one of its attempts is refused if a refusal follows the doubt, and only
then. -/
theorem EndsAt.refused_iff {results : Nat → Except PaymentFault Payload} {limit last : Nat}
    (h : EndsAt results 1 limit last) :
    ((∃ number, 1 ≤ number ∧ number ≤ last ∧ isRetried (results number) = true) ∧
      IsRefused (results last)) ↔ RefusedAfterDoubt results limit := by
  constructor
  · rintro ⟨⟨number, hone, hlast, doubt⟩, refused⟩
    have hne : ¬ last ≤ 1 := fun hle => by
      obtain rfl : number = last := by omega
      rw [refused.not_isRetried] at doubt
      cases doubt
    exact ⟨last, by omega, h.within, h.retried, refused⟩
  · rintro ⟨number, htwo, hlimit, doubts, refused⟩
    have hbegun := h.begun
    have hge : ¬ last < number := fun hlt => by
      have := h.final (doubts last hbegun hlt)
      omega
    have hle : ¬ number < last := fun hlt => by
      have doubt := h.retried number (by omega) hlt
      rw [refused.not_isRetried] at doubt
      cases doubt
    obtain rfl : number = last := by omega
    exact ⟨⟨1, Nat.le_refl 1, by omega, doubts 1 (Nat.le_refl 1) (by omega)⟩, refused⟩

end Progression.Gateway
