-- The attempts of a call with retries, one by one. A call repeats its
-- request, with a pause after each attempt but the last, until an attempt
-- is decided or no other one is allowed. The number of the attempt is a
-- 32-bit word, which the saturated number of attempts keeps from
-- overflowing.
import Progression.Plan
import Progression.Proofs.Retrying

namespace Progression.Gateway

/-! ## Attempts that are decided -/

/-- It is known whether the gateway has done its work: it has said so, or it was never reached. -/
def Attempt.IsDecided : Attempt → Prop
  | .response status _ => status < 500
  | .timedOut => False
  | .broken cls _ => cls.mayHaveArrived = false

theorem isRetried_verdict (operation : String) (number : Nat) (attempt : Attempt) :
    isRetried (attempt.verdict operation number) = true ↔ ¬ attempt.IsDecided := by
  cases attempt with
  | response status body =>
    simp only [Attempt.verdict, Attempt.IsDecided]
    by_cases good : 200 ≤ status ∧ status ≤ 299
    · have decided : status < 500 := by omega
      simp [good, decided, isRetried]
    · simp [good, isRetried, PaymentFault.isAmbiguous]
  | timedOut => exact ⟨fun _ => id, fun _ => rfl⟩
  | broken cls text =>
    simp only [Attempt.verdict, isRetried, PaymentFault.isAmbiguous, Attempt.IsDecided,
      Bool.not_eq_false]

/-- Attempt `last` is the first one that is decided, or the last one of `most`. -/
structure IsLast (attempts : Nat → Attempt) (most last : Nat) : Prop where
  begun : 1 ≤ last
  within : last ≤ most
  undecided : ∀ number, 1 ≤ number → number < last → ¬ (attempts number).IsDecided
  final : (attempts last).IsDecided ∨ last = most

/-- What a call reports of the attempt that was its last: a good response, the status and the text
of any other response, how many attempts timed out, or where the connection broke. -/
inductive Reports (operation : String) (number : Nat) : Attempt → Except PaymentFault Payload → Prop
  | good {status : Nat} {body : Payload} (success : 200 ≤ status ∧ status < 300) :
      Reports operation number (.response status body) (.ok body)
  | rejected {status : Nat} {content : Content} (failure : ¬ (200 ≤ status ∧ status < 300)) :
      Reports operation number (.response status (.ok content))
        (.error (.rejected operation status content.text))
  | unreadable {status : Nat} {broke : TransportClass × String}
      (failure : ¬ (200 ≤ status ∧ status < 300)) :
      Reports operation number (.response status (.error broke))
        (.error (.rejected operation status ""))
  | timedOut : Reports operation number .timedOut (.error (.timeout number))
  | broken (cls : TransportClass) (text : String) :
      Reports operation number (.broken cls text) (.error (.transport cls text))

theorem reports_verdict (operation : String) (number : Nat) (attempt : Attempt) :
    Reports operation number attempt (attempt.verdict operation number) := by
  cases attempt with
  | response status body =>
    simp only [Attempt.verdict]
    by_cases good : 200 ≤ status ∧ status ≤ 299
    · rw [if_pos good]
      exact .good (by omega)
    · rw [if_neg good]
      rcases body with broke | content
      · exact .unreadable (by omega)
      · exact .rejected (by omega)
  | timedOut => exact .timedOut
  | broken cls text => exact .broken cls text

section Ends

variable {operation : String} {request : WireRequest} {network : Network}
  {results : Nat → Except PaymentFault Payload} {first limit last other : Nat}

/-- A call ends at one attempt only. -/
theorem EndsAt.unique (h : EndsAt results first limit last)
    (h' : EndsAt results first limit other) : last = other := by
  -- The earlier of two ends would have been retried, so it is the last attempt that is allowed.
  have not_before {a b : Nat} (ha : EndsAt results first limit a)
      (hb : EndsAt results first limit b) : ¬ a < b := by
    intro hlt
    have hlimit := ha.final (hb.retried a ha.begun hlt)
    have := hb.within
    omega
  have hle := not_before h h'
  have hge := not_before h' h
  omega

/-- Where a call that goes on ends, the rest of it does. -/
theorem EndsAt.rest (h : EndsAt results first limit last) (more : first < limit)
    (worth : isRetried (results first) = true) : EndsAt results (first + 1) limit last where
  begun := by
    have hbegun := h.begun
    have hne : first ≠ last := by
      rintro rfl
      have := h.final worth
      omega
    omega
  within := h.within
  retried number hfirst hlast := h.retried number (by omega) hlast
  final := h.final

theorem EndsAt.eq_first (h : EndsAt results first limit last)
    (decided : ¬ isRetried (results first) = true) : last = first := by
  have hbegun := h.begun
  have not_after : ¬ first < last := fun hlt => decided (h.retried first (Nat.le_refl first) hlt)
  omega

theorem endsAt_iff_isLast :
    EndsAt (outcome operation request network) 1 limit last ↔
      IsLast (fun number => network number request) limit last := by
  constructor
  · intro h
    refine ⟨h.begun, h.within, ?_, ?_⟩
    · intro number hone hlast
      exact (isRetried_verdict operation number _).mp (h.retried number hone hlast)
    · by_cases decided : (network last request).IsDecided
      · exact .inl decided
      · exact .inr (h.final ((isRetried_verdict operation last _).mpr decided))
  · intro h
    refine ⟨h.begun, h.within, ?_, ?_⟩
    · intro number hone hlast
      exact (isRetried_verdict operation number _).mpr (h.undecided number hone hlast)
    · intro worth
      rcases h.final with decided | hlimit
      · exact absurd decided ((isRetried_verdict operation last _).mp worth)
      · exact hlimit

/-! ## What a call sends, and how long it pauses -/

theorem sendFrom_again (worth : isRetried (outcome operation request network first) = true)
    (left : Nat) :
    sendFrom operation request network (left + 1) first
      = (sendFrom operation request network left (first + 1)).after request (retryDelay first) :=
  if_pos worth

theorem sendFrom_decided (decided : ¬ isRetried (outcome operation request network first) = true)
    (left : Nat) :
    sendFrom operation request network left first
      = ⟨outcome operation request network first, [request], []⟩ := by
  cases left with
  | zero => rfl
  | succ left => exact if_neg decided

/-- There is a pause after each attempt but the last. -/
theorem sendFrom_pauses (left number : Nat)
    (ends : EndsAt (outcome operation request network) number (number + left) last) :
    (sendFrom operation request network left number).pauses
      = (List.range' number (last - number)).map retryDelay := by
  induction left generalizing number with
  | zero =>
    have hlast : last - number = 0 := by
      have := ends.within
      omega
    rw [hlast]
    rfl
  | succ left ih =>
    by_cases worth : isRetried (outcome operation request network number) = true
    · have rest := ends.rest (by omega) worth
      have hcount : last - number = (last - (number + 1)) + 1 := by
        have := rest.begun
        omega
      have hlimit : number + (left + 1) = number + 1 + left := by omega
      rw [hlimit] at rest
      rw [sendFrom_again worth, hcount, List.range'_succ, List.map_cons, ← ih (number + 1) rest]
      rfl
    · rw [sendFrom_decided worth, ends.eq_first worth, Nat.sub_self]
      rfl

end Ends

/-! ## The loop with a counter -/

/-- The attempts that a call may make, as a word: one more than its retries, if a word holds that
many. -/
def mostAttempts (retries : UInt32) : UInt32 :=
  if retries.toNat + 1 < UInt32.size then retries + 1 else retries

theorem toNat_mostAttempts (retries : UInt32) :
    (mostAttempts retries).toNat = attemptsOf retries := by
  have hsize : UInt32.size = 4294967296 := rfl
  have hlt := retries.toNat_lt
  unfold mostAttempts attemptsOf
  split
  · rw [UInt32.toNat_add]
    simp only [UInt32.toNat_one]
    omega
  · omega

/-- What a call does at a time. -/
inductive Act where
  | sends (request : WireRequest)
  | sleeps (pause : Span)

/-- Requests, and the pauses between them. -/
def interleaved : List WireRequest → List Span → List Act
  | request :: requests, pause :: pauses =>
    .sends request :: .sleeps pause :: interleaved requests pauses
  | requests, _ => requests.map .sends

/-- All that a call has done, in order. -/
def Sent.acts (sent : Sent) : List Act := interleaved sent.requests sent.pauses

/-- What a call does from the attempt of a number on, where the number is a word, and how it ends: a
number that has no successor breaks it. -/
inductive Loop (operation : String) (request : WireRequest) (network : Network) (most : UInt32) :
    UInt32 → List Act → Except Overflow (Except PaymentFault Payload) → Prop
  | ends {number : UInt32}
      (stop : most ≤ number ∨ (network number.toNat request).IsDecided) :
      Loop operation request network most number [.sends request]
        (.ok ((network number.toNat request).verdict operation number.toNat))
  | again {number : UInt32} {acts : List Act}
      {ending : Except Overflow (Except PaymentFault Payload)} (more : number < most)
      (undecided : ¬ (network number.toNat request).IsDecided)
      (counts : number.toNat + 1 < UInt32.size)
      (rest : Loop operation request network most (number + 1) acts ending) :
      Loop operation request network most number
        (.sends request :: .sleeps (retryDelay number.toNat) :: acts) ending
  | breaks {number : UInt32} (more : number < most)
      (undecided : ¬ (network number.toNat request).IsDecided)
      (full : number.toNat + 1 = UInt32.size) :
      Loop operation request network most number
        [.sends request, .sleeps (retryDelay number.toNat)] (.error .addition)

section Loop

variable {operation : String} {request : WireRequest} {network : Network} {most number : UInt32}
  {acts : List Act} {ending : Except Overflow (Except PaymentFault Payload)}

/-- From each attempt on, the loop does what is left of the call, and nothing else. -/
theorem loop_iff_sendFrom (left : Nat) (hmost : number.toNat + left = most.toNat) :
    Loop operation request network most number acts ending ↔
      acts = (sendFrom operation request network left number.toNat).acts ∧
        ending = .ok (sendFrom operation request network left number.toNat).result := by
  have hworth := isRetried_verdict operation number.toNat (network number.toNat request)
  induction left generalizing number acts with
  | zero =>
    have last : most ≤ number := UInt32.le_iff_toNat_le.mpr (by omega)
    constructor
    · intro h
      cases h with
      | ends => exact ⟨rfl, rfl⟩
      | again more | breaks more => exact absurd more (UInt32.not_lt.mpr last)
    · rintro ⟨rfl, rfl⟩
      exact .ends (.inl last)
  | succ left ih =>
    have more : number < most := UInt32.lt_iff_toNat_lt.mpr (by omega)
    by_cases decided : (network number.toNat request).IsDecided
    · rw [sendFrom_decided fun worth => hworth.mp worth decided]
      constructor
      · intro h
        cases h with
        | ends => exact ⟨rfl, rfl⟩
        | again _ undecided | breaks _ undecided => exact absurd decided undecided
      · rintro ⟨rfl, rfl⟩
        exact .ends (.inr decided)
    · have hlt := most.toNat_lt
      have counts : number.toNat + 1 < UInt32.size := by
        have hsize : UInt32.size = 4294967296 := rfl
        omega
      have hnext : (number + 1).toNat = number.toNat + 1 := by
        rw [UInt32.toNat_add, UInt32.toNat_one]
        exact Nat.mod_eq_of_lt counts
      -- The number stays below the word's size, so its successor is the next number.
      have rest (acts : List Act) := @ih (number + 1) acts (by omega)
        (isRetried_verdict operation (number + 1).toNat (network (number + 1).toNat request))
      rw [hnext] at rest
      rw [sendFrom_again (hworth.mpr decided)]
      constructor
      · intro h
        cases h with
        | ends stop =>
          rcases stop with last | hd
          · exact absurd more (UInt32.not_lt.mpr last)
          · exact absurd hd decided
        | again _ _ _ after =>
          obtain ⟨rfl, rfl⟩ := (rest _).mp after
          exact ⟨rfl, rfl⟩
        | breaks _ _ full => omega
      · rintro ⟨rfl, rfl⟩
        exact .again more decided counts ((rest _).mpr ⟨rfl, rfl⟩)

end Loop

/-- A call sends its request until an attempt is decided, or as often as it may. It pauses between
two attempts, the longer the more it has made, and not after the last one, and it reports the last
one. A loop that counts its attempts in a word comes to the same end, whatever the attempts
bring. -/
theorem a_call_is_repeated_until_it_is_decided (operation : String) (request : WireRequest)
    (retries : UInt32) (network : Network) :
    ∃ last, (∀ number, IsLast (fun k => network k request)
        (min (retries.toNat + 1) (UInt32.size - 1)) number ↔ number = last) ∧
      (send operation request retries network).requests = List.replicate last request ∧
      (send operation request retries network).pauses
        = (List.range' 1 (last - 1)).map retryDelay ∧
      Reports operation last (network last request)
        (send operation request retries network).result ∧
      ∀ acts ending, Loop operation request network (mostAttempts retries) 1 acts ending ↔
        acts = (send operation request retries network).acts ∧
          ending = .ok (send operation request retries network).result := by
  obtain ⟨last, ends, result, requests⟩ := send_endsAt operation request retries network
  have hone := one_le_attemptsOf retries
  refine ⟨last, ?_, requests, ?_, ?_, ?_⟩
  · intro number
    rw [← @endsAt_iff_isLast operation]
    constructor
    · intro h
      exact h.unique ends
    · rintro rfl
      exact ends
  · have hlimit : 1 + (attemptsOf retries - 1) = attemptsOf retries := by omega
    exact sendFrom_pauses _ 1 (by rwa [hlimit])
  · rw [result]
    exact reports_verdict operation last _
  · intro acts ending
    refine @loop_iff_sendFrom operation request network _ 1 _ _ (attemptsOf retries - 1) ?_
    rw [toNat_mostAttempts, UInt32.toNat_one]
    omega

end Progression.Gateway
