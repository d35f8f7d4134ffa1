-- What is held for level-ups side by side. Each payment id is at stake for
-- one level-up at most, so a turn of one of them touches no reservation
-- of another.
import Mathlib.Algebra.BigOperators.Group.Finset.Piecewise
import Mathlib.Data.Fintype.Basic
import Progression.Proofs.Failing
import Progression.Proofs.Stakes

namespace Progression.LevelUp

open Rehearsal

/-- The reservation and the coins that a stake stands for. -/
def Stake.Owes (reserved : Table PaymentId Reservation) (user : UserId) : Stake → Int → Prop
  | .nothing, owed => owed = 0
  | .asked payment _, owed => owed = 0 ∧ reserved.get? payment = none
  | .held payment amount, owed =>
    owed = amount.toInt ∧ reserved.get? payment = some ⟨user, amount⟩
  | .doubtful payment amount, owed =>
    owed = amount.toInt ∧ reserved.get? payment = some ⟨user, amount⟩ ∨
      owed = 0 ∧ reserved.get? payment = none
  | .spent amount, owed => owed = amount.toInt

theorem Stake.Owes.congr {reserved reserved' : Table PaymentId Reservation} {user : UserId}
    {stake : Stake} {owed : Int} (h : stake.Owes reserved user owed)
    (hr : ∀ payment, stake.payment? = some payment →
      reserved'.get? payment = reserved.get? payment) : stake.Owes reserved' user owed := by
  cases stake with
  | nothing | spent => exact h
  | asked payment amount => exact ⟨h.1, (hr payment rfl).trans h.2⟩
  | held payment amount => exact ⟨h.1, (hr payment rfl).trans h.2⟩
  | doubtful payment amount =>
    exact h.imp (fun h => ⟨h.1, (hr payment rfl).trans h.2⟩)
      fun h => ⟨h.1, (hr payment rfl).trans h.2⟩

variable {ι : Type} [DecidableEq ι] {users : ι → UserId}

/-- The reservations that level-ups hold. An id that nobody has taken holds nothing. -/
structure Holdings (users : ι → UserId) (reserved : Table PaymentId Reservation)
    (taken : Set PaymentId) (stakes : ι → Stake) (owed : ι → Int) : Prop where
  owes : ∀ i, (stakes i).Owes reserved (users i) (owed i)
  fresh : ∀ i payment, (stakes i).payment? = some payment → payment ∈ taken
  apart : ∀ i j payment, (stakes i).payment? = some payment →
    (stakes j).payment? = some payment → i = j
  known : ∀ payment, payment ∉ taken → reserved.get? payment = none

variable {reserved reserved' : Table PaymentId Reservation} {taken : Set PaymentId}
  {stakes : ι → Stake} {owed : ι → Int} {i : ι} {stake : Stake} {n : Int}

omit [DecidableEq ι] in
theorem Holdings.opening (known : ∀ payment, payment ∉ taken → reserved.get? payment = none) :
    Holdings users reserved taken (fun _ => .nothing) fun _ : ι => 0 where
  owes _ := rfl
  fresh _ _ hp := by cases hp
  apart _ _ _ hp := by cases hp
  known := known

/-- A level-up that touches no reservation but its own keeps the holdings of all. -/
theorem Holdings.move (held : Holdings users reserved taken stakes owed)
    (rest : ∀ payment, (stakes i).payment? ≠ some payment →
      reserved'.get? payment = reserved.get? payment)
    (owes : stake.Owes reserved' (users i) n)
    (mine : ∀ payment, stake.payment? = some payment → (stakes i).payment? = some payment) :
    Holdings users reserved' taken (Function.update stakes i stake)
      (Function.update owed i n) := by
  have old {j : ι} {payment : PaymentId}
      (hj : (Function.update stakes i stake j).payment? = some payment) :
      (stakes j).payment? = some payment := by
    by_cases hji : j = i
    · subst hji
      rw [Function.update_self] at hj
      exact mine payment hj
    · rwa [Function.update_of_ne hji] at hj
  refine ⟨fun j => ?_, fun j payment hj => held.fresh j payment (old hj),
    fun j k payment hj hk => held.apart j k payment (old hj) (old hk), fun payment hp => ?_⟩
  · by_cases hj : j = i
    · subst hj
      rwa [Function.update_self, Function.update_self]
    · rw [Function.update_of_ne hj, Function.update_of_ne hj]
      refine (held.owes j).congr fun payment hp => rest payment fun hi => ?_
      exact hj (held.apart j i payment hp hi)
  · rw [rest payment fun hi => hp (held.fresh i payment hi)]
    exact held.known payment hp

/-- A payment id that is new has no reservation. -/
theorem Holdings.take (held : Holdings users reserved taken stakes owed) {payment : PaymentId}
    (amount : Coins) (hi : stakes i = .nothing) (new : payment ∉ taken) :
    Holdings users reserved (insert payment taken)
      (Function.update stakes i (.asked payment amount)) owed := by
  have unheld (j : ι) : (stakes j).payment? ≠ some payment :=
    fun hj => new (held.fresh j payment hj)
  have cases_of {j : ι} {p : PaymentId}
      (hj : (Function.update stakes i (.asked payment amount) j).payment? = some p) :
      j = i ∧ p = payment ∨ (stakes j).payment? = some p := by
    by_cases hji : j = i
    · subst hji
      rw [Function.update_self] at hj
      exact .inl ⟨rfl, (Option.some.inj hj).symm⟩
    · rw [Function.update_of_ne hji] at hj
      exact .inr hj
  refine ⟨fun j => ?_, fun j p hj => ?_, fun j k p hj hk => ?_, fun p hp => ?_⟩
  · by_cases hj : j = i
    · subst hj
      have hn := held.owes j
      rw [hi] at hn
      rw [Function.update_self]
      exact ⟨hn, held.known payment new⟩
    · rw [Function.update_of_ne hj]
      exact held.owes j
  · rcases cases_of hj with ⟨-, rfl⟩ | hj
    · exact .inl rfl
    · exact .inr (held.fresh j p hj)
  · rcases cases_of hj with ⟨rfl, rfl⟩ | hj
    · rcases cases_of hk with ⟨rfl, -⟩ | hk
      · rfl
      · exact absurd hk (unheld k)
    · rcases cases_of hk with ⟨-, rfl⟩ | hk
      · exact absurd ‹_› (unheld j)
      · exact held.apart j k p hj hk
  · exact held.known p fun ht => hp (.inr ht)

/-- What all of them owe, once one of them owes another amount. -/
theorem sum_update [Fintype ι] (owed : ι → Int) (i : ι) (n : Int) (u : UserId) :
    ∑ j with users j = u, Function.update owed i n j
      = (∑ j with users j = u, owed j) + if users i = u then n - owed i else 0 := by
  by_cases hu : users i = u
  · have hi : i ∈ Finset.univ.filter fun j => users j = u := by simp [hu]
    rw [Finset.sum_update_of_mem hi, if_pos hu, ← Finset.add_sum_erase _ _ hi,
      Finset.sdiff_singleton_eq_erase]
    omega
  · have hi : i ∉ Finset.univ.filter fun j => users j = u := by simp [hu]
    rw [Finset.sum_update_of_notMem hi, if_neg hu, Int.add_zero]

end Progression.LevelUp
