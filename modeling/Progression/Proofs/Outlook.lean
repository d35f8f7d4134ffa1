-- What a level-up goes by: the level it has been told, which the store is
-- never behind, and the balance it has seen. What it spends is the price
-- of the level that it reaches.
import Progression.Proofs.Course
import Progression.Proofs.Holdings

namespace Progression

open Rehearsal LevelUp

/-! ## Level-ups and reads of the level -/

/-- Where a question of a player stands. A read of the level goes the way of a level-up, as far as
it goes. -/
def Rehearsal.Question.At (lifetimes : Lifetimes) (user : UserId) (question : Question)
    (s : Standing) (p : Plan (Except Refusal Json)) : Prop :=
  question = .levelUp user ∧ p = (s.plan lifetimes user).map (Except.map LevelUpOutcome.summary) ∨
    question = .level user ∧ ∃ r, s = .ofLevel r ∧
      p = (Reading.planOr (.level lifetimes user) r).map (Except.map encode)

theorem Rehearsal.Question.at_start (lifetimes : Lifetimes) {user : UserId} {question : Question}
    (h : question = .levelUp user ∨ question = .level user) :
    question.At lifetimes user (.level .asking) (question.plan lifetimes) := by
  rcases h with rfl | rfl
  · refine .inl ⟨rfl, ?_⟩
    rw [← Standing.levelUp_eq]
    rfl
  · refine .inr ⟨rfl, .inl .asking, rfl, ?_⟩
    rw [Question.plan, Service.level_eq]
    rfl

/-- Both take turns of a level-up. -/
theorem Rehearsal.Question.At.next {lifetimes : Lifetimes} {user : UserId} {question : Question}
    {s : Standing} {p q : Plan (Except Refusal Json)} {d : Deed}
    (h : question.At lifetimes user s p) (step : p.Step d q) :
    ∃ s', s.Next lifetimes user d s' ∧ question.At lifetimes user s' q := by
  rcases h with ⟨hq, rfl⟩ | ⟨hq, r, rfl, rfl⟩
  · obtain ⟨p', hp, rfl⟩ := step.of_map
    obtain ⟨s', hn, rfl⟩ := Standing.next_of_step hp
    exact ⟨s', hn, .inl ⟨hq, rfl⟩⟩
  · obtain ⟨p', hp, rfl⟩ := step.of_map
    rcases r with reading | result
    · obtain ⟨r', hn, rfl⟩ := Reading.next_of_step hp
      exact ⟨.ofLevel r', .readLevel hn, .inr ⟨hq, r', rfl, rfl⟩⟩
    · exact absurd hp (Plan.Over.no_step trivial)

/-! ## Levels that are not ahead -/

/-- The character of a player, if it has one, is at that level or above. -/
def Rehearsal.World.Reaches (w : World) (user : UserId) (level : Level) : Prop :=
  ∀ c, w.characters.get? user = some c → level ≤ c.level

namespace LevelUp

variable {lifetimes : Lifetimes} {user : UserId} {ds : List Deed} {s s' : Standing} {w w' : World}

/-- No level-up takes a character down. -/
theorem reaches_of_next {c : Call} {reply : c.Reply} {u : UserId} {level : Level}
    (h : w.Reaches u level) (hn : s.Next lifetimes user (.called c reply) s')
    (record : s.Record lifetimes user ds) (serves : w.Serves c reply w') : w'.Reaches u level := by
  rcases hn.reached with ⟨deal, errand, up, rfl, -, hm, -⟩ | ⟨-, hm⟩
  · cases hm
    obtain ⟨-, hone, c, hc, hcur, hget⟩ := World.StoreReply.climbs serves record.1.next?
    intro c' hc'
    rw [hget] at hc'
    by_cases hu : u = user
    · subst hu
      rw [if_pos rfl] at hc'
      cases hc'
      have hle := Int32.le_iff_toInt_le.mp (h c hc)
      rw [hcur] at hle
      exact Int32.le_iff_toInt_le.mpr (by simp only; omega)
    · rw [if_neg hu] at hc'
      exact h c' hc'
  · intro c' hc'
    rw [characters_of_next hn serves hm] at hc'
    exact h c' hc'

/-- A level that has been reached is not ahead of the character. -/
theorem Ladder.reaches {ι : Type} {start : World} {users : ι → UserId}
    {reached : ι → Option (Deal × Level)} (ladder : Ladder start users w reached) {i : ι}
    {deal : Deal} {up : Level} (hi : reached i = some (deal, up)) : w.Reaches (users i) up := by
  intro c hc
  have hmem : (i, up) ∈ climbs users reached (users i) := ⟨rfl, deal, hi⟩
  cases hs : start.characters.get? (users i) with
  | none => rw [(ladder.absent _ hs).2] at hmem; cases hmem
  | some c₀ =>
    obtain ⟨top, hw, -, hbij⟩ := ladder.present _ c₀ hs
    cases hc.symm.trans hw
    exact Int32.le_iff_toInt_le.mpr (hbij.mapsTo hmem).2

/-! ## What is seen and what is spent -/

namespace Standing

/-- The level and the balance that a level-up goes by. -/
def seen : Standing → Option (Level × Coins)
  | .funds current _ (some balance) _ => some (current, balance)
  | .commit deal _ => some (deal.current, deal.balance)
  | _ => none

/-- What a level-up has spent: the price of the level that it has reached. -/
def spent (s : Standing) : Int := (s.reached.map fun o => o.1.path.amount.toInt).getD 0

theorem seen_ofFunds (current : Level) (price : LevelPrice) (balance : Coins)
    (referrals : Referrals) : (ofFunds current price balance referrals).seen = none ∨
      (ofFunds current price balance referrals).seen = some (current, balance) := by
  unfold ofFunds
  split
  · exact .inl rfl
  · exact .inr rfl
  · exact .inr rfl

theorem Next.seen {d : Deed} (h : Next lifetimes user s d s') :
    s'.seen = none ∨ s'.seen = s.seen ∨ ∃ level n,
      d = .called (.gateway (.balance user)) (.ok n) ∧ s'.seen = some (level, n) := by
  cases h with
  | @readLevel r r' _ next => rcases r' with _ | (_ | _) <;> exact .inl rfl
  | @readPrices current r r' _ next =>
    rcases r' with _ | (_ | list)
    · exact .inl rfl
    · exact .inl rfl
    · simp only [ofPriceReading, ofPrices]
      split
      · exact .inl rfl
      · split <;> exact .inl rfl
  | @balance current price referrals n =>
    rcases referrals with _ | referrals
    · exact .inr (.inr ⟨current, n, rfl, rfl⟩)
    · exact (seen_ofFunds current price n referrals).imp_right
        fun h => .inr ⟨current, n, rfl, h⟩
  | @referrals current price balance n =>
    rcases balance with _ | balance
    · exact .inl rfl
    · exact (seen_ofFunds current price balance n).imp_right .inl
  | noBalance | noReferrals | rejected | droppedProfile | droppedLevel => exact .inl rfl
  | @released deal _ refusal => cases refusal <;> first | exact .inl rfl | exact .inr (.inl rfl)
  | @stayedFree deal fault => cases fault <;> first | exact .inl rfl | exact .inr (.inl rfl)
  | _ => exact .inr (.inl rfl)

/-- The level that a level-up goes by is one that it has been told. -/
theorem Record.seen {level : Level} {balance : Coins} (record : s.Record lifetimes user ds)
    (h : s.seen = some (level, balance)) : (Source.level lifetimes user).Told ds level := by
  cases s with
  | funds current price known referrals =>
    cases known with
    | none => cases h
    | some => cases h; exact record.2.1
  | commit deal errand =>
    cases h
    exact record.1.level.mono (inquiries_subset ds)
  | _ => cases h

theorem Record.reached {deal : Deal} {up : Level} (record : s.Record lifetimes user ds)
    (h : s.reached = some (deal, up)) : Informed lifetimes user (inquiries ds) deal := by
  unfold Standing.reached at h
  split at h
  · cases h; exact record.1
  · cases h; exact record.1
  · cases h; exact record.1
  · cases h; exact record.1
  · cases h

/-- What is spent was owed before. -/
theorem spent_le {reserved : Table PaymentId Reservation} {owed : Int}
    (owes : s.stake.Owes reserved user owed) (h0 : 0 ≤ owed) : s.spent ≤ owed := by
  cases hr : s.reached with
  | none => simpa [spent, hr] using h0
  | some o =>
    have hs : s.spent = o.1.path.amount.toInt := by simp [spent, hr]
    rw [hs]
    rcases stake_of_reached hr with ⟨payment, hk⟩ | hk
    · rw [hk] at owes
      exact Int.le_of_eq owes.1.symm
    · rw [hk] at owes
      exact Int.le_of_eq owes.symm

end Standing

/-- What the level-ups of a player have spent. -/
def spending {ι : Type} [Fintype ι] (users : ι → UserId) (stands : ι → Standing) (u : UserId) :
    Int := ∑ i with users i = u, (stands i).spent

theorem spending_update {ι : Type} [Fintype ι] [DecidableEq ι] (users : ι → UserId)
    (stands : ι → Standing) (i : ι) (s' : Standing) (u : UserId) :
    spending users (Function.update stands i s') u = spending users stands u
      + if users i = u then s'.spent - (stands i).spent else 0 := by
  unfold spending
  rw [← sum_update (fun j => (stands j).spent) i s'.spent u]
  exact Finset.sum_congr rfl fun j _ =>
    congrFun (Function.comp_update Standing.spent stands i s') j

end LevelUp

end Progression
