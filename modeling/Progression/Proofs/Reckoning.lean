-- The sums of a level-up. It adds one to a level that it has been told,
-- and takes a price from a balance that it has been told, the price when
-- the level has been paid for. Laws for all replies of the collaborators.
import Progression.Proofs.Ending
import Progression.Proofs.Knowledge
import Progression.Proofs.Overdraft

namespace Progression

open LevelUp

variable {lifetimes : Lifetimes} {user : UserId} {ds : List Deed} {d : Deed}
  {q : Plan (Except Refusal LevelUpOutcome)}

/-- After all its turns a level-up is at a standing, with all that the turns preserve. -/
theorem Plan.Steps.standing {Good : List Deed → Standing → Prop}
    (steps : (Service.levelUp lifetimes user).Steps ds q) (start : Good [] (.level .asking))
    (turn : ∀ ds s d s', Good ds s → Standing.Next lifetimes user s d s' → Good (ds ++ [d]) s') :
    ∃ s : Standing, Good ds s ∧ q = s.plan lifetimes user := by
  refine steps.preserved (fun ds q => ∃ s : Standing, Good ds s ∧
    q = s.plan lifetimes user) ?_ ?_
  · exact ⟨.level .asking, start, Standing.levelUp_eq lifetimes user⟩
  · rintro ds _ d r ⟨s, hg, rfl⟩ step
    obtain ⟨s', next, rfl⟩ := Standing.next_of_step step
    exact ⟨s', turn ds s d s' hg next, rfl⟩

namespace LevelUp

/-! ## A level-up ends -/

/-- The turns that a read may still take. -/
def Standing.readTurns {α : Type} : Reading α → Nat
  | .asking => 3
  | .loading => 2
  | .keeping _ => 1

/-- The turns that a commit may still take. -/
def Errand.turns : Errand → Nat
  | .take => 6
  | .reserve _ => 5
  | .advance _ => 4
  | .spend .. | .advanceFree => 3
  | .release .. | .keep _ => 2
  | .dropProfile _ | .dropLevel _ => 1

namespace Standing

/-- The turns that a level-up may still take. -/
def turns : Standing → Nat
  | .level reading => 11 + readTurns reading
  | .prices _ reading => 8 + readTurns reading
  | .funds _ _ balance referrals => 6 + balance.elim 1 (fun _ => 0) + referrals.elim 1 (fun _ => 0)
  | .commit _ errand => errand.turns
  | .settled .. | .refused _ | .beyond => 0

theorem turns_ofPrices (current : Level) (list : PriceList) :
    (ofPrices current list).turns ≤ 8 := by
  apply ofPrices_cases (P := fun s => s.turns ≤ 8)
  · simp [turns]
  · simp [turns]
  · simp [turns]

theorem turns_ofAnswers (current : Level) (price : LevelPrice) (balance : Option Coins)
    (referrals : Option Referrals) :
    (ofAnswers current price balance referrals).turns
      ≤ (Standing.funds current price balance referrals).turns := by
  apply ofAnswers_cases
    (P := fun s => s.turns ≤ (Standing.funds current price balance referrals).turns)
  · exact Nat.le_refl _
  · simp [turns]
  · rintro deal errand - - (rfl | rfl) <;> simp [turns, Errand.turns] <;> omega

theorem turns_ofRefusal (deal : Deal) (refusal : Refusal) :
    (ofResult deal (.error refusal)).turns ≤ 1 := by
  unfold ofResult
  split <;> simp_all [turns, Errand.turns]

/-- Each turn brings a level-up nearer to its end. -/
theorem Next.turns_lt {s s' : Standing} (h : Next lifetimes user s d s') :
    s'.turns < s.turns := by
  cases h with
  | readLevel next => cases next <;> simp [ofLevel, turns, readTurns]
  | @readPrices current _ _ _ next =>
    cases next with
    | hit =>
      apply Nat.lt_of_le_of_lt (turns_ofPrices current _)
      simp [turns, readTurns]
    | kept =>
      apply Nat.lt_of_le_of_lt (turns_ofPrices current _)
      simp [turns, readTurns]
    | _ => simp [ofPriceReading, turns, readTurns]
  | balance n =>
    apply Nat.lt_of_le_of_lt (turns_ofAnswers ..)
    simp [turns]
  | referrals n =>
    apply Nat.lt_of_le_of_lt (turns_ofAnswers ..)
    simp [turns]
  | released | stayedFree =>
    apply Nat.lt_of_le_of_lt (turns_ofRefusal ..)
    simp [turns, Errand.turns]
  | _ => simp [turns, Errand.turns]

end Standing

end LevelUp

/-! ## What a level-up has gained -/

/-- The level that a deed has taken a character to. -/
def Deed.raised? : Deed → Option Level
  | .called (.store (.incrementLevel ..)) (.ok reached) => some reached
  | _ => none

theorem Deed.binds_of_raised {reached : Level} (h : d.raised? = some reached) :
    d.binds = true := by
  unfold raised? at h
  split at h
  · rfl
  · cases h

namespace LevelUp

namespace Standing

/-- The level that a level-up has taken its character to. -/
def gain? : Standing → Option Level
  | .commit _ (.spend _ reached) => some reached
  | .commit _ (.keep gain) | .commit _ (.dropProfile gain) | .settled _ (.ok gain) =>
    some gain.level
  | _ => none

/-- A level-up that has taken its character up goes on to say so. -/
def Gained (ds : List Deed) (s : Standing) : Prop :=
  ∀ d ∈ ds, ∀ reached, d.raised? = some reached → s.gain? = some reached

theorem Gained.snoc {s s' : Standing} (h : s.Gained ds)
    (stays : ∀ reached, s.gain? = some reached → s'.gain? = some reached)
    (rises : ∀ reached, d.raised? = some reached → s'.gain? = some reached) :
    s'.Gained (ds ++ [d]) := by
  intro e he reached hr
  rcases List.mem_append.mp he with he | he
  · exact stays reached (h e he reached hr)
  · rw [List.mem_singleton.mp he] at hr
    exact rises reached hr

theorem Next.gained {s s' : Standing} (h : Next lifetimes user s d s') (hg : s.Gained ds) :
    s'.Gained (ds ++ [d]) := by
  have quiet (hq : d.binds = false) (reached : Level) : d.raised? ≠ some reached := by
    intro hr
    rw [Deed.binds_of_raised hr] at hq
    cases hq
  cases h with
  | readLevel next =>
    apply hg.snoc
    · simp [gain?]
    · simp [quiet (next.quiet rfl)]
  | readPrices next =>
    apply hg.snoc
    · simp [gain?]
    · simp [quiet (next.quiet rfl)]
  | _ =>
    apply hg.snoc
    · simp [gain?]
    · simp [Deed.raised?, gain?]

end Standing

/-! ## What a level-up comes to -/

/-- A price that a balance covers leaves something between nothing and that balance. -/
theorem less?_between {balance price : Coins} (h0 : 0 ≤ price) (h : price ≤ balance) :
    ∃ left, balance.less? price = some left ∧ 0 ≤ left ∧ left ≤ balance ∧
      left.toInt = balance.toInt - price.toInt := by
  have hz : (0 : Int64).toInt = 0 := rfl
  have hmin : Int64.minValue.toInt = -9223372036854775808 := rfl
  have hmax : Int64.maxValue.toInt = 9223372036854775807 := rfl
  have hb := balance.toInt_le
  rw [Int64.le_iff_toInt_le] at h0 h
  have left : (Int64.ofInt (balance.toInt - price.toInt)).toInt
      = balance.toInt - price.toInt := by
    apply Int64.toInt_ofInt_of_le <;> omega
  refine ⟨Int64.ofInt (balance.toInt - price.toInt), ?_, ?_, ?_, left⟩
  · unfold Coins.less?
    rw [if_pos (by omega)]
  · rw [Int64.le_iff_toInt_le, left]
    omega
  · rw [Int64.le_iff_toInt_le, left]
    omega

/-- What an outcome says of the balance, by the path of payment. -/
def Deal.Leaves (deal : Deal) (left : Coins) : Prop :=
  deal.path = .coins deal.price.coins ∧ 0 ≤ left ∧ left ≤ deal.balance ∧
    left.toInt = deal.balance.toInt - deal.price.coins.toInt ∨
  deal.path = .free ∧ left = deal.balance

theorem Informed.leaves {deal : Deal} (h : Informed lifetimes user ds deal)
    (h0 : 0 ≤ deal.price.coins) :
    ∃ left, balanceAfter deal.balance deal.path = some left ∧ deal.Leaves left := by
  rcases PaymentPath.of_decide? h.path with ⟨hpath, hle⟩ | hpath
  · obtain ⟨left, hl, between⟩ := less?_between h0 hle
    refine ⟨left, ?_, .inl ⟨hpath, between⟩⟩
    rw [hpath]
    exact hl
  · refine ⟨deal.balance, ?_, .inr ⟨hpath, rfl⟩⟩
    rw [hpath]
    rfl

/-- No price in a fair list that a level-up goes by is below zero. -/
theorem Informed.price_nonneg {deal : Deal} (h : Informed lifetimes user ds deal)
    (fair : ∀ list, (Source.prices lifetimes).Told ds list → list.Fair) :
    0 ≤ deal.price.coins := by
  obtain ⟨list, ht, hp⟩ := h.price
  rw [Option.bind_eq_some_iff] at hp
  obtain ⟨next, -, hp⟩ := hp
  exact fair list ht deal.price (PriceList.mem_of_priceFor? hp)

/-- All that the turns of a level-up preserve. -/
structure Standing.Sums (lifetimes : Lifetimes) (user : UserId) (ds : List Deed) (s : Standing) :
    Prop where
  record : s.Record lifetimes user ds
  knowing : ∃ known, Knows lifetimes user ds known ∧ s.Has known
  gained : s.Gained ds
  left : ds.length + s.turns ≤ 14

theorem Standing.Sums.start : Sums lifetimes user [] (.level .asking) where
  record := ⟨rfl, trivial⟩
  knowing := ⟨_, .start, rfl⟩
  gained := by simp [Gained]
  left := by simp [turns, readTurns]

theorem Standing.Sums.turn {s s' : Standing} (h : s.Sums lifetimes user ds)
    (next : Next lifetimes user s d s') : s'.Sums lifetimes user (ds ++ [d]) where
  record := next.record h.record
  knowing := by
    obtain ⟨known, knows, fits⟩ := h.knowing
    exact next.knows knows fits
  gained := next.gained h.gained
  left := by
    have hlt := next.turns_lt
    have hle := h.left
    rw [List.length_append, List.length_singleton]
    omega

end LevelUp

theorem Plan.Steps.sums (steps : (Service.levelUp lifetimes user).Steps ds q) :
    ∃ s : Standing, s.Sums lifetimes user ds ∧ q = s.plan lifetimes user :=
  steps.standing .start fun _ _ _ _ h next => h.turn next

namespace LevelUp

/-- What a level-up comes to, after all that it has been told. -/
structure Reckoned (lifetimes : Lifetimes) (user : UserId) (ds : List Deed)
    (q : Plan (Except Refusal LevelUpOutcome)) : Prop where
  /-- The only sum that overflows is that of the largest level and one. -/
  overflow : ∀ cause, q = .overflow cause ↔ cause = .addition ∧
    (Source.level lifetimes user).Told ds Int32.maxValue ∧
    ∃ list, (Source.prices lifetimes).Told ds list
  /-- There is a number for the next level, and no price. -/
  top : ∀ current next list, (Source.level lifetimes user).Told ds current →
    current.next? = some next → (Source.prices lifetimes).Told ds list →
    list.priceFor? next = none → q = .done (.error (.topLevel current))
  /-- Once the character has gone up, the level-up succeeds. -/
  gained : ∀ current reached,
    .called (.store (.incrementLevel user current)) (.ok reached) ∈ ds →
    ∃ outcome deal, q = .done (.ok outcome) ∧ outcome.level = reached ∧
      Informed lifetimes user ds deal ∧ deal.Leaves outcome.balance

namespace Standing.Sums

theorem not_raised {s : Standing} (h : s.Sums lifetimes user ds) (hs : s.gain? = none)
    {current reached : Level} :
    .called (.store (.incrementLevel user current)) (.ok reached) ∉ ds := by
  intro hm
  have hg := h.gained _ hm reached rfl
  rw [hs] at hg
  cases hg

theorem reckoned_settled {deal : Deal} {result : TaskResult}
    (h : (Standing.settled deal result).Sums lifetimes user ds)
    (fair : ∀ list, (Source.prices lifetimes).Told ds list → list.Fair) :
    Reckoned lifetimes user ds ((Standing.settled deal result).plan lifetimes user) := by
  obtain ⟨known, knows, fits⟩ := h.knowing
  have informed : Informed lifetimes user ds deal := knows.informed_iff.mpr fits
  obtain ⟨hc, ⟨list, hl, hp⟩, -⟩ := Knowledge.deal?_eq_some.mp fits
  have level := hc ▸ knows.level
  have prices := hl ▸ knows.prices
  obtain ⟨left, hleft, leaves⟩ := informed.leaves (informed.price_nonneg fair)
  rw [Option.bind_eq_some_iff] at hp
  obtain ⟨next, hn, hp⟩ := hp
  have reported : ∃ answer, (Standing.settled deal result).plan lifetimes user = .done answer ∧
      ∀ gain, result = .ok gain → answer = .ok ⟨gain.level, left, gain.settlementPending⟩ := by
    rcases result with refusal | gain
    · exact ⟨_, rfl, by simp⟩
    · simp [Standing.plan, report, hleft]
  obtain ⟨answer, hanswer, hgain⟩ := reported
  constructor
  · intro cause
    rw [hanswer]
    constructor
    · intro hq
      cases hq
    · rintro ⟨-, hmax, -⟩
      rw [Option.some.inj (level.eq_of_told hmax), Level.next?_maxValue] at hn
      cases hn
  · intro current next' list' hc hn' hl hnone
    cases level.eq_of_told hc
    cases prices.eq_of_told hl
    rw [hn] at hn'
    cases hn'
    rw [hp] at hnone
    cases hnone
  · intro current reached hm
    have hg := h.gained _ hm reached rfl
    rcases result with refusal | gain
    · cases hg
    · refine ⟨⟨gain.level, left, gain.settlementPending⟩, deal, ?_, ?_, informed, leaves⟩
      · rw [hanswer, hgain gain rfl]
      · exact Option.some.inj hg

theorem reckoned_refused {refusal : Refusal}
    (h : (Standing.refused refusal).Sums lifetimes user ds) :
    Reckoned lifetimes user ds ((Standing.refused refusal).plan lifetimes user) := by
  obtain ⟨known, knows, -, fits⟩ := h.knowing
  constructor
  · intro cause
    constructor
    · intro hq
      cases hq
    · rintro ⟨-, hmax, list, hl⟩
      have told := knows.prices.eq_of_told hl
      rcases fits with hnone | ⟨current, list', next, hc, -, hn, -⟩
      · cases hnone.symm.trans told
      · cases hc.symm.trans (knows.level.eq_of_told hmax)
        cases hn
  · intro current next list hc hn hl hnone
    have told := knows.prices.eq_of_told hl
    rcases fits with none_told | ⟨current', list', next', hc', hl', hn', top⟩
    · cases none_told.symm.trans told
    · cases hc'.symm.trans (knows.level.eq_of_told hc)
      cases hl'.symm.trans told
      rw [hn] at hn'
      cases hn'
      rw [top hnone]
      rfl
  · intro current reached hm
    exact absurd hm (h.not_raised rfl)

theorem reckoned_beyond (h : Standing.beyond.Sums lifetimes user ds) :
    Reckoned lifetimes user ds (Standing.beyond.plan lifetimes user) := by
  obtain ⟨known, knows, current, list, hc, hl, hn⟩ := h.knowing
  have level := hc ▸ knows.level
  have hmax : current = Int32.maxValue := by
    by_contra hne
    rw [Level.next?_of_ne hne] at hn
    cases hn
  subst hmax
  constructor
  · intro cause
    constructor
    · intro hq
      cases hq
      exact ⟨rfl, level.told, list, (hl ▸ knows.prices).told⟩
    · rintro ⟨rfl, -, -⟩
      rfl
  · intro current next list' hc hn' _ _
    cases level.eq_of_told hc
    rw [hn] at hn'
    cases hn'
  · intro current reached hm
    exact absurd hm (h.not_raised rfl)

end Standing.Sums

end LevelUp

/-- A level-up ends after fourteen turns at most, and until then any reply takes it on. It comes
to an answer unless it has been told the largest level of all, if no price that it has been told is
below zero. -/
theorem a_level_up_overflows_only_at_the_largest_level
    (steps : (Service.levelUp lifetimes user).Steps ds q)
    (fair : ∀ list, (Source.prices lifetimes).Told ds list → list.Fair) :
    ds.length ≤ 14 ∧ (q.Over ∨ q.Waits) ∧ (q.Over → Reckoned lifetimes user ds q) := by
  obtain ⟨s, sums, rfl⟩ := steps.sums
  refine ⟨?_, ?_, ?_⟩
  · have := sums.left
    omega
  · apply steps.over_or_waits
    rw [Standing.levelUp_eq]
    simp [Standing.plan, Reading.plan, Source.read, cachedRead, fetch?, Plan.andThen, Plan.map,
      Plan.bind]
  · intro ended
    rcases Standing.over_cases ended with ⟨deal, result, rfl⟩ | ⟨refusal, rfl⟩ | rfl
    · exact sums.reckoned_settled fair
    · exact sums.reckoned_refused
    · exact sums.reckoned_beyond

/-! ## A level-up that pays, and one at the largest level -/

theorem a_purchase_leaves_fifty_coins :
    (Service.levelUp ⟨.ofSeconds 300, .ofSeconds 3600⟩ 7).Steps
        (aPurchase ⟨.ofSeconds 300, .ofSeconds 3600⟩) (.done (.ok ⟨2, 50, false⟩)) ∧
      Reckoned ⟨.ofSeconds 300, .ofSeconds 3600⟩ 7 (aPurchase ⟨.ofSeconds 300, .ofSeconds 3600⟩)
        (.done (.ok ⟨2, 50, false⟩)) := by
  have steps := steps_aPurchase ⟨.ofSeconds 300, .ofSeconds 3600⟩
  refine ⟨steps, ?_⟩
  refine (a_level_up_overflows_only_at_the_largest_level steps ?_).2.2 trivial
  intro list told price hm
  have ht : PriceList.ofPrices [aDeal.price] = list := by
    simpa [Source.Told, aPurchase, readOfStore, Source.level, Source.prices, wayUp, reserving,
      advancing, settling] using told
  rw [← ht, PriceList.mem_ofPrices, List.mem_singleton] at hm
  subst hm
  decide

/-- The prices of two levels. -/
def twoPrices : List LevelPrice := [⟨1, 0, 1, 0⟩, ⟨2, 100, 1, 3⟩]

/-- What a level-up does whose character stands at the largest level of all. -/
def aTopLevel (lifetimes : Lifetimes) : List Deed :=
  readOfStore (Source.level lifetimes 42) Int32.maxValue ++
    readOfStore (Source.prices lifetimes) twoPrices

/-- Nobody has put a price below zero, and still there is no answer. -/
theorem the_largest_level_overflows :
    (Service.levelUp ⟨.ofSeconds 300, .ofSeconds 3600⟩ 42).Steps
        (aTopLevel ⟨.ofSeconds 300, .ofSeconds 3600⟩) (.overflow .addition) ∧
      ∀ list, (Source.prices ⟨.ofSeconds 300, .ofSeconds 3600⟩).Told
        (aTopLevel ⟨.ofSeconds 300, .ofSeconds 3600⟩) list →
        ∀ price ∈ list.prices, 0 ≤ price.coins ∧ 0 ≤ price.referralsToOpen := by
  constructor
  · apply (steps_level Int32.maxValue).append
    exact steps_prices Int32.maxValue twoPrices
  · intro list told price hm
    have ht : PriceList.ofPrices twoPrices = list := by
      simpa [Source.Told, aTopLevel, readOfStore, Source.level, Source.prices] using told
    rw [← ht, PriceList.mem_ofPrices] at hm
    revert price
    decide

end Progression
