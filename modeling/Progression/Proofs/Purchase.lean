-- How a level-up goes. It finds what it reads in the cache or in the store,
-- asks what the player has, and then pays and moves the character up; or
-- others have moved the character, and the coins go back. Two level-ups of
-- one player who take turns race for a level.
import Progression.Proofs.Settlement
import Progression.Proofs.Weaving

namespace Progression

/-- A read that the cache has nothing for, and the store an answer. -/
def readOfStore {α : Type} [Coded α] (src : Source α) (answer : src.load.Answer) : List Deed :=
  [.called (.cache (.get src.key)) (.ok none), .called (.store src.load) (.ok answer),
    .called (.cache (.set src.key (encodeText (src.value answer)) src.lifetime)) (.ok ())]

theorem Reading.loads {α : Type} [Coded α] (src : Source α) (answer : src.load.Answer) :
    Next src .loading (.called (.store src.load) (.ok answer))
      (.inl (.keeping (src.value answer))) := .loaded answer

theorem Source.steps_readOfStore {α : Type} [Coded α] (src : Source α)
    (answer : src.load.Answer) :
    src.read.Steps (readOfStore src answer) (.done (.ok (src.value answer))) := by
  apply Plan.Steps.turn (Reading.Next.step (.miss (by simp)))
  apply Plan.Steps.turn (Reading.loads src answer).step
  exact .turn (Reading.Next.step (.kept _)) .start

namespace LevelUp

open Standing

variable {lifetimes : Lifetimes} {user : UserId} {level prices : String} {current : Level}
  {list : PriceList} {price : LevelPrice} {deal : Deal}

/-! ## Up to the commit -/

/-- The questions of a level-up that finds the level and the prices in the cache. -/
def cachedQuestions (user : UserId) (level prices : String) (balance : Coins)
    (referrals : Referrals) : List Deed :=
  [.called (.cache (.get (.level user))) (.ok (some level)),
    .called (.cache (.get .prices)) (.ok (some prices)),
    .called (.gateway (.balance user)) (.ok balance),
    .called (.gateway (.referrals user)) (.ok referrals)]

theorem ofPrices_found (found : current.next?.bind list.priceFor? = some price) :
    ofPrices current list = .funds current price none none := by
  obtain ⟨next, hn, hp⟩ := Option.bind_eq_some_iff.mp found
  simp only [ofPrices, hn, hp]

theorem steps_funds (balance : Coins) (referrals : Referrals) :
    ((Standing.funds current price none none).plan lifetimes user).Steps
      [.called (.gateway (.balance user)) (.ok balance),
        .called (.gateway (.referrals user)) (.ok referrals)]
      ((ofFunds current price balance referrals).plan lifetimes user) :=
  .turn (Next.step (.balance balance)) (.turn (Next.step (.referrals referrals)) .start)

theorem steps_cachedQuestions (level_eq : decodeText? level = some current)
    (prices_eq : decodeText? prices = some list)
    (found : current.next?.bind list.priceFor? = some price) (balance : Coins)
    (referrals : Referrals) :
    (Service.levelUp lifetimes user).Steps (cachedQuestions user level prices balance referrals)
      ((ofFunds current price balance referrals).plan lifetimes user) := by
  have quoted : Next lifetimes user (.prices current .asking)
      (.called (.cache (.get .prices)) (.ok (some prices))) (.funds current price none none) :=
    ofPrices_found found ▸ .readPrices (.hit prices_eq)
  rw [levelUp_eq]
  apply Plan.Steps.turn (Next.step (.readLevel (.hit level_eq)))
  exact .turn quoted.step (steps_funds balance referrals)

theorem steps_level (answer : Level) :
    (Service.levelUp lifetimes user).Steps (readOfStore (Source.level lifetimes user) answer)
      ((Standing.prices answer .asking).plan lifetimes user) := by
  have loads := Reading.loads (Source.level lifetimes user) answer
  rw [levelUp_eq]
  apply Plan.Steps.turn (Next.step (.readLevel (.miss (by simp))))
  apply Plan.Steps.turn (Next.step (.readLevel loads))
  exact .turn (Next.step (.readLevel (.kept _))) .start

theorem steps_prices (current : Level) (answer : List LevelPrice) :
    ((Standing.prices current .asking).plan lifetimes user).Steps
      (readOfStore (Source.prices lifetimes) answer)
      ((ofPrices current (.ofPrices answer)).plan lifetimes user) := by
  have loads := Reading.loads (Source.prices lifetimes) answer
  apply Plan.Steps.turn (Next.step (.readPrices (.miss (by simp))))
  apply Plan.Steps.turn (Next.step (.readPrices loads))
  exact .turn (Next.step (.readPrices (.kept _))) .start

/-! ## The commit -/

/-- The coins are reserved, the character moves up, and the coins are spent. -/
def wayUp (lifetimes : Lifetimes) (user : UserId) (deal : Deal) (payment : PaymentId)
    (level : Level) : List Deed :=
  [.took payment, reserving user deal payment (.ok ()), advancing user deal (.ok level),
    settling payment true (.ok ()),
    .called (.cache (.set (.level user) (encodeText level) lifetimes.entries)) (.ok ()),
    .called (.cache (.invalidate (.profile user))) (.ok ())]

/-- The coins are reserved, the store refuses to move the character, and the coins go back. -/
def wayBack (user : UserId) (deal : Deal) (payment : PaymentId) (moved : UserId)
    (expected : Level) : List Deed :=
  [.took payment, reserving user deal payment (.ok ()),
    advancing user deal (.error (.levelMoved moved expected)), settling payment false (.ok ()),
    .called (.cache (.invalidate (.level user))) (.ok ())]

theorem next_reserved (path : deal.path = .coins deal.price.coins) (payment : PaymentId) :
    Next lifetimes user (.commit deal (.reserve payment)) (reserving user deal payment (.ok ()))
      (.commit deal (.advance payment)) := by
  have amount : deal.path.amount = deal.price.coins := by
    rw [path]
    rfl
  unfold reserving
  rw [← amount]
  exact .reserved

theorem steps_wayUp (path : deal.path = .coins deal.price.coins) (payment : PaymentId)
    (level : Level) :
    ((Standing.commit deal .take).plan lifetimes user).Steps
      (wayUp lifetimes user deal payment level)
      ((Standing.settled deal (.ok ⟨level, false⟩)).plan lifetimes user) := by
  apply Plan.Steps.turn (Next.step (.take payment))
  apply Plan.Steps.turn (next_reserved path payment).step
  apply Plan.Steps.turn (Next.step (.advanced level))
  apply Plan.Steps.turn (Next.step (.spent (.ok ())))
  apply Plan.Steps.turn (Next.step (.kept (.ok ())))
  exact .turn (Next.step (.droppedProfile (.ok ()))) .start

theorem steps_wayBack (path : deal.path = .coins deal.price.coins) (payment : PaymentId)
    (moved : UserId) (expected : Level) :
    ((Standing.commit deal .take).plan lifetimes user).Steps
      (wayBack user deal payment moved expected)
      ((Standing.settled deal (.error (.levelMoved (.levelMoved moved expected)))).plan
        lifetimes user) := by
  apply Plan.Steps.turn (Next.step (.take payment))
  apply Plan.Steps.turn (next_reserved path payment).step
  apply Plan.Steps.turn (Next.step (.stayed (.levelMoved moved expected)))
  apply Plan.Steps.turn (Next.step (.released (.ok ())))
  exact .turn (Next.step (.droppedLevel (.ok ()))) .start

end LevelUp

open LevelUp

variable {lifetimes : Lifetimes}

/-! ## A level-up of one player -/

/-- The second level for a hundred coins, for a player who has some more. -/
def aDeal : Deal := ⟨1, ⟨2, 100, 0, 5⟩, 150, 0, .coins 100⟩

/-- The questions that this player's level-up asks before it commits. -/
def someQuestions : List Deed := cachedQuestions 7 "1" "[[[2,100,0,5]]]" 150 0

/-- The answers to them are enough for a deal. -/
theorem steps_someQuestions (lifetimes : Lifetimes) : (Service.levelUp lifetimes 7).Steps
    someQuestions ((Standing.commit aDeal .take).plan lifetimes 7) := by
  have level : decodeText? "1" = some (1 : Level) := rfl
  have prices : decodeText? "[[[2,100,0,5]]]" = some (⟨[aDeal.price]⟩ : PriceList) := rfl
  have found : (1 : Level).next?.bind (PriceList.priceFor? ⟨[aDeal.price]⟩) = some aDeal.price :=
    rfl
  exact steps_cachedQuestions level prices found 150 0

/-- The level-up comes to its commit when the collaborators may answer so. -/
theorem System.Run.inquires {σ ι : Type} [DecidableEq ι] {Answer : ι → Type}
    {col : Collaborators σ} {s t : System σ Answer} {h : History ι} {i : ι} {w : σ}
    {taken : Set PaymentId} {f : Except Refusal LevelUpOutcome → Answer i} (run : Run col s h t)
    (hp : t.plans i = (Service.levelUp lifetimes 7).map f)
    (goes : col.GoAlong t.world t.taken someQuestions w taken) :
    ∃ t', Run col s (h ++ someQuestions.map (i, ·)) t' ∧
      t'.plans i = ((Standing.commit aDeal .take).plan lifetimes 7).map f ∧
      t'.world = w ∧ t'.taken = taken ∧ ∀ j ≠ i, t'.plans j = t.plans j := by
  have steps := (steps_someQuestions lifetimes).map f
  exact run.follows (hp ▸ steps) goes

/-- What a level-up does that pays for the second level with a hundred of its coins. -/
def aPurchase (lifetimes : Lifetimes) : List Deed :=
  readOfStore (Source.level lifetimes 7) (1 : Level) ++
    (readOfStore (Source.prices lifetimes) [aDeal.price] ++
      ([.called (.gateway (.balance 7)) (.ok 150), .called (.gateway (.referrals 7)) (.ok 0)] ++
        wayUp lifetimes 7 aDeal ⟨1⟩ 2))

theorem steps_aPurchase (lifetimes : Lifetimes) : (Service.levelUp lifetimes 7).Steps
    (aPurchase lifetimes) (.done (.ok ⟨2, 50, false⟩)) := by
  have sorted : PriceList.ofPrices [aDeal.price] = ⟨[aDeal.price]⟩ :=
    congrArg PriceList.mk (List.mergeSort_singleton _)
  have found : (1 : Level).next?.bind (PriceList.ofPrices [aDeal.price]).priceFor?
      = some aDeal.price := by
    rw [sorted]
    rfl
  apply (steps_level 1).append
  apply (steps_prices 1 [aDeal.price]).append
  rw [ofPrices_found found]
  exact (steps_funds 150 0).append (steps_wayUp rfl ⟨1⟩ 2)

/-! ## Two level-ups of that player -/

/-- Two commits in turns: both reserve, one of them moves the character, and the other one gives its
coins back. -/
def twoCommits (lifetimes : Lifetimes) : History Bool :=
  [(true, .took ⟨1⟩), (false, .took ⟨2⟩),
    (true, reserving 7 aDeal ⟨1⟩ (.ok ())), (false, reserving 7 aDeal ⟨2⟩ (.ok ())),
    (true, advancing 7 aDeal (.ok 2)), (false, advancing 7 aDeal (.error (.levelMoved 7 1))),
    (false, settling ⟨2⟩ false (.ok ())), (true, settling ⟨1⟩ true (.ok ())),
    (true, .called (.cache (.set (.level 7) (encodeText (2 : Level)) lifetimes.entries)) (.ok ())),
    (true, .called (.cache (.invalidate (.profile 7))) (.ok ())),
    (false, .called (.cache (.invalidate (.level 7))) (.ok ()))]

/-- Both of them ask before either of them commits. -/
def aRace (lifetimes : Lifetimes) : History Bool :=
  someQuestions.map (true, ·) ++ (someQuestions.map (false, ·) ++ twoCommits lifetimes)

/-- What the two level-ups come to. -/
def raced : Bool → Except Refusal LevelUpOutcome
  | true => .ok ⟨2, 50, false⟩
  | false => .error (.levelMoved (.levelMoved 7 1))

theorem steps_aRace (i : Bool) :
    (Service.levelUp lifetimes 7).Steps ((aRace lifetimes).of i) (.done (raced i)) := by
  cases i with
  | true => exact (steps_someQuestions lifetimes).append (steps_wayUp rfl ⟨1⟩ 2)
  | false => exact (steps_someQuestions lifetimes).append (steps_wayBack rfl ⟨2⟩ 7 1)

/-- The race is run when the collaborators may answer so. -/
theorem System.run_aRace {σ β : Type} {col : Collaborators σ} {s : System σ fun _ : Bool => β}
    {w : σ} {taken : Set PaymentId} {f : Except Refusal LevelUpOutcome → β}
    (asked : ∀ i, s.plans i = (Service.levelUp lifetimes 7).map f)
    (answers : col.GoAlong s.world s.taken someQuestions s.world s.taken)
    (goes : col.GoAlong s.world s.taken ((twoCommits lifetimes).map Prod.snd) w taken) :
    ∃ t, Run col s (aRace lifetimes) t ∧ ∀ i, t.plans i = .done (f (raced i)) := by
  refine ⟨⟨w, taken, fun i => .done (f (raced i))⟩, run_iff.mpr ⟨fun i => ?_, ?_⟩, fun _ => rfl⟩
  · rw [asked]
    exact (steps_aRace i).map f
  · exact answers.append (answers.append goes)

end Progression
