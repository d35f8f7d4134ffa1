-- Where a level-up stands. It reads the level and the prices, asks for
-- what the player has, and then commits: it pays, moves the character up,
-- settles and refreshes the cache. A turn of the plan is a turn from one
-- standing to another, so a law of all level-ups has one case a turn.
import Progression.LevelUp
import Progression.Proofs.Reading

namespace Progression

/-! ## What is read -/

def Source.level (lifetimes : Lifetimes) (user : UserId) : Source Level :=
  ⟨.level user, lifetimes.entries, .characterLevel user, id⟩

def Source.prices (lifetimes : Lifetimes) : Source PriceList :=
  ⟨.prices, lifetimes.prices, .allPrices, PriceList.ofPrices⟩

theorem Plan.andThen_done {ε α : Type} (p : Plan (Except ε α)) :
    (p.andThen fun a => .done (.ok a)) = p := by
  unfold Plan.andThen
  refine (congrArg p.bind (funext fun result => ?_)).trans p.bind_done
  cases result <;> rfl

theorem Service.level_eq (lifetimes : Lifetimes) (user : UserId) :
    Service.level lifetimes user = (Source.level lifetimes user).read := by
  unfold Service.level Source.read
  simp only [Source.level, id, Plan.andThen_done]

theorem Service.prices_eq (lifetimes : Lifetimes) :
    Service.prices lifetimes = (Source.prices lifetimes).read := rfl

namespace LevelUp

/-! ## Standings -/

/-- What a level-up has found out, and the path of payment it has chosen. -/
structure Deal where
  current : Level
  price : LevelPrice
  balance : Coins
  referrals : Referrals
  path : PaymentPath

end LevelUp

/-- The coins that a path of payment takes. -/
def PaymentPath.amount : PaymentPath → Coins
  | .coins price => price
  | .free => 0

namespace LevelUp

/-- What a commit does next. -/
inductive Errand where
  | take
  | reserve (payment : PaymentId)
  | advance (payment : PaymentId)
  | release (payment : PaymentId) (refusal : Refusal)
  | spend (payment : PaymentId) (level : Level)
  | advanceFree
  /-- Writes the new level to the cache. -/
  | keep (gain : Advance)
  | dropProfile (gain : Advance)
  | dropLevel (cause : StoreFault)

/-- Where a level-up stands: what it does next, or what it has come to. -/
inductive Standing where
  | level (reading : Reading Level)
  | prices (current : Level) (reading : Reading PriceList)
  /-- Asks for the balance and the referrals at once. -/
  | funds (current : Level) (price : LevelPrice) (balance : Option Coins)
      (referrals : Option Referrals)
  | commit (deal : Deal) (errand : Errand)
  /-- The commit has ended. -/
  | settled (deal : Deal) (result : TaskResult)
  | refused (refusal : Refusal)
  /-- There is no number for the next level. -/
  | beyond

/-- The rest of the plan of a commit. -/
def Errand.plan (lifetimes : Lifetimes) (user : UserId) (deal : Deal) : Errand → Plan TaskResult
  | .take => (pay user deal.current (.coins deal.path.amount)).bind (refresh lifetimes user)
  | .reserve payment =>
    (settle user deal.current deal.path.amount payment).bind (refresh lifetimes user)
  | .advance payment => (advancePaid user deal.current payment).bind (refresh lifetimes user)
  | .release payment refusal => (LevelUp.release payment refusal).bind (refresh lifetimes user)
  | .spend payment level => (LevelUp.spend payment level).bind (refresh lifetimes user)
  | .advanceFree => (LevelUp.advanceFree user deal.current).bind (refresh lifetimes user)
  | .keep gain => refresh lifetimes user (.ok gain)
  | .dropProfile gain => (evict (.profile user)).bind fun _ => .done (.ok gain)
  | .dropLevel cause => refresh lifetimes user (.error (.levelMoved cause))

/-- What a plan asks the gateway, or the answer it has got. -/
def funded (c : GatewayCall) : Option c.Answer → Plan (Except PaymentFault c.Answer)
  | none => askGateway c
  | some answer => .done (.ok answer)

/-- The rest of the plan of a level-up. -/
def Standing.plan (lifetimes : Lifetimes) (user : UserId) :
    Standing → Plan (Except Refusal LevelUpOutcome)
  | .level reading =>
    ((reading.plan (.level lifetimes user)).map (Except.mapError Refusal.levelUnknown)).andThen
      fun current => (Service.prices lifetimes).andThen fun prices =>
        quote lifetimes user current prices
  | .prices current reading =>
    (reading.plan (.prices lifetimes)).andThen fun prices => quote lifetimes user current prices
  | .funds current price balance referrals =>
    .both (funded (.balance user) balance) (funded (.referrals user) referrals) fun
      | .error fault => .done (.error (.payment fault))
      | .ok (balance, referrals) => buy lifetimes user current price balance referrals
  | .commit deal errand =>
    .detach (errand.plan lifetimes user deal) (report deal.balance deal.path)
  | .settled deal result => report deal.balance deal.path (some result)
  | .refused refusal => .done (.error refusal)
  | .beyond => .overflow .addition

/-! ## What follows at once -/

namespace Standing

/-- The prices are known. -/
def ofPrices (current : Level) (list : PriceList) : Standing :=
  match current.next? with
  | none => .beyond
  | some next =>
    match list.priceFor? next with
    | none => .refused (.topLevel current)
    | some price => .funds current price none none

/-- The balance and the referrals are known. -/
def ofFunds (current : Level) (price : LevelPrice) (balance : Coins) (referrals : Referrals) :
    Standing :=
  match PaymentPath.decide? price balance referrals with
  | none => .refused (.tooPoor price.level price.coins balance price.referralsToOpen referrals)
  | some (.coins amount) => .commit ⟨current, price, balance, referrals, .coins amount⟩ .take
  | some .free => .commit ⟨current, price, balance, referrals, .free⟩ .advanceFree

/-- The payment and the move are over; what is left is the cache. -/
def ofResult (deal : Deal) : TaskResult → Standing
  | .ok gain => .commit deal (.keep gain)
  | .error (.levelMoved cause) => .commit deal (.dropLevel cause)
  | .error refusal => .settled deal (.error refusal)

/-- The read of the level has come so far. -/
def ofLevel : Reading Level ⊕ Except Refusal Level → Standing
  | .inl reading => .level reading
  | .inr (.ok current) => .prices current .asking
  | .inr (.error refusal) => .refused (.levelUnknown refusal)

/-- The read of the prices has come so far. -/
def ofPriceReading (current : Level) : Reading PriceList ⊕ Except Refusal PriceList → Standing
  | .inl reading => .prices current reading
  | .inr (.ok list) => ofPrices current list
  | .inr (.error refusal) => .refused refusal

/-- The questions to the gateway have come so far. -/
def ofAnswers (current : Level) (price : LevelPrice) : Option Coins → Option Referrals → Standing
  | some balance, some referrals => ofFunds current price balance referrals
  | balance, referrals => .funds current price balance referrals

section Cases

variable {P : Standing → Prop} {current : Level} {price : LevelPrice}

/-- What the prices may lead to. -/
theorem ofPrices_cases {list : PriceList} (beyond : current.next? = none → P .beyond)
    (top : ∀ next, current.next? = some next → list.priceFor? next = none →
      P (.refused (.topLevel current)))
    (funds : ∀ price, current.next?.bind list.priceFor? = some price →
      P (.funds current price none none)) : P (ofPrices current list) := by
  unfold ofPrices
  cases hn : current.next? with
  | none => exact beyond hn
  | some next =>
    dsimp only
    cases hp : list.priceFor? next with
    | none => exact top next hn hp
    | some price => exact funds price (by simp [hn, hp])

/-- What the answers of the gateway may lead to. -/
theorem ofAnswers_cases {balance : Option Coins} {referrals : Option Referrals}
    (funds : P (.funds current price balance referrals))
    (poor : ∀ balance referrals,
      P (.refused (.tooPoor price.level price.coins balance price.referralsToOpen referrals)))
    (commit : ∀ deal errand, deal.current = current → deal.price = price →
      errand = .take ∨ errand = .advanceFree → P (.commit deal errand)) :
    P (ofAnswers current price balance referrals) := by
  unfold ofAnswers
  split
  · unfold ofFunds
    split
    · exact poor _ _
    · exact commit _ _ rfl rfl (.inl rfl)
    · exact commit _ _ rfl rfl (.inr rfl)
  · exact funds

end Cases

/-! ## Turns -/

/-- One turn of a level-up. -/
inductive Next (lifetimes : Lifetimes) (user : UserId) : Standing → Deed → Standing → Prop
  | readLevel {r : Reading Level} {r' : Reading Level ⊕ Except Refusal Level} {d : Deed}
      (next : Reading.Next (.level lifetimes user) r d r') :
      Next lifetimes user (.level r) d (ofLevel r')
  | readPrices {current : Level} {r : Reading PriceList}
      {r' : Reading PriceList ⊕ Except Refusal PriceList} {d : Deed}
      (next : Reading.Next (.prices lifetimes) r d r') :
      Next lifetimes user (.prices current r) d (ofPriceReading current r')
  | balance {current : Level} {price : LevelPrice} {referrals : Option Referrals} (n : Coins) :
      Next lifetimes user (.funds current price none referrals)
        (.called (.gateway (.balance user)) (.ok n)) (ofAnswers current price (some n) referrals)
  | noBalance {current : Level} {price : LevelPrice} {referrals : Option Referrals}
      (fault : PaymentFault) :
      Next lifetimes user (.funds current price none referrals)
        (.called (.gateway (.balance user)) (.error fault)) (.refused (.payment fault))
  | referrals {current : Level} {price : LevelPrice} {balance : Option Coins} (n : Referrals) :
      Next lifetimes user (.funds current price balance none)
        (.called (.gateway (.referrals user)) (.ok n)) (ofAnswers current price balance (some n))
  | noReferrals {current : Level} {price : LevelPrice} {balance : Option Coins}
      (fault : PaymentFault) :
      Next lifetimes user (.funds current price balance none)
        (.called (.gateway (.referrals user)) (.error fault)) (.refused (.payment fault))
  | take {deal : Deal} (payment : PaymentId) :
      Next lifetimes user (.commit deal .take) (.took payment) (.commit deal (.reserve payment))
  | reserved {deal : Deal} {payment : PaymentId} :
      Next lifetimes user (.commit deal (.reserve payment))
        (.called (.gateway (.initiate user deal.path.amount payment)) (.ok ()))
        (.commit deal (.advance payment))
  | doubtful {deal : Deal} {payment : PaymentId} {fault : PaymentFault}
      (ambiguous : fault.isAmbiguous = true) :
      Next lifetimes user (.commit deal (.reserve payment))
        (.called (.gateway (.initiate user deal.path.amount payment)) (.error fault))
        (.commit deal (.release payment (.payment fault)))
  | rejected {deal : Deal} {payment : PaymentId} {fault : PaymentFault}
      (clear : fault.isAmbiguous = false) :
      Next lifetimes user (.commit deal (.reserve payment))
        (.called (.gateway (.initiate user deal.path.amount payment)) (.error fault))
        (.settled deal (.error (.payment fault)))
  | advanced {deal : Deal} {payment : PaymentId} (level : Level) :
      Next lifetimes user (.commit deal (.advance payment))
        (.called (.store (.incrementLevel user deal.current)) (.ok level))
        (.commit deal (.spend payment level))
  | stayed {deal : Deal} {payment : PaymentId} (fault : StoreFault) :
      Next lifetimes user (.commit deal (.advance payment))
        (.called (.store (.incrementLevel user deal.current)) (.error fault))
        (.commit deal (.release payment (.ofStore fault)))
  | released {deal : Deal} {payment : PaymentId} {refusal : Refusal}
      (reply : Except PaymentFault Unit) :
      Next lifetimes user (.commit deal (.release payment refusal))
        (.called (.gateway (.finalize payment false)) reply) (ofResult deal (.error refusal))
  | spent {deal : Deal} {payment : PaymentId} {level : Level} (reply : Except PaymentFault Unit) :
      Next lifetimes user (.commit deal (.spend payment level))
        (.called (.gateway (.finalize payment true)) reply)
        (.commit deal (.keep ⟨level, !reply.isOk⟩))
  | advancedFree {deal : Deal} (level : Level) :
      Next lifetimes user (.commit deal .advanceFree)
        (.called (.store (.incrementLevel user deal.current)) (.ok level))
        (.commit deal (.keep ⟨level, false⟩))
  | stayedFree {deal : Deal} (fault : StoreFault) :
      Next lifetimes user (.commit deal .advanceFree)
        (.called (.store (.incrementLevel user deal.current)) (.error fault))
        (ofResult deal (.error (.ofStore fault)))
  | kept {deal : Deal} {gain : Advance} (reply : Except CacheFault Unit) :
      Next lifetimes user (.commit deal (.keep gain))
        (.called (.cache (.set (.level user) (encodeText gain.level) lifetimes.entries)) reply)
        (.commit deal (.dropProfile gain))
  | droppedProfile {deal : Deal} {gain : Advance} (reply : Except CacheFault Unit) :
      Next lifetimes user (.commit deal (.dropProfile gain))
        (.called (.cache (.invalidate (.profile user))) reply) (.settled deal (.ok gain))
  | droppedLevel {deal : Deal} {cause : StoreFault} (reply : Except CacheFault Unit) :
      Next lifetimes user (.commit deal (.dropLevel cause))
        (.called (.cache (.invalidate (.level user))) reply)
        (.settled deal (.error (.levelMoved cause)))

/-! ## The plan takes these turns and no others -/

variable {lifetimes : Lifetimes} {user : UserId}

theorem errand_detach (deal : Deal) (errand : Errand)
    (next : Option TaskResult → Plan (Except Refusal LevelUpOutcome)) :
    (Plan.detach (errand.plan lifetimes user deal) next).forward
      = .detach (errand.plan lifetimes user deal) next := by
  cases errand <;> simp [Errand.plan, pay, settle, advancePaid, LevelUp.release, LevelUp.spend,
    LevelUp.advanceFree, askStore, refresh, writeEntry, evict, Plan.andThen, Plan.bind,
    Plan.forward]

theorem report_over (balance : Coins) (path : PaymentPath) (result : Option TaskResult) :
    (report balance path result).Over := by
  unfold report
  split
  · trivial
  · trivial
  · split <;> trivial

/-- A level-up that is over has settled, has been refused, or has run out of numbers. -/
theorem over_cases {s : Standing} (h : (s.plan lifetimes user).Over) :
    (∃ deal result, s = .settled deal result) ∨ (∃ refusal, s = .refused refusal) ∨
      s = .beyond := by
  cases s with
  | settled deal result => exact .inl ⟨deal, result, rfl⟩
  | refused refusal => exact .inr (.inl ⟨refusal, rfl⟩)
  | beyond => exact .inr (.inr rfl)
  | level reading => cases reading <;> cases h
  | prices current reading => cases reading <;> cases h
  | funds | commit => cases h

/-- A level-up that has answered with an outcome has settled. -/
theorem settled_of_done {s : Standing} {o : LevelUpOutcome}
    (h : s.plan lifetimes user = .done (.ok o)) :
    ∃ deal pending, s = .settled deal (.ok ⟨o.level, pending⟩) := by
  have ended : (s.plan lifetimes user).Over := by
    rw [h]
    trivial
  rcases over_cases ended with ⟨deal, refusal | gain, rfl⟩ | ⟨refusal, rfl⟩ | rfl
  · cases h
  · simp only [Standing.plan, report] at h
    split at h
    · cases h
    · cases h
      exact ⟨deal, gain.settlementPending, rfl⟩
  · cases h
  · cases h

/-- What is left to do once the payment and the move are over. -/
theorem plan_ofResult (deal : Deal) (result : TaskResult) :
    (Plan.detach (refresh lifetimes user result) (report deal.balance deal.path)).forward
      = (ofResult deal result).plan lifetimes user := by
  have errand := @errand_detach lifetimes user deal
  rcases result with refusal | gain
  · cases refusal with
    | levelMoved cause => exact errand (.dropLevel cause) _
    | _ =>
      simp only [refresh, Plan.forward]
      exact (report_over _ _ _).forward
  · exact errand (.keep gain) _

theorem plan_ofFunds (current : Level) (price : LevelPrice) (balance : Coins)
    (referrals : Referrals) :
    (buy lifetimes user current price balance referrals).forward
      = (ofFunds current price balance referrals).plan lifetimes user := by
  unfold buy ofFunds
  rcases PaymentPath.decide? price balance referrals with _ | (amount | _)
  · simp [Standing.plan]
  · exact errand_detach ⟨current, price, balance, referrals, .coins amount⟩ .take _
  · exact errand_detach ⟨current, price, balance, referrals, .free⟩ .advanceFree _

theorem plan_ofPrices (current : Level) (list : PriceList) :
    (quote lifetimes user current list).forward
      = (ofPrices current list).plan lifetimes user := by
  unfold quote ofPrices
  cases current.next? with
  | none => simp [Standing.plan]
  | some next =>
    dsimp only
    cases list.priceFor? next with
    | none => simp [Standing.plan]
    | some price =>
      simp only [Plan.forward, askGateway, Plan.joint]
      rfl

theorem plan_ofLevel (r : Reading Level ⊕ Except Refusal Level) :
    (((Reading.planOr (.level lifetimes user) r).map
        (Except.mapError Refusal.levelUnknown)).andThen fun current =>
      (Service.prices lifetimes).andThen fun prices => quote lifetimes user current prices).forward
      = (ofLevel r).plan lifetimes user := by
  rcases r with reading | (refusal | current)
  · cases reading <;>
      simp [Standing.plan, ofLevel, Reading.planOr, Reading.plan, Plan.andThen, Plan.bind,
        Plan.map, Source.read, cachedRead, fetch?, askStore, writeEntry]
  · simp [Standing.plan, ofLevel, Reading.planOr, Plan.andThen, Plan.map, Except.mapError]
  · simp [Standing.plan, ofLevel, Reading.planOr, Reading.plan, Plan.andThen, Plan.bind,
      Plan.map, Source.read, Service.prices_eq, cachedRead, fetch?, Except.mapError]

theorem plan_ofPriceReading (current : Level) (r : Reading PriceList ⊕ Except Refusal PriceList) :
    ((Reading.planOr (.prices lifetimes) r).andThen fun prices =>
      quote lifetimes user current prices).forward
      = (ofPriceReading current r).plan lifetimes user := by
  rcases r with reading | (refusal | list)
  · cases reading <;>
      simp [Standing.plan, ofPriceReading, Reading.planOr, Reading.plan, Plan.andThen, Plan.bind,
        Source.read, cachedRead, fetch?, askStore, writeEntry]
  · simp [Standing.plan, ofPriceReading, Reading.planOr, Plan.andThen]
  · exact plan_ofPrices current list

theorem plan_ofAnswers (current : Level) (price : LevelPrice) (balance : Option Coins)
    (referrals : Option Referrals) :
    ((Standing.funds current price balance referrals).plan lifetimes user).forward
      = (ofAnswers current price balance referrals).plan lifetimes user := by
  rcases balance with _ | balance <;> rcases referrals with _ | referrals
  · simp [Standing.plan, ofAnswers, funded, askGateway, Plan.forward, Plan.joint]
  · simp [Standing.plan, ofAnswers, funded, askGateway, Plan.forward, Plan.joint]
  · simp [Standing.plan, ofAnswers, funded, askGateway, Plan.forward, Plan.joint]
  · simpa [Standing.plan, ofAnswers, funded, Plan.forward, Plan.joint]
      using plan_ofFunds current price balance referrals

/-- A level-up begins by asking the cache for the level. -/
theorem levelUp_eq (lifetimes : Lifetimes) (user : UserId) :
    Service.levelUp lifetimes user = (Standing.level .asking).plan lifetimes user := by
  unfold Service.levelUp currentLevel
  rw [Service.level_eq]
  rfl

theorem next_of_commit {deal : Deal} {errand : Errand} {d : Deed} {task : Plan TaskResult}
    (h : (errand.plan lifetimes user deal).Step d task) :
    ∃ s', Next lifetimes user (.commit deal errand) d s' ∧
      (Plan.detach task (report deal.balance deal.path)).forward = s'.plan lifetimes user := by
  have errand_next := fun errand =>
    @errand_detach lifetimes user deal errand (report deal.balance deal.path)
  cases errand with
  | take =>
    cases h with
    | newPayment payment =>
      exact ⟨_, .take payment, (Plan.forward_detach _ _).trans (errand_next (.reserve payment))⟩
  | reserve payment =>
    cases h with
    | call reply =>
      rw [Plan.forward_detach]
      rcases reply with fault | _
      · rcases ha : fault.isAmbiguous
        · refine ⟨_, .rejected ha, ?_⟩
          simp only [ha]
          exact plan_ofResult deal (.error (.payment fault))
        · refine ⟨_, .doubtful ha, ?_⟩
          simp only [ha]
          exact errand_next (.release payment (.payment fault))
      · exact ⟨_, .reserved, errand_next (.advance payment)⟩
  | advance payment =>
    cases h with
    | call reply =>
      rw [Plan.forward_detach]
      rcases reply with fault | level
      · exact ⟨_, .stayed fault, errand_next (.release payment (.ofStore fault))⟩
      · exact ⟨_, .advanced level, errand_next (.spend payment level)⟩
  | release payment refusal =>
    cases h with
    | call reply =>
      rw [Plan.forward_detach]
      exact ⟨_, .released reply, plan_ofResult deal (.error refusal)⟩
  | spend payment level =>
    cases h with
    | call reply =>
      rw [Plan.forward_detach]
      refine ⟨_, .spent reply, ?_⟩
      rcases reply with fault | _
      · exact plan_ofResult deal (.ok ⟨level, true⟩)
      · exact plan_ofResult deal (.ok ⟨level, false⟩)
  | advanceFree =>
    cases h with
    | call reply =>
      rw [Plan.forward_detach]
      rcases reply with fault | level
      · exact ⟨_, .stayedFree fault, plan_ofResult deal (.error (.ofStore fault))⟩
      · exact ⟨_, .advancedFree level, plan_ofResult deal (.ok ⟨level, false⟩)⟩
  | keep gain =>
    cases h with
    | call reply =>
      rw [Plan.forward_detach]
      exact ⟨_, .kept reply, errand_next (.dropProfile gain)⟩
  | dropProfile gain =>
    cases h with
    | call reply =>
      rw [Plan.forward_detach]
      refine ⟨_, .droppedProfile reply, ?_⟩
      simp only [Plan.bind, Plan.forward]
      exact (report_over _ _ _).forward
  | dropLevel cause =>
    cases h with
    | call reply =>
      rw [Plan.forward_detach]
      refine ⟨_, .droppedLevel reply, ?_⟩
      simp only [Plan.bind, Plan.forward]
      exact (report_over _ _ _).forward

/-- The plan of a level-up takes the turns of the level-up, and no others. -/
theorem next_of_step {s : Standing} {d : Deed} {q : Plan (Except Refusal LevelUpOutcome)}
    (h : (s.plan lifetimes user).Step d q) :
    ∃ s', Next lifetimes user s d s' ∧ q = s'.plan lifetimes user := by
  cases s with
  | level r =>
    rcases h.of_bind with ⟨_, hr, -⟩ | ⟨_, hs, rfl⟩
    · cases r <;> cases hr
    · obtain ⟨_, hr, rfl⟩ := hs.of_map
      obtain ⟨r', hn, rfl⟩ := Reading.next_of_step hr
      exact ⟨_, .readLevel hn, plan_ofLevel r'⟩
  | prices current r =>
    rcases h.of_bind with ⟨_, hr, -⟩ | ⟨_, hs, rfl⟩
    · cases r <;> cases hr
    · obtain ⟨r', hn, rfl⟩ := Reading.next_of_step hs
      exact ⟨_, .readPrices hn, plan_ofPriceReading current r'⟩
  | funds current price balance referrals =>
    cases h with
    | left hs =>
      cases balance with
      | some => cases hs
      | none =>
        cases hs with
        | call reply =>
          rcases reply with fault | n
          · exact ⟨_, .noBalance fault, by simp [Standing.plan, Plan.forward, Plan.joint]⟩
          · exact ⟨_, .balance n, plan_ofAnswers current price (some n) referrals⟩
    | right hs =>
      cases referrals with
      | some => cases hs
      | none =>
        cases hs with
        | call reply =>
          rcases reply with fault | n
          · refine ⟨_, .noReferrals fault, ?_⟩
            cases balance <;> simp [Standing.plan, Plan.forward, Plan.joint, funded, askGateway]
          · exact ⟨_, .referrals n, plan_ofAnswers current price balance (some n)⟩
  | commit deal errand =>
    cases h with
    | task hs =>
      obtain ⟨s', hn, hq⟩ := next_of_commit hs
      exact ⟨s', hn, hq⟩
  | settled deal result => exact absurd h (report_over _ _ _).no_step
  | refused refusal => exact absurd h (Plan.Over.no_step trivial)
  | beyond => exact absurd h (Plan.Over.no_step trivial)

theorem ask_step (c : GatewayCall) (reply : Except PaymentFault c.Answer) :
    (funded c none).Step (.called (.gateway c) reply) (.done reply) :=
  .of_eq (.call (c := .gateway c) reply) (Plan.forward_done reply)

theorem commit_step {deal : Deal} {errand : Errand} {c : Call} {next : c.Reply → Plan TaskResult}
    {reply : c.Reply} {s' : Standing} (hp : errand.plan lifetimes user deal = .call c next)
    (hq : (Plan.detach (next reply) (report deal.balance deal.path)).forward
      = s'.plan lifetimes user) :
    ((Standing.commit deal errand).plan lifetimes user).Step (.called c reply)
      (s'.plan lifetimes user) := by
  have step : (errand.plan lifetimes user deal).Step (.called c reply) (next reply).forward :=
    hp ▸ .call reply
  rw [← hq, ← Plan.forward_detach]
  exact .task step

/-- Every turn of a level-up is a turn of its plan. -/
theorem Next.step {s s' : Standing} {d : Deed} (h : Next lifetimes user s d s') :
    (s.plan lifetimes user).Step d (s'.plan lifetimes user) := by
  have errand_next := fun deal errand =>
    @errand_detach lifetimes user deal errand (report deal.balance deal.path)
  cases h with
  | readLevel next =>
    rw [← plan_ofLevel]
    exact (next.step.map _).bind _
  | readPrices next =>
    rw [← plan_ofPriceReading]
    exact next.step.bind _
  | balance n =>
    rw [← plan_ofAnswers]
    exact .left (ask_step (.balance user) (.ok n))
  | noBalance fault =>
    refine .of_eq (.left (ask_step (.balance user) (.error fault))) ?_
    simp [Standing.plan, Plan.forward, Plan.joint]
  | referrals n =>
    rw [← plan_ofAnswers]
    exact .right (ask_step (.referrals user) (.ok n))
  | @noReferrals _ _ balance fault =>
    refine .of_eq (.right (ask_step (.referrals user) (.error fault))) ?_
    cases balance <;> simp [Standing.plan, Plan.forward, Plan.joint, funded, askGateway]
  | @take deal payment =>
    exact .of_eq (.task (.newPayment payment))
      ((Plan.forward_detach _ _).trans (errand_next deal (.reserve payment)))
  | @reserved deal payment => exact commit_step rfl (errand_next deal (.advance payment))
  | @doubtful deal payment fault ambiguous =>
    refine commit_step rfl ?_
    simp only [ambiguous]
    exact errand_next deal (.release payment (.payment fault))
  | @rejected deal _ fault clear =>
    refine commit_step rfl ?_
    simp only [clear]
    exact plan_ofResult deal (.error (.payment fault))
  | @advanced deal payment level => exact commit_step rfl (errand_next deal (.spend payment level))
  | @stayed deal payment fault =>
    exact commit_step rfl (errand_next deal (.release payment (.ofStore fault)))
  | @released deal _ refusal reply => exact commit_step rfl (plan_ofResult deal (.error refusal))
  | @spent deal _ level reply =>
    refine commit_step rfl ?_
    rcases reply with fault | _
    · exact plan_ofResult deal (.ok ⟨level, true⟩)
    · exact plan_ofResult deal (.ok ⟨level, false⟩)
  | @advancedFree deal level => exact commit_step rfl (plan_ofResult deal (.ok ⟨level, false⟩))
  | @stayedFree deal fault =>
    exact commit_step rfl (plan_ofResult deal (.error (.ofStore fault)))
  | @kept deal gain reply => exact commit_step rfl (errand_next deal (.dropProfile gain))
  | droppedProfile reply =>
    refine commit_step rfl ?_
    simp only [Plan.bind, Plan.forward]
    exact (report_over _ _ _).forward
  | droppedLevel reply =>
    refine commit_step rfl ?_
    simp only [Plan.bind, Plan.forward]
    exact (report_over _ _ _).forward

end Standing

end LevelUp

end Progression
