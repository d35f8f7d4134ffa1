-- The level-up. The level, its price, the balance and the referrals are
-- read first; then a task of its own commits: it reserves the coins,
-- moves the character up, settles the reservation and refreshes the
-- cache. The task ends even if the request is dropped, so that no
-- reservation waits for ever and no cache entry stays behind the store.
import Progression.Service

namespace Progression

namespace LevelUp

/-! ## The commit -/

/-- Gives the reserved coins back, as well as the gateway allows, and refuses. -/
def release (payment : PaymentId) (refusal : Refusal) : Plan TaskResult :=
  .call (.gateway (.finalize payment false)) fun _ => .done (.error refusal)

/-- Spends the reserved coins. The level stands, and is reported even if the spending could not be
confirmed. -/
def spend (payment : PaymentId) (level : Level) : Plan TaskResult :=
  .call (.gateway (.finalize payment true)) fun
    | .ok () => .done (.ok ⟨level, false⟩)
    | .error _ => .done (.ok ⟨level, true⟩)

/-- Moves the character up for the reserved coins; they are given back if it stays where it is. -/
def advancePaid (user : UserId) (fromLevel : Level) (payment : PaymentId) : Plan TaskResult :=
  .call (.store (.incrementLevel user fromLevel)) fun
    | .error fault => release payment (.ofStore fault)
    | .ok level => spend payment level

/-- Reserves the price, moves the character up and spends the price. Coins that may be reserved
although the gateway reports a fault are given back. -/
def settle (user : UserId) (fromLevel : Level) (price : Coins) (payment : PaymentId) :
    Plan TaskResult :=
  .call (.gateway (.initiate user price payment)) fun
    | .error fault =>
      if fault.isAmbiguous then release payment (.payment fault)
      else .done (.error (.payment fault))
    | .ok () => advancePaid user fromLevel payment

/-- Moves the character up without a payment. -/
def advanceFree (user : UserId) (fromLevel : Level) : Plan TaskResult :=
  (askStore (.incrementLevel user fromLevel)).andThen fun level => .done (.ok ⟨level, false⟩)

/-- Brings the cache in line with what happened. After a conflict the cached level is out of
date, and the next reader shall ask the store. -/
def refresh (lifetimes : Lifetimes) (user : UserId) (result : TaskResult) : Plan TaskResult :=
  match result with
  | .ok advance =>
    (writeEntry (.level user) advance.level lifetimes.entries).bind fun _ =>
      (evict (.profile user)).bind fun _ => .done result
  | .error (.levelMoved _) => (evict (.level user)).bind fun _ => .done result
  | .error _ => .done result

/-- Takes the character up by that path of payment. -/
def pay (user : UserId) (fromLevel : Level) : PaymentPath → Plan TaskResult
  | .coins price => .newPayment fun payment => settle user fromLevel price payment
  | .free => advanceFree user fromLevel

/-- The task that pays for the level and refreshes the cache. -/
def commit (lifetimes : Lifetimes) (user : UserId) (fromLevel : Level) (path : PaymentPath) :
    Plan TaskResult :=
  (pay user fromLevel path).bind (refresh lifetimes user)

/-! ## The request -/

/-- A call to the gateway, with its fault as it is. -/
def askGateway (c : GatewayCall) : Plan (Except PaymentFault c.Answer) :=
  .call (.gateway c) .done

/-- The balance after the payment. -/
def balanceAfter (balance : Coins) : PaymentPath → Option Coins
  | .coins price => balance.less? price
  | .free => some balance

/-- How a refusal says that the task died. What a runtime adds to it, such as the number of the task
and what it died of, is left out. -/
def taskDied : Refusal := .internal "level-up task failed"

/-- The answer to the player once the task has ended. -/
def report (balance : Coins) (path : PaymentPath) :
    Option TaskResult → Plan (Except Refusal LevelUpOutcome)
  | none => .done (.error taskDied)
  | some (.error refusal) => .done (.error refusal)
  | some (.ok advance) =>
    match balanceAfter balance path with
    | none => .overflow .subtraction
    | some left => .done (.ok ⟨advance.level, left, advance.settlementPending⟩)

/-- Pays for the next level, once its price is known. -/
def buy (lifetimes : Lifetimes) (user : UserId) (current : Level) (price : LevelPrice)
    (balance : Coins) (referrals : Referrals) : Plan (Except Refusal LevelUpOutcome) :=
  match PaymentPath.decide? price balance referrals with
  | none =>
    .done (.error (.tooPoor price.level price.coins balance price.referralsToOpen referrals))
  | some path => .detach (commit lifetimes user current path) (report balance path)

/-- Finds the price of the next level and asks what the player has. -/
def quote (lifetimes : Lifetimes) (user : UserId) (current : Level) (prices : PriceList) :
    Plan (Except Refusal LevelUpOutcome) :=
  match current.next? with
  | none => .overflow .addition
  | some next =>
    match prices.priceFor? next with
    | none => .done (.error (.topLevel current))
    | some price =>
      .both (askGateway (.balance user)) (askGateway (.referrals user)) fun
        | .error fault => .done (.error (.payment fault))
        | .ok (balance, referrals) => buy lifetimes user current price balance referrals

/-- A level that cannot be read is reported as such, with its cause. -/
def currentLevel (lifetimes : Lifetimes) (user : UserId) : Plan (Except Refusal Level) :=
  (Service.level lifetimes user).map (Except.mapError Refusal.levelUnknown)

end LevelUp

/-- Moves a character up one level and takes the price. -/
def Service.levelUp (lifetimes : Lifetimes) (user : UserId) :
    Plan (Except Refusal LevelUpOutcome) :=
  (LevelUp.currentLevel lifetimes user).andThen fun current =>
    (Service.prices lifetimes).andThen fun prices => LevelUp.quote lifetimes user current prices

end Progression
