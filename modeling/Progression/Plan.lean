-- What the service does, as plans: calls to the store, the cache and the
-- payment gateway, each next step chosen by the reply. A plan runs two
-- plans side by side when it waits for both, and detaches a task that is
-- to end even if nobody waits for it any more.
import Progression.Catalogue
import Progression.Refusal
import Progression.Span

namespace Progression

/-! ## The entries of the cache -/

/-- What a cache entry is about. -/
inductive Key where
  | level (user : UserId)
  | profile (user : UserId)
  | skins
  | prices
deriving DecidableEq, Repr

/-- The name of an entry in the cache. -/
def Key.text : Key → String
  | .level user => "level:" ++ toString user
  | .profile user => "profile:" ++ toString user
  | .skins => "all-skins"
  | .prices => "level-prices"

/-! ## Calls and replies -/

inductive StoreCall where
  | createCharacter (user : UserId)
  | characterLevel (user : UserId)
  | characterProfile (user : UserId)
  | allSkins
  | allPrices
  /-- Moves a character up from a level, if it is still there. -/
  | incrementLevel (user : UserId) (fromLevel : Level)
  | setActiveSkin (user : UserId) (skin : SkinId)
deriving DecidableEq, Repr

/-- What the store answers when it does its work. -/
@[reducible]
def StoreCall.Answer : StoreCall → Type
  | .createCharacter _ => Unit
  | .characterLevel _ => Level
  | .characterProfile _ => Profile
  | .allSkins => List Skin
  | .allPrices => List LevelPrice
  | .incrementLevel .. => Level
  | .setActiveSkin .. => Unit

inductive CacheCall where
  | get (key : Key)
  | set (key : Key) (text : String) (lifetime : Span)
  | invalidate (key : Key)
deriving DecidableEq

/-- What the cache answers when it does its work. -/
@[reducible]
def CacheCall.Answer : CacheCall → Type
  | .get _ => Option String
  | .set .. => Unit
  | .invalidate _ => Unit

inductive GatewayCall where
  | balance (user : UserId)
  | referrals (user : UserId)
  /-- Reserves coins under a payment id. -/
  | initiate (user : UserId) (amount : Coins) (payment : PaymentId)
  /-- Settles a reservation: spends the coins or gives them back. -/
  | finalize (payment : PaymentId) (spend : Bool)
deriving DecidableEq, Repr

/-- What the gateway answers when it does its work. -/
@[reducible]
def GatewayCall.Answer : GatewayCall → Type
  | .balance _ => Coins
  | .referrals _ => Referrals
  | .initiate .. => Unit
  | .finalize .. => Unit

inductive Call where
  | store (call : StoreCall)
  | cache (call : CacheCall)
  | gateway (call : GatewayCall)
deriving DecidableEq

/-- The reply to a call: the answer, or the collaborator's fault. -/
@[reducible]
def Call.Reply : Call → Type
  | .store call => Except StoreFault call.Answer
  | .cache call => Except CacheFault call.Answer
  | .gateway call => Except PaymentFault call.Answer

/-! ## Plans -/

/-- A sum that left its range; the task that formed it ends there. -/
inductive Overflow where
  | addition
  | subtraction
deriving DecidableEq, Repr

def Overflow.message : Overflow → String
  | .addition => "attempt to add with overflow"
  | .subtraction => "attempt to subtract with overflow"

/-- What a detached task tells the one that waits for it. -/
abbrev TaskResult := Except Refusal Advance

inductive Plan : Type → Type 1 where
  | done {α : Type} (answer : α) : Plan α
  | overflow {α : Type} (cause : Overflow) : Plan α
  | call {α : Type} (call : Call) (next : call.Reply → Plan α) : Plan α
  /-- Takes a payment id that was never taken before. -/
  | newPayment {α : Type} (next : PaymentId → Plan α) : Plan α
  /-- Runs two plans at once. The first fault of either ends both. -/
  | both {α β γ ε : Type} (left : Plan (Except ε β)) (right : Plan (Except ε γ))
      (next : Except ε (β × γ) → Plan α) : Plan α
  /-- Starts a task of its own and waits for it; `none` if the task died. -/
  | detach {α : Type} (task : Plan TaskResult) (next : Option TaskResult → Plan α) : Plan α

namespace Plan

/-- A plan, and then the plan that its answer chooses. -/
def bind {α β : Type} : Plan α → (α → Plan β) → Plan β
  | .done a, f => f a
  | .overflow cause, _ => .overflow cause
  | .call c next, f => .call c fun reply => (next reply).bind f
  | .newPayment next, f => .newPayment fun payment => (next payment).bind f
  | .both left right next, f => .both left right fun result => (next result).bind f
  | .detach task next, f => .detach task fun result => (next result).bind f

/-- A plan that may be refused, and then the plan that its answer chooses. -/
def andThen {ε α β : Type} (p : Plan (Except ε α)) (f : α → Plan (Except ε β)) :
    Plan (Except ε β) :=
  p.bind fun
    | .ok a => f a
    | .error e => .done (.error e)

/-- A plan with a function applied to its answer. -/
def map {α β : Type} (f : α → β) (p : Plan α) : Plan β := p.bind fun a => .done (f a)

/-! ## Laws of sequence -/

@[simp]
theorem done_bind {α β : Type} (a : α) (f : α → Plan β) : (done a).bind f = f a := rfl

@[simp]
theorem bind_done {α : Type} (p : Plan α) : p.bind done = p := by
  induction p with
  | done => rfl
  | overflow => rfl
  | call c next ih => simp only [bind, ih]
  | newPayment next ih => simp only [bind, ih]
  | both left right next _ _ ih => simp only [bind, ih]
  | detach task next _ ih => simp only [bind, ih]

theorem bind_bind {α β γ : Type} (p : Plan α) (f : α → Plan β) (g : β → Plan γ) :
    (p.bind f).bind g = p.bind fun a => (f a).bind g := by
  induction p with
  | done => rfl
  | overflow => rfl
  | call c next ih => simp only [bind, ih]
  | newPayment next ih => simp only [bind, ih]
  | both left right next _ _ ih => simp only [bind, ih]
  | detach task next _ ih => simp only [bind, ih]

end Plan

end Progression
