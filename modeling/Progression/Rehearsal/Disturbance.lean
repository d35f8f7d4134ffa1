-- Disturbances: what can be made to go wrong with the calls of one kind.
-- A disturbed call may take time, break its caller, or fail before or
-- after the collaborator has done its work.
import Progression.Rehearsal.World

namespace Progression.Rehearsal

/-- The kinds of calls. -/
inductive Point where
  | createCharacter
  | characterLevel
  | characterProfile
  | allSkins
  | allPrices
  | incrementLevel
  | setActiveSkin
  | cacheGet
  | cacheSet
  | cacheInvalidate
  | balance
  | referrals
  | initiate
  | finalize
deriving DecidableEq, Repr

def Point.ofCall : Call → Point
  | .store (.createCharacter _) => .createCharacter
  | .store (.characterLevel _) => .characterLevel
  | .store (.characterProfile _) => .characterProfile
  | .store .allSkins => .allSkins
  | .store .allPrices => .allPrices
  | .store (.incrementLevel ..) => .incrementLevel
  | .store (.setActiveSkin ..) => .setActiveSkin
  | .cache (.get _) => .cacheGet
  | .cache (.set ..) => .cacheSet
  | .cache (.invalidate _) => .cacheInvalidate
  | .gateway (.balance _) => .balance
  | .gateway (.referrals _) => .referrals
  | .gateway (.initiate ..) => .initiate
  | .gateway (.finalize ..) => .finalize

def Point.name : Point → String
  | .createCharacter => "store.create_character"
  | .characterLevel => "store.character_level"
  | .characterProfile => "store.character_profile"
  | .allSkins => "store.all_skins"
  | .allPrices => "store.all_level_prices"
  | .incrementLevel => "store.increment_level"
  | .setActiveSkin => "store.set_active_skin"
  | .cacheGet => "cache.get"
  | .cacheSet => "cache.set"
  | .cacheInvalidate => "cache.invalidate"
  | .balance => "gateway.coins_balance"
  | .referrals => "gateway.referrals_count"
  | .initiate => "gateway.initiate_payment"
  | .finalize => "gateway.finalize_payment"

def Point.all : List Point :=
  [.createCharacter, .characterLevel, .characterProfile, .allSkins, .allPrices, .incrementLevel,
    .setActiveSkin, .cacheGet, .cacheSet, .cacheInvalidate, .balance, .referrals, .initiate,
    .finalize]

/-- The kind of calls of that name. -/
def Point.ofName? (name : String) : Option Point := Point.all.find? fun point => point.name == name

def paymentName (payment : PaymentId) : String := "p" ++ toString payment.number

/-- The details of a call, as the record of calls shows them. -/
def callDetails : Call → List String
  | .store (.createCharacter user) => [toString user]
  | .store (.characterLevel user) => [toString user]
  | .store (.characterProfile user) => [toString user]
  | .store .allSkins => []
  | .store .allPrices => []
  | .store (.incrementLevel user fromLevel) => [toString user, "from", toString fromLevel]
  | .store (.setActiveSkin user skin) => [toString user, toString skin]
  | .cache (.get key) => [key.text]
  | .cache (.set key _ lifetime) => [key.text, "ttl", toString lifetime.wholeSeconds]
  | .cache (.invalidate key) => [key.text]
  | .gateway (.balance user) => [toString user]
  | .gateway (.referrals user) => [toString user]
  | .gateway (.initiate user amount payment) =>
    [toString user, toString amount, paymentName payment]
  | .gateway (.finalize payment spend) => [paymentName payment, toString spend]

/-- The line of a call in the record of calls. -/
def callLine (c : Call) : String :=
  String.intercalate " " ((Point.ofCall c).name :: callDetails c)

/-! ## What a disturbance does -/

/-- The fault with which a disturbed call fails, for each collaborator. -/
inductive Failure where
  | store (fault : StoreFault)
  | cache (fault : CacheFault)
  | gateway (fault : PaymentFault)
deriving DecidableEq, Repr

structure Disturbance where
  failure : Option Failure
  /-- A failing payment call does its work all the same. -/
  applied : Bool
  delayMillis : Nat
  /-- The number of calls that it still disturbs; without one, all of them. -/
  times : Option Nat
  breaks : Bool
deriving DecidableEq, Repr

/-- A call that nothing disturbs. -/
def Disturbance.none : Disturbance := ⟨.none, false, 0, .none, false⟩

/-- What is left of a disturbance once one more call has met it. -/
def Disturbance.met (d : Disturbance) : Option Disturbance :=
  match d.times with
  | .none => some d
  | some n => if n ≤ 1 then .none else some { d with times := some (n - 1) }

/-- The reply of a failing call, if the failure is one of its collaborator. -/
def Failure.reply? : (c : Call) → Failure → Option c.Reply
  | .store _, .store fault => some (.error fault)
  | .cache _, .cache fault => some (.error fault)
  | .gateway _, .gateway fault => some (.error fault)
  | _, _ => none

/-- Whether a failing call of that kind can have done its work. -/
def mayApply : Call → Bool
  | .gateway (.initiate ..) => true
  | .gateway (.finalize ..) => true
  | _ => false

/-- The reply to a disturbed call, and the world after it; no reply if the call breaks. -/
def World.disturbed (world : World) (c : Call) (d : Disturbance) : Option c.Reply × World :=
  if d.breaks then (none, world)
  else
    match d.failure.bind (Failure.reply? c) with
    | some reply => (some reply, if d.applied && mayApply c then (world.perform c).2 else world)
    | none => let (reply, world) := world.perform c; (some reply, world)

end Progression.Rehearsal
