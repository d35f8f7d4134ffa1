-- The collaborators held in memory: a store of characters, accounts with
-- the coins reserved from them, and a cache that forgets nothing by
-- itself. Each call answers at once and never fails but for a reason in
-- what it asks.
import Progression.Plan
import Progression.Table

namespace Progression.Rehearsal

structure Character where
  level : Level
  skin : SkinId
deriving DecidableEq, Repr

structure Account where
  balance : Coins
  referrals : Referrals
deriving DecidableEq, Repr

/-- Coins taken out of an account until they are spent or given back. -/
structure Reservation where
  user : UserId
  amount : Coins
deriving DecidableEq, Repr

structure World where
  characters : Table UserId Character
  accounts : Table UserId Account
  reserved : Table PaymentId Reservation
  cache : Table String String
  prices : List LevelPrice
  skins : List Skin

namespace World

/-! ## The store -/

/-- A new character starts at the first level with the first skin. -/
def newCharacter : Character := ⟨1, 1⟩

/-- The profile of a character; its skin is the first of that number in the catalogue. -/
def profileOf (world : World) (c : Character) : Profile :=
  let skin := world.skins.find? fun skin => skin.id == c.skin
  { skinName := (skin.map Skin.name).getD ""
    level := c.level
    miningRate := c.level.toInt64 * 10
    miningDuration := 60
    skinId := c.skin
    skinImageUrl := (skin.map Skin.imageUrl).getD "" }

/-- The character of a player, or the fault that there is none. -/
def character (world : World) (user : UserId) : Except StoreFault Character :=
  match world.characters.get? user with
  | some c => .ok c
  | none => .error (.noCharacter user)

def putCharacter (world : World) (user : UserId) (c : Character) : World :=
  { world with characters := world.characters.put user c }

/-- One level up, if the character is at the level that the caller expects. -/
def increment (world : World) (user : UserId) (fromLevel : Level) :
    Except StoreFault Level × World :=
  match world.character user with
  | .error fault => (.error fault, world)
  | .ok c =>
    if c.level = fromLevel then
      (.ok (c.level + 1), world.putCharacter user { c with level := c.level + 1 })
    else (.error (.levelMoved user fromLevel), world)

def store (world : World) : (c : StoreCall) → Except StoreFault c.Answer × World
  | .createCharacter user =>
    match world.characters.get? user with
    | some _ => (.ok (), world)
    | none => (.ok (), world.putCharacter user newCharacter)
  | .characterLevel user => ((world.character user).map Character.level, world)
  | .characterProfile user => ((world.character user).map world.profileOf, world)
  | .allSkins => (.ok world.skins, world)
  | .allPrices => (.ok world.prices, world)
  | .incrementLevel user fromLevel => world.increment user fromLevel
  | .setActiveSkin user skin =>
    match world.character user with
    | .error fault => (.error fault, world)
    | .ok c => (.ok (), world.putCharacter user { c with skin })

/-! ## The gateway -/

/-- The account of a player; without one the gateway rejects the question. -/
def account (world : World) (operation : String) (user : UserId) : Except PaymentFault Account :=
  match world.accounts.get? user with
  | some a => .ok a
  | none => .error (.rejected operation 404 "user not found")

/-- Adds coins to an account, if there is one. -/
def credit (world : World) (user : UserId) (amount : Coins) : World :=
  { world with
    accounts := world.accounts.change user fun a => { a with balance := a.balance + amount } }

/-- Takes coins out of an account and holds them under the payment id. -/
def reserve (world : World) (user : UserId) (amount : Coins) (payment : PaymentId) : World :=
  let world := world.credit user (-amount)
  { world with reserved := world.reserved.put payment ⟨user, amount⟩ }

/-- Ends a reservation; unless the coins are spent, they go back to the account. -/
def settle (world : World) (payment : PaymentId) (spend : Bool) : World :=
  match world.reserved.get? payment with
  | none => world
  | some r =>
    let world := { world with reserved := world.reserved.erase payment }
    if spend then world else world.credit r.user r.amount

def gateway (world : World) : (c : GatewayCall) → Except PaymentFault c.Answer × World
  | .balance user => ((world.account "get_coins_balance" user).map Account.balance, world)
  | .referrals user => ((world.account "get_referrals_count" user).map Account.referrals, world)
  | .initiate user amount payment => (.ok (), world.reserve user amount payment)
  | .finalize payment spend => (.ok (), world.settle payment spend)

/-! ## The cache -/

def cached (world : World) : (c : CacheCall) → Except CacheFault c.Answer × World
  | .get key => (.ok (world.cache.get? key.text), world)
  | .set key text _ => (.ok (), { world with cache := world.cache.put key.text text })
  | .invalidate key => (.ok (), { world with cache := world.cache.erase key.text })

/-- The reply to a call, and the world after it. -/
def perform (world : World) : (c : Call) → c.Reply × World
  | .store c => world.store c
  | .cache c => world.cached c
  | .gateway c => world.gateway c

end World

end Progression.Rehearsal
