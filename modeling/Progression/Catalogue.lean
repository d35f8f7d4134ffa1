-- What is for sale and what a player is shown: the price of each level and
-- how it is paid for, the skins and whether they are open, and the profile
-- of a character.
import Progression.Basic

namespace Progression

/-! ## Prices -/

/-- What one level costs: coins, or else enough invited players. -/
structure LevelPrice where
  level : Level
  coins : Coins
  referrals : Referrals
  referralsToOpen : Referrals
deriving DecidableEq, Repr

/-- The prices of all levels. A new list is in the order of the levels; one that was kept as text
has the order of the text. -/
structure PriceList where
  prices : List LevelPrice
deriving DecidableEq, Repr

/-- A price list in order of levels; prices of one level keep their order. -/
def PriceList.ofPrices (prices : List LevelPrice) : PriceList :=
  ⟨prices.mergeSort fun a b => decide (a.level ≤ b.level)⟩

/-- The first price of a level, if it has one. -/
def PriceList.priceFor? (list : PriceList) (level : Level) : Option LevelPrice :=
  list.prices.find? fun price => price.level == level

theorem PriceList.mem_ofPrices {prices : List LevelPrice} {price : LevelPrice} :
    price ∈ (ofPrices prices).prices ↔ price ∈ prices := List.mem_mergeSort

theorem PriceList.mem_of_priceFor? {list : PriceList} {level : Level} {price : LevelPrice}
    (h : list.priceFor? level = some price) : price ∈ list.prices := List.mem_of_find?_eq_some h

/-! ## Payment -/

/-- The two ways to pay for a level. -/
inductive PaymentPath where
  | coins (price : Coins)
  | free
deriving DecidableEq, Repr

/-- Coins come first: a balance that covers the price pays it. Otherwise enough invited players
open the level for free. -/
def PaymentPath.decide? (price : LevelPrice) (balance : Coins) (referrals : Referrals) :
    Option PaymentPath :=
  if price.coins ≤ balance then some (.coins price.coins)
  else if price.referralsToOpen ≤ referrals then some .free
  else none

/-- The number of a reservation of coins, new for each one. -/
structure PaymentId where
  number : Nat
deriving DecidableEq, Repr

/-- Where a level-up has taken a character. If `settlementPending`, the level stands and the
reservation still waits for its settlement. -/
structure Advance where
  level : Level
  settlementPending : Bool
deriving DecidableEq, Repr

/-- The answer to a level-up, with the balance worked out and not asked for again. -/
structure LevelUpOutcome where
  level : Level
  balance : Coins
  settlementPending : Bool
deriving DecidableEq, Repr

/-! ## Skins -/

/-- What was played with a skin. -/
structure SkinStats where
  gamesPlayed : Int32
  hoursPlayed : Int32
  coinsEarned : Coins
deriving DecidableEq, Repr

def SkinStats.zero : SkinStats := ⟨0, 0, 0⟩

/-- A skin of the catalogue. Whether it is open depends on who looks, so `isOpen` is worked out
for each answer and is no part of what is kept. -/
structure Skin where
  id : SkinId
  name : String
  lore : String
  imageUrl : String
  unlockLevel : Level
  price : Coins
  referralsToBuy : Referrals
  referralsToOpen : Referrals
  isOpen : Bool
  stats : SkinStats
deriving DecidableEq, Repr

/-- The skins in the order of the catalogue. -/
structure SkinList where
  skins : List Skin
deriving DecidableEq, Repr

/-- A skin as a player of that level sees it. -/
def Skin.seenAt (level : Level) (skin : Skin) : Skin :=
  { skin with isOpen := decide (skin.unlockLevel ≤ level) }

/-- The catalogue as a player of that level sees it. -/
def SkinList.seenAt (level : Level) (list : SkinList) : SkinList :=
  ⟨list.skins.map (Skin.seenAt level)⟩

/-- Whether the first skin of that number is open; no answer if there is no such skin. -/
def SkinList.isOpen? (list : SkinList) (id : SkinId) : Option Bool :=
  (list.skins.find? fun skin => skin.id == id).map Skin.isOpen

/-! ## Profiles -/

/-- What a character's page shows. -/
structure Profile where
  skinName : String
  level : Level
  miningRate : Int64
  miningDuration : Int32
  skinId : SkinId
  skinImageUrl : String
deriving DecidableEq, Repr

end Progression
