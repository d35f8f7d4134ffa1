-- The JSON forms of what the service keeps in its cache and what its
-- routes answer with.
import Progression.Envelope
import Progression.Json.Coded
import Progression.Catalogue

namespace Progression

/-! ## What the cache keeps -/

instance : Coded LevelPrice where
  encode p := .record [("level", encode p.level), ("coins_price", encode p.coins),
    ("referrals_price", encode p.referrals), ("referrals_to_open", encode p.referralsToOpen)]
  decode? value :=
    match value.fields? ["level", "coins_price", "referrals_price", "referrals_to_open"] with
    | some [some level, some coins, some referrals, some toOpen] => do
      return ⟨← decode? level, ← decode? coins, ← decode? referrals, ← decode? toOpen⟩
    | _ => none

instance : Coded PriceList where
  encode list := .record [("levels", encode list.prices)]
  decode? value :=
    match value.fields? ["levels"] with
    | some [some levels] => (decode? levels).map PriceList.mk
    | _ => none

instance : Coded SkinStats where
  encode s := .record [("games_played", encode s.gamesPlayed),
    ("hours_played", encode s.hoursPlayed), ("coins_earned", encode s.coinsEarned)]
  decode? value :=
    match value.fields? ["games_played", "hours_played", "coins_earned"] with
    | some [some games, some hours, some coins] => do
      return ⟨← decode? games, ← decode? hours, ← decode? coins⟩
    | _ => none

/-- Whether a skin is open is written and never read back; absent stats are zero. -/
instance : Coded Skin where
  encode s := .record [("skin_id", encode s.id), ("name", encode s.name), ("lore", encode s.lore),
    ("image_url", encode s.imageUrl), ("unlock_level", encode s.unlockLevel),
    ("price", encode s.price), ("referrals_to_buy", encode s.referralsToBuy),
    ("referrals_to_open", encode s.referralsToOpen), ("is_opened", encode s.isOpen),
    ("stats", encode s.stats)]
  decode? value :=
    match value.fields? ["skin_id", "name", "lore", "image_url", "unlock_level", "price",
      "referrals_to_buy", "referrals_to_open", "stats"] with
    | some [some id, some name, some lore, some imageUrl, some unlockLevel, some price,
        some toBuy, some toOpen, stats] => do
      return ⟨← decode? id, ← decode? name, ← decode? lore, ← decode? imageUrl,
        ← decode? unlockLevel, ← decode? price, ← decode? toBuy, ← decode? toOpen, false,
        ← (stats.map decode?).getD (some SkinStats.zero)⟩
    | _ => none

instance : Coded SkinList where
  encode list := .record [("skins", encode list.skins)]
  decode? value :=
    match value.fields? ["skins"] with
    | some [some skins] => (decode? skins).map SkinList.mk
    | _ => none

instance : Coded Profile where
  encode p := .record [("skin_name", encode p.skinName), ("current_level", encode p.level),
    ("mining_rate", encode p.miningRate), ("mining_duration", encode p.miningDuration),
    ("current_skin_id", encode p.skinId), ("skin_image_url", encode p.skinImageUrl)]
  decode? value :=
    match value.fields? ["skin_name", "current_level", "mining_rate", "mining_duration",
      "current_skin_id", "skin_image_url"] with
    | some [some name, some level, some rate, some duration, some skin, some image] => do
      return ⟨← decode? name, ← decode? level, ← decode? rate, ← decode? duration,
        ← decode? skin, ← decode? image⟩
    | _ => none

/-! ## What the routes answer -/

/-- The answer of a route that has nothing to tell but that it did its work. -/
structure Done where
  success : Bool
deriving DecidableEq, Repr

instance : Coded Done where
  encode d := .record [("success", encode d.success)]
  decode? value :=
    match value.fields? ["success"] with
    | some [some success] => (decode? success).map Done.mk
    | _ => none

/-- The answer to the question for a level. -/
structure LevelAnswer where
  level : Level
deriving DecidableEq, Repr

instance : Coded LevelAnswer where
  encode a := .record [("level", encode a.level)]
  decode? value :=
    match value.fields? ["level"] with
    | some [some level] => (decode? level).map LevelAnswer.mk
    | _ => none

/-- The outcome of a level-up as the service itself reports it. -/
def LevelUpOutcome.summary (outcome : LevelUpOutcome) : Json :=
  .record [("new_level", encode outcome.level), ("coins_balance", encode outcome.balance),
    ("settlement_pending", encode outcome.settlementPending)]

/-- The answer to a level-up. -/
structure LevelUpAnswer where
  success : Bool
  outcome : LevelUpOutcome
deriving DecidableEq, Repr

instance : Coded LevelUpAnswer where
  encode a := .record [("success", encode a.success), ("new_level", encode a.outcome.level),
    ("coins_balance", encode a.outcome.balance),
    ("settlement_pending", encode a.outcome.settlementPending)]
  decode? value :=
    match value.fields? ["success", "new_level", "coins_balance", "settlement_pending"] with
    | some [some success, some level, some balance, some pending] => do
      return ⟨← decode? success, ← decode? level, ← decode? balance, ← decode? pending⟩
    | _ => none

/-- An envelope leaves out the data it does not have. As an array it has all three fields. -/
instance {α : Type} [Coded α] : Coded (Envelope α) where
  encode e := .record ([("code", encode e.code), ("msg", encode e.msg)]
    ++ (e.data.map fun data => ("resp_data", encode data)).toList)
  decode? value :=
    match value.fields? ["code", "msg", "resp_data"], value with
    | some [some _, some _, none], .array _ => none
    | some [some code, some msg, none], _ => do return ⟨← decode? code, ← decode? msg, none⟩
    | some [some code, some msg, some .null], _ => do return ⟨← decode? code, ← decode? msg, none⟩
    | some [some code, some msg, some data], _ => do
      return ⟨← decode? code, ← decode? msg, some (← decode? data)⟩
    | _, _ => none

end Progression
