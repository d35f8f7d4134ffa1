-- The tables that the store keeps, as the migrations that create them.

namespace Progression.Database

/-- A step of the schema's history. -/
structure Migration where
  version : Nat
  description : String
  sql : String
deriving DecidableEq, Repr

/-- The levels with their prices, the skins, and the characters. -/
def createCharacters : String :=
  "CREATE TABLE IF NOT EXISTS character_levels (
    level_number            INTEGER PRIMARY KEY CHECK (level_number >= 1),
    price                   BIGINT  NOT NULL DEFAULT 0 CHECK (price >= 0),
    referrals               BIGINT  NOT NULL DEFAULT 0 CHECK (referrals >= 0),
    referral_to_open        BIGINT  NOT NULL DEFAULT 0 CHECK (referral_to_open >= 0),
    mining_force            BIGINT  NOT NULL DEFAULT 0,
    mining_duration_minutes INTEGER NOT NULL DEFAULT 0
);

CREATE TABLE IF NOT EXISTS character_skins (
    skin_id             INTEGER PRIMARY KEY,
    character_name      TEXT    NOT NULL,
    character_lore      TEXT    NOT NULL DEFAULT '',
    character_image_url TEXT    NOT NULL DEFAULT '',
    unlock_level        INTEGER NOT NULL DEFAULT 1
);

CREATE TABLE IF NOT EXISTS characters (
    user_id         BIGINT  PRIMARY KEY,
    current_level   INTEGER NOT NULL DEFAULT 1 CHECK (current_level >= 1),
    current_skin_id INTEGER NOT NULL DEFAULT 1,
    created_at      TIMESTAMPTZ NOT NULL DEFAULT NOW()
);
"

/-- The migrations in the order in which they run. -/
def migrations : List Migration := [⟨20250301000000, "create characters", createCharacters⟩]

end Progression.Database
