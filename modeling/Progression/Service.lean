-- The service: the reads of a character, its level and its skins, the
-- price table, and the change of skin. All of them read through the cache.
-- A text that does not decode and a cache that fails are both a miss: the
-- value is loaded, and written back as well as the cache allows. No fault
-- of the cache is ever the reader's fault.
import Progression.Json.Forms
import Progression.Plan

namespace Progression

/-! ## Reads through the cache -/

/-- The value of a cache entry, if the cache gives a text that decodes. -/
def fetch? {α : Type} [Coded α] (key : Key) : Plan (Option α) :=
  .call (.cache (.get key)) fun
    | .ok (some text) => .done (decodeText? text)
    | _ => .done none

/-- Writes a cache entry, whatever the cache says to it. -/
def writeEntry {α : Type} [Coded α] (key : Key) (a : α) (lifetime : Span) : Plan Unit :=
  .call (.cache (.set key (encodeText a) lifetime)) fun _ => .done ()

/-- Removes a cache entry, whatever the cache says to it. -/
def evict (key : Key) : Plan Unit := .call (.cache (.invalidate key)) fun _ => .done ()

/-- The cached value, or else the loaded one, which is then cached. -/
def cachedRead {α ε : Type} [Coded α] (key : Key) (lifetime : Span) (load : Plan (Except ε α)) :
    Plan (Except ε α) :=
  (fetch? key).bind fun
    | some a => .done (.ok a)
    | none => load.andThen fun a => (writeEntry key a lifetime).bind fun _ => .done (.ok a)

/-! ## The service -/

/-- How long cache entries live: those of characters and skins, and the price table. -/
structure Lifetimes where
  entries : Span
  prices : Span
deriving DecidableEq

/-- A call to the store, with its fault as a refusal. -/
def askStore (c : StoreCall) : Plan (Except Refusal c.Answer) :=
  .call (.store c) fun reply => .done (reply.mapError Refusal.ofStore)

namespace Service

/-- Creates a character; one that exists already stays as it is. -/
def createCharacter (user : UserId) : Plan (Except Refusal Unit) :=
  askStore (.createCharacter user)

def level (lifetimes : Lifetimes) (user : UserId) : Plan (Except Refusal Level) :=
  cachedRead (.level user) lifetimes.entries (askStore (.characterLevel user))

def profile (lifetimes : Lifetimes) (user : UserId) : Plan (Except Refusal Profile) :=
  cachedRead (.profile user) lifetimes.entries (askStore (.characterProfile user))

/-- The skins as they are kept: open to nobody. -/
def catalogue (lifetimes : Lifetimes) : Plan (Except Refusal SkinList) :=
  cachedRead .skins lifetimes.entries ((askStore .allSkins).andThen fun skins => .done (.ok ⟨skins⟩))

def prices (lifetimes : Lifetimes) : Plan (Except Refusal PriceList) :=
  cachedRead .prices lifetimes.prices
    ((askStore .allPrices).andThen fun prices => .done (.ok (.ofPrices prices)))

/-- The skins as the player sees them. The level and the catalogue are read at the same time. -/
def skins (lifetimes : Lifetimes) (user : UserId) : Plan (Except Refusal SkinList) :=
  .both (level lifetimes user) (catalogue lifetimes) fun
    | .ok (level, list) => .done (.ok (list.seenAt level))
    | .error refusal => .done (.error refusal)

/-- Puts on a skin that is open to the player. The profile shows the skin, so its entry goes. -/
def changeSkin (lifetimes : Lifetimes) (user : UserId) (skin : SkinId) :
    Plan (Except Refusal Unit) :=
  (skins lifetimes user).andThen fun list =>
    match list.isOpen? skin with
    | none => .done (.error (.noSkin skin))
    | some false => .done (.error (.skinLocked skin))
    | some true =>
      (askStore (.setActiveSkin user skin)).andThen fun _ =>
        (evict (.profile user)).bind fun _ => .done (.ok ())

end Service

end Progression
