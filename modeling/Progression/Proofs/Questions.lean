-- What the questions to the service call. A read is about one entry of
-- the cache and one question to the store. All questions but a level-up
-- are made of reads, with at most one change after them.
import Progression.Proofs.Reading
import Progression.Rehearsal.Script

namespace Progression

/-! ## Reads -/

/-- The calls of a read, which asks the store for what the entry should be. -/
inductive ReadCall (key : Key) (load : StoreCall) : Call → Prop
  | get : ReadCall key load (.cache (.get key))
  | load : ReadCall key load (.store load)
  | set (text : String) (lifetime : Span) : ReadCall key load (.cache (.set key text lifetime))

theorem only_askStore {kind : Call → Prop} {c : StoreCall} (h : kind (.store c)) :
    (askStore c).Only kind := ⟨h, fun _ => trivial⟩

theorem only_cachedRead {α ε : Type} [Coded α] {key : Key} {lifetime : Span} {c : StoreCall}
    {load : Plan (Except ε α)} (hl : load.Only (ReadCall key c)) :
    (cachedRead key lifetime load).Only (ReadCall key c) := by
  have fetch : (fetch? (α := α) key).Only (ReadCall key c) := by
    refine ⟨.get, fun reply => ?_⟩
    dsimp only
    split <;> trivial
  refine fetch.bind fun found => ?_
  cases found with
  | some a => trivial
  | none => exact hl.andThen fun a => ⟨.set .., fun _ => trivial⟩

namespace Service

variable (lifetimes : Lifetimes) (user : UserId)

theorem only_level : (level lifetimes user).Only (ReadCall (.level user) (.characterLevel user)) :=
  only_cachedRead (only_askStore .load)

theorem only_profile :
    (profile lifetimes user).Only (ReadCall (.profile user) (.characterProfile user)) :=
  only_cachedRead (only_askStore .load)

theorem only_catalogue : (catalogue lifetimes).Only (ReadCall .skins .allSkins) :=
  only_cachedRead ((only_askStore .load).andThen fun _ => trivial)

theorem only_prices : (prices lifetimes).Only (ReadCall .prices .allPrices) :=
  only_cachedRead ((only_askStore .load).andThen fun _ => trivial)

end Service

/-! ## Questions -/

namespace Rehearsal.Question

/-- The calls of a question, unless it is a level-up. -/
inductive Calls : Question → Call → Prop
  | create {user : UserId} : Calls (.create user) (.store (.createCharacter user))
  | level {user : UserId} {c : Call} (read : ReadCall (.level user) (.characterLevel user) c) :
      Calls (.level user) c
  | profile {user : UserId} {c : Call}
      (read : ReadCall (.profile user) (.characterProfile user) c) : Calls (.profile user) c
  | prices {c : Call} (read : ReadCall .prices .allPrices c) : Calls .prices c
  | player {user : UserId} {c : Call} (read : ReadCall (.level user) (.characterLevel user) c) :
      Calls (.skins user) c
  | catalogue {user : UserId} {c : Call} (read : ReadCall .skins .allSkins c) :
      Calls (.skins user) c
  /-- A change of skin looks at the skins first. -/
  | look {user : UserId} {skin : SkinId} {c : Call} (skins : Calls (.skins user) c) :
      Calls (.changeSkin user skin) c
  | wear {user : UserId} {skin : SkinId} :
      Calls (.changeSkin user skin) (.store (.setActiveSkin user skin))
  | drop {user : UserId} {skin : SkinId} :
      Calls (.changeSkin user skin) (.cache (.invalidate (.profile user)))

theorem only (lifetimes : Lifetimes) {q : Question} (h : ∀ user, q ≠ .levelUp user) :
    (q.plan lifetimes).Only q.Calls := by
  have skins (user : UserId) : (Service.skins lifetimes user).Only (Calls (.skins user)) := by
    refine ⟨(Service.only_level lifetimes user).mono fun _ => .player,
      (Service.only_catalogue lifetimes).mono fun _ => .catalogue, fun result => ?_⟩
    cases result <;> trivial
  cases q with
  | create user => exact (only_askStore .create).map
  | level user => exact ((Service.only_level lifetimes user).mono fun _ => .level).map
  | profile user => exact ((Service.only_profile lifetimes user).mono fun _ => .profile).map
  | skins user => exact (skins user).map
  | prices => exact ((Service.only_prices lifetimes).mono fun _ => .prices).map
  | changeSkin user skin =>
    refine Plan.Only.map (((skins user).mono fun _ => .look).andThen fun list => ?_)
    split
    · trivial
    · trivial
    · exact (only_askStore .wear).andThen fun _ => ⟨.drop, fun _ => trivial⟩
  | levelUp user => exact absurd rfl (h user)

end Rehearsal.Question

end Progression
