-- The store only ever takes a character up, so a level that was true once
-- stays true as a lower bound. These are the customs of the service: what
-- the entries of the cache say is no lower than where a character began
-- and no higher than where it is now, whoever reads them and whenever.
import Progression.Proofs.Course
import Progression.Proofs.Customs
import Progression.Proofs.Purchase

namespace Progression

namespace Rehearsal.World

/-! ## Levels that only rise -/

/-- The level at which the character of a player is, or begins once it is created. -/
def firstLevel (w : World) (user : UserId) : Level :=
  ((w.characters.get? user).getD newCharacter).level

/-- The player has a character, and it is at that level or above. -/
def Has (w : World) (user : UserId) (level : Level) : Prop :=
  ∃ c, w.characters.get? user = some c ∧ level ≤ c.level

/-- What may become of a store: no character goes away or down, and the skins stay the same. -/
structure Later (w w' : World) : Prop where
  skins : w'.skins = w.skins
  has : ∀ user level, w.Has user level → w'.Has user level
  rises : ∀ user, w.firstLevel user ≤ w'.firstLevel user

theorem firstLevel_of_get? {w : World} {user : UserId} {c : Character}
    (h : w.characters.get? user = some c) : w.firstLevel user = c.level := by
  simp [firstLevel, h]

theorem Later.of_eq {w w' : World} (skins : w'.skins = w.skins)
    (characters : w'.characters = w.characters) : Later w w' := by
  refine ⟨skins, ?_, ?_⟩
  · intro user level h
    unfold Has
    rw [characters]
    exact h
  · intro user
    unfold firstLevel
    rw [characters]
    exact Int32.le_refl _

theorem Later.refl (w : World) : Later w w := .of_eq rfl rfl

theorem Later.trans {u v w : World} (h : Later u v) (h' : Later v w) : Later u w := by
  refine ⟨h'.skins.trans h.skins, ?_, ?_⟩
  · intro user level hu
    exact h'.has user level (h.has user level hu)
  · intro user
    exact Int32.le_trans (h.rises user) (h'.rises user)

/-- A character may be put at its level or above. -/
theorem Later.put {w : World} {user : UserId} {c : Character} (h : w.firstLevel user ≤ c.level) :
    Later w (w.putCharacter user c) := by
  have get (u : UserId) : (w.putCharacter user c).characters.get? u
      = if u = user then some c else w.characters.get? u := Table.get?_put ..
  refine ⟨rfl, ?_, ?_⟩
  · rintro u level ⟨old, hold, hle⟩
    unfold Has
    rw [get]
    by_cases hu : u = user
    · subst hu
      rw [firstLevel_of_get? hold] at h
      rw [if_pos rfl]
      exact ⟨c, rfl, Int32.le_trans hle h⟩
    · rw [if_neg hu]
      exact ⟨old, hold, hle⟩
  · intro u
    by_cases hu : u = user
    · subst hu
      have hc : (w.putCharacter u c).characters.get? u = some c := by rw [get, if_pos rfl]
      rw [firstLevel_of_get? hc]
      exact h
    · unfold firstLevel
      rw [get, if_neg hu]
      exact Int32.le_refl _

/-! ## One call -/

/-- What a call does to the store and the cache. No call changes the skins of the store. -/
def Attends : Collaborators World := fun w c reply w' => w.Serves c reply w' ∧ w'.skins = w.skins

theorem store_later {w : World} {c : StoreCall}
    (below : ∀ user fromLevel, c = .incrementLevel user fromLevel → fromLevel.next? ≠ none) :
    Later w (w.store c).2 := by
  cases c with
  | createCharacter user =>
    simp only [store]
    cases hc : w.characters.get? user with
    | some c => exact .refl w
    | none =>
      apply Later.put
      simp [firstLevel, hc]
  | incrementLevel user fromLevel =>
    simp only [store, World.increment]
    cases hc : w.character user with
    | error => exact .refl w
    | ok c =>
      dsimp only
      by_cases hl : c.level = fromLevel
      · rw [if_pos hl]
        apply Later.put
        rw [firstLevel_of_get? (character_ok.mp hc)]
        obtain ⟨next, hnext⟩ := Option.ne_none_iff_exists'.mp (below user fromLevel rfl)
        obtain ⟨rfl, hone⟩ := Level.toInt_next? hnext
        subst hl
        apply Int32.le_iff_toInt_le.mpr
        show c.level.toInt ≤ (c.level + 1).toInt
        omega
      · rw [if_neg hl]
        exact .refl w
  | setActiveSkin user skin =>
    simp only [store]
    cases hc : w.character user with
    | error => exact .refl w
    | ok c =>
      apply Later.put
      rw [firstLevel_of_get? (character_ok.mp hc)]
      exact Int32.le_refl _
  | _ => exact .refl w

/-- A call lets characters go up only, if it moves none beyond the last level. -/
theorem Attends.later {w w' : World} {c : Call} {reply : c.Reply} (h : Attends w c reply w')
    (below : ∀ user fromLevel, c = .store (.incrementLevel user fromLevel) →
      fromLevel.next? ≠ none) : Later w w' := by
  obtain ⟨serves, skins⟩ := h
  cases c with
  | store c =>
    rcases serves with ⟨-, rfl⟩ | ⟨-, rfl⟩
    · apply store_later
      rintro user fromLevel rfl
      exact below user fromLevel rfl
    · exact .refl _
  | cache c =>
    apply Later.of_eq skins
    rw [CacheReply.rest serves]
  | gateway => exact .of_eq skins serves.1

/-! ## What the entries of the cache say -/

/-- A level that a player has, and no lower than its first one. -/
structure Trails (first : UserId → Level) (w : World) (user : UserId) (level : Level) : Prop where
  first_le : first user ≤ level
  has : w.Has user level

/-- The skins of the store as they come out of the cache. -/
def catalogue (w : World) : SkinList := SkinList.shut ⟨w.skins⟩

/-- What an entry of the cache says is so: a level trails the store, and the skins are those of the
store. The prices may be anything. -/
def Stands (first : UserId → Level) (w : World) : Key → String → Prop
  | .level user, text => ∀ level, decodeText? text = some level → w.Trails first user level
  | .profile user, text =>
    ∀ profile : Profile, decodeText? text = some profile → w.Trails first user profile.level
  | .skins, text => ∀ list, decodeText? text = some list → list = w.catalogue
  | .prices, _ => True

variable {first : UserId → Level} {w w' : World}

theorem Trails.later {user : UserId} {level : Level} (h : w.Trails first user level)
    (hl : Later w w') : w'.Trails first user level := ⟨h.first_le, hl.has user level h.has⟩

theorem Stands.later {key : Key} {text : String} (h : w.Stands first key text)
    (hl : Later w w') : w'.Stands first key text := by
  cases key with
  | level user => exact fun level hd => (h level hd).later hl
  | profile user => exact fun profile hd => (h profile hd).later hl
  | skins =>
    intro list hd
    rw [h list hd, catalogue, catalogue, hl.skins]
  | prices => trivial

/-- The level of a character trails the store. -/
theorem trails_of_get? {user : UserId} {c : Character} (h : first user ≤ w.firstLevel user)
    (hc : w.characters.get? user = some c) : w.Trails first user c.level :=
  ⟨firstLevel_of_get? hc ▸ h, c, hc, Int32.le_refl _⟩

theorem StoreReply.profile {user : UserId} {profile : Profile}
    (h : StoreReply w (.characterProfile user) (.ok profile) w') :
    w' = w ∧ ∃ c, w.characters.get? user = some c ∧ w.profileOf c = profile := by
  rcases h with ⟨hr, hw⟩ | ⟨⟨fault, hr⟩, -⟩
  · refine ⟨hw, ?_⟩
    simp only [store] at hr
    cases hc : w.character user with
    | error => rw [hc] at hr; cases hr
    | ok c =>
      rw [hc] at hr
      exact ⟨c, character_ok.mp hc, (Except.ok.inj hr).symm⟩
  · cases hr

theorem StoreReply.skins {skins : List Skin} (h : StoreReply w .allSkins (.ok skins) w') :
    w' = w ∧ skins = w.skins := by
  rcases h with ⟨hr, hw⟩ | ⟨⟨fault, hr⟩, -⟩
  · exact ⟨hw, Except.ok.inj hr⟩
  · cases hr

/-! ## The customs -/

/-- The first skin of that number is one that the player may put on. -/
def OpenTo (w : World) (user : UserId) (skin : SkinId) : Prop :=
  ∃ found c, w.skins.find? (fun skin' => skin'.id == skin) = some found ∧
    w.characters.get? user = some c ∧ found.unlockLevel ≤ c.level

/-- No level is below the first one, and those entries of the cache that are watched stand. -/
structure Sound (first : UserId → Level) (watched : Key → Prop) (w : World) : Prop where
  first_le : ∀ user, first user ≤ w.firstLevel user
  entries : ∀ key text, watched key → w.cache.get? key.text = some text → w.Stands first key text

/-- The calls that may be made: what is written to the cache stands, no character is moved beyond
the last level, and skins are put on only if they are open. -/
def Permits (first : UserId → Level) (watched : Key → Prop) (w : World) : Call → Prop
  | .store (.incrementLevel _ fromLevel) => fromLevel.next? ≠ none
  | .store (.setActiveSkin user skin) =>
    watched (.level user) → watched .skins → w.OpenTo user skin
  | .cache (.set key text _) => w.Stands first key text
  | _ => True

theorem Sound.attended {watched : Key → Prop} {c : Call} {reply : c.Reply}
    (sound : w.Sound first watched) (may : w.Permits first watched c)
    (h : Attends w c reply w') : w'.Sound first watched ∧ Later w w' := by
  have later : Later w w' := by
    apply h.later
    rintro user fromLevel rfl
    exact may
  refine ⟨⟨?_, ?_⟩, later⟩
  · intro user
    exact Int32.le_trans (sound.first_le user) (later.rises user)
  · intro key text hk he
    rcases h.1.entry he with he | ⟨lifetime, rfl⟩
    · exact (sound.entries key text hk he).later later
    · exact Stands.later may later

/-- The customs of the service, for a watch on some entries of the cache. -/
def customs (first : UserId → Level) (watched : Key → Prop) : Customs Attends where
  good := Sound first watched
  later := Later
  may := Permits first watched
  refl := .refl
  trans := .trans
  keeps := Sound.attended

/-! ## Calls that nothing disturbs -/

theorem Attends.works (w : World) (c : Call) : Attends w c (w.perform c).1 (w.perform c).2 := by
  have fades : w.Fades w := ⟨rfl, fun _ _ h => h⟩
  cases c with
  | store c =>
    refine ⟨.inl ⟨rfl, rfl⟩, ?_⟩
    show (w.store c).2.skins = w.skins
    rw [store_rest]
  | cache c =>
    refine ⟨⟨w, fades, .inl ⟨rfl, rfl⟩⟩, ?_⟩
    show (w.cached c).2.skins = w.skins
    rw [cached_rest]
  | gateway c =>
    unfold Attends Serves perform
    rw [gateway_rest]
    exact ⟨⟨rfl, rfl, rfl⟩, rfl⟩

/-- The questions of this player's level-up are answered so. -/
theorem Attends.someQuestions : Collaborators.GoAlong Attends aPlayer ∅
    Progression.someQuestions aPlayer ∅ := by
  have works := Attends.works aPlayer
  exact .called (works _) (.called (works _) (.called (works _) (.called (works _) .nil)))

end Rehearsal.World

open Rehearsal in
/-- A party makes a call that nothing disturbs. -/
theorem System.Run.performs {ι : Type} [DecidableEq ι] {Answer : ι → Type}
    {s t : System World Answer} {h : History ι} {i : ι} {w : World} {c : Call} {reply : c.Reply}
    {p q : Plan (Answer i)} (run : System.Run World.Attends s h t) (hp : t.plans i = p)
    (hw : t.world = w) (step : p.Step (.called c reply) q) (hr : reply = (w.perform c).1) :
    ∃ t', System.Run World.Attends s (h ++ [(i, .called c reply)]) t' ∧ t'.plans i = q ∧
      t'.world = (w.perform c).2 ∧ ∀ j ≠ i, t'.plans j = t.plans j := by
  subst hw hr
  obtain ⟨t', run, hp, hw, -, rest⟩ := run.called hp step (World.Attends.works t.world c)
  exact ⟨t', run, hp, hw, rest⟩

end Progression
