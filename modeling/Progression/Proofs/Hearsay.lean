-- What is known of levels: by the cache, by those who have been told, and
-- by those who are about to write it down. None of it is ahead of the
-- store, however the parties take their turns and whoever goes away.
import Progression.Proofs.Abiding

namespace Progression

open Rehearsal

/-! ## Who knows a level -/

/-- The cache says that the player is at that level. -/
inductive Rehearsal.World.Caches (w : World) (user : UserId) : Level → Prop
  | level {text : String} {level : Level} (entry : w.cache.get? (Key.level user).text = some text)
      (decodes : decodeText? text = some level) : Caches w user level
  | profile {text : String} {profile : Profile}
      (entry : w.cache.get? (Key.profile user).text = some text)
      (decodes : decodeText? text = some profile) : Caches w user profile.level

/-- Who has done that deed has been told that the player is at that level. -/
inductive Deed.Tells (user : UserId) : Deed → Level → Prop
  | cached {text : String} {level : Level} (decodes : decodeText? text = some level) :
      Tells user (.called (.cache (.get (.level user))) (.ok (some text))) level
  | cachedProfile {text : String} {profile : Profile} (decodes : decodeText? text = some profile) :
      Tells user (.called (.cache (.get (.profile user))) (.ok (some text))) profile.level
  | stored (level : Level) :
      Tells user (.called (.store (.characterLevel user)) (.ok level)) level
  | storedProfile (profile : Profile) :
      Tells user (.called (.store (.characterProfile user)) (.ok profile)) profile.level
  | reached {fromLevel : Level} (level : Level) :
      Tells user (.called (.store (.incrementLevel user fromLevel)) (.ok level)) level

/-- That call writes down that the player is at that level. -/
inductive Call.Writes (user : UserId) : Call → Level → Prop
  | level {text : String} {lifetime : Span} {level : Level}
      (decodes : decodeText? text = some level) :
      Writes user (.cache (.set (.level user) text lifetime)) level
  | profile {text : String} {lifetime : Span} {profile : Profile}
      (decodes : decodeText? text = some profile) :
      Writes user (.cache (.set (.profile user) text lifetime)) profile.level

/-- Somebody knows that the player is at that level: the cache says so, a party has been told so,
or the next call of a party writes it down. -/
inductive System.Knows {ι : Type} {Answer : ι → Type} (h : History ι) (t : System World Answer)
    (user : UserId) (level : Level) : Prop
  | cached (entry : t.world.Caches user level)
  | told {i : ι} {d : Deed} (mem : (i, d) ∈ h) (tells : d.Tells user level)
  | writing {i : ι} {c : Call} {reply : c.Reply} {q : Plan (Answer i)}
      (step : (t.plans i).Step (.called c reply) q) (writes : c.Writes user level)

/-! ## What is known trails the store -/

namespace Rehearsal.World

/-- The entries that tell of levels. -/
def TellsOfLevels : Key → Prop
  | .level _ | .profile _ => True
  | .skins | .prices => False

variable {first : UserId → Level} {w w' : World} {user : UserId} {level : Level}

theorem Sound.caches (sound : w.Sound first TellsOfLevels) (h : w.Caches user level) :
    w.Trails first user level := by
  cases h with
  | level entry decodes => exact sound.entries (.level user) _ trivial entry _ decodes
  | profile entry decodes => exact sound.entries (.profile user) _ trivial entry _ decodes

theorem sound_of_caches (h : ∀ user level, w.Caches user level → w.Trails first user level)
    (first_le : ∀ user, first user ≤ w.firstLevel user) : w.Sound first TellsOfLevels := by
  refine ⟨first_le, ?_⟩
  intro key text hk entry
  cases key with
  | level user => exact fun level hd => h user level (.level entry hd)
  | profile user => exact fun profile hd => h user profile.level (.profile entry hd)
  | skins => cases hk
  | prices => cases hk

/-- What a call tells of a level trails the store. -/
theorem Sound.tells {c : Call} {reply : c.Reply} (sound : w.Sound first TellsOfLevels)
    (may : w.Permits first TellsOfLevels c) (h : Attends w c reply w')
    (tells : Deed.Tells user (.called c reply) level) : w'.Trails first user level := by
  have later := (sound.attended may h).2
  cases tells with
  | cached decodes => exact (sound.caches (.level (CacheReply.got h.1) decodes)).later later
  | cachedProfile decodes =>
    exact (sound.caches (.profile (CacheReply.got h.1) decodes)).later later
  | stored =>
    obtain ⟨rfl, c, hc, rfl⟩ := StoreReply.level h.1
    exact trails_of_get? (sound.first_le user) hc
  | storedProfile =>
    obtain ⟨rfl, c, hc, rfl⟩ := StoreReply.profile h.1
    exact trails_of_get? (sound.first_le user) hc
  | reached => exact h.reached sound may

/-- A level that may be written down trails the store. -/
theorem Permits.writes {c : Call} (may : w.Permits first TellsOfLevels c)
    (writes : c.Writes user level) : w.Trails first user level := by
  cases writes with
  | level decodes => exact may _ decodes
  | profile decodes => exact may _ decodes

end Rehearsal.World

/-- No level that anybody knows is ahead of the store, or behind the level at which the character
was in the beginning or at which it was created, if the cache knew none in the beginning. -/
theorem no_known_level_is_ahead_of_the_store {ι : Type} [DecidableEq ι] {lifetimes : Lifetimes}
    {asks : ι → Question} {start : World} {taken : Set PaymentId} {h : History ι}
    {t : System World fun _ : ι => Option (Except Refusal Json)} {user : UserId} {level : Level}
    (trails : ∀ user level, start.Caches user level → start.Trails start.firstLevel user level)
    (traffic : System.Traffic World.Attends (.serving lifetimes asks start taken) h t)
    (knows : System.Knows h t user level) :
    start.firstLevel user ≤ level ∧
      ∃ c, t.world.characters.get? user = some c ∧ level ≤ c.level := by
  let customs := World.customs start.firstLevel World.TellsOfLevels
  have good : customs.good start := by
    apply World.sound_of_caches trails
    exact fun user => Int32.le_refl _
  have obeys (i : ι) : (((asks i).plan lifetimes).map some).Obeys customs (fun _ _ => True)
      start := Plan.Obeys.map (asks i).obeys
  have orderly := traffic.orderly good obeys
  have known : t.world.Trails start.firstLevel user level := by
    cases knows with
    | cached entry => exact orderly.good.caches entry
    | @told i d mem tells =>
      apply traffic.lasting (fun d w => d.Tells user level → w.Trails start.firstLevel user level)
        good obeys ?_ ?_ ?_ i d mem tells
      · intro w w' c reply sound may attends tells
        exact sound.tells may attends tells
      · intro payment w tells
        cases tells
      · intro d u v later old tells
        exact (old tells).later later
    | writing step writes => exact (orderly.may step).writes writes
  exact ⟨known.first_le, known.has⟩

/-- A level-up knows the level that it has just reached, and so does its next entry in the cache. A
caller who wants to see the profile has gone away. -/
theorem a_level_about_to_be_cached_is_in_the_store :
    ∃ h t, System.Traffic World.Attends (.serving ⟨.ofSeconds 300, .ofSeconds 3600⟩
        (fun climbs : Bool => if climbs then .levelUp 7 else .profile 7) aPlayer ∅) h t ∧
      t.plans false = .done none ∧ System.Knows h t 7 2 ∧
      aPlayer.firstLevel 7 ≤ 2 ∧ ∃ c, t.world.characters.get? 7 = some c ∧ 2 ≤ c.level := by
  open LevelUp Standing in
  let lifetimes : Lifetimes := ⟨.ofSeconds 300, .ofSeconds 3600⟩
  let start := System.serving lifetimes
    (fun climbs : Bool => if climbs then .levelUp 7 else .profile 7) aPlayer ∅
  have nothing : System.Run World.Attends start [] start := .start
  have asked : start.plans true = (Service.levelUp lifetimes 7).map
      fun result => some (result.map LevelUpOutcome.summary) := Plan.map_map ..
  obtain ⟨_, run, hp, hw, ht, rest⟩ := nothing.inquires asked World.Attends.someQuestions
  have idle := rest false (by simp)
  have fresh : ⟨1⟩ ∉ (∅ : Set PaymentId) := by simp
  obtain ⟨_, run, hp, hw', -, rest⟩ := run.takes hp ((Next.take ⟨1⟩).step.map _) (by rwa [ht])
  have idle := (rest false (by simp)).trans idle
  have hw : _ = aPlayer := hw'.trans hw
  obtain ⟨_, run, hp, hw, rest⟩ := run.performs hp hw (Next.reserved.step.map _) rfl
  have idle := (rest false (by simp)).trans idle
  obtain ⟨_, run, hp, hw, rest⟩ := run.performs hp hw ((Next.advanced 2).step.map _) rfl
  have idle := (rest false (by simp)).trans idle
  obtain ⟨t, run, hp, hw, rest⟩ := run.performs hp hw ((Next.spent (.ok ())).step.map _) rfl
  have idle := (rest false (by simp)).trans idle
  have traffic := run.traffic.leave false
  have gone : (t.leave false).plans false = .done none := by
    rw [System.leave_plan_self, idle]
    exact Plan.abandoned_of_alone trivial
  have keep : Next lifetimes 7 (.commit aDeal (.keep ⟨2, false⟩))
      (.called (.cache (.set (.level 7) (encodeText (2 : Level)) lifetimes.entries)) (.ok ()))
      (.commit aDeal (.dropProfile ⟨2, false⟩)) := .kept (.ok ())
  have knows (h : History Bool) : System.Knows h (t.leave false) 7 2 := by
    have step := hp ▸ keep.step.map fun result => some (result.map LevelUpOutcome.summary)
    rw [← System.leave_plan_of_ne t (j := true) (by simp : true ≠ false)] at step
    exact .writing step (.level (kept_int32 2).decodeText?)
  have trails : ∀ user level, aPlayer.Caches user level →
      aPlayer.Trails aPlayer.firstLevel user level := by
    intro user level caches
    cases caches with
    | level entry decodes =>
      rcases aPlayer_entry entry with ⟨hk, rfl⟩ | ⟨hk, -⟩
      · cases hk
        cases decodes
        exact ⟨Int32.le_refl _, ⟨1, 1⟩, rfl, Int32.le_refl _⟩
      · cases hk
    | profile entry decodes => rcases aPlayer_entry entry with ⟨hk, -⟩ | ⟨hk, -⟩ <;> cases hk
  exact ⟨_, _, traffic, gone, knows _,
    no_known_level_is_ahead_of_the_store trails traffic (knows _)⟩

end Progression
