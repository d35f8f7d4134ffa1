-- A cache that mends. If nobody but the service writes levels, and what
-- the service writes to the cache takes effect, then a level in the cache
-- that is the level in the store stays so between any two questions.
import Progression.Proofs.Failing
import Progression.Proofs.Telling

namespace Progression

open Rehearsal

namespace Rehearsal.World

/-! ## The collaborators -/

/-- The level at which the store has the character of a player. -/
def level? (w : World) (user : UserId) : Option Level :=
  (w.characters.get? user).map Character.level

/-- What others may do at any time: anything but write a level. A level in the cache may be gone. -/
structure SparesLevels (w v : World) : Prop where
  stored : ∀ user, v.level? user = w.level? user
  cached : ∀ user text, v.cache.get? (Key.level user).text = some text →
    w.cache.get? (Key.level user).text = some text

/-- A store that does its work, or fails and changes nothing; a conflict that it reports is one. A
cache that does its work, though a read may fail. A gateway that replies anything. -/
def Mends : Collaborators World
  | w, .store c, reply, w' => ∃ v, w.SparesLevels v ∧
    (reply = (v.store c).1 ∧ w' = (v.store c).2 ∨
      ∃ fault, (∀ user expected, fault ≠ .levelMoved user expected) ∧
        reply = .error fault ∧ w' = v)
  | w, .cache c, reply, w' => ∃ v, w.SparesLevels v ∧
    (reply = (v.cached c).1 ∧ w' = (v.cached c).2 ∨
      (∃ key, c = .get key) ∧ (∃ fault, reply = .error fault) ∧ w' = v)
  | w, .gateway _, _, w' => w.SparesLevels w'

/-- The cache has no level for the player, or it has the one in the store. -/
def Healed (w : World) (user : UserId) : Prop :=
  ∀ text level, w.cache.get? (Key.level user).text = some text → decodeText? text = some level →
    w.level? user = some level

variable {w v w' : World} {user : UserId} {level fromLevel : Level}

/-! ## What a call does to a level -/

theorem level?_putCharacter (w : World) (u : UserId) (c : Character) :
    (w.putCharacter u c).level? user = if user = u then some c.level else w.level? user := by
  unfold level? putCharacter
  rw [Table.get?_put]
  by_cases hu : user = u
  · simp [hu]
  · simp [hu]

theorem level?_eq_some : w.level? user = some level ↔
    ∃ c, w.characters.get? user = some c ∧ c.level = level := Option.map_eq_some_iff

/-- Only a step up changes the level of a character. -/
theorem level?_store {c : StoreCall} (hc : ∀ fromLevel, c ≠ .incrementLevel user fromLevel)
    (hl : v.level? user = some level) : (v.store c).2.level? user = some level := by
  obtain ⟨ch, hch, rfl⟩ := level?_eq_some.mp hl
  cases c with
  | createCharacter u =>
    by_cases hu : user = u
    · subst hu
      simpa [store, hch] using hl
    · simp only [store]
      split
      · exact hl
      · rw [level?_putCharacter, if_neg hu]
        exact hl
  | setActiveSkin u skin =>
    by_cases hu : user = u
    · subst hu
      simp [store, character, hch, level?_putCharacter]
    · simp only [store]
      split
      · exact hl
      · rw [level?_putCharacter, if_neg hu]
        exact hl
  | incrementLevel u fromLevel =>
    have hu : user ≠ u := by
      rintro rfl
      exact hc fromLevel rfl
    simp only [store, increment]
    split
    · exact hl
    · split
      · rw [level?_putCharacter, if_neg hu]
        exact hl
      · exact hl
  | _ => exact hl

theorem Mends.level? {c : Call} {reply : c.Reply} (h : Mends w c reply w')
    (hc : ∀ fromLevel, c ≠ .store (.incrementLevel user fromLevel))
    (hl : w.level? user = some level) : w'.level? user = some level := by
  cases c with
  | gateway c => rw [h.stored, hl]
  | cache c =>
    obtain ⟨v, spares, ⟨-, rfl⟩ | ⟨-, -, rfl⟩⟩ := h
    · rw [World.cached_rest v c]
      exact (spares.stored user).trans hl
    · exact (spares.stored user).trans hl
  | store c =>
    obtain ⟨v, spares, ⟨-, rfl⟩ | ⟨-, -, -, rfl⟩⟩ := h
    · apply level?_store
      · rintro fromLevel rfl
        exact hc fromLevel rfl
      · exact (spares.stored user).trans hl
    · exact (spares.stored user).trans hl

/-- An entry for a level was there before, or it has just been written. -/
theorem Mends.entry {c : Call} {reply : c.Reply} {text : String} (h : Mends w c reply w')
    (he : w'.cache.get? (Key.level user).text = some text) :
    w.cache.get? (Key.level user).text = some text ∨
      ∃ lifetime, c = .cache (.set (.level user) text lifetime) := by
  cases c with
  | gateway c => exact .inl (h.cached user text he)
  | store c =>
    obtain ⟨v, spares, ⟨-, rfl⟩ | ⟨-, -, -, rfl⟩⟩ := h
    · rw [World.store_rest] at he
      exact .inl (spares.cached user text he)
    · exact .inl (spares.cached user text he)
  | cache c =>
    obtain ⟨v, spares, ⟨-, rfl⟩ | ⟨-, -, rfl⟩⟩ := h
    · rcases World.cached_entry he with he | ⟨lifetime, rfl⟩
      · exact .inl (spares.cached user text he)
      · exact .inr ⟨lifetime, rfl⟩
    · exact .inl (spares.cached user text he)

/-- A turn that moves no character up leaves the cache healed, unless it writes another level than
the one in the store. -/
theorem Healed.turn {c : Call} {reply : c.Reply} (healed : w.Healed user)
    (h : Mends w c reply w') (hc : ∀ fromLevel, c ≠ .store (.incrementLevel user fromLevel))
    (wrote : ∀ text lifetime level, c = .cache (.set (.level user) text lifetime) →
      decodeText? text = some level → w.level? user = some level) : w'.Healed user := by
  intro text level he hd
  rcases h.entry he with he | ⟨lifetime, hw⟩
  · exact h.level? hc (healed text level he hd)
  · exact h.level? hc (wrote text lifetime level hw hd)

theorem Healed.quiet {c : Call} {reply : c.Reply} (healed : w.Healed user)
    (h : Mends w c reply w') (hc : ∀ fromLevel, c ≠ .store (.incrementLevel user fromLevel))
    (hs : ∀ text lifetime, c ≠ .cache (.set (.level user) text lifetime)) : w'.Healed user := by
  apply healed.turn h hc
  intro text lifetime level hw
  exact absurd hw (hs text lifetime)

/-- What others do in between keeps the cache healed. -/
theorem SparesLevels.healed (h : w.SparesLevels v) (healed : w.Healed user) : v.Healed user := by
  intro text level he hd
  rw [h.stored]
  exact healed text level (h.cached user text he) hd

/-- The level in the store heals the cache when it is written there. -/
theorem Mends.wrote {text : String} {lifetime : Span} {reply : Except CacheFault Unit}
    (h : Mends w (.cache (.set (.level user) text lifetime)) reply w')
    (hl : ∀ level, decodeText? text = some level → w.level? user = some level) :
    w'.Healed user := by
  obtain ⟨v, spares, ⟨-, rfl⟩ | ⟨⟨key, hc⟩, -⟩⟩ := h
  · intro found level he hd
    rw [cached, Table.get?_put_self] at he
    cases he
    exact (spares.stored user).trans (hl level hd)
  · cases hc

/-! ## What the collaborators say of a level -/

theorem Mends.loaded (h : Mends w (.store (.characterLevel user)) (.ok level) w') :
    w'.level? user = some level := by
  obtain ⟨v, -, ⟨hr, rfl⟩ | ⟨fault, -, hr, -⟩⟩ := h
  · obtain ⟨-, c, hc, hl⟩ := StoreReply.level (.inl ⟨hr, rfl⟩)
    exact level?_eq_some.mpr ⟨c, hc, hl⟩
  · cases hr

theorem Mends.got {text : String}
    (h : Mends w (.cache (.get (.level user))) (.ok (some text)) w') :
    w.cache.get? (Key.level user).text = some text := by
  obtain ⟨v, spares, ⟨hr, -⟩ | ⟨-, ⟨fault, hr⟩, -⟩⟩ := h
  · exact spares.cached user text (Except.ok.inj hr).symm
  · cases hr

/-- What a player's level is said to be is what it is, by a healed cache or by the store. -/
theorem Mends.told {lifetimes : Lifetimes} {c : Call} {reply : c.Reply} (h : Mends w c reply w')
    (healed : w.Healed user)
    (told : (Source.level lifetimes user).Told [.called c reply] level) :
    w'.level? user = some level := by
  rcases told with ⟨text, hm, hd⟩ | ⟨answer, hm, rfl⟩
  · cases List.mem_singleton.mp hm
    apply h.level? nofun
    exact healed text level (Mends.got h) hd
  · cases List.mem_singleton.mp hm
    exact h.loaded

/-- Only a step up meets a conflict. -/
theorem Mends.no_conflict {c : StoreCall} {fault : StoreFault}
    (h : Mends w (.store c) (.error fault) w')
    (hc : ∀ user fromLevel, c ≠ .incrementLevel user fromLevel) (u : UserId) (expected : Level) :
    fault ≠ .levelMoved u expected := by
  obtain ⟨v, -, ⟨hr, -⟩ | ⟨fault', hf, hr, -⟩⟩ := h
  · rintro rfl
    cases c with
    | incrementLevel user fromLevel => exact hc user fromLevel rfl
    | allSkins | allPrices => cases hr
    | createCharacter u =>
      simp only [store] at hr
      split at hr <;> cases hr
    | characterLevel u | characterProfile u | setActiveSkin u =>
      simp only [store, character] at hr
      cases hg : v.characters.get? u with
      | none =>
        rw [hg] at hr
        cases hr
      | some c =>
        rw [hg] at hr
        cases hr
  · cases hr
    exact hf u expected

theorem Mends.reached (h : Mends w (.store (.incrementLevel user fromLevel)) (.ok level) w') :
    w'.level? user = some level := by
  obtain ⟨v, -, ⟨hr, rfl⟩ | ⟨fault, -, hr, -⟩⟩ := h
  · obtain ⟨-, c, -, -, hw⟩ := StoreReply.increment (.inl ⟨hr, rfl⟩)
    rw [hw, level?_putCharacter, if_pos rfl]
  · cases hr

/-- A step up from the level in the store meets no conflict. -/
theorem Mends.stays {fault : StoreFault}
    (h : Mends w (.store (.incrementLevel user fromLevel)) (.error fault) w')
    (hl : w.level? user = some fromLevel) :
    (∀ u expected, fault ≠ .levelMoved u expected) ∧ w.SparesLevels w' := by
  obtain ⟨v, spares, ⟨hr, -⟩ | ⟨fault', hf, hr, rfl⟩⟩ := h
  · obtain ⟨c, hc, rfl⟩ := level?_eq_some.mp ((spares.stored user).trans hl)
    simp [store, increment, character, hc] at hr
  · cases hr
    exact ⟨hf, spares⟩

end Rehearsal.World

end Progression
