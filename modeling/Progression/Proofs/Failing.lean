-- A store and a cache held in memory, which may fail. A store call that
-- fails changes nothing. A cache may lose entries at any time, and what
-- it is told may take effect or not when it fails.
import Mathlib
import Progression.Proofs.JsonRoundTrip
import Progression.Proofs.Settlement

namespace Progression

/-! ## No two keys share an entry -/

theorem Key.text_inj {k l : Key} (h : k.text = l.text) : k = l := by
  have user {u v : UserId} (h : (toString u).toList = (toString v).toList) : u = v :=
    Int64.toInt.inj (Int.repr_injective (String.toList_inj.mp h))
  have hl := congrArg String.toList h
  cases k <;> cases l <;> simp [Key.text] at hl ⊢
  · exact user hl
  · exact user hl

namespace Rehearsal.World

/-! ## The store -/

/-- A store does its work, or it fails and changes nothing. -/
def StoreReply (w : World) (c : StoreCall) (reply : Except StoreFault c.Answer) (w' : World) :
    Prop :=
  reply = (w.store c).1 ∧ w' = (w.store c).2 ∨ (∃ fault, reply = .error fault) ∧ w' = w

variable {w w' : World}

theorem character_ok {user : UserId} {c : Character} :
    w.character user = .ok c ↔ w.characters.get? user = some c := by
  unfold character
  cases w.characters.get? user <;> simp

/-- The store tells the level at which a character is. -/
theorem StoreReply.level {user : UserId} {level : Level}
    (h : StoreReply w (.characterLevel user) (.ok level) w') :
    w' = w ∧ ∃ c, w.characters.get? user = some c ∧ c.level = level := by
  rcases h with ⟨hr, hw⟩ | ⟨⟨fault, hr⟩, -⟩
  · refine ⟨hw, ?_⟩
    simp only [store] at hr
    cases hc : w.character user with
    | error => rw [hc] at hr; cases hr
    | ok c =>
      rw [hc] at hr
      exact ⟨c, character_ok.mp hc, (Except.ok.inj hr).symm⟩
  · cases hr

theorem StoreReply.prices {prices : List LevelPrice}
    (h : StoreReply w .allPrices (.ok prices) w') : w' = w ∧ prices = w.prices := by
  rcases h with ⟨hr, hw⟩ | ⟨⟨fault, hr⟩, -⟩
  · exact ⟨hw, Except.ok.inj hr⟩
  · cases hr

/-- A character moves up from the level at which it is, and nothing else changes. -/
theorem StoreReply.increment {user : UserId} {fromLevel level : Level}
    (h : StoreReply w (.incrementLevel user fromLevel) (.ok level) w') :
    level = fromLevel + 1 ∧ ∃ c, w.characters.get? user = some c ∧ c.level = fromLevel ∧
      w' = w.putCharacter user { c with level } := by
  rcases h with ⟨hr, rfl⟩ | ⟨⟨fault, hr⟩, -⟩
  · simp only [store, World.increment] at hr ⊢
    cases hc : w.character user with
    | error => simp [hc] at hr
    | ok c =>
      simp only [hc] at hr ⊢
      split at hr
      · rename_i hl
        cases hr
        exact ⟨by rw [hl], c, character_ok.mp hc, hl, by simp [hl]⟩
      · cases hr
  · cases hr

/-- A character that is not moved up stays as it is. -/
theorem StoreReply.stays {user : UserId} {fromLevel : Level} {fault : StoreFault}
    (h : StoreReply w (.incrementLevel user fromLevel) (.error fault) w') : w' = w := by
  rcases h with ⟨hr, rfl⟩ | ⟨-, rfl⟩
  · simp only [store, World.increment] at hr ⊢
    cases hc : w.character user with
    | error => rfl
    | ok c =>
      simp only [hc] at hr ⊢
      split at hr
      · cases hr
      · rw [if_neg ‹_›]
  · rfl

/-! ## The cache -/

/-- Some entries of the cache may be gone, and nothing else has changed. -/
structure Fades (w v : World) : Prop where
  rest : v = { w with cache := v.cache }
  entries : ∀ key text, v.cache.get? key = some text → w.cache.get? key = some text

/-- A cache may forget entries. Then it does its work, or it fails, and what it was told may have
taken effect all the same. -/
def CacheReply (w : World) (c : CacheCall) (reply : Except CacheFault c.Answer) (w' : World) :
    Prop :=
  ∃ v, w.Fades v ∧ (reply = (v.cached c).1 ∧ w' = (v.cached c).2 ∨
    (∃ fault, reply = .error fault) ∧ (w' = v ∨ w' = (v.cached c).2))

theorem cached_rest (v : World) (c : CacheCall) :
    (v.cached c).2 = { v with cache := (v.cached c).2.cache } := by
  cases c <;> rfl

/-- A cache call changes the cache only. -/
theorem CacheReply.rest {c : CacheCall} {reply : Except CacheFault c.Answer}
    (h : CacheReply w c reply w') : w' = { w with cache := w'.cache } := by
  obtain ⟨v, fades, ⟨-, rfl⟩ | ⟨-, rfl | rfl⟩⟩ := h
  · rw [cached_rest v c, fades.rest]
  · exact fades.rest
  · rw [cached_rest v c, fades.rest]

/-- The cache gives no text but the entry of the key. -/
theorem CacheReply.got {key : Key} {text : String}
    (h : CacheReply w (.get key) (.ok (some text)) w') : w.cache.get? key.text = some text := by
  obtain ⟨v, fades, ⟨hr, -⟩ | ⟨⟨fault, hr⟩, -⟩⟩ := h
  · exact fades.entries _ _ (Except.ok.inj hr).symm
  · cases hr

/-- An entry of a cache that does its work was there before, or it has just been written. -/
theorem cached_entry {v : World} {c : CacheCall} {key : Key} {text : String}
    (he : (v.cached c).2.cache.get? key.text = some text) :
    v.cache.get? key.text = some text ∨ ∃ lifetime, c = .set key text lifetime := by
  cases c with
  | get => exact .inl he
  | set k t lifetime =>
    by_cases hk : key = k
    · subst hk
      rw [cached, Table.get?_put_self] at he
      cases he
      exact .inr ⟨lifetime, rfl⟩
    · rw [cached, Table.get?_put_of_ne _ _ fun ht => hk (Key.text_inj ht)] at he
      exact .inl he
  | invalidate k =>
    by_cases hk : key = k
    · subst hk
      rw [cached, Table.get?_erase_self] at he
      cases he
    · rw [cached, Table.get?_erase_of_ne _ fun ht => hk (Key.text_inj ht)] at he
      exact .inl he

/-- An entry of the cache was there before, or it has just been written. -/
theorem CacheReply.entry {c : CacheCall} {reply : Except CacheFault c.Answer} {key : Key}
    {text : String} (h : CacheReply w c reply w') (he : w'.cache.get? key.text = some text) :
    w.cache.get? key.text = some text ∨ ∃ lifetime, c = .set key text lifetime := by
  obtain ⟨v, fades, hv⟩ := h
  rcases hv with ⟨-, rfl⟩ | ⟨-, rfl | rfl⟩
  · exact (cached_entry he).imp_left (fades.entries _ _)
  · exact .inl (fades.entries _ _ he)
  · exact (cached_entry he).imp_left (fades.entries _ _)

/-! ## Both of them -/

/-- What a call does to the store and the cache. The gateway has neither. -/
def Serves (w : World) : (c : Call) → c.Reply → World → Prop
  | .store c, reply, w' => w.StoreReply c reply w'
  | .cache c, reply, w' => w.CacheReply c reply w'
  | .gateway _, _, w' =>
    w'.characters = w.characters ∧ w'.prices = w.prices ∧ w'.cache = w.cache

/-- A store call changes the characters only. -/
theorem store_rest (w : World) (c : StoreCall) :
    (w.store c).2 = { w with characters := (w.store c).2.characters } := by
  cases c with
  | createCharacter | setActiveSkin =>
    simp only [store]
    split <;> rfl
  | incrementLevel =>
    simp only [store, World.increment]
    split
    · rfl
    · split <;> rfl
  | _ => rfl

/-- A call to the gateway changes the accounts and the reservations only. -/
theorem gateway_rest (w : World) (c : GatewayCall) : (w.gateway c).2 = { w with
    accounts := (w.gateway c).2.accounts, reserved := (w.gateway c).2.reserved } := by
  cases c with
  | finalize payment spend =>
    simp only [World.gateway, World.settle]
    split
    · rfl
    · split <;> rfl
  | _ => rfl

theorem Serves.prices {c : Call} {reply : c.Reply} (h : Serves w c reply w') :
    w'.prices = w.prices := by
  cases c with
  | store c =>
    rcases h with ⟨-, rfl⟩ | ⟨-, rfl⟩
    · rw [store_rest]
    · rfl
  | cache c => rw [CacheReply.rest h]
  | gateway => exact h.2.1

/-- An entry of the cache was there before, or it has just been written. -/
theorem Serves.entry {c : Call} {reply : c.Reply} {key : Key} {text : String}
    (h : Serves w c reply w') (he : w'.cache.get? key.text = some text) :
    w.cache.get? key.text = some text ∨ ∃ lifetime, c = .cache (.set key text lifetime) := by
  cases c with
  | store c =>
    rcases h with ⟨-, rfl⟩ | ⟨-, rfl⟩
    · rw [store_rest] at he
      exact .inl he
    · exact .inl he
  | cache c =>
    refine (CacheReply.entry h he).imp_right ?_
    rintro ⟨lifetime, rfl⟩
    exact ⟨lifetime, rfl⟩
  | gateway =>
    rw [h.2.2] at he
    exact .inl he

/-- All price lists that can be had from the store and the cache are of that kind. -/
structure Offers (kind : PriceList → Prop) (w : World) : Prop where
  stored : kind (.ofPrices w.prices)
  cached : ∀ text list, w.cache.get? Key.prices.text = some text →
    decodeText? text = some list → kind list

variable {kind : PriceList → Prop}

theorem Offers.next {c : Call} {reply : c.Reply} (offers : Offers kind w)
    (h : Serves w c reply w') (wrote : ∀ text lifetime list,
      c = .cache (.set .prices text lifetime) → decodeText? text = some list → kind list) :
    Offers kind w' where
  stored := h.prices ▸ offers.stored
  cached text list he hd := by
    rcases h.entry he with he | ⟨lifetime, hc⟩
    · exact offers.cached text list he hd
    · exact wrote text lifetime list hc hd

/-- What a reader of the prices is told is of that kind. -/
theorem Offers.told {lifetimes : Lifetimes} {ds : List Deed} {c : Call} {reply : c.Reply}
    {list : PriceList} (offers : Offers kind w) (h : Serves w c reply w')
    (old : ∀ list, (Source.prices lifetimes).Told ds list → kind list)
    (told : (Source.prices lifetimes).Told (ds ++ [.called c reply]) list) : kind list := by
  rcases told with ⟨text, hm, hd⟩ | ⟨prices, hm, rfl⟩
  · rcases List.mem_append.mp hm with hm | hm
    · exact old list (.inl ⟨text, hm, hd⟩)
    · cases List.mem_singleton.mp hm
      exact offers.cached text list (CacheReply.got h) hd
  · rcases List.mem_append.mp hm with hm | hm
    · exact old _ (.inr ⟨prices, hm, rfl⟩)
    · cases List.mem_singleton.mp hm
      rw [(StoreReply.prices h).2]
      exact offers.stored

end Rehearsal.World

end Progression
