-- The service answers as one without a cache would: it reads the store
-- afresh for each question. What the cache holds is what the store would
-- tell, and every question keeps it so.
import Progression.Proofs.Abiding
import Progression.Proofs.Calm

namespace Progression

open Rehearsal

namespace Rehearsal

/-! ## A service without a cache -/

namespace World

/-- The world without its cache, and without the coins that are reserved. -/
def bare (w : World) : World := { w with cache := .empty, reserved := .empty }

/-- What is seen of the character of a player, if there is one. -/
def look {α : Type} (w : World) (user : UserId) (f : Character → α) : Except Refusal α :=
  match w.characters.get? user with
  | none => .error (.noCharacter user)
  | some c => .ok (f c)

/-- The skins as a player of that level sees them. -/
def skinsAt (w : World) (level : Level) : SkinList := SkinList.seenAt level ⟨w.skins⟩

/-- The character of a player is one level higher. -/
def lift (w : World) (user : UserId) (c : Character) : World :=
  w.putCharacter user { c with level := c.level + 1 }

/-- The account of a player has that balance. -/
def setBalance (w : World) (user : UserId) (a : Account) (balance : Coins) : World :=
  { w with accounts := w.accounts.put user { a with balance } }

/-- How a level-up without a cache ends for a character and the price of its next level. -/
def buyLevel (w : World) (user : UserId) (c : Character) (price : LevelPrice) :
    Except Refusal LevelUpOutcome × World :=
  match w.accounts.get? user with
  | none => (.error (.payment (.rejected "get_coins_balance" 404 "user not found")), w)
  | some a =>
    if price.coins ≤ a.balance then
      (.ok ⟨c.level + 1, a.balance - price.coins, false⟩,
        (w.lift user c).setBalance user a (a.balance - price.coins))
    else if price.referralsToOpen ≤ a.referrals then
      (.ok ⟨c.level + 1, a.balance, false⟩, w.lift user c)
    else
      (.error (.tooPoor price.level price.coins a.balance price.referralsToOpen a.referrals), w)

/-- A level-up without a cache. -/
def levelUp (w : World) (user : UserId) : Except Refusal LevelUpOutcome × World :=
  match w.characters.get? user with
  | none => (.error (.levelUnknown (.noCharacter user)), w)
  | some c =>
    match (PriceList.ofPrices w.prices).priceFor? (c.level + 1) with
    | none => (.error (.topLevel c.level), w)
    | some price => w.buyLevel user c price

/-- A change of skin without a cache. -/
def changeSkin (w : World) (user : UserId) (skin : SkinId) : Except Refusal Unit × World :=
  match w.characters.get? user with
  | none => (.error (.noCharacter user), w)
  | some c =>
    match w.skins.find? fun skin' => skin'.id == skin with
    | none => (.error (.noSkin skin), w)
    | some found =>
      if found.unlockLevel ≤ c.level then (.ok (), w.putCharacter user { c with skin })
      else (.error (.skinLocked skin), w)

/-- A character is created, unless there is one. -/
def create (w : World) (user : UserId) : World :=
  match w.characters.get? user with
  | none => w.putCharacter user newCharacter
  | some _ => w

end World

/-- What a service without a cache answers to a question, and the world after it. -/
def Question.uncached (w : World) : Question → Except Refusal Json × World
  | .create user => (.ok .null, w.create user)
  | .level user => ((w.look user Character.level).map encode, w)
  | .profile user => ((w.look user w.profileOf).map encode, w)
  | .skins user => ((w.look user fun c => w.skinsAt c.level).map encode, w)
  | .prices => (.ok (encode (PriceList.ofPrices w.prices)), w)
  | .changeSkin user skin =>
    ((w.changeSkin user skin).1.map fun _ => .null, (w.changeSkin user skin).2)
  | .levelUp user => ((w.levelUp user).1.map LevelUpOutcome.summary, (w.levelUp user).2)

/-- The answers of a service without a cache to questions one after another, each with the world
after it. -/
def World.uncached (w : World) : List Question → List (Except Refusal Json × World)
  | [] => []
  | question :: questions => question.uncached w :: World.uncached (question.uncached w).2 questions

/-! ## It never looks at a cache -/

namespace World

theorem create_bare (w : World) (user : UserId) : w.bare.create user = (w.create user).bare := by
  unfold create bare
  dsimp only
  split <;> rfl

theorem changeSkin_bare (w : World) (user : UserId) (skin : SkinId) :
    w.bare.changeSkin user skin
      = ((w.changeSkin user skin).1, (w.changeSkin user skin).2.bare) := by
  unfold changeSkin bare
  dsimp only
  split
  · rfl
  · split
    · rfl
    · split <;> rfl

theorem buyLevel_bare (w : World) (user : UserId) (c : Character) (price : LevelPrice) :
    w.bare.buyLevel user c price
      = ((w.buyLevel user c price).1, (w.buyLevel user c price).2.bare) := by
  unfold buyLevel bare
  dsimp only
  split
  · rfl
  · split
    · rfl
    · split <;> rfl

theorem levelUp_bare (w : World) (user : UserId) :
    w.bare.levelUp user = ((w.levelUp user).1, (w.levelUp user).2.bare) := by
  have buys := w.buyLevel_bare user
  unfold levelUp bare at *
  dsimp only at *
  split
  · rfl
  · split
    · rfl
    · exact buys ..

end World

theorem Question.uncached_bare (question : Question) (w : World) :
    question.uncached w.bare = ((question.uncached w).1, (question.uncached w).2.bare) := by
  cases question with
  | create user => simp only [uncached, World.create_bare]
  | changeSkin user skin => simp only [uncached, World.changeSkin_bare]
  | levelUp user => simp only [uncached, World.levelUp_bare]
  | level | profile | skins | prices => rfl

/-! ## Bounds -/

/-- No character and no price is at the largest level, and no price is below nothing. -/
structure World.Bounded (w : World) : Prop where
  levels : ∀ user c, w.characters.get? user = some c → c.level < Int32.maxValue
  prices : ∀ price ∈ w.prices, price.level < Int32.maxValue ∧ 0 ≤ price.coins

namespace World.Bounded

variable {w w' : World} {user : UserId} {c : Character}

theorem of_bare (h : w.Bounded) (bare : w'.bare = w.bare) : w'.Bounded := by
  have plain : w.bare.Bounded := ⟨h.levels, h.prices⟩
  rw [← bare] at plain
  exact ⟨plain.levels, plain.prices⟩

theorem put (h : w.Bounded) (characters : w'.characters = w.characters.put user c)
    (prices : w'.prices = w.prices) (below : c.level < Int32.maxValue) : w'.Bounded := by
  refine ⟨?_, prices ▸ h.prices⟩
  intro other c' hc'
  rw [characters, Table.get?_put] at hc'
  split at hc'
  · cases hc'
    exact below
  · exact h.levels other c' hc'

theorem create (h : w.Bounded) (user : UserId) : (w.create user).Bounded := by
  unfold World.create
  split
  · exact h.put (c := newCharacter) rfl rfl (by decide)
  · exact h

theorem changeSkin (h : w.Bounded) (user : UserId) (skin : SkinId) :
    (w.changeSkin user skin).2.Bounded := by
  unfold World.changeSkin
  split
  · exact h
  · rename_i c hc
    split
    · exact h
    · split
      · exact h.put (c := { c with skin }) rfl rfl (h.levels user c hc)
      · exact h

theorem buyLevel (h : w.Bounded) (user : UserId) (c : Character) (price : LevelPrice)
    (below : c.level + 1 < Int32.maxValue) : (w.buyLevel user c price).2.Bounded := by
  have lifted : (w.lift user c).Bounded :=
    h.put (c := { c with level := c.level + 1 }) rfl rfl below
  unfold World.buyLevel
  split
  · exact h
  · split
    · exact ⟨lifted.levels, lifted.prices⟩
    · split
      · exact lifted
      · exact h

/-- A level that has a price is below the largest one. -/
theorem levelUp (h : w.Bounded) (user : UserId) : (w.levelUp user).2.Bounded := by
  unfold World.levelUp
  split
  · exact h
  · rename_i c _
    split
    · exact h
    · rename_i price hp
      have listed := PriceList.mem_ofPrices.mp (PriceList.mem_of_priceFor? hp)
      have level : price.level = c.level + 1 := by simpa using List.find?_some hp
      exact h.buyLevel user c price (level ▸ (h.prices price listed).1)

theorem uncached (h : w.Bounded) (question : Question) : (question.uncached w).2.Bounded := by
  cases question with
  | create user => exact h.create user
  | changeSkin user skin => exact h.changeSkin user skin
  | levelUp user => exact h.levelUp user
  | level | profile | skins | prices => exact h

end World.Bounded

/-! ## What the cache holds -/

namespace World

/-- The text that the store would have the entry of a key say. -/
def text? (w : World) : Key → Option String
  | .level user => (w.characters.get? user).map fun c => encodeText c.level
  | .profile user => (w.characters.get? user).map fun c => encodeText (w.profileOf c)
  | .skins => some (encodeText (SkinList.mk w.skins))
  | .prices => some (encodeText (PriceList.ofPrices w.prices))

/-- The entries of the cache say what the store would have them say. -/
def Coherent (w : World) : Prop :=
  ∀ key text, w.cache.get? key.text = some text → w.text? key = some text

theorem text?_of_bare {w w' : World} (h : w'.bare = w.bare) (key : Key) :
    w'.text? key = w.text? key := by
  show w'.bare.text? key = w.bare.text? key
  rw [h]

/-- An entry may be written as the store would have it. -/
theorem Coherent.set {w w' : World} {key : Key} {text : String} (h : w.Coherent)
    (bare : w'.bare = w.bare) (cache : w'.cache = w.cache.put key.text text)
    (told : w.text? key = some text) : w'.Coherent := by
  intro other text' he
  rw [text?_of_bare bare]
  rw [cache, Table.get?_put] at he
  by_cases ho : other.text = key.text
  · rw [if_pos ho] at he
    cases he
    rw [Key.text_inj ho]
    exact told
  · rw [if_neg ho] at he
    exact h other text' he

/-- The character of a player may change if the profile leaves the cache, and the entry of the
level, if there is one, says the new level. -/
theorem Coherent.put {w w' : World} {user : UserId} {c : Character} (h : w.Coherent)
    (characters : w'.characters = w.characters.put user c) (skins : w'.skins = w.skins)
    (prices : w'.prices = w.prices) (profile : w'.cache.get? (Key.profile user).text = none)
    (level : ∀ text, w'.cache.get? (Key.level user).text = some text → text = encodeText c.level)
    (others : ∀ (key : Key) (text : String), key ≠ .level user →
      w'.cache.get? key.text = some text → w.cache.get? key.text = some text) :
    w'.Coherent := by
  have get (u : UserId) : w'.characters.get? u
      = if u = user then some c else w.characters.get? u := by rw [characters, Table.get?_put]
  intro key text he
  cases key with
  | level u =>
    show (w'.characters.get? u).map _ = some text
    by_cases hu : u = user
    · subst hu
      rw [get, if_pos rfl, level text he]
      rfl
    · rw [get, if_neg hu]
      exact h (.level u) text (others _ _ (by simpa using hu) he)
  | profile u =>
    show (w'.characters.get? u).map _ = some text
    by_cases hu : u = user
    · subst hu
      rw [profile] at he
      cases he
    · rw [get, if_neg hu]
      have old := h (.profile u) text (others _ _ (by simp) he)
      unfold text? profileOf at old
      unfold profileOf
      rw [skins]
      exact old
  | skins =>
    show some (encodeText (SkinList.mk w'.skins)) = some text
    rw [skins]
    exact h .skins text (others _ _ (by simp) he)
  | prices =>
    show some (encodeText (PriceList.ofPrices w'.prices)) = some text
    rw [prices]
    exact h .prices text (others _ _ (by simp) he)

end World

/-! ## Reads -/

/-- A call that is not to the gateway. -/
def NotToGateway (c : Call) : Prop := ∀ g, c ≠ .gateway g

namespace World

variable {w w' : World} {cs ds : List Call}

/-- The calls leave that world but for its cache, which is coherent then. -/
structure Becomes (w : World) (cs : List Call) (bare : World) : Prop where
  bare : (w.after cs).bare = bare
  coherent : (w.after cs).Coherent

/-- Calls that change nothing but the cache, and leave it coherent. None of them is to the
gateway. -/
structure Reads (w : World) (cs : List Call) : Prop extends Becomes w cs w.bare where
  away : ∀ c ∈ cs, NotToGateway c

theorem Becomes.after {bare : World} (h : w.after cs = w') (h' : w'.Becomes ds bare) :
    w.Becomes (cs ++ ds) bare := by
  subst h
  refine ⟨?_, ?_⟩
  · rw [after_append]
    exact h'.bare
  · rw [after_append]
    exact h'.coherent

/-- What does not depend on the cache is as it was. -/
theorem Becomes.same {α : Type} (h : w.Becomes cs w.bare) (f : World → α)
    (hf : ∀ w, f w.bare = f w) : f (w.after cs) = f w := by
  rw [← hf, h.bare, hf]

/-- What is done when only the cache has changed is done to the world before that. -/
theorem Becomes.next {f : World → World} (h : w.Becomes cs w.bare)
    (h' : (w.after cs).Becomes ds (f (w.after cs)).bare) (hf : ∀ w, (f w.bare).bare = (f w).bare) :
    w.Becomes (cs ++ ds) (f w).bare := by
  rw [← h.same (fun w => (f w).bare) hf]
  exact h'.after rfl

theorem Reads.append (h : w.Reads cs) (h' : (w.after cs).Reads ds) : w.Reads (cs ++ ds) := by
  refine ⟨h.next (f := id) h'.toBecomes fun _ => rfl, ?_⟩
  intro c hc
  rcases List.mem_append.mp hc with hc | hc
  · exact h.away c hc
  · exact h'.away c hc

end World

variable {stage : Stage}

section Read

variable {α : Type} [Coded α] {src : Source α} {reply : Except StoreFault src.load.Answer}
  {user : UserId}

/-- A value that is loaded from the store is kept in the cache. -/
theorem leads_loading (calm : stage.Undisturbed) (coherent : stage.world.Coherent)
    (load : stage.world.store src.load = (reply, stage.world))
    (entry : stage.world.text? src.key
      = reply.toOption.map fun answer => encodeText (src.value answer)) :
    ∃ cs, Leads stage cs (Reading.loading.plan src)
      (.done ((reply.mapError Refusal.ofStore).map src.value)) ∧ stage.world.Reads cs := by
  have load' : stage.world.perform (.store src.load) = (reply, stage.world) := load
  have after : stage.world.after [.store src.load] = stage.world := congrArg Prod.snd load'
  have ask : Leads stage [.store src.load] (askStore src.load)
      (.done (reply.mapError Refusal.ofStore)) :=
    .call calm rfl (congrArg Prod.fst load') rfl
  have went := (ask.andThen fun answer => .done (.ok (src.value answer))).andThen
    fun a => (writeEntry src.key a src.lifetime).bind fun _ => .done (.ok a)
  have reads : stage.world.Reads [.store src.load] := by
    refine ⟨⟨?_, ?_⟩, by simp [NotToGateway]⟩
    · rw [after]
    · rw [after]
      exact coherent
  rcases reply with fault | answer
  · exact ⟨_, went, reads⟩
  · let keeping : Reading α := .keeping (src.value answer)
    let set : Call := .cache (.set src.key (encodeText (src.value answer)) src.lifetime)
    have keep : Leads (stage.after [.store src.load]) [set] (keeping.plan src)
        (.done (.ok (src.value answer))) := .call (calm.after _) rfl rfl rfl
    refine ⟨_, went.trans keep, reads.append ?_⟩
    rw [after]
    exact ⟨⟨rfl, coherent.set rfl rfl entry⟩, by simp [NotToGateway, set]⟩

/-- A read comes to what the store has, or to what a coherent cache has of it. -/
theorem leads_read (calm : stage.Undisturbed) (coherent : stage.world.Coherent)
    (load : stage.world.store src.load = (reply, stage.world))
    (entry : stage.world.text? src.key
      = reply.toOption.map fun answer => encodeText (src.value answer)) :
    ∃ cs result, Leads stage cs src.read (.done result) ∧ stage.world.Reads cs ∧
      (result = (reply.mapError Refusal.ofStore).map src.value ∨
        ∃ answer a, reply = .ok answer ∧ decodeText? (encodeText (src.value answer)) = some a ∧
          result = .ok a) := by
  let get : Call := .cache (.get src.key)
  have got : (stage.world.perform get).1 = .ok (stage.world.cache.get? src.key.text) := rfl
  have asking : stage.world.Reads [get] := ⟨⟨rfl, coherent⟩, by simp [NotToGateway, get]⟩
  obtain ⟨cs, loads, reads⟩ :
      ∃ cs, Leads (stage.after [get]) cs (Reading.loading.plan src)
        (.done ((reply.mapError Refusal.ofStore).map src.value)) ∧ stage.world.Reads cs :=
    leads_loading (calm.after [get]) coherent load entry
  -- A text that does not decode is a miss as well, and the value is loaded.
  cases hc : stage.world.cache.get? src.key.text with
  | none =>
    rw [hc] at got
    have missed : Leads stage [get] src.read (Reading.loading.plan src) := .call calm rfl got rfl
    exact ⟨_, _, missed.trans loads, asking.append reads, .inl rfl⟩
  | some text =>
    rw [hc] at got
    have told := coherent src.key text hc
    rw [entry] at told
    obtain ⟨answer, hanswer, rfl⟩ := Option.map_eq_some_iff.mp told
    cases hd : decodeText? (α := α) (encodeText (src.value answer)) with
    | none =>
      have missed : Leads stage [get] src.read (Reading.loading.plan src) := by
        refine .call calm rfl got ?_
        simp only [Plan.bind, hd]
        rfl
      exact ⟨_, _, missed.trans loads, asking.append reads, .inl rfl⟩
    | some a =>
      have hit : Leads stage [get] src.read (.done (.ok a)) := by
        refine .call calm rfl got ?_
        simp only [Plan.bind, hd]
      refine ⟨_, .ok a, hit, asking, .inr ⟨answer, a, ?_, hd, rfl⟩⟩
      cases reply with
      | error => cases hanswer
      | ok => exact congrArg _ (Option.some.inj hanswer)

/-- A read of something about a character, which the cache gives back as it is. -/
theorem leads_look {f : Character → α} (calm : stage.Undisturbed)
    (coherent : stage.world.Coherent) (load : stage.world.store src.load = (reply, stage.world))
    (value : reply.map src.value = (stage.world.character user).map f)
    (entry : stage.world.text? src.key
      = (stage.world.characters.get? user).map fun c => encodeText (f c))
    (kept : ∀ c, Kept (f c)) :
    ∃ cs, Leads stage cs src.read (.done (stage.world.look user f)) ∧ stage.world.Reads cs := by
  cases hc : stage.world.characters.get? user with
  | none =>
    have looked : stage.world.look user f = .error (.noCharacter user) := by
      simp only [World.look, hc]
    have none : stage.world.character user = .error (.noCharacter user) := by
      simp only [World.character, hc]
    rw [none] at value
    rcases reply with fault | answer
    · cases value
      rw [hc] at entry
      obtain ⟨cs, result, went, reads, rfl | ⟨_, _, hr, -⟩⟩ := leads_read calm coherent load entry
      · exact ⟨cs, looked ▸ went, reads⟩
      · cases hr
    · cases value
  | some c =>
    have looked : stage.world.look user f = .ok (f c) := by simp only [World.look, hc]
    rw [World.character_ok.mpr hc] at value
    rcases reply with fault | answer
    · cases value
    · have hv : src.value answer = f c := Except.ok.inj value
      rw [hc, Option.map_some, ← hv] at entry
      obtain ⟨cs, result, went, reads, rfl | ⟨_, a, hr, hd, rfl⟩⟩ :=
        leads_read calm coherent load entry
      · refine ⟨cs, ?_, reads⟩
        rw [looked, ← hv]
        exact went
      · cases hr
        rw [hv, (kept c).decodeText?] at hd
        cases hd
        exact ⟨cs, looked ▸ went, reads⟩

end Read

theorem leads_level (calm : stage.Undisturbed) (coherent : stage.world.Coherent)
    (lifetimes : Lifetimes) (user : UserId) :
    ∃ cs, Leads stage cs (Service.level lifetimes user)
      (.done (stage.world.look user Character.level)) ∧ stage.world.Reads cs := by
  rw [Service.level_eq]
  refine leads_look calm coherent rfl ?_ rfl fun c => kept_int32 c.level
  cases stage.world.character user <;> rfl

theorem leads_profile (calm : stage.Undisturbed) (coherent : stage.world.Coherent)
    (lifetimes : Lifetimes) (user : UserId) :
    ∃ cs, Leads stage cs (Service.profile lifetimes user)
      (.done (stage.world.look user stage.world.profileOf)) ∧ stage.world.Reads cs := by
  rw [Service.profile_eq]
  refine leads_look calm coherent rfl ?_ rfl fun c => kept_profile _
  cases stage.world.character user <;> rfl

theorem leads_prices (calm : stage.Undisturbed) (coherent : stage.world.Coherent)
    (lifetimes : Lifetimes) :
    ∃ cs, Leads stage cs (Service.prices lifetimes)
      (.done (.ok (PriceList.ofPrices stage.world.prices))) ∧ stage.world.Reads cs := by
  have load : stage.world.store (Source.prices lifetimes).load
      = (.ok stage.world.prices, stage.world) := rfl
  rw [Service.prices_eq]
  obtain ⟨cs, result, went, reads, rfl | ⟨_, a, hr, hd, rfl⟩⟩ := leads_read calm coherent load rfl
  · exact ⟨cs, went, reads⟩
  · cases hr
    have kept := (kept_priceList (.ofPrices stage.world.prices)).decodeText?
    cases hd.symm.trans kept
    exact ⟨cs, went, reads⟩

/-- The catalogue comes as the store or the cache has it, which nobody who looks at it can tell. -/
theorem leads_catalogue (calm : stage.Undisturbed) (coherent : stage.world.Coherent)
    (lifetimes : Lifetimes) :
    ∃ cs list, Leads stage cs (Service.catalogue lifetimes) (.done (.ok list)) ∧
      stage.world.Reads cs ∧ ∀ level, list.seenAt level = stage.world.skinsAt level := by
  have load : stage.world.store (Source.skins lifetimes).load
      = (.ok stage.world.skins, stage.world) := rfl
  rw [Service.catalogue_eq]
  obtain ⟨cs, result, went, reads, rfl | ⟨_, a, hr, hd, rfl⟩⟩ := leads_read calm coherent load rfl
  · exact ⟨cs, _, went, reads, fun level => rfl⟩
  · cases hr
    cases hd.symm.trans (decodeText?_skinList ⟨stage.world.skins⟩)
    refine ⟨cs, _, went, reads, ?_⟩
    intro level
    exact SkinList.seenAt_shut _ level

theorem leads_skins (calm : stage.Undisturbed) (coherent : stage.world.Coherent)
    (lifetimes : Lifetimes) (user : UserId) :
    ∃ cs, Leads stage cs (Service.skins lifetimes user)
      (.done (stage.world.look user fun c => stage.world.skinsAt c.level)) ∧
      stage.world.Reads cs := by
  obtain ⟨cs, level, reads⟩ := leads_level calm coherent lifetimes user
  unfold World.look at level ⊢
  cases hc : stage.world.characters.get? user with
  | none =>
    rw [hc] at level
    exact ⟨cs, level.both_error, reads⟩
  | some c =>
    rw [hc] at level
    obtain ⟨ds, list, went, reads', seen⟩ :=
      leads_catalogue (calm.after cs) reads.coherent lifetimes
    refine ⟨cs ++ ds, ?_, reads.append reads'⟩
    have shown : list.seenAt c.level = stage.world.skinsAt c.level :=
      (seen c.level).trans (reads.same (fun w => w.skinsAt c.level) fun _ => rfl)
    have both : Leads stage (cs ++ ds) (Service.skins lifetimes user)
        (.done (.ok (list.seenAt c.level))) := level.both went
    rwa [shown] at both

end Rehearsal

end Progression
