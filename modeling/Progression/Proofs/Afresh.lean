-- Questions one after another, each answered alone: the answers, and what
-- the store and the accounts hold, are those of a service that reads the
-- store afresh each time.
import Progression.Proofs.Conservation
import Progression.Proofs.Uncached
import Progression.Proofs.Wardrobe

namespace Progression

open Rehearsal LevelUp

namespace Rehearsal

/-! ## What calls make of the world -/

namespace World

variable {w w' : World} {user : UserId} {c : Character}

/-- Calls that change nothing may follow. -/
theorem Becomes.unmoved {cs ds : List Call} {bare : World} (h : w.Becomes cs bare)
    (same : (w.after cs).after ds = w.after cs) : w.Becomes (cs ++ ds) bare := by
  rw [← after_append] at same
  exact ⟨same ▸ h.bare, same ▸ h.coherent⟩

theorem Becomes.get? {cs : List Call} (h : w.Becomes cs w.bare)
    (hc : w.characters.get? user = some c) : (w.after cs).characters.get? user = some c :=
  (h.same (fun w => w.characters.get? user) fun _ => rfl).trans hc

/-- The entry of the level of a player, if there is one, says the level of its character. -/
theorem Coherent.level (h : w.Coherent) (hc : w.characters.get? user = some c) (text : String)
    (he : w.cache.get? (Key.level user).text = some text) : text = encodeText c.level := by
  have told := h (.level user) text he
  rw [text?, hc] at told
  exact (Option.some.inj told).symm

/-- Without a character there are no entries about it. -/
theorem Coherent.unknown (h : w.Coherent) (hc : w.characters.get? user = none) {key : Key}
    (hk : key = .level user ∨ key = .profile user) : w.cache.get? key.text = none := by
  cases he : w.cache.get? key.text with
  | none => rfl
  | some text =>
    have told := h key text he
    rcases hk with rfl | rfl
    · rw [text?, hc] at told
      cases told
    · rw [text?, hc] at told
      cases told

/-- A created character brings no entries with it. -/
theorem becomes_create (h : w.Coherent) (user : UserId) :
    w.Becomes [.store (.createCharacter user)] (w.create user).bare := by
  have after : w.after [.store (.createCharacter user)] = w.create user := by
    simp only [World.after, List.foldl, perform, store, create]
    cases w.characters.get? user <;> rfl
  refine ⟨congrArg bare after, ?_⟩
  rw [after]
  unfold create
  cases hc : w.characters.get? user with
  | some c => exact h
  | none =>
    have level := h.unknown hc (.inl rfl)
    have profile := h.unknown hc (.inr rfl)
    refine h.put (c := newCharacter) rfl rfl rfl profile ?_ fun _ _ _ he => he
    intro text he
    cases level.symm.trans he

/-- Another skin makes the profile out of date, and no other entry. -/
theorem becomes_wear (h : w.Coherent) (hc : w.characters.get? user = some c) (skin : SkinId) :
    w.Becomes [.store (.setActiveSkin user skin), .cache (.invalidate (.profile user))]
      (w.putCharacter user { c with skin }).bare := by
  have after : w.after [.store (.setActiveSkin user skin)]
      = w.putCharacter user { c with skin } := by
    simp only [World.after, List.foldl, perform, store, character_ok.mpr hc]
  apply Becomes.after after
  have kept (key : Key) (text : String)
      (he : (w.cache.erase (Key.profile user).text).get? key.text = some text) :
      w.cache.get? key.text = some text := by
    rw [Table.get?_erase] at he
    split at he
    · cases he
    · exact he
  refine ⟨rfl, ?_⟩
  have profile := Table.get?_erase_self w.cache (Key.profile user).text
  refine h.put (c := { c with skin }) rfl rfl rfl profile ?_ fun key text _ he => kept key text he
  intro text he
  exact h.level hc text (kept _ _ he)

end World

/-! ## The task of a level-up -/

/-- The calls that bring the cache in line with a level. -/
def refreshing (lifetimes : Lifetimes) (user : UserId) (level : Level) : List Call :=
  [.cache (.set (.level user) (encodeText level) lifetimes.entries),
    .cache (.invalidate (.profile user))]

/-- The calls that pay for the level above that one. -/
def paying (user : UserId) (fromLevel : Level) (payment : PaymentId) : PaymentPath → List Call
  | .coins price =>
    [.gateway (.initiate user price payment), .store (.incrementLevel user fromLevel),
      .gateway (.finalize payment true)]
  | .free => [.store (.incrementLevel user fromLevel)]

/-- The number of payment ids that a path of payment takes. -/
def idsTaken : PaymentPath → Nat
  | .coins _ => 1
  | .free => 0

variable {stage : Stage} {lifetimes : Lifetimes} {user : UserId} {c : Character} {a : Account}

theorem World.increment_of_get? {w : World} (hc : w.characters.get? user = some c) :
    w.increment user c.level = (.ok (c.level + 1), w.lift user c) := by
  simp only [increment, character_ok.mpr hc, if_pos, lift]

theorem leads_pay (calm : stage.Undisturbed) (hc : stage.world.characters.get? user = some c)
    {payment : PaymentId} {price : Coins} :
    Leads stage (paying user c.level payment (.coins price))
      (LevelUp.settle user c.level price payment) (.done (.ok ⟨c.level + 1, false⟩)) := by
  let initiate : Call := .gateway (.initiate user price payment)
  let increment : Call := .store (.incrementLevel user c.level)
  have reserve : Leads stage [initiate] (LevelUp.settle user c.level price payment)
      (advancePaid user c.level payment) := .call calm rfl rfl rfl
  have moved : ((stage.after [initiate]).world.perform increment).1 = .ok (c.level + 1) :=
    congrArg Prod.fst (World.increment_of_get? (w := (stage.after [initiate]).world) hc)
  have advance : Leads (stage.after [initiate]) [increment] (advancePaid user c.level payment)
      (spend payment (c.level + 1)) := .call (calm.after _) rfl moved rfl
  have settle : Leads ((stage.after [initiate]).after [increment])
      [.gateway (.finalize payment true)] (spend payment (c.level + 1))
      (.done (.ok ⟨c.level + 1, false⟩)) :=
    .call ((calm.after [initiate]).after [increment]) rfl rfl rfl
  exact reserve.trans (advance.trans settle)

theorem leads_advanceFree (calm : stage.Undisturbed)
    (hc : stage.world.characters.get? user = some c) (payment : PaymentId) :
    Leads stage (paying user c.level payment .free) (advanceFree user c.level)
      (.done (.ok ⟨c.level + 1, false⟩)) :=
  .call calm rfl (congrArg Prod.fst (World.increment_of_get? hc)) rfl

theorem leads_refresh (calm : stage.Undisturbed) (gain : Advance) :
    Leads stage (refreshing lifetimes user gain.level) (refresh lifetimes user (.ok gain))
      (.done (.ok gain)) := by
  let set : Call := .cache (.set (.level user) (encodeText gain.level) lifetimes.entries)
  let rest : Plan TaskResult := (evict (.profile user)).bind fun _ => .done (.ok gain)
  have write : Leads stage [set] (refresh lifetimes user (.ok gain)) rest := .call calm rfl rfl rfl
  have drop : Leads (stage.after [set]) [.cache (.invalidate (.profile user))] rest
      (.done (.ok gain)) := .call (calm.after [set]) rfl rfl rfl
  exact write.trans drop

/-- The task of a level-up ends one level up, whichever way the level is paid for. -/
theorem run_commit (calm : stage.Undisturbed) (hc : stage.world.characters.get? user = some c)
    (path : PaymentPath) :
    run (commit lifetimes user c.level path) stage
      = (.over (.answered (.ok ⟨c.level + 1, false⟩)),
        (stage.taking (idsTaken path)).after
          (paying user c.level ⟨stage.paymentsTaken + 1⟩ path
            ++ refreshing lifetimes user (c.level + 1))) := by
  cases path with
  | coins price =>
    let payment : PaymentId := ⟨stage.paymentsTaken + 1⟩
    have opened : (stage.taking 1).Undisturbed := calm
    have pays : Leads (stage.taking 1) (paying user c.level payment (.coins price))
        (LevelUp.settle user c.level price payment) (.done (.ok ⟨c.level + 1, false⟩)) :=
      leads_pay opened hc
    have commits := (pays.bind (refresh lifetimes user)).trans (leads_refresh (opened.after _) _)
    exact commits.run
  | free =>
    have pays := leads_advanceFree calm hc ⟨stage.paymentsTaken + 1⟩
    have commits := (pays.bind (refresh lifetimes user)).trans (leads_refresh (calm.after _) _)
    exact commits.run

namespace World

variable {w w' : World}

/-- A character that has changed is in line with the cache again once its level is written there and
its profile is gone. -/
theorem Coherent.refreshed (h : w.Coherent) (characters : w'.characters = w.characters.put user c)
    (skins : w'.skins = w.skins) (prices : w'.prices = w.prices) (cache : w'.cache = w.cache) :
    w'.Becomes (refreshing lifetimes user c.level) w'.bare := by
  let level := (Key.level user).text
  let profile := (Key.profile user).text
  have get (key : String) : (w'.after (refreshing lifetimes user c.level)).cache.get? key
      = if key = profile then .none else if key = level then some (encodeText c.level)
        else w.cache.get? key := by
    show ((w'.cache.put level (encodeText c.level)).erase profile).get? key = _
    rw [Table.get?_erase, Table.get?_put, cache]
  refine ⟨rfl, ?_⟩
  refine h.put (c := c) characters skins prices ?_ ?_ ?_
  · rw [get, if_pos rfl]
  · intro text he
    rw [get] at he
    split at he
    · cases he
    · rw [if_pos rfl] at he
      exact (Option.some.inj he).symm
  · intro key text hk he
    have other : key.text ≠ level := fun same => hk (Key.text_inj same)
    rw [get, if_neg other] at he
    split at he
    · cases he
    · exact he

/-- Coins that are reserved and spent are gone from the account. -/
theorem becomes_coins (lifetimes : Lifetimes) (h : w.Coherent)
    (hc : w.characters.get? user = some c) (ha : w.accounts.get? user = some a) (price : Coins)
    (payment : PaymentId) :
    w.Becomes (paying user c.level payment (.coins price)
        ++ refreshing lifetimes user (c.level + 1))
      ((w.lift user c).setBalance user a (a.balance - price)).bare := by
  have moved : (w.reserve user price payment).increment user c.level
      = (.ok (c.level + 1), (w.reserve user price payment).lift user c) := increment_of_get? hc
  let paid := ((w.reserve user price payment).lift user c).settle payment true
  have after : w.after (paying user c.level payment (.coins price)) = paid := by
    simp only [World.after, paying, List.foldl, perform, gateway, store, moved, paid]
  have held : ((w.reserve user price payment).lift user c).reserved.get? payment
      = some ⟨user, price⟩ := Table.get?_put_self ..
  have spent : paid = { (w.reserve user price payment).lift user c with
      reserved := ((w.reserve user price payment).lift user c).reserved.erase payment } := by
    simp only [paid, settle, held, if_pos]
  have bare : paid.bare = ((w.lift user c).setBalance user a (a.balance - price)).bare := by
    rw [spent]
    simp only [bare, lift, putCharacter, reserve, credit, setBalance, Table.change, ha,
      Int64.sub_eq_add_neg]
  rw [← bare]
  apply Becomes.after after
  rw [spent]
  exact h.refreshed (c := { c with level := c.level + 1 }) rfl rfl rfl rfl

/-- A level for free leaves the account as it is. -/
theorem becomes_free (lifetimes : Lifetimes) (h : w.Coherent)
    (hc : w.characters.get? user = some c) (payment : PaymentId) :
    w.Becomes (paying user c.level payment .free ++ refreshing lifetimes user (c.level + 1))
      (w.lift user c).bare := by
  have after : w.after (paying user c.level payment .free) = w.lift user c :=
    congrArg Prod.snd (increment_of_get? hc)
  apply Becomes.after after
  exact h.refreshed (c := { c with level := c.level + 1 }) rfl rfl rfl rfl

end World

/-! ## The price of the next level -/

/-- Who has a character comes to the price of its next level. -/
theorem leads_quote (calm : stage.Undisturbed) (coherent : stage.world.Coherent)
    (lifetimes : Lifetimes) (hc : stage.world.characters.get? user = some c) :
    ∃ cs, Leads stage cs (Service.levelUp lifetimes user)
      (quote lifetimes user c.level (.ofPrices stage.world.prices)) ∧ stage.world.Reads cs := by
  obtain ⟨cs, level, reads⟩ := leads_level calm coherent lifetimes user
  obtain ⟨ds, prices, reads'⟩ := leads_prices (calm.after cs) reads.coherent lifetimes
  have looked : stage.world.look user Character.level = .ok c.level := by
    simp only [World.look, hc]
  have same : (stage.after cs).world.prices = stage.world.prices :=
    reads.same World.prices fun _ => rfl
  rw [looked] at level
  rw [same] at prices
  have current : Leads stage cs (currentLevel lifetimes user) (.done (.ok c.level)) := level.map _
  exact ⟨cs ++ ds, (current.andThen _).trans (prices.andThen _), reads.append reads'⟩

section Quote

variable {current up : Level} {list : PriceList} {price : LevelPrice}

/-- Who has an account comes to the choice of a path of payment. -/
theorem leads_buy (calm : stage.Undisturbed) (lifetimes : Lifetimes)
    (next : current.next? = some up) (hp : list.priceFor? up = some price)
    (ha : stage.world.accounts.get? user = some a) :
    Leads stage [.gateway (.balance user), .gateway (.referrals user)]
      (quote lifetimes user current list)
      (buy lifetimes user current price a.balance a.referrals) := by
  have balance : Leads stage [.gateway (.balance user)] (askGateway (.balance user))
      (.done (.ok a.balance)) := by
    refine .call calm rfl ?_ rfl
    simp only [World.perform, World.gateway, World.account, ha]
    rfl
  have referrals : Leads (stage.after [.gateway (.balance user)]) [.gateway (.referrals user)]
      (askGateway (.referrals user)) (.done (.ok a.referrals)) := by
    refine .call (calm.after _) rfl ?_ rfl
    have ha' : (stage.after [.gateway (.balance user)]).world.accounts.get? user = some a := ha
    simp only [World.perform, World.gateway, World.account, ha']
    rfl
  unfold quote
  simp only [next, hp]
  exact balance.both referrals

/-- Who has no account is refused by the gateway. -/
theorem leads_unknown (calm : stage.Undisturbed) (lifetimes : Lifetimes)
    (next : current.next? = some up) (hp : list.priceFor? up = some price)
    (ha : stage.world.accounts.get? user = none) :
    Leads stage [.gateway (.balance user)] (quote lifetimes user current list)
      (.done (.error (.payment (.rejected "get_coins_balance" 404 "user not found")))) := by
  have balance : Leads stage [.gateway (.balance user)] (askGateway (.balance user))
      (.done (.error (.rejected "get_coins_balance" 404 "user not found"))) := by
    refine .call calm rfl ?_ rfl
    simp only [World.perform, World.gateway, World.account, ha]
    rfl
  unfold quote
  simp only [next, hp]
  exact balance.both_error

end Quote

/-! ## One question -/

/-- The plan is waited for and comes to that result, and the store and the accounts are that world
then. Who is told to be at the top has had no question to the gateway. -/
structure Stage.Serves {α : Type} (stage : Stage) (plan : Plan (Except Refusal α))
    (result : Except Refusal α) (bare : World) (cs : List Call) (after : Stage) : Prop where
  performs : stage.Performs plan cs result after
  becomes : stage.world.Becomes cs bare
  top : ∀ level, result = .error (.topLevel level) → ∀ c ∈ cs, NotToGateway c

section Question

variable {α β : Type} {plan : Plan (Except Refusal α)} {result : Except Refusal α} {bare : World}
  {cs : List Call}

theorem refused_of_map {f : α → β} {refusal : Refusal}
    (h : result.map f = .error refusal) : result = .error refusal := by
  cases result with
  | ok => cases h
  | error => exact congrArg _ (Except.error.inj h)

/-- A plan that comes to its result from call to call. -/
theorem Stage.Calm.serves (calm : stage.Calm) (f : α → β)
    (leads : Leads stage cs plan (.done result)) (becomes : stage.world.Becomes cs bare)
    (top : ∀ level, result = .error (.topLevel level) → ∀ c ∈ cs, NotToGateway c) :
    ∃ cs after, stage.Serves (plan.map (Except.map f)) (result.map f) bare cs after := by
  refine ⟨cs, _, calm.answers (leads.map _), becomes, ?_⟩
  intro level h
  exact top level (refused_of_map h)

/-- A plan that only reads. -/
theorem Stage.Calm.serves_reads (calm : stage.Calm) (f : α → β)
    (h : ∃ cs, Leads stage cs plan (.done result) ∧ stage.world.Reads cs) :
    ∃ cs after,
      stage.Serves (plan.map (Except.map f)) (result.map f) stage.world.bare cs after := by
  obtain ⟨cs, leads, reads⟩ := h
  exact calm.serves f leads reads.toBecomes fun _ _ => reads.away

end Question

/-- A skin that is open to the player is put on. -/
theorem leads_tryOn (calm : stage.Undisturbed) (hc : stage.world.characters.get? user = some c)
    {skin : SkinId} {list : SkinList} (hopen : list.isOpen? skin = some true) :
    Leads stage [.store (.setActiveSkin user skin), .cache (.invalidate (.profile user))]
      (Fitting.tryOn user skin list) (.done (.ok ())) := by
  let rest : Plan (Except Refusal Unit) := (evict (.profile user)).bind fun _ => .done (.ok ())
  have worn : (stage.world.perform (.store (.setActiveSkin user skin))).1 = .ok () := by
    simp only [World.perform, World.store, World.character_ok.mpr hc]
  have wear : Leads stage [.store (.setActiveSkin user skin)] (Fitting.tryOn user skin list)
      rest := by
    unfold Fitting.tryOn
    rw [hopen]
    exact .call calm rfl worn rfl
  have drop : Leads (stage.after [.store (.setActiveSkin user skin)])
      [.cache (.invalidate (.profile user))] rest (.done (.ok ())) :=
    .call (calm.after _) rfl rfl rfl
  exact wear.trans drop

/-- A change of skin comes to what the catalogue and the level of the character allow. -/
theorem Stage.Calm.serves_changeSkin {α : Type} (calm : stage.Calm)
    (coherent : stage.world.Coherent) (lifetimes : Lifetimes) (user : UserId) (skin : SkinId)
    (f : Unit → α) :
    ∃ cs after, stage.Serves ((Service.changeSkin lifetimes user skin).map (Except.map f))
      ((stage.world.changeSkin user skin).1.map f) (stage.world.changeSkin user skin).2.bare
      cs after := by
  obtain ⟨cs, skins, reads⟩ := leads_skins calm.undisturbed coherent lifetimes user
  cases hc : stage.world.characters.get? user with
  | none =>
    simp only [World.look, World.changeSkin, hc] at skins ⊢
    have refused : Leads stage cs (Service.changeSkin lifetimes user skin)
        (.done (.error (.noCharacter user))) := skins.andThen _
    exact calm.serves f refused reads.toBecomes (by simp)
  | some c =>
    simp only [World.look, World.changeSkin, hc] at skins ⊢
    have tries : Leads stage cs (Service.changeSkin lifetimes user skin)
        (Fitting.tryOn user skin (stage.world.skinsAt c.level)) := skins.andThen _
    have seen : (stage.world.skinsAt c.level).isOpen? skin
        = (stage.world.skins.find? fun found => found.id == skin).map
          fun found => decide (found.unlockLevel ≤ c.level) := SkinList.isOpen?_seenAt ..
    have refused (refusal : Refusal) (hr : Fitting.tryOn user skin (stage.world.skinsAt c.level)
        = .done (.error refusal)) (top : ∀ level, refusal ≠ .topLevel level) :
        ∃ cs after, stage.Serves ((Service.changeSkin lifetimes user skin).map (Except.map f))
          ((Except.error refusal).map f) stage.world.bare cs after := by
      rw [hr] at tries
      apply calm.serves f tries reads.toBecomes
      intro level he
      exact absurd (Except.error.inj he) (top level)
    cases hf : stage.world.skins.find? fun found => found.id == skin with
    | none =>
      apply refused
      · simp only [Fitting.tryOn, seen, hf, Option.map_none]
      · simp
    | some found =>
      rw [hf] at seen
      by_cases hle : found.unlockLevel ≤ c.level
      · have hopen : (stage.world.skinsAt c.level).isOpen? skin = some true := by simp [seen, hle]
        have hc' : (stage.after cs).world.characters.get? user = some c := reads.get? hc
        have wears := leads_tryOn (calm.undisturbed.after cs) hc' hopen
        have becomes := World.becomes_wear reads.coherent hc' skin
        simp only [hle, if_true]
        apply calm.serves f (tries.trans wears)
        · exact reads.next (f := fun w => w.putCharacter user { c with skin }) becomes fun _ => rfl
        · simp
      · simp only [hle, if_false]
        apply refused
        · simp [Fitting.tryOn, seen, hle]
        · simp

section Purchase

variable {α : Type} {plan : Plan (Except Refusal LevelUpOutcome)} {cs : List Call}
  {price : LevelPrice}

/-- A level-up that pays by some path comes to the next level. -/
theorem Stage.Calm.serves_commit (calm : stage.Calm) (f : LevelUpOutcome → α)
    (becomes : stage.world.Becomes cs stage.world.bare)
    (hc : stage.world.characters.get? user = some c) (change : World → World)
    (blind : ∀ w, (change w.bare).bare = (change w).bare) {path : PaymentPath}
    {balance left : Coins}
    (leads : Leads stage cs plan
      (.detach (commit lifetimes user c.level path) (report balance path)))
    (covered : balanceAfter balance path = some left)
    (changes : (stage.world.after cs).Becomes
      (paying user c.level ⟨stage.paymentsTaken + 1⟩ path
        ++ refreshing lifetimes user (c.level + 1)) (change (stage.world.after cs)).bare) :
    ∃ cs after, stage.Serves (plan.map (Except.map f))
      ((Except.ok ⟨c.level + 1, left, false⟩).map f) (change stage.world).bare cs after := by
  have hc' := becomes.get? hc
  have ran (s : Stage) (undisturbed : s.Undisturbed) (world : s.world = stage.world.after cs)
      (taken : s.paymentsTaken = stage.paymentsTaken) :
      run (commit lifetimes user c.level path) s
        = (.over (.answered (.ok ⟨c.level + 1, false⟩)),
          (s.taking (idsTaken path)).after
            (paying user c.level ⟨stage.paymentsTaken + 1⟩ path
              ++ refreshing lifetimes user (c.level + 1))) := by
    rw [← world] at hc'
    rw [run_commit undisturbed hc' path, taken]
  have answered : (report balance path (some (.ok ⟨c.level + 1, false⟩))).map (Except.map f)
      = .done ((Except.ok ⟨c.level + 1, left, false⟩).map f) := by
    simp only [report, covered]
    rfl
  obtain ⟨after, performs⟩ := calm.answers_detached (leads.map (Except.map f)) ran answered
  refine ⟨_, after, performs, becomes.next changes blind, ?_⟩
  intro level h
  cases h

/-- A level-up with the price and the account known comes to what they allow. -/
theorem Stage.Calm.serves_buy (calm : stage.Calm) (f : LevelUpOutcome → α)
    (becomes : stage.world.Becomes cs stage.world.bare)
    (hc : stage.world.characters.get? user = some c)
    (ha : stage.world.accounts.get? user = some a) (h0 : 0 ≤ price.coins)
    (leads : Leads stage cs plan (buy lifetimes user c.level price a.balance a.referrals)) :
    ∃ cs after, stage.Serves (plan.map (Except.map f))
      ((stage.world.buyLevel user c price).1.map f) (stage.world.buyLevel user c price).2.bare
      cs after := by
  have hc' := becomes.get? hc
  have ha' : (stage.world.after cs).accounts.get? user = some a :=
    (becomes.same (fun w => w.accounts.get? user) fun _ => rfl).trans ha
  unfold buy PaymentPath.decide? at leads
  simp only [World.buyLevel, ha]
  by_cases coins : price.coins ≤ a.balance
  · rw [if_pos coins] at leads ⊢
    have changes := World.becomes_coins lifetimes becomes.coherent hc' ha' price.coins
      ⟨stage.paymentsTaken + 1⟩
    exact calm.serves_commit f becomes hc
      (fun w => (w.lift user c).setBalance user a (a.balance - price.coins)) (fun _ => rfl)
      leads (Coins.less?_of_le h0 coins) changes
  · rw [if_neg coins] at leads ⊢
    by_cases free : price.referralsToOpen ≤ a.referrals
    · rw [if_pos free] at leads ⊢
      have changes := World.becomes_free lifetimes becomes.coherent hc'
        ⟨stage.paymentsTaken + 1⟩
      exact calm.serves_commit f becomes hc (fun w => w.lift user c) (fun _ => rfl) leads rfl
        changes
    · rw [if_neg free] at leads ⊢
      exact calm.serves f leads becomes (by simp)

end Purchase

/-- A level-up comes to what the price list and the account allow. -/
theorem Stage.Calm.serves_levelUp {α : Type} (calm : stage.Calm)
    (coherent : stage.world.Coherent) (bounded : stage.world.Bounded) (lifetimes : Lifetimes)
    (user : UserId) (f : LevelUpOutcome → α) :
    ∃ cs after, stage.Serves ((Service.levelUp lifetimes user).map (Except.map f))
      ((stage.world.levelUp user).1.map f) (stage.world.levelUp user).2.bare cs after := by
  cases hc : stage.world.characters.get? user with
  | none =>
    obtain ⟨cs, level, reads⟩ := leads_level calm.undisturbed coherent lifetimes user
    simp only [World.look, World.levelUp, hc] at level ⊢
    have current : Leads stage cs (currentLevel lifetimes user)
        (.done (.error (.levelUnknown (.noCharacter user)))) := level.map _
    have refused : Leads stage cs (Service.levelUp lifetimes user)
        (.done (.error (.levelUnknown (.noCharacter user)))) := current.andThen _
    exact calm.serves f refused reads.toBecomes (by simp)
  | some c =>
    obtain ⟨cs, quotes, reads⟩ := leads_quote calm.undisturbed coherent lifetimes hc
    have next : c.level.next? = some (c.level + 1) :=
      Level.next?_of_ne (Int32.ne_of_lt (bounded.levels user c hc))
    simp only [World.levelUp, hc]
    -- The order of the cases is the order in which a level-up may be refused.
    cases hp : (PriceList.ofPrices stage.world.prices).priceFor? (c.level + 1) with
    | none =>
      have refused : Leads stage cs (Service.levelUp lifetimes user)
          (.done (.error (.topLevel c.level))) := by
        simpa only [quote, next, hp] using quotes
      exact calm.serves f refused reads.toBecomes fun _ _ => reads.away
    | some price =>
      have listed := PriceList.mem_ofPrices.mp (PriceList.mem_of_priceFor? hp)
      have accounts : (stage.world.after cs).accounts.get? user = stage.world.accounts.get? user :=
        reads.same (fun w => w.accounts.get? user) fun _ => rfl
      cases ha : stage.world.accounts.get? user with
      | none =>
        have refuses :=
          leads_unknown (calm.undisturbed.after cs) lifetimes next hp (accounts.trans ha)
        simp only [World.buyLevel, ha]
        exact calm.serves f (quotes.trans refuses) (reads.unmoved rfl) (by simp)
      | some a =>
        have buys := leads_buy (calm.undisturbed.after cs) lifetimes next hp (accounts.trans ha)
        exact calm.serves_buy f (reads.unmoved rfl) hc ha (bounded.prices price listed).2
          (quotes.trans buys)

/-- Every question comes to what a service without a cache comes to. -/
theorem Stage.Calm.serves_question (calm : stage.Calm) (coherent : stage.world.Coherent)
    (bounded : stage.world.Bounded) (lifetimes : Lifetimes) (question : Question) :
    ∃ cs after, stage.Serves (question.plan lifetimes) (question.uncached stage.world).1
      (question.uncached stage.world).2.bare cs after := by
  cases question with
  | create user =>
    have created : (stage.world.perform (.store (.createCharacter user))).1 = .ok () := by
      simp only [World.perform, World.store]
      split <;> rfl
    have creates : Leads stage [.store (.createCharacter user)] (Service.createCharacter user)
        (.done (.ok ())) := .call calm.undisturbed rfl created rfl
    exact calm.serves (fun _ => Json.null) creates (World.becomes_create coherent user) (by simp)
  | level user =>
    exact calm.serves_reads encode (leads_level calm.undisturbed coherent lifetimes user)
  | profile user =>
    exact calm.serves_reads encode (leads_profile calm.undisturbed coherent lifetimes user)
  | skins user =>
    exact calm.serves_reads encode (leads_skins calm.undisturbed coherent lifetimes user)
  | prices => exact calm.serves_reads encode (leads_prices calm.undisturbed coherent lifetimes)
  | changeSkin user skin =>
    exact calm.serves_changeSkin coherent lifetimes user skin fun _ => Json.null
  | levelUp user => exact calm.serves_levelUp coherent bounded lifetimes user _

/-! ## The record of calls -/

theorem Point.name_ne_empty (point : Point) : point.name.toList ≠ [] := by
  cases point <;> simp [Point.name]

/-- The line of a call begins as the name of its kind does. -/
theorem head?_callLine (c : Call) :
    (callLine c).toList.head? = (Point.ofCall c).name.toList.head? := by
  have named := (Point.ofCall c).name_ne_empty
  unfold callLine
  rw [String.toList_intercalate, List.map_cons]
  cases callDetails c with
  | nil => rw [List.map_nil, List.intercalate_singleton]
  | cons detail details =>
    rw [List.map_cons, List.intercalate_cons_cons, List.append_assoc,
      List.head?_append_of_ne_nil _ named]

/-- No other call has the line of a call to the gateway. -/
theorem NotToGateway.callLine_ne {c : Call} (away : NotToGateway c) (g : GatewayCall) :
    callLine c ≠ callLine (.gateway g) := by
  have letter : (callLine (.gateway g)).toList.head? = some 'g' := by
    rw [head?_callLine]
    cases g <;> simp [Point.ofCall, Point.name]
  have other : (callLine c).toList.head? ≠ some 'g' := by
    rw [head?_callLine]
    rcases c with c | c | c
    · cases c <;> simp [Point.ofCall, Point.name]
    · cases c <;> simp [Point.ofCall, Point.name]
    · exact absurd rfl (away c)
  intro same
  rw [same] at other
  exact other letter

/-- The observations of questions asked one after another. -/
def askedInTurn (setup : Setup) (stage : Stage) (questions : List Question) : List Observation :=
  rehearse setup stage (questions.map fun question => ⟨.ask question, none⟩)

/-- A question is asked before the others. -/
theorem Stage.Performs.askedInTurn {setup : Setup} {question : Question}
    {answer : Except Refusal Json} {cs : List Call} {after : Stage}
    (h : Stage.Performs { stage with lines := [] } (question.plan setup.lifetimes) cs answer after)
    (questions : List Question) :
    askedInTurn setup stage (question :: questions)
      = ⟨.answer answer, cs.map callLine, after.now - stage.now, after.world⟩
        :: askedInTurn setup after questions := by
  have acted : Stage.act setup { stage with lines := [] } ⟨.ask question, none⟩
      = (.answer answer, after) := by
    simp only [Stage.act, h.performed, Stage.resultOf]
  have calls : after.lines.reverse = cs.map callLine := by simp [h.lines]
  simp only [Rehearsal.askedInTurn, List.map_cons, rehearse, acted, calls]

/-- From a coherent cache, questions are answered as by a service without one. -/
theorem Stage.Calm.askedInTurn (calm : stage.Calm) (coherent : stage.world.Coherent)
    (bounded : stage.world.Bounded) (setup : Setup) (questions : List Question) :
    (askedInTurn setup stage questions).map (fun o => (o.result, o.world.bare))
        = (stage.world.bare.uncached questions).map (fun told => (.answer told.1, told.2)) ∧
      ∀ o ∈ askedInTurn setup stage questions, ∀ level,
        o.result = .answer (.error (.topLevel level)) → ∀ g, callLine (.gateway g) ∉ o.calls := by
  -- What goes on from one question to the next is a coherent cache. Nothing is said of what it
  -- holds, so a question may leave any entries there or none.
  induction questions generalizing stage with
  | nil => exact ⟨rfl, by simp [Rehearsal.askedInTurn, rehearse]⟩
  | cons question questions ih =>
    let fresh : Stage := { stage with lines := [] }
    have calm' : fresh.Calm := ⟨calm.undisturbed, calm.tasks, calm.ready⟩
    obtain ⟨cs, after, serves⟩ := calm'.serves_question coherent bounded setup.lifetimes question
    have becomes := serves.becomes
    have world := serves.performs.world
    have bare : after.world.bare = (question.uncached stage.world).2.bare := world ▸ becomes.bare
    have coherent' : after.world.Coherent := world ▸ becomes.coherent
    have bounded' : after.world.Bounded := (bounded.uncached question).of_bare bare
    obtain ⟨answers, away⟩ := ih serves.performs.calm coherent' bounded'
    rw [serves.performs.askedInTurn]
    refine ⟨?_, ?_⟩
    · rw [World.uncached, Question.uncached_bare, List.map_cons, List.map_cons, answers, bare]
    · intro o ho level told g
      rcases List.mem_cons.mp ho with rfl | ho
      · intro called
        obtain ⟨c, hc, line⟩ := List.mem_map.mp called
        have top : (question.uncached stage.world).1 = .error (.topLevel level) :=
          Result.answer.inj told
        exact (serves.top level top c hc).callLine_ne g line
      · exact away o ho level told g

end Rehearsal

/-- A service that starts with nothing in its cache answers questions, asked one after another, as a
service without a cache, and leaves the same characters and accounts after each of them. Who is told
that there are no further levels has had no question to the gateway. -/
theorem the_service_answers_as_one_without_a_cache (setup : Setup) {world : World}
    (unfilled : world.cache = .empty) (bounded : world.Bounded) (questions : List Question) :
    (askedInTurn setup (.ofWorld world) questions).map (fun o => (o.result, o.world.bare))
        = (world.bare.uncached questions).map (fun told => (.answer told.1, told.2)) ∧
      ∀ o ∈ askedInTurn setup (.ofWorld world) questions, ∀ level,
        o.result = .answer (.error (.topLevel level)) →
          ∀ g, callLine (.gateway g) ∉ o.calls := by
  have calm : (Stage.ofWorld world).Calm := ⟨fun _ => rfl, rfl, rfl⟩
  have coherent : world.Coherent := by
    intro key text entry
    rw [unfilled, Table.get?_empty] at entry
    cases entry
  exact calm.askedInTurn coherent bounded setup questions

/-- A player asks for its level, goes up, asks again, and finds no further level. -/
theorem a_player_is_answered_as_without_a_cache :
    (askedInTurn ⟨⟨.ofSeconds 300, .ofSeconds 3600⟩, .ofSeconds 30⟩
        (.ofWorld { aPlayer with cache := .empty })
        [.level 7, .levelUp 7, .level 7, .levelUp 7]).map Observation.result
      = [.answer (.ok (encode (1 : Level))), .answer (.ok (LevelUpOutcome.summary ⟨2, 50, false⟩)),
        .answer (.ok (encode (2 : Level))), .answer (.error (.topLevel 2))] := by
  let world : World := { aPlayer with cache := .empty }
  have bounded : world.Bounded := by
    refine ⟨?_, by decide⟩
    intro user c hc
    simp only [world, aPlayer, Table.ofList, List.foldl, Table.get?_put, Table.get?_empty] at hc
    split at hc
    · cases hc
      decide
    · cases hc
  have answered := (the_service_answers_as_one_without_a_cache
    ⟨⟨.ofSeconds 300, .ofSeconds 3600⟩, .ofSeconds 30⟩ rfl bounded
    [.level 7, .levelUp 7, .level 7, .levelUp 7]).1
  have results := congrArg (List.map Prod.fst) answered
  rw [List.map_map] at results
  refine results.trans ?_
  -- What is left is a run of the service without a cache.
  simp [World.uncached, Question.uncached, World.look, World.levelUp, World.buyLevel, World.lift,
    World.putCharacter, World.setBalance, World.bare, PriceList.ofPrices, PriceList.priceFor?,
    Table.ofList, Except.map, world, aPlayer]

end Progression
