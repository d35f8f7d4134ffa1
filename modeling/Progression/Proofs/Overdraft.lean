-- No player spends more than it had. A level-up looks at the balance long
-- before it spends, so others may have spent in between. But then they
-- have moved the character too, and the store refuses the next move.
import Mathlib.Algebra.Order.BigOperators.Group.Finset
import Progression.Proofs.Bank
import Progression.Proofs.Outlook
import Progression.Proofs.Purchase

namespace Progression

open Rehearsal LevelUp

/-! ## Side by side -/

/-- No price gives coins away. -/
def PriceList.Fair (list : PriceList) : Prop := ∀ price ∈ list.prices, 0 ≤ price.coins

/-- A store and a cache, with a bank beside them. -/
def Bank.beside : Collaborators (World × Bank) := fun s c reply s' =>
  s.1.Serves c reply s'.1 ∧ s.2.Serves c reply s'.2

variable {ι : Type} [Fintype ι] [DecidableEq ι]

/-- Where level-ups and reads of the level stand after some turns. No level that is in the cache
or that somebody knows is ahead of the store, and nobody has overdrawn an account. -/
structure Solvent (lifetimes : Lifetimes) (funds : UserId → Int) (start : World)
    (asks : ι → Question) (users : ι → UserId) (h : History ι)
    (t : System (World × Bank) fun _ : ι => Except Refusal Json) (stands : ι → Standing) :
    Prop where
  plans : ∀ i, (asks i).At lifetimes (users i) (stands i) (t.plans i)
  course : Course lifetimes PriceList.Fair start users h t.world.1 stands
  cached : ∀ u text level, t.world.1.cache.get? (Key.level u).text = some text →
    decodeText? text = some level → t.world.1.Reaches u level
  told : ∀ i level, (Source.level lifetimes (users i)).Told (h.of i) level →
    t.world.1.Reaches (users i) level
  dues : ∃ owed, Dues funds users t.world.2 t.taken (fun i => (stands i).stake) owed
  /-- Who goes by the level at which its character is has seen no more coins than are left. -/
  seen : ∀ i level n c, (stands i).seen = some (level, n) →
    t.world.1.characters.get? (users i) = some c → c.level = level →
    n.toInt + spending users stands (users i) ≤ funds (users i)
  within : ∀ u, spending users stands u ≤ funds u

variable {lifetimes : Lifetimes} {funds : UserId → Int} {world : World} {bank : Bank}
  {taken : Set PaymentId} {asks : ι → Question} {users : ι → UserId} {h : History ι}
  {t u : System (World × Bank) fun _ : ι => Except Refusal Json} {stands : ι → Standing} {i : ι}

theorem Solvent.opening (asked : ∀ i, asks i = .levelUp (users i) ∨ asks i = .level (users i))
    (offers : world.Offers PriceList.Fair)
    (cached : ∀ u text level, world.cache.get? (Key.level u).text = some text →
      decodeText? text = some level → world.Reaches u level)
    (funded : ∀ u, 0 ≤ bank.balance u)
    (known : ∀ payment, payment ∉ taken → bank.reserved.get? payment = none) :
    Solvent lifetimes bank.balance world asks users [] (.asking lifetimes asks (world, bank) taken)
      fun _ => .level .asking where
  plans i := Question.at_start lifetimes (asked i)
  course := .opening offers
  cached := cached
  told i level ht := by rcases ht with ⟨_, ht, _⟩ | ⟨_, ht, _⟩ <;> cases ht
  dues := ⟨_, .opening known⟩
  seen i level n c hs := by cases hs
  within u := by simpa [spending, Standing.spent, Standing.reached] using funded u

namespace Solvent

/-- A deal that is made takes no coins below zero. -/
theorem amount_nonneg (solvent : Solvent lifetimes funds world asks users h t stands) {deal : Deal}
    (hi : Informed lifetimes (users i) (inquiries (h.of i)) deal) : 0 ≤ deal.path.amount.toInt := by
  rcases PaymentPath.of_decide? hi.path with ⟨hp, -⟩ | hp
  · obtain ⟨list, ht, hprice⟩ := hi.price
    obtain ⟨next, -, hprice⟩ := Option.bind_eq_some_iff.mp hprice
    have fair := solvent.course.told i list (ht.mono (inquiries_subset _))
    rw [hp]
    exact Int64.le_iff_toInt_le.mp (fair _ (PriceList.mem_of_priceFor? hprice))
  · rw [hp]
    exact Int.le_refl 0

theorem spent_nonneg (solvent : Solvent lifetimes funds world asks users h t stands) (i : ι) :
    0 ≤ (stands i).spent := by
  cases hr : (stands i).reached with
  | none => simp [Standing.spent, hr]
  | some o =>
    have hs : (stands i).spent = o.1.path.amount.toInt := by simp [Standing.spent, hr]
    rw [hs]
    exact solvent.amount_nonneg ((solvent.course.record i).reached hr)

/-- What is left in an account and what has been spent come to no more than there was. -/
theorem left (solvent : Solvent lifetimes funds world asks users h t stands) (u : UserId) :
    t.world.2.balance u + spending users stands u ≤ funds u := by
  obtain ⟨owed, dues⟩ := solvent.dues
  have hle : spending users stands u ≤ ∑ i with users i = u, owed i :=
    Finset.sum_le_sum fun i _ => Standing.spent_le (dues.held.owes i) (dues.nonneg i)
  have hc := dues.covered u
  omega

section Call

variable {c : Call} {reply : c.Reply} {w : World} {b : Bank} {s' : Standing}

/-- Only a level that the character has is written to the cache. -/
theorem cached_turn (solvent : Solvent lifetimes funds world asks users h t stands)
    (hn : (stands i).Next lifetimes (users i) (.called c reply) s')
    (serves : t.world.1.Serves c reply w) {u : UserId} {text : String} {level : Level}
    (he : w.cache.get? (Key.level u).text = some text) (hd : decodeText? text = some level) :
    w.Reaches u level := by
  have record := solvent.course.record i
  refine reaches_of_next ?_ hn record serves
  rcases serves.entry he with he | ⟨lifetime, hc⟩
  · exact solvent.cached u text level he hd
  · subst hc
    obtain ⟨rfl, up, rfl, hw⟩ := hn.wrote_level record rfl
    rw [(kept_int32 up).decodeText?] at hd
    obtain rfl : up = level := Option.some.inj hd
    rcases hw with ht | ⟨deal, hr⟩
    · exact solvent.told i up ht
    · exact solvent.course.ladder.reaches hr

/-- A level that is told is one that the character has. -/
theorem told_turn (solvent : Solvent lifetimes funds world asks users h t stands)
    (hn : (stands i).Next lifetimes (users i) (.called c reply) s')
    (serves : t.world.1.Serves c reply w) (j : ι) (level : Level)
    (ht : (Source.level lifetimes (users j)).Told (History.of (h ++ [(i, .called c reply)]) j)
      level) : w.Reaches (users j) level := by
  refine reaches_of_next ?_ hn (solvent.course.record i) serves
  refine Course.told_turn (fun j => .level lifetimes (users j)) solvent.told ?_ j level ht
  rintro a (⟨text, hm, hd⟩ | ⟨answer, hm, rfl⟩)
  · rcases List.mem_append.mp hm with hm | hm
    · exact solvent.told i a (.inl ⟨text, hm, hd⟩)
    · cases List.mem_singleton.mp hm
      exact solvent.cached _ text a (World.CacheReply.got serves) hd
  · rcases List.mem_append.mp hm with hm | hm
    · exact solvent.told i _ (.inr ⟨answer, hm, rfl⟩)
    · cases List.mem_singleton.mp hm
      obtain ⟨-, c, hc, hl⟩ := World.StoreReply.level serves
      intro c' hc'
      cases hc.symm.trans hc'
      rw [hl]
      exact Int32.le_refl _

/-- A level-up that reaches a level has seen enough coins, and none of them has been spent since. -/
theorem within_turn (solvent : Solvent lifetimes funds world asks users h t stands)
    (hn : (stands i).Next lifetimes (users i) (.called c reply) s')
    (serves : t.world.1.Serves c reply w) (u : UserId) :
    spending users (Function.update stands i s') u ≤ funds u := by
  have within := solvent.within u
  rw [spending_update]
  rcases hn.reached with ⟨deal, errand, up, hs, hnone, hm, hr⟩ | ⟨hr, -⟩
  · have record := solvent.course.record i
    rw [hs] at record
    have hbefore : (stands i).spent = 0 := by simp [Standing.spent, hnone]
    have hafter : s'.spent = deal.path.amount.toInt := by simp [Standing.spent, hr]
    rw [hbefore, hafter]
    by_cases hu : users i = u
    · subst hu
      rw [if_pos rfl]
      cases hm
      obtain ⟨-, -, c, hc, hcur, -⟩ := World.StoreReply.climbs serves record.1.next?
      rcases PaymentPath.of_decide? record.1.path with ⟨hp, hle⟩ | hp
      · have hseen := solvent.seen i deal.current deal.balance c (by rw [hs]; rfl) hc hcur
        have hprice := Int64.le_iff_toInt_le.mp hle
        rw [hp]
        simp only [PaymentPath.amount]
        omega
      · rw [hp]
        simpa [PaymentPath.amount] using within
    · rw [if_neg hu]
      omega
  · have hsame : s'.spent = (stands i).spent := by simp [Standing.spent, hr]
    rw [hsame]
    split <;> omega

/-- Nobody goes by the level to which a character has just moved. -/
theorem outdated (solvent : Solvent lifetimes funds world asks users h t stands)
    (hn : (stands i).Next lifetimes (users i) (.called c reply) s')
    (serves : t.world.1.Serves c reply w) {fromLevel up level : Level}
    (hm : Standing.Moves (users i) (.called c reply) fromLevel up)
    (hnext : ∃ next, fromLevel.next? = some next) {j : ι} (hu : users j = users i) {n : Coins}
    (hj : (Function.update stands i s' j).seen = some (level, n)) {now : Character}
    (hnow : w.characters.get? (users j) = some now) : now.level ≠ level := by
  have told := (solvent.course.records hn j).seen hj
  cases hm
  obtain ⟨-, hone, c, hc, hcur, hget⟩ := World.StoreReply.climbs serves hnext
  have reaches : t.world.1.Reaches (users j) level := by
    by_cases hji : j = i
    · subst hji
      rw [History.of_snoc_self] at told
      refine solvent.told j level ?_
      simpa [Source.Told, Source.level] using told
    · rw [History.of_snoc_of_ne (Ne.symm hji)] at told
      exact solvent.told j level told
  have hle := Int32.le_iff_toInt_le.mp (reaches c (hu ▸ hc))
  rw [hget, if_pos hu] at hnow
  cases hnow
  rintro rfl
  rw [hcur] at hle
  simp only at hle
  omega

/-- Who has seen a balance that is no longer left goes by a level that the character has left. -/
theorem seen_turn (solvent : Solvent lifetimes funds world asks users h t stands)
    (hn : (stands i).Next lifetimes (users i) (.called c reply) s')
    (serves : t.world.1.Serves c reply w) (bank_ok : t.world.2.Serves c reply b) (j : ι)
    (level : Level) (n : Coins) (now : Character)
    (hj : (Function.update stands i s' j).seen = some (level, n))
    (hnow : w.characters.get? (users j) = some now) (hl : now.level = level) :
    n.toInt + spending users (Function.update stands i s') (users j) ≤ funds (users j) := by
  rw [spending_update]
  rcases hn.reached with ⟨deal, errand, up, hs, -, hm, hr⟩ | ⟨hr, hm⟩
  · have record := solvent.course.record i
    rw [hs] at record
    have hne : users j ≠ users i := fun hu =>
      solvent.outdated hn serves hm record.1.next? hu hj hnow hl
    have hji : j ≠ i := by
      rintro rfl
      exact hne rfl
    cases hm
    obtain ⟨-, -, c, -, -, hget⟩ := World.StoreReply.climbs serves record.1.next?
    rw [hget, if_neg hne] at hnow
    rw [Function.update_of_ne hji] at hj
    rw [if_neg (Ne.symm hne), Int.add_zero]
    exact solvent.seen j level n now hj hnow hl
  · have hsame : s'.spent = (stands i).spent := by simp [Standing.spent, hr]
    have hspent : (if users i = users j then s'.spent - (stands i).spent else 0) = 0 := by
      rw [hsame]
      split <;> omega
    rw [hspent, Int.add_zero]
    rw [characters_of_next hn serves hm] at hnow
    by_cases hji : j = i
    · subst hji
      rw [Function.update_self] at hj
      rcases hn.seen with hseen | hseen | ⟨level', m, hd, hseen⟩
      · cases hseen.symm.trans hj
      · exact solvent.seen j level n now (hseen ▸ hj) hnow hl
      · cases hseen.symm.trans hj
        cases hd
        have left := solvent.left (users j)
        rcases bank_ok with ⟨_, hok, tells, -⟩ | ⟨fault, hfault, -⟩
        · cases hok
          have htells : n.toInt = t.world.2.balance (users j) := tells
          omega
        · cases hfault
    · rw [Function.update_of_ne hji] at hj
      exact solvent.seen j level n now hj hnow hl

end Call

/-- A payment id changes nothing but the stake. -/
theorem take {payment : PaymentId} {q : (i : ι) → Plan (Except Refusal Json)} {s' : Standing}
    (solvent : Solvent lifetimes funds world asks users h t stands)
    (hn : (stands i).Next lifetimes (users i) (.took payment) s') (fresh : payment ∉ t.taken)
    (plans : ∀ j, (asks j).At lifetimes (users j) (Function.update stands i s' j) (q j)) :
    Solvent lifetimes funds world asks users (h ++ [(i, .took payment)])
      ⟨t.world, insert payment t.taken, q⟩ (Function.update stands i s') := by
  obtain ⟨deal, hs, hs'⟩ := hn.takes rfl
  obtain ⟨owed, dues⟩ := solvent.dues
  have idle : (stands i).stake = .nothing := by rw [hs]; rfl
  have hstake : s'.stake = .asked payment deal.path.amount := by rw [hs']; rfl
  have same : s'.spent = (stands i).spent := by rw [hs, hs']; rfl
  have spending_eq (u : UserId) :
      spending users (Function.update stands i s') u = spending users stands u := by
    rw [spending_update, same]
    split <;> omega
  refine ⟨plans, solvent.course.took hn, solvent.cached, ?_, ⟨owed, ?_⟩, ?_, fun u => ?_⟩
  · exact Course.told_turn (fun j => .level lifetimes (users j)) solvent.told
      fun level ht => solvent.told i level ht.of_took
  · rw [Standing.stake_update, hstake]
    exact dues.take deal.path.amount idle fresh
  · intro j level n c hj hc hl
    rw [spending_eq]
    refine solvent.seen j level n c ?_ hc hl
    by_cases hji : j = i
    · subst hji
      rw [Function.update_self, hs'] at hj
      rw [hs]
      exact hj
    · rwa [Function.update_of_ne hji] at hj
  · rw [spending_eq]
    exact solvent.within u

/-- Each turn keeps all of it. -/
theorem turn {d : Deed} (solvent : Solvent lifetimes funds world asks users h t stands)
    (turn : System.Turn Bank.beside t i d u) :
    ∃ stands', Solvent lifetimes funds world asks users (h ++ [(i, d)]) u stands' := by
  obtain ⟨s', hn, hq⟩ := (solvent.plans i).next turn.step
  have plans := turn.each (fun j => (asks j).At lifetimes (users j)) solvent.plans hq
  cases turn with
  | @call c reply _ world' step reply_ok =>
    obtain ⟨serves, bank_ok⟩ := reply_ok
    obtain ⟨owed, dues⟩ := solvent.dues
    have record := solvent.course.record i
    have stakes := Standing.stake_update stands i s'
    have nonneg : ∀ payment amount, (stands i).stake = .asked payment amount →
        0 ≤ amount.toInt := by
      intro payment amount ha
      unfold Standing.stake at ha
      split at ha <;> cases ha
      rename_i hs
      rw [hs] at record
      exact solvent.amount_nonneg record.1
    obtain ⟨owed', dues'⟩ := dues.next (hn.stake record) nonneg bank_ok
    exact ⟨_, plans, solvent.course.called hn serves,
      fun _ _ _ => solvent.cached_turn hn serves, solvent.told_turn hn serves,
      ⟨owed', stakes ▸ dues'⟩, solvent.seen_turn hn serves bank_ok, solvent.within_turn hn serves⟩
  | take step fresh => exact ⟨_, solvent.take hn fresh plans⟩

theorem run (run : System.Run Bank.beside (.asking lifetimes asks (world, bank) taken) h t)
    (asked : ∀ i, asks i = .levelUp (users i) ∨ asks i = .level (users i))
    (offers : world.Offers PriceList.Fair)
    (cached : ∀ u text level, world.cache.get? (Key.level u).text = some text →
      decodeText? text = some level → world.Reaches u level)
    (funded : ∀ u, 0 ≤ bank.balance u)
    (known : ∀ payment, payment ∉ taken → bank.reserved.get? payment = none) :
    ∃ stands, Solvent lifetimes bank.balance world asks users h t stands := by
  induction run with
  | start => exact ⟨_, .opening asked offers cached funded known⟩
  | turn _ turn ih =>
    obtain ⟨stands, solvent⟩ := ih
    exact solvent.turn turn

end Solvent

/-! ## What calls are charged -/

/-- The coins that a deed asks to reserve. -/
def Deed.reserves : Deed → Int
  | .called (.gateway (.initiate _ amount _)) _ => amount.toInt
  | _ => 0

/-- The coins that a call has been charged: those that it asked to reserve, if it succeeded. -/
def charged {α : Type} (plan : Plan (Except Refusal α)) (ds : List Deed) : Int :=
  match plan with
  | .done (.ok _) => (ds.map Deed.reserves).sum
  | _ => 0

theorem sum_reserves_bindings (ds : List Deed) :
    ((bindings ds).map Deed.reserves).sum = (ds.map Deed.reserves).sum := by
  induction ds with
  | nil => rfl
  | cons d ds ih =>
    cases hd : d.binds with
    | true => simpa [bindings, hd] using ih
    | false =>
      have h0 : d.reserves = 0 := by
        unfold Deed.reserves
        split
        · cases hd
        · rfl
      simpa [bindings, hd, h0] using ih

/-- A level-up that has settled on a level has asked to reserve the price of it. -/
theorem LevelUp.Settled.reserves {user : UserId} {deal : Deal} {bound : List Deed}
    (h : Settled user deal bound) :
    (bound.map Deed.reserves).sum = deal.path.amount.toInt := by
  cases h with
  | free path => simp [path, Deed.reserves, advancing, PaymentPath.amount]
  | rejected path | doubtful path | stayed path | advanced path =>
    simp [path, Deed.reserves, reserving, advancing, settling, PaymentPath.amount]

namespace Solvent

/-- A level-up that has succeeded has settled. -/
theorem settled (solvent : Solvent lifetimes funds world asks users h t stands) {json : Json}
    (hi : asks i = .levelUp (users i)) (ho : t.plans i = .done (.ok json)) :
    ∃ deal outcome, json = LevelUpOutcome.summary outcome ∧
      (stands i).reached = some (deal, outcome.level) ∧
      Settled (users i) deal (bindings (h.of i)) := by
  rcases solvent.plans i with ⟨-, hp⟩ | ⟨hl, -⟩
  · obtain ⟨result, hs, hr⟩ := Plan.of_map_done (hp.symm.trans ho)
    rcases result with refusal | outcome
    · cases hr
    · obtain ⟨deal, pending, hst⟩ := Standing.settled_of_done hs
      have record := solvent.course.record i
      rw [hst] at record
      exact ⟨deal, outcome, (Except.ok.inj hr).symm, by rw [hst]; rfl, record.2⟩
  · cases hi.symm.trans hl

/-- A level-up that has succeeded has been charged what it has spent, and no other has been charged
anything. -/
theorem charged_le (solvent : Solvent lifetimes funds world asks users h t stands)
    (hi : asks i = .levelUp (users i)) : charged (t.plans i) (h.of i) ≤ (stands i).spent := by
  unfold charged
  split
  · rename_i json ho
    obtain ⟨deal, outcome, -, hr, settled⟩ := solvent.settled hi ho
    rw [← sum_reserves_bindings, settled.reserves]
    simp [Standing.spent, hr]
  · exact solvent.spent_nonneg i

end Solvent

/-- In whatever order level-ups and reads of the level take their turns, the level-ups of a player
that succeed are never charged more, all together, than it had. Each of them is charged the price
of the level that it reports, if it has taken the path of coins. -/
theorem no_player_spends_more_than_it_had
    (asked : ∀ i, ∃ user, asks i = .levelUp user ∨ asks i = .level user)
    (prices : ∀ price ∈ world.prices, 0 ≤ price.coins)
    (cachedPrices : ∀ text list, world.cache.get? Key.prices.text = some text →
      decodeText? text = some list → ∀ price ∈ PriceList.prices list, 0 ≤ price.coins)
    (cachedLevels : ∀ user c text level, world.characters.get? user = some c →
      world.cache.get? (Key.level user).text = some text → decodeText? text = some level →
      level ≤ c.level)
    (funded : ∀ user, 0 ≤ bank.balance user)
    (known : ∀ payment, payment ∉ taken → bank.reserved.get? payment = none)
    (run : System.Run Bank.beside (.asking lifetimes asks (world, bank) taken) h t) :
    (∀ user, ∑ i with asks i = .levelUp user, charged (t.plans i) (h.of i) ≤ bank.balance user) ∧
    ∀ i user json, asks i = .levelUp user → t.plans i = .done (.ok json) →
      ∃ outcome list price, json = LevelUpOutcome.summary outcome ∧
        (Source.prices lifetimes).Told (h.of i) list ∧
        list.priceFor? outcome.level = some price ∧
        charged (t.plans i) (h.of i)
          = if (h.of i).any Deed.isTook then price.coins.toInt else 0 := by
  choose users asked using asked
  have offers : world.Offers PriceList.Fair :=
    ⟨fun price hm => prices price (PriceList.mem_ofPrices.mp hm), cachedPrices⟩
  obtain ⟨stands, solvent⟩ := Solvent.run run asked offers
    (fun u text level he hd c hc => cachedLevels u c text level hc he hd) funded known
  have mine {i : ι} {user : UserId} (hi : asks i = .levelUp user) : users i = user := by
    rcases asked i with h | h
    · cases hi.symm.trans h
      rfl
    · cases hi.symm.trans h
  refine ⟨fun user => ?_, fun i user json hi ho => ?_⟩
  · calc ∑ i with asks i = .levelUp user, charged (t.plans i) (h.of i)
        ≤ ∑ i with asks i = .levelUp user, (stands i).spent := by
          refine Finset.sum_le_sum fun i hi => ?_
          have hi := (Finset.mem_filter.mp hi).2
          exact solvent.charged_le (mine hi ▸ hi)
      _ ≤ spending users stands user := by
          refine Finset.sum_le_sum_of_subset_of_nonneg (fun i hi => ?_) fun i _ _ =>
            solvent.spent_nonneg i
          have hi := (Finset.mem_filter.mp hi).2
          exact Finset.mem_filter.mpr ⟨Finset.mem_univ i, mine hi⟩
      _ ≤ bank.balance user := solvent.within user
  · obtain rfl := mine hi
    obtain ⟨deal, outcome, hjson, hr, settled⟩ := solvent.settled hi ho
    have informed := (solvent.course.record i).reached hr
    obtain ⟨list, ht, hp⟩ := informed.price
    rw [solvent.course.ladder.next i deal outcome.level hr] at hp
    refine ⟨outcome, list, deal.price, hjson, ht.mono (inquiries_subset _), hp, ?_⟩
    rw [ho, ← any_isTook_bindings, ← settled.amount_eq, ← settled.reserves, sum_reserves_bindings]
    rfl

/-! ## A race for one level -/

section Works

variable (w : World) (b : Bank)

theorem Bank.beside_store (c : StoreCall) :
    Bank.beside (w, b) (.store c) (w.store c).1 ((w.store c).2, b) := ⟨.inl ⟨rfl, rfl⟩, rfl⟩

theorem Bank.beside_cache (c : CacheCall) :
    Bank.beside (w, b) (.cache c) (w.cached c).1 ((w.cached c).2, b) :=
  ⟨⟨w, ⟨rfl, fun _ _ h => h⟩, .inl ⟨rfl, rfl⟩⟩, rfl⟩

theorem Bank.beside_gateway {c : GatewayCall} {answer : c.Answer} (tells : b.Tells c answer) :
    Bank.beside (w, b) (.gateway c) (.ok answer) (w, b.after c) :=
  ⟨⟨rfl, rfl, rfl⟩, .inl ⟨answer, rfl, tells, rfl⟩⟩

end Works

/-- Two level-ups see the same balance, and the bank reserves the price for both of them. One of
them moves the character, and the other one gives its coins back. -/
theorem race_for_one_level :
    ∃ h t, System.Run Bank.beside (.asking ⟨.ofSeconds 300, .ofSeconds 3600⟩
        (fun _ : Bool => .levelUp 7) (aPlayer, ⟨fun _ => 150, .empty⟩) ∅) h t ∧
      t.plans true = .done (.ok (LevelUpOutcome.summary ⟨2, 50, false⟩)) ∧
      ∃ refusal, t.plans false = .done (.error refusal) := by
  open Bank in
  let lifetimes : Lifetimes := ⟨.ofSeconds 300, .ofSeconds 3600⟩
  let bank : Bank := ⟨fun _ => 150, .empty⟩
  let start := System.asking lifetimes (fun _ : Bool => .levelUp 7) (aPlayer, bank) ∅
  have asked (i : Bool) : start.plans i
      = (Service.levelUp lifetimes 7).map (Except.map LevelUpOutcome.summary) := rfl
  have answers : Bank.beside.GoAlong (aPlayer, bank) ∅ someQuestions (aPlayer, bank) ∅ := by
    have balance : bank.Tells (.balance 7) (150 : Coins) := rfl
    apply Collaborators.GoAlong.called (beside_cache _ _ _)
    apply Collaborators.GoAlong.called (beside_cache _ _ _)
    apply Collaborators.GoAlong.called (beside_gateway _ _ balance)
    exact .called (beside_gateway _ _ (c := .referrals 7) trivial) .nil
  have goes : ∃ w taken, Bank.beside.GoAlong (aPlayer, bank) ∅
      ((twoCommits lifetimes).map Prod.snd) w taken := by
    apply Exists.intro
    apply Exists.intro
    apply Collaborators.GoAlong.took (Set.notMem_empty _)
    apply Collaborators.GoAlong.took (by simp)
    apply Collaborators.GoAlong.called (beside_gateway _ _ (c := .initiate ..) trivial)
    apply Collaborators.GoAlong.called (beside_gateway _ _ (c := .initiate ..) trivial)
    apply Collaborators.GoAlong.called (beside_store _ _ _)
    apply Collaborators.GoAlong.called (beside_store _ _ _)
    apply Collaborators.GoAlong.called (beside_gateway _ _ (c := .finalize ..) trivial)
    apply Collaborators.GoAlong.called (beside_gateway _ _ (c := .finalize ..) trivial)
    apply Collaborators.GoAlong.called (beside_cache _ _ _)
    apply Collaborators.GoAlong.called (beside_cache _ _ _)
    exact .called (beside_cache _ _ _) .nil
  obtain ⟨w, taken, goes⟩ := goes
  obtain ⟨t, run, ends⟩ := System.run_aRace asked answers goes
  exact ⟨_, t, run, ends true, _, ends false⟩

theorem a_race_for_one_level_is_charged_once :
    ∃ h t, System.Run Bank.beside (.asking ⟨.ofSeconds 300, .ofSeconds 3600⟩
        (fun _ : Bool => .levelUp 7) (aPlayer, ⟨fun _ => 150, .empty⟩) ∅) h t ∧
      t.plans true = .done (.ok (LevelUpOutcome.summary ⟨2, 50, false⟩)) ∧
      (∃ refusal, t.plans false = .done (.error refusal)) ∧
      ∑ i, charged (t.plans i) (h.of i) ≤ 150 := by
  obtain ⟨h, t, run, one, two⟩ := race_for_one_level
  have prices : ∀ text list, aPlayer.cache.get? Key.prices.text = some text →
      decodeText? text = some list → ∀ price ∈ PriceList.prices list, 0 ≤ price.coins := by
    intro text list ht hd
    cases ht
    have hlist : list = ⟨[aDeal.price]⟩ := (Option.some.inj hd).symm
    rw [hlist]
    decide
  have levels : ∀ user c text level, aPlayer.characters.get? user = some c →
      aPlayer.cache.get? (Key.level user).text = some text → decodeText? text = some level →
      level ≤ c.level := by
    intro user c text level hc ht hd
    by_cases hu : user = 7
    · subst hu
      cases hc
      cases ht
      have hlevel : level = 1 := (Option.some.inj hd).symm
      rw [hlevel]
      decide
    · simp [aPlayer, Table.ofList, Table.get?_put, hu] at hc
  have charges := (no_player_spends_more_than_it_had (fun _ => ⟨7, .inl rfl⟩) (by decide)
    prices levels (fun _ => show (0 : Int) ≤ 150 by decide) (fun _ _ => rfl) run).1 7
  exact ⟨h, t, run, one, two, by simpa using charges⟩

end Progression
