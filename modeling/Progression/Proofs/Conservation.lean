-- Level-ups side by side neither share a level nor lose or create coins.
-- The store moves characters up by compare and set, the cache fails as it
-- likes, and a reservation may fail with or without having been made.
import Mathlib.Data.Int.Interval
import Mathlib.Data.Set.Card
import Progression.Proofs.Books
import Progression.Proofs.Course
import Progression.Proofs.Purchase

namespace Progression

open Rehearsal LevelUp

/-! ## Level-ups side by side -/

/-- Level-ups of these players, all at their start. -/
def System.levelUps {σ ι : Type} (lifetimes : Lifetimes) (users : ι → UserId) (world : σ)
    (taken : Set PaymentId) : System σ fun _ : ι => Except Refusal LevelUpOutcome :=
  ⟨world, taken, fun i => Service.levelUp lifetimes (users i)⟩

variable {ι : Type} [Fintype ι] [DecidableEq ι]

/-- Where level-ups stand after some turns: on what course, and with what books. -/
structure Sound (lifetimes : Lifetimes) (start : World) (before : Set PaymentId)
    (users : ι → UserId) (h : History ι)
    (t : System World fun _ : ι => Except Refusal LevelUpOutcome) (stands : ι → Standing) :
    Prop where
  plans : ∀ i, t.plans i = (stands i).plan lifetimes (users i)
  course : Course lifetimes (· = .ofPrices start.prices) start users h t.world stands
  books : ∃ owed, Books start before users t.world t.taken (fun i => (stands i).stake) owed
  older : before ⊆ t.taken

variable {lifetimes : Lifetimes} {start : World} {before : Set PaymentId} {users : ι → UserId}
  {h : History ι} {t u : System World fun _ : ι => Except Refusal LevelUpOutcome}
  {stands : ι → Standing} {i : ι}

theorem Sound.opening
    (cached : ∀ text list, start.cache.get? Key.prices.text = some text →
      decodeText? text = some list → list = PriceList.ofPrices start.prices)
    (older : ∀ payment, payment ∉ before → start.reserved.get? payment = none) :
    Sound lifetimes start before users [] (.levelUps lifetimes users start before)
      fun _ => .level .asking where
  plans i := Standing.levelUp_eq lifetimes (users i)
  course := .opening ⟨rfl, cached⟩
  books := ⟨_, .opening older⟩
  older := fun _ hp => hp

/-- The gateway has neither characters nor prices nor a cache. -/
theorem Rehearsal.World.Replies.serves {w w' : World} {c : Call} {reply : c.Reply}
    (h : World.Replies w c reply w') : w.Serves c reply w' := by
  cases c with
  | store c => exact h
  | cache c => exact h
  | gateway c =>
    have hg : (w.gateway c).2.characters = w.characters ∧ (w.gateway c).2.prices = w.prices ∧
        (w.gateway c).2.cache = w.cache := by
      rw [World.gateway_rest]
      exact ⟨rfl, rfl, rfl⟩
    rcases h with ⟨-, rfl⟩ | ⟨-, fault, -, rfl | ⟨-, rfl⟩⟩
    · exact hg
    · exact ⟨rfl, rfl, rfl⟩
    · exact hg

namespace Sound

/-- Each turn keeps all of it. -/
theorem turn {d : Deed} (sound : Sound lifetimes start before users h t stands)
    (turn : System.Turn World.Replies t i d u) :
    ∃ stands', Sound lifetimes start before users (h ++ [(i, d)]) u stands' := by
  obtain ⟨s', hn, hq⟩ := Standing.next_of_step (sound.plans i ▸ turn.step)
  obtain ⟨owed, books⟩ := sound.books
  have plans := turn.each (fun j (s : Standing) p => p = s.plan lifetimes (users j)) sound.plans hq
  have stake := hn.stake (sound.course.record i)
  have stakes := Standing.stake_update stands i s'
  cases turn with
  | @call c reply _ w step reply_ok =>
    obtain ⟨owed', books'⟩ := books.next stake reply_ok
    exact ⟨_, plans, sound.course.called hn (World.Replies.serves reply_ok),
      ⟨owed', stakes ▸ books'⟩, sound.older⟩
  | @take payment _ step fresh =>
    obtain ⟨deal, hs, rfl⟩ := hn.takes rfl
    have idle : (stands i).stake = .nothing := by
      rw [hs]
      rfl
    have taken := books.take deal.path.amount idle fresh sound.older
    exact ⟨_, plans, sound.course.took hn, ⟨owed, stakes ▸ taken⟩,
      fun p hp => .inr (sound.older hp)⟩

theorem run (run : System.Run World.Replies (.levelUps lifetimes users start before) h t)
    (cached : ∀ text list, start.cache.get? Key.prices.text = some text →
      decodeText? text = some list → list = PriceList.ofPrices start.prices)
    (older : ∀ payment, payment ∉ before → start.reserved.get? payment = none) :
    ∃ stands, Sound lifetimes start before users h t stands := by
  induction run with
  | start => exact ⟨_, .opening cached older⟩
  | turn _ turn ih =>
    obtain ⟨stands, sound⟩ := ih
    exact sound.turn turn

end Sound

/-! ## Once no commit is under way -/

/-- The calls of a player that succeeded, each with its outcome. -/
def successes (users : ι → UserId) (t : System World fun _ : ι => Except Refusal LevelUpOutcome)
    (u : UserId) : Set (ι × LevelUpOutcome) :=
  {o | users o.1 = u ∧ t.plans o.1 = .done (.ok o.2)}

/-- What a call has cost its player: the price of the level that it reached, if it succeeded on
the path of coins. Only that path takes a payment id. -/
def cost (list : PriceList) (plan : Plan (Except Refusal LevelUpOutcome)) (ds : List Deed) : Int :=
  match plan with
  | .done (.ok outcome) =>
    if ds.any Deed.isTook then ((list.priceFor? outcome.level).map fun p => p.coins.toInt).getD 0
    else 0
  | _ => 0

theorem Coins.less?_of_le {balance price : Coins} (h0 : 0 ≤ price) (h : price ≤ balance) :
    balance.less? price = some (balance - price) := by
  rw [Int64.le_iff_toInt_le] at h0 h
  have hz : (0 : Int64).toInt = 0 := rfl
  have hmin : Int64.minValue.toInt = -9223372036854775808 := rfl
  have hmax := balance.toInt_le
  unfold Coins.less?
  rw [if_pos (by omega), Int64.ofInt_sub, Int64.ofInt_toInt, Int64.ofInt_toInt]

theorem LevelUp.Informed.afford {user : UserId} {ds : List Deed} {deal : Deal}
    (h : Informed lifetimes user ds deal) (h0 : 0 ≤ deal.price.coins) :
    ∃ left, balanceAfter deal.balance deal.path = some left := by
  rcases PaymentPath.of_decide? h.path with ⟨hpath, hle⟩ | hpath
  · rw [hpath]
    exact ⟨_, Coins.less?_of_le h0 hle⟩
  · exact ⟨deal.balance, by rw [hpath]; rfl⟩

namespace Sound

/-- The price of a deal is the one that the store has for the next level. -/
theorem price (sound : Sound lifetimes start before users h t stands) {deal : Deal}
    (hi : Informed lifetimes (users i) (inquiries (h.of i)) deal) :
    deal.current.next?.bind (PriceList.ofPrices start.prices).priceFor? = some deal.price := by
  obtain ⟨list, ht, hp⟩ := hi.price
  rwa [sound.course.told i list (ht.mono (inquiries_subset _))] at hp

/-- A call that has reached a level succeeds with it, once its commit has ended. -/
theorem succeeded (sound : Sound lifetimes start before users h t stands)
    (hprices : ∀ p ∈ start.prices, 0 ≤ p.coins) (hc : ¬ (t.plans i).Committing) {deal : Deal}
    {up : Level} (hr : (stands i).reached = some (deal, up)) :
    ∃ o, t.plans i = .done (.ok o) ∧ o.level = up := by
  have record := sound.course.record i
  rw [sound.plans] at hc ⊢
  cases hs : stands i with
  | commit => rw [hs] at hc; exact absurd trivial hc
  | settled deal' result =>
    rw [hs] at hr record
    rcases result with refusal | gain
    · cases hr
    · cases hr
      obtain ⟨next, -, hp⟩ := Option.bind_eq_some_iff.mp (sound.price record.1)
      have hm := PriceList.mem_ofPrices.mp (PriceList.mem_of_priceFor? hp)
      obtain ⟨left, hleft⟩ := record.1.afford (hprices _ hm)
      exact ⟨⟨gain.level, left, gain.settlementPending⟩,
        by simp [Standing.plan, report, hleft], rfl⟩
  | _ => rw [hs] at hr; cases hr

theorem image_successes (sound : Sound lifetimes start before users h t stands)
    (hprices : ∀ p ∈ start.prices, 0 ≤ p.coins) (ended : ∀ i, ¬ (t.plans i).Committing)
    (u : UserId) : (successes users t u).BijOn (fun o => (o.1, o.2.level))
      (climbs users (fun j => (stands j).reached) u) := by
  refine ⟨?_, ?_, ?_⟩
  · rintro ⟨j, o⟩ ⟨hu, ho⟩
    obtain ⟨deal, pending, hs⟩ := Standing.settled_of_done (sound.plans _ ▸ ho)
    exact ⟨hu, deal, by simp [hs, Standing.reached]⟩
  · rintro ⟨j, o⟩ ⟨-, ho⟩ ⟨k, o'⟩ ⟨-, ho'⟩ heq
    obtain ⟨rfl, -⟩ := Prod.mk.inj heq
    cases ho.symm.trans ho'
    rfl
  · rintro ⟨j, up⟩ ⟨hu, deal, hr⟩
    obtain ⟨o, ho, rfl⟩ := sound.succeeded hprices (ended j) hr
    exact ⟨(j, o), ⟨hu, ho⟩, rfl⟩

/-- A reservation is held by commits only. -/
theorem unheld (sound : Sound lifetimes start before users h t stands)
    (hc : ¬ (t.plans i).Committing) : (stands i).stake.payment? = none := by
  rw [sound.plans] at hc
  cases hs : stands i with
  | commit => rw [hs] at hc; exact absurd trivial hc
  | settled deal result => rcases result with refusal | gain <;> rfl
  | _ => rfl

/-- A call that did not succeed owes nothing, once its commit has ended. -/
theorem owes_nothing (sound : Sound lifetimes start before users h t stands)
    (hprices : ∀ p ∈ start.prices, 0 ≤ p.coins) (hc : ¬ (t.plans i).Committing)
    (failed : ∀ o, t.plans i ≠ .done (.ok o)) : (stands i).stake = .nothing := by
  have unreached : (stands i).reached = none := by
    rcases hr : (stands i).reached with _ | ⟨deal, up⟩
    · rfl
    · obtain ⟨o, ho, -⟩ := sound.succeeded hprices hc hr
      exact absurd ho (failed o)
  rw [sound.plans] at hc
  cases hs : stands i with
  | commit => rw [hs] at hc; exact absurd trivial hc
  | settled deal result =>
    rw [hs] at unreached
    rcases result with refusal | gain
    · rfl
    · cases unreached
  | _ => rfl

/-- What a call owes once its commit has ended is what it has cost. -/
theorem cost_eq (sound : Sound lifetimes start before users h t stands)
    (hprices : ∀ p ∈ start.prices, 0 ≤ p.coins) (hc : ¬ (t.plans i).Committing) {owed : Int}
    {reserved : Table PaymentId Reservation}
    (owes : (stands i).stake.Owes reserved (users i) owed) :
    owed = cost (.ofPrices start.prices) (t.plans i) (h.of i) := by
  by_cases hd : ∃ o, t.plans i = .done (.ok o)
  · obtain ⟨o, ho⟩ := hd
    obtain ⟨deal, pending, hs⟩ := Standing.settled_of_done (sound.plans _ ▸ ho)
    have record := sound.course.record i
    rw [hs] at record owes
    have hprice := sound.price record.1
    rw [sound.course.ladder.next i deal o.level (by simp [hs, Standing.reached])] at hprice
    have hpay : (PriceList.ofPrices start.prices).priceFor? o.level = some deal.price := hprice
    have howed : owed = deal.path.amount.toInt := owes
    have settled : Settled (users i) deal (bindings (h.of i)) := record.2
    rw [howed, settled.amount_eq, any_isTook_bindings]
    simp only [cost, ho, hpay]
    rfl
  · have failed : ∀ o, t.plans i ≠ .done (.ok o) := fun o ho => hd ⟨o, ho⟩
    rw [sound.owes_nothing hprices hc failed] at owes
    have hzero : owed = 0 := owes
    unfold cost
    split
    · rename_i o ho
      exact absurd ho (failed o)
    · exact hzero

end Sound

/-- In whatever order level-ups take their turns, once no commit is under way the calls of a player
that succeeded have reached the levels from the first one to the last, each of them once. No
reservation of theirs is left, and every account is short of their prices and of nothing else. -/
theorem level_ups_share_no_level_and_lose_no_coin
    (hprices : ∀ p ∈ start.prices, 0 ≤ p.coins)
    (cached : ∀ text list, start.cache.get? Key.prices.text = some text →
      decodeText? text = some list → list = PriceList.ofPrices start.prices)
    (older : ∀ payment, payment ∉ before → start.reserved.get? payment = none)
    (run : System.Run World.Replies (.levelUps lifetimes users start before) h t)
    (ended : ∀ i, ¬ (t.plans i).Committing) :
    (∀ u, start.characters.get? u = none →
      t.world.characters.get? u = none ∧ successes users t u = ∅) ∧
    (∀ u c, start.characters.get? u = some c → ∃ top,
      t.world.characters.get? u = some { c with level := top } ∧
      (successes users t u).BijOn (fun o => o.2.level.toInt)
        (Set.Ioc c.level.toInt top.toInt) ∧
      top.toInt = c.level.toInt + (successes users t u).ncard) ∧
    (∀ payment, t.world.reserved.get? payment = start.reserved.get? payment) ∧
    (∀ i payment, (i, .took payment) ∈ h → t.world.reserved.get? payment = none) ∧
    ∀ u, t.world.accounts.get? u = (start.accounts.get? u).map fun a =>
      a.debit (∑ i with users i = u,
        cost (.ofPrices start.prices) (t.plans i) (h.of i)) := by
  obtain ⟨stands, sound⟩ := Sound.run run cached older
  obtain ⟨owed, books⟩ := sound.books
  have image := sound.image_successes hprices ended
  have reserved (payment : PaymentId) :
      t.world.reserved.get? payment = start.reserved.get? payment := by
    refine books.rest payment fun i => ?_
    rw [sound.unheld (ended i)]
    simp
  refine ⟨fun u hu => ?_, fun u c hu => ?_, reserved, fun i payment hp => ?_, fun u => ?_⟩
  · obtain ⟨hw, hset⟩ := sound.course.ladder.absent u hu
    refine ⟨hw, Set.eq_empty_of_forall_notMem fun o ho => ?_⟩
    have := (image u).mapsTo ho
    rw [hset] at this
    exact this
  · obtain ⟨top, hw, hle, hbij⟩ := sound.course.ladder.present u c hu
    have bij := hbij.comp (image u)
    refine ⟨top, hw, bij, ?_⟩
    rw [Set.BijOn.ncard_eq bij, ← Finset.coe_Ioc, Set.ncard_coe_finset,
      Int.card_Ioc_of_le _ _ (Int32.le_iff_toInt_le.mp hle)]
    omega
  · rw [reserved]
    exact older payment (run.took_new.2 i payment hp).1
  · rw [books.accounts]
    have hsum : ∑ i with users i = u, owed i
        = ∑ i with users i = u, cost (.ofPrices start.prices) (t.plans i) (h.of i) :=
      Finset.sum_congr rfl fun i _ => sound.cost_eq hprices (ended i) (books.held.owes i)
    rw [hsum]

/-! ## Two level-ups of one player -/

theorem Rehearsal.World.Replies.works (w : World) (c : Call) :
    World.Replies w c (w.perform c).1 (w.perform c).2 := by
  cases c with
  | store c => exact .inl ⟨rfl, rfl⟩
  | cache c => exact ⟨w, ⟨rfl, fun _ _ h => h⟩, .inl ⟨rfl, rfl⟩⟩
  | gateway c => exact .inl ⟨rfl, rfl⟩

/-- Both level-ups reserve the price of the second level. One of them comes to that level, the other
one meets a conflict, and of the coins only one price is gone. -/
theorem two_level_ups_come_to_one_level_and_pay_one_price :
    ∃ h t, System.Run World.Replies
        (.levelUps ⟨.ofSeconds 300, .ofSeconds 3600⟩ (fun _ : Bool => 7) aPlayer ∅) h t ∧
      (∀ i, ∃ payment, (i, reserving 7 aDeal payment (.ok ())) ∈ h) ∧
      (∀ i, ¬ (t.plans i).Committing) ∧
      t.plans true = .done (.ok ⟨2, 50, false⟩) ∧
      t.plans false = .done (.error (.levelMoved (.levelMoved 7 1))) ∧
      (∃ top, t.world.characters.get? 7 = some ⟨top, 1⟩ ∧
        (successes (fun _ : Bool => 7) t 7).BijOn (fun o => o.2.level.toInt)
          (Set.Ioc 1 top.toInt)) ∧
      (∀ payment, t.world.reserved.get? payment = none) ∧
      t.world.accounts.get? 7 = some ⟨50, 0⟩ := by
  let lifetimes : Lifetimes := ⟨.ofSeconds 300, .ofSeconds 3600⟩
  let start := System.levelUps lifetimes (fun _ : Bool => 7) aPlayer ∅
  have answers : Collaborators.GoAlong World.Replies aPlayer ∅ someQuestions aPlayer ∅ := by
    have works := World.Replies.works aPlayer
    exact .called (works _) (.called (works _) (.called (works _) (.called (works _) .nil)))
  have goes : ∃ w taken, Collaborators.GoAlong World.Replies aPlayer ∅
      ((twoCommits lifetimes).map Prod.snd) w taken := by
    apply Exists.intro
    apply Exists.intro
    apply Collaborators.GoAlong.took (Set.notMem_empty _)
    apply Collaborators.GoAlong.took (by simp)
    repeat apply Collaborators.GoAlong.called (World.Replies.works _ _)
    exact .nil
  obtain ⟨w, taken, goes⟩ := goes
  have asked (i : Bool) : start.plans i = (start.plans i).map id := (Plan.bind_done _).symm
  obtain ⟨t, run, ends⟩ := System.run_aRace asked answers goes
  have ended : ∀ i, ¬ (t.plans i).Committing := fun i => by rw [ends]; exact id
  have sorted : PriceList.ofPrices aPlayer.prices = ⟨[aDeal.price]⟩ := by
    simp [PriceList.ofPrices, aPlayer, aDeal]
  have cached : ∀ text list, aPlayer.cache.get? Key.prices.text = some text →
      decodeText? text = some list → list = PriceList.ofPrices aPlayer.prices := by
    intro text list ht hd
    cases ht
    rw [sorted]
    exact (Option.some.inj hd).symm
  have won : cost (.ofPrices aPlayer.prices) (t.plans true) ((aRace lifetimes).of true)
      = 100 := by
    rw [sorted, ends]
    rfl
  have lost : cost (.ofPrices aPlayer.prices) (t.plans false) ((aRace lifetimes).of false)
      = 0 := by
    rw [ends]
    rfl
  obtain ⟨-, levels, unreserved, -, accounts⟩ :=
    level_ups_share_no_level_and_lose_no_coin (by decide) cached (by simp [aPlayer]) run ended
  obtain ⟨top, hw, hbij, -⟩ := levels 7 ⟨1, 1⟩ rfl
  refine ⟨_, t, run, fun i => ?_, ended, ends true, ends false, ⟨top, hw, hbij⟩, unreserved, ?_⟩
  · cases i with
    | true => exact ⟨⟨1⟩, by simp [aRace, twoCommits]⟩
    | false => exact ⟨⟨2⟩, by simp [aRace, twoCommits]⟩
  · rw [accounts, Finset.filter_true_of_mem fun _ _ => rfl, Fintype.sum_bool, won, lost]
    rfl

end Progression
