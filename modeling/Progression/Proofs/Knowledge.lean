-- What a level-up knows, and the deal that follows from it. A level-up is
-- told each of four things once at most: the level, the prices, the balance
-- and the referrals. If a deal follows from them it is the one that the
-- level-up settles, and otherwise the level-up binds nothing.
import Progression.Proofs.Purchase
import Progression.Proofs.Telling

namespace Progression

/-- A read does not ask the gateway. -/
theorem Reading.Next.ne_gateway {α : Type} [Coded α] {src : Source α} {d : Deed} {r : Reading α}
    {r' : Reading α ⊕ Except Refusal α} (h : Next src r d r') (c : GatewayCall)
    (reply : Except PaymentFault c.Answer) : .called (.gateway c) reply ≠ d := by
  cases h <;> nofun

namespace LevelUp

/-! ## The deal that follows -/

/-- What a level-up has been told so far. -/
structure Knowledge where
  level : Option Level
  prices : Option PriceList
  balance : Option Coins
  referrals : Option Referrals

/-- The deal that a level-up makes which knows this. -/
def Knowledge.deal? (known : Knowledge) : Option Deal := do
  let current ← known.level
  let list ← known.prices
  let price ← current.next?.bind list.priceFor?
  let balance ← known.balance
  let referrals ← known.referrals
  let path ← PaymentPath.decide? price balance referrals
  return ⟨current, price, balance, referrals, path⟩

theorem Knowledge.deal?_eq_some {known : Knowledge} {deal : Deal} :
    known.deal? = some deal ↔ known.level = some deal.current ∧
      (∃ list, known.prices = some list ∧
        deal.current.next?.bind list.priceFor? = some deal.price) ∧
      known.balance = some deal.balance ∧ known.referrals = some deal.referrals ∧
      PaymentPath.decide? deal.price deal.balance deal.referrals = some deal.path := by
  simp only [deal?, Option.bind_eq_bind, Option.bind_eq_some_iff, Option.pure_def,
    Option.some.injEq]
  constructor
  · rintro ⟨current, hc, list, hl, price, hp, balance, hb, referrals, hr, path, hd, rfl⟩
    exact ⟨hc, ⟨list, hl, hp⟩, hb, hr, hd⟩
  · rintro ⟨hc, ⟨list, hl, hp⟩, hb, hr, hd⟩
    exact ⟨_, hc, list, hl, _, hp, _, hb, _, hr, _, hd, rfl⟩

/-- These deeds have told a level-up this and nothing else. -/
structure Knows (lifetimes : Lifetimes) (user : UserId) (ds : List Deed) (known : Knowledge) :
    Prop where
  level : (Source.level lifetimes user).Learnt ds known.level
  prices : (Source.prices lifetimes).Learnt ds known.prices
  balance : ∀ n, .called (.gateway (.balance user)) (.ok n) ∈ ds ↔ known.balance = some n
  referrals : ∀ n, .called (.gateway (.referrals user)) (.ok n) ∈ ds ↔ known.referrals = some n

variable {lifetimes : Lifetimes} {user : UserId} {ds : List Deed} {d : Deed} {known : Knowledge}

/-- Who has been told what a deal takes makes that deal and no other. -/
theorem Knows.informed_iff (knows : Knows lifetimes user ds known) {deal : Deal} :
    Informed lifetimes user ds deal ↔ known.deal? = some deal := by
  rw [Knowledge.deal?_eq_some]
  constructor
  · intro h
    obtain ⟨list, hl, hp⟩ := h.price
    exact ⟨(knows.level _).mp h.level, ⟨list, (knows.prices _).mp hl, hp⟩,
      (knows.balance _).mp h.balance, (knows.referrals _).mp h.referrals, h.path⟩
  · rintro ⟨hc, ⟨list, hl, hp⟩, hb, hr, hd⟩
    exact ⟨(knows.level _).mpr hc, ⟨list, (knows.prices _).mpr hl, hp⟩,
      (knows.balance _).mpr hb, (knows.referrals _).mpr hr, hd⟩

theorem Knows.start : Knows lifetimes user [] ⟨none, none, none, none⟩ where
  level := Source.learnt_nil
  prices := Source.learnt_nil
  balance := by simp
  referrals := by simp

/-- The deed asks for none of the four. -/
structure Deaf (lifetimes : Lifetimes) (user : UserId) (d : Deed) : Prop where
  level : ¬ (Source.level lifetimes user).Hears d
  prices : ¬ (Source.prices lifetimes).Hears d
  balance : ∀ n, .called (.gateway (.balance user)) (.ok n) ≠ d
  referrals : ∀ n, .called (.gateway (.referrals user)) (.ok n) ≠ d

theorem Knows.deaf (knows : Knows lifetimes user ds known) (hd : Deaf lifetimes user d) :
    Knows lifetimes user (ds ++ [d]) known where
  level := knows.level.deaf hd.level
  prices := knows.prices.deaf hd.prices
  balance n := by simp [hd.balance n, knows.balance n]
  referrals n := by simp [hd.referrals n, knows.referrals n]

theorem deaf_fault {c : GatewayCall} (fault : PaymentFault) :
    Deaf lifetimes user (.called (.gateway c) (.error fault)) where
  level := by simp [Source.Hears]
  prices := by simp [Source.Hears]
  balance n h := by cases h
  referrals n h := by cases h

/-! ## What a level-up knows at each standing -/

namespace Standing

/-- What a level-up knows that stands there. One that has been refused did not get to the prices, or
there is a number for the next level; without a price for that it is refused as being at the top. -/
def Has (known : Knowledge) : Standing → Prop
  | .level reading => known = ⟨Reading.value? (.inl reading), none, none, none⟩
  | .prices current reading => known = ⟨some current, Reading.value? (.inl reading), none, none⟩
  | .funds current price balance referrals => ∃ list,
    known = ⟨some current, some list, balance, referrals⟩ ∧
      current.next?.bind list.priceFor? = some price
  | .commit deal _ | .settled deal _ => known.deal? = some deal
  | .refused refusal => known.deal? = none ∧ (known.prices = none ∨
    ∃ current list next, known.level = some current ∧ known.prices = some list ∧
      current.next? = some next ∧ (list.priceFor? next = none → refusal = .topLevel current))
  | .beyond => ∃ current list, known.level = some current ∧ known.prices = some list ∧
    current.next? = none

theorem has_ofPrices (current : Level) (list : PriceList) :
    (ofPrices current list).Has ⟨some current, some list, none, none⟩ := by
  apply ofPrices_cases (P := Has ⟨some current, some list, none, none⟩)
  · intro hn
    exact ⟨current, list, rfl, rfl, hn⟩
  · intro next hn hp
    exact ⟨by simp [Knowledge.deal?], .inr ⟨current, list, next, rfl, rfl, hn, fun _ => rfl⟩⟩
  · intro price hp
    exact ⟨list, rfl, hp⟩

/-- A price has been found, so a refusal need not be the one at the top. -/
theorem has_refused {current : Level} {list : PriceList} {price : LevelPrice}
    (hp : current.next?.bind list.priceFor? = some price) {balance : Option Coins}
    {referrals : Option Referrals} (refusal : Refusal)
    (none_follows : Knowledge.deal? ⟨some current, some list, balance, referrals⟩ = none) :
    (Standing.refused refusal).Has ⟨some current, some list, balance, referrals⟩ := by
  rw [Option.bind_eq_some_iff] at hp
  obtain ⟨next, hn, hp⟩ := hp
  refine ⟨none_follows, .inr ⟨current, list, next, rfl, rfl, hn, ?_⟩⟩
  intro hnone
  rw [hp] at hnone
  cases hnone

theorem has_ofAnswers {current : Level} {list : PriceList} {price : LevelPrice}
    (hp : current.next?.bind list.priceFor? = some price) (balance : Option Coins)
    (referrals : Option Referrals) :
    (ofAnswers current price balance referrals).Has
      ⟨some current, some list, balance, referrals⟩ := by
  unfold ofAnswers
  split
  · rename_i balance referrals
    have follows : Knowledge.deal? ⟨some current, some list, some balance, some referrals⟩
        = (PaymentPath.decide? price balance referrals).bind
          fun path => some ⟨current, price, balance, referrals, path⟩ := by
      simp [Knowledge.deal?, hp]
    unfold ofFunds
    cases hd : PaymentPath.decide? price balance referrals with
    | none =>
      rw [hd] at follows
      exact has_refused hp _ follows
    | some path =>
      rw [hd] at follows
      cases path <;> exact follows
  · exact ⟨list, rfl, hp⟩

theorem has_ofResult {deal : Deal} {result : TaskResult} (h : known.deal? = some deal) :
    (ofResult deal result).Has known := by
  unfold ofResult
  split <;> exact h

theorem level_ne_prices : (Source.level lifetimes user).key ≠ (Source.prices lifetimes).key ∧
    (Source.level lifetimes user).load ≠ (Source.prices lifetimes).load := by
  simp [Source.level, Source.prices]

/-- After each turn a level-up knows what it has been told. -/
theorem Next.knows {s s' : Standing} (h : Next lifetimes user s d s')
    (knows : Knows lifetimes user ds known) (has : s.Has known) :
    ∃ known', Knows lifetimes user (ds ++ [d]) known' ∧ s'.Has known' := by
  cases h with
  | @readLevel _ r' _ next =>
    cases has
    refine ⟨⟨Reading.value? r', none, none, none⟩, ?_, ?_⟩
    · exact {
        level := next.learnt knows.level
        prices := knows.prices.deaf (next.deaf level_ne_prices.1 level_ne_prices.2)
        balance := fun n => by simp [next.ne_gateway, knows.balance n]
        referrals := fun n => by simp [next.ne_gateway, knows.referrals n] }
    · rcases r' with reading | (refusal | current)
      · rfl
      · exact ⟨rfl, .inl rfl⟩
      · rfl
  | @readPrices current _ r' _ next =>
    cases has
    refine ⟨⟨some current, Reading.value? r', none, none⟩, ?_, ?_⟩
    · exact {
        level := knows.level.deaf (next.deaf level_ne_prices.1.symm level_ne_prices.2.symm)
        prices := next.learnt knows.prices
        balance := fun n => by simp [next.ne_gateway, knows.balance n]
        referrals := fun n => by simp [next.ne_gateway, knows.referrals n] }
    · rcases r' with reading | (refusal | list)
      · rfl
      · exact ⟨rfl, .inl rfl⟩
      · exact has_ofPrices current list
  | @balance current price referrals n =>
    obtain ⟨list, rfl, hp⟩ := has
    refine ⟨⟨some current, some list, some n, referrals⟩, ?_, has_ofAnswers hp _ _⟩
    exact {
      level := knows.level.deaf (by simp [Source.Hears])
      prices := knows.prices.deaf (by simp [Source.Hears])
      balance := fun m => by simp [knows.balance m, eq_comm]
      referrals := fun m => by simp [knows.referrals m] }
  | @referrals current price balance n =>
    obtain ⟨list, rfl, hp⟩ := has
    refine ⟨⟨some current, some list, balance, some n⟩, ?_, has_ofAnswers hp _ _⟩
    exact {
      level := knows.level.deaf (by simp [Source.Hears])
      prices := knows.prices.deaf (by simp [Source.Hears])
      balance := fun m => by simp [knows.balance m]
      referrals := fun m => by simp [knows.referrals m, eq_comm] }
  | noBalance fault | noReferrals fault =>
    obtain ⟨list, rfl, hp⟩ := has
    refine ⟨_, knows.deaf (deaf_fault fault), has_refused hp _ ?_⟩
    simp [Knowledge.deal?]
  | released | stayedFree =>
    refine ⟨known, knows.deaf ?_, has_ofResult has⟩
    constructor <;> simp [Source.Hears, Source.level, Source.prices]
  | _ =>
    refine ⟨known, knows.deaf ?_, has⟩
    constructor <;> simp [Source.Hears, Source.level, Source.prices]

/-- A level-up that is over has settled the deal that follows from what it knows; if none follows,
it has bound nothing. -/
theorem Record.settles {s : Standing} (record : s.Record lifetimes user ds)
    (knows : Knows lifetimes user ds known) (has : s.Has known)
    (ended : (s.plan lifetimes user).Over) :
    (∀ deal, Informed lifetimes user (inquiries ds) deal → Settled user deal (bindings ds)) ∧
      (bindings ds = [] ↔ ∀ deal, ¬ Informed lifetimes user (inquiries ds) deal) := by
  have follows {deal : Deal} (h : Informed lifetimes user (inquiries ds) deal) :
      known.deal? = some deal := knows.informed_iff.mp (h.mono (inquiries_subset ds))
  have unbound (nothing : known.deal? = none) (none_bound : bindings ds = []) :
      (∀ deal, Informed lifetimes user (inquiries ds) deal → Settled user deal (bindings ds)) ∧
        (bindings ds = [] ↔ ∀ deal, ¬ Informed lifetimes user (inquiries ds) deal) := by
    have uninformed (deal : Deal) : ¬ Informed lifetimes user (inquiries ds) deal := by
      intro h
      rw [follows h] at nothing
      cases nothing
    exact ⟨fun deal h => absurd h (uninformed deal), fun _ => uninformed, fun _ => none_bound⟩
  rcases over_cases ended with ⟨deal, result, rfl⟩ | ⟨refusal, rfl⟩ | rfl
  · obtain ⟨informed, settled⟩ := record
    have bound : bindings ds ≠ [] := by
      intro nothing
      rw [nothing] at settled
      cases settled
    refine ⟨?_, fun nothing => absurd nothing bound, fun none => absurd informed (none deal)⟩
    intro deal' h
    cases has.symm.trans (follows h)
    exact settled
  · exact unbound has.1 record
  · obtain ⟨current, list, hc, hl, hn⟩ := has
    exact unbound (by simp [Knowledge.deal?, hc, hl, hn]) record

end Standing

end LevelUp

/-! ## The law -/

section Law

variable {σ ι : Type} [DecidableEq ι] {col : Collaborators σ} {lifetimes : Lifetimes}
  {asks : ι → Rehearsal.Question} {world : σ} {taken : Set PaymentId} {h : History ι}
  {t : System σ fun _ : ι => Except Refusal Json} {i : ι} {user : UserId}

/-- A level-up is always at a standing, and it knows what it has been told. -/
theorem System.Run.knowing (run : System.Run col (.asking lifetimes asks world taken) h t)
    (hi : asks i = .levelUp user) : ∃ s : LevelUp.Standing,
      t.plans i = (s.plan lifetimes user).map (Except.map LevelUpOutcome.summary) ∧
      s.Record lifetimes user (h.of i) ∧
      ∃ known, LevelUp.Knows lifetimes user (h.of i) known ∧ s.Has known := by
  refine run.at_standing (P := fun ds s => s.Record lifetimes user ds ∧
    ∃ known, LevelUp.Knows lifetimes user ds known ∧ s.Has known)
    ⟨_, System.asking_levelUp hi, ⟨rfl, trivial⟩, _, .start, rfl⟩ ?_
  rintro ds s d s' ⟨record, known, knows, has⟩ next
  exact ⟨next.record record, next.knows knows has⟩

/-- A level-up binds nothing before it knows the level, the price of the next one, the balance
and the referrals, and these are enough for it to be paid for. Once it is over it has settled the
deal that follows from what it knows, and it has bound nothing only if no deal follows. Nobody else
ever carries a payment id that it took. -/
theorem a_level_up_settles_what_it_reserves
    (run : System.Run col (.asking lifetimes asks world taken) h t)
    (hi : asks i = .levelUp user) :
    (∀ (before after : History ι) (d : Deed), h = before ++ (i, d) :: after → d.binds = true →
      ∃ deal, LevelUp.Informed lifetimes user (before.of i) deal) ∧
    ((t.plans i).Over →
      (∀ deal, LevelUp.Informed lifetimes user (inquiries (h.of i)) deal →
        LevelUp.Settled user deal (bindings (h.of i))) ∧
      (bindings (h.of i) = [] ↔
        ∀ deal, ¬ LevelUp.Informed lifetimes user (inquiries (h.of i)) deal)) ∧
    ∀ payment, (i, .took payment) ∈ h →
      ∀ j d, (j, d) ∈ h → d.payment? = some payment → j = i := by
  refine ⟨?_, ?_, ?_⟩
  · rintro before after d rfl hd
    obtain ⟨user', s, s', hi', hr, hn⟩ := run.binding hd
    cases hi.symm.trans hi'
    exact hn.informed hr hd
  · intro ended
    obtain ⟨s, hp, record, known, knows, has⟩ := run.knowing hi
    rw [hp] at ended
    exact record.settles knows has ended.of_map
  · intro payment htook j d hj hd
    exact run.took_once (run.carried hj hd) htook

end Law

/-- What the player has been told is enough for the second level. -/
theorem aDeal_informed {lifetimes : Lifetimes} :
    LevelUp.Informed lifetimes 7 someQuestions aDeal where
  level := .inl ⟨"1", by simp [someQuestions, LevelUp.cachedQuestions, Source.level], rfl⟩
  price := by
    refine ⟨⟨[aDeal.price]⟩, .inl ⟨"[[[2,100,0,5]]]", ?_, rfl⟩, rfl⟩
    simp [someQuestions, LevelUp.cachedQuestions, Source.prices]
  balance := by simp [someQuestions, LevelUp.cachedQuestions, aDeal]
  referrals := by simp [someQuestions, LevelUp.cachedQuestions, aDeal]
  path := rfl

/-- A level-up whose reservation timed out gives the coins back. -/
theorem a_doubtful_reservation_is_given_back :
    let lifetimes : Lifetimes := ⟨.ofSeconds 300, .ofSeconds 3600⟩
    ∃ h t, System.Run (fun _ _ _ after => after = ())
        (.asking lifetimes (fun _ : Unit => .levelUp 7) () ∅) h t ∧
      (t.plans ()).Over ∧
      LevelUp.Informed lifetimes 7 (inquiries (h.of ())) aDeal ∧
      bindings (h.of ()) = [.took ⟨1⟩,
        .called (.gateway (.initiate 7 100 ⟨1⟩)) (.error (.timeout 1)),
        .called (.gateway (.finalize ⟨1⟩ false)) (.ok ())] ∧
      LevelUp.Settled 7 aDeal (bindings (h.of ())) := by
  intro lifetimes
  open LevelUp Standing in
  have take : Next lifetimes 7 (.commit aDeal .take) (.took ⟨1⟩) (.commit aDeal (.reserve ⟨1⟩)) :=
    .take ⟨1⟩
  have doubtful : Next lifetimes 7 (.commit aDeal (.reserve ⟨1⟩))
      (.called (.gateway (.initiate 7 100 ⟨1⟩)) (.error (.timeout 1)))
      (.commit aDeal (.release ⟨1⟩ (.payment (.timeout 1)))) := .doubtful rfl
  have released : Next lifetimes 7 (.commit aDeal (.release ⟨1⟩ (.payment (.timeout 1))))
      (.called (.gateway (.finalize ⟨1⟩ false)) (.ok ()))
      (.settled aDeal (.error (.payment (.timeout 1)))) := .released (.ok ())
  let start := System.asking lifetimes (fun _ : Unit => .levelUp 7) () ∅
  have nothing : System.Run (fun _ _ _ after => after = ()) start [] start := .start
  obtain ⟨_, run, hp, -, ht, -⟩ := nothing.inquires (i := ()) rfl
    (.called rfl (.called rfl (.called rfl (.called rfl .nil))))
  have fresh : ⟨1⟩ ∉ (∅ : Set PaymentId) := by simp
  obtain ⟨_, run, hp, -⟩ := run.takes hp (take.step.map _) (by rwa [ht])
  obtain ⟨_, run, hp, -⟩ := run.called hp (doubtful.step.map _) rfl
  obtain ⟨t, run, hp, -⟩ := run.called hp (released.step.map _) rfl
  have ended : (t.plans ()).Over := hp ▸ trivial
  refine ⟨_, t, run, ended, aDeal_informed, rfl, ?_⟩
  exact ((a_level_up_settles_what_it_reserves run rfl).2.1 ended).1 aDeal aDeal_informed

end Progression
