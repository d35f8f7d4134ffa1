-- What a level-up binds. It pays only once it has been told the level, the
-- price, the balance and the referrals, and its record says what it has
-- reserved and settled. The record is kept for all replies of the
-- collaborators and all orders of calls.
import Mathlib.Data.List.TakeWhile
import Progression.Proofs.Questions
import Progression.Proofs.Standing

namespace Progression

/-! ## Deeds that bind -/

/-- The payment id that a call carries. -/
def Call.payment? : Call → Option PaymentId
  | .gateway (.initiate _ _ payment) => some payment
  | .gateway (.finalize payment _) => some payment
  | _ => none

/-- The call is about a reservation, or takes a character up. -/
def Call.binds : Call → Bool
  | .store (.incrementLevel ..) => true
  | c => c.payment?.isSome

namespace Deed

def payment? : Deed → Option PaymentId
  | .called c _ => c.payment?
  | .took _ => none

def binds : Deed → Bool
  | .called c _ => c.binds
  | .took _ => true

end Deed

theorem Deed.binds_of_payment {d : Deed} {payment : PaymentId} (h : d.payment? = some payment) :
    d.binds = true := by
  cases d with
  | took => rfl
  | called c reply =>
    have hc : c.payment? = some payment := h
    show c.binds = true
    unfold Call.binds
    split
    · rfl
    · simp [hc]

/-- The deeds of a party that bind, the oldest first. -/
def bindings (ds : List Deed) : List Deed := ds.filter Deed.binds

/-- The deeds of a party before the first one that binds. -/
def inquiries (ds : List Deed) : List Deed := ds.takeWhile fun d => !d.binds

theorem bindings_snoc (ds : List Deed) (d : Deed) :
    bindings (ds ++ [d]) = bindings ds ++ if d.binds then [d] else [] := by
  rw [bindings, List.filter_append, List.filter_cons]
  rfl

theorem bindings_quiet (ds : List Deed) {d : Deed} (h : d.binds = false) :
    bindings (ds ++ [d]) = bindings ds := by simp [bindings_snoc, h]

/-- A deed that binds is written down behind the others. -/
theorem bindings_binding {ds bound : List Deed} {d : Deed} (hb : bindings ds = bound)
    (h : d.binds = true) : bindings (ds ++ [d]) = bound ++ [d] := by simp [bindings_snoc, h, hb]

theorem inquiries_of_unbound {ds : List Deed} (h : bindings ds = []) : inquiries ds = ds := by
  refine List.takeWhile_eq_self_iff.mpr fun d hd => ?_
  simpa using List.filter_eq_nil_iff.mp h d hd

theorem inquiries_snoc (ds : List Deed) (d : Deed) : inquiries ds ⊆ inquiries (ds ++ [d]) := by
  unfold inquiries
  rw [List.takeWhile_append]
  split
  · exact List.Subset.trans (List.takeWhile_prefix _).subset (List.subset_append_left ..)
  · exact fun _ => id

theorem inquiries_subset (ds : List Deed) : inquiries ds ⊆ ds := (List.takeWhile_prefix _).subset

/-- The deed takes a payment id. -/
def Deed.isTook : Deed → Bool
  | .took _ => true
  | _ => false

theorem any_isTook_bindings (ds : List Deed) :
    (bindings ds).any Deed.isTook = ds.any Deed.isTook := by
  unfold bindings
  rw [List.any_filter]
  congr 1
  funext d
  cases d with
  | called => simp [Deed.isTook]
  | took => rfl

theorem mem_of_mem_bindings {ds : List Deed} {d : Deed} (h : d ∈ bindings ds) : d ∈ ds :=
  (List.mem_filter.mp h).1

/-! ## What a party has been told -/

section Told

variable {α : Type} [Coded α] {src : Source α} {ds : List Deed} {d : Deed} {a : α}

/-- The party has been told this value: by a text in the cache, or by the store. -/
def Source.Told (src : Source α) (ds : List Deed) (a : α) : Prop :=
  (∃ text, Deed.called (.cache (.get src.key)) (.ok (some text)) ∈ ds ∧
    decodeText? text = some a) ∨
  ∃ answer, Deed.called (.store src.load) (.ok answer) ∈ ds ∧ src.value answer = a

theorem Source.Told.mono {ds' : List Deed} (h : src.Told ds a) (hs : ds ⊆ ds') :
    src.Told ds' a := by
  rcases h with ⟨text, hmem, hd⟩ | ⟨answer, hmem, ha⟩
  · exact .inl ⟨text, hs hmem, hd⟩
  · exact .inr ⟨answer, hs hmem, ha⟩

theorem Source.Told.snoc (h : src.Told ds a) : src.Told (ds ++ [d]) a :=
  h.mono (List.subset_append_left ..)

/-- A payment id tells nothing. -/
theorem Source.Told.of_took {payment : PaymentId} (h : src.Told (ds ++ [.took payment]) a) :
    src.Told ds a := by
  simpa [Told] using h

/-- A value that a read holds is one that it has been told. -/
def Reading.Known (src : Source α) (ds : List Deed) : Reading α ⊕ Except Refusal α → Prop
  | .inl (.keeping a) => src.Told ds a
  | .inr (.ok a) => src.Told ds a
  | _ => True

theorem Reading.Next.known {r : Reading α} {r' : Reading α ⊕ Except Refusal α}
    (h : Next src r d r') (hk : Known src ds (.inl r)) : Known src (ds ++ [d]) r' := by
  cases h with
  | hit decodes => exact .inl ⟨_, by simp, decodes⟩
  | miss => trivial
  | loaded answer => exact .inr ⟨answer, by simp, rfl⟩
  | unloaded => trivial
  | kept => exact hk.snoc

/-- A read of the level or of the prices binds nothing. -/
theorem Reading.Next.quiet {r : Reading α} {r' : Reading α ⊕ Except Refusal α}
    (h : Next src r d r') (load : (Call.store src.load).binds = false) : d.binds = false := by
  cases h with
  | loaded | unloaded => exact load
  | _ => rfl

end Told

/-- Coins pay only what they cover. -/
theorem PaymentPath.of_decide? {price : LevelPrice} {balance : Coins} {referrals : Referrals}
    {path : PaymentPath} (h : decide? price balance referrals = some path) :
    path = .coins price.coins ∧ price.coins ≤ balance ∨ path = .free := by
  unfold decide? at h
  split at h
  · exact .inl ⟨(Option.some.inj h).symm, ‹_›⟩
  · split at h
    · exact .inr (Option.some.inj h).symm
    · cases h

namespace LevelUp

/-- What a level-up has been told before it commits: the level, the price of the next one, the
balance and the referrals; and the path of payment that follows from them. -/
structure Informed (lifetimes : Lifetimes) (user : UserId) (ds : List Deed) (deal : Deal) :
    Prop where
  level : (Source.level lifetimes user).Told ds deal.current
  price : ∃ list, (Source.prices lifetimes).Told ds list ∧
    deal.current.next?.bind list.priceFor? = some deal.price
  balance : Deed.called (.gateway (.balance user)) (.ok deal.balance) ∈ ds
  referrals : Deed.called (.gateway (.referrals user)) (.ok deal.referrals) ∈ ds
  path : PaymentPath.decide? deal.price deal.balance deal.referrals = some deal.path

theorem Informed.mono {lifetimes : Lifetimes} {user : UserId} {ds ds' : List Deed} {deal : Deal}
    (h : Informed lifetimes user ds deal) (hs : ds ⊆ ds') : Informed lifetimes user ds' deal where
  level := h.level.mono hs
  price := by
    obtain ⟨list, hl, hp⟩ := h.price
    exact ⟨list, hl.mono hs, hp⟩
  balance := hs h.balance
  referrals := hs h.referrals
  path := h.path

/-! ## What a commit leaves behind -/

def reserving (user : UserId) (deal : Deal) (payment : PaymentId)
    (reply : Except PaymentFault Unit) : Deed :=
  .called (.gateway (.initiate user deal.price.coins payment)) reply

def advancing (user : UserId) (deal : Deal) (reply : Except StoreFault Level) : Deed :=
  .called (.store (.incrementLevel user deal.current)) reply

def settling (payment : PaymentId) (spend : Bool) (reply : Except PaymentFault Unit) : Deed :=
  .called (.gateway (.finalize payment spend)) reply

/-- All that a commit that has ended has bound, in that order. A path of coins has a payment id of
its own. -/
inductive Settled (user : UserId) (deal : Deal) : List Deed → Prop
  | free (path : deal.path = .free) (reply : Except StoreFault Level) :
      Settled user deal [advancing user deal reply]
  /-- The gateway has surely not reserved the price. -/
  | rejected (path : deal.path = .coins deal.price.coins) (payment : PaymentId)
      {fault : PaymentFault} (clear : fault.isAmbiguous = false) :
      Settled user deal [.took payment, reserving user deal payment (.error fault)]
  /-- Nobody knows whether the gateway has reserved the price. -/
  | doubtful (path : deal.path = .coins deal.price.coins) (payment : PaymentId)
      {fault : PaymentFault} (ambiguous : fault.isAmbiguous = true)
      (reply : Except PaymentFault Unit) :
      Settled user deal [.took payment, reserving user deal payment (.error fault),
        settling payment false reply]
  | stayed (path : deal.path = .coins deal.price.coins) (payment : PaymentId)
      (fault : StoreFault) (reply : Except PaymentFault Unit) :
      Settled user deal [.took payment, reserving user deal payment (.ok ()),
        advancing user deal (.error fault), settling payment false reply]
  | advanced (path : deal.path = .coins deal.price.coins) (payment : PaymentId) (level : Level)
      (reply : Except PaymentFault Unit) :
      Settled user deal [.took payment, reserving user deal payment (.ok ()),
        advancing user deal (.ok level), settling payment true reply]

/-- Only the path of coins takes a payment id, and it takes the price. -/
theorem Settled.amount_eq {user : UserId} {deal : Deal} {bound : List Deed}
    (h : Settled user deal bound) :
    deal.path.amount.toInt = if bound.any Deed.isTook then deal.price.coins.toInt else 0 := by
  cases h with
  | free path => simp [path, Deed.isTook, advancing, PaymentPath.amount]
  | rejected path | doubtful path | stayed path | advanced path =>
    simp [path, Deed.isTook, PaymentPath.amount]

/-- All that a commit has bound before an errand. -/
def Errand.Bound (user : UserId) (deal : Deal) (bound : List Deed) : Errand → Prop
  | .take => deal.path = .coins deal.price.coins ∧ bound = []
  | .reserve payment => deal.path = .coins deal.price.coins ∧ bound = [.took payment]
  | .advance payment => deal.path = .coins deal.price.coins ∧
    bound = [.took payment, reserving user deal payment (.ok ())]
  | .release payment _ => deal.path = .coins deal.price.coins ∧
    ((∃ fault, fault.isAmbiguous = true ∧
      bound = [.took payment, reserving user deal payment (.error fault)]) ∨
    ∃ fault, bound = [.took payment, reserving user deal payment (.ok ()),
      advancing user deal (.error fault)])
  | .spend payment level => deal.path = .coins deal.price.coins ∧
    bound = [.took payment, reserving user deal payment (.ok ()), advancing user deal (.ok level)]
  | .advanceFree => deal.path = .free ∧ bound = []
  | .keep _ | .dropProfile _ | .dropLevel _ => Settled user deal bound

namespace Standing

/-- The record that a level-up keeps up to each standing. -/
def Record (lifetimes : Lifetimes) (user : UserId) (ds : List Deed) : Standing → Prop
  | .level reading => bindings ds = [] ∧ Reading.Known (.level lifetimes user) ds (.inl reading)
  | .prices current reading => bindings ds = [] ∧ (Source.level lifetimes user).Told ds current ∧
    Reading.Known (.prices lifetimes) ds (.inl reading)
  | .funds current price balance referrals => bindings ds = [] ∧
    (Source.level lifetimes user).Told ds current ∧
    (∃ list, (Source.prices lifetimes).Told ds list ∧
      current.next?.bind list.priceFor? = some price) ∧
    (∀ n ∈ balance, Deed.called (.gateway (.balance user)) (.ok n) ∈ ds) ∧
    ∀ n ∈ referrals, Deed.called (.gateway (.referrals user)) (.ok n) ∈ ds
  | .commit deal errand =>
    Informed lifetimes user (inquiries ds) deal ∧ errand.Bound user deal (bindings ds)
  | .settled deal _ =>
    Informed lifetimes user (inquiries ds) deal ∧ Settled user deal (bindings ds)
  | .refused _ | .beyond => bindings ds = []

/-! ## Each turn keeps the record -/

variable {lifetimes : Lifetimes} {user : UserId} {ds : List Deed} {d : Deed}

theorem record_ofLevel {r : Reading Level ⊕ Except Refusal Level} (hb : bindings ds = [])
    (hk : Reading.Known (.level lifetimes user) ds r) :
    (ofLevel r).Record lifetimes user ds := by
  rcases r with reading | (refusal | current)
  · exact ⟨hb, hk⟩
  · exact hb
  · exact ⟨hb, hk, trivial⟩

theorem record_ofFunds {current : Level} {price : LevelPrice} {balance : Coins}
    {referrals : Referrals} (hb : bindings ds = [])
    (hl : (Source.level lifetimes user).Told ds current)
    (hp : ∃ list, (Source.prices lifetimes).Told ds list ∧
      current.next?.bind list.priceFor? = some price)
    (hc : Deed.called (.gateway (.balance user)) (.ok balance) ∈ ds)
    (hr : Deed.called (.gateway (.referrals user)) (.ok referrals) ∈ ds) :
    (ofFunds current price balance referrals).Record lifetimes user ds := by
  have hi := inquiries_of_unbound hb
  unfold ofFunds
  rcases hd : PaymentPath.decide? price balance referrals with _ | (amount | _)
  · exact hb
  · obtain ⟨ha, -⟩ | ha := PaymentPath.of_decide? hd <;> cases ha
    exact ⟨hi.symm ▸ ⟨hl, hp, hc, hr, hd⟩, rfl, hb⟩
  · exact ⟨hi.symm ▸ ⟨hl, hp, hc, hr, hd⟩, rfl, hb⟩

theorem record_ofAnswers {current : Level} {price : LevelPrice} {balance : Option Coins}
    {referrals : Option Referrals}
    (h : (Standing.funds current price balance referrals).Record lifetimes user ds) :
    (ofAnswers current price balance referrals).Record lifetimes user ds := by
  rcases balance with _ | balance
  · exact h
  · rcases referrals with _ | referrals
    · exact h
    · obtain ⟨hb, hl, hp, hc, hr⟩ := h
      exact record_ofFunds hb hl hp (hc _ rfl) (hr _ rfl)

theorem record_ofPriceReading {current : Level} {r : Reading PriceList ⊕ Except Refusal PriceList}
    (hb : bindings ds = []) (hl : (Source.level lifetimes user).Told ds current)
    (hk : Reading.Known (.prices lifetimes) ds r) :
    (ofPriceReading current r).Record lifetimes user ds := by
  rcases r with reading | (refusal | list)
  · exact ⟨hb, hl, hk⟩
  · exact hb
  · unfold ofPriceReading ofPrices
    rcases hn : current.next? with _ | next
    · exact hb
    · dsimp only
      rcases hp : list.priceFor? next with _ | price
      · exact hb
      · exact ⟨hb, hl, ⟨list, hk, by simp [hn, hp]⟩, by simp, by simp⟩

theorem record_ofResult {deal : Deal} {result : TaskResult}
    (hi : Informed lifetimes user (inquiries ds) deal)
    (hs : Settled user deal (bindings ds)) :
    (ofResult deal result).Record lifetimes user ds := by
  unfold ofResult
  split <;> exact ⟨hi, hs⟩

/-- A deed that does not bind leaves the record as it is. -/
theorem Record.quiet {s : Standing} (hr : s.Record lifetimes user ds) (hq : d.binds = false) :
    s.Record lifetimes user (ds ++ [d]) := by
  have hb := bindings_quiet ds hq
  cases s with
  | level reading =>
    refine ⟨hb.trans hr.1, ?_⟩
    cases reading with
    | keeping => exact hr.2.snoc
    | _ => trivial
  | prices current reading =>
    refine ⟨hb.trans hr.1, hr.2.1.snoc, ?_⟩
    cases reading with
    | keeping => exact hr.2.2.snoc
    | _ => trivial
  | funds current price balance referrals =>
    obtain ⟨hn, hl, ⟨list, ht, hp⟩, hc, hr⟩ := hr
    exact ⟨hb.trans hn, hl.snoc, ⟨list, ht.snoc, hp⟩,
      fun n hm => List.mem_append_left _ (hc n hm), fun n hm => List.mem_append_left _ (hr n hm)⟩
  | commit deal errand => exact ⟨hr.1.mono (inquiries_snoc ..), hb ▸ hr.2⟩
  | settled deal result => exact ⟨hr.1.mono (inquiries_snoc ..), hb ▸ hr.2⟩
  | refused | beyond => exact hb.trans hr

theorem Next.record {s s' : Standing} (h : Next lifetimes user s d s')
    (hr : s.Record lifetimes user ds) : s'.Record lifetimes user (ds ++ [d]) := by
  cases h with
  | readLevel next =>
    have hq := bindings_quiet ds (next.quiet rfl)
    exact record_ofLevel (hq.trans hr.1) (next.known hr.2)
  | readPrices next =>
    have hq := bindings_quiet ds (next.quiet rfl)
    exact record_ofPriceReading (hq.trans hr.1) hr.2.1.snoc (next.known hr.2.2)
  | balance n =>
    obtain ⟨hb, hl, hp, -, hf⟩ :=
      Record.quiet (d := .called (.gateway (.balance user)) (.ok n)) hr rfl
    exact record_ofAnswers ⟨hb, hl, hp, by simp, hf⟩
  | referrals n =>
    obtain ⟨hb, hl, hp, hc, -⟩ :=
      Record.quiet (d := .called (.gateway (.referrals user)) (.ok n)) hr rfl
    exact record_ofAnswers ⟨hb, hl, hp, hc, by simp⟩
  | noBalance | noReferrals => exact (bindings_quiet ds rfl).trans hr.1
  | take payment =>
    obtain ⟨hi, hpath, hb⟩ := hr
    exact ⟨(hi.mono (inquiries_snoc ..)), hpath, bindings_binding hb rfl⟩
  | reserved =>
    obtain ⟨hi, hpath, hb⟩ := hr
    refine ⟨(hi.mono (inquiries_snoc ..)), hpath, ?_⟩
    rw [bindings_binding hb rfl, hpath]
    rfl
  | @doubtful _ _ fault ambiguous =>
    obtain ⟨hi, hpath, hb⟩ := hr
    refine ⟨(hi.mono (inquiries_snoc ..)), hpath, .inl ⟨fault, ambiguous, ?_⟩⟩
    rw [bindings_binding hb rfl, hpath]
    rfl
  | @rejected _ payment _ clear =>
    obtain ⟨hi, hpath, hb⟩ := hr
    refine ⟨(hi.mono (inquiries_snoc ..)), ?_⟩
    rw [bindings_binding hb rfl, hpath]
    exact .rejected hpath payment clear
  | advanced level =>
    obtain ⟨hi, hpath, hb⟩ := hr
    exact ⟨(hi.mono (inquiries_snoc ..)), hpath, bindings_binding hb rfl⟩
  | stayed fault =>
    obtain ⟨hi, hpath, hb⟩ := hr
    exact ⟨(hi.mono (inquiries_snoc ..)), hpath, .inr ⟨fault, bindings_binding hb rfl⟩⟩
  | @released _ payment _ reply =>
    obtain ⟨hi, hpath, ⟨fault, ambiguous, hb⟩ | ⟨fault, hb⟩⟩ := hr
    · refine record_ofResult (hi.mono (inquiries_snoc ..)) ?_
      rw [bindings_binding hb rfl]
      exact .doubtful hpath payment ambiguous reply
    · refine record_ofResult (hi.mono (inquiries_snoc ..)) ?_
      rw [bindings_binding hb rfl]
      exact .stayed hpath payment fault reply
  | @spent _ payment level reply =>
    obtain ⟨hi, hpath, hb⟩ := hr
    refine ⟨(hi.mono (inquiries_snoc ..)), ?_⟩
    rw [bindings_binding hb rfl]
    exact .advanced hpath payment level reply
  | advancedFree level =>
    obtain ⟨hi, hpath, hb⟩ := hr
    refine ⟨(hi.mono (inquiries_snoc ..)), ?_⟩
    rw [bindings_binding hb rfl]
    exact .free hpath (.ok level)
  | stayedFree fault =>
    obtain ⟨hi, hpath, hb⟩ := hr
    refine record_ofResult (hi.mono (inquiries_snoc ..)) ?_
    rw [bindings_binding hb rfl]
    exact .free hpath (.error fault)
  | kept reply =>
    exact Record.quiet (d := .called (.cache (.set ..)) reply) hr rfl
  | droppedProfile reply =>
    exact Record.quiet (d := .called (.cache (.invalidate _)) reply) hr rfl
  | droppedLevel reply =>
    exact Record.quiet (d := .called (.cache (.invalidate _)) reply) hr rfl

/-- Only a level-up that knows what it must know binds anything. -/
theorem Next.informed {s s' : Standing} (h : Next lifetimes user s d s')
    (hr : s.Record lifetimes user ds) (hd : d.binds = true) :
    ∃ deal, Informed lifetimes user ds deal := by
  cases h with
  | readLevel next => exact absurd (next.quiet rfl) (by simp [hd])
  | readPrices next => exact absurd (next.quiet rfl) (by simp [hd])
  | balance | noBalance | referrals | noReferrals => cases hd
  | _ => exact ⟨_, hr.1.mono (inquiries_subset ds)⟩

/-- A call carries no payment id but one that the level-up has taken. -/
theorem Next.took {s s' : Standing} {payment : PaymentId} (h : Next lifetimes user s d s')
    (hr : s.Record lifetimes user ds) (hd : d.payment? = some payment) : .took payment ∈ ds := by
  have took {bound : List Deed} (hb : bindings ds = bound) (hm : .took payment ∈ bound) :
      .took payment ∈ ds := mem_of_mem_bindings (hb ▸ hm)
  cases h with
  | readLevel next => exact absurd (next.quiet rfl) (by simp [Deed.binds_of_payment hd])
  | readPrices next => exact absurd (next.quiet rfl) (by simp [Deed.binds_of_payment hd])
  | reserved | doubtful | rejected | spent =>
    cases hd
    exact took hr.2.2 (by simp)
  | released =>
    cases hd
    obtain ⟨-, -, ⟨_, -, hb⟩ | ⟨_, hb⟩⟩ := hr
    · exact took hb (by simp)
    · exact took hb (by simp)
  | _ => cases hd

end Standing

end LevelUp

/-! ## Questions that bind nothing -/

/-- The plan makes no call that binds. -/
abbrev Plan.Free {α : Type} (p : Plan α) : Prop := p.Only fun c => c.binds = false

/-- No question but a level-up binds anything. -/
theorem Rehearsal.Question.Calls.binds {q : Rehearsal.Question} {c : Call} (h : q.Calls c) :
    c.binds = false := by
  induction h with
  | create | wear | drop => rfl
  | level read | profile read | prices read | player read | catalogue read => cases read <;> rfl
  | look _ ih => exact ih

theorem Rehearsal.Question.free (lifetimes : Lifetimes) {q : Rehearsal.Question}
    (h : ∀ user, q ≠ .levelUp user) : (q.plan lifetimes).Free :=
  (only lifetimes h).mono fun _ => Calls.binds

/-! ## Parties that ask questions -/

namespace System

/-- Parties that each ask the service a question. -/
def asking {σ ι : Type} (lifetimes : Lifetimes) (asks : ι → Rehearsal.Question) (world : σ)
    (taken : Set PaymentId) : System σ fun _ : ι => Except Refusal Json :=
  ⟨world, taken, fun i => (asks i).plan lifetimes⟩

theorem asking_levelUp {σ ι : Type} {lifetimes : Lifetimes} {asks : ι → Rehearsal.Question}
    {world : σ} {taken : Set PaymentId} {i : ι} {user : UserId} (hi : asks i = .levelUp user) :
    (asking lifetimes asks world taken).plans i
      = ((LevelUp.Standing.level .asking).plan lifetimes user).map
          (Except.map LevelUpOutcome.summary) := by
  simp only [asking, hi, Rehearsal.Question.plan, LevelUp.Standing.levelUp_eq]

variable {σ ι : Type} [DecidableEq ι] {col : Collaborators σ} {lifetimes : Lifetimes}
  {asks : ι → Rehearsal.Question} {world : σ} {taken : Set PaymentId} {h : History ι}
  {t : System σ fun _ : ι => Except Refusal Json} {i : ι} {user : UserId}

/-- A level-up goes from standing to standing, with all that its turns preserve. -/
theorem Run.at_standing {P : List Deed → LevelUp.Standing → Prop}
    {s : System σ fun _ : ι => Except Refusal Json} (run : Run col s h t)
    (start : ∃ s₀ : LevelUp.Standing,
      s.plans i = (s₀.plan lifetimes user).map (Except.map LevelUpOutcome.summary) ∧ P [] s₀)
    (turn : ∀ ds s₁ d s₂, P ds s₁ → s₁.Next lifetimes user d s₂ → P (ds ++ [d]) s₂) :
    ∃ s₁ : LevelUp.Standing,
      t.plans i = (s₁.plan lifetimes user).map (Except.map LevelUpOutcome.summary) ∧
      P (h.of i) s₁ := by
  refine run.party (fun ds p => ∃ s₁ : LevelUp.Standing,
    p = (s₁.plan lifetimes user).map (Except.map LevelUpOutcome.summary) ∧ P ds s₁) start ?_
  rintro ds p d q ⟨s₁, rfl, hp⟩ step
  obtain ⟨p', hs, rfl⟩ := step.of_map
  obtain ⟨s₂, next, rfl⟩ := LevelUp.Standing.next_of_step hs
  exact ⟨s₂, rfl, turn ds s₁ d s₂ hp next⟩

/-- A level-up is always at a standing, with the record of what it has done. -/
theorem Run.standing (run : Run col (asking lifetimes asks world taken) h t)
    (hi : asks i = .levelUp user) : ∃ s : LevelUp.Standing,
      t.plans i = (s.plan lifetimes user).map (Except.map LevelUpOutcome.summary) ∧
      s.Record lifetimes user (h.of i) :=
  run.at_standing ⟨_, asking_levelUp hi, rfl, trivial⟩ fun _ _ _ _ hr next => next.record hr

/-- A question that is no level-up binds nothing. -/
theorem Run.free (run : Run col (asking lifetimes asks world taken) h t)
    (hi : ∀ user, asks i ≠ .levelUp user) :
    (t.plans i).Free ∧ ∀ d ∈ h.of i, d.binds = false := by
  obtain ⟨free, calls⟩ := run.only (i := i) (Rehearsal.Question.free lifetimes hi)
  refine ⟨free, fun d hd => ?_⟩
  obtain ⟨c, reply, rfl, hc⟩ := calls d hd
  exact hc

/-- What binds is a turn of a level-up that has kept its record. -/
theorem Run.binding {before after : History ι} {d : Deed}
    (run : Run col (asking lifetimes asks world taken) (before ++ (i, d) :: after) t)
    (hd : d.binds = true) : ∃ user, ∃ s s' : LevelUp.Standing, asks i = .levelUp user ∧
      s.Record lifetimes user (before.of i) ∧ s.Next lifetimes user d s' := by
  obtain ⟨u, v, run, turn⟩ := run.turn_at
  by_cases hi : ∃ user, asks i = .levelUp user
  · obtain ⟨user, hi⟩ := hi
    obtain ⟨s, hp, hr⟩ := run.standing hi
    obtain ⟨p, hs, -⟩ := (hp ▸ turn.step).of_map
    obtain ⟨s', hn, -⟩ := LevelUp.Standing.next_of_step hs
    exact ⟨user, s, s', hi, hr, hn⟩
  · have hfree := (Run.turn run turn).free (not_exists.mp hi)
    exact absurd (hfree.2 d (by simp)) (by simp [hd])

/-- A payment id is carried only by calls of the party that took it. -/
theorem Run.carried {j : ι} {d : Deed} {payment : PaymentId}
    (run : Run col (asking lifetimes asks world taken) h t) (hj : (j, d) ∈ h)
    (hd : d.payment? = some payment) : (j, .took payment) ∈ h := by
  obtain ⟨before, after, rfl⟩ := List.append_of_mem hj
  obtain ⟨user, s, s', -, hr, hn⟩ := run.binding (Deed.binds_of_payment hd)
  exact List.mem_append_left _ (History.mem_of.mp (hn.took hr hd))

end System

end Progression
