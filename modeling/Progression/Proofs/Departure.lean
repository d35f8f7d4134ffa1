-- The caller of a level-up goes away. If its task has been detached by
-- then, the task goes on as if the caller had stayed. If not, the level-up
-- has only asked questions and filled the cache with the answers, and that
-- is all that it ever does.
import Progression.Proofs.Trailing

namespace Progression

open Rehearsal

/-! ## Plans that differ in their callers only -/

namespace Plan

/-- Both plans have ended, or both wait for the same task and end with it. -/
inductive Twins {α β : Type} : Plan α → Plan β → Prop
  | finished {p : Plan α} {q : Plan β} (left : p.Over) (right : q.Over) : Twins p q
  | waiting {task : Plan TaskResult} {next : Option TaskResult → Plan α}
      {next' : Option TaskResult → Plan β} (left : ∀ result, (next result).Over)
      (right : ∀ result, (next' result).Over) : Twins (.detach task next) (.detach task next')

variable {α β γ : Type} {p p' : Plan α} {q : Plan β} {r : Plan γ} {d : Deed}

theorem Twins.symm (h : Twins p q) : Twins q p := by
  cases h with
  | finished left right => exact .finished right left
  | waiting left right => exact .waiting right left

theorem Twins.trans (h : Twins p q) (h' : Twins q r) : Twins p r := by
  cases h with
  | finished left right =>
    cases h' with
    | finished _ right' => exact .finished left right'
    | waiting => cases right
  | waiting left right =>
    cases h' with
    | finished left' => cases left'
    | waiting _ right' => exact .waiting left right'

theorem Twins.over_iff (h : Twins p q) : p.Over ↔ q.Over := by
  cases h with
  | finished left right => exact ⟨fun _ => right, fun _ => left⟩
  | waiting => exact ⟨nofun, nofun⟩

/-- Plans that wait for the same task end at the same time. -/
theorem Twins.forward {task : Plan TaskResult} {next : Option TaskResult → Plan α}
    {next' : Option TaskResult → Plan β} (left : ∀ result, (next result).Over)
    (right : ∀ result, (next' result).Over) :
    Twins (Plan.detach task next).forward (Plan.detach task next').forward := by
  unfold Plan.forward
  cases task.forward with
  | done result =>
    dsimp only
    rw [(left (some result)).forward, (right (some result)).forward]
    exact .finished (left (some result)) (right (some result))
  | overflow cause =>
    dsimp only
    rw [(left none).forward, (right none).forward]
    exact .finished (left none) (right none)
  | _ => exact .waiting left right

/-- Twins take the same turns. -/
theorem Twins.step (h : Twins p q) (step : p.Step d p') : ∃ q', q.Step d q' ∧ Twins p' q' := by
  cases h with
  | finished left => exact absurd step left.no_step
  | waiting left right =>
    cases step with
    | task step => exact ⟨_, .task step, .forward left right⟩

theorem Over.alone (ended : p.Over) : p.Alone := by
  cases p with
  | both | detach => cases ended
  | _ => trivial

theorem Over.map {f : α → β} (ended : p.Over) : (p.map f).Over := by
  cases p with
  | done | overflow => trivial
  | _ => cases ended

/-- A plan that waits for a task and ends with it has a twin for which nobody waits. -/
theorem Twins.abandoned {p : Plan (Option α)} (h : Twins p q) (settled : p.forward = p) :
    Twins p p.abandoned := by
  cases h with
  | finished left =>
    rw [abandoned_of_alone left.alone]
    exact .finished left trivial
  | waiting left =>
    rw [abandoned_detach, ← settled]
    exact .forward left fun _ => trivial

/-- When the callers of both go away, nothing tells them apart. -/
theorem Twins.leave {p q : Plan (Option α)} (h : Twins p q) :
    Twins p.abandoned q.abandoned := by
  cases h with
  | finished left right =>
    rw [abandoned_of_alone left.alone, abandoned_of_alone right.alone]
    exact .finished trivial trivial
  | waiting =>
    rw [abandoned_detach, abandoned_detach]
    exact .forward (fun _ => trivial) fun _ => trivial

theorem abandoned_forward (p : Plan (Option α)) : p.abandoned.forward = p.abandoned :=
  forward_forward _

end Plan

/-! ## Traffic that differs in one caller only -/

namespace System

variable {σ ι : Type} [DecidableEq ι] {Answer : ι → Type} {col : Collaborators σ}
  {s t u : System σ fun i => Option (Answer i)} {h rest : History ι} {i j : ι} {d : Deed}

/-- All is the same but who waits for the task of that party. -/
structure Alike (i : ι) (s t : System σ fun i => Option (Answer i)) : Prop where
  world : s.world = t.world
  taken : s.taken = t.taken
  others : ∀ j ≠ i, s.plans j = t.plans j
  twins : (s.plans i).Twins (t.plans i)

omit [DecidableEq ι] in
theorem Alike.symm (h : Alike i s t) : Alike i t s := by
  refine ⟨h.world.symm, h.taken.symm, ?_, h.twins.symm⟩
  intro j hj
  exact (h.others j hj).symm

/-- Every party can take the same turn. -/
theorem Alike.step {q : Plan (Option (Answer j))} (h : Alike i s t) (step : (s.plans j).Step d q) :
    ∃ q', (t.plans j).Step d q' ∧ ∀ (world : σ) (taken : Set PaymentId),
      Alike i ⟨world, taken, Function.update s.plans j q⟩
        ⟨world, taken, Function.update t.plans j q'⟩ := by
  by_cases hj : j = i
  · subst hj
    obtain ⟨q', step', twins⟩ := h.twins.step step
    refine ⟨q', step', fun world taken => ⟨rfl, rfl, ?_, ?_⟩⟩
    · intro k hk
      simp only [Function.update_of_ne hk]
      exact h.others k hk
    · simpa using twins
  · refine ⟨q, h.others j hj ▸ step, fun world taken => ⟨rfl, rfl, ?_, ?_⟩⟩
    · intro k hk
      by_cases hkj : k = j
      · subst hkj
        simp
      · simp only [Function.update_of_ne hkj]
        exact h.others k hk
    · simp only [Function.update_of_ne (Ne.symm hj)]
      exact h.twins

theorem Alike.turn (alike : Alike i s t) (turn : Turn col s j d u) :
    ∃ v, Turn col t j d v ∧ Alike i u v := by
  cases turn with
  | call step reply_ok =>
    obtain ⟨q', step', next⟩ := alike.step step
    refine ⟨_, .call step' (alike.world ▸ reply_ok), ?_⟩
    rw [alike.taken]
    exact next _ _
  | take step fresh =>
    obtain ⟨q', step', next⟩ := alike.step step
    refine ⟨_, .take step' (alike.taken ▸ fresh), ?_⟩
    rw [alike.world, alike.taken]
    exact next _ _

theorem Alike.leave (alike : Alike i s t) (j : ι) : Alike i (s.leave j) (t.leave j) := by
  refine ⟨alike.world, alike.taken, ?_, ?_⟩
  · intro k hk
    by_cases hkj : k = j
    · subst hkj
      rw [leave_plan_self, leave_plan_self, alike.others k hk]
    · rw [leave_plan_of_ne s hkj, leave_plan_of_ne t hkj]
      exact alike.others k hk
  · by_cases hij : i = j
    · subst hij
      rw [leave_plan_self, leave_plan_self]
      exact alike.twins.leave
    · rw [leave_plan_of_ne s hij, leave_plan_of_ne t hij]
      exact alike.twins

/-- What can happen after the one can happen after the other. -/
theorem Alike.traffic (alike : Alike i s t) (traffic : Traffic col s rest u) :
    ∃ v, Traffic col t rest v ∧ Alike i u v := by
  induction traffic with
  | start => exact ⟨t, .start, alike⟩
  | turn _ turn ih =>
    obtain ⟨v, traffic, alike⟩ := ih
    obtain ⟨v', turn', alike⟩ := alike.turn turn
    exact ⟨v', .turn traffic turn', alike⟩
  | leave _ j ih =>
    obtain ⟨v, traffic, alike⟩ := ih
    exact ⟨v.leave j, .leave traffic j, alike.leave j⟩

end System

/-! ## Questions, and what they fill the cache with -/

namespace Reading

variable {α : Type} [Coded α] {src : Source α} {ds : List Deed} {d : Deed} {r : Reading α}
  {r' : Reading α ⊕ Except Refusal α}

/-- What a read does: it looks into the cache, it loads the value, and it fills the cache with the
value that it has loaded. -/
inductive Asks (src : Source α) (ds : List Deed) : Deed → Prop
  | looks (reply : Except CacheFault (Option String)) :
      Asks src ds (.called (.cache (.get src.key)) reply)
  | loads (reply : Except StoreFault src.load.Answer) :
      Asks src ds (.called (.store src.load) reply)
  | fills {answer : src.load.Answer} (told : .called (.store src.load) (.ok answer) ∈ ds)
      (reply : Except CacheFault Unit) : Asks src ds
        (.called (.cache (.set src.key (encodeText (src.value answer)) src.lifetime)) reply)

theorem Asks.mono {ds' : List Deed} (h : Asks src ds d) (hs : ds ⊆ ds') : Asks src ds' d := by
  cases h with
  | looks reply => exact .looks reply
  | loads reply => exact .loads reply
  | fills told reply => exact .fills (hs told) reply

/-- What a read is about to keep in the cache, the store has told it. -/
def Loaded (src : Source α) (ds : List Deed) : Reading α ⊕ Except Refusal α → Prop
  | .inl (.keeping a) =>
    ∃ answer, .called (.store src.load) (.ok answer) ∈ ds ∧ src.value answer = a
  | _ => True

theorem Next.asks (h : Next src r d r') (loaded : Loaded src ds (.inl r)) : Asks src ds d := by
  cases h with
  | hit => exact .looks _
  | miss => exact .looks _
  | loaded answer => exact .loads _
  | unloaded fault => exact .loads _
  | kept reply =>
    obtain ⟨answer, told, rfl⟩ := loaded
    exact .fills told reply

theorem Next.keeps (h : Next src r d r') : Loaded src (ds ++ [d]) r' := by
  cases h with
  | loaded answer => exact ⟨answer, by simp, rfl⟩
  | _ => trivial

end Reading

namespace LevelUp

variable {lifetimes : Lifetimes} {user : UserId} {ds : List Deed} {d : Deed}

/-- What a level-up does before it commits. -/
inductive Inquiry (lifetimes : Lifetimes) (user : UserId) (ds : List Deed) : Deed → Prop
  | level {d : Deed} (asks : Reading.Asks (.level lifetimes user) ds d) :
      Inquiry lifetimes user ds d
  | prices {d : Deed} (asks : Reading.Asks (.prices lifetimes) ds d) : Inquiry lifetimes user ds d
  | balance (reply : Except PaymentFault Coins) :
      Inquiry lifetimes user ds (.called (.gateway (.balance user)) reply)
  | referrals (reply : Except PaymentFault Referrals) :
      Inquiry lifetimes user ds (.called (.gateway (.referrals user)) reply)

theorem Inquiry.mono {ds' : List Deed} (h : Inquiry lifetimes user ds d) (hs : ds ⊆ ds') :
    Inquiry lifetimes user ds' d := by
  cases h with
  | level asks => exact .level (asks.mono hs)
  | prices asks => exact .prices (asks.mono hs)
  | balance reply => exact .balance reply
  | referrals reply => exact .referrals reply

namespace Standing

/-- What a level-up is about to keep in the cache before it commits, the store has told it. -/
def Loaded (lifetimes : Lifetimes) (user : UserId) (ds : List Deed) : Standing → Prop
  | .level reading => Reading.Loaded (.level lifetimes user) ds (.inl reading)
  | .prices _ reading => Reading.Loaded (.prices lifetimes) ds (.inl reading)
  | _ => True

theorem loaded_ofPrices (current : Level) (list : PriceList) :
    (ofPrices current list).Loaded lifetimes user ds :=
  ofPrices_cases (fun _ => trivial) (fun _ _ _ => trivial) fun _ _ => trivial

theorem loaded_ofAnswers (current : Level) (price : LevelPrice) (balance : Option Coins)
    (referrals : Option Referrals) :
    (ofAnswers current price balance referrals).Loaded lifetimes user ds :=
  ofAnswers_cases trivial (fun _ _ => trivial) fun _ _ _ _ _ => trivial

theorem loaded_ofResult (deal : Deal) (result : TaskResult) :
    (ofResult deal result).Loaded lifetimes user ds := by
  unfold ofResult
  split <;> trivial

theorem Next.keeps {s s' : Standing} (h : Next lifetimes user s d s') :
    s'.Loaded lifetimes user (ds ++ [d]) := by
  cases h with
  | @readLevel r r' _ next =>
    have loaded : Reading.Loaded (.level lifetimes user) (ds ++ [d]) r' := next.keeps
    rcases r' with reading | (refusal | level)
    · exact loaded
    · trivial
    · trivial
  | @readPrices current r r' _ next =>
    have loaded : Reading.Loaded (.prices lifetimes) (ds ++ [d]) r' := next.keeps
    rcases r' with reading | (refusal | list)
    · exact loaded
    · trivial
    · exact loaded_ofPrices current list
  | balance | referrals => exact loaded_ofAnswers ..
  | released | stayedFree => exact loaded_ofResult ..
  | _ => trivial

/-- A level-up asks, or it commits. -/
theorem Next.inquiry_or {s s' : Standing} (h : Next lifetimes user s d s')
    (loaded : s.Loaded lifetimes user ds) :
    Inquiry lifetimes user ds d ∨ ∃ deal errand, s = .commit deal errand := by
  cases h with
  | readLevel next => exact .inl (.level (next.asks loaded))
  | readPrices next => exact .inl (.prices (next.asks loaded))
  | balance => exact .inl (.balance _)
  | noBalance => exact .inl (.balance _)
  | referrals => exact .inl (.referrals _)
  | noReferrals => exact .inl (.referrals _)
  | _ => exact .inr ⟨_, _, rfl⟩

/-- A level-up that has bound nothing has only asked. -/
theorem Next.inquiry {s s' : Standing} (h : Next lifetimes user s d s')
    (record : s.Record lifetimes user ds) (loaded : s.Loaded lifetimes user ds)
    (unbound : bindings (ds ++ [d]) = []) : Inquiry lifetimes user ds d := by
  rcases h.inquiry_or loaded with inquiry | ⟨deal, errand, rfl⟩
  · exact inquiry
  · have bound (hd : d.binds = true) : False := by
      rw [bindings_binding rfl hd] at unbound
      simp at unbound
    have settled (hs : Settled user deal (bindings ds)) : False := by
      rw [bindings_snoc] at unbound
      rw [(List.append_eq_nil_iff.mp unbound).1] at hs
      cases hs
    cases h with
    | kept | droppedProfile | droppedLevel => exact (settled record.2).elim
    | _ => exact (bound rfl).elim

end Standing

end LevelUp

/-! ## Level-ups whose callers may go away -/

namespace LevelUp

variable {lifetimes : Lifetimes} {user : UserId} {ds : List Deed} {d : Deed}

/-- The rest of the plan of a level-up whose caller may go away. -/
def Standing.served (lifetimes : Lifetimes) (user : UserId) (s : Standing) :
    Plan (Option (Except Refusal Json)) :=
  (s.plan lifetimes user).map fun result => some (result.map LevelUpOutcome.summary)

/-- What a level-up has done up to a standing, and its plan: that of the standing, if its caller is
still there, a twin of it if its caller went away while the task was running, or an end if the
caller went away before. -/
structure Underway (lifetimes : Lifetimes) (user : UserId) (ds : List Deed)
    (p : Plan (Option (Except Refusal Json))) (s : Standing) : Prop where
  record : s.Record lifetimes user ds
  loaded : s.Loaded lifetimes user ds
  asked : bindings ds = [] → ∀ d ∈ ds, Inquiry lifetimes user ds d
  forward : p.forward = p
  plan : p = s.served lifetimes user ∨ p.Over ∨ p.Twins (s.served lifetimes user)

namespace Underway

variable {p q : Plan (Option (Except Refusal Json))} {s : Standing}

theorem opening : Underway lifetimes user []
    (((Question.levelUp user).plan lifetimes).map some) (.level .asking) := by
  have served : ((Question.levelUp user).plan lifetimes).map some
      = (Standing.level .asking).served lifetimes user := by
    unfold Standing.served
    rw [← Standing.levelUp_eq]
    exact Plan.map_map ..
  refine ⟨⟨rfl, trivial⟩, trivial, ?_, ?_, .inl served⟩
  · intro _ d hd
    cases hd
  · rw [served]
    exact Plan.forward_call _ _

/-- Each turn goes on to a standing. -/
theorem turn (underway : Underway lifetimes user ds p s) (step : p.Step d q) :
    ∃ s', Underway lifetimes user (ds ++ [d]) q s' := by
  have next {q' : Plan (Option (Except Refusal Json))}
      (step : (s.served lifetimes user).Step d q') :
      ∃ s', s.Next lifetimes user d s' ∧ q' = s'.served lifetimes user := by
    obtain ⟨p', hp, rfl⟩ := step.of_map
    obtain ⟨s', hn, rfl⟩ := Standing.next_of_step hp
    exact ⟨s', hn, rfl⟩
  have goes {s' : Standing} (hn : s.Next lifetimes user d s')
      (plan : q = s'.served lifetimes user ∨ q.Over ∨ q.Twins (s'.served lifetimes user)) :
      Underway lifetimes user (ds ++ [d]) q s' := by
    refine ⟨hn.record underway.record, hn.keeps, ?_, step.forward_eq, plan⟩
    intro unbound e he
    rcases List.mem_append.mp he with he | he
    · have before : bindings ds = [] := by
        rw [bindings_snoc] at unbound
        exact (List.append_eq_nil_iff.mp unbound).1
      exact (underway.asked before e he).mono (List.subset_append_left ..)
    · cases List.mem_singleton.mp he
      have inquiry := hn.inquiry underway.record underway.loaded unbound
      exact inquiry.mono (List.subset_append_left ..)
  rcases underway.plan with rfl | finished | twins
  · obtain ⟨s', hn, rfl⟩ := next step
    exact ⟨s', goes hn (.inl rfl)⟩
  · exact absurd step finished.no_step
  · obtain ⟨q', step', twins⟩ := twins.step step
    obtain ⟨s', hn, rfl⟩ := next step'
    exact ⟨s', goes hn (.inr (.inr twins))⟩

/-- A level-up that is not waiting for its task leaves nothing when its caller goes away. -/
theorem alone_of_idle (underway : Underway lifetimes user ds p s) (idle : ¬ p.Committing) :
    p.Alone := by
  rcases underway.plan with rfl | finished | twins
  · cases s with
    | level reading => cases reading <;> trivial
    | prices current reading => cases reading <;> trivial
    | funds current price balance referrals =>
      refine ⟨?_, ?_⟩
      · cases balance <;> trivial
      · cases referrals <;> trivial
    | commit deal errand => exact absurd trivial idle
    | settled deal result => exact Plan.Alone.map (Standing.report_over _ _ _).alone
    | refused | beyond => trivial
  · exact finished.alone
  · generalize s.served lifetimes user = r at twins
    cases twins with
    | finished left => exact left.alone
    | waiting => exact absurd trivial idle

/-- A level-up that has committed is a twin of itself without its caller. -/
theorem twins_abandoned (underway : Underway lifetimes user ds p s)
    (spawned : p.Committing ∨ bindings ds ≠ []) : p.Twins p.abandoned := by
  have ended (deal : Deal) (result : Option TaskResult) :
      ((report deal.balance deal.path result).map
        fun result => some (result.map LevelUpOutcome.summary)).Over :=
    (Standing.report_over deal.balance deal.path result).map
  have unbound (hb : bindings ds = []) (idle : ¬ p.Committing) : p.Twins p.abandoned := by
    rcases spawned with committing | bound
    · exact absurd committing idle
    · exact absurd hb bound
  have record := underway.record
  have forward := underway.forward
  rcases underway.plan with rfl | finished | twins
  · cases s with
    | level reading =>
      apply unbound record.1
      cases reading <;> exact id
    | prices current reading =>
      apply unbound record.1
      cases reading <;> exact id
    | funds => exact unbound record.1 id
    | commit deal errand =>
      have self : ((Standing.commit deal errand).served lifetimes user).Twins
          ((Standing.commit deal errand).served lifetimes user) :=
        .waiting (ended deal) (ended deal)
      exact self.abandoned forward
    | settled deal result =>
      have finished := ended deal (some result)
      exact (Plan.Twins.finished finished finished).abandoned forward
    | refused | beyond => exact unbound record id
  · exact (Plan.Twins.finished finished finished).abandoned forward
  · exact twins.abandoned forward

/-- The caller goes away. -/
theorem gone (underway : Underway lifetimes user ds p s) :
    Underway lifetimes user ds p.abandoned s := by
  refine ⟨underway.record, underway.loaded, underway.asked, Plan.abandoned_forward p, ?_⟩
  by_cases committing : p.Committing
  · have left := underway.twins_abandoned (.inl committing)
    rcases underway.plan with rfl | finished | twins
    · exact .inr (.inr left.symm)
    · exact .inr (.inl (left.over_iff.mp finished))
    · exact .inr (.inr (left.symm.trans twins))
  · rw [Plan.abandoned_of_alone (underway.alone_of_idle committing)]
    exact .inr (.inl trivial)

/-- A level-up that has not committed asks. -/
theorem inquires (underway : Underway lifetimes user ds p s) (idle : ¬ p.Committing)
    (step : p.Step d q) : Inquiry lifetimes user ds d := by
  rcases underway.plan with rfl | finished | twins
  · obtain ⟨p', hp, rfl⟩ := step.of_map
    obtain ⟨s', hn, rfl⟩ := Standing.next_of_step hp
    rcases hn.inquiry_or underway.loaded with inquiry | ⟨deal, errand, rfl⟩
    · exact inquiry
    · exact absurd trivial idle
  · exact absurd step finished.no_step
  · generalize s.served lifetimes user = r at twins
    cases twins with
    | finished left => exact absurd step left.no_step
    | waiting => exact absurd trivial idle

end Underway

end LevelUp

namespace System

variable {σ ι : Type} [DecidableEq ι] {col : Collaborators σ} {lifetimes : Lifetimes}
  {asks : ι → Question} {world : σ} {taken : Set PaymentId} {h : History ι}
  {t : System σ fun _ : ι => Option (Except Refusal Json)} {i : ι} {user : UserId}

/-- A level-up is always underway, whoever goes away. -/
theorem Traffic.underway (traffic : Traffic col (serving lifetimes asks world taken) h t)
    (hi : asks i = .levelUp user) :
    ∃ s, LevelUp.Underway lifetimes user (h.of i) (t.plans i) s := by
  refine traffic.party (fun ds p => ∃ s, LevelUp.Underway lifetimes user ds p s) ?_ ?_ ?_
  · simp only [serving, hi]
    exact ⟨_, .opening⟩
  · rintro ds p d q ⟨s, underway⟩ step
    exact underway.turn step
  · rintro ds p ⟨s, underway⟩
    exact ⟨s, underway.gone⟩

/-- A party that has ended does nothing any more. -/
theorem Traffic.idle (traffic : Traffic col t h u) (finished : (t.plans i).Over) :
    h.of i = [] ∧ (u.plans i).Over := by
  refine traffic.party (fun ds p => ds = [] ∧ p.Over) ⟨rfl, finished⟩ ?_ ?_
  · rintro ds p d q ⟨-, finished⟩ step
    exact absurd step finished.no_step
  · rintro ds p ⟨hds, finished⟩
    refine ⟨hds, ?_⟩
    rw [Plan.abandoned_of_alone finished.alone]
    trivial

end System

/-- The task of a level-up has been detached: the level-up waits for it, or it has bound something
in the meantime. -/
def Spawned {α : Type} (ds : List Deed) (p : Plan α) : Prop := p.Committing ∨ bindings ds ≠ []

/-- The caller of a level-up goes away. If the task has been detached, then all that can happen is
what can happen if the caller stays: the same deeds in the same order, which leave the same world
and end at the same time. If not, then the level-up has done nothing but ask and fill the cache with
answers of the store, the call that it waits for is no other, and it does nothing any more. -/
theorem a_level_up_without_its_caller_is_all_or_nothing {σ ι : Type} [DecidableEq ι]
    {col : Collaborators σ} {lifetimes : Lifetimes} {asks : ι → Question} {world : σ}
    {taken : Set PaymentId} {h : History ι}
    {t : System σ fun _ : ι => Option (Except Refusal Json)} {i : ι} {user : UserId}
    (traffic : System.Traffic col (.serving lifetimes asks world taken) h t)
    (hi : asks i = .levelUp user) :
    (Spawned (h.of i) (t.plans i) → ∀ rest,
      (∀ u, System.Traffic col t rest u → ∃ v, System.Traffic col (t.leave i) rest v ∧
        v.world = u.world ∧ ((v.plans i).Over ↔ (u.plans i).Over) ∧
        ∀ j ≠ i, v.plans j = u.plans j) ∧
      ∀ v, System.Traffic col (t.leave i) rest v → ∃ u, System.Traffic col t rest u ∧
        v.world = u.world ∧ ((v.plans i).Over ↔ (u.plans i).Over) ∧
        ∀ j ≠ i, v.plans j = u.plans j) ∧
    (¬ Spawned (h.of i) (t.plans i) →
      (∀ d ∈ h.of i, LevelUp.Inquiry lifetimes user (h.of i) d) ∧
      (∀ d q, (t.plans i).Step d q → LevelUp.Inquiry lifetimes user (h.of i) d) ∧
      ∀ rest v, System.Traffic col (t.leave i) rest v → rest.of i = [] ∧ (v.plans i).Over) := by
  obtain ⟨s, underway⟩ := traffic.underway hi
  refine ⟨?_, ?_⟩
  · intro spawned rest
    have alike : System.Alike i t (t.leave i) := by
      refine ⟨rfl, rfl, ?_, ?_⟩
      · intro j hj
        rw [System.leave_plan_of_ne t hj]
      · rw [System.leave_plan_self]
        exact underway.twins_abandoned spawned
    refine ⟨?_, ?_⟩
    · intro u after
      obtain ⟨v, after', alike⟩ := alike.traffic after
      exact ⟨v, after', alike.world.symm, alike.twins.over_iff.symm,
        fun j hj => (alike.others j hj).symm⟩
    · intro v after
      obtain ⟨u, after', alike⟩ := alike.symm.traffic after
      exact ⟨u, after', alike.world, alike.twins.over_iff, alike.others⟩
  · intro unspawned
    have idle : ¬ (t.plans i).Committing := fun committing => unspawned (.inl committing)
    have unbound : bindings (h.of i) = [] := by
      by_contra bound
      exact unspawned (.inr bound)
    refine ⟨underway.asked unbound, ?_, ?_⟩
    · intro d q step
      exact underway.inquires idle step
    · intro rest v after
      apply after.idle
      rw [System.leave_plan_self, Plan.abandoned_of_alone (underway.alone_of_idle idle)]
      trivial

/-- The caller goes away as soon as the task has been detached, and the player is at the next level
all the same. -/
theorem a_level_up_ends_without_its_caller :
    ∃ h t rest v, System.Traffic World.Attends (.serving ⟨.ofSeconds 300, .ofSeconds 3600⟩
        (fun _ : Unit => .levelUp 7) aPlayer ∅) h t ∧ (t.plans ()).Committing ∧
      System.Traffic World.Attends (t.leave ()) rest v ∧ (v.plans ()).Over ∧
      v.world.characters.get? 7 = some ⟨2, 1⟩ := by
  open LevelUp Standing in
  let lifetimes : Lifetimes := ⟨.ofSeconds 300, .ofSeconds 3600⟩
  let start := System.serving lifetimes (fun _ : Unit => .levelUp 7) aPlayer ∅
  have nothing : System.Run World.Attends start [] start := .start
  have asked : start.plans () = (Service.levelUp lifetimes 7).map
      fun result => some (result.map LevelUpOutcome.summary) := Plan.map_map ..
  obtain ⟨t, run, hp, hw, ht, -⟩ := nothing.inquires asked World.Attends.someQuestions
  have committing : (t.plans ()).Committing := by
    rw [hp]
    trivial
  have fresh : ⟨1⟩ ∉ (∅ : Set PaymentId) := by simp
  have after : System.Run World.Attends t [] t := .start
  obtain ⟨_, after, hp, hw', -⟩ := after.takes hp ((Next.take ⟨1⟩).step.map _) (by rwa [ht])
  have hw : _ = aPlayer := hw'.trans hw
  obtain ⟨_, after, hp, hw, -⟩ := after.performs hp hw (Next.reserved.step.map _) rfl
  obtain ⟨_, after, hp, hw, -⟩ := after.performs hp hw ((Next.advanced 2).step.map _) rfl
  obtain ⟨_, after, hp, hw, -⟩ := after.performs hp hw ((Next.spent (.ok ())).step.map _) rfl
  obtain ⟨_, after, hp, hw, -⟩ := after.performs hp hw ((Next.kept (.ok ())).step.map _) rfl
  obtain ⟨u, after, hp, hw, -⟩ :=
    after.performs hp hw ((Next.droppedProfile (.ok ())).step.map _) rfl
  have stays := (a_level_up_without_its_caller_is_all_or_nothing (i := ()) run.traffic rfl).1
  obtain ⟨v, left, world, finished, -⟩ := (stays (.inl committing) _).1 u after.traffic
  refine ⟨_, t, _, v, run.traffic, committing, left, ?_, ?_⟩
  · apply finished.mpr
    rw [hp]
    trivial
  · rw [world, hw]
    rfl

end Progression
