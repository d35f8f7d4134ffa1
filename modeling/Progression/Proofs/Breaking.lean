-- Tasks that break. A collaborator may break the task of a level-up instead
-- of answering its call, and the player is told only that the task died. A
-- task that breaks after it has reserved the price has settled it, or breaks
-- in doing so, unless it breaks where it moves the character up: then nobody
-- ever settles what it has reserved.
import Mathlib.Data.List.Basic
import Progression.Proofs.Trailing

namespace Progression

/-! ## What breaks -/

/-- The plan makes that call next. -/
def Plan.Makes {α : Type} (p : Plan α) (c : Call) : Prop := ∃ reply q, p.Step (.called c reply) q

/-- The task of a plan breaks at a call. The one that waits for it hears that it died. -/
inductive Plan.Breaks {α : Type} : Plan α → Call → Plan α → Prop
  | task {task : Plan TaskResult} {next : Option TaskResult → Plan α} {c : Call}
      (makes : task.Makes c) : Breaks (.detach task next) c (next none).forward

/-- The task of a party breaks at a call, whatever the collaborator has done before. -/
inductive System.Break {σ ι : Type} [DecidableEq ι] {Answer : ι → Type} (s : System σ Answer)
    (i : ι) (c : Call) : System σ Answer → Prop
  | mk {plan : Plan (Answer i)} (world : σ) (breaks : (s.plans i).Breaks c plan) :
      Break s i c ⟨world, s.taken, Function.update s.plans i plan⟩

/-- Only a commit breaks, at a call that it would make next, and the player is told so. -/
theorem LevelUp.Standing.of_breaks {α : Type} {lifetimes : Lifetimes} {user : UserId}
    {f : Except Refusal LevelUpOutcome → α} {s : Standing} {c : Call} {q : Plan α}
    (h : ((s.plan lifetimes user).map f).Breaks c q) :
    (∃ deal errand, s = .commit deal errand) ∧
      (∃ reply s', Next lifetimes user s (.called c reply) s') ∧
      q = .done (f (.error taskDied)) := by
  generalize hp : (s.plan lifetimes user).map f = p at h
  cases h with
  | task makes =>
    cases s with
    | commit deal errand =>
      cases hp
      obtain ⟨reply, q, step⟩ := makes
      obtain ⟨s', next, -⟩ := next_of_commit step
      exact ⟨⟨deal, errand, rfl⟩, ⟨reply, s', next⟩, Plan.forward_done _⟩
    | level reading => cases reading <;> cases hp
    | prices current reading => cases reading <;> cases hp
    | settled deal result =>
      have ended := report_over deal.balance deal.path (some result)
      simp only [plan] at hp
      generalize report deal.balance deal.path (some result) = p at ended hp
      cases p with
      | done | overflow => cases hp
      | _ => cases ended
    | funds | refused | beyond => cases hp

/-! ## Settlements -/

/-- What a call settles of a payment: it spends the coins, or gives them back. -/
def Call.settles? (payment : PaymentId) : Call → Option Bool
  | .gateway (.finalize p spend) => if p = payment then some spend else none
  | _ => none

/-- The calls that settle a payment, the oldest first. -/
def settlements (payment : PaymentId) (cs : List Call) : List Bool :=
  cs.filterMap (Call.settles? payment)

def Deed.call? : Deed → Option Call
  | .called c _ => some c
  | .took _ => none

/-- The calls that were made, the oldest first. -/
def calls (ds : List Deed) : List Call := ds.filterMap Deed.call?

section Calls

variable (payment : PaymentId) (ds : List Deed) (cs cs' : List Call)

@[simp]
theorem calls_nil : calls [] = [] := rfl

@[simp]
theorem calls_called (c : Call) (reply : c.Reply) : calls (.called c reply :: ds) = c :: calls ds :=
  rfl

@[simp]
theorem calls_took : calls (.took payment :: ds) = calls ds := rfl

@[simp]
theorem settlements_empty : settlements payment [] = [] := rfl

@[simp]
theorem settlements_store (c : StoreCall) :
    settlements payment (.store c :: cs) = settlements payment cs := rfl

@[simp]
theorem settlements_cache (c : CacheCall) :
    settlements payment (.cache c :: cs) = settlements payment cs := rfl

@[simp]
theorem settlements_initiate (user : UserId) (amount : Coins) (p : PaymentId) :
    settlements payment (.gateway (.initiate user amount p) :: cs) = settlements payment cs := rfl

@[simp]
theorem settlements_finalize (spend : Bool) :
    settlements payment (.gateway (.finalize payment spend) :: cs)
      = spend :: settlements payment cs := by
  simp [settlements, Call.settles?]

theorem settlements_append :
    settlements payment (cs ++ cs') = settlements payment cs ++ settlements payment cs' :=
  List.filterMap_append ..

end Calls

theorem Call.payment?_of_settles? {c : Call} {payment : PaymentId} {spend : Bool}
    (h : c.settles? payment = some spend) : c.payment? = some payment := by
  unfold settles? at h
  split at h
  · split at h
    · rename_i hp
      rw [hp]
      rfl
    · cases h
  · cases h

theorem Deed.payment?_of_settles? {d : Deed} {payment : PaymentId} {spend : Bool}
    (h : d.call?.bind (Call.settles? payment) = some spend) : d.payment? = some payment := by
  cases d with
  | called c reply => exact Call.payment?_of_settles? h
  | took => cases h

/-- A payment is settled only by deeds that carry it. -/
theorem settlements_filter {payment : PaymentId} {α : Type} {f : α → Deed} {p : α → Bool}
    {l : List α} (carried : ∀ a ∈ l, (f a).payment? = some payment → p a = true) :
    settlements payment (calls (l.map f)) = settlements payment (calls ((l.filter p).map f)) := by
  unfold settlements calls
  simp only [List.filterMap_map, List.filterMap_filterMap, List.filterMap_filter]
  refine List.filterMap_congr fun a ha => ?_
  by_cases hp : p a = true
  · rw [if_pos hp]
  · rw [if_neg hp]
    cases hs : (f a).call?.bind (Call.settles? payment) with
    | none => exact hs
    | some spend => exact absurd (carried a ha (Deed.payment?_of_settles? hs)) hp

/-- Where nobody carries a payment nobody settles it. -/
theorem settlements_nil {payment : PaymentId} {ds : List Deed}
    (h : ∀ d ∈ ds, d.payment? ≠ some payment) : settlements payment (calls ds) = [] := by
  have hf := settlements_filter (f := id) (p := fun _ => false) fun d hd hp => absurd hp (h d hd)
  rw [List.map_id, List.filter_false] at hf
  exact hf

theorem settlements_bindings (payment : PaymentId) (ds : List Deed) :
    settlements payment (calls ds) = settlements payment (calls (bindings ds)) := by
  have hf := settlements_filter (f := id) (l := ds) fun d _ (hp : d.payment? = some payment) =>
    Deed.binds_of_payment hp
  rwa [List.map_id, List.map_id] at hf

/-- What the only one who carries a payment has settled is all that is settled of it. -/
theorem History.settlements_of {ι : Type} [DecidableEq ι] {h : History ι} {i : ι}
    {payment : PaymentId} (own : ∀ j d, (j, d) ∈ h → d.payment? = some payment → j = i) :
    settlements payment (calls (h.map Prod.snd)) = settlements payment (calls (h.of i)) :=
  settlements_filter fun e he hp => decide_eq_true (own e.1 e.2 he hp)

/-! ## Commits that have reserved the price -/

namespace LevelUp

/-- The character has moved up. -/
def Moved (user : UserId) (ds : List Deed) : Prop :=
  ∃ current level, Deed.called (.store (.incrementLevel user current)) (.ok level) ∈ ds

theorem moved_bindings {user : UserId} {ds : List Deed} :
    Moved user (bindings ds) ↔ Moved user ds := by
  constructor
  · rintro ⟨current, level, hm⟩
    exact ⟨current, level, mem_of_mem_bindings hm⟩
  · rintro ⟨current, level, hm⟩
    exact ⟨current, level, List.mem_filter.mpr ⟨hm, rfl⟩⟩

/-- The payment is settled once, and it is spent if the character has moved up. -/
def SettledOnce (user : UserId) (payment : PaymentId) (ds : List Deed) (cs : List Call) : Prop :=
  ∃ spend, settlements payment cs = [spend] ∧ (spend = true ↔ Moved user ds)

variable {lifetimes : Lifetimes} {user : UserId} {deal : Deal} {bound ds : List Deed}
  {amount : Coins} {payment : PaymentId}

/-- A commit that has ended and had reserved the price has settled it. -/
theorem Settled.once (h : Settled user deal bound)
    (reserved : .called (.gateway (.initiate user amount payment)) (.ok ()) ∈ bound) :
    SettledOnce user payment bound (calls bound) := by
  unfold SettledOnce Moved
  cases h with
  | free | rejected | doubtful => simp [advancing, reserving, settling] at reserved
  | stayed path p fault reply =>
    obtain ⟨-, rfl⟩ : amount = deal.price.coins ∧ payment = p := by
      simpa [advancing, reserving, settling] using reserved
    refine ⟨false, ?_, ?_⟩ <;> simp [advancing, reserving, settling]
  | advanced path p level reply =>
    obtain ⟨-, rfl⟩ : amount = deal.price.coins ∧ payment = p := by
      simpa [advancing, reserving, settling] using reserved
    exact ⟨true, by simp [advancing, reserving, settling], by simp [advancing, reserving, settling]⟩

/-- A commit that has reserved the price and breaks has settled it, or breaks in doing so, unless it
breaks where it moves the character up. -/
theorem Standing.once_or_never {errand : Errand} {c : Call} {reply : c.Reply} {s' : Standing}
    (hr : (Standing.commit deal errand).Record lifetimes user ds)
    (next : Next lifetimes user (.commit deal errand) (.called c reply) s')
    (reserved : .called (.gateway (.initiate user amount payment)) (.ok ()) ∈ ds) :
    (c = .store (.incrementLevel user deal.current) ∧ settlements payment (calls ds ++ [c]) = []) ∨
    (∀ current, c ≠ .store (.incrementLevel user current)) ∧
      SettledOnce user payment ds (calls ds ++ [c]) := by
  obtain ⟨-, hb⟩ := hr
  have reserved : .called (.gateway (.initiate user amount payment)) (.ok ()) ∈ bindings ds :=
    List.mem_filter.mpr ⟨reserved, rfl⟩
  unfold SettledOnce
  rw [settlements_append, settlements_bindings, ← moved_bindings]
  generalize bindings ds = bound at hb reserved
  cases next with
  | reserved | doubtful | rejected =>
    obtain ⟨-, rfl⟩ := hb
    simp at reserved
  | advancedFree | stayedFree =>
    obtain ⟨-, rfl⟩ := hb
    simp at reserved
  | advanced | stayed =>
    obtain ⟨-, rfl⟩ := hb
    exact .inl ⟨rfl, by simp [reserving]⟩
  | @released _ p refusal reply =>
    obtain ⟨-, ⟨fault, -, rfl⟩ | ⟨fault, rfl⟩⟩ := hb
    · simp [reserving] at reserved
    · obtain ⟨-, rfl⟩ : amount = deal.price.coins ∧ payment = p := by
        simpa [advancing, reserving] using reserved
      exact .inr ⟨by simp, false, by simp [advancing, reserving],
        by simp [Moved, advancing, reserving]⟩
  | @spent _ p level reply =>
    obtain ⟨-, rfl⟩ := hb
    obtain ⟨-, rfl⟩ : amount = deal.price.coins ∧ payment = p := by
      simpa [advancing, reserving] using reserved
    exact .inr ⟨by simp, true, by simp [advancing, reserving],
      by simp [Moved, advancing, reserving]⟩
  | kept | droppedProfile | droppedLevel =>
    obtain ⟨spend, once, moved⟩ := Settled.once hb reserved
    exact .inr ⟨by simp, spend, by simp [once], moved⟩

end LevelUp

/-! ## What the others do after a break -/

namespace System

variable {σ ι : Type} [DecidableEq ι] {col : Collaborators σ}

/-- A party that is over takes no more turns. -/
theorem Run.over {Answer : ι → Type} {s t : System σ Answer} {h : History ι} {i : ι}
    (run : Run col s h t) (ended : (s.plans i).Over) : h.of i = [] ∧ t.plans i = s.plans i := by
  refine run.party (fun ds p => ds = [] ∧ p = s.plans i) ⟨rfl, rfl⟩ ?_
  rintro ds p d q ⟨-, rfl⟩ step
  exact absurd step ended.no_step

theorem Break.plan_of_ne {Answer : ι → Type} {u v : System σ Answer} {i j : ι} {c : Call}
    (broke : u.Break i c v) (hne : j ≠ i) : v.plans j = u.plans j := by
  cases broke
  exact Function.update_of_ne hne ..

theorem Break.taken_eq {Answer : ι → Type} {u v : System σ Answer} {i : ι} {c : Call}
    (broke : u.Break i c v) : v.taken = u.taken := by
  cases broke
  rfl

variable {lifetimes : Lifetimes} {asks : ι → Rehearsal.Question} {world : σ}
  {taken : Set PaymentId} {h rest : History ι} {u v t : System σ fun _ : ι => Except Refusal Json}
  {i j : ι} {c : Call} {payment : PaymentId}

/-- A level-up goes on from where it stood, with the record of all that it has done. -/
theorem Run.standing_on {user : UserId} (run : Run col (asking lifetimes asks world taken) h u)
    (hj : asks j = .levelUp user) (same : v.plans j = u.plans j) (more : Run col v rest t) :
    ∃ s : LevelUp.Standing,
      t.plans j = (s.plan lifetimes user).map (Except.map LevelUpOutcome.summary) ∧
      s.Record lifetimes user (h.of j ++ rest.of j) := by
  obtain ⟨s, hp, hr⟩ := run.standing hj
  have start : s.Record lifetimes user (h.of j ++ []) := by rwa [List.append_nil]
  refine more.at_standing (P := fun ds s => s.Record lifetimes user (h.of j ++ ds))
    ⟨s, same.trans hp, start⟩ ?_
  intro ds s₁ d s₂ hr next
  rw [← List.append_assoc]
  exact next.record hr

/-- Nobody carries the payment of a party whose task has broken. -/
theorem Run.uncarried (run : Run col (asking lifetimes asks world taken) h u)
    (took : (i, .took payment) ∈ h) (broke : u.Break i c v) (ended : (v.plans i).Over)
    (more : Run col v rest t) : ∀ j d, (j, d) ∈ rest → d.payment? ≠ some payment := by
  intro j d hm hd
  obtain ⟨before, after, rfl⟩ := List.append_of_mem hm
  obtain ⟨w, x, more, turn⟩ := more.turn_at
  by_cases hji : j = i
  · subst hji
    rw [← (more.over ended).2] at ended
    exact ended.no_step turn.step
  · have same := broke.plan_of_ne hji
    by_cases hj : ∃ user, asks j = .levelUp user
    · obtain ⟨user, hj⟩ := hj
      obtain ⟨s, hp, hr⟩ := run.standing_on hj same more
      obtain ⟨p, hs, -⟩ := (hp ▸ turn.step).of_map
      obtain ⟨s', next, -⟩ := LevelUp.Standing.next_of_step hs
      rcases List.mem_append.mp (next.took hr hd) with old | new
      · exact hji (run.took_once (History.mem_of.mp old) took)
      · have fresh := (more.took_new.2 j payment (History.mem_of.mp new)).1
        rw [broke.taken_eq] at fresh
        exact fresh (run.took_new.2 i payment took).2
    · obtain ⟨free, -⟩ := run.free (not_exists.mp hj)
      have still : (w.plans j).Free := more.party (fun _ p => p.Free) (same ▸ free)
        fun _ _ _ _ hp step => (hp.step step).2
      obtain ⟨⟨c', reply, rfl, quiet⟩, -⟩ := still.step turn.step
      have binds := Deed.binds_of_payment hd
      rw [Deed.binds, quiet] at binds
      cases binds

end System

/-- The task of a level-up that has reserved the price breaks, and the player hears that it died. If
it breaks where it moves the character up, nobody ever settles the payment. If it breaks elsewhere,
the payment is settled once: it is spent if the character has moved up, and given back if not. -/
theorem a_broken_commit_settles_unless_it_was_moving_up {σ ι : Type} [DecidableEq ι]
    {col : Collaborators σ} {lifetimes : Lifetimes} {asks : ι → Rehearsal.Question} {world : σ}
    {taken : Set PaymentId} {h rest : History ι}
    {u v t : System σ fun _ : ι => Except Refusal Json} {i : ι} {user : UserId} {amount : Coins}
    {payment : PaymentId} {c : Call}
    (run : System.Run col (.asking lifetimes asks world taken) h u) (hi : asks i = .levelUp user)
    (reserved : (i, .called (.gateway (.initiate user amount payment)) (.ok ())) ∈ h)
    (broke : u.Break i c v) (more : System.Run col v rest t) :
    t.plans i = .done (.error LevelUp.taskDied) ∧
    ((∃ current, c = .store (.incrementLevel user current)) →
      settlements payment (calls (h.map Prod.snd) ++ c :: calls (rest.map Prod.snd)) = []) ∧
    ((∀ current, c ≠ .store (.incrementLevel user current)) →
      LevelUp.SettledOnce user payment (h.of i)
        (calls (h.map Prod.snd) ++ c :: calls (rest.map Prod.snd))) := by
  obtain ⟨s, hp, hr⟩ := run.standing hi
  have took : (i, .took payment) ∈ h := run.carried reserved rfl
  have own : ∀ j d, (j, d) ∈ h → d.payment? = some payment → j = i := fun j d hj hd =>
    run.took_once (run.carried hj hd) took
  have died : (∃ deal errand, s = .commit deal errand) ∧
      (∃ reply s', s.Next lifetimes user (.called c reply) s') ∧
      v.plans i = .done (.error LevelUp.taskDied) := by
    cases broke with
    | mk world' breaks =>
      rw [hp] at breaks
      obtain ⟨committing, next, rfl⟩ := LevelUp.Standing.of_breaks breaks
      exact ⟨committing, next, Function.update_self ..⟩
  obtain ⟨⟨deal, errand, rfl⟩, ⟨reply, s', next⟩, hv⟩ := died
  have ended : (v.plans i).Over := hv ▸ trivial
  have quiet : settlements payment (calls (rest.map Prod.snd)) = [] := by
    refine settlements_nil fun d hd => ?_
    obtain ⟨⟨j, d⟩, hm, rfl⟩ := List.mem_map.mp hd
    exact run.uncarried took broke ended more j d hm
  have all : settlements payment (calls (h.map Prod.snd) ++ c :: calls (rest.map Prod.snd))
      = settlements payment (calls (h.of i) ++ [c]) := by
    rw [List.append_cons, settlements_append, quiet, List.append_nil, settlements_append,
      settlements_append, History.settlements_of own]
  refine ⟨(more.over ended).2.trans hv, ?_⟩
  unfold LevelUp.SettledOnce
  rw [all]
  rcases LevelUp.Standing.once_or_never hr next (History.mem_of.mpr reserved) with
    ⟨rfl, never⟩ | ⟨other, once⟩
  · exact ⟨fun _ => never, fun other => absurd rfl (other _)⟩
  · exact ⟨fun ⟨current, hc⟩ => absurd hc (other current), fun _ => once⟩

/-! ## A task that breaks -/

namespace LevelUp

/-- A commit breaks at the call that it makes next. -/
theorem Standing.breaks {α : Type} {lifetimes : Lifetimes} {user : UserId} {deal : Deal}
    {errand : Errand} {c : Call} {next : c.Reply → Plan TaskResult} (reply : c.Reply)
    (hp : errand.plan lifetimes user deal = .call c next)
    (f : Except Refusal LevelUpOutcome → α) :
    (((Standing.commit deal errand).plan lifetimes user).map f).Breaks c
      (.done (f (.error taskDied))) := by
  have makes : (errand.plan lifetimes user deal).Makes c := by
    rw [hp]
    exact ⟨reply, _, .call reply⟩
  have h : (Plan.detach (errand.plan lifetimes user deal) fun result =>
      (report deal.balance deal.path result).map f).Breaks c _ := .task makes
  rwa [report, Plan.map, Plan.bind, Plan.forward_done] at h

/-- A level-up of this player. -/
def aLevelUp : System Rehearsal.World fun _ : Unit => Except Refusal Json :=
  .asking ⟨.ofSeconds 300, .ofSeconds 3600⟩ (fun _ => .levelUp 7) aPlayer ∅

/-- What it has done when it has reserved the price. -/
def aReservation : History Unit :=
  someQuestions.map ((), ·) ++ [((), .took ⟨1⟩)] ++
    [((), .called (.gateway (.initiate 7 100 ⟨1⟩)) (.ok ()))]

theorem aLevelUp_reserves :
    ∃ u, System.Run Rehearsal.World.Attends aLevelUp aReservation u ∧
      u.plans () = ((Standing.commit aDeal (.advance ⟨1⟩)).plan
        ⟨.ofSeconds 300, .ofSeconds 3600⟩ 7).map (Except.map LevelUpOutcome.summary) ∧
      u.world = aPlayer.reserve 7 100 ⟨1⟩ := by
  have nothing : System.Run Rehearsal.World.Attends aLevelUp [] aLevelUp := .start
  obtain ⟨_, run, hp, hw, ht, -⟩ :=
    nothing.inquires (i := ()) rfl Rehearsal.World.Attends.someQuestions
  have fresh : ⟨1⟩ ∉ (∅ : Set PaymentId) := by simp
  obtain ⟨_, run, hp, hw', -⟩ := run.takes hp ((Standing.Next.take ⟨1⟩).step.map _) (by rwa [ht])
  have hw : _ = aPlayer := hw'.trans hw
  obtain ⟨u, run, hp, hw, -⟩ := run.performs hp hw (Standing.Next.reserved.step.map _) rfl
  exact ⟨u, run, hp, hw⟩

end LevelUp

open LevelUp

/-- A task that breaks where it moves the character up leaves the price reserved. -/
theorem a_task_that_breaks_moving_up_leaves_the_price_reserved :
    ∃ u v, System.Run Rehearsal.World.Attends aLevelUp aReservation u ∧
      ((), .called (.gateway (.initiate 7 100 ⟨1⟩)) (.ok ())) ∈ aReservation ∧
      u.Break () (.store (.incrementLevel 7 1)) v ∧
      v.plans () = .done (.error taskDied) ∧
      settlements ⟨1⟩ (calls (aReservation.map Prod.snd) ++ [.store (.incrementLevel 7 1)]) = [] ∧
      v.world.characters.get? 7 = some ⟨1, 1⟩ ∧
      v.world.reserved.get? ⟨1⟩ = some ⟨7, 100⟩ := by
  obtain ⟨u, run, hp, hw⟩ := aLevelUp_reserves
  have breaks : (u.plans ()).Breaks (.store (.incrementLevel 7 1)) (.done (.error taskDied)) := by
    rw [hp]
    exact Standing.breaks (Except.ok (2 : Level)) rfl _
  exact ⟨u, _, run, by simp [aReservation], .mk (aPlayer.reserve 7 100 ⟨1⟩) breaks, rfl, rfl, rfl,
    rfl⟩

/-- A task that breaks where it refreshes the cache has spent the price. -/
theorem a_task_that_breaks_at_the_cache_has_settled :
    ∃ h u v, System.Run Rehearsal.World.Attends aLevelUp h u ∧
      ((), .called (.gateway (.initiate 7 100 ⟨1⟩)) (.ok ())) ∈ h ∧
      u.Break () (.cache (.invalidate (.profile 7))) v ∧
      v.plans () = .done (.error taskDied) ∧
      SettledOnce 7 ⟨1⟩ (h.of ())
        (calls (h.map Prod.snd) ++ [.cache (.invalidate (.profile 7))]) := by
  obtain ⟨u, run, hp, hw⟩ := aLevelUp_reserves
  obtain ⟨_, run, hp, hw, -⟩ := run.performs hp hw ((Standing.Next.advanced 2).step.map _) rfl
  obtain ⟨_, run, hp, hw, -⟩ := run.performs hp hw ((Standing.Next.spent (.ok ())).step.map _) rfl
  obtain ⟨u, run, hp, hw, -⟩ := run.performs hp hw ((Standing.Next.kept (.ok ())).step.map _) rfl
  have breaks : (u.plans ()).Breaks (.cache (.invalidate (.profile 7)))
      (.done (.error taskDied)) := by
    rw [hp]
    exact Standing.breaks (Except.ok ()) rfl _
  have reserved : ((), .called (.gateway (.initiate 7 100 ⟨1⟩)) (.ok ())) ∈ aReservation := by
    simp [aReservation]
  have broke := System.Break.mk u.world breaks
  obtain ⟨died, -, once⟩ := a_broken_commit_settles_unless_it_was_moving_up run rfl
    (List.mem_append_left _ (List.mem_append_left _ (List.mem_append_left _ reserved))) broke .start
  exact ⟨_, u, _, run, by simp [reserved], broke, died, once (by simp)⟩

end Progression
