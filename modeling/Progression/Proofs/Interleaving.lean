-- Plans side by side. In one turn one party makes a call and gets its
-- reply, or takes a payment id. Between the turns of a party the others
-- may take any number of theirs, so a run is one order of all the calls.
import Mathlib.Data.List.Induction
import Mathlib.Data.Set.Insert
import Mathlib.Logic.Function.Basic
import Progression.Plan

namespace Progression

/-- What a party does in one turn. -/
inductive Deed where
  | called (call : Call) (reply : call.Reply)
  | took (payment : PaymentId)

namespace Plan

/-! ## Between two turns -/

/-- What two plans at once have come to: the first break or fault of either ends both. -/
def joint {β γ ε : Type} :
    Plan (Except ε β) → Plan (Except ε γ) → Option (Except Overflow (Except ε (β × γ)))
  | .overflow cause, _ => some (.error cause)
  | .done (.error e), _ => some (.ok (.error e))
  | _, .overflow cause => some (.error cause)
  | _, .done (.error e) => some (.ok (.error e))
  | .done (.ok b), .done (.ok c) => some (.ok (.ok (b, c)))
  | _, _ => none

/-- A plan carried as far as it goes without a reply. -/
def forward {α : Type} : Plan α → Plan α
  | .both left right next =>
    match joint left.forward right.forward with
    | some (.error cause) => .overflow cause
    | some (.ok result) => (next result).forward
    | none => .both left.forward right.forward next
  | .detach task next =>
    match task.forward with
    | .done result => (next (some result)).forward
    | .overflow _ => (next none).forward
    | task => .detach task next
  | plan => plan

/-- The plan has ended: nobody will hear of it again. -/
def Over {α : Type} : Plan α → Prop
  | .done _ | .overflow _ => True
  | _ => False

/-- The plan waits for a task of its own that has not ended. -/
def Committing {α : Type} : Plan α → Prop
  | .detach .. => True
  | _ => False

/-- One turn of a plan. Two plans at once take their turns in any order. -/
inductive Step : {α : Type} → Plan α → Deed → Plan α → Prop
  | call {α : Type} {c : Call} {next : c.Reply → Plan α} (reply : c.Reply) :
      Step (.call c next) (.called c reply) (next reply).forward
  | newPayment {α : Type} {next : PaymentId → Plan α} (payment : PaymentId) :
      Step (.newPayment next) (.took payment) (next payment).forward
  | left {α β γ ε : Type} {l l' : Plan (Except ε β)} {r : Plan (Except ε γ)}
      {next : Except ε (β × γ) → Plan α} {d : Deed} (step : Step l d l') :
      Step (.both l r next) d (Plan.both l' r next).forward
  | right {α β γ ε : Type} {l : Plan (Except ε β)} {r r' : Plan (Except ε γ)}
      {next : Except ε (β × γ) → Plan α} {d : Deed} (step : Step r d r') :
      Step (.both l r next) d (Plan.both l r' next).forward
  | task {α : Type} {t t' : Plan TaskResult} {next : Option TaskResult → Plan α} {d : Deed}
      (step : Step t d t') : Step (.detach t next) d (Plan.detach t' next).forward

theorem Step.of_eq {α : Type} {p q r : Plan α} {d : Deed} (h : Step p d q) (hq : q = r) :
    Step p d r := hq ▸ h

/-- A plan that has ended takes no more turns. -/
theorem Over.no_step {α : Type} {p q : Plan α} {d : Deed} (ended : p.Over) : ¬ Step p d q := by
  cases p with
  | done | overflow => nofun
  | _ => cases ended

theorem Over.of_map {α β : Type} {p : Plan α} {f : α → β} (ended : (p.map f).Over) : p.Over := by
  cases p with
  | done | overflow => trivial
  | _ => cases ended

theorem of_map_done {α β : Type} {p : Plan α} {f : α → β} {b : β} (h : p.map f = .done b) :
    ∃ a, p = .done a ∧ f a = b := by
  cases p with
  | done a => exact ⟨a, rfl, done.inj h⟩
  | _ => cases h

/-! ## Carrying forward -/

@[simp]
theorem forward_done {α : Type} (a : α) : (done a).forward = done a := by simp [forward]

@[simp]
theorem forward_overflow {α : Type} (cause : Overflow) :
    (overflow cause : Plan α).forward = overflow cause := by simp [forward]

@[simp]
theorem forward_call {α : Type} (c : Call) (next : c.Reply → Plan α) :
    (Plan.call c next).forward = .call c next := by simp [forward]

@[simp]
theorem forward_newPayment {α : Type} (next : PaymentId → Plan α) :
    (newPayment next).forward = newPayment next := by simp [forward]

theorem Over.forward {α : Type} {p : Plan α} (ended : p.Over) : p.forward = p := by
  cases p with
  | done | overflow => simp
  | _ => cases ended

theorem forward_forward {α : Type} (p : Plan α) : p.forward.forward = p.forward := by
  induction p with
  | done => simp
  | overflow => simp
  | call => simp
  | newPayment => simp
  | both left right next ihl ihr ihn =>
    simp only [forward]
    split
    · simp
    · exact ihn _
    · rename_i h
      simp only [forward, ihl, ihr, h]
  | detach task next iht ihn =>
    simp only [forward]
    split
    · exact ihn _
    · exact ihn _
    · rename_i hd ho
      rw [forward, iht]
      split
      · exact absurd ‹_› (hd _)
      · exact absurd ‹_› (ho _)
      · rfl

theorem forward_detach {α : Type} (task : Plan TaskResult) (next : Option TaskResult → Plan α) :
    (detach task.forward next).forward = (detach task next).forward := by
  simp only [forward, forward_forward]

/-- What follows a plan may be chosen before or after the plan is carried forward. -/
theorem forward_bind {α β : Type} (p : Plan α) (f : α → Plan β) :
    (p.bind f).forward = (p.forward.bind f).forward := by
  induction p with
  | done => simp
  | overflow => simp
  | call => simp
  | newPayment => simp
  | both left right next _ _ ihn =>
    simp only [bind, forward]
    split
    · simp [bind]
    · exact ihn _ f
    · rename_i h
      simp only [bind, forward, forward_forward, h]
  | detach task next _ ihn =>
    simp only [bind, forward]
    split
    · exact ihn _ f
    · exact ihn _ f
    · rename_i hd ho
      rw [bind, forward, forward_forward]
      split
      · exact absurd ‹_› (hd _)
      · exact absurd ‹_› (ho _)
      · rfl

theorem forward_map {α β : Type} (f : α → β) (p : Plan α) :
    (p.map f).forward = p.forward.map f := by
  induction p with
  | done => simp [map]
  | overflow => simp [map, bind]
  | call => simp [map, bind]
  | newPayment => simp [map, bind]
  | both left right next _ _ ihn =>
    simp only [map] at ihn ⊢
    simp only [bind, forward]
    split
    · simp [bind]
    · exact ihn _ f
    · rfl
  | detach task next _ ihn =>
    simp only [map] at ihn ⊢
    simp only [bind, forward]
    split
    · exact ihn _ f
    · exact ihn _ f
    · rfl

/-! ## Turns of a plan with more to do after it -/

theorem Step.forward_eq {α : Type} {p q : Plan α} {d : Deed} (h : Step p d q) : q.forward = q := by
  cases h <;> exact forward_forward _

theorem Step.of_bind {α β : Type} {p : Plan α} {f : α → Plan β} {d : Deed} {q : Plan β}
    (h : Step (p.bind f) d q) :
    (∃ a, p = done a ∧ Step (f a) d q) ∨ ∃ p', Step p d p' ∧ q = (p'.bind f).forward := by
  cases p with
  | done a => exact .inl ⟨a, rfl, h⟩
  | overflow cause => cases h
  | call c next =>
    cases h with
    | call reply => exact .inr ⟨_, .call reply, forward_bind _ f⟩
  | newPayment next =>
    cases h with
    | newPayment payment => exact .inr ⟨_, .newPayment payment, forward_bind _ f⟩
  | both l r next =>
    cases h with
    | left step => exact .inr ⟨_, .left step, by rw [← forward_bind]; rfl⟩
    | right step => exact .inr ⟨_, .right step, by rw [← forward_bind]; rfl⟩
  | detach t next =>
    cases h with
    | task step => exact .inr ⟨_, .task step, by rw [← forward_bind]; rfl⟩

theorem Step.of_map {α β : Type} {p : Plan α} {f : α → β} {d : Deed} {q : Plan β}
    (h : Step (p.map f) d q) : ∃ p', Step p d p' ∧ q = p'.map f := by
  rcases h.of_bind with ⟨a, -, hs⟩ | ⟨p', hs, rfl⟩
  · cases hs
  · refine ⟨p', hs, ?_⟩
    have := forward_map f p'
    rwa [hs.forward_eq] at this

theorem Step.bind {α β : Type} {p p' : Plan α} {d : Deed} (h : Step p d p') (f : α → Plan β) :
    Step (p.bind f) d (p'.bind f).forward := by
  cases h with
  | call reply => exact forward_bind (p := _) f ▸ .call reply
  | newPayment payment => exact forward_bind (p := _) f ▸ .newPayment payment
  | left step => exact forward_bind (.both _ _ _) f ▸ .left step
  | right step => exact forward_bind (.both _ _ _) f ▸ .right step
  | task step => exact forward_bind (.detach _ _) f ▸ .task step

theorem Step.map {α β : Type} {p p' : Plan α} {d : Deed} (h : Step p d p') (f : α → β) :
    Step (p.map f) d (p'.map f) := by
  have hs : Step (p.map f) d (p'.map f).forward := h.bind _
  rwa [forward_map, h.forward_eq] at hs

/-! ## Plans that make calls of one kind only -/

/-- Every call of the plan is of that kind, and the plan takes no payment id. -/
def Only (kind : Call → Prop) {α : Type} : Plan α → Prop
  | .done _ | .overflow _ => True
  | .call c next => kind c ∧ ∀ reply, (next reply).Only kind
  | .newPayment _ => False
  | .both left right next => left.Only kind ∧ right.Only kind ∧ ∀ result, (next result).Only kind
  | .detach task next => task.Only kind ∧ ∀ result, (next result).Only kind

section Only

variable {kind : Call → Prop} {α β : Type} {p q : Plan α} {f : α → Plan β} {d : Deed}

theorem Only.bind (hp : p.Only kind) (hf : ∀ a, (f a).Only kind) : (p.bind f).Only kind := by
  induction p with
  | done a => exact hf a
  | overflow => trivial
  | call c next ih => exact ⟨hp.1, fun reply => ih reply (hp.2 reply) hf⟩
  | newPayment => cases hp
  | both left right next _ _ ih =>
    exact ⟨hp.1, hp.2.1, fun result => ih result (hp.2.2 result) hf⟩
  | detach task next _ ih => exact ⟨hp.1, fun result => ih result (hp.2 result) hf⟩

theorem Only.mono {kind' : Call → Prop} (hp : p.Only kind) (h : ∀ c, kind c → kind' c) :
    p.Only kind' := by
  induction p with
  | done | overflow => trivial
  | call c next ih => exact ⟨h c hp.1, fun reply => ih reply (hp.2 reply)⟩
  | newPayment => cases hp
  | both left right next ihl ihr ih =>
    exact ⟨ihl hp.1, ihr hp.2.1, fun result => ih result (hp.2.2 result)⟩
  | detach task next iht ih => exact ⟨iht hp.1, fun result => ih result (hp.2 result)⟩

theorem Only.map {g : α → β} (hp : p.Only kind) : (p.map g).Only kind :=
  hp.bind fun _ => trivial

theorem Only.andThen {ε : Type} {p : Plan (Except ε α)} {f : α → Plan (Except ε β)}
    (hp : p.Only kind) (hf : ∀ a, (f a).Only kind) : (p.andThen f).Only kind := by
  refine hp.bind fun result => ?_
  cases result with
  | ok a => exact hf a
  | error => trivial

theorem Only.forward (hp : p.Only kind) : p.forward.Only kind := by
  induction p with
  | done | overflow | call | newPayment => simpa using hp
  | both left right next ihl ihr ihn =>
    unfold Plan.forward
    split
    · trivial
    · exact ihn _ (hp.2.2 _)
    · exact ⟨ihl hp.1, ihr hp.2.1, hp.2.2⟩
  | detach task next iht ihn =>
    unfold Plan.forward
    split
    · exact ihn _ (hp.2 _)
    · exact ihn _ (hp.2 _)
    · exact ⟨iht hp.1, hp.2⟩

/-- Such a plan makes a call of that kind in each turn, and stays such a plan. -/
theorem Only.step (hp : p.Only kind) (h : Step p d q) :
    (∃ c reply, d = .called c reply ∧ kind c) ∧ q.Only kind := by
  induction h with
  | call reply => exact ⟨⟨_, reply, rfl, hp.1⟩, (hp.2 reply).forward⟩
  | newPayment => cases hp
  | left _ ih =>
    obtain ⟨hd, hl⟩ := ih hp.1
    exact ⟨hd, Only.forward ⟨hl, hp.2⟩⟩
  | right _ ih =>
    obtain ⟨hd, hr⟩ := ih hp.2.1
    exact ⟨hd, Only.forward ⟨hp.1, hr, hp.2.2⟩⟩
  | task _ ih =>
    obtain ⟨hd, ht⟩ := ih hp.1
    exact ⟨hd, Only.forward ⟨ht, hp.2⟩⟩

end Only

end Plan

/-! ## Parties over a world -/

/-- How the collaborators may answer: the world before a call, the call, its reply, and the
world after it. -/
abbrev Collaborators (σ : Type) := σ → (c : Call) → c.Reply → σ → Prop

/-- Parties with their plans, the world they share, and the payment ids that were ever taken. -/
structure System (σ : Type) {ι : Type} (Answer : ι → Type) where
  world : σ
  taken : Set PaymentId
  plans : (i : ι) → Plan (Answer i)

/-- What has happened, the oldest turn first: who, and what. -/
abbrev History (ι : Type) := List (ι × Deed)

namespace System

variable {σ ι : Type} [DecidableEq ι] {Answer : ι → Type}

/-- One turn of one party. A payment id is never taken twice. -/
inductive Turn (col : Collaborators σ) (s : System σ Answer) : ι → Deed → System σ Answer → Prop
  | call {i : ι} {c : Call} {reply : c.Reply} {plan : Plan (Answer i)} {world : σ}
      (step : (s.plans i).Step (.called c reply) plan) (reply_ok : col s.world c reply world) :
      Turn col s i (.called c reply) ⟨world, s.taken, Function.update s.plans i plan⟩
  | take {i : ι} {payment : PaymentId} {plan : Plan (Answer i)}
      (step : (s.plans i).Step (.took payment) plan) (fresh : payment ∉ s.taken) :
      Turn col s i (.took payment)
        ⟨s.world, insert payment s.taken, Function.update s.plans i plan⟩

/-- Turns one after another. -/
inductive Run (col : Collaborators σ) (s : System σ Answer) : History ι → System σ Answer → Prop
  | start : Run col s [] s
  | turn {h : History ι} {t u : System σ Answer} {i : ι} {d : Deed} (run : Run col s h t)
      (turn : Turn col t i d u) : Run col s (h ++ [(i, d)]) u

variable {col : Collaborators σ} {s t : System σ Answer} {h : History ι}

theorem Turn.step {i : ι} {d : Deed} (turn : Turn col s i d t) :
    (s.plans i).Step d (t.plans i) := by
  cases turn with
  | call step => simpa using step
  | take step => simpa using step

theorem Turn.plan_of_ne {i j : ι} {d : Deed} (turn : Turn col s i d t) (hne : j ≠ i) :
    t.plans j = s.plans j := by
  cases turn <;> exact Function.update_of_ne hne ..

/-- What holds of each party and its plan still does, if it does of the party whose turn it was. -/
theorem Turn.each {β : Type} {stands : ι → β} {b : β} {i : ι} {d : Deed}
    (good : (i : ι) → β → Plan (Answer i) → Prop) (turn : Turn col s i d t)
    (old : ∀ j, good j (stands j) (s.plans j)) (mine : good i b (t.plans i)) (j : ι) :
    good j (Function.update stands i b j) (t.plans j) := by
  by_cases hj : j = i
  · subst hj
    rwa [Function.update_self]
  · rw [Function.update_of_ne hj, turn.plan_of_ne hj]
    exact old j

/-- A party may make the call that its plan makes next. -/
theorem Run.called {u : System σ Answer} {i : ι} {c : Call} {reply : c.Reply} {world : σ}
    {p q : Plan (Answer i)} (run : Run col s h u) (hp : u.plans i = p)
    (step : p.Step (.called c reply) q) (reply_ok : col u.world c reply world) :
    ∃ t, Run col s (h ++ [(i, .called c reply)]) t ∧ t.plans i = q ∧ t.world = world ∧
      t.taken = u.taken ∧ ∀ j ≠ i, t.plans j = u.plans j :=
  ⟨_, .turn run (.call (hp ▸ step) reply_ok), Function.update_self .., rfl, rfl,
    fun _ hj => Function.update_of_ne hj ..⟩

theorem Run.takes {u : System σ Answer} {i : ι} {payment : PaymentId} {p q : Plan (Answer i)}
    (run : Run col s h u) (hp : u.plans i = p) (step : p.Step (.took payment) q)
    (fresh : payment ∉ u.taken) :
    ∃ t, Run col s (h ++ [(i, .took payment)]) t ∧ t.plans i = q ∧ t.world = u.world ∧
      t.taken = insert payment u.taken ∧ ∀ j ≠ i, t.plans j = u.plans j :=
  ⟨_, .turn run (.take (hp ▸ step) fresh), Function.update_self .., rfl, rfl,
    fun _ hj => Function.update_of_ne hj ..⟩

/-! ## What a history says -/

/-- A turn in the middle of a run was taken in a state that the run came through. -/
theorem Run.turn_at {before after : History ι} {i : ι} {d : Deed}
    (run : Run col s (before ++ (i, d) :: after) t) :
    ∃ u v, Run col s before u ∧ Turn col u i d v := by
  induction after using List.reverseRecOn generalizing t with
  | nil =>
    generalize hh : before ++ [(i, d)] = h at run
    cases run with
    | start => simp at hh
    | turn run turn =>
      obtain ⟨rfl, hd⟩ := List.append_inj' hh rfl
      cases hd
      exact ⟨_, _, run, turn⟩
  | append_singleton after e ih =>
    generalize hh : before ++ (i, d) :: (after ++ [e]) = h at run
    cases run with
    | start => simp at hh
    | turn run turn =>
      rw [← List.cons_append, ← List.append_assoc] at hh
      obtain ⟨rfl, -⟩ := List.append_inj' hh rfl
      exact ih run

/-- The payment ids taken in a run are new at its start and taken at its end. -/
theorem Run.took_new (run : Run col s h t) :
    s.taken ⊆ t.taken ∧ ∀ i payment, (i, Deed.took payment) ∈ h →
      payment ∉ s.taken ∧ payment ∈ t.taken := by
  induction run with
  | start => simp
  | turn run turn ih =>
    obtain ⟨hsub, hnew⟩ := ih
    cases turn with
    | call => simpa using ⟨hsub, hnew⟩
    | take step fresh =>
      refine ⟨fun x hx => .inr (hsub hx), fun i payment hmem => ?_⟩
      simp only [List.mem_append, List.mem_singleton, Prod.mk.injEq, Deed.took.injEq] at hmem
      rcases hmem with hmem | ⟨rfl, rfl⟩
      · exact ⟨(hnew i payment hmem).1, .inr (hnew i payment hmem).2⟩
      · exact ⟨fun hs => fresh (hsub hs), .inl rfl⟩

/-- No payment id is taken by two parties. -/
theorem Run.took_once (run : Run col s h t) {i j : ι} {payment : PaymentId}
    (hi : (i, Deed.took payment) ∈ h) (hj : (j, Deed.took payment) ∈ h) : i = j := by
  induction run with
  | start => simp at hi
  | turn run turn ih =>
    simp only [List.mem_append, List.mem_singleton, Prod.mk.injEq] at hi hj
    have hnew := run.took_new.2
    cases turn with
    | call => exact ih (by simpa using hi) (by simpa using hj)
    | take step fresh =>
      rcases hi with hi | ⟨rfl, hi⟩ <;> rcases hj with hj | ⟨rfl, hj⟩
      · exact ih hi hj
      · cases hj; exact absurd (hnew _ _ hi).2 fresh
      · cases hi; exact absurd (hnew _ _ hj).2 fresh
      · rfl

end System

/-- What one party has done, the oldest deed first. -/
def History.of {ι : Type} [DecidableEq ι] (h : History ι) (i : ι) : List Deed :=
  (h.filter fun e => e.1 = i).map Prod.snd

namespace History

variable {ι : Type} [DecidableEq ι] {h : History ι} {i j : ι} {d : Deed}

@[simp]
theorem of_snoc_self : of (h ++ [(i, d)]) i = of h i ++ [d] := by simp [of]

theorem of_snoc_of_ne (hne : j ≠ i) : of (h ++ [(j, d)]) i = of h i := by simp [of, hne]

theorem mem_of : d ∈ of h i ↔ (i, d) ∈ h := by
  simp only [of, List.mem_map, List.mem_filter, decide_eq_true_eq]
  constructor
  · rintro ⟨⟨j, e⟩, ⟨hmem, rfl⟩, rfl⟩
    exact hmem
  · intro hmem
    exact ⟨(i, d), ⟨hmem, rfl⟩, rfl⟩

end History

section Party

variable {σ ι : Type} [DecidableEq ι] {Answer : ι → Type} {col : Collaborators σ}
  {s t : System σ Answer} {h : History ι} {i : ι}

/-- What each turn of a party keeps is kept by a run. -/
theorem System.Run.party (Good : List Deed → Plan (Answer i) → Prop)
    (start : Good [] (s.plans i))
    (keep : ∀ ds p d q, Good ds p → p.Step d q → Good (ds ++ [d]) q) (run : Run col s h t) :
    Good (h.of i) (t.plans i) := by
  induction run with
  | start => exact start
  | @turn h u t j d _ turn ih =>
    by_cases hj : j = i
    · subst hj
      rw [History.of_snoc_self]
      exact keep _ _ _ _ ih turn.step
    · rw [History.of_snoc_of_ne hj, turn.plan_of_ne (Ne.symm hj)]
      exact ih

/-- A party whose plan makes calls of one kind only has made no others, and will make no others. -/
theorem System.Run.only {kind : Call → Prop} (run : Run col s h t)
    (start : (s.plans i).Only kind) : (t.plans i).Only kind ∧
      ∀ d ∈ h.of i, ∃ c reply, d = .called c reply ∧ kind c := by
  refine run.party (fun ds p => p.Only kind ∧
    ∀ d ∈ ds, ∃ c reply, d = .called c reply ∧ kind c) ⟨start, nofun⟩ ?_
  rintro ds p d q ⟨hp, hds⟩ step
  obtain ⟨hd, hq⟩ := hp.step step
  exact ⟨hq, List.forall_mem_append.mpr ⟨hds, List.forall_mem_singleton.mpr hd⟩⟩

end Party

end Progression
