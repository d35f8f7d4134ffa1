-- Plans that agree. Two runs whose replies differ in nothing but what the
-- database or the cache complained of go the same way if the plans agree:
-- whatever replies they get, they make the same calls, and they come to
-- answers that differ in nothing else.
import Mathlib.Data.List.Forall2
import Progression.Proofs.Interleaving

namespace Progression

/-! ## What may differ -/

/-- The same answer, or two faults that are alike. -/
inductive Matches {ε α : Type} (alike : ε → ε → Prop) : Except ε α → Except ε α → Prop
  | ok (a : α) : Matches alike (.ok a) (.ok a)
  | error {e e' : ε} (h : alike e e') : Matches alike (.error e) (.error e')

theorem Matches.mapError {ε ε' α : Type} {alike : ε → ε → Prop} {alike' : ε' → ε' → Prop}
    {f : ε → ε'} {r r' : Except ε α} (hf : ∀ e e', alike e e' → alike' (f e) (f e'))
    (h : Matches alike r r') : Matches alike' (r.mapError f) (r'.mapError f) := by
  cases h with
  | ok a => exact .ok a
  | error h => exact .error (hf _ _ h)

/-- The same fault, or two faults of the database. -/
inductive StoreFault.Alike : StoreFault → StoreFault → Prop
  | same (fault : StoreFault) : Alike fault fault
  | database (fault fault' : DatabaseFault) : Alike (.database fault) (.database fault')

/-- The same refusal, or two that have two faults of the database for their cause. -/
inductive Refusal.Alike : Refusal → Refusal → Prop
  | same (refusal : Refusal) : Alike refusal refusal
  | store (fault fault' : DatabaseFault) :
      Alike (.store (.database fault)) (.store (.database fault'))
  | levelUnknown {cause cause' : Refusal} (h : Alike cause cause') :
      Alike (.levelUnknown cause) (.levelUnknown cause')

/-- Replies that agree but for the fault of the database, or the fault of the cache. -/
def Call.Agrees : (c : Call) → c.Reply → c.Reply → Prop
  | .store _, reply, reply' => Matches StoreFault.Alike reply reply'
  | .cache _, reply, reply' => Matches (fun _ _ => True) reply reply'
  | .gateway _, reply, reply' => reply = reply'

/-- Deeds that agree: the same call with replies that agree, or the same payment id. -/
inductive Deed.Agrees : Deed → Deed → Prop
  | called {c : Call} {reply reply' : c.Reply} (h : c.Agrees reply reply') :
      Agrees (.called c reply) (.called c reply')
  | took (payment : PaymentId) : Agrees (.took payment) (.took payment)

theorem Matches.symm {ε α : Type} {alike : ε → ε → Prop} {r r' : Except ε α}
    (hs : ∀ e e', alike e e' → alike e' e) (h : Matches alike r r') : Matches alike r' r := by
  cases h with
  | ok a => exact .ok a
  | error h => exact .error (hs _ _ h)

theorem StoreFault.Alike.symm {fault fault' : StoreFault} (h : fault.Alike fault') :
    fault'.Alike fault := by
  cases h with
  | same => exact .same _
  | database fault fault' => exact .database fault' fault

theorem Deed.Agrees.symm {d d' : Deed} (h : d.Agrees d') : d'.Agrees d := by
  cases h with
  | took payment => exact .took payment
  | @called c _ _ hr =>
    refine .called ?_
    cases c with
    | store => exact Matches.symm (fun _ _ h => h.symm) hr
    | cache => exact Matches.symm (fun _ _ => id) hr
    | gateway => exact hr.symm

theorem StoreFault.Alike.refusal {fault fault' : StoreFault} (h : fault.Alike fault') :
    (Refusal.ofStore fault).Alike (Refusal.ofStore fault') := by
  cases h with
  | same => exact .same _
  | database fault fault' => exact .store fault fault'

/-! ## Plans that agree -/

namespace Plan

/-- Whatever replies that agree the two plans get, they make the same calls, and their answers are
related. Of two plans at once neither ever makes a call of the other, so a call tells which of them
has moved. -/
inductive Agrees : {α : Type} → (α → α → Prop) → Plan α → Plan α → Prop
  | done {α : Type} {R : α → α → Prop} {a a' : α} (h : R a a') : Agrees R (.done a) (.done a')
  | overflow {α : Type} {R : α → α → Prop} (cause : Overflow) :
      Agrees R (.overflow cause) (.overflow cause)
  | call {α : Type} {R : α → α → Prop} {c : Call} {next next' : c.Reply → Plan α}
      (h : ∀ reply reply', c.Agrees reply reply' → Agrees R (next reply) (next' reply')) :
      Agrees R (.call c next) (.call c next')
  | newPayment {α : Type} {R : α → α → Prop} {next next' : PaymentId → Plan α}
      (h : ∀ payment, Agrees R (next payment) (next' payment)) :
      Agrees R (.newPayment next) (.newPayment next')
  | both {α β γ ε : Type} {R : α → α → Prop} {alike : ε → ε → Prop} (kind : Call → Prop)
      {l l' : Plan (Except ε β)} {r r' : Plan (Except ε γ)}
      {next next' : Except ε (β × γ) → Plan α} (left : Agrees (Matches alike) l l')
      (right : Agrees (Matches alike) r r') (ofLeft : l.Only kind ∧ l'.Only kind)
      (ofRight : r.Only (fun c => ¬ kind c) ∧ r'.Only fun c => ¬ kind c)
      (h : ∀ result result', Matches alike result result' →
        Agrees R (next result) (next' result')) :
      Agrees R (.both l r next) (.both l' r' next')
  | detach {α : Type} {R : α → α → Prop} {task task' : Plan TaskResult}
      {next next' : Option TaskResult → Plan α} (ht : Agrees (Matches Refusal.Alike) task task')
      (died : Agrees R (next none) (next' none))
      (h : ∀ result result', Matches Refusal.Alike result result' →
        Agrees R (next (some result)) (next' (some result'))) :
      Agrees R (.detach task next) (.detach task' next')

/-- Plans that make calls of different kinds take no turns that agree. -/
theorem Only.apart {α β : Type} {kind : Call → Prop} {l l' : Plan α} {r r' : Plan β} {d d' : Deed}
    (hl : l.Only kind) (hr : r.Only fun c => ¬ kind c) (left : l.Step d l') (right : r.Step d' r') :
    ¬ d.Agrees d' ∧ ¬ d'.Agrees d := by
  obtain ⟨c, reply, rfl, hc⟩ := (hl.step left).1
  obtain ⟨c', reply', rfl, hc'⟩ := (hr.step right).1
  constructor
  · intro h
    cases h
    exact hc' hc
  · intro h
    cases h
    exact hc' hc

namespace Agrees

section Sequence

variable {α β ε : Type} {R : α → α → Prop} {S : β → β → Prop} {alike : ε → ε → Prop}

theorem bind {p p' : Plan α} {f f' : α → Plan β} (hp : Agrees R p p')
    (hf : ∀ a a', R a a' → Agrees S (f a) (f' a')) : Agrees S (p.bind f) (p'.bind f') := by
  induction hp with
  | done h => exact hf _ _ h
  | overflow cause => exact .overflow cause
  | call _ ih => exact .call fun reply reply' hr => ih reply reply' hr hf
  | newPayment _ ih => exact .newPayment fun payment => ih payment hf
  | both kind left right ofLeft ofRight _ _ _ ih =>
    exact .both kind left right ofLeft ofRight fun result result' hr => ih result result' hr hf
  | detach ht _ _ _ ihd ih =>
    exact .detach ht (ihd hf) fun result result' hr => ih result result' hr hf

theorem map {p p' : Plan α} {f : α → β} (hp : Agrees R p p')
    (hf : ∀ a a', R a a' → S (f a) (f a')) : Agrees S (p.map f) (p'.map f) :=
  hp.bind fun a a' h => .done (hf a a' h)

theorem andThen {p p' : Plan (Except ε α)} {f f' : α → Plan (Except ε β)}
    (hp : Agrees (Matches alike) p p') (hf : ∀ a, Agrees (Matches alike) (f a) (f' a)) :
    Agrees (Matches alike) (p.andThen f) (p'.andThen f') := by
  refine hp.bind fun result result' hr => ?_
  cases hr with
  | ok a => exact hf a
  | error h => exact .done (.error h)

end Sequence

/-! ## Carrying forward, and turns -/

section Turns

variable {α β γ ε : Type} {R : α → α → Prop} {alike : ε → ε → Prop} {p p' : Plan α}

/-- Two plans at once have come to the same, or neither pair of them has come to anything. -/
theorem joint {l l' : Plan (Except ε β)} {r r' : Plan (Except ε γ)}
    (left : Agrees (Matches alike) l l') (right : Agrees (Matches alike) r r') :
    (Plan.joint l r = none ∧ Plan.joint l' r' = none) ∨
    (∃ cause, Plan.joint l r = some (.error cause) ∧ Plan.joint l' r' = some (.error cause)) ∨
    ∃ result result', Plan.joint l r = some (.ok result) ∧ Plan.joint l' r' = some (.ok result') ∧
      Matches alike result result' := by
  cases left with
  | overflow cause => exact .inr (.inl ⟨cause, rfl, rfl⟩)
  | done hl =>
    cases hl with
    | error he => exact .inr (.inr ⟨_, _, rfl, rfl, .error he⟩)
    | ok b =>
      cases right with
      | overflow cause => exact .inr (.inl ⟨cause, rfl, rfl⟩)
      | done hr =>
        cases hr with
        | error he => exact .inr (.inr ⟨_, _, rfl, rfl, .error he⟩)
        | ok c => exact .inr (.inr ⟨_, _, rfl, rfl, .ok (b, c)⟩)
      | _ => exact .inl ⟨rfl, rfl⟩
  | _ =>
    cases right with
    | overflow cause => exact .inr (.inl ⟨cause, rfl, rfl⟩)
    | done hr =>
      cases hr with
      | error he => exact .inr (.inr ⟨_, _, rfl, rfl, .error he⟩)
      | ok => exact .inl ⟨rfl, rfl⟩
    | _ => exact .inl ⟨rfl, rfl⟩

theorem forward (h : Agrees R p p') : Agrees R p.forward p'.forward := by
  induction h with
  | done h =>
    rw [forward_done, forward_done]
    exact .done h
  | overflow cause =>
    rw [forward_overflow]
    exact .overflow cause
  | call h =>
    rw [forward_call, forward_call]
    exact .call h
  | newPayment h =>
    rw [forward_newPayment, forward_newPayment]
    exact .newPayment h
  | both kind _ _ ofLeft ofRight h ihl ihr ih =>
    unfold Plan.forward
    rcases joint ihl ihr with ⟨hj, hj'⟩ | ⟨cause, hj, hj'⟩ | ⟨result, result', hj, hj', hr⟩
    · rw [hj, hj']
      exact .both kind ihl ihr ⟨ofLeft.1.forward, ofLeft.2.forward⟩
        ⟨ofRight.1.forward, ofRight.2.forward⟩ h
    · rw [hj, hj']
      exact .overflow cause
    · rw [hj, hj']
      exact ih result result' hr
  | @detach _ _ task task' _ _ _ died h iht ihd ih =>
    unfold Plan.forward
    -- What follows depends on whether the tasks have ended, and they end together.
    generalize task.forward = t at iht
    generalize task'.forward = t' at iht
    cases iht with
    | done hr => exact ih _ _ hr
    | overflow => exact ihd
    | call ht => exact .detach (.call ht) died h
    | newPayment ht => exact .detach (.newPayment ht) died h
    | both kind left right ofLeft ofRight ht =>
      exact .detach (.both kind left right ofLeft ofRight ht) died h
    | detach ht hd ha => exact .detach (.detach ht hd ha) died h

/-- Each turn of the one has its turn of the other, and no turn of the other with a reply that
agrees sets them apart. -/
theorem step {q : Plan α} {d d' : Deed} (h : Agrees R p p') (step : p.Step d q)
    (hd : d.Agrees d') : (∃ q', p'.Step d' q') ∧ ∀ q', p'.Step d' q' → Agrees R q q' := by
  induction h generalizing d d' with
  | done | overflow => exact absurd step (Over.no_step trivial)
  | call h =>
    cases step with
    | call reply =>
      cases hd with
      | called hr =>
        refine ⟨⟨_, .call _⟩, fun q' step' => ?_⟩
        cases step' with
        | call => exact (h _ _ hr).forward
  | newPayment h =>
    cases step with
    | newPayment payment =>
      cases hd with
      | took =>
        refine ⟨⟨_, .newPayment payment⟩, fun q' step' => ?_⟩
        cases step' with
        | newPayment => exact (h payment).forward
  | both kind left right ofLeft ofRight h ihl ihr =>
    cases step with
    | left step =>
      obtain ⟨⟨l', next⟩, only⟩ := ihl step hd
      refine ⟨⟨_, .left next⟩, fun q' step' => ?_⟩
      -- The other side cannot have moved: it makes no call of this kind.
      cases step' with
      | left step' =>
        exact forward (.both kind (only _ step') right
          ⟨(ofLeft.1.step step).2, (ofLeft.2.step step').2⟩ ofRight h)
      | right step' => exact absurd hd (ofLeft.1.apart ofRight.2 step step').1
    | right step =>
      obtain ⟨⟨r', next⟩, only⟩ := ihr step hd
      refine ⟨⟨_, .right next⟩, fun q' step' => ?_⟩
      cases step' with
      | left step' => exact absurd hd (ofLeft.2.apart ofRight.1 step' step).2
      | right step' =>
        exact forward (.both kind left (only _ step') ofLeft
          ⟨(ofRight.1.step step).2, (ofRight.2.step step').2⟩ h)
  | detach _ died h iht =>
    cases step with
    | task step =>
      obtain ⟨⟨t', next⟩, only⟩ := iht step hd
      refine ⟨⟨_, .task next⟩, fun q' step' => ?_⟩
      cases step' with
      | task step' => exact forward (.detach (only _ step') died h)

end Turns

end Agrees

/-! ## Turns one after another -/

/-- The turns of a plan, the first one first. -/
inductive Steps {α : Type} : Plan α → List Deed → Plan α → Prop
  | start {p : Plan α} : Steps p [] p
  | turn {p q r : Plan α} {d : Deed} {ds : List Deed} (step : p.Step d q) (rest : Steps q ds r) :
      Steps p (d :: ds) r

section Steps

variable {α : Type} {R : α → α → Prop} {p p' q q' r : Plan α} {d : Deed} {ds ds' : List Deed}

theorem Steps.snoc (h : p.Steps ds q) (step : q.Step d r) : p.Steps (ds ++ [d]) r := by
  induction h with
  | start => exact .turn step .start
  | turn first _ ih => exact .turn first (ih step)

/-- Plans that agree still do after turns that agree. -/
theorem Agrees.steps (h : Agrees R p p') (steps : p.Steps ds q) (steps' : p'.Steps ds' q')
    (hd : List.Forall₂ Deed.Agrees ds ds') : Agrees R q q' := by
  induction steps generalizing p' ds' with
  | start =>
    cases hd
    cases steps'
    exact h
  | turn step _ ih =>
    cases hd with
    | cons hd hds =>
      cases steps' with
      | turn step' rest' => exact ih ((h.step step hd).2 _ step') rest' hds

theorem Agrees.done_iff (h : Agrees Eq p p') (a : α) : p = .done a ↔ p' = .done a := by
  cases h with
  | done h => rw [h]
  | _ => exact ⟨nofun, nofun⟩

end Steps

end Plan

/-- What a party has done, it has done turn by turn. -/
theorem System.Run.steps {σ ι : Type} [DecidableEq ι] {Answer : ι → Type} {col : Collaborators σ}
    {s t : System σ Answer} {h : History ι} (run : Run col s h t) (i : ι) :
    (s.plans i).Steps (h.of i) (t.plans i) :=
  run.party (fun ds p => (s.plans i).Steps ds p) .start fun _ _ _ _ steps step => steps.snoc step

end Progression
