-- A plan goes on until it ends. Carried as far as it goes without a reply,
-- it has ended or waits for a call or a payment id, and whatever it gets
-- takes it a turn on. Laws of the turns of one plan on its own.
import Progression.Proofs.Agreement

namespace Progression.Plan

variable {α : Type}

/-- The plan waits for the reply to a call, or for a payment id, and goes on with any. -/
def Waits (p : Plan α) : Prop :=
  (∃ c : Call, ∀ reply : c.Reply, ∃ q, p.Step (.called c reply) q) ∨
  ∀ payment, ∃ q, p.Step (.took payment) q

/-- A plan that takes all turns of one that waits waits too. -/
theorem Waits.of_steps {β : Type} {p : Plan α} {p' : Plan β} (h : p.Waits)
    (follow : ∀ d q, p.Step d q → ∃ q', p'.Step d q') : p'.Waits := by
  rcases h with ⟨c, hc⟩ | hp
  · left
    refine ⟨c, fun reply => ?_⟩
    obtain ⟨q, step⟩ := hc reply
    exact follow _ q step
  · right
    intro payment
    obtain ⟨q, step⟩ := hp payment
    exact follow _ q step

/-- Of two plans at once that have not come to anything, one waits. -/
theorem waits_of_joint {β γ ε : Type} {l : Plan (Except ε β)} {r : Plan (Except ε γ)}
    (hl : l.Over ∨ l.Waits) (hr : r.Over ∨ r.Waits) (h : joint l r = none)
    (next : Except ε (β × γ) → Plan α) : (both l r next).Waits := by
  rcases hl with hl | hl
  · rcases hr with hr | hr
    · exfalso
      cases l with
      | overflow cause => simp [joint] at h
      | done result =>
        rcases result with e | b
        · simp [joint] at h
        · cases r with
          | overflow cause => simp [joint] at h
          | done result => rcases result with e | c <;> simp [joint] at h
          | _ => cases hr
      | _ => cases hl
    · exact hr.of_steps fun _ _ step => ⟨_, .right step⟩
  · exact hl.of_steps fun _ _ step => ⟨_, .left step⟩

/-- Carried forward, every plan has ended or waits. -/
theorem over_or_waits (p : Plan α) : p.forward.Over ∨ p.forward.Waits := by
  induction p with
  | done answer =>
    left
    rw [forward_done]
    trivial
  | overflow cause =>
    left
    rw [forward_overflow]
    trivial
  | call c next _ =>
    right
    rw [forward_call]
    exact .inl ⟨c, fun reply => ⟨_, .call reply⟩⟩
  | newPayment next _ =>
    right
    rw [forward_newPayment]
    exact .inr fun payment => ⟨_, .newPayment payment⟩
  | both l r next ihl ihr ihn =>
    simp only [forward]
    split
    · left
      trivial
    · apply ihn
    · right
      exact waits_of_joint ihl ihr ‹_› next
  | detach task next iht ihn =>
    simp only [forward]
    split
    · apply ihn
    · apply ihn
    · rename_i hd ho
      right
      rcases iht with ended | waits
      · exfalso
        cases hp : task.forward with
        | done result => exact hd result hp
        | overflow cause => exact ho cause hp
        | _ => simp [hp, Over] at ended
      · exact waits.of_steps fun _ _ step => ⟨_, .task step⟩

section Steps

variable {p q r : Plan α} {ds ds' : List Deed}

theorem Steps.append (steps : p.Steps ds q) (rest : q.Steps ds' r) : p.Steps (ds ++ ds') r := by
  induction steps with
  | start => exact rest
  | turn step _ ih => exact .turn step (ih rest)

/-- What a turn preserves holds after all turns, if it holds at the start. -/
theorem Steps.preserved (Good : List Deed → Plan α → Prop) (steps : p.Steps ds q)
    (start : Good [] p)
    (turn : ∀ ds q d r, Good ds q → q.Step d r → Good (ds ++ [d]) r) : Good ds q := by
  suffices h : ∀ done, Good done p → Good (done ++ ds) q from h [] start
  clear start
  induction steps with
  | start =>
    intro done hg
    rwa [List.append_nil]
  | turn step _ ih =>
    intro done hg
    have := ih (done ++ [_]) (turn _ _ _ _ hg step)
    rwa [List.append_assoc] at this

theorem Steps.forward_eq (steps : p.Steps ds q) (hp : p.forward = p) : q.forward = q :=
  steps.preserved (fun _ q => q.forward = q) hp fun _ _ _ _ _ step => step.forward_eq

/-- A plan that was carried forward at the start has ended or waits, whatever it has got. -/
theorem Steps.over_or_waits (steps : p.Steps ds q) (hp : p.forward = p) : q.Over ∨ q.Waits := by
  have h := q.over_or_waits
  rwa [steps.forward_eq hp] at h

end Steps

/-! ## A plan, and the one that its answer chooses -/

section Sequence

variable {α β : Type} {p : Plan α} {f : α → Plan β} {ds : List Deed} {b : β}

theorem steps_done {q : Plan β} (steps : (Plan.done b).Steps ds q) : ds = [] ∧ q = .done b := by
  cases steps with
  | start => exact ⟨rfl, rfl⟩
  | turn step => cases step

/-- A plan that makes a call goes on with the reply. -/
theorem steps_call_iff {c : Call} {next : c.Reply → Plan β} {reply : c.Reply} {q : Plan β} :
    (Plan.call c next).Steps (.called c reply :: ds) q ↔ (next reply).forward.Steps ds q := by
  constructor
  · intro steps
    cases steps with
    | turn step steps =>
      cases step with
      | call => exact steps
  · exact .turn (.call reply)

/-- As long as a plan has not come to its answer, what follows it waits. -/
theorem forward_bind_of_ne_done (h : ∀ a, p.forward ≠ .done a) :
    (p.bind f).forward = p.forward.bind f := by
  induction p with
  | done a => exact absurd (forward_done a) (h a)
  | overflow | call | newPayment => simp [bind]
  | both left right next _ _ ih =>
    simp only [forward] at h ⊢
    simp only [bind, forward]
    split
    · rfl
    · rename_i hj
      simp only [hj] at h
      exact ih _ h
    · rfl
  | detach task next _ ih =>
    simp only [forward] at h ⊢
    simp only [bind, forward]
    split
    · rename_i ht
      simp only [ht] at h
      exact ih _ h
    · rename_i ht
      simp only [ht] at h
      exact ih _ h
    · rfl

/-- Who has come to the end of two plans has come to the end of the first, and then of the one
that its answer chose. -/
theorem Steps.of_bind (steps : (p.bind f).forward.Steps ds (.done b)) :
    ∃ a first rest, p.forward.Steps first (.done a) ∧ (f a).forward.Steps rest (.done b) ∧
      ds = first ++ rest := by
  induction ds generalizing p with
  | nil =>
    by_cases hp : ∃ a, p.forward = .done a
    · obtain ⟨a, ha⟩ := hp
      rw [forward_bind, ha] at steps
      exact ⟨a, [], [], ha ▸ .start, steps, rfl⟩
    · exfalso
      rw [forward_bind_of_ne_done fun a ha => hp ⟨a, ha⟩] at steps
      generalize hq : p.forward.bind f = q at steps
      cases steps
      cases hf : p.forward with
      | done a => exact hp ⟨a, hf⟩
      | _ => simp [hf, bind] at hq
  | cons d ds ih =>
    by_cases hp : ∃ a, p.forward = .done a
    · obtain ⟨a, ha⟩ := hp
      rw [forward_bind, ha] at steps
      exact ⟨a, [], d :: ds, ha ▸ .start, steps, rfl⟩
    · have waits : ∀ a, p.forward ≠ .done a := fun a ha => hp ⟨a, ha⟩
      rw [forward_bind_of_ne_done waits] at steps
      cases steps with
      | turn step steps =>
        rcases step.of_bind with ⟨a, ha, -⟩ | ⟨q, moved, rfl⟩
        · exact absurd ha (waits a)
        · obtain ⟨a, first, rest, load, follow, rfl⟩ := ih steps
          rw [moved.forward_eq] at load
          exact ⟨a, d :: first, rest, .turn moved load, follow, rfl⟩

/-- A plan that has come to its answer goes on as the one that the answer chooses. -/
theorem Steps.bind {a : α} {first rest : List Deed} (steps : p.forward.Steps first (.done a))
    (follow : (f a).forward.Steps rest (.done b)) :
    (p.bind f).forward.Steps (first ++ rest) (.done b) := by
  induction first generalizing p with
  | nil =>
    generalize hp : p.forward = q at steps
    cases steps
    rw [forward_bind, hp]
    exact follow
  | cons d first ih =>
    cases steps with
    | turn step steps =>
      have waits : ∀ a, p.forward ≠ .done a := by
        intro a ha
        rw [ha] at step
        cases step
      rw [forward_bind_of_ne_done waits]
      rw [← step.forward_eq] at steps
      exact .turn (step.bind f) (ih steps)

/-- A plan with a function applied to its answer takes the turns of the plan. -/
theorem steps_map_iff {g : α → β} :
    (p.map g).forward.Steps ds (.done b) ↔ ∃ a, p.forward.Steps ds (.done a) ∧ g a = b := by
  constructor
  · intro steps
    obtain ⟨a, first, rest, turns, follow, rfl⟩ := Steps.of_bind steps
    rw [forward_done] at follow
    obtain ⟨rfl, same⟩ := steps_done follow
    rw [List.append_nil]
    exact ⟨a, turns, (done.inj same).symm⟩
  · rintro ⟨a, steps, rfl⟩
    have rest : (Plan.done (g a)).forward.Steps [] (.done (g a)) := by
      rw [forward_done]
      exact .start
    rw [← List.append_nil ds]
    exact steps.bind rest

end Sequence

end Progression.Plan

namespace Progression.System

variable {σ : Type} {Answer : Unit → Type} {col : Collaborators σ} {s t : System σ Answer}
  {h : History Unit}

/-- What each turn of a party on its own keeps is kept by its run. -/
theorem Run.alone (run : Run col s h t) (Good : List Deed → Plan (Answer ()) → σ → Prop)
    (start : Good [] (s.plans ()) s.world)
    (called : ∀ {ds : List Deed} {p q : Plan (Answer ())} {c : Call} {reply : c.Reply} {w w' : σ},
      Good ds p w → p.Step (.called c reply) q → col w c reply w' →
        Good (ds ++ [.called c reply]) q w')
    (took : ∀ {ds : List Deed} {p q : Plan (Answer ())} {payment : PaymentId} {w : σ},
      Good ds p w → p.Step (.took payment) q → Good (ds ++ [.took payment]) q w) :
    Good (h.of ()) (t.plans ()) t.world := by
  induction run with
  | start => exact start
  | turn run turn ih =>
    rw [History.of_snoc_self]
    have step := turn.step
    cases turn with
    | call _ reply_ok => exact called ih step reply_ok
    | take => exact took ih step

end Progression.System
