-- A history is one of a run if and only if each party can do its own part of
-- it, and the collaborators go along with the whole. So parties that take
-- turns are put together from what each of them does on its own.
import Progression.Proofs.Ending

namespace Progression

/-! ## What the collaborators go along with -/

section Along

variable {σ : Type} {col : Collaborators σ} {w w' w'' : σ} {taken taken' taken'' : Set PaymentId}
  {ds ds' : List Deed}

/-- The collaborators may reply like this to one deed after another, and no payment id is taken
twice. -/
inductive Collaborators.GoAlong (col : Collaborators σ) :
    σ → Set PaymentId → List Deed → σ → Set PaymentId → Prop
  | nil {w : σ} {taken : Set PaymentId} : GoAlong col w taken [] w taken
  | called {w w' w'' : σ} {taken taken' : Set PaymentId} {c : Call} {reply : c.Reply}
      {ds : List Deed} (reply_ok : col w c reply w') (rest : GoAlong col w' taken ds w'' taken') :
      GoAlong col w taken (.called c reply :: ds) w'' taken'
  | took {w w' : σ} {taken taken' : Set PaymentId} {payment : PaymentId} {ds : List Deed}
      (fresh : payment ∉ taken) (rest : GoAlong col w (insert payment taken) ds w' taken') :
      GoAlong col w taken (.took payment :: ds) w' taken'

namespace Collaborators.GoAlong

theorem append (goes : col.GoAlong w taken ds w' taken')
    (rest : col.GoAlong w' taken' ds' w'' taken'') :
    col.GoAlong w taken (ds ++ ds') w'' taken'' := by
  induction goes with
  | nil => exact rest
  | called reply_ok _ ih => exact .called reply_ok (ih rest)
  | took fresh _ ih => exact .took fresh (ih rest)

end Collaborators.GoAlong

end Along

/-! ## From the parties to the run -/

section Plans

variable {α β : Type} {p q : Plan α} {d : Deed} {ds : List Deed}

theorem Plan.steps_nil_iff : p.Steps [] q ↔ p = q := by
  constructor
  · intro steps
    cases steps
    rfl
  · rintro rfl
    exact .start

theorem Plan.steps_cons_iff : p.Steps (d :: ds) q ↔ ∃ r, p.Step d r ∧ r.Steps ds q := by
  constructor
  · intro steps
    cases steps with
    | turn step rest => exact ⟨_, step, rest⟩
  · rintro ⟨r, step, rest⟩
    exact .turn step rest

theorem Plan.Steps.map (steps : p.Steps ds q) (f : α → β) : (p.map f).Steps ds (q.map f) := by
  induction steps with
  | start => exact .start
  | turn step _ ih => exact .turn (step.map f) ih

end Plans

namespace History

variable {ι : Type} [DecidableEq ι] {h : History ι} {i j : ι} {d : Deed}

@[simp]
theorem of_cons_self : of ((i, d) :: h) i = d :: of h i := by simp [of]

theorem of_cons_of_ne (hne : i ≠ j) : of ((i, d) :: h) j = of h j := by simp [of, hne]

@[simp]
theorem of_map_self (ds : List Deed) : of (ds.map (i, ·)) i = ds := by
  induction ds with
  | nil => rfl
  | cons d ds ih => rw [List.map_cons, of_cons_self, ih]

theorem of_map_of_ne (hne : i ≠ j) (ds : List Deed) : of (ds.map (i, ·)) j = [] := by
  induction ds with
  | nil => rfl
  | cons d ds ih => rw [List.map_cons, of_cons_of_ne hne, ih]

end History

namespace System

variable {σ ι : Type} [DecidableEq ι] {Answer : ι → Type} {col : Collaborators σ}
  {s t u : System σ Answer} {h h' : History ι} {i : ι} {d : Deed}

theorem Run.append (run : Run col s h t) (rest : Run col t h' u) : Run col s (h ++ h') u := by
  induction rest with
  | start => rwa [List.append_nil]
  | turn _ turn ih =>
    rw [← List.append_assoc]
    exact .turn ih turn

theorem Turn.before (turn : Turn col s i d t) (rest : Run col t h u) :
    Run col s ((i, d) :: h) u :=
  (Run.turn .start turn).append rest

theorem Turn.goAlong (turn : Turn col s i d t) :
    col.GoAlong s.world s.taken [d] t.world t.taken := by
  cases turn with
  | call _ reply_ok => exact .called reply_ok .nil
  | take _ fresh => exact .took fresh .nil

theorem Run.goAlong (run : Run col s h t) :
    col.GoAlong s.world s.taken (h.map Prod.snd) t.world t.taken := by
  induction run with
  | start => exact .nil
  | turn _ turn ih =>
    rw [List.map_append]
    exact ih.append turn.goAlong

/-- A party that can do that first can do it in a turn, if the collaborators go along. -/
theorem exists_turn {p : Plan (Answer i)} {ds : List Deed} {w : σ} {taken : Set PaymentId}
    (step : (s.plans i).Step d p) (goes : col.GoAlong s.world s.taken (d :: ds) w taken) :
    ∃ t, Turn col s i d t ∧ t.plans = Function.update s.plans i p ∧
      col.GoAlong t.world t.taken ds w taken := by
  cases goes with
  | called reply_ok rest => exact ⟨_, .call step reply_ok, rfl, rest⟩
  | took fresh rest => exact ⟨_, .take step fresh, rfl, rest⟩

/-- A run is what each of its parties does, in an order that the collaborators go along with. -/
theorem run_iff : Run col s h t ↔ (∀ i, (s.plans i).Steps (h.of i) (t.plans i)) ∧
    col.GoAlong s.world s.taken (h.map Prod.snd) t.world t.taken := by
  refine ⟨fun run => ⟨run.steps, run.goAlong⟩, ?_⟩
  rintro ⟨parties, goes⟩
  induction h generalizing s with
  | nil =>
    have plans : s.plans = t.plans := funext fun i => Plan.steps_nil_iff.mp (parties i)
    obtain ⟨w, taken, p⟩ := s
    obtain ⟨w', taken', p'⟩ := t
    cases goes
    cases plans
    exact .start
  | cons e h ih =>
    obtain ⟨i, d⟩ := e
    have mine := parties i
    rw [History.of_cons_self] at mine
    obtain ⟨p, step, rest⟩ := Plan.steps_cons_iff.mp mine
    obtain ⟨u, turn, plans, goes⟩ := exists_turn step goes
    refine turn.before (ih (fun j => ?_) goes)
    by_cases hj : j = i
    · subst hj
      rwa [plans, Function.update_self]
    · rw [plans, Function.update_of_ne hj]
      have theirs := parties j
      rwa [History.of_cons_of_ne (Ne.symm hj)] at theirs

/-- One party goes on while the others wait. -/
theorem Run.follows {p : Plan (Answer i)} {ds : List Deed} {w : σ} {taken : Set PaymentId}
    (run : Run col s h t) (steps : (t.plans i).Steps ds p)
    (goes : col.GoAlong t.world t.taken ds w taken) :
    ∃ t', Run col s (h ++ ds.map (i, ·)) t' ∧ t'.plans i = p ∧ t'.world = w ∧ t'.taken = taken ∧
      ∀ j ≠ i, t'.plans j = t.plans j := by
  let after : System σ Answer := ⟨w, taken, Function.update t.plans i p⟩
  have mine : after.plans i = p := Function.update_self ..
  have theirs (j : ι) (hj : j ≠ i) : after.plans j = t.plans j := Function.update_of_ne hj ..
  have deeds : (ds.map fun d => (i, d)).map Prod.snd = ds := by
    rw [List.map_map]
    exact List.map_id ds
  refine ⟨after, run.append (run_iff.mpr ⟨fun j => ?_, by rwa [deeds]⟩), mine, rfl, rfl, theirs⟩
  by_cases hj : j = i
  · subst hj
    rwa [History.of_map_self, mine]
  · rw [History.of_map_of_ne (Ne.symm hj), theirs j hj]
    exact .start

end System

end Progression
