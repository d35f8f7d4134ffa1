-- What a change of the store owes the cache. A move up and a new skin make
-- entries of the cache out of date. Who has brought that about touches each
-- such entry afterwards, and is not over before it has done so.
import Progression.Proofs.Wardrobe

namespace Progression

open Rehearsal

/-! ## Changes of the store, and entries that are touched -/

/-- The deed changes what the store would have an entry of the cache say. -/
inductive Deed.Alters : Deed → Key → Prop
  | level {user : UserId} {fromLevel : Level} (level : Level) :
      Alters (.called (.store (.incrementLevel user fromLevel)) (.ok level)) (.level user)
  | profile {user : UserId} {fromLevel : Level} (level : Level) :
      Alters (.called (.store (.incrementLevel user fromLevel)) (.ok level)) (.profile user)
  | skin {user : UserId} {skin : SkinId} :
      Alters (.called (.store (.setActiveSkin user skin)) (.ok ())) (.profile user)

/-- The deed writes an entry of the cache, or takes it out. -/
inductive Deed.Touches : Deed → Key → Prop
  | set {key : Key} {text : String} {lifetime : Span} (reply : Except CacheFault Unit) :
      Touches (.called (.cache (.set key text lifetime)) reply) key
  | invalidate {key : Key} (reply : Except CacheFault Unit) :
      Touches (.called (.cache (.invalidate key)) reply) key

/-- An entry was out of date after one of these deeds, and was not touched since. -/
def Owes (ds : List Deed) (key : Key) : Prop :=
  ∃ before d after, ds = before ++ d :: after ∧ d.Alters key ∧ ∀ e ∈ after, ¬ e.Touches key

theorem not_owes_nil {key : Key} : ¬ Owes [] key := by
  rintro ⟨before, d, after, h, -⟩
  simp at h

theorem Owes.of_snoc {ds : List Deed} {d : Deed} {key : Key} (h : Owes (ds ++ [d]) key) :
    d.Alters key ∨ Owes ds key ∧ ¬ d.Touches key := by
  obtain ⟨before, e, after, hs, alters, untouched⟩ := h
  rcases List.eq_nil_or_concat after with rfl | ⟨after, x, rfl⟩
  · obtain ⟨-, hd⟩ := List.append_inj' hs rfl
    cases hd
    exact .inl alters
  · rw [List.concat_eq_append, ← List.cons_append, ← List.append_assoc] at hs
    obtain ⟨rfl, hd⟩ := List.append_inj' hs rfl
    cases hd
    refine .inr ⟨⟨before, e, after, rfl, alters, fun y hy => untouched y ?_⟩, untouched _ ?_⟩
    · simp [hy]
    · simp

/-! ## Plans that change nothing -/

/-- No call of the plan makes an entry out of date. -/
abbrev Plan.Steady {α : Type} (p : Plan α) : Prop :=
  p.Only fun c => ∀ reply key, ¬ (Deed.called c reply).Alters key

/-- Only a change of skin and a level-up make entries out of date. -/
theorem Rehearsal.Question.Calls.steady {q : Question} {c : Call} (h : q.Calls c)
    (skin : ∀ user skin, q ≠ .changeSkin user skin) (reply : c.Reply) (key : Key) :
    ¬ (Deed.called c reply).Alters key := by
  cases h with
  | create => nofun
  | level read | profile read | prices read | player read | catalogue read => cases read <;> nofun
  | look | wear | drop => exact absurd rfl (skin _ _)

theorem Rehearsal.Question.steady (lifetimes : Lifetimes) {q : Question}
    (skin : ∀ user skin, q ≠ .changeSkin user skin) (level : ∀ user, q ≠ .levelUp user) :
    (q.plan lifetimes).Steady :=
  (only lifetimes level).mono fun _ hc => hc.steady skin

/-! ## Debts -/

variable {lifetimes : Lifetimes} {user : UserId} {skin : SkinId} {ds : List Deed} {d : Deed}

/-- A read makes nothing out of date. -/
theorem Reading.Next.steady {α : Type} [Coded α] {src : Source α} {r : Reading α}
    {r' : Reading α ⊕ Except Refusal α} (h : Next src r d r')
    (load : ∀ reply key, ¬ (Deed.called (.store src.load) reply).Alters key) (key : Key) :
    ¬ d.Alters key := by
  cases h with
  | loaded | unloaded => exact load _ key
  | hit | miss | kept => nofun

/-- The entries that a level-up has yet to touch. -/
def LevelUp.Standing.Debt (user : UserId) : Standing → Key → Prop
  | .commit _ (.spend _ _), key => key = .level user ∨ key = .profile user
  | .commit _ (.keep _), key => key = .level user ∨ key = .profile user
  | .commit _ (.dropProfile _), key => key = .profile user
  | _, _ => False

/-- A level-up owes what its standing says, and no more. -/
theorem LevelUp.Standing.Next.owes {s s' : Standing} (h : Next lifetimes user s d s')
    (old : ∀ key, Owes ds key → s.Debt user key) (key : Key) (owes : Owes (ds ++ [d]) key) :
    s'.Debt user key := by
  rcases owes.of_snoc with alters | ⟨owes, untouched⟩
  · cases h with
    | readLevel next => exact absurd alters (next.steady nofun key)
    | readPrices next => exact absurd alters (next.steady nofun key)
    | advanced | advancedFree =>
      cases alters with
      | level => exact .inl rfl
      | profile => exact .inr rfl
    | _ => cases alters
  · have debt := old key owes
    cases h with
    | spent => exact debt
    | kept reply =>
      rcases debt with rfl | rfl
      · exact absurd (.set reply) untouched
      · exact rfl
    | droppedProfile reply =>
      obtain rfl : key = .profile user := debt
      exact absurd (.invalidate reply) untouched
    | _ => cases debt

/-- The entries that a change of skin has yet to touch. -/
def Fitting.Debt (user : UserId) : Fitting → Key → Prop
  | .dropping, key => key = .profile user
  | _, _ => False

/-- A change of skin owes what its standing says, and no more. -/
theorem Fitting.Next.owes {s s' : Fitting} (h : Next lifetimes user skin s d s')
    (old : ∀ key, Owes ds key → s.Debt user key) (key : Key) (owes : Owes (ds ++ [d]) key) :
    s'.Debt user key := by
  rcases owes.of_snoc with alters | ⟨owes, untouched⟩
  · cases h with
    | readLevel next => exact absurd alters (next.steady nofun key)
    | readList next => exact absurd alters (next.steady nofun key)
    | wore =>
      cases alters with
      | skin => exact rfl
    | stayed | dropped => cases alters
  · have debt := old key owes
    cases h with
    | dropped reply =>
      obtain rfl : key = .profile user := debt
      exact absurd (.invalidate reply) untouched
    | _ => cases debt

/-! ## No debts in the end -/

theorem LevelUp.Standing.debt_of_over {s : Standing} (ended : (s.plan lifetimes user).Over)
    (key : Key) : ¬ s.Debt user key := by
  cases s with
  | commit => cases ended
  | _ => exact id

theorem Fitting.debt_of_over {s : Fitting} (ended : (s.plan lifetimes user skin).Over)
    (key : Key) : ¬ s.Debt user key := by
  cases s with
  | dropping => cases ended
  | _ => exact id

namespace System

variable {σ ι : Type} [DecidableEq ι] {col : Collaborators σ} {asks : ι → Question} {world : σ}
  {taken : Set PaymentId} {h : History ι} {t : System σ fun _ : ι => Option (Except Refusal Json)}
  {i : ι}

/-- Who is over owes nothing. -/
theorem Run.not_owes (run : Run col (serving lifetimes asks world taken) h t)
    (ended : (t.plans i).Over) (key : Key) : ¬ Owes (h.of i) key := by
  intro owes
  have none_yet (s : Key → Prop) : ∀ key, Owes [] key → s key := fun _ h => absurd h not_owes_nil
  cases hq : asks i with
  | levelUp user =>
    obtain ⟨s, hp, debts⟩ := run.party (i := i) (fun ds p => ∃ s : LevelUp.Standing,
        p = (s.plan lifetimes user).map (fun r => some (r.map LevelUpOutcome.summary)) ∧
        ∀ key, Owes ds key → s.Debt user key)
      ⟨.level .asking, by
        simp only [serving, hq, Question.plan, LevelUp.Standing.levelUp_eq]
        exact Plan.map_map .., none_yet _⟩
      (by
        rintro ds p d q ⟨s, rfl, debts⟩ step
        obtain ⟨p', hs, rfl⟩ := step.of_map
        obtain ⟨s', next, rfl⟩ := LevelUp.Standing.next_of_step hs
        exact ⟨s', rfl, next.owes debts⟩)
    rw [hp] at ended
    exact LevelUp.Standing.debt_of_over ended.of_map key (debts key owes)
  | changeSkin user skin =>
    obtain ⟨s, hp, debts⟩ := run.party (i := i) (fun ds p => ∃ s : Fitting,
        p = (s.plan lifetimes user skin).map (fun r => some (r.map fun _ => .null)) ∧
        ∀ key, Owes ds key → s.Debt user key)
      ⟨.looking (.inl .asking) (.inl .asking), by
        simp only [serving, hq, Question.plan, Fitting.changeSkin_eq]
        exact Plan.map_map .., none_yet _⟩
      (by
        rintro ds p d q ⟨s, rfl, debts⟩ step
        obtain ⟨p', hs, rfl⟩ := step.of_map
        obtain ⟨s', next, rfl⟩ := Fitting.next_of_step hs
        exact ⟨s', rfl, next.owes debts⟩)
    rw [hp] at ended
    exact Fitting.debt_of_over ended.of_map key (debts key owes)
  | _ =>
    have steady : ((serving lifetimes asks world taken).plans i).Steady := by
      simp only [serving, hq]
      exact (Question.steady lifetimes (by simp) (by simp)).map
    obtain ⟨before, d, after, hs, alters, -⟩ := owes
    have hd : d ∈ h.of i := by simp [hs]
    obtain ⟨c, reply, rfl, hc⟩ := (run.only steady).2 d hd
    exact hc reply key alters

end System

end Progression
