-- Customs: what parties that share a world keep to. A party relies on
-- the others to let a good world become only later good worlds, and it
-- must make only calls that may be made. What it was promised of a reply
-- it carries along to its next calls, however long these take to come.
import Progression.Service
import Progression.Proofs.Leaving

namespace Progression

/-- What parties keep to: good worlds, what may become of a good world, and the calls that may
be made in it. -/
structure Customs {σ : Type} (col : Collaborators σ) where
  good : σ → Prop
  later : σ → σ → Prop
  may : σ → Call → Prop
  refl : ∀ w, later w w
  trans : ∀ {u v w}, later u v → later v w → later u w
  keeps : ∀ {w w' : σ} {c : Call} {reply : c.Reply}, good w → may w c → col w c reply w' →
    good w' ∧ later w w'

/-- What is promised of two plans at once: what each of them has promised, or a fault that one of
them has. -/
def jointly {σ β γ ε : Type} (first : Except ε β → σ → Prop) (second : Except ε γ → σ → Prop) :
    Except ε (β × γ) → σ → Prop
  | .ok (b, c), w => first (.ok b) w ∧ second (.ok c) w
  | .error e, w => first (.error e) w ∨ second (.error e) w

/-- What is promised of an answer, and nothing of a refusal. -/
def ifOk {σ ε α : Type} (post : α → σ → Prop) : Except ε α → σ → Prop
  | .ok a, w => post a w
  | .error _, _ => True

namespace Plan

variable {σ : Type} {col : Collaborators σ}

/-- From that world on, whatever the others do in between, the plan makes only calls that may be
made, and what it comes to is as promised. -/
def Obeys (customs : Customs col) : {α : Type} → Plan α → (α → σ → Prop) → σ → Prop
  | _, .done a, post, w => ∀ v, customs.later w v → post a v
  | _, .overflow _, _, _ => True
  | _, .call c next, post, w => ∀ v, customs.later w v → customs.good v →
    customs.may v c ∧ ∀ reply v', col v c reply v' → (next reply).Obeys customs post v'
  | _, .newPayment next, post, w => ∀ payment, (next payment).Obeys customs post w
  | _, .both left right next, post, w => ∃ first second,
    left.Obeys customs first w ∧ right.Obeys customs second w ∧
    ∀ result v, customs.later w v → jointly first second result v →
      (next result).Obeys customs post v
  | _, .detach task next, post, w => ∃ told, task.Obeys customs told w ∧
    ∀ result v, customs.later w v → (∀ r, result = some r → told r v) →
      (next result).Obeys customs post v

namespace Obeys

variable {customs : Customs col} {α β : Type} {p q : Plan α} {post : α → σ → Prop} {w v : σ}

/-- A plan that obeys goes on to, however late. -/
theorem mono (hp : p.Obeys customs post w) (hl : customs.later w v) : p.Obeys customs post v := by
  induction p with
  | done a => exact fun u hu => hp u (customs.trans hl hu)
  | overflow => trivial
  | call c next => exact fun u hu => hp u (customs.trans hl hu)
  | newPayment next ih => exact fun payment => ih payment (hp payment)
  | both left right next ihl ihr =>
    obtain ⟨first, second, hleft, hright, hnext⟩ := hp
    exact ⟨first, second, ihl hleft, ihr hright,
      fun result u hu => hnext result u (customs.trans hl hu)⟩
  | detach task next iht =>
    obtain ⟨told, htask, hnext⟩ := hp
    exact ⟨told, iht htask, fun result u hu => hnext result u (customs.trans hl hu)⟩

/-- A call that may always be made, with nothing promised of its reply. -/
theorem call {c : Call} {next : c.Reply → Plan α} (may : ∀ v, customs.may v c)
    (hnext : ∀ reply v, (next reply).Obeys customs post v) :
    (Plan.call c next).Obeys customs post w := by
  intro v hl hg
  refine ⟨may v, ?_⟩
  intro reply v' hc
  exact hnext reply v'

/-! ## Plans one after another -/

/-- What follows a plan must obey wherever its answer stands as promised. -/
theorem bind {mid : α → σ → Prop} {post : β → σ → Prop} {f : α → Plan β}
    (hp : p.Obeys customs mid w)
    (hf : ∀ a v, customs.later w v → (done a).Obeys customs mid v →
      (f a).Obeys customs post v) : (p.bind f).Obeys customs post w := by
  induction p generalizing w with
  | done a => exact hf a w (customs.refl w) hp
  | overflow => trivial
  | call c next ih =>
    intro v hl hg
    obtain ⟨hm, hnext⟩ := hp v hl hg
    refine ⟨hm, fun reply v' hc => ih reply (hnext reply v' hc) fun a u hu => hf a u ?_⟩
    exact customs.trans hl (customs.trans (customs.keeps hg hm hc).2 hu)
  | newPayment next ih => exact fun payment => ih payment (hp payment) hf
  | both left right next _ _ ih =>
    obtain ⟨first, second, hleft, hright, hnext⟩ := hp
    exact ⟨first, second, hleft, hright, fun result v hl hj => ih result (hnext result v hl hj)
      fun a u hu => hf a u (customs.trans hl hu)⟩
  | detach task next _ ih =>
    obtain ⟨told, htask, hnext⟩ := hp
    exact ⟨told, htask, fun result v hl ht => ih result (hnext result v hl ht)
      fun a u hu => hf a u (customs.trans hl hu)⟩

theorem map {f : α → β} {post : β → σ → Prop} (hp : p.Obeys customs (fun a => post (f a)) w) :
    (p.map f).Obeys customs post w :=
  hp.bind fun _ _ _ ha => ha

/-- Less may be promised. -/
theorem weaken {post' : α → σ → Prop} (hp : p.Obeys customs post w)
    (h : ∀ a v, post a v → post' a v) : p.Obeys customs post' w := by
  rw [← p.bind_done]
  exact hp.bind fun a v _ ha u hu => h a u (ha u hu)

theorem andThen {ε : Type} {p : Plan (Except ε α)} {f : α → Plan (Except ε β)}
    {mid : α → σ → Prop} {post : β → σ → Prop} (hp : p.Obeys customs (ifOk mid) w)
    (hf : ∀ a v, customs.later w v → mid a v → (f a).Obeys customs (ifOk post) v) :
    (p.andThen f).Obeys customs (ifOk post) w := by
  refine hp.bind fun result v hl hr => ?_
  cases result with
  | ok a => exact hf a v hl (hr v (customs.refl v))
  | error e => exact fun _ _ => trivial

/-! ## Carrying forward, and turns -/

theorem jointly_of_joint {β γ ε : Type} {left : Plan (Except ε β)} {right : Plan (Except ε γ)}
    {first : Except ε β → σ → Prop} {second : Except ε γ → σ → Prop}
    {result : Except ε (β × γ)} (hj : joint left right = some (.ok result))
    (hleft : left.Obeys customs first w) (hright : right.Obeys customs second w) :
    jointly first second result w := by
  unfold joint at hj
  split at hj
  · cases hj
  · cases hj
    exact .inl (hleft w (customs.refl w))
  · cases hj
  · cases hj
    exact .inr (hright w (customs.refl w))
  · cases hj
    exact ⟨hleft w (customs.refl w), hright w (customs.refl w)⟩
  · cases hj

theorem forward (hp : p.Obeys customs post w) : p.forward.Obeys customs post w := by
  induction p generalizing w with
  | done | overflow | call | newPayment => simpa using hp
  | both left right next ihl ihr ihn =>
    obtain ⟨first, second, hleft, hright, hnext⟩ := hp
    unfold Plan.forward
    split
    · trivial
    · rename_i result hj
      exact ihn result
        (hnext result w (customs.refl w) (jointly_of_joint hj (ihl hleft) (ihr hright)))
    · exact ⟨first, second, ihl hleft, ihr hright, hnext⟩
  | detach task next iht ihn =>
    obtain ⟨told, htask, hnext⟩ := hp
    have hforward := iht htask
    unfold Plan.forward
    split
    · rename_i r hr
      rw [hr] at hforward
      refine ihn _ (hnext (some r) w (customs.refl w) ?_)
      rintro _ ⟨⟩
      exact hforward w (customs.refl w)
    · exact ihn _ (hnext none w (customs.refl w) (by simp))
    · exact ⟨told, hforward, hnext⟩

/-- The calls of a plan that obeys may be made, and it obeys after each reply. -/
theorem called {c : Call} {reply : c.Reply} (hp : p.Obeys customs post w)
    (step : p.Step (.called c reply) q) (hg : customs.good w) :
    customs.may w c ∧ ∀ w', col w c reply w' → q.Obeys customs post w' := by
  generalize hd : Deed.called c reply = d at step
  induction step with
  | call r =>
    cases hd
    obtain ⟨hm, hnext⟩ := hp w (customs.refl w) hg
    exact ⟨hm, fun w' hc => (hnext reply w' hc).forward⟩
  | newPayment => cases hd
  | left _ ih =>
    obtain ⟨first, second, hleft, hright, hnext⟩ := hp
    obtain ⟨hm, hq⟩ := ih hleft hd
    refine ⟨hm, fun w' hc => forward ?_⟩
    have hl := (customs.keeps hg hm hc).2
    exact ⟨first, second, hq w' hc, hright.mono hl,
      fun result u hu => hnext result u (customs.trans hl hu)⟩
  | right _ ih =>
    obtain ⟨first, second, hleft, hright, hnext⟩ := hp
    obtain ⟨hm, hq⟩ := ih hright hd
    refine ⟨hm, fun w' hc => forward ?_⟩
    have hl := (customs.keeps hg hm hc).2
    exact ⟨first, second, hleft.mono hl, hq w' hc,
      fun result u hu => hnext result u (customs.trans hl hu)⟩
  | task _ ih =>
    obtain ⟨told, htask, hnext⟩ := hp
    obtain ⟨hm, hq⟩ := ih htask hd
    refine ⟨hm, fun w' hc => forward ?_⟩
    have hl := (customs.keeps hg hm hc).2
    exact ⟨told, hq w' hc, fun result u hu => hnext result u (customs.trans hl hu)⟩

theorem took {payment : PaymentId} (hp : p.Obeys customs post w)
    (step : p.Step (.took payment) q) : q.Obeys customs post w := by
  generalize hd : Deed.took payment = d at step
  induction step with
  | call => cases hd
  | newPayment => exact (hp _).forward
  | left _ ih =>
    obtain ⟨first, second, hleft, hright, hnext⟩ := hp
    exact forward ⟨first, second, ih hleft hd, hright, hnext⟩
  | right _ ih =>
    obtain ⟨first, second, hleft, hright, hnext⟩ := hp
    exact forward ⟨first, second, hleft, ih hright hd, hnext⟩
  | task _ ih =>
    obtain ⟨told, htask, hnext⟩ := hp
    exact forward ⟨told, ih htask hd, hnext⟩

/-! ## Callers that go away -/

theorem leftover (hp : p.Obeys customs post w) :
    p.leftover.Obeys customs (fun _ _ => True) w := by
  have ends (u : σ) :
      (done (.ok ()) : Plan (Except Unit Unit)).Obeys customs (fun _ _ => True) u :=
    fun _ _ => trivial
  induction p generalizing w with
  | done | overflow | call | newPayment => exact ends w
  | both left right next ihl ihr =>
    obtain ⟨first, second, hleft, hright, -⟩ := hp
    exact ⟨_, _, ihl hleft, ihr hright, fun _ u _ _ => ends u⟩
  | detach task next =>
    obtain ⟨told, htask, -⟩ := hp
    exact ⟨told, htask, fun _ u _ _ => ends u⟩

theorem abandoned {p : Plan (Option α)} {post : Option α → σ → Prop}
    (hp : p.Obeys customs post w) : p.abandoned.Obeys customs (fun _ _ => True) w :=
  forward (map hp.leftover)

end Obeys

end Plan

/-! ## Traffic -/

namespace System

variable {σ ι : Type} [DecidableEq ι] {Answer : ι → Type} {col : Collaborators σ}
  {customs : Customs col} {s t : System σ fun i => Option (Answer i)} {h : History ι}

/-- The world is good, later than that one, and everybody obeys. -/
structure Orderly (customs : Customs col) (w : σ) (t : System σ fun i => Option (Answer i)) :
    Prop where
  good : customs.good t.world
  later : customs.later w t.world
  obeys : ∀ i, (t.plans i).Obeys customs (fun _ _ => True) t.world

namespace Orderly

variable {w : σ} {u : System σ fun i => Option (Answer i)} {i : ι} {d : Deed}

/-- Each turn is orderly. -/
theorem turn (orderly : Orderly customs w t) (turn : Turn col t i d u) :
    Orderly customs w u := by
  have mine := orderly.obeys i
  cases turn with
  | @call c reply plan world step reply_ok =>
    obtain ⟨hm, hq⟩ := mine.called step orderly.good
    obtain ⟨hg, hl⟩ := customs.keeps orderly.good hm reply_ok
    refine ⟨hg, customs.trans orderly.later hl, fun j => ?_⟩
    by_cases hj : j = i
    · subst hj
      simpa using hq world reply_ok
    · simpa [hj] using (orderly.obeys j).mono hl
  | @take payment plan step fresh =>
    refine ⟨orderly.good, orderly.later, fun j => ?_⟩
    by_cases hj : j = i
    · subst hj
      simpa using mine.took step
    · simpa [hj] using orderly.obeys j

theorem leave (orderly : Orderly customs w t) (i : ι) : Orderly customs w (t.leave i) := by
  refine ⟨orderly.good, orderly.later, fun j => ?_⟩
  by_cases hj : j = i
  · subst hj
    rw [leave_plan_self]
    exact (orderly.obeys j).abandoned
  · rw [leave_plan_of_ne t hj]
    exact orderly.obeys j

omit [DecidableEq ι] in
/-- A call that a party makes may be made. -/
theorem may {c : Call} {reply : c.Reply} {q : Plan (Option (Answer i))}
    (orderly : Orderly customs w t) (step : (t.plans i).Step (.called c reply) q) :
    customs.may t.world c := ((orderly.obeys i).called step orderly.good).1

end Orderly

/-- Traffic of parties that obey is orderly. -/
theorem Traffic.orderly (traffic : Traffic col s h t) (good : customs.good s.world)
    (obeys : ∀ i, (s.plans i).Obeys customs (fun _ _ => True) s.world) :
    Orderly customs s.world t := by
  induction traffic with
  | start => exact ⟨good, customs.refl _, obeys⟩
  | turn _ turn ih => exact ih.turn turn
  | leave _ i ih => exact ih.leave i

/-- What a call that may be made brings about, and what lasts then, is so of every call of the
traffic. -/
theorem Traffic.lasting (fact : Deed → σ → Prop) (traffic : Traffic col s h t)
    (good : customs.good s.world) (obeys : ∀ i, (s.plans i).Obeys customs (fun _ _ => True) s.world)
    (called : ∀ {w w' : σ} {c : Call} {reply : c.Reply}, customs.good w → customs.may w c →
      col w c reply w' → fact (.called c reply) w')
    (took : ∀ payment w, fact (.took payment) w)
    (lasts : ∀ d {u v}, customs.later u v → fact d u → fact d v) :
    ∀ i d, (i, d) ∈ h → fact d t.world := by
  induction traffic with
  | start =>
    intro i d hd
    cases hd
  | @turn h u t j e traffic turn ih =>
    have orderly : Orderly customs u.world u := by
      have before := traffic.orderly good obeys
      exact ⟨before.good, customs.refl _, before.obeys⟩
    have later := (orderly.turn turn).later
    intro i d hd
    rcases List.mem_append.mp hd with hd | hd
    · exact lasts d later (ih i d hd)
    · cases List.mem_singleton.mp hd
      cases turn with
      | call step reply_ok => exact called orderly.good (orderly.may step) reply_ok
      | take => exact took _ _
  | leave _ _ ih => exact ih

end System

end Progression
