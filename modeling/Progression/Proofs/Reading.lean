-- Where a read through the cache stands: it asks the cache, loads the
-- value from the store, or keeps the loaded value in the cache. A turn of
-- the plan is a turn from one of these places to another.
import Progression.Proofs.Interleaving
import Progression.Service

namespace Progression

/-- A value that is kept in the cache and can be loaded from the store. -/
structure Source (α : Type) [Coded α] where
  key : Key
  lifetime : Span
  load : StoreCall
  value : load.Answer → α

/-- The plan that reads a value. -/
def Source.read {α : Type} [Coded α] (src : Source α) : Plan (Except Refusal α) :=
  cachedRead src.key src.lifetime
    ((askStore src.load).andThen fun answer => .done (.ok (src.value answer)))

/-- What a read does next. -/
inductive Reading (α : Type) where
  | asking
  | loading
  | keeping (a : α)

namespace Reading

variable {α : Type} [Coded α]

/-- The rest of the plan of a read. -/
def plan (src : Source α) : Reading α → Plan (Except Refusal α)
  | .asking => src.read
  | .loading => ((askStore src.load).andThen fun answer => .done (.ok (src.value answer))).andThen
      fun a => (writeEntry src.key a src.lifetime).bind fun _ => .done (.ok a)
  | .keeping a => (writeEntry src.key a src.lifetime).bind fun _ => .done (.ok a)

/-- The rest of the plan of a read that may be over. -/
def planOr (src : Source α) : Reading α ⊕ Except Refusal α → Plan (Except Refusal α)
  | .inl reading => reading.plan src
  | .inr result => .done result

/-- One turn of a read, which goes on or is over then. -/
inductive Next (src : Source α) : Reading α → Deed → Reading α ⊕ Except Refusal α → Prop
  | hit {text : String} {a : α} (decodes : decodeText? text = some a) :
      Next src .asking (.called (.cache (.get src.key)) (.ok (some text))) (.inr (.ok a))
  | miss {reply : Except CacheFault (Option String)}
      (useless : ∀ text, reply = .ok (some text) → decodeText? (α := α) text = none) :
      Next src .asking (.called (.cache (.get src.key)) reply) (.inl .loading)
  | loaded (answer : src.load.Answer) :
      Next src .loading (.called (.store src.load) (.ok answer))
        (.inl (.keeping (src.value answer)))
  | unloaded (fault : StoreFault) :
      Next src .loading (.called (.store src.load) (.error fault))
        (.inr (.error (.ofStore fault)))
  | kept {a : α} (reply : Except CacheFault Unit) :
      Next src (.keeping a)
        (.called (.cache (.set src.key (encodeText a) src.lifetime)) reply) (.inr (.ok a))

theorem forward_plan (src : Source α) (r : Reading α) : (r.plan src).forward = r.plan src := by
  cases r <;> simp [plan, Source.read, cachedRead, fetch?, askStore, writeEntry, Plan.andThen,
    Plan.bind]

theorem forward_planOr (src : Source α) (r : Reading α ⊕ Except Refusal α) :
    (planOr src r).forward = planOr src r := by
  rcases r with r | result
  · exact forward_plan src r
  · exact Plan.forward_done _

/-- The plan of a read takes the turns of the read, and no others. -/
theorem next_of_step {src : Source α} {r : Reading α} {d : Deed} {q : Plan (Except Refusal α)}
    (h : (r.plan src).Step d q) : ∃ r', Next src r d r' ∧ q = planOr src r' := by
  cases r with
  | asking =>
    cases h with
    | call reply =>
      rcases reply with fault | (_ | text)
      · exact ⟨_, .miss (by simp), forward_plan src .loading⟩
      · exact ⟨_, .miss (by simp), forward_plan src .loading⟩
      · rcases hd : decodeText? (α := α) text with _ | a
        · refine ⟨_, .miss (by simpa using hd), ?_⟩
          rw [← forward_planOr]
          simp only [Plan.bind, hd]
          rfl
        · refine ⟨_, .hit hd, ?_⟩
          simp only [Plan.bind, hd]
          exact Plan.forward_done _
  | loading =>
    cases h with
    | call reply =>
      rcases reply with fault | answer
      · exact ⟨_, .unloaded fault, Plan.forward_done _⟩
      · exact ⟨_, .loaded answer, forward_plan src (.keeping _)⟩
  | keeping a =>
    cases h with
    | call reply => exact ⟨_, .kept reply, Plan.forward_done _⟩

/-- Only the store refuses a read. -/
theorem Next.refused {src : Source α} {r : Reading α} {d : Deed} {refusal : Refusal}
    (h : Next src r d (.inr (.error refusal))) :
    ∃ fault, refusal = .ofStore fault ∧ d = .called (.store src.load) (.error fault) := by
  cases h with
  | unloaded fault => exact ⟨fault, rfl, rfl⟩

/-- Every turn of a read is a turn of its plan. -/
theorem Next.step {src : Source α} {r : Reading α} {r' : Reading α ⊕ Except Refusal α} {d : Deed}
    (h : Next src r d r') : (r.plan src).Step d (planOr src r') := by
  rw [← forward_planOr src r']
  cases h with
  | hit decodes =>
    refine (Plan.Step.call _).of_eq ?_
    simp only [Plan.bind, decodes]
    rfl
  | @miss reply useless =>
    refine (Plan.Step.call _).of_eq ?_
    rcases reply with fault | (_ | text)
    · rfl
    · rfl
    · simp only [Plan.bind, useless text rfl]
      rfl
  | loaded => exact .call _
  | unloaded => exact .call _
  | kept => exact .call _

end Reading

end Progression
