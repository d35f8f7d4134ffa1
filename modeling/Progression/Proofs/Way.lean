-- The way of a read. It asks the cache, then the store if the cache was of
-- no use, and then it has the cache keep what the store has told; so three
-- deeds at most bring it to its answer, whatever it is told.
import Progression.Proofs.Ending
import Progression.Proofs.Reading

namespace Progression.Reading

variable {α : Type} [Coded α] {src : Source α} {ds : List Deed} {d : Deed} {r : Reading α}
  {r' : Reading α ⊕ Except Refusal α} {q : Plan (Except Refusal α)} {result : Except Refusal α}

/-- The cache has failed, or it has no entry, or none that can be read. -/
def Missed (α : Type) [Coded α] (got : Except CacheFault (Option String)) : Prop :=
  ∀ text, got = .ok (some text) → decodeText? (α := α) text = none

/-- The deeds that bring a read to each of its places, and to its ends. -/
inductive Way (src : Source α) : List Deed → Reading α ⊕ Except Refusal α → Prop
  | asking : Way src [] (.inl .asking)
  | hit {text : String} {a : α} (decodes : decodeText? text = some a) :
      Way src [.called (.cache (.get src.key)) (.ok (some text))] (.inr (.ok a))
  | missed {got : Except CacheFault (Option String)} (missed : Missed α got) :
      Way src [.called (.cache (.get src.key)) got] (.inl .loading)
  | unloaded {got : Except CacheFault (Option String)} (missed : Missed α got)
      (fault : StoreFault) :
      Way src [.called (.cache (.get src.key)) got, .called (.store src.load) (.error fault)]
        (.inr (.error (.ofStore fault)))
  | loaded {got : Except CacheFault (Option String)} (missed : Missed α got)
      (answer : src.load.Answer) :
      Way src [.called (.cache (.get src.key)) got, .called (.store src.load) (.ok answer)]
        (.inl (.keeping (src.value answer)))
  | kept {got : Except CacheFault (Option String)} (missed : Missed α got)
      (answer : src.load.Answer) (stored : Except CacheFault Unit) :
      Way src [.called (.cache (.get src.key)) got, .called (.store src.load) (.ok answer),
          .called (.cache (.set src.key (encodeText (src.value answer)) src.lifetime)) stored]
        (.inr (.ok (src.value answer)))

/-! ## Reads are on their way, and nowhere else -/

/-- A turn of a read takes it further on its way. -/
theorem Way.next (way : Way src ds (.inl r)) (next : Next src r d r') : Way src (ds ++ [d]) r' := by
  cases way with
  | asking =>
    cases next with
    | hit decodes => exact .hit decodes
    | miss useless => exact .missed useless
  | missed missed =>
    cases next with
    | loaded answer => exact .loaded missed answer
    | unloaded fault => exact .unloaded missed fault
  | loaded missed answer =>
    cases next with
    | kept stored => exact .kept missed answer stored

/-- What each turn of a read keeps holds wherever the read has come to. -/
theorem of_steps (Good : List Deed → Reading α ⊕ Except Refusal α → Prop)
    (start : Good [] (.inl .asking))
    (turn : ∀ ds r d r', Good ds (.inl r) → Next src r d r' → Good (ds ++ [d]) r')
    (steps : src.read.Steps ds q) : ∃ r, q = planOr src r ∧ Good ds r := by
  refine steps.preserved (fun ds q => ∃ r, q = planOr src r ∧ Good ds r) ⟨_, rfl, start⟩ ?_
  rintro ds _ d q ⟨r, rfl, good⟩ step
  rcases r with r | result
  · obtain ⟨r', next, rfl⟩ := next_of_step step
    exact ⟨r', rfl, turn ds r d r' good next⟩
  · exact absurd step (Plan.Over.no_step trivial)

/-- A read takes every way that there is. -/
theorem Way.steps (way : Way src ds r') : src.read.Steps ds (planOr src r') := by
  have start : src.read = Reading.asking.plan src := rfl
  rw [start]
  cases way with
  | asking => exact .start
  | hit decodes => exact .turn (Next.hit decodes).step .start
  | missed missed => exact .turn (Next.miss missed).step .start
  | unloaded missed fault =>
    exact .turn (Next.miss missed).step (.turn (Next.unloaded fault).step .start)
  | loaded missed answer =>
    exact .turn (Next.miss missed).step (.turn (Next.loaded answer).step .start)
  | kept missed answer stored =>
    exact .turn (Next.miss missed).step
      (.turn (Next.loaded answer).step (.turn (Next.kept stored).step .start))

end Progression.Reading
