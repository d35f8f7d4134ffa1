-- What a read has learnt. It asks the cache once, and the store only if the
-- cache had nothing that it could use; so it is told one value at most, and
-- that is the value that it goes on with.
import Progression.Proofs.Settlement

namespace Progression

variable {α : Type} [Coded α] {src : Source α} {ds : List Deed} {d : Deed} {a : α}
  {known : Option α}

/-- The deed asks for the value: the cache for its entry, or the store. -/
def Source.Hears (src : Source α) (d : Deed) : Prop :=
  (∃ reply, d = .called (.cache (.get src.key)) reply) ∨
    ∃ reply, d = .called (.store src.load) reply

/-- All that a party has been told of a source: nothing, or one value. -/
def Source.Learnt (src : Source α) (ds : List Deed) (known : Option α) : Prop :=
  ∀ a, src.Told ds a ↔ known = some a

namespace Source

theorem told_snoc : src.Told (ds ++ [d]) a ↔ src.Told ds a ∨ src.Told [d] a := by
  unfold Told
  simp only [List.mem_append]
  constructor
  · rintro (⟨text, hm | hm, hd⟩ | ⟨answer, hm | hm, ha⟩)
    · exact .inl (.inl ⟨text, hm, hd⟩)
    · exact .inr (.inl ⟨text, hm, hd⟩)
    · exact .inl (.inr ⟨answer, hm, ha⟩)
    · exact .inr (.inr ⟨answer, hm, ha⟩)
  · rintro ((⟨text, hm, hd⟩ | ⟨answer, hm, ha⟩) | ⟨text, hm, hd⟩ | ⟨answer, hm, ha⟩)
    · exact .inl ⟨text, .inl hm, hd⟩
    · exact .inr ⟨answer, .inl hm, ha⟩
    · exact .inl ⟨text, .inr hm, hd⟩
    · exact .inr ⟨answer, .inr hm, ha⟩

/-- Only a deed that asks for the value can tell it. -/
theorem Hears.of_told (h : src.Told [d] a) : src.Hears d := by
  rcases h with ⟨text, hm, -⟩ | ⟨answer, hm, -⟩
  · exact .inl ⟨_, (List.mem_singleton.mp hm).symm⟩
  · exact .inr ⟨_, (List.mem_singleton.mp hm).symm⟩

theorem learnt_nil : src.Learnt [] none := by
  intro a
  simp [Told]

theorem Learnt.told (h : src.Learnt ds (some a)) : src.Told ds a := (h a).mpr rfl

theorem Learnt.eq_of_told (h : src.Learnt ds known) (ht : src.Told ds a) : known = some a :=
  (h a).mp ht

/-- A deed that does not ask for the value tells nothing of it. -/
theorem Learnt.deaf (h : src.Learnt ds known) (hd : ¬ src.Hears d) :
    src.Learnt (ds ++ [d]) known := by
  intro a
  rw [told_snoc, h a, or_iff_left]
  intro ht
  exact hd (.of_told ht)

theorem Learnt.snoc (h : src.Learnt ds none) (hd : src.Learnt [d] known) :
    src.Learnt (ds ++ [d]) known := by
  intro a
  rw [told_snoc, hd a, or_iff_right]
  intro ht
  cases (h a).mp ht

end Source

namespace Reading

/-- The value that a read goes on with, or has come to. -/
def value? : Reading α ⊕ Except Refusal α → Option α
  | .inl (.keeping a) | .inr (.ok a) => some a
  | _ => none

/-- A turn of a read: what it has learnt is the value that it goes on with. -/
theorem Next.learnt {r : Reading α} {r' : Reading α ⊕ Except Refusal α} (h : Next src r d r')
    (hl : src.Learnt ds (value? (.inl r))) : src.Learnt (ds ++ [d]) (value? r') := by
  cases h with
  | @hit text a decodes =>
    apply hl.snoc
    intro b
    simp [Source.Told, value?, decodes]
  | miss useless =>
    apply hl.snoc
    intro b
    simp only [Source.Told, List.mem_singleton, Deed.called.injEq, reduceCtorEq, value?]
    simp only [false_and, exists_false, or_false, true_and, heq_eq_eq, iff_false, not_exists,
      not_and]
    intro text ht hd
    rw [useless text ht.symm] at hd
    cases hd
  | loaded answer =>
    apply hl.snoc
    intro b
    simp [Source.Told, value?]
  | unloaded fault =>
    apply hl.snoc
    intro b
    simp [Source.Told, value?]
  | kept reply =>
    apply hl.deaf
    simp [Source.Hears]

/-- A read of one source does not ask for the value of another. -/
theorem Next.deaf {β : Type} [Coded β] {other : Source β} {r : Reading α}
    {r' : Reading α ⊕ Except Refusal α} (h : Next src r d r') (hk : src.key ≠ other.key)
    (hs : src.load ≠ other.load) : ¬ other.Hears d := by
  cases h with
  | hit | miss =>
    simp only [Source.Hears, Deed.called.injEq, Call.cache.injEq, CacheCall.get.injEq]
    simp [hk]
  | loaded | unloaded =>
    simp only [Source.Hears, Deed.called.injEq, Call.store.injEq]
    simp [hs]
  | kept => simp [Source.Hears]

end Reading

end Progression
