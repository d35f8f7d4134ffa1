-- The skins as a player sees them. The level and the catalogue are read at
-- the same time, each from the cache or from the store; which skins are
-- open follows from the two, and from nothing that is kept about it.
import Progression.Proofs.Abiding
import Progression.Proofs.Books
import Progression.Proofs.Ending
import Progression.Proofs.Skipping
import Progression.Proofs.Telling

namespace Progression

open Rehearsal

/-! ## The two reads -/

/-- Where a look at the skins stands. -/
inductive Viewing where
  /-- Reads the level and the catalogue at once. -/
  | looking (level : Reading Level ⊕ Except Refusal Level)
      (list : Reading SkinList ⊕ Except Refusal SkinList)
  | seen (list : SkinList)
  | refused (refusal : Refusal)

namespace Viewing

/-- The rest of the plan of a look at the skins. -/
def plan (lifetimes : Lifetimes) (user : UserId) : Viewing → Plan (Except Refusal SkinList)
  | .looking level list =>
    .both (Reading.planOr (.level lifetimes user) level)
      (Reading.planOr (.skins lifetimes) list) fun
        | .ok (level, list) => .done (.ok (list.seenAt level))
        | .error refusal => .done (.error refusal)
  | .seen list => .done (.ok list)
  | .refused refusal => .done (.error refusal)

/-- The two reads have come so far. -/
def ofReads : Reading Level ⊕ Except Refusal Level →
    Reading SkinList ⊕ Except Refusal SkinList → Viewing
  | .inr (.error refusal), _ => .refused refusal
  | _, .inr (.error refusal) => .refused refusal
  | .inr (.ok level), .inr (.ok list) => .seen (list.seenAt level)
  | level, list => .looking level list

/-- One turn of a look at the skins. -/
inductive Next (lifetimes : Lifetimes) (user : UserId) : Viewing → Deed → Viewing → Prop
  | readLevel {r : Reading Level} {r' : Reading Level ⊕ Except Refusal Level}
      {list : Reading SkinList ⊕ Except Refusal SkinList} {d : Deed}
      (next : Reading.Next (.level lifetimes user) r d r') :
      Next lifetimes user (.looking (.inl r) list) d (ofReads r' list)
  | readList {r : Reading SkinList} {r' : Reading SkinList ⊕ Except Refusal SkinList}
      {level : Reading Level ⊕ Except Refusal Level} {d : Deed}
      (next : Reading.Next (.skins lifetimes) r d r') :
      Next lifetimes user (.looking level (.inl r)) d (ofReads level r')

variable {lifetimes : Lifetimes} {user : UserId} {s s' : Viewing} {ds : List Deed} {d d' : Deed}
  {q : Plan (Except Refusal SkinList)}

theorem skins_eq (lifetimes : Lifetimes) (user : UserId) :
    Service.skins lifetimes user
      = (looking (.inl .asking) (.inl .asking)).plan lifetimes user := by
  unfold Service.skins
  rw [Service.level_eq, Service.catalogue_eq]
  rfl

theorem plan_ofReads (level : Reading Level ⊕ Except Refusal Level)
    (list : Reading SkinList ⊕ Except Refusal SkinList) :
    ((looking level list).plan lifetimes user).forward
      = (ofReads level list).plan lifetimes user := by
  rcases level with reading | (refusal | level)
  · rcases list with reading' | (refusal | list)
    · cases reading <;> cases reading' <;> rfl
    · cases reading <;> rfl
    · cases reading <;> rfl
  · simp [plan, ofReads, Reading.planOr, Plan.forward, Plan.joint]
  · rcases list with reading | (refusal | list)
    · cases reading <;> rfl
    · simp [plan, ofReads, Reading.planOr, Plan.forward, Plan.joint]
    · simp [plan, ofReads, Reading.planOr, Plan.forward, Plan.joint]

/-- The plan of a look at the skins takes these turns, and no others. -/
theorem next_of_step (h : (s.plan lifetimes user).Step d q) :
    ∃ s', Next lifetimes user s d s' ∧ q = s'.plan lifetimes user := by
  cases s with
  | looking level list =>
    cases h with
    | left step =>
      rcases level with r | result
      · obtain ⟨r', next, rfl⟩ := Reading.next_of_step step
        exact ⟨_, .readLevel next, plan_ofReads r' list⟩
      · exact absurd step (Plan.Over.no_step trivial)
    | right step =>
      rcases list with r | result
      · obtain ⟨r', next, rfl⟩ := Reading.next_of_step step
        exact ⟨_, .readList next, plan_ofReads level r'⟩
      · exact absurd step (Plan.Over.no_step trivial)
  | seen list => exact absurd h (Plan.Over.no_step trivial)
  | refused refusal => exact absurd h (Plan.Over.no_step trivial)

theorem Next.step (h : Next lifetimes user s d s') :
    (s.plan lifetimes user).Step d (s'.plan lifetimes user) := by
  cases h with
  | readLevel next =>
    rw [← plan_ofReads]
    exact .left next.step
  | readList next =>
    rw [← plan_ofReads]
    exact .right next.step

end Viewing

/-! ## What a look at the skins has learnt -/

/-- What a read has come to: the value that it has been told, or a fault of the store. -/
structure Reading.Stands {α : Type} [Coded α] (src : Source α) (ds : List Deed)
    (r : Reading α ⊕ Except Refusal α) : Prop where
  learnt : src.Learnt ds (value? r)
  blames : ∀ refusal, r = .inr (.error refusal) →
    ∃ fault, refusal = .ofStore fault ∧ .called (.store src.load) (.error fault) ∈ ds

section Stands

variable {α : Type} [Coded α] {src : Source α} {ds : List Deed} {d : Deed}

theorem Reading.Stands.start : Stands src [] (.inl (.asking : Reading α)) :=
  ⟨Source.learnt_nil, by simp⟩

theorem Reading.Stands.deaf {r : Reading α ⊕ Except Refusal α} (h : Stands src ds r)
    (hd : ¬ src.Hears d) : Stands src (ds ++ [d]) r where
  learnt := h.learnt.deaf hd
  blames refusal hr := by
    obtain ⟨fault, hf, hm⟩ := h.blames refusal hr
    exact ⟨fault, hf, List.mem_append_left _ hm⟩

theorem Reading.Next.stands {r : Reading α} {r' : Reading α ⊕ Except Refusal α}
    (next : Next src r d r') (h : Stands src ds (.inl r)) : Stands src (ds ++ [d]) r' where
  learnt := next.learnt h.learnt
  blames refusal hr := by
    subst hr
    obtain ⟨fault, hf, rfl⟩ := next.refused
    exact ⟨fault, hf, by simp⟩

end Stands

/-- Whatever the reply, the deed leaves all but the cache as it was. -/
def Deed.OnlyCaches (d : Deed) : Prop :=
  ∃ c reply, d = .called c reply ∧
    ∀ w w', World.Replies w c reply w' → w' = { w with cache := w'.cache }

/-- A read changes nothing but the cache, if the store is only asked. -/
theorem Reading.Next.onlyCaches {α : Type} [Coded α] {src : Source α} {d : Deed} {r : Reading α}
    {r' : Reading α ⊕ Except Refusal α} (next : Next src r d r')
    (load : ∀ w : World, (w.store src.load).2 = w) : d.OnlyCaches := by
  have stored (reply : Except StoreFault src.load.Answer) (w w' : World)
      (h : World.Replies w (.store src.load) reply w') : w' = { w with cache := w'.cache } := by
    rcases h with ⟨-, rfl⟩ | ⟨-, rfl⟩
    · rw [load w]
    · rfl
  have cached (c : CacheCall) (reply : Except CacheFault c.Answer) (w w' : World)
      (h : World.Replies w (.cache c) reply w') : w' = { w with cache := w'.cache } :=
    World.CacheReply.rest h
  cases next with
  | hit | miss | kept => exact ⟨_, _, rfl, cached _ _⟩
  | loaded answer => exact ⟨_, _, rfl, stored (.ok answer)⟩
  | unloaded fault => exact ⟨_, _, rfl, stored (.error fault)⟩

namespace Viewing

variable {lifetimes : Lifetimes} {user : UserId} {s s' : Viewing} {ds ds' : List Deed} {d d' : Deed}
  {q : Plan (Except Refusal SkinList)}

/-- What a look at the skins has learnt at each standing, and who has refused it. -/
def Learnt (lifetimes : Lifetimes) (user : UserId) (ds : List Deed) : Viewing → Prop
  | .looking level list => Reading.Stands (.level lifetimes user) ds level ∧
    Reading.Stands (.skins lifetimes) ds list
  | .seen list => ∃ level kept, (Source.level lifetimes user).Learnt ds (some level) ∧
    (Source.skins lifetimes).Learnt ds (some kept) ∧ list = kept.seenAt level
  | .refused refusal => ∃ fault, refusal = .ofStore fault ∧
    (.called (.store (.characterLevel user)) (.error fault) ∈ ds ∨
      .called (.store .allSkins) (.error fault) ∈ ds)

theorem learnt_ofReads {level : Reading Level ⊕ Except Refusal Level}
    {list : Reading SkinList ⊕ Except Refusal SkinList}
    (hl : Reading.Stands (.level lifetimes user) ds level)
    (hs : Reading.Stands (.skins lifetimes) ds list) :
    (ofReads level list).Learnt lifetimes user ds := by
  unfold ofReads
  split
  · obtain ⟨fault, hr, hm⟩ := hl.blames _ rfl
    exact ⟨fault, hr, .inl hm⟩
  · obtain ⟨fault, hr, hm⟩ := hs.blames _ rfl
    exact ⟨fault, hr, .inr hm⟩
  · exact ⟨_, _, hl.learnt, hs.learnt, rfl⟩
  · exact ⟨hl, hs⟩

theorem level_ne_skins : (Source.level lifetimes user).key ≠ (Source.skins lifetimes).key ∧
    (Source.level lifetimes user).load ≠ (Source.skins lifetimes).load := by
  simp [Source.level, Source.skins]

theorem Next.learnt (h : Next lifetimes user s d s') (hl : s.Learnt lifetimes user ds) :
    s'.Learnt lifetimes user (ds ++ [d]) := by
  cases h with
  | readLevel next =>
    apply learnt_ofReads
    · exact next.stands hl.1
    · exact hl.2.deaf (next.deaf level_ne_skins.1 level_ne_skins.2)
  | readList next =>
    apply learnt_ofReads
    · exact hl.1.deaf (next.deaf level_ne_skins.1.symm level_ne_skins.2.symm)
    · exact next.stands hl.2

theorem Next.onlyCaches (h : Next lifetimes user s d s') : d.OnlyCaches := by
  cases h with
  | readLevel next =>
    apply next.onlyCaches
    intro w
    rfl
  | readList next =>
    apply next.onlyCaches
    intro w
    rfl

/-- After all its turns a look at the skins is at a standing, with what it has learnt, and it has
changed nothing but the cache. -/
theorem standing (steps : (Service.skins lifetimes user).Steps ds q) :
    (∃ s : Viewing, s.Learnt lifetimes user ds ∧ q = s.plan lifetimes user) ∧
      ∀ d ∈ ds, d.OnlyCaches := by
  refine steps.preserved (fun ds q => (∃ s : Viewing, s.Learnt lifetimes user ds ∧
    q = s.plan lifetimes user) ∧ ∀ d ∈ ds, d.OnlyCaches) ⟨?_, by simp⟩ ?_
  · exact ⟨.looking (.inl .asking) (.inl .asking), ⟨.start, .start⟩, skins_eq lifetimes user⟩
  · rintro ds _ d r ⟨⟨s, hl, rfl⟩, caches⟩ step
    obtain ⟨s', next, rfl⟩ := next_of_step step
    refine ⟨⟨s', next.learnt hl, rfl⟩, ?_⟩
    intro e he
    rcases List.mem_append.mp he with he | he
    · exact caches e he
    · rw [List.mem_singleton.mp he]
      exact next.onlyCaches

end Viewing

/-! ## What the cache says of skins being open -/

/-- The same deed, or two that found texts of the catalogue that differ in nothing but what they
say of skins being open. -/
inductive Deed.SameButOpen : Deed → Deed → Prop
  | same (d : Deed) : SameButOpen d d
  | found {text text' : String} (h : Progression.SameButOpen text text') :
      SameButOpen (.called (.cache (.get .skins)) (.ok (some text)))
        (.called (.cache (.get .skins)) (.ok (some text')))

namespace Viewing

variable {lifetimes : Lifetimes} {user : UserId} {s s' : Viewing} {ds ds' : List Deed} {d d' : Deed}
  {q : Plan (Except Refusal SkinList)}

theorem Next.blind (h : Next lifetimes user s d s') (hd : d.SameButOpen d') :
    Next lifetimes user s d' s' := by
  cases hd with
  | same => exact h
  | @found text text' alike =>
    have read := alike.decodeText?
    cases h with
    | readLevel next => nomatch next
    | readList next =>
      apply Next.readList
      cases next with
      | hit decodes =>
        apply Reading.Next.hit
        rw [← read, decodes]
      | miss useless =>
        apply Reading.Next.miss
        intro found hf
        cases hf
        rw [← read]
        exact useless text rfl

/-- What the cache says of skins being open makes no difference to any turn. -/
theorem steps_blind (steps : (s.plan lifetimes user).Steps ds q)
    (hd : List.Forall₂ Deed.SameButOpen ds ds') : (s.plan lifetimes user).Steps ds' q := by
  generalize hp : s.plan lifetimes user = p at steps
  induction steps generalizing s ds' with
  | start =>
    cases hd
    exact .start
  | turn step _ ih =>
    cases hd with
    | cons hd hds =>
      subst hp
      obtain ⟨s', next, rfl⟩ := next_of_step step
      exact .turn (next.blind hd).step (ih hds rfl)

end Viewing

/-! ## The law -/

/-- A skin as a player of that level is to see it. -/
structure Skin.SeenBy (level : Level) (kept seen : Skin) : Prop where
  same : seen = { kept with isOpen := seen.isOpen }
  isOpen : seen.isOpen = true ↔ kept.unlockLevel ≤ level

theorem SkinList.seenBy_seenAt (level : Level) (list : SkinList) :
    List.Forall₂ (Skin.SeenBy level) list.skins (list.seenAt level).skins := by
  unfold SkinList.seenAt
  rw [List.forall₂_map_right_iff, List.forall₂_same]
  intro skin _
  constructor
  · rfl
  · simp [Skin.seenAt]

/-- What a look at the skins comes to, after all that it has been told. -/
structure Viewed (lifetimes : Lifetimes) (user : UserId) (ds : List Deed)
    (q : Plan (Except Refusal SkinList)) : Prop where
  no_overflow : ∀ cause, q ≠ .overflow cause
  /-- The skins are those of the catalogue, in their order, and open by the level. -/
  seen : ∀ list, q = .done (.ok list) →
    ∃ level kept, (Source.level lifetimes user).Learnt ds (some level) ∧
      (Source.skins lifetimes).Learnt ds (some kept) ∧
      List.Forall₂ (Skin.SeenBy level) kept.skins list.skins
  /-- What the cache says of skins being open makes no difference. -/
  blind : ∀ ds', List.Forall₂ Deed.SameButOpen ds ds' →
    (Service.skins lifetimes user).Steps ds' q
  /-- Only the store refuses. -/
  refused : ∀ refusal, q = .done (.error refusal) → ∃ fault, refusal = .ofStore fault ∧
    (.called (.store (.characterLevel user)) (.error fault) ∈ ds ∨
      .called (.store .allSkins) (.error fault) ∈ ds)
  onlyCaches : ∀ d ∈ ds, d.OnlyCaches

/-- A look at the skins goes on with any reply until it has an answer. Which skins are open is
worked out from the level and the catalogue that it has been told, whatever the cache holds. -/
theorem open_skins_are_worked_out {lifetimes : Lifetimes} {user : UserId} {ds : List Deed}
    {q : Plan (Except Refusal SkinList)} (steps : (Service.skins lifetimes user).Steps ds q) :
    (q.Over ∨ q.Waits) ∧ Viewed lifetimes user ds q := by
  obtain ⟨⟨s, learnt, rfl⟩, onlyCaches⟩ := Viewing.standing steps
  constructor
  · apply steps.over_or_waits
    rw [Viewing.skins_eq, Viewing.plan_ofReads]
    rfl
  · constructor
    · intro cause hq
      cases s <;> cases hq
    · intro list hq
      cases s with
      | seen shown =>
        cases hq
        obtain ⟨level, kept, hl, hs, rfl⟩ := learnt
        exact ⟨level, kept, hl, hs, kept.seenBy_seenAt level⟩
      | _ => cases hq
    · intro ds' hds
      rw [Viewing.skins_eq] at steps ⊢
      exact Viewing.steps_blind steps hds
    · intro refusal hq
      cases s with
      | refused refusal' =>
        cases hq
        exact learnt
      | _ => cases hq
    · exact onlyCaches

/-- A skin for players of the third level, and what is written of it being open. -/
def aHat (isOpen : Bool) : Skin := ⟨3, "hat", "", "", 3, 0, 0, 0, isOpen, .zero⟩

/-- A look at the skins by a player of the second level, all from the cache. -/
def aLook (isOpen : Bool) : List Deed :=
  [.called (.cache (.get (.level 7))) (.ok (some (encodeText (2 : Level)))),
    .called (.cache (.get .skins)) (.ok (some (encodeText (SkinList.mk [aHat isOpen]))))]

/-- Although the cache says that it is open, the skin is seen shut. -/
theorem a_hat_that_was_open_is_seen_shut :
    (Service.skins ⟨.ofSeconds 300, .ofSeconds 3600⟩ 7).Steps (aLook true)
        (.done (.ok ⟨[aHat false]⟩)) ∧
      Viewed ⟨.ofSeconds 300, .ofSeconds 3600⟩ 7 (aLook true) (.done (.ok ⟨[aHat false]⟩)) ∧
      (Service.skins ⟨.ofSeconds 300, .ofSeconds 3600⟩ 7).Steps (aLook false)
        (.done (.ok ⟨[aHat false]⟩)) := by
  have steps : (Service.skins ⟨.ofSeconds 300, .ofSeconds 3600⟩ 7).Steps (aLook true)
      (.done (.ok ⟨[aHat false]⟩)) := by
    rw [Viewing.skins_eq]
    apply Plan.Steps.turn (Viewing.Next.step (.readLevel (.hit (kept_int32 2).decodeText?)))
    apply Plan.Steps.turn (Viewing.Next.step (.readList (.hit (decodeText?_skinList _))))
    exact .start
  have viewed := (open_skins_are_worked_out steps).2
  refine ⟨steps, viewed, viewed.blind (aLook false) ?_⟩
  apply List.Forall₂.cons (.same _)
  apply List.Forall₂.cons (.found (sameButOpen_encodeText rfl))
  exact .nil

end Progression
