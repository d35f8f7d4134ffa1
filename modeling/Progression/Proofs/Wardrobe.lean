-- A change of skin. The level and the catalogue are read at the same time,
-- either of them from the cache if it knows them; the skin is put on only
-- if it is open then, and the profile leaves the cache only after that.
import Progression.Proofs.Abiding

namespace Progression

open Rehearsal

/-- Where a change of skin stands. -/
inductive Fitting where
  /-- Reads the level and the catalogue at once. -/
  | looking (level : Reading Level ⊕ Except Refusal Level)
      (list : Reading SkinList ⊕ Except Refusal SkinList)
  | wearing
  /-- Drops the profile from the cache. -/
  | dropping
  | worn
  | refused (refusal : Refusal)

namespace Fitting

/-! ## The plan of a change of skin -/

/-- The skin is put on, if the player sees it open. -/
def tryOn (user : UserId) (skin : SkinId) (list : SkinList) : Plan (Except Refusal Unit) :=
  match list.isOpen? skin with
  | none => .done (.error (.noSkin skin))
  | some false => .done (.error (.skinLocked skin))
  | some true =>
    (askStore (.setActiveSkin user skin)).andThen fun _ =>
      (evict (.profile user)).bind fun _ => .done (.ok ())

/-- The rest of the plan of a change of skin. -/
def plan (lifetimes : Lifetimes) (user : UserId) (skin : SkinId) :
    Fitting → Plan (Except Refusal Unit)
  | .looking level list =>
    (Plan.both (Reading.planOr (.level lifetimes user) level)
      (Reading.planOr (.skins lifetimes) list) fun
      | .ok (level, list) => .done (.ok (list.seenAt level))
      | .error refusal => .done (.error refusal)).andThen (tryOn user skin)
  | .wearing =>
    (askStore (.setActiveSkin user skin)).andThen fun _ =>
      (evict (.profile user)).bind fun _ => .done (.ok ())
  | .dropping => (evict (.profile user)).bind fun _ => .done (.ok ())
  | .worn => .done (.ok ())
  | .refused refusal => .done (.error refusal)

/-- The skins are known as the player sees them. -/
def ofList (skin : SkinId) (list : SkinList) : Fitting :=
  match list.isOpen? skin with
  | none => .refused (.noSkin skin)
  | some false => .refused (.skinLocked skin)
  | some true => .wearing

/-- The two reads have come so far. -/
def ofReads (skin : SkinId) : Reading Level ⊕ Except Refusal Level →
    Reading SkinList ⊕ Except Refusal SkinList → Fitting
  | .inr (.error refusal), _ => .refused refusal
  | _, .inr (.error refusal) => .refused refusal
  | .inr (.ok level), .inr (.ok list) => ofList skin (list.seenAt level)
  | level, list => .looking level list

/-- One turn of a change of skin. -/
inductive Next (lifetimes : Lifetimes) (user : UserId) (skin : SkinId) :
    Fitting → Deed → Fitting → Prop
  | readLevel {r : Reading Level} {r' : Reading Level ⊕ Except Refusal Level}
      {list : Reading SkinList ⊕ Except Refusal SkinList} {d : Deed}
      (next : Reading.Next (.level lifetimes user) r d r') :
      Next lifetimes user skin (.looking (.inl r) list) d (ofReads skin r' list)
  | readList {r : Reading SkinList} {r' : Reading SkinList ⊕ Except Refusal SkinList}
      {level : Reading Level ⊕ Except Refusal Level} {d : Deed}
      (next : Reading.Next (.skins lifetimes) r d r') :
      Next lifetimes user skin (.looking level (.inl r)) d (ofReads skin level r')
  | wore : Next lifetimes user skin .wearing
      (.called (.store (.setActiveSkin user skin)) (.ok ())) .dropping
  | stayed (fault : StoreFault) : Next lifetimes user skin .wearing
      (.called (.store (.setActiveSkin user skin)) (.error fault)) (.refused (.ofStore fault))
  | dropped (reply : Except CacheFault Unit) : Next lifetimes user skin .dropping
      (.called (.cache (.invalidate (.profile user))) reply) .worn

variable {lifetimes : Lifetimes} {user : UserId} {skin : SkinId}

theorem plan_ofList (list : SkinList) :
    (tryOn user skin list).forward = (ofList skin list).plan lifetimes user skin := by
  unfold tryOn ofList
  split
  · exact Plan.forward_done _
  · exact Plan.forward_done _
  · exact Plan.forward_call _ _

theorem plan_ofReads (level : Reading Level ⊕ Except Refusal Level)
    (list : Reading SkinList ⊕ Except Refusal SkinList) :
    ((looking level list).plan lifetimes user skin).forward
      = (ofReads skin level list).plan lifetimes user skin := by
  rcases level with reading | (refusal | level)
  · rcases list with reading' | (refusal | list)
    · cases reading <;> cases reading' <;> rfl
    · cases reading <;> rfl
    · cases reading <;> rfl
  · simp [plan, ofReads, Reading.planOr, Plan.andThen, Plan.bind, Plan.forward, Plan.joint]
  · rcases list with reading | (refusal | list)
    · cases reading <;> rfl
    · simp [plan, ofReads, Reading.planOr, Plan.andThen, Plan.bind, Plan.forward, Plan.joint]
    · refine Eq.trans ?_ (plan_ofList (list.seenAt level))
      simp [plan, Reading.planOr, Plan.andThen, Plan.bind, Plan.forward, Plan.joint]

/-- A change of skin begins by asking the cache for both. -/
theorem changeSkin_eq (lifetimes : Lifetimes) (user : UserId) (skin : SkinId) :
    Service.changeSkin lifetimes user skin
      = (looking (.inl .asking) (.inl .asking)).plan lifetimes user skin := by
  unfold Service.changeSkin Service.skins
  rw [Service.level_eq, Service.catalogue_eq]
  rfl

/-- The plan of a change of skin takes the turns of the change, and no others. -/
theorem next_of_step {s : Fitting} {d : Deed} {q : Plan (Except Refusal Unit)}
    (h : (s.plan lifetimes user skin).Step d q) :
    ∃ s', Next lifetimes user skin s d s' ∧ q = s'.plan lifetimes user skin := by
  have reads := @plan_ofReads lifetimes user skin
  cases s with
  | looking level list =>
    cases h with
    | left step =>
      rcases level with r | result
      · obtain ⟨r', hn, rfl⟩ := Reading.next_of_step step
        exact ⟨_, .readLevel hn, reads r' list⟩
      · exact absurd step (Plan.Over.no_step trivial)
    | right step =>
      rcases list with r | result
      · obtain ⟨r', hn, rfl⟩ := Reading.next_of_step step
        exact ⟨_, .readList hn, reads level r'⟩
      · exact absurd step (Plan.Over.no_step trivial)
  | wearing =>
    cases h with
    | call reply =>
      rcases reply with fault | _
      · exact ⟨_, .stayed fault, Plan.forward_done _⟩
      · exact ⟨_, .wore, Plan.forward_call _ _⟩
  | dropping =>
    cases h with
    | call reply => exact ⟨_, .dropped reply, Plan.forward_done _⟩
  | worn => exact absurd h (Plan.Over.no_step trivial)
  | refused refusal => exact absurd h (Plan.Over.no_step trivial)

/-- Every turn of a change of skin is a turn of its plan. -/
theorem Next.step {s s' : Fitting} {d : Deed} (h : Next lifetimes user skin s d s') :
    (s.plan lifetimes user skin).Step d (s'.plan lifetimes user skin) := by
  cases h with
  | readLevel next =>
    rw [← plan_ofReads]
    exact .left next.step
  | readList next =>
    rw [← plan_ofReads]
    exact .right next.step
  | wore => exact .of_eq (.call _) (Plan.forward_call _ _)
  | stayed fault => exact .of_eq (.call _) (Plan.forward_done _)
  | dropped reply => exact .of_eq (.call _) (Plan.forward_done _)

end Fitting

/-! ## What a change of skin meddles with -/

/-- A call that changes the store, or takes an entry out of the cache. -/
def Call.Meddles : Call → Prop
  | .store (.createCharacter _) | .store (.incrementLevel ..) | .store (.setActiveSkin ..) => True
  | .cache (.invalidate _) => True
  | _ => False

/-- Nothing has been meddled with. -/
def Quiet (ds : List Deed) : Prop := ∀ c reply, .called c reply ∈ ds → ¬ c.Meddles

/-- The level or the catalogue could not be read. -/
def ReadFailed (user : UserId) (ds : List Deed) : Prop :=
  (∃ fault, .called (.store (.characterLevel user)) (.error fault) ∈ ds) ∨
    ∃ fault, .called (.store .allSkins) (.error fault) ∈ ds

theorem Quiet.snoc {ds : List Deed} {c : Call} {reply : c.Reply} (h : Quiet ds)
    (hc : ¬ c.Meddles) : Quiet (ds ++ [.called c reply]) := by
  intro c' reply' hm
  rcases List.mem_append.mp hm with hm | hm
  · exact h c' reply' hm
  · cases List.mem_singleton.mp hm
    exact hc

theorem ReadFailed.of_snoc {user : UserId} {ds : List Deed} {d : Deed}
    (h : ReadFailed user (ds ++ [d])) (hd : ∀ c fault, d ≠ .called (.store c) (.error fault)) :
    ReadFailed user ds := by
  have old {c : StoreCall} {fault : StoreFault}
      (hm : .called (.store c) (.error fault) ∈ ds ++ [d]) :
      .called (.store c) (.error fault) ∈ ds := by
    rcases List.mem_append.mp hm with hm | hm
    · exact hm
    · exact absurd (List.mem_singleton.mp hm).symm (hd c fault)
  rcases h with ⟨fault, hm⟩ | ⟨fault, hm⟩
  · exact .inl ⟨fault, old hm⟩
  · exact .inr ⟨fault, old hm⟩

namespace Reading.Next

variable {α : Type} [Coded α] {src : Source α} {r : Reading α} {r' : Reading α ⊕ Except Refusal α}
  {d : Deed}

/-- A read that only loads meddles with nothing. -/
theorem quiet_snoc {ds : List Deed} (h : Next src r d r') (load : ¬ (Call.store src.load).Meddles)
    (quiet : Quiet ds) : Quiet (ds ++ [d]) := by
  cases h with
  | loaded | unloaded => exact quiet.snoc load
  | hit | miss | kept => exact quiet.snoc id

/-- A load that fails ends the read. -/
theorem failed_or (h : Next src r d r') : (∃ refusal, r' = .inr (.error refusal)) ∨
    ∀ c fault, d ≠ .called (.store c) (.error fault) := by
  cases h with
  | unloaded fault => exact .inl ⟨_, rfl⟩
  | loaded =>
    refine .inr fun c fault hd => ?_
    obtain ⟨hc, hr⟩ := Deed.called.inj hd
    cases hc
    cases hr
  | hit | miss | kept => exact .inr nofun

end Reading.Next

namespace Fitting

/-- The record that a change of skin keeps up to each standing. -/
def Record (user : UserId) (ds : List Deed) : Fitting → Prop
  | .looking _ _ | .wearing => Quiet ds ∧ ¬ ReadFailed user ds
  | .dropping | .worn => ¬ ReadFailed user ds
  | .refused refusal => Quiet ds ∨ ¬ ReadFailed user ds ∧ ∃ fault, refusal = .ofStore fault

variable {lifetimes : Lifetimes} {user : UserId} {skin : SkinId} {ds : List Deed} {d : Deed}

theorem record_ofReads {level : Reading Level ⊕ Except Refusal Level}
    {list : Reading SkinList ⊕ Except Refusal SkinList} (quiet : Quiet ds)
    (read : ReadFailed user ds → (∃ refusal, level = .inr (.error refusal)) ∨
      ∃ refusal, list = .inr (.error refusal)) :
    (ofReads skin level list).Record user ds := by
  unfold ofReads
  split
  · exact .inl quiet
  · exact .inl quiet
  · unfold ofList
    split
    · exact .inl quiet
    · exact .inl quiet
    · exact ⟨quiet, fun failed => by simpa using read failed⟩
  · rename_i hlevel hlist _
    refine ⟨quiet, fun failed => ?_⟩
    rcases read failed with ⟨refusal, rfl⟩ | ⟨refusal, rfl⟩
    · exact hlevel refusal rfl
    · exact hlist refusal rfl

/-- Each turn keeps the record. -/
theorem Next.record {s s' : Fitting} (h : Next lifetimes user skin s d s')
    (hr : s.Record user ds) : s'.Record user (ds ++ [d]) := by
  cases h with
  | readLevel next =>
    apply record_ofReads (next.quiet_snoc id hr.1)
    intro failed
    rcases next.failed_or with ended | went
    · exact .inl ended
    · exact absurd (failed.of_snoc went) hr.2
  | readList next =>
    apply record_ofReads (next.quiet_snoc id hr.1)
    intro failed
    rcases next.failed_or with ended | went
    · exact .inr ended
    · exact absurd (failed.of_snoc went) hr.2
  | wore =>
    intro failed
    exact hr.2 (failed.of_snoc nofun)
  | stayed fault =>
    refine .inr ⟨?_, fault, rfl⟩
    rintro (⟨fault', hm⟩ | ⟨fault', hm⟩)
    · exact hr.2 (.inl ⟨fault', by simpa using hm⟩)
    · exact hr.2 (.inr ⟨fault', by simpa using hm⟩)
  | dropped reply =>
    intro failed
    exact hr (failed.of_snoc nofun)

/-- A change of skin whose reads have failed goes no further. -/
theorem Record.quiet {s : Fitting} (hr : s.Record user ds) (failed : ReadFailed user ds) :
    Quiet ds := by
  cases s with
  | looking => exact hr.1
  | wearing => exact hr.1
  | dropping => exact absurd failed hr
  | worn => exact absurd failed hr
  | refused refusal =>
    rcases hr with quiet | ⟨read, -⟩
    · exact quiet
    · exact absurd failed read

/-- Only the store can refuse a change of skin that has meddled with anything. -/
theorem Record.quiet_of_refusal {s : Fitting} {refusal : Refusal} (hr : s.Record user ds)
    (hp : s.plan lifetimes user skin = .done (.error refusal))
    (hne : ∀ fault, refusal ≠ .ofStore fault) : Quiet ds := by
  cases s with
  | refused refusal' =>
    cases hp
    rcases hr with quiet | ⟨-, fault, hf⟩
    · exact quiet
    · exact absurd hf (hne fault)
  | _ => cases hp

theorem alone_plan (s : Fitting) : (s.plan lifetimes user skin).Alone := by
  cases s with
  | looking level list =>
    refine ⟨?_, ?_⟩
    · rcases level with reading | result
      · cases reading <;> trivial
      · trivial
    · rcases list with reading | result
      · cases reading <;> trivial
      · trivial
  | _ => trivial

end Fitting

/-! ## Who puts on a skin -/

namespace System

variable {σ ι : Type} [DecidableEq ι] {col : Collaborators σ} {lifetimes : Lifetimes}
  {asks : ι → Question} {world : σ} {taken : Set PaymentId} {h : History ι}
  {t : System σ fun _ : ι => Option (Except Refusal Json)} {i : ι} {user : UserId} {skin : SkinId}

/-- A change of skin is always at a standing, with the record of what it has done, unless its
caller has gone away. -/
theorem Traffic.fitting (traffic : Traffic col (serving lifetimes asks world taken) h t)
    (hi : asks i = .changeSkin user skin) :
    (∃ s : Fitting,
      t.plans i = (s.plan lifetimes user skin).map (fun r => some (r.map fun _ => .null)) ∧
      s.Record user (h.of i)) ∨
    t.plans i = .done none ∧ (ReadFailed user (h.of i) → Quiet (h.of i)) := by
  refine traffic.party (fun ds p => (∃ s : Fitting,
    p = (s.plan lifetimes user skin).map (fun r => some (r.map fun _ => .null)) ∧
    s.Record user ds) ∨ p = .done none ∧ (ReadFailed user ds → Quiet ds)) ?_ ?_ ?_
  · refine .inl ⟨.looking (.inl .asking) (.inl .asking), ?_, ?_, ?_⟩
    · simp only [serving, hi, Question.plan, Fitting.changeSkin_eq]
      exact Plan.map_map ..
    · intro c reply hm
      cases hm
    · rintro (⟨fault, hm⟩ | ⟨fault, hm⟩) <;> cases hm
  · rintro ds p d q (⟨s, rfl, hr⟩ | ⟨rfl, -⟩) hs
    · obtain ⟨p', hp, rfl⟩ := hs.of_map
      obtain ⟨s', hn, rfl⟩ := Fitting.next_of_step hp
      exact .inl ⟨s', rfl, hn.record hr⟩
    · cases hs
  · rintro ds p (⟨s, rfl, hr⟩ | ⟨rfl, hq⟩)
    · exact .inr ⟨Plan.abandoned_of_alone s.alone_plan.map, hr.quiet⟩
    · exact .inr ⟨Plan.abandoned_of_alone trivial, hq⟩

end System

/-- A skin is put on only while it is open to the player in the store, whatever the cache has said,
if the cache did not say too much in the beginning. A change of skin that ends without such a skin,
or that could not read, has neither changed the store nor dropped an entry of the cache. -/
theorem no_locked_skin_is_put_on {ι : Type} [DecidableEq ι] {lifetimes : Lifetimes}
    {asks : ι → Question} {start : World} {taken : Set PaymentId} {h : History ι}
    {t : System World fun _ : ι => Option (Except Refusal Json)}
    (levels : ∀ user text level, start.cache.get? (Key.level user).text = some text →
      decodeText? text = some level → start.Has user level)
    (skins : ∀ text list, start.cache.get? Key.skins.text = some text →
      decodeText? text = some list → list = start.catalogue)
    (traffic : System.Traffic World.Attends (.serving lifetimes asks start taken) h t) :
    (∀ i user skin reply q,
      (t.plans i).Step (.called (.store (.setActiveSkin user skin)) reply) q →
        t.world.OpenTo user skin) ∧
    ∀ i user skin, asks i = .changeSkin user skin →
      (∃ other, t.plans i = .done (some (.error (.noSkin other))) ∨
        t.plans i = .done (some (.error (.skinLocked other)))) ∨ ReadFailed user (h.of i) →
      Quiet (h.of i) := by
  refine ⟨?_, ?_⟩
  · -- What is watched are the levels and the catalogue. No level is too low for this purpose.
    let watched : Key → Prop := fun key => (∃ user, key = .level user) ∨ key = .skins
    let customs := World.customs (fun _ => Int32.minValue) watched
    have good : customs.good start := by
      refine ⟨fun user => Int32.minValue_le _, ?_⟩
      rintro key text (⟨user, rfl⟩ | rfl) entry
      · exact fun level hd => ⟨Int32.minValue_le _, levels user text level entry hd⟩
      · exact fun list hd => skins text list entry hd
    have obeys (i : ι) : (((asks i).plan lifetimes).map some).Obeys customs (fun _ _ => True)
        start := Plan.Obeys.map (asks i).obeys
    intro i user skin reply q step
    exact ((traffic.orderly good obeys).may step) (.inl ⟨user, rfl⟩) (.inr rfl)
  · intro i user skin hi ended
    rcases traffic.fitting hi with ⟨s, hp, hr⟩ | ⟨hp, hq⟩
    · have refused {refusal : Refusal} (hd : t.plans i = .done (some (.error refusal)))
          (hne : ∀ fault, refusal ≠ .ofStore fault) : Quiet (h.of i) := by
        obtain ⟨result, hs, hres⟩ := Plan.of_map_done (hp.symm.trans hd)
        rcases result with refusal' | _
        · cases hres
          exact hr.quiet_of_refusal hs hne
        · cases hres
      rcases ended with ⟨other, hd | hd⟩ | failed
      · exact refused hd fun fault => by cases fault <;> nofun
      · exact refused hd fun fault => by cases fault <;> nofun
      · exact hr.quiet failed
    · rcases ended with ⟨other, hd | hd⟩ | failed
      · cases hp.symm.trans hd
      · cases hp.symm.trans hd
      · exact hq failed

/-- A skin for all players. -/
def aSkin : Skin := ⟨3, "hat", "", "", 1, 0, 0, 0, false, .zero⟩

/-- The world of one player, with a skin to put on. -/
def aCustomer : World := { aPlayer with skins := [aSkin] }

/-- The player has read its level in the cache and the skins in the store, and is about to put on a
skin that the first level opens. -/
theorem an_open_skin_is_put_on :
    ∃ h t, System.Traffic World.Attends (.serving ⟨.ofSeconds 300, .ofSeconds 3600⟩
        (fun _ : Unit => .changeSkin 7 3) aCustomer ∅) h t ∧
      (∃ q, (t.plans ()).Step (.called (.store (.setActiveSkin 7 3)) (.ok ())) q) ∧
      t.world.OpenTo 7 3 := by
  open Fitting in
  let lifetimes : Lifetimes := ⟨.ofSeconds 300, .ofSeconds 3600⟩
  let start := System.serving lifetimes (fun _ : Unit => .changeSkin 7 3) aCustomer ∅
  have nothing : System.Run World.Attends start [] start := .start
  have asked : start.plans () = ((looking (.inl .asking) (.inl .asking)).plan lifetimes 7 3).map
      fun result => some (result.map fun _ => .null) := by
    rw [← changeSkin_eq]
    exact Plan.map_map ..
  have level : Next lifetimes 7 3 (.looking (.inl .asking) (.inl .asking))
      (.called (.cache (.get (.level 7))) (.ok (some "1")))
      (.looking (.inr (.ok 1)) (.inl .asking)) := .readLevel (.hit rfl)
  have list : Next lifetimes 7 3 (.looking (.inr (.ok 1)) (.inl .asking))
      (.called (.cache (.get .skins)) (.ok none))
      (.looking (.inr (.ok 1)) (.inl .loading)) := .readList (.miss (by simp))
  have loaded : Next lifetimes 7 3 (.looking (.inr (.ok 1)) (.inl .loading))
      (.called (.store .allSkins) (.ok [aSkin]))
      (.looking (.inr (.ok 1)) (.inl (.keeping ⟨[aSkin]⟩))) := .readList (.loaded [aSkin])
  have kept : Next lifetimes 7 3 (.looking (.inr (.ok 1)) (.inl (.keeping ⟨[aSkin]⟩)))
      (.called (.cache (.set .skins (encodeText (SkinList.mk [aSkin])) lifetimes.entries)) (.ok ()))
      .wearing := .readList (.kept (.ok ()))
  have wears : Next lifetimes 7 3 .wearing (.called (.store (.setActiveSkin 7 3)) (.ok ()))
      .dropping := .wore
  obtain ⟨_, run, hp, hw, -⟩ := nothing.performs asked rfl (level.step.map _) rfl
  obtain ⟨_, run, hp, hw, -⟩ := run.performs hp hw (list.step.map _) rfl
  obtain ⟨_, run, hp, hw, -⟩ := run.performs hp hw (loaded.step.map _) rfl
  obtain ⟨t, run, hp, hw, -⟩ := run.performs hp hw (kept.step.map _) rfl
  have levels : ∀ user text level, aCustomer.cache.get? (Key.level user).text = some text →
      decodeText? text = some level → aCustomer.Has user level := by
    intro user text level entry hd
    rcases aPlayer_entry entry with ⟨hk, rfl⟩ | ⟨hk, -⟩
    · cases hk
      cases hd
      exact ⟨⟨1, 1⟩, rfl, Int32.le_refl _⟩
    · cases hk
  have skins : ∀ text list, aCustomer.cache.get? Key.skins.text = some text →
      decodeText? text = some list → list = aCustomer.catalogue := by
    intro text list entry
    rcases aPlayer_entry entry with ⟨hk, -⟩ | ⟨hk, -⟩ <;> cases hk
  have step := hp ▸ wears.step.map fun result => some (result.map fun _ => Json.null)
  exact ⟨_, t, run.traffic, ⟨_, step⟩,
    (no_locked_skin_is_put_on levels skins run.traffic).1 () 7 3 _ _ step⟩

end Progression
