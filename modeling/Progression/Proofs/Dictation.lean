-- What is written to the cache. A party writes under a key only what the
-- store has said to it before, in that read or in that level-up.
import Progression.Proofs.Abiding

namespace Progression

open Rehearsal

/-- The store says to a party what the entry of a key should be. -/
inductive Deed.Dictates : Deed → Key → String → Prop
  | level {user : UserId} (level : Level) :
      Dictates (.called (.store (.characterLevel user)) (.ok level)) (.level user)
        (encodeText level)
  | reached {user : UserId} {fromLevel : Level} (level : Level) :
      Dictates (.called (.store (.incrementLevel user fromLevel)) (.ok level)) (.level user)
        (encodeText level)
  | profile {user : UserId} (profile : Profile) :
      Dictates (.called (.store (.characterProfile user)) (.ok profile)) (.profile user)
        (encodeText profile)
  | skins (skins : List Skin) :
      Dictates (.called (.store .allSkins) (.ok skins)) .skins (encodeText (SkinList.mk skins))
  | prices (prices : List LevelPrice) :
      Dictates (.called (.store .allPrices) (.ok prices)) .prices
        (encodeText (PriceList.ofPrices prices))

/-- A party with these deeds has heard what the entry of a key should be. -/
def Heard (ds : List Deed) (key : Key) (text : String) : Prop := ∃ d ∈ ds, d.Dictates key text

theorem Heard.mono {ds ds' : List Deed} {key : Key} {text : String} (h : Heard ds key text)
    (hs : ds ⊆ ds') : Heard ds' key text := by
  obtain ⟨d, hd, dictates⟩ := h
  exact ⟨d, hs hd, dictates⟩

/-- The customs of one party, whose world is what it has done: it writes only what it has heard. -/
def dictation : Customs fun (ds : List Deed) c reply ds' => ds' = ds ++ [.called c reply] where
  good _ := True
  later ds ds' := ds ⊆ ds'
  may ds
    | .cache (.set key text _) => Heard ds key text
    | _ => True
  refl := List.Subset.refl
  trans := List.Subset.trans
  keeps := by
    rintro ds ds' c reply - - rfl
    exact ⟨trivial, List.subset_append_left ..⟩

namespace Dictation

variable {ds : List Deed} {lifetimes : Lifetimes} {user : UserId}

/-! ## Reads -/

theorem obeys_askStore (c : StoreCall) : (askStore c).Obeys dictation
    (ifOk fun answer ds => .called (.store c) (.ok answer) ∈ ds) ds := by
  intro ds' _ _
  refine ⟨trivial, ?_⟩
  rintro reply _ rfl ds'' later
  cases reply with
  | ok answer => exact later (by simp)
  | error => trivial

/-- A read writes what the store has said to it. -/
theorem obeys_read {α : Type} [Coded α] {src : Source α}
    (dictates : ∀ answer, (Deed.called (.store src.load) (.ok answer)).Dictates src.key
      (encodeText (src.value answer))) :
    src.read.Obeys dictation (fun _ _ => True) ds := by
  have fetch : (fetch? (α := α) src.key).Obeys dictation (fun _ _ => True) ds := by
    intro _ _ _
    refine ⟨trivial, ?_⟩
    rintro (fault | (_ | text)) _ _ <;> exact fun _ _ => trivial
  have load (ds : List Deed) :
      ((askStore src.load).andThen fun answer => .done (.ok (src.value answer))).Obeys dictation
        (ifOk fun a ds => Heard ds src.key (encodeText a)) ds := by
    apply (obeys_askStore src.load).andThen
    intro answer ds _ said ds' later
    exact ⟨_, later said, dictates answer⟩
  unfold Source.read cachedRead
  apply fetch.bind
  intro found ds' _ _
  cases found with
  | some a => exact fun _ _ => trivial
  | none =>
    apply (load ds').bind
    intro result ds _ told
    cases result with
    | error => exact fun _ _ => trivial
    | ok a => exact fun v later _ => ⟨told v later, fun _ _ _ _ _ => trivial⟩

theorem obeys_level : (Service.level lifetimes user).Obeys dictation (fun _ _ => True) ds := by
  rw [Service.level_eq]
  exact obeys_read .level

theorem obeys_profile :
    (Service.profile lifetimes user).Obeys dictation (fun _ _ => True) ds := by
  rw [Service.profile_eq]
  exact obeys_read .profile

theorem obeys_catalogue : (Service.catalogue lifetimes).Obeys dictation (fun _ _ => True) ds := by
  rw [Service.catalogue_eq]
  exact obeys_read .skins

theorem obeys_prices : (Service.prices lifetimes).Obeys dictation (fun _ _ => True) ds := by
  rw [Service.prices_eq]
  exact obeys_read .prices

theorem obeys_skins : (Service.skins lifetimes user).Obeys dictation (fun _ _ => True) ds := by
  refine ⟨_, _, obeys_level, obeys_catalogue, ?_⟩
  intro result _ _ _
  cases result <;> exact fun _ _ => trivial

/-! ## Changes -/

theorem obeys_evict (key : Key) : (evict key).Obeys dictation (fun _ _ => True) ds :=
  fun _ _ _ => ⟨trivial, fun _ _ _ _ _ => trivial⟩

theorem obeys_changeSkin (skin : SkinId) :
    (Service.changeSkin lifetimes user skin).Obeys dictation (fun _ _ => True) ds := by
  apply obeys_skins.bind
  intro result ds _ _
  rcases result with refusal | list
  · exact fun _ _ => trivial
  · dsimp only
    split
    · exact fun _ _ => trivial
    · exact fun _ _ => trivial
    · apply (obeys_askStore _).bind
      intro result ds _ _
      cases result with
      | error => exact fun _ _ => trivial
      | ok => exact (obeys_evict _).bind fun _ _ _ _ _ _ => trivial

open LevelUp

/-- A level-up has heard of the level that its task reports. -/
abbrev Gained (user : UserId) : TaskResult → List Deed → Prop :=
  ifOk fun gain ds => Heard ds (.level user) (encodeText gain.level)

theorem obeys_release (payment : PaymentId) (refusal : Refusal) :
    (release payment refusal).Obeys dictation (Gained user) ds :=
  fun _ _ _ => ⟨trivial, fun _ _ _ _ _ => trivial⟩

theorem obeys_spend {payment : PaymentId} {level : Level}
    (h : Heard ds (.level user) (encodeText level)) :
    (spend payment level).Obeys dictation (Gained user) ds := by
  intro ds' later _
  refine ⟨trivial, ?_⟩
  rintro reply _ rfl
  have heard := (h.mono later).mono (List.subset_append_left ds' [.called _ reply])
  cases reply <;> exact fun _ later => heard.mono later

theorem obeys_advancePaid (fromLevel : Level) (payment : PaymentId) :
    (advancePaid user fromLevel payment).Obeys dictation (Gained user) ds := by
  intro ds' _ _
  refine ⟨trivial, ?_⟩
  rintro reply _ rfl
  cases reply with
  | error fault => exact obeys_release payment _
  | ok level =>
    exact obeys_spend ⟨_, List.mem_append_right _ (List.mem_singleton.mpr rfl), .reached level⟩

theorem obeys_settle (fromLevel : Level) (price : Coins) (payment : PaymentId) :
    (LevelUp.settle user fromLevel price payment).Obeys dictation (Gained user) ds := by
  unfold LevelUp.settle
  apply Plan.Obeys.call
  · exact fun _ => trivial
  · intro reply ds
    cases reply with
    | error fault =>
      by_cases ambiguous : fault.isAmbiguous
      · simp only [ambiguous, if_true]
        exact obeys_release payment _
      · simp only [ambiguous]
        exact fun _ _ => trivial
    | ok => exact obeys_advancePaid fromLevel payment

theorem obeys_pay (fromLevel : Level) (path : PaymentPath) :
    (pay user fromLevel path).Obeys dictation (Gained user) ds := by
  cases path with
  | coins price => exact fun payment => obeys_settle fromLevel price payment
  | free =>
    apply (obeys_askStore (.incrementLevel user fromLevel)).andThen
    intro level ds _ said ds' later
    exact ⟨_, later said, .reached level⟩

theorem obeys_refresh {result : TaskResult}
    (h : (Plan.done result).Obeys dictation (Gained user) ds) :
    (refresh lifetimes user result).Obeys dictation (fun _ _ => True) ds := by
  unfold refresh
  split
  · intro ds' later _
    refine ⟨h ds' later, fun _ ds'' _ => ?_⟩
    exact (obeys_evict (.profile user)).bind fun _ _ _ _ _ _ => trivial
  · apply (obeys_evict (.level user)).bind
    exact fun _ _ _ _ _ _ => trivial
  · exact fun _ _ => trivial

theorem obeys_commit (fromLevel : Level) (path : PaymentPath) :
    (commit lifetimes user fromLevel path).Obeys dictation (fun _ _ => True) ds :=
  (obeys_pay fromLevel path).bind fun _ _ _ h => obeys_refresh h

theorem obeys_report (balance : Coins) (path : PaymentPath) (result : Option TaskResult) :
    (report balance path result).Obeys dictation (fun _ _ => True) ds := by
  unfold report
  split
  · exact fun _ _ => trivial
  · exact fun _ _ => trivial
  · split
    · trivial
    · exact fun _ _ => trivial

theorem obeys_quote (current : Level) (prices : PriceList) :
    (quote lifetimes user current prices).Obeys dictation (fun _ _ => True) ds := by
  have asks (c : GatewayCall) : (askGateway c).Obeys dictation (fun _ _ => True) ds :=
    fun _ _ _ => ⟨trivial, fun _ _ _ _ _ => trivial⟩
  unfold quote
  split
  · trivial
  · split
    · exact fun _ _ => trivial
    · refine ⟨_, _, asks _, asks _, ?_⟩
      intro result ds _ _
      rcases result with fault | ⟨balance, referrals⟩
      · exact fun _ _ => trivial
      · dsimp only [buy]
        split
        · exact fun _ _ => trivial
        · rename_i path _
          exact ⟨_, obeys_commit current path, fun result _ _ _ => obeys_report balance path result⟩

theorem obeys_levelUp :
    (Service.levelUp lifetimes user).Obeys dictation (fun _ _ => True) ds := by
  have level : (currentLevel lifetimes user).Obeys dictation (fun _ _ => True) ds :=
    Plan.Obeys.map obeys_level
  apply level.bind
  intro result ds _ _
  rcases result with refusal | current
  · exact fun _ _ => trivial
  · apply obeys_prices.bind
    intro result ds _ _
    rcases result with refusal | prices
    · exact fun _ _ => trivial
    · exact obeys_quote current prices

/-- Every question writes only what it has heard. -/
theorem obeys_question (question : Question) :
    (question.plan lifetimes).Obeys dictation (fun _ _ => True) ds := by
  cases question with
  | create user => exact Plan.Obeys.map fun _ _ _ => ⟨trivial, fun _ _ _ _ _ => trivial⟩
  | level user => exact obeys_level.map
  | profile user => exact obeys_profile.map
  | skins user => exact obeys_skins.map
  | prices => exact obeys_prices.map
  | changeSkin user skin => exact (obeys_changeSkin skin).map
  | levelUp user => exact obeys_levelUp.map

end Dictation

/-- Whoever writes an entry has heard from the store before what it should be. -/
theorem System.Run.dictated {σ ι : Type} [DecidableEq ι] {col : Collaborators σ}
    {lifetimes : Lifetimes} {asks : ι → Question} {world : σ} {taken : Set PaymentId}
    {before after : History ι} {t : System σ fun _ : ι => Option (Except Refusal Json)} {i : ι}
    {key : Key} {text : String} {lifetime : Span} {reply : Except CacheFault Unit}
    (run : Run col (serving lifetimes asks world taken)
      (before ++ (i, .called (.cache (.set key text lifetime)) reply) :: after) t) :
    ∃ d, (i, d) ∈ before ∧ d.Dictates key text := by
  obtain ⟨u, v, run, turn⟩ := run.turn_at
  have obeys := run.party (i := i) (fun ds p => p.Obeys dictation (fun _ _ => True) ds)
    (Dictation.obeys_question (asks i)).map
    (by
      intro ds p d q hp step
      cases d with
      | called c reply => exact (hp.called step trivial).2 _ rfl
      | took payment => exact (hp.took step).mono (List.subset_append_left ..))
  obtain ⟨d, hd, dictates⟩ : Heard (before.of i) key text := (obeys.called turn.step trivial).1
  exact ⟨d, History.mem_of.mp hd, dictates⟩

end Progression
