-- Every question to the service keeps to the customs: it writes to the
-- cache only what the store has told it, it moves characters up only to a
-- level that there is, and it puts on only skins that are open.
import Progression.Proofs.Settlement
import Progression.Proofs.Trailing

namespace Progression

open Rehearsal

def Source.profile (lifetimes : Lifetimes) (user : UserId) : Source Profile :=
  ⟨.profile user, lifetimes.entries, .characterProfile user, id⟩

def Source.skins (lifetimes : Lifetimes) : Source SkinList :=
  ⟨.skins, lifetimes.entries, .allSkins, SkinList.mk⟩

theorem Service.profile_eq (lifetimes : Lifetimes) (user : UserId) :
    Service.profile lifetimes user = (Source.profile lifetimes user).read := by
  unfold Service.profile Source.read
  simp only [Source.profile, id, Plan.andThen_done]

theorem Service.catalogue_eq (lifetimes : Lifetimes) :
    Service.catalogue lifetimes = (Source.skins lifetimes).read := rfl

/-- A player of that level sees a skin open if the first of that number asks for no more. -/
theorem SkinList.isOpen?_seenAt (list : SkinList) (level : Level) (skin : SkinId) :
    (list.seenAt level).isOpen? skin
      = (list.skins.find? fun found => found.id == skin).map
        fun found => decide (found.unlockLevel ≤ level) := by
  unfold SkinList.isOpen? SkinList.seenAt
  rw [List.find?_map, Option.map_map]
  rfl

namespace Rehearsal.World

variable {first : UserId → Level} {watched : Key → Prop} {w : World} {lifetimes : Lifetimes}
  {user : UserId}

/-! ## Reads -/

/-- A question to the store that may be asked, and what is so of its answer for good. -/
theorem obeys_askStore {c : StoreCall} {post : c.Answer → World → Prop}
    (later : ∀ answer u v, Later u v → post answer u → post answer v)
    (may : ∀ v, Later w v → v.Permits first watched (.store c))
    (told : ∀ v v' answer, v.Sound first watched → Later w v →
      Attends v (.store c) (.ok answer) v' → post answer v') :
    (askStore c).Obeys (customs first watched) (ifOk post) w := by
  intro v hl hg
  refine ⟨may v hl, ?_⟩
  intro reply v' hc u hu
  rcases reply with fault | answer
  · trivial
  · exact later answer v' u hu (told v v' answer hg hl hc)

/-- A read keeps to the customs if what the store tells stands in the cache. What is promised of
its answer is promised of a watched entry as well. -/
theorem obeys_read {α : Type} [Coded α] {src : Source α} {post : α → World → Prop}
    (may : ∀ v : World, v.Permits first watched (.store src.load))
    (later : ∀ a u v, Later u v → post a u → post a v)
    (found : ∀ v text a, v.Sound first watched → v.cache.get? src.key.text = some text →
      decodeText? text = some a → post a v)
    (loaded : ∀ v v' answer, v.Sound first watched → StoreReply v src.load (.ok answer) v' →
      post (src.value answer) v' ∧ v'.Stands first src.key (encodeText (src.value answer))) :
    src.read.Obeys (customs first watched) (ifOk post) w := by
  let kept (a : α) (v : World) : Prop := post a v ∧ v.Stands first src.key (encodeText a)
  have keptLater : ∀ a u v, Later u v → kept a u → kept a v := by
    intro a u v hl hk
    exact ⟨later a u v hl hk.1, hk.2.later hl⟩
  have fetch : (fetch? (α := α) src.key).Obeys (customs first watched)
      (fun found v => ∀ a, found = some a → post a v) w := by
    intro v hl hg
    refine ⟨trivial, ?_⟩
    intro reply v' hc
    rcases reply with fault | (_ | text)
    · intro u hu a ha
      cases ha
    · intro u hu a ha
      cases ha
    · intro u hu a ha
      have hv := found v text a hg (CacheReply.got hc.1) ha
      have hv' := later a v v' (hg.attended (c := .cache (.get src.key)) trivial hc).2 hv
      exact later a v' u hu hv'
  have load : ((askStore src.load).andThen fun answer => .done (.ok (src.value answer))).Obeys
      (customs first watched) (ifOk kept) w := by
    have ask : (askStore src.load).Obeys (customs first watched)
        (ifOk fun answer v => kept (src.value answer) v) w := by
      apply obeys_askStore
      · exact fun answer => keptLater (src.value answer)
      · exact fun v _ => may v
      · exact fun v v' answer hg _ hc => loaded v v' answer hg hc.1
    apply ask.andThen
    intro answer v hl hk u hu
    exact keptLater _ v u hu hk
  unfold Source.read cachedRead
  apply fetch.bind
  intro found v hl hf
  rcases found with _ | a
  · apply (load.mono hl).andThen
    intro a u hu hk u' hu' hg
    have may : u'.Permits first watched (.cache (.set src.key (encodeText a) src.lifetime)) :=
      hk.2.later hu'
    refine ⟨may, ?_⟩
    intro reply v' hc v'' hv''
    have hl := (hu'.trans (hg.attended may hc).2).trans hv''
    exact later a u v'' hl hk.1
  · intro u hu
    exact hf u hu a rfl

theorem obeys_level : (Service.level lifetimes user).Obeys (customs first watched)
    (ifOk fun level v => watched (.level user) → v.Trails first user level) w := by
  rw [Service.level_eq]
  apply obeys_read
  · exact fun _ => trivial
  · intro level u v hl h hw
    exact (h hw).later hl
  · intro v text level hg he hd hw
    exact hg.entries (.level user) text hw he level hd
  · intro v v' level hg hr
    obtain ⟨rfl, c, hc, rfl⟩ := StoreReply.level hr
    have trails := trails_of_get? (hg.first_le user) hc
    refine ⟨fun _ => trails, ?_⟩
    intro level hd
    rw [(kept_int32 _).decodeText?] at hd
    cases hd
    exact trails

theorem obeys_profile : (Service.profile lifetimes user).Obeys (customs first watched)
    (ifOk fun _ _ => True) w := by
  rw [Service.profile_eq]
  apply obeys_read
  · exact fun _ => trivial
  · exact fun _ _ _ _ _ => trivial
  · exact fun _ _ _ _ _ _ => trivial
  · intro v v' profile hg hr
    obtain ⟨rfl, c, hc, rfl⟩ := StoreReply.profile hr
    refine ⟨trivial, ?_⟩
    intro profile hd
    rw [(kept_profile _).decodeText?] at hd
    cases hd
    exact trails_of_get? (hg.first_le user) hc

theorem obeys_catalogue : (Service.catalogue lifetimes).Obeys (customs first watched)
    (ifOk fun list v => watched .skins → list.shut = v.catalogue) w := by
  rw [Service.catalogue_eq]
  apply obeys_read
  · exact fun _ => trivial
  · intro list u v hl h hw
    rw [h hw, catalogue, catalogue, hl.skins]
  · intro v text list hg he hd hw
    rw [hg.entries .skins text hw he list hd]
    exact SkinList.shut_shut _
  · intro v v' skins hg hr
    obtain ⟨rfl, rfl⟩ := StoreReply.skins hr
    refine ⟨fun _ => rfl, ?_⟩
    intro list hd
    rw [decodeText?_skinList] at hd
    cases hd
    rfl

theorem obeys_prices : (Service.prices lifetimes).Obeys (customs first watched)
    (ifOk fun _ _ => True) w := by
  rw [Service.prices_eq]
  apply obeys_read
  · exact fun _ => trivial
  · exact fun _ _ _ _ _ => trivial
  · exact fun _ _ _ _ _ _ => trivial
  · exact fun _ _ _ _ _ => ⟨trivial, trivial⟩

/-! ## Skins -/

theorem obeys_skins : (Service.skins lifetimes user).Obeys (customs first watched)
    (ifOk fun list v => watched (.level user) → watched .skins →
      ∃ level, v.Trails first user level ∧ list = v.catalogue.seenAt level) w := by
  refine ⟨_, _, obeys_level, obeys_catalogue, ?_⟩
  intro result v hl hj
  rcases result with refusal | ⟨level, list⟩
  · exact fun _ _ => trivial
  · intro u hu hlevel hskins
    obtain ⟨htrails, hlist⟩ := hj
    refine ⟨level, (htrails hlevel).later hu, ?_⟩
    have same : v.catalogue = u.catalogue := by rw [catalogue, catalogue, hu.skins]
    rw [← same, ← hlist hskins, SkinList.seenAt_shut]

/-- Who sees a skin open in the catalogue of the store may put it on. -/
theorem openTo_of_isOpen? {v : World} {level : Level} {skin : SkinId}
    (h : (v.catalogue.seenAt level).isOpen? skin = some true) (has : v.Has user level) :
    v.OpenTo user skin := by
  obtain ⟨c, hc, hle⟩ := has
  rw [catalogue, SkinList.seenAt_shut, SkinList.isOpen?_seenAt] at h
  obtain ⟨found, hfound, hopen⟩ := Option.map_eq_some_iff.mp h
  exact ⟨found, c, hfound, hc, Int32.le_trans (of_decide_eq_true hopen) hle⟩

theorem OpenTo.later {v v' : World} {skin : SkinId} (h : v.OpenTo user skin) (hl : Later v v') :
    v'.OpenTo user skin := by
  obtain ⟨found, c, hfound, hc, hle⟩ := h
  obtain ⟨c', hc', hup⟩ := hl.has user c.level ⟨c, hc, Int32.le_refl _⟩
  exact ⟨found, c', hl.skins ▸ hfound, hc', Int32.le_trans hle hup⟩

/-- No harm is in a cache entry that goes, and nothing is promised of it. -/
theorem obeys_evict (key : Key) :
    (evict key).Obeys (customs first watched) (fun _ _ => True) w := by
  apply Plan.Obeys.call
  · exact fun _ => trivial
  · exact fun _ _ _ _ => trivial

theorem obeys_changeSkin (skin : SkinId) :
    (Service.changeSkin lifetimes user skin).Obeys (customs first watched)
      (ifOk fun _ _ => True) w := by
  apply obeys_skins.andThen
  intro list v hl hlist
  split
  · exact fun _ _ => trivial
  · exact fun _ _ => trivial
  · rename_i hopen
    have wear : (askStore (.setActiveSkin user skin)).Obeys (customs first watched)
        (ifOk fun _ _ => True) v := by
      apply obeys_askStore
      · exact fun _ _ _ _ _ => trivial
      · intro u hu hlevel hskins
        obtain ⟨level, htrails, rfl⟩ := hlist hlevel hskins
        exact (openTo_of_isOpen? hopen htrails.has).later hu
      · exact fun _ _ _ _ _ _ => trivial
    apply wear.andThen
    intro _ u hu _
    apply (obeys_evict (.profile user)).bind
    exact fun _ _ _ _ _ _ => trivial

/-! ## Level-ups -/

open LevelUp

/-- A level that the store moves a character to trails the store. -/
theorem Attends.reached {v v' : World} {fromLevel up : Level}
    (h : Attends v (.store (.incrementLevel user fromLevel)) (.ok up) v')
    (sound : v.Sound first watched) (below : fromLevel.next? ≠ none) :
    v'.Trails first user up := by
  obtain ⟨-, hone, c, hc, rfl, hget⟩ := h.1.climbs (Option.ne_none_iff_exists'.mp below)
  have hnow : v'.characters.get? user = some { c with level := up } := by rw [hget, if_pos rfl]
  have hfirst := sound.first_le user
  rw [firstLevel_of_get? hc] at hfirst
  refine ⟨Int32.le_trans hfirst ?_, _, hnow, Int32.le_refl _⟩
  apply Int32.le_iff_toInt_le.mpr
  omega

/-- What a task of a level-up reports trails the store. -/
abbrev Gained (first : UserId → Level) (user : UserId) : TaskResult → World → Prop :=
  ifOk fun gain v => v.Trails first user gain.level

theorem obeys_gained {gain : Advance} {v : World} (h : v.Trails first user gain.level) :
    (Plan.done (.ok gain : TaskResult)).Obeys (customs first watched) (Gained first user) v := by
  intro u hu
  exact h.later hu

theorem obeys_release (payment : PaymentId) (refusal : Refusal) :
    (release payment refusal).Obeys (customs first watched) (Gained first user) w := by
  apply Plan.Obeys.call
  · exact fun _ => trivial
  · exact fun _ _ _ _ => trivial

theorem obeys_spend {payment : PaymentId} {level : Level} (h : w.Trails first user level) :
    (spend payment level).Obeys (customs first watched) (Gained first user) w := by
  intro v hl hg
  refine ⟨trivial, ?_⟩
  intro reply v' hc
  have hv' := (h.later hl).later
    (hg.attended (c := .gateway (.finalize payment true)) trivial hc).2
  cases reply with
  | ok => exact obeys_gained hv'
  | error => exact obeys_gained hv'

theorem obeys_advancePaid {payment : PaymentId} {fromLevel : Level}
    (below : fromLevel.next? ≠ none) :
    (advancePaid user fromLevel payment).Obeys (customs first watched) (Gained first user) w := by
  intro v hl hg
  refine ⟨below, ?_⟩
  intro reply v' hc
  cases reply with
  | error fault => exact obeys_release payment _
  | ok level => exact obeys_spend (hc.reached hg below)

theorem obeys_settle {payment : PaymentId} {fromLevel : Level} {price : Coins}
    (below : fromLevel.next? ≠ none) :
    (LevelUp.settle user fromLevel price payment).Obeys (customs first watched)
      (Gained first user) w := by
  unfold LevelUp.settle
  apply Plan.Obeys.call
  · exact fun _ => trivial
  · intro reply v
    cases reply with
    | error fault =>
      by_cases ambiguous : fault.isAmbiguous
      · simp only [ambiguous, if_true]
        exact obeys_release payment _
      · simp only [ambiguous]
        exact fun _ _ => trivial
    | ok => exact obeys_advancePaid below

theorem obeys_advanceFree {fromLevel : Level} (below : fromLevel.next? ≠ none) :
    (advanceFree user fromLevel).Obeys (customs first watched) (Gained first user) w := by
  have move : (askStore (.incrementLevel user fromLevel)).Obeys (customs first watched)
      (ifOk fun level v => v.Trails first user level) w := by
    apply obeys_askStore
    · exact fun _ _ _ hl h => h.later hl
    · exact fun _ _ => below
    · exact fun v v' level hg _ hc => hc.reached hg below
  apply move.andThen
  intro level v hl h
  exact obeys_gained h

theorem obeys_pay {fromLevel : Level} (path : PaymentPath) (below : fromLevel.next? ≠ none) :
    (pay user fromLevel path).Obeys (customs first watched) (Gained first user) w := by
  cases path with
  | coins price => exact fun payment => obeys_settle below
  | free => exact obeys_advanceFree below

/-- The cache is brought in line with a level that the character has reached. -/
theorem obeys_refresh {result : TaskResult}
    (h : (Plan.done result).Obeys (customs first watched) (Gained first user) w) :
    (refresh lifetimes user result).Obeys (customs first watched) (fun _ _ => True) w := by
  unfold refresh
  split
  · rename_i gain
    have write : (writeEntry (.level user) gain.level lifetimes.entries).Obeys
        (customs first watched) (fun _ _ => True) w := by
      intro v hl hg
      refine ⟨?_, fun _ _ _ _ _ => trivial⟩
      intro level hd
      rw [(kept_int32 _).decodeText?] at hd
      cases hd
      exact h v hl
    apply write.bind
    intro _ v _ _
    apply (obeys_evict (.profile user)).bind
    exact fun _ _ _ _ _ _ => trivial
  · apply (obeys_evict (.level user)).bind
    exact fun _ _ _ _ _ _ => trivial
  · exact fun _ _ => trivial

theorem obeys_commit {fromLevel : Level} (path : PaymentPath) (below : fromLevel.next? ≠ none) :
    (commit lifetimes user fromLevel path).Obeys (customs first watched) (fun _ _ => True) w := by
  apply (obeys_pay path below).bind
  intro result v hl h
  exact obeys_refresh h

/-- A report makes no calls. -/
theorem obeys_report (balance : Coins) (path : PaymentPath) (result : Option TaskResult) :
    (report balance path result).Obeys (customs first watched) (ifOk fun _ _ => True) w := by
  unfold report
  split
  · exact fun _ _ => trivial
  · exact fun _ _ => trivial
  · split
    · trivial
    · exact fun _ _ => trivial

theorem obeys_quote (current : Level) (prices : PriceList) :
    (quote lifetimes user current prices).Obeys (customs first watched)
      (ifOk fun _ _ => True) w := by
  have asks (c : GatewayCall) : (askGateway c).Obeys (customs first watched)
      (fun _ _ => True) w := by
    apply Plan.Obeys.call
    · exact fun _ => trivial
    · exact fun _ _ _ _ => trivial
  unfold quote
  split
  · trivial
  · rename_i next hnext
    have below : current.next? ≠ none := by simp [hnext]
    split
    · exact fun _ _ => trivial
    · refine ⟨_, _, asks _, asks _, ?_⟩
      intro result v hl _
      rcases result with fault | ⟨balance, referrals⟩
      · exact fun _ _ => trivial
      · dsimp only [buy]
        split
        · exact fun _ _ => trivial
        · rename_i path _
          exact ⟨_, obeys_commit path below, fun result u _ _ => obeys_report balance path result⟩

theorem obeys_levelUp : (Service.levelUp lifetimes user).Obeys (customs first watched)
    (ifOk fun _ _ => True) w := by
  have level : (currentLevel lifetimes user).Obeys (customs first watched)
      (ifOk fun _ _ => True) w := by
    unfold currentLevel
    apply Plan.Obeys.map
    apply obeys_level.weaken
    intro result v _
    cases result <;> trivial
  apply level.andThen
  intro current v hl _
  apply obeys_prices.andThen
  intro prices u hu _
  exact obeys_quote current prices

end Rehearsal.World

/-! ## All questions -/

open Rehearsal.World in
/-- Every question keeps to the customs, whatever is watched. -/
theorem Rehearsal.Question.obeys (question : Question) {lifetimes : Lifetimes}
    {first : UserId → Level} {watched : Key → Prop} {w : World} :
    (question.plan lifetimes).Obeys (customs first watched) (fun _ _ => True) w := by
  have silent {α : Type} {p : Plan (Except Refusal α)} {post : α → World → Prop}
      {f : Except Refusal α → Except Refusal Json}
      (hp : p.Obeys (customs first watched) (ifOk post) w) :
      (p.map f).Obeys (customs first watched) (fun _ _ => True) w := by
    apply Plan.Obeys.map
    exact hp.weaken fun _ _ _ => trivial
  cases question with
  | create user =>
    apply Plan.Obeys.call
    · exact fun _ => trivial
    · exact fun _ _ _ _ => trivial
  | level user => exact silent obeys_level
  | profile user => exact silent obeys_profile
  | skins user => exact silent obeys_skins
  | prices => exact silent obeys_prices
  | changeSkin user skin => exact silent (obeys_changeSkin skin)
  | levelUp user => exact silent obeys_levelUp

end Progression
