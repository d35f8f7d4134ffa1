-- The cache at rest. An entry says what the store would have it say, unless
-- the one who wrote it was overtaken: it had heard from the store what to
-- write, the store was changed then, and it wrote last all the same.
import Progression.Proofs.Debts
import Progression.Proofs.Dictation
import Progression.Proofs.Uncached

namespace Progression

open Rehearsal

/-! ## Collaborators that work -/

namespace Rehearsal.World

/-- The store and the cache do what they are told, though the cache may forget entries. The gateway
may answer as it likes. -/
def Works : Collaborators World
  | w, .store c, reply, w' => reply = (w.store c).1 ∧ w' = (w.store c).2
  | w, .cache c, reply, w' => ∃ v, w.Fades v ∧ reply = (v.cached c).1 ∧ w' = (v.cached c).2
  | w, .gateway _, _, w' => w'.characters = w.characters ∧ w'.prices = w.prices ∧
      w'.skins = w.skins ∧ w'.cache = w.cache

/-- Every call does what it is for, and nothing is forgotten. -/
def Healthy : Collaborators World := fun w c reply w' =>
  reply = (w.perform c).1 ∧ w' = (w.perform c).2

variable {w w' : World} {c : Call} {reply : c.Reply} {key : Key} {text : String}

theorem healthy_perform (w : World) (c : Call) : Healthy w c (w.perform c).1 (w.perform c).2 :=
  ⟨rfl, rfl⟩

theorem Healthy.works (h : Healthy w c reply w') : Works w c reply w' := by
  obtain ⟨rfl, rfl⟩ := h
  cases c with
  | store => exact ⟨rfl, rfl⟩
  | cache => exact ⟨w, ⟨rfl, fun _ _ h => h⟩, rfl, rfl⟩
  | gateway c =>
    have rest : (w.perform (.gateway c)).2 = _ := gateway_rest w c
    refine ⟨?_, ?_, ?_, ?_⟩ <;> rw [rest]

theorem Works.attends (h : Works w c reply w') : Attends w c reply w' := by
  cases c with
  | store c =>
    obtain ⟨hr, rfl⟩ := h
    exact ⟨.inl ⟨hr, rfl⟩, by rw [store_rest]⟩
  | cache c =>
    obtain ⟨v, fades, hr, rfl⟩ := h
    have serves : w.Serves (.cache c) reply (v.cached c).2 := ⟨v, fades, .inl ⟨hr, rfl⟩⟩
    exact ⟨serves, by rw [CacheReply.rest serves]⟩
  | gateway c => exact ⟨⟨h.1, h.2.1, h.2.2.2⟩, h.2.2.1⟩

/-- A cache that does its work leaves an entry alone if it is told nothing about it. -/
theorem cached_untouched {v : World} {c : CacheCall} {reply : Except CacheFault c.Answer}
    (untouched : ¬ (Deed.called (.cache c) reply).Touches key) :
    (v.cached c).2.cache.get? key.text = v.cache.get? key.text := by
  cases c with
  | get => rfl
  | set k text lifetime =>
    refine Table.get?_put_of_ne _ _ fun ht => ?_
    obtain rfl := Key.text_inj ht
    exact untouched (.set _)
  | invalidate k =>
    refine Table.get?_erase_of_ne _ fun ht => ?_
    obtain rfl := Key.text_inj ht
    exact untouched (.invalidate _)

/-- An entry that is there after a call has just been written, or nobody has touched it. -/
theorem Works.entry (h : Works w c reply w') (entry : w'.cache.get? key.text = some text) :
    (∃ lifetime, c = .cache (.set key text lifetime)) ∨
      w.cache.get? key.text = some text ∧ ¬ (Deed.called c reply).Touches key := by
  cases c with
  | store c =>
    obtain ⟨-, rfl⟩ := h
    rw [store_rest] at entry
    exact .inr ⟨entry, nofun⟩
  | gateway c =>
    rw [h.2.2.2] at entry
    exact .inr ⟨entry, nofun⟩
  | cache c =>
    obtain ⟨v, fades, -, rfl⟩ := h
    by_cases touches : (Deed.called (.cache c) reply).Touches key
    · cases touches with
      | set =>
        rw [cached, Table.get?_put_self] at entry
        cases entry
        exact .inl ⟨_, rfl⟩
      | invalidate =>
        rw [cached, Table.get?_erase_self] at entry
        cases entry
    · rw [cached_untouched touches] at entry
      exact .inr ⟨fades.entries _ _ entry, touches⟩

/-! ## What the store would have an entry say -/

theorem text?_of_eq (characters : w'.characters = w.characters) (prices : w'.prices = w.prices)
    (skins : w'.skins = w.skins) (key : Key) : w'.text? key = w.text? key := by
  cases key with
  | level user => simp only [text?, characters]
  | profile user => simp only [text?, profileOf, characters, skins]
  | skins => simp only [text?, skins]
  | prices => simp only [text?, prices]

/-- A character that is put changes what its own two entries should say, and no others. -/
theorem text?_put (w : World) (user : UserId) (c : Character) (key : Key) :
    (w.putCharacter user c).text? key =
      if key = .level user then some (encodeText c.level)
      else if key = .profile user then some (encodeText (w.profileOf c))
      else w.text? key := by
  have get (u : UserId) : (w.putCharacter user c).characters.get? u
      = if u = user then some c else w.characters.get? u := Table.get?_put ..
  cases key with
  | level u => by_cases hu : u = user <;> simp [text?, get, hu]
  | profile u =>
    have same (c : Character) : (w.putCharacter user c).profileOf = w.profileOf := rfl
    by_cases hu : u = user <;> simp [text?, get, hu, same]
  | skins => simp [text?, putCharacter]
  | prices => simp [text?, putCharacter]

/-- What the store has said to a party is so then. -/
theorem Works.dictates (h : Works w c reply w')
    (dictates : (Deed.called c reply).Dictates key text) : w'.text? key = some text := by
  cases dictates with
  | level level =>
    obtain ⟨rfl, c, hc, rfl⟩ := StoreReply.level (.inl h)
    simp [text?, hc]
  | profile profile =>
    obtain ⟨rfl, c, hc, rfl⟩ := StoreReply.profile (.inl h)
    simp [text?, hc]
  | reached level =>
    obtain ⟨-, c, hc, -, rfl⟩ := StoreReply.increment (.inl h)
    rw [text?_put, if_pos rfl]
  | skins skins =>
    obtain ⟨rfl, rfl⟩ := StoreReply.skins (.inl h)
    rfl
  | prices prices =>
    obtain ⟨rfl, rfl⟩ := StoreReply.prices (.inl h)
    rfl

/-- A call that makes the entry not out of date leaves it as it should be. -/
theorem Works.text? (h : Works w c reply w') (steady : ¬ (Deed.called c reply).Alters key)
    (old : w.text? key = some text) : w'.text? key = some text := by
  cases c with
  | gateway c => rw [text?_of_eq h.1 h.2.1 h.2.2.1, old]
  | cache c =>
    have rest := CacheReply.rest h.attends.1
    exact (text?_of_eq (by rw [rest]) (by rw [rest]) (by rw [rest]) key).trans old
  | store c =>
    obtain ⟨rfl, rfl⟩ := h
    cases c with
    | createCharacter user =>
      simp only [store]
      cases hc : w.characters.get? user with
      | some => exact old
      | none =>
        dsimp only
        rw [text?_put]
        split
        · subst key
          simp [World.text?, hc] at old
        · split
          · subst key
            simp [World.text?, hc] at old
          · exact old
    | incrementLevel user fromLevel =>
      simp only [store, World.increment] at steady ⊢
      cases hc : w.character user with
      | error => exact old
      | ok c =>
        dsimp only
        by_cases hl : c.level = fromLevel
        · simp only [hc, hl, if_true] at steady
          rw [if_pos hl, text?_put]
          split
          · subst key
            exact absurd (.level _) steady
          · split
            · subst key
              exact absurd (.profile _) steady
            · exact old
        · rw [if_neg hl]
          exact old
    | setActiveSkin user skin =>
      simp only [store] at steady ⊢
      cases hc : w.character user with
      | error => exact old
      | ok c =>
        simp only [hc] at steady
        dsimp only
        rw [text?_put]
        split
        · subst key
          simpa [World.text?, character_ok.mp hc] using old
        · split
          · subst key
            exact absurd .skin steady
          · exact old
    | _ => exact old

/-- A level that the store has come to after moving a character up is above what it was before. -/
theorem Attends.above {u v : World} {user : UserId} {fromLevel up level : Level}
    (h : Attends w (.store (.incrementLevel user fromLevel)) (.ok up) w')
    (below : fromLevel.next? ≠ none) (before : Later u w) (after : Later w' v)
    (has : u.Has user level) : ∃ c, v.characters.get? user = some c ∧ level < c.level := by
  obtain ⟨-, hone, c, hc, rfl, hget⟩ := h.1.climbs (Option.ne_none_iff_exists'.mp below)
  obtain ⟨old, hold, hle⟩ := before.has user level has
  cases hold.symm.trans hc
  have reached : w'.Has user up := ⟨_, (hget user).trans (if_pos rfl), Int32.le_refl _⟩
  obtain ⟨c', hc', hup⟩ := after.has user up reached
  refine ⟨c', hc', ?_⟩
  rw [Int32.le_iff_toInt_le] at hle hup
  rw [Int32.lt_iff_toInt_lt]
  omega

/-- What the store would have the entry of a level say is the level of a character. -/
theorem text?_level {user : UserId} (h : w.text? (.level user) = some text) :
    ∃ c, w.characters.get? user = some c ∧ decodeText? text = some c.level := by
  obtain ⟨c, hc, rfl⟩ := Option.map_eq_some_iff.mp h
  exact ⟨c, hc, (kept_int32 _).decodeText?⟩

theorem text?_profile {user : UserId} (h : w.text? (.profile user) = some text) :
    ∃ c, w.characters.get? user = some c ∧ decodeText? text = some (w.profileOf c) := by
  obtain ⟨c, hc, rfl⟩ := Option.map_eq_some_iff.mp h
  exact ⟨c, hc, (kept_profile _).decodeText?⟩

end Rehearsal.World

/-! ## Runs and their parts -/

namespace System

section Parts

variable {σ ι : Type} [DecidableEq ι] {Answer : ι → Type} {col col' : Collaborators σ}
  {s t : System σ Answer} {before after h : History ι}

/-- A run is what comes before one of its turns, that turn, and what comes after it. -/
theorem Run.cut {i : ι} {d : Deed} (run : Run col s (before ++ (i, d) :: after) t) :
    ∃ u v, Run col s before u ∧ Turn col u i d v ∧ Run col v after t := by
  induction after using List.reverseRecOn generalizing t with
  | nil =>
    generalize hh : before ++ [(i, d)] = h at run
    cases run with
    | start => simp at hh
    | turn run turn =>
      obtain ⟨rfl, hd⟩ := List.append_inj' hh rfl
      cases hd
      exact ⟨_, _, run, turn, .start⟩
  | append_singleton after e ih =>
    generalize hh : before ++ (i, d) :: (after ++ [e]) = h at run
    cases run with
    | start => simp at hh
    | turn run turn =>
      rw [← List.cons_append, ← List.append_assoc] at hh
      obtain ⟨rfl, hd⟩ := List.append_inj' hh rfl
      cases hd
      obtain ⟨u, v, first, mid, last⟩ := ih run
      exact ⟨u, v, first, mid, last.turn turn⟩

/-- A run stays a run where the collaborators may do more. -/
theorem Run.mono (run : Run col s h t)
    (sub : ∀ {w w' : σ} {c : Call} {reply : c.Reply}, col w c reply w' → col' w c reply w') :
    Run col' s h t := by
  induction run with
  | start => exact .start
  | turn _ turn ih =>
    cases turn with
    | call step reply_ok => exact ih.turn (.call step (sub reply_ok))
    | take step fresh => exact ih.turn (.take step fresh)

/-- Nobody is in the middle of anything: who has begun has ended. -/
def AtRest (t : System σ Answer) (h : History ι) : Prop := ∀ i, h.of i = [] ∨ (t.plans i).Over

end Parts

section Runs

variable {ι : Type} [DecidableEq ι] {Answer : ι → Type} {s t : System World Answer}
  {h : History ι} {i : ι} {d : Deed} {key : Key} {text : String}

theorem Turn.entry (turn : Turn World.Works s i d t)
    (entry : t.world.cache.get? key.text = some text) :
    (∃ lifetime reply, d = .called (.cache (.set key text lifetime)) reply) ∨
      s.world.cache.get? key.text = some text ∧ ¬ d.Touches key := by
  cases turn with
  | take => exact .inr ⟨entry, nofun⟩
  | call _ works =>
    rcases works.entry entry with ⟨lifetime, rfl⟩ | old
    · exact .inl ⟨lifetime, _, rfl⟩
    · exact .inr old

/-- An entry was there from the beginning, or somebody wrote it, and it was not touched since. -/
theorem Run.entry (run : Run World.Works s h t)
    (entry : t.world.cache.get? key.text = some text) :
    s.world.cache.get? key.text = some text ∨
      ∃ before i lifetime reply after,
        h = before ++ (i, .called (.cache (.set key text lifetime)) reply) :: after ∧
        ∀ e ∈ after, ¬ e.2.Touches key := by
  induction run with
  | start => exact .inl entry
  | @turn h _ _ i d _ turn ih =>
    rcases turn.entry entry with ⟨lifetime, reply, rfl⟩ | ⟨old, untouched⟩
    · exact .inr ⟨h, i, lifetime, reply, [], rfl, by simp⟩
    · refine (ih old).imp_right ?_
      rintro ⟨before, j, lifetime, reply, after, rfl, since⟩
      refine ⟨before, j, lifetime, reply, after ++ [(i, d)], by simp, ?_⟩
      intro e he
      rcases List.mem_append.mp he with he | he
      · exact since e he
      · cases List.mem_singleton.mp he
        exact untouched

/-- What the store would have an entry say stays so while nothing makes it out of date. -/
theorem Run.text? (run : Run World.Works s h t) (steady : ∀ e ∈ h, ¬ e.2.Alters key)
    (old : s.world.text? key = some text) : t.world.text? key = some text := by
  induction run with
  | start => exact old
  | turn _ turn ih =>
    have before := ih fun e he => steady e (List.mem_append_left _ he)
    have mine := steady _ (List.mem_append_right _ (List.mem_singleton.mpr rfl))
    cases turn with
    | take => exact before
    | call _ works => exact works.text? mine before

end Runs

end System

/-! ## Overtaken writers -/

/-- The last one to touch an entry wrote there what the store had told it, and these turns came
between the two. -/
def WroteLast {ι : Type} (key : Key) (text : String) (between h : History ι) : Prop :=
  ∃ before i told lifetime reply after,
    h = before ++ (i, told) ::
      (between ++ (i, .called (.cache (.set key text lifetime)) reply) :: after) ∧
    told.Dictates key text ∧ ∀ e ∈ after, ¬ e.2.Touches key

/-- The last one to touch an entry wrote there what the store had told it, but meanwhile the entry
had gone out of date. -/
def Overtaken {ι : Type} (key : Key) (text : String) (h : History ι) : Prop :=
  ∃ between, WroteLast key text between h ∧ ∃ e ∈ between, e.2.Alters key

namespace System

variable {ι : Type} [DecidableEq ι] {lifetimes : Lifetimes} {asks : ι → Question} {start : World}
  {taken : Set PaymentId} {h before after : History ι} {i : ι} {d : Deed} {key : Key}
  {text : String} {s t : System World fun _ : ι => Option (Except Refusal Json)}

/-- The customs of the service with a watch on nothing. -/
abbrev unwatched : Customs World.Attends := World.customs (fun _ => Int32.minValue) fun _ => False

theorem Run.orderly (run : Run World.Works (serving lifetimes asks start taken) h t) :
    Orderly unwatched start t := by
  have good : unwatched.good start := ⟨fun _ => Int32.minValue_le _, fun _ _ => False.elim⟩
  exact (run.mono World.Works.attends).traffic.orderly good fun i => Plan.Obeys.map (asks i).obeys

theorem Orderly.later_of_run {w : World} (orderly : Orderly unwatched w s)
    (run : Run World.Works s h t) : World.Later s.world t.world :=
  ((run.mono World.Works.attends).traffic.orderly orderly.good orderly.obeys).later

/-- After the store has told a party what an entry should be, it would say so. -/
theorem Turn.dictates (turn : Turn World.Works s i d t) (dictates : d.Dictates key text) :
    t.world.text? key = some text := by
  cases turn with
  | take => cases dictates
  | call _ works => exact works.dictates dictates

/-- A character that has moved up in the course of a run is then above where it was before. -/
theorem Orderly.above {w : World} {user : UserId} {level : Level}
    (orderly : Orderly unwatched w s) (run : Run World.Works s h t)
    (moved : ∃ e ∈ h, e.2.Alters (.level user)) (has : s.world.Has user level) :
    ∃ c, t.world.characters.get? user = some c ∧ level < c.level := by
  obtain ⟨⟨j, e⟩, he, alters⟩ := moved
  obtain ⟨early, late, rfl⟩ := List.append_of_mem he
  obtain ⟨u, v, first, turn, last⟩ := run.cut
  have atU : Orderly unwatched s.world u :=
    (first.mono World.Works.attends).traffic.orderly orderly.good orderly.obeys
  have atV : Orderly unwatched s.world v := by
    cases turn with
    | call step works => exact atU.turn (.call step works.attends)
    | take step fresh => exact atU.turn (.take step fresh)
  obtain ⟨up⟩ := alters
  cases turn with
  | call step works =>
    exact works.attends.above (atU.may step) atU.later (atV.later_of_run last) has

/-- At rest, who has made an entry out of date has touched it since. -/
theorem Run.touched (run : Run World.Works (serving lifetimes asks start taken)
      (before ++ (i, d) :: after) t)
    (rest : t.AtRest (before ++ (i, d) :: after)) (alters : d.Alters key) :
    ∃ e ∈ after, e.2.Touches key := by
  have mine : History.of (before ++ (i, d) :: after) i
      = before.of i ++ d :: History.of after i := by simp [History.of]
  have ended : (t.plans i).Over := by
    refine (rest i).resolve_left ?_
    simp [mine]
  by_contra untouched
  apply run.not_owes ended key
  refine ⟨_, d, _, mine, alters, fun e he touches => ?_⟩
  exact untouched ⟨_, History.mem_of.mp he, touches⟩

/-- Somebody was the last to touch an entry that is there, if none was there in the beginning. -/
theorem Run.wroteLast (run : Run World.Works (serving lifetimes asks start taken) h t)
    (cold : ∀ key : Key, start.cache.get? key.text = none)
    (entry : t.world.cache.get? key.text = some text) :
    ∃ between, WroteLast key text between h := by
  rcases run.entry entry with old | ⟨before, i, lifetime, reply, after, rfl, untouched⟩
  · cases (cold key).symm.trans old
  · obtain ⟨told, mem, dictates⟩ := run.dictated
    obtain ⟨early, between, rfl⟩ := List.append_of_mem mem
    exact ⟨between, early, i, told, lifetime, reply, after, by simp, dictates, untouched⟩

/-- When the last one to touch an entry heard what to write there, the store said so. -/
theorem Run.told {between : History ι}
    (run : Run World.Works (serving lifetimes asks start taken) h t)
    (last : WroteLast key text between h) :
    ∃ u after, Orderly unwatched start u ∧ u.world.text? key = some text ∧
      Run World.Works u (between ++ after) t := by
  obtain ⟨before, i, told, lifetime, reply, after, rfl, dictates, -⟩ := last
  obtain ⟨u, v, first, turn, later⟩ := run.cut
  exact ⟨v, _, (first.turn turn).orderly, turn.dictates dictates, later⟩

/-- At rest, an entry says what it should unless its writer was overtaken. -/
theorem Run.text?_of_wroteLast {between : History ι}
    (run : Run World.Works (serving lifetimes asks start taken) h t) (rest : t.AtRest h)
    (last : WroteLast key text between h) (steady : ∀ e ∈ between, ¬ e.2.Alters key) :
    t.world.text? key = some text := by
  obtain ⟨before, i, told, lifetime, reply, after, rfl, dictates, untouched⟩ := last
  obtain ⟨u, v, -, turn, later⟩ := run.cut
  refine later.text? ?_ (turn.dictates dictates)
  intro e he alters
  rcases List.mem_append.mp he with he | he
  · exact steady e he alters
  · rcases List.mem_cons.mp he with rfl | he
    · cases alters
    · -- Who has done that afterwards has touched the entry after that.
      obtain ⟨early, late, rfl⟩ := List.append_of_mem he
      have parts : before ++ (i, told) :: (between ++
          (i, .called (.cache (.set key text lifetime)) reply) :: (early ++ e :: late))
        = (before ++ (i, told) :: (between ++
          (i, .called (.cache (.set key text lifetime)) reply) :: early)) ++ e :: late := by simp
      rw [parts] at run rest
      obtain ⟨x, hx, touches⟩ := run.touched rest alters
      exact untouched x (by simp [hx]) touches

/-- What an overtaken writer has written of a level is below the level of the character. -/
theorem Run.behind {user : UserId}
    (run : Run World.Works (serving lifetimes asks start taken) h t)
    (overtaken : Overtaken (.level user) text h) :
    ∃ c level, t.world.characters.get? user = some c ∧ decodeText? text = some level ∧
      level < c.level := by
  obtain ⟨between, last, e, he, alters⟩ := overtaken
  obtain ⟨u, after, orderly, told, later⟩ := run.told last
  obtain ⟨old, hold, decodes⟩ := World.text?_level told
  obtain ⟨c, hc, above⟩ := orderly.above later ⟨e, List.mem_append_left _ he, alters⟩
    ⟨old, hold, Int32.le_refl _⟩
  exact ⟨c, old.level, hc, decodes, above⟩

end System

/-- At rest, the entry of a level says no more than the level of the character, and it says less
exactly if its writer was overtaken. The entry of a profile is what the store would tell, unless its
writer was overtaken. The cache was empty in the beginning. -/
theorem an_entry_at_rest_is_true_unless_overtaken {ι : Type} [DecidableEq ι]
    {lifetimes : Lifetimes} {asks : ι → Question} {start : World} {taken : Set PaymentId}
    {h : History ι} {t : System World fun _ : ι => Option (Except Refusal Json)}
    (cold : ∀ key : Key, start.cache.get? key.text = none)
    (run : System.Run World.Works (.serving lifetimes asks start taken) h t)
    (rest : t.AtRest h) :
    (∀ user text, t.world.cache.get? (Key.level user).text = some text →
      ∃ c level, t.world.characters.get? user = some c ∧ decodeText? text = some level ∧
        level ≤ c.level ∧ (level ≠ c.level ↔ Overtaken (.level user) text h)) ∧
    ∀ user text, t.world.cache.get? (Key.profile user).text = some text →
      ∃ c profile, t.world.characters.get? user = some c ∧ decodeText? text = some profile ∧
        profile.level ≤ c.level ∧
        (profile ≠ t.world.profileOf c → Overtaken (.profile user) text h) := by
  -- Of an entry that is there, some store in between has said what it says.
  have trails {key : Key} {text : String} (entry : t.world.cache.get? key.text = some text) :
      ∃ u : World, u.text? key = some text ∧ World.Later u t.world := by
    obtain ⟨between, last⟩ := run.wroteLast cold entry
    obtain ⟨u, after, orderly, told, later⟩ := run.told last
    exact ⟨u.world, told, orderly.later_of_run later⟩
  have now {key : Key} {text : String} (entry : t.world.cache.get? key.text = some text)
      (alone : ¬ Overtaken key text h) : t.world.text? key = some text := by
    obtain ⟨between, last⟩ := run.wroteLast cold entry
    exact run.text?_of_wroteLast rest last fun e he alters => alone ⟨between, last, e, he, alters⟩
  refine ⟨?_, ?_⟩
  · intro user text entry
    obtain ⟨u, told, later⟩ := trails entry
    obtain ⟨old, hold, decodes⟩ := World.text?_level told
    obtain ⟨c, hc, hle⟩ := later.has user _ ⟨old, hold, Int32.le_refl _⟩
    refine ⟨c, old.level, hc, decodes, hle, ?_, ?_⟩
    · intro behind
      by_contra alone
      obtain ⟨c', hc', decodes'⟩ := World.text?_level (now entry alone)
      cases hc.symm.trans hc'
      exact behind (Option.some.inj (decodes.symm.trans decodes'))
    · intro overtaken
      obtain ⟨c', level, hc', decodes', below⟩ := run.behind overtaken
      cases hc.symm.trans hc'
      cases decodes.symm.trans decodes'
      exact Int32.ne_of_lt below
  · intro user text entry
    obtain ⟨u, told, later⟩ := trails entry
    obtain ⟨old, hold, decodes⟩ := World.text?_profile told
    obtain ⟨c, hc, hle⟩ := later.has user _ ⟨old, hold, Int32.le_refl _⟩
    refine ⟨c, u.profileOf old, hc, decodes, hle, ?_⟩
    intro differs
    by_contra alone
    obtain ⟨c', hc', decodes'⟩ := World.text?_profile (now entry alone)
    cases hc.symm.trans hc'
    exact differs (Option.some.inj (decodes.symm.trans decodes'))

/-! ## A slow read -/

/-- This player has not been seen by the cache. -/
def aStranger : World := { aPlayer with cache := .empty }

/-- A party makes a call that the collaborators answer at once. -/
theorem System.Run.makes {ι : Type} [DecidableEq ι] {Answer : ι → Type}
    {s t : System World Answer} {h : History ι} {i : ι} {w : World} {c : Call} {reply : c.Reply}
    {p q : Plan (Answer i)} (run : System.Run World.Healthy s h t) (hp : t.plans i = p)
    (hw : t.world = w) (step : p.Step (.called c reply) q) (hr : reply = (w.perform c).1) :
    ∃ t', System.Run World.Healthy s (h ++ [(i, .called c reply)]) t' ∧ t'.plans i = q ∧
      t'.world = (w.perform c).2 ∧ t'.taken = t.taken ∧ ∀ j ≠ i, t'.plans j = t.plans j := by
  subst hw hr
  exact run.called hp step (World.healthy_perform _ _)

section SlowRead

variable {lifetimes : Lifetimes}

theorem aLevel_missed : Reading.Next (.level lifetimes 7) .asking
    (.called (.cache (.get (.level 7))) (.ok none)) (.inl .loading) := .miss (by simp)

theorem aLevel_loaded : Reading.Next (.level lifetimes 7) .loading
    (.called (.store (.characterLevel 7)) (.ok (1 : Level))) (.inl (.keeping 1)) := .loaded _

theorem aLevel_kept : Reading.Next (.level lifetimes 7) (.keeping 1)
    (.called (.cache (.set (.level 7) (encodeText (1 : Level)) lifetimes.entries)) (.ok ()))
    (.inr (.ok 1)) := .kept (.ok ())

/-- A level-up that nothing disturbs takes this player to the second level. -/
theorem System.Run.advances {ι : Type} [DecidableEq ι] {Answer : ι → Type}
    {s t : System World Answer} {h : History ι} {i : ι}
    {f : Except Refusal LevelUpOutcome → Answer i} (run : System.Run World.Healthy s h t)
    (hp : t.plans i = (Service.levelUp lifetimes 7).map f) (hw : t.world = aStranger)
    (fresh : ⟨1⟩ ∉ t.taken) :
    ∃ h' t', System.Run World.Healthy s (h ++ h') t' ∧
      t'.plans i = .done (f (.ok ⟨2, 50, false⟩)) ∧
      t'.world.characters.get? 7 = some ⟨2, 1⟩ ∧ ∀ j ≠ i, t'.plans j = t.plans j := by
  have goes : ∃ w, Collaborators.GoAlong World.Healthy aStranger t.taken (aPurchase lifetimes) w
      (insert ⟨1⟩ t.taken) ∧ w.characters.get? 7 = some ⟨2, 1⟩ := by
    refine ⟨?w, ?goes, ?moved⟩
    case goes =>
      repeat apply Collaborators.GoAlong.called (World.healthy_perform _ _)
      apply Collaborators.GoAlong.took fresh
      repeat apply Collaborators.GoAlong.called (World.healthy_perform _ _)
      exact .nil
    case moved => rfl
  obtain ⟨w, goes, moved⟩ := goes
  have steps := (steps_aPurchase lifetimes).map f
  obtain ⟨t', run, hp, rfl, -, rest⟩ := run.follows (hp ▸ steps) (hw ▸ goes)
  exact ⟨_, t', run, hp, moved, rest⟩

end SlowRead

/-- A read hears of the first level, and writes that to the cache when a level-up to the second one
has come and gone. -/
theorem a_read_is_overtaken :
    ∃ h t, System.Run World.Healthy (.serving ⟨.ofSeconds 300, .ofSeconds 3600⟩
        (fun climbs : Bool => if climbs then .levelUp 7 else .level 7) aStranger ∅) h t ∧
      t.AtRest h ∧ t.plans true = .done (some (.ok (LevelUpOutcome.summary ⟨2, 50, false⟩))) ∧
      t.world.cache.get? (Key.level 7).text = some (encodeText (1 : Level)) ∧
      t.world.characters.get? 7 = some ⟨2, 1⟩ := by
  let lifetimes : Lifetimes := ⟨.ofSeconds 300, .ofSeconds 3600⟩
  let start := System.serving lifetimes
    (fun climbs : Bool => if climbs then .levelUp 7 else .level 7) aStranger ∅
  have nothing : System.Run World.Healthy start [] start := .start
  have read : start.plans false = (Reading.plan (.level lifetimes 7) .asking).map
      fun result => some (result.map encode) := by
    rw [Reading.plan, ← Service.level_eq]
    exact Plan.map_map ..
  have levelUp : start.plans true = (Service.levelUp lifetimes 7).map
      fun result => some (result.map LevelUpOutcome.summary) := Plan.map_map ..
  obtain ⟨_, run, hp, hw, h1, r1⟩ := nothing.makes read rfl (aLevel_missed.step.map _) rfl
  obtain ⟨_, run, read, hw, h2, r2⟩ := run.makes hp hw (aLevel_loaded.step.map _) rfl
  have waits := (r2 true (by simp)).trans ((r1 true (by simp)).trans levelUp)
  obtain ⟨_, _, run, levelUp, character, rest⟩ :=
    run.advances waits hw (by rw [h2, h1]; exact Set.notMem_empty _)
  have waits := (rest false (by simp)).trans read
  obtain ⟨t, run, read, hw, -, rest⟩ := run.makes waits rfl (aLevel_kept.step.map _) rfl
  have levelUp := (rest true (by simp)).trans levelUp
  refine ⟨_, t, run, ?_, levelUp, ?_, ?_⟩
  · intro i
    cases i with
    | false => exact .inr (read ▸ trivial)
    | true => exact .inr (levelUp ▸ trivial)
  · rw [hw]
    exact Table.get?_put_self (World.cache _) _ _
  · rw [hw]
    exact character

/-- A level-up has come to the second level and nobody is in the middle of anything, but the cache
says the first one to whoever asks. -/
theorem a_slow_read_leaves_an_old_level_behind :
    ∃ h t, System.Run World.Healthy (.serving ⟨.ofSeconds 300, .ofSeconds 3600⟩
        (fun climbs : Bool => if climbs then .levelUp 7 else .level 7) aStranger ∅) h t ∧
      (∀ key : Key, aStranger.cache.get? key.text = none) ∧ t.AtRest h ∧
      t.plans true = .done (some (.ok (LevelUpOutcome.summary ⟨2, 50, false⟩))) ∧
      ∃ text, t.world.cache.get? (Key.level 7).text = some text ∧
        decodeText? (α := Level) text = some 1 ∧
        t.world.characters.get? 7 = some ⟨2, 1⟩ := by
  obtain ⟨h, t, run, rest, levelUp, entry, character⟩ := a_read_is_overtaken
  exact ⟨h, t, run, fun _ => rfl, rest, levelUp, _, entry, (kept_int32 1).decodeText?, character⟩

/-- The slow read was overtaken: the old level that it leaves behind is below the one in the
store. -/
theorem a_slow_read_was_overtaken :
    ∃ h t, System.Run World.Works (.serving ⟨.ofSeconds 300, .ofSeconds 3600⟩
        (fun climbs : Bool => if climbs then .levelUp 7 else .level 7) aStranger ∅) h t ∧
      (∀ key : Key, aStranger.cache.get? key.text = none) ∧ t.AtRest h ∧
      Overtaken (.level 7) (encodeText (1 : Level)) h := by
  obtain ⟨h, t, run, rest, levelUp, entry, character⟩ := a_read_is_overtaken
  have cold : ∀ key : Key, aStranger.cache.get? key.text = none := fun _ => rfl
  have run := run.mono World.Healthy.works
  obtain ⟨c, level, hc, decodes, -, behind⟩ :=
    (an_entry_at_rest_is_true_unless_overtaken cold run rest).1 7 _ entry
  cases character.symm.trans hc
  cases (kept_int32 1).decodeText?.symm.trans decodes
  exact ⟨h, t, run, cold, rest, behind.mp (by decide)⟩

end Progression
