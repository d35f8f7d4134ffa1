-- The laws of the texts in the cache. What is written under a name is read
-- as the value that was written, but skins come back shut. A text that
-- somebody else has put there may be laid out in another way; what it is
-- read as is written and read again without a change.
import Mathlib
import Progression.Proofs.Interleaving
import Progression.Proofs.JsonRoundTrip
import Progression.Service

namespace Progression

section Entries

variable {α : Type} [Coded α] {a b : α} {text : String}

/-- Who writes the value puts that text into the cache, under any name and for any time. -/
def WrittenAs (a : α) (text : String) : Prop :=
  ∀ key lifetime reply,
    (writeEntry key a lifetime).Step (.called (.cache (.set key text lifetime)) reply) (.done ())

/-- Who finds that text in the cache, under any name, takes it for that value. -/
def TakenFor (text : String) (a : α) : Prop :=
  ∀ key, (fetch? key).Step (.called (.cache (.get key)) (.ok (some text))) (.done (some a))

/-- What is written as the one value is read as the other. -/
def ComesBackAs (a b : α) : Prop := ∃ text, WrittenAs a text ∧ TakenFor text b

theorem writtenAs_iff : WrittenAs a text ↔ text = encodeText a := by
  constructor
  · intro written
    cases written .skins .longest (.ok ())
    rfl
  · rintro rfl key lifetime reply
    exact (Plan.Step.call reply).of_eq (Plan.forward_done ())

theorem takenFor_iff : TakenFor text a ↔ decodeText? text = some a := by
  have found (key : Key) : (fetch? key).Step (.called (.cache (.get key)) (.ok (some text)))
      (.done (decodeText? (α := α) text)) := (Plan.Step.call _).of_eq (Plan.forward_done _)
  constructor
  · intro taken
    generalize hd : decodeText? (α := α) text = read
    have step := taken .skins
    generalize hq : Plan.done (some a) = q at step
    cases step with
    | call =>
      simp only [hd, Plan.forward_done] at hq
      exact (Plan.done.inj hq).symm
  · intro hd key
    rw [← hd]
    exact found key

/-- A value comes back as the one that its own text spells. -/
theorem comesBackAs_iff : ComesBackAs a b ↔ decodeText? (encodeText a) = some b := by
  unfold ComesBackAs
  simp only [writtenAs_iff, takenFor_iff]
  exact exists_eq_left

theorem Kept.comesBack (h : Kept a) : ComesBackAs a a := comesBackAs_iff.mpr h.decodeText?

end Entries

/-! ## Skins that were read -/

/-- Whether a skin is open is never read, whatever its text says. -/
theorem Skin.shut_of_decode? {value : Json} {skin : Skin} (h : decode? value = some skin) :
    skin.shut = skin := by
  simp only [decode?] at h
  split at h
  · simp only [Option.pure_def, Option.bind_eq_bind, Option.bind_eq_some_iff,
      Option.some.injEq] at h
    obtain ⟨_, -, _, -, _, -, _, -, _, -, _, -, _, -, _, -, _, -, rfl⟩ := h
    rfl
  · cases h

theorem Skin.map_shut_of_mapM {values : List Json} {skins : List Skin}
    (h : values.mapM decode? = some skins) : skins.map Skin.shut = skins := by
  induction values generalizing skins with
  | nil =>
    cases h
    rfl
  | cons value values ih =>
    simp only [List.mapM_cons, Option.pure_def, Option.bind_eq_bind, Option.bind_eq_some_iff,
      Option.some.injEq] at h
    obtain ⟨skin, first, rest, others, rfl⟩ := h
    rw [List.map_cons, Skin.shut_of_decode? first, ih others]

/-- A list of skins that was read from a text is shut. -/
theorem SkinList.shut_of_decodeText? {text : String} {list : SkinList}
    (h : decodeText? text = some list) : list.shut = list := by
  obtain ⟨value, -, h⟩ := Option.bind_eq_some_iff.mp h
  simp only [decode?] at h
  split at h
  · obtain ⟨skins, read, rfl⟩ := Option.map_eq_some_iff.mp h
    split at read
    · exact congrArg SkinList.mk (Skin.map_shut_of_mapM read)
    · cases read
  · cases h

/-! ## The law -/

/-- What is kept in the cache comes back: levels, profiles and prices as they are, and skins shut.
Whatever text they were read from, what was read comes back as it is. -/
theorem what_the_cache_keeps_comes_back :
    (∀ level : Level, ComesBackAs level level) ∧
    (∀ profile : Profile, ComesBackAs profile profile) ∧
    (∀ list : PriceList, ComesBackAs list list) ∧
    (∀ list : SkinList, ComesBackAs list list.shut) ∧
    ∀ text,
      (∀ level : Level, TakenFor text level → ComesBackAs level level) ∧
      (∀ profile : Profile, TakenFor text profile → ComesBackAs profile profile) ∧
      (∀ list : PriceList, TakenFor text list → ComesBackAs list list) ∧
      ∀ list : SkinList, TakenFor text list → ComesBackAs list list := by
  have level (n : Level) : ComesBackAs n n := (kept_int32 n).comesBack
  have profile (p : Profile) : ComesBackAs p p := (kept_profile p).comesBack
  have prices (list : PriceList) : ComesBackAs list list := (kept_priceList list).comesBack
  have skins (list : SkinList) : ComesBackAs list list.shut :=
    comesBackAs_iff.mpr (decodeText?_skinList list)
  refine ⟨level, profile, prices, skins, fun text =>
    ⟨fun n _ => level n, fun p _ => profile p, fun list _ => prices list, fun list taken => ?_⟩⟩
  have shut := SkinList.shut_of_decodeText? (takenFor_iff.mp taken)
  rw [← shut, comesBackAs_iff, decodeText?_skinList, SkinList.shut_shut]

/-- A skin without its stats, written as an array, comes back with stats of zero. -/
theorem a_skin_of_another_layout_comes_back :
    let text := "[[[3, \"hat\", \"\", \"\", 1, 0, 0, 0]]]"
    let list : SkinList := ⟨[⟨3, "hat", "", "", 1, 0, 0, 0, false, .zero⟩]⟩
    TakenFor text list ∧ ComesBackAs list list := by
  intro text list
  have taken : TakenFor text list := takenFor_iff.mpr (by cbv)
  obtain ⟨-, -, -, -, back⟩ := what_the_cache_keeps_comes_back
  exact ⟨taken, (back text).2.2.2 list taken⟩

end Progression
