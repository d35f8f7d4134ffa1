-- The price of a level. A price list is in the order of its levels, and the
-- prices of one level stay in the order in which the store names them; so
-- the first of them counts, whether the list is new or was kept as text.
import Mathlib.Data.List.Basic
import Progression.Proofs.CacheRoundTrip
import Progression.Proofs.Ending
import Progression.Proofs.Telling
import Progression.Proofs.Way

namespace Progression

/-! ## Lists in order of levels -/

/-- The price is the first one of its level. -/
def FirstPrice (prices : List LevelPrice) (level : Level) (price : LevelPrice) : Prop :=
  price.level = level ∧
    ∃ before after, prices = before ++ price :: after ∧ ∀ p ∈ before, p.level ≠ level

namespace PriceList

/-- Who looks a level up in the list finds the first of its prices, and nothing only if none of
the prices is of that level. -/
def Quotes (list : PriceList) (prices : List LevelPrice) : Prop :=
  ∀ level, (∀ price, list.priceFor? level = some price ↔ FirstPrice prices level price) ∧
    (list.priceFor? level = none ↔ ∀ p ∈ prices, p.level ≠ level)

/-- The order of a price list. -/
def inOrder (a b : LevelPrice) : Bool := decide (a.level ≤ b.level)

theorem inOrder_trans (a b c : LevelPrice) (hab : inOrder a b = true) (hbc : inOrder b c = true) :
    inOrder a c = true := by
  simp only [inOrder, decide_eq_true_eq] at *
  exact Int32.le_trans hab hbc

theorem inOrder_total (a b : LevelPrice) : (inOrder a b || inOrder b a) = true := by
  simpa [inOrder] using Int32.le_total a.level b.level

variable (prices : List LevelPrice)

theorem perm_ofPrices : (ofPrices prices).prices.Perm prices := List.mergeSort_perm ..

theorem ascending_ofPrices : (ofPrices prices).prices.Pairwise (·.level ≤ ·.level) :=
  (List.pairwise_mergeSort inOrder_trans inOrder_total prices).imp of_decide_eq_true

/-- The prices of one level are in the list as they were named. -/
theorem filter_ofPrices (level : Level) :
    (ofPrices prices).prices.filter (·.level == level)
      = prices.filter (·.level == level) := by
  have sorted : (prices.filter (·.level == level)).Pairwise (inOrder · ·) := by
    refine List.pairwise_of_forall_mem_list fun a ha b hb => ?_
    have hal : a.level = level := by simpa using (List.mem_filter.mp ha).2
    have hbl : b.level = level := by simpa using (List.mem_filter.mp hb).2
    simp [inOrder, hal, hbl]
  have kept : (prices.filter (·.level == level)).Sublist (ofPrices prices).prices :=
    List.sublist_mergeSort inOrder_trans inOrder_total sorted List.filter_sublist
  have inside := kept.filter (·.level == level)
  rw [List.filter_filter] at inside
  simp only [Bool.and_self] at inside
  exact (inside.eq_of_length ((perm_ofPrices prices).filter _).length_eq.symm).symm

theorem priceFor?_ofPrices (level : Level) :
    (ofPrices prices).priceFor? level = prices.find? (·.level == level) := by
  unfold priceFor?
  rw [← List.head?_filter, filter_ofPrices, List.head?_filter]

theorem quotes_ofPrices : (ofPrices prices).Quotes prices := by
  intro level
  rw [priceFor?_ofPrices]
  refine ⟨fun price => ?_, ?_⟩
  · rw [List.find?_eq_some_iff_append]
    simp [FirstPrice]
  · simp

end PriceList

/-! ## The question for the prices -/

section Reads

variable {α : Type} [Coded α] {src : Source α} {deeds : List Deed}

/-- Whatever a read has done, it goes on with what it has learnt. -/
theorem Source.learnt_of_steps {q : Plan (Except Refusal α)} (steps : src.read.Steps deeds q) :
    ∃ r, q = Reading.planOr src r ∧ src.Learnt deeds (Reading.value? r) :=
  Reading.of_steps (fun ds r => src.Learnt ds (Reading.value? r)) src.learnt_nil
    (fun _ _ _ _ learnt next => next.learnt learnt) steps

/-- A read that has been told a value and has ended answers with that value. -/
theorem Source.answer_of_told {result : Except Refusal α} {a : α}
    (steps : src.read.Steps deeds (.done result)) (told : src.Told deeds a) : result = .ok a := by
  obtain ⟨r, hr, learnt⟩ := learnt_of_steps steps
  have known := learnt.eq_of_told told
  rcases r with (_ | _ | _) | result'
  · cases hr
  · cases hr
  · cases hr
  · cases hr
    rcases result with refusal | b
    · cases known
    · cases known
      rfl

end Reads

/-- In these deeds the store has named the prices, or the cache has given the text of their
list. -/
def PricesTold (prices : List LevelPrice) (deeds : List Deed) : Prop :=
  .called (.store .allPrices) (.ok prices) ∈ deeds ∨
    ∃ text, WrittenAs (PriceList.ofPrices prices) text ∧
      .called (.cache (.get .prices)) (.ok (some text)) ∈ deeds

theorem PricesTold.told {prices : List LevelPrice} {deeds : List Deed}
    (h : PricesTold prices deeds) (lifetimes : Lifetimes) :
    (Source.prices lifetimes).Told deeds (PriceList.ofPrices prices) := by
  rcases h with told | ⟨text, written, found⟩
  · exact .inr ⟨prices, told, rfl⟩
  · rw [writtenAs_iff.mp written] at found
    exact .inl ⟨_, found, (kept_priceList _).decodeText?⟩

namespace Service

variable (lifetimes : Lifetimes) (prices : List LevelPrice)

/-- The cache knows the prices. -/
theorem prices_hit {text : String} (written : WrittenAs (PriceList.ofPrices prices) text) :
    (Service.prices lifetimes).Steps [.called (.cache (.get .prices)) (.ok (some text))]
      (.done (.ok (PriceList.ofPrices prices))) := by
  rw [writtenAs_iff.mp written]
  have way : Reading.Way (.prices lifetimes) _ (.inr (.ok (PriceList.ofPrices prices))) :=
    .hit (kept_priceList _).decodeText?
  exact way.steps

/-- The cache has no prices that can be used, so the store is asked for them. -/
theorem prices_miss {reply : Except CacheFault (Option String)}
    (useless : ∀ text, reply = .ok (some text) → decodeText? (α := PriceList) text = none)
    (stored : Except CacheFault Unit) :
    (Service.prices lifetimes).Steps
      [.called (.cache (.get .prices)) reply, .called (.store .allPrices) (.ok prices),
        .called (.cache (.set .prices (encodeText (PriceList.ofPrices prices)) lifetimes.prices))
          stored]
      (.done (.ok (PriceList.ofPrices prices))) := by
  have way := @Reading.Way.kept PriceList _ (.prices lifetimes) reply useless prices stored
  exact way.steps

end Service

/-! ## The law -/

/-- However the store names its prices, the list of them is in order of levels, and the prices of
one level stay as they were named. A look-up finds the first price of a level, in the list itself
and in what comes back of it from the cache. The question for the prices comes to an answer if the
cache has the text of the list, and if the store has to be asked; and whoever has been told the
prices in the one way or the other looks up the same. -/
theorem a_level_costs_what_was_named_first (prices : List LevelPrice) :
    let list := PriceList.ofPrices prices
    list.prices.Perm prices ∧ list.prices.Pairwise (·.level ≤ ·.level) ∧
    (∀ level, list.prices.filter (·.level == level) = prices.filter (·.level == level)) ∧
    list.Quotes prices ∧
    (∃ kept, ComesBackAs list kept) ∧ (∀ kept, ComesBackAs list kept → kept.Quotes prices) ∧
    ∀ lifetimes,
      (∀ text, WrittenAs list text → ∃ found, (Service.prices lifetimes).Steps
        [.called (.cache (.get .prices)) (.ok (some text))] (.done (.ok found))) ∧
      (∀ (reply : Except CacheFault (Option String)) (stored : Except CacheFault Unit),
        (∀ text, reply = .ok (some text) → ∀ other : PriceList, ¬ TakenFor text other) →
        ∃ text found, WrittenAs list text ∧ (Service.prices lifetimes).Steps
          [.called (.cache (.get .prices)) reply, .called (.store .allPrices) (.ok prices),
            .called (.cache (.set .prices text lifetimes.prices)) stored] (.done (.ok found))) ∧
      ∀ deeds result, (Service.prices lifetimes).Steps deeds (.done result) →
        PricesTold prices deeds → ∃ found, result = .ok found ∧ found.Quotes prices := by
  intro list
  have quotes := PriceList.quotes_ofPrices prices
  have back := (kept_priceList list).comesBack
  refine ⟨PriceList.perm_ofPrices prices, PriceList.ascending_ofPrices prices,
    PriceList.filter_ofPrices prices, quotes, ⟨list, back⟩, ?_, fun lifetimes => ⟨?_, ?_, ?_⟩⟩
  · intro kept comesBack
    rw [comesBackAs_iff, comesBackAs_iff.mp back] at comesBack
    cases comesBack
    exact quotes
  · intro text written
    exact ⟨list, Service.prices_hit lifetimes prices written⟩
  · intro reply stored useless
    refine ⟨encodeText list, list, writtenAs_iff.mpr rfl,
      Service.prices_miss lifetimes prices (fun text ht => ?_) stored⟩
    refine Option.eq_none_iff_forall_ne_some.mpr fun other ho => ?_
    exact useless text ht other (takenFor_iff.mpr ho)
  · intro deeds result steps told
    rw [Service.prices_eq] at steps
    exact ⟨list, Source.answer_of_told steps (told.told lifetimes), quotes⟩

/-- Two prices of level 2, the dearer one named first: it is what level 2 costs, whether the store
or the cache has told the prices. -/
theorem the_dearer_price_was_named_first :
    let dear : LevelPrice := ⟨2, 100, 1, 3⟩
    let prices : List LevelPrice := [dear, ⟨1, 0, 1, 0⟩, ⟨2, 50, 1, 3⟩]
    let lifetimes : Lifetimes := ⟨.ofSeconds 300, .ofSeconds 3600⟩
    ∃ text loaded found,
      (Service.prices lifetimes).Steps
        [.called (.cache (.get .prices)) (.ok none), .called (.store .allPrices) (.ok prices),
          .called (.cache (.set .prices text lifetimes.prices)) (.ok ())] (.done (.ok loaded)) ∧
      (Service.prices lifetimes).Steps [.called (.cache (.get .prices)) (.ok (some text))]
        (.done (.ok found)) ∧
      loaded.priceFor? 2 = some dear ∧ found.priceFor? 2 = some dear ∧
      loaded.priceFor? 3 = none ∧ found.priceFor? 3 = none := by
  intro dear prices lifetimes
  obtain ⟨-, -, -, -, -, -, law⟩ := a_level_costs_what_was_named_first prices
  obtain ⟨hit, miss, quotes⟩ := law lifetimes
  obtain ⟨text, loaded, written, missed⟩ := miss (.ok none) (.ok ()) nofun
  obtain ⟨found, stepsHit⟩ := hit text written
  obtain ⟨_, ⟨⟩, ofLoaded⟩ := quotes _ _ missed (.inl (by simp))
  obtain ⟨_, ⟨⟩, ofFound⟩ := quotes _ _ stepsHit (.inr ⟨text, written, by simp⟩)
  have first : FirstPrice prices 2 dear := ⟨rfl, [], _, rfl, nofun⟩
  have none : ∀ p ∈ prices, p.level ≠ 3 := by decide
  exact ⟨text, loaded, found, missed, stepsHit, ((ofLoaded 2).1 dear).mpr first,
    ((ofFound 2).1 dear).mpr first, (ofLoaded 3).2.mpr none, (ofFound 3).2.mpr none⟩

end Progression
