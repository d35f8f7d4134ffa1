-- What level-ups side by side keep whatever the gateway does: the record
-- of each, the price lists that can be had, and the ladder of levels.
import Progression.Proofs.Ladder

namespace Progression.LevelUp

open Rehearsal

variable {ι : Type} [DecidableEq ι]

/-- Level-ups after some turns, over a store and a cache. All price lists are of one kind. -/
structure Course (lifetimes : Lifetimes) (kind : PriceList → Prop) (start : World)
    (users : ι → UserId) (h : History ι) (w : World) (stands : ι → Standing) : Prop where
  record : ∀ i, (stands i).Record lifetimes (users i) (h.of i)
  offers : w.Offers kind
  told : ∀ i list, (Source.prices lifetimes).Told (h.of i) list → kind list
  ladder : Ladder start users w fun i => (stands i).reached

namespace Course

variable {lifetimes : Lifetimes} {kind : PriceList → Prop} {start w w' : World}
  {users : ι → UserId} {h : History ι} {stands : ι → Standing} {i : ι} {s' : Standing} {d : Deed}

theorem opening (offers : start.Offers kind) :
    Course lifetimes kind start users [] start fun _ => .level .asking where
  record i := ⟨rfl, trivial⟩
  offers := offers
  told i list ht := by rcases ht with ⟨_, ht, _⟩ | ⟨_, ht, _⟩ <;> cases ht
  ladder := .foot start users

/-- A turn of one level-up keeps the records of all. -/
theorem records (course : Course lifetimes kind start users h w stands)
    (hn : (stands i).Next lifetimes (users i) d s') (j : ι) :
    (Function.update stands i s' j).Record lifetimes (users j) (History.of (h ++ [(i, d)]) j) := by
  by_cases hj : j = i
  · subst hj
    rw [Function.update_self, History.of_snoc_self]
    exact hn.record (course.record j)
  · rw [Function.update_of_ne hj, History.of_snoc_of_ne (Ne.symm hj)]
    exact course.record j

/-- What one party is told, the others have not heard. -/
theorem told_turn {α : Type} [Coded α] (src : ι → Source α) {good : ι → α → Prop}
    (old : ∀ j a, (src j).Told (h.of j) a → good j a)
    (mine : ∀ a, (src i).Told (h.of i ++ [d]) a → good i a) (j : ι) (a : α)
    (ht : (src j).Told (History.of (h ++ [(i, d)]) j) a) : good j a := by
  by_cases hj : j = i
  · subst hj
    rw [History.of_snoc_self] at ht
    exact mine a ht
  · rw [History.of_snoc_of_ne (Ne.symm hj)] at ht
    exact old j a ht

/-- Each call of a level-up keeps all of it. -/
theorem called {c : Call} {reply : c.Reply} (course : Course lifetimes kind start users h w stands)
    (hn : (stands i).Next lifetimes (users i) (.called c reply) s') (serves : w.Serves c reply w') :
    Course lifetimes kind start users (h ++ [(i, .called c reply)]) w'
      (Function.update stands i s') where
  record := course.records hn
  offers := by
    refine course.offers.next serves fun text lifetime list hc hd => ?_
    subst hc
    obtain ⟨kept, rfl, ht⟩ := hn.wrote_prices (course.record i) rfl
    rw [(kept_priceList kept).decodeText?] at hd
    cases hd
    exact course.told i list ht
  told := told_turn (fun _ => .prices lifetimes) course.told
    fun _ => course.offers.told serves (course.told i)
  ladder := course.ladder.turn hn (course.record i) serves

theorem took {payment : PaymentId} (course : Course lifetimes kind start users h w stands)
    (hn : (stands i).Next lifetimes (users i) (.took payment) s') :
    Course lifetimes kind start users (h ++ [(i, .took payment)]) w
      (Function.update stands i s') where
  record := course.records hn
  offers := course.offers
  told := told_turn (fun _ => .prices lifetimes) course.told
    fun list ht => course.told i list ht.of_took
  ladder := by
    obtain ⟨deal, hs, rfl⟩ := hn.takes rfl
    have same : (Standing.commit deal (.reserve payment)).reached = (stands i).reached := by
      rw [hs]
      rfl
    rw [Standing.reached_update, same, Function.update_eq_self i fun j => (stands j).reached]
    exact course.ladder

end Course

end Progression.LevelUp

namespace Progression

open Rehearsal

/-- The character of one player, who can pay for the second level. -/
def aPlayer : World where
  characters := .ofList [(7, ⟨1, 1⟩)]
  accounts := .ofList [(7, ⟨150, 0⟩)]
  reserved := .empty
  cache := .ofList [("level:7", "1"), ("level-prices", "[[[2,100,0,5]]]")]
  prices := [⟨2, 100, 0, 5⟩]
  skins := []

/-- The cache knows the level of this player and the prices. -/
theorem aPlayer_entry {key : Key} {text : String} (h : aPlayer.cache.get? key.text = some text) :
    key = .level 7 ∧ text = "1" ∨ key = .prices ∧ text = "[[[2,100,0,5]]]" := by
  have prices : "level-prices" = Key.prices.text := rfl
  have level : "level:7" = (Key.level 7).text := rfl
  simp only [aPlayer, Table.ofList, List.foldl, Table.get?_put] at h
  by_cases hp : key.text = "level-prices"
  · rw [if_pos hp] at h
    cases h
    exact .inr ⟨Key.text_inj (hp.trans prices), rfl⟩
  · rw [if_neg hp] at h
    by_cases hl : key.text = "level:7"
    · rw [if_pos hl] at h
      cases h
      exact .inl ⟨Key.text_inj (hl.trans level), rfl⟩
    · rw [if_neg hl] at h
      cases h
end Progression
