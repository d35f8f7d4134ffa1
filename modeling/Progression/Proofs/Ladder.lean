-- The ladder of levels. The store moves a character up one rung at a
-- time, and only from the rung where it stands, so every rung between
-- the first and the last is reached by one level-up and no other.
import Mathlib.Data.Int.ConditionallyCompleteOrder
import Mathlib.Order.Interval.Set.Defs
import Progression.Proofs.Failing
import Progression.Proofs.Stakes

namespace Progression

open Rehearsal

theorem Level.toInt_next? {l up : Level} (h : l.next? = some up) :
    up = l + 1 ∧ up.toInt = l.toInt + 1 := by
  have hl : l ≠ Int32.maxValue := by
    rintro rfl
    cases h
  rw [Level.next?_of_ne hl] at h
  cases h
  refine ⟨rfl, ?_⟩
  have hne : l.toInt ≠ Int32.maxValue.toInt := fun e => hl (Int32.toInt.inj e)
  have hmax : Int32.maxValue.toInt = 2147483647 := rfl
  have hone : (1 : Int32).toInt = 1 := rfl
  have hle := l.le_toInt
  have hlt := l.toInt_lt
  rw [Int32.toInt_add, hone, Int.bmod_eq_of_le] <;> omega

/-- A character that moves up takes the next level, and all others stay where they are. -/
theorem Rehearsal.World.StoreReply.climbs {w w' : World} {user : UserId} {fromLevel up : Level}
    (h : w.StoreReply (.incrementLevel user fromLevel) (.ok up) w')
    (hnext : ∃ next, fromLevel.next? = some next) :
    fromLevel.next? = some up ∧ up.toInt = fromLevel.toInt + 1 ∧ ∃ c,
      w.characters.get? user = some c ∧ c.level = fromLevel ∧
      ∀ u, w'.characters.get? u
        = if u = user then some { c with level := up } else w.characters.get? u := by
  obtain ⟨rfl, c, hc, hcur, rfl⟩ := h.increment
  obtain ⟨next, hnext⟩ := hnext
  obtain ⟨rfl, hone⟩ := Level.toInt_next? hnext
  exact ⟨hnext, hone, c, hc, hcur, fun u => Table.get?_put ..⟩

/-- Only a level-up that reaches a level changes the characters. -/
theorem characters_of_next {lifetimes : Lifetimes} {user : UserId} {s s' : LevelUp.Standing}
    {w w' : World} {c : Call} {reply : c.Reply} (hn : s.Next lifetimes user (.called c reply) s')
    (hw : w.Serves c reply w')
    (hm : ∀ fromLevel up, ¬ LevelUp.Standing.Moves user (.called c reply) fromLevel up) :
    w'.characters = w.characters := by
  cases c with
  | store c =>
    rcases hn.asks rfl with rfl | rfl | ⟨fromLevel, rfl⟩
    · rcases hw with ⟨-, rfl⟩ | ⟨-, rfl⟩ <;> rfl
    · rcases hw with ⟨-, rfl⟩ | ⟨-, rfl⟩ <;> rfl
    · cases reply with
      | ok up => exact absurd rfl (hm fromLevel up)
      | error => rw [World.StoreReply.stays hw]
  | cache c => rw [World.CacheReply.rest hw]
  | gateway => exact hw.1

namespace LevelUp

theorem Informed.next? {lifetimes : Lifetimes} {user : UserId} {ds : List Deed} {deal : Deal}
    (h : Informed lifetimes user ds deal) : ∃ up, deal.current.next? = some up := by
  obtain ⟨list, -, hp⟩ := h.price
  obtain ⟨up, hup, -⟩ := Option.bind_eq_some_iff.mp hp
  exact ⟨up, hup⟩

variable {ι : Type}

/-- The level-ups of a player that have reached a level, each with its level. -/
def climbs (users : ι → UserId) (reached : ι → Option (Deal × Level)) (u : UserId) :
    Set (ι × Level) :=
  {o | users o.1 = u ∧ ∃ deal, reached o.1 = some (deal, o.2)}

/-- What level-ups have reached, against what the store held at the start and holds now. -/
structure Ladder (start : World) (users : ι → UserId) (w : World)
    (reached : ι → Option (Deal × Level)) : Prop where
  absent : ∀ u, start.characters.get? u = none →
    w.characters.get? u = none ∧ climbs users reached u = ∅
  present : ∀ u c, start.characters.get? u = some c → ∃ top,
    w.characters.get? u = some { c with level := top } ∧ c.level ≤ top ∧
    (climbs users reached u).BijOn (fun o => o.2.toInt) (Set.Ioc c.level.toInt top.toInt)
  next : ∀ i deal up, reached i = some (deal, up) → deal.current.next? = some up

variable [DecidableEq ι] {start w w' : World} {users : ι → UserId}
  {reached : ι → Option (Deal × Level)} {i : ι} {deal : Deal} {up : Level}

omit [DecidableEq ι] in
theorem Ladder.foot (start : World) (users : ι → UserId) :
    Ladder start users start fun _ => none where
  absent u h := ⟨h, by simp [climbs]⟩
  present u c h := ⟨c.level, h, Int32.le_refl _, by simp [climbs]⟩
  next _ _ _ h := by cases h

omit [DecidableEq ι] in
theorem Ladder.frame (ladder : Ladder start users w reached)
    (h : w'.characters = w.characters) : Ladder start users w' reached where
  absent := h ▸ ladder.absent
  present := h ▸ ladder.present
  next := ladder.next

theorem climbs_update (hi : reached i = none) (u : UserId) :
    climbs users (Function.update reached i (some (deal, up))) u
      = if users i = u then insert (i, up) (climbs users reached u)
        else climbs users reached u := by
  ext ⟨j, level⟩
  by_cases hj : j = i
  · subst hj
    by_cases hu : users j = u
    · simp [climbs, hu, hi, eq_comm]
    · simp [climbs, hu]
  · by_cases hu : users i = u <;> simp [climbs, hu, hj]

/-- The one that moves a character up has the new rung for itself. -/
theorem Ladder.climb (ladder : Ladder start users w reached) (hi : reached i = none)
    (hnext : ∃ up, deal.current.next? = some up)
    (h : w.StoreReply (.incrementLevel (users i) deal.current) (.ok up) w') :
    Ladder start users w' (Function.update reached i (some (deal, up))) := by
  obtain ⟨hnext, hone, c, hc, hcur, hget⟩ := h.climbs hnext
  refine ⟨fun u hu => ?_, fun u c₀ hu => ?_, fun j deal' level hj => ?_⟩
  · obtain ⟨hw, hset⟩ := ladder.absent u hu
    have hne : u ≠ users i := by
      rintro rfl
      rw [hc] at hw
      cases hw
    rw [hget, if_neg hne, climbs_update hi, if_neg (Ne.symm hne)]
    exact ⟨hw, hset⟩
  · obtain ⟨top, hw, hle, hbij⟩ := ladder.present u c₀ hu
    by_cases hne : users i = u
    · subst hne
      have hsame : c = { c₀ with level := top } := Option.some.inj (hc.symm.trans hw)
      subst hsame
      obtain rfl : top = deal.current := hcur
      have hle' := Int32.le_iff_toInt_le.mp hle
      have hrung : insert up.toInt (Set.Ioc c₀.level.toInt deal.current.toInt)
          = Set.Ioc c₀.level.toInt up.toInt := by
        ext z
        simp only [Set.mem_insert_iff, Set.mem_Ioc]
        omega
      refine ⟨up, by rw [hget, if_pos rfl], ?_, ?_⟩
      · exact Int32.le_iff_toInt_le.mpr (by omega)
      · rw [climbs_update hi, if_pos rfl, ← hrung]
        exact hbij.insert (by simp [hone])
    · rw [hget, if_neg (Ne.symm hne), climbs_update hi, if_neg hne]
      exact ⟨top, hw, hle, hbij⟩
  · by_cases hji : j = i
    · subst hji
      rw [Function.update_self] at hj
      cases hj
      exact hnext
    · rw [Function.update_of_ne hji] at hj
      exact ladder.next j deal' level hj

/-- Each turn of a level-up keeps the ladder. -/
theorem Ladder.turn {lifetimes : Lifetimes} {stands : ι → Standing} {s' : Standing}
    {ds : List Deed} {c : Call} {reply : c.Reply}
    (ladder : Ladder start users w fun j => (stands j).reached)
    (hn : (stands i).Next lifetimes (users i) (.called c reply) s')
    (record : (stands i).Record lifetimes (users i) ds) (serves : w.Serves c reply w') :
    Ladder start users w' fun j => (Function.update stands i s' j).reached := by
  rw [Standing.reached_update]
  rcases hn.reached with ⟨deal, errand, up, hs, hnone, hm, hr⟩ | ⟨hr, hm⟩
  · rw [hs] at record
    cases hm
    rw [hr]
    exact ladder.climb hnone record.1.next? serves
  · rw [hr, Function.update_eq_self i fun j => (stands j).reached]
    exact ladder.frame (characters_of_next hn serves hm)

end LevelUp

end Progression
