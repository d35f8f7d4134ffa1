-- A level-up that meets a conflict. The character has left the level that
-- the cache knew; the coins that were reserved go back, the level leaves
-- the cache, and the player has what it had before.
import Progression.Proofs.Books
import Progression.Proofs.Ending

namespace Progression

open Rehearsal

/-! ## Collaborators that may fail -/

namespace Rehearsal.World

/-- The collaborators held in memory, each of which may fail. The store has changed nothing then;
what the cache or the gateway was told may have taken effect all the same. -/
def MayFail : Collaborators World
  | w, .store c, reply, w' => w.StoreReply c reply w'
  | w, .cache c, reply, w' => w.CacheReply c reply w'
  | w, .gateway c, reply, w' => reply = (w.gateway c).1 ∧ w' = (w.gateway c).2 ∨
    (∃ fault, reply = .error fault) ∧ (w' = w ∨ w' = (w.gateway c).2)

/-! ## What the players had before -/

/-- The characters and the accounts are as they were. -/
structure AsBefore (before w : World) : Prop where
  characters : ∀ user, w.characters.get? user = before.characters.get? user
  accounts : ∀ user, w.accounts.get? user = before.accounts.get? user

/-- The characters and the accounts are as they were, but for the coins of one reservation. -/
structure Reserving (before w : World) (payment : PaymentId) (r : Reservation) : Prop where
  characters : ∀ user, w.characters.get? user = before.characters.get? user
  accounts : ∀ user, w.accounts.get? user = (before.accounts.get? user).map fun a =>
    a.debit (if r.user = user then r.amount.toInt else 0)
  reserved : w.reserved.get? payment = some r

variable {before w w' : World} {payment : PaymentId} {r : Reservation}

theorem AsBefore.refl (w : World) : w.AsBefore w := ⟨fun _ => rfl, fun _ => rfl⟩

theorem AsBefore.cached {c : CacheCall} {reply : Except CacheFault c.Answer}
    (h : before.AsBefore w) (hr : w.MayFail (.cache c) reply w') : before.AsBefore w' := by
  rw [CacheReply.rest hr]
  exact ⟨h.characters, h.accounts⟩

/-- A question to the store changes nothing. -/
theorem AsBefore.stored {c : StoreCall} {reply : Except StoreFault c.Answer}
    (h : before.AsBefore w) (asks : ∀ w : World, (w.store c).2 = w)
    (hr : w.MayFail (.store c) reply w') : before.AsBefore w' := by
  rcases hr with ⟨-, rfl⟩ | ⟨-, rfl⟩
  · rw [asks w]
    exact h
  · exact h

/-- A question to the gateway changes nothing. -/
theorem AsBefore.asked {c : GatewayCall} {reply : Except PaymentFault c.Answer}
    (h : before.AsBefore w) (asks : ∀ w : World, (w.gateway c).2 = w)
    (hr : w.MayFail (.gateway c) reply w') : before.AsBefore w' := by
  rcases hr with ⟨-, rfl⟩ | ⟨-, rfl | rfl⟩
  · rw [asks w]
    exact h
  · exact h
  · rw [asks w]
    exact h

/-- An entry that has been dropped is gone. -/
theorem CacheReply.dropped {key : Key} (hr : CacheReply w (.invalidate key) (.ok ()) w') :
    w'.cache.get? key.text = none := by
  obtain ⟨v, -, ⟨-, rfl⟩ | ⟨⟨fault, hr⟩, -⟩⟩ := hr
  · exact Table.get?_erase_self v.cache key.text
  · cases hr

theorem AsBefore.reserve {user : UserId} {amount : Coins} (h : before.AsBefore w)
    (hr : w.MayFail (.gateway (.initiate user amount payment)) (.ok ()) w') :
    before.Reserving w' payment ⟨user, amount⟩ := by
  rcases hr with ⟨-, rfl⟩ | ⟨⟨fault, hr⟩, -⟩
  · constructor
    · exact h.characters
    · intro v
      rw [← h.accounts v]
      exact reserve_accounts w user v amount payment
    · show (w.reserve user amount payment).reserved.get? payment = _
      rw [reserve_reserved, if_pos rfl]
  · cases hr

/-- Coins that are given back are where they were before they were reserved. -/
theorem Reserving.released (h : before.Reserving w payment r)
    (hr : w.MayFail (.gateway (.finalize payment false)) (.ok ()) w') : before.AsBefore w' := by
  rcases hr with ⟨-, rfl⟩ | ⟨⟨fault, hr⟩, -⟩
  · constructor
    · intro user
      rw [gateway_rest]
      exact h.characters user
    · intro user
      show (w.settle payment false).accounts.get? user = _
      rw [settle_accounts h.reserved user, h.accounts user, Option.map_map]
      cases before.accounts.get? user with
      | none => rfl
      | some a =>
        by_cases hu : r.user = user
        · simp [hu, Account.debit_debit, Account.debit_zero]
        · simp [hu, Account.debit_zero]
  · cases hr

/-- No call to the gateway moves a character. -/
theorem MayFail.characters {c : GatewayCall} {reply : Except PaymentFault c.Answer}
    (hr : w.MayFail (.gateway c) reply w') : w'.characters = w.characters := by
  rcases hr with ⟨-, rfl⟩ | ⟨-, rfl | rfl⟩
  · rw [gateway_rest]
  · rfl
  · rw [gateway_rest]

end Rehearsal.World

namespace Reading.Next

variable {α : Type} [Coded α] {src : Source α} {r : Reading α} {r' : Reading α ⊕ Except Refusal α}
  {before w w' : World}

theorem ne_invalidate {d : Deed} (next : Next src r d r') (key : Key)
    (reply : Except CacheFault Unit) : d ≠ .called (.cache (.invalidate key)) reply := by
  cases next <;> simp

/-- A read leaves the characters and the accounts as they were, if the store is only asked. -/
theorem asBefore {c : Call} {reply : c.Reply} (next : Next src r (.called c reply) r')
    (asks : ∀ w : World, (w.store src.load).2 = w) (hr : w.MayFail c reply w')
    (h : before.AsBefore w) : before.AsBefore w' := by
  cases next with
  | hit | miss | kept => exact h.cached hr
  | loaded | unloaded => exact h.stored asks hr

end Reading.Next

/-- A refusal for a conflict has its cause in the store. -/
theorem Refusal.eq_of_levelMoved {fault cause : StoreFault}
    (h : Refusal.ofStore fault = .levelMoved cause) : fault = cause := by
  cases fault with
  | levelMoved => exact Refusal.levelMoved.inj h
  | _ => cases h

/-! ## The turns of a level-up that meets a conflict -/

namespace LevelUp.Standing

variable {lifetimes : Lifetimes} {user : UserId} {ds : List Deed} {d : Deed}

/-- The level has not been dropped from the cache. -/
def Undropped (user : UserId) (ds : List Deed) : Prop :=
  ∀ reply, .called (.cache (.invalidate (.level user))) reply ∉ ds

/-- The cache has been told to drop the level, and if it has done so the level is gone. -/
structure Dropped (user : UserId) (ds : List Deed) (w : World) : Prop where
  tried : ∃ reply, .called (.cache (.invalidate (.level user))) reply ∈ ds
  gone : .called (.cache (.invalidate (.level user))) (.ok ()) ∈ ds →
    w.cache.get? (Key.level user).text = none

/-- No release of coins has failed. -/
def Released (ds : List Deed) : Prop :=
  ∀ payment fault, .called (.gateway (.finalize payment false)) (.error fault) ∉ ds

/-- The characters are as they were, and the accounts too, unless a release has failed. -/
structure Restored (before : World) (ds : List Deed) (w : World) : Prop where
  characters : ∀ user, w.characters.get? user = before.characters.get? user
  accounts : Released ds → ∀ user, w.accounts.get? user = before.accounts.get? user

/-- What the players have at each standing that may still meet a conflict, and after one. -/
def Undone (before : World) (user : UserId) (ds : List Deed) (w : World) : Standing → Prop
  | .level _ | .prices _ _ | .funds .. | .commit _ .take | .commit _ (.reserve _)
  | .commit _ .advanceFree => before.AsBefore w ∧ Undropped user ds
  | .commit deal (.advance payment) =>
    before.Reserving w payment ⟨user, deal.path.amount⟩ ∧ Undropped user ds
  | .commit deal (.release payment refusal) =>
    (∀ cause, refusal = .levelMoved cause →
      before.Reserving w payment ⟨user, deal.path.amount⟩) ∧ Undropped user ds
  | .commit _ (.dropLevel _) => Restored before ds w ∧ Undropped user ds
  | .settled _ (.error (.levelMoved _)) => Restored before ds w ∧ Dropped user ds w
  | .refused refusal => before.AsBefore w ∧ Undropped user ds ∧
    ∀ cause, refusal = .levelMoved cause → .called (.store .allPrices) (.error cause) ∈ ds
  | _ => True

theorem Undropped.snoc (h : Undropped user ds)
    (hd : ∀ reply, d ≠ .called (.cache (.invalidate (.level user))) reply) :
    Undropped user (ds ++ [d]) := by
  intro reply hm
  rcases List.mem_append.mp hm with hm | hm
  · exact h reply hm
  · exact hd reply (List.mem_singleton.mp hm).symm

section Undone

variable {before w w' : World} {current : Level} {price : LevelPrice}

theorem restored_of_asBefore (h : before.AsBefore w) : Restored before ds w :=
  ⟨h.characters, fun _ => h.accounts⟩

theorem restored_of_release {payment : PaymentId} {r : Reservation}
    {reply : Except PaymentFault Unit} (h : before.Reserving w payment r)
    (hr : w.MayFail (.gateway (.finalize payment false)) reply w') :
    Restored before (ds ++ [.called (.gateway (.finalize payment false)) reply]) w' where
  characters v := by
    rw [World.MayFail.characters hr]
    exact h.characters v
  accounts released := by
    rcases reply with fault | _
    · exact absurd (by simp) (released payment fault)
    · exact (h.released hr).accounts

theorem Restored.cached {c : CacheCall} {reply : Except CacheFault c.Answer}
    (h : Restored before ds w) (hr : w.MayFail (.cache c) reply w') :
    Restored before (ds ++ [.called (.cache c) reply]) w' := by
  rw [World.CacheReply.rest hr]
  refine ⟨h.characters, fun released => h.accounts ?_⟩
  intro payment fault hm
  exact released payment fault (List.mem_append_left _ hm)

theorem undone_ofLevel {r : Reading Level ⊕ Except Refusal Level} (h : before.AsBefore w)
    (hd : Undropped user ds) : (ofLevel r).Undone before user ds w := by
  rcases r with reading | (refusal | current)
  · exact ⟨h, hd⟩
  · exact ⟨h, hd, nofun⟩
  · exact ⟨h, hd⟩

theorem undone_ofPriceReading {r : Reading PriceList ⊕ Except Refusal PriceList}
    (h : before.AsBefore w) (hd : Undropped user ds)
    (hr : ∀ cause, r = .inr (.error (.levelMoved cause)) →
      .called (.store .allPrices) (.error cause) ∈ ds) :
    (ofPriceReading current r).Undone before user ds w := by
  rcases r with reading | (refusal | list)
  · exact ⟨h, hd⟩
  · refine ⟨h, hd, ?_⟩
    rintro cause rfl
    exact hr cause rfl
  · exact ofPrices_cases (fun _ => trivial) (fun _ _ _ => ⟨h, hd, nofun⟩) fun _ _ => ⟨h, hd⟩

theorem undone_ofAnswers {balance : Option Coins} {referrals : Option Referrals}
    (h : before.AsBefore w) (hd : Undropped user ds) :
    (ofAnswers current price balance referrals).Undone before user ds w := by
  apply ofAnswers_cases (P := Undone before user ds w)
  · exact ⟨h, hd⟩
  · exact fun _ _ => ⟨h, hd, nofun⟩
  · rintro deal errand - - (rfl | rfl) <;> exact ⟨h, hd⟩

theorem undone_ofRefusal {deal : Deal} {refusal : Refusal}
    (h : ∀ cause, refusal = .levelMoved cause → Restored before ds w)
    (hd : Undropped user ds) : (ofResult deal (.error refusal)).Undone before user ds w := by
  cases refusal with
  | levelMoved cause => exact ⟨h cause rfl, hd⟩
  | _ => trivial

/-- Every call keeps what the players have in line with where the level-up stands. -/
theorem Next.undone {s s' : Standing} {c : Call} {reply : c.Reply}
    (h : Next lifetimes user s (.called c reply) s') (hr : w.MayFail c reply w')
    (hu : s.Undone before user ds w) : s'.Undone before user (ds ++ [.called c reply]) w' := by
  cases h with
  | readLevel next =>
    have hd := hu.2.snoc (next.ne_invalidate (.level user))
    exact undone_ofLevel (next.asBefore (fun _ => rfl) hr hu.1) hd
  | readPrices next =>
    have hd := hu.2.snoc (next.ne_invalidate (.level user))
    apply undone_ofPriceReading (next.asBefore (fun _ => rfl) hr hu.1) hd
    rintro cause rfl
    obtain ⟨fault, hf, hd⟩ := next.refused
    cases Refusal.eq_of_levelMoved hf.symm
    exact List.mem_append_right _ (List.mem_singleton.mpr hd.symm)
  | balance | referrals =>
    exact undone_ofAnswers (hu.1.asked (fun _ => rfl) hr) (hu.2.snoc nofun)
  | noBalance | noReferrals => exact ⟨hu.1.asked (fun _ => rfl) hr, hu.2.snoc nofun, nofun⟩
  | reserved => exact ⟨hu.1.reserve hr, hu.2.snoc nofun⟩
  | doubtful => exact ⟨nofun, hu.2.snoc nofun⟩
  | stayed fault =>
    rw [World.StoreReply.stays hr]
    exact ⟨fun _ _ => hu.1, hu.2.snoc nofun⟩
  | released reply =>
    apply undone_ofRefusal
    · intro cause hc
      exact restored_of_release (hu.1 cause hc) hr
    · exact hu.2.snoc nofun
  | stayedFree fault =>
    rw [World.StoreReply.stays hr]
    exact undone_ofRefusal (fun _ _ => restored_of_asBefore hu.1) (hu.2.snoc nofun)
  | droppedLevel reply =>
    refine ⟨hu.1.cached hr, ⟨reply, by simp⟩, ?_⟩
    intro hm
    rcases List.mem_append.mp hm with hm | hm
    · exact absurd hm (hu.2 _)
    · cases List.mem_singleton.mp hm
      exact World.CacheReply.dropped hr
  | rejected | advanced | spent | advancedFree | kept | droppedProfile => trivial

/-- A payment id changes nothing of that. -/
theorem Next.undone_took {s s' : Standing} {payment : PaymentId}
    (h : Next lifetimes user s (.took payment) s') (hu : s.Undone before user ds w) :
    s'.Undone before user (ds ++ [.took payment]) w := by
  cases h with
  | readLevel next => nomatch next
  | readPrices next => nomatch next
  | take => exact ⟨hu.1, hu.2.snoc nofun⟩

end Undone

/-- A level-up that has refused has settled, or it has not come to its commit. -/
theorem refused_of_done {s : Standing} {refusal : Refusal}
    (h : s.plan lifetimes user = .done (.error refusal)) :
    (∃ deal, s = .settled deal (.error refusal)) ∨ s = .refused refusal := by
  have ended : (s.plan lifetimes user).Over := by
    rw [h]
    trivial
  rcases over_cases ended with ⟨deal, refusal' | gain, rfl⟩ | ⟨refusal', rfl⟩ | rfl
  · cases h
    exact .inl ⟨deal, rfl⟩
  · simp only [Standing.plan, report] at h
    split at h <;> cases h
  · cases h
    exact .inr rfl
  · cases h

end LevelUp.Standing

open LevelUp in
/-- What each turn of a level-up on its own keeps is kept by its run. -/
theorem System.Run.levelUp_alone {σ : Type} {col : Collaborators σ} {lifetimes : Lifetimes}
    {user : UserId} {world : σ} {taken : Set PaymentId} {h : History Unit}
    {t : System σ fun _ : Unit => Except Refusal Json}
    (run : Run col (asking lifetimes (fun _ => .levelUp user) world taken) h t)
    (Good : List Deed → Standing → σ → Prop) (start : Good [] (.level .asking) world)
    (called : ∀ {ds : List Deed} {s s' : Standing} {c : Call} {reply : c.Reply} {w w' : σ},
      Good ds s w → s.Next lifetimes user (.called c reply) s' → col w c reply w' →
        Good (ds ++ [.called c reply]) s' w')
    (took : ∀ {ds : List Deed} {s s' : Standing} {payment : PaymentId} {w : σ},
      Good ds s w → s.Next lifetimes user (.took payment) s' →
        Good (ds ++ [.took payment]) s' w) :
    ∃ s : Standing, t.plans () = (s.plan lifetimes user).map (Except.map LevelUpOutcome.summary) ∧
      Good (h.of ()) s t.world := by
  refine run.alone (fun ds p w => ∃ s : Standing,
    p = (s.plan lifetimes user).map (Except.map LevelUpOutcome.summary) ∧ Good ds s w) ?_ ?_ ?_
  · refine ⟨.level .asking, ?_, start⟩
    simp only [asking, Question.plan, Standing.levelUp_eq]
  · rintro ds _ q c reply w w' ⟨s, rfl, good⟩ step hr
    obtain ⟨_, turn, rfl⟩ := step.of_map
    obtain ⟨s', next, rfl⟩ := Standing.next_of_step turn
    exact ⟨s', rfl, called good next hr⟩
  · rintro ds _ q payment w ⟨s, rfl, good⟩ step
    obtain ⟨_, turn, rfl⟩ := step.of_map
    obtain ⟨s', next, rfl⟩ := Standing.next_of_step turn
    exact ⟨s', rfl, took good next⟩

/-- A level-up that is refused for a conflict leaves the players what they had, and has told the
cache to drop the level, unless the store called it a conflict that the prices were asked for. -/
theorem System.Run.conflict {lifetimes : Lifetimes} {user : UserId} {world : World}
    {taken : Set PaymentId} {h : History Unit}
    {t : System World fun _ : Unit => Except Refusal Json} {cause : StoreFault}
    (run : Run World.MayFail (asking lifetimes (fun _ => .levelUp user) world taken) h t)
    (refused : t.plans () = .done (.error (.levelMoved cause))) :
    LevelUp.Standing.Restored world (h.of ()) t.world ∧
      (LevelUp.Standing.Dropped user (h.of ()) t.world ∨
        .called (.store .allPrices) (.error cause) ∈ h.of () ∧
          LevelUp.Standing.Undropped user (h.of ())) := by
  obtain ⟨s, hp, undone⟩ := run.levelUp_alone (fun ds s w => s.Undone world user ds w)
    ⟨.refl world, fun _ => List.not_mem_nil⟩ (fun hu next hr => next.undone hr hu)
    fun hu next => next.undone_took hu
  obtain ⟨result, hs, hr⟩ := Plan.of_map_done (hp.symm.trans refused)
  rcases result with refusal | o
  · cases hr
    rcases LevelUp.Standing.refused_of_done hs with ⟨deal, rfl⟩ | rfl
    · exact ⟨undone.1, .inl undone.2⟩
    · obtain ⟨asBefore, undropped, blames⟩ := undone
      exact ⟨LevelUp.Standing.restored_of_asBefore asBefore, .inr ⟨blames cause rfl, undropped⟩⟩
  · cases hr

end Progression
