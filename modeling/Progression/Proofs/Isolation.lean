-- Players do not meet. What the service does for one player names no
-- other, touches nothing that belongs to another and does not depend on
-- it, whatever the collaborators reply and whether or not they did what
-- they were asked.
import Progression.Proofs.Books
import Progression.Proofs.Course
import Progression.Proofs.Purchase

namespace Progression

/-! ## Whose a call is -/

/-- The player whose entry it is. -/
def Key.user? : Key → Option UserId
  | .level user | .profile user => some user
  | .skins | .prices => none

def StoreCall.user? : StoreCall → Option UserId
  | .createCharacter user | .characterLevel user | .characterProfile user => some user
  | .incrementLevel user _ | .setActiveSkin user _ => some user
  | .allSkins | .allPrices => none

def CacheCall.user? : CacheCall → Option UserId
  | .get key | .set key .. | .invalidate key => key.user?

/-- The player that is named. A settlement names a payment only. -/
def GatewayCall.user? : GatewayCall → Option UserId
  | .balance user | .referrals user | .initiate user .. => some user
  | .finalize .. => none

/-- The player that a call names, or whose entry it is about. -/
def Call.user? : Call → Option UserId
  | .store c => c.user?
  | .cache c => c.user?
  | .gateway c => c.user?

def Deed.user? : Deed → Option UserId
  | .called c _ => c.user?
  | .took _ => none

/-- The player that a question is about. -/
def Rehearsal.Question.user? : Rehearsal.Question → Option UserId
  | .create user | .level user | .profile user | .skins user => some user
  | .changeSkin user _ | .levelUp user => some user
  | .prices => none

/-- This player is named, or nobody. -/
def Names (user named : Option UserId) : Prop := named = none ∨ named = user

theorem Names.ne {user named : Option UserId} {stranger : UserId} (h : Names user named)
    (other : user ≠ some stranger) : named ≠ some stranger := by
  rcases h with rfl | rfl
  · nofun
  · exact other

/-! ## Nobody else is named -/

variable {lifetimes : Lifetimes} {user : UserId}

/-- A question that is no level-up names its player only. -/
theorem Rehearsal.Question.Calls.names {q : Rehearsal.Question} {c : Call} (h : q.Calls c) :
    Names q.user? c.user? := by
  induction h with
  | create | wear | drop => exact .inr rfl
  | level read | profile read | player read => cases read <;> exact .inr rfl
  | prices read | catalogue read => cases read <;> exact .inl rfl
  | look _ ih => exact ih

/-- A turn of a read names whose entry it is, or whom it loads. -/
theorem Reading.Next.names {α : Type} [Coded α] {src : Source α} {r : Reading α} {d : Deed}
    {r' : Reading α ⊕ Except Refusal α} (h : Next src r d r') {user : Option UserId}
    (entry : Names user src.key.user?) (load : Names user src.load.user?) :
    Names user d.user? := by
  cases h with
  | hit | miss | kept => exact entry
  | loaded | unloaded => exact load

/-- A turn of a level-up names its player only. -/
theorem LevelUp.Standing.Next.names {s s' : Standing} {d : Deed}
    (h : Next lifetimes user s d s') : Names (some user) d.user? := by
  cases h with
  | readLevel next => exact next.names (.inr rfl) (.inr rfl)
  | readPrices next => exact next.names (.inl rfl) (.inl rfl)
  | take | released | spent => exact .inl rfl
  | _ => exact .inr rfl

/-- A party names the player that it asks about, and nobody else. -/
theorem System.Run.names {σ ι : Type} [DecidableEq ι] {col : Collaborators σ}
    {asks : ι → Rehearsal.Question} {world : σ} {taken : Set PaymentId} {h : History ι}
    {t : System σ fun _ : ι => Except Refusal Json} {i : ι} {d : Deed}
    (run : Run col (asking lifetimes asks world taken) h t) (hd : (i, d) ∈ h) :
    Names (asks i).user? d.user? := by
  by_cases hi : ∃ user, asks i = .levelUp user
  · obtain ⟨user, hi⟩ := hi
    obtain ⟨before, after, rfl⟩ := List.append_of_mem hd
    obtain ⟨u, v, run, turn⟩ := run.turn_at
    obtain ⟨s, hp, -⟩ := run.standing hi
    obtain ⟨p, step, -⟩ := (hp ▸ turn.step).of_map
    obtain ⟨s', next, -⟩ := LevelUp.Standing.next_of_step step
    rw [hi]
    exact next.names
  · have calls := (run.only (i := i) (Rehearsal.Question.only lifetimes (not_exists.mp hi))).2
    obtain ⟨c, reply, rfl, hc⟩ := calls d (History.mem_of.mpr hd)
    exact hc.names

namespace Rehearsal.World

/-! ## What belongs to whom -/

/-- Two worlds hold the same of what belongs to these. The character, the account, the reservations
and the two entries of the cache belong to a player; all the rest belongs to nobody. -/
structure Same (whose : Option UserId → Prop) (w w' : World) : Prop where
  characters : ∀ user, whose (some user) → w'.characters.get? user = w.characters.get? user
  accounts : ∀ user, whose (some user) → w'.accounts.get? user = w.accounts.get? user
  reserved : ∀ payment r, whose (some r.user) →
    (w'.reserved.get? payment = some r ↔ w.reserved.get? payment = some r)
  /-- A text that names no entry at all is among these, too. -/
  entries : ∀ text, (∀ key : Key, key.text = text → whose key.user?) →
    w'.cache.get? text = w.cache.get? text
  prices : whose none → w'.prices = w.prices
  skins : whose none → w'.skins = w.skins

/-- What belongs to this player is the same. -/
abbrev SameFor (user : UserId) : World → World → Prop := Same (· = some user)

/-- All that belongs to others, or to nobody, is the same. -/
abbrev SameApartFrom (user : UserId) : World → World → Prop := Same (· ≠ some user)

variable {whose : Option UserId → Prop} {u v w w' : World}

theorem Same.refl (w : World) : w.Same whose w where
  characters _ _ := rfl
  accounts _ _ := rfl
  reserved _ _ _ := .rfl
  entries _ _ := rfl
  prices _ := rfl
  skins _ := rfl

theorem Same.symm (h : w.Same whose w') : w'.Same whose w where
  characters user hu := (h.characters user hu).symm
  accounts user hu := (h.accounts user hu).symm
  reserved payment r hr := (h.reserved payment r hr).symm
  entries text ht := (h.entries text ht).symm
  prices hn := (h.prices hn).symm
  skins hn := (h.skins hn).symm

theorem Same.trans (h : u.Same whose v) (h' : v.Same whose w) : u.Same whose w where
  characters user hu := (h'.characters user hu).trans (h.characters user hu)
  accounts user hu := (h'.accounts user hu).trans (h.accounts user hu)
  reserved payment r hr := (h'.reserved payment r hr).trans (h.reserved payment r hr)
  entries text ht := (h'.entries text ht).trans (h.entries text ht)
  prices hn := (h'.prices hn).trans (h.prices hn)
  skins hn := (h'.skins hn).trans (h.skins hn)

/-! ## What a call does not touch -/

theorem Same.of_put {user : UserId} {c : Character} (other : ¬ whose (some user)) :
    w.Same whose (w.putCharacter user c) := by
  refine { Same.refl w with characters := fun u hu => ?_ }
  apply Table.get?_put_of_ne
  rintro rfl
  exact other hu

theorem Same.of_accounts {accounts : Table UserId Account} {user : UserId}
    (other : ¬ whose (some user))
    (rest : ∀ u, u ≠ user → accounts.get? u = w.accounts.get? u) :
    w.Same whose { w with accounts } := by
  refine { Same.refl w with accounts := fun u hu => rest u ?_ }
  rintro rfl
  exact other hu

theorem Same.of_credit {user : UserId} {amount : Coins} (other : ¬ whose (some user)) :
    w.Same whose (w.credit user amount) :=
  .of_accounts other fun _ hu => (Table.get?_change ..).trans (if_neg hu)

/-- The reservation of a payment changes, and it belonged to none of these, nor does it now. -/
theorem Same.of_reserved {reserved : Table PaymentId Reservation} {payment : PaymentId}
    (before : ∀ r, w.reserved.get? payment = some r → ¬ whose (some r.user))
    (after : ∀ r, reserved.get? payment = some r → ¬ whose (some r.user))
    (rest : ∀ p, p ≠ payment → reserved.get? p = w.reserved.get? p) :
    w.Same whose { w with reserved } := by
  refine { Same.refl w with reserved := fun p r hr => ?_ }
  by_cases hp : p = payment
  · subst hp
    exact ⟨fun h => absurd hr (after r h), fun h => absurd hr (before r h)⟩
  · rw [rest p hp]

theorem Same.of_reserve {user : UserId} {amount : Coins} {payment : PaymentId}
    (other : ¬ whose (some user))
    (before : ∀ r, w.reserved.get? payment = some r → ¬ whose (some r.user)) :
    w.Same whose (w.reserve user amount payment) := by
  refine (Same.of_credit other).trans (Same.of_reserved before ?_ ?_)
  · intro r hr
    cases (Table.get?_put_self ..).symm.trans hr
    exact other
  · intro p hp
    exact Table.get?_put_of_ne _ _ hp

theorem Same.of_settle {payment : PaymentId} {spend : Bool}
    (before : ∀ r, w.reserved.get? payment = some r → ¬ whose (some r.user)) :
    w.Same whose (w.settle payment spend) := by
  unfold settle
  split
  · exact .refl w
  · rename_i r hr
    have erased : w.Same whose { w with reserved := w.reserved.erase payment } := by
      refine Same.of_reserved before ?_ ?_
      · intro r h
        cases (Table.get?_erase_self ..).symm.trans h
      · intro p hp
        exact Table.get?_erase_of_ne _ hp
    dsimp only
    split
    · exact erased
    · exact erased.trans (Same.of_credit (before r hr))

/-- An entry of the cache changes that is not among these. -/
theorem Same.of_cache {cache : Table String String} (key : Key) (other : ¬ whose key.user?)
    (rest : ∀ text, text ≠ key.text → cache.get? text = w.cache.get? text) :
    w.Same whose { w with cache } := by
  refine { Same.refl w with entries := fun text ht => rest text ?_ }
  rintro rfl
  exact other (ht key rfl)

/-- A store call puts the character of the player that it names, or nothing. -/
theorem store_puts (w : World) (c : StoreCall) :
    (w.store c).2 = w ∨
      ∃ user character, c.user? = some user ∧ (w.store c).2 = w.putCharacter user character := by
  cases c with
  | createCharacter user =>
    simp only [store]
    split
    · exact .inl rfl
    · exact .inr ⟨user, _, rfl, rfl⟩
  | incrementLevel user fromLevel =>
    simp only [store, World.increment]
    split
    · exact .inl rfl
    · split
      · exact .inr ⟨user, _, rfl, rfl⟩
      · exact .inl rfl
  | setActiveSkin user skin =>
    simp only [store]
    split
    · exact .inl rfl
    · exact .inr ⟨user, _, rfl, rfl⟩
  | _ => exact .inl rfl

/-- A call touches nothing of those that it does not name, unless it is about a reservation of
theirs. -/
theorem Same.of_perform {c : Call} (other : ¬ whose c.user?)
    (payment : ∀ payment r, c.payment? = some payment → w.reserved.get? payment = some r →
      ¬ whose (some r.user)) : w.Same whose (w.perform c).2 := by
  cases c with
  | store c =>
    rcases store_puts w c with same | ⟨user, character, hc, put⟩
    · exact same.symm ▸ .refl w
    · have named : ¬ whose (some user) := hc ▸ other
      exact put.symm ▸ Same.of_put named
  | cache c =>
    cases c with
    | get => exact .refl w
    | set key text lifetime => exact .of_cache key other fun _ ht => Table.get?_put_of_ne _ _ ht
    | invalidate key => exact .of_cache key other fun _ ht => Table.get?_erase_of_ne _ ht
  | gateway c =>
    cases c with
    | balance | referrals => exact .refl w
    | initiate user amount id => exact .of_reserve other (payment id · rfl)
    | finalize id spend => exact .of_settle (payment id · rfl)

/-! ## What a call does not depend on -/

theorem Same.character (same : w.Same whose w') {user : UserId} (hu : whose (some user)) :
    w'.character user = w.character user := by
  unfold World.character
  rw [same.characters user hu]

theorem Same.put (same : w.Same whose w') (user : UserId) (c : Character) :
    (w.putCharacter user c).Same whose (w'.putCharacter user c) := by
  refine { same with characters := fun u hu => ?_ }
  simp only [putCharacter, Table.get?_put, same.characters u hu]

theorem Same.credit (same : w.Same whose w') (user : UserId) (amount : Coins) :
    (w.credit user amount).Same whose (w'.credit user amount) := by
  refine { same with accounts := fun u hu => ?_ }
  simp only [World.credit, Table.get?_change]
  by_cases h : u = user
  · subst h
    rw [if_pos rfl, if_pos rfl, same.accounts u hu]
  · rw [if_neg h, if_neg h, same.accounts u hu]

theorem Same.reserve (same : w.Same whose w') (user : UserId) (amount : Coins)
    (payment : PaymentId) :
    (w.reserve user amount payment).Same whose (w'.reserve user amount payment) := by
  refine { same.credit user (-amount) with reserved := fun p r hr => ?_ }
  rw [reserve_reserved, reserve_reserved]
  split
  · exact .rfl
  · exact same.reserved p r hr

/-- A reservation that is settled is one of theirs, and the same for both, or it is none of theirs
on either side. -/
theorem Same.settle (same : w.Same whose w') (payment : PaymentId) (spend : Bool) :
    (w.settle payment spend).Same whose (w'.settle payment spend) := by
  by_cases theirs : ∃ r, w.reserved.get? payment = some r ∧ whose (some r.user)
  · obtain ⟨r, hr, hu⟩ := theirs
    have hr' := (same.reserved payment r hu).mpr hr
    have erased : ({ w with reserved := w.reserved.erase payment } : World).Same whose
        { w' with reserved := w'.reserved.erase payment } := by
      refine { same with reserved := fun p r hr => ?_ }
      simp only [Table.get?_erase]
      split
      · exact .rfl
      · exact same.reserved p r hr
    simp only [World.settle, hr, hr']
    split
    · exact erased
    · exact erased.credit r.user r.amount
  · have before : ∀ r, w.reserved.get? payment = some r → ¬ whose (some r.user) :=
      fun r hr hu => theirs ⟨r, hr, hu⟩
    have before' : ∀ r, w'.reserved.get? payment = some r → ¬ whose (some r.user) :=
      fun r hr hu => theirs ⟨r, (same.reserved payment r hu).mp hr, hu⟩
    exact (Same.of_settle before).symm.trans (same.trans (Same.of_settle before'))

theorem Same.store (same : w.Same whose w') (shared : whose none) {c : StoreCall}
    (hc : whose c.user?) :
    (w'.store c).1 = (w.store c).1 ∧ (w.store c).2.Same whose (w'.store c).2 := by
  cases c with
  | createCharacter user =>
    simp only [World.store, same.characters user hc]
    split
    · exact ⟨rfl, same⟩
    · exact ⟨rfl, same.put user _⟩
  | characterLevel user =>
    simp only [World.store, same.character hc]
    exact ⟨trivial, same⟩
  | characterProfile user =>
    have profileOf : w'.profileOf = w.profileOf := by
      funext c
      simp only [World.profileOf, same.skins shared]
    simp only [World.store, same.character hc, profileOf]
    exact ⟨trivial, same⟩
  | allSkins => exact ⟨congrArg Except.ok (same.skins shared), same⟩
  | allPrices => exact ⟨congrArg Except.ok (same.prices shared), same⟩
  | incrementLevel user fromLevel =>
    simp only [World.store, World.increment, same.character hc]
    split
    · exact ⟨rfl, same⟩
    · split
      · exact ⟨rfl, same.put user _⟩
      · exact ⟨rfl, same⟩
  | setActiveSkin user skin =>
    simp only [World.store, same.character hc]
    split
    · exact ⟨rfl, same⟩
    · exact ⟨rfl, same.put user _⟩

/-- No two keys have a text in common, so an entry of theirs is nobody else's. -/
theorem Same.entry (same : w.Same whose w') {key : Key} (hk : whose key.user?) :
    w'.cache.get? key.text = w.cache.get? key.text := by
  refine same.entries key.text fun other ht => ?_
  rw [Key.text_inj ht]
  exact hk

theorem Same.cached (same : w.Same whose w') {c : CacheCall} (hc : whose c.user?) :
    (w'.cached c).1 = (w.cached c).1 ∧ (w.cached c).2.Same whose (w'.cached c).2 := by
  cases c with
  | get key => exact ⟨congrArg Except.ok (same.entry hc), same⟩
  | set key text lifetime =>
    refine ⟨rfl, { same with entries := fun text' ht => ?_ }⟩
    simp only [World.cached, Table.get?_put, same.entries text' ht]
  | invalidate key =>
    refine ⟨rfl, { same with entries := fun text' ht => ?_ }⟩
    simp only [World.cached, Table.get?_erase, same.entries text' ht]

theorem Same.gateway (same : w.Same whose w') {c : GatewayCall}
    (hc : whose c.user?) :
    (w'.gateway c).1 = (w.gateway c).1 ∧ (w.gateway c).2.Same whose (w'.gateway c).2 := by
  have account (operation : String) {user : UserId} (hu : whose (some user)) :
      w'.account operation user = w.account operation user := by
    unfold World.account
    rw [same.accounts user hu]
  cases c with
  | balance user | referrals user =>
    simp only [World.gateway, account _ hc]
    exact ⟨trivial, same⟩
  | initiate user amount payment => exact ⟨rfl, same.reserve user amount payment⟩
  | finalize payment spend => exact ⟨rfl, same.settle payment spend⟩

/-- A call that names one of these or nobody is answered the same, and changes the same. -/
theorem Same.perform (same : w.Same whose w') (shared : whose none) {c : Call}
    (hc : whose c.user?) :
    (w'.perform c).1 = (w.perform c).1 ∧ (w.perform c).2.Same whose (w'.perform c).2 := by
  cases c with
  | store c => exact same.store shared hc
  | cache c => exact same.cached hc
  | gateway c => exact same.gateway hc

/-! ## Collaborators -/

/-- A collaborator does its work and says so. Or it replies something strange, and it has done its
work or it has not. -/
def Responds (strange : (c : Call) → c.Reply → Prop) : Collaborators World := fun w c reply w' =>
  reply = (w.perform c).1 ∧ w' = (w.perform c).2 ∨
    strange c reply ∧ (w' = w ∨ w' = (w.perform c).2)

variable {strange : (c : Call) → c.Reply → Prop} {c : Call} {reply : c.Reply}

/-- The work is done or it is not. -/
theorem Responds.after (h : Responds strange w c reply w') : w' = w ∨ w' = (w.perform c).2 := by
  rcases h with ⟨-, h⟩ | ⟨-, h⟩
  · exact .inr h
  · exact h

/-- A reservation was there before, or it has just been made. -/
theorem Responds.reserved (h : Responds strange w c reply w') {payment : PaymentId}
    {r : Reservation} (hr : w'.reserved.get? payment = some r) :
    w.reserved.get? payment = some r ∨ c = .gateway (.initiate r.user r.amount payment) := by
  rcases h.after with rfl | rfl
  · exact .inl hr
  · cases c with
    | store c =>
      rw [perform, store_rest] at hr
      exact .inl hr
    | cache c =>
      rw [perform, cached_rest] at hr
      exact .inl hr
    | gateway c =>
      cases c with
      | balance | referrals => exact .inl hr
      | initiate user amount p =>
        have hr : (w.reserve user amount p).reserved.get? payment = some r := hr
        rw [reserve_reserved] at hr
        by_cases hp : payment = p
        · subst hp
          rw [if_pos rfl] at hr
          cases hr
          exact .inr rfl
        · rw [if_neg hp] at hr
          exact .inl hr
      | finalize p spend =>
        have hr : (w.settle p spend).reserved.get? payment = some r := hr
        rw [settle_reserved] at hr
        by_cases hp : payment = p
        · rw [if_pos hp] at hr
          cases hr
        · rw [if_neg hp] at hr
          exact .inl hr

/-- Collaborators may reply the same in a world that is the same for those whom the call names. -/
theorem Responds.same (h : Responds strange w c reply w') (same : w.Same whose v)
    (shared : whose none) (hc : whose c.user?) :
    ∃ v', Responds strange v c reply v' ∧ w'.Same whose v' := by
  obtain ⟨replies, after⟩ := same.perform shared hc
  rcases h with ⟨rfl, rfl⟩ | ⟨odd, rfl | rfl⟩
  · exact ⟨_, .inl ⟨replies.symm, rfl⟩, after⟩
  · exact ⟨v, .inr ⟨odd, .inl rfl⟩, same⟩
  · exact ⟨_, .inr ⟨odd, .inr rfl⟩, after⟩

end Rehearsal.World

/-! ## Runs -/

open Rehearsal

section Runs

variable {ι : Type} [DecidableEq ι] {strange : (c : Call) → c.Reply → Prop} {asks : ι → Question}
  {world world' : World} {taken : Set PaymentId} {h : History ι}
  {t u : System World fun _ : ι => Except Refusal Json} {i : ι} {d : Deed} {stranger : UserId}

namespace System.Run

/-- A reservation was made before the run, or by a party for its own player. -/
theorem reserved (run : Run (World.Responds strange) (asking lifetimes asks world taken) h t)
    (older : ∀ payment, payment ∉ taken → world.reserved.get? payment = none)
    {payment : PaymentId} {r : Reservation} (hr : t.world.reserved.get? payment = some r) :
    payment ∈ taken ∨ ∃ j, (j, .took payment) ∈ h ∧ (asks j).user? = some r.user := by
  induction run with
  | start =>
    by_cases hp : payment ∈ taken
    · exact .inl hp
    · have hr : world.reserved.get? payment = some r := hr
      cases (older payment hp).symm.trans hr
  | @turn h t u i d run turn ih =>
    have old : t.world.reserved.get? payment = some r → payment ∈ taken ∨
        ∃ j, (j, .took payment) ∈ h ++ [(i, d)] ∧ (asks j).user? = some r.user := by
      intro hr
      refine (ih hr).imp_right ?_
      rintro ⟨j, hj, hu⟩
      exact ⟨j, List.mem_append_left _ hj, hu⟩
    have now := Run.turn run turn
    cases turn with
    | take => exact old hr
    | @call c reply plan world' step reply_ok =>
      rcases reply_ok.reserved hr with hr | rfl
      · exact old hr
      -- What is new was reserved in this turn, for the player that the call names.
      · have mine := now.carried List.mem_concat_self rfl
        exact .inr ⟨i, mine, ((now.names List.mem_concat_self).resolve_left nofun).symm⟩

/-- The reservation that a party is about belongs to its own player. -/
theorem own_reservation
    (run : Run (World.Responds strange) (asking lifetimes asks world taken) h t)
    (older : ∀ payment, payment ∉ taken → world.reserved.get? payment = none)
    (turn : Turn (World.Responds strange) t i d u) (payment : PaymentId) (r : Reservation)
    (hd : d.payment? = some payment) (hr : t.world.reserved.get? payment = some r) :
    (asks i).user? = some r.user := by
  have now := Run.turn run turn
  have mine := now.carried List.mem_concat_self hd
  rcases run.reserved older hr with hp | ⟨j, hj, hu⟩
  · exact absurd hp (now.took_new.2 i payment mine).1
  -- Two parties never take the same id, so whoever reserved it is the one whose turn it is.
  · have hji := now.took_once (List.mem_append_left _ hj) mine
    exact hji ▸ hu

/-- A turn leaves what belongs to others as it is. -/
theorem turn_leaves
    (run : Run (World.Responds strange) (asking lifetimes asks world taken) h t)
    (older : ∀ payment, payment ∉ taken → world.reserved.get? payment = none)
    (turn : Turn (World.Responds strange) t i d u) (other : (asks i).user? ≠ some stranger) :
    t.world.SameFor stranger u.world := by
  have names := (Run.turn run turn).names List.mem_concat_self
  have own := run.own_reservation older turn
  cases turn with
  | take => exact .refl _
  | @call c reply plan world' step reply_ok =>
    have performs : t.world.SameFor stranger (t.world.perform c).2 := by
      refine .of_perform (names.ne other) ?_
      intro payment r hp hr hu
      exact other ((own payment r hp hr).trans hu)
    rcases reply_ok.after with hw | hw
    · exact hw ▸ .refl _
    · exact hw ▸ performs

/-- Parties that ask about others leave what belongs to a player as it is. -/
theorem leaves (run : Run (World.Responds strange) (asking lifetimes asks world taken) h t)
    (older : ∀ payment, payment ∉ taken → world.reserved.get? payment = none)
    (others : ∀ j, (asks j).user? ≠ some stranger) : world.SameFor stranger t.world := by
  induction run with
  | start => exact .refl world
  | turn run turn ih => exact ih.trans (run.turn_leaves older turn (others _))

/-- Parties that ask about others may do the same if what belongs to a player is different. -/
theorem unaware (run : Run (World.Responds strange) (asking lifetimes asks world taken) h t)
    (others : ∀ j, (asks j).user? ≠ some stranger) (same : world.SameApartFrom stranger world') :
    ∃ t', Run (World.Responds strange) (asking lifetimes asks world' taken) h t' ∧
      t'.plans = t.plans ∧ t'.taken = t.taken ∧ t.world.SameApartFrom stranger t'.world := by
  induction run with
  | start => exact ⟨_, .start, rfl, rfl, same⟩
  | @turn h t u i d run turn ih =>
    obtain ⟨t', run', plans, ids, worlds⟩ := ih
    have names := (Run.turn run turn).names List.mem_concat_self
    cases turn with
    | @call c reply plan after step reply_ok =>
      obtain ⟨after', reply_ok', worlds'⟩ := reply_ok.same worlds nofun (names.ne (others i))
      refine ⟨_, .turn run' (.call (plans ▸ step) reply_ok'), ?_, ids, worlds'⟩
      exact congrArg (Function.update · i plan) plans
    | @take payment plan step fresh =>
      refine ⟨_, .turn run' (.take (plans ▸ step) (ids ▸ fresh)), ?_, ?_, worlds⟩
      · exact congrArg (Function.update · i plan) plans
      · exact congrArg (insert payment) ids

end System.Run

/-- What is done for a player names no other, and carries no payment but its own. It leaves what
belongs to another as it is, and does the same, with the same replies and the same results, in a
world where that is different. -/
theorem players_do_not_meet
    (run : System.Run (World.Responds strange) (.asking lifetimes asks world taken) h t)
    (older : ∀ payment, payment ∉ taken → world.reserved.get? payment = none)
    (other : (asks i).user? ≠ some stranger) :
    Function.Injective Key.text ∧
    (∀ c reply, (i, .called c reply) ∈ h → c.user? ≠ some stranger ∧
      ∀ payment, c.payment? = some payment → payment ∉ taken ∧
        ∀ j, (j, .took payment) ∈ h ↔ j = i) ∧
    (∀ d u, System.Turn (World.Responds strange) t i d u → t.world.SameFor stranger u.world) ∧
    ((∀ j, (asks j).user? ≠ some stranger) → world.SameFor stranger t.world ∧
      ∀ world', world.SameApartFrom stranger world' →
        (∀ payment, payment ∉ taken → world'.reserved.get? payment = none) →
        ∃ t', System.Run (World.Responds strange) (.asking lifetimes asks world' taken) h t' ∧
          t'.plans = t.plans ∧ t.world.SameApartFrom stranger t'.world ∧
          world'.SameFor stranger t'.world) := by
  refine ⟨fun _ _ => Key.text_inj, ?_, ?_, ?_⟩
  · intro c reply hc
    refine ⟨(run.names hc).ne other, fun payment hp => ?_⟩
    have mine := run.carried hc hp
    refine ⟨(run.took_new.2 i payment mine).1, fun j => ⟨fun hj => run.took_once hj mine, ?_⟩⟩
    rintro rfl
    exact mine
  · intro d u turn
    exact run.turn_leaves older turn other
  · intro others
    refine ⟨run.leaves older others, fun world' same older' => ?_⟩
    obtain ⟨t', run', plans, -, worlds⟩ := run.unaware others same
    exact ⟨t', run', plans, worlds, run'.leaves older' others⟩

end Runs

/-! ## Two players -/

/-- Another player has joined this one, with coins that are reserved. -/
def aCrowd : World :=
  let joined := aPlayer.putCharacter (-7) ⟨3, 1⟩
  let paid := { joined with accounts := joined.accounts.put (-7) ⟨40, 2⟩ }
  let bound := paid.reserve (-7) 60 ⟨9⟩
  { bound with cache := bound.cache.put (Key.level (-7)).text "3" }

theorem aPlayer_sameApartFrom_aCrowd : aPlayer.SameApartFrom (-7) aCrowd := by
  have hers : ¬ some (-7 : UserId) ≠ some (-7) := fun hne => hne rfl
  refine .trans (.of_put hers) (.trans (.of_accounts hers ?_)
    (.trans (.of_reserve hers ?_) (.of_cache (.level (-7)) hers ?_)))
  · exact fun _ hu => Table.get?_put_of_ne _ _ hu
  · exact nofun
  · exact fun _ ht => Table.get?_put_of_ne _ _ ht

/-- The level-up of player 7 takes the same course with and without player -7. -/
theorem a_level_up_does_not_meet_a_stranger :
    ∃ h t, System.Run (World.Responds fun _ _ => False)
        (.asking ⟨.ofSeconds 300, .ofSeconds 3600⟩ (fun _ : Unit => .levelUp 7) aCrowd {⟨9⟩}) h t ∧
      bindings (h.of ()) = [.took ⟨1⟩, .called (.gateway (.initiate 7 100 ⟨1⟩)) (.ok ())] ∧
      aCrowd.SameFor (-7) t.world := by
  open LevelUp Standing in
  let lifetimes : Lifetimes := ⟨.ofSeconds 300, .ofSeconds 3600⟩
  have take : Next lifetimes 7 (.commit aDeal .take) (.took ⟨1⟩) (.commit aDeal (.reserve ⟨1⟩)) :=
    .take ⟨1⟩
  have reserved : Next lifetimes 7 (.commit aDeal (.reserve ⟨1⟩))
      (.called (.gateway (.initiate 7 100 ⟨1⟩)) (.ok ())) (.commit aDeal (.advance ⟨1⟩)) :=
    .reserved
  let start := System.asking lifetimes (fun _ : Unit => .levelUp 7) aPlayer {⟨9⟩}
  have nothing : System.Run (World.Responds fun _ _ => False) start [] start := .start
  have answers : Collaborators.GoAlong (World.Responds fun _ _ => False) aPlayer {⟨9⟩}
      someQuestions aPlayer {⟨9⟩} := by
    have works (c : Call) : World.Responds (fun _ _ => False) aPlayer c (aPlayer.perform c).1
        (aPlayer.perform c).2 := .inl ⟨rfl, rfl⟩
    exact .called (works _) (.called (works _) (.called (works _) (.called (works _) .nil)))
  obtain ⟨_, run, hp, hw, ht, -⟩ := nothing.inquires (i := ()) rfl answers
  have fresh : ⟨1⟩ ∉ ({⟨9⟩} : Set PaymentId) := by simp
  obtain ⟨_, run, hp, -⟩ := run.takes hp (take.step.map _) (by rwa [ht])
  obtain ⟨t, run, -⟩ := run.called hp (reserved.step.map _) (.inl ⟨rfl, rfl⟩)
  have older : ∀ payment, payment ∉ ({⟨9⟩} : Set PaymentId) →
      aCrowd.reserved.get? payment = none := fun _ hp => Table.get?_put_of_ne _ _ hp
  have apart : (Question.levelUp 7).user? ≠ some (-7) := by decide
  obtain ⟨-, -, -, alike⟩ := players_do_not_meet run (fun _ _ => rfl) (i := ()) apart
  obtain ⟨t', run', -, -, left⟩ :=
    (alike fun _ => apart).2 aCrowd aPlayer_sameApartFrom_aCrowd older
  exact ⟨_, t', run', rfl, left⟩

end Progression
