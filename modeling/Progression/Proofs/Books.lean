-- The books of level-ups side by side: what the accounts and the
-- reservations hold, given what each level-up has at stake. Every turn
-- of a stake keeps them in order.
import Progression.Proofs.Holdings

namespace Progression

open Rehearsal

/-! ## The gateway -/

namespace Rehearsal.World

/-- A gateway whose settlements work. Another call may fail: with an ambiguous fault it may have
taken effect all the same, with any other it has not. -/
def GatewayReply (w : World) (c : GatewayCall) (reply : Except PaymentFault c.Answer)
    (w' : World) : Prop :=
  reply = (w.gateway c).1 ∧ w' = (w.gateway c).2 ∨
    (∀ payment spend, c ≠ .finalize payment spend) ∧ ∃ fault, reply = .error fault ∧
      (w' = w ∨ fault.isAmbiguous = true ∧ w' = (w.gateway c).2)

/-- The collaborators held in memory, which may fail. -/
def Replies : Collaborators World
  | w, .store c, reply, w' => w.StoreReply c reply w'
  | w, .cache c, reply, w' => w.CacheReply c reply w'
  | w, .gateway c, reply, w' => w.GatewayReply c reply w'

variable {w w' : World}

/-- Only calls about a payment touch the accounts and the reservations. -/
theorem Replies.books {c : Call} {reply : c.Reply} (h : Replies w c reply w')
    (hc : c.payment? = none) : w'.accounts = w.accounts ∧ w'.reserved = w.reserved := by
  cases c with
  | store c =>
    rcases h with ⟨-, rfl⟩ | ⟨-, rfl⟩
    · rw [World.store_rest]
      exact ⟨rfl, rfl⟩
    · exact ⟨rfl, rfl⟩
  | cache c =>
    rw [CacheReply.rest h]
    exact ⟨rfl, rfl⟩
  | gateway c =>
    cases c with
    | balance | referrals =>
      rcases h with ⟨-, rfl⟩ | ⟨-, fault, -, rfl | ⟨-, rfl⟩⟩ <;> exact ⟨rfl, rfl⟩
    | _ => cases hc

/-! ## Coins that move -/

end Rehearsal.World

/-- The account with so many coins less. -/
def Rehearsal.Account.debit (a : Account) (n : Int) : Account :=
  { a with balance := Int64.ofInt (a.balance.toInt - n) }

theorem Rehearsal.Account.debit_zero (a : Account) : a.debit 0 = a := by simp [debit]

theorem Rehearsal.Account.debit_debit (a : Account) (m n : Int) :
    (a.debit m).debit n = a.debit (m + n) := by
  have h : Int64.ofInt ((Int64.ofInt (a.balance.toInt - m)).toInt - n)
      = Int64.ofInt (a.balance.toInt - (m + n)) := by
    rw [Int64.ofInt_sub, Int64.ofInt_toInt, ← Int64.ofInt_sub]
    congr 1
    omega
  simp only [debit, h]

namespace Rehearsal.World

theorem credit_accounts (w : World) (user u : UserId) (amount : Coins) :
    (w.credit user amount).accounts.get? u
      = (w.accounts.get? u).map fun a => a.debit (if user = u then -amount.toInt else 0) := by
  have h (a : Account) : { a with balance := a.balance + amount } = a.debit (-amount.toInt) := by
    simp [Account.debit]
  rw [credit, Table.get?_change]
  by_cases hu : u = user
  · subst hu
    simp [h]
  · simp [hu, Ne.symm hu, Account.debit_zero]

theorem reserve_accounts (w : World) (user u : UserId) (amount : Coins) (payment : PaymentId) :
    (w.reserve user amount payment).accounts.get? u
      = (w.accounts.get? u).map fun a => a.debit (if user = u then amount.toInt else 0) := by
  have h (a : Account) : { a with balance := a.balance + -amount } = a.debit amount.toInt := by
    simp [Account.debit, Int64.sub_eq_add_neg]
  show ((w.accounts.change user fun a => { a with balance := a.balance + -amount }).get? u) = _
  rw [Table.get?_change]
  by_cases hu : u = user
  · subst hu
    simp [h]
  · simp [hu, Ne.symm hu, Account.debit_zero]

theorem reserve_reserved (w : World) (user : UserId) (amount : Coins) (payment p : PaymentId) :
    (w.reserve user amount payment).reserved.get? p
      = if p = payment then some ⟨user, amount⟩ else w.reserved.get? p := Table.get?_put ..

theorem settle_reserved (w : World) (payment p : PaymentId) (spend : Bool) :
    (w.settle payment spend).reserved.get? p
      = if p = payment then none else w.reserved.get? p := by
  rw [← Table.get?_erase]
  unfold settle
  cases hr : w.reserved.get? payment with
  | none =>
    rw [Table.get?_erase]
    by_cases hp : p = payment
    · simp [hp, hr]
    · simp [hp]
  | some r => cases spend <;> rfl

/-- Coins that are given back go to the account that they were reserved from. -/
theorem settle_accounts {w : World} {payment : PaymentId} {user : UserId} {amount : Coins}
    (hr : w.reserved.get? payment = some ⟨user, amount⟩) (u : UserId) :
    (w.settle payment false).accounts.get? u
      = (w.accounts.get? u).map fun a => a.debit (if user = u then -amount.toInt else 0) := by
  rw [settle, hr]
  exact credit_accounts ..

theorem spend_accounts (w : World) (payment : PaymentId) :
    (w.settle payment true).accounts = w.accounts := by
  unfold settle
  split <;> rfl

end Rehearsal.World

/-! ## The books -/

namespace LevelUp

variable {ι : Type} [Fintype ι] [DecidableEq ι] {users : ι → UserId}

/-- The books of level-ups: what each of them owes is missing from the account of its player. -/
structure Books (start : World) (before : Set PaymentId) (users : ι → UserId) (w : World)
    (taken : Set PaymentId) (stakes : ι → Stake) (owed : ι → Int) : Prop where
  accounts : ∀ u, w.accounts.get? u
    = (start.accounts.get? u).map fun a => a.debit (∑ i with users i = u, owed i)
  held : Holdings users w.reserved taken stakes owed
  new : ∀ i payment, (stakes i).payment? = some payment → payment ∉ before
  rest : ∀ payment, (∀ i, (stakes i).payment? ≠ some payment) →
    w.reserved.get? payment = start.reserved.get? payment
  /-- An id under which coins were reserved at the start was taken before. -/
  older : ∀ payment, payment ∉ before → start.reserved.get? payment = none

variable {start w w' : World} {before taken : Set PaymentId} {stakes : ι → Stake}
  {owed : ι → Int} {i : ι} {stake : Stake} {n : Int}

/-- A level-up that moves only its own coins and its own reservation keeps the books. -/
theorem Books.move (books : Books start before users w taken stakes owed)
    (accounts : ∀ u, w'.accounts.get? u = (w.accounts.get? u).map fun a =>
      a.debit (if users i = u then n - owed i else 0))
    (reserved : ∀ payment, (stakes i).payment? ≠ some payment →
      w'.reserved.get? payment = w.reserved.get? payment)
    (owes : stake.Owes w'.reserved (users i) n)
    (mine : ∀ payment, stake.payment? = some payment → (stakes i).payment? = some payment)
    (gone : ∀ payment, (stakes i).payment? = some payment → stake.payment? ≠ some payment →
      w'.reserved.get? payment = none) :
    Books start before users w' taken (Function.update stakes i stake)
      (Function.update owed i n) where
  accounts u := by
    rw [accounts, books.accounts, sum_update]
    simp [Function.comp_def, Account.debit_debit]
  held := books.held.move reserved owes mine
  new j payment hp := by
    by_cases hj : j = i
    · subst hj
      rw [Function.update_self] at hp
      exact books.new j payment (mine payment hp)
    · rw [Function.update_of_ne hj] at hp
      exact books.new j payment hp
  rest payment hp := by
    by_cases hi : (stakes i).payment? = some payment
    · have hs := hp i
      rw [Function.update_self] at hs
      rw [gone payment hi hs, books.older payment (books.new i payment hi)]
    · rw [reserved payment hi]
      refine books.rest payment fun j => ?_
      by_cases hj : j = i
      · exact hj ▸ hi
      · have hs := hp j
        rwa [Function.update_of_ne hj] at hs
  older := books.older

omit [DecidableEq ι] in
/-- Nothing is owed at the start. -/
theorem Books.opening (older : ∀ payment, payment ∉ before → w.reserved.get? payment = none) :
    Books w before users w before (fun _ => .nothing) fun _ : ι => 0 where
  accounts u := by simp [Account.debit_zero]
  held := .opening older
  new _ _ hp := by cases hp
  rest _ _ := rfl
  older := older

/-- A payment id that is new has no reservation. -/
theorem Books.take (books : Books start before users w taken stakes owed) {payment : PaymentId}
    (amount : Coins) (hi : stakes i = .nothing) (new : payment ∉ taken) (hb : before ⊆ taken) :
    Books start before users w (insert payment taken)
      (Function.update stakes i (.asked payment amount)) owed := by
  refine ⟨books.accounts, books.held.take amount hi new, fun j p hj => ?_, fun p hp => ?_,
    books.older⟩
  · by_cases hji : j = i
    · subst hji
      rw [Function.update_self] at hj
      cases hj
      exact fun h => new (hb h)
    · rw [Function.update_of_ne hji] at hj
      exact books.new j p hj
  · refine books.rest p fun j hj => ?_
    have hji : j ≠ i := by
      rintro rfl
      rw [hi] at hj
      cases hj
    exact hp j (by rwa [Function.update_of_ne hji])

/-- What is not about a payment moves no coins. -/
theorem Books.frame (books : Books start before users w taken stakes owed)
    (accounts : w'.accounts = w.accounts) (reserved : w'.reserved = w.reserved)
    (owes : stake.Owes w.reserved (users i) (owed i))
    (mine : stake.payment? = (stakes i).payment?) :
    Books start before users w' taken (Function.update stakes i stake) owed := by
  have moved : Books start before users w' taken (Function.update stakes i stake)
      (Function.update owed i (owed i)) := books.move
    (by simp [accounts, Account.debit_zero]) (by simp [reserved]) (reserved ▸ owes)
    (by simp [mine]) (fun p hp hn => absurd (mine ▸ hp) hn)
  rwa [Function.update_eq_self] at moved

/-- Coins that are reserved are owed. -/
theorem Books.reserve (books : Books start before users w taken stakes owed)
    {payment : PaymentId} {amount : Coins} (hi : stakes i = .asked payment amount)
    (owes : stake.Owes (w.reserve (users i) amount payment).reserved (users i) amount.toInt)
    (mine : stake.payment? = some payment) :
    Books start before users (w.reserve (users i) amount payment) taken
      (Function.update stakes i stake) (Function.update owed i amount.toInt) := by
  have hp : (stakes i).payment? = some payment := by rw [hi]; rfl
  have hn := books.held.owes i
  rw [hi] at hn
  refine books.move (fun u => ?_) (fun p hne => ?_) owes (by simp [mine, hp])
    fun p h hne => absurd (mine.trans (hp.symm.trans h)) hne
  · rw [World.reserve_accounts, hn.1, Int.sub_zero]
  · rw [hp] at hne
    rw [World.reserve_reserved, if_neg]
    rintro rfl
    exact hne rfl

/-- A reservation that is settled is gone. -/
theorem Books.settle (books : Books start before users w taken stakes owed)
    {payment : PaymentId} {spend : Bool} (hp : (stakes i).payment? = some payment)
    (accounts : ∀ u, (w.settle payment spend).accounts.get? u = (w.accounts.get? u).map fun a =>
      a.debit (if users i = u then n - owed i else 0))
    (owes : stake.Owes (w.settle payment spend).reserved (users i) n)
    (none : stake.payment? = none) :
    Books start before users (w.settle payment spend) taken (Function.update stakes i stake)
      (Function.update owed i n) := by
  refine books.move accounts (fun p hne => ?_) owes (by simp [none]) fun p h _ => ?_
  · rw [hp] at hne
    rw [World.settle_reserved, if_neg]
    rintro rfl
    exact hne rfl
  · rw [hp] at h
    rw [World.settle_reserved, if_pos (Option.some.inj h).symm]

/-- Each turn of a stake keeps the books. -/
theorem Books.next (books : Books start before users w taken stakes owed) {c : Call}
    {reply : c.Reply} (turn : Stake.Next (users i) (stakes i) (.called c reply) stake)
    (hw : w.Replies c reply w') :
    ∃ owed', Books start before users w' taken (Function.update stakes i stake) owed' := by
  generalize hs : stakes i = s at turn
  have owes := books.held.owes i
  rw [hs] at owes
  cases turn with
  | reserved payment amount =>
    rcases hw with ⟨-, rfl⟩ | ⟨-, fault, hr, -⟩
    · exact ⟨_, books.reserve hs ⟨rfl, by simp [World.reserve_reserved]⟩ rfl⟩
    · cases hr
  | doubtful payment amount ambiguous =>
    rcases hw with ⟨hr, -⟩ | ⟨-, fault, -, rfl | ⟨-, rfl⟩⟩
    · cases hr
    · exact ⟨_, books.frame rfl rfl (.inr owes) (by rw [hs]; rfl)⟩
    · exact ⟨_, books.reserve hs (.inl ⟨rfl, by simp [World.reserve_reserved]⟩) rfl⟩
  | rejected payment amount clear =>
    rcases hw with ⟨hr, -⟩ | ⟨-, fault, hr, rfl | ⟨ambiguous, -⟩⟩
    · cases hr
    · refine ⟨_, books.move (n := 0) (by simp [owes.1, Account.debit_zero]) (by simp) rfl
        (fun p hp => by cases hp) fun p hp _ => ?_⟩
      rw [hs] at hp
      cases hp
      exact owes.2
    · cases hr
      rw [clear] at ambiguous
      cases ambiguous
  | stayed payment amount fromLevel fault =>
    obtain ⟨ha, hr⟩ := World.Replies.books hw rfl
    exact ⟨_, books.frame ha hr (.inl owes) (by rw [hs]; rfl)⟩
  | released payment amount reply =>
    rcases hw with ⟨-, rfl⟩ | ⟨hne, -⟩
    · have hp : (stakes i).payment? = some payment := by rw [hs]; rfl
      refine ⟨_, books.settle (n := 0) hp (fun u => ?_) rfl rfl⟩
      rcases owes with ⟨hn, hr⟩ | ⟨hn, hr⟩
      · rw [World.settle_accounts hr, hn]
        simp
      · rw [World.settle, hr, hn]
        simp [Account.debit_zero]
    · exact absurd rfl (hne payment false)
  | spent payment amount reply =>
    rcases hw with ⟨-, rfl⟩ | ⟨hne, -⟩
    · have hp : (stakes i).payment? = some payment := by rw [hs]; rfl
      refine ⟨_, books.settle (n := amount.toInt) hp (fun u => ?_) rfl rfl⟩
      rw [World.spend_accounts, owes.1]
      simp [Account.debit_zero]
    · exact absurd rfl (hne payment true)
  | free fromLevel up =>
    obtain ⟨ha, hr⟩ := World.Replies.books hw rfl
    exact ⟨_, books.frame ha hr owes (by rw [hs]; rfl)⟩
  | other _ hc =>
    obtain ⟨ha, hr⟩ := World.Replies.books hw hc
    exact ⟨_, books.frame ha hr owes (by rw [hs])⟩

end LevelUp

end Progression
