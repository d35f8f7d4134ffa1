-- A bank: accounts that are exact and may go below zero, and reservations.
-- It tells a balance as it is, and any of its calls may fail. What level-ups
-- have taken out of an account is never more than what is missing from it.
import Progression.Proofs.Holdings

namespace Progression

open Rehearsal

structure Bank where
  balance : UserId → Int
  reserved : Table PaymentId Reservation

namespace Bank

/-! ## Calls -/

def reserve (b : Bank) (user : UserId) (amount : Coins) (payment : PaymentId) : Bank where
  balance := Function.update b.balance user (b.balance user - amount.toInt)
  reserved := b.reserved.put payment ⟨user, amount⟩

def settle (b : Bank) (payment : PaymentId) (spend : Bool) : Bank :=
  match b.reserved.get? payment with
  | none => b
  | some r =>
    { balance :=
        if spend then b.balance
        else Function.update b.balance r.user (b.balance r.user + r.amount.toInt)
      reserved := b.reserved.erase payment }

/-- The bank once a call has taken effect. -/
def after (b : Bank) : GatewayCall → Bank
  | .initiate user amount payment => b.reserve user amount payment
  | .finalize payment spend => b.settle payment spend
  | _ => b

/-- A balance is told as it is. How many players somebody has invited is not for a bank to say. -/
def Tells (b : Bank) : (c : GatewayCall) → c.Answer → Prop
  | .balance user, n => n.toInt = b.balance user
  | _, _ => True

/-- A call takes effect, or it fails. It may have taken effect all the same if its fault is
ambiguous. -/
def Replies (b : Bank) (c : GatewayCall) (reply : Except PaymentFault c.Answer) (b' : Bank) :
    Prop :=
  (∃ answer, reply = .ok answer ∧ b.Tells c answer ∧ b' = b.after c) ∨
    ∃ fault, reply = .error fault ∧ (b' = b ∨ fault.isAmbiguous = true ∧ b' = b.after c)

/-- A call to any collaborator: those that are not about the bank leave it alone. -/
def Serves (b : Bank) : (c : Call) → c.Reply → Bank → Prop
  | .gateway c, reply, b' => b.Replies c reply b'
  | _, _, b' => b' = b

variable {b b' : Bank}

/-- Only calls about a payment change the bank. -/
theorem Serves.unchanged {c : Call} {reply : c.Reply} (h : b.Serves c reply b')
    (hc : c.payment? = none) : b' = b := by
  cases c with
  | store | cache => exact h
  | gateway c =>
    cases c with
    | balance | referrals =>
      rcases h with ⟨_, -, -, rfl⟩ | ⟨_, -, rfl | ⟨-, rfl⟩⟩ <;> rfl
    | _ => cases hc

theorem reserve_reserved (b : Bank) (user : UserId) (amount : Coins) (payment p : PaymentId) :
    (b.reserve user amount payment).reserved.get? p
      = if p = payment then some ⟨user, amount⟩ else b.reserved.get? p := Table.get?_put ..

theorem settle_reserved (b : Bank) (payment p : PaymentId) (spend : Bool) :
    (b.settle payment spend).reserved.get? p
      = if p = payment then none else b.reserved.get? p := by
  unfold settle
  cases hr : b.reserved.get? payment with
  | none =>
    by_cases hp : p = payment
    · simp [hp, hr]
    · simp [hp]
  | some r => exact Table.get?_erase ..

theorem settle_spent (b : Bank) (payment : PaymentId) :
    (b.settle payment true).balance = b.balance := by
  unfold settle
  split <;> rfl

end Bank

/-! ## Dues -/

namespace LevelUp

variable {ι : Type} [Fintype ι] [DecidableEq ι] {users : ι → UserId}

/-- What level-ups owe is missing from the accounts, and perhaps more: a reservation that could
not be given back is missing too. -/
structure Dues (funds : UserId → Int) (users : ι → UserId) (b : Bank) (taken : Set PaymentId)
    (stakes : ι → Stake) (owed : ι → Int) : Prop where
  covered : ∀ u, b.balance u + ∑ i with users i = u, owed i ≤ funds u
  nonneg : ∀ i, 0 ≤ owed i
  held : Holdings users b.reserved taken stakes owed

variable {funds : UserId → Int} {b b' : Bank} {taken : Set PaymentId} {stakes : ι → Stake}
  {owed : ι → Int} {i : ι} {stake : Stake} {n : Int}

omit [DecidableEq ι] in
theorem Dues.opening (known : ∀ payment, payment ∉ taken → b.reserved.get? payment = none) :
    Dues b.balance users b taken (fun _ => .nothing) fun _ : ι => 0 where
  covered u := by simp
  nonneg _ := Int.le_refl 0
  held := .opening known

theorem Dues.take (dues : Dues funds users b taken stakes owed) {payment : PaymentId}
    (amount : Coins) (hi : stakes i = .nothing) (new : payment ∉ taken) :
    Dues funds users b (insert payment taken)
      (Function.update stakes i (.asked payment amount)) owed :=
  ⟨dues.covered, dues.nonneg, dues.held.take amount hi new⟩

/-- No more comes back to an account than its level-up has owed. -/
theorem Dues.move (dues : Dues funds users b taken stakes owed)
    (balance : ∀ u, b'.balance u ≤ b.balance u + if users i = u then owed i - n else 0)
    (hn : 0 ≤ n)
    (rest : ∀ payment, (stakes i).payment? ≠ some payment →
      b'.reserved.get? payment = b.reserved.get? payment)
    (owes : stake.Owes b'.reserved (users i) n)
    (mine : ∀ payment, stake.payment? = some payment → (stakes i).payment? = some payment) :
    Dues funds users b' taken (Function.update stakes i stake) (Function.update owed i n) where
  covered u := by
    have hb := balance u
    have hc := dues.covered u
    rw [sum_update]
    split at hb <;> rename_i hu
    · rw [if_pos hu]
      omega
    · rw [if_neg hu]
      omega
  nonneg j := by
    by_cases hj : j = i
    · subst hj
      rwa [Function.update_self]
    · rw [Function.update_of_ne hj]
      exact dues.nonneg j
  held := dues.held.move rest owes mine

/-- A level-up to which nothing happens at the bank. -/
theorem Dues.frame (dues : Dues funds users b taken stakes owed)
    (owes : stake.Owes b.reserved (users i) (owed i))
    (mine : stake.payment? = (stakes i).payment?) :
    Dues funds users b taken (Function.update stakes i stake) owed := by
  have moved : Dues funds users b taken (Function.update stakes i stake)
      (Function.update owed i (owed i)) :=
    dues.move (by simp) (dues.nonneg i) (fun _ _ => rfl) owes (by simp [mine])
  rwa [Function.update_eq_self] at moved

theorem Dues.reserve (dues : Dues funds users b taken stakes owed) {payment : PaymentId}
    {amount : Coins} (hi : stakes i = .asked payment amount) (h0 : 0 ≤ amount.toInt)
    (owes : stake.Owes (b.reserve (users i) amount payment).reserved (users i) amount.toInt)
    (mine : stake.payment? = some payment) :
    Dues funds users (b.reserve (users i) amount payment) taken
      (Function.update stakes i stake) (Function.update owed i amount.toInt) := by
  have hp : (stakes i).payment? = some payment := by rw [hi]; rfl
  have hn := dues.held.owes i
  rw [hi] at hn
  refine dues.move (fun u => ?_) h0 (fun p hne => ?_) owes (by simp [mine, hp])
  · rw [hn.1]
    by_cases hu : u = users i
    · subst hu
      simp [Bank.reserve]
    · simp [Bank.reserve, hu, Ne.symm hu]
  · rw [hp] at hne
    rw [Bank.reserve_reserved, if_neg]
    rintro rfl
    exact hne rfl

theorem Dues.settle (dues : Dues funds users b taken stakes owed) {payment : PaymentId}
    {spend : Bool} (hp : (stakes i).payment? = some payment)
    (balance : ∀ u, (b.settle payment spend).balance u
      ≤ b.balance u + if users i = u then owed i - n else 0)
    (hn : 0 ≤ n) (owes : stake.Owes (b.settle payment spend).reserved (users i) n)
    (none : stake.payment? = none) :
    Dues funds users (b.settle payment spend) taken (Function.update stakes i stake)
      (Function.update owed i n) := by
  refine dues.move balance hn (fun p hne => ?_) owes (by simp [none])
  rw [hp] at hne
  rw [Bank.settle_reserved, if_neg]
  rintro rfl
  exact hne rfl

/-- Coins that may be reserved are given back, or they are left behind; nothing is owed any more. -/
theorem Dues.release (dues : Dues funds users b taken stakes owed) {payment : PaymentId}
    {amount : Coins} {reply : Except PaymentFault Unit} (hi : stakes i = .doubtful payment amount)
    (replies : b.Replies (.finalize payment false) reply b') :
    Dues funds users b' taken (Function.update stakes i .nothing) (Function.update owed i 0) := by
  have owes := dues.held.owes i
  rw [hi] at owes
  have left : Dues funds users b taken (Function.update stakes i .nothing)
      (Function.update owed i 0) := by
    refine dues.move (fun u => ?_) (Int.le_refl 0) (fun _ _ => rfl) rfl (fun p hp => by cases hp)
    have := dues.nonneg i
    split <;> omega
  have back : Dues funds users (b.settle payment false) taken
      (Function.update stakes i .nothing) (Function.update owed i 0) := by
    refine dues.settle (by rw [hi]; rfl) (fun u => ?_) (Int.le_refl 0) rfl rfl
    rcases owes with ⟨hn, hr⟩ | ⟨hn, hr⟩
    · rw [hn, Bank.settle, hr]
      by_cases hu : u = users i
      · simp [hu]
      · simp [hu, Ne.symm hu]
    · rw [hn, Bank.settle, hr]
      simp
  rcases replies with ⟨_, -, -, rfl⟩ | ⟨fault, -, rfl | ⟨-, rfl⟩⟩
  · exact back
  · exact left
  · exact back

/-- Coins that are held stay owed when they are spent, whether the bank says so or not. -/
theorem Dues.spend (dues : Dues funds users b taken stakes owed) {payment : PaymentId}
    {amount : Coins} {reply : Except PaymentFault Unit} (hi : stakes i = .held payment amount)
    (replies : b.Replies (.finalize payment true) reply b') :
    Dues funds users b' taken (Function.update stakes i (.spent amount))
      (Function.update owed i (owed i)) := by
  have owes := dues.held.owes i
  rw [hi] at owes
  have kept : Dues funds users b taken (Function.update stakes i (.spent amount))
      (Function.update owed i (owed i)) :=
    dues.move (by simp) (dues.nonneg i) (fun _ _ => rfl) owes.1 (fun p hp => by cases hp)
  have gone : Dues funds users (b.settle payment true) taken
      (Function.update stakes i (.spent amount)) (Function.update owed i (owed i)) :=
    dues.settle (by rw [hi]; rfl) (by simp [Bank.settle_spent]) (dues.nonneg i) owes.1 rfl
  rcases replies with ⟨_, -, -, rfl⟩ | ⟨fault, -, rfl | ⟨-, rfl⟩⟩
  · exact gone
  · exact kept
  · exact gone

/-- Each call of a level-up keeps the dues. -/
theorem Dues.next (dues : Dues funds users b taken stakes owed) {c : Call} {reply : c.Reply}
    (turn : Stake.Next (users i) (stakes i) (.called c reply) stake)
    (h0 : ∀ payment amount, stakes i = .asked payment amount → 0 ≤ amount.toInt)
    (serves : b.Serves c reply b') :
    ∃ owed', Dues funds users b' taken (Function.update stakes i stake) owed' := by
  generalize hs : stakes i = s at turn
  have owes := dues.held.owes i
  rw [hs] at owes
  cases turn with
  | reserved payment amount =>
    rcases serves with ⟨_, -, -, rfl⟩ | ⟨fault, hr, -⟩
    · exact ⟨_, dues.reserve hs (h0 _ _ hs) ⟨rfl, by simp [Bank.reserve_reserved]⟩ rfl⟩
    · cases hr
  | doubtful payment amount ambiguous =>
    rcases serves with ⟨_, hr, -, -⟩ | ⟨fault, -, rfl | ⟨-, rfl⟩⟩
    · cases hr
    · exact ⟨_, dues.frame (.inr owes) (by rw [hs]; rfl)⟩
    · exact ⟨_, dues.reserve hs (h0 _ _ hs) (.inl ⟨rfl, by simp [Bank.reserve_reserved]⟩) rfl⟩
  | rejected payment amount clear =>
    rcases serves with ⟨_, hr, -, -⟩ | ⟨fault, hr, rfl | ⟨ambiguous, -⟩⟩
    · cases hr
    · exact ⟨_, dues.move (n := 0) (by simp [owes.1]) (Int.le_refl 0) (fun _ _ => rfl) rfl
        (fun p hp => by cases hp)⟩
    · cases hr
      rw [clear] at ambiguous
      cases ambiguous
  | stayed payment amount fromLevel fault =>
    obtain rfl : b' = b := serves
    exact ⟨_, dues.frame (.inl owes) (by rw [hs]; rfl)⟩
  | released payment amount reply => exact ⟨_, dues.release hs serves⟩
  | spent payment amount reply => exact ⟨_, dues.spend hs serves⟩
  | free fromLevel up =>
    obtain rfl : b' = b := serves
    exact ⟨_, dues.frame owes (by rw [hs]; rfl)⟩
  | other _ hc =>
    rw [serves.unchanged hc]
    exact ⟨_, dues.frame owes (by rw [hs])⟩

end LevelUp

end Progression
