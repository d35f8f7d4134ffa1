-- What a level-up has at stake, and how far it has come. A stake is the
-- part of a standing that the gateway is about; a level is reached when
-- the store has moved the character up.
import Progression.Proofs.Settlement

namespace Progression.LevelUp

/-! ## Stakes -/

/-- What a level-up has at stake at the gateway. -/
inductive Stake where
  | nothing
  /-- The coins are about to be reserved. -/
  | asked (payment : PaymentId) (amount : Coins)
  | held (payment : PaymentId) (amount : Coins)
  /-- The coins may be reserved, and are to be given back. -/
  | doubtful (payment : PaymentId) (amount : Coins)
  | spent (amount : Coins)

def Stake.payment? : Stake → Option PaymentId
  | .asked payment _ => some payment
  | .held payment _ => some payment
  | .doubtful payment _ => some payment
  | _ => none

def Standing.stake : Standing → Stake
  | .commit deal (.reserve payment) => .asked payment deal.path.amount
  | .commit deal (.advance payment) => .held payment deal.path.amount
  | .commit deal (.release payment _) => .doubtful payment deal.path.amount
  | .commit deal (.spend payment _) => .held payment deal.path.amount
  | .commit deal (.keep _) => .spent deal.path.amount
  | .commit deal (.dropProfile _) => .spent deal.path.amount
  | .settled deal (.ok _) => .spent deal.path.amount
  | _ => .nothing

/-- One turn of a level-up, as far as its stake goes. -/
inductive Stake.Next (user : UserId) : Stake → Deed → Stake → Prop
  | take (payment : PaymentId) (amount : Coins) :
      Next user .nothing (.took payment) (.asked payment amount)
  | reserved (payment : PaymentId) (amount : Coins) :
      Next user (.asked payment amount)
        (.called (.gateway (.initiate user amount payment)) (.ok ())) (.held payment amount)
  | doubtful (payment : PaymentId) (amount : Coins) {fault : PaymentFault}
      (ambiguous : fault.isAmbiguous = true) :
      Next user (.asked payment amount)
        (.called (.gateway (.initiate user amount payment)) (.error fault))
        (.doubtful payment amount)
  | rejected (payment : PaymentId) (amount : Coins) {fault : PaymentFault}
      (clear : fault.isAmbiguous = false) :
      Next user (.asked payment amount)
        (.called (.gateway (.initiate user amount payment)) (.error fault)) .nothing
  | stayed (payment : PaymentId) (amount : Coins) (fromLevel : Level) (fault : StoreFault) :
      Next user (.held payment amount)
        (.called (.store (.incrementLevel user fromLevel)) (.error fault))
        (.doubtful payment amount)
  | released (payment : PaymentId) (amount : Coins) (reply : Except PaymentFault Unit) :
      Next user (.doubtful payment amount) (.called (.gateway (.finalize payment false)) reply)
        .nothing
  | spent (payment : PaymentId) (amount : Coins) (reply : Except PaymentFault Unit) :
      Next user (.held payment amount) (.called (.gateway (.finalize payment true)) reply)
        (.spent amount)
  | free (fromLevel level : Level) :
      Next user .nothing (.called (.store (.incrementLevel user fromLevel)) (.ok level))
        (.spent 0)
  | other (stake : Stake) {c : Call} {reply : c.Reply} (hc : c.payment? = none) :
      Next user stake (.called c reply) stake

namespace Standing

/-- The deal of a level-up whose character has moved up, and its new level. -/
def reached : Standing → Option (Deal × Level)
  | .commit deal (.spend _ up) => some (deal, up)
  | .commit deal (.keep gain) => some (deal, gain.level)
  | .commit deal (.dropProfile gain) => some (deal, gain.level)
  | .settled deal (.ok gain) => some (deal, gain.level)
  | _ => none

/-- Nothing is at stake, and no level is reached. -/
structure Idle (s : Standing) : Prop where
  stake : s.stake = .nothing
  reached : s.reached = none

variable {lifetimes : Lifetimes} {user : UserId} {ds : List Deed} {d : Deed} {s s' : Standing}

theorem idle_ofLevel (r : Reading Level ⊕ Except Refusal Level) : (ofLevel r).Idle := by
  rcases r with _ | (_ | _) <;> exact ⟨rfl, rfl⟩

theorem idle_ofAnswers (current : Level) (price : LevelPrice) (balance : Option Coins)
    (referrals : Option Referrals) : (ofAnswers current price balance referrals).Idle := by
  apply ofAnswers_cases (P := Idle)
  · exact ⟨rfl, rfl⟩
  · exact fun _ _ => ⟨rfl, rfl⟩
  · rintro deal errand - - (rfl | rfl) <;> exact ⟨rfl, rfl⟩

theorem idle_ofPrices (current : Level) (list : PriceList) : (ofPrices current list).Idle :=
  ofPrices_cases (fun _ => ⟨rfl, rfl⟩) (fun _ _ _ => ⟨rfl, rfl⟩) fun _ _ => ⟨rfl, rfl⟩

theorem idle_ofPriceReading (current : Level) (r : Reading PriceList ⊕ Except Refusal PriceList) :
    (ofPriceReading current r).Idle := by
  rcases r with _ | (_ | list)
  · exact ⟨rfl, rfl⟩
  · exact ⟨rfl, rfl⟩
  · exact idle_ofPrices current list

theorem idle_ofResult (deal : Deal) (refusal : Refusal) :
    (ofResult deal (.error refusal)).Idle := by
  cases refusal <;> exact ⟨rfl, rfl⟩

/-- Each turn of a level-up is a turn of its stake. -/
theorem Next.stake (h : Next lifetimes user s d s') (hr : s.Record lifetimes user ds) :
    Stake.Next user s.stake d s'.stake := by
  cases h with
  | readLevel next =>
    rw [(idle_ofLevel _).stake]
    cases next <;> exact .other .nothing rfl
  | readPrices next =>
    rw [(idle_ofPriceReading ..).stake]
    cases next <;> exact .other .nothing rfl
  | balance | referrals =>
    rw [(idle_ofAnswers ..).stake]
    exact .other .nothing rfl
  | noBalance | noReferrals => exact .other .nothing rfl
  | take payment => exact .take payment _
  | reserved => exact .reserved _ _
  | doubtful ambiguous => exact .doubtful _ _ ambiguous
  | rejected clear => exact .rejected _ _ clear
  | advanced => exact .other (.held _ _) rfl
  | stayed fault => exact .stayed _ _ _ fault
  | released reply =>
    rw [(idle_ofResult ..).stake]
    exact .released _ _ reply
  | spent reply => exact .spent _ _ reply
  | @advancedFree deal up =>
    have hpath : deal.path = .free := hr.2.1
    have hs : (commit deal (.keep ⟨up, false⟩)).stake = .spent 0 := by
      simp [Standing.stake, hpath, PaymentPath.amount]
    rw [hs]
    exact .free _ up
  | stayedFree fault =>
    rw [(idle_ofResult ..).stake]
    exact .other .nothing rfl
  | kept | droppedProfile => exact .other (.spent _) rfl
  | droppedLevel => exact .other .nothing rfl

/-- The deed moves the character of the player up. -/
def Moves (user : UserId) (d : Deed) (fromLevel up : Level) : Prop :=
  d = .called (.store (.incrementLevel user fromLevel)) (.ok up)

/-- A level-up reaches a level when the store moves the character up, and stays there. -/
theorem Next.reached (h : Next lifetimes user s d s') :
    (∃ deal errand up, s = .commit deal errand ∧ s.reached = none ∧ Moves user d deal.current up ∧
      s'.reached = some (deal, up)) ∨
    s'.reached = s.reached ∧ ∀ fromLevel up, ¬ Moves user d fromLevel up := by
  unfold Moves
  cases h with
  | readLevel next =>
    rw [(idle_ofLevel _).reached]
    cases next <;> exact .inr ⟨rfl, by simp [Source.level]⟩
  | readPrices next =>
    rw [(idle_ofPriceReading ..).reached]
    cases next <;> exact .inr ⟨rfl, by simp [Source.prices]⟩
  | balance | referrals =>
    rw [(idle_ofAnswers ..).reached]
    exact .inr ⟨rfl, by simp⟩
  | @advanced deal payment up => exact .inl ⟨deal, .advance payment, up, rfl, rfl, rfl, rfl⟩
  | @advancedFree deal up => exact .inl ⟨deal, .advanceFree, up, rfl, rfl, rfl, rfl⟩
  | released | stayedFree =>
    rw [(idle_ofResult ..).reached]
    exact .inr ⟨rfl, by simp⟩
  | _ => exact .inr ⟨rfl, by simp⟩

/-- The price of a level that is reached is held or spent. -/
theorem stake_of_reached {deal : Deal} {up : Level} (h : s.reached = some (deal, up)) :
    (∃ payment, s.stake = .held payment deal.path.amount) ∨ s.stake = .spent deal.path.amount := by
  unfold Standing.reached at h
  split at h
  · cases h
    exact .inl ⟨_, rfl⟩
  · cases h
    exact .inr rfl
  · cases h
    exact .inr rfl
  · cases h
    exact .inr rfl
  · cases h

theorem stake_update {ι : Type} [DecidableEq ι] (stands : ι → Standing) (i : ι) (s' : Standing) :
    (fun j => (Function.update stands i s' j).stake)
      = Function.update (fun j => (stands j).stake) i s'.stake :=
  Function.comp_update stake stands i s'

theorem reached_update {ι : Type} [DecidableEq ι] (stands : ι → Standing) (i : ι)
    (s' : Standing) : (fun j => (Function.update stands i s' j).reached)
      = Function.update (fun j => (stands j).reached) i s'.reached :=
  Function.comp_update reached stands i s'

/-! ## What is written and asked -/

/-- A level-up keeps in the cache only a price list that it has been told. -/
theorem Next.wrote_prices {text : String} {lifetime : Span} {reply : Except CacheFault Unit}
    (h : Next lifetimes user s d s') (hr : s.Record lifetimes user ds)
    (hd : d = .called (.cache (.set .prices text lifetime)) reply) :
    ∃ list, text = encodeText list ∧ (Source.prices lifetimes).Told ds list := by
  cases h with
  | readPrices next =>
    cases next with
    | @kept list reply =>
      cases hd
      exact ⟨list, rfl, hr.2.2⟩
    | _ => cases hd
  | readLevel next => cases next <;> cases hd
  | _ => cases hd

/-- A level-up keeps in the cache only the level of its player: one that it has been told, or the
one that it has reached. -/
theorem Next.wrote_level {u : UserId} {text : String} {lifetime : Span}
    {reply : Except CacheFault Unit} (h : Next lifetimes user s d s')
    (hr : s.Record lifetimes user ds)
    (hd : d = .called (.cache (.set (.level u) text lifetime)) reply) :
    u = user ∧ ∃ up, text = encodeText up ∧
      ((Source.level lifetimes user).Told ds up ∨ ∃ deal, s.reached = some (deal, up)) := by
  cases h with
  | readLevel next =>
    cases next with
    | @kept up reply =>
      cases hd
      exact ⟨rfl, up, rfl, .inl hr.2⟩
    | _ => cases hd
  | readPrices next => cases next <;> cases hd
  | @kept deal gain reply =>
    cases hd
    exact ⟨rfl, gain.level, rfl, .inr ⟨deal, rfl⟩⟩
  | _ => cases hd

/-- A level-up takes a payment id only when it is about to reserve coins. -/
theorem Next.takes {payment : PaymentId} (h : Next lifetimes user s d s')
    (hd : d = .took payment) :
    ∃ deal, s = .commit deal .take ∧ s' = .commit deal (.reserve payment) := by
  cases h with
  | readLevel next => cases next <;> cases hd
  | readPrices next => cases next <;> cases hd
  | take =>
    cases hd
    exact ⟨_, rfl, rfl⟩
  | _ => cases hd

/-- A level-up asks the store to read, or to move its player up. -/
theorem Next.asks {c : StoreCall} {reply : Except StoreFault c.Answer}
    (h : Next lifetimes user s d s') (hd : d = .called (.store c) reply) :
    c = .characterLevel user ∨ c = .allPrices ∨
      ∃ fromLevel, c = .incrementLevel user fromLevel := by
  cases h with
  | readLevel next => cases next <;> cases hd <;> exact .inl rfl
  | readPrices next => cases next <;> cases hd <;> exact .inr (.inl rfl)
  | advanced | stayed | advancedFree | stayedFree =>
    cases hd
    exact .inr (.inr ⟨_, rfl⟩)
  | _ => cases hd

end Standing

end Progression.LevelUp
