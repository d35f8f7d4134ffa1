-- A conflict heals the cache. After it the cache has no level for the
-- player. Each later question, asked when the one before has ended, leaves
-- there no level but the one in the store, so a level-up steps up from the
-- level at which the character is, and meets no second conflict.
import Progression.Proofs.Conflict
import Progression.Proofs.Dictation
import Progression.Proofs.Isolation
import Progression.Proofs.Mending
import Progression.Proofs.Overtaking

namespace Progression

open Rehearsal

/-! ## A level-up from a healed cache -/

theorem Refusal.ofStore_ne_levelMoved {fault : StoreFault}
    (h : ∀ user expected, fault ≠ .levelMoved user expected) (cause : StoreFault) :
    Refusal.ofStore fault ≠ .levelMoved cause := by
  cases fault with
  | levelMoved user expected => exact absurd rfl (h user expected)
  | _ => nofun

section Reads

variable {lifetimes : Lifetimes} {user : UserId} {w w' : World} {c : Call} {reply : c.Reply}

/-- A read of the level is told the level in the store, and leaves the cache healed. -/
theorem Reading.Next.fits {r : Reading Level} {r' : Reading Level ⊕ Except Refusal Level}
    (next : Next (.level lifetimes user) r (.called c reply) r') (hr : World.Mends w c reply w')
    (healed : w.Healed user) (fits : ∀ level, value? (.inl r) = some level →
      w.level? user = some level) :
    w'.Healed user ∧ ∀ level, value? r' = some level → w'.level? user = some level := by
  cases next with
  | @hit text level decodes =>
    refine ⟨healed.quiet hr (by simp) (by simp), ?_⟩
    rintro level ⟨⟩
    have told : (Source.level lifetimes user).Told
        [.called (.cache (.get (.level user))) (.ok (some text))] level :=
      .inl ⟨text, by simp [Source.level], decodes⟩
    exact hr.told healed told
  | miss => exact ⟨healed.quiet hr (by simp) (by simp), by simp [value?]⟩
  | loaded level =>
    refine ⟨healed.quiet hr (by simp [Source.level]) (by simp), ?_⟩
    rintro level ⟨⟩
    exact hr.loaded
  | unloaded => exact ⟨healed.quiet hr (by simp [Source.level]) (by simp), by simp [value?]⟩
  | @kept level =>
    have stored := fits level rfl
    constructor
    · apply World.Mends.wrote hr
      intro written hd
      cases (kept_int32 level).decodeText?.symm.trans hd
      exact stored
    · rintro level ⟨⟩
      exact hr.level? (by simp) stored

/-- A read of the prices leaves the level as it is, and meets no conflict. -/
theorem Reading.Next.fits_prices {r : Reading PriceList}
    {r' : Reading PriceList ⊕ Except Refusal PriceList} {level : Level}
    (next : Next (.prices lifetimes) r (.called c reply) r') (hr : World.Mends w c reply w')
    (healed : w.Healed user) (hl : w.level? user = some level) :
    (w'.Healed user ∧ w'.level? user = some level) ∧
      ∀ refusal, r' = .inr (.error refusal) → ∀ cause, refusal ≠ .levelMoved cause := by
  cases next with
  | unloaded fault =>
    refine ⟨⟨healed.quiet hr nofun nofun, hr.level? nofun hl⟩, ?_⟩
    rintro _ ⟨⟩
    exact Refusal.ofStore_ne_levelMoved (hr.no_conflict nofun)
  | _ => exact ⟨⟨healed.quiet hr nofun nofun, hr.level? nofun hl⟩, nofun⟩

end Reads

namespace LevelUp

/-- What is so before each errand of a commit that began when the cache was healed. -/
def Errand.Fits (user : UserId) (deal : Deal) (w : World) : Errand → Prop
  | .take | .reserve _ | .advance _ | .advanceFree =>
    w.Healed user ∧ w.level? user = some deal.current
  | .release _ refusal => w.Healed user ∧ ∀ cause, refusal ≠ .levelMoved cause
  | .spend _ level => w.level? user = some level
  | .keep gain => w.level? user = some gain.level
  | .dropProfile _ => w.Healed user
  | .dropLevel _ => False

namespace Standing

/-- What is so at each standing of a level-up that began when the cache was healed. -/
def Fits (user : UserId) (w : World) : Standing → Prop
  | .level reading => w.Healed user ∧
    ∀ level, Reading.value? (.inl reading) = some level → w.level? user = some level
  | .prices current _ | .funds current .. => w.Healed user ∧ w.level? user = some current
  | .commit deal errand => errand.Fits user deal w
  | .settled _ result => w.Healed user ∧ ∀ cause, result ≠ .error (.levelMoved cause)
  | .refused refusal => w.Healed user ∧ ∀ cause, refusal ≠ .levelMoved cause
  | .beyond => w.Healed user

variable {lifetimes : Lifetimes} {user : UserId} {w w' : World} {current : Level}
  {price : LevelPrice} {deal : Deal}

theorem fits_ofLevel {r : Reading Level ⊕ Except Refusal Level} (healed : w.Healed user)
    (hl : ∀ level, Reading.value? r = some level → w.level? user = some level) :
    (ofLevel r).Fits user w := by
  rcases r with reading | (refusal | current)
  · exact ⟨healed, hl⟩
  · exact ⟨healed, nofun⟩
  · exact ⟨healed, hl current rfl⟩

theorem fits_ofPriceReading {r : Reading PriceList ⊕ Except Refusal PriceList}
    (h : w.Healed user ∧ w.level? user = some current)
    (clear : ∀ refusal, r = .inr (.error refusal) → ∀ cause, refusal ≠ .levelMoved cause) :
    (ofPriceReading current r).Fits user w := by
  rcases r with reading | (refusal | list)
  · exact h
  · exact ⟨h.1, clear refusal rfl⟩
  · exact ofPrices_cases (fun _ => h.1) (fun _ _ _ => ⟨h.1, nofun⟩) fun _ _ => h

theorem fits_ofAnswers {balance : Option Coins} {referrals : Option Referrals}
    (h : w.Healed user ∧ w.level? user = some current) :
    (ofAnswers current price balance referrals).Fits user w := by
  apply ofAnswers_cases (P := Fits user w)
  · exact h
  · exact fun _ _ => ⟨h.1, nofun⟩
  · rintro deal errand rfl - (rfl | rfl) <;> exact h

theorem fits_ofRefusal {refusal : Refusal} (healed : w.Healed user)
    (clear : ∀ cause, refusal ≠ .levelMoved cause) :
    (ofResult deal (.error refusal)).Fits user w := by
  cases refusal with
  | levelMoved cause => exact absurd rfl (clear cause)
  | _ => exact ⟨healed, nofun⟩

/-- Every call of a level-up that fits leaves it fitting: it steps up from the level in the store,
and writes to the cache the level at which it has arrived. -/
theorem Next.fits {s s' : Standing} {c : Call} {reply : c.Reply}
    (h : Next lifetimes user s (.called c reply) s') (hr : World.Mends w c reply w')
    (fits : s.Fits user w) : s'.Fits user w' := by
  cases h with
  | readLevel next =>
    obtain ⟨healed, hl⟩ := next.fits hr fits.1 fits.2
    exact fits_ofLevel healed hl
  | readPrices next =>
    obtain ⟨h, clear⟩ := next.fits_prices hr fits.1 fits.2
    exact fits_ofPriceReading h clear
  | balance | referrals =>
    exact fits_ofAnswers ⟨fits.1.quiet hr nofun nofun, hr.level? nofun fits.2⟩
  | noBalance | noReferrals => exact ⟨fits.1.quiet hr nofun nofun, nofun⟩
  | reserved => exact ⟨fits.1.quiet hr nofun nofun, hr.level? nofun fits.2⟩
  | doubtful | rejected => exact ⟨fits.1.quiet hr nofun nofun, nofun⟩
  | advanced => exact hr.reached
  | stayed fault =>
    obtain ⟨clear, spares⟩ := hr.stays fits.2
    exact ⟨spares.healed fits.1, Refusal.ofStore_ne_levelMoved clear⟩
  | released reply => exact fits_ofRefusal (fits.1.quiet hr nofun nofun) fits.2
  | spent => exact hr.level? nofun fits
  | advancedFree => exact hr.reached
  | stayedFree fault =>
    obtain ⟨clear, spares⟩ := hr.stays fits.2
    exact fits_ofRefusal (spares.healed fits.1) (Refusal.ofStore_ne_levelMoved clear)
  | @kept _ gain =>
    apply World.Mends.wrote hr
    intro level hd
    cases (kept_int32 gain.level).decodeText?.symm.trans hd
    exact fits
  | droppedProfile =>
    refine ⟨World.Healed.quiet fits hr nofun ?_, nofun⟩
    simp
  | droppedLevel => cases fits

theorem Next.fits_took {s s' : Standing} {payment : PaymentId}
    (h : Next lifetimes user s (.took payment) s') (fits : s.Fits user w) : s'.Fits user w := by
  cases h with
  | readLevel next => nomatch next
  | readPrices next => nomatch next
  | take => exact fits

/-- A level-up that has ended leaves the cache healed. -/
theorem Fits.healed {s : Standing} (fits : s.Fits user w)
    (ended : (s.plan lifetimes user).Over) : w.Healed user := by
  rcases over_cases ended with ⟨deal, result, rfl⟩ | ⟨refusal, rfl⟩ | rfl
  · exact fits.1
  · exact fits.1
  · exact fits

theorem Fits.no_conflict {s : Standing} {cause : StoreFault} (fits : s.Fits user w) :
    s.plan lifetimes user ≠ .done (.error (.levelMoved cause)) := by
  intro h
  rcases refused_of_done h with ⟨deal, rfl⟩ | rfl
  · exact fits.2 cause rfl
  · exact fits.2 cause rfl

end Standing

end LevelUp

/-! ## A question that moves no character up -/

/-- A party that binds nothing, from the time when the cache was healed. What it has been told of
the level is the level in the store. -/
structure Mending (lifetimes : Lifetimes) (user : UserId) (ds : List Deed)
    (p : Plan (Except Refusal Json)) (w : World) : Prop where
  healed : w.Healed user
  told : ∀ level, (Source.level lifetimes user).Told ds level → w.level? user = some level
  unbound : ∀ d ∈ ds, d.binds = false
  free : p.Free
  obeys : p.Obeys dictation (fun _ _ => True) ds

namespace Mending

variable {lifetimes : Lifetimes} {user : UserId} {ds : List Deed}
  {p q : Plan (Except Refusal Json)} {w w' : World}

theorem opening {question : Question} (healed : w.Healed user)
    (h : ∀ user, question ≠ .levelUp user) :
    Mending lifetimes user [] (question.plan lifetimes) w where
  healed := healed
  told _ ht := nomatch Source.learnt_nil.eq_of_told ht
  unbound := nofun
  free := Question.free lifetimes h
  obeys := Dictation.obeys_question question

theorem called {c : Call} {reply : c.Reply} (h : Mending lifetimes user ds p w)
    (step : p.Step (.called c reply) q) (hr : World.Mends w c reply w') :
    Mending lifetimes user (ds ++ [.called c reply]) q w' := by
  obtain ⟨⟨_, _, hd, quiet⟩, free⟩ := h.free.step step
  cases hd
  have stays : ∀ fromLevel, c ≠ .store (.incrementLevel user fromLevel) := by
    rintro fromLevel rfl
    cases quiet
  obtain ⟨may, obeys⟩ := h.obeys.called step trivial
  constructor
  · apply h.healed.turn hr stays
    rintro text lifetime level rfl hd
    obtain ⟨d, hm, dictates⟩ := may
    cases dictates with
    | level answer =>
      cases (kept_int32 answer).decodeText?.symm.trans hd
      exact h.told level (.inr ⟨level, hm, rfl⟩)
    | reached => cases h.unbound _ hm
  · intro level ht
    rcases Source.told_snoc.mp ht with ht | ht
    · exact hr.level? stays (h.told level ht)
    · exact hr.told h.healed ht
  · exact List.forall_mem_append.mpr ⟨h.unbound, List.forall_mem_singleton.mpr quiet⟩
  · exact free
  · exact obeys _ rfl

theorem took {payment : PaymentId} (h : Mending lifetimes user ds p w)
    (step : p.Step (.took payment) q) : Mending lifetimes user (ds ++ [.took payment]) q w := by
  obtain ⟨⟨_, _, hd, -⟩, -⟩ := h.free.step step
  cases hd

end Mending

/-! ## A question that has ended -/

namespace System.Run

variable {lifetimes : Lifetimes} {user stranger : UserId} {question : Question} {w : World}
  {taken : Set PaymentId} {h : History Unit} {t : System World fun _ : Unit => Except Refusal Json}

/-- A level-up of a player whose level is right in the cache meets no conflict. -/
theorem mended (run : Run World.Mends (asking lifetimes (fun _ => .levelUp user) w taken) h t)
    (healed : w.Healed user) (ended : (t.plans ()).Over) :
    t.world.Healed user ∧ ∀ cause, t.plans () ≠ .done (.error (.levelMoved cause)) := by
  obtain ⟨s, hp, fits⟩ := run.levelUp_alone (fun _ s w => s.Fits user w) ⟨healed, nofun⟩
    (fun fits next hr => next.fits hr fits) fun fits next => next.fits_took fits
  rw [hp] at ended ⊢
  refine ⟨fits.healed ended.of_map, ?_⟩
  intro cause hr
  obtain ⟨result, hs, hc⟩ := Plan.of_map_done hr
  rcases result with refusal | o
  · cases hc
    exact fits.no_conflict hs
  · cases hc

/-- A level-up of another player does not touch the level. -/
theorem mended_stranger
    (run : Run World.Mends (asking lifetimes (fun _ => .levelUp stranger) w taken) h t)
    (healed : w.Healed user) (other : stranger ≠ user) : t.world.Healed user := by
  have called {s s' : LevelUp.Standing} {c : Call} {reply : c.Reply} {w w' : World}
      (healed : w.Healed user) (next : s.Next lifetimes stranger (.called c reply) s')
      (hr : World.Mends w c reply w') : w'.Healed user := by
    have strange := next.names.ne fun h => other (Option.some.inj h)
    apply healed.quiet hr
    · rintro fromLevel rfl
      exact strange rfl
    · rintro text lifetime rfl
      exact strange rfl
  obtain ⟨s, -, healed⟩ := run.levelUp_alone (fun _ _ w => w.Healed user) healed called
    fun healed _ => healed
  exact healed

theorem mending (run : Run World.Mends (asking lifetimes (fun _ => question) w taken) h t)
    (healed : w.Healed user) (hq : ∀ user, question ≠ .levelUp user) :
    Mending lifetimes user (h.of ()) (t.plans ()) t.world :=
  run.alone (Mending lifetimes user) (.opening healed hq) (fun h step hr => h.called step hr)
    fun h step => h.took step

/-- Every question leaves the cache healed. -/
theorem healed (run : Run World.Mends (asking lifetimes (fun _ => question) w taken) h t)
    (healed : w.Healed user) (ended : (t.plans ()).Over) : t.world.Healed user := by
  by_cases hq : ∃ u, question = .levelUp u
  · obtain ⟨u, rfl⟩ := hq
    by_cases hu : u = user
    · subst hu
      exact (run.mended healed ended).1
    · exact run.mended_stranger healed hu
  · exact (run.mending healed (not_exists.mp hq)).healed

/-- Who asks for the level goes by what it has been told of it. -/
theorem reading (run : Run World.Mends (asking lifetimes (fun _ => .level user) w taken) h t) :
    ∃ r, t.plans () = (Reading.planOr (.level lifetimes user) r).map (Except.map encode) ∧
      Reading.Known (.level lifetimes user) (h.of ()) r := by
  refine run.party (fun ds p => ∃ r,
    p = (Reading.planOr (.level lifetimes user) r).map (Except.map encode) ∧
      Reading.Known (.level lifetimes user) ds r) ?_ ?_
  · refine ⟨.inl .asking, ?_, trivial⟩
    simp only [asking, Question.plan, Service.level_eq]
    rfl
  · rintro ds _ d q ⟨r, rfl, known⟩ step
    obtain ⟨_, turn, rfl⟩ := step.of_map
    rcases r with reading | result
    · obtain ⟨r', next, rfl⟩ := Reading.next_of_step turn
      exact ⟨r', rfl, next.known known⟩
    · exact absurd turn (Plan.Over.no_step trivial)

/-- Who asks for the level, and gets one, gets the level in the store. -/
theorem answers_level
    (run : Run World.Mends (asking lifetimes (fun _ => .level user) w taken) h t)
    (healed : w.Healed user) {json : Json} (answered : t.plans () = .done (.ok json)) :
    ∃ level, json = encode level ∧ t.world.level? user = some level := by
  obtain ⟨r, hp, known⟩ := run.reading
  obtain ⟨result, hr, hj⟩ := Plan.of_map_done (hp.symm.trans answered)
  rcases r with reading | result'
  · cases reading <;> cases hr
  · cases hr
    rcases result with refusal | level
    · cases hj
    · cases hj
      exact ⟨level, rfl, (run.mending healed nofun).told level known⟩

end System.Run

/-! ## One question after another -/

/-- Questions one after another, each asked when the one before has ended, and how each has
ended. -/
inductive Series {σ : Type} (col : Collaborators σ) (lifetimes : Lifetimes) : σ →
    Set PaymentId → List (Question × System σ fun _ : Unit => Except Refusal Json) → Prop
  | nil {w : σ} {taken : Set PaymentId} : Series col lifetimes w taken []
  | cons {w : σ} {taken : Set PaymentId} {question : Question} {h : History Unit}
      {t : System σ fun _ : Unit => Except Refusal Json}
      {rest : List (Question × System σ fun _ : Unit => Except Refusal Json)}
      (run : System.Run col (.asking lifetimes (fun _ => question) w taken) h t)
      (ended : (t.plans ()).Over) (others : Series col lifetimes t.world t.taken rest) :
      Series col lifetimes w taken ((question, t) :: rest)

/-- How a question ends if the cache is healed: a level that is told is the one in the store, and
no level-up meets a conflict. -/
structure Rehearsal.Question.EndsWell (user : UserId) (question : Question)
    (t : System World fun _ : Unit => Except Refusal Json) : Prop where
  level : ∀ json, question = .level user → t.plans () = .done (.ok json) →
    ∃ level, json = encode level ∧ t.world.level? user = some level
  levelUp : ∀ cause, question = .levelUp user →
    t.plans () ≠ .done (.error (.levelMoved cause))

/-- From a healed cache on, every question ends well. -/
theorem Series.endsWell {lifetimes : Lifetimes} {user : UserId} {w : World}
    {taken : Set PaymentId}
    {calls : List (Question × System World fun _ : Unit => Except Refusal Json)}
    (series : Series World.Mends lifetimes w taken calls) (healed : w.Healed user) :
    ∀ call ∈ calls, Rehearsal.Question.EndsWell user call.1 call.2 := by
  induction series with
  | nil => nofun
  | cons run ended _ ih =>
    intro call hm
    rcases List.mem_cons.mp hm with rfl | hm
    · constructor
      · rintro json rfl answered
        exact run.answers_level healed answered
      · rintro cause rfl
        exact (run.mended healed ended).2 cause
    · exact ih (run.healed healed ended) call hm

/-- A level-up that meets a conflict leaves the players what they had, if the coins that it
reserved could be given back. It tells the cache to drop the level, unless it was the prices for
which the store reported the conflict. Once the cache has dropped the level, all later questions,
one after another, end well: the level that is told is the one in the store, and no level-up of the
player meets another conflict. -/
theorem a_conflict_heals_the_cache {lifetimes : Lifetimes} {user : UserId} {world : World}
    {taken : Set PaymentId} {h : History Unit}
    {t : System World fun _ : Unit => Except Refusal Json} {cause : StoreFault}
    (run : System.Run World.MayFail (.asking lifetimes (fun _ => .levelUp user) world taken) h t)
    (refused : t.plans () = .done (.error (.levelMoved cause))) :
    LevelUp.Standing.Restored world (h.of ()) t.world ∧
      ((∃ reply, .called (.cache (.invalidate (.level user))) reply ∈ h.of ()) ∨
        .called (.store .allPrices) (.error cause) ∈ h.of ()) ∧
      (.called (.cache (.invalidate (.level user))) (.ok ()) ∈ h.of () →
        ∀ calls, Series World.Mends lifetimes t.world t.taken calls →
          ∀ call ∈ calls, Rehearsal.Question.EndsWell user call.1 call.2) := by
  obtain ⟨restored, dropped | ⟨blames, undropped⟩⟩ := run.conflict refused
  · refine ⟨restored, .inl dropped.tried, ?_⟩
    intro hm calls series
    apply series.endsWell
    intro text level he
    rw [dropped.gone hm] at he
    cases he
  · refine ⟨restored, .inr blames, ?_⟩
    intro hm
    exact absurd hm (undropped _)

/-! ## Collaborators that nothing disturbs -/

theorem Rehearsal.World.Healthy.mayFail {w w' : World} {c : Call} {reply : c.Reply}
    (h : World.Healthy w c reply w') : World.MayFail w c reply w' := by
  obtain ⟨rfl, rfl⟩ := h
  cases c with
  | store c => exact .inl ⟨rfl, rfl⟩
  | cache c => exact ⟨w, ⟨rfl, fun _ _ h => h⟩, .inl ⟨rfl, rfl⟩⟩
  | gateway c => exact .inl ⟨rfl, rfl⟩

theorem Rehearsal.World.Healthy.mends {w w' : World} {c : Call} {reply : c.Reply}
    (h : World.Healthy w c reply w') : World.Mends w c reply w' := by
  obtain ⟨rfl, rfl⟩ := h
  have spares : w.SparesLevels w := ⟨fun _ => rfl, fun _ _ h => h⟩
  cases c with
  | store c => exact ⟨w, spares, .inl ⟨rfl, rfl⟩⟩
  | cache c => exact ⟨w, spares, .inl ⟨rfl, rfl⟩⟩
  | gateway c =>
    constructor
    · intro user
      show ((w.gateway c).2.characters.get? user).map _ = _
      rw [World.gateway_rest]
      rfl
    · intro user text he
      rw [← he]
      show _ = (w.gateway c).2.cache.get? _
      rw [World.gateway_rest]

/-! ## A conflict, and two questions after it -/

/-- This player has come to the second level, and the cache still says the first one. -/
def aMovedPlayer : World where
  characters := .ofList [(7, ⟨2, 1⟩)]
  accounts := .ofList [(7, ⟨150, 0⟩)]
  reserved := .empty
  cache := .ofList [("level:7", "1"), ("level-prices", "[[[2,100,0,5],[3,50,0,6]]]")]
  prices := [⟨2, 100, 0, 5⟩, ⟨3, 50, 0, 6⟩]
  skins := []

open LevelUp

/-- The third level, for fifty of the coins. -/
def aLaterDeal : Deal := ⟨2, ⟨3, 50, 0, 6⟩, 150, 0, .coins 50⟩

/-- The level-up from the first level: its coins go back, and the level goes from the cache. -/
def aConflict : List Deed :=
  cachedQuestions 7 "1" "[[[2,100,0,5],[3,50,0,6]]]" 150 0 ++ wayBack 7 aDeal ⟨1⟩ 7 1

/-- The level-up from the second level. -/
def anAdvance (lifetimes : Lifetimes) : List Deed :=
  cachedQuestions 7 (encodeText (2 : Level)) "[[[2,100,0,5],[3,50,0,6]]]" 150 0 ++
    wayUp lifetimes 7 aLaterDeal ⟨2⟩ 3

section Moved

variable {lifetimes : Lifetimes}

theorem steps_aConflict : (Service.levelUp lifetimes 7).Steps aConflict
    (.done (.error (.levelMoved (.levelMoved 7 1)))) := by
  have level : decodeText? "1" = some (1 : Level) := rfl
  have prices : decodeText? "[[[2,100,0,5],[3,50,0,6]]]"
      = some (PriceList.mk aMovedPlayer.prices) := rfl
  have found : (1 : Level).next?.bind (PriceList.priceFor? ⟨aMovedPlayer.prices⟩)
      = some aDeal.price := rfl
  exact (steps_cachedQuestions level prices found 150 0).append (steps_wayBack rfl ⟨1⟩ 7 1)

theorem steps_anAdvance : (Service.levelUp lifetimes 7).Steps (anAdvance lifetimes)
    (.done (.ok ⟨3, 100, false⟩)) := by
  have level : decodeText? (encodeText (2 : Level)) = some (2 : Level) :=
    (kept_int32 2).decodeText?
  have prices : decodeText? "[[[2,100,0,5],[3,50,0,6]]]"
      = some (PriceList.mk aMovedPlayer.prices) := rfl
  have found : (2 : Level).next?.bind (PriceList.priceFor? ⟨aMovedPlayer.prices⟩)
      = some aLaterDeal.price := rfl
  exact (steps_cachedQuestions level prices found 150 0).append (steps_wayUp rfl ⟨2⟩ 3)

/-- The collaborators may reply like this to all three of them, one after another. -/
theorem goAlong_aMovedPlayer : ∃ w w' w'' taken taken',
    Collaborators.GoAlong World.Healthy aMovedPlayer ∅ aConflict w taken ∧
    Collaborators.GoAlong World.Healthy w taken
      (readOfStore (Source.level lifetimes 7) (2 : Level)) w' taken ∧
    Collaborators.GoAlong World.Healthy w' taken (anAdvance lifetimes) w'' taken' ∧
    w.accounts.get? 7 = some ⟨150, 0⟩ := by
  refine ⟨?w, ?w', ?w'', ?taken, ?taken', ?conflict, ?read, ?advance, ?coins⟩
  case conflict =>
    repeat apply Collaborators.GoAlong.called (World.healthy_perform _ _)
    apply Collaborators.GoAlong.took (Set.notMem_empty _)
    repeat apply Collaborators.GoAlong.called (World.healthy_perform _ _)
    exact .nil
  case read =>
    repeat apply Collaborators.GoAlong.called (World.healthy_perform _ _)
    exact .nil
  case advance =>
    repeat apply Collaborators.GoAlong.called (World.healthy_perform _ _)
    apply Collaborators.GoAlong.took (by simp)
    repeat apply Collaborators.GoAlong.called (World.healthy_perform _ _)
    exact .nil
  case coins => rfl

end Moved

/-- After the conflict the player has its coins, who asks is told the level in the store, and the
next level-up comes to the third one. -/
theorem after_a_conflict_the_level_is_told_and_the_next_level_up_succeeds :
    ∃ h t h' t' h'' t'', System.Run World.MayFail (.asking ⟨.ofSeconds 300, .ofSeconds 3600⟩
        (fun _ : Unit => .levelUp 7) aMovedPlayer ∅) h t ∧
      t.plans () = .done (.error (.levelMoved (.levelMoved 7 1))) ∧
      LevelUp.Standing.Restored aMovedPlayer (h.of ()) t.world ∧
      t.world.accounts.get? 7 = some ⟨150, 0⟩ ∧
      System.Run World.Mends (.asking ⟨.ofSeconds 300, .ofSeconds 3600⟩
        (fun _ : Unit => .level 7) t.world t.taken) h' t' ∧
      t'.plans () = .done (.ok (encode (2 : Level))) ∧ Question.EndsWell 7 (.level 7) t' ∧
      System.Run World.Mends (.asking ⟨.ofSeconds 300, .ofSeconds 3600⟩
        (fun _ : Unit => .levelUp 7) t'.world t'.taken) h'' t'' ∧
      t''.plans () = .done (.ok (LevelUpOutcome.summary ⟨3, 100, false⟩)) ∧
      Question.EndsWell 7 (.levelUp 7) t'' := by
  let lifetimes : Lifetimes := ⟨.ofSeconds 300, .ofSeconds 3600⟩
  obtain ⟨w, w', w'', taken, taken', conflict, loads, advance, coins⟩ :=
    @goAlong_aMovedPlayer lifetimes
  have levelUp (w : World) (taken : Set PaymentId) : System.Run World.Healthy
      (.asking lifetimes (fun _ : Unit => .levelUp 7) w taken) [] _ := .start
  have level (w : World) (taken : Set PaymentId) : System.Run World.Healthy
      (.asking lifetimes (fun _ : Unit => .level 7) w taken) [] _ := .start
  have read : (Service.level lifetimes 7).Steps
      (readOfStore (Source.level lifetimes 7) (2 : Level)) (.done (.ok (2 : Level))) := by
    rw [Service.level_eq]
    exact (Source.level lifetimes 7).steps_readOfStore (2 : Level)
  obtain ⟨t, run, refused, rfl, rfl, -⟩ :=
    (levelUp aMovedPlayer ∅).follows (steps_aConflict.map _) conflict
  obtain ⟨t', run', told, rfl, same, -⟩ :=
    (level t.world t.taken).follows (i := ()) (read.map _) loads
  obtain ⟨t'', run'', advanced, -⟩ :=
    (levelUp t'.world t'.taken).follows (i := ()) (steps_anAdvance.map _) (same ▸ advance)
  replace run := run.mono World.Healthy.mayFail
  replace run' := run'.mono World.Healthy.mends
  replace run'' := run''.mono World.Healthy.mends
  have twice : Series World.Mends lifetimes t.world t.taken [(.level 7, t'), (.levelUp 7, t'')] :=
    .cons run' (told ▸ trivial) (.cons run'' (advanced ▸ trivial) .nil)
  obtain ⟨restored, -, after⟩ := a_conflict_heals_the_cache run refused
  have ends := after (History.mem_of.mpr (by simp [aConflict, wayBack])) _ twice
  exact ⟨_, t, _, t', _, t'', run, refused, restored, coins, run', told,
    ends (.level 7, t') (by simp), run'', advanced, ends (.levelUp 7, t'') (by simp)⟩

end Progression
