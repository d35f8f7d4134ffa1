-- What clients are not told. Every plan of the service agrees with itself,
-- so two requests that differ in nothing but what the database or the
-- cache complained of get the same response, byte for byte.
import Progression.Http.Router
import Progression.Proofs.Agreement
import Progression.Proofs.Questions

namespace Progression

/-! ## What is told of it -/

namespace Refusal

variable {refusal refusal' : Refusal}

theorem Alike.kind (h : refusal.Alike refusal') : refusal.kind = refusal'.kind := by
  induction h with
  | same => rfl
  | store => rfl
  | levelUnknown _ ih => exact ih

theorem Alike.code (h : refusal.Alike refusal') : refusal.code = refusal'.code := by
  have hkind := h.kind
  cases h with
  | same => rfl
  | store => rfl
  | levelUnknown =>
    unfold Refusal.code
    exact congrArg RefusalKind.code hkind

/-- A wording that gives the fault away is hidden. -/
theorem Alike.publicMessage (h : refusal.Alike refusal') :
    refusal.publicMessage = refusal'.publicMessage := by
  have hkind := h.kind
  cases h with
  | same => rfl
  | store => rfl
  | levelUnknown =>
    unfold Refusal.publicMessage
    rw [hkind]
    rfl

/-- A verdict on a refusal does not tell the fault. -/
theorem Alike.verdict {α : Type} (h : refusal.Alike refusal') :
    (Verdict.refused refusal : Verdict α) = .refused refusal' := by
  unfold Verdict.refused Refusal.status
  rw [h.kind, h.code, h.publicMessage]

end Refusal

/-! ## Calls, and reads through the cache -/

/-- The plan comes to the same whatever the database and the cache complain of, but for the fault
that it is refused with. -/
def Plan.Discreet {α : Type} (p : Plan (Except Refusal α)) : Prop :=
  p.Agrees (Matches Refusal.Alike) p

section Reads

variable {α : Type}

theorem discreet_ok (a : α) : (Plan.done (.ok a)).Discreet := .done (.ok a)

theorem discreet_error (refusal : Refusal) :
    (Plan.done (.error refusal) : Plan (Except Refusal α)).Discreet :=
  .done (.error (.same refusal))

theorem discreet_askStore (c : StoreCall) : (askStore c).Discreet := by
  refine .call fun reply reply' (hr : Matches StoreFault.Alike reply reply') => .done ?_
  exact hr.mapError fun _ _ h => h.refusal

theorem agrees_fetch [Coded α] (key : Key) : (fetch? (α := α) key).Agrees Eq (fetch? key) := by
  refine .call fun reply reply' (hr : Matches _ reply reply') => ?_
  cases hr with
  | ok text => cases text <;> exact .done rfl
  | error => exact .done rfl

theorem agrees_evict (key : Key) : (evict key).Agrees Eq (evict key) :=
  .call fun _ _ _ => .done rfl

theorem agrees_writeEntry [Coded α] (key : Key) (a : α) (lifetime : Span) :
    (writeEntry key a lifetime).Agrees Eq (writeEntry key a lifetime) :=
  .call fun _ _ _ => .done rfl

theorem discreet_cachedRead [Coded α] {load : Plan (Except Refusal α)} (key : Key)
    (lifetime : Span) (hl : load.Discreet) : (cachedRead key lifetime load).Discreet := by
  refine (agrees_fetch key).bind ?_
  rintro found _ rfl
  cases found with
  | some a => exact discreet_ok a
  | none =>
    refine hl.andThen fun a => (agrees_writeEntry key a lifetime).bind fun _ _ _ => ?_
    exact discreet_ok a

end Reads

/-! ## The questions to the service -/

namespace Service

variable (lifetimes : Lifetimes) (user : UserId)

theorem discreet_level : (level lifetimes user).Discreet :=
  discreet_cachedRead _ _ (discreet_askStore _)

theorem discreet_profile : (profile lifetimes user).Discreet :=
  discreet_cachedRead _ _ (discreet_askStore _)

theorem discreet_catalogue : (catalogue lifetimes).Discreet :=
  discreet_cachedRead _ _ ((discreet_askStore _).andThen fun _ => discreet_ok _)

theorem discreet_prices : (prices lifetimes).Discreet :=
  discreet_cachedRead _ _ ((discreet_askStore _).andThen fun _ => discreet_ok _)

theorem discreet_skins : (skins lifetimes user).Discreet := by
  have ofLevel := only_level lifetimes user
  have ofCatalogue : (catalogue lifetimes).Only
      fun c => ¬ ReadCall (.level user) (.characterLevel user) c := by
    refine (only_catalogue lifetimes).mono fun c hc hl => ?_
    cases hc <;> cases hl
  refine .both _ (discreet_level lifetimes user) (discreet_catalogue lifetimes)
    ⟨ofLevel, ofLevel⟩ ⟨ofCatalogue, ofCatalogue⟩ fun result result' hr => ?_
  cases hr with
  | ok found => exact discreet_ok _
  | error h => exact .done (.error h)

theorem discreet_changeSkin (skin : SkinId) : (changeSkin lifetimes user skin).Discreet := by
  refine (discreet_skins lifetimes user).andThen fun list => ?_
  split
  · exact discreet_error _
  · exact discreet_error _
  · refine (discreet_askStore _).andThen fun _ => ?_
    exact (agrees_evict _).bind fun _ _ _ => discreet_ok _

end Service

/-! ## The level-up -/

namespace LevelUp

variable (lifetimes : Lifetimes) (user : UserId) (payment : PaymentId)

theorem agrees_release {refusal refusal' : Refusal} (h : refusal.Alike refusal') :
    (release payment refusal).Agrees (Matches Refusal.Alike) (release payment refusal') :=
  .call fun _ _ _ => .done (.error h)

theorem discreet_spend (level : Level) : (spend payment level).Discreet := by
  refine .call ?_
  rintro reply _ rfl
  cases reply <;> exact discreet_ok _

theorem discreet_advancePaid (fromLevel : Level) :
    (advancePaid user fromLevel payment).Discreet := by
  refine .call fun reply reply' (hr : Matches StoreFault.Alike reply reply') => ?_
  cases hr with
  | ok level => exact discreet_spend payment level
  | error h => exact agrees_release payment h.refusal

theorem discreet_settle (fromLevel : Level) (price : Coins) :
    (settle user fromLevel price payment).Discreet := by
  refine .call ?_
  rintro reply _ rfl
  rcases reply with fault | _
  · dsimp only
    split
    · exact agrees_release payment (.same _)
    · exact discreet_error _
  · exact discreet_advancePaid user payment fromLevel

theorem discreet_pay (fromLevel : Level) (path : PaymentPath) :
    (pay user fromLevel path).Discreet := by
  cases path with
  | coins price => exact .newPayment fun payment => discreet_settle user payment fromLevel price
  | free => exact (discreet_askStore _).andThen fun _ => discreet_ok _

/-- What the cache is told depends on what has happened only as far as it shows. -/
theorem agrees_refresh {result result' : TaskResult} (h : Matches Refusal.Alike result result') :
    (refresh lifetimes user result).Agrees (Matches Refusal.Alike)
      (refresh lifetimes user result') := by
  cases h with
  | ok gain =>
    refine (agrees_writeEntry _ _ _).bind fun _ _ _ => ?_
    exact (agrees_evict _).bind fun _ _ _ => discreet_ok gain
  | @error refusal _ h =>
    cases h with
    -- A move that was overtaken is no fault of the database, so it is the same on both sides.
    | same =>
      cases refusal with
      | levelMoved => exact (agrees_evict _).bind fun _ _ _ => discreet_error _
      | _ => exact discreet_error _
    | store fault fault' => exact .done (.error (.store fault fault'))
    | levelUnknown h => exact .done (.error (.levelUnknown h))

theorem discreet_commit (fromLevel : Level) (path : PaymentPath) :
    (commit lifetimes user fromLevel path).Discreet :=
  (discreet_pay user fromLevel path).bind fun _ _ => agrees_refresh lifetimes user

theorem agrees_report (balance : Coins) (path : PaymentPath) {result result' : TaskResult}
    (h : Matches Refusal.Alike result result') :
    (report balance path (some result)).Agrees (Matches Refusal.Alike)
      (report balance path (some result')) := by
  cases h with
  | ok gain =>
    unfold report
    dsimp only
    split
    · exact .overflow _
    · exact discreet_ok _
  | error h => exact .done (.error h)

theorem discreet_buy (current : Level) (price : LevelPrice) (balance : Coins)
    (referrals : Referrals) : (buy lifetimes user current price balance referrals).Discreet := by
  unfold buy
  split
  · exact discreet_error _
  · refine .detach (discreet_commit lifetimes user current _) (discreet_error _) fun _ _ h => ?_
    exact agrees_report balance _ h

theorem agrees_askGateway (c : GatewayCall) :
    (askGateway c).Agrees (Matches Eq) (askGateway c) := by
  refine .call ?_
  rintro reply _ rfl
  rcases reply with fault | answer
  · exact .done (.error rfl)
  · exact .done (.ok answer)

/-- The two questions to the gateway are told apart by what they ask. -/
theorem discreet_quote (current : Level) (prices : PriceList) :
    (quote lifetimes user current prices).Discreet := by
  unfold quote
  split
  · exact .overflow _
  · split
    · exact discreet_error _
    · have balance : (askGateway (.balance user)).Only (· = .gateway (.balance user)) :=
        ⟨rfl, fun _ => trivial⟩
      have referrals :
          (askGateway (.referrals user)).Only fun c => ¬ c = .gateway (.balance user) :=
        ⟨nofun, fun _ => trivial⟩
      refine .both (· = .gateway (.balance user)) (agrees_askGateway _) (agrees_askGateway _)
        ⟨balance, balance⟩ ⟨referrals, referrals⟩ fun result result' hr => ?_
      cases hr with
      | ok funds => exact discreet_buy lifetimes user current _ funds.1 funds.2
      | error h =>
        rw [h]
        exact discreet_error _

theorem discreet_currentLevel : (currentLevel lifetimes user).Discreet :=
  (Service.discreet_level lifetimes user).map fun _ _ h => h.mapError fun _ _ => .levelUnknown

end LevelUp

theorem Service.discreet_levelUp (lifetimes : Lifetimes) (user : UserId) :
    (levelUp lifetimes user).Discreet :=
  (LevelUp.discreet_currentLevel lifetimes user).andThen fun current =>
    (discreet_prices lifetimes).andThen fun prices =>
      LevelUp.discreet_quote lifetimes user current prices

/-! ## The routes -/

namespace Http

/-- A verdict shows nothing of what the database complained of. -/
theorem agrees_verdictOf {α β : Type} (form : α → β) {plan : Plan (Except Refusal α)}
    (h : plan.Discreet) : (verdictOf form plan).Agrees Eq (verdictOf form plan) := by
  refine h.map fun result result' hr => ?_
  cases hr with
  | ok => rfl
  | error h => exact h.verdict

theorem agrees_forUser {β : Type} (user : UserId) {plan : Plan (Verdict β)}
    (h : plan.Agrees Eq plan) :
    (Handler.forUser user plan).Agrees Eq (Handler.forUser user plan) := by
  unfold Handler.forUser
  split
  · exact .done rfl
  · exact h

theorem agrees_respondTo {α β : Type} [Coded β] (read : Except Response α)
    {answer : α → Plan (Verdict β)} (h : ∀ a, (answer a).Agrees Eq (answer a)) :
    (respondTo read answer).Agrees Eq (respondTo read answer) := by
  cases read with
  | ok a => exact (h a).map fun _ _ => congrArg ofVerdict
  | error response => exact .done rfl

theorem agrees_answer (lifetimes : Lifetimes) (request : Request) (endpoint : Endpoint) :
    (endpoint.answer lifetimes request).Agrees Eq (endpoint.answer lifetimes request) := by
  cases endpoint with
  | create =>
    exact agrees_respondTo _ fun user =>
      agrees_forUser user (agrees_verdictOf _ (discreet_askStore _))
  | level =>
    exact agrees_respondTo _ fun user =>
      agrees_forUser user (agrees_verdictOf _ (Service.discreet_level lifetimes user))
  | profile =>
    exact agrees_respondTo _ fun user =>
      agrees_forUser user (agrees_verdictOf _ (Service.discreet_profile lifetimes user))
  | skins =>
    exact agrees_respondTo _ fun user =>
      agrees_forUser user (agrees_verdictOf _ (Service.discreet_skins lifetimes user))
  | prices =>
    exact (agrees_verdictOf _ (Service.discreet_prices lifetimes)).map fun _ _ => congrArg ofVerdict
  | levelUp =>
    exact agrees_respondTo _ fun user =>
      agrees_forUser user (agrees_verdictOf _ (Service.discreet_levelUp lifetimes user))
  | activeSkin =>
    refine agrees_respondTo _ fun named => agrees_forUser named.1 ?_
    split
    · exact .done rfl
    · exact agrees_verdictOf _ (Service.discreet_changeSkin lifetimes named.1 named.2)

theorem agrees_route (lifetimes : Lifetimes) (request : Request) :
    (route lifetimes request).Agrees Eq (route lifetimes request) := by
  unfold route
  dsimp only
  split
  · exact .done rfl
  · split
    · exact .done rfl
    · split
      · exact (agrees_answer lifetimes request _).map fun _ _ => congrArg Response.logged
      · exact .done rfl

end Http

/-! ## Two runs -/

/-- Two runs of a request whose replies agree but for what the database and the cache complained of
come to the same response, byte for byte, as it leaves the log and whatever is done to it behind the
log. On the way there, what the one may do next the other may do as well. -/
theorem no_client_is_told_what_has_failed {σ ι : Type} [DecidableEq ι]
    {col col' : Collaborators σ} {lifetimes : Lifetimes} {request : Http.Request}
    {finish : Http.Response → Http.Response} {s t s' t' : System σ fun _ : ι => Http.Response}
    {h h' : History ι} {i : ι} (run : System.Run col s h t) (run' : System.Run col' s' h' t')
    (asked : s.plans i = (Http.route lifetimes request).map finish)
    (asked' : s'.plans i = (Http.route lifetimes request).map finish)
    (agree : List.Forall₂ Deed.Agrees (h.of i) (h'.of i)) :
    (∀ response, t.plans i = .done response ↔ t'.plans i = .done response) ∧
    ∀ d d', d.Agrees d' →
      ((∃ q, (t.plans i).Step d q) ↔ ∃ q', (t'.plans i).Step d' q') := by
  have agrees := (Http.agrees_route lifetimes request).map fun _ _ => congrArg finish
  have now : (t.plans i).Agrees Eq (t'.plans i) :=
    agrees.steps (asked ▸ run.steps i) (asked' ▸ run'.steps i) agree
  have back : (t'.plans i).Agrees Eq (t.plans i) :=
    agrees.steps (asked' ▸ run'.steps i) (asked ▸ run.steps i)
      (List.Forall₂.flip (agree.imp fun _ _ => Deed.Agrees.symm))
  refine ⟨now.done_iff, fun d d' hd => ⟨?_, ?_⟩⟩
  · rintro ⟨q, step⟩
    exact (now.step step hd).1
  · rintro ⟨q', step'⟩
    exact (back.step step' hd.symm).1

/-! ## A level-up without a database -/

/-- A request for a level-up; its body names player 7. -/
def aLevelUpRequest : Http.Request where
  method := "POST"
  path := "/api/characters/level-up"
  query := none
  headers := [("content-type", "application/json")]
  body := [123, 34, 117, 115, 101, 114, 95, 105, 100, 34, 58, 55, 125]

theorem read_aLevelUpRequest : Http.readBody Http.readUser aLevelUpRequest = .ok 7 := by
  have json : Http.saysJson (aLevelUpRequest.headers.first? Http.contentType) = true := by
    show Http.saysJson (some "application/json") = true
    unfold Http.saysJson Http.MediaType.parse? Http.isTokenChar
    simp only [String.contains_char_eq]
    decide
  have user : Http.readUser (Utf8.glyphs aLevelUpRequest.body) = .ok 7 := by rfl
  have short : ¬ Http.bodyLimit < aLevelUpRequest.body.length := by decide
  unfold Http.readBody
  rw [json, if_neg short, user]
  rfl

theorem route_aLevelUpRequest (lifetimes : Lifetimes) :
    Http.route lifetimes aLevelUpRequest
      = ((Http.verdictOf (LevelUpAnswer.mk true) (Service.levelUp lifetimes 7)).map
          Http.ofVerdict).map Http.Response.logged := by
  have path : Http.Endpoint.ofPath? aLevelUpRequest.path = some .levelUp := by decide
  have method : aLevelUpRequest.method ∈ Http.Endpoint.levelUp.methods := by decide
  have options : aLevelUpRequest.method ≠ "OPTIONS" := by decide
  unfold Http.route
  simp only [if_neg options, path, if_pos method, Http.Endpoint.answer, read_aLevelUpRequest,
    Http.respondTo]
  rfl

/-- Collaborators that reply as they like. -/
def AnyReply : Collaborators Unit := fun _ _ _ after => after = ()

/-- A player asks for a level-up. -/
def oneRequest : System Unit fun _ : Unit => Http.Response :=
  ⟨(), ∅, fun _ => (Http.route ⟨.ofSeconds 300, .ofSeconds 3600⟩ aLevelUpRequest).map id⟩

/-- The cache and the database are out of reach, for these reasons. -/
def outage (cache : CacheFault) (database : DatabaseFault) : History Unit :=
  [((), .called (.cache (.get (.level 7))) (.error cache)),
    ((), .called (.store (.characterLevel 7)) (.error (.database database)))]

/-- What the player gets. -/
theorem oneRequest_outage (cache : CacheFault) (database : DatabaseFault) :
    ∃ t response, System.Run AnyReply oneRequest (outage cache database) t ∧
      t.plans () = .done response ∧ response.status = 500 := by
  have nothing : System.Run AnyReply oneRequest [] oneRequest := .start
  have asked : oneRequest.plans () = (((Http.verdictOf (LevelUpAnswer.mk true)
      (Service.levelUp ⟨.ofSeconds 300, .ofSeconds 3600⟩ 7)).map
        Http.ofVerdict).map Http.Response.logged).map id := by
    unfold oneRequest
    rw [route_aLevelUpRequest]
  obtain ⟨_, run, hp, -⟩ := nothing.called asked
    (.call (c := .cache (.get (.level 7))) (Except.error cache)) rfl
  obtain ⟨t, run, hp, -⟩ := run.called hp
    (.call (c := .store (.characterLevel 7)) (Except.error (.database database))) rfl
  exact ⟨t, _, run, hp, Http.Response.status_logged _⟩

/-- Whether the pool is exhausted or the database refuses the statement, the player gets the same
response. -/
theorem two_outages_look_the_same :
    ∃ t t' response,
      System.Run AnyReply oneRequest (outage (.backend "timed out") .poolTimedOut) t ∧
      System.Run AnyReply oneRequest
        (outage (.backend "connection refused") (.server "relation does not exist")) t' ∧
      t.plans () = .done response ∧ t'.plans () = .done response ∧ response.status = 500 := by
  obtain ⟨t, response, run, hp, hs⟩ := oneRequest_outage (.backend "timed out") .poolTimedOut
  obtain ⟨t', _, run', -⟩ :=
    oneRequest_outage (.backend "connection refused") (.server "relation does not exist")
  have agree : List.Forall₂ Deed.Agrees
      ((outage (.backend "timed out") .poolTimedOut).of ())
      ((outage (.backend "connection refused") (.server "relation does not exist")).of ()) :=
    .cons (.called (.error trivial)) (.cons (.called (.error (.database _ _))) .nil)
  have same := (no_client_is_told_what_has_failed run run' rfl rfl agree).1
  exact ⟨t, t', response, run, run', hp, (same response).mp hp, hs⟩

end Progression
