-- What the routes answer. A request that leaves out a number that its route
-- needs, or says zero, is turned away before anybody is asked; any other is
-- the service's to answer, and the status, the code and the data of the
-- answer say alike whether the service did its work, and if not, why.
import Mathlib.Logic.Function.Iterate
import Progression.Proofs.Bodies
import Progression.Proofs.Concealment
import Progression.Proofs.Standing
import Progression.Proofs.Tuning

namespace Progression

/-! ## What a request says -/

namespace Http

/-- The numbers that an endpoint needs. -/
def Endpoint.needs : Endpoint → List String
  | .prices => []
  | .activeSkin => ["user_id", "skin_id"]
  | _ => ["user_id"]

/-- The request says this number under that name, in its query or in its body, or says nothing. -/
inductive Named (request : Request) (endpoint : Endpoint) (name : String) : Option Int → Prop
  | noPair (read : endpoint.isPosted = false)
      (pairs : (queryPairs (request.query.getD "").toList).filter (·.1 == name.toList) = []) :
      Named request endpoint name none
  | pair {value : List Char} {z : Int} (read : endpoint.isPosted = false)
      (pairs : (queryPairs (request.query.getD "").toList).filter (·.1 == name.toList)
        = [(name.toList, value)])
      (reads : Decimal.signed? (1 <<< 63) value = some z) : Named request endpoint name (some z)
  | noMember {value : Json} (posted : endpoint.isPosted = true)
      (spelled : Json.ofGlyphs? (Utf8.glyphs request.body) = some value)
      (said : Says endpoint.needs value name none) : Named request endpoint name none
  | member {value : Json} {literal : List Char} {z : Int} (posted : endpoint.isPosted = true)
      (spelled : Json.ofGlyphs? (Utf8.glyphs request.body) = some value)
      (said : Says endpoint.needs value name (some (.number literal)))
      (reads : Json.integer? literal = some z) : Named request endpoint name (some z)

/-- The request has the form that the endpoint expects. -/
def Endpoint.Decodes (request : Request) : Endpoint → Prop
  | .create | .levelUp => ∃ user, readBody readUser request = .ok user
  | .level | .profile | .skins => ∃ user, readQuery request = .ok user
  | .prices => True
  | .activeSkin => ∃ named, readBody readUserAndSkin request = .ok named

/-- What the service is asked on behalf of a request. -/
inductive Endpoint.Asks (lifetimes : Lifetimes) (request : Request) :
    Endpoint → {α : Type} → Plan (Except Refusal α) → Prop
  | create {user : UserId} (named : Named request .create "user_id" (some user.toInt)) :
      Asks lifetimes request .create (Service.createCharacter user)
  | level {user : UserId} (named : Named request .level "user_id" (some user.toInt)) :
      Asks lifetimes request .level (Service.level lifetimes user)
  | profile {user : UserId} (named : Named request .profile "user_id" (some user.toInt)) :
      Asks lifetimes request .profile (Service.profile lifetimes user)
  | skins {user : UserId} (named : Named request .skins "user_id" (some user.toInt)) :
      Asks lifetimes request .skins (Service.skins lifetimes user)
  | prices : Asks lifetimes request .prices (Service.prices lifetimes)
  | levelUp {user : UserId} (named : Named request .levelUp "user_id" (some user.toInt)) :
      Asks lifetimes request .levelUp (Service.levelUp lifetimes user)
  | activeSkin {user : UserId} {skin : SkinId}
      (named : Named request .activeSkin "user_id" (some user.toInt))
      (skinNamed : Named request .activeSkin "skin_id" (some skin.toInt)) :
      Asks lifetimes request .activeSkin (Service.changeSkin lifetimes user skin)

section Named

variable {request : Request} {endpoint : Endpoint} {name : String} {number number' : Option Int}

theorem Endpoint.nodup_needs (endpoint : Endpoint) : endpoint.needs.Nodup := by
  cases endpoint <;> decide

/-- A request says one thing under a name. -/
theorem Named.unique (h : Named request endpoint name number)
    (h' : Named request endpoint name number') : number = number' := by
  cases h with
  | noPair read pairs =>
    cases h' with
    | noPair => rfl
    | pair _ pairs' => cases pairs.symm.trans pairs'
    | noMember posted | member posted => cases read.symm.trans posted
  | pair read pairs reads =>
    cases h' with
    | noPair _ pairs' => cases pairs'.symm.trans pairs
    | pair _ pairs' reads' =>
      obtain ⟨⟨⟩⟩ := pairs.symm.trans pairs'
      exact reads.symm.trans reads'
    | noMember posted | member posted => cases read.symm.trans posted
  | noMember posted spelled said =>
    cases h' with
    | noPair read | pair read => cases read.symm.trans posted
    | noMember => rfl
    | member _ spelled' said' =>
      obtain rfl := Option.some.inj (spelled.symm.trans spelled')
      cases said.unique endpoint.nodup_needs said'
  | member posted spelled said reads =>
    cases h' with
    | noPair read | pair read => cases read.symm.trans posted
    | noMember _ spelled' said' =>
      obtain rfl := Option.some.inj (spelled.symm.trans spelled')
      cases said.unique endpoint.nodup_needs said'
    | member _ spelled' said' reads' =>
      obtain rfl := Option.some.inj (spelled.symm.trans spelled')
      cases said.unique endpoint.nodup_needs said'
      exact reads.symm.trans reads'

theorem named_of_found (endpoint : Endpoint) {value : Json} (field : Field) {found : Option Json}
    (posted : endpoint.isPosted = true)
    (spelled : Json.ofGlyphs? (Utf8.glyphs request.body) = some value)
    (said : Says endpoint.needs value field.name found) (h : field.Found found number) :
    Named request endpoint field.name number := by
  cases h with
  | absent => exact .noMember posted spelled said
  | number reads => exact .member posted spelled said reads

theorem Field.Found.fits {field : Field} {found : Option Json} (h : field.Found found number)
    (zero : field.least ≤ 0 ∧ 0 ≤ field.greatest) :
    field.least ≤ number.getD 0 ∧ number.getD 0 ≤ field.greatest := by
  cases h with
  | absent => exact zero
  | number _ fits => exact fits

theorem readBody_ok {α : Type} {read : List Json.Glyph → Except FormFault α} {a : α}
    (h : readBody read request = .ok a) : read (Utf8.glyphs request.body) = .ok a := by
  unfold readBody at h
  split at h
  · cases h
  · split at h
    · cases h
    · split at h
      · cases h
        assumption
      · cases h
      · cases h

theorem toInt_ofInt64 {z : Int} (h : Int64.minValue.toInt ≤ z ∧ z ≤ Int64.maxValue.toInt) :
    (Int64.ofInt z).toInt = z := by
  have hmin : Int64.minValue.toInt = -9223372036854775808 := rfl
  have hmax : Int64.maxValue.toInt = 9223372036854775807 := rfl
  apply Int64.toInt_ofInt_of_le <;> omega

theorem toInt_ofInt32 {z : Int} (h : Int32.minValue.toInt ≤ z ∧ z ≤ Int32.maxValue.toInt) :
    (Int32.ofInt z).toInt = z := by
  have hmin : Int32.minValue.toInt = -2147483648 := rfl
  have hmax : Int32.maxValue.toInt = 2147483647 := rfl
  apply Int32.toInt_ofInt_of_le <;> omega

/-- The player of a decoded body is the one that it names, or zero. -/
theorem named_of_readUser (posted : endpoint.isPosted = true) (needs : endpoint.needs = ["user_id"])
    {user : UserId} (h : readBody readUser request = .ok user) :
    ∃ number, Named request endpoint "user_id" number ∧ user.toInt = number.getD 0 := by
  have read := readBody_ok h
  unfold readUser at read
  cases hf : readForm [userField] (Utf8.glyphs request.body) with
  | error fault => simp [hf, Except.map] at read
  | ok numbers =>
    obtain ⟨value, numbers, spelled, tells, rfl⟩ := tells_of_readForm (by decide) hf
    obtain ⟨found, number, said, reads, kept⟩ := tells.told 0 userField rfl
    obtain ⟨only, rfl⟩ := List.length_eq_one_iff.mp tells.length
    obtain rfl : only = number := Option.some.inj kept
    rw [hf] at read
    cases read
    exact ⟨only, named_of_found _ userField posted spelled (needs ▸ said) reads,
      toInt_ofInt64 (reads.fits (by decide))⟩

/-- The player and the skin of a decoded body are those that it names, or zero. -/
theorem named_of_readUserAndSkin {user : UserId} {skin : SkinId}
    (h : readBody readUserAndSkin request = .ok (user, skin)) :
    (∃ number, Named request .activeSkin "user_id" number ∧ user.toInt = number.getD 0) ∧
    ∃ number, Named request .activeSkin "skin_id" number ∧ skin.toInt = number.getD 0 := by
  have read := readBody_ok h
  unfold readUserAndSkin at read
  cases hf : readForm [userField, skinField] (Utf8.glyphs request.body) with
  | error fault => simp [hf, Except.map] at read
  | ok numbers =>
    obtain ⟨value, numbers, spelled, tells, rfl⟩ := tells_of_readForm (by decide) hf
    obtain ⟨found, number, said, reads, kept⟩ := tells.told 0 userField rfl
    obtain ⟨found', number', said', reads', kept'⟩ := tells.told 1 skinField rfl
    obtain ⟨first, second, rfl⟩ := List.length_eq_two.mp tells.length
    obtain rfl : first = number := Option.some.inj kept
    obtain rfl : second = number' := Option.some.inj kept'
    rw [hf] at read
    cases read
    have player : Named request .activeSkin "user_id" first :=
      named_of_found .activeSkin userField rfl spelled said reads
    have skin : Named request .activeSkin "skin_id" second :=
      named_of_found .activeSkin skinField rfl spelled said' reads'
    exact ⟨⟨first, player, toInt_ofInt64 (reads.fits (by decide))⟩,
      second, skin, toInt_ofInt32 (reads'.fits (by decide))⟩

/-- A signed number stays within its bound. -/
theorem signed?_fits {bound : Nat} (hb : 0 < bound) {cs : List Char} {z : Int}
    (h : Decimal.signed? bound cs = some z) : -(bound : Int) ≤ z ∧ z < bound := by
  have below {limit : Nat} {cs : List Char} {w : Int} (hl : 0 < limit)
      (hw : (do return ((← Decimal.below? limit cs : Nat) : Int)) = some w) :
      0 ≤ w ∧ w < limit := by
    obtain ⟨n, hn, hw⟩ := Option.bind_eq_some_iff.mp hw
    cases hw
    have := (Decimal.below?_eq_some hl).mp hn |>.2
    omega
  unfold Decimal.signed? Decimal.unsigned? at h
  split at h
  · obtain ⟨w, hw, rfl⟩ := Option.map_eq_some_iff.mp h
    have := below (Nat.succ_pos bound) hw
    omega
  · split at h
    all_goals
      obtain ⟨w, hw, rfl⟩ := Option.map_eq_some_iff.mp h
      have := below hb hw
      omega

/-- The player of a decoded query is the one that it names, or zero. -/
theorem named_of_readQuery (read : endpoint.isPosted = false) {user : UserId}
    (h : readQuery request = .ok user) :
    ∃ number, Named request endpoint "user_id" number ∧ user.toInt = number.getD 0 := by
  unfold readQuery queriedUser? at h
  dsimp only at h
  split at h
  · rename_i hq
    cases h
    split at hq
    · rename_i pairs
      cases hq
      exact ⟨none, .noPair read pairs, rfl⟩
    · rename_i pair pairs
      obtain ⟨z, hz, rfl⟩ := Option.map_eq_some_iff.mp hq
      obtain ⟨name, value⟩ := pair
      obtain ⟨-, same⟩ := List.mem_filter.mp (pairs ▸ List.mem_singleton_self _ :
        (name, value) ∈ (queryPairs (request.query.getD "").toList).filter _)
      obtain rfl : name = "user_id".toList := beq_iff_eq.mp same
      refine ⟨some z, .pair read pairs hz, toInt_ofInt64 ?_⟩
      have fits := signed?_fits (by decide) hz
      have hmin : Int64.minValue.toInt = -((1 <<< 63 : Nat) : Int) := rfl
      have hmax : Int64.maxValue.toInt = ((1 <<< 63 : Nat) : Int) - 1 := rfl
      omega
    · cases hq
  · cases h

end Named

end Http

/-! ## What a status means -/

/-- The status under which an envelope with that code travels. -/
def statusOfCode (code : Int32) : Nat :=
  if code = 0 then 200
  else if code = 1000 then 400
  else if code = 1004 then 404
  else if code = 1006 then 409
  else if code = 3001 then 502
  else if code = 5000 then 500
  else 422

/-- The status that tells of a refusal of that kind. -/
inductive StatusOfKind : RefusalKind → Nat → Prop
  | notFound : StatusOfKind .notFound 404
  | conflict : StatusOfKind .conflict 409
  | payment : StatusOfKind .payment 502
  | policy : StatusOfKind .policy 422
  | infrastructure : StatusOfKind .infrastructure 500

/-- What a fault of the store means to a caller. -/
inductive StoreFault.Means : StoreFault → RefusalKind → Prop
  | noCharacter (user : UserId) : Means (.noCharacter user) .notFound
  | levelMoved (user : UserId) (expected : Level) : Means (.levelMoved user expected) .conflict
  | database (fault : DatabaseFault) : Means (.database fault) .infrastructure

theorem RefusalKind.statusOfKind (kind : RefusalKind) : StatusOfKind kind kind.status := by
  cases kind <;> constructor

theorem StatusOfKind.eq {kind : RefusalKind} {status : Nat} (h : StatusOfKind kind status) :
    status = kind.status := by
  cases h <;> rfl

theorem StatusOfKind.ne_ok {kind : RefusalKind} {status : Nat} (h : StatusOfKind kind status) :
    status ≠ 200 := by
  cases h <;> decide

theorem RefusalKind.code_status (kind : RefusalKind) :
    kind.code ≠ 0 ∧ statusOfCode kind.code = kind.status := by
  cases kind <;> decide

theorem StoreFault.means_ofStore (fault : StoreFault) :
    fault.Means (Refusal.ofStore fault).kind := by
  cases fault <;> constructor

namespace Refusal

/-- A refusal may be wrapped any number of times and stays of its kind. -/
theorem kind_wrapped (wraps : Nat) (refusal : Refusal) :
    (levelUnknown^[wraps] refusal).kind = refusal.kind := by
  induction wraps with
  | zero => rfl
  | succ wraps ih => rw [Function.iterate_succ_apply', kind, ih]

/-- A code of a refusal is none of success, and tells the status. -/
theorem code_status (refusal : Refusal) :
    refusal.code ≠ 0 ∧ statusOfCode refusal.code = refusal.status := by
  have kind := refusal.kind.code_status
  cases refusal with
  | topLevel => exact (by decide : Code.topLevel ≠ 0 ∧ statusOfCode Code.topLevel = 422)
  | tooPoor => exact (by decide : Code.tooPoor ≠ 0 ∧ statusOfCode Code.tooPoor = 422)
  | skinLocked => exact (by decide : Code.skinLocked ≠ 0 ∧ statusOfCode Code.skinLocked = 422)
  | _ => exact kind

end Refusal

namespace Http

/-- The envelope of the response has this code, beside some message, and these data or none. -/
def Response.Carries (response : Response) (code : Int32) (data : Option Json) : Prop :=
  ∃ (text : String) (value : Json) (msg : String),
    response.body = .whole (Utf8.encode text) ∧ Json.parse? text = some value ∧
    value.fields? ["code", "msg", "resp_data"]
      = some [some (encode code), some (encode msg), data]

/-- The response tells, with this code and these data, what a call to the service has come to. -/
structure Response.Reports {α : Type} (response : Response) (result : Except Refusal α)
    (code : Int32) (data : Option Json) : Prop where
  carries : response.Carries code data
  /-- The code fixes the status. -/
  status : response.status = statusOfCode code
  success : response.status = 200 ↔ code = 0
  present : code = 0 ↔ data ≠ none
  ok : data ≠ none ↔ ∃ a, result = .ok a
  /-- Of a refusal the kind of the innermost one fixes the status. -/
  refused (wraps : Nat) (refusal : Refusal)
    (h : result = .error (Refusal.levelUnknown^[wraps] refusal)) :
    StatusOfKind refusal.kind response.status
  faulty (wraps : Nat) (fault : StoreFault)
    (h : result = .error (Refusal.levelUnknown^[wraps] (.ofStore fault))) :
    ∃ kind, fault.Means kind ∧ StatusOfKind kind response.status

theorem carries_ofVerdict {β : Type} [Coded β] (verdict : Verdict β)
    (plain : ∀ data, verdict.envelope.data = some data → (encode data).Plain) :
    (ofVerdict verdict).Carries verdict.envelope.code (verdict.envelope.data.map encode) := by
  obtain ⟨status, ⟨code, msg, data⟩⟩ := verdict
  refine ⟨_, encode (⟨code, msg, data⟩ : Envelope β), msg, rfl, Json.parse?_render _ ?_, ?_⟩
  · refine Json.plain_record ?_
    cases data with
    | none => simp [(kept_int32 code).plain, (kept_string msg).plain]
    | some data => simp [(kept_int32 code).plain, (kept_string msg).plain, plain data rfl]
  · cases data with
    | none =>
      refine Json.fields?_object.mpr ⟨by simp [Json.textOf?_piecesOf], ?_⟩
      simp [Json.valuesOf, Json.isNamed, Json.textOf?_piecesOf]
    | some data => exact Json.fields?_record _ (by simp)

/-- What a route answers when a call to the service has come to that. -/
def answerOf {α β : Type} [Coded β] (form : α → β) (result : Except Refusal α) : Response :=
  ofVerdict (.ofExcept (result.map form))

theorem reports_answerOf {α β : Type} [Coded β] {form : α → β}
    (plain : ∀ a, (encode (form a)).Plain) (result : Except Refusal α) :
    ∃ code data, (answerOf form result).Reports result code data := by
  cases result with
  | ok a =>
    have carries := carries_ofVerdict (.success (form a)) fun _ same =>
      Option.some.inj same ▸ plain a
    refine ⟨0, some (encode (form a)), carries, rfl, iff_of_true rfl rfl, ?_, ?_, nofun, nofun⟩
    · exact iff_of_true rfl nofun
    · exact iff_of_true nofun ⟨a, rfl⟩
  | error refusal =>
    have carries := carries_ofVerdict (.refused refusal : Verdict β) nofun
    have kind : StatusOfKind refusal.kind (answerOf form (.error refusal)).status :=
      refusal.kind.statusOfKind
    obtain ⟨code, status⟩ := refusal.code_status
    refine ⟨refusal.code, none, carries, status.symm, ?_, ?_, ?_, ?_, ?_⟩
    · exact iff_of_false kind.ne_ok code
    · exact iff_of_false code fun absent => absent rfl
    · exact iff_of_false (fun absent => absent rfl) nofun
    · intro wraps inner same
      cases same
      rwa [Refusal.kind_wrapped] at kind
    · intro wraps fault same
      cases same
      rw [Refusal.kind_wrapped] at kind
      exact ⟨_, fault.means_ofStore, kind⟩

/-! ## From requests to answers -/

/-- A request that an endpoint can read is turned away or answered, as it should be. -/
structure Answered (lifetimes : Lifetimes) (request : Request) (endpoint : Endpoint) : Prop where
  /-- The request says a number under each name, or leaves it out. -/
  named {name : String} (needed : name ∈ endpoint.needs) :
    ∃ number, Named request endpoint name number
  /-- If it leaves one out or says zero, nobody is asked. -/
  turnedAway {name : String} (needed : name ∈ endpoint.needs)
    (missing : Named request endpoint name none ∨ Named request endpoint name (some 0)) :
    ∃ response, endpoint.answer lifetimes request = .done response ∧ response.status = 400 ∧
      response.Carries 1000 none
  /-- Otherwise the service is asked, and the answer tells what it has come to. -/
  served (given : ∀ name ∈ endpoint.needs, ∃ z, z ≠ 0 ∧ Named request endpoint name (some z)) :
    ∃ (α : Type) (call : Plan (Except Refusal α)) (answer : Except Refusal α → Response),
      endpoint.Asks lifetimes request call ∧
      (∀ result, ∃ code data, (answer result).Reports result code data) ∧
      ∀ deeds response, (endpoint.answer lifetimes request).forward.Steps deeds (.done response) ↔
        ∃ result, call.forward.Steps deeds (.done result) ∧ answer result = response

/-! ## What the routes show -/

theorem plain_done (d : Done) : (encode d).Plain :=
  Json.plain_record (by simp [(kept_bool d.success).plain])

theorem plain_levelAnswer (level : Level) : (encode (LevelAnswer.mk level)).Plain :=
  Json.plain_record (by simp [(kept_int32 level).plain])

theorem plain_levelUp (outcome : LevelUpOutcome) : (encode (LevelUpAnswer.mk true outcome)).Plain :=
  Json.plain_record (by simp [(kept_bool true).plain, (kept_int32 outcome.level).plain,
    (kept_int64 outcome.balance).plain, (kept_bool outcome.settlementPending).plain])

section Answered

variable {lifetimes : Lifetimes} {request : Request} {endpoint : Endpoint} {α β : Type} [Coded β]

theorem carries_required (field : String) :
    (ofVerdict (.required field : Verdict β)).Carries 1000 none :=
  carries_ofVerdict (.required field : Verdict β) nofun

theorem respondTo_ok {read : Except Response α} {a : α} (h : read = .ok a)
    (answer : α → Plan (Verdict β)) : respondTo read answer = (answer a).map ofVerdict := by
  rw [h]
  rfl

theorem answers_of_eq {form : α → β} {call : Plan (Except Refusal α)} {deeds : List Deed}
    {response : Response}
    (h : endpoint.answer lifetimes request = (verdictOf form call).map ofVerdict) :
    (endpoint.answer lifetimes request).forward.Steps deeds (.done response) ↔
      ∃ result, call.forward.Steps deeds (.done result) ∧ answerOf form result = response := by
  have whole : (verdictOf form call).map ofVerdict = call.map (answerOf form) := call.bind_bind _ _
  rw [h, whole, Plan.steps_map_iff]

/-- A number is missing, or said to be zero, if and only if the endpoint reads zero for it. -/
theorem missing_iff {name : String} {number : Option Int}
    (named : Named request endpoint name number) :
    (Named request endpoint name none ∨ Named request endpoint name (some 0))
      ↔ number.getD 0 = 0 := by
  constructor
  · rintro (missing | missing)
    · rw [named.unique missing]
      rfl
    · rw [named.unique missing]
      rfl
  · intro zero
    cases number with
    | none => exact .inl named
    | some z =>
      obtain rfl : z = 0 := zero
      exact .inr named

theorem given_of_named {name : String} {number : Option Int}
    (named : Named request endpoint name number)
    (given : ∃ z, z ≠ 0 ∧ Named request endpoint name (some z)) :
    number.getD 0 ≠ 0 ∧ Named request endpoint name (some (number.getD 0)) := by
  obtain ⟨z, nonzero, given⟩ := given
  rw [named.unique given]
  exact ⟨nonzero, given⟩

theorem user_eq_zero_iff {user : UserId} : user = 0 ↔ user.toInt = 0 := by
  rw [← Int64.toInt_inj]
  rfl

theorem answered_forUser {user : UserId} {form : α → β} {call : Plan (Except Refusal α)}
    (needs : endpoint.needs = ["user_id"])
    (named : ∃ number, Named request endpoint "user_id" number ∧ user.toInt = number.getD 0)
    (plain : ∀ a, (encode (form a)).Plain)
    (asks : Named request endpoint "user_id" (some user.toInt) →
      endpoint.Asks lifetimes request call)
    (answer : endpoint.answer lifetimes request
      = (Handler.forUser user (verdictOf form call)).map ofVerdict) :
    Answered lifetimes request endpoint := by
  obtain ⟨number, named, same⟩ := named
  refine ⟨fun {name} needed => ?_, fun {name} needed missing => ?_, fun given => ?_⟩
  · obtain rfl := List.mem_singleton.mp (needs ▸ needed)
    exact ⟨number, named⟩
  · obtain rfl := List.mem_singleton.mp (needs ▸ needed)
    rw [missing_iff named, ← same, ← user_eq_zero_iff] at missing
    refine ⟨_, ?_, rfl, carries_required (β := β) "user_id"⟩
    rw [answer, Handler.forUser, if_pos missing]
    rfl
  · obtain ⟨nonzero, named⟩ := given_of_named named (given _ (needs ▸ List.mem_singleton_self _))
    rw [← same] at nonzero named
    refine ⟨α, call, answerOf form, asks named, reports_answerOf plain, fun deeds response => ?_⟩
    apply answers_of_eq
    rw [answer, Handler.forUser, if_neg (mt user_eq_zero_iff.mp nonzero)]

theorem answered_prices : Answered lifetimes request .prices := by
  refine ⟨nofun, nofun, fun _ => ?_⟩
  have plain (list : PriceList) : (encode list.prices).Plain :=
    (kept_list fun p _ => kept_levelPrice p).plain
  exact ⟨_, Service.prices lifetimes, answerOf PriceList.prices, .prices, reports_answerOf plain,
    fun _ _ => answers_of_eq rfl⟩

theorem answered_activeSkin {user : UserId} {skin : SkinId}
    (h : readBody readUserAndSkin request = .ok (user, skin)) :
    Answered lifetimes request .activeSkin := by
  obtain ⟨⟨number, named, same⟩, number', named', same'⟩ := named_of_readUserAndSkin h
  have answer : Endpoint.activeSkin.answer lifetimes request
      = (Handler.activeSkin lifetimes user skin).map ofVerdict := respondTo_ok h _
  have skinZero : skin = 0 ↔ skin.toInt = 0 := by
    rw [← Int32.toInt_inj]
    rfl
  refine ⟨fun {name} needed => ?_, fun {name} needed missing => ?_, fun given => ?_⟩
  · obtain rfl | needed := List.mem_cons.mp needed
    · exact ⟨number, named⟩
    · obtain rfl := List.mem_singleton.mp needed
      exact ⟨number', named'⟩
  · rw [answer, Handler.activeSkin, Handler.forUser]
    by_cases hu : user = 0
    · rw [if_pos hu]
      exact ⟨_, rfl, rfl, carries_required "user_id"⟩
    -- The player is looked at first, so a skin that is missing counts only for a player.
    · obtain rfl | needed := List.mem_cons.mp needed
      · rw [missing_iff named, ← same, ← user_eq_zero_iff] at missing
        exact absurd missing hu
      · obtain rfl := List.mem_singleton.mp needed
        rw [missing_iff named', ← same', ← skinZero] at missing
        rw [if_neg hu, if_pos missing]
        exact ⟨_, rfl, rfl, carries_required "skin_id"⟩
  · obtain ⟨nonzero, player⟩ := given_of_named named (given _ List.mem_cons_self)
    obtain ⟨nonzero', wears⟩ := given_of_named named' (given "skin_id" (by decide))
    rw [← same] at nonzero player
    rw [← same'] at nonzero' wears
    refine ⟨_, Service.changeSkin lifetimes user skin, answerOf fun _ => (⟨true⟩ : Done),
      .activeSkin player wears, reports_answerOf fun _ => plain_done _, fun deeds response => ?_⟩
    apply answers_of_eq
    rw [answer, Handler.activeSkin, Handler.forUser, if_neg (mt user_eq_zero_iff.mp nonzero),
      if_neg (mt skinZero.mp nonzero')]

end Answered

/-! ## The law -/

/-- Every request that a route can read is answered alike: turned away before anybody is asked if a
number is missing or zero, and otherwise by what the service has come to. -/
theorem every_answer_comes_in_one_envelope (lifetimes : Lifetimes) (request : Request)
    (endpoint : Endpoint) (decoded : endpoint.Decodes request) :
    Answered lifetimes request endpoint := by
  cases endpoint with
  | create =>
    obtain ⟨user, h⟩ := decoded
    exact answered_forUser rfl (named_of_readUser rfl rfl h) (fun _ => plain_done _) .create
      (respondTo_ok h Handler.create)
  | level =>
    obtain ⟨user, h⟩ := decoded
    exact answered_forUser rfl (named_of_readQuery rfl h) plain_levelAnswer .level
      (respondTo_ok h (Handler.level lifetimes))
  | profile =>
    obtain ⟨user, h⟩ := decoded
    exact answered_forUser rfl (named_of_readQuery rfl h) (fun p => (kept_profile p).plain) .profile
      (respondTo_ok h (Handler.profile lifetimes))
  | skins =>
    obtain ⟨user, h⟩ := decoded
    have plain (list : SkinList) : (encode (SkinList.skins list)).Plain := plain_skins list.skins
    exact answered_forUser rfl (named_of_readQuery rfl h) plain .skins
      (respondTo_ok h (Handler.skins lifetimes))
  | prices => exact answered_prices
  | levelUp =>
    obtain ⟨user, h⟩ := decoded
    exact answered_forUser rfl (named_of_readUser rfl rfl h) plain_levelUp .levelUp
      (respondTo_ok h (Handler.levelUp lifetimes))
  | activeSkin =>
    obtain ⟨⟨user, skin⟩, h⟩ := decoded
    exact answered_activeSkin h

/-- What a level-up asks about a player of whom neither the cache nor the store knows. -/
def aStrangersCalls : List Deed :=
  [.called (.cache (.get (.level 7))) (.ok none),
    .called (.store (.characterLevel 7)) (.error (.noCharacter 7))]

theorem steps_aStrangersCalls (lifetimes : Lifetimes) :
    (Service.levelUp lifetimes 7).forward.Steps aStrangersCalls
      (.done (.error (.levelUnknown (.noCharacter 7)))) := by
  have missed : LevelUp.Standing.Next lifetimes 7 (.level .asking)
      (.called (.cache (.get (.level 7))) (.ok none)) (.level .loading) :=
    .readLevel (.miss (by simp))
  have unloaded : LevelUp.Standing.Next lifetimes 7 (.level .loading)
      (.called (.store (.characterLevel 7)) (.error (.noCharacter 7)))
      (.refused (.levelUnknown (.noCharacter 7))) := .readLevel (.unloaded _)
  have asking : ((LevelUp.Standing.level .asking).plan lifetimes 7).forward
      = (LevelUp.Standing.level .asking).plan lifetimes 7 := Plan.forward_call _ _
  rw [LevelUp.Standing.levelUp_eq, asking]
  exact .turn missed.step (.turn unloaded.step .start)

/-- A question for the level of player zero is decoded, and nobody is asked about it. A level-up of
a player without a character is not found, however far inside the refusal says so. -/
theorem player_zero_is_turned_away_and_a_stranger_is_not_found :
    let lifetimes : Lifetimes := ⟨.ofSeconds 300, .ofSeconds 3600⟩
    let request : Request := ⟨"GET", "/api/characters/level", some "user_id=0", [], []⟩
    (Endpoint.level.Decodes request ∧ ∃ response,
      Endpoint.level.answer lifetimes request = .done response ∧ response.status = 400 ∧
        response.Carries 1000 none) ∧
    Endpoint.levelUp.Decodes aLevelUpRequest ∧ ∃ response code,
      (Endpoint.levelUp.answer lifetimes aLevelUpRequest).forward.Steps aStrangersCalls
        (.done response) ∧
      response.status = 404 ∧ code ≠ 0 ∧ response.Carries code none := by
  intro lifetimes request
  constructor
  · have decoded : Endpoint.level.Decodes request := ⟨0, by cbv⟩
    have zero : Named request .level "user_id" (some 0) := by
      refine @Named.pair _ _ _ ['0'] _ rfl ?_ ?_
      · cbv
      · cbv
    have law := every_answer_comes_in_one_envelope lifetimes request .level decoded
    exact ⟨decoded, law.turnedAway List.mem_cons_self (.inr zero)⟩
  · have decoded : Endpoint.levelUp.Decodes aLevelUpRequest := ⟨7, read_aLevelUpRequest⟩
    have named : Named aLevelUpRequest .levelUp "user_id" (some 7) := by
      obtain ⟨number, named, same⟩ :=
        @named_of_readUser aLevelUpRequest .levelUp rfl rfl 7 read_aLevelUpRequest
      cases number with
      | none => cases same
      | some z =>
        obtain rfl : 7 = z := same
        exact named
    have law := every_answer_comes_in_one_envelope lifetimes aLevelUpRequest .levelUp decoded
    have given : ∀ name ∈ Endpoint.levelUp.needs,
        ∃ z, z ≠ 0 ∧ Named aLevelUpRequest .levelUp name (some z) := by
      intro name needed
      obtain rfl := List.mem_singleton.mp needed
      exact ⟨7, by decide, named⟩
    obtain ⟨_, call, answer, asks, reports, answers⟩ := law.served given
    cases asks with
    | @levelUp user named' =>
      obtain rfl : user = 7 := Int64.toInt_inj.mp (Option.some.inj (named'.unique named))
      obtain ⟨code, data, report⟩ := reports (.error (.levelUnknown (.noCharacter 7)))
      have kind := report.refused 1 (.noCharacter 7) rfl
      have refused : code ≠ 0 := fun zero => kind.ne_ok (report.success.mpr zero)
      have silent : data = none := by
        by_contra present
        exact refused (report.present.mpr present)
      exact ⟨decoded, _, code, (answers _ _).mpr ⟨_, steps_aStrangersCalls lifetimes, rfl⟩, kind.eq,
        refused, silent ▸ report.carries⟩

end Http

end Progression
