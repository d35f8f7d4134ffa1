-- The laws of the log around the routes. A response with a server error is
-- read for the log and put together again; the client is to see nothing of
-- this. It sees nothing exactly as long as the body is within the limit.
import Progression.Decimal
import Progression.Http.Message

namespace Progression.Http

/-! ## What a response says -/

/-- The values that stand under a name, in their order. -/
def Headers.all (headers : Headers) (name : String) : List String :=
  (headers.filter fun header => header.1 == name).map Prod.snd

/-- Whether every length that a response states is the length of its body. -/
def Response.Honest (response : Response) : Prop :=
  ∀ value ∈ response.headers.all contentLength, ∃ bytes,
    response.body.read? = some bytes ∧ Decimal.value? value.toList = some bytes.length

/-- A response passed on so that the client cannot tell. Only the length that the response
states may be another one, or none, and it has to be the length of the body. -/
structure Response.Transparent (given passed : Response) : Prop where
  untouched : isServerError given.status = false → passed = given
  kept : isServerError given.status = true → ∀ bytes, given.body.read? = some bytes →
    passed.status = given.status ∧ passed.body.read? = some bytes ∧
      passed.headers.remove contentLength = given.headers.remove contentLength
  honest : isServerError given.status = true → passed.Honest

theorem Headers.remove_remove (headers : Headers) (name : String) :
    (headers.remove name).remove name = headers.remove name := by
  unfold Headers.remove
  rw [List.filter_filter]
  simp

theorem Headers.all_remove (headers : Headers) (name : String) :
    (headers.remove name).all name = [] := by
  unfold Headers.all Headers.remove
  rw [List.filter_filter]
  simp

/-! ## What the log reads of a body -/

theorem Body.readUpTo?_eq_some {limit : Nat} {body : Body} {bytes : List UInt8} :
    body.readUpTo? limit = some bytes ↔ body.read? = some bytes ∧ bytes.length ≤ limit := by
  unfold Body.readUpTo?
  rw [Option.filter_eq_some_iff]
  simp

theorem Body.readUpTo?_of_long {limit : Nat} {body : Body} {bytes : List UInt8}
    (hb : body.read? = some bytes) (hl : limit < bytes.length) :
    body.readUpTo? limit = none := by
  unfold Body.readUpTo?
  rw [hb]
  simp only [Option.filter_eq_none_iff, Option.some.injEq, decide_eq_true_eq]
  intro given hg
  subst hg
  omega

theorem Body.readUpTo?_of_broken {limit : Nat} {body : Body} (hb : body.read? = none) :
    body.readUpTo? limit = none := by
  unfold Body.readUpTo?
  rw [hb]
  simp

/-- A body that comes in chunks, none of which fails, is read as if it had come at once. -/
theorem Body.read?_chunks (parts : List (List UInt8)) :
    (Body.chunks (parts.map some)).read? = (Body.whole parts.flatten).read? := by
  have h : (parts.map some).mapM id = some parts := by
    induction parts with
    | nil => simp
    | cons part parts ih => simp [ih]
  simp only [Body.read?, h, Option.map_some]

/-- One chunk that fails breaks the body off, wherever it stands. -/
theorem Body.read?_of_failed {list : List (Option (List UInt8))} (h : none ∈ list) :
    (Body.chunks list).read? = none := by
  have hm : list.mapM id = none := by
    induction list with
    | nil => simp at h
    | cons chunk list ih =>
      cases chunk with
      | none => simp
      | some part =>
        have hl : none ∈ list := by simpa using h
        simp [ih hl]
  simp only [Body.read?, hm, Option.map_none]

/-! ## What goes out -/

namespace Response

theorem logged_of_read {response : Response} {bytes : List UInt8}
    (he : isServerError response.status = true)
    (hb : response.body.readUpTo? logLimit = some bytes) :
    response.logged = { response with
      headers := response.headers.remove contentLength, body := .whole bytes } := by
  unfold logged
  rw [if_pos he, hb]

theorem logged_of_given_up {response : Response}
    (he : isServerError response.status = true)
    (hb : response.body.readUpTo? logLimit = none) :
    response.logged = { response with body := .empty } := by
  unfold logged
  rw [if_pos he, hb]

/-- How a body is cut into chunks makes no difference to what goes out. -/
theorem logged_chunks (status : Nat) (headers : Headers) (parts : List (List UInt8))
    (he : isServerError status = true) :
    (Response.mk status headers (.chunks (parts.map some))).logged
      = (Response.mk status headers (.whole parts.flatten)).logged := by
  have hr : (Body.chunks (parts.map some)).readUpTo? logLimit
      = (Body.whole parts.flatten).readUpTo? logLimit := by
    unfold Body.readUpTo?
    rw [Body.read?_chunks]
  unfold logged
  simp only [he, if_true, hr]

theorem transparent_of_read {response : Response} {bytes : List UInt8}
    (hb : response.body.read? = some bytes) (hl : bytes.length ≤ logLimit) :
    response.Transparent response.logged where
  untouched he := logged_of_not_serverError he
  kept he := by
    intro given hg
    rw [logged_of_read he (Body.readUpTo?_eq_some.mpr ⟨hb, hl⟩)]
    have hgb : given = bytes := by
      rw [hb] at hg
      exact (Option.some.inj hg).symm
    subst hgb
    refine ⟨rfl, rfl, ?_⟩
    apply Headers.remove_remove
  honest he := by
    rw [logged_of_read he (Body.readUpTo?_eq_some.mpr ⟨hb, hl⟩)]
    intro value hv
    rw [Headers.all_remove] at hv
    simp at hv

/-- A length that goes out with a body that was given up is the one that the handler stated. -/
theorem honest_given_up (response : Response) :
    Honest { response with body := .empty }
      ↔ ∀ value ∈ response.headers.all contentLength, Decimal.value? value.toList = some 0 := by
  unfold Honest
  constructor
  · intro h value hv
    obtain ⟨bytes, hb, hl⟩ := h value hv
    simp only [Body.read?, Body.empty, Option.some.injEq] at hb
    subst hb
    simpa using hl
  · intro h value hv
    exact ⟨[], rfl, h value hv⟩

/-- A long body is lost: the client gets none, whatever the handler answered. -/
theorem not_transparent_of_long {response : Response} {bytes : List UInt8}
    (he : isServerError response.status = true)
    (hb : response.body.read? = some bytes) (hl : logLimit < bytes.length) :
    ¬ response.Transparent response.logged := by
  intro h
  obtain ⟨-, hr, -⟩ := h.kept he bytes hb
  rw [logged_of_given_up he (Body.readUpTo?_of_long hb hl)] at hr
  simp only [Body.read?, Body.empty, Option.some.injEq] at hr
  subst hr
  simp at hl

theorem transparent_of_broken {response : Response} (hb : response.body.read? = none)
    (hs : ∀ value ∈ response.headers.all contentLength, Decimal.value? value.toList = some 0) :
    response.Transparent response.logged where
  untouched he := logged_of_not_serverError he
  kept _ := by
    intro bytes hr
    rw [hb] at hr
    simp at hr
  honest he := by
    rw [logged_of_given_up he (Body.readUpTo?_of_broken hb)]
    exact (honest_given_up response).mpr hs

/-- The log is transparent to the client exactly in these cases: the response is no server error;
its body is read to its end within the limit; its body breaks off, and the response states no
length other than zero. -/
theorem what_the_log_passes_on (response : Response) :
    response.Transparent response.logged
      ↔ isServerError response.status = false
        ∨ (∃ bytes, response.body.read? = some bytes ∧ bytes.length ≤ logLimit)
        ∨ (response.body.read? = none ∧
            ∀ value ∈ response.headers.all contentLength,
              Decimal.value? value.toList = some 0) := by
  constructor
  · intro h
    by_cases he : isServerError response.status = true
    · right
      cases hb : response.body.read? with
      | some bytes =>
        left
        rcases Nat.lt_or_ge logLimit bytes.length with hl | hl
        · exact absurd h (not_transparent_of_long he hb hl)
        · exact ⟨bytes, rfl, hl⟩
      | none =>
        right
        refine ⟨rfl, ?_⟩
        have hh := h.honest he
        rw [logged_of_given_up he (Body.readUpTo?_of_broken hb)] at hh
        exact (honest_given_up response).mp hh
    · left
      simpa using he
  · intro h
    rcases h with he | ⟨bytes, hb, hl⟩ | ⟨hb, hs⟩
    · refine ⟨fun _ => logged_of_not_serverError he, ?_, ?_⟩
      · intro hn
        rw [he] at hn
        contradiction
      · intro hn
        rw [he] at hn
        contradiction
    · exact transparent_of_read hb hl
    · exact transparent_of_broken hb hs

/-- A server error with a body longer than the log reads. -/
def aLongFailure : Response :=
  ⟨500, [(contentLength, "5001")], .whole (List.replicate 5001 120)⟩

/-- The client gets no body, and is told that it has 5001 bytes. -/
theorem a_long_body_is_lost :
    aLongFailure.logged = ⟨500, [(contentLength, "5001")], .empty⟩
      ∧ ¬ aLongFailure.Transparent aLongFailure.logged := by
  have hb : aLongFailure.body.read? = some (List.replicate 5001 120) := rfl
  have hl : logLimit < (List.replicate 5001 (120 : UInt8)).length := by
    rw [List.length_replicate]
    decide
  constructor
  · exact logged_of_given_up rfl (Body.readUpTo?_of_long hb hl)
  · exact not_transparent_of_long rfl hb hl

end Response

end Progression.Http
