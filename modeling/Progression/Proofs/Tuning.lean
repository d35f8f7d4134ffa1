-- The laws of the settings. Five variables must be texts, and the first of
-- them that is none is the fault of the whole. Any other variable that is no
-- number is passed over for its default, so each setting is read on its own.
import Mathlib.Data.List.TakeWhile
import Mathlib.Data.Nat.Digits.Lemmas
import Progression.Settings

namespace Progression

/-! ## Texts without their ends -/

/-- What is left of the text once there are no such characters at its end. -/
def EndCut (p : Char → Bool) (cs core : List Char) : Prop :=
  ∃ cut, cs = core ++ cut ∧ (∀ c ∈ cut, p c = true) ∧ ∀ c, core.getLast? = some c → p c = false

/-- What is left of the text once there are no blanks at its ends. -/
def Trimmed (cs core : List Char) : Prop :=
  ∃ before after, cs = before ++ (core ++ after) ∧ (∀ c ∈ before, isWhiteSpace c = true) ∧
    (∀ c ∈ after, isWhiteSpace c = true) ∧ (∀ c, core.head? = some c → isWhiteSpace c = false) ∧
    ∀ c, core.getLast? = some c → isWhiteSpace c = false

section Cutting

variable {p : Char → Bool} {cs core : List Char}

theorem dropWhile_of_head (h : ∀ c, cs.head? = some c → p c = false) : cs.dropWhile p = cs := by
  cases cs with
  | nil => rfl
  | cons c cs => simp [h c rfl]

theorem head_dropWhile {c : Char} (h : (cs.dropWhile p).head? = some c) : p c = false := by
  have := List.head?_dropWhile_not p cs
  rwa [h] at this

theorem endCut_iff : EndCut p cs core ↔ dropEndWhile p cs = core := by
  unfold dropEndWhile
  constructor
  · rintro ⟨cut, rfl, hcut, hcore⟩
    rw [List.reverse_append, List.dropWhile_append_of_pos (by simpa using hcut),
      dropWhile_of_head (by simpa using hcore), List.reverse_reverse]
  · rintro rfl
    refine ⟨(cs.reverse.takeWhile p).reverse, ?_, ?_, ?_⟩
    · rw [← List.reverse_append, List.takeWhile_append_dropWhile, List.reverse_reverse]
    · intro c hc
      exact List.mem_takeWhile_imp (List.mem_reverse.mp hc)
    · intro c hc
      rw [List.getLast?_reverse] at hc
      exact head_dropWhile hc

theorem trimmed_iff : Trimmed cs core ↔ trimmed cs = core := by
  unfold trimmed
  constructor
  · rintro ⟨before, after, rfl, hbefore, hafter, hhead, hlast⟩
    rw [List.dropWhile_append_of_pos hbefore]
    cases core with
    | nil =>
      rw [List.nil_append, List.dropWhile_eq_nil_iff.mpr hafter]
      rfl
    | cons c core =>
      rw [dropWhile_of_head (by simpa using hhead)]
      exact endCut_iff.mp ⟨after, rfl, hafter, hlast⟩
  · intro h
    obtain ⟨cut, hcs, hcut, hlast⟩ := endCut_iff.mpr h
    refine ⟨cs.takeWhile isWhiteSpace, cut, ?_, ?_, hcut, ?_, hlast⟩
    · rw [← hcs, List.takeWhile_append_dropWhile]
    · exact fun c => List.mem_takeWhile_imp
    · intro c hc
      have front : (cs.dropWhile isWhiteSpace).head? = some c := by
        rw [hcs, List.head?_append, hc]
        rfl
      exact head_dropWhile front

end Cutting

/-! ## Numerals -/

/-- A text of ASCII digits, at least one of them, and the number that they denote. -/
def Digits (cs : List Char) (n : Nat) : Prop :=
  cs ≠ [] ∧ (∀ c ∈ cs, '0' ≤ c ∧ c ≤ '9') ∧
    n = Nat.ofDigits 10 (cs.reverse.map fun c => c.toNat - '0'.toNat)

/-- Digits, with or without a plus sign before them. -/
def Numeral (cs : List Char) (n : Nat) : Prop :=
  Digits cs n ∨ ∃ digits, cs = '+' :: digits ∧ Digits digits n

namespace Decimal

theorem digit?_eq_some {c : Char} {d : Nat} :
    digit? c = some d ↔ ('0' ≤ c ∧ c ≤ '9') ∧ d = c.toNat - '0'.toNat := by
  have bounds : (48 ≤ c.toNat ∧ c.toNat ≤ 57) ↔ ('0' ≤ c ∧ c ≤ '9') := Iff.rfl
  unfold digit?
  rw [← bounds]
  split
  · rename_i h
    simp only [Option.some.injEq, h, and_self, true_and]
    exact eq_comm
  · rename_i h
    simp [h]

theorem foldl_push?_none (cs : List Char) : cs.foldl push? none = none := by
  induction cs with
  | nil => rfl
  | cons c cs ih => exact ih

/-- Digits are read from the left, each one after ten times what was read before it. -/
theorem foldl_push?_eq_some {cs : List Char} {m n : Nat} :
    cs.foldl push? (some m) = some n ↔ (∀ c ∈ cs, '0' ≤ c ∧ c ≤ '9') ∧
      n = Nat.ofDigits 10 (cs.reverse.map fun c => c.toNat - '0'.toNat) + 10 ^ cs.length * m := by
  induction cs generalizing m with
  | nil => simp [eq_comm]
  | cons c cs ih =>
    rw [List.foldl_cons]
    cases hd : digit? c with
    | none =>
      have hc : ¬ ('0' ≤ c ∧ c ≤ '9') := fun hc => by
        simp [digit?_eq_some.mpr ⟨hc, rfl⟩] at hd
      simp only [push?, hd, foldl_push?_none]
      simp [hc]
    | some d =>
      obtain ⟨hc, rfl⟩ := digit?_eq_some.mp hd
      simp only [push?, hd, ih, List.forall_mem_cons, hc, and_self, true_and, List.reverse_cons,
        List.map_append, Nat.ofDigits_append, List.map_cons, List.map_nil, Nat.ofDigits_singleton,
        List.length_map, List.length_reverse, List.length_cons]
      refine and_congr_right fun _ => Eq.congr_right ?_
      ring

theorem value?_eq_some {cs : List Char} {n : Nat} : value? cs = some n ↔ Digits cs n := by
  unfold value? Digits
  cases cs with
  | nil => simp
  | cons c cs =>
    rw [if_neg (by simp), foldl_push?_eq_some]
    simp

theorem below?_eq_some {bound n : Nat} (h : 0 < bound) {cs : List Char} :
    below? bound cs = some n ↔ Digits cs n ∧ n < bound := by
  rw [below?_eq_filter h, Option.filter_eq_some_iff, value?_eq_some]
  simp

theorem unsigned?_eq_some {bound n : Nat} (h : 0 < bound) {cs : List Char} :
    unsigned? bound cs = some n ↔ Numeral cs n ∧ n < bound := by
  have plus {digits : List Char} : ¬ Digits ('+' :: digits) n := by
    rintro ⟨-, hall, -⟩
    exact absurd (hall '+' List.mem_cons_self) (by decide)
  unfold unsigned? Numeral
  split
  · rename_i digits
    rw [below?_eq_some h]
    simp [plus]
  · rename_i hne
    rw [below?_eq_some h]
    have no : ¬ ∃ digits, cs = '+' :: digits ∧ Digits digits n := by
      rintro ⟨digits, rfl, -⟩
      exact hne digits rfl
    simp [no]

end Decimal

/-! ## The settings, one by one -/

namespace Settings

/-- A setting that must be a text. -/
structure TextField where
  name : String
  value : Settings → String

/-- The settings that must be texts, in the order in which they are read. -/
def texts : List TextField :=
  [⟨"DATABASE_URL", databaseUrl⟩, ⟨"REDIS_URL", redisUrl⟩, ⟨"SERVER_HOST", serverHost⟩,
    ⟨"USER_SERVICE_URL", userServiceUrl⟩, ⟨"REFERRAL_SERVICE_URL", referralServiceUrl⟩]

/-- A setting that is a number. -/
structure NumberField where
  name : String
  default : Nat
  greatest : Nat
  /-- The number may be followed by letters s. -/
  isTime : Bool
  value : Settings → Nat

/-- The settings that are numbers. -/
def numbers : List NumberField :=
  [⟨"DATABASE_MAX_CONNECTIONS", 10, 2 ^ 32 - 1, false, (·.databaseMaxConnections.toNat)⟩,
    ⟨"SERVER_PORT", 3000, 2 ^ 16 - 1, false, (·.serverPort.toNat)⟩,
    ⟨"CACHE_LIFETIME", 3600, 2 ^ 64 - 1, true, (·.cacheLifetimeSecs.toNat)⟩,
    ⟨"LEVEL_PRICES_LIFETIME", 86400, 2 ^ 64 - 1, true, (·.pricesLifetimeSecs.toNat)⟩,
    ⟨"CLIENT_TIMEOUT", 5, 2 ^ 64 - 1, true, (·.clientTimeoutSecs.toNat)⟩,
    ⟨"CLIENT_RETRIES", 3, 2 ^ 32 - 1, false, (·.clientRetries.toNat)⟩,
    ⟨"REQUEST_TIMEOUT", 15, 2 ^ 64 - 1, true, (·.requestTimeoutSecs.toNat)⟩]

namespace NumberField

/-- The variable denotes the number: blanks at the ends do not count, nor do letters s at the end
of a time. -/
def Denotes (field : NumberField) (v : Variable) (n : Nat) : Prop :=
  ∃ text core numeral, v = .text text ∧ Trimmed text.toList core ∧
    (if field.isTime then EndCut (· == 's') core numeral else numeral = core) ∧
    Numeral numeral n ∧ n ≤ field.greatest

/-- The variable is read as the number: it denotes it, or it denotes none and the number is the
default. -/
def Reads (field : NumberField) (v : Variable) (n : Nat) : Prop :=
  field.Denotes v n ∨ n = field.default ∧ ∀ m, ¬ field.Denotes v m

/-- The number that a text is for the field. -/
def read? (field : NumberField) : List Char → Option Nat :=
  if field.isTime then seconds? (field.greatest + 1) else number? (field.greatest + 1)

variable {field : NumberField} {v : Variable} {n : Nat}

theorem read?_eq_some {cs : List Char} : field.read? cs = some n ↔ ∃ core numeral,
    Trimmed cs core ∧ (if field.isTime then EndCut (· == 's') core numeral else numeral = core) ∧
    Numeral numeral n ∧ n ≤ field.greatest := by
  unfold read?
  simp only [trimmed_iff, endCut_iff]
  split
  · unfold seconds?
    simp [Decimal.unsigned?_eq_some]
  · unfold number?
    simp [Decimal.unsigned?_eq_some]

theorem denotes_iff :
    field.Denotes v n ↔ ∃ text, v = .text text ∧ field.read? text.toList = some n := by
  unfold Denotes
  simp only [read?_eq_some]
  simp

theorem lt_of_read? {cs : List Char} (h : field.read? cs = some n) : n < field.greatest + 1 := by
  obtain ⟨_, _, -, -, -, hn⟩ := read?_eq_some.mp h
  omega

/-- A number that cannot be read is the default. -/
theorem optional_eq_iff {env : Environment} :
    optional env field.name field.read? field.default = n ↔ field.Reads (env field.name) n := by
  unfold optional Reads
  simp only [denotes_iff]
  cases env field.name with
  | text text =>
    cases hr : field.read? text.toList with
    | none => simp [hr, eq_comm]
    | some m => simp [hr]
  | _ => simp [eq_comm]

theorem optional_lt {env : Environment} (h : field.default < field.greatest + 1) :
    optional env field.name field.read? field.default < field.greatest + 1 := by
  unfold optional
  split
  · rename_i text _
    cases hr : field.read? text.toList with
    | none => exact h
    | some m => exact lt_of_read? hr
  · exact h

end NumberField

/-! ## All of them -/

/-- What is wrong with a variable that must be a text. -/
def faultOf? : Variable → Option SettingsFault
  | .unset => some .unset
  | .notText => some .notText
  | .text _ => none

/-- The first variable that must be a text and is none has that fault. -/
def FirstFault (env : Environment) (fault : SettingsFault) : Prop :=
  ∃ before field after, texts = before ++ field :: after ∧
    faultOf? (env field.name) = some fault ∧ ∀ f ∈ before, ∃ text, env f.name = .text text

theorem faultOf?_eq_none {v : Variable} : faultOf? v = none ↔ ∃ text, v = .text text := by
  cases v <;> simp [faultOf?]

theorem firstFault_iff {env : Environment} {fault : SettingsFault} :
    FirstFault env fault ↔ texts.findSome? (fun f => faultOf? (env f.name)) = some fault := by
  rw [List.findSome?_eq_some_iff]
  simp only [faultOf?_eq_none]
  rfl

/-- The first variable that must be a text and is none is the fault of the whole. -/
theorem ofEnvironment_eq_error {env : Environment} {fault : SettingsFault} :
    ofEnvironment env = .error fault ↔ FirstFault env fault := by
  rw [firstFault_iff]
  unfold ofEnvironment required
  simp only [texts, List.findSome?_cons, List.findSome?_nil]
  -- As soon as one variable is no text, nothing else is looked at.
  cases env "DATABASE_URL" with
  | text =>
    cases env "REDIS_URL" with
    | text =>
      cases env "SERVER_HOST" with
      | text =>
        cases env "USER_SERVICE_URL" with
        | text =>
          cases env "REFERRAL_SERVICE_URL" <;>
            simp [faultOf?, bind, Except.bind, pure, Except.pure]
        | _ => simp [faultOf?, bind, Except.bind]
      | _ => simp [faultOf?, bind, Except.bind]
    | _ => simp [faultOf?, bind, Except.bind]
  | _ => simp [faultOf?, bind, Except.bind]

theorem required_eq_ok {env : Environment} {name text : String} :
    required env name = .ok text ↔ env name = .text text := by
  unfold required
  cases env name <;> simp

theorem bind_eq_ok {ε α β : Type} {x : Except ε α} {f : α → Except ε β} {b : β} :
    (x >>= f) = .ok b ↔ ∃ a, x = .ok a ∧ f a = .ok b := by
  cases x with
  | error => simp [bind, Except.bind]
  | ok => simp [bind, Except.bind]

/-- Every setting comes from its own variable. -/
theorem of_ofEnvironment {env : Environment} {s : Settings} (h : ofEnvironment env = .ok s) :
    (∀ f ∈ texts, env f.name = .text (f.value s)) ∧
      ∀ f ∈ numbers, f.value s = optional env f.name f.read? f.default := by
  simp only [ofEnvironment, bind_eq_ok, required_eq_ok] at h
  obtain ⟨database, hd, redis, hr, host, hh, users, hu, referrals, hf, hs⟩ := h
  cases hs
  constructor
  · simp only [texts, List.forall_mem_cons]
    exact ⟨hd, hr, hh, hu, hf, nofun⟩
  · have fits (f : NumberField) (hf : f ∈ numbers) :
        optional env f.name f.read? f.default < f.greatest + 1 := by
      refine NumberField.optional_lt ?_
      revert f
      decide
    simp only [numbers, List.forall_mem_cons] at fits ⊢
    obtain ⟨h1, h2, h3, h4, h5, h6, h7, -⟩ := fits
    exact ⟨UInt32.toNat_ofNat_of_lt' h1, UInt16.toNat_ofNat_of_lt' h2, UInt64.toNat_ofNat_of_lt' h3,
      UInt64.toNat_ofNat_of_lt' h4, UInt64.toNat_ofNat_of_lt' h5, UInt32.toNat_ofNat_of_lt' h6,
      UInt64.toNat_ofNat_of_lt' h7, nofun⟩

/-- The settings can be read if and only if each variable that must be a text is one. -/
theorem exists_ofEnvironment {env : Environment} :
    (∃ s, ofEnvironment env = .ok s) ↔ ∀ f ∈ texts, ∃ text, env f.name = .text text := by
  constructor
  · rintro ⟨s, hs⟩ f hf
    exact ⟨_, (of_ofEnvironment hs).1 f hf⟩
  · intro h
    cases hs : ofEnvironment env with
    | ok s => exact ⟨s, rfl⟩
    | error fault =>
      obtain ⟨before, f, after, hf, hfault, -⟩ := ofEnvironment_eq_error.mp hs
      obtain ⟨text, ht⟩ := h f (by simp [hf])
      simp [ht, faultOf?] at hfault

/-! ## The law -/

/-- The settings cannot be read if and only if one of the variables that must be texts is none, and
then for the fault of the first of these; whatever the other variables hold is no fault. A setting
that is a text is what its variable holds. A setting that is a number is the one that its variable
denotes, or its default if that denotes none. So no setting depends on the variable of another. -/
theorem each_setting_is_read_on_its_own (env : Environment) :
    (∀ fault, ofEnvironment env = .error fault ↔ FirstFault env fault) ∧
    ((∃ s, ofEnvironment env = .ok s) ↔ ∀ f ∈ texts, ∃ text, env f.name = .text text) ∧
    ∀ s, ofEnvironment env = .ok s →
      (∀ f ∈ texts, env f.name = .text (f.value s)) ∧
      (∀ f ∈ numbers, ∀ n, f.value s = n ↔ f.Reads (env f.name) n) ∧
      ∀ env' s', ofEnvironment env' = .ok s' →
        (∀ f ∈ texts, env f.name = env' f.name → f.value s = f.value s') ∧
        ∀ f ∈ numbers, env f.name = env' f.name → f.value s = f.value s' := by
  refine ⟨fun fault => ofEnvironment_eq_error, exists_ofEnvironment, fun s hs => ?_⟩
  obtain ⟨ofTexts, ofNumbers⟩ := of_ofEnvironment hs
  have reads (f : NumberField) (hf : f ∈ numbers) (n : Nat) :
      f.value s = n ↔ f.Reads (env f.name) n := by
    rw [ofNumbers f hf]
    exact NumberField.optional_eq_iff
  refine ⟨ofTexts, reads, fun env' s' hs' => ⟨fun f hf same => ?_, fun f hf same => ?_⟩⟩
  · have text' := (of_ofEnvironment hs').1 f hf
    rw [← same, ofTexts f hf] at text'
    exact Variable.text.inj text'
  · rw [reads f hf, same]
    rw [← NumberField.optional_eq_iff, (of_ofEnvironment hs').2 f hf]

/-- An environment in which the lifetime of the cache is a time, and the port is one too large. -/
def lenientEnvironment (name : String) : Variable :=
  if name = "CACHE_LIFETIME" then .text "\t+0045ss\u00a0"
  else if name = "SERVER_PORT" then .text "65536"
  else if name = "CLIENT_RETRIES" then .notText
  else if name ∈ texts.map TextField.name then .text "somewhere"
  else .unset

/-- The time is read in spite of what stands around it, and the port is the default. -/
theorem a_time_is_read_and_a_port_is_not : ∃ s, ofEnvironment lenientEnvironment = .ok s ∧
    s.cacheLifetimeSecs.toNat = 45 ∧ s.serverPort.toNat = 3000 := by
  obtain ⟨-, readable, law⟩ := each_setting_is_read_on_its_own lenientEnvironment
  obtain ⟨s, hs⟩ := readable.mpr (by
    simp only [texts, List.forall_mem_cons]
    exact ⟨⟨_, rfl⟩, ⟨_, rfl⟩, ⟨_, rfl⟩, ⟨_, rfl⟩, ⟨_, rfl⟩, nofun⟩)
  obtain ⟨-, reads, -⟩ := law s hs
  simp only [numbers, List.forall_mem_cons] at reads
  obtain ⟨-, port, lifetime, -⟩ := reads
  refine ⟨s, hs, (lifetime 45).mpr (.inl ?_), (port 3000).mpr (.inr ⟨rfl, fun m => ?_⟩)⟩
  · exact NumberField.denotes_iff.mpr ⟨_, rfl, by decide⟩
  · rw [NumberField.denotes_iff]
    rintro ⟨text, ht, hm⟩
    cases ht
    have none : number? (2 ^ 16 - 1 + 1) "65536".toList = none := by decide
    exact nomatch none.symm.trans hm

end Settings

end Progression
