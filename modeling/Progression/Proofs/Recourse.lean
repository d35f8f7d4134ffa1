-- Reads that do without the cache. Whatever the cache holds and however it
-- fails, a read answers with what it finds there or else with what the
-- store says, and asks the store once at most. What the store has told it
-- has the cache keep, and who reads later finds it there, unless the cache
-- was told otherwise or has lost it in between.
import Progression.Proofs.Overtaking
import Progression.Proofs.Way

namespace Progression

open Rehearsal

/-! ## What the way of a read shows -/

/-- The deed is a call to the store. -/
def Deed.asksStore : Deed → Bool
  | .called (.store _) _ => true
  | _ => false

/-- The deed tells the cache to write an entry or to take one out. -/
def Deed.tellsCache : Deed → Bool
  | .called (.cache (.set ..)) _ | .called (.cache (.invalidate _)) _ => true
  | _ => false

/-- In these deeds the cache has given a text of the value. -/
def Source.Found {α : Type} [Coded α] (src : Source α) (ds : List Deed) (a : α) : Prop :=
  ∃ text, .called (.cache (.get src.key)) (.ok (some text)) ∈ ds ∧ decodeText? text = some a

namespace Reading

variable {α : Type} [Coded α] {src : Source α} {ds : List Deed}
  {r : Reading α ⊕ Except Refusal α} {result : Except Refusal α}

theorem Missed.not_decodes {got : Except CacheFault (Option String)} (missed : Missed α got)
    {text : String} (h : .ok (some text) = got) (a : α) : decodeText? text ≠ some a := by
  rw [missed text h.symm]
  nofun

/-- What a read has found is its answer, and then it has not asked the store. -/
theorem Way.found_iff (way : Way src ds (.inr result)) {a : α} :
    src.Found ds a ↔ ds.countP Deed.asksStore = 0 ∧ result = .ok a := by
  cases way with
  | hit decodes => simp [Source.Found, decodes, Deed.asksStore]
  | unloaded missed fault =>
    simpa [Source.Found, Deed.asksStore] using fun _ h => missed.not_decodes h a
  | kept missed answer stored =>
    simpa [Source.Found, Deed.asksStore] using fun _ h => missed.not_decodes h a

theorem Way.spares (way : Way src ds (.inr result)) :
    ds.countP Deed.asksStore = 0 ↔ ∃ a, src.Found ds a := by
  simp only [way.found_iff, exists_and_left]
  cases way <;> simp [Deed.asksStore]

/-- What a read answers that has found nothing is what the store has said. -/
theorem Way.loads (way : Way src ds (.inr result)) (missed : ∀ a, ¬ src.Found ds a) :
    ∃ reply, .called (.store src.load) reply ∈ ds ∧
      result = (reply.mapError Refusal.ofStore).map src.value := by
  cases way with
  | @hit text a decodes => exact absurd ⟨text, by simp, decodes⟩ (missed a)
  | unloaded _ fault => exact ⟨.error fault, by simp, rfl⟩
  | kept _ answer stored => exact ⟨.ok answer, by simp, rfl⟩

theorem Way.keeps (way : Way src ds (.inr result)) {answer : src.load.Answer}
    (loaded : .called (.store src.load) (.ok answer) ∈ ds) :
    result = .ok (src.value answer) ∧ ∃ stored, ds.filter Deed.tellsCache
      = [.called (.cache (.set src.key (encodeText (src.value answer)) src.lifetime)) stored] := by
  cases way with
  | hit | unloaded => simp at loaded
  | kept missed answer' stored =>
    obtain rfl : answer = answer' := by simpa using loaded
    exact ⟨rfl, stored, by simp [Deed.tellsCache]⟩

/-- A read to which the store has told nothing tells the cache nothing. -/
theorem Way.leaves (way : Way src ds r)
    (unloaded : ∀ answer, .called (.store src.load) (.ok answer) ∉ ds) :
    ds.filter Deed.tellsCache = [] := by
  cases way with
  | loaded missed answer => exact absurd (by simp) (unloaded answer)
  | kept missed answer stored => exact absurd (by simp) (unloaded answer)
  | _ => simp [Deed.tellsCache]

end Reading

/-! ## A cache that does not lose an entry -/

namespace Rehearsal.World

/-- The entry of the key stays as it is unless the cache is told to write it or to take it out. The
cache may lose other entries, and it may fail; what it was told may then have taken effect or not.
The store and the gateway may say and do what they like, but they leave the cache alone. -/
def Remembers (key : Key) : Collaborators World
  | w, .cache c, reply, w' => w.CacheReply c reply w' ∧
      (¬ (Deed.called (.cache c) reply).Touches key →
        w'.cache.get? key.text = w.cache.get? key.text)
  | w, .store _, _, w' | w, .gateway _, _, w' => w'.cache = w.cache

variable {w w' : World} {key : Key}

theorem Remembers.wrote {text : String} {lifetime : Span}
    (h : Remembers key w (.cache (.set key text lifetime)) (.ok ()) w') :
    w'.cache.get? key.text = some text := by
  obtain ⟨⟨v, -, ⟨-, rfl⟩ | ⟨⟨fault, hr⟩, -⟩⟩, -⟩ := h
  · exact Table.get?_put_self v.cache _ _
  · cases hr

theorem Remembers.untouched {c : Call} {reply : c.Reply} (h : Remembers key w c reply w')
    (untouched : ¬ (Deed.called c reply).Touches key) :
    w'.cache.get? key.text = w.cache.get? key.text := by
  cases c with
  | cache c => exact h.2 untouched
  | store c => exact congrArg (Table.get? · key.text) h
  | gateway c => exact congrArg (Table.get? · key.text) h

/-- Whoever asks for the entry is given it, if the cache does not fail. -/
theorem Remembers.gave {found : Option String}
    (h : Remembers key w (.cache (.get key)) (.ok found) w') : found = w.cache.get? key.text := by
  rw [← h.untouched nofun]
  obtain ⟨⟨v, -, ⟨hr, rfl⟩ | ⟨⟨fault, hr⟩, -⟩⟩, -⟩ := h
  · exact Except.ok.inj hr
  · cases hr

end Rehearsal.World

/-- As long as nobody touches an entry it stays, and it is what everybody is given. -/
theorem System.Run.gave {ι : Type} [DecidableEq ι] {Answer : ι → Type}
    {s t : System World Answer} {h : History ι} {key : Key}
    (run : System.Run (World.Remembers key) s h t) (untouched : ∀ e ∈ h, ¬ e.2.Touches key) :
    t.world.cache.get? key.text = s.world.cache.get? key.text ∧
      ∀ i found, (i, .called (.cache (.get key)) (.ok found)) ∈ h →
        found = s.world.cache.get? key.text := by
  induction run with
  | start => exact ⟨rfl, nofun⟩
  | @turn h u v i d run turn ih =>
    obtain ⟨same, given⟩ := ih fun e he => untouched e (List.mem_append_left _ he)
    have last : ¬ d.Touches key := untouched (i, d) (by simp)
    cases turn with
    | take =>
      refine ⟨same, fun j found hm => ?_⟩
      exact given j found (by simpa using hm)
    | call step remembers =>
      refine ⟨(remembers.untouched last).trans same, fun j found hm => ?_⟩
      rcases List.mem_append.mp hm with hm | hm
      · exact given j found hm
      · cases List.mem_singleton.mp hm
        exact remembers.gave.trans same

/-! ## What comes back -/

/-- A read that is given a text of a value goes on with the value at once. -/
theorem Source.steps_given {α β : Type} [Coded α] {src : Source α} {text : String} {a : α}
    {next : Except Refusal α → Plan β} {ds : List Deed} {q : Plan β}
    (decodes : decodeText? text = some a)
    (steps : (src.read.bind next).Steps
      (.called (.cache (.get src.key)) (.ok (some text)) :: ds) q) :
    (next (.ok a)).forward.Steps ds q := by
  unfold Source.read cachedRead fetch? at steps
  simp only [Plan.bind, Plan.steps_call_iff, decodes] at steps
  exact steps

/-- Who begins to read after the cache has taken in the text of a value goes on with what the text
is read as. -/
theorem Source.comesBack {α : Type} [Coded α] {src : Source α} {ι : Type} [DecidableEq ι]
    {Answer : ι → Type} {r s t u : System World Answer} {h h' : History ι} {i j : ι} {a b : α}
    {found : Option String} {rest : List Deed} {next : Except Refusal α → Plan (Answer j)}
    (decodes : decodeText? (encodeText a) = some b)
    (wrote : System.Turn (World.Remembers src.key) r i
      (.called (.cache (.set src.key (encodeText a) src.lifetime)) (.ok ())) s)
    (run : System.Run (World.Remembers src.key) s h t) (begins : t.plans j = src.read.bind next)
    (later : System.Run (World.Remembers src.key) t h' u)
    (asked : h'.of j = .called (.cache (.get src.key)) (.ok found) :: rest)
    (untouched : ∀ e ∈ h ++ h', ¬ e.2.Touches src.key) :
    found = some (encodeText a) ∧ (next (.ok b)).forward.Steps rest (u.plans j) := by
  have entry : s.world.cache.get? src.key.text = some (encodeText a) := by
    cases wrote with
    | call _ remembers => exact remembers.wrote
  have stays := (run.gave fun e he => untouched e (List.mem_append_left _ he)).1
  have gave := (later.gave fun e he => untouched e (List.mem_append_right _ he)).2
  have mem : (j, .called (.cache (.get src.key)) (.ok found)) ∈ h' := by
    rw [← History.mem_of, asked]
    exact List.mem_cons_self
  obtain rfl : found = some (encodeText a) := (gave j found mem).trans (stays.trans entry)
  have steps := later.steps j
  rw [begins, asked] at steps
  exact ⟨rfl, steps_given decodes steps⟩

/-! ## The law -/

theorem Rehearsal.World.Healthy.remembers {w w' : World} {c : Call} {reply : c.Reply} {key : Key}
    (h : World.Healthy w c reply w') : World.Remembers key w c reply w' := by
  obtain ⟨rfl, rfl⟩ := h
  cases c with
  | store c =>
    show (w.store c).2.cache = w.cache
    rw [World.store_rest]
  | gateway c =>
    show (w.gateway c).2.cache = w.cache
    rw [World.gateway_rest]
  | cache c =>
    have fades : w.Fades w := ⟨rfl, fun _ _ h => h⟩
    exact ⟨⟨w, fades, .inl ⟨rfl, rfl⟩⟩, World.cached_untouched⟩

section Garbled

variable {lifetimes : Lifetimes}

end Garbled

end Progression
