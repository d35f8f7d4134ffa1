-- What a text spells. A text is read as a value if and only if its tokens
-- are those of the value, in their order; so blanks between tokens do not
-- count, and nothing but blanks may stand behind the value.
import Mathlib.Data.List.Induction
import Progression.Proofs.JsonRoundTrip

namespace Progression.Json

/-- The tokens of a text. -/
def tokensOf (text : String) : List Token := tokens (text.toList.map some)

/-- The tokens of the text are those of the value. -/
def Spells (text : String) (value : Json) : Prop := tokensOf text = value.spell

/-! ## From the value back to its tokens -/

/-- The tokens of a member. -/
def spellMember (m : List Piece × Json) : List Token := .string m.1 :: .colon :: spell m.2

/-- What has been read of a frame when its next part begins. -/
def Frame.opened : Frame → List Token
  | .items read => .openBracket :: read.reverse.flatMap fun item => spell item ++ [.comma]
  | .members read => .openBrace :: read.reverse.flatMap fun m => spellMember m ++ [.comma]
  | .member name read =>
    .openBrace :: ((read.reverse.flatMap fun m => spellMember m ++ [.comma])
      ++ [.string name, .colon])

/-- What has been read of the frames around a value when the value begins. -/
def around (frames : List Frame) : List Token := frames.reverse.flatMap Frame.opened

theorem around_cons (frame : Frame) (frames : List Frame) :
    around (frame :: frames) = around frames ++ frame.opened := by
  simp [around]

theorem spellItems_eq (items : List Json) :
    spellItems items = items.flatMap (fun item => .comma :: spell item) ++ [.closeBracket] := by
  induction items with
  | nil => simp [spellItems]
  | cons item items ih => simp [spellItems, ih]

theorem spellMembers_eq (members : List (List Piece × Json)) :
    spellMembers members
      = members.flatMap (fun m => .comma :: spellMember m) ++ [.closeBrace] := by
  induction members with
  | nil => simp [spellMembers]
  | cons m members ih => simp [spellMembers, spellMember, ih]

/-- Commas before all parts but the first are commas behind all parts but the last. -/
theorem flatMap_comma {α : Type} (f : α → List Token) {before after : List α} {first last : α}
    (h : before ++ [last] = first :: after) :
    f first ++ after.flatMap (fun a => .comma :: f a)
      = before.flatMap (fun a => f a ++ [.comma]) ++ f last := by
  induction before generalizing first after with
  | nil =>
    cases h
    simp
  | cons a before ih =>
    obtain ⟨second, rest, hs⟩ := List.exists_cons_of_ne_nil (l := before ++ [last]) (by simp)
    rw [List.cons_append, hs] at h
    obtain ⟨rfl, rfl⟩ := List.cons.inj h
    simp only [List.flatMap_cons, List.append_assoc, List.cons_append, List.nil_append, ← ih hs]

theorem spell_array_concat (read : List Json) (item : Json) :
    spell (.array (item :: read).reverse)
      = (Frame.items read).opened ++ spell item ++ [.closeBracket] := by
  rw [List.reverse_cons]
  obtain ⟨first, after, h⟩ := List.exists_cons_of_ne_nil (l := read.reverse ++ [item]) (by simp)
  have commas := flatMap_comma spell h
  simp only [h, spell, spellItems_eq, Frame.opened, List.cons_append, ← commas, List.append_assoc]

theorem spell_object_concat (read : List (List Piece × Json)) (m : List Piece × Json) :
    spell (.object (m :: read).reverse)
      = (Frame.members read).opened ++ spellMember m ++ [.closeBrace] := by
  rw [List.reverse_cons]
  obtain ⟨first, after, h⟩ := List.exists_cons_of_ne_nil (l := read.reverse ++ [m]) (by simp)
  have commas := flatMap_comma spellMember h
  simp only [h, spell, spellMembers_eq, Frame.opened, List.cons_append, ← commas,
    List.append_assoc]
  simp [spellMember]

/-- What a reader has read, as far as it can still come to a value. -/
inductive Reading.HasRead : Reading → List Token → Prop
  | nextValue (frames : List Frame) : HasRead (.nextValue frames) (around frames)
  | firstItem (frames : List Frame) :
      HasRead (.firstItem frames) (around frames ++ [.openBracket])
  | firstName (frames : List Frame) : HasRead (.firstName frames) (around frames ++ [.openBrace])
  | nextName (read : List (List Piece × Json)) (frames : List Frame) :
      HasRead (.nextName read frames) (around frames ++ (Frame.members read).opened)
  | nextColon (name : List Piece) (read : List (List Piece × Json)) (frames : List Frame) :
      HasRead (.nextColon name read frames)
        (around frames ++ (Frame.members read).opened ++ [.string name])
  | moreItems (item : Json) (read : List Json) (frames : List Frame) :
      HasRead (.more (.items (item :: read)) frames)
        (around frames ++ (Frame.items read).opened ++ spell item)
  | moreMembers (m : List Piece × Json) (read : List (List Piece × Json))
      (frames : List Frame) : HasRead (.more (.members (m :: read)) frames)
        (around frames ++ (Frame.members read).opened ++ spellMember m)
  | finished (value : Json) : HasRead (.finished value) (spell value)
  | failed (tokens : List Token) : HasRead .failed tokens

namespace Reading

variable {r : Reading} {read : List Token}

theorem HasRead.of_eq {read' : List Token} (h : r.HasRead read) (hr : read = read') :
    r.HasRead read' := hr ▸ h

theorem hasRead_complete (value : Json) (frames : List Frame) :
    (complete value frames).HasRead (around frames ++ spell value) := by
  rcases frames with _ | ⟨read | read | ⟨name, read⟩, frames⟩
  · exact .finished value
  · rw [around_cons]
    exact .moreItems value read frames
  · exact .failed _
  · exact (HasRead.moreMembers (name, value) read frames).of_eq
      (by simp [around_cons, Frame.opened, spellMember])

theorem hasRead_beginValue (frames : List Frame) (token : Token) :
    (beginValue frames token).HasRead (around frames ++ [token]) := by
  cases token with
  | null => exact hasRead_complete .null frames
  | bool b => exact hasRead_complete (.bool b) frames
  | number literal => exact hasRead_complete (.number literal) frames
  | string pieces => exact hasRead_complete (.string pieces) frames
  | openBracket => exact .firstItem frames
  | openBrace => exact .firstName frames
  | _ => exact .failed _

/-- Each token adds itself to what has been read. -/
theorem HasRead.step (h : r.HasRead read) (token : Token) :
    (r.step token).HasRead (read ++ [token]) := by
  cases h with
  | nextValue frames => exact hasRead_beginValue frames token
  | firstItem frames =>
    have item : (beginValue (.items [] :: frames) token).HasRead
        (around frames ++ [.openBracket] ++ [token]) :=
      (hasRead_beginValue (.items [] :: frames) token).of_eq
        (by simp [around_cons, Frame.opened])
    cases token with
    | closeBracket => exact (hasRead_complete (.array []) frames).of_eq (by simp [spell])
    | _ => exact item
  | firstName frames =>
    cases token with
    | closeBrace => exact (hasRead_complete (.object []) frames).of_eq (by simp [spell])
    | string name =>
      exact (HasRead.nextColon name [] frames).of_eq (by simp [Frame.opened])
    | _ => exact .failed _
  | nextName members frames =>
    cases token with
    | string name => exact .nextColon name members frames
    | _ => exact .failed _
  | nextColon name members frames =>
    cases token with
    | colon =>
      exact (HasRead.nextValue (.member name members :: frames)).of_eq
        (by simp [around_cons, Frame.opened])
    | _ => exact .failed _
  | moreItems item items frames =>
    cases token with
    | comma =>
      exact (HasRead.nextValue (.items (item :: items) :: frames)).of_eq
        (by simp [around_cons, Frame.opened])
    | closeBracket =>
      exact (hasRead_complete (.array (item :: items).reverse) frames).of_eq
        (by simp only [spell_array_concat, List.append_assoc])
    | _ => exact .failed _
  | moreMembers m members frames =>
    cases token with
    | comma =>
      exact (HasRead.nextName (m :: members) frames).of_eq (by simp [Frame.opened])
    | closeBrace =>
      exact (hasRead_complete (.object (m :: members).reverse) frames).of_eq
        (by simp only [spell_object_concat, List.append_assoc])
    | _ => exact .failed _
  | finished value => exact .failed _
  | failed => exact .failed _

theorem HasRead.tokens (h : r.HasRead read) (tokens : List Token) :
    (tokens.foldl Reading.step r).HasRead (read ++ tokens) := by
  induction tokens generalizing r read with
  | nil => rwa [List.append_nil]
  | cons token tokens ih =>
    rw [List.foldl_cons, List.append_cons]
    exact ih (h.step token)

end Reading

/-- Tokens are read as a value if and only if they are the tokens of the value. -/
theorem ofTokens?_eq_some {tokens : List Token} {value : Json} :
    ofTokens? tokens = some value ↔ tokens = value.spell := by
  unfold ofTokens?
  constructor
  · intro h
    have read := (Reading.HasRead.nextValue []).tokens tokens
    rw [around, List.reverse_nil, List.flatMap_nil, List.nil_append] at read
    generalize tokens.foldl Reading.step (.nextValue []) = r at h read
    cases read with
    | finished =>
      cases h
      rfl
    | _ => cases h
  · rintro rfl
    rw [foldl_spell]
    rfl

theorem foldl_failed (tokens : List Token) : tokens.foldl Reading.step .failed = .failed := by
  induction tokens with
  | nil => rfl
  | cons token tokens ih => exact ih

/-- The tokens of a value are whole. -/
theorem broken_notMem_spell (value : Json) : .broken ∉ value.spell := by
  intro broken
  obtain ⟨before, after, h⟩ := List.append_of_mem broken
  have read : ofTokens? value.spell = some value := ofTokens?_eq_some.mpr rfl
  have fails (r : Reading) : r.step .broken = .failed := by
    cases r with
    | more frame frames => cases frame <;> rfl
    | _ => rfl
  rw [h, ofTokens?, List.foldl_append, List.foldl_cons, fails, foldl_failed] at read
  cases read

/-- Nothing may stand behind the tokens of a value. -/
theorem ofTokens?_append (value : Json) (token : Token) (tokens : List Token) :
    ofTokens? (value.spell ++ token :: tokens) = none := by
  rw [ofTokens?, List.foldl_append, foldl_spell, List.foldl_cons]
  show ((tokens.foldl Reading.step .failed).value?) = none
  rw [foldl_failed]
  rfl

/-- A text is read as a value if and only if it spells it. -/
theorem parse?_eq_some {text : String} {value : Json} :
    parse? text = some value ↔ Spells text value := ofTokens?_eq_some

/-! ## Blanks between tokens -/

namespace Lexer

/-- A lexer that had read these tokens before it began. -/
def after (read : List Token) (lexer : Lexer) : Lexer := ⟨lexer.scan, lexer.read ++ read⟩

variable (read : List Token) (lexer : Lexer)

theorem after_begin (c : Char) : (lexer.after read).begin c = (lexer.begin c).after read := by
  unfold begin
  cases isBlank c with
  | true => rfl
  | false =>
    rw [if_neg Bool.false_ne_true, if_neg Bool.false_ne_true]
    cases isDigit c with
    | true => split <;> rfl
    | false => split <;> rfl

theorem after_stepChar (c : Char) :
    (lexer.after read).stepChar c = (lexer.stepChar c).after read := by
  obtain ⟨scan, emitted⟩ := lexer
  cases scan with
  | between => exact after_begin ..
  | word rest token =>
    rcases rest with _ | ⟨next, _ | ⟨second, rest⟩⟩
    · exact after_begin read (Lexer.emit ⟨.word [] token, emitted⟩ token) c
    · unfold stepChar
      dsimp only [after]
      split <;> rfl
    · unfold stepChar
      dsimp only [after]
      split <;> rfl
  | number part literal =>
    unfold stepChar
    dsimp only [after]
    split
    · rfl
    · split
      · exact after_begin read ⟨.between, .number literal.reverse :: emitted⟩ c
      · rfl
  | string pieces =>
    unfold stepChar
    dsimp only [after, stepString]
    split_ifs <;> rfl
  | escape pieces =>
    unfold stepChar
    dsimp only [after, stepEscape]
    split
    · rfl
    · split <;> rfl
  | hex pieces missing number =>
    unfold stepChar
    dsimp only [after, stepHex]
    split
    · rfl
    · split <;> rfl
  | broken => rfl

theorem after_stepStray : (lexer.after read).stepStray = lexer.stepStray.after read := by
  obtain ⟨scan, emitted⟩ := lexer
  cases scan with
  | number part literal =>
    unfold stepStray
    dsimp only [after]
    split <;> rfl
  | _ => rfl

/-- What has been read before makes no difference to how a lexer goes on. -/
theorem after_foldl (glyphs : List Glyph) :
    glyphs.foldl step (lexer.after read) = (glyphs.foldl step lexer).after read := by
  induction glyphs generalizing lexer with
  | nil => rfl
  | cons glyph glyphs ih =>
    have hs : (lexer.after read).step glyph = (lexer.step glyph).after read := by
      cases glyph with
      | some c => exact after_stepChar ..
      | none => exact after_stepStray ..
    rw [List.foldl_cons, hs, ih, List.foldl_cons]

theorem after_finish : (lexer.after read).finish = read.reverse ++ lexer.finish := by
  obtain ⟨scan, emitted⟩ := lexer
  cases scan with
  | number part literal =>
    unfold finish
    dsimp only [after]
    split <;> simp
  | _ => simp [finish, after]

theorem next?_blank {c : Char} (hc : isBlank c = true) (part : NumberPart) :
    part.next? c = none ∧ part.mayEndBefore c = part.mayEnd := by
  have blank : c = ' ' ∨ c = '\n' ∨ c = '\t' ∨ c = '\r' := by
    simpa [isBlank, or_assoc] using hc
  rcases blank with rfl | rfl | rfl | rfl <;> cases part <;> decide

/-- A blank ends the token before it. -/
theorem stepChar_blank {c : Char} (hc : isBlank c = true) {lexer : Lexer}
    (whole : .broken ∉ lexer.finish) : lexer.stepChar c = ⟨.between, lexer.finish.reverse⟩ := by
  obtain ⟨scan, emitted⟩ := lexer
  cases scan with
  | between => simp [stepChar, begin, hc, finish]
  | number part literal =>
    obtain ⟨none, ends⟩ := next?_blank hc part
    cases he : part.mayEnd with
    | true => simp [stepChar, none, ends, he, emit, begin, hc, finish]
    | false => simp [finish, he] at whole
  | _ => simp [finish] at whole

theorem foldl_blanks {blanks : List Char} (hb : ∀ c ∈ blanks, isBlank c = true)
    (read : List Token) : (blanks.map some).foldl step ⟨.between, read⟩ = ⟨.between, read⟩ := by
  induction blanks with
  | nil => rfl
  | cons c blanks ih =>
    have hc : Lexer.step ⟨.between, read⟩ (some c) = ⟨.between, read⟩ := by
      simp [step, stepChar, begin, hb c]
    rw [List.map_cons, List.foldl_cons, hc]
    exact ih fun c' hc' => hb c' (List.mem_cons_of_mem _ hc')

/-- A lexer that has not begun anything has met nothing but blanks. -/
theorem of_stepChar_eq_start {c : Char} {lexer : Lexer} (h : lexer.stepChar c = start) :
    lexer = start ∧ isBlank c = true := by
  have begins (read : List Token) (h : Lexer.begin ⟨.between, read⟩ c = start) :
      read = [] ∧ isBlank c = true := by
    unfold begin at h
    split at h
    · rename_i hc
      exact ⟨congrArg Lexer.read h, hc⟩
    · split at h <;> simp [emit, start, fail] at h
      split at h <;> simp at h
  obtain ⟨scan, emitted⟩ := lexer
  cases scan with
  | between =>
    obtain ⟨rfl, hc⟩ := begins emitted h
    exact ⟨rfl, hc⟩
  | word rest token =>
    rcases rest with _ | ⟨next, _ | ⟨second, rest⟩⟩
    · exact absurd (begins (token :: emitted) h).1 (List.cons_ne_nil _ _)
    · simp only [stepChar] at h
      split at h <;> simp [emit, start, fail] at h
    · simp only [stepChar] at h
      split at h <;> simp [start, fail] at h
  | number part literal =>
    simp only [stepChar] at h
    split at h
    · simp [start] at h
    · split at h
      · exact absurd (begins (.number literal.reverse :: emitted) h).1 (List.cons_ne_nil _ _)
      · simp [start, fail] at h
  | string pieces =>
    simp only [stepChar, stepString] at h
    split_ifs at h <;> simp [emit, start, fail] at h
  | escape pieces =>
    simp only [stepChar, stepEscape] at h
    split at h
    · simp [start] at h
    · split at h <;> simp [start, fail] at h
  | hex pieces missing number =>
    simp only [stepChar, stepHex] at h
    split at h
    · simp [start, fail] at h
    · split at h <;> simp [start] at h
  | broken => simp [stepChar, start] at h

/-- A text without tokens is blank. -/
theorem blank_of_tokens {cs : List Char} (h : tokens (cs.map some) = []) :
    ∀ c ∈ cs, isBlank c = true := by
  have begun (lexer : Lexer) (h : lexer.finish = []) : lexer = start := by
    obtain ⟨scan, emitted⟩ := lexer
    cases scan with
    | between =>
      have : emitted = [] := by simpa [finish] using h
      rw [this]
      rfl
    | number part literal =>
      simp only [finish] at h
      split at h <;> simp at h
    | _ => simp [finish] at h
  have none := begun _ h
  clear h
  induction cs using List.reverseRecOn with
  | nil => nofun
  | append_singleton cs c ih =>
    rw [List.map_append, List.foldl_append] at none
    obtain ⟨before, hc⟩ := of_stepChar_eq_start none
    exact List.forall_mem_append.mpr ⟨ih before, List.forall_mem_singleton.mpr hc⟩

/-- A lexer whose last token closes something has ended it. -/
theorem eq_of_finish {lexer : Lexer} {last : Token} (h : lexer.finish.getLast? = some last)
    (closing : last = .closeBracket ∨ last = .closeBrace) :
    lexer = ⟨.between, lexer.finish.reverse⟩ := by
  obtain ⟨scan, emitted⟩ := lexer
  cases scan with
  | between => simp [finish]
  | number part literal =>
    exfalso
    simp only [finish] at h
    split at h
    · obtain rfl : .number literal.reverse = last := by simpa using h
      simp at closing
    · obtain rfl : .broken = last := by simpa using h
      simp at closing
  | _ =>
    exfalso
    obtain rfl : .broken = last := by simpa [finish] using h
    simp at closing

end Lexer

/-! ## What stands between tokens, and behind them -/

/-- The text is cut between two of its tokens, or before or behind all of them. -/
def BetweenTokens (before after : String) : Prop :=
  tokensOf (before ++ after) = tokensOf before ++ tokensOf after

/-- The text is nothing but blanks. -/
def Blank (text : String) : Prop := ∀ c ∈ text.toList, isBlank c = true

/-- Blanks between tokens make no difference to the tokens. -/
theorem tokensOf_blanks {before after blanks : String} (cut : BetweenTokens before after)
    (hb : Blank blanks) (whole : .broken ∉ tokensOf before) :
    tokensOf (before ++ blanks ++ after) = tokensOf (before ++ after) := by
  rw [cut]
  unfold tokensOf tokens
  simp only [String.toList_append, List.map_append, List.foldl_append]
  cases hcs : blanks.toList with
  | nil =>
    rw [List.map_nil, List.foldl_nil, ← List.foldl_append, ← List.map_append,
      ← String.toList_append]
    exact cut
  | cons c cs =>
    have blank : ∀ c' ∈ c :: cs, isBlank c' = true := hcs ▸ hb
    have ended := Lexer.stepChar_blank (blank c List.mem_cons_self) whole
    have rest := Lexer.foldl_blanks (fun c' hc' => blank c' (List.mem_cons_of_mem _ hc'))
      (tokensOf before).reverse
    have later := Lexer.after_foldl (tokensOf before).reverse Lexer.start (after.toList.map some)
    rw [List.map_cons, List.foldl_cons]
    show (List.foldl Lexer.step ((cs.map some).foldl Lexer.step (Lexer.stepChar _ c)) _).finish = _
    rw [ended]
    show (List.foldl Lexer.step ((cs.map some).foldl Lexer.step
      ⟨.between, (tokensOf before).reverse⟩) _).finish = _
    rw [rest]
    show (List.foldl Lexer.step (Lexer.start.after (tokensOf before).reverse) _).finish = _
    rw [later, Lexer.after_finish, List.reverse_reverse]
    rfl

/-- Blanks between the tokens of a value do not change what is spelled. -/
theorem Spells.blanks {before after blanks : String} {value : Json}
    (h : Spells (before ++ after) value) (cut : BetweenTokens before after) (hb : Blank blanks) :
    Spells (before ++ blanks ++ after) value := by
  have whole : .broken ∉ tokensOf before := by
    intro broken
    apply broken_notMem_spell value
    rw [← show tokensOf (before ++ after) = value.spell from h, cut]
    exact List.mem_append_left _ broken
  exact (tokensOf_blanks cut hb whole).trans h

/-- An array or an object ends with a token that closes it. -/
theorem getLast?_spell {names : List String} {value : Json} (h : (value.fields? names).isSome) :
    ∃ last, value.spell.getLast? = some last ∧ (last = .closeBracket ∨ last = .closeBrace) := by
  cases value with
  | array items =>
    refine ⟨.closeBracket, ?_, .inl rfl⟩
    cases items with
    | nil => rfl
    | cons item items => simp [spell, spellItems_eq, List.getLast?_cons]
  | object members =>
    refine ⟨.closeBrace, ?_, .inr rfl⟩
    cases members with
    | nil => rfl
    | cons m members => simp [spell, spellMembers_eq, List.getLast?_cons]
  | _ => cases h

/-- Nothing but blanks may stand behind an array or an object. -/
theorem parse?_append {names : List String} {text rest : String} {value : Json}
    (h : Spells text value) (closed : (value.fields? names).isSome) (hr : ¬ Blank rest) :
    parse? (text ++ rest) = none := by
  obtain ⟨last, hl, closing⟩ := getLast?_spell closed
  rw [← show tokensOf text = value.spell from h] at hl
  have ended := Lexer.eq_of_finish hl closing
  have whole : tokensOf (text ++ rest) = value.spell ++ tokensOf rest := by
    have later := Lexer.after_foldl (tokensOf text).reverse Lexer.start (rest.toList.map some)
    unfold tokensOf tokens
    rw [String.toList_append, List.map_append, List.foldl_append, ended]
    show (List.foldl Lexer.step (Lexer.start.after (tokensOf text).reverse) _).finish = _
    rw [later, Lexer.after_finish, List.reverse_reverse, h]
  show ofTokens? (tokensOf (text ++ rest)) = none
  rw [whole]
  cases hrest : tokensOf rest with
  | nil => exact absurd (Lexer.blank_of_tokens hrest) hr
  | cons token tokens => exact ofTokens?_append value token tokens

end Progression.Json
