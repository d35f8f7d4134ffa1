-- What is written as JSON is read back. A value whose numbers are whole
-- and whose strings are texts is read from its own text, and so is all
-- that the cache keeps: a text of the cache means what was put there.
import Mathlib.Tactic.IntervalCases
import Progression.Json.Forms

namespace Progression

namespace Json

/-! ## Values that are written -/

mutual

/-- The numbers of the value are whole, and its strings are texts. -/
def Plain : Json → Prop
  | .null => True
  | .bool _ => True
  | .number literal => ∃ z, literal = Decimal.ofInt z
  | .string pieces => ∃ cs, pieces = piecesOf cs
  | .array items => PlainItems items
  | .object members => PlainMembers members

def PlainItems : List Json → Prop
  | [] => True
  | item :: items => Plain item ∧ PlainItems items

def PlainMembers : List (List Piece × Json) → Prop
  | [] => True
  | (name, value) :: members => (∃ cs, name = piecesOf cs) ∧ Plain value ∧ PlainMembers members

end

mutual

/-- The tokens of a value. -/
def spell : Json → List Token
  | .null => [.null]
  | .bool b => [.bool b]
  | .number literal => [.number literal]
  | .string pieces => [.string pieces]
  | .array [] => [.openBracket, .closeBracket]
  | .array (item :: items) => .openBracket :: (spell item ++ spellItems items)
  | .object [] => [.openBrace, .closeBrace]
  | .object ((name, value) :: members) =>
    .openBrace :: .string name :: .colon :: (spell value ++ spellMembers members)

def spellItems : List Json → List Token
  | [] => [.closeBracket]
  | item :: items => .comma :: (spell item ++ spellItems items)

def spellMembers : List (List Piece × Json) → List Token
  | [] => [.closeBrace]
  | (name, value) :: members =>
    .comma :: .string name :: .colon :: (spell value ++ spellMembers members)

end

/-! ## From a text to its tokens -/

namespace Lexer

/-- The lexer has read these tokens, but for a number that nothing has ended yet. -/
def Rests (lexer : Lexer) (read : List Token) : Prop :=
  lexer = ⟨.between, read⟩ ∨ ∃ part literal before, lexer = ⟨.number part literal, before⟩ ∧
    (part = .zero ∨ part = .whole) ∧ read = .number literal.reverse :: before

variable {lexer : Lexer} {read : List Token}

theorem Rests.finish (h : lexer.Rests read) : lexer.finish = read.reverse := by
  rcases h with rfl | ⟨part, literal, before, rfl, rfl | rfl, rfl⟩ <;> rfl

/-- What stands between two values ends a number. -/
theorem Rests.delimiter (h : lexer.Rests read) {c : Char} (hc : c ∈ [',', ']', '\x7d']) :
    lexer.stepChar c = Lexer.begin ⟨.between, read⟩ c := by
  simp only [List.mem_cons, List.not_mem_nil, or_false] at hc
  rcases h with rfl | ⟨part, literal, before, rfl, rfl | rfl, rfl⟩
  · rfl
  · rcases hc with rfl | rfl | rfl <;> rfl
  · rcases hc with rfl | rfl | rfl <;> rfl

/-- Which part of a number is read once all its digits are. -/
def digitsPart (n : Nat) : NumberPart := if n = 0 then .zero else .whole

theorem begin_digit {d : Nat} (h : d < 10) :
    Lexer.begin ⟨.between, read⟩ (Decimal.digitChar d)
      = ⟨.number (digitsPart d) [Decimal.digitChar d], read⟩ := by
  interval_cases d <;> rfl

theorem next?_digit {d : Nat} (h : d < 10) :
    NumberPart.minus.next? (Decimal.digitChar d) = some (digitsPart d) ∧
      NumberPart.whole.next? (Decimal.digitChar d) = some .whole := by
  interval_cases d <;> decide

/-- Digits are read the same way wherever a number may begin. -/
theorem foldl_digits (before : List Char) (read : List Token)
    (first : ∀ d < 10, lexer.stepChar (Decimal.digitChar d)
      = ⟨.number (digitsPart d) (Decimal.digitChar d :: before), read⟩) (n : Nat) :
    (Decimal.digits n).foldl stepChar lexer
      = ⟨.number (digitsPart n) ((Decimal.digits n).reverse ++ before), read⟩ := by
  induction n using Nat.strongRecOn with
  | _ n ih =>
    rw [Decimal.digits]
    split
    · rename_i h
      exact first n h
    · have hpart : digitsPart (n / 10) = .whole := if_neg (by omega)
      have hn : digitsPart n = .whole := if_neg (by omega)
      have hd := (next?_digit (Nat.mod_lt n (by decide : 0 < 10))).2
      rw [List.foldl_append, ih (n / 10) (by omega), hpart, hn]
      simp [stepChar, hd]

theorem rests_ofInt (z : Int) :
    ((Decimal.ofInt z).foldl stepChar ⟨.between, read⟩).Rests
      (.number (Decimal.ofInt z) :: read) := by
  have hpart (n : Nat) : digitsPart n = .zero ∨ digitsPart n = .whole := by
    unfold digitsPart
    split <;> simp
  unfold Decimal.ofInt
  split
  · rw [List.foldl_cons, foldl_digits ['-'] read]
    · exact .inr ⟨_, _, _, rfl, hpart _, by simp⟩
    · intro d hd
      have minus : Lexer.begin ⟨.between, read⟩ '-' = ⟨.number .minus ['-'], read⟩ := rfl
      simp [stepChar, minus, (next?_digit hd).1]
  · rw [foldl_digits [] read]
    · exact .inr ⟨_, _, _, rfl, hpart _, by simp⟩
    · exact fun d hd => begin_digit hd

/-- A character of a string is read from its written form. -/
theorem foldl_escapeChar (c : Char) (pieces : List Piece) :
    (escapeChar c).foldl stepChar ⟨.string pieces, read⟩ = ⟨.string (.char c :: pieces), read⟩ := by
  by_cases hc : c.toNat < 32
  · -- The control characters, one by one: some have an escape of their own.
    rw [← Char.ofNat_toNat c]
    generalize c.toNat = n at hc
    interval_cases n <;> rfl
  · unfold escapeChar
    split_ifs with h1 h2 h3 h4 h5 h6 h7
    · subst h1; rfl
    · subst h2; rfl
    · subst h3; rfl
    · subst h4; rfl
    · subst h5; rfl
    · omega
    · omega
    · simp [stepChar, stepString, h1, h2, hc]

theorem foldl_flatMap_escapeChar (cs : List Char) (pieces : List Piece) :
    ((piecesOf cs).flatMap writePiece).foldl stepChar ⟨.string pieces, read⟩
      = ⟨.string ((piecesOf cs).reverse ++ pieces), read⟩ := by
  induction cs generalizing pieces with
  | nil => rfl
  | cons c cs ih =>
    simp only [piecesOf, List.map_cons, List.flatMap_cons, List.foldl_append, writePiece] at ih ⊢
    rw [foldl_escapeChar, ih]
    simp

theorem foldl_writePieces (cs : List Char) :
    (writePieces (piecesOf cs)).foldl stepChar ⟨.between, read⟩
      = ⟨.between, .string (piecesOf cs) :: read⟩ := by
  have quote : Lexer.begin ⟨.between, read⟩ '"' = ⟨.string [], read⟩ := rfl
  simp only [writePieces, List.foldl_cons, List.foldl_append, List.foldl_nil]
  simp only [stepChar, quote, foldl_flatMap_escapeChar]
  simp [stepString, emit]

/-- The name of a member, with the colon behind it. -/
theorem foldl_name (cs rest : List Char) :
    (writePieces (piecesOf cs) ++ ':' :: rest).foldl stepChar ⟨.between, read⟩
      = rest.foldl stepChar ⟨.between, .colon :: .string (piecesOf cs) :: read⟩ := by
  rw [List.foldl_append, foldl_writePieces]
  rfl

end Lexer

mutual

/-- The tokens of a written value are the tokens of the value. -/
theorem rests_write (value : Json) (h : Plain value) (read : List Token) :
    ((write value).foldl Lexer.stepChar ⟨.between, read⟩).Rests
      ((spell value).reverse ++ read) := by
  match value, h with
  | .null, _ => exact .inl rfl
  | .bool true, _ => exact .inl rfl
  | .bool false, _ => exact .inl rfl
  | .number _, ⟨z, rfl⟩ => exact Lexer.rests_ofInt z
  | .string _, ⟨cs, rfl⟩ => exact .inl (Lexer.foldl_writePieces cs)
  | .array [], _ => exact .inl rfl
  | .array (item :: items), ⟨hi, his⟩ => 
    have hw := foldl_writeItems items his (rests_write item hi (.openBracket :: read))
    refine .inl ?_
    simp only [write, List.foldl_cons, List.foldl_append]
    exact hw.trans (by simp [spell])
  | .object [], _ => exact .inl rfl
  | .object ((_, value) :: members), ⟨⟨cs, rfl⟩, hv, hms⟩ =>
    have hw := foldl_writeMembers members hms
      (rests_write value hv (.colon :: .string (piecesOf cs) :: .openBrace :: read))
    have brace : Lexer.stepChar ⟨.between, read⟩ '\x7b' = ⟨.between, .openBrace :: read⟩ := rfl
    refine .inl ?_
    rw [write, List.foldl_cons, brace, Lexer.foldl_name, List.foldl_append]
    exact hw.trans (by simp [spell])

theorem foldl_writeItems (items : List Json) (h : PlainItems items) {lexer : Lexer}
    {read : List Token} (rests : lexer.Rests read) :
    (writeItems items).foldl Lexer.stepChar lexer
      = ⟨.between, (spellItems items).reverse ++ read⟩ := by
  match items, h with
  | [], _ => exact rests.delimiter (by simp)
  | item :: items, ⟨hi, his⟩ =>
    simp only [writeItems, List.foldl_cons, List.foldl_append]
    rw [rests.delimiter (by simp)]
    exact (foldl_writeItems items his (rests_write item hi (.comma :: read))).trans
      (by simp [spellItems])

theorem foldl_writeMembers (members : List (List Piece × Json)) (h : PlainMembers members)
    {lexer : Lexer} {read : List Token} (rests : lexer.Rests read) :
    (writeMembers members).foldl Lexer.stepChar lexer
      = ⟨.between, (spellMembers members).reverse ++ read⟩ := by
  match members, h with
  | [], _ => exact rests.delimiter (by simp)
  | (_, value) :: members, ⟨⟨cs, rfl⟩, hv, hms⟩ =>
    have hw := foldl_writeMembers members hms
      (rests_write value hv (.colon :: .string (piecesOf cs) :: .comma :: read))
    have comma : lexer.stepChar ',' = ⟨.between, .comma :: read⟩ := rests.delimiter (by simp)
    rw [writeMembers, List.foldl_cons, comma, Lexer.foldl_name, List.foldl_append]
    exact hw.trans (by simp [spellMembers])

end

theorem tokens_write (value : Json) (h : Plain value) :
    tokens ((write value).map some) = spell value := by
  unfold tokens
  rw [List.foldl_map]
  have rests := rests_write value h []
  exact rests.finish.trans (by simp)

/-! ## From the tokens to the value -/

/-- A value does not begin with a bracket that closes an array. -/
theorem foldl_spell_first (value : Json) (frames : List Frame) :
    (spell value).foldl Reading.step (.firstItem frames)
      = (spell value).foldl Reading.step (.nextValue (.items [] :: frames)) := by
  match value with
  | .null | .bool _ | .number _ | .string _ => rfl
  | .array [] | .array (_ :: _) | .object [] | .object (_ :: _) => rfl

mutual

theorem foldl_spell (value : Json) (frames : List Frame) :
    (spell value).foldl Reading.step (.nextValue frames) = Reading.complete value frames := by
  match value with
  | .null => rfl
  | .bool _ => rfl
  | .number _ => rfl
  | .string _ => rfl
  | .array [] => rfl
  | .array (item :: items) =>
    have hi := foldl_spell item (.items [] :: frames)
    have his := foldl_spellItems items [item] frames
    rw [spell, List.foldl_cons, List.foldl_append]
    simp only [Reading.step, Reading.beginValue, foldl_spell_first, hi]
    exact his
  | .object [] => rfl
  | .object ((name, value) :: members) =>
    have hv := foldl_spell value (.member name [] :: frames)
    have hms := foldl_spellMembers members [(name, value)] frames
    rw [spell, List.foldl_cons, List.foldl_cons, List.foldl_cons, List.foldl_append]
    simp only [Reading.step, Reading.beginValue, hv]
    exact hms

theorem foldl_spellItems (items read : List Json) (frames : List Frame) :
    (spellItems items).foldl Reading.step (.more (.items read) frames)
      = Reading.complete (.array (read.reverse ++ items)) frames := by
  match items with
  | [] => simp [spellItems, Reading.step]
  | item :: items =>
    have hi := foldl_spell item (.items read :: frames)
    have his := foldl_spellItems items (item :: read) frames
    rw [spellItems, List.foldl_cons, List.foldl_append]
    simp only [Reading.step, hi, Reading.complete, his]
    simp

theorem foldl_spellMembers (members read : List (List Piece × Json)) (frames : List Frame) :
    (spellMembers members).foldl Reading.step (.more (.members read) frames)
      = Reading.complete (.object (read.reverse ++ members)) frames := by
  match members with
  | [] => simp [spellMembers, Reading.step]
  | (name, value) :: members =>
    have hv := foldl_spell value (.member name read :: frames)
    have hms := foldl_spellMembers members ((name, value) :: read) frames
    rw [spellMembers, List.foldl_cons, List.foldl_cons, List.foldl_cons, List.foldl_append]
    simp only [Reading.step, hv, Reading.complete, hms]
    simp

end

/-- A value is read from its own text. -/
theorem parse?_render (value : Json) (h : Plain value) : parse? value.render = some value := by
  unfold parse? ofGlyphs? ofTokens? render
  rw [String.toList_ofList, tokens_write value h, foldl_spell]
  rfl

/-! ## Whole numbers -/

theorem head_digits (n : Nat) : ∃ d < 10, ∃ cs, Decimal.digits n = Decimal.digitChar d :: cs := by
  induction n using Nat.strongRecOn with
  | _ n ih =>
    rw [Decimal.digits]
    split
    · rename_i h
      exact ⟨n, h, [], rfl⟩
    · obtain ⟨d, hd, cs, hcs⟩ := ih (n / 10) (by omega)
      exact ⟨d, hd, cs ++ [Decimal.digitChar (n % 10)], by rw [hcs]; rfl⟩

theorem below?_digits {n bound : Nat} (h : n < bound) :
    Decimal.below? bound (Decimal.digits n) = some n := by
  rw [Decimal.below?_eq_filter (by omega), Decimal.value?_digits, Decimal.filter_some_of_lt h]

theorem integer?_ofInt {z : Int} (h : z.natAbs < UInt64.size) :
    integer? (Decimal.ofInt z) = some z := by
  have hb := below?_digits h
  unfold Decimal.ofInt
  split
  · rename_i hz
    have hne : Decimal.digits z.natAbs ≠ ['0'] := by
      intro h0
      have hv := Decimal.value?_digits z.natAbs
      rw [h0] at hv
      have : some 0 = some z.natAbs := hv
      simp at this
      omega
    unfold integer?
    split
    · rename_i heq
      simp at heq
      exact absurd heq hne
    · rename_i heq
      obtain ⟨-, rfl⟩ := List.cons.inj heq
      rw [hb]
      show some (-(z.natAbs : Int)) = some z
      congr 1
      omega
    · rename_i hnot
      exact (hnot _ rfl).elim
  · rename_i hz
    obtain ⟨d, hd, cs, hcs⟩ := head_digits z.natAbs
    have hminus : Decimal.digitChar d ≠ '-' := by interval_cases d <;> decide
    unfold integer?
    split
    · rename_i heq
      rw [hcs] at heq
      exact absurd (List.cons.inj heq).1 hminus
    · rename_i heq
      rw [hcs] at heq
      exact absurd (List.cons.inj heq).1 hminus
    · rw [hb]
      show some (z.natAbs : Int) = some z
      congr 1
      omega

/-! ## Records -/

theorem namedMembers?_record (members : List (String × Json)) :
    namedMembers? (members.map fun m => (piecesOf m.1.toList, m.2))
      = some (members.map fun m => (m.1.toList, m.2)) := by
  induction members with
  | nil => rfl
  | cons m members ih => simp [namedMembers?, textOf?_piecesOf, ih]

/-- A name that stands once in a record has its value there. -/
theorem single?_record {members : List (String × Json)} (h : (members.map Prod.fst).Nodup)
    {m : String × Json} (hm : m ∈ members) :
    single? (members.map fun m => (m.1.toList, m.2)) m.1 = some (some m.2) := by
  have hf : (members.map fun m => (m.1.toList, m.2)).filter (fun n => n.1 == m.1.toList)
      = [(m.1.toList, m.2)] := by
    induction members with
    | nil => cases hm
    | cons n members ih =>
      rw [List.map_cons, List.nodup_cons] at h
      rcases List.mem_cons.mp hm with rfl | hm
      · have hrest : (members.map fun n => (n.1.toList, n.2)).filter
            (fun n => n.1 == m.1.toList) = [] := by
          simp only [List.filter_eq_nil_iff, List.mem_map, beq_iff_eq]
          rintro _ ⟨n, hn, rfl⟩ heq
          exact h.1 (String.toList_inj.mp heq ▸ List.mem_map_of_mem hn)
        simp [hrest]
      · have hne : (n.1.toList == m.1.toList) = false := by
          simp only [beq_eq_false_iff_ne, ne_eq, String.toList_inj]
          exact fun heq => h.1 (heq ▸ List.mem_map_of_mem hm)
        simpa [hne] using ih h.2 hm
  simp only [single?, hf]

/-- The fields of a record that are asked for are the members of these names. -/
theorem fields?_part (members : List (String × Json)) (h : (members.map Prod.fst).Nodup)
    {part : List (String × Json)} (hp : part ⊆ members) :
    (record members).fields? (part.map Prod.fst) = some (part.map fun m => some m.2) := by
  rw [record, fields?, namedMembers?_record]
  show (part.map Prod.fst).mapM (single? (members.map fun m => (m.1.toList, m.2))) = _
  induction part with
  | nil => rfl
  | cons m part ih =>
    have hm := single?_record h (hp List.mem_cons_self)
    have hrest := ih fun n hn => hp (List.mem_cons_of_mem _ hn)
    simp [List.mapM_cons, hm, hrest]

/-- The fields of a record are its members. -/
theorem fields?_record (members : List (String × Json)) (h : (members.map Prod.fst).Nodup) :
    (record members).fields? (members.map Prod.fst) = some (members.map fun m => some m.2) :=
  fields?_part members h (List.Subset.refl _)

end Json

/-! ## What the cache keeps -/

/-- A value that is written plainly, and that its written form is read as. -/
structure Kept {α : Type} [Coded α] (a : α) : Prop where
  plain : (encode a).Plain
  decodes : decode? (encode a) = some a

/-- What is written to the cache is read from it. -/
theorem Kept.decodeText? {α : Type} [Coded α] {a : α} (h : Kept a) :
    decodeText? (encodeText a) = some a := by
  unfold Progression.decodeText? encodeText
  rw [Json.parse?_render _ h.plain]
  exact h.decodes

/-- A word of at most 64 bits is read as it is written. -/
theorem wordOf?_int {α : Type} {least greatest z : Int} (ofInt : Int → α)
    (h : least ≤ z ∧ z ≤ greatest) (hz : z.natAbs < UInt64.size) :
    Coded.wordOf? least greatest ofInt (.int z) = some (ofInt z) := by
  have hi : Json.integer? (Decimal.ofInt z) = some z := Json.integer?_ofInt hz
  simp only [Json.int, Coded.wordOf?, hi]
  rw [if_pos h]

theorem kept_int32 (n : Int32) : Kept n := by
  have hlow := n.le_toInt
  have hhigh := n.toInt_lt
  have hz : n.toInt.natAbs < UInt64.size := by
    simp only [UInt64.size]
    omega
  refine ⟨⟨n.toInt, rfl⟩, (wordOf?_int Int32.ofInt ⟨n.minValue_le_toInt, n.toInt_le⟩ hz).trans ?_⟩
  rw [Int32.ofInt_toInt]

theorem kept_int64 (n : Int64) : Kept n := by
  have hlow := n.le_toInt
  have hhigh := n.toInt_lt
  have hz : n.toInt.natAbs < UInt64.size := by
    simp only [UInt64.size]
    omega
  refine ⟨⟨n.toInt, rfl⟩, (wordOf?_int Int64.ofInt ⟨n.minValue_le_toInt, n.toInt_le⟩ hz).trans ?_⟩
  rw [Int64.ofInt_toInt]

theorem kept_list {α : Type} [Coded α] {as : List α} (h : ∀ a ∈ as, Kept a) : Kept as := by
  induction as with
  | nil => exact ⟨trivial, rfl⟩
  | cons a as ih =>
    have ha := h a List.mem_cons_self
    have has := ih fun b hb => h b (List.mem_cons_of_mem _ hb)
    refine ⟨⟨ha.plain, has.plain⟩, ?_⟩
    have hd : (as.map encode).mapM (decode? (α := α)) = some as := has.decodes
    show ((a :: as).map encode).mapM decode? = some (a :: as)
    simp [List.mapM_cons, ha.decodes, hd]

/-- A record is plain if its fields are. -/
theorem Json.plain_record {members : List (String × Json)} (h : ∀ m ∈ members, m.2.Plain) :
    (Json.record members).Plain := by
  show PlainMembers (members.map fun m => (piecesOf m.1.toList, m.2))
  induction members with
  | nil => trivial
  | cons m members ih =>
    exact ⟨⟨_, rfl⟩, h m List.mem_cons_self, ih fun n hn => h n (List.mem_cons_of_mem _ hn)⟩

theorem kept_levelPrice (p : LevelPrice) : Kept p := by
  refine ⟨Json.plain_record ?_, ?_⟩
  · simp [(kept_int32 p.level).plain, (kept_int64 p.coins).plain, (kept_int64 p.referrals).plain,
      (kept_int64 p.referralsToOpen).plain]
  · have hf := Json.fields?_record [("level", encode p.level), ("coins_price", encode p.coins),
      ("referrals_price", encode p.referrals), ("referrals_to_open", encode p.referralsToOpen)]
      (by simp)
    have hl := (kept_int32 p.level).decodes
    have hc := (kept_int64 p.coins).decodes
    have hr := (kept_int64 p.referrals).decodes
    have ho := (kept_int64 p.referralsToOpen).decodes
    simp only [List.map_cons, List.map_nil, decode?, encode] at hf hl hc hr ho ⊢
    simp only [hf, hl, hc, hr, ho]
    rfl

theorem kept_priceList (list : PriceList) : Kept list := by
  have hp := kept_list fun p (_ : p ∈ list.prices) => kept_levelPrice p
  refine ⟨Json.plain_record ?_, ?_⟩
  · simp [hp.plain]
  · have hf := Json.fields?_record [("levels", encode list.prices)] (by simp)
    have hd := hp.decodes
    simp only [List.map_cons, List.map_nil, decode?, encode] at hf hd ⊢
    simp only [hf, hd]
    rfl

theorem kept_bool (b : Bool) : Kept b := ⟨trivial, rfl⟩

theorem kept_string (s : String) : Kept s := by
  refine ⟨⟨s.toList, rfl⟩, ?_⟩
  show (Json.textOf? (Json.piecesOf s.toList)).map String.ofList = some s
  rw [Json.textOf?_piecesOf]
  simp

theorem kept_profile (p : Profile) : Kept p := by
  refine ⟨Json.plain_record ?_, ?_⟩
  · simp [(kept_string p.skinName).plain, (kept_int32 p.level).plain,
      (kept_int64 p.miningRate).plain, (kept_int32 p.miningDuration).plain,
      (kept_int32 p.skinId).plain, (kept_string p.skinImageUrl).plain]
  · have hf := Json.fields?_record [("skin_name", encode p.skinName),
      ("current_level", encode p.level), ("mining_rate", encode p.miningRate),
      ("mining_duration", encode p.miningDuration), ("current_skin_id", encode p.skinId),
      ("skin_image_url", encode p.skinImageUrl)] (by simp)
    have hn := (kept_string p.skinName).decodes
    have hl := (kept_int32 p.level).decodes
    have hr := (kept_int64 p.miningRate).decodes
    have hd := (kept_int32 p.miningDuration).decodes
    have hs := (kept_int32 p.skinId).decodes
    have hi := (kept_string p.skinImageUrl).decodes
    simp only [List.map_cons, List.map_nil, decode?, encode] at hf hn hl hr hd hs hi ⊢
    simp only [hf, hn, hl, hr, hd, hs, hi]
    rfl

theorem kept_skinStats (s : SkinStats) : Kept s := by
  refine ⟨Json.plain_record ?_, ?_⟩
  · simp [(kept_int32 s.gamesPlayed).plain, (kept_int32 s.hoursPlayed).plain,
      (kept_int64 s.coinsEarned).plain]
  · have hf := Json.fields?_record [("games_played", encode s.gamesPlayed),
      ("hours_played", encode s.hoursPlayed), ("coins_earned", encode s.coinsEarned)] (by simp)
    have hg := (kept_int32 s.gamesPlayed).decodes
    have hh := (kept_int32 s.hoursPlayed).decodes
    have hc := (kept_int64 s.coinsEarned).decodes
    simp only [List.map_cons, List.map_nil, decode?, encode] at hf hg hh hc ⊢
    simp only [hf, hg, hh, hc]
    rfl

/-! ## Skins come back shut -/

/-- A skin that is open to nobody. -/
def Skin.shut (skin : Skin) : Skin := { skin with isOpen := false }

/-- The skins of a list, open to nobody. -/
def SkinList.shut (list : SkinList) : SkinList := ⟨list.skins.map Skin.shut⟩

theorem SkinList.shut_shut (list : SkinList) : list.shut.shut = list.shut := by
  simp [SkinList.shut, Skin.shut]

/-- Who looks at the skins does not see whether they were open before. -/
theorem SkinList.seenAt_shut (list : SkinList) (level : Level) :
    list.shut.seenAt level = list.seenAt level := by
  simp only [SkinList.shut, SkinList.seenAt, List.map_map]
  rfl

theorem plain_skin (s : Skin) : (encode s).Plain := by
  refine Json.plain_record ?_
  simp [(kept_int32 s.id).plain, (kept_string s.name).plain, (kept_string s.lore).plain,
    (kept_string s.imageUrl).plain, (kept_int32 s.unlockLevel).plain, (kept_int64 s.price).plain,
    (kept_int64 s.referralsToBuy).plain, (kept_int64 s.referralsToOpen).plain,
    (kept_bool s.isOpen).plain, (kept_skinStats s.stats).plain]

theorem decode?_skin (s : Skin) : decode? (encode s) = some s.shut := by
  let before := [("skin_id", encode s.id), ("name", encode s.name), ("lore", encode s.lore),
    ("image_url", encode s.imageUrl), ("unlock_level", encode s.unlockLevel),
    ("price", encode s.price), ("referrals_to_buy", encode s.referralsToBuy),
    ("referrals_to_open", encode s.referralsToOpen)]
  let stats := [("stats", encode s.stats)]
  have hpart : before ++ stats ⊆ before ++ ("is_opened", encode s.isOpen) :: stats := by simp
  have hf := Json.fields?_part _ (by simp [before, stats]) hpart
  have hid := (kept_int32 s.id).decodes
  have hname := (kept_string s.name).decodes
  have hlore := (kept_string s.lore).decodes
  have himage := (kept_string s.imageUrl).decodes
  have hlevel := (kept_int32 s.unlockLevel).decodes
  have hprice := (kept_int64 s.price).decodes
  have hbuy := (kept_int64 s.referralsToBuy).decodes
  have hopen := (kept_int64 s.referralsToOpen).decodes
  have hstats := (kept_skinStats s.stats).decodes
  simp only [before, stats, List.cons_append, List.nil_append, List.map_cons, List.map_nil,
    decode?, encode] at hf hid hname hlore himage hlevel hprice hbuy hopen hstats ⊢
  simp only [hf, hid, hname, hlore, himage, hlevel, hprice, hbuy, hopen, Option.map_some,
    Option.getD_some, hstats]
  rfl

theorem plain_skins (skins : List Skin) : (encode skins).Plain := by
  induction skins with
  | nil => trivial
  | cons s skins ih => exact ⟨plain_skin s, ih⟩

theorem plain_skinList (list : SkinList) : (encode list).Plain := by
  refine Json.plain_record ?_
  simp [plain_skins]

/-- A list of skins is read from the cache as it was written, but shut. -/
theorem decodeText?_skinList (list : SkinList) :
    decodeText? (encodeText list) = some list.shut := by
  have skins : ∀ skins : List Skin, decode? (encode skins) = some (skins.map Skin.shut) := by
    intro skins
    induction skins with
    | nil => rfl
    | cons s skins ih =>
      have hs : (skins.map encode).mapM (decode? (α := Skin)) = some (skins.map Skin.shut) := ih
      show ((s :: skins).map encode).mapM decode? = some ((s :: skins).map Skin.shut)
      simp [List.mapM_cons, decode?_skin, hs]
  unfold decodeText? encodeText
  rw [Json.parse?_render _ (plain_skinList list)]
  have hf := Json.fields?_record [("skins", encode list.skins)] (by simp)
  have hd := skins list.skins
  simp only [List.map_cons, List.map_nil, Option.bind_some, decode?, encode] at hf hd ⊢
  simp only [hf, hd]
  rfl

end Progression
