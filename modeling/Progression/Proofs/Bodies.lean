-- What a body says. The reader of a record takes tokens one by one and
-- keeps numbers only; it tracks the reader of JSON values, so a body that
-- it accepts is a value, and a field it does not find is not there.
import Progression.Http.Form
import Progression.Proofs.Layout

namespace Progression

/-! ## Readers inside frames -/

namespace Json.Reading

/-- A reader that stands inside frames. -/
def within (frames : List Frame) : Reading → Reading
  | .nextValue inner => .nextValue (inner ++ frames)
  | .firstItem inner => .firstItem (inner ++ frames)
  | .firstName inner => .firstName (inner ++ frames)
  | .nextName read inner => .nextName read (inner ++ frames)
  | .nextColon name read inner => .nextColon name read (inner ++ frames)
  | .more frame inner => .more frame (inner ++ frames)
  | .finished value => complete value frames
  | .failed => .failed

variable (frames : List Frame)

theorem within_complete (value : Json) (inner : List Frame) :
    (complete value inner).within frames = complete value (inner ++ frames) := by
  rcases inner with _ | ⟨_ | _ | _, inner⟩ <;> rfl

theorem within_beginValue (inner : List Frame) (token : Token) :
    (beginValue inner token).within frames = beginValue (inner ++ frames) token := by
  cases token with
  | null | bool | number | string => exact within_complete frames _ inner
  | _ => rfl

/-- Until it has its value, a reader inside frames goes on as it would without them. -/
theorem within_step {reading : Reading} (h : ∀ value, reading ≠ .finished value) (token : Token) :
    (reading.step token).within frames = (reading.within frames).step token := by
  cases reading with
  | nextValue inner => exact within_beginValue frames inner token
  | firstItem inner =>
    have item := within_beginValue frames (.items [] :: inner) token
    cases token with
    | closeBracket => exact within_complete frames _ inner
    | _ => exact item
  | firstName inner =>
    cases token with
    | closeBrace => exact within_complete frames _ inner
    | _ => rfl
  | nextName | nextColon => cases token <;> rfl
  | more frame inner =>
    rcases frame with _ | _ | _
    · cases token with
      | closeBracket => exact within_complete frames _ inner
      | _ => rfl
    · cases token with
      | closeBrace => exact within_complete frames _ inner
      | _ => rfl
    · cases token <;> rfl
  | finished value => exact absurd rfl (h value)
  | failed => rfl

end Json.Reading

namespace Http

open Json

/-! ## What a value says of a field -/

/-- What a value says under one of these names: the value of the only member of that name, or the
item in its place; nothing if there is none. -/
inductive Says (names : List String) : Json → String → Option Json → Prop
  | member {members : List (List Piece × Json)} {name : String} {found : Option Json}
      (h : valuesOf name members = found.toList) : Says names (.object members) name found
  | item {items : List Json} {name : String} {i : Nat} (h : names[i]? = some name) :
      Says names (.array items) name items[i]?

/-- A value says one thing under a name. -/
theorem Says.unique {names : List String} (distinct : names.Nodup) {value : Json} {name : String}
    {found found' : Option Json} (h : Says names value name found)
    (h' : Says names value name found') : found = found' := by
  cases h with
  | member h =>
    cases h' with
    | member h' =>
      have same : found.toList = found'.toList := h.symm.trans h'
      cases found <;> cases found' <;> simp_all
  | @item items _ i h =>
    cases h' with
    | @item _ _ j h' =>
      have inside : i < names.length := (List.getElem?_eq_some_iff.mp h).1
      rw [(List.getElem?_inj inside distinct).mp (h.trans h'.symm)]

/-- A field is not there, or is a whole number in its range. -/
inductive Field.Found (field : Field) : Option Json → Option Int → Prop
  | absent : Found field none none
  | number {literal : List Char} {z : Int} (reads : integer? literal = some z)
      (fits : field.least ≤ z ∧ z ≤ field.greatest) :
      Found field (some (.number literal)) (some z)

/-- There is a number for each field, and it is what is said of the field. -/
structure Tells (fields : List Field) (said : Nat → Field → Option Json → Prop)
    (numbers : List (Option Int)) : Prop where
  length : numbers.length = fields.length
  told (i : Nat) (field : Field) (hf : fields[i]? = some field) :
    ∃ found number, said i field found ∧ field.Found found number ∧ numbers[i]? = some number

variable {fields : List Field} {members : List (List Piece × Json)} {items : List Json}
  {numbers : List (Option Int)} {name : List Piece}

/-- The numbers are what the members say of the fields. -/
def Gathered (fields : List Field) (members : List (List Piece × Json))
    (numbers : List (Option Int)) : Prop :=
  Tells fields (fun _ field found => valuesOf field.name members = found.toList) numbers

/-- The numbers are what the items, last one first, say of the fields. -/
def Listed (fields : List Field) (items : List Json) (numbers : List (Option Int)) : Prop :=
  Tells fields (fun i _ found => items.reverse[i]? = found) numbers

/-- The name is that of a field of which nothing was said yet. -/
def Fresh (fields : List Field) (members : List (List Piece × Json)) (name : List Piece)
    (i : Nat) : Prop :=
  ∃ field, fields[i]? = some field ∧ textOf? name = some field.name.toList ∧
    valuesOf field.name members = []

/-- The name is that of no field. -/
def Foreign (fields : List Field) (name : List Piece) : Prop :=
  ∀ field ∈ fields, textOf? name ≠ some field.name.toList

/-- The numbers are what the value says of the fields. -/
def TellsOf (fields : List Field) (value : Json) (numbers : List (Option Int)) : Prop :=
  Tells fields (fun _ field found => Says (fields.map Field.name) value field.name found) numbers

/-- The two readers have read the same. -/
inductive Tracks (fields : List Field) : FormReader → Json.Reading → Prop
  | start {numbers : List (Option Int)} (nothing : Listed fields [] numbers)
      (empty : Gathered fields [] numbers) : Tracks fields ⟨.start, numbers⟩ (.nextValue [])
  | firstName {numbers : List (Option Int)} (told : Gathered fields [] numbers) :
      Tracks fields ⟨.firstName, numbers⟩ (.firstName [])
  | nextName {members : List (List Piece × Json)} {numbers : List (Option Int)}
      (told : Gathered fields members numbers) :
      Tracks fields ⟨.nextName, numbers⟩ (.nextName members [])
  | colon {members : List (List Piece × Json)} {numbers : List (Option Int)} {name : List Piece}
      {i : Nat} (told : Gathered fields members numbers) (fresh : Fresh fields members name i) :
      Tracks fields ⟨.colon (some i), numbers⟩ (.nextColon name members [])
  | foreignColon {members : List (List Piece × Json)} {numbers : List (Option Int)}
      {name : List Piece} (told : Gathered fields members numbers) (foreign : Foreign fields name) :
      Tracks fields ⟨.colon none, numbers⟩ (.nextColon name members [])
  | fieldValue {members : List (List Piece × Json)} {numbers : List (Option Int)}
      {name : List Piece} {i : Nat} (told : Gathered fields members numbers)
      (fresh : Fresh fields members name i) :
      Tracks fields ⟨.fieldValue i, numbers⟩ (.nextValue [.member name members])
  | skipping {members : List (List Piece × Json)} {numbers : List (Option Int)}
      {name : List Piece} {inner : Json.Reading} (told : Gathered fields members numbers)
      (foreign : Foreign fields name) (going : ∀ value, inner ≠ .finished value) :
      Tracks fields ⟨.skipping inner, numbers⟩ (inner.within [.member name members])
  | memberEnd {members : List (List Piece × Json)} {numbers : List (Option Int)}
      (told : Gathered fields members numbers) :
      Tracks fields ⟨.memberEnd, numbers⟩ (.more (.members members) [])
  | firstItem {numbers : List (Option Int)} (told : Listed fields [] numbers) :
      Tracks fields ⟨.firstItem, numbers⟩ (.firstItem [])
  | nextItem {items : List Json} {numbers : List (Option Int)}
      (told : Listed fields items numbers) :
      Tracks fields ⟨.nextItem items.length, numbers⟩ (.nextValue [.items items])
  | itemEnd {items : List Json} {numbers : List (Option Int)}
      (told : Listed fields items numbers) :
      Tracks fields ⟨.itemEnd items.length, numbers⟩ (.more (.items items) [])
  | complete {value : Json} {numbers : List (Option Int)}
      (told : TellsOf fields value numbers) :
      Tracks fields ⟨.complete, numbers⟩ (.finished value)
  | failed {numbers : List (Option Int)} {fault : FormFault} {reading : Json.Reading} :
      Tracks fields ⟨.failed fault, numbers⟩ reading

theorem Foreign.gathered (foreign : Foreign fields name) (told : Gathered fields members numbers)
    (value : Json) : Gathered fields ((name, value) :: members) numbers := by
  refine ⟨told.length, fun i field hf => ?_⟩
  obtain ⟨found, number, said, reads, kept⟩ := told.told i field hf
  have other := foreign field (List.mem_of_getElem? hf)
  exact ⟨found, number, (valuesOf_cons_of_not other members).trans said, reads, kept⟩

/-- A number that is said of one more field is kept in the place of the field. -/
theorem Tells.set {said said' : Nat → Field → Option Json → Prop} {i : Nat} {field : Field}
    (hf : fields[i]? = some field) (told : Tells fields said numbers) {literal : List Char}
    {z : Int} (reads : integer? literal = some z) (fits : field.least ≤ z ∧ z ≤ field.greatest)
    (here : said' i field (some (.number literal)))
    (others : ∀ j other found, i ≠ j → fields[j]? = some other → said j other found →
      said' j other found) : Tells fields said' (numbers.set i (some z)) := by
  refine ⟨(List.length_set ..).trans told.length, fun j other ho => ?_⟩
  obtain ⟨found, number, hs, readsOther, kept⟩ := told.told j other ho
  by_cases hij : i = j
  · subst hij
    obtain rfl : field = other := Option.some.inj (hf.symm.trans ho)
    refine ⟨some (.number literal), some z, here, .number reads fits, ?_⟩
    rw [List.getElem?_set_self]
    exact (List.getElem?_eq_some_iff.mp kept).1
  · refine ⟨found, number, others j other found hij ho hs, readsOther, ?_⟩
    rwa [List.getElem?_set_ne hij]

theorem Fresh.gathered (distinct : (fields.map Field.name).Nodup) {i : Nat} {field : Field}
    (fresh : Fresh fields members name i) (hf : fields[i]? = some field)
    (told : Gathered fields members numbers) {literal : List Char} {z : Int}
    (reads : integer? literal = some z) (fits : field.least ≤ z ∧ z ≤ field.greatest) :
    Gathered fields ((name, .number literal) :: members) (numbers.set i (some z)) := by
  obtain ⟨_, hf', named, nothing⟩ := fresh
  obtain rfl : field = _ := Option.some.inj (hf.symm.trans hf')
  refine Tells.set hf told reads fits ?_ fun j other found hij ho said => ?_
  · show valuesOf field.name ((name, .number literal) :: members) = _
    rw [valuesOf_cons_of_named named, nothing]
    rfl
  · have apart : textOf? name ≠ some other.name.toList := by
      intro same
      rw [named, Option.some.injEq, String.toList_inj] at same
      apply hij
      apply (List.getElem?_inj (by simpa using (List.getElem?_eq_some_iff.mp hf).1) distinct).mp
      simp [hf, ho, same]
    exact (valuesOf_cons_of_not apart members).trans said

/-- A number that stands behind the items that were read is kept in the next place. -/
theorem Listed.concat {field : Field} (hf : fields[items.length]? = some field)
    (told : Listed fields items numbers) {literal : List Char} {z : Int}
    (reads : integer? literal = some z) (fits : field.least ≤ z ∧ z ≤ field.greatest) :
    Listed fields (.number literal :: items) (numbers.set items.length (some z)) := by
  refine Tells.set hf told reads fits ?_ fun j other found hij ho said => ?_
  · simp
  · rw [← said]
    simp only [List.reverse_cons, List.getElem?_append, List.length_reverse]
    split
    · rfl
    · rename_i behind
      rw [List.getElem?_eq_none (by simp only [List.length_singleton]; omega)]
      exact (List.getElem?_eq_none (by simpa using behind)).symm

theorem Gathered.tellsOf (told : Gathered fields members numbers) :
    TellsOf fields (.object members.reverse) numbers := by
  refine ⟨told.length, fun i field hf => ?_⟩
  obtain ⟨found, number, said, reads, kept⟩ := told.told i field hf
  refine ⟨found, number, .member ?_, reads, kept⟩
  have back : valuesOf field.name members.reverse = (valuesOf field.name members).reverse := by
    simp [valuesOf]
  rw [back, show valuesOf field.name members = found.toList from said]
  cases found <;> rfl

theorem Listed.tellsOf (told : Listed fields items numbers) :
    TellsOf fields (.array items.reverse) numbers := by
  refine ⟨told.length, fun i field hf => ?_⟩
  obtain ⟨found, number, rfl, reads, kept⟩ := told.told i field hf
  exact ⟨_, number, .item (by simp [hf]), reads, kept⟩

namespace Tracks

theorem of_fail (reader : FormReader) (fault : FormFault) (reading : Json.Reading) :
    Tracks fields (reader.fail fault) reading := .failed

theorem readName (told : Gathered fields members numbers) (place : Place) (pieces : List Piece) :
    Tracks fields (FormReader.readName ⟨place, numbers⟩ fields pieces)
      (.nextColon pieces members []) := by
  unfold FormReader.readName
  split
  · exact of_fail ..
  · rename_i text ht
    split
    · rename_i unknown
      refine .foreignColon told fun field known same => ?_
      have other := List.findIdx?_eq_none_iff.mp unknown field known
      rw [ht, Option.some.injEq] at same
      simp [same] at other
    · rename_i i hi
      split
      · exact of_fail ..
      · rename_i unsaid
        obtain ⟨within, named, -⟩ := List.findIdx?_eq_some_iff_getElem.mp hi
        have hf : fields[i]? = some fields[i] := List.getElem?_eq_getElem within
        obtain ⟨found, number, said, reads, kept⟩ := told.told i _ hf
        refine .colon told ⟨fields[i], hf, ?_, ?_⟩
        · rw [ht, ← beq_iff_eq.mp named]
        · cases reads with
          | absent => exact said
          | number => simp [kept] at unsaid

/-- A number that a field is read as is one more part of the record. -/
theorem readField {place next : Place} {i : Nat} {token : Token} {reading : Json.Reading}
    (good : ∀ field literal z, fields[i]? = some field → token = .number literal →
      integer? literal = some z → field.least ≤ z ∧ z ≤ field.greatest →
        Tracks fields ⟨next, numbers.set i (some z)⟩ reading) :
    Tracks fields (FormReader.readField ⟨place, numbers⟩ fields i token next) reading := by
  unfold FormReader.readField
  split
  · rename_i literal field hf
    split
    · rename_i z hz
      split
      · exact good field literal z hf rfl hz ‹_›
      · exact of_fail ..
    · exact of_fail ..
  · exact of_fail ..

/-- With each token the two readers read the same again. -/
theorem step (distinct : (fields.map Field.name).Nodup) {reader : FormReader}
    {reading : Json.Reading} (h : Tracks fields reader reading) (token : Token) :
    Tracks fields (reader.step fields token) (reading.step token) := by
  cases h with
  | start nothing empty =>
    cases token with
    | openBrace => exact .firstName empty
    | openBracket => exact .firstItem nothing
    | _ => exact of_fail ..
  | firstName told =>
    cases token with
    | closeBrace => exact .complete told.tellsOf
    | string pieces => exact readName told ..
    | _ => exact of_fail ..
  | nextName told =>
    cases token with
    | string pieces => exact readName told ..
    | _ => exact of_fail ..
  | colon told fresh =>
    cases token with
    | colon => exact .fieldValue told fresh
    | _ => exact of_fail ..
  | foreignColon told foreign =>
    cases token with
    | colon => exact @Tracks.skipping _ _ _ _ (.nextValue []) told foreign nofun
    | _ => exact of_fail ..
  | fieldValue told fresh =>
    refine readField fun field literal z hf ht reads fits => ?_
    subst ht
    exact .memberEnd (fresh.gathered distinct hf told reads fits)
  | @skipping members numbers name inner told foreign going =>
    -- The reader of the skipped value stands inside the member that the other one is reading.
    rw [← Json.Reading.within_step _ going]
    unfold FormReader.step
    dsimp only
    split
    · rename_i value hs
      rw [hs]
      exact .memberEnd (foreign.gathered told value)
    · exact of_fail ..
    · rename_i unfinished _
      exact .skipping told foreign unfinished
  | memberEnd told =>
    cases token with
    | comma => exact .nextName told
    | closeBrace => exact .complete told.tellsOf
    | _ => exact of_fail ..
  | @firstItem numbers told =>
    have item {next : Json.Reading} (good : ∀ literal, token = .number literal →
        next = .more (.items [.number literal]) []) : Tracks fields
          (FormReader.readField ⟨.firstItem, numbers⟩ fields 0 token (.itemEnd 1)) next := by
      refine readField fun field literal z hf ht reads fits => ?_
      rw [good literal ht]
      exact .itemEnd (told.concat hf reads fits)
    cases token with
    | closeBracket => exact .complete told.tellsOf
    | number literal => exact item fun _ => by rintro ⟨⟩; rfl
    | _ => exact item nofun
  | nextItem told =>
    refine readField fun field literal z hf ht reads fits => ?_
    subst ht
    exact .itemEnd (told.concat hf reads fits)
  | itemEnd told =>
    cases token with
    | closeBracket => exact .complete told.tellsOf
    | comma =>
      show Tracks fields (if _ then _ else _) _
      split
      · exact .nextItem told
      · exact of_fail ..
    | _ => exact of_fail ..
  | complete told => exact of_fail ..
  | failed => exact .failed

theorem tokens (distinct : (fields.map Field.name).Nodup) {reader : FormReader}
    {reading : Json.Reading} (h : Tracks fields reader reading) (tokens : List Token) :
    Tracks fields (tokens.foldl (FormReader.step fields) reader)
      (tokens.foldl Json.Reading.step reading) := by
  induction tokens generalizing reader reading with
  | nil => exact h
  | cons token tokens ih => exact ih (h.step distinct token)

theorem begin (fields : List Field) : Tracks fields (.start fields) (.nextValue []) := by
  have blank {i : Nat} {field : Field} (hf : fields[i]? = some field) :
      (fields.map fun _ => (none : Option Int))[i]? = some none := by
    rw [List.getElem?_map, hf]
    rfl
  have length : (fields.map fun _ => (none : Option Int)).length = fields.length := by simp
  refine .start ⟨length, fun i field hf => ?_⟩ ⟨length, fun i field hf => ?_⟩
  · exact ⟨none, none, by simp, .absent, blank hf⟩
  · exact ⟨none, none, rfl, .absent, blank hf⟩

end Tracks

/-- A text that is read as a record is a value, and its numbers are what the value says of the
fields; a number is zero if its field is not there. -/
theorem tells_of_readForm {text : List Glyph} {read : List Int}
    (distinct : (fields.map Field.name).Nodup) (h : readForm fields text = .ok read) :
    ∃ value numbers, ofGlyphs? text = some value ∧ TellsOf fields value numbers ∧
      read = numbers.map fun number => number.getD 0 := by
  have tracks := (Tracks.begin fields).tokens distinct (Json.tokens text)
  unfold readForm FormReader.finish at h
  generalize (Json.tokens text).foldl (FormReader.step fields) (.start fields) = reader at h tracks
  generalize hr : (Json.tokens text).foldl Json.Reading.step (.nextValue []) = reading at tracks
  cases tracks with
  | @complete value numbers told =>
    refine ⟨value, numbers, ?_, told, (Except.ok.inj h).symm⟩
    unfold ofGlyphs? ofTokens?
    rw [hr]
    rfl
  | _ => cases h

end Http

end Progression
