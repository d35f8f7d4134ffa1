-- What an entry is read as follows its content. The values of a type have a
-- layout, and what counts of a record are the values of its fields: not the
-- order of the members, nor what stands among them, nor whether the record
-- is written as an object or as an array of its values.
import Progression.Proofs.CacheRoundTrip
import Progression.Proofs.Ending
import Progression.Proofs.Skipping
import Progression.Proofs.Spelling

namespace Progression

namespace Json

/-! ## Layouts -/

/-- What the values of a type look like: numbers and strings, lists, and records of named fields.
Of some records the last field may be left out. -/
inductive Layout where
  | plain
  | list (items : Layout)
  | record (fields : List (String × Layout)) (lastMayLack : Bool)

/-- The values of the members of that name. -/
def valuesOf (name : String) (members : List (List Piece × Json)) : List Json :=
  (members.filter (isNamed name)).map Prod.snd

namespace Layout

mutual

/-- The value with every record written as the array of its fields, if it has the layout. -/
def flat? : Layout → Json → Option Json
  | .plain, value => some value
  | .list items, .array values => (values.mapM items.flat?).map .array
  | .list _, _ => none
  | .record fields lastMayLack, value =>
    (value.fields? (fields.map Prod.fst)).bind fun found =>
      (flatFields? fields lastMayLack found).map .array

/-- The values of the fields that were found. -/
def flatFields? : List (String × Layout) → Bool → List (Option Json) → Option (List Json)
  | [], _, [] => some []
  | (_, layout) :: fields, lastMayLack, some value :: found =>
    (layout.flat? value).bind fun flat => (flatFields? fields lastMayLack found).map (flat :: ·)
  | [_], true, [none] => some []
  | _, _, _ => none

end

/-- The fields of a record that may not be left out. -/
def needed (fields : List (String × Layout)) (lastMayLack : Bool) : List (String × Layout) :=
  if lastMayLack then fields.dropLast else fields

/-- One edit that keeps the content. A text that is accepted has no objects but its records and what
stands in members that are no field; that is not read at all, so it may become anything. -/
inductive Rearranged : Layout → Json → Json → Prop
  | reordered {fields : List (String × Layout)} {lastMayLack : Bool}
      {members members' : List (List Piece × Json)} (h : members.Perm members') :
      Rearranged (.record fields lastMayLack) (.object members) (.object members')
  | inserted {fields : List (String × Layout)} {lastMayLack : Bool}
      {before after : List (List Piece × Json)} {name : List Piece} {text : String} {value : Json}
      (named : textOf? name = some text.toList) (unknown : text ∉ fields.map Prod.fst) :
      Rearranged (.record fields lastMayLack) (.object (before ++ after))
        (.object (before ++ (name, value) :: after))
  | listed {fields : List (String × Layout)} {lastMayLack : Bool}
      {members : List (List Piece × Json)} :
      Rearranged (.record fields lastMayLack) (.object members)
        (.array (fields.flatMap fun field => valuesOf field.1 members))
  | inMember {fields : List (String × Layout)} {lastMayLack : Bool}
      {before after : List (List Piece × Json)} {name : List Piece} {value value' : Json}
      (h : ∀ field ∈ fields, textOf? name = some field.1.toList →
        Rearranged field.2 value value') :
      Rearranged (.record fields lastMayLack) (.object (before ++ (name, value) :: after))
        (.object (before ++ (name, value') :: after))
  | inEntry {fields : List (String × Layout)} {lastMayLack : Bool} {before after : List Json}
      {field : String × Layout} {value value' : Json} (placed : fields[before.length]? = some field)
      (h : Rearranged field.2 value value') :
      Rearranged (.record fields lastMayLack) (.array (before ++ value :: after))
        (.array (before ++ value' :: after))
  | inItem {items : Layout} {before after : List Json} {value value' : Json}
      (h : Rearranged items value value') :
      Rearranged (.list items) (.array (before ++ value :: after))
        (.array (before ++ value' :: after))

/-- One edit that spoils the content: a field that is needed is removed, or a field is said
again. -/
inductive Spoilt : Layout → Json → Json → Prop
  | removed {fields : List (String × Layout)} {lastMayLack : Bool}
      {before after : List (List Piece × Json)} {name : List Piece} {value : Json}
      {field : String × Layout} (known : field ∈ needed fields lastMayLack)
      (named : textOf? name = some field.1.toList) :
      Spoilt (.record fields lastMayLack) (.object (before ++ (name, value) :: after))
        (.object (before ++ after))
  | repeated {fields : List (String × Layout)} {lastMayLack : Bool}
      {before after : List (List Piece × Json)} {name name' : List Piece} {value value' : Json}
      {field : String × Layout} (known : field ∈ fields)
      (named : textOf? name = some field.1.toList) (there : (name, value) ∈ before ++ after)
      (again : textOf? name' = some field.1.toList) :
      Spoilt (.record fields lastMayLack) (.object (before ++ after))
        (.object (before ++ (name', value') :: after))
  | inMember {fields : List (String × Layout)} {lastMayLack : Bool}
      {before after : List (List Piece × Json)} {name : List Piece} {value value' : Json}
      {field : String × Layout} (known : field ∈ fields)
      (named : textOf? name = some field.1.toList) (h : Spoilt field.2 value value') :
      Spoilt (.record fields lastMayLack) (.object (before ++ (name, value) :: after))
        (.object (before ++ (name, value') :: after))
  | inEntry {fields : List (String × Layout)} {lastMayLack : Bool} {before after : List Json}
      {field : String × Layout} {value value' : Json} (placed : fields[before.length]? = some field)
      (h : Spoilt field.2 value value') :
      Spoilt (.record fields lastMayLack) (.array (before ++ value :: after))
        (.array (before ++ value' :: after))
  | inItem {items : Layout} {before after : List Json} {value value' : Json}
      (h : Spoilt items value value') :
      Spoilt (.list items) (.array (before ++ value :: after)) (.array (before ++ value' :: after))

end Layout

/-! ## What a record is read as -/

theorem isSome_namedMembers? {members : List (List Piece × Json)} :
    (namedMembers? members).isSome ↔ ∀ m ∈ members, (textOf? m.1).isSome := by
  induction members with
  | nil => simp [namedMembers?]
  | cons m members ih =>
    rw [namedMembers?_cons, List.forall_mem_cons, ← ih]
    cases textOf? m.1 <;> simp

theorem single?_eq_some {name : String} {members : List (List Piece × Json)}
    {named : List (List Char × Json)} (h : namedMembers? members = some named)
    {found : Option Json} :
    single? named name = some found ↔ valuesOf name members = found.toList := by
  have values : (named.filter fun m => m.1 == name.toList).map Prod.snd
      = valuesOf name members := by
    unfold valuesOf
    induction members generalizing named with
    | nil =>
      cases h
      rfl
    | cons m members ih =>
      rw [namedMembers?_cons] at h
      obtain ⟨text, ht, h⟩ := Option.bind_eq_some_iff.mp h
      obtain ⟨rest, hr, rfl⟩ := Option.map_eq_some_iff.mp h
      by_cases hm : text = name.toList
      · simp [isNamed, ht, hm, ih hr]
      · simp [isNamed, ht, hm, ih hr]
  rw [← values]
  unfold single?
  generalize (named.filter fun m => m.1 == name.toList) = only
  rcases only with _ | ⟨m, _ | ⟨m', rest⟩⟩
  · cases found <;> simp
  · cases found <;> simp
  · cases found <;> simp

/-- The fields of an object are the values of the members of their names, one for each name at
most; and all names are texts. -/
theorem fields?_object {members : List (List Piece × Json)} {names : List String}
    {found : List (Option Json)} : (Json.object members).fields? names = some found ↔
      (∀ m ∈ members, (textOf? m.1).isSome) ∧
        List.Forall₂ (fun name value => valuesOf name members = value.toList) names found := by
  rw [← isSome_namedMembers?]
  simp only [fields?]
  cases h : namedMembers? members with
  | none => simp
  | some named =>
    simp only [Option.bind_some, Option.isSome_some, true_and, ← single?_eq_some h]
    clear h
    induction names generalizing found with
    | nil => simp [eq_comm]
    | cons name names ih =>
      simp only [List.mapM_cons, List.forall₂_cons_left_iff, Option.pure_def, Option.bind_eq_bind,
        Option.bind_eq_some_iff, Option.some.injEq, ih]
      constructor
      · rintro ⟨value, hv, rest, hr, rfl⟩
        exact ⟨value, rest, hv, hr, rfl⟩
      · rintro ⟨value, rest, hv, hr, rfl⟩
        exact ⟨value, hv, rest, hr, rfl⟩

theorem fields?_array {items : List Json} {names : List String} {found : List (Option Json)} :
    (Json.array items).fields? names = some found ↔ items.length ≤ names.length ∧
      found = items.map some ++ List.replicate (names.length - items.length) none := by
  simp only [fields?]
  split
  · simp [*, eq_comm]
  · simp [*]

/-- If one of the values is there, there is no other. -/
theorem eq_some_of_toList {before after : List Json} {value : Json} {found : Option Json}
    (h : before ++ value :: after = found.toList) :
    before = [] ∧ after = [] ∧ found = some value := by
  cases found with
  | none => simp at h
  | some v =>
    obtain ⟨hb, ha⟩ | ⟨-, none⟩ := List.append_eq_singleton_iff.mp h
    · obtain ⟨rfl, rfl⟩ := List.cons.inj ha
      exact ⟨hb, rfl, rfl⟩
    · cases none

theorem valuesOf_append (name : String) (before after : List (List Piece × Json)) :
    valuesOf name (before ++ after) = valuesOf name before ++ valuesOf name after := by
  simp [valuesOf]

theorem valuesOf_cons_of_named {name : String} {m : List Piece × Json}
    (h : textOf? m.1 = some name.toList) (members : List (List Piece × Json)) :
    valuesOf name (m :: members) = m.2 :: valuesOf name members := by
  simp [valuesOf, isNamed, h]

theorem valuesOf_cons_of_not {name : String} {m : List Piece × Json}
    (h : textOf? m.1 ≠ some name.toList) (members : List (List Piece × Json)) :
    valuesOf name (m :: members) = valuesOf name members := by
  simp [valuesOf, isNamed, h]

namespace Layout

variable {fields : List (String × Layout)} {lastMayLack : Bool}

theorem flat?_record {value flat : Json} :
    (record fields lastMayLack).flat? value = some flat ↔
      ∃ found flats, value.fields? (fields.map Prod.fst) = some found ∧
        flatFields? fields lastMayLack found = some flats ∧ flat = .array flats := by
  simp only [flat?, Option.bind_eq_some_iff, Option.map_eq_some_iff]
  constructor
  · rintro ⟨found, hf, flats, hl, rfl⟩
    exact ⟨found, flats, hf, hl, rfl⟩
  · rintro ⟨found, flats, hf, hl, rfl⟩
    exact ⟨found, hf, flats, hl, rfl⟩

theorem flatFields?_cons_some {name : String} {layout : Layout} {value : Json}
    {found : List (Option Json)} {flats : List Json} :
    flatFields? ((name, layout) :: fields) lastMayLack (some value :: found) = some flats ↔
      ∃ flat rest, layout.flat? value = some flat ∧
        flatFields? fields lastMayLack found = some rest ∧ flats = flat :: rest := by
  simp only [flatFields?, Option.bind_eq_some_iff, Option.map_eq_some_iff]
  constructor
  · rintro ⟨flat, hv, rest, hr, rfl⟩
    exact ⟨flat, rest, hv, hr, rfl⟩
  · rintro ⟨flat, rest, hv, hr, rfl⟩
    exact ⟨flat, hv, rest, hr, rfl⟩

theorem flatFields?_cons_none {field : String × Layout} {found : List (Option Json)}
    {flats : List Json} :
    flatFields? (field :: fields) lastMayLack (none :: found) = some flats ↔
      lastMayLack = true ∧ fields = [] ∧ found = [] ∧ flats = [] := by
  cases lastMayLack with
  | false => simp [flatFields?]
  | true =>
    cases fields with
    | cons second fields => simp [flatFields?]
    | nil =>
      cases found with
      | cons second found => simp [flatFields?]
      | nil => simp [flatFields?, eq_comm]

theorem mem_needed_of_cons {field first : String × Layout} (hf : field ≠ first)
    (h : field ∈ needed (first :: fields) lastMayLack) : field ∈ needed fields lastMayLack := by
  cases lastMayLack with
  | false => exact (List.mem_cons.mp h).resolve_left hf
  | true =>
    cases fields with
    | nil => cases h
    | cons second fields => exact (List.mem_cons.mp h).resolve_left hf

/-- Of every field one value at most was found, of a needed one exactly one; and the values have
their layouts. -/
theorem found_of_flatFields? {P : String → Option Json → Prop} {found : List (Option Json)}
    {flats : List Json} (lies : List.Forall₂ P (fields.map Prod.fst) found)
    (h : flatFields? fields lastMayLack found = some flats) {field : String × Layout}
    (known : field ∈ fields) : ∃ value, P field.1 value ∧
      (field ∈ needed fields lastMayLack → value ≠ none) ∧
      ∀ v, value = some v → ∃ flat, field.2.flat? v = some flat := by
  induction fields generalizing found flats with
  | nil => cases known
  | cons first fields ih =>
    rw [List.map_cons] at lies
    cases lies with
    | @cons _ value _ found hp lies =>
      cases value with
      | none =>
        obtain ⟨rfl, rfl, rfl, rfl⟩ := flatFields?_cons_none.mp h
        obtain rfl := List.mem_singleton.mp known
        exact ⟨none, hp, nofun, nofun⟩
      | some value =>
        obtain ⟨flat, rest, hv, hr, rfl⟩ := flatFields?_cons_some.mp h
        by_cases hf : field = first
        · subst hf
          exact ⟨some value, hp, fun _ => nofun, fun v hs => ⟨flat, Option.some.inj hs ▸ hv⟩⟩
        · obtain ⟨v, hp, must, lays⟩ := ih lies hr ((List.mem_cons.mp known).resolve_left hf)
          exact ⟨v, hp, fun hn => must (mem_needed_of_cons hf hn), lays⟩

/-- What the one value is laid out as, the other is too. -/
def Keeps (layout : Layout) (value value' : Json) : Prop :=
  ∀ flat, layout.flat? value = some flat → layout.flat? value' = some flat

/-- A record stays the same if each of its fields does, as far as it is there. -/
theorem flatFields?_of_kept {P Q : String → Option Json → Prop} {found : List (Option Json)}
    {flats : List Json} (lies : List.Forall₂ P (fields.map Prod.fst) found)
    (kept : ∀ field ∈ fields, ∀ value, P field.1 value →
      ∃ value', Q field.1 value' ∧ Option.Rel (Keeps field.2) value value')
    (h : flatFields? fields lastMayLack found = some flats) :
    ∃ found', List.Forall₂ Q (fields.map Prod.fst) found' ∧
      flatFields? fields lastMayLack found' = some flats := by
  induction fields generalizing found flats with
  | nil =>
    cases lies
    exact ⟨[], .nil, h⟩
  | cons first fields ih =>
    rw [List.map_cons] at lies
    obtain ⟨here, there⟩ := List.forall_mem_cons.mp kept
    cases lies with
    | @cons _ value _ found hp lies =>
      obtain ⟨value', hq, same⟩ := here value hp
      cases same with
      | none =>
        obtain ⟨rfl, rfl, rfl, rfl⟩ := flatFields?_cons_none.mp h
        exact ⟨[none], .cons hq .nil, h⟩
      | some same =>
        obtain ⟨flat, rest, hv, hr, rfl⟩ := flatFields?_cons_some.mp h
        obtain ⟨found', lies', hr'⟩ := ih lies there hr
        refine ⟨_ :: found', .cons hq lies', flatFields?_cons_some.mpr ?_⟩
        exact ⟨flat, rest, same flat hv, hr', rfl⟩

theorem rel_keeps (layout : Layout) (value : Option Json) :
    Option.Rel layout.Keeps value value := by
  cases value with
  | none => exact .none
  | some value => exact .some fun _ => id

theorem keeps_of_members {members members' : List (List Piece × Json)}
    (texts : (∀ m ∈ members, (textOf? m.1).isSome) → ∀ m ∈ members', (textOf? m.1).isSome)
    (kept : ∀ field ∈ fields, ∀ value : Option Json, valuesOf field.1 members = value.toList →
      ∃ value' : Option Json, valuesOf field.1 members' = value'.toList ∧
        Option.Rel field.2.Keeps value value') :
    (record fields lastMayLack).Keeps (.object members) (.object members') := by
  intro flat h
  obtain ⟨found, flats, hf, hl, rfl⟩ := flat?_record.mp h
  obtain ⟨named, lies⟩ := fields?_object.mp hf
  obtain ⟨found', lies', hl'⟩ := flatFields?_of_kept
    (Q := fun name value => valuesOf name members' = value.toList) lies kept hl
  exact flat?_record.mpr ⟨found', flats, fields?_object.mpr ⟨texts named, lies'⟩, hl', rfl⟩

/-- The members of an object may stand in any order. -/
theorem keeps_reordered {members members' : List (List Piece × Json)}
    (h : members.Perm members') :
    (record fields lastMayLack).Keeps (.object members) (.object members') := by
  refine keeps_of_members (fun named m hm => named m (h.mem_iff.mpr hm)) fun field _ value hv => ?_
  refine ⟨value, ?_, rel_keeps field.2 value⟩
  have same : (valuesOf field.1 members').Perm value.toList :=
    hv ▸ ((h.filter (isNamed field.1)).map Prod.snd).symm
  cases value with
  | none => exact List.perm_nil.mp same
  | some value => exact List.perm_singleton.mp same

/-- A member of another name makes no difference. -/
theorem keeps_inserted {before after : List (List Piece × Json)} {name : List Piece}
    {text : String} {value : Json} (named : textOf? name = some text.toList)
    (unknown : text ∉ fields.map Prod.fst) : (record fields lastMayLack).Keeps
      (.object (before ++ after)) (.object (before ++ (name, value) :: after)) := by
  refine keeps_of_members (fun texts m hm => ?_) fun field known value' hv => ?_
  · rcases List.mem_append.mp hm with hb | ha
    · exact texts m (List.mem_append_left _ hb)
    · rcases List.mem_cons.mp ha with rfl | ha
      · simp [named]
      · exact texts m (List.mem_append_right _ ha)
  · refine ⟨value', ?_, rel_keeps field.2 value'⟩
    have other : textOf? name ≠ some field.1.toList := by
      intro same
      rw [named, Option.some.injEq, String.toList_inj] at same
      exact unknown (List.mem_map.mpr ⟨field, known, same.symm⟩)
    rwa [valuesOf_append, valuesOf_cons_of_not other, ← valuesOf_append]

/-- An object may become the array of the values of its fields. -/
theorem keeps_listed {members : List (List Piece × Json)} : (record fields lastMayLack).Keeps
    (.object members) (.array (fields.flatMap fun field => valuesOf field.1 members)) := by
  intro flat h
  obtain ⟨found, flats, hf, hl, rfl⟩ := flat?_record.mp h
  obtain ⟨-, lies⟩ := fields?_object.mp hf
  refine flat?_record.mpr ⟨found, flats, fields?_array.mpr ?_, hl, rfl⟩
  clear hf h
  induction fields generalizing found flats with
  | nil =>
    cases lies
    simp
  | cons first fields ih =>
    rw [List.map_cons] at lies
    cases lies with
    | @cons _ value _ found hv lies =>
      cases value with
      | none =>
        obtain ⟨rfl, rfl, rfl, rfl⟩ := flatFields?_cons_none.mp hl
        cases lies
        simp [hv]
      | some value =>
        obtain ⟨flat, rest, -, hr, rfl⟩ := flatFields?_cons_some.mp hl
        obtain ⟨short, same⟩ := ih found rest hr lies
        constructor
        · simpa [hv] using short
        · simpa [hv] using same

/-- The value of a member is read as the layout of its field, if it has one. -/
theorem keeps_inMember {before after : List (List Piece × Json)} {name : List Piece}
    {value value' : Json} (h : ∀ field ∈ fields, textOf? name = some field.1.toList →
      field.2.Keeps value value') : (record fields lastMayLack).Keeps
        (.object (before ++ (name, value) :: after))
        (.object (before ++ (name, value') :: after)) := by
  refine keeps_of_members (fun texts => ?_) fun field known found hv => ?_
  · simpa only [List.forall_mem_append, List.forall_mem_cons] using texts
  · rw [valuesOf_append] at hv ⊢
    by_cases named : textOf? name = some field.1.toList
    · rw [valuesOf_cons_of_named named] at hv ⊢
      obtain ⟨hb, ha, rfl⟩ := eq_some_of_toList hv
      exact ⟨some value', by simp [hb, ha], .some (h field known named)⟩
    · rw [valuesOf_cons_of_not named] at hv ⊢
      exact ⟨found, hv, rel_keeps field.2 found⟩

/-- The fields after a place of an array are read alike, whatever stands at the place. -/
theorem flatFields?_at (lastMayLack : Bool) {before : List Json} {field : String × Layout}
    (placed : fields[before.length]? = some field) (found : List (Option Json)) :
    ∃ read : Json → Option (List Json), ∀ value,
      flatFields? fields lastMayLack (before.map some ++ some value :: found)
        = (field.2.flat? value).bind read := by
  induction before generalizing fields with
  | nil =>
    cases fields with
    | nil => cases placed
    | cons first fields =>
      cases placed
      exact ⟨_, fun _ => rfl⟩
  | cons v before ih =>
    cases fields with
    | nil => cases placed
    | cons first fields =>
      obtain ⟨read, hr⟩ := ih placed
      cases hv : first.2.flat? v with
      | none =>
        refine ⟨fun _ => none, fun value => ?_⟩
        simp [flatFields?, hv]
      | some flat =>
        refine ⟨fun value => (read value).map (flat :: ·), fun value => ?_⟩
        simp [flatFields?, hv, hr, Option.map_bind]

theorem mapM_at (items : Layout) (before after : List Json) :
    ∃ read : Json → Option (List Json), ∀ value,
      (before ++ value :: after).mapM items.flat? = (items.flat? value).bind read := by
  induction before with
  | nil => exact ⟨_, fun value => List.mapM_cons⟩
  | cons v before ih =>
    obtain ⟨read, hr⟩ := ih
    cases hv : items.flat? v with
    | none =>
      refine ⟨fun _ => none, fun value => ?_⟩
      simp [hv]
    | some flat =>
      refine ⟨fun value => (read value).map (flat :: ·), fun value => ?_⟩
      simp [hv, hr, Option.bind_assoc, Option.map_eq_bind]

/-- Of a value at that place the whole reads nothing but what its own layout does. -/
def Reads (whole : Layout) (place : Json → Json) (part : Layout) : Prop :=
  ∃ read : Json → Option Json, ∀ value, whole.flat? (place value) = (part.flat? value).bind read

theorem reads_entry {before : List Json} {field : String × Layout}
    (placed : fields[before.length]? = some field) (after : List Json) :
    (record fields lastMayLack).Reads (fun value => .array (before ++ value :: after))
      field.2 := by
  obtain ⟨read, hr⟩ := flatFields?_at lastMayLack placed
    (after.map some ++ List.replicate (fields.length - (before.length + (after.length + 1))) none)
  unfold Reads
  simp only [flat?, fields?, List.length_append, List.length_cons, List.length_map]
  split
  · refine ⟨fun value => (read value).map .array, fun value => ?_⟩
    simp [hr, Option.map_bind]
  · exact ⟨fun _ => none, fun value => by simp⟩

theorem reads_item (items : Layout) (before after : List Json) :
    (list items).Reads (fun value => .array (before ++ value :: after)) items := by
  obtain ⟨read, hr⟩ := mapM_at items before after
  refine ⟨fun value => (read value).map .array, fun value => ?_⟩
  simp [flat?, hr, Option.map_bind]

theorem Reads.keeps {whole part : Layout} {place : Json → Json} (h : whole.Reads place part)
    {value value' : Json} (kept : part.Keeps value value') :
    whole.Keeps (place value) (place value') := by
  obtain ⟨read, hr⟩ := h
  intro flat good
  rw [hr] at good ⊢
  obtain ⟨inner, hi, hflat⟩ := Option.bind_eq_some_iff.mp good
  rw [kept inner hi]
  exact hflat

theorem Reads.spoilt {whole part : Layout} {place : Json → Json} (h : whole.Reads place part)
    {value value' flat : Json} (good : whole.flat? (place value) = some flat)
    (spoilt : ∀ flat, part.flat? value = some flat → part.flat? value' = none) :
    whole.flat? (place value') = none := by
  obtain ⟨read, hr⟩ := h
  rw [hr] at good ⊢
  obtain ⟨inner, hi, -⟩ := Option.bind_eq_some_iff.mp good
  rw [spoilt inner hi, Option.bind_none]

/-- An edit that keeps the content changes nothing about what is read. -/
theorem Rearranged.keeps {layout : Layout} {value value' : Json}
    (h : layout.Rearranged value value') : layout.Keeps value value' := by
  induction h with
  | reordered perm => exact keeps_reordered perm
  | inserted named unknown => exact keeps_inserted named unknown
  | listed => exact keeps_listed
  | inMember _ ih => exact keeps_inMember ih
  | inEntry placed _ ih => exact (reads_entry placed _).keeps ih
  | inItem _ ih => exact (reads_item _ _ _).keeps ih

/-- What an object that has the layout says of a field. -/
theorem read_field {members : List (List Piece × Json)} {flat : Json}
    (h : (record fields lastMayLack).flat? (.object members) = some flat)
    {field : String × Layout} (known : field ∈ fields) :
    ∃ found : Option Json, valuesOf field.1 members = found.toList ∧
      (field ∈ needed fields lastMayLack → found ≠ none) ∧
      ∀ value, found = some value → ∃ flat, field.2.flat? value = some flat := by
  obtain ⟨found, flats, hf, hl, -⟩ := flat?_record.mp h
  exact found_of_flatFields? (fields?_object.mp hf).2 hl known

theorem spoilt_removed {before after : List (List Piece × Json)} {name : List Piece}
    {value flat : Json} {field : String × Layout} (known : field ∈ needed fields lastMayLack)
    (named : textOf? name = some field.1.toList)
    (good : (record fields lastMayLack).flat? (.object (before ++ (name, value) :: after))
      = some flat) : (record fields lastMayLack).flat? (.object (before ++ after)) = none := by
  have among : field ∈ fields := by
    unfold needed at known
    split at known
    · exact List.mem_of_mem_dropLast known
    · exact known
  obtain ⟨found, hv, -, -⟩ := read_field good among
  rw [valuesOf_append, valuesOf_cons_of_named named] at hv
  obtain ⟨hb, ha, -⟩ := eq_some_of_toList hv
  by_contra still
  obtain ⟨flat', read⟩ := Option.ne_none_iff_exists'.mp still
  obtain ⟨found', hv', must, -⟩ := read_field read among
  rw [valuesOf_append, hb, ha] at hv'
  cases found' with
  | none => exact must known rfl
  | some value => cases hv'

theorem spoilt_repeated {before after : List (List Piece × Json)} {name name' : List Piece}
    {value value' : Json} {field : String × Layout} (known : field ∈ fields)
    (named : textOf? name = some field.1.toList) (there : (name, value) ∈ before ++ after)
    (again : textOf? name' = some field.1.toList) :
    (record fields lastMayLack).flat? (.object (before ++ (name', value') :: after)) = none := by
  by_contra still
  obtain ⟨flat, read⟩ := Option.ne_none_iff_exists'.mp still
  obtain ⟨found, hv, -, -⟩ := read_field read known
  rw [valuesOf_append, valuesOf_cons_of_named again] at hv
  obtain ⟨hb, ha, -⟩ := eq_some_of_toList hv
  have said : value ∈ valuesOf field.1 (before ++ after) :=
    List.mem_map.mpr ⟨(name, value), List.mem_filter.mpr ⟨there, by simp [isNamed, named]⟩, rfl⟩
  rw [valuesOf_append, hb, ha] at said
  cases said

theorem spoilt_inMember {before after : List (List Piece × Json)} {name : List Piece}
    {value value' flat : Json} {field : String × Layout} (known : field ∈ fields)
    (named : textOf? name = some field.1.toList)
    (spoilt : ∀ flat, field.2.flat? value = some flat → field.2.flat? value' = none)
    (good : (record fields lastMayLack).flat? (.object (before ++ (name, value) :: after))
      = some flat) :
    (record fields lastMayLack).flat? (.object (before ++ (name, value') :: after)) = none := by
  obtain ⟨found, hv, -, lays⟩ := read_field good known
  rw [valuesOf_append, valuesOf_cons_of_named named] at hv
  obtain ⟨inner, hi⟩ := lays value (eq_some_of_toList hv).2.2
  by_contra still
  obtain ⟨flat', read⟩ := Option.ne_none_iff_exists'.mp still
  obtain ⟨found', hv', -, lays'⟩ := read_field read known
  rw [valuesOf_append, valuesOf_cons_of_named named] at hv'
  obtain ⟨inner', hi'⟩ := lays' value' (eq_some_of_toList hv').2.2
  rw [spoilt inner hi] at hi'
  cases hi'

/-- An edit that spoils the content leaves nothing to read. -/
theorem Spoilt.flat?_eq_none {layout : Layout} {value value' flat : Json}
    (h : layout.Spoilt value value') (good : layout.flat? value = some flat) :
    layout.flat? value' = none := by
  induction h generalizing flat with
  | removed known named => exact spoilt_removed known named good
  | repeated known named there again => exact spoilt_repeated known named there again
  | inMember known named _ ih => exact spoilt_inMember known named (fun _ => ih) good
  | inEntry placed _ ih => exact (reads_entry placed _).spoilt good fun _ => ih
  | inItem _ ih => exact (reads_item _ _ _).spoilt good fun _ => ih

/-! ## The layouts of what the cache keeps -/

def profile : Layout :=
  .record [("skin_name", .plain), ("current_level", .plain), ("mining_rate", .plain),
    ("mining_duration", .plain), ("current_skin_id", .plain), ("skin_image_url", .plain)] false

def levelPrice : Layout :=
  .record [("level", .plain), ("coins_price", .plain), ("referrals_price", .plain),
    ("referrals_to_open", .plain)] false

def priceList : Layout := .record [("levels", .list levelPrice)] false

def skinStats : Layout :=
  .record [("games_played", .plain), ("hours_played", .plain), ("coins_earned", .plain)] false

/-- Whether a skin is open is no field, and its stats may be left out. -/
def skin : Layout :=
  .record [("skin_id", .plain), ("name", .plain), ("lore", .plain), ("image_url", .plain),
    ("unlock_level", .plain), ("price", .plain), ("referrals_to_buy", .plain),
    ("referrals_to_open", .plain), ("stats", skinStats)] true

def skinList : Layout := .record [("skins", .list skin)] false

end Layout

end Json

open Json

/-- Of a value the type reads nothing but what its layout does. -/
def FollowsLayout (α : Type) [Coded α] (layout : Layout) : Prop :=
  ∀ value, (decode? value : Option α) = (layout.flat? value).bind decode?

theorem FollowsLayout.taken {α : Type} [Coded α] {layout : Layout} (h : FollowsLayout α layout)
    {text : String} {value : Json} {a : α} (taken : TakenFor text a) (spells : Spells text value) :
    ∃ flat, layout.flat? value = some flat ∧ decode? flat = some a := by
  rw [takenFor_iff, decodeText?, parse?_eq_some.mpr spells, Option.bind_some, h value] at taken
  exact Option.bind_eq_some_iff.mp taken

theorem followsLayout_profile : FollowsLayout Profile .profile := by
  intro value
  simp only [decode?, Layout.profile, Layout.flat?, List.map_cons, List.map_nil]
  rcases value.fields? _ with _ | (_ | ⟨_ | name, _ | ⟨_ | level, _ | ⟨_ | rate,
    _ | ⟨_ | duration, _ | ⟨_ | skin, _ | ⟨_ | image, _ | ⟨other, others⟩⟩⟩⟩⟩⟩⟩)
  all_goals rfl

theorem followsLayout_levelPrice : FollowsLayout LevelPrice .levelPrice := by
  intro value
  simp only [decode?, Layout.levelPrice, Layout.flat?, List.map_cons, List.map_nil]
  rcases value.fields? _ with _ | (_ | ⟨_ | level, _ | ⟨_ | coins, _ | ⟨_ | referrals,
    _ | ⟨_ | toOpen, _ | ⟨other, others⟩⟩⟩⟩⟩)
  all_goals rfl

theorem followsLayout_skinStats : FollowsLayout SkinStats .skinStats := by
  intro value
  simp only [decode?, Layout.skinStats, Layout.flat?, List.map_cons, List.map_nil]
  rcases value.fields? _ with _ | (_ | ⟨_ | games, _ | ⟨_ | hours, _ | ⟨_ | coins,
    _ | ⟨other, others⟩⟩⟩⟩)
  all_goals rfl

theorem followsLayout_list {α : Type} [Coded α] {items : Layout} (h : FollowsLayout α items) :
    FollowsLayout (List α) (.list items) := by
  intro value
  cases value with
  | array values =>
    show (values.mapM decode? : Option (List α))
      = ((values.mapM items.flat?).map .array).bind decode?
    induction values with
    | nil => rfl
    | cons value values ih =>
      have head := h value
      simp only [List.mapM_cons, Option.pure_def, Option.bind_eq_bind, ih, head]
      cases items.flat? value with
      | none => rfl
      | some flat =>
        cases values.mapM items.flat? with
        | none => simp
        | some flats => simp [decode?]
  | _ => rfl

theorem followsLayout_skin : FollowsLayout Skin .skin := by
  intro value
  simp only [decode?, Layout.skin, Layout.flat?, List.map_cons, List.map_nil]
  rcases value.fields? _ with _ | (_ | ⟨_ | id, _ | ⟨_ | name, _ | ⟨_ | lore, _ | ⟨_ | imageUrl,
    _ | ⟨_ | unlockLevel, _ | ⟨_ | price, _ | ⟨_ | toBuy, _ | ⟨_ | toOpen,
    _ | ⟨_ | stats, _ | ⟨other, others⟩⟩⟩⟩⟩⟩⟩⟩⟩⟩)
  any_goals rfl
  · show (do return (⟨← decode? id, ← decode? name, ← decode? lore, ← decode? imageUrl,
      ← decode? unlockLevel, ← decode? price, ← decode? toBuy, ← decode? toOpen, false,
      ← decode? stats⟩ : Skin)) = _
    rw [followsLayout_skinStats stats]
    simp only [Option.bind_some, Layout.flatFields?, Layout.flat?]
    cases Layout.skinStats.flat? stats with
    | none => simp
    | some flat => rfl
  · simp only [Option.bind_some, Layout.flatFields?, Layout.flat?]
    cases Layout.skinStats.flat? stats with
    | none => simp
    | some flat => rfl

/-- A record of one field is read as that field is. -/
theorem followsLayout_only {α β : Type} [Coded α] [Coded β] {name : String} {wrap : β → α}
    {layout : Layout} (read : ∀ value, (decode? value : Option α) =
      match value.fields? [name] with
      | some [some field] => (decode? field).map wrap
      | _ => none)
    (h : FollowsLayout β layout) : FollowsLayout α (.record [(name, layout)] false) := by
  intro value
  rw [read]
  simp only [Layout.flat?, List.map_cons, List.map_nil]
  rcases value.fields? [name] with _ | (_ | ⟨_ | field, _ | ⟨other, others⟩⟩)
  any_goals rfl
  · simp only [h field, Option.bind_some, Layout.flatFields?]
    cases layout.flat? field with
    | none => rfl
    | some flat => exact (read (.array [flat])).symm
  · simp only [Option.bind_some, Layout.flatFields?]
    cases layout.flat? field with
    | none => rfl
    | some flat => rfl

theorem followsLayout_priceList : FollowsLayout PriceList .priceList :=
  followsLayout_only (fun _ => rfl) (followsLayout_list followsLayout_levelPrice)

theorem followsLayout_skinList : FollowsLayout SkinList .skinList :=
  followsLayout_only (fun _ => rfl) (followsLayout_list followsLayout_skin)

/-! ## Entries that nobody can read -/

section Useless

variable {α : Type} [Coded α] {text : String}

/-- Nobody takes the text for a value of the type. -/
def Useless (α : Type) [Coded α] (text : String) : Prop := ∀ a : α, ¬ TakenFor text a

theorem useless_iff : Useless α text ↔ decodeText? (α := α) text = none := by
  unfold Useless
  simp only [takenFor_iff]
  exact Option.eq_none_iff_forall_ne_some.symm

/-- A value of the type that is loaded, and then kept under the key. -/
inductive LoadedAfresh {ε : Type} (key : Key) (lifetime : Span) (load : Plan (Except ε α)) :
    List Deed → Except ε α → Prop
  | failed {deeds : List Deed} {e : ε} (steps : load.forward.Steps deeds (.done (.error e))) :
      LoadedAfresh key lifetime load deeds (.error e)
  | loaded {deeds : List Deed} {a : α} (steps : load.forward.Steps deeds (.done (.ok a)))
      (reply : Except CacheFault Unit) :
      LoadedAfresh key lifetime load
        (deeds ++ [.called (.cache (.set key (encodeText a) lifetime)) reply]) (.ok a)

/-- Who has something to keep writes it, whatever the cache says to it, and is done. -/
theorem steps_write_iff {ε : Type} {key : Key} {lifetime : Span} {a : α} {deeds : List Deed}
    {result : Except ε α} :
    ((writeEntry key a lifetime).bind fun _ => .done (.ok a)).forward.Steps deeds (.done result) ↔
      ∃ reply, deeds = [.called (.cache (.set key (encodeText a) lifetime)) reply] ∧
        result = .ok a := by
  unfold writeEntry
  rw [Plan.bind, Plan.forward_call]
  constructor
  · intro steps
    cases steps with
    | turn step steps =>
      cases step with
      | call reply =>
        rw [Plan.done_bind, Plan.forward_done] at steps
        obtain ⟨rfl, same⟩ := Plan.steps_done steps
        exact ⟨reply, rfl, Plan.done.inj same⟩
  · rintro ⟨reply, rfl, rfl⟩
    rw [Plan.steps_call_iff, Plan.done_bind, Plan.forward_done]
    exact .start

/-- A read that finds a useless text does what the loader does, and then overwrites the text if the
loader has come to a value. -/
theorem steps_cachedRead_of_useless {ε : Type} (h : Useless α text) {key : Key} {lifetime : Span}
    {load : Plan (Except ε α)} {deeds : List Deed} {result : Except ε α} :
    (cachedRead key lifetime load).Steps
        (.called (.cache (.get key)) (.ok (some text)) :: deeds) (.done result) ↔
      LoadedAfresh key lifetime load deeds result := by
  unfold cachedRead fetch?
  rw [Plan.bind, Plan.steps_call_iff]
  simp only [useless_iff.mp h, Plan.done_bind]
  constructor
  · intro steps
    obtain ⟨loaded, first, rest, loading, follow, rfl⟩ := Plan.Steps.of_bind steps
    cases loaded with
    | error e =>
      rw [Plan.forward_done] at follow
      obtain ⟨rfl, same⟩ := Plan.steps_done follow
      cases same
      rw [List.append_nil]
      exact .failed loading
    | ok a =>
      obtain ⟨reply, rfl, rfl⟩ := steps_write_iff.mp follow
      exact .loaded loading reply
  · intro afresh
    cases afresh with
    | @failed _ e steps =>
      rw [← List.append_nil deeds]
      refine steps.bind ?_
      rw [Plan.forward_done]
      exact .start
    | loaded steps reply => exact steps.bind (steps_write_iff.mpr ⟨reply, rfl, rfl⟩)

end Useless

/-! ## The law -/

/-- Texts of the type are read by their content: blanks between tokens and edits that keep the
content change nothing, and edits that spoil it leave nothing to read, like anything but blanks
behind the text. -/
structure ReadByContent (α : Type) [Coded α] (layout : Json.Layout) : Prop where
  /-- What is taken for a value spells out one JSON value. -/
  spells {text : String} {a : α} (taken : TakenFor text a) : ∃ value, Spells text value
  blanks {before after blanks : String} {a : α} (taken : TakenFor (before ++ after) a)
    (cut : BetweenTokens before after) (blank : Blank blanks) :
    TakenFor (before ++ blanks ++ after) a
  rearranged {text text' : String} {value value' : Json} {a : α} (taken : TakenFor text a)
    (spells : Spells text value) (edit : layout.Rearranged value value')
    (spells' : Spells text' value') : TakenFor text' a
  spoilt {text text' : String} {value value' : Json} {a : α} (taken : TakenFor text a)
    (spells : Spells text value) (edit : layout.Spoilt value value')
    (spells' : Spells text' value') : Useless α text'
  extended {text rest : String} {a : α} (taken : TakenFor text a) (more : ¬ Blank rest) :
    Useless α (text ++ rest)
  /-- A useless text is as good as none: the value is loaded, and written over it. -/
  afresh {ε : Type} {text : String} (useless : Useless α text) (key : Key) (lifetime : Span)
    (load : Plan (Except ε α)) (deeds : List Deed) (result : Except ε α) :
    (cachedRead key lifetime load).Steps
        (.called (.cache (.get key)) (.ok (some text)) :: deeds) (.done result) ↔
      LoadedAfresh key lifetime load deeds result

theorem takenFor_iff_spells {α : Type} [Coded α] {text : String} {a : α} :
    TakenFor text a ↔ ∃ value, Spells text value ∧ decode? value = some a := by
  rw [takenFor_iff]
  simp only [decodeText?, Option.bind_eq_some_iff, parse?_eq_some]

theorem readByContent {α : Type} [Coded α] {fields : List (String × Json.Layout)}
    {lastMayLack : Bool} (follows : FollowsLayout α (.record fields lastMayLack)) :
    ReadByContent α (.record fields lastMayLack) where
  spells taken := by
    obtain ⟨value, hs, -⟩ := takenFor_iff_spells.mp taken
    exact ⟨value, hs⟩
  blanks taken cut blank := by
    obtain ⟨value, hs, hd⟩ := takenFor_iff_spells.mp taken
    exact takenFor_iff_spells.mpr ⟨value, hs.blanks cut blank, hd⟩
  rearranged taken spells edit spells' := by
    obtain ⟨flat, lays, hd⟩ := follows.taken taken spells
    refine takenFor_iff_spells.mpr ⟨_, spells', ?_⟩
    rw [follows, edit.keeps flat lays]
    exact hd
  spoilt taken spells edit spells' := by
    obtain ⟨flat, lays, -⟩ := follows.taken taken spells
    rw [useless_iff, decodeText?, parse?_eq_some.mpr spells', Option.bind_some, follows,
      edit.flat?_eq_none lays, Option.bind_none]
  extended taken more := by
    obtain ⟨value, hs, -⟩ := takenFor_iff_spells.mp taken
    obtain ⟨flat, lays, -⟩ := follows.taken taken hs
    obtain ⟨found, flats, hf, -, -⟩ := Layout.flat?_record.mp lays
    rw [useless_iff, decodeText?, parse?_append hs (Option.isSome_of_eq_some hf) more,
      Option.bind_none]
  afresh useless _ _ _ _ _ := steps_cachedRead_of_useless useless

/-- Every kind of text in the cache, and every part of it, is read by its content. -/
theorem entries_are_read_by_content :
    ReadByContent Profile .profile ∧ ReadByContent LevelPrice .levelPrice ∧
    ReadByContent PriceList .priceList ∧ ReadByContent SkinStats .skinStats ∧
    ReadByContent Skin .skin ∧ ReadByContent SkinList .skinList :=
  ⟨readByContent followsLayout_profile, readByContent followsLayout_levelPrice,
    readByContent followsLayout_priceList, readByContent followsLayout_skinStats,
    readByContent followsLayout_skin, readByContent followsLayout_skinList⟩

/-- The price of a level may stand as an array among the prices, but not without its level. -/
theorem a_price_is_an_array_and_never_lacks_its_level :
    TakenFor "\x7b\"levels\": [[2, 100, 0, 5]]\x7d" (⟨[⟨2, 100, 0, 5⟩]⟩ : PriceList) ∧
    Useless PriceList "\x7b\"levels\": [\x7b\"coins_price\": 100, \"referrals_price\": 0,
      \"referrals_to_open\": 5\x7d]\x7d" := by
  obtain ⟨-, -, law, -⟩ := entries_are_read_by_content
  let list : PriceList := ⟨[⟨2, 100, 0, 5⟩]⟩
  have kept := kept_priceList list
  have taken := takenFor_iff.mpr kept.decodeText?
  have spells := parse?_eq_some.mp (parse?_render _ kept.plain)
  constructor
  · refine law.rearranged taken spells
      (@Layout.Rearranged.inMember _ _ [] [] _ _ ?listed ?edit) ?spells
    case edit =>
      intro field known _
      obtain rfl := List.mem_singleton.mp known
      exact @Layout.Rearranged.inItem _ [] [] _ _ .listed
    case spells =>
      unfold Spells
      cbv
  · refine law.spoilt taken spells (@Layout.Spoilt.inMember _ _ [] [] _ _ _ _ List.mem_cons_self
      (textOf?_piecesOf _) (@Layout.Spoilt.inItem _ [] [] _ _
        (@Layout.Spoilt.removed _ _ [] _ _ _ _ List.mem_cons_self (textOf?_piecesOf _)))) ?_
    unfold Spells
    cbv

end Progression
