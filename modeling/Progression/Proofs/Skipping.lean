-- Members that nobody reads. A record of named fields skips a member of
-- any other name, whatever its value; so a list of skins is read the same
-- with or without what its text says of skins that are open.
import Progression.Proofs.JsonRoundTrip

namespace Progression

namespace Json

/-! ## Members of a name -/

/-- The name of the member is that text, however it is spelled. -/
def isNamed (name : String) (m : List Piece × Json) : Bool := textOf? m.1 == some name.toList

/-- An object without its members of that name; any other value as it is. -/
def without (name : String) : Json → Json
  | .object members => .object (members.filter fun m => !isNamed name m)
  | value => value

theorem namedMembers?_cons (m : List Piece × Json) (members : List (List Piece × Json)) :
    namedMembers? (m :: members) = (textOf? m.1).bind fun name =>
      (namedMembers? members).map fun named => (name, m.2) :: named := by
  cases hn : textOf? m.1 <;> cases hm : namedMembers? members <;> simp [namedMembers?, hn, hm]

theorem namedMembers?_filter (name : String) (members : List (List Piece × Json)) :
    namedMembers? (members.filter fun m => !isNamed name m)
      = (namedMembers? members).map fun named => named.filter fun m => m.1 != name.toList := by
  induction members with
  | nil => simp [namedMembers?]
  | cons m members ih =>
    rw [namedMembers?_cons, List.filter_cons]
    by_cases hm : textOf? m.1 = some name.toList
    · have hgone : (!isNamed name m) = false := by simp [isNamed, hm]
      rw [hgone, if_neg Bool.false_ne_true, ih]
      simp [hm, Option.map_map, Function.comp_def]
    · have hkept : (!isNamed name m) = true := by simp [isNamed, hm]
      rw [if_pos hkept, namedMembers?_cons, ih]
      cases hn : textOf? m.1 with
      | none => simp
      | some other =>
        have hne : (other != name.toList) = true := by
          simp only [bne_iff_ne, ne_eq]
          rintro rfl
          exact hm hn
        simp [Option.map_map, Function.comp_def, hne]

theorem single?_filter {name other : String} (h : other ≠ name)
    (named : List (List Char × Json)) :
    single? (named.filter fun m => m.1 != name.toList) other = single? named other := by
  have hf : (fun m : List Char × Json => m.1 == other.toList && m.1 != name.toList)
      = fun m => m.1 == other.toList := by
    funext m
    by_cases hm : m.1 = other.toList
    · have hne : m.1 ≠ name.toList := by
        intro hm'
        exact h (String.toList_inj.mp (hm.symm.trans hm'))
      simp [hm, hm ▸ hne]
    · simp [hm]
  unfold single?
  rw [List.filter_filter, hf]

theorem mapM_single?_filter {name : String} {names : List String} (h : name ∉ names)
    (named : List (List Char × Json)) :
    names.mapM (single? (named.filter fun m => m.1 != name.toList))
      = names.mapM (single? named) := by
  induction names with
  | nil => simp
  | cons other names ih =>
    simp only [List.mem_cons, not_or] at h
    simp only [List.mapM_cons, single?_filter (Ne.symm h.1), ih h.2]

/-- A record skips a member whose name is none of its fields. -/
theorem fields?_without {name : String} {names : List String} (h : name ∉ names) (value : Json) :
    (value.without name).fields? names = value.fields? names := by
  cases value with
  | object members =>
    simp only [without, fields?, namedMembers?_filter]
    cases namedMembers? members with
    | none => simp
    | some named => simp [mapM_single?_filter h]
  | _ => rfl

/-! ## A field that is changed -/

/-- The members of that name with a changed value. -/
def changed (name : String) (change : Json → Json) (members : List (List Piece × Json)) :
    List (List Piece × Json) :=
  members.map fun m => if isNamed name m then (m.1, change m.2) else m

theorem namedMembers?_changed (name : String) (change : Json → Json)
    (members : List (List Piece × Json)) :
    namedMembers? (changed name change members) = (namedMembers? members).map fun named =>
      named.map fun m => if m.1 = name.toList then (m.1, change m.2) else m := by
  induction members with
  | nil => simp [changed, namedMembers?]
  | cons m members ih =>
    have hc : changed name change (m :: members)
        = (if isNamed name m then (m.1, change m.2) else m) :: changed name change members := rfl
    rw [hc, namedMembers?_cons, namedMembers?_cons, ih]
    cases hn : textOf? m.1 with
    | none =>
      have hm : isNamed name m = false := by simp [isNamed, hn]
      simp [hm, hn]
    | some other =>
      by_cases ho : other = name.toList
      · have hm : isNamed name m = true := by simp [isNamed, hn, ho]
        simp [hm, hn, ho, Option.map_map, Function.comp_def]
      · have hm : isNamed name m = false := by simp [isNamed, hn, ho]
        simp [hm, hn, ho, Option.map_map, Function.comp_def]

theorem single?_changed (name : String) (change : Json → Json)
    (named : List (List Char × Json)) :
    single? (named.map fun m => if m.1 = name.toList then (m.1, change m.2) else m) name
      = (single? named name).map (Option.map change) := by
  have hf : (named.map fun m => if m.1 = name.toList then (m.1, change m.2) else m).filter
        (fun m => m.1 == name.toList)
      = (named.filter fun m => m.1 == name.toList).map fun m => (m.1, change m.2) := by
    induction named with
    | nil => simp
    | cons m named ih =>
      by_cases hm : m.1 = name.toList
      · simp [hm, ih]
      · simp [hm, ih]
  unfold single?
  rw [hf]
  generalize (named.filter fun m => m.1 == name.toList) = found
  rcases found with _ | ⟨m, _ | ⟨m', rest⟩⟩
  · simp
  · simp
  · simp

/-! ## Lists of skins -/

/-- The skins of a list without what is said of their being open. -/
def skinsUnopened : Json → Json
  | .array skins => .array (skins.map (without "is_opened"))
  | value => value

/-- A list of skins without what is said of their being open, laid out as an object or as an
array. -/
def unopened : Json → Json
  | .array items => .array (items.map skinsUnopened)
  | .object members => .object (changed "skins" skinsUnopened members)
  | value => value

end Json

open Json

theorem decode?_without_open (value : Json) :
    (decode? (value.without "is_opened") : Option Skin) = decode? value := by
  simp only [decode?]
  rw [fields?_without (by simp)]

theorem decode?_skinsUnopened (value : Json) :
    (decode? value.skinsUnopened : Option (List Skin)) = decode? value := by
  cases value with
  | array skins =>
    simp only [skinsUnopened, decode?, List.mapM_map]
    congr 1
    funext skin
    exact decode?_without_open skin
  | _ => rfl

/-- The only field of a list of skins is its skins. -/
theorem fields?_unopened (value : Json) : value.unopened.fields? ["skins"]
    = (value.fields? ["skins"]).map fun fields => fields.map (Option.map skinsUnopened) := by
  cases value with
  | array items =>
    simp only [unopened, fields?, List.length_map]
    split <;> simp
  | object members =>
    simp only [unopened, fields?, namedMembers?_changed]
    cases namedMembers? members with
    | none => simp
    | some named =>
      simp only [Option.map_some, Option.bind_some, List.mapM_cons, List.mapM_nil, single?_changed]
      cases single? named "skins" <;> simp
  | _ => rfl

theorem decode?_skinList (value : Json) : (decode? value : Option SkinList)
    = match value.fields? ["skins"] with
      | some [some skins] => (decode? skins).map SkinList.mk
      | _ => none := rfl

theorem decode?_unopened (value : Json) :
    (decode? value.unopened : Option SkinList) = decode? value := by
  rw [decode?_skinList, decode?_skinList, fields?_unopened]
  rcases value.fields? ["skins"] with _ | (_ | ⟨_ | skins, _ | ⟨field, fields⟩⟩)
  · rfl
  · rfl
  · rfl
  · rfl
  · simp [decode?_skinsUnopened]
  · rfl

/-- The two texts differ in nothing but what they say of skins being open. -/
def SameButOpen (text text' : String) : Prop :=
  (Json.parse? text).map Json.unopened = (Json.parse? text').map Json.unopened

theorem SameButOpen.decodeText? {text text' : String} (h : SameButOpen text text') :
    (decodeText? text : Option SkinList) = decodeText? text' := by
  have read (text : String) : (Progression.decodeText? text : Option SkinList)
      = ((Json.parse? text).map Json.unopened).bind decode? := by
    unfold Progression.decodeText?
    cases Json.parse? text with
    | none => simp
    | some value => simp [decode?_unopened]
  rw [read text, read text', h]

/-! ## Lists that were written -/

theorem without_open_shut (s : Skin) :
    (encode s).without "is_opened" = (encode s.shut).without "is_opened" := by
  simp [encode, Json.record, without, isNamed, textOf?_piecesOf, Skin.shut]

theorem unopened_shut (list : SkinList) : (encode list).unopened = (encode list.shut).unopened := by
  have skins : (encode list.skins).skinsUnopened = (encode list.shut.skins).skinsUnopened := by
    show Json.array _ = Json.array _
    simp only [SkinList.shut, List.map_map]
    congr 1
    apply List.map_congr_left
    intro s _
    exact without_open_shut s
  show Json.object _ = Json.object _
  simp only [changed, List.map_cons, List.map_nil, isNamed, textOf?_piecesOf, beq_self_eq_true,
    if_true, skins]

/-- The texts of lists that differ in nothing but skins being open differ in nothing else. -/
theorem sameButOpen_encodeText {list list' : SkinList} (h : list.shut = list'.shut) :
    SameButOpen (encodeText list) (encodeText list') := by
  unfold SameButOpen encodeText
  rw [parse?_render _ (plain_skinList list), parse?_render _ (plain_skinList list'),
    Option.map_some, Option.map_some, unopened_shut list, unopened_shut list', h]

end Progression
