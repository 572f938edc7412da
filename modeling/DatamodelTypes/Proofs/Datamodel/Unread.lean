/-
DatamodelTypes.Proofs.Datamodel.Unread — members that nothing reads.

Each record of a document has members that are read, and may have others.
`UnreadMember` says that two documents are the same but for one other
member, which one of them has and the other has not: in the document, in
its datamodel, or in a record in one of the lists, in either form of the
records around it. Documents that such members can be added to or taken
from to get one from the other are parsed alike
(`parse_eq_of_unread_members`): to the same datamodel, or to the same
words, whatever else is wrong with them.

The statement says nothing of the object form of a word, of which every
member counts.

## How the proof goes

A member that is not read changes no part of its record, so the same is
told of the record (`told_decode_oneMore`). That goes up one level at a
time: from an item to its list (`told_decodeList_atItem`), from a part to
its record (`told_decode_oneMoreIn`), and from the lists to the datamodel
(`told_ofMembers_inLists`). A document can differ outside its datamodel or
inside it, which `parseValue_object_congr` takes apart.
-/
import DatamodelTypes.Proofs.Datamodel.Equivalence
import Mathlib.Logic.Relation

namespace DatamodelTypes

namespace Json

/-! ## 1. Values that differ in one place -/

/-- Objects of which the second has one member more, with a name that is
not among those that are read. -/
inductive OneMore (read : List String) : Json → Json → Prop
  | member {before after : List (String × Json)} {name : String} (value : Json)
      (unread : name ∉ read) :
      OneMore read (.object (before ++ after)) (.object (before ++ (name, value) :: after))

/-- Arrays that differ in one item. -/
inductive AtItem (Differ : Json → Json → Prop) : Json → Json → Prop
  | item {before after : List Json} {value other : Json} (differ : Differ value other) :
      AtItem Differ (.array (before ++ value :: after)) (.array (before ++ other :: after))

/-- Objects that differ in one value behind a name. -/
inductive AtMember (name : String) (Differ : Json → Json → Prop) : Json → Json → Prop
  | member {before after : List (String × Json)} {value other : Json}
      (differ : Differ value other) :
      AtMember name Differ (.object (before ++ (name, value) :: after))
        (.object (before ++ (name, other) :: after))

/-- Records, in either form, that differ in one part. -/
inductive AtPart (name : String) (position : Nat) (Differ : Json → Json → Prop) :
    Json → Json → Prop
  | member {json other : Json} (h : AtMember name Differ json other) :
      AtPart name position Differ json other
  | item {before after : List Json} {value other : Json} (differ : Differ value other)
      (length : before.length = position) :
      AtPart name position Differ (.array (before ++ value :: after))
        (.array (before ++ other :: after))

/-! ## 2. Where nothing differs -/

/-- A member of another name is not found. -/
theorem lookup_oneMore {name key : String} (h : name ≠ key) (value : Json)
    (before after : List (String × Json)) :
    lookup name (before ++ (key, value) :: after) = lookup name (before ++ after) := by
  rw [lookup_append, lookup_append, lookup_cons, if_neg h.symm, Option.or_none]

theorem part?_of_oneMore {read : List String} {json other : Json} (h : OneMore read json other)
    {name : String} (hname : name ∈ read) (position : Nat) :
    json.part? name position = other.part? name position := by
  cases h with
  | member value unread =>
    have hne := ne_of_mem_of_not_mem hname unread
    exact (lookup_oneMore hne value _ _).symm

theorem lookup_atMember_of_ne {name key : String} (h : name ≠ key) (value other : Json)
    (before after : List (String × Json)) :
    lookup name (before ++ (key, value) :: after) =
      lookup name (before ++ (key, other) :: after) := by
  rw [lookup_oneMore h, lookup_oneMore h]

/-- The value that differs is found, unless a later member of the name is. -/
theorem lookup_atMember_self (key : String) (value other : Json)
    (before after : List (String × Json)) :
    lookup key (before ++ (key, value) :: after) = lookup key (before ++ (key, other) :: after) ∨
      lookup key (before ++ (key, value) :: after) = some value ∧
        lookup key (before ++ (key, other) :: after) = some other := by
  simp only [lookup_append, lookup_cons]
  cases lookup key after with
  | some later => exact .inl rfl
  | none => exact .inr (by simp)

theorem part?_of_atPart_of_ne {key : String} {index : Nat} {Differ : Json → Json → Prop}
    {json other : Json} (h : AtPart key index Differ json other) {name : String} {position : Nat}
    (hname : name ≠ key) (hposition : position ≠ index) :
    json.part? name position = other.part? name position := by
  cases h with
  | member h =>
    cases h with
    | member => exact lookup_atMember_of_ne hname _ _ _ _
  | @item before after value other _ length =>
    subst length
    simp only [part?]
    rcases Nat.lt_or_gt_of_ne hposition with hlt | hgt
    · rw [List.getElem?_append_left hlt, List.getElem?_append_left hlt]
    · obtain ⟨rest, hrest⟩ : ∃ rest, position - before.length = rest + 1 :=
        ⟨position - before.length - 1, by omega⟩
      rw [List.getElem?_append_right hgt.le, List.getElem?_append_right hgt.le, hrest,
        List.getElem?_cons_succ, List.getElem?_cons_succ]

theorem part?_of_atPart_self {key : String} {index : Nat} {Differ : Json → Json → Prop}
    {json other : Json} (h : AtPart key index Differ json other) :
    json.part? key index = other.part? key index ∨
      ∃ value value', json.part? key index = some value ∧ other.part? key index = some value' ∧
        Differ value value' := by
  cases h with
  | member h =>
    cases h with
    | @member before after value other differ =>
      exact (lookup_atMember_self key value other before after).imp_right
        fun ⟨h, h'⟩ => ⟨value, other, h, h', differ⟩
  | @item before after value other differ length =>
    subst length
    exact .inr ⟨value, other, by simp [part?], by simp [part?], differ⟩

/-- No name is added or lost where a value differs. -/
theorem hasMember_atMember (name key : String) (value other : Json)
    (before after : List (String × Json)) :
    hasMember name (before ++ (key, value) :: after) =
      hasMember name (before ++ (key, other) :: after) := by
  simp [hasMember]

end Json

namespace Datamodel

open Json (AtItem AtMember AtPart Denotes)

/-! ## 3. Documents that differ in one unread member -/

/-- The names of the members that are read in a record of some kind. -/
def RecordKind.names : RecordKind → List String
  | .enumValue => ["name", "dbName"]
  | .enum => ["name", "values"]
  | .field => ["name", "dbName", "kind", "type", "isList", "isRequired", "relationName"]
  | .model => ["name", "dbName", "fields"]

/-- The names of the lists of a datamodel. -/
def listNames : List String :=
  ["enums", "models", "types"]

theorem RecordKind.name_mem_names {kind : RecordKind} {part : Part} (h : part ∈ kind.parts) :
    part.name ∈ kind.names := by
  have hnames : kind.parts.map (·.name) ⊆ kind.names := by
    cases kind <;> decide
  exact hnames (List.mem_map.2 ⟨part, h, rfl⟩)

theorem name_mem_listNames {part : Part} (h : part ∈ lists) : part.name ∈ listNames :=
  List.mem_map.2 ⟨part, h, rfl⟩

/-- Records of some kind that differ in one unread member, of their own or
of a record in their list. -/
inductive OneMoreIn : RecordKind → Json → Json → Prop
  | own {kind : RecordKind} {json other : Json} (h : Json.OneMore kind.names json other) :
      OneMoreIn kind json other
  | value {json other : Json}
      (h : AtPart "values" 1 (AtItem (Json.OneMore RecordKind.enumValue.names)) json other) :
      OneMoreIn .enum json other
  | field {json other : Json}
      (h : AtPart "fields" 2 (AtItem (Json.OneMore RecordKind.field.names)) json other) :
      OneMoreIn .model json other

/-- Datamodels that differ in one unread member of a record in their
lists. -/
inductive InLists : Json → Json → Prop
  | enum {json other : Json} (h : AtMember "enums" (AtItem (OneMoreIn .enum)) json other) :
      InLists json other
  | model {json other : Json} (h : AtMember "models" (AtItem (OneMoreIn .model)) json other) :
      InLists json other
  | type {json other : Json} (h : AtMember "types" (AtItem (OneMoreIn .model)) json other) :
      InLists json other

/-- Documents that differ in one unread member: of the document, of its
member `datamodel`, or of a record in the lists of either. -/
inductive UnreadMember : Json → Json → Prop
  | document {document other : Json}
      (h : Json.OneMore ("datamodel" :: listNames) document other) : UnreadMember document other
  | datamodel {document other : Json}
      (h : AtMember "datamodel" (Json.OneMore listNames) document other) :
      UnreadMember document other
  | bare {document other : Json} (h : InLists document other) : UnreadMember document other
  | inner {document other : Json} (h : AtMember "datamodel" InLists document other) :
      UnreadMember document other

/-! ## 4. Records -/

/-- The same is told of values that differ in some way. -/
def TellsSame {α : Type} (decode : Decoder α) (Differ : Json → Json → Prop) : Prop :=
  ∀ json other, Differ json other → told (decode json) = told (decode other)

theorem sameForm_of_oneMore {read : List String} {json other : Json}
    (h : Json.OneMore read json other) : SameForm json other := by
  cases h with
  | member => exact .objects _ _

theorem sameForm_of_atPart {name : String} {position : Nat} {Differ : Json → Json → Prop}
    {json other : Json} (h : AtPart name position Differ json other) : SameForm json other := by
  cases h with
  | member h =>
    cases h with
    | member => exact .objects _ _
  | item => exact .arrays (by simp)

/-- A member that is not read does not count in its record. -/
theorem told_decode_oneMore (kind : RecordKind) :
    TellsSame kind.decode (Json.OneMore kind.names) := by
  intro json other h
  refine told_decode_congr kind (sameForm_of_oneMore h) fun part hpart => ?_
  have hname : part.name ∈ kind.names := RecordKind.name_mem_names hpart
  exact part.agrees_of_part?_eq (Json.part?_of_oneMore h hname part.position)

theorem told_decodeList_atItem {α : Type} {decode : Decoder α} {Differ : Json → Json → Prop}
    (h : TellsSame decode Differ) : TellsSame (decodeList decode) (AtItem Differ) := by
  intro json other hitem
  cases hitem with
  | item differ =>
    have hrefl (items : List Json) :
        List.Forall₂ (fun item other => told (decode item) = told (decode other)) items items :=
      List.forall₂_same.2 fun _ _ => rfl
    exact told_decodeList_congr (List.rel_append (hrefl _) (.cons (h _ _ differ) (hrefl _)))

/-- Records that differ in a part agree on it if the same is told of what
they have there. -/
theorem Part.agrees_of_atPart {part : Part} {Differ : Json → Json → Prop}
    (hdecode : TellsSame part.decode Differ) {json other : Json}
    (h : AtPart part.name part.position Differ json other) : part.Agrees json other := by
  obtain heq | ⟨value, value', hvalue, hvalue', differ⟩ := Json.part?_of_atPart_self h
  · exact part.agrees_of_part?_eq heq
  · exact Part.agrees_of_told hvalue hvalue' (hdecode _ _ differ)

/-- They agree on all other parts. -/
theorem Part.agrees_of_atPart_of_ne {part : Part} {name : String} {position : Nat}
    {Differ : Json → Json → Prop} {json other : Json} (h : AtPart name position Differ json other)
    (hname : part.name ≠ name) (hposition : part.position ≠ position) :
    part.Agrees json other :=
  part.agrees_of_part?_eq (Json.part?_of_atPart_of_ne h hname hposition)

/-- An object has no positions, so its members are told apart by name. -/
theorem Part.agrees_of_atMember_of_ne {part : Part} {name : String} {Differ : Json → Json → Prop}
    {json other : Json} (h : AtMember name Differ json other) (hname : part.name ≠ name) :
    part.Agrees json other := by
  have hpart : AtPart name (part.position + 1) Differ json other := .member h
  exact Part.agrees_of_atPart_of_ne hpart hname (Nat.ne_of_lt (Nat.lt_succ_self _))

theorem told_decode_oneMoreIn (kind : RecordKind) : TellsSame kind.decode (OneMoreIn kind) := by
  intro json other h
  cases h with
  | own h => exact told_decode_oneMore kind _ _ h
  | value h =>
    refine told_decode_congr .enum (sameForm_of_atPart h) ?_
    simp only [RecordKind.parts, List.forall_mem_cons]
    refine ⟨Part.agrees_of_atPart_of_ne h (by decide) (by decide), ?_, by simp⟩
    exact Part.agrees_of_atPart (told_decodeList_atItem (told_decode_oneMore .enumValue)) h
  | field h =>
    refine told_decode_congr .model (sameForm_of_atPart h) ?_
    simp only [RecordKind.parts, List.forall_mem_cons]
    refine ⟨Part.agrees_of_atPart_of_ne h (by decide) (by decide), ?_,
      Part.agrees_of_atPart_of_ne h (by decide) (by decide), by simp⟩
    exact Part.agrees_of_atPart (told_decodeList_atItem (told_decode_oneMore .field)) h

/-! ## 5. Datamodels -/

theorem told_ofMembers_oneMore {read : List String} (hread : ∀ name ∈ listNames, name ∈ read)
    {members others : List (String × Json)}
    (h : Json.OneMore read (.object members) (.object others)) :
    told (ofMembers members) = told (ofMembers others) := by
  refine told_ofMembers_congr fun part hpart => ?_
  have hname : part.name ∈ read := hread _ (name_mem_listNames hpart)
  exact part.agrees_of_part?_eq (Json.part?_of_oneMore h hname part.position)

theorem told_ofMembers_inLists {members others : List (String × Json)}
    (h : InLists (.object members) (.object others)) :
    told (ofMembers members) = told (ofMembers others) := by
  have henums : TellsSame (decodeList Enum.decode) (AtItem (OneMoreIn .enum)) :=
    told_decodeList_atItem (told_decode_oneMoreIn .enum)
  have hmodels : TellsSame (decodeList Model.decode) (AtItem (OneMoreIn .model)) :=
    told_decodeList_atItem (told_decode_oneMoreIn .model)
  refine told_ofMembers_congr ?_
  simp only [lists, List.forall_mem_cons]
  cases h with
  | enum h =>
    exact ⟨Part.agrees_of_atPart henums (.member h), Part.agrees_of_atMember_of_ne h (by decide),
      Part.agrees_of_atMember_of_ne h (by decide), by simp⟩
  | model h =>
    exact ⟨Part.agrees_of_atMember_of_ne h (by decide), Part.agrees_of_atPart hmodels (.member h),
      Part.agrees_of_atMember_of_ne h (by decide), by simp⟩
  | type h =>
    exact ⟨Part.agrees_of_atMember_of_ne h (by decide), Part.agrees_of_atMember_of_ne h (by decide),
      Part.agrees_of_atPart hmodels (.member h), by simp⟩

/-! ## 6. Documents -/

/-- What the members of a document come to. -/
theorem parseValue_object (document : List (String × Json)) :
    parseValue (.object document) =
      match Json.lookup "datamodel" document with
      | some (.object members) => (told (ofMembers members)).mapError .parse
      | some _ => .error (.parse DocumentFault.datamodelNotObject.message)
      | none =>
        if listNames.any (Json.hasMember · document) then
          (told (ofMembers document)).mapError .parse
        else .error (.parse DocumentFault.noDatamodel.message) := by
  split
  · rename_i members hinner
    exact parseValue_of_members (by simp [membersOfDocument, hinner])
  · rename_i value hother hinner
    refine parseValue_of_fault ?_
    cases value with
    | object members => exact absurd rfl (hother members)
    | _ => simp [membersOfDocument, hinner]
  · rename_i hnone
    by_cases hknown : listNames.any (Json.hasMember · document) = true
    · rw [if_pos hknown]
      refine parseValue_of_members ?_
      simp only [listNames] at hknown
      simp only [membersOfDocument, hnone, if_pos hknown]
    · rw [if_neg hknown]
      refine parseValue_of_fault ?_
      simp only [listNames] at hknown
      simp only [membersOfDocument, hnone, if_neg hknown]

/-- Values behind the name of a datamodel that are treated alike: the same
value, or objects of which the same is told. -/
inductive InnerAlike : Json → Json → Prop
  | same (json : Json) : InnerAlike json json
  | told {members others : List (String × Json)}
      (h : told (ofMembers members) = told (ofMembers others)) :
      InnerAlike (.object members) (.object others)

/-- What a document is parsed to is settled by what is behind the name of a
datamodel, by whether it has any list itself, and by what is told of it
as a datamodel. -/
theorem parseValue_object_congr {document other : List (String × Json)}
    (inner : Option.Rel InnerAlike (Json.lookup "datamodel" document)
      (Json.lookup "datamodel" other))
    (known : ∀ name ∈ listNames, Json.hasMember name document = Json.hasMember name other)
    (bare : told (ofMembers document) = told (ofMembers other)) :
    parseValue (.object document) = parseValue (.object other) := by
  have hany : listNames.any (Json.hasMember · document) =
      listNames.any (Json.hasMember · other) := by
    rw [Bool.eq_iff_iff, List.any_eq_true, List.any_eq_true]
    exact exists_congr fun name => and_congr_right fun hname => by rw [known name hname]
  rw [parseValue_object, parseValue_object, hany, bare]
  generalize Json.lookup "datamodel" document = value at inner
  generalize Json.lookup "datamodel" other = value' at inner
  cases inner with
  | none => rfl
  | some inner =>
    cases inner with
    | same => rfl
    | told h => simp only [h]

theorem innerAlike_refl (value : Option Json) : Option.Rel InnerAlike value value := by
  cases value with
  | none => exact .none
  | some value => exact .some (.same value)

theorem parseValue_of_oneMore {document other : Json}
    (h : Json.OneMore ("datamodel" :: listNames) document other) :
    parseValue document = parseValue other := by
  have hlookup {name : String} (hname : name ∈ "datamodel" :: listNames) :
      document.part? name 0 = other.part? name 0 := Json.part?_of_oneMore h hname 0
  have hread : ∀ name ∈ listNames, name ∈ "datamodel" :: listNames :=
    fun name hname => List.mem_cons_of_mem _ hname
  cases h with
  | @member before after name value unread =>
    have hinner : Json.lookup "datamodel" (before ++ after) =
        Json.lookup "datamodel" (before ++ (name, value) :: after) := hlookup (by simp)
    refine parseValue_object_congr (hinner ▸ innerAlike_refl _) (fun name hname => ?_)
      (told_ofMembers_oneMore hread (.member value unread))
    rw [← Json.lookup_isSome, ← Json.lookup_isSome]
    exact congrArg Option.isSome (hlookup (hread name hname))

/-- Behind the name of a datamodel, what matters is whether the values there
are treated alike. -/
theorem parseValue_of_atDatamodel {Differ : Json → Json → Prop}
    (hdiffer : ∀ json other, Differ json other → InnerAlike json other) {document other : Json}
    (h : AtMember "datamodel" Differ document other) :
    parseValue document = parseValue other := by
  have hbare {members others : List (String × Json)}
      (h : AtMember "datamodel" Differ (.object members) (.object others)) :
      told (ofMembers members) = told (ofMembers others) := by
    refine told_ofMembers_congr ?_
    simp only [lists, List.forall_mem_cons]
    exact ⟨Part.agrees_of_atMember_of_ne h (by decide), Part.agrees_of_atMember_of_ne h (by decide),
      Part.agrees_of_atMember_of_ne h (by decide), by simp⟩
  have hmember := h
  cases hmember with
  | @member before after value value' differ =>
    refine parseValue_object_congr ?_
      (fun name _ => Json.hasMember_atMember name "datamodel" value value' before after) (hbare h)
    obtain heq | ⟨hvalue, hvalue'⟩ :=
      Json.lookup_atMember_self "datamodel" value value' before after
    · rw [heq]
      exact innerAlike_refl _
    · rw [hvalue, hvalue']
      exact .some (hdiffer _ _ differ)

/-- Documents that differ in a list differ behind the name of one. -/
theorem InLists.atMember {json other : Json} (h : InLists json other) :
    ∃ name Differ, name ∈ listNames ∧ AtMember name Differ json other := by
  cases h with
  | enum h => exact ⟨_, _, by simp [listNames], h⟩
  | model h => exact ⟨_, _, by simp [listNames], h⟩
  | type h => exact ⟨_, _, by simp [listNames], h⟩

theorem InLists.innerAlike {json other : Json} (h : InLists json other) :
    InnerAlike json other := by
  obtain ⟨name, Differ, -, hmember⟩ := h.atMember
  cases hmember with
  | member => exact .told (told_ofMembers_inLists h)

theorem parseValue_of_inLists {document other : Json} (h : InLists document other) :
    parseValue document = parseValue other := by
  obtain ⟨key, Differ, hkey, hmember⟩ := h.atMember
  have hne : "datamodel" ≠ key := by
    rintro rfl
    exact absurd hkey (by decide)
  cases hmember with
  | @member before after value value' differ =>
    refine parseValue_object_congr ?_
      (fun name _ => Json.hasMember_atMember name key value value' before after)
      (told_ofMembers_inLists h)
    rw [Json.lookup_atMember_of_ne hne value value']
    exact innerAlike_refl _

theorem parseValue_of_unreadMember {document other : Json} (h : UnreadMember document other) :
    parseValue document = parseValue other := by
  cases h with
  | document h => exact parseValue_of_oneMore h
  | bare h => exact parseValue_of_inLists h
  | inner h => exact parseValue_of_atDatamodel (fun _ _ h => h.innerAlike) h
  | datamodel h =>
    refine parseValue_of_atDatamodel (fun json other h => ?_) h
    cases h with
    | member value unread =>
      exact .told (told_ofMembers_oneMore (fun _ hname => hname) (.member value unread))

/-! ## 7. Unread members do not count -/

/-- Documents that can be got from one another by adding and taking out
members that are not read are parsed alike: to the same datamodel, or to a
failure in the same words. So are the texts that denote them, and they are
converted alike. Only the object form of a word is no such record: it has
exactly one name in it, and another member makes it no word. -/
theorem parse_eq_of_unread_members :
    (∀ {document other : Json}, Relation.EqvGen UnreadMember document other →
      parseValue document = parseValue other ∧
        ∀ {text text' : String}, Denotes text document → Denotes text' other →
          parse text = parse text' ∧
            ∀ options, convertText options text = convertText options text') ∧
      ∀ {word name : String} {before after : List (String × Json)} (value : Json),
        OnlyName word (before ++ after) → name ≠ word →
          decodeWord (.object (before ++ (name, value) :: after)) = .error .notSingleMember := by
  constructor
  · intro document other h
    have hvalue : parseValue document = parseValue other := by
      induction h with
      | rel document other h => exact parseValue_of_unreadMember h
      | refl document => rfl
      | symm document other _ ih => exact ih.symm
      | trans document between other _ _ ih ih' => exact ih.trans ih'
    refine ⟨hvalue, fun {text text'} htext htext' => ?_⟩
    have hparse : parse text = parse text' := by
      rw [parse_of_denotes htext, parse_of_denotes htext', hvalue]
    refine ⟨hparse, fun options => ?_⟩
    rw [convertText, convertText, convertWith, convertWith, hparse]
  · intro word name before after value honly hname
    refine decodeWord_of_not_onlyName fun other hother => hname ?_
    have hword : Json.hasMember word (before ++ after) = true := (honly word).2 rfl
    have hnameOther : name = other := (hother name).1 (by simp [Json.hasMember])
    have hwordOther : word = other := by
      refine (hother word).1 ?_
      simp only [Json.hasMember, List.any_append, List.any_cons, Bool.or_eq_true] at hword ⊢
      exact hword.imp_right .inr
    rw [hnameOther, hwordOther]

/-- A document of one enum, in array form, with one value, and one model with
one field, and with other members in front. -/
def wallDocument (outer inner : List (String × Json)) (value field : Json) : Json :=
  .object (outer ++ [("datamodel", .object (inner ++
    [("enums", .array [.array [.string "Shade", .array [value]]]),
      ("models", .array [.object [("name", .string "Wall"), ("fields", .array [field])]])]))])

/-- A field with a number for its type. -/
def numberedField : List (String × Json) :=
  [("name", .string "paint"), ("kind", .string "enum"), ("type", .integer 1)]

/-- Members that are read elsewhere, but not where they stand, change nothing:
both documents are refused for the number. -/
theorem parse_eq_of_unread_members_wall :
    let dark : List (String × Json) := [("name", .string "dark")]
    let outer : List (String × Json) := [("name", .array [])]
    let inner : List (String × Json) := [("datamodel", .null)]
    let value : Json := .object (("values", .integer 0) :: dark)
    let field : Json := .object (numberedField ++ [("fields", .object [])])
    let refused := .error (.parse "invalid type: integer `1`, expected a string")
    parseValue (wallDocument [] [] (.object dark) (.object numberedField)) = refused ∧
      parseValue (wallDocument outer inner value field) = refused := by
  intro dark outer inner value field refused
  have hvalue : Json.OneMore RecordKind.enumValue.names (.object dark) value :=
    @Json.OneMore.member _ [] dark "values" (.integer 0) (by decide)
  have hfield : Json.OneMore RecordKind.field.names (.object numberedField) field :=
    @Json.OneMore.member _ numberedField [] "fields" (.object []) (by decide)
  have hshade : OneMoreIn .enum (.array [.string "Shade", .array [.object dark]])
      (.array [.string "Shade", .array [value]]) :=
    .value (@AtPart.item _ _ _ [.string "Shade"] [] _ _ (@AtItem.item _ [] [] _ _ hvalue) rfl)
  have hwall : OneMoreIn .model
      (.object [("name", .string "Wall"), ("fields", .array [.object numberedField])])
      (.object [("name", .string "Wall"), ("fields", .array [field])]) :=
    .field (.member (@AtMember.member _ _ [("name", .string "Wall")] [] _ _
      (@AtItem.item _ [] [] _ _ hfield)))
  have hfirst : UnreadMember (wallDocument [] [] (.object dark) (.object numberedField))
      (wallDocument [] [] value (.object numberedField)) :=
    .inner (@AtMember.member _ _ [] [] _ _
      (.enum (@AtMember.member _ _ [] [_] _ _ (@AtItem.item _ [] [] _ _ hshade))))
  have hsecond : UnreadMember (wallDocument [] [] value (.object numberedField))
      (wallDocument [] [] value field) :=
    .inner (@AtMember.member _ _ [] [] _ _
      (.model (@AtMember.member _ _ [_] [] _ _ (@AtItem.item _ [] [] _ _ hwall))))
  have hthird : UnreadMember (wallDocument [] [] value field) (wallDocument [] inner value field) :=
    .datamodel (@AtMember.member _ _ [] [] _ _
      (@Json.OneMore.member _ [] _ "datamodel" .null (by decide)))
  have hfourth : UnreadMember (wallDocument [] inner value field)
      (wallDocument outer inner value field) :=
    .document (@Json.OneMore.member _ [] _ "name" (.array []) (by decide))
  have hall := ((Relation.EqvGen.rel _ _ hfirst).trans _ _ _ (.rel _ _ hsecond)).trans _ _ _
    ((Relation.EqvGen.rel _ _ hthird).trans _ _ _ (.rel _ _ hfourth))
  obtain ⟨hsame, -⟩ := parse_eq_of_unread_members
  obtain ⟨hparse, -⟩ := hsame hall
  have hrefused : parseValue (wallDocument [] [] (.object dark) (.object numberedField)) =
      refused := by
    decide +kernel
  exact ⟨hrefused, hparse ▸ hrefused⟩

end Datamodel

end DatamodelTypes
