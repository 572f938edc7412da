/-
DatamodelTypes.Proofs.Datamodel.Equivalence — a document is parsed by
what it denotes.

`parse_eq_of_equivalent`: texts whose values are equivalent are parsed
alike, to the same datamodel or to a failure in the same words. The first
fault is looked for in the order of the names and not of the text, so
that rearranging the text cannot bring another one to the front.

`parse_shapes_agree`: a bare datamodel, and any document around it, are
parsed alike.

## How the proof goes

A mismatch carries the value that was found, and equivalent values need
not be equal. So the statements are about what is `told` of a decoder,
and a decoder `Respects` equivalence if it tells the same of equivalent
values. That goes from the single values over the records, by
`told_decode_congr`, to the document.
-/
import DatamodelTypes.Proofs.Datamodel.Parts
import DatamodelTypes.Proofs.Json.Acceptance
import DatamodelTypes.Proofs.Json.Equivalence

namespace DatamodelTypes

namespace Json

/-! ## 1. Members and items of equivalent values -/

theorem getElem?_of_forall₂ {items others : List Json}
    (h : List.Forall₂ Equivalent items others) (index : Nat) :
    EquivalentOption items[index]? others[index]? := by
  induction h generalizing index with
  | nil => exact .none
  | cons h _ ih =>
    cases index with
    | zero => exact .some h
    | succ index => exact ih index

/-- Equivalent records have equivalent parts. -/
theorem Seen.part? {json other : Json} (h : Seen json other) (name : String) (position : Nat) :
    EquivalentOption (json.part? name position) (other.part? name position) := by
  cases h with
  | same => exact .refl _
  | items h => exact getElem?_of_forall₂ h position
  | members h => exact h name

/-- The same names are given to members. -/
theorem hasMember_congr {members others : List (String × Json)}
    (h : ∀ name, EquivalentOption (lookup name members) (lookup name others)) (name : String) :
    hasMember name members = hasMember name others := by
  have hname := h name
  rw [← lookup_isSome, ← lookup_isSome]
  generalize lookup name members = value at hname
  generalize lookup name others = other at hname
  cases hname with
  | none => rfl
  | some => rfl

end Json

namespace Datamodel

open Json (Mismatch Equivalent EquivalentOption Seen Spells Denotes)

/-! ## 2. Single values -/

/-- The same is told of equivalent values. -/
def Respects {α : Type} (decode : Decoder α) : Prop :=
  ∀ {json other : Json}, json.Equivalent other → told (decode json) = told (decode other)

theorem respects_decodeString : Respects decodeString := by
  intro json other h
  cases h.seen with
  | same => rfl
  | items => rfl
  | members => rfl

theorem respects_decodeOptionalString : Respects decodeOptionalString := by
  intro json other h
  cases h.seen with
  | same => rfl
  | items => rfl
  | members => rfl

theorem respects_decodeBool : Respects decodeBool := by
  intro json other h
  cases h.seen with
  | same => rfl
  | items => rfl
  | members => rfl

theorem respects_decodeNothing : Respects decodeNothing := by
  intro json other h
  cases h.seen with
  | same => rfl
  | items => rfl
  | members => rfl

theorem respects_decodeList {α : Type} {decode : Decoder α} (hdecode : Respects decode) :
    Respects (decodeList decode) := by
  intro json other h
  cases h.seen with
  | same => rfl
  | members => rfl
  | items hitems => exact told_decodeList_congr (hitems.imp fun _ _ => hdecode)

/-! ## 3. Words -/

/-- Members of one name only. -/
def OnlyName (word : String) (members : List (String × Json)) : Prop :=
  ∀ name, Json.hasMember name members = true ↔ name = word

theorem onlyName_cons {word key : String} {value : Json} {rest : List (String × Json)} :
    OnlyName word ((key, value) :: rest) ↔ key = word ∧ rest.all (·.1 == key) = true := by
  have hmem : ∀ name, Json.hasMember name ((key, value) :: rest) = true ↔
      key = name ∨ ∃ member ∈ rest, member.1 = name := by
    simp [Json.hasMember]
  simp only [OnlyName, hmem, List.all_eq_true, beq_iff_eq]
  constructor
  · intro h
    have hkey : key = word := (h key).1 (.inl rfl)
    exact ⟨hkey, fun member hmember => hkey ▸ (h member.1).1 (.inr ⟨member, hmember, rfl⟩)⟩
  · rintro ⟨rfl, hrest⟩ name
    constructor
    · rintro (rfl | ⟨member, hmember, rfl⟩)
      · rfl
      · exact hrest member hmember
    · rintro rfl
      exact .inl rfl

/-- An object with members of one name is the word of that name. -/
theorem decodeWord_of_onlyName {word : String} {members : List (String × Json)} {value : Json}
    (h : OnlyName word members) (hvalue : Json.lookup word members = some value) :
    decodeWord (.object members) = decodeNothing value >>= fun _ => .ok word := by
  cases members with
  | nil => cases hvalue
  | cons member rest =>
    obtain ⟨key, first⟩ := member
    obtain ⟨rfl, hall⟩ := onlyName_cons.1 h
    rw [lookup_cons_self, Option.some_inj] at hvalue
    simp only [decodeWord, hall, if_true, hvalue, pure_eq]

theorem decodeWord_of_not_onlyName {members : List (String × Json)}
    (h : ∀ word, ¬OnlyName word members) :
    decodeWord (.object members) = .error .notSingleMember := by
  cases members with
  | nil => rfl
  | cons member rest =>
    obtain ⟨key, first⟩ := member
    have hall : ¬rest.all (·.1 == key) = true := fun hall => h key (onlyName_cons.2 ⟨rfl, hall⟩)
    simp [decodeWord, hall]

theorem respects_decodeWord : Respects decodeWord := by
  intro json other h
  cases h.seen with
  | same => rfl
  | items => rfl
  | @members members others hmembers =>
    have honly : ∀ word, OnlyName word members ↔ OnlyName word others := by
      simp only [OnlyName, Json.hasMember_congr hmembers, implies_true]
    by_cases hword : ∃ word, OnlyName word members
    · obtain ⟨word, hword⟩ := hword
      obtain ⟨value, hvalue⟩ : ∃ value, Json.lookup word members = some value := by
        rw [← Option.isSome_iff_exists, Json.lookup_isSome]
        exact (hword word).2 rfl
      have hrel := hmembers word
      rw [hvalue] at hrel
      generalize hother : Json.lookup word others = found at hrel
      cases hrel with
      | some hequivalent =>
        rw [decodeWord_of_onlyName hword hvalue,
          decodeWord_of_onlyName ((honly word).1 hword) hother, told_bind, told_bind,
          respects_decodeNothing hequivalent]
    · rw [not_exists] at hword
      rw [decodeWord_of_not_onlyName hword,
        decodeWord_of_not_onlyName fun word h => hword word ((honly word).2 h)]

/-! ## 4. Records -/

theorem sameForm_of_seen {json other : Json} (h : Seen json other) : SameForm json other := by
  cases h with
  | same => exact .same json
  | items h => exact .arrays h.length_eq
  | members => exact .objects _ _

/-- Equivalent values agree on a part whose decoder respects equivalence. -/
theorem Part.agrees_of_equivalent {part : Part} (hpart : Respects part.decode)
    {json other : Json} (h : json.Equivalent other) : part.Agrees json other := by
  have hvalue := h.seen.part? part.name part.position
  generalize hfound : json.part? part.name part.position = value at hvalue
  generalize hfound' : other.part? part.name part.position = value' at hvalue
  cases hvalue with
  | none => exact part.agrees_of_part?_eq (hfound.trans hfound'.symm)
  | some hvalue => exact Part.agrees_of_told hfound hfound' (hpart hvalue)

theorem RecordKind.respects_of_parts (kind : RecordKind)
    (h : ∀ part ∈ kind.parts, Respects part.decode) : Respects kind.decode :=
  fun hequivalent => told_decode_congr kind (sameForm_of_seen hequivalent.seen)
    fun part hpart => part.agrees_of_equivalent (h part hpart) hequivalent

theorem respects_enumValue : Respects EnumValue.decode := by
  refine RecordKind.respects_of_parts .enumValue ?_
  simp only [RecordKind.parts, List.forall_mem_cons]
  exact ⟨respects_decodeOptionalString, respects_decodeString, by simp⟩

theorem respects_enum : Respects Enum.decode := by
  refine RecordKind.respects_of_parts .enum ?_
  simp only [RecordKind.parts, List.forall_mem_cons]
  exact ⟨respects_decodeString, respects_decodeList respects_enumValue, by simp⟩

theorem respects_field : Respects Field.decode := by
  refine RecordKind.respects_of_parts .field ?_
  simp only [RecordKind.parts, List.forall_mem_cons]
  exact ⟨respects_decodeOptionalString, respects_decodeBool, respects_decodeBool,
    respects_decodeWord, respects_decodeString, respects_decodeOptionalString,
    respects_decodeString, by simp⟩

theorem respects_model : Respects Model.decode := by
  refine RecordKind.respects_of_parts .model ?_
  simp only [RecordKind.parts, List.forall_mem_cons]
  exact ⟨respects_decodeOptionalString, respects_decodeList respects_field,
    respects_decodeString, by simp⟩

theorem told_ofMembers_of_equivalent {members others : List (String × Json)}
    (h : Equivalent (.object members) (.object others)) :
    told (ofMembers members) = told (ofMembers others) := by
  have hlists : ∀ part ∈ lists, Respects part.decode := by
    simp only [lists, List.forall_mem_cons]
    exact ⟨respects_decodeList respects_enum, respects_decodeList respects_model,
      respects_decodeList respects_model, by simp⟩
  exact told_ofMembers_congr fun part hpart => part.agrees_of_equivalent (hlists part hpart) h

/-! ## 5. Documents -/

/-- What a text is parsed to whose value is `document`. -/
def parseValue (document : Json) : Except Failure Datamodel :=
  (ofDocument document).mapError (.parse ·.message)

theorem parse_of_spells {text : String} {document : Json} (h : Spells text document) :
    parse text = parseValue document := by
  rw [parse, read, Json.read_of_spells h]
  rfl

theorem parseValue_of_members {document : Json} {members : List (String × Json)}
    (h : membersOfDocument document = .ok members) :
    parseValue document = (told (ofMembers members)).mapError .parse := by
  rw [parseValue, ofDocument, h, ok_bind]
  cases ofMembers members <;> rfl

theorem parseValue_of_fault {document : Json} {fault : DocumentFault}
    (h : membersOfDocument document = .error fault) :
    parseValue document = .error (.parse fault.message) := by
  rw [parseValue, ofDocument, h]
  rfl

/-- The members of a datamodel are looked for in the same place, and found in
both documents or missed in both for the same reason. -/
theorem membersOfDocument_congr {document other : Json} (h : document.Equivalent other) :
    (∃ fault, membersOfDocument document = .error fault ∧
        membersOfDocument other = .error fault) ∨
      ∃ members others, membersOfDocument document = .ok members ∧
        membersOfDocument other = .ok others ∧ Equivalent (.object members) (.object others) := by
  cases h.seen with
  | same =>
    cases hmembers : membersOfDocument document with
    | error fault => exact .inl ⟨fault, rfl, rfl⟩
    | ok members => exact .inr ⟨members, members, rfl, rfl, .refl _⟩
  | items => exact .inl ⟨.notObject, rfl, rfl⟩
  | @members members others hmembers =>
    have hinner := hmembers "datamodel"
    generalize hvalue : Json.lookup "datamodel" members = value at hinner
    generalize hvalue' : Json.lookup "datamodel" others = value' at hinner
    cases hinner with
    | none =>
      have hany : ["enums", "models", "types"].any (Json.hasMember · members) =
          ["enums", "models", "types"].any (Json.hasMember · others) := by
        simp only [Json.hasMember_congr hmembers]
      by_cases hknown : ["enums", "models", "types"].any (Json.hasMember · others) = true
      · exact .inr ⟨members, others, by simp [membersOfDocument, hvalue, hany, hknown],
          by simp [membersOfDocument, hvalue', hknown], h⟩
      · exact .inl ⟨.noDatamodel, by simp [membersOfDocument, hvalue, hany, hknown],
          by simp [membersOfDocument, hvalue', hknown]⟩
    | @some inner inner' hinner =>
      cases hseen : hinner.seen with
      | items => exact .inl ⟨.datamodelNotObject, by simp [membersOfDocument, hvalue],
          by simp [membersOfDocument, hvalue']⟩
      | members => exact .inr ⟨_, _, by simp [membersOfDocument, hvalue],
          by simp [membersOfDocument, hvalue'], hinner⟩
      | same =>
        cases inner with
        | object found => exact .inr ⟨found, found, by simp [membersOfDocument, hvalue],
            by simp [membersOfDocument, hvalue'], .refl _⟩
        | _ => exact .inl ⟨.datamodelNotObject, by simp [membersOfDocument, hvalue],
            by simp [membersOfDocument, hvalue']⟩

theorem parseValue_congr {document other : Json} (h : document.Equivalent other) :
    parseValue document = parseValue other := by
  obtain ⟨fault, hfault, hfault'⟩ | ⟨members, others, hmembers, hothers, hequivalent⟩ :=
    membersOfDocument_congr h
  · rw [parseValue_of_fault hfault, parseValue_of_fault hfault']
  · rw [parseValue_of_members hmembers, parseValue_of_members hothers,
      told_ofMembers_of_equivalent hequivalent]

/-- A text denotes the value that is read from it. -/
theorem denotes_of_read {text : String} {document : Json} (h : Json.read text = .ok document) :
    Denotes text document :=
  ⟨document, Json.read_eq_ok.1 h, .refl document⟩

/-- A text is parsed to what the value is parsed to that it denotes. -/
theorem parse_of_denotes {text : String} {document : Json} (h : Denotes text document) :
    parse text = parseValue document := by
  obtain ⟨written, hspells, hequivalent⟩ := h
  rw [parse_of_spells hspells, parseValue_congr hequivalent]

/-- Texts whose values differ only in the order of members and in members
that are overwritten are parsed alike: blanks, escapes, order and earlier
duplicates change neither the datamodel nor the words of the failure. -/
theorem parse_eq_of_equivalent {text other : String} {document document' : Json}
    (h : Spells text document) (h' : Spells other document')
    (hequivalent : document.Equivalent document') : parse text = parse other := by
  rw [parse_of_spells h, parse_of_spells h', parseValue_congr hequivalent]

/-- A document with two faults in its first record. -/
def faultyText : String :=
  "\x7b\"enums\":[\x7b\"name\":1,\"values\":2\x7d],\"types\":[null]\x7d"

/-- The document again: rearranged, with blanks and escapes, and with an
earlier `enums` that is overwritten. -/
def rearrangedText : String :=
  "\x7b \"types\" : [ null ], \"enums\" : \"\",\n\t\"\\u0065num\\u0073\" : " ++
    "[\x7b \"values\" : 2 , \"n\\u0061me\" : 1 \x7d] \x7d"

/-- The same fault is reported of both. -/
theorem parse_eq_of_equivalent_faulty :
    parse faultyText = .error (.parse "invalid type: integer `1`, expected a string") ∧
      parse rearrangedText = parse faultyText := by
  let enums (record : List (String × Json)) : String × Json := ("enums", .array [.object record])
  let types : String × Json := ("types", .array [.null])
  let name : String × Json := ("name", .integer 1)
  let values : String × Json := ("values", .integer 2)
  obtain ⟨hfaulty, hrearranged⟩ :
      Json.read faultyText = .ok (.object [enums [name, values], types]) ∧
        Json.read rearrangedText =
          .ok (.object [types, ("enums", .string ""), enums [values, name]]) := ⟨rfl, rfl⟩
  have hearlier : Equivalent (.object [types, ("enums", .string ""), enums [values, name]])
      (.object [types, enums [values, name]]) :=
    @Equivalent.overwritten [types] [enums [values, name]] "enums" (.string "") rfl
  have hlists : Equivalent (.object [types, enums [values, name]])
      (.object [enums [values, name], types]) := @Equivalent.swap [] [] types _ (by decide)
  have hrecord : Equivalent (.object [values, name]) (.object [name, values]) :=
    @Equivalent.swap [] [] values name (by decide)
  have hinside : Equivalent (.object [enums [values, name], types])
      (.object [enums [name, values], types]) :=
    @Equivalent.member [] [types] "enums" _ _ (@Equivalent.item [] [] _ _ hrecord)
  exact ⟨by decide +kernel, parse_eq_of_equivalent (Json.read_eq_ok.1 hrearranged)
    (Json.read_eq_ok.1 hfaulty) (hearlier.trans (hlists.trans hinside))⟩

/-! ## 6. The two shapes of a document -/

/-- A bare datamodel and a document that has it as its member `datamodel` are
parsed and converted alike, whatever else the document has. A document
whose member `datamodel` is no object is refused, whatever else it has. -/
theorem parse_shapes_agree :
    (∀ {bare full : String} {members document : List (String × Json)},
      Json.lookup "datamodel" members = none →
      (∃ name ∈ ["enums", "models", "types"], Json.lookup name members ≠ none) →
      Json.lookup "datamodel" document = some (.object members) →
      Denotes bare (.object members) → Denotes full (.object document) →
        parse bare = parse full ∧
          ∀ options, convertText options bare = convertText options full) ∧
    ∀ {text : String} {document : List (String × Json)} {inner : Json},
      Json.lookup "datamodel" document = some inner → (∀ members, inner ≠ .object members) →
      Denotes text (.object document) →
        parse text = .error (.parse DocumentFault.datamodelNotObject.message) := by
  constructor
  · intro bare full members document hnone hknown hinner hbare hfull
    have hmembers : membersOfDocument (.object members) = .ok members := by
      simp [membersOfDocument, hnone, any_hasMember.2 hknown]
    have hdocument : membersOfDocument (.object document) = .ok members := by
      simp [membersOfDocument, hinner]
    have hparse : parse bare = parse full := by
      rw [parse_of_denotes hbare, parse_of_denotes hfull, parseValue_of_members hmembers,
        parseValue_of_members hdocument]
    refine ⟨hparse, fun options => ?_⟩
    rw [convertText, convertText, convertWith, convertWith, hparse]
  · intro text document inner hinner hother h
    rw [parse_of_denotes h]
    refine parseValue_of_fault ?_
    cases inner with
    | object members => exact absurd rfl (hother members)
    | _ => simp [membersOfDocument, hinner]

/-- A datamodel, and a document around it that has a member of its own. -/
def bareText : String :=
  "\x7b\"enums\":[\x7b\"name\":\"Shade\"\x7d]\x7d"

def fullText : String :=
  "\x7b\"models\":3,\"datamodel\":\x7b\"enums\":[\x7b\"name\":\"Shade\"\x7d]\x7d\x7d"

/-- Members around a datamodel are passed over, whatever they are, but not
those beside a `datamodel` that is no object. -/
theorem parse_shapes_agree_decoys :
    parse bareText = parse fullText ∧
      parse "\x7b\"datamodel\":[],\"enums\":[]\x7d" =
        .error (.parse "`datamodel` must be an object") := by
  let members : List (String × Json) := [("enums", .array [.object [("name", .string "Shade")]])]
  obtain ⟨hbare, hfull, hlist⟩ :
      Json.read bareText = .ok (.object members) ∧
        Json.read fullText =
          .ok (.object [("models", .integer 3), ("datamodel", .object members)]) ∧
        Json.read "\x7b\"datamodel\":[],\"enums\":[]\x7d" =
          .ok (.object [("datamodel", .array []), ("enums", .array [])]) :=
    ⟨rfl, rfl, rfl⟩
  have hknown : ∃ name ∈ ["enums", "models", "types"], Json.lookup name members ≠ none :=
    ⟨"enums", by simp, by simp [members, Json.lookup]⟩
  obtain ⟨hagree, hrefused⟩ := parse_shapes_agree
  obtain ⟨hparse, -⟩ := hagree rfl hknown rfl (denotes_of_read hbare) (denotes_of_read hfull)
  exact ⟨hparse, hrefused rfl (by simp) (denotes_of_read hlist)⟩

end Datamodel

end DatamodelTypes
