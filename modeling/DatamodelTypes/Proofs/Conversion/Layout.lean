/-
DatamodelTypes.Proofs.Conversion.Layout — a datamodel line by line.

`Datamodel.lines` lists the lines of the generated text from the
declarations of the datamodel: empty lines where they belong, and entries
behind as many blanks as a level of nesting takes. If no printed name goes
over two lines, splitting the text at its newlines gives exactly these
lines (`linesOf_convert`).

The lines of a page are known from `Proofs.Page.Layout`. Two things are
left: the names that a page prints are those of its datamodel, so that no
class line or entry is split, and the entries of its records are those of
the fields in outline.
-/
import DatamodelTypes.Proofs.Conversion.Outline
import DatamodelTypes.Proofs.Page.MemberName

namespace DatamodelTypes

namespace Datamodel

/-! ## 1. Printed names -/

/-- The names that an enum prints. -/
def Enum.printedNames (enum : Enum) : List String :=
  enum.name :: enum.values.map (·.name)

/-- The names that a field prints: its own and that of a declared type, but
none if it is a relation. -/
def Field.printedNames (field : Field) : List String :=
  match field.kind with
  | .relation _ _ => []
  | .scalar _ => [field.outputName]
  | .reference target => [field.outputName, target]

/-- The names that a model or composite type prints. -/
def Model.printedNames (model : Model) : List String :=
  model.name :: model.fields.flatMap (·.printedNames)

/-- The names that a datamodel prints. -/
def printedNames (datamodel : Datamodel) : List String :=
  datamodel.enums.flatMap (·.printedNames) ++
    (datamodel.models ++ datamodel.types).flatMap (·.printedNames)

/-- A datamodel whose printed names are lines. -/
def OneLined (datamodel : Datamodel) : Prop :=
  ∀ name ∈ datamodel.printedNames, '\n' ∉ name.toList

/-! ## 2. Lines -/

/-- The entry of a field in outline. -/
def FieldOutline.entry (field : FieldOutline) : String :=
  Page.Attribute.entry ⟨field.name, ⟨.declared field.base, field.isList, !field.isRequired⟩⟩

/-- The class line of an enum and its members. -/
def Enum.block (enum : Enum) : Page.Block :=
  ⟨"class " ++ enum.name ++ "(str, Enum):", enum.values.map fun value => Page.memberEntry value.name⟩

/-- The class line of a model or composite type and its attributes, one for
each field that is no relation. -/
def Model.block (model : Model) : Page.Block :=
  ⟨"class " ++ model.name ++ "(TypedDict):",
    (model.fields.filterMap (·.outline?)).map (·.entry)⟩

/-- The lines of a block: its entries stand behind as many blanks as a level
takes, and an empty line stands for none. -/
def blockLines (options : Options) (block : Page.Block) : List (List Char) :=
  block.header.toList :: Page.listed (block.entries.map fun entry =>
    List.replicate options.indentation ' ' ++ entry.toList)

/-- The lines of a datamodel. -/
def lines (options : Options) (datamodel : Datamodel) : List (List Char) :=
  ["# Generated by prisma-to-python - https://github.com/jmsv/prisma-to-python#readme".toList,
    "# Do not edit this file directly!".toList, []] ++
  Page.listed ((Page.importLines datamodel.requests).map (Page.Imports.renderLine · |>.toList)) ++
  [[], "# Enums".toList, []] ++
  Page.stacked (datamodel.enums.map fun enum => blockLines options enum.block) ++
  [[], "# Types".toList, []] ++
  Page.stacked (datamodel.types.map fun type => blockLines options type.block) ++
  [[], "# Models".toList, []] ++
  Page.stacked (datamodel.models.map fun model => blockLines options model.block) ++ [[]]

end Datamodel

namespace Page

open Datamodel (FieldOutline)

/-! ## 3. The names of a page -/

/-- The names that an attribute prints, apart from built-in types. -/
def Attribute.printedNames (attr : Attribute) : List String :=
  match attr.hint.base with
  | .builtin _ => [attr.name]
  | .declared target => [attr.name, target]

/-- The names that a declaration prints. -/
def Declaration.printedNames : Declaration → List String
  | .enumeration name values => name :: values
  | .record name attributes => name :: attributes.flatMap (·.printedNames)

theorem Attribute.Of.printedNames {field : Datamodel.Field} {found : Option Attribute}
    (h : Attribute.Of field found) :
    found.toList.flatMap (·.printedNames) = field.printedNames := by
  cases h with
  | relation hkind => simp [Datamodel.Field.printedNames, hkind]
  | builtin hkind => simp [Datamodel.Field.printedNames, hkind, Attribute.printedNames]
  | declared hkind => simp [Datamodel.Field.printedNames, hkind, Attribute.printedNames]

theorem printedNames_ofModel {model : Datamodel.Model} {declaration : Declaration}
    (h : Declaration.ofModel model = .ok declaration) :
    declaration.printedNames = model.printedNames := by
  obtain ⟨attributes, hattributes, rfl⟩ := Declaration.ofModel_eq_ok.1 h
  rw [Declaration.printedNames, Datamodel.Model.printedNames,
    flatMap_attributesOfFields hattributes fun _ h => h.printedNames]

/-- The records of a section print the names of what they were made from. -/
theorem printedNames_mapM_ofModel {models : List Datamodel.Model} {declarations : List Declaration}
    (h : models.mapM Declaration.ofModel = .ok declarations) {declaration : Declaration}
    (hmem : declaration ∈ declarations) :
    ∀ name ∈ declaration.printedNames, name ∈ models.flatMap (·.printedNames) := by
  intro name hname
  obtain ⟨model, hmodel, hof⟩ := exists_of_mem_mapM h hmem
  rw [printedNames_ofModel hof] at hname
  exact List.mem_flatMap.2 ⟨model, hmodel, hname⟩

/-- A page prints no other names than its datamodel. -/
theorem printedNames_ofDatamodel {datamodel : Datamodel} {page : Page}
    (h : ofDatamodel datamodel = .ok page) {declaration : Declaration}
    (hmem : declaration ∈ page.enums ++ page.types ++ page.models) :
    ∀ name ∈ declaration.printedNames, name ∈ datamodel.printedNames := by
  intro name hname
  obtain ⟨henums, hmodels, htypes⟩ := ofDatamodel_eq_ok.1 h
  rw [Datamodel.printedNames, List.flatMap_append, List.mem_append, List.mem_append]
  rw [List.mem_append, List.mem_append] at hmem
  obtain (hmem | hmem) | hmem := hmem
  · rw [henums] at hmem
    obtain ⟨enum, henum, rfl⟩ := List.mem_map.1 hmem
    change name ∈ enum.printedNames at hname
    exact .inl (List.mem_flatMap.2 ⟨enum, henum, hname⟩)
  · exact .inr (.inr (printedNames_mapM_ofModel htypes hmem name hname))
  · exact .inr (.inl (printedNames_mapM_ofModel hmodels hmem name hname))

/-! ## 4. Class lines and entries -/

theorem newline_not_mem_memberEntry {value : String} (h : '\n' ∉ value.toList) :
    '\n' ∉ (memberEntry value).toList := by
  have hmember : '\n' ∉ (memberName value).toList := fun hc => h (newline_mem_memberName hc)
  simp [memberEntry, hmember, h]

theorem newline_not_mem_hint {hint : TypeHint} (h : '\n' ∉ hint.base.name.toList) :
    '\n' ∉ hint.render.toList := by
  unfold TypeHint.render
  cases hint.isOptional <;> cases hint.isList <;> simp [h]

/-- The names of built-in types are lines. -/
theorem newline_not_mem_builtin (type : Builtin) : '\n' ∉ type.name.toList := by
  cases type <;> decide

theorem newline_not_mem_entry {attr : Attribute}
    (h : ∀ name ∈ attr.printedNames, '\n' ∉ name.toList) : '\n' ∉ attr.entry.toList := by
  obtain ⟨name, ⟨base, isList, isOptional⟩⟩ := attr
  have hparts : '\n' ∉ name.toList ∧ '\n' ∉ base.name.toList := by
    cases base with
    | builtin type =>
      have hname : '\n' ∉ name.toList := by simpa [Attribute.printedNames] using h
      exact ⟨hname, newline_not_mem_builtin type⟩
    | declared target => simpa [Attribute.printedNames, BaseType.name] using h
  have hhint : '\n' ∉ (TypeHint.render ⟨base, isList, isOptional⟩).toList :=
    newline_not_mem_hint hparts.2
  simp [Attribute.entry, hparts.1, hhint]

/-- A declaration whose names are lines is printed in lines. -/
theorem Declaration.oneLined {declaration : Declaration}
    (h : ∀ name ∈ declaration.printedNames, '\n' ∉ name.toList) : declaration.block.OneLined := by
  cases declaration with
  | enumeration name values =>
    obtain ⟨hname, hvalues⟩ := List.forall_mem_cons.1 h
    refine ⟨by simp [Declaration.block, hname], ?_⟩
    rw [Declaration.block, List.forall_mem_map]
    exact fun value hvalue => newline_not_mem_memberEntry (hvalues value hvalue)
  | record name attributes =>
    obtain ⟨hname, hattributes⟩ := List.forall_mem_cons.1 h
    refine ⟨by simp [Declaration.block, hname], ?_⟩
    rw [Declaration.block, List.forall_mem_map]
    intro attr hattr
    refine newline_not_mem_entry fun printed hprinted => ?_
    exact hattributes printed (List.mem_flatMap.2 ⟨attr, hattr, hprinted⟩)

/-! ## 5. Blocks of declarations -/

theorem block_ofEnum (enum : Datamodel.Enum) : (Declaration.ofEnum enum).block = enum.block := by
  rw [Declaration.ofEnum, Declaration.block, Datamodel.Enum.block, List.map_map]
  rfl

/-- The entry of an attribute is that of its outline. -/
theorem entry_outline (attr : Attribute) : attr.outline.entry = attr.entry := by
  rw [FieldOutline.entry, Attribute.outline, Bool.not_not]
  rfl

theorem block_ofModel {model : Datamodel.Model} {declaration : Declaration}
    (h : Declaration.ofModel model = .ok declaration) : declaration.block = model.block := by
  obtain ⟨attributes, hattributes, rfl⟩ := Declaration.ofModel_eq_ok.1 h
  have hfields : attributes.map (·.outline) = model.fields.filterMap (·.outline?) := by
    rw [List.map_eq_flatMap, flatMap_attributesOfFields hattributes fun _ h => h.outline,
      List.filterMap_eq_flatMap_toList]
  rw [Declaration.block, Datamodel.Model.block, ← hfields, List.map_map]
  refine congrArg _ (List.map_congr_left fun attr _ => ?_)
  exact (entry_outline attr).symm

theorem lines_block (options : Options) (block : Block) :
    block.lines options = Datamodel.blockLines options block := by
  rw [Block.lines, Datamodel.blockLines]
  refine congrArg _ (congrArg listed (List.map_congr_left fun entry _ => ?_))
  exact entryLine_eq options entry

theorem sectionLines_ofModel {models : List Datamodel.Model} {declarations : List Declaration}
    (h : models.mapM Declaration.ofModel = .ok declarations) (options : Options) :
    sectionLines options declarations =
      stacked (models.map fun model => Datamodel.blockLines options model.block) := by
  rw [sectionLines]
  refine congrArg stacked (map_eq_map_of_mapM h fun _ hof => ?_)
  rw [lines_block, block_ofModel hof]

/-- The lines of a page are those of its datamodel. -/
theorem lines_ofDatamodel {datamodel : Datamodel} {page : Page}
    (h : ofDatamodel datamodel = .ok page) (options : Options) :
    page.lines options = datamodel.lines options := by
  obtain ⟨henums, hmodels, htypes⟩ := ofDatamodel_eq_ok.1 h
  have hsection : sectionLines options page.enums =
      stacked (datamodel.enums.map fun enum => Datamodel.blockLines options enum.block) := by
    rw [sectionLines, henums, List.map_map]
    refine congrArg stacked (List.map_congr_left fun enum _ => ?_)
    rw [Function.comp_apply, lines_block, block_ofEnum]
  rw [lines, Datamodel.lines, linesOf_banner, hsection, sectionLines_ofModel htypes,
    sectionLines_ofModel hmodels, imports_ofDatamodel h]
  simp only [List.append_assoc, List.cons_append, List.nil_append]

end Page

namespace Datamodel

/-! ## 6. Texts -/

/-- Splitting the text at its newlines gives the lines of the datamodel,
whatever the indentation. -/
theorem linesOf_convert {options : Options} {datamodel : Datamodel} {text : String}
    (h : datamodel.convert options = .ok text) (hlines : datamodel.OneLined) :
    Page.linesOf text = datamodel.lines options := by
  obtain ⟨page, hpage, rfl⟩ := Page.convert_eq_ok.1 h
  have himports : ∀ line ∈ page.imports.lines, '\n' ∉ (Page.Imports.renderLine line).toList := by
    have hknown : ∀ request ∈ knownRequests,
        '\n' ∉ request.source.toList ∧ '\n' ∉ request.symbol.toList := by decide
    rw [Page.imports_ofDatamodel hpage]
    exact Page.newline_not_mem_importLine fun request h => hknown request (mem_knownRequests h)
  have hblocks : ∀ declaration ∈ page.enums ++ page.types ++ page.models,
      declaration.block.OneLined := by
    intro declaration hmem
    refine Page.Declaration.oneLined fun name hname => ?_
    exact hlines name (Page.printedNames_ofDatamodel hpage hmem name hname)
  have hpageLines : Page.linesOf (page.render options) = page.lines options := by
    refine Page.linesOf_render himports (fun d hd => ?_) (fun d hd => ?_) fun d hd => ?_
    · exact hblocks d (by simp [hd])
    · exact hblocks d (by simp [hd])
    · exact hblocks d (by simp [hd])
  rw [hpageLines, Page.lines_ofDatamodel hpage]

/-- An enum, a model with nothing but a link, and one with attributes and a
link. -/
def links : Datamodel where
  enums := [.ofNames "Mood" ["good", "soSo"]]
  models := [⟨"Link", none, [.relation "owner" "User" "LinkToUser"]⟩,
    ⟨"User", none, [.scalar "id" "Int", (Field.relation "links" "Link" "LinkToUser").list,
      (Field.reference "moods" "Mood").list.optional,
      (Field.scalar "born" "DateTime").withDbName "birthday"]⟩]

/-- Two blanks deep: an empty line stands for the types, and one for the
attributes of the first model. Each attribute of the second has its line. -/
theorem linesOf_convert_links :
    links.OneLined ∧ ∃ text, links.convert ⟨2⟩ = .ok text ∧ Page.linesOf text =
      ["# Generated by prisma-to-python - https://github.com/jmsv/prisma-to-python#readme",
        "# Do not edit this file directly!", "", "from enum import Enum",
        "from typing import TypedDict, Optional", "from datetime import datetime", "", "# Enums",
        "", "class Mood(str, Enum):", "  GOOD = \"good\"", "  SO_SO = \"soSo\"", "", "# Types",
        "", "", "", "# Models", "", "class Link(TypedDict):", "", "", "class User(TypedDict):",
        "  id: int", "  moods: Optional[list[Mood]]", "  birthday: datetime",
        ""].map String.toList := by
  have hlines : links.OneLined := by
    unfold OneLined
    decide
  have hconvert : ∃ text, links.convert ⟨2⟩ = .ok text := ⟨_, rfl⟩
  obtain ⟨text, htext⟩ := hconvert
  refine ⟨hlines, text, htext, ?_⟩
  rw [linesOf_convert htext hlines]
  decide +kernel

end Datamodel

end DatamodelTypes
