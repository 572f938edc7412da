/-
DatamodelTypes.Proofs.Conversion.Order — what is declared before it is used.

The classes of a datamodel stand in its text with the enums first, then the
composite types, then the models, each in the order of their list
(`stacks_convert`). So a class stands below those that its fields refer to,
with one exception: a composite type may refer to itself, or to one that is
listed behind it, and then it is used before it is declared
(`convert_declares_before_use`). The lists are not sorted for that.

The names of fields and values may be anything, also text that looks like a
class: what stands above what follows from how the text is put together, not
from what is found in it.
-/
import DatamodelTypes.Proofs.Conversion.Layout
import DatamodelTypes.Proofs.Page.Order
import Mathlib.Data.List.Nodup

namespace DatamodelTypes

namespace Datamodel

/-! ## 1. Classes in the text -/

/-- The classes of a datamodel by name, in the order of the text. -/
def classes (datamodel : Datamodel) : List (String × Page.Block) :=
  datamodel.enums.map (fun enum => (enum.name, enum.block)) ++
    datamodel.types.map (fun type => (type.name, type.block)) ++
    datamodel.models.map (fun model => (model.name, model.block))

/-- The names of the declarations of a datamodel. -/
def declaredNames (datamodel : Datamodel) : List String :=
  datamodel.enums.map (·.name) ++ datamodel.types.map (·.name) ++ datamodel.models.map (·.name)

theorem declaredNames_eq (datamodel : Datamodel) :
    datamodel.declaredNames = datamodel.classes.map (·.1) := by
  simp [declaredNames, classes, Function.comp_def]

end Datamodel

namespace Page

theorem blocks_ofModel {models : List Datamodel.Model} {declarations : List Declaration}
    (h : models.mapM Declaration.ofModel = .ok declarations) :
    declarations.map (·.block) = models.map (·.block) :=
  map_eq_map_of_mapM h fun _ hof => block_ofModel hof

theorem blocks_ofDatamodel {datamodel : Datamodel} {page : Page}
    (h : ofDatamodel datamodel = .ok page) :
    page.declarations.map (·.block) = datamodel.classes.map (·.2) := by
  obtain ⟨henums, hmodels, htypes⟩ := ofDatamodel_eq_ok.1 h
  have henum : page.enums.map (·.block) = datamodel.enums.map (·.block) := by
    rw [henums, List.map_map]
    exact List.map_congr_left fun enum _ => block_ofEnum enum
  rw [declarations, List.map_append, List.map_append, henum, blocks_ofModel htypes,
    blocks_ofModel hmodels]
  simp [Datamodel.classes, Function.comp_def]

end Page

namespace Datamodel

open Page (IsName StandsIn StandsAbove Stacks linesOf)

/-- The classes of a datamodel stand one below the other in its text. -/
theorem stacks_convert {options : Options} {datamodel : Datamodel} {text : String}
    (h : datamodel.convert options = .ok text) :
    Stacks (datamodel.classes.map fun c => linesOf (c.2.render options)) (linesOf text) := by
  obtain ⟨page, hpage, rfl⟩ := Page.convert_eq_ok.1 h
  have hblocks : datamodel.classes.map (fun c => linesOf (c.2.render options)) =
      (page.declarations.map (·.block)).map fun block => linesOf (block.render options) := by
    rw [Page.blocks_ofDatamodel hpage, List.map_map]
    rfl
  rw [hblocks, List.map_map]
  exact Page.stacks_render options page

theorem standsIn_of_mem {options : Options} {datamodel : Datamodel} {text : String}
    (h : datamodel.convert options = .ok text) {name : String} {block : Page.Block}
    (hblock : (name, block) ∈ datamodel.classes) : StandsIn text (block.render options) := by
  have hsub : [(name, block)].Sublist datamodel.classes := List.singleton_sublist.2 hblock
  exact ((stacks_convert h).sublist (hsub.map _)).standsIn

theorem standsAbove_of_sublist {options : Options} {datamodel : Datamodel} {text : String}
    (h : datamodel.convert options = .ok text) {name name' : String} {block block' : Page.Block}
    (hsub : [(name, block), (name', block')].Sublist datamodel.classes) :
    StandsAbove text (block.render options) (block'.render options) :=
  ((stacks_convert h).sublist (hsub.map _)).standsAbove

/-! ## 2. The order of classes -/

/-- One item of a list and one of another that is appended to it. -/
theorem pair_sublist_append {α : Type} {x y : α} {xs ys : List α} (hx : x ∈ xs) (hy : y ∈ ys) :
    [x, y].Sublist (xs ++ ys) :=
  (List.singleton_sublist.2 hx).append (List.singleton_sublist.2 hy)

theorem mem_classes_enum {datamodel : Datamodel} {enum : Enum} (h : enum ∈ datamodel.enums) :
    (enum.name, enum.block) ∈ datamodel.classes := by
  simp only [classes, List.mem_append, List.mem_map]
  exact .inl (.inl ⟨enum, h, rfl⟩)

theorem mem_classes_type {datamodel : Datamodel} {type : Model} (h : type ∈ datamodel.types) :
    (type.name, type.block) ∈ datamodel.classes := by
  simp only [classes, List.mem_append, List.mem_map]
  exact .inl (.inr ⟨type, h, rfl⟩)

/-- Enums come before all models and composite types. -/
theorem enum_before_model {datamodel : Datamodel} {enum : Enum} (henum : enum ∈ datamodel.enums)
    {model : Model} (hmodel : model ∈ datamodel.models ++ datamodel.types) :
    [(enum.name, enum.block), (model.name, model.block)].Sublist datamodel.classes := by
  rw [classes, List.append_assoc]
  refine pair_sublist_append (List.mem_map.2 ⟨enum, henum, rfl⟩) ?_
  rcases List.mem_append.1 hmodel with hmodel | hmodel
  · exact List.mem_append_right _ (List.mem_map.2 ⟨model, hmodel, rfl⟩)
  · exact List.mem_append_left _ (List.mem_map.2 ⟨model, hmodel, rfl⟩)

/-- Composite types come before all models. -/
theorem type_before_model {datamodel : Datamodel} {type : Model} (htype : type ∈ datamodel.types)
    {model : Model} (hmodel : model ∈ datamodel.models) :
    [(type.name, type.block), (model.name, model.block)].Sublist datamodel.classes := by
  rw [classes]
  exact pair_sublist_append (List.mem_append_right _ (List.mem_map.2 ⟨type, htype, rfl⟩))
    (List.mem_map.2 ⟨model, hmodel, rfl⟩)

/-- Composite types stand in the order of their list. -/
theorem types_in_order {datamodel : Datamodel} {first second : Model}
    (h : [first, second].Sublist datamodel.types) :
    [(first.name, first.block), (second.name, second.block)].Sublist datamodel.classes := by
  have hmap := h.map fun type => (type.name, type.block)
  rw [classes]
  exact (hmap.trans (List.sublist_append_right _ _)).trans (List.sublist_append_left _ _)

/-! ## 3. References -/

/-- The declared type that a field refers to, if it is no relation. -/
def Field.target? (field : Field) : Option String :=
  match field.kind with
  | .reference target => some target
  | _ => none

/-- A datamodel whose references lead to its enums and composite types. -/
def TargetsDeclared (datamodel : Datamodel) : Prop :=
  ∀ model ∈ datamodel.models ++ datamodel.types, ∀ field ∈ model.fields,
    ∀ target ∈ field.target?,
      target ∈ datamodel.enums.map (·.name) ++ datamodel.types.map (·.name)

/-- Whether a reference leads from a composite type to itself or to one that
is listed behind it. -/
def RefersAhead (datamodel : Datamodel) (model : Model) (target : String) : Prop :=
  ∃ before behind, datamodel.types = before ++ model :: behind ∧
    ∃ type ∈ model :: behind, type.name = target

/-- A name stands for one class. -/
theorem class_unique {datamodel : Datamodel} (h : datamodel.declaredNames.Nodup) {name : String}
    {block block' : Page.Block} (hblock : (name, block) ∈ datamodel.classes)
    (hblock' : (name, block') ∈ datamodel.classes) : block = block' := by
  rw [declaredNames_eq] at h
  exact (Prod.mk.inj (List.inj_on_of_nodup_map h hblock hblock' rfl)).2

/-- No enum has the name of a composite type. -/
theorem enum_name_ne_type_name {datamodel : Datamodel} (h : datamodel.declaredNames.Nodup)
    {enum : Enum} (henum : enum ∈ datamodel.enums) {type : Model}
    (htype : type ∈ datamodel.types) : enum.name ≠ type.name := by
  rw [declaredNames, List.append_assoc] at h
  exact (List.nodup_append.1 h).2.2 _ (List.mem_map.2 ⟨enum, henum, rfl⟩) _
    (List.mem_append_left _ (List.mem_map.2 ⟨type, htype, rfl⟩))

/-- What a composite type refers ahead to is a composite type: the same one,
or one that stands behind it in their list. -/
theorem RefersAhead.exists_type {datamodel : Datamodel} {model : Model} {target : String}
    (h : datamodel.RefersAhead model target) :
    ∃ type ∈ datamodel.types, type.name = target ∧
      (type = model ∨ [model, type].Sublist datamodel.types) := by
  obtain ⟨before, behind, htypes, type, htype, hname⟩ := h
  refine ⟨type, ?_, hname, ?_⟩
  · rw [htypes]
    exact List.mem_append_right _ htype
  · rcases List.mem_cons.1 htype with hsame | hbehind
    · exact .inl hsame
    · right
      rw [htypes]
      exact ((List.singleton_sublist.2 hbehind).cons_cons model).trans
        (List.sublist_append_right _ _)

/-- What is not referred ahead to comes first. -/
theorem type_before_of_not_refersAhead {datamodel : Datamodel} {type : Model}
    (htype : type ∈ datamodel.types) {model : Model}
    (hmodel : model ∈ datamodel.models ++ datamodel.types)
    (h : ¬ datamodel.RefersAhead model type.name) :
    [(type.name, type.block), (model.name, model.block)].Sublist datamodel.classes := by
  rcases List.mem_append.1 hmodel with hmodel | hmodel
  · exact type_before_model htype hmodel
  · obtain ⟨before, behind, htypes⟩ := List.append_of_mem hmodel
    have hbefore : type ∈ before := by
      rw [htypes] at htype
      rcases List.mem_append.1 htype with htype | htype
      · exact htype
      · exact absurd ⟨before, behind, htypes, type, htype, rfl⟩ h
    refine types_in_order ?_
    rw [htypes]
    exact pair_sublist_append hbefore (by simp)

/-- A reference leads to one class, and that stands as a whole above the
class of the field, on lines of the text, unless the reference goes from a
composite type to itself or to one that is listed behind it. Then it is the
same class, or it stands below. -/
theorem convert_declares_before_use {options : Options} {datamodel : Datamodel} {text : String}
    (h : datamodel.convert options = .ok text) (hnames : datamodel.declaredNames.Nodup)
    (htargets : datamodel.TargetsDeclared) {model : Model}
    (hmodel : model ∈ datamodel.models ++ datamodel.types) {field : Field}
    (hfield : field ∈ model.fields) {target : String} (htarget : target ∈ field.target?) :
    ∃ block, (target, block) ∈ datamodel.classes ∧
      (∀ other, (target, other) ∈ datamodel.classes → other = block) ∧
      (¬ datamodel.RefersAhead model target →
        StandsAbove text (block.render options) (model.block.render options)) ∧
      (datamodel.RefersAhead model target → block = model.block ∨
        StandsAbove text (model.block.render options) (block.render options)) := by
  have hunique : ∀ block, (target, block) ∈ datamodel.classes →
      ∀ other, (target, other) ∈ datamodel.classes → other = block :=
    fun block hblock other hother => class_unique hnames hother hblock
  rcases List.mem_append.1 (htargets model hmodel field hfield target htarget) with hname | hname
  · obtain ⟨enum, henum, rfl⟩ := List.mem_map.1 hname
    have hclass := mem_classes_enum henum
    refine ⟨enum.block, hclass, hunique _ hclass, fun _ => ?_, fun hahead => ?_⟩
    · exact standsAbove_of_sublist h (enum_before_model henum hmodel)
    · obtain ⟨type, htype, hsame, -⟩ := hahead.exists_type
      exact absurd hsame.symm (enum_name_ne_type_name hnames henum htype)
  · obtain ⟨type, htype, rfl⟩ := List.mem_map.1 hname
    have hclass := mem_classes_type htype
    refine ⟨type.block, hclass, hunique _ hclass, fun hahead => ?_, fun hahead => ?_⟩
    · exact standsAbove_of_sublist h (type_before_of_not_refersAhead htype hmodel hahead)
    · obtain ⟨type', htype', hsame, hplace⟩ := hahead.exists_type
      have hblock : type'.block = type.block :=
        hunique _ hclass _ (hsame ▸ mem_classes_type htype')
      rw [← hblock]
      rcases hplace with rfl | hbehind
      · exact .inl rfl
      · exact .inr (standsAbove_of_sublist h (types_in_order hbehind))

/-- An enum that persons refer to. -/
def role : Enum :=
  .ofNames "Role" ["user"]

/-- A composite type that persons refer to. -/
def address : Model :=
  ⟨"Address", none, [.scalar "street" "String"]⟩

/-- A composite type with a role and a home. -/
def person : Model :=
  ⟨"Person", none, [.reference "role" "Role", .reference "home" "Address"]⟩

/-- Persons in front of their addresses, and a team that refers to one. -/
def people : Datamodel where
  enums := [role]
  types := [person, address]
  models := [⟨"Team", none, [(Field.reference "lead" "Person").optional]⟩]

/-- The class of persons is not found behind that of addresses. -/
theorem exists_convert_people :
    ∃ text, people.convert {} = .ok text ∧ "class Person(TypedDict):".toList ∉
      (linesOf text).dropWhile (· ≠ "class Address(TypedDict):".toList) := by
  have hpage : ∃ page, Page.ofDatamodel people = .ok page ∧
      (∀ line ∈ page.imports.lines, '\n' ∉ (Page.Imports.renderLine line).toList) ∧
      (∀ declaration ∈ page.declarations, '\n' ∉ declaration.block.header.toList ∧
        ∀ entry ∈ declaration.block.entries, '\n' ∉ entry.toList) ∧
      "class Person(TypedDict):".toList ∉
        (page.lines {}).dropWhile (· ≠ "class Address(TypedDict):".toList) := by
    refine ⟨_, rfl, by decide, by decide, ?_⟩
    rw [Page.lines, Page.linesOf_banner]
    decide +kernel
  obtain ⟨page, hpage, himports, hblocks, hbehind⟩ := hpage
  refine ⟨page.render {}, Page.convert_eq_ok.2 ⟨page, hpage, rfl⟩, ?_⟩
  have hlines : linesOf (page.render {}) = page.lines {} := by
    refine Page.linesOf_render himports (fun d hd => ?_) (fun d hd => ?_) fun d hd => ?_
    all_goals
      obtain ⟨hheader, hentries⟩ := hblocks d (by simp [Page.declarations, hd])
      exact ⟨hheader, hentries⟩
  rwa [hlines]

theorem people_declared : people.declaredNames.Nodup ∧ people.TargetsDeclared := by
  refine ⟨by decide, ?_⟩
  unfold TargetsDeclared
  decide

theorem address_mem_classes : ("Address", address.block) ∈ people.classes := by
  decide

/-- Persons refer to their roles above, and ahead to their addresses below. -/
theorem convert_declares_before_use_people :
    ¬ people.RefersAhead person "Role" ∧ people.RefersAhead person "Address" ∧
      ∃ text, people.convert {} = .ok text ∧
        StandsAbove text (role.block.render {}) (person.block.render {}) ∧
        StandsAbove text (person.block.render {}) (address.block.render {}) := by
  have hrole : ¬ people.RefersAhead person "Role" := by
    intro hahead
    obtain ⟨type, htype, hname, -⟩ := hahead.exists_type
    have hnone : ∀ type ∈ people.types, type.name ≠ "Role" := by decide
    exact hnone type htype hname
  have haddress : people.RefersAhead person "Address" :=
    ⟨[], [address], rfl, address, by simp, rfl⟩
  obtain ⟨text, htext, -⟩ := exists_convert_people
  obtain ⟨hnames, htargets⟩ := people_declared
  have hperson : person ∈ people.models ++ people.types := by decide
  have hroleField : Field.reference "role" "Role" ∈ person.fields := by decide
  have hhomeField : Field.reference "home" "Address" ∈ person.fields := by decide
  refine ⟨hrole, haddress, text, htext, ?_, ?_⟩
  · obtain ⟨block, -, hunique, habove, -⟩ :=
      convert_declares_before_use htext hnames htargets hperson hroleField rfl
    rw [hunique role.block (by decide)]
    exact habove hrole
  · obtain ⟨block, -, hunique, -, hbelow⟩ :=
      convert_declares_before_use htext hnames htargets hperson hhomeField rfl
    have hblock : address.block = block := hunique _ address_mem_classes
    rw [← hblock] at hbelow
    exact (hbelow haddress).resolve_left (by decide)

/-- Not every class stands below those that it refers to: a person is
declared above the type of its home. -/
theorem people_not_declared_before_use :
    ∃ text, people.convert {} = .ok text ∧ people.declaredNames.Nodup ∧
      (∀ name ∈ people.declaredNames, IsName name) ∧ people.TargetsDeclared ∧
      ¬ ∀ model ∈ people.models ++ people.types, ∀ field ∈ model.fields,
          ∀ target ∈ field.target?, ∀ block, (target, block) ∈ people.classes →
            StandsAbove text (block.render {}) model.block.header := by
  obtain ⟨text, htext, hbehind⟩ := exists_convert_people
  obtain ⟨hnames, htargets⟩ := people_declared
  refine ⟨text, htext, hnames, by decide, htargets, fun hall => ?_⟩
  have habove : StandsAbove text (address.block.render {}) person.block.header :=
    hall person (by decide) (.reference "home" "Address") (by decide) "Address" rfl address.block
      address_mem_classes
  exact hbehind (habove.mem_dropWhile (by decide) (by decide))

end Datamodel

end DatamodelTypes
