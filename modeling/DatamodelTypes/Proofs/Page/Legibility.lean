/-
DatamodelTypes.Proofs.Page.Legibility — reading a page back.

The text of a page tells its declarations, if their names are plain: two
such pages with one text declare the same (`named_eq_of_render_eq`). What
it does not tell is whether `str` is the built-in type or a declared one
of that name, so declarations are compared by the names of their types.

## How the proof goes

Empty lines mark nothing and are dropped. A line that starts with a hash
is a heading, a line with a parenthesis is a class line, and an entry has
neither, whatever its indentation; so the headings cut a page into its
sections and the class lines a section into its classes. A line is cut
where a name ends: in front of the parenthesis, the colon or the blank.
-/
import DatamodelTypes.Proofs.Cutting
import DatamodelTypes.Proofs.Page.Layout
import DatamodelTypes.Proofs.Page.MemberName

namespace DatamodelTypes.Page

/-! ## 1. Plain names -/

/-- ASCII letters, digits and underscores. -/
def isNameChar (c : Char) : Bool :=
  c.isAlphanum || c = '_'

/-- A plain name: not empty, and nothing but such characters. -/
def IsName (text : String) : Prop :=
  text ≠ "" ∧ ∀ c ∈ text.toList, isNameChar c = true

/-- A name is checked character by character. -/
instance (text : String) : Decidable (IsName text) :=
  decidable_of_iff (text ≠ "" ∧ text.toList.all isNameChar = true) (by
    rw [IsName, List.all_eq_true])

/-- The characters of an entry: those of names, and the marks around them. -/
def isEntryChar (c : Char) : Bool :=
  isNameChar c || c ∈ [' ', '=', '"', ':', '[', ']']

theorem isNameChar_lt {c : Char} (h : isNameChar c = true) : c.toNat < 0x80 := by
  have hlower : c.isLower = true → c.val ≤ 'z'.val := fun h =>
    of_decide_eq_true (Bool.and_eq_true_iff.1 h).2
  have hdigit : c.isDigit = true → c.val ≤ '9'.val := fun h =>
    of_decide_eq_true (Bool.and_eq_true_iff.1 h).2
  have hlt : ∀ d : Char, d.toNat < 0x80 → c.val ≤ d.val → c.toNat < 0x80 := fun d hd hle =>
    Nat.lt_of_le_of_lt (UInt32.le_iff_toNat_le.1 hle) hd
  rw [isNameChar, Bool.or_eq_true, decide_eq_true_eq] at h
  obtain h | rfl := h
  · obtain h | h := Bool.or_eq_true_iff.1 h
    · obtain h | h := Bool.or_eq_true_iff.1 h
      · exact toNat_lt_of_isUpper h
      · exact hlt 'z' (by decide) (hlower h)
    · exact hlt '9' (by decide) (hdigit h)
  · decide

/-- A property of all characters of names, checked for the ASCII characters. -/
theorem isNameChar_induction {P : Char → Prop}
    (h : ∀ n < 0x80, isNameChar (Char.ofNat n) = true → P (Char.ofNat n)) {c : Char}
    (hc : isNameChar c = true) : P c :=
  Text.ascii_induction (P := fun c => isNameChar c = true → P c) h (isNameChar_lt hc) hc

/-- A name stays a name in capitals. -/
theorem isNameChar_toUpper {c : Char} (h : isNameChar c = true) : isNameChar c.toUpper = true :=
  isNameChar_induction (P := fun c => isNameChar c.toUpper = true) (by decide) h

theorem isNameChar_wordStart {c : Char} (h : isNameChar c = true) :
    ∀ d ∈ wordStart c, isNameChar d = true := by
  rw [← List.all_eq_true]
  exact isNameChar_induction (P := fun c => (wordStart c).all isNameChar = true) (by decide) h

/-- Names are raised letter by letter. -/
theorem toList_upper_of_isNameChar {text : String} (h : ∀ c ∈ text.toList, isNameChar c = true) :
    (Text.upper text).toList = text.toList.map Char.toUpper := by
  rw [Text.toList_upper, List.map_eq_flatMap]
  refine List.flatMap_congr fun c hc => ?_
  rw [Text.upperChar, if_pos (isNameChar_lt (h c hc))]

theorem isNameChar_upper {text : String} (h : ∀ c ∈ text.toList, isNameChar c = true) :
    ∀ c ∈ (Text.upper text).toList, isNameChar c = true := by
  intro c hc
  rw [toList_upper_of_isNameChar h] at hc
  obtain ⟨d, hd, rfl⟩ := List.mem_map.1 hc
  exact isNameChar_toUpper (h d hd)

theorem isNameChar_memberName {value : String} (h : IsName value) :
    ∀ c ∈ (memberName value).toList, isNameChar c = true := by
  unfold memberName
  split
  · exact h.2
  · refine isNameChar_upper fun c hc => ?_
    rw [String.toList_ofList, List.mem_flatMap] at hc
    obtain ⟨d, hd, hc⟩ := hc
    exact isNameChar_wordStart (h.2 d hd) c hc

/-- A name ends where a mark follows. -/
theorem name_append_inj {xs xs' ys ys' : List Char} {c : Char} (h : xs ++ c :: ys = xs' ++ c :: ys')
    (hxs : ∀ x ∈ xs, isNameChar x = true) (hxs' : ∀ x ∈ xs', isNameChar x = true)
    (hc : isNameChar c = false) : xs = xs' ∧ ys = ys' := by
  obtain ⟨hname, hrest⟩ := append_inj_of_stop h hxs hxs' (by simpa using hc) (by simpa using hc)
  exact ⟨hname, (List.cons.inj hrest).2⟩

/-! ## 2. Legible declarations -/

/-- A declaration with plain names. -/
def Declaration.Legible : Declaration → Prop
  | .enumeration name values => IsName name ∧ ∀ value ∈ values, IsName value
  | .record name attributes => IsName name ∧
      ∀ attr ∈ attributes, IsName attr.name ∧ IsName attr.hint.base.name

/-- An attribute by the names of its type. -/
def Attribute.named (attr : Attribute) : Attribute :=
  ⟨attr.name, ⟨.declared attr.hint.base.name, attr.hint.isList, attr.hint.isOptional⟩⟩

/-- A declaration by the names of its types. -/
def Declaration.named : Declaration → Declaration
  | .enumeration name values => .enumeration name values
  | .record name attributes => .record name (attributes.map (·.named))

/-! ## 3. Entries -/

theorem isEntryChar_of_isNameChar {c : Char} (h : isNameChar c = true) : isEntryChar c = true := by
  simp [isEntryChar, h]

theorem isEntryChar_memberEntry {value : String} (h : IsName value) :
    ∀ c ∈ (memberEntry value).toList, isEntryChar c = true := by
  have hmarks : ∀ c ∈ " = \"".toList, isEntryChar c = true := List.all_eq_true.1 (by decide)
  have hend : ∀ c ∈ "\"".toList, isEntryChar c = true := List.all_eq_true.1 (by decide)
  simp only [memberEntry, String.toList_append, List.forall_mem_append]
  exact ⟨⟨⟨fun c hc => isEntryChar_of_isNameChar (isNameChar_memberName h c hc), hmarks⟩,
    fun c hc => isEntryChar_of_isNameChar (h.2 c hc)⟩, hend⟩

theorem isEntryChar_hint {hint : TypeHint} (h : IsName hint.base.name) :
    ∀ c ∈ hint.render.toList, isEntryChar c = true := by
  have hlist : ∀ c ∈ "list[".toList, isEntryChar c = true := List.all_eq_true.1 (by decide)
  have hoptional : ∀ c ∈ "Optional[".toList, isEntryChar c = true := List.all_eq_true.1 (by decide)
  have hend : ∀ c ∈ "]".toList, isEntryChar c = true := List.all_eq_true.1 (by decide)
  have hname : ∀ c ∈ hint.base.name.toList, isEntryChar c = true :=
    fun c hc => isEntryChar_of_isNameChar (h.2 c hc)
  unfold TypeHint.render
  cases hint.isOptional <;> cases hint.isList <;>
    simp only [Bool.false_eq_true, if_false, if_true, String.toList_append,
      List.forall_mem_append]
  · exact hname
  · exact ⟨⟨hlist, hname⟩, hend⟩
  · exact ⟨⟨hoptional, hname⟩, hend⟩
  · exact ⟨⟨hoptional, ⟨hlist, hname⟩, hend⟩, hend⟩

theorem isEntryChar_entry {attr : Attribute} (hname : IsName attr.name)
    (hbase : IsName attr.hint.base.name) : ∀ c ∈ attr.entry.toList, isEntryChar c = true := by
  have hcolon : ∀ c ∈ ": ".toList, isEntryChar c = true := List.all_eq_true.1 (by decide)
  simp only [Attribute.entry, String.toList_append, List.forall_mem_append]
  exact ⟨⟨fun c hc => isEntryChar_of_isNameChar (hname.2 c hc), hcolon⟩, isEntryChar_hint hbase⟩

/-- An entry tells its value. -/
theorem memberEntry_inj {value value' : String} (h : memberEntry value = memberEntry value')
    (hname : IsName value) (hname' : IsName value') : value = value' := by
  rw [← String.toList_inj] at h ⊢
  simp only [memberEntry, String.toList_append, List.append_assoc] at h
  obtain ⟨-, hrest⟩ := name_append_inj (c := ' ') h (isNameChar_memberName hname)
    (isNameChar_memberName hname') (by decide)
  have hvalue : value.toList ++ ['"'] = value'.toList ++ ['"'] := by simpa using hrest
  exact List.append_cancel_right hvalue

/-- A hint without its `Optional`. -/
def TypeHint.items (hint : TypeHint) : String :=
  if hint.isList then "list[" ++ hint.base.name ++ "]" else hint.base.name

theorem TypeHint.render_eq (hint : TypeHint) :
    hint.render = if hint.isOptional then "Optional[" ++ hint.items ++ "]" else hint.items :=
  rfl

/-- No name has a bracket in it. -/
theorem IsName.ne_of_mem_bracket {text other : String} (h : IsName text)
    (hother : '[' ∈ other.toList) : text ≠ other := by
  rintro rfl
  exact absurd (h.2 '[' hother) (by decide)

theorem TypeHint.items_inj {hint hint' : TypeHint} (h : hint.items = hint'.items)
    (hbase : IsName hint.base.name) (hbase' : IsName hint'.base.name) :
    hint.base.name = hint'.base.name ∧ hint.isList = hint'.isList := by
  have hbracket (name : String) : '[' ∈ ("list[" ++ name ++ "]").toList := by simp
  unfold TypeHint.items at h
  cases hl : hint.isList <;> cases hl' : hint'.isList <;>
    simp only [hl, hl', Bool.false_eq_true, if_false, if_true] at h
  · exact ⟨h, rfl⟩
  · exact absurd h (hbase.ne_of_mem_bracket (hbracket _))
  · exact absurd h.symm (hbase'.ne_of_mem_bracket (hbracket _))
  · rw [← String.toList_inj] at h ⊢
    simp only [String.toList_append, List.append_assoc] at h
    exact ⟨List.append_cancel_right (List.append_cancel_left h), rfl⟩

/-- What is optional is no list and no name: they start with other letters,
or have no bracket. -/
theorem TypeHint.optional_ne_items {hint : TypeHint} (hbase : IsName hint.base.name)
    (text : String) : "Optional[" ++ text ++ "]" ≠ hint.items := by
  intro h
  unfold TypeHint.items at h
  split at h
  · rw [← String.toList_inj] at h
    simp at h
  · exact hbase.ne_of_mem_bracket (by simp) h.symm

/-- A hint tells the name of its type and its wrappers. -/
theorem TypeHint.render_inj {hint hint' : TypeHint} (h : hint.render = hint'.render)
    (hbase : IsName hint.base.name) (hbase' : IsName hint'.base.name) :
    hint.base.name = hint'.base.name ∧ hint.isList = hint'.isList ∧
      hint.isOptional = hint'.isOptional := by
  rw [TypeHint.render_eq, TypeHint.render_eq] at h
  cases ho : hint.isOptional <;> cases ho' : hint'.isOptional <;>
    simp only [ho, ho', Bool.false_eq_true, if_false, if_true] at h
  · obtain ⟨hname, hlist⟩ := TypeHint.items_inj h hbase hbase'
    exact ⟨hname, hlist, rfl⟩
  · exact absurd h.symm (TypeHint.optional_ne_items hbase _)
  · exact absurd h (TypeHint.optional_ne_items hbase' _)
  · have hitems : hint.items = hint'.items := by
      rw [← String.toList_inj] at h ⊢
      simp only [String.toList_append, List.append_assoc] at h
      exact List.append_cancel_right (List.append_cancel_left h)
    obtain ⟨hname, hlist⟩ := TypeHint.items_inj hitems hbase hbase'
    exact ⟨hname, hlist, rfl⟩

/-- An entry tells its attribute, by the name of its type. -/
theorem Attribute.entry_inj {attr attr' : Attribute} (h : attr.entry = attr'.entry)
    (hlegible : IsName attr.name ∧ IsName attr.hint.base.name)
    (hlegible' : IsName attr'.name ∧ IsName attr'.hint.base.name) : attr.named = attr'.named := by
  have hparts : attr.name.toList = attr'.name.toList ∧
      attr.hint.render.toList = attr'.hint.render.toList := by
    rw [← String.toList_inj] at h
    simp only [Attribute.entry, String.toList_append, List.append_assoc] at h
    obtain ⟨hname, hrest⟩ := name_append_inj (c := ':') h hlegible.1.2 hlegible'.1.2 (by decide)
    exact ⟨hname, (List.cons.inj hrest).2⟩
  rw [String.toList_inj, String.toList_inj] at hparts
  obtain ⟨hbase, hlist, hoptional⟩ := TypeHint.render_inj hparts.2 hlegible.2 hlegible'.2
  rw [Attribute.named, Attribute.named, hparts.1, hbase, hlist, hoptional]

/-! ## 4. Blocks -/

theorem isEntryChar_block {declaration : Declaration} (h : declaration.Legible) :
    ∀ entry ∈ declaration.block.entries, ∀ c ∈ entry.toList, isEntryChar c = true := by
  cases declaration with
  | enumeration name values =>
    simp only [Declaration.block, List.forall_mem_map]
    exact fun value hvalue => isEntryChar_memberEntry (h.2 value hvalue)
  | record name attributes =>
    simp only [Declaration.block, List.forall_mem_map]
    exact fun attr hattr => isEntryChar_entry (h.2 attr hattr).1 (h.2 attr hattr).2

/-- The text behind the name of a class. -/
def Declaration.bases : Declaration → String
  | .enumeration _ _ => "(str, Enum):"
  | .record _ _ => "(TypedDict):"

theorem Declaration.header_eq (declaration : Declaration) :
    declaration.block.header = "class " ++ declaration.name ++ declaration.bases := by
  cases declaration <;> rfl

theorem Declaration.Legible.isName {declaration : Declaration} (h : declaration.Legible) :
    IsName declaration.name := by
  cases declaration with
  | enumeration => exact h.1
  | record => exact h.1

/-- A class line tells the name and the kind of its class. -/
theorem Declaration.header_inj {declaration declaration' : Declaration}
    (h : declaration.block.header = declaration'.block.header)
    (hlegible : declaration.Legible) (hlegible' : declaration'.Legible) :
    declaration.name = declaration'.name ∧ declaration.bases = declaration'.bases := by
  rw [Declaration.header_eq, Declaration.header_eq] at h
  rw [← String.toList_inj] at h ⊢
  rw [← String.toList_inj]
  simp only [String.toList_append, List.append_assoc] at h
  have hstop (declaration : Declaration) :
      ∀ c ∈ declaration.bases.toList.head?, isNameChar c = false := by
    cases declaration <;> simp [Declaration.bases, isNameChar]
  exact append_inj_of_stop (List.append_cancel_left h) hlegible.isName.2 hlegible'.isName.2
    (hstop declaration) (hstop declaration')

theorem entryLine_inj {options : Options} {entry entry' : String}
    (h : entryLine options entry = entryLine options entry') : entry = entry' := by
  rw [entryLine_eq, entryLine_eq] at h
  exact String.toList_inj.1 (List.append_cancel_left h)

/-- A block tells its declaration. -/
theorem Declaration.block_inj {options : Options} {declaration declaration' : Declaration}
    (hheader : declaration.block.header = declaration'.block.header)
    (hentries : declaration.block.entries.map (entryLine options) =
      declaration'.block.entries.map (entryLine options))
    (hlegible : declaration.Legible) (hlegible' : declaration'.Legible) :
    declaration.named = declaration'.named := by
  obtain ⟨hname, hbases⟩ := Declaration.header_inj hheader hlegible hlegible'
  have hentries : declaration.block.entries = declaration'.block.entries := by
    simpa using map_eq_map_of_map_eq_map (g := id) hentries fun _ _ _ _ => entryLine_inj
  cases declaration with
  | enumeration name values =>
    cases declaration' with
    | enumeration name' values' =>
      obtain rfl : name = name' := hname
      have hvalues := map_eq_map_of_map_eq_map (g := id) hentries fun value hvalue value' hvalue' h =>
        memberEntry_inj h (hlegible.2 value hvalue) (hlegible'.2 value' hvalue')
      simpa [Declaration.named] using hvalues
    | record => exact absurd hbases (by simp [Declaration.bases])
  | record name attributes =>
    cases declaration' with
    | enumeration => exact absurd hbases (by simp [Declaration.bases])
    | record name' attributes' =>
      obtain rfl : name = name' := hname
      have hattributes := map_eq_map_of_map_eq_map (g := Attribute.named) hentries
        fun attr hattr attr' hattr' h =>
          Attribute.entry_inj h (hlegible.2 attr hattr) (hlegible'.2 attr' hattr')
      rw [Declaration.named, Declaration.named, hattributes]

/-! ## 5. Pages -/

/-- The lines of a text that are not empty. -/
def inked (lines : List (List Char)) : List (List Char) :=
  lines.filter (· ≠ [])

theorem inked_append (xs ys : List (List Char)) : inked (xs ++ ys) = inked xs ++ inked ys :=
  List.filter_append xs ys

theorem inked_listed (lines : List (List Char)) : inked (listed lines) = inked lines := by
  cases lines <;> rfl

theorem inked_stacked (blocks : List (List (List Char))) :
    inked (stacked blocks) = blocks.flatMap inked := by
  have hgaps (blocks : List (List (List Char))) :
      inked (blocks.flatMap ([] :: ·)) = blocks.flatMap inked := by
    simp only [inked, List.filter_flatMap]
    rfl
  cases blocks with
  | nil => rfl
  | cons block blocks => rw [stacked, inked_append, hgaps, List.flatMap_cons]

/-- No import line is empty. -/
theorem inked_importLines (lines : List ImportLine) :
    inked (lines.map (Imports.renderLine · |>.toList)) =
      lines.map (Imports.renderLine · |>.toList) := by
  rw [inked, List.filter_eq_self, List.forall_mem_map]
  intro line _
  simp [Imports.renderLine]

/-- The class lines of a section, each with its entries. -/
def groups (options : Options) (declarations : List Declaration) :
    List (List Char × List (List Char)) :=
  declarations.map fun declaration =>
    (declaration.block.header.toList, declaration.block.entries.map (entryLine options))

theorem entry_ne_nil {declaration : Declaration} :
    ∀ entry ∈ declaration.block.entries, entry.toList ≠ [] := by
  cases declaration with
  | enumeration name values =>
    simp only [Declaration.block, List.forall_mem_map]
    intro value _
    simp [memberEntry]
  | record name attributes =>
    simp only [Declaration.block, List.forall_mem_map]
    intro attr _
    simp [Attribute.entry]

/-- Blanks in front add no other characters to an entry. -/
theorem isEntryChar_entryLine (options : Options) {declaration : Declaration}
    (h : declaration.Legible) : ∀ entry ∈ declaration.block.entries,
      ∀ c ∈ entryLine options entry, isEntryChar c = true := by
  intro entry hentry c hc
  rw [entryLine_eq, List.mem_append, List.mem_replicate] at hc
  obtain ⟨-, rfl⟩ | hc := hc
  · decide
  · exact isEntryChar_block h entry hentry c hc

theorem Declaration.Legible.oneLined {declaration : Declaration} (h : declaration.Legible) :
    declaration.block.OneLined where
  header := by
    rw [Declaration.header_eq]
    simp only [String.toList_append, List.mem_append, not_or]
    refine ⟨⟨by decide, fun hc => absurd (h.isName.2 '\n' hc) (by decide)⟩, ?_⟩
    cases declaration <;> simp [Declaration.bases]
  entries := fun entry hentry hc =>
    absurd (isEntryChar_block h entry hentry '\n' hc) (by decide)

theorem inked_block (options : Options) (declaration : Declaration) :
    inked (declaration.block.lines options) =
      declaration.block.header.toList ::
        declaration.block.entries.map (entryLine options) := by
  have hheader : declaration.block.header.toList ≠ [] := by
    rw [Declaration.header_eq]
    simp
  have hentries : inked (declaration.block.entries.map (entryLine options)) =
      declaration.block.entries.map (entryLine options) := by
    rw [inked, List.filter_eq_self, List.forall_mem_map]
    intro entry hentry
    simp [entryLine_eq, entry_ne_nil entry hentry]
  rw [Block.lines, ← List.singleton_append, inked_append, inked_listed, hentries]
  simp [inked, hheader]

theorem inked_sectionLines (options : Options) (declarations : List Declaration) :
    inked (sectionLines options declarations) =
      (groups options declarations).flatMap (fun g => g.1 :: g.2) := by
  rw [sectionLines, inked_stacked, List.flatMap_map, groups, List.flatMap_map]
  simp only [inked_block]

/-- The lines of a page without the empty ones. -/
theorem inked_lines (options : Options) (page : Page) :
    inked (page.lines options) = inked (linesOf banner) ++
      (page.imports.lines.map (Imports.renderLine · |>.toList) ++
      "# Enums".toList :: ((groups options page.enums).flatMap (fun g => g.1 :: g.2) ++
      "# Types".toList :: ((groups options page.types).flatMap (fun g => g.1 :: g.2) ++
      "# Models".toList :: (groups options page.models).flatMap (fun g => g.1 :: g.2)))) := by
  have hheading (heading : List Char) (h : heading ≠ []) :
      inked [[], heading, []] = [heading] := by simp [inked, h]
  have hempty : inked [[]] = [] := rfl
  simp only [lines, inked_append, inked_listed, inked_sectionLines, inked_importLines, hempty,
    hheading "# Enums".toList (by decide), hheading "# Types".toList (by decide),
    hheading "# Models".toList (by decide)]
  simp only [List.append_assoc, List.cons_append, List.nil_append, List.append_nil]

/-- Whether a line is no heading. -/
def isUnmarked (line : List Char) : Bool :=
  line.head? != some '#'

/-- Whether a line is no class line. -/
def isUnnamed (line : List Char) : Bool :=
  !line.contains '('

theorem isUnnamed_groups {options : Options} {declarations : List Declaration}
    (h : ∀ declaration ∈ declarations, declaration.Legible) :
    ∀ g ∈ groups options declarations, isUnnamed g.1 = false ∧ ∀ x ∈ g.2, isUnnamed x = true := by
  simp only [groups, List.forall_mem_map]
  intro declaration hdeclaration
  constructor
  · rw [Declaration.header_eq]
    cases declaration <;> simp [isUnnamed, Declaration.bases]
  · intro entry hentry
    have hchars := isEntryChar_entryLine options (h declaration hdeclaration) entry hentry
    simpa [isUnnamed] using fun hc => absurd (hchars '(' hc) (by decide)

theorem isUnmarked_groups {options : Options} {declarations : List Declaration}
    (h : ∀ declaration ∈ declarations, declaration.Legible) :
    ∀ line ∈ (groups options declarations).flatMap (fun g => g.1 :: g.2),
      isUnmarked line = true := by
  simp only [groups, List.flatMap_map, List.mem_flatMap, List.mem_cons, List.mem_map]
  rintro line ⟨declaration, hdeclaration, rfl | ⟨entry, hentry, rfl⟩⟩
  · rw [Declaration.header_eq]
    simp [isUnmarked]
  · have hchars := isEntryChar_entryLine options (h declaration hdeclaration) entry hentry
    rw [isUnmarked, bne_iff_ne]
    exact fun hc => absurd (hchars '#' (List.mem_of_mem_head? hc)) (by decide)

/-- A page with plain names; its imports are lines. -/
structure Legible (page : Page) : Prop where
  imports : ∀ line ∈ page.imports.lines, '\n' ∉ (Imports.renderLine line).toList
  enums : ∀ declaration ∈ page.enums, declaration.Legible
  types : ∀ declaration ∈ page.types, declaration.Legible
  models : ∀ declaration ∈ page.models, declaration.Legible

theorem Legible.linesOf_render {page : Page} (h : page.Legible) (options : Options) :
    linesOf (page.render options) = page.lines options :=
  Page.linesOf_render h.imports (fun d hd => (h.enums d hd).oneLined)
    (fun d hd => (h.types d hd).oneLined) fun d hd => (h.models d hd).oneLined

/-- The groups of a section tell its declarations. -/
theorem named_eq_of_groups_eq {options : Options} {declarations declarations' : List Declaration}
    (h : (groups options declarations).flatMap (fun g => g.1 :: g.2) =
      (groups options declarations').flatMap (fun g => g.1 :: g.2))
    (hlegible : ∀ declaration ∈ declarations, declaration.Legible)
    (hlegible' : ∀ declaration ∈ declarations', declaration.Legible) :
    declarations.map (·.named) = declarations'.map (·.named) := by
  have hgroups := groups_inj h (isUnnamed_groups hlegible) (isUnnamed_groups hlegible')
  refine map_eq_map_of_map_eq_map hgroups fun d hd d' hd' h => ?_
  obtain ⟨hheader, hentries⟩ := Prod.mk.inj h
  exact Declaration.block_inj (String.toList_inj.1 hheader) hentries (hlegible d hd)
    (hlegible' d' hd')

/-- Two pages with one text declare the same in each of their sections. -/
theorem named_eq_of_render_eq {options : Options} {page page' : Page}
    (h : page.render options = page'.render options) (hlegible : page.Legible)
    (hlegible' : page'.Legible) :
    page.enums.map (·.named) = page'.enums.map (·.named) ∧
      page.types.map (·.named) = page'.types.map (·.named) ∧
      page.models.map (·.named) = page'.models.map (·.named) := by
  have hlines : inked (page.lines options) = inked (page'.lines options) := by
    rw [← hlegible.linesOf_render, ← hlegible'.linesOf_render, h]
  rw [inked_lines, inked_lines] at hlines
  have himports (page : Page) : ∀ line ∈ page.imports.lines.map (Imports.renderLine · |>.toList),
      isUnmarked line = true := by
    rw [List.forall_mem_map]
    intro line _
    simp [Imports.renderLine, isUnmarked]
  have hmarked (heading : String) (rest : List (List Char)) (h : heading.toList.head? = some '#') :
      ∀ line ∈ (heading.toList :: rest).head?, isUnmarked line = false := by
    simp [isUnmarked, h]
  -- One cut in front of each heading.
  obtain ⟨-, hlines⟩ := append_inj_of_stop (List.append_cancel_left hlines) (himports page)
    (himports page') (hmarked _ _ rfl) (hmarked _ _ rfl)
  obtain ⟨henums, hlines⟩ := append_inj_of_stop (List.cons.inj hlines).2
    (isUnmarked_groups hlegible.enums) (isUnmarked_groups hlegible'.enums) (hmarked _ _ rfl)
    (hmarked _ _ rfl)
  obtain ⟨htypes, hlines⟩ := append_inj_of_stop (List.cons.inj hlines).2
    (isUnmarked_groups hlegible.types) (isUnmarked_groups hlegible'.types) (hmarked _ _ rfl)
    (hmarked _ _ rfl)
  exact ⟨named_eq_of_groups_eq henums hlegible.enums hlegible'.enums,
    named_eq_of_groups_eq htypes hlegible.types hlegible'.types,
    named_eq_of_groups_eq (List.cons.inj hlines).2 hlegible.models hlegible'.models⟩

end DatamodelTypes.Page
