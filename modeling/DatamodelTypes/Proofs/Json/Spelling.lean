/-
DatamodelTypes.Proofs.Json.Spelling — the ways to write a JSON value.

A value has many spellings: blanks may stand around every token, a
character of a string may be escaped in several ways, and a number may
have an exponent with either letter. The relations of this module list
all of them, without saying how they are read. `Spells text value` is the
last of them; `Proofs.Json.Reading` shows that the reader finds `value`
in every such text.

The nesting limit is part of the relation: `ValueSpelling depth` are the
values in which at most `depth` containers are open at a time. That makes
it a recursion on `depth`, over relations for one level of nesting.
-/
import DatamodelTypes.Json.Reader

namespace DatamodelTypes.Json

/-! ## 1. Blanks -/

/-- Nothing but blanks. -/
def Blank (cs : List Char) : Prop :=
  ∀ c ∈ cs, isBlank c = true

theorem blank_nil : Blank [] := by
  simp [Blank]

theorem blank_append {xs ys : List Char} : Blank (xs ++ ys) ↔ Blank xs ∧ Blank ys :=
  List.forall_mem_append

/-- A text with blanks around it. -/
inductive Padded (Inner : List Char → Prop) : List Char → Prop
  | intro {before inner after : List Char} (hbefore : Blank before) (spelled : Inner inner)
      (hafter : Blank after) : Padded Inner (before ++ inner ++ after)

/-! ## 2. Strings -/

/-- A UTF-16 unit as an escape, in digits of either case. -/
inductive UnitSpelling : Nat → List Char → Prop
  | digits {a b c d : Char} {unit : Nat} (value : hexQuad? a b c d = some unit) :
      UnitSpelling unit ['\\', 'u', a, b, c, d]

/-- A character inside a string: as itself, by a letter, as one unit or as
a pair of surrogates. -/
inductive CharSpelling : Char → List Char → Prop
  | plain {c : Char} (notQuote : c ≠ '"') (notBackslash : c ≠ '\\')
      (notControl : isControl c = false) : CharSpelling c [c]
  | short {letter c : Char} (escaped : shortEscape? letter = some c) :
      CharSpelling c ['\\', letter]
  | unit {c : Char} {cs : List Char} (spelled : UnitSpelling c.toNat cs) : CharSpelling c cs
  | pair {c : Char} {high low : Nat} {hs ls : List Char} (spelledHigh : UnitSpelling high hs)
      (spelledLow : UnitSpelling low ls) (isHigh : isHighSurrogate high = true)
      (isLow : isLowSurrogate low = true) (value : surrogatePair high low = c) :
      CharSpelling c (hs ++ ls)

/-- The characters of a string, one spelled behind the other. -/
inductive TextSpelling : List Char → List Char → Prop
  | nil : TextSpelling [] []
  | cons {c : Char} {cs spelling rest : List Char} (first : CharSpelling c spelling)
      (others : TextSpelling cs rest) : TextSpelling (c :: cs) (spelling ++ rest)

/-- A string in its quotes. -/
inductive StringSpelling (text : String) : List Char → Prop
  | quoted {body : List Char} (spelled : TextSpelling text.toList body) :
      StringSpelling text ('"' :: body ++ ['"'])

/-! ## 3. Numbers -/

/-- Digits, one at least. -/
def Digits (cs : List Char) : Prop :=
  cs ≠ [] ∧ ∀ c ∈ cs, c.isDigit = true

/-- The digits before the point: no zero stands in front of others. -/
inductive WholeSpelling : List Char → Prop
  | zero : WholeSpelling ['0']
  | digits {cs : List Char} (spelled : Digits cs) (first : cs.head? ≠ some '0') :
      WholeSpelling cs

inductive SignSpelling : Bool → List Char → Prop
  | minus : SignSpelling true ['-']
  | none : SignSpelling false []

inductive FractionSpelling : Option (List Char) → List Char → Prop
  | none : FractionSpelling none []
  | digits {cs : List Char} (spelled : Digits cs) : FractionSpelling (some cs) ('.' :: cs)

/-- The sign of an exponent may be a plus. -/
inductive ExponentSignSpelling : Bool → List Char → Prop
  | plus : ExponentSignSpelling false ['+']
  | sign {negative : Bool} {cs : List Char} (spelled : SignSpelling negative cs) :
      ExponentSignSpelling negative cs

inductive ExponentSpelling : Option (Bool × List Char) → List Char → Prop
  | none : ExponentSpelling none []
  | digits {mark : Char} {negative : Bool} {sign cs : List Char} (hmark : mark = 'e' ∨ mark = 'E')
      (spelledSign : ExponentSignSpelling negative sign) (spelled : Digits cs) :
      ExponentSpelling (some (negative, cs)) (mark :: sign ++ cs)

/-- A number, part by part. -/
inductive NumeralSpelling : Numeral → List Char → Prop
  | parts {negative : Bool} {fraction : Option (List Char)} {exponent : Option (Bool × List Char)}
      {sign whole fractionText exponentText : List Char} (spelledSign : SignSpelling negative sign)
      (spelledWhole : WholeSpelling whole) (spelledFraction : FractionSpelling fraction fractionText)
      (spelledExponent : ExponentSpelling exponent exponentText) :
      NumeralSpelling ⟨negative, whole, fraction, exponent⟩
        (sign ++ whole ++ fractionText ++ exponentText)

/-! ## 4. Values -/

/-- A value that is no container. -/
inductive ScalarSpelling : Json → List Char → Prop
  | null : ScalarSpelling .null ['n', 'u', 'l', 'l']
  | true : ScalarSpelling (.bool true) ['t', 'r', 'u', 'e']
  | false : ScalarSpelling (.bool false) ['f', 'a', 'l', 's', 'e']
  | string {text : String} {cs : List Char} (spelled : StringSpelling text cs) :
      ScalarSpelling (.string text) cs
  | number {numeral : Numeral} {value : Json} {cs : List Char}
      (spelled : NumeralSpelling numeral cs) (hvalue : numeral.value = .ok value) :
      ScalarSpelling value cs

section Containers

/-! `Inner` says how the values inside a container are spelled. -/

variable (Inner : Json → List Char → Prop)

/-- The items of an array, one at least, between commas. -/
inductive ItemsSpelling : List Json → List Char → Prop
  | last {value : Json} {cs : List Char} (spelled : Padded (Inner value) cs) :
      ItemsSpelling [value] cs
  | next {value : Json} {values : List Json} {cs rest : List Char}
      (spelled : Padded (Inner value) cs) (others : ItemsSpelling values rest) :
      ItemsSpelling (value :: values) (cs ++ ',' :: rest)

/-- A member of an object: its name, a colon and its value. -/
inductive MemberSpelling : String × Json → List Char → Prop
  | pair {name : String} {value : Json} {ks cs : List Char}
      (spelledName : Padded (StringSpelling name) ks) (spelled : Padded (Inner value) cs) :
      MemberSpelling (name, value) (ks ++ ':' :: cs)

/-- The members of an object, one at least, between commas. -/
inductive MembersSpelling : List (String × Json) → List Char → Prop
  | last {member : String × Json} {cs : List Char} (spelled : MemberSpelling Inner member cs) :
      MembersSpelling [member] cs
  | next {member : String × Json} {members : List (String × Json)} {cs rest : List Char}
      (spelled : MemberSpelling Inner member cs) (others : MembersSpelling members rest) :
      MembersSpelling (member :: members) (cs ++ ',' :: rest)

/-- An array or an object in its brackets. -/
inductive ContainerSpelling : Json → List Char → Prop
  | emptyArray {cs : List Char} (hblank : Blank cs) :
      ContainerSpelling (.array []) ('[' :: cs ++ [']'])
  | array {items : List Json} {cs : List Char} (spelled : ItemsSpelling Inner items cs) :
      ContainerSpelling (.array items) ('[' :: cs ++ [']'])
  | emptyObject {cs : List Char} (hblank : Blank cs) :
      ContainerSpelling (.object []) ('{' :: cs ++ ['}'])
  | object {members : List (String × Json)} {cs : List Char}
      (spelled : MembersSpelling Inner members cs) :
      ContainerSpelling (.object members) ('{' :: cs ++ ['}'])

end Containers

/-- A value in which at most `depth` containers are open at a time. -/
def ValueSpelling : Nat → Json → List Char → Prop
  | 0, value, cs => ScalarSpelling value cs
  | depth + 1, value, cs => ScalarSpelling value cs ∨ ContainerSpelling (ValueSpelling depth) value cs

/-- A text that writes a value, within the nesting limit. -/
def Spells (text : String) (value : Json) : Prop :=
  Padded (ValueSpelling maxDepth value) text.toList

/-! ## 5. Values that can be written

Strings, words and containers of them can be written whatever they hold.
The spellings given here have no blanks and no escapes but the necessary
ones. -/

/-- A character as a string needs it: quotes, backslashes and control
characters are escaped, all others stand as they are. -/
def escaped (c : Char) : List Char :=
  if c = '"' ∨ c = '\\' then ['\\', c]
  else if isControl c then
    ['\\', 'u', '0', '0', Nat.digitChar (c.toNat / 16), Nat.digitChar (c.toNat % 16)]
  else [c]

theorem hexQuad?_digitChar : ∀ n < 0x20,
    hexQuad? '0' '0' (Nat.digitChar (n / 16)) (Nat.digitChar (n % 16)) = some n := by
  decide

theorem charSpelling_escaped (c : Char) : CharSpelling c (escaped c) := by
  unfold escaped
  split
  · rename_i h
    obtain rfl | rfl := h
    · exact .short rfl
    · exact .short rfl
  · rename_i h
    rw [not_or] at h
    split
    · rename_i hcontrol
      exact .unit (.digits (hexQuad?_digitChar c.toNat (by simpa [isControl] using hcontrol)))
    · rename_i hcontrol
      exact .plain h.1 h.2 (by simpa using hcontrol)

theorem textSpelling_escaped (cs : List Char) : TextSpelling cs (cs.flatMap escaped) := by
  induction cs with
  | nil => exact .nil
  | cons c cs ih => exact .cons (charSpelling_escaped c) ih

theorem stringSpelling_escaped (text : String) :
    StringSpelling text ('"' :: text.toList.flatMap escaped ++ ['"']) :=
  .quoted (textSpelling_escaped text.toList)

theorem padded_of {Inner : List Char → Prop} {cs : List Char} (h : Inner cs) : Padded Inner cs := by
  have hpadded : Padded Inner ([] ++ cs ++ []) := .intro blank_nil h blank_nil
  simpa using hpadded

/-- Values that have a spelling, with a given number of open containers. -/
def Spellable (depth : Nat) (value : Json) : Prop :=
  ∃ cs, ValueSpelling depth value cs

theorem ScalarSpelling.spellable {value : Json} {cs : List Char} (h : ScalarSpelling value cs)
    (depth : Nat) : Spellable depth value := by
  cases depth with
  | zero => exact ⟨cs, h⟩
  | succ depth => exact ⟨cs, .inl h⟩

theorem spellable_null (depth : Nat) : Spellable depth .null :=
  ScalarSpelling.null.spellable depth

theorem spellable_bool (depth : Nat) (value : Bool) : Spellable depth (.bool value) := by
  cases value with
  | true => exact ScalarSpelling.true.spellable depth
  | false => exact ScalarSpelling.false.spellable depth

theorem spellable_string (depth : Nat) (text : String) : Spellable depth (.string text) :=
  (ScalarSpelling.string (stringSpelling_escaped text)).spellable depth

theorem exists_itemsSpelling {depth : Nat} {value : Json} {values : List Json}
    (h : ∀ item ∈ value :: values, Spellable depth item) :
    ∃ cs, ItemsSpelling (ValueSpelling depth) (value :: values) cs := by
  induction values generalizing value with
  | nil =>
    obtain ⟨cs, hcs⟩ := h value (by simp)
    exact ⟨cs, .last (padded_of hcs)⟩
  | cons next values ih =>
    obtain ⟨cs, hcs⟩ := h value (by simp)
    obtain ⟨rest, hrest⟩ := ih fun item hitem => h item (List.mem_cons_of_mem _ hitem)
    exact ⟨cs ++ ',' :: rest, .next (padded_of hcs) hrest⟩

theorem spellable_array {depth : Nat} {items : List Json}
    (h : ∀ item ∈ items, Spellable depth item) : Spellable (depth + 1) (.array items) := by
  cases items with
  | nil => exact ⟨_, .inr (.emptyArray blank_nil)⟩
  | cons value values =>
    obtain ⟨cs, hcs⟩ := exists_itemsSpelling h
    exact ⟨_, .inr (.array hcs)⟩

theorem exists_memberSpelling {depth : Nat} {member : String × Json}
    (h : Spellable depth member.2) :
    ∃ cs, MemberSpelling (ValueSpelling depth) member cs := by
  obtain ⟨name, value⟩ := member
  obtain ⟨cs, hcs⟩ := h
  exact ⟨_, .pair (padded_of (stringSpelling_escaped name)) (padded_of hcs)⟩

theorem exists_membersSpelling {depth : Nat} {member : String × Json}
    {members : List (String × Json)} (h : ∀ m ∈ member :: members, Spellable depth m.2) :
    ∃ cs, MembersSpelling (ValueSpelling depth) (member :: members) cs := by
  induction members generalizing member with
  | nil =>
    obtain ⟨cs, hcs⟩ := exists_memberSpelling (h member (by simp))
    exact ⟨cs, .last hcs⟩
  | cons next members ih =>
    obtain ⟨cs, hcs⟩ := exists_memberSpelling (h member (by simp))
    obtain ⟨rest, hrest⟩ := ih fun m hm => h m (List.mem_cons_of_mem _ hm)
    exact ⟨cs ++ ',' :: rest, .next hcs hrest⟩

theorem spellable_object {depth : Nat} {members : List (String × Json)}
    (h : ∀ m ∈ members, Spellable depth m.2) : Spellable (depth + 1) (.object members) := by
  cases members with
  | nil => exact ⟨_, .inr (.emptyObject blank_nil)⟩
  | cons member members =>
    obtain ⟨cs, hcs⟩ := exists_membersSpelling h
    exact ⟨_, .inr (.object hcs)⟩

/-- A value that can be written within the nesting limit is the value of a
text. -/
theorem Spellable.exists_spells {value : Json} (h : Spellable maxDepth value) :
    ∃ text, Spells text value := by
  obtain ⟨cs, hcs⟩ := h
  refine ⟨String.ofList cs, ?_⟩
  rw [Spells, String.toList_ofList]
  exact padded_of hcs

/-! ## 6. Containers

What stands in a container that can be written can be written itself, with
one container less around it. -/

/-- Arrays and objects. -/
def IsContainer : Json → Prop
  | .array _ => True
  | .object _ => True
  | _ => False

/-- A number is no container. -/
theorem Numeral.not_isContainer {numeral : Numeral} {value : Json}
    (h : numeral.value = .ok value) : ¬value.IsContainer := by
  unfold Numeral.value at h
  split at h
  · cases h
    unfold wholeValue
    split
    · exact id
    · split <;> exact id
  · cases hreal : numeral.realValue with
    | error =>
      rw [hreal] at h
      cases h
    | ok x =>
      rw [hreal] at h
      cases h
      exact id

theorem ScalarSpelling.not_isContainer {value : Json} {cs : List Char}
    (h : ScalarSpelling value cs) : ¬value.IsContainer := by
  cases h with
  | number _ hvalue => exact Numeral.not_isContainer hvalue
  | _ => exact id

/-- A container is spelled in brackets, and what is in it one level down. -/
theorem ValueSpelling.container {depth : Nat} {value : Json} {cs : List Char}
    (h : ValueSpelling depth value cs) (hvalue : value.IsContainer) :
    ∃ inner, depth = inner + 1 ∧ ContainerSpelling (ValueSpelling inner) value cs := by
  have hscalar : ¬ScalarSpelling value cs := fun h => h.not_isContainer hvalue
  cases depth with
  | zero => exact absurd h hscalar
  | succ inner => exact ⟨inner, rfl, h.resolve_left hscalar⟩

theorem Padded.exists_inner {Inner : List Char → Prop} {cs : List Char} (h : Padded Inner cs) :
    ∃ inner, Inner inner := by
  cases h with
  | intro _ spelled => exact ⟨_, spelled⟩

section

variable {Inner : Json → List Char → Prop}

theorem ItemsSpelling.exists_spelling {values : List Json} {cs : List Char}
    (h : ItemsSpelling Inner values cs) : ∀ value ∈ values, ∃ cs, Inner value cs := by
  induction h with
  | last spelled => simpa using spelled.exists_inner
  | next spelled _ ih => exact List.forall_mem_cons.2 ⟨spelled.exists_inner, ih⟩

theorem MemberSpelling.exists_spelling {member : String × Json} {cs : List Char}
    (h : MemberSpelling Inner member cs) : ∃ cs, Inner member.2 cs := by
  cases h with
  | pair _ spelled => exact spelled.exists_inner

theorem MembersSpelling.exists_spelling {members : List (String × Json)} {cs : List Char}
    (h : MembersSpelling Inner members cs) : ∀ member ∈ members, ∃ cs, Inner member.2 cs := by
  induction h with
  | last spelled => simpa using spelled.exists_spelling
  | next spelled _ ih => exact List.forall_mem_cons.2 ⟨spelled.exists_spelling, ih⟩

end

theorem Spellable.items {depth : Nat} {items : List Json} (h : Spellable depth (.array items)) :
    ∃ inner, depth = inner + 1 ∧ ∀ item ∈ items, Spellable inner item := by
  obtain ⟨cs, hcs⟩ := h
  obtain ⟨inner, rfl, hcontainer⟩ := ValueSpelling.container hcs trivial
  refine ⟨inner, rfl, ?_⟩
  cases hcontainer with
  | emptyArray => simp
  | array spelled => exact spelled.exists_spelling

theorem Spellable.members {depth : Nat} {members : List (String × Json)}
    (h : Spellable depth (.object members)) :
    ∃ inner, depth = inner + 1 ∧ ∀ member ∈ members, Spellable inner member.2 := by
  obtain ⟨cs, hcs⟩ := h
  obtain ⟨inner, rfl, hcontainer⟩ := ValueSpelling.container hcs trivial
  refine ⟨inner, rfl, ?_⟩
  cases hcontainer with
  | emptyObject => simp
  | object spelled => exact spelled.exists_spelling

end DatamodelTypes.Json
