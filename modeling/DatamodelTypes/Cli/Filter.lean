/-
DatamodelTypes.Cli.Filter — who wants to hear of an event.

A filter is a list of directives. A directive sets a threshold for the
events whose target starts with its own, or for all events if it names no
target, and it can ask for a field that the event has to have. Of the
directives that apply to an event the most particular one decides; an
event that none applies to is silent.

Filters are written as text: directives with commas between them, each of
the form `target[span{field=value}]=level`, of which any part but one can
be missing.
-/
import DatamodelTypes.Cli.Log
import DatamodelTypes.Decimal
import DatamodelTypes.Pattern
import DatamodelTypes.Text.Parts

namespace DatamodelTypes.Cli

open Text (byteCount)

/-! ## 1. Filters -/

/-- The most detailed level that is shown; with `none` nothing is. -/
abbrev Threshold := Option Level

/-- Whether a threshold lets a level pass. -/
def Threshold.admits (threshold : Threshold) (level : Level) : Bool :=
  match threshold with
  | some most => level.rank ≤ most.rank
  | none => false

/-- A threshold for some events: those of a target that have a field. -/
structure Directive where
  target : Option String
  field : Option String
  threshold : Threshold
  deriving DecidableEq, Repr

namespace Directive

/-- Whether a directive applies to an event. -/
def appliesTo (directive : Directive) (event : Event) : Bool :=
  directive.target.all (fun start => start.toList.isPrefixOf event.target.toList) &&
    directive.field.all (event.fields.contains ·)

/-- How much of a target a directive names. -/
def reach (directive : Directive) : Nat :=
  match directive.target with
  | none => 0
  | some start => start.length + 1

/-- Whether a directive gives way to another one that applies to the same
event: to one that names more of the target, then to one that asks for a
field, then to the field that comes later in the order of names. A
directive gives way to its equal. -/
def givesWayTo (directive other : Directive) : Bool :=
  directive.reach < other.reach ||
    directive.reach == other.reach &&
      match directive.field, other.field with
      | none, _ => true
      | some _, none => false
      | some name, some name' => name ≤ name'

end Directive

/-- Directives, later ones counting before earlier ones that are as
particular. -/
abbrev Filter := List Directive

namespace Filter

/-- The directive that decides about an event. -/
def decisive? (filter : Filter) (event : Event) : Option Directive :=
  (filter.filter (·.appliesTo event)).foldl
    (fun best directive =>
      match best with
      | none => some directive
      | some best => if best.givesWayTo directive then some directive else some best)
    none

/-- Whether a filter lets an event pass. -/
def shows (filter : Filter) (event : Event) : Bool :=
  (filter.decisive? event).any fun directive => directive.threshold.admits event.level

/-- The filter that shows the same levels of all events. -/
def everywhere (level : Level) : Filter :=
  [⟨none, none, some level⟩]

end Filter

/-! ## 2. Levels as text -/

/-- The threshold of a number: the rank of the most detailed level, or
zero for silence. -/
def thresholdOfNumber? : Nat → Option Threshold
  | 0 => some none
  | 1 => some (some .error)
  | 2 => some (some .warn)
  | 3 => some (some .info)
  | 4 => some (some .debug)
  | 5 => some (some .trace)
  | _ => none

/-- The threshold of a name in small letters. -/
def thresholdOfName? (name : List Char) : Option Threshold :=
  if name = "off".toList then some none
  else if name = "error".toList then some (some .error)
  else if name = "warn".toList then some (some .warn)
  else if name = "info".toList then some (some .info)
  else if name = "debug".toList then some (some .debug)
  else if name = "trace".toList then some (some .trace)
  else none

/-- The threshold that a text names: a level, in letters of either case,
or a number. -/
def thresholdOfText? (text : List Char) : Option Threshold :=
  match Decimal.natOfText? (String.ofList text) with
  | some number => thresholdOfNumber? number
  | none => thresholdOfName? (text.map Char.toLower)

/-! ## 3. Fields as text -/

/-- Whether a text is a number behind a plus sign: an infinity, no number,
or digits with perhaps a point and an exponent. -/
def isPlusNumber : List Char → Bool
  | '+' :: cs =>
    let word := cs.map Char.toLower
    let whole := word.takeWhile Char.isDigit
    let rest := word.dropWhile Char.isDigit
    let (fraction, rest) : List Char × List Char :=
      match rest with
      | '.' :: rest => (rest.takeWhile Char.isDigit, rest.dropWhile Char.isDigit)
      | rest => ([], rest)
    let exponentFits : Bool :=
      match rest with
      | [] => true
      | 'e' :: rest =>
        let digits : List Char :=
          match rest with
          | '+' :: digits => digits
          | '-' :: digits => digits
          | digits => digits
        digits ≠ [] && digits.all Char.isDigit
      | _ => false
    word == "inf".toList || word == "infinity".toList || word == "nan".toList ||
      (whole ++ fraction ≠ [] && exponentFits)
  | _ => false

/-- A condition on a field: its name, and whether its value matters too. -/
structure FieldCondition where
  name : String
  onValue : Bool

/-- The condition that a text writes: the name of a field, perhaps with an
equals sign and a value behind it. The value is a number or a pattern. -/
def fieldConditionOfText? (text : List Char) : Option FieldCondition :=
  let name := String.ofList (text.takeWhile (· ≠ '='))
  match text.dropWhile (· ≠ '=') with
  | [] => some ⟨name, false⟩
  | _ :: rest =>
    let value := rest.takeWhile (· ≠ '=')
    if isPlusNumber value || Pattern.isPattern value then some ⟨name, true⟩ else none

/-! ## 4. Directives as text -/

/-- Why a text writes no filter. -/
inductive FilterFault where
  /-- A directive is not well formed. -/
  | malformed
  /-- A part of a directive would start or end inside a character. -/
  | splitCharacter (fault : Text.SliceFault)
  deriving DecidableEq, Repr

/-- A directive as it is written. The ends of its parts are found without
the blanks around it, but its parts are cut out of the text as it stands,
so blanks in front shift what a part says. -/
abbrev Piece := List Char

namespace Piece

/-- The part of a piece between two byte offsets. -/
def part (piece : Piece) (first last : Nat) : Except FilterFault (List Char) :=
  (Text.slice first last piece).mapError .splitCharacter

/-- The part of a piece behind a byte offset. -/
def behind (piece : Piece) (first : Nat) : Except FilterFault (List Char) :=
  piece.part first (byteCount piece)

/-- The threshold of a piece whose text goes on at a byte offset with
`rest`: nothing, or an equals sign and a level. Without a level all is
shown. -/
def threshold (piece : Piece) (offset : Nat) (rest : List Char) : Except FilterFault Threshold := do
  match rest with
  | [] => return some .trace
  | '=' :: _ =>
    let text ← piece.behind (offset + 1)
    if text = [] then return some .trace
    else
      match thresholdOfText? text with
      | some threshold => return threshold
      | none => throw .malformed
  | _ => throw .malformed

/-- What stands between square brackets: whether it is about spans, and
the condition on a field. -/
structure Scope where
  ofSpan : Bool
  condition : Option FieldCondition

/-- The scope that starts at a byte offset, behind its bracket, with the
offset and the text behind it. It is the name of a span, or a condition
in braces, or both. -/
def scope (piece : Piece) (offset : Nat) (rest : List Char) :
    Except FilterFault (Scope × Nat × List Char) := do
  let isEnd (c : Char) : Bool := c = ']' || c = '{'
  let span := rest.takeWhile (!isEnd ·)
  let spanEnd := offset + byteCount span
  match rest.dropWhile (!isEnd ·) with
  | [] => throw .malformed
  | ']' :: rest =>
    let _ ← piece.part offset spanEnd
    return (⟨true, none⟩, spanEnd + 1, rest)
  | _ :: rest =>
    let _ ← piece.part offset spanEnd
    let field := rest.takeWhile (· ≠ '}')
    let fieldEnd := spanEnd + 1 + byteCount field
    match rest.dropWhile (· ≠ '}') with
    | [] => throw .malformed
    | _ :: rest =>
      let text ← piece.part (spanEnd + 1) fieldEnd
      match field, fieldConditionOfText? text, rest with
      | _ :: _, some condition, ']' :: rest =>
        return (⟨span ≠ [], some condition⟩, fieldEnd + 2, rest)
      | _, _, _ => throw .malformed

/-- Whether a directive can start with a character. -/
def canStartWith (c : Char) : Bool :=
  Text.isAlphanumeric c || c = '-' || c = ':' || c = '_' || c = '['

/-- The directive that a piece writes. There is none if it is about spans
or the values of fields, since no event of a run is inside a span. -/
def directive? (piece : Piece) : Except FilterFault (Option Directive) := do
  let trimmed := Text.trim piece
  let isEnd (c : Char) : Bool := c = '=' || c = '['
  let head := trimmed.takeWhile (!isEnd ·)
  let headEnd := byteCount head
  if !trimmed.head?.any canStartWith then throw .malformed
  else
    match trimmed.dropWhile (!isEnd ·) with
    | [] =>
      match thresholdOfText? piece with
      | some threshold => return some ⟨none, none, threshold⟩
      | none => return some ⟨some (String.ofList piece), none, some .trace⟩
    | '[' :: rest =>
      let target ← piece.part 0 headEnd
      let (scope, offset, rest) ← piece.scope (headEnd + 1) rest
      let threshold ← piece.threshold offset rest
      let target := if head = [] then none else some (String.ofList target)
      match scope with
      | ⟨false, some ⟨name, false⟩⟩ => return some ⟨target, some name, threshold⟩
      | _ => return none
    | rest =>
      let target ← piece.part 0 headEnd
      let threshold ← piece.threshold headEnd rest
      return some ⟨some (String.ofList target), none, threshold⟩

end Piece

/-! ## 5. Filters as text -/

/-- The filter that a text writes. Pieces without a character are passed
over; if there is no other, errors are shown. -/
def Filter.ofText (text : String) : Except FilterFault Filter :=
  match (Text.splitAt ',' text.toList).filter (· ≠ []) with
  | [] => .ok (.everywhere .error)
  | pieces => do return (← pieces.mapM Piece.directive?).filterMap id

/-- The filter without a setting that says otherwise. -/
def Filter.standard (verbose : Bool) : Filter :=
  .everywhere (if verbose then .debug else .warn)

/-- The filter in force: the one that is set, if it is well formed. There
is none if a part of the setting would split a character. -/
def Filter.inForce (setting : Option String) (verbose : Bool) : Except Text.SliceFault Filter :=
  match setting.map Filter.ofText with
  | some (.ok filter) => .ok filter
  | some (.error (.splitCharacter fault)) => .error fault
  | some (.error .malformed) => .ok (.standard verbose)
  | none => .ok (.standard verbose)

end DatamodelTypes.Cli
