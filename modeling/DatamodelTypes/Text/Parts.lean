/-
DatamodelTypes.Text.Parts — parts of a text: between separators, without
the blanks around it, and from one byte offset to another.
-/
import DatamodelTypes.Text.Classes
import DatamodelTypes.Text.Position
import DatamodelTypes.Text.Quoted

namespace DatamodelTypes.Text

/-! ## 1. Pieces -/

/-- The pieces of a text between separators. There is always one more of
them than there are separators. -/
def splitAt (separator : Char) : List Char → List (List Char)
  | [] => [[]]
  | c :: cs =>
    if c = separator then [] :: splitAt separator cs
    else
      match splitAt separator cs with
      | [] => [[c]]
      | piece :: pieces => (c :: piece) :: pieces

/-! ## 2. Blanks around a text -/

/-- The text without the blanks at its start. -/
def trimStart (cs : List Char) : List Char :=
  cs.dropWhile isBlank

/-- The text without the blanks at its start and at its end. -/
def trim (cs : List Char) : List Char :=
  (trimStart (trimStart cs).reverse).reverse

/-! ## 3. Cuts -/

/-- A character that a cut would fall into, and how many of its bytes lie in
front of the cut. -/
structure SplitCharacter where
  character : Char
  bytesBefore : Nat
  deriving DecidableEq, Repr

/-- A text in two parts, cut behind a number of bytes. One that has fewer is
left whole. -/
def cut : Nat → List Char → Except SplitCharacter (List Char × List Char)
  | _, [] => .ok ([], [])
  | bytes, c :: cs =>
    if bytes = 0 then .ok ([], c :: cs)
    else if bytes < c.utf8Size then .error ⟨c, bytes⟩
    else do
      let (before, after) ← cut (bytes - c.utf8Size) cs
      return (c :: before, after)

/-- Why a part cannot be cut out of a text: one of its ends would lie inside
a character. -/
structure SliceFault where
  isStart : Bool
  offset : Nat
  split : SplitCharacter
  deriving DecidableEq, Repr

/-- The wording of a fault. It names the bytes that the character takes. -/
def SliceFault.message (fault : SliceFault) : String :=
  let start := fault.offset - fault.split.bytesBefore
  (if fault.isStart then "start" else "end") ++ " byte index " ++ toString fault.offset ++
    " is not a char boundary; it is inside '" ++ quotedChar fault.split.character ++
    "' (bytes " ++ toString start ++ ".." ++
    toString (start + fault.split.character.utf8Size) ++ " of string)"

/-- The part of a text from one byte offset to another. An offset behind the
end stands for the end. -/
def slice (first last : Nat) (cs : List Char) : Except SliceFault (List Char) :=
  match cut first cs with
  | .error split => .error ⟨true, first, split⟩
  | .ok (_, rest) =>
    match cut (last - first) rest with
    | .error split => .error ⟨false, last, split⟩
    | .ok (part, _) => .ok part

end DatamodelTypes.Text
