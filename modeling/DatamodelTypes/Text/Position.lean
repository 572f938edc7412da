/-
DatamodelTypes.Text.Position — where in a text a fault is reported.

Readers in this library work on the list of characters that is still
unread. A fault therefore carries the number of bytes that were left
behind the place it is reported at, and only when the whole text is at
hand again does `Fault.locate` turn this into a line and a column. Both
are counted in bytes of UTF-8: the column is the number of bytes between
the start of the line and the place, and a line starts after each
newline.
-/

namespace DatamodelTypes.Text

/-- The length of a text in bytes of UTF-8. -/
def byteCount : List Char → Nat
  | [] => 0
  | c :: cs => c.utf8Size + byteCount cs

/-- A line, counted from one, and the bytes of it that were read. -/
structure Position where
  line : Nat
  column : Nat
  deriving DecidableEq, Repr

/-- The start of a text. -/
def Position.start : Position := ⟨1, 0⟩

/-- The position that `bytes` bytes of a text lead to. A place inside a
character counts the bytes of it that were read. -/
def Position.advance (p : Position) : Nat → List Char → Position
  | _, [] => p
  | bytes, c :: cs =>
    if bytes < c.utf8Size then ⟨p.line, p.column + bytes⟩
    else if c = '\n' then Position.advance ⟨p.line + 1, 0⟩ (bytes - c.utf8Size) cs
    else Position.advance ⟨p.line, p.column + c.utf8Size⟩ (bytes - c.utf8Size) cs

/-- A cause, and how many bytes of the text lie behind its place. -/
structure Fault (ε : Type) where
  cause : ε
  unread : Nat
  deriving DecidableEq, Repr

/-- A fault placed exactly where reading stopped. -/
def Fault.here {ε : Type} (cause : ε) (rest : List Char) : Fault ε :=
  ⟨cause, byteCount rest⟩

/-- A fault that the next byte is to blame for, placed behind that byte.
At the end of the text there is no such byte and the place is the end. -/
def Fault.next {ε : Type} (cause : ε) (rest : List Char) : Fault ε :=
  ⟨cause, byteCount rest - 1⟩

/-- The same place with another cause. -/
def Fault.map {ε δ : Type} (f : ε → δ) (fault : Fault ε) : Fault δ :=
  ⟨f fault.cause, fault.unread⟩

/-- A cause with the position it is reported at. -/
structure Located (ε : Type) where
  cause : ε
  position : Position
  deriving DecidableEq, Repr

/-- Turns the bytes left into a position, given the text that was read. -/
def Fault.locate {ε : Type} (fault : Fault ε) (text : List Char) : Located ε :=
  ⟨fault.cause, Position.start.advance (byteCount text - fault.unread) text⟩

/-- The wording of a located cause, given the wording of the cause. -/
def Located.message {ε : Type} (wording : ε → String) (located : Located ε) : String :=
  wording located.cause ++ " at line " ++ toString located.position.line ++ " column " ++
    toString located.position.column

end DatamodelTypes.Text
