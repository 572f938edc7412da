/-
DatamodelTypes.Cli.FileSystem — the files that a run can see.

A path is a list of names with slashes between them. It starts at the root
if it starts with a slash, and can only name a directory if it ends in one.

A file system maps places, which are lists of names from the root on, to
files, directories, links and devices. Reading and writing go through
`locate`, which walks along a path; so the ways in which opening a file
can fail here have one account each. Writing replaces the content at one
place and leaves all others alone, except that a device does with it what
it is there for.
-/
import DatamodelTypes.Text.Parts

namespace DatamodelTypes.Cli

/-! ## 1. Paths -/

namespace Path

/-- The names in a path. Slashes that follow each other count as one. -/
def names (path : String) : List String :=
  ((Text.splitAt '/' path.toList).filter (· ≠ [])).map String.ofList

/-- Whether a path starts at the root. -/
def isAbsolute (path : String) : Bool :=
  path.toList.head? == some '/'

/-- Whether a path ends in a slash. -/
def endsInSlash (path : String) : Bool :=
  path.toList.getLast? == some '/'

/-- Whether a path has more bytes than a path can have. -/
def isTooLong (path : String) : Bool :=
  path.utf8ByteSize ≥ 4096

/-- Whether a name in a path has more bytes than a name can have. -/
def isNameTooLong (name : String) : Bool :=
  name.utf8ByteSize > 255

end Path

/-! ## 2. Faults -/

/-- Why a file cannot be read or written. -/
inductive FileFault where
  | missing
  | notDirectory
  | isDirectory
  | nameTooLong
  /-- There is no room for what is written. -/
  | noRoom
  /-- A device is not connected to anything. -/
  | noDevice
  /-- Anything else that a system may have against it, in its words. -/
  | refusedBySystem (words : String)
  deriving DecidableEq, Repr

/-- The wording of a fault. -/
def FileFault.message : FileFault → String
  | .missing => "No such file or directory (os error 2)"
  | .notDirectory => "Not a directory (os error 20)"
  | .isDirectory => "Is a directory (os error 21)"
  | .nameTooLong => "File name too long (os error 36)"
  | .noRoom => "No space left on device (os error 28)"
  | .noDevice => "No such device or address (os error 6)"
  | .refusedBySystem words => words

/-! ## 3. Entries -/

/-- Where something is: the names on the way to it from the root. -/
abbrev Place := List String

/-- What looks like a file and is none. -/
inductive Device where
  /-- Takes whatever is written and has nothing to read. -/
  | null
  /-- Has no room for anything. -/
  | full
  /-- The terminal of a run that has none. -/
  | terminal
  | standardInput
  | standardOutput
  | standardError
  deriving DecidableEq, Repr

/-- What can be at a place. -/
inductive Entry where
  | file (content : ByteArray)
  /-- A directory. In a fixed one no new files can be made. -/
  | directory (isFixed : Bool)
  /-- Another name for what is at a place, which is not a link again. -/
  | link (target : Place)
  | device (device : Device)

/-- Whether an entry is a directory. -/
def Entry.isDirectory : Entry → Bool
  | .directory _ => true
  | _ => false

/-- Whether an entry is a fixed directory. -/
def Entry.isFixedDirectory : Entry → Bool
  | .directory isFixed => isFixed
  | _ => false

/-- Whether an entry is a file with a given content. -/
def Entry.holds (content : ByteArray) : Entry → Bool
  | .file found => found.data.toList == content.data.toList
  | _ => false

/-- The entries of a file system, and what its devices are connected to. -/
structure FileSystem where
  entries : List (Place × Entry) := []
  /-- Where paths start that do not start at the root. -/
  workingDirectory : Place := []
  /-- What standard input has to read. -/
  input : ByteArray := ByteArray.empty
  /-- What was written to standard output. -/
  output : ByteArray := ByteArray.empty

namespace FileSystem

/-- The entry at a place. The root is always a directory. -/
def get? (files : FileSystem) (place : Place) : Option Entry :=
  if place = [] then some (.directory false)
  else (files.entries.find? (·.1 == place)).map (·.2)

/-- The file system with another entry at one place. -/
def put (files : FileSystem) (place : Place) (entry : Entry) : FileSystem :=
  { files with entries := (place, entry) :: files.entries.filter (·.1 != place) }

/-- The file system with directories on the whole way to a place. -/
def putDirectories (files : FileSystem) (place : Place) : FileSystem :=
  (List.range place.length).foldl
    (fun files n =>
      let onTheWay := place.take (n + 1)
      if (files.get? onTheWay).isSome then files else files.put onTheWay (.directory false))
    files

/-- The file system with a directory below the working directory. -/
def withDirectory (files : FileSystem) (path : String) : FileSystem :=
  files.putDirectories (files.workingDirectory ++ Path.names path)

/-- The file system with a file below the working directory. -/
def withFile (files : FileSystem) (path : String) (content : ByteArray) : FileSystem :=
  let place := files.workingDirectory ++ Path.names path
  (files.putDirectories place.dropLast).put place (.file content)

/-! ## 4. Ways -/

/-- The place that is meant by a place: a link stands for its target. -/
def follow (files : FileSystem) (place : Place) : Place :=
  match files.get? place with
  | some (.link target) => target
  | _ => place

/-- Whether a name is too long to be looked for in a directory. A fixed
directory has a few names of its own and finds any other one missing. -/
def refusesName (files : FileSystem) (directory : Place) (name : String) : Bool :=
  Path.isNameTooLong name && !(files.get? directory).any (·.isFixedDirectory)

/-- Walks from a directory along names; the last one need not exist. The
root is in itself. -/
def walk (files : FileSystem) : Place → List String → Except FileFault Place
  | here, [] => .ok here
  | here, "." :: names => files.walk here names
  | here, ".." :: names => files.walk here.dropLast names
  | here, [name] => .ok (files.follow (here ++ [name]))
  | here, name :: names =>
    if files.refusesName here name then .error .nameTooLong
    else
      let next := files.follow (here ++ [name])
      match files.get? next with
      | some (.directory _) => files.walk next names
      | some _ => .error .notDirectory
      | none => .error .missing

/-- Where a path leads to. -/
def locate (files : FileSystem) (path : String) : Except FileFault Place :=
  if path = "" then .error .missing
  else if Path.isTooLong path then .error .nameTooLong
  else files.walk (if Path.isAbsolute path then [] else files.workingDirectory) (Path.names path)

/-! ## 5. Reading and writing -/

/-- What a device has to read. -/
def readDevice (files : FileSystem) : Device → Except FileFault ByteArray
  | .terminal => .error .noDevice
  | .standardInput => .ok files.input
  | _ => .ok ByteArray.empty

/-- What a device does with content. Of the standard streams only output is
kept. -/
def writeDevice (files : FileSystem) (content : ByteArray) : Device → Except FileFault FileSystem
  | .full => if content.isEmpty then .ok files else .error .noRoom
  | .terminal => .error .noDevice
  | .standardOutput => .ok { files with output := files.output ++ content }
  | _ => .ok files

/-- The content of the file at a path. -/
def readFile (files : FileSystem) (path : String) : Except FileFault ByteArray := do
  let place ← files.locate path
  if place.getLast?.any (files.refusesName place.dropLast) then throw .nameTooLong
  else
    match files.get? place with
    | none => throw .missing
    | some (.link _) => throw .missing
    | some (.directory _) => throw .isDirectory
    | some (.file content) =>
      if Path.endsInSlash path then throw .notDirectory else return content
    | some (.device device) =>
      if Path.endsInSlash path then throw .notDirectory else files.readDevice device

/-- Writes the file at a path, which is made if it does not exist. -/
def writeFile (files : FileSystem) (path : String) (content : ByteArray) :
    Except FileFault FileSystem := do
  let place ← files.locate path
  if Path.endsInSlash path || (files.get? place).any (·.isDirectory) then throw .isDirectory
  else if place.getLast?.any (files.refusesName place.dropLast) then throw .nameTooLong
  else
    match files.get? place with
    | some (.device device) => files.writeDevice content device
    | some _ => return files.put place (.file content)
    | none =>
      if (files.get? place.dropLast).any (·.isFixedDirectory) then throw .missing
      else return files.put place (.file content)

/-- The files in the working directory itself, not further down, that are
new or have another content than before. -/
def filesChangedSince (before after : FileSystem) : List (String × ByteArray) :=
  after.entries.filterMap fun (place, entry) =>
    match place.getLast?, entry with
    | some name, .file content =>
      if place.dropLast ≠ after.workingDirectory then none
      else if (before.get? place).any (·.holds content) then none
      else some (name, content)
    | _, _ => none

/-! ## 6. Lemmas -/

/-- Only the place that is written to changes. -/
theorem get?_put (files : FileSystem) (place other : Place) (entry : Entry) (h : place ≠ []) :
    (files.put place entry).get? other = if other = place then some entry else files.get? other := by
  unfold put get?
  by_cases hp : other = place
  · simp [hp, h]
  · by_cases ho : other = []
    · simp [ho, h.symm]
    · have hne : (place == other) = false := by simpa using fun e => hp e.symm
      simp only [hp, ho, if_false, List.find?_cons, hne]
      congr 1
      induction files.entries with
      | nil => rfl
      | cons e es ih =>
        by_cases he : e.1 = place
        · simp [he, hne, ih]
        · simp only [List.filter_cons, List.find?_cons, bne_iff_ne, ne_eq, he, not_false_eq_true,
            if_true, ih]

end FileSystem

end DatamodelTypes.Cli
