/-!
# PagePilot.Files

A small file system: directories and files below a root, with one of the
directories as the place where relative paths start. It knows what is needed to
write an image: making the directories above it, and writing it.

A path is resolved name by name. `.` stays, `..` goes up, and any other name must
be in a directory.
-/

namespace PagePilot

/-- A directory, or a file with its contents. -/
inductive FileNode
  | directory
  | file (bytes : List UInt8)
deriving Repr, DecidableEq

/-- Why an operation on files failed. -/
inductive FileError
  | notFound
  | exists
  | notADirectory
  | isADirectory
deriving Repr, DecidableEq

/-- The wording of an error. -/
def FileError.message : FileError → String
  | .notFound => "No such file or directory (os error 2)"
  | .exists => "File exists (os error 17)"
  | .notADirectory => "Not a directory (os error 20)"
  | .isADirectory => "Is a directory (os error 21)"

/-- Where something lies: the names from the root on. -/
abbrev Location := List String

/-- All directories and files but the root, by location. -/
structure Files where
  nodes : List (Location × FileNode)
deriving Repr, DecidableEq

namespace Files

/-- The directory where relative paths start. -/
def workingDirectory : Location :=
  ["work"]

/-- A working directory with nothing in it. -/
def empty : Files :=
  ⟨[(workingDirectory, .directory)]⟩

/-- What lies at a location. The root is a directory. -/
def at? (fs : Files) (l : Location) : Option FileNode :=
  if l = [] then some .directory else fs.nodes.lookup l

/-- Puts something at a location. -/
def put (fs : Files) (l : Location) (node : FileNode) : Files :=
  ⟨fs.nodes.filter (fun entry => entry.1 ≠ l) ++ [(l, node)]⟩

/-! ### Paths -/

/-- Cuts a text at every slash. -/
def splitAtSlashes : List Char → List (List Char)
  | [] => [[]]
  | '/' :: rest => [] :: splitAtSlashes rest
  | c :: rest =>
      match splitAtSlashes rest with
      | [] => [[c]]
      | piece :: pieces => (c :: piece) :: pieces

/-- What follows the last name of a path. -/
inductive PathEnd
  | name
  /-- A slash: the path means a directory. -/
  | slash
  /-- An idle dot: the path means the directory itself. -/
  | dot
deriving Repr, DecidableEq

/-- A path: whether it starts at the root, its names without the idle dots, and
what follows them. -/
structure Path where
  absolute : Bool
  names : List String
  ending : PathEnd
deriving Repr, DecidableEq

/-- Reads a path. Empty names, and dots behind another name, are idle; a dot in
front is a name. -/
def Path.ofText (text : String) : Path :=
  let pieces := (splitAtSlashes text.toList).map String.ofList
  let absolute : Bool := text.toList.head? = some '/'
  let spoken := pieces.filter (· ≠ "")
  let named := spoken.filter (· ≠ ".")
  let names := if !absolute ∧ spoken.head? = some "." then "." :: named else named
  let ending : PathEnd :=
    if spoken.getLast? = some "." ∧ (absolute ∨ 1 < spoken.length) then .dot
    else if pieces.getLast? = some "" then .slash
    else .name
  { absolute, names, ending }

/-- The path of what a path lies in: nothing when there is no name to drop. -/
def Path.parent? (p : Path) : Option Path :=
  if p.names = [] then none else some { p with names := p.names.dropLast, ending := .name }

/-- Follows names from a location; all of them must be directories. -/
def walk (fs : Files) : Location → List String → Except FileError Location
  | here, [] => .ok here
  | here, name :: rest =>
      if name = "." then walk fs here rest
      else if name = ".." then walk fs here.dropLast rest
      else
        match fs.at? (here ++ [name]) with
        | some .directory => walk fs (here ++ [name]) rest
        | some (.file _) => .error .notADirectory
        | none => .error .notFound

/-- Where a path starts. -/
def start (p : Path) : Location :=
  if p.absolute then [] else workingDirectory

/-- Whether a path leads to a directory. -/
def isDirectory (fs : Files) (p : Path) : Bool :=
  match fs.walk (start p) p.names with
  | .ok _ => true
  | .error _ => false

/-- Makes the directory that a path names. -/
def makeDirectory (fs : Files) (p : Path) : Except FileError Files :=
  match p.names.getLast? with
  | none => .error .exists
  | some name => do
      let above ← fs.walk (start p) p.names.dropLast
      if name = "." ∨ name = ".." then .error .exists
      else
        match fs.at? (above ++ [name]) with
        | some _ => .error .exists
        | none => .ok (fs.put (above ++ [name]) .directory)

/-- Makes a directory and those above it, as far as they are missing; `tries`
bounds how far up. A directory that is there already is no error, and what was
made before a failure stays. -/
def makeDirectories : Nat → Path → Files → Files × Except FileError Unit
  | 0, _, fs => (fs, .error .notFound)
  | tries + 1, p, fs =>
      if p.names = [] ∧ !p.absolute then (fs, .ok ())
      else
        let orThere (fs : Files) (e : FileError) : Files × Except FileError Unit :=
          if fs.isDirectory p then (fs, .ok ()) else (fs, .error e)
        match fs.makeDirectory p with
        | .ok made => (made, .ok ())
        | .error .notFound =>
            match p.parent? with
            | none => (fs, .error .notFound)
            | some above =>
                match makeDirectories tries above fs with
                | (fs, .error e) => (fs, .error e)
                | (fs, .ok ()) =>
                    match fs.makeDirectory p with
                    | .ok made => (made, .ok ())
                    | .error e => orThere fs e
        | .error e => orThere fs e

/-- Writes a file, in place of one that is there. -/
def writeFile (fs : Files) (p : Path) (bytes : List UInt8) : Except FileError Files :=
  match p.names.getLast? with
  | none => .error (if p.absolute then .isADirectory else .notFound)
  | some name => do
      let above ← fs.walk (start p) p.names.dropLast
      if p.ending = .dot then
        let _ ← fs.walk above [name]
        .error .isADirectory
      else if name = "." ∨ name = ".." ∨ p.ending = .slash then .error .isADirectory
      else
        match fs.at? (above ++ [name]) with
        | some .directory => .error .isADirectory
        | _ => .ok (fs.put (above ++ [name]) (.file bytes))

/-- Writes an image: first the directories above it, then the file. -/
def writeImage (fs : Files) (path : String) (bytes : List UInt8) : Files × Except FileError Unit :=
  let p := Path.ofText path
  let (fs, made) :=
    match p.parent? with
    | some above => makeDirectories (above.names.length + 1) above fs
    | none => (fs, .ok ())
  match made with
  | .error e => (fs, .error e)
  | .ok () =>
      match fs.writeFile p bytes with
      | .error e => (fs, .error e)
      | .ok fs => (fs, .ok ())

/-- What lies below the working directory, with paths from there. -/
def listing (fs : Files) : List (String × Option (List UInt8)) :=
  fs.nodes.filterMap fun entry =>
    if workingDirectory.isPrefixOf entry.1 ∧ entry.1 ≠ workingDirectory then
      let path := "/".intercalate (entry.1.drop workingDirectory.length)
      match entry.2 with
      | .directory => some (path, none)
      | .file bytes => some (path, some bytes)
    else none

end Files

end PagePilot
