import CallReach.Data.Entries
import CallReach.Files.Path

/-!
# Files and folders

A `Disk` holds files and folders by their location, which is the list of names from the root, and
knows the folder that relative paths start from.  Following a path checks at every part that it
stands in a folder, so a path through a file or through nothing leads nowhere, even if a pair of dots
would lead out again.
-/

namespace CallReach

open CallReach.Data (Entries)

/-- Why a file cannot be used. -/
inductive FileError where
  /-- There is nothing at a path. -/
  | notFound
  /-- There is a folder where a file is needed. -/
  | isFolder
  /-- There is a file where a folder is needed. -/
  | notAFolder
  /-- There is something where a folder should be made. -/
  | alreadyExists
  /-- A path holds a null character. -/
  | nullCharacter
  /-- A file is not text in UTF-8. -/
  | notText
  deriving DecidableEq, Repr

/-- What there is at a location. -/
inductive Item where
  | folder
  | file (bytes : ByteArray)

/-- Files and folders by location. -/
structure Disk where
  items : Entries (List String) Item := []
  /-- The folder that relative paths start from. -/
  here : List String := []

namespace Disk

/-- What there is at a location; the root is a folder. -/
def item? (d : Disk) (location : List String) : Option Item :=
  if location.isEmpty then some .folder else d.items.get? location

/-- Puts something at a location. -/
def put (d : Disk) (location : List String) (item : Item) : Disk :=
  { d with items := d.items.put location item }

/-- The path of the folder that relative paths start from. -/
def herePath (d : Disk) : String := Path.render "/" d.here

/-- The location one part further on. -/
def onward (location : List String) (part : String) : List String :=
  if part == "" || part == "." then location
  else if part == ".." then location.dropLast
  else location ++ [part]

/-- Follows the parts of a path.  Every location on the way must be a folder; there may be nothing
at the end. -/
def follow (d : Disk) : (location parts : List String) → Except FileError (List String)
  | location, [] => .ok location
  | location, part :: rest =>
    match d.item? location with
    | some .folder => follow d (onward location part) rest
    | some (.file _) => .error .notAFolder
    | none => .error .notFound

/-- The location that a path leads to. -/
def locate (d : Disk) (path : String) : Except FileError (List String) :=
  if path.toList.contains '\x00' then .error .nullCharacter
  else if path.isEmpty then .error .notFound
  else d.follow (if Path.isAbsolute path then [] else d.here) (Path.parts path)

/-- What a path leads to. -/
def find (d : Disk) (path : String) : Except FileError Item := do
  match d.item? (← d.locate path) with
  | some item => pure item
  | none => throw .notFound

/-- Whether a path leads to something. -/
def contains (d : Disk) (path : String) : Bool :=
  match d.find path with
  | .ok _ => true
  | .error _ => false

/-- Whether a path leads to a folder. -/
def hasFolder (d : Disk) (path : String) : Bool :=
  match d.find path with
  | .ok .folder => true
  | _ => false

/-- The bytes of a file. -/
def read (d : Disk) (path : String) : Except FileError ByteArray := do
  match ← d.find path with
  | .file bytes => pure bytes
  | .folder => throw .isFolder

/-- Characters with every line ending turned into a line feed. -/
def plainLines : List Char → List Char
  | [] => []
  | '\r' :: '\n' :: rest => '\n' :: plainLines rest
  | '\r' :: rest => '\n' :: plainLines rest
  | c :: rest => c :: plainLines rest

/-- The text of a file. -/
def readText (d : Disk) (path : String) : Except FileError String := do
  match String.fromUTF8? (← d.read path) with
  | some text => pure (String.ofList (plainLines text.toList))
  | none => throw .notText

/-- Writes a file, given what its bytes become. -/
def update (d : Disk) (path : String) (change : ByteArray → ByteArray) : Except FileError Disk := do
  let location ← d.locate path
  match d.item? location with
  | some .folder => throw .isFolder
  | some (.file bytes) => pure (d.put location (.file (change bytes)))
  | none => pure (d.put location (.file (change .empty)))

/-- Writes a text in place of what a file holds. -/
def write (d : Disk) (path text : String) : Except FileError Disk :=
  d.update path fun _ => text.toUTF8

/-- Writes a text after what a file holds. -/
def append (d : Disk) (path text : String) : Except FileError Disk :=
  d.update path fun bytes => bytes ++ text.toUTF8

/-- Makes a folder in a folder that is there. -/
def makeFolder (d : Disk) (path : String) : Except FileError Disk := do
  let location ← d.locate path
  match d.item? location with
  | some _ => throw .alreadyExists
  | none => pure (d.put location .folder)

/-- Makes a folder unless it is there. -/
def ensureOne (d : Disk) (path : String) : Except FileError Disk :=
  match d.makeFolder path with
  | .error .notFound => .error .notFound
  | .error cause => if d.hasFolder path then .ok d else .error cause
  | .ok d => .ok d

/-- Makes a folder and the folders above it, for those that are not there.  The names are given
backwards.  What was made before a failure stays. -/
def ensureNames (root : String) : (names : List String) → Disk → Disk × Except FileError Unit
  | names, d =>
    let path := Path.render root names.reverse
    match d.ensureOne path, names with
    | .ok d, _ => (d, .ok ())
    | .error .notFound, _ :: above =>
      match ensureNames root above d with
      | (d, .error cause) => (d, .error cause)
      | (d, .ok ()) =>
        match d.ensureOne path with
        | .ok d => (d, .ok ())
        | .error cause => (d, .error cause)
    | .error cause, _ => (d, .error cause)

/-- Makes the folder of a path and the folders above it, for those that are not there. -/
def ensureFolder (d : Disk) (path : String) : Disk × Except FileError Unit :=
  ensureNames (Path.root path) (Path.names path).reverse d

/-- Puts something at a path below the working folder, with folders above it. -/
def install (d : Disk) (path : String) (item : Item) : Disk :=
  let location := d.here ++ Path.names path
  let above := (List.range location.length).drop 1 |>.map (location.take ·)
  (above.foldl (fun d folder => if (d.item? folder).isSome then d else d.put folder .folder) d).put
    location item

end Disk

end CallReach
