import CallReach.Text.Case
import CallReach.Text.Split

/-!
# Paths

A path is a text whose parts are separated by slashes; one that starts with a slash is absolute.
`normalize` removes empty parts and dots and lets a pair of dots cancel the part before it.  A path
that starts with exactly two slashes keeps both of them.
-/

namespace CallReach.Path

/-- The parts of a path. -/
def parts (path : String) : List String := Text.split '/' path

/-- Whether a path starts at the root. -/
def isAbsolute (path : String) : Bool := path.toList.head? == some '/'

/-- The slashes a path starts with: none, one, or two when there are exactly two. -/
def root (path : String) : String :=
  match path.toList with
  | '/' :: '/' :: '/' :: _ => "/"
  | '/' :: '/' :: _ => "//"
  | '/' :: _ => "/"
  | _ => ""

/-- The parts that name something: not empty and no single dot. -/
def names (path : String) : List String :=
  (parts path).filter fun part => !(part == "" || part == ".")

/-- Adds a part to parts that are given backwards.  A pair of dots removes the part before it; at
the root it is dropped, and before everything else in a relative path it is kept. -/
def addPart (absolute : Bool) (before : List String) (part : String) : List String :=
  if part == ".." then
    match before with
    | [] => if absolute then [] else [part]
    | last :: rest => if last == ".." then part :: before else rest
  else part :: before

/-- The parts of a path without pairs of dots, where they can be removed. -/
def plainParts (absolute : Bool) (list : List String) : List String :=
  (list.foldl (addPart absolute) []).reverse

/-- A path of a root and parts; one without either is a dot. -/
def render (root : String) (list : List String) : String :=
  let path := root ++ "/".intercalate list
  if path.isEmpty then "." else path

/-- The shortest form of a path. -/
def normalize (path : String) : String :=
  render (root path) (plainParts (isAbsolute path) (names path))

/-- A path seen from a folder. -/
def join (folder path : String) : String :=
  if isAbsolute path || folder.isEmpty then path
  else if folder.toList.getLast? == some '/' then folder ++ path
  else folder ++ "/" ++ path

/-- The path from the root: an absolute path is kept as it is, another is seen from a folder. -/
def absolute (folder path : String) : String :=
  if isAbsolute path then path else normalize (join folder path)

/-- The characters after the last slash. -/
def fileName (path : String) : String := (parts path).getLast?.getD ""

/-- The part of a path before its last slash, without slashes at the end unless it has nothing
else. -/
def folderName (path : String) : String :=
  let before := ((path.toList.reverse).dropWhile (· != '/'))
  let stripped := before.dropWhile (· == '/')
  String.ofList (if stripped.isEmpty then before else stripped).reverse

/-- Whether a path ends with one of some endings, upper and lower case being the same. -/
def endsWithAny (path : String) (endings : List String) : Bool :=
  let name := (Text.lower path).toList
  endings.any fun ending => ending.toList.isSuffixOf name

/-- Whether a path is that of a source text. -/
def isSource (path : String) : Bool := endsWithAny path [".py"]

/-- Whether a path is that of a text in JSON. -/
def isJson (path : String) : Bool := endsWithAny path [".json"]

/-- Whether a path is that of a description of a program. -/
def isDescription (path : String) : Bool := endsWithAny path [".yaml", ".yml", ".json"]

end CallReach.Path
