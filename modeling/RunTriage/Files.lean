import RunTriage.SortedTable

/-!
Contract: the files that triage asks for.

Owns:
- what is known of a path: the contents of a file, or the names of the files in a
  directory;
- texts of paths, which are joined and taken apart without asking for files;
- files held in memory, with paths that lead through directories.

Does not own: reading from a disk, which is in `RunTriage.Main`.
-/

namespace RunTriage

/-- What is known of paths. -/
structure Files where
  /-- The contents of a file that can be read. -/
  contents? : String → Option (List UInt8)
  /-- The names of the files in a directory, in any order. -/
  listing? : String → Option (List String)

namespace Files

/-- There is a file or a directory at the path. -/
def holds (files : Files) (path : String) : Bool :=
  (files.contents? path).isSome || (files.listing? path).isSome

/-- The text in a file. -/
def text? (files : Files) (path : String) : Option String :=
  (files.contents? path).bind fun bytes => String.fromUTF8? ⟨bytes.toArray⟩

end Files

/-! ## Texts of paths -/

namespace PathText

/-- The parts between slashes. -/
def parts (path : String) : List String := path.splitOn "/"

/-- The part stands for the directory it is in. -/
def isIdle (part : String) : Bool := part.isEmpty || part = "."

def isAbsolute (path : String) : Bool := path.startsWith "/"

/-- The last part with a meaning of its own, if that is a name. -/
def fileName? (path : String) : Option String :=
  match (parts path).reverse.dropWhile isIdle with
  | name :: _ => if name = ".." then none else some name
  | [] => none

/-- Parts, the last one first, without those at the end that mean nothing. The first
part of a path is kept if it is a single point. -/
def dropIdle : List String → List String
  | [] => []
  | [first] => if first.isEmpty then [] else [first]
  | part :: rest => if isIdle part then dropIdle rest else part :: rest

/-- The directory that a path names something in. -/
def parent (path : String) : String :=
  let start := dropIdle ((dropIdle (parts path).reverse).drop 1)
  if start.isEmpty && isAbsolute path then "/"
  else "/".intercalate start.reverse

/-- A path inside a directory. -/
def join (directory path : String) : String :=
  if isAbsolute path || directory.isEmpty then path
  else if directory.endsWith "/" then directory ++ path
  else directory ++ "/" ++ path

/-- What follows the last point of a name, unless the name starts with that point. -/
def extension? (name : String) : Option String :=
  match name.splitOn "." with
  | [] | [_] | ["", _] => none
  | pieces => pieces.getLast?

end PathText

/-! ## Files in memory -/

/-- Files with the parts of their paths below the current directory. -/
structure FileTree where
  entries : List (List String × List UInt8)
deriving DecidableEq, Repr, Inhabited

namespace FileTree

def empty : FileTree := ⟨[]⟩

/-- Write a file, in place of an earlier one at the same path. -/
def write (tree : FileTree) (path : String) (bytes : List UInt8) : FileTree :=
  let location := (PathText.parts path).filter fun part => !PathText.isIdle part
  ⟨tree.entries.filter (fun entry => entry.1 != location) ++ [(location, bytes)]⟩

def fileAt? (tree : FileTree) (location : List String) : Option (List UInt8) :=
  tree.entries.lookup location

/-- There is a directory at the location: the current one, or one that holds files at
some depth. -/
def isDirectory (tree : FileTree) (location : List String) : Bool :=
  location.isEmpty || tree.entries.any fun entry =>
    location.length < entry.1.length && entry.1.take location.length = location

/-- Where one more part leads from a directory. -/
def step? (tree : FileTree) (location : List String) (part : String) : Option (List String) :=
  if !tree.isDirectory location then none
  else if PathText.isIdle part then some location
  else if part = ".." then
    if location.isEmpty then none else some location.dropLast
  else some (location ++ [part])

/-- The location that a path leads to. -/
def locate? (tree : FileTree) (path : String) : Option (List String) :=
  if path.isEmpty || PathText.isAbsolute path then none
  else (PathText.parts path).foldlM tree.step? []

/-- Names of the files in a directory. -/
def namesIn (tree : FileTree) (location : List String) : List String :=
  tree.entries.filterMap fun entry =>
    if entry.1.dropLast = location then entry.1.getLast? else none

def files (tree : FileTree) : Files where
  contents? path := (tree.locate? path).bind tree.fileAt?
  listing? path := (tree.locate? path).bind fun location =>
    if tree.isDirectory location then some (tree.namesIn location) else none

end FileTree

end RunTriage
