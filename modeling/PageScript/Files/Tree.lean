import PageScript.Files.Path
import PageScript.Error

/-!
# File trees

The files that a program sees: a tree of directories and files, and a working directory from which
relative paths go.  A file holds a text, or bytes that are no text.  Going along a path may fail in
the ways that a file system names, and `Fault.message` gives their texts.
-/

namespace PageScript

/-- What stands at a place of a file tree. -/
inductive Entry where
  | directory
  /-- A file with its text; bytes that are no text count as none. -/
  | file (text : Option String)
deriving DecidableEq, Repr

/-- Directories and files by the names that lead to them from the root. -/
structure FileTree where
  here : List String
  /-- What there is; the root itself is not listed. -/
  entries : List (List String × Entry)
deriving Repr

namespace FileTree

/-- Why a path leads to nothing that can be read or written. -/
inductive Fault where
  | missing
  /-- A directory stands where a file is needed. -/
  | directory
  /-- A file stands where a directory is needed. -/
  | noDirectory
  | alreadyThere
  /-- A name or the path is too long. -/
  | tooLong
  | nul
  | noText
deriving DecidableEq, Repr

/-- The text of a fault. -/
def Fault.message : Fault → String
  | .missing => "No such file or directory (os error 2)"
  | .directory => "Is a directory (os error 21)"
  | .noDirectory => "Not a directory (os error 20)"
  | .alreadyThere => "File exists (os error 17)"
  | .tooLong => "File name too long (os error 36)"
  | .nul => "file name contained an unexpected NUL byte"
  | .noText => "stream did not contain valid UTF-8"

/-- A fault as an error. -/
def Fault.error (f : Fault) : Error := .io f.message

/-- What stands at a place. -/
def entry? (tree : FileTree) (place : List String) : Option Entry :=
  if place.isEmpty then some .directory else tree.entries.lookup place

/-- Goes along names from a place, which must be a directory as long as a name follows. -/
def walk (tree : FileTree) (place : List String) : List String → Except Fault (List String)
  | [] => .ok place
  | name :: rest =>
    match tree.entry? place with
    | none => .error .missing
    | some (.file _) => .error .noDirectory
    | some .directory =>
      if name = "" ∨ name = "." then tree.walk place rest
      else if name = ".." then tree.walk place.dropLast rest
      else if name.utf8ByteSize > 255 then .error .tooLong
      else tree.walk (place ++ [name]) rest

/-- The place that a path names, if every directory on the way exists. -/
def locate (tree : FileTree) (path : String) : Except Fault (List String) :=
  if path.toList.contains '\x00' then .error Fault.nul
  else if path.isEmpty then .error .missing
  else if path.utf8ByteSize ≥ 4096 then .error .tooLong
  else
    let names := (Text.splitAll '/' path.toList).map String.ofList
    tree.walk (if Path.isAbsolute path then [] else tree.here) names

/-- The text of a file. -/
def read (tree : FileTree) (path : String) : Except Fault String :=
  match tree.locate path with
  | .error f => .error f
  | .ok place =>
    match tree.entry? place with
    | none => .error .missing
    | some .directory => .error .directory
    | some (.file none) => .error .noText
    | some (.file (some text)) => .ok text

/-- A place set to an entry; an old place keeps its position. -/
def put (tree : FileTree) (place : List String) (e : Entry) : FileTree :=
  { tree with entries := go tree.entries }
where
  /-- The list of entries with one set. -/
  go : List (List String × Entry) → List (List String × Entry)
    | [] => [(place, e)]
    | (p, old) :: rest => if p = place then (p, e) :: rest else (p, old) :: go rest

/-- Makes every directory along the names that is not there yet. -/
def makeDirectories (tree : FileTree) (place : List String) :
    List String → Except Fault FileTree
  | [] => .ok tree
  | name :: rest =>
    if name = "" ∨ name = "." then tree.makeDirectories place rest
    else if name = ".." then tree.makeDirectories place.dropLast rest
    else if name.utf8ByteSize > 255 then .error .tooLong
    else
      let next := place ++ [name]
      match tree.entry? next with
      | some .directory => tree.makeDirectories next rest
      | some (.file _) => .error (if rest.isEmpty then .alreadyThere else .noDirectory)
      | none => (tree.put next .directory).makeDirectories next rest

/-- Writes a text to a file, making the directories that lead to it. -/
def write (tree : FileTree) (path text : String) : Except Fault FileTree :=
  let start := if Path.isAbsolute path then [] else tree.here
  let made := match Path.parent? path with
    | none => Except.ok tree
    | some dir =>
      if dir.toList.contains '\x00' then .error Fault.nul
      else tree.makeDirectories start ((Text.splitAll '/' dir.toList).map String.ofList)
  match made with
  | .error f => .error f
  | .ok tree =>
    match tree.locate path with
    | .error f => .error f
    | .ok place =>
      if path.toList.getLast? = some '/' then .error .directory
      else match tree.entry? place with
        | some .directory => .error .directory
        | _ => .ok (tree.put place (.file (some text)))

/-- A tree that holds the given files below its working directory. -/
def ofFiles (here : List String) (files : List (String × Option String)) : FileTree :=
  files.foldl add ⟨here, (List.range here.length).map fun n => (here.take (n + 1), .directory)⟩
where
  /-- One more file, with its directories. -/
  add (tree : FileTree) (file : String × Option String) : FileTree :=
    let names := (Text.splitAll '/' file.1.toList).map String.ofList
    match tree.makeDirectories tree.here names.dropLast with
    | .ok tree => tree.put (tree.here ++ names) (.file file.2)
    | .error _ => tree

/-- The files below the working directory, by relative path. -/
def filesBelow (tree : FileTree) : List (String × Option String) :=
  tree.entries.filterMap fun (place, e) =>
    match e with
    | .directory => none
    | .file text =>
      if place.take tree.here.length = tree.here then
        some (Text.join "/" (place.drop tree.here.length), text)
      else none

end FileTree

end PageScript
