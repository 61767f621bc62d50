/-
  Paths of the host, and its files as far as they have been read.

  A path is a sequence of names between slashes.  Cleaning removes empty names and dots and resolves
  double dots against the name before them.

  A file is found by following its path name by name: each name but the last has to lead to a
  directory, also where a double dot comes next.  Outside the working directory there are
  directories, but no known files.
-/

namespace KernelGraph.HostPath

/-- The names of a path, between its slashes. -/
def names : List Char → List (List Char)
  | [] => [[]]
  | c :: cs =>
    if c = '/' then [] :: names cs
    else
      match names cs with
      | [] => [[c]]
      | n :: ns => (c :: n) :: ns

/-- True for a path that begins at the root. -/
def isAbsolute (path : String) : Bool := path.toList.head? = some '/'

/-- Adds a name to the cleaned names before it, the last of which comes first. -/
def addName (rooted : Bool) (before : List (List Char)) (name : List Char) : List (List Char) :=
  if name = [] || name = ['.'] then before
  else if name ≠ ['.', '.'] then name :: before
  else
    match before with
    | [] => if rooted then [] else [name]
    | last :: rest => if last = ['.', '.'] then name :: before else rest

/-- Joins names with slashes. -/
def slashed : List (List Char) → List Char
  | [] => []
  | [n] => n
  | n :: ns => n ++ '/' :: slashed ns

/-- The shortest path that names the same file. -/
def clean (path : String) : String :=
  let rooted := isAbsolute path
  let kept := ((names path.toList).foldl (addName rooted) []).reverse
  if rooted then String.ofList ('/' :: slashed kept)
  else if kept.isEmpty then "."
  else String.ofList (slashed kept)

/-- The directory of a path. -/
def directory (path : String) : String :=
  clean (String.ofList ((path.toList.reverse.dropWhile (· ≠ '/')).reverse))

/-- A path below a directory. -/
def join (dir path : String) : String :=
  if dir = "" && path = "" then ""
  else if dir = "" then clean path
  else if path = "" then clean dir
  else clean (dir ++ "/" ++ path)

/-- The directories that a cleaned path lies in. -/
def parents (path : String) : List String :=
  let ns := names path.toList
  (List.range (ns.length - 1)).map fun i => String.ofList (slashed (ns.take (i + 1)))

end KernelGraph.HostPath

namespace KernelGraph

/-- What is found at a path of the host. -/
inductive HostFile
  | text (s : String)
  | missing
  | directory
  /-- A part of the path is a file. -/
  | belowFile
  /-- The path, or a name in it, is too long. -/
  | tooLong
  /-- The path can be no path. -/
  | invalid
  deriving DecidableEq, Repr, Inhabited

/-- Why a file cannot be read. -/
inductive FileError
  | missing (path : String)
  | directory (path : String)
  | belowFile (path : String)
  | tooLong (path : String)
  | invalid (path : String)
  deriving DecidableEq, Repr

/-- The message of the error. -/
def FileError.message : FileError → String
  | missing path => "open " ++ path ++ ": no such file or directory"
  | directory path => "read " ++ path ++ ": is a directory"
  | belowFile path => "open " ++ path ++ ": not a directory"
  | tooLong path => "open " ++ path ++ ": file name too long"
  | invalid path => "open " ++ path ++ ": invalid argument"

namespace HostFile

/-- The most bytes of a path. -/
def pathLimit : Nat := 4095

/-- The most bytes of a name. -/
def nameLimit : Nat := 255

/-- What is found at a path whatever files there are. -/
def ofPath? (path : String) : Option HostFile :=
  if path.toList.contains (Char.ofNat 0) then some .invalid
  else if path = "" then some .missing
  else if pathLimit < path.utf8ByteSize then some .tooLong
  else none

/-- A place that a path leads to. -/
inductive Place
  /-- The names from the working directory on; none for the working directory itself. -/
  | inside (names : List (List Char))
  /-- A directory that is not in the working directory. -/
  | outside
  deriving DecidableEq, Repr

/-- The directory around a directory. -/
def Place.parent : Place → Place
  | inside [] => outside
  | inside names => inside names.dropLast
  | outside => outside

/-- What is found in the working directory when exactly the given files exist. -/
def atNames (files : List (String × String)) (names : List (List Char)) : HostFile :=
  let path := String.ofList (HostPath.slashed names)
  match files.lookup path with
  | some s => .text s
  | none =>
    if names.isEmpty || files.any (fun f => (HostPath.parents f.1).contains path) then .directory
    else .missing

/-- Goes on from a place, and what is found there, by one name. -/
def follow (files : List (String × String)) (here : Place × HostFile) (name : List Char) :
    Place × HostFile :=
  let (place, found) := here
  match found with
  | directory =>
    if name = [] || name = ['.'] then here
    else if name = ['.', '.'] then (place.parent, directory)
    else if nameLimit < (String.ofList name).utf8ByteSize then (place, tooLong)
    else
      match place with
      | .inside names => (.inside (names ++ [name]), atNames files (names ++ [name]))
      | .outside => (place, missing)
  | text _ => (place, belowFile)
  | _ => here

/-- What is found at a path when exactly the given files exist. -/
def ofList (files : List (String × String)) (path : String) : HostFile :=
  let files := files.map fun (p, s) => (HostPath.clean p, s)
  let start := if HostPath.isAbsolute path then Place.outside else .inside []
  (ofPath? path).getD
    ((HostPath.names path.toList).foldl (follow files) (start, directory)).2

/-- The text of a file. -/
def read (file : HostFile) (path : String) : Except FileError String :=
  match file with
  | text s => .ok s
  | missing => .error (.missing path)
  | directory => .error (.directory path)
  | belowFile => .error (.belowFile path)
  | tooLong => .error (.tooLong path)
  | invalid => .error (.invalid path)

end HostFile

end KernelGraph
