import RelayProbe.Bytes
import RelayProbe.Fault

set_option autoImplicit false

/-! # Files

A program sees the files below its current directory; outside there is nothing to be found. A path
is followed part by part. Each part is looked for in what the parts before it lead to, which has to
be a directory, also for the parts `.` and `..` and for a slash at the end.
-/

namespace RelayProbe

/-- What stands under a path: a file with its content, or a directory. -/
inductive FileNode
  | file (content : Bytes)
  | directory
  deriving DecidableEq, Repr

/-- The files below the current directory, by the parts of their paths. A directory that holds
something need not be listed. -/
structure FileSystem where
  nodes : List (List Bytes × FileNode) := []

namespace FileSystem

/-- What a path without `.` and `..` leads to. -/
def find? (fs : FileSystem) (path : List Bytes) : Option FileNode :=
  match fs.nodes.lookup path with
  | some n => some n
  | none =>
      if path = [] ∨ fs.nodes.any (fun n => path.isPrefixOf n.1) then some .directory else none

/-- Where following a path has led: to a place below the current directory, or out of it. -/
inductive Location
  | inside (path : List Bytes)
  | outside
  deriving DecidableEq, Repr

namespace Location

/-- Where a path starts: in the current directory, or outside behind a slash. -/
def ofPath (path : Bytes) : Location :=
  if path.head? = some 0x2f then outside else inside []

/-- Where a part of a path leads. Outside no name leads anywhere. -/
def enter (loc : Location) (part : Bytes) : Option Location :=
  if part = [] ∨ part = utf8 "." then some loc
  else
    match loc with
    | inside [] => some (if part = utf8 ".." then outside else inside [part])
    | inside path => some (inside (if part = utf8 ".." then path.dropLast else path ++ [part]))
    | outside => if part = utf8 ".." then some outside else none

end Location

/-- What a file at the end of a path consists of: the file, and the directories on the way. A path
that leads outside has none of them. -/
def along (path : Bytes) (node : FileNode) : List (List Bytes × FileNode) :=
  let walked := (path.splitOn 0x2f).foldlM
    (fun (passed, loc) part => (loc.enter part).map ((loc :: passed), ·)) ([], Location.ofPath path)
  match walked with
  | some (passed, .inside last) =>
      (last, node) :: passed.filterMap fun
        | .inside p => some (p, .directory)
        | .outside => none
  | _ => []

/-- The file system with the given content, by paths from the current directory. Of two contents
for one file the later one counts. -/
def ofPaths (files : List (Bytes × FileNode)) : FileSystem :=
  ⟨files.reverse.flatMap fun f => along f.1 f.2⟩

/-- What stands at a location. Outside there are directories only. -/
def at? (fs : FileSystem) : Location → Option FileNode
  | .inside path => fs.find? path
  | .outside => some .directory

/-- The failures of following a path. -/
def missing : Fault := .system 2
def notDirectory : Fault := .system 20
def isDirectory : Fault := .system 21
def nameTooLong : Fault := .system 36
def nulInPath : Fault := .described .invalidInput "file name contained an unexpected NUL byte"

/-- The failure of reading a file as text that is none. -/
def notText : Fault := .described .invalidData "stream did not contain valid UTF-8"

/-- How many bytes a part of a path, and a whole path, may have. -/
def partLimit : Nat := 255
def pathLimit : Nat := 4095

/-- Follow one part of a path. -/
def follow (fs : FileSystem) (loc : Location) (part : Bytes) : Except Fault Location :=
  if fs.at? loc ≠ some .directory then .error notDirectory
  else if partLimit < part.length then .error nameTooLong
  else
    match loc.enter part with
    | none => .error missing
    | some loc' => if (fs.at? loc').isSome then .ok loc' else .error missing

/-- The content of the file at a path. -/
def read (fs : FileSystem) (path : Bytes) : Except Fault Bytes :=
  if 0 ∈ path then .error nulInPath
  else if pathLimit < path.length then .error nameTooLong
  else if path = [] then .error missing
  else
    match (path.splitOn 0x2f).foldlM fs.follow (Location.ofPath path) with
    | .error f => .error f
    | .ok loc =>
        match fs.at? loc with
        | some (.file content) => .ok content
        | _ => .error isDirectory

end FileSystem

end RelayProbe
