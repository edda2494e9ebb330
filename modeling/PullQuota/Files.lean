/-!
A tree of files under one working directory.
-/

namespace PullQuota

/-- The names on the way from the working directory. Two dots in front lead above it. -/
abbrev FilePath := List String

inductive FileNode
  | file (content : List UInt8)
  | directory
  deriving DecidableEq

inductive FileError
  | missing
  | notDirectory
  | isDirectory
  | nameTooLong
  deriving DecidableEq

namespace FileError

def reason : FileError → String
  | missing => "ENOENT: no such file or directory"
  | notDirectory => "ENOTDIR: not a directory"
  | isDirectory => "EISDIR: illegal operation on a directory"
  | nameTooLong => "ENAMETOOLONG: name too long"

/-- A file is opened by its path. -/
def openMessage (path : String) (error : FileError) : String :=
  error.reason ++ ", open '" ++ path ++ "'"

/-- A directory can be opened to be read, but not read. -/
def readMessage (path : String) : FileError → String
  | isDirectory => isDirectory.reason ++ ", read"
  | error => error.openMessage path

end FileError

/-- Each file and directory under its path; the working directory itself is always there, and so are
those above it. -/
structure Files where
  nodes : List (FilePath × FileNode) := []
  deriving DecidableEq

namespace Files

/-- The directory of a file or directory. -/
def parent (path : FilePath) : FilePath :=
  if path.getLast?.all (· == "..") then path ++ [".."] else path.dropLast

def node? (files : Files) (path : FilePath) : Option FileNode :=
  if path.all (· == "..") then some .directory else (files.nodes.find? (·.1 == path)).map (·.2)

def set (files : Files) (path : FilePath) (node : FileNode) : Files :=
  if files.nodes.any (·.1 == path) then
    ⟨files.nodes.map fun known => if known.1 == path then (path, node) else known⟩
  else ⟨files.nodes ++ [(path, node)]⟩

/-- The parts of a written path. -/
def parts (path : String) : List String :=
  (path.toList.splitOn '/').map String.ofList

/-- Follows the parts of a path. Every part but the last must lead to a directory, and a name has at
most 255 bytes. -/
def follow (files : Files) (place : FilePath) : List String → Except FileError FilePath
  | [] => .ok place
  | part :: rest =>
    match files.node? place with
    | none => .error .missing
    | some (.file _) => .error .notDirectory
    | some .directory =>
      if part = "" ∨ part = "." then files.follow place rest
      else if part = ".." then files.follow (parent place) rest
      else if 255 < part.utf8ByteSize then .error .nameTooLong
      else files.follow (place ++ [part]) rest

/-- Follows a path of at most 4095 bytes. -/
def locate (files : Files) (path : String) : Except FileError FilePath :=
  if path = "" then .error .missing
  else if 4095 < path.utf8ByteSize then .error .nameTooLong
  else files.follow [] (parts path)

def read (files : Files) (path : String) : Except FileError (List UInt8) :=
  match files.locate path with
  | .error error => .error error
  | .ok place =>
    match files.node? place with
    | none => .error .missing
    | some .directory => .error .isDirectory
    | some (.file content) => .ok content

def withoutSlashes (path : String) : String :=
  String.ofList (path.toList.reverse.dropWhile (· == '/')).reverse

/-- Appends to a file, or makes it. A path that ends in a slash is never that of a file. -/
def append (files : Files) (path : String) (content : List UInt8) : Except FileError Files :=
  match files.locate (withoutSlashes path) with
  | .error error => .error error
  | .ok place =>
    if path.toList.getLast? = some '/' then .error .isDirectory
    else
      match files.node? place with
      | some .directory => .error .isDirectory
      | some (.file known) => .ok (files.set place (.file (known ++ content)))
      | none => .ok (files.set place (.file content))

/-- Follows the parts of a path, and makes the directories that are not there. -/
def makeWay (files : Files) (place : FilePath) : List String → Files × FilePath
  | [] => (files, place)
  | part :: rest =>
    if part = "" ∨ part = "." then files.makeWay place rest
    else if part = ".." then files.makeWay (parent place) rest
    else
      let place := place ++ [part]
      (if (files.node? place).isSome then files else files.set place .directory).makeWay place rest

def makeDirectory (files : Files) (path : String) : Files :=
  (files.makeWay [] (parts path)).1

/-- Writes a whole file, with the directories on its way. -/
def write (files : Files) (path : String) (content : List UInt8) : Files :=
  let names := parts (withoutSlashes path)
  let (files, place) := files.makeWay [] names.dropLast
  files.set (place ++ names.getLast?.toList) (.file content)

/-- Removes a file, or a directory with all that is in it. -/
def remove (files : Files) (path : String) : Files :=
  match files.locate path with
  | .error _ => files
  | .ok place => ⟨files.nodes.filter fun node => !place.isPrefixOf node.1⟩

end Files

/-- A change of the files that comes from outside. -/
inductive FileChange
  | write (path : String) (content : List UInt8)
  | remove (path : String)
  | makeDirectory (path : String)

def Files.change (files : Files) : FileChange → Files
  | .write path content => files.write path content
  | .remove path => files.remove path
  | .makeDirectory path => files.makeDirectory path

end PullQuota
