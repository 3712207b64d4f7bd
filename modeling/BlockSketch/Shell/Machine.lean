import BlockSketch.Assoc
import BlockSketch.Shell.Bytes

/-!
# BlockSketch.Shell.Machine

What paths lead to on a machine: the few folders, devices and programs that are
always there, and the files that scripts write.
-/

namespace BlockSketch.Shell

def baseFolders : List String :=
  ["/", "/bin", "/dev", "/dev/fd", "/etc", "/home", "/root", "/tmp", "/usr", "/usr/bin"]

/-- The devices of a machine that are no folders. -/
def baseDevices : List String :=
  ["/dev/full", "/dev/null", "/dev/random", "/dev/stderr", "/dev/stdin", "/dev/stdout",
   "/dev/tty", "/dev/urandom", "/dev/zero"]

def basePrograms : List String := ["dash", "echo", "false", "printf", "sh", "true"]

def programFolders : List String := ["/bin", "/usr/bin"]

/-- What a path leads to. -/
inductive Place where
  | folder
  | program (name : Bytes)
  -- a device, which holds nothing and keeps nothing
  | device
  | descriptor (fd : Nat)
  | written (content : Bytes)
  | missing
  -- nothing, because a file stands where a folder should
  | underFile
  -- nothing, because a name is too long
  | tooLong
deriving DecidableEq, Repr

/-- The files that scripts wrote, by path. -/
abbrev Disk := Assoc Bytes Bytes

def maxFileName : Nat := 255

def maxPath : Nat := 4095

def pathNames (folder path : Bytes) : List Bytes :=
  let whole := if path.head? = some '/' then path else folder ++ '/' :: path
  (whole.splitOn '/').foldl (fun names name =>
    if name.isEmpty || name = ['.'] then names
    else if name = ['.', '.'] then names.dropLast
    else names ++ [name]) []

def rootedPath (names : List Bytes) : Bytes := '/' :: (names.intersperse ['/']).flatten

/-- A path from the root, as seen from a folder. -/
def absolutePath (folder path : Bytes) : Bytes := rootedPath (pathNames folder path)

/-- The name of a path that is directly in a folder, both from the root. -/
def nameIn? (folder path : Bytes) : Option Bytes :=
  let front := if folder = ['/'] then folder else folder ++ ['/']
  let name := path.drop front.length
  if front.isPrefixOf path && !name.isEmpty && !name.contains '/' then some name else none

/-- The name of a program at a path from the root. -/
def programAt? (path : Bytes) : Option Bytes :=
  (programFolders.findSome? fun f => nameIn? (bytes f) path).filter fun name =>
    basePrograms.any fun p => p.toList = name

/-- The descriptor at a path from the root. -/
def descriptorAt? (path : Bytes) : Option Nat :=
  if path = bytes "/dev/stdin" then some 0
  else if path = bytes "/dev/stdout" then some 1
  else if path = bytes "/dev/stderr" then some 2
  else match nameIn? (bytes "/dev/fd") path with
    | some [c] => if c.isDigit then some (c.toNat - 0x30) else none
    | _ => none

/-- What is at a path from the root; the folder at work is there as well. -/
def Disk.placeAt (d : Disk) (folder path : Bytes) : Place :=
  if (baseFolders.map bytes).contains path || (path ++ ['/']).isPrefixOf (folder ++ ['/']) then
    .folder
  else match descriptorAt? path, d.get? path, programAt? path with
    | some fd, _, _ => .descriptor fd
    | none, some content, _ => .written content
    | none, none, some name => .program name
    | none, none, none => if (baseDevices.map bytes).contains path then .device else .missing

/-- Follow names from a place, of which all but the last have to be folders. -/
def follow (at_ : List Bytes → Place) : List Bytes → List Bytes → Place
  | here, [] => at_ here
  | here, name :: rest =>
    match at_ here with
    | .folder =>
      if maxFileName < name.length then .tooLong
      else if name.isEmpty || name = ['.'] then follow at_ here rest
      else if name = ['.', '.'] then follow at_ here.dropLast rest
      else follow at_ (here ++ [name]) rest
    | .missing => .missing
    | _ => .underFile

/-- What a path leads to, as seen from a folder. -/
def Disk.place (d : Disk) (folder path : Bytes) : Place :=
  let start := if path.head? = some '/' then [] else pathNames [] folder
  if path.isEmpty then .missing
  else if maxPath < path.length then .tooLong
  else follow (fun names => d.placeAt folder (rootedPath names)) start (path.splitOn '/')

/-- The names in a folder, as seen from another one, in no particular order; `none` when a path
leads to no folder. -/
def Disk.names? (d : Disk) (folder path : Bytes) : Option (List Bytes) :=
  let full := absolutePath folder path
  let paths := (baseFolders ++ baseDevices).map bytes ++ d.map Prod.fst
  let programs := if programFolders.any fun f => bytes f = full then basePrograms else []
  if d.place folder path = .folder then
    some ([['.'], ['.', '.']] ++ paths.filterMap (nameIn? full) ++ programs.map bytes)
  else none

/-! ## programs -/

/-- The paths at which a program may be: where its name leads, or in the folders for programs. -/
def candidates (programPath : Bytes) (name : Bytes) : List Bytes :=
  if name.contains '/' then [name]
  else (programPath.splitOn ':').map fun f => if f.isEmpty then name else f ++ '/' :: name

/-- The folders for programs, where nothing else is said. -/
def usualProgramPath : Bytes :=
  bytes "/usr/local/sbin:/usr/local/bin:/usr/sbin:/usr/bin:/sbin:/bin"

end BlockSketch.Shell
