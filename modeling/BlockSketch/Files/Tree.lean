import BlockSketch.Assoc
import BlockSketch.Fault
import BlockSketch.Text.Encoding
import BlockSketch.Text.FilePath
import BlockSketch.Text.Order

/-!
# BlockSketch.Files.Tree

Trees of files.  A tree lists its folders and files by their path from the root,
which is itself a folder; every path stands after the folders that hold it.  The
part `..` leads to the folder above, also to those above the root, which are all
there; what was put there is no part of the tree's listing.
-/

namespace BlockSketch

/-- What stands at a path. -/
inductive FileEntry where
  | folder
  | file (text : Text)
deriving DecidableEq, Inhabited

/-- The folders and files below a root, by path. -/
structure FileTree where
  entries : Assoc (List Text) FileEntry := []
deriving Inhabited

namespace FileTree

/-- The part of a path that leads to the folder above. -/
def upward : Text := ".."

/-- Go on from a place by one part of a path. -/
def follow (place : List Text) (part : Text) : List Text :=
  if part ≠ upward then place ++ [part.settledName]
  else if place.all (· == upward) then place ++ [upward]
  else place.dropLast

/-- The place a path leads to, without a way through other folders; names of the same bytes are one
name there. -/
def settle (path : List Text) : List Text := path.foldl follow []

/-- What stands at a place. -/
def getAt? (t : FileTree) (place : List Text) : Option FileEntry :=
  if place.all (· == upward) then some .folder else Assoc.get? t.entries place

/-- A path and the folders on the way to it, from the root. -/
def stages : List Text → List (List Text)
  | [] => [[]]
  | part :: rest => [] :: (stages rest).map (part :: ·)

/-- The folders on the way to a path, from the root. -/
def above (path : List Text) : List (List Text) := (stages path).dropLast

/-- What stands at a path, if its way leads through folders only. -/
def get? (t : FileTree) (path : List Text) : Option FileEntry :=
  if (above path).all fun p => t.getAt? (settle p) == some .folder then t.getAt? (settle path)
  else none

/-- Whether a folder stands at a path. -/
def isFolder (t : FileTree) (path : List Text) : Bool := t.get? path == some .folder

/-- Whether something stands at a path. -/
def has (t : FileTree) (path : List Text) : Bool := (t.get? path).isSome

/-- Whether a file stands in the way to a path. -/
def blocked (t : FileTree) (path : List Text) : Bool :=
  (above path).any fun p => t.has p && !t.isFolder p

/-- Why nothing can be found at a path. -/
def absence (t : FileTree) (path : List Text) : Fault :=
  if t.blocked path then .notADirectory else .noSuchFile

/-- How many bytes a name may have. -/
def maxNameLength : Nat := 255

/-- Check the names of a path: none may hold the null character or be too long. -/
def checkNames (path : List Text) : Outcome Unit :=
  path.forM fun name =>
    match name.nameBytes? with
    | none => .error .notEncodable
    | some bytes =>
      if bytes.contains 0 then .error .malformed
      else if maxNameLength < bytes.length then .error .nameTooLong
      else .ok ()

/-- The text of the file at a path. -/
def read (t : FileTree) (path : List Text) : Outcome Text := do
  checkNames path
  match t.get? path with
  | some (.file text) => return text
  | some .folder => .error .isADirectory
  | none => .error (t.absence path)

/-- Put an entry at a path. -/
def put (t : FileTree) (path : List Text) (e : FileEntry) : FileTree :=
  ⟨Assoc.put t.entries (settle path) e⟩

/-- Make a folder and those on the way to it. -/
def makeFolders (t : FileTree) (path : List Text) : Outcome FileTree := do
  checkNames path
  if t.blocked path then .error .notADirectory
  else if t.has path && !t.isFolder path then .error .alreadyExists
  else return (stages path).foldl (fun t p => if t.has p then t else t.put p .folder) t

/-- Write a file into a folder that exists. -/
def write (t : FileTree) (path : List Text) (text : Text) : Outcome FileTree := do
  checkNames path
  if t.isFolder path then .error .isADirectory
  else if t.isFolder path.dropLast then return t.put path (.file text)
  else .error (t.absence path)

/-- Save a text in a file of a folder that exists.  A text without a form in UTF-8 leaves an empty
file behind. -/
def save (t : FileTree) (path : List Text) (text : Text) : FileTree × Option Fault :=
  let whole := text.plain?.isSome
  match t.write path (if whole then text else "") with
  | .ok t => (t, if whole then none else some .notEncodable)
  | .error f => (t, some f)

/-- Save a text in a file, making the folders on the way to it first. -/
def store (t : FileTree) (path : List Text) (text : Text) : FileTree × Option Fault :=
  match t.makeFolders path.dropLast with
  | .ok t => t.save path text
  | .error f => (t, some f)

/-- Whether a path is another one or below it. -/
def isUnder (top path : List Text) : Bool := top.isPrefixOf path

/-- Remove what stands at a path, with all that is below it. -/
def remove (t : FileTree) (path : List Text) : FileTree :=
  ⟨t.entries.filter fun e => !isUnder (settle path) e.1⟩

def removeFolder (t : FileTree) (path : List Text) : Outcome FileTree :=
  if t.isFolder path then .ok (t.remove path)
  else .error (if t.has path then .notADirectory else t.absence path)

def removeFile (t : FileTree) (path : List Text) : Outcome FileTree :=
  match t.get? path with
  | some (.file _) => .ok (t.remove path)
  | some .folder => .error .isADirectory
  | none => .error (t.absence path)

/-- What is below a folder, with the paths from there. -/
def below (t : FileTree) (path : List Text) : FileTree :=
  let top := settle path
  ⟨t.entries.filterMap fun e =>
    if isUnder top e.1 && e.1 ≠ top && e.1.head? ≠ some upward then some (e.1.drop top.length, e.2)
    else none⟩

/-- Put a tree below a folder. -/
def graft (t : FileTree) (path : List Text) (other : FileTree) : FileTree :=
  other.entries.foldl (fun t e => t.put (path ++ e.1) e.2) (t.put path .folder)

def pathText (path : List Text) : Text := Text.intercalate "/" path

/-- The entries with their paths as texts, in order of these texts. -/
def listing (t : FileTree) : List (Text × FileEntry) :=
  Text.sortOn Prod.fst ((t.entries.filter fun e => e.1.head? ≠ some upward).map fun e =>
    (pathText e.1, e.2))

/-- The files with their texts, in order of their paths. -/
def files (t : FileTree) : List (Text × Text) :=
  t.listing.filterMap fun
    | (path, .file text) => some (path, text)
    | (_, .folder) => none

def partsOf (path : Text) : List Text := (Text.FilePath.ofText path).parts

/-- The tree of a list of files. -/
def ofFiles (files : List (Text × Text)) : Outcome FileTree :=
  files.foldlM (fun t e =>
    match t.store (partsOf e.1) e.2 with
    | (t, none) => .ok t
    | (_, some f) => .error f) {}

end FileTree

end BlockSketch
