import BlockSketch.Files.Zip

/-!
# BlockSketch.Files.Portable

The portable edition: a folder with what the program needs, and an archive of it
with its checksum.  What was done before a fault stays done.
-/

namespace BlockSketch.Portable

/-- A step on a tree of files. -/
abbrev Job := ExceptT Fault (StateM FileTree)

/-- Change the tree, or stop for a fault. -/
def change (f : FileTree → Outcome FileTree) : Job Unit := do
  match f (← get) with
  | .ok t => set t
  | .error e => throw e

/-- The parts of the portable edition, by their paths. -/
def assets : List (List Text) := [["data"], ["app"], ["portable", "Tools"]]

/-- The folder of the portable edition. -/
def folderName : Text := "ArduinoRoboLab"

/-- Copy a folder of one tree to a path, in place of what is there. -/
def copyFolder (source : FileTree) (path target : List Text) : Job Unit := do
  if (← get).has target then change fun t => t.removeFolder target
  if source.isFolder path then change fun t => .ok (t.graft target (source.below path))
  else throw (if source.has path then .notADirectory else source.absence path)

/-- Copy one part of the portable edition. -/
def copyAsset (source : FileTree → FileTree) (target : List Text) (asset : List Text) :
    Job Unit := do
  let goal := target ++ asset
  change fun t => t.makeFolders goal.dropLast
  let from_ := source (← get)
  if from_.isFolder asset then copyFolder from_ asset goal
  else
    match from_.read asset with
    | .ok text => change fun t => t.write goal text
    | .error e => throw e

/-- Build the portable edition below a folder. -/
def build (source : FileTree → FileTree) (output : List Text) : Job Unit := do
  change fun t => t.makeFolders output
  let target := output ++ [folderName]
  if (← get).has target then change fun t => t.removeFolder target
  change fun t => .ok (t.put target .folder)
  assets.forM (copyAsset source target)

/-- An archive that was made. -/
structure Package where
  path : List Text
  members : List Zip.Member
  digest : Text
deriving Inhabited

def checksumLine (digest name : Text) : Text := digest ++ "  " ++ name ++ "\n"

def checksumFile : Text := "checksums.txt"

/-- Pack a folder: the archive stands beside the given path, with `.zip` added to its name, and
the file of its checksum in the same folder. -/
def package (source : FileTree → FileTree) (folder output : List Text) : Job Package := do
  if (← get).has output then change fun t => t.removeFile output
  let from_ := source (← get)
  if !from_.isFolder folder then
    throw (if from_.has folder then .notADirectory else from_.absence folder)
  let name := (output.getLast?.getD "") ++ ".zip"
  let path := output.dropLast ++ [name]
  let members := Zip.members (from_.below folder)
  if !(← get).has output.dropLast then change fun t => t.makeFolders output.dropLast
  change fun t => t.write path ""
  let digest := Sha256.digest (Zip.archive members)
  change fun t => t.write (output.dropLast ++ [checksumFile]) (checksumLine digest name)
  return { path, members, digest }

/-! ## from the root of a working copy -/

/-- Where the portable edition is built. -/
def distFolder : List Text := ["dist", "portable"]

/-- Where the archive is put, but for its ending. -/
def distArchive : List Text := ["dist", "ArduinoRoboLab_portable"]

/-- Build the portable edition of the tree in place; the line that reports it. -/
def buildHere (root : Text) : Job Text := do
  build id distFolder
  return "Portable сборка создана в " ++ root ++ "/" ++ FileTree.pathText distFolder

/-- Pack the portable edition of the tree in place; the line that reports it. -/
def packageHere (root : Text) : Job Text := do
  let made ← package id distFolder distArchive
  return "Portable archive создан: " ++ root ++ "/" ++ FileTree.pathText made.path

end BlockSketch.Portable
