import BlockSketch.Files.Portable
import BlockSketch.SelfCheck
import BlockSketch.Workbench.Start

/-!
# BlockSketch.Main

The command line, to be used in the folder of a working copy: `check` checks it,
`build` makes the portable edition, `package` packs that edition, and without a
word the program reports its start.
-/

namespace BlockSketch.CommandLine

/-- The files below some folders of the current folder. -/
def readHere (folders : List (List Text)) : IO FileTree := do
  let here ← IO.currentDir
  let depth := here.components.length
  folders.foldlM (fun t folder => do
    let top := here / (FileTree.pathText folder).plain
    if ← top.isDir then
      let paths ← top.walkDir
      paths.foldlM (fun t path => do
        let parts := (path.components.drop depth).map Text.ofString
        if ← path.isDir then return t.put parts .folder
        else return t.put parts (.file (← IO.FS.readFile path)))
        ((t.makeFolders folder).toOption.getD t)
    else return t) {}

/-- Write what stands in a folder of a tree to the current folder. -/
def writeHere (t : FileTree) (folder : Text) : IO Unit := do
  let here ← IO.currentDir
  for (path, entry) in t.listing do
    if path = folder || path.startsWith (folder ++ "/") then
      match entry with
      | .folder => IO.FS.createDirAll (here / path.plain)
      | .file text => IO.FS.writeFile (here / path.plain) text.plain

/-- Say that a job failed. -/
def failed : IO UInt32 := do
  IO.eprintln "failed"
  return 1

/-- Check the working copy. -/
def check : IO UInt32 := do
  let complaints := SelfCheck.complaints "." (← readHere [["app"]])
  (SelfCheck.report complaints).forM fun line => IO.println line.plain
  return UInt32.ofNat (SelfCheck.exitCode complaints)

/-- Make the portable edition. -/
def build : IO UInt32 := do
  let here ← IO.currentDir
  match (Portable.buildHere here.toString).run (← readHere Portable.assets) with
  | (.ok line, t) =>
    let target := here / (FileTree.pathText (Portable.distFolder ++ [Portable.folderName])).plain
    if ← target.isDir then IO.FS.removeDirAll target
    writeHere t "dist"
    IO.println line.plain
    return 0
  | (.error _, _) => failed

/-- Pack the portable edition. -/
def pack : IO UInt32 := do
  let here ← IO.currentDir
  let job := Portable.package id Portable.distFolder Portable.distArchive
  match job.run (← readHere [Portable.distFolder]) with
  | (.ok made, t) =>
    let stale := here / (FileTree.pathText Portable.distArchive).plain
    if ← stale.pathExists then IO.FS.removeFile stale
    writeHere t "dist"
    let path := here / (FileTree.pathText made.path).plain
    IO.FS.writeBinFile path (ByteArray.mk (Zip.archive made.members).toArray)
    IO.println ("Portable archive создан: " ++ path.toString)
    return 0
  | (.error _, _) => failed

def start : IO UInt32 := do
  let here := Text.FilePath.ofText (← IO.currentDir).toString
  (Workbench.startLines here here).forM fun line => IO.println line.plain
  return 0

end BlockSketch.CommandLine

/-- The command line. -/
def main (args : List String) : IO UInt32 :=
  match args with
  | ["check"] => BlockSketch.CommandLine.check
  | ["build"] => BlockSketch.CommandLine.build
  | ["package"] => BlockSketch.CommandLine.pack
  | _ => BlockSketch.CommandLine.start
