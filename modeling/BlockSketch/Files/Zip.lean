import BlockSketch.Files.Digest
import BlockSketch.Files.Tree

/-!
# BlockSketch.Files.Zip

Archives: the files and folders of a tree in the ZIP format, stored as they are.
-/

namespace BlockSketch.Zip

/-- The bytes of a number, least significant first. -/
def littleEndian (count n : Nat) : List UInt8 :=
  (List.range count).map fun i => UInt8.ofNat (n >>> (8 * i))

structure Member where
  -- its name, with a slash at the end of a folder's
  name : Text
  text : Text
deriving DecidableEq, Inhabited

def members (t : FileTree) : List Member :=
  Text.sortOn (·.name) (t.entries.map fun e =>
    match e.2 with
    | .folder => ⟨FileTree.pathText e.1 ++ "/", ""⟩
    | .file text => ⟨FileTree.pathText e.1, text⟩)

def textBytes (s : Text) : List UInt8 := s.plain.toUTF8.toList

/-- What both headers of a member say: version, flags, method, time, checksum, sizes. -/
def common (m : Member) : List UInt8 :=
  let data := textBytes m.text
  littleEndian 2 20 ++ littleEndian 2 0x0800 ++ littleEndian 2 0 ++ littleEndian 2 0 ++
    littleEndian 2 0x21 ++ littleEndian 4 (Crc32.remainder data).toNat ++
    littleEndian 4 data.length ++ littleEndian 4 data.length ++
    littleEndian 2 (textBytes m.name).length ++ littleEndian 2 0

/-- A member with its header. -/
def record (m : Member) : List UInt8 :=
  littleEndian 4 0x04034b50 ++ common m ++ textBytes m.name ++ textBytes m.text

/-- The entry of a member in the directory, given where its record starts. -/
def directoryEntry (m : Member) (offset : Nat) : List UInt8 :=
  littleEndian 4 0x02014b50 ++ littleEndian 2 20 ++ common m ++ littleEndian 2 0 ++
    littleEndian 2 0 ++ littleEndian 2 0 ++ littleEndian 4 0 ++ littleEndian 4 offset ++
    textBytes m.name

/-- The records and the directory of some members, the first record standing at an offset. -/
def layOut (offset : Nat) : List Member → List UInt8 × List UInt8
  | [] => ([], [])
  | m :: rest =>
    let here := record m
    let (records, directory) := layOut (offset + here.length) rest
    (here ++ records, directoryEntry m offset ++ directory)

def archive (ms : List Member) : List UInt8 :=
  let (records, directory) := layOut 0 ms
  records ++ directory ++ littleEndian 4 0x06054b50 ++ littleEndian 2 0 ++ littleEndian 2 0 ++
    littleEndian 2 ms.length ++ littleEndian 2 ms.length ++ littleEndian 4 directory.length ++
    littleEndian 4 records.length ++ littleEndian 2 0

end BlockSketch.Zip
