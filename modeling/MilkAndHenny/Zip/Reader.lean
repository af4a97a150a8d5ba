import MilkAndHenny.Library.Crc

/-! A reader of ZIP64 archives. It knows the format and nothing of the writer: from the end record
it finds the locator, the ZIP64 record and the directory, and from there each file. -/

namespace MilkAndHenny.Zip
open Library Bytes

def checksum (content : Bytes) : BitVec 32 := Crc.bitwise 0xedb88320#32 content

/-- A file as it is read, with the checksum that is stored beside it. -/
structure Entry where
  name : String
  content : Bytes
  crc32 : Nat

structure EndRecord where
  count : Nat
  size : Nat
  offset : Nat

structure DirectoryEntry where
  name : Bytes
  crc32 : Nat
  size : Nat
  offset : Nat

def readFooter (bytes : Bytes) : Option Unit := do
  let (fields, _) ← numbers [4, 2, 2, 2, 2, 4, 4, 2] bytes
  guard (fields = [0x06054b50, 0, 0, 0xffff, 0xffff, 0xffffffff, 0xffffffff, 0])

def readLocator (bytes : Bytes) : Option Nat := do
  let (fields, _) ← numbers [4, 4, 8, 4] bytes
  let [signature, disk, recordAt, disks] := fields | none
  guard (signature = 0x07064b50 ∧ disk = 0 ∧ disks = 1)
  return recordAt

def readEndRecord (bytes : Bytes) : Option EndRecord := do
  let (fields, _) ← numbers [4, 8, 2, 2, 4, 4, 8, 8, 8, 8] bytes
  let [signature, length, _, _, disk, directoryDisk, diskCount, count, size, offset] := fields | none
  guard (signature = 0x06064b50 ∧ length = 44 ∧ disk = 0 ∧ directoryDisk = 0 ∧ diskCount = count)
  return { count, size, offset }

def readDirectoryExtra (bytes : Bytes) : Option (Nat × Nat) := do
  let (fields, rest) ← numbers [2, 2, 8, 8, 8] bytes
  let [id, length, size, compressed, offset] := fields | none
  guard (id = 1 ∧ length = 24 ∧ size = compressed ∧ rest = [])
  return (size, offset)

def readDirectoryEntry (bytes : Bytes) : Option (DirectoryEntry × Bytes) := do
  let (fields, bytes) ← numbers [4, 2, 2, 2, 2, 2, 2, 4, 4, 4, 2, 2, 2, 2, 2, 4, 4] bytes
  let [signature, _, _, flags, method, _, _, crc32, compressed, size, nameLength, extraLength, commentLength, disk, _, _, offset] :=
    fields | none
  guard (signature = 0x02014b50 ∧ flags = 0x0808 ∧ method = 0 ∧ commentLength = 0 ∧ disk = 0)
  guard (compressed = 0xffffffff ∧ size = 0xffffffff ∧ offset = 0xffffffff)
  let (name, bytes) ← take nameLength bytes
  let (extra, bytes) ← take extraLength bytes
  let (size, offset) ← readDirectoryExtra extra
  return ({ name, crc32, size, offset }, bytes)

def readDirectory (count : Nat) (bytes : Bytes) : Option (List DirectoryEntry × Bytes) :=
  match count with
  | 0 => some ([], bytes)
  | count + 1 => do
    let (entry, bytes) ← readDirectoryEntry bytes
    let (entries, bytes) ← readDirectory count bytes
    return (entry :: entries, bytes)

def readLocalHeader (bytes : Bytes) : Option (Bytes × Bytes) := do
  let (fields, bytes) ← numbers [4, 2, 2, 2, 2, 2, 4, 4, 4, 2, 2] bytes
  let [signature, _, flags, method, _, _, crc32, compressed, size, nameLength, extraLength] := fields | none
  guard (signature = 0x04034b50 ∧ flags = 0x0808 ∧ method = 0 ∧ crc32 = 0 ∧ compressed = 0xffffffff ∧ size = 0xffffffff)
  let (name, bytes) ← take nameLength bytes
  let (extra, bytes) ← take extraLength bytes
  let (extra, rest) ← numbers [2, 2, 8, 8] extra
  guard (extra = [1, 16, 0, 0] ∧ rest = [])
  return (name, bytes)

/-- The file that an entry of the directory is about. All that is stored twice agrees. -/
def readEntry (archive : Bytes) (entry : DirectoryEntry) : Option Entry := do
  let (name, bytes) ← readLocalHeader (archive.drop entry.offset)
  guard (name = entry.name)
  let (content, bytes) ← take entry.size bytes
  let (descriptor, _) ← numbers [4, 4, 8, 8] bytes
  guard (descriptor = [0x08074b50, entry.crc32, entry.size, entry.size])
  let name ← toText name
  return { name, content, crc32 := entry.crc32 }

def readZip (archive : Bytes) : Option (List Entry) := do
  guard (42 ≤ archive.length)
  readFooter (archive.drop (archive.length - 22))
  let recordAt ← readLocator (archive.drop (archive.length - 42))
  let record ← readEndRecord (archive.drop recordAt)
  guard (record.offset + record.size = recordAt)
  let (entries, rest) ← readDirectory record.count (archive.drop record.offset)
  guard (archive.length = recordAt + rest.length)
  entries.mapM (readEntry archive)

end MilkAndHenny.Zip
