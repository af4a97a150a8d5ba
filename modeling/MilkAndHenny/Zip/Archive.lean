import Mathlib.Data.List.DropRight
import MilkAndHenny.Library.Crc
import MilkAndHenny.Library.Merge

/-! A ZIP64 archive that is written while its files arrive. -/

namespace MilkAndHenny.Zip
open Library Bytes

def ZIP_VERSION : Nat := 45
def ZIP_DATA_DESCRIPTOR_FLAG : Nat := 0x0008
def ZIP_UTF8_FLAG : Nat := 0x0800
def ZIP_GENERAL_PURPOSE_FLAGS : Nat := ZIP_DATA_DESCRIPTOR_FLAG ||| ZIP_UTF8_FLAG
def ZIP_STORE_METHOD : Nat := 0
def ZIP64_EXTRA_FIELD_ID : Nat := 0x0001
def ZIP64_UINT32_SENTINEL : Nat := 0xffffffff

/-- What `new Date()` says in local time. Months count from zero. -/
structure LocalTime where
  year : Int
  month : Nat
  day : Nat
  hours : Nat
  minutes : Nat
  seconds : Nat
  deriving DecidableEq

/-- A file, the chunks in which its stream arrives, and the clock when its entry begins. -/
structure ZipSourceFile where
  id : String
  filename : String
  chunks : List Bytes
  now : LocalTime
  deriving DecidableEq

structure ZipEntryRecord where
  crc32 : BitVec 32
  filenameBytes : Bytes
  offset : Nat
  size : Nat
  dosDate : Nat
  dosTime : Nat

def crc32Bit (crc : BitVec 32) : BitVec 32 :=
  if crc &&& 1#32 = 1#32 then 0xedb88320#32 ^^^ (crc >>> 1) else crc >>> 1

def createCrc32Table : Vector (BitVec 32) (2 ^ 8) :=
  Vector.ofFn fun index => Nat.repeat crc32Bit 8 (BitVec.ofNat 32 index)

def crc32Byte (crc : BitVec 32) (byte : UInt8) : BitVec 32 :=
  createCrc32Table.get (((crc ^^^ byte.toBitVec.setWidth 32) &&& 0xff#32).setWidth 8).toFin ^^^ (crc >>> 8)

def updateCrc32 (seed : BitVec 32) (chunk : Bytes) : BitVec 32 := chunk.foldl crc32Byte seed

def finalizeCrc32 (seed : BitVec 32) : BitVec 32 := seed ^^^ 0xffffffff#32

def getDosDateTime (value : LocalTime) : Nat × Nat :=
  let year := (max 1980 value.year).toNat
  let month := value.month + 1
  let seconds := value.seconds / 2
  (((year - 1980) <<< 9) ||| (month <<< 5) ||| value.day, (value.hours <<< 11) ||| (value.minutes <<< 5) ||| seconds)

def writeUint16 (offset value : Nat) (view : Bytes) : Bytes := setAt view offset (word 2 value)

def writeUint32 (offset value : Nat) (view : Bytes) : Bytes := setAt view offset (word 4 value)

def writeUint64 (offset value : Nat) (view : Bytes) : Bytes :=
  let low := value % 2 ^ 32
  let high := value / 0x100000000 % 2 ^ 32
  view |> writeUint32 offset low |> writeUint32 (offset + 4) high

/-- White space and line terminators. -/
def isSpace (c : Char) : Bool :=
  c.toNat ∈ [0x09, 0x0a, 0x0b, 0x0c, 0x0d, 0x20, 0xa0, 0x1680, 0x2028, 0x2029, 0x202f, 0x205f, 0x3000, 0xfeff] ||
    (0x2000 ≤ c.toNat && c.toNat ≤ 0x200a)

def trim (text : String) : String :=
  String.ofList (((text.toList.dropWhile isSpace).reverse.dropWhile isSpace).reverse)

theorem trim_trim (text : String) : trim (trim text) = trim text := by
  unfold trim
  generalize begun : text.toList.dropWhile isSpace = front
  have ends : (front.reverse.dropWhile isSpace).reverse = front.rdropWhile isSpace := rfl
  have starts : (front.rdropWhile isSpace).dropWhile isSpace = front.rdropWhile isSpace := by
    refine List.dropWhile_eq_self_iff.mpr fun inside => ?_
    rw [(List.rdropWhile_prefix isSpace front).getElem inside]
    have kept := begun ▸ List.dropWhile_idempotent isSpace text.toList
    exact List.dropWhile_eq_self_iff.mp kept _
  rw [ends, String.toList_ofList, starts]
  exact congrArg String.ofList (List.rdropWhile_idempotent isSpace front)

def lastIndexOf (text : List Char) (c : Char) : Option Nat :=
  (text.reverse.idxOf? c).map fun back => text.length - 1 - back

def splitExtension (source : String) : String × String :=
  match lastIndexOf source.toList '.' with
  | none => (source, "")
  | some dotIndex =>
    if 0 < dotIndex ∧ dotIndex < source.toList.length - 1 then
      (String.ofList (source.toList.take dotIndex), String.ofList (source.toList.drop dotIndex))
    else (source, "")

def ZipSourceFile.source (file : ZipSourceFile) : String :=
  if trim file.filename = "" then "file-" ++ file.id else trim file.filename

/-- The maps of `resolveArchiveFilenames`: how often a name was used, and the name of each file. -/
structure Filenames where
  used : List (String × Nat) := []
  resolved : List (String × String) := []

def archiveFilename (source : String) (seen : Nat) : String :=
  if seen = 0 then source
  else (splitExtension source).1 ++ " (" ++ toString (seen + 1) ++ ")" ++ (splitExtension source).2

def Filenames.seen (names : Filenames) (source : String) : Nat := (names.used.lookup source).getD 0

def Filenames.next (names : Filenames) (file : ZipSourceFile) : Filenames where
  used := setKey Prod.fst names.used (file.source, names.seen file.source + 1)
  resolved := setKey Prod.fst names.resolved (file.id, archiveFilename file.source (names.seen file.source))

def resolveArchiveFilenames (files : List ZipSourceFile) : List (String × String) :=
  (files.foldl Filenames.next {}).resolved

def localExtraField : Bytes :=
  zeroed 20
    |> writeUint16 0 ZIP64_EXTRA_FIELD_ID
    |> writeUint16 2 16
    |> writeUint64 4 0
    |> writeUint64 12 0

def buildLocalFileHeader (filenameBytes : Bytes) (dosDate dosTime : Nat) : Bytes :=
  let header := zeroed (30 + filenameBytes.length + localExtraField.length)
    |> writeUint32 0 0x04034b50
    |> writeUint16 4 ZIP_VERSION
    |> writeUint16 6 ZIP_GENERAL_PURPOSE_FLAGS
    |> writeUint16 8 ZIP_STORE_METHOD
    |> writeUint16 10 dosTime
    |> writeUint16 12 dosDate
    |> writeUint32 14 0
    |> writeUint32 18 ZIP64_UINT32_SENTINEL
    |> writeUint32 22 ZIP64_UINT32_SENTINEL
    |> writeUint16 26 filenameBytes.length
    |> writeUint16 28 localExtraField.length
  setAt (setAt header 30 filenameBytes) (30 + filenameBytes.length) localExtraField

def buildDataDescriptor (crc32 : BitVec 32) (size : Nat) : Bytes :=
  zeroed 24
    |> writeUint32 0 0x08074b50
    |> writeUint32 4 crc32.toNat
    |> writeUint64 8 size
    |> writeUint64 16 size

def directoryExtraField (record : ZipEntryRecord) : Bytes :=
  zeroed 28
    |> writeUint16 0 ZIP64_EXTRA_FIELD_ID
    |> writeUint16 2 24
    |> writeUint64 4 record.size
    |> writeUint64 12 record.size
    |> writeUint64 20 record.offset

def buildCentralDirectoryEntry (record : ZipEntryRecord) : Bytes :=
  let extraField := directoryExtraField record
  let entry := zeroed (46 + record.filenameBytes.length + extraField.length)
    |> writeUint32 0 0x02014b50
    |> writeUint16 4 ZIP_VERSION
    |> writeUint16 6 ZIP_VERSION
    |> writeUint16 8 ZIP_GENERAL_PURPOSE_FLAGS
    |> writeUint16 10 ZIP_STORE_METHOD
    |> writeUint16 12 record.dosTime
    |> writeUint16 14 record.dosDate
    |> writeUint32 16 record.crc32.toNat
    |> writeUint32 20 ZIP64_UINT32_SENTINEL
    |> writeUint32 24 ZIP64_UINT32_SENTINEL
    |> writeUint16 28 record.filenameBytes.length
    |> writeUint16 30 extraField.length
    |> writeUint16 32 0
    |> writeUint16 34 0
    |> writeUint16 36 0
    |> writeUint32 38 0
    |> writeUint32 42 ZIP64_UINT32_SENTINEL
  setAt (setAt entry 46 record.filenameBytes) (46 + record.filenameBytes.length) extraField

def zip64Record (entryCount directorySize directoryOffset : Nat) : Bytes :=
  zeroed 56
    |> writeUint32 0 0x06064b50
    |> writeUint64 4 44
    |> writeUint16 12 ZIP_VERSION
    |> writeUint16 14 ZIP_VERSION
    |> writeUint32 16 0
    |> writeUint32 20 0
    |> writeUint64 24 entryCount
    |> writeUint64 32 entryCount
    |> writeUint64 40 directorySize
    |> writeUint64 48 directoryOffset

def zip64Locator (recordOffset : Nat) : Bytes :=
  zeroed 20
    |> writeUint32 0 0x07064b50
    |> writeUint32 4 0
    |> writeUint64 8 recordOffset
    |> writeUint32 16 1

def footer : Bytes :=
  zeroed 22
    |> writeUint32 0 0x06054b50
    |> writeUint16 4 0
    |> writeUint16 6 0
    |> writeUint16 8 0xffff
    |> writeUint16 10 0xffff
    |> writeUint32 12 ZIP64_UINT32_SENTINEL
    |> writeUint32 16 ZIP64_UINT32_SENTINEL
    |> writeUint16 20 0

def buildEndOfCentralDirectory (entryCount directorySize directoryOffset : Nat) : Bytes :=
  let record := zip64Record entryCount directorySize directoryOffset
  let locator := zip64Locator (directoryOffset + directorySize)
  let combined := zeroed (record.length + locator.length + footer.length)
  setAt (setAt (setAt combined 0 record) record.length locator) (record.length + locator.length) footer

/-- The chunks that were written, in order. -/
abbrev ZipSaveTarget : Type := List Bytes

def ZipSaveTarget.write (target : ZipSaveTarget) (chunk : Bytes) : ZipSaveTarget := target ++ [chunk]

/-- The loop of `writeFileEntry` over the stream. -/
structure Receiving where
  target : ZipSaveTarget
  crc : BitVec 32 := 0xffffffff#32
  size : Nat := 0
  bytesWritten : Nat

def Receiving.chunk (state : Receiving) (value : Bytes) : Receiving where
  target := state.target.write value
  crc := updateCrc32 state.crc value
  size := state.size + value.length
  bytesWritten := state.bytesWritten + value.length

/-- What the archive has so far. -/
structure Writing where
  target : ZipSaveTarget := []
  offset : Nat := 0
  records : List ZipEntryRecord := []

def writeFileEntry (state : Writing) (file : ZipSourceFile) (filename : String) : Writing :=
  let filenameBytes := ofText filename
  let (dosDate, dosTime) := getDosDateTime file.now
  let localHeader := buildLocalFileHeader filenameBytes dosDate dosTime
  let received := file.chunks.foldl Receiving.chunk
    { target := state.target.write localHeader, bytesWritten := localHeader.length }
  let finalizedCrc := finalizeCrc32 received.crc
  let descriptor := buildDataDescriptor finalizedCrc received.size
  { target := received.target.write descriptor
    offset := state.offset + (received.bytesWritten + descriptor.length)
    records := state.records ++ [{
      crc32 := finalizedCrc, filenameBytes, offset := state.offset, size := received.size, dosDate, dosTime }] }

def writeEntries (target : ZipSaveTarget) (records : List ZipEntryRecord) : ZipSaveTarget × Nat :=
  records.foldl (fun (target, directorySize) record =>
    let entry := buildCentralDirectoryEntry record
    (target.write entry, directorySize + entry.length)) (target, 0)

def writeCentralDirectory (records : List ZipEntryRecord) (target : ZipSaveTarget) (offset : Nat) : ZipSaveTarget :=
  let (target, directorySize) := writeEntries target records
  target.write (buildEndOfCentralDirectory records.length directorySize offset)

def writeFiles (names : List (String × String)) (files : List ZipSourceFile) : Writing :=
  files.foldl (fun state file => writeFileEntry state file ((names.lookup file.id).getD file.filename)) {}

/-- The blob that is saved once every file has arrived. -/
def buildZipArchive (files : List ZipSourceFile) : Bytes :=
  let written := writeFiles (resolveArchiveFilenames files) files
  (writeCentralDirectory written.records written.target written.offset).flatten

end MilkAndHenny.Zip
