import MilkAndHenny.Zip.Archive
import MilkAndHenny.Zip.Reader

/-! What the writer lays out, field by field, and how the reader takes each record back. -/

namespace MilkAndHenny.Zip
open Library Bytes

section

variable (crc : BitVec 32)

theorem crc32Bit_eq : crc32Bit crc = Crc.shift 0xedb88320#32 crc := by
  have low : crc &&& 1#32 = 1#32 ↔ crc.getLsbD 0 = true := by
    rw [BitVec.and_one_eq_setWidth_ofBool_getLsbD]
    cases crc.getLsbD 0 <;> decide
  simp [crc32Bit, Crc.shift, low]

theorem createCrc32Table_get (index : BitVec 8) :
    createCrc32Table.get index.toFin = Crc.shifts 0xedb88320#32 8 (index.setWidth 32) := by
  have bit : crc32Bit = Crc.shift 0xedb88320#32 := funext crc32Bit_eq
  have start : BitVec.ofNat 32 index.toFin = index.setWidth 32 := by
    simp
  have entry : createCrc32Table.get index.toFin = Nat.repeat crc32Bit 8 (BitVec.ofNat 32 index.toFin) :=
    Vector.getElem_ofFn index.toFin.isLt
  rw [entry, start, bit]
  rfl

theorem crc32Byte_eq (byte : UInt8) :
    crc32Byte crc byte = Crc.byteStep (fun index => createCrc32Table.get index.toFin) crc byte := by
  have masked (x : BitVec 32) : (x &&& 0xff#32).setWidth 8 = x.setWidth 8 := by
    apply BitVec.eq_of_toNat_eq
    have all : x.toNat % 256 &&& 255 = x.toNat % 256 % 2 ^ 8 := Nat.and_two_pow_sub_one_eq_mod (x.toNat % 256) 8
    simp [all]
  simp [crc32Byte, Crc.byteStep, masked]

theorem updateCrc32_eq (seed : BitVec 32) (chunk : Bytes) :
    updateCrc32 seed chunk = (Crc.bits chunk).foldl (Crc.feed 0xedb88320#32) seed := by
  have step : crc32Byte = Crc.byteStep fun index => createCrc32Table.get index.toFin :=
    funext fun crc => funext fun byte => crc32Byte_eq crc byte
  rw [updateCrc32, step, Crc.foldl_byteStep 0xedb88320#32 (by decide) createCrc32Table_get]

theorem updateCrc32_append (seed : BitVec 32) (first second : Bytes) :
    updateCrc32 (updateCrc32 seed first) second = updateCrc32 seed (first ++ second) := foldl_append.symm

theorem finalizeCrc32_eq (content : Bytes) : finalizeCrc32 (updateCrc32 0xffffffff#32 content) = checksum content := by
  have ones : (0xffffffff#32 : BitVec 32) = BitVec.allOnes 32 := by decide
  rw [updateCrc32_eq, finalizeCrc32, checksum, Crc.bitwise, ones, BitVec.xor_allOnes]

example : checksum (ofText "123456789") = 0xcbf43926#32 := by decide +kernel

end

section
variable {size : Nat}

def localFields (nameLength dosDate dosTime : Nat) : List (Nat × Nat) :=
  [(4, 0x04034b50), (2, 45), (2, 0x0808), (2, 0), (2, dosTime), (2, dosDate), (4, 0), (4, 0xffffffff), (4, 0xffffffff),
    (2, nameLength), (2, 20)]

def descriptorFields (crc32 size : Nat) : List (Nat × Nat) := [(4, 0x08074b50), (4, crc32), (8, size), (8, size)]

def extraFields (record : ZipEntryRecord) : List (Nat × Nat) :=
  [(2, 1), (2, 24), (8, record.size), (8, record.size), (8, record.offset)]

def directoryFields (record : ZipEntryRecord) : List (Nat × Nat) :=
  [(4, 0x02014b50), (2, 45), (2, 45), (2, 0x0808), (2, 0), (2, record.dosTime), (2, record.dosDate), (4, record.crc32.toNat),
    (4, 0xffffffff), (4, 0xffffffff), (2, record.filenameBytes.length), (2, 28), (2, 0), (2, 0), (2, 0), (4, 0), (4, 0xffffffff)]

def endFields (count size offset : Nat) : List (Nat × Nat) :=
  [(4, 0x06064b50), (8, 44), (2, 45), (2, 45), (4, 0), (4, 0), (8, count), (8, count), (8, size), (8, offset)]

def locatorFields (recordAt : Nat) : List (Nat × Nat) := [(4, 0x07064b50), (4, 0), (8, recordAt), (4, 1)]

theorem localExtraField_eq : localExtraField = words [(2, 1), (2, 16), (8, 0), (8, 0)] := by decide

private theorem record_eq (fields : List (Nat × Nat)) (sum : (fields.map Prod.fst).sum = size) (name extra : Bytes) :
    setAt (setAt (fill 0 fields (zeroed (size + name.length + extra.length))) size name) (size + name.length) extra =
      words fields ++ (name ++ extra) := by
  have head : (words fields).length = size := (length_words fields).trans sum
  have both : (words fields ++ name).length = size + name.length := by rw [length_append, head]
  have last := setAt_next both extra 0
  rw [Nat.add_assoc, fill_zeroed sum, setAt_next head]
  simpa [zeroed] using last

theorem buildLocalFileHeader_eq (name : Bytes) (dosDate dosTime : Nat) :
    buildLocalFileHeader name dosDate dosTime = words (localFields name.length dosDate dosTime) ++ (name ++ localExtraField) := by
  have extra : localExtraField.length = 20 := by rw [localExtraField_eq, length_words]; rfl
  rw [← record_eq (localFields name.length dosDate dosTime) (show _ = 30 by simp [localFields])]
  simp [buildLocalFileHeader, extra, writeUint16, writeUint32, fill, localFields, ZIP_VERSION, ZIP_GENERAL_PURPOSE_FLAGS,
    ZIP_DATA_DESCRIPTOR_FLAG, ZIP_UTF8_FLAG, ZIP_STORE_METHOD, ZIP64_UINT32_SENTINEL]

private theorem fixed_eq (fields : List (Nat × Nat)) (sum : ((halved fields).map Prod.fst).sum = size) :
    fill 0 (halved fields) (zeroed size) = words fields := by
  rw [fill_full sum, words_halved]

theorem buildDataDescriptor_eq (size : Nat) :
    buildDataDescriptor crc size = words (descriptorFields crc.toNat size) := by
  rw [← fixed_eq (descriptorFields crc.toNat size) (show _ = 24 by simp [halved, descriptorFields])]
  simp [buildDataDescriptor, writeUint32, writeUint64, fill, halved, descriptorFields]

theorem directoryExtraField_eq (record : ZipEntryRecord) : directoryExtraField record = words (extraFields record) := by
  rw [← fixed_eq (extraFields record) (show _ = 28 by simp [halved, extraFields])]
  simp [directoryExtraField, writeUint16, writeUint32, writeUint64, fill, halved, extraFields, ZIP64_EXTRA_FIELD_ID]

theorem buildCentralDirectoryEntry_eq (record : ZipEntryRecord) :
    buildCentralDirectoryEntry record = words (directoryFields record) ++ (record.filenameBytes ++ directoryExtraField record) := by
  have extra : (directoryExtraField record).length = 28 := by
    rfl
  rw [← record_eq (directoryFields record) (show _ = 46 by simp [directoryFields])]
  simp [buildCentralDirectoryEntry, extra, writeUint16, writeUint32, fill, directoryFields, ZIP_VERSION, ZIP_GENERAL_PURPOSE_FLAGS,
    ZIP_DATA_DESCRIPTOR_FLAG, ZIP_UTF8_FLAG, ZIP_STORE_METHOD, ZIP64_UINT32_SENTINEL]

theorem zip64Record_eq (count size offset : Nat) : zip64Record count size offset = words (endFields count size offset) := by
  rw [← fixed_eq (endFields count size offset) (show _ = 56 by simp [halved, endFields])]
  simp [zip64Record, writeUint16, writeUint32, writeUint64, fill, halved, endFields, ZIP_VERSION]

theorem zip64Locator_eq (recordAt : Nat) : zip64Locator recordAt = words (locatorFields recordAt) := by
  rw [← fixed_eq (locatorFields recordAt) (show _ = 20 by simp [halved, locatorFields])]
  simp [zip64Locator, writeUint32, writeUint64, fill, halved, locatorFields]

private theorem parts_eq (first second third : Bytes) :
    setAt (setAt (setAt (zeroed (first.length + second.length + third.length)) 0 first) first.length second)
      (first.length + second.length) third = first ++ (second ++ third) := by
  have one := @setAt_next [] 0 rfl first (second.length + third.length)
  have two := @setAt_next first first.length rfl second third.length
  have three := @setAt_next (first ++ second) _ length_append third 0
  rw [nil_append] at one
  rw [Nat.add_zero] at three
  rw [Nat.add_assoc, one, nil_append, two, three]
  simp [zeroed]

theorem buildEndOfCentralDirectory_eq (count size offset : Nat) :
    buildEndOfCentralDirectory count size offset = zip64Record count size offset ++ (zip64Locator (offset + size) ++ footer) :=
  parts_eq (zip64Record count size offset) (zip64Locator (offset + size)) footer

end

section
variable {record : ZipEntryRecord} {rest after : Bytes}

theorem readFooter_footer : readFooter footer = some () := by decide

theorem readLocator_zip64Locator {recordAt : Nat} (fits : recordAt < 2 ^ 64) (rest : Bytes) :
    readLocator (zip64Locator recordAt ++ rest) = some recordAt := by
  have fields := numbers_words (locatorFields recordAt) rest
  have whole : recordAt % 256 ^ 8 = recordAt := Nat.mod_eq_of_lt fits
  simp only [locatorFields, map_cons, map_nil, whole] at fields
  simp [readLocator, zip64Locator_eq, locatorFields, fields]

theorem readEndRecord_zip64Record {count size offset : Nat} (counted : count < 2 ^ 64) (sized : size < 2 ^ 64)
    (placed : offset < 2 ^ 64) (rest : Bytes) :
    readEndRecord (zip64Record count size offset ++ rest) = some { count, size, offset } := by
  have fields := numbers_words (endFields count size offset) rest
  have whole {value : Nat} (fits : value < 2 ^ 64) : value % 256 ^ 8 = value := Nat.mod_eq_of_lt fits
  simp only [endFields, map_cons, map_nil, whole counted, whole sized, whole placed] at fields
  simp [readEndRecord, zip64Record_eq, endFields, fields]

def ZipEntryRecord.listed (record : ZipEntryRecord) : DirectoryEntry where
  name := record.filenameBytes
  crc32 := record.crc32.toNat
  size := record.size
  offset := record.offset

theorem readDirectoryExtra_extra (sized : record.size < 2 ^ 64) (placed : record.offset < 2 ^ 64) :
    readDirectoryExtra (directoryExtraField record) = some (record.size, record.offset) := by
  have fields := numbers_words (extraFields record) []
  have whole {value : Nat} (fits : value < 2 ^ 64) : value % 256 ^ 8 = value := Nat.mod_eq_of_lt fits
  simp only [extraFields, map_cons, map_nil, whole sized, whole placed, append_nil] at fields
  simp [readDirectoryExtra, directoryExtraField_eq, extraFields, fields]

theorem length_directoryExtraField (record : ZipEntryRecord) : (directoryExtraField record).length = 28 := by
  rfl

theorem readDirectoryEntry_entry (record : ZipEntryRecord) (rest : Bytes) :
    readDirectoryEntry (buildCentralDirectoryEntry record ++ rest) = do
      let (name, bytes) ← take (record.filenameBytes.length % 65536) (record.filenameBytes ++ (directoryExtraField record ++ rest))
      let (extra, bytes) ← take 28 bytes
      let (size, offset) ← readDirectoryExtra extra
      return ({ name, crc32 := record.crc32.toNat, size, offset }, bytes) := by
  have fields := numbers_words (directoryFields record) (record.filenameBytes ++ (directoryExtraField record ++ rest))
  have crc : record.crc32.toNat % 256 ^ 4 = record.crc32.toNat := Nat.mod_eq_of_lt record.crc32.isLt
  simp only [directoryFields, map_cons, map_nil, crc] at fields
  simp [readDirectoryEntry, buildCentralDirectoryEntry_eq, directoryFields, fields]

theorem readDirectoryEntry_fits (named : record.filenameBytes.length ≤ 65535)
    (sized : record.size < 2 ^ 64) (placed : record.offset < 2 ^ 64) (rest : Bytes) :
    readDirectoryEntry (buildCentralDirectoryEntry record ++ rest) = some (record.listed, rest) := by
  have length : record.filenameBytes.length % 65536 = record.filenameBytes.length := Nat.mod_eq_of_lt (Nat.lt_succ_of_le named)
  rw [readDirectoryEntry_entry, length, take_append rfl]
  simp [take_append (length_directoryExtraField record), readDirectoryExtra_extra sized placed, ZipEntryRecord.listed]

theorem readDirectoryEntry_long (long : 65535 < record.filenameBytes.length)
    {entry : DirectoryEntry} (read : readDirectoryEntry (buildCentralDirectoryEntry record ++ rest) = some (entry, after)) :
    entry.name ≠ record.filenameBytes := by
  rw [readDirectoryEntry_entry, take_shorter (Nat.mod_le _ _)] at read
  simp only [bind_eq_bind, bind_some, bind_eq_some_iff] at read
  obtain ⟨extra, _, sizes, _, same⟩ := read
  cases same
  intro whole
  have lengths := congrArg List.length whole
  rw [List.length_take] at lengths
  omega

theorem readDirectory_records (records : List ZipEntryRecord)
    (fits : ∀ record ∈ records, record.filenameBytes.length ≤ 65535 ∧ record.size < 2 ^ 64 ∧ record.offset < 2 ^ 64) (rest : Bytes) :
    readDirectory records.length (records.flatMap buildCentralDirectoryEntry ++ rest) = some (records.map ZipEntryRecord.listed, rest) := by
  induction records with
  | nil => rfl
  | cons record records ih =>
    obtain ⟨named, sized, placed⟩ := fits record mem_cons_self
    have others := ih fun other mem => fits other (mem_cons_of_mem _ mem)
    simp [readDirectory, readDirectoryEntry_fits named sized placed, others]

theorem readDirectory_names {records : List ZipEntryRecord} (fits : ∀ record ∈ records, record.size < 2 ^ 64 ∧ record.offset < 2 ^ 64)
    {entries : List DirectoryEntry}
    (read : readDirectory records.length (records.flatMap buildCentralDirectoryEntry ++ rest) = some (entries, after))
    (whole : entries.map DirectoryEntry.name = records.map ZipEntryRecord.filenameBytes) :
    ∀ record ∈ records, record.filenameBytes.length ≤ 65535 := by
  induction records generalizing entries with
  | nil => exact nofun
  | cons record records ih =>
    obtain ⟨sized, placed⟩ := fits record mem_cons_self
    simp only [length_cons, flatMap_cons, append_assoc, readDirectory, bind_eq_bind, bind_eq_some_iff] at read
    obtain ⟨⟨first, bytes⟩, head, ⟨others, final⟩, tail, same⟩ := read
    cases same
    simp only [map_cons, List.cons.injEq] at whole
    have named : record.filenameBytes.length ≤ 65535 := by
      by_contra long
      exact readDirectoryEntry_long (Nat.lt_of_not_le long) head whole.1
    rw [readDirectoryEntry_fits named sized placed] at head
    cases head
    have below := ih (fun other mem => fits other (mem_cons_of_mem _ mem)) tail whole.2
    exact forall_mem_cons.mpr ⟨named, below⟩

theorem readLocalHeader_header {name : Bytes} (named : name.length ≤ 65535) (dosDate dosTime : Nat) (rest : Bytes) :
    readLocalHeader (buildLocalFileHeader name dosDate dosTime ++ rest) = some (name, rest) := by
  have fields := numbers_words (localFields name.length dosDate dosTime) (name ++ (localExtraField ++ rest))
  have length : name.length % 256 ^ 2 = name.length := Nat.mod_eq_of_lt (Nat.lt_succ_of_le named)
  have extra : numbers [2, 2, 8, 8] localExtraField = some ([1, 16, 0, 0], []) := by decide
  have twenty : localExtraField.length = 20 := by rw [localExtraField_eq, length_words]; rfl
  simp only [localFields, map_cons, map_nil, length] at fields
  simp [readLocalHeader, buildLocalFileHeader_eq, localFields, fields, take_append rfl, take_append twenty, extra]

theorem numbers_descriptor (sized : record.size < 2 ^ 64) (rest : Bytes) :
    numbers [4, 4, 8, 8] (buildDataDescriptor record.crc32 record.size ++ rest) =
      some ([0x08074b50, record.crc32.toNat, record.size, record.size], rest) := by
  have fields := numbers_words (descriptorFields record.crc32.toNat record.size) rest
  have whole : record.size % 256 ^ 8 = record.size := Nat.mod_eq_of_lt sized
  have crc : record.crc32.toNat % 256 ^ 4 = record.crc32.toNat := Nat.mod_eq_of_lt record.crc32.isLt
  simp only [descriptorFields, map_cons, map_nil, whole, crc] at fields
  rw [buildDataDescriptor_eq]
  exact fields

end

end MilkAndHenny.Zip
