import MilkAndHenny.Zip.Layout

/-! Every archive that fits its fields is read back. The offsets grow with the bytes written. -/

namespace MilkAndHenny.Zip
open Library Bytes

variable {files : List ZipSourceFile} {state : Writing} {items : List (String × ZipSourceFile)}

def ZipSourceFile.content (file : ZipSourceFile) : Bytes := file.chunks.flatten

/-- A file as it ought to come back. -/
def ZipSourceFile.entry (file : ZipSourceFile) (name : String) : Entry where
  name := name
  content := file.content
  crc32 := (checksum file.content).toNat

theorem foldl_chunk (chunks : List Bytes) (state : Receiving) :
    chunks.foldl Receiving.chunk state =
      { target := state.target ++ chunks, crc := updateCrc32 state.crc chunks.flatten, size := state.size + chunks.flatten.length
        bytesWritten := state.bytesWritten + chunks.flatten.length } := by
  induction chunks generalizing state with
  | nil => simp [updateCrc32]
  | cons chunk chunks ih =>
    rw [foldl_cons, ih]
    simp [Receiving.chunk, ZipSaveTarget.write, updateCrc32_append, Nat.add_assoc]

def ZipSourceFile.record (file : ZipSourceFile) (name : String) (offset : Nat) : ZipEntryRecord where
  crc32 := checksum file.content
  filenameBytes := ofText name
  offset := offset
  size := file.content.length
  dosDate := (getDosDateTime file.now).1
  dosTime := (getDosDateTime file.now).2

def ZipEntryRecord.bytes (record : ZipEntryRecord) (content : Bytes) : Bytes :=
  buildLocalFileHeader record.filenameBytes record.dosDate record.dosTime ++ (content ++
    buildDataDescriptor record.crc32 record.size)

theorem writeFileEntry_flatten (state : Writing) (file : ZipSourceFile) (name : String) :
    (writeFileEntry state file name).target.flatten =
      state.target.flatten ++ (file.record name state.offset).bytes file.content := by
  simp [writeFileEntry, foldl_chunk, ZipSaveTarget.write, ZipEntryRecord.bytes, ZipSourceFile.record, ZipSourceFile.content,
    finalizeCrc32_eq]

theorem writeFileEntry_records (state : Writing) (file : ZipSourceFile) (name : String) :
    (writeFileEntry state file name).records = state.records ++ [file.record name state.offset] := by
  simp [writeFileEntry, foldl_chunk, ZipSourceFile.record, ZipSourceFile.content, finalizeCrc32_eq]

theorem writeFileEntry_offset (state : Writing) (file : ZipSourceFile) (name : String) :
    (writeFileEntry state file name).offset = state.offset + ((file.record name state.offset).bytes file.content).length := by
  simp [writeFileEntry, foldl_chunk, ZipEntryRecord.bytes, ZipSourceFile.record, ZipSourceFile.content, finalizeCrc32_eq, Nat.add_assoc]

structure Placed (archive : Bytes) (record : ZipEntryRecord) (name : String) (file : ZipSourceFile) : Prop where
  named : record.filenameBytes = ofText name
  sized : record.size = file.content.length
  checked : record.crc32 = checksum file.content
  found : ∃ before after, before.length = record.offset ∧ archive = before ++ (record.bytes file.content ++ after)

theorem Placed.append {archive : Bytes} {record : ZipEntryRecord} {name : String} {file : ZipSourceFile}
    (placed : Placed archive record name file) (more : Bytes) : Placed (archive ++ more) record name file where
  named := placed.named
  sized := placed.sized
  checked := placed.checked
  found := by
    obtain ⟨before, after, offset, same⟩ := placed.found
    exact ⟨before, after ++ more, offset, by simp [same]⟩

/-- The bytes so far hold these files in order, and the offset is where the next one goes. -/
structure Written (state : Writing) (items : List (String × ZipSourceFile)) : Prop where
  offset : state.offset = state.target.flatten.length
  placed : Forall₂ (fun record item => Placed state.target.flatten record item.1 item.2) state.records items
  length : state.target.flatten.length = (items.map fun item => 74 + item.1.utf8ByteSize + item.2.content.length).sum

theorem written_nothing : Written {} [] := ⟨rfl, .nil, rfl⟩

theorem length_bytes (file : ZipSourceFile) (name : String) (offset : Nat) :
    ((file.record name offset).bytes file.content).length = 74 + name.utf8ByteSize + file.content.length := by
  have header : ((localFields name.utf8ByteSize (getDosDateTime file.now).1 (getDosDateTime file.now).2).map Prod.fst).sum = 30 := rfl
  have descriptor : ((descriptorFields (checksum file.content).toNat file.content.length).map Prod.fst).sum = 24 := rfl
  have extra : localExtraField.length = 20 := by rw [localExtraField_eq, length_words]; rfl
  simp only [ZipEntryRecord.bytes, ZipSourceFile.record, buildLocalFileHeader_eq, buildDataDescriptor_eq, length_append,
    length_words, header, descriptor, extra, length_ofText]
  omega

theorem writeFileEntry_written (written : Written state items)
    (file : ZipSourceFile) (name : String) : Written (writeFileEntry state file name) (items ++ [(name, file)]) where
  offset := by rw [writeFileEntry_offset, writeFileEntry_flatten, length_append, written.offset]
  placed := by
    rw [writeFileEntry_records, writeFileEntry_flatten]
    have earlier := written.placed.imp fun record item placed => placed.append ((file.record name state.offset).bytes file.content)
    have last : Placed (state.target.flatten ++ (file.record name state.offset).bytes file.content) (file.record name state.offset)
        name file := ⟨rfl, rfl, rfl, state.target.flatten, [], written.offset.symm, by rw [append_nil]⟩
    exact List.rel_append earlier (.cons last .nil)
  length := by
    rw [writeFileEntry_flatten, length_append, written.length, length_bytes, map_append, sum_append]
    rfl

theorem writeFiles_written (names : List (String × String)) (files : List ZipSourceFile) :
    Written (writeFiles names files) (files.map fun file => ((names.lookup file.id).getD file.filename, file)) := by
  have run (files : List ZipSourceFile) : ∀ (state : Writing) (items : List (String × ZipSourceFile)), Written state items →
      Written (files.foldl (fun state file => writeFileEntry state file ((names.lookup file.id).getD file.filename)) state)
        (items ++ files.map fun file => ((names.lookup file.id).getD file.filename, file)) := by
    induction files with
    | nil =>
      intro state items written
      rwa [map_nil, append_nil]
    | cons file files ih =>
      intro state items written
      have next := ih _ _ (writeFileEntry_written written file ((names.lookup file.id).getD file.filename))
      rwa [append_assoc] at next
  exact run files {} [] written_nothing

theorem writeEntries_eq (target : ZipSaveTarget) (records : List ZipEntryRecord) :
    writeEntries target records =
      (target ++ records.map buildCentralDirectoryEntry, (records.flatMap buildCentralDirectoryEntry).length) := by
  have run (step : ZipSaveTarget × Nat → ZipEntryRecord → ZipSaveTarget × Nat) (writes : ∀ target size record, step (target, size) record =
      (ZipSaveTarget.write target (buildCentralDirectoryEntry record), size + (buildCentralDirectoryEntry record).length)) :
      ∀ (target : ZipSaveTarget) (size : Nat), records.foldl step (target, size) =
        (target ++ records.map buildCentralDirectoryEntry, size + (records.flatMap buildCentralDirectoryEntry).length) := by
    induction records with
    | nil => simp
    | cons record records ih =>
      intro target size
      rw [foldl_cons, writes, ih]
      simp [ZipSaveTarget.write, Nat.add_assoc]
  rw [writeEntries, run _ fun _ _ _ => rfl, Nat.zero_add]

def ending (records : List ZipEntryRecord) (offset : Nat) : Bytes :=
  records.flatMap buildCentralDirectoryEntry ++
    buildEndOfCentralDirectory records.length (records.flatMap buildCentralDirectoryEntry).length offset

theorem writeCentralDirectory_flatten (records : List ZipEntryRecord) (target : ZipSaveTarget) (offset : Nat) :
    (writeCentralDirectory records target offset).flatten = target.flatten ++ ending records offset := by
  simp [writeCentralDirectory, writeEntries_eq, ZipSaveTarget.write, ending, List.flatMap]

section
variable {archive : Bytes} {items : List (String × ZipSourceFile)} {records : List ZipEntryRecord} {record : ZipEntryRecord} {file : ZipSourceFile} {name : String}

theorem readEntry_placed
    (placed : Placed archive record name file) (named : record.filenameBytes.length ≤ 65535) (sized : record.size < 2 ^ 64) :
    readEntry archive record.listed = some (file.entry name) := by
  obtain ⟨before, after, offset, same⟩ := placed.found
  have there : archive.drop record.offset = record.bytes file.content ++ after := by
    rw [same, ← offset, drop_left]
  have text : toText record.filenameBytes = some name := by rw [placed.named, toText_ofText]
  simp only [readEntry, ZipEntryRecord.listed, there, ZipEntryRecord.bytes, append_assoc, bind_eq_bind,
    readLocalHeader_header named, bind_some, guard_true, take_append placed.sized.symm, numbers_descriptor sized]
  simp [text, ZipSourceFile.entry, placed.checked]

theorem length_ends (count size offset : Nat) :
    (zip64Record count size offset).length = 56 ∧ (zip64Locator (offset + size)).length = 20 ∧ footer.length = 22 := by
  refine ⟨?_, ?_, by decide⟩
  · rw [zip64Record_eq, length_words]
    rfl
  · rfl

theorem readZip_ending {files : Bytes} (small : (files ++ ending records files.length).length < 2 ^ 64)
    (counted : records.length < 2 ^ 64) :
    readZip (files ++ ending records files.length) = (do
      let (entries, rest) ← readDirectory records.length
        (records.flatMap buildCentralDirectoryEntry ++
          buildEndOfCentralDirectory records.length (records.flatMap buildCentralDirectoryEntry).length files.length)
      guard (rest.length = 98)
      entries.mapM (readEntry (files ++ ending records files.length))) := by
  obtain ⟨directory, listed⟩ : ∃ directory, directory = records.flatMap buildCentralDirectoryEntry := ⟨_, rfl⟩
  obtain ⟨record, isRecord⟩ : ∃ record, record = zip64Record records.length directory.length files.length := ⟨_, rfl⟩
  obtain ⟨locator, isLocator⟩ : ∃ locator, locator = zip64Locator (files.length + directory.length) := ⟨_, rfl⟩
  obtain ⟨fifty, twenty, short⟩ := length_ends records.length directory.length files.length
  rw [← isRecord] at fifty
  rw [← isLocator] at twenty
  have whole : files ++ ending records files.length = files ++ (directory ++ (record ++ (locator ++ footer))) := by
    rw [ending, buildEndOfCentralDirectory_eq, ← listed, isRecord, isLocator]
  obtain ⟨archive, same⟩ : ∃ archive, archive = files ++ ending records files.length := ⟨_, rfl⟩
  have total : archive.length = files.length + directory.length + 98 := by
    rw [same, whole]
    simp only [length_append, fifty, twenty, short]
    omega
  rw [← same] at small ⊢
  rw [whole] at same
  have atFooter : archive.drop (archive.length - 22) = footer := by
    rw [same, ← append_assoc, ← append_assoc, ← append_assoc]
    refine drop_left' ?_
    simp only [length_append, fifty, twenty, short]
    omega
  have atLocator : archive.drop (archive.length - 42) = locator ++ footer := by
    rw [same, ← append_assoc, ← append_assoc]
    refine drop_left' ?_
    simp only [length_append, fifty, twenty, short]
    omega
  have atRecord : archive.drop (files.length + directory.length) = record ++ (locator ++ footer) := by
    rw [same, ← append_assoc]
    exact drop_left' length_append
  have atDirectory : archive.drop files.length = directory ++ (record ++ (locator ++ footer)) := by
    rw [same]
    exact drop_left
  have recordAt : readLocator (locator ++ footer) = some (files.length + directory.length) := by
    rw [isLocator]
    exact readLocator_zip64Locator (by omega) footer
  have endRecord : readEndRecord (record ++ (locator ++ footer)) = some ⟨records.length, directory.length, files.length⟩ := by
    rw [isRecord]
    exact readEndRecord_zip64Record counted (by omega) (by omega) (locator ++ footer)
  have long : 42 ≤ archive.length := by omega
  rw [buildEndOfCentralDirectory_eq, ← listed, ← isRecord, ← isLocator]
  have left (rest : Bytes) : archive.length = files.length + directory.length + rest.length ↔ rest.length = 98 := by
    omega
  simp [readZip, long, atFooter, readFooter_footer, atLocator, recordAt, atRecord, endRecord, atDirectory, left]

theorem readEntry_name {listed : DirectoryEntry} {entry : Entry} (read : readEntry archive listed = some entry) :
    listed.name = ofText entry.name := by
  simp only [readEntry, bind_eq_bind, bind_eq_some_iff, Option.guard_eq_some'] at read
  obtain ⟨⟨name, _⟩, _, _, same, ⟨content, _⟩, _, _, _, _, _, text, decoded, made⟩ := read
  cases made
  rw [← same, ofText_toText decoded]

theorem mapM_readEntry_names {listed : List DirectoryEntry} {entries : List Entry}
    (read : listed.mapM (readEntry archive) = some entries) :
    listed.map DirectoryEntry.name = entries.map fun entry => ofText entry.name := by
  induction listed generalizing entries with
  | nil =>
    cases read
    rfl
  | cons first listed ih =>
    simp only [List.mapM_cons, bind_eq_bind, bind_eq_some_iff] at read
    obtain ⟨entry, head, others, tail, made⟩ := read
    cases made
    rw [map_cons, map_cons, readEntry_name head, ih tail]

theorem mapM_readEntry_placed (placed : Forall₂ (fun record item => Placed archive record item.1 item.2) records items)
    (fits : ∀ record ∈ records, record.filenameBytes.length ≤ 65535 ∧ record.size < 2 ^ 64) :
    (records.map ZipEntryRecord.listed).mapM (readEntry archive) = some (items.map fun item => item.2.entry item.1) := by
  induction placed with
  | nil => rfl
  | cons first placed ih =>
    obtain ⟨named, sized⟩ := fits _ mem_cons_self
    have others := ih fun other mem => fits other (mem_cons_of_mem _ mem)
    simp [readEntry_placed first named sized, others]

theorem Placed.within (placed : Placed archive record name file) : record.size ≤ archive.length ∧ record.offset ≤ archive.length := by
  obtain ⟨before, after, offset, same⟩ := placed.found
  have content : file.content.length ≤ (record.bytes file.content).length := by
    simp only [ZipEntryRecord.bytes, length_append]
    omega
  have sized := placed.sized
  have total := congrArg List.length same
  simp only [length_append] at total
  omega

theorem length_records_le (records : List ZipEntryRecord) : records.length ≤ (records.flatMap buildCentralDirectoryEntry).length := by
  induction records with
  | nil => rfl
  | cons record =>
    have positive : 28 ≤ (buildCentralDirectoryEntry record).length := by
      rw [buildCentralDirectoryEntry_eq, length_append, length_append, length_directoryExtraField]
      omega
    rw [flatMap_cons, length_append, length_cons]
    omega

/-- An archive is read back if, and only if, every name fits the sixteen bits of its length. -/
theorem Written.read_iff (written : Written state items)
    (small : (state.target.flatten ++ ending state.records state.offset).length < 2 ^ 64) :
    readZip (state.target.flatten ++ ending state.records state.offset) = some (items.map fun item => item.2.entry item.1) ↔
      ∀ item ∈ items, item.1.utf8ByteSize ≤ 65535 := by
  obtain ⟨target, offset, records⟩ := state
  obtain ⟨here, placed, _⟩ := written
  simp only at here placed small ⊢
  subst here
  have bounds : ∀ record ∈ records, record.size < 2 ^ 64 ∧ record.offset < 2 ^ 64 := by
    intro record mem
    obtain ⟨item, _, here⟩ := mem_pairs (List.Forall₂.flip placed) mem
    have inside := here.within
    rw [length_append] at small
    omega
  have counted : records.length < 2 ^ 64 := by
    have few := length_records_le records
    simp only [ending, length_append] at small
    omega
  have names : records.map ZipEntryRecord.filenameBytes = items.map fun item => ofText item.1 :=
    map_pairs placed fun record item here => here.named
  have lengths : (∀ record ∈ records, record.filenameBytes.length ≤ 65535) ↔ ∀ item ∈ items, item.1.utf8ByteSize ≤ 65535 := by
    have sizes : records.map (fun record => record.filenameBytes.length) = items.map fun item => item.1.utf8ByteSize :=
      map_pairs placed fun record item here => by rw [here.named, length_ofText]
    have both := congrArg (fun sizes : List Nat => ∀ size ∈ sizes, size ≤ 65535) sizes
    simp only [forall_mem_map] at both
    exact Iff.of_eq both
  rw [readZip_ending small counted, ← lengths]
  constructor
  · intro read
    simp only [bind_eq_bind, bind_eq_some_iff] at read
    obtain ⟨⟨entries, rest⟩, directory, _, _, files⟩ := read
    have back := mapM_readEntry_names files
    rw [map_map] at back
    exact readDirectory_names bounds directory (back.trans names.symm)
  · intro fits
    have directory := readDirectory_records records
      (fun record mem => ⟨fits record mem, bounds record mem⟩)
      (buildEndOfCentralDirectory records.length (records.flatMap buildCentralDirectoryEntry).length target.flatten.length)
    have all := placed.imp fun record item here => here.append (ending records target.flatten.length)
    have files := mapM_readEntry_placed all fun record mem => ⟨fits record mem, (bounds record mem).1⟩
    obtain ⟨fifty, twenty, short⟩ := length_ends records.length (records.flatMap buildCentralDirectoryEntry).length target.flatten.length
    have long : (buildEndOfCentralDirectory records.length (records.flatMap buildCentralDirectoryEntry).length
        target.flatten.length).length = 98 := by
      rw [buildEndOfCentralDirectory_eq, length_append, length_append, fifty, twenty, short]
    simp only [directory, files, long, bind_eq_bind, bind_some, guard_true]
    rfl

end

theorem foldl_next_resolved (files : List ZipSourceFile) (names : Filenames)
    (unique : (names.resolved.map Prod.fst ++ files.map ZipSourceFile.id).Nodup) :
    (files.foldl Filenames.next names).resolved.map Prod.fst = names.resolved.map Prod.fst ++ files.map ZipSourceFile.id := by
  induction files generalizing names with
  | nil => exact (append_nil _).symm
  | cons file files ih =>
    have new : file.id ∉ names.resolved.map Prod.fst := fun mem =>
      (nodup_append.mp unique).2.2 file.id mem file.id mem_cons_self rfl
    have step : (names.next file).resolved.map Prod.fst = names.resolved.map Prod.fst ++ [file.id] := by
      simp [Filenames.next, map_setKey, if_neg new]
    rw [map_cons, List.append_cons, ← step] at unique
    rw [foldl_cons, ih (names.next file) unique, step, map_cons, append_assoc]
    rfl

theorem resolveArchiveFilenames_ids (unique : (files.map ZipSourceFile.id).Nodup) :
    (resolveArchiveFilenames files).map Prod.fst = files.map ZipSourceFile.id :=
  foldl_next_resolved files {} unique

def archiveNames (files : List ZipSourceFile) : List String := (resolveArchiveFilenames files).map Prod.snd

def named (files : List ZipSourceFile) : List (String × ZipSourceFile) :=
  files.map fun file => (((resolveArchiveFilenames files).lookup file.id).getD file.filename, file)

theorem named_names (unique : (files.map ZipSourceFile.id).Nodup) :
    (named files).map Prod.fst = archiveNames files := by
  have ids := resolveArchiveFilenames_ids unique
  have keys : ((resolveArchiveFilenames files).map Prod.fst).Nodup := by rwa [ids]
  have lookups : files.map (fun file => (resolveArchiveFilenames files).lookup file.id) =
      (resolveArchiveFilenames files).map fun row => some row.2 := by
    have byId : files.map (fun file => (resolveArchiveFilenames files).lookup file.id) =
        ((resolveArchiveFilenames files).map Prod.fst).map fun id => (resolveArchiveFilenames files).lookup id := by
      rw [ids, map_map]
      rfl
    rw [byId, map_map]
    exact map_congr_left fun row mem => lookup_key keys mem
  have pairs : Forall₂ (fun file row => (resolveArchiveFilenames files).lookup file.id = some row.2) files
      (resolveArchiveFilenames files) := by
    have same := List.forall₂_eq_eq_eq.symm ▸ lookups
    rwa [List.forall₂_map_left_iff, forall₂_map_right_iff] at same
  rw [named, map_map]
  exact map_pairs pairs fun file row found => by simp [found]

theorem splitExtension_append (source : String) : (splitExtension source).1 ++ (splitExtension source).2 = source := by
  unfold splitExtension
  split
  · exact String.append_empty
  · split
    · rw [← String.ofList_append, List.take_append_drop, String.ofList_toList]
    · exact String.append_empty

theorem utf8ByteSize_archiveFilename (source : String) {seen : Nat} (again : seen ≠ 0) :
    (archiveFilename source seen).utf8ByteSize = source.utf8ByteSize + (toString (seen + 1)).utf8ByteSize + 3 := by
  have parts := congrArg String.utf8ByteSize (splitExtension_append source)
  have brackets : " (".utf8ByteSize = 2 ∧ ")".utf8ByteSize = 1 := by decide
  rw [String.utf8ByteSize_append] at parts
  rw [archiveFilename, if_neg again]
  simp only [String.utf8ByteSize_append, brackets.1, brackets.2]
  omega

theorem trim_letters (count : Nat) : trim (String.ofList (List.replicate count 'a')) = String.ofList (List.replicate count 'a') := by
  have solid : isSpace 'a' = false := by decide
  have kept : (List.replicate count 'a').dropWhile isSpace = List.replicate count 'a' := by
    cases count with
    | zero => rfl
    | succ => rw [List.replicate_succ, List.dropWhile_cons, solid]; rfl
  rw [trim, String.toList_ofList, kept, List.reverse_replicate, kept, List.reverse_replicate]

theorem buildZipArchive_eq (files : List ZipSourceFile) :
    buildZipArchive files = (writeFiles (resolveArchiveFilenames files) files).target.flatten ++
      ending (writeFiles (resolveArchiveFilenames files) files).records (writeFiles (resolveArchiveFilenames files) files).offset :=
  writeCentralDirectory_flatten ..

/-- What a reader ought to find. -/
def expected (files : List ZipSourceFile) : List Entry := List.zipWith (fun name file => file.entry name) (archiveNames files) files

theorem named_entries (unique : (files.map ZipSourceFile.id).Nodup) :
    (named files).map (fun item => item.2.entry item.1) = expected files := by
  have second : (named files).map Prod.snd = files := by
    rw [named, map_map]
    exact map_id files
  have columns : expected files = List.zipWith (fun name file => file.entry name) ((named files).map Prod.fst) ((named files).map Prod.snd) := by
    rw [expected, named_names unique, second]
  rw [columns, List.zipWith_map, List.zipWith_self]

theorem read_iff (unique : (files.map ZipSourceFile.id).Nodup) (small : (buildZipArchive files).length < 2 ^ 64) :
    readZip (buildZipArchive files) = some (expected files) ↔ ∀ name ∈ archiveNames files, name.utf8ByteSize ≤ 65535 := by
  have written := writeFiles_written (resolveArchiveFilenames files) files
  rw [buildZipArchive_eq] at small ⊢
  rw [← named_entries unique, ← named_names unique, forall_mem_map]
  exact written.read_iff small

theorem length_buildCentralDirectoryEntry (record : ZipEntryRecord) :
    (buildCentralDirectoryEntry record).length = 74 + record.filenameBytes.length := by
  have fields : ((directoryFields record).map Prod.fst).sum = 46 := rfl
  simp only [buildCentralDirectoryEntry_eq, length_append, length_words, fields, length_directoryExtraField]
  omega

theorem Written.length_archive (written : Written state items) :
    (state.target.flatten ++ ending state.records state.offset).length =
      (items.map fun item => 74 + item.1.utf8ByteSize + item.2.content.length).sum +
        (items.map fun item => 74 + item.1.utf8ByteSize).sum + 98 := by
  have directory : state.records.map (fun record => (buildCentralDirectoryEntry record).length) =
      items.map fun item => 74 + item.1.utf8ByteSize :=
    map_pairs written.placed fun record item here => by rw [length_buildCentralDirectoryEntry, here.named, length_ofText]
  obtain ⟨fifty, twenty, short⟩ := length_ends state.records.length (state.records.flatMap buildCentralDirectoryEntry).length state.offset
  rw [ending, length_append, length_append, written.length, buildEndOfCentralDirectory_eq, length_append,
    length_append, fifty, twenty, short, List.length_flatMap, directory]
  omega

def longNames (count : Nat) : List ZipSourceFile :=
  let clock : LocalTime := { year := 2026, month := 0, day := 1, hours := 12, minutes := 0, seconds := 0 }
  [{ id := "a", filename := String.ofList (List.replicate count 'a'), chunks := [], now := clock },
    { id := "b", filename := String.ofList (List.replicate count 'a'), chunks := [], now := clock }]

theorem source_letters (count : Nat) (id : String) (clock : LocalTime) :
    ZipSourceFile.source ⟨id, String.ofList (List.replicate (count + 1) 'a'), [], clock⟩ = String.ofList (List.replicate (count + 1) 'a') := by
  have some : String.ofList (List.replicate (count + 1) 'a') ≠ "" := by
    intro none
    have chars := congrArg String.toList none
    rw [String.toList_ofList] at chars
    cases chars
  rw [ZipSourceFile.source, trim_letters, if_neg some]

theorem archiveNames_longNames (count : Nat) :
    archiveNames (longNames (count + 1)) =
      [String.ofList (List.replicate (count + 1) 'a'), archiveFilename (String.ofList (List.replicate (count + 1) 'a')) 1] := by
  simp [archiveNames, resolveArchiveFilenames, longNames, Filenames.next, Filenames.seen, source_letters, setKey, archiveFilename]

theorem longNames_unique (count : Nat) : ((longNames count).map ZipSourceFile.id).Nodup := by
  have ids : (longNames count).map ZipSourceFile.id = ["a", "b"] := rfl
  rw [ids]
  decide

theorem utf8ByteSize_letters (count : Nat) : (String.ofList (List.replicate count 'a')).utf8ByteSize = count := by
  induction count with
  | zero => rfl
  | succ count ih =>
    have one : 'a'.utf8Size = 1 := by decide
    rw [List.replicate_succ, String.ofList_cons, String.utf8ByteSize_append, String.utf8ByteSize_singleton, ih, one, Nat.add_comm]

theorem utf8ByteSize_second (count : Nat) :
    (archiveFilename (String.ofList (List.replicate count 'a')) 1).utf8ByteSize = count + 4 := by
  have number : (toString 2).utf8ByteSize = 1 := by decide
  rw [utf8ByteSize_archiveFilename _ Nat.one_ne_zero, utf8ByteSize_letters, number]

theorem content_longNames (count : Nat) : ∀ file ∈ longNames count, file.content = [] := by
  intro file mem
  simp only [longNames, mem_cons, not_mem_nil, or_false] at mem
  rcases mem with rfl | rfl
  · rfl
  · rfl

theorem length_longNames (count : Nat) : (buildZipArchive (longNames (count + 1))).length = 4 * count + 406 := by
  have names := named_names (longNames_unique (count + 1))
  have sizes (f : String → Nat) : (named (longNames (count + 1))).map (fun item => f item.1) = (archiveNames (longNames (count + 1))).map f := by
    rw [← names, map_map]
    rfl
  have empty : (named (longNames (count + 1))).map (fun item => 74 + item.1.utf8ByteSize + item.2.content.length) =
      (named (longNames (count + 1))).map fun item => 74 + item.1.utf8ByteSize := by
    refine map_congr_left fun item mem => ?_
    obtain ⟨file, listed, rfl⟩ := mem_map.mp mem
    simp [content_longNames _ file listed]
  rw [buildZipArchive_eq, (writeFiles_written _ _).length_archive]
  change ((named (longNames (count + 1))).map _).sum + ((named (longNames (count + 1))).map _).sum + 98 = _
  rw [empty, sizes (74 + ·.utf8ByteSize), archiveNames_longNames]
  simp only [map_cons, map_nil, utf8ByteSize_letters, utf8ByteSize_second, sum_cons, List.sum_nil]
  omega

theorem filename_longNames (count : Nat) : ∀ file ∈ longNames count, file.filename.utf8ByteSize ≤ count := by
  intro file mem
  simp only [longNames, mem_cons, not_mem_nil, or_false] at mem
  rcases mem with rfl | rfl
  · exact Nat.le_of_eq (utf8ByteSize_letters count)
  · exact Nat.le_of_eq (utf8ByteSize_letters count)

theorem longNames_lost {count : Nat} (long : 65535 < count + 5) (small : 4 * count + 406 < 2 ^ 53) :
    (buildZipArchive (longNames (count + 1))).length < 2 ^ 53 ∧
      readZip (buildZipArchive (longNames (count + 1))) ≠ some (expected (longNames (count + 1))) := by
  have length : (buildZipArchive (longNames (count + 1))).length < 2 ^ 53 := by rwa [length_longNames]
  refine ⟨length, fun read => ?_⟩
  have fits := (read_iff (longNames_unique (count + 1)) (Nat.lt_trans length (by decide))).mp read
  rw [archiveNames_longNames] at fits
  have second := fits _ (mem_cons_of_mem _ mem_cons_self)
  rw [utf8ByteSize_second] at second
  omega

/-- An archive whose names all fit is read back: every file under its name, with its content and the
checksum of its content, whatever the chunks were. No other archive is. -/
theorem archive_reads_back (files : List ZipSourceFile) (unique : (files.map ZipSourceFile.id).Nodup)
    (small : (buildZipArchive files).length < 2 ^ 53) :
    (resolveArchiveFilenames files).map Prod.fst = files.map ZipSourceFile.id ∧
      (readZip (buildZipArchive files) = some (expected files) ↔ ∀ name ∈ archiveNames files, name.utf8ByteSize ≤ 65535) :=
  ⟨resolveArchiveFilenames_ids unique, read_iff unique (Nat.lt_trans small (by decide))⟩

def clips : List ZipSourceFile :=
  let clock : LocalTime := { year := 2026, month := 0, day := 1, hours := 12, minutes := 0, seconds := 0 }
  [{ id := "1", filename := "clip.mp4", chunks := [[1, 2], [], [3]], now := clock },
    { id := "2", filename := " clip.mp4", chunks := [], now := clock }]

theorem archive_reads_back_clips :
    (resolveArchiveFilenames clips).map Prod.fst = clips.map ZipSourceFile.id ∧
      (readZip (buildZipArchive clips) = some (expected clips) ↔ ∀ name ∈ archiveNames clips, name.utf8ByteSize ≤ 65535) :=
  archive_reads_back clips (by decide) (by decide +kernel)

/-- The number that tells them apart makes the second name too long for its field. -/
theorem long_names_lost :
    ((longNames 65535).map ZipSourceFile.id).Nodup ∧ (∀ file ∈ longNames 65535, file.filename.utf8ByteSize ≤ 65535) ∧
      (buildZipArchive (longNames 65535)).length < 2 ^ 53 ∧
      readZip (buildZipArchive (longNames 65535)) ≠ some (expected (longNames 65535)) :=
  ⟨longNames_unique 65535, filename_longNames 65535, @longNames_lost 65534 (by decide) (by decide)⟩

end MilkAndHenny.Zip
