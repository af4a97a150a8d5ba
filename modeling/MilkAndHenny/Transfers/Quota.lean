import MilkAndHenny.Library.Holding
import MilkAndHenny.Library.Machine
import MilkAndHenny.Transfers.Catalogue
import Mathlib.Algebra.Order.BigOperators.Group.List
import Mathlib.Algebra.Order.Group.Nat
import Mathlib.Algebra.Order.Group.Int

/-! Appends under a quota. A batch holds its ids, its names and its bytes from the moment it is
reserved, so there is nothing left to refuse when it is finalized. -/

namespace MilkAndHenny.Transfers

open Library

variable {transfer : Transfer} {limits : Limits} {files : List TransferFile} {now : Int}
  {selected : List TransferUploadFileInput} {own : AppendReservation} {ids : List String} {file : TransferFile}
  {transferId : String} {after : Transfer}

theorem selection_ok {files : List TransferUploadFileInput} {selected : Selection} (chosen : selection files = .ok selected) :
    selected.ids = files.map TransferUploadFileInput.id ∧ selected.names = files.flatMap TransferUploadFileInput.names ∧
      selected.bytes = (files.map TransferUploadFileInput.bytes).sum ∧ 1 ≤ files.length ∧ selected.ids.Nodup ∧ selected.names.Nodup ∧
      ∀ file ∈ files, 0 ≤ file.bytes := by
  unfold selection at chosen
  simp only at chosen
  split at chosen
  · cases chosen
  · next some =>
    split at chosen
    · cases chosen
    · next sound =>
      split at chosen
      · cases chosen
      · next apart =>
        cases chosen
        refine ⟨rfl, rfl, rfl, by omega, by grind, by grind, fun file mem => ?_⟩
        have valid := eq_false_iff.mpr sound
        rw [any_eq_false] at valid
        have sizes := valid file mem
        unfold TransferUploadFileInput.bytes
        cases original : file.originalSize with
        | none =>
          simp only [fits] at sizes
          grind
        | some =>
          simp only [original, fits, all_some] at sizes
          grind

theorem selection_named {files : List TransferUploadFileInput} {selected : Selection} (chosen : selection files = .ok selected) :
    ∀ file ∈ files, file.id ≠ "" ∧ file.name ≠ "" := by
  unfold selection at chosen
  simp only at chosen
  split at chosen
  · cases chosen
  · split at chosen
    · cases chosen
    · next sound =>
      split at chosen
      · cases chosen
      · next apart =>
        intro file mem
        have valid := eq_false_iff.mpr sound
        rw [any_eq_false] at valid
        have named := valid file mem
        refine ⟨fun blank => apart (.inr (.inl ?_)), fun blank => named (by simp [blank])⟩
        exact blank ▸ mem_map_of_mem mem

/-- What a batch holds is what it selected. -/
structure Listed (reservation : AppendReservation) : Prop where
  ids : reservation.fileIds = reservation.fingerprint.map TransferUploadFileInput.id
  names : reservation.filenames = reservation.fingerprint.flatMap TransferUploadFileInput.names
  count : reservation.reservedFileCount = reservation.fingerprint.length
  bytes : 0 ≤ reservation.reservedBytes
  some : 1 ≤ reservation.fingerprint.length
  apart : reservation.fileIds.Nodup
  unique : reservation.filenames.Nodup
  named : ∀ chosen ∈ reservation.fingerprint, chosen.id ≠ "" ∧ chosen.name ≠ ""

def Transfer.idHolders (transfer : Transfer) : List (List String) :=
  transfer.files.map (fun file => [file.id]) ++ transfer.appends.map AppendReservation.fileIds

def Transfer.nameHolders (transfer : Transfer) : List (List String) :=
  transfer.files.map TransferFile.names ++ transfer.appends.map AppendReservation.filenames

structure Distinct (transfer : Transfer) : Prop where
  ids : Apart transfer.idHolders
  names : Apart transfer.nameHolders
  keyed : (transfer.appends.map AppendReservation.fingerprint).Nodup
  listed : ∀ reservation ∈ transfer.appends, Listed reservation
  sizes : ∀ file ∈ transfer.files, 0 ≤ file.bytes

/-- A batch is only ever reserved within the limits. -/
def Granted (limits : Limits) (transfer : Transfer) : Prop :=
  transfer.appends ≠ [] → beyond limits transfer.fileCount transfer.byteCount = false

def Within (limits : Limits) (transfer : Transfer) : Prop :=
  transfer.fileCount ≤ limits.files ∧ ∀ total ∈ limits.maxTotalBytes, transfer.byteCount ≤ total

theorem usedIds_eq (transfer : Transfer) : transfer.usedIds = transfer.idHolders.flatten := by
  rw [Transfer.usedIds, Transfer.idHolders, List.flatten_append, List.map_eq_flatMap]
  rfl

theorem usedNames_eq (transfer : Transfer) : transfer.usedNames = transfer.nameHolders.flatten := by
  simp [Transfer.usedNames, Transfer.nameHolders, List.flatMap]

theorem Distinct.usedIds_nodup (distinct : Distinct transfer) : transfer.usedIds.Nodup := by
  rw [usedIds_eq]
  refine distinct.ids.nodup_flatten fun holder mem => ?_
  rcases mem_append.mp mem with stored | reserved
  · obtain ⟨file, -, rfl⟩ := mem_map.mp stored
    exact nodup_singleton _
  · obtain ⟨reservation, listed, rfl⟩ := mem_map.mp reserved
    exact (distinct.listed reservation listed).apart

theorem Distinct.usedNames_nodup (distinct : Distinct transfer) (own : ∀ file ∈ transfer.files, file.names.Nodup) :
    transfer.usedNames.Nodup := by
  rw [usedNames_eq]
  refine distinct.names.nodup_flatten fun holder mem => ?_
  rcases mem_append.mp mem with stored | reserved
  · obtain ⟨file, listed, rfl⟩ := mem_map.mp stored
    exact own file listed
  · obtain ⟨reservation, listed, rfl⟩ := mem_map.mp reserved
    exact (distinct.listed reservation listed).unique

section
variable {appends : List AppendReservation}

theorem Distinct.fewer (distinct : Distinct transfer)
    (fewerFiles : files.Sublist transfer.files) (fewer : appends.Sublist transfer.appends) :
    Distinct { transfer with files, appends } where
  ids := distinct.ids.sublist ((fewerFiles.map _).append (fewer.map _))
  names := distinct.names.sublist ((fewerFiles.map _).append (fewer.map _))
  keyed := distinct.keyed.sublist (fewer.map _)
  listed := fun reservation mem => distinct.listed reservation (fewer.subset mem)
  sizes := fun file mem => distinct.sizes file (fewerFiles.subset mem)

theorem fileCount_fewer (fewerFiles : files.Sublist transfer.files)
    (fewer : appends.Sublist transfer.appends) : ({ transfer with files, appends } : Transfer).fileCount ≤ transfer.fileCount :=
  Nat.add_le_add fewerFiles.length_le ((fewer.map _).sum_le_sum fun _ _ => Nat.zero_le _)

theorem byteCount_fewer (distinct : Distinct transfer)
    (fewerFiles : files.Sublist transfer.files) (fewer : appends.Sublist transfer.appends) :
    0 ≤ ({ transfer with files, appends } : Transfer).byteCount ∧
      ({ transfer with files, appends } : Transfer).byteCount ≤ transfer.byteCount := by
  have stored : ∀ bytes ∈ transfer.files.map TransferFile.bytes, 0 ≤ bytes := forall_mem_map.mpr distinct.sizes
  have reserved : ∀ bytes ∈ transfer.appends.map AppendReservation.reservedBytes, 0 ≤ bytes :=
    forall_mem_map.mpr fun reservation mem => (distinct.listed reservation mem).bytes
  constructor
  · exact add_nonneg (List.sum_nonneg fun bytes mem => stored bytes ((fewerFiles.map _).subset mem))
      (List.sum_nonneg fun bytes mem => reserved bytes ((fewer.map _).subset mem))
  · exact add_le_add ((fewerFiles.map _).sum_le_sum stored) ((fewer.map _).sum_le_sum reserved)

theorem beyond_mono {count fewer : Nat} {bytes less : Int} (inside : beyond limits count bytes = false) (files : fewer ≤ count)
    (positive : 0 ≤ less) (smaller : less ≤ bytes) : beyond limits fewer less = false := by
  simp only [beyond, isSafeInteger, or_eq_false_iff, not_eq_false', and_eq_true, decide_eq_true_eq,
    decide_eq_false_iff_not] at inside ⊢
  obtain ⟨⟨⟨low, high⟩, few⟩, total⟩ := inside
  refine ⟨⟨⟨by omega, by omega⟩, by omega⟩, ?_⟩
  cases most : limits.maxTotalBytes with
  | none => rfl
  | some =>
    simp only [most, any_some, decide_eq_false_iff_not] at total ⊢
    omega

theorem within_of_inside (inside : beyond limits transfer.fileCount transfer.byteCount = false) : Within limits transfer := by
  simp only [beyond, or_eq_false_iff, decide_eq_false_iff_not] at inside
  refine ⟨Nat.le_of_not_lt inside.1.2, fun total most => ?_⟩
  have below := inside.2
  rw [mem_def.mp most] at below
  simpa using below

theorem Granted.fewer (granted : Granted limits transfer) (distinct : Distinct transfer)
    (fewerFiles : files.Sublist transfer.files) (fewer : appends.Sublist transfer.appends) :
    Granted limits { transfer with files, appends } := by
  intro some
  have any : transfer.appends ≠ [] := fun none => some (List.sublist_nil.mp (none ▸ fewer))
  obtain ⟨positive, smaller⟩ := byteCount_fewer distinct fewerFiles fewer
  exact beyond_mono (granted any) (fileCount_fewer fewerFiles fewer) positive smaller

theorem Within.fewer (within : Within limits transfer) (distinct : Distinct transfer)
    (fewerFiles : files.Sublist transfer.files) (fewer : appends.Sublist transfer.appends) :
    Within limits { transfer with files, appends } :=
  ⟨(fileCount_fewer fewerFiles fewer).trans within.1,
    fun total most => (byteCount_fewer distinct fewerFiles fewer).2.trans (within.2 total most)⟩

theorem Distinct.dropExpired (distinct : Distinct transfer) (now : Int) : Distinct (transfer.dropExpired now) :=
  distinct.fewer (.refl _) filter_sublist

theorem Granted.dropExpired (granted : Granted limits transfer) (distinct : Distinct transfer) (now : Int) :
    Granted limits (transfer.dropExpired now) := granted.fewer distinct (.refl _) filter_sublist

theorem Within.dropExpired (within : Within limits transfer) (distinct : Distinct transfer) (now : Int) :
    Within limits (transfer.dropExpired now) := within.fewer distinct (.refl _) filter_sublist

end

section
variable {ttl : Int} {deleting : Bool} {files : List TransferUploadFileInput} {selected : Selection}

def reservation (transfer : Transfer) (ttl : Int) (files : List TransferUploadFileInput) (selected : Selection) (now : Int) : AppendReservation where
  fingerprint := files
  fileIds := selected.ids
  filenames := selected.names
  reservedFileCount := files.length
  reservedBytes := selected.bytes
  createdAt := now
  expiresAt := min transfer.expiresAt (now + ttl)

theorem reserve_cases (transfer : Transfer) (limits : Limits) (ttl : Int) (deleting : Bool) (files : List TransferUploadFileInput)
    (selected : Selection) (now : Int) :
    (transfer.reserve limits ttl deleting files selected now).2 = transfer.dropExpired now ∨
      files ∉ (transfer.dropExpired now).appends.map AppendReservation.fingerprint ∧
      (∀ id ∈ selected.ids, id ∉ (transfer.dropExpired now).usedIds) ∧ (∀ name ∈ selected.names, name ∉ (transfer.dropExpired now).usedNames) ∧
      beyond limits ((transfer.dropExpired now).fileCount + files.length) ((transfer.dropExpired now).byteCount + selected.bytes) = false ∧
      transfer.reserve limits ttl deleting files selected now = (.reserved, { transfer.dropExpired now with
        appends := (transfer.dropExpired now).appends ++ [reservation transfer ttl files selected now] }) := by
  unfold Transfer.reserve
  simp only
  split
  · exact .inl rfl
  · next new =>
    split
    · exact .inl rfl
    · split
      · exact .inl rfl
      · next free =>
        split
        · exact .inl rfl
        · next inside =>
          refine .inr ⟨?_, ?_, ?_, eq_false_iff.mpr inside, rfl⟩
          · intro mem
            obtain ⟨held, listed, same⟩ := mem_map.mp mem
            exact new (any_eq_true.mpr ⟨held, listed, beq_iff_eq.mpr same⟩)
          · intro id chosen used
            exact free (or_eq_true_iff.mpr (.inl (any_eq_true.mpr ⟨id, chosen, contains_iff_mem.mpr used⟩)))
          · intro name chosen used
            exact free (or_eq_true_iff.mpr (.inr (any_eq_true.mpr ⟨name, chosen, contains_iff_mem.mpr used⟩)))

theorem listed_reservation (chosen : selection files = .ok selected) : Listed (reservation transfer ttl files selected now) := by
  obtain ⟨ids, names, bytes, some, apart, unique, sizes⟩ := selection_ok chosen
  refine ⟨ids, names, rfl, ?_, some, apart, unique, selection_named chosen⟩
  change 0 ≤ selected.bytes
  rw [bytes]
  exact List.sum_nonneg (forall_mem_map.mpr sizes)

theorem Distinct.add (distinct : Distinct transfer) {batch : AppendReservation} (listed : Listed batch)
    (new : batch.fingerprint ∉ transfer.appends.map AppendReservation.fingerprint) (ids : ∀ id ∈ batch.fileIds, id ∉ transfer.usedIds)
    (names : ∀ name ∈ batch.filenames, name ∉ transfer.usedNames) : Distinct { transfer with appends := transfer.appends ++ [batch] } where
  ids := by
    rw [usedIds_eq] at ids
    have held := distinct.ids.hold ids
    simpa [Transfer.idHolders] using held
  names := by
    rw [usedNames_eq] at names
    have held := distinct.names.hold names
    simpa [Transfer.nameHolders] using held
  keyed := by
    rw [map_append]
    exact nodup_append_comm.mp (nodup_cons.mpr ⟨new, distinct.keyed⟩)
  listed := fun other mem => by
    rcases mem_append.mp mem with old | last
    · exact distinct.listed other old
    · cases mem_singleton.mp last
      exact listed
  sizes := distinct.sizes

theorem reserve_distinct (chosen : selection files = .ok selected) (distinct : Distinct transfer) :
    Distinct (transfer.reserve limits ttl deleting files selected now).2 := by
  have kept := distinct.dropExpired now
  rcases reserve_cases transfer limits ttl deleting files selected now with same | ⟨new, ids, names, -, same⟩
  · rwa [same]
  · rw [same]
    exact kept.add (listed_reservation chosen) new ids names

theorem reserve_sound (chosen : selection files = .ok selected) (distinct : Distinct transfer) (granted : Granted limits transfer) :
    Distinct (transfer.reserve limits ttl deleting files selected now).2 ∧ Granted limits (transfer.reserve limits ttl deleting files selected now).2 ∧
      (Within limits transfer → Within limits (transfer.reserve limits ttl deleting files selected now).2) := by
  refine ⟨reserve_distinct chosen distinct, ?_⟩
  rcases reserve_cases transfer limits ttl deleting files selected now with same | ⟨-, -, -, inside, same⟩
  · rw [same]
    exact ⟨granted.dropExpired distinct now, fun within => within.dropExpired distinct now⟩
  · rw [same]
    have counts : ({ transfer.dropExpired now with
        appends := (transfer.dropExpired now).appends ++ [reservation transfer ttl files selected now] } : Transfer).fileCount =
        (transfer.dropExpired now).fileCount + files.length := by
      simp [Transfer.fileCount, reservation, Nat.add_assoc]
    have bytes : ({ transfer.dropExpired now with
        appends := (transfer.dropExpired now).appends ++ [reservation transfer ttl files selected now] } : Transfer).byteCount =
        (transfer.dropExpired now).byteCount + selected.bytes := by
      simp [Transfer.byteCount, reservation, add_assoc]
    refine ⟨fun _ => by rw [counts, bytes]; exact inside, fun _ => within_of_inside ?_⟩
    rwa [counts, bytes]

end

section
variable {status : AppendStatus} {after : Transfer} {settles : Bool}

theorem validFiles_sound {names : List String} (valid : validFiles ids names files = true) :
    Apart (files.map fun file => [file.id]) ∧ Apart (files.map TransferFile.names) ∧
      (∀ file ∈ files, file.id ∉ ids ∧ file.names.Disjoint names ∧ 0 ≤ file.bytes ∧ file.filename ≠ "") := by
  induction files generalizing ids names with
  | nil => exact ⟨.nil, .nil, nofun⟩
  | cons file files ih =>
    rw [validFiles, and_eq_true, not_eq_true'] at valid
    obtain ⟨first, others⟩ := valid
    obtain ⟨apartIds, apartNames, sound⟩ := ih others
    simp only [or_eq_false_iff, beq_eq_false_iff_ne, not_eq_false', contains_eq_mem, decide_eq_false_iff_not] at first
    obtain ⟨⟨⟨⟨⟨⟨⟨_, named⟩, _⟩, size⟩, stored⟩, newId⟩, newName⟩, newOriginal⟩ := first
    refine ⟨pairwise_cons.mpr ⟨?_, apartIds⟩, pairwise_cons.mpr ⟨?_, apartNames⟩, forall_mem_cons.mpr ⟨⟨newId, ?_, ?_, named⟩, ?_⟩⟩
    · intro holder mem
      obtain ⟨other, listed, rfl⟩ := mem_map.mp mem
      intro id own same
      have one : other.id = file.id := (mem_singleton.mp same).symm.trans (mem_singleton.mp own)
      exact (sound other listed).1 (one ▸ mem_cons_self)
    · intro holder mem
      obtain ⟨other, listed, rfl⟩ := mem_map.mp mem
      intro name own shared
      exact (sound other listed).2.1 shared (mem_append_left _ own)
    · intro name own used
      rcases mem_cons.mp own with rfl | archived
      · exact newName used
      · rw [mem_toList] at archived
        rw [mem_def.mp archived] at newOriginal
        exact absurd used (by simpa using newOriginal)
    · unfold TransferFile.bytes
      simp only [fits, and_eq_true, decide_eq_true_eq] at size
      cases bytes : file.storedBytes with
      | none => exact size.2
      | some =>
        rw [bytes, all_some] at stored
        simp only [fits, and_eq_true, decide_eq_true_eq] at stored
        exact stored.2
    · intro other listed
      obtain ⟨free, disjoint, positive, nonempty⟩ := sound other listed
      exact ⟨fun used => free (mem_cons_of_mem _ used), fun name own used => disjoint own (mem_append_right _ used), positive, nonempty⟩

section
variable (distinct : Distinct transfer) (mem : own ∈ transfer.appends)
include distinct mem

theorem own_ids : Apart (own.fileIds :: (transfer.without own.fingerprint).idHolders) := by
  refine distinct.ids.perm ?_
  have rows := (perm_filter_key distinct.keyed mem).map AppendReservation.fileIds
  exact (rows.append_left _).trans perm_middle

theorem own_names : Apart (own.filenames :: (transfer.without own.fingerprint).nameHolders) := by
  refine distinct.names.perm ?_
  have rows := (perm_filter_key distinct.keyed mem).map AppendReservation.filenames
  exact (rows.append_left _).trans perm_middle

theorem own_counts :
    transfer.fileCount = (transfer.without own.fingerprint).fileCount + own.reservedFileCount ∧
      transfer.byteCount = (transfer.without own.fingerprint).byteCount + own.reservedBytes := by
  have counts := ((perm_filter_key distinct.keyed mem).map AppendReservation.reservedFileCount).sum_eq
  have bytes := ((perm_filter_key distinct.keyed mem).map AppendReservation.reservedBytes).sum_eq
  simp only [map_cons, sum_cons] at counts bytes
  simp only [Transfer.fileCount, Transfer.byteCount, Transfer.without, counts, bytes]
  omega

end

structure Delivers (own : AppendReservation) (files : List TransferFile) : Prop where
  ids : ∀ file ∈ files, file.id ∈ own.fileIds
  names : ∀ file ∈ files, file.names ⊆ own.filenames
  count : files.length = own.reservedFileCount
  bytes : (files.map TransferFile.bytes).sum ≤ own.reservedBytes
  valid : validateFiles files = true

theorem delivers_of_selects (listed : Listed own) (chosen : files.all (selects own.fingerprint) = true)
    (count : files.length = own.reservedFileCount) (bytes : (files.map TransferFile.bytes).sum ≤ own.reservedBytes)
    (valid : validateFiles files = true) : Delivers own files := by
  have entry : ∀ file ∈ files, ∃ input ∈ own.fingerprint, input.id = file.id ∧ input.name = file.filename ∧
      input.originalName = file.originalFilename := by
    intro file mem
    have here := all_eq_true.mp chosen file mem
    unfold selects at here
    cases found : own.fingerprint.reverse.find? (·.id == file.id) with
    | none =>
      rw [found] at here
      cases here
    | some input =>
      rw [found, any_some, and_eq_true, beq_iff_eq, beq_iff_eq] at here
      have same := find?_some found
      exact ⟨input, mem_reverse.mp (mem_of_find?_eq_some found), eq_of_beq same, here⟩
  refine ⟨fun file mem => ?_, fun file mem name inside => ?_, count, bytes, valid⟩
  · obtain ⟨input, listedInput, id, -, -⟩ := entry file mem
    rw [listed.ids]
    exact id ▸ mem_map_of_mem listedInput
  · obtain ⟨input, listedInput, -, filename, original⟩ := entry file mem
    rw [listed.names]
    refine mem_flatMap.mpr ⟨input, listedInput, ?_⟩
    rwa [TransferUploadFileInput.names, filename, original]

theorem mem_usedNames {name : String} (named : name ≠ "") (mem : name ∈ transfer.takenNames) : name ∈ transfer.usedNames := by
  rcases mem_append.mp mem with stored | reserved
  · refine mem_append_left _ ?_
    obtain ⟨file, listed, inside⟩ := mem_flatMap.mp stored
    refine mem_flatMap.mpr ⟨file, listed, ?_⟩
    rcases mem_cons.mp inside with rfl | archived
    · exact mem_cons_self
    · rw [mem_toList] at archived
      refine mem_cons_of_mem _ (mem_toList.mpr ?_)
      simpa [truthy, mem_def.mp archived] using named
  · exact mem_append_right _ reserved

theorem not_conflicts (id : file.id ∉ transfer.usedIds) (names : ∀ name ∈ file.names, name ∉ transfer.usedNames)
    (named : file.filename ≠ "") : transfer.conflicts file = false := by
  rw [eq_false_iff]
  intro taken
  rw [Transfer.conflicts, or_eq_true_iff, or_eq_true_iff, contains_iff_mem, contains_iff_mem] at taken
  rcases taken with (used | filename) | original
  · exact id used
  · exact names file.filename mem_cons_self (mem_usedNames named filename)
  · cases archived : truthy file.originalFilename with
    | none =>
      rw [archived] at original
      cases original
    | some name =>
      rw [archived, any_some, contains_iff_mem] at original
      have blank : name ≠ "" := by
        have held : name ∈ truthy file.originalFilename := archived
        simp only [truthy, Option.mem_filter_iff] at held
        simpa using held.2
      exact names name (mem_cons_of_mem _ (mem_toList.mpr archived)) (mem_usedNames blank original)

theorem append_delivers (distinct : Distinct transfer) (granted : Granted limits transfer)
    (mem : own ∈ transfer.appends) (alive : now < own.expiresAt) (delivers : Delivers own files) :
    transfer.append limits own.fingerprint files now = (.updated, { transfer.dropExpired now with files := transfer.files ++ files }) ∧
      beyond limits (((transfer.dropExpired now).without own.fingerprint).fileCount + files.length)
        (((transfer.dropExpired now).without own.fingerprint).byteCount + (files.map TransferFile.bytes).sum) = false := by
  have live : own ∈ (transfer.dropExpired now).appends := mem_filter.mpr ⟨mem, decide_eq_true alive⟩
  have still := distinct.dropExpired now
  have ids := own_ids still live
  have names := own_names still live
  obtain ⟨counts, bytes⟩ := own_counts still live
  obtain ⟨-, -, sound⟩ := validFiles_sound delivers.valid
  have free : files.any ((transfer.dropExpired now).without own.fingerprint).conflicts = false := by
    rw [any_eq_false]
    intro file chosen
    refine eq_false_iff.mp (not_conflicts ?_ (fun name inside => ?_) (sound file chosen).2.2.2)
    · rw [usedIds_eq]
      exact ids.own_free file.id (delivers.ids file chosen)
    · rw [usedNames_eq]
      exact names.own_free name (delivers.names file chosen inside)
  have total := (granted.dropExpired distinct now) (ne_nil_of_mem live)
  have others : 0 ≤ ((transfer.dropExpired now).without own.fingerprint).byteCount :=
    (byteCount_fewer still (.refl _) filter_sublist).1
  have new : 0 ≤ (files.map TransferFile.bytes).sum := List.sum_nonneg (forall_mem_map.mpr fun file chosen => (sound file chosen).2.2.1)
  have delivered := delivers.bytes
  have few : ((transfer.dropExpired now).without own.fingerprint).fileCount + files.length ≤ (transfer.dropExpired now).fileCount := by
    rw [delivers.count, counts]
  have inside := beyond_mono total few (add_nonneg others new) (by omega)
  refine ⟨?_, inside⟩
  unfold Transfer.append
  rw [if_neg (eq_false_iff.mp free), if_neg (eq_false_iff.mp inside)]
  rfl

theorem Distinct.deliver (distinct : Distinct transfer) (mem : own ∈ transfer.appends) (delivers : Delivers own files) :
    Distinct { transfer.without own.fingerprint with files := transfer.files ++ files } where
  ids := by
    obtain ⟨apart, -, -⟩ := validFiles_sound delivers.valid
    have inside : ∀ part ∈ files.map (fun file => [file.id]), part ⊆ own.fileIds := by
      intro part listed id one
      obtain ⟨file, chosen, rfl⟩ := mem_map.mp listed
      cases mem_singleton.mp one
      exact delivers.ids file chosen
    have divided := (own_ids distinct mem).divide apart inside
    refine divided.perm ?_
    simp only [Transfer.idHolders, map_append, Transfer.without, append_assoc]
    exact List.perm_append_comm_assoc ..
  names := by
    obtain ⟨-, apart, -⟩ := validFiles_sound delivers.valid
    have inside : ∀ part ∈ files.map TransferFile.names, part ⊆ own.filenames := by
      intro part listed
      obtain ⟨file, chosen, rfl⟩ := mem_map.mp listed
      exact delivers.names file chosen
    have divided := (own_names distinct mem).divide apart inside
    refine divided.perm ?_
    simp only [Transfer.nameHolders, map_append, Transfer.without, append_assoc]
    exact List.perm_append_comm_assoc ..
  keyed := distinct.keyed.sublist (filter_sublist.map _)
  listed := fun other listed => distinct.listed other (mem_of_mem_filter listed)
  sizes := fun file listed => by
    obtain ⟨-, -, sound⟩ := validFiles_sound delivers.valid
    rcases mem_append.mp listed with old | new
    · exact distinct.sizes file old
    · exact (sound file new).2.2.1

/-- It is refused, or answers so for a reservation of its own that has not run out. -/
def FinalizesAs (transfer : Transfer) (limits : Limits) (selected : List TransferUploadFileInput) (files : List TransferFile)
    (settles : Bool) (now : Int) (answered : Except TransferError (AppendStatus × Transfer)) : Prop :=
  let finalized := transfer.finalize limits selected files settles now
  finalized = .ok (.missingReservation, transfer) ∨ finalized = .ok (.reservationMismatch, transfer) ∨ (∃ error, finalized = .error error) ∨
    ∃ own ∈ transfer.appends, own.fingerprint = selected ∧ now < own.expiresAt ∧ Delivers own files ∧ finalized = answered

theorem finalize_batch (distinct : Distinct transfer) (limits : Limits) (selected : List TransferUploadFileInput)
    (files : List TransferFile) (settles : Bool) (now : Int) : FinalizesAs transfer limits selected files settles now
      (match transfer.append limits selected files now with
      | (.updated, added) => if settles then .ok (.updated, added.without selected) else .error .unsettled
      | (status, kept) => .ok (status, kept)) := by
  unfold FinalizesAs Transfer.finalize
  split
  · exact .inl rfl
  · next own found =>
    have mem := mem_of_find?_eq_some found
    have here := find?_some found
    simp only [and_eq_true, beq_iff_eq, decide_eq_true_eq] at here
    obtain ⟨rfl, alive⟩ := here
    simp only
    split
    · exact .inr (.inl rfl)
    · next matches' =>
      simp only [not_or, Decidable.not_not, not_eq_true, not_eq_false', not_lt] at matches'
      obtain ⟨count, -, chosen, -, bytes⟩ := matches'
      split
      · exact .inr (.inr (.inl ⟨_, rfl⟩))
      · next invalid =>
        have valid : validateFiles files = true := by simpa using invalid
        have delivers := delivers_of_selects (distinct.listed own mem) chosen count bytes valid
        exact .inr (.inr (.inr ⟨own, mem, rfl, alive, delivers, rfl⟩))

theorem append_cases (transfer : Transfer) (limits : Limits) (consumed : List TransferUploadFileInput) (files : List TransferFile) (now : Int) :
    transfer.append limits consumed files now = (.conflict, transfer.dropExpired now) ∨
      transfer.append limits consumed files now = (.limit, transfer.dropExpired now) ∨
      transfer.append limits consumed files now = (.updated, { transfer.dropExpired now with files := transfer.files ++ files }) := by
  unfold Transfer.append
  simp only
  split
  · exact .inl rfl
  · split
    · exact .inr (.inl rfl)
    · exact .inr (.inr rfl)

theorem finalize_outcome {selected : List TransferUploadFileInput}
    (distinct : Distinct transfer) (finalized : transfer.finalize limits selected files settles now = .ok (status, after)) :
    after = transfer ∨ after = transfer.dropExpired now ∨
      ∃ own ∈ transfer.appends, own.fingerprint = selected ∧ now < own.expiresAt ∧ Delivers own files ∧
        after = { (transfer.dropExpired now).without selected with files := transfer.files ++ files } := by
  rcases finalize_batch distinct limits selected files settles now with same | same | ⟨error, same⟩ | ⟨own, mem, held, alive, delivers, same⟩ <;>
    rw [same] at finalized
  · cases finalized
    exact .inl rfl
  · cases finalized
    exact .inl rfl
  · cases finalized
  · rcases append_cases transfer limits selected files now with added | added | added <;> rw [added] at finalized
    · cases finalized
      exact .inr (.inl rfl)
    · cases finalized
      exact .inr (.inl rfl)
    · cases settles with
      | false => cases finalized
      | true =>
        cases finalized
        exact .inr (.inr ⟨own, mem, held, alive, delivers, rfl⟩)

theorem finalize_cases (distinct : Distinct transfer) (granted : Granted limits transfer) (selected : List TransferUploadFileInput)
    (files : List TransferFile) (settles : Bool) (now : Int) : FinalizesAs transfer limits selected files settles now
      (.ok (.updated, { (transfer.dropExpired now).without selected with files := transfer.files ++ files })) := by
  rcases finalize_batch distinct limits selected files settles now with same | same | error | ⟨own, mem, rfl, alive, delivers, same⟩
  · exact .inl same
  · exact .inr (.inl same)
  · exact .inr (.inr (.inl error))
  · obtain ⟨appended, -⟩ := append_delivers distinct granted mem alive delivers
    rw [appended] at same
    cases settles with
    | true => exact .inr (.inr (.inr ⟨own, mem, rfl, alive, delivers, same⟩))
    | false => exact .inr (.inr (.inl ⟨_, same⟩))

theorem finalize_sound (distinct : Distinct transfer) (granted : Granted limits transfer)
    (finalized : transfer.finalize limits selected files settles now = .ok (status, after)) :
    Distinct after ∧ Granted limits after ∧ (Within limits transfer → Within limits after) := by
  rcases finalize_cases distinct granted selected files settles now with same | same | ⟨error, same⟩ | ⟨own, mem, rfl, alive, delivers, same⟩ <;>
    rw [same] at finalized <;> cases finalized
  · exact ⟨distinct, granted, id⟩
  · exact ⟨distinct, granted, id⟩
  · have live : own ∈ (transfer.dropExpired now).appends := mem_filter.mpr ⟨mem, decide_eq_true alive⟩
    obtain ⟨-, inside⟩ := append_delivers distinct granted mem alive delivers
    have counts : ({ (transfer.dropExpired now).without own.fingerprint with files := transfer.files ++ files } : Transfer).fileCount =
        ((transfer.dropExpired now).without own.fingerprint).fileCount + files.length := by
      simp only [Transfer.fileCount, Transfer.without, Transfer.dropExpired, length_append]
      omega
    have bytes : ({ (transfer.dropExpired now).without own.fingerprint with files := transfer.files ++ files } : Transfer).byteCount =
        ((transfer.dropExpired now).without own.fingerprint).byteCount + (files.map TransferFile.bytes).sum := by
      simp only [Transfer.byteCount, Transfer.without, Transfer.dropExpired, map_append, sum_append]
      omega
    rw [← counts, ← bytes] at inside
    exact ⟨(distinct.dropExpired now).deliver live delivers, fun _ => inside, fun _ => within_of_inside inside⟩

end

structure Stores (chosen : TransferUploadFileInput) (file : TransferFile) : Prop where
  id : file.id = chosen.id
  filename : file.filename = chosen.name
  original : file.originalFilename = chosen.originalName
  key : file.storageKey ≠ ""
  sizes : fits file.size && file.storedBytes.all fits

/-- The very files that a batch reserved, in any order, and no more bytes. -/
structure Exactly (own : AppendReservation) (files : List TransferFile) : Prop where
  each : ∃ ordered, ordered.Perm files ∧ Forall₂ Stores own.fingerprint ordered
  bytes : (files.map TransferFile.bytes).sum ≤ own.reservedBytes

theorem validFiles_of {names : List String}
    (sound : ∀ file ∈ files, file.id ≠ "" ∧ file.filename ≠ "" ∧ file.storageKey ≠ "" ∧ fits file.size && file.storedBytes.all fits)
    (apart : (ids ++ files.map TransferFile.id).Nodup) (unique : (names ++ files.flatMap TransferFile.names).Nodup) :
    validFiles ids names files = true := by
  induction files generalizing ids names with
  | nil => rfl
  | cons file files ih =>
    obtain ⟨⟨id, filename, key, sizes⟩, others⟩ := forall_mem_cons.mp sound
    have newId : file.id ∉ ids := (List.nodup_middle.mp apart).notMem ∘ mem_append_left _
    have newNames : file.names.Disjoint names := fun name own used =>
      (nodup_append.mp unique).2.2 name used name (mem_append_left _ own) rfl
    have later : (file.id :: ids ++ files.map TransferFile.id).Nodup := List.nodup_middle.mp apart
    have fresh : (file.names ++ names ++ files.flatMap TransferFile.names).Nodup := by
      rw [append_assoc]
      exact (List.perm_append_comm_assoc ..).nodup_iff.mp unique
    have rest := ih others later fresh
    have archived : (truthy file.originalFilename).any names.contains = false := by
      cases original : truthy file.originalFilename with
      | none => rfl
      | some =>
        have fresh := newNames (mem_cons_of_mem _ (mem_toList.mpr original))
        simpa using fresh
    have first : file.filename ∉ names := newNames mem_cons_self
    rw [and_eq_true] at sizes
    simp [validFiles, rest, id, filename, key, sizes, newId, archived, first]

theorem Stores.names {chosen : TransferUploadFileInput} (stores : Stores chosen file) : file.names = chosen.names := by
  rw [TransferFile.names, TransferUploadFileInput.names, stores.filename, stores.original]

theorem Exactly.chosen (listed : Listed own) (exactly : Exactly own files) :
    files.length = own.reservedFileCount ∧ files.all (selects own.fingerprint) = true ∧ validateFiles files = true := by
  obtain ⟨ordered, perm, stores⟩ := exactly.each
  have ids : own.fingerprint.map TransferUploadFileInput.id = ordered.map TransferFile.id := map_pairs stores fun _ _ same => same.id.symm
  have names : own.fingerprint.map TransferUploadFileInput.names = ordered.map TransferFile.names := map_pairs stores fun _ _ same => same.names.symm
  have apart : (own.fingerprint.map TransferUploadFileInput.id).Nodup := listed.ids ▸ listed.apart
  have source : ∀ file ∈ files, ∃ chosen ∈ own.fingerprint, Stores chosen file := fun file mem =>
    mem_pairs stores (perm.symm.subset mem)
  refine ⟨?_, all_eq_true.mpr fun file mem => ?_, validFiles_of (fun file mem => ?_) ?_ ?_⟩
  · rw [listed.count, ← perm.length_eq, stores.length_eq]
  · obtain ⟨chosen, inside, same⟩ := source file mem
    have found : own.fingerprint.reverse.find? (·.id == file.id) = some chosen := by
      rw [same.id]
      exact find?_key (List.map_reverse .. ▸ List.nodup_reverse.mpr apart) (mem_reverse.mpr inside)
    rw [selects, found, any_some, same.filename, same.original, beq_self_eq_true, beq_self_eq_true]
    rfl
  · obtain ⟨chosen, inside, same⟩ := source file mem
    obtain ⟨id, name⟩ := listed.named chosen inside
    exact ⟨same.id ▸ id, same.filename ▸ name, same.key, same.sizes⟩
  · rw [nil_append, ← (perm.map TransferFile.id).nodup_iff, ← ids]
    exact apart
  · rw [nil_append, ← (perm.flatMap_right TransferFile.names).nodup_iff, List.flatMap_def, ← names, ← List.flatMap_def]
    exact listed.names ▸ listed.unique

theorem finalize_exactly (distinct : Distinct transfer) (granted : Granted limits transfer) (mem : own ∈ transfer.appends)
    (alive : now < own.expiresAt) (exactly : Exactly own files) :
    transfer.finalize limits own.fingerprint files true now =
      .ok (.updated, { (transfer.dropExpired now).without own.fingerprint with files := transfer.files ++ files }) := by
  have listed := distinct.listed own mem
  obtain ⟨count, chosen, valid⟩ := exactly.chosen listed
  have held : transfer.appends.find? (fun reservation => reservation.fingerprint == own.fingerprint && now < reservation.expiresAt) = some own := by
    refine find?_only mem (by simp [alive]) fun other inside same => ?_
    rw [and_eq_true, beq_iff_eq] at same
    exact inj_on_of_nodup_map distinct.keyed inside mem same.1
  have ids : (Library.distinct (own.fingerprint.map TransferUploadFileInput.id)).length = files.length := by
    rw [distinct_of_nodup (listed.ids ▸ listed.apart), length_map, count, listed.count]
  have safe : isSafeInteger (files.map TransferFile.bytes).sum = true := by
    obtain ⟨-, -, sound⟩ := validFiles_sound valid
    have positive : 0 ≤ (files.map TransferFile.bytes).sum := List.sum_nonneg (forall_mem_map.mpr fun file chosen => (sound file chosen).2.2.1)
    have others := (byteCount_fewer distinct (.refl _) (filter_sublist (p := fun row => decide (row.fingerprint ≠ own.fingerprint)))).1
    have total := (own_counts distinct mem).2
    have inside := granted (ne_nil_of_mem mem)
    have few := exactly.bytes
    simp only [Transfer.without] at total
    simp only [beyond, isSafeInteger, or_eq_false_iff, not_eq_false', and_eq_true, decide_eq_true_eq] at inside ⊢
    omega
  have fits : ¬ (files.length ≠ own.reservedFileCount ∨
      (Library.distinct (own.fingerprint.map TransferUploadFileInput.id)).length ≠ files.length ∨ !files.all (selects own.fingerprint) ∨
      !isSafeInteger (files.map TransferFile.bytes).sum ∨ own.reservedBytes < (files.map TransferFile.bytes).sum) := by
    simp [count, ids, chosen, safe, exactly.bytes]
  have appended := (append_delivers distinct granted mem alive (delivers_of_selects listed chosen count exactly.bytes valid)).1
  unfold Transfer.finalize
  rw [held]
  simp only
  rw [if_neg fits, if_neg (by simp [valid]), appended]
  rfl

section

inductive Act
  | reserveUpload (transferId deleteToken actorJti : String) (expiresSeconds : Int) (files : List TransferUploadFileInput)
  | create (transferId deleteToken actorJti : String) (expiresSeconds : Int) (selected : List TransferUploadFileInput)
    (files : List TransferFile) (settles : Bool)
  | reserve (transferId : String) (files : List TransferUploadFileInput)
  | finalize (transferId : String) (selected : List TransferUploadFileInput) (files : List TransferFile) (settles : Bool)
  | remove (transferId fileId : String)
  | expireUploads (limit : Nat)
  | expireAppends (limit : Nat)
  | expireTransfers (limit : Nat)
  | completeDeletion (transferId key : String)

/-- A transaction and its moment. -/
structure Step where
  act : Act
  now : Int

variable (limits : Limits) (ttl : Int)

def next (step : Step) (catalogue : Catalogue) : Catalogue :=
  match step.act with
  | .reserveUpload transferId deleteToken actorJti expiresSeconds files =>
    (catalogue.createPostgresTransferUploadReservation ttl transferId deleteToken actorJti expiresSeconds files step.now).2
  | .create transferId deleteToken actorJti expiresSeconds selected files settles =>
    (catalogue.finalizePostgresTransferReservation transferId deleteToken actorJti expiresSeconds selected files settles step.now).2
  | .reserve transferId files => (catalogue.reservePostgresTransferAppend limits ttl transferId files step.now).2
  | .finalize transferId selected files settles =>
    (catalogue.finalizePostgresTransferAppend limits transferId selected files settles step.now).2
  | .remove transferId fileId => (catalogue.removePostgresTransferFile transferId fileId step.now).2
  | .expireUploads limit => catalogue.cleanupPostgresTransferUploadReservations limit step.now
  | .expireAppends limit => catalogue.cleanupPostgresTransferAppendReservations limit step.now
  | .expireTransfers limit => catalogue.cleanupExpiredPostgresTransfers limit step.now
  | .completeDeletion transferId key => catalogue.completeDeletion transferId key

/-- What no transaction on a transfer breaks. -/
structure Closed (p : Transfer → Prop) : Prop where
  reserve : ∀ {transfer deleting files selected now}, selection files = .ok selected → p transfer →
    p (transfer.reserve limits ttl deleting files selected now).2
  finalize : ∀ {transfer selected files settles now status after}, p transfer →
    transfer.finalize limits selected files settles now = .ok (status, after) → p after
  fewer : ∀ {transfer files appends}, p transfer → List.Sublist files transfer.files → List.Sublist appends transfer.appends →
    p { transfer with files, appends }
  delete : ∀ {transfer deletedAt}, p transfer → p { transfer with deletedAt }

variable {limits ttl}

theorem closed_sound : Closed limits ttl fun transfer => Distinct transfer ∧ Granted limits transfer where
  reserve := fun chosen kept => by
    obtain ⟨distinct, granted, -⟩ := reserve_sound chosen kept.1 kept.2
    exact ⟨distinct, granted⟩
  finalize := fun kept finalized => by
    obtain ⟨distinct, granted, -⟩ := finalize_sound kept.1 kept.2 finalized
    exact ⟨distinct, granted⟩
  fewer := fun kept files appends => ⟨kept.1.fewer files appends, kept.2.fewer kept.1 files appends⟩
  delete := fun kept => ⟨⟨kept.1.ids, kept.1.names, kept.1.keyed, kept.1.listed, kept.1.sizes⟩, kept.2⟩

theorem closed_within : Closed limits ttl fun transfer => (Distinct transfer ∧ Granted limits transfer) ∧ Within limits transfer where
  reserve := fun chosen kept => by
    obtain ⟨distinct, granted, within⟩ := reserve_sound chosen kept.1.1 kept.1.2
    exact ⟨⟨distinct, granted⟩, within kept.2⟩
  finalize := fun kept finalized => by
    obtain ⟨distinct, granted, within⟩ := finalize_sound kept.1.1 kept.1.2 finalized
    exact ⟨⟨distinct, granted⟩, within kept.2⟩
  fewer := fun kept files appends => ⟨(@closed_sound limits ttl).fewer kept.1 files appends, kept.2.fewer kept.1.1 files appends⟩
  delete := fun kept => ⟨(@closed_sound limits ttl).delete kept.1, kept.2⟩

def created (transferId deleteToken : String) (expiresSeconds : Int) (files : List TransferFile) (now : Int) : Transfer where
  id := transferId
  deleteToken := deleteToken
  expiresAt := now + expiresSeconds * 1000
  deletedAt := none
  files := files
  appends := []

variable {p : Transfer → Prop} {catalogue : Catalogue}

theorem owner_mem (found : catalogue.owner transferId now = some transfer) :
    transfer ∈ catalogue.transfers ∧ transfer.id = transferId ∧ transfer.alive now := by
  have here := find?_some found
  rw [and_eq_true, beq_iff_eq] at here
  exact ⟨mem_of_find?_eq_some found, here⟩

theorem create_cases (catalogue : Catalogue) (transferId deleteToken actorJti : String) (expiresSeconds : Int) (selected : List TransferUploadFileInput)
    (files : List TransferFile) (settles : Bool) (now : Int) :
    (catalogue.finalizePostgresTransferReservation transferId deleteToken actorJti expiresSeconds selected files settles now).2 = catalogue ∨
      validateFiles files = true ∧ (∀ row ∈ catalogue.transfers, row.id ≠ transferId) ∧
        (∃ upload ∈ catalogue.uploads, upload.transferId = transferId ∧ upload.filesFingerprint = selected) ∧
        (catalogue.finalizePostgresTransferReservation transferId deleteToken actorJti expiresSeconds selected files settles now).2 =
          { catalogue.deletePostgresTransferUploadReservation transferId with
            transfers := catalogue.transfers ++ [created transferId deleteToken expiresSeconds files now] } := by
  unfold Catalogue.finalizePostgresTransferReservation
  split
  · exact .inl rfl
  · next upload found =>
    have here := find?_some found
    rw [and_eq_true, beq_iff_eq] at here
    simp only
    split
    · exact .inl rfl
    · next matched =>
      simp only [Catalogue.matchesReservation, not_eq_true, not_eq_false', and_eq_true, beq_iff_eq] at matched
      split
      · exact .inl rfl
      · split
        · exact .inl rfl
        · split
          · exact .inl rfl
          · next valid =>
            split
            · exact .inl rfl
            · next new =>
              simp only [not_eq_true, any_eq_false, beq_iff_eq] at new
              split
              · exact .inl rfl
              · exact .inr ⟨by simpa using valid, new, ⟨upload, mem_of_find?_eq_some found, here.1, matched.1.2⟩, rfl⟩

theorem reserveUpload_cases (catalogue : Catalogue) (ttl : Int) (transferId deleteToken actorJti : String) (expiresSeconds : Int)
    (files : List TransferUploadFileInput) (now : Int) :
    let answered := catalogue.createPostgresTransferUploadReservation ttl transferId deleteToken actorJti expiresSeconds files now
    (answered.1 ≠ .ok true ∧ answered.2 = catalogue) ∨
      answered.1 = .ok true ∧ files ≠ [] ∧ (∀ transfer ∈ catalogue.transfers, transfer.id ≠ transferId) ∧
        (∀ upload ∈ catalogue.uploads, upload.transferId ≠ transferId) ∧
        ∃ upload : TransferUploadReservation, upload.transferId = transferId ∧ upload.filesFingerprint = files ∧ upload.createdAt = now ∧
          upload.expiresAt = now + ttl ∧ answered.2 = { catalogue with uploads := catalogue.uploads ++ [upload] } := by
  intro answered
  simp only [answered]
  unfold Catalogue.createPostgresTransferUploadReservation
  split
  · exact .inl ⟨by simp, rfl⟩
  · next valid =>
    split
    · exact .inl ⟨by simp, rfl⟩
    · split
      · exact .inl ⟨by simp, rfl⟩
      · next new =>
        simp only [or_eq_true, not_or, not_eq_true, any_eq_false, beq_iff_eq] at new
        refine .inr ⟨rfl, fun none => valid ?_, new.1.1, new.2, _, rfl, rfl, rfl, rfl, rfl⟩
        rw [none]
        exact .inr (.inr (.inr (.inl Nat.zero_lt_one)))

inductive Alters (limits : Limits) (ttl : Int) (step : Step) (row : Transfer) : Transfer → Prop
  | same : Alters limits ttl step row row
  | reserve {deleting : Bool} {files : List TransferUploadFileInput} {selected : Selection} (chosen : selection files = .ok selected) :
    Alters limits ttl step row (row.reserve limits ttl deleting files selected step.now).2
  | finalize {selected : List TransferUploadFileInput} {files : List TransferFile} {settles : Bool} {status : AppendStatus} {after : Transfer}
    (asked : step.act = .finalize row.id selected files settles)
    (finalized : row.finalize limits selected files settles step.now = .ok (status, after)) : Alters limits ttl step row after
  | remove {transferId fileId : String} {files : List TransferFile} (asked : step.act = .remove transferId fileId)
    (fewer : files.Sublist row.files) : Alters limits ttl step row { row with files }
  | expire {appends : List AppendReservation} (fewer : appends.Sublist row.appends)
    (live : ∀ own ∈ row.appends, step.now < own.expiresAt → own ∈ appends) : Alters limits ttl step row { row with appends }
  | delete (due : (∃ transferId fileId, step.act = .remove transferId fileId) ∨ row.expiresAt ≤ step.now) :
    Alters limits ttl step row { row with deletedAt := some step.now }

section
variable {step : Step} {rows : List Transfer}

def Rows (limits : Limits) (ttl : Int) (step : Step) : List Transfer → List Transfer → Prop :=
  Forall₂ fun row after => after.id = row.id ∧ Alters limits ttl step row after

theorem put_rows (keyed : (rows.map Transfer.id).Nodup) (pairs : Rows limits ttl step rows catalogue.transfers)
    (mem : transfer ∈ rows) (id : after.id = transfer.id) (alters : Alters limits ttl step transfer after) :
    Rows limits ttl step rows (catalogue.put after).transfers := by
  refine forall₂_map_right_iff.mpr (List.Forall₂.imp ?_ ((List.forall₂_and_left _ _).mpr ⟨fun _ listed => listed, pairs⟩))
  rintro row other ⟨listed, same, altered⟩
  split
  · next equal =>
    cases inj_on_of_nodup_map keyed listed mem (same.symm.trans ((eq_of_beq equal).trans id))
    exact ⟨id, alters⟩
  · exact ⟨same, altered⟩

theorem tombstones_rows (keyed : (rows.map Transfer.id).Nodup) {chosen : List Transfer}
    (due : ∀ transfer ∈ chosen, transfer ∈ rows ∧ transfer.expiresAt ≤ step.now) (pairs : Rows limits ttl step rows catalogue.transfers) :
    Rows limits ttl step rows (chosen.foldl (fun catalogue transfer => catalogue.tombstone transfer step.now) catalogue).transfers := by
  induction chosen generalizing catalogue with
  | nil => exact pairs
  | cons transfer chosen ih =>
    obtain ⟨⟨mem, ended⟩, others⟩ := forall_mem_cons.mp due
    exact ih others (put_rows keyed pairs mem rfl (.delete (.inr ended)))

theorem reserve_id (transfer : Transfer) (limits : Limits) (ttl : Int) (deleting : Bool) (files : List TransferUploadFileInput)
    (selected : Selection) (now : Int) : (transfer.reserve limits ttl deleting files selected now).2.id = transfer.id := by
  rcases reserve_cases transfer limits ttl deleting files selected now with same | ⟨-, -, -, -, same⟩ <;> rw [same]
  · rfl
  · rfl

theorem next_rows (keyed : (catalogue.transfers.map Transfer.id).Nodup) (distinct : ∀ row ∈ catalogue.transfers, Distinct row) (step : Step) :
    Rows limits ttl step catalogue.transfers (next limits ttl step catalogue).transfers ∨
      ∃ transferId deleteToken actorJti expiresSeconds selected files settles,
        step.act = .create transferId deleteToken actorJti expiresSeconds selected files settles ∧ validateFiles files = true ∧
          (∀ row ∈ catalogue.transfers, row.id ≠ transferId) ∧
          (next limits ttl step catalogue).transfers = catalogue.transfers ++ [created transferId deleteToken expiresSeconds files step.now] := by
  have still : Rows limits ttl step catalogue.transfers catalogue.transfers := forall₂_same.mpr fun _ _ => ⟨rfl, .same⟩
  obtain ⟨act, now⟩ := step
  cases act with
  | reserveUpload transferId deleteToken actorJti expiresSeconds files =>
    simp only [next]
    rcases reserveUpload_cases catalogue ttl transferId deleteToken actorJti expiresSeconds files now with
      ⟨-, same⟩ | ⟨-, -, -, -, _, -, -, -, -, same⟩ <;> rw [same]
    · exact .inl still
    · exact .inl still
  | create transferId deleteToken actorJti expiresSeconds selected files settles =>
    simp only [next]
    rcases create_cases catalogue transferId deleteToken actorJti expiresSeconds selected files settles now with same | ⟨valid, new, -, same⟩ <;> rw [same]
    · exact .inl still
    · exact .inr ⟨_, _, _, _, _, _, _, rfl, valid, new, rfl⟩
  | reserve =>
    simp only [next, Catalogue.reservePostgresTransferAppend]
    split
    · exact .inl still
    · next selected chosen =>
      split
      · exact .inl still
      · next transfer found => exact .inl (put_rows keyed still (owner_mem found).1 (reserve_id ..) (.reserve chosen))
  | finalize =>
    simp only [next, Catalogue.finalizePostgresTransferAppend]
    split
    · exact .inl still
    · next transfer found =>
      obtain ⟨mem, rfl, -⟩ := owner_mem found
      split
      · exact .inl still
      · next after finalized =>
        refine .inl (put_rows keyed still mem ?_ (.finalize rfl finalized))
        rcases finalize_outcome (distinct transfer mem) finalized with rfl | rfl | ⟨-, -, -, -, -, rfl⟩
        · rfl
        · rfl
        · rfl
  | remove =>
    simp only [next, Catalogue.removePostgresTransferFile]
    split
    · exact .inl still
    · next transfer found =>
      have mem := (owner_mem found).1
      split
      · exact .inl still
      · split
        · exact .inl (put_rows keyed still mem rfl (.delete (.inl ⟨_, _, rfl⟩)))
        · exact .inl (put_rows keyed still mem rfl (.remove rfl filter_sublist))
  | expireUploads => exact .inl still
  | expireAppends =>
    refine .inl (forall₂_map_right_iff.mpr (forall₂_same.mpr fun row _ => ⟨rfl, .expire filter_sublist fun own listed alive => ?_⟩))
    refine mem_filter.mpr ⟨listed, decide_eq_true fun chosen => ?_⟩
    have due := (mem_filter.mp ((perm_insertionSort _ _).subset (mem_of_mem_take chosen))).2
    exact absurd (of_decide_eq_true due) (not_le.mpr alive)
  | expireTransfers =>
    refine .inl (tombstones_rows keyed (fun transfer chosen => ?_) still)
    obtain ⟨mem, due⟩ := mem_filter.mp ((perm_insertionSort _ _).subset (mem_of_mem_take chosen))
    rw [and_eq_true, decide_eq_true_eq] at due
    exact ⟨mem, due.2⟩
  | completeDeletion => exact .inl still

theorem next_all (keyed : (catalogue.transfers.map Transfer.id).Nodup) (distinct : ∀ row ∈ catalogue.transfers, Distinct row)
    (closed : Closed limits ttl p) (all : ∀ row ∈ catalogue.transfers, p row)
    (creates : ∀ transferId deleteToken actorJti expiresSeconds selected files settles,
      step.act = .create transferId deleteToken actorJti expiresSeconds selected files settles → validateFiles files = true →
        p (created transferId deleteToken expiresSeconds files step.now)) :
    ∀ row ∈ (next limits ttl step catalogue).transfers, p row := by
  rcases @next_rows limits ttl _ keyed distinct step with pairs | ⟨_, _, _, _, _, _, _, act, valid, -, added⟩
  · intro after mem
    obtain ⟨row, listed, -, alters⟩ := mem_pairs pairs mem
    have kept := all row listed
    cases alters with
    | same => exact kept
    | reserve chosen => exact closed.reserve chosen kept
    | finalize _ finalized => exact closed.finalize kept finalized
    | remove _ fewer => exact closed.fewer kept fewer (.refl _)
    | expire fewer => exact closed.fewer kept (.refl _) fewer
    | delete => exact closed.delete kept
  · rw [added, List.forall_mem_append, List.forall_mem_singleton]
    exact ⟨all, creates _ _ _ _ _ _ _ act valid⟩

theorem next_keyed (keyed : (catalogue.transfers.map Transfer.id).Nodup) (distinct : ∀ row ∈ catalogue.transfers, Distinct row) (step : Step) :
    ((next limits ttl step catalogue).transfers.map Transfer.id).Nodup := by
  rcases @next_rows limits ttl _ keyed distinct step with pairs | ⟨_, _, _, _, _, _, _, -, -, new, added⟩
  · rwa [← map_pairs pairs fun row after pair => pair.1.symm]
  · rw [added, map_append]
    refine nodup_append_comm.mp (nodup_cons.mpr ⟨fun mem => ?_, keyed⟩)
    obtain ⟨row, listed, same⟩ := mem_map.mp mem
    exact new row listed same

end

/-- The files of a transfer, stored or reserved, keep out of each other's way and within the limits. -/
structure Orderly (limits : Limits) (transfer : Transfer) : Prop where
  ids : transfer.usedIds.Nodup
  names : Apart transfer.nameHolders
  once : (∀ file ∈ transfer.files, file.names.Nodup) → transfer.usedNames.Nodup
  quota : transfer.appends ≠ [] → Within limits transfer

theorem orderly_of_sound (sound : Distinct transfer ∧ Granted limits transfer) : Orderly limits transfer :=
  ⟨sound.1.usedIds_nodup, sound.1.names, sound.1.usedNames_nodup, fun some => within_of_inside (sound.2 some)⟩

def BeginsWithin (limits : Limits) (step : Step) (_ : Catalogue) : Prop :=
  ∀ transferId deleteToken actorJti expiresSeconds selected files settles,
    step.act = .create transferId deleteToken actorJti expiresSeconds selected files settles →
      Within limits (created transferId deleteToken expiresSeconds files step.now)

/-- A finalization is never refused for a conflict or a limit, one with the very files of a reservation in force stores them, and
a second one finds nothing to add. -/
def FinalizesOnce (limits : Limits) (step : Step) (catalogue : Catalogue) : Prop :=
  ∀ transferId selected files settles, step.act = .finalize transferId selected files settles →
    let answered := catalogue.finalizePostgresTransferAppend limits transferId selected files settles step.now
    answered.1 ≠ .ok .conflict ∧ answered.1 ≠ .ok .limit ∧
      (∀ transfer, catalogue.owner transferId step.now = some transfer → ∀ own ∈ transfer.appends,
        own.fingerprint = selected → step.now < own.expiresAt → Exactly own files → settles →
          answered.1 = .ok .updated ∧
            (answered.2.owner transferId step.now).map Transfer.files = some (transfer.files ++ files)) ∧
      (answered.1 = .ok .updated → ∀ files settles now,
        answered.2.finalizePostgresTransferAppend limits transferId selected files settles now = (.ok .missing, answered.2) ∨
          answered.2.finalizePostgresTransferAppend limits transferId selected files settles now = (.ok .missingReservation, answered.2))

structure Sound (limits : Limits) (catalogue : Catalogue) : Prop where
  keyed : (catalogue.transfers.map Transfer.id).Nodup
  all : ∀ row ∈ catalogue.transfers, Distinct row ∧ Granted limits row

theorem created_sound {deleteToken : String} {expiresSeconds now : Int} (valid : validateFiles files = true) :
    Distinct (created transferId deleteToken expiresSeconds files now) ∧ Granted limits (created transferId deleteToken expiresSeconds files now) := by
  obtain ⟨ids, names, sound⟩ := validFiles_sound valid
  refine ⟨⟨?_, ?_, nodup_nil, nofun, fun file mem => (sound file mem).2.2.1⟩, fun some => absurd rfl some⟩
  · simpa [Transfer.idHolders, created] using ids
  · simpa [Transfer.nameHolders, created] using names

theorem put_self (keyed : (catalogue.transfers.map Transfer.id).Nodup) (mem : transfer ∈ catalogue.transfers) :
    catalogue.put transfer = catalogue := by
  have same : (catalogue.put transfer).transfers = catalogue.transfers := by
    refine (map_congr_left fun row listed => ?_).trans (map_id _)
    split
    · next equal => exact (inj_on_of_nodup_map keyed listed mem (eq_of_beq equal)).symm
    · rfl
  exact congrArg (fun transfers => { catalogue with transfers }) same

theorem mem_put_self (catalogue : Catalogue) {row : Transfer} (listed : row ∈ catalogue.transfers) (same : row.id = transfer.id) :
    transfer ∈ (catalogue.put transfer).transfers := mem_update.mpr ⟨row, listed, by rw [if_pos (beq_iff_eq.mpr same)]⟩

theorem sound_next (sound : Sound limits catalogue) (step : Step) : Sound limits (next limits ttl step catalogue) :=
  have distinct := fun row mem => (sound.all row mem).1
  ⟨next_keyed sound.keyed distinct step,
    next_all sound.keyed distinct closed_sound sound.all fun _ _ _ _ _ _ _ _ valid => created_sound valid⟩

theorem without_missing {settles : Bool}
    (dropped : ∀ reservation ∈ transfer.appends, reservation.fingerprint ≠ selected) :
    transfer.finalize limits selected files settles now = .ok (.missingReservation, transfer) := by
  have none : transfer.appends.find? (fun reservation => reservation.fingerprint == selected && now < reservation.expiresAt) = none := by
    rw [find?_eq_none]
    intro reservation mem found
    rw [and_eq_true, beq_iff_eq] at found
    exact dropped reservation mem found.1
  unfold Transfer.finalize
  rw [none]

theorem finalize_again (sound : Sound limits catalogue)
    (listed : transfer ∈ catalogue.transfers) (dropped : ∀ reservation ∈ transfer.appends, reservation.fingerprint ≠ selected)
    (files : List TransferFile) (settles : Bool) (now : Int) :
    catalogue.finalizePostgresTransferAppend limits transfer.id selected files settles now = (.ok .missing, catalogue) ∨
      catalogue.finalizePostgresTransferAppend limits transfer.id selected files settles now = (.ok .missingReservation, catalogue) := by
  unfold Catalogue.finalizePostgresTransferAppend
  split
  · exact .inl rfl
  · next other found =>
    obtain ⟨mem, same, _⟩ := owner_mem found
    cases inj_on_of_nodup_map sound.keyed mem listed same
    rw [without_missing dropped]
    exact .inr (congrArg (Prod.mk _) (put_self sound.keyed mem))

theorem finalize_answers (sound : Sound limits catalogue) (transferId : String) (selected : List TransferUploadFileInput)
    (files : List TransferFile) (settles : Bool) (now : Int) :
    let answered := catalogue.finalizePostgresTransferAppend limits transferId selected files settles now
    answered.1 ≠ .ok .conflict ∧ answered.1 ≠ .ok .limit ∧
      (answered.1 = .ok .updated → ∃ transfer ∈ answered.2.transfers, transfer.id = transferId ∧
        ∀ reservation ∈ transfer.appends, reservation.fingerprint ≠ selected) := by
  intro answered
  simp only [answered]
  unfold Catalogue.finalizePostgresTransferAppend
  split
  · exact ⟨by simp, by simp, fun updated => by simp at updated⟩
  · next transfer found =>
    obtain ⟨mem, rfl, _⟩ := owner_mem found
    obtain ⟨distinct, granted⟩ := sound.all transfer mem
    rcases finalize_cases distinct granted selected files settles now with same | same | ⟨error, same⟩ | ⟨own, _, _, _, _, same⟩ <;>
      rw [same] <;> simp only
    · exact ⟨by simp, by simp, fun updated => by simp at updated⟩
    · exact ⟨by simp, by simp, fun updated => by simp at updated⟩
    · exact ⟨by simp, by simp, fun updated => by simp at updated⟩
    · refine ⟨by simp, by simp, fun _ => ⟨_, mem_put_self catalogue mem rfl, rfl, fun reservation inside => ?_⟩⟩
      exact of_decide_eq_true (mem_filter.mp inside).2

theorem owner_put (found : catalogue.owner transferId now = some transfer) (id : after.id = transfer.id)
    (alive : after.alive now = transfer.alive now) : (catalogue.put after).owner transferId now = some after := by
  obtain ⟨mem, rfl, live⟩ := owner_mem found
  refine find?_only (mem_put_self catalogue mem id.symm) (by simp [id, alive, live]) fun other listed same => ?_
  obtain ⟨row, -, rfl⟩ := mem_update.mp listed
  split
  · rfl
  · next apart =>
    rw [if_neg apart, and_eq_true] at same
    exact absurd (id.symm ▸ same.1) apart

theorem finalizes_once (sound : Sound limits catalogue) (step : Step) : FinalizesOnce limits step catalogue := by
  intro transferId selected files settles act
  have kept : Sound limits (next limits 0 step catalogue) := sound_next sound step
  simp only [next, act] at kept
  obtain ⟨conflict, limit, updated⟩ := finalize_answers sound transferId selected files settles step.now
  refine ⟨conflict, limit, fun transfer found own mem held alive exactly goes => ?_, fun added others again now => ?_⟩
  · subst held
    subst goes
    obtain ⟨distinct, granted⟩ := sound.all transfer (owner_mem found).1
    have stored := finalize_exactly distinct granted mem alive exactly
    simp only [Catalogue.finalizePostgresTransferAppend, found, stored]
    refine ⟨trivial, ?_⟩
    rw [owner_put found]
    · rfl
    · rfl
    · rfl
  · obtain ⟨transfer, listed, rfl, dropped⟩ := updated added
    exact finalize_again kept listed dropped others again now

def empty : Catalogue := { transfers := [], uploads := [], deletions := [] }

theorem sound_empty : Sound limits empty := ⟨nodup_nil, nofun⟩

/-- In every run two files of a transfer, stored or reserved, have neither an id nor a name in common, no batch is reserved beyond the limits, a
transfer that begins within the limits stays within them, and a batch that was reserved can be finalized, once. -/
theorem append_quota_holds (limits : Limits) (ttl : Int) (steps : List Step) :
    Throughout (next limits ttl) (fun catalogue => ∀ transfer ∈ catalogue.transfers, Orderly limits transfer) empty steps ∧
      (EachStep (next limits ttl) (BeginsWithin limits) empty steps →
        Throughout (next limits ttl) (fun catalogue => ∀ transfer ∈ catalogue.transfers, Within limits transfer) empty steps) ∧
      EachStep (next limits ttl) (FinalizesOnce limits) empty steps := by
  have always : EachStep (next limits ttl) (fun _ _ => True) empty steps :=
    @EachStep.always _ _ (next limits ttl) (fun _ => True) _ _ fun _ _ => trivial
  obtain ⟨throughout, once⟩ := @EachStep.shows _ _ (next limits ttl) (fun _ _ => True) (Sound limits) (FinalizesOnce limits)
    (fun sound _ => ⟨sound_next sound _, finalizes_once sound _⟩) empty steps sound_empty always
  refine ⟨throughout.imp fun catalogue sound transfer mem => orderly_of_sound (sound.all transfer mem), fun begins => ?_, once⟩
  have start : (empty.transfers.map Transfer.id).Nodup ∧ ∀ row ∈ empty.transfers, (Distinct row ∧ Granted limits row) ∧ Within limits row :=
    ⟨nodup_nil, nofun⟩
  have step {catalogue : Catalogue} {step : Step}
      (kept : (catalogue.transfers.map Transfer.id).Nodup ∧ ∀ row ∈ catalogue.transfers, (Distinct row ∧ Granted limits row) ∧ Within limits row)
      (begins : BeginsWithin limits step catalogue) :
      (((next limits ttl step catalogue).transfers.map Transfer.id).Nodup ∧
        ∀ row ∈ (next limits ttl step catalogue).transfers, (Distinct row ∧ Granted limits row) ∧ Within limits row) ∧ True := by
    have distinct := fun row mem => (kept.2 row mem).1.1
    refine ⟨⟨next_keyed kept.1 distinct step, next_all kept.1 distinct closed_within kept.2 ?_⟩, trivial⟩
    exact fun _ _ _ _ _ _ _ act valid => ⟨created_sound valid, begins _ _ _ _ _ _ _ act⟩
  have within := (@EachStep.shows _ _ (next limits ttl) (BeginsWithin limits) _ (fun _ _ => True) step empty steps start begins).1
  exact within.imp fun catalogue kept row mem => (kept.2 row mem).2

def storedAs (name : String) (size : Int) (archived : Option String) : TransferFile where
  id := name
  filename := name
  size := size
  storedBytes := none
  storageKey := name
  originalStorageKey := none
  originalFilename := archived

/-- A created file may archive its original under its own name, which then stands twice among the names of the transfer. -/
theorem ownName_twice :
    let selected : List TransferUploadFileInput := [{ name := "a.jpg", size := 10 }]
    let steps : List Step := [⟨.reserveUpload "t" "token" "actor" 3600 selected, 0⟩,
      ⟨.create "t" "token" "actor" 3600 selected [storedAs "a.jpg" 10 (some "a.jpg")] true, 1⟩]
    ¬ ∀ transfer ∈ (runFrom (next { maxFiles := none, maxTotalBytes := none } 1800000) empty steps).transfers, transfer.usedNames.Nodup := by
  decide +kernel

end

end MilkAndHenny.Transfers
