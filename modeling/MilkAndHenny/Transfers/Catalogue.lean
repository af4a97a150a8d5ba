import MilkAndHenny.Library.Table

/-! Transfers and the uploads reserved for them, as the Postgres catalogue keeps them. A
transaction holds the row of its transfer, so it takes effect at one moment. Times are milliseconds. -/

namespace MilkAndHenny.Transfers

open Library

inductive ConvertedFrom
  | browserImage
  deriving DecidableEq

structure TransferUploadFileInput where
  name : String
  mediaId : Option String := none
  size : Int
  type : Option String := none
  originalName : Option String := none
  originalSize : Option Int := none
  originalType : Option String := none
  convertedFrom : Option ConvertedFrom := none
  deriving DecidableEq

/-- A file of a transfer. Its previews, its group and its place are left out. -/
structure TransferFile where
  id : String
  filename : String
  size : Int
  storedBytes : Option Int
  storageKey : String
  originalStorageKey : Option String
  originalFilename : Option String
  deriving DecidableEq

/-- What a batch reserves. Its fingerprint is a hash of the selection, and stands here as the selection. -/
structure AppendReservation where
  fingerprint : List TransferUploadFileInput
  fileIds : List String
  filenames : List String
  reservedFileCount : Nat
  reservedBytes : Int
  createdAt : Int
  expiresAt : Int
  deriving DecidableEq

structure Transfer where
  id : String
  deleteToken : String
  expiresAt : Int
  deletedAt : Option Int
  files : List TransferFile
  appends : List AppendReservation

/-- The claim of a transfer that is not there yet. Hashes stand as what they are of. -/
structure TransferUploadReservation where
  transferId : String
  deleteToken : String
  actorJti : String
  filesFingerprint : List TransferUploadFileInput
  reservedFileCount : Nat
  reservedBytes : Int
  expiresSeconds : Int
  createdAt : Int
  expiresAt : Int
  deriving DecidableEq

structure Catalogue where
  transfers : List Transfer
  uploads : List TransferUploadReservation
  /-- The objects of each transfer whose deletion is not completed. -/
  deletions : List (String × String)

structure Limits where
  maxFiles : Option Nat
  maxTotalBytes : Option Int

inductive TransferError
  | invalidAppendReservationFiles | invalidTransferReservation | invalidTransferReservationSize | invalidTransferFile | invalidTransfer
  | presignFailed | unsettled
  deriving DecidableEq

def isSafeInteger (value : Int) : Bool := -(2 ^ 53 - 1) ≤ value && value ≤ 2 ^ 53 - 1

def truthy (text : Option String) : Option String := text.filter (· ≠ "")

def fits (size : Int) : Bool := isSafeInteger size && 0 ≤ size

def TransferUploadFileInput.id (file : TransferUploadFileInput) : String := file.mediaId.getD file.name

def TransferUploadFileInput.names (file : TransferUploadFileInput) : List String := file.name :: (truthy file.originalName).toList

def TransferUploadFileInput.bytes (file : TransferUploadFileInput) : Int := file.size + file.originalSize.getD 0

def TransferFile.names (file : TransferFile) : List String := file.filename :: (truthy file.originalFilename).toList

/-- `coalesce(stored_bytes, size_bytes)`. -/
def TransferFile.bytes (file : TransferFile) : Int := file.storedBytes.getD file.size

def buildTransferOriginalStorageKey (transferId filename : String) : String := "transfers/" ++ transferId ++ "/originals/" ++ filename

def buildTransferPrimaryStorageKey (transferId : String) (file : TransferUploadFileInput) : String :=
  if file.convertedFrom = some .browserImage then "transfers/" ++ transferId ++ "/derived/" ++ file.name
  else buildTransferOriginalStorageKey transferId file.name

def buildTransferArchivedOriginalStorageKey (transferId : String) (file : TransferUploadFileInput) : Option String :=
  if file.convertedFrom = some .browserImage then (truthy file.originalName).map (buildTransferOriginalStorageKey transferId) else none

def storageKeys (transferId : String) (file : TransferUploadFileInput) : List String :=
  buildTransferPrimaryStorageKey transferId file :: (buildTransferArchivedOriginalStorageKey transferId file).toList

def TransferFile.keys (file : TransferFile) : List String := file.storageKey :: file.originalStorageKey.toList

structure Selection where
  ids : List String
  names : List String
  bytes : Int

def selection (files : List TransferUploadFileInput) : Except TransferError Selection :=
  let ids := files.map TransferUploadFileInput.id
  let names := files.flatMap TransferUploadFileInput.names
  let bytes := (files.map TransferUploadFileInput.bytes).sum
  if files.length < 1 ∨ 500 < files.length then .error .invalidAppendReservationFiles
  else if files.any fun file => file.name == "" || !fits file.size || !file.originalSize.all fits then .error .invalidAppendReservationFiles
  else if !isSafeInteger bytes ∨ "" ∈ ids ∨ ¬ ids.Nodup ∨ ¬ names.Nodup then .error .invalidAppendReservationFiles
  else .ok { ids, names, bytes }

def validFiles (ids names : List String) : List TransferFile → Bool
  | [] => true
  | file :: files =>
    !(file.id == "" || file.filename == "" || file.storageKey == "" || !fits file.size || !file.storedBytes.all fits ||
        ids.contains file.id || names.contains file.filename || (truthy file.originalFilename).any names.contains) &&
      validFiles (file.id :: ids) (file.names ++ names) files

def validateFiles (files : List TransferFile) : Bool := validFiles [] [] files

def reservedBytes (files : List TransferUploadFileInput) : Option Int :=
  let total := (files.map TransferUploadFileInput.bytes).sum
  if files.all (fun file => fits file.size && file.originalSize.all fits) && isSafeInteger total then some total else none

inductive AppendReservationResult
  | reserved | missing | conflict | limit
  deriving DecidableEq

inductive AppendStatus
  | updated | missing | conflict | limit | missingReservation | reservationMismatch

variable (catalogue : Catalogue) (transfer : Transfer)

def Transfer.alive (now : Int) : Bool := transfer.deletedAt.isNone && now < transfer.expiresAt

/-- `delete from transfer_append_reservations where … expires_at <= clock_timestamp()`. -/
def Transfer.dropExpired (now : Int) : Transfer :=
  { transfer with appends := transfer.appends.filter (now < ·.expiresAt) }

def Transfer.fileCount : Nat := transfer.files.length + (transfer.appends.map AppendReservation.reservedFileCount).sum

def Transfer.byteCount : Int :=
  (transfer.files.map TransferFile.bytes).sum + (transfer.appends.map AppendReservation.reservedBytes).sum

def Transfer.usedIds : List String :=
  transfer.files.map TransferFile.id ++ transfer.appends.flatMap AppendReservation.fileIds

def Transfer.usedNames : List String :=
  transfer.files.flatMap TransferFile.names ++ transfer.appends.flatMap AppendReservation.filenames

def Limits.files (limits : Limits) : Nat := limits.maxFiles.getD 500

def beyond (limits : Limits) (count : Nat) (bytes : Int) : Bool :=
  !isSafeInteger bytes || limits.files < count || limits.maxTotalBytes.any (· < bytes)

/-- The rest of a reservation, once the transfer is locked. `ttl` is how long a reservation lasts. -/
def Transfer.reserve (limits : Limits) (ttl : Int) (deleting : Bool) (files : List TransferUploadFileInput)
    (selected : Selection) (now : Int) : AppendReservationResult × Transfer :=
  let kept := transfer.dropExpired now
  if kept.appends.any (·.fingerprint == files) then (.reserved, kept)
  else if deleting then (.conflict, kept)
  else if selected.ids.any kept.usedIds.contains || selected.names.any kept.usedNames.contains then (.conflict, kept)
  else if beyond limits (kept.fileCount + files.length) (kept.byteCount + selected.bytes) then (.limit, kept)
  else
    (.reserved, { kept with
      appends := kept.appends ++ [{
        fingerprint := files, fileIds := selected.ids, filenames := selected.names, reservedFileCount := files.length
        reservedBytes := selected.bytes, createdAt := now, expiresAt := min transfer.expiresAt (now + ttl) }] })

def Transfer.without (fingerprint : List TransferUploadFileInput) : Transfer :=
  { transfer with appends := transfer.appends.filter (·.fingerprint ≠ fingerprint) }

/-- All names, blank archived ones included. -/
def Transfer.takenNames : List String :=
  transfer.files.flatMap (fun file => file.filename :: file.originalFilename.toList) ++ transfer.appends.flatMap AppendReservation.filenames

def Transfer.conflicts (file : TransferFile) : Bool :=
  transfer.usedIds.contains file.id || transfer.takenNames.contains file.filename ||
    (truthy file.originalFilename).any transfer.takenNames.contains

/-- `appendPostgresTransferFilesInTransaction`, once the transfer is locked. -/
def Transfer.append (limits : Limits) (consumed : List TransferUploadFileInput) (files : List TransferFile)
    (now : Int) : AppendStatus × Transfer :=
  let kept := transfer.dropExpired now
  let pending := kept.without consumed
  if files.any pending.conflicts then (.conflict, kept)
  else if beyond limits (pending.fileCount + files.length) (pending.byteCount + (files.map TransferFile.bytes).sum) then (.limit, kept)
  else (.updated, { kept with files := kept.files ++ files })

def selects (selected : List TransferUploadFileInput) (file : TransferFile) : Bool :=
  (selected.reverse.find? (·.id == file.id)).any fun chosen =>
    chosen.name == file.filename && chosen.originalName == file.originalFilename

/-- The rest of a finalization, once the transfer is locked. `settles`: its jobs and groups go through. -/
def Transfer.finalize (limits : Limits) (selected : List TransferUploadFileInput) (files : List TransferFile)
    (settles : Bool) (now : Int) : Except TransferError (AppendStatus × Transfer) :=
  match transfer.appends.find? fun reservation => reservation.fingerprint == selected && now < reservation.expiresAt with
  | none => .ok (.missingReservation, transfer)
  | some reservation =>
    let bytes := (files.map TransferFile.bytes).sum
    if files.length ≠ reservation.reservedFileCount ∨ (distinct (selected.map TransferUploadFileInput.id)).length ≠ files.length ∨
        !files.all (selects selected) ∨ !isSafeInteger bytes ∨ reservation.reservedBytes < bytes then
      .ok (.reservationMismatch, transfer)
    else if !validateFiles files then .error .invalidTransferFile
    else
      match transfer.append limits selected files now with
      | (.updated, added) =>
        if settles then .ok (.updated, added.without selected) else .error .unsettled
      | (status, kept) => .ok (status, kept)

namespace Catalogue

/-- `select … where id = … and deleted_at is null and expires_at > clock_timestamp() for update`. -/
def owner (catalogue : Catalogue) (transferId : String) (now : Int) : Option Transfer :=
  catalogue.transfers.find? fun transfer => transfer.id == transferId && transfer.alive now

def put : Catalogue :=
  { catalogue with transfers := update catalogue.transfers (·.id == transfer.id) fun _ => transfer }

def reservePostgresTransferAppend (catalogue : Catalogue) (limits : Limits) (ttl : Int) (transferId : String)
    (files : List TransferUploadFileInput) (now : Int) : Except TransferError AppendReservationResult × Catalogue :=
  match selection files with
  | .error error => (.error error, catalogue)
  | .ok selected =>
    match catalogue.owner transferId now with
    | none => (.ok .missing, catalogue)
    | some transfer =>
      let deleting := (files.flatMap (storageKeys transferId)).any fun key => catalogue.deletions.contains (transferId, key)
      let (result, reserved) := transfer.reserve limits ttl deleting files selected now
      (.ok result, catalogue.put reserved)

def finalizePostgresTransferAppend (catalogue : Catalogue) (limits : Limits) (transferId : String) (selected : List TransferUploadFileInput)
    (files : List TransferFile) (settles : Bool) (now : Int) : Except TransferError AppendStatus × Catalogue :=
  match catalogue.owner transferId now with
  | none => (.ok .missing, catalogue)
  | some transfer =>
    match transfer.finalize limits selected files settles now with
    | .error error => (.error error, catalogue)
    | .ok (status, finalized) => (.ok status, catalogue.put finalized)

/-- A transfer that is hidden for good. The deletion of its objects is staged with it. -/
def tombstone (now : Int) : Catalogue :=
  { catalogue.put { transfer with deletedAt := some now } with
    deletions := catalogue.deletions ++ (transfer.files.flatMap TransferFile.keys).map (transfer.id, ·) }

inductive RemovalStatus
  | updated | deleted | missing | fileMissing

def removePostgresTransferFile (catalogue : Catalogue) (transferId fileId : String) (now : Int) : RemovalStatus × Catalogue :=
  match catalogue.owner transferId now with
  | none => (.missing, catalogue)
  | some transfer =>
    match transfer.files.find? (·.id == fileId) with
    | none => (.fileMissing, catalogue)
    | some file =>
      if transfer.files.length = 1 then (.deleted, catalogue.tombstone transfer now)
      else
        (.updated, { catalogue.put { transfer with files := transfer.files.filter (·.id ≠ fileId) } with
          deletions := catalogue.deletions ++ file.keys.map (transferId, ·) })

def cleanupExpiredPostgresTransfers (catalogue : Catalogue) (limit : Nat) (now : Int) : Catalogue :=
  let expired := orderBy (fun transfer other => decide (transfer.expiresAt ≤ other.expiresAt))
    (catalogue.transfers.filter fun transfer => transfer.deletedAt.isNone && transfer.expiresAt ≤ now)
  (expired.take limit).foldl (fun catalogue transfer => catalogue.tombstone transfer now) catalogue

def cleanupPostgresTransferAppendReservations (catalogue : Catalogue) (limit : Nat) (now : Int) : Catalogue :=
  let rows := catalogue.transfers.flatMap fun transfer => transfer.appends.map fun reservation => (transfer.id, reservation)
  let expired := orderBy (fun row other => decide (row.2.expiresAt ≤ other.2.expiresAt)) (rows.filter (·.2.expiresAt ≤ now))
  let chosen := expired.take (max 1 (min limit 500))
  { catalogue with
    transfers := catalogue.transfers.map fun transfer =>
      { transfer with appends := transfer.appends.filter fun reservation => (transfer.id, reservation) ∉ chosen } }

def cleanupPostgresTransferUploadReservations (limit : Nat) (now : Int) : Catalogue :=
  let expired := orderBy (fun row other => decide (row.expiresAt ≤ other.expiresAt)) (catalogue.uploads.filter (·.expiresAt ≤ now))
  let chosen := expired.take (max 1 (min limit 500))
  { catalogue with uploads := catalogue.uploads.filter (· ∉ chosen) }

def completeDeletion (transferId key : String) : Catalogue :=
  { catalogue with deletions := catalogue.deletions.filter (· ≠ (transferId, key)) }

/-- `ttl` is how long a reservation lasts. -/
def createPostgresTransferUploadReservation (ttl : Int) (transferId deleteToken actorJti : String)
    (expiresSeconds : Int) (files : List TransferUploadFileInput) (now : Int) : Except TransferError Bool × Catalogue :=
  if transferId = "" ∨ deleteToken = "" ∨ actorJti = "" ∨ files.length < 1 ∨ expiresSeconds ≤ 0 then
    (.error .invalidTransferReservation, catalogue)
  else
    match reservedBytes files with
    | none => (.error .invalidTransferReservationSize, catalogue)
    | some bytes =>
      if catalogue.transfers.any (·.id == transferId) || catalogue.deletions.any (·.1 == transferId) ||
          catalogue.uploads.any (·.transferId == transferId) then (.ok false, catalogue)
      else
        (.ok true, { catalogue with
          uploads := catalogue.uploads ++ [{
            transferId, deleteToken, actorJti, filesFingerprint := files, reservedFileCount := files.length, reservedBytes := bytes
            expiresSeconds, createdAt := now, expiresAt := now + ttl }] })

def getPostgresTransferUploadReservation (transferId : String) (now : Int) : Option TransferUploadReservation :=
  catalogue.uploads.find? fun reservation => reservation.transferId == transferId && now < reservation.expiresAt

def deletePostgresTransferUploadReservation (transferId : String) : Catalogue :=
  { catalogue with uploads := catalogue.uploads.filter (·.transferId ≠ transferId) }

inductive FinalizeResult
  | created | missingReservation | reservationMismatch | tooLarge | transferConflict

def matchesReservation (reservation : TransferUploadReservation) (deleteToken actorJti : String) (files : List TransferUploadFileInput)
    (expiresSeconds : Option Int) : Bool :=
  reservation.deleteToken == deleteToken && reservation.actorJti == actorJti && reservation.filesFingerprint == files &&
    expiresSeconds.all (reservation.expiresSeconds == ·)

/-- The transfer is created and its reservation consumed. `settles`: its groups and its jobs go through. -/
def finalizePostgresTransferReservation (transferId deleteToken actorJti : String) (expiresSeconds : Int)
    (selected : List TransferUploadFileInput) (files : List TransferFile) (settles : Bool) (now : Int) :
    Except TransferError FinalizeResult × Catalogue :=
  match catalogue.getPostgresTransferUploadReservation transferId now with
  | none => (.ok .missingReservation, catalogue)
  | some reservation =>
    let bytes := (files.map TransferFile.bytes).sum
    let selectedIds := distinct (selected.map TransferUploadFileInput.id)
    if !matchesReservation reservation deleteToken actorJti selected (some expiresSeconds) then (.ok .reservationMismatch, catalogue)
    else if files.length ≠ reservation.reservedFileCount ∨ selectedIds.length ≠ files.length ∨ files.any (·.id ∉ selectedIds) ∨
        !isSafeInteger bytes ∨ reservation.reservedBytes < bytes then (.ok .tooLarge, catalogue)
    else if 500 < files.length ∨ expiresSeconds ≤ 0 then (.error .invalidTransfer, catalogue)
    else if !validateFiles files then (.error .invalidTransferFile, catalogue)
    else if catalogue.transfers.any (·.id == transferId) then (.ok .transferConflict, catalogue)
    else if !settles then (.error .unsettled, catalogue)
    else
      (.ok .created, { catalogue.deletePostgresTransferUploadReservation transferId with
        transfers := catalogue.transfers ++ [{
          id := transferId, deleteToken, expiresAt := now + expiresSeconds * 1000, deletedAt := none, files, appends := [] }] })

end Catalogue

end MilkAndHenny.Transfers
