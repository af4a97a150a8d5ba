import MilkAndHenny.Transfers.Quota

/-! Uploads from their presigning to their finalization. Every URL of a batch is signed at once and
lives for a while; what the batch reserves is meant to live longer. -/

namespace MilkAndHenny.Transfers

open Library

/-- `TRANSFER_UPLOAD_URL_TTL_SECONDS`, or six hours. -/
structure UploadWindow where
  uploadUrlTtlSeconds : Nat := 6 * 60 * 60

def RESERVATION_GRACE_SECONDS : Nat := 30 * 60

def seconds (count : Nat) : Int := (count : Int) * 1000

namespace UploadWindow

def getUploadReservationTtlSeconds (window : UploadWindow) : Nat := window.uploadUrlTtlSeconds + RESERVATION_GRACE_SECONDS

def urlTtl (window : UploadWindow) : Int := seconds window.uploadUrlTtlSeconds

def reservationTtl (window : UploadWindow) : Int := seconds window.getUploadReservationTtlSeconds

end UploadWindow

def processable : List String :=
  ["jpg", "jpeg", "png", "webp", "avif", "tif", "tiff", "heic", "heif", "hif", "dng", "arw", "cr2", "cr3", "nef", "orf", "raf", "rw2", "raw",
    "gif", "mp4", "mov", "webm", "avi", "mkv", "m4v", "wmv", "flv"]

/-- The parts of a name between its dots. -/
def dotted (filename : String) : List (List Char) := filename.toList.splitOn '.'

def getFilenameStem (filename : String) : String :=
  match (dotted filename).dropLast with
  | [] => filename
  | parts => if parts = [[]] then filename else String.ofList (['.'].intercalate parts)

def getTransferFileId (filename : String) : String :=
  match (dotted filename).getLast? with
  | some extension =>
    if 1 < (dotted filename).length ∧ (String.ofList extension).toLower ∈ processable then getFilenameStem filename else filename
  | none => filename

def plannedFile (transferId : String) (selected : TransferUploadFileInput) : TransferFile where
  id := selected.mediaId.getD (getTransferFileId selected.name)
  filename := selected.name
  size := selected.size
  storedBytes := some selected.bytes
  storageKey := buildTransferPrimaryStorageKey transferId selected
  originalStorageKey := buildTransferArchivedOriginalStorageKey transferId selected
  originalFilename := truthy selected.originalName

def planPostgresTransferMedia (transferId : String) (selected : List TransferUploadFileInput) : List TransferFile :=
  selected.map (plannedFile transferId)

/-- What inspection counts of a file whose objects are there in full. -/
def uploadedBytes (transferId : String) (file : TransferUploadFileInput) : Int :=
  file.size + if (buildTransferArchivedOriginalStorageKey transferId file).isSome then file.originalSize.getD 0 else 0

structure Batch where
  transferId : String
  append : Bool
  files : List TransferUploadFileInput
  deriving DecidableEq

def Batch.keys (batch : Batch) : List String := batch.files.flatMap (storageKeys batch.transferId)

def Catalogue.reservedUntil (catalogue : Catalogue) (batch : Batch) : Option Int :=
  if batch.append then
    (catalogue.transfers.find? (·.id == batch.transferId)).bind fun transfer =>
      (transfer.appends.find? (·.fingerprint == batch.files)).map AppendReservation.expiresAt
  else
    (catalogue.uploads.find? fun reservation => reservation.transferId == batch.transferId && reservation.filesFingerprint == batch.files).map
      TransferUploadReservation.expiresAt

inductive UploadStatus
  | ready | reservationConflict | missingReservation | reservationMismatch | sizeMismatch | tooLarge | transferConflict | missing | conflict
  | limit | completed

structure Answer where
  status : Except TransferError UploadStatus
  presigned : List TransferUploadFileInput := []

section
variable (window : UploadWindow) (catalogue : Catalogue) (now : Int)

/-- `signed`: storage signs the URLs. `released`: where it does not, the reservation is released. -/
def presignUpload (transferId deleteToken actorJti : String) (expiresSeconds : Int) (files : List TransferUploadFileInput)
    (signed released : Bool) : Answer × Catalogue :=
  match catalogue.createPostgresTransferUploadReservation window.reservationTtl transferId deleteToken actorJti expiresSeconds files now with
  | (.error error, catalogue) => ({ status := .error error }, catalogue)
  | (.ok false, catalogue) => ({ status := .ok .reservationConflict }, catalogue)
  | (.ok true, catalogue) =>
    if signed then ({ status := .ok .ready, presigned := files }, catalogue)
    else ({ status := .error .presignFailed }, if released then catalogue.deletePostgresTransferUploadReservation transferId else catalogue)

/-- `uploaded`: the names of the files whose objects are there in full. -/
def resumeUpload (transferId deleteToken actorJti : String) (files : List TransferUploadFileInput) (uploaded : List String) (signed : Bool) : Answer :=
  match catalogue.getPostgresTransferUploadReservation transferId now with
  | none => { status := .ok .missingReservation }
  | some reservation =>
    if !Catalogue.matchesReservation reservation deleteToken actorJti files none then { status := .ok .reservationMismatch }
    else if signed then { status := .ok .ready, presigned := files.filter (·.name ∉ uploaded) }
    else { status := .error .presignFailed }

/-- `inspected`: the objects of every file are there in full. -/
def finalizeUpload (transferId deleteToken actorJti : String) (expiresSeconds : Int) (files : List TransferUploadFileInput)
    (maxTotalBytes : Option Int) (inspected settles : Bool) : Answer × Catalogue :=
  let completed := (catalogue.owner transferId now).any (·.deleteToken == deleteToken)
  match catalogue.getPostgresTransferUploadReservation transferId now with
  | none => ({ status := .ok (if completed then .completed else .missingReservation) }, catalogue)
  | some reservation =>
    if !Catalogue.matchesReservation reservation deleteToken actorJti files (some expiresSeconds) then
      ({ status := .ok .reservationMismatch }, catalogue)
    else if !inspected then ({ status := .ok .sizeMismatch }, catalogue)
    else if maxTotalBytes.any (· < (files.map (uploadedBytes transferId)).sum) then ({ status := .ok .tooLarge }, catalogue)
    else
      match catalogue.finalizePostgresTransferReservation transferId deleteToken actorJti expiresSeconds files
          (planPostgresTransferMedia transferId files) settles now with
      | (.error error, catalogue) => ({ status := .error error }, catalogue)
      | (.ok .created, catalogue) => ({ status := .ok .completed }, catalogue)
      | (.ok .missingReservation, catalogue) => ({ status := .ok .missingReservation }, catalogue)
      | (.ok .reservationMismatch, catalogue) => ({ status := .ok .reservationMismatch }, catalogue)
      | (.ok .tooLarge, catalogue) => ({ status := .ok .tooLarge }, catalogue)
      | (.ok .transferConflict, catalogue) => ({ status := .ok (if completed then .completed else .transferConflict) }, catalogue)

def presignAppend (transferId : String) (files : List TransferUploadFileInput) (limits : Limits) (signed : Bool) : Answer × Catalogue :=
  match catalogue.reservePostgresTransferAppend limits window.reservationTtl transferId files now with
  | (.error error, catalogue) => ({ status := .error error }, catalogue)
  | (.ok .missing, catalogue) => ({ status := .ok .missing }, catalogue)
  | (.ok .conflict, catalogue) => ({ status := .ok .conflict }, catalogue)
  | (.ok .limit, catalogue) => ({ status := .ok .limit }, catalogue)
  | (.ok .reserved, catalogue) =>
    if signed then ({ status := .ok .ready, presigned := files }, catalogue) else ({ status := .error .presignFailed }, catalogue)

def finalizeAppend (transferId : String) (files : List TransferUploadFileInput) (limits : Limits) (inspected settles : Bool) : Answer × Catalogue :=
  if !inspected then ({ status := .ok .sizeMismatch }, catalogue)
  else
    match catalogue.finalizePostgresTransferAppend limits transferId files (planPostgresTransferMedia transferId files) settles now with
    | (.error error, catalogue) => ({ status := .error error }, catalogue)
    | (.ok .updated, catalogue) => ({ status := .ok .completed }, catalogue)
    | (.ok .missing, catalogue) => ({ status := .ok .missing }, catalogue)
    | (.ok .conflict, catalogue) => ({ status := .ok .conflict }, catalogue)
    | (.ok .limit, catalogue) => ({ status := .ok .limit }, catalogue)
    | (.ok .missingReservation, catalogue) => ({ status := .ok .missingReservation }, catalogue)
    | (.ok .reservationMismatch, catalogue) => ({ status := .ok .reservationMismatch }, catalogue)

end

end MilkAndHenny.Transfers
