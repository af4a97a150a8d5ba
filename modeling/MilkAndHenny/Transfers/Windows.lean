import MilkAndHenny.Transfers.Uploads
import Mathlib.Data.List.Pairwise

/-! The URLs of an upload against its reservation. A URL is signed anew on every try, and the
reservation is not, so a later try can outlive it. -/

namespace MilkAndHenny.Transfers

open Library

variable {transfer : Transfer} {limits : Limits} {ttl : Int} {files : List TransferUploadFileInput}
  {selected : Selection} {now : Int} {catalogue : Catalogue} {act : Act} {batch other : Batch} {held : Int}
  {window : UploadWindow} {transferId key : String}

/-- A URL that was handed out, with what was reserved for its batch at that moment. -/
structure UploadUrl where
  batch : Batch
  key : String
  expiresAt : Int
  reservedUntil : Option Int
  deriving DecidableEq

structure Service where
  catalogue : Catalogue
  now : Int
  urls : List UploadUrl

inductive Operation
  | presignUpload (transferId deleteToken actorJti : String) (expiresSeconds : Int) (files : List TransferUploadFileInput) (signed released : Bool)
  | resumeUpload (transferId deleteToken actorJti : String) (files : List TransferUploadFileInput) (uploaded : List String) (signed : Bool)
  | finalizeUpload (transferId deleteToken actorJti : String) (expiresSeconds : Int) (files : List TransferUploadFileInput)
    (maxTotalBytes : Option Int) (inspected settles : Bool)
  | presignAppend (transferId : String) (files : List TransferUploadFileInput) (limits : Limits) (signed : Bool)
  | finalizeAppend (transferId : String) (files : List TransferUploadFileInput) (limits : Limits) (inspected settles : Bool)
  | expireUploads (limit : Nat)
  | expireAppends (limit : Nat)
  | expireTransfers (limit : Nat)
  | completeDeletion (transferId key : String)

/-- An operation, and how long after the last one it comes. -/
structure Turn where
  operation : Operation
  elapsed : Nat

section
variable (window : UploadWindow)

def Catalogue.handOut (catalogue : Catalogue) (batch : Batch) (presigned : List TransferUploadFileInput) (now : Int) : List UploadUrl :=
  (presigned.flatMap (storageKeys batch.transferId)).map fun key =>
    { batch, key, expiresAt := now + window.urlTtl, reservedUntil := catalogue.reservedUntil batch }

def Service.perform (service : Service) (operation : Operation) (now : Int) : Catalogue × List UploadUrl :=
  let catalogue := service.catalogue
  match operation with
  | .presignUpload transferId deleteToken actorJti expiresSeconds files signed released =>
    let (answer, catalogue) := presignUpload window catalogue now transferId deleteToken actorJti expiresSeconds files signed released
    (catalogue, catalogue.handOut window { transferId, append := false, files } answer.presigned now)
  | .resumeUpload transferId deleteToken actorJti files uploaded signed =>
    let answer := resumeUpload catalogue now transferId deleteToken actorJti files uploaded signed
    (catalogue, catalogue.handOut window { transferId, append := false, files } answer.presigned now)
  | .finalizeUpload transferId deleteToken actorJti expiresSeconds files maxTotalBytes inspected settles =>
    ((finalizeUpload catalogue now transferId deleteToken actorJti expiresSeconds files maxTotalBytes inspected settles).2, [])
  | .presignAppend transferId files limits signed =>
    let (answer, catalogue) := presignAppend window catalogue now transferId files limits signed
    (catalogue, catalogue.handOut window { transferId, append := true, files } answer.presigned now)
  | .finalizeAppend transferId files limits inspected settles =>
    ((finalizeAppend catalogue now transferId files limits inspected settles).2, [])
  | .expireUploads limit => (catalogue.cleanupPostgresTransferUploadReservations limit now, [])
  | .expireAppends limit => (catalogue.cleanupPostgresTransferAppendReservations limit now, [])
  | .expireTransfers limit => (catalogue.cleanupExpiredPostgresTransfers limit now, [])
  | .completeDeletion transferId key => (catalogue.completeDeletion transferId key, [])

def Service.turn (turn : Turn) (service : Service) : Service :=
  let now := service.now + turn.elapsed
  let (catalogue, urls) := service.perform window turn.operation now
  { catalogue, now, urls := service.urls ++ urls }

/-- A URL expires no later than what was reserved for its batch when it was handed out. -/
def Outlived (service : Service) : Prop := ∀ url ∈ service.urls, ∃ held ∈ url.reservedUntil, url.expiresAt ≤ held

/-- What a live URL uploads to is reserved for no other batch of its transfer. -/
def Exclusive (service : Service) : Prop :=
  ∀ url ∈ service.urls, service.now < url.expiresAt → ∀ batch, (service.catalogue.reservedUntil batch).isSome →
    batch.transferId = url.batch.transferId → url.key ∈ batch.keys → batch = url.batch

def Catalogue.Stored (catalogue : Catalogue) (batch : Batch) : Prop :=
  ∃ transfer ∈ catalogue.transfers, transfer.id = batch.transferId ∧
    ∀ file ∈ planPostgresTransferMedia batch.transferId batch.files, file ∈ transfer.files

def Catalogue.finds (catalogue : Catalogue) (batch : Batch) (now : Int) : Bool :=
  if batch.append then
    (catalogue.owner batch.transferId now).any fun transfer =>
      transfer.appends.any fun reservation => reservation.fingerprint == batch.files && now < reservation.expiresAt
  else
    (catalogue.getPostgresTransferUploadReservation batch.transferId now).any (·.filesFingerprint == batch.files)

/-- While a URL is live its batch is finalized already, or can be. -/
def Findable (service : Service) : Prop :=
  ∀ url ∈ service.urls, service.catalogue.Stored url.batch ∨
    ∀ moment, service.now ≤ moment → moment < url.expiresAt → service.catalogue.finds url.batch moment

def Transfer.grants (transfer : Transfer) (limits : Limits) (deleting : Bool) (files : List TransferUploadFileInput) (selected : Selection)
    (now : Int) : Prop :=
  let kept := transfer.dropExpired now
  files ∈ kept.appends.map AppendReservation.fingerprint ∨
    deleting = false ∧ (∀ id ∈ selected.ids, id ∉ kept.usedIds) ∧ (∀ name ∈ selected.names, name ∉ kept.usedNames) ∧
      beyond limits (kept.fileCount + files.length) (kept.byteCount + selected.bytes) = false

/-- Some of the objects of a batch are about to be deleted. -/
def Catalogue.deleting (catalogue : Catalogue) (transferId : String) (files : List TransferUploadFileInput) : Bool :=
  (files.flatMap (storageKeys transferId)).any fun key => catalogue.deletions.contains (transferId, key)

def grace : Int := seconds RESERVATION_GRACE_SECONDS

/-- A try comes within the grace of the first one, and not within the lifetime of its URLs of the transfer's own end. -/
def Timely (turn : Turn) (service : Service) : Prop :=
  let now := service.now + turn.elapsed
  let catalogue := service.catalogue
  match turn.operation with
  | .resumeUpload transferId deleteToken actorJti files uploaded signed =>
    ∀ reservation ∈ catalogue.getPostgresTransferUploadReservation transferId now,
      Catalogue.matchesReservation reservation deleteToken actorJti files none → signed → (∃ file ∈ files, file.name ∉ uploaded) →
        now ≤ reservation.createdAt + grace
  | .presignAppend transferId files limits signed =>
    ∀ transfer ∈ catalogue.owner transferId now, ∀ selected, selection files = .ok selected → signed →
      transfer.grants limits (catalogue.deleting transferId files) files selected now →
        now + window.urlTtl ≤ transfer.expiresAt ∧
          ∀ reservation ∈ transfer.appends, reservation.fingerprint = files → now < reservation.expiresAt → now ≤ reservation.createdAt + grace
  | _ => True

def opening (start : Int) : Service := { catalogue := empty, now := start, urls := [] }

end

section
variable {deleting : Bool}

theorem reserve_granted (ttl : Int) (granted : transfer.grants limits deleting files selected now) :
    (transfer.reserve limits ttl deleting files selected now).1 = .reserved ∧
      ((∃ own ∈ (transfer.dropExpired now).appends, own.fingerprint = files ∧
          own ∈ (transfer.reserve limits ttl deleting files selected now).2.appends) ∨
        files ∉ (transfer.dropExpired now).appends.map AppendReservation.fingerprint ∧
          reservation transfer ttl files selected now ∈ (transfer.reserve limits ttl deleting files selected now).2.appends) := by
  unfold Transfer.reserve
  simp only
  split
  · next same =>
    obtain ⟨own, mem, equal⟩ := any_eq_true.mp same
    exact ⟨rfl, .inl ⟨own, mem, eq_of_beq equal, mem⟩⟩
  · next new =>
    have fresh : files ∉ (transfer.dropExpired now).appends.map AppendReservation.fingerprint := by
      intro mem
      obtain ⟨own, listed, same⟩ := mem_map.mp mem
      exact new (any_eq_true.mpr ⟨own, listed, beq_iff_eq.mpr same⟩)
    rcases granted with mem | ⟨open', ids, names, inside⟩
    · exact absurd mem fresh
    · have free : (selected.ids.any (transfer.dropExpired now).usedIds.contains ||
          selected.names.any (transfer.dropExpired now).usedNames.contains) = false := by
        simp only [or_eq_false_iff, any_eq_false, contains_iff_mem]
        exact ⟨ids, names⟩
      rw [if_neg (eq_false_iff.mp open'), if_neg (eq_false_iff.mp free), if_neg (eq_false_iff.mp inside)]
      exact ⟨rfl, .inr ⟨fresh, mem_append_right _ (mem_singleton.mpr rfl)⟩⟩

theorem reserve_refused (refused : ¬ transfer.grants limits deleting files selected now) :
    (transfer.reserve limits ttl deleting files selected now).1 ≠ .reserved := by
  intro reserved
  apply refused
  unfold Transfer.reserve at reserved
  simp only at reserved
  split at reserved
  · next same =>
    obtain ⟨own, mem, equal⟩ := any_eq_true.mp same
    exact .inl (mem_map.mpr ⟨own, mem, eq_of_beq equal⟩)
  · split at reserved
    · cases reserved
    · next open' =>
      split at reserved
      · cases reserved
      · next free =>
        split at reserved
        · cases reserved
        · next inside =>
          simp only [or_eq_true, not_or, not_eq_true, any_eq_false, contains_iff_mem] at free
          exact .inr ⟨eq_false_iff.mpr open', free.1, free.2, eq_false_iff.mpr inside⟩

theorem reserve_keeps {own : AppendReservation} (mem : own ∈ transfer.appends) (alive : now < own.expiresAt) :
    own ∈ (transfer.reserve limits ttl deleting files selected now).2.appends := by
  have live : own ∈ (transfer.dropExpired now).appends := mem_filter.mpr ⟨mem, decide_eq_true alive⟩
  rcases reserve_cases transfer limits ttl deleting files selected now with same | ⟨-, -, -, -, same⟩ <;> rw [same]
  · exact live
  · exact mem_append_left _ live

theorem reserve_same (transfer : Transfer) (limits : Limits) (ttl : Int) (deleting : Bool) (files : List TransferUploadFileInput)
    (selected : Selection) (now : Int) :
    ∃ appends, (transfer.reserve limits ttl deleting files selected now).2 = { transfer with appends } := by
  rcases reserve_cases transfer limits ttl deleting files selected now with same | ⟨-, -, -, -, same⟩ <;> rw [same]
  · exact ⟨_, rfl⟩
  · exact ⟨_, rfl⟩

/-- No batch lasts longer than its transfer, nor than a reservation does. -/
def Capped (ttl : Int) (transfer : Transfer) : Prop :=
  ∀ own ∈ transfer.appends, own.expiresAt = min transfer.expiresAt (own.createdAt + ttl)

theorem closed_capped : Closed limits ttl fun transfer => Distinct transfer ∧ Capped ttl transfer where
  reserve := fun {transfer deleting files selected now} chosen kept => by
    refine ⟨reserve_distinct chosen kept.1, ?_⟩
    rcases reserve_cases transfer limits ttl deleting files selected now with same | ⟨-, -, -, -, same⟩ <;> rw [same]
    · exact fun own mem => kept.2 own (mem_of_mem_filter mem)
    · intro own mem
      rcases mem_append.mp mem with old | last
      · exact kept.2 own (mem_of_mem_filter old)
      · cases mem_singleton.mp last
        rfl
  finalize := fun {transfer selected files settles now status after} kept finalized => by
    rcases finalize_outcome kept.1 finalized with rfl | rfl | ⟨own, mem, rfl, alive, delivers, rfl⟩
    · exact kept
    · exact ⟨kept.1.dropExpired now, fun own mem => kept.2 own (mem_of_mem_filter mem)⟩
    · have live : own ∈ (transfer.dropExpired now).appends := mem_filter.mpr ⟨mem, decide_eq_true alive⟩
      exact ⟨(kept.1.dropExpired now).deliver live delivers, fun other listed => kept.2 other (mem_of_mem_filter (mem_of_mem_filter listed))⟩
  fewer := fun kept files appends => ⟨kept.1.fewer files appends, fun own mem => kept.2 own (appends.subset mem)⟩
  delete := fun kept => ⟨⟨kept.1.ids, kept.1.names, kept.1.keyed, kept.1.listed, kept.1.sizes⟩, kept.2⟩

end

section
variable {moment : Int}

def Act.planned : Act → Prop
  | .create transferId _ _ _ selected files _ => files = planPostgresTransferMedia transferId selected
  | .finalize transferId selected files _ => files = planPostgresTransferMedia transferId selected
  | .remove _ _ => False
  | _ => True

/-- What every run keeps. An upload is reserved for a transfer that is not there. -/
structure Kept (ttl now : Int) (catalogue : Catalogue) : Prop where
  keyed : (catalogue.transfers.map Transfer.id).Nodup
  transfers : ∀ transfer ∈ catalogue.transfers, Distinct transfer ∧ Capped ttl transfer
  once : (catalogue.uploads.map TransferUploadReservation.transferId).Nodup
  lasting : ∀ upload ∈ catalogue.uploads, upload.expiresAt = upload.createdAt + ttl
  apart : ∀ upload ∈ catalogue.uploads, ∀ transfer ∈ catalogue.transfers, transfer.id ≠ upload.transferId
  ended : ∀ transfer ∈ catalogue.transfers, transfer.deletedAt.isSome → transfer.expiresAt ≤ now

theorem Kept.later (kept : Kept ttl now catalogue) (after : now ≤ moment) : Kept ttl moment catalogue :=
  { kept with ended := fun transfer mem deleted => (kept.ended transfer mem deleted).trans after }

theorem Kept.distinct (kept : Kept ttl now catalogue) : ∀ row ∈ catalogue.transfers, Distinct row := fun row mem => (kept.transfers row mem).1

theorem finalize_same {after : Transfer} {selected : List TransferUploadFileInput} {files : List TransferFile} {settles : Bool}
    {status : AppendStatus} (distinct : Distinct transfer) (finalized : transfer.finalize limits selected files settles now = .ok (status, after)) :
    ∃ files appends, after = { transfer with files, appends } := by
  rcases finalize_outcome distinct finalized with rfl | rfl | ⟨_, _, _, _, _, rfl⟩
  · exact ⟨_, _, rfl⟩
  · exact ⟨_, _, rfl⟩
  · exact ⟨_, _, rfl⟩

/-- A transfer is only hidden once it has run out. -/
theorem next_ended (planned : act.planned) (kept : Kept ttl now catalogue) :
    ∀ transfer ∈ (next limits ttl { act, now } catalogue).transfers, transfer.deletedAt.isSome → transfer.expiresAt ≤ now := by
  rcases @next_rows limits ttl catalogue kept.keyed kept.distinct { act, now } with pairs | ⟨_, _, _, _, _, _, _, -, -, -, added⟩
  · intro after mem deleted
    obtain ⟨row, listed, -, alters⟩ := mem_pairs pairs mem
    have ended := kept.ended row listed
    cases alters with
    | same => exact ended deleted
    | @reserve deleting files selected =>
      obtain ⟨appends, same⟩ := reserve_same row limits ttl deleting files selected now
      rw [same] at deleted ⊢
      exact ended deleted
    | finalize _ finalized =>
      obtain ⟨files, appends, rfl⟩ := finalize_same (kept.distinct row listed) finalized
      exact ended deleted
    | remove asked =>
      obtain rfl : act = _ := asked
      cases planned
    | expire => exact ended deleted
    | delete due =>
      rcases due with ⟨_, _, asked⟩ | due
      · obtain rfl : act = _ := asked
        cases planned
      · exact due
  · rw [added, List.forall_mem_append, List.forall_mem_singleton]
    exact ⟨kept.ended, nofun⟩

inductive Moves (ttl now : Int) (act : Act) (before after : Catalogue) : Prop
  | keeps (fewer : after.uploads.Sublist before.uploads) (live : ∀ upload ∈ before.uploads, now < upload.expiresAt → upload ∈ after.uploads)
    (ids : after.transfers.map Transfer.id = before.transfers.map Transfer.id)
  | reserves (upload : TransferUploadReservation) (new : ∀ transfer ∈ before.transfers, transfer.id ≠ upload.transferId)
    (once : ∀ other ∈ before.uploads, other.transferId ≠ upload.transferId) (lasting : upload.expiresAt = upload.createdAt + ttl)
    (same : after = { before with uploads := before.uploads ++ [upload] })
  | creates (upload : TransferUploadReservation) (mem : upload ∈ before.uploads) (transfer : Transfer) (id : transfer.id = upload.transferId)
    (files : act.planned → transfer.files = planPostgresTransferMedia upload.transferId upload.filesFingerprint)
    (same : after = { before.deletePostgresTransferUploadReservation upload.transferId with transfers := before.transfers ++ [transfer] })

theorem next_moves (limits : Limits) (act : Act) (kept : Kept ttl now catalogue) :
    Moves ttl now act catalogue (next limits ttl { act, now } catalogue) := by
  have keeps (uploads : (next limits ttl { act, now } catalogue).uploads = catalogue.uploads)
      (asked : ∀ transferId deleteToken actorJti expiresSeconds selected files settles,
        act ≠ .create transferId deleteToken actorJti expiresSeconds selected files settles) :
      Moves ttl now act catalogue (next limits ttl { act, now } catalogue) := by
    rcases @next_rows limits ttl catalogue kept.keyed kept.distinct { act, now } with pairs | ⟨_, _, _, _, _, _, _, created, -⟩
    · refine .keeps (uploads ▸ .refl _) (fun _ mem _ => uploads ▸ mem) (map_pairs pairs fun row after pair => pair.1.symm).symm
    · exact absurd created (asked _ _ _ _ _ _ _)
  cases act with
  | reserveUpload transferId deleteToken actorJti expiresSeconds files =>
    rcases reserveUpload_cases catalogue ttl transferId deleteToken actorJti expiresSeconds files now with
      ⟨-, same⟩ | ⟨-, -, new, once, upload, rfl, -, created, expires, added⟩
    · exact keeps (congrArg Catalogue.uploads same) (by simp)
    · exact .reserves upload new once (by rw [expires, created]) added
  | create transferId deleteToken actorJti expiresSeconds selected files settles =>
    simp only [next]
    rcases create_cases catalogue transferId deleteToken actorJti expiresSeconds selected files settles now with
      same | ⟨-, -, ⟨upload, mem, rfl, rfl⟩, added⟩
    · rw [same]
      exact .keeps (.refl _) (fun _ mem _ => mem) rfl
    · exact .creates upload mem (created upload.transferId deleteToken expiresSeconds files now) rfl id added
  | reserve =>
    refine keeps ?_ (by simp)
    simp only [next, Catalogue.reservePostgresTransferAppend]
    split
    · rfl
    · split <;> rfl
  | finalize =>
    refine keeps ?_ (by simp)
    simp only [next, Catalogue.finalizePostgresTransferAppend]
    split
    · rfl
    · split <;> rfl
  | remove =>
    refine keeps ?_ (by simp)
    simp only [next, Catalogue.removePostgresTransferFile]
    split
    · rfl
    · split
      · rfl
      · split <;> rfl
  | expireUploads =>
    refine .keeps filter_sublist (fun upload mem live => mem_filter.mpr ⟨mem, decide_eq_true fun chosen => ?_⟩) rfl
    have listed := (perm_insertionSort _ _).subset (mem_of_mem_take chosen)
    exact absurd (of_decide_eq_true (mem_filter.mp listed).2) (not_le.mpr live)
  | expireAppends => exact keeps rfl (by simp)
  | expireTransfers limit =>
    refine keeps ?_ (by simp)
    simp only [next, Catalogue.cleanupExpiredPostgresTransfers]
    generalize (orderBy _ _).take limit = chosen
    clear keeps kept
    induction chosen generalizing catalogue with
    | nil => rfl
    | cons transfer chosen ih => exact ih
  | completeDeletion => exact keeps rfl (by simp)

theorem next_kept (limits : Limits) (act : Act) (planned : act.planned) (kept : Kept ttl now catalogue) : Kept ttl now
    (next limits ttl { act, now } catalogue) where
  keyed := next_keyed kept.keyed kept.distinct _
  transfers := next_all kept.keyed kept.distinct closed_capped kept.transfers fun _ _ _ _ _ _ _ _ valid =>
    ⟨(@created_sound _ _ limits _ _ _ valid).1, nofun⟩
  once := by
    rcases next_moves limits act kept with ⟨fewer, -, -⟩ | ⟨upload, -, once, -, same⟩ | ⟨upload, -, _, -, -, same⟩
    · exact kept.once.sublist (fewer.map _)
    · rw [same, map_append]
      refine nodup_append_comm.mp (nodup_cons.mpr ⟨fun mem => ?_, kept.once⟩)
      obtain ⟨other, listed, equal⟩ := mem_map.mp mem
      exact once other listed equal
    · rw [same]
      exact kept.once.sublist (filter_sublist.map _)
  lasting := by
    rcases next_moves limits act kept with ⟨fewer, -, -⟩ | ⟨upload, -, -, lasting, same⟩ | ⟨upload, -, _, -, -, same⟩
    · exact fun other mem => kept.lasting other (fewer.subset mem)
    · rw [same]
      intro other mem
      rcases mem_append.mp mem with old | last
      · exact kept.lasting other old
      · cases mem_singleton.mp last
        exact lasting
    · rw [same]
      exact fun other mem => kept.lasting other (mem_of_mem_filter mem)
  apart := by
    rcases next_moves limits act kept with ⟨fewer, -, ids⟩ | ⟨upload, new, -, -, same⟩ | ⟨upload, listed, transfer, id, -, same⟩
    · intro other mem transfer listed equal
      have there : other.transferId ∈ catalogue.transfers.map Transfer.id := ids ▸ mem_map.mpr ⟨transfer, listed, equal⟩
      obtain ⟨old, inside, one⟩ := mem_map.mp there
      exact kept.apart other (fewer.subset mem) old inside one
    · rw [same]
      intro other mem transfer listed
      rcases mem_append.mp mem with old | last
      · exact kept.apart other old transfer listed
      · cases mem_singleton.mp last
        exact new transfer listed
    · rw [same]
      intro other mem third inside
      obtain ⟨old, others⟩ := mem_filter.mp mem
      rcases mem_append.mp inside with before | last
      · exact kept.apart other old third before
      · cases mem_singleton.mp last
        exact fun equal => of_decide_eq_true others (equal.symm.trans id)
  ended := next_ended planned kept

structure Follows (now : Int) (transfer after : Transfer) : Prop where
  id : after.id = transfer.id
  files : transfer.files ⊆ after.files
  appends : ∀ own ∈ transfer.appends, now < own.expiresAt →
    own ∈ after.appends ∨ planPostgresTransferMedia transfer.id own.fingerprint ⊆ after.files

theorem Follows.refl (now : Int) (transfer : Transfer) : Follows now transfer transfer :=
  ⟨rfl, List.Subset.refl _, fun _ mem _ => .inl mem⟩

theorem next_follows (limits : Limits) (planned : act.planned) (kept : Kept ttl now catalogue) :
    ∀ transfer ∈ catalogue.transfers, ∃ after ∈ (next limits ttl { act, now } catalogue).transfers, Follows now transfer after := by
  rcases @next_rows limits ttl catalogue kept.keyed kept.distinct { act, now } with pairs | ⟨_, _, _, _, _, _, _, -, -, -, added⟩
  · intro transfer mem
    obtain ⟨after, listed, id, alters⟩ := mem_pairs pairs.flip mem
    refine ⟨after, listed, ?_⟩
    cases alters with
    | same => exact .refl now transfer
    | @reserve deleting files selected =>
      refine ⟨id, ?_, fun own mem alive => .inl (reserve_keeps mem alive)⟩
      obtain ⟨appends, same⟩ := reserve_same transfer limits ttl deleting files selected now
      rw [same]
      exact List.Subset.refl _
    | @finalize selected files settles status after asked finalized =>
      obtain rfl : act = _ := asked
      have live : ∀ own ∈ transfer.appends, now < own.expiresAt → own ∈ (transfer.dropExpired now).appends :=
        fun own listed alive => mem_filter.mpr ⟨listed, decide_eq_true alive⟩
      rcases finalize_outcome (kept.distinct transfer mem) finalized with rfl | rfl | ⟨-, -, -, -, -, rfl⟩
      · exact .refl now _
      · exact ⟨id, List.Subset.refl _, fun own listed alive => .inl (live own listed alive)⟩
      · refine ⟨id, subset_append_left _ _, fun own listed alive => ?_⟩
        by_cases same : own.fingerprint = selected
        · rw [same, ← planned]
          exact .inr (List.subset_append_right _ _)
        · exact .inl (mem_filter.mpr ⟨live own listed alive, decide_eq_true same⟩)
    | remove asked =>
      obtain rfl : act = _ := asked
      cases planned
    | expire _ live => exact ⟨id, List.Subset.refl _, fun own held alive => .inl (live own held alive)⟩
    | delete => exact ⟨id, List.Subset.refl _, fun own held _ => .inl held⟩
  · rw [added]
    exact fun transfer mem => ⟨transfer, mem_append_left _ mem, .refl now transfer⟩

end

/-- What is reserved for a batch, row by row. -/
def Catalogue.Holds (catalogue : Catalogue) (batch : Batch) (held : Int) : Prop :=
  if batch.append then
    ∃ transfer ∈ catalogue.transfers, transfer.id = batch.transferId ∧
      ∃ own ∈ transfer.appends, own.fingerprint = batch.files ∧ own.expiresAt = held
  else ∃ upload ∈ catalogue.uploads, upload.transferId = batch.transferId ∧ upload.filesFingerprint = batch.files ∧ upload.expiresAt = held

theorem reservedUntil_iff (kept : Kept ttl now catalogue) : catalogue.reservedUntil batch = some held ↔ catalogue.Holds batch held := by
  unfold Catalogue.reservedUntil Catalogue.Holds
  split
  · rw [bind_eq_some_iff]
    constructor
    · rintro ⟨transfer, found, reserved⟩
      obtain ⟨own, first, rfl⟩ := map_eq_some_iff.mp reserved
      have id := find?_some found
      have fingerprint := find?_some first
      exact ⟨transfer, mem_of_find?_eq_some found, eq_of_beq id, own, mem_of_find?_eq_some first, eq_of_beq fingerprint, rfl⟩
    · rintro ⟨transfer, mem, id, own, listed, fingerprint, rfl⟩
      refine ⟨transfer, id ▸ find?_key kept.keyed mem, map_eq_some_iff.mpr ⟨own, ?_, rfl⟩⟩
      refine find?_only listed (beq_iff_eq.mpr fingerprint) fun other inside same => ?_
      exact inj_on_of_nodup_map (kept.transfers transfer mem).1.keyed inside listed ((eq_of_beq same).trans fingerprint.symm)
  · rw [map_eq_some_iff]
    constructor
    · rintro ⟨upload, found, rfl⟩
      have here := find?_some found
      rw [and_eq_true, beq_iff_eq, beq_iff_eq] at here
      exact ⟨upload, mem_of_find?_eq_some found, here.1, here.2, rfl⟩
    · rintro ⟨upload, mem, id, files, rfl⟩
      refine ⟨upload, find?_only mem (by simp [id, files]) fun other inside same => ?_, rfl⟩
      rw [and_eq_true, beq_iff_eq] at same
      exact inj_on_of_nodup_map kept.once inside mem (same.1.trans id.symm)

theorem next_stored (planned : act.planned) (kept : Kept ttl now catalogue) (stored : catalogue.Stored batch) :
    (next limits ttl { act, now } catalogue).Stored batch := by
  obtain ⟨transfer, mem, id, files⟩ := stored
  obtain ⟨after, listed, follows⟩ := next_follows limits planned kept transfer mem
  exact ⟨after, listed, follows.id.trans id, fun file chosen => follows.files (files file chosen)⟩

theorem next_holds (limits : Limits) (planned : act.planned) (kept : Kept ttl now catalogue) (holds : catalogue.Holds batch held) (live : now < held) :
    (next limits ttl { act, now } catalogue).Stored batch ∨ (next limits ttl { act, now } catalogue).Holds batch held := by
  obtain ⟨transferId, append, files⟩ := batch
  cases append with
  | true =>
    obtain ⟨transfer, mem, rfl, own, listed, rfl, rfl⟩ := holds
    obtain ⟨after, inside, follows⟩ := next_follows limits planned kept transfer mem
    rcases follows.appends own listed live with still | stored
    · exact .inr ⟨after, inside, follows.id, own, still, rfl, rfl⟩
    · exact .inl ⟨after, inside, follows.id, fun file chosen => stored chosen⟩
  | false =>
    obtain ⟨upload, mem, rfl, rfl, rfl⟩ := holds
    rcases next_moves limits act kept with ⟨-, stays, -⟩ | ⟨new, -, -, -, same⟩ | ⟨taken, listed, transfer, id, stored, same⟩
    · exact .inr ⟨upload, stays upload mem live, rfl, rfl, rfl⟩
    · rw [same]
      exact .inr ⟨upload, mem_append_left _ mem, rfl, rfl, rfl⟩
    · rw [same]
      by_cases one : upload.transferId = taken.transferId
      · cases inj_on_of_nodup_map kept.once mem listed one
        refine .inl ⟨transfer, mem_append_right _ (mem_singleton.mpr rfl), id, fun file chosen => ?_⟩
        rwa [stored planned]
      · exact .inr ⟨upload, mem_filter.mpr ⟨mem, decide_eq_true one⟩, rfl, rfl, rfl⟩

section
variable (window : UploadWindow) (catalogue : Catalogue) (now : Int) (transferId : String)

theorem presignUpload_cases (deleteToken actorJti : String) (expiresSeconds : Int) (files : List TransferUploadFileInput)
    (signed released : Bool) :
    let created := catalogue.createPostgresTransferUploadReservation window.reservationTtl transferId deleteToken actorJti expiresSeconds files now
    let answered := presignUpload window catalogue now transferId deleteToken actorJti expiresSeconds files signed released
    answered.1.presigned = [] ∧ (answered.2 = catalogue ∨ answered.2 = created.2) ∨
      answered.1.presigned = files ∧ created.1 = .ok true ∧ answered.2 = created.2 := by
  intro created answered
  simp only [answered, presignUpload]
  rcases reserveUpload_cases catalogue window.reservationTtl transferId deleteToken actorJti expiresSeconds files now with
    ⟨refused, -⟩ | ⟨done, -, -, new, upload, id, -, -, -, added⟩
  · split
    · next same => exact .inl ⟨rfl, .inr (congrArg Prod.snd same).symm⟩
    · next same => exact .inl ⟨rfl, .inr (congrArg Prod.snd same).symm⟩
    · next same => exact absurd (congrArg Prod.fst same) refused
  · have answer : created = (.ok true, { catalogue with uploads := catalogue.uploads ++ [upload] }) := Prod.ext done added
    simp only [created] at answer ⊢
    rw [answer]
    cases signed with
    | true => exact .inr (by simp)
    | false =>
      cases released with
      | false => exact .inl ⟨rfl, .inr rfl⟩
      | true =>
        refine .inl ⟨rfl, .inl ?_⟩
        have others : (catalogue.uploads ++ [upload]).filter (·.transferId ≠ transferId) = catalogue.uploads := by
          rw [filter_append, filter_cons_of_neg (by simpa using id), List.filter_nil, append_nil, filter_eq_self]
          exact fun other listed => decide_eq_true (new other listed)
        exact congrArg (fun uploads => { catalogue with uploads }) others

theorem finalizeUpload_cases (deleteToken actorJti : String) (expiresSeconds : Int) (files : List TransferUploadFileInput)
    (maxTotalBytes : Option Int) (inspected settles : Bool) :
    (finalizeUpload catalogue now transferId deleteToken actorJti expiresSeconds files maxTotalBytes inspected settles).2 = catalogue ∨
      (finalizeUpload catalogue now transferId deleteToken actorJti expiresSeconds files maxTotalBytes inspected settles).2 =
        (catalogue.finalizePostgresTransferReservation transferId deleteToken actorJti expiresSeconds files
          (planPostgresTransferMedia transferId files) settles now).2 := by
  unfold finalizeUpload
  split
  · exact .inl rfl
  · split
    · exact .inl rfl
    · split
      · exact .inl rfl
      · split
        · exact .inl rfl
        · refine .inr ?_
          split <;> next same => exact (congrArg Prod.snd same).symm

variable (files : List TransferUploadFileInput)

theorem presignAppend_cases (limits : Limits) (signed : Bool) :
    let reserved := catalogue.reservePostgresTransferAppend limits window.reservationTtl transferId files now
    let answered := presignAppend window catalogue now transferId files limits signed
    answered.2 = reserved.2 ∧
      (reserved.1 = .ok .reserved ∧ signed ∧ answered.1.presigned = files ∨
        ¬ (reserved.1 = .ok .reserved ∧ signed) ∧ answered.1.presigned = []) := by
  simp only [presignAppend]
  generalize catalogue.reservePostgresTransferAppend limits window.reservationTtl transferId files now = answer
  obtain ⟨result, after⟩ := answer
  rcases result with error | _ | _ | _ | _
  · exact ⟨rfl, .inr ⟨by simp, rfl⟩⟩
  · cases signed with
    | true => exact ⟨rfl, .inl ⟨rfl, rfl, rfl⟩⟩
    | false => exact ⟨rfl, .inr ⟨by simp, rfl⟩⟩
  · exact ⟨rfl, .inr ⟨by simp, rfl⟩⟩
  · exact ⟨rfl, .inr ⟨by simp, rfl⟩⟩
  · exact ⟨rfl, .inr ⟨by simp, rfl⟩⟩

theorem finalizeAppend_cases (limits : Limits) (inspected settles : Bool) :
    (finalizeAppend catalogue now transferId files limits inspected settles).2 = catalogue ∨
      (finalizeAppend catalogue now transferId files limits inspected settles).2 =
        (catalogue.finalizePostgresTransferAppend limits transferId files (planPostgresTransferMedia transferId files) settles now).2 := by
  unfold finalizeAppend
  split
  · exact .inl rfl
  · refine .inr ?_
    split <;> next same => exact (congrArg Prod.snd same).symm

theorem perform_next (service : Service) (operation : Operation) :
    (service.perform window operation now).1 = service.catalogue ∨
      ∃ limits act, act.planned ∧ (service.perform window operation now).1 = next limits window.reservationTtl { act, now } service.catalogue := by
  have any : Limits := { maxFiles := none, maxTotalBytes := none }
  cases operation with
  | presignUpload transferId deleteToken actorJti expiresSeconds files signed released =>
    rcases presignUpload_cases window service.catalogue now transferId deleteToken actorJti expiresSeconds files signed released with
      ⟨-, same | same⟩ | ⟨-, -, same⟩
    · exact .inl same
    · exact .inr ⟨any, .reserveUpload transferId deleteToken actorJti expiresSeconds files, trivial, same⟩
    · exact .inr ⟨any, .reserveUpload transferId deleteToken actorJti expiresSeconds files, trivial, same⟩
  | resumeUpload => exact .inl rfl
  | finalizeUpload transferId deleteToken actorJti expiresSeconds files maxTotalBytes inspected settles =>
    rcases finalizeUpload_cases service.catalogue now transferId deleteToken actorJti expiresSeconds files maxTotalBytes inspected settles with same | same
    · exact .inl same
    · exact .inr ⟨any, .create transferId deleteToken actorJti expiresSeconds files (planPostgresTransferMedia transferId files) settles, rfl, same⟩
  | presignAppend transferId files limits signed =>
    exact .inr ⟨limits, .reserve transferId files, trivial, (presignAppend_cases window service.catalogue now transferId files limits signed).1⟩
  | finalizeAppend transferId files limits inspected settles =>
    rcases finalizeAppend_cases service.catalogue now transferId files limits inspected settles with same | same
    · exact .inl same
    · exact .inr ⟨limits, .finalize transferId files (planPostgresTransferMedia transferId files) settles, rfl, same⟩
  | expireUploads limit => exact .inr ⟨any, .expireUploads limit, trivial, rfl⟩
  | expireAppends limit => exact .inr ⟨any, .expireAppends limit, trivial, rfl⟩
  | expireTransfers limit => exact .inr ⟨any, .expireTransfers limit, trivial, rfl⟩
  | completeDeletion transferId key => exact .inr ⟨any, .completeDeletion transferId key, trivial, rfl⟩

end

theorem reservationTtl_eq (window : UploadWindow) : window.reservationTtl = window.urlTtl + grace := by
  simp only [UploadWindow.reservationTtl, UploadWindow.urlTtl, UploadWindow.getUploadReservationTtlSeconds, grace, seconds]
  omega

theorem handOut_outlived (catalogue : Catalogue) (batch : Batch) (presigned : List TransferUploadFileInput) (now : Int) :
    (∀ url ∈ catalogue.handOut window batch presigned now, ∃ held ∈ url.reservedUntil, url.expiresAt ≤ held) ↔
      presigned = [] ∨ ∃ held ∈ catalogue.reservedUntil batch, now + window.urlTtl ≤ held := by
  constructor
  · intro all
    cases presigned with
    | nil => exact .inl rfl
    | cons file =>
      exact .inr (all { batch, key := buildTransferPrimaryStorageKey batch.transferId file, expiresAt := now + window.urlTtl, reservedUntil := catalogue.reservedUntil batch }
        (mem_map.mpr ⟨_, mem_flatMap.mpr ⟨file, mem_cons_self, mem_cons_self⟩, rfl⟩))
  · rintro (rfl | covered) url mem
    · cases mem
    · obtain ⟨key, -, rfl⟩ := mem_map.mp mem
      exact covered

theorem presignUpload_outlived (kept : Kept window.reservationTtl now catalogue) (transferId deleteToken actorJti : String) (expiresSeconds : Int)
    (files : List TransferUploadFileInput) (signed released : Bool) :
    let answered := presignUpload window catalogue now transferId deleteToken actorJti expiresSeconds files signed released
    answered.1.presigned = [] ∨
      ∃ held ∈ answered.2.reservedUntil { transferId, append := false, files }, now + window.urlTtl ≤ held := by
  intro answered
  rcases presignUpload_cases window catalogue now transferId deleteToken actorJti expiresSeconds files signed released with ⟨none, -⟩ | ⟨-, reserved, same⟩
  · exact .inl none
  · have after := next_kept { maxFiles := none, maxTotalBytes := none }
      (.reserveUpload transferId deleteToken actorJti expiresSeconds files) trivial kept
    rw [same]
    rcases reserveUpload_cases catalogue window.reservationTtl transferId deleteToken actorJti expiresSeconds files now with
      ⟨refused, -⟩ | ⟨-, -, -, -, upload, id, fingerprint, created, expires, added⟩
    · exact absurd reserved refused
    · have holds : catalogue.createPostgresTransferUploadReservation window.reservationTtl transferId deleteToken actorJti expiresSeconds files now
          |>.2.Holds { transferId, append := false, files } (now + window.reservationTtl) := by
        rw [added]
        exact ⟨upload, mem_append_right _ (mem_singleton.mpr rfl), id, fingerprint, expires⟩
      refine .inr ⟨_, (reservedUntil_iff after).mpr holds, ?_⟩
      have longer := reservationTtl_eq window
      have positive : 0 ≤ grace := by decide
      omega

theorem resumeUpload_outlived (kept : Kept window.reservationTtl now catalogue) (transferId deleteToken actorJti : String)
    (files : List TransferUploadFileInput) (uploaded : List String) (signed : Bool) :
    ((resumeUpload catalogue now transferId deleteToken actorJti files uploaded signed).presigned = [] ∨
        ∃ held ∈ catalogue.reservedUntil { transferId, append := false, files }, now + window.urlTtl ≤ held) ↔
      ∀ reservation ∈ catalogue.getPostgresTransferUploadReservation transferId now,
        Catalogue.matchesReservation reservation deleteToken actorJti files none → signed → (∃ file ∈ files, file.name ∉ uploaded) →
          now ≤ reservation.createdAt + grace := by
  have longer := reservationTtl_eq window
  unfold resumeUpload
  cases found : catalogue.getPostgresTransferUploadReservation transferId now with
  | none => simp
  | some reservation =>
    simp only [mem_def, some.injEq, forall_eq']
    by_cases matched : Catalogue.matchesReservation reservation deleteToken actorJti files none
    · rw [if_neg (by simp [matched])]
      cases signed with
      | false => simp
      | true =>
        have here := find?_some found
        have listed := mem_of_find?_eq_some found
        rw [and_eq_true, beq_iff_eq] at here
        have same : reservation.filesFingerprint = files := by
          simp only [Catalogue.matchesReservation, and_eq_true, beq_iff_eq] at matched
          exact matched.1.2
        have holds : catalogue.reservedUntil { transferId, append := false, files } = some reservation.expiresAt :=
          (reservedUntil_iff kept).mpr ⟨reservation, listed, here.1, same, rfl⟩
        have lasting := kept.lasting reservation listed
        rw [if_pos rfl, holds]
        simp only [filter_eq_nil_iff, decide_eq_true_eq, some.injEq, exists_eq_left', matched, forall_const]
        constructor
        · rintro (none | covered) ⟨file, mem, left⟩
          · exact absurd left (none file mem)
          · omega
        · intro early
          by_cases left : ∃ file ∈ files, file.name ∉ uploaded
          · have before := early left
            exact .inr (by omega)
          · exact .inl fun file mem missing => left ⟨file, mem, missing⟩
    · simp [matched]

theorem granted_until {limits : Limits} {deleting : Bool} {files : List TransferUploadFileInput} {selected : Selection}
    (distinct : Distinct transfer) (capped : Capped window.reservationTtl transfer) (granted : transfer.grants limits deleting files selected now) :
    ∃ own ∈ (transfer.reserve limits window.reservationTtl deleting files selected now).2.appends, own.fingerprint = files ∧
      (now + window.urlTtl ≤ own.expiresAt ↔ now + window.urlTtl ≤ transfer.expiresAt ∧
        ∀ reservation ∈ transfer.appends, reservation.fingerprint = files → now < reservation.expiresAt → now ≤ reservation.createdAt + grace) := by
  have longer := reservationTtl_eq window
  have positive : 0 ≤ grace := by decide
  obtain ⟨-, ⟨own, mem, same, still⟩ | ⟨new, added⟩⟩ := reserve_granted window.reservationTtl granted
  · obtain ⟨listed, live⟩ := mem_filter.mp mem
    have expires := capped own listed
    refine ⟨own, still, same, ?_⟩
    rw [expires, le_min_iff]
    refine and_congr_right fun _ => ⟨fun early reservation inside equal _ => ?_, fun early => ?_⟩
    · cases inj_on_of_nodup_map distinct.keyed inside listed (equal.trans same.symm)
      omega
    · have before := early own listed same (of_decide_eq_true live)
      omega
  · refine ⟨_, added, rfl, ?_⟩
    simp only [reservation, le_min_iff]
    refine and_congr_right fun _ => ⟨fun _ other inside equal live => ?_, fun _ => by omega⟩
    exact absurd (mem_map.mpr ⟨other, mem_filter.mpr ⟨inside, decide_eq_true live⟩, equal⟩) new

theorem reserve_eq (limits : Limits) (ttl : Int) (found : catalogue.owner transferId now = some transfer) (chosen : selection files = .ok selected) :
    catalogue.reservePostgresTransferAppend limits ttl transferId files now =
      (.ok (transfer.reserve limits ttl (catalogue.deleting transferId files) files selected now).1,
        catalogue.put (transfer.reserve limits ttl (catalogue.deleting transferId files) files selected now).2) := by
  unfold Catalogue.reservePostgresTransferAppend
  rw [chosen, found]
  rfl

theorem reserved_granted (reserved : (catalogue.reservePostgresTransferAppend limits ttl transferId files now).1 = .ok .reserved) :
    ∃ transfer, catalogue.owner transferId now = some transfer ∧ ∃ selected, selection files = .ok selected ∧
      transfer.grants limits (catalogue.deleting transferId files) files selected now := by
  cases chosen : selection files with
  | error =>
    unfold Catalogue.reservePostgresTransferAppend at reserved
    rw [chosen] at reserved
    cases reserved
  | ok selected =>
    cases found : catalogue.owner transferId now with
    | none =>
      unfold Catalogue.reservePostgresTransferAppend at reserved
      rw [chosen, found] at reserved
      cases reserved
    | some transfer =>
      rw [reserve_eq _ _ found chosen] at reserved
      refine ⟨transfer, rfl, selected, rfl, Classical.not_not.mp fun refused => ?_⟩
      exact reserve_refused refused (Except.ok.inj reserved)

/-- A batch that is appended has URLs that its reservation outlives, exactly within the grace of its beginning and
while its transfer outlives them. -/
theorem presignAppend_outlived (kept : Kept window.reservationTtl now catalogue) (transferId : String) (files : List TransferUploadFileInput)
    (limits : Limits) (signed : Bool) :
    let answered := presignAppend window catalogue now transferId files limits signed
    (answered.1.presigned = [] ∨ ∃ held ∈ answered.2.reservedUntil { transferId, append := true, files }, now + window.urlTtl ≤ held) ↔
      ∀ transfer ∈ catalogue.owner transferId now, ∀ selected, selection files = .ok selected → signed →
        transfer.grants limits (catalogue.deleting transferId files) files selected now →
          now + window.urlTtl ≤ transfer.expiresAt ∧
            ∀ reservation ∈ transfer.appends, reservation.fingerprint = files → now < reservation.expiresAt → now ≤ reservation.createdAt + grace := by
  intro answered
  have after : Kept window.reservationTtl now answered.2 := by
    rw [(presignAppend_cases window catalogue now transferId files limits signed).1]
    exact next_kept limits (.reserve transferId files) trivial kept
  obtain ⟨same, presigned⟩ := presignAppend_cases window catalogue now transferId files limits signed
  by_cases reserves : (catalogue.reservePostgresTransferAppend limits window.reservationTtl transferId files now).1 = .ok .reserved ∧ signed
  · obtain ⟨transfer, found, selected, chosen, granted⟩ := reserved_granted reserves.1
    obtain ⟨mem, id, -⟩ := owner_mem found
    obtain ⟨distinct, capped⟩ := kept.transfers transfer mem
    obtain ⟨own, inside, fingerprint, exactly⟩ := granted_until distinct capped granted
    have filled : files ≠ [] := List.ne_nil_of_length_pos (selection_ok chosen).2.2.2.1
    have holds : answered.2.reservedUntil { transferId, append := true, files } = some own.expiresAt := by
      have put := reserve_eq limits window.reservationTtl found chosen
      obtain ⟨appends, rest⟩ := reserve_same transfer limits window.reservationTtl (catalogue.deleting transferId files) files selected now
      have named : (transfer.reserve limits window.reservationTtl (catalogue.deleting transferId files) files selected now).2.id = transfer.id := by
        rw [rest]
      refine (reservedUntil_iff after).mpr ⟨_, ?_, named.trans id, own, inside, fingerprint, rfl⟩
      simp only [answered, same, put]
      exact mem_put_self catalogue mem named.symm
    rcases presigned with ⟨-, -, all⟩ | ⟨refused, -⟩
    · rw [holds]
      simp only [answered, all, filled, false_or, mem_def, some.injEq, exists_eq_left', exactly]
      constructor
      · rintro early other there choice equal - -
        cases some.inj (found.symm.trans there)
        exact early
      · exact fun early => early transfer found selected chosen reserves.2 granted
    · exact absurd reserves refused
  · rcases presigned with ⟨done, signs, -⟩ | ⟨-, none⟩
    · exact absurd ⟨done, signs⟩ reserves
    · refine iff_of_true (.inl none) fun transfer found selected chosen signs granted => absurd ⟨?_, signs⟩ reserves
      rw [reserve_eq _ _ found chosen, (reserve_granted _ granted).1]

section
variable {file other : TransferUploadFileInput}

theorem storageKeys_named (mem : key ∈ storageKeys transferId file) :
    ∃ name ∈ file.names, key = "transfers/" ++ transferId ++ "/derived/" ++ name ∨ key = buildTransferOriginalStorageKey transferId name := by
  rcases mem_cons.mp mem with rfl | archived
  · refine ⟨file.name, mem_cons_self, ?_⟩
    unfold buildTransferPrimaryStorageKey
    split
    · exact .inl rfl
    · exact .inr rfl
  · rw [mem_toList, buildTransferArchivedOriginalStorageKey] at archived
    split at archived
    · obtain ⟨name, held, rfl⟩ := map_eq_some_iff.mp archived
      exact ⟨name, mem_cons_of_mem _ (mem_toList.mpr held), .inr rfl⟩
    · cases archived

theorem derived_ne_original (name second : String) :
    "transfers/" ++ transferId ++ "/derived/" ++ name ≠ buildTransferOriginalStorageKey transferId second := by
  intro same
  have letters := congrArg String.toList same
  simp only [buildTransferOriginalStorageKey, String.toList_append, append_assoc] at letters
  have rest := List.append_cancel_left (List.append_cancel_left letters)
  simp at rest

theorem shared_name (mem : key ∈ storageKeys transferId file) (also : key ∈ storageKeys transferId other) :
    ∃ name ∈ file.names, name ∈ other.names := by
  obtain ⟨name, named, is⟩ := storageKeys_named mem
  obtain ⟨second, known, equals⟩ := storageKeys_named also
  have cancel {start first last : String} (same : start ++ first = start ++ last) : first = last :=
    String.toList_injective (List.append_cancel_left (by simpa only [String.toList_append] using congrArg String.toList same))
  rcases is with rfl | rfl <;> rcases equals with same | same
  · exact ⟨name, named, cancel same ▸ known⟩
  · exact absurd same (derived_ne_original name second)
  · exact absurd same.symm (derived_ne_original second name)
  · exact ⟨name, named, cancel same ▸ known⟩

theorem truthy_twice (text : Option String) : truthy (truthy text) = truthy text := by
  simp [truthy, Option.filter_filter]

theorem plannedFile_names : (plannedFile transferId file).names = file.names := by
  simp [TransferFile.names, TransferUploadFileInput.names, plannedFile, truthy_twice]

end

section
variable {later : Int}

theorem Batch.shared_name (same : other.transferId = batch.transferId) (mem : key ∈ batch.keys) (also : key ∈ other.keys) :
    ∃ name ∈ batch.files.flatMap TransferUploadFileInput.names, name ∈ other.files.flatMap TransferUploadFileInput.names := by
  obtain ⟨file, listed, inside⟩ := mem_flatMap.mp mem
  obtain ⟨second, there, within⟩ := mem_flatMap.mp also
  rw [same] at within
  obtain ⟨name, named, known⟩ := Transfers.shared_name inside within
  exact ⟨name, mem_flatMap.mpr ⟨file, listed, named⟩, mem_flatMap.mpr ⟨second, there, known⟩⟩

theorem holds_once (kept : Kept ttl now catalogue) (holds : catalogue.Holds batch held) (others : catalogue.Holds other later)
    (same : other.transferId = batch.transferId) (mem : key ∈ batch.keys) (also : key ∈ other.keys) : other = batch := by
  obtain ⟨name, named, known⟩ := batch.shared_name same mem also
  obtain ⟨transferId, append, files⟩ := batch
  obtain ⟨secondId, second, selected⟩ := other
  obtain rfl : secondId = transferId := same
  cases append with
  | true =>
    obtain ⟨transfer, listed, id, own, inside, rfl, -⟩ := holds
    cases second with
    | true =>
      obtain ⟨row, there, one, reserved, within, rfl, -⟩ := others
      obtain rfl := inj_on_of_nodup_map kept.keyed there listed (one.trans id.symm)
      have distinct := (kept.transfers row listed).1
      have apart := List.pairwise_map.mp (List.pairwise_append.mp distinct.names).2.1
      by_cases equal : reserved = own
      · rw [equal]
      · have : Std.Symm fun first second : AppendReservation => first.filenames.Disjoint second.filenames :=
            ⟨fun _ _ disjoint name inside also => disjoint also inside⟩
        have free := apart.forall inside within (Ne.symm equal)
        rw [(distinct.listed own inside).names, (distinct.listed reserved within).names] at free
        exact absurd known (free named)
    | false =>
      obtain ⟨upload, there, one, -, -⟩ := others
      exact absurd (id.trans one.symm) (kept.apart upload there transfer listed)
  | false =>
    obtain ⟨upload, listed, id, rfl, -⟩ := holds
    cases second with
    | true =>
      obtain ⟨transfer, there, one, -⟩ := others
      exact absurd (one.trans id.symm) (kept.apart upload listed transfer there)
    | false =>
      obtain ⟨reserved, there, one, rfl, -⟩ := others
      cases inj_on_of_nodup_map kept.once there listed (one.trans id.symm)
      rfl

theorem stored_once (kept : Kept ttl now catalogue) (stored : catalogue.Stored batch) (others : catalogue.Holds other later)
    (same : other.transferId = batch.transferId) (mem : key ∈ batch.keys) (also : key ∈ other.keys) : False := by
  obtain ⟨name, named, known⟩ := batch.shared_name same mem also
  obtain ⟨transfer, listed, id, files⟩ := stored
  obtain ⟨secondId, second, selected⟩ := other
  cases second with
  | true =>
    obtain ⟨row, there, one, own, within, rfl, -⟩ := others
    obtain rfl := inj_on_of_nodup_map kept.keyed there listed (one.trans (same.trans id.symm))
    have distinct := (kept.transfers row listed).1
    obtain ⟨file, chosen, inside⟩ := mem_flatMap.mp named
    have here := files _ (mem_map_of_mem chosen)
    have free := (List.pairwise_append.mp distinct.names).2.2 _ (mem_map_of_mem here) _ (mem_map_of_mem within)
    rw [plannedFile_names, (distinct.listed own within).names] at free
    exact free inside known
  | false =>
    obtain ⟨upload, there, one, -, -⟩ := others
    exact kept.apart upload there transfer listed (id.trans (same.symm.trans one.symm))

theorem holds_finds {moment : Int} (kept : Kept ttl now catalogue) (holds : catalogue.Holds batch held) (reached : now ≤ moment)
    (early : moment < held) : catalogue.finds batch moment := by
  obtain ⟨transferId, append, files⟩ := batch
  unfold Catalogue.finds
  cases append with
  | true =>
    obtain ⟨transfer, listed, id, own, inside, fingerprint, rfl⟩ := holds
    have capped := (kept.transfers transfer listed).2 own inside
    have lasts : moment < transfer.expiresAt := by omega
    have shown : transfer.deletedAt = none := by
      rw [Option.eq_none_iff_forall_ne_some]
      intro deleted hidden
      have ended := kept.ended transfer listed (hidden ▸ rfl)
      omega
    have found : catalogue.owner transferId moment = some transfer := by
      refine find?_only listed (by simp [id, Transfer.alive, shown, lasts]) fun row there same => ?_
      rw [and_eq_true, beq_iff_eq] at same
      exact inj_on_of_nodup_map kept.keyed there listed (same.1.trans id.symm)
    rw [if_pos rfl, found, any_some, any_eq_true]
    exact ⟨own, inside, by simp [fingerprint, early]⟩
  | false =>
    obtain ⟨upload, listed, id, fingerprint, rfl⟩ := holds
    have found : catalogue.getPostgresTransferUploadReservation transferId moment = some upload := by
      refine find?_only listed (by simp [id, early]) fun row there same => ?_
      rw [and_eq_true, beq_iff_eq] at same
      exact inj_on_of_nodup_map kept.once there listed (same.1.trans id.symm)
    rw [if_neg (by simp), found, any_some]
    exact beq_iff_eq.mpr fingerprint

end

section
variable {service : Service} {turn : Turn}

theorem perform_kept (kept : Kept window.reservationTtl now service.catalogue) (operation : Operation) :
    Kept window.reservationTtl now (service.perform window operation now).1 := by
  rcases perform_next window now service operation with same | ⟨limits, act, planned, same⟩ <;> rw [same]
  · exact kept
  · exact next_kept limits act planned kept

theorem perform_outlived (kept : Kept window.reservationTtl (service.now + turn.elapsed) service.catalogue) :
    (∀ url ∈ (service.perform window turn.operation (service.now + turn.elapsed)).2, ∃ held ∈ url.reservedUntil, url.expiresAt ≤ held) ↔
      Timely window turn service := by
  obtain ⟨operation, elapsed⟩ := turn
  have none : (∀ url ∈ ([] : List UploadUrl), ∃ held ∈ url.reservedUntil, url.expiresAt ≤ held) := nofun
  cases operation with
  | presignUpload transferId deleteToken actorJti expiresSeconds files signed released =>
    exact iff_of_true ((handOut_outlived ..).mpr (presignUpload_outlived kept transferId deleteToken actorJti expiresSeconds files signed released)) trivial
  | resumeUpload transferId deleteToken actorJti files uploaded signed =>
    exact (handOut_outlived ..).trans (resumeUpload_outlived kept transferId deleteToken actorJti files uploaded signed)
  | finalizeUpload => exact iff_of_true none trivial
  | presignAppend transferId files limits signed =>
    exact (handOut_outlived ..).trans (presignAppend_outlived kept transferId files limits signed)
  | finalizeAppend | expireUploads | expireAppends | expireTransfers | completeDeletion => exact iff_of_true none trivial

theorem turn_outlived (kept : Kept window.reservationTtl service.now service.catalogue) (outlived : Outlived service) (turn : Turn) :
    Kept window.reservationTtl (service.turn window turn).now (service.turn window turn).catalogue ∧
      (Outlived (service.turn window turn) ↔ Timely window turn service) := by
  have later := kept.later (show service.now ≤ service.now + turn.elapsed by omega)
  refine ⟨perform_kept later turn.operation, ?_⟩
  rw [← perform_outlived later]
  constructor
  · exact fun all url mem => all url (mem_append_right _ mem)
  · intro new url mem
    rcases mem_append.mp mem with old | last
    · exact outlived url old
    · exact new url last

theorem handOut_keys {catalogue : Catalogue} {batch : Batch} {presigned : List TransferUploadFileInput} (inside : presigned ⊆ batch.files) :
    ∀ url ∈ catalogue.handOut window batch presigned now, url.key ∈ url.batch.keys ∧ url.reservedUntil = catalogue.reservedUntil url.batch := by
  intro url mem
  obtain ⟨key, there, rfl⟩ := mem_map.mp mem
  obtain ⟨file, chosen, held⟩ := mem_flatMap.mp there
  exact ⟨mem_flatMap.mpr ⟨file, inside chosen, held⟩, rfl⟩

theorem perform_keys (service : Service) (operation : Operation) (now : Int) :
    ∀ url ∈ (service.perform window operation now).2,
      url.key ∈ url.batch.keys ∧ url.reservedUntil = (service.perform window operation now).1.reservedUntil url.batch := by
  have none : ∀ url ∈ ([] : List UploadUrl), url.key ∈ url.batch.keys ∧ url.reservedUntil = (service.perform window operation now).1.reservedUntil url.batch :=
    nofun
  cases operation with
  | presignUpload transferId deleteToken actorJti expiresSeconds files signed released =>
    have inside : (presignUpload window service.catalogue now transferId deleteToken actorJti expiresSeconds files signed released).1.presigned ⊆ files := by
      rcases presignUpload_cases window service.catalogue now transferId deleteToken actorJti expiresSeconds files signed released with
        ⟨same, -⟩ | ⟨same, -⟩ <;> rw [same]
      · exact nil_subset _
      · exact List.Subset.refl _
    exact handOut_keys inside
  | resumeUpload =>
    refine handOut_keys ?_
    unfold resumeUpload
    split
    · exact nil_subset _
    · split
      · exact nil_subset _
      · split
        · exact fun file chosen => mem_of_mem_filter chosen
        · exact nil_subset _
  | finalizeUpload => exact none
  | presignAppend transferId files limits signed =>
    have inside : (presignAppend window service.catalogue now transferId files limits signed).1.presigned ⊆ files := by
      obtain ⟨-, ⟨-, -, same⟩ | ⟨-, same⟩⟩ := presignAppend_cases window service.catalogue now transferId files limits signed <;> rw [same]
      · exact List.Subset.refl _
      · exact nil_subset _
    exact handOut_keys inside
  | finalizeAppend | expireUploads | expireAppends | expireTransfers | completeDeletion => exact none

/-- A URL is for an object of its batch, and the batch is finalized or reserved for as long as the URL lives. -/
structure Covered (service : Service) (url : UploadUrl) : Prop where
  key : url.key ∈ url.batch.keys
  reserved : service.now < url.expiresAt →
    service.catalogue.Stored url.batch ∨ ∃ held, service.catalogue.Holds url.batch held ∧ url.expiresAt ≤ held

theorem turn_covered (kept : Kept window.reservationTtl service.now service.catalogue) (covered : ∀ url ∈ service.urls, Covered service url)
    (timely : Timely window turn service) : ∀ url ∈ (service.turn window turn).urls, Covered (service.turn window turn) url := by
  have later := kept.later (show service.now ≤ service.now + turn.elapsed by omega)
  intro url mem
  rcases mem_append.mp mem with old | new
  · obtain ⟨key, reserved⟩ := covered url old
    refine ⟨key, fun live => ?_⟩
    have before : service.now + turn.elapsed < url.expiresAt := live
    simp only [Service.turn]
    rcases reserved (by omega) with stored | ⟨held, holds, longer⟩ <;>
      rcases perform_next window (service.now + turn.elapsed) service turn.operation with same | ⟨limits, act, planned, same⟩ <;> rw [same]
    · exact .inl stored
    · exact .inl (next_stored planned later stored)
    · exact .inr ⟨held, holds, longer⟩
    · rcases next_holds limits planned later holds (by omega) with finished | still
      · exact .inl finished
      · exact .inr ⟨held, still, longer⟩
  · obtain ⟨key, recorded⟩ := perform_keys service turn.operation (service.now + turn.elapsed) url new
    obtain ⟨held, reserved, longer⟩ := (perform_outlived later).mpr timely url new
    rw [recorded] at reserved
    exact ⟨key, fun _ => .inr ⟨held, (reservedUntil_iff (perform_kept later turn.operation)).mp reserved, longer⟩⟩

theorem exclusive_of_covered (kept : Kept window.reservationTtl service.now service.catalogue) (covered : ∀ url ∈ service.urls, Covered service url) :
    Exclusive service := by
  intro url mem live batch reserved same inside
  obtain ⟨key, holding⟩ := covered url mem
  obtain ⟨later, reserves⟩ := isSome_iff_exists.mp reserved
  have others := (reservedUntil_iff kept).mp reserves
  rcases holding live with stored | ⟨held, holds, -⟩
  · exact (stored_once kept stored others same key inside).elim
  · exact holds_once kept holds others same key inside

theorem findable_of_covered (kept : Kept window.reservationTtl service.now service.catalogue) (covered : ∀ url ∈ service.urls, Covered service url) :
    Findable service := by
  intro url mem
  obtain ⟨-, holding⟩ := covered url mem
  by_cases live : service.now < url.expiresAt
  · rcases holding live with stored | ⟨held, holds, longer⟩
    · exact .inl stored
    · exact .inr fun moment reached early => holds_finds kept holds reached (by omega)
  · exact .inr fun moment reached early => absurd early (by omega)

theorem kept_opening (start : Int) : Kept window.reservationTtl (opening start).now (opening start).catalogue where
  keyed := nodup_nil
  transfers := nofun
  once := nodup_nil
  lasting := nofun
  apart := nofun
  ended := nofun

/-- A run hands out only URLs that their reservations outlive, exactly if every try is timely. Then no object with a live URL is reserved for
another batch, and a batch can be finalized for as long as its URLs live. -/
theorem reservations_outlive_urls (window : UploadWindow) (start : Int) (turns : List Turn) :
    (Throughout (fun turn service => service.turn window turn) Outlived (opening start) turns ↔
        EachStep (fun turn service => service.turn window turn) (Timely window) (opening start) turns) ∧
      (EachStep (fun turn service => service.turn window turn) (Timely window) (opening start) turns →
        Throughout (fun turn service => service.turn window turn) (fun service => Exclusive service ∧ Findable service) (opening start) turns) := by
  constructor
  · have step {service : Service} {turn : Turn} (kept : Kept window.reservationTtl service.now service.catalogue) (outlived : Outlived service)
        (_ : True) := turn_outlived kept outlived turn
    exact @throughout_iff_within _ _ (fun turn service => service.turn window turn) Outlived (Timely window)
      (fun service => Kept window.reservationTtl service.now service.catalogue) (fun _ _ => True) step (opening start) turns (kept_opening start)
      (nofun) (@EachStep.always _ _ _ (fun _ => True) _ _ fun _ _ => trivial)
  · intro timely
    have step {service : Service} {turn : Turn}
        (sound : Kept window.reservationTtl service.now service.catalogue ∧ ∀ url ∈ service.urls, Covered service url)
        (meets : Timely window turn service) :
        (Kept window.reservationTtl (service.turn window turn).now (service.turn window turn).catalogue ∧
          ∀ url ∈ (service.turn window turn).urls, Covered (service.turn window turn) url) ∧ True :=
      ⟨⟨perform_kept (sound.1.later (show service.now ≤ service.now + turn.elapsed by omega)) turn.operation, turn_covered sound.1 sound.2 meets⟩, trivial⟩
    have throughout := (@EachStep.shows _ _ (fun turn service => service.turn window turn) (Timely window) _ (fun _ _ => True) step (opening start)
      turns ⟨kept_opening start, nofun⟩ timely).1
    exact throughout.imp fun service sound => ⟨exclusive_of_covered sound.1 sound.2, findable_of_covered sound.1 sound.2⟩

/-- A photo is appended, its batch is presigned again after an hour, and once its reservation has run out another batch takes its name. -/
def lateTries : List Turn :=
  let minute := 60 * 1000
  let id := "holiday-photos-26"
  let unlimited : Limits := { maxFiles := none, maxTotalBytes := none }
  let first : TransferUploadFileInput := { name := "a.jpg", mediaId := some "a", size := 10 }
  let second : TransferUploadFileInput := { name := "b.jpg", mediaId := some "b", size := 20 }
  let third : TransferUploadFileInput := { name := "b.jpg", mediaId := some "b", size := 30 }
  [{ operation := .presignUpload id "token" "actor" 604800 [first] true false, elapsed := 0 },
    { operation := .finalizeUpload id "token" "actor" 604800 [first] none true true, elapsed := minute },
    { operation := .presignAppend id [second] unlimited true, elapsed := minute },
    { operation := .presignAppend id [second] unlimited true, elapsed := 60 * minute },
    { operation := .presignAppend id [third] unlimited true, elapsed := 331 * minute }]

theorem early_tries_outlived : Throughout (fun turn service => Service.turn {} turn service) (fun service => Exclusive service ∧ Findable service)
    (opening 0) (lateTries.take 3) := by
  refine (reservations_outlive_urls {} 0 _).2 ⟨trivial, trivial, fun transfer owner _ _ _ _ => ?_, trivial⟩
  obtain rfl := some.inj owner
  exact ⟨by decide +kernel, nofun⟩

theorem late_tries_outlive :
    let service := runFrom (fun turn service => Service.turn {} turn service) (opening 0) lateTries
    ¬ Outlived service ∧ ¬ Exclusive service ∧ ¬ Findable service := by
  intro service
  let minute := 60 * 1000
  let batch : Batch := { transferId := "holiday-photos-26", append := true, files := [{ name := "b.jpg", mediaId := some "b", size := 20 }] }
  let url : UploadUrl := { batch, key := "transfers/holiday-photos-26/originals/b.jpg", expiresAt := 422 * minute, reservedUntil := some (392 * minute) }
  have mem : url ∈ service.urls := by decide +kernel
  refine ⟨fun outlived => ?_, fun exclusive => ?_, fun findable => ?_⟩
  · obtain ⟨held, reserved, longer⟩ := outlived url mem
    exact absurd longer (by obtain rfl := some.inj reserved; decide)
  · have other := exclusive url mem (by decide +kernel) { batch with files :=
        [{ name := "b.jpg", mediaId := some "b", size := 30 }] } (by decide +kernel) rfl (by decide +kernel)
    exact absurd other (by decide)
  · rcases findable url mem with ⟨transfer, listed, -, stored⟩ | found
    · have one : service.catalogue.transfers.all fun transfer =>
          ! transfer.files.contains (plannedFile "holiday-photos-26" { name := "b.jpg", mediaId := some "b", size := 20 }) := by decide +kernel
      have gone := all_eq_true.mp one transfer listed
      rw [not_eq_true', contains_eq_mem, decide_eq_false_iff_not] at gone
      exact gone (stored _ (mem_singleton.mpr rfl))
    · exact absurd (found service.now (by decide +kernel) (by decide +kernel)) (by decide +kernel)

end

end MilkAndHenny.Transfers
