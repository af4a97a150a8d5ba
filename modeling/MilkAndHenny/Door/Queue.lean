import MilkAndHenny.Library.Machine
import MilkAndHenny.Library.Table

/-! The offline door. Admissions are remembered by the hash of their ticket, and redemptions wait in a
queue until the server has them. Both survive a reload through session storage. -/

namespace MilkAndHenny.Door

open Library

variable {browser : Browser} {queue : List QueuedRedemption} {door : DoorOfflineState} {first second : Nat}

structure QueuedRedemption where
  ticketId : String
  scannedAt : String

structure DoorOfflineState where
  manifest : List String
  admitted : List String
  queue : List QueuedRedemption

def EMPTY_DOOR_STATE : DoorOfflineState := { manifest := [], admitted := [], queue := [] }

def MAX_OFFLINE_ADMISSIONS : Nat := 5000

/-- `/^[a-f0-9]{24}$/`. -/
def isManifestHash (text : String) : Bool :=
  text.toList.length == 24 && text.toList.all fun letter => letter.isDigit || ('a' ≤ letter && letter ≤ 'f')

/-- `/^[0-9A-HJKMNP-TV-Z]{16}$/`. -/
def isTicketReference (text : String) : Bool :=
  text.toList.length == 16 && text.toList.all fun letter =>
    letter.isDigit || ('A' ≤ letter && letter ≤ 'H') || letter == 'J' || letter == 'K' || letter == 'M' || letter == 'N' ||
      ('P' ≤ letter && letter ≤ 'T') || ('V' ≤ letter && letter ≤ 'Z')

/-- What the browser does for the door. `parses` is whether `Date.parse` gives a number. -/
structure Browser where
  hashTicketIdInBrowser : String → String
  parses : String → Bool
  hashed : ∀ ticketId, isManifestHash (hashTicketIdInBrowser ticketId)

/-- What JSON text is read as. -/
inductive Json
  | null
  | bool (value : Bool)
  | number (value : Int)
  | text (value : String)
  | list (items : List Json)
  | record (fields : List (String × Json))

def Json.field (fields : List (String × Json)) (name : String) : Json := (fields.lookup name).getD .null

/-- `slice(-count)`. -/
def sliceLast {α : Type} (count : Nat) (items : List α) : List α := items.drop (items.length - count)

section
variable (browser : Browser)

def restoredHash : Json → Option String
  | .text hash => if isManifestHash hash then some hash else none
  | _ => none

def restoredAdmissions : Json → List String
  | .list items => distinct (sliceLast MAX_OFFLINE_ADMISSIONS (items.filterMap restoredHash))
  | _ => []

def restoreEntry (queue : List QueuedRedemption) (entry : Json) : List QueuedRedemption :=
  match entry with
  | .record fields =>
    match Json.field fields "ticketId", Json.field fields "scannedAt" with
    | .text ticketId, .text scannedAt =>
      if !isTicketReference ticketId || !browser.parses scannedAt || queue.any (·.ticketId == ticketId) then queue
      else queue ++ [{ ticketId, scannedAt }]
    | _, _ => queue
  | _ => queue

def restoredQueue : Json → List QueuedRedemption
  | .list items => (sliceLast MAX_OFFLINE_ADMISSIONS items).foldl (restoreEntry browser) []
  | _ => []

def restoreDoorOfflineState (manifest : List String) (stored : Json) : DoorOfflineState :=
  match stored with
  | .record fields =>
    { manifest, admitted := restoredAdmissions (Json.field fields "admitted"), queue := restoredQueue browser (Json.field fields "queue") }
  | _ => { EMPTY_DOOR_STATE with manifest }

end

/-- What the scanner keeps in session storage. -/
def QueuedRedemption.serialized (entry : QueuedRedemption) : Json :=
  .record [("ticketId", .text entry.ticketId), ("scannedAt", .text entry.scannedAt)]

def DoorOfflineState.serialized (state : DoorOfflineState) : Json :=
  .record [("admitted", .list (state.admitted.map .text)), ("queue", .list (state.queue.map QueuedRedemption.serialized))]

inductive OfflineScanOutcome
  | admittedOffline (state : DoorOfflineState)
  | alreadyRedeemedOffline (state : DoorOfflineState) (scannedAt : String)
  | notOnManifest (state : DoorOfflineState)

def OfflineScanOutcome.state : OfflineScanOutcome → DoorOfflineState
  | .admittedOffline state => state
  | .alreadyRedeemedOffline state _ => state
  | .notOnManifest state => state

def recordOfflineScan (state : DoorOfflineState) (ticketId ticketHash scannedAt : String) : OfflineScanOutcome :=
  if !state.manifest.contains ticketHash then .notOnManifest state
  else if state.admitted.contains ticketHash then
    let existing := state.queue.find? (·.ticketId == ticketId)
    .alreadyRedeemedOffline state ((existing.map QueuedRedemption.scannedAt).getD scannedAt)
  else
    .admittedOffline { state with admitted := state.admitted ++ [ticketHash], queue := state.queue ++ [{ ticketId, scannedAt }] }

/-- Drop entries the server has now accepted. -/
def clearSynced (state : DoorOfflineState) (syncedTicketIds : List String) : DoorOfflineState :=
  { state with queue := state.queue.filter fun entry => !syncedTicketIds.contains entry.ticketId }

def applyManifest (state : DoorOfflineState) (manifest : List String) : DoorOfflineState := { state with manifest }

section
variable (browser : Browser)

structure Scan where
  ticketId : String
  scannedAt : String
  reference : isTicketReference ticketId
  dated : browser.parses scannedAt

inductive Event
  | scanned (scan : Scan browser)
  | synced (ticketIds : List String)
  | refreshed (manifest : List String)
  | reloaded (manifest : List String)

/-- A scan that was answered admitted, and whether the server has it. -/
structure Admission where
  entry : QueuedRedemption
  hash : String
  acknowledged : Bool

structure Shift where
  door : DoorOfflineState
  admissions : List Admission

def Admission.acknowledge (syncedTicketIds : List String) (admission : Admission) : Admission :=
  { admission with acknowledged := admission.acknowledged || syncedTicketIds.contains admission.entry.ticketId }

def pending (admissions : List Admission) : List QueuedRedemption := (admissions.filter (!·.acknowledged)).map Admission.entry

def Scan.outcome {browser : Browser} (scan : Scan browser) (door : DoorOfflineState) : OfflineScanOutcome :=
  recordOfflineScan door scan.ticketId (browser.hashTicketIdInBrowser scan.ticketId) scan.scannedAt

def Shift.next {browser : Browser} (event : Event browser) (shift : Shift) : Shift :=
  match event with
  | .scanned scan =>
    let entry : QueuedRedemption := { ticketId := scan.ticketId, scannedAt := scan.scannedAt }
    match scan.outcome shift.door with
    | .admittedOffline door =>
      { door, admissions := shift.admissions ++ [{ entry, hash := browser.hashTicketIdInBrowser scan.ticketId, acknowledged := false }] }
    | outcome => { shift with door := outcome.state }
  | .synced ticketIds =>
    { door := clearSynced shift.door ticketIds, admissions := shift.admissions.map (Admission.acknowledge ticketIds) }
  | .refreshed manifest => { shift with door := applyManifest shift.door manifest }
  | .reloaded manifest => { shift with door := restoreDoorOfflineState browser manifest shift.door.serialized }

def opened (manifest : List String) : Shift := { door := { EMPTY_DOOR_STATE with manifest }, admissions := [] }

/-- No hash is admitted twice, and what waits is what the server does not have, each ticket once, in the order of the scans. -/
structure Orderly (shift : Shift) : Prop where
  once : (shift.admissions.map Admission.hash).Nodup
  queued : shift.door.queue = pending shift.admissions
  single : (shift.door.queue.map QueuedRedemption.ticketId).Nodup

def Listed {browser : Browser} (event : Event browser) (shift : Shift) : Prop :=
  ∀ scan door, event = .scanned scan → scan.outcome shift.door = .admittedOffline door →
    browser.hashTicketIdInBrowser scan.ticketId ∈ shift.door.manifest

/-- A reload finds no more admissions than it restores. -/
def Restorable {browser : Browser} (event : Event browser) (shift : Shift) : Prop :=
  ∀ manifest, event = .reloaded manifest → shift.door.admitted.length ≤ MAX_OFFLINE_ADMISSIONS

end

section

-- The limit is never counted up to.
attribute [local irreducible] MAX_OFFLINE_ADMISSIONS

theorem sliceLast_short {α : Type} {count : Nat} {items : List α} (short : items.length ≤ count) : sliceLast count items = items := by
  rw [sliceLast, Nat.sub_eq_zero_of_le short, List.drop_zero]

theorem filterMap_restoredHash {hashes : List String} (valid : ∀ hash ∈ hashes, isManifestHash hash) :
    (hashes.map Json.text).filterMap restoredHash = hashes := by
  induction hashes with
  | nil => rfl
  | cons hash hashes ih =>
    obtain ⟨first, others⟩ := forall_mem_cons.mp valid
    have read : restoredHash (.text hash) = some hash := if_pos first
    rw [map_cons, List.filterMap_cons_some read, ih others]

theorem restoreEntry_serialized {entry : QueuedRedemption} (reference : isTicketReference entry.ticketId)
    (dated : browser.parses entry.scannedAt) (new : entry.ticketId ∉ queue.map QueuedRedemption.ticketId) :
    restoreEntry browser queue entry.serialized = queue ++ [entry] := by
  have absent : queue.any (·.ticketId == entry.ticketId) = false := by
    rw [any_eq_false]
    intro other mem same
    exact new (mem_map.mpr ⟨other, mem, eq_of_beq same⟩)
  have kept : (!isTicketReference entry.ticketId || !browser.parses entry.scannedAt || queue.any (·.ticketId == entry.ticketId)) = false := by
    rw [reference, dated, absent]
    rfl
  exact if_neg (eq_false_iff.mp kept)

theorem restoreEntries_serialized {read : List QueuedRedemption} (unique : ((read ++ queue).map QueuedRedemption.ticketId).Nodup)
    (valid : ∀ entry ∈ queue, isTicketReference entry.ticketId ∧ browser.parses entry.scannedAt) :
    (queue.map QueuedRedemption.serialized).foldl (restoreEntry browser) read = read ++ queue := by
  induction queue generalizing read with
  | nil => exact (append_nil read).symm
  | cons entry queue ih =>
    obtain ⟨⟨reference, dated⟩, others⟩ := forall_mem_cons.mp valid
    have new : entry.ticketId ∉ read.map QueuedRedemption.ticketId := by
      rw [map_append, nodup_append] at unique
      exact fun mem => unique.2.2 entry.ticketId mem entry.ticketId mem_cons_self rfl
    rw [map_cons, foldl_cons, restoreEntry_serialized reference dated new]
    have moved : read ++ entry :: queue = (read ++ [entry]) ++ queue := by simp
    rw [moved] at unique ⊢
    exact ih unique others

theorem restored_admitted (manifest : List String) (hashes : ∀ hash ∈ door.admitted, isManifestHash hash) :
    (restoreDoorOfflineState browser manifest door.serialized).admitted = distinct (sliceLast MAX_OFFLINE_ADMISSIONS door.admitted) := by
  change restoredAdmissions (.list (door.admitted.map .text)) = _
  rw [restoredAdmissions, filterMap_restoredHash hashes]

theorem restore_serialized (manifest : List String) (room : door.admitted.length ≤ MAX_OFFLINE_ADMISSIONS)
    (fewer : door.queue.length ≤ door.admitted.length) (once : door.admitted.Nodup) (hashes : ∀ hash ∈ door.admitted, isManifestHash hash)
    (single : (door.queue.map QueuedRedemption.ticketId).Nodup)
    (valid : ∀ entry ∈ door.queue, isTicketReference entry.ticketId ∧ browser.parses entry.scannedAt) :
    restoreDoorOfflineState browser manifest door.serialized = applyManifest door manifest := by
  have admitted := @restored_admitted browser door manifest hashes
  rw [sliceLast_short room, distinct_of_nodup once] at admitted
  have queue : restoredQueue browser (.list (door.queue.map QueuedRedemption.serialized)) = door.queue := by
    have short : (door.queue.map QueuedRedemption.serialized).length ≤ MAX_OFFLINE_ADMISSIONS := by
      rw [length_map]
      exact fewer.trans room
    rw [restoredQueue, sliceLast_short short]
    exact restoreEntries_serialized single valid
  have all : restoreDoorOfflineState browser manifest door.serialized =
      { manifest, admitted := (restoreDoorOfflineState browser manifest door.serialized).admitted,
        queue := restoredQueue browser (.list (door.queue.map QueuedRedemption.serialized)) } := rfl
  rw [all, admitted, queue]
  rfl

end

section
variable {shift : Shift} {scan : Scan browser}

/-- The door remembers exactly its admissions. -/
structure Sound (browser : Browser) (shift : Shift) : Prop where
  admitted : shift.door.admitted = shift.admissions.map Admission.hash
  once : (shift.admissions.map Admission.hash).Nodup
  queued : shift.door.queue = pending shift.admissions
  scans : ∀ admission ∈ shift.admissions, admission.hash = browser.hashTicketIdInBrowser admission.entry.ticketId ∧
    isTicketReference admission.entry.ticketId ∧ browser.parses admission.entry.scannedAt

theorem pending_append (admissions others : List Admission) : pending (admissions ++ others) = pending admissions ++ pending others := by
  simp [pending]

theorem pending_acknowledge (ticketIds : List String) (admissions : List Admission) :
    pending (admissions.map (Admission.acknowledge ticketIds)) = (pending admissions).filter fun entry => !ticketIds.contains entry.ticketId := by
  induction admissions with
  | nil => rfl
  | cons admission admissions ih =>
    have one (admission : Admission) : pending (admission :: admissions) = pending [admission] ++ pending admissions := pending_append [admission] admissions
    rw [map_cons, one, filter_append, ← ih]
    cases done : admission.acknowledged <;> by_cases found : admission.entry.ticketId ∈ ticketIds <;>
      simp [pending, Admission.acknowledge, done, found]

theorem length_pending (admissions : List Admission) : (pending admissions).length ≤ admissions.length := by
  rw [pending, length_map]
  exact List.length_filter_le _ _

theorem Sound.single (sound : Sound browser shift) : (shift.door.queue.map QueuedRedemption.ticketId).Nodup := by
  have same : shift.admissions.map Admission.hash =
      (shift.admissions.map fun admission => admission.entry.ticketId).map browser.hashTicketIdInBrowser := by
    rw [map_map]
    exact map_congr_left fun admission mem => (sound.scans admission mem).1
  have ids := List.Nodup.of_map _ (same ▸ sound.once)
  rw [sound.queued, pending, map_map]
  exact ids.sublist (filter_sublist.map _)

theorem orderly_of_sound (sound : Sound browser shift) : Orderly shift := ⟨sound.once, sound.queued, sound.single⟩

theorem scanned_new (listed : browser.hashTicketIdInBrowser scan.ticketId ∈ shift.door.manifest)
    (new : browser.hashTicketIdInBrowser scan.ticketId ∉ shift.door.admitted) :
    shift.next (.scanned scan) =
      { door := { shift.door with
          admitted := shift.door.admitted ++ [browser.hashTicketIdInBrowser scan.ticketId]
          queue := shift.door.queue ++ [{ ticketId := scan.ticketId, scannedAt := scan.scannedAt }] }
        admissions := shift.admissions ++ [{
          entry := { ticketId := scan.ticketId, scannedAt := scan.scannedAt }, hash := browser.hashTicketIdInBrowser scan.ticketId
          acknowledged := false }] } := by
  simp [Shift.next, Scan.outcome, recordOfflineScan, listed, new]

theorem scanned_other (other : browser.hashTicketIdInBrowser scan.ticketId ∈ shift.door.manifest →
    browser.hashTicketIdInBrowser scan.ticketId ∈ shift.door.admitted) : shift.next (.scanned scan) = shift := by
  by_cases listed : browser.hashTicketIdInBrowser scan.ticketId ∈ shift.door.manifest
  · simp [Shift.next, Scan.outcome, recordOfflineScan, listed, other listed, OfflineScanOutcome.state]
  · simp [Shift.next, Scan.outcome, recordOfflineScan, listed, OfflineScanOutcome.state]

theorem sound_scanned (sound : Sound browser shift) (scan : Scan browser) : Sound browser (shift.next (.scanned scan)) := by
  by_cases other : browser.hashTicketIdInBrowser scan.ticketId ∈ shift.door.manifest →
      browser.hashTicketIdInBrowser scan.ticketId ∈ shift.door.admitted
  · rwa [scanned_other other]
  · obtain ⟨listed, new⟩ := Classical.not_imp.mp other
    rw [scanned_new listed new]
    rw [sound.admitted] at new
    refine ⟨?_, ?_, ?_, fun admission mem => ?_⟩
    · simp [sound.admitted]
    · rw [map_append]
      exact nodup_append_comm.mp (nodup_cons.mpr ⟨new, sound.once⟩)
    · rw [pending_append, ← sound.queued]
      rfl
    · rcases mem_append.mp mem with old | last
      · exact sound.scans admission old
      · cases mem_singleton.mp last
        exact ⟨rfl, scan.reference, scan.dated⟩

theorem sound_next (sound : Sound browser shift) (event : Event browser) (restorable : Restorable event shift) : Sound browser (shift.next event) := by
  cases event with
  | scanned scan => exact sound_scanned sound scan
  | synced ticketIds =>
    have hashes : (shift.admissions.map (Admission.acknowledge ticketIds)).map Admission.hash = shift.admissions.map Admission.hash := by
      rw [map_map]
      exact map_congr_left fun _ _ => rfl
    refine ⟨?_, ?_, ?_, fun admission mem => ?_⟩
    · exact sound.admitted.trans hashes.symm
    · exact hashes ▸ sound.once
    · simp [Shift.next, clearSynced, pending_acknowledge, sound.queued]
    · obtain ⟨old, listed, rfl⟩ := mem_map.mp mem
      exact sound.scans old listed
  | refreshed => exact ⟨sound.admitted, sound.once, sound.queued, sound.scans⟩
  | reloaded manifest =>
    have fewer : shift.door.queue.length ≤ shift.door.admitted.length := by
      rw [sound.queued, sound.admitted, length_map]
      exact length_pending shift.admissions
    have hashes : ∀ hash ∈ shift.door.admitted, isManifestHash hash := by
      rw [sound.admitted]
      intro hash mem
      obtain ⟨admission, listed, rfl⟩ := mem_map.mp mem
      rw [(sound.scans admission listed).1]
      exact browser.hashed _
    have valid : ∀ entry ∈ shift.door.queue, isTicketReference entry.ticketId ∧ browser.parses entry.scannedAt := by
      rw [sound.queued]
      intro entry mem
      obtain ⟨admission, listed, rfl⟩ := mem_map.mp mem
      exact (sound.scans admission (mem_of_mem_filter listed)).2
    have once : shift.door.admitted.Nodup := sound.admitted ▸ sound.once
    have restored := @restore_serialized browser _ manifest (restorable manifest rfl) fewer once hashes sound.single valid
    simp only [Shift.next, restored]
    exact ⟨sound.admitted, sound.once, sound.queued, sound.scans⟩

theorem listed_scan (event : Event browser) (shift : Shift) : Listed event shift := by
  intro scan door _ admitted
  simp only [Scan.outcome, recordOfflineScan] at admitted
  split at admitted
  · cases admitted
  · next listed => simpa using listed

theorem sound_opened (manifest : List String) : Sound browser (opened manifest) :=
  ⟨rfl, nodup_nil, rfl, nofun⟩

/-- Only tickets on the manifest are admitted. As long as no reload finds more admissions than it restores, none is admitted twice and what waits is
what the server does not have, each ticket once, in the order of the scans. -/
theorem door_admits_once (browser : Browser) (manifest : List String) (events : List (Event browser)) :
    EachStep Shift.next Listed (opened manifest) events ∧
      (EachStep Shift.next Restorable (opened manifest) events → Throughout Shift.next Orderly (opened manifest) events) := by
  have always : EachStep Shift.next (fun (_ : Event browser) _ => True) (opened manifest) events :=
    @EachStep.always _ _ Shift.next (fun _ => True) _ _ fun _ _ => trivial
  refine ⟨always.imp fun event shift _ => listed_scan event shift, fun restorable => ?_⟩
  have step {shift : Shift} {event : Event browser} (sound : Sound browser shift) (restorable : Restorable event shift) :
      Sound browser (shift.next event) ∧ True := ⟨sound_next sound event restorable, trivial⟩
  have throughout := (@EachStep.shows _ _ Shift.next Restorable (Sound browser) (fun _ _ => True) step (opened manifest) events
    (sound_opened manifest) restorable).1
  exact throughout.imp fun _ sound => orderly_of_sound sound

end

section
variable {count : Nat}

def digits : Nat → Nat → List Char
  | 0, _ => []
  | width + 1, number => Char.ofNat (48 + number % 10) :: digits width (number / 10)

theorem length_digits (width number : Nat) : (digits width number).length = width := by
  induction width generalizing number with
  | zero => rfl
  | succ width ih => rw [digits, length_cons, ih]

theorem digits_isDigit (width number : Nat) : (digits width number).all Char.isDigit := by
  have digit : ∀ value < 10, (Char.ofNat (48 + value)).isDigit := by decide
  induction width generalizing number with
  | zero => rfl
  | succ width ih => rw [digits, List.all_cons, digit _ (Nat.mod_lt _ (by decide)), ih, Bool.and_self]

theorem digits_inj {width : Nat} (small : first < 10 ^ width) (also : second < 10 ^ width) (same : digits width first = digits width second) :
    first = second := by
  have digit : ∀ value < 10, ∀ other < 10, Char.ofNat (48 + value) = Char.ofNat (48 + other) → value = other := by decide
  induction width generalizing first second with
  | zero => omega
  | succ width ih =>
    rw [digits, digits, List.cons.injEq] at same
    have last := digit _ (Nat.mod_lt first (by decide)) _ (Nat.mod_lt second (by decide)) same.1
    have rest := ih (by omega) (by omega) same.2
    omega

def numbered (number : Nat) : String := String.ofList (digits 16 number)

theorem toList_numbered (number : Nat) : (numbered number).toList = digits 16 number := String.toList_ofList

theorem numbered_reference (number : Nat) : isTicketReference (numbered number) := by
  have letters := all_eq_true.mp (digits_isDigit 16 number)
  have every : (numbered number).toList.all (fun letter =>
      letter.isDigit || ('A' ≤ letter && letter ≤ 'H') || letter == 'J' || letter == 'K' || letter == 'M' || letter == 'N' ||
        ('P' ≤ letter && letter ≤ 'T') || ('V' ≤ letter && letter ≤ 'Z')) := by
    rw [all_eq_true]
    intro letter mem
    rw [toList_numbered] at mem
    simp [letters letter mem]
  rw [isTicketReference, every, toList_numbered, length_digits]
  rfl

def blank : String := "000000000000000000000000"

def plain : Browser where
  hashTicketIdInBrowser ticketId := if isManifestHash ("00000000" ++ ticketId) then "00000000" ++ ticketId else blank
  parses _ := true
  hashed ticketId := by
    split
    · assumption
    · decide +kernel

def numberedScan (number : Nat) : Scan plain :=
  { ticketId := numbered number, scannedAt := "2026-09-12T20:00:00.000Z", reference := numbered_reference number, dated := rfl }

def numberedHash (number : Nat) : String := plain.hashTicketIdInBrowser (numbered number)

theorem numberedHash_eq (number : Nat) : numberedHash number = "00000000" ++ numbered number := by
  refine if_pos ?_
  have zeros : ("00000000" : String).toList.all Char.isDigit := by decide
  have every : ("00000000" ++ numbered number).toList.all (fun letter => letter.isDigit || ('a' ≤ letter && letter ≤ 'f')) := by
    rw [all_eq_true]
    intro letter mem
    rw [String.toList_append, toList_numbered] at mem
    rcases mem_append.mp mem with first | last
    · simp [all_eq_true.mp zeros letter first]
    · simp [all_eq_true.mp (digits_isDigit 16 number) letter last]
  rw [isManifestHash, every, String.toList_append, length_append, toList_numbered, length_digits]
  rfl

theorem numberedHash_inj (small : first < 10 ^ 16) (also : second < 10 ^ 16) (same : numberedHash first = numberedHash second) :
    first = second := by
  rw [numberedHash_eq, numberedHash_eq] at same
  have letters := congrArg String.toList same
  rw [String.toList_append, String.toList_append] at letters
  have rest := List.append_cancel_left letters
  rw [toList_numbered, toList_numbered] at rest
  exact digits_inj small also rest

theorem run_scans {scans : List (Scan plain)} {shift : Shift} (listed : ∀ scan ∈ scans, plain.hashTicketIdInBrowser scan.ticketId ∈ shift.door.manifest)
    (unique : (shift.door.admitted ++ scans.map fun scan => plain.hashTicketIdInBrowser scan.ticketId).Nodup) :
    (runFrom Shift.next shift (scans.map .scanned)).door.admitted =
        shift.door.admitted ++ scans.map (fun scan => plain.hashTicketIdInBrowser scan.ticketId) ∧
      (runFrom Shift.next shift (scans.map .scanned)).admissions.map Admission.hash =
        shift.admissions.map Admission.hash ++ scans.map (fun scan => plain.hashTicketIdInBrowser scan.ticketId) := by
  induction scans generalizing shift with
  | nil => simp [runFrom]
  | cons scan scans ih =>
    obtain ⟨first, others⟩ := forall_mem_cons.mp listed
    have new : plain.hashTicketIdInBrowser scan.ticketId ∉ shift.door.admitted := by
      rw [nodup_append] at unique
      exact fun mem => unique.2.2 _ mem _ mem_cons_self rfl
    have moved := scanned_new first new
    have rest := @ih (shift.next (.scanned scan)) (by rw [moved]; exact others) (by rw [moved]; simpa using unique)
    simpa [runFrom, moved] using rest

/-- So many tickets, a reload, and the first ticket again. -/
def longShift (count : Nat) : List (Event plain) :=
  ((List.range count).map numberedScan).map .scanned ++ [.reloaded ((List.range count).map numberedHash), .scanned (numberedScan 0)]

theorem short_shift_orderly : Throughout Shift.next Orderly (opened [numberedHash 0]) (longShift 1) :=
  (door_admits_once plain _ _).2 ⟨nofun, fun _ _ => by decide +kernel, nofun, trivial⟩

theorem not_mem_sliceLast (beyond : MAX_OFFLINE_ADMISSIONS < count) (small : count ≤ 10 ^ 16) :
    numberedHash 0 ∉ sliceLast MAX_OFFLINE_ADMISSIONS ((List.range count).map numberedHash) := by
  intro mem
  rw [sliceLast, length_map, length_range] at mem
  obtain ⟨index, inside, same⟩ := List.mem_iff_getElem.mp mem
  rw [List.length_drop, length_map, length_range] at inside
  rw [List.getElem_drop, List.getElem_map, List.getElem_range] at same
  have zero := numberedHash_inj (by omega) (by omega) same
  omega

theorem long_shift (beyond : MAX_OFFLINE_ADMISSIONS < count) (small : count ≤ 10 ^ 16) :
    ¬ Throughout Shift.next Orderly (opened ((List.range count).map numberedHash)) (longShift count) := by
  intro throughout
  have orderly := throughout.last.once
  have hashes : ((List.range count).map numberedScan).map (fun scan => plain.hashTicketIdInBrowser scan.ticketId) = (List.range count).map numberedHash := by
    rw [map_map]
    rfl
  have unique : ((List.range count).map numberedHash).Nodup := by
    refine List.Nodup.map_on (fun first inside second also same => ?_) List.nodup_range
    exact numberedHash_inj ((mem_range.mp inside).trans_le small) ((mem_range.mp also).trans_le small) same
  obtain ⟨admitted, admissions⟩ := @run_scans ((List.range count).map numberedScan) (opened ((List.range count).map numberedHash))
    (fun scan mem => hashes ▸ mem_map_of_mem (f := fun scan : Scan plain => plain.hashTicketIdInBrowser scan.ticketId) mem)
    (by rw [hashes]; exact unique)
  rw [hashes] at admitted admissions
  rw [longShift, runFrom_append] at orderly
  generalize runFrom Shift.next _ (((List.range count).map numberedScan).map .scanned) = shift at admitted admissions orderly
  have first : numberedHash 0 ∈ (List.range count).map numberedHash := mem_map_of_mem (mem_range.mpr (by omega))
  have valid : ∀ hash ∈ shift.door.admitted, isManifestHash hash := by
    intro hash mem
    rw [admitted, opened, EMPTY_DOOR_STATE, nil_append] at mem
    obtain ⟨number, -, rfl⟩ := mem_map.mp mem
    exact plain.hashed _
  have forgotten : numberedHash 0 ∉ (shift.next (.reloaded ((List.range count).map numberedHash) : Event plain)).door.admitted := by
    rw [Shift.next, restored_admitted _ valid, mem_distinct, admitted, opened, EMPTY_DOOR_STATE, nil_append]
    exact not_mem_sliceLast beyond small
  have last : runFrom Shift.next shift [.reloaded ((List.range count).map numberedHash), .scanned (numberedScan 0)] =
      (shift.next (.reloaded ((List.range count).map numberedHash) : Event plain)).next (.scanned (numberedScan 0)) := rfl
  rw [last, scanned_new first forgotten, map_append, nodup_append] at orderly
  refine orderly.2.2 (numberedHash 0) ?_ (numberedHash 0) mem_cons_self rfl
  rw [Shift.next, admissions]
  exact mem_append_right _ first

theorem long_shift_admits_twice :
    ¬ Throughout Shift.next Orderly (opened ((List.range (MAX_OFFLINE_ADMISSIONS + 1)).map numberedHash)) (longShift (MAX_OFFLINE_ADMISSIONS + 1)) :=
  long_shift (Nat.lt_succ_self _) (by rw [MAX_OFFLINE_ADMISSIONS]; omega)

end

end MilkAndHenny.Door
