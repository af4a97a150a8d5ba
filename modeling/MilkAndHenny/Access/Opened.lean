import MilkAndHenny.Access.Conduct
import MilkAndHenny.Library.Machine

/-! The tickets that a session has opened, beside the tickets as they are. A transfer raises the authority version of a ticket,
a void or a restore changes its status, and a call reads the ticket before it writes the session. -/

namespace MilkAndHenny.Access
open Library

variable {mode : AccessMode} {now : Int} {tables : Tables} {id : Nat} {change : TicketRecord → TicketRecord}

inductive TicketStatus where
  | valid | void | refunded
deriving DecidableEq

structure TicketRecord where
  id : Nat
  eventSlug : Nat
  status : TicketStatus
  authorityVersion : Nat
  accessReference : Option Nat

structure EventRecord where
  slug : Nat
  eventId : Option Nat
  cancelled : Bool

structure ScoreParticipant where
  id : Nat
  eventSlug : Nat
  ticketId : Option Nat

structure Tables where
  events : List EventRecord
  tickets : List TicketRecord
  participants : List ScoreParticipant

namespace Tables

def ticket (tables : Tables) (id : Nat) : Option TicketRecord := tables.tickets.find? (·.id == id)

def getTicketByCurrentReference (tables : Tables) (reference : Nat) : Option TicketRecord :=
  tables.tickets.find? fun row => row.accessReference == some reference || (row.accessReference.isNone && row.id == reference)

def getEvent (tables : Tables) (slug : Nat) : Option EventRecord := tables.events.find? (·.slug == slug)

def participantForTicket (tables : Tables) (ticketId : Nat) : Option ScoreParticipant :=
  tables.participants.find? (·.ticketId == some ticketId)

/-- What `openAttendeeTicket` reads before it turns to the session. -/
def findTicket (tables : Tables) (reference eventSlug : Nat) : Option FoundTicket := do
  let ticket ← tables.getTicketByCurrentReference reference
  if ticket.eventSlug ≠ eventSlug ∨ ticket.status ≠ .valid then none
  else
    let event ← tables.getEvent eventSlug
    let eventId ← event.eventId
    if event.cancelled then none
    else
      let participant ← tables.participantForTicket ticket.id
      if participant.eventSlug ≠ eventSlug then none
      else
        some { ticketId := ticket.id, authorityVersion := ticket.authorityVersion, eventSlug, eventId, participantId := participant.id }

def validOpenedTickets (tables : Tables) (session : AttendeeSession) (eventSlug : Nat) : List AttendeeTicketAccess :=
  match tables.getEvent eventSlug with
  | none => []
  | some event =>
    if event.cancelled then []
    else (session.tickets.filter (·.eventSlug == eventSlug)).filter fun access =>
      (tables.ticket access.ticketId).any fun ticket => ticket.status == .valid && access.authorityVersion == ticket.authorityVersion

def setTicket (tables : Tables) (id : Nat) (change : TicketRecord → TicketRecord) : Tables :=
  { tables with tickets := update tables.tickets (·.id == id) change }

end Tables

/-- A session and the tables. `calls` have read their ticket and are still to write. Which tickets were opened and have not changed since, and at
which version each was opened last, an observer knows; no decision reads them. -/
structure Browser where
  tables : Tables
  session : AttendeeSession
  calls : List FoundTicket := []
  unchanged : List Nat := []
  openedAt : List (Nat × Nat) := []

inductive Happening where
  | lookUp (reference eventSlug : Nat)
  | write (call : Nat) (mode : AccessMode) (now : Int)
  | transfer (ticketId reference : Nat)
  | setStatus (ticketId : Nat) (status : TicketStatus)

def Happening.apply : Happening → Browser → Browser
  | .lookUp reference eventSlug, browser => { browser with calls := browser.calls ++ (browser.tables.findTicket reference eventSlug).toList }
  | .write call mode now, browser =>
    match browser.calls[call]? with
    | none => browser
    | some found =>
      { browser with
        session := browser.session.openTicket found mode now
        calls := browser.calls.eraseIdx call
        unchanged := found.ticketId :: browser.unchanged
        openedAt := ((browser.tables.ticket found.ticketId).map fun ticket => (found.ticketId, ticket.authorityVersion)).toList ++
          browser.openedAt.filter (·.1 ≠ found.ticketId) }
  | .transfer ticketId reference, browser =>
    { browser with
      tables := browser.tables.setTicket ticketId fun ticket =>
        { ticket with accessReference := some reference, authorityVersion := ticket.authorityVersion + 1 }
      unchanged := browser.unchanged.filter (· ≠ ticketId) }
  | .setStatus ticketId status, browser =>
    { browser with
      tables := browser.tables.setTicket ticketId fun ticket => { ticket with status }
      unchanged := browser.unchanged.filter fun id => id ≠ ticketId || (browser.tables.ticket id).all (·.status == status) }

namespace Browser

def openedTicketsForEvent (browser : Browser) (eventSlug : Nat) : List AttendeeTicketAccess :=
  browser.tables.validOpenedTickets browser.session eventSlug

/-- A ticket is listed from when it is opened until its status or version changes. -/
def Listed (browser : Browser) : Prop :=
  ∀ id ∈ browser.unchanged, ∃ ticket, browser.tables.ticket id = some ticket ∧
    ∃ access ∈ browser.openedTicketsForEvent ticket.eventSlug, access.ticketId = id

/-- A ticket whose version has changed since it was last opened is not listed, and for each event one ticket at most is in scoring mode, whose
participant is the active one. -/
structure Guarded (browser : Browser) : Prop where
  superseded : ∀ opened ∈ browser.openedAt, ∀ ticket ∈ browser.tables.ticket opened.1, ticket.authorityVersion ≠ opened.2 →
    ∀ eventSlug, ∀ access ∈ browser.openedTicketsForEvent eventSlug, access.ticketId ≠ opened.1
  alone : ∀ access ∈ browser.session.tickets, ∀ other ∈ browser.session.tickets, access.mode = .scoring → other.mode = .scoring →
    access.eventId = other.eventId → access = other
  active : ∀ eventId participantId, browser.session.activeParticipantByEventId.lookup eventId = some participantId ↔
    ∃ access ∈ browser.session.tickets, access.mode = .scoring ∧ access.eventId = eventId ∧ access.participantId = participantId

def first (tables : Tables) (id : Nat) (now : Int) : Browser where
  tables := tables
  session := { id, createdAt := now, lastSeenAt := now }

end Browser

section
variable {session : AttendeeSession} {found : FoundTicket}

def AttendeeSession.modeFor (session : AttendeeSession) (ticketId : Nat) (mode : AccessMode) : AccessMode :=
  if mode = .viewOnly then ((session.tickets.find? (·.ticketId == ticketId)).map (·.mode)).getD mode else mode

/-- An entry that the session already has, once a ticket is opened in a mode: all that changes is the mode. -/
def AttendeeTicketAccess.beside (access : AttendeeTicketAccess) (found : FoundTicket) (mode : AccessMode) : AttendeeTicketAccess :=
  { access with
    mode := if access.ticketId = found.ticketId then mode else if mode = .scoring ∧ access.eventId = found.eventId then .viewOnly else access.mode }

def FoundTicket.access (found : FoundTicket) (mode : AccessMode) (now : Int) : AttendeeTicketAccess where
  ticketId := found.ticketId
  authorityVersion := found.authorityVersion
  eventSlug := found.eventSlug
  eventId := found.eventId
  participantId := found.participantId
  mode := mode
  addedAt := now

theorem openTicket_tickets (session : AttendeeSession) (found : FoundTicket) (mode : AccessMode) (now : Int) :
    (session.openTicket found mode now).tickets =
      session.tickets.map (·.beside found (session.modeFor found.ticketId mode)) ++
        if session.tickets.any (·.ticketId == found.ticketId) then [] else [found.access (session.modeFor found.ticketId mode) now] := by
  unfold AttendeeSession.openTicket
  extract_lets existing access tickets others
  have chosen : access.mode = session.modeFor found.ticketId mode := rfl
  have named : access.ticketId = found.ticketId := rfl
  cases listed : session.tickets.any (·.ticketId == found.ticketId) with
  | true =>
    have changed : tickets = session.tickets.map fun entry => if entry.ticketId = found.ticketId then { entry with mode := access.mode } else entry :=
      if_pos listed
    rw [if_pos rfl, append_nil, chosen, changed]
    split
    · next scores =>
      rw [map_map]
      refine map_congr_left fun entry _ => ?_
      simp only [Function.comp_apply, AttendeeTicketAccess.beside, named, chosen, scores]
      by_cases mine : entry.ticketId = found.ticketId <;> by_cases same : entry.eventId = found.eventId <;> simp [mine, same]
    · next looks =>
      refine map_congr_left fun entry _ => ?_
      simp only [AttendeeTicketAccess.beside, chosen, looks, false_and, if_false]
      by_cases mine : entry.ticketId = found.ticketId <;> simp [mine]
  | false =>
    have added : tickets = session.tickets ++ [access] := if_neg (by simpa using listed)
    have absent : existing = none := find?_eq_none.mpr (by simpa using listed)
    have fresh : access = found.access (session.modeFor found.ticketId mode) now := by
      rw [← chosen]
      simp [access, absent, FoundTicket.access]
    have others : ∀ entry ∈ session.tickets, entry.ticketId ≠ found.ticketId := by simpa using listed
    rw [chosen, added, if_neg Bool.false_ne_true]
    split
    · next scores =>
      simp only [map_append, map_cons, map_nil]
      congr 1
      · refine map_congr_left fun entry mem => ?_
        simp only [AttendeeTicketAccess.beside, others entry mem, named, scores, true_and, and_true, ne_eq, not_false_eq_true, if_false]
        split <;> rfl
      · simp [fresh]
    · next looks =>
      simp only
      congr 1
      · refine ((map_congr_left fun entry mem => ?_).trans (map_id session.tickets)).symm
        simp [AttendeeTicketAccess.beside, others entry mem, looks]
      · rw [fresh]

theorem openTicket_lookup (session : AttendeeSession) (found : FoundTicket) (mode : AccessMode) (now : Int) (eventId : Nat) :
    (session.openTicket found mode now).activeParticipantByEventId.lookup eventId =
      if eventId ≠ found.eventId then session.activeParticipantByEventId.lookup eventId
      else if session.modeFor found.ticketId mode = .scoring then some found.participantId
      else if session.activeParticipantByEventId.lookup found.eventId = some found.participantId then none
      else session.activeParticipantByEventId.lookup found.eventId := by
  unfold AttendeeSession.openTicket
  extract_lets existing access tickets others
  have chosen : access.mode = session.modeFor found.ticketId mode := rfl
  rw [chosen]
  by_cases scores : session.modeFor found.ticketId mode = .scoring
  · rw [if_pos scores, if_pos scores]
    by_cases same : eventId = found.eventId
    · subst same
      rw [if_neg (not_not_intro rfl)]
      exact lookup_cons_self
    · rw [if_pos same]
      have missed : (eventId == found.eventId) = false := by simpa using same
      change List.lookup eventId ((found.eventId, found.participantId) :: others) = _
      rw [lookup_cons, missed]
      exact lookup_filter_ne same
  · rw [if_neg scores, if_neg scores]
    by_cases same : eventId = found.eventId
    · subst same
      rw [if_neg (not_not_intro rfl)]
      split
      · exact lookup_filter_self
      · rfl
    · split
      · exact lookup_filter_ne same
      · rfl

theorem mem_openTicket {access : AttendeeTicketAccess} (mem : access ∈ (session.openTicket found mode now).tickets) :
    (∃ old ∈ session.tickets, access = old.beside found (session.modeFor found.ticketId mode)) ∨
      (∀ old ∈ session.tickets, old.ticketId ≠ found.ticketId) ∧ access = found.access (session.modeFor found.ticketId mode) now := by
  rw [openTicket_tickets] at mem
  rcases mem_append.mp mem with kept | added
  · obtain ⟨old, listed, rfl⟩ := mem_map.mp kept
    exact .inl ⟨old, listed, rfl⟩
  · split at added
    · cases added
    · next absent =>
      rw [mem_singleton] at added
      exact .inr ⟨by simpa using absent, added⟩

theorem mode_opened {access : AttendeeTicketAccess} (mem : access ∈ (session.openTicket found mode now).tickets) (mine : access.ticketId = found.ticketId) :
    access.mode = session.modeFor found.ticketId mode := by
  rcases mem_openTicket mem with ⟨old, -, rfl⟩ | ⟨-, rfl⟩
  · exact if_pos mine
  · rfl

theorem scoring_opened {access : AttendeeTicketAccess} (mem : access ∈ (session.openTicket found mode now).tickets) (scores : access.mode = .scoring)
    (other : access.ticketId ≠ found.ticketId) :
    access ∈ session.tickets ∧ ¬ (session.modeFor found.ticketId mode = .scoring ∧ access.eventId = found.eventId) := by
  rcases mem_openTicket mem with ⟨old, listed, rfl⟩ | ⟨-, rfl⟩
  · have apart : old.ticketId ≠ found.ticketId := other
    simp only [AttendeeTicketAccess.beside, if_neg apart] at scores ⊢
    split at scores
    · cases scores
    · next free =>
      rw [if_neg free]
      exact ⟨listed, free⟩
  · exact absurd rfl other

theorem kept_opened {access : AttendeeTicketAccess} (mem : access ∈ session.tickets) (other : access.ticketId ≠ found.ticketId)
    (free : ¬ (session.modeFor found.ticketId mode = .scoring ∧ access.eventId = found.eventId)) : access ∈ (session.openTicket found mode now).tickets := by
  have same : access.beside found (session.modeFor found.ticketId mode) = access := by
    simp [AttendeeTicketAccess.beside, if_neg other, if_neg free]
  rw [openTicket_tickets]
  exact mem_append_left _ (mem_map.mpr ⟨access, mem, same⟩)

theorem looked_at (once : (session.tickets.map (·.ticketId)).Nodup) (looks : session.modeFor found.ticketId mode ≠ .scoring) {access : AttendeeTicketAccess}
    (mem : access ∈ session.tickets) (scores : access.mode = .scoring) : access.ticketId ≠ found.ticketId := by
  intro mine
  refine looks ?_
  unfold AttendeeSession.modeFor
  split
  · rw [← mine, find?_key once mem]
    exact scores
  · cases mode with
    | scoring => rfl
    | viewOnly => contradiction

end

/-- What an entry of the session was made from. -/
def AttendeeTicketAccess.found (access : AttendeeTicketAccess) : FoundTicket where
  ticketId := access.ticketId
  authorityVersion := access.authorityVersion
  eventSlug := access.eventSlug
  eventId := access.eventId
  participantId := access.participantId

section
variable {found other : FoundTicket}

/-- What was read of a ticket is still so, but for its status and its version, which has not fallen since. -/
structure Tables.Backs (tables : Tables) (found : FoundTicket) : Prop where
  ticket : ∃ ticket, tables.ticket found.ticketId = some ticket ∧ ticket.eventSlug = found.eventSlug ∧ found.authorityVersion ≤ ticket.authorityVersion
  event : ∃ event, tables.getEvent found.eventSlug = some event ∧ event.eventId = some found.eventId ∧ event.cancelled = false
  participant : ∃ participant, tables.participantForTicket found.ticketId = some participant ∧ participant.id = found.participantId

theorem Tables.Backs.same (backs : tables.Backs found) (also : tables.Backs other) (same : found.ticketId = other.ticketId) :
    found.eventId = other.eventId ∧ found.participantId = other.participantId := by
  obtain ⟨ticket, ticketFound, slug, -⟩ := backs.ticket
  obtain ⟨ticket', ticketFound', slug', -⟩ := also.ticket
  obtain ⟨event, eventFound, eventId, -⟩ := backs.event
  obtain ⟨event', eventFound', eventId', -⟩ := also.event
  obtain ⟨participant, participantFound, participantId⟩ := backs.participant
  obtain ⟨participant', participantFound', participantId'⟩ := also.participant
  rw [same] at ticketFound participantFound
  cases some.inj (ticketFound.symm.trans ticketFound')
  cases some.inj (participantFound.symm.trans participantFound')
  rw [← slug, slug'] at eventFound
  cases some.inj (eventFound.symm.trans eventFound')
  exact ⟨some.inj (eventId.symm.trans eventId'), participantId.symm.trans participantId'⟩

theorem Tables.Backs.apart (unique : (tables.participants.map (·.id)).Nodup) (backs : tables.Backs found) (also : tables.Backs other)
    (same : found.participantId = other.participantId) : found.ticketId = other.ticketId := by
  obtain ⟨participant, there, id⟩ := backs.participant
  obtain ⟨participant', there', id'⟩ := also.participant
  have rows := inj_on_of_nodup_map unique (mem_of_find?_eq_some there) (mem_of_find?_eq_some there')
    (id.trans (same.trans id'.symm))
  have ticket : participant.ticketId = some found.ticketId := eq_of_beq (@find?_some _ (fun row : ScoreParticipant => row.ticketId == _) _ _ there)
  have ticket' : participant'.ticketId = some other.ticketId := eq_of_beq (@find?_some _ (fun row : ScoreParticipant => row.ticketId == _) _ _ there')
  rw [rows, ticket'] at ticket
  exact (some.inj ticket).symm

theorem findTicket_backs (unique : (tables.tickets.map (·.id)).Nodup) {reference eventSlug : Nat} (reads : tables.findTicket reference eventSlug = some found) :
    tables.Backs found := by
  unfold Tables.findTicket at reads
  simp only [bind_eq_bind, bind_eq_some_iff] at reads
  obtain ⟨ticket, ticketFound, reads⟩ := reads
  split at reads
  · cases reads
  · next here =>
    simp only [bind_eq_some_iff] at reads
    obtain ⟨event, eventFound, eventId, identified, reads⟩ := reads
    split at reads
    · cases reads
    · next goesOn =>
      simp only [bind_eq_some_iff] at reads
      obtain ⟨participant, participantFound, reads⟩ := reads
      split at reads
      · cases reads
      · cases reads
        rw [not_or, not_not, not_not] at here
        refine ⟨⟨ticket, find?_key unique (mem_of_find?_eq_some ticketFound), here.1, le_rfl⟩, ⟨event, eventFound, identified, ?_⟩,
          participant, participantFound, rfl⟩
        simpa using goesOn

theorem ticket_setTicket (kept : ∀ row, (change row).id = row.id) (other : Nat) :
    (tables.setTicket id change).ticket other = if other = id then (tables.ticket id).map change else tables.ticket other := by
  have changed : (tables.setTicket id change).ticket other = (tables.ticket other).map fun row => if row.id == id then change row else row :=
    find?_update fun row _ => congrArg (· == other) (kept row)
  have named {row : TicketRecord} (found : tables.ticket other = some row) : row.id = other :=
    eq_of_beq (@find?_some _ (fun row : TicketRecord => row.id == other) _ _ found)
  rw [changed]
  cases found : tables.ticket other with
  | none =>
    split
    · next same => rw [← same, found, map_none, map_none]
    · rfl
  | some =>
    rw [map_some, named found]
    split
    · next same =>
      cases eq_of_beq same
      rw [if_pos rfl, found, map_some]
    · next apart => rw [if_neg (by simpa using apart)]

theorem Tables.Backs.set (backs : tables.Backs found) (kept : ∀ row, (change row).id = row.id ∧ (change row).eventSlug = row.eventSlug)
    (rises : ∀ row, row.authorityVersion ≤ (change row).authorityVersion) : (tables.setTicket id change).Backs found := by
  refine ⟨?_, backs.event, backs.participant⟩
  obtain ⟨ticket, there, slug, version⟩ := backs.ticket
  rw [ticket_setTicket fun row => (kept row).1]
  split
  · next same =>
    subst same
    exact ⟨change ticket, by rw [there, map_some], (kept ticket).2.trans slug, version.trans (rises ticket)⟩
  · exact ⟨ticket, there, slug, version⟩

end

/-- Whenever a call writes the session, the ticket is valid, and its version is the one that the session keeps for it: the one of the first opening,
which is what the call itself has read where the ticket is new to the session. -/
def Happening.Current : Happening → Browser → Prop
  | .write call _ _, browser => ∀ found ∈ browser.calls[call]?, ∀ ticket ∈ browser.tables.ticket found.ticketId, ticket.status = .valid ∧
      ((browser.session.tickets.find? (·.ticketId == found.ticketId)).map (·.authorityVersion)).getD found.authorityVersion = ticket.authorityVersion
  | _, _ => True

namespace Browser
variable {browser after : Browser}

structure Sound (browser : Browser) : Prop where
  tickets : (browser.tables.tickets.map (·.id)).Nodup
  participants : (browser.tables.participants.map (·.id)).Nodup
  once : (browser.session.tickets.map (·.ticketId)).Nodup
  entries : ∀ access ∈ browser.session.tickets, browser.tables.Backs access.found
  calls : ∀ found ∈ browser.calls, browser.tables.Backs found
  opened : ∀ opened ∈ browser.openedAt, (∀ ticket ∈ browser.tables.ticket opened.1, opened.2 ≤ ticket.authorityVersion) ∧
    ∀ access ∈ browser.session.tickets, access.ticketId = opened.1 → access.authorityVersion ≤ opened.2
  alone : ∀ access ∈ browser.session.tickets, ∀ other ∈ browser.session.tickets, access.mode = .scoring → other.mode = .scoring →
    access.eventId = other.eventId → access = other
  active : ∀ eventId participantId, browser.session.activeParticipantByEventId.lookup eventId = some participantId ↔
    ∃ access ∈ browser.session.tickets, access.mode = .scoring ∧ access.eventId = eventId ∧ access.participantId = participantId

theorem mem_validOpenedTickets {session : AttendeeSession} {eventSlug : Nat} {access : AttendeeTicketAccess} :
    access ∈ tables.validOpenedTickets session eventSlug ↔ (∃ event, tables.getEvent eventSlug = some event ∧ event.cancelled = false) ∧
      access ∈ session.tickets ∧ access.eventSlug = eventSlug ∧
        ∃ ticket, tables.ticket access.ticketId = some ticket ∧ ticket.status = .valid ∧ access.authorityVersion = ticket.authorityVersion := by
  unfold Tables.validOpenedTickets
  cases found : tables.getEvent eventSlug with
  | none => simp
  | some event =>
    cases cancelled : event.cancelled with
    | true => simp [cancelled]
    | false =>
      simp only [cancelled, false_eq_true, if_false, mem_filter, beq_iff_eq, Option.any_eq_true, and_eq_true, and_assoc]
      simp [cancelled]

theorem Sound.guarded (sound : browser.Sound) : browser.Guarded where
  superseded opened mem ticket there changed eventSlug access listed mine := by
    obtain ⟨-, kept, -, ticket', there', -, version⟩ := mem_validOpenedTickets.mp listed
    rw [mine] at there'
    cases some.inj (there.symm.trans there')
    obtain ⟨risen, first⟩ := sound.opened opened mem
    exact changed (le_antisymm (version ▸ first access kept mine) (risen ticket there))
  alone := sound.alone
  active := sound.active

theorem listed_congr (listed : browser.Listed) (events : after.tables.events = browser.tables.events) (session : after.session = browser.session)
    (same : ∀ id ∈ after.unchanged, id ∈ browser.unchanged ∧ after.tables.ticket id = browser.tables.ticket id) : after.Listed := by
  intro id mem
  obtain ⟨before, kept⟩ := same id mem
  obtain ⟨ticket, there, access, shown, named⟩ := listed id before
  refine ⟨ticket, kept.trans there, access, ?_, named⟩
  obtain ⟨event, here, slug, valid⟩ := mem_validOpenedTickets.mp shown
  refine mem_validOpenedTickets.mpr ⟨?_, session ▸ here, slug, ?_⟩
  · rw [Tables.getEvent, events]
    exact event
  · rw [named] at valid ⊢
    rwa [kept]

section
variable {unchanged : List Nat}

theorem Sound.set (sound : browser.Sound) (kept : ∀ row, (change row).id = row.id ∧ (change row).eventSlug = row.eventSlug)
    (rises : ∀ row, row.authorityVersion ≤ (change row).authorityVersion) :
    Sound { browser with tables := browser.tables.setTicket id change, unchanged } where
  tickets := nodup_update (fun row => (kept row).1) sound.tickets
  participants := sound.participants
  once := sound.once
  entries access mem := (sound.entries access mem).set kept rises
  calls found mem := (sound.calls found mem).set kept rises
  opened opened mem := by
    obtain ⟨risen, first⟩ := sound.opened opened mem
    refine ⟨fun ticket there => ?_, first⟩
    change (browser.tables.setTicket id change).ticket opened.1 = some ticket at there
    rw [ticket_setTicket fun row => (kept row).1] at there
    split at there
    · next same =>
      obtain ⟨row, found, rfl⟩ := map_eq_some_iff.mp there
      exact (risen row (same ▸ found)).trans (rises row)
    · exact risen ticket there
  alone := sound.alone
  active := sound.active

end

section
variable {found : FoundTicket} {call : Nat}

variable (sound : browser.Sound)
include sound

theorem opened_backs (backs : browser.tables.Backs found) {access : AttendeeTicketAccess}
    (mem : access ∈ (browser.session.openTicket found mode now).tickets) : browser.tables.Backs access.found := by
  rcases mem_openTicket mem with ⟨old, listed, rfl⟩ | ⟨-, rfl⟩
  · exact sound.entries old listed
  · exact backs

theorem opened_once (found : FoundTicket) (mode : AccessMode) (now : Int) :
    ((browser.session.openTicket found mode now).tickets.map (·.ticketId)).Nodup := by
  rw [openTicket_ticketIds]
  split
  · exact sound.once
  · next absent =>
    refine sound.once.append (nodup_singleton _) ?_
    intro id listed new
    obtain ⟨access, mem, rfl⟩ := mem_map.mp listed
    exact absent (any_eq_true.mpr ⟨access, mem, by simpa using new⟩)

theorem opened_alone (backs : browser.tables.Backs found) :
    ∀ access ∈ (browser.session.openTicket found mode now).tickets, ∀ other ∈ (browser.session.openTicket found mode now).tickets,
      access.mode = .scoring → other.mode = .scoring → access.eventId = other.eventId → access = other := by
  -- the ticket itself scores only where no other of its event does any more
  have lone {access other : AttendeeTicketAccess} (mem : access ∈ (browser.session.openTicket found mode now).tickets)
      (listed : other ∈ (browser.session.openTicket found mode now).tickets) (scores : access.mode = .scoring) (also : other.mode = .scoring)
      (same : access.eventId = other.eventId) (mine : access.ticketId = found.ticketId) : other.ticketId = found.ticketId := by
    by_contra apart
    obtain ⟨-, free⟩ := scoring_opened listed also apart
    exact free ⟨(mode_opened mem mine).symm.trans scores, same.symm.trans ((opened_backs sound backs mem).same backs mine).1⟩
  intro access mem other listed scores also same
  by_cases mine : access.ticketId = found.ticketId
  · exact inj_on_of_nodup_map (opened_once sound found mode now) mem listed (mine.trans (lone mem listed scores also same mine).symm)
  · have apart : other.ticketId ≠ found.ticketId := fun yours => mine (lone listed mem also scores same.symm yours)
    exact sound.alone access (scoring_opened mem scores mine).1 other (scoring_opened listed also apart).1 scores also same

theorem opened_active (backs : browser.tables.Backs found) (eventId participantId : Nat) :
    (browser.session.openTicket found mode now).activeParticipantByEventId.lookup eventId = some participantId ↔
      ∃ access ∈ (browser.session.openTicket found mode now).tickets,
        access.mode = .scoring ∧ access.eventId = eventId ∧ access.participantId = participantId := by
  rw [openTicket_lookup]
  by_cases elsewhere : eventId ≠ found.eventId
  · rw [if_pos elsewhere, sound.active]
    constructor
    · rintro ⟨access, mem, scores, rfl, named⟩
      have apart : access.ticketId ≠ found.ticketId := fun mine => elsewhere ((sound.entries access mem).same backs mine).1
      exact ⟨access, kept_opened mem apart fun both => elsewhere both.2, scores, rfl, named⟩
    · rintro ⟨access, mem, scores, rfl, named⟩
      have apart : access.ticketId ≠ found.ticketId := fun mine => elsewhere ((opened_backs sound backs mem).same backs mine).1
      exact ⟨access, (scoring_opened mem scores apart).1, scores, rfl, named⟩
  · rw [if_neg elsewhere]
    rw [not_not] at elsewhere
    subst elsewhere
    by_cases scores : browser.session.modeFor found.ticketId mode = .scoring
    · rw [if_pos scores]
      constructor
      · rintro same
        cases same
        obtain ⟨access, mem, mine⟩ := openTicket_opens browser.session found mode now
        obtain ⟨event, participant⟩ := (opened_backs sound backs mem).same backs mine
        exact ⟨access, mem, (mode_opened mem mine).trans scores, event, participant⟩
      · rintro ⟨access, mem, also, here, rfl⟩
        have mine : access.ticketId = found.ticketId := by
          by_contra apart
          exact (scoring_opened mem also apart).2 ⟨scores, here⟩
        exact congrArg some ((opened_backs sound backs mem).same backs mine).2.symm
    · have away : browser.session.activeParticipantByEventId.lookup found.eventId ≠ some found.participantId := by
        intro chosen
        obtain ⟨access, mem, also, -, named⟩ := (sound.active _ _).mp chosen
        exact looked_at sound.once scores mem also ((sound.entries access mem).apart sound.participants backs named)
      rw [if_neg scores, if_neg away, sound.active]
      constructor
      · rintro ⟨access, mem, also, here, named⟩
        exact ⟨access, kept_opened mem (looked_at sound.once scores mem also) fun both => scores both.1, also, here, named⟩
      · rintro ⟨access, mem, also, here, named⟩
        have apart : access.ticketId ≠ found.ticketId := fun mine => scores ((mode_opened mem mine).symm.trans also)
        exact ⟨access, (scoring_opened mem also apart).1, also, here, named⟩

theorem Sound.write (reads : browser.calls[call]? = some found) :
    ((Happening.write call mode now).apply browser).Sound := by
  have backs := sound.calls found (mem_of_getElem? reads)
  simp only [Happening.apply, reads]
  refine ⟨sound.tickets, sound.participants, opened_once sound found mode now, fun access mem => opened_backs sound backs mem, ?_, ?_,
    opened_alone sound backs, opened_active sound backs⟩
  · intro other mem
    exact sound.calls other (List.mem_of_mem_eraseIdx mem)
  · intro opened mem
    rcases mem_append.mp mem with now | before
    · obtain ⟨ticket, there, rfl⟩ := map_eq_some_iff.mp (mem_toList.mp now)
      refine ⟨fun again there' => ?_, fun access listed mine => ?_⟩
      · cases some.inj (there.symm.trans there')
        exact le_rfl
      · obtain ⟨again, there', -, version⟩ := (opened_backs sound backs listed).ticket
        have here : browser.tables.ticket access.ticketId = some again := there'
        rw [mine] at here
        cases some.inj (there.symm.trans here)
        exact version
    · obtain ⟨before, apart⟩ := mem_filter.mp before
      obtain ⟨risen, first⟩ := sound.opened opened before
      refine ⟨risen, fun access listed mine => ?_⟩
      rcases mem_openTicket listed with ⟨old, kept, rfl⟩ | ⟨-, rfl⟩
      · exact first old kept mine
      · have named : found.ticketId = opened.1 := mine
        exact absurd named.symm (by simpa using apart)

theorem version_opened {access : AttendeeTicketAccess} (mem : access ∈ (browser.session.openTicket found mode now).tickets)
    (mine : access.ticketId = found.ticketId) : access.authorityVersion =
      ((browser.session.tickets.find? (·.ticketId == found.ticketId)).map (·.authorityVersion)).getD found.authorityVersion := by
  rcases mem_openTicket mem with ⟨old, listed, rfl⟩ | ⟨absent, rfl⟩
  · have named : old.ticketId = found.ticketId := mine
    rw [← named, find?_key sound.once listed]
    rfl
  · rw [find?_eq_none.mpr (by simpa using absent)]
    rfl

theorem listed_write (listed : browser.Listed) (reads : browser.calls[call]? = some found) :
    ((Happening.write call mode now).apply browser).Listed ↔ (Happening.write call mode now).Current browser := by
  have backs := sound.calls found (mem_of_getElem? reads)
  obtain ⟨access, mem, mine⟩ := openTicket_opens browser.session found mode now
  have version := version_opened sound mem mine
  obtain ⟨ticket, there, slug, -⟩ := (opened_backs sound backs mem).ticket
  have there : browser.tables.ticket access.ticketId = some ticket := there
  rw [mine] at there
  simp only [Happening.apply, reads]
  constructor
  · intro holds found' again row row'
    cases some.inj (reads.symm.trans again)
    cases some.inj (there.symm.trans row')
    obtain ⟨row, found'', other, shown, named⟩ := holds found.ticketId (mem_cons_self ..)
    obtain ⟨-, kept, -, row', there', valid, current⟩ := mem_validOpenedTickets.mp shown
    rw [named] at there'
    cases some.inj (there.symm.trans there')
    rw [← version_opened sound kept named]
    exact ⟨valid, current⟩
  · intro current id opened
    by_cases same : id = found.ticketId
    · subst same
      obtain ⟨valid, kept⟩ := current found reads ticket there
      obtain ⟨event, eventFound, -, goesOn⟩ := (opened_backs sound backs mem).event
      refine ⟨ticket, there, access, mem_validOpenedTickets.mpr ⟨⟨event, ?_, goesOn⟩, mem, slug.symm, ticket, ?_, valid, version.trans kept⟩, mine⟩
      · rw [slug]
        exact eventFound
      · rw [mine]
        exact there
    · have before : id ∈ browser.unchanged := (mem_cons.mp opened).resolve_left same
      obtain ⟨ticket, there, access, shown, rfl⟩ := listed id before
      obtain ⟨event, kept, slug, valid⟩ := mem_validOpenedTickets.mp shown
      refine ⟨ticket, there, access.beside found (browser.session.modeFor found.ticketId mode), mem_validOpenedTickets.mpr ⟨event, ?_, slug, valid⟩, rfl⟩
      rw [openTicket_tickets]
      exact mem_append_left _ (mem_map_of_mem kept)

end

theorem apply_sound (sound : browser.Sound) (happening : Happening) : (happening.apply browser).Sound := by
  cases happening with
  | lookUp =>
    refine ⟨sound.tickets, sound.participants, sound.once, sound.entries, fun found mem => ?_, sound.opened, sound.alone, sound.active⟩
    rcases mem_append.mp mem with old | new
    · exact sound.calls found old
    · exact findTicket_backs sound.tickets (mem_toList.mp new)
  | write call =>
    cases reads : browser.calls[call]? with
    | none => simpa [Happening.apply, reads] using sound
    | some => exact sound.write reads
  | transfer => exact sound.set (fun _ => ⟨rfl, rfl⟩) fun _ => Nat.le_succ _
  | setStatus => exact sound.set (fun _ => ⟨rfl, rfl⟩) fun _ => le_rfl

theorem apply_listed (sound : browser.Sound) (listed : browser.Listed) (happening : Happening) :
    (happening.apply browser).Listed ↔ happening.Current browser := by
  cases happening with
  | lookUp => exact iff_of_true (listed_congr listed rfl rfl fun id mem => ⟨mem, rfl⟩) trivial
  | write call mode now =>
    cases reads : browser.calls[call]? with
    | none =>
      have same : (Happening.write call mode now).apply browser = browser := by simp [Happening.apply, reads]
      rw [same]
      refine iff_of_true listed fun found there => ?_
      rw [reads] at there
      cases there
    | some => exact listed_write sound listed reads
  | transfer ticketId =>
    refine iff_of_true (listed_congr listed rfl rfl fun id mem => ?_) trivial
    obtain ⟨before, apart⟩ := mem_filter.mp mem
    refine ⟨before, ?_⟩
    change (browser.tables.setTicket ticketId _).ticket id = _
    rw [ticket_setTicket (by exact fun _ => rfl), if_neg (by simpa using apart)]
  | setStatus ticketId status =>
    refine iff_of_true (listed_congr listed rfl rfl fun id mem => ?_) trivial
    obtain ⟨before, kept⟩ := mem_filter.mp mem
    refine ⟨before, ?_⟩
    change (browser.tables.setTicket ticketId _).ticket id = _
    rw [ticket_setTicket (by exact fun _ => rfl)]
    split
    · next same =>
      subst same
      cases there : browser.tables.ticket id with
      | none => rfl
      | some ticket =>
        rw [there] at kept
        have unmoved : ticket.status = status := by simpa using kept
        rw [map_some, ← unmoved]
    · rfl

theorem first_sound (tickets : (tables.tickets.map (·.id)).Nodup) (participants : (tables.participants.map (·.id)).Nodup)
    (id : Nat) (now : Int) : (first tables id now).Sound where
  tickets := tickets
  participants := participants
  once := nodup_nil
  entries := by simp [first]
  calls := by simp [first]
  opened := by simp [first]
  alone := by simp [first]
  active := by simp [first]

/-- In every run, a ticket whose version has changed since it was last opened is not listed, and for each event one ticket at most is in scoring mode, with
its participant the active one. A ticket is listed from when it is opened until it changes, exactly if every opening finds what the session keeps current. -/
theorem opened_tickets {tables : Tables} (tickets : (tables.tickets.map (·.id)).Nodup) (participants : (tables.participants.map (·.id)).Nodup)
    (id : Nat) (now : Int) (happenings : List Happening) :
    Throughout Happening.apply Guarded (first tables id now) happenings ∧
      (Throughout Happening.apply Listed (first tables id now) happenings ↔ EachStep Happening.apply Happening.Current (first tables id now) happenings) := by
  have start := first_sound tickets participants id now
  have always : EachStep Happening.apply (fun _ _ => True) (first tables id now) happenings :=
    @EachStep.always _ _ Happening.apply (fun _ => True) _ _ fun _ _ => trivial
  constructor
  · have sound := (@EachStep.shows _ _ Happening.apply _ Sound (fun _ _ => True) (fun sound _ => ⟨apply_sound sound _, trivial⟩) _ _ start always).1
    exact sound.imp fun _ sound => sound.guarded
  · exact @throughout_iff_within _ _ Happening.apply Listed Happening.Current Sound (fun _ _ => True)
      (fun sound listed _ => ⟨apply_sound sound _, apply_listed sound listed _⟩) _ _ start (by simp [Listed, first]) always

def oneTicket : Tables where
  events := [{ slug := 1, eventId := some 1, cancelled := false }]
  tickets := [{ id := 10, eventSlug := 1, status := .valid, authorityVersion := 1, accessReference := none }]
  participants := [{ id := 100, eventSlug := 1, ticketId := some 10 }]

/-- The ticket is opened, transferred, and opened again by its new reference. -/
def reopened : List Happening := [.lookUp 10 1, .write 0 .viewOnly 5, .transfer 10 11, .lookUp 11 1, .write 0 .viewOnly 6]

/-- Nothing has happened to the ticket since, and it is not listed. -/
theorem reopened_unlisted : 10 ∈ (runFrom Happening.apply (first oneTicket 7 0) reopened).unchanged ∧
    (runFrom Happening.apply (first oneTicket 7 0) reopened).openedTicketsForEvent 1 = [] ∧
    ¬ Throughout Happening.apply Listed (first oneTicket 7 0) reopened := by
  have empty : (runFrom Happening.apply (first oneTicket 7 0) reopened).openedTicketsForEvent 1 = [] := by decide
  refine ⟨by decide, empty, fun throughout => ?_⟩
  obtain ⟨ticket, there, access, shown, -⟩ := throughout.last 10 (by decide)
  have here : ((runFrom Happening.apply (first oneTicket 7 0) reopened).tables.ticket 10).map (·.eventSlug) = some 1 := by decide
  rw [there, map_some] at here
  rw [some.inj here, empty] at shown
  cases shown

/-- A ticket that is opened, voided, restored and opened again. -/
theorem opened_tickets_restored :
    let happenings : List Happening := [.lookUp 10 1, .write 0 .scoring 5, .setStatus 10 .void, .setStatus 10 .valid, .lookUp 10 1, .write 0 .viewOnly 6]
    Throughout Happening.apply Guarded (first oneTicket 7 0) happenings ∧
      (Throughout Happening.apply Listed (first oneTicket 7 0) happenings ↔ EachStep Happening.apply Happening.Current (first oneTicket 7 0) happenings) :=
  opened_tickets (by decide) (by decide) 7 0 _

end Browser

end MilkAndHenny.Access
