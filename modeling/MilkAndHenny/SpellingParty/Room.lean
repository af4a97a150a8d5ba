import MilkAndHenny.Library.Reorder
import MilkAndHenny.Multiplayer.Rooms
import MilkAndHenny.RateLimit.Stores
import MilkAndHenny.SpellingParty.Closeness

/-! A room of the spelling party: how its words are chosen, and its rounds, one word after the
other. Sounds and the text of the clues are left out. -/

namespace MilkAndHenny.SpellingParty
open Library Multiplayer
open Zip (trim isSpace)

def finishedGraceMs : Int := 900000
def connectedWindowMs : Int := 22000
def revealCooldownMs : Int := 8000
def maxPlayers : Nat := 12

structure PartyWord where
  id : String
  word : String
deriving DecidableEq

structure PartyDeck where
  id : String
  name : String
  words : List PartyWord
deriving DecidableEq

/-- The decks that the site brings; none is empty, and none has an id twice. -/
structure Catalogue where
  partyDeck : String → Option PartyDeck
  filled : ∀ deckId, ∀ deck ∈ partyDeck deckId, deck.words ≠ []
  distinct : ∀ deckId, ∀ deck ∈ partyDeck deckId, (deck.words.map (·.id)).Nodup

/-- What one command reads besides the room; what is drawn at random is drawn by the place it is drawn for. -/
structure GameContext where
  runtime : Runtime
  now : Int
  /-- The clock that everything but an action reads. -/
  clock : Int
  newId : Nat
  token : Nat → Nat → Nat
  pick : Nat → Nat → Nat

inductive PartyPhase where
  | lobby | countdown | answer | locked | reveal | finished
deriving DecidableEq

inductive PartyClueKind where
  | repeat_ | definition | sentence
deriving DecidableEq

structure PlayerState extends Readiness where
  id : Nat
  name : String
  tokenHash : Secret
  score : Nat := 0
  sessionScore : Nat := 0
  draft : String := ""
  draftRevision : Nat := 0
  locked : Bool := false
  automatic : Bool := false
  lockedAt : Option Int := none
  lastSeenAt : Int
  integrityRoundIds : List (Nat × Nat) := []
  joinedAt : Int
  leftAt : Option Int := none

structure RoundState where
  roundId : Nat × Nat
  number : Nat
  wordId : String
  countdownStartsAt : Int
  audioPlaysAt : Int
  answerOpensAt : Int
  answerLocksAt : Int
  revealAt : Int
  nextRoundAt : Option Int := none
  repeatUsed : Bool := false
  definitionUsed : Bool := false
  scored : Bool := false

/-- `PartyGameState`. -/
structure PartyRoom where
  roomId : Nat
  officialResultChannelId : Option Nat
  deckId : String
  deckName : String
  answerSeconds : Int
  roundTotal : Nat
  wordIds : List String
  words : List PartyWord
  usesLocalSpeech : Bool
  phase : PartyPhase
  revision : Nat
  sequence : Nat
  presenterHash : Secret
  joinHash : Secret
  expiresAt : Int
  sentenceCluesRemaining : Nat
  players : List PlayerState
  hostPlayerId : Option Nat
  round : Option RoundState
  processedActions : List Nat
  gameNumber : Nat
  wordCursor : Nat

namespace PlayerState

def connected (player : PlayerState) (now : Int) : Bool := now - player.lastSeenAt ≤ connectedWindowMs

def setReady (player : PlayerState) (ready : Bool) : PlayerState := { player with toReadiness := setMultiplayerPlayerReady ready }

/-- Nothing is written, and nothing is locked. -/
def blank (player : PlayerState) : PlayerState :=
  { player with draft := "", draftRevision := 0, locked := false, automatic := false, lockedAt := none }

end PlayerState

variable (ctx : GameContext) (room : PartyRoom)

namespace PartyRoom

def player (id : Nat) : Option PlayerState := room.players.find? (·.id == id)

def activePlayers : List PlayerState := room.players.filter (·.leftAt.isNone)

def updatePlayer (id : Nat) (change : PlayerState → PlayerState) : PartyRoom :=
  { room with players := updateFirst room.players (·.id == id) change }

def updateActive (change : PlayerState → PlayerState) : PartyRoom :=
  { room with players := room.players.map fun player => if player.leftAt.isNone then change player else player }

def phaseKind : MultiplayerRoomPhaseKind :=
  match room.phase with
  | .lobby => .lobby
  | .finished => .results
  | _ => .active

/-- The presenter counts as somebody who is there. -/
def changed (clock : Int) : PartyRoom :=
  { room with
    revision := room.revision + 1, sequence := room.sequence + 1
    expiresAt := multiplayerRoomExpiry room.phaseKind (max 1 room.activePlayers.length) room.expiresAt clock }

def transferHost (leavingId : Nat) (now : Int) : PartyRoom :=
  if room.hostPlayerId ≠ some leavingId then room
  else
    let eligible := orderBy (fun a b => a.joinedAt < b.joinedAt || (a.joinedAt == b.joinedAt && a.id ≤ b.id))
      (room.activePlayers.filter (·.id ≠ leavingId))
    { room with hostPlayerId := ((eligible.find? (·.connected now)).or eligible.head?).map (·.id) }

def wordFor : Option PartyWord := room.round.bind fun round => room.words.find? (·.id == round.wordId)

def lockAll (now clock : Int) : PartyRoom :=
  let locked := room.updateActive fun player =>
    if player.locked then player else { player with locked := true, automatic := true, lockedAt := some now }
  changed { locked with
    round := room.round.map fun round => { round with answerLocksAt := min round.answerLocksAt now, revealAt := now + 650 }
    phase := .locked } clock

def reveal (runtime : Runtime) (room : PartyRoom) (clock : Int) : PartyRoom :=
  match room.round, room.wordFor with
  | some round, some word =>
    let right (player : PlayerState) : Bool := runtime.normalizeAnswer player.draft == runtime.normalizeAnswer word.word
    changed { room with
      players := if round.scored then room.players
        else room.players.map fun player => if right player then { player with score := player.score + 1 } else player
      round := some { round with scored := true, nextRoundAt := some (clock + revealCooldownMs) }
      phase := .reveal } clock
  | _, _ => room

def wordOf (number : Nat) : Option PartyWord :=
  room.wordIds[room.wordCursor + number - 1]?.bind fun wordId => room.words.find? (·.id == wordId)

def startRound (now : Int) : Except String PartyRoom :=
  let number := (room.round.map (·.number)).getD 0 + 1
  if room.roundTotal < number then
    .ok (changed { room with phase := .finished, expiresAt := min room.expiresAt (now + finishedGraceMs) } ctx.clock)
  else
    match room.wordIds[room.wordCursor + number - 1]?, room.wordOf number with
    | some wordId, some _ =>
      let countdownStartsAt := now + 700
      let audioPlaysAt := countdownStartsAt + 3000
      let answerOpensAt := audioPlaysAt + 1300
      let answerLocksAt := answerOpensAt + room.answerSeconds * 1000
      .ok (changed { room.updateActive PlayerState.blank with
        round := some { roundId := (ctx.newId, number), number, wordId, countdownStartsAt, audioPlaysAt, answerOpensAt, answerLocksAt
                        revealAt := answerLocksAt + 650 }
        phase := .countdown } ctx.clock)
    | _, _ => .error "Word unavailable"

def isDue (phase : PartyPhase) (ends : RoundState → Option Int) (now : Int) : Bool :=
  room.phase == phase && (room.round.bind ends).any (· ≤ now)

def advance (now : Int) : Except String PartyRoom :=
  let opened := if room.isDue .countdown (some ·.answerOpensAt) now then changed { room with phase := .answer } ctx.clock else room
  let locked := if opened.isDue .answer (some ·.answerLocksAt) now then
    opened.lockAll ((opened.round.map (·.answerLocksAt)).getD now) ctx.clock else opened
  let revealed := if locked.isDue .locked (some ·.revealAt) now then locked.reveal ctx.runtime ctx.clock else locked
  if revealed.isDue .reveal (·.nextRoundAt) now then
    revealed.startRound ctx ((revealed.round.bind (·.nextRoundAt)).getD now) else .ok revealed

/-- The finished game is banked, and the cursor moves on; the deck starts over, in another order,
where it has no whole game left. -/
def resetPartyForRematch : PartyRoom :=
  let cursor := room.wordCursor + room.roundTotal
  let dealt := if room.wordIds.length < cursor + room.roundTotal then { room with wordIds := shuffle ctx.pick room.wordIds, wordCursor := 0 }
    else { room with wordCursor := cursor }
  { dealt with
    players := room.activePlayers.map fun player =>
      { player.blank with sessionScore := player.sessionScore + player.score, score := 0, integrityRoundIds := [] }
    gameNumber := room.gameNumber + 1
    round := none
    sentenceCluesRemaining := 3 }

end PartyRoom

/-! ### A new room -/

structure CustomDeck where
  id : String
  name : String
  words : List PartyWord

structure CreateInput where
  deckId : String
  customDeck : Option CustomDeck := none
  recentWordIds : List String := []
  answerSeconds : Int
  roundTotal : Int
  officialResultChannelId : Option Nat := none

/-- The words of a deck of one's own: blank ones go, and so do later spellings of the same word. -/
def customWords (runtime : Runtime) : List String → List PartyWord → List PartyWord
  | _, [] => []
  | seen, word :: words =>
    let key := runtime.normalizeAnswer word.word
    if key = "" ∨ key ∈ seen then customWords runtime seen words else word :: customWords runtime (key :: seen) words

def deckOf (runtime : Runtime) (catalogue : Catalogue) (input : CreateInput) : Option PartyDeck :=
  match input.customDeck with
  | some custom =>
    let words := customWords runtime [] custom.words
    if 3 ≤ words.length then some { id := custom.id, name := if trim custom.name = "" then "My words" else trim custom.name, words }
    else catalogue.partyDeck input.deckId
  | none => catalogue.partyDeck input.deckId

def createPartyRoom (catalogue : Catalogue) (input : CreateInput) : Except String PartyRoom :=
  match deckOf ctx.runtime catalogue input with
  | none => .error "Deck unavailable"
  | some deck =>
    let freshWords := deck.words.filter (!input.recentWordIds.contains ·.id)
    let previousWords := deck.words.filter (input.recentWordIds.contains ·.id)
    let words := shuffle ctx.pick freshWords ++ shuffle (fun index => ctx.pick (freshWords.length + index)) previousWords
    .ok {
      roomId := ctx.newId
      officialResultChannelId := input.officialResultChannelId
      deckId := deck.id
      deckName := deck.name
      answerSeconds := max 8 (min 60 input.answerSeconds)
      roundTotal := (max 1 (min (words.length : Int) input.roundTotal)).toNat
      wordIds := words.map (·.id)
      words
      usesLocalSpeech := input.customDeck.isSome
      phase := .lobby
      revision := 1
      sequence := 1
      presenterHash := .token (ctx.token 0 0)
      joinHash := .token (ctx.token 0 1)
      expiresAt := multiplayerLobbyExpiresAt ctx.clock 1
      sentenceCluesRemaining := 3
      players := []
      hostPlayerId := none
      round := none
      processedActions := []
      gameNumber := 1
      wordCursor := 0 }

end MilkAndHenny.SpellingParty
