import Mathlib.Data.List.Nodup

/-! The official results of the games, as they are sealed for the outbox. -/

namespace MilkAndHenny.Multiplayer

inductive OfficialGameKind where
  | centre | twin | drawCountry | sameBrain | spellingParty | liars | pitches | headsUp | spellingBee | icebreaker | familyFeud | hotAndCold
deriving DecidableEq

inductive OfficialGameResultScope where
  | round | match_ | game
deriving DecidableEq

inductive OfficialOutcome where
  | completed | didNotFinish | withdrawn | disqualified
deriving DecidableEq

inductive OfficialOperation where
  | record | cancel
deriving DecidableEq

/-- `score` is no field of the type, but one that a game gives its players. -/
structure OfficialResultPlayer where
  playerId : Nat
  outcome : OfficialOutcome
  rawScore : Option Int := none
  score : Option Int := none
  placement : Option Nat := none
  durationMs : Option Int := none
  won : Option Bool := none
deriving DecidableEq

structure OfficialGameResultDraft where
  gameKind : OfficialGameKind
  gameInstanceId : Nat
  resultId : Nat
  scope : OfficialGameResultScope
  players : List OfficialResultPlayer
deriving DecidableEq

/-- `Omit<OfficialGameResultEnvelope, "payloadHash">`. -/
structure UnsignedGameResult extends OfficialGameResultDraft where
  channelId : Nat
  revision : Nat
  operation : OfficialOperation
  committedAt : Int
deriving DecidableEq

structure PayloadHash where
  payload : UnsignedGameResult
deriving DecidableEq

/-- It lists the fields of the type. -/
def payloadWithoutHash (unsigned : UnsignedGameResult) : UnsignedGameResult :=
  { unsigned with players := unsigned.players.map fun player => { player with score := none } }

def officialResultPayloadHash (unsigned : UnsignedGameResult) : PayloadHash := ⟨payloadWithoutHash unsigned⟩

structure OfficialGameResultEnvelope extends UnsignedGameResult where
  payloadHash : PayloadHash

def sealOfficialGameResult (channelId revision : Nat) (result : OfficialGameResultDraft) (committedAt : Int) : OfficialGameResultEnvelope :=
  let unsigned : UnsignedGameResult := { result with channelId, revision, operation := .record, committedAt }
  { unsigned with payloadHash := officialResultPayloadHash unsigned }

namespace OfficialGameResultEnvelope

def key (envelope : OfficialGameResultEnvelope) : Nat × Nat × Nat := (envelope.channelId, envelope.resultId, envelope.revision)

def rawScores (envelope : OfficialGameResultEnvelope) : List (Option Int) := envelope.players.map (·.rawScore)

end OfficialGameResultEnvelope

/-- `revision integer not null check (revision > 0)`. -/
def isRevision (revision : Nat) : Bool := 0 < revision && revision ≤ 2147483647

inductive TransitionError where
  | invalidRevision | conflictingRevision | persistsExpiry
deriving DecidableEq

/-- `on conflict do nothing`, where what is there already has the same hash. -/
def insertResult (outbox : List OfficialGameResultEnvelope) (envelope : OfficialGameResultEnvelope) :
    Except TransitionError (List OfficialGameResultEnvelope) :=
  if !isRevision envelope.revision then .error .invalidRevision
  else
    match outbox.find? (·.key == envelope.key) with
    | none => .ok (outbox ++ [envelope])
    | some existing => if existing.payloadHash = envelope.payloadHash then .ok outbox else .error .conflictingRevision

end MilkAndHenny.Multiplayer
