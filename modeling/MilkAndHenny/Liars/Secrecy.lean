import MilkAndHenny.Liars.Actions

/-! What a snapshot keeps to itself. Two rooms that only differ in what the other living
players keep secret look the same to the town and to the presenter, until the ending. -/

namespace MilkAndHenny.Liars
open Library

variable {word decoyWord : Option String} {players : List PlayerState}

def PlayerState.HasSecretsOf (counted : Prop) (player other : PlayerState) : Prop :=
  ∃ role previousRole word nightTarget previousNightTarget report knowledge vote vigilanteUsed guiltPending,
    other = { player with
      role, previousRole, word, nightTarget, previousNightTarget, report, knowledge, vote, vigilanteUsed, guiltPending } ∧
    (counted → vote = player.vote)

namespace LiarsRoom
variable {room other : LiarsRoom} {viewerId : Option Nat} {now : Int} {player known : PlayerState}

/-- Two records that a viewer cannot tell apart: the same, or those of another living player. -/
def Indistinct (room : LiarsRoom) (viewerId : Option Nat) (player other : PlayerState) : Prop :=
  player = other ∨
    player.alive ∧ some player.id ≠ viewerId ∧ player.HasSecretsOf (room.phase = .verdict) other

/-- Rooms that agree on all that is public and on the viewer's own record. -/
def AgreesFor (viewerId : Option Nat) (room other : LiarsRoom) : Prop :=
  ∃ players word decoyWord, other = { room with players, word, decoyWord } ∧
    Forall₂ (room.Indistinct viewerId) room.players players

def TownOrPresenter (room : LiarsRoom) (viewerId : Option Nat) : Prop :=
  ∀ viewer ∈ viewerId.bind room.player, viewer.alive ∧ viewer.isMafia = false

/-- What the table sees of a player. -/
structure SameFace (player other : PlayerState) : Prop where
  id : other.id = player.id
  name : other.name = player.name
  alive : other.alive = player.alive
  lastSeenAt : other.lastSeenAt = player.lastSeenAt
  ready : other.ready = player.ready
  roleWishes : other.roleWishes = player.roleWishes
  deathRound : other.deathRound = player.deathRound
  deathCause : other.deathCause = player.deathCause
  savedCount : other.savedCount = player.savedCount
  nightLocked : other.nightLocked = player.nightLocked
  readyToVote : other.readyToVote = player.readyToVote
  pointedAt : other.pointedAt = player.pointedAt
  leftAt : other.leftAt = player.leftAt

theorem Indistinct.sameFace (indistinct : room.Indistinct viewerId player known) : SameFace player known := by
  rcases indistinct with rfl | ⟨-, -, secrets⟩
  · constructor <;> rfl
  · obtain ⟨role, previousRole, word, target, previous, report, knowledge, vote, used, guilt, rfl, -⟩ := secrets
    constructor <;> rfl

theorem Indistinct.votes (indistinct : room.Indistinct viewerId player known)
    (counted : room.phase = .verdict) : known.vote = player.vote := by
  rcases indistinct with rfl | ⟨-, -, secrets⟩
  · rfl
  · obtain ⟨role, previousRole, word, target, previous, report, knowledge, vote, used, guilt, rfl, kept⟩ := secrets
    exact kept counted

section
variable (pairs : Forall₂ (room.Indistinct viewerId) room.players players)
include pairs

theorem living_pairs : Forall₂ (room.Indistinct viewerId) room.living (players.filter (·.alive)) :=
  List.rel_filter (fun _ _ indistinct => (by rw [indistinct.sameFace.alive] : _ = true ↔ _ = true)) pairs

theorem viewer_same : viewerId.bind room.player = viewerId.bind ({ room with players, word, decoyWord } : LiarsRoom).player := by
  cases viewerId with
  | none => rfl
  | some id =>
    refine find?_pairs pairs (fun player known pair => by rw [pair.sameFace.id]) fun player known pair same => ?_
    rcases pair with rfl | ⟨-, other, -⟩
    · rfl
    · exact absurd (congrArg some (eq_of_beq same)) other

theorem marksFor_same {player known : PlayerState} (face : SameFace player known) :
    room.marksFor player = ({ room with players, word, decoyWord } : LiarsRoom).marksFor known := by
  have pointed : (room.players.any fun other => other.alive && other.pointedAt == some player.id) =
      players.any fun other => other.alive && other.pointedAt == some player.id :=
    any_pairs pairs fun _ _ pair => by rw [pair.sameFace.alive, pair.sameFace.pointedAt]
  simp [marksFor, face.id, face.name, face.alive, pointed]

theorem livingCount_same {p : PlayerState → Bool} (same : ∀ player known, room.Indistinct viewerId player known → p player = p known) :
    room.living.countP p = (players.filter (·.alive)).countP p := countP_pairs (living_pairs pairs) same

end

theorem maySeeRole_hidden {viewer : Option PlayerState} {subject : PlayerState} (ongoing : room.phase ≠ .ending)
    (alive : subject.alive) (town : ∀ seer ∈ viewer, seer.alive ∧ seer.isMafia = false ∧ seer.id ≠ subject.id) :
    room.maySeeRole viewer subject = false := by
  cases viewer with
  | none => simp [maySeeRole, ongoing]
  | some seer =>
    obtain ⟨living, side, different⟩ := town seer rfl
    simp [maySeeRole, ongoing, alive, living, side, different]

theorem summaryOf_same (pairs : Forall₂ (room.Indistinct viewerId) room.players players) (ongoing : room.phase ≠ .ending)
    (town : room.TownOrPresenter viewerId) (pair : room.Indistinct viewerId player known) :
    room.summaryOf (viewerId.bind room.player) now player =
      ({ room with players, word, decoyWord } : LiarsRoom).summaryOf (viewerId.bind room.player) now known := by
  have face := pair.sameFace
  have role : (if room.maySeeRole (viewerId.bind room.player) player then player.role else none) =
      if room.maySeeRole (viewerId.bind room.player) known then known.role else none := by
    rcases pair with rfl | ⟨alive, other, -⟩
    · rfl
    · have stranger : ∀ seer ∈ viewerId.bind room.player, seer.id ≠ player.id := fun seer seated same => by
        obtain ⟨id, rfl, found⟩ := bind_eq_some_iff.mp seated
        exact other (by rw [← same, player_id found])
      rw [maySeeRole_hidden ongoing alive fun seer seated => ⟨(town seer seated).1, (town seer seated).2, stranger seer seated⟩,
        maySeeRole_hidden ongoing (face.alive ▸ alive) fun seer seated =>
          ⟨(town seer seated).1, (town seer seated).2, face.id ▸ stranger seer seated⟩]
      rfl
  have votes (counted : room.phase = .verdict) : room.living.countP (·.vote == some player.id) =
      (players.filter (·.alive)).countP (·.vote == some player.id) :=
    livingCount_same pairs fun _ _ pair => by rw [pair.votes counted]
  have counted : (if room.phase = .verdict ∨ room.phase = .ending then
        some (room.living.countP (·.vote == some player.id)) else none) =
      if room.phase = .verdict ∨ room.phase = .ending then
        some ((players.filter (·.alive)).countP (·.vote == some player.id)) else none := by
    split
    · next shown => rw [votes (shown.resolve_right ongoing)]
    · rfl
  simp only [summaryOf, PlayerState.connected, face.id, face.name, face.alive, face.lastSeenAt, face.ready, face.deathRound,
    face.deathCause, face.savedCount, face.leftAt, ← marksFor_same pairs face, LiarsPlayerSummary.mk.injEq, true_and]
  exact ⟨role, counted⟩

theorem liarsTargetableIds_town {input : LiarsTargetInput} {living : List (Nat × LiarsRole)}
    (town : liarsRoleSide input.role ≠ .mafia) (same : input.living.map Prod.fst = living.map Prod.fst) :
    liarsTargetableIds input = liarsTargetableIds { input with living } := by
  have ids (players : List (Nat × LiarsRole)) : liarsTargetableIds { input with living := players } =
      if (liarsRoles input.role).actionLabel.isNone then []
      else (players.map Prod.fst).filter fun playerId =>
        if input.role == .doctor && !input.doctorRepeatTarget && input.previousTargetId == some playerId then false
        else if playerId = input.actorId then (liarsRoles input.role).selfTarget else true := by
    have side : ((liarsRoles input.role).side == LiarsSide.mafia) = false := by simpa [liarsRoleSide] using town
    simp only [liarsTargetableIds, side, Bool.and_false, Bool.false_and, Bool.not_false, filter_map]
    rfl
  have listed := ids input.living
  rw [same, ← ids living] at listed
  exact listed

theorem privateOf_same (pairs : Forall₂ (room.Indistinct viewerId) room.players players) {viewer : PlayerState}
    (town : viewer.isMafia = false) :
    room.privateOf viewer now = ({ room with players, word, decoyWord } : LiarsRoom).privateOf viewer now := by
  have living : (room.living.map fun player => (player.id, player.played)).map Prod.fst =
      ((players.filter (·.alive)).map fun player => (player.id, player.played)).map Prod.fst := by
    simp only [map_map]
    exact map_pairs (living_pairs pairs) fun _ _ pair => pair.sameFace.id.symm
  have targets : (viewer.role.elim [] fun role => liarsTargetableIds {
        mode := room.mode, role, actorId := viewer.id, living := room.living.map fun player => (player.id, player.played)
        previousTargetId := viewer.previousNightTarget, doctorRepeatTarget := room.toggles.doctorRepeatTarget }) =
      viewer.role.elim [] fun role => liarsTargetableIds {
        mode := room.mode, role, actorId := viewer.id
        living := (players.filter (·.alive)).map fun player => (player.id, player.played)
        previousTargetId := viewer.previousNightTarget, doctorRepeatTarget := room.toggles.doctorRepeatTarget } := by
    cases dealt : viewer.role with
    | none => rfl
    | some =>
      refine liarsTargetableIds_town (fun mafia => ?_) living
      simp [PlayerState.isMafia, dealt, mafia] at town
  have allies (room : LiarsRoom) : room.allyIds viewer = [] := by simp [allyIds, town]
  simp only [privateOf, allies, town, targets, Bool.false_and, false_eq_true, ↓reduceIte]
  rfl

theorem roleWishesOf_same (pairs : Forall₂ (room.Indistinct viewerId) room.players players) (viewer : Option PlayerState) :
    room.roleWishesOf viewer = ({ room with players, word, decoyWord } : LiarsRoom).roleWishesOf viewer := by
  have wanted (role : LiarsRole) : room.players.countP (·.roleWishes.contains role) = players.countP (·.roleWishes.contains role) :=
    countP_pairs pairs fun _ _ pair => by rw [pair.sameFace.roleWishes]
  simp only [roleWishesOf, wanted, pairs.length_eq]

end LiarsRoom

/-- Before the ending, a living player of the town and the presenter see the same of any two
rooms that differ only in what the other living players keep secret. -/
theorem snapshot_keepsSecrets {room other : LiarsRoom} {viewerId : Option Nat} (agrees : room.AgreesFor viewerId other)
    (ongoing : room.phase ≠ .ending) (town : room.TownOrPresenter viewerId) (now : Int) :
    room.snapshot viewerId now = other.snapshot viewerId now := by
  obtain ⟨players, word, decoyWord, rfl, pairs⟩ := agrees
  have viewer : viewerId.bind room.player = viewerId.bind ({ room with players, word, decoyWord } : LiarsRoom).player :=
    LiarsRoom.viewer_same pairs
  have faces : room.players.map (room.summaryOf (viewerId.bind room.player) now) =
      players.map (({ room with players, word, decoyWord } : LiarsRoom).summaryOf (viewerId.bind room.player) now) :=
    map_pairs pairs fun _ _ pair => LiarsRoom.summaryOf_same pairs ongoing town pair
  have acted : room.living.countP (·.nightLocked) = (players.filter (·.alive)).countP (·.nightLocked) :=
    LiarsRoom.livingCount_same pairs fun _ _ pair => pair.sameFace.nightLocked.symm
  have ready : room.living.countP (·.readyToVote) = (players.filter (·.alive)).countP (·.readyToVote) :=
    LiarsRoom.livingCount_same pairs fun _ _ pair => pair.sameFace.readyToVote.symm
  have living : room.living.length = (players.filter (·.alive)).length := (LiarsRoom.living_pairs pairs).length_eq
  have seen : (viewerId.bind room.player).filter (!·.alive) = none := Option.filter_eq_none_iff.mpr fun seer seated => by
    simp [(town seer seated).1]
  have own : (viewerId.bind room.player).map (room.privateOf · now) =
      (viewerId.bind room.player).map (({ room with players, word, decoyWord } : LiarsRoom).privateOf · now) :=
    Option.map_congr fun seer seated => LiarsRoom.privateOf_same pairs (town seer seated).2
  have wishes : room.roleWishesOf (viewerId.bind room.player) =
      ({ room with players, word, decoyWord } : LiarsRoom).roleWishesOf (viewerId.bind room.player) :=
    LiarsRoom.roleWishesOf_same pairs _
  have ending : room.endingOf = ({ room with players, word, decoyWord } : LiarsRoom).endingOf := by
    simp [LiarsRoom.endingOf, ongoing]
  simp only [LiarsRoom.snapshot, ← viewer, faces, acted, ready, living, seen, own, wishes, ending]
  rfl

/-- Five players who have just been dealt their roles; Ada, with the id 2, is the doctor. -/
def justDealt : LiarsRoom :=
  (Command.byHost 2 1 (.start [])).apply (lobbyOf .mafia {} ["Ada", "Bo", "Cy", "Di", "Em"])

def dealtVillagers : LiarsRoom :=
  { justDealt with
    players := justDealt.players.map fun player =>
      if player.id = 2 then player else { player with role := some .villager, vote := some 2 } }

theorem snapshot_keepsSecrets_justDealt : justDealt.players ≠ dealtVillagers.players ∧
    justDealt.snapshot (some 2) 3 = dealtVillagers.snapshot (some 2) 3 := by
  refine ⟨by decide +kernel, snapshot_keepsSecrets ?_ (by decide +kernel) (fun viewer seated => ?_) 3⟩
  · refine ⟨dealtVillagers.players, justDealt.word, justDealt.decoyWord, rfl, ?_⟩
    refine forall₂_map_right_iff.mpr (forall₂_same.mpr fun player seated => ?_)
    have alive : ∀ player ∈ justDealt.players, player.alive := by decide +kernel
    have uncounted : justDealt.phase ≠ .verdict := by decide +kernel
    by_cases doctor : player.id = 2
    · exact .inl (by simp [doctor])
    · refine .inr ⟨alive player seated, fun same => doctor (some.inj same), ?_⟩
      rw [if_neg doctor]
      exact ⟨_, _, _, _, _, _, _, _, _, _, rfl, fun counted => absurd counted uncounted⟩
  · have doctors : ∀ viewer ∈ justDealt.player 2, viewer.alive ∧ viewer.isMafia = false := by decide +kernel
    exact doctors viewer seated

end MilkAndHenny.Liars
