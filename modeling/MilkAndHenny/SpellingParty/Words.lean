import MilkAndHenny.Library.Machine
import MilkAndHenny.SpellingParty.Actions

/-! The words of a party: a game deals its own part of the deck, and the next game the part after it,
until no whole part is left. -/

namespace MilkAndHenny.SpellingParty
open Library Multiplayer

variable {ctx : GameContext} {room : PartyRoom}

/-! ### Beats -/

/-- The parts of the requests: the clock drives a room on before and after each command. -/
inductive Beat where
  | advance (ctx : GameContext) (now : Int)
  | join (ctx : GameContext) (input : PartyRoom.JoinInput)
  | present (ctx : GameContext) (actionId : Nat) (action : PartyPresenterAction)
  | play (ctx : GameContext) (playerId actionId : Nat) (action : PartyPlayerAction)
  | touch (ctx : GameContext) (playerId : Option Nat)
  | attend (ctx : GameContext) (playerId : Option Nat) (presenterToken : Option Secret)

def Beat.step (room : PartyRoom) : Beat → Except String PartyRoom
  | .advance ctx now => room.advance ctx now
  | .join ctx input => .ok (room.joinPartyRoom ctx input).2
  | .present ctx actionId action => (room.presented ctx actionId action).map (·.2)
  | .play ctx playerId actionId action => .ok (room.played ctx playerId actionId action).2
  | .touch ctx playerId => .ok (room.touched ctx playerId)
  | .attend ctx playerId presenterToken => .ok (room.attended ctx playerId presenterToken)

def Beat.next (beat : Beat) (room : PartyRoom) : PartyRoom :=
  match beat.step room with
  | .ok after => after
  | .error _ => room

theorem handle_beats (room : PartyRoom) (request : Request) : ∃ beats : List Beat, request.handle room = beats.foldlM Beat.step room := by
  cases request with
  | join ctx input => exact ⟨[.join ctx input], rfl⟩
  | read ctx playerId credential presenterToken =>
    rw [Request.handle, PartyRoom.readPartySnapshot.eq_def]
    extract_lets authentic
    split
    · exact ⟨[], rfl⟩
    · refine ⟨[.touch ctx playerId, .advance ctx ctx.clock, .attend ctx playerId presenterToken, .advance ctx ctx.clock], ?_⟩
      simp only [List.foldlM, Beat.step, bind_pure]
      rfl
  | present ctx presenterToken actionId action =>
    rw [Request.handle, PartyRoom.applyPresenterAction]
    split
    · exact ⟨[], rfl⟩
    · refine ⟨[.advance ctx ctx.now, .present ctx actionId action, .advance ctx ctx.clock], ?_⟩
      simp only [List.foldlM, Beat.step]
      cases room.advance ctx ctx.now with
      | error => rfl
      | ok advanced =>
        change Except.map _ (Except.bind (advanced.presented ctx actionId action) _) = Except.bind (Except.map _ _) _
        cases advanced.presented ctx actionId action with
        | error => rfl
        | ok decided =>
          change Except.map _ (Except.bind (decided.2.advance ctx ctx.clock) _) = Except.bind (decided.2.advance ctx ctx.clock) _
          cases decided.2.advance ctx ctx.clock <;> rfl
  | play ctx playerId playerToken actionId action =>
    rw [Request.handle, PartyRoom.applyPlayerAction]
    split
    · exact ⟨[], rfl⟩
    · cases read : room.advance ctx ctx.now with
      | error => exact ⟨[.advance ctx ctx.now], by rw [List.foldlM, Beat.step, read]; rfl⟩
      | ok advanced =>
        change ∃ beats : List Beat, Except.map _ (Except.bind
          ((advanced.played ctx playerId actionId action).2.viewed ctx (advanced.played ctx playerId actionId action).1) _) = _
        cases shown : (advanced.played ctx playerId actionId action).1 with
        | unavailable =>
          refine ⟨[.advance ctx ctx.now, .play ctx playerId actionId action], ?_⟩
          simp only [List.foldlM, Beat.step, read]
          rfl
        | rejected | accepted =>
          refine ⟨[.advance ctx ctx.now, .play ctx playerId actionId action, .advance ctx ctx.clock], ?_⟩
          simp only [List.foldlM, Beat.step, read]
          change Except.map _ (Except.bind ((advanced.played ctx playerId actionId action).2.advance ctx ctx.clock) _) =
            Except.bind ((advanced.played ctx playerId actionId action).2.advance ctx ctx.clock) _
          cases (advanced.played ctx playerId actionId action).2.advance ctx ctx.clock <;> rfl

/-! ### Plans -/

/-- What the words of a room are dealt by. -/
structure Plan where
  roundTotal : Nat
  wordIds : List String
  words : List PartyWord
  wordCursor : Nat
  gameNumber : Nat
  /-- The number of the round, and its word. -/
  round : Option (Nat × String)

def PartyRoom.plan (room : PartyRoom) : Plan where
  roundTotal := room.roundTotal
  wordIds := room.wordIds
  words := room.words
  wordCursor := room.wordCursor
  gameNumber := room.gameNumber
  round := room.round.map fun round => (round.number, round.wordId)

namespace Plan

def number (plan : Plan) : Nat := (plan.round.map (·.1)).getD 0

/-- The game lies within the deck, and every id of the deck has its word. -/
structure Sound (plan : Plan) : Prop where
  known : ∀ wordId ∈ plan.wordIds, ∃ word ∈ plan.words, word.id = wordId
  inside : plan.wordCursor + plan.roundTotal ≤ plan.wordIds.length
  begun : plan.number ≤ plan.roundTotal

inductive Course (plan : Plan) : Plan → Prop
  | same : Course plan plan
  | dealt {wordId : String} (within : plan.number < plan.roundTotal)
      (found : plan.wordIds[plan.wordCursor + plan.number]? = some wordId) :
      Course plan { plan with round := some (plan.number + 1, wordId) }

/-- The next game has the next part of the deck, or the first part of one in another order. -/
inductive Rematch (plan : Plan) : Plan → Prop
  | goesOn (fits : plan.wordCursor + plan.roundTotal + plan.roundTotal ≤ plan.wordIds.length) :
      Rematch plan { plan with wordCursor := plan.wordCursor + plan.roundTotal, gameNumber := plan.gameNumber + 1, round := none }
  | startsOver {wordIds : List String} (order : wordIds.Perm plan.wordIds)
      (short : plan.wordIds.length < plan.wordCursor + plan.roundTotal + plan.roundTotal) :
      Rematch plan { plan with wordIds, wordCursor := 0, gameNumber := plan.gameNumber + 1, round := none }

section
variable {plan after : Plan}

theorem Course.keeps (course : Course plan after) (sound : plan.Sound) : after.Sound := by
  cases course with
  | same => exact sound
  | dealt within => exact ⟨sound.known, sound.inside, within⟩

theorem Rematch.keeps (rematch : Rematch plan after) (sound : plan.Sound) : after.Sound := by
  cases rematch with
  | goesOn fits => exact ⟨sound.known, fits, Nat.zero_le _⟩
  | startsOver order =>
    refine ⟨fun wordId mem => sound.known wordId (order.mem_iff.mp mem), ?_, Nat.zero_le _⟩
    rw [Nat.zero_add, order.length_eq]
    exact (Nat.le_add_left ..).trans sound.inside

end

end Plan

/-! ### What a beat does to the plan -/

section
variable {after : PartyRoom}

@[simp] theorem changed_plan (room : PartyRoom) (clock : Int) : (room.changed clock).plan = room.plan := rfl

@[simp] theorem rememberAction_plan (room : PartyRoom) (actionId : Nat) : (room.rememberAction actionId).plan = room.plan := by
  simp [PartyRoom.rememberAction, PartyRoom.plan]

@[simp] theorem lockAll_plan (room : PartyRoom) (now clock : Int) : (room.lockAll now clock).plan = room.plan := by
  simp [PartyRoom.lockAll, PartyRoom.plan, PartyRoom.changed, PartyRoom.updateActive, Function.comp_def]

@[simp] theorem reveal_plan (runtime : Runtime) (room : PartyRoom) (clock : Int) : (room.reveal runtime clock).plan = room.plan := by
  unfold PartyRoom.reveal
  split
  · next round word asked _ => simp [PartyRoom.plan, PartyRoom.changed, asked]
  · rfl

@[simp] theorem transferHost_plan (room : PartyRoom) (leavingId : Nat) (now : Int) : (room.transferHost leavingId now).plan = room.plan := by
  unfold PartyRoom.transferHost
  split <;> rfl

variable (ctx : GameContext)

@[simp] theorem requestReadiness_plan (room : PartyRoom) (unconfirmed : List PlayerState) :
    (room.requestReadiness ctx unconfirmed).plan = room.plan := by
  unfold PartyRoom.requestReadiness
  dsimp only
  split <;> rfl

theorem leave_plan (room : PartyRoom) (playerId : Nat) : (room.leave ctx playerId).plan = room.plan := by
  have handed := transferHost_plan room playerId ctx.now
  unfold PartyRoom.leave
  split
  · exact handed
  · rw [changed_plan]
    split
    · exact handed
    · split
      · exact (lockAll_plan ..).trans handed
      · exact handed

theorem roundAction_plan {room : PartyRoom} {round : RoundState} (asked : room.round = some round) (player : PlayerState)
    (action : PartyPlayerAction) : (room.roundAction ctx round player action).2.plan = room.plan := by
  unfold PartyRoom.roundAction
  cases action with
  | draft =>
    dsimp only
    split
    · rfl
    · split <;> rfl
  | lock =>
    dsimp only
    split
    · rfl
    · split
      · exact lockAll_plan ..
      · rfl
  | integrity =>
    dsimp only
    split <;> rfl
  | clue =>
    dsimp only
    split
    · rfl
    · simp [PartyRoom.plan, PartyRoom.changed, asked]
  | leave | rename | readiness => rfl

theorem playerAction_plan (room : PartyRoom) (player : PlayerState) (action : PartyPlayerAction) :
    (room.playerAction ctx player action).2.plan = room.plan := by
  unfold PartyRoom.playerAction
  cases action with
  | leave => exact leave_plan ctx room player.id
  | rename | readiness =>
    dsimp only
    split
    · rfl
    · split <;> rfl
  | draft | lock | integrity | clue =>
    dsimp only
    split
    · next round asked =>
      split
      · exact roundAction_plan ctx asked player _
      · rfl
    · rfl

theorem played_plan (room : PartyRoom) (playerId actionId : Nat) (action : PartyPlayerAction) :
    (room.played ctx playerId actionId action).2.plan = room.plan := by
  unfold PartyRoom.played
  split
  · rfl
  · dsimp only
    split
    · next player _ =>
      split
      · rfl
      · have kept := playerAction_plan ctx (room.updatePlayer playerId fun row => { row with lastSeenAt := ctx.now }) player action
        split
        · exact (rememberAction_plan ..).trans kept
        · exact kept
    · rfl

theorem startRound_course (sound : room.plan.Sound) (now : Int) :
    ∃ after, room.startRound ctx now = .ok after ∧ room.plan.Course after.plan := by
  have number : (room.round.map (·.number)).getD 0 = room.plan.number := by
    simp [PartyRoom.plan, Plan.number, Function.comp_def]
  unfold PartyRoom.startRound
  rw [number]
  dsimp only
  split
  · exact ⟨_, rfl, .same⟩
  · next within =>
    have within : room.plan.number < room.roundTotal := Nat.lt_of_succ_le (not_lt.mp within)
    have place : room.wordCursor + room.plan.number < room.wordIds.length :=
      (Nat.add_lt_add_left within _).trans_le sound.inside
    have found : room.wordIds[room.wordCursor + room.plan.number]? = some room.wordIds[room.wordCursor + room.plan.number] :=
      getElem?_eq_getElem place
    obtain ⟨word, listed, same⟩ := sound.known _ (getElem_mem place)
    have spoken : (room.wordOf (room.plan.number + 1)).isSome := by
      rw [PartyRoom.wordOf, ← Nat.add_assoc, Nat.add_sub_cancel, found, bind_some, find?_isSome]
      exact ⟨word, listed, beq_iff_eq.mpr same⟩
    obtain ⟨other, spoken⟩ := isSome_iff_exists.mp spoken
    rw [← Nat.add_assoc, Nat.add_sub_cancel, found, spoken]
    exact ⟨_, rfl, .dealt within found⟩

theorem advance_course (sound : room.plan.Sound) (now : Int) :
    ∃ after, room.advance ctx now = .ok after ∧ room.plan.Course after.plan := by
  unfold PartyRoom.advance
  extract_lets opened locked revealed
  have opens : opened.plan = room.plan := by
    unfold opened
    split <;> rfl
  have locks : locked.plan = room.plan := by
    unfold locked
    split
    · exact (lockAll_plan ..).trans opens
    · exact opens
  have reveals : revealed.plan = room.plan := by
    unfold revealed
    split
    · exact (reveal_plan ..).trans locks
    · exact locks
  split
  · rw [← reveals] at sound ⊢
    exact startRound_course ctx sound _
  · exact ⟨revealed, rfl, by rw [reveals]; exact .same⟩

theorem reset_rematch (room : PartyRoom) : room.plan.Rematch (room.resetPartyForRematch ctx).plan := by
  unfold PartyRoom.resetPartyForRematch
  dsimp only
  split
  · next short => exact .startsOver (shuffle_perm ctx.pick room.wordIds) short
  · next fits => exact .goesOn (not_lt.mp fits)

theorem join_plan (room : PartyRoom) (input : PartyRoom.JoinInput) : (room.joinPartyRoom ctx input).2.plan = room.plan := by
  unfold PartyRoom.joinPartyRoom
  extract_lets name
  split_ifs <;> rfl

theorem start_course (sound : room.plan.Sound) (removePlayerIds : List Nat) :
    ∃ result after, room.start ctx removePlayerIds = .ok (result, after) ∧ room.plan.Course after.plan := by
  unfold PartyRoom.start
  extract_lets unconfirmed error remainingPlayers left
  split
  · exact ⟨_, _, rfl, by rw [requestReadiness_plan]; exact .same⟩
  · split
    · exact ⟨_, _, rfl, .same⟩
    · have kept : left.plan = room.plan := by
        unfold left
        split <;> rfl
      split
      · exact ⟨_, _, rfl, by rw [kept]; exact .same⟩
      · rw [← kept] at sound
        obtain ⟨after, started, course⟩ := startRound_course ctx sound ctx.now
        exact ⟨.accepted, after, by rw [started]; rfl, by rwa [← kept]⟩

theorem presenterAction_course (action : PartyPresenterAction) (sound : room.plan.Sound) :
    ∃ result after, room.presenterAction ctx action = .ok (result, after) ∧ (room.plan.Course after.plan ∨
      ((action = .replay ∨ action = .lobby) ∧ room.phase = .finished) ∧ ∃ reset, room.plan.Rematch reset ∧ reset.Course after.plan) := by
  unfold PartyRoom.presenterAction
  cases action with
  | start removePlayerIds =>
    dsimp only
    split
    · obtain ⟨result, after, started, course⟩ := start_course ctx sound removePlayerIds
      exact ⟨result, after, started, .inl course⟩
    · exact ⟨_, _, rfl, .inl .same⟩
  | next =>
    dsimp only
    split
    · obtain ⟨after, started, course⟩ := startRound_course ctx sound ctx.now
      exact ⟨.accepted, after, by rw [started]; rfl, .inl course⟩
    · exact ⟨_, _, rfl, .inl .same⟩
  | replay =>
    dsimp only
    split
    · next finished =>
      have rematch := reset_rematch ctx room
      obtain ⟨after, started, course⟩ := startRound_course ctx (rematch.keeps sound) ctx.now
      exact ⟨.accepted, after, by rw [started]; rfl, .inr ⟨⟨.inl rfl, finished⟩, _, rematch, course⟩⟩
    · exact ⟨_, _, rfl, .inl .same⟩
  | lobby =>
    dsimp only
    split
    · next finished => exact ⟨_, _, rfl, .inr ⟨⟨.inr rfl, finished⟩, _, reset_rematch ctx room, .same⟩⟩
    · exact ⟨_, _, rfl, .inl .same⟩
  | pause | resume =>
    dsimp only
    split
    · next round asked =>
      split
      · refine ⟨_, _, rfl, .inl ?_⟩
        have kept : room.plan = { room.plan with round := some (round.number, round.wordId) } := by simp [PartyRoom.plan, asked]
        rw [kept]
        exact .same
      · exact ⟨_, _, rfl, .inl .same⟩
    · exact ⟨_, _, rfl, .inl .same⟩

/-- The beat starts the next game. -/
def Beat.Rematches (beat : Beat) (room : PartyRoom) : Prop :=
  match beat with
  | .present _ actionId .replay | .present _ actionId .lobby => room.phase = .finished ∧ actionId ∉ room.processedActions
  | _ => False

/-- No beat throws: it goes on with the game, or it starts the next one. -/
theorem step_course (beat : Beat) (sound : room.plan.Sound) :
    ∃ after, beat.step room = .ok after ∧ (room.plan.Course after.plan ∨
      beat.Rematches room ∧ ∃ reset, room.plan.Rematch reset ∧ reset.Course after.plan) := by
  cases beat with
  | advance ctx now =>
    obtain ⟨after, advanced, course⟩ := advance_course ctx sound now
    exact ⟨after, advanced, .inl course⟩
  | join =>
    refine ⟨_, rfl, .inl ?_⟩
    rw [join_plan]
    exact .same
  | present ctx actionId action =>
    change ∃ after, (room.presented ctx actionId action).map (·.2) = .ok after ∧ _
    unfold PartyRoom.presented
    split
    · exact ⟨room, rfl, .inl .same⟩
    · next new =>
      obtain ⟨result, after, acted, course⟩ := presenterAction_course ctx action sound
      rw [acted]
      refine ⟨_, rfl, ?_⟩
      have kept : (if result = .accepted then after.rememberAction actionId else after).plan = after.plan := by
        split
        · exact rememberAction_plan ..
        · rfl
      rw [kept]
      refine course.imp_right fun ⟨ended, reset, rematch, course⟩ => ⟨?_, reset, rematch, course⟩
      obtain ⟨rfl | rfl, finished⟩ := ended
      · exact ⟨finished, new⟩
      · exact ⟨finished, new⟩
  | play =>
    refine ⟨_, rfl, .inl ?_⟩
    rw [played_plan]
    exact .same
  | touch ctx playerId =>
    refine ⟨_, rfl, .inl ?_⟩
    cases playerId <;> exact .same
  | attend =>
    refine ⟨_, rfl, .inl ?_⟩
    unfold PartyRoom.attended
    split
    · exact .same
    · split <;> exact .same

end

/-! ### An evening -/

def wordDealt (room after : PartyRoom) : Option String :=
  if after.gameNumber = room.gameNumber ∧ after.round.map (·.number) = room.round.map (·.number) then none
  else after.round.map (·.wordId)

/-- A room with the words that it has dealt. -/
structure Evening where
  room : PartyRoom
  game : List String := []
  /-- Those since the deck was last whole. -/
  gone : List String := []

namespace Evening

def undealt (evening : Evening) : List String := evening.room.wordIds.filter (· ∉ evening.gone)

def gameBefore (evening : Evening) (after : PartyRoom) : List String :=
  if after.gameNumber = evening.room.gameNumber then evening.game else []

/-- The deck is whole again when a game starts with fewer undealt words than it has rounds. -/
def goneBefore (evening : Evening) (after : PartyRoom) : List String :=
  if after.gameNumber ≠ evening.room.gameNumber ∧ evening.undealt.length < evening.room.roundTotal then [] else evening.gone

def next (beat : Beat) (evening : Evening) : Evening :=
  let after := beat.next evening.room
  { room := after
    game := evening.gameBefore after ++ (wordDealt evening.room after).toList
    gone := evening.goneBefore after ++ (wordDealt evening.room after).toList }

def NewInGame (beat : Beat) (evening : Evening) : Prop :=
  ∀ wordId ∈ wordDealt evening.room (beat.next evening.room), wordId ∉ evening.gameBefore (beat.next evening.room)

/-- A word that the beat deals has not been dealt since the deck was last whole. -/
def NewInDeck (beat : Beat) (evening : Evening) : Prop :=
  ∀ wordId ∈ wordDealt evening.room (beat.next evening.room), wordId ∉ evening.goneBefore (beat.next evening.room)

end Evening

/-- A game that is followed by another one was played to its last word. -/
def Beat.PlayedOut (beat : Beat) (room : PartyRoom) : Prop :=
  beat.Rematches room → room.round.map (·.number) = some room.roundTotal

/-! ### The words of a deck -/

section
variable {words : List String} {place : Nat} {word : String}

theorem not_mem_take_of_nodup (distinct : words.Nodup) (found : words[place]? = some word) : word ∉ words.take place := by
  obtain ⟨inside, here⟩ := getElem?_eq_some_iff.mp found
  intro mem
  obtain ⟨other, before, same⟩ := List.mem_take_iff_getElem.mp mem
  have place' := (distinct.getElem_inj_iff).mp (same.trans here.symm)
  omega

theorem take_succ_of_getElem? (found : words[place]? = some word) : words.take (place + 1) = words.take place ++ [word] := by
  rw [take_add_one, found]
  rfl

theorem length_filter_take (distinct : words.Nodup) (count : Nat) :
    (words.filter (· ∉ words.take count)).length = words.length - count := by
  have left (first rest : List String) (distinct : (first ++ rest).Nodup) : (first ++ rest).filter (· ∉ first) = rest := by
    have apart := List.disjoint_of_nodup_append distinct
    rw [filter_append, filter_eq_nil_iff.mpr, nil_append, filter_eq_self.mpr]
    · exact fun word late => decide_eq_true fun early => apart early late
    · exact fun word early => by simpa using early
  have kept := left (words.take count) (words.drop count) (by rwa [List.take_append_drop])
  rw [List.take_append_drop] at kept
  rw [kept, List.length_drop]

end

namespace Plan
variable {plan reset after : Plan} {game : List String}

/-- `wordDealt`, by the plans. -/
def wordDealt (plan after : Plan) : Option String :=
  if after.gameNumber = plan.gameNumber ∧ after.round.map (·.1) = plan.round.map (·.1) then none else after.round.map (·.2)

/-- The words of a game are the first ones of its part of the deck. -/
structure InGame (plan : Plan) (game : List String) : Prop where
  sound : plan.Sound
  distinct : plan.wordIds.Nodup
  game : game = (plan.wordIds.drop plan.wordCursor).take plan.number

def InDeck (plan : Plan) (gone : List String) : Prop := gone = plan.wordIds.take (plan.wordCursor + plan.number)

theorem Course.gameNumber (course : Course plan after) : after.gameNumber = plan.gameNumber := by
  cases course <;> rfl

theorem Rematch.gameNumber (rematch : Rematch plan reset) : reset.gameNumber = plan.gameNumber + 1 ∧ reset.round = none := by
  cases rematch <;> exact ⟨rfl, rfl⟩

theorem Course.deals (course : Course plan after) (inGame : plan.InGame game) (gone : List String) :
    after.InGame (game ++ (plan.wordDealt after).toList) ∧ (∀ wordId ∈ plan.wordDealt after, wordId ∉ game) ∧
      (plan.InDeck gone → after.InDeck (gone ++ (plan.wordDealt after).toList) ∧ ∀ wordId ∈ plan.wordDealt after, wordId ∉ gone) := by
  obtain ⟨sound, distinct, rfl⟩ := inGame
  cases course with
  | same =>
    have none_ : plan.wordDealt plan = none := if_pos ⟨rfl, rfl⟩
    rw [none_]
    refine ⟨⟨sound, distinct, append_nil _⟩, nofun, ?_⟩
    rintro rfl
    exact ⟨append_nil _, nofun⟩
  | @dealt wordId within found =>
    have one : plan.wordDealt { plan with round := some (plan.number + 1, wordId) } = some wordId := by
      refine if_neg fun ⟨_, asked⟩ => ?_
      have asked : plan.round.map (·.1) = some (plan.number + 1) := asked.symm
      have number : plan.number = plan.number + 1 := by
        conv_lhs => rw [number, asked]
        rfl
      exact absurd number (Nat.ne_of_lt (Nat.lt_succ_self _))
    have here : (plan.wordIds.drop plan.wordCursor)[plan.number]? = some wordId := by rw [List.getElem?_drop, found]
    rw [one]
    refine ⟨⟨⟨sound.known, sound.inside, within⟩, distinct, (take_succ_of_getElem? here).symm⟩, ?_, ?_⟩
    · rintro _ ⟨⟩
      exact not_mem_take_of_nodup (distinct.sublist (List.drop_sublist _ _)) here
    · rintro rfl
      refine ⟨(take_succ_of_getElem? found).symm, ?_⟩
      rintro _ ⟨⟩
      exact not_mem_take_of_nodup distinct found

theorem Rematch.starts (rematch : Rematch plan reset) (inGame : plan.InGame game) (gone : List String) : reset.InGame [] ∧
    (plan.number = plan.roundTotal → plan.InDeck gone →
      reset.InDeck (if (plan.wordIds.filter (· ∉ gone)).length < plan.roundTotal then [] else gone)) := by
  have sound := rematch.keeps inGame.sound
  have deck := inGame.distinct
  cases rematch with
  | goesOn =>
    refine ⟨⟨sound, deck, rfl⟩, ?_⟩
    rintro played rfl
    have enough : ¬ plan.wordIds.length - (plan.wordCursor + plan.roundTotal) < plan.roundTotal := by omega
    rw [played, length_filter_take deck, if_neg enough]
    rfl
  | startsOver order =>
    refine ⟨⟨sound, order.nodup_iff.mpr deck, rfl⟩, ?_⟩
    rintro played rfl
    have few : plan.wordIds.length - (plan.wordCursor + plan.roundTotal) < plan.roundTotal := by
      have inside := inGame.sound.inside
      omega
    rw [played, length_filter_take deck, if_pos few]
    rfl

theorem wordDealt_rematch (rematch : Rematch plan reset) (course : Course reset after) : plan.wordDealt after = reset.wordDealt after := by
  obtain ⟨other, unasked⟩ := rematch.gameNumber
  have later : after.gameNumber ≠ plan.gameNumber := by
    rw [course.gameNumber, other]
    exact Nat.succ_ne_self _
  rw [wordDealt, if_neg fun same => later same.1, wordDealt, unasked]
  cases course with
  | same => simp [unasked]
  | dealt => simp

end Plan

/-! ### Every evening -/

namespace Evening
variable {beat : Beat} {evening : Evening}

theorem wordDealt_plan (room after : PartyRoom) : wordDealt room after = room.plan.wordDealt after.plan := by
  simp only [wordDealt, Plan.wordDealt, PartyRoom.plan, Option.map_map]
  rfl

theorem next_deals (inGame : evening.room.plan.InGame evening.game) :
    (next beat evening).room.plan.InGame (next beat evening).game ∧ NewInGame beat evening ∧
      (beat.PlayedOut evening.room → evening.room.plan.InDeck evening.gone →
        (next beat evening).room.plan.InDeck (next beat evening).gone ∧ NewInDeck beat evening) := by
  obtain ⟨after, stepped, course⟩ := step_course beat inGame.sound
  have next_ : beat.next evening.room = after := by rw [Beat.next, stepped]
  simp only [next, NewInGame, NewInDeck, next_, wordDealt_plan]
  rcases course with course | ⟨rematches, reset, rematch, course⟩
  · have same : after.gameNumber = evening.room.gameNumber := course.gameNumber
    have game : evening.gameBefore after = evening.game := if_pos same
    have gone : evening.goneBefore after = evening.gone := if_neg fun other => other.1 same
    rw [game, gone]
    obtain ⟨kept, new, deck⟩ := course.deals inGame evening.gone
    exact ⟨kept, new, fun _ => deck⟩
  · have other : after.gameNumber ≠ evening.room.gameNumber := by
      have later : after.gameNumber = evening.room.gameNumber + 1 := course.gameNumber.trans rematch.gameNumber.1
      exact later ▸ Nat.succ_ne_self _
    have game : evening.gameBefore after = [] := if_neg other
    have gone : evening.goneBefore after = if evening.undealt.length < evening.room.roundTotal then [] else evening.gone := by
      simp [goneBefore, other]
    rw [game, gone, Plan.wordDealt_rematch rematch course]
    obtain ⟨starts, whole⟩ := rematch.starts inGame evening.gone
    refine ⟨(course.deals starts []).1, (course.deals starts []).2.1, fun playedOut inDeck => ?_⟩
    have played : evening.room.plan.number = evening.room.roundTotal := by
      have last := playedOut rematches
      have number : evening.room.plan.number = (evening.room.round.map (·.number)).getD 0 := by
        simp [PartyRoom.plan, Plan.number, Function.comp_def]
      rw [number, last]
      rfl
    exact (course.deals starts _).2.2 (whole played inDeck)

/-- In every game of an evening each word is a new one. -/
theorem run_newInGame (inGame : evening.room.plan.InGame evening.game) (beats : List Beat) : EachStep next NewInGame evening beats := by
  refine (@EachStep.shows _ _ _ (fun _ _ => True) (fun evening : Evening => evening.room.plan.InGame evening.game) _
    (fun inGame _ => ?_) evening beats inGame (EachStep.always fun _ _ => trivial)).2
  obtain ⟨kept, new, -⟩ := next_deals inGame
  exact ⟨kept, new⟩

end Evening

/-! ### From a new room -/

section
variable {catalogue : Catalogue} {input : CreateInput} {deck : PartyDeck}

theorem deckOf_filled (chosen : deckOf ctx.runtime catalogue input = some deck) : deck.words ≠ [] := by
  have brought (found : catalogue.partyDeck input.deckId = some deck) : deck.words ≠ [] := catalogue.filled _ _ found
  unfold deckOf at chosen
  dsimp only at chosen
  split at chosen
  · next custom _ =>
    split at chosen
    · next three =>
      cases chosen
      exact List.ne_nil_of_length_pos (Nat.lt_of_lt_of_le (by decide) three)
    · exact brought chosen
  · exact brought chosen

theorem createPartyRoom_spec (chosen : deckOf ctx.runtime catalogue input = some deck)
    (created : createPartyRoom ctx catalogue input = .ok room) :
    room.plan.Sound ∧ room.wordIds.Perm (deck.words.map (·.id)) ∧ room.wordCursor = 0 ∧ room.round = none := by
  unfold createPartyRoom at created
  rw [chosen] at created
  cases created
  have all : (shuffle ctx.pick (deck.words.filter (!input.recentWordIds.contains ·.id)) ++
      shuffle (fun index => ctx.pick ((deck.words.filter (!input.recentWordIds.contains ·.id)).length + index))
        (deck.words.filter (input.recentWordIds.contains ·.id))).Perm deck.words := by
    refine ((shuffle_perm _ _).append (shuffle_perm _ _)).trans ?_
    exact List.perm_append_comm.trans (List.filter_append_perm _ deck.words)
  refine ⟨⟨?_, ?_, Nat.zero_le _⟩, all.map _, rfl, rfl⟩
  · exact fun wordId mem => mem_map.mp mem
  · have some_ := List.length_pos_of_ne_nil (deckOf_filled chosen)
    have count := all.length_eq
    change 0 + (max 1 (min ((_ : List PartyWord).length : Int) input.roundTotal)).toNat ≤ (List.map _ _).length
    rw [length_map]
    omega

theorem inGame_unasked (sound : room.plan.Sound) (distinct : room.wordIds.Nodup) (unasked : room.round = none) :
    room.plan.InGame [] := by
  refine ⟨sound, distinct, ?_⟩
  rw [Plan.number, PartyRoom.plan, unasked]
  rfl

/-- A deck that the site brings deals no word twice in a game. -/
theorem broughtDeck_newInGame (brought : input.customDeck = none) (chosen : deckOf ctx.runtime catalogue input = some deck)
    (created : createPartyRoom ctx catalogue input = .ok room) (beats : List Beat) :
    EachStep Evening.next Evening.NewInGame { room } beats := by
  obtain ⟨sound, order, -, unasked⟩ := createPartyRoom_spec chosen created
  rw [deckOf, brought] at chosen
  have distinct := catalogue.distinct _ _ chosen
  exact Evening.run_newInGame (inGame_unasked sound (order.nodup_iff.mpr distinct) unasked) beats

/-- Every round finds its word; the words of a game differ where the ids of the deck do; and where
the games that others follow are played out, no word comes again before the deck has fewer undealt
words than a game has rounds. -/
theorem words_dealt (chosen : deckOf ctx.runtime catalogue input = some deck)
    (created : createPartyRoom ctx catalogue input = .ok room) (beats : List Beat) :
    EachStep Beat.next (fun beat room => ∃ after, beat.step room = .ok after) room beats ∧
      ((deck.words.map (·.id)).Nodup →
        EachStep Evening.next Evening.NewInGame { room } beats ∧
          (EachStep Evening.next (fun beat evening => beat.PlayedOut evening.room) { room } beats →
            EachStep Evening.next Evening.NewInDeck { room } beats)) := by
  obtain ⟨sound, order, cursor, unasked⟩ := createPartyRoom_spec chosen created
  refine ⟨?_, fun distinct => ?_⟩
  · refine (@EachStep.shows _ _ _ (fun _ _ => True) (fun room => room.plan.Sound) _
      (fun {room beat} sound _ => ?_) room beats sound (EachStep.always fun _ _ => trivial)).2
    obtain ⟨after, stepped, course⟩ := step_course beat sound
    have next_ : beat.next room = after := by rw [Beat.next, stepped]
    refine ⟨?_, after, stepped⟩
    rw [next_]
    rcases course with course | ⟨-, reset, rematch, course⟩
    · exact course.keeps sound
    · exact course.keeps (rematch.keeps sound)
  · have begins := inGame_unasked sound (order.nodup_iff.mpr distinct) unasked
    have whole : room.plan.InDeck [] := by
      have place : room.plan.wordCursor + room.plan.number = 0 := by
        rw [Plan.number, PartyRoom.plan, unasked]
        exact cursor
      rw [Plan.InDeck, place]
      rfl
    refine ⟨Evening.run_newInGame begins beats, fun playedOut => ?_⟩
    refine (@EachStep.shows _ _ _ _ (fun evening : Evening => evening.room.plan.InGame evening.game ∧ evening.room.plan.InDeck evening.gone) _
      (fun inside meets => ?_) { room } beats ⟨begins, whole⟩ playedOut).2
    obtain ⟨kept, -, deck⟩ := Evening.next_deals inside.1
    obtain ⟨gone, new⟩ := deck meets inside.2
    exact ⟨⟨kept, gone⟩, new⟩

end

/-! ### Two evenings -/

instance (beat : Beat) (evening : Evening) : Decidable (Evening.NewInGame beat evening) :=
  inferInstanceAs (Decidable (∀ wordId ∈ wordDealt _ _, _))

instance (beat : Beat) (evening : Evening) : Decidable (Evening.NewInDeck beat evening) :=
  inferInstanceAs (Decidable (∀ wordId ∈ wordDealt _ _, _))

/-- A command at a time; nothing that is shuffled changes places. -/
def at_ (now : Int) : GameContext where
  runtime := default
  now
  clock := now
  newId := 0
  token revision index := 2 * revision + index
  pick _ bound := bound - 1

def noDecks : Catalogue where
  partyDeck _ := none
  filled := nofun
  distinct := nofun

def ownDeck (first second third : String) : CreateInput where
  deckId := "own"
  customDeck := some { id := "own", name := "", words := [⟨first, "kumquat"⟩, ⟨second, "gazebo"⟩, ⟨third, "ukulele"⟩] }
  answerSeconds := 20
  roundTotal := 2

def roomOf (input : CreateInput) : PartyRoom := ((createPartyRoom (at_ 0) noDecks input).toOption).getD
  { roomId := 0, officialResultChannelId := none, deckId := "", deckName := "", answerSeconds := 0, roundTotal := 0, wordIds := []
    words := [], usesLocalSpeech := false, phase := .lobby, revision := 0, sequence := 0, presenterHash := .token 0, joinHash := .token 0
    expiresAt := 0, sentenceCluesRemaining := 0, players := [], hostPlayerId := none, round := none, processedActions := []
    gameNumber := 0, wordCursor := 0 }

def joins : Beat := .join (at_ 0) { joinToken := none, name := "Ann", presenterToken := none }

def twoWords : List Beat :=
  [joins, .present (at_ 0) 1 (.start []), .advance (at_ 100000) 100000, .present (at_ 100000) 2 .next]

def leftAlone : List Beat :=
  [joins, .present (at_ 0) 1 (.start []), .play (at_ 0) 2 2 .leave, .present (at_ 0) 3 .replay]

def playedOut : List Beat :=
  twoWords ++ [.advance (at_ 200000) 200000, .present (at_ 200000) 3 .next, .present (at_ 200000) 4 .replay]

theorem words_dealt_played_out :
    EachStep Evening.next Evening.NewInGame { room := roomOf (ownDeck "one" "two" "three") } playedOut ∧
      EachStep Evening.next Evening.NewInDeck { room := roomOf (ownDeck "one" "two" "three") } playedOut := by
  have chosen : deckOf (at_ 0).runtime noDecks (ownDeck "one" "two" "three") =
      some { id := "own", name := "My words", words := [⟨"one", "kumquat"⟩, ⟨"two", "gazebo"⟩, ⟨"three", "ukulele"⟩] } := by decide
  have created : createPartyRoom (at_ 0) noDecks (ownDeck "one" "two" "three") = .ok (roomOf (ownDeck "one" "two" "three")) := rfl
  obtain ⟨-, dealt⟩ := words_dealt chosen created playedOut
  obtain ⟨inGame, inDeck⟩ := dealt (by decide)
  exact ⟨inGame, inDeck ⟨False.elim, False.elim, False.elim, False.elim, False.elim, False.elim, fun _ => by decide, trivial⟩⟩

/-- Ids that are the same deal the same word again in a game; and a game that everybody left makes the deck
start over with two of its three words undealt. -/
theorem words_dealt_again :
    ¬ EachStep Evening.next Evening.NewInGame { room := roomOf (ownDeck "own" "own" "own") } twoWords ∧
      ¬ EachStep Evening.next Evening.NewInDeck { room := roomOf (ownDeck "one" "two" "three") } leftAlone := by
  decide

end MilkAndHenny.SpellingParty
