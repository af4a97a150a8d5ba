import Mathlib.Data.List.Flatten
import Mathlib.Data.List.Rotate
import MilkAndHenny.Library.Machine
import MilkAndHenny.Twin.Moves

/-! Twin can always be played: in every heat the cards on the table are distinct cards of one
deck, so that every player who holds a card has one symbol to find. -/

namespace MilkAndHenny.Twin
variable {room after : TwinRoom} {β : Type} {heat : HeatState} {ctx : GameContext}
variable {plan : TwinDeckPlan} {k : PlayerState → β}
open Library Multiplayer

structure Distinct (order : TwinOrder) (cards : List CardState) : Prop where
  apart : (cards.map (·.cardId)).Nodup
  known : ∀ card ∈ cards, (twinCardById order card.cardId).isSome

namespace Distinct
variable {order : TwinOrder} {cards others : List CardState} {card middle : CardState}

theorem subperm (distinct : Distinct order cards) (fewer : others.Subperm cards) : Distinct order others where
  apart := by
    obtain ⟨same, perm, sub⟩ := fewer
    exact (perm.map _).nodup_iff.mp (distinct.apart.sublist (sub.map _))
  known card mem := distinct.known card (fewer.subset mem)

theorem symbolOf {room : TwinRoom} (distinct : Distinct room.order (middle :: cards)) (mem : card ∈ cards) :
    ∃ symbol, room.symbolOf card middle = some symbol := by
  obtain ⟨first, found⟩ := isSome_iff_exists.mp (distinct.known card (mem_cons_of_mem _ mem))
  obtain ⟨second, found'⟩ := isSome_iff_exists.mp (distinct.known middle (mem_cons_self ..))
  have id : first.id = card.cardId := eq_of_beq (find?_some (p := fun other : TwinCard => other.id == card.cardId) found)
  have id' : second.id = middle.cardId := eq_of_beq (find?_some (p := fun other : TwinCard => other.id == middle.cardId) found')
  have apart : first.id ≠ second.id := by
    rw [id, id']
    intro same
    refine (nodup_cons.mp distinct.apart).1 (mem_map.mpr ⟨card, mem, same⟩)
  obtain ⟨symbol, matched⟩ := twinDeck_matches (mem_of_find?_eq_some found) (mem_of_find?_eq_some found') apart
  exact ⟨symbol, by simpa [TwinRoom.symbolOf, found, found'] using matched⟩

end Distinct

def hands (players : List PlayerState) : List CardState := (players.filter (!·.withdrawn)).flatMap (·.hand)

def TwinRoom.table (room : TwinRoom) : List CardState := room.middle.toList ++ hands room.players

/-- What holds of a room after every command. -/
structure Sound (room : TwinRoom) : Prop where
  ids : (room.players.map (·.id)).Nodup
  seats : room.activePlayers.length ≤ twinMaxPlayers
  dealt : room.phase = .dealing ∨ room.phase = .heat ∨ room.phase = .settle → room.middle.isSome ∧ Distinct room.order room.table
  live : room.phase = .heat → ∃ heat, room.heat = some heat ∧ room.middle = some heat.middle ∧
    ∀ player ∈ room.activePlayers, player.heatId = some heat.id

/-! ### What the moves do to the active players -/

section

theorem active_sublist {rows others : List PlayerState} (pairs : Forall₂ Alike rows others)
    {f : PlayerState → β} (same : ∀ row other, Alike row other → f other = f row) :
    ((others.filter (!·.withdrawn)).map f).Sublist ((rows.filter (!·.withdrawn)).map f) := by
  induction pairs with
  | nil => exact .slnil
  | @cons row other _ _ alike _ ih =>
    cases gone : row.withdrawn with
    | true => simpa [filter_cons, gone, alike.gone gone] using ih
    | false =>
      cases left : other.withdrawn with
      | true => simpa [filter_cons, gone, left] using ih.cons (f row)
      | false => simpa [filter_cons, gone, left, same row other alike] using ih.cons_cons (f row)

variable {change : PlayerState → PlayerState} {players : List PlayerState}

theorem active_onActive (kept : ∀ row, (change row).withdrawn = row.withdrawn) :
    (onActive change players).filter (!·.withdrawn) = (players.filter (!·.withdrawn)).map change := by
  induction players with
  | nil => rfl
  | cons row rows ih =>
    unfold onActive at *
    cases gone : row.withdrawn <;> simp [gone, kept, ih]

theorem map_onActive (kept : ∀ row, k (change row) = k row) : (onActive change players).map k = players.map k := by
  rw [onActive, map_map]
  refine map_congr_left fun row _ => ?_
  simp only [Function.comp_apply]
  split
  · rfl
  · exact kept row

theorem hands_onActive (kept : ∀ row, (change row).withdrawn = row.withdrawn) (held : ∀ row, (change row).hand.Perm row.hand) :
    (hands (onActive change players)).Perm (hands players) := by
  unfold hands
  rw [active_onActive kept, flatMap_map]
  exact List.Perm.flatMap_left _ fun row _ => held row

end

/-! ### The payout -/

namespace Payout
variable {winnerPlayerId : Option Nat} {payout : Payout} {player : PlayerState} {id : Nat} {ranked : List Nat}

def cards (payout : Payout) : List CardState := payout.nextMiddle :: hands payout.players

/-- Everyone who is to be paid plays. -/
structure Payable (payout : Payout) (ranked : List Nat) : Prop where
  ids : (payout.players.map (·.id)).Nodup
  plays : ∀ id ∈ ranked, ∃ player, payout.players.find? (·.id == id) = some player ∧ player.withdrawn = false

theorem payOne_found (room : TwinRoom) (heat : HeatState) (winnerPlayerId : Option Nat) (found : payout.players.find? (·.id == id) = some player) :
    (room.payOne heat winnerPlayerId payout id).players = updateFirst payout.players (·.id == id) (·.paid payout.nextPlace) ∧
    (room.payOne heat winnerPlayerId payout id).nextMiddle =
      if winnerPlayerId = some id then player.hand.head?.getD payout.nextMiddle else payout.nextMiddle := by
  simp [TwinRoom.payOne, found]

theorem payable_payOne (payable : payout.Payable (id :: ranked)) :
    (room.payOne heat winnerPlayerId payout id).Payable ranked := by
  obtain ⟨player, found, _⟩ := payable.plays id (mem_cons_self ..)
  obtain ⟨players, _⟩ := payOne_found room heat winnerPlayerId found
  refine ⟨?_, fun other mem => ?_⟩
  · have ids : (updateFirst payout.players (·.id == id) (·.paid payout.nextPlace)).map (·.id) = payout.players.map (·.id) :=
      map_updateFirst fun _ => rfl
    rw [players, ids]
    exact payable.ids
  · obtain ⟨paid, listed, plays⟩ := payable.plays other (mem_cons_of_mem _ mem)
    rw [players]
    by_cases same : other = id
    · subst same
      have again : (updateFirst payout.players (·.id == other) (·.paid payout.nextPlace)).find? (·.id == other) =
          (payout.players.find? (·.id == other)).map (·.paid payout.nextPlace) := find?_updateFirst_same fun _ same => same
      exact ⟨paid.paid payout.nextPlace, by rw [again, listed]; rfl, plays⟩
    · refine ⟨paid, ?_, plays⟩
      rw [find?_updateFirst_other, listed]
      intro row paid
      have apart : (row.id == other) = false := beq_false_of_ne fun same' => same (same' ▸ eq_of_beq paid)
      exact ⟨apart, apart⟩

theorem cards_payOne (found : payout.players.find? (·.id == id) = some player)
    (plays : player.withdrawn = false) : (room.payOne heat winnerPlayerId payout id).cards.Subperm payout.cards := by
  obtain ⟨players, nextMiddle⟩ := payOne_found room heat winnerPlayerId found
  obtain ⟨before, after, split, changed⟩ := updateFirst_split (·.paid payout.nextPlace) found
  unfold cards hands
  rw [players, nextMiddle, changed, split]
  have paid : (player.paid payout.nextPlace).withdrawn = false := plays
  have drop : (player.paid payout.nextPlace).hand = player.hand.drop 1 := rfl
  simp only [filter_append, filter_cons, plays, paid, Bool.not_false, if_true, flatMap_append, flatMap_cons, drop]
  generalize (before.filter (!·.withdrawn)).flatMap (·.hand) = front
  generalize (after.filter (!·.withdrawn)).flatMap (·.hand) = back
  cases player.hand with
  | nil => simpa using List.Subperm.refl (payout.nextMiddle :: (front ++ back))
  | cons top rest =>
    split
    · have shed : (top :: (front ++ (rest ++ back))).Perm (front ++ (top :: rest ++ back)) := perm_middle.symm
      exact shed.subperm.trans (List.sublist_cons_self ..).subperm
    · refine (List.Sublist.cons_cons _ (List.Sublist.append_left ?_ front)).subperm
      exact List.sublist_cons_self ..

theorem map_payOne (kept : ∀ row place, k (row.paid place) = k row) (id : Nat) :
    (room.payOne heat winnerPlayerId payout id).players.map k = payout.players.map k := by
  unfold TwinRoom.payOne
  split
  · rfl
  · exact map_updateFirst fun row => kept row payout.nextPlace

theorem map_payAll (kept : ∀ row place, k (row.paid place) = k row) (ranked : List Nat) :
    (ranked.foldl (room.payOne heat winnerPlayerId) payout).players.map k = payout.players.map k := by
  induction ranked generalizing payout with
  | nil => rfl
  | cons id ranked ih => exact (ih).trans (map_payOne kept id)

theorem cards_payAll (payable : payout.Payable ranked) :
    (ranked.foldl (room.payOne heat winnerPlayerId) payout).cards.Subperm payout.cards := by
  induction ranked generalizing payout with
  | nil => exact .refl _
  | cons id ranked ih =>
    obtain ⟨player, found, plays⟩ := payable.plays id (mem_cons_self ..)
    exact (ih (payable_payOne payable)).trans (cards_payOne found plays)

end Payout

variable (outcome : TwinHeatOutcome) (row : PlayerState)

theorem turnOver_eq : ∃ chain hand, turnOver outcome row = { row with chain, hand } ∧ hand.Perm row.hand := by
  have kept : ∃ chain, (if outcome.ranked.contains row.id then row else { row with chain := 0 }) = { row with chain } := by
    split <;> exact ⟨_, rfl⟩
  obtain ⟨chain, kept⟩ := kept
  unfold turnOver
  rw [kept]
  dsimp only
  split
  · exact ⟨chain, _, rfl, List.rotate_perm row.hand 1⟩
  · exact ⟨chain, row.hand, rfl, .refl _⟩

theorem turnOver_id : (turnOver outcome row).id = row.id := by
  obtain ⟨_, _, turned, _⟩ := turnOver_eq outcome row
  rw [turned]

theorem turnOver_withdrawn : (turnOver outcome row).withdrawn = row.withdrawn := by
  obtain ⟨_, _, turned, _⟩ := turnOver_eq outcome row
  rw [turned]

theorem turnOver_hand : (turnOver outcome row).hand.Perm row.hand := by
  obtain ⟨_, _, turned, perm⟩ := turnOver_eq outcome row
  rw [turned]
  exact perm

theorem payable_ranked (ids : (room.players.map (·.id)).Nodup) (heat : HeatState) (nextPlace : Nat) (nextMiddle : CardState) :
    Payout.Payable { players := room.players, nextPlace, nextMiddle, connections := [] }
      (twinHeatOutcome (room.activePlayers.map (·.entry heat))).ranked := by
  refine ⟨ids, fun id mem => ?_⟩
  obtain ⟨landing, listed, rfl⟩ := mem_map.mp mem
  have landed : landing ∈ (room.activePlayers.map (·.entry heat)).filterMap TwinHeatEntry.landing :=
    (perm_insertionSort _ _).mem_iff.mp listed
  obtain ⟨entry, entered, made⟩ := mem_filterMap.mp landed
  obtain ⟨player, active, rfl⟩ := mem_map.mp entered
  obtain ⟨elapsedMs, _, rfl⟩ := map_eq_some_iff.mp made
  obtain ⟨seated, plays⟩ := TwinRoom.mem_activePlayers.mp active
  exact ⟨player, find?_key ids seated, plays⟩

theorem TwinRoom.seat_eq (ctx : GameContext) (room : TwinRoom) (name : String) (token : Secret) (joinId : Option Nat) :
    ∃ order handSize, room.seat ctx name token joinId = changed ctx { room with
      players := room.players ++ [newPlayer (ctx.randomUUID room.revision) joinId name token ctx.clock], order, handSize } := by
  unfold TwinRoom.seat TwinRoom.fitDeck
  extract_lets player
  split
  · exact ⟨_, _, rfl⟩
  · exact ⟨room.order, room.handSize, rfl⟩

/-! ### The deal -/

def Redealt (handSize : Nat) (row other : PlayerState) : Prop :=
  if row.withdrawn then other = row
  else ∃ hand : List CardState, hand.length = handSize ∧ other = { row with hand, toThisHeat := {} }

theorem layOut_cards (seedCounter : Nat) (cards : List TwinCard) :
    (TwinRoom.layOut seedCounter cards).map (·.cardId) = cards.map (·.id) := by
  have first : cards.zipIdx.map ((·.id) ∘ Prod.fst) = cards.map (·.id) := by rw [← map_map, List.zipIdx_map_fst]
  rw [TwinRoom.layOut, map_map, ← first]
  rfl

theorem layOut_length (seedCounter : Nat) (cards : List TwinCard) : (TwinRoom.layOut seedCounter cards).length = cards.length := by
  rw [TwinRoom.layOut, length_map, List.length_zipIdx]

theorem takeHands_spec {handSize : Nat} {players : List PlayerState} (seedCounter : Nat) {dealt : List (List TwinCard)}
    (enough : dealt.length = (players.filter (!·.withdrawn)).length) (full : ∀ hand ∈ dealt, hand.length = handSize) :
    Forall₂ (Redealt handSize) players (TwinRoom.takeHands seedCounter dealt players) ∧
      (hands (TwinRoom.takeHands seedCounter dealt players)).map (·.cardId) = dealt.flatten.map (·.id) := by
  induction players generalizing seedCounter dealt with
  | nil =>
    cases List.length_eq_zero_iff.mp enough
    exact ⟨.nil, rfl⟩
  | cons player players ih =>
    simp only [TwinRoom.takeHands]
    cases gone : player.withdrawn with
    | true =>
      obtain ⟨rows, cards⟩ := ih seedCounter (by simpa [gone] using enough) full
      exact ⟨.cons (by simp [Redealt, gone]) rows, by simpa [hands, gone] using cards⟩
    | false =>
      cases dealt with
      | nil => simp [gone] at enough
      | cons hand =>
        have length := full hand (mem_cons_self ..)
        obtain ⟨rows, cards⟩ := ih (seedCounter + (TwinRoom.layOut seedCounter hand).length) (by simpa [gone] using enough)
          fun other mem => full other (mem_cons_of_mem hand mem)
        refine ⟨.cons ?_ rows, ?_⟩
        · simp only [Redealt, gone, false_eq_true, if_false]
          exact ⟨_, (layOut_length seedCounter hand).trans length, rfl⟩
        · simp only [hands, List.headD_cons, List.tail_cons] at cards ⊢
          simp [layOut_cards, cards]

structure DealtIn (room : TwinRoom) (plan : TwinDeckPlan) (after : TwinRoom) : Prop where
  phase : after.phase = .dealing
  order : after.order = plan.order
  handSize : after.handSize = plan.handSize
  enough : twinMinHand ≤ plan.handSize
  rows : Forall₂ (Redealt plan.handSize) room.players after.players
  middle : after.middle.isSome
  distinct : Distinct after.order after.table
  nextPlace : after.nextPlace = room.nextPlace
  log : after.loggedHeats = room.loggedHeats

theorem TwinDeal.Fair.ids {deal : TwinDeal} {players : Nat} (fair : deal.Fair plan players) :
    ((deal.middle :: deal.hands.flatten).map (·.id)).Nodup :=
  fair.apart.map_on fun first listed second listed' same =>
    inj_on_of_nodup_map (twinDeck_ids plan.order) (fair.listed first listed) (fair.listed second listed') same

/-- The deal goes through, and puts distinct cards on the table. -/
theorem applyDeal_spec (ctx : GameContext) (planned : room.planned = some plan) (now : Int) :
    ∃ after, room.applyDeal ctx plan now = some after ∧ DealtIn room plan after := by
  obtain ⟨fits, enough⟩ := planTwinDeck_fits planned
  obtain ⟨deal, dealt, fair⟩ := dealTwin_fair fits ctx.seed
  obtain ⟨rows, cards⟩ := takeHands_spec room.seedCounter fair.seats fair.full
  unfold TwinRoom.applyDeal
  rw [dealt, bind_some]
  extract_lets seedCounter after
  have onTable : after.table.map (·.cardId) = (deal.middle :: deal.hands.flatten).map (·.id) := by
    simp [TwinRoom.table, after, cards]
  have known (card : CardState) (mem : card ∈ after.table) :
      ∃ twin ∈ deal.middle :: deal.hands.flatten, twin.id = card.cardId := by
    have listed : card.cardId ∈ after.table.map (·.cardId) := mem_map_of_mem mem
    rw [onTable] at listed
    exact mem_map.mp listed
  have distinct : Distinct after.order after.table := by
    refine ⟨onTable ▸ fair.ids, fun card mem => ?_⟩
    obtain ⟨twin, listed, same⟩ := known card mem
    rw [← same]
    exact isSome_iff_exists.mpr ⟨twin, twinCardById_found (fair.listed twin listed)⟩
  have playable : after.activePlayers.all fun player =>
      (player.hand.head?.bind fun top => (twinCardById after.order top.cardId).bind (twinMatch · deal.middle)).isSome := by
    refine all_eq_true.mpr fun player mem => ?_
    obtain ⟨seated, plays⟩ := TwinRoom.mem_activePlayers.mp mem
    have length : player.hand.length = plan.handSize := by
      obtain ⟨row, _, redealt⟩ := mem_pairs rows seated
      unfold Redealt at redealt
      split at redealt
      · next gone =>
        rw [redealt, gone] at plays
        cases plays
      · obtain ⟨hand, length, rfl⟩ := redealt
        exact length
    cases held : player.hand with
    | nil =>
      rw [held, length_nil] at length
      exact absurd enough (by rw [← length]; decide)
    | cons top =>
      have inHands : top ∈ hands after.players :=
        mem_flatMap.mpr ⟨player, mem, by rw [held]; exact mem_cons_self ..⟩
      have listed : top.cardId ∈ deal.hands.flatten.map (·.id) := cards ▸ mem_map_of_mem inHands
      obtain ⟨twin, inDeal, same⟩ := mem_map.mp listed
      have apart : twin.id ≠ deal.middle.id := fun clash =>
        (nodup_cons.mp fair.ids).1 (mem_map.mpr ⟨twin, inDeal, clash⟩)
      have inDeck : twin ∈ twinDeck plan.order := fair.listed twin (mem_cons_of_mem _ inDeal)
      obtain ⟨symbol, matched⟩ := twinDeck_matches inDeck (fair.listed deal.middle (mem_cons_self ..)) apart
      have found : twinCardById after.order top.cardId = some twin := same ▸ twinCardById_found inDeck
      simp [found, matched]
  rw [if_pos playable]
  exact ⟨_, rfl, rfl, rfl, rfl, enough, rows, rfl, distinct, rfl, rfl⟩

namespace Sound
variable {now : Int}

theorem mild (sound : Sound room) (mild : Mild room after) : Sound after := by
  have fewer : (hands after.players).Sublist (hands room.players) := by
    have sub := active_sublist mild.rows (f := (·.hand)) fun _ _ alike => alike.hand
    simpa [hands, List.flatMap_def] using sub.flatten
  refine ⟨?_, ?_, fun playing => ?_, fun playing => ?_⟩
  · rw [← map_pairs mild.rows (f := (·.id)) fun _ _ alike => alike.id.symm]
    exact sound.ids
  · have sub := (active_sublist mild.rows (f := fun _ => ()) fun _ _ _ => rfl).length_le
    rw [length_map, length_map] at sub
    exact sub.trans sound.seats
  · have phase : after.phase = room.phase := by
      rcases mild.phase with same | closed
      · exact same
      · simp [closed] at playing
    rw [phase] at playing
    obtain ⟨middle, distinct⟩ := sound.dealt playing
    have order := (mild.order (by rcases playing with same | same | same <;> simp [same])).1
    rw [mild.middle, order]
    refine ⟨middle, distinct.subperm ?_⟩
    unfold TwinRoom.table
    rw [mild.middle]
    exact (fewer.append_left _).subperm
  · have playing' : room.phase = .heat := by
      rcases mild.phase with same | closed
      · exact same ▸ playing
      · simp [closed] at playing
    obtain ⟨heat, current, middle, seen⟩ := sound.live playing'
    have stake := mild.heat
    rw [current] at stake
    obtain ⟨heat', current', same⟩ := map_eq_some_iff.mp stake
    obtain ⟨id, same⟩ := Prod.mk.inj same
    obtain ⟨kept, -⟩ := Prod.mk.inj same
    refine ⟨heat', current', by rw [mild.middle, middle, kept], fun player mem => ?_⟩
    have sub := active_sublist mild.rows (f := (·.heatId)) fun _ _ alike => alike.heatId
    obtain ⟨row, listed, same⟩ := mem_map.mp (sub.subset (mem_map_of_mem mem))
    rw [← same, seen row listed, id]

theorem enterHeat (sound : Sound room) (held : room.middle = some heat.middle)
    (distinct : Distinct room.order room.table) : Sound (room.enterHeat ctx heat) := by
  have active : (room.enterHeat ctx heat).activePlayers = room.activePlayers.map (·.enter heat.id) := active_onActive fun _ => rfl
  have same : (hands (room.enterHeat ctx heat).players).Perm (hands room.players) :=
    hands_onActive (fun _ => rfl) fun row => .refl row.hand
  refine ⟨?_, ?_, fun _ => ⟨isSome_iff_exists.mpr ⟨_, held⟩, ?_⟩, fun _ => ⟨heat, rfl, held, fun player mem => ?_⟩⟩
  · have ids : (room.enterHeat ctx heat).players.map (·.id) = room.players.map (·.id) := map_onActive fun _ => rfl
    exact ids ▸ sound.ids
  · rw [active, length_map]
    exact sound.seats
  · exact distinct.subperm (same.append_left room.middle.toList).subperm
  · rw [active] at mem
    obtain ⟨row, _, rfl⟩ := mem_map.mp mem
    rfl

theorem startHeat (sound : Sound room) (due : room.phase = .dealing ∨ room.phase = .settle) :
    Sound (room.startHeat ctx now) := by
  obtain ⟨some, distinct⟩ := sound.dealt (by rcases due with same | same <;> simp [same])
  obtain ⟨middle, held⟩ := isSome_iff_exists.mp some
  unfold TwinRoom.startHeat
  rw [held]
  exact sound.enterHeat held distinct

theorem settleHeat (sound : Sound room) (playing : room.phase = .heat) : Sound (room.settleHeat ctx now) := by
  obtain ⟨heat, current, middle, _⟩ := sound.live playing
  obtain ⟨_, distinct⟩ := sound.dealt (.inr (.inl playing))
  unfold TwinRoom.settleHeat
  split
  · exact sound
  · next heat' unsettled =>
    obtain rfl : heat' = heat := some.inj ((filter_eq_some_iff.mp unsettled).1.symm.trans current)
    extract_lets outcome payout results logged
    have payable := payable_ranked sound.ids heat' room.nextPlace heat'.middle
    have same {β : Type} {k : PlayerState → β} (kept : ∀ row place, k (row.paid place) = k row)
        (kept' : ∀ row, k (turnOver outcome row) = k row) : (onActive (turnOver outcome) payout.players).map k = room.players.map k :=
      (map_onActive kept').trans (Payout.map_payAll kept outcome.ranked)
    have seats : (onActive (turnOver outcome) payout.players).countP (!·.withdrawn) = room.players.countP (!·.withdrawn) := by
      have counted := congrArg (List.countP (!·)) (same (fun _ _ => rfl) (turnOver_withdrawn outcome))
      simpa [countP_map, Function.comp_def] using counted
    refine ⟨?_, ?_, fun _ => ⟨rfl, ?_⟩, fun live => ?_⟩
    · exact (same (fun _ _ => rfl) (turnOver_id outcome)) ▸ sound.ids
    · have before := sound.seats
      rw [TwinRoom.activePlayers, ← countP_eq_length_filter] at before ⊢
      exact seats ▸ before
    · have turned : (hands (onActive (turnOver outcome) payout.players)).Perm (hands payout.players) :=
        hands_onActive (turnOver_withdrawn outcome) (turnOver_hand outcome)
      have paid : payout.cards.Subperm (heat'.middle :: hands room.players) := Payout.cards_payAll payable
      refine distinct.subperm ?_
      unfold TwinRoom.table
      rw [middle]
      exact (turned.cons payout.nextMiddle).subperm.trans paid
    · cases live

theorem seat {name : String} {token : Secret} {joinId : Option Nat} (sound : Sound room) (lobby : room.phase = .lobby)
    (fits : room.activePlayers.length < twinMaxPlayers) (fresh : ∀ player ∈ room.players, player.id ≠ ctx.randomUUID room.revision) :
    Sound (room.seat ctx name token joinId) := by
  obtain ⟨order, handSize, seated⟩ := room.seat_eq ctx name token joinId
  rw [seated]
  refine ⟨?_, ?_, fun playing => ?_, fun playing => ?_⟩
  · rw [TwinRoom.changed_players, map_append, nodup_append]
    refine ⟨sound.ids, nodup_singleton _, fun id mem other new same => ?_⟩
    obtain ⟨player, listed, rfl⟩ := mem_map.mp mem
    exact fresh player listed (same.trans (mem_singleton.mp new))
  · rw [TwinRoom.changed_activePlayers]
    simp only [TwinRoom.activePlayers, filter_append, length_append] at fits ⊢
    exact fits
  · rw [TwinRoom.changed_phase, lobby] at playing
    simp at playing
  · rw [TwinRoom.changed_phase, lobby] at playing
    cases playing

theorem removeUnready (sound : Sound room) (lobby : room.phase = .lobby) (playerId : Nat) (removePlayerIds : List Nat) :
    Sound (room.removeUnready ctx playerId removePlayerIds) := by
  unfold TwinRoom.removeUnready
  split
  · exact sound
  · have fewer : (room.players.filter (TwinRoom.keepsSeat playerId removePlayerIds)).Sublist room.players := filter_sublist
    refine ⟨sound.ids.sublist (fewer.map _), (fewer.filter _).length_le.trans sound.seats, fun playing => ?_, fun playing => ?_⟩
    · rw [TwinRoom.changed_phase, lobby] at playing
      simp at playing
    · rw [TwinRoom.changed_phase, lobby] at playing
      cases playing

theorem finish (sound : Sound room) : Sound (TwinRoom.changed ctx { room with phase := .finished }) :=
  ⟨sound.ids, sound.seats, fun playing => by simp at playing, nofun⟩

theorem toLobby (sound : Sound room) : Sound (room.toLobby ctx) := by
  refine ⟨?_, ?_, fun playing => by simp [TwinRoom.toLobby] at playing, fun playing => by simp [TwinRoom.toLobby] at playing⟩
  · simpa [TwinRoom.toLobby, Function.comp_def, PlayerState.setReady] using sound.ids
  · simpa [TwinRoom.toLobby, TwinRoom.activePlayers, filter_map, Function.comp_def, PlayerState.setReady] using sound.seats

theorem move (sound : Sound room) (move : Move ctx room after) : Sound after := by
  cases move with
  | mild quiet => exact sound.mild quiet
  | heat due =>
    refine sound.startHeat ?_
    rcases due with dealing | ⟨settled, _⟩
    · exact .inl dealing
    · exact .inr settled
  | settle playing => exact sound.settleHeat playing
  | finish => exact sound.finish
  | seat lobby fits fresh => exact sound.seat lobby fits fresh
  | remove lobby => exact sound.removeUnready lobby _ _
  | lobby => exact sound.toLobby

theorem moves (sound : Sound room) (moves : Moves ctx room after) : Sound after := by
  induction moves with
  | refl => exact sound
  | tail _ move ih => exact ih.move move

theorem applyDeal {plan : TwinDeckPlan} (sound : Sound room) (planned : room.planned = some plan)
    (applied : room.applyDeal ctx plan now = some after) : Sound after := by
  obtain ⟨after', applied', dealt⟩ := applyDeal_spec ctx planned now
  obtain rfl : after' = after := some.inj (applied'.symm.trans applied)
  have kept {row other : PlayerState} (redealt : Redealt plan.handSize row other) :
      (other.id, other.withdrawn) = (row.id, row.withdrawn) := by
    unfold Redealt at redealt
    split at redealt
    · rw [redealt]
    · obtain ⟨_, _, rfl⟩ := redealt
      rfl
  refine ⟨?_, ?_, fun _ => ⟨dealt.middle, dealt.distinct⟩, fun playing => ?_⟩
  · rw [← map_pairs dealt.rows (f := (·.id)) fun _ _ redealt => (congrArg Prod.fst (kept redealt)).symm]
    exact sound.ids
  · have counted : room.players.countP (!·.withdrawn) = after'.players.countP (!·.withdrawn) :=
      countP_pairs dealt.rows fun _ _ redealt => congrArg (!·) (congrArg Prod.snd (kept redealt)).symm
    have before := sound.seats
    rw [TwinRoom.activePlayers, ← countP_eq_length_filter] at before ⊢
    exact counted ▸ before
  · rw [dealt.phase] at playing
    cases playing

theorem startOver (sound : Sound room) : Sound room.startOver := by
  have active : room.startOver.activePlayers = room.activePlayers.map fun row => { row with toThisGame := {} } :=
    active_onActive fun _ => rfl
  refine ⟨?_, ?_, fun playing => ?_, fun playing => ?_⟩
  · have ids : room.startOver.players.map (·.id) = room.players.map (·.id) := map_onActive fun _ => rfl
    exact ids ▸ sound.ids
  · rw [active, length_map]
    exact sound.seats
  · obtain ⟨middle, distinct⟩ := sound.dealt playing
    have same : (hands room.startOver.players).Perm (hands room.players) := hands_onActive (fun _ => rfl) fun row => .refl row.hand
    exact ⟨middle, distinct.subperm (same.append_left room.middle.toList).subperm⟩
  · obtain ⟨heat, current, middle, seen⟩ := sound.live playing
    refine ⟨heat, current, middle, fun player mem => ?_⟩
    rw [active] at mem
    obtain ⟨row, listed, rfl⟩ := mem_map.mp mem
    exact seen row listed

theorem deal (sound : Sound room) (deal : Deal ctx room after) : Sound after := by
  have cleared : Sound { room with loggedHeats := [] } := ⟨sound.ids, sound.seats, sound.dealt, sound.live⟩
  cases deal with
  | start lobby planned dealt => exact cleared.applyDeal planned dealt
  | replay finished planned dealt => exact (cleared.applyDeal planned dealt).startOver

theorem apply {command : Command} (sound : Sound room) (draws : command.DrawsNewId room) : Sound (command.apply room) := by
  have played := command.played draws
  unfold Played at played
  split at played
  · obtain ⟨found, dealt, before, deal, quiet⟩ := played
    exact ((sound.moves before).deal deal).mild quiet
  · exact sound.moves played

theorem created (ctx : GameContext) (input : CreateInput) : Sound (createTwinRoom ctx input) :=
  ⟨nodup_singleton _, Nat.le_of_ble_eq_true rfl, fun playing => by simp [createTwinRoom] at playing, nofun⟩

end Sound

/-! ### The symbol that is accepted -/

structure CanTap (ctx : GameContext) (room : TwinRoom) (player : PlayerState) (heat : HeatState) (actionId : Nat) : Prop where
  revealed : heat.revealAt ≤ ctx.now
  unsettled : heat.settleAt.all (ctx.now < ·)
  unlanded : player.landedMs = none
  cooled : player.cooldownUntil.all (· ≤ ctx.now)
  new : room.processedActions.contains actionId = false

def Accepts (ctx : GameContext) (room : TwinRoom) (player : PlayerState) (actionId : Nat) (action : TwinAction) : Prop :=
  ∃ view, (room.applyTwinAction ctx
    { playerId := player.id, playerToken := player.tokenHash, actionId := some actionId, action }).1 = .accepted view

structure Playable (room : TwinRoom) (heat : HeatState) : Prop where
  middle : room.middle = some heat.middle
  distinct : Distinct room.order (heat.middle :: hands room.players)
  answer : ∀ player ∈ room.activePlayers, player.hand ≠ [] → ∃ symbol, ∀ (ctx : GameContext) (actionId : Nat) (tapped : String)
    (elapsedMs : Int), CanTap ctx room player heat actionId →
      (Accepts ctx room player actionId (.tap heat.id tapped elapsedMs) ↔ tapped = symbol)

namespace TwinRoom

structure GoesOn (now : Int) (heat : HeatState) (room after : TwinRoom) : Prop where
  phase : after.phase = .heat
  heat : ∃ later, after.heat = some later ∧ later.id = heat.id ∧ later.middle = heat.middle ∧ later.revealAt = heat.revealAt ∧
    later.settleAt.all (now < ·)
  players : after.players = room.players
  order : after.order = room.order

theorem advance_goesOn {now : Int} (current : room.heat = some heat) (playing : room.phase = .heat)
    (unsettled : heat.settleAt.all (now < ·)) : GoesOn now heat room (room.advance ctx now) := by
  have live : room.liveHeat = some heat := filter_eq_some_iff.mpr ⟨current, by simp [playing]⟩
  have closes : GoesOn now heat room (room.closeHeat ctx now) := by
    unfold closeHeat
    rw [live]
    dsimp only
    split
    · exact ⟨playing, ⟨_, rfl, rfl, rfl, rfl, decide_eq_true (Int.lt_add_of_pos_right now (by decide))⟩, rfl, rfl⟩
    · exact ⟨playing, ⟨heat, current, rfl, rfl, rfl, unsettled⟩, rfl, rfl⟩
  have second : room.advanceHeat ctx now = room.closeHeat ctx now := by
    obtain ⟨later, held, _, _, _, waits⟩ := closes.heat
    refine if_neg ?_
    have live' : (room.closeHeat ctx now).liveHeat = some later := filter_eq_some_iff.mpr ⟨held, by simp [closes.phase]⟩
    rw [live', bind_some]
    cases due : later.settleAt with
    | none => simp
    | some => simpa [due] using waits
  have first : room.advanceDealing ctx now = room := if_neg fun due => by simp [playing] at due
  have third : (room.closeHeat ctx now).advanceSettle ctx now = room.closeHeat ctx now :=
    if_neg fun due => by simp [closes.phase] at due
  unfold advance
  rw [first, second, third]
  exact closes

end TwinRoom

theorem accepts_iff {ctx : GameContext} {player : PlayerState} {actionId : Nat} {top : CardState}
    {symbol : String} (ids : (room.players.map (·.id)).Nodup) (seated : player ∈ room.players) (plays : player.withdrawn = false)
    (current : room.heat = some heat) (playing : room.phase = .heat) (entered : player.heatId = some heat.id)
    (held : player.hand.head? = some top) (matched : room.symbolOf top heat.middle = some symbol)
    (can : CanTap ctx room player heat actionId) (tapped : String) (elapsedMs : Int) :
    Accepts ctx room player actionId (.tap heat.id tapped elapsedMs) ↔ tapped = symbol := by
  have found : room.player player.id = some player := find?_key ids seated
  have authentic : room.authenticatedPlayer player.id player.tokenHash = some player :=
    filter_eq_some_iff.mpr ⟨found, by simp⟩
  let seen : PlayerState := { player with lastSeenAt := ctx.now }
  have goesOn : TwinRoom.GoesOn ctx.now heat (room.updatePlayer player.id fun row => { row with lastSeenAt := ctx.now })
      (room.attend ctx player.id) := TwinRoom.advance_goesOn current playing can.unsettled
  have found' : (room.attend ctx player.id).player player.id = some seen := by
    have again := @find?_updateFirst_same _ room.players (·.id == player.id) (fun row => { row with lastSeenAt := ctx.now })
      fun _ same => same
    unfold TwinRoom.player at found ⊢
    rw [goesOn.players]
    rw [found] at again
    exact again
  generalize attending : room.attend ctx player.id = attended at goesOn found'
  obtain ⟨later, held', id, middle, reveal, waits⟩ := goesOn.heat
  have live : attended.liveHeat = some later := filter_eq_some_iff.mpr ⟨held', by simp [goesOn.phase]⟩
  have expected : attended.expectedSymbol seen = some symbol := by
    have order : attended.order = room.order := goesOn.order
    unfold TwinRoom.expectedSymbol TwinRoom.symbolOf at *
    simp [held', seen, held, middle, order, matched]
  have open_ : attended.tapRefusal ctx seen heat.id = none := by
    have waits' : later.settleAt.any (· ≤ ctx.now) = false := by
      cases due : later.settleAt with
      | none => rfl
      | some => simpa [due] using waits
    have cooled : seen.cooldownUntil.any (ctx.now < ·) = false := by
      have cool := can.cooled
      cases cooling : player.cooldownUntil with
      | none => simp
      | some => simpa [seen, cooling] using cool
    have holds : player.hand.isEmpty = false := by
      cases hand : player.hand with
      | nil => simp [hand] at held
      | cons => rfl
    have revealed := can.revealed
    unfold TwinRoom.tapRefusal
    rw [live]
    simp [Option.filter, id, waits', cooled, expected, seen, entered, can.unlanded, holds, reveal, Int.not_lt.mpr revealed]
  unfold Accepts TwinRoom.applyTwinAction
  simp only [authentic, getD_some, can.new, plays, false_eq_true, if_false, reduceCtorEq, attending, found']
  unfold TwinRoom.command TwinRoom.refusal
  simp only [open_, TwinRoom.carryOut, expected, some.injEq]
  by_cases same : tapped = symbol
  · simp [same, TwinRoom.conclude]
  · simp [same, Ne.symm same, TwinRoom.conclude]

theorem Sound.playable (sound : Sound room) (playing : room.phase = .heat) : ∃ heat, room.heat = some heat ∧ Playable room heat := by
  obtain ⟨heat, current, middle, entered⟩ := sound.live playing
  obtain ⟨_, distinct⟩ := sound.dealt (.inr (.inl playing))
  rw [TwinRoom.table, middle] at distinct
  refine ⟨heat, current, middle, distinct, fun player active held => ?_⟩
  obtain ⟨seated, plays⟩ := TwinRoom.mem_activePlayers.mp active
  cases hand : player.hand with
  | nil => exact absurd hand held
  | cons top =>
    have inHands : top ∈ hands room.players := mem_flatMap.mpr ⟨player, active, by rw [hand]; exact mem_cons_self ..⟩
    obtain ⟨symbol, matched⟩ := Distinct.symbolOf distinct inHands
    have held : player.hand.head? = some top := by rw [hand]; rfl
    exact ⟨symbol, fun ctx actionId tapped elapsedMs can =>
      accepts_iff sound.ids seated plays current playing (entered player active) held matched can tapped elapsedMs⟩

/-- Twin can be played in every reachable heat, and there is a deck for every table. -/
theorem twin_playable (ctx : GameContext) (input : CreateInput) (commands : List Command)
    (draws : EachStep Command.apply Command.DrawsNewId (createTwinRoom ctx input) commands) :
    Throughout Command.apply (fun room => (room.phase = .heat → ∃ heat, room.heat = some heat ∧ Playable room heat) ∧
      ∀ preferredHand, ∃ plan, planTwinDeck room.activePlayers.length preferredHand = some plan)
      (createTwinRoom ctx input) commands := by
  have sound : Throughout Command.apply Sound (createTwinRoom ctx input) commands :=
    (EachStep.shows (fun sound draws => ⟨Sound.apply sound draws, trivial⟩) (Sound.created ctx input) draws).1
  exact sound.imp fun room sound => ⟨sound.playable, planTwinDeck_admitted sound.seats⟩

def annAndBob : List Command := [.joinAs "Bob" 2, .by 0 3 1 (.start []), .readBy 0 2003]

theorem twin_playable_annAndBob :
    EachStep Command.apply Command.DrawsNewId (createTwinRoom (.plain 1) annsTable) annAndBob ∧
    (runFrom Command.apply (createTwinRoom (.plain 1) annsTable) annAndBob).phase = .heat ∧
    Throughout Command.apply (fun room => (room.phase = .heat → ∃ heat, room.heat = some heat ∧ Playable room heat) ∧
      ∀ preferredHand, ∃ plan, planTwinDeck room.activePlayers.length preferredHand = some plan)
      (createTwinRoom (.plain 1) annsTable) annAndBob :=
  have draws : EachStep Command.apply Command.DrawsNewId (createTwinRoom (.plain 1) annsTable) annAndBob := by decide +kernel
  ⟨draws, by decide +kernel, twin_playable (.plain 1) annsTable annAndBob draws⟩

end MilkAndHenny.Twin
