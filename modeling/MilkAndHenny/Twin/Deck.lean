import MilkAndHenny.Library.Table
import MilkAndHenny.Library.Reorder

/-! The deck of Twin: a finite projective plane whose points are symbols and whose lines are
cards, so that any two cards share exactly one symbol. -/

namespace MilkAndHenny.Twin
open Library

structure Extension where
  prime : Nat
  degree : Nat
  polynomial : List Nat

/-- `EXTENSIONS`; every other order is a prime. -/
def extensions : Nat → Option Extension
  | 4 => some { prime := 2, degree := 2, polynomial := [1, 1, 1] }
  | 8 => some { prime := 2, degree := 3, polynomial := [1, 1, 0, 1] }
  | 9 => some { prime := 3, degree := 2, polynomial := [1, 0, 1] }
  | _ => none

def digits (prime degree value : Nat) : List Nat := (List.range degree).map fun index => value / prime ^ index % prime

def encode (prime : Nat) (coefficients : List Nat) : Nat :=
  coefficients.foldr (fun coefficient total => coefficient + prime * total) 0

def polynomialProduct (prime degree : Nat) (left right : List Nat) : List Nat :=
  (List.range ((degree - 1) * 2 + 1)).map fun power =>
    ((List.range (power + 1)).map fun index => left.getD index 0 * right.getD (power - index) 0).sum % prime

def reducePolynomial (extension : Extension) (raw : List Nat) : List Nat :=
  ((List.range' extension.degree (raw.length - extension.degree)).reverse).foldl (fun raw power =>
    let coefficient := raw.getD power 0
    if coefficient = 0 then raw
    else
      (List.range extension.degree).foldl (fun raw index =>
        raw.modify (power - extension.degree + index) fun value =>
          (value + extension.prime * extension.prime - coefficient * extension.polynomial.getD index 0) % extension.prime)
        (raw.set power 0)) raw

/-- The elements are integers that encode their coefficients in base `prime`. -/
structure GaloisField where
  add : Nat → Nat → Nat
  multiply : Nat → Nat → Nat
  /-- Asked for the elements that are not zero. -/
  inverse : Nat → Nat

def galoisField (order : Nat) : GaloisField :=
  let extension := extensions order
  let prime := extension.elim order (·.prime)
  let degree := extension.elim 1 (·.degree)
  let add (a b : Nat) : Nat :=
    encode prime (List.zipWith (fun left right => (left + right) % prime) (digits prime degree a) (digits prime degree b))
  let multiply (a b : Nat) : Nat :=
    let raw := polynomialProduct prime degree (digits prime degree a) (digits prime degree b)
    encode prime ((extension.elim raw (reducePolynomial · raw)).take degree)
  { add, multiply, inverse := fun a => ((List.range' 1 (order - 1)).find? fun b => multiply a b == 1).getD 0 }

def twinPoints (order : Nat) : List (List Nat) :=
  let field := galoisField order
  let triples := (List.range order).flatMap fun x => (List.range order).flatMap fun y => (List.range order).map fun z => [x, y, z]
  distinct (triples.filterMap fun triple => (triple.find? (· != 0)).map fun lead =>
    triple.map fun value => field.multiply value (field.inverse lead))

def twinPlane (order : Nat) : List (List Nat) :=
  let field := galoisField order
  let points := twinPoints order
  points.map fun line =>
    (points.zipIdx.filter fun (point, _) => (List.zipWith field.multiply point line).foldl field.add 0 == 0).map Prod.snd

/-- The ids of `TWIN_SYMBOLS`. -/
def twinSymbols : List String :=
  ["ring", "triangle", "square", "pentagon", "hexagon", "teardrop", "crescent", "heart", "leaf", "capsule", "shield", "blob",
    "star4", "star5", "star6", "burst", "flower", "cross", "bolt", "wave", "spiral", "chevron", "hook", "infinity", "ladder",
    "eye", "key", "anchor", "triad", "window", "arrow"]

def twinMinHand : Nat := 3
def twinMaxHand : Nat := 10
def twinDefaultHand : Nat := 6

def twinDeckCapacity (order : Nat) : Nat := order * order + order + 1

/-- The orders that this build can deal, given how many symbols have been drawn. -/
def twinAvailableOrders : List Nat := [4, 5, 7].filter fun order => twinDeckCapacity order ≤ twinSymbols.length

abbrev TwinOrder : Type := { order : Nat // order ∈ twinAvailableOrders }

/-- The id `o4c12` is of the card 12 of order 4. -/
structure CardId where
  order : Nat
  index : Nat
deriving DecidableEq

structure TwinCard where
  id : CardId
  symbolIds : List String

def twinDeck (order : TwinOrder) : List TwinCard :=
  (twinPlane order).zipIdx.map fun (line, index) =>
    { id := { order, index }, symbolIds := line.map fun point => twinSymbols.getD point "" }

def twinCardById (order : TwinOrder) (id : CardId) : Option TwinCard := (twinDeck order).find? (·.id == id)

structure TwinDeckPlan where
  order : TwinOrder
  handSize : Nat

def planTwinDeck (players preferredHand : Nat) : Option TwinDeckPlan :=
  let wanted := max twinMinHand (min twinMaxHand preferredHand)
  (List.range' twinMinHand (wanted + 1 - twinMinHand)).reverse.findSome? fun handSize =>
    (twinAvailableOrders.attach.find? fun order : TwinOrder => players * handSize + 1 ≤ twinDeckCapacity order).map fun order =>
      { order, handSize }

def twinMaxPlayers : Nat := min 12 (((twinAvailableOrders.map twinDeckCapacity).foldl max 0 - 1) / twinMinHand)

/-- `twinRandom`, its next number as one of the 2³² that it can be, and the state after it. -/
def twinRandom (state : UInt32) : UInt32 × UInt32 :=
  let state := state + 0x6d2b79f5
  let first := (state ^^^ (state >>> 15)) * (1 ||| state)
  let second := (first + (first ^^^ (first >>> 7)) * (61 ||| first)) ^^^ first
  (second ^^^ (second >>> 14), state)

/-- `Math.floor(random() * bound)`. -/
def pickBelow (bound : Nat) (value : UInt32) : Nat := value.toNat * bound / 2 ^ 32

def shuffleTwinFrom {α : Type} (state : UInt32) : Nat → List α → List α
  | 0, items => items
  | index + 1, items =>
    let (value, state) := twinRandom state
    let swap := pickBelow (index + 2) value
    let swapped := match items[index + 1]?, items[swap]? with
      | some last, some other => (items.set (index + 1) other).set swap last
      | _, _ => items
    shuffleTwinFrom state index swapped

def shuffleTwinDeck {α : Type} (items : List α) (seed : UInt32) : List α := shuffleTwinFrom seed (items.length - 1) items

structure TwinDeal where
  /-- One hand per player, the top card first. -/
  hands : List (List TwinCard)
  middle : TwinCard

def dealTwin (plan : TwinDeckPlan) (players : Nat) (seed : UInt32) : Option TwinDeal :=
  let shuffled := shuffleTwinDeck (twinDeck plan.order) seed
  (shuffled[players * plan.handSize]?).map fun middle =>
    { hands := (List.range players).map fun seat => (shuffled.drop (seat * plan.handSize)).take plan.handSize
      middle }

def twinMatch (left right : TwinCard) : Option String :=
  match left.symbolIds.filter right.symbolIds.contains with
  | [symbol] => some symbol
  | _ => none

/-! ### Any two cards share one symbol -/

section
variable {order : TwinOrder} {left right card : TwinCard}

structure IsPlane (order : Nat) (lines : List (List Nat)) : Prop where
  length : lines.length = twinDeckCapacity order
  painted : ∀ line ∈ lines, ∀ point ∈ line, point < twinSymbols.length
  apart : lines.Nodup
  meets : ∀ line ∈ lines, ∀ other ∈ lines, line ≠ other → (line.filter other.contains).length = 1

instance {order : Nat} {lines : List (List Nat)} : Decidable (IsPlane order lines) :=
  decidable_of_iff (lines.length = twinDeckCapacity order ∧ (∀ line ∈ lines, ∀ point ∈ line, point < twinSymbols.length) ∧
      lines.Nodup ∧ ∀ line ∈ lines, ∀ other ∈ lines, line ≠ other → (line.filter other.contains).length = 1)
    ⟨fun ⟨length, painted, apart, meets⟩ => ⟨length, painted, apart, meets⟩,
      fun ⟨length, painted, apart, meets⟩ => ⟨length, painted, apart, meets⟩⟩

theorem twinPlane_isPlane (order : TwinOrder) : IsPlane order (twinPlane order) := by
  have all : ∀ order ∈ twinAvailableOrders, IsPlane order (twinPlane order) := by decide +kernel
  exact all order order.2

theorem twinDeck_length (order : TwinOrder) : (twinDeck order).length = twinDeckCapacity order := by
  rw [twinDeck, length_map, List.length_zipIdx, (twinPlane_isPlane order).length]

theorem twinDeck_ids (order : TwinOrder) : ((twinDeck order).map (·.id)).Nodup := by
  have ids : (twinDeck order).map (·.id) = ((twinPlane order).zipIdx.map Prod.snd).map fun index => { order, index : CardId } := by
    simp only [twinDeck, map_map]
    rfl
  rw [ids, List.zipIdx_map_snd]
  exact List.Nodup.map (fun _ _ same => congrArg CardId.index same) List.nodup_range'

theorem getD_injective {symbols : List String} {first second : Nat} (unique : symbols.Nodup) (inside : first < symbols.length)
    (within : second < symbols.length) (same : symbols.getD first "" = symbols.getD second "") : first = second := by
  simp only [List.getD_eq_getElem?_getD, getElem?_eq_getElem inside, getElem?_eq_getElem within, getD_some] at same
  exact unique.getElem_inj_iff.mp same

theorem twinMatch_painted {paint : Nat → String} {line other : List Nat} (first : left.symbolIds = line.map paint)
    (second : right.symbolIds = other.map paint) (faithful : ∀ point ∈ line, ∀ twin ∈ other, paint twin = paint point → twin = point)
    (meet : (line.filter other.contains).length = 1) : ∃ symbol, twinMatch left right = some symbol := by
  have shared : (line.map paint).filter (other.map paint).contains = (line.filter other.contains).map paint := by
    rw [filter_map]
    refine congrArg (List.map _) (filter_congr fun point mem => ?_)
    simp only [Function.comp_apply, contains_eq_mem, mem_map, decide_eq_decide]
    refine ⟨fun ⟨twin, member', same⟩ => ?_, fun member' => ⟨point, member', rfl⟩⟩
    exact faithful point mem twin member' same ▸ member'
  obtain ⟨point, alone⟩ := List.length_eq_one_iff.mp meet
  refine ⟨paint point, ?_⟩
  simp [twinMatch, first, second, shared, alone]

theorem twinDeck_matches (first : left ∈ twinDeck order) (second : right ∈ twinDeck order) (apart : left.id ≠ right.id) :
    ∃ symbol, twinMatch left right = some symbol := by
  have plane := twinPlane_isPlane order
  obtain ⟨⟨line, index⟩, listed, rfl⟩ := mem_map.mp first
  obtain ⟨⟨other, place⟩, listed', rfl⟩ := mem_map.mp second
  obtain ⟨inside, drawn⟩ := List.mem_zipIdx' listed
  obtain ⟨within, drawn'⟩ := List.mem_zipIdx' listed'
  have mem : line ∈ twinPlane order := drawn ▸ getElem_mem inside
  have member' : other ∈ twinPlane order := drawn' ▸ getElem_mem within
  have different : line ≠ other := fun same =>
    apart (congrArg (CardId.mk order) (plane.apart.getElem_inj_iff.mp (drawn.symm.trans (same.trans drawn'))))
  refine twinMatch_painted rfl rfl (fun point on twin on' same => ?_) (plane.meets line mem other member' different)
  exact getD_injective (by decide) (plane.painted other member' twin on') (plane.painted line mem point on) same

theorem twinCardById_found (listed : card ∈ twinDeck order) : twinCardById order card.id = some card :=
  find?_key (twinDeck_ids order) listed

end

/-! ### Every hand is dealt -/

section
variable {players preferredHand : Nat} {plan : TwinDeckPlan} {seed : UInt32} {α : Type}

theorem planTwinDeck_fits (planned : planTwinDeck players preferredHand = some plan) :
    players * plan.handSize + 1 ≤ twinDeckCapacity plan.order ∧ twinMinHand ≤ plan.handSize := by
  obtain ⟨handSize, listed, found⟩ := List.exists_of_findSome?_eq_some planned
  obtain ⟨order, holds, rfl⟩ := map_eq_some_iff.mp found
  have fits := find?_some (p := fun order : TwinOrder => decide (players * handSize + 1 ≤ twinDeckCapacity order)) holds
  exact ⟨of_decide_eq_true fits, (mem_range'_1.mp (mem_reverse.mp listed)).1⟩

theorem planTwinDeck_admitted (admitted : players ≤ twinMaxPlayers) (preferredHand : Nat) :
    ∃ plan, planTwinDeck players preferredHand = some plan := by
  refine isSome_iff_exists.mp (List.findSome?_isSome_iff.mpr ⟨twinMinHand, ?_, ?_⟩)
  · rw [mem_reverse, mem_range'_1]
    omega
  · have limit : twinMaxPlayers = 10 := by decide
    have holds : players * twinMinHand + 1 ≤ twinDeckCapacity 5 := by
      simp only [twinMinHand, twinDeckCapacity]
      omega
    rw [isSome_map]
    exact find?_isSome.mpr ⟨⟨5, by decide⟩, List.mem_attach _ _, decide_eq_true holds⟩

theorem shuffleTwinFrom_perm (state : UInt32) (index : Nat) (items : List α) :
    (shuffleTwinFrom state index items).Perm items := by
  induction index generalizing state items with
  | zero => exact .refl items
  | succ index ih =>
    unfold shuffleTwinFrom
    obtain ⟨value, next⟩ := twinRandom state
    simp only
    generalize pickBelow (index + 2) value = swap
    exact (ih next _).trans (exchange_perm items (index + 1) swap)

theorem shuffleTwinDeck_perm (items : List α) (seed : UInt32) : (shuffleTwinDeck items seed).Perm items :=
  shuffleTwinFrom_perm seed _ items

/-- Every hand is full, and no card is dealt twice. -/
structure TwinDeal.Fair (deal : TwinDeal) (plan : TwinDeckPlan) (players : Nat) : Prop where
  seats : deal.hands.length = players
  full : ∀ hand ∈ deal.hands, hand.length = plan.handSize
  apart : (deal.middle :: deal.hands.flatten).Nodup
  listed : ∀ card ∈ deal.middle :: deal.hands.flatten, card ∈ twinDeck plan.order

theorem dealTwin_fair (fits : players * plan.handSize + 1 ≤ twinDeckCapacity plan.order) (seed : UInt32) :
    ∃ deal, dealTwin plan players seed = some deal ∧ deal.Fair plan players := by
  have ids := twinDeck_ids plan.order
  rw [← twinDeck_length] at fits
  unfold dealTwin
  generalize same : twinDeck plan.order = deck at ids fits ⊢
  have shuffled := shuffleTwinDeck_perm deck seed
  generalize shuffleTwinDeck deck seed = cards at shuffled ⊢
  have unique : cards.Nodup := shuffled.nodup_iff.mpr (List.Nodup.of_map _ ids)
  have enough : players * plan.handSize < cards.length := shuffled.length_eq ▸ fits
  simp only [getElem?_eq_getElem enough, map_some]
  have dealt : (cards[players * plan.handSize] :: ((List.range players).map fun seat =>
      (cards.drop (seat * plan.handSize)).take plan.handSize).flatten).Perm (cards.take (players * plan.handSize + 1)) := by
    rw [← List.flatMap_def, flatMap_slices, List.take_succ_eq_append_getElem enough]
    exact @List.perm_append_comm _ [_] _
  refine ⟨_, rfl, ⟨?_, ?_, ?_, ?_⟩⟩
  · simp
  · intro hand mem
    obtain ⟨seat, inside, rfl⟩ := mem_map.mp mem
    have seats : (seat + 1) * plan.handSize ≤ players * plan.handSize := Nat.mul_le_mul_right _ (mem_range.mp inside)
    rw [List.length_take, List.length_drop]
    rw [Nat.succ_mul] at seats
    omega
  · exact dealt.nodup_iff.mpr (unique.sublist (List.take_sublist _ _))
  · intro card mem
    rw [same]
    exact shuffled.subset (mem_of_mem_take (dealt.subset mem))

end

end MilkAndHenny.Twin
