import MilkAndHenny.Library.Alignment
import MilkAndHenny.Library.Ranking
import MilkAndHenny.Zip.Archive
import Mathlib.Algebra.Order.Monoid.Unbundled.WithTop

/-! How close a spelling is to the word, and the places of the answers of a round. -/

namespace MilkAndHenny.SpellingParty
open Library
open Zip (trim)

/-- What comes with the JavaScript engine: the Unicode tables, the collation and the arithmetic
on doubles. -/
structure Runtime where
  /-- `normalize("NFKC")`. -/
  nfkc : String → String
  /-- `toLocaleLowerCase("en-US")`. -/
  toLocaleLowerCase : String → String
  localeCompare : String → String → Ordering
  collation : Std.TransCmp localeCompare
  /-- `Math.max(0, Math.round((1 - distance / comparisonLength) * 100))`. -/
  similarity : Nat → Nat → Nat

namespace Runtime
variable (runtime : Runtime)

instance : Std.TransCmp runtime.localeCompare := runtime.collation

instance : Inhabited Runtime := ⟨⟨id, id, compare, inferInstance, fun distance length => (length - distance) * 100 / length⟩⟩

def normalizeSpelling (value : String) : String := runtime.toLocaleLowerCase (trim (runtime.nfkc value))

def normalizeAnswer (value : String) : String := runtime.toLocaleLowerCase (trim (runtime.nfkc value))

end Runtime

/-! ### The distance -/

/-- `rows[row]`. -/
def line (rows : List (List Nat)) (row : Nat) : List Nat := rows[row]?.getD []

/-- `rows[row][column]`. -/
def cell (rows : List (List Nat)) (row column : Nat) : Nat := (line rows row)[column]?.getD 0

/-- `rows[row][column] = value`. -/
def setCell (rows : List (List Nat)) (row column value : Nat) : List (List Nat) := rows.modify row (·.set column value)

def startingRows (left right : List Char) : List (List Nat) :=
  (List.range (left.length + 1)).map fun row =>
    (List.range (right.length + 1)).map fun column => if row = 0 then column else if column = 0 then row else 0

def cellValue (left right : List Char) (rows : List (List Nat)) (row column : Nat) : Nat :=
  let substitution := if left[row - 1]? = right[column - 1]? then 0 else 1
  let plain := min (cell rows (row - 1) column + 1)
    (min (cell rows row (column - 1) + 1) (cell rows (row - 1) (column - 1) + substitution))
  if 1 < row ∧ 1 < column ∧ left[row - 1]? = right[column - 2]? ∧ left[row - 2]? = right[column - 1]?
  then min plain (cell rows (row - 2) (column - 2) + 1) else plain

def fillCell (left right : List Char) (row : Nat) (rows : List (List Nat)) (column : Nat) : List (List Nat) :=
  setCell rows row column (cellValue left right rows row column)

def fillRow (left right : List Char) (rows : List (List Nat)) (row : Nat) : List (List Nat) :=
  (List.range' 1 right.length).foldl (fillCell left right row) rows

def distanceOf (left right : List Char) : Nat :=
  let rows := (List.range' 1 left.length).foldl (fillRow left right) (startingRows left right)
  cell rows left.length right.length

def spellingDistance (runtime : Runtime) (answer target : String) : Nat :=
  distanceOf (runtime.normalizeSpelling answer).toList (runtime.normalizeSpelling target).toList

/-- The distance from the start of one word to the start of the other. -/
def Reached (left right : List Char) (rows : List (List Nat)) (row column : Nat) : Prop :=
  IsLeast (Costs (left.take row) (right.take column)) (cell rows row column)

/-- The table has its shape, and the cells that are done hold distances. -/
structure Filled (left right : List Char) (done : Nat → Nat → Prop) (rows : List (List Nat)) : Prop where
  lines : ∀ row ≤ left.length, (line rows row).length = right.length + 1
  reached : ∀ row ≤ left.length, ∀ column ≤ right.length, done row column → Reached left right rows row column

section
variable {left right : List Char} {rows : List (List Nat)} {row column : Nat} {count : Nat}

theorem line_setCell (rows : List (List Nat)) (row column value other : Nat) :
    line (setCell rows row column value) other = if other = row then (line rows row).set column value else line rows other := by
  unfold line setCell
  rw [List.getElem?_modify]
  by_cases same : row = other
  · subst same
    cases rows[row]? <;> simp
  · simp [same, Ne.symm same]

theorem cell_setCell (value i j : Nat) (inside : column < (line rows row).length) :
    cell (setCell rows row column value) i j = if i = row ∧ j = column then value else cell rows i j := by
  unfold cell
  rw [line_setCell]
  by_cases same : i = row
  · subst same
    by_cases same : column = j
    · simp [same, same ▸ inside]
    · simp [same, Ne.symm same]
  · simp [same]

theorem line_startingRows (inside : row ≤ left.length) : line (startingRows left right) row =
    (List.range (right.length + 1)).map fun column => if row = 0 then column else if column = 0 then row else 0 := by
  simp [line, startingRows, Nat.lt_succ_of_le inside]

theorem cell_startingRows (inside : row ≤ left.length) (within : column ≤ right.length) :
    cell (startingRows left right) row column = if row = 0 then column else if column = 0 then row else 0 := by
  simp [cell, line_startingRows inside, Nat.lt_succ_of_le within]

theorem filled_startingRows : Filled left right (fun row column => row = 0 ∨ column = 0) (startingRows left right) where
  lines := by
    intro row inside
    rw [line_startingRows inside, length_map, length_range]
  reached := by
    rintro row inside column within (rfl | rfl)
    · unfold Reached
      rw [cell_startingRows inside within, if_pos rfl, List.take_zero]
      simpa [within] using isLeast_insert (right.take column)
    · unfold Reached
      have first : (if row = 0 then 0 else if 0 = 0 then row else 0) = row := by split <;> simp_all
      rw [cell_startingRows inside within, first, List.take_zero]
      simpa [inside] using isLeast_delete (left.take row)

def Passed (row column : Nat) (i j : Nat) : Prop := i < row ∨ i = row ∧ j < column ∨ i = 0 ∨ j = 0

theorem last_of_take {items front : List Char} {item : Char} (within : count ≤ items.length)
    (ends : items.take count = front ++ [item]) : 1 ≤ count ∧ items[count - 1]? = some item := by
  have size := congrArg List.length ends
  rw [List.length_take_of_le within, length_append, length_singleton] at size
  have found : (items.take count)[count - 1]? = some item := by rw [ends]; simp [size]
  rw [List.getElem?_take_of_lt (by omega)] at found
  exact ⟨by omega, found⟩

theorem reached_cellValue (inside : row < left.length) (within : column < right.length) (above : Reached left right rows row (column + 1))
    (beside : Reached left right rows (row + 1) column) (across : Reached left right rows row column)
    (beyond : Reached left right rows (row - 1) (column - 1)) :
    IsLeast (Costs (left.take (row + 1)) (right.take (column + 1))) (cellValue left right rows (row + 1) (column + 1)) := by
  unfold Reached at *
  unfold cellValue
  simp only [Nat.add_sub_cancel, Nat.lt_add_left_iff_pos, Nat.reduceSubDiff, getElem?_eq_getElem inside, getElem?_eq_getElem within,
    some.injEq]
  rw [take_add_one, getElem?_eq_getElem inside, toList_some] at beside ⊢
  rw [@take_add_one _ right, getElem?_eq_getElem within, toList_some] at above ⊢
  split
  · next swapped =>
    obtain ⟨later, later', first, second⟩ := swapped
    obtain ⟨row, rfl⟩ := Nat.exists_eq_succ_of_ne_zero later.ne'
    obtain ⟨column, rfl⟩ := Nat.exists_eq_succ_of_ne_zero later'.ne'
    have front : left.take row.succ = left.take row ++ [right[column.succ]] := by
      rw [take_add_one]
      exact congrArg (left.take row ++ ·.toList) second
    have front' : right.take column.succ = right.take column ++ [left[row.succ]] := by
      rw [take_add_one]
      exact congrArg (right.take column ++ ·.toList) first.symm
    rw [front, front', append_assoc, append_assoc]
    rw [front, front', append_assoc] at above beside
    rw [front, front'] at across
    exact isLeast_swap above beside across beyond
  · next apart =>
    refine isLeast_plain above beside across fun front front' first second => apart ?_
    obtain ⟨some_, last⟩ := last_of_take inside.le first
    obtain ⟨some_', last'⟩ := last_of_take within.le second
    exact ⟨some_, some_', last'.symm, last⟩

theorem filled_fillCell (inside : row < left.length) (within : column < right.length)
    (filled : Filled left right (Passed (row + 1) (column + 1)) rows) :
    Filled left right (Passed (row + 1) (column + 2)) (fillCell left right (row + 1) rows (column + 1)) := by
  have above : Reached left right rows row (column + 1) := filled.reached _ inside.le _ within (.inl (Nat.lt_succ_self row))
  have beside : Reached left right rows (row + 1) column := filled.reached _ inside _ within.le (.inr (.inl ⟨rfl, Nat.lt_succ_self column⟩))
  have across : Reached left right rows row column := filled.reached _ inside.le _ within.le (.inl (Nat.lt_succ_self row))
  have beyond : Reached left right rows (row - 1) (column - 1) :=
    filled.reached _ (by omega) _ (by omega) (.inl (by omega))
  refine ⟨fun other inside' => ?_, fun i inside' j within' done => ?_⟩
  · unfold fillCell
    rw [line_setCell]
    split
    · rw [length_set, filled.lines _ inside]
    · exact filled.lines other inside'
  unfold Reached fillCell
  rw [cell_setCell _ _ _ (by rw [filled.lines _ inside]; omega)]
  split
  · next same =>
    obtain ⟨rfl, rfl⟩ := same
    exact reached_cellValue inside within above beside across beyond
  · next other =>
    refine filled.reached i inside' j within' ?_
    unfold Passed at *
    omega

theorem Filled.imp {done done' : Nat → Nat → Prop} (filled : Filled left right done rows)
    (known : ∀ row ≤ left.length, ∀ column ≤ right.length, done' row column → done row column) : Filled left right done' rows where
  lines := filled.lines
  reached row inside column within passed := filled.reached row inside column within (known row inside column within passed)

theorem filled_columns (inside : row < left.length) (filled : Filled left right (Passed (row + 1) 1) rows)
    (within : count ≤ right.length) :
    Filled left right (Passed (row + 1) (count + 1)) ((List.range' 1 count).foldl (fillCell left right (row + 1)) rows) := by
  induction count with
  | zero => exact filled
  | succ count ih =>
    rw [List.range'_1_concat, foldl_append, Nat.add_comm 1 count]
    exact filled_fillCell inside within (ih (Nat.le_of_succ_le within))

theorem filled_rows (inside : count ≤ left.length) :
    Filled left right (Passed (count + 1) 1) ((List.range' 1 count).foldl (fillRow left right) (startingRows left right)) := by
  induction count with
  | zero =>
    refine filled_startingRows.imp fun row _ column _ passed => ?_
    unfold Passed at passed
    omega
  | succ count ih =>
    rw [List.range'_1_concat, foldl_append, Nat.add_comm 1 count]
    refine (filled_columns inside (ih (Nat.le_of_succ_le inside)) le_rfl).imp fun row _ column within passed => ?_
    unfold Passed at *
    omega

theorem isLeast_distanceOf (left right : List Char) : IsLeast (Costs left right) (distanceOf left right) := by
  have filled : Filled left right _ _ := filled_rows (Nat.le_refl left.length)
  have last := filled.reached left.length le_rfl right.length le_rfl (.inl (Nat.lt_succ_self _))
  rwa [Reached, List.take_length, List.take_length] at last

-- no character is edited twice: swapping and inserting in between would take two edits
example : distanceOf "ca".toList "abc".toList = 3 := by decide

theorem distanceOf_comm (left right : List Char) : distanceOf left right = distanceOf right left :=
  (isLeast_distanceOf left right).unique (costs_comm right left ▸ isLeast_distanceOf right left)

theorem distanceOf_eq_zero : distanceOf left right = 0 ↔ left = right := by
  refine Iff.trans ⟨fun none_ => ?_, fun reached => ?_⟩ zero_mem_costs
  · exact none_ ▸ (isLeast_distanceOf left right).1
  · exact Nat.le_zero.mp ((isLeast_distanceOf left right).2 reached)

end

/-- `player.score += 1` for the round. -/
def Runtime.correct (runtime : Runtime) (draft word : String) : Prop := runtime.normalizeAnswer draft = runtime.normalizeAnswer word

theorem spellingDistance_eq_zero (runtime : Runtime) (answer target : String) :
    spellingDistance runtime answer target = 0 ↔ runtime.correct answer target :=
  distanceOf_eq_zero.trans String.toList_inj

/-! ### The places -/

structure Ranked (α : Type) where
  row : α
  distance : Nat
  similarity : Nat
  place : Nat

section
variable {α : Type} (runtime : Runtime) (answer name : α → String) (target : String) {seen : Finset (WithTop Nat)} {previousKey : Option Key}

def blank (row : α) : Bool := (runtime.normalizeSpelling (answer row)).isEmpty

def measured (row : α) : Ranked α :=
  let targetLength := max 1 (runtime.normalizeSpelling target).toList.length
  let distance := spellingDistance runtime (answer row) target
  let comparisonLength := max targetLength (max (runtime.normalizeSpelling (answer row)).toList.length 1)
  { row, distance, similarity := runtime.similarity distance comparisonLength, place := 0 }

def compareRanked (left right : Ranked α) : Ordering :=
  let leftBlank := blank runtime answer left.row
  let rightBlank := blank runtime answer right.row
  if leftBlank ≠ rightBlank then (if leftBlank then .gt else .lt)
  else (compare left.distance right.distance).then (runtime.localeCompare (name left.row) (name right.row))

/-- The `key` of a row. -/
inductive Key where
  | distance (edits : Nat)
  | blank
  deriving DecidableEq

def keyOf (ranked : Ranked α) : Key := if blank runtime answer ranked.row then .blank else .distance ranked.distance

/-- `ranked.map`, with the place and the key of the row before. -/
def placed : Nat → Option Key → List (Ranked α) → List (Ranked α)
  | _, _, [] => []
  | place, previousKey, row :: rows =>
    let key := keyOf runtime answer row
    let place := if some key ≠ previousKey then place + 1 else place
    { row with place } :: placed place (some key) rows

def rankSpellingAnswers (answers : List α) : List (Ranked α) :=
  placed runtime answer 0 none
    (orderBy (fun left right => (compareRanked runtime answer name left right).isLE) (answers.map (measured runtime answer target)))

/-! ### What the places are -/

def Key.standing : Key → WithTop Nat
  | .distance edits => edits
  | .blank => ⊤

def standing (row : α) : WithTop Nat := if blank runtime answer row then ⊤ else spellingDistance runtime (answer row) target

theorem Key.standing_inj {key other : Key} : key.standing = other.standing ↔ key = other := by
  cases key <;> cases other <;> simp [Key.standing]

theorem standing_keyOf (row : α) : (keyOf runtime answer (measured runtime answer target row)).standing = standing runtime answer target row := by
  unfold keyOf standing
  split
  · next empty => rw [if_pos (by simpa [measured] using empty), Key.standing]
  · next filled => rw [if_neg (by simpa [measured] using filled), Key.standing, measured]

instance : Std.TransCmp (compareRanked runtime answer name) := by
  have byName : Std.TransCmp fun left right : Ranked α => runtime.localeCompare (name left.row) (name right.row) :=
    { eq_swap := Std.OrientedCmp.eq_swap, isLE_trans := Std.TransCmp.isLE_trans }
  have lexicographic : compareRanked runtime answer name =
      compareLex (compareOn fun ranked => blank runtime answer ranked.row)
        (compareLex (compareOn Ranked.distance) fun left right => runtime.localeCompare (name left.row) (name right.row)) := by
    funext left right
    simp only [compareRanked, compareLex, compareOn]
    cases blank runtime answer left.row <;> cases blank runtime answer right.row <;> rfl
  exact lexicographic ▸ inferInstance

theorem standing_le_of_compare {left right : Ranked α} (before : (compareRanked runtime answer name left right).isLE) :
    (keyOf runtime answer left).standing ≤ (keyOf runtime answer right).standing := by
  unfold compareRanked at before
  unfold keyOf
  cases first : blank runtime answer left.row <;> cases second : blank runtime answer right.row
  · have within : left.distance ≤ right.distance := by
      simp only [first, second, ne_eq, not_true_eq_false, if_false, Ordering.isLE_then_iff_and] at before
      exact Nat.isLE_compare.mp before.1
    exact WithTop.coe_le_coe.mpr within
  · exact le_top
  · simp [first, second] at before
  · exact le_rfl

/-- What the row before left behind: its key is the last of those counted. -/
def Follows (previousKey : Option Key) (seen : Finset (WithTop Nat)) : Prop :=
  match previousKey with
  | none => seen = ∅
  | some key => IsGreatest (seen : Set (WithTop Nat)) key.standing

theorem Follows.next (follows : Follows previousKey seen) {key : Key} (before : ∀ other ∈ seen, other ≤ key.standing) :
    (if some key ≠ previousKey then seen.card + 1 else seen.card) = (insert key.standing seen).card ∧
      Follows (some key) (insert key.standing seen) := by
  have greatest : Follows (some key) (insert key.standing seen) := by
    refine ⟨Finset.mem_insert_self _ _, fun other mem => ?_⟩
    rcases Finset.mem_insert.mp mem with same | seen
    · exact same.le
    · exact before other seen
  refine ⟨?_, greatest⟩
  by_cases same : some key = previousKey
  · subst same
    rw [if_neg (not_not.mpr rfl), Finset.insert_eq_of_mem follows.1]
  · rw [if_pos same, Finset.card_insert_of_notMem fun mem => ?_]
    cases previousKey with
    | none => exact absurd mem (follows ▸ Finset.notMem_empty _)
    | some => exact same (congrArg some (Key.standing_inj.mp ((follows.2 mem).antisymm (before _ follows.1))))

theorem placed_eq {rows : List (Ranked α)} (sorted : rows.Pairwise fun left right =>
      (keyOf runtime answer left).standing ≤ (keyOf runtime answer right).standing)
    (follows : Follows previousKey seen)
    (before : ∀ row ∈ rows, ∀ other ∈ seen, other ≤ (keyOf runtime answer row).standing) :
    placed runtime answer seen.card previousKey rows = rows.map fun row =>
      { row with place :=
          denseRank (seen ∪ (rows.map fun row => (keyOf runtime answer row).standing).toFinset) (keyOf runtime answer row).standing } := by
  induction rows generalizing seen previousKey with
  | nil => rfl
  | cons row rows ih =>
    obtain ⟨first, sorted⟩ := pairwise_cons.mp sorted
    obtain ⟨here, rest⟩ := forall_mem_cons.mp before
    obtain ⟨counted, follows⟩ := follows.next here
    have keys : seen ∪ ((row :: rows).map fun row => (keyOf runtime answer row).standing).toFinset =
        insert (keyOf runtime answer row).standing seen ∪ (rows.map fun row => (keyOf runtime answer row).standing).toFinset := by
      rw [map_cons, List.toFinset_cons, Finset.union_insert, Finset.insert_union]
    have place := @denseRank_sorted _ _ _ (rows.map fun row => (keyOf runtime answer row).standing) _ here (by simpa using first)
    have later := ih sorted follows fun other mem key seen => by
      rcases Finset.mem_insert.mp seen with same | seen
      · exact same ▸ first other mem
      · exact rest other mem key seen
    rw [placed, counted, later, map_cons, keys, place]

theorem rankSpellingAnswers_perm (answers : List α) : (rankSpellingAnswers runtime answer name target answers).Perm
    (answers.map fun row => { measured runtime answer target row with
      place := denseRank (answers.map (standing runtime answer target)).toFinset (standing runtime answer target row) }) := by
  have perm := perm_insertionSort (fun left right => (compareRanked runtime answer name left right).isLE)
    (answers.map (measured runtime answer target))
  have total : Std.Total fun left right => (compareRanked runtime answer name left right).isLE := ⟨fun left right =>
    or_iff_not_imp_left.mpr fun after => by rw [Std.OrientedCmp.lt_of_not_isLE after]; rfl⟩
  have trans : IsTrans _ fun left right => (compareRanked runtime answer name left right).isLE := ⟨fun _ _ _ => Std.TransCmp.isLE_trans⟩
  have sorted := List.pairwise_insertionSort (fun left right => (compareRanked runtime answer name left right).isLE)
    (answers.map (measured runtime answer target))
  have start : Follows none ∅ := rfl
  have places := placed_eq runtime answer (sorted.imp fun before => standing_le_of_compare runtime answer name before) start (by simp)
  rw [Finset.card_empty] at places
  unfold rankSpellingAnswers orderBy
  rw [places, Finset.empty_union, List.toFinset_eq_of_perm _ _ (perm.map _)]
  refine (perm.map _).trans (List.Perm.of_eq ?_)
  rw [map_map, map_map]
  simp [Function.comp_def, standing_keyOf]

end

/-- The table computes the least number of edits, so the distance is symmetric and nothing exactly
for answers that score; the places are dense, follow the distances with the blank answers last,
and are the same in whatever order the answers come. -/
theorem spellings_ranked (runtime : Runtime) :
    (∀ answer target, IsLeast (Costs (runtime.normalizeSpelling answer).toList (runtime.normalizeSpelling target).toList)
      (spellingDistance runtime answer target)) ∧
    (∀ answer target, spellingDistance runtime answer target = spellingDistance runtime target answer) ∧
    (∀ answer target, spellingDistance runtime answer target = 0 ↔ runtime.correct answer target) ∧
    ∀ {α : Type} (answer name : α → String) (target : String) (answers : List α),
      let ranked := rankSpellingAnswers runtime answer name target answers
      (ranked.map Ranked.row).Perm answers ∧
      (∀ first ∈ ranked, ∀ second ∈ ranked, first.place < second.place ↔
        standing runtime answer target first.row < standing runtime answer target second.row) ∧
      (ranked.map Ranked.place).toFinset = Finset.Icc 1 (answers.map (standing runtime answer target)).toFinset.card ∧
      ∀ others, others.Perm answers → (rankSpellingAnswers runtime answer name target others).Perm ranked := by
  refine ⟨fun answer target => isLeast_distanceOf _ _, fun answer target => distanceOf_comm _ _, spellingDistance_eq_zero runtime, ?_⟩
  intro α answer name target answers ranked
  have perm : ranked.Perm _ := rankSpellingAnswers_perm runtime answer name target answers
  refine ⟨?_, ?_, ?_, fun others same => ?_⟩
  · refine (perm.map _).trans (List.Perm.of_eq ?_)
    rw [map_map]
    exact map_id answers
  · intro first mem second member'
    obtain ⟨row, listed, rfl⟩ := mem_map.mp (perm.subset mem)
    obtain ⟨other, listed', rfl⟩ := mem_map.mp (perm.subset member')
    exact denseRank_lt_iff (List.mem_toFinset.mpr (mem_map_of_mem listed'))
  · rw [List.toFinset_eq_of_perm _ _ (perm.map _), ← image_denseRank, map_map]
    ext place
    simp
  · refine (rankSpellingAnswers_perm runtime answer name target others).trans (List.Perm.trans ?_ perm.symm)
    rw [List.toFinset_eq_of_perm _ _ (same.map _)]
    exact same.map _

end MilkAndHenny.SpellingParty
