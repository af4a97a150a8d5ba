import Mathlib.Algebra.BigOperators.Group.List.Basic
import Mathlib.Algebra.Ring.Nat
import Mathlib.Algebra.Ring.Rat
import Mathlib.Data.List.Sort
import Mathlib.Data.List.Perm.Subperm
import Mathlib.Data.List.Nodup
import Mathlib.Data.List.Forall2

/-! Tables as lists of rows in insertion order. -/

namespace MilkAndHenny

variable {β : Type}

export List (Forall₂ all_eq_true any_append any_cons any_eq_false any_eq_true any_nil append_assoc
  append_inj' append_nil cons_append cons_ne_nil contains_eq_mem contains_iff_mem countP_append
  countP_congr countP_cons countP_eq_length_filter countP_eq_zero countP_filter countP_map
  countP_mono_left countP_pos_iff countP_singleton drop_left drop_left' filter_append filter_congr
  filter_cons filter_cons_of_neg filter_cons_of_pos filter_eq_nil_iff filter_eq_self filter_filter
  filter_map filter_sublist find?_append find?_cons find?_eq_none find?_filter find?_isSome
  find?_map find?_some flatMap_append flatMap_cons flatMap_map foldl_append foldl_cons foldl_nil
  forall_mem_cons forall_mem_map forall_mem_nil forall₂_map_right_iff forall₂_same
  getElem?_eq_getElem getElem?_eq_some_iff getElem?_map getElem_mem inj_on_of_nodup_map length_append length_cons
  length_map length_nil length_range length_set length_singleton lookup_cons lookup_cons_self
  map_append map_congr_left map_cons map_eq_nil_iff map_id map_map map_nil map_singleton mem_append
  mem_append_left mem_append_right mem_cons mem_cons_of_mem mem_cons_self mem_filter mem_filterMap
  mem_flatMap mem_map mem_map_of_mem mem_of_find?_eq_some mem_of_getElem? mem_of_mem_filter
  mem_of_mem_take mem_range mem_range'_1 mem_reverse mem_singleton mem_singleton_self ne_nil_of_mem
  nil_append nil_subset nodup_append nodup_append_comm nodup_cons nodup_nil nodup_singleton
  not_mem_nil pairwise_cons perm_insertionSort perm_middle singleton_append subperm_of_subset
  subset_append_left suffix_cons suffix_refl sum_append sum_cons sum_singleton
  take_add_one)
export Option (all_some any_map any_some bind_eq_bind bind_eq_some_iff bind_some elim_none elim_some
  filter_eq_some_iff filter_some getD_none getD_some isNone_iff_eq_none isSome_iff_exists
  isSome_iff_ne_none isSome_map isSome_some map_eq_none_iff map_eq_some_iff map_none map_some
  mem_def mem_some mem_toList none_or not_isSome_iff_eq_none orElse_eq_none some.inj some.injEq some_ne_none some_or
  toList_some)
export Bool (and_eq_false_imp and_eq_true and_eq_true_iff eq_false_iff false_eq_true not_eq_false
  not_eq_false' not_eq_true not_eq_true' or_eq_false_iff or_eq_true or_eq_true_iff)

end MilkAndHenny

namespace MilkAndHenny.Library

variable {α : Type} {rows : List α} {row : α} {p : α → Bool}

/-- `update rows set … where …`. -/
def update (rows : List α) (which : α → Bool) (change : α → α) : List α :=
  rows.map fun row => if which row then change row else row

def updateFirst (rows : List α) (which : α → Bool) (change : α → α) : List α :=
  match rows with
  | [] => []
  | row :: rows => if which row then change row :: rows else row :: updateFirst rows which change

/-- `order by`: stable, first rows first. -/
def orderBy (le : α → α → Bool) (rows : List α) : List α :=
  rows.insertionSort fun a b => le a b

def distinct [DecidableEq α] : List α → List α
  | [] => []
  | item :: items => item :: (distinct items).filter (· ≠ item)

section
variable [DecidableEq α] {items : List α}

@[simp] theorem mem_distinct {item : α} : item ∈ distinct items ↔ item ∈ items := by
  induction items with
  | nil => rfl
  | cons first items ih =>
    simp only [distinct, mem_cons, mem_filter, decide_eq_true_eq, ih]
    by_cases same : item = first
    · simp [same]
    · simp [same]

theorem nodup_distinct (items : List α) : (distinct items).Nodup := by
  induction items with
  | nil => exact nodup_nil
  | cons first items ih =>
    refine nodup_cons.mpr ⟨fun mem => ?_, ih.filter _⟩
    simp at mem

theorem distinct_of_nodup (unique : items.Nodup) : distinct items = items := by
  induction items with
  | nil => rfl
  | cons first items ih =>
    obtain ⟨new, others⟩ := nodup_cons.mp unique
    rw [distinct, ih others, filter_eq_self.mpr]
    exact fun item mem => decide_eq_true fun same => new (same ▸ mem)

end

section
variable {rows : List α} {which : α → Bool} {change : α → α} {p : α → Bool} {k : α → β}

theorem mem_update {row : α} :
    row ∈ update rows which change ↔ ∃ old ∈ rows, row = if which old then change old else old := by
  simp only [update, mem_map]
  exact ⟨fun ⟨old, mem, same⟩ => ⟨old, mem, same.symm⟩, fun ⟨old, mem, same⟩ => ⟨old, mem, same.symm⟩⟩

theorem update_cons (row : α) : update (row :: rows) which change = (if which row then change row else row) :: update rows which change := rfl

theorem map_update (kept : ∀ row, k (change row) = k row) : (update rows which change).map k = rows.map k := by
  simp only [update, map_map]
  refine map_congr_left fun row _ => ?_
  simp only [Function.comp_apply]
  split
  · exact kept row
  · rfl

theorem nodup_update (kept : ∀ row, k (change row) = k row) (unique : (rows.map k).Nodup) :
    ((update rows which change).map k).Nodup := by
  rwa [map_update kept]

theorem find?_update {found : α → Bool} (kept : ∀ row, which row → found (change row) = found row) :
    (update rows which change).find? found =
      (rows.find? found).map fun row => if which row then change row else row := by
  simp only [update, find?_map]
  congr 2
  funext row
  simp only [Function.comp_apply]
  split
  · exact kept row ‹_›
  · rfl

theorem find?_column {β : Type} {column : α → β} {others : List α} {p : α → Bool} {q : β → Bool} (seen : ∀ row, q (column row) = p row)
    (same : others.map column = rows.map column) : (others.find? p).map column = (rows.find? p).map column := by
  have found (rows : List α) : (rows.find? p).map column = (rows.map column).find? q := by
    rw [find?_map]
    congr 2
    funext row
    exact (seen row).symm
  rw [found, same, ← found]

theorem filter_update (kept : ∀ row, which (change row) = which row) : (update rows which change).filter which = (rows.filter which).map change := by
  induction rows with
  | nil => rfl
  | cons row rows ih =>
    rw [update_cons]
    cases chosen : which row with
    | true => simp [chosen, kept, ih]
    | false => simp [chosen, ih]

theorem filter_update_kept (kept : ∀ row, p (change row) = p row) : (update rows which change).filter p = update (rows.filter p) which change := by
  unfold update
  rw [filter_map]
  congr 2
  funext row
  simp only [Function.comp_apply]
  split
  · exact kept row
  · rfl

theorem map_filter_update {f : α → β} (same : ∀ row, p (change row) = p row) (kept : ∀ row, f (change row) = f row) :
    ((update rows which change).filter p).map f = (rows.filter p).map f := by
  induction rows with
  | nil => rfl
  | cons row rows ih =>
    rw [update_cons]
    cases chosen : which row with
    | true => cases listed : p row <;> simp [same, kept, listed, ih]
    | false => cases listed : p row <;> simp [listed, ih]

theorem filter_update_dropped (dropped : ∀ row, p (change row) = false) :
    (update rows which change).filter p = (rows.filter p).filter fun row => !which row := by
  induction rows with
  | nil => rfl
  | cons row rows ih =>
    rw [update_cons]
    cases chosen : which row with
    | true => cases listed : p row <;> simp [dropped, chosen, listed, ih]
    | false => cases listed : p row <;> simp [chosen, listed, ih]

theorem forall₂_update {r : α → α → Prop} (same : ∀ row, r row row) (changed : ∀ row, which row → r row (change row)) :
    Forall₂ r rows (update rows which change) := by
  refine forall₂_map_right_iff.mpr (forall₂_same.mpr fun row _ => ?_)
  split
  · exact changed row ‹_›
  · exact same row

theorem countP_update_le {p q : α → Bool} (changed : ∀ row ∈ rows, which row → p (change row) → q row)
    (others : ∀ row ∈ rows, ¬ which row → p row → q row) : (update rows which change).countP p ≤ rows.countP q := by
  simp only [update, countP_map]
  refine countP_mono_left fun row mem holds => ?_
  simp only [Function.comp_apply] at holds
  split at holds
  · exact changed row mem ‹_› holds
  · exact others row mem ‹_› holds

theorem countP_update_dropped {p : α → Bool} (dropped : ∀ row, which row → p (change row) = false) :
    (update rows which change).countP p + rows.countP (fun row => which row && p row) = rows.countP p := by
  induction rows with
  | nil => rfl
  | cons row =>
    rw [update_cons, countP_cons, countP_cons, countP_cons]
    cases chosen : which row with
    | true =>
      simp only [if_true, dropped row chosen, Bool.true_and, false_eq_true, if_false]
      omega
    | false => simp only [false_eq_true, if_false, Bool.false_and]; omega

theorem update_absent (absent : ∀ row ∈ rows, which row = false) : update rows which change = rows := by
  refine (map_congr_left fun row mem => ?_).trans (map_id rows)
  simp [absent row mem]

theorem update_append (others : List α) : update (rows ++ others) which change = update rows which change ++ update others which change :=
  map_append

theorem update_update {after : α → α} (kept : ∀ row, which (change row) = which row) :
    update (update rows which change) which after = update rows which (after ∘ change) := by
  simp only [update, map_map]
  refine map_congr_left fun row _ => ?_
  cases chosen : which row with
  | true => simp [kept, chosen]
  | false => simp [chosen]

theorem set_same {row : α} {index : Nat} (found : rows[index]? = some row) : rows.set index row = rows := by
  obtain ⟨inside, rfl⟩ := getElem?_eq_some_iff.mp found
  exact List.set_getElem_self inside

end

section
variable {rows : List α} {which : α → Bool} {change : α → α} {p : α → Bool} {row : α} {k : α → β}

theorem map_updateFirst {k : α → β} (kept : ∀ row, k (change row) = k row) :
    (updateFirst rows which change).map k = rows.map k := by
  induction rows with
  | nil => rfl
  | cons row rows ih =>
    simp only [updateFirst]
    split
    · simp [kept row]
    · simp [ih]

theorem map_updateFirst_through {sees : β → Bool} {change' : β → β} (chosen : ∀ row, sees (k row) = which row)
    (changed : ∀ row, k (change row) = change' (k row)) : (updateFirst rows which change).map k = updateFirst (rows.map k) sees change' := by
  induction rows with
  | nil => rfl
  | cons row rows ih =>
    simp only [updateFirst, map_cons, chosen]
    split
    · rw [map_cons, changed]
    · rw [map_cons, ih]

theorem updateFirst_congr {change' : α → α} (same : ∀ row ∈ rows.find? which, change row = change' row) :
    updateFirst rows which change = updateFirst rows which change' := by
  induction rows with
  | nil => rfl
  | cons row rows ih =>
    simp only [updateFirst]
    by_cases first : which row
    · rw [if_pos first, if_pos first, same row (List.find?_cons_of_pos first)]
    · rw [if_neg first, if_neg first, ih fun other found => same other (by rwa [List.find?_cons_of_neg first])]

theorem updateFirst_unfound (unfound : rows.find? which = none) : updateFirst rows which change = rows := by
  induction rows with
  | nil => rfl
  | cons row rows ih =>
    obtain ⟨other, unfound⟩ := forall_mem_cons.mp (find?_eq_none.mp unfound)
    rw [updateFirst, if_neg other, ih (find?_eq_none.mpr unfound)]

theorem updateFirst_updateFirst {again : α → α} (kept : ∀ row, which (change row) = which row) :
    updateFirst (updateFirst rows which change) which again = updateFirst rows which (again ∘ change) := by
  induction rows with
  | nil => rfl
  | cons row rows ih =>
    by_cases first : which row
    · simp [updateFirst, first, kept]
    · simp [updateFirst, first, ih]

@[simp] theorem length_updateFirst : (updateFirst rows which change).length = rows.length := by
  simpa using congrArg List.length (@map_updateFirst _ _ rows which change (fun _ => ()) fun _ => rfl)

theorem filter_updateFirst {p : α → Bool} (dropped : ∀ row, p (change row) = false) {row : α}
    (found : rows.find? which = some row) (kept : p row) :
    (updateFirst rows which change).filter p = (rows.filter p).eraseP which := by
  induction rows with
  | nil => simp at found
  | cons head rows ih =>
    simp only [updateFirst]
    by_cases same : which head
    · obtain rfl : head = row := by simpa [same] using found
      simp [same, kept, dropped]
    · have later : rows.find? which = some row := by simpa [same] using found
      cases listed : p head <;> simp [same, listed, ih later]

theorem filter_updateFirst_dropped (dropped : ∀ row, p (change row) = false)
    (found : rows.find? which = some row) (out : p row = false) :
    (updateFirst rows which change).filter p = rows.filter p := by
  induction rows with
  | nil => simp at found
  | cons head rows ih =>
    simp only [updateFirst]
    by_cases same : which head
    · obtain rfl : head = row := by simpa [same] using found
      simp [same, out, dropped]
    · have later : rows.find? which = some row := by simpa [same] using found
      cases listed : p head <;> simp [same, listed, ih later]

theorem filter_updateFirst_gone (dropped : ∀ row, p (change row) = false) :
    (updateFirst rows which change).filter p = (rows.eraseP which).filter p := by
  induction rows with
  | nil => rfl
  | cons head rows ih =>
    simp only [updateFirst]
    by_cases same : which head
    · simp [same, dropped]
    · simp [same, filter_cons, ih]

theorem any_updateFirst_gone (dropped : ∀ row, p (change row) = false) :
    (updateFirst rows which change).any p = (rows.eraseP which).any p := by
  have chosen (rows : List α) : rows.any p = (rows.filter p).any p := by simp
  rw [chosen, filter_updateFirst_gone dropped, ← chosen]

theorem forall₂_updateFirst {r : α → α → Prop} (same : ∀ row, r row row) (changed : ∀ row ∈ rows.find? which, r row (change row)) :
    Forall₂ r rows (updateFirst rows which change) := by
  induction rows with
  | nil => exact .nil
  | cons head rows ih =>
    simp only [updateFirst]
    by_cases found : which head
    · rw [if_pos found]
      exact .cons (changed head (by simp [found])) (forall₂_same.mpr fun row _ => same row)
    · rw [if_neg found]
      exact .cons (same head) (ih fun row mem => changed row (by simpa [found] using mem))

theorem find?_updateFirst_same (kept : ∀ row, which row → which (change row)) :
    (updateFirst rows which change).find? which = (rows.find? which).map change := by
  induction rows with
  | nil => rfl
  | cons head rows ih =>
    simp only [updateFirst]
    by_cases same : which head
    · simp [same, kept head same]
    · simp [same, ih]

theorem find?_updateFirst_other (apart : ∀ row, which row → p row = false ∧ p (change row) = false) :
    (updateFirst rows which change).find? p = rows.find? p := by
  induction rows with
  | nil => rfl
  | cons head rows ih =>
    simp only [updateFirst]
    by_cases same : which head
    · simp [same, apart head same]
    · simp [same, ih, find?_cons]

theorem updateFirst_split (change : α → α) (found : rows.find? which = some row) :
    ∃ before after, rows = before ++ row :: after ∧ updateFirst rows which change = before ++ change row :: after := by
  induction rows with
  | nil => cases found
  | cons head rows ih =>
    simp only [updateFirst]
    by_cases same : which head
    · obtain rfl : head = row := by simpa [same] using found
      exact ⟨[], rows, rfl, if_pos same⟩
    · obtain ⟨before, after, split, changed⟩ := ih (by simpa [same] using found)
      exact ⟨head :: before, after, congrArg (head :: ·) split, by rw [if_neg same, changed, cons_append]⟩

theorem sum_updateFirst {f : α → Int} (change : α → α) (found : rows.find? which = some row) :
    ((updateFirst rows which change).map f).sum = (rows.map f).sum - f row + f (change row) := by
  obtain ⟨before, after, split, changed⟩ := updateFirst_split change found
  rw [changed, split]
  simp only [map_append, map_cons, sum_append, sum_cons]
  omega

theorem updateFirst_eq_update [DecidableEq β] {key : β} (unique : (rows.map k).Nodup) :
    updateFirst rows (k · == key) change = update rows (k · == key) change := by
  induction rows with
  | nil => rfl
  | cons head rows ih =>
    obtain ⟨apart, unique⟩ := nodup_cons.mp unique
    have first : update (head :: rows) (k · == key) change =
        (if k head == key then change head else head) :: update rows (k · == key) change := rfl
    rw [updateFirst, first]
    by_cases same : k head == key
    · have others : update rows (k · == key) change = rows := by
        refine (map_congr_left fun row mem => ?_).trans (map_id rows)
        refine if_neg fun found => apart ?_
        rw [eq_of_beq same, ← eq_of_beq found]
        exact mem_map_of_mem mem
      rw [if_pos same, if_pos same, others]
    · rw [if_neg same, if_neg same, ih unique]

end

theorem foldl_max_spec [Max β] [LE β] [Std.IsLinearOrder β] [Std.LawfulOrderMax β] (first : β) (items : List β) :
    items.foldl max first ∈ first :: items ∧ ∀ item ∈ first :: items, item ≤ items.foldl max first :=
  List.max?_eq_some_iff.mp List.max?_cons'

theorem cases_of_map {f : α → β} {a b : Option α} (same : a.map f = b.map f) :
    (a = none ∧ b = none) ∨ ∃ x y, a = some x ∧ b = some y ∧ f x = f y := by
  cases a with
  | none =>
    cases b with
    | none => exact .inl ⟨rfl, rfl⟩
    | some => cases same
  | some x =>
    cases b with
    | none => cases same
    | some y => exact .inr ⟨x, y, rfl, rfl, some.inj same⟩

section
variable {γ : Type} {r : α → β → Prop} {rows : List α} {others : List β} {p : α → Bool} {q : β → Bool} {f : α → γ}
  {g : β → γ} {other : β}

theorem map_pairs (pairs : Forall₂ r rows others) (same : ∀ row other, r row other → f row = g other) :
    rows.map f = others.map g := by
  induction pairs with
  | nil => rfl
  | cons pair _ ih => simp [same _ _ pair, ih]

theorem map_eq_map_iff (pairs : Forall₂ r rows others) {p : α → Prop}
    (same : ∀ row other, r row other → (f row = g other ↔ p row)) : rows.map f = others.map g ↔ ∀ row ∈ rows, p row := by
  induction pairs with
  | nil => simp
  | cons pair _ ih => simp [same _ _ pair, ih]

theorem pairs_comp {r s t : α → α → Prop} (comp : ∀ row other third, r row other → s other third → t row third) {rows others thirds : List α}
    (first : Forall₂ r rows others) (second : Forall₂ s others thirds) : Forall₂ t rows thirds := by
  induction first generalizing thirds with
  | nil =>
    cases second
    exact .nil
  | cons pair _ ih =>
    cases second with
    | cons next rest => exact .cons (comp _ _ _ pair next) (ih rest)

theorem pairs_trans {r : α → α → Prop} (trans : ∀ row other third, r row other → r other third → r row third) {rows others thirds : List α}
    (first : Forall₂ r rows others) (second : Forall₂ r others thirds) : Forall₂ r rows thirds := pairs_comp trans first second

theorem mem_pairs (pairs : Forall₂ r rows others) (mem : other ∈ others) : ∃ row ∈ rows, r row other := by
  induction pairs with
  | nil => cases mem
  | @cons row _ _ _ pair _ ih =>
    rcases mem_cons.mp mem with rfl | mem
    · exact ⟨row, mem_cons_self .., pair⟩
    · obtain ⟨partner, listed, same⟩ := ih mem
      exact ⟨partner, mem_cons_of_mem _ listed, same⟩

theorem any_pairs (pairs : Forall₂ r rows others)
    (same : ∀ row other, r row other → p row = q other) : rows.any p = others.any q := by
  induction pairs with
  | nil => rfl
  | cons pair _ ih => simp [same _ _ pair, ih]

theorem countP_pairs (pairs : Forall₂ r rows others) {p : α → Bool} {q : β → Bool}
    (same : ∀ row other, r row other → p row = q other) : rows.countP p = others.countP q := by
  induction pairs with
  | nil => rfl
  | cons pair _ ih => simp [countP_cons, same _ _ pair, ih]

theorem partner_found (pairs : Forall₂ r rows others) (same : ∀ row other, r row other → q other = p row)
    (found : others.find? q = some other) : ∃ row, rows.find? p = some row ∧ r row other := by
  induction pairs with
  | nil => cases found
  | @cons row first _ _ pair _ ih =>
    rw [find?_cons, same row first pair] at found
    rw [find?_cons]
    split at found
    · next holds =>
      cases found
      exact ⟨row, rfl, pair⟩
    · exact ih found

theorem sublist_pairs (pairs : Forall₂ r rows others)
    (narrower : ∀ row other, r row other → q other → p row) (same : ∀ row other, r row other → g other = f row) :
    ((others.filter q).map g).Sublist ((rows.filter p).map f) := by
  induction pairs with
  | nil => exact .refl _
  | @cons row other _ _ pair _ ih =>
    cases kept : q other with
    | true =>
      rw [filter_cons_of_pos kept, filter_cons_of_pos (narrower row other pair kept), map_cons, map_cons, same row other pair]
      exact ih.cons_cons _
    | false =>
      rw [filter_cons_of_neg (by simp [kept]), filter_cons]
      split
      · exact ih.cons _
      · exact ih

theorem map_find?_pairs (pairs : Forall₂ r rows others)
    (same : ∀ row other, r row other → q other = p row) (found : ∀ row other, r row other → p row → f row = g other) :
    (rows.find? p).map f = (others.find? q).map g := by
  induction pairs with
  | nil => rfl
  | @cons row other _ _ pair _ ih =>
    simp only [find?_cons, same row other pair]
    cases holds : p row with
    | false => exact ih
    | true => simp [found row other pair holds]

theorem find?_pairs {r : α → α → Prop} {rows others : List α} (pairs : Forall₂ r rows others)
    (same : ∀ row other, r row other → p other = p row) (found : ∀ row other, r row other → p row → row = other) :
    rows.find? p = others.find? p := by
  simpa using map_find?_pairs pairs same (f := id) (g := id) found

end

def Numbered (k : α → Nat) (rows : List α) : Prop := rows.map k = List.range rows.length

namespace Numbered

variable {k : α → Nat} {rows : List α}

theorem append (numbered : Numbered k rows) {row : α} (next : k row = rows.length) : Numbered k (rows ++ [row]) := by
  unfold Numbered at *
  simp [numbered, next, List.range_succ]

variable (numbered : Numbered k rows)
include numbered

theorem update {which : α → Bool} {change : α → α} (kept : ∀ row, k (change row) = k row) :
    Numbered k (Library.update rows which change) := by
  unfold Numbered at *
  rw [map_update kept, numbered, Library.update, length_map]

theorem nodup : (rows.map k).Nodup := by
  rw [numbered]
  exact List.nodup_range

theorem lt {row : α} (mem : row ∈ rows) : k row < rows.length := by
  have listed : k row ∈ rows.map k := mem_map_of_mem mem
  rwa [numbered, mem_range] at listed

theorem find?_next : rows.find? (k · == rows.length) = none := by
  rw [find?_eq_none]
  intro row mem same
  exact absurd (numbered.lt mem) (by simp [eq_of_beq same])

end Numbered

theorem countP_lt {p q : α → Bool} (fewer : ∀ row ∈ rows, p row → q row) (mem : row ∈ rows)
    (had : q row) (lost : ¬ p row) : rows.countP p < rows.countP q := by
  obtain ⟨before, after, rfl⟩ := List.append_of_mem mem
  have front : before.countP p ≤ before.countP q := by
    apply countP_mono_left
    intro other listed
    exact fewer other (mem_append_left _ listed)
  have back : after.countP p ≤ after.countP q := by
    apply countP_mono_left
    intro other listed
    exact fewer other (mem_append_right _ (mem_cons_of_mem _ listed))
  rw [countP_append, countP_append, List.countP_cons_of_neg lost, List.countP_cons_of_pos had]
  omega

theorem countP_or_le (p q : α → Bool) (rows : List α) :
    (rows.countP fun row => p row || q row) ≤ rows.countP p + rows.countP q := by
  induction rows with
  | nil => simp
  | cons row =>
    simp only [countP_cons]
    cases p row <;> cases q row <;> simp <;> omega

theorem find?_only (mem : row ∈ rows) (kind : p row) (only : ∀ other ∈ rows, p other → other = row) :
    rows.find? p = some row := by
  cases found : rows.find? p with
  | none => exact absurd kind (find?_eq_none.mp found row mem)
  | some other => exact congrArg some (only other (mem_of_find?_eq_some found) (find?_some found))

theorem find?_key [DecidableEq β] {k : α → β} (unique : (rows.map k).Nodup) (mem : row ∈ rows) :
    rows.find? (k · == k row) = some row :=
  find?_only mem (beq_self_eq_true _) fun _ listed same => inj_on_of_nodup_map unique listed mem (eq_of_beq same)

theorem countP_key_le_one [DecidableEq β] {k : α → β} (unique : (rows.map k).Nodup)
    (value : β) : (rows.countP fun row => k row == value) ≤ 1 := by
  have counted := List.nodup_iff_count_le_one.mp unique value
  rwa [List.count, countP_map] at counted

theorem eq_of_countP_le_one (single : rows.countP p ≤ 1) {other : α} (mem : row ∈ rows) (listed : other ∈ rows)
    (holds : p row) (also : p other) : row = other := by
  rw [countP_eq_length_filter] at single
  have first : row ∈ rows.filter p := mem_filter.mpr ⟨mem, holds⟩
  have second : other ∈ rows.filter p := mem_filter.mpr ⟨listed, also⟩
  match rows.filter p, single, first, second with
  | [_], _, first, second => rw [mem_singleton.mp first, mem_singleton.mp second]

theorem filter_key [DecidableEq β] {k : α → β} (unique : (rows.map k).Nodup) (mem : row ∈ rows) :
    rows.filter (k · == k row) = [row] := by
  have most := countP_key_le_one unique (k row)
  rw [countP_eq_length_filter] at most
  have inside : row ∈ rows.filter (k · == k row) := mem_filter.mpr ⟨mem, beq_self_eq_true _⟩
  generalize rows.filter (k · == k row) = found at most inside
  match found, most, inside with
  | [other], _, inside => rw [mem_singleton.mp inside]

theorem countP_le_of_keys {β γ : Type} [DecidableEq β] {k : α → β} {others : List γ}
    {q : γ → Bool} (unique : (rows.map k).Nodup) (other : γ → β)
    (found : ∀ row ∈ rows, p row → ∃ partner ∈ others, q partner ∧ other partner = k row) :
    rows.countP p ≤ others.countP q := by
  rw [countP_eq_length_filter, countP_eq_length_filter, ← length_map k, ← length_map other]
  refine (subperm_of_subset (unique.sublist (filter_sublist.map k)) ?_).length_le
  intro value mem
  obtain ⟨row, listed, rfl⟩ := mem_map.mp mem
  obtain ⟨partner, inOthers, holds, same⟩ := found row (mem_filter.mp listed).1 (mem_filter.mp listed).2
  exact mem_map.mpr ⟨partner, mem_filter.mpr ⟨inOthers, holds⟩, same⟩

theorem pairwise_orderBy {le : α → α → Bool} (total : ∀ a b, le a b ∨ le b a) (trans : ∀ a b c, le a b → le b c → le a c)
    (rows : List α) : (orderBy le rows).Pairwise (le · ·) :=
  have : Std.Total fun a b => le a b := ⟨total⟩
  have : IsTrans α fun a b => le a b := ⟨trans⟩
  List.pairwise_insertionSort _ rows

theorem lookup_places [DecidableEq β] (k : α → β) (rows : List α) (key : β) :
    (rows.zipIdx.map fun (row, index) => (k row, index + 1)).lookup key = (rows.findIdx? (k · == key)).map (· + 1) := by
  have shifted (start : Nat) : ((rows.zipIdx start).map fun (row, index) => (k row, index + 1)).lookup key =
      (rows.findIdx? (k · == key)).map (· + start + 1) := by
    induction rows generalizing start with
    | nil => rfl
    | cons row rows ih =>
      rw [List.zipIdx_cons, map_cons, lookup_cons, List.findIdx?_cons]
      by_cases same : k row = key
      · simp [same]
      · have apart : (key == k row) = false := beq_false_of_ne (Ne.symm same)
        have apart' : (k row == key) = false := beq_false_of_ne same
        simp only [apart, apart', false_eq_true, if_false, Option.map_map, ih]
        congr 1
        funext index
        simp only [Function.comp_apply]
        omega
  exact shifted 0

theorem lookup_filter_ne [DecidableEq α] {rows : List (α × β)} {key other : α} (apart : other ≠ key) :
    (rows.filter (·.1 ≠ key)).lookup other = rows.lookup other := by
  induction rows with
  | nil => rfl
  | cons row rows ih =>
    obtain ⟨held, value⟩ := row
    by_cases same : held = key
    · rw [filter_cons_of_neg (by simp [same]), lookup_cons, beq_false_of_ne (same ▸ apart)]
      exact ih
    · rw [filter_cons_of_pos (by simp [same]), lookup_cons, lookup_cons, ih]

theorem lookup_filter_self [DecidableEq α] {rows : List (α × β)} {key : α} :
    (rows.filter (·.1 ≠ key)).lookup key = none := by
  simpa [List.lookup_eq_none_iff] using fun held _ _ other => Ne.symm other

theorem lookup_key [DecidableEq α] {rows : List (α × β)} (unique : (rows.map Prod.fst).Nodup) {row : α × β}
    (mem : row ∈ rows) : rows.lookup row.1 = some row.2 := by
  induction rows with
  | nil => exact absurd mem not_mem_nil
  | cons first rows ih =>
    obtain ⟨new, others⟩ := nodup_cons.mp unique
    rcases mem_cons.mp mem with rfl | below
    · exact lookup_cons_self
    · have apart : (row.1 == first.1) = false := beq_false_of_ne fun same => new (same ▸ mem_map_of_mem below)
      rw [lookup_cons, apart]
      exact ih others below

theorem perm_filter_key [DecidableEq β] {k : α → β} (unique : (rows.map k).Nodup) (mem : row ∈ rows) :
    rows.Perm (row :: rows.filter (k · ≠ k row)) := by
  induction rows with
  | nil => exact absurd mem not_mem_nil
  | cons first rows ih =>
    obtain ⟨new, others⟩ := nodup_cons.mp unique
    rcases mem_cons.mp mem with rfl | below
    · have all : (row :: rows).filter (k · ≠ k row) = rows := by
        rw [filter_cons_of_neg (by simp), filter_eq_self]
        exact fun other listed => decide_eq_true fun same => new (same ▸ mem_map_of_mem listed)
      rw [all]
    · have apart : k first ≠ k row := fun same => new (same ▸ mem_map_of_mem below)
      rw [filter_cons_of_pos (by simpa using apart)]
      exact ((ih others below).cons first).trans (.swap row first _)

theorem map_filterMap_sublist {β γ : Type} {make : α → Option β} {column : β → γ} {k : α → γ} (rows : List α)
    (kept : ∀ row made, make row = some made → column made = k row) :
    ((rows.filterMap make).map column).Sublist (rows.map k) := by
  induction rows with
  | nil => exact .slnil
  | cons row rows ih =>
    cases made : make row with
    | none =>
      rw [List.filterMap_cons_none made]
      exact ih.cons _
    | some product =>
      rw [List.filterMap_cons_some made, map_cons, map_cons, kept row product made]
      exact ih.cons_cons _

end MilkAndHenny.Library
