import Mathlib.Algebra.BigOperators.Group.List.Basic
import Mathlib.Algebra.Order.Ring.Int
import Mathlib.Data.List.Nodup

/-! Books of signed entries: what entries add up to under a key, and accounts
that are credited entry by entry. -/

namespace MilkAndHenny.Library

variable {α κ : Type} [DecidableEq κ] {key : α → κ} {amount : α → Int} {entries : List α}

def totalOf (key : α → κ) (amount : α → Int) (entries : List α) (account : κ) : Int :=
  (entries.map fun entry => if key entry = account then amount entry else 0).sum

@[simp] theorem totalOf_nil (account : κ) : totalOf key amount [] account = 0 := rfl

@[simp] theorem totalOf_cons (entry : α) (entries : List α) (account : κ) :
    totalOf key amount (entry :: entries) account = (if key entry = account then amount entry else 0) + totalOf key amount entries account :=
  List.sum_cons

theorem totalOf_map {β : Type} (make : β → α) (entries : List β) (account : κ) :
    totalOf key amount (entries.map make) account = totalOf (key ∘ make) (amount ∘ make) entries account := by
  simp [totalOf, Function.comp_def]

theorem totalOf_neg (entries : List α) (account : κ) : totalOf key (fun entry => -amount entry) entries account = -totalOf key amount entries account := by
  induction entries with
  | nil => rfl
  | cons entry entries ih =>
    rw [totalOf_cons, totalOf_cons, ih]
    split <;> omega

theorem totalOf_absent {account : κ} (absent : ∀ entry ∈ entries, key entry ≠ account) :
    totalOf key amount entries account = 0 := by
  induction entries with
  | nil => rfl
  | cons entry entries ih =>
    rw [totalOf_cons, if_neg (absent entry (List.mem_cons_self ..)), ih fun other mem => absent other (List.mem_cons_of_mem entry mem), Int.add_zero]

theorem totalOf_sub {other : α → κ} (entries : List α) (account : κ) :
    totalOf key amount entries account - totalOf other amount entries account =
      totalOf key amount (entries.filter fun entry => key entry ≠ other entry) account -
        totalOf other amount (entries.filter fun entry => key entry ≠ other entry) account := by
  induction entries with
  | nil => rfl
  | cons entry entries ih =>
    rw [totalOf_cons, totalOf_cons]
    by_cases same : key entry = other entry
    · rw [List.filter_cons_of_neg (by simp [same]), ← ih, same]
      omega
    · rw [List.filter_cons_of_pos (by simpa using same), totalOf_cons, totalOf_cons]
      omega

theorem sum_totalOf {accounts : List κ} (unique : accounts.Nodup) (listed : ∀ entry ∈ entries, key entry ∈ accounts) (account : κ) :
    ((accounts.filter (· = account)).map (totalOf key amount entries)).sum = totalOf key amount entries account := by
  rw [List.filter_eq, List.map_replicate, List.sum_replicate]
  by_cases mem : account ∈ accounts
  · rw [List.count_eq_one_of_mem unique mem, one_nsmul]
  · rw [List.count_eq_zero_of_not_mem mem, zero_nsmul, totalOf_absent]
    exact fun entry inside same => mem (same ▸ listed entry inside)

def credit (accounts : List (κ × Int)) (account : κ) (amount : Int) : List (κ × Int) :=
  match accounts with
  | [] => [(account, amount)]
  | row :: accounts => if row.1 = account then (account, row.2 + amount) :: accounts else row :: credit accounts account amount

/-- A missing account holds nothing. -/
def balanceOf (accounts : List (κ × Int)) (account : κ) : Int := (accounts.lookup account).getD 0

theorem balanceOf_credit (accounts : List (κ × Int)) (account other : κ) (amount : Int) :
    balanceOf (credit accounts account amount) other = balanceOf accounts other + if account = other then amount else 0 := by
  unfold balanceOf
  induction accounts with
  | nil =>
    by_cases same : account = other
    · simp [credit, same]
    · simp [credit, List.lookup_cons, beq_false_of_ne (Ne.symm same), same]
  | cons row accounts ih =>
    rw [credit]
    by_cases mine : row.1 = account
    · rw [if_pos mine, List.lookup_cons, List.lookup_cons, ← mine]
      by_cases same : row.1 = other
      · simp [same]
      · simp [beq_false_of_ne (Ne.symm same), same]
    · rw [if_neg mine, List.lookup_cons, List.lookup_cons]
      by_cases found : row.1 = other
      · have apart : account ≠ other := fun same => mine (found.trans same.symm)
        simp [found, apart]
      · rw [beq_false_of_ne (Ne.symm found)]
        exact ih

/-- Rows that are computed again stand for the old rows of their keys. -/
theorem balanceOf_overwritten (rebuilt accounts : List (κ × Int)) (account : κ) :
    balanceOf (rebuilt ++ accounts.filter fun row => row.1 ∉ rebuilt.map Prod.fst) account =
      (rebuilt.lookup account).getD (balanceOf accounts account) := by
  unfold balanceOf
  rw [List.lookup_append]
  cases found : rebuilt.lookup account with
  | some => rfl
  | none =>
    have absent : account ∉ rebuilt.map Prod.fst := by
      intro listed
      obtain ⟨row, mem, rfl⟩ := List.mem_map.mp listed
      simpa using List.lookup_eq_none_iff.mp found row mem
    rw [Option.none_or, Option.getD_none]
    induction accounts with
    | nil => rfl
    | cons row accounts ih =>
      by_cases mine : row.1 = account
      · rw [List.filter_cons_of_pos (by simpa [mine] using absent), List.lookup_cons, List.lookup_cons, mine, beq_self_eq_true]
      · rw [List.lookup_cons, beq_false_of_ne (Ne.symm mine), ← ih]
        by_cases kept : row.1 ∈ rebuilt.map Prod.fst
        · rw [List.filter_cons_of_neg (by simpa using kept)]
        · rw [List.filter_cons_of_pos (by simpa using kept), List.lookup_cons, beq_false_of_ne (Ne.symm mine)]

def creditAll (key : α → κ) (amount : α → Int) (accounts : List (κ × Int)) (entries : List α) : List (κ × Int) :=
  entries.foldl (fun accounts entry => credit accounts (key entry) (amount entry)) accounts

theorem balanceOf_creditAll (accounts : List (κ × Int)) (entries : List α) (account : κ) :
    balanceOf (creditAll key amount accounts entries) account = balanceOf accounts account + totalOf key amount entries account := by
  unfold creditAll
  induction entries generalizing accounts with
  | nil => simp
  | cons entry entries ih =>
    rw [List.foldl_cons, ih, balanceOf_credit, totalOf_cons]
    omega

end MilkAndHenny.Library
