import Mathlib.Data.List.Basic

/-! The committed states of a store, for transactions that overlap under READ COMMITTED. A statement
selects rows by what is committed when it begins; a row that it writes, it looks at again once it
has it, and has until its transaction commits. A transaction takes its place in a run where it commits. -/

namespace MilkAndHenny.Library

/-- The current state, and those before it, the latest first. -/
structure Versions (σ : Type) where
  current : σ
  past : List σ := []

namespace Versions
variable {σ : Type} (versions : Versions σ)

def list : List σ := versions.current :: versions.past

/-- The state before so many commits. -/
def ago (commits : Nat) : σ := versions.list[commits]?.getD versions.current

/-- The states that a transaction may have read which began so many commits ago. -/
def recent (commits : Nat) : List σ := versions.list.take (commits + 1)

def commit (state : σ) : Versions σ := { current := state, past := versions.list }

variable {versions}

theorem ago_mem_recent {commits most : Nat} (within : commits ≤ most) : versions.ago commits ∈ versions.recent most := by
  unfold ago recent
  cases found : versions.list[commits]? with
  | none => exact List.mem_cons_self
  | some =>
    obtain ⟨inside, rfl⟩ := List.getElem?_eq_some_iff.mp found
    exact List.mem_take_iff_getElem.mpr ⟨commits, by omega, rfl⟩

theorem ago_mem (commits : Nat) : versions.ago commits ∈ versions.list :=
  List.mem_of_mem_take (ago_mem_recent (Nat.le_refl _))

end Versions

section
variable {α κ : Type} [BEq κ] {key : α → κ} {rows : List α} {which : α → Bool} {row : α}

/-- A row that the statement has found among those committed when it began, and that is still one when it is reached. -/
def reached (key : α → κ) (found : List α) (which : α → Bool) (row : α) : Bool :=
  which row && found.any fun seen => key seen == key row && which seen

theorem reached_self [ReflBEq κ] (mem : row ∈ rows) : reached key rows which row = which row := by
  unfold reached
  cases chosen : which row with
  | false => rfl
  | true =>
    exact List.any_eq_true.mpr ⟨row, mem, by simp [chosen]⟩

end

end MilkAndHenny.Library
