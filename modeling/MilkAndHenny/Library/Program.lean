import Mathlib.Data.List.Basic

/-! Request handlers as freer programs over the statements of a store. Each
`call` is one indivisible statement or transaction; between two calls any other
worker may run. -/

namespace MilkAndHenny.Library

inductive Program (Stmt : Type → Type) (α : Type) : Type 1 where
  | done (value : α)
  | call {β : Type} (op : Stmt β) (next : β → Program Stmt α)

namespace Program

variable {Stmt : Type → Type} {α β γ : Type}

def bind : Program Stmt α → (α → Program Stmt β) → Program Stmt β
  | .done value, rest => rest value
  | .call op next, rest => .call op fun reply => (next reply).bind rest

instance : Monad (Program Stmt) where
  pure := .done
  bind := Program.bind

def perform (op : Stmt α) : Program Stmt α := .call op .done

@[simp] theorem bind_done (value : α) (rest : α → Program Stmt β) : (Program.done value).bind rest = rest value := rfl

@[simp] theorem pure_eq (value : α) : (pure value : Program Stmt α) = .done value := rfl

@[simp] theorem bind_eq (program : Program Stmt α) (rest : α → Program Stmt β) :
    program >>= rest = program.bind rest := rfl

end Program

end MilkAndHenny.Library
