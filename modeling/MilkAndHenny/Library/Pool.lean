import MilkAndHenny.Library.Program

/-! A store served by a pool of workers. Each worker runs the program of one
request; the scheduler interleaves their calls freely, starts requests at any
moment and may stop a worker between two calls. -/

namespace MilkAndHenny.Library

/-- What answers the calls of a worker: the reply and the store afterwards. `Ctx`
is all a call reads besides the store, such as the clock and the answers of services. -/
structure Engine (Stmt : Type → Type) (Ctx Db : Type) where
  exec : {β : Type} → Nat → Stmt β → Ctx → Db → β × Db

inductive Worker (Stmt : Type → Type) (α : Type) : Type 1 where
  | running (program : Program Stmt α)
  | stopped

structure Pool (Stmt : Type → Type) (α Db : Type) : Type 1 where
  db : Db
  workers : List (Worker Stmt α)

inductive Event (Request Ctx : Type) where
  | start (request : Request)
  | step (worker : Nat) (ctx : Ctx)
  | stop (worker : Nat)

variable {Stmt : Type → Type} {α Db Ctx Request : Type}

/-- A condition on one call: who is still live, the worker that calls, the call
itself, what it reads from outside and the store it finds. -/
abbrev Condition (Stmt : Type → Type) (Ctx Db : Type) : Type 1 :=
  (Nat → Bool) → Nat → {β : Type} → Stmt β → Ctx → Db → Bool

namespace Worker

def busy : Worker Stmt α → Bool
  | .running (.call _ _) => true
  | _ => false

end Worker

namespace Pool

/-- A worker whose calls may still come: not started yet, or in the middle of its program. -/
def live (pool : Pool Stmt α Db) (worker : Nat) : Bool :=
  match pool.workers[worker]? with
  | some found => found.busy
  | none => true

def answered (pool : Pool Stmt α Db) (worker : Nat) : Option α :=
  match pool.workers[worker]? with
  | some (.running (.done value)) => some value
  | _ => none

section
variable (engine : Engine Stmt Ctx Db) (handler : Request → Program Stmt α)

def next (pool : Pool Stmt α Db) : Event Request Ctx → Pool Stmt α Db
  | .start request => { pool with workers := pool.workers ++ [.running (handler request)] }
  | .step worker ctx =>
    match pool.workers[worker]? with
    | some (.running (.call op rest)) =>
      { db := (engine.exec worker op ctx pool.db).2,
        workers := pool.workers.set worker (.running (rest (engine.exec worker op ctx pool.db).1)) }
    | _ => pool
  | .stop worker => { pool with workers := pool.workers.set worker .stopped }

def run (pool : Pool Stmt α Db) (events : List (Event Request Ctx)) : Pool Stmt α Db :=
  events.foldl (next engine handler) pool

def meets (condition : Condition Stmt Ctx Db) (pool : Pool Stmt α Db) : Event Request Ctx → Bool
  | .step worker ctx =>
    match pool.workers[worker]? with
    | some (.running (.call op _)) => condition pool.live worker op ctx pool.db
    | _ => true
  | _ => true

def along (condition : Condition Stmt Ctx Db) : Pool Stmt α Db → List (Event Request Ctx) → Bool
  | _, [] => true
  | pool, event :: events => meets condition pool event && along condition (next engine handler pool event) events

end

variable {engine : Engine Stmt Ctx Db} {handler : Request → Program Stmt α} {condition : Condition Stmt Ctx Db}

theorem run_induction {p : Pool Stmt α Db → Prop}
    (preserved : ∀ pool event, p pool → meets condition pool event → p (next engine handler pool event)) :
    ∀ (events : List (Event Request Ctx)) (pool : Pool Stmt α Db), p pool →
      along engine handler condition pool events → p (run engine handler pool events)
  | [], _, holds, _ => holds
  | event :: events, pool, holds, met =>
    have met := (Bool.and_eq_true _ _).mp met
    run_induction preserved events _ (preserved pool event holds met.1) met.2

theorem run_append (events others : List (Event Request Ctx)) (pool : Pool Stmt α Db) :
    run engine handler pool (events ++ others) = run engine handler (run engine handler pool events) others :=
  List.foldl_append

theorem along_append : ∀ (events others : List (Event Request Ctx)) (pool : Pool Stmt α Db),
    along engine handler condition pool (events ++ others) =
      (along engine handler condition pool events && along engine handler condition (run engine handler pool events) others)
  | [], _, _ => rfl
  | event :: events, others, pool => by
    simp only [List.cons_append, along, along_append events others, Bool.and_assoc]
    rfl

theorem answered_eq_some {pool : Pool Stmt α Db} {worker : Nat} {value : α} :
    pool.answered worker = some value ↔ pool.workers[worker]? = some (.running (.done value)) := by
  unfold answered
  split
  · next found =>
    simp [found]
  · next other =>
    simp only [reduceCtorEq, false_iff]
    exact other value

theorem along_true : ∀ (events : List (Event Request Ctx)) (pool : Pool Stmt α Db),
    along engine handler (fun _ _ _ _ _ _ => true) pool events
  | [], _ => rfl
  | event :: events, pool => by
    refine Bool.and_eq_true_iff.mpr ⟨?_, along_true events _⟩
    cases event with
    | step => simp only [meets]; split <;> rfl
    | _ => rfl

theorem step_cases (engine : Engine Stmt Ctx Db) (handler : Request → Program Stmt α) (pool : Pool Stmt α Db)
    (worker : Nat) (ctx : Ctx) :
    (∃ (β : Type) (op : Stmt β) (rest : β → Program Stmt α),
      pool.workers[worker]? = some (.running (.call op rest)) ∧
      next engine handler pool (.step worker ctx) =
        { db := (engine.exec worker op ctx pool.db).2,
          workers := pool.workers.set worker (.running (rest (engine.exec worker op ctx pool.db).1)) }) ∨
    next engine handler pool (.step worker ctx) = pool := by
  simp only [next]
  split
  · rename_i op rest found
    exact .inl ⟨_, op, rest, found, rfl⟩
  · exact .inr rfl

theorem meets_call {pool : Pool Stmt α Db} {worker : Nat} {ctx : Ctx} {β : Type} {op : Stmt β}
    {rest : β → Program Stmt α} (found : pool.workers[worker]? = some (.running (.call op rest)))
    (met : meets condition pool (.step worker ctx : Event Request Ctx)) :
    condition pool.live worker op ctx pool.db := by
  simpa [meets, found] using met

theorem run_valid {p : Db → Prop}
    (preserved : ∀ live worker {β} (op : Stmt β) ctx db, p db → condition live worker op ctx db →
      p (engine.exec worker op ctx db).2)
    (events : List (Event Request Ctx)) (pool : Pool Stmt α Db) (kept : p pool.db)
    (met : along engine handler condition pool events) : p (run engine handler pool events).db := by
  refine run_induction (p := fun pool => p pool.db) ?_ events pool kept met
  intro pool event holds met
  cases event with
  | start | stop => exact holds
  | step worker ctx =>
    obtain ⟨β, op, rest, found, same⟩ | same := step_cases engine handler pool worker ctx
    · rw [same]
      exact preserved _ _ op ctx pool.db holds (meets_call found met)
    · rw [same]
      exact holds

end Pool

end MilkAndHenny.Library
