import MilkAndHenny.Library.Pool

/-! Contracts between the workers of a pool. A worker may rely on what it has read
as far as the others leave it alone; in return it owes something to every call it
makes. A program that keeps the contract keeps it in every interleaving. -/

namespace MilkAndHenny.Library

variable {worker : Nat}

structure Contract (Stmt : Type → Type) (α Db : Type) where
  valid : Db → Prop
  /-- What the worker has to know of the store when it makes the call. -/
  owes : Nat → {β : Type} → Stmt β → Db → Prop
  /-- What the others may do to the store while the worker is in the middle of its program. -/
  allows : Nat → Db → Db → Prop
  /-- What the answer of the worker's program promises for good. -/
  ends : Nat → α → Db → Prop

variable {Stmt : Type → Type} {α β γ Db Ctx Request : Type}

def Contract.both (first second : Contract Stmt α Db) : Contract Stmt α Db where
  valid db := first.valid db ∧ second.valid db
  owes worker _ op db := first.owes worker op db ∧ second.owes worker op db
  allows worker before after := first.allows worker before after ∧ second.allows worker before after
  ends worker value db := first.ends worker value db ∧ second.ends worker value db

namespace Program
variable {program : Program Stmt α} {p : {β : Type} → Stmt β → Prop} {q : Db → Prop}

def makes (p : {β : Type} → Stmt β → Prop) : Program Stmt α → Prop
  | .done _ => True
  | .call op next => p op ∧ ∀ reply, (next reply).makes p

section
variable {p q : {β : Type} → Stmt β → Prop} {program : Program Stmt α}

theorem makes_bind {next : α → Program Stmt β} (first : program.makes p)
    (rest : ∀ value, (next value).makes p) : (program.bind next).makes p := by
  induction program with
  | done value => exact rest value
  | call op _ ih => exact ⟨first.1, fun reply => ih reply (first.2 reply)⟩

theorem makes_mono (made : program.makes p) (implies : ∀ {β} (op : Stmt β), p op → q op) : program.makes q := by
  induction program with
  | done => trivial
  | call op _ ih => exact ⟨implies op made.1, fun reply => ih reply (made.2 reply)⟩

end

variable {δ : Type} (engine : Engine Stmt Ctx Db) (contract : Contract Stmt δ Db) (condition : Condition Stmt Ctx Db)

/-- From the store on, the program owes nothing that it does not know, and ends as promised. -/
def keeps (worker : Nat) (post : α → Db → Prop) : Program Stmt α → Db → Prop
  | .done value, db => post value db
  | .call op next, db => ∀ before, contract.allows worker db before → contract.valid before →
      contract.owes worker op before ∧ ∀ live ctx, condition live worker op ctx before →
        contract.valid (engine.exec worker op ctx before).2 →
        (next (engine.exec worker op ctx before).1).keeps worker post (engine.exec worker op ctx before).2

variable {engine contract condition} {post other : α → Db → Prop} {db : Db}

theorem keeps_mono (kept : program.keeps engine contract condition worker other db)
    (implies : ∀ value db, other value db → post value db) : program.keeps engine contract condition worker post db := by
  induction program generalizing db with
  | done value => exact implies value db kept
  | call op next ih =>
    intro before allowed valid
    obtain ⟨owed, rest⟩ := kept before allowed valid
    exact ⟨owed, fun live ctx met after => ih _ (rest live ctx met after)⟩

theorem keeps_bind {program : Program Stmt γ} {next : γ → Program Stmt α} {first : γ → Db → Prop}
    (kept : program.keeps engine contract condition worker first db)
    (rest : ∀ value db, first value db → (next value).keeps engine contract condition worker post db) :
    (program.bind next).keeps engine contract condition worker post db := by
  induction program generalizing db with
  | done value => exact rest value db kept
  | call op _ ih =>
    intro before allowed valid
    obtain ⟨owed, resumed⟩ := kept before allowed valid
    exact ⟨owed, fun live ctx met after => ih _ (resumed live ctx met after)⟩

theorem keeps_while (made : program.makes p)
    (free : ∀ {β} (op : Stmt β), p op → ∀ db, contract.valid db → contract.owes worker op db)
    (others : ∀ before after, contract.allows worker before after → q before → q after)
    (own : ∀ live {β} (op : Stmt β) ctx db, p op → contract.valid db → condition live worker op ctx db → q db →
      q (engine.exec worker op ctx db).2)
    (holds : q db) (ends : ∀ value db, q db → post value db) :
    program.keeps engine contract condition worker post db := by
  induction program generalizing db with
  | done value => exact ends value db holds
  | call op next ih =>
    refine fun before allowed valid => ⟨free op made.1 before valid, fun live ctx met _ => ih _ (made.2 _) ?_⟩
    exact own live op ctx before made.1 valid met (others db before allowed holds)

theorem keeps_of_makes (made : program.makes p)
    (free : ∀ {β} (op : Stmt β), p op → ∀ db, contract.valid db → contract.owes worker op db)
    (ends : ∀ value db, post value db) : program.keeps engine contract condition worker post db :=
  keeps_while (q := fun _ => True) made free (fun _ _ _ _ => trivial) (fun _ _ _ _ _ _ _ _ _ => trivial) trivial
    fun value db _ => ends value db

theorem keeps_and (kept : program.keeps engine contract condition worker post db) (made : program.makes p)
    (others : ∀ before after, contract.allows worker before after → q before → q after)
    (own : ∀ live {β} (op : Stmt β) ctx db, p op → contract.valid db → contract.owes worker op db →
      condition live worker op ctx db → q db → q (engine.exec worker op ctx db).2) (holds : q db) :
    program.keeps engine contract condition worker (fun value db => post value db ∧ q db) db := by
  induction program generalizing db with
  | done => exact ⟨kept, holds⟩
  | call op next ih =>
    intro before allowed valid
    obtain ⟨owed, rest⟩ := kept before allowed valid
    refine ⟨owed, fun live ctx met after => ih _ (rest live ctx met after) (made.2 _) ?_⟩
    exact own live op ctx before made.1 valid owed met (others db before allowed holds)

section
variable {second : Contract Stmt δ Db} {program : Program Stmt α}

theorem keeps_beside {p : {β : Type} → Stmt β → Prop} (kept : program.keeps engine contract condition worker post db)
    (made : program.makes p) (free : ∀ {β} (op : Stmt β), p op → ∀ db, second.owes worker op db) :
    program.keeps engine (contract.both second) condition worker post db := by
  induction program generalizing db with
  | done => exact kept
  | call op next ih =>
    intro before allowed valid
    obtain ⟨owed, rest⟩ := kept before allowed.1 valid.1
    exact ⟨⟨owed, free op made.1 before⟩, fun live ctx met after => ih _ (rest live ctx met after.1) (made.2 _)⟩

theorem keeps_conj (kept : program.keeps engine contract condition worker post db)
    (both : program.keeps engine (contract.both second) condition worker other db) :
    program.keeps engine (contract.both second) condition worker (fun value db => post value db ∧ other value db) db := by
  induction program generalizing db with
  | done => exact ⟨kept, both⟩
  | call op next ih =>
    intro before allowed valid
    obtain ⟨owed, rest⟩ := both before allowed valid
    exact ⟨owed, fun live ctx met after => ih _ ((kept before allowed.1 valid.1).2 live ctx met after.1) (rest live ctx met after)⟩

end

end Program

namespace Contract

/-- The calls of a worker keep the store valid and do to the others only what these allow. -/
structure Sound (contract : Contract Stmt α Db) (engine : Engine Stmt Ctx Db) (condition : Condition Stmt Ctx Db) :
    Prop where
  trans : ∀ worker {a b c}, contract.allows worker a b → contract.allows worker b c → contract.allows worker a c
  valid : ∀ live worker {β} (op : Stmt β) ctx db, contract.valid db → contract.owes worker op db →
    condition live worker op ctx db → contract.valid (engine.exec worker op ctx db).2
  allows : ∀ live worker {β} (op : Stmt β) ctx db, contract.valid db → contract.owes worker op db →
    condition live worker op ctx db → ∀ other, other ≠ worker → live other = true →
    contract.allows other db (engine.exec worker op ctx db).2
  ends : ∀ live worker {β} (op : Stmt β) ctx db, contract.valid db → contract.owes worker op db →
    condition live worker op ctx db → ∀ other value, contract.ends other value db →
    contract.ends other value (engine.exec worker op ctx db).2

theorem Sound.both {first second : Contract Stmt α Db} {engine : Engine Stmt Ctx Db} {condition : Condition Stmt Ctx Db}
    (left : first.Sound engine condition) (right : second.Sound engine condition) :
    (first.both second).Sound engine condition where
  trans worker _ _ _ before after := ⟨left.trans worker before.1 after.1, right.trans worker before.2 after.2⟩
  valid live worker _ op ctx db valid owed met :=
    ⟨left.valid live worker op ctx db valid.1 owed.1 met, right.valid live worker op ctx db valid.2 owed.2 met⟩
  allows live worker _ op ctx db valid owed met other apart busy :=
    ⟨left.allows live worker op ctx db valid.1 owed.1 met other apart busy,
      right.allows live worker op ctx db valid.2 owed.2 met other apart busy⟩
  ends live worker _ op ctx db valid owed met other value promised :=
    ⟨left.ends live worker op ctx db valid.1 owed.1 met other value promised.1,
      right.ends live worker op ctx db valid.2 owed.2 met other value promised.2⟩

/-- Between the calls of a run: the store is valid and every worker keeps the contract from here on. -/
structure Kept (contract : Contract Stmt α Db) (engine : Engine Stmt Ctx Db) (condition : Condition Stmt Ctx Db)
    (pool : Pool Stmt α Db) : Prop where
  valid : contract.valid pool.db
  workers : ∀ (worker : Nat) (program : Program Stmt α), pool.workers[worker]? = some (.running program) →
    program.keeps engine contract condition worker (contract.ends worker) pool.db

def only (admits : Request → Bool) (events : List (Event Request Ctx)) : Bool :=
  events.all fun
    | .start request => admits request
    | _ => true

variable {contract : Contract Stmt α Db} {engine : Engine Stmt Ctx Db} {condition : Condition Stmt Ctx Db}
  {handler : Request → Program Stmt α} {pool : Pool Stmt α Db}

theorem keeps_later (sound : contract.Sound engine condition) {program : Program Stmt α} {db after : Db}
    (kept : program.keeps engine contract condition worker (contract.ends worker) db)
    (later : (Worker.running program).busy → contract.allows worker db after)
    (ends : ∀ value, contract.ends worker value db → contract.ends worker value after) :
    program.keeps engine contract condition worker (contract.ends worker) after := by
  cases program with
  | done value => exact ends value kept
  | call => exact fun before allowed valid => kept before (sound.trans worker (later rfl) allowed) valid

theorem Kept.call (sound : contract.Sound engine condition) (kept : contract.Kept engine condition pool)
    {β : Type} {op : Stmt β} {next : β → Program Stmt α} {ctx : Ctx} (refl : contract.allows worker pool.db pool.db)
    (found : pool.workers[worker]? = some (.running (.call op next)))
    (met : condition pool.live worker op ctx pool.db) :
    contract.Kept engine condition
      { db := (engine.exec worker op ctx pool.db).2,
        workers := pool.workers.set worker (.running (next (engine.exec worker op ctx pool.db).1)) } := by
  obtain ⟨owed, rest⟩ := kept.workers worker _ found pool.db refl kept.valid
  have valid := sound.valid _ worker op ctx pool.db kept.valid owed met
  refine ⟨valid, fun other program running => ?_⟩
  by_cases same : other = worker
  · subst same
    rw [List.getElem?_set_self (List.getElem?_eq_some_iff.mp found).1] at running
    cases Worker.running.inj (Option.some.inj running)
    exact rest _ ctx met valid
  · rw [List.getElem?_set_ne (Ne.symm same)] at running
    refine keeps_later sound (kept.workers other program running) (fun busy => ?_)
      (sound.ends _ worker op ctx pool.db kept.valid owed met other)
    refine sound.allows _ worker op ctx pool.db kept.valid owed met other same ?_
    simpa [Pool.live, running] using busy

theorem Kept.next (sound : contract.Sound engine condition) (refl : ∀ worker db, contract.allows worker db db)
    (kept : contract.Kept engine condition pool) {event : Event Request Ctx}
    (serves : ∀ request, event = .start request → ∀ worker db,
      (handler request).keeps engine contract condition worker (contract.ends worker) db)
    (met : Pool.meets condition pool event) : contract.Kept engine condition (pool.next engine handler event) := by
  cases event with
  | start request =>
    refine ⟨kept.valid, fun worker program running => ?_⟩
    rcases @List.getElem?_append _ pool.workers _ _ ▸ running with running
    split at running
    · exact kept.workers worker program running
    · obtain ⟨_, same⟩ := List.getElem?_eq_some_iff.mp running
      rw [List.getElem_singleton] at same
      exact Worker.running.inj same ▸ serves request rfl worker pool.db
  | stop =>
    refine ⟨kept.valid, fun other program running => ?_⟩
    simp only [Pool.next, List.getElem?_set] at running
    split at running
    · split at running <;> simp at running
    · exact kept.workers other program running
  | step worker ctx =>
    obtain ⟨β, op, rest, found, same⟩ | same := Pool.step_cases engine handler pool worker ctx
    · rw [same]
      exact kept.call sound (refl worker pool.db) found (Pool.meets_call found met)
    · rw [same]
      exact kept

theorem run_kept (sound : contract.Sound engine condition) (refl : ∀ worker db, contract.allows worker db db)
    {admits : Request → Bool} (serves : ∀ request, admits request → ∀ worker db,
      (handler request).keeps engine contract condition worker (contract.ends worker) db) :
    ∀ (events : List (Event Request Ctx)) (pool : Pool Stmt α Db), contract.Kept engine condition pool →
      only admits events → pool.along engine handler condition events →
      contract.Kept engine condition (pool.run engine handler events)
  | [], _, kept, _, _ => kept
  | event :: events, pool, kept, admitted, met => by
    simp only [only, List.all_cons, Bool.and_eq_true] at admitted
    simp only [Pool.along, Bool.and_eq_true] at met
    refine run_kept sound refl serves events _ (kept.next sound refl ?_ met.1) admitted.2 met.2
    rintro request rfl
    exact serves request admitted.1

end Contract

end MilkAndHenny.Library
