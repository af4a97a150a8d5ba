import Mathlib.Data.Int.Init

/-! Clocks that are advanced only when somebody reads them. A read takes all steps that have fallen due, but never
more than a bound allows; within the bound it does not matter how often a clock was read before. -/

namespace MilkAndHenny.Library

/-- A clock that moves when it is read. -/
structure Lazy (σ τ : Type) where
  /-- Has the next step fallen due? -/
  due : τ → σ → Bool
  step : σ → σ
  /-- What a read finds where nothing is due. -/
  shows : τ → σ → σ

namespace Lazy
variable {σ τ : Type} {clock : Lazy σ τ}

def read (clock : Lazy σ τ) (now : τ) : Nat → σ → σ
  | 0, state => state
  | guard + 1, state => if clock.due now state then clock.read now guard (clock.step state) else clock.shows now state

/-- The bound is enough: fewer steps are due. -/
def Settles (clock : Lazy σ τ) (now : τ) : Nat → σ → Prop
  | 0, _ => False
  | guard + 1, state => clock.due now state → clock.Settles now guard (clock.step state)

/-- Whether steps fall due depends on time and not on whether anybody looks. -/
structure Lawful [LE τ] (clock : Lazy σ τ) : Prop where
  later : ∀ {first second : τ} {state : σ}, first ≤ second → clock.due first state → clock.due second state
  due_shows : ∀ {first second : τ} {state : σ}, clock.due second (clock.shows first state) = clock.due second state
  step_shows : ∀ {now : τ} {state : σ}, clock.step (clock.shows now state) = clock.step state
  shows_shows : ∀ {first second : τ} {state : σ}, first ≤ second → ¬ clock.due second state →
    clock.shows second (clock.shows first state) = clock.shows second state

section
variable {now : τ} {guard : Nat} {state : σ}

theorem read_due (due : clock.due now state) :
    clock.read now (guard + 1) state = clock.read now guard (clock.step state) := if_pos due

theorem read_rests (rests : ¬ clock.due now state) : clock.read now (guard + 1) state = clock.shows now state := if_neg rests

theorem Settles.more (settles : clock.Settles now guard state) (more : Nat) : clock.Settles now (guard + more) state := by
  induction guard generalizing state with
  | zero => exact settles.elim
  | succ guard ih =>
    rw [Nat.succ_add]
    exact fun due => ih (settles due)

theorem Settles.read_more (settles : clock.Settles now guard state) (more : Nat) :
    clock.read now (guard + more) state = clock.read now guard state := by
  induction guard generalizing state with
  | zero => exact settles.elim
  | succ guard ih =>
    rw [Nat.succ_add]
    by_cases due : clock.due now state
    · rw [read_due due, read_due due]
      exact ih (settles due)
    · rw [read_rests due, read_rests due]

theorem read_keeps {invariant : σ → Prop}
    (steps : ∀ {state}, invariant state → clock.due now state → invariant (clock.step state))
    (looks : ∀ {state}, invariant state → invariant (clock.shows now state)) (within : invariant state) :
    invariant (clock.read now guard state) := by
  induction guard generalizing state with
  | zero => exact within
  | succ guard ih =>
    by_cases due : clock.due now state
    · rw [read_due due]
      exact ih (steps within due)
    · rw [read_rests due]
      exact looks within

theorem Settles.rests [LE τ] (lawful : clock.Lawful) (settles : clock.Settles now guard state) :
    ¬ clock.due now (clock.read now guard state) := by
  induction guard generalizing state with
  | zero => exact settles.elim
  | succ guard ih =>
    by_cases due : clock.due now state
    · rw [read_due due]
      exact ih (settles due)
    · rw [read_rests due, lawful.due_shows]
      exact due

end

section
variable [LE τ] {first second : τ} {guard : Nat} {state : σ}

theorem Settles.read_shows (lawful : clock.Lawful) (early : first ≤ second) (settles : clock.Settles second guard state) :
    clock.read second guard (clock.shows first state) = clock.read second guard state := by
  cases guard with
  | zero => exact settles.elim
  | succ =>
    by_cases due : clock.due second state
    · rw [read_due due, read_due (by rwa [lawful.due_shows]), lawful.step_shows]
    · rw [read_rests due, read_rests (by rwa [lawful.due_shows]), lawful.shows_shows early due]

theorem Settles.read_more_read (lawful : clock.Lawful) (early : first ≤ second)
    (settles : clock.Settles second guard state) (more : Nat) :
    clock.read second (guard + more) (clock.read first guard state) = clock.read second guard state := by
  induction guard generalizing state more with
  | zero => exact settles.elim
  | succ guard ih =>
    by_cases due : clock.due first state
    · have late := lawful.later early due
      rw [read_due due, read_due late, Nat.succ_add_eq_add_succ]
      exact ih (settles late) (more + 1)
    · rw [read_rests due, (settles.more more).read_shows lawful early, settles.read_more]

theorem Settles.read_read (lawful : clock.Lawful) (early : first ≤ second) (settles : clock.Settles second guard state) :
    clock.read second guard (clock.read first guard state) = clock.read second guard state :=
      settles.read_more_read lawful early 0

end

/-- Steps that are each due only after a while settle in time: a bound of so many steps is enough
for so many whiles after the first of them. -/
theorem settles_spaced {clock : Lazy σ Int} {invariant : σ → Prop} {dueAt : σ → Int} {gap : Int} {now : Int}
    (known : ∀ {state}, clock.due now state → dueAt state ≤ now)
    (spaced : ∀ {state}, invariant state → clock.due now state → invariant (clock.step state) ∧
      (¬ clock.due now (clock.step state) ∨ dueAt state + gap ≤ dueAt (clock.step state)))
    {guard : Nat} {state : σ} (within : invariant state) (soon : now < dueAt state + gap * guard) :
    clock.Settles now (guard + 1) state := by
  induction guard generalizing state with
  | zero =>
    intro due
    have reached := known due
    omega
  | succ guard ih =>
    intro due
    obtain ⟨inside, over_ | later⟩ := spaced within due
    · exact fun due => absurd due over_
    · apply ih inside
      have total : gap * ((guard + 1 : Nat) : Int) = gap * guard + gap := by
        rw [Int.natCast_succ, Int.mul_add, Int.mul_one]
      omega

end Lazy

end MilkAndHenny.Library
