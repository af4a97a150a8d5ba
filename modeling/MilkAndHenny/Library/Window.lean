import MilkAndHenny.Library.Table

/-! Fixed windows that count attempts, one window for each key. -/

namespace MilkAndHenny.Library

structure Window where
  attempts : Nat
  endsAt : Int

abbrev Windows (κ : Type) : Type := List (κ × Window)

namespace Windows

variable {κ ξ : Type} [DecidableEq κ] [DecidableEq ξ]

variable (alive : Int → Int → Bool) (windows : Windows κ)

def set (key : κ) (window : Window) : Windows κ := (key, window) :: windows.filter (·.1 ≠ key)

def clear (key : κ) : Windows κ := windows.filter (·.1 ≠ key)

def current (key : κ) (now : Int) : Option Window :=
  (windows.lookup key).filter fun window => alive now window.endsAt

def attempted (key : κ) (now duration : Int) : Window :=
  match windows.current alive key now with
  | some window => { window with attempts := window.attempts + 1 }
  | none => { attempts := 1, endsAt := now + duration }

def attempt (key : κ) (now duration : Int) : Window × Windows κ :=
  (windows.attempted alive key now duration, windows.set key (windows.attempted alive key now duration))

theorem lookup_clear (windows : Windows κ) (key other : κ) :
    List.lookup other (windows.clear key) = if other = key then none else List.lookup other windows := by
  split
  · next same =>
    rw [same]
    exact lookup_filter_self
  · next apart => exact lookup_filter_ne apart

theorem lookup_set (windows : Windows κ) (key other : κ) (window : Window) :
    List.lookup other (windows.set key window) = if other = key then some window else List.lookup other windows := by
  unfold set
  by_cases same : other = key
  · rw [if_pos same, same, lookup_cons_self]
  · rw [if_neg same, lookup_cons, beq_false_of_ne same]
    exact lookup_filter_ne same

def Agree (k : ξ → κ) (view : List ξ) (store : Windows κ) (windows : Windows ξ) : Prop :=
  ∀ subject ∈ view, List.lookup (k subject) store = List.lookup subject windows

/-- Different subjects have different keys. -/
def Apart (k : ξ → κ) (view : List ξ) : Prop := ∀ subject ∈ view, ∀ other ∈ view, k subject = k other → subject = other

instance Apart.decidable (k : ξ → κ) (view : List ξ) : Decidable (Apart k view) :=
  inferInstanceAs (Decidable (∀ subject ∈ view, ∀ other ∈ view, k subject = k other → subject = other))

section

variable {k : ξ → κ} {view : List ξ} {store : Windows κ} {windows : Windows ξ} {subject : ξ}

theorem Agree.set (agree : Agree k view store windows) (apart : Apart k view) (mem : subject ∈ view) (window : Window) :
    Agree k view (store.set (k subject) window) (windows.set subject window) := by
  intro other listed
  rw [lookup_set, lookup_set, agree other listed]
  by_cases same : other = subject
  · rw [if_pos same, if_pos (congrArg k same)]
  · rw [if_neg same, if_neg fun keys => same (apart other listed subject mem keys)]

theorem Agree.clear (agree : Agree k view store windows) (apart : Apart k view) (mem : subject ∈ view) :
    Agree k view (store.clear (k subject)) (windows.clear subject) := by
  intro other listed
  rw [lookup_clear, lookup_clear, agree other listed]
  by_cases same : other = subject
  · rw [if_pos same, if_pos (congrArg k same)]
  · rw [if_neg same, if_neg fun keys => same (apart other listed subject mem keys)]

/-- The stores take the subject's window for alive at the same times. -/
def Alike (alive rule : Int → Int → Bool) (windows : Windows ξ) (subject : ξ) (now : Int) : Prop :=
  ∀ window, List.lookup subject windows = some window → alive now window.endsAt = rule now window.endsAt

theorem Agree.attempted (agree : Agree k view store windows) (mem : subject ∈ view) {alive rule : Int → Int → Bool} {now : Int}
    (alike : Alike alive rule windows subject now) (duration : Int) :
    store.attempted alive (k subject) now duration = windows.attempted rule subject now duration := by
  have current : store.current alive (k subject) now = windows.current rule subject now := by
    unfold Windows.current
    rw [agree subject mem]
    cases found : List.lookup subject windows with
    | none => rfl
    | some window => simp [filter_some, alike window found]
  unfold Windows.attempted
  rw [current]

end

theorem attempted_cases (alive : Int → Int → Bool) (windows : Windows κ) (key : κ) (now duration : Int) :
    (windows.attempted alive key now duration).attempts = 1 ∨
      ∃ window, List.lookup key windows = some window ∧ (windows.attempted alive key now duration).attempts = window.attempts + 1 := by
  unfold attempted current
  cases found : List.lookup key windows with
  | none => exact .inl rfl
  | some window =>
    by_cases lives : alive now window.endsAt = true
    · simp only [filter_some, if_pos lives]
      exact .inr ⟨window, rfl, rfl⟩
    · simp only [filter_some, if_neg lives]
      exact .inl trivial

end Windows

end MilkAndHenny.Library
