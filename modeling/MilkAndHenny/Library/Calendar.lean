import Mathlib.Tactic

/-! The proleptic Gregorian calendar: days counted from 1970-01-01 and the dates they fall on. -/

namespace MilkAndHenny.Library.Calendar
variable {year day : Int} {date : Date} {month : Nat}

def leap (year : Int) : Bool := year % 4 == 0 && (year % 100 != 0 || year % 400 == 0)

def leapDay (year : Int) : Int := if leap year then 1 else 0

def dayFromYear (year : Int) : Int :=
  365 * (year - 1970) + (year - 1969) / 4 - (year - 1901) / 100 + (year - 1601) / 400

def yearFromDay (day : Int) : Int :=
  let near := 1970 + day * 400 / 146097
  if dayFromYear (near + 1) ≤ day then near + 1 else if dayFromYear near ≤ day then near else near - 1

def daysBefore (year : Int) (month : Nat) : Int :=
  match month with
  | 0 | 1 => 0
  | 2 => 31
  | 3 => 59 + leapDay year
  | 4 => 90 + leapDay year
  | 5 => 120 + leapDay year
  | 6 => 151 + leapDay year
  | 7 => 181 + leapDay year
  | 8 => 212 + leapDay year
  | 9 => 243 + leapDay year
  | 10 => 273 + leapDay year
  | 11 => 304 + leapDay year
  | 12 => 334 + leapDay year
  | _ => 365 + leapDay year

structure Date where
  year : Int
  month : Nat
  day : Nat
deriving DecidableEq

structure Date.Valid (date : Date) : Prop where
  month : 1 ≤ date.month ∧ date.month ≤ 12
  first : 1 ≤ date.day
  last : daysBefore date.year date.month + date.day ≤ daysBefore date.year (date.month + 1)

def dayFromDate (date : Date) : Int := dayFromYear date.year + daysBefore date.year date.month + date.day - 1

def monthUpTo (year day : Int) : Nat → Nat
  | 0 | 1 => 1
  | month + 2 => if daysBefore year (month + 2) ≤ day then month + 2 else monthUpTo year day (month + 1)

def monthFromDay (year day : Int) : Nat := monthUpTo year day 12

def dateFromDay (day : Int) : Date :=
  let year := yearFromDay day
  let within := day - dayFromYear year
  let month := monthFromDay year within
  { year, month, day := (within - daysBefore year month + 1).toNat }

theorem leapDay_bounds (year : Int) : 0 ≤ leapDay year ∧ leapDay year ≤ 1 := by
  unfold leapDay
  split <;> omega

theorem dayFromYear_succ (year : Int) : dayFromYear (year + 1) = dayFromYear year + 365 + leapDay year := by
  unfold dayFromYear leapDay leap
  split
  · next isLeap =>
    simp only [Bool.and_eq_true, Bool.or_eq_true, beq_iff_eq, bne_iff_ne] at isLeap
    omega
  · next plain =>
    simp only [Bool.and_eq_true, Bool.or_eq_true, beq_iff_eq, bne_iff_ne, not_and, not_or] at plain
    omega

theorem dayFromYear_lt (year : Int) (later : Nat) : dayFromYear year < dayFromYear (year + 1 + later) := by
  induction later with
  | zero =>
    have step := dayFromYear_succ year
    have pos := leapDay_bounds year
    simp only [Nat.cast_zero, add_zero]
    omega
  | succ later =>
    have step := dayFromYear_succ (year + 1 + later)
    have pos := leapDay_bounds (year + 1 + later)
    have same : year + 1 + ((later + 1 : Nat) : Int) = year + 1 + later + 1 := by omega
    rw [same]
    omega

theorem dayFromYear_mono {later : Int} (order : year ≤ later) : dayFromYear year ≤ dayFromYear later := by
  rcases order.lt_or_eq with before | rfl
  · have gap := dayFromYear_lt year (later - year - 1).toNat
    have sum : year + 1 + ((later - year - 1).toNat : Int) = later := by omega
    rw [sum] at gap
    exact gap.le
  · exact le_refl _

theorem dayFromYear_le {other : Int} (reaches : dayFromYear year < dayFromYear (other + 1)) : year ≤ other := by
  by_contra later
  have order := dayFromYear_mono (show other + 1 ≤ year by omega)
  omega

theorem yearFromDay_spec (day : Int) : dayFromYear (yearFromDay day) ≤ day ∧ day < dayFromYear (yearFromDay day + 1) := by
  unfold yearFromDay
  extract_lets near
  have lower : dayFromYear (near - 1) ≤ day := by
    unfold dayFromYear
    omega
  have upper : day < dayFromYear (near + 1 + 1) := by
    unfold dayFromYear
    omega
  split
  · next later => exact ⟨later, upper⟩
  · next notLater =>
    split
    · next here => exact ⟨here, by omega⟩
    · next before =>
      have same : near - 1 + 1 = near := by omega
      exact ⟨lower, by rw [same]; omega⟩

theorem yearFromDay_eq (from_ : dayFromYear year ≤ day) (until_ : day < dayFromYear (year + 1)) : yearFromDay day = year := by
  obtain ⟨begins, ends⟩ := yearFromDay_spec day
  have early := @dayFromYear_le (yearFromDay day) year (by omega)
  have late := @dayFromYear_le year (yearFromDay day) (by omega)
  omega

theorem monthUpTo_spec (first : 0 ≤ day) (months : Nat) (last : day < daysBefore year (months + 2)) :
    (1 ≤ monthUpTo year day (months + 1) ∧ monthUpTo year day (months + 1) ≤ months + 1) ∧
      daysBefore year (monthUpTo year day (months + 1)) ≤ day ∧ day < daysBefore year (monthUpTo year day (months + 1) + 1) := by
  induction months with
  | zero => exact ⟨⟨le_refl 1, le_refl 1⟩, first, last⟩
  | succ months ih =>
    rw [monthUpTo]
    split
    · next begun => exact ⟨⟨by omega, le_refl _⟩, begun, last⟩
    · next later =>
      obtain ⟨⟨one, within⟩, begins, ends⟩ := ih (not_le.mp later)
      exact ⟨⟨one, by omega⟩, begins, ends⟩

theorem monthFromDay_spec (first : 0 ≤ day) (last : day < 365 + leapDay year) :
    (1 ≤ monthFromDay year day ∧ monthFromDay year day ≤ 12) ∧
      daysBefore year (monthFromDay year day) ≤ day ∧ day < daysBefore year (monthFromDay year day + 1) :=
  monthUpTo_spec first 11 last

theorem daysBefore_le (year : Int) {later : Nat} (order : month ≤ later) : daysBefore year month ≤ daysBefore year later := by
  have extra := leapDay_bounds year
  induction later, order using Nat.le_induction with
  | base => exact le_refl _
  | succ later _ ih =>
    refine ih.trans ?_
    by_cases past : 13 ≤ later
    · obtain ⟨beyond, rfl⟩ := Nat.exists_eq_add_of_le' past
      exact le_refl _
    · interval_cases later <;> simp only [daysBefore] <;> omega

theorem Date.Valid.day_le (valid : date.Valid) : date.day ≤ 31 := by
  obtain ⟨⟨one, twelve⟩, -, last⟩ := valid
  have extra := leapDay_bounds date.year
  have length : daysBefore date.year (date.month + 1) ≤ daysBefore date.year date.month + 31 := by
    generalize date.month = month at one twelve
    interval_cases month <;> simp only [daysBefore] <;> omega
  omega

theorem yearFromDay_ge (begun : dayFromYear year ≤ day) : year ≤ yearFromDay day :=
  dayFromYear_le (lt_of_le_of_lt begun (yearFromDay_spec day).2)

theorem month_unique {other : Nat} (begins : daysBefore year month ≤ day) (ends : day < daysBefore year (month + 1))
    (otherBegins : daysBefore year other ≤ day) (otherEnds : day < daysBefore year (other + 1)) : month = other := by
  by_contra apart
  rcases Nat.lt_or_gt_of_ne apart with before | after
  · have order := daysBefore_le year (show month + 1 ≤ other from before)
    omega
  · have order := daysBefore_le year (show other + 1 ≤ month from after)
    omega

theorem dateFromDay_valid (day : Int) : (dateFromDay day).Valid := by
  obtain ⟨begins, ends⟩ := yearFromDay_spec day
  have length := dayFromYear_succ (yearFromDay day)
  obtain ⟨months, starts, stops⟩ := @monthFromDay_spec (yearFromDay day) (day - dayFromYear (yearFromDay day)) (by omega) (by omega)
  refine ⟨months, ?_, ?_⟩
  · simp only [dateFromDay]
    omega
  · simp only [dateFromDay]
    omega

theorem dayFromDate_dateFromDay (day : Int) : dayFromDate (dateFromDay day) = day := by
  obtain ⟨begins, ends⟩ := yearFromDay_spec day
  have length := dayFromYear_succ (yearFromDay day)
  obtain ⟨-, starts, -⟩ := @monthFromDay_spec (yearFromDay day) (day - dayFromYear (yearFromDay day)) (by omega) (by omega)
  simp only [dayFromDate, dateFromDay]
  omega

theorem dateFromDay_dayFromDate (valid : date.Valid) : dateFromDay (dayFromDate date) = date := by
  obtain ⟨⟨one, twelve⟩, first, last⟩ := valid
  have length := dayFromYear_succ date.year
  have begun : 0 ≤ daysBefore date.year date.month := daysBefore_le date.year (Nat.zero_le date.month)
  have ended : daysBefore date.year (date.month + 1) ≤ 365 + leapDay date.year := daysBefore_le date.year (show date.month + 1 ≤ 13 by omega)
  have year : yearFromDay (dayFromDate date) = date.year := by
    apply yearFromDay_eq
    · unfold dayFromDate
      omega
    · unfold dayFromDate
      omega
  have within : dayFromDate date - dayFromYear date.year = daysBefore date.year date.month + date.day - 1 := by
    unfold dayFromDate
    omega
  obtain ⟨-, starts, stops⟩ := @monthFromDay_spec date.year (daysBefore date.year date.month + date.day - 1) (by omega) (by omega)
  have month := @month_unique date.year _ _ date.month starts stops (by omega) (by omega)
  simp only [dateFromDay, year, within, month]
  have day : (daysBefore date.year date.month + date.day - 1 - daysBefore date.year date.month + 1).toNat = date.day := by omega
  rw [day]

example : dateFromDay 19782 = { year := 2024, month := 2, day := 29 } := by decide

end MilkAndHenny.Library.Calendar
