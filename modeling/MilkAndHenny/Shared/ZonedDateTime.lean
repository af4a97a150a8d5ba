import MilkAndHenny.Library.Calendar

/-! Wall-clock values of datetime-local inputs, and the instants they stand for in a time zone. -/

namespace MilkAndHenny.Shared

open Library.Calendar

abbrev Text := List Char

/-- A JavaScript time value in milliseconds, `none` for the one that is not a number. -/
abbrev TimeValue := Option Int

def minuteMs : Int := 60000

def hourMs : Int := 3600000

def Changes (offset : Int → Int) (instant : Int) : Prop := offset (instant - 1) ≠ offset instant

structure Zone where
  timeZone : String
  offset : Int → Int
  bounded : ∀ instant, -(18 * 60) ≤ offset instant ∧ offset instant ≤ 18 * 60
  apart : ∀ change later, Changes offset change → Changes offset later → change < later → 72 * hourMs < later - change

def Zone.localMinute (zone : Zone) (instant : Int) : Int := instant / minuteMs + zone.offset instant

inductive Failure
  | invalid
  | rangeError
  | doesNotExist (timeZone : String)
  | occursTwice (timeZone : String)

def Failure.message : Failure → String
  | .invalid => "Enter a valid date and time."
  | .rangeError => "Invalid time value"
  | .doesNotExist timeZone => s!"That time does not exist in {timeZone}. Choose a time outside the clock change."
  | .occursTwice timeZone => s!"That time occurs twice in {timeZone}. Choose an unambiguous time outside the clock change."

def twoDigits (number : Nat) : Text := [Nat.digitChar (number / 10), Nat.digitChar (number % 10)]

/-- A year as the formatter prints it without its era: not padded, and counted back from the first before it. -/
def yearText (year : Int) : Text := Nat.toDigits 10 (if 0 < year then year else 1 - year).toNat

def wallText (date : Date) (hour minute : Nat) : Text :=
  yearText date.year ++ '-' :: (twoDigits date.month ++ '-' :: (twoDigits date.day ++ 'T' :: (twoDigits hour ++ ':' :: twoDigits minute)))

def renderMinute (minute : Int) : Text :=
  wallText (dateFromDay (minute / 1440)) (minute % 1440 / 60).toNat (minute % 60).toNat

def toZonedDateTimeInput (iso : Option TimeValue) (zone : Zone) : Except Failure Text :=
  match iso with
  | none => .ok []
  | some none => .error .invalid
  | some (some instant) => .ok (renderMinute (zone.localMinute instant))

def pattern : Text → Option (Nat × Nat × Nat × Nat × Nat)
  | [y1, y2, y3, y4, '-', m1, m2, '-', d1, d2, 'T', h1, h2, ':', i1, i2] =>
    if [y1, y2, y3, y4, m1, m2, d1, d2, h1, h2, i1, i2].all Char.isDigit then
      some (Nat.ofDigitChars 10 [y1, y2, y3, y4] 0, Nat.ofDigitChars 10 [m1, m2] 0, Nat.ofDigitChars 10 [d1, d2] 0,
        Nat.ofDigitChars 10 [h1, h2] 0, Nat.ofDigitChars 10 [i1, i2] 0)
    else none
  | _ => none

/-- The date that a text names once `:00Z` is appended. Days to the 31st are read in every month, and a day may end at 24:00. -/
def parseMinute (text : Text) : TimeValue :=
  match pattern text with
  | none => none
  | some (year, month, day, hour, minute) =>
    if (1 ≤ month ∧ month ≤ 12) ∧ (1 ≤ day ∧ day ≤ 31) ∧ (hour < 24 ∧ minute < 60 ∨ hour = 24 ∧ minute = 0) then
      some ((dayFromDate { year, month, day } * 1440 + hour * 60 + minute) * minuteMs)
    else none

def toISOString : TimeValue → Except Failure Int
  | none => .error .rangeError
  | some instant => .ok instant

def probeHours : List Int := (List.range 13).map fun step => -36 + 6 * (step : Int)

def tryProbe (zone : Zone) (value : Text) (wallTime : Int) (found : List Int) (hours : Int) : Except Failure (List Int) := do
  let probe := wallTime + hours * hourMs
  let shown ← toZonedDateTimeInput (some (some probe)) zone
  let offset := (parseMinute shown).map fun reading => reading - probe
  let candidate ← toISOString (offset.map fun offset => wallTime - offset)
  let again ← toZonedDateTimeInput (some (some candidate)) zone
  return if again = value ∧ candidate ∉ found then found ++ [candidate] else found

def fromZonedDateTimeInput (value : Text) (zone : Zone) : Except Failure (Option Int) :=
  if value.isEmpty then .ok none
  else if (pattern value).isNone then .error .invalid
  else
    match parseMinute value with
    | none => .error .invalid
    | some wallTime =>
      match probeHours.foldlM (tryProbe zone value wallTime) [] with
      | .error failure => .error failure
      | .ok [] => .error (.doesNotExist zone.timeZone)
      | .ok [candidate] => .ok (some candidate)
      | .ok (_ :: _ :: _) => .error (.occursTwice zone.timeZone)

section
variable {number : Nat} {minute : Int}

theorem yearText_length {year : Int} (positive : 0 < year) : (yearText year).length = 4 ↔ 1000 ≤ year ∧ year ≤ 9999 := by
  unfold yearText
  rw [if_pos positive]
  have three := @Nat.length_toDigits_le_iff 10 year.toNat 3 (by decide) (by decide)
  have four := @Nat.length_toDigits_le_iff 10 year.toNat 4 (by decide) (by decide)
  constructor
  · intro length
    omega
  · intro ⟨low, high⟩
    omega

theorem pattern_length {text : Text} {numbers : Nat × Nat × Nat × Nat × Nat} (matches_ : pattern text = some numbers) : text.length = 16 := by
  unfold pattern at matches_
  split at matches_
  · rfl
  · cases matches_

theorem twoDigits_isDigit (bound : number < 100) : (twoDigits number).all Char.isDigit = true := by
  have tens : number / 10 < 10 := by omega
  have units : number % 10 < 10 := by omega
  simp [twoDigits, Nat.isDigit_digitChar, tens, units]

theorem ofDigitChars_twoDigits (bound : number < 100) : Nat.ofDigitChars 10 (twoDigits number) 0 = number := by
  have tens : number / 10 < 10 := by omega
  have units : number % 10 < 10 := by omega
  rw [twoDigits, Nat.ofDigitChars_cons_digitChar_of_lt_ten tens, Nat.ofDigitChars_cons_digitChar_of_lt_ten units, Nat.ofDigitChars_nil]
  omega

theorem pattern_wallText {date : Date} {hour minute : Nat} (years : 1000 ≤ date.year ∧ date.year ≤ 9999) (month : date.month < 100)
    (day : date.day < 100) (hours : hour < 100) (minutes : minute < 100) :
    pattern (wallText date hour minute) = some (date.year.toNat, date.month, date.day, hour, minute) := by
  have length := (@yearText_length date.year (by omega)).mpr years
  have digits : ∀ c ∈ yearText date.year, c.isDigit = true := by
    intro c mem
    exact Nat.isDigit_of_mem_toDigits (by decide) (by decide) mem
  have number : Nat.ofDigitChars 10 (yearText date.year) 0 = date.year.toNat := by
    rw [yearText, if_pos (by omega), Nat.ofDigitChars_ten_toDigits]
  unfold wallText
  generalize yearText date.year = text at length digits number
  obtain _ | ⟨y1, _ | ⟨y2, _ | ⟨y3, _ | ⟨y4, _ | _⟩⟩⟩⟩ := text
  all_goals simp only [List.length_nil, List.length_cons] at length
  all_goals try omega
  have monthDigits := twoDigits_isDigit month
  have dayDigits := twoDigits_isDigit day
  have hourDigits := twoDigits_isDigit hours
  have minuteDigits := twoDigits_isDigit minutes
  have monthNumber := ofDigitChars_twoDigits month
  have dayNumber := ofDigitChars_twoDigits day
  have hourNumber := ofDigitChars_twoDigits hours
  have minuteNumber := ofDigitChars_twoDigits minutes
  unfold twoDigits at *
  simp only [List.cons_append, List.nil_append, pattern]
  rw [if_pos (by simp_all), number, monthNumber, dayNumber, hourNumber, minuteNumber]

theorem parse_renderMinute (years : 1000 ≤ yearFromDay (minute / 1440) ∧ yearFromDay (minute / 1440) ≤ 9999) :
    parseMinute (renderMinute minute) = some (minute * minuteMs) := by
  have valid := dateFromDay_valid (minute / 1440)
  have last := valid.day_le
  obtain ⟨⟨one, twelve⟩, first, -⟩ := valid
  have day := dayFromDate_dateFromDay (minute / 1440)
  have read := @pattern_wallText (dateFromDay (minute / 1440)) (minute % 1440 / 60).toNat (minute % 60).toNat years
    (by omega) (by omega) (by omega) (by omega)
  have year : ((dateFromDay (minute / 1440)).year.toNat : Int) = (dateFromDay (minute / 1440)).year := Int.toNat_of_nonneg (by simp only [dateFromDay]; omega)
  unfold parseMinute renderMinute
  rw [read]
  simp only [year]
  rw [if_pos ⟨⟨one, twelve⟩, ⟨first, last⟩, .inl ⟨by omega, by omega⟩⟩, day]
  congr 2
  omega

theorem parse_renderMinute_none (positive : 0 < yearFromDay (minute / 1440))
    (outside : ¬ (1000 ≤ yearFromDay (minute / 1440) ∧ yearFromDay (minute / 1440) ≤ 9999)) : parseMinute (renderMinute minute) = none := by
  have missed : pattern (renderMinute minute) = none := by
    by_contra found
    obtain ⟨numbers, read⟩ := Option.ne_none_iff_exists'.mp found
    have length := pattern_length read
    simp only [renderMinute, wallText, twoDigits, List.length_append, List.length_cons, List.length_nil] at length
    exact outside ((@yearText_length _ positive).mp (by simp only [dateFromDay] at length; omega))
  unfold parseMinute
  rw [missed]

end

section

variable {zone : Zone} {start stop instant : Int}

theorem offset_steady (order : start ≤ stop) (steady : ∀ change, start < change → change ≤ stop → ¬ Changes zone.offset change) :
    zone.offset start = zone.offset stop := by
  induction stop, order using Int.leInduction with
  | base => rfl
  | succ stop within ih =>
    have before := ih fun change after until_ => steady change after (by omega)
    have last := steady (stop + 1) (by omega) (le_refl _)
    simp only [Changes, add_sub_cancel_right, ne_eq, not_not] at last
    exact before.trans last

theorem offset_seen (after : start ≤ instant) (before : instant ≤ stop) (near : stop - start ≤ 72 * hourMs) :
    zone.offset instant = zone.offset start ∨ zone.offset instant = zone.offset stop := by
  by_cases changed : ∃ change, start < change ∧ change ≤ instant ∧ Changes zone.offset change
  · obtain ⟨change, began, reached, changes⟩ := changed
    right
    apply offset_steady before
    intro later beyond until_ again
    have far := zone.apart change later changes again (by omega)
    omega
  · left
    refine (offset_steady after ?_).symm
    intro change began reached changes
    exact changed ⟨change, began, reached, changes⟩

end

/-- A wall-clock value of a datetime-local input, with the years that four digits write. -/
structure WallClock where
  date : Date
  hour : Nat
  minute : Nat
  valid : date.Valid
  years : 1000 ≤ date.year ∧ date.year ≤ 9999
  hours : hour < 24
  minutes : minute < 60

namespace WallClock

def text (value : WallClock) : Text := wallText value.date value.hour value.minute

def wall (value : WallClock) : Int := dayFromDate value.date * 1440 + value.hour * 60 + value.minute

variable (value : WallClock)

theorem wall_day : dateFromDay (value.wall / 1440) = value.date := by
  have day : value.wall / 1440 = dayFromDate value.date := by
    have hours := value.hours
    have minutes := value.minutes
    unfold wall
    omega
  rw [day, dateFromDay_dayFromDate value.valid]

theorem renderMinute_wall : renderMinute value.wall = value.text := by
  have hour : (value.wall % 1440 / 60).toNat = value.hour := by
    have hours := value.hours
    have minutes := value.minutes
    unfold wall
    omega
  have minute : (value.wall % 60).toNat = value.minute := by
    have minutes := value.minutes
    unfold wall
    omega
  rw [renderMinute, wall_day, hour, minute, text]

theorem wall_years : 1000 ≤ yearFromDay (value.wall / 1440) ∧ yearFromDay (value.wall / 1440) ≤ 9999 := by
  have same : yearFromDay (value.wall / 1440) = value.date.year := congrArg Date.year value.wall_day
  rw [same]
  exact value.years

theorem parse_text : parseMinute value.text = some (value.wall * minuteMs) := by
  rw [← renderMinute_wall]
  exact parse_renderMinute value.wall_years

theorem wall_ge : dayFromYear 1000 * 1440 ≤ value.wall := by
  obtain ⟨begins, -⟩ := yearFromDay_spec (value.wall / 1440)
  have order := dayFromYear_mono value.wall_years.1
  omega

theorem renderMinute_eq_text {minute : Int} (years : 0 < yearFromDay (minute / 1440)) : renderMinute minute = value.text ↔ minute = value.wall := by
  constructor
  · intro same
    have read := value.parse_text
    rw [← same] at read
    by_cases legible : 1000 ≤ yearFromDay (minute / 1440) ∧ yearFromDay (minute / 1440) ≤ 9999
    · rw [parse_renderMinute legible] at read
      have equal := Option.some.inj read
      simp only [minuteMs] at equal
      omega
    · rw [parse_renderMinute_none years legible] at read
      cases read
  · rintro rfl
    exact value.renderMinute_wall

end WallClock

/-- A clock of the zone in the common era. -/
def Zone.localYear (zone : Zone) (instant : Int) : Int := yearFromDay (zone.localMinute instant / 1440)

/-- A whole-minute instant that renders to the value. Years are counted within their era, so the era is part of what is meant. -/
structure Reads (zone : Zone) (value : WallClock) (instant : Int) : Prop where
  whole : instant % minuteMs = 0
  common : 0 < zone.localYear instant
  rendered : toZonedDateTimeInput (some (some instant)) zone = .ok value.text

/-- What converting a value answers: its one instant, or which way it has none or several. -/
structure Settles (zone : Zone) (value : WallClock) : Prop where
  once : ∀ instant, Reads zone value instant → (∀ other, Reads zone value other → other = instant) →
    fromZonedDateTimeInput value.text zone = .ok (some instant)
  never : (∀ instant, ¬ Reads zone value instant) → fromZonedDateTimeInput value.text zone = .error (.doesNotExist zone.timeZone)
  twice : ∀ instant other, Reads zone value instant → Reads zone value other → instant ≠ other →
    fromZonedDateTimeInput value.text zone = .error (.occursTwice zone.timeZone)

/-- The zone's clocks show a year of four digits. -/
def Zone.Legible (zone : Zone) (instant : Int) : Prop := 1000 ≤ zone.localYear instant ∧ zone.localYear instant ≤ 9999

section

variable {zone : Zone} {value : WallClock} {instant hours : Int} {found : List Int}

theorem reads_iff : Reads zone value instant ↔ instant % minuteMs = 0 ∧ zone.localMinute instant = value.wall := by
  constructor
  · rintro ⟨whole, common, rendered⟩
    exact ⟨whole, (value.renderMinute_eq_text common).mp (Except.ok.inj rendered)⟩
  · rintro ⟨whole, same⟩
    have years := value.wall_years
    refine ⟨whole, ?_, ?_⟩
    · simp only [Zone.localYear, same]
      omega
    · rw [toZonedDateTimeInput, same, value.renderMinute_wall]

def candidate (zone : Zone) (wall hours : Int) : Int := (wall - zone.offset (wall * minuteMs + hours * hourMs)) * minuteMs

theorem probe_minute (wall : Int) : zone.localMinute (wall * minuteMs + hours * hourMs) = wall + hours * 60 + zone.offset (wall * minuteMs + hours * hourMs) := by
  simp only [Zone.localMinute, minuteMs, hourMs]
  omega

theorem probe_common (near : -36 ≤ hours) : 0 < zone.localYear (value.wall * minuteMs + hours * hourMs) := by
  have early := value.wall_ge
  have bounds := zone.bounded (value.wall * minuteMs + hours * hourMs)
  have numbers : dayFromYear 1 + 3 ≤ dayFromYear 1000 := by decide
  have reached : dayFromYear 1 ≤ zone.localMinute (value.wall * minuteMs + hours * hourMs) / 1440 := by
    rw [probe_minute]
    omega
  exact yearFromDay_ge reached

theorem candidate_whole (wall : Int) : candidate zone wall hours % minuteMs = 0 := Int.mul_emod_left _ _

theorem candidate_common : 0 < zone.localYear (candidate zone value.wall hours) := by
  have early := value.wall_ge
  have seen := zone.bounded (value.wall * minuteMs + hours * hourMs)
  have bounds := zone.bounded (candidate zone value.wall hours)
  have numbers : dayFromYear 1 + 3 ≤ dayFromYear 1000 := by decide
  have reached : dayFromYear 1 ≤ zone.localMinute (candidate zone value.wall hours) / 1440 := by
    have minute : candidate zone value.wall hours / minuteMs = value.wall - zone.offset (value.wall * minuteMs + hours * hourMs) :=
      Int.mul_ediv_cancel _ (by decide)
    rw [Zone.localMinute, minute]
    omega
  exact yearFromDay_ge reached

theorem tryProbe_ok (legible : zone.Legible (value.wall * minuteMs + hours * hourMs)) :
    tryProbe zone value.text (value.wall * minuteMs) found hours =
      .ok (if zone.localMinute (candidate zone value.wall hours) = value.wall ∧ candidate zone value.wall hours ∉ found
        then found ++ [candidate zone value.wall hours] else found) := by
  have shift : value.wall * minuteMs - (zone.localMinute (value.wall * minuteMs + hours * hourMs) * minuteMs - (value.wall * minuteMs + hours * hourMs)) =
      candidate zone value.wall hours := by
    rw [probe_minute]
    simp only [candidate, minuteMs, hourMs]
    omega
  have again := value.renderMinute_eq_text (@candidate_common zone value hours)
  unfold tryProbe
  simp [toZonedDateTimeInput, parse_renderMinute legible, toISOString, shift, bind, Except.bind, pure, Except.pure, again]

theorem tryProbe_error (near : -36 ≤ hours) (illegible : ¬ zone.Legible (value.wall * minuteMs + hours * hourMs)) :
    tryProbe zone value.text (value.wall * minuteMs) found hours = .error .rangeError := by
  have missing := parse_renderMinute_none (probe_common near) illegible
  unfold tryProbe
  simp [toZonedDateTimeInput, missing, toISOString, bind, Except.bind]

theorem probes_gather (tried : List Int) (legible : ∀ hours ∈ tried, zone.Legible (value.wall * minuteMs + hours * hourMs)) (nodup : found.Nodup) :
    ∃ gathered, tried.foldlM (tryProbe zone value.text (value.wall * minuteMs)) found = .ok gathered ∧ gathered.Nodup ∧
      ∀ instant, instant ∈ gathered ↔ instant ∈ found ∨
        zone.localMinute instant = value.wall ∧ ∃ hours ∈ tried, candidate zone value.wall hours = instant := by
  induction tried generalizing found with
  | nil => exact ⟨found, rfl, nodup, by simp⟩
  | cons hours tried ih =>
    have step := @tryProbe_ok zone value hours found (legible hours List.mem_cons_self)
    have rest := fun hours mem => legible hours (List.mem_cons_of_mem _ mem)
    rw [List.foldlM_cons, step]
    split_ifs with fresh
    · obtain ⟨reads, new⟩ := fresh
      have nodup : (found ++ [candidate zone value.wall hours]).Nodup := by
        rw [List.nodup_append_comm]
        exact List.nodup_cons.mpr ⟨new, nodup⟩
      obtain ⟨gathered, run, unique, members⟩ := ih rest nodup
      refine ⟨gathered, run, unique, ?_⟩
      intro instant
      rw [members]
      simp only [List.mem_append, List.mem_singleton, List.exists_mem_cons_iff]
      constructor
      · rintro ((listed | rfl) | ⟨reads, tried⟩)
        · exact .inl listed
        · exact .inr ⟨reads, .inl rfl⟩
        · exact .inr ⟨reads, .inr tried⟩
      · rintro (listed | ⟨reads, rfl | tried⟩)
        · exact .inl (.inl listed)
        · exact .inl (.inr rfl)
        · exact .inr ⟨reads, tried⟩
    · obtain ⟨gathered, run, unique, members⟩ := ih rest nodup
      refine ⟨gathered, run, unique, ?_⟩
      intro instant
      rw [members]
      simp only [List.exists_mem_cons_iff]
      constructor
      · rintro (listed | ⟨reads, tried⟩)
        · exact .inl listed
        · exact .inr ⟨reads, .inr tried⟩
      · rintro (listed | ⟨reads, rfl | tried⟩)
        · exact .inl listed
        · exact .inl (by_contra fun new => fresh ⟨reads, new⟩)
        · exact .inr ⟨reads, tried⟩

theorem probes_fail (tried : List Int) (near : ∀ hours ∈ tried, -36 ≤ hours)
    (illegible : ∃ hours ∈ tried, ¬ zone.Legible (value.wall * minuteMs + hours * hourMs)) :
    tried.foldlM (tryProbe zone value.text (value.wall * minuteMs)) found = .error .rangeError := by
  induction tried generalizing found with
  | nil =>
    obtain ⟨_, absent, -⟩ := illegible
    cases absent
  | cons hours tried ih =>
    rw [List.foldlM_cons]
    by_cases legible : zone.Legible (value.wall * minuteMs + hours * hourMs)
    · rw [tryProbe_ok legible]
      apply ih (fun hours mem => near hours (List.mem_cons_of_mem _ mem))
      obtain ⟨other, listed, dark⟩ := illegible
      rcases List.mem_cons.mp listed with rfl | listed
      · exact absurd legible dark
      · exact ⟨other, listed, dark⟩
    · rw [tryProbe_error (near hours List.mem_cons_self) legible]
      rfl

theorem reads_tried (reads : Reads zone value instant) : ∃ hours ∈ probeHours, candidate zone value.wall hours = instant := by
  obtain ⟨whole, same⟩ := reads_iff.mp reads
  have bounds := zone.bounded instant
  have back : instant = (value.wall - zone.offset instant) * minuteMs := by
    simp only [Zone.localMinute, minuteMs] at *
    omega
  have seen := @offset_seen zone (value.wall * minuteMs + -36 * hourMs) (value.wall * minuteMs + 36 * hourMs) instant
    (by simp only [minuteMs, hourMs] at *; omega) (by simp only [minuteMs, hourMs] at *; omega) (by simp only [hourMs]; omega)
  rcases seen with seen | seen
  · exact ⟨-36, by decide, by rw [candidate, ← seen, ← back]⟩
  · exact ⟨36, by decide, by rw [candidate, ← seen, ← back]⟩

def AllLegible (zone : Zone) (value : WallClock) : Prop := ∀ hours ∈ probeHours, zone.Legible (value.wall * minuteMs + hours * hourMs)

theorem convert_probes : fromZonedDateTimeInput value.text zone =
    match probeHours.foldlM (tryProbe zone value.text (value.wall * minuteMs)) [] with
    | .error failure => .error failure
    | .ok [] => .error (.doesNotExist zone.timeZone)
    | .ok [candidate] => .ok (some candidate)
    | .ok (_ :: _ :: _) => .error (.occursTwice zone.timeZone) := by
  have parsed := value.parse_text
  have filled : value.text.isEmpty = false := by simp [WallClock.text, wallText]
  have shaped : (pattern value.text).isNone = false := by
    by_contra missing
    simp only [Bool.not_eq_false, Option.isNone_iff_eq_none] at missing
    simp [parseMinute, missing] at parsed
  unfold fromZonedDateTimeInput
  simp [filled, shaped, parsed]

theorem convert_fails (illegible : ¬ AllLegible zone value) : fromZonedDateTimeInput value.text zone = .error .rangeError := by
  have dark : ∃ hours ∈ probeHours, ¬ zone.Legible (value.wall * minuteMs + hours * hourMs) := by
    simpa [AllLegible] using illegible
  rw [convert_probes, probes_fail probeHours (by decide) dark]

theorem convert_gathers (legible : AllLegible zone value) :
    ∃ gathered, probeHours.foldlM (tryProbe zone value.text (value.wall * minuteMs)) [] = .ok gathered ∧ gathered.Nodup ∧
      ∀ instant, instant ∈ gathered ↔ Reads zone value instant := by
  obtain ⟨gathered, run, unique, members⟩ := @probes_gather zone value [] probeHours legible List.nodup_nil
  refine ⟨gathered, run, unique, ?_⟩
  intro instant
  rw [members]
  constructor
  · rintro (absent | ⟨same, hours, listed, rfl⟩)
    · cases absent
    · exact reads_iff.mpr ⟨candidate_whole _, same⟩
  · intro reads
    exact .inr ⟨(reads_iff.mp reads).2, reads_tried reads⟩

theorem settles_of_legible (legible : AllLegible zone value) : Settles zone value := by
  obtain ⟨gathered, run, unique, members⟩ := convert_gathers legible
  constructor
  · intro instant reads only
    have single : gathered = [instant] := by
      apply List.perm_singleton.mp
      refine (List.perm_ext_iff_of_nodup unique (List.nodup_singleton instant)).mpr ?_
      intro other
      rw [members, List.mem_singleton]
      exact ⟨only other, fun same => same ▸ reads⟩
    rw [convert_probes, run, single]
  · intro never
    have empty : gathered = [] := List.eq_nil_iff_forall_not_mem.mpr fun instant listed => never instant ((members instant).mp listed)
    rw [convert_probes, run, empty]
  · intro instant other reads otherReads apart
    rw [convert_probes, run]
    obtain _ | ⟨first, _ | ⟨second, rest⟩⟩ := gathered
    · cases (members instant).mpr reads
    · have here := List.mem_singleton.mp ((members instant).mpr reads)
      have there := List.mem_singleton.mp ((members other).mpr otherReads)
      exact absurd (here.trans there.symm) apart
    · rfl

theorem legible_of_settles (settles : Settles zone value) : AllLegible zone value := by
  by_contra illegible
  have failed := convert_fails illegible
  by_cases read : ∃ instant, Reads zone value instant
  · obtain ⟨instant, reads⟩ := read
    by_cases only : ∀ other, Reads zone value other → other = instant
    · rw [settles.once instant reads only] at failed
      cases failed
    · obtain ⟨other, otherReads, apart⟩ : ∃ other, Reads zone value other ∧ other ≠ instant := by
        simpa using only
      rw [settles.twice other instant otherReads reads apart] at failed
      cases failed
  · rw [settles.never fun instant reads => read ⟨instant, reads⟩] at failed
    cases failed

theorem converted_reads (converted : fromZonedDateTimeInput value.text zone = .ok (some instant)) : Reads zone value instant := by
  by_cases legible : AllLegible zone value
  · obtain ⟨gathered, run, unique, members⟩ := convert_gathers legible
    rw [convert_probes, run] at converted
    obtain _ | ⟨first, _ | ⟨second, rest⟩⟩ := gathered
    · cases converted
    · cases converted
      exact (members instant).mp (List.mem_singleton_self instant)
    · cases converted
  · rw [convert_fails legible] at converted
    cases converted

def wholeMinute (instant : Int) : Int := instant / minuteMs * minuteMs

/-- No instant of the common era in another minute renders as this one does. -/
def OutsideRepeats (zone : Zone) (instant : Int) : Prop :=
  ∀ other, 0 < zone.localYear other →
    toZonedDateTimeInput (some (some other)) zone = toZonedDateTimeInput (some (some instant)) zone → wholeMinute other = wholeMinute instant

theorem converts_back (reads : zone.localMinute instant = value.wall) (outside : OutsideRepeats zone instant) :
    fromZonedDateTimeInput value.text zone = .ok (some (wholeMinute instant)) ↔
      AllLegible zone value ∧ zone.offset (wholeMinute instant) = zone.offset instant := by
  have shown : toZonedDateTimeInput (some (some instant)) zone = .ok value.text := by
    rw [toZonedDateTimeInput, reads, value.renderMinute_wall]
  have minute : zone.localMinute (wholeMinute instant) = instant / minuteMs + zone.offset (wholeMinute instant) := by
    rw [Zone.localMinute, wholeMinute, Int.mul_ediv_cancel _ (by decide)]
  constructor
  · intro converted
    have legible : AllLegible zone value := by
      by_contra illegible
      rw [convert_fails illegible] at converted
      cases converted
    refine ⟨legible, ?_⟩
    have same := (reads_iff.mp (converted_reads converted)).2
    rw [Zone.localMinute] at reads
    omega
  · rintro ⟨legible, steady⟩
    apply (settles_of_legible legible).once
    · refine reads_iff.mpr ⟨Int.mul_emod_left _ _, ?_⟩
      rw [minute, steady]
      exact reads
    · intro other otherReads
      have same := outside other otherReads.common (otherReads.rendered.trans shown.symm)
      rw [← same, wholeMinute]
      have whole := otherReads.whole
      simp only [minuteMs] at *
      omega

/-- A conversion settles its value exactly where no probe leaves the years of four digits. What it returns renders as the value, and
what an instant outside repeats renders as comes back to its minute exactly when, besides, the offset did not change within that minute. -/
theorem conversion_settles (zone : Zone) (value : WallClock) :
    (Settles zone value ↔ AllLegible zone value) ∧
      (∀ instant, fromZonedDateTimeInput value.text zone = .ok (some instant) → Reads zone value instant) ∧
      ∀ instant, zone.localMinute instant = value.wall → OutsideRepeats zone instant →
        (fromZonedDateTimeInput value.text zone = .ok (some (wholeMinute instant)) ↔
          AllLegible zone value ∧ zone.offset (wholeMinute instant) = zone.offset instant) :=
  ⟨⟨legible_of_settles, settles_of_legible⟩, fun _ => converted_reads, fun _ => converts_back⟩

def utc : Zone where
  timeZone := "UTC"
  offset _ := 0
  bounded _ := by decide
  apart _ _ changes := absurd rfl changes

def lastNoon : WallClock where
  date := { year := 9999, month := 12, day := 31 }
  hour := 12
  minute := 0
  valid := ⟨by decide, by decide, by decide⟩
  years := by decide
  hours := by decide
  minutes := by decide

/-- Noon on the last day of the year 9999 has one instant, and a probe twelve hours later fails on its year. -/
theorem lastNoon_fails : Reads utc lastNoon (lastNoon.wall * minuteMs) ∧ (∀ other, Reads utc lastNoon other → other = lastNoon.wall * minuteMs) ∧
    fromZonedDateTimeInput lastNoon.text utc = .error .rangeError := by
  refine ⟨reads_iff.mpr ⟨by decide, by decide⟩, ?_, ?_⟩
  · intro other reads
    obtain ⟨whole, same⟩ := reads_iff.mp reads
    simp only [Zone.localMinute, utc, minuteMs] at *
    omega
  · apply convert_fails
    intro legible
    have late := (legible 12 (by decide)).2
    revert late
    decide

end

end MilkAndHenny.Shared
