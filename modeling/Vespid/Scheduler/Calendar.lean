import Mathlib.Tactic.IntervalCases
import Vespid.Scheduler.Cron

/-!
# The days a cron expression matches

The calendar behind `Date`, and from it which expressions the search for the next minute misses:
those that match on 29 February only.
-/

namespace Vespid.Scheduler

/-! ### The calendar -/

/-- Month and day of the month of a day of the year from March on. -/
def marchDay (dayOfYear : Int) : Int × Int :=
  let shifted := (5 * dayOfYear + 2) / 153
  (if shifted < 10 then shifted + 3 else shifted - 9, dayOfYear - (153 * shifted + 2) / 5 + 1)

/-- A day by its cycles of 400, 100 and 4 years, its year and its day of the year. -/
structure Position where
  era : Int
  century : Int
  cycle : Int
  year : Int
  day : Int
  centuries : 0 ≤ century ∧ century ≤ 3
  cycles : 0 ≤ cycle ∧ cycle ≤ 24
  years : 0 ≤ year ∧ year ≤ 3
  days : 0 ≤ day ∧ day ≤ 365
  leap : day = 365 → year = 3 ∧ (cycle < 24 ∨ century = 3)

def Position.number (p : Position) : Int :=
  146097 * p.era + 36524 * p.century + 1461 * p.cycle + 365 * p.year + p.day - 719468

theorem years_of_era (century : Int) {cycle year : Int} (cycles : 0 ≤ cycle ∧ cycle ≤ 24)
    (years : 0 ≤ year ∧ year ≤ 3) :
    (100 * century + 4 * cycle + year) / 4 = 25 * century + cycle ∧
      (100 * century + 4 * cycle + year) / 100 = century := by
  omega

theorem civilFromDays_number (p : Position) : civilFromDays p.number = marchDay p.day := by
  obtain ⟨era, century, cycle, year, day, centuries, cycles, years, days, leap⟩ := p
  have dayOfEra : (Position.number ⟨era, century, cycle, year, day, centuries, cycles, years, days,
      leap⟩ + 719468) % 146097 = 36524 * century + 1461 * cycle + 365 * year + day := by
    unfold Position.number
    simp only
    omega
  generalize doe : 36524 * century + 1461 * cycle + 365 * year + day = dayOfEra' at dayOfEra
  have leapDays : dayOfEra' / 1460 = 25 * century + cycle ∧ day < 365 ∨
      dayOfEra' / 1460 = 25 * century + cycle + 1 ∧ 1 ≤ day := by omega
  have centuryDays : dayOfEra' / 36524 - dayOfEra' / 146096 = century := by
    by_cases last : dayOfEra' = 146096
    · omega
    · have short : dayOfEra' / 146096 = 0 := by omega
      omega
  have yearOfEra : (dayOfEra' - dayOfEra' / 1460 + dayOfEra' / 36524 - dayOfEra' / 146096) / 365 =
      100 * century + 4 * cycle + year := by omega
  have dayOfYear : dayOfEra' - (365 * (100 * century + 4 * cycle + year) +
      (100 * century + 4 * cycle + year) / 4 - (100 * century + 4 * cycle + year) / 100) = day := by
    obtain ⟨fours, hundreds⟩ := years_of_era century cycles years
    omega
  unfold civilFromDays marchDay
  simp only [dayOfEra, yearOfEra, dayOfYear]

theorem exists_position (z : Int) : ∃ p : Position, p.number = z := by
  have era := Int.emod_add_mul_ediv (z + 719468) 146097
  generalize (z + 719468) / 146097 = e at era
  have bounds : 0 ≤ (z + 719468) % 146097 ∧ (z + 719468) % 146097 ≤ 146096 := by omega
  generalize (z + 719468) % 146097 = doe at era bounds
  obtain ⟨century, rest, centuries, split, bounds'⟩ : ∃ c r : Int, (0 ≤ c ∧ c ≤ 3) ∧
      doe = 36524 * c + r ∧ 0 ≤ r ∧ r ≤ 36524 ∧ (r = 36524 → c = 3) := by
    by_cases last : doe = 146096
    · exact ⟨3, 36524, by omega, by omega, by omega⟩
    · exact ⟨doe / 36524, doe % 36524, by omega, by omega, by omega⟩
  obtain ⟨cycle, rest', cycles, split', bounds''⟩ : ∃ b r : Int, (0 ≤ b ∧ b ≤ 24) ∧
      rest = 1461 * b + r ∧ 0 ≤ r ∧ r ≤ 1460 :=
    ⟨rest / 1461, rest % 1461, by omega, by omega, by omega⟩
  obtain ⟨year, day, years, split'', bounds'''⟩ : ∃ a r : Int, (0 ≤ a ∧ a ≤ 3) ∧
      rest' = 365 * a + r ∧ 0 ≤ r ∧ r ≤ 365 ∧ (r = 365 → a = 3) := by
    by_cases last : rest' = 1460
    · exact ⟨3, 365, by omega, by omega, by omega⟩
    · exact ⟨rest' / 365, rest' % 365, by omega, by omega, by omega⟩
  refine ⟨⟨e, century, cycle, year, day, centuries, cycles, years, by omega, by omega⟩, ?_⟩
  unfold Position.number
  simp only
  omega

/-- The first day of the year after that of a position. -/
theorem exists_next (p : Position) : ∃ q : Position, q.day = 0 ∧
    p.number - p.day + 365 ≤ q.number ∧ q.number ≤ p.number - p.day + 366 ∧
    (p.day = 365 → q.number = p.number + 1) := by
  obtain ⟨era, century, cycle, year, day, centuries, cycles, years, days, leap⟩ := p
  unfold Position.number
  simp only
  by_cases within : year < 3
  · exact ⟨⟨era, century, cycle, year + 1, 0, centuries, cycles, by omega, by omega, by omega⟩, rfl,
      by simp only; omega, by simp only; omega, by simp only; omega⟩
  · by_cases within' : cycle < 24
    · exact ⟨⟨era, century, cycle + 1, 0, 0, centuries, by omega, by omega, by omega, by omega⟩, rfl,
        by simp only; omega, by simp only; omega, by simp only; omega⟩
    · by_cases within'' : century < 3
      · exact ⟨⟨era, century + 1, 0, 0, 0, by omega, by omega, by omega, by omega, by omega⟩, rfl,
          by simp only; omega, by simp only; omega, by simp only; omega⟩
      · exact ⟨⟨era + 1, 0, 0, 0, 0, by omega, by omega, by omega, by omega, by omega⟩, rfl,
          by simp only; omega, by simp only; omega, by simp only; omega⟩

theorem civilFromDays_year (p : Position) {d : Int} (low : 0 ≤ d) (high : d ≤ 364) :
    civilFromDays (p.number - p.day + d) = marchDay d := by
  have same := civilFromDays_number { p with day := d, days := by omega, leap := by omega }
  have number : Position.number { p with day := d, days := by omega, leap := by omega } =
      p.number - p.day + d := by
    unfold Position.number
    simp only
    omega
  rwa [number] at same

/-- Within a year from any day on there is one from which the dates go on as in any year. -/
theorem exists_dates (z : Int) {s : Int} (low : 0 ≤ s) (high : s ≤ 364) : ∃ first,
    z ≤ first + s ∧ first + s ≤ z + 365 ∧ ∀ d, 0 ≤ d → d ≤ 364 →
      civilFromDays (first + d) = marchDay d := by
  obtain ⟨p, rfl⟩ := exists_position z
  by_cases later : p.day ≤ s
  · refine ⟨p.number - p.day, by omega, ?_, fun d low high => civilFromDays_year p low high⟩
    have := p.days
    omega
  · obtain ⟨q, first, least, most, leap⟩ := exists_next p
    have := p.days
    refine ⟨q.number, by omega, by omega, fun d low high => ?_⟩
    have dates := civilFromDays_year q low high
    rwa [first, Int.sub_zero] at dates

/-- The days of a month in a year that is not a leap year. -/
def monthDays (month : Int) : Int :=
  if month = 2 then 28 else if month = 4 ∨ month = 6 ∨ month = 9 ∨ month = 11 then 30 else 31

/-- The day of the year from March on. -/
def dayOfYear (month date : Int) : Int :=
  (153 * (if month ≤ 2 then month + 9 else month - 3) + 2) / 5 + date - 1

theorem marchDay_dayOfYear {month date : Int} (months : 1 ≤ month ∧ month ≤ 12)
    (dates : 1 ≤ date ∧ date ≤ monthDays month) :
    marchDay (dayOfYear month date) = (month, date) ∧ 0 ≤ dayOfYear month date ∧
      dayOfYear month date ≤ 364 := by
  have long : date ≤ 31 ∧ (month = 2 → date ≤ 28) ∧
      (month = 4 ∨ month = 6 ∨ month = 9 ∨ month = 11 → date ≤ 30) := by
    unfold monthDays at dates
    split_ifs at dates <;> omega
  -- the month counted from March
  obtain ⟨m, ⟨low, high⟩, is⟩ : ∃ m : Int, (0 ≤ m ∧ m ≤ 11) ∧
      (if month ≤ 2 then month + 9 else month - 3) = m := ⟨_, by split <;> omega, rfl⟩
  have within : (5 * ((153 * m + 2) / 5 + date - 1) + 2) / 153 = m := by
    interval_cases m <;> split_ifs at is <;> omega
  unfold marchDay dayOfYear
  rw [is, within]
  refine ⟨Prod.ext ?_ ?_, ?_, ?_⟩
  · simp only
    split_ifs at is ⊢ <;> omega
  · simp only
    omega
  · omega
  · omega

theorem marchDay_bounds {s : Int} (low : 0 ≤ s) (high : s ≤ 365) :
    1 ≤ (marchDay s).1 ∧ (marchDay s).1 ≤ 12 ∧ 1 ≤ (marchDay s).2 ∧
      ((marchDay s).2 ≤ monthDays (marchDay s).1 ∨ marchDay s = (2, 29)) := by
  unfold marchDay
  have shifted : 0 ≤ (5 * s + 2) / 153 ∧ (5 * s + 2) / 153 ≤ 11 := by omega
  generalize months : (5 * s + 2) / 153 = m at shifted
  simp only [monthDays, Prod.mk.injEq]
  split_ifs <;> omega

/-- A day is one of those every year has, or 29 February. -/
theorem civilFromDays_bounds (z : Int) : 1 ≤ (civilFromDays z).1 ∧ (civilFromDays z).1 ≤ 12 ∧
    1 ≤ (civilFromDays z).2 ∧
    ((civilFromDays z).2 ≤ monthDays (civilFromDays z).1 ∨ civilFromDays z = (2, 29)) := by
  obtain ⟨p, rfl⟩ := exists_position z
  rw [civilFromDays_number]
  exact marchDay_bounds p.days.1 p.days.2

/-- Within a year from any day on there is that date. -/
theorem exists_date (z : Int) {month date : Int} (months : 1 ≤ month ∧ month ≤ 12)
    (dates : 1 ≤ date ∧ date ≤ monthDays month) :
    ∃ day, z ≤ day ∧ day ≤ z + 365 ∧ civilFromDays day = (month, date) := by
  obtain ⟨same, low, high⟩ := marchDay_dayOfYear months dates
  obtain ⟨first, early, late, goes⟩ := exists_dates z low high
  exact ⟨_, early, late, (goes _ low high).trans same⟩

/-- Within a year and a week from any day on there is a day of that month and weekday. -/
theorem exists_weekday (z : Int) {month weekday : Int} (months : 1 ≤ month ∧ month ≤ 12)
    (weekdays : 0 ≤ weekday ∧ weekday ≤ 6) :
    ∃ day, z ≤ day ∧ day ≤ z + 371 ∧ (civilFromDays day).1 = month ∧ (day + 4) % 7 = weekday := by
  have short : 28 ≤ monthDays month := by
    unfold monthDays
    split
    · omega
    · split <;> omega
  obtain ⟨-, low, high⟩ := marchDay_dayOfYear months (show 1 ≤ 1 ∧ 1 ≤ monthDays month by omega)
  obtain ⟨first, early, late, goes⟩ := exists_dates z low high
  have steps : 0 ≤ (weekday - (first + dayOfYear month 1 + 4)) % 7 ∧
      (weekday - (first + dayOfYear month 1 + 4)) % 7 ≤ 6 := by omega
  generalize within : (weekday - (first + dayOfYear month 1 + 4)) % 7 = k at steps
  have later : dayOfYear month 1 + k = dayOfYear month (1 + k) := by
    unfold dayOfYear
    omega
  obtain ⟨same, low', high'⟩ := marchDay_dayOfYear months
    (show 1 ≤ 1 + k ∧ 1 + k ≤ monthDays month by omega)
  refine ⟨first + dayOfYear month (1 + k), by omega, by omega, ?_, by omega⟩
  rw [goes _ low' high', same]

theorem exists_leapDay (z : Int) : ∃ day, z ≤ day ∧ civilFromDays day = (2, 29) := by
  let p : Position := ⟨(z + 719468) / 146097 + 1, 0, 0, 3, 365, by omega, by omega, by omega,
    by omega, by omega⟩
  refine ⟨p.number, ?_, (civilFromDays_number p).trans (show marchDay 365 = (2, 29) by decide)⟩
  show z ≤ 146097 * ((z + 719468) / 146097 + 1) + 36524 * 0 + 1461 * 0 + 365 * 3 + 365 - 719468
  omega

theorem marchDay_leap {s : Int} (low : 0 ≤ s) (high : s ≤ 365) (leap : marchDay s = (2, 29)) :
    s = 365 := by
  unfold marchDay at leap
  have shifted : 0 ≤ (5 * s + 2) / 153 ∧ (5 * s + 2) / 153 ≤ 11 := by omega
  generalize months : (5 * s + 2) / 153 = m at leap shifted
  simp only [Prod.mk.injEq] at leap
  obtain ⟨month, date⟩ := leap
  split_ifs at month <;> omega

/-- After 29 February the next one is four years away, or more. -/
theorem leapDays_apart {z day : Int} (first : civilFromDays z = (2, 29))
    (second : civilFromDays day = (2, 29)) (later : z < day) : z + 1461 ≤ day := by
  obtain ⟨p, rfl⟩ := exists_position z
  obtain ⟨q, rfl⟩ := exists_position day
  rw [civilFromDays_number] at first second
  have last := marchDay_leap p.days.1 p.days.2 first
  have last' := marchDay_leap q.days.1 q.days.2 second
  obtain ⟨year, long⟩ := p.leap last
  obtain ⟨year', -⟩ := q.leap last'
  have cycles := p.cycles
  have cycles' := q.cycles
  have centuries := p.centuries
  have centuries' := q.centuries
  unfold Position.number at later ⊢
  by_cases era : p.era = q.era
  · by_cases century : p.century = q.century
    · omega
    · omega
  · omega

/-! ### Parsed fields -/

/-- A field has values, and they are in range. -/
def CronField.Proper (field : CronField) (min max : Int) : Prop :=
  field.values ≠ [] ∧ ∀ v ∈ field.values, min ≤ v ∧ v ≤ max

structure ParsedCron.Proper (parsed : ParsedCron) : Prop where
  minute : parsed.minute.Proper 0 59
  hour : parsed.hour.Proper 0 23
  dayOfMonth : parsed.dayOfMonth.Proper 1 31
  month : parsed.month.Proper 1 12
  dayOfWeek : parsed.dayOfWeek.Proper 0 6

section parsing
variable {js : JsRuntime} {min max : Int}

theorem stepsTo_ne_nil {start stop step : Int} (order : start ≤ stop) (pos : 0 < step) :
    stepsTo start stop step ≠ [] := by
  have steps : 0 ≤ (stop - start) / step := Int.ediv_nonneg (by omega) (by omega)
  unfold stepsTo
  simp only [ne_eq, List.map_eq_nil_iff, List.range_eq_nil]
  omega

theorem parseRange_order {baseRaw : List Char} {start stop : Int} (bounds : min ≤ max)
    (parsed : parseRange js baseRaw min max = some (start, stop)) : start ≤ stop := by
  unfold parseRange at parsed
  split at parsed
  · cases parsed
    exact bounds
  · split at parsed
    · split at parsed
      · obtain ⟨first, -, parsed⟩ := Option.bind_eq_some_iff.mp parsed
        obtain ⟨last, -, parsed⟩ := Option.bind_eq_some_iff.mp parsed
        split at parsed
        · cases parsed
        · cases parsed
          omega
      · cases parsed
    · obtain ⟨value, -, parsed⟩ := Option.bind_eq_some_iff.mp parsed
      cases parsed
      exact Int.le_refl _

theorem parseFieldPart_ne_nil {part : List Char} {values : List Int} (bounds : min ≤ max)
    (parsed : parseFieldPart js part min max = some values) : values ≠ [] := by
  unfold parseFieldPart at parsed
  simp only at parsed
  split at parsed
  · cases parsed
  · obtain ⟨step, parsed⟩ : ∃ step, (if step ≤ 0 then none else
        (parseRange js ((splitChars (· == '/') (trim part)).headD []) min max).bind fun range =>
          if range.1 < min ∨ range.2 > max then none
          else some (stepsTo range.1 range.2 step)) = some values := by
      split at parsed
      · exact ⟨1, parsed⟩
      · obtain ⟨step, -, parsed⟩ := Option.bind_eq_some_iff.mp parsed
        exact ⟨step, parsed⟩
    split at parsed
    · cases parsed
    · next pos =>
      obtain ⟨⟨start, stop⟩, range, parsed⟩ := Option.bind_eq_some_iff.mp parsed
      split at parsed
      · cases parsed
      · cases parsed
        exact stepsTo_ne_nil (parseRange_order bounds range) (by omega)

theorem parseCronField_proper {raw : List Char} {normalize : Int → Int} {field : CronField}
    (bounds : min ≤ max) (parsed : parseCronField js raw min max normalize = some field) :
    field.Proper min max := by
  obtain ⟨parts, read, parsed⟩ := Option.bind_eq_some_iff.mp parsed
  simp only at parsed
  split at parsed
  · cases parsed
  · next inside =>
    cases parsed
    refine ⟨?_, fun v mem => ?_⟩
    · cases pieces : splitChars (· == ',') raw with
      | nil => exact absurd pieces (splitChars_ne_nil _ _)
      | cons first rest =>
        rw [pieces, List.mapM_cons] at read
        obtain ⟨values, part, read⟩ := Option.bind_eq_some_iff.mp read
        obtain ⟨others, -, read⟩ := Option.bind_eq_some_iff.mp read
        cases read
        have filled := parseFieldPart_ne_nil bounds part
        simp [filled]
    · simp only [List.any_eq_true, not_exists, not_and, Bool.or_eq_true, decide_eq_true_eq] at inside
      have := inside v mem
      omega

theorem parseCronExpression_proper {expression : String} {parsed : ParsedCron}
    (parses : parseCronExpression js expression = some parsed) : parsed.Proper := by
  unfold parseCronExpression at parses
  split at parses
  · obtain ⟨minute, first, parses⟩ := Option.bind_eq_some_iff.mp parses
    obtain ⟨hour, second, parses⟩ := Option.bind_eq_some_iff.mp parses
    obtain ⟨dayOfMonth, third, parses⟩ := Option.bind_eq_some_iff.mp parses
    obtain ⟨month, fourth, parses⟩ := Option.bind_eq_some_iff.mp parses
    obtain ⟨dayOfWeek, fifth, parses⟩ := Option.bind_eq_some_iff.mp parses
    cases parses
    exact ⟨parseCronField_proper (by decide) first, parseCronField_proper (by decide) second,
      parseCronField_proper (by decide) third, parseCronField_proper (by decide) fourth,
      parseCronField_proper (by decide) fifth⟩
  · cases parses

end parsing

/-! ### Days that match -/

section days
variable {parsed : ParsedCron}

def onDay (parsed : ParsedCron) (day : Int) : Bool :=
  cronFieldMatches parsed.month (civilFromDays day).1 &&
    cronDayMatches parsed.dayOfMonth parsed.dayOfWeek (day * 86400000)

theorem cronMatches_iff (t : Int) : cronMatches parsed t = true ↔
    onDay parsed (t / 86400000) = true ∧ getUTCHours t ∈ parsed.hour.values ∧
      getUTCMinutes t ∈ parsed.minute.values := by
  have same : t / 86400000 * 86400000 / 86400000 = t / 86400000 := by omega
  unfold cronMatches onDay cronDayMatches cronFieldMatches getUTCMonth getUTCDate getUTCDay
  simp only [same, Int.sub_add_cancel, Bool.and_eq_true, decide_eq_true_eq]
  constructor
  · intro ⟨⟨⟨minute, hour⟩, month⟩, day⟩
    exact ⟨⟨month, day⟩, hour, minute⟩
  · intro ⟨⟨month, day⟩, hour, minute⟩
    exact ⟨⟨⟨minute, hour⟩, month⟩, day⟩

theorem exists_instant (proper : parsed.Proper) {day : Int} (matching : onDay parsed day = true) :
    ∃ t, cronMatches parsed t = true ∧ t / 86400000 = day ∧ t % 60000 = 0 := by
  obtain ⟨hour, hourIn⟩ := List.exists_mem_of_ne_nil _ proper.hour.1
  obtain ⟨minute, minuteIn⟩ := List.exists_mem_of_ne_nil _ proper.minute.1
  have hours := proper.hour.2 hour hourIn
  have minutes := proper.minute.2 minute minuteIn
  have onTheDay : (day * 86400000 + hour * 3600000 + minute * 60000) / 86400000 = day := by omega
  have atHour : getUTCHours (day * 86400000 + hour * 3600000 + minute * 60000) = hour := by
    unfold getUTCHours
    omega
  have atMinute : getUTCMinutes (day * 86400000 + hour * 3600000 + minute * 60000) = minute := by
    unfold getUTCMinutes
    omega
  refine ⟨day * 86400000 + hour * 3600000 + minute * 60000, ?_, onTheDay, by omega⟩
  rw [cronMatches_iff, onTheDay, atHour, atMinute]
  exact ⟨matching, hourIn, minuteIn⟩

/-- The only day the fields leave is 29 February. -/
structure LeapOnly (parsed : ParsedCron) : Prop where
  weekday : parsed.dayOfWeek.wildcard = true
  date : parsed.dayOfMonth.wildcard = false
  february : 2 ∈ parsed.month.values
  last : 29 ∈ parsed.dayOfMonth.values
  only : ∀ m ∈ parsed.month.values, ∀ d ∈ parsed.dayOfMonth.values, monthDays m < d

/-- Unless only 29 February is left, a day within a year and a week matches, or none ever does. -/
theorem exists_day (proper : parsed.Proper) (other : ¬ LeapOnly parsed) (z : Int) :
    (∃ day, z ≤ day ∧ day ≤ z + 371 ∧ onDay parsed day = true) ∨
      ∀ day, onDay parsed day = false := by
  obtain ⟨month, monthIn⟩ := List.exists_mem_of_ne_nil _ proper.month.1
  obtain ⟨weekday, weekdayIn⟩ := List.exists_mem_of_ne_nil _ proper.dayOfWeek.1
  have weekdays := proper.dayOfWeek.2 weekday weekdayIn
  have number (day : Int) : day * 86400000 / 86400000 = day := by omega
  by_cases any : parsed.dayOfWeek.wildcard = true ∧ parsed.dayOfMonth.wildcard = false
  · obtain ⟨wild, dated⟩ := any
    by_cases plain : ∃ m ∈ parsed.month.values, ∃ d ∈ parsed.dayOfMonth.values, d ≤ monthDays m
    · obtain ⟨m, mIn, d, dIn, fits⟩ := plain
      obtain ⟨day, early, late, civil⟩ := exists_date z (proper.month.2 m mIn)
        ⟨(proper.dayOfMonth.2 d dIn).1, fits⟩
      refine .inl ⟨day, early, by omega, ?_⟩
      simp [onDay, cronDayMatches, cronFieldMatches, getUTCDate, number, civil, wild, dated, mIn, dIn]
    · refine .inr fun day => Bool.eq_false_iff.mpr fun matching => other ?_
      simp only [onDay, cronDayMatches, cronFieldMatches, getUTCDate, number, wild, dated,
        Bool.and_true, Bool.and_eq_true, decide_eq_true_eq, Bool.false_eq_true, ↓reduceIte]
        at matching
      obtain ⟨monthIn, dateIn⟩ := matching
      obtain ⟨-, -, -, fits | leap⟩ := civilFromDays_bounds day
      · exact absurd ⟨_, monthIn, _, dateIn, fits⟩ plain
      · rw [leap] at monthIn dateIn
        refine ⟨wild, dated, monthIn, dateIn, fun m mIn d dIn => ?_⟩
        by_contra fits
        exact plain ⟨m, mIn, d, dIn, Int.not_lt.mp fits⟩
  · obtain ⟨day, early, late, civil, same⟩ := exists_weekday z (proper.month.2 month monthIn)
      weekdays
    refine .inl ⟨day, early, late, ?_⟩
    cases wild : parsed.dayOfWeek.wildcard with
    | false =>
      simp [onDay, cronDayMatches, cronFieldMatches, getUTCDay, number, civil, same, wild, monthIn,
        weekdayIn]
    | true =>
      have dated : parsed.dayOfMonth.wildcard = true := by
        simpa [wild] using any
      simp [onDay, cronDayMatches, cronFieldMatches, civil, wild, dated, monthIn]

end days

/-! ### The search -/

section search
variable {parsed : ParsedCron} {js : JsRuntime} {expression : String} {time : Int}

/-- What the scan returns is its first match. -/
theorem scanMinutes_first {n : Nat} {candidate t : Int}
    (found : scanMinutes parsed n candidate = some t) :
    ∃ i : Nat, t = candidate + i * 60000 ∧
      ∀ j : Nat, j < i → cronMatches parsed (candidate + j * 60000) = false := by
  induction n generalizing candidate with
  | zero => cases found
  | succ n ih =>
    unfold scanMinutes at found
    split at found
    · cases found
      exact ⟨0, by omega, fun j small => by omega⟩
    · next miss =>
      obtain ⟨i, rfl, before⟩ := ih found
      refine ⟨i + 1, by omega, fun j small => ?_⟩
      cases j with
      | zero => simpa using miss
      | succ j =>
        have shifted : candidate + ((j + 1 : Nat) : Int) * 60000 = candidate + 60000 + j * 60000 := by
          omega
        rw [shifted]
        exact before j (by omega)

theorem scanMinutes_eq_none {n : Nat} {candidate : Int}
    (all : ∀ i : Nat, i < n → cronMatches parsed (candidate + i * 60000) = false) :
    scanMinutes parsed n candidate = none := by
  induction n generalizing candidate with
  | zero => rfl
  | succ n ih =>
    have first := all 0 (by omega)
    rw [show candidate + ((0 : Nat) : Int) * 60000 = candidate by omega] at first
    unfold scanMinutes
    rw [first]
    refine ih fun i small => ?_
    have later := all (i + 1) (by omega)
    rwa [show candidate + ((i + 1 : Nat) : Int) * 60000 = candidate + 60000 + i * 60000 by omega]
      at later

/-- The search returns the least minute after the instant that matches, and nothing only if no later
instant does. -/
structure LeastFire (js : JsRuntime) (expression : String) (time : Int) : Prop where
  found : ∀ next, nextCronFireAt js expression time = some next → next % 60000 = 0 ∧ time < next ∧
    ∃ parsed, parseCronExpression js expression = some parsed ∧ cronMatches parsed next = true ∧
      ∀ t, time < t → t < next → t % 60000 = 0 → cronMatches parsed t = false
  missing : nextCronFireAt js expression time = none → ∀ parsed,
    parseCronExpression js expression = some parsed → ∀ t, time < t → cronMatches parsed t = false

theorem nextCronFireAt_first {next : Int} (found : nextCronFireAt js expression time = some next) :
    next % 60000 = 0 ∧ time < next ∧ ∃ parsed, parseCronExpression js expression = some parsed ∧
      cronMatches parsed next = true ∧
      ∀ t, time < t → t < next → t % 60000 = 0 → cronMatches parsed t = false := by
  obtain ⟨later, -⟩ := nextCronFireAt_some found
  obtain ⟨parsed, parses, scanned⟩ := Option.bind_eq_some_iff.mp found
  obtain ⟨i, rfl, before⟩ := scanMinutes_first scanned
  have aligned : nextMinute time % 60000 = 0 := by
    unfold nextMinute
    omega
  refine ⟨by omega, later, parsed, parses, (scanMinutes_some scanned).1, fun t after below whole => ?_⟩
  have start : nextMinute time ≤ t := by
    unfold nextMinute
    omega
  obtain ⟨j, is⟩ := Int.eq_ofNat_of_zero_le (show 0 ≤ (t - nextMinute time) / 60000 by omega)
  have same : t = nextMinute time + j * 60000 := by omega
  rw [same]
  exact before j (by omega)

/-- The instants of the days after `time` that the scan reaches. -/
theorem within_scan {t : Int} (early : time / 86400000 + 1 ≤ t / 86400000)
    (late : t / 86400000 ≤ time / 86400000 + 372) (whole : t % 60000 = 0) :
    ∃ i : Nat, i < maxIterations ∧ nextMinute time + i * 60000 = t := by
  have start : nextMinute time ≤ t ∧ nextMinute time > time ∧ nextMinute time % 60000 = 0 := by
    unfold nextMinute
    omega
  obtain ⟨i, is⟩ := Int.eq_ofNat_of_zero_le (show 0 ≤ (t - nextMinute time) / 60000 by omega)
  refine ⟨i, ?_, by omega⟩
  unfold maxIterations
  omega

theorem leapOnly_day (leap : LeapOnly parsed) {day : Int} (civil : civilFromDays day = (2, 29)) :
    onDay parsed day = true := by
  have number : day * 86400000 / 86400000 = day := by omega
  simp [onDay, cronDayMatches, cronFieldMatches, getUTCDate, number, civil, leap.weekday, leap.date,
    leap.february, leap.last]

/-- Where only 29 February is left, the search may not look far enough. -/
theorem not_least_of_leapOnly (parses : parseCronExpression js expression = some parsed)
    (leap : LeapOnly parsed)
    (missed : ∀ i : Nat, i < maxIterations →
      cronMatches parsed (nextMinute time + i * 60000) = false) :
    ¬ LeastFire js expression time := by
  intro least
  have nothing : nextCronFireAt js expression time = none := by
    unfold nextCronFireAt
    rw [parses, Option.bind_some]
    exact scanMinutes_eq_none missed
  obtain ⟨day, later, civil⟩ := exists_leapDay (time / 86400000 + 1)
  obtain ⟨t, matching, same, -⟩ :=
    exists_instant (parseCronExpression_proper parses) (leapOnly_day leap civil)
  rw [least.missing nothing parsed parses t (by omega)] at matching
  cases matching

theorem never_of_none (none_ : nextCronFireAt js expression time = none)
    (parses : parseCronExpression js expression = some parsed) (other : ¬ LeapOnly parsed) (t : Int) :
    cronMatches parsed t = false := by
  have proper := parseCronExpression_proper parses
  obtain ⟨day, early, late, fits⟩ | never := exists_day proper other (time / 86400000 + 1)
  · obtain ⟨u, matching, rfl, whole⟩ := exists_instant proper fits
    obtain ⟨i, small, rfl⟩ := within_scan early (by omega) whole
    rw [nextCronFireAt_none none_ parses i small] at matching
    cases matching
  · refine Bool.eq_false_iff.mpr fun matching => ?_
    rw [cronMatches_iff, never] at matching
    cases matching.1

end search

/-- The search is right exactly if it finds a match where the fields leave only 29 February. -/
theorem nextCronFireAt_least_iff (js : JsRuntime) (expression : String) (time : Int) :
    LeastFire js expression time ↔
      ∀ parsed, parseCronExpression js expression = some parsed → LeapOnly parsed →
        ∃ i : Nat, i < maxIterations ∧ cronMatches parsed (nextMinute time + i * 60000) = true := by
  constructor
  · intro least parsed parses leap
    by_contra missed
    refine not_least_of_leapOnly parses leap (fun i small => ?_) least
    exact Bool.eq_false_iff.mpr fun matching => missed ⟨i, small, matching⟩
  · intro reached
    refine ⟨fun next found => nextCronFireAt_first found, fun none_ parsed parses t _ => ?_⟩
    by_cases leap : LeapOnly parsed
    · obtain ⟨i, small, matching⟩ := reached parsed parses leap
      rw [nextCronFireAt_none none_ parses i small] at matching
      cases matching
    · exact never_of_none none_ parses leap t

/-! ### 29 February -/

/-- `Number` on numerals. -/
def decimalJs : JsRuntime where
  localeCompare _ _ := .eq
  number
    | .json (.str s) => if s.toList.all Char.isDigit then
        some (s.toList.foldl (fun n c => 10 * n + (c.toNat - 48 : Int)) 0 : Int) else none
    | _ => none
  inherited _ _ := .undefined

def leapMidnight : ParsedCron where
  minute := { values := [0], wildcard := false }
  hour := { values := [0], wildcard := false }
  dayOfMonth := { values := [29], wildcard := false }
  month := { values := [2], wildcard := false }
  dayOfWeek := { values := [0, 1, 2, 3, 4, 5, 6], wildcard := true }

/-- From March 2024 on, the next 29 February is four years away. -/
theorem leap_day_missed : ¬ LeastFire decimalJs "0 0 29 2 *" 1709251200000 := by
  have parses : parseCronExpression decimalJs "0 0 29 2 *" = some leapMidnight := by rfl
  refine not_least_of_leapOnly parses ⟨rfl, rfl, by decide, by decide, by decide⟩ fun i small => ?_
  refine Bool.eq_false_iff.mpr fun matching => ?_
  obtain ⟨onTheDay, -⟩ := (cronMatches_iff _).mp matching
  have within : (nextMinute 1709251200000 + i * 60000) / 86400000 ≤ 19783 + 730 := by
    unfold maxIterations at small
    unfold nextMinute
    omega
  have start : 19783 ≤ (nextMinute 1709251200000 + i * 60000) / 86400000 := by
    unfold nextMinute
    omega
  generalize (nextMinute 1709251200000 + i * 60000) / 86400000 = day at onTheDay within start
  have same : day * 86400000 / 86400000 = day := by omega
  simp only [onDay, cronDayMatches, cronFieldMatches, getUTCDate, leapMidnight, same,
    Bool.and_eq_true, decide_eq_true_eq, List.mem_singleton, Bool.false_eq_true, false_and,
    ↓reduceIte] at onTheDay
  have leap : civilFromDays day = (2, 29) := Prod.ext onTheDay.1 onTheDay.2
  have apart := leapDays_apart (show civilFromDays 19782 = (2, 29) by decide) leap (by omega)
  omega

end Vespid.Scheduler
