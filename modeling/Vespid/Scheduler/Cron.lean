import Vespid.Js

/-!
# Cron expressions

The scheduler's cron parser and its search for the next matching minute. Instants are
milliseconds since the epoch, and a `Date` is read in UTC.
-/

namespace Vespid.Scheduler

/-! ### Dates -/

def getUTCMinutes (time : Int) : Int := time / 60000 % 60

def getUTCHours (time : Int) : Int := time / 3600000 % 24

/-- The weekday, from Sunday on; the epoch was a Thursday. -/
def getUTCDay (time : Int) : Int := (time / 86400000 + 4) % 7

/-- Month (from 1) and day of the month of a day of the proleptic Gregorian calendar. -/
def civilFromDays (days : Int) : Int × Int :=
  let z := days + 719468
  let dayOfEra := z % 146097
  let yearOfEra := (dayOfEra - dayOfEra / 1460 + dayOfEra / 36524 - dayOfEra / 146096) / 365
  let dayOfYear := dayOfEra - (365 * yearOfEra + yearOfEra / 4 - yearOfEra / 100)
  let shifted := (5 * dayOfYear + 2) / 153
  (if shifted < 10 then shifted + 3 else shifted - 9, dayOfYear - (153 * shifted + 2) / 5 + 1)

def getUTCMonth (time : Int) : Int := (civilFromDays (time / 86400000)).1 - 1

def getUTCDate (time : Int) : Int := (civilFromDays (time / 86400000)).2

example : civilFromDays 0 = (1, 1) ∧ civilFromDays 19782 = (2, 29) := by decide

/-! ### Parsing -/

structure CronField where
  values : List Int
  wildcard : Bool

structure ParsedCron where
  minute : CronField
  hour : CronField
  dayOfMonth : CronField
  month : CronField
  dayOfWeek : CronField

/-- White space and line terminators. -/
def isSpace (c : Char) : Bool :=
  c.toNat ∈ [9, 10, 11, 12, 13, 32, 160, 5760, 8232, 8233, 8239, 8287, 12288, 65279] ||
    (8192 ≤ c.toNat && c.toNat ≤ 8202)

def trim (s : List Char) : List Char :=
  ((s.dropWhile isSpace).reverse.dropWhile isSpace).reverse

theorem trim_of_solid {s : List Char} (solid : ∀ c ∈ s, isSpace c = false) : trim s = s := by
  have keep {t : List Char} (mem : ∀ c ∈ t, c ∈ s) : t.dropWhile isSpace = t := by
    cases t with
    | nil => rfl
    | cons head tail =>
      exact List.dropWhile_cons_of_neg (by simp [solid head (mem head (by simp))])
  unfold trim
  rw [keep (fun c mem => mem), keep (fun c mem => List.mem_reverse.mp mem), List.reverse_reverse]

/-- `Number(raw)` where it is an integer. -/
def integer (js : JsRuntime) (raw : List Char) : Option Int :=
  (js.number (.json (.str (String.ofList raw)))).bind fun n => if n.isInt then some n.num else none

/-- `start`, `start + step`, … up to `stop`. -/
def stepsTo (start stop step : Int) : List Int :=
  (List.range ((stop - start) / step + 1).toNat).map fun i : Nat => start + (i : Int) * step

/-- The range of a part before its step. -/
def parseRange (js : JsRuntime) (baseRaw : List Char) (min max : Int) : Option (Int × Int) :=
  if baseRaw = ['*'] then some (min, max)
  else if '-' ∈ baseRaw then
    match splitChars (· == '-') baseRaw with
    | startRaw :: endRaw :: _ => do
      let start ← integer js startRaw
      let stop ← integer js endRaw
      if start > stop then none else some (start, stop)
    | _ => none
  else do
    let value ← integer js baseRaw
    return (value, value)

def parseFieldPart (js : JsRuntime) (part : List Char) (min max : Int) : Option (List Int) :=
  let trimmed := trim part
  if trimmed = [] then none
  else do
    let pieces := splitChars (· == '/') trimmed
    let step ← match pieces[1]? with
      | none => some 1
      | some stepRaw => integer js stepRaw
    if step ≤ 0 then none
    else do
      let (start, stop) ← parseRange js (pieces.headD []) min max
      if start < min ∨ stop > max then none else some (stepsTo start stop step)

def parseCronField (js : JsRuntime) (raw : List Char) (min max : Int) (normalize : Int → Int) :
    Option CronField := do
  let parts ← (splitChars (· == ',') raw).mapM fun part => parseFieldPart js part min max
  let values := parts.flatten.map normalize
  if values.any fun v => v < min || v > max then none
  else some { values, wildcard := trim raw = ['*'] }

def parseCronExpression (js : JsRuntime) (expression : String) : Option ParsedCron :=
  match (splitChars isSpace (trim expression.toList)).filter (· ≠ []) with
  | [minute, hour, dayOfMonth, month, dayOfWeek] => do
    let minute ← parseCronField js minute 0 59 id
    let hour ← parseCronField js hour 0 23 id
    let dayOfMonth ← parseCronField js dayOfMonth 1 31 id
    let month ← parseCronField js month 1 12 id
    let dayOfWeek ← parseCronField js dayOfWeek 0 6 fun value => if value = 7 then 0 else value
    return { minute, hour, dayOfMonth, month, dayOfWeek }
  | _ => none

/-! ### Matching -/

def cronFieldMatches (field : CronField) (value : Int) : Bool := value ∈ field.values

def cronDayMatches (dayOfMonthField dayOfWeekField : CronField) (date : Int) : Bool :=
  let dayOfMonthMatch := cronFieldMatches dayOfMonthField (getUTCDate date)
  let dayOfWeekMatch := cronFieldMatches dayOfWeekField (getUTCDay date)
  if dayOfMonthField.wildcard && dayOfWeekField.wildcard then true
  else if dayOfMonthField.wildcard then dayOfWeekMatch
  else if dayOfWeekField.wildcard then dayOfMonthMatch
  else dayOfMonthMatch || dayOfWeekMatch

def cronMatches (parsed : ParsedCron) (date : Int) : Bool :=
  cronFieldMatches parsed.minute (getUTCMinutes date) &&
    cronFieldMatches parsed.hour (getUTCHours date) &&
    cronFieldMatches parsed.month (getUTCMonth date + 1) &&
    cronDayMatches parsed.dayOfMonth parsed.dayOfWeek date

/-- The first matching minute among the next `n` from `candidate` on. -/
def scanMinutes (parsed : ParsedCron) : Nat → Int → Option Int
  | 0, _ => none
  | n + 1, candidate =>
    if cronMatches parsed candidate then some candidate else scanMinutes parsed n (candidate + 60000)

/-- Two years of minutes. -/
def maxIterations : Nat := 1051200

/-- The minute after the one of `time`. -/
def nextMinute (time : Int) : Int := (time / 60000 + 1) * 60000

def nextCronFireAt (js : JsRuntime) (expression : String) (time : Int) : Option Int :=
  (parseCronExpression js expression).bind fun parsed =>
    scanMinutes parsed maxIterations (nextMinute time)

/-! ### What the search finds -/

theorem scanMinutes_some {parsed : ParsedCron} {n : Nat} {candidate time : Int}
    (found : scanMinutes parsed n candidate = some time) :
    cronMatches parsed time ∧ candidate ≤ time := by
  induction n generalizing candidate with
  | zero => cases found
  | succ n ih =>
    unfold scanMinutes at found
    split at found
    · obtain rfl := Option.some.inj found
      exact ⟨‹_›, Int.le_refl _⟩
    · obtain ⟨matching, later⟩ := ih found
      exact ⟨matching, by omega⟩

theorem scanMinutes_none {parsed : ParsedCron} {n : Nat} {candidate : Int}
    (none : scanMinutes parsed n candidate = none) (i : Nat) (small : i < n) :
    cronMatches parsed (candidate + i * 60000) = false := by
  induction n generalizing candidate i with
  | zero => omega
  | succ n ih =>
    unfold scanMinutes at none
    split at none
    · cases none
    · rename_i miss
      cases i with
      | zero => simpa using miss
      | succ i =>
        have later := ih none i (by omega)
        have same : candidate + ((i + 1 : Nat) : Int) * 60000 = candidate + 60000 + i * 60000 := by
          push_cast
          omega
        rw [same]
        exact later

/-- Whether an instant matches depends on its minute only. -/
theorem cronMatches_minute (parsed : ParsedCron) (time : Int) :
    cronMatches parsed (time / 60000 * 60000) = cronMatches parsed time := by
  have minutes : time / 60000 * 60000 / 60000 = time / 60000 := by omega
  have hours : time / 60000 * 60000 / 3600000 = time / 3600000 := by omega
  have days : time / 60000 * 60000 / 86400000 = time / 86400000 := by omega
  simp only [cronMatches, cronDayMatches, getUTCMinutes, getUTCHours, getUTCDay, getUTCMonth,
    getUTCDate, minutes, hours, days]

variable {js : JsRuntime} {expression : String} {time next : Int}

theorem nextCronFireAt_some (found : nextCronFireAt js expression time = some next) :
    time < next ∧ ∃ parsed, parseCronExpression js expression = some parsed ∧
      cronMatches parsed next := by
  obtain ⟨parsed, parses, scanned⟩ := Option.bind_eq_some_iff.mp found
  obtain ⟨matching, later⟩ := scanMinutes_some scanned
  refine ⟨?_, parsed, parses, matching⟩
  unfold nextMinute at later
  omega

/-- Where nothing is found, nothing within the next two years matches. -/
theorem nextCronFireAt_none (none : nextCronFireAt js expression time = none) {parsed : ParsedCron}
    (parses : parseCronExpression js expression = some parsed) (i : Nat) (small : i < maxIterations) :
    cronMatches parsed (nextMinute time + i * 60000) = false := by
  unfold nextCronFireAt at none
  rw [parses, Option.bind_some] at none
  exact scanMinutes_none none i small

end Vespid.Scheduler
