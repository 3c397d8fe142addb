import Mathlib.Algebra.Order.Ring.Int
import Mathlib.Algebra.Order.Ring.Rat
import Mathlib.Data.List.Forall2
import Vespid.Scheduler.Cron

/-!
# The grammar of cron expressions

Five fields of comma-separated items, and what the parser makes of them. It reads numbers with
`Number`, drops what follows a second `/` or `-`, and checks a weekday before 7 becomes Sunday.
-/

namespace Vespid.Scheduler.Grammar

/-! ### Items -/

/-- What an item stands for; `star` is for `*`. -/
structure Item where
  star : Bool
  start : Int
  stop : Int
  step : Int
  deriving DecidableEq

/-- `start`, `start + step`, … up to `stop`. -/
def Item.Has (item : Item) (value : Int) : Prop :=
  ∃ k : Nat, value = item.start + k * item.step ∧ value ≤ item.stop

def digitsValue (digits : List Char) : Int :=
  digits.foldl (fun value c => 10 * value + (c.toNat - '0'.toNat : Int)) 0

/-- A plain decimal number. -/
def decimal (text : List Char) : Option Int :=
  if text ≠ [] ∧ text.all Char.isDigit then some (digitsValue text) else none

/-- `baseRaw` -/
def itemBase (text : List Char) : List Char := (splitChars (· == '/') text).headD []

/-- `stepRaw` -/
def itemStep (text : List Char) : Option (List Char) := (splitChars (· == '/') text)[1]?

section reading
variable (number : List Char → Option Int) (min max : Int)

def readBase (base : List Char) : Option (Int × Int) :=
  if base = ['*'] then some (min, max)
  else match splitChars (· == '-') base with
    | [text] => (number text).map fun value => (value, value)
    | startText :: stopText :: _ =>
      match number startText, number stopText with
      | some start, some stop => if start ≤ stop then some (start, stop) else none
      | _, _ => none
    | [] => none

def readStep : Option (List Char) → Option Int
  | none => some 1
  | some text => (number text).filter (0 < ·)

/-- An item with its numbers read by `number`, without regard to further segments. -/
def readItem (text : List Char) : Option Item :=
  if text = [] then none
  else do
    let step ← readStep number (itemStep text)
    let range ← readBase number min max (itemBase text)
    if min ≤ range.1 ∧ range.2 ≤ max then
      return { star := itemBase text = ['*'], start := range.1, stop := range.2, step }
    else none

end reading

/-- The texts of the numbers of a base. -/
def baseNumbers (base : List Char) : List (List Char) :=
  if base = ['*'] then [] else (splitChars (· == '-') base).take 2

/-- An item has more segments than the grammar knows, or a number that is not plain. -/
def Sloppy (text : List Char) : Prop :=
  2 < (splitChars (· == '/') text).length ∨ 2 < (splitChars (· == '-') (itemBase text)).length ∨
    ∃ numeral ∈ (itemStep text).toList ++ baseNumbers (itemBase text), decimal numeral = none

instance (text : List Char) : Decidable (Sloppy text) := by
  unfold Sloppy
  infer_instance

def grammarItem (min max : Int) (text : List Char) : Option Item :=
  if 2 < (splitChars (· == '/') text).length ∨ 2 < (splitChars (· == '-') (itemBase text)).length
  then none
  else readItem decimal min max text

/-! ### Fields -/

/-- A field: its least value, its greatest in the parser and in the grammar, and what a value
stands for. -/
structure Slot where
  min : Int
  max : Int
  top : Int
  normalize : Int → Int

/-- `value === 7 ? 0 : value` -/
def sunday (value : Int) : Int := if value = 7 then 0 else value

def plainSlot (min max : Int) : Slot := { min, max, top := max, normalize := id }

def weekdaySlot : Slot := { min := 0, max := 6, top := 7, normalize := sunday }

def slots : List Slot :=
  [plainSlot 0 59, plainSlot 0 23, plainSlot 1 31, plainSlot 1 12, weekdaySlot]

def items (raw : List Char) : List (List Char) := splitChars (· == ',') raw

def grammarField (slot : Slot) (raw : List Char) : Option (List Item) :=
  (items raw).mapM (grammarItem slot.min slot.top)

/-- The values of a field of the grammar. -/
def Denotes (slot : Slot) (parsed : List Item) (value : Int) : Prop :=
  ∃ item ∈ parsed, ∃ raw, item.Has raw ∧ slot.normalize raw = value

/-- Every item of the field can be read with `Number`. -/
def Readable (js : JsRuntime) (slot : Slot) (raw : List Char) : Prop :=
  ∀ text ∈ items raw, (readItem (integer js) slot.min slot.max text).isSome

/-- From `2 ^ 1024 - 2 ^ 970` on `Number` is infinite. -/
def infinity : Int := (2 ^ 54 - 1) * 2 ^ 970

/-- An item whose last value the parser does not know, or whose step is infinite for it. -/
def Missed (slot : Slot) (item : Item) : Prop :=
  (item.star = false ∧ slot.max < item.stop) ∨ infinity ≤ item.step

/-- `Number` reads plain decimal numbers, as the nearest double. -/
structure ReadsDecimals (js : JsRuntime) : Prop where
  exact : ∀ text value, decimal text = some value → value ≤ 2 ^ 53 →
    js.number (.json (.str (String.ofList text))) = some (value : Rat)
  rounded : ∀ text value, decimal text = some value → 2 ^ 53 < value → value < infinity →
    ∃ near : Int, 2 ^ 53 ≤ near ∧
      js.number (.json (.str (String.ofList text))) = some (near : Rat)
  infinite : ∀ text value, decimal text = some value → infinity ≤ value →
    js.number (.json (.str (String.ofList text))) = none

/-! ### Expressions -/

/-- The fields of an expression with their slots, where there are five. -/
def fieldsOf (expression : String) : Option (List (Slot × List Char)) :=
  let words := (splitChars isSpace (trim expression.toList)).filter (· ≠ [])
  if words.length = 5 then some (slots.zip words) else none

def fieldList (parsed : ParsedCron) : List CronField :=
  [parsed.minute, parsed.hour, parsed.dayOfMonth, parsed.month, parsed.dayOfWeek]

/-- The items of an expression of the grammar, field by field. -/
def grammar (expression : String) : Option (List (Slot × List Item)) :=
  (fieldsOf expression).bind fun fields =>
    fields.mapM fun field => (grammarField field.1 field.2).map fun parsed => (field.1, parsed)

/-- The parser accepts exactly the grammar, and a field has the values that it denotes. -/
def Meets (js : JsRuntime) (expression : String) : Prop :=
  (parseCronExpression js expression).isSome = (grammar expression).isSome ∧
  ∀ parsed ∈ parseCronExpression js expression, ∀ fields ∈ grammar expression,
    List.Forall₂ (fun (field : CronField) (denoted : Slot × List Item) =>
      ∀ value, value ∈ field.values ↔ Denotes denoted.1 denoted.2 value) (fieldList parsed) fields

/-- Every item can be read with `Number`, and one of them is sloppy. -/
def SloppyAccepted (js : JsRuntime) (expression : String) : Prop :=
  ∃ fields ∈ fieldsOf expression, (∀ field ∈ fields, Readable js field.1 field.2) ∧
    ∃ field ∈ fields, ∃ text ∈ items field.2, Sloppy text

/-- An expression of the grammar has weekday 7 or an infinite step. -/
def GrammarMissed (expression : String) : Prop :=
  ∃ fields ∈ grammar expression, ∃ field ∈ fields, ∃ item ∈ field.2, Missed field.1 item

/-! ### The parser reads items -/

theorem mem_stepsTo {start stop step : Int} (pos : 0 < step) (value : Int) :
    value ∈ stepsTo start stop step ↔ ∃ k : Nat, value = start + k * step ∧ value ≤ stop := by
  simp only [stepsTo, List.mem_map, List.mem_range]
  constructor
  · rintro ⟨k, small, rfl⟩
    refine ⟨k, rfl, ?_⟩
    have below : (k : Int) ≤ (stop - start) / step := by omega
    have := (Int.le_ediv_iff_mul_le pos).mp below
    omega
  · rintro ⟨k, rfl, below⟩
    refine ⟨k, ?_, rfl⟩
    have : (k : Int) ≤ (stop - start) / step := (Int.le_ediv_iff_mul_le pos).mpr (by omega)
    omega

theorem separates_iff {sep : Char → Bool} {s : List Char} :
    (∃ c ∈ s, sep c = true) ↔ 2 ≤ (splitChars sep s).length := by
  constructor
  · intro separates
    induction s with
    | nil => simp at separates
    | cons c rest ih =>
      have some := List.length_pos_iff.mpr (splitChars_ne_nil sep rest)
      rw [splitChars]
      cases here : sep c with
      | true =>
        simp only [↓reduceIte, List.length_cons]
        omega
      | false =>
        have later : ∃ c ∈ rest, sep c = true := by simpa [here] using separates
        have := ih later
        cases parts : splitChars sep rest with
        | nil => simp [parts] at this
        | cons first others => simpa [parts] using this
  · intro long
    by_contra clean
    rw [splitChars_clean sep (by simpa using clean)] at long
    simp at long

theorem splitChars_eq_single {sep : Char → Bool} {s part : List Char}
    (split : splitChars sep s = [part]) : part = s := by
  by_cases clean : ∀ c ∈ s, sep c = false
  · rw [splitChars_clean sep clean] at split
    exact (List.singleton_inj.mp split).symm
  · have long := separates_iff.mp (by simpa using clean : ∃ c ∈ s, sep c = true)
    simp [split] at long

theorem dash_mem {base : List Char} : '-' ∈ base ↔ 2 ≤ (splitChars (· == '-') base).length := by
  rw [← separates_iff]
  simp

theorem parseRange_eq (js : JsRuntime) (base : List Char) (min max : Int) :
    parseRange js base min max = readBase (integer js) min max base := by
  unfold parseRange readBase
  by_cases star : base = ['*']
  · rw [if_pos star, if_pos star]
  rw [if_neg star, if_neg star]
  cases split : splitChars (· == '-') base with
  | nil => exact absurd split (splitChars_ne_nil _ _)
  | cons first rest =>
    cases rest with
    | nil =>
      rw [if_neg (by simp [dash_mem, split]), splitChars_eq_single split]
      dsimp only
      cases integer js base <;> rfl
    | cons second more =>
      rw [if_pos (by simp [dash_mem, split])]
      dsimp only
      cases integer js first with
      | none => rfl
      | some start =>
        cases integer js second with
        | none => rfl
        | some stop =>
          by_cases order : start ≤ stop
          · simp [order, not_lt.mpr order]
          · simp [order, not_le.mp order]

theorem readItem_eq_some {number : List Char → Option Int} {min max : Int} {text : List Char}
    {item : Item} : readItem number min max text = some item ↔
      text ≠ [] ∧ readStep number (itemStep text) = some item.step ∧
      readBase number min max (itemBase text) =
        some (item.start, item.stop) ∧ min ≤ item.start ∧ item.stop ≤ max ∧
      item.star = decide (itemBase text = ['*']) := by
  unfold readItem
  by_cases empty : text = []
  · simp [empty]
  rw [if_neg empty]
  simp only [bind, Option.bind_eq_some_iff, ne_eq, empty, not_false_eq_true, true_and, pure]
  constructor
  · rintro ⟨step, stepRead, range, rangeRead, made⟩
    split_ifs at made with inside
    obtain rfl := Option.some.inj made
    exact ⟨stepRead, rangeRead, inside.1, inside.2, rfl⟩
  · rintro ⟨stepRead, rangeRead, above, below, star⟩
    refine ⟨item.step, stepRead, (item.start, item.stop), rangeRead, ?_⟩
    rw [if_pos ⟨above, below⟩, ← star]

theorem readStep_pos {number : List Char → Option Int} {text : Option (List Char)} {step : Int}
    (read : readStep number text = some step) : 0 < step := by
  cases text with
  | none =>
    obtain rfl := Option.some.inj read
    decide
  | some text => simpa using (Option.filter_eq_some_iff.mp read).2

/-- The part of an item after its step is read. -/
theorem parseFieldPart_step (range : Option (Int × Int)) (star : Bool) (min max step : Int) :
    (if step ≤ 0 then none
      else range.bind fun (start, stop) =>
        if start < min ∨ stop > max then none else some (stepsTo start stop step)) =
    (((some step).filter (0 < ·)).bind fun step => range.bind fun range =>
      if min ≤ range.1 ∧ range.2 ≤ max then
        some ({ star, start := range.1, stop := range.2, step } : Item)
      else none).map fun item => stepsTo item.start item.stop item.step := by
  by_cases positive : 0 < step
  · rw [Option.filter_some_pos (by simpa using positive), if_neg (not_le.mpr positive),
      Option.bind_some]
    cases range with
    | none => rfl
    | some range =>
      dsimp only [Option.bind_some]
      by_cases inside : min ≤ range.1 ∧ range.2 ≤ max
      · rw [if_pos inside, if_neg (by omega)]
        rfl
      · rw [if_neg inside, if_pos (by omega)]
        rfl
  · rw [Option.filter_some_neg (by simpa using positive), if_pos (not_lt.mp positive)]
    rfl

theorem parseFieldPart_eq (js : JsRuntime) {text : List Char} (min max : Int)
    (solid : ∀ c ∈ text, isSpace c = false) :
    parseFieldPart js text min max =
      (readItem (integer js) min max text).map fun item =>
        stepsTo item.start item.stop item.step := by
  unfold parseFieldPart readItem itemStep itemBase
  rw [trim_of_solid solid]
  dsimp only
  by_cases empty : text = []
  · rw [if_pos empty, if_pos empty]
    rfl
  rw [if_neg empty, if_neg empty, parseRange_eq]
  cases (splitChars (· == '/') text)[1]? with
  | none => exact parseFieldPart_step _ _ min max 1
  | some stepRaw =>
    cases read : integer js stepRaw with
    | none => simp [readStep, read]
    | some step =>
      have := parseFieldPart_step
        (readBase (integer js) min max ((splitChars (· == '/') text).headD []))
        (decide ((splitChars (· == '/') text).headD [] = ['*'])) min max step
      simpa only [readStep, read, bind, pure, Option.bind_some] using this

/-! ### Numbers -/

theorem exact_lt_infinity : (2 : Int) ^ 53 < infinity := by
  have one : (1 : Int) ≤ 2 ^ 970 := one_le_pow₀ (by decide)
  calc (2 : Int) ^ 53 < (2 ^ 54 - 1) * 1 := by decide
    _ ≤ (2 ^ 54 - 1) * 2 ^ 970 := mul_le_mul_of_nonneg_left one (by decide)

section numbers
variable {js : JsRuntime} (reads : ReadsDecimals js)
include reads

theorem integer_exact {text : List Char} {value : Int} (is : decimal text = some value)
    (small : value ≤ 2 ^ 53) : integer js text = some value := by
  simp [integer, reads.exact text value is small, Rat.isInt]

theorem integer_rounded {text : List Char} {value : Int} (is : decimal text = some value)
    (large : 2 ^ 53 < value) (finite : value < infinity) :
    ∃ near : Int, 2 ^ 53 ≤ near ∧ integer js text = some near := by
  obtain ⟨near, above, read⟩ := reads.rounded text value is large finite
  exact ⟨near, above, by simp [integer, read, Rat.isInt]⟩

theorem integer_infinite {text : List Char} {value : Int} (is : decimal text = some value)
    (infinite : infinity ≤ value) : integer js text = none := by
  simp [integer, reads.infinite text value is infinite]

/-- Below the greatest exact number, `Number` and the grammar read the same. -/
theorem integer_eq_some {text : List Char} {value read : Int} (is : decimal text = some value)
    (small : read < 2 ^ 53) : integer js text = some read ↔ value = read := by
  by_cases exact : value ≤ 2 ^ 53
  · rw [integer_exact reads is exact, Option.some.injEq]
  · have apart : value ≠ read := by omega
    refine iff_of_false ?_ apart
    intro readSo
    by_cases finite : value < infinity
    · obtain ⟨near, above, readNear⟩ := integer_rounded reads is (by omega) finite
      rw [readNear, Option.some.injEq] at readSo
      omega
    · rw [integer_infinite reads is (by omega)] at readSo
      cases readSo

theorem readBase_iff {base : List Char} (min max top : Int) {start stop : Int} (star : base ≠ ['*'])
    (short : (splitChars (· == '-') base).length ≤ 2)
    (plain : ∀ numeral ∈ baseNumbers base, decimal numeral ≠ none) (small : stop < 2 ^ 53) :
    readBase (integer js) min max base = some (start, stop) ↔
      readBase decimal min top base = some (start, stop) := by
  unfold readBase
  unfold baseNumbers at plain
  rw [if_neg star] at plain ⊢
  rw [if_neg star]
  cases split : splitChars (· == '-') base with
  | nil => exact absurd split (splitChars_ne_nil _ _)
  | cons first rest =>
    rw [split] at plain short
    obtain ⟨value, is⟩ := Option.ne_none_iff_exists'.mp (plain first (by simp))
    cases rest with
    | nil =>
      simp only [Option.map_eq_some_iff, is, Option.some.injEq, Prod.mk.injEq]
      constructor
      · rintro ⟨read, readSo, rfl, rfl⟩
        exact ⟨value, rfl, (integer_eq_some reads is small).mp readSo,
          (integer_eq_some reads is small).mp readSo⟩
      · rintro ⟨_, rfl, rfl, rfl⟩
        exact ⟨value, (integer_eq_some reads is small).mpr rfl, rfl, rfl⟩
    | cons second more =>
      obtain ⟨other, isOther⟩ := Option.ne_none_iff_exists'.mp (plain second (by simp))
      simp only [is, isOther]
      constructor
      · intro read
        split at read
        · rename_i readStart readStop startRead stopRead
          split_ifs at read with order
          simp only [Option.some.injEq, Prod.mk.injEq] at read
          obtain ⟨rfl, rfl⟩ := read
          obtain rfl := (integer_eq_some reads isOther small).mp stopRead
          obtain rfl := (integer_eq_some reads is (by omega)).mp startRead
          rw [if_pos order]
        · cases read
      · intro read
        split_ifs at read with order
        simp only [Option.some.injEq, Prod.mk.injEq] at read
        obtain ⟨rfl, rfl⟩ := read
        rw [(integer_eq_some reads isOther small).mpr rfl,
          (integer_eq_some reads is (by omega)).mpr rfl]
        dsimp only
        rw [if_pos order]

/-- Two steps that are the same, or both longer than any field. -/
def LikeStep (step other : Int) : Prop := step = other ∨ 2 ^ 53 ≤ step ∧ 2 ^ 53 ≤ other

theorem readStep_of_decimal {text : Option (List Char)} {step : Int}
    (read : readStep decimal text = some step) (finite : step < infinity) :
    ∃ other, readStep (integer js) text = some other ∧ LikeStep step other := by
  cases text with
  | none => exact ⟨step, read, .inl rfl⟩
  | some text =>
    obtain ⟨is, positive⟩ := Option.filter_eq_some_iff.mp read
    by_cases small : step ≤ 2 ^ 53
    · refine ⟨step, ?_, .inl rfl⟩
      simpa [readStep, integer_exact reads is small] using positive
    · obtain ⟨near, above, readNear⟩ := integer_rounded reads is (by omega) finite
      refine ⟨near, ?_, .inr ⟨by omega, above⟩⟩
      have : 0 < near := by omega
      simpa [readStep, readNear] using this

theorem readStep_of_infinite {text : Option (List Char)} {step : Int}
    (read : readStep decimal text = some step) (infinite : infinity ≤ step) :
    readStep (integer js) text = none := by
  cases text with
  | none =>
    obtain rfl := Option.some.inj read
    have := exact_lt_infinity
    omega
  | some text =>
    obtain ⟨is, -⟩ := Option.filter_eq_some_iff.mp read
    simp [readStep, integer_infinite reads is infinite]

theorem readStep_decimal_of_integer {text : Option (List Char)} {other : Int}
    (plain : ∀ numeral ∈ text, decimal numeral ≠ none)
    (read : readStep (integer js) text = some other) :
    ∃ step, readStep decimal text = some step := by
  cases text with
  | none => exact ⟨1, rfl⟩
  | some text =>
    obtain ⟨value, is⟩ := Option.ne_none_iff_exists'.mp (plain text rfl)
    obtain ⟨readSo, positive⟩ := Option.filter_eq_some_iff.mp read
    refine ⟨value, ?_⟩
    by_cases small : value ≤ 2 ^ 53
    · rw [integer_exact reads is small, Option.some.injEq] at readSo
      subst readSo
      simpa [readStep, is] using positive
    · have : 0 < value := by omega
      simpa [readStep, is] using this

/-! ### Items in the two readings -/

/-- The values of a slot are small, and it is that of the weekday or its ranges agree. -/
structure Slot.Proper (slot : Slot) : Prop where
  start : 0 ≤ slot.min
  order : slot.max ≤ slot.top
  small : slot.top < 2 ^ 53
  kind : (slot.max = slot.top ∧ slot.normalize = id) ∨ slot = weekdaySlot

/-- An item of the grammar and what the parser reads. -/
structure Like (slot : Slot) (item other : Item) : Prop where
  star : item.star = other.star
  start : item.start = other.start
  stop : item.stop = other.stop ∨
    item.star = true ∧ item.start = slot.min ∧ item.stop = slot.top ∧ other.stop = slot.max
  step : LikeStep item.step other.step

omit reads in
theorem grammarItem_eq_some {min max : Int} {text : List Char} {item : Item} :
    grammarItem min max text = some item ↔ (splitChars (· == '/') text).length ≤ 2 ∧
      (splitChars (· == '-') (itemBase text)).length ≤ 2 ∧
      readItem decimal min max text = some item := by
  unfold grammarItem
  split_ifs with long
  · simp only [false_iff]
    omega
  · constructor
    · intro read
      exact ⟨by omega, by omega, read⟩
    · exact fun read => read.2.2

omit reads in
theorem not_sloppy_iff {text : List Char} : ¬ Sloppy text ↔
    (splitChars (· == '/') text).length ≤ 2 ∧
      (splitChars (· == '-') (itemBase text)).length ≤ 2 ∧
      (∀ numeral ∈ itemStep text, decimal numeral ≠ none) ∧
      ∀ numeral ∈ baseNumbers (itemBase text), decimal numeral ≠ none := by
  unfold Sloppy
  simp only [not_or, not_lt, not_exists, not_and, List.mem_append, Option.mem_toList]
  constructor
  · rintro ⟨long, base, plain⟩
    exact ⟨long, base, fun numeral member => plain numeral (.inl member),
      fun numeral member => plain numeral (.inr member)⟩
  · rintro ⟨long, base, step, plain⟩
    refine ⟨long, base, fun numeral member => ?_⟩
    obtain member | member := member
    · exact step numeral member
    · exact plain numeral member

omit reads in
theorem decimal_of_readStep {text : Option (List Char)} {step : Int}
    (read : readStep decimal text = some step) : ∀ numeral ∈ text, decimal numeral ≠ none := by
  rintro numeral rfl missing
  simp [readStep, missing] at read

omit reads in
theorem decimal_of_readBase {base : List Char} {min max start stop : Int}
    (read : readBase decimal min max base = some (start, stop)) :
    ∀ numeral ∈ baseNumbers base, decimal numeral ≠ none := by
  intro numeral member missing
  unfold baseNumbers at member
  unfold readBase at read
  split_ifs at member read with star
  · cases member
  · cases split : splitChars (· == '-') base with
    | nil => exact absurd split (splitChars_ne_nil _ _)
    | cons first rest =>
      rw [split] at member
      cases rest with
      | nil =>
        obtain rfl := List.mem_singleton.mp (by simpa using member)
        simp [split, missing] at read
      | cons second more =>
        simp only [split] at read
        obtain rfl | rfl : numeral = first ∨ numeral = second := by simpa using member
        · simp [missing] at read
        · cases other : decimal first <;> simp [missing, other] at read

omit reads in
theorem not_sloppy_of_grammar {min max : Int} {text : List Char} {item : Item}
    (parsed : grammarItem min max text = some item) : ¬ Sloppy text := by
  obtain ⟨long, base, read⟩ := grammarItem_eq_some.mp parsed
  obtain ⟨-, step, range, -⟩ := readItem_eq_some.mp read
  exact not_sloppy_iff.mpr ⟨long, base, decimal_of_readStep step, decimal_of_readBase range⟩

theorem grammarItem_of_readable {slot : Slot} (proper : slot.Proper) {text : List Char}
    {other : Item} (clean : ¬ Sloppy text)
    (read : readItem (integer js) slot.min slot.max text = some other) :
    ∃ item, grammarItem slot.min slot.top text = some item := by
  obtain ⟨long, short, plainStep, plainBase⟩ := not_sloppy_iff.mp clean
  obtain ⟨filled, step, range, above, below, star⟩ := readItem_eq_some.mp read
  have order := proper.order
  have small := proper.small
  obtain ⟨stepRead, stepIs⟩ := readStep_decimal_of_integer reads plainStep step
  by_cases isStar : itemBase text = ['*']
  · refine ⟨{ star := true, start := slot.min, stop := slot.top, step := stepRead },
      grammarItem_eq_some.mpr ⟨long, short, readItem_eq_some.mpr ⟨filled, stepIs, ?_, le_rfl,
        le_rfl, by simp [isStar]⟩⟩⟩
    simp [readBase, isStar]
  · have rangeIs := (readBase_iff reads slot.min slot.max slot.top isStar short plainBase
      (by omega : other.stop < 2 ^ 53)).mp range
    exact ⟨{ star := false, start := other.start, stop := other.stop, step := stepRead },
      grammarItem_eq_some.mpr ⟨long, short, readItem_eq_some.mpr ⟨filled, stepIs, rangeIs, above,
        by dsimp only; omega, by simpa using isStar⟩⟩⟩

theorem like_of_both {slot : Slot} (proper : slot.Proper) {text : List Char} {item other : Item}
    (parsed : grammarItem slot.min slot.top text = some item)
    (read : readItem (integer js) slot.min slot.max text = some other) :
    Like slot item other ∧ ¬ Missed slot item := by
  obtain ⟨long, short, plainStep, plainBase⟩ :=
    not_sloppy_iff.mp (not_sloppy_of_grammar parsed)
  obtain ⟨-, step, range, above, below, star⟩ :=
    readItem_eq_some.mp (grammarItem_eq_some.mp parsed).2.2
  obtain ⟨-, stepOther, rangeOther, aboveOther, belowOther, starOther⟩ := readItem_eq_some.mp read
  have small := proper.small
  have order := proper.order
  have finite : item.step < infinity := by
    by_contra infinite
    rw [readStep_of_infinite reads step (by omega)] at stepOther
    cases stepOther
  obtain ⟨stepRead, stepIs, like⟩ := readStep_of_decimal reads step finite
  obtain rfl := Option.some.inj (stepIs.symm.trans stepOther)
  by_cases isStar : itemBase text = ['*']
  · simp only [readBase, isStar, ↓reduceIte, Option.some.injEq, Prod.mk.injEq] at range rangeOther
    have starred : item.star = true := by simp [star, isStar]
    refine ⟨⟨star.trans starOther.symm, range.1.symm.trans rangeOther.1,
      .inr ⟨starred, range.1.symm, range.2.symm, rangeOther.2.symm⟩, like⟩, ?_⟩
    simp only [Missed, starred, reduceCtorEq, false_and, false_or]
    omega
  · rw [readBase_iff reads slot.min slot.max slot.top isStar short plainBase (by omega), range,
      Option.some.injEq, Prod.mk.injEq] at rangeOther
    refine ⟨⟨star.trans starOther.symm, rangeOther.1, .inl rangeOther.2, like⟩, ?_⟩
    unfold Missed
    omega

theorem readable_of_grammar {slot : Slot} (proper : slot.Proper) {text : List Char} {item : Item}
    (parsed : grammarItem slot.min slot.top text = some item) (kept : ¬ Missed slot item) :
    ∃ other, readItem (integer js) slot.min slot.max text = some other := by
  obtain ⟨long, short, plainStep, plainBase⟩ :=
    not_sloppy_iff.mp (not_sloppy_of_grammar parsed)
  obtain ⟨filled, step, range, above, below, star⟩ :=
    readItem_eq_some.mp (grammarItem_eq_some.mp parsed).2.2
  have small := proper.small
  simp only [Missed, not_or, not_and, not_lt, not_le] at kept
  obtain ⟨stepRead, stepIs, -⟩ := readStep_of_decimal reads step kept.2
  by_cases isStar : itemBase text = ['*']
  · refine ⟨{ star := true, start := slot.min, stop := slot.max, step := stepRead },
      readItem_eq_some.mpr ⟨filled, stepIs, ?_, le_rfl, le_rfl, by simp [isStar]⟩⟩
    simp [readBase, isStar]
  · have starless : item.star = false := by simp [star, isStar]
    have rangeIs := (readBase_iff reads slot.min slot.max slot.top isStar short plainBase
      (by omega : item.stop < 2 ^ 53)).mpr range
    exact ⟨{ star := false, start := item.start, stop := item.stop, step := stepRead },
      readItem_eq_some.mpr ⟨filled, stepIs, rangeIs, above, kept.1 starless, by simp [isStar]⟩⟩

end numbers

/-! ### The values of an item -/

theorem has_of_long {item : Item} (start : 0 ≤ item.start) (small : item.stop < 2 ^ 53)
    (long : 2 ^ 53 ≤ item.step) (value : Int) :
    item.Has value ↔ value = item.start ∧ value ≤ item.stop := by
  constructor
  · rintro ⟨k, rfl, below⟩
    cases k with
    | zero => exact ⟨by simp, below⟩
    | succ n =>
      have nonneg : 0 ≤ (n : Int) * item.step := Int.mul_nonneg (by omega) (by omega)
      have grown : ((n + 1 : Nat) : Int) * item.step = n * item.step + item.step := by
        rw [Int.natCast_succ, Int.add_mul, Int.one_mul]
      omega
  · rintro ⟨rfl, below⟩
    exact ⟨0, by simp, below⟩

theorem has_congr {item other : Item} (start : item.start = other.start)
    (stop : item.stop = other.stop) (step : LikeStep item.step other.step)
    (nonneg : 0 ≤ item.start) (small : item.stop < 2 ^ 53) (value : Int) :
    item.Has value ↔ other.Has value := by
  obtain same | ⟨long, longOther⟩ := step
  · unfold Item.Has
    rw [start, stop, same]
  · rw [has_of_long nonneg small long, has_of_long (start ▸ nonneg) (stop ▸ small) longOther,
      start, stop]

theorem like_values {slot : Slot} (proper : slot.Proper) {item other : Item}
    (like : Like slot item other) (above : slot.min ≤ item.start) (below : item.stop ≤ slot.top)
    (value : Int) :
    (∃ raw, other.Has raw ∧ slot.normalize raw = value) ↔
      ∃ raw, item.Has raw ∧ slot.normalize raw = value := by
  have start := proper.start
  have small := proper.small
  obtain same | ⟨-, first, last, lastOther⟩ := like.stop
  · simp only [has_congr like.start same like.step (by omega) (by omega)]
  · obtain ⟨same, -⟩ | rfl := proper.kind
    · simp only [has_congr like.start (by omega) like.step (by omega) (by omega)]
    · -- `*` goes up to 7 in the grammar and up to 6 in the parser.
      let upTo : Item := { other with stop := 7 }
      have widened : ∀ raw, item.Has raw ↔ upTo.Has raw :=
        has_congr like.start last like.step (by omega) (by omega)
      have zero : other.start = 0 := like.start.symm.trans first
      constructor
      · rintro ⟨raw, ⟨k, at_, low⟩, is⟩
        have low' : raw ≤ 6 := by
          rw [lastOther] at low
          exact low
        exact ⟨raw, (widened raw).mpr ⟨k, at_, by simp only [upTo]; omega⟩, is⟩
      · rintro ⟨raw, has, is⟩
        obtain ⟨k, at_, low⟩ := (widened raw).mp has
        by_cases sundayRaw : raw = 7
        · refine ⟨0, ⟨0, by simp [zero], by rw [lastOther]; decide⟩, ?_⟩
          rw [← is, sundayRaw]
          rfl
        · refine ⟨raw, ⟨k, at_, ?_⟩, is⟩
          have : raw ≤ 7 := low
          rw [lastOther]
          change raw ≤ 6
          omega

/-! ### Fields -/

theorem mapM_eq_some_iff {α β : Type} {f : α → Option β} {xs : List α} {ys : List β} :
    xs.mapM f = some ys ↔ xs.map f = ys.map some := by
  induction xs generalizing ys with
  | nil =>
    cases ys <;> simp
  | cons x rest ih =>
    rw [List.mapM_cons]
    simp only [bind, pure, Option.bind_eq_some_iff, Option.some.injEq]
    cases ys with
    | nil => simp
    | cons y others =>
      simp only [List.cons.injEq, List.map_cons]
      constructor
      · rintro ⟨_, is, _, all, rfl, rfl⟩
        exact ⟨is, ih.mp all⟩
      · rintro ⟨is, all⟩
        exact ⟨y, is, others, ih.mpr all, rfl, rfl⟩

theorem mem_mapM {α β : Type} {f : α → Option β} {xs : List α} {ys : List β}
    (all : xs.mapM f = some ys) (y : β) : y ∈ ys ↔ ∃ x ∈ xs, f x = some y := by
  have mapped := mapM_eq_some_iff.mp all
  rw [← List.mem_map, mapped]
  simp

theorem exists_mapM {α β : Type} {f : α → Option β} {xs : List α} :
    (∃ ys, xs.mapM f = some ys) ↔ ∀ x ∈ xs, ∃ y, f x = some y := by
  induction xs with
  | nil => simp
  | cons x rest ih =>
    rw [List.forall_mem_cons, ← ih]
    simp only [mapM_eq_some_iff, List.map_cons]
    constructor
    · rintro ⟨ys, mapped⟩
      cases ys with
      | nil => cases mapped
      | cons y others =>
        obtain ⟨is, all⟩ := List.cons.inj mapped
        exact ⟨⟨y, is⟩, others, all⟩
    · rintro ⟨⟨y, is⟩, others, all⟩
      exact ⟨y :: others, by rw [is, all, List.map_cons]⟩

/-- No white space in the text. -/
def Solid (text : List Char) : Prop := ∀ c ∈ text, isSpace c = false

theorem solid_item {raw text : List Char} (solid : Solid raw) (listed : text ∈ items raw) :
    Solid text := fun _ member => solid _ (mem_part_of_splitChars listed member).1

theorem mem_other {js : JsRuntime} {slot : Slot} {text : List Char} {other : Item} {value : Int}
    (read : readItem (integer js) slot.min slot.max text = some other) :
    value ∈ stepsTo other.start other.stop other.step ↔ other.Has value :=
  mem_stepsTo (readStep_pos (readItem_eq_some.mp read).2.1) value

theorem has_bounds {item : Item} (positive : 0 < item.step) {value : Int}
    (has : item.Has value) : item.start ≤ value ∧ value ≤ item.stop := by
  obtain ⟨k, rfl, below⟩ := has
  have : 0 ≤ (k : Int) * item.step := Int.mul_nonneg (by omega) (by omega)
  omega

theorem normalize_inside {slot : Slot} (proper : slot.Proper) {value : Int}
    (above : slot.min ≤ value) (below : value ≤ slot.max) : slot.normalize value = value := by
  obtain ⟨-, same⟩ | rfl := proper.kind
  · rw [same]
    rfl
  · have : value ≠ 7 := by
      rintro rfl
      exact absurd below (by decide)
    exact if_neg this

section fields
variable {js : JsRuntime} {slot : Slot} (proper : slot.Proper) {raw : List Char}
  (solid : Solid raw)
include proper solid

omit proper in
/-- The values that the parser collects for a field before it looks at them again. -/
theorem mem_parts {parts : List (List Int)}
    (all : (splitChars (· == ',') raw).mapM (fun part => parseFieldPart js part slot.min slot.max) =
      some parts) (value : Int) :
    value ∈ parts.flatten ↔ ∃ text ∈ items raw, ∃ other,
      readItem (integer js) slot.min slot.max text = some other ∧ other.Has value := by
  rw [List.mem_flatten]
  constructor
  · rintro ⟨values, listed, member⟩
    obtain ⟨text, there, read⟩ := (mem_mapM all values).mp listed
    rw [parseFieldPart_eq js _ _ (solid_item solid there)] at read
    obtain ⟨other, is, rfl⟩ := Option.map_eq_some_iff.mp read
    exact ⟨text, there, other, is, (mem_other is).mp member⟩
  · rintro ⟨text, there, other, is, has⟩
    refine ⟨_, (mem_mapM all _).mpr ⟨text, there, ?_⟩, (mem_other is).mpr has⟩
    rw [parseFieldPart_eq js _ _ (solid_item solid there), is]
    rfl

theorem parseCronField_eq {parts : List (List Int)}
    (all : (splitChars (· == ',') raw).mapM (fun part => parseFieldPart js part slot.min slot.max) =
      some parts) :
    parseCronField js raw slot.min slot.max slot.normalize =
      some { values := parts.flatten.map slot.normalize, wildcard := trim raw = ['*'] } := by
  have inside : ((parts.flatten.map slot.normalize).any fun v => v < slot.min || v > slot.max) =
      false := by
    rw [List.any_eq_false]
    intro value listed
    obtain ⟨raw', member, rfl⟩ := List.mem_map.mp listed
    obtain ⟨text, there, other, read, has⟩ := (mem_parts solid all raw').mp member
    obtain ⟨-, step, -, above, below, -⟩ := readItem_eq_some.mp read
    have bounds := has_bounds (readStep_pos step) has
    rw [normalize_inside proper (by omega) (by omega)]
    simp only [Bool.or_eq_true, decide_eq_true_eq, not_or]
    omega
  unfold parseCronField
  rw [all]
  simp only [bind, Option.bind_some, inside, Bool.false_eq_true, ↓reduceIte]

theorem parses_iff_readable :
    (parseCronField js raw slot.min slot.max slot.normalize).isSome ↔ Readable js slot raw := by
  have readable : Readable js slot raw ↔ ∃ parts, (splitChars (· == ',') raw).mapM
      (fun part => parseFieldPart js part slot.min slot.max) = some parts := by
    rw [exists_mapM]
    apply forall_congr'
    intro text
    apply imp_congr_right
    intro there
    rw [parseFieldPart_eq js _ _ (solid_item solid there), Option.isSome_iff_exists]
    simp
  rw [readable]
  constructor
  · intro parses
    cases all : (splitChars (· == ',') raw).mapM
        (fun part => parseFieldPart js part slot.min slot.max) with
    | none => simp [parseCronField, all] at parses
    | some parts => exact ⟨parts, rfl⟩
  · rintro ⟨parts, all⟩
    rw [parseCronField_eq proper solid all]
    rfl

omit solid in
theorem grammar_of_clean (clean : ∀ text ∈ items raw, ¬ Sloppy text)
    (reads : ReadsDecimals js) (readable : Readable js slot raw) :
    (grammarField slot raw).isSome := by
  rw [Option.isSome_iff_exists]
  unfold grammarField
  rw [exists_mapM]
  intro text there
  obtain ⟨other, read⟩ := Option.isSome_iff_exists.mp (readable text there)
  exact grammarItem_of_readable reads proper (clean text there) read

omit proper solid in
theorem clean_of_grammar (parsed : (grammarField slot raw).isSome) :
    ∀ text ∈ items raw, ¬ Sloppy text := by
  obtain ⟨parsed, all⟩ := Option.isSome_iff_exists.mp parsed
  intro text there
  obtain ⟨item, is⟩ := exists_mapM.mp ⟨parsed, all⟩ text there
  exact not_sloppy_of_grammar is

omit solid in
theorem readable_iff_kept (reads : ReadsDecimals js) {parsed : List Item}
    (all : grammarField slot raw = some parsed) :
    Readable js slot raw ↔ ∀ item ∈ parsed, ¬ Missed slot item := by
  constructor
  · intro readable item listed
    obtain ⟨text, there, is⟩ := (mem_mapM all item).mp listed
    obtain ⟨other, read⟩ := Option.isSome_iff_exists.mp (readable text there)
    exact (like_of_both reads proper is read).2
  · intro kept text there
    obtain ⟨item, is⟩ := exists_mapM.mp ⟨parsed, all⟩ text there
    rw [Option.isSome_iff_exists]
    exact readable_of_grammar reads proper is (kept item ((mem_mapM all item).mpr ⟨text, there, is⟩))

theorem values_iff_denotes (reads : ReadsDecimals js) {field : CronField} {parsed : List Item}
    (parses : parseCronField js raw slot.min slot.max slot.normalize = some field)
    (all : grammarField slot raw = some parsed) (value : Int) :
    value ∈ field.values ↔ Denotes slot parsed value := by
  have readable := (parses_iff_readable proper solid).mp (by rw [parses]; rfl)
  obtain ⟨parts, partsAll⟩ : ∃ parts, (splitChars (· == ',') raw).mapM
      (fun part => parseFieldPart js part slot.min slot.max) = some parts := by
    rw [exists_mapM]
    intro text there
    obtain ⟨other, read⟩ := Option.isSome_iff_exists.mp (readable text there)
    rw [parseFieldPart_eq js _ _ (solid_item solid there), read]
    exact ⟨_, rfl⟩
  rw [parseCronField_eq proper solid partsAll] at parses
  obtain rfl := Option.some.inj parses
  simp only [List.mem_map, mem_parts solid partsAll, Denotes]
  constructor
  · rintro ⟨raw', ⟨text, there, other, read, has⟩, is⟩
    obtain ⟨item, parsedItem⟩ := exists_mapM.mp ⟨parsed, all⟩ text there
    obtain ⟨-, -, -, above, below, -⟩ :=
      readItem_eq_some.mp (grammarItem_eq_some.mp parsedItem).2.2
    have like := (like_of_both reads proper parsedItem read).1
    exact ⟨item, (mem_mapM all item).mpr ⟨text, there, parsedItem⟩,
      (like_values proper like above below value).mp ⟨raw', has, is⟩⟩
  · rintro ⟨item, listed, raw', has, is⟩
    obtain ⟨text, there, parsedItem⟩ := (mem_mapM all item).mp listed
    obtain ⟨other, read⟩ := Option.isSome_iff_exists.mp (readable text there)
    obtain ⟨-, -, -, above, below, -⟩ :=
      readItem_eq_some.mp (grammarItem_eq_some.mp parsedItem).2.2
    have like := (like_of_both reads proper parsedItem read).1
    obtain ⟨value', has', is'⟩ := (like_values proper like above below value).mpr ⟨raw', has, is⟩
    exact ⟨value', ⟨text, there, other, read, has'⟩, is'⟩

end fields

/-! ### Expressions -/

theorem plainSlot_proper {min max : Int} (start : 0 ≤ min) (small : max < 2 ^ 53) :
    (plainSlot min max).Proper :=
  ⟨start, le_rfl, small, .inl ⟨rfl, rfl⟩⟩

theorem slots_proper : ∀ slot ∈ slots, slot.Proper := by
  simp only [slots, List.forall_mem_cons, List.not_mem_nil, false_imp_iff, implies_true, and_true]
  exact ⟨plainSlot_proper (by decide) (by decide), plainSlot_proper (by decide) (by decide),
    plainSlot_proper (by decide) (by decide), plainSlot_proper (by decide) (by decide),
    by decide, by decide, by decide, .inr rfl⟩

/-- The parser reads the field as the value. -/
def Reads (js : JsRuntime) (parsed : CronField) (field : Slot × List Char) : Prop :=
  parseCronField js field.2 field.1.min field.1.max field.1.normalize = some parsed

theorem fieldsOf_mem {expression : String} {fields : List (Slot × List Char)}
    (five : fieldsOf expression = some fields) :
    ∀ field ∈ fields, field.1.Proper ∧ Solid field.2 := by
  unfold fieldsOf at five
  dsimp only at five
  split_ifs at five
  obtain rfl := Option.some.inj five
  intro field listed
  obtain ⟨slot, word⟩ := List.of_mem_zip listed
  refine ⟨slots_proper _ slot, fun c member => ?_⟩
  exact (mem_part_of_splitChars (List.mem_filter.mp word).1 member).2

theorem eq_five {α : Type} {l : List α} (length : l.length = 5) :
    ∃ a b c d e, l = [a, b, c, d, e] := by
  match l, length with
  | [a, b, c, d, e], _ => exact ⟨a, b, c, d, e, rfl⟩

theorem parses_iff (js : JsRuntime) (expression : String) (parsed : ParsedCron) :
    parseCronExpression js expression = some parsed ↔
      ∃ fields, fieldsOf expression = some fields ∧
        List.Forall₂ (Reads js) (fieldList parsed) fields := by
  unfold parseCronExpression fieldsOf
  dsimp only
  split
  · rename_i minute hour dayOfMonth month dayOfWeek words
    simp only [words, List.length_cons, List.length_nil, Nat.reduceAdd, ↓reduceIte,
      Option.some.injEq, exists_eq_left', bind, pure, Option.bind_eq_some_iff, slots,
      List.zip_cons_cons, List.zip_nil_right, fieldList, List.forall₂_cons,
      List.forall₂_nil_left_iff, and_true, Reads]
    constructor
    · rintro ⟨first, one, second, two, third, three, fourth, four, fifth, fived, rfl⟩
      exact ⟨one, two, three, four, fived⟩
    · rintro ⟨one, two, three, four, fived⟩
      exact ⟨_, one, _, two, _, three, _, four, _, fived, rfl⟩
  · rename_i other
    simp only [reduceCtorEq, false_iff, not_exists, not_and]
    intro fields five
    split_ifs at five with length
    obtain ⟨a, b, c, d, e, words⟩ := eq_five length
    exact absurd words (other a b c d e)

theorem reads_iff {js : JsRuntime} {fields : List (Slot × List Char)}
    (known : ∀ field ∈ fields, field.1.Proper ∧ Solid field.2) :
    (∃ parsed, List.Forall₂ (Reads js) parsed fields) ↔
      ∀ field ∈ fields, Readable js field.1 field.2 := by
  induction fields with
  | nil =>
    exact iff_of_true ⟨[], .nil⟩ (by simp)
  | cons field rest ih =>
    obtain ⟨⟨proper, solid⟩, later⟩ := List.forall_mem_cons.mp known
    rw [List.forall_mem_cons, ← ih later, ← parses_iff_readable proper solid,
      Option.isSome_iff_exists]
    constructor
    · rintro ⟨_, read⟩
      cases read with
      | cons first others => exact ⟨⟨_, first⟩, _, others⟩
    · rintro ⟨⟨first, is⟩, others, read⟩
      exact ⟨first :: others, .cons is read⟩

theorem parses_isSome {js : JsRuntime} {expression : String} {fields : List (Slot × List Char)}
    (five : fieldsOf expression = some fields) :
    (parseCronExpression js expression).isSome ↔
      ∀ field ∈ fields, Readable js field.1 field.2 := by
  rw [← reads_iff (fieldsOf_mem five), Option.isSome_iff_exists]
  constructor
  · rintro ⟨parsed, parses⟩
    obtain ⟨fields', five', read⟩ := (parses_iff js expression parsed).mp parses
    obtain rfl := Option.some.inj (five.symm.trans five')
    exact ⟨_, read⟩
  · rintro ⟨parsed, read⟩
    have length : parsed.length = 5 := by
      rw [read.length_eq]
      unfold fieldsOf at five
      dsimp only at five
      split_ifs at five with words
      obtain rfl := Option.some.inj five
      rw [List.length_zip, words]
      rfl
    obtain ⟨minute, hour, dayOfMonth, month, dayOfWeek, rfl⟩ := eq_five length
    exact ⟨⟨minute, hour, dayOfMonth, month, dayOfWeek⟩,
      (parses_iff js expression _).mpr ⟨fields, five, read⟩⟩

def grammarOf (field : Slot × List Char) : Option (Slot × List Item) :=
  (grammarField field.1 field.2).map fun parsed => (field.1, parsed)

theorem grammar_isSome {expression : String} {fields : List (Slot × List Char)}
    (five : fieldsOf expression = some fields) :
    (grammar expression).isSome ↔ ∀ field ∈ fields, (grammarField field.1 field.2).isSome := by
  have parsed : grammar expression = fields.mapM grammarOf := by
    rw [grammar, five]
    rfl
  rw [parsed, Option.isSome_iff_exists, exists_mapM]
  simp [grammarOf, Option.isSome_iff_exists]

theorem fields_denote {js : JsRuntime} (reads : ReadsDecimals js) {parsed : List CronField}
    {fields : List (Slot × List Char)} {denoted : List (Slot × List Item)}
    (known : ∀ field ∈ fields, field.1.Proper ∧ Solid field.2)
    (read : List.Forall₂ (Reads js) parsed fields)
    (all : fields.map grammarOf = denoted.map some) :
    List.Forall₂ (fun (field : CronField) (denoted : Slot × List Item) =>
      ∀ value, value ∈ field.values ↔ Denotes denoted.1 denoted.2 value) parsed denoted := by
  induction read generalizing denoted with
  | nil =>
    obtain rfl := List.map_eq_nil_iff.mp all.symm
    exact .nil
  | cons first others ih =>
    obtain ⟨⟨proper, solid⟩, later⟩ := List.forall_mem_cons.mp known
    cases denoted with
    | nil => cases all
    | cons one more =>
      obtain ⟨is, rest⟩ := List.cons.inj all
      obtain ⟨items, parsedItems, rfl⟩ := Option.map_eq_some_iff.mp is
      exact .cons (values_iff_denotes proper solid reads first parsedItems) (ih later rest)

theorem grammarMissed_iff {expression : String} {fields : List (Slot × List Char)}
    (five : fieldsOf expression = some fields)
    (parsed : ∀ field ∈ fields, (grammarField field.1 field.2).isSome) :
    GrammarMissed expression ↔
      ∃ field ∈ fields, ∃ items, grammarField field.1 field.2 = some items ∧
        ∃ item ∈ items, Missed field.1 item := by
  obtain ⟨denoted, is⟩ := Option.isSome_iff_exists.mp ((grammar_isSome five).mpr parsed)
  have all : fields.mapM grammarOf = some denoted := by
    rw [← is, grammar, five]
    rfl
  simp only [GrammarMissed, is, Option.mem_some_iff, exists_eq_left']
  constructor
  · rintro ⟨one, listed, item, there, missed⟩
    obtain ⟨field, member, made⟩ := (mem_mapM all one).mp listed
    obtain ⟨items, parsedItems, rfl⟩ := Option.map_eq_some_iff.mp made
    exact ⟨field, member, items, parsedItems, item, there, missed⟩
  · rintro ⟨field, member, items, parsedItems, item, there, missed⟩
    refine ⟨(field.1, items), (mem_mapM all _).mpr ⟨field, member, ?_⟩, item, there, missed⟩
    simp [grammarOf, parsedItems]

section both
variable {js : JsRuntime} (reads : ReadsDecimals js) {expression : String}
include reads

omit reads in
theorem not_meets_of_sloppy (sloppy : SloppyAccepted js expression) : ¬ Meets js expression := by
  rintro ⟨same, -⟩
  obtain ⟨fields, five, readable, field, listed, text, there, isSloppy⟩ := sloppy
  have parsed : (grammar expression).isSome := by
    rw [← same]
    exact (parses_isSome five).mpr readable
  exact clean_of_grammar ((grammar_isSome five).mp parsed field listed) text there isSloppy

theorem readable_iff_not_missed {fields : List (Slot × List Char)}
    (five : fieldsOf expression = some fields)
    (parsed : ∀ field ∈ fields, (grammarField field.1 field.2).isSome) :
    (∀ field ∈ fields, Readable js field.1 field.2) ↔ ¬ GrammarMissed expression := by
  rw [grammarMissed_iff five parsed]
  simp only [not_exists, not_and]
  constructor
  · intro readable field listed items is item there
    exact (readable_iff_kept (fieldsOf_mem five field listed).1 reads is).mp
      (readable field listed) item there
  · intro kept field listed
    obtain ⟨items, is⟩ := Option.isSome_iff_exists.mp (parsed field listed)
    exact (readable_iff_kept (fieldsOf_mem five field listed).1 reads is).mpr
      (kept field listed items is)

theorem not_meets_of_missed (missed : GrammarMissed expression) : ¬ Meets js expression := by
  rintro ⟨same, -⟩
  obtain ⟨denoted, parsed, -⟩ := id missed
  obtain ⟨fields, five, -⟩ := Option.bind_eq_some_iff.mp parsed
  have accepted : (grammar expression).isSome := by rw [parsed]; rfl
  rw [← same, parses_isSome five, readable_iff_not_missed reads five] at accepted
  · exact accepted missed
  · exact (grammar_isSome five).mp (by rw [parsed]; rfl)

theorem meets_of_neither (clean : ¬ SloppyAccepted js expression)
    (kept : ¬ GrammarMissed expression) : Meets js expression := by
  cases five : fieldsOf expression with
  | none =>
    have unparsed : parseCronExpression js expression = none := by
      rw [Option.eq_none_iff_forall_ne_some]
      intro parsed parses
      obtain ⟨fields, some, -⟩ := (parses_iff js expression parsed).mp parses
      rw [five] at some
      cases some
    have ungrammatical : grammar expression = none := by
      rw [grammar, five]
      rfl
    simp [Meets, unparsed, ungrammatical]
  | some fields =>
    have known := fieldsOf_mem five
    constructor
    · rw [Bool.eq_iff_iff, parses_isSome five, grammar_isSome five]
      constructor
      · intro readable field listed
        refine grammar_of_clean (known field listed).1 ?_ reads (readable field listed)
        intro text there sloppy
        exact clean ⟨fields, five, readable, field, listed, text, there, sloppy⟩
      · intro parsed
        exact (readable_iff_not_missed reads five parsed).mpr kept
    · intro parsed parses denoted is
      obtain ⟨fields', five', read⟩ := (parses_iff js expression parsed).mp parses
      obtain rfl := Option.some.inj (five.symm.trans five')
      refine fields_denote reads known read (mapM_eq_some_iff.mp ?_)
      rw [← Option.mem_def.mp is, grammar, five]
      rfl

end both

/-- The parser accepts the grammar and means what it says, but for two kinds of expressions: those
with a sloppy item that it can read, and those of the grammar with weekday 7 or an infinite
step. -/
theorem cron_meets_iff (js : JsRuntime) (reads : ReadsDecimals js) (expression : String) :
    Meets js expression ↔ ¬ SloppyAccepted js expression ∧ ¬ GrammarMissed expression := by
  constructor
  · intro meets
    exact ⟨fun sloppy => not_meets_of_sloppy sloppy meets,
      fun missed => not_meets_of_missed reads missed meets⟩
  · rintro ⟨clean, kept⟩
    exact meets_of_neither reads clean kept

/-- `Number` on plain decimal numbers and on the empty text. -/
def plainJs : JsRuntime where
  localeCompare _ _ := .eq
  number
    | .json (.str text) =>
      if text = "" then some 0
      else (decimal text.toList).bind fun value => if value < infinity then some value else none
    | _ => none
  inherited _ _ := .undefined

theorem plainJs_number {text : List Char} {value : Int} (is : decimal text = some value) :
    plainJs.number (.json (.str (String.ofList text))) =
      if value < infinity then some (value : Rat) else none := by
  have filled : text ≠ [] := by
    rintro rfl
    cases is
  have named : String.ofList text ≠ "" := by simpa using filled
  simp only [plainJs, named, ↓reduceIte, String.toList_ofList, is, Option.bind_some]

theorem plainJs_reads : ReadsDecimals plainJs where
  exact text value is small := by
    have := exact_lt_infinity
    rw [plainJs_number is, if_pos (by omega)]
  rounded text value is large finite := by
    exact ⟨value, by omega, by rw [plainJs_number is, if_pos finite]⟩
  infinite text value is infinite := by
    rw [plainJs_number is, if_neg (by omega)]

theorem cron_meets_iff_weekdays : Meets plainJs "0 9 * * 1-5" ↔
    ¬ SloppyAccepted plainJs "0 9 * * 1-5" ∧ ¬ GrammarMissed "0 9 * * 1-5" :=
  cron_meets_iff plainJs plainJs_reads "0 9 * * 1-5"

/-- Weekday 7 is refused, and an item without its number is taken for 0. -/
theorem sunday_refused : ¬ Meets plainJs "0 9 * * 7" ∧ ¬ Meets plainJs "/5 9 * * 1" := by
  constructor
  · intro meets
    have same := meets.1
    revert same
    decide +kernel
  · intro meets
    have same := meets.1
    revert same
    decide +kernel

end Vespid.Scheduler.Grammar
