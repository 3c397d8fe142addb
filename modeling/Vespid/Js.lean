import Vespid.Lib.OrderedMap
import Mathlib.Algebra.GroupWithZero.Nat
import Mathlib.Data.Rat.Defs

/-!
# JavaScript values

JSON values as the services pass them around, and the operations of the language runtime
the code uses on them. Runtime tables that are not in the repository (the collation of
`localeCompare`, the numeric literal grammar behind `Number`, inherited properties) are
fields of `JsRuntime`.
-/

namespace Vespid

/-- A JSON value. Fields of an object stand in property order. -/
inductive Json where
  | null
  | bool (b : Bool)
  | num (n : Rat)
  | str (s : String)
  | arr (items : List Json)
  | obj (fields : List (String × Json))

namespace Json

/-- Whether a value counts as true in a condition. -/
def truthy : Json → Bool
  | null => false
  | bool b => b
  | num n => n != 0
  | str s => s != ""
  | arr _ => true
  | obj _ => true

/-- `asObject`: the fields of a value that is an object and not an array. -/
def asObject : Json → Option (List (String × Json))
  | obj fields => some fields
  | _ => none

/-- The own property `key` of an object. -/
def field? (v : Json) (key : String) : Option Json :=
  v.asObject.bind fun fields => fields.lookup key

/-- `{ ...base, ...overrides }` -/
def spread (base overrides : List (String × Json)) : Json := obj (OrderedMap.merge base overrides)

@[simp] theorem field?_obj (fields : List (String × Json)) (key : String) :
    (obj fields).field? key = fields.lookup key := rfl

@[simp] theorem truthy_obj (fields : List (String × Json)) : (obj fields).truthy = true := rfl

end Json

/-- What a property path can evaluate to: nothing, JSON data, or an object or function of
the host that a prototype provides. -/
inductive JsValue where
  | undefined
  | json (v : Json)
  | host (name : String) (isObject : Bool)

/-- Operations of the language runtime whose tables are outside the repository. -/
structure JsRuntime where
  localeCompare : String → String → Ordering
  /-- `Number(value)`, where finite. -/
  number : JsValue → Option Rat
  /-- A property that is not an own property of JSON data. -/
  inherited : JsValue → String → JsValue

/-- The length of a string in UTF-16 code units. -/
def jsLength (s : String) : Nat :=
  (s.toList.map fun c => if c.val < 0x10000 then 1 else 2).sum

/-- `s.split(sep)` for a separator of one character, on characters. -/
def splitChars (sep : Char → Bool) : List Char → List (List Char)
  | [] => [[]]
  | c :: rest =>
    if sep c then [] :: splitChars sep rest
    else match splitChars sep rest with
      | [] => [[c]]
      | part :: parts => (c :: part) :: parts

theorem mem_of_splitChars (sep : Char → Bool) (s : List Char) {c : Char} (mem : c ∈ s)
    (inside : sep c = false) : ∃ part ∈ splitChars sep s, c ∈ part := by
  induction s with
  | nil => cases mem
  | cons head rest ih =>
    rw [splitChars]
    rcases List.mem_cons.mp mem with rfl | later
    · simp only [inside, Bool.false_eq_true, ↓reduceIte]
      split <;> exact ⟨_, List.mem_cons_self, List.mem_cons_self⟩
    · obtain ⟨part, found, mem⟩ := ih later
      cases sep head with
      | true => exact ⟨part, List.mem_cons_of_mem _ found, mem⟩
      | false =>
        simp only [Bool.false_eq_true, ↓reduceIte]
        split
        · rename_i empty
          rw [empty] at found
          cases found
        · rename_i first others split
          rw [split] at found
          rcases List.mem_cons.mp found with rfl | found
          · exact ⟨_, List.mem_cons_self, List.mem_cons_of_mem _ mem⟩
          · exact ⟨part, List.mem_cons_of_mem _ found, mem⟩

theorem splitChars_clean (sep : Char → Bool) {s : List Char} (clean : ∀ c ∈ s, sep c = false) :
    splitChars sep s = [s] := by
  induction s with
  | nil => rfl
  | cons c rest ih =>
    have later := ih fun other member => clean other (List.mem_cons_of_mem _ member)
    rw [splitChars, clean c List.mem_cons_self, later]
    rfl

theorem splitChars_append (sep : Char → Bool) {s : List Char} (clean : ∀ c ∈ s, sep c = false)
    {c : Char} (here : sep c = true) (rest : List Char) :
    splitChars sep (s ++ c :: rest) = s :: splitChars sep rest := by
  induction s with
  | nil => simp [splitChars, here]
  | cons first later ih =>
    have split := ih fun other member => clean other (List.mem_cons_of_mem _ member)
    rw [List.cons_append, splitChars, clean first List.mem_cons_self, split]
    rfl

theorem splitChars_ne_nil (sep : Char → Bool) (s : List Char) : splitChars sep s ≠ [] := by
  cases s with
  | nil => simp [splitChars]
  | cons c rest =>
    rw [splitChars]
    split
    · simp
    · split <;> simp

/-- What stands in a part stands in the text, and is no separator. -/
theorem mem_part_of_splitChars {sep : Char → Bool} {s part : List Char} {c : Char}
    (found : part ∈ splitChars sep s) (inside : c ∈ part) : c ∈ s ∧ sep c = false := by
  induction s generalizing part with
  | nil =>
    rw [splitChars, List.mem_singleton] at found
    simp [found] at inside
  | cons head rest ih =>
    have later : ∀ part ∈ splitChars sep rest, c ∈ part → c ∈ head :: rest ∧ sep c = false := by
      intro part found inside
      obtain ⟨here, apart⟩ := ih found inside
      exact ⟨List.mem_cons_of_mem _ here, apart⟩
    rw [splitChars] at found
    cases separates : sep head with
    | true =>
      rw [if_pos separates] at found
      obtain rfl | found := List.mem_cons.mp found
      · cases inside
      · exact later part found inside
    | false =>
      rw [if_neg (by simp [separates])] at found
      cases parts : splitChars sep rest with
      | nil => exact absurd parts (splitChars_ne_nil sep rest)
      | cons first others =>
        simp only [parts] at found
        obtain rfl | found := List.mem_cons.mp found
        · obtain rfl | inside := List.mem_cons.mp inside
          · exact ⟨List.mem_cons_self, separates⟩
          · exact later first (by simp [parts]) inside
        · exact later part (by simp [parts, found]) inside

/-- `s.startsWith(start)` -/
def startsWith (s start : String) : Bool := start.toList.isPrefixOf s.toList

namespace JsValue

/-- `typeof`, with `"null"` and `"array"` told apart from other objects. -/
def typeName : JsValue → String
  | undefined => "undefined"
  | json .null => "null"
  | json (.bool _) => "boolean"
  | json (.num _) => "number"
  | json (.str _) => "string"
  | json (.arr _) => "array"
  | json (.obj _) => "object"
  | host _ isObject => if isObject then "object" else "function"

/-- The decimal array index a property name spells, if it does. -/
def arrayIndex? (part : String) : Option Nat :=
  let digits := part.toList
  if digits = ['0'] then some 0
  else if digits.all Char.isDigit && digits.head? ≠ some '0' && !digits.isEmpty then
    some (digits.foldl (fun n c => 10 * n + (c.toNat - '0'.toNat)) 0)
  else none

/-- `value[part]` for a value of type object. -/
def property (js : JsRuntime) (value : JsValue) (part : String) : JsValue :=
  match value with
  | json (.obj fields) =>
    match fields.lookup part with
    | some v => json v
    | none => js.inherited value part
  | json (.arr items) =>
    if part = "length" then json (.num items.length)
    else match (arrayIndex? part).bind fun i => items[i]? with
      | some v => json v
      | none => js.inherited value part
  | _ => js.inherited value part

def isUndefined : JsValue → Bool
  | undefined => true
  | _ => false

def isObject : JsValue → Bool
  | json (.arr _) => true
  | json (.obj _) => true
  | host _ isObject => isObject
  | _ => false

/-- `a === b` against a primitive value or undefined. -/
def strictEq : JsValue → Option Json → Bool
  | undefined, none => true
  | json .null, some .null => true
  | json (.bool a), some (.bool b) => a == b
  | json (.num a), some (.num b) => a == b
  | json (.str a), some (.str b) => a == b
  | _, _ => false

end JsValue

/-- Whether `part` occurs in `s`. -/
def occursIn (part : List Char) : List Char → Bool
  | [] => part.isEmpty
  | c :: rest => part.isPrefixOf (c :: rest) || occursIn part rest

/-! ### Numbers as texts -/

theorem isDigit_of_mem_toString {n : Nat} {c : Char} (mem : c ∈ (toString n).toList) :
    c.isDigit = true := by
  rw [Nat.toString_eq_ofList_toDigits, String.toList_ofList] at mem
  exact Nat.isDigit_of_mem_toDigits (by omega) (by omega) mem

theorem toList_toString_ne_nil (n : Nat) : (toString n).toList ≠ [] := by
  rw [Nat.toString_eq_ofList_toDigits, String.toList_ofList]
  exact Nat.toDigits_ne_nil

theorem toString_nat_inj {n m : Nat} (same : toString n = toString m) : n = m := by
  rw [Nat.toString_eq_ofList_toDigits, Nat.toString_eq_ofList_toDigits] at same
  have digits := congrArg String.toList same
  rw [String.toList_ofList, String.toList_ofList] at digits
  rw [← Nat.ofDigitChars_ten_toDigits (n := n), digits, Nat.ofDigitChars_ten_toDigits]

end Vespid
