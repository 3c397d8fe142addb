import Vespid.Js
import Vespid.Lib.Paths

/-!
# Paths of the file system

`path.join`, `path.normalize` and `path.resolve` as texts, and the directory that a text leads to.
-/

namespace Vespid.NodeAgent.Path

open Paths

abbrev Name := List Char

def parent : Name := ['.', '.']

/-- What a segment between two separators stands for. -/
def moveOf (segment : Name) : Move Name :=
  if segment = [] ∨ segment = ['.'] then .stay
  else if segment = parent then .up
  else .down segment

def moves (path : List Char) : List (Move Name) := (splitChars (· == '/') path).map moveOf

def isAbsolute (path : List Char) : Bool := path.head? = some '/'

/-- `segments.join("/")` -/
def joined (segments : List Name) : List Char := ['/'].intercalate segments

def normalizeString (path : List Char) (allowAboveRoot : Bool) : List Char :=
  let route := Route.ofMoves (moves path)
  joined ((if allowAboveRoot then List.replicate route.ups parent else []) ++ route.downs.reverse)

def normalize (path : List Char) : List Char :=
  if path = [] then ['.']
  else
    let text := normalizeString path (!isAbsolute path)
    let trailing := path.getLast? = some '/'
    if text = [] then if isAbsolute path then ['/'] else if trailing then ['.', '/'] else ['.']
    else (if isAbsolute path then ['/'] else []) ++ text ++ if trailing then ['/'] else []

def join (parts : List (List Char)) : List Char :=
  let filled := parts.filter (· ≠ [])
  if filled = [] then ['.'] else normalize (joined filled)

/-- `path.resolve`; `cwd` is an absolute path. -/
def resolve (cwd path : List Char) : List Char :=
  '/' :: normalizeString (if isAbsolute path then path else cwd ++ '/' :: path) false

def text (directory : List Name) : List Char := '/' :: joined directory.reverse

/-- The directory that a path leads to. -/
def directoryOf (cwd path : List Char) : List Name :=
  walk (if isAbsolute path then [] else walk [] (moves cwd)) (moves path)

/-! ### Segments -/

section segments
variable {a b path : List Char} {segments : List Name}

theorem splitChars_append_sep (sep : Char → Bool) {c : Char} (here : sep c = true)
    (a b : List Char) : splitChars sep (a ++ c :: b) = splitChars sep a ++ splitChars sep b := by
  induction a with
  | nil => simp [splitChars, here]
  | cons head rest ih =>
    rw [List.cons_append, splitChars, splitChars, ih]
    split
    · rfl
    · cases parts : splitChars sep rest with
      | nil => exact absurd parts (splitChars_ne_nil sep rest)
      | cons part parts => rfl

theorem moves_append (a b : List Char) : moves (a ++ '/' :: b) = moves a ++ moves b := by
  unfold moves
  rw [splitChars_append_sep (· == '/') rfl, List.map_append]

theorem moves_nil : moves [] = [.stay] := rfl

theorem walk_stay (directory : List Name) : walk directory [.stay] = directory := rfl

/-- A name that a path goes down by is one of its segments. -/
theorem down_mem_moves {name : Name} (mem : .down name ∈ moves path) :
    name ∈ splitChars (· == '/') path ∧ moveOf name = .down name := by
  obtain ⟨segment, found, same⟩ := List.mem_map.mp mem
  have itself : segment = name := by
    unfold moveOf at same
    split at same
    · cases same
    · split at same
      · cases same
      · exact Move.down.inj same
  subst itself
  exact ⟨found, same⟩

theorem ne_nil_of_down {name : Name} (down : moveOf name = .down name) : name ≠ [] := by
  rintro rfl
  cases down

theorem splitChars_joined (clean : ∀ segment ∈ segments, '/' ∉ segment) (filled : segments ≠ []) :
    splitChars (· == '/') (joined segments) = segments := by
  have solid {segment : Name} (mem : segment ∈ segments) : ∀ c ∈ segment, (c == '/') = false := by
    intro c inside
    refine beq_eq_false_iff_ne.mpr ?_
    rintro rfl
    exact clean segment mem inside
  induction segments with
  | nil => exact absurd rfl filled
  | cons first rest ih =>
    unfold joined
    cases rest with
    | nil =>
      rw [List.intercalate_singleton]
      exact splitChars_clean (· == '/') (solid List.mem_cons_self)
    | cons second rest =>
      rw [List.intercalate_cons_cons, List.append_assoc]
      refine (splitChars_append (· == '/') (solid List.mem_cons_self) rfl _).trans ?_
      congr 1
      refine ih (fun segment mem => clean segment (List.mem_cons_of_mem _ mem)) nofun ?_
      intro segment mem
      exact solid (List.mem_cons_of_mem _ mem)

theorem moves_joined (clean : ∀ segment ∈ segments, '/' ∉ segment) (filled : segments ≠ []) :
    moves (joined segments) = segments.map moveOf := by
  unfold moves
  rw [splitChars_joined clean filled]

theorem joined_append {first rest : List Name} (filled : first ≠ []) (filled' : rest ≠ []) :
    joined (first ++ rest) = joined first ++ '/' :: joined rest := by
  induction first with
  | nil => exact absurd rfl filled
  | cons head tail ih =>
    unfold joined at ih ⊢
    cases tail with
    | nil => rw [List.singleton_append, List.intercalate_cons_of_ne_nil filled',
        List.intercalate_singleton, List.append_assoc, List.singleton_append]
    | cons next tail =>
      rw [List.cons_append, List.cons_append, List.intercalate_cons_cons, ← List.cons_append,
        ih nofun, List.intercalate_cons_cons, List.append_assoc, List.append_assoc,
        List.append_assoc]

theorem moves_joined_parts {parts : List (List Char)} (filled : parts ≠ []) :
    moves (joined parts) = parts.flatMap moves := by
  induction parts with
  | nil => exact absurd rfl filled
  | cons first rest ih =>
    unfold joined
    cases rest with
    | nil => simp
    | cons second rest =>
      rw [List.intercalate_cons_cons, List.append_assoc]
      refine (moves_append _ _).trans ?_
      rw [List.flatMap_cons]
      congr 1
      exact ih nofun

end segments

/-- A name a directory can have. -/
def Clean (name : Name) : Prop := moveOf name = .down name ∧ '/' ∉ name

theorem Clean.ne_nil {name : Name} (clean : Clean name) : name ≠ [] := ne_nil_of_down clean.1

theorem clean_of_mem_moves {path : List Char} {name : Name} (mem : .down name ∈ moves path) :
    Clean name := by
  obtain ⟨found, down⟩ := down_mem_moves mem
  refine ⟨down, fun slash => ?_⟩
  have apart := (mem_part_of_splitChars found slash).2
  cases apart

theorem clean_of_mem_walk {directory : List Name} {path : List Char}
    (clean : ∀ name ∈ directory, Clean name) :
    ∀ name ∈ walk directory (moves path), Clean name := by
  intro name mem
  obtain old | new := mem_walk mem
  · exact clean name old
  · exact clean_of_mem_moves new

theorem clean_of_mem_downs {path : List Char} {name : Name}
    (mem : name ∈ (Route.ofMoves (moves path)).downs) : Clean name :=
  clean_of_mem_moves (mem_downs mem)

theorem clean_directoryOf (cwd path : List Char) : ∀ name ∈ directoryOf cwd path, Clean name := by
  refine clean_of_mem_walk ?_
  split
  · exact nofun
  · exact clean_of_mem_walk nofun

/-! ### The text of a directory -/

section texts
variable {names others : List Name}

theorem map_moveOf (clean : ∀ name ∈ names, Clean name) :
    names.map moveOf = names.map Move.down := by
  apply List.map_congr_left
  intro name mem
  exact (clean name mem).1

theorem joined_eq_nil (filled : ∀ name ∈ names, name ≠ []) : joined names = [] ↔ names = [] := by
  constructor
  · intro blank
    cases names with
    | nil => rfl
    | cons first rest =>
      have some_ := filled first List.mem_cons_self
      unfold joined at blank
      cases rest with
      | nil =>
        rw [List.intercalate_singleton] at blank
        exact absurd blank some_
      | cons second rest =>
        rw [List.intercalate_cons_cons] at blank
        simp at blank
  · rintro rfl
    rfl

theorem splitChars_text (clean : ∀ name ∈ names, Clean name) (filled : names ≠ []) :
    splitChars (· == '/') (text names) = [] :: names.reverse := by
  have segments := @splitChars_joined names.reverse
    (fun name mem => (clean name (List.mem_reverse.mp mem)).2)
    (fun none => filled (List.reverse_eq_nil_iff.mp none))
  change [] :: splitChars (· == '/') (joined names.reverse) = _
  rw [segments]

/-- A path within a directory starts with its text and a separator. -/
theorem text_prefix_iff (clean : ∀ name ∈ names, Clean name) (clean' : ∀ name ∈ others, Clean name)
    (filled : others ≠ []) :
    (if names = [] then ['/'] else text names ++ ['/']) <+: text others ↔
      names <:+ others ∧ names ≠ others := by
  by_cases root : names = []
  · subst root
    rw [if_pos rfl]
    exact iff_of_true ⟨joined others.reverse, rfl⟩ ⟨List.nil_suffix, fun same => filled same.symm⟩
  · rw [if_neg root]
    have split := splitChars_text clean root
    have split' := splitChars_text clean' filled
    constructor
    · intro ⟨rest, whole⟩
      rw [List.append_assoc] at whole
      have parts : [] :: names.reverse ++ splitChars (· == '/') rest = [] :: others.reverse := by
        rw [← split, ← split', ← whole]
        exact (splitChars_append_sep (· == '/') rfl _ _).symm
      have parts : names.reverse ++ splitChars (· == '/') rest = others.reverse :=
        (List.cons.inj parts).2
      have within : others = (splitChars (· == '/') rest).reverse ++ names := by
        rw [← List.reverse_reverse others, ← parts, List.reverse_append, List.reverse_reverse]
      refine ⟨⟨_, within.symm⟩, ?_⟩
      intro same
      rw [same] at within
      have none := List.reverse_eq_nil_iff.mp (List.self_eq_append_left.mp within)
      exact splitChars_ne_nil _ _ none
    · intro ⟨⟨inner, whole⟩, apart⟩
      have some_ : inner.reverse ≠ [] := by
        intro none
        rw [List.reverse_eq_nil_iff] at none
        subst none
        exact apart whole
      refine ⟨joined inner.reverse, ?_⟩
      have some' : names.reverse ≠ [] := fun none => root (List.reverse_eq_nil_iff.mp none)
      rw [← whole, text, text, List.reverse_append, joined_append some' some_]
      simp

theorem text_injective (clean : ∀ name ∈ names, Clean name) (clean' : ∀ name ∈ others, Clean name)
    (same : text names = text others) : names = others := by
  have segments : joined names.reverse = joined others.reverse := (List.cons.inj same).2
  have blank := @joined_eq_nil names.reverse fun name mem =>
    (clean name (List.mem_reverse.mp mem)).ne_nil
  have blank' := @joined_eq_nil others.reverse fun name mem =>
    (clean' name (List.mem_reverse.mp mem)).ne_nil
  rw [List.reverse_eq_nil_iff] at blank blank'
  by_cases root : names = []
  · rw [root]
    exact (blank'.mp (segments ▸ blank.mpr root)).symm
  · have root' : others ≠ [] := fun none => root (blank.mp (segments ▸ blank'.mpr none))
    have split := splitChars_text clean root
    rw [same, splitChars_text clean' root'] at split
    exact (List.reverse_inj.mp (List.cons.inj split).2).symm

end texts

/-! ### Where texts lead to -/

section leads
variable {cwd path : List Char}

theorem walk_leading (directory : List Name) (path : List Char) :
    walk directory (moves ('/' :: path)) = walk directory (moves path) := by
  rw [show '/' :: path = [] ++ '/' :: path from rfl, moves_append, moves_nil, walk_append,
    walk_stay]

theorem walk_trailing (directory : List Name) (path : List Char) (trailing : Bool) :
    walk directory (moves (path ++ if trailing then ['/'] else [])) =
      walk directory (moves path) := by
  cases trailing with
  | true => rw [if_pos rfl, moves_append, moves_nil, walk_append, walk_stay]
  | false => rw [if_neg nofun, List.append_nil]

theorem resolve_eq : resolve cwd path = text (directoryOf cwd path) := by
  unfold resolve normalizeString text directoryOf
  congr 3
  by_cases absolute : isAbsolute path = true
  · rw [if_pos absolute, if_pos absolute, walk_eq]
    simp [Route.target]
  · rw [if_neg absolute, if_neg absolute, moves_append, ← walk_append, walk_eq]
    simp [Route.target]

theorem isAbsolute_joined {first : Name} (filled : first ≠ []) (rest : List Name)
    (after : List Char) : isAbsolute (joined (first :: rest) ++ after) = isAbsolute first := by
  obtain ⟨c, name, rfl⟩ := List.exists_cons_of_ne_nil filled
  unfold joined isAbsolute
  cases rest with
  | nil => simp
  | cons second rest => simp [List.intercalate_cons_cons]

/-- The segments of a normal form, as moves. -/
theorem moves_route (path : List Char) :
    (List.replicate (Route.ofMoves (moves path)).ups parent ++
      (Route.ofMoves (moves path)).downs.reverse).map moveOf =
        (Route.ofMoves (moves path)).moves := by
  rw [List.map_append, List.map_replicate, map_moveOf]
  · rfl
  · intro name mem
    exact clean_of_mem_downs (List.mem_reverse.mp mem)

/-- Joined segments of a normal form lead where the form does, also where there are none. -/
theorem walk_joined (directory : List Name) {segments : List Name} {route : Route Name}
    (solid : ∀ segment ∈ segments, '/' ∉ segment) (form : segments.map moveOf = route.moves) :
    walk directory (moves (joined segments)) = route.target directory := by
  have leads : walk directory (segments.map moveOf) = route.target directory := by
    rw [form, walk_eq, ofMoves_moves]
  rw [← leads]
  cases segments with
  | nil => rfl
  | cons first rest => rw [moves_joined solid nofun]

theorem directoryOf_normalize_absolute (absolute : isAbsolute path = true) :
    directoryOf cwd (normalize path) = directoryOf cwd path := by
  have filled : path ≠ [] := by
    rintro rfl
    cases absolute
  have names : ∀ name ∈ (Route.ofMoves (moves path)).downs.reverse, Clean name :=
    fun name mem => clean_of_mem_downs (List.mem_reverse.mp mem)
  have form : (Route.ofMoves (moves path)).downs.reverse.map moveOf =
      Route.moves { ups := 0, downs := (Route.ofMoves (moves path)).downs } := map_moveOf names
  have target : directoryOf cwd path = (Route.ofMoves (moves path)).downs := by
    rw [directoryOf, if_pos absolute, walk_eq]
    simp [Route.target]
  have led := walk_joined [] (fun name mem => (names name mem).2) form
  simp only [Route.target, List.drop_zero, List.append_nil] at led
  have text_ : normalizeString path (!true) = joined (Route.ofMoves (moves path)).downs.reverse :=
    rfl
  rw [normalize, if_neg filled, target]
  simp only [absolute, text_, if_true]
  split
  · next blank =>
    have none := (joined_eq_nil fun name mem => (names name mem).ne_nil).mp blank
    rw [List.reverse_eq_nil_iff.mp none]
    rfl
  · rw [List.append_assoc, List.singleton_append]
    change walk [] _ = _
    rw [walk_leading]
    have trailing := walk_trailing [] (joined (Route.ofMoves (moves path)).downs.reverse)
      (decide (path.getLast? = some '/'))
    simp only [decide_eq_true_eq] at trailing
    rw [trailing, led]

theorem directoryOf_normalize_relative (relative : isAbsolute path = false) :
    directoryOf cwd (normalize path) = directoryOf cwd path := by
  by_cases filled : path = []
  · subst filled
    rfl
  have names : ∀ name ∈ (Route.ofMoves (moves path)).downs.reverse, Clean name :=
    fun name mem => clean_of_mem_downs (List.mem_reverse.mp mem)
  have form := moves_route path
  have text_ : normalizeString path (!false) =
      joined (List.replicate (Route.ofMoves (moves path)).ups parent ++
        (Route.ofMoves (moves path)).downs.reverse) := rfl
  have solid : ∀ segment ∈ List.replicate (Route.ofMoves (moves path)).ups parent ++
      (Route.ofMoves (moves path)).downs.reverse, segment ≠ [] ∧ '/' ∉ segment := by
    intro segment mem
    obtain up | down := List.mem_append.mp mem
    · rw [List.eq_of_mem_replicate up]
      exact ⟨by decide, by decide⟩
    · exact ⟨(names segment down).ne_nil, (names segment down).2⟩
  generalize List.replicate (Route.ofMoves (moves path)).ups parent ++
    (Route.ofMoves (moves path)).downs.reverse = segments at form text_ solid
  have led := walk_joined (walk [] (moves cwd)) (fun name mem => (solid name mem).2) form
  have target : directoryOf cwd path = walk (walk [] (moves cwd)) (moves (joined segments)) := by
    rw [led, directoryOf, if_neg (by rw [relative]; exact nofun), walk_eq]
  rw [normalize, if_neg filled, target]
  simp only [relative, text_, Bool.false_eq_true, if_false, List.nil_append]
  split
  · next blank =>
    have none := (joined_eq_nil fun name mem => (solid name mem).1).mp blank
    rw [none]
    split <;> rfl
  · next some_ =>
    cases segments with
    | nil => exact absurd rfl some_
    | cons first rest =>
      obtain ⟨filled', slash⟩ := solid first List.mem_cons_self
      have trailing := walk_trailing (walk [] (moves cwd)) (joined (first :: rest))
        (decide (path.getLast? = some '/'))
      simp only [decide_eq_true_eq] at trailing
      have inside : isAbsolute first = false := by
        obtain ⟨c, name, rfl⟩ := List.exists_cons_of_ne_nil filled'
        refine decide_eq_false fun same => ?_
        rw [List.head?_cons, Option.some.injEq] at same
        exact slash (same ▸ List.mem_cons_self)
      rw [directoryOf, isAbsolute_joined filled', if_neg (by rw [inside]; exact nofun), trailing]

/-- Normalizing a path does not change where it leads to. -/
theorem directoryOf_normalize : directoryOf cwd (normalize path) = directoryOf cwd path := by
  cases kind : isAbsolute path with
  | true => exact directoryOf_normalize_absolute kind
  | false => exact directoryOf_normalize_relative kind

theorem walk_flatMap_filter (directory : List Name) (parts : List (List Char)) :
    walk directory ((parts.filter (· ≠ [])).flatMap moves) =
      walk directory (parts.flatMap moves) := by
  induction parts generalizing directory with
  | nil => rfl
  | cons part parts ih =>
    rw [List.flatMap_cons, walk_append, ← ih]
    by_cases blank : part = []
    · rw [List.filter_cons_of_neg (by simpa using blank), blank, moves_nil, walk_stay]
    · rw [List.filter_cons_of_pos (by simpa using blank), List.flatMap_cons, walk_append]

/-- Parts joined to a root lead on from where the root leads to. -/
theorem directoryOf_join {root first : List Char} (rest : List (List Char)) (filled : first ≠ [])
    (relative : isAbsolute first = false) :
    directoryOf cwd (join (root :: first :: rest)) =
      walk (directoryOf cwd root) ((first :: rest).flatMap moves) := by
  have kept : (first :: rest).filter (· ≠ []) = first :: rest.filter (· ≠ []) :=
    List.filter_cons_of_pos (by simpa using filled)
  have some_ : (root :: first :: rest).filter (· ≠ []) ≠ [] := by
    intro none
    rw [List.filter_eq_nil_iff] at none
    exact none first (by simp) (by simpa using filled)
  have absolute : isAbsolute (joined ((root :: first :: rest).filter (· ≠ []))) =
      isAbsolute root := by
    by_cases blank : root = []
    · rw [List.filter_cons_of_neg (by simpa using blank), kept, blank]
      have head := isAbsolute_joined filled (rest.filter (· ≠ [])) []
      rw [List.append_nil] at head
      rw [head, relative]
      rfl
    · rw [List.filter_cons_of_pos (by simpa using blank)]
      have head := isAbsolute_joined blank ((first :: rest).filter (· ≠ [])) []
      rwa [List.append_nil] at head
  rw [join, if_neg some_, directoryOf_normalize, directoryOf, absolute, moves_joined_parts some_,
    walk_flatMap_filter, List.flatMap_cons, walk_append]
  rfl

/-- A clean directory is read back from its text. -/
theorem directoryOf_text {names : List Name} (clean : ∀ name ∈ names, Clean name) :
    directoryOf cwd (text names) = names := by
  have reversed : ∀ name ∈ names.reverse, Clean name :=
    fun name mem => clean name (List.mem_reverse.mp mem)
  have form : names.reverse.map moveOf = Route.moves { ups := 0, downs := names } :=
    map_moveOf reversed
  have led := walk_joined [] (fun name mem => (reversed name mem).2) form
  change walk [] (moves ('/' :: joined names.reverse)) = names
  rw [walk_leading, led]
  simp [Route.target]

theorem moves_clean {name : Name} (clean : Clean name) : moves name = [.down name] := by
  have solid : ∀ c ∈ name, (c == '/') = false := by
    intro c inside
    refine beq_eq_false_iff_ne.mpr ?_
    rintro rfl
    exact clean.2 inside
  rw [moves, splitChars_clean (· == '/') solid, List.map_singleton, clean.1]

/-- Only the root's text ends in a separator. -/
theorem text_last_iff {names : List Name} (clean : ∀ name ∈ names, Clean name) :
    (text names).getLast? = some '/' ↔ names = [] := by
  constructor
  · intro last
    by_contra filled
    obtain ⟨front, whole⟩ := List.getLast?_eq_some_iff.mp last
    have split := splitChars_text clean filled
    rw [whole, splitChars_append_sep (· == '/') rfl] at split
    have blank : [] ∈ names := by
      obtain ⟨first, rest, is⟩ := List.exists_cons_of_ne_nil filled
      have ends := congrArg List.getLast? split
      rw [is, List.reverse_cons, ← List.cons_append, List.getLast?_concat] at ends
      simp only [splitChars, List.getLast?_concat, Option.some.injEq] at ends
      rw [is, ← ends]
      exact List.mem_cons_self
    exact (clean [] blank).ne_nil rfl
  · rintro rfl
    rfl

end leads

/-! ### Characters -/

section characters
variable {c : Char}

theorem mem_joined {segments : List Name} (mem : c ∈ joined segments) :
    c = '/' ∨ ∃ segment ∈ segments, c ∈ segment := by
  induction segments with
  | nil => cases mem
  | cons first rest ih =>
    unfold joined at mem
    cases rest with
    | nil =>
      rw [List.intercalate_singleton] at mem
      exact .inr ⟨first, List.mem_cons_self, mem⟩
    | cons second rest =>
      rw [List.intercalate_cons_cons, List.append_assoc] at mem
      obtain here | later := List.mem_append.mp mem
      · exact .inr ⟨first, List.mem_cons_self, here⟩
      · obtain rfl | later := List.mem_cons.mp later
        · exact .inl rfl
        · obtain slash | ⟨segment, listed, inside⟩ := ih later
          · exact .inl slash
          · exact .inr ⟨segment, List.mem_cons_of_mem _ listed, inside⟩

theorem mem_of_down {path : List Char} {name : Name} (mem : .down name ∈ moves path)
    (inside : c ∈ name) : c ∈ path :=
  (mem_part_of_splitChars (down_mem_moves mem).1 inside).1

theorem mem_normalizeString {path : List Char} {above : Bool}
    (mem : c ∈ normalizeString path above) : c ∈ path ∨ c = '/' ∨ c = '.' := by
  obtain slash | ⟨segment, listed, inside⟩ := mem_joined mem
  · exact .inr (.inl slash)
  · obtain up | down := List.mem_append.mp listed
    · split at up
      · rw [List.eq_of_mem_replicate up] at inside
        simp only [parent, List.mem_cons, List.not_mem_nil, or_false, or_self] at inside
        exact .inr (.inr inside)
      · cases up
    · exact .inl (mem_of_down (mem_downs (List.mem_reverse.mp down)) inside)

theorem mem_normalize {path : List Char} (mem : c ∈ normalize path) :
    c ∈ path ∨ c = '/' ∨ c = '.' := by
  unfold normalize at mem
  split at mem
  · exact .inr (.inr (List.mem_singleton.mp mem))
  · dsimp only at mem
    split at mem
    · split at mem
      · exact .inr (.inl (List.mem_singleton.mp mem))
      · split at mem
        · simp only [List.mem_cons, List.not_mem_nil, or_false] at mem
          exact .inr mem.symm
        · exact .inr (.inr (List.mem_singleton.mp mem))
    · simp only [List.mem_append] at mem
      obtain (leading | inside) | trailing := mem
      · split at leading
        · exact .inr (.inl (List.mem_singleton.mp leading))
        · cases leading
      · exact mem_normalizeString inside
      · split at trailing
        · exact .inr (.inl (List.mem_singleton.mp trailing))
        · cases trailing

theorem mem_join {parts : List (List Char)} (mem : c ∈ join parts) :
    (∃ part ∈ parts, c ∈ part) ∨ c = '/' ∨ c = '.' := by
  unfold join at mem
  dsimp only at mem
  split at mem
  · exact .inr (.inr (List.mem_singleton.mp mem))
  · obtain inside | other := mem_normalize mem
    · obtain slash | ⟨part, listed, inside⟩ := mem_joined inside
      · exact .inr (.inl slash)
      · exact .inl ⟨part, List.mem_of_mem_filter listed, inside⟩
    · exact .inr other

/-- What stands in a name of a directory stands in one of the two texts. -/
theorem mem_directoryOf {cwd path : List Char} {name : Name} (listed : name ∈ directoryOf cwd path)
    (inside : c ∈ name) : c ∈ cwd ∨ c ∈ path := by
  obtain before | down := mem_walk listed
  · split at before
    · cases before
    · obtain none | down := mem_walk before
      · cases none
      · exact .inl (mem_of_down down inside)
  · exact .inr (mem_of_down down inside)

theorem mem_text_iff {names : List Name} (apart : c ≠ '/') :
    c ∈ text names ↔ ∃ name ∈ names, c ∈ name := by
  have parts (segments : List Name) :
      c ∈ joined segments ↔ ∃ segment ∈ segments, c ∈ segment := by
    constructor
    · intro mem
      exact (mem_joined mem).resolve_left apart
    · rintro ⟨segment, listed, inside⟩
      induction segments with
      | nil => cases listed
      | cons first rest ih =>
        unfold joined at ih ⊢
        obtain rfl | later := List.mem_cons.mp listed
        · cases rest with
          | nil => rwa [List.intercalate_singleton]
          | cons second rest =>
            rw [List.intercalate_cons_cons, List.append_assoc]
            exact List.mem_append_left _ inside
        · rw [List.intercalate_cons_of_ne_nil (List.ne_nil_of_mem later)]
          exact List.mem_append_right _ (ih later)
  unfold text
  rw [List.mem_cons, parts]
  simp [apart]

end characters

end Vespid.NodeAgent.Path
