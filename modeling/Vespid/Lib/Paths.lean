import Mathlib.Data.List.Basic

/-!
# Paths

A path is a list of moves from a directory: staying, going up, going down by a name. A directory is
the list of the names that lead to it, the last one first. Every list of moves comes to the same as
going up a number of times and then down by some names.
-/

namespace Paths
variable {α : Type}

inductive Move (α : Type) where
  | stay
  | up
  | down (name : α)
  deriving DecidableEq

/-- At the root, going up leads nowhere. -/
def step (directory : List α) : Move α → List α
  | .stay => directory
  | .up => directory.tail
  | .down name => name :: directory

def walk (directory : List α) (moves : List (Move α)) : List α := moves.foldl step directory

/-- Up and then down, the last name first. -/
structure Route (α : Type) where
  ups : Nat
  downs : List α
  deriving DecidableEq

namespace Route

def start : Route α := { ups := 0, downs := [] }

def step (route : Route α) : Move α → Route α
  | .stay => route
  | .up =>
    match route.downs with
    | [] => { route with ups := route.ups + 1 }
    | _ :: downs => { route with downs }
  | .down name => { route with downs := name :: route.downs }

/-- The normal form of a list of moves. -/
def ofMoves (moves : List (Move α)) : Route α := moves.foldl step start

def moves (route : Route α) : List (Move α) :=
  List.replicate route.ups .up ++ route.downs.reverse.map .down

/-- Where a route leads to. -/
def target (directory : List α) (route : Route α) : List α := route.downs ++ directory.drop route.ups

/-- The names a route that comes back to a directory goes down by from there. -/
def within (directory : List α) (route : Route α) : List α :=
  route.downs.take (route.downs.length - min route.ups directory.length)

end Route

@[simp] theorem walk_nil (directory : List α) : walk directory [] = directory := rfl

@[simp] theorem walk_append (directory : List α) (first rest : List (Move α)) :
    walk directory (first ++ rest) = walk (walk directory first) rest := List.foldl_append

theorem target_step (directory : List α) (route : Route α) (move : Move α) :
    (route.step move).target directory = step (route.target directory) move := by
  cases move with
  | stay => rfl
  | down name => rfl
  | up =>
    obtain ⟨ups, downs⟩ := route
    cases downs with
    | nil => simp [Route.step, Route.target, step]
    | cons name downs => rfl

theorem target_foldl (directory : List α) (moves : List (Move α)) (route : Route α) :
    (moves.foldl Route.step route).target directory = walk (route.target directory) moves := by
  induction moves generalizing route with
  | nil => rfl
  | cons move moves ih =>
    rw [List.foldl_cons, ih, target_step]
    rfl

/-- A walk goes where its normal form leads to. -/
theorem walk_eq (directory : List α) (moves : List (Move α)) :
    walk directory moves = (Route.ofMoves moves).target directory :=
  (target_foldl directory moves .start).symm

theorem foldl_downs (route : Route α) (names : List α) :
    (names.map Move.down).foldl Route.step route =
      { route with downs := names.reverse ++ route.downs } := by
  induction names generalizing route with
  | nil => rfl
  | cons name names ih =>
    rw [List.map_cons, List.foldl_cons, ih]
    simp [Route.step]

theorem foldl_ups (n m : Nat) :
    (List.replicate n (Move.up : Move α)).foldl Route.step { ups := m, downs := [] } =
      { ups := m + n, downs := [] } := by
  induction n generalizing m with
  | zero => rfl
  | succ n ih =>
    rw [List.replicate_succ, List.foldl_cons]
    refine (ih (m + 1)).trans ?_
    rw [Nat.add_assoc, Nat.add_comm 1 n]

/-- A normal form is its own. -/
theorem ofMoves_moves (route : Route α) : Route.ofMoves route.moves = route := by
  have ups := foldl_ups (α := α) route.ups 0
  rw [Nat.zero_add] at ups
  change (List.replicate route.ups Move.up ++ route.downs.reverse.map Move.down).foldl Route.step
    { ups := 0, downs := [] } = route
  rw [List.foldl_append, ups, foldl_downs, List.reverse_reverse, List.append_nil]

/-- Every name on the way was gone down by or was there. -/
theorem mem_walk {directory : List α} {moves : List (Move α)} {name : α}
    (mem : name ∈ walk directory moves) : name ∈ directory ∨ .down name ∈ moves := by
  induction moves generalizing directory with
  | nil => exact .inl mem
  | cons move moves ih =>
    obtain before | later := ih mem
    · cases move with
      | stay => exact .inl before
      | up => exact .inl (List.mem_of_mem_tail before)
      | down other =>
        obtain rfl | old := List.mem_cons.mp before
        · exact .inr List.mem_cons_self
        · exact .inl old
    · exact .inr (List.mem_cons_of_mem _ later)

theorem mem_downs {moves : List (Move α)} {name : α} (mem : name ∈ (Route.ofMoves moves).downs) :
    .down name ∈ moves := by
  have walked : name ∈ walk [] moves := by
    rw [walk_eq]
    exact List.mem_append_left _ mem
  obtain here | listed := mem_walk walked
  · cases here
  · exact listed

/-! ### Directories below others -/

section below
variable {directory other : List α} {route : Route α}

/-- A route leads into the directory it starts from if it comes down by the names it went up by. -/
theorem suffix_target_iff :
    directory <:+ route.target directory ↔ directory.take route.ups <:+ route.downs := by
  have split : directory.take route.ups ++ directory.drop route.ups = directory :=
    List.take_append_drop ..
  unfold Route.target
  constructor
  · intro ⟨above, same⟩
    have rest : above ++ directory.take route.ups ++ directory.drop route.ups =
        route.downs ++ directory.drop route.ups := by
      rw [List.append_assoc, split, same]
    exact ⟨above, List.append_cancel_right rest⟩
  · intro ⟨above, same⟩
    have rest : above ++ (directory.take route.ups ++ directory.drop route.ups) =
        route.downs ++ directory.drop route.ups := by
      rw [← List.append_assoc, same]
    rw [split] at rest
    exact ⟨above, rest⟩

theorem target_eq_within (back : directory.take route.ups <:+ route.downs) :
    route.target directory = route.within directory ++ directory := by
  obtain ⟨above, same⟩ := back
  have names : route.within directory = above := by
    unfold Route.within
    rw [← same, List.length_append, List.length_take, Nat.add_sub_cancel, List.take_left']
    rfl
  rw [names, Route.target, ← same, List.append_assoc, List.take_append_drop]

/-- A route from a directory within another one leads back into that one. -/
theorem suffix_target_within_iff (inner : List α) :
    directory <:+ route.target (inner ++ directory) ↔
      directory.take (route.ups - inner.length) <:+ route.downs := by
  by_cases short : route.ups ≤ inner.length
  · have stays : route.target (inner ++ directory) =
        (route.downs ++ inner.drop route.ups) ++ directory := by
      rw [Route.target, List.drop_append_of_le_length short, List.append_assoc]
    rw [stays, Nat.sub_eq_zero_of_le short, List.take_zero]
    exact iff_of_true (List.suffix_append ..) (List.nil_suffix)
  · have leaves : route.target (inner ++ directory) =
        Route.target directory { route with ups := route.ups - inner.length } := by
      rw [Route.target, List.drop_append, List.drop_eq_nil_of_le (by omega), List.nil_append]
      rfl
    rw [leaves, suffix_target_iff]

/-- Strictly below a directory is what lies in it. -/
theorem below_cons_iff {name : α} :
    (directory <:+ name :: other ∧ directory ≠ name :: other) ↔ directory <:+ other := by
  rw [List.suffix_cons_iff]
  constructor
  · intro ⟨within, apart⟩
    exact within.resolve_left apart
  · intro within
    refine ⟨.inr within, ?_⟩
    rintro rfl
    have short := within.length_le
    rw [List.length_cons] at short
    omega

theorem cons_suffix_append_iff {name name' : α} {names names' : List α} :
    name :: (names ++ directory) <:+ name' :: (names' ++ directory) ↔
      (name = name' ∧ names = names') ∨ name :: names <:+ names' := by
  rw [← List.cons_append, ← List.cons_append, List.suffix_append_self_iff, List.suffix_cons_iff,
    List.cons.injEq]

end below

end Paths
