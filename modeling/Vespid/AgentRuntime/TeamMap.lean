import Mathlib.Data.List.Nodup
import Vespid.AgentRuntime.Tools

/-!
# Tasks of a team in parallel

`runWithConcurrency` starts a number of workers that share one index. A worker takes the next item
and awaits its run; while one worker awaits, others go on. Runs end in any order, and a run that
throws ends its worker.
-/

namespace Vespid.AgentRuntime.TeamMap

section pool
variable {T R : Type}

/-- The state between two completions. A worker that has returned is not listed. -/
structure Pool (T R : Type) where
  nextIndex : Nat
  /-- the indices whose runs are awaited -/
  running : List Nat
  /-- the calls of `run` so far, with their arguments -/
  started : List (T × Nat)
  /-- `new Array(items.length)` -/
  results : List (Option R)

/-- How an awaited run ends. -/
inductive Ending (R : Type) where
  | completes (index : Nat) (result : R)
  | throws (index : Nat)

def Ending.index : Ending R → Nat
  | completes index _ => index
  | throws index => index

/-- A worker from the head of its loop to its next `await`, or to its return. -/
def worker (items : List T) (pool : Pool T R) : Pool T R :=
  let idx := pool.nextIndex
  match items[idx]? with
  | none => { pool with nextIndex := idx + 1 }
  | some item =>
    { pool with
      nextIndex := idx + 1
      running := pool.running ++ [idx]
      started := pool.started ++ [(item, idx)] }

/-- The workers are started one after the other, each up to its first `await`. -/
def startWorkers (items : List T) : (workers : Nat) → Pool T R
  | 0 => { nextIndex := 0, running := [], started := [],
           results := List.replicate items.length none }
  | workers + 1 => worker items (startWorkers items workers)

def step (items : List T) (pool : Pool T R) (ending : Ending R) : Option (Pool T R) :=
  if ending.index ∈ pool.running then
    let waiting := { pool with running := pool.running.erase ending.index }
    match ending with
    | .completes index result =>
      some (worker items { waiting with results := pool.results.set index (some result) })
    | .throws _ => some waiting
  else none

/-- `runWithConcurrency` after some runs have ended, in this order. -/
inductive Reached (items : List T) (maxParallel : Nat) : List (Ending R) → Pool T R → Prop where
  | launch : Reached items maxParallel [] (startWorkers items (min maxParallel items.length))
  | settle {endings pool next} (ending : Ending R) : Reached items maxParallel endings pool →
      step items pool ending = some next → Reached items maxParallel (endings ++ [ending]) next

def NoThrow (endings : List (Ending R)) : Prop := ∀ index, Ending.throws index ∉ endings

/-- All workers have returned and none by an exception: `runWithConcurrency` returns. -/
def Returned (endings : List (Ending R)) (pool : Pool T R) : Prop :=
  pool.running = [] ∧ NoThrow endings

/-- The items are started in order and a run is awaited until it ends. `free` workers are about to
take an item; any other worker is missing only where the items are used up or a run threw. -/
structure Inv (items : List T) (workers free : Nat) (endings : List (Ending R))
    (pool : Pool T R) : Prop where
  started : pool.started = items.zipIdx.take pool.nextIndex
  bounded : pool.running.length + free ≤ workers
  awaited : ∀ index, index ∈ pool.running ↔
    index < min pool.nextIndex items.length ∧ index ∉ endings.map Ending.index
  once : pool.running.Nodup
  ended : ∀ ending ∈ endings, ending.index < min pool.nextIndex items.length
  busy : NoThrow endings → pool.running.length + free < workers → items.length ≤ pool.nextIndex
  size : pool.results.length = items.length
  results : ∀ index result, pool.results[index]? = some (some result) ↔
    Ending.completes index result ∈ endings

variable {items : List T} {pool : Pool T R} {endings : List (Ending R)} {workers : Nat}

theorem worker_returns (none : items.length ≤ pool.nextIndex) :
    worker items pool = { pool with nextIndex := pool.nextIndex + 1 } := by
  simp only [worker, List.getElem?_eq_none none]

theorem worker_takes (more : pool.nextIndex < items.length) :
    worker items pool =
      { pool with
        nextIndex := pool.nextIndex + 1
        running := pool.running ++ [pool.nextIndex]
        started := pool.started ++ [(items[pool.nextIndex], pool.nextIndex)] } := by
  simp only [worker, List.getElem?_eq_getElem more]

theorem worker_inv (inv : Inv items workers 1 endings pool) :
    Inv items workers 0 endings (worker items pool) := by
  have room := inv.bounded
  by_cases more : pool.nextIndex < items.length
  · rw [worker_takes more]
    have fresh : pool.nextIndex ∉ endings.map Ending.index := by
      intro ended
      obtain ⟨ending, member, same⟩ := List.mem_map.mp ended
      have := inv.ended ending member
      omega
    constructor
    · simp only [inv.started]
      rw [List.take_add_one, List.getElem?_zipIdx, List.getElem?_eq_getElem more]
      simp
    · simp only [List.length_append, List.length_singleton]
      omega
    · intro index
      simp only [List.mem_append, List.mem_singleton, inv.awaited index]
      constructor
      · intro taken
        obtain ⟨before, waits⟩ | rfl := taken
        · exact ⟨by omega, waits⟩
        · exact ⟨by omega, fresh⟩
      · intro ⟨before, waits⟩
        by_cases last : index = pool.nextIndex
        · exact .inr last
        · exact .inl ⟨by omega, waits⟩
    · rw [List.nodup_append]
      refine ⟨inv.once, List.nodup_singleton _, ?_⟩
      intro index waits other same
      have := ((inv.awaited index).mp waits).1
      rw [List.mem_singleton] at same
      omega
    · intro ending member
      have := inv.ended ending member
      simp only
      omega
    · intro quiet missing
      simp only [List.length_append, List.length_singleton] at missing
      have := inv.busy quiet (by omega)
      omega
    · exact inv.size
    · exact inv.results
  · rw [worker_returns (by omega)]
    constructor
    · simp only [inv.started]
      rw [List.take_of_length_le (by rw [List.length_zipIdx]; omega),
        List.take_of_length_le (by rw [List.length_zipIdx]; omega)]
    · simp only
      omega
    · intro index
      simp only [inv.awaited index]
      rw [Nat.min_eq_right (by omega), Nat.min_eq_right (by omega)]
    · exact inv.once
    · intro ending member
      have := inv.ended ending member
      simp only
      omega
    · intro _ _
      simp only
      omega
    · exact inv.size
    · exact inv.results

theorem startWorkers_inv (items : List T) (workers : Nat) :
    Inv (R := R) items workers 0 [] (startWorkers items workers) := by
  induction workers with
  | zero =>
    refine ⟨by simp [startWorkers], by simp [startWorkers], by simp [startWorkers],
      by simp [startWorkers], by simp, ?_, by simp [startWorkers], ?_⟩
    · intro _ missing
      omega
    · intro index result
      simp only [startWorkers, List.getElem?_replicate, List.not_mem_nil, iff_false]
      split <;> simp
  | succ workers ih =>
    have room := ih.bounded
    apply worker_inv
    exact { ih with
      bounded := by omega
      busy := by
        intro quiet missing
        exact ih.busy quiet (by omega) }

theorem Inv.fresh (inv : Inv items workers 0 endings pool) {index : Nat}
    (waits : index ∈ pool.running) : index ∉ endings.map Ending.index :=
  ((inv.awaited index).mp waits).2

theorem Inv.listed (inv : Inv items workers 0 endings pool) {index : Nat}
    (waits : index ∈ pool.running) : index < min pool.nextIndex items.length :=
  ((inv.awaited index).mp waits).1

/-- What remains to be awaited once the run of one index has ended. -/
theorem Inv.erase_awaited (inv : Inv items workers 0 endings pool) (ending : Ending R)
    (index : Nat) : index ∈ pool.running.erase ending.index ↔
      index < min pool.nextIndex items.length ∧
        index ∉ (endings ++ [ending]).map Ending.index := by
  rw [inv.once.mem_erase_iff, inv.awaited index, List.map_append, List.mem_append]
  simp only [List.map_cons, List.map_nil, List.mem_singleton, not_or]
  tauto

theorem Inv.append_ended (inv : Inv items workers 0 endings pool) (ending : Ending R)
    (waits : ending.index ∈ pool.running) :
    ∀ other ∈ endings ++ [ending], other.index < min pool.nextIndex items.length := by
  intro other member
  obtain before | last := List.mem_append.mp member
  · exact inv.ended other before
  · rw [List.mem_singleton.mp last]
    exact inv.listed waits

/-- The pool after a run has completed, before its worker goes on. -/
theorem completes_inv {index : Nat} (result : R) (inv : Inv items workers 0 endings pool)
    (waits : index ∈ pool.running) :
    Inv items workers 1 (endings ++ [.completes index result])
      { pool with
        running := pool.running.erase index
        results := pool.results.set index (some result) } := by
  have shorter := List.length_erase_of_mem waits
  have filled := List.length_pos_of_mem waits
  have room := inv.bounded
  constructor
  · exact inv.started
  · simp only
    omega
  · exact inv.erase_awaited (.completes index result)
  · exact inv.once.erase index
  · exact inv.append_ended (.completes index result) waits
  · intro quiet missing
    simp only at missing
    apply inv.busy
    · intro other thrown
      exact quiet other (List.mem_append_left _ thrown)
    · omega
  · simp only [List.length_set]
    exact inv.size
  · intro other value
    have listed := inv.listed waits
    rw [List.getElem?_set, List.mem_append, List.mem_singleton]
    by_cases same : index = other
    · subst same
      have fresh : Ending.completes index value ∉ endings := by
        intro before
        exact inv.fresh waits (List.mem_map_of_mem before)
      have inside : index < pool.results.length := by
        rw [inv.size]
        omega
      simp only [↓reduceIte, inside, Option.some.injEq, fresh, false_or, Ending.completes.injEq,
        true_and]
      exact eq_comm
    · simp only [same, ↓reduceIte, Ending.completes.injEq, Ne.symm same, false_and, or_false]
      exact inv.results other value

/-- A run that throws takes its worker with it. -/
theorem throws_inv {index : Nat} (inv : Inv items workers 0 endings pool)
    (waits : index ∈ pool.running) :
    Inv items workers 0 (endings ++ [.throws index])
      { pool with running := pool.running.erase index } := by
  have shorter := List.length_erase_of_mem waits
  have room := inv.bounded
  constructor
  · exact inv.started
  · simp only
    omega
  · exact inv.erase_awaited (.throws index)
  · exact inv.once.erase index
  · exact inv.append_ended (.throws index) waits
  · intro quiet
    exact absurd List.mem_concat_self (quiet index)
  · exact inv.size
  · intro other value
    rw [inv.results other value]
    simp

theorem step_inv {ending : Ending R} {next : Pool T R} (inv : Inv items workers 0 endings pool)
    (stepped : step items pool ending = some next) :
    Inv items workers 0 (endings ++ [ending]) next := by
  unfold step at stepped
  by_cases waits : ending.index ∈ pool.running
  · rw [if_pos waits] at stepped
    cases ending with
    | completes index result =>
      cases stepped
      exact worker_inv (completes_inv result inv waits)
    | throws index =>
      cases stepped
      exact throws_inv inv waits
  · rw [if_neg waits] at stepped
    cases stepped

theorem reached_inv {maxParallel : Nat} (reached : Reached items maxParallel endings pool) :
    Inv items (min maxParallel items.length) 0 endings pool := by
  induction reached with
  | launch => exact startWorkers_inv items _
  | settle ending _ stepped ih => exact step_inv ih stepped

/-! ### What the caller gets -/

/-- The runs are calls for the items in order, no item twice and at most `maxParallel` at a time;
when `runWithConcurrency` returns, every item had its run and its result stands in its place. -/
structure Delivers (items : List T) (maxParallel : Nat) (endings : List (Ending R))
    (pool : Pool T R) : Prop where
  started : pool.started <+: items.zipIdx
  bounded : pool.running.length ≤ maxParallel
  complete : Returned endings pool → pool.started = items.zipIdx
  placed : Returned endings pool → pool.results.length = items.length ∧
    ∀ index < items.length, ∃ result,
      pool.results[index]? = some (some result) ∧ Ending.completes index result ∈ endings

theorem used_up {maxParallel : Nat} (some : 1 ≤ maxParallel ∨ items = [])
    (inv : Inv items (min maxParallel items.length) 0 endings pool)
    (returned : Returned endings pool) : items.length ≤ pool.nextIndex := by
  obtain ⟨none, quiet⟩ := returned
  by_cases empty : items.length = 0
  · omega
  · obtain some | nil := some
    · apply inv.busy quiet
      rw [none, List.length_nil]
      omega
    · simp [nil] at empty

theorem delivers {maxParallel : Nat} (some : 1 ≤ maxParallel ∨ items = [])
    (reached : Reached items maxParallel endings pool) :
    Delivers items maxParallel endings pool := by
  have inv := reached_inv reached
  have room := inv.bounded
  constructor
  · rw [inv.started]
    exact List.take_prefix _ _
  · omega
  · intro returned
    rw [inv.started]
    apply List.take_of_length_le
    rw [List.length_zipIdx]
    exact used_up some inv returned
  · intro returned
    refine ⟨inv.size, ?_⟩
    intro index listed
    have all := used_up some inv returned
    have ended : index ∈ endings.map Ending.index := by
      by_contra waits
      have awaited := (inv.awaited index).mpr ⟨by omega, waits⟩
      rw [returned.1] at awaited
      cases awaited
    obtain ⟨ending, member, same⟩ := List.mem_map.mp ended
    cases ending with
    | completes other result =>
      obtain rfl : other = index := same
      exact ⟨result, (inv.results other result).mpr member, member⟩
    | throws other => exact absurd member (returned.2 other)

theorem startWorkers_running (items : List T) (workers : Nat) (few : workers ≤ items.length) :
    (startWorkers (R := R) items workers).nextIndex = workers ∧
      (startWorkers (R := R) items workers).running = List.range workers := by
  induction workers with
  | zero => exact ⟨rfl, rfl⟩
  | succ workers ih =>
    obtain ⟨next, running⟩ := ih (by omega)
    rw [startWorkers, worker_takes (by omega)]
    exact ⟨by simp only [next], by simp only [next, running, List.range_succ]⟩

/-- With nobody to take them, no item is started. -/
theorem some_of_delivers {maxParallel : Nat}
    (all : ∀ endings (pool : Pool T R), Reached items maxParallel endings pool →
      Delivers items maxParallel endings pool) : 1 ≤ maxParallel ∨ items = [] := by
  by_contra none
  obtain ⟨zero, filled⟩ := not_or.mp none
  obtain rfl : maxParallel = 0 := by omega
  have complete := (all [] _ .launch).complete
  rw [Nat.zero_min] at complete
  have started := complete ⟨rfl, fun _ => List.not_mem_nil⟩
  apply filled
  apply List.length_eq_zero_iff.mp
  rw [← List.length_zipIdx, ← started]
  rfl

end pool

/-- The bound that `team.map` hands on. -/
def mapParallel (args : MapArgs) (team : Team) : Nat :=
  max 1 (min 16 (args.maxParallel.getD team.maxParallel))

/-- The bounds of the configuration schema. -/
structure Team.Valid (team : Team) : Prop where
  pos : 1 ≤ team.maxParallel
  le : team.maxParallel ≤ 16

theorem isInteger_toNat {min max : Nat} {n : Rat} (integer : isInteger min max (.num n) = true) :
    min ≤ n.num.toNat ∧ n.num.toNat ≤ max := by
  simp only [isInteger, Bool.and_eq_true, decide_eq_true_eq] at integer
  obtain ⟨⟨whole, low⟩, high⟩ := integer
  rw [Rat.eq_num_of_isInt whole] at low high
  have low : (min : Int) ≤ n.num := by exact_mod_cast low
  have high : n.num ≤ (max : Int) := by exact_mod_cast high
  omega

theorem parseMapArgs_bounds {fields : List (String × Json)} {args : MapArgs}
    (parsed : parseMapArgs fields = some args) {m : Nat} (given : args.maxParallel = some m) :
    1 ≤ m ∧ m ≤ 16 := by
  unfold parseMapArgs at parsed
  split at parsed
  · rename_i items tasks checked
    split at parsed
    · cases parsed
    · obtain ⟨parsedTasks, _, rfl⟩ := Option.map_eq_some_iff.mp parsed
      simp only at given
      cases wanted : fields.lookup "maxParallel" with
      | none => simp [wanted] at given
      | some value =>
        cases value with
        | num n =>
          simp only [wanted, Option.some.injEq] at given
          rw [← given]
          simp only [optional, wanted] at checked
          exact isInteger_toNat checked
        | _ => simp [wanted] at given
  · cases parsed

/-- The call asks for no more than the team allows, or has no more tasks than that. -/
def WithinTeam (args : MapArgs) (team : Team) : Prop :=
  (∀ m, args.maxParallel = some m → m ≤ team.maxParallel) ∨
    args.tasks.length ≤ team.maxParallel

theorem mapParallel_le_iff {args : MapArgs} {team : Team} (valid : Team.Valid team)
    (bounds : ∀ m, args.maxParallel = some m → 1 ≤ m ∧ m ≤ 16) :
    min (mapParallel args team) args.tasks.length ≤ team.maxParallel ↔ WithinTeam args team := by
  have low := valid.pos
  have high := valid.le
  unfold mapParallel WithinTeam
  cases given : args.maxParallel with
  | none => simp; omega
  | some m =>
    have := bounds m given
    simp only [Option.getD_some, Option.some.injEq, forall_eq']
    omega

/-- `runWithConcurrency` keeps its promises for every bound that is not zero; `team.map` stays
within the team's bound only where the call does. -/
theorem team_map_parallel (T R : Type) (items : List T) (maxParallel : Nat)
    (fields : List (String × Json)) (args : MapArgs) (team : Team)
    (parsed : parseMapArgs fields = some args) (valid : Team.Valid team) :
    ((∀ endings (pool : Pool T R), Reached items maxParallel endings pool →
        Delivers items maxParallel endings pool) ↔ 1 ≤ maxParallel ∨ items = []) ∧
    ((∀ endings (pool : Pool DelegateArgs Json),
        Reached args.tasks (mapParallel args team) endings pool →
          pool.running.length ≤ team.maxParallel) ↔ WithinTeam args team) := by
  refine ⟨⟨some_of_delivers, fun some endings pool => delivers some⟩, ?_⟩
  rw [← mapParallel_le_iff valid fun m => parseMapArgs_bounds parsed]
  constructor
  · intro within
    have launched := within [] _ .launch
    rwa [(startWorkers_running args.tasks _ (Nat.min_le_right _ _)).2, List.length_range]
      at launched
  · intro few endings pool reached
    have := (reached_inv reached).bounded
    omega

def teamOfTwo : Team where
  maxParallel := 2
  teammates := []

theorem teamOfTwo_valid : Team.Valid teamOfTwo := ⟨by decide, by decide⟩

def threeTasks (maxParallel : Nat) : List (String × Json) :=
  [("tasks", .arr (["a", "b", "c"].map fun task =>
      .obj [("teammateId", .str "researcher"), ("task", .str task)])),
    ("maxParallel", .num maxParallel)]

def threeTaskArgs (maxParallel : Nat) : MapArgs where
  tasks := ["a", "b", "c"].map fun task => { teammateId := "researcher", task, input := none }
  maxParallel := some maxParallel

/-- A call that asks for two at a time stays within the team. -/
theorem team_map_parallel_two :
    WithinTeam (threeTaskArgs 2) teamOfTwo ∧
      ∀ endings (pool : Pool DelegateArgs Json),
        Reached (threeTaskArgs 2).tasks (mapParallel (threeTaskArgs 2) teamOfTwo) endings pool →
          pool.running.length ≤ teamOfTwo.maxParallel := by
  have within : WithinTeam (threeTaskArgs 2) teamOfTwo :=
    .inl (by simp [threeTaskArgs, teamOfTwo])
  exact ⟨within, (team_map_parallel Nat Nat [] 1 (threeTasks 2) (threeTaskArgs 2) teamOfTwo rfl
    teamOfTwo_valid).2.mpr within⟩

/-- A team of two runs three tasks at a time. -/
theorem team_of_two_exceeded :
    parseMapArgs (threeTasks 16) = some (threeTaskArgs 16) ∧ Team.Valid teamOfTwo ∧
      ∃ endings, ∃ pool : Pool DelegateArgs Json,
        Reached (threeTaskArgs 16).tasks (mapParallel (threeTaskArgs 16) teamOfTwo) endings pool ∧
          teamOfTwo.maxParallel < pool.running.length :=
  ⟨rfl, teamOfTwo_valid, [], _, .launch, by decide⟩

end Vespid.AgentRuntime.TeamMap
