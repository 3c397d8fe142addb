import Mathlib.Data.List.Induction
import Mathlib.Data.Rat.Floor
import Vespid.Js
import Vespid.Lib.Ranking
import Vespid.Scheduler.Cron

/-!
# The memory of an agent

The builtin memory keeps an index of the markdown files of a workspace, as they were when it was
last synced, and answers searches and reads from it. The `qmd` memory asks an external command and
falls back on a builtin one.
-/

namespace Vespid.AgentRuntime.Memory

/-- An entry of a directory: a file with its text, if that can be read, a directory that can be
listed, or anything else. -/
inductive Entry where
  | file (text : Option (List Char))
  | directory (entries : List (String × Entry))
  | other

/-- What `MEMORY.md` reads, if it is a file, and the entries of the directory `memory`. -/
structure Workspace where
  main : Option (List Char)
  memory : List (String × Entry)

/-- Operations of the language runtime. -/
structure Host where
  toLowerCase : List Char → List Char
  localeCompare : String → String → Ordering

structure IndexedFile where
  relativePath : String
  lines : List (List Char)
  deriving DecidableEq

abbrev Index := List IndexedFile

structure MemorySearchResult where
  path : String
  snippet : List Char
  lineStart : Nat
  lineEnd : Nat
  score : Nat
  deriving DecidableEq

structure MemoryGetResult where
  path : String
  text : List Char
  lineStart : Nat
  lineEnd : Nat
  deriving DecidableEq

/-! ### The files -/

/-- `s.replace(/\\/g, "/")` -/
def slashed (s : String) : String :=
  String.ofList (s.toList.map fun c => if c = '\\' then '/' else c)

variable (host : Host)

def isMarkdown (name : String) : Bool :=
  ".md".toList.isSuffixOf (host.toLowerCase name.toList)

mutual

/-- The markdown files under `dir`, a path from the workspace, with their texts. -/
def walk (dir : String) : List (String × Entry) → List (String × Option (List Char))
  | [] => []
  | (name, entry) :: rest => walkEntry (dir ++ "/" ++ name) name entry ++ walk dir rest

def walkEntry (path name : String) : Entry → List (String × Option (List Char))
  | .directory entries => walk path entries
  | .file text => if isMarkdown host name then [(slashed path, text)] else []
  | .other => []

end

def listMemoryFiles (workspace : Workspace) : List (String × Option (List Char)) :=
  (workspace.main.toList.map (fun text => ("MEMORY.md", some text)) ++
    walk host "memory" workspace.memory).mergeSort
      fun a b => (host.localeCompare a.1 b.1).isLE

/-- `text.split(/\r?\n/)` -/
def splitLines : List Char → List (List Char)
  | [] => [[]]
  | '\r' :: '\n' :: rest => [] :: splitLines rest
  | '\n' :: rest => [] :: splitLines rest
  | c :: rest =>
    match splitLines rest with
    | [] => [[c]]
    | line :: lines => (c :: line) :: lines

/-- `lines.join("\n")` -/
def joinLines (lines : List (List Char)) : List Char := ['\n'].intercalate lines

/-- The index that a sync builds. -/
def syncIndex (workspace : Workspace) : Index :=
  (listMemoryFiles host workspace).filterMap fun entry =>
    entry.2.map fun text => { relativePath := entry.1, lines := splitLines text }

/-! ### Searches -/

/-- `value` of type number, unless it is not finite. -/
def clampInt (value : Option Rat) (fallback min max : Int) : Int :=
  match value with
  | none => fallback
  | some value => Max.max min (Min.min max ⌊value⌋)

def isTermChar (c : Char) : Bool :=
  ('a' ≤ c && c ≤ 'z') || ('0' ≤ c && c ≤ '9') || c = '_' || c = '-'

/-- The parts between single separators; empty ones do not stay, so runs of them do not matter. -/
def tokenize (query : List Char) : List (List Char) :=
  let parts := splitChars (fun c => !isTermChar c) (host.toLowerCase query)
  (parts.map Scheduler.trim).filter (· ≠ [])

def scoreLine (line : List Char) (terms : List (List Char)) : Nat :=
  (terms.filter fun term => occursIn term (host.toLowerCase line)).length

/-- Lines `first` to `last`, counted from 1. -/
def IndexedFile.slice (file : IndexedFile) (first last : Nat) : List (List Char) :=
  (file.lines.drop (first - 1)).take (last - (first - 1))

/-- The result for line `i + 1` of a file: the line and those next to it. -/
def resultAt (file : IndexedFile) (i score : Nat) : MemorySearchResult :=
  let start := max 1 i
  let last := min file.lines.length (i + 2)
  { path := file.relativePath, snippet := Scheduler.trim (joinLines (file.slice start last)),
    lineStart := start, lineEnd := last, score }

def candidate (terms : List (List Char)) (file : IndexedFile) (line : List Char × Nat) :
    Option MemorySearchResult :=
  let score := scoreLine host line.1 terms
  if score = 0 then none else some (resultAt file line.2 score)

def candidates (index : Index) (terms : List (List Char)) : List MemorySearchResult :=
  index.flatMap fun file => file.lines.zipIdx.filterMap (candidate host terms file)

/-- The comparator of the candidates. -/
def compareResults (a b : MemorySearchResult) : Ordering :=
  (compare b.score a.score).then
    ((host.localeCompare a.path b.path).then (compare a.lineStart b.lineStart))

def search (index : Index) (query : List Char) (maxResults : Option Rat) :
    List MemorySearchResult :=
  let terms := tokenize host query
  if terms = [] then []
  else Ranking.best (compareResults host) (clampInt maxResults 8 1 50).toNat
    (candidates host index terms)

/-! ### Reads -/

def get (index : Index) (filePath : String) (fromLine lineCount : Option Rat) :
    Except String MemoryGetResult :=
  match index.find? fun file => file.relativePath = filePath with
  | none => .error ("MEMORY_FILE_NOT_FOUND:" ++ filePath)
  | some target =>
    let first := (clampInt fromLine 1 1 (max 1 target.lines.length)).toNat
    let count := (clampInt lineCount 80 1 500).toNat
    let last := min target.lines.length (first + count - 1)
    .ok { path := target.relativePath, text := joinLines (target.slice first last),
          lineStart := first, lineEnd := last }

/-! ### What a search finds -/

variable {host}

/-- A line of the index in which a term of the query occurs. -/
def Matches (host : Host) (index : Index) (query : List Char) (r : MemorySearchResult) : Prop :=
  ∃ file ∈ index, ∃ i line, file.lines[i]? = some line ∧
    (∃ term ∈ tokenize host query, occursIn term (host.toLowerCase line) = true) ∧
    r = resultAt file i (scoreLine host line (tokenize host query))

theorem scoreLine_ne_zero {line : List Char} {terms : List (List Char)} :
    scoreLine host line terms ≠ 0 ↔
      ∃ term ∈ terms, occursIn term (host.toLowerCase line) = true := by
  rw [scoreLine, Nat.ne_zero_iff_zero_lt, List.length_pos_iff_exists_mem]
  simp only [List.mem_filter]

theorem mem_candidates {index : Index} {query : List Char} {r : MemorySearchResult} :
    r ∈ candidates host index (tokenize host query) ↔ Matches host index query r := by
  simp only [candidates, List.mem_flatMap, List.mem_filterMap, candidate, Prod.exists,
    List.mem_zipIdx_iff_getElem?, Matches]
  refine exists_congr fun file => and_congr_right fun _ => ?_
  rw [exists_comm]
  refine exists_congr fun i => exists_congr fun line => and_congr_right fun _ => ?_
  rw [← scoreLine_ne_zero]
  by_cases zero : scoreLine host line (tokenize host query) = 0
  · simp [zero]
  · simp [zero, eq_comm]

instance compareResults_transCmp [Std.TransCmp host.localeCompare] :
    Std.TransCmp (compareResults host) := by
  have scores : Std.TransCmp fun a b : MemorySearchResult => compare b.score a.score :=
    Ranking.transCmp_desc compare MemorySearchResult.score
  have paths : Std.TransCmp fun a b : MemorySearchResult => host.localeCompare a.path b.path :=
    Ranking.transCmp_on host.localeCompare MemorySearchResult.path
  have lines : Std.TransCmp fun a b : MemorySearchResult => compare a.lineStart b.lineStart :=
    Ranking.transCmp_on compare MemorySearchResult.lineStart
  exact inferInstanceAs (Std.TransCmp (compareLex
    (fun a b : MemorySearchResult => compare b.score a.score)
    (compareLex (fun a b : MemorySearchResult => host.localeCompare a.path b.path)
      fun a b : MemorySearchResult => compare a.lineStart b.lineStart)))

/-- A search returns the best of all matching lines, in order: no line left out is ahead of one
returned, and none is left out while there is room. -/
theorem search_best [Std.TransCmp host.localeCompare] (index : Index) (query : List Char)
    (maxResults : Option Rat) : ∃ matching : List MemorySearchResult,
      (∀ r, r ∈ matching ↔ Matches host index query r) ∧
      Ranking.IsBest (compareResults host) (clampInt maxResults 8 1 50).toNat matching
        (search host index query maxResults) := by
  refine ⟨_, fun r => mem_candidates, ?_⟩
  unfold search
  dsimp only
  split
  · rename_i none
    have empty : candidates host index (tokenize host query) = [] := by
      rw [List.eq_nil_iff_forall_not_mem]
      intro r mem
      obtain ⟨-, -, -, -, -, ⟨term, mem, -⟩, -⟩ := mem_candidates.mp mem
      rw [none] at mem
      cases mem
    rw [empty]
    exact ⟨.nil, by simp, [], by simp, nofun⟩
  · exact Ranking.isBest_best _ _

/-- Texts in small letters, names by their characters. -/
def plainHost : Host where
  toLowerCase := id
  localeCompare := compare

theorem search_best_plain : ∃ matching : List MemorySearchResult,
    (∀ r, r ∈ matching ↔ Matches plainHost [⟨"MEMORY.md", [['a', ' ', 'b']]⟩] ['a'] r) ∧
    Ranking.IsBest (compareResults plainHost) (clampInt (some 3) 8 1 50).toNat matching
      (search plainHost [⟨"MEMORY.md", [['a', ' ', 'b']]⟩] ['a'] (some 3)) :=
  have : Std.TransCmp plainHost.localeCompare :=
    inferInstanceAs (Std.TransCmp (compare : String → String → Ordering))
  search_best _ _ _

/-! ### What a read finds -/

/-- The markdown files under `dir` that can be read, by their paths. -/
inductive Located (host : Host) : String → List (String × Entry) → String → List Char → Prop where
  | file {dir name : String} {entries : List (String × Entry)} {text : List Char}
      (mem : (name, .file (some text)) ∈ entries) (markdown : isMarkdown host name = true) :
      Located host dir entries (dir ++ "/" ++ name) text
  | directory {dir name path : String} {entries inner : List (String × Entry)} {text : List Char}
      (mem : (name, .directory inner) ∈ entries)
      (below : Located host (dir ++ "/" ++ name) inner path text) :
      Located host dir entries path text

/-- The files of a memory, by the paths under which they are read. -/
def Workspace.Has (workspace : Workspace) (host : Host) (filePath : String) (text : List Char) :
    Prop :=
  (filePath = "MEMORY.md" ∧ workspace.main = some text) ∨
    ∃ path, Located host "memory" workspace.memory path text ∧ filePath = slashed path

theorem located_cons {dir path name : String} {entry : Entry} (rest : List (String × Entry))
    {text : List Char} : Located host dir ((name, entry) :: rest) path text ↔
      (Located host dir [(name, entry)] path text ∨ Located host dir rest path text) := by
  constructor
  · intro located
    cases located with
    | file mem markdown =>
      rcases List.mem_cons.mp mem with same | later
      · cases same
        exact .inl (.file List.mem_cons_self markdown)
      · exact .inr (.file later markdown)
    | directory mem below =>
      rcases List.mem_cons.mp mem with same | later
      · cases same
        exact .inl (.directory List.mem_cons_self below)
      · exact .inr (.directory later below)
  · rintro (here | later)
    · cases here with
      | file mem markdown =>
        exact .file (List.mem_cons.mpr (.inl (List.mem_singleton.mp mem))) markdown
      | directory mem below =>
        exact .directory (List.mem_cons.mpr (.inl (List.mem_singleton.mp mem))) below
    · cases later with
      | file mem markdown => exact .file (List.mem_cons_of_mem _ mem) markdown
      | directory mem below => exact .directory (List.mem_cons_of_mem _ mem) below

mutual

theorem mem_walk {dir p : String} {text : List Char} : (entries : List (String × Entry)) →
    ((p, some text) ∈ walk host dir entries ↔
      ∃ path, Located host dir entries path text ∧ p = slashed path)
  | [] => by
    refine ⟨nofun, ?_⟩
    rintro ⟨path, located, -⟩
    cases located with
    | file mem => cases mem
    | directory mem => cases mem
  | (name, entry) :: rest => by
    rw [walk, List.mem_append, mem_walkEntry entry, mem_walk rest]
    simp only [located_cons rest, or_and_right, exists_or]

theorem mem_walkEntry {dir name p : String} {text : List Char} : (entry : Entry) →
    ((p, some text) ∈ walkEntry host (dir ++ "/" ++ name) name entry ↔
      ∃ path, Located host dir [(name, entry)] path text ∧ p = slashed path)
  | .directory entries => by
    rw [walkEntry, mem_walk entries]
    refine exists_congr fun path => and_congr_left fun _ => ⟨fun below => ?_, fun located => ?_⟩
    · exact .directory List.mem_cons_self below
    · cases located with
      | file mem => cases List.mem_singleton.mp mem
      | directory mem below =>
        cases List.mem_singleton.mp mem
        exact below
  | .file content => by
    rw [walkEntry]
    constructor
    · intro mem
      split at mem
      · rename_i markdown
        cases List.mem_singleton.mp mem
        exact ⟨_, .file List.mem_cons_self markdown, rfl⟩
      · cases mem
    · rintro ⟨path, located, rfl⟩
      cases located with
      | file mem markdown =>
        cases List.mem_singleton.mp mem
        rw [if_pos markdown]
        exact List.mem_cons_self
      | directory mem => cases List.mem_singleton.mp mem
  | .other => by
    refine ⟨nofun, ?_⟩
    rintro ⟨path, located, -⟩
    cases located with
    | file mem => cases List.mem_singleton.mp mem
    | directory mem => cases List.mem_singleton.mp mem

end

theorem mem_listMemoryFiles {workspace : Workspace} {p : String} {text : List Char} :
    (p, some text) ∈ listMemoryFiles host workspace ↔ workspace.Has host p text := by
  rw [listMemoryFiles, List.mem_mergeSort, List.mem_append, mem_walk, Workspace.Has]
  refine or_congr_left ?_
  simp only [List.mem_map, Option.mem_toList, Prod.mk.injEq, Option.some.injEq]
  constructor
  · rintro ⟨text, mem, rfl, rfl⟩
    exact ⟨rfl, mem⟩
  · rintro ⟨rfl, mem⟩
    exact ⟨text, mem, rfl, rfl⟩

theorem mem_syncIndex {workspace : Workspace} {file : IndexedFile} :
    file ∈ syncIndex host workspace ↔
      ∃ text, workspace.Has host file.relativePath text ∧ file.lines = splitLines text := by
  simp only [syncIndex, List.mem_filterMap, Option.map_eq_some_iff, Prod.exists]
  constructor
  · rintro ⟨p, content, mem, text, rfl, rfl⟩
    exact ⟨text, mem_listMemoryFiles.mp mem, rfl⟩
  · rintro ⟨text, has, lines⟩
    refine ⟨_, _, mem_listMemoryFiles.mpr has, text, rfl, ?_⟩
    rw [← lines]

theorem splitLines_ne_nil (text : List Char) : splitLines text ≠ [] := by
  fun_cases splitLines text <;> simp_all

theorem clampInt_bounds (value : Option Rat) {fallback low high : Int} (ordered : low ≤ high)
    (above : low ≤ fallback) (below : fallback ≤ high) :
    low ≤ clampInt value fallback low high ∧ clampInt value fallback low high ≤ high := by
  cases value with
  | none => exact ⟨above, below⟩
  | some value => simp only [clampInt]; omega

/-- A read answers from a file of the memory under that path, with between one and 500 of its lines,
and fails only where there is none. -/
theorem get_reads (workspace : Workspace) (filePath : String) (fromLine lineCount : Option Rat) :
    match get (syncIndex host workspace) filePath fromLine lineCount with
    | .ok result => ∃ text, workspace.Has host filePath text ∧ result.path = filePath ∧
        1 ≤ result.lineStart ∧ result.lineStart ≤ result.lineEnd ∧
        result.lineEnd ≤ (splitLines text).length ∧ result.lineEnd < result.lineStart + 500 ∧
        result.text = joinLines (((splitLines text).drop (result.lineStart - 1)).take
          (result.lineEnd + 1 - result.lineStart))
    | .error _ => ∀ text, ¬workspace.Has host filePath text := by
  unfold get
  cases found : (syncIndex host workspace).find? fun file => file.relativePath = filePath with
  | none =>
    intro text has
    have absent := List.find?_eq_none.mp found ⟨filePath, splitLines text⟩
      (mem_syncIndex.mpr ⟨text, has, rfl⟩)
    simp at absent
  | some file =>
    have same := List.find?_some found
    obtain ⟨text, has, lines⟩ := mem_syncIndex.mp (List.mem_of_find?_eq_some found)
    obtain ⟨path, contents⟩ := file
    obtain rfl : path = filePath := by simpa using same
    obtain rfl : contents = splitLines text := lines
    have some : 0 < (splitLines text).length := List.length_pos_iff.mpr (splitLines_ne_nil text)
    have first : 1 ≤ clampInt fromLine 1 1 (max 1 (splitLines text).length) ∧
        clampInt fromLine 1 1 (max 1 (splitLines text).length) ≤
          max 1 ((splitLines text).length : Int) := by
      apply clampInt_bounds <;> omega
    have count : 1 ≤ clampInt lineCount 80 1 500 ∧ clampInt lineCount 80 1 500 ≤ 500 := by
      apply clampInt_bounds <;> omega
    dsimp only
    refine ⟨text, has, rfl, by omega, by omega, by omega, by omega, ?_⟩
    rw [IndexedFile.slice]
    congr 2
    omega

/-! ### Reading on -/

/-- The text with its line ends as `\n`. -/
def unixLines : List Char → List Char
  | [] => []
  | '\r' :: '\n' :: rest => '\n' :: unixLines rest
  | c :: rest => c :: unixLines rest

theorem joinLines_cons {line : List Char} {lines : List (List Char)} (more : lines ≠ []) :
    joinLines (line :: lines) = line ++ '\n' :: joinLines lines := by
  rw [joinLines, List.intercalate_cons_of_ne_nil more]
  simp [joinLines]

theorem joinLines_cons_cons (c : Char) (line : List Char) (lines : List (List Char)) :
    joinLines ((c :: line) :: lines) = c :: joinLines (line :: lines) := by
  cases lines with
  | nil => simp [joinLines]
  | cons next lines =>
    have more : next :: lines ≠ [] := List.cons_ne_nil next lines
    rw [joinLines_cons more, joinLines_cons more, List.cons_append]

theorem joinLines_append {first rest : List (List Char)} (some : first ≠ []) (more : rest ≠ []) :
    joinLines (first ++ rest) = joinLines first ++ '\n' :: joinLines rest := by
  induction first with
  | nil => exact absurd rfl some
  | cons line lines ih =>
    by_cases last : lines = []
    · subst last
      rw [List.singleton_append, joinLines_cons more]
      simp [joinLines]
    · rw [List.cons_append, joinLines_cons (List.append_ne_nil_of_left_ne_nil last _), ih last,
        joinLines_cons last, List.append_assoc, List.cons_append]

/-- Lines that are joined part by part. -/
theorem joinLines_parts {parts : List (List (List Char))} (filled : ∀ part ∈ parts, part ≠ []) :
    joinLines (parts.map joinLines) = joinLines parts.flatten := by
  induction parts with
  | nil => rfl
  | cons part parts ih =>
    have later := ih fun part mem => filled part (List.mem_cons_of_mem _ mem)
    have here := filled part List.mem_cons_self
    cases parts with
    | nil => simp [joinLines]
    | cons next parts =>
      have more : (next :: parts).flatten ≠ [] := by simp [filled next]
      rw [List.map_cons, joinLines_cons (by simp), later, ← joinLines_append here more]
      rfl

theorem joinLines_splitLines (text : List Char) : joinLines (splitLines text) = unixLines text := by
  fun_induction splitLines text with
  | case1 => rfl
  | case2 rest ih =>
    rw [joinLines_cons (splitLines_ne_nil rest), ih, unixLines]
    rfl
  | case3 rest ih =>
    rw [joinLines_cons (splitLines_ne_nil rest), ih, unixLines]
    · rfl
    · rintro - ⟨⟩
  | case4 c rest other line none ih => exact absurd none (splitLines_ne_nil rest)
  | case5 c rest apart _ line lines split ih =>
    rw [split] at ih
    rw [joinLines_cons_cons, ih, unixLines]
    exact apart

/-- Parts of `count` entries, the last one of what is left. -/
theorem flatten_parts {α : Type} (l : List α) (count n : Nat) :
    ((List.range n).map fun j => (l.drop (j * count)).take count).flatten = l.take (n * count) := by
  induction n with
  | zero => simp
  | succ n ih =>
    rw [List.range_succ, List.map_append, List.flatten_append, ih]
    simp only [List.map_cons, List.map_nil, List.flatten_cons, List.flatten_nil, List.append_nil]
    rw [Nat.succ_mul, List.take_add]

theorem clampInt_natCast {n : Nat} (low high : Nat) (fallback : Int) (above : low ≤ n)
    (below : n ≤ high) : clampInt (some (n : Rat)) fallback low high = n := by
  rw [clampInt, Int.floor_natCast]
  omega

/-- Window `j` of `count` lines of a file. -/
def IndexedFile.window (file : IndexedFile) (count j : Nat) : MemoryGetResult where
  path := file.relativePath
  text := joinLines ((file.lines.drop (j * count)).take count)
  lineStart := j * count + 1
  lineEnd := min file.lines.length (j * count + count)

section windows
variable {index : Index} {filePath : String} {file : IndexedFile} {count : Nat}

theorem get_window (found : (index.find? fun file => file.relativePath = filePath) = some file)
    (positive : 0 < count) (small : count ≤ 500) {j : Nat}
    (within : j * count < file.lines.length) :
    get index filePath (some ((j * count + 1 : Nat) : Rat)) (some (count : Rat)) =
      .ok (file.window count j) := by
  have first : clampInt (some ((j * count + 1 : Nat) : Rat)) 1 1 (max 1 (file.lines.length : Int)) =
      (j * count + 1 : Nat) := by
    exact_mod_cast clampInt_natCast 1 (max 1 file.lines.length) 1 (by omega) (by omega)
  have size : clampInt (some (count : Rat)) 80 1 500 = count := by
    exact_mod_cast clampInt_natCast 1 500 80 positive small
  rw [get, found]
  simp only [first, size, Int.toNat_natCast, IndexedFile.slice, Nat.add_sub_cancel]
  have last : j * count + 1 + count - 1 = j * count + count := by omega
  rw [last, IndexedFile.window]
  congr 3
  rw [List.take_eq_take_iff, List.length_drop]
  omega

theorem mapM_ok {ε α β : Type} {f : α → Except ε β} {g : α → β} {l : List α}
    (all : ∀ a ∈ l, f a = .ok (g a)) : l.mapM f = .ok (l.map g) := by
  induction l with
  | nil => rfl
  | cons a l ih =>
    have later := ih fun a mem => all a (List.mem_cons_of_mem _ mem)
    rw [List.mapM_cons, all a List.mem_cons_self, later]
    rfl

/-- How many windows of `count` lines a file of `length` lines takes. -/
def windows (length count : Nat) : Nat := (length + count - 1) / count

theorem lt_of_window {length j : Nat} (positive : 0 < count) (window : j < windows length count) :
    j * count < length := by
  have enough := (Nat.le_div_iff_mul_le positive).mp (Nat.succ_le_of_lt window)
  rw [Nat.succ_mul] at enough
  omega

theorem le_windows_mul (length : Nat) (positive : 0 < count) :
    length ≤ windows length count * count := by
  have last : ¬(windows length count + 1) * count ≤ length + count - 1 := by
    rw [← Nat.le_div_iff_mul_le positive]
    exact Nat.not_succ_le_self _
  rw [Nat.add_mul, Nat.one_mul] at last
  omega

theorem windows_tile (found : (index.find? fun file => file.relativePath = filePath) = some file)
    (positive : 0 < count) (small : count ≤ 500) :
    ∃ results, ((List.range (windows file.lines.length count)).mapM fun j =>
        get index filePath (some ((j * count + 1 : Nat) : Rat)) (some (count : Rat))) =
          .ok results ∧
      joinLines (results.map (·.text)) = joinLines file.lines := by
  refine ⟨(List.range (windows file.lines.length count)).map (file.window count),
    mapM_ok fun j mem => ?_, ?_⟩
  · exact get_window found positive small (lt_of_window positive (List.mem_range.mp mem))
  · have parts := flatten_parts file.lines count (windows file.lines.length count)
    rw [List.take_of_length_le (le_windows_mul _ positive)] at parts
    conv_rhs => rw [← parts]
    rw [← joinLines_parts, List.map_map, List.map_map]
    · rfl
    · intro part mem
      obtain ⟨j, there, rfl⟩ := List.mem_map.mp mem
      have within := lt_of_window positive (List.mem_range.mp there)
      rw [ne_eq, ← List.length_eq_zero_iff, List.length_take, List.length_drop]
      omega

end windows

/-- Reading a file of the memory in windows, one after the other, gives its text. -/
theorem read_windows {workspace : Workspace} {filePath : String}
    (has : ∃ text, workspace.Has host filePath text) {count : Nat} (positive : 0 < count)
    (small : count ≤ 500) : ∃ text, workspace.Has host filePath text ∧
      ∃ results, ((List.range (windows (splitLines text).length count)).mapM fun j =>
          get (syncIndex host workspace) filePath (some ((j * count + 1 : Nat) : Rat))
            (some (count : Rat))) = .ok results ∧
        joinLines (results.map (·.text)) = unixLines text := by
  obtain ⟨text, has⟩ := has
  have listed : ⟨filePath, splitLines text⟩ ∈ syncIndex host workspace :=
    mem_syncIndex.mpr ⟨text, has, rfl⟩
  cases found : (syncIndex host workspace).find? fun file => file.relativePath = filePath with
  | none => simpa using List.find?_eq_none.mp found _ listed
  | some file =>
    have same := List.find?_some found
    obtain ⟨text, has, lines⟩ := mem_syncIndex.mp (List.mem_of_find?_eq_some found)
    obtain ⟨path, contents⟩ := file
    obtain rfl : path = filePath := by simpa using same
    obtain rfl : contents = splitLines text := lines
    obtain ⟨results, read, joined⟩ := windows_tile found positive small
    exact ⟨text, has, results, read, joined.trans (joinLines_splitLines text)⟩

theorem read_windows_main : ∃ text,
    (Workspace.mk (some ['a', '\r', '\n', 'b']) []).Has plainHost "MEMORY.md" text ∧
      ∃ results, ((List.range (windows (splitLines text).length 1)).mapM fun j =>
          get (syncIndex plainHost ⟨some ['a', '\r', '\n', 'b'], []⟩) "MEMORY.md"
            (some ((j * 1 + 1 : Nat) : Rat)) (some ((1 : Nat) : Rat))) = .ok results ∧
        joinLines (results.map (·.text)) = unixLines text :=
  read_windows ⟨_, .inl ⟨rfl, rfl⟩⟩ (by decide) (by decide)

/-! ### Falling back -/

/-- A call on the `qmd` memory, with what the command replies. A read never asks the command. -/
inductive MemoryCall where
  | sync (qmd : Except String Unit)
  | search (query : List Char) (maxResults : Option Rat)
      (qmd : Except String (List MemorySearchResult))
  | get (filePath : String) (fromLine lineCount : Option Rat)

inductive MemoryAnswer where
  | synced
  | found (results : List MemorySearchResult)
  | read (result : Except String MemoryGetResult)

/-- What `createMemoryManager` keeps for `qmd`: the index of the builtin memory, once there is one,
whether it has fallen back, and why it last did. -/
structure QmdMemory where
  indexed : Option Index
  fallbackFrom : Bool
  lastError : Option String

def createQmdMemory : QmdMemory := { indexed := none, fallbackFrom := false, lastError := none }

section calls
variable (host : Host)

/-- `ensureSync` of the builtin memory. -/
def QmdMemory.ensureSync (m : QmdMemory) (workspace : Workspace) : Index :=
  m.indexed.getD (syncIndex host workspace)

/-- One call while the workspace is as given. -/
def QmdMemory.call (m : QmdMemory) (workspace : Workspace) :
    MemoryCall → MemoryAnswer × QmdMemory
  | .sync (.ok ()) => (.synced, m)
  | .sync (.error message) =>
    (.synced, { indexed := some (syncIndex host workspace), fallbackFrom := true,
                lastError := some ("QMD_UNAVAILABLE:" ++ message) })
  | .search _ _ (.ok results) => (.found results, m)
  | .search query maxResults (.error message) =>
    let index := m.ensureSync host workspace
    (.found (search host index query maxResults),
      { indexed := some index, fallbackFrom := true,
        lastError := some ("QMD_UNAVAILABLE:" ++ message) })
  | .get filePath fromLine lineCount =>
    match get (syncIndex host workspace) filePath fromLine lineCount with
    | .ok result => (.read (.ok result), m)
    | .error message =>
      let index := m.ensureSync host workspace
      (.read (get index filePath fromLine lineCount),
        { indexed := some index, fallbackFrom := true, lastError := some message })

def QmdMemory.calls (m : QmdMemory) (run : List (Workspace × MemoryCall)) : QmdMemory :=
  run.foldl (fun m c => (m.call host c.1 c.2).2) m

/-- Why a call falls back. -/
def failure? (workspace : Workspace) : MemoryCall → Option String
  | .sync (.error message) | .search _ _ (.error message) => some ("QMD_UNAVAILABLE:" ++ message)
  | .sync (.ok _) | .search _ _ (.ok _) => none
  | .get filePath fromLine lineCount =>
    match get (syncIndex host workspace) filePath fromLine lineCount with
    | .ok _ => none
    | .error message => some message

/-- The workspace at a sync that falls back. -/
def resynced? (c : Workspace × MemoryCall) : Option Workspace :=
  match c.2 with
  | .sync (.error _) => some c.1
  | _ => none

def failures (run : List (Workspace × MemoryCall)) : List String :=
  run.filterMap fun c => failure? host c.1 c.2

/-- The workspaces of the calls that fall back. -/
def fellBack (run : List (Workspace × MemoryCall)) : List Workspace :=
  (run.filter fun c => (failure? host c.1 c.2).isSome).map (·.1)

end calls

/-- What a call leaves behind is decided by whether it falls back, and a sync then indexes anew. -/
theorem call_state (m : QmdMemory) (workspace : Workspace) (c : MemoryCall) :
    (m.call host workspace c).2 =
      match failure? host workspace c with
      | none => m
      | some message =>
        { indexed := some (((resynced? (workspace, c)).map (syncIndex host)).getD
            (m.ensureSync host workspace))
          fallbackFrom := true, lastError := some message } := by
  cases c with
  | sync qmd => cases qmd <;> rfl
  | search query maxResults qmd => cases qmd <;> rfl
  | get filePath fromLine lineCount =>
    simp only [QmdMemory.call, failure?, resynced?, Option.map_none, Option.getD_none]
    cases get (syncIndex host workspace) filePath fromLine lineCount <;> rfl

theorem failure_of_resynced {c : Workspace × MemoryCall} {workspace : Workspace}
    (resynced : resynced? c = some workspace) : (failure? host c.1 c.2).isSome = true := by
  obtain ⟨ws, call⟩ := c
  cases call with
  | sync qmd =>
    cases qmd with
    | error message => rfl
    | ok => cases resynced
  | search => cases resynced
  | get => cases resynced

/-- After any calls, the memory has fallen back if and only if one of them failed, its error is that
of the last one that failed, and its index is that of the last sync that failed, or of the first
failing call if no sync has. -/
theorem calls_state (run : List (Workspace × MemoryCall)) :
    createQmdMemory.calls host run =
      { indexed := ((run.filterMap resynced?).getLast?.or (fellBack host run).head?).map
          (syncIndex host)
        fallbackFrom := !(failures host run).isEmpty
        lastError := (failures host run).getLast? } := by
  induction run using List.reverseRecOn with
  | nil => rfl
  | append_singleton run c ih =>
    rw [QmdMemory.calls, List.foldl_append, List.foldl_cons, List.foldl_nil]
    change ((createQmdMemory.calls host run).call host c.1 c.2).2 = _
    rw [call_state, ih]
    cases failed : failure? host c.1 c.2 with
    | none =>
      have kept : resynced? c = none := by
        cases resynced : resynced? c with
        | none => rfl
        | some workspace =>
          have falls : (failure? host c.1 c.2).isSome = true := failure_of_resynced resynced
          simp [failed] at falls
      simp [failures, fellBack, failed, kept]
    | some message =>
      cases resynced : resynced? c with
      | some workspace => simp [failures, failed, resynced]
      | none =>
        simp only [failures, fellBack, QmdMemory.ensureSync, List.filterMap_append,
          List.filter_append]
        generalize run.filterMap resynced? = syncs
        generalize (run.filter fun c => (failure? host c.1 c.2).isSome) = before
        cases synced : syncs.getLast? with
        | some workspace => simp [failed, resynced, synced]
        | none => cases before <;> simp [failed, resynced, synced]

end Vespid.AgentRuntime.Memory
