import Vespid.AgentRuntime.Bookkeeping
import Vespid.Channels.Signatures

/-!
# Trimming a runtime state

A state is written out, and while its text is longer than the budget the oldest entry of its
history is dropped with the results no entry refers to. The loop makes at most 10000 rounds, so a
state that is too long after as many drops is returned as it is.
-/

namespace Vespid.AgentRuntime.Trimming

structure Trimmed where
  state : AgentRunRuntimeState
  trimmed : Bool

def trimRounds (host : Host) (maxChars : Nat) : (rounds : Nat) → Trimmed → Trimmed
  | 0, next => next
  | rounds + 1, next =>
    if jsLength (host.stringify next.state.toJson) ≤ maxChars then next
    else match next.state.history with
      | [] => next
      | _ :: rest =>
        trimRounds host maxChars rounds { state := next.state.forget rest, trimmed := true }

/-- What `persistState` reads: the state and whether anything was dropped. -/
def trimAgentState (host : Host) (state : AgentRunRuntimeState) (maxChars : Nat) : Trimmed :=
  trimRounds host maxChars 10000 { state, trimmed := false }

theorem trimRounds_state (host : Host) (maxChars rounds : Nat) (next : Trimmed) :
    (trimRounds host maxChars rounds next).state =
      dropOldest host maxChars rounds next.state := by
  induction rounds generalizing next with
  | zero => rfl
  | succ rounds ih =>
    rw [trimRounds, dropOldest]
    by_cases fits : jsLength (host.stringify next.state.toJson) ≤ maxChars
    · rw [if_pos fits, if_pos fits]
    · rw [if_neg fits, if_neg fits]
      cases next.state.history with
      | nil => rfl
      | cons oldest rest => exact ih _

/-- The loop of an agent keeps the state of this result. -/
theorem trimAgentState_state (host : Host) (state : AgentRunRuntimeState) (maxChars : Nat) :
    (trimAgentState host state maxChars).state =
      AgentRuntime.trimAgentState host state maxChars := trimRounds_state host maxChars _ _

/-! ### The state after some drops -/

/-- The state without its `n` oldest entries. -/
def without (s : AgentRunRuntimeState) : (n : Nat) → AgentRunRuntimeState
  | 0 => s
  | n + 1 => s.forget (s.history.drop (n + 1))

@[simp] theorem without_history (s : AgentRunRuntimeState) (n : Nat) :
    (without s n).history = s.history.drop n := by
  cases n <;> rfl

@[simp] theorem without_pending (s : AgentRunRuntimeState) (n : Nat) :
    (without s n).pendingToolCall = s.pendingToolCall := by
  cases n <;> rfl

@[simp] theorem without_turns (s : AgentRunRuntimeState) (n : Nat) :
    (without s n).turns = s.turns := by
  cases n <;> rfl

@[simp] theorem without_toolCalls (s : AgentRunRuntimeState) (n : Nat) :
    (without s n).toolCalls = s.toolCalls := by
  cases n <;> rfl

/-- The results of the calls that the history or the pending call mentions. -/
def mentionedResults (s : AgentRunRuntimeState) (history : List AgentRunHistoryEntry) :
    List (Nat × RecordedResult) :=
  s.toolResultsByCallIndex.filter fun entry =>
    entry.1 ∈ history.map (·.callIndex) ∨
      ∃ pending ∈ s.pendingToolCall, pending.callIndex = entry.1

theorem forget_results (s : AgentRunRuntimeState) (history : List AgentRunHistoryEntry) :
    (s.forget history).toolResultsByCallIndex = mentionedResults s history := by
  unfold AgentRunRuntimeState.forget mentionedResults
  apply List.filter_congr
  intro entry _
  cases s.pendingToolCall <;> simp [eq_comm]

theorem forget_eq (s : AgentRunRuntimeState) (history : List AgentRunHistoryEntry) :
    s.forget history =
      { s with history, toolResultsByCallIndex := mentionedResults s history } := by
  rw [← forget_results]
  rfl

/-- What a shorter history refers to, a longer one refers to as well. -/
theorem forget_forget (s : AgentRunRuntimeState) {long short : List AgentRunHistoryEntry}
    (suffix : short ⊆ long) : (s.forget long).forget short = s.forget short := by
  have results : mentionedResults (s.forget long) short = mentionedResults s short := by
    unfold mentionedResults
    rw [forget_results, mentionedResults, List.filter_filter]
    apply List.filter_congr
    intro entry _
    rw [Bool.eq_iff_iff, Bool.and_eq_true, decide_eq_true_iff, decide_eq_true_iff,
      decide_eq_true_iff]
    constructor
    · exact And.left
    · intro kept
      refine ⟨kept, ?_⟩
      obtain mentioned | waiting := kept
      · exact .inl (List.map_subset _ suffix mentioned)
      · exact .inr waiting
  rw [forget_eq, results, forget_eq, forget_eq]

theorem without_succ (s : AgentRunRuntimeState) (n : Nat) :
    (without s n).forget (s.history.drop (n + 1)) = without s (n + 1) := by
  cases n with
  | zero => rfl
  | succ n =>
    apply forget_forget
    exact List.drop_subset_drop_left _ (Nat.le_succ _)

def Fits (host : Host) (maxChars : Nat) (s : AgentRunRuntimeState) : Prop :=
  jsLength (host.stringify s.toJson) ≤ maxChars

/-- After `n` drops the loop comes to rest, within `rounds` rounds. -/
structure RestsAt (host : Host) (maxChars : Nat) (s : AgentRunRuntimeState) (rounds n : Nat) :
    Prop where
  bounded : n ≤ rounds
  listed : n ≤ s.history.length
  rest : Fits host maxChars (without s n) ∨ n = s.history.length ∨ n = rounds
  before : ∀ k < n, ¬ Fits host maxChars (without s k)

variable {host : Host} {maxChars : Nat} {s : AgentRunRuntimeState}

/-- The drops made so far and those that follow. -/
theorem trimRounds_rests (rounds done : Nat) (listed : done ≤ s.history.length)
    (before : ∀ k < done, ¬ Fits host maxChars (without s k)) :
    ∃ n, RestsAt host maxChars s (done + rounds) n ∧
      trimRounds host maxChars rounds ⟨without s done, decide (0 < done)⟩ =
        ⟨without s n, decide (0 < n)⟩ := by
  induction rounds generalizing done with
  | zero => exact ⟨done, ⟨le_refl _, listed, .inr (.inr rfl), before⟩, rfl⟩
  | succ rounds ih =>
    rw [trimRounds]
    by_cases fits : jsLength (host.stringify (without s done).toJson) ≤ maxChars
    · refine ⟨done, ⟨by omega, listed, .inl fits, before⟩, ?_⟩
      rw [if_pos fits]
    · rw [if_neg fits]
      have entries := without_history s done
      cases history : (without s done).history with
      | nil =>
        rw [history] at entries
        have all : done = s.history.length := by
          have := List.drop_eq_nil_iff.mp entries.symm
          omega
        exact ⟨done, ⟨by omega, listed, .inr (.inl all), before⟩, rfl⟩
      | cons oldest rest =>
        rw [history] at entries
        have more : done < s.history.length := by
          by_contra none
          rw [List.drop_eq_nil_of_le (by omega)] at entries
          cases entries
        have later : rest = s.history.drop (done + 1) := by
          rw [← List.drop_drop, ← entries]
          rfl
        simp only [later, without_succ]
        obtain ⟨n, rests, same⟩ := ih (done + 1) more (by
          intro k less
          obtain less | rfl := Nat.lt_succ_iff_lt_or_eq.mp less
          · exact before k less
          · exact fits)
        refine ⟨n, ?_, ?_⟩
        · rwa [show done + (rounds + 1) = done + 1 + rounds by omega]
        · simpa using same

theorem trimAgentState_rests (host : Host) (s : AgentRunRuntimeState) (maxChars : Nat) :
    ∃ n, RestsAt host maxChars s 10000 n ∧
      trimAgentState host s maxChars = ⟨without s n, decide (0 < n)⟩ := by
  obtain ⟨n, rests, same⟩ := @trimRounds_rests host maxChars s 10000 0 (Nat.zero_le _) (by simp)
  exact ⟨n, by simpa only [Nat.zero_add] using rests, same⟩

/-! ### What trimming promises -/

structure Trims (host : Host) (maxChars : Nat) (s : AgentRunRuntimeState) : Prop where
  budget : Fits host maxChars (trimAgentState host s maxChars).state ∨
    (trimAgentState host s maxChars).state.history = []
  suffix : (trimAgentState host s maxChars).state.history <:+ s.history
  results : (trimAgentState host s maxChars).trimmed = true →
    (trimAgentState host s maxChars).state.toolResultsByCallIndex =
      mentionedResults s (trimAgentState host s maxChars).state.history
  pending : (trimAgentState host s maxChars).state.pendingToolCall = s.pendingToolCall
  turns : (trimAgentState host s maxChars).state.turns = s.turns
  toolCalls : (trimAgentState host s maxChars).state.toolCalls = s.toolCalls
  flag : (trimAgentState host s maxChars).trimmed = false ↔
    (trimAgentState host s maxChars).state = s
  again : (trimAgentState host (trimAgentState host s maxChars).state maxChars).state =
    (trimAgentState host s maxChars).state

theorem without_results (s : AgentRunRuntimeState) {n : Nat} (some : 0 < n) :
    (without s n).toolResultsByCallIndex = mentionedResults s (s.history.drop n) := by
  cases n with
  | zero => omega
  | succ n => exact forget_results s _

theorem without_ne (s : AgentRunRuntimeState) {n : Nat} (some : 0 < n)
    (listed : n ≤ s.history.length) : without s n ≠ s := by
  intro same
  have shorter := congrArg (·.history.length) same
  simp only [without_history, List.length_drop] at shorter
  omega

/-- A state within the budget, and one without entries, is left alone. -/
theorem trimAgentState_done (done : Fits host maxChars s ∨ s.history = []) :
    trimAgentState host s maxChars = ⟨s, false⟩ := by
  obtain ⟨n, rests, same⟩ := trimAgentState_rests host s maxChars
  cases n with
  | zero => exact same
  | succ n =>
    obtain fits | empty := done
    · exact absurd fits (rests.before 0 (by omega))
    · have listed := rests.listed
      simp [empty] at listed

/-- At most 10000 drops leave a state within the budget or without entries. -/
def EnoughRounds (host : Host) (maxChars : Nat) (s : AgentRunRuntimeState) : Prop :=
  s.history.length ≤ 10000 ∨ ∃ n ≤ 10000, Fits host maxChars (without s n)

theorem enough_of_budget
    (budget : Fits host maxChars (trimAgentState host s maxChars).state ∨
      (trimAgentState host s maxChars).state.history = []) : EnoughRounds host maxChars s := by
  obtain ⟨n, rests, same⟩ := trimAgentState_rests host s maxChars
  simp only [same, without_history, List.drop_eq_nil_iff] at budget
  obtain fits | empty := budget
  · exact .inr ⟨n, rests.bounded, fits⟩
  · exact .inl (empty.trans rests.bounded)

theorem RestsAt.done {n : Nat} (rests : RestsAt host maxChars s 10000 n)
    (enough : EnoughRounds host maxChars s) :
    Fits host maxChars (without s n) ∨ (without s n).history = [] := by
  rw [without_history, List.drop_eq_nil_iff]
  obtain fits | all | last := rests.rest
  · exact .inl fits
  · exact .inr all.ge
  obtain short | ⟨k, bounded, fits⟩ := enough
  · exact .inr (by omega)
  by_cases less : k < n
  · exact absurd fits (rests.before k less)
  · obtain rfl : k = n := by omega
    exact .inl fits

/-- Trimming keeps its promises exactly where at most 10000 drops are enough. -/
theorem trims_iff_enough_rounds (host : Host) (maxChars : Nat) (s : AgentRunRuntimeState) :
    Trims host maxChars s ↔ EnoughRounds host maxChars s := by
  refine ⟨fun trims => enough_of_budget trims.budget, ?_⟩
  intro enough
  obtain ⟨n, rests, same⟩ := trimAgentState_rests host s maxChars
  have done := rests.done enough
  constructor
  · rw [same]
    exact done
  · rw [same, without_history]
    exact List.drop_suffix n s.history
  · rw [same, without_history]
    intro dropped
    exact without_results s (of_decide_eq_true dropped)
  · rw [same, without_pending]
  · rw [same, without_turns]
  · rw [same, without_toolCalls]
  · rw [same, decide_eq_false_iff_not]
    constructor
    · intro none
      obtain rfl : n = 0 := by omega
      rfl
    · intro unchanged some
      exact without_ne s some rests.listed unchanged
  · rw [same, trimAgentState_done done]

/-! ### A long history -/

theorem length_le_jsLength (text : List Char) :
    text.length ≤ jsLength (String.ofList text) := by
  unfold jsLength
  rw [String.toList_ofList]
  induction text with
  | nil => simp
  | cons c rest ih =>
    rw [List.length_cons, List.map_cons, List.sum_cons]
    split <;> omega

/-- Items are written with a comma between any two. -/
theorem length_le_stringifyItems (number : Rat → List Char) (items : List Json) :
    items.length ≤ (Channels.Signatures.stringifyItems number items).length + 1 := by
  induction items with
  | nil => simp
  | cons item rest ih =>
    cases rest with
    | nil => simp
    | cons next rest =>
      rw [Channels.Signatures.stringifyItems, List.length_append, List.length_cons]
      · simp only [List.length_cons] at ih ⊢
        omega
      · simp

def writing (number : Rat → List Char) : Host :=
  { scripted with
    stringify := fun value => String.ofList (Channels.Signatures.stringify number value) }

theorem history_le_text (number : Rat → List Char) (s : AgentRunRuntimeState) :
    s.history.length ≤ jsLength ((writing number).stringify s.toJson) := by
  refine le_trans ?_ (length_le_jsLength _)
  have items := length_le_stringifyItems number (s.history.map (·.toJson))
  rw [List.length_map] at items
  simp only [AgentRunRuntimeState.toJson, List.cons_append, Channels.Signatures.stringify,
    Channels.Signatures.stringifyFields, List.length_cons, List.length_append]
  omega

/-- A state with as many calls of one tool. -/
def repeated (n : Nat) : AgentRunRuntimeState :=
  { AgentRunRuntimeState.empty with
    history := List.replicate n (.toolCall "shell.run" 1 (.obj [])) }

theorem repeated_length (n : Nat) : (repeated n).history.length = n := List.length_replicate

def integerText (n : Rat) : List Char := (toString n.num).toList

/-- Of 12000 entries 2000 are left, whose text is longer than 1024 characters. -/
theorem long_history_exceeds : ¬ Trims (writing integerText) 1024 (repeated 12000) := by
  intro trims
  obtain short | ⟨n, bounded, fits⟩ := enough_of_budget trims.budget
  · rw [repeated_length] at short
    omega
  · have entries := history_le_text integerText (without (repeated 12000) n)
    rw [without_history, List.length_drop, repeated_length] at entries
    unfold Fits at fits
    omega

end Vespid.AgentRuntime.Trimming
