import Mathlib.Data.List.Nodup
import Vespid.AgentRuntime.AgentLoop

/-!
# Budgets and call bookkeeping

Every state that a loop persists or returns is within the limits of its agent and accounts for the
calls issued so far, across any number of suspensions.
-/

namespace Vespid.AgentRuntime

open Interleaving

/-! ### The invariant -/

/-- The counters are within their limits, and calls and results belong to calls that were issued. -/
structure Bookkeeping (limits : Limits) (s : AgentRunRuntimeState) : Prop where
  turns_le : s.turns ≤ limits.maxTurns
  toolCalls_le : s.toolCalls ≤ limits.maxToolCalls
  history_le : ∀ entry ∈ s.history, entry.callIndex ≤ s.toolCalls
  results_le : ∀ entry ∈ s.toolResultsByCallIndex, entry.1 ≤ s.toolCalls
  pending_last : ∀ pending, s.pendingToolCall = some pending → pending.callIndex = s.toolCalls
  calls_increase : (s.history.filterMap (·.call?)).Pairwise (· < ·)
  answered_once : (s.history.filterMap (·.result?)).Nodup
  results_once : (s.toolResultsByCallIndex.map Prod.fst).Nodup

/-- The last call has no result yet. -/
structure Unanswered (s : AgentRunRuntimeState) : Prop where
  history : s.toolCalls ∉ s.history.filterMap (·.result?)
  results : s.toolCalls ∉ s.toolResultsByCallIndex.map Prod.fst

/-- What trimming may do to a state. -/
structure Trims (s s' : AgentRunRuntimeState) : Prop where
  toolCalls : s'.toolCalls = s.toolCalls
  turns : s'.turns = s.turns
  pending : s'.pendingToolCall = s.pendingToolCall
  history : s'.history.Sublist s.history
  results : s'.toolResultsByCallIndex.Sublist s.toolResultsByCallIndex

theorem Trims.refl (s : AgentRunRuntimeState) : Trims s s :=
  ⟨rfl, rfl, rfl, .refl _, .refl _⟩

theorem Trims.trans {s t u : AgentRunRuntimeState} (first : Trims s t) (rest : Trims t u) :
    Trims s u where
  toolCalls := rest.toolCalls.trans first.toolCalls
  turns := rest.turns.trans first.turns
  pending := rest.pending.trans first.pending
  history := rest.history.trans first.history
  results := rest.results.trans first.results

theorem Trims.forget {next : AgentRunRuntimeState} {history : List AgentRunHistoryEntry}
    (shorter : history.Sublist next.history) : Trims next (next.forget history) :=
  ⟨rfl, rfl, rfl, shorter, List.filter_sublist⟩

theorem trims_dropOldest (host : Host) (maxChars rounds : Nat) (next : AgentRunRuntimeState) :
    Trims next (dropOldest host maxChars rounds next) := by
  induction rounds generalizing next with
  | zero => exact .refl next
  | succ rounds ih =>
    rw [dropOldest]
    split
    · exact .refl next
    · split
      · exact .refl next
      · rename_i oldest rest history
        have shorter : rest.Sublist next.history := by
          rw [history]
          exact List.sublist_cons_self oldest rest
        exact (Trims.forget shorter).trans (ih _)

theorem trims_trimAgentState (host : Host) (state : AgentRunRuntimeState) (maxChars : Nat) :
    Trims state (trimAgentState host state maxChars) := trims_dropOldest host maxChars _ state

namespace Trims
variable {limits : Limits} {s s' : AgentRunRuntimeState}

theorem bookkeeping (trims : Trims s s') (book : Bookkeeping limits s) :
    Bookkeeping limits s' where
  turns_le := by
    rw [trims.turns]
    exact book.turns_le
  toolCalls_le := by
    rw [trims.toolCalls]
    exact book.toolCalls_le
  history_le := by
    intro entry mem
    rw [trims.toolCalls]
    exact book.history_le entry (trims.history.subset mem)
  results_le := by
    intro entry mem
    rw [trims.toolCalls]
    exact book.results_le entry (trims.results.subset mem)
  pending_last := by
    intro pending waits
    rw [trims.pending] at waits
    rw [trims.toolCalls]
    exact book.pending_last pending waits
  calls_increase := book.calls_increase.sublist (trims.history.filterMap _)
  answered_once := book.answered_once.sublist (trims.history.filterMap _)
  results_once := book.results_once.sublist (trims.results.map _)

theorem unanswered (trims : Trims s s') (fresh : Unanswered s) : Unanswered s' where
  history := by
    rw [trims.toolCalls]
    exact fun mem => fresh.history ((trims.history.filterMap _).subset mem)
  results := by
    rw [trims.toolCalls]
    exact fun mem => fresh.results ((trims.results.map _).subset mem)

end Trims

namespace Bookkeeping
variable {limits : Limits} {s : AgentRunRuntimeState}

theorem empty (limits : Limits) : Bookkeeping limits .empty where
  turns_le := Nat.zero_le _
  toolCalls_le := Nat.zero_le _
  history_le := by simp [AgentRunRuntimeState.empty]
  results_le := by simp [AgentRunRuntimeState.empty]
  pending_last := by simp [AgentRunRuntimeState.empty]
  calls_increase := List.Pairwise.nil
  answered_once := List.nodup_nil
  results_once := List.nodup_nil

theorem turned (book : Bookkeeping limits s) (more : s.turns < limits.maxTurns) :
    Bookkeeping limits { s with turns := s.turns + 1 } :=
  { book with turns_le := more }

theorem settled (book : Bookkeeping limits s) :
    Bookkeeping limits { s with pendingToolCall := none } :=
  { book with
    pending_last := by
      intro pending waits
      cases waits }

theorem waiting (book : Bookkeeping limits s) {pending : PendingToolCall}
    (last : pending.callIndex = s.toolCalls) :
    Bookkeeping limits { s with pendingToolCall := some pending } :=
  { book with
    pending_last := by
      intro p waits
      cases waits
      exact last }

theorem issued (book : Bookkeeping limits s) (idle : s.pendingToolCall = none)
    (more : s.toolCalls < limits.maxToolCalls) (toolId : String) (inputSummary : Json) :
    Bookkeeping limits (({ s with toolCalls := s.toolCalls + 1 } : AgentRunRuntimeState).push
      (.toolCall toolId (s.toolCalls + 1) inputSummary)) where
  turns_le := book.turns_le
  toolCalls_le := more
  history_le := by
    intro entry mem
    rcases List.mem_append.mp mem with old | new
    · exact Nat.le_succ_of_le (book.history_le entry old)
    · cases List.mem_singleton.mp new
      exact Nat.le_refl _
  results_le := fun entry mem => Nat.le_succ_of_le (book.results_le entry mem)
  pending_last := by
    intro pending waits
    rw [show _ = none from idle] at waits
    cases waits
  calls_increase := by
    simp only [AgentRunRuntimeState.push, List.filterMap_append]
    refine List.pairwise_append.mpr ⟨book.calls_increase, List.pairwise_singleton _ _, ?_⟩
    intro old mem new mem'
    cases List.mem_singleton.mp mem'
    obtain ⟨entry, mem, here⟩ := List.mem_filterMap.mp mem
    cases entry with
    | toolCall toolId callIndex summary =>
      cases here
      exact Nat.lt_succ_of_le (book.history_le _ mem)
    | toolResult => cases here
  answered_once := by
    simp only [AgentRunRuntimeState.push, List.filterMap_append]
    simpa [AgentRunHistoryEntry.result?] using book.answered_once
  results_once := book.results_once

/-- A call that is issued has no result. -/
theorem unanswered (book : Bookkeeping limits s) (toolId : String) (inputSummary : Json) :
    Unanswered (({ s with toolCalls := s.toolCalls + 1 } : AgentRunRuntimeState).push
      (.toolCall toolId (s.toolCalls + 1) inputSummary)) where
  history := by
    intro mem
    simp only [AgentRunRuntimeState.push, List.filterMap_append] at mem
    rcases List.mem_append.mp mem with old | new
    · obtain ⟨entry, mem, here⟩ := List.mem_filterMap.mp old
      cases entry with
      | toolCall => cases here
      | toolResult callIndex result =>
        cases here
        have := book.history_le _ mem
        simp only [AgentRunHistoryEntry.callIndex] at this
        omega
    · simp [AgentRunHistoryEntry.result?] at new
  results := by
    intro mem
    obtain ⟨entry, mem, here⟩ := List.mem_map.mp mem
    have := book.results_le entry mem
    simp only [AgentRunRuntimeState.push] at here
    omega

theorem recorded (book : Bookkeeping limits s) (fresh : Unanswered s) (result : RecordedResult) :
    Bookkeeping limits (s.record s.toolCalls result) where
  turns_le := book.turns_le
  toolCalls_le := book.toolCalls_le
  history_le := by
    intro entry mem
    rcases List.mem_append.mp mem with old | new
    · exact book.history_le entry old
    · cases List.mem_singleton.mp new
      exact Nat.le_refl _
  results_le := by
    intro entry mem
    simp only [AgentRunRuntimeState.record, OrderedMap.set_of_not_mem _ fresh.results] at mem
    rcases List.mem_append.mp mem with old | new
    · exact book.results_le entry old
    · cases List.mem_singleton.mp new
      exact Nat.le_refl _
  pending_last := book.pending_last
  calls_increase := by
    simp only [AgentRunRuntimeState.record, List.filterMap_append]
    simpa [AgentRunHistoryEntry.call?] using book.calls_increase
  answered_once := by
    simp only [AgentRunRuntimeState.record, List.filterMap_append]
    refine List.nodup_append.mpr ⟨book.answered_once, List.pairwise_singleton _ _, ?_⟩
    intro old mem new mem' same
    cases List.mem_singleton.mp mem'
    subst same
    exact fresh.history mem
  results_once := OrderedMap.nodup_keys_set book.results_once _ _

end Bookkeeping

@[simp] theorem lookup_setAgentRunState (runtime : WorkflowRuntime) (node : String)
    (state : AgentRunRuntimeState) :
    (setAgentRunState runtime node (some state)).agentRuns.lookup node = some state :=
  OrderedMap.lookup_set_self _ _ _

theorem lookup_setAgentRunState_none (runtime : WorkflowRuntime) (node : String) :
    (setAgentRunState runtime node none).agentRuns.lookup node = none := by
  rw [← Option.not_isSome_iff_eq_none, OrderedMap.lookup_isSome_iff]
  intro mem
  obtain ⟨entry, mem, here⟩ := List.mem_map.mp mem
  simp [setAgentRunState, here] at mem

/-! ### One run of a loop -/

/-- The calls announced so far, and whether the result of the last one was. -/
structure Ledger where
  issued : Nat
  answered : Bool

/-- Calls are announced in order, each result for the last call and once, and what is persisted is
accounted for. -/
def ledgerProtocol (limits : Limits) : Protocol LoopI Ledger where
  permits g op := match op with
    | .call _ callIndex _ => callIndex = g.issued + 1
    | .result _ callIndex _ => callIndex = g.issued ∧ g.answered = false
    | .persist _ state _ => Bookkeeping limits state
    | .cached _ => False
    | _ => True
  expects _ _ := True
  observe g op _ := match op with
    | .call _ callIndex _ => ⟨callIndex, false⟩
    | .result _ _ _ => { g with answered := true }
    | _ => g

/-- A loop that waits for no result. -/
structure Settled (limits : Limits) (s : AgentRunRuntimeState) (g : Ledger) : Prop where
  book : Bookkeeping limits s
  idle : s.pendingToolCall = none
  issued : s.toolCalls = g.issued

/-- A loop whose last call has no result. -/
structure Calling (limits : Limits) (s : AgentRunRuntimeState) (g : Ledger) : Prop where
  book : Bookkeeping limits s
  fresh : Unanswered s
  issued : s.toolCalls = g.issued
  waits : g.answered = false

/-- The state under which a loop is persisted, in what the loop returned. -/
def Outcome.state (node : Option String) (outcome : Outcome) : Option AgentRunRuntimeState :=
  outcome.runtime.bind fun runtime => node.bind fun node => runtime.agentRuns.lookup node

/-- What is known when a loop returns. -/
structure Ended (limits : Limits) (node : Option String) (outcome : Outcome) (g : Ledger) :
    Prop where
  book : ∀ state, outcome.state node = some state → Bookkeeping limits state
  suspended : ∀ block pending runtime state, outcome = .blocked block pending runtime →
    outcome.state node = some state → Calling limits state g

section run
variable {host : Host} {input : AgentLoopInput} {l : Loop} {g : Ledger}

attribute [local irreducible] parseEnvelope

/-- After a turn that began with `turns`. -/
def Turned (input : AgentLoopInput) (turns : Nat) (next : Loop ⊕ Outcome) (g : Ledger) : Prop :=
  next.elim (fun l => Settled input.limits l.state g ∧ l.state.turns = turns)
    fun outcome => Ended input.limits input.persistNodeId outcome g

theorem Settled.trims {s s' : AgentRunRuntimeState} {limits : Limits} (settled : Settled limits s g)
    (trims : Trims s s') : Settled limits s' g where
  book := trims.bookkeeping settled.book
  idle := trims.pending.trans settled.idle
  issued := trims.toolCalls.trans settled.issued

theorem Calling.trims {s s' : AgentRunRuntimeState} {limits : Limits} (calling : Calling limits s g)
    (trims : Trims s s') : Calling limits s' g where
  book := trims.bookkeeping calling.book
  fresh := trims.unanswered calling.fresh
  issued := trims.toolCalls.trans calling.issued
  waits := calling.waits

theorem Ended.failed (limits : Limits) (node : Option String) (error : String) :
    Ended limits node (.failed error none) g where
  book := by
    intro state here
    cases here
  suspended := by
    intro block pending runtime state blocked
    cases blocked

theorem Ended.threw (limits : Limits) (node : Option String) : Ended limits node .threw g where
  book := by
    intro state here
    cases here
  suspended := by
    intro block pending runtime state blocked
    cases blocked

theorem state_returned (l : Loop) (input : AgentLoopInput) {state : AgentRunRuntimeState}
    {outcome : Outcome} (returns : outcome.runtime = l.returned input)
    (here : outcome.state input.persistNodeId = some state) : state = l.state := by
  rw [Outcome.state, returns, Loop.returned] at here
  cases node : input.persistNodeId with
  | none =>
    rw [node] at here
    cases here
  | some node' =>
    rw [node] at here
    simpa using here.symm

theorem persistState_follows (book : Bookkeeping input.limits l.state) (checkpoint : Bool) :
    (persistState host input l checkpoint).wp (ledgerProtocol input.limits)
      (fun l' g' => g' = g ∧ Trims l.state l'.state) g := by
  unfold persistState
  split
  · exact ⟨rfl, .refl _⟩
  · have trims := trims_trimAgentState host l.state input.limits.maxRuntimeChars
    exact ⟨trims.bookkeeping book, fun _ _ => ⟨rfl, trims⟩⟩

theorem fail_follows (book : Bookkeeping input.limits l.state) (error : String) (turns : Nat) :
    (fail host input l error).wp (ledgerProtocol input.limits) (Turned input turns) g := by
  unfold fail
  refine Program.wp_seq (persistState_follows book false) ?_
  rintro l' g' ⟨rfl, -⟩
  exact Ended.failed input.limits input.persistNodeId error

theorem failReturning_follows (book : Bookkeeping input.limits l.state) (error : String) :
    (failReturning host input l error).wp (ledgerProtocol input.limits)
      (Ended input.limits input.persistNodeId) g := by
  unfold failReturning
  refine Program.wp_seq (persistState_follows book false) ?_
  rintro l' g' ⟨rfl, trims⟩
  exact {
    book := by
      intro state here
      rw [state_returned l' input rfl here]
      exact trims.bookkeeping book
    suspended := by
      intro block pending runtime state blocked
      cases blocked }

theorem finish_follows (book : Bookkeeping input.limits l.state) (output : Option Json)
    (turns : Nat) :
    (finish host input l output).wp (ledgerProtocol input.limits) (Turned input turns) g := by
  have success : Turned input turns (.inr (.succeeded output
      (input.persistNodeId.map fun node => setAgentRunState l.runtime node none))) g := {
    book := by
      intro state here
      cases node : input.persistNodeId with
      | none => simp [Outcome.state, Outcome.runtime, node] at here
      | some node' =>
        simp [Outcome.state, Outcome.runtime, node, lookup_setAgentRunState_none] at here
    suspended := by
      intro block pending runtime state blocked
      cases blocked }
  unfold finish
  split
  · split
    · exact fail_follows book _ turns
    · exact fail_follows book _ turns
    · exact success
  · exact success

theorem suspend_follows (calling : Calling input.limits l.state g) (toolId : String)
    (toolInput : List (String × Json)) {callIndex : Nat} (last : callIndex = l.state.toolCalls)
    (block : Block) (turns : Nat) :
    (suspend host input l toolId toolInput callIndex block).wp (ledgerProtocol input.limits)
      (Turned input turns) g := by
  unfold suspend
  refine Program.wp_seq (persistState_follows (calling.book.waiting last) true) ?_
  rintro l' g' ⟨rfl, trims⟩
  have waiting : Calling input.limits l'.state g' :=
    Calling.trims { calling with
      book := calling.book.waiting last
      fresh := ⟨calling.fresh.history, calling.fresh.results⟩ } trims
  exact {
    book := by
      intro state here
      rw [state_returned l' input rfl here]
      exact waiting.book
    suspended := by
      intro block pending runtime state _ here
      rw [state_returned l' input rfl here]
      exact waiting }

theorem recordResult_follows (calling : Calling input.limits l.state g)
    (idle : l.state.pendingToolCall = none) {callIndex : Nat} (last : callIndex = l.state.toolCalls)
    (result : RecordedResult) :
    (recordResult host input l callIndex result).wp (ledgerProtocol input.limits)
      (Turned input l.state.turns) g := by
  subst last
  unfold recordResult
  refine ⟨⟨calling.issued, calling.waits⟩, fun _ _ => ?_⟩
  have book := calling.book.recorded calling.fresh result
  show (persistState host input _ true >>= _).wp _ _ _
  refine Program.wp_seq (persistState_follows book true) ?_
  rintro l' g' ⟨rfl, trims⟩
  have settled : Settled input.limits (l.state.record l.state.toolCalls result)
      { g with answered := true } := ⟨book, idle, calling.issued⟩
  exact ⟨settled.trims trims, trims.turns⟩

theorem executeCall_follows (calling : Calling input.limits l.state g)
    (idle : l.state.pendingToolCall = none) (toolId : String) (toolInput : List (String × Json))
    {callIndex : Nat} (last : callIndex = l.state.toolCalls) :
    (executeCall host input l toolId toolInput callIndex).wp (ledgerProtocol input.limits)
      (Turned input l.state.turns) g := by
  unfold executeCall
  split
  · refine ⟨⟨last.trans calling.issued, calling.waits⟩, fun _ _ => ?_⟩
    exact fail_follows calling.book _ _
  · split
    · exact fail_follows calling.book _ _
    · rename_i tool args _
      refine ⟨trivial, fun reply _ => ?_⟩
      cases reply with
      | threw => exact Ended.threw input.limits input.persistNodeId
      | blocked block =>
        show (if input.allowRemoteBlocked = true then _ else _ : Program LoopI _).wp _ _ _
        split
        · exact suspend_follows calling toolId toolInput last block _
        · exact fail_follows calling.book _ _
      | succeeded output => exact recordResult_follows calling idle last _
      | failed error output => exact recordResult_follows calling idle last _

theorem issueCall_follows (settled : Settled input.limits l.state g)
    (more : l.state.toolCalls < input.limits.maxToolCalls) (toolId : String)
    (toolInput : List (String × Json)) :
    (issueCall host input l toolId toolInput).wp (ledgerProtocol input.limits)
      (Turned input l.state.turns) g := by
  unfold issueCall
  refine ⟨congrArg (· + 1) settled.issued, fun _ _ => ?_⟩
  let summary := summarizeJson host (.obj toolInput) 4000
  have calling : Calling input.limits _ ⟨l.state.toolCalls + 1, false⟩ :=
    { book := settled.book.issued settled.idle more toolId summary
      fresh := settled.book.unanswered toolId summary
      issued := rfl
      waits := rfl }
  show (persistState host input _ false >>= _).wp _ _ _
  refine Program.wp_seq (persistState_follows calling.book false) ?_
  rintro l' g' ⟨rfl, trims⟩
  have trimmed := calling.trims trims
  have last : l.state.toolCalls + 1 = l'.state.toolCalls := trimmed.issued.symm
  -- the new call has no result among those kept
  have none : l'.state.toolResultsByCallIndex.lookup (l.state.toolCalls + 1) = none := by
    rw [← Option.not_isSome_iff_eq_none, OrderedMap.lookup_isSome_iff, last]
    exact trimmed.fresh.results
  rw [none]
  have same : l'.state.turns = l.state.turns := trims.turns
  rw [← same]
  exact executeCall_follows trimmed (trims.pending.trans settled.idle) toolId toolInput last

theorem toolCall_follows (settled : Settled input.limits l.state g)
    (fields : List (String × Json)) :
    (toolCall host input l fields).wp (ledgerProtocol input.limits)
      (Turned input l.state.turns) g := by
  unfold toolCall
  split
  · split
    · exact fail_follows settled.book _ _
    · split
      · exact fail_follows settled.book _ _
      · split
        · split
          · exact fail_follows settled.book _ _
          · rename_i below
            exact issueCall_follows settled (Nat.lt_of_not_ge below) _ _
        · exact fail_follows settled.book _ _
  · exact fail_follows settled.book _ _

theorem answer_follows (settled : Settled input.limits l.state g) (content : String) :
    (answer host input l content).wp (ledgerProtocol input.limits)
      (Turned input l.state.turns) g := by
  unfold answer
  dsimp only
  split
  · exact fail_follows settled.book _ _
  · split
    · exact finish_follows settled.book _ _
    · split
      · exact toolCall_follows settled _
      · exact fail_follows settled.book _ _

theorem invoke_follows (settled : Settled input.limits l.state g) :
    (invoke host input l).wp (ledgerProtocol input.limits) (Turned input l.state.turns) g := by
  unfold invoke
  refine ⟨trivial, fun reply _ => ?_⟩
  cases reply with
  | threw => exact Ended.threw input.limits input.persistNodeId
  | failed error => exact fail_follows settled.book error _
  | ok content => exact answer_follows settled content

theorem turn_follows (settled : Settled input.limits l.state g)
    (more : l.state.turns < input.limits.maxTurns) :
    (turn host input l).wp (ledgerProtocol input.limits) (Turned input (l.state.turns + 1)) g := by
  let next : Loop := { l with state := { l.state with turns := l.state.turns + 1 } }
  have counted : Settled input.limits next.state g :=
    ⟨settled.book.turned more, settled.idle, settled.issued⟩
  unfold turn
  split
  · refine ⟨trivial, fun reply _ => ?_⟩
    cases reply with
    | true =>
      show (invoke host input next).wp _ _ _
      exact invoke_follows counted
    | false =>
      show (failReturning host input next _ >>= _).wp _ _ _
      exact Program.wp_seq (failReturning_follows counted.book _) fun outcome g' ended => ended
  · show (invoke host input next).wp _ _ _
    exact invoke_follows counted

theorem turns_follow (left : Nat) (settled : Settled input.limits l.state g)
    (within : l.state.turns + left = input.limits.maxTurns) :
    (turns host input left l).wp (ledgerProtocol input.limits)
      (Ended input.limits input.persistNodeId) g := by
  induction left generalizing l g with
  | zero =>
    refine ⟨trivial, fun reply _ => ?_⟩
    cases reply with
    | true => exact failReturning_follows settled.book _
    | false => exact failReturning_follows settled.book _
  | succ left ih =>
    refine ⟨trivial, fun reply _ => ?_⟩
    cases reply with
    | true => exact failReturning_follows settled.book _
    | false =>
      show (turn host input l >>= _).wp _ _ _
      refine Program.wp_seq (turn_follows settled (by omega)) fun next g' turned => ?_
      cases next with
      | inl l' => exact ih turned.1 (by rw [turned.2]; omega)
      | inr outcome => exact turned

theorem start_follows (settled : Settled input.limits l.state g) :
    (start host input l).wp (ledgerProtocol input.limits)
      (Ended input.limits input.persistNodeId) g := by
  unfold start
  refine ⟨trivial, fun reply _ => ?_⟩
  cases reply with
  | threw => exact Ended.threw input.limits input.persistNodeId
  | missing => exact Ended.failed input.limits input.persistNodeId _
  | found =>
    have := settled.book.turns_le
    exact turns_follow _ settled (by omega)

theorem resume_follows (calling : Calling input.limits l.state g) {pending : PendingToolCall}
    (waits : l.state.pendingToolCall = some pending) (pendingRemote : Json) :
    (resume host input l pending pendingRemote).wp (ledgerProtocol input.limits)
      (fun l' g' => Settled input.limits l'.state g') g := by
  have last := calling.book.pending_last pending waits
  unfold resume
  refine ⟨⟨last.trans calling.issued, calling.waits⟩, fun _ _ => ?_⟩
  rw [last]
  have book := (calling.book.recorded calling.fresh
    (remoteResult host pending.toolId (remoteOf pendingRemote))).settled
  show (persistState host input _ true).wp _ _ _
  refine Program.wp_mono ?_ (persistState_follows book true)
  rintro l' g' ⟨rfl, trims⟩
  exact Settled.trims ⟨book, rfl, calling.issued⟩ trims

theorem fresh_follows (new : (entered input).state = .empty) :
    (runAgentLoop host input).wp (ledgerProtocol input.limits)
      (Ended input.limits input.persistNodeId) ⟨0, true⟩ := by
  have settled : Settled input.limits (entered input).state ⟨0, true⟩ := by
    rw [new]
    exact ⟨.empty input.limits, rfl, rfl⟩
  unfold runAgentLoop
  dsimp only
  split
  · split
    · rw [new]
      exact Ended.failed input.limits input.persistNodeId _
    · exact start_follows settled
  · exact start_follows settled

theorem resumed_follows {remote : Json} (result : input.pendingRemoteResult = some remote)
    (truthy : remote.truthy = true)
    (suspended : (entered input).state.pendingToolCall = none ∨
      Calling input.limits (entered input).state g) :
    (runAgentLoop host input).wp (ledgerProtocol input.limits)
      (Ended input.limits input.persistNodeId) g := by
  unfold runAgentLoop
  simp only [result, truthy, ↓reduceIte]
  split
  · exact Ended.failed input.limits input.persistNodeId _
  · rename_i pending waits
    rcases suspended with idle | calling
    · rw [waits] at idle
      cases idle
    · exact Program.wp_seq (resume_follows calling waits remote) fun l' g' settled =>
        start_follows settled

end run

/-! ### Runs across suspensions -/

/-- The runs of the loop of one agent: it is started with no state of its own and, each time it is
suspended, resumed with a result from the runtime it returned. -/
inductive AgentRun (host : Host) (limits : Limits) (node : Option String) :
    List (Event LoopI) → Outcome → Prop where
  | start {input : AgentLoopInput} {trace : List (Event LoopI)} {outcome : Outcome}
      (limited : input.limits = limits) (persists : input.persistNodeId = node)
      (new : ∀ id, node = some id → input.runtime.agentRuns.lookup id = none)
      (first : input.pendingRemoteResult = none)
      (run : (runAgentLoop host input).Runs trace outcome) : AgentRun host limits node trace outcome
  | resume {input : AgentLoopInput} {before trace : List (Event LoopI)} {block : Block}
      {pending : PendingToolCall} {runtime : WorkflowRuntime} {remote : Json} {outcome : Outcome}
      (suspended : AgentRun host limits node before (.blocked block pending (some runtime)))
      (limited : input.limits = limits) (persists : input.persistNodeId = node)
      (kept : ∀ id, node = some id →
        input.runtime.agentRuns.lookup id = runtime.agentRuns.lookup id)
      (result : input.pendingRemoteResult = some remote) (truthy : remote.truthy = true)
      (run : (runAgentLoop host input).Runs trace outcome) :
      AgentRun host limits node (before ++ trace) outcome

section accounted
variable {host : Host} {limits : Limits} {node : Option String} {trace : List (Event LoopI)}
  {outcome : Outcome}

theorem entered_state {input : AgentLoopInput} (persists : input.persistNodeId = node) :
    (entered input).state =
      (node.bind fun id => input.runtime.agentRuns.lookup id).getD .empty := by
  rw [entered, persists]

theorem agentRun_follows (run : AgentRun host limits node trace outcome) :
    (ledgerProtocol limits).Permitted ⟨0, true⟩ trace ∧
      Ended limits node outcome ((ledgerProtocol limits).after ⟨0, true⟩ trace) := by
  induction run with
  | start limited persists new first run =>
    subst limited
    have empty := entered_state persists
    subst persists
    refine run.follows (fresh_follows ?_) fun _ _ => trivial
    rw [empty]
    cases node : AgentLoopInput.persistNodeId _ with
    | none => rfl
    | some id =>
      rw [Option.bind_some, new id node]
      rfl
  | @resume input before trace block pending runtime remote outcome suspended limited persists kept
      result truthy run ih =>
    subst limited
    have empty := entered_state persists
    subst persists
    obtain ⟨permitted, ended⟩ := ih
    have calling : (entered input).state.pendingToolCall = none ∨
        Calling input.limits (entered input).state
          ((ledgerProtocol input.limits).after ⟨0, true⟩ before) := by
      rw [empty]
      cases here : input.persistNodeId with
      | none => exact .inl rfl
      | some id =>
        rw [Option.bind_some, kept id here]
        cases stored : runtime.agentRuns.lookup id with
        | none => exact .inl rfl
        | some state =>
          refine .inr (ended.suspended block pending _ state rfl ?_)
          simp [Outcome.state, Outcome.runtime, here, stored]
    obtain ⟨later, ended⟩ := run.follows (resumed_follows result truthy calling) fun _ _ => trivial
    rw [Protocol.after_append]
    exact ⟨Protocol.permitted_append permitted later, ended⟩

/-- The indices of the calls announced. -/
def issuedIndices (trace : List (Event LoopI)) : List Nat :=
  trace.filterMap fun event => match event.op with
    | .call _ callIndex _ => some callIndex
    | _ => none

/-- The calls whose results were announced. -/
def resultIndices (trace : List (Event LoopI)) : List Nat :=
  trace.filterMap fun event => match event.op with
    | .result _ callIndex _ => some callIndex
    | _ => none

theorem issued_permitted {g : Ledger} (permitted : (ledgerProtocol limits).Permitted g trace) :
    issuedIndices trace = List.range' (g.issued + 1) (issuedIndices trace).length := by
  induction trace generalizing g with
  | nil => rfl
  | cons event rest ih =>
    obtain ⟨op, reply⟩ := event
    obtain ⟨first, later⟩ := permitted
    have rest := ih later
    cases op with
    | call toolId callIndex summary =>
      have next : callIndex = g.issued + 1 := first
      subst next
      simp only [issuedIndices, List.filterMap_cons, List.length_cons, List.range'_succ]
      exact congrArg _ rest
    | _ => exact rest

theorem result_permitted {g : Ledger} (permitted : (ledgerProtocol limits).Permitted g trace) :
    (resultIndices trace).Pairwise (· < ·) ∧ ∀ i ∈ resultIndices trace,
      (g.answered = false ∧ i = g.issued) ∨ i ∈ issuedIndices trace := by
  induction trace generalizing g with
  | nil => exact ⟨.nil, fun i mem => by cases mem⟩
  | cons event rest ih =>
    obtain ⟨op, reply⟩ := event
    obtain ⟨first, later⟩ := permitted
    obtain ⟨increase, known⟩ := ih later
    have issued := issued_permitted later
    cases op with
    | call toolId callIndex summary =>
      refine ⟨increase, fun i mem => .inr ?_⟩
      rcases known i mem with ⟨-, rfl⟩ | mem
      · exact List.mem_cons_self
      · exact List.mem_cons_of_mem _ mem
    | result toolId callIndex status =>
      obtain ⟨rfl, waits⟩ := first
      refine ⟨List.pairwise_cons.mpr ⟨fun i mem => ?_, increase⟩, fun i mem => ?_⟩
      · rcases known i mem with ⟨answered, -⟩ | mem
        · cases answered
        · rw [issued] at mem
          obtain ⟨k, -, rfl⟩ := List.mem_range'.mp mem
          show g.issued < g.issued + 1 + 1 * k
          omega
      · rcases List.mem_cons.mp mem with rfl | mem
        · exact .inl ⟨waits, rfl⟩
        · rcases known i mem with ⟨answered, -⟩ | mem
          · cases answered
          · exact .inr mem
    | _ => exact ⟨increase, known⟩

theorem permitted_mem {g : Ledger} (permitted : (ledgerProtocol limits).Permitted g trace)
    {event : Event LoopI} (mem : event ∈ trace) :
    (∀ id state checkpoint, event.op = .persist id state checkpoint → Bookkeeping limits state) ∧
      ∀ callIndex, event.op ≠ .cached callIndex := by
  induction trace generalizing g with
  | nil => cases mem
  | cons head rest ih =>
    obtain ⟨first, later⟩ := permitted
    rcases List.mem_cons.mp mem with rfl | mem
    · constructor
      · intro id state checkpoint here
        rw [here] at first
        exact first
      · intro callIndex here
        rw [here] at first
        exact first
    · exact ih later mem

/-- The budgets hold and the calls are accounted for, in a whole run. -/
structure Accounted (limits : Limits) (node : Option String) (trace : List (Event LoopI))
    (outcome : Outcome) : Prop where
  persisted : ∀ event ∈ trace, ∀ id state checkpoint,
    event.op = .persist id state checkpoint → Bookkeeping limits state
  returned : ∀ state, outcome.state node = some state → Bookkeeping limits state
  consecutive : issuedIndices trace = List.range' 1 (issuedIndices trace).length
  answered_once : (resultIndices trace).Pairwise (· < ·)
  answers_issued : resultIndices trace ⊆ issuedIndices trace
  uncached : ∀ event ∈ trace, ∀ callIndex, event.op ≠ .cached callIndex

/-- Budgets and bookkeeping hold across any number of suspensions. -/
theorem agent_run_accounted (run : AgentRun host limits node trace outcome) :
    Accounted limits node trace outcome := by
  obtain ⟨permitted, ended⟩ := agentRun_follows run
  obtain ⟨increase, known⟩ := result_permitted permitted
  exact {
    persisted := fun event mem => (permitted_mem permitted mem).1
    returned := ended.book
    consecutive := issued_permitted permitted
    answered_once := increase
    answers_issued := by
      intro i mem
      rcases known i mem with ⟨answered, -⟩ | mem
      · cases answered
      · exact mem
    uncached := fun event mem => (permitted_mem permitted mem).2 }

end accounted

/-! ### A suspended run -/

/-- A host on which the text `call` is a tool call and any other text a final output. -/
def scripted : Host where
  stringify _ := ""
  parse text :=
    if text = "call".toList then
      some (.obj [("type", .str "tool_call"), ("toolId", .str "shell.run"), ("input", .obj [])])
    else some (.obj [("type", .str "final"), ("output", .null)])
  slice text _ := text
  asText _ := ""
  isUuid _ := true
  validates _ _ := some true

def shellAgent (runtime : WorkflowRuntime) (remote : Option Json) : AgentLoopInput where
  nodeId := "agent"
  organizationSettings := .obj [("tools", .obj [("shellRunEnabled", .bool true)])]
  runtime
  pendingRemoteResult := remote
  allow := ["shell.run"]
  execution := .executor
  connectorSecrets := []
  limits := ⟨2, 1, 100, 100⟩
  output := ⟨false, none⟩
  usesManagedCredits := false
  persistNodeId := some "agent"
  allowRemoteBlocked := true

def shellBlock : Block where
  kind := .agentExecute
  payload := .null
  secret := none
  executorSelector := none
  timeoutMs := none

/-- The model answers with `content`, and the tool is executed remotely. -/
def shellReply (content : String) : (op : LoopOp) → op.Reply
  | .expired => false
  | .llmAuth => .found
  | .ensureAvailable _ => true
  | .llmInvoke _ => .ok content
  | .call _ _ _ | .result _ _ _ | .persist _ _ _ | .cached _ => ()
  | .execute _ _ _ _ => .blocked shellBlock

def suspendedLoop : Program LoopI Outcome :=
  runAgentLoop scripted (shellAgent ⟨[], none⟩ none)

def suspendedRuntime : WorkflowRuntime :=
  (suspendedLoop.valueWith (I := LoopI) (shellReply "call")).runtime.getD ⟨[], none⟩

def resumedLoop : Program LoopI Outcome :=
  runAgentLoop scripted (shellAgent suspendedRuntime (some (.obj [])))

theorem resumed_run : AgentRun scripted ⟨2, 1, 100, 100⟩ (some "agent")
    (suspendedLoop.traceWith (I := LoopI) (shellReply "call") ++
      resumedLoop.traceWith (I := LoopI) (shellReply "done"))
    (resumedLoop.valueWith (I := LoopI) (shellReply "done")) := by
  have suspended : AgentRun scripted ⟨2, 1, 100, 100⟩ (some "agent")
      (suspendedLoop.traceWith (I := LoopI) (shellReply "call"))
      (suspendedLoop.valueWith (I := LoopI) (shellReply "call")) :=
    .start rfl rfl (by simp [shellAgent]) rfl (Program.runs_with _ _)
  exact .resume suspended rfl rfl (fun _ _ => rfl) rfl rfl (Program.runs_with _ _)

theorem agent_run_accounted_resumed :
    Accounted ⟨2, 1, 100, 100⟩ (some "agent")
      (suspendedLoop.traceWith (I := LoopI) (shellReply "call") ++
        resumedLoop.traceWith (I := LoopI) (shellReply "done"))
      (resumedLoop.valueWith (I := LoopI) (shellReply "done")) := agent_run_accounted resumed_run

end Vespid.AgentRuntime
