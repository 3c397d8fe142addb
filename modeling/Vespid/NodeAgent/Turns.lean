import Vespid.NodeAgent.Sessions

/-!
# Turns and their cancellation

The turns of an executor while its engine runs: an inference call, which no abort reaches, or a
command that is tried with several argument lists and can be stopped.
-/

namespace Vespid.NodeAgent.Turns

/-! ### The engine -/

inductive AgentEngineId where
  | codex | claude | opencode
  deriving DecidableEq

/-- The engine of a session; `apiKey` is the trimmed key of the mode `inline_api_key`. -/
structure EngineConfig where
  engineId : AgentEngineId
  apiKey : String
  deriving DecidableEq

/-- How many argument lists the command is tried with. -/
def AgentEngineId.attempts : AgentEngineId → Nat
  | codex => 2
  | claude => 1
  | opencode => 2

/-- Where `executeEnginePrompt` is: in `runLlmInference`, or in `runCliCommand` with so many
argument lists left. -/
inductive EnginePhase where
  | inference
  | cli (left : Nat)
  deriving DecidableEq

def EngineConfig.start (config : EngineConfig) : EnginePhase :=
  if config.apiKey ≠ "" then .inference else .cli (config.engineId.attempts - 1)

/-- How `runCliCommand` ends: with the child's exit and its trimmed output, without a command, or
with an error that `runTurn` throws on. -/
inductive CliResult where
  | exited (exitCode : Int) (stdout stderr : String)
  | notFound
  | rejected
  deriving DecidableEq

/-- What a result of the command means for the turn: its end, or the next argument list. -/
def afterCli (aborted : Bool) (left : Nat) : CliResult → Except TurnFailure String ⊕ EnginePhase
  | .exited exitCode stdout stderr =>
    if aborted then .inl (.error { code := "TURN_CANCELED", message := "Turn canceled" })
    else if exitCode = 0 then .inl (.ok (if stdout = "" then "ok" else stdout))
    else match left with
      | left + 1 => .inr (.cli left)
      | 0 => .inl (.error
          { code := "EXECUTOR_CLI_FAILED"
            message := if stderr = "" then "CLI execution failed" else stderr })
  | .notFound => .inl (.error { code := "EXECUTOR_CLI_NOT_FOUND", message := "CLI_NOT_FOUND" })
  | .rejected => .inl (.error { code := "THROWN", message := "THROWN" })

/-! ### The executor -/

/-- A call of `runTurn` whose engine runs. -/
structure TurnCall where
  sessionId : String
  requestId : String
  context : Nat
  phase : EnginePhase
  deriving DecidableEq

/-- The sessions, the engine and the abort signal of each context, the calls that run, and a
record: the calls that a cancel was confirmed for, and those that have returned `ok` and pushed
their answer. -/
structure Executor where
  node : NodeSessions
  engines : Nat → EngineConfig
  aborted : Nat → Bool
  calls : Nat → Option TurnCall
  nextCall : Nat
  canceled : List Nat
  answered : List Nat

def Executor.empty : Executor where
  node := .empty
  engines _ := { engineId := .codex, apiKey := "" }
  aborted _ := false
  calls _ := none
  nextCall := 0
  canceled := []
  answered := []

inductive Action where
  | openSession (open_ : SessionOpen) (engine : EngineConfig)
  | runTurn (turn : SessionTurn)
  | cancelTurn (sessionId requestId : String)
  | inferred (call : Nat) (result : Except TurnFailure String)
  | cliEnded (call : Nat) (result : CliResult)

/-- `cancelTurn`: the context whose turn is aborted, where there is one. -/
def cancelTurn (node : NodeSessions) (sessionId requestId : String) : Option Nat :=
  (node.sessions sessionId).bind fun context =>
    (node.contexts context).bind fun ctx =>
      ctx.activeTurn.bind fun active => if active.requestId = requestId then some context else none

namespace Executor
variable (s : Executor)

def running (sessionId requestId : String) : List Nat :=
  (List.range s.nextCall).filter fun call => match s.calls call with
    | some running => running.sessionId = sessionId && running.requestId = requestId
    | none => false

/-- A call returns. -/
def finish (call : Nat) (running : TurnCall) (result : Except TurnFailure String) : Executor :=
  { s with
    node := match s.node.contexts running.context with
      | some ctx => s.node.setContext running.context (endTurn ctx result)
      | none => s.node
    calls := Function.update s.calls call none
    answered := match result with
      | .ok _ => call :: s.answered
      | .error _ => s.answered }

end Executor

def step (s : Executor) : Action → Option Executor
  | .openSession open_ engine =>
    some { s with
      node := openSession s.node open_
      engines := Function.update s.engines s.node.opened engine
      aborted := Function.update s.aborted s.node.opened false }
  | .runTurn turn =>
    match runTurn s.node turn with
    | .error _ => some s
    | .ok (context, ctx) =>
      some { s with
        node := s.node.setContext context ctx
        aborted := Function.update s.aborted context false
        calls := Function.update s.calls s.nextCall
          (some { sessionId := turn.sessionId, requestId := turn.requestId, context,
                  phase := (s.engines context).start })
        nextCall := s.nextCall + 1 }
  | .cancelTurn sessionId requestId =>
    match cancelTurn s.node sessionId requestId with
    | none => some s
    | some context =>
      some { s with
        aborted := Function.update s.aborted context true
        canceled := s.running sessionId requestId ++ s.canceled }
  | .inferred call result =>
    match s.calls call with
    | some running =>
      if running.phase = .inference then some (s.finish call running result) else none
    | none => none
  | .cliEnded call result =>
    match s.calls call with
    | some running =>
      match running.phase with
      | .cli left =>
        match afterCli (s.aborted running.context) left result with
        | .inl ended => some (s.finish call running ended)
        | .inr phase =>
          some { s with calls := Function.update s.calls call (some { running with phase }) }
      | .inference => none
    | none => none

/-- Runs whose steps all meet `C`. -/
inductive Runs (C : Executor → Action → Prop) (s : Executor) : Executor → Prop where
  | refl : Runs C s s
  | tail {t u : Executor} {a : Action} (run : Runs C s t) (meets : C t a)
      (stepped : step t a = some u) : Runs C s u

/-! ### The claim and its condition -/

/-- A call that ran when a cancel of its request was confirmed does not return `ok` and pushes no
answer; a session has one running call at most. -/
structure Effective (s : Executor) : Prop where
  canceled : ∀ call ∈ s.canceled, call ∉ s.answered
  exclusive : ∀ c d (first second : TurnCall), s.calls c = some first → s.calls d = some second →
    first.sessionId = second.sessionId → c = d

/-- No session is opened again while a turn of it runs, and no inference succeeds for a turn that
was aborted. -/
def Undisturbed (s : Executor) : Action → Prop
  | .openSession open_ _ => ∀ call ∈ List.range s.nextCall, ∀ running ∈ s.calls call,
      running.sessionId ≠ open_.sessionId
  | .inferred call (.ok _) => ∀ running ∈ s.calls call, s.aborted running.context = false
  | _ => True

instance (s : Executor) (a : Action) : Decidable (Undisturbed s a) := by
  unfold Undisturbed
  split <;> infer_instance

/-! ### The invariant -/

/-- A running call holds its session's context. -/
structure Holds (node : NodeSessions) (running : TurnCall) : Prop where
  session : node.sessions running.sessionId = some running.context
  context : ∃ ctx, node.contexts running.context = some ctx ∧
    ∃ active, ctx.activeTurn = some active ∧ active.requestId = running.requestId

structure TurnsInv (s : Executor) : Prop where
  opened : ∀ sessionId context, s.node.sessions sessionId = some context →
    context < s.node.opened
  apart : ∀ sessionId other context, s.node.sessions sessionId = some context →
    s.node.sessions other = some context → sessionId = other
  holds : ∀ call running, s.calls call = some running → Holds s.node running
  fresh : ∀ call running, s.calls call = some running → call < s.nextCall
  exclusive : ∀ c d (first second : TurnCall), s.calls c = some first → s.calls d = some second →
    first.sessionId = second.sessionId → c = d
  aborted : ∀ call ∈ s.canceled, ∀ running, s.calls call = some running →
    s.aborted running.context = true
  past : ∀ call ∈ s.canceled, call < s.nextCall
  answered : ∀ call ∈ s.answered, call < s.nextCall ∧ s.calls call = none
  effective : ∀ call ∈ s.canceled, call ∉ s.answered

section step
variable {s t : Executor}

theorem openSession_current (node : NodeSessions) (open_ : SessionOpen) (sessionId : String) :
    (openSession node open_).sessions sessionId =
      if sessionId = open_.sessionId then some node.opened else node.sessions sessionId := by
  simp [openSession, Function.update_apply]

theorem turnsInv_open (inv : TurnsInv s) {open_ : SessionOpen} {engine : EngineConfig}
    (idle : ∀ call ∈ List.range s.nextCall, ∀ running ∈ s.calls call,
      running.sessionId ≠ open_.sessionId) :
    TurnsInv { s with
      node := openSession s.node open_
      engines := Function.update s.engines s.node.opened engine
      aborted := Function.update s.aborted s.node.opened false } where
  opened sessionId context there := by
    show context < s.node.opened + 1
    rw [openSession_current] at there
    split at there
    · cases there
      exact Nat.lt_succ_self _
    · exact Nat.lt_succ_of_lt (inv.opened sessionId context there)
  apart sessionId other context first second := by
    rw [openSession_current] at first second
    split at first <;> split at second
    · next a b => exact a.trans b.symm
    · cases first
      exact absurd (inv.opened other _ second) (Nat.lt_irrefl _)
    · cases second
      exact absurd (inv.opened sessionId _ first) (Nat.lt_irrefl _)
    · exact inv.apart sessionId other context first second
  holds call running there := by
    have held := inv.holds call running there
    have other := idle call (List.mem_range.mpr (inv.fresh call running there)) running there
    have older := inv.opened _ _ held.session
    refine ⟨?_, ?_⟩
    · rw [openSession_current, if_neg other]
      exact held.session
    · show ∃ ctx, (openSession s.node open_).contexts running.context = some ctx ∧ _
      simp only [openSession, Function.update_of_ne (Nat.ne_of_lt older)]
      exact held.context
  fresh := inv.fresh
  exclusive := inv.exclusive
  aborted call mem running there := by
    have older := inv.opened _ _ (inv.holds call running there).session
    show Function.update s.aborted s.node.opened false running.context = true
    rw [Function.update_of_ne (Nat.ne_of_lt older)]
    exact inv.aborted call mem running there
  past := inv.past
  answered := inv.answered
  effective := inv.effective

/-- Two running calls in one context are one call. -/
theorem context_exclusive (inv : TurnsInv s) {c d : Nat} {first second : TurnCall}
    (one : s.calls c = some first) (two : s.calls d = some second)
    (same : first.context = second.context) : c = d := by
  refine inv.exclusive c d first second one two ?_
  have session := (inv.holds d second two).session
  rw [← same] at session
  exact inv.apart _ _ _ (inv.holds c first one).session session

theorem turnsInv_begin (inv : TurnsInv s) {turn : SessionTurn} {context : Nat}
    {ctx' : SessionContext} (begun : runTurn s.node turn = .ok (context, ctx')) :
    TurnsInv { s with
      node := s.node.setContext context ctx'
      aborted := Function.update s.aborted context false
      calls := Function.update s.calls s.nextCall
        (some { sessionId := turn.sessionId, requestId := turn.requestId, context,
                phase := (s.engines context).start })
      nextCall := s.nextCall + 1 } := by
  obtain ⟨ctx, session, there, started⟩ := runTurn_ok begun
  obtain ⟨idle, -, rfl⟩ := beginTurn_ok started
  -- no call runs in the context of a turn that begins
  have free : ∀ call running, s.calls call = some running → running.context ≠ context := by
    rintro call running is rfl
    obtain ⟨held, now, active, runs, -⟩ := (inv.holds call running is).context
    cases there.symm.trans now
    rw [idle] at runs
    cases runs
  have old {call : Nat} {running : TurnCall} {new : TurnCall}
      (is : Function.update s.calls s.nextCall (some new) call = some running) :
      (call = s.nextCall ∧ running = new) ∨ s.calls call = some running := by
    by_cases same : call = s.nextCall
    · subst same
      exact .inl ⟨rfl, by simpa using is.symm⟩
    · rw [Function.update_of_ne same] at is
      exact .inr is
  refine ⟨inv.opened, inv.apart, ?_, ?_, ?_, ?_, ?_, ?_, inv.effective⟩
  · intro call running is
    rcases old is with ⟨-, rfl⟩ | is
    · exact ⟨session, _, Function.update_self .., _, rfl, rfl⟩
    · have held := inv.holds call running is
      refine ⟨held.session, ?_⟩
      show ∃ ctx, (s.node.setContext context _).contexts running.context = some ctx ∧ _
      simp only [NodeSessions.setContext, Function.update_of_ne (free call running is)]
      exact held.context
  · intro call running is
    rcases old is with ⟨rfl, -⟩ | is
    · exact Nat.lt_succ_self _
    · exact Nat.lt_succ_of_lt (inv.fresh call running is)
  · intro c d first second one two same
    have apart {call : Nat} {running : TurnCall} (is : s.calls call = some running) :
        running.sessionId ≠ turn.sessionId := by
      intro same
      have held := (inv.holds call running is).session
      rw [same, session] at held
      exact free call running is (Option.some.inj held).symm
    rcases old one with ⟨rfl, rfl⟩ | one <;> rcases old two with ⟨rfl, rfl⟩ | two
    · rfl
    · exact absurd same.symm (apart two)
    · exact absurd same (apart one)
    · exact inv.exclusive c d first second one two same
  · intro call mem running is
    rcases old is with ⟨rfl, -⟩ | is
    · exact absurd (inv.past _ mem) (Nat.lt_irrefl _)
    · show Function.update s.aborted context false running.context = true
      rw [Function.update_of_ne (free call running is)]
      exact inv.aborted call mem running is
  · exact fun call mem => Nat.lt_succ_of_lt (inv.past call mem)
  · intro call mem
    obtain ⟨small, gone⟩ := inv.answered call mem
    refine ⟨Nat.lt_succ_of_lt small, ?_⟩
    show Function.update s.calls s.nextCall _ call = none
    rw [Function.update_of_ne (Nat.ne_of_lt small)]
    exact gone

theorem mem_running {sessionId requestId : String} {call : Nat}
    (mem : call ∈ s.running sessionId requestId) : call < s.nextCall ∧
      ∃ running, s.calls call = some running ∧ running.sessionId = sessionId := by
  obtain ⟨small, fits⟩ := List.mem_filter.mp mem
  cases is : s.calls call with
  | none => simp [is] at fits
  | some running =>
    simp only [is, Bool.and_eq_true, decide_eq_true_eq] at fits
    exact ⟨List.mem_range.mp small, running, rfl, fits.1⟩

theorem turnsInv_cancel (inv : TurnsInv s) {sessionId requestId : String} {context : Nat}
    (hit : cancelTurn s.node sessionId requestId = some context) :
    TurnsInv { s with
      aborted := Function.update s.aborted context true
      canceled := s.running sessionId requestId ++ s.canceled } := by
  have session : s.node.sessions sessionId = some context := by
    obtain ⟨found, there, hit⟩ := Option.bind_eq_some_iff.mp hit
    obtain ⟨ctx, -, hit⟩ := Option.bind_eq_some_iff.mp hit
    obtain ⟨active, -, hit⟩ := Option.bind_eq_some_iff.mp hit
    split at hit
    · cases hit
      exact there
    · cases hit
  refine ⟨inv.opened, inv.apart, inv.holds, inv.fresh, inv.exclusive, ?_, ?_, inv.answered, ?_⟩
  · intro call mem running is
    by_cases here : running.context = context
    · rw [here]
      exact Function.update_self ..
    · show Function.update s.aborted context true running.context = true
      rw [Function.update_of_ne here]
      rcases List.mem_append.mp mem with now | before
      · obtain ⟨-, other, there, same⟩ := mem_running now
        cases is.symm.trans there
        have held := (inv.holds call running is).session
        rw [same, session] at held
        exact absurd (Option.some.inj held).symm here
      · exact inv.aborted call before running is
  · intro call mem
    rcases List.mem_append.mp mem with now | before
    · exact (mem_running now).1
    · exact inv.past call before
  · intro call mem answered
    rcases List.mem_append.mp mem with now | before
    · obtain ⟨-, running, is, -⟩ := mem_running now
      rw [(inv.answered call answered).2] at is
      cases is
    · exact inv.effective call before answered

theorem turnsInv_finish (inv : TurnsInv s) {call : Nat} {running : TurnCall}
    (is : s.calls call = some running) {result : Except TurnFailure String}
    (effective : ∀ content, result = .ok content → s.aborted running.context = false) :
    TurnsInv (s.finish call running result) := by
  obtain ⟨ctx, there, -⟩ := (inv.holds call running is).context
  have node : (s.finish call running result).node =
      s.node.setContext running.context (endTurn ctx result) := by
    simp [Executor.finish, there]
  have others {other : Nat} {second : TurnCall}
      (still : (s.finish call running result).calls other = some second) :
      other ≠ call ∧ s.calls other = some second := by
    by_cases same : other = call
    · subst same
      simp [Executor.finish] at still
    · exact ⟨same, by simpa [Executor.finish, Function.update_of_ne same] using still⟩
  refine ⟨?_, ?_, ?_, ?_, ?_, ?_, inv.past, ?_, ?_⟩
  · rw [node]
    exact inv.opened
  · rw [node]
    exact inv.apart
  · intro other second still
    obtain ⟨different, before⟩ := others still
    have held := inv.holds other second before
    rw [node]
    refine ⟨held.session, ?_⟩
    have apart : second.context ≠ running.context :=
      fun same => different (context_exclusive inv before is same)
    simp only [NodeSessions.setContext, Function.update_of_ne apart]
    exact held.context
  · exact fun other second still => inv.fresh other second (others still).2
  · intro c d first second one two same
    exact inv.exclusive c d first second (others one).2 (others two).2 same
  · exact fun other mem second still => inv.aborted other mem second (others still).2
  · intro other mem
    have gone : (s.finish call running result).calls call = none := Function.update_self ..
    have ended : other = call ∨ other ∈ s.answered := by
      cases result with
      | ok content => exact List.mem_cons.mp mem
      | error failure => exact .inr mem
    rcases ended with rfl | before
    · exact ⟨inv.fresh _ running is, gone⟩
    · obtain ⟨small, before⟩ := inv.answered other before
      refine ⟨small, ?_⟩
      by_cases same : other = call
      · rw [same]
        exact gone
      · show Function.update s.calls call none other = none
        rw [Function.update_of_ne same]
        exact before
  · intro other canceled mem
    cases result with
    | error failure => exact inv.effective other canceled mem
    | ok content =>
      rcases List.mem_cons.mp mem with rfl | before
      · have quiet := effective content rfl
        rw [inv.aborted _ canceled running is] at quiet
        cases quiet
      · exact inv.effective other canceled before

theorem turnsInv_retry (inv : TurnsInv s) {call : Nat} {running : TurnCall}
    (is : s.calls call = some running) (phase : EnginePhase) :
    TurnsInv { s with calls := Function.update s.calls call (some { running with phase }) } := by
  have others {other : Nat} {second : TurnCall}
      (still : Function.update s.calls call (some { running with phase }) other = some second) :
      ∃ before, s.calls other = some before ∧ before.sessionId = second.sessionId ∧
        before.requestId = second.requestId ∧ before.context = second.context := by
    by_cases same : other = call
    · subst same
      cases (by simpa using still : some _ = some second)
      exact ⟨running, is, rfl, rfl, rfl⟩
    · rw [Function.update_of_ne same] at still
      exact ⟨second, still, rfl, rfl, rfl⟩
  refine ⟨inv.opened, inv.apart, ?_, ?_, ?_, ?_, inv.past, ?_, inv.effective⟩
  · intro other second still
    obtain ⟨before, there, session, request, context⟩ := others still
    have held := inv.holds other before there
    refine ⟨?_, ?_⟩
    · show s.node.sessions second.sessionId = some second.context
      rw [← session, ← context]
      exact held.session
    · show ∃ ctx, s.node.contexts second.context = some ctx ∧
        ∃ active, ctx.activeTurn = some active ∧ active.requestId = second.requestId
      rw [← context, ← request]
      exact held.context
  · intro other second still
    obtain ⟨before, there, -⟩ := others still
    exact inv.fresh other before there
  · intro c d first second one two same
    obtain ⟨a, thereA, sessionA, -⟩ := others one
    obtain ⟨b, thereB, sessionB, -⟩ := others two
    exact inv.exclusive c d a b thereA thereB (sessionA.trans (same.trans sessionB.symm))
  · intro other mem second still
    obtain ⟨before, there, -, -, context⟩ := others still
    rw [← context]
    exact inv.aborted other mem before there
  · intro other mem
    obtain ⟨small, gone⟩ := inv.answered other mem
    refine ⟨small, ?_⟩
    show Function.update s.calls call _ other = none
    rw [Function.update_of_ne]
    · exact gone
    · rintro rfl
      rw [gone] at is
      cases is

/-- A command that ends with an answer was not aborted. -/
theorem not_aborted_of_ok {aborted : Bool} {left : Nat} {result : CliResult} {content : String}
    (ended : afterCli aborted left result = .inl (.ok content)) : aborted = false := by
  cases aborted with
  | false => rfl
  | true => cases result <;> simp [afterCli] at ended

theorem turnsInv_step {a : Action} (inv : TurnsInv s) (undisturbed : Undisturbed s a)
    (stepped : step s a = some t) : TurnsInv t := by
  cases a with
  | openSession open_ engine =>
    cases stepped
    exact turnsInv_open inv undisturbed
  | runTurn turn =>
    simp only [step] at stepped
    split at stepped
    · cases stepped
      exact inv
    · next begun =>
      cases stepped
      exact turnsInv_begin inv begun
  | cancelTurn sessionId requestId =>
    simp only [step] at stepped
    split at stepped
    · cases stepped
      exact inv
    · next hit =>
      cases stepped
      exact turnsInv_cancel inv hit
  | inferred call result =>
    simp only [step] at stepped
    split at stepped
    · next running is =>
      split at stepped
      · cases stepped
        refine turnsInv_finish inv is ?_
        rintro content rfl
        exact undisturbed running is
      · cases stepped
    · cases stepped
  | cliEnded call result =>
    simp only [step] at stepped
    split at stepped
    · next running is =>
      split at stepped
      · split at stepped
        · next ended =>
          cases stepped
          refine turnsInv_finish inv is ?_
          rintro content rfl
          exact not_aborted_of_ok ended
        · cases stepped
          exact turnsInv_retry inv is _
      · cases stepped
    · cases stepped

end step

theorem turnsInv_run {s : Executor} (run : Runs Undisturbed .empty s) : TurnsInv s := by
  induction run with
  | refl =>
    exact ⟨by simp [Executor.empty, NodeSessions.empty],
      by simp [Executor.empty, NodeSessions.empty],
      by simp [Executor.empty], by simp [Executor.empty], by simp [Executor.empty],
      by simp [Executor.empty], by simp [Executor.empty], by simp [Executor.empty],
      by simp [Executor.empty]⟩
  | tail _ meets stepped ih => exact turnsInv_step ih meets stepped

/-- A confirmed cancel is effective and turns of a session exclude each other, while no session is
opened again during a turn of it and no inference succeeds for an aborted turn. -/
theorem cancels_effective (s : Executor) (run : Runs Undisturbed .empty s) : Effective s :=
  have inv := turnsInv_run run
  ⟨inv.effective, inv.exclusive⟩

/-! ### Sessions with and without a key -/

/-- The listed actions in order, each where `Undisturbed` holds if `strict`. -/
def exec (strict : Bool) (s : Executor) : List Action → Option Executor
  | [] => some s
  | a :: rest =>
    if !strict || Undisturbed s a then (step s a).bind fun t => exec strict t rest else none

theorem runs_of_exec {C : Executor → Action → Prop} {strict : Bool}
    (meets : ∀ s a, (!strict || Undisturbed s a) = true → C s a) {s t u : Executor}
    {actions : List Action} (start : Runs C s t) (ran : exec strict t actions = some u) :
    Runs C s u := by
  induction actions generalizing t with
  | nil =>
    obtain rfl := Option.some.inj ran
    exact start
  | cons a rest ih =>
    rw [exec] at ran
    split at ran
    · next allowed =>
      obtain ⟨next, stepped, ran⟩ := Option.bind_eq_some_iff.mp ran
      exact ih (start.tail (meets t a allowed) stepped) ran
    · cases ran

def sampleOpen : SessionOpen where
  sessionId := "session"
  system := none
  instructions := "help"
  maxTurns := 4

def sampleTurn : SessionTurn where
  requestId := "turn"
  sessionId := "session"
  message := "hello"

/-- A turn that is canceled while its engine runs. -/
def canceledTurn (apiKey : String) (ended : Action) : List Action :=
  [.openSession sampleOpen { engineId := .claude, apiKey }, .runTurn sampleTurn,
    .cancelTurn "session" "turn", ended]

/-- The command of a canceled turn exits as if it had succeeded. -/
theorem cancels_effective_cli : ∃ s, Runs Undisturbed .empty s ∧
    (s.canceled, s.answered) = ([0], []) ∧ Effective s := by
  have done : ((exec true .empty (canceledTurn "" (.cliEnded 0 (.exited 0 "done" "")))).map
      fun s => (s.canceled, s.answered)) = some ([0], []) := by decide +kernel
  obtain ⟨s, ran, records⟩ := Option.map_eq_some_iff.mp done
  have run : Runs Undisturbed .empty s := runs_of_exec (fun s a ok => by simpa using ok) .refl ran
  exact ⟨s, run, records, cancels_effective s run⟩

/-- The inference of a canceled turn answers. -/
theorem cancel_ignored : ¬ ∀ s, Runs (fun _ _ => True) .empty s → Effective s := by
  intro claim
  have done : ((exec false .empty (canceledTurn "key" (.inferred 0 (.ok "done")))).map
      fun s => (s.canceled, s.answered)) = some ([0], [0]) := by decide +kernel
  obtain ⟨s, ran, records⟩ := Option.map_eq_some_iff.mp done
  obtain ⟨canceled, answered⟩ := Prod.mk.inj records
  have effective := (claim s (runs_of_exec (fun _ _ _ => trivial) .refl ran)).canceled 0
    (by rw [canceled]; exact List.mem_cons_self)
  rw [answered] at effective
  exact effective List.mem_cons_self

end Vespid.NodeAgent.Turns
