import Vespid.Run.Discipline
import Vespid.Worker.Footprint

/-!
# The policy gate

The rules a delivery has read and the node it has just found approved. An executor is reached
only where these rules allow its node, or require an approval that was found by the very
operation before.
-/

namespace Vespid

open Interleaving Worker Workflow

structure Gate where
  rules : Option (List OrgPolicyRule) := none
  approved : Option String := none

namespace Gate

/-- The rules let the node through, or the node was just found approved. -/
def admits (g : Gate) (context : ExecutorContext) : Prop :=
  ∃ rules, g.rules = some rules ∧
    match (evaluateNodePolicy (buildNodePolicyContext context.node) rules).decision with
    | .allow => True
    | .requireApproval => g.approved = some context.node.id
    | .deny => False

def permits (g : Gate) : RunOp → Prop
  | .execute context => g.admits context
  | _ => True

def observe (g : Gate) : (op : RunOp) → op.Reply → Gate
  | .listOrganizationPolicyRules, rules => { rules := some rules }
  | .hasApprovedWorkflowApprovalForRunNode nodeId, found =>
    { rules := g.rules, approved := if found then some nodeId else none }
  | _, _ => { rules := g.rules }

end Gate

def gateProtocol : Protocol RunOps Gate where
  permits := Gate.permits
  expects _ _ := True
  observe := Gate.observe

/-- Neither reads the rules nor reaches an executor. -/
def RunOp.passive : RunOp → Bool
  | .listOrganizationPolicyRules | .execute _ => false
  | _ => true

/-- A program of passive operations. -/
abbrev Passive {α : Type} (q : RunProgram α) : Prop := q.Only fun op : RunOp => op.passive = true

variable {env : RunEnv} {d : Delivery} {p : Progress} {g : Gate}

theorem passive_of_ordinary {α : Type} {q : RunProgram α} (ordinary : Ordinary q) : Passive q := by
  refine Program.only_mono (fun op known => ?_) ordinary
  cases op <;> first | rfl | cases known

theorem Gate.permits_passive {op : RunOp} (passive : op.passive) : g.permits op := by
  cases op <;> trivial

theorem Gate.observe_passive {op : RunOp} (passive : op.passive) (reply : op.Reply) :
    (g.observe op reply).rules = g.rules := by
  cases op <;> first | rfl | cases passive

/-- A passive program keeps the rules its handler read. -/
theorem gated_of_passive {α : Type} {q : RunProgram α} (only : Passive q)
    (rules : Option (List OrgPolicyRule)) (read : g.rules = rules) :
    q.wp gateProtocol (fun _ g => g.rules = rules) g :=
  Program.wp_of_only (fun g : Gate => g.rules = rules) only
    (fun _ _ _ passive => Gate.permits_passive passive)
    (fun _ _ reply read passive => (Gate.observe_passive passive reply).trans read) read

/-! ### Passive programs -/

section passive

theorem succeedAttempt_passive : Passive (succeedAttempt d p) := by
  simp [succeedAttempt, appendEvent, RunOp.passive]

theorem finishGraph_passive (dsl : WorkflowDslV3) (m : StepMap) :
    Passive (finishGraph env d dsl m p) :=
  Program.only_bind (passive_of_ordinary (appendSkipped_ordinary _)) fun _ => succeedAttempt_passive

theorem applyRemoteFailure_passive (payload : ContinuationPayload) (node : WorkflowNode)
    (message : String) : Passive (applyRemoteFailure env payload node message) := by
  simp only [applyRemoteFailure, appendContinuationEvent, ask, Program.issue_eq,
    Program.call_bind, Program.done_bind, Program.only_call]
  refine ⟨rfl, fun _ => ⟨rfl, fun _ => ?_⟩⟩
  split <;> simp [enqueue, RunOp.passive]

theorem applyRemoteResult_passive (payload : ContinuationPayload) (run : WorkflowRun)
    (node : WorkflowNode) (result : GatewayDispatchResponse) :
    Passive (applyRemoteResult env payload run node result) := by
  unfold applyRemoteResult
  cases result.status with
  | failed => exact applyRemoteFailure_passive payload node _
  | succeeded =>
    simp only [applyRemoteSuccess, appendContinuationEvent, ask, Program.issue_eq,
      Program.call_bind, Program.done_bind, Program.only_call]
    refine ⟨rfl, fun _ => ⟨rfl, fun cleared => ?_⟩⟩
    cases cleared <;> simp [enqueue, RunOp.passive]

theorem processBlocked_passive (payload : ContinuationPayload) (run : WorkflowRun)
    (node : WorkflowNode) : Passive (processBlocked env payload run node) := by
  unfold processBlocked
  cases payload.kind with
  | event level kind => simp [appendContinuationEvent, RunOp.passive]
  | apply result =>
    exact Program.only_bind (applyRemoteResult_passive payload run node result) fun _ => trivial
  | poll =>
    simp only [ask, Program.issue_eq, Program.call_bind, Program.done_bind, Program.only_call]
    refine ⟨rfl, fun now => ?_⟩
    split
    · exact Program.only_bind (applyRemoteFailure_passive payload node _) fun _ => trivial
    · refine ⟨rfl, fun fetched => ?_⟩
      dsimp only
      split
      · exact Program.only_bind (applyRemoteFailure_passive payload node _) fun _ => trivial
      · exact trivial
      · exact Program.only_bind (applyRemoteResult_passive payload run node _) fun _ => trivial

theorem processContinuationPayload_passive (payload : ContinuationPayload) :
    Passive (processContinuationPayload env payload) := by
  simp only [processContinuationPayload, ask, Program.issue_eq, Program.call_bind, Program.done_bind,
    Program.only_call]
  refine ⟨rfl, fun run => ?_⟩
  cases run with
  | none => exact trivial
  | some run =>
    dsimp only
    split
    · exact trivial
    · split
      · exact trivial
      · split
        · exact trivial
        · refine ⟨rfl, fun workflow => ?_⟩
          cases workflow with
          | none => exact trivial
          | some workflow =>
            dsimp only
            split
            · exact trivial
            · split
              · simp [RunOp.passive]
              · exact processBlocked_passive payload run _

theorem resumeApproved_passive (approval : WorkflowApprovalRequest) :
    Passive (Api.resumeApproved env approval) := by
  simp only [Api.resumeApproved, ask, Program.issue_eq, Program.call_bind, Program.done_bind,
    Program.only_call]
  refine ⟨rfl, fun run => ?_⟩
  cases run with
  | none => exact trivial
  | some run =>
    simp only [Program.only_call]
    refine ⟨rfl, fun cleared => ?_⟩
    cases cleared <;> simp [Api.appendDecision, Api.enqueueWorkflowRun, RunOp.passive]

theorem failRejected_passive (approval : WorkflowApprovalRequest) :
    Passive (Api.failRejected approval) := by
  simp only [Api.failRejected, ask, Program.issue_eq, Program.call_bind, Program.done_bind,
    Program.only_call]
  refine ⟨rfl, fun run => ?_⟩
  cases run <;> simp [Api.appendDecision, RunOp.passive]

theorem approve_passive (id : Uuid) (note : Option String) :
    Passive (Api.approve env id note) := by
  simp only [Api.approve, ask, Program.issue_eq, Program.call_bind, Program.done_bind,
    Program.only_call]
  refine ⟨rfl, fun existing => ?_⟩
  cases existing with
  | none => exact trivial
  | some existing =>
    dsimp only
    split
    · exact trivial
    · refine ⟨rfl, fun now => ?_⟩
      dsimp only
      split
      · simp [RunOp.passive]
      · refine ⟨rfl, fun approval => ?_⟩
        cases approval with
        | none => exact trivial
        | some approval =>
          exact resumeApproved_passive approval

theorem reject_passive (id : Uuid) (note : Option String) :
    Passive (Api.reject id note) := by
  simp only [Api.reject, ask, Program.issue_eq, Program.call_bind, Program.done_bind,
    Program.only_call]
  refine ⟨rfl, fun existing => ?_⟩
  cases existing with
  | none => exact trivial
  | some existing =>
    dsimp only
    split
    · exact trivial
    · refine ⟨rfl, fun approval => ?_⟩
      cases approval with
      | none => exact trivial
      | some approval =>
        exact failRejected_passive approval

end passive

/-! ### Deliveries -/

/-- The rules a delivery between iterations works under. -/
def Worker.NodeLoop.policyRules : NodeLoop → List OrgPolicyRule
  | .v2 d _ _ _ | .v3 d _ _ _ => d.policyRules

/-- A loop goes on under the rules its handler read, with nothing found approved. -/
def Gate.Looping (v : NodeLoop ⊕ Outcome) (g : Gate) : Prop :=
  ∀ loop, v = .inl loop → g.rules = some loop.policyRules ∧ g.approved = none

theorem runExecutor_gated (node : WorkflowNode) (cursor : Nat) (read : g.rules = some d.policyRules)
    (open_ : g.admits (executorContext env d p node)) :
    (runExecutor env d p node cursor).wp gateProtocol
      (fun _ g => g.rules = some d.policyRules) g := by
  unfold runExecutor
  split
  · exact ⟨trivial, fun _ _ => read⟩
  · exact ⟨open_, fun answer _ => gated_of_passive (passive_of_ordinary (recordResult_ordinary node _ cursor)) _ read⟩

theorem executeNode_gated (node : WorkflowNode) (cursor : Nat)
    (read : g.rules = some d.policyRules) :
    (executeNode env d p node cursor).wp gateProtocol
      (fun _ g => g.rules = some d.policyRules) g := by
  refine ⟨trivial, fun _ _ => ?_⟩
  simp only [ask, Program.issue_eq, Program.call_bind, Program.done_bind]
  cases decision : (evaluateNodePolicy (buildNodePolicyContext node) d.policyRules).decision with
  | allow =>
    exact runExecutor_gated node cursor read ⟨d.policyRules, read, by simp [executorContext, decision]⟩
  | deny => exact ⟨trivial, fun _ _ => read⟩
  | requireApproval =>
    refine ⟨trivial, fun hasApproval _ => ?_⟩
    cases hasApproval with
    | true =>
      refine runExecutor_gated node cursor read ⟨d.policyRules, read, ?_⟩
      simp [executorContext, decision, gateProtocol, Gate.observe]
    | false => exact gated_of_passive (passive_of_ordinary (requestApproval_ordinary node _ cursor)) _ read

theorem ended_gated {q : RunProgram Outcome} (only : Passive q) :
    (q >>= fun o => Program.done (Sum.inr o)).wp gateProtocol Gate.Looping g :=
  Program.wp_seq (gated_of_passive only _ rfl) fun _ _ _ _ same => nomatch same

theorem recordStep_gated (dsl : WorkflowDslV3) (m : StepMap) (node : WorkflowNode) (output : Json)
    (read : g.rules = some d.policyRules) :
    (recordStep env d dsl m p node output).wp gateProtocol Gate.Looping g := by
  refine ⟨trivial, fun _ _ => ⟨trivial, fun _ _ => ⟨trivial, fun _ _ => ?_⟩⟩⟩
  rintro _ ⟨⟩
  exact ⟨read, rfl⟩

theorem graphIteration_gated (dsl : WorkflowDslV3) (m : StepMap)
    (read : g.rules = some d.policyRules) :
    (graphIteration env d dsl m p).wp gateProtocol Gate.Looping g := by
  have executed (node : WorkflowNode) : (executeNode env d p node 0 >>= afterNode env d dsl m).wp
      gateProtocol Gate.Looping g := by
    refine Program.wp_seq (executeNode_gated node 0 read) fun outcome g read => ?_
    cases outcome with
    | blocked => exact fun _ same => (by cases same)
    | threw message => exact ended_gated (passive_of_ordinary (failAttempt_ordinary _ message))
    | finished p =>
      refine ⟨trivial, fun _ _ => ?_⟩
      rintro _ ⟨⟩
      exact ⟨read, rfl⟩
  unfold graphIteration
  split
  · exact ended_gated (finishGraph_passive dsl m)
  · split
    · exact ⟨trivial, fun _ _ => ⟨trivial, fun _ _ => ended_gated (passive_of_ordinary (failAttempt_ordinary _ _))⟩⟩
    · exact recordStep_gated dsl m _ _ read
    · exact recordStep_gated dsl m _ _ read
    · exact executed _

theorem listIteration_gated (nodes : List WorkflowNode) (index : Nat)
    (read : g.rules = some d.policyRules) :
    (listIteration env d nodes index p).wp gateProtocol Gate.Looping g := by
  unfold listIteration
  split
  · exact ended_gated succeedAttempt_passive
  · refine Program.wp_seq (executeNode_gated _ index read) fun outcome g read => ?_
    cases outcome with
    | blocked => exact fun _ same => nomatch same
    | threw message => exact ended_gated (passive_of_ordinary (failAttempt_ordinary _ message))
    | finished p =>
      refine ⟨trivial, fun _ _ => ?_⟩
      rintro _ ⟨⟩
      exact ⟨read, rfl⟩

theorem startLoop_gated (cursor : Nat) (dsl : Option WorkflowDslAny)
    (read : g.rules = some d.policyRules) (none : g.approved = none) :
    (startLoop env d cursor p dsl).wp gateProtocol Gate.Looping g := by
  unfold startLoop
  split
  · exact ended_gated (passive_of_ordinary (failAttempt_ordinary _ _))
  · rintro _ ⟨⟩
    exact ⟨read, none⟩
  · split
    · exact ended_gated (passive_of_ordinary (failAttempt_ordinary _ _))
    · rintro _ ⟨⟩
      exact ⟨read, none⟩

theorem runAttempt_gated (run : WorkflowRun) :
    (runAttempt env run).wp gateProtocol Gate.Looping g := by
  simp only [runAttempt, ask, Program.issue_eq, Program.call_bind, Program.done_bind,
    Program.wp_call]
  refine ⟨trivial, fun settings _ => ⟨trivial, fun rules _ => ⟨trivial, fun workflow _ => ?_⟩⟩⟩
  cases workflow with
  | none => exact fun _ same => nomatch same
  | some workflow =>
    dsimp only
    split
    · exact ⟨trivial, fun _ _ => ⟨trivial, fun _ _ _ same => nomatch same⟩⟩
    · split
      · refine ⟨trivial, fun _ _ => ⟨trivial, fun running _ => ?_⟩⟩
        cases running with
        | none => exact fun _ same => nomatch same
        | some _ => exact startLoop_gated _ _ rfl rfl
      · exact startLoop_gated _ _ rfl rfl

theorem processWorkflowRunJob_gated :
    (processWorkflowRunJob env).wp gateProtocol Gate.Looping g := by
  simp only [processWorkflowRunJob, ask, Program.issue_eq, Program.call_bind, Program.done_bind,
    Program.wp_call]
  refine ⟨trivial, fun run _ => ?_⟩
  cases run with
  | none => exact fun _ same => nomatch same
  | some run =>
    dsimp only
    split
    · exact fun _ same => nomatch same
    · exact fun _ same => nomatch same
    · split
      · exact fun _ same => nomatch same
      · exact runAttempt_gated run
    · exact runAttempt_gated run

theorem runJobIteration_gated {loop : NodeLoop} (read : g.rules = some loop.policyRules) :
    (runJobIteration env loop).wp gateProtocol Gate.Looping g := by
  cases loop with
  | v2 d nodes index p => exact listIteration_gated nodes index read
  | v3 d dsl m p => exact graphIteration_gated dsl m read

theorem Gate.elim_of_looping {v : NodeLoop ⊕ Outcome} (looping : Gate.Looping v g) :
    v.elim (fun loop => g.rules = some loop.policyRules ∧ g.approved = none) fun _ => True := by
  cases v with
  | inl loop => exact looping loop rfl
  | inr outcome => exact trivial

/-- Every handler of a run reaches executors through the gate. -/
def gateCertified (env : RunEnv) : Certified (runSystem env) gateProtocol where
  start _ := {}
  looping _ loop g := g.rules = some loop.policyRules ∧ g.approved = none
  ended _ _ _ := True
  entry_follows l := by
    have job : (processWorkflowRunJob env).wp gateProtocol Gate.Looping {} :=
      processWorkflowRunJob_gated
    have delivery := Program.wp_mono (fun _ _ looping => Gate.elim_of_looping looping) job
    have other {q : RunProgram Outcome} (only : Passive q) :
        (Sum.inr <$> q : RunProgram (NodeLoop ⊕ Outcome)).wp gateProtocol (fun v g =>
          v.elim (fun loop => g.rules = some loop.policyRules ∧ g.approved = none)
            fun _ => True) {} :=
      Program.wp_seq (gated_of_passive only _ rfl) fun _ _ _ => trivial
    cases l with
    | job | redelivery => exact delivery
    | continuation payload => exact other (processContinuationPayload_passive payload)
    | approve id note => exact other (approve_passive id note)
    | reject id note => exact other (reject_passive id note)
  body_follows _ _ _ looping :=
    Program.wp_mono (fun _ _ looping => Gate.elim_of_looping looping)
      (runJobIteration_gated looping.1)
  replies _ _ _ _ _ _ := trivial

/-! ### Executors reached -/

/-- The policy rules a handler last read. -/
def rulesRead (history : List (Event RunOps)) : Option (List OrgPolicyRule) :=
  history.foldl (fun rules event => (Gate.observe { rules } event.op event.reply).rules) none

theorem Gate.observe_rules (op : RunOp) (reply : op.Reply) :
    (g.observe op reply).rules = (Gate.observe { rules := g.rules } op reply).rules := by
  cases op <;> rfl

theorem view_rules (p : (runSystem env).Process) :
    ((gateCertified env).view p).rules = rulesRead p.history := by
  obtain ⟨l, history, program⟩ := p
  simp only [Certified.view, rulesRead]
  induction history using List.reverseRecOn with
  | nil => rfl
  | append_singleton history event ih =>
    rw [Protocol.after_concat, List.foldl_append, List.foldl_cons, List.foldl_nil, ← ih]
    exact Gate.observe_rules _ _

/-- What the rules ask of the store before the node's executor may run. -/
def Admitted (rules : List OrgPolicyRule) (node : WorkflowNode) (st : RunStore) : Prop :=
  match (evaluateNodePolicy (buildNodePolicyContext node) rules).decision with
  | .allow => True
  | .requireApproval => st.approvals.hasApproved node.id st.now
  | .deny => False

theorem Gate.approved_of_observe {op : RunOp} {reply : op.Reply} {nodeId : String}
    {st st' : RunStore} {choice : Choice} (approved : (g.observe op reply).approved = some nodeId)
    (performed : performRunOp op st choice = some (reply, st')) :
    st'.approvals.hasApproved nodeId st'.now := by
  cases op <;> try cases approved
  case hasApprovedWorkflowApprovalForRunNode =>
    cases choice <;> simp only [performRunOp, reduceCtorEq, Option.some.injEq, Prod.mk.injEq]
      at performed
    obtain ⟨rfl, rfl⟩ := performed
    simp only [Gate.observe] at approved
    split at approved
    · rename_i found
      rwa [← Option.some.inj approved]
    · cases approved

variable {s t : (runSystem env).State} {a : (runSystem env).Action} {id : Nat}

/-- A handler that has just reached an executor was let through by the rules it read. -/
theorem executor_admitted {p : (runSystem env).Process} {context : ExecutorContext}
    {next : (RunOp.execute context).Reply → RunProgram (NodeLoop ⊕ Outcome)}
    (all : (gateCertified env).AllFollow s) (stepped : System.Stepped s a t)
    (here : t.process id = some p) (new : s.process id ≠ some p)
    (reached : p.program = .call (.execute context) next) :
    ∃ rules, rulesRead p.history = some rules ∧ Admitted rules context.node t.store := by
  have follows := (gateCertified env).allFollow_step all stepped id p here
  rw [Certified.Follows, reached] at follows
  obtain ⟨rules, read, admits⟩ := follows.1
  refine ⟨rules, by rw [← view_rules, read], ?_⟩
  have other {i : Nat} {store : (runSystem env).Store} {q : Option (runSystem env).Process}
      (there : (s.update store i q).process id = some p) : id = i := by
    by_contra different
    rw [System.State.update_process_other _ _ _ different] at there
    exact new there
  cases stepped with
  | launch free launched =>
    obtain rfl := other here
    rw [System.State.update_process_self] at here
    obtain rfl := Option.some.inj here
    cases read
  | call before performed =>
    obtain rfl := other here
    rw [System.State.update_process_self] at here
    obtain rfl := Option.some.inj here
    simp only [Certified.view, Protocol.after_concat] at admits
    unfold Admitted
    split at admits
    · trivial
    · exact Gate.approved_of_observe admits performed
    · exact admits
  | loop before =>
    obtain rfl := other here
    rw [System.State.update_process_self] at here
    obtain rfl := Option.some.inj here
    obtain ⟨-, none⟩ := all _ _ before
    unfold Admitted
    split at admits
    · trivial
    · cases none.symm.trans admits
    · exact admits
  | finish before =>
    obtain rfl := other here
    rw [System.State.update_process_self] at here
    cases here
  | tick => exact (new here).elim

end Vespid
