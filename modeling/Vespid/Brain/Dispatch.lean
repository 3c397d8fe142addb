import Vespid.Brain.Invoke
import Vespid.Lib.Exclusive
import Vespid.Lib.Protocol

/-!
# Asynchronous workflow dispatches

The response of a dispatch reaches the worker on two ways: with the continuation the brain
enqueues, and through the results endpoint of an edge, which falls back to the reply key. The
executor's own result is written to the same key first.
-/

namespace Vespid.Brain

open Interleaving

structure GatewayResponse where
  status : ReplyStatus
  output : Option String
  error : Option String
  deriving DecidableEq

def ToolResult.response (tool : ToolResult) : GatewayResponse :=
  { status := tool.status, output := tool.output, error := tool.error }

def GatewayResponse.failed (error : String) : GatewayResponse :=
  { status := .failed, output := none, error := some error }

/-- The secrets an agent run names, engine first. -/
structure AgentRunPayload where
  engineSecretId : Option String
  connectorSecretIds : List String

/-- A dispatch; `call` is its tool call once the secrets are known. -/
structure WorkflowDispatch where
  requestId : String
  kind : Option GatewayExecutionKind
  agentRun : Option AgentRunPayload
  call : List String → ToolCall

inductive DispatchOp where
  | brain (op : BrainOp)
  | loadSecretValue (secretId : String)
  /-- `resultsStore.set` -/
  | setResult (response : GatewayResponse)
  /-- `redis.set(replyKey(requestId), …)` -/
  | setReply (response : GatewayResponse)
  /-- The `remote.apply` continuation. -/
  | addContinuation (response : GatewayResponse)

/-- An operation of the dispatch may throw a message. -/
abbrev DispatchOp.Reply : DispatchOp → Type
  | brain op => Except String op.Reply
  | loadSecretValue _ => Except String String
  | setResult _ | setReply _ | addContinuation _ => Unit

abbrev DispatchOps : Interface where
  Op := DispatchOp
  Reply := DispatchOp.Reply

abbrev DispatchProgram := Program DispatchOps

/-- A brain's program, ended by the first operation that throws. What its `finally` blocks still
give back is none of the keys below. -/
def throwing {α : Type} : BrainProgram α → DispatchProgram (Except String α)
  | .done value => .done (.ok value)
  | .call op next => .call (I := DispatchOps) (.brain op) fun reply =>
    match (reply : Except String op.Reply) with
    | .error message => .done (.error message)
    | .ok reply => throwing (next reply)

def loadSecrets : List String → DispatchProgram (Except String (List String))
  | [] => .done (.ok [])
  | secretId :: rest => .call (I := DispatchOps) (.loadSecretValue secretId) fun reply =>
    match (reply : Except String String) with
    | .error message => .done (.error message)
    | .ok value => (loadSecrets rest).bind fun values => .done (values.map (value :: ·))

def invokeForDispatch (env : BrainEnv) (call : ToolCall) :
    DispatchProgram (Except String GatewayResponse) :=
  (throwing (invokeToolOnExecutor env call)).bind fun tool => .done (tool.map ToolResult.response)

def executeWorkflowDispatchInternal (env : BrainEnv) (dispatch : WorkflowDispatch) :
    DispatchProgram (Except String GatewayResponse) :=
  match dispatch.kind with
  | some .agentExecute | some .connectorAction => invokeForDispatch env (dispatch.call [])
  | some .agentRun =>
    match dispatch.agentRun with
    | none => .done (.ok (.failed "INVALID_AGENT_RUN_PAYLOAD"))
    | some payload =>
      (loadSecrets (payload.engineSecretId.toList ++ payload.connectorSecretIds)).bind fun secrets =>
        match secrets with
        | .error message => .done (.error message)
        | .ok secrets => invokeForDispatch env (dispatch.call secrets)
  | none => .done (.ok (.failed "UNSUPPORTED_KIND"))

/-- `runAsync` of `handleWorkflowDispatch`; a continuation that cannot be added is given up. -/
def runAsync (env : BrainEnv) (dispatch : WorkflowDispatch) : DispatchProgram Unit :=
  (executeWorkflowDispatchInternal env dispatch).bind fun executed =>
    let response := match executed with
      | .ok response => response
      | .error message => .failed message
    .call (I := DispatchOps) (.setResult response) fun _ =>
    .call (I := DispatchOps) (.setReply response) fun _ =>
    .call (I := DispatchOps) (.addContinuation response) .done

/-! ### The stores and the polls -/

/-- What stands under the reply key. -/
inductive StoredReply where
  | executor (reply : ToolReply)
  | brain (response : GatewayResponse)
  deriving DecidableEq

def StoredReply.response : StoredReply → GatewayResponse
  | executor reply => { status := reply.status, output := reply.output, error := reply.error }
  | brain response => response

/-- What the wait for a tool reply reads. -/
def StoredReply.toolReply : StoredReply → ToolReply
  | executor reply => reply
  | brain response =>
    { status := response.status, output := response.output, error := response.error
      workspace := none }

/-- The keys of one request, and the responses its polls and continuations have carried. -/
structure DispatchStore where
  dispatched : Bool
  result : Option GatewayResponse
  reply : Option StoredReply
  response : Option GatewayResponse
  polled : List GatewayResponse
  applied : List GatewayResponse

namespace DispatchStore

def empty : DispatchStore :=
  { dispatched := false, result := none, reply := none, response := none, polled := []
    applied := [] }

/-- `GET /internal/v1/results/:requestId`; there may be nothing yet. -/
def getResult (st : DispatchStore) : Option GatewayResponse :=
  st.result.or (st.reply.map (·.response))

end DispatchStore

inductive DispatchTick where
  /-- The edge gets a result of an executor. -/
  | toolResult (reply : ToolReply)
  | poll
  | expireResult
  | expireReply
  deriving DecidableEq

structure DispatchChoice where
  brain : (op : BrainOp) → Except String op.Reply
  secret : Except String String
  /-- Whether the continuation is added. -/
  added : Bool

/-- Only the reply key is one of the request's own; the wait may also time out. -/
def answerBrain (st : DispatchStore) (choice : DispatchChoice) :
    (op : BrainOp) → Option (Except String op.Reply)
  | .waitForToolReply requestId timeoutMs =>
    let reply : Except String (Option ToolReply) :=
      choice.brain (.waitForToolReply requestId timeoutMs)
    match reply with
    | .ok (some _) => st.reply.map fun stored => .ok (some stored.toolReply)
    | reply => some reply
  | op => some (choice.brain op)

def performDispatch (st : DispatchStore) (choice : DispatchChoice) :
    (op : DispatchOp) → Option (op.Reply × DispatchStore)
  | .brain op => (answerBrain st choice op).map fun reply => (reply, st)
  | .loadSecretValue _ => some (choice.secret, st)
  | .setResult response => some ((), { st with result := some response, response := some response })
  | .setReply response => some ((), { st with reply := some (.brain response) })
  | .addContinuation response =>
    some ((), { st with applied := st.applied ++ if choice.added then [response] else [] })

def tickDispatch (st : DispatchStore) : DispatchTick → DispatchStore
  | .toolResult reply => { st with reply := some (.executor reply) }
  | .poll => { st with polled := st.polled ++ st.getResult.toList }
  | .expireResult => { st with result := none }
  | .expireReply => { st with reply := none }

/-- One dispatch, the executors and the polls. -/
abbrev dispatchSystem : System DispatchOps where
  Store := DispatchStore
  Launch := BrainEnv × WorkflowDispatch
  Loop := Empty
  Outcome := Unit
  Choice := DispatchChoice
  Tick := DispatchTick
  perform op st choice := performDispatch st choice op
  launch _ st := if st.dispatched then none else some { st with dispatched := true }
  entry l := .inr <$> runAsync l.1 l.2
  body _ loop := nomatch loop
  finish _ _ st := st
  tick t st := some (tickDispatch st t)

def notDispatched : dispatchSystem.State := { store := .empty, process := fun _ => none }

/-! ### What the brain answers -/

/-- The response a dispatch has stored. -/
def dispatchProtocol : Protocol DispatchOps (Option GatewayResponse) where
  permits answered op := match op with
    | .setResult _ => answered = none
    | .setReply response | .addContinuation response => answered = some response
    | _ => True
  expects _ _ := True
  observe answered op _ := match op with
    | .setResult response => some response
    | _ => answered

theorem throwing_follows {α : Type} (p : BrainProgram α) :
    (throwing p).wp dispatchProtocol (fun _ answered => answered = none) none := by
  induction p with
  | done value => rfl
  | call op next ih =>
    rw [throwing]
    refine ⟨trivial, fun reply _ => ?_⟩
    dsimp only
    split
    · rfl
    · exact ih _

theorem loadSecrets_follows (secretIds : List String) :
    (loadSecrets secretIds).wp dispatchProtocol (fun _ answered => answered = none) none := by
  induction secretIds with
  | nil => rfl
  | cons secretId rest ih =>
    refine ⟨trivial, fun reply _ => ?_⟩
    dsimp only
    split
    · rfl
    · exact Program.wp_seq ih fun _ _ same => same

theorem invokeForDispatch_follows (env : BrainEnv) (call : ToolCall) :
    (invokeForDispatch env call).wp dispatchProtocol (fun _ answered => answered = none) none :=
  Program.wp_seq (throwing_follows _) fun _ _ same => same

theorem execute_follows (env : BrainEnv) (dispatch : WorkflowDispatch) :
    (executeWorkflowDispatchInternal env dispatch).wp dispatchProtocol
      (fun _ answered => answered = none) none := by
  unfold executeWorkflowDispatchInternal
  split
  · exact invokeForDispatch_follows env _
  · exact invokeForDispatch_follows env _
  · split
    · rfl
    · refine Program.wp_seq (loadSecrets_follows _) ?_
      rintro secrets _ rfl
      cases secrets with
      | error message => rfl
      | ok secrets => exact invokeForDispatch_follows env _
  · rfl

theorem runAsync_follows (env : BrainEnv) (dispatch : WorkflowDispatch) :
    (runAsync env dispatch).wp dispatchProtocol (fun _ _ => True) none := by
  refine Program.wp_seq (execute_follows env dispatch) ?_
  rintro executed _ rfl
  exact ⟨rfl, fun _ _ => ⟨rfl, fun _ _ => ⟨rfl, fun _ _ => trivial⟩⟩⟩

def dispatchCertified : Certified dispatchSystem dispatchProtocol where
  start _ := none
  looping _ loop _ := nomatch loop
  ended _ _ _ := True
  entry_follows l := Program.wp_seq (runAsync_follows l.1 l.2) fun _ _ _ => trivial
  body_follows _ loop := nomatch loop
  replies _ _ _ _ _ _ := trivial

/-! ### One outcome -/

/-- No poll is answered with a result under the reply key that is the executor's and not the
brain's. -/
def PollsResponse (s : dispatchSystem.State) : dispatchSystem.Action → Prop
  | .tick .poll => s.store.result = none → ∀ reply, s.store.reply ≠ some (.executor reply)
  | _ => True

/-- The dispatch is handled by one brain, and whatever has been stored or carried is its response. -/
structure OutcomeInv (st : DispatchStore)
    (crew : Nat → Option ((BrainEnv × WorkflowDispatch) × Option GatewayResponse)) : Prop where
  started : ∀ id q, crew id = some q → st.dispatched = true ∧ q.2 = st.response
  single : ∀ id id' q q', crew id = some q → crew id' = some q' → id = id'
  first : st.dispatched = false → st.response = none
  result : ∀ r, st.result = some r → st.response = some r
  reply : ∀ r, st.reply = some (.brain r) → st.response = some r
  polled : ∀ r ∈ st.polled, st.response = some r
  applied : ∀ r ∈ st.applied, st.response = some r

section step
variable {st st' : DispatchStore}
  {crew : Nat → Option ((BrainEnv × WorkflowDispatch) × Option GatewayResponse)} {id : Nat}
  {l : BrainEnv × WorkflowDispatch} {answered : Option GatewayResponse}

theorem outcomeInv_poll (inv : OutcomeInv st crew)
    (own : st.result = none → ∀ reply, st.reply ≠ some (.executor reply)) :
    OutcomeInv (tickDispatch st .poll) crew := by
  refine ⟨inv.started, inv.single, inv.first, inv.result, inv.reply, ?_, inv.applied⟩
  intro r mem
  rcases List.mem_append.mp mem with old | new
  · exact inv.polled r old
  · have got : st.getResult = some r := by simpa using new
    unfold DispatchStore.getResult at got
    cases result : st.result with
    | some stored =>
      rw [result] at got
      exact inv.result r (by simpa [result] using got)
    | none =>
      cases reply : st.reply with
      | none => simp [result, reply] at got
      | some stored =>
        cases stored with
        | executor raw => exact absurd reply (own result raw)
        | brain response =>
          obtain rfl : response = r := by simpa [result, reply, StoredReply.response] using got
          exact inv.reply response reply

theorem outcomeInv_tick (inv : OutcomeInv st crew) {t : DispatchTick} (other : t ≠ .poll) :
    OutcomeInv (tickDispatch st t) crew := by
  obtain ⟨started, single, first, result, reply, polled, applied⟩ := inv
  cases t with
  | poll => exact absurd rfl other
  | toolResult raw => exact ⟨started, single, first, result, nofun, polled, applied⟩
  | expireResult => exact ⟨started, single, first, nofun, reply, polled, applied⟩
  | expireReply => exact ⟨started, single, first, result, nofun, polled, applied⟩

/-- What does not concern the one handler there is. -/
theorem outcomeInv_update (inv : OutcomeInv st crew) (here : crew id = some (l, answered))
    {new : Option ((BrainEnv × WorkflowDispatch) × Option GatewayResponse)}
    (own : ∀ q, new = some q → st'.dispatched = true ∧ q.2 = st'.response)
    (first : st'.dispatched = false → st'.response = none)
    (result : ∀ r, st'.result = some r → st'.response = some r)
    (reply : ∀ r, st'.reply = some (.brain r) → st'.response = some r)
    (polled : ∀ r ∈ st'.polled, st'.response = some r)
    (applied : ∀ r ∈ st'.applied, st'.response = some r) :
    OutcomeInv st' (Function.update crew id new) := by
  have only {i : Nat} {q} (there : Function.update crew id new i = some q) :
      i = id ∧ new = some q := by
    rcases update_cases there with own | ⟨other, there⟩
    · exact own
    · exact absurd (inv.single i id q _ there here) other
  refine ⟨?_, ?_, first, result, reply, polled, applied⟩
  · intro i q there
    exact own q (only there).2
  · intro i i' q q' there there'
    rw [(only there).1, (only there').1]

theorem outcomeInv_call (inv : OutcomeInv st crew) (here : crew id = some (l, answered))
    {op : DispatchOp} {choice : DispatchChoice} {reply : op.Reply}
    (permitted : dispatchProtocol.permits answered op)
    (performed : performDispatch st choice op = some (reply, st')) :
    OutcomeInv st'
      (Function.update crew id (some (l, dispatchProtocol.observe answered op reply))) := by
  obtain ⟨dispatched, same⟩ := inv.started id _ here
  have unchanged (is : st' = st)
      (quiet : dispatchProtocol.observe answered op reply = answered) : OutcomeInv st'
        (Function.update crew id (some (l, dispatchProtocol.observe answered op reply))) := by
    subst is
    refine outcomeInv_update inv here ?_ inv.first inv.result inv.reply inv.polled inv.applied
    rintro q ⟨⟩
    exact ⟨dispatched, quiet.trans same⟩
  cases op with
  | brain op =>
    obtain ⟨answer, -, same⟩ := Option.map_eq_some_iff.mp performed
    exact unchanged (Prod.mk.inj same).2.symm rfl
  | loadSecretValue secretId => exact unchanged (Prod.mk.inj (Option.some.inj performed)).2.symm rfl
  | setResult response =>
    obtain rfl := (Prod.mk.inj (Option.some.inj performed)).2
    have unanswered : st.response = none := same.symm.trans permitted
    have nothing {r : GatewayResponse} (was : st.response = some r) : False := by
      rw [unanswered] at was
      cases was
    refine outcomeInv_update inv here ?_ ?_ (fun r is => is) ?_ ?_ ?_
    · rintro q ⟨⟩
      exact ⟨dispatched, rfl⟩
    · intro undispatched
      rw [dispatched] at undispatched
      cases undispatched
    · exact fun r is => (nothing (inv.reply r is)).elim
    · exact fun r mem => (nothing (inv.polled r mem)).elim
    · exact fun r mem => (nothing (inv.applied r mem)).elim
  | setReply response =>
    obtain rfl := (Prod.mk.inj (Option.some.inj performed)).2
    have known : st.response = some response := same.symm.trans permitted
    refine outcomeInv_update inv here ?_ inv.first inv.result ?_ inv.polled inv.applied
    · rintro q ⟨⟩
      exact ⟨dispatched, same⟩
    · rintro r ⟨⟩
      exact known
  | addContinuation response =>
    obtain rfl := (Prod.mk.inj (Option.some.inj performed)).2
    have known : st.response = some response := same.symm.trans permitted
    refine outcomeInv_update inv here ?_ inv.first inv.result inv.reply inv.polled ?_
    · rintro q ⟨⟩
      exact ⟨dispatched, same⟩
    · intro r mem
      rcases List.mem_append.mp mem with old | new
      · exact inv.applied r old
      · split at new
        · obtain rfl := List.mem_singleton.mp new
          exact known
        · cases new

theorem outcomeInv_launch (inv : OutcomeInv st crew) (fresh : st.dispatched = false) :
    OutcomeInv { st with dispatched := true } (Function.update crew id (some (l, none))) := by
  have nobody {i : Nat} {q} (there : crew i = some q) : False := by
    have started := (inv.started i q there).1
    rw [fresh] at started
    cases started
  have only {i : Nat} {q} (there : Function.update crew id (some (l, none)) i = some q) :
      i = id ∧ q = (l, none) := by
    rcases update_cases there with ⟨same, new⟩ | ⟨-, there⟩
    · exact ⟨same, (Option.some.inj new).symm⟩
    · exact (nobody there).elim
  refine ⟨?_, ?_, nofun, inv.result, inv.reply, inv.polled, inv.applied⟩
  · intro i q there
    obtain ⟨-, rfl⟩ := only there
    exact ⟨rfl, (inv.first fresh).symm⟩
  · intro i i' q q' there there'
    rw [(only there).1, (only there').1]

end step

theorem outcomeInv_empty : OutcomeInv .empty fun _ => none where
  started _ _ here := by cases here
  single _ _ _ _ here := by cases here
  first _ := rfl
  result _ is := by cases is
  reply _ is := by cases is
  polled _ mem := by cases mem
  applied _ mem := by cases mem

theorem outcomeInv_step {s t : dispatchSystem.State} {a : dispatchSystem.Action}
    (all : dispatchCertified.AllFollow s) (inv : OutcomeInv s.store (dispatchCertified.crew s))
    (own : PollsResponse s a) (stepped : System.Stepped s a t) :
    OutcomeInv t.store (dispatchCertified.crew t) := by
  have happened := Certified.happened all stepped
  generalize dispatchCertified.crew t = crew at happened ⊢
  generalize t.store = store at happened ⊢
  cases happened with
  | launch free launched =>
    simp only [Option.ite_none_left_eq_some, Option.some.injEq] at launched
    obtain ⟨fresh, rfl⟩ := launched
    exact outcomeInv_launch inv (by simpa using fresh)
  | call here issues permitted performed => exact outcomeInv_call inv here permitted performed
  | loop => exact inv
  | finish here =>
    exact outcomeInv_update inv here nofun inv.first inv.result inv.reply inv.polled inv.applied
  | @tick tick store ticked =>
    obtain rfl := Option.some.inj ticked
    cases tick with
    | poll => exact outcomeInv_poll inv own
    | _ => exact outcomeInv_tick inv (by simp)

theorem outcomeInv_run {s : dispatchSystem.State}
    (run : System.Steps PollsResponse notDispatched s) :
    OutcomeInv s.store (dispatchCertified.crew s) :=
  (dispatchCertified.invariant (fun s => OutcomeInv s.store (dispatchCertified.crew s))
    (fun _ => rfl) outcomeInv_empty
    (fun _ _ _ all inv own stepped => outcomeInv_step all inv own stepped) run).2

/-- Every poll that is answered and the continuation carry the one response of the dispatch. -/
theorem one_outcome {s : dispatchSystem.State} (run : System.Steps PollsResponse notDispatched s) :
    (∀ p ∈ s.store.polled, ∀ a ∈ s.store.applied, p = a) ∧
      ∀ p ∈ s.store.polled, ∀ final ∈ s.store.response, p = final := by
  have inv := outcomeInv_run run
  refine ⟨?_, ?_⟩
  · intro p polled a applied
    exact Option.some.inj ((inv.polled p polled).symm.trans (inv.applied a applied))
  · intro p polled final is
    exact Option.some.inj ((inv.polled p polled).symm.trans is)

/-! ### A workspace commit that fails -/

namespace Sample

def toolCall : ToolCall :=
  { organizationId := "org"
    selector := some
      { pool := .byon, labels := none, group := none, tag := none, executorId := some "node" }
    kind := .agentExecute, oauthRequiredEngine := none, payload := "", timeoutMs := 60000
    workspaceOwner := { ownerType := "workflow_run", ownerId := "run" }
    requestId := some "run:n:1", lockBytes := "lock", requestBytes := "" }

def dispatched : BrainEnv × WorkflowDispatch :=
  ({ brainId := "brain", reserveTtlMs := 300000, executorReplyGraceMs := 5000
     sessionOpenTimeoutMs := 10000, s3Configured := true },
    { requestId := "run:n:1", kind := some .agentExecute, agentRun := none
      call := fun _ => toolCall })

def toolRow : WorkspaceRow :=
  { id := "ws", currentVersion := 0, currentObjectKey := "", currentEtag := none }

def toolRoute : ExecutorRoute :=
  { edgeId := "edge", executorId := "node", pool := .byon, organizationId := some "org"
    labels := none, maxInFlight := none, kinds := some [.agentExecute], oauthVerified := [] }

/-- The answers of the services; `commits` is what the workspace commit says. -/
def service (commits : Bool) : (op : BrainOp) → Except String op.Reply
  | .getOrgMaxInFlight _ => .ok (10 : Nat)
  | .listExecutorRoutes .. => .ok [toolRoute]
  | .markExecutorUsed _ => .ok ()
  | .reserveCapacity _ => .ok .ok
  | .decr _ => .ok true
  | .getExecutionWorkspaceByOwner .. => .ok (some toolRow)
  | .createExecutionWorkspace .. => .ok toolRow
  | .tryLockExecutionWorkspace .. => .ok true
  | .executorInvoke .. => .ok (0 : Nat)
  | .waitForToolReply .. => .ok (some
      { status := .succeeded, output := none, error := none, workspace := none })
  | .commitExecutionWorkspaceVersion .. => .ok commits
  | .releaseExecutionWorkspaceLock .. => .ok ()
  | _ => .error "unused"

def serving (commits : Bool) : DispatchChoice :=
  { brain := service commits, secret := .ok "", added := true }

def uploaded : ToolReply :=
  { status := .succeeded, output := some "done", error := none
    workspace := some { workspaceId := "ws", version := 1, objectKey := some "key", etag := none } }

/-- The executor's result comes and the brain is told of it. -/
def dispatchRun (commits : Bool) (calls : Nat) (between : List dispatchSystem.Action) :
    List dispatchSystem.Action :=
  [.launch 0 dispatched, .tick (.toolResult uploaded)] ++ between ++
    List.replicate calls (.call 0 (serving commits))

def succeeded : GatewayResponse :=
  { status := .succeeded, output := some "done", error := none }

end Sample

instance (s : dispatchSystem.State) (a : dispatchSystem.Action) : Decidable (PollsResponse s a) :=
  match a with
  | .tick .poll =>
    match result : s.store.result, reply : s.store.reply with
    | none, some (.executor raw) => .isFalse fun own => own result raw reply
    | none, none | none, some (.brain _) => .isTrue fun _ _ => by simp [reply]
    | some _, _ => .isTrue fun absent => by simp [result] at absent
  | .tick (.toolResult _) | .tick .expireResult | .tick .expireReply => .isTrue trivial
  | .launch .. | .call .. | .loop _ | .finish _ => .isTrue trivial

theorem one_outcome_sample : ∃ s : dispatchSystem.State,
    s.store.polled = [Sample.succeeded] ∧ s.store.applied = [Sample.succeeded] ∧
      ∀ p ∈ s.store.polled, ∀ a ∈ s.store.applied, p = a := by
  have ran : (System.exec PollsResponse notDispatched
      (Sample.dispatchRun true 14 [] ++ [.tick .poll])).map
        (fun s => (s.store.polled, s.store.applied)) =
      some ([Sample.succeeded], [Sample.succeeded]) := by decide +kernel
  obtain ⟨s, run, outcomes⟩ := Option.map_eq_some_iff.mp ran
  obtain ⟨polled, applied⟩ := Prod.mk.inj outcomes
  exact ⟨s, polled, applied, (one_outcome (System.steps_of_exec run)).1⟩

/-- A poll between the executor's result and the brain's last word. -/
theorem polled_too_early : ¬∀ s : dispatchSystem.State,
    System.Steps (fun _ _ => True) notDispatched s →
      ∀ p ∈ s.store.polled, ∀ final ∈ s.store.response, p = final := by
  intro same
  have ran : (System.exec (fun _ _ => True) notDispatched
      (Sample.dispatchRun false 15 [.tick .poll])).map
        (fun s => (s.store.polled, s.store.response)) =
      some ([Sample.succeeded], some (.failed "WORKSPACE_VERSION_CONFLICT")) := by decide +kernel
  obtain ⟨s, run, outcomes⟩ := Option.map_eq_some_iff.mp ran
  obtain ⟨polled, final⟩ := Prod.mk.inj outcomes
  have equal := same s (System.steps_of_exec run) Sample.succeeded (by simp [polled])
    (.failed "WORKSPACE_VERSION_CONFLICT") (by simp [final])
  revert equal
  decide

end Vespid.Brain
