import Vespid.Brain.Conversations
import Vespid.Brain.InFlight
import Vespid.Lib.Exclusive

/-!
# Cancelled turns

A brain waits for a turn's reply inside the loop that would read the cancel, and other brains
know nothing of the turn. What a cancelled request ends with is then up to its executor alone.
-/

namespace Vespid.Brain

open Interleaving NodeAgent

variable {maxTurns : String → Nat}

/-- No request with a cancel between its dispatch and its reply has got an answer. -/
def NoCanceledAnswer (st : SessionStore) : Prop :=
  ∀ requestId message, (requestId, .agentFinal message) ∈ st.events → requestId ∉ st.canceled

/-- No executor answers a cancelled turn with success. -/
def AnswersUncanceled (s : (sessionBrains maxTurns).State) (a : (sessionBrains maxTurns).Action) :
    Prop :=
  ∀ executorId context content, a = .tick (.finishTurn executorId context (.ok content)) →
    ∀ ctx ∈ (s.store.nodes executorId).contexts context, ∀ turn ∈ ctx.activeTurn,
      turn.requestId ∉ s.store.canceled

/-- A reply was written for the request, and no cancel came before it. -/
def Uncanceled (st : SessionStore) (requestId : String) : Prop :=
  requestId ∈ st.replied ∧ requestId ∉ st.canceled

structure AnswersOk (st : SessionStore) (crew : Nat → Option (BrainEnv × AnsweredStage)) : Prop where
  replies : ∀ requestId reply, st.replies requestId = some reply → reply.status = .succeeded →
    Uncanceled st requestId
  answered : ∀ id env requestId, crew id = some (env, some requestId) → Uncanceled st requestId
  events : ∀ requestId message, (requestId, .agentFinal message) ∈ st.events →
    Uncanceled st requestId

/-! ### What operations leave alone -/

/-- Operations change neither replies nor what has been done to them, nor the executors. -/
structure Untouched (st st' : SessionStore) : Prop where
  replies : st'.replies = st.replies
  replied : st'.replied = st.replied
  canceled : st'.canceled = st.canceled
  nodes : st'.nodes = st.nodes
  records : st'.records = st.records

variable {st st' : SessionStore} {answer : (op : BrainOp) → op.Reply} {op : BrainOp}
  {reply : op.Reply}

theorem untouched_of_perform (performed : performSession maxTurns op st answer = some (reply, st')) :
    Untouched st st' := by
  cases op <;> simp only [performSession] at performed
  all_goals
    first
      | (obtain ⟨-, rfl⟩ := Prod.mk.inj (Option.some.inj performed)
         exact ⟨rfl, rfl, rfl, rfl, rfl⟩)
      | (split at performed <;>
           first
             | (obtain ⟨-, rfl⟩ := Prod.mk.inj (Option.some.inj performed)
                exact ⟨rfl, rfl, rfl, rfl, rfl⟩)
             | cases performed)

/-- Events are appended by their operation only. -/
theorem events_of_perform (performed : performSession maxTurns op st answer = some (reply, st')) :
    ∀ entry ∈ st'.events, entry ∈ st.events ∨
      ∃ sessionId, op = .appendAgentSessionEvent entry.1 sessionId entry.2 := by
  cases op <;> simp only [performSession] at performed
  case appendAgentSessionEvent requester sessionId event =>
    obtain ⟨-, rfl⟩ := Prod.mk.inj (Option.some.inj performed)
    intro entry mem
    rcases List.mem_append.mp mem with mem | mem
    · exact .inl mem
    · obtain rfl := List.mem_singleton.mp mem
      exact .inr ⟨sessionId, rfl⟩
  all_goals
    first
      | (obtain ⟨-, rfl⟩ := Prod.mk.inj (Option.some.inj performed)
         exact fun entry mem => .inl mem)
      | (split at performed <;>
           first
             | (obtain ⟨-, rfl⟩ := Prod.mk.inj (Option.some.inj performed)
                exact fun entry mem => .inl mem)
             | cases performed)

/-- A brain knows of an answer from the reply it has taken. -/
theorem answered_of_perform {answered : AnsweredStage} {requestId : String}
    (performed : performSession maxTurns op st answer = some (reply, st'))
    (knows : observeAnswered answered op reply = some requestId) :
    answered = some requestId ∨
      ∃ taken, st.replies requestId = some taken ∧ taken.status = .succeeded := by
  cases op
  case waitForTurnReply request timeoutMs =>
    simp only [performSession] at performed
    split at performed
    · obtain ⟨rfl, -⟩ := Prod.mk.inj (Option.some.inj performed)
      exact .inl knows
    · rename_i value taken from_ there
      obtain ⟨rfl, -⟩ := Prod.mk.inj (Option.some.inj performed)
      obtain ⟨status, content, error, code⟩ := taken
      cases status with
      | succeeded =>
        obtain rfl := Option.some.inj knows
        exact .inr ⟨_, there, rfl⟩
      | failed => exact .inl knows
    · cases performed
  all_goals exact .inl knows

/-! ### The invariant -/

variable {crew : Nat → Option (BrainEnv × AnsweredStage)} {id : Nat} {env : BrainEnv}
  {answered : AnsweredStage}

theorem AnswersOk.perform (ok : AnswersOk st crew) (here : crew id = some (env, answered))
    (permitted : permitsAnswered maxTurns answered op)
    (performed : performSession maxTurns op st answer = some (reply, st')) :
    AnswersOk st' (Function.update crew id (some (env, observeAnswered answered op reply))) := by
  have same := untouched_of_perform performed
  have still (requestId : String) : Uncanceled st' requestId ↔ Uncanceled st requestId := by
    simp only [Uncanceled, same.replied, same.canceled]
  refine ⟨fun requestId taken there succeeded => ?_, fun i env' requestId there => ?_,
    fun requestId message mem => ?_⟩
  · rw [same.replies] at there
    exact (still _).mpr (ok.replies _ _ there succeeded)
  · rw [still]
    rcases update_cases there with ⟨-, new⟩ | ⟨-, there⟩
    · obtain ⟨-, knows⟩ := Prod.mk.inj (Option.some.inj new)
      rcases answered_of_perform performed knows with before | ⟨taken, there, succeeded⟩
      · subst before
        exact ok.answered _ _ _ here
      · exact ok.replies _ _ there succeeded
    · exact ok.answered _ _ _ there
  · rw [still]
    rcases events_of_perform performed _ mem with mem | ⟨sessionId, rfl⟩
    · exact ok.events _ _ mem
    · obtain rfl : answered = _ := permitted
      exact ok.answered _ _ _ here

theorem AnswersOk.writeReply {requestId : String} {reply : TurnReply} (ok : AnswersOk st crew)
    (uncanceled : reply.status = .succeeded → requestId ∉ st.canceled) :
    AnswersOk (st.writeReply requestId reply) crew := by
  have more {r : String} (known : Uncanceled st r) : Uncanceled (st.writeReply requestId reply) r :=
    ⟨List.mem_append_left _ known.1, known.2⟩
  refine ⟨fun r taken there succeeded => ?_, fun i env r there => more (ok.answered i env r there),
    fun r message mem => more (ok.events r message mem)⟩
  by_cases same : r = requestId
  · subst same
    simp only [SessionStore.writeReply, Function.update_self, Option.some.injEq] at there
    subst there
    exact ⟨List.mem_append_right _ (List.mem_singleton_self _), uncanceled succeeded⟩
  · simp only [SessionStore.writeReply, ne_eq, same, not_false_eq_true, Function.update_of_ne]
      at there
    exact more (ok.replies r taken there succeeded)

/-- What is left alone by a step that touches no reply. -/
theorem AnswersOk.apart (ok : AnswersOk st crew) (replies : st'.replies = st.replies)
    (replied : st'.replied = st.replied) (canceled : st'.canceled = st.canceled)
    (events : st'.events = st.events) : AnswersOk st' crew := by
  have still (requestId : String) : Uncanceled st' requestId ↔ Uncanceled st requestId := by
    simp only [Uncanceled, replied, canceled]
  refine ⟨?_, ?_, ?_⟩
  · simp only [still, replies]
    exact ok.replies
  · simp only [still]
    exact ok.answered
  · simp only [still, events]
    exact ok.events

/-- A cancel marks only turns that have had no reply. -/
theorem AnswersOk.post (ok : AnswersOk st crew) (msg : EdgeToBrainRequest) :
    AnswersOk (st.post msg) crew := by
  have still {r : String} (known : Uncanceled st r) : Uncanceled (st.post msg) r := by
    refine ⟨known.1, fun mem => ?_⟩
    rcases List.mem_append.mp mem with mem | mem
    · exact known.2 mem
    · cases msg with
      | sessionCancel cancel =>
        obtain ⟨turn, dispatched, rfl⟩ := List.mem_map.mp mem
        have open_ := List.of_mem_filter dispatched
        simp only [decide_eq_true_eq] at open_
        exact open_.2 known.1
      | sessionSend send => cases mem
      | other => cases mem
  exact ⟨fun r taken there succeeded => still (ok.replies r taken there succeeded),
    fun i env r there => still (ok.answered i env r there),
    fun r message mem => still (ok.events r message mem)⟩

theorem AnswersOk.receive (ok : AnswersOk st crew) (executorId : String) (payload : SessionPayload) :
    AnswersOk (st.receive executorId payload) crew := by
  cases payload with
  | sessionOpen => exact ok.apart rfl rfl rfl rfl
  | sessionTurn requestId organizationId sessionId message =>
    simp only [SessionStore.receive]
    split
    · exact ok
    split
    · exact ok.writeReply fun succeeded => nomatch succeeded
    · exact ok.apart rfl rfl rfl rfl
  | sessionCancel => exact ok

theorem AnswersOk.refuse (ok : AnswersOk st crew) (payload : SessionPayload) :
    AnswersOk (st.refuse payload) crew := by
  cases payload with
  | sessionOpen => exact ok.apart rfl rfl rfl rfl
  | sessionTurn => exact ok.writeReply fun succeeded => nomatch succeeded
  | sessionCancel => exact ok.writeReply fun succeeded => nomatch succeeded

theorem AnswersOk.finishTurn {executorId : String} {context : Nat}
    {result : Except TurnFailure String} (ok : AnswersOk st crew)
    (uncanceled : ∀ content, result = .ok content →
      ∀ ctx ∈ (st.nodes executorId).contexts context, ∀ turn ∈ ctx.activeTurn,
        turn.requestId ∉ st.canceled)
    (finished : st.finishTurn executorId context result = some st') : AnswersOk st' crew := by
  obtain ⟨ctx, there, finished⟩ := Option.bind_eq_some_iff.mp finished
  obtain ⟨turn, active, rfl⟩ := Option.map_eq_some_iff.mp finished
  cases result with
  | ok content =>
    have apart := uncanceled content rfl ctx there turn active
    exact AnswersOk.writeReply (ok.apart rfl rfl rfl rfl) fun _ => apart
  | error failure =>
    exact AnswersOk.writeReply (ok.apart rfl rfl rfl rfl) fun succeeded => nomatch succeeded

theorem AnswersOk.tick {tick : SessionTick} (ok : AnswersOk st crew)
    (uncanceled : ∀ executorId context content, tick = .finishTurn executorId context (.ok content) →
      ∀ ctx ∈ (st.nodes executorId).contexts context, ∀ turn ∈ ctx.activeTurn,
        turn.requestId ∉ st.canceled)
    (ticked : sessionTick st tick = some st') : AnswersOk st' crew := by
  have taken {index : Nat} {command : String × SessionPayload} {rest : SessionStore}
      (took : st.take index = some (command, rest)) : AnswersOk rest crew := by
    obtain ⟨command', -, same⟩ := Option.map_eq_some_iff.mp took
    obtain ⟨-, rfl⟩ := Prod.mk.inj same
    exact ok.apart rfl rfl rfl rfl
  cases tick with
  | post msg =>
    obtain rfl := Option.some.inj ticked
    exact ok.post msg
  | receive index =>
    obtain ⟨⟨command, rest⟩, took, rfl⟩ := Option.map_eq_some_iff.mp ticked
    exact (taken took).receive command.1 command.2
  | refuse index =>
    obtain ⟨⟨command, rest⟩, took, rfl⟩ := Option.map_eq_some_iff.mp ticked
    exact (taken took).refuse command.2
  | drop index =>
    obtain ⟨⟨command, rest⟩, took, rfl⟩ := Option.map_eq_some_iff.mp ticked
    exact taken took
  | finishTurn executorId context result =>
    refine ok.finishTurn (fun content same => ?_) ticked
    subst same
    exact uncanceled executorId context content rfl
  | expireLock sessionId =>
    obtain rfl := Option.some.inj ticked
    exact ok.apart rfl rfl rfl rfl
  | expireReply requestId =>
    obtain rfl := Option.some.inj ticked
    refine ⟨fun r reply there succeeded => ?_, ok.answered, ok.events⟩
    by_cases same : r = requestId
    · subst same
      simp at there
    · simp only [ne_eq, same, not_false_eq_true, Function.update_of_ne] at there
      exact ok.replies r reply there succeeded

theorem answersOk_run {s : (sessionBrains maxTurns).State}
    (run : System.Steps AnswersUncanceled (noSessions maxTurns) s) :
    AnswersOk s.store ((sessionCertified maxTurns).crew s) := by
  refine ((sessionCertified maxTurns).invariant
    (fun s => AnswersOk s.store ((sessionCertified maxTurns).crew s)) (fun _ => rfl) ?_ ?_ run).2
  · refine ⟨fun _ _ there => ?_, fun _ _ _ there => ?_, fun _ _ mem => ?_⟩
    · cases there
    · cases there
    · cases mem
  · intro t a u all ok uncanceled stepped
    have happened := Certified.happened all stepped
    generalize (sessionCertified maxTurns).crew u = crew at happened ⊢
    generalize u.store = store at happened ⊢
    cases happened with
    | launch free started =>
      simp only [sessionBrains, Option.ite_none_left_eq_some, Option.some.injEq] at started
      obtain ⟨-, rfl⟩ := started
      refine ⟨ok.replies, fun i env r there => ?_, ok.events⟩
      rcases update_cases there with ⟨-, new⟩ | ⟨-, there⟩
      · cases new
      · exact ok.answered i env r there
    | call here issues permitted performed => exact ok.perform here permitted performed
    | loop => exact ok
    | finish here ended =>
      refine ⟨ok.replies, fun i env r there => ?_, ok.events⟩
      rcases update_cases there with ⟨-, new⟩ | ⟨-, there⟩
      · cases new
      · exact ok.answered i env r there
    | tick ticked =>
      refine ok.tick (fun executorId context content same => ?_) ticked
      exact uncanceled executorId context content (by rw [same])

/-- While executors do not answer cancelled turns with success, none of them gets an answer. -/
theorem canceled_unanswered {s : (sessionBrains maxTurns).State}
    (run : System.Steps AnswersUncanceled (noSessions maxTurns) s) : NoCanceledAnswer s.store :=
  fun requestId message mem => ((answersOk_run run).events requestId message mem).2

/-! ### A cancel that comes during a turn -/

namespace Sample

def session : AgentSession :=
  { id := "s", organizationId := "org", engineId := none, hasSecret := true
    executorSelector := none, maxTurns := some 1, timeoutMs := none, promptSystem := none
    promptInstructions := none, pinnedExecutorId := some "node", pinnedExecutorPool := some .byon
    pinnedAgentId := none, sessionKey := none, routedAgentId := none }

def sendOf (requestId : String) : SessionSend :=
  { requestId, organizationId := "org", sessionId := "s", message := some requestId }

def cancel : SessionCancel := { requestId := "c", organizationId := "org", sessionId := "s" }

/-- The answers where the session is there and its executor replies. -/
def sessionAnswers (msg : SessionSend) : (op : BrainOp) → op.Reply
  | .xreadGroup _ => [EdgeToBrainRequest.sessionSend msg]
  | .getAgentSessionById .. => some session
  | .waitForOpened .. => some { ok := true, error := none }
  | .waitForTurnReply .. =>
    some { status := .succeeded, content := none, error := none, code := none }
  | op => answers op

abbrev oneTurn : String → Nat := fun _ => 1

/-- A message is sent, and its turn begins on the executor. -/
def turnBegins (id : Nat) (requestId : String) : List (sessionBrains oneTurn).Action :=
  .tick (.post (.sessionSend (sendOf requestId))) :: .launch id Sample.env ::
    (List.replicate 8 (.call id (sessionAnswers (sendOf requestId))) ++ [.tick (.receive 0)] ++
    List.replicate 3 (.call id (sessionAnswers (sendOf requestId))) ++ [.tick (.receive 0)])

def turnEnds (result : Except TurnFailure String) : (sessionBrains oneTurn).Action :=
  .tick (.finishTurn "node" 0 result)

/-- The brain goes on for `n` operations and is done with its round. -/
def brainGoesOn (id : Nat) (requestId : String) (n : Nat) :
    List (sessionBrains oneTurn).Action :=
  List.replicate n (.call id (sessionAnswers (sendOf requestId))) ++ [.finish id]

def noAnswer : (sessionBrains oneTurn).State → (sessionBrains oneTurn).Action → Prop
  | _, .tick (.finishTurn _ _ (.ok _)) => False
  | _, _ => True

instance (s : (sessionBrains oneTurn).State) (a : (sessionBrains oneTurn).Action) :
    Decidable (noAnswer s a) := by
  unfold noAnswer
  split <;> infer_instance

/-- The events and the canceled requests after `actions`. -/
def eventsAfter (C : (sessionBrains oneTurn).State → (sessionBrains oneTurn).Action → Prop)
    [∀ s a, Decidable (C s a)] (actions : List (sessionBrains oneTurn).Action) :
    Option (List (String × SessionEvent) × List String) :=
  (System.exec C (noSessions oneTurn) actions).map fun s => (s.store.events, s.store.canceled)

end Sample

theorem canceled_unanswered_failed : ∃ s : (sessionBrains Sample.oneTurn).State,
    s.store.events = [("r", .sessionTurnCanceled "r")] ∧ s.store.canceled = ["r"] ∧
      NoCanceledAnswer s.store := by
  have ran : Sample.eventsAfter Sample.noAnswer (Sample.turnBegins 0 "r" ++
      [.tick (.post (.sessionCancel Sample.cancel)),
        Sample.turnEnds (.error { code := "TURN_CANCELED", message := "TURN_CANCELED" })] ++
      Sample.brainGoesOn 0 "r" 8) =
      some ([("r", .sessionTurnCanceled "r")], ["r"]) := by decide +kernel
  obtain ⟨s, run, same⟩ := Option.map_eq_some_iff.mp ran
  obtain ⟨events, canceled⟩ := Prod.mk.inj same
  refine ⟨s, events, canceled, canceled_unanswered ((System.steps_of_exec run).mono ?_)⟩
  intro t a unanswered executorId context content same
  subst same
  exact unanswered.elim

/-- The cancel waits on the stream until the brain has taken the answer. -/
theorem canceled_answered : ¬∀ (maxTurns : String → Nat) (s : (sessionBrains maxTurns).State),
    System.Steps (fun _ _ => True) (noSessions maxTurns) s → NoCanceledAnswer s.store := by
  intro claim
  have ran : Sample.eventsAfter (fun _ _ => True) (Sample.turnBegins 0 "r" ++
      [.tick (.post (.sessionCancel Sample.cancel)), Sample.turnEnds (.ok "hello")] ++
      Sample.brainGoesOn 0 "r" 9) =
      some ([("r", .agentMessage "hello"), ("r", .agentFinal "hello")], ["r"]) := by
    decide +kernel
  obtain ⟨s, run, same⟩ := Option.map_eq_some_iff.mp ran
  obtain ⟨events, canceled⟩ := Prod.mk.inj same
  have unanswered := claim Sample.oneTurn s (System.steps_of_exec run) "r" "hello"
  rw [events, canceled] at unanswered
  exact unanswered (by simp) (by simp)

end Vespid.Brain
