import Vespid.Brain.Cancel

/-!
# One turn of a session at a time

A brain has a session's lock from when it set it until it deletes it, whether or not the lock
has expired in between. What a handler has taken from the stream is told an end in the session
events unless it found the lock taken, the session gone, or its own turn canceled.
-/

namespace Vespid.Brain

open Interleaving NodeAgent

def SessionEvent.ends : SessionEvent → Bool
  | error .. | sessionTurnCanceled _ | sessionCancelRequested _ | agentFinal _ => true
  | _ => false

def EdgeToBrainRequest.send? : EdgeToBrainRequest → Option SessionSend
  | sessionSend msg => some msg
  | _ => none

/-- What a handler has read, told and set. -/
structure TurnStage where
  brainId : String
  read : List SessionSend
  told : List String
  missed : Bool
  holding : Option String
  /-- The session of the turn it has just sent. -/
  awaiting : Option String
  active : Option (String × ActiveSessionTurn)

namespace TurnStage

def start (env : BrainEnv) : TurnStage :=
  { brainId := env.brainId, read := [], told := [], missed := false, holding := none
    awaiting := none, active := none }

def permits (stage : TurnStage) : BrainOp → Prop
  | .setSessionBrain .. => stage.holding = none
  | .delSessionBrain sessionId => stage.holding = some sessionId
  | .executorSession _ _ (.sessionTurn _ _ sessionId _) => stage.holding = some sessionId
  | .getActiveTurn brainId sessionId =>
    brainId = stage.brainId ∧ ∀ turn ∈ stage.active, turn.1 = sessionId
  | .setActiveTurn brainId .. => brainId = stage.brainId ∧ stage.active = none
  | .deleteActiveTurn brainId _ => brainId = stage.brainId
  | _ => True

/-- What is seen besides the wait for a reply. -/
def note (stage : TurnStage) : (op : BrainOp) → op.Reply → TurnStage
  | .xreadGroup _, (batch : List EdgeToBrainRequest) =>
    { stage with read := stage.read ++ batch.filterMap (·.send?) }
  | .setSessionBrain sessionId _, (lockOk : Bool) =>
    if lockOk then { stage with holding := some sessionId } else { stage with missed := true }
  | .delSessionBrain _, _ => { stage with holding := none, active := none }
  | .getAgentSessionById .., (session : Option AgentSession) =>
    { stage with missed := stage.missed || session.isNone }
  | .appendAgentSessionEvent requester _ event, _ =>
    if event.ends then { stage with told := requester :: stage.told } else stage
  | .getActiveTurn .., (current : Option ActiveSessionTurn) =>
    { stage with missed := stage.missed || (stage.active.isSome && current.any (·.canceled)) }
  | .setActiveTurn _ sessionId turn, _ =>
    { stage with active := if turn.canceled then none else some (sessionId, turn) }
  | .deleteActiveTurn .., _ => { stage with active := none }
  | _, _ => stage

def sent : BrainOp → Option String
  | .executorSession _ _ (.sessionTurn _ _ sessionId _) => some sessionId
  | _ => none

def observe (stage : TurnStage) (op : BrainOp) (reply : op.Reply) : TurnStage :=
  { stage.note op reply with awaiting := sent op }

end TurnStage

def turnProtocol : Protocol BrainOps TurnStage where
  permits := TurnStage.permits
  expects _ _ := True
  observe := TurnStage.observe

/-! ### What a handler leaves -/

/-- What the rest of a handler goes on from: nothing it was told is taken back. -/
structure TurnStage.Before (stage after : TurnStage) : Prop where
  brainId : after.brainId = stage.brainId
  read : after.read = stage.read
  holding : after.holding = stage.holding
  told : stage.told ⊆ after.told
  missed : after.missed = false → stage.missed = false

namespace TurnStage.Before
variable {stage mid after : TurnStage}

theorem refl (stage : TurnStage) : stage.Before stage :=
  ⟨rfl, rfl, rfl, List.Subset.refl _, id⟩

theorem trans (first : stage.Before mid) (rest : mid.Before after) : stage.Before after where
  brainId := rest.brainId.trans first.brainId
  read := rest.read.trans first.read
  holding := rest.holding.trans first.holding
  told := List.Subset.trans first.told rest.told
  missed := fun still => first.missed (rest.missed still)

end TurnStage.Before

/-- The request has been told an end, or the handler has missed something. -/
def TurnStage.Settled (requestId : String) (after : TurnStage) : Prop :=
  after.missed = false → requestId ∈ after.told

/-- Operations about neither the lock, the turn nor the session's row. -/
def quiet : BrainOp → Prop
  | .setSessionBrain .. | .delSessionBrain _ | .getAgentSessionById .. | .getActiveTurn ..
  | .setActiveTurn .. | .deleteActiveTurn .. | .xreadGroup _
  | .executorSession _ _ (.sessionTurn ..) => False
  | _ => True

/-- What a quiet program leaves. -/
def TurnStage.Quietly (stage after : TurnStage) : Prop :=
  stage.Before after ∧ after.active = stage.active

variable {stage : TurnStage}

theorem quietly_observe {op : BrainOp} (silent : quiet op) (reply : op.Reply) :
    stage.Quietly (stage.observe op reply) := by
  unfold TurnStage.observe
  cases op with
  | appendAgentSessionEvent requester sessionId event =>
    show stage.Quietly { (if event.ends then _ else stage) with awaiting := _ }
    split
    · exact ⟨⟨rfl, rfl, rfl, List.subset_cons_self .., id⟩, rfl⟩
    · exact ⟨⟨rfl, rfl, rfl, List.Subset.refl _, id⟩, rfl⟩
  | _ => first | exact False.elim silent | exact ⟨⟨rfl, rfl, rfl, List.Subset.refl _, id⟩, rfl⟩

theorem permits_quiet {op : BrainOp} (silent : quiet op) : stage.permits op := by
  unfold TurnStage.permits
  split
  all_goals first | exact False.elim silent | trivial

theorem wp_quiet {α : Type} {p : BrainProgram α} (only : p.Only quiet) :
    p.wp turnProtocol (fun _ after => stage.Quietly after) stage := by
  apply Program.wp_of_only stage.Quietly only
  · intro g op _ silent
    exact permits_quiet silent
  · intro g op reply before silent
    have next : g.Quietly (g.observe op reply) := quietly_observe silent reply
    exact ⟨before.1.trans next.1, next.2.trans before.2⟩
  · exact ⟨.refl stage, rfl⟩

theorem quiet_of_selecting {op : BrainOp} (part : selecting op) : quiet op := by
  unfold selecting at part
  split at part <;> first | exact False.elim part | trivial

theorem quiet_of_pinning {op : BrainOp} (part : pinning op) : quiet op := by
  unfold pinning at part
  split at part <;> first | exact False.elim part | trivial

theorem quiet_of_releasing {op : BrainOp} (part : releasing op) : quiet op := by
  unfold releasing at part
  split at part <;> first | exact False.elim part | trivial

/-- A program that leaves the lock as it is and tells the request an end. -/
structure TurnStage.Ends (stage : TurnStage) (msg : SessionSend) (after : TurnStage) : Prop where
  before : stage.Before after
  settled : after.Settled msg.requestId
  own : ∀ turn ∈ after.active, turn.1 = msg.sessionId

theorem TurnStage.Before.ends {mid after : TurnStage} {msg : SessionSend} (first : stage.Before mid)
    (rest : mid.Ends msg after) : stage.Ends msg after :=
  ⟨first.trans rest.before, rest.settled, rest.own⟩

section step
variable {α : Type} {post : α → TurnStage → Prop}

theorem wp_quiet_call {op : BrainOp} {next : op.Reply → BrainProgram α} (silent : quiet op)
    (rest : ∀ reply after, stage.Quietly after → (next reply).wp turnProtocol post after) :
    Program.wp turnProtocol post (.call op next) stage :=
  ⟨permits_quiet silent, fun reply _ => rest reply _ (quietly_observe silent reply)⟩

theorem wp_getActiveTurn {brainId sessionId : String}
    {next : Option ActiveSessionTurn → BrainProgram α} (here : brainId = stage.brainId)
    (own : ∀ turn ∈ stage.active, turn.1 = sessionId)
    (rest : ∀ current after, stage.Quietly after →
      (after.missed = false → stage.active.isSome → ∀ turn ∈ current, turn.canceled = false) →
      (next current).wp turnProtocol post after) :
    Program.wp turnProtocol post (.call (.getActiveTurn brainId sessionId) next) stage := by
  refine ⟨⟨here, own⟩, fun current _ => rest current _ ⟨⟨rfl, rfl, rfl, List.Subset.refl _, ?_⟩, rfl⟩ ?_⟩
  · intro still
    exact (Bool.or_eq_false_iff.mp still).1
  · rintro still active turn ⟨⟩
    have live : (stage.active.isSome && turn.canceled) = false := (Bool.or_eq_false_iff.mp still).2
    simpa [active] using live

theorem wp_setActiveTurn {brainId sessionId : String} {turn : ActiveSessionTurn}
    {next : Unit → BrainProgram α} (here : brainId = stage.brainId) (free : stage.active = none)
    (rest : ∀ after, stage.Before after →
      after.active = (if turn.canceled then none else some (sessionId, turn)) →
      (next ()).wp turnProtocol post after) :
    Program.wp turnProtocol post (.call (.setActiveTurn brainId sessionId turn) next) stage :=
  ⟨⟨here, free⟩, fun _ _ => rest _ ⟨rfl, rfl, rfl, List.Subset.refl _, id⟩ rfl⟩

theorem wp_sendTurn {edgeId executorId : String} {msg : SessionSend}
    {next : Unit → BrainProgram α} (held : stage.holding = some msg.sessionId)
    (rest : ∀ after, stage.Quietly after → (next ()).wp turnProtocol post after) :
    Program.wp turnProtocol post (.call (.executorSession edgeId executorId (turnMessage msg)) next)
      stage :=
  ⟨held, fun _ _ => rest _ ⟨⟨rfl, rfl, rfl, List.Subset.refl _, id⟩, rfl⟩⟩

end step

theorem tell_ends (msg : SessionSend) {event : SessionEvent} (ends : event.ends = true)
    (own : ∀ turn ∈ stage.active, turn.1 = msg.sessionId) :
    Program.wp turnProtocol (fun _ after => stage.Ends msg after)
      (await (.appendAgentSessionEvent msg.requestId msg.sessionId event) : BrainProgram Unit)
      stage := by
  refine ⟨trivial, fun _ _ => ?_⟩
  simp only [turnProtocol, TurnStage.observe, TurnStage.note, ends, if_true]
  exact ⟨⟨rfl, rfl, rfl, List.subset_cons_self .., id⟩, fun _ => List.mem_cons_self, own⟩

theorem settleTurn_ends (env : BrainEnv) (msg : SessionSend) (reply : TurnReply)
    (here : env.brainId = stage.brainId) (active : stage.active.isSome)
    (own : ∀ turn ∈ stage.active, turn.1 = msg.sessionId) :
    (settleTurn env msg reply).wp turnProtocol (fun _ after => stage.Ends msg after) stage := by
  simp only [settleTurn, await, Program.issue_eq, Program.call_bind, Program.done_bind]
  apply wp_getActiveTurn here own
  intro current after same live
  have own : ∀ turn ∈ after.active, turn.1 = msg.sessionId := by rwa [same.2]
  cases reply.status with
  | failed =>
    dsimp only
    split
    · exact Program.wp_mono (fun _ _ => same.1.ends) (tell_ends msg rfl own)
    · exact Program.wp_mono (fun _ _ => same.1.ends) (tell_ends msg rfl own)
  | succeeded =>
    dsimp only
    split
    · rename_i canceled
      refine ⟨same.1, fun still => ?_, own⟩
      cases current with
      | none => cases canceled
      | some turn =>
        have gone : turn.canceled = true := (Bool.and_eq_true_iff.mp canceled).2
        rw [live still active turn rfl] at gone
        cases gone
    · apply wp_quiet_call (by trivial)
      intro _ mid quietly
      have own : ∀ turn ∈ mid.active, turn.1 = msg.sessionId := by rwa [quietly.2]
      exact Program.wp_mono (fun _ _ => (same.1.trans quietly.1).ends) (tell_ends msg rfl own)

theorem runOnExecutor_ends (env : BrainEnv) (msg : SessionSend) (session : AgentSession)
    (executor : SelectedExecutor) (here : env.brainId = stage.brainId)
    (held : stage.holding = some msg.sessionId) (free : stage.active = none) :
    (runOnExecutor env msg session executor).wp turnProtocol (fun _ after => stage.Ends msg after)
      stage := by
  simp only [runOnExecutor, await, Program.issue_eq, Program.call_bind, Program.done_bind]
  apply wp_quiet_call (by trivial)
  intro _ sent first
  apply wp_quiet_call (by trivial)
  intro opened waited second
  have before : stage.Before waited := first.1.trans second.1
  have free : waited.active = none := by rw [second.2, first.2, free]
  split
  · exact Program.wp_mono (fun _ _ => before.ends) (tell_ends msg rfl (by simp [free]))
  · apply wp_setActiveTurn (here.trans before.brainId.symm) free
    intro set third active
    have active : set.active = some (msg.sessionId, activeTurn msg executor) := active
    apply wp_sendTurn (by rw [third.holding, before.holding, held])
    intro turned fourth
    apply wp_quiet_call (by trivial)
    intro reply done fifth
    have before : stage.Before done :=
      before.trans (third.trans (fourth.1.trans fifth.1))
    have active : done.active = some (msg.sessionId, activeTurn msg executor) := by
      rw [fifth.2, fourth.2, active]
    have own : ∀ turn ∈ done.active, turn.1 = msg.sessionId := by simp [active]
    cases reply with
    | none => exact Program.wp_mono (fun _ _ => before.ends) (tell_ends msg rfl own)
    | some reply =>
      exact Program.wp_mono (fun _ _ => before.ends) (settleTurn_ends env msg reply
        (here.trans before.brainId.symm) (by simp [active]) own)

theorem turnOnExecutor_ends (env : BrainEnv) (msg : SessionSend) (session : AgentSession)
    (executor : SelectedExecutor) (here : env.brainId = stage.brainId)
    (held : stage.holding = some msg.sessionId) (free : stage.active = none) :
    (turnOnExecutor env msg session executor).wp turnProtocol (fun _ after => stage.Ends msg after)
      stage := by
  refine Program.wp_seq (wp_quiet (Program.only_mono (fun _ => quiet_of_pinning)
    (persistPin_pinning msg session executor))) ?_
  intro persisted after same
  have free : after.active = none := by rw [same.2, free]
  split
  · exact Program.wp_mono (fun _ _ => same.1.ends) (tell_ends msg rfl (by simp [free]))
  split
  · exact Program.wp_mono (fun _ _ => same.1.ends) (tell_ends msg rfl (by simp [free]))
  · exact Program.wp_mono (fun _ _ => same.1.ends) (runOnExecutor_ends env msg persisted executor
      (here.trans same.1.brainId.symm) (by rw [same.1.holding, held]) free)

theorem trySessionSend_ends (env : BrainEnv) (msg : SessionSend)
    (here : env.brainId = stage.brainId) (held : stage.holding = some msg.sessionId)
    (free : stage.active = none) :
    (trySessionSend env msg).wp turnProtocol (fun _ after => stage.Ends msg after) stage := by
  simp only [trySessionSend, await, Program.issue_eq, Program.call_bind, Program.done_bind]
  refine ⟨trivial, fun session _ => ?_⟩
  cases session with
  | none =>
    refine ⟨⟨rfl, rfl, rfl, List.Subset.refl _, fun still => ?_⟩, fun still => ?_, by simp [turnProtocol, TurnStage.observe, TurnStage.note, free]⟩
    · exact (Bool.or_eq_false_iff.mp still).1
    · have seen : (stage.missed || true) = false := still
      simp at seen
  | some session =>
    have found : stage.Quietly (stage.observe
        (.getAgentSessionById msg.organizationId msg.sessionId) (some session)) :=
      ⟨⟨rfl, rfl, rfl, List.Subset.refl _, fun still => (Bool.or_eq_false_iff.mp still).1⟩, rfl⟩
    apply wp_quiet_call (by trivial)
    intro orgMaxInFlight asked first
    have same : stage.Quietly asked := ⟨found.1.trans first.1, first.2.trans found.2⟩
    have free : asked.active = none := by rw [same.2, free]
    split
    · exact Program.wp_seq (tell_ends msg rfl (by simp [free])) fun _ _ ends =>
        same.1.ends ends
    · refine Program.wp_seq (wp_quiet (Program.only_mono (fun _ => quiet_of_selecting)
        (selectForSession_selecting ..))) ?_
      intro selected chosen second
      have before : stage.Before chosen := same.1.trans second.1
      have free : chosen.active = none := by rw [second.2, free]
      cases selected with
      | error failure =>
        exact Program.wp_seq (tell_ends msg rfl (by simp [free])) fun _ _ ends =>
          before.ends ends
      | ok executor =>
        exact Program.wp_seq (turnOnExecutor_ends env msg session executor
          (here.trans before.brainId.symm) (by rw [before.holding, held]) free)
          fun _ _ ends => before.ends ends

/-- Between two messages: no lock is held and no turn is active. -/
structure TurnStage.Idle (stage : TurnStage) (brainId : String) : Prop where
  here : brainId = stage.brainId
  holding : stage.holding = none
  active : stage.active = none

theorem forgetTurn_leaves (env : BrainEnv) (msg : SessionSend) (here : env.brainId = stage.brainId)
    (own : ∀ turn ∈ stage.active, turn.1 = msg.sessionId) :
    (forgetTurn env msg).wp turnProtocol (fun _ after => stage.Before after) stage := by
  simp only [forgetTurn, await, Program.issue_eq, Program.call_bind, Program.done_bind]
  apply wp_getActiveTurn here own
  intro current after same _
  split
  · refine ⟨here.trans same.1.brainId.symm, fun _ _ => same.1.trans ?_⟩
    exact ⟨rfl, rfl, rfl, List.Subset.refl _, id⟩
  · exact same.1

theorem handleSessionSend_settles (env : BrainEnv) (msg : SessionSend)
    (idle : stage.Idle env.brainId) :
    (handleSessionSend env msg).wp turnProtocol (fun _ after =>
      stage.Before after ∧ after.Idle env.brainId ∧ after.Settled msg.requestId) stage := by
  simp only [handleSessionSend, await, Program.issue_eq, Program.call_bind, Program.done_bind]
  refine ⟨idle.holding, fun lockOk _ => ?_⟩
  cases lockOk with
  | false =>
    refine ⟨⟨rfl, rfl, rfl, List.Subset.refl _, fun still => ?_⟩,
      ⟨idle.here, idle.holding, idle.active⟩, fun still => ?_⟩
    · cases still
    · cases still
  | true =>
    refine Program.wp_seq (trySessionSend_ends env msg idle.here rfl idle.active) ?_
    intro selected tried ends
    refine Program.wp_seq (forgetTurn_leaves env msg
      (idle.here.trans ends.before.brainId.symm) ends.own) ?_
    intro _ forgot first
    refine Program.wp_seq (wp_quiet (Program.only_mono (fun _ => quiet_of_releasing)
      (releaseSelected_releasing msg selected))) ?_
    intro _ released second
    have before := ends.before.trans (first.trans second.1)
    refine ⟨before.holding, fun _ _ => ⟨?_, ?_, ?_⟩⟩
    · exact ⟨before.brainId, before.read, idle.holding.symm, before.told, before.missed⟩
    · exact ⟨idle.here.trans before.brainId.symm, rfl, rfl⟩
    · intro still
      apply (first.trans second.1).told
      exact ends.settled ((first.trans second.1).missed still)

theorem handleSessionCancel_leaves (env : BrainEnv) (msg : SessionCancel)
    (idle : stage.Idle env.brainId) :
    (handleSessionCancel env msg).wp turnProtocol (fun _ after =>
      stage.Before after ∧ after.Idle env.brainId) stage := by
  simp only [handleSessionCancel, await, Program.issue_eq, Program.call_bind, Program.done_bind]
  apply wp_getActiveTurn idle.here (by simp [idle.active])
  intro current after same _
  have left : after.Idle env.brainId :=
    ⟨idle.here.trans same.1.brainId.symm, by rw [same.1.holding, idle.holding],
      by rw [same.2, idle.active]⟩
  cases current with
  | none => exact ⟨same.1, left⟩
  | some turn =>
    dsimp only
    split
    · exact ⟨same.1, left⟩
    split
    · exact ⟨same.1, left⟩
    · apply wp_setActiveTurn left.here left.active
      intro set second none
      have none : set.active = .none := none
      apply wp_quiet_call (by trivial)
      intro _ told third
      apply wp_quiet_call (by trivial)
      intro _ done fourth
      have before : after.Before done := second.trans (third.1.trans fourth.1)
      exact ⟨same.1.trans before, left.here.trans before.brainId.symm,
        by rw [before.holding, left.holding], by rw [fourth.2, third.2, none]⟩

/-- Whatever the records are, the sends among them are settled. -/
theorem handleAll_settles (env : BrainEnv) (records : List EdgeToBrainRequest)
    (idle : stage.Idle env.brainId) :
    (handleAll env records).wp turnProtocol (fun _ after => stage.Before after ∧
      ∀ msg ∈ records.filterMap (·.send?), after.Settled msg.requestId) stage := by
  induction records generalizing stage with
  | nil => exact ⟨.refl stage, by simp⟩
  | cons record rest ih =>
    have handled : (handleRequest env record).wp turnProtocol (fun _ after =>
        stage.Before after ∧ after.Idle env.brainId ∧
          ∀ msg ∈ record.send?, after.Settled msg.requestId) stage := by
      cases record with
      | sessionSend msg =>
        refine Program.wp_mono ?_ (handleSessionSend_settles env msg idle)
        rintro _ after ⟨before, left, settled⟩
        refine ⟨before, left, ?_⟩
        rintro _ ⟨⟩
        exact settled
      | sessionCancel msg =>
        refine Program.wp_mono ?_ (handleSessionCancel_leaves env msg idle)
        rintro _ after ⟨before, left⟩
        exact ⟨before, left, by rintro _ ⟨⟩⟩
      | other =>
        apply wp_quiet_call (by trivial)
        intro _ after same
        refine ⟨same.1, ⟨idle.here.trans same.1.brainId.symm, by rw [same.1.holding, idle.holding],
          by rw [same.2, idle.active]⟩, ?_⟩
        rintro _ ⟨⟩
    refine Program.wp_seq handled ?_
    rintro _ after ⟨before, left, settled⟩
    refine Program.wp_mono ?_ (ih left)
    rintro _ last ⟨later, others⟩
    refine ⟨before.trans later, ?_⟩
    intro msg mem still
    rw [List.filterMap_cons] at mem
    cases send : record.send? with
    | none =>
      rw [send] at mem
      exact others msg mem still
    | some first =>
      rw [send] at mem
      rcases List.mem_cons.mp mem with rfl | mem
      · exact later.told (settled msg send (later.missed still))
      · exact others msg mem still

variable (maxTurns : String → Nat)

def turnCertified : Certified (sessionBrains maxTurns) turnProtocol where
  start := .start
  looping _ loop _ := nomatch loop
  ended _ _ after := after.holding = none ∧ ∀ msg ∈ after.read, after.Settled msg.requestId
  entry_follows env := by
    have round : (brainRound env).wp turnProtocol (fun _ after =>
        after.holding = none ∧ ∀ msg ∈ after.read, after.Settled msg.requestId) (.start env) := by
      refine ⟨trivial, fun records _ => ?_⟩
      refine Program.wp_mono ?_ (handleAll_settles env records ⟨rfl, rfl, rfl⟩)
      rintro _ after ⟨before, settled⟩
      refine ⟨before.holding, fun msg mem => settled msg ?_⟩
      rw [before.read] at mem
      simpa [turnProtocol, TurnStage.observe, TurnStage.note, TurnStage.start] using mem
    exact Program.wp_seq round fun _ _ settled => settled
  body_follows _ loop := nomatch loop
  replies _ _ _ _ _ _ := trivial

/-! ### What one operation does to the store -/

section performed
variable {maxTurns} {st st' : SessionStore} {answer : (op : BrainOp) → op.Reply} {op : BrainOp}
  {reply : op.Reply} {g : TurnStage}

/-- What is true of the store an operation leaves, once it is shown of each operation. -/
theorem performSession_cases (P : SessionStore → Prop)
    (performed : performSession maxTurns op st answer = some (reply, st')) (same : P st)
    (read : ∀ n, P { st with toBrain := st.toBrain.drop n })
    (set : ∀ sessionId brainId, op = .setSessionBrain sessionId brainId →
      st.locks sessionId = none →
      P { st with locks := Function.update st.locks sessionId (some brainId) })
    (del : ∀ sessionId, op = .delSessionBrain sessionId →
      P { st with locks := Function.update st.locks sessionId none })
    (append : ∀ requester sessionId event,
      op = .appendAgentSessionEvent requester sessionId event →
      P { st with events := st.events ++ [(requester, event)] })
    (send : ∀ edgeId executorId payload, op = .executorSession edgeId executorId payload →
      P (st.send executorId payload))
    (active : ∀ brainId sessionId turn, (turn = none ∧ op = .deleteActiveTurn brainId sessionId) ∨
        (∃ set, turn = some set ∧ op = .setActiveTurn brainId sessionId set) →
      P { st with activeTurns := Function.update st.activeTurns (brainId, sessionId) turn }) :
    P st' := by
  cases op with
  | xreadGroup brainId =>
    simp only [performSession] at performed
    split at performed
    · cases performed
      exact read _
    · cases performed
  | setSessionBrain sessionId brainId =>
    simp only [performSession] at performed
    split at performed
    · cases performed
      exact same
    · cases performed
      exact set sessionId brainId rfl ‹_›
  | delSessionBrain sessionId =>
    cases performed
    exact del sessionId rfl
  | getAgentSessionById organizationId sessionId =>
    simp only [performSession] at performed
    split at performed
    · cases performed
      exact same
    · cases performed
  | setAgentSessionPinnedAgent organizationId sessionId executorId pool =>
    simp only [performSession] at performed
    split at performed
    · cases performed
      exact same
    · cases performed
  | appendAgentSessionEvent requester sessionId event =>
    cases performed
    exact append requester sessionId event rfl
  | executorSession edgeId executorId payload =>
    cases performed
    exact send edgeId executorId payload rfl
  | waitForOpened requestId timeoutMs =>
    simp only [performSession] at performed
    split at performed
    all_goals
      cases performed
      try exact same
  | waitForTurnReply requestId timeoutMs =>
    simp only [performSession] at performed
    split at performed
    all_goals
      cases performed
      try exact same
  | setActiveTurn brainId sessionId turn =>
    cases performed
    exact active brainId sessionId (some turn) (.inr ⟨turn, rfl, rfl⟩)
  | deleteActiveTurn brainId sessionId =>
    cases performed
    exact active brainId sessionId none (.inl ⟨rfl, rfl⟩)
  | _ =>
    cases performed
    exact same

theorem performSession_busy
    (performed : performSession maxTurns op st answer = some (reply, st')) : st'.busy = st.busy :=
  performSession_cases (·.busy = st.busy) performed rfl (fun _ => rfl) (fun _ _ _ _ => rfl)
    (fun _ _ => rfl) (fun _ _ _ _ => rfl) (fun _ _ _ _ => rfl) (fun _ _ _ _ => rfl)

theorem performSession_events
    (performed : performSession maxTurns op st answer = some (reply, st')) :
    st.events ⊆ st'.events :=
  performSession_cases (st.events ⊆ ·.events) performed (List.Subset.refl _)
    (fun _ => List.Subset.refl _) (fun _ _ _ _ => List.Subset.refl _)
    (fun _ _ => List.Subset.refl _) (fun _ _ _ _ => List.subset_append_left ..)
    (fun _ _ _ _ => List.Subset.refl _) (fun _ _ _ _ => List.Subset.refl _)

/-- A brain's active turns are its own. -/
theorem performSession_activeTurns_other {brainId : String} (permitted : g.permits op)
    (other : brainId ≠ g.brainId)
    (performed : performSession maxTurns op st answer = some (reply, st')) (sessionId : String) :
    st'.activeTurns (brainId, sessionId) = st.activeTurns (brainId, sessionId) := by
  refine performSession_cases
    (fun after => after.activeTurns (brainId, sessionId) = st.activeTurns (brainId, sessionId))
    performed rfl (fun _ => rfl) (fun _ _ _ _ => rfl) (fun _ _ => rfl) (fun _ _ _ _ => rfl)
    (fun _ _ _ _ => rfl) ?_
  intro owner session turn is
  have own : owner = g.brainId := by
    rcases is with ⟨-, rfl⟩ | ⟨set, -, rfl⟩
    · exact permitted
    · exact permitted.1
  apply Function.update_of_ne
  intro same
  exact other ((Prod.mk.inj same).1.trans own)

@[simp] theorem observe_brainId : (g.observe op reply).brainId = g.brainId := by
  cases op <;> try rfl
  all_goals
    simp only [TurnStage.observe, TurnStage.note]
    split <;> rfl

/-- The turn a handler has set stands in its brain's memory, and is not canceled. -/
def TurnStage.Stands (st : SessionStore) (stage : TurnStage) : Prop :=
  ∀ turn ∈ stage.active, st.activeTurns (stage.brainId, turn.1) = some turn.2 ∧
    turn.2.canceled = false

theorem stands_observe (stands : g.Stands st) (permitted : g.permits op)
    (performed : performSession maxTurns op st answer = some (reply, st')) :
    (g.observe op reply).Stands st' := by
  have kept (same : st'.activeTurns = st.activeTurns)
      (active : (g.observe op reply).active = g.active) : (g.observe op reply).Stands st' := by
    intro turn mem
    rw [observe_brainId, same]
    exact stands turn (active ▸ mem)
  have unchanged (quietly : ∀ brainId sessionId, op ≠ .deleteActiveTurn brainId sessionId)
      (other : ∀ brainId sessionId set, op ≠ .setActiveTurn brainId sessionId set) :
      st'.activeTurns = st.activeTurns := by
    refine performSession_cases (·.activeTurns = st.activeTurns) performed rfl (fun _ => rfl)
      (fun _ _ _ _ => rfl) (fun _ _ => rfl) (fun _ _ _ _ => rfl) (fun _ _ _ _ => rfl) ?_
    rintro brainId sessionId turn (⟨-, is⟩ | ⟨set, -, is⟩)
    · exact absurd is (quietly brainId sessionId)
    · exact absurd is (other brainId sessionId set)
  cases op with
  | setActiveTurn brainId sessionId turn =>
    cases performed
    rintro ⟨session, set⟩ mem
    have is : (if turn.canceled then none else some (sessionId, turn)) = some (session, set) := mem
    split at is
    · cases is
    · cases is
      refine ⟨?_, by simpa using ‹¬turn.canceled = true›⟩
      rw [observe_brainId, ← permitted.1]
      exact Function.update_self ..
  | deleteActiveTurn brainId sessionId => exact fun _ mem => by cases mem
  | delSessionBrain sessionId => exact fun _ mem => by cases mem
  | setSessionBrain sessionId brainId =>
    refine kept (unchanged nofun nofun) ?_
    simp only [TurnStage.observe, TurnStage.note]
    split <;> rfl
  | appendAgentSessionEvent requester sessionId event =>
    refine kept (unchanged nofun nofun) ?_
    simp only [TurnStage.observe, TurnStage.note]
    split <;> rfl
  | _ => exact kept (unchanged nofun nofun) rfl

/-- Every request a handler has told an end has an event that ends it. -/
def TurnStage.Tells (st : SessionStore) (stage : TurnStage) : Prop :=
  ∀ requestId ∈ stage.told, ∃ event, (requestId, event) ∈ st.events ∧ event.ends = true

theorem TurnStage.Tells.mono (tells : g.Tells st) (more : st.events ⊆ st'.events) :
    g.Tells st' := by
  intro requestId mem
  obtain ⟨event, there, ends⟩ := tells requestId mem
  exact ⟨event, more there, ends⟩

theorem tells_observe (tells : g.Tells st)
    (performed : performSession maxTurns op st answer = some (reply, st')) :
    (g.observe op reply).Tells st' := by
  have later := tells.mono (performSession_events performed)
  cases op with
  | appendAgentSessionEvent requester sessionId event =>
    cases performed
    intro requestId mem
    simp only [TurnStage.observe, TurnStage.note] at mem
    split at mem
    · rcases List.mem_cons.mp mem with rfl | old
      · exact ⟨event, by simp, ‹_›⟩
      · exact later requestId old
    · exact later requestId mem
  | setSessionBrain sessionId brainId =>
    intro requestId mem
    simp only [TurnStage.observe, TurnStage.note] at mem
    split at mem
    · exact later requestId mem
    · exact later requestId mem
  | _ => exact later

end performed

/-! ### Runs -/

/-- A handler has set the session's lock and not deleted it since. -/
def HoldsSession (p : (sessionBrains maxTurns).Process) (sessionId : String) : Prop :=
  ((turnCertified maxTurns).view p).holding = some sessionId

/-- No handler takes up a message of a session while another one is at the session, and the
session of every message is found. -/
def TakenUpApart (s : (sessionBrains maxTurns).State) : (sessionBrains maxTurns).Action → Prop
  | .call id choice => ∀ stage op, (turnCertified maxTurns).issued s (.call id choice) =
      some (stage, op) →
    match op with
    | .setSessionBrain sessionId _ =>
      ∀ other p, s.process other = some p → ¬HoldsSession maxTurns p sessionId
    | .getAgentSessionById organizationId sessionId =>
      (choice (.getAgentSessionById organizationId sessionId) : Option AgentSession) ≠ none
    | _ => True
  | _ => True

structure TurnInv (st : SessionStore) (crew : Nat → Option (BrainEnv × TurnStage)) : Prop where
  sole : ∀ brainId, Exclusive (fun q => q.1.brainId = brainId)
    (fun q => st.busy brainId = true ∧ q.2.brainId = brainId ∧ q.2.Stands st) True crew
  held : ∀ sessionId, Exclusive (fun q => q.2.holding = some sessionId) (fun _ => True)
    (st.locks sessionId = none) crew
  told : ∀ id q, crew id = some q → q.2.missed = false ∧
    (∀ sessionId ∈ q.2.awaiting, q.2.holding = some sessionId) ∧ q.2.Tells st

section step
variable {maxTurns} {st st' : SessionStore} {crew : Nat → Option (BrainEnv × TurnStage)} {id : Nat}
  {l : BrainEnv} {g : TurnStage} {op : BrainOp} {reply : op.Reply}
  {answer : (op : BrainOp) → op.Reply}

theorem sole_call (inv : TurnInv st crew) (here : crew id = some (l, g)) (permitted : g.permits op)
    (performed : performSession maxTurns op st answer = some (reply, st')) (brainId : String) :
    Exclusive (fun q : BrainEnv × TurnStage => q.1.brainId = brainId)
      (fun q => st'.busy brainId = true ∧ q.2.brainId = brainId ∧ q.2.Stands st') True
      (Function.update crew id (some (l, g.observe op reply))) := by
  have busy := performSession_busy performed
  by_cases own : l.brainId = brainId
  · obtain ⟨running, same, stands⟩ := (inv.sole brainId).held id _ here own
    apply (inv.sole brainId).pass here own own
    rw [busy]
    exact ⟨running, observe_brainId.trans same, stands_observe stands permitted performed⟩
  · apply (inv.sole brainId).stand
    · intro r there
      rw [here] at there
      cases there
      exact own
    · rintro r ⟨⟩
      exact own
    · rintro q ⟨running, same, stands⟩
      rw [busy]
      refine ⟨running, same, fun turn mem => ?_⟩
      have mine : g.brainId = l.brainId := ((inv.sole l.brainId).held id _ here rfl).2.1
      rw [performSession_activeTurns_other permitted _ performed]
      · exact stands turn mem
      · rw [same, mine]
        exact Ne.symm own
    · exact fun _ free => free

/-- An operation that sets or deletes no lock. -/
theorem held_stays (inv : TurnInv st crew) (here : crew id = some (l, g))
    (locks : st'.locks = st.locks) (g' : TurnStage) (same : g'.holding = g.holding)
    (sessionId : String) :
    Exclusive (fun q : BrainEnv × TurnStage => q.2.holding = some sessionId) (fun _ => True)
      (st'.locks sessionId = none) (Function.update crew id (some (l, g'))) := by
  rw [locks]
  by_cases holds : g.holding = some sessionId
  · exact (inv.held sessionId).pass here holds (same.trans holds) trivial
  · apply (inv.held sessionId).stand
    · intro r there
      rw [here] at there
      cases there
      exact holds
    · rintro r ⟨⟩
      exact fun now => holds (same.symm.trans now)
    · exact fun _ now => now
    · exact fun _ free => free

theorem held_call (inv : TurnInv st crew) (here : crew id = some (l, g)) (permitted : g.permits op)
    (performed : performSession maxTurns op st answer = some (reply, st'))
    (apart : ∀ sessionId brainId, op = .setSessionBrain sessionId brainId →
      NoneHolds (fun q : BrainEnv × TurnStage => q.2.holding = some sessionId) crew)
    (sessionId : String) :
    Exclusive (fun q : BrainEnv × TurnStage => q.2.holding = some sessionId) (fun _ => True)
      (st'.locks sessionId = none)
      (Function.update crew id (some (l, g.observe op reply))) := by
  have unchanged (quiet : ∀ session brainId, op ≠ .setSessionBrain session brainId)
      (other : ∀ session, op ≠ .delSessionBrain session) : st'.locks = st.locks := by
    refine performSession_cases (·.locks = st.locks) performed rfl (fun _ => rfl)
      (fun session brainId is => (quiet session brainId is).elim)
      (fun session is => (other session is).elim) (fun _ _ _ _ => rfl) (fun _ _ _ _ => rfl)
      (fun _ _ _ _ => rfl)
  cases op with
  | setSessionBrain session brainId =>
    have nobody := apart session brainId rfl
    have free := (inv.held session).unheld nobody
    simp only [performSession, free] at performed
    cases performed
    by_cases same : session = sessionId
    · subst same
      exact .take nobody rfl trivial
    · apply (inv.held sessionId).stand
      · intro r there
        rw [here] at there
        cases there
        have before : g.holding = none := permitted
        simp [before]
      · rintro r ⟨⟩ now
        exact same (Option.some.inj now)
      · exact fun _ now => now
      · intro _ free
        exact (Function.update_of_ne (Ne.symm same) ..).trans free
  | delSessionBrain session =>
    cases performed
    have held : g.holding = some session := permitted
    by_cases same : session = sessionId
    · subst same
      apply (inv.held session).release here held
      · rintro r ⟨⟩ now
        cases now
      · exact Function.update_self ..
    · apply (inv.held sessionId).stand
      · intro r there
        rw [here] at there
        cases there
        rw [held]
        exact fun now => same (Option.some.inj now)
      · rintro r ⟨⟩ now
        cases now
      · exact fun _ now => now
      · intro _ free
        exact (Function.update_of_ne (Ne.symm same) ..).trans free
  | appendAgentSessionEvent requester session event =>
    refine held_stays inv here (unchanged nofun nofun) _ ?_ sessionId
    simp only [TurnStage.observe, TurnStage.note]
    split <;> rfl
  | _ => exact held_stays inv here (unchanged nofun nofun) (g.observe _ reply) rfl sessionId

theorem told_call (inv : TurnInv st crew) (here : crew id = some (l, g)) (permitted : g.permits op)
    (performed : performSession maxTurns op st answer = some (reply, st'))
    (apart : ∀ sessionId brainId, op = .setSessionBrain sessionId brainId →
      st.locks sessionId = none)
    (found : ∀ organizationId sessionId, op = .getAgentSessionById organizationId sessionId →
      answer (.getAgentSessionById organizationId sessionId) ≠ none)
    (other : Nat) (q : BrainEnv × TurnStage)
    (there : Function.update crew id (some (l, g.observe op reply)) other = some q) :
    q.2.missed = false ∧ (∀ sessionId ∈ q.2.awaiting, q.2.holding = some sessionId) ∧
      q.2.Tells st' := by
  rcases update_cases there with ⟨-, new⟩ | ⟨-, there⟩
  · cases new
    obtain ⟨sound, -, tells⟩ := inv.told id _ here
    refine ⟨?_, ?_, tells_observe tells performed⟩
    · cases op with
      | setSessionBrain sessionId brainId =>
        simp only [performSession, apart sessionId brainId rfl] at performed
        cases performed
        exact sound
      | getAgentSessionById organizationId sessionId =>
        simp only [performSession] at performed
        split at performed
        · cases performed
          have some := Option.isNone_eq_false_iff.mpr
            (Option.isSome_iff_ne_none.mpr (found organizationId sessionId rfl))
          exact Bool.or_eq_false_iff.mpr ⟨sound, some⟩
        · cases performed
      | getActiveTurn brainId sessionId =>
        cases performed
        refine Bool.or_eq_false_iff.mpr ⟨sound, ?_⟩
        obtain ⟨-, same, stands⟩ := (inv.sole l.brainId).held id _ here rfl
        cases active : g.active with
        | none => simp
        | some turn =>
          obtain ⟨stood, live⟩ := stands turn active
          obtain ⟨rfl, own⟩ := permitted
          obtain rfl := own turn active
          show (_ && Option.any _ (st.activeTurns (g.brainId, turn.1))) = false
          rw [stood]
          simp [live]
      | appendAgentSessionEvent requester session event =>
        simp only [TurnStage.observe, TurnStage.note]
        split <;> exact sound
      | _ => exact sound
    · intro sessionId mem
      have sent : TurnStage.sent op = some sessionId := mem
      unfold TurnStage.sent at sent
      split at sent
      · cases sent
        exact permitted
      · cases sent
  · obtain ⟨sound, awaits, tells⟩ := inv.told other q there
    exact ⟨sound, awaits, tells.mono (performSession_events performed)⟩

end step

theorem turnInv_empty : TurnInv .empty fun _ => none where
  sole _ := ⟨fun _ _ here => (by cases here), fun _ _ _ _ here => (by cases here), fun _ => trivial⟩
  held _ := ⟨fun _ _ here => (by cases here), fun _ _ _ _ here => (by cases here), fun _ => rfl⟩
  told _ _ here := by cases here

section step
variable {maxTurns} {st st' : SessionStore} {crew : Nat → Option (BrainEnv × TurnStage)} {id : Nat}
  {l : BrainEnv} {g : TurnStage}

theorem turnInv_launch (inv : TurnInv st crew) (free : crew id = none)
    (idle : st.busy l.brainId = false) :
    TurnInv { st with busy := Function.update st.busy l.brainId true }
      (Function.update crew id (some (l, .start l))) := by
  have nobody (q : BrainEnv × TurnStage) (there : crew id = some q) : False := by
    rw [free] at there
    cases there
  refine ⟨fun brainId => ?_, fun sessionId => ?_, ?_⟩
  · by_cases own : l.brainId = brainId
    · subst own
      refine .take ?_ rfl ⟨Function.update_self .., rfl, fun _ mem => by cases mem⟩
      intro other q there same
      have running := ((inv.sole l.brainId).held other q there same).1
      rw [idle] at running
      cases running
    · apply (inv.sole brainId).stand (fun r there => (nobody r there).elim)
      · rintro r ⟨⟩
        exact own
      · rintro q ⟨running, rest⟩
        exact ⟨(Function.update_of_ne (Ne.symm own) ..).trans running, rest⟩
      · exact fun _ free => free
  · apply (inv.held sessionId).stand (fun r there => (nobody r there).elim)
    · rintro r ⟨⟩ now
      cases now
    · exact fun _ now => now
    · exact fun _ free => free
  · intro other q there
    rcases update_cases there with ⟨-, new⟩ | ⟨-, there⟩
    · cases new
      refine ⟨rfl, fun _ mem => ?_, fun _ mem => ?_⟩
      · cases mem
      · cases mem
    · exact inv.told other q there

theorem turnInv_finish (inv : TurnInv st crew) (here : crew id = some (l, g))
    (released : g.holding = none) :
    TurnInv { st with busy := Function.update st.busy l.brainId false }
      (Function.update crew id none) := by
  have only (q : BrainEnv × TurnStage) (there : crew id = some q) : q = (l, g) := by
    rw [here] at there
    exact (Option.some.inj there).symm
  refine ⟨fun brainId => ?_, fun sessionId => ?_, ?_⟩
  · by_cases own : l.brainId = brainId
    · exact (inv.sole brainId).release here own (fun _ gone => by cases gone) trivial
    · apply (inv.sole brainId).stand
      · intro r there
        rw [only r there]
        exact own
      · rintro r ⟨⟩
      · rintro q ⟨running, rest⟩
        exact ⟨(Function.update_of_ne (Ne.symm own) ..).trans running, rest⟩
      · exact fun _ free => free
  · apply (inv.held sessionId).stand
    · intro r there
      rw [only r there, released]
      nofun
    · rintro r ⟨⟩
    · exact fun _ now => now
    · exact fun _ free => free
  · intro other q there
    rcases update_cases there with ⟨-, new⟩ | ⟨-, there⟩
    · cases new
    · exact inv.told other q there

/-- The environment changes nothing that brains know or tell; locks may expire. -/
structure SessionStore.Outside (st st' : SessionStore) : Prop where
  busy : st'.busy = st.busy
  activeTurns : st'.activeTurns = st.activeTurns
  events : st'.events = st.events
  locks : ∀ sessionId, st.locks sessionId = none → st'.locks sessionId = none

theorem turnInv_outside (inv : TurnInv st crew) (outside : st.Outside st') : TurnInv st' crew where
  sole brainId := by
    refine ⟨fun id q there same => ?_, (inv.sole brainId).single, fun _ => trivial⟩
    obtain ⟨running, own, stands⟩ := (inv.sole brainId).held id q there same
    refine ⟨by rwa [outside.busy], own, fun turn mem => ?_⟩
    rw [outside.activeTurns]
    exact stands turn mem
  held sessionId := by
    refine ⟨fun _ _ _ _ => trivial, (inv.held sessionId).single, fun nobody => ?_⟩
    exact outside.locks sessionId ((inv.held sessionId).unheld nobody)
  told id q there := by
    obtain ⟨sound, awaits, tells⟩ := inv.told id q there
    exact ⟨sound, awaits, tells.mono (by rw [outside.events]; exact List.Subset.refl _)⟩

theorem outside_receive (executorId : String) (payload : SessionPayload) :
    st.Outside (st.receive executorId payload) := by
  unfold SessionStore.receive
  split
  · exact ⟨rfl, rfl, rfl, fun _ free => free⟩
  · split
    · exact ⟨rfl, rfl, rfl, fun _ free => free⟩
    · split
      · exact ⟨rfl, rfl, rfl, fun _ free => free⟩
      · exact ⟨rfl, rfl, rfl, fun _ free => free⟩
  · exact ⟨rfl, rfl, rfl, fun _ free => free⟩

theorem outside_tick {tick : SessionTick} (ticked : sessionTick st tick = some st') :
    st.Outside st' := by
  have taken {index : Nat} {command : String × SessionPayload} {after : SessionStore}
      (is : st.take index = some (command, after)) : st.Outside after := by
    obtain ⟨_, -, same⟩ := Option.map_eq_some_iff.mp is
    cases same
    exact ⟨rfl, rfl, rfl, fun _ free => free⟩
  cases tick with
  | post msg =>
    cases ticked
    exact ⟨rfl, rfl, rfl, fun _ free => free⟩
  | receive index =>
    obtain ⟨⟨command, mid⟩, is, rfl⟩ := Option.map_eq_some_iff.mp ticked
    have first := taken is
    have rest : mid.Outside (mid.receive command.1 command.2) := outside_receive _ _
    exact ⟨rest.busy.trans first.busy, rest.activeTurns.trans first.activeTurns,
      rest.events.trans first.events, fun _ free => rest.locks _ (first.locks _ free)⟩
  | refuse index =>
    obtain ⟨⟨command, mid⟩, is, rfl⟩ := Option.map_eq_some_iff.mp ticked
    obtain ⟨busy, activeTurns, events, locks⟩ := taken is
    obtain ⟨executorId, payload⟩ := command
    cases payload <;> exact ⟨busy, activeTurns, events, locks⟩
  | drop index =>
    obtain ⟨⟨command, mid⟩, is, rfl⟩ := Option.map_eq_some_iff.mp ticked
    exact taken is
  | finishTurn executorId context result =>
    obtain ⟨ctx, -, ended⟩ := Option.bind_eq_some_iff.mp ticked
    obtain ⟨turn, -, rfl⟩ := Option.map_eq_some_iff.mp ended
    cases result <;> exact ⟨rfl, rfl, rfl, fun _ free => free⟩
  | expireLock sessionId =>
    cases ticked
    refine ⟨rfl, rfl, rfl, fun session free => ?_⟩
    show Function.update st.locks sessionId none session = none
    by_cases same : session = sessionId
    · rw [same, Function.update_self]
    · rwa [Function.update_of_ne same]
  | expireReply requestId =>
    cases ticked
    exact ⟨rfl, rfl, rfl, fun _ free => free⟩

end step

theorem turnInv_step {s t : (sessionBrains maxTurns).State} {a : (sessionBrains maxTurns).Action}
    (all : (turnCertified maxTurns).AllFollow s)
    (inv : TurnInv s.store ((turnCertified maxTurns).crew s)) (apart : TakenUpApart maxTurns s a)
    (stepped : System.Stepped s a t) : TurnInv t.store ((turnCertified maxTurns).crew t) := by
  have happened := Certified.happened all stepped
  generalize (turnCertified maxTurns).crew t = crew at happened ⊢
  generalize t.store = store at happened ⊢
  cases happened with
  | launch free launched =>
    simp only [Option.ite_none_left_eq_some, Option.some.injEq] at launched
    obtain ⟨idle, rfl⟩ := launched
    exact turnInv_launch inv free (by simpa using idle)
  | @call id choice l g op reply store here issues permitted performed =>
    have asked (sessionId brainId : String) (is : op = .setSessionBrain sessionId brainId) :
        NoneHolds (fun q : BrainEnv × TurnStage => q.2.holding = some sessionId)
          ((turnCertified maxTurns).crew s) := by
      subst is
      have apart := apart _ _ issues
      intro other q there holds
      obtain ⟨p, here, rfl⟩ := Option.map_eq_some_iff.mp there
      exact apart other p here holds
    refine ⟨sole_call inv here permitted performed, held_call inv here permitted performed asked, ?_⟩
    apply told_call inv here permitted performed
    · intro sessionId brainId is
      exact (inv.held sessionId).unheld (asked sessionId brainId is)
    · rintro organizationId sessionId rfl
      exact apart _ _ issues
  | loop => exact inv
  | finish here ended => exact turnInv_finish inv here ended.1
  | tick ticked => exact turnInv_outside inv (outside_tick ticked)

theorem turnInv_run {s : (sessionBrains maxTurns).State}
    (run : System.Steps (TakenUpApart maxTurns) (noSessions maxTurns) s) :
    (turnCertified maxTurns).AllFollow s ∧
      TurnInv s.store ((turnCertified maxTurns).crew s) :=
  (turnCertified maxTurns).invariant
    (fun s => TurnInv s.store ((turnCertified maxTurns).crew s)) (fun _ => rfl) turnInv_empty
    (fun _ _ _ all inv apart stepped => turnInv_step maxTurns all inv apart stepped) run

/-! ### One turn at a time, and no message lost -/

/-- The handler has sent a turn of the session and waits for its reply. -/
def AwaitsTurn (p : (sessionBrains maxTurns).Process) (sessionId : String) : Prop :=
  ∃ before edgeId executorId requestId organizationId message,
    p.history = before ++ [⟨.executorSession edgeId executorId
      (.sessionTurn requestId organizationId sessionId message), ()⟩]

/-- The handler has read the message from the stream. -/
def ReadsSend (p : (sessionBrains maxTurns).Process) (msg : SessionSend) : Prop :=
  ∃ brainId, ∃ batch : List EdgeToBrainRequest,
    ⟨.xreadGroup brainId, batch⟩ ∈ p.history ∧ .sessionSend msg ∈ batch

theorem awaiting_of_awaitsTurn {p : (sessionBrains maxTurns).Process} {sessionId : String}
    (awaits : AwaitsTurn maxTurns p sessionId) :
    ((turnCertified maxTurns).view p).awaiting = some sessionId := by
  obtain ⟨before, edgeId, executorId, requestId, organizationId, message, is⟩ := awaits
  rw [Certified.view, is, Protocol.after_concat]
  rfl

theorem read_observe (stage : TurnStage) (op : BrainOp) (reply : op.Reply) :
    stage.read ⊆ (stage.observe op reply).read := by
  cases op with
  | xreadGroup brainId => exact List.subset_append_left ..
  | setSessionBrain sessionId brainId =>
    simp only [TurnStage.observe, TurnStage.note]
    split <;> exact List.Subset.refl _
  | appendAgentSessionEvent requester sessionId event =>
    simp only [TurnStage.observe, TurnStage.note]
    split <;> exact List.Subset.refl _
  | _ => exact List.Subset.refl _

theorem read_of_readsSend {p : (sessionBrains maxTurns).Process} {msg : SessionSend}
    (reads : ReadsSend maxTurns p msg) : msg ∈ ((turnCertified maxTurns).view p).read := by
  obtain ⟨brainId, batch, mem, there⟩ := reads
  obtain ⟨l, history, program⟩ := p
  simp only [Certified.view] at mem ⊢
  induction history using List.reverseRecOn with
  | nil => cases mem
  | append_singleton history event ih =>
    rw [Protocol.after_concat]
    rcases List.mem_append.mp mem with earlier | last
    · exact read_observe _ _ _ (ih earlier)
    · obtain rfl := List.mem_singleton.mp last
      exact List.mem_append_right _ (List.mem_filterMap.mpr ⟨_, there, rfl⟩)

/-- At most one turn of a session is waited for, and whatever a handler that is done has read has
an event that ends it. -/
theorem turns_serialized {s : (sessionBrains maxTurns).State}
    (run : System.Steps (TakenUpApart maxTurns) (noSessions maxTurns) s) :
    (∀ sessionId id id' p p', s.process id = some p → s.process id' = some p' →
      AwaitsTurn maxTurns p sessionId → AwaitsTurn maxTurns p' sessionId → id = id') ∧
    ∀ id p outcome, s.process id = some p → p.program = .done outcome →
      ∀ msg, ReadsSend maxTurns p msg →
        ∃ event, (msg.requestId, event) ∈ s.store.events ∧ event.ends = true := by
  obtain ⟨all, inv⟩ := turnInv_run maxTurns run
  have crew {id : Nat} {p : (sessionBrains maxTurns).Process} (here : s.process id = some p) :
      (turnCertified maxTurns).crew s id = some (p.launch, (turnCertified maxTurns).view p) := by
    simp [Certified.crew, here]
  refine ⟨?_, ?_⟩
  · intro sessionId id id' p p' here here' awaits awaits'
    apply (inv.held sessionId).single id id' _ _ (crew here) (crew here')
    · exact (inv.told id _ (crew here)).2.1 _ (awaiting_of_awaitsTurn maxTurns awaits)
    · exact (inv.told id' _ (crew here')).2.1 _ (awaiting_of_awaitsTurn maxTurns awaits')
  · rintro id ⟨l, history, program⟩ outcome here rfl msg reads
    obtain ⟨sound, -, tells⟩ := inv.told id _ (crew here)
    have ended := all id _ here
    cases outcome with
    | inl loop => cases loop
    | inr outcome =>
      exact tells _ (ended.2 msg (read_of_readsSend maxTurns reads) sound)

/-! ### A message that loses the race for the lock -/

namespace Sample

/-- The condition on a run of the first `n` handlers. -/
def apartBelow (n : Nat) (s : (sessionBrains oneTurn).State)
    (a : (sessionBrains oneTurn).Action) : Prop :=
  (∀ id ∈ a.handler, id < n) ∧ match a with
    | .call id choice => ∀ q ∈ (turnCertified oneTurn).issued s (.call id choice), match q.2 with
      | .setSessionBrain sessionId _ => ∀ other < n, ∀ p ∈ s.process other,
        ((turnCertified oneTurn).view p).holding ≠ some sessionId
      | .getAgentSessionById organizationId sessionId =>
        (choice (.getAgentSessionById organizationId sessionId) : Option AgentSession) ≠ none
      | _ => True
    | _ => True

instance (n : Nat) (s : (sessionBrains oneTurn).State) (a : (sessionBrains oneTurn).Action) :
    Decidable (apartBelow n s a) := by
  unfold apartBelow
  refine @instDecidableAnd _ _ inferInstance ?_
  rcases a with _ | ⟨id, choice⟩ | _
  case call =>
    refine @Option.decidableForallMem _ _ (fun q => ?_) _
    obtain ⟨v, op⟩ := q
    rcases op with _ | _ <;> dsimp only <;> infer_instance
  all_goals exact isTrue trivial

theorem apart_of_below {n : Nat} {s t : (sessionBrains oneTurn).State}
    (idle : ∀ id, s.process id = none) (run : System.Steps (apartBelow n) s t) :
    System.Steps (TakenUpApart oneTurn) s t := by
  refine (System.Steps.of_first (fun id _ => idle id) ?_ run).1
  intro t a idle apart
  cases a with
  | call id choice =>
    intro stage op issues
    have apart := apart _ issues
    cases op with
    | setSessionBrain sessionId brainId =>
      intro other p here holds
      by_cases small : other < n
      · exact apart other small p here holds
      · rw [idle other (by omega)] at here
        cases here
    | getAgentSessionById organizationId sessionId => exact apart
    | _ => trivial
  | _ => trivial

/-- A handler that is done has read the message. -/
def readBy (s : (sessionBrains oneTurn).State) (id : Nat) (msg : SessionSend) : Bool :=
  match s.process id with
  | some { history := ⟨.xreadGroup _, batch⟩ :: _, program := .done _, .. } =>
    (batch : List EdgeToBrainRequest).contains (.sessionSend msg)
  | _ => false

theorem reads_of_readBy {s : (sessionBrains oneTurn).State} {id : Nat} {msg : SessionSend}
    (read : readBy s id msg = true) : ∃ p outcome, s.process id = some p ∧
      p.program = .done outcome ∧ ReadsSend oneTurn p msg := by
  unfold readBy at read
  split at read
  · refine ⟨_, _, ‹_›, rfl, ?_⟩
    exact ⟨_, _, List.mem_cons_self, List.contains_iff_mem.mp read⟩
  · cases read

def secondEnv : BrainEnv := { env with brainId := "second" }

end Sample

theorem turns_serialized_answered : ∃ s : (sessionBrains Sample.oneTurn).State,
    s.store.dispatched = [("r", "s")] ∧
      ∃ event, ("r", event) ∈ s.store.events ∧ event.ends = true := by
  have ran : (System.exec (Sample.apartBelow 1) (noSessions Sample.oneTurn)
      (Sample.turnBegins 0 "r" ++ [Sample.turnEnds (.ok "hello")] ++
        List.replicate 9 (.call 0 (Sample.sessionAnswers (Sample.sendOf "r"))))).map
      (fun s => (s.store.dispatched, Sample.readBy s 0 (Sample.sendOf "r"))) =
      some ([("r", "s")], true) := by decide +kernel
  obtain ⟨s, run, same⟩ := Option.map_eq_some_iff.mp ran
  obtain ⟨dispatched, read⟩ := Prod.mk.inj same
  obtain ⟨p, outcome, here, done, reads⟩ := Sample.reads_of_readBy read
  have apart := Sample.apart_of_below (fun _ => rfl) (System.steps_of_exec run)
  exact ⟨s, dispatched, (turns_serialized Sample.oneTurn apart).2 0 p outcome here done _ reads⟩

/-- The second brain finds the lock taken and gives the message up. -/
theorem send_lost : ¬∀ (maxTurns : String → Nat) (s : (sessionBrains maxTurns).State),
    System.Steps (fun _ _ => True) (noSessions maxTurns) s →
    (∀ sessionId id id' p p', s.process id = some p → s.process id' = some p' →
      AwaitsTurn maxTurns p sessionId → AwaitsTurn maxTurns p' sessionId → id = id') ∧
    ∀ id p outcome, s.process id = some p → p.program = .done outcome →
      ∀ msg, ReadsSend maxTurns p msg →
        ∃ event, (msg.requestId, event) ∈ s.store.events ∧ event.ends = true := by
  intro claim
  have ran : (System.exec (fun _ _ => True) (noSessions Sample.oneTurn)
      ([.tick (.post (.sessionSend (Sample.sendOf "r"))),
        .tick (.post (.sessionSend (Sample.sendOf "lost"))), .launch 0 Sample.env] ++
        List.replicate 2 (.call 0 (Sample.sessionAnswers (Sample.sendOf "r"))) ++
        .launch 1 Sample.secondEnv ::
        List.replicate 2 (.call 1 (Sample.sessionAnswers (Sample.sendOf "lost"))))).map
      (fun s => (s.store.events, Sample.readBy s 1 (Sample.sendOf "lost"))) =
      some ([], true) := by decide +kernel
  obtain ⟨s, run, same⟩ := Option.map_eq_some_iff.mp ran
  obtain ⟨events, read⟩ := Prod.mk.inj same
  obtain ⟨p, outcome, here, done, reads⟩ := Sample.reads_of_readBy read
  obtain ⟨event, mem, -⟩ :=
    (claim Sample.oneTurn s (System.steps_of_exec run)).2 1 p outcome here done _ reads
  rw [events] at mem
  cases mem

end Vespid.Brain
