import Vespid.Brain.Cancel

/-!
# What a session remembers

The history of a session lives in its context on the executor, which opening the session
replaces. While no session is opened after its first turn, prompts contain all that was said.
-/

namespace Vespid.Brain

open Interleaving NodeAgent

/-- Prompts contain the turns that had succeeded, and turns keep to the session's limit. -/
structure Remembers (maxTurns : String → Nat) (st : SessionStore) : Prop where
  prompts : ∀ key, ∀ turn ∈ (st.records key).turns, turn.memory.Sublist turn.prompt
  limited : ∀ executorId sessionId,
    (st.records (executorId, sessionId)).turns.length ≤ maxTurns sessionId

variable {maxTurns : String → Nat}

/-- If the command opens a session, its executor has begun no turn of it. -/
def FirstOpen (st : SessionStore) (command : String × SessionPayload) : Prop :=
  match command.2 with
  | .sessionOpen _ _ sessionId .. => (st.records (command.1, sessionId)).turns = []
  | _ => True

/-- An executor is told to open a session only before it has begun a turn of it. -/
def OpensFirst (s : (sessionBrains maxTurns).State) (a : (sessionBrains maxTurns).Action) : Prop :=
  ∀ index, a = .tick (.receive index) →
    ∀ command ∈ s.store.toExecutor[index]?, FirstOpen s.store command

/-! ### One executor -/

/-- A context holds what its session remembers; the message of a running turn comes after it. -/
def Recalls (ctx : SessionContext) (memory : List Message) : Prop :=
  (memory ++ (ctx.activeTurn.map (·.message)).toList).Sublist ctx.history

structure NodeOk (maxTurns : String → Nat) (node : NodeSessions)
    (records : String → SessionRecord) : Prop where
  contexts : ∀ c ctx, node.contexts c = some ctx →
    c < node.opened ∧ ctx.maxTurns = maxTurns ctx.sessionId ∧ 1 ≤ ctx.maxTurns
  sessions : ∀ sessionId c, node.sessions sessionId = some c →
    ∃ ctx, node.contexts c = some ctx ∧ ctx.sessionId = sessionId
  current : ∀ sessionId c ctx, node.sessions sessionId = some c → node.contexts c = some ctx →
    (ctx.history.filter isUser).length = (records sessionId).turns.length ∧
      Recalls ctx (records sessionId).memory
  running : ∀ c ctx, node.contexts c = some ctx → ctx.activeTurn.isSome →
    node.sessions ctx.sessionId = some c ∧ (records ctx.sessionId).turns ≠ []
  blank : ∀ sessionId, (records sessionId).turns = [] → (records sessionId).memory = []
  prompts : ∀ sessionId, ∀ turn ∈ (records sessionId).turns, turn.memory.Sublist turn.prompt
  limited : ∀ sessionId, (records sessionId).turns.length ≤ maxTurns sessionId

variable {node : NodeSessions} {records : String → SessionRecord}

theorem openingHistory_users (open_ : SessionOpen) :
    ((openingHistory open_).filter isUser).length = 0 := by
  unfold openingHistory
  cases open_.system.filter (· ≠ "") <;> simp [isUser]

theorem NodeOk.empty : NodeOk maxTurns .empty fun _ => { turns := [], memory := [] } := by
  refine ⟨fun _ _ there => ?_, fun _ _ there => ?_, fun _ _ _ there => ?_, fun _ _ there => ?_,
    fun _ _ => rfl, fun _ _ mem => ?_, fun _ => Nat.zero_le _⟩
  · cases there
  · cases there
  · cases there
  · cases there
  · cases mem

theorem NodeOk.opens {open_ : SessionOpen} (ok : NodeOk maxTurns node records)
    (first : (records open_.sessionId).turns = [])
    (limit : open_.maxTurns = maxTurns open_.sessionId ∧ 1 ≤ open_.maxTurns) :
    NodeOk maxTurns (openSession node open_) records := by
  have old {c : Nat} {ctx : SessionContext} (there : node.contexts c = some ctx) :
      (openSession node open_).contexts c = some ctx := by
    have below := (ok.contexts c ctx there).1
    simp only [openSession]
    rw [Function.update_of_ne (by omega)]
    exact there
  have cases_ {c : Nat} {ctx : SessionContext}
      (there : (openSession node open_).contexts c = some ctx) :
      (c = node.opened ∧ ctx = { sessionId := open_.sessionId, maxTurns := open_.maxTurns
                                 history := openingHistory open_, activeTurn := none }) ∨
        node.contexts c = some ctx := by
    rcases update_cases there with ⟨same, new⟩ | ⟨-, there⟩
    · exact .inl ⟨same, (Option.some.inj new).symm⟩
    · exact .inr there
  refine ⟨fun c ctx there => ?_, fun sessionId c there => ?_, fun sessionId c ctx its there => ?_,
    fun c ctx there active => ?_, ok.blank, ok.prompts, ok.limited⟩
  · rcases cases_ there with ⟨rfl, rfl⟩ | there
    · exact ⟨Nat.lt_succ_self _, limit⟩
    · obtain ⟨below, facts⟩ := ok.contexts c ctx there
      exact ⟨Nat.lt_succ_of_lt below, facts⟩
  · by_cases same : sessionId = open_.sessionId
    · subst same
      simp only [openSession, Function.update_self, Option.some.injEq] at there
      subst there
      exact ⟨_, Function.update_self .., rfl⟩
    · simp only [openSession, ne_eq, same, not_false_eq_true, Function.update_of_ne] at there
      obtain ⟨ctx, found, its⟩ := ok.sessions sessionId c there
      exact ⟨ctx, old found, its⟩
  · by_cases same : sessionId = open_.sessionId
    · subst same
      simp only [openSession, Function.update_self, Option.some.injEq] at its
      subst its
      simp only [openSession, Function.update_self, Option.some.injEq] at there
      subst there
      rw [first, ok.blank _ first]
      exact ⟨openingHistory_users open_, List.nil_sublist _⟩
    · simp only [openSession, ne_eq, same, not_false_eq_true, Function.update_of_ne] at its
      obtain ⟨ctx', found, -⟩ := ok.sessions sessionId c its
      obtain rfl := Option.some.inj ((old found).symm.trans there)
      exact ok.current sessionId c _ its found
  · rcases cases_ there with ⟨rfl, rfl⟩ | there
    · cases active
    · obtain ⟨its, begun⟩ := ok.running c ctx there active
      have other : ctx.sessionId ≠ open_.sessionId := by
        intro same
        rw [same] at begun
        exact begun first
      refine ⟨?_, begun⟩
      simp only [openSession]
      rw [Function.update_of_ne other]
      exact its

/-- The context of a session changes, and what is recorded of it with it. -/
theorem NodeOk.goesOn {c : Nat} {ctx ctx' : SessionContext} {entry : SessionRecord}
    (ok : NodeOk maxTurns node records) (its : node.sessions ctx.sessionId = some c)
    (there : node.contexts c = some ctx) (sessionId : ctx'.sessionId = ctx.sessionId)
    (limit : ctx'.maxTurns = ctx.maxTurns)
    (users : (ctx'.history.filter isUser).length = entry.turns.length)
    (recalls : Recalls ctx' entry.memory) (begun : entry.turns ≠ [])
    (prompts : ∀ turn ∈ entry.turns, turn.memory.Sublist turn.prompt)
    (limited : entry.turns.length ≤ maxTurns ctx.sessionId) :
    NodeOk maxTurns (node.setContext c ctx') (Function.update records ctx.sessionId entry) := by
  have cases_ {d : Nat} {other : SessionContext}
      (found : (node.setContext c ctx').contexts d = some other) :
      (d = c ∧ other = ctx') ∨ (d ≠ c ∧ node.contexts d = some other) := by
    rcases update_cases found with ⟨same, new⟩ | apart
    · exact .inl ⟨same, (Option.some.inj new).symm⟩
    · exact .inr apart
  refine ⟨fun d other found => ?_, fun s d found => ?_, fun s d other at_ found => ?_,
    fun d other found active => ?_, fun s nothing => ?_, fun s turn mem => ?_, fun s => ?_⟩
  · rcases cases_ found with ⟨rfl, rfl⟩ | ⟨-, found⟩
    · rw [limit, sessionId]
      exact ok.contexts _ _ there
    · exact ok.contexts _ _ found
  · obtain ⟨other, at_, same⟩ := ok.sessions s d found
    by_cases this : d = c
    · subst this
      obtain rfl := Option.some.inj (there.symm.trans at_)
      exact ⟨ctx', Function.update_self .., sessionId.trans same⟩
    · exact ⟨other, by simpa [NodeSessions.setContext, this] using at_, same⟩
  · rcases cases_ found with ⟨rfl, rfl⟩ | ⟨apart, found⟩
    · obtain ⟨first, at', same⟩ := ok.sessions s d at_
      obtain rfl := Option.some.inj (there.symm.trans at')
      rw [← same, Function.update_self]
      exact ⟨users, recalls⟩
    · have different : s ≠ ctx.sessionId := by
        rintro rfl
        exact apart (Option.some.inj (at_.symm.trans its))
      rw [Function.update_of_ne different]
      exact ok.current s d other at_ found
  · rcases cases_ found with ⟨rfl, rfl⟩ | ⟨apart, found⟩
    · rw [sessionId, Function.update_self]
      exact ⟨its, begun⟩
    · obtain ⟨at_, begun'⟩ := ok.running d other found active
      have different : other.sessionId ≠ ctx.sessionId := by
        intro same
        rw [same] at at_
        exact apart (Option.some.inj (at_.symm.trans its))
      rw [Function.update_of_ne different]
      exact ⟨at_, begun'⟩
  · by_cases same : s = ctx.sessionId
    · subst same
      rw [Function.update_self] at nothing
      exact (begun nothing).elim
    · rw [Function.update_of_ne same] at nothing ⊢
      exact ok.blank s nothing
  · by_cases same : s = ctx.sessionId
    · subst same
      rw [Function.update_self] at mem
      exact prompts turn mem
    · rw [Function.update_of_ne same] at mem
      exact ok.prompts s turn mem
  · by_cases same : s = ctx.sessionId
    · subst same
      rw [Function.update_self]
      exact limited
    · rw [Function.update_of_ne same]
      exact ok.limited s

/-- A turn is begun where the session's context has room for it. -/
theorem NodeOk.begins {turn : SessionTurn} {c : Nat} {ctx' : SessionContext}
    (ok : NodeOk maxTurns node records) (begun : runTurn node turn = .ok (c, ctx')) :
    NodeOk maxTurns (node.setContext c ctx') (Function.update records turn.sessionId
      { records turn.sessionId with
        turns := (records turn.sessionId).turns ++
          [{ prompt := ctx'.history, memory := (records turn.sessionId).memory }] }) := by
  obtain ⟨ctx, its, there, begun⟩ := runTurn_ok begun
  obtain ⟨idle, room, rfl⟩ := beginTurn_ok begun
  obtain ⟨users, recalls⟩ := ok.current _ _ _ its there
  obtain ⟨ctx₀, at_, sessionId⟩ := ok.sessions _ _ its
  obtain rfl := Option.some.inj (there.symm.trans at_)
  obtain ⟨-, limit, positive⟩ := ok.contexts _ _ there
  rw [← sessionId] at its users recalls ⊢
  simp only [Recalls, idle, Option.map_none, Option.toList_none, List.append_nil] at recalls
  refine ok.goesOn its there rfl rfl ?_ ?_ (by simp) ?_ ?_
  · simp [isUser, users]
  · have longer := recalls.append
      (List.Sublist.refl [({ role := .user, content := turn.message } : Message)])
    simpa [Recalls] using longer
  · intro record mem
    rcases List.mem_append.mp mem with mem | mem
    · exact ok.prompts _ record mem
    · obtain rfl := List.mem_singleton.mp mem
      exact recalls.trans (List.sublist_append_left ..)
  · simp only [List.length_append, List.length_singleton]
    omega

/-- A turn that ends leaves its answer, if it has one. -/
theorem NodeOk.ends {c : Nat} {ctx : SessionContext} {turn : RunningTurn}
    (ok : NodeOk maxTurns node records) (there : node.contexts c = some ctx)
    (active : ctx.activeTurn = some turn) (result : Except TurnFailure String) :
    NodeOk maxTurns (node.setContext c (endTurn ctx result)) (match result with
      | .ok content => Function.update records ctx.sessionId
          { records ctx.sessionId with
            memory := (records ctx.sessionId).memory ++
              [turn.message, { role := .assistant, content }] }
      | .error _ => records) := by
  obtain ⟨its, begun⟩ := ok.running c ctx there (by simp [active])
  obtain ⟨users, recalls⟩ := ok.current _ _ _ its there
  simp only [Recalls, active, Option.map_some, Option.toList_some] at recalls
  cases result with
  | ok content =>
    refine ok.goesOn its there rfl rfl ?_ ?_ begun (ok.prompts _) (ok.limited _)
    · simp [endTurn, isUser, users]
    · have longer := recalls.append
        (List.Sublist.refl [({ role := .assistant, content } : Message)])
      simpa [Recalls, endTurn] using longer
  | error failure =>
    have same : Function.update records ctx.sessionId (records ctx.sessionId) = records :=
      Function.update_eq_self ..
    have still : Recalls (endTurn ctx (.error failure)) (records ctx.sessionId).memory := by
      simpa [Recalls, endTurn] using (List.sublist_append_left ..).trans recalls
    have kept : NodeOk maxTurns (node.setContext c (endTurn ctx (.error failure)))
        (Function.update records ctx.sessionId (records ctx.sessionId)) :=
      ok.goesOn its there rfl rfl users still begun (ok.prompts _) (ok.limited _)
    rwa [same] at kept

/-! ### Brains and executors -/

/-- A command to open a session says its limit. -/
def CommandOk (maxTurns : String → Nat) (command : String × SessionPayload) : Prop :=
  match command.2 with
  | .sessionOpen _ _ sessionId _ _ _ limit _ => limit = maxTurns sessionId ∧ 1 ≤ limit
  | _ => True

structure AllRemember (maxTurns : String → Nat) (st : SessionStore) : Prop where
  commands : ∀ command ∈ st.toExecutor, CommandOk maxTurns command
  nodes : ∀ executorId, NodeOk maxTurns (st.nodes executorId)
    fun sessionId => st.records (executorId, sessionId)

variable {st st' : SessionStore} {answer : (op : BrainOp) → op.Reply} {op : BrainOp}
  {reply : op.Reply} {executorId : String}

/-- Commands are sent by their operation only. -/
theorem commands_of_perform (performed : performSession maxTurns op st answer = some (reply, st')) :
    ∀ command ∈ st'.toExecutor, command ∈ st.toExecutor ∨
      ∃ edgeId, op = .executorSession edgeId command.1 command.2 := by
  cases op <;> simp only [performSession] at performed
  case executorSession edgeId executorId payload =>
    obtain ⟨-, rfl⟩ := Prod.mk.inj (Option.some.inj performed)
    intro command mem
    rcases List.mem_append.mp mem with mem | mem
    · exact .inl mem
    · obtain rfl := List.mem_singleton.mp mem
      exact .inr ⟨edgeId, rfl⟩
  all_goals
    first
      | (obtain ⟨-, rfl⟩ := Prod.mk.inj (Option.some.inj performed)
         exact fun command mem => .inl mem)
      | (split at performed <;>
           first
             | (obtain ⟨-, rfl⟩ := Prod.mk.inj (Option.some.inj performed)
                exact fun command mem => .inl mem)
             | cases performed)

theorem AllRemember.perform {answered : AnsweredStage} (ok : AllRemember maxTurns st)
    (permitted : permitsAnswered maxTurns answered op)
    (performed : performSession maxTurns op st answer = some (reply, st')) :
    AllRemember maxTurns st' := by
  have same := untouched_of_perform performed
  refine ⟨fun command mem => ?_, fun executorId => ?_⟩
  · rcases commands_of_perform performed command mem with mem | ⟨edgeId, rfl⟩
    · exact ok.commands command mem
    · obtain ⟨executorId, payload⟩ := command
      cases payload with
      | sessionOpen => exact permitted
      | _ => trivial
  · rw [same.nodes, same.records]
    exact ok.nodes executorId

/-- One executor goes on, and the others stand still. -/
theorem AllRemember.oneNode {node : NodeSessions} {records : String × String → SessionRecord}
    (ok : AllRemember maxTurns st) (commands : st'.toExecutor = st.toExecutor)
    (nodes : st'.nodes = Function.update st.nodes executorId node)
    (records_ : st'.records = records)
    (others : ∀ other sessionId, other ≠ executorId →
      records (other, sessionId) = st.records (other, sessionId))
    (nodeOk : NodeOk maxTurns node fun sessionId => records (executorId, sessionId)) :
    AllRemember maxTurns st' := by
  subst records_
  refine ⟨by rw [commands]; exact ok.commands, fun other => ?_⟩
  by_cases same : other = executorId
  · subst same
    rw [nodes, Function.update_self]
    exact nodeOk
  · have kept : (fun sessionId => st'.records (other, sessionId)) =
        fun sessionId => st.records (other, sessionId) := funext fun sessionId =>
      others other sessionId same
    rw [nodes, Function.update_of_ne same, kept]
    exact ok.nodes other

theorem update_record (records : String × String → SessionRecord) (sessionId : String)
    (entry : SessionRecord) :
    (fun s => Function.update records (executorId, sessionId) entry (executorId, s)) =
      Function.update (fun s => records (executorId, s)) sessionId entry := by
  funext s
  by_cases same : s = sessionId
  · subst same
    simp
  · rw [Function.update_of_ne (by simp [same]), Function.update_of_ne same]

theorem update_record_other (records : String × String → SessionRecord) {other : String}
    (sessionId s : String) (entry : SessionRecord) (different : other ≠ executorId) :
    Function.update records (executorId, sessionId) entry (other, s) = records (other, s) :=
  Function.update_of_ne (by simp [different]) ..

theorem AllRemember.receive {payload : SessionPayload} (ok : AllRemember maxTurns st)
    (told : CommandOk maxTurns (executorId, payload))
    (first : FirstOpen st (executorId, payload)) :
    AllRemember maxTurns (st.receive executorId payload) := by
  cases payload with
  | sessionOpen requestId organizationId sessionId sessionKey system instructions limit timeoutMs =>
    exact ok.oneNode rfl rfl rfl (fun _ _ _ => rfl) ((ok.nodes executorId).opens first told)
  | sessionTurn requestId organizationId sessionId message =>
    simp only [SessionStore.receive]
    split
    · exact ok
    split
    · exact ⟨ok.commands, ok.nodes⟩
    · rename_i c ctx begun
      have nodeOk := (ok.nodes executorId).begins begun
      refine ok.oneNode rfl rfl rfl (fun other s different =>
        update_record_other _ _ _ _ different) ?_
      rw [← update_record] at nodeOk
      exact nodeOk
  | sessionCancel => exact ok

theorem AllRemember.finishTurn {c : Nat} {result : Except TurnFailure String}
    (ok : AllRemember maxTurns st) (finished : st.finishTurn executorId c result = some st') :
    AllRemember maxTurns st' := by
  obtain ⟨ctx, there, finished⟩ := Option.bind_eq_some_iff.mp finished
  obtain ⟨turn, active, rfl⟩ := Option.map_eq_some_iff.mp finished
  have nodeOk := (ok.nodes executorId).ends there active result
  cases result with
  | ok content =>
    refine ok.oneNode rfl rfl rfl (fun other s different =>
      update_record_other _ _ _ _ different) ?_
    simp only at nodeOk
    rw [← update_record] at nodeOk
    exact nodeOk
  | error failure => exact ok.oneNode rfl rfl rfl (fun _ _ _ => rfl) nodeOk

theorem AllRemember.tick {tick : SessionTick} (ok : AllRemember maxTurns st)
    (first : ∀ index, tick = .receive index → ∀ command ∈ st.toExecutor[index]?,
      FirstOpen st command)
    (ticked : sessionTick st tick = some st') : AllRemember maxTurns st' := by
  have taken {index : Nat} {command : String × SessionPayload} {rest : SessionStore}
      (took : st.take index = some (command, rest)) : AllRemember maxTurns rest ∧
        st.toExecutor[index]? = some command ∧ rest.records = st.records := by
    obtain ⟨command', there, same⟩ := Option.map_eq_some_iff.mp took
    obtain ⟨rfl, rfl⟩ := Prod.mk.inj same
    exact ⟨⟨fun other mem => ok.commands other (List.mem_of_mem_eraseIdx mem), ok.nodes⟩, there, rfl⟩
  cases tick with
  | post msg =>
    obtain rfl := Option.some.inj ticked
    exact ⟨ok.commands, ok.nodes⟩
  | receive index =>
    obtain ⟨⟨⟨executorId, payload⟩, rest⟩, took, rfl⟩ := Option.map_eq_some_iff.mp ticked
    obtain ⟨ok', there, same⟩ := taken took
    refine ok'.receive (ok.commands _ (List.mem_of_getElem? there)) ?_
    have opensFirst := first index rfl _ there
    unfold FirstOpen at opensFirst ⊢
    rw [same]
    exact opensFirst
  | refuse index =>
    obtain ⟨⟨⟨executorId, payload⟩, rest⟩, took, rfl⟩ := Option.map_eq_some_iff.mp ticked
    obtain ⟨ok', -, -⟩ := taken took
    cases payload <;> exact ⟨ok'.commands, ok'.nodes⟩
  | drop index =>
    obtain ⟨⟨command, rest⟩, took, rfl⟩ := Option.map_eq_some_iff.mp ticked
    exact (taken took).1
  | finishTurn executorId context result => exact ok.finishTurn ticked
  | expireLock sessionId =>
    obtain rfl := Option.some.inj ticked
    exact ⟨ok.commands, ok.nodes⟩
  | expireReply requestId =>
    obtain rfl := Option.some.inj ticked
    exact ⟨ok.commands, ok.nodes⟩

theorem allRemember_run {s : (sessionBrains maxTurns).State}
    (run : System.Steps OpensFirst (noSessions maxTurns) s) : AllRemember maxTurns s.store := by
  refine ((sessionCertified maxTurns).invariant (fun s => AllRemember maxTurns s.store)
    (fun _ => rfl) ⟨?_, fun _ => NodeOk.empty⟩ ?_ run).2
  · intro _ mem
    cases mem
  intro t a u all ok first stepped
  have happened := Certified.happened all stepped
  generalize (sessionCertified maxTurns).crew u = crew at happened
  generalize u.store = store at happened ⊢
  cases happened with
  | launch free started =>
    simp only [sessionBrains, Option.ite_none_left_eq_some, Option.some.injEq] at started
    obtain ⟨-, rfl⟩ := started
    exact ⟨ok.commands, ok.nodes⟩
  | call here issues permitted performed => exact ok.perform permitted performed
  | loop => exact ok
  | finish here ended => exact ⟨ok.commands, ok.nodes⟩
  | tick ticked => exact ok.tick (fun index same => first index (by rw [same])) ticked

/-- While sessions are opened before their first turn only, they remember and keep their limits. -/
theorem sessions_remember {s : (sessionBrains maxTurns).State}
    (run : System.Steps OpensFirst (noSessions maxTurns) s) : Remembers maxTurns s.store := by
  have ok := allRemember_run run
  exact ⟨fun key => (ok.nodes key.1).prompts key.2, fun executorId => (ok.nodes executorId).limited⟩

/-! ### A session that is opened for every message -/

instance (st : SessionStore) (command : String × SessionPayload) :
    Decidable (FirstOpen st command) := by
  unfold FirstOpen
  split
  · exact decidable_of_iff _ List.isEmpty_iff
  · infer_instance

instance (s : (sessionBrains maxTurns).State) (a : (sessionBrains maxTurns).Action) :
    Decidable (OpensFirst s a) :=
  match a with
  | .tick (.receive index) =>
    decidable_of_iff (∀ command ∈ s.store.toExecutor[index]?, FirstOpen s.store command)
      ⟨fun first i same => by cases same; exact first, fun first => first index rfl⟩
  | .launch .. | .call .. | .loop .. | .finish .. | .tick (.post _) | .tick (.refuse _)
  | .tick (.drop _) | .tick (.finishTurn ..) | .tick (.expireLock _) | .tick (.expireReply _) =>
    isTrue fun _ same => by cases same

namespace Sample

/-- The contents of the prompts of the session's turns after `actions`. -/
def promptsAfter (C : (sessionBrains oneTurn).State → (sessionBrains oneTurn).Action → Prop)
    [∀ s a, Decidable (C s a)] (actions : List (sessionBrains oneTurn).Action) :
    Option (List (List String)) :=
  (System.exec C (noSessions oneTurn) actions).map fun s =>
    (s.store.records ("node", "s")).turns.map fun turn => turn.prompt.map (·.content)

end Sample

theorem sessions_remember_first : ∃ s : (sessionBrains Sample.oneTurn).State,
    (s.store.records ("node", "s")).turns.map (fun turn => turn.prompt.map (·.content)) =
      [[defaultInstructions, "r"]] ∧ Remembers Sample.oneTurn s.store := by
  have ran : Sample.promptsAfter OpensFirst (Sample.turnBegins 0 "r" ++
      [Sample.turnEnds (.ok "hello")] ++ Sample.brainGoesOn 0 "r" 9) =
      some [[defaultInstructions, "r"]] := by decide +kernel
  obtain ⟨s, run, prompts⟩ := Option.map_eq_some_iff.mp ran
  exact ⟨s, prompts, sessions_remember (System.steps_of_exec run)⟩

/-- Two messages to a session of one turn: both turns run, and the second has no memory. -/
theorem session_forgets : ¬∀ (maxTurns : String → Nat) (s : (sessionBrains maxTurns).State),
    System.Steps (fun _ _ => True) (noSessions maxTurns) s → Remembers maxTurns s.store := by
  intro claim
  have ran : Sample.promptsAfter (fun _ _ => True) (Sample.turnBegins 0 "r" ++
      [Sample.turnEnds (.ok "hello")] ++ Sample.brainGoesOn 0 "r" 9 ++
      Sample.turnBegins 0 "q") =
      some [[defaultInstructions, "r"], [defaultInstructions, "q"]] := by decide +kernel
  obtain ⟨s, run, prompts⟩ := Option.map_eq_some_iff.mp ran
  have limited := (claim Sample.oneTurn s (System.steps_of_exec run)).limited "node" "s"
  have two := congrArg List.length prompts
  rw [List.length_map] at two
  rw [two] at limited
  exact absurd limited (by decide)

end Vespid.Brain
