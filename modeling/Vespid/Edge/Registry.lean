import Vespid.Edge.Sockets

/-!
# The table of connected executors

An executor may open a new socket before its old one is closed. Whether the table then names the
newest socket depends on no socket being closed, and no executor being forgotten, while another
socket of the executor is open.
-/

namespace Vespid.Edge

open Interleaving

namespace EdgeStore
variable (st : EdgeStore)

def isOpen (executorId : String) (ws : Nat) : Bool :=
  st.sockets[ws]?.any fun socket => socket.executor.executorId = executorId && socket.state = .open

/-- The open sockets of an executor, from the oldest to the newest. -/
def openSockets (executorId : String) : List Nat :=
  (List.range st.sockets.length).filter (st.isOpen executorId)

def Alone (executorId : String) (ws : Nat) : Prop :=
  ∀ other ∈ st.openSockets executorId, other = ws

instance (executorId : String) (ws : Nat) : Decidable (st.Alone executorId ws) :=
  inferInstanceAs (Decidable (∀ other ∈ st.openSockets executorId, other = ws))

/-- The socket the table names for its executor stays open, or no other one is open. -/
def MayClose (ws : Nat) : Prop :=
  ∀ socket ∈ st.sockets[ws]?, st.executorsById socket.executor.executorId = some ws →
    st.Alone socket.executor.executorId ws

instance (ws : Nat) : Decidable (st.MayClose ws) :=
  inferInstanceAs (Decidable (∀ socket ∈ st.sockets[ws]?, _ → _))

end EdgeStore

variable {sessionStreamV1Enabled : Bool}

/-- The operation a handler is about to issue. -/
def awaits (s : (edgeSystem sessionStreamV1Enabled).State) (id : Nat) : Option EdgeOp :=
  (s.process id).bind fun p =>
    match p.program with
    | .call op _ => some op
    | .done _ => none

/-- Whether the edge answers a message by closing its socket. -/
def ExecutorMessage.closes (msg : ExecutorMessage) (executor : ConnectedExecutor) : Bool :=
  match msg with
  | executorHello hello => !hello.fits executor
  | _ => false

/-- An executor is forgotten after a failed send only if it has no open socket. -/
def ForgetsClosed (st : EdgeStore) (throws : Bool) : EdgeOp → Prop
  | .sendCommand executorId command =>
    (st.sendCommand executorId command throws).1 = .failed → st.openSockets executorId = []
  | _ => True

instance (st : EdgeStore) (throws : Bool) : ∀ op, Decidable (ForgetsClosed st throws op)
  | .sendCommand .. => inferInstanceAs (Decidable (_ → _))
  | .writeExecutorRoute _ | .setReply .. | .dropPendingTool _ | .deleteRoute _ | .refuse _ =>
    isTrue trivial

/-- A socket is closed, or its executor forgotten, only while no other socket of that executor
is open. -/
def OneSocket (s : (edgeSystem sessionStreamV1Enabled).State) :
    (edgeSystem sessionStreamV1Enabled).Action → Prop
  | .launch _ (.close ws executor) => s.store.Alone executor.executorId ws
  | .launch _ (.message _ ws executor msg) => msg.closes executor → s.store.MayClose ws
  | .tick (.beginClose ws) => s.store.MayClose ws
  | .call id throws => ∀ op ∈ awaits s id, ForgetsClosed s.store throws op
  | _ => True

instance (s : (edgeSystem sessionStreamV1Enabled).State) : ∀ a, Decidable (OneSocket s a)
  | .launch _ (.close ws executor) =>
    inferInstanceAs (Decidable (s.store.Alone executor.executorId ws))
  | .launch _ (.message _ ws _ _) => inferInstanceAs (Decidable (_ → s.store.MayClose ws))
  | .tick (.beginClose ws) => inferInstanceAs (Decidable (s.store.MayClose ws))
  | .call id throws =>
    inferInstanceAs (Decidable (∀ op ∈ awaits s id, ForgetsClosed s.store throws op))
  | .launch _ (.connect ..) | .launch _ (.command ..) | .loop _ | .finish _
  | .tick (.expireRoute _) | .tick (.expireReply _) => isTrue trivial

theorem mem_openSockets {st : EdgeStore} {executorId : String} {ws : Nat} :
    ws ∈ st.openSockets executorId ↔ ∃ socket, st.sockets[ws]? = some socket ∧
      socket.executor.executorId = executorId ∧ socket.state = .open := by
  simp only [EdgeStore.openSockets, List.mem_filter, List.mem_range, EdgeStore.isOpen,
    Option.any_eq_true, Bool.and_eq_true, decide_eq_true_eq]
  constructor
  · rintro ⟨-, facts⟩
    exact facts
  · rintro ⟨socket, here, facts⟩
    exact ⟨(List.getElem?_eq_some_iff.mp here).1, socket, here, facts⟩

/-! ### What the table says of a socket -/

namespace EdgeStore

/-- Whose a socket is and whether it is open. -/
def look (st : EdgeStore) (ws : Nat) : Option (String × ReadyState) :=
  st.sockets[ws]?.map fun socket => (socket.executor.executorId, socket.state)

variable {st : EdgeStore} {executorId : String} {ws : Nat}

theorem look_eq_some {state : ReadyState} : st.look ws = some (executorId, state) ↔
    ∃ socket, st.sockets[ws]? = some socket ∧ socket.executor.executorId = executorId ∧
      socket.state = state := by
  simp [look]

theorem mem_openSockets_look : ws ∈ st.openSockets executorId ↔
    st.look ws = some (executorId, .open) := by
  rw [mem_openSockets, look_eq_some]

theorem look_setState (state : ReadyState) (other : Nat) : (st.setState ws state).look other =
    if other = ws then (st.look ws).map fun seen => (seen.1, state) else st.look other := by
  simp only [look, setState, List.getElem?_modify]
  split
  · next same =>
    subst same
    simp [Function.comp_def]
  · next different =>
    simp [Ne.symm different]

theorem look_setExecutor {executor : ConnectedExecutor} {socket : Socket}
    (here : st.sockets[ws]? = some socket)
    (same : executor.executorId = socket.executor.executorId) :
    (st.setExecutor ws executor).look = st.look := by
  funext other
  simp only [look, setExecutor, List.getElem?_modify]
  split
  · next named =>
    subst named
    simp [here, same]
  · simp

theorem look_connect (executor : ConnectedExecutor) (other : Nat) :
    (st.connect executor).look other = if other = st.sockets.length
      then some (executor.executorId, .open) else st.look other := by
  simp only [look, connect, List.getElem?_append]
  rcases Nat.lt_trichotomy other st.sockets.length with below | same | above
  · simp [below, Nat.ne_of_lt below]
  · simp [same]
  · have outside : st.sockets[other]? = none := List.getElem?_eq_none (by omega)
    have beyond : [({ executor, state := .open } : Socket)][other - st.sockets.length]? = none :=
      List.getElem?_eq_none (by simp; omega)
    rw [if_neg (by omega), if_neg (by omega), beyond, outside]

end EdgeStore

/-- The table names, for every executor with an open socket, the newest of them, and no closed
socket. -/
structure Tracked (st : EdgeStore) : Prop where
  newest : ∀ executorId ws, st.look ws = some (executorId, .open) → ∃ last,
    st.executorsById executorId = some last ∧ ws ≤ last ∧
      st.look last = some (executorId, .open)
  named : ∀ executorId ws, st.executorsById executorId = some ws →
    ∃ state, st.look ws = some (executorId, state) ∧ state ≠ .closed

namespace Tracked
variable {st st' : EdgeStore}

theorem same (tracked : Tracked st) (look : st'.look = st.look)
    (table : st'.executorsById = st.executorsById) : Tracked st' := by
  obtain ⟨newest, named⟩ := tracked
  constructor <;> rw [look, table] <;> assumption

theorem connect (tracked : Tracked st) (executor : ConnectedExecutor) :
    Tracked (st.connect executor) := by
  have old {executorId : String} {ws : Nat} {state : ReadyState}
      (there : st.look ws = some (executorId, state)) : ws < st.sockets.length := by
    obtain ⟨socket, there, -⟩ := EdgeStore.look_eq_some.mp there
    exact (List.getElem?_eq_some_iff.mp there).1
  constructor
  · intro executorId ws there
    rw [EdgeStore.look_connect] at there
    by_cases same : executorId = executor.executorId
    · subst same
      refine ⟨st.sockets.length, by simp [EdgeStore.connect], ?_,
        by simp [EdgeStore.look_connect]⟩
      split at there
      · omega
      · exact (old there).le
    · split at there
      · cases there
        exact absurd rfl same
      · obtain ⟨last, table, after, there⟩ := tracked.newest _ _ there
        refine ⟨last, by simp [EdgeStore.connect, same, table], after, ?_⟩
        rw [EdgeStore.look_connect, if_neg (old there).ne, there]
  · intro executorId ws table
    by_cases same : executorId = executor.executorId
    · subst same
      have first : ws = st.sockets.length := by simpa [EdgeStore.connect, eq_comm] using table
      exact ⟨.open, by simp [EdgeStore.look_connect, first], by simp⟩
    · have table : st.executorsById executorId = some ws := by
        simpa [EdgeStore.connect, same] using table
      obtain ⟨state, there, facts⟩ := tracked.named _ _ table
      refine ⟨state, ?_, facts⟩
      rw [EdgeStore.look_connect, if_neg (old there).ne, there]

/-- A socket that stops being open was not the one the table names, or the only open one. -/
theorem setState (tracked : Tracked st) {ws : Nat} (may : st.MayClose ws) :
    Tracked (st.setState ws .closing) := by
  have kept : (st.setState ws .closing).executorsById = st.executorsById := rfl
  constructor
  · intro executorId other there
    rw [EdgeStore.look_setState] at there
    split at there
    · simp [Option.map_eq_some_iff] at there
    · next different =>
      obtain ⟨last, table, after, open_⟩ := tracked.newest _ _ there
      refine ⟨last, table, after, ?_⟩
      rw [EdgeStore.look_setState, if_neg ?_, open_]
      intro same
      subst same
      obtain ⟨socket, here, owner, -⟩ := EdgeStore.look_eq_some.mp open_
      have alone := may socket here (by rw [owner]; exact table)
      exact different (alone other (by
        rw [owner]
        exact EdgeStore.mem_openSockets_look.mpr there))
  · intro executorId other table
    obtain ⟨state, there, facts⟩ := tracked.named _ _ table
    by_cases same : other = ws
    · subst same
      exact ⟨.closing, by simp [EdgeStore.look_setState, there], by simp⟩
    · exact ⟨state, by rw [EdgeStore.look_setState, if_neg same, there], facts⟩

theorem beginClose (tracked : Tracked st) {ws : Nat} (may : st.MayClose ws) :
    Tracked (st.beginClose ws) := by
  unfold EdgeStore.beginClose
  split
  · exact tracked.setState may
  · exact tracked

/-- An executor that has no open socket is forgotten. -/
theorem deleteExecutor (tracked : Tracked st) {executorId : String}
    (none_ : st.openSockets executorId = []) : Tracked (st.deleteExecutor executorId) := by
  constructor
  · intro other ws there
    have different : other ≠ executorId := by
      rintro rfl
      have mem : ws ∈ st.openSockets other := EdgeStore.mem_openSockets_look.mpr there
      rw [none_] at mem
      cases mem
    obtain ⟨last, table, facts⟩ := tracked.newest _ _ there
    exact ⟨last, by simp [EdgeStore.deleteExecutor, different, table], facts⟩
  · intro other ws table
    by_cases same : other = executorId
    · simp [EdgeStore.deleteExecutor, same] at table
    · have table : st.executorsById other = some ws := by
        simpa [EdgeStore.deleteExecutor, same] using table
      exact tracked.named _ _ table

theorem onClose (tracked : Tracked st) {ws : Nat} {executor : ConnectedExecutor}
    (has : st.has ws executor) (alone : st.Alone executor.executorId ws) :
    Tracked (st.onClose ws executor) := by
  obtain ⟨socket, here, facts⟩ := (Option.any_eq_true _ _).mp has
  simp only [Bool.and_eq_true, decide_eq_true_eq] at facts
  have own : st.look ws = some (executor.executorId, socket.state) :=
    EdgeStore.look_eq_some.mpr ⟨socket, here, by rw [facts.1], rfl⟩
  have looks : (st.onClose ws executor).look = (st.setState ws .closed).look := rfl
  have table : (st.onClose ws executor).executorsById =
    Function.update st.executorsById executor.executorId none := rfl
  constructor
  · intro executorId other there
    rw [looks, EdgeStore.look_setState] at there
    split at there
    · simp [own] at there
    · next different =>
      have apart : executorId ≠ executor.executorId := by
        rintro rfl
        exact different (alone other (EdgeStore.mem_openSockets_look.mpr there))
      obtain ⟨last, named, after, open_⟩ := tracked.newest _ _ there
      refine ⟨last, by simp [table, apart, named], after, ?_⟩
      rw [looks, EdgeStore.look_setState, if_neg ?_, open_]
      rintro rfl
      rw [own] at open_
      exact apart (congrArg Prod.fst (Option.some.inj open_)).symm
  · intro executorId other named
    rw [table] at named
    by_cases same : executorId = executor.executorId
    · simp [same] at named
    · rw [Function.update_of_ne same] at named
      obtain ⟨state, there, facts⟩ := tracked.named _ _ named
      refine ⟨state, ?_, facts⟩
      rw [looks, EdgeStore.look_setState, if_neg ?_, there]
      rintro rfl
      rw [own] at there
      cases there
      exact same rfl

theorem onMessage (tracked : Tracked st) {now : Int} {ws : Nat} {executor : ConnectedExecutor}
    {msg : ExecutorMessage} (has : st.has ws executor)
    (may : msg.closes executor → st.MayClose ws) :
    Tracked (st.onMessage sessionStreamV1Enabled now ws executor msg) := by
  cases msg with
  | executorHello hello =>
    obtain ⟨socket, here, facts⟩ := (Option.any_eq_true _ _).mp has
    simp only [Bool.and_eq_true, decide_eq_true_eq] at facts
    simp only [EdgeStore.onMessage]
    split
    · exact tracked.same (EdgeStore.look_setExecutor here (by rw [facts.1]; rfl)) rfl
    · next misfit => exact tracked.beginClose (may (by simp [ExecutorMessage.closes, misfit]))
  | turnDelta =>
    simp only [EdgeStore.onMessage]
    split
    · split
      · exact tracked
      · exact tracked.same rfl rfl
    · exact tracked
  | turnEvent =>
    simp only [EdgeStore.onMessage]
    split
    · exact tracked.same rfl rfl
    · exact tracked
  | toolResult => exact tracked
  | _ => exact tracked.same rfl rfl

theorem sendCommand (tracked : Tracked st) {executorId : String} {command : ExecutorCommand}
    {throws : Bool} (may : (st.sendCommand executorId command throws).1 = .failed →
      st.openSockets executorId = []) :
    Tracked (st.sendCommand executorId command throws).2 := by
  have expecting : Tracked (st.expectReply executorId command) ∧
      (st.expectReply executorId command).openSockets executorId = st.openSockets executorId := by
    unfold EdgeStore.expectReply
    split <;> exact ⟨tracked.same rfl rfl, rfl⟩
  unfold EdgeStore.sendCommand at may ⊢
  split
  · exact tracked
  · next table =>
    rw [table] at may
    dsimp only at may ⊢
    split
    · exact expecting.1.same rfl rfl
    · next unsent =>
      rw [if_neg unsent] at may
      exact expecting.1.deleteExecutor (expecting.2.trans (may rfl))

end Tracked

theorem tracked_step {s t : (edgeSystem sessionStreamV1Enabled).State}
    {a : (edgeSystem sessionStreamV1Enabled).Action} (tracked : Tracked s.store)
    (one : OneSocket s a) (stepped : System.Stepped s a t) : Tracked t.store := by
  cases stepped with
  | @launch id l store free launched =>
    cases l with
    | connect executor ws =>
      simp only [launchEdge] at launched
      split at launched
      · cases launched
        exact tracked.connect executor
      · cases launched
    | message now ws executor msg =>
      simp only [launchEdge] at launched
      split at launched
      · next has =>
        cases launched
        exact tracked.onMessage has one
      · cases launched
    | close ws executor =>
      simp only [launchEdge] at launched
      split at launched
      · next has =>
        cases launched
        exact tracked.onClose has one
      · cases launched
    | command executorId command =>
      simp only [launchEdge] at launched
      split at launched
      · cases launched
      · cases launched
        exact tracked.same rfl rfl
  | @call id throws l history op next reply store here performed =>
    obtain ⟨-, rfl⟩ := Prod.mk.inj (Option.some.inj performed)
    have issues : awaits s id = some op := by simp [awaits, here]
    cases op with
    | sendCommand executorId command => exact tracked.sendCommand (one _ issues)
    | writeExecutorRoute ws =>
      simp only [System.State.update_store]
      cases s.store.sockets[ws]? with
      | none => exact tracked
      | some socket => exact tracked.same rfl rfl
    | refuse command => cases command <;> exact tracked.same rfl rfl
    | _ => exact tracked.same rfl rfl
  | loop => exact tracked
  | @finish id l history outcome here =>
    cases l <;> exact tracked.same rfl rfl
  | @tick tick store ticked =>
    cases tick with
    | beginClose ws =>
      cases ticked
      exact tracked.beginClose one
    | _ =>
      cases ticked
      exact tracked.same rfl rfl

theorem tracked_run {s : (edgeSystem sessionStreamV1Enabled).State}
    (run : System.Steps OneSocket (freshEdge sessionStreamV1Enabled) s) : Tracked s.store := by
  refine run.invariant (fun s => Tracked s.store) (fun t a u => tracked_step) ?_
  constructor
  · intro executorId ws there
    simp [freshEdge, EdgeStore.empty, EdgeStore.look] at there
  · intro executorId ws table
    cases table

theorem le_of_getLast {st : EdgeStore} {executorId : String} {ws last : Nat}
    (mem : ws ∈ st.openSockets executorId)
    (newest : (st.openSockets executorId).getLast? = some last) : ws ≤ last := by
  have increasing : (st.openSockets executorId).Pairwise (· < ·) := List.pairwise_lt_range.filter _
  obtain ⟨older, same⟩ := List.getLast?_eq_some_iff.mp newest
  rw [same] at mem increasing
  rcases List.mem_append.mp mem with earlier | self
  · exact (List.pairwise_append.mp increasing).2.2 _ earlier _ (List.mem_singleton_self _) |>.le
  · exact (List.mem_singleton.mp self).le

/-- While an executor has an open socket the table names the newest one and no close of an older
one deletes its route; once all its sockets are closed it has no entry. -/
theorem registry_tracks {s : (edgeSystem sessionStreamV1Enabled).State}
    (run : System.Steps OneSocket (freshEdge sessionStreamV1Enabled) s) (executorId : String) :
    (∀ last, (s.store.openSockets executorId).getLast? = some last →
      s.store.executorsById executorId = some last) ∧
    ((∀ socket ∈ s.store.sockets, socket.executor.executorId = executorId →
      socket.state = .closed) → s.store.executorsById executorId = none) ∧
    ∀ id ws executor t, OneSocket s (.launch id (.close ws executor)) →
      System.step s (.launch id (.close ws executor)) = some t →
      t.store.openSockets executor.executorId ≠ [] → t.store.routes = s.store.routes := by
  have tracked := tracked_run run
  refine ⟨?_, ?_, ?_⟩
  · intro last newest
    have mem := EdgeStore.mem_openSockets_look.mp (List.mem_of_getLast? newest)
    obtain ⟨ws, table, after, open_⟩ := tracked.newest _ _ mem
    have before := le_of_getLast (EdgeStore.mem_openSockets_look.mpr open_) newest
    rw [table, Nat.le_antisymm before after]
  · intro closed
    cases table : s.store.executorsById executorId with
    | none => rfl
    | some ws =>
      obtain ⟨state, there, live⟩ := tracked.named _ _ table
      obtain ⟨socket, here, owner, same⟩ := EdgeStore.look_eq_some.mp there
      exact absurd (same ▸ closed socket (List.mem_of_getElem? here) owner) live
  · intro id ws executor t alone stepped stillOpen
    obtain ⟨free, launched⟩ | _ := System.step_cases stepped
    obtain ⟨other, mem⟩ := List.exists_mem_of_ne_nil _ stillOpen
    simp only [launchEdge] at launched
    split at launched
    · cases launched
      have there := EdgeStore.mem_openSockets_look.mp mem
      have looks : (s.store.onClose ws executor).look = (s.store.setState ws .closed).look := rfl
      simp only [System.State.update_store] at there
      rw [looks, EdgeStore.look_setState] at there
      split at there
      · simp [Option.map_eq_some_iff] at there
      · next different =>
        exact absurd (alone other (EdgeStore.mem_openSockets_look.mpr there)) different
    · cases launched

/-! ### Reconnecting -/

namespace Sample

def node : ConnectedExecutor :=
  { executorId := "node", pool := .byon, organizationId := some "org", configuredMaxInFlight := 10
    name := none, labels := [], maxInFlight := 10, kinds := [.agentRun] }

/-- The executor is there, is lost, and is there again. -/
def comesBack : List (edgeSystem true).Action :=
  [.launch 0 (.connect node 0), .call 0 false, .finish 0, .tick (.beginClose 0),
    .launch 0 (.close 0 node), .finish 0, .launch 0 (.connect node 1), .call 0 false]

/-- The old socket is closed when the new one is open. -/
def overlaps : List (edgeSystem true).Action :=
  [.launch 0 (.connect node 0), .call 0 false, .launch 1 (.connect node 1), .call 1 false,
    .launch 2 (.close 0 node)]

end Sample

theorem registry_tracks_reconnected : ∃ s : (edgeSystem true).State,
    s.store.openSockets "node" = [1] ∧ s.store.executorsById "node" = some 1 := by
  have ran : (System.exec OneSocket (freshEdge true) Sample.comesBack).map
      (·.store.openSockets "node") = some [1] := by decide +kernel
  obtain ⟨s, run, sockets⟩ := Option.map_eq_some_iff.mp ran
  have tracks := registry_tracks (System.steps_of_exec run) "node"
  exact ⟨s, sockets, tracks.1 1 (by rw [sockets]; rfl)⟩

/-- Without that condition an executor that is connected has no entry and no route. -/
theorem registry_loses_executor : ¬∀ (s : (edgeSystem true).State) (executorId : String),
    System.Steps (fun _ _ => True) (freshEdge true) s →
    ∀ last, (s.store.openSockets executorId).getLast? = some last →
      s.store.executorsById executorId = some last := by
  intro tracks
  have ran : (System.exec (fun _ _ => True) (freshEdge true) Sample.overlaps).map
      (fun s => (s.store.openSockets "node", s.store.executorsById "node")) =
        some ([1], none) := by decide +kernel
  obtain ⟨s, run, facts⟩ := Option.map_eq_some_iff.mp ran
  obtain ⟨sockets, table⟩ := Prod.mk.inj facts
  have named := tracks s "node" (System.steps_of_exec run) 1 (by rw [sockets]; rfl)
  rw [table] at named
  cases named

end Vespid.Edge
