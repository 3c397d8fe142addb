import Vespid.Edge.Isolation

/-!
# What one organization's executors cannot do to another

An unwinding of the edge: the steps of foreign executors leave the view alone, the others take
stores that look alike to stores that look alike.
-/

namespace Vespid.Edge

open Interleaving Brain

/-! ### Growth -/

/-- Sockets keep their executors and requests stay dispatched. -/
structure Grows (st u : EdgeStore) : Prop where
  owns : ∀ ws executorId, st.Owns ws executorId → u.Owns ws executorId
  dispatched : ∀ sent ∈ st.dispatched, sent ∈ u.dispatched

section grows
variable {st u : EdgeStore} {ws : Nat}

theorem grows_refl (st : EdgeStore) : Grows st st := ⟨fun _ _ owns => owns, fun _ mem => mem⟩

theorem grows_of_eq (sockets : u.sockets = st.sockets) (dispatched : u.dispatched = st.dispatched) :
    Grows st u := by
  refine ⟨?_, ?_⟩
  · rintro ws executorId ⟨socket, here, is⟩
    exact ⟨socket, by rw [sockets]; exact here, is⟩
  · intro sent mem
    rw [dispatched]
    exact mem

theorem grows_modify {f : Socket → Socket} (sockets : u.sockets = st.sockets.modify ws f)
    (dispatched : u.dispatched = st.dispatched)
    (keeps : ∀ socket, st.sockets[ws]? = some socket →
      (f socket).executor.executorId = socket.executor.executorId) : Grows st u := by
  refine ⟨?_, fun sent mem => by rw [dispatched]; exact mem⟩
  rintro i executorId ⟨socket, here, is⟩
  by_cases same : ws = i
  · subst same
    refine ⟨f socket, by rw [sockets]; simp [here], ?_⟩
    rw [keeps socket here]
    exact is
  · exact ⟨socket, by rw [sockets]; simpa [List.getElem?_modify, same] using here, is⟩

theorem grows_setState (ws : Nat) (state : ReadyState) : Grows st (st.setState ws state) :=
  grows_modify rfl rfl fun _ _ => rfl

theorem beginClose_cases (st : EdgeStore) (ws : Nat) :
    st.beginClose ws = st ∨ st.beginClose ws = st.setState ws .closing := by
  unfold EdgeStore.beginClose
  split
  · exact .inr rfl
  · exact .inl rfl

theorem grows_beginClose (st : EdgeStore) (ws : Nat) : Grows st (st.beginClose ws) := by
  rcases beginClose_cases st ws with same | same
  · rw [same]
    exact grows_refl st
  · rw [same]
    exact grows_setState ws _

theorem socket_of_has {executor : ConnectedExecutor} (has : st.has ws executor = true) :
    ∃ state, st.sockets[ws]? = some { executor, state } := by
  unfold EdgeStore.has at has
  obtain ⟨⟨owner, state⟩, here, is⟩ := (Option.any_eq_true _ _).mp has
  simp only [Bool.and_eq_true, decide_eq_true_eq] at is
  obtain ⟨rfl, -⟩ := is
  exact ⟨state, here⟩

theorem owns_of_has {executor : ConnectedExecutor} (has : st.has ws executor = true) :
    st.Owns ws executor.executorId := by
  obtain ⟨state, here⟩ := socket_of_has has
  exact ⟨_, here, rfl⟩

theorem grows_onMessage (enabled : Bool) (now : Int) {executor : ConnectedExecutor}
    (has : st.has ws executor = true) (msg : ExecutorMessage) :
    Grows st (st.onMessage enabled now ws executor msg) := by
  cases msg with
  | executorHello hello =>
    simp only [EdgeStore.onMessage]
    split
    · refine grows_modify rfl rfl ?_
      intro socket here
      obtain ⟨state, there⟩ := socket_of_has has
      rw [here] at there
      cases there
      rfl
    · exact grows_beginClose st ws
  | turnDelta requestId sessionId content =>
    simp only [EdgeStore.onMessage]
    split
    · split
      · exact grows_refl st
      · exact grows_of_eq rfl rfl
    · exact grows_refl st
  | turnEvent requestId organizationId sessionId event =>
    simp only [EdgeStore.onMessage]
    split
    · exact grows_of_eq rfl rfl
    · exact grows_refl st
  | _ => exact grows_of_eq rfl rfl

theorem grows_connect (st : EdgeStore) (executor : ConnectedExecutor) : Grows st (st.connect executor) := by
  refine ⟨?_, fun _ mem => mem⟩
  rintro i executorId ⟨socket, here, is⟩
  refine ⟨socket, ?_, is⟩
  show (st.sockets ++ _)[i]? = _
  rw [List.getElem?_append_left (List.getElem?_eq_some_iff.mp here).1]
  exact here

theorem grows_launch {enabled : Bool} {l : EdgeLaunch} (launched : launchEdge enabled st l = some u) :
    Grows st u := by
  cases l with
  | connect executor ws =>
    simp only [launchEdge, Option.ite_none_right_eq_some, Option.some.injEq] at launched
    obtain ⟨-, rfl⟩ := launched
    exact grows_connect st executor
  | message now ws executor msg =>
    simp only [launchEdge, Option.ite_none_right_eq_some, Option.some.injEq] at launched
    obtain ⟨has, rfl⟩ := launched
    exact grows_onMessage enabled now has msg
  | close ws executor =>
    simp only [launchEdge, Option.ite_none_right_eq_some, Option.some.injEq] at launched
    obtain ⟨-, rfl⟩ := launched
    exact grows_modify rfl rfl fun _ _ => rfl
  | command executorId command =>
    simp only [launchEdge, Option.ite_none_left_eq_some, Option.some.injEq] at launched
    obtain ⟨-, rfl⟩ := launched
    exact grows_of_eq rfl rfl

theorem expectReply_sockets (st : EdgeStore) (executorId : String) (command : ExecutorCommand) :
    (st.expectReply executorId command).sockets = st.sockets ∧
      (st.expectReply executorId command).dispatched = st.dispatched := by
  unfold EdgeStore.expectReply
  split <;> exact ⟨rfl, rfl⟩

theorem grows_sendCommand (executorId : String) (command : ExecutorCommand) (throws : Bool) :
    Grows st (st.sendCommand executorId command throws).2 := by
  obtain ⟨sockets, dispatched⟩ := expectReply_sockets st executorId command
  unfold EdgeStore.sendCommand
  split
  · exact grows_refl st
  · dsimp only
    split
    · have still := grows_of_eq sockets dispatched
      exact ⟨still.owns, fun sent mem => List.mem_append_left _ mem⟩
    · exact grows_of_eq sockets dispatched

theorem dropPending_sockets (st : EdgeStore) (command : ExecutorCommand) :
    (st.dropPending command).sockets = st.sockets ∧
      (st.dropPending command).dispatched = st.dispatched := by
  cases command <;> exact ⟨rfl, rfl⟩

theorem grows_perform (st : EdgeStore) (op : EdgeOp) (throws : Bool) : Grows st (performEdge st throws op).2 := by
  cases op with
  | writeExecutorRoute ws =>
    simp only [performEdge]
    cases st.sockets[ws]? with
    | none => exact grows_refl st
    | some socket => exact grows_of_eq rfl rfl
  | sendCommand executorId command => exact grows_sendCommand executorId command throws
  | refuse command =>
    obtain ⟨sockets, dispatched⟩ := dropPending_sockets st command
    exact grows_of_eq sockets dispatched
  | _ => exact grows_of_eq rfl rfl

end grows

theorem grows_step {enabled : Bool} {s t : (edgeSystem enabled).State}
    {a : (edgeSystem enabled).Action} (stepped : System.Stepped s a t) : Grows s.store t.store := by
  cases stepped with
  | launch free launched => exact grows_launch launched
  | @call id choice l history op next reply store here performed =>
    have same := Option.some.inj performed
    have grows := grows_perform s.store op choice
    rw [same] at grows
    exact grows
  | loop here => exact grows_refl _
  | @finish id l history outcome here =>
    cases l <;> exact grows_of_eq rfl rfl
  | @tick tick store ticked =>
    cases tick with
    | beginClose ws =>
      obtain rfl := Option.some.inj ticked
      exact grows_beginClose _ ws
    | _ =>
      obtain rfl := Option.some.inj ticked
      exact grows_of_eq rfl rfl

theorem fine_grows {T : Tenants} {st u : EdgeStore} (grows : Grows st u) {l : EdgeLaunch}
    (fine : T.Fine st l) : T.Fine u l := by
  cases l with
  | connect executor ws => exact grows.owns _ _ fine
  | message now ws executor msg =>
    refine ⟨grows.owns _ _ fine.1, ?_⟩
    intro foreign result is
    exact grows.dispatched _ (fine.2 foreign result is)
  | close => trivial
  | command => exact fine

/-! ### Soundness -/

section sound
variable {T : Tenants} {st u : EdgeStore} {ws : Nat}

/-- Nothing new stands in the tables. -/
theorem sound_less (sound : Sound T st) (grows : Grows st u)
    (table : ∀ executorId ws, u.executorsById executorId = some ws →
      st.executorsById executorId = some ws)
    (turns : ∀ requestId pending, u.pendingSessionTurn requestId = some pending →
      st.pendingSessionTurn requestId = some pending)
    (dispatched : u.dispatched = st.dispatched) : Sound T u where
  table executorId ws here := grows.owns _ _ (sound.table executorId ws (table _ _ here))
  turns requestId pending here := sound.turns requestId pending (turns _ _ here)
  dispatched requestId executorId mem := by
    rw [dispatched] at mem
    exact sound.dispatched requestId executorId mem

theorem of_update_none {β : Type} {f : String → Option β} {k i : String} {v : β}
    (here : Function.update f k none i = some v) : f i = some v := by
  by_cases same : i = k
  · subst same
    simp at here
  · rwa [Function.update_of_ne same] at here

theorem sound_beginClose (sound : Sound T st) (ws : Nat) : Sound T (st.beginClose ws) := by
  have grows := grows_beginClose st ws
  rcases beginClose_cases st ws with same | same
  · rw [same]
    exact sound
  · rw [same] at grows ⊢
    exact sound_less sound grows (fun _ _ here => here) (fun _ _ here => here) rfl

theorem sound_onMessage {enabled : Bool} {now : Int} {executor : ConnectedExecutor}
    (sound : Sound T st) (has : st.has ws executor = true) (msg : ExecutorMessage) :
    Sound T (st.onMessage enabled now ws executor msg) := by
  have grows := grows_onMessage enabled now has msg
  cases msg with
  | executorHello hello =>
    simp only [EdgeStore.onMessage] at grows ⊢
    split
    · rename_i fits
      rw [if_pos fits] at grows
      exact sound_less sound grows (fun _ _ here => here) (fun _ _ here => here) rfl
    · exact sound_beginClose sound ws
  | turnDelta requestId sessionId content =>
    simp only [EdgeStore.onMessage]
    split
    · split
      · exact sound
      · exact sound_less sound (grows_of_eq rfl rfl) (fun _ _ here => here) (fun _ _ here => here) rfl
    · exact sound
  | turnEvent requestId organizationId sessionId event =>
    simp only [EdgeStore.onMessage]
    split
    · exact sound_less sound (grows_of_eq rfl rfl) (fun _ _ here => here) (fun _ _ here => here) rfl
    · exact sound
  | turnFinal => exact sound_less sound grows (fun _ _ here => here) (fun _ _ => of_update_none) rfl
  | turnError => exact sound_less sound grows (fun _ _ here => here) (fun _ _ => of_update_none) rfl
  | _ => exact sound_less sound grows (fun _ _ here => here) (fun _ _ here => here) rfl

theorem sound_connect (sound : Sound T st) (executor : ConnectedExecutor) :
    Sound T (st.connect executor) := by
  have grows := grows_connect st executor
  refine ⟨?_, sound.turns, sound.dispatched⟩
  intro executorId ws here
  change Function.update st.executorsById executor.executorId (some st.sockets.length) executorId =
    some ws at here
  by_cases same : executorId = executor.executorId
  · subst same
    rw [Function.update_self] at here
    cases here
    exact ⟨{ executor, state := .open }, by simp [EdgeStore.connect], rfl⟩
  · rw [Function.update_of_ne same] at here
    exact grows.owns _ _ (sound.table executorId ws here)

theorem sound_launch {enabled : Bool} {l : EdgeLaunch} (sound : Sound T st)
    (launched : launchEdge enabled st l = some u) : Sound T u := by
  have grows := grows_launch launched
  cases l with
  | connect executor ws =>
    simp only [launchEdge, Option.ite_none_right_eq_some, Option.some.injEq] at launched
    obtain ⟨-, rfl⟩ := launched
    exact sound_connect sound executor
  | message now ws executor msg =>
    simp only [launchEdge, Option.ite_none_right_eq_some, Option.some.injEq] at launched
    obtain ⟨has, rfl⟩ := launched
    exact sound_onMessage sound has msg
  | close ws executor =>
    simp only [launchEdge, Option.ite_none_right_eq_some, Option.some.injEq] at launched
    obtain ⟨-, rfl⟩ := launched
    refine sound_less sound grows (fun _ _ => of_update_none) ?_ rfl
    intro requestId pending here
    exact (Option.filter_eq_some_iff.mp here).1
  | command executorId command =>
    simp only [launchEdge, Option.ite_none_left_eq_some, Option.some.injEq] at launched
    obtain ⟨-, rfl⟩ := launched
    exact sound_less sound grows (fun _ _ here => here) (fun _ _ here => here) rfl

/-- What a command adds to the tables is of its own request and session. -/
theorem sound_expectReply (sound : Sound T st) {executorId : String} {command : ExecutorCommand}
    (separates : T.Separates executorId command) :
    Sound T (st.expectReply executorId command) := by
  cases command with
  | executorInvoke requestId => exact ⟨sound.table, sound.turns, sound.dispatched⟩
  | executorSession payload =>
    obtain ⟨type, requestId, organizationId, sessionId⟩ := payload
    cases type with
    | sessionTurn =>
      refine ⟨sound.table, ?_, sound.dispatched⟩
      intro i pending here
      change Function.update st.pendingSessionTurn requestId (some _) i = some pending at here
      by_cases same : i = requestId
      · subst same
        rw [Function.update_self] at here
        cases here
        exact ⟨separates.2, separates.1⟩
      · rw [Function.update_of_ne same] at here
        exact sound.turns i pending here
    | sessionCancel =>
      exact sound_less sound (grows_of_eq rfl rfl) (fun _ _ here => here) (fun _ _ => of_update_none) rfl
    | _ => exact sound

theorem sound_sendCommand (sound : Sound T st) {executorId : String} {command : ExecutorCommand}
    (separates : T.Separates executorId command) (throws : Bool) :
    Sound T (st.sendCommand executorId command throws).2 := by
  have expecting := sound_expectReply sound separates
  have same := (expectReply_sockets st executorId command).2
  unfold EdgeStore.sendCommand
  split
  · exact sound
  · dsimp only
    split
    · refine ⟨expecting.table, expecting.turns, ?_⟩
      intro requestId receiver mem foreign
      rcases List.mem_append.mp mem with old | new
      · exact sound.dispatched requestId receiver old foreign
      · cases List.mem_singleton.mp new
        exact separates.1 foreign
    · exact sound_less expecting (grows_of_eq rfl rfl) (fun _ _ => of_update_none)
        (fun _ _ here => here) rfl

theorem sound_dropPending (sound : Sound T st) (command : ExecutorCommand) :
    Sound T (st.dropPending command) := by
  cases command with
  | executorInvoke requestId => exact ⟨sound.table, sound.turns, sound.dispatched⟩
  | executorSession payload =>
    exact sound_less sound (grows_of_eq rfl rfl) (fun _ _ here => here) (fun _ _ => of_update_none) rfl

theorem sound_perform (sound : Sound T st) {l : EdgeLaunch} {op : EdgeOp} (fine : T.Fine st l)
    (issues : l.Issues op) (throws : Bool) : Sound T (performEdge st throws op).2 := by
  have less {v : EdgeStore} (sockets : v.sockets = st.sockets)
      (dispatched : v.dispatched = st.dispatched)
      (table : ∀ executorId ws, v.executorsById executorId = some ws →
        st.executorsById executorId = some ws)
      (turns : v.pendingSessionTurn = st.pendingSessionTurn) : Sound T v :=
    sound_less sound (grows_of_eq sockets dispatched) table
      (fun _ _ here => by rwa [turns] at here) dispatched
  cases op with
  | writeExecutorRoute ws =>
    simp only [performEdge]
    cases st.sockets[ws]? with
    | none => exact sound
    | some socket => exact less rfl rfl (fun _ _ here => here) rfl
  | sendCommand executorId command =>
    cases l with
    | command receiver sent =>
      rcases issues with is | is | is | is <;> cases is
      exact sound_sendCommand sound fine throws
    | connect => cases issues
    | close => cases issues
    | message => rcases issues with is | ⟨_, -, is | is⟩ <;> cases is
  | refuse command =>
    have dropped := sound_dropPending sound command
    exact sound_less dropped (grows_of_eq rfl rfl) (fun _ _ here => here) (fun _ _ here => here) rfl
  | deleteRoute executorId => exact less rfl rfl (fun _ _ here => here) rfl
  | _ => exact less rfl rfl (fun _ _ here => here) rfl

end sound

/-! ### The view -/

section view
variable {T : Tenants} {st st' : EdgeStore} {ws : Nat}

theorem view_eq : st.view T = st'.view T ↔
    st.sockets.map T.look = st'.sockets.map T.look ∧
    mask (!T.foreign ·) st.executorsById = mask (!T.foreign ·) st'.executorsById ∧
    mask T.ours st.pendingSessionTurn = mask T.ours st'.pendingSessionTurn ∧
    mask (!T.foreign ·) st.routes = mask (!T.foreign ·) st'.routes ∧
    mask T.ours st.replies = mask T.ours st'.replies ∧
    st.toBrain.filter T.reports = st'.toBrain.filter T.reports := by
  simp only [EdgeStore.view, EdgeView.mk.injEq]

theorem view_setReply (same : st.view T = st'.view T) (requestId : String) (reply : Json) :
    (st.setReply requestId reply).view T = (st'.setReply requestId reply).view T := by
  obtain ⟨sockets, table, turns, routes, replies, reports⟩ := view_eq.mp same
  exact view_eq.mpr ⟨sockets, table, turns, routes, mask_update replies, reports⟩

theorem view_setReply_hidden {requestId : String} (hidden : T.ours requestId = false)
    (reply : Json) : (st.setReply requestId reply).view T = st.view T :=
  view_eq.mpr ⟨rfl, rfl, rfl, rfl, mask_update_hidden hidden, rfl⟩

theorem view_dropPendingTurn (same : st.view T = st'.view T) (requestId : String) :
    (st.dropPendingTurn requestId).view T = (st'.dropPendingTurn requestId).view T := by
  obtain ⟨sockets, table, turns, routes, replies, reports⟩ := view_eq.mp same
  exact view_eq.mpr ⟨sockets, table, mask_update turns, routes, replies, reports⟩

theorem view_dropPendingTurn_hidden {requestId : String} (hidden : T.ours requestId = false) :
    (st.dropPendingTurn requestId).view T = st.view T :=
  view_eq.mpr ⟨rfl, rfl, mask_update_hidden hidden, rfl, rfl, rfl⟩

theorem view_report (same : st.view T = st'.view T) (report : ExecutorReport) :
    (st.report report).view T = (st'.report report).view T := by
  obtain ⟨sockets, table, turns, routes, replies, reports⟩ := view_eq.mp same
  refine view_eq.mpr ⟨sockets, table, turns, routes, replies, ?_⟩
  show (st.toBrain ++ [report]).filter T.reports = (st'.toBrain ++ [report]).filter T.reports
  rw [List.filter_append, List.filter_append, reports]

theorem view_report_hidden {report : ExecutorReport} (hidden : T.reports report = false) :
    (st.report report).view T = st.view T := by
  refine view_eq.mpr ⟨rfl, rfl, rfl, rfl, rfl, ?_⟩
  show (st.toBrain ++ [report]).filter T.reports = st.toBrain.filter T.reports
  simp [List.filter_append, hidden]

theorem view_deleteExecutor (same : st.view T = st'.view T) (executorId : String) :
    (st.deleteExecutor executorId).view T = (st'.deleteExecutor executorId).view T := by
  obtain ⟨sockets, table, turns, routes, replies, reports⟩ := view_eq.mp same
  exact view_eq.mpr ⟨sockets, mask_update table, turns, routes, replies, reports⟩

theorem view_deleteExecutor_hidden {executorId : String} (foreign : T.foreign executorId = true) :
    (st.deleteExecutor executorId).view T = st.view T :=
  view_eq.mpr ⟨rfl, mask_update_hidden (by simp [foreign]), rfl, rfl, rfl, rfl⟩

theorem view_deleteRoute (same : st.view T = st'.view T) (executorId : String) :
    (st.deleteRoute executorId).view T = (st'.deleteRoute executorId).view T := by
  obtain ⟨sockets, table, turns, routes, replies, reports⟩ := view_eq.mp same
  exact view_eq.mpr ⟨sockets, table, turns, mask_update routes, replies, reports⟩

theorem view_deleteRoute_hidden {executorId : String} (foreign : T.foreign executorId = true) :
    (st.deleteRoute executorId).view T = st.view T :=
  view_eq.mpr ⟨rfl, rfl, rfl, mask_update_hidden (by simp [foreign]), rfl, rfl⟩

theorem view_writeExecutorRoute (same : st.view T = st'.view T) (executor : ConnectedExecutor) :
    (st.writeExecutorRoute executor).view T = (st'.writeExecutorRoute executor).view T := by
  obtain ⟨sockets, table, turns, routes, replies, reports⟩ := view_eq.mp same
  exact view_eq.mpr ⟨sockets, table, turns, mask_update routes, replies, reports⟩

theorem view_writeExecutorRoute_hidden {executor : ConnectedExecutor}
    (foreign : T.foreign executor.executorId = true) :
    (st.writeExecutorRoute executor).view T = st.view T :=
  view_eq.mpr ⟨rfl, rfl, rfl, mask_update_hidden (by simp [foreign]), rfl, rfl⟩

theorem view_setState (same : st.view T = st'.view T) (ws : Nat) (state : ReadyState) :
    (st.setState ws state).view T = (st'.setState ws state).view T := by
  obtain ⟨sockets, rest⟩ := view_eq.mp same
  exact view_eq.mpr ⟨look_modify sockets (fun _ _ => rfl) fun _ _ => rfl, rest⟩

/-- The socket, if there is one, is of a foreign executor. -/
def Alien (T : Tenants) (st : EdgeStore) (ws : Nat) : Prop :=
  ∀ socket, st.sockets[ws]? = some socket → T.foreign socket.executor.executorId = true

theorem alien_of_owns {executorId : String} (owns : st.Owns ws executorId)
    (foreign : T.foreign executorId = true) : Alien T st ws := by
  obtain ⟨socket, here, rfl⟩ := owns
  intro socket' there
  rw [here] at there
  cases there
  exact foreign

theorem view_setState_hidden (alien : Alien T st ws) (state : ReadyState) :
    (st.setState ws state).view T = st.view T :=
  view_eq.mpr ⟨look_modify_hidden fun socket here => ⟨alien socket here, rfl⟩,
    rfl, rfl, rfl, rfl, rfl⟩

theorem sockets_eq (same : st.view T = st'.view T) {executorId : String}
    (owns : st.Owns ws executorId) (own : T.foreign executorId = false) :
    st'.sockets[ws]? = st.sockets[ws]? := by
  obtain ⟨socket, here, rfl⟩ := owns
  rw [here]
  exact look_getElem (view_eq.mp same).1 here own

theorem sockets_eq_of_shown (same : st.view T = st'.view T)
    (shown : ¬∃ executorId, st.Owns ws executorId ∧ T.foreign executorId = true) :
    st'.sockets[ws]? = st.sockets[ws]? := by
  cases here : st.sockets[ws]? with
  | some socket =>
    rw [← here]
    refine sockets_eq same ⟨socket, here, rfl⟩ ?_
    by_contra foreign
    exact shown ⟨_, ⟨socket, here, rfl⟩, by simpa using foreign⟩
  | none =>
    have length : st.sockets.length = st'.sockets.length := by
      simpa using congrArg List.length (view_eq.mp same).1
    rw [List.getElem?_eq_none_iff] at here ⊢
    omega

theorem view_beginClose_hidden (alien : Alien T st ws) : (st.beginClose ws).view T = st.view T := by
  rcases beginClose_cases st ws with is | is
  · rw [is]
  · rw [is]
    exact view_setState_hidden alien _

theorem view_beginClose (same : st.view T = st'.view T)
    (sockets : st'.sockets[ws]? = st.sockets[ws]?) :
    (st.beginClose ws).view T = (st'.beginClose ws).view T := by
  unfold EdgeStore.beginClose
  rw [sockets]
  split
  · exact view_setState same ws _
  · exact same

/-- A pending turn that is seen is no foreign executor's. -/
theorem view_onClose (same : st.view T = st'.view T) (ws : Nat) (executor : ConnectedExecutor) :
    (st.onClose ws executor).view T = (st'.onClose ws executor).view T := by
  have closed := view_deleteRoute
    (view_deleteExecutor (view_setState same ws .closed) executor.executorId) executor.executorId
  obtain ⟨sockets, table, -, routes, replies, reports⟩ := view_eq.mp closed
  refine view_eq.mpr ⟨sockets, table, ?_, routes, replies, reports⟩
  have turns := (view_eq.mp same).2.2.1
  funext requestId
  by_cases ours : T.ours requestId = true
  · simp [mask, ours, EdgeStore.onClose, mask_apply turns ours]
  · simp [mask, ours]

theorem view_onClose_hidden (sound : Sound T st) {executor : ConnectedExecutor}
    (has : st.has ws executor = true) (foreign : T.foreign executor.executorId = true) :
    (st.onClose ws executor).view T = st.view T := by
  have alien := alien_of_owns (owns_of_has has) foreign
  have closed : (((st.setState ws .closed).deleteExecutor executor.executorId).deleteRoute
      executor.executorId).view T = st.view T :=
    (view_deleteRoute_hidden foreign).trans
      ((view_deleteExecutor_hidden foreign).trans (view_setState_hidden alien _))
  obtain ⟨sockets, table, -, routes, replies, reports⟩ := view_eq.mp closed
  refine view_eq.mpr ⟨sockets, table, ?_, routes, replies, reports⟩
  funext requestId
  by_cases ours : T.ours requestId = true
  · cases here : st.pendingSessionTurn requestId with
    | none => simp [mask, EdgeStore.onClose, here]
    | some pending =>
      have other : pending.executorId ≠ executor.executorId := by
        intro is
        have hidden := (sound.turns requestId pending here).2 (by rw [is]; exact foreign)
        rw [ours] at hidden
        cases hidden
      simp [mask, ours, EdgeStore.onClose, here, Option.filter, other]
  · simp [mask, ours]

theorem view_connect (same : st.view T = st'.view T) (executor : ConnectedExecutor)
    (length : st.sockets.length = st'.sockets.length) :
    (st.connect executor).view T = (st'.connect executor).view T := by
  obtain ⟨sockets, table, turns, routes, replies, reports⟩ := view_eq.mp same
  refine view_eq.mpr ⟨?_, ?_, turns, routes, replies, reports⟩
  · show (st.sockets ++ _).map T.look = (st'.sockets ++ _).map T.look
    rw [List.map_append, List.map_append, sockets]
  · show mask _ (Function.update _ _ _) = mask _ (Function.update _ _ _)
    rw [length]
    exact mask_update table

end view

/-! ### The unwinding -/

section unwinding
variable {T : Tenants} {enabled : Bool} {st st' u u' : EdgeStore} {ws : Nat}

theorem view_turnDelta_hidden (sound : Sound T st) {requestId : String}
    (hidden : T.ours requestId = false) (now : Int) (executor : ConnectedExecutor)
    (sessionId content : String) :
    (st.onMessage enabled now ws executor (.turnDelta requestId sessionId content)).view T =
      st.view T := by
  simp only [EdgeStore.onMessage]
  split
  · split
    · rfl
    · rename_i pending here
      exact view_report_hidden ((sound.turns requestId pending here).1.trans hidden)
  · rfl

theorem keeps_greeted {executor : ConnectedExecutor} (has : st.has ws executor = true)
    (hello : ExecutorHello) (socket : Socket) (here : st.sockets[ws]? = some socket) :
    socket.executor = executor ∧
      (executor.greeted hello).executorId = socket.executor.executorId := by
  obtain ⟨state, there⟩ := socket_of_has has
  rw [here] at there
  cases there
  exact ⟨rfl, rfl⟩

theorem view_onMessage_hidden (sound : Sound T st) {now : Int} {executor : ConnectedExecutor}
    (has : st.has ws executor = true) (foreign : T.foreign executor.executorId = true)
    {msg : ExecutorMessage} (owned : msg.Owned st executor.executorId) :
    (st.onMessage enabled now ws executor msg).view T = st.view T := by
  have theirs {requestId : String} (mem : (requestId, executor.executorId) ∈ st.dispatched) :
      T.ours requestId = false := sound.dispatched _ _ mem foreign
  cases msg with
  | executorHello hello =>
    simp only [EdgeStore.onMessage]
    split
    · refine view_eq.mpr ⟨look_modify_hidden ?_, rfl, rfl, rfl, rfl, rfl⟩
      intro socket here
      obtain ⟨is, keeps⟩ := keeps_greeted has hello socket here
      exact ⟨by rw [is]; exact foreign, keeps⟩
    · exact view_beginClose_hidden (alien_of_owns (owns_of_has has) foreign)
  | toolResult => rfl
  | toolEvent => exact view_report_hidden rfl
  | sessionOpened => exact view_setReply_hidden (theirs owned) _
  | turnDelta requestId sessionId content =>
    by_cases ours : T.ours requestId = true
    · have nothing : st.pendingSessionTurn requestId = none := by
        cases here : st.pendingSessionTurn requestId with
        | none => rfl
        | some pending =>
          have hidden := (sound.turns requestId pending here).2 (by rw [owned pending here]; exact foreign)
          rw [ours] at hidden
          cases hidden
      simp [EdgeStore.onMessage, nothing]
    · exact view_turnDelta_hidden sound (by simpa using ours) now executor sessionId content
  | turnEvent requestId organizationId sessionId event =>
    simp only [EdgeStore.onMessage]
    split
    · obtain ⟨same, hidden⟩ := sound.turns requestId _ owned
      exact view_report_hidden (same.trans (hidden foreign))
    · rfl
  | turnFinal =>
    exact (view_setReply_hidden (theirs owned) _).trans (view_dropPendingTurn_hidden (theirs owned))
  | turnError =>
    exact (view_setReply_hidden (theirs owned) _).trans (view_dropPendingTurn_hidden (theirs owned))
  | memorySyncResult => exact view_setReply_hidden (theirs owned) _
  | memoryQueryResult => exact view_setReply_hidden (theirs owned) _

theorem view_onMessage (low : Low T st st') {now : Int} {executor : ConnectedExecutor}
    (has : st.has ws executor = true) (has' : st'.has ws executor = true)
    (own : T.foreign executor.executorId = false) (msg : ExecutorMessage) :
    (st.onMessage enabled now ws executor msg).view T =
      (st'.onMessage enabled now ws executor msg).view T := by
  obtain ⟨sound, sound', same⟩ := low
  cases msg with
  | executorHello hello =>
    simp only [EdgeStore.onMessage]
    split
    · obtain ⟨sockets, rest⟩ := view_eq.mp same
      exact view_eq.mpr ⟨look_modify sockets (fun socket here => (keeps_greeted has hello socket here).2)
        fun socket here => (keeps_greeted has' hello socket here).2, rest⟩
    · exact view_beginClose same (sockets_eq same (owns_of_has has) own)
  | toolResult => exact same
  | toolEvent => exact view_report same _
  | sessionOpened => exact view_setReply same _ _
  | turnDelta requestId sessionId content =>
    by_cases ours : T.ours requestId = true
    · have pending := mask_apply (view_eq.mp same).2.2.1 ours
      simp only [EdgeStore.onMessage, pending]
      split
      · split
        · exact same
        · exact view_report same _
      · exact same
    · have hidden : T.ours requestId = false := by simpa using ours
      rw [view_turnDelta_hidden sound hidden, view_turnDelta_hidden sound' hidden, same]
  | turnEvent =>
    simp only [EdgeStore.onMessage]
    split
    · exact view_report same _
    · exact same
  | turnFinal => exact view_setReply (view_dropPendingTurn same _) _ _
  | turnError => exact view_setReply (view_dropPendingTurn same _) _ _
  | memorySyncResult => exact view_setReply same _ _
  | memoryQueryResult => exact view_setReply same _ _

theorem view_launch_hidden (sound : Sound T st) {s : (edgeSystem enabled).State}
    (is : s.store = st) {id : Nat} {l : EdgeLaunch} (keeps : KeepsApart T s (.launch id l))
    (hidden : T.Hidden l) (launched : launchEdge enabled st l = some u) : u.view T = st.view T := by
  cases l with
  | connect => exact hidden.elim
  | message now ws executor msg =>
    simp only [launchEdge, Option.ite_none_right_eq_some, Option.some.injEq] at launched
    obtain ⟨has, rfl⟩ := launched
    subst is
    exact view_onMessage_hidden sound has hidden (keeps hidden)
  | close ws executor =>
    simp only [launchEdge, Option.ite_none_right_eq_some, Option.some.injEq] at launched
    obtain ⟨has, rfl⟩ := launched
    exact view_onClose_hidden sound has hidden
  | command executorId command =>
    simp only [launchEdge, Option.ite_none_left_eq_some, Option.some.injEq] at launched
    obtain ⟨-, rfl⟩ := launched
    rfl

theorem view_launch (low : Low T st st') {l : EdgeLaunch} (shown : ¬T.Hidden l)
    (launched : launchEdge enabled st l = some u) (launched' : launchEdge enabled st' l = some u') :
    u.view T = u'.view T := by
  cases l with
  | connect executor ws =>
    simp only [launchEdge, Option.ite_none_right_eq_some, Option.some.injEq] at launched launched'
    obtain ⟨here, rfl⟩ := launched
    obtain ⟨here', rfl⟩ := launched'
    exact view_connect low.view executor (here.symm.trans here')
  | message now ws executor msg =>
    simp only [launchEdge, Option.ite_none_right_eq_some, Option.some.injEq] at launched launched'
    obtain ⟨has, rfl⟩ := launched
    obtain ⟨has', rfl⟩ := launched'
    exact view_onMessage low has has' (by simpa [Tenants.Hidden] using shown) msg
  | close ws executor =>
    simp only [launchEdge, Option.ite_none_right_eq_some, Option.some.injEq] at launched launched'
    obtain ⟨-, rfl⟩ := launched
    obtain ⟨-, rfl⟩ := launched'
    exact view_onClose low.view ws executor
  | command executorId command =>
    simp only [launchEdge, Option.ite_none_left_eq_some, Option.some.injEq] at launched launched'
    obtain ⟨-, rfl⟩ := launched
    obtain ⟨-, rfl⟩ := launched'
    exact low.view

/-! ### Operations -/

theorem view_expectReply_hidden (st : EdgeStore) (executorId : String) {command : ExecutorCommand}
    (hidden : T.ours command.requestId = false) :
    (st.expectReply executorId command).view T = st.view T := by
  cases command with
  | executorInvoke requestId => rfl
  | executorSession payload =>
    obtain ⟨type, requestId, organizationId, sessionId⟩ := payload
    cases type with
    | sessionTurn => exact view_eq.mpr ⟨rfl, rfl, mask_update_hidden hidden, rfl, rfl, rfl⟩
    | sessionCancel => exact view_dropPendingTurn_hidden hidden
    | _ => rfl

theorem view_expectReply (same : st.view T = st'.view T) (executorId : String)
    (command : ExecutorCommand) :
    (st.expectReply executorId command).view T = (st'.expectReply executorId command).view T := by
  cases command with
  | executorInvoke requestId => exact same
  | executorSession payload =>
    obtain ⟨type, requestId, organizationId, sessionId⟩ := payload
    obtain ⟨sockets, table, turns, routes, replies, reports⟩ := view_eq.mp same
    cases type with
    | sessionTurn =>
      exact view_eq.mpr ⟨sockets, table, mask_update turns, routes, replies, reports⟩
    | sessionCancel => exact view_dropPendingTurn same _
    | _ => exact same

theorem view_sendCommand_hidden {executorId : String} {command : ExecutorCommand}
    (hidden : T.ours command.requestId = false) (foreign : T.foreign executorId = true)
    (throws : Bool) : (st.sendCommand executorId command throws).2.view T = st.view T := by
  have expecting := view_expectReply_hidden st executorId hidden
  unfold EdgeStore.sendCommand
  split
  · rfl
  · dsimp only
    split
    · exact expecting
    · exact (view_deleteExecutor_hidden foreign).trans expecting

theorem view_sendCommand (low : Low T st st') {executorId : String}
    (own : T.foreign executorId = false) (command : ExecutorCommand) (throws : Bool) :
    (st.sendCommand executorId command throws).1 = (st'.sendCommand executorId command throws).1 ∧
      (st.sendCommand executorId command throws).2.view T =
        (st'.sendCommand executorId command throws).2.view T := by
  obtain ⟨sound, sound', same⟩ := low
  have entry : st.executorsById executorId = st'.executorsById executorId :=
    mask_apply (view_eq.mp same).2.1 (by simp [own])
  have expecting := view_expectReply same executorId command
  unfold EdgeStore.sendCommand
  rw [← entry]
  cases here : st.executorsById executorId with
  | none => exact ⟨rfl, same⟩
  | some ws =>
    dsimp only
    rw [sockets_eq same (sound.table executorId ws here) own]
    split
    · exact ⟨rfl, expecting⟩
    · exact ⟨rfl, view_deleteExecutor expecting executorId⟩

theorem view_refuse (same : st.view T = st'.view T) (command : ExecutorCommand) :
    (st.dropPending command).view T = (st'.dropPending command).view T := by
  cases command with
  | executorInvoke requestId => exact same
  | executorSession payload => exact view_dropPendingTurn same _

theorem view_refuse_hidden {command : ExecutorCommand} (hidden : T.ours command.requestId = false) :
    (st.dropPending command).view T = st.view T := by
  cases command with
  | executorInvoke requestId => rfl
  | executorSession payload => exact view_dropPendingTurn_hidden hidden

theorem view_performRoute_hidden (alien : Alien T st ws) (throws : Bool) :
    (performEdge st throws (.writeExecutorRoute ws)).2.view T = st.view T := by
  simp only [performEdge]
  cases here : st.sockets[ws]? with
  | none => rfl
  | some socket => exact view_writeExecutorRoute_hidden (alien socket here)

theorem view_performRoute (same : st.view T = st'.view T) {executorId : String}
    (owns : st.Owns ws executorId) (owns' : st'.Owns ws executorId) (throws : Bool) :
    (performEdge st throws (.writeExecutorRoute ws)).2.view T =
      (performEdge st' throws (.writeExecutorRoute ws)).2.view T := by
  by_cases foreign : T.foreign executorId = true
  · rw [view_performRoute_hidden (alien_of_owns owns foreign),
      view_performRoute_hidden (alien_of_owns owns' foreign), same]
  · have own : T.foreign executorId = false := by simpa using foreign
    simp only [performEdge]
    rw [sockets_eq same owns own]
    cases st.sockets[ws]? with
    | none => exact same
    | some socket => exact view_writeExecutorRoute same _

theorem view_perform_hidden (sound : Sound T st) {l : EdgeLaunch} {op : EdgeOp}
    (hidden : T.Hidden l) (fine : T.Fine st l) (issues : l.Issues op) (throws : Bool) :
    (performEdge st throws op).2.view T = st.view T := by
  cases l with
  | connect => exact hidden.elim
  | close => exact issues.elim
  | message now ws executor msg =>
    obtain ⟨owns, dispatched⟩ := fine
    rcases issues with rfl | ⟨result, is, rfl | rfl⟩
    · exact view_performRoute_hidden (alien_of_owns owns hidden) throws
    · exact view_setReply_hidden (sound.dispatched _ _ (dispatched hidden result is) hidden) _
    · rfl
  | command executorId command =>
    have theirs := fine.1 hidden
    rcases issues with rfl | rfl | rfl | rfl
    · exact view_sendCommand_hidden theirs hidden throws
    · exact view_setReply_hidden theirs _
    · exact view_deleteRoute_hidden hidden
    · exact (view_setReply_hidden theirs _).trans (view_refuse_hidden theirs)

theorem view_perform (low : Low T st st') {l : EdgeLaunch} {op : EdgeOp} (shown : ¬T.Hidden l)
    (fine : T.Fine st l) (fine' : T.Fine st' l) (issues : l.Issues op) (throws : Bool) :
    (performEdge st throws op).1 = (performEdge st' throws op).1 ∧
      (performEdge st throws op).2.view T = (performEdge st' throws op).2.view T := by
  have same := low.view
  cases l with
  | connect executor ws =>
    obtain rfl := issues
    exact ⟨rfl, view_performRoute same fine fine' throws⟩
  | close => exact issues.elim
  | message now ws executor msg =>
    rcases issues with rfl | ⟨result, -, rfl | rfl⟩
    · exact ⟨rfl, view_performRoute same fine.1 fine'.1 throws⟩
    · exact ⟨rfl, view_setReply same _ _⟩
    · exact ⟨rfl, same⟩
  | command executorId command =>
    rcases issues with rfl | rfl | rfl | rfl
    · exact view_sendCommand low (by simpa [Tenants.Hidden] using shown) command throws
    · exact ⟨rfl, view_setReply same _ _⟩
    · exact ⟨rfl, view_deleteRoute same _⟩
    · exact ⟨rfl, view_setReply (view_refuse same command) _ _⟩

theorem entry_issues (l : EdgeLaunch) : (entryEdge l).Only l.Issues := by
  cases l with
  | connect executor ws => exact ⟨rfl, fun _ => trivial⟩
  | close => trivial
  | message now ws executor msg =>
    cases msg with
    | executorHello hello =>
      simp only [entryEdge, afterMessage]
      split
      · exact ⟨.inl rfl, fun _ => trivial⟩
      · trivial
    | toolResult result =>
      exact ⟨.inl rfl, fun _ => ⟨.inr ⟨result, rfl, .inl rfl⟩, fun _ =>
        ⟨.inr ⟨result, rfl, .inr rfl⟩, fun _ => trivial⟩⟩⟩
    | _ => trivial
  | command executorId cmd =>
    refine ⟨.inl rfl, fun outcome => ?_⟩
    cases (outcome : Sent) with
    | sent => trivial
    | offline => exact ⟨.inr (.inl rfl), fun _ => trivial⟩
    | failed => exact ⟨.inr (.inr (.inl rfl)), fun _ => ⟨.inr (.inr (.inr rfl)), fun _ => trivial⟩⟩

theorem fine_launch {s : (edgeSystem enabled).State} {id : Nat} {l : EdgeLaunch}
    (keeps : KeepsApart T s (.launch id l)) (launched : launchEdge enabled s.store l = some u) :
    T.Fine u l := by
  have grows := grows_launch launched
  cases l with
  | connect executor ws =>
    simp only [launchEdge, Option.ite_none_right_eq_some, Option.some.injEq] at launched
    obtain ⟨rfl, rfl⟩ := launched
    exact ⟨{ executor, state := .open }, by simp [EdgeStore.connect], rfl⟩
  | message now ws executor msg =>
    simp only [launchEdge, Option.ite_none_right_eq_some, Option.some.injEq] at launched
    obtain ⟨has, -⟩ := launched
    refine ⟨grows.owns _ _ (owns_of_has has), ?_⟩
    rintro foreign result rfl
    exact grows.dispatched _ (keeps foreign)
  | close => trivial
  | command => exact keeps

theorem unwinding (T : Tenants) (enabled : Bool) :
    (apart T enabled).Unwinding (KeepsApart T) (Low T) where
  symm low := low.symm
  entry l := Program.only_bind (entry_issues l) fun _ => trivial
  body _ loop := nomatch loop
  fine keeps _ launched := fine_launch keeps launched
  stable stepped fine := fine_grows (grows_step stepped) fine
  launch_hidden keeps low hidden launched :=
    ⟨sound_launch low.sound launched, low.sound',
      (view_launch_hidden low.sound rfl keeps hidden launched).trans low.view⟩
  launch_both _ _ low shown launched launched' :=
    ⟨sound_launch low.sound launched, sound_launch low.sound' launched',
      view_launch low shown launched launched'⟩
  call_hidden {l op st st' choice reply u} low hidden fine issues performed := by
    have is : performEdge st choice op = (reply, u) := Option.some.inj performed
    have sound := sound_perform low.sound fine issues choice
    have view := view_perform_hidden low.sound hidden fine issues choice
    rw [is] at sound view
    exact ⟨sound, low.sound', view.trans low.view⟩
  call_both {l op st st' choice reply reply' u u'} low shown fine fine' issues performed performed' := by
    have is : performEdge st choice op = (reply, u) := Option.some.inj performed
    have is' : performEdge st' choice op = (reply', u') := Option.some.inj performed'
    have sound := sound_perform low.sound fine issues choice
    have sound' := sound_perform low.sound' fine' issues choice
    obtain ⟨replies, view⟩ := view_perform low shown fine fine' issues choice
    rw [is] at sound replies view
    rw [is'] at sound' replies view
    exact ⟨replies, sound, sound', view⟩
  finish_hidden {l _ st st'} low _ := by
    cases l with
    | command =>
      exact ⟨sound_less low.sound (grows_of_eq rfl rfl) (fun _ _ here => here)
        (fun _ _ here => here) rfl, low.sound', low.view⟩
    | _ => exact low
  finish_both {l _ st st'} low := by
    cases l with
    | command =>
      exact ⟨sound_less low.sound (grows_of_eq rfl rfl) (fun _ _ here => here)
          (fun _ _ here => here) rfl,
        sound_less low.sound' (grows_of_eq rfl rfl) (fun _ _ here => here)
          (fun _ _ here => here) rfl, low.view⟩
    | _ => exact low
  tick_hidden {t st st' u} low hidden ticked := by
    cases t with
    | beginClose ws =>
      obtain rfl := Option.some.inj ticked
      obtain ⟨executorId, owns, foreign⟩ := hidden
      exact ⟨sound_beginClose low.sound ws, low.sound',
        (view_beginClose_hidden (alien_of_owns owns foreign)).trans low.view⟩
    | expireRoute => exact hidden.elim
    | expireReply => exact hidden.elim
  tick_both {t st st' u u'} low shown shown' ticked ticked' := by
    cases t with
    | beginClose ws =>
      obtain rfl := Option.some.inj ticked
      obtain rfl := Option.some.inj ticked'
      exact ⟨sound_beginClose low.sound ws, sound_beginClose low.sound' ws,
        view_beginClose low.view (sockets_eq_of_shown low.view shown)⟩
    | expireRoute executorId =>
      obtain rfl := Option.some.inj ticked
      obtain rfl := Option.some.inj ticked'
      refine ⟨?_, ?_, view_deleteRoute low.view executorId⟩
      · exact sound_less low.sound (grows_of_eq rfl rfl) (fun _ _ here => here)
          (fun _ _ here => here) rfl
      · exact sound_less low.sound' (grows_of_eq rfl rfl) (fun _ _ here => here)
          (fun _ _ here => here) rfl
    | expireReply requestId =>
      obtain rfl := Option.some.inj ticked
      obtain rfl := Option.some.inj ticked'
      obtain ⟨sockets, table, turns, routes, replies, reports⟩ := view_eq.mp low.view
      refine ⟨?_, ?_, view_eq.mpr ⟨sockets, table, turns, routes, mask_update replies, reports⟩⟩
      · exact sound_less low.sound (grows_of_eq rfl rfl) (fun _ _ here => here)
          (fun _ _ here => here) rfl
      · exact sound_less low.sound' (grows_of_eq rfl rfl) (fun _ _ here => here)
          (fun _ _ here => here) rfl

end unwinding

/-! ### Isolation -/

/-- A step of the handler of a message that came from `executor`. -/
def FromExecutor {enabled : Bool} (s : (edgeSystem enabled).State) (executor : ConnectedExecutor) :
    (edgeSystem enabled).Action → Prop
  | .launch _ (.message _ _ sender _) => sender = executor
  | .call id _ | .finish id => ∃ now ws msg, ∃ p, s.process id = some p ∧
      p.launch = .message now ws executor msg
  | _ => False

/-- Replies are written for requests the executor was handed, and turn events are reported for
a turn it was handed, with the organization and session of that turn. -/
structure WritesOwn (st u : EdgeStore) (executorId : String) : Prop where
  replies : ∀ requestId, u.replies requestId ≠ st.replies requestId →
    (requestId, executorId) ∈ st.dispatched
  reports : u.toBrain = st.toBrain ∨ ∃ report, u.toBrain = st.toBrain ++ [report] ∧
    ∀ requestId organizationId sessionId event,
      report = .sessionTurnEvent requestId organizationId sessionId event →
        st.pendingSessionTurn requestId = some { organizationId, sessionId, executorId }

section own
variable {st u : EdgeStore} {executorId : String}

theorem writesOwn_of_eq (replies : u.replies = st.replies) (reports : u.toBrain = st.toBrain) :
    WritesOwn st u executorId :=
  ⟨fun _ differs => absurd (congrFun replies _) differs, .inl reports⟩

theorem writesOwn_setReply {requestId : String} {reply : Json}
    (replies : u.replies = Function.update st.replies requestId (some reply))
    (reports : u.toBrain = st.toBrain) (owned : (requestId, executorId) ∈ st.dispatched) :
    WritesOwn st u executorId := by
  refine ⟨?_, .inl reports⟩
  intro i differs
  by_cases same : i = requestId
  · rw [same]
    exact owned
  · rw [replies, Function.update_of_ne same] at differs
    exact absurd rfl differs

theorem writesOwn_report {report : ExecutorReport}
    (own : ∀ requestId organizationId sessionId event,
      report = .sessionTurnEvent requestId organizationId sessionId event →
        st.pendingSessionTurn requestId = some { organizationId, sessionId, executorId }) :
    WritesOwn st (st.report report) executorId :=
  ⟨fun _ differs => absurd rfl differs, .inr ⟨report, rfl, own⟩⟩

theorem writesOwn_onMessage {enabled : Bool} {now : Int} {ws : Nat} {executor : ConnectedExecutor}
    {msg : ExecutorMessage} (owned : msg.Owned st executor.executorId) :
    WritesOwn st (st.onMessage enabled now ws executor msg) executor.executorId := by
  cases msg with
  | executorHello hello =>
    simp only [EdgeStore.onMessage]
    split
    · exact writesOwn_of_eq rfl rfl
    · rcases beginClose_cases st ws with is | is
      · rw [is]
        exact writesOwn_of_eq rfl rfl
      · rw [is]
        exact writesOwn_of_eq rfl rfl
  | toolResult => exact writesOwn_of_eq rfl rfl
  | toolEvent => exact writesOwn_report fun _ _ _ _ is => by cases is
  | turnDelta requestId sessionId content =>
    simp only [EdgeStore.onMessage]
    split
    · cases here : st.pendingSessionTurn requestId with
      | none => exact writesOwn_of_eq rfl rfl
      | some pending =>
        refine writesOwn_report ?_
        rintro _ _ _ _ ⟨⟩
        rw [here, ← owned pending here]
    · exact writesOwn_of_eq rfl rfl
  | turnEvent requestId organizationId sessionId event =>
    simp only [EdgeStore.onMessage]
    split
    · refine writesOwn_report ?_
      rintro _ _ _ _ ⟨⟩
      exact owned
    · exact writesOwn_of_eq rfl rfl
  | sessionOpened => exact writesOwn_setReply rfl rfl owned
  | turnFinal => exact writesOwn_setReply rfl rfl owned
  | turnError => exact writesOwn_setReply rfl rfl owned
  | memorySyncResult => exact writesOwn_setReply rfl rfl owned
  | memoryQueryResult => exact writesOwn_setReply rfl rfl owned

theorem writesOwn_perform {T : Tenants} {now : Int} {ws : Nat} {executor : ConnectedExecutor}
    {msg : ExecutorMessage} {op : EdgeOp} (foreign : T.foreign executor.executorId = true)
    (fine : T.Fine st (.message now ws executor msg))
    (issues : (EdgeLaunch.message now ws executor msg).Issues op) (throws : Bool) :
    WritesOwn st (performEdge st throws op).2 executor.executorId := by
  rcases issues with rfl | ⟨result, is, rfl | rfl⟩
  · simp only [performEdge]
    cases st.sockets[ws]? with
    | none => exact writesOwn_of_eq rfl rfl
    | some socket => exact writesOwn_of_eq rfl rfl
  · exact writesOwn_setReply rfl rfl (fine.2 foreign result is)
  · exact writesOwn_of_eq rfl rfl

end own

theorem low_empty (T : Tenants) : Low T .empty .empty := by
  have sound : Sound T .empty := by
    refine ⟨?_, ?_, ?_⟩
    · intro _ _ here
      cases here
    · intro _ _ here
      cases here
    · intro _ _ mem
      cases mem
  exact ⟨sound, sound, rfl⟩

theorem writesOwn_step {T : Tenants} {enabled : Bool} {s t : (edgeSystem enabled).State}
    {a : (edgeSystem enabled).Action} {executor : ConnectedExecutor}
    (held : (apart T enabled).AllHeld s) (keeps : KeepsApart T s a)
    (foreign : T.foreign executor.executorId = true) (is : FromExecutor s executor a)
    (stepped : System.Stepped s a t) : WritesOwn s.store t.store executor.executorId := by
  cases stepped with
  | @launch id l store free launched =>
    cases l with
    | message now ws sender msg =>
      obtain rfl := is
      simp only [launchEdge, Option.ite_none_right_eq_some, Option.some.injEq] at launched
      obtain ⟨-, rfl⟩ := launched
      exact writesOwn_onMessage (keeps foreign)
    | connect => exact is.elim
    | close => exact is.elim
    | command => exact is.elim
  | @call id choice l history op next reply store here performed =>
    obtain ⟨now, ws, msg, p, there, launch⟩ := is
    rw [here] at there
    cases there
    dsimp only at launch
    subst launch
    obtain ⟨fine, only⟩ := held _ _ here
    have issues : (EdgeLaunch.message now ws executor msg).Issues op := only.1
    have writes := writesOwn_perform foreign fine issues choice
    have same : performEdge s.store choice op = (reply, store) := Option.some.inj performed
    rw [same] at writes
    exact writes
  | loop => exact is.elim
  | @finish id l history outcome here =>
    obtain ⟨now, ws, msg, p, there, launch⟩ := is
    rw [here] at there
    cases there
    dsimp only at launch
    subst launch
    exact writesOwn_of_eq rfl rfl
  | tick => exact is.elim

theorem effects_filter (T : Tenants) (enabled : Bool) (reports : List ExecutorReport) :
    (reports.flatMap (handleReport enabled)).filter (fun effect => T.session effect.sessionId) =
      (reports.filter T.reports).flatMap (handleReport enabled) := by
  induction reports with
  | nil => rfl
  | cons report rest ih =>
    rw [List.flatMap_cons, List.filter_append, ih, List.filter_cons]
    cases report with
    | executorEvent => rfl
    | sessionTurnEvent requestId organizationId sessionId event =>
      have one : ∀ effect ∈ handleReport enabled
          (.sessionTurnEvent requestId organizationId sessionId event),
            effect.sessionId = sessionId := by
        intro effect mem
        simp only [handleReport] at mem
        split at mem
        · cases mem
        · rcases List.mem_cons.mp mem with rfl | mem
          · rfl
          · obtain ⟨eventType, -, rfl⟩ := List.mem_map.mp mem
            rfl
      by_cases session : T.session sessionId = true
      · have reported : T.reports
            (.sessionTurnEvent requestId organizationId sessionId event) = true := session
        rw [if_pos reported, List.flatMap_cons]
        congr 1
        refine List.filter_eq_self.mpr fun effect mem => ?_
        rw [one effect mem]
        exact session
      · have unreported : ¬T.reports
            (.sessionTurnEvent requestId organizationId sessionId event) = true := session
        rw [if_neg unreported]
        have none_left : (handleReport enabled (.sessionTurnEvent requestId organizationId sessionId
            event)).filter (fun effect => T.session effect.sessionId) = [] := by
          refine List.filter_eq_nil_iff.mpr fun effect mem => ?_
          rw [one effect mem]
          exact session
        rw [none_left, List.nil_append]

/-- As long as its executors name requests they were handed, an organization writes for them
alone, and what its executors send is not seen in another's replies and sessions. -/
theorem executors_isolated (T : Tenants) (enabled : Bool) :
    (∀ s, System.Steps (KeepsApart T) (freshEdge enabled) s → ∀ a, KeepsApart T s a →
      ∀ executor, T.foreign executor.executorId = true → FromExecutor s executor a →
        ∀ t, System.step s a = some t → WritesOwn s.store t.store executor.executorId) ∧
    ∀ s s', (apart T enabled).Alike (KeepsApart T) (freshEdge enabled) s s' →
      (∀ requestId, T.ours requestId = true → s.store.replies requestId = s'.store.replies requestId) ∧
      ∀ streaming, (s.store.toBrain.flatMap (handleReport streaming)).filter
          (fun effect => T.session effect.sessionId) =
        (s'.store.toBrain.flatMap (handleReport streaming)).filter
          fun effect => T.session effect.sessionId := by
  refine ⟨?_, ?_⟩
  · intro s run a keeps executor foreign is t stepped
    have kept := (unwinding T enabled).kept (fun _ => rfl) (low_empty T) (Hiding.alike_self run)
    exact writesOwn_step kept.held keeps foreign is (System.step_cases stepped)
  · intro s s' alike
    have low := (unwinding T enabled).low (fun _ => rfl) (low_empty T) alike
    obtain ⟨-, -, -, -, replies, reports⟩ := view_eq.mp low.view
    refine ⟨fun requestId ours => mask_apply replies ours, fun streaming => ?_⟩
    rw [effects_filter, effects_filter, reports]

/-! ### An executor of each of two organizations -/

instance (T : Tenants) (executorId : String) (command : ExecutorCommand) :
    Decidable (T.Separates executorId command) :=
  match command with
  | .executorInvoke _ => inferInstanceAs (Decidable (_ ∧ True))
  | .executorSession _ => inferInstanceAs (Decidable (_ ∧ _ = _))

/-- Commands are separated, and executors have not sent anything. -/
def Quiet (T : Tenants) {enabled : Bool} (_ : (edgeSystem enabled).State) :
    (edgeSystem enabled).Action → Prop
  | .launch _ (.message ..) => False
  | .launch _ (.command executorId command) => T.Separates executorId command
  | _ => True

instance (T : Tenants) {enabled : Bool} (s : (edgeSystem enabled).State)
    (a : (edgeSystem enabled).Action) : Decidable (Quiet T s a) :=
  match a with
  | .launch _ (.message ..) => .isFalse id
  | .launch _ (.command executorId command) => inferInstanceAs (Decidable (T.Separates executorId command))
  | .launch _ (.connect ..) | .launch _ (.close ..) | .call .. | .loop _ | .finish _ | .tick _ =>
    .isTrue trivial

/-- Only the commands are separated. -/
def Separated (T : Tenants) {enabled : Bool} (_ : (edgeSystem enabled).State)
    (a : (edgeSystem enabled).Action) : Prop :=
  ∀ id executorId command, a = .launch id (.command executorId command) →
    T.Separates executorId command

theorem separated_of_quiet {T : Tenants} {enabled : Bool} (s : (edgeSystem enabled).State)
    (a : (edgeSystem enabled).Action) (quiet : Quiet T s a) : Separated T s a := by
  rintro id executorId command rfl
  exact quiet

theorem keepsApart_of_quiet {T : Tenants} {enabled : Bool} (s : (edgeSystem enabled).State)
    (a : (edgeSystem enabled).Action) (quiet : Quiet T s a) : KeepsApart T s a := by
  cases a with
  | launch id l =>
    cases l with
    | message => exact quiet.elim
    | command => exact quiet
    | connect => trivial
    | close => trivial
  | _ => trivial

namespace Sample

def tenants : Tenants where
  foreign executorId := executorId = "a"
  ours requestId := requestId = "rb"
  session sessionId := sessionId = "sb"

def executor (executorId organizationId : String) : ConnectedExecutor :=
  { executorId, pool := .byon, organizationId := some organizationId, configuredMaxInFlight := 1
    name := none, labels := [], maxInFlight := 1, kinds := [] }

/-- An executor of each organization is handed a request. -/
def commanded : List (edgeSystem true).Action :=
  [.launch 0 (.connect (executor "a" "A") 0), .launch 1 (.connect (executor "b" "B") 1),
    .launch 2 (.command "a" (.executorInvoke "ra")), .call 2 false, .finish 2,
    .launch 2 (.command "b" (.executorInvoke "rb")), .call 2 false, .finish 2]

def opens (requestId : String) : (edgeSystem true).Action :=
  .launch 3 (.message 0 0 (executor "a" "A") (.sessionOpened requestId "sa"))

/-- What executor a sends is stored at once. -/
def opened (requestId : String) (s : (edgeSystem true).State) : (edgeSystem true).State :=
  s.update (s.store.setReply requestId (.obj [("status", .str "ok"), ("sessionId", .str "sa")])) 3
    (some { launch := .message 0 0 (executor "a" "A") (.sessionOpened requestId "sa")
            history := [], program := .done (.inr ()) })

theorem opened_step {s : (edgeSystem true).State} (requestId : String)
    (free : s.process 3 = none) (has : s.store.has 0 (executor "a" "A") = true) :
    System.step s (opens requestId) = some (opened requestId s) := by
  simp [opens, System.step, free, launchEdge, has, EdgeStore.onMessage, opened, entryEdge, afterMessage]

theorem commanded_exec : ∃ s : (edgeSystem true).State,
    System.Steps (Quiet tenants) (freshEdge true) s ∧ s.process 3 = none ∧
      s.store.has 0 (executor "a" "A") = true ∧ ("ra", "a") ∈ s.store.dispatched ∧
        s.store.replies "rb" = none := by
  have ran : (System.exec (Quiet tenants) (freshEdge true) commanded).any (fun s =>
      (s.process 3).isNone && s.store.has 0 (executor "a" "A") &&
        decide (("ra", "a") ∈ s.store.dispatched) && (s.store.replies "rb").isNone) = true := by
    decide +kernel
  obtain ⟨s, run, facts⟩ := (Option.any_eq_true _ _).mp ran
  simp only [Bool.and_eq_true, decide_eq_true_eq, Option.isNone_iff_eq_none] at facts
  obtain ⟨⟨⟨free, has⟩, mem⟩, silent⟩ := facts
  exact ⟨s, System.steps_of_exec run, free, has, mem, silent⟩

end Sample

theorem executors_isolated_answer : ∃ s t : (edgeSystem true).State,
    (t.store.replies "ra").isSome = true ∧ t.store.replies "rb" = s.store.replies "rb" ∧
      WritesOwn s.store t.store "a" := by
  obtain ⟨s, quiet, free, has, mem, -⟩ := Sample.commanded_exec
  have run := quiet.mono keepsApart_of_quiet
  have stepped := Sample.opened_step "ra" free has
  have isolated := executors_isolated Sample.tenants true
  have keeps : KeepsApart Sample.tenants s (Sample.opens "ra") := fun _ => mem
  have hides : (apart Sample.tenants true).Hides s (Sample.opens "ra") :=
    show Sample.tenants.foreign "a" = true by decide
  have alike := (Hiding.alike_self run).left keeps hides stepped
  exact ⟨s, _, by simp [Sample.opened, EdgeStore.setReply],
    (isolated.2 _ _ alike).1 "rb" (by decide),
    isolated.1 s run _ keeps (Sample.executor "a" "A") (by decide) rfl _ stepped⟩

/-- An executor answers a request that another organization's executor was handed. -/
theorem forged_reply : ¬∀ s s', (apart Sample.tenants true).Alike (Separated Sample.tenants)
    (freshEdge true) s s' → ∀ requestId, Sample.tenants.ours requestId = true →
      s.store.replies requestId = s'.store.replies requestId := by
  intro isolated
  obtain ⟨s, quiet, free, has, -, silent⟩ := Sample.commanded_exec
  have run := quiet.mono separated_of_quiet
  have separated : Separated Sample.tenants s (Sample.opens "rb") :=
    fun _ _ _ is => by cases is
  have hides : (apart Sample.tenants true).Hides s (Sample.opens "rb") :=
    show Sample.tenants.foreign "a" = true by decide
  have alike := (Hiding.alike_self run).left separated hides (Sample.opened_step "rb" free has)
  have same := isolated _ _ alike "rb" (by decide)
  rw [silent] at same
  simp [Sample.opened, EdgeStore.setReply] at same

end Vespid.Edge
