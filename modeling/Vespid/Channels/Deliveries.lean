import Vespid.Channels.Webhook

/-!
# A webhook message is routed once

The marker is set before the routing transaction and never taken back. What is at stake is
that the delivery that has set it gets to its commit, and that later deliveries come while it
is still kept.
-/

namespace Vespid.Channels

open Interleaving

/-- What a delivery knows: whether it has the marker, whether its routing is committed, whether
an operation in between has thrown, and which effects it has tried. -/
structure DeliveryStage where
  acquired : Bool
  routed : Bool
  threw : Bool
  tried : List Effect

def DeliveryStage.initial : DeliveryStage :=
  { acquired := false, routed := false, threw := false, tried := [] }

def gotMarker : (op : WebhookOp) → Option op.Answer → Bool
  | .acquireMarker, some acquired => acquired
  | _, _ => false

def observeDelivery (g : DeliveryStage) (op : WebhookOp) (reply : Option op.Answer) :
    DeliveryStage :=
  { acquired := g.acquired || gotMarker op reply
    routed := g.routed || (op = .commit && reply.isSome)
    threw := g.threw || (g.acquired && !g.routed && reply.isNone)
    tried := g.tried ++ op.effect.toList }

/-- An effect is tried once, by a delivery that has the marker. -/
def permitsDelivery (g : DeliveryStage) (op : WebhookOp) : Prop :=
  (op = .acquireMarker → g.acquired = false) ∧
    ∀ e ∈ op.effect, g.acquired = true ∧ e ∉ g.tried

def expectsDelivery : (op : WebhookOp) → Option op.Answer → Prop
  | .listWorkflows, rows => ∀ workflows ∈ (rows : Option (List String)), workflows.Nodup
  | _, _ => True

def deliveryProtocol : Protocol WebhookOps DeliveryStage where
  permits := permitsDelivery
  expects := expectsDelivery
  observe := observeDelivery

section follows
variable {α β : Type} {g : DeliveryStage} {tried : List Effect}

theorem wp_attempt {op : WebhookOp} {next : op.Answer → WebhookProgram (Option α)}
    {post : Option α → DeliveryStage → Prop} (permitted : permitsDelivery g op)
    (throws : post none (observeDelivery g op none))
    (goesOn : ∀ answer, expectsDelivery op (some answer) →
      (next answer).wp deliveryProtocol post (observeDelivery g op (some answer))) :
    (attempt op next).wp deliveryProtocol post g := by
  refine ⟨permitted, fun reply expected => ?_⟩
  cases reply with
  | none => exact throws
  | some answer => exact goesOn answer expected

theorem wp_orThrow {p : WebhookProgram (Option α)} {next : α → WebhookProgram (Option β)}
    {mid : Option α → DeliveryStage → Prop} {post : Option β → DeliveryStage → Prop}
    (first : p.wp deliveryProtocol mid g) (throws : ∀ g, mid none g → post none g)
    (goesOn : ∀ value g, mid (some value) g → (next value).wp deliveryProtocol post g) :
    (orThrow p next).wp deliveryProtocol post g := by
  refine Program.wp_seq first fun value g' holds => ?_
  cases value with
  | none => exact throws g' holds
  | some value => exact goesOn value g' holds

/-- A delivery that has the marker and is routing, after it has tried `tried`. -/
def Routing (tried : List Effect) : DeliveryStage :=
  { acquired := true, routed := false, threw := false, tried }

/-- It has thrown on its way to the commit. -/
def Failed (g : DeliveryStage) : Prop := g.acquired = true ∧ g.routed = false ∧ g.threw = true

theorem observe_plain {op : WebhookOp} {answer : op.Answer} (plain : op.effect = none) :
    observeDelivery (Routing tried) op (some answer) = Routing tried := by
  have commits : op ≠ .commit := by
    rintro rfl
    cases plain
  simp [observeDelivery, Routing, plain, commits]

theorem failed_of_throw (op : WebhookOp) : Failed (observeDelivery (Routing tried) op none) := by
  simp [Failed, observeDelivery, Routing]

/-- An operation of the routing transaction that leaves no effect of its own. -/
theorem wp_plain {op : WebhookOp} {next : op.Answer → WebhookProgram (Option α)}
    {post : Option α → DeliveryStage → Prop} (plain : op.effect = none)
    (other : op ≠ .acquireMarker) (throws : ∀ g, Failed g → post none g)
    (goesOn : ∀ answer, expectsDelivery op (some answer) →
      (next answer).wp deliveryProtocol post (Routing tried)) :
    (attempt op next).wp deliveryProtocol post (Routing tried) := by
  refine wp_attempt ⟨fun same => (other same).elim, by simp [plain]⟩
    (throws _ (failed_of_throw op)) ?_
  intro answer expected
  rw [observe_plain plain]
  exact goesOn answer expected

/-- Nothing but the session event has been tried. -/
def Appended (g : DeliveryStage) : Prop := g = Routing [] ∨ g = Routing [.userMessage]

theorem routeToSession_follows (account : ChannelAccount) (conversation : Option String) :
    (routeToSession account conversation).wp deliveryProtocol
      (fun route g => route.elim (Failed g) fun _ => Appended g) (Routing []) := by
  unfold routeToSession
  split
  · exact .inl rfl
  split
  · exact .inl rfl
  · next sessionId _ =>
    apply wp_plain rfl (by simp) (fun _ failed => failed)
    intro found _
    split
    · exact .inl rfl
    · refine wp_attempt ⟨by simp, ?_⟩ (failed_of_throw _) fun seq _ => ?_
      · rintro e ⟨⟩
        exact ⟨rfl, by simp [Routing]⟩
      · have appended : observeDelivery (Routing []) (.appendUserMessage sessionId) (some seq) =
            Routing [.userMessage] := by
          simp [observeDelivery, Routing, gotMarker, WebhookOp.effect]
        rw [appended]
        apply wp_plain rfl (by simp) (fun _ failed => failed)
        intro _ _
        exact .inr rfl

/-- After the callback the workflows to trigger are different. -/
def Routable (routing : Option RoutingState) (g : DeliveryStage) : Prop :=
  routing.elim (Failed g) fun routing => routing.workflowMatches.Nodup ∧ Appended g

theorem dropMessage_follows (decision : ChannelSecurityDecision) :
    (dropMessage decision).wp deliveryProtocol Routable (Routing []) := by
  apply wp_plain rfl (by simp) (fun _ failed => failed)
  intro _ _
  apply wp_plain rfl (by simp) (fun _ failed => failed)
  intro _ _
  exact ⟨List.nodup_nil, .inl rfl⟩

theorem acceptMessage_follows (account : ChannelAccount) :
    (acceptMessage account).wp deliveryProtocol Routable (Routing []) := by
  apply wp_plain rfl (by simp) (fun _ failed => failed)
  intro _ _
  apply wp_plain rfl (by simp) (fun _ failed => failed)
  intro conversation _
  refine wp_orThrow (routeToSession_follows account conversation) (fun _ failed => failed) ?_
  intro route g appended
  have rest {tried : List Effect} (still : Appended (Routing tried)) :
      (attempt .listWorkflows fun workflowMatches =>
        attempt (.appendChannelEvent "channel.message.accepted") fun _ =>
        .done (some { accepted := true, reason := "accepted", sessionRoute := route,
                      workflowMatches })).wp deliveryProtocol Routable (Routing tried) := by
    apply wp_plain rfl (by simp) (fun _ failed => failed)
    intro workflows different
    apply wp_plain rfl (by simp) (fun _ failed => failed)
    intro _ _
    exact ⟨different workflows rfl, still⟩
  rcases appended with rfl | rfl
  · exact rest (.inl rfl)
  · exact rest (.inr rfl)

theorem routeMessage_follows (account : ChannelAccount) :
    (routeMessage account).wp deliveryProtocol Routable (Routing []) := by
  apply wp_plain rfl (by simp) (fun _ failed => failed)
  intro decision _
  split
  · exact acceptMessage_follows account
  split
  · apply wp_plain rfl (by simp) (fun _ failed => failed)
    intro _ _
    exact dropMessage_follows decision
  · exact dropMessage_follows decision

/-- The routing is committed and none of it is left to be tried again. -/
def Committed (routing : Option RoutingState) (g : DeliveryStage) : Prop :=
  routing.elim (g.acquired = true ∧ g.threw = true) fun routing =>
    routing.workflowMatches.Nodup ∧ g.acquired = true ∧ g.routed = true ∧
      .sessionSend ∉ g.tried ∧ ∀ workflowId, .trigger workflowId ∉ g.tried

theorem inTransaction_follows (account : ChannelAccount) :
    (inTransaction (routeMessage account)).wp deliveryProtocol Committed (Routing []) := by
  have body : (attempt .begin fun _ => orThrow (routeMessage account) fun value =>
      attempt .commit fun _ => .done (some value)).wp deliveryProtocol
        (fun routing g => routing.elim (g.acquired = true ∧ g.threw = true) fun _ =>
          Committed routing g) (Routing []) := by
    apply wp_plain rfl (by simp) (fun _ failed => ⟨failed.1, failed.2.2⟩)
    intro _ _
    refine wp_orThrow (routeMessage_follows account) (fun _ failed => ⟨failed.1, failed.2.2⟩) ?_
    rintro routing g ⟨different, appended⟩
    have rest {tried : List Effect} (few : tried = [] ∨ tried = [.userMessage]) :
        (attempt .commit fun _ => .done (some routing)).wp deliveryProtocol
          (fun routing g => routing.elim (g.acquired = true ∧ g.threw = true) fun _ =>
            Committed routing g) (Routing tried) := by
      have failed : Failed (observeDelivery (Routing tried) .commit none) := failed_of_throw .commit
      refine wp_attempt ⟨by simp, ?_⟩ ⟨failed.1, failed.2.2⟩ fun _ _ => ?_
      · rintro e ⟨⟩
        refine ⟨rfl, ?_⟩
        rcases few with rfl | rfl <;> simp [Routing]
      · refine ⟨different, rfl, rfl, ?_, ?_⟩
        · rcases few with rfl | rfl <;> simp [observeDelivery, Routing, WebhookOp.effect]
        · intro workflowId
          rcases few with rfl | rfl <;> simp [observeDelivery, Routing, WebhookOp.effect]
    rcases appended with rfl | rfl
    · exact rest (.inl rfl)
    · exact rest (.inr rfl)
  refine Program.wp_seq body fun routing g holds => ?_
  cases routing with
  | some routing => exact holds
  | none =>
    refine ⟨⟨by simp, by simp [WebhookOp.effect]⟩, fun reply _ => ?_⟩
    change (g.acquired || _) = true ∧ (g.threw || _) = true
    rw [holds.1, holds.2]
    exact ⟨rfl, rfl⟩

/-- What is known when a delivery ends. -/
def Ended (g : DeliveryStage) : Prop := g.acquired = true → g.routed = true ∨ g.threw = true

theorem triggerWorkflows_follows {workflows : List String} (different : workflows.Nodup)
    (acquired : g.acquired = true) (routed : g.routed = true)
    (untried : ∀ workflowId ∈ workflows, .trigger workflowId ∉ g.tried) :
    (triggerWorkflows workflows).wp deliveryProtocol (fun _ g => g.routed = true) g := by
  induction workflows generalizing g with
  | nil => exact routed
  | cons workflowId rest ih =>
    refine ⟨⟨by simp, ?_⟩, fun reply _ => ?_⟩
    · rintro e ⟨⟩
      exact ⟨acquired, untried workflowId List.mem_cons_self⟩
    · have later : (triggerWorkflows rest).wp deliveryProtocol (fun _ g => g.routed = true)
          (observeDelivery g (.postInternalTrigger workflowId) reply) := by
        apply ih different.of_cons
        · simp [observeDelivery, acquired]
        · simp [observeDelivery, routed]
        · intro other mem tried
          rcases List.mem_append.mp tried with old | new
          · exact untried other (List.mem_cons_of_mem _ mem) old
          · obtain ⟨⟩ := List.mem_singleton.mp new
            exact (List.nodup_cons.mp different).1 mem
      exact Program.wp_seq later fun _ _ routed => routed

theorem afterRouting_follows {routing : RoutingState} (committed : Committed (some routing) g) :
    (afterRouting routing).wp deliveryProtocol (fun _ g => Ended g) g := by
  obtain ⟨different, acquired, routed, unsent, untriggered⟩ := committed
  have rest {g : DeliveryStage} (acquired : g.acquired = true) (routed : g.routed = true)
      (untriggered : ∀ workflowId, .trigger workflowId ∉ g.tried) :
      ((triggerWorkflows routing.workflowMatches).bind fun successes =>
        attempt (.appendChannelEvent "channel.workflow.triggered") fun _ =>
        .done (some ({ accepted := true, reason := "accepted"
                       sessionRouted := routing.sessionRoute.isSome
                       workflowsTriggered := successes } : ChannelWebhookResult))).wp deliveryProtocol
        (fun _ g => Ended g) g := by
    refine Program.wp_seq (triggerWorkflows_follows different acquired routed
      fun workflowId _ => untriggered workflowId) fun successes g routed => ?_
    have still (reply : Option Unit) :
        Ended (observeDelivery g (.appendChannelEvent "channel.workflow.triggered") reply) := by
      intro _
      simp [observeDelivery, routed]
    exact wp_attempt ⟨by simp, by simp [WebhookOp.effect]⟩ (still none) fun _ _ => still _
  unfold afterRouting
  split
  · exact fun _ => .inl routed
  · have sent : (sendToSession routing.sessionRoute).wp deliveryProtocol (fun _ g =>
        g.acquired = true ∧ g.routed = true ∧ ∀ workflowId, .trigger workflowId ∉ g.tried) g := by
      unfold sendToSession
      split
      · exact ⟨acquired, routed, untriggered⟩
      · next route _ =>
        have still (reply : Option Unit) :
            let after := observeDelivery g (.xaddSessionSend route) reply
            after.acquired = true ∧ after.routed = true ∧
              ∀ workflowId, .trigger workflowId ∉ after.tried := by
          refine ⟨by simp [observeDelivery, acquired], by simp [observeDelivery, routed], ?_⟩
          intro workflowId tried
          rcases List.mem_append.mp tried with old | new
          · exact untriggered workflowId old
          · cases List.mem_singleton.mp new
        refine wp_attempt ⟨by simp, ?_⟩ (still none) fun _ _ => still _
        rintro e ⟨⟩
        exact ⟨acquired, unsent⟩
    refine wp_orThrow sent (fun _ holds _ => .inl holds.2.1) ?_
    rintro - g ⟨acquired, routed, untriggered⟩
    exact rest acquired routed untriggered

theorem handleWebhook_follows :
    handleWebhook.wp deliveryProtocol (fun _ g => Ended g) .initial := by
  have unheld (op : WebhookOp) (other : op ≠ .acquireMarker) (reply : Option op.Answer) :
      (observeDelivery .initial op reply).acquired = false := by
    unfold observeDelivery gotMarker
    split
    · exact absurd rfl other
    · rfl
  have never {g : DeliveryStage} (unheld : g.acquired = false) : Ended g := by
    intro acquired
    rw [unheld] at acquired
    cases acquired
  have invalid (g : DeliveryStage) (g_unheld : g.acquired = false) (routed : g.routed = false)
      (reason : String) :
      (attempt (.appendChannelEvent "channel.signature.invalid") fun _ =>
        .done (some (refused reason false))).wp deliveryProtocol (fun _ g => Ended g) g := by
    have still (reply : Option Unit) :
        Ended (observeDelivery g (.appendChannelEvent "channel.signature.invalid") reply) :=
      never (by simp [observeDelivery, gotMarker, g_unheld])
    exact wp_attempt ⟨by simp, by simp [WebhookOp.effect]⟩ (still none) fun _ _ => still _
  unfold handleWebhook
  refine wp_attempt ⟨by simp, by simp [WebhookOp.effect]⟩ (never rfl) fun account _ => ?_
  have initial : observeDelivery .initial .findAccount (some account) = .initial := rfl
  rw [initial]
  cases account with
  | none => exact never rfl
  | some account =>
    dsimp only
    split
    · exact never rfl
    split
    · exact invalid _ rfl rfl _
    split
    · exact invalid _ rfl rfl _
    split
    · exact never rfl
    · refine wp_attempt ⟨fun _ => rfl, by simp [WebhookOp.effect]⟩ (never rfl) fun acquired _ => ?_
      cases acquired with
      | false => exact never rfl
      | true =>
        have routing : observeDelivery .initial .acquireMarker (some true) = Routing [] := rfl
        rw [routing]
        exact wp_orThrow (inTransaction_follows account) (fun g failed _ => .inr failed.2)
          fun _ g committed => afterRouting_follows committed

end follows

/-! ### Any number of deliveries -/

theorem performWebhook_other {op : WebhookOp} {st st' : WebhookStore} {choice : WebhookChoice}
    {reply : Option op.Answer} (other : op ≠ .acquireMarker)
    (performed : performWebhook op st choice = some (reply, st')) :
    reply = choice.answer op ∧ st' = { st with effects :=
      if (choice.answer op).isSome || choice.took then st.effects ++ op.effect.toList
      else st.effects } := by
  unfold performWebhook at performed
  split at performed
  · exact absurd rfl other
  · dsimp only at performed
    split at performed
    · obtain ⟨rfl, rfl⟩ := Prod.mk.inj (Option.some.inj performed)
      refine ⟨rfl, ?_⟩
      simp [WebhookOp.effect]
    · cases performed
  · split at performed <;>
      obtain ⟨rfl, rfl⟩ := Prod.mk.inj (Option.some.inj performed) <;> simp [*]

def webhookCertified : Certified webhookSystem deliveryProtocol where
  start _ := .initial
  looping _ loop _ := nomatch loop
  ended _ _ g := Ended g
  entry_follows _ := Program.wp_seq handleWebhook_follows fun _ _ ended => ended
  body_follows _ loop := nomatch loop
  replies op st choice reply st' performed := by
    cases op <;> try trivial
    obtain ⟨rfl, -⟩ := @performWebhook_other .listWorkflows _ _ _ _ (by simp) performed
    simp only [webhookSystem, performWebhook] at performed
    split at performed
    · next different =>
      rintro workflows same
      simpa using (Option.all_eq_true _ _).mp different workflows same
    · cases performed

/-- A delivery comes while the marker of an earlier one is still kept, setting the marker does not
throw after it took effect, and nothing throws between the marker and the commit of the routing. -/
def MeetsDelivery (st : WebhookStore) (g : DeliveryStage) (op : WebhookOp)
    (choice : WebhookChoice) : Prop :=
  (op = .acquireMarker → (st.markedAt.isSome → st.marked) ∧
    ((choice.answer op).isNone → choice.took = false)) ∧
  (g.acquired = true → g.routed = false → (choice.answer op).isSome)

instance {st : WebhookStore} {g : DeliveryStage} {op : WebhookOp} {choice : WebhookChoice} :
    Decidable (MeetsDelivery st g op choice) := inferInstanceAs (Decidable (_ ∧ _))

def Unbroken (s : webhookSystem.State) : webhookSystem.Action → Prop
  | .call id choice => ∀ q ∈ webhookCertified.issued s (.call id choice),
    MeetsDelivery s.store q.1 q.2 choice
  | _ => True

instance (s : webhookSystem.State) : ∀ a, Decidable (Unbroken s a)
  | .call id choice => inferInstanceAs (Decidable
      (∀ q ∈ webhookCertified.issued s (.call id choice), MeetsDelivery s.store q.1 q.2 choice))
  | .launch .. | .loop _ | .finish _ | .tick _ => isTrue trivial

def HasMarker (q : Unit × DeliveryStage) : Prop := q.2.acquired = true

/-- What the delivery that has the marker has left so far. -/
structure Delivering (st : WebhookStore) (q : Unit × DeliveryStage) : Prop where
  marked : st.markedAt.isSome
  tried : st.effects.Sublist q.2.tried
  once : q.2.tried.Nodup
  routed : q.2.routed = true → .committed ∈ st.effects
  whole : q.2.threw = false

/-- Between deliveries the message is unmarked or routed. -/
structure Delivered (st : WebhookStore) : Prop where
  once : st.effects.Nodup
  settled : (st.markedAt = none ∧ st.effects = []) ∨
    (st.markedAt.isSome ∧ .committed ∈ st.effects)

/-- One delivery at a time has the marker, and the others have done nothing. -/
structure DeliveryInv (st : WebhookStore) (crew : Nat → Option (Unit × DeliveryStage)) : Prop where
  exclusive : Exclusive HasMarker (Delivering st) (Delivered st) crew
  others : ∀ i q, crew i = some q → q.2.acquired = false → q.2 = .initial

section step
variable {st st' : WebhookStore} {crew : Nat → Option (Unit × DeliveryStage)} {id : Nat}
  {l : Unit} {g : DeliveryStage} {op : WebhookOp} {choice : WebhookChoice}

theorem others_update (inv : DeliveryInv st crew) {new : Option (Unit × DeliveryStage)}
    (now : ∀ q, new = some q → q.2.acquired = false → q.2 = .initial) (i : Nat)
    (q : Unit × DeliveryStage) (there : Function.update crew id new i = some q)
    (free : q.2.acquired = false) : q.2 = .initial := by
  rcases update_cases there with ⟨-, same⟩ | ⟨-, there⟩
  · exact now q same free
  · exact inv.others i q there free

theorem not_holds {g : DeliveryStage} (free : g.acquired = false) (new : Option (Unit × DeliveryStage))
    (is : new = some (l, g)) : ∀ r, new = some r → ¬HasMarker r := by
  rintro r rfl has
  cases is
  simp [HasMarker, free] at has

/-- A delivery without the marker that stays without it. -/
theorem deliveryInv_stand (inv : DeliveryInv st crew)
    (free : ∀ q, crew id = some q → ¬HasMarker q) {new : Option (Unit × DeliveryStage)}
    (still : ∀ q, new = some q → q.2 = .initial) :
    DeliveryInv st (Function.update crew id new) := by
  refine ⟨inv.exclusive.stand free ?_ (fun _ hand => hand) fun _ unheld => unheld,
    others_update inv fun q is _ => still q is⟩
  intro q is has
  simp [HasMarker, still q is, DeliveryStage.initial] at has

/-- The marker is set when the message had none. -/
theorem deliveryInv_acquire (inv : DeliveryInv st crew) (here : crew id = some (l, g))
    (permitted : permitsDelivery g .acquireMarker) (meets : MeetsDelivery st g .acquireMarker choice)
    {reply : Option Bool}
    (performed : performWebhook .acquireMarker st choice = some (reply, st')) :
    DeliveryInv st' (Function.update crew id (some (l, observeDelivery g .acquireMarker reply))) := by
  have free : g.acquired = false := permitted.1 rfl
  obtain rfl : g = .initial := inv.others id _ here free
  obtain ⟨timely, clean⟩ := meets.1 rfl
  have stays (untaken : observeDelivery .initial .acquireMarker reply = .initial) (same : st' = st) :
      DeliveryInv st'
        (Function.update crew id (some (l, observeDelivery .initial .acquireMarker reply))) := by
    subst same
    exact deliveryInv_stand inv (not_holds free _ here) (by rintro q ⟨⟩; exact untaken)
  simp only [performWebhook] at performed
  split at performed
  · next thrown =>
    obtain ⟨rfl, same⟩ := Prod.mk.inj (Option.some.inj performed)
    have untook : choice.took = false := clean (by simp [thrown])
    exact stays rfl (by simpa [untook] using same.symm)
  · obtain ⟨rfl, same⟩ := Prod.mk.inj (Option.some.inj performed)
    rcases Bool.eq_false_or_eq_true st.marked with marked | marked
    · rw [marked] at same
      exact stays (by rw [marked]; rfl) same.symm
    · have unmarked : st.markedAt = none := by
        cases at_ : st.markedAt with
        | none => rfl
        | some t =>
          have live := timely (by simp [at_])
          rw [marked] at live
          cases live
      have nobody : NoneHolds HasMarker crew := by
        intro i q there has
        have set := (inv.exclusive.held i q there has).marked
        simp [unmarked] at set
      have clean : st.effects = [] := by
        rcases (inv.exclusive.unheld nobody).settled with ⟨-, none_⟩ | ⟨set, -⟩
        · exact none_
        · simp [unmarked] at set
      rw [marked] at same ⊢
      obtain rfl : st.mark = st' := same
      refine ⟨Exclusive.take nobody rfl ⟨rfl, by simp [WebhookStore.mark, clean],
        List.nodup_nil, by simp [observeDelivery, DeliveryStage.initial], rfl⟩,
        others_update inv ?_⟩
      rintro q ⟨⟩ unheld
      cases unheld

theorem deliveryInv_other (inv : DeliveryInv st crew) (here : crew id = some (l, g))
    (other : op ≠ .acquireMarker) (permitted : permitsDelivery g op)
    (meets : MeetsDelivery st g op choice) {reply : Option op.Answer}
    (performed : performWebhook op st choice = some (reply, st')) :
    DeliveryInv st' (Function.update crew id (some (l, observeDelivery g op reply))) := by
  obtain ⟨rfl, rfl⟩ := performWebhook_other other performed
  have unasked (reply : Option op.Answer) : gotMarker op reply = false := by
    unfold gotMarker
    split
    · exact absurd rfl other
    · rfl
  cases has : g.acquired with
  | false =>
    obtain rfl : g = .initial := inv.others id _ here has
    have plain : op.effect = none := by
      cases effect : op.effect with
      | none => rfl
      | some e =>
        have held := (permitted.2 e effect).1
        cases held
    have commits : op ≠ .commit := by
      rintro rfl
      cases plain
    have same : ({ st with effects := if (choice.answer op).isSome || choice.took
        then st.effects ++ op.effect.toList else st.effects } : WebhookStore) = st := by
      simp [plain]
    rw [same]
    refine deliveryInv_stand inv (not_holds has _ here) ?_
    rintro q ⟨⟩
    simp [observeDelivery, unasked, plain, commits, DeliveryStage.initial]
  | true =>
    obtain ⟨marked, tried, once, routed, whole⟩ := inv.exclusive.held id _ here has
    refine ⟨inv.exclusive.pass here has (by simp [HasMarker, observeDelivery, has])
      ⟨marked, ?_, ?_, ?_, ?_⟩, others_update inv ?_⟩
    · dsimp only [observeDelivery]
      split
      · exact tried.append_right _
      · exact tried.trans (List.sublist_append_left _ _)
    · refine List.nodup_append.mpr ⟨once, ?_, ?_⟩
      · cases op.effect with
        | none => exact List.nodup_nil
        | some e => simp
      · intro e old e' new
        have effect : op.effect = some e' := by simpa using new
        rintro rfl
        exact (permitted.2 e effect).2 old
    · intro done
      have cases_ : g.routed = true ∨ (op = .commit ∧ (choice.answer op).isSome) := by
        simpa [observeDelivery] using done
      rcases cases_ with before | ⟨rfl, answered⟩
      · have there := routed before
        dsimp only
        split
        · exact List.mem_append_left _ there
        · exact there
      · simp [answered, WebhookOp.effect]
    · have whole : g.threw = false := whole
      cases done : g.routed with
      | true => simp [observeDelivery, whole, done]
      | false =>
        have answered := meets.2 has done
        simp [observeDelivery, whole, has, done, answered]
    · rintro q ⟨⟩ unheld
      simp [observeDelivery, has] at unheld

theorem deliveryInv_finish (inv : DeliveryInv st crew) (here : crew id = some (l, g))
    (ended : Ended g) : DeliveryInv st (Function.update crew id none) := by
  cases has : g.acquired with
  | false => exact deliveryInv_stand inv (not_holds has _ here) nofun
  | true =>
    obtain ⟨marked, tried, once, routed, whole⟩ := inv.exclusive.held id _ here has
    have committed : .committed ∈ st.effects := by
      rcases ended has with done | thrown
      · exact routed done
      · rw [whole] at thrown
        cases thrown
    exact ⟨inv.exclusive.release here has nofun ⟨tried.nodup once, .inr ⟨marked, committed⟩⟩,
      others_update inv nofun⟩

/-- Time passes. -/
theorem deliveryInv_wait (inv : DeliveryInv st crew) (seconds : Nat) :
    DeliveryInv { st with now := st.now + seconds } crew := by
  refine ⟨⟨?_, inv.exclusive.single, ?_⟩, inv.others⟩
  · intro i q there has
    obtain ⟨marked, tried, once, routed, whole⟩ := inv.exclusive.held i q there has
    exact ⟨marked, tried, once, routed, whole⟩
  · intro nobody
    obtain ⟨once, settled⟩ := inv.exclusive.unheld nobody
    exact ⟨once, settled⟩

end step

theorem deliveryInv_step {s t : webhookSystem.State} {a : webhookSystem.Action}
    (all : webhookCertified.AllFollow s) (inv : DeliveryInv s.store (webhookCertified.crew s))
    (unbroken : Unbroken s a) (stepped : System.Stepped s a t) :
    DeliveryInv t.store (webhookCertified.crew t) := by
  have happened := Certified.happened all stepped
  generalize webhookCertified.crew t = crew at happened ⊢
  generalize t.store = store at happened ⊢
  cases happened with
  | launch free launched =>
    obtain rfl := Option.some.inj launched
    refine deliveryInv_stand inv ?_ ?_
    · intro q there
      rw [free] at there
      cases there
    · rintro q ⟨⟩
      rfl
  | @call id choice l g op reply store here issues permitted performed =>
    have meets : MeetsDelivery s.store g op choice := unbroken (g, op) issues
    by_cases acquires : op = .acquireMarker
    · subst acquires
      exact deliveryInv_acquire inv here permitted meets performed
    · exact deliveryInv_other inv here acquires permitted meets performed
  | loop => exact inv
  | finish here ended => exact deliveryInv_finish inv here ended
  | tick ticked =>
    obtain rfl := Option.some.inj ticked
    exact deliveryInv_wait inv _

theorem deliveryInv_run {s : webhookSystem.State} (run : System.Steps Unbroken undelivered s) :
    DeliveryInv s.store (webhookCertified.crew s) := by
  refine (webhookCertified.invariant
    (fun s => DeliveryInv s.store (webhookCertified.crew s)) (fun _ => rfl) ?_
    (fun _ _ _ all inv unbroken stepped => deliveryInv_step all inv unbroken stepped) run).2
  exact ⟨⟨nofun, nofun, fun _ => ⟨List.nodup_nil, .inl ⟨rfl, rfl⟩⟩⟩, nofun⟩

/-- The message is routed at most once, and where no delivery has committed its routing the next
one gets the marker. -/
theorem webhook_routed_once {s : webhookSystem.State}
    (run : System.Steps Unbroken undelivered s) :
    s.store.effects.Nodup ∧
      ((∀ id, s.process id = none) → .committed ∉ s.store.effects → ∀ choice : WebhookChoice,
        (choice.answer .acquireMarker).isSome →
          performWebhook .acquireMarker s.store choice = some (some true, s.store.mark)) := by
  have inv := deliveryInv_run run
  refine ⟨?_, ?_⟩
  · by_cases nobody : NoneHolds HasMarker (webhookCertified.crew s)
    · exact (inv.exclusive.unheld nobody).once
    · simp only [NoneHolds, not_forall, not_not] at nobody
      obtain ⟨id, q, there, has⟩ := nobody
      have hand := inv.exclusive.held id q there has
      exact hand.tried.nodup hand.once
  · intro idle unrouted choice answers
    have nobody : NoneHolds HasMarker (webhookCertified.crew s) := by
      intro id q there
      simp [Certified.crew, idle id] at there
    have unmarked : s.store.markedAt = none := by
      rcases (inv.exclusive.unheld nobody).settled with ⟨none_, -⟩ | ⟨-, committed⟩
      · exact none_
      · exact absurd committed unrouted
    obtain ⟨answer, answered⟩ := Option.isSome_iff_exists.mp answers
    simp [performWebhook, answered, WebhookStore.marked, unmarked]

/-! ### A delivery that fails -/

namespace Sample

def account : ChannelAccount :=
  { enabled := true, authFailure := none, signatureValid := true, normalizes := true
    sessionBridgeEnabled := false, defaultSessionId := none }

/-- Everything is answered and the message is accepted. -/
def answer : (op : WebhookOp) → Option op.Answer
  | .findAccount => some (some account)
  | .acquireMarker => some true
  | .listAllowlistEntries => some { accepted := true, requiresPairing := false, reason := "" }
  | .upsertChannelConversation _ => some none
  | .getAgentSessionById _ => some false
  | .appendUserMessage _ => some 0
  | .listWorkflows => some []
  | .begin | .createPairingRequest | .createChannelMessage _ | .appendChannelEvent _ | .commit
  | .rollback | .xaddSessionSend _ | .postInternalTrigger _ => some ()

def answers : WebhookChoice := { answer, took := false }

def throws : WebhookChoice := { answer := fun _ => none, took := false }

/-- The first delivery does not find the account for a failure; the second one is routed. -/
def secondTry : List webhookSystem.Action :=
  [.launch 0 (), .call 0 throws, .finish 0, .launch 0 ()] ++ List.replicate 10 (.call 0 answers) ++
    [.finish 0]

/-- The delivery fails between the marker and its commit. -/
def marksOnly : List webhookSystem.Action :=
  [.launch 0 (), .call 0 answers, .call 0 answers, .call 0 throws, .call 0 answers, .finish 0]

end Sample

theorem webhook_routed_once_second_try : ∃ s : webhookSystem.State,
    s.store.effects = [.committed] ∧ s.store.effects.Nodup := by
  have ran : (System.exec Unbroken undelivered Sample.secondTry).map (·.store.effects) =
      some [.committed] := by decide +kernel
  obtain ⟨s, run, effects⟩ := Option.map_eq_some_iff.mp ran
  exact ⟨s, effects, (webhook_routed_once (System.steps_of_exec run)).1⟩

/-- A delivery that fails before its commit leaves the message marked as a duplicate. -/
theorem webhook_lost : ¬∀ s : webhookSystem.State,
    System.Steps (fun _ _ => True) undelivered s → (∀ id, s.process id = none) →
    .committed ∉ s.store.effects → ∀ choice : WebhookChoice,
      (choice.answer .acquireMarker).isSome →
        performWebhook .acquireMarker s.store choice = some (some true, s.store.mark) := by
  intro redelivered
  have ran : (System.exec (fun _ _ => True) undelivered Sample.marksOnly).any (fun s =>
      s.store.effects = [] && s.store.marked && (s.process 0).isNone) := by decide +kernel
  obtain ⟨s, run, facts⟩ := (Option.any_eq_true _ _).mp ran
  simp only [Bool.and_eq_true, decide_eq_true_eq, Option.isNone_iff_eq_none] at facts
  obtain ⟨⟨effects, marked⟩, ended⟩ := facts
  have idle := System.idle_of_exec 1 (fun _ => rfl) (by decide) run (by simpa using ended)
  have gets := redelivered s (System.steps_of_exec run) idle (by simp [effects]) Sample.answers rfl
  simp [performWebhook, Sample.answers, Sample.answer, marked] at gets

end Vespid.Channels
