import Vespid.Lib.System

/-!
# Noninterference by unwinding

Some handlers of a system are hidden from an observer. Two histories that agree on everything
else look alike if no hidden step changes what is seen and every other step finds and leaves the
same.
-/

namespace Interleaving

variable {I : Interface}

/-- What is hidden from an observer, and what a handler of a launch relies on and issues. -/
structure Hiding (S : System I) where
  hidden : S.Launch → Prop
  hiddenTick : S.Tick → S.Store → Prop
  fine : S.Launch → S.Store → Prop
  allowed : S.Launch → I.Op → Prop

namespace Hiding
variable {S : System I} (A : Hiding S)

/-- The action is one of a hidden handler. -/
def Hides (s : S.State) : S.Action → Prop
  | .launch _ l => A.hidden l
  | .call id _ | .loop id | .finish id => ∃ p ∈ s.process id, A.hidden p.launch
  | .tick t => A.hiddenTick t s.store

/-- The ends of two histories from `start` that differ in hidden actions only. -/
inductive Alike (C : S.State → S.Action → Prop) (start : S.State) : S.State → S.State → Prop where
  | start : Alike C start start start
  | both {s s' t t' : S.State} {a : S.Action} (before : Alike C start s s') (meets : C s a)
      (meets' : C s' a) (shown : ¬A.Hides s a) (shown' : ¬A.Hides s' a)
      (stepped : System.step s a = some t) (stepped' : System.step s' a = some t') :
      Alike C start t t'
  | left {s s' t : S.State} {a : S.Action} (before : Alike C start s s') (meets : C s a)
      (hides : A.Hides s a) (stepped : System.step s a = some t) : Alike C start t s'
  | right {s s' t' : S.State} {a : S.Action} (before : Alike C start s s') (meets : C s' a)
      (hides : A.Hides s' a) (stepped : System.step s' a = some t') : Alike C start s t'

/-- No hidden step changes what is low, and the others keep it alike. -/
structure Unwinding (C : S.State → S.Action → Prop) (Low : S.Store → S.Store → Prop) : Prop where
  symm : ∀ {st st'}, Low st st' → Low st' st
  entry : ∀ l, (S.entry l).Only (A.allowed l)
  body : ∀ l loop, (S.body l loop).Only (A.allowed l)
  fine : ∀ {s id l st' u}, C s (.launch id l) → Low s.store st' → S.launch l s.store = some u →
    A.fine l u
  stable : ∀ {s a t l}, System.Stepped s a t → A.fine l s.store → A.fine l t.store
  launch_hidden : ∀ {s id l st' u}, C s (.launch id l) → Low s.store st' → A.hidden l →
    S.launch l s.store = some u → Low u st'
  launch_both : ∀ {s s' id l u u'}, C s (.launch id l) → C s' (.launch id l) →
    Low s.store s'.store → ¬A.hidden l → S.launch l s.store = some u →
      S.launch l s'.store = some u' → Low u u'
  call_hidden : ∀ {l op st st' choice reply u}, Low st st' → A.hidden l → A.fine l st →
    A.allowed l op → S.perform op st choice = some (reply, u) → Low u st'
  call_both : ∀ {l op st st' choice reply reply' u u'}, Low st st' → ¬A.hidden l → A.fine l st →
    A.fine l st' → A.allowed l op → S.perform op st choice = some (reply, u) →
      S.perform op st' choice = some (reply', u') → reply = reply' ∧ Low u u'
  finish_hidden : ∀ {l outcome st st'}, Low st st' → A.hidden l → Low (S.finish l outcome st) st'
  finish_both : ∀ {l outcome st st'}, Low st st' →
    Low (S.finish l outcome st) (S.finish l outcome st')
  tick_hidden : ∀ {t st st' u}, Low st st' → A.hiddenTick t st → S.tick t st = some u → Low u st'
  tick_both : ∀ {t st st' u u'}, Low st st' → ¬A.hiddenTick t st → ¬A.hiddenTick t st' →
    S.tick t st = some u → S.tick t st' = some u' → Low u u'

/-- Every handler has what it relies on and keeps to its operations. -/
def AllHeld (s : S.State) : Prop :=
  ∀ id p, s.process id = some p → A.fine p.launch s.store ∧ p.program.Only (A.allowed p.launch)

/-- A handler that is not hidden stands in the other history too. -/
def Seen (s s' : S.State) : Prop :=
  ∀ id p, s.process id = some p → ¬A.hidden p.launch → s'.process id = some p

variable {A} {C : S.State → S.Action → Prop} {Low : S.Store → S.Store → Prop} {s s' t t' : S.State}

section steps
variable {st st' : S.Store} {id : Nat} {p : Option S.Process}

theorem allHeld_update (all : A.AllHeld s)
    (stable : ∀ l, A.fine l s.store → A.fine l st)
    (after : ∀ q, p = some q → A.fine q.launch st ∧ q.program.Only (A.allowed q.launch)) :
    A.AllHeld (s.update st id p) := by
  intro i q here
  by_cases same : i = id
  · subst same
    rw [System.State.update_process_self] at here
    exact after q here
  · rw [System.State.update_process_other _ _ _ same] at here
    obtain ⟨fine, only⟩ := all i q here
    exact ⟨stable _ fine, only⟩

theorem allHeld_step (un : A.Unwinding C Low) (all : A.AllHeld s) {low : S.Store}
    (alike : Low s.store low) {a : S.Action} (meets : C s a) (stepped : System.Stepped s a t) :
    A.AllHeld t := by
  have stable l : A.fine l s.store → A.fine l t.store := un.stable stepped
  cases stepped with
  | launch free launched =>
    refine allHeld_update all stable ?_
    rintro q ⟨⟩
    exact ⟨un.fine meets alike launched, un.entry _⟩
  | call here performed =>
    refine allHeld_update all stable ?_
    rintro q ⟨⟩
    obtain ⟨fine, only⟩ := all _ _ here
    exact ⟨stable _ fine, only.2 _⟩
  | loop here =>
    refine allHeld_update all stable ?_
    rintro q ⟨⟩
    exact ⟨(all _ _ here).1, un.body _ _⟩
  | finish here =>
    refine allHeld_update all stable ?_
    rintro q ⟨⟩
  | tick ticked =>
    intro i q here
    obtain ⟨fine, only⟩ := all i q here
    exact ⟨stable _ fine, only⟩

/-- One side moves on where the other has nothing to be seen. -/
theorem seen_left (seen : A.Seen s s') (seen' : A.Seen s' s)
    (before : ∀ q, s.process id = some q → A.hidden q.launch)
    (after : ∀ q, p = some q → A.hidden q.launch) :
    A.Seen (s.update st id p) s' ∧ A.Seen s' (s.update st id p) := by
  refine ⟨fun i q here shown => ?_, fun i q here shown => ?_⟩
  · by_cases same : i = id
    · subst same
      rw [System.State.update_process_self] at here
      exact absurd (after q here) shown
    · rw [System.State.update_process_other _ _ _ same] at here
      exact seen i q here shown
  · have there := seen' i q here shown
    by_cases same : i = id
    · subst same
      exact absurd (before q there) shown
    · rwa [System.State.update_process_other _ _ _ same]

/-- Both sides move on alike. -/
theorem seen_both (seen : A.Seen s s') : A.Seen (s.update st id p) (s'.update st' id p) := by
  intro i q here shown
  by_cases same : i = id
  · subst same
    rw [System.State.update_process_self] at here ⊢
    exact here
  · rw [System.State.update_process_other _ _ _ same] at here ⊢
    exact seen i q here shown

end steps

/-- What two histories keep. -/
structure Kept (A : Hiding S) (Low : S.Store → S.Store → Prop) (s s' : S.State) : Prop where
  low : Low s.store s'.store
  seen : A.Seen s s'
  seen' : A.Seen s' s
  held : A.AllHeld s
  held' : A.AllHeld s'

theorem Kept.symm (un : A.Unwinding C Low) (kept : Kept A Low s s') : Kept A Low s' s :=
  ⟨un.symm kept.low, kept.seen', kept.seen, kept.held', kept.held⟩

theorem kept_left (un : A.Unwinding C Low) (kept : Kept A Low s s') {a : S.Action} (meets : C s a)
    (hides : A.Hides s a) (stepped : System.Stepped s a t) : Kept A Low t s' := by
  obtain ⟨low, seen, seen', held, held'⟩ := kept
  have still := allHeld_step un held low meets stepped
  -- the step's own handler, before and after it, is hidden
  have leave {store : S.Store} {id : Nat} {p : Option S.Process} (is : t = s.update store id p)
      (now : Low store s'.store) (before : ∀ q, s.process id = some q → A.hidden q.launch)
      (after : ∀ q, p = some q → A.hidden q.launch) : Kept A Low t s' := by
    subst is
    obtain ⟨left, right⟩ := seen_left seen seen' before after
    exact ⟨now, left, right, still, held'⟩
  cases stepped with
  | launch free launched =>
    refine leave rfl (un.launch_hidden meets low hides launched) ?_ ?_
    · intro q here
      rw [free] at here
      cases here
    · rintro q ⟨⟩
      exact hides
  | call here performed =>
    obtain ⟨q, there, hidden⟩ := hides
    obtain rfl := Option.some.inj (here.symm.trans there)
    obtain ⟨fine, only⟩ := held _ _ here
    refine leave rfl (un.call_hidden low hidden fine only.1 performed) ?_ ?_
    · intro q is
      rw [here] at is
      cases is
      exact hidden
    · rintro q ⟨⟩
      exact hidden
  | loop here =>
    obtain ⟨q, there, hidden⟩ := hides
    obtain rfl := Option.some.inj (here.symm.trans there)
    refine leave rfl low ?_ ?_
    · intro q is
      rw [here] at is
      cases is
      exact hidden
    · rintro q ⟨⟩
      exact hidden
  | finish here =>
    obtain ⟨q, there, hidden⟩ := hides
    obtain rfl := Option.some.inj (here.symm.trans there)
    refine leave rfl (un.finish_hidden low hidden) ?_ ?_
    · intro q is
      rw [here] at is
      cases is
      exact hidden
    · rintro q ⟨⟩
  | tick ticked => exact ⟨un.tick_hidden low hides ticked, seen, seen', still, held'⟩

theorem kept_both (un : A.Unwinding C Low) (kept : Kept A Low s s') {a : S.Action} (meets : C s a)
    (meets' : C s' a) (shown : ¬A.Hides s a) (shown' : ¬A.Hides s' a)
    (stepped : System.Stepped s a t) (stepped' : System.Stepped s' a t') : Kept A Low t t' := by
  obtain ⟨low, seen, seen', held, held'⟩ := kept
  have still := allHeld_step un held low meets stepped
  have still' := allHeld_step un held' (un.symm low) meets' stepped'
  have alike {id : Nat} {p p' : S.Process} (here : s.process id = some p)
      (here' : s'.process id = some p') (shown : ¬∃ q ∈ s.process id, A.hidden q.launch) :
      ¬A.hidden p.launch ∧ p' = p := by
    have visible : ¬A.hidden p.launch := fun hidden => shown ⟨p, here, hidden⟩
    exact ⟨visible, Option.some.inj (here'.symm.trans (seen id p here visible))⟩
  cases stepped with
  | launch free launched =>
    cases stepped' with
    | launch free' launched' =>
      exact ⟨un.launch_both meets meets' low shown launched launched', seen_both seen,
        seen_both seen', still, still'⟩
  | call here performed =>
    cases stepped' with
    | call here' performed' =>
      obtain ⟨visible, same⟩ := alike here here' shown
      cases same
      obtain ⟨fine, only⟩ := held _ _ here
      obtain ⟨rfl, low⟩ :=
        un.call_both low visible fine (held' _ _ here').1 only.1 performed performed'
      exact ⟨low, seen_both seen, seen_both seen', still, still'⟩
  | loop here =>
    cases stepped' with
    | loop here' =>
      obtain ⟨-, same⟩ := alike here here' shown
      cases same
      exact ⟨low, seen_both seen, seen_both seen', still, still'⟩
  | finish here =>
    cases stepped' with
    | finish here' =>
      obtain ⟨-, same⟩ := alike here here' shown
      cases same
      exact ⟨un.finish_both low, seen_both seen, seen_both seen', still, still'⟩
  | tick ticked =>
    cases stepped' with
    | tick ticked' => exact ⟨un.tick_both low shown shown' ticked ticked', seen, seen', still, still'⟩

theorem Unwinding.kept (un : A.Unwinding C Low) {start : S.State}
    (idle : ∀ id, start.process id = none) (first : Low start.store start.store)
    (alike : A.Alike C start s s') : Kept A Low s s' := by
  have seen : A.Seen start start := fun _ _ here _ => here
  have held : A.AllHeld start := by
    intro id p here
    rw [idle] at here
    cases here
  induction alike with
  | start => exact ⟨first, seen, seen, held, held⟩
  | both _ meets meets' shown shown' stepped stepped' ih =>
    exact kept_both un ih meets meets' shown shown' (System.step_cases stepped)
      (System.step_cases stepped')
  | left _ meets hides stepped ih => exact kept_left un ih meets hides (System.step_cases stepped)
  | right _ meets hides stepped ih =>
    exact (kept_left un (ih.symm un) meets hides (System.step_cases stepped)).symm un

/-- Histories that differ in hidden actions only look alike. -/
theorem Unwinding.low (un : A.Unwinding C Low) {start : S.State}
    (idle : ∀ id, start.process id = none) (first : Low start.store start.store)
    (alike : A.Alike C start s s') : Low s.store s'.store :=
  (un.kept idle first alike).low

/-- A history differs from itself in nothing. -/
theorem alike_self {start : S.State} (run : System.Steps C start s) : A.Alike C start s s := by
  induction run with
  | refl => exact .start
  | @tail t u a _ meets stepped ih =>
    by_cases hides : A.Hides t a
    · exact (ih.left meets hides stepped).right meets hides stepped
    · exact ih.both meets meets hides hides stepped stepped

end Hiding

end Interleaving
