import Vespid.Api.OrgSettings
import Vespid.Lib.Exclusive
import Vespid.Lib.Protocol

/-!
# Two updates of the settings

An update reads the document, merges its body and writes the whole document in another transaction.
-/

namespace Vespid.Api.SettingsUpdates

open Interleaving OrgSettings

/-- The two requests. -/
inductive Which where
  | first | second
  deriving DecidableEq

inductive SettingsOp where
  | getOrganizationSettings
  /-- `seen` is the number of writes before the read. -/
  | updateOrganizationSettings (which : Which) (seen : Nat) (settings : Json)

/-- `none` and `false` are errors of the store; the document comes with the number of writes before
it. -/
abbrev SettingsOp.Reply : SettingsOp → Type
  | getOrganizationSettings => Option (Json × Nat)
  | updateOrganizationSettings _ _ _ => Bool

abbrev SettingsOps : Interface where
  Op := SettingsOp
  Reply := SettingsOp.Reply

abbrev SettingsProgram := Program SettingsOps

abbrev ask (op : SettingsOp) : SettingsProgram op.Reply := Program.issue (I := SettingsOps) op

variable (formats : Formats)

/-- `PUT /v1/orgs/:orgId/settings` with an accepted body: whether it succeeds. -/
def putSettings (which : Which) (body : Body formats) : SettingsProgram Bool := do
  match ← ask .getOrganizationSettings with
  | none => return false
  | some (existing, seen) =>
    let next := merge body (normalizeOrgSettings existing)
    ask (.updateOrganizationSettings which seen next.toJson)

/-- The document, the requests that have written (newest first) or were started, and the answers. -/
structure SettingsStore where
  document : Json
  writes : List Which
  started : List Which
  answers : List (Which × Bool)

/-- Whether a statement works; a write that is lost has taken effect all the same. -/
inductive Luck where
  | fine | fails | lost

def performSettings (st : SettingsStore) (luck : Luck) :
    (op : SettingsOp) → Option (op.Reply × SettingsStore)
  | .getOrganizationSettings =>
    match luck with
    | .fine => some (some (st.document, st.writes.length), st)
    | _ => some (none, st)
  | .updateOrganizationSettings which _ settings =>
    match luck with
    | .fine => some (true, { st with document := settings, writes := which :: st.writes })
    | .fails => some (false, st)
    | .lost => some (false, { st with document := settings, writes := which :: st.writes })

/-- Two requests, each started once at most. -/
abbrev settingsSystem (body : Which → Body formats) : System SettingsOps where
  Store := SettingsStore
  Launch := Which
  Loop := Empty
  Outcome := Bool
  Choice := Luck
  Tick := Empty
  perform op st choice := performSettings st choice op
  launch which st :=
    if which ∈ st.started then none else some { st with started := which :: st.started }
  entry which := .inr <$> putSettings formats which (body which)
  body _ loop := nomatch loop
  finish which success st := { st with answers := (which, success) :: st.answers }
  tick t := nomatch t

def stored (body : Which → Body formats) (document : Json) :
    (settingsSystem formats body).State where
  store := { document, writes := [], started := [], answers := [] }
  process _ := none

/-! ### The claim and its condition -/

/-- No setting is mentioned by both bodies. -/
def Disjoint (body : Which → Body formats) : Prop :=
  ∀ key, (body .first).get key = none ∨ (body .second).get key = none

/-- Once both have succeeded, the normalized settings have the values of both bodies and else what
they were. -/
def Kept (body : Which → Body formats) (document : Json) (st : SettingsStore) : Prop :=
  (.first, true) ∈ st.answers → (.second, true) ∈ st.answers → ∀ key,
    (normalizeOrgSettings st.document).get key =
      (((body .first).get key).or ((body .second).get key)).getD
        ((normalizeOrgSettings document).get key)

inductive Stage where
  | reading
  | read (document : Json) (seen : Nat)
  | written
  | failed

structure SettingsView where
  which : Which
  stage : Stage

def settingsProtocol (body : Which → Body formats) : Protocol SettingsOps SettingsView where
  permits v op := match op with
    | .getOrganizationSettings => v.stage = .reading
    | .updateOrganizationSettings which seen settings => which = v.which ∧
      ∃ document, v.stage = .read document seen ∧
        settings = (merge (body which) (normalizeOrgSettings document)).toJson
  expects _ _ := True
  observe v op reply := match op, reply with
    | .getOrganizationSettings, some (document, seen) => { v with stage := .read document seen }
    | .getOrganizationSettings, none => { v with stage := .failed }
    | .updateOrganizationSettings _ _ _, true => { v with stage := .written }
    | .updateOrganizationSettings _ _ _, false => { v with stage := .failed }

def Ended (which : Which) (success : Bool) (v : SettingsView) : Prop :=
  v.which = which ∧ (success = true → v.stage = .written)

variable {formats}

theorem putSettings_follows (body : Which → Body formats) (which : Which) :
    (putSettings formats which (body which)).wp (settingsProtocol formats body) (Ended which)
      { which, stage := .reading } := by
  refine ⟨rfl, fun read _ => ?_⟩
  match read with
  | none => exact ⟨rfl, fun success => by cases success⟩
  | some (existing, seen) =>
    refine ⟨⟨rfl, existing, rfl, rfl⟩, fun written _ => ?_⟩
    match written with
    | true => exact ⟨rfl, fun _ => rfl⟩
    | false => exact ⟨rfl, fun success => by cases success⟩

def settingsCertified (body : Which → Body formats) :
    Certified (settingsSystem formats body) (settingsProtocol formats body) where
  start which := { which, stage := .reading }
  looping _ loop _ := nomatch loop
  ended := Ended
  entry_follows which := Program.wp_seq (putSettings_follows body which) fun _ _ ended => ended
  body_follows _ loop := nomatch loop
  replies _ _ _ _ _ _ := trivial

/-- A request writes what it merged with the last document that was written. -/
def Unraced (body : Which → Body formats) (s : (settingsSystem formats body).State)
    (a : (settingsSystem formats body).Action) : Prop :=
  match (settingsCertified body).issued s a with
  | some (_, .updateOrganizationSettings _ seen _) => seen = s.store.writes.length
  | _ => True

instance (body : Which → Body formats) (s : (settingsSystem formats body).State)
    (a : (settingsSystem formats body).Action) : Decidable (Unraced body s a) := by
  unfold Unraced
  split <;> infer_instance

/-! ### The invariant -/

/-- The value of a setting after the writes, newest first. -/
def applied (body : Which → Body formats) (document : Json) (key : Setting) :
    List Which → key.Value formats
  | [] => (normalizeOrgSettings document).get key
  | which :: rest => ((body which).get key).getD (applied body document key rest)

/-- What a request knows of the document. -/
def StageFits (st : SettingsStore) (which : Which) : Stage → Prop
  | .read document seen =>
    seen ≤ st.writes.length ∧ (seen = st.writes.length → document = st.document)
  | .written => which ∈ st.writes
  | _ => True

/-- The document is what was written one after another. -/
structure SettingsInv (body : Which → Body formats) (document : Json) (st : SettingsStore)
    (crew : Nat → Option (Which × SettingsView)) : Prop where
  document : ∀ key, (normalizeOrgSettings st.document).get key =
    applied body document key st.writes
  knows : ∀ i q, crew i = some q → q.2.which = q.1 ∧ StageFits st q.1 q.2.stage
  answered : ∀ answer ∈ st.answers, answer.2 = true → answer.1 ∈ st.writes

section steps
variable {body : Which → Body formats} {document : Json} {st : SettingsStore}
  {crew : Nat → Option (Which × SettingsView)} {id : Nat} {which : Which} {v : SettingsView}

/-- A request that learns or gives up changes nothing for the other. -/
theorem settingsInv_stage (inv : SettingsInv body document st crew) {stage : Stage}
    (is : v.which = which) (fits : StageFits st which stage) :
    SettingsInv body document st
      (Function.update crew id (some (which, { v with stage := stage }))) := by
  refine ⟨inv.document, fun i q there => ?_, inv.answered⟩
  rcases update_cases there with ⟨rfl, new⟩ | ⟨-, there⟩
  · cases new
    exact ⟨is, fits⟩
  · exact inv.knows i q there

theorem settingsInv_write (inv : SettingsInv body document st crew)
    (is : v.which = which) {stage : Stage} (ends : stage = .written ∨ stage = .failed) :
    SettingsInv body document
      { st with
        document := (merge (body which) (normalizeOrgSettings st.document)).toJson
        writes := which :: st.writes }
      (Function.update crew id (some (which, { v with stage := stage }))) := by
  refine ⟨fun key => ?_, fun i q there => ?_, fun answer mem success =>
    List.mem_cons_of_mem _ (inv.answered answer mem success)⟩
  · rw [merge_get, inv.document]
    rfl
  · rcases update_cases there with ⟨rfl, new⟩ | ⟨-, there⟩
    · cases new
      refine ⟨is, ?_⟩
      rcases ends with rfl | rfl
      · exact List.mem_cons_self
      · trivial
    · obtain ⟨same, fits⟩ := inv.knows i q there
      refine ⟨same, ?_⟩
      cases stage : q.2.stage with
      | read document seen =>
        rw [stage] at fits
        have behind : seen < st.writes.length + 1 := Nat.lt_succ_of_le fits.1
        exact ⟨Nat.le_of_lt behind, fun now => absurd now (Nat.ne_of_lt behind)⟩
      | written =>
        rw [stage] at fits
        exact List.mem_cons_of_mem _ fits
      | _ => trivial

theorem settingsInv_op (inv : SettingsInv body document st crew)
    (here : crew id = some (which, v)) {op : SettingsOp} {reply : op.Reply} {luck : Luck}
    {st' : SettingsStore} (permitted : (settingsProtocol formats body).permits v op)
    (unraced : ∀ which seen settings, op = .updateOrganizationSettings which seen settings →
      seen = st.writes.length)
    (performed : performSettings st luck op = some (reply, st')) :
    SettingsInv body document st' (Function.update crew id
      (some (which, (settingsProtocol formats body).observe v op reply))) := by
  obtain ⟨is, fits⟩ := inv.knows id _ here
  cases op with
  | getOrganizationSettings =>
    cases luck <;> cases performed
    · exact settingsInv_stage inv is ⟨Nat.le_refl _, fun _ => rfl⟩
    · exact settingsInv_stage inv is trivial
    · exact settingsInv_stage inv is trivial
  | updateOrganizationSettings other seen settings =>
    obtain ⟨rfl, read, stage, rfl⟩ := permitted
    have now := unraced _ _ _ rfl
    rw [show (which, v).2.stage = .read read seen from stage] at fits
    have same : read = st.document := fits.2 now
    have is : v.which = which := is
    subst same is
    cases luck <;> cases performed
    · exact settingsInv_write inv rfl (.inl rfl)
    · exact settingsInv_stage inv rfl trivial
    · exact settingsInv_write inv rfl (.inr rfl)

end steps

theorem settingsInv_step {body : Which → Body formats} {document : Json}
    {s t : (settingsSystem formats body).State} {a : (settingsSystem formats body).Action}
    (all : (settingsCertified body).AllFollow s)
    (inv : SettingsInv body document s.store ((settingsCertified body).crew s))
    (unraced : Unraced body s a) (stepped : System.Stepped s a t) :
    SettingsInv body document t.store ((settingsCertified body).crew t) := by
  have happened := Certified.happened all stepped
  generalize (settingsCertified body).crew t = crew at happened ⊢
  generalize t.store = store at happened ⊢
  cases happened with
  | @launch id which store free launched =>
    simp only at launched
    split at launched
    · cases launched
    · cases launched
      refine ⟨inv.document, fun i q there => ?_, inv.answered⟩
      rcases update_cases there with ⟨rfl, new⟩ | ⟨-, there⟩
      · cases new
        exact ⟨rfl, trivial⟩
      · exact inv.knows i q there
  | call here issues permitted performed =>
    refine settingsInv_op inv here permitted ?_ performed
    rintro which seen settings rfl
    unfold Unraced at unraced
    rwa [issues] at unraced
  | loop => exact inv
  | @finish id which v success here ended =>
    refine ⟨inv.document, fun i q there => ?_, fun answer mem won => ?_⟩
    · rcases update_cases there with ⟨-, new⟩ | ⟨-, there⟩
      · cases new
      · exact inv.knows i q there
    · rcases List.mem_cons.mp mem with rfl | old
      · obtain ⟨-, fits⟩ := inv.knows id _ here
        rw [show (which, v).2.stage = .written from ended.2 won] at fits
        exact fits
      · exact inv.answered answer old won
  | @tick tick store ticked => cases tick

/-! ### Disjoint updates -/

section applied
variable {body : Which → Body formats} {document : Json} {key : Setting}

theorem applied_unmentioned (unmentioned : ∀ which, (body which).get key = none)
    (writes : List Which) :
    applied body document key writes = (normalizeOrgSettings document).get key := by
  induction writes with
  | nil => rfl
  | cons which rest ih =>
    rw [applied, unmentioned which, Option.getD_none]
    exact ih

theorem applied_mentioned {which : Which} {value : key.Value formats}
    (mentions : (body which).get key = some value)
    (alone : ∀ other, other ≠ which → (body other).get key = none) {writes : List Which}
    (mem : which ∈ writes) : applied body document key writes = value := by
  induction writes with
  | nil => cases mem
  | cons latest rest ih =>
    rw [applied]
    by_cases same : latest = which
    · subst same
      rw [mentions]
      rfl
    · rw [alone latest same, Option.getD_none]
      exact ih ((List.mem_cons.mp mem).resolve_left fun is => same is.symm)

theorem applied_disjoint (disjoint : Disjoint formats body) {writes : List Which}
    (first : .first ∈ writes) (second : .second ∈ writes) :
    applied body document key writes = (((body .first).get key).or ((body .second).get key)).getD
      ((normalizeOrgSettings document).get key) := by
  rcases disjoint key with none_ | none_
  · rw [none_, Option.none_or]
    cases mentions : (body .second).get key with
    | none => exact applied_unmentioned (fun which => by cases which <;> assumption) writes
    | some value =>
      refine applied_mentioned mentions (fun other different => ?_) second
      cases other with
      | first => exact none_
      | second => exact absurd rfl different
  · rw [none_, Option.or_none]
    cases mentions : (body .first).get key with
    | none => exact applied_unmentioned (fun which => by cases which <;> assumption) writes
    | some value =>
      refine applied_mentioned mentions (fun other different => ?_) first
      cases other with
      | first => exact absurd rfl different
      | second => exact none_

end applied

/-- Of two successful updates that mention different settings neither is lost, as long as each
writes what it merged with the last document that was written. -/
theorem settings_kept (formats : Formats) (body : Which → Body formats)
    (disjoint : Disjoint formats body) (document : Json)
    (s : (settingsSystem formats body).State)
    (run : System.Steps (Unraced body) (stored formats body document) s) :
    Kept formats body document s.store := by
  have start : SettingsInv body document (stored formats body document).store fun _ => none :=
    ⟨fun _ => rfl, fun _ _ there => (by cases there), fun _ mem => (by cases mem)⟩
  have inv : SettingsInv body document s.store ((settingsCertified body).crew s) :=
    ((settingsCertified body).invariant
      (fun s => SettingsInv body document s.store ((settingsCertified body).crew s))
      (fun _ => rfl) start
      (fun _ _ _ all inv unraced stepped => settingsInv_step all inv unraced stepped) run).2
  intro first second key
  rw [inv.document]
  exact applied_disjoint disjoint (inv.answered _ first rfl) (inv.answered _ second rfl)

/-! ### Tools and a toolset -/

def plainFormats : Formats where
  uuid _ := true
  url _ := true
  lower := { toLowerCase := id, stays := fun _ _ => rfl }

def emptyBody : Body plainFormats where
  shellRunEnabled := none
  defaultToolsetId := none
  primary := none
  providers := []
  engineAuth _ := none
  engineRuntime _ := none

/-- One request enables the shell, the other chooses a toolset. -/
def twoBodies : Which → Body plainFormats
  | .first => { emptyBody with shellRunEnabled := some true }
  | .second => { emptyBody with defaultToolsetId := some (some ⟨"toolset", rfl⟩) }

theorem twoBodies_disjoint : Disjoint plainFormats twoBodies := by
  intro key
  cases key with
  | shellRunEnabled => exact .inr rfl
  | _ => exact .inl rfl

def enabled (document : Json) : Bool :=
  (@normalizeOrgSettings plainFormats document).shellRunEnabled

/-- The second request starts after the first. -/
theorem settings_kept_in_turn : ∃ s,
    System.Steps (Unraced twoBodies) (stored plainFormats twoBodies (.obj [])) s ∧
      s.store.answers = [(.second, true), (.first, true)] ∧
        Kept plainFormats twoBodies (.obj []) s.store := by
  let actions : List (settingsSystem plainFormats twoBodies).Action :=
    [.launch 0 .first, .call 0 .fine, .call 0 .fine, .finish 0,
      .launch 1 .second, .call 1 .fine, .call 1 .fine, .finish 1]
  have done : ((System.exec (Unraced twoBodies) (stored plainFormats twoBodies (.obj []))
      actions).map fun s => s.store.answers) = some [(.second, true), (.first, true)] := by
    decide +kernel
  obtain ⟨s, ran, answers⟩ := Option.map_eq_some_iff.mp done
  have steps := System.steps_of_exec ran
  exact ⟨s, steps, answers, settings_kept plainFormats twoBodies twoBodies_disjoint (.obj []) s
    steps⟩

/-- Both have read the document before either one writes: the second undoes the first. -/
theorem setting_lost : ¬ ∀ (formats : Formats) (body : Which → Body formats),
    Disjoint formats body → ∀ (document : Json) (s : (settingsSystem formats body).State),
      System.Steps (fun _ _ => True) (stored formats body document) s →
        Kept formats body document s.store := by
  intro claim
  let actions : List (settingsSystem plainFormats twoBodies).Action :=
    [.launch 0 .first, .launch 1 .second, .call 0 .fine, .call 1 .fine, .call 0 .fine,
      .call 1 .fine, .finish 0, .finish 1]
  have done : ((System.exec (fun _ _ => True) (stored plainFormats twoBodies (.obj []))
      actions).map fun s => (s.store.answers, enabled s.store.document)) =
        some ([(.second, true), (.first, true)], false) := by
    decide +kernel
  obtain ⟨s, ran, same⟩ := Option.map_eq_some_iff.mp done
  obtain ⟨answers, disabled⟩ := Prod.mk.inj same
  have kept := claim plainFormats twoBodies twoBodies_disjoint (.obj []) s
    (System.steps_of_exec ran) (by rw [answers]; decide) (by rw [answers]; decide) .shellRunEnabled
  have is : enabled s.store.document = true := kept
  rw [disabled] at is
  cases is

end Vespid.Api.SettingsUpdates
