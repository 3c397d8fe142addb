import Mathlib.Data.List.Sort
import Vespid.Lib.Keyset

/-!
# Listings read by cursors

Workflows, runs and approval requests are listed from the newest, the events of a run from the
oldest. A stored timestamp has microseconds, the one in a cursor milliseconds. A listing from the
newest is complete when no row behind a page shares the millisecond of the page's last row in a way
the cursor cannot tell; a listing from the oldest only when pages end in whole milliseconds.
-/

namespace Vespid.Db.Listings

open Keyset

/-- What rows are ordered by: `createdAt` in microseconds, and the id. -/
structure Stamp where
  createdAt : Nat
  id : Nat
  deriving DecidableEq

/-- A cursor: the ISO text of a date in milliseconds, and the id. -/
structure Cursor where
  createdAt : Nat
  id : Nat
  deriving DecidableEq

def toIso (last : Stamp) : Cursor := { createdAt := last.createdAt / 1000, id := last.id }

/-- `new Date(cursor.createdAt)` -/
def toDate (cursor : Cursor) : Stamp := { createdAt := cursor.createdAt * 1000, id := cursor.id }

/-- `encodeCursor` and `decodeCursor`. -/
structure CursorCodec where
  Text : Type
  encodeCursor : Cursor → Text
  decodeCursor : Text → Option Cursor
  decode_encode : ∀ cursor, decodeCursor (encodeCursor cursor) = some cursor

/-- The condition on `row` behind a cursor of a descending listing. -/
def olderThan (cursor row : Stamp) : Bool :=
  row.createdAt < cursor.createdAt || (row.createdAt = cursor.createdAt && row.id < cursor.id)

/-- The condition on `row` behind a cursor of an ascending listing. -/
def newerThan (cursor row : Stamp) : Bool :=
  row.createdAt > cursor.createdAt || (row.createdAt = cursor.createdAt && row.id > cursor.id)

section select
variable {ρ : Type}

/-- `select … where … order by … limit`; `behind a b` says that `b` comes after `a`. -/
def select (stamp : ρ → Stamp) (behind : Stamp → Stamp → Bool) (baseWhere : ρ → Bool)
    (cursor : Option Stamp) (limit : Nat) (table : List ρ) : List ρ :=
  ((table.filter fun row => baseWhere row && cursor.all fun c => behind c (stamp row)).mergeSort
    fun a b => !behind (stamp b) (stamp a)).take limit

def withNextCursor (stamp : ρ → Stamp) (rows : List ρ) : List ρ × Option Stamp :=
  (rows, rows.getLast?.map stamp)

structure Query (Text : Type) where
  limit : Option Nat
  cursor : Option Text

/-- A listing route: the limit is checked, the cursor decoded, and the next one encoded. -/
def route (codec : CursorCodec) (maxLimit defaultLimit : Nat)
    (list : Nat → Option Stamp → List ρ × Option Stamp) (query : Query codec.Text) :
    Option (List ρ × Option codec.Text) :=
  if query.limit.all fun limit => 1 ≤ limit && limit ≤ maxLimit then
    let cursor := query.cursor.bind codec.decodeCursor
    let result := list (query.limit.getD defaultLimit) (cursor.map toDate)
    some (result.1, result.2.map fun last => codec.encodeCursor (toIso last))
  else none

end select

/-! ### The listings -/

/-- A row of `workflows`. -/
structure WorkflowRow where
  id : Nat
  organizationId : Nat
  createdAt : Nat

def WorkflowRow.stamp (row : WorkflowRow) : Stamp := ⟨row.createdAt, row.id⟩

def WorkflowRow.listed (organizationId : Nat) (row : WorkflowRow) : Bool :=
  row.organizationId = organizationId

def listWorkflows (table : List WorkflowRow) (organizationId limit : Nat) (cursor : Option Stamp) :
    List WorkflowRow × Option Stamp :=
  withNextCursor WorkflowRow.stamp
    (select WorkflowRow.stamp olderThan (WorkflowRow.listed organizationId) cursor
      (min 200 (max 1 limit)) table)

/-- A row of `workflow_runs`. -/
structure WorkflowRunRow where
  id : Nat
  organizationId : Nat
  workflowId : Nat
  createdAt : Nat

def WorkflowRunRow.stamp (row : WorkflowRunRow) : Stamp := ⟨row.createdAt, row.id⟩

def WorkflowRunRow.listed (organizationId workflowId : Nat) (row : WorkflowRunRow) : Bool :=
  row.organizationId = organizationId && row.workflowId = workflowId

def listWorkflowRuns (table : List WorkflowRunRow) (organizationId workflowId limit : Nat)
    (cursor : Option Stamp) : List WorkflowRunRow × Option Stamp :=
  withNextCursor WorkflowRunRow.stamp
    (select WorkflowRunRow.stamp olderThan (WorkflowRunRow.listed organizationId workflowId) cursor
      (min 200 (max 1 limit)) table)

/-- A row of `workflow_run_events`. -/
structure WorkflowRunEventRow where
  id : Nat
  organizationId : Nat
  workflowId : Nat
  runId : Nat
  createdAt : Nat

def WorkflowRunEventRow.stamp (row : WorkflowRunEventRow) : Stamp := ⟨row.createdAt, row.id⟩

def WorkflowRunEventRow.listed (organizationId workflowId runId : Nat) (row : WorkflowRunEventRow) :
    Bool :=
  row.organizationId = organizationId && row.workflowId = workflowId && row.runId = runId

def listWorkflowRunEvents (table : List WorkflowRunEventRow)
    (organizationId workflowId runId limit : Nat) (cursor : Option Stamp) :
    List WorkflowRunEventRow × Option Stamp :=
  withNextCursor WorkflowRunEventRow.stamp
    (select WorkflowRunEventRow.stamp newerThan
      (WorkflowRunEventRow.listed organizationId workflowId runId) cursor (min 500 (max 1 limit))
      table)

inductive RequestStatus where
  | pending | approved | rejected | expired
  deriving DecidableEq

/-- A row of `workflow_approval_requests`. -/
structure WorkflowApprovalRequestRow where
  id : Nat
  organizationId : Nat
  status : RequestStatus
  createdAt : Nat

def WorkflowApprovalRequestRow.stamp (row : WorkflowApprovalRequestRow) : Stamp :=
  ⟨row.createdAt, row.id⟩

def WorkflowApprovalRequestRow.listed (organizationId : Nat) (status : Option RequestStatus)
    (row : WorkflowApprovalRequestRow) : Bool :=
  row.organizationId = organizationId && status.all fun status => row.status = status

def listWorkflowApprovalRequests (table : List WorkflowApprovalRequestRow) (organizationId : Nat)
    (status : Option RequestStatus) (limit : Nat) (cursor : Option Stamp) :
    List WorkflowApprovalRequestRow × Option Stamp :=
  withNextCursor WorkflowApprovalRequestRow.stamp
    (select WorkflowApprovalRequestRow.stamp olderThan
      (WorkflowApprovalRequestRow.listed organizationId status) cursor (min 500 (max 1 limit)) table)

/-! ### Following the cursors -/

/-- All rows of a listing, in its order. -/
def sorted {ρ : Type} (stamp : ρ → Stamp) (behind : Stamp → Stamp → Bool) (baseWhere : ρ → Bool)
    (table : List ρ) : List ρ :=
  (table.filter baseWhere).mergeSort fun a b => !behind (stamp b) (stamp a)

/-- Follow `nextCursor` from the first page, with one page size. -/
def following {ρ : Type} {codec : CursorCodec}
    (get : Query codec.Text → Option (List ρ × Option codec.Text)) (size : Option Nat)
    (cursor : Option codec.Text) : Option (List ρ × Option codec.Text) :=
  get { limit := size, cursor }

/-- A page size that a route with a maximum accepts. -/
def PageSize (maxLimit : Nat) : Type :=
  { size : Option Nat // (size.all fun limit => 1 ≤ limit && limit ≤ maxLimit) = true }

/-- The timestamp a cursor keeps of a row. -/
def coarse (stamp : Stamp) : Stamp := toDate (toIso stamp)

/-- Behind a full page, the next row is older than the cursor of the page's last row. -/
def TellsNext {ρ : Type} (stamp : ρ → Stamp) (size : Nat) (rows : List ρ) : Prop :=
  ∀ pre x y post, rows = pre ++ x :: y :: post → size ∣ pre.length + 1 →
    olderThan (coarse (stamp x)) (stamp y) = true

/-- Every page ends with a row created in a whole millisecond. -/
def EndsWhole {ρ : Type} (stamp : ρ → Stamp) (size : Nat) (rows : List ρ) : Prop :=
  ∀ pre x post, rows = pre ++ x :: post → (size ∣ pre.length + 1 ∨ post = []) →
    1000 ∣ (stamp x).createdAt

/-! ### The two orders -/

theorem olderThan_iff (a b : Stamp) : olderThan a b = true ↔
    b.createdAt < a.createdAt ∨ b.createdAt = a.createdAt ∧ b.id < a.id := by
  simp [olderThan]

theorem newerThan_iff (a b : Stamp) : newerThan a b = true ↔
    a.createdAt < b.createdAt ∨ b.createdAt = a.createdAt ∧ a.id < b.id := by
  simp [newerThan]

/-- A strict order of all stamps. -/
structure Orders (behind : Stamp → Stamp → Bool) : Prop where
  asymm : ∀ a b, behind a b = true → behind b a = false
  trans : ∀ a b c, behind a b = true → behind b c = true → behind a c = true
  total : ∀ a b, a ≠ b → behind a b = true ∨ behind b a = true

theorem stamp_ne {a b : Stamp} (different : a ≠ b) :
    a.createdAt ≠ b.createdAt ∨ a.id ≠ b.id := by
  by_contra same
  obtain ⟨time, id⟩ := not_or.mp same
  cases a
  cases b
  simp only [ne_eq, not_not] at time id
  exact different (by rw [time, id])

theorem orders_olderThan : Orders olderThan where
  asymm a b first := by
    rw [olderThan_iff] at first
    rw [Bool.eq_false_iff, ne_eq, olderThan_iff]
    omega
  trans a b c first second := by
    rw [olderThan_iff] at first second ⊢
    omega
  total a b different := by
    rw [olderThan_iff, olderThan_iff]
    have := stamp_ne different
    omega

theorem orders_newerThan : Orders newerThan where
  asymm a b first := by
    rw [newerThan_iff] at first
    rw [Bool.eq_false_iff, ne_eq, newerThan_iff]
    omega
  trans a b c first second := by
    rw [newerThan_iff] at first second ⊢
    omega
  total a b different := by
    rw [newerThan_iff, newerThan_iff]
    have := stamp_ne different
    omega

/-! ### One listing -/

section listing
variable {ρ : Type} {stamp : ρ → Stamp} {behind : Stamp → Stamp → Bool} {baseWhere : ρ → Bool}
  {table : List ρ}

theorem stamp_injOn (distinct : (table.map fun row => (stamp row).id).Nodup) {a b : ρ}
    (memA : a ∈ table) (memB : b ∈ table) (same : stamp a = stamp b) : a = b :=
  List.inj_on_of_nodup_map distinct memA memB (by rw [same])

theorem weakly_sorted (order : Orders behind) (l : List ρ) :
    (l.mergeSort fun a b => !behind (stamp b) (stamp a)).Pairwise
      fun a b => (!behind (stamp b) (stamp a)) = true := by
  refine List.pairwise_mergeSort (fun a b c first second => ?_) (fun a b => ?_) l
  · simp only [Bool.not_eq_true'] at first second ⊢
    by_contra back
    have back : behind (stamp c) (stamp a) = true := by simpa using back
    by_cases same : stamp a = stamp b
    · rw [same, second] at back
      cases back
    · have ahead := (order.total _ _ same).resolve_right (by simp [first])
      rw [order.trans _ _ _ back ahead] at second
      cases second
  · simp only [Bool.or_eq_true, Bool.not_eq_true']
    cases back : behind (stamp b) (stamp a) with
    | false => exact .inl rfl
    | true => exact .inr (order.asymm _ _ back)

theorem mem_sorted {row : ρ} (mem : row ∈ sorted stamp behind baseWhere table) : row ∈ table :=
  (List.mem_filter.mp (List.mem_mergeSort.mp mem)).1

theorem sorted_nodup (distinct : (table.map fun row => (stamp row).id).Nodup) :
    (sorted stamp behind baseWhere table).Nodup := by
  have whole : table.Nodup := distinct.of_map _
  exact (List.mergeSort_perm _ _).nodup_iff.mpr (whole.filter _)

theorem sorted_pairwise (order : Orders behind)
    (distinct : (table.map fun row => (stamp row).id).Nodup) :
    (sorted stamp behind baseWhere table).Pairwise
      fun a b => behind (stamp a) (stamp b) = true := by
  have weakly : (sorted stamp behind baseWhere table).Pairwise
      fun a b => (!behind (stamp b) (stamp a)) = true := weakly_sorted order (table.filter baseWhere)
  have apart : (sorted stamp behind baseWhere table).Pairwise (· ≠ ·) := sorted_nodup distinct
  refine (List.pairwise_and_iff.mpr ⟨weakly, apart⟩).imp_of_mem fun {a b} memA memB both => ?_
  have different : stamp a ≠ stamp b :=
    fun same => both.2 (stamp_injOn distinct (mem_sorted memA) (mem_sorted memB) same)
  exact (order.total _ _ different).resolve_right (by simpa using both.1)

/-- A page is the start of what the cursor leaves of the listing. -/
theorem select_eq (order : Orders behind)
    (distinct : (table.map fun row => (stamp row).id).Nodup) (cursor : Option Stamp)
    (limit : Nat) : select stamp behind baseWhere cursor limit table =
      ((sorted stamp behind baseWhere table).filter fun row =>
        cursor.all fun c => behind c (stamp row)).take limit := by
  unfold select
  congr 1
  refine List.Perm.eq_of_pairwise (fun a b memA memB first second => ?_) (weakly_sorted order _)
    ((weakly_sorted order _).filter _) ?_
  · have inA := (List.mem_filter.mp (List.mem_mergeSort.mp memA)).1
    have inB := mem_sorted (List.mem_filter.mp memB).1
    refine stamp_injOn distinct inA inB (by_contra fun different => ?_)
    rcases order.total _ _ different with ahead | ahead
    · rw [ahead] at second
      cases second
    · rw [ahead] at first
      cases first
  · refine (List.mergeSort_perm _ _).trans ?_
    rw [show (fun row => baseWhere row && cursor.all fun c => behind c (stamp row)) =
      fun row => (cursor.all fun c => behind c (stamp row)) && baseWhere row from
        funext fun row => Bool.and_comm _ _, ← List.filter_filter]
    exact ((List.mergeSort_perm _ _).filter _).symm

/-- What a cursor's text lets pass. -/
def passes (codec : CursorCodec) (stamp : ρ → Stamp) (behind : Stamp → Stamp → Bool)
    (text : codec.Text) (row : ρ) : Bool :=
  (codec.decodeCursor text).all fun cursor => behind (toDate cursor) (stamp row)

variable {codec : CursorCodec} {maxLimit defaultLimit : Nat}
  {list : Nat → Option Stamp → List ρ × Option Stamp}

theorem serves_route (order : Orders behind)
    (distinct : (table.map fun row => (stamp row).id).Nodup) (size : PageSize maxLimit)
    (is : ∀ cursor, list (size.val.getD defaultLimit) cursor = withNextCursor stamp
      (select stamp behind baseWhere cursor (size.val.getD defaultLimit) table)) :
    Serves (following (route codec maxLimit defaultLimit list) size.val)
      (passes codec stamp behind) (fun row => codec.encodeCursor (toIso (stamp row)))
      (size.val.getD defaultLimit) (sorted stamp behind baseWhere table) := by
  intro c known
  unfold following route
  rw [if_pos size.property]
  simp only [is, withNextCursor, select_eq order distinct, Option.some.injEq, Prod.mk.injEq]
  have same : (sorted stamp behind baseWhere table).filter (fun row =>
      ((c.bind codec.decodeCursor).map toDate).all fun c => behind c (stamp row)) =
        Keyset.behind (passes codec stamp behind) (sorted stamp behind baseWhere table) c := by
    cases c with
    | none => simp [Keyset.behind]
    | some text =>
      refine List.filter_congr fun row _ => ?_
      unfold passes
      rw [Option.bind_some]
      cases codec.decodeCursor text <;> rfl
  rw [same]
  exact ⟨rfl, by rw [Option.map_map]; rfl⟩

/-- A listing is complete exactly if every cursor finds the rows behind its row. -/
theorem listing_complete (order : Orders behind)
    (distinct : (table.map fun row => (stamp row).id).Nodup) (size : PageSize maxLimit)
    (pos : 0 < size.val.getD defaultLimit)
    (is : ∀ cursor, list (size.val.getD defaultLimit) cursor = withNextCursor stamp
      (select stamp behind baseWhere cursor (size.val.getD defaultLimit) table)) :
    Complete (following (route codec maxLimit defaultLimit list) size.val)
        (sorted stamp behind baseWhere table) ↔
      ∀ pre x post, sorted stamp behind baseWhere table = pre ++ x :: post →
        (size.val.getD defaultLimit ∣ pre.length + 1 ∨ post = []) →
          (sorted stamp behind baseWhere table).filter
            (fun row => behind (coarse (stamp x)) (stamp row)) = post := by
  have pairwise : (sorted stamp behind baseWhere table).Pairwise
      fun a b => behind (stamp a) (stamp b) = true := sorted_pairwise order distinct
  have upward (text : codec.Text) : (sorted stamp behind baseWhere table).Pairwise fun x y =>
      passes codec stamp behind text x = true → passes codec stamp behind text y = true := by
    refine pairwise.imp fun {a b} ahead passed => ?_
    unfold passes at passed ⊢
    cases decoded : codec.decodeCursor text with
    | none => rfl
    | some cursor =>
      rw [decoded] at passed
      exact order.trans _ _ _ passed ahead
  rw [complete_iff (serves_route order distinct size is) pos upward (sorted_nodup distinct)]
  unfold Resumes
  have same (x : ρ) : passes codec stamp behind (codec.encodeCursor (toIso (stamp x))) =
      fun row => behind (coarse (stamp x)) (stamp row) := by
    funext row
    unfold passes
    rw [codec.decode_encode]
    rfl
  simp only [same]

/-- Of the rows around `x`, those behind it. -/
theorem filter_split {p : ρ → Bool} {rows pre post : List ρ} {x : ρ} (split : rows = pre ++ x :: post)
    (before : ∀ row ∈ pre, p row = false) (here : p x = false) (after : ∀ row ∈ post, p row = true) :
    rows.filter p = post := by
  rw [split, List.filter_append, List.filter_cons_of_neg (by simp [here]),
    List.filter_eq_nil_iff.mpr fun row mem => by simp [before row mem],
    List.filter_eq_self.mpr after, List.nil_append]

theorem coarse_le (s : Stamp) : (coarse s).createdAt ≤ s.createdAt ∧ (coarse s).id = s.id :=
  ⟨Nat.div_mul_le_self _ _, rfl⟩

theorem tellsNext_iff (distinct : (table.map fun row => (stamp row).id).Nodup) (size : Nat) :
    (∀ pre x post, sorted stamp olderThan baseWhere table = pre ++ x :: post →
      (size ∣ pre.length + 1 ∨ post = []) → (sorted stamp olderThan baseWhere table).filter
        (fun row => olderThan (coarse (stamp x)) (stamp row)) = post) ↔
      TellsNext stamp size (sorted stamp olderThan baseWhere table) := by
  have order := orders_olderThan
  have pairwise : (sorted stamp olderThan baseWhere table).Pairwise
      fun a b => olderThan (stamp a) (stamp b) = true := sorted_pairwise order distinct
  constructor
  · intro finds pre x y post split divides
    have found := finds pre x (y :: post) split (.inl divides)
    have mem : y ∈ y :: post := List.mem_cons_self
    rw [← found] at mem
    exact (List.mem_filter.mp mem).2
  · intro tells pre x post split ends
    rw [split] at pairwise
    obtain ⟨-, behindX, ahead⟩ := List.pairwise_append.mp pairwise
    obtain ⟨later, -⟩ := List.pairwise_cons.mp behindX
    have kept {row : ρ} (passed : olderThan (coarse (stamp x)) (stamp row) = true) :
        olderThan (stamp x) (stamp row) = true := by
      have := coarse_le (stamp x)
      rw [olderThan_iff] at passed ⊢
      omega
    refine filter_split split (fun row mem => ?_) ?_ (fun row mem => ?_)
    · have before := order.asymm _ _ (ahead row mem x List.mem_cons_self)
      by_contra passed
      rw [kept (by simpa using passed)] at before
      cases before
    · by_contra passed
      have itself := kept (by simpa using passed)
      rw [order.asymm _ _ itself] at itself
      cases itself
    · cases post with
      | nil => cases mem
      | cons y rest =>
        have next := tells pre x y rest split (ends.resolve_right (List.cons_ne_nil _ _))
        rcases List.mem_cons.mp mem with rfl | further
        · exact next
        · have behindY := (List.pairwise_cons.mp (List.pairwise_cons.mp behindX).2).1 row further
          exact order.trans _ _ _ next behindY

theorem endsWhole_iff (distinct : (table.map fun row => (stamp row).id).Nodup) (size : Nat) :
    (∀ pre x post, sorted stamp newerThan baseWhere table = pre ++ x :: post →
      (size ∣ pre.length + 1 ∨ post = []) → (sorted stamp newerThan baseWhere table).filter
        (fun row => newerThan (coarse (stamp x)) (stamp row)) = post) ↔
      EndsWhole stamp size (sorted stamp newerThan baseWhere table) := by
  have order := orders_newerThan
  have pairwise : (sorted stamp newerThan baseWhere table).Pairwise
      fun a b => newerThan (stamp a) (stamp b) = true := sorted_pairwise order distinct
  constructor
  · intro finds pre x post split ends
    have found := finds pre x post split ends
    by_contra part
    have itself : newerThan (coarse (stamp x)) (stamp x) = true := by
      rw [newerThan_iff]
      left
      show (stamp x).createdAt / 1000 * 1000 < (stamp x).createdAt
      omega
    have mem : x ∈ sorted stamp newerThan baseWhere table := by
      rw [split]
      simp
    have again : x ∈ post := found ▸ List.mem_filter.mpr ⟨mem, itself⟩
    have nodup : (pre ++ x :: post).Nodup := split ▸ sorted_nodup distinct
    exact (List.nodup_cons.mp (nodup.sublist (List.sublist_append_right _ _))).1 again
  · intro whole pre x post split ends
    have same : coarse (stamp x) = stamp x := by
      have kept := Nat.div_mul_cancel (whole pre x post split ends)
      show Stamp.mk ((stamp x).createdAt / 1000 * 1000) (stamp x).id = stamp x
      rw [kept]
    rw [same]
    rw [split] at pairwise
    obtain ⟨-, behindX, ahead⟩ := List.pairwise_append.mp pairwise
    refine filter_split split (fun row mem => ?_) ?_
      (List.pairwise_cons.mp behindX).1
    · exact order.asymm _ _ (ahead row mem x List.mem_cons_self)
    · by_contra passed
      have itself : newerThan (stamp x) (stamp x) = true := by simpa using passed
      rw [order.asymm _ _ itself] at itself
      cases itself

end listing

/-! ### The four listings -/

/-- The tables, whose ids are primary keys. -/
structure Tables where
  workflows : List WorkflowRow
  runs : List WorkflowRunRow
  events : List WorkflowRunEventRow
  requests : List WorkflowApprovalRequestRow
  workflowIds : (workflows.map (·.id)).Nodup
  runIds : (runs.map (·.id)).Nodup
  eventIds : (events.map (·.id)).Nodup
  requestIds : (requests.map (·.id)).Nodup

/-- `GET workflows` -/
def getWorkflows (codec : CursorCodec) (t : Tables) (organizationId : Nat) :
    Query codec.Text → Option (List WorkflowRow × Option codec.Text) :=
  route codec 200 50 (listWorkflows t.workflows organizationId)

/-- `GET workflows/:workflowId/runs` -/
def getRuns (codec : CursorCodec) (t : Tables) (organizationId workflowId : Nat) :
    Query codec.Text → Option (List WorkflowRunRow × Option codec.Text) :=
  route codec 200 50 (listWorkflowRuns t.runs organizationId workflowId)

/-- `GET workflows/:workflowId/runs/:runId/events` -/
def getEvents (codec : CursorCodec) (t : Tables) (organizationId workflowId runId : Nat) :
    Query codec.Text → Option (List WorkflowRunEventRow × Option codec.Text) :=
  route codec 500 200 (listWorkflowRunEvents t.events organizationId workflowId runId)

/-- `GET approvals` -/
def getApprovals (codec : CursorCodec) (t : Tables) (organizationId : Nat)
    (status : Option RequestStatus) :
    Query codec.Text → Option (List WorkflowApprovalRequestRow × Option codec.Text) :=
  route codec 500 100 (listWorkflowApprovalRequests t.requests organizationId status)

theorem pageSize_bounds {maxLimit default : Nat} (low : 1 ≤ default) (high : default ≤ maxLimit)
    (size : PageSize maxLimit) :
    1 ≤ size.val.getD default ∧ size.val.getD default ≤ maxLimit := by
  obtain ⟨size, fits⟩ := size
  cases size with
  | none => exact ⟨low, high⟩
  | some limit => simpa using fits

theorem clamp_eq {maxLimit limit : Nat} (fits : 1 ≤ limit ∧ limit ≤ maxLimit) :
    min maxLimit (max 1 limit) = limit := by
  omega

/-- Following the cursors shows every row once, in order, exactly if, in a listing from the newest,
the row behind every full page is older than the page's cursor and, in the listing from the oldest,
every page ends in a whole millisecond. -/
theorem listings_complete (codec : CursorCodec) (t : Tables) (organizationId workflowId runId : Nat)
    (status : Option RequestStatus) (size : PageSize 200) (wide : PageSize 500) :
    (Complete (following (getWorkflows codec t organizationId) size.val)
        (sorted WorkflowRow.stamp olderThan (WorkflowRow.listed organizationId) t.workflows) ↔
      TellsNext WorkflowRow.stamp (size.val.getD 50)
        (sorted WorkflowRow.stamp olderThan (WorkflowRow.listed organizationId) t.workflows)) ∧
    (Complete (following (getRuns codec t organizationId workflowId) size.val)
        (sorted WorkflowRunRow.stamp olderThan (WorkflowRunRow.listed organizationId workflowId)
          t.runs) ↔
      TellsNext WorkflowRunRow.stamp (size.val.getD 50)
        (sorted WorkflowRunRow.stamp olderThan (WorkflowRunRow.listed organizationId workflowId)
          t.runs)) ∧
    (Complete (following (getEvents codec t organizationId workflowId runId) wide.val)
        (sorted WorkflowRunEventRow.stamp newerThan
          (WorkflowRunEventRow.listed organizationId workflowId runId) t.events) ↔
      EndsWhole WorkflowRunEventRow.stamp (wide.val.getD 200)
        (sorted WorkflowRunEventRow.stamp newerThan
          (WorkflowRunEventRow.listed organizationId workflowId runId) t.events)) ∧
    (Complete (following (getApprovals codec t organizationId status) wide.val)
        (sorted WorkflowApprovalRequestRow.stamp olderThan
          (WorkflowApprovalRequestRow.listed organizationId status) t.requests) ↔
      TellsNext WorkflowApprovalRequestRow.stamp (wide.val.getD 100)
        (sorted WorkflowApprovalRequestRow.stamp olderThan
          (WorkflowApprovalRequestRow.listed organizationId status) t.requests)) := by
  have workflows := @pageSize_bounds _ 50 (by decide) (by decide) size
  have events := @pageSize_bounds _ 200 (by decide) (by decide) wide
  have requests := @pageSize_bounds _ 100 (by decide) (by decide) wide
  refine ⟨?_, ?_, ?_, ?_⟩
  · rw [← tellsNext_iff t.workflowIds]
    refine listing_complete orders_olderThan t.workflowIds size (by omega) fun cursor => ?_
    rw [listWorkflows, clamp_eq workflows]
  · rw [← tellsNext_iff t.runIds]
    refine listing_complete orders_olderThan t.runIds size (by omega) fun cursor => ?_
    rw [listWorkflowRuns, clamp_eq workflows]
  · rw [← endsWhole_iff t.eventIds]
    refine listing_complete orders_newerThan t.eventIds wide (by omega) fun cursor => ?_
    rw [listWorkflowRunEvents, clamp_eq events]
  · rw [← tellsNext_iff t.requestIds]
    refine listing_complete orders_olderThan t.requestIds wide (by omega) fun cursor => ?_
    rw [listWorkflowApprovalRequests, clamp_eq requests]

/-! ### Rows within one millisecond -/

/-- Cursors that are passed on as they are. -/
def plainCodec : CursorCodec where
  Text := Cursor
  encodeCursor cursor := cursor
  decodeCursor cursor := some cursor
  decode_encode _ := rfl

def single (maxLimit : Nat) (fits : 1 ≤ maxLimit) : PageSize maxLimit :=
  ⟨some 1, by simpa using fits⟩

/-- Two workflows of one millisecond, and one event off a whole millisecond. -/
def oneMillisecond : Tables where
  workflows := [⟨1, 0, 1500⟩, ⟨2, 0, 1200⟩]
  runs := []
  events := [⟨3, 0, 1, 1, 1500⟩]
  requests := []
  workflowIds := by decide
  runIds := by decide
  eventIds := by decide
  requestIds := by decide

/-- One by one, the second workflow is never shown and the event is shown again and again. -/
theorem listings_incomplete :
    ¬ Complete (following (getWorkflows plainCodec oneMillisecond 0) (some 1))
      (sorted WorkflowRow.stamp olderThan (WorkflowRow.listed 0) oneMillisecond.workflows) ∧
    ¬ Complete (following (getEvents plainCodec oneMillisecond 0 1 1) (some 1))
      (sorted WorkflowRunEventRow.stamp newerThan (WorkflowRunEventRow.listed 0 1 1)
        oneMillisecond.events) := by
  constructor
  · intro complete
    have whole := (@listing_complete _ _ _ _ _ plainCodec _ 50 _ orders_olderThan
      oneMillisecond.workflowIds (single 200 (by decide)) (by decide) fun _ => rfl).mp complete
    have tells := (tellsNext_iff oneMillisecond.workflowIds 1).mp whole
    have rows : sorted WorkflowRow.stamp olderThan (WorkflowRow.listed 0) oneMillisecond.workflows =
        [⟨1, 0, 1500⟩, ⟨2, 0, 1200⟩] := List.mergeSort_of_pairwise (by decide)
    exact absurd (tells [] _ _ [] rows (Nat.one_dvd _)) (by decide)
  · intro complete
    have whole := (@listing_complete _ _ _ _ _ plainCodec _ 200 _ orders_newerThan
      oneMillisecond.eventIds (single 500 (by decide)) (by decide) fun _ => rfl).mp complete
    have ends := (endsWhole_iff oneMillisecond.eventIds 1).mp whole
    have rows : sorted WorkflowRunEventRow.stamp newerThan (WorkflowRunEventRow.listed 0 1 1)
        oneMillisecond.events = [⟨3, 0, 1, 1, 1500⟩] := List.mergeSort_of_pairwise (by decide)
    exact absurd (ends [] _ [] rows (.inr rfl)) (by decide)

end Vespid.Db.Listings
