import Mathlib.Data.List.Nodup

/-!
# Reading a listing by cursors

A reader asks for a page, then for the page behind the cursor it was given, until it is given no
cursor. It has seen every row once, in order, when the cursor of every row that can end a page
finds exactly the rows behind that row.
-/

namespace Keyset
variable {α γ : Type}

/-- The pages a reader is served from a cursor on. A refused page ends in no walk. -/
inductive Walk (fetch : Option γ → Option (List α × Option γ)) :
    Option γ → List (List α) → Prop where
  | last {c : Option γ} {page : List α} (served : fetch c = some (page, none)) :
      Walk fetch c [page]
  | next {c : Option γ} {page : List α} {d : γ} {rest : List (List α)}
      (served : fetch c = some (page, some d)) (tail : Walk fetch (some d) rest) :
      Walk fetch c (page :: rest)

/-- Following the cursors ends and has shown every row once, in order. -/
def Complete (fetch : Option γ → Option (List α × Option γ)) (rows : List α) : Prop :=
  ∃ pages, Walk fetch none pages ∧ pages.flatten = rows

/-- The rows behind a cursor. -/
def behind (passes : γ → α → Bool) (rows : List α) : Option γ → List α
  | none => rows
  | some c => rows.filter (passes c)

/-- Every page has the first rows behind its cursor, and hands out the cursor of its last row. -/
def Serves (fetch : Option γ → Option (List α × Option γ)) (passes : γ → α → Bool)
    (cursorOf : α → γ) (limit : Nat) (rows : List α) : Prop :=
  ∀ c, (∀ d ∈ c, ∃ x, d = cursorOf x) → fetch c =
    some ((behind passes rows c).take limit,
      ((behind passes rows c).take limit).getLast?.map cursorOf)

/-- The cursor of every row that can end a page finds exactly the rows behind it. -/
def Resumes (passes : γ → α → Bool) (cursorOf : α → γ) (limit : Nat) (rows : List α) : Prop :=
  ∀ pre x post, rows = pre ++ x :: post → (limit ∣ pre.length + 1 ∨ post = []) →
    rows.filter (passes (cursorOf x)) = post

variable {fetch : Option γ → Option (List α × Option γ)} {passes : γ → α → Bool}
  {cursorOf : α → γ} {limit : Nat} {rows : List α}

/-- A full page, or the rest. -/
theorem front_length (post : List α) :
    (post.take limit).length = limit ∨ post.drop limit = [] := by
  rcases Nat.le_total limit post.length with long | short
  · exact .inl (List.length_take_of_le long)
  · exact .inr (List.drop_eq_nil_of_le short)

theorem walk_of_resumes (serves : Serves fetch passes cursorOf limit rows) (pos : 0 < limit)
    (resumes : Resumes passes cursorOf limit rows) :
    ∀ (n : Nat) (pre post : List α) (c : Option γ), post.length ≤ n → rows = pre ++ post →
      (∀ d ∈ c, ∃ x, d = cursorOf x) → (limit ∣ pre.length ∨ post = []) →
      behind passes rows c = post → ∃ pages, Walk fetch c pages ∧ pages.flatten = post := by
  intro n
  induction n with
  | zero =>
    intro pre post c short _ known _ found
    obtain rfl : post = [] := List.length_eq_zero_iff.mp (by omega)
    have served := serves c known
    rw [found] at served
    exact ⟨[[]], .last (by simpa using served), rfl⟩
  | succ n ih =>
    intro pre post c short split known aligned found
    have served := serves c known
    rw [found] at served
    by_cases empty : post = []
    · subst empty
      exact ⟨[[]], .last (by simpa using served), rfl⟩
    · have filled : post.take limit ≠ [] := by
        simp only [ne_eq, List.take_eq_nil_iff, not_or]
        exact ⟨by omega, empty⟩
      obtain ⟨init, x, front⟩ := List.eq_nil_or_concat' (post.take limit) |>.resolve_left filled
      have parts : post = init ++ x :: post.drop limit := by
        have whole := List.take_append_drop limit post
        rw [front, List.append_assoc, List.singleton_append] at whole
        exact whole.symm
      have ends : limit ∣ (pre ++ init).length + 1 ∨ post.drop limit = [] := by
        rcases @front_length _ limit post with full | rest
        · left
          rw [front, List.length_append, List.length_singleton] at full
          rw [List.length_append, Nat.add_assoc, full]
          exact Nat.dvd_add (aligned.resolve_right empty) (Nat.dvd_refl _)
        · exact .inr rest
      have split' : rows = (pre ++ init) ++ x :: post.drop limit := by
        rw [List.append_assoc, ← parts]
        exact split
      have after := resumes _ x _ split' ends
      obtain ⟨pages, walk, same⟩ := ih (pre ++ init ++ [x]) (post.drop limit) (some (cursorOf x))
        (by rw [List.length_drop]; omega) (by simpa using split')
        (by intro d is; exact ⟨x, (Option.some.inj is).symm⟩)
        (by simpa [Nat.add_assoc] using ends) after
      refine ⟨post.take limit :: pages, .next ?_ walk, ?_⟩
      · rw [served, front]
        simp
      · rw [List.flatten_cons, same, List.take_append_drop]

/-- The rows that pass, where every row behind one that passes does too. -/
theorem filter_suffix {p : α → Bool} (upward : rows.Pairwise fun x y => p x = true → p y = true) :
    rows.filter p <:+ rows := by
  induction rows with
  | nil => exact List.suffix_refl _
  | cons x rest ih =>
    obtain ⟨first, upward⟩ := List.pairwise_cons.mp upward
    cases passed : p x with
    | true =>
      have all : (x :: rest).filter p = x :: rest := by
        refine List.filter_eq_self.mpr fun y mem => ?_
        rcases List.mem_cons.mp mem with rfl | later
        · exact passed
        · exact first y later passed
      exact ⟨[], by rw [List.nil_append, all]⟩
    | false =>
      rw [List.filter_cons_of_neg (by simp [passed])]
      exact (ih upward).trans (List.suffix_cons x rest)

/-- A list without repetition has one suffix that starts with a given row. -/
theorem suffix_unique (nodup : rows.Nodup) {x : α} {s t : List α} (left : x :: s <:+ rows)
    (right : x :: t <:+ rows) : x :: s = x :: t := by
  have apart {u v : List α} (shorter : x :: u <:+ x :: v) (within : x :: v <:+ rows) :
      x :: u = x :: v := by
    rcases List.suffix_cons_iff.mp shorter with same | inside
    · exact same
    · have fresh := (List.nodup_cons.mp (nodup.sublist within.sublist)).1
      exact absurd (inside.mem List.mem_cons_self) fresh
  rcases List.suffix_or_suffix_of_suffix left right with shorter | shorter
  · exact apart shorter right
  · exact (apart shorter left).symm

/-- What a reader that is to see `post` is served behind its cursor. -/
theorem behind_of_walk (serves : Serves fetch passes cursorOf limit rows) (pos : 0 < limit)
    (upward : ∀ c, rows.Pairwise fun x y => passes c x = true → passes c y = true)
    (nodup : rows.Nodup) {x : α} {pages : List (List α)} {pre post : List α}
    (walk : Walk fetch (some (cursorOf x)) pages) (split : rows = pre ++ post)
    (shown : pages.flatten = post) : rows.filter (passes (cursorOf x)) = post := by
  have served := serves (some (cursorOf x)) (by intro d is; exact ⟨x, (Option.some.inj is).symm⟩)
  simp only [behind] at served
  cases found : rows.filter (passes (cursorOf x)) with
  | nil =>
    rw [found] at served
    cases walk with
    | last is =>
      rw [is] at served
      simp only [List.take_nil, List.getLast?_nil, Option.map_none, Option.some.injEq,
        Prod.mk.injEq, and_true] at served
      simpa [served] using shown
    | next is tail =>
      rw [is] at served
      simp at served
  | cons y rest =>
    obtain ⟨m, rfl⟩ : ∃ m, limit = m + 1 := ⟨limit - 1, by omega⟩
    rw [found, List.take_succ_cons] at served
    have starts : ∃ more, post = y :: more := by
      cases walk with
      | last is =>
        rw [is] at served
        simp [List.getLast?_cons] at served
      | next is tail =>
        rw [is] at served
        obtain ⟨rfl, -⟩ := Prod.mk.inj (Option.some.inj served)
        exact ⟨_, by simpa using shown.symm⟩
    obtain ⟨more, rfl⟩ := starts
    have left : y :: rest <:+ rows := found ▸ filter_suffix (upward (cursorOf x))
    exact suffix_unique nodup left ⟨pre, split.symm⟩

theorem resumes_of_walk (serves : Serves fetch passes cursorOf limit rows) (pos : 0 < limit)
    (upward : ∀ c, rows.Pairwise fun x y => passes c x = true → passes c y = true)
    (nodup : rows.Nodup) {c : Option γ} {pages : List (List α)} (walk : Walk fetch c pages) :
    ∀ pre post, rows = pre ++ post → (∀ d ∈ c, ∃ x, d = cursorOf x) → pages.flatten = post →
      (limit ∣ pre.length ∨ post = []) → behind passes rows c = post →
      ∀ p x q, post = p ++ x :: q → (limit ∣ (pre ++ p).length + 1 ∨ q = []) →
        rows.filter (passes (cursorOf x)) = q := by
  induction walk with
  | last is =>
    intro pre post split known shown aligned found p x q parts ends
    have served := serves _ known
    rw [is, found] at served
    obtain ⟨rfl, none_⟩ := Prod.mk.inj (Option.some.inj served)
    have empty : post.take limit = [] := by
      cases page : post.take limit with
      | nil => rfl
      | cons y rest => simp [page, List.getLast?_cons] at none_
    rw [parts] at empty
    simp only [List.take_eq_nil_iff] at empty
    rcases empty with zero | nil
    · omega
    · simp at nil
  | @next c page d rest is tail ih =>
    intro pre post split known shown aligned found p x q parts ends
    have served := serves _ known
    rw [is, found] at served
    obtain ⟨rfl, handed⟩ := Prod.mk.inj (Option.some.inj served)
    obtain ⟨y, last, same⟩ := Option.map_eq_some_iff.mp handed.symm
    subst same
    obtain ⟨init, front⟩ := List.getLast?_eq_some_iff.mp last
    have whole : post = init ++ y :: post.drop limit := by
      have all := List.take_append_drop limit post
      rw [front, List.append_assoc, List.singleton_append] at all
      exact all.symm
    have left : rest.flatten = post.drop limit := by
      have all := shown
      rw [List.flatten_cons] at all
      exact List.append_cancel_left (all.trans (List.take_append_drop limit post).symm)
    have split' : rows = (pre ++ init ++ [y]) ++ post.drop limit := by
      rw [split, List.append_assoc, List.append_assoc, List.singleton_append, ← whole]
    have after := behind_of_walk serves pos upward nodup tail split' left
    have filled : post ≠ [] := by
      rw [parts]
      simp
    have start : limit ∣ pre.length := aligned.resolve_right filled
    have size : init.length + 1 ≤ limit := by
      have short := List.length_take_le limit post
      rwa [front, List.length_append, List.length_singleton] at short
    rcases Nat.lt_trichotomy p.length init.length with inside | same | beyond
    · -- no page ends inside another
      rcases ends with divides | rfl
      · rw [List.length_append, Nat.add_assoc] at divides
        have divides : limit ∣ p.length + 1 := (Nat.dvd_add_right start).mp divides
        have := Nat.le_of_dvd (by omega) divides
        omega
      · have lengths := congrArg List.length (parts.symm.trans whole)
        simp only [List.length_append, List.length_cons, List.length_nil] at lengths
        omega
    · obtain ⟨-, rest⟩ := List.append_inj (parts.symm.trans whole) same
      obtain ⟨rfl, rfl⟩ := List.cons.inj rest
      exact after
    · have aligned' : limit ∣ (pre ++ init ++ [y]).length ∨ post.drop limit = [] := by
        rcases @front_length _ limit post with full | rest
        · left
          rw [front, List.length_append, List.length_singleton] at full
          rw [List.length_append, List.length_append, List.length_singleton, Nat.add_assoc, full]
          exact Nat.dvd_add start (Nat.dvd_refl _)
        · exact .inr rest
      obtain ⟨p', rfl⟩ : ∃ p', p = init ++ y :: p' := by
        have prefix_ : init ++ [y] <+: p := by
          refine @List.prefix_of_prefix_length_le _ _ _ post ⟨post.drop limit, ?_⟩
            ⟨x :: q, parts.symm⟩ ?_
          · rw [List.append_assoc, List.singleton_append]
            exact whole.symm
          · rw [List.length_append, List.length_singleton]
            omega
        obtain ⟨p', rfl⟩ := prefix_
        exact ⟨p', by simp⟩
      have rest : post.drop limit = p' ++ x :: q := by
        have all := whole.symm.trans parts
        rw [List.append_assoc, List.cons_append] at all
        exact (List.cons.inj (List.append_cancel_left all)).2
      refine ih _ _ split' (by intro d is; exact ⟨y, (Option.some.inj is).symm⟩) left aligned' after
        p' x q rest ?_
      simpa [Nat.add_assoc] using ends

/-- A reader sees every row once, in order, exactly if every cursor it can be given finds the rest. -/
theorem complete_iff (serves : Serves fetch passes cursorOf limit rows) (pos : 0 < limit)
    (upward : ∀ c, rows.Pairwise fun x y => passes c x = true → passes c y = true)
    (nodup : rows.Nodup) : Complete fetch rows ↔ Resumes passes cursorOf limit rows := by
  constructor
  · rintro ⟨pages, walk, shown⟩ pre x post split ends
    exact resumes_of_walk serves pos upward nodup walk [] rows rfl (by simp) shown
      (.inl (Nat.dvd_zero _)) rfl pre x post split (by simpa using ends)
  · intro resumes
    exact walk_of_resumes serves pos resumes rows.length [] rows none (Nat.le_refl _) rfl (by simp)
      (.inl (Nat.dvd_zero _)) rfl

end Keyset
