import TwoPhaseCommit.Library.Machine
import Mathlib.Data.List.Sort

/-! Priority queues that serve the items of one key in the order of their insertion:
the list of the waiting items as their model, and what any machine that answers like
it returns over a whole run. -/

set_option autoImplicit false

namespace Library.StableQueue

variable {α κ σ : Type}

inductive Call (α : Type) where
  | insert (item : α)
  | next
  deriving DecidableEq, Repr

def Call.item? : Call α → Option α
  | .insert item => some item
  | .next => none

/-- The items handed in, in their order. -/
def inserted (trace : List (Call α × Option α)) : List α := trace.filterMap (·.1.item?)

/-- The items handed out, in their order. -/
def returned (trace : List (Call α × Option α)) : List α := trace.filterMap Prod.snd

section Order

variable [LinearOrder κ] (key : α → κ)

/-- The stable sort by key. -/
def sort (items : List α) : List α :=
  items.mergeSort fun left right => decide (key left ≤ key right)

/-- The first of the waiting items of the least key, and the others. -/
def select : List α → Option (α × List α)
  | [] => none
  | item :: rest =>
      match select rest with
      | none => some (item, [])
      | some (best, others) =>
          if key item ≤ key best then some (item, rest) else some (best, item :: others)

/-- The queue as the list of the waiting items, in the order of their insertion. -/
def model : Machine (List α) (Call α) (Option α) where
  step waiting
    | .insert item => (waiting ++ [item], none)
    | .next =>
        match select key waiting with
        | none => (waiting, none)
        | some (item, rest) => (rest, some item)

variable {key}

theorem select_eq_none_iff {waiting : List α} : select key waiting = none ↔ waiting = [] := by
  cases waiting with
  | nil => exact ⟨fun _ => rfl, fun _ => rfl⟩
  | cons item rest =>
      simp only [select, reduceCtorEq, iff_false]
      split
      · simp
      · split <;> simp

/-- What is selected comes before all items of its key, and no key is less. -/
theorem select_eq_some {waiting rest : List α} {item : α}
    (selected : select key waiting = some (item, rest)) :
    ∃ before behind, waiting = before ++ item :: behind ∧ rest = before ++ behind ∧
      (∀ other ∈ before, key item < key other) ∧ ∀ other ∈ behind, key item ≤ key other := by
  induction waiting generalizing item rest with
  | nil => cases selected
  | cons head tail ih =>
      rw [select] at selected
      split at selected
      · rename_i empty
        cases selected
        obtain rfl := select_eq_none_iff.mp empty
        exact ⟨[], [], rfl, rfl, nofun, nofun⟩
      · rename_i best others found
        obtain ⟨before, behind, same, left, above, beyond⟩ := ih found
        split at selected
        · rename_i least
          cases selected
          refine ⟨[], tail, rfl, rfl, nofun, fun other member => ?_⟩
          rw [same] at member
          rcases List.mem_append.mp member with earlier | later
          · exact least.trans (above other earlier).le
          · rcases List.mem_cons.mp later with rfl | later
            · exact least
            · exact least.trans (beyond other later)
        · rename_i greater
          cases selected
          refine ⟨head :: before, behind, ?_, ?_, ?_, beyond⟩
          · rw [same, List.cons_append]
          · rw [left, List.cons_append]
          · intro other member
            rcases List.mem_cons.mp member with rfl | member
            · exact not_le.mp greater
            · exact above other member

theorem select_append {before behind : List α} {item : α}
    (above : ∀ other ∈ before, key item < key other)
    (beyond : ∀ other ∈ behind, key item ≤ key other) :
    select key (before ++ item :: behind) = some (item, before ++ behind) := by
  induction before with
  | nil =>
      rw [List.nil_append, select]
      cases selected : select key behind with
      | none =>
          obtain rfl := select_eq_none_iff.mp selected
          rfl
      | some result =>
          obtain ⟨best, others⟩ := result
          obtain ⟨earlier, later, rfl, -⟩ := select_eq_some selected
          exact if_pos (beyond best (List.mem_append_right _ (.head _)))
  | cons head rest ih =>
      rw [List.cons_append, select, ih fun other member => above other (.tail _ member)]
      exact if_neg (not_le.mpr (above head (.head _)))

/-! ## Sorting -/

private theorem orderedInsert_append {item : α} {before behind : List α}
    (above : ∀ other ∈ before, ¬ key item ≤ key other)
    (below : ∀ other ∈ behind, key item ≤ key other) :
    (before ++ behind).orderedInsert (key · ≤ key ·) item = before ++ item :: behind := by
  induction before with
  | nil =>
      cases behind with
      | nil => rfl
      | cons other rest => exact if_pos (below other (.head _))
  | cons other rest ih =>
      rw [List.cons_append, List.orderedInsert_cons, if_neg (above other (.head _)),
        ih fun item member => above item (.tail _ member), List.cons_append]

/-- There is only one stable sort. -/
theorem sort_eq_insertionSort (items : List α) :
    sort key items = items.insertionSort (key · ≤ key ·) := by
  induction items with
  | nil => rw [sort, List.mergeSort_nil, List.insertionSort_nil]
  | cons item rest ih =>
      have trans : ∀ first second third : α, decide (key first ≤ key second) = true →
          decide (key second ≤ key third) = true → decide (key first ≤ key third) = true := by
        simpa using fun first second third => le_trans
      have total : ∀ first second : α,
          (decide (key first ≤ key second) || decide (key second ≤ key first)) = true := by
        simpa using fun first second => le_total (key first) (key second)
      obtain ⟨before, behind, split, rejoined, above⟩ := List.mergeSort_cons trans total item rest
      have ordered := List.pairwise_mergeSort trans total (item :: rest)
      rw [split] at ordered
      have below := (List.pairwise_cons.mp (List.pairwise_append.mp ordered).2.1).1
      rw [sort] at ih ⊢
      rw [List.insertionSort_cons, ← ih, rejoined, split, orderedInsert_append]
      · simpa using above
      · simpa using below

/-- Selection takes the head off the stable sort. -/
theorem sort_of_select {waiting rest : List α} {item : α}
    (selected : select key waiting = some (item, rest)) :
    sort key waiting = item :: sort key rest := by
  simp only [sort_eq_insertionSort]
  induction waiting generalizing item rest with
  | nil => cases selected
  | cons head tail ih =>
      rw [select] at selected
      split at selected
      · rename_i empty
        cases selected
        obtain rfl := select_eq_none_iff.mp empty
        rfl
      · rename_i best others found
        rw [List.insertionSort_cons, ih found]
        split at selected
        · rename_i least
          cases selected
          rw [List.orderedInsert_cons, if_pos least, ih found]
        · rename_i greater
          cases selected
          rw [List.orderedInsert_cons, if_neg greater, List.insertionSort_cons]

/-! ## The model -/

variable {waiting rest : List α} {item : α}

@[simp] theorem next_insert : (model key).next waiting (.insert item) = waiting ++ [item] := rfl

@[simp] theorem output_insert : (model key).output waiting (.insert item) = none := rfl

theorem step_select (selected : select key waiting = some (item, rest)) :
    (model key).next waiting .next = rest ∧ (model key).output waiting .next = some item := by
  simp [Machine.next, Machine.output, model, selected]

variable (key) in
/-- Every outcome of one call. -/
inductive Called (waiting : List α) : Call α → List α → Option α → Prop where
  | inserts {item : α} : Called waiting (.insert item) (waiting ++ [item]) none
  | takes {item : α} {rest : List α} :
      select key waiting = some (item, rest) → Called waiting .next rest (some item)
  | fails : waiting = [] → Called waiting .next waiting none

theorem model_called (waiting : List α) (call : Call α) :
    Called key waiting call ((model key).next waiting call) ((model key).output waiting call) := by
  cases call with
  | insert item => exact .inserts
  | next =>
      cases selected : select key waiting with
      | none =>
          obtain rfl := select_eq_none_iff.mp selected
          exact .fails rfl
      | some result =>
          obtain ⟨item, rest⟩ := result
          obtain ⟨next, output⟩ := step_select selected
          rw [next, output]
          exact .takes selected

variable (key) in
/-- The answer to a call while these items are waiting. -/
def Answers (waiting : List α) : Call α → Option α → Prop
  | .insert _, answer => answer = none
  | .next, none => waiting = []
  | .next, some item => ∃ before behind, waiting = before ++ item :: behind ∧
      (∀ other ∈ before, key item < key other) ∧ ∀ other ∈ behind, key item ≤ key other

theorem Called.answers {call : Call α} {answer : Option α}
    (called : Called key waiting call rest answer) : Answers key waiting call answer := by
  cases called with
  | inserts => exact rfl
  | takes selected =>
      obtain ⟨before, behind, split, -, above, beyond⟩ := select_eq_some selected
      exact ⟨before, behind, split, above, beyond⟩
  | fails drained => exact drained

theorem trace_inserts (waiting items : List α) :
    (model key).trace waiting (items.map .insert) = items.map fun item => (.insert item, none) := by
  induction items generalizing waiting with
  | nil => rfl
  | cons item rest ih =>
      rw [List.map_cons, Machine.trace_cons, ih, output_insert, List.map_cons]

theorem run_inserts (waiting items : List α) :
    (model key).run waiting (items.map .insert) = waiting ++ items := by
  induction items generalizing waiting with
  | nil => exact (List.append_nil _).symm
  | cons item rest ih =>
      rw [List.map_cons, Machine.run_cons, ih, next_insert, List.append_assoc,
        List.singleton_append]

/-- Enough calls take out everything that waits, sorted. -/
theorem returned_pops {count : Nat} (enough : waiting.length ≤ count) :
    returned ((model key).trace waiting (List.replicate count .next)) = sort key waiting := by
  induction count generalizing waiting with
  | zero =>
      obtain rfl := List.length_eq_zero_iff.mp (Nat.le_zero.mp enough)
      rw [sort, List.mergeSort_nil]
      rfl
  | succ count ih =>
      rw [List.replicate_succ, Machine.trace_cons]
      cases selected : select key waiting with
      | none =>
          obtain rfl := select_eq_none_iff.mp selected
          exact ih (Nat.zero_le _)
      | some result =>
          obtain ⟨item, rest⟩ := result
          obtain ⟨before, behind, rfl, left, -⟩ := select_eq_some selected
          have shorter : rest.length ≤ count := by
            simp only [left, List.length_append, List.length_cons] at enough ⊢
            omega
          obtain ⟨next, output⟩ := step_select selected
          rw [next, output, sort_of_select selected, ← ih shorter]
          rfl

/-! ## The account of a trace -/

section Account

variable [DecidableEq α]

/-- What was inserted and not yet returned, in the order of its insertion. -/
def outstanding (trace : List (Call α × Option α)) : List α :=
  (inserted trace).diff (returned trace)

private theorem diff_concat {items taken : List α} (contained : taken.Subperm items) (item : α) :
    (items ++ [item]).diff taken = items.diff taken ++ [item] := by
  induction taken generalizing items with
  | nil => rfl
  | cons head rest ih =>
      have left : rest.Subperm (items.erase head) := by simpa using contained.erase head
      rw [List.diff_cons, List.diff_cons,
        List.erase_append_left _ (contained.subset (.head _)), ih left]

section Concat

omit [DecidableEq α]

variable (trace : List (Call α × Option α)) (item : α) (answer : Option α)

@[simp] theorem inserted_insert :
    inserted (trace ++ [(.insert item, answer)]) = inserted trace ++ [item] := by
  simp [inserted, Call.item?]

@[simp] theorem inserted_next : inserted (trace ++ [(.next, answer)]) = inserted trace := by
  simp [inserted, Call.item?]

@[simp] theorem returned_some (call : Call α) :
    returned (trace ++ [(call, some item)]) = returned trace ++ [item] := by
  simp [returned]

@[simp] theorem returned_none (call : Call α) :
    returned (trace ++ [(call, none)]) = returned trace := by
  simp [returned]

end Concat

/-- What waits is what is outstanding, and nothing is lost or made up. -/
structure Accounts (trace : List (Call α × Option α)) (waiting : List α) : Prop where
  waiting_eq : waiting = outstanding trace
  conserved : (returned trace ++ waiting).Perm (inserted trace)

variable {trace : List (Call α × Option α)}

theorem Accounts.insert (accounts : Accounts trace waiting) (item : α) :
    Accounts (trace ++ [(.insert item, none)]) (waiting ++ [item]) := by
  obtain ⟨same, conserved⟩ := accounts
  have contained : (returned trace).Subperm (inserted trace) :=
    (List.sublist_append_left _ _).subperm.trans conserved.subperm
  constructor
  · rw [outstanding, inserted_insert, returned_none, diff_concat contained, same, outstanding]
  · rw [inserted_insert, returned_none, ← List.append_assoc]
    exact conserved.append_right _

theorem Accounts.take (accounts : Accounts trace waiting)
    (selected : select key waiting = some (item, rest)) :
    Accounts (trace ++ [(.next, some item)]) rest := by
  obtain ⟨same, conserved⟩ := accounts
  obtain ⟨before, behind, split, left, above, -⟩ := select_eq_some selected
  have absent : item ∉ before := fun member => lt_irrefl _ (above item member)
  constructor
  · rw [outstanding, inserted_next, returned_some, List.diff_append, ← outstanding, ← same,
      split, left, List.diff_cons, List.diff_nil, List.erase_append_right _ absent,
      List.erase_cons_head]
  · rw [inserted_next, returned_some, List.append_assoc, List.singleton_append, left]
    exact (List.perm_middle.symm.append_left _).trans (split ▸ conserved)

theorem Accounts.called {call : Call α} {answer : Option α} (accounts : Accounts trace waiting)
    (called : Called key waiting call rest answer) : Accounts (trace ++ [(call, answer)]) rest := by
  cases called with
  | inserts => exact accounts.insert _
  | takes selected => exact accounts.take selected
  | fails _ =>
      obtain ⟨same, conserved⟩ := accounts
      constructor
      · rw [outstanding, inserted_next, returned_none, ← outstanding, same]
      · rw [inserted_next, returned_none]
        exact conserved

theorem run_accounts (calls : List (Call α)) :
    Accounts ((model key).trace [] calls) ((model key).run [] calls) := by
  apply Machine.trace_induction Accounts
  · exact ⟨rfl, .nil⟩
  · exact fun call accounts => accounts.called (model_called _ call)

/-! ## Stable queues -/

variable (key) in
/-- Of the items not yet returned, the first inserted of the least key is next, and
every item is returned once. -/
structure IsStableQueue (machine : Machine σ (Call α) (Option α)) (start : σ) : Prop where
  answers : ∀ (calls : List (Call α)) (call : Call α),
    Answers key (outstanding (machine.trace start calls)) call
      (machine.output (machine.run start calls) call)
  conserved : ∀ calls : List (Call α),
    (returned (machine.trace start calls) ++ outstanding (machine.trace start calls)).Perm
      (inserted (machine.trace start calls))
  drained : ∀ (calls : List (Call α)) (count : Nat),
    (outstanding (machine.trace start calls)).length ≤ count →
      returned (machine.trace start (calls ++ List.replicate count .next)) =
        returned (machine.trace start calls) ++ sort key (outstanding (machine.trace start calls))
  sorted : ∀ (items : List α) (count : Nat), items.length ≤ count →
    returned (machine.trace start (items.map .insert ++ List.replicate count .next)) =
      sort key items

theorem model_isStableQueue : IsStableQueue key (model key) [] where
  answers calls call := by
    rw [← (run_accounts calls).waiting_eq]
    exact (model_called _ call).answers
  conserved calls := by
    have accounts : Accounts ((model key).trace [] calls) _ := run_accounts calls
    rw [← accounts.waiting_eq]
    exact accounts.conserved
  drained calls count enough := by
    rw [← (run_accounts calls).waiting_eq] at enough ⊢
    rw [Machine.trace_append, returned, List.filterMap_append]
    exact congrArg _ (returned_pops enough)
  sorted items count enough := by
    rw [Machine.trace_append, trace_inserts, run_inserts, returned, List.filterMap_append]
    have nothing : (items.map fun item => (Call.insert item, none)).filterMap Prod.snd =
        ([] : List α) := by simp
    rw [nothing, List.nil_append]
    exact returned_pops enough

/-- A machine that cannot be told from the model is a stable queue. -/
theorem isStableQueue_of_trace_eq {machine : Machine σ (Call α) (Option α)} {start : σ}
    (same : ∀ calls : List (Call α), machine.trace start calls = (model key).trace [] calls) :
    IsStableQueue key machine start where
  answers calls call := by
    rw [Machine.output_eq same, same]
    exact model_isStableQueue.answers calls call
  conserved calls := by
    rw [same]
    exact model_isStableQueue.conserved calls
  drained calls count := by
    rw [same, same]
    exact model_isStableQueue.drained calls count
  sorted items count := by
    rw [same]
    exact model_isStableQueue.sorted items count

end Account

end Order

end Library.StableQueue
