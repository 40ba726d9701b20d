import Mathlib.Tactic.Common

/-! A max-heap known only by its contract: `pop` removes a greatest item. The
layout of the items is not observable, so a list stands for the backing array. -/

set_option autoImplicit false

namespace Library

structure BinaryHeap (α : Type) where
  items : List α
  deriving DecidableEq, Repr

namespace BinaryHeap

variable {α : Type}

def empty : BinaryHeap α := ⟨[]⟩

def push (heap : BinaryHeap α) (item : α) : BinaryHeap α := ⟨item :: heap.items⟩

def isEmpty (heap : BinaryHeap α) : Bool := heap.items.isEmpty

def greatest? [Ord α] : List α → Option α
  | [] => none
  | item :: rest =>
      match greatest? rest with
      | none => some item
      | some best => if (compare item best).isLT then some best else some item

def pop [Ord α] [DecidableEq α] (heap : BinaryHeap α) : Option (α × BinaryHeap α) :=
  (greatest? heap.items).map fun best => (best, ⟨heap.items.erase best⟩)

theorem isEmpty_iff {heap : BinaryHeap α} : heap.isEmpty = true ↔ heap.items = [] := by
  simp [isEmpty]

section Greatest

variable [Ord α]

theorem greatest?_eq_none_iff {items : List α} : greatest? items = none ↔ items = [] := by
  cases items with
  | nil => simp [greatest?]
  | cons item rest =>
      simp only [greatest?, reduceCtorEq, iff_false]
      split
      · simp
      · split <;> simp

theorem mem_of_greatest? {items : List α} {best : α} (found : greatest? items = some best) :
    best ∈ items := by
  induction items generalizing best with
  | nil => simp [greatest?] at found
  | cons item rest ih =>
      simp only [greatest?] at found
      split at found
      · simp_all
      · rename_i other selected
        split at found
        · exact List.mem_cons_of_mem _ (ih (by simp_all))
        · simp_all

theorem isLE_of_greatest? [Std.TransOrd α] {items : List α} {best : α}
    (found : greatest? items = some best) {item : α} (member : item ∈ items) :
    (compare item best).isLE = true := by
  induction items generalizing best item with
  | nil => simp at member
  | cons head rest ih =>
      simp only [greatest?] at found
      split at found
      · rename_i missing
        have emptyRest := greatest?_eq_none_iff.mp missing
        have same : item = best := by simp_all
        simp [same]
      · rename_i other selected
        split at found
        · rename_i below
          obtain rfl : other = best := by simpa using found
          rcases List.mem_cons.mp member with rfl | member
          · exact Ordering.isLE_iff_eq_lt_or_eq_eq.mpr (.inl (Ordering.isLT_iff_eq_lt.mp below))
          · exact ih selected member
        · rename_i notBelow
          obtain rfl : head = best := by simpa using found
          rcases List.mem_cons.mp member with rfl | member
          · simp
          · have upper : (compare other head).isLE = true := by
              rw [← @Std.OrientedCmp.isGE_iff_isLE _ compare, Ordering.isGE_iff_ne_lt]
              simpa using notBelow
            exact Std.TransCmp.isLE_trans (ih selected member) upper

end Greatest

section Pop

variable [Ord α] [DecidableEq α]

theorem pop_eq_none_iff {heap : BinaryHeap α} : heap.pop = none ↔ heap.items = [] := by
  simp [pop, greatest?_eq_none_iff]

/-- A successful pop takes exactly one item out of the heap. -/
theorem pop_perm {heap rest : BinaryHeap α} {best : α} (popped : heap.pop = some (best, rest)) :
    heap.items.Perm (best :: rest.items) := by
  obtain ⟨best, found, same⟩ := Option.map_eq_some_iff.mp popped
  obtain ⟨rfl, rfl⟩ := Prod.mk.inj same
  exact List.perm_cons_erase (mem_of_greatest? found)

theorem isLE_of_pop [Std.TransOrd α] {heap rest : BinaryHeap α} {best item : α}
    (popped : heap.pop = some (best, rest)) (member : item ∈ heap.items) :
    (compare item best).isLE = true := by
  obtain ⟨best, found, same⟩ := Option.map_eq_some_iff.mp popped
  obtain ⟨rfl, rfl⟩ := Prod.mk.inj same
  exact isLE_of_greatest? found member

end Pop

end BinaryHeap

end Library
