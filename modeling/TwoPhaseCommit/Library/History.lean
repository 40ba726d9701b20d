import Mathlib.Tactic.Common

/-! Lists that grow at the end and are read as histories: every entry is judged by
the entries before it. -/

set_option autoImplicit false

namespace Library

inductive History {α : Type} (relation : List α → α → Prop) : List α → Prop where
  | nil : History relation []
  | snoc {entries : List α} {entry : α} :
      History relation entries → relation entries entry → History relation (entries ++ [entry])

namespace History

variable {α : Type} {relation : List α → α → Prop} {first last : List α} {entry : α}

/-- What a history says about one of its entries. -/
theorem at_entry (history : History relation (first ++ entry :: last)) : relation first entry := by
  generalize same : first ++ entry :: last = entries at history
  induction history generalizing last with
  | nil => simp at same
  | @snoc earlier newest before judged ih =>
      rcases List.eq_nil_or_concat last with rfl | ⟨middle, final, rfl⟩
      · obtain ⟨rfl, rfl⟩ := List.append_singleton_inj.mp same
        exact judged
      · rw [List.concat_eq_append, ← List.cons_append, ← List.append_assoc] at same
        exact ih (List.append_singleton_inj.mp same).1

end History

end Library
