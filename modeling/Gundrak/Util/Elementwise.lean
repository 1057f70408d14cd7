import Mathlib

/-!
# Lists that are related element by element

What `List.Forall₂` and `Option.Rel` give besides what is known of them already: elements that are found at the
same index are related, and so is every element to one of the other list.
-/

universe u v

namespace Elementwise

section pairs

variable {α : Type u} {β : Type v} {r s : α → β → Prop} {l : List α} {l' : List β}

section

variable (h : List.Forall₂ r l l')
include h

theorem exists_of_mem_left {a : α} (ha : a ∈ l) : ∃ b ∈ l', r a b := by
  induction h with
  | nil => cases ha
  | cons hhead _ ih =>
    rcases List.mem_cons.mp ha with rfl | ha
    · exact ⟨_, List.mem_cons_self, hhead⟩
    · obtain ⟨b, hb, hab⟩ := ih ha
      exact ⟨b, List.mem_cons_of_mem _ hb, hab⟩

theorem exists_of_mem_right {b : β} (hb : b ∈ l') : ∃ a ∈ l, r a b := exists_of_mem_left h.flip hb

/-- Only the elements of the two lists need to be looked at. -/
theorem imp_mem (himp : ∀ a ∈ l, ∀ b ∈ l', r a b → s a b) : List.Forall₂ s l l' := by
  induction h with
  | nil => exact .nil
  | @cons a b l l' hhead _ ih =>
    exact .cons (himp a List.mem_cons_self b List.mem_cons_self hhead) (ih fun a' ha' b' hb' ↦
      himp a' (List.mem_cons_of_mem a ha') b' (List.mem_cons_of_mem b hb'))

theorem rel_getElem? (i : ℕ) : Option.Rel r l[i]? l'[i]? := by
  induction h generalizing i with
  | nil => exact .none
  | cons hab _ ih =>
    cases i with
    | zero => exact .some hab
    | succ i => exact ih i

end

end pairs

section preorder

variable {α : Type u} {r : α → α → Prop}

theorem forall₂_trans (htrans : ∀ {a b c}, r a b → r b c → r a c) {l l' l'' : List α} (h : List.Forall₂ r l l')
    (h' : List.Forall₂ r l' l'') : List.Forall₂ r l l'' := by
  induction h generalizing l'' with
  | nil => exact h'
  | cons hab _ ih =>
    cases h' with
    | cons hbc h' => exact .cons (htrans hab hbc) (ih h')

theorem forall₂_modify (hrefl : ∀ a, r a a) {f : α → α} (hf : ∀ a, r a (f a)) (l : List α) (n : ℕ) :
    List.Forall₂ r l (l.modify n f) := by
  induction l generalizing n with
  | nil =>
    simpa using .nil
  | cons a l ih =>
    cases n with
    | zero => exact .cons (hf a) (List.forall₂_same.mpr fun b _ ↦ hrefl b)
    | succ n => exact .cons (hrefl a) (ih n)

theorem rel_refl (hrefl : ∀ a, r a a) : ∀ o : Option α, Option.Rel r o o
  | none => .none
  | some a => .some (hrefl a)

theorem rel_trans (htrans : ∀ {a b c}, r a b → r b c → r a c) {o o' o'' : Option α} (h : Option.Rel r o o')
    (h' : Option.Rel r o' o'') : Option.Rel r o o'' := by
  cases h with
  | none => exact h'
  | some h =>
    cases h' with
    | some h' => exact .some (htrans h h')

end preorder

end Elementwise
