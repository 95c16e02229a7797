import Mathlib.Tactic.Common

/-!
# Partial maps that are inverse up to exceptions

Two partial maps in opposite directions, with the entries of each that the other does not answer.
-/

namespace Rcoder

variable {α β : Type} {f : α → Option β} {g : β → Option α} {A A' B B' : α → β → Prop}

/-- Entries of `f` are answered by `g` up to `A`, and those of `g` by `f` up to `B`. -/
structure InverseUpto (f : α → Option β) (g : β → Option α) (A B : α → β → Prop) : Prop where
  forward : ∀ a b, f a = some b → g b = some a ∨ A a b
  backward : ∀ a b, g b = some a → f a = some b ∨ B a b

namespace InverseUpto

theorem inverse (h : InverseUpto f g (fun _ _ => False) fun _ _ => False) (a : α) (b : β) :
    f a = some b ↔ g b = some a := by
  constructor
  · intro hab
    exact (h.forward a b hab).resolve_right id
  · intro hba
    exact (h.backward a b hba).resolve_right id

theorem mono (h : InverseUpto f g A B) (hA : ∀ a b, A a b → A' a b) (hB : ∀ a b, B a b → B' a b) :
    InverseUpto f g A' B' where
  forward a b hab := (h.forward a b hab).imp_right (hA a b)
  backward a b hba := (h.backward a b hba).imp_right (hB a b)

end InverseUpto

end Rcoder
