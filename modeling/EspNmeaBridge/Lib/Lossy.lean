/-
# Lists kept but for losses

What arrives over a lossy way is some of what was offered, in order. How many elements may
be missing adds up along the way, and where none may be missing everything arrived.
-/

import Mathlib

namespace Lossy

variable {α β : Type*} {m n : ℕ} {kept between offered : List α}

/-- The elements kept are those offered, in order, but for at most `n`. -/
structure KeptBut (n : ℕ) (kept offered : List α) : Prop where
  order : kept.Sublist offered
  few : offered.length ≤ kept.length + n

namespace KeptBut

theorem refl (l : List α) : KeptBut 0 l l := ⟨List.Sublist.refl l, le_rfl⟩

theorem of_eq (same : kept = offered) : KeptBut 0 kept offered := same ▸ refl kept

theorem trans (first : KeptBut m between offered) (second : KeptBut n kept between) :
    KeptBut (m + n) kept offered where
  order := second.order.trans first.order
  few := by
    have := first.few
    have := second.few
    omega

theorem append_left (keeps : KeptBut n kept offered) (front : List α) :
    KeptBut n (front ++ kept) (front ++ offered) where
  order := keeps.order.append_left front
  few := by
    have := keeps.few
    simp only [List.length_append]
    omega

theorem append_right (keeps : KeptBut n kept offered) (back : List α) :
    KeptBut n (kept ++ back) (offered ++ back) where
  order := keeps.order.append_right back
  few := by
    have := keeps.few
    simp only [List.length_append]
    omega

theorem map (keeps : KeptBut n kept offered) (f : α → β) :
    KeptBut n (kept.map f) (offered.map f) where
  order := keeps.order.map f
  few := by simpa using keeps.few

theorem eq (keeps : KeptBut 0 kept offered) : kept = offered :=
  keeps.order.eq_of_length_le keeps.few

end KeptBut

end Lossy
