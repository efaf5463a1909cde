/-
# A ledger of openings

Names are given to what is opened, taken back when it is closed, and given again. The ledger
numbers the openings, says which opening stands behind a name that is in use, and counts the
closes of each. An opening either stands behind exactly one name and was never closed, or
behind none and was closed once. Nothing here knows what is opened.
-/

import Mathlib

variable {N : Type*}

/-- The openings so far, and what became of them. -/
structure OpenLedger (openAs : N → Option ℕ) (openings : ℕ) (closes : ℕ → ℕ) : Prop where
  oneName : ∀ n n' k, openAs n = some k → openAs n' = some k → n = n'
  recent : ∀ n k, openAs n = some k → k < openings
  unclosed : ∀ n k, openAs n = some k → closes k = 0
  closedOnce : ∀ k < openings, (∀ n, openAs n ≠ some k) → closes k = 1
  ahead : ∀ k, openings ≤ k → closes k = 0

namespace OpenLedger

variable {openAs after : N → Option ℕ} {openings : ℕ} {closes : ℕ → ℕ} {n : N} {k : ℕ}

theorem blank : OpenLedger (fun _ : N => none) 0 (fun _ => 0) where
  oneName _ _ _ := nofun
  recent _ _ := nofun
  unclosed _ _ := nofun
  closedOnce k before := absurd before (Nat.not_lt_zero k)
  ahead _ _ := rfl

theorem congr (ledger : OpenLedger openAs openings closes) (same : ∀ n, after n = openAs n) :
    OpenLedger after openings closes := by
  obtain rfl : after = openAs := funext same
  exact ledger

/-- A free name is given to the next opening. -/
theorem entry (ledger : OpenLedger openAs openings closes) (free : openAs n = none)
    (named : after n = some openings) (others : ∀ m ≠ n, after m = openAs m) :
    OpenLedger after (openings + 1) closes := by
  -- no name stands for the next opening yet
  have fresh {m : N} (other : m ≠ n) : after m ≠ some openings := by
    intro was
    rw [others m other] at was
    exact lt_irrefl _ (ledger.recent m openings was)
  refine ⟨fun m m' j is is' => ?_, fun m j is => ?_, fun m j is => ?_, fun j before gone => ?_,
    fun j later => ledger.ahead j (by omega)⟩
  · by_cases here : m = n
    · by_cases here' : m' = n
      · rw [here, here']
      · rw [here, named] at is
        exact absurd (is'.trans is.symm) (fresh here')
    · by_cases here' : m' = n
      · rw [here', named] at is'
        exact absurd (is.trans is'.symm) (fresh here)
      · exact ledger.oneName m m' j (others m here ▸ is) (others m' here' ▸ is')
  · by_cases here : m = n
    · rw [here, named] at is
      obtain rfl := Option.some.inj is
      omega
    · have := ledger.recent m j (others m here ▸ is)
      omega
  · by_cases here : m = n
    · rw [here, named] at is
      obtain rfl := Option.some.inj is
      exact ledger.ahead openings le_rfl
    · exact ledger.unclosed m j (others m here ▸ is)
  · have older : j < openings := by
      have other : j ≠ openings := fun same => gone n (same ▸ named)
      omega
    refine ledger.closedOnce j older fun m was => ?_
    have other : m ≠ n := by
      rintro rfl
      rw [free] at was
      cases was
    exact gone m ((others m other).trans was)

/-- The name is taken back. -/
theorem close (ledger : OpenLedger openAs openings closes) (is : openAs n = some k)
    (gone : after n = none) (others : ∀ m ≠ n, after m = openAs m) :
    OpenLedger after openings (Function.update closes k (closes k + 1)) := by
  -- Every name that still stands for an opening stood for it before.
  have before {m : N} {j : ℕ} (isM : after m = some j) : openAs m = some j ∧ j ≠ k := by
    have other : m ≠ n := by
      rintro rfl
      rw [gone] at isM
      cases isM
    have was := others m other ▸ isM
    refine ⟨was, ?_⟩
    rintro rfl
    exact other (ledger.oneName m n j was is)
  have first := ledger.recent n k is
  refine ⟨fun m m' j isM isM' => ledger.oneName m m' j (before isM).1 (before isM').1,
    fun m j isM => ledger.recent m j (before isM).1, fun m j isM => ?_, fun j early out => ?_,
    fun j later => ?_⟩
  · rw [Function.update_of_ne (before isM).2]
    exact ledger.unclosed m j (before isM).1
  · by_cases here : j = k
    · subst here
      rw [Function.update_self, ledger.unclosed n j is]
    · rw [Function.update_of_ne here]
      refine ledger.closedOnce j early fun m was => ?_
      have other : m ≠ n := by
        rintro rfl
        exact here (Option.some.inj (was.symm.trans is))
      exact out m ((others m other).trans was)
  · have other : j ≠ k := by omega
    rw [Function.update_of_ne other]
    exact ledger.ahead j later

/-- What became of an opening. -/
theorem fate (ledger : OpenLedger openAs openings closes) (early : k < openings) :
    ((∃! n, openAs n = some k) ∧ closes k = 0) ∨ ((∀ n, openAs n ≠ some k) ∧ closes k = 1) := by
  by_cases named : ∃ n, openAs n = some k
  · obtain ⟨n, is⟩ := named
    exact .inl ⟨⟨n, is, fun m isM => ledger.oneName m n k isM is⟩, ledger.unclosed n k is⟩
  · have out : ∀ n, openAs n ≠ some k := fun n is => named ⟨n, is⟩
    exact .inr ⟨out, ledger.closedOnce k early out⟩

end OpenLedger
