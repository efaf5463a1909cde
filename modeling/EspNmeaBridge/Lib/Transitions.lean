/-
# Systems that may refuse a step

A step under a label either leads to a next state or is not enabled. A run is a
list of labels all of which were enabled in turn.
-/

import Mathlib

namespace Transitions

variable {σ α : Type*} (step : σ → α → Option σ)

/-- The state after a run, when every label was enabled. -/
def run (s : σ) : List α → Option σ
  | [] => some s
  | a :: rest => (step s a).bind fun next => run next rest

variable {step}

@[simp] theorem run_nil (s : σ) : run step s [] = some s := rfl

theorem run_cons {s s' : σ} {a : α} {rest : List α} :
    run step s (a :: rest) = some s' ↔
      ∃ next, step s a = some next ∧ run step next rest = some s' :=
  Option.bind_eq_some_iff

theorem run_append {s s' : σ} {front back : List α} :
    run step s (front ++ back) = some s' ↔
      ∃ middle, run step s front = some middle ∧ run step middle back = some s' := by
  induction front generalizing s with
  | nil => simp
  | cons a front ih =>
    rw [List.cons_append, run_cons]
    constructor
    · rintro ⟨next, stepped, ran⟩
      obtain ⟨middle, before, after⟩ := ih.mp ran
      exact ⟨middle, run_cons.mpr ⟨next, stepped, before⟩, after⟩
    · rintro ⟨middle, before, after⟩
      obtain ⟨next, stepped, before⟩ := run_cons.mp before
      exact ⟨next, stepped, ih.mpr ⟨middle, before, after⟩⟩

/-- Every label of the list meets `G` in the state it is taken in. -/
def Meets (step : σ → α → Option σ) (G : σ → α → Prop) (s : σ) : List α → Prop
  | [] => True
  | a :: rest => G s a ∧ ∀ next ∈ step s a, Meets step G next rest

instance Meets.decidable (G : σ → α → Prop) [∀ s a, Decidable (G s a)] (s : σ) :
    (labels : List α) → Decidable (Meets step G s labels)
  | [] => .isTrue trivial
  | a :: rest =>
    have (next : σ) : Decidable (Meets step G next rest) := Meets.decidable G next rest
    inferInstanceAs (Decidable (G s a ∧ ∀ next ∈ step s a, Meets step G next rest))

/-- An invariant that needs a side condition on the steps of the run. -/
theorem invariant_of_meets {P : σ → Prop} {G : σ → α → Prop}
    (preserved : ∀ s a s', P s → G s a → step s a = some s' → P s') {s s' : σ} (start : P s)
    {labels : List α} (meets : Meets step G s labels) (ran : run step s labels = some s') :
    P s' := by
  induction labels generalizing s with
  | nil =>
    obtain rfl := Option.some.inj ran
    exact start
  | cons a rest ih =>
    obtain ⟨next, stepped, ran⟩ := run_cons.mp ran
    exact ih (preserved s a next start meets.1 stepped) (meets.2 next stepped) ran

/-- A condition on the labels alone is met in every state. -/
theorem meets_of_forall {G : α → Prop} {labels : List α} (allowed : ∀ a ∈ labels, G a) (s : σ) :
    Meets step (fun _ => G) s labels := by
  induction labels generalizing s with
  | nil => trivial
  | cons a rest ih =>
    obtain ⟨first, others⟩ := List.forall_mem_cons.mp allowed
    exact ⟨first, fun next _ => ih others next⟩

/-- An invariant that needs a side condition on the labels. -/
theorem invariant_of_forall {P : σ → Prop} {G : α → Prop}
    (preserved : ∀ s a s', P s → G a → step s a = some s' → P s') {s s' : σ} (start : P s)
    {labels : List α} (allowed : ∀ a ∈ labels, G a) (ran : run step s labels = some s') :
    P s' :=
  invariant_of_meets preserved start (meets_of_forall allowed s) ran

/-- What every enabled step preserves holds along every run. -/
theorem invariant {P : σ → Prop} (preserved : ∀ s a s', P s → step s a = some s' → P s')
    {s s' : σ} (start : P s) {labels : List α} (ran : run step s labels = some s') : P s' :=
  invariant_of_forall (G := fun _ => True) (fun s a s' before _ => preserved s a s' before) start
    (fun _ _ => trivial) ran

/-- An invariant that counts the steps taken so far. -/
theorem counted_invariant {P : ℕ → σ → Prop}
    (preserved : ∀ n s a s', P n s → step s a = some s' → P (n + 1) s') {n : ℕ} {s s' : σ}
    (start : P n s) {labels : List α} (ran : run step s labels = some s') :
    P (n + labels.length) s' := by
  induction labels generalizing n s with
  | nil =>
    obtain rfl := Option.some.inj ran
    exact start
  | cons a rest ih =>
    obtain ⟨next, stepped, ran⟩ := run_cons.mp ran
    rw [List.length_cons, Nat.add_comm rest.length, ← Nat.add_assoc]
    exact ih (preserved n s a next start stepped) ran

/-- Steps that use up a potential, which only payments raise, are no more than was paid. -/
theorem countP_le_of_potential (p : α → Bool) (potential paid : σ → ℕ)
    (priced : ∀ s a s', step s a = some s' →
      (if p a then 1 else 0) + potential s' + paid s ≤ potential s + paid s')
    {s s' : σ} {labels : List α} (ran : run step s labels = some s') :
    labels.countP p + potential s' + paid s ≤ potential s + paid s' := by
  induction labels generalizing s with
  | nil =>
    obtain rfl := Option.some.inj ran
    simp
  | cons a rest ih =>
    obtain ⟨next, stepped, ran⟩ := run_cons.mp ran
    have first := priced s a next stepped
    have others := ih ran
    rw [List.countP_cons]
    omega

/-- Where some step uses up work as long as there is any, the work can be brought to an end. -/
theorem exists_run_to_rest (Rest : σ → Prop) (G : α → Prop) (work : σ → ℕ)
    (progress : ∀ s, ¬ Rest s → ∃ a s', G a ∧ step s a = some s' ∧ work s' < work s) (s : σ) :
    ∃ labels s', (∀ a ∈ labels, G a) ∧ run step s labels = some s' ∧ Rest s' := by
  induction left : work s using Nat.strong_induction_on generalizing s with
  | _ n ih =>
    by_cases rest : Rest s
    · exact ⟨[], s, by simp, rfl, rest⟩
    · obtain ⟨a, next, allowed, stepped, fewer⟩ := progress s rest
      obtain ⟨labels, s', others, ran, rested⟩ := ih _ (left ▸ fewer) next rfl
      exact ⟨a :: labels, s', List.forall_mem_cons.mpr ⟨allowed, others⟩,
        run_cons.mpr ⟨next, stepped, ran⟩, rested⟩

/-- An invariant that needs a side condition on the states the run passes through. -/
theorem guarded_invariant {P Q : σ → Prop}
    (preserved : ∀ s a s', P s → Q s → step s a = some s' → P s') {s s' : σ} (start : P s)
    {labels : List α}
    (guarded : ∀ front, front <+: labels → ∀ middle, run step s front = some middle → Q middle)
    (ran : run step s labels = some s') : P s' := by
  induction labels generalizing s with
  | nil =>
    obtain rfl := Option.some.inj ran
    exact start
  | cons a rest ih =>
    obtain ⟨next, stepped, ran⟩ := run_cons.mp ran
    have now : Q s := guarded [] List.nil_prefix s rfl
    refine ih (preserved s a next start now stepped) (fun front initial middle reached => ?_) ran
    exact guarded (a :: front) (List.prefix_cons_inj a |>.mpr initial) middle
      (run_cons.mpr ⟨next, stepped, reached⟩)

/-- Two conditions on steps that agree wherever an invariant holds. -/
theorem meets_iff {P : σ → Prop} {G H : σ → α → Prop}
    (preserved : ∀ s a s', P s → step s a = some s' → P s') (agree : ∀ s a, P s → (G s a ↔ H s a))
    {s : σ} (start : P s) {labels : List α} : Meets step G s labels ↔ Meets step H s labels := by
  induction labels generalizing s with
  | nil => exact Iff.rfl
  | cons a rest ih =>
    apply and_congr (agree s a start)
    apply forall₂_congr
    intro next stepped
    exact ih (preserved s a next start stepped)

end Transitions
