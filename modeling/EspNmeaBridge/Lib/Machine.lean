/-
# Machines that answer every input

A machine takes one input at a time, answers it and moves to its next state.
This file records its runs: the state after a list of inputs, the answers along
the way, and the rules by which a fact about one step becomes a fact about every
run. Nothing here knows what the states, inputs or answers are.
-/

import Mathlib

namespace Machine

variable {σ α β : Type*} (step : σ → α → σ × β)

/-- The state after a run of inputs. -/
def stateAfter (s : σ) (inputs : List α) : σ :=
  inputs.foldl (fun s a => (step s a).1) s

/-- The inputs of a run, each with the answer it got. -/
def trace (s : σ) : List α → List (α × β)
  | [] => []
  | a :: rest => (a, (step s a).2) :: trace (step s a).1 rest

/-- The answers of a run. -/
def answers (s : σ) (inputs : List α) : List β :=
  (trace step s inputs).map Prod.snd

@[simp] theorem stateAfter_nil (s : σ) : stateAfter step s [] = s := rfl

@[simp] theorem stateAfter_cons (s : σ) (a : α) (rest : List α) :
    stateAfter step s (a :: rest) = stateAfter step (step s a).1 rest := rfl

theorem stateAfter_append (s : σ) (front back : List α) :
    stateAfter step s (front ++ back) = stateAfter step (stateAfter step s front) back :=
  List.foldl_append

@[simp] theorem stateAfter_snoc (s : σ) (inputs : List α) (a : α) :
    stateAfter step s (inputs ++ [a]) = (step (stateAfter step s inputs) a).1 := by
  rw [stateAfter_append]
  rfl

@[simp] theorem trace_nil (s : σ) : trace step s [] = [] := rfl

theorem trace_append (s : σ) (front back : List α) :
    trace step s (front ++ back) =
      trace step s front ++ trace step (stateAfter step s front) back := by
  induction front generalizing s with
  | nil => rfl
  | cons a rest ih => simp only [List.cons_append, trace, ih, stateAfter_cons]

@[simp] theorem trace_snoc (s : σ) (inputs : List α) (a : α) :
    trace step s (inputs ++ [a]) =
      trace step s inputs ++ [(a, (step (stateAfter step s inputs) a).2)] := by
  rw [trace_append]
  rfl

@[simp] theorem answers_nil (s : σ) : answers step s [] = [] := rfl

@[simp] theorem answers_snoc (s : σ) (inputs : List α) (a : α) :
    answers step s (inputs ++ [a]) =
      answers step s inputs ++ [(step (stateAfter step s inputs) a).2] := by
  simp [answers]

/-- A property that holds at the start and survives every step holds after
every run. -/
theorem invariant {P : σ → Prop} (preserved : ∀ s a, P s → P (step s a).1)
    {s : σ} (start : P s) (inputs : List α) : P (stateAfter step s inputs) := by
  induction inputs generalizing s with
  | nil => exact start
  | cons a rest ih => exact ih (preserved s a start)

/-- An invariant that may mention the inputs and answers so far, for runs whose
inputs all satisfy a side condition. -/
theorem trace_invariant {P : List (α × β) → σ → Prop} {Allowed : α → Prop}
    (preserved : ∀ events s a, Allowed a → P events s →
      P (events ++ [(a, (step s a).2)]) (step s a).1)
    {s : σ} (start : P [] s) (inputs : List α) (allowed : ∀ a ∈ inputs, Allowed a) :
    P (trace step s inputs) (stateAfter step s inputs) := by
  induction inputs using List.reverseRecOn with
  | nil => exact start
  | append_singleton inputs a ih =>
    rw [trace_snoc, stateAfter_snoc]
    exact preserved _ _ a (allowed a (by simp)) (ih fun b member => allowed b (by simp [member]))

end Machine
