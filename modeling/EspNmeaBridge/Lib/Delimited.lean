/-
# Streams cut at a delimiter

A stream is cut after every delimiter: the segments that a delimiter has closed,
each including it, and the remainder that none has closed yet. Both are computed
element by element, so they can be compared with a reader that sees the stream
in the same order.
-/

import Mathlib

namespace Delimited

variable {α : Type*} [DecidableEq α] (delimiter : α)

/-- One element extends the remainder; the delimiter closes it. -/
def push (parts : List (List α) × List α) (a : α) : List (List α) × List α :=
  if a = delimiter then (parts.1 ++ [parts.2 ++ [a]], []) else (parts.1, parts.2 ++ [a])

/-- The closed segments and the open remainder of a stream. -/
def split (stream : List α) : List (List α) × List α :=
  stream.foldl (push delimiter) ([], [])

/-- The segments closed by a delimiter, in order, each ending with it. -/
def segments (stream : List α) : List (List α) := (split delimiter stream).1

/-- What follows the last delimiter. -/
def remainder (stream : List α) : List α := (split delimiter stream).2

variable {delimiter}

@[simp] theorem segments_nil : segments delimiter ([] : List α) = [] := rfl

@[simp] theorem remainder_nil : remainder delimiter ([] : List α) = [] := rfl

theorem split_snoc (stream : List α) (a : α) :
    split delimiter (stream ++ [a]) = push delimiter (split delimiter stream) a := by
  simp [split]

@[simp] theorem segments_snoc_delimiter (stream : List α) :
    segments delimiter (stream ++ [delimiter]) =
      segments delimiter stream ++ [remainder delimiter stream ++ [delimiter]] := by
  simp [segments, remainder, split_snoc, push]

@[simp] theorem remainder_snoc_delimiter (stream : List α) :
    remainder delimiter (stream ++ [delimiter]) = [] := by
  simp [remainder, split_snoc, push]

theorem segments_snoc_of_ne (stream : List α) {a : α} (other : a ≠ delimiter) :
    segments delimiter (stream ++ [a]) = segments delimiter stream := by
  simp [segments, split_snoc, push, other]

theorem remainder_snoc_of_ne (stream : List α) {a : α} (other : a ≠ delimiter) :
    remainder delimiter (stream ++ [a]) = remainder delimiter stream ++ [a] := by
  simp [remainder, split_snoc, push, other]

end Delimited
