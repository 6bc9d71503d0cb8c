import Mathlib.Data.List.Basic

/-!
# Segmented logs

A log that is kept in closed segments, a segment that is being written, and a buffer in front of it.
What the log says is `contents`: appending to the buffer appends to it, and neither a flush nor a new
segment changes it (`contents_append`, `contents_flush`, `contents_roll`). When the buffer is empty
the segments, one after the other, are the log (`segments_flatten`).
-/

namespace MultiDAQ.Lib

universe u

structure SegmentedLog (α : Type u) where
  closed : List (List α)
  current : List α
  buffer : List α

namespace SegmentedLog

variable {α : Type u} (log : SegmentedLog α)

/-- A log with one empty segment. -/
def empty : SegmentedLog α where
  closed := []
  current := []
  buffer := []

/-- Everything that has been appended, in order. -/
def contents : List α := log.closed.flatten ++ log.current ++ log.buffer

/-- The segments, in the order they were begun. -/
def segments : List (List α) := log.closed ++ [log.current]

def append (xs : List α) : SegmentedLog α := { log with buffer := log.buffer ++ xs }

/-- Moves the buffer to the current segment. -/
def flush : SegmentedLog α := { log with current := log.current ++ log.buffer, buffer := [] }

/-- Closes the current segment and begins another one. -/
def roll : SegmentedLog α := { log with closed := log.closed ++ [log.current], current := [] }

@[simp] theorem contents_empty : (empty : SegmentedLog α).contents = [] := rfl

@[simp] theorem contents_append (xs : List α) :
    (log.append xs).contents = log.contents ++ xs := by
  simp [contents, append]

@[simp] theorem contents_flush : log.flush.contents = log.contents := by
  simp [contents, flush]

@[simp] theorem contents_roll : log.roll.contents = log.contents := by
  simp [contents, roll]

@[simp] theorem buffer_append (xs : List α) : (log.append xs).buffer = log.buffer ++ xs := rfl

@[simp] theorem buffer_flush : log.flush.buffer = [] := rfl

@[simp] theorem buffer_roll : log.roll.buffer = log.buffer := rfl

@[simp] theorem segments_append (xs : List α) : (log.append xs).segments = log.segments := rfl

theorem segments_flatten (h : log.buffer = []) : log.segments.flatten = log.contents := by
  simp [segments, contents, h]

end SegmentedLog

end MultiDAQ.Lib
