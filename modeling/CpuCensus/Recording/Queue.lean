/-!
# Queues

A first-in first-out queue whose operations take constant time on average. The view is `toList`,
oldest element first; each operation has one equation through the view.
-/

namespace CpuCensus

/-- A queue held as two lists, with its length beside them. -/
structure Queue (α : Type) where
  /-- The older elements, oldest first. -/
  front : List α := []
  /-- The newer elements, newest first. -/
  back : List α := []
  size : Nat := 0
  size_eq : size = front.length + back.length := by simp

namespace Queue

variable {α : Type}

/-- The elements, oldest first. -/
def toList (q : Queue α) : List α := q.front ++ q.back.reverse

/-- The queue without elements. -/
def empty : Queue α where
  size_eq := rfl

/-- Add an element at the end. -/
def push (q : Queue α) (a : α) : Queue α where
  front := q.front
  back := a :: q.back
  size := q.size + 1
  size_eq := by simp [q.size_eq]; omega

/-- Remove the oldest element, if there is one. -/
def pop (q : Queue α) : Queue α :=
  match h : q.front with
  | _ :: front =>
    { front, back := q.back, size := q.size - 1, size_eq := by simp [q.size_eq, h] }
  | [] =>
    { front := q.back.reverse.tail, back := [], size := q.size - 1
      size_eq := by simp [q.size_eq, h] }

@[simp] theorem toList_empty : (empty : Queue α).toList = [] := rfl

@[simp] theorem toList_push (q : Queue α) (a : α) : (q.push a).toList = q.toList ++ [a] := by
  simp [toList, push]

@[simp] theorem toList_pop (q : Queue α) : q.pop.toList = q.toList.tail := by
  unfold pop
  split
  · next h => simp [toList, h]
  · next h => simp [toList, h]

@[simp] theorem size_eq_length (q : Queue α) : q.size = q.toList.length := by
  simp [toList, q.size_eq]

end Queue

end CpuCensus
