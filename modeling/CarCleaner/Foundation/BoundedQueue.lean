import Mathlib.Data.List.Basic

/-!
# Bounded first-in first-out queues

A queue of a real-time kernel holds at most as many elements as it was created
for.  The capacity is part of the type and the bound is a field, so a queue with
too many elements cannot be built.  A send with a zero timeout fails on a full
queue; callers that ignore the failure lose the element.
-/

namespace CarCleaner
namespace Foundation

universe u

/-- A queue with room for `capacity` elements, oldest first. -/
structure BoundedQueue (elem : Type u) (capacity : Nat) where
  items : List elem
  length_le : items.length ≤ capacity
deriving DecidableEq

namespace BoundedQueue

variable {elem : Type u} {capacity : Nat}

def empty : BoundedQueue elem capacity where
  items := []
  length_le := Nat.zero_le _

/-- A send with a zero timeout, or `none` when the queue is full. -/
def send? (q : BoundedQueue elem capacity) (x : elem) :
    Option (BoundedQueue elem capacity) :=
  if h : q.items.length < capacity then
    some
      { items := q.items ++ [x]
        length_le := by
          rw [List.length_append]
          exact h }
  else
    none

/-- A send with a zero timeout whose result is ignored. -/
def sendOrDrop (q : BoundedQueue elem capacity) (x : elem) :
    BoundedQueue elem capacity :=
  (q.send? x).getD q

def receive? (q : BoundedQueue elem capacity) :
    Option (elem × BoundedQueue elem capacity) :=
  match q with
  | { items := [], length_le := _ } => none
  | { items := x :: rest, length_le := h } =>
      some
        (x,
          { items := rest
            length_le := Nat.le_of_succ_le h })

theorem isSome_send?_iff (q : BoundedQueue elem capacity) (x : elem) :
    (q.send? x).isSome <-> q.items.length < capacity := by
  unfold send?
  split
  · next h => simp [h]
  · next h => simp [h]

theorem items_sendOrDrop (q : BoundedQueue elem capacity) (x : elem) :
    (q.sendOrDrop x).items =
      if q.items.length < capacity then q.items ++ [x] else q.items := by
  unfold sendOrDrop send?
  split
  · next h => rfl
  · next h => rfl

theorem items_of_receive?_some {q rest : BoundedQueue elem capacity} {x : elem}
    (h : q.receive? = some (x, rest)) : q.items = x :: rest.items := by
  rcases q with ⟨_ | ⟨y, ys⟩, hlen⟩
  · cases h
  · cases h
    rfl

theorem items_of_receive?_none {q : BoundedQueue elem capacity} (h : q.receive? = none) :
    q.items = [] := by
  rcases q with ⟨_ | ⟨y, ys⟩, hlen⟩
  · rfl
  · cases h

def All (P : elem -> Prop) (q : BoundedQueue elem capacity) : Prop :=
  forall x, x ∈ q.items -> P x

theorem all_empty (P : elem -> Prop) :
    All P (empty : BoundedQueue elem capacity) := by
  intro x hx
  cases hx

theorem All.sendOrDrop {P : elem -> Prop} {q : BoundedQueue elem capacity}
    {x : elem} (hq : All P q) (hx : P x) : All P (q.sendOrDrop x) := by
  unfold BoundedQueue.sendOrDrop send?
  split
  · intro y hy
    rcases List.mem_append.mp hy with hold | hnew
    · exact hq y hold
    · rw [List.mem_singleton.mp hnew]
      exact hx
  · exact hq

theorem All.receive? {P : elem -> Prop} {q rest : BoundedQueue elem capacity}
    {x : elem} (hq : All P q) (h : q.receive? = some (x, rest)) :
    P x ∧ All P rest := by
  rcases q with ⟨_ | ⟨y, ys⟩, hlen⟩
  · cases h
  · cases h
    exact ⟨hq x (by simp), fun z hz => hq z (by simp [hz])⟩

end BoundedQueue

end Foundation
end CarCleaner
