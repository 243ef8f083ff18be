import CarCleaner.Foundation.BoundedQueue
import Mathlib.Data.List.Infix

/-!
# A queue between a sender and a receiver

A sender that does not wait loses elements, so what arrives is not all that was sent.
But it arrives in the order in which it was sent, none of it twice and nothing else, and
what the queue has accepted arrives as soon as the receiver has asked often enough.
-/

namespace CarCleaner
namespace Foundation

universe u

variable {elem : Type u} {capacity : Nat}
variable {sent taken puts takes : List elem} {asked : Bool} {q q' : BoundedQueue elem capacity}

/--
What a step may do to a queue: nothing, a send, or an attempt to receive.  The lists are
what it sends and what it takes.
-/
inductive ChannelStep (q : BoundedQueue elem capacity) :
    List elem -> List elem -> Bool -> BoundedQueue elem capacity -> Prop where
  | idle : ChannelStep q [] [] false q
  | send (x : elem) : ChannelStep q [x] [] false (q.sendOrDrop x)
  | receive :
      ChannelStep q [] (q.receive?.map Prod.fst).toList true
        ((q.receive?.map Prod.snd).getD q)

/-!
# What arrives
-/

/-- What has been taken and what still waits was sent, in that order and once each. -/
def Accounted (sent taken : List elem) (q : BoundedQueue elem capacity) : Prop :=
  (taken ++ q.items).Sublist sent

theorem accounted_empty : Accounted [] [] (BoundedQueue.empty : BoundedQueue elem capacity) :=
  List.nil_sublist []

/-- A send appends to the end of the queue, or its element is lost. -/
theorem Accounted.send (h : Accounted sent taken q) (x : elem) :
    Accounted (sent ++ [x]) taken (q.sendOrDrop x) := by
  unfold Accounted at h ⊢
  rw [BoundedQueue.items_sendOrDrop]
  split
  · rw [<- List.append_assoc]
    exact h.append (List.Sublist.refl [x])
  · exact h.trans (List.sublist_append_left sent [x])

/-- A receive moves the oldest element, if there is one. -/
theorem Accounted.receive (h : Accounted sent taken q) :
    Accounted sent (taken ++ (q.receive?.map Prod.fst).toList)
      ((q.receive?.map Prod.snd).getD q) := by
  cases hreceive : q.receive? with
  | none =>
      change Accounted sent (taken ++ []) q
      rw [List.append_nil]
      exact h
  | some received =>
      rcases received with ⟨x, rest⟩
      change (taken ++ [x] ++ rest.items).Sublist sent
      rw [List.append_assoc, List.singleton_append,
        <- BoundedQueue.items_of_receive?_some hreceive]
      exact h

theorem Accounted.step (h : Accounted sent taken q) (hstep : ChannelStep q puts takes asked q') :
    Accounted (sent ++ puts) (taken ++ takes) q' := by
  cases hstep with
  | idle =>
      rw [List.append_nil, List.append_nil]
      exact h
  | send x =>
      rw [List.append_nil]
      exact h.send x
  | receive =>
      rw [List.append_nil]
      exact h.receive

/-- The element that a receive would take was sent. -/
theorem Accounted.next_mem_sent (h : Accounted sent taken q) {x : elem}
    (hx : x ∈ q.receive?.map Prod.fst) : x ∈ sent := by
  rcases Option.map_eq_some_iff.mp hx with ⟨received, hreceive, rfl⟩
  rcases received with ⟨x, rest⟩
  apply h.subset
  rw [BoundedQueue.items_of_receive?_some hreceive]
  exact List.mem_append_right _ (List.mem_cons_self ..)

/-!
# When it arrives
-/

/--
What was promised is in front of everything else, and `least` elements have been taken,
unless all that was promised has.
-/
structure Serves (promised : List elem) (least : Nat) (taken : List elem)
    (q : BoundedQueue elem capacity) : Prop where
  front : promised <+: taken ++ q.items
  least_le : least ≤ taken.length ∨ promised <+: taken

theorem serves_start (taken : List elem) (q : BoundedQueue elem capacity) :
    Serves (taken ++ q.items) taken.length taken q :=
  ⟨List.prefix_refl _, Or.inl le_rfl⟩

variable {promised : List elem} {least : Nat}

theorem Serves.receive (h : Serves promised least taken q) :
    Serves promised (least + 1) (taken ++ (q.receive?.map Prod.fst).toList)
      ((q.receive?.map Prod.snd).getD q) := by
  cases hreceive : q.receive? with
  | none =>
      have hall : promised <+: taken := by
        have hfront := h.front
        rw [BoundedQueue.items_of_receive?_none hreceive, List.append_nil] at hfront
        exact hfront
      change Serves promised (least + 1) (taken ++ []) q
      rw [List.append_nil]
      exact ⟨h.front, Or.inr hall⟩
  | some received =>
      rcases received with ⟨x, rest⟩
      change Serves promised (least + 1) (taken ++ [x]) rest
      constructor
      · rw [List.append_assoc, List.singleton_append,
          <- BoundedQueue.items_of_receive?_some hreceive]
        exact h.front
      · rcases h.least_le with hleast | hall
        · refine Or.inl ?_
          rw [List.length_append, List.length_singleton]
          exact Nat.succ_le_succ hleast
        · exact Or.inr (hall.trans (List.prefix_append _ _))

theorem Serves.step (h : Serves promised least taken q)
    (hstep : ChannelStep q puts takes asked q') :
    Serves promised (least + asked.toNat) (taken ++ takes) q' := by
  cases hstep with
  | idle =>
      rw [List.append_nil]
      exact h
  | send x =>
      rw [List.append_nil]
      refine ⟨?_, h.least_le⟩
      rw [BoundedQueue.items_sendOrDrop]
      split
      · rw [<- List.append_assoc]
        exact h.front.trans (List.prefix_append _ _)
      · exact h.front
  | receive =>
      exact h.receive

theorem Serves.prefix_taken (h : Serves promised least taken q)
    (hleast : promised.length ≤ least) : promised <+: taken := by
  rcases h.least_le with hle | hall
  · exact List.prefix_of_prefix_length_le h.front (List.prefix_append _ _) (hleast.trans hle)
  · exact hall

end Foundation
end CarCleaner
