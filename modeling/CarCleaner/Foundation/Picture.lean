import CarCleaner.Foundation.Writes

/-!
# Pictures of painted regions

A region of a memory is painted from its first cell on.  Regions may overlap: a cell shows
the last region that covers it, and the background where none does.
-/

namespace CarCleaner
namespace Foundation

universe u

variable {value : Type u}

structure Region (value : Type u) where
  start : Nat
  values : List value
deriving DecidableEq

namespace Region

/-- What the region shows in a cell that it covers. -/
def valueAt (r : Region value) (c : Nat) : Option value :=
  if r.start ≤ c then r.values[c - r.start]? else none

/-- The region over what was there before. -/
def paint (old : Nat -> value) (r : Region value) (c : Nat) : value :=
  (r.valueAt c).getD (old c)

variable {r : Region value} {c : Nat}

theorem valueAt_eq_none_iff :
    r.valueAt c = none <-> c < r.start ∨ r.start + r.values.length ≤ c := by
  unfold valueAt
  split
  · rw [List.getElem?_eq_none_iff]
    omega
  · next h =>
      exact iff_of_true rfl (Or.inl (not_le.mp h))

theorem valueAt_add {k : Nat} (hk : k < r.values.length) :
    r.valueAt (r.start + k) = some (r.values.get ⟨k, hk⟩) := by
  rw [valueAt, if_pos (Nat.le_add_right _ _), Nat.add_sub_cancel_left,
    List.getElem?_eq_getElem hk]
  rfl

end Region

/-- The regions in the order in which they are painted. -/
def picture (background : Nat -> value) (regions : List (Region value)) : Nat -> value :=
  regions.foldl Region.paint background

theorem picture_append (background : Nat -> value) (regions later : List (Region value)) :
    picture background (regions ++ later) = picture (picture background regions) later :=
  List.foldl_append

theorem picture_of_uncovered {regions : List (Region value)} {c : Nat}
    (h : forall r, r ∈ regions -> r.valueAt c = none) (background : Nat -> value) :
    picture background regions c = background c := by
  induction regions generalizing background with
  | nil =>
      rfl
  | cons r later ih =>
      have hpaint : Region.paint background r c = background c := by
        rw [Region.paint, h r List.mem_cons_self, Option.getD_none]
      rw [<- hpaint]
      exact ih (fun q hq => h q (List.mem_cons_of_mem r hq)) _

/-- The last region that covers a cell decides. -/
theorem picture_of_last {before after : List (Region value)} {r : Region value} {c : Nat}
    {v : value} (hv : r.valueAt c = some v)
    (hafter : forall q, q ∈ after -> q.valueAt c = none) (background : Nat -> value) :
    picture background (before ++ r :: after) c = v := by
  rw [picture_append]
  change picture (Region.paint _ r) after c = v
  rw [picture_of_uncovered hafter, Region.paint, hv, Option.getD_some]

/-- A cell of a picture shows nothing of the other cells of the background. -/
theorem picture_congr {background background' : Nat -> value} {c : Nat}
    (h : background c = background' c) (regions : List (Region value)) :
    picture background regions c = picture background' regions c := by
  induction regions generalizing background background' with
  | nil =>
      exact h
  | cons r later ih =>
      apply ih
      rw [Region.paint, Region.paint, h]

/-- A cell that one region alone can cover shows that region, or else the background. -/
theorem picture_of_only {regions : List (Region value)} {r : Region value} {c : Nat}
    (hmem : r ∈ regions) (honly : forall q, q ∈ regions -> q ≠ r -> q.valueAt c = none)
    (background : Nat -> value) :
    picture background regions c = (r.valueAt c).getD (background c) := by
  cases hv : r.valueAt c with
  | none =>
      refine picture_of_uncovered ?_ background
      intro q hq
      by_cases hqr : q = r
      · rw [hqr, hv]
      · exact honly q hq hqr
  | some v =>
      induction regions using List.reverseRecOn with
      | nil =>
          cases hmem
      | append_singleton before q ih =>
          by_cases hqr : q = r
          · rw [hqr]
            exact picture_of_last hv (fun _ h => absurd h List.not_mem_nil) background
          · have hbefore : r ∈ before :=
              (List.mem_append.mp hmem).resolve_right fun h => hqr (List.mem_singleton.mp h).symm
            rw [picture_append]
            change (q.valueAt c).getD _ = _
            rw [honly q (by simp) hqr, Option.getD_none]
            exact ih hbefore fun q' hq' => honly q' (List.mem_append_left _ hq')

/-- A blit that does not wrap paints a region. -/
theorem RingBlit.eq_paint {size start : Nat} {values : List value} {old new : Nat -> value}
    (h : RingBlit size start values old new) (hpos : 1 ≤ start)
    (hend : start + values.length ≤ size + 1) :
    new = Region.paint old { start := start, values := values } := by
  funext c
  rw [Region.paint]
  cases hv : Region.valueAt { start := start, values := values } c with
  | none =>
      exact h.outside hpos hend (Region.valueAt_eq_none_iff.mp hv)
  | some v =>
      have hcovered : ¬ (c < start ∨ start + values.length ≤ c) := by
        intro hout
        rw [Region.valueAt_eq_none_iff.mpr hout] at hv
        cases hv
      have hk : c - start < values.length := by
        omega
      have hc : c = start + (c - start) := by
        omega
      have hat := Region.valueAt_add (r := { start := start, values := values }) hk
      change Region.valueAt _ (start + (c - start)) = _ at hat
      rw [<- hc, hv] at hat
      rw [hc, h.inside hpos hend hk, <- Option.some.inj hat, Option.getD_some]

end Foundation
end CarCleaner
