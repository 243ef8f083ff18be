import CarCleaner.Foundation.Histories

/-!
# Parts of a larger system

A part of a system sees some of the steps of the whole, each as a list of steps of its
own, and none of the others.  When every step of the whole is matched by what the part
sees of it, every run of the whole contains a run of the part.
-/

namespace CarCleaner
namespace Foundation

universe u v w

variable {state state' : Type u} {input : Type v} {input' fault fault' : Type w}

/-- A run goes on from the state that its first part ends in. -/
theorem outcomeAfter_append {step : state -> input -> Except fault state} {start s : state}
    {past : List input} (hpast : outcomeAfter step start past = .ok s) (later : List input) :
    outcomeAfter step start (past ++ later) = outcomeAfter step s later := by
  rw [outcomeAfter] at hpast
  rw [outcomeAfter, List.foldlM_append, hpast]
  rfl

theorem outcomeAfter_singleton (step : state -> input -> Except fault state)
    (start : state) (i : input) : outcomeAfter step start [i] = step start i := by
  have hsnoc := outcomeAfter_snoc step start [] i
  rw [List.nil_append] at hsnoc
  exact hsnoc

/-- A machine without faults, as one that may have some. -/
theorem outcomeAfter_ok_eq (step : state -> input -> state) (start : state)
    (history : List input) :
    outcomeAfter (fun s i => (.ok (step s i) : Except fault state)) start history =
      .ok (stateAfter step start history) := by
  induction history using List.reverseRecOn with
  | nil =>
      rfl
  | append_singleton past i ih =>
      rw [outcomeAfter_snoc, ih, stateAfter_snoc]
      rfl

/--
Related states stay related while the whole takes a step and the part takes the steps
that it sees of it.
-/
def Contains (step : state -> input -> Except fault state)
    (step' : state' -> input' -> Except fault' state')
    (project : state -> input -> List input') (R : state -> state' -> Prop) : Prop :=
  forall s t i s', R s t -> step s i = .ok s' ->
    exists t', outcomeAfter step' t (project s i) = .ok t' ∧ R s' t'

theorem Contains.run {step : state -> input -> Except fault state}
    {step' : state' -> input' -> Except fault' state'}
    {project : state -> input -> List input'} {R : state -> state' -> Prop}
    (h : Contains step step' project R) {start s : state} {start' : state'}
    (hstart : R start start') {history : List input}
    (hs : outcomeAfter step start history = .ok s) :
    exists t, outcomeAfter step' start' (observations step project start history) = .ok t ∧
      R s t := by
  induction history using List.reverseRecOn generalizing s with
  | nil =>
      cases hs
      exact ⟨start', rfl, hstart⟩
  | append_singleton past i ih =>
      rcases outcomeAfter_snoc_ok hs with ⟨mid, hmid, hstep⟩
      rcases ih hmid with ⟨t, ht, hR⟩
      rcases h mid t i s hR hstep with ⟨t', ht', hR'⟩
      refine ⟨t', ?_, hR'⟩
      rw [observations_snoc i project hmid]
      exact (outcomeAfter_append ht _).trans ht'

/--
A whole that takes some steps only when they are enabled, and otherwise stays as it is:
the part needs to see the enabled ones only.
-/
theorem contains_of_enabled {act : state -> input -> Except fault state}
    {enabled : state -> input -> Prop} [forall s i, Decidable (enabled s i)]
    {step' : state' -> input' -> Except fault' state'}
    {project : state -> input -> List input'} {R : state -> state' -> Prop}
    (h : forall s t i s', R s t -> enabled s i -> act s i = .ok s' ->
      exists t', outcomeAfter step' t (project s i) = .ok t' ∧ R s' t') :
    Contains (fun s i => if enabled s i then act s i else .ok s) step'
      (fun s i => if enabled s i then project s i else []) R := by
  intro s t i s' hR hstep
  change (if enabled s i then act s i else .ok s) = .ok s' at hstep
  change exists t', outcomeAfter step' t (if enabled s i then project s i else []) = .ok t' ∧
    R s' t'
  by_cases henabled : enabled s i
  · rw [if_pos henabled] at hstep ⊢
    exact h s t i s' hR henabled hstep
  · rw [if_neg henabled] at hstep ⊢
    cases hstep
    exact ⟨t, rfl, hR⟩

theorem filterMap_observations {output output' : Type w}
    (step : state -> input -> Except fault state) (observe : state -> input -> List output)
    (f : output -> Option output') (start : state) (history : List input) :
    (observations step observe start history).filterMap f =
      observations step (fun s i => (observe s i).filterMap f) start history := by
  induction history generalizing start with
  | nil =>
      rfl
  | cons i later ih =>
      rw [observations, observations, List.filterMap_append]
      cases step start i with
      | error e => rfl
      | ok s => rw [ih]

theorem length_observations_congr {output output' : Type w}
    (step : state -> input -> Except fault state) {observe : state -> input -> List output}
    {observe' : state -> input -> List output'}
    (h : forall s i, (observe s i).length = (observe' s i).length) (start : state)
    (history : List input) :
    (observations step observe start history).length =
      (observations step observe' start history).length := by
  induction history generalizing start with
  | nil =>
      rfl
  | cons i later ih =>
      rw [observations, observations, List.length_append, List.length_append, h start i]
      cases step start i with
      | error e => rfl
      | ok s => rw [ih s]

/-- Whoever sees at most one thing of each of certain inputs sees no more than those. -/
theorem countP_observations_le {output : Type w} (step : state -> input -> Except fault state)
    {observe : state -> input -> List output} {p : output -> Bool} {q : input -> Bool}
    (h : forall s i, (observe s i).countP p ≤ if q i then 1 else 0) (start : state)
    (history : List input) :
    (observations step observe start history).countP p ≤ history.countP q := by
  induction history generalizing start with
  | nil =>
      exact le_rfl
  | cons i later ih =>
      rw [observations, List.countP_append, List.countP_cons, Nat.add_comm]
      refine Nat.add_le_add ?_ (h start i)
      cases step start i with
      | error e => exact Nat.zero_le _
      | ok s => exact ih s

/-- What has been seen was seen in some state on the way. -/
theorem mem_observations {output : Type w} {step : state -> input -> Except fault state}
    {observe : state -> input -> List output} {start : state} {history : List input}
    {x : output} (h : x ∈ observations step observe start history) :
    exists past i s, past ++ [i] <+: history ∧ outcomeAfter step start past = .ok s ∧
      x ∈ observe s i := by
  induction history generalizing start with
  | nil =>
      cases h
  | cons i later ih =>
      rw [observations] at h
      rcases List.mem_append.mp h with hhere | hlater
      · exact ⟨[], i, start, List.prefix_append [i] later, rfl, hhere⟩
      · cases hstep : step start i with
        | error e =>
            rw [hstep] at hlater
            cases hlater
        | ok s =>
            rw [hstep] at hlater
            rcases ih hlater with ⟨past, j, t, hpast, ht, hmem⟩
            refine ⟨i :: past, j, t, List.cons_prefix_cons.mpr ⟨rfl, hpast⟩, ?_, hmem⟩
            rw [outcomeAfter_cons, hstep]
            exact ht

end Foundation
end CarCleaner
