import CarCleaner.Foundation.Run
import Mathlib.Data.List.Basic
import Mathlib.Data.List.Infix

/-!
# Histories

A finite run is given by the list of its inputs, oldest first: its history.  A
statement about every reachable state is a statement about every history, and it
is proved by adding one input at the end.  This module fixes the state after a
history, conditions on the inputs that may depend on what came before them, and
bits that some inputs set and others clear.
-/

namespace CarCleaner
namespace Foundation

universe u v w

variable {state : Type u} {input : Type v} {fault output : Type w}

/-!
# The state after a history
-/

def stateAfter (step : state -> input -> state) (start : state)
    (history : List input) : state :=
  history.foldl step start

@[simp] theorem stateAfter_snoc (step : state -> input -> state) (start : state)
    (past : List input) (i : input) :
    stateAfter step start (past ++ [i]) = step (stateAfter step start past) i :=
  List.foldl_concat step start i past

/-- The invariant may speak about the history that led to the state. -/
theorem stateAfter_invariant {step : state -> input -> state} {start : state}
    (Inv : List input -> state -> Prop) (hstart : Inv [] start)
    (hstep : forall past i, Inv past (stateAfter step start past) ->
      Inv (past ++ [i]) (step (stateAfter step start past) i))
    (history : List input) : Inv history (stateAfter step start history) := by
  induction history using List.reverseRecOn with
  | nil =>
      exact hstart
  | append_singleton past i ih =>
      rw [stateAfter_snoc]
      exact hstep past i ih

/-!
# Inputs that leave no trace

A view of the state that hidden inputs do not change, and that other inputs change by
what the view shows, does not notice when the hidden inputs are deleted.
-/

theorem view_stateAfter_filter {step : state -> input -> state} {view : state -> output}
    {visible : input -> Bool}
    (hhidden : forall s i, visible i = false -> view (step s i) = view s)
    (hvisible : forall s t i, view s = view t -> view (step s i) = view (step t i))
    (history : List input) (start : state) :
    view (stateAfter step start history) =
      view (stateAfter step start (history.filter visible)) := by
  induction history using List.reverseRecOn with
  | nil =>
      rfl
  | append_singleton past i ih =>
      rw [stateAfter_snoc, List.filter_append]
      cases hi : visible i with
      | false =>
          rw [hhidden _ _ hi, ih, List.filter_singleton, hi, cond_false, List.append_nil]
      | true =>
          rw [List.filter_singleton, hi, cond_true, stateAfter_snoc]
          exact hvisible _ _ i ih

/-!
# Steps that may stop with a fault

A history whose run is cut short by a fault reaches no state, so a statement about
every reachable state has nothing to say about it.
-/

def outcomeAfter (step : state -> input -> Except fault state) (start : state)
    (history : List input) : Except fault state :=
  history.foldlM step start

theorem outcomeAfter_cons (step : state -> input -> Except fault state)
    (start : state) (i : input) (later : List input) :
    outcomeAfter step start (i :: later) =
      step start i >>= fun s => outcomeAfter step s later := by
  rw [outcomeAfter, List.foldlM_cons]
  rfl

theorem outcomeAfter_snoc (step : state -> input -> Except fault state)
    (start : state) (past : List input) (i : input) :
    outcomeAfter step start (past ++ [i]) =
      outcomeAfter step start past >>= fun s => step s i := by
  rw [outcomeAfter, List.foldlM_append, outcomeAfter]
  congr 1
  funext s
  rw [List.foldlM_cons]
  cases step s i with
  | error e => rfl
  | ok s' => rfl

theorem outcomeAfter_snoc_ok {step : state -> input -> Except fault state}
    {start s' : state} {past : List input} {i : input}
    (h : outcomeAfter step start (past ++ [i]) = .ok s') :
    exists s, outcomeAfter step start past = .ok s ∧ step s i = .ok s' := by
  rw [outcomeAfter_snoc] at h
  exact bind_eq_ok h

theorem outcomeAfter_ok_of_past {step : state -> input -> Except fault state}
    {start s : state} {past history : List input} (hpast : past <+: history)
    (h : outcomeAfter step start history = .ok s) :
    exists t, outcomeAfter step start past = .ok t := by
  rcases hpast with ⟨later, rfl⟩
  rw [outcomeAfter, List.foldlM_append] at h
  rcases bind_eq_ok h with ⟨t, ht, _⟩
  exact ⟨t, ht⟩

/-- Every state that a history reaches satisfies the invariant. -/
theorem reached_invariant {step : state -> input -> Except fault state}
    {start : state} (Inv : List input -> state -> Prop) (hstart : Inv [] start)
    (hstep : forall past i s s', outcomeAfter step start past = .ok s ->
      Inv past s -> step s i = .ok s' -> Inv (past ++ [i]) s')
    {history : List input} {s : state}
    (h : outcomeAfter step start history = .ok s) : Inv history s := by
  induction history using List.reverseRecOn generalizing s with
  | nil =>
      cases h
      exact hstart
  | append_singleton past i ih =>
      rcases outcomeAfter_snoc_ok h with ⟨t, ht, hs⟩
      exact hstep past i t s ht (ih ht) hs

/-- The property holds of the state that is reached, if one is. -/
def Reached (outcome : Except fault state) (P : state -> Prop) : Prop :=
  forall s, outcome = .ok s -> P s

instance {P : state -> Prop} [DecidablePred P] :
    (outcome : Except fault state) -> Decidable (Reached outcome P)
  | .error _ => isTrue fun _ h => nomatch h
  | .ok s => decidable_of_iff (P s) ⟨fun hs t ht => by cases ht; exact hs, fun h => h s rfl⟩

/-- What the inputs of a history let an observer see, each in its own state. -/
def observations (step : state -> input -> Except fault state)
    (observe : state -> input -> List output) (start : state) :
    List input -> List output
  | [] => []
  | i :: later =>
      observe start i ++
        match step start i with
        | .error _ => []
        | .ok s => observations step observe s later

theorem observations_snoc {step : state -> input -> Except fault state}
    {start s : state} {past : List input} (i : input)
    (observe : state -> input -> List output)
    (h : outcomeAfter step start past = .ok s) :
    observations step observe start (past ++ [i]) =
      observations step observe start past ++ observe s i := by
  induction past generalizing start with
  | nil =>
      cases h
      rw [List.nil_append, observations, observations, List.nil_append]
      cases step s i with
      | error e => exact List.append_nil _
      | ok s' => exact List.append_nil _
  | cons j later ih =>
      rw [outcomeAfter_cons] at h
      rcases bind_eq_ok h with ⟨t, ht, hlater⟩
      simp only [List.cons_append, observations, ht]
      rw [ih hlater, List.append_assoc]

theorem filterMap_snoc (observe : input -> Option output) (past : List input) (i : input) :
    (past ++ [i]).filterMap observe = past.filterMap observe ++ (observe i).toList := by
  rw [List.filterMap_append]
  cases hi : observe i with
  | none => simp [hi]
  | some x => simp [hi]

/-!
# Conditions on the inputs of a history
-/

/-- Every input meets the condition at its place in the history. -/
def EveryInput (Q : List input -> input -> Prop) (history : List input) : Prop :=
  forall past i, past ++ [i] <+: history -> Q past i

theorem everyInput_nil (Q : List input -> input -> Prop) : EveryInput Q [] := by
  intro past i h
  have hnil := List.prefix_nil.mp h
  simp at hnil

theorem everyInput_snoc {Q : List input -> input -> Prop} {past : List input}
    {i : input} :
    EveryInput Q (past ++ [i]) <-> EveryInput Q past ∧ Q past i := by
  constructor
  · intro h
    constructor
    · intro older j hj
      exact h older j (hj.trans (List.prefix_append past [i]))
    · exact h past i (List.prefix_refl _)
  · intro h older j hj
    rcases List.prefix_concat_iff.mp hj with heq | hpast
    · rcases List.append_inj' heq rfl with ⟨rfl, hlast⟩
      cases hlast
      exact h.2
    · exact h.1 older j hpast

theorem everyInput_congr {Q Q' : List input -> input -> Prop}
    (h : forall past i, Q past i <-> Q' past i) (history : List input) :
    EveryInput Q history <-> EveryInput Q' history := by
  constructor
  · intro hQ past i hpast
    exact (h past i).mp (hQ past i hpast)
  · intro hQ' past i hpast
    exact (h past i).mpr (hQ' past i hpast)

theorem EveryInput.of_past {Q : List input -> input -> Prop} {past history : List input}
    (h : EveryInput Q history) (hpast : past <+: history) : EveryInput Q past :=
  fun older i hi => h older i (hi.trans hpast)

theorem everyInput_iff_take {Q : List input -> input -> Prop} {history : List input} :
    EveryInput Q history <->
      forall k : Fin history.length, Q (history.take k) (history.get k) := by
  constructor
  · intro h k
    apply h
    rw [List.get_eq_getElem, List.take_concat_get' history k k.isLt]
    exact List.take_prefix _ _
  · intro h past i hlater
    rcases hlater with ⟨later, rfl⟩
    have hlt : past.length < (past ++ [i] ++ later).length := by
      simp
    simpa using h ⟨past.length, hlt⟩

instance {Q : List input -> input -> Prop} [forall past i, Decidable (Q past i)]
    (history : List input) : Decidable (EveryInput Q history) :=
  decidable_of_iff _ everyInput_iff_take.symm

/-- Induction over the histories all of whose inputs meet the condition. -/
theorem EveryInput.induction {Q : List input -> input -> Prop}
    (P : List input -> Prop) (hnil : P [])
    (hsnoc : forall past i, EveryInput Q past -> Q past i -> P past ->
      P (past ++ [i]))
    {history : List input} (h : EveryInput Q history) : P history := by
  induction history using List.reverseRecOn with
  | nil =>
      exact hnil
  | append_singleton past i ih =>
      rcases everyInput_snoc.mp h with ⟨hpast, hi⟩
      exact hsnoc past i hpast hi (ih hpast)

/-!
# Latched bits
-/

/-- Some input set the bit, and no later one cleared it. -/
def Latched (Sets Clears : input -> Prop) (history : List input) : Prop :=
  exists before i after, history = before ++ i :: after ∧ Sets i ∧
    forall j, j ∈ after -> ¬ Clears j

variable {Sets Clears : input -> Prop}

theorem not_latched_nil : ¬ Latched Sets Clears [] := by
  intro hlatched
  rcases hlatched with ⟨before, i, after, h, _⟩
  simp at h

theorem latched_snoc {past : List input} {i : input} :
    Latched Sets Clears (past ++ [i]) <->
      Sets i ∨ (Latched Sets Clears past ∧ ¬ Clears i) := by
  constructor
  · intro h
    rcases h with ⟨before, j, after, heq, hset, hclear⟩
    rcases List.eq_nil_or_concat' after with rfl | ⟨middle, k, rfl⟩
    · rcases List.append_inj' heq rfl with ⟨_, hlast⟩
      cases hlast
      exact Or.inl hset
    · rw [← List.cons_append, ← List.append_assoc] at heq
      rcases List.append_inj' heq rfl with ⟨rfl, hlast⟩
      cases hlast
      exact Or.inr
        ⟨⟨before, j, middle, rfl, hset, fun l hl => hclear l (by simp [hl])⟩,
          hclear i (by simp)⟩
  · intro h
    rcases h with hset | ⟨⟨before, j, after, rfl, hset, hclear⟩, hi⟩
    · exact ⟨past, i, [], rfl, hset, by simp⟩
    · refine ⟨before, j, after ++ [i], by simp, hset, ?_⟩
      intro l hl
      rcases List.mem_append.mp hl with hold | hnew
      · exact hclear l hold
      · rw [List.mem_singleton.mp hnew]
        exact hi

theorem latched_iff_foldl [DecidablePred Sets] [DecidablePred Clears]
    (history : List input) :
    Latched Sets Clears history <->
      history.foldl (fun on i => decide (Sets i) || (on && !decide (Clears i))) false =
        true := by
  induction history using List.reverseRecOn with
  | nil =>
      simp [not_latched_nil]
  | append_singleton past i ih =>
      rw [latched_snoc, ih, List.foldl_concat]
      simp

instance [DecidablePred Sets] [DecidablePred Clears] (history : List input) :
    Decidable (Latched Sets Clears history) :=
  decidable_of_iff _ (latched_iff_foldl history).symm

theorem Latched.exists_mem {history : List input} (h : Latched Sets Clears history) :
    exists i, i ∈ history ∧ Sets i := by
  rcases h with ⟨before, i, after, rfl, hset, _⟩
  exact ⟨i, by simp, hset⟩

/-- Fewer inputs that clear the bit leave it set where it was set. -/
theorem Latched.mono {Clears' : input -> Prop} {history : List input}
    (h : Latched Sets Clears history) (hclears : forall i, Clears' i -> Clears i) :
    Latched Sets Clears' history := by
  rcases h with ⟨before, i, after, heq, hset, hclear⟩
  exact ⟨before, i, after, heq, hset, fun j hj hclears' => hclear j hj (hclears j hclears')⟩

/-- A bit that is clear at first and follows the inputs is the latched one. -/
theorem iff_latched (bit : List input -> Prop) (hnil : ¬ bit [])
    (hsnoc : forall past i, bit (past ++ [i]) <-> Sets i ∨ (bit past ∧ ¬ Clears i))
    (history : List input) : bit history <-> Latched Sets Clears history := by
  induction history using List.reverseRecOn with
  | nil =>
      exact iff_of_false hnil not_latched_nil
  | append_singleton past i ih =>
      rw [hsnoc, latched_snoc, ih]

end Foundation
end CarCleaner
