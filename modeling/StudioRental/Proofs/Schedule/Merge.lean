import StudioRental.Proofs.Schedule.Tiling
import Mathlib.Data.List.Chain

/-!
Merging start-sorted spans joins exactly the runs that chain.

A run is a first span and the spans after it. It chains when each later span starts no later
than the furthest end of the spans before it, so that it overlaps or touches what came before;
its hull is the smallest span holding all of it. The main result, `mergeOverlapping_runs`, cuts
every start-sorted list of non-empty spans into consecutive runs that each chain, each starting
after the hull of the one before has ended, and finds the merge to be the list of their hulls.
With the cover and gap lemmas of `Tiling`, the merge also keeps exactly the instants of its input
and leaves a gap after each of its spans.

The merge folds from the left into a reversed accumulator. `mergeOverlapping_cons` reads it as a
recursion `mergeFrom` that carries the span being grown, and the run decomposition follows that
recursion.
-/

namespace StudioRental

namespace Span

/-- The furthest end among the spans of a run. -/
def reach (first : Span) (rest : List Span) : Int :=
  rest.foldl (fun m s => max m s.stop) first.stop

/-- The smallest span holding every span of a run: its earliest start and its furthest end. -/
def hull (first : Span) (rest : List Span) : Span :=
  ⟨rest.foldl (fun m s => min m s.start) first.start, reach first rest⟩

/-- Each later span of the run starts no later than the furthest end of the spans before it. -/
def Chains (first : Span) (rest : List Span) : Prop :=
  ∀ pre s post, rest = pre ++ s :: post → s.start ≤ reach first pre

/-- The merge carrying `cur`, the span being grown: a span that starts before `cur` has ended
extends it, and any other closes it and is grown in its turn. -/
def mergeFrom (cur : Span) : List Span → List Span
  | [] => [cur]
  | s :: rest =>
    if s.start ≤ cur.stop then mergeFrom ⟨cur.start, max cur.stop s.stop⟩ rest
    else cur :: mergeFrom s rest

section Runs

variable {first s : Span} {rest : List Span}

@[simp] theorem reach_nil : reach first [] = first.stop := rfl

theorem reach_concat : reach first (rest ++ [s]) = max (reach first rest) s.stop := by
  simp [reach]

@[simp] theorem hull_stop : (hull first rest).stop = reach first rest := rfl

theorem hull_of_le (h : ∀ s ∈ rest, first.start ≤ s.start) :
    hull first rest = ⟨first.start, reach first rest⟩ := by
  -- the running minimum never moves below the first start
  have hmin : ∀ l : List Span, (∀ s ∈ l, first.start ≤ s.start) →
      l.foldl (fun m s => min m s.start) first.start = first.start := by
    intro l hl
    induction l with
    | nil => rfl
    | cons x l ih =>
      rw [List.foldl_cons, Int.min_eq_left (hl x List.mem_cons_self)]
      exact ih fun y hy => hl y (List.mem_cons_of_mem _ hy)
  simp only [hull, hmin rest h]

theorem chains_nil : Chains first [] := by
  intro pre s post h
  simp at h

theorem Chains.concat (h : Chains first rest) (hs : s.start ≤ reach first rest) :
    Chains first (rest ++ [s]) := by
  intro pre x post heq
  rcases List.eq_nil_or_concat post with rfl | ⟨post', y, rfl⟩
  · -- the split isolates the new span
    obtain ⟨rfl, hx⟩ := List.append_inj' heq rfl
    rw [List.singleton_inj] at hx
    exact hx ▸ hs
  · have hsplit : rest ++ [s] = (pre ++ x :: post') ++ [y] := by simpa using heq
    exact h pre x post' (List.append_inj' hsplit rfl).1

end Runs

/-! ### The merge as a recursion -/

theorem foldl_mergeStep_cons (cur : Span) (acc l : List Span) :
    l.foldl mergeStep (cur :: acc) = (mergeFrom cur l).reverse ++ acc := by
  induction l generalizing cur acc with
  | nil => simp [mergeFrom]
  | cons s l ih =>
    rw [List.foldl_cons]
    simp only [mergeStep]
    split
    · rename_i hjoin
      rw [ih, mergeFrom, if_pos hjoin]
    · rename_i hgap
      rw [ih, mergeFrom, if_neg hgap]
      simp

theorem mergeOverlapping_cons (s : Span) (l : List Span) :
    mergeOverlapping (s :: l) = mergeFrom s l := by
  rw [mergeOverlapping, List.foldl_cons]
  simp only [mergeStep]
  rw [foldl_mergeStep_cons, List.append_nil, List.reverse_reverse]

/-! ### Runs -/

theorem eq_cons_of_flatMap_runs {a : Span} {l : List Span} {runs : List (Span × List Span)}
    (h : a :: l = runs.flatMap fun g => g.1 :: g.2) :
    ∃ g rs, runs = g :: rs ∧ g.1 = a := by
  cases runs with
  | nil => simp at h
  | cons g rs =>
    simp only [List.flatMap_cons, List.cons_append, List.cons.injEq] at h
    exact ⟨g, rs, rfl, h.1.symm⟩

/-- Growing a run that chains: what is left of the list is cut into runs after it, and the merge
gives the reach of each. The induction is on what is left, with the run grown so far as the
invariant's carrier. -/
theorem mergeFrom_runs (first : Span) (rest l : List Span) (hc : Chains first rest) :
    ∃ runs : List (Span × List Span), first :: (rest ++ l) = runs.flatMap (fun g => g.1 :: g.2) ∧
      (∀ g ∈ runs, Chains g.1 g.2) ∧
      runs.IsChain (fun g g' => reach g.1 g.2 < g'.1.start) ∧
      mergeFrom ⟨first.start, reach first rest⟩ l =
        runs.map fun g => (⟨g.1.start, reach g.1 g.2⟩ : Span) := by
  induction l generalizing first rest with
  | nil =>
    refine ⟨[(first, rest)], by simp, by simpa using hc, .singleton _, ?_⟩
    rw [mergeFrom, List.map_singleton]
  | cons s l ih =>
    by_cases hjoin : s.start ≤ reach first rest
    · -- `s` chains onto the run, which grows by it
      obtain ⟨runs, hl, hch, hgap, hm⟩ := ih first (rest ++ [s]) (hc.concat hjoin)
      refine ⟨runs, by simpa using hl, hch, hgap, ?_⟩
      rw [mergeFrom, if_pos hjoin, ← hm, reach_concat]
    · -- `s` starts past the run's reach: the run is closed and `s` opens the next one
      obtain ⟨runs, hl, hch, hgap, hm⟩ := ih s [] chains_nil
      obtain ⟨g, rs, hrs, hg⟩ := eq_cons_of_flatMap_runs hl
      subst hrs
      refine ⟨(first, rest) :: g :: rs, ?_, ?_, ?_, ?_⟩
      · simp only [List.nil_append] at hl
        simp [hl]
      · intro g' hg'
        rcases List.mem_cons.1 hg' with rfl | hg'
        · exact hc
        · exact hch g' hg'
      · exact List.IsChain.cons_cons (show reach first rest < g.1.start by rw [hg]; omega) hgap
      · rw [mergeFrom, if_neg hjoin, List.map_cons, ← hm]
        rfl

/-- Merging a start-sorted list of non-empty spans: the result is empty only for an empty list,
its spans are non-empty and each ends strictly before the next starts, it holds exactly the
instants of the input, and it is the list of hulls of the input's consecutive runs, where each run
chains and each next run starts after the hull of the one before has ended. -/
theorem mergeOverlapping_runs (l : List Span) (hne : ∀ s ∈ l, s.start < s.stop)
    (hsort : l.Pairwise fun a b => a.start ≤ b.start) :
    (mergeOverlapping l = [] ↔ l = []) ∧ Separated (mergeOverlapping l) ∧
      (∀ t, Covers (mergeOverlapping l) t ↔ Covers l t) ∧
      ∃ runs : List (Span × List Span), l = runs.flatMap (fun g => g.1 :: g.2) ∧
        (∀ g ∈ runs, Chains g.1 g.2) ∧
        runs.IsChain (fun g g' => (hull g.1 g.2).stop < g'.1.start) ∧
        mergeOverlapping l = runs.map fun g => hull g.1 g.2 := by
  have hruns : ∃ runs : List (Span × List Span), l = runs.flatMap (fun g => g.1 :: g.2) ∧
      (∀ g ∈ runs, Chains g.1 g.2) ∧
      runs.IsChain (fun g g' => (hull g.1 g.2).stop < g'.1.start) ∧
      mergeOverlapping l = runs.map fun g => hull g.1 g.2 := by
    cases l with
    | nil => exact ⟨[], rfl, by simp, .nil, rfl⟩
    | cons s l =>
      obtain ⟨runs, hl, hch, hgap, hm⟩ := mergeFrom_runs s [] l chains_nil
      rw [List.nil_append] at hl
      refine ⟨runs, hl, hch, hgap, ?_⟩
      rw [mergeOverlapping_cons, show s = ⟨s.start, reach s []⟩ from rfl, hm]
      -- each run is a stretch of the sorted input, so its first span starts earliest
      refine List.map_congr_left fun g hg => (hull_of_le fun x hx => ?_).symm
      have hsub : (g.1 :: g.2).Sublist (s :: l) := by
        rw [hl, List.flatMap_def]
        exact List.sublist_flatten_of_mem (List.mem_map_of_mem hg)
      exact List.rel_of_pairwise_cons (hsort.sublist hsub) hx
  obtain ⟨runs, hl, hch, hgap, hm⟩ := hruns
  refine ⟨⟨fun h => ?_, fun h => by subst h; rfl⟩, separated_mergeOverlapping hne hsort,
    covers_mergeOverlapping hsort, runs, hl, hch, hgap, hm⟩
  rw [hm, List.map_eq_nil_iff] at h
  simp [hl, h]

/-- Touching and nested spans merge into one; a span past the reach starts the next run. -/
example :
    mergeOverlapping [⟨100, 200⟩, ⟨150, 300⟩, ⟨160, 170⟩, ⟨300, 350⟩, ⟨500, 600⟩] =
      [⟨100, 350⟩, ⟨500, 600⟩] := by
  decide

/-- A list of runs to witness the decomposition: a long span with a short one nested in it, a
span touching their reach, and a separate span. -/
theorem nested_runs_merge :
    ((∀ s ∈ ([⟨100, 200⟩, ⟨120, 130⟩, ⟨200, 250⟩, ⟨300, 310⟩] : List Span), s.start < s.stop) ∧
      ([⟨100, 200⟩, ⟨120, 130⟩, ⟨200, 250⟩, ⟨300, 310⟩] : List Span).Pairwise
        fun a b => a.start ≤ b.start) ∧
    ((mergeOverlapping [⟨100, 200⟩, ⟨120, 130⟩, ⟨200, 250⟩, ⟨300, 310⟩] = [] ↔
        ([⟨100, 200⟩, ⟨120, 130⟩, ⟨200, 250⟩, ⟨300, 310⟩] : List Span) = []) ∧
      Separated (mergeOverlapping [⟨100, 200⟩, ⟨120, 130⟩, ⟨200, 250⟩, ⟨300, 310⟩]) ∧
      (∀ t, Covers (mergeOverlapping [⟨100, 200⟩, ⟨120, 130⟩, ⟨200, 250⟩, ⟨300, 310⟩]) t ↔
        Covers [⟨100, 200⟩, ⟨120, 130⟩, ⟨200, 250⟩, ⟨300, 310⟩] t) ∧
      ∃ runs : List (Span × List Span),
        ([⟨100, 200⟩, ⟨120, 130⟩, ⟨200, 250⟩, ⟨300, 310⟩] : List Span) =
          runs.flatMap (fun g => g.1 :: g.2) ∧
        (∀ g ∈ runs, Chains g.1 g.2) ∧
        runs.IsChain (fun g g' => (hull g.1 g.2).stop < g'.1.start) ∧
        mergeOverlapping [⟨100, 200⟩, ⟨120, 130⟩, ⟨200, 250⟩, ⟨300, 310⟩] =
          runs.map fun g => hull g.1 g.2) :=
  ⟨⟨by decide, by decide⟩, mergeOverlapping_runs _ (by decide) (by decide)⟩

end Span

end StudioRental
