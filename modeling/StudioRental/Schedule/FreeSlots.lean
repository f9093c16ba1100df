import StudioRental.Schedule.Span

/-!
Free-slot arithmetic on lists of spans.

* `mergeOverlapping` folds a list left to right, extending the last kept span whenever the
  next one starts no later than it ends (touching spans merge). It does not sort: callers that
  want a canonical cover sort first.
* `subtractIntervals` removes a list of spans from a list of base spans. One cursor into the
  removals is shared by all base spans and only moves past removals that end at or before the
  start of the current base span.
* `busyWithin` clips busy spans to a window, sorts them stably by start and merges them;
  `freeSlots` is the window minus that cover.
-/

namespace StudioRental

namespace Span

/-- One step of the merge: extend the last kept span or keep the new one. -/
def mergeStep (acc : List Span) (s : Span) : List Span :=
  match acc with
  | last :: rest =>
    if s.start ≤ last.stop then ⟨last.start, max last.stop s.stop⟩ :: rest else s :: last :: rest
  | [] => [s]

/-- Merge overlapping or touching spans of a list taken in its given order. -/
def mergeOverlapping (spans : List Span) : List Span :=
  (spans.foldl mergeStep []).reverse

/-- The pieces of `[cur, stop)` left after cutting out `removals`, taken in order while they
start before `stop`; the cursor `cur` moves to the end of each cut. -/
def cutFrom (cur stop : Int) : List Span → List Span
  | [] => if cur < stop then [⟨cur, stop⟩] else []
  | r :: rs =>
    if r.start < stop then
      let piece := if cur < r.start then [⟨cur, r.start⟩] else []
      piece ++ cutFrom (max cur r.stop) stop rs
    else if cur < stop then [⟨cur, stop⟩] else []

/-- Drop the removals that end at or before `cur`, stopping at the first that does not. -/
def skipEnded (cur : Int) : List Span → List Span
  | [] => []
  | r :: rs => if r.stop ≤ cur then skipEnded cur rs else r :: rs

/-- Remove `removals` from each span of `base`, with one cursor into the removals shared by all
base spans. -/
def subtractIntervals : List Span → List Span → List Span
  | [], _ => []
  | b :: bs, removals =>
    let rest := skipEnded b.start removals
    cutFrom b.start b.stop rest ++ subtractIntervals bs rest

/-- Busy spans clipped to `window`, sorted stably by start, and merged. -/
def busyWithin (window : Span) (busy : List Span) : List Span :=
  let clipped := busy.filterMap (fun s => s.clip window)
  mergeOverlapping (clipped.mergeSort (fun a b => decide (a.start ≤ b.start)))

/-- The free parts of `window` once every busy span is removed; nothing for an empty window. -/
def freeSlots (window : Span) (busy : List Span) : List Span :=
  if window.isEmpty then [] else subtractIntervals [window] (busyWithin window busy)

end Span

end StudioRental
