import StudioRental.Number.Power

/-!
Half-open spans of time `[start, end)` measured in milliseconds since the Unix epoch.

A span with `end ≤ start` is empty; such inverted spans are still values of the type,
because callers may pass them in, and every operation below gives them a definite meaning.
-/

namespace StudioRental

open scoped CorePow

/-- A half-open interval `[start, end)` of millisecond timestamps. -/
structure Span where
  start : Int
  stop : Int
  deriving DecidableEq, Repr, Inhabited

namespace Span

/-- A span is empty when it does not end after it starts (inverted spans are empty too). -/
def isEmpty (s : Span) : Bool :=
  decide (s.stop ≤ s.start)

/-- The signed length `end - start`; negative for an inverted span. -/
def duration (s : Span) : Int :=
  s.stop - s.start

/-- Whether an integer fits in 64 signed bits. -/
def fitsInt64 (n : Int) : Bool :=
  decide (-(2 ^ (63 : Nat)) ≤ n) && decide (n < 2 ^ (63 : Nat))

/-- The length as 64-bit arithmetic gives it: `none` when `end - start` overflows. -/
def duration? (s : Span) : Option Int :=
  if fitsInt64 s.duration then some s.duration else none

/-- Two spans overlap when each starts before the other ends. Touching spans do not overlap,
and an empty span may still "overlap" by this test, since only the two inequalities count. -/
def overlaps (a b : Span) : Bool :=
  decide (a.start < b.stop) && decide (b.start < a.stop)

/-- The part of `s` inside `window`, or `none` when that part is empty. -/
def clip (s window : Span) : Option Span :=
  let c : Span := ⟨max s.start window.start, min s.stop window.stop⟩
  if c.isEmpty then none else some c

@[simp] theorem isEmpty_eq (s : Span) : s.isEmpty = decide (s.stop ≤ s.start) := rfl

theorem clip_eq_some_iff (s w c : Span) :
    s.clip w = some c ↔
      c = ⟨max s.start w.start, min s.stop w.stop⟩ ∧ max s.start w.start < min s.stop w.stop := by
  unfold clip
  by_cases h : min s.stop w.stop ≤ max s.start w.start
  · have hn : ¬ max s.start w.start < min s.stop w.stop := Int.not_lt.2 h
    simp [h, hn]
  · have hp : max s.start w.start < min s.stop w.stop := Int.lt_of_not_ge h
    simp only [isEmpty, h, decide_false, Bool.false_eq_true, if_false, Option.some.injEq, hp,
      and_true]
    exact eq_comm

/-- A clipped span is never empty. -/
theorem clip_not_isEmpty {s w c : Span} (h : s.clip w = some c) : c.isEmpty = false := by
  obtain ⟨rfl, hlt⟩ := (clip_eq_some_iff s w c).1 h
  simp
  omega

end Span

end StudioRental
