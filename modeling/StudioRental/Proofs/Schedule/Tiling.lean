import StudioRental.Schedule.FreeSlots
import Mathlib.Data.List.Basic

/-!
Free time and booked time tile a working window.

A span is read as the set of integer instants `t` with `start ≤ t < stop`. The main result,
`freeSlots_busyWithin_tile`, says that for every window and every list of busy spans (in any
order, overlapping, touching, empty, inverted or outside the window):

* the free slots and the clipped busy cover are each laid out along the window: every span is
  non-empty and inside it, and each ends strictly before the next one starts;
* the two lists share no instant and together hold exactly the window's instants, and no free
  slot meets a busy span;
* merging their concatenation, sorted by start, gives back the window; both are empty when the
  window is.

The proof reads each stage through its instants: clipping intersects with the window, sorting
permutes, merging a start-sorted list keeps its instants and leaves a gap between its spans, and
cutting start-sorted removals out of a span keeps exactly the instants no removal holds. The
layout of both lists then follows from what they cover and from a gap lemma per stage.
-/

namespace StudioRental

namespace Span

attribute [ext] Span

/-- The instants of a span: `t` with `start ≤ t < stop`. -/
instance : Membership Int Span := ⟨fun s t => s.start ≤ t ∧ t < s.stop⟩

theorem mem_def {t : Int} {s : Span} : t ∈ s ↔ s.start ≤ t ∧ t < s.stop := Iff.rfl

instance (t : Int) (s : Span) : Decidable (t ∈ s) := inferInstanceAs (Decidable (_ ∧ _))

/-- Some span of the list holds the instant. -/
def Covers (l : List Span) (t : Int) : Prop := ∃ s ∈ l, t ∈ s

instance (l : List Span) (t : Int) : Decidable (Covers l t) :=
  inferInstanceAs (Decidable (∃ s ∈ l, t ∈ s))

/-- Non-empty spans, each ending strictly before the next one starts; so they are sorted by
start, and no two of them touch. -/
structure Separated (l : List Span) : Prop where
  nonempty : ∀ s ∈ l, s.start < s.stop
  gaps : l.Pairwise fun a b => a.stop < b.start

/-- Separated spans that all lie inside `window`. -/
structure LaidOut (window : Span) (l : List Span) : Prop extends Separated l where
  inside : ∀ s ∈ l, window.start ≤ s.start ∧ s.stop ≤ window.stop

section Covers

variable {l l' : List Span} {t : Int}

@[simp] theorem covers_nil : ¬ Covers [] t := by simp [Covers]

@[simp] theorem covers_cons {s : Span} : Covers (s :: l) t ↔ t ∈ s ∨ Covers l t := by
  simp [Covers]

@[simp] theorem covers_append : Covers (l ++ l') t ↔ Covers l t ∨ Covers l' t := by
  simp only [Covers, List.mem_append]
  constructor
  · rintro ⟨s, hs | hs, ht⟩
    · exact .inl ⟨s, hs, ht⟩
    · exact .inr ⟨s, hs, ht⟩
  · rintro (⟨s, hs, ht⟩ | ⟨s, hs, ht⟩)
    · exact ⟨s, .inl hs, ht⟩
    · exact ⟨s, .inr hs, ht⟩

@[simp] theorem covers_reverse : Covers l.reverse t ↔ Covers l t := by
  simp [Covers]

theorem covers_of_subset (h : ∀ s ∈ l, s ∈ l') : Covers l t → Covers l' t :=
  fun ⟨s, hs, ht⟩ => ⟨s, h s hs, ht⟩

theorem Covers.perm (h : l.Perm l') : Covers l t ↔ Covers l' t :=
  ⟨covers_of_subset fun _ hs => h.mem_iff.1 hs, covers_of_subset fun _ hs => h.mem_iff.2 hs⟩

theorem inside_of_covers {window : Span} (hne : ∀ s ∈ l, s.start < s.stop)
    (h : ∀ t, Covers l t → t ∈ window) :
    ∀ s ∈ l, window.start ≤ s.start ∧ s.stop ≤ window.stop := by
  intro s hs
  have hfirst : s.start ∈ window := h _ ⟨s, hs, by rw [mem_def]; have := hne s hs; omega⟩
  have hlast : s.stop - 1 ∈ window := h _ ⟨s, hs, by rw [mem_def]; have := hne s hs; omega⟩
  rw [mem_def] at hfirst hlast
  omega

theorem Separated.laidOut {window : Span} (h : Separated l) (hcov : ∀ t, Covers l t → t ∈ window) :
    LaidOut window l :=
  { h with inside := inside_of_covers h.nonempty hcov }

theorem Separated.sorted (h : Separated l) : l.Pairwise fun a b => a.start ≤ b.start :=
  h.gaps.imp_of_mem fun {a _} ha _ hab => by have := h.nonempty a ha; omega

theorem eq_nil_of_covers (hne : ∀ s ∈ l, s.start < s.stop) (h : ∀ t, ¬ Covers l t) : l = [] := by
  cases l with
  | nil => rfl
  | cons s rest =>
    exact absurd ⟨s, List.mem_cons_self, by rw [mem_def]; have := hne s List.mem_cons_self; omega⟩
      (h s.start)

/-- Separated spans that cover exactly the instants of a non-empty span are that span: a
second span would leave the instant between them uncovered. -/
theorem eq_singleton_of_covers {w : Span} (hw : w.start < w.stop) (hl : Separated l)
    (hcov : ∀ t, Covers l t ↔ t ∈ w) : l = [w] := by
  cases l with
  | nil => exact absurd ((hcov w.start).2 (by rw [mem_def]; omega)) covers_nil
  | cons a rest =>
    have ha := hl.nonempty a List.mem_cons_self
    have hafter : ∀ b ∈ rest, a.stop < b.start := (List.pairwise_cons.1 hl.gaps).1
    -- No later span reaches back to the instants of `a`.
    have honly : ∀ t, t < a.stop → (Covers (a :: rest) t ↔ t ∈ a) := by
      intro t ht
      refine ⟨fun h => ?_, fun h => covers_cons.2 (.inl h)⟩
      rcases covers_cons.1 h with h | ⟨b, hb, hbt⟩
      · exact h
      · have := hafter b hb
        rw [mem_def] at hbt
        omega
    have hstart : a.start = w.start := by
      have h1 := (hcov a.start).1 (covers_cons.2 (.inl (by rw [mem_def]; omega)))
      have h2 := (honly w.start (by rw [mem_def] at h1; omega)).1 ((hcov _).2 (by rw [mem_def]; omega))
      rw [mem_def] at h1 h2
      omega
    cases rest with
    | nil =>
      have h1 := (hcov (a.stop - 1)).1 (covers_cons.2 (.inl (by rw [mem_def]; omega)))
      have h2 := (hcov (w.stop - 1)).2 (by rw [mem_def]; omega)
      simp only [covers_cons, covers_nil, or_false, mem_def] at h1 h2
      have hstop : a.stop = w.stop := by omega
      rw [List.cons.injEq]
      exact ⟨Span.ext hstart hstop, rfl⟩
    | cons b rest' =>
      -- The instant `a.stop` lies in the window but in neither `a` nor any later span.
      have hb := hafter b List.mem_cons_self
      have hbw := (hcov b.start).1 (covers_cons.2 (.inr (covers_cons.2
        (.inl (by rw [mem_def]; have := hl.nonempty b (by simp); omega)))))
      have hgap := (hcov a.stop).2 (by rw [mem_def] at hbw ⊢; omega)
      rcases covers_cons.1 hgap with h | ⟨c, hc, hct⟩
      · rw [mem_def] at h; omega
      · have := hafter c hc
        rw [mem_def] at hct
        omega

end Covers

/-! ### Clipping -/

theorem covers_filterMap_clip (window : Span) (busy : List Span) (t : Int) :
    Covers (busy.filterMap (·.clip window)) t ↔ t ∈ window ∧ Covers busy t := by
  constructor
  · rintro ⟨c, hc, ht⟩
    obtain ⟨s, hs, hsc⟩ := List.mem_filterMap.1 hc
    obtain ⟨rfl, -⟩ := (clip_eq_some_iff s window c).1 hsc
    simp only [mem_def] at ht ⊢
    exact ⟨by omega, s, hs, by rw [mem_def]; omega⟩
  · rintro ⟨htw, s, hs, hts⟩
    rw [mem_def] at htw hts
    have hc : s.clip window = some ⟨max s.start window.start, min s.stop window.stop⟩ :=
      (clip_eq_some_iff _ _ _).2 ⟨rfl, by omega⟩
    exact ⟨_, List.mem_filterMap.2 ⟨s, hs, hc⟩, by simp only [mem_def]; omega⟩

theorem nonempty_of_mem_filterMap_clip {window c : Span} {busy : List Span}
    (hc : c ∈ busy.filterMap (·.clip window)) : c.start < c.stop := by
  obtain ⟨s, -, hsc⟩ := List.mem_filterMap.1 hc
  exact ((clip_eq_some_iff s window c).1 hsc).1 ▸ ((clip_eq_some_iff s window c).1 hsc).2

/-! ### Merging -/

section Merge

variable {acc : List Span} {s : Span}

theorem start_of_mem_mergeStep {a : Span} (ha : a ∈ mergeStep acc s) :
    ∃ b ∈ s :: acc, a.start = b.start := by
  unfold mergeStep at ha
  split at ha
  · rename_i last rest
    split at ha
    · rcases List.mem_cons.1 ha with rfl | ha
      · exact ⟨last, by simp, rfl⟩
      · exact ⟨a, by simp [ha], rfl⟩
    · exact ⟨a, ha, rfl⟩
  · exact ⟨a, by simpa using ha, rfl⟩

theorem covers_mergeStep (hle : ∀ a ∈ acc, a.start ≤ s.start) (t : Int) :
    Covers (mergeStep acc s) t ↔ Covers acc t ∨ t ∈ s := by
  unfold mergeStep
  split
  · rename_i last rest
    have hlast := hle last List.mem_cons_self
    split
    · rename_i hjoin
      -- `s` starts inside the span it extends, so the extended span holds exactly both.
      have hboth : t ∈ (⟨last.start, max last.stop s.stop⟩ : Span) ↔ t ∈ last ∨ t ∈ s := by
        simp only [mem_def]
        omega
      simp only [covers_cons, hboth]
      tauto
    · simp only [covers_cons]
      tauto
  · simp

theorem separated_mergeStep (hs : s.start < s.stop) (hacc : Separated acc.reverse)
    (hle : ∀ a ∈ acc, a.start ≤ s.start) : Separated (mergeStep acc s).reverse := by
  unfold mergeStep
  split
  · rename_i last rest
    have hne : ∀ a ∈ last :: rest, a.start < a.stop := fun a ha =>
      hacc.nonempty a (List.mem_reverse.2 ha)
    -- Read latest first, every kept span ends before `last` starts.
    have hbefore : ∀ a ∈ rest, a.stop < last.start := by
      have := hacc.gaps
      rw [List.reverse_cons, List.pairwise_append] at this
      exact fun a ha => this.2.2 a (List.mem_reverse.2 ha) last List.mem_cons_self
    have hlast := hne last List.mem_cons_self
    split
    · refine ⟨fun a ha => ?_, ?_⟩
      · rcases List.mem_cons.1 (List.mem_reverse.1 ha) with rfl | ha
        · simp only; omega
        · exact hne a (by simp [ha])
      · rw [List.reverse_cons, List.pairwise_append]
        have hrest := hacc.gaps
        rw [List.reverse_cons, List.pairwise_append] at hrest
        refine ⟨hrest.1, List.pairwise_singleton _ _, fun a ha b hb => ?_⟩
        rw [List.mem_singleton] at hb
        subst hb
        exact hbefore a (List.mem_reverse.1 ha)
    · rename_i hgap
      refine ⟨fun a ha => ?_, ?_⟩
      · rcases List.mem_cons.1 (List.mem_reverse.1 ha) with rfl | ha
        · exact hs
        · exact hne a ha
      · rw [List.reverse_cons, List.pairwise_append]
        refine ⟨hacc.gaps, List.pairwise_singleton _ _, fun a ha b hb => ?_⟩
        rw [List.mem_singleton] at hb
        subst hb
        rcases List.mem_cons.1 (List.mem_reverse.1 ha) with rfl | ha
        · omega
        · have := hbefore a ha
          omega
  · exact ⟨by simpa using hs, by simp⟩

theorem covers_foldl_mergeStep (l : List Span) (hsort : l.Pairwise fun a b => a.start ≤ b.start)
    (hle : ∀ a ∈ acc, ∀ s ∈ l, a.start ≤ s.start) (t : Int) :
    Covers (l.foldl mergeStep acc) t ↔ Covers acc t ∨ Covers l t := by
  induction l generalizing acc with
  | nil => simp
  | cons s l ih =>
    obtain ⟨hs, hsort⟩ := List.pairwise_cons.1 hsort
    have hle' : ∀ a ∈ mergeStep acc s, ∀ s' ∈ l, a.start ≤ s'.start := by
      intro a ha s' hs'
      obtain ⟨b, hb, heq⟩ := start_of_mem_mergeStep ha
      rcases List.mem_cons.1 hb with rfl | hb
      · exact heq ▸ hs s' hs'
      · exact heq ▸ hle b hb s' (List.mem_cons_of_mem _ hs')
    rw [List.foldl_cons, ih hsort hle', covers_mergeStep (fun a ha => hle a ha s List.mem_cons_self),
      covers_cons]
    tauto

theorem separated_foldl_mergeStep (l : List Span) (hne : ∀ s ∈ l, s.start < s.stop)
    (hsort : l.Pairwise fun a b => a.start ≤ b.start) (hacc : Separated acc.reverse)
    (hle : ∀ a ∈ acc, ∀ s ∈ l, a.start ≤ s.start) : Separated (l.foldl mergeStep acc).reverse := by
  induction l generalizing acc with
  | nil => exact hacc
  | cons s l ih =>
    obtain ⟨hs, hsort⟩ := List.pairwise_cons.1 hsort
    have hle' : ∀ a ∈ mergeStep acc s, ∀ s' ∈ l, a.start ≤ s'.start := by
      intro a ha s' hs'
      obtain ⟨b, hb, heq⟩ := start_of_mem_mergeStep ha
      rcases List.mem_cons.1 hb with rfl | hb
      · exact heq ▸ hs s' hs'
      · exact heq ▸ hle b hb s' (List.mem_cons_of_mem _ hs')
    exact ih (fun s' hs' => hne s' (List.mem_cons_of_mem _ hs')) hsort
      (separated_mergeStep (hne s List.mem_cons_self) hacc fun a ha => hle a ha s List.mem_cons_self) hle'

/-- Merging a start-sorted list keeps exactly its instants. -/
theorem covers_mergeOverlapping {l : List Span} (hsort : l.Pairwise fun a b => a.start ≤ b.start)
    (t : Int) : Covers (mergeOverlapping l) t ↔ Covers l t := by
  rw [mergeOverlapping, covers_reverse, covers_foldl_mergeStep l hsort (by simp)]
  simp

/-- Merging a start-sorted list of non-empty spans leaves a gap between any two of its spans. -/
theorem separated_mergeOverlapping {l : List Span} (hne : ∀ s ∈ l, s.start < s.stop)
    (hsort : l.Pairwise fun a b => a.start ≤ b.start) : Separated (mergeOverlapping l) :=
  separated_foldl_mergeStep l hne hsort ⟨by simp, by simp⟩ (by simp)

end Merge

/-! ### Cutting -/

section Cut

theorem cutFrom_bounds (cur stop : Int) (rs : List Span) :
    ∀ s ∈ cutFrom cur stop rs, cur ≤ s.start ∧ s.start < s.stop := by
  induction rs generalizing cur with
  | nil =>
    intro s hs
    unfold cutFrom at hs
    split at hs
    · rw [List.mem_singleton] at hs; subst hs; simp only; omega
    · simp at hs
  | cons r rs ih =>
    intro s hs
    unfold cutFrom at hs
    split at hs
    · rcases List.mem_append.1 hs with hs | hs
      · split at hs
        · rw [List.mem_singleton] at hs; subst hs; simp only; omega
        · simp at hs
      · have := ih _ s hs
        omega
    · split at hs
      · rw [List.mem_singleton] at hs; subst hs; simp only; omega
      · simp at hs

theorem cutFrom_gaps (cur stop : Int) {rs : List Span} (hne : ∀ r ∈ rs, r.start < r.stop) :
    (cutFrom cur stop rs).Pairwise fun a b => a.stop < b.start := by
  induction rs generalizing cur with
  | nil =>
    unfold cutFrom
    split <;> simp
  | cons r rs ih =>
    unfold cutFrom
    have hr := hne r List.mem_cons_self
    have hrest := ih (max cur r.stop) fun r' hr' => hne r' (List.mem_cons_of_mem _ hr')
    split
    · rw [List.pairwise_append]
      refine ⟨by split <;> simp, hrest, fun a ha b hb => ?_⟩
      split at ha
      · rw [List.mem_singleton] at ha
        subst ha
        have := (cutFrom_bounds _ _ _ b hb).1
        simp only
        omega
      · simp at ha
    · split <;> simp

theorem covers_piece (cur x t : Int) :
    Covers (if cur < x then [(⟨cur, x⟩ : Span)] else []) t ↔ cur ≤ t ∧ t < x := by
  split
  · simp [mem_def]
  · simp only [covers_nil, false_iff]
    omega

/-- Cutting start-sorted removals out of `[cur, stop)` keeps exactly the instants that no
removal holds. -/
theorem covers_cutFrom (cur stop : Int) {rs : List Span}
    (hsort : rs.Pairwise fun a b => a.start ≤ b.start) (t : Int) :
    Covers (cutFrom cur stop rs) t ↔ cur ≤ t ∧ t < stop ∧ ¬ Covers rs t := by
  induction rs generalizing cur with
  | nil =>
    unfold cutFrom
    simp [covers_piece]
  | cons r rs ih =>
    obtain ⟨hr, hsort⟩ := List.pairwise_cons.1 hsort
    -- An instant before `r` starts is before every later removal starts.
    have hlater : t < r.start → ¬ Covers rs t := fun ht ⟨r', hr', hrt⟩ => by
      have := hr r' hr'
      rw [mem_def] at hrt
      omega
    unfold cutFrom
    split
    · rename_i hstart
      rw [covers_append, ih _ hsort, covers_cons, mem_def, covers_piece]
      by_cases hc : Covers rs t
      · have : r.start ≤ t := Int.not_lt.1 fun ht => hlater ht hc
        simp only [hc, not_true_eq_false, and_false, or_false, or_true, iff_false]
        omega
      · simp only [hc, not_false_eq_true, and_true, or_false]
        omega
    · rename_i hstart
      rw [covers_cons, mem_def, covers_piece]
      by_cases hc : Covers rs t
      · have : r.start ≤ t := Int.not_lt.1 fun ht => hlater ht hc
        simp only [hc, not_true_eq_false, and_false, or_true, iff_false]
        omega
      · simp only [hc, or_false]
        omega

theorem skipEnded_suffix (cur : Int) (rs : List Span) : skipEnded cur rs <:+ rs := by
  induction rs with
  | nil => exact List.suffix_refl _
  | cons r rs ih =>
    unfold skipEnded
    split
    · exact ih.trans (List.suffix_cons r rs)
    · exact List.suffix_refl _

theorem covers_skipEnded {cur t : Int} (ht : cur ≤ t) (rs : List Span) :
    Covers (skipEnded cur rs) t ↔ Covers rs t := by
  induction rs with
  | nil => simp [skipEnded]
  | cons r rs ih =>
    unfold skipEnded
    split
    · rename_i hended
      have hnot : t ∉ r := by rw [mem_def]; omega
      simp only [ih, covers_cons, hnot, false_or]
    · rfl

theorem subtractIntervals_singleton (w : Span) (rs : List Span) :
    subtractIntervals [w] rs = cutFrom w.start w.stop (skipEnded w.start rs) := by
  simp [subtractIntervals]

end Cut

/-! ### The window's busy cover and free slots -/

section Window

variable (window : Span) (busy : List Span)

theorem sorted_mergeSort_start (l : List Span) :
    (l.mergeSort fun a b => decide (a.start ≤ b.start)).Pairwise fun a b => a.start ≤ b.start :=
  (List.pairwise_mergeSort (fun a b c hab hbc => by simp at *; omega)
    (fun a b => by simp; omega) _).imp fun h => by simpa using h

theorem covers_busyWithin (t : Int) :
    Covers (busyWithin window busy) t ↔ t ∈ window ∧ Covers busy t := by
  rw [busyWithin, covers_mergeOverlapping, Covers.perm (List.mergeSort_perm _ _),
    covers_filterMap_clip]
  exact sorted_mergeSort_start _

theorem separated_busyWithin : Separated (busyWithin window busy) := by
  apply separated_mergeOverlapping
  · intro s hs
    exact nonempty_of_mem_filterMap_clip (List.mem_mergeSort.1 hs)
  · exact sorted_mergeSort_start _

theorem covers_freeSlots (t : Int) :
    Covers (freeSlots window busy) t ↔ t ∈ window ∧ ¬ Covers busy t := by
  unfold freeSlots
  split
  · rename_i hempty
    simp only [isEmpty_eq, decide_eq_true_eq] at hempty
    simp only [covers_nil, false_iff, mem_def]
    omega
  · have hsort := ((separated_busyWithin window busy).sorted).sublist
      (skipEnded_suffix window.start (busyWithin window busy)).sublist
    rw [subtractIntervals_singleton, covers_cutFrom _ _ hsort, mem_def]
    constructor
    · rintro ⟨h1, h2, h3⟩
      refine ⟨⟨h1, h2⟩, fun h => h3 ?_⟩
      rw [covers_skipEnded h1, covers_busyWithin]
      exact ⟨⟨h1, h2⟩, h⟩
    · rintro ⟨⟨h1, h2⟩, h3⟩
      refine ⟨h1, h2, fun h => h3 ?_⟩
      rw [covers_skipEnded h1, covers_busyWithin] at h
      exact h.2

theorem separated_freeSlots : Separated (freeSlots window busy) := by
  unfold freeSlots
  split
  · exact ⟨by simp, by simp⟩
  · rw [subtractIntervals_singleton]
    have hne := (separated_busyWithin window busy).nonempty
    exact ⟨fun s hs => (cutFrom_bounds _ _ _ s hs).2,
      cutFrom_gaps _ _ fun r hr => hne r ((skipEnded_suffix _ _).subset hr)⟩

/-- Two non-empty spans overlap exactly when they share an instant. -/
theorem overlaps_iff_exists_mem {a b : Span} (ha : a.start < a.stop) (hb : b.start < b.stop) :
    a.overlaps b = true ↔ ∃ t, t ∈ a ∧ t ∈ b := by
  simp only [overlaps, Bool.and_eq_true, decide_eq_true_eq, mem_def]
  constructor
  · rintro ⟨h1, h2⟩
    exact ⟨max a.start b.start, by omega⟩
  · rintro ⟨t, h⟩
    omega

/-- Free time and booked time tile the window: each list is laid out along it, they share no
instant and together hold exactly its instants, no free slot meets a busy span, merging their
start-sorted concatenation gives the window back, and both are empty when the window is. -/
theorem freeSlots_busyWithin_tile :
    LaidOut window (freeSlots window busy) ∧ LaidOut window (busyWithin window busy) ∧
    (∀ s ∈ freeSlots window busy, ∀ b ∈ busy, ∀ t, ¬ (t ∈ s ∧ t ∈ b)) ∧
    (∀ s ∈ freeSlots window busy, ∀ b ∈ busy, b.isEmpty = false → b.overlaps s = false) ∧
    (∀ t, t ∈ window ↔ Covers (freeSlots window busy) t ∨ Covers (busyWithin window busy) t) ∧
    (∀ t, ¬ (Covers (freeSlots window busy) t ∧ Covers (busyWithin window busy) t)) ∧
    (window.isEmpty = false →
      mergeOverlapping ((freeSlots window busy ++ busyWithin window busy).mergeSort
        fun a b => decide (a.start ≤ b.start)) = [window]) ∧
    (window.isEmpty = true → freeSlots window busy = [] ∧ busyWithin window busy = []) := by
  have hfree := covers_freeSlots window busy
  have htaken := covers_busyWithin window busy
  have hsepF := separated_freeSlots window busy
  have hsepB := separated_busyWithin window busy
  -- What a free slot holds, no busy span holds.
  have hapart : ∀ s ∈ freeSlots window busy, ∀ b ∈ busy, ∀ t, ¬ (t ∈ s ∧ t ∈ b) :=
    fun s hs b hb t ⟨hts, htb⟩ => ((hfree t).1 ⟨s, hs, hts⟩).2 ⟨b, hb, htb⟩
  have htile : ∀ t, t ∈ window ↔ Covers (freeSlots window busy) t ∨
      Covers (busyWithin window busy) t := by
    intro t
    rw [hfree, htaken]
    tauto
  refine ⟨hsepF.laidOut fun t h => ((hfree t).1 h).1, hsepB.laidOut fun t h => ((htaken t).1 h).1,
    hapart, ?_, htile, fun t ⟨hf, hb⟩ => ((hfree t).1 hf).2 ((htaken t).1 hb).2, ?_, ?_⟩
  · intro s hs b hb hbne
    simp only [isEmpty_eq, decide_eq_false_iff_not, Int.not_le] at hbne
    rw [Bool.eq_false_iff]
    intro hov
    obtain ⟨t, htb, hts⟩ := (overlaps_iff_exists_mem hbne (hsepF.nonempty s hs)).1 hov
    exact hapart s hs b hb t ⟨hts, htb⟩
  · intro hw
    simp only [isEmpty_eq, decide_eq_false_iff_not, Int.not_le] at hw
    set tiles := (freeSlots window busy ++ busyWithin window busy).mergeSort
      fun a b => decide (a.start ≤ b.start)
    have hsort : tiles.Pairwise fun a b => a.start ≤ b.start := sorted_mergeSort_start _
    have hne : ∀ s ∈ tiles, s.start < s.stop := by
      intro s hs
      rcases List.mem_append.1 (List.mem_mergeSort.1 hs) with hs | hs
      · exact hsepF.nonempty s hs
      · exact hsepB.nonempty s hs
    apply eq_singleton_of_covers hw (separated_mergeOverlapping hne hsort)
    intro t
    rw [covers_mergeOverlapping hsort, Covers.perm (List.mergeSort_perm _ _), covers_append, htile]
  · intro hw
    simp only [isEmpty_eq, decide_eq_true_eq] at hw
    have hnone : ∀ t, t ∉ window := fun t h => by rw [mem_def] at h; omega
    exact ⟨eq_nil_of_covers hsepF.nonempty fun t h => hnone t ((hfree t).1 h).1,
      eq_nil_of_covers hsepB.nonempty fun t h => hnone t ((htaken t).1 h).1⟩

/-- Busy spans given out of order that touch leave no sliver between them. -/
example :
    freeSlots ⟨900, 1200⟩ [⟨1030, 1100⟩, ⟨1000, 1030⟩] = [⟨900, 1000⟩, ⟨1100, 1200⟩] ∧
      busyWithin ⟨900, 1200⟩ [⟨1030, 1100⟩, ⟨1000, 1030⟩] = [⟨1000, 1100⟩] := by
  cbv

end Window

end Span

end StudioRental
