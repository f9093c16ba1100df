import StudioRental.Proofs.Schedule.Tiling
import Mathlib.Data.List.Forall2

/-!
Subtracting start-sorted removals from start-sorted base spans leaves exactly the pieces.

A piece of a base span is a maximal stretch of it that no removal holds: it is non-empty, no
removal holds any of its instants, and it starts where the base span starts or just after a
removed instant, and ends where the base span ends or at a removed instant (`IsPiece`). The main
result, `subtractIntervals_pieces`, says that for base spans sorted by start and non-empty
removals sorted by start (overlapping or nested), the subtraction is, base span by base span and
in order, the list of that span's pieces; two pieces of one base span have a removed instant
between them; and the result holds exactly the instants of the base spans that no removal holds.

The subtraction shares one cursor into the removals between base spans. The cursor only passes
removals that end before the current base span starts, and no later base span starts earlier, so
the subtraction cuts every base span against all removals (`subtractIntervals_eq_flatMap`).
Pieces meeting at an instant are equal (`IsPiece.eq_of_mem`), so the cut of a span, which covers
exactly its free instants, holds each piece once.
-/

namespace StudioRental

namespace Span

/-- `s` is one of the pieces that `removals` leave of `b`: a non-empty stretch of `b` that no
removal holds and that cannot be extended, since it starts where `b` starts or just after a
removed instant, and ends where `b` ends or at a removed instant. -/
structure IsPiece (removals : List Span) (b s : Span) : Prop where
  nonempty : s.start < s.stop
  inside : b.start ≤ s.start ∧ s.stop ≤ b.stop
  free : ∀ t ∈ s, ¬ Covers removals t
  left : s.start = b.start ∨ Covers removals (s.start - 1)
  right : s.stop = b.stop ∨ Covers removals s.stop

section Pieces

variable {rs : List Span} {b p s : Span} {t : Int}

theorem IsPiece.start_le_of_mem (hp : IsPiece rs b p) (hs : IsPiece rs b s) (htp : t ∈ p)
    (hts : t ∈ s) : s.start ≤ p.start := by
  rw [mem_def] at htp hts
  by_contra hlt
  rcases hs.left with h | h
  · have := hp.inside.1
    omega
  · exact hp.free _ (by rw [mem_def]; omega) h

theorem IsPiece.stop_le_of_mem (hp : IsPiece rs b p) (hs : IsPiece rs b s) (htp : t ∈ p)
    (hts : t ∈ s) : s.stop ≤ p.stop := by
  rw [mem_def] at htp hts
  by_contra hlt
  rcases hp.right with h | h
  · have := hs.inside.2
    omega
  · exact hs.free _ (by rw [mem_def]; omega) h

/-- Two pieces of one span that share an instant are the same piece. -/
theorem IsPiece.eq_of_mem (hp : IsPiece rs b p) (hs : IsPiece rs b s) (htp : t ∈ p)
    (hts : t ∈ s) : p = s :=
  Span.ext (Int.le_antisymm (hs.start_le_of_mem hp hts htp) (hp.start_le_of_mem hs htp hts))
    (Int.le_antisymm (hs.stop_le_of_mem hp hts htp) (hp.stop_le_of_mem hs htp hts))

/-- Between a piece and a later piece of the same span lies a removed instant: the first piece
ends before the span does, so it ends at one. -/
theorem IsPiece.removed_between (hp : IsPiece rs b p) (hs : IsPiece rs b s)
    (hgap : p.stop < s.start) : ∃ t, p.stop ≤ t ∧ t < s.start ∧ Covers rs t := by
  rcases hp.right with h | h
  · have := hs.inside.2
    have := hs.nonempty
    omega
  · exact ⟨p.stop, Int.le_refl _, hgap, h⟩

end Pieces

/-! ### Cutting one span -/

section Cut

theorem ends_of_mem_cutFrom {cur stop : Int} {rs : List Span} {s : Span}
    (hs : s ∈ cutFrom cur stop rs) :
    (s.start = cur ∨ ∃ r ∈ rs, r.stop = s.start) ∧
      (s.stop = stop ∨ ∃ r ∈ rs, r.start = s.stop) ∧ s.stop ≤ stop := by
  induction rs generalizing cur with
  | nil =>
    unfold cutFrom at hs
    split at hs
    · rw [List.mem_singleton] at hs
      subst hs
      exact ⟨.inl rfl, .inl rfl, Int.le_refl _⟩
    · simp at hs
  | cons r rs ih =>
    unfold cutFrom at hs
    split at hs
    · rename_i hstart
      rcases List.mem_append.1 hs with hs | hs
      · split at hs
        · rw [List.mem_singleton] at hs
          subst hs
          exact ⟨.inl rfl, .inr ⟨r, List.mem_cons_self, rfl⟩, Int.le_of_lt hstart⟩
        · simp at hs
      · obtain ⟨hleft, hright, hle⟩ := ih hs
        refine ⟨?_, ?_, hle⟩
        · rcases hleft with h | ⟨r', hr', h⟩
          · rcases Int.le_total cur r.stop with hc | hc
            · exact .inr ⟨r, List.mem_cons_self, by rw [h]; omega⟩
            · exact .inl (by rw [h]; omega)
          · exact .inr ⟨r', List.mem_cons_of_mem _ hr', h⟩
        · rcases hright with h | ⟨r', hr', h⟩
          · exact .inl h
          · exact .inr ⟨r', List.mem_cons_of_mem _ hr', h⟩
    · split at hs
      · rw [List.mem_singleton] at hs
        subst hs
        exact ⟨.inl rfl, .inl rfl, Int.le_refl _⟩
      · simp at hs

variable {b : Span} {rs : List Span}

theorem isPiece_of_mem_cutFrom (hne : ∀ r ∈ rs, r.start < r.stop)
    (hsort : rs.Pairwise fun a b => a.start ≤ b.start) {s : Span}
    (hs : s ∈ cutFrom b.start b.stop rs) : IsPiece rs b s := by
  obtain ⟨hleft, hright, hle⟩ := ends_of_mem_cutFrom hs
  have hbounds := cutFrom_bounds b.start b.stop rs s hs
  refine ⟨hbounds.2, ⟨hbounds.1, hle⟩, fun t ht => ?_, ?_, ?_⟩
  · exact ((covers_cutFrom _ _ hsort t).1 ⟨s, hs, ht⟩).2.2
  · -- a piece that starts at a removal's end follows that removal's last instant
    rcases hleft with h | ⟨r, hr, h⟩
    · exact .inl h
    · exact .inr ⟨r, hr, by rw [mem_def]; have := hne r hr; omega⟩
  · rcases hright with h | ⟨r, hr, h⟩
    · exact .inl h
    · exact .inr ⟨r, hr, by rw [mem_def]; have := hne r hr; omega⟩

/-- The cut of a span against sorted non-empty removals holds exactly its pieces. -/
theorem mem_cutFrom_iff (hne : ∀ r ∈ rs, r.start < r.stop)
    (hsort : rs.Pairwise fun a b => a.start ≤ b.start) (s : Span) :
    s ∈ cutFrom b.start b.stop rs ↔ IsPiece rs b s := by
  refine ⟨isPiece_of_mem_cutFrom hne hsort, fun hs => ?_⟩
  -- the first instant of `s` is free, so some cut piece holds it, and that piece is `s`
  have hfirst : s.start ∈ s := by rw [mem_def]; exact ⟨Int.le_refl _, hs.nonempty⟩
  obtain ⟨p, hp, htp⟩ := (covers_cutFrom b.start b.stop hsort s.start).2
    ⟨hs.inside.1, by have := hs.inside.2; have := hs.nonempty; omega, hs.free _ hfirst⟩
  exact (isPiece_of_mem_cutFrom hne hsort hp).eq_of_mem hs htp hfirst ▸ hp

theorem cutFrom_of_le {cur stop : Int} (h : stop ≤ cur) (rs : List Span) :
    cutFrom cur stop rs = [] := by
  refine List.eq_nil_iff_forall_not_mem.2 fun s hs => ?_
  have := cutFrom_bounds cur stop rs s hs
  have := (ends_of_mem_cutFrom hs).2.2
  omega

theorem cutFrom_cons_of_stop_le {cur stop : Int} {r : Span} (hr : r.start < r.stop)
    (hend : r.stop ≤ cur) (rs : List Span) : cutFrom cur stop (r :: rs) = cutFrom cur stop rs := by
  rw [cutFrom.eq_2]
  split
  · rw [if_neg (by omega), Int.max_eq_left hend, List.nil_append]
  · rw [if_neg (by omega), cutFrom_of_le (by omega)]

theorem cutFrom_skipEnded {c cur stop : Int} (hc : c ≤ cur) {rs : List Span}
    (hne : ∀ r ∈ rs, r.start < r.stop) : cutFrom cur stop (skipEnded c rs) = cutFrom cur stop rs := by
  induction rs with
  | nil => rfl
  | cons r rs ih =>
    unfold skipEnded
    split
    · rename_i hended
      rw [ih fun r' hr' => hne r' (List.mem_cons_of_mem _ hr'),
        cutFrom_cons_of_stop_le (hne r List.mem_cons_self) (by omega)]
    · rfl

end Cut

/-! ### Subtracting from every base span -/

/-- The shared cursor is harmless: subtracting cuts every base span against all removals. -/
theorem subtractIntervals_eq_flatMap {base : List Span}
    (hbase : base.Pairwise fun a b => a.start ≤ b.start) {rs : List Span}
    (hne : ∀ r ∈ rs, r.start < r.stop) :
    subtractIntervals base rs = base.flatMap fun b => cutFrom b.start b.stop rs := by
  induction base generalizing rs with
  | nil => rfl
  | cons b bs ih =>
    obtain ⟨hle, hbs⟩ := List.pairwise_cons.1 hbase
    have hne' : ∀ r ∈ skipEnded b.start rs, r.start < r.stop :=
      fun r hr => hne r ((skipEnded_suffix _ _).subset hr)
    rw [subtractIntervals, ih hbs hne', List.flatMap_cons, cutFrom_skipEnded (Int.le_refl _) hne]
    -- no later base span starts before `b`, so it misses no removal the cursor passed
    congr 1
    exact List.flatMap_congr fun b' hb' => cutFrom_skipEnded (hle b' hb') hne

/-- Subtracting sorted non-empty removals from base spans sorted by start gives, base span by
base span and in order, exactly the pieces of each: non-empty, inside it, each ending before the
next starts with a removed instant between them. The result holds exactly the instants of the
base spans that no removal holds. -/
theorem subtractIntervals_pieces (base removals : List Span)
    (hbase : base.Pairwise fun a b => a.start ≤ b.start)
    (hne : ∀ r ∈ removals, r.start < r.stop)
    (hsort : removals.Pairwise fun a b => a.start ≤ b.start) :
    ∃ pieces : List (List Span), subtractIntervals base removals = pieces.flatten ∧
      List.Forall₂ (fun b ps => Separated ps ∧ (∀ s, s ∈ ps ↔ IsPiece removals b s) ∧
        ps.Pairwise fun p q => ∃ t, p.stop ≤ t ∧ t < q.start ∧ Covers removals t) base pieces ∧
      ∀ t, Covers (subtractIntervals base removals) t ↔ Covers base t ∧ ¬ Covers removals t := by
  have heq := subtractIntervals_eq_flatMap hbase hne
  refine ⟨base.map fun b => cutFrom b.start b.stop removals, by rw [heq, List.flatMap_def], ?_, ?_⟩
  · rw [List.forall₂_map_right_iff]
    refine List.forall₂_same.2 fun b _ => ?_
    have hsep : Separated (cutFrom b.start b.stop removals) :=
      ⟨fun s hs => (cutFrom_bounds _ _ _ s hs).2, cutFrom_gaps _ _ hne⟩
    have hmem := mem_cutFrom_iff (b := b) hne hsort
    refine ⟨hsep, hmem, hsep.gaps.imp_of_mem fun {p q} hp hq hpq => ?_⟩
    exact ((hmem p).1 hp).removed_between ((hmem q).1 hq) hpq
  · intro t
    rw [heq]
    simp only [Covers, List.mem_flatMap]
    constructor
    · rintro ⟨s, ⟨b, hb, hs⟩, hts⟩
      have := (covers_cutFrom _ _ hsort t).1 ⟨s, hs, hts⟩
      exact ⟨⟨b, hb, by rw [mem_def]; exact ⟨this.1, this.2.1⟩⟩, this.2.2⟩
    · rintro ⟨⟨b, hb, htb⟩, hfree⟩
      rw [mem_def] at htb
      obtain ⟨s, hs, hts⟩ := (covers_cutFrom _ _ hsort t).2 ⟨htb.1, htb.2, hfree⟩
      exact ⟨s, ⟨b, hb, hs⟩, hts⟩

/-- A removal touching a base span leaves it whole. -/
example : subtractIntervals [⟨100, 200⟩, ⟨300, 400⟩] [⟨200, 300⟩] = [⟨100, 200⟩, ⟨300, 400⟩] := by
  decide

/-- Nested and overlapping removals, one reaching over two base spans. -/
theorem nested_removals_pieces :
    (([⟨100, 200⟩, ⟨220, 300⟩, ⟨400, 500⟩] : List Span).Pairwise fun a b => a.start ≤ b.start) ∧
    (∀ r ∈ ([⟨120, 180⟩, ⟨130, 140⟩, ⟨150, 240⟩, ⟨450, 460⟩] : List Span), r.start < r.stop) ∧
    (([⟨120, 180⟩, ⟨130, 140⟩, ⟨150, 240⟩, ⟨450, 460⟩] : List Span).Pairwise
      fun a b => a.start ≤ b.start) ∧
    ∃ pieces : List (List Span),
      subtractIntervals [⟨100, 200⟩, ⟨220, 300⟩, ⟨400, 500⟩]
        [⟨120, 180⟩, ⟨130, 140⟩, ⟨150, 240⟩, ⟨450, 460⟩] = pieces.flatten ∧
      List.Forall₂ (fun b ps => Separated ps ∧
        (∀ s, s ∈ ps ↔ IsPiece [⟨120, 180⟩, ⟨130, 140⟩, ⟨150, 240⟩, ⟨450, 460⟩] b s) ∧
        ps.Pairwise fun p q => ∃ t, p.stop ≤ t ∧ t < q.start ∧
          Covers [⟨120, 180⟩, ⟨130, 140⟩, ⟨150, 240⟩, ⟨450, 460⟩] t)
        [⟨100, 200⟩, ⟨220, 300⟩, ⟨400, 500⟩] pieces ∧
      ∀ t, Covers (subtractIntervals [⟨100, 200⟩, ⟨220, 300⟩, ⟨400, 500⟩]
          [⟨120, 180⟩, ⟨130, 140⟩, ⟨150, 240⟩, ⟨450, 460⟩]) t ↔
        Covers [⟨100, 200⟩, ⟨220, 300⟩, ⟨400, 500⟩] t ∧
          ¬ Covers [⟨120, 180⟩, ⟨130, 140⟩, ⟨150, 240⟩, ⟨450, 460⟩] t :=
  ⟨by decide, by decide, by decide,
    subtractIntervals_pieces _ _ (by decide) (by decide) (by decide)⟩

end Span

end StudioRental
