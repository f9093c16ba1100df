import StudioRental.Engine.Room
import Mathlib.Data.List.TakeWhile

/-!
The bookings of a room kept in order of their start.

The positions the engine finds by binary search are exact on an ordered list: when the
predicate holds of a prefix of the list and of nothing after it, `partitionPoint` is the length
of that prefix (`partitionPoint_append`). The search is followed by its own recursion: the window
`[base, base + size]` always holds the end of the prefix, and `base` is either the start or a
place where the predicate holds.

On a list ordered by start, entering a booking places it after every booking that starts no
later than it and before the rest, which keeps the list ordered; a booking that starts no
earlier than all of them goes at the end. The overlap search of a list whose spans are ordered
by their first millisecond finds exactly the bookings whose span overlaps the window. Spans are
ordered by millisecond whenever the instants are ordered and no start lies in a leap second: a
leap second is written with the nanoseconds running past `10^9`, so its milliseconds are those
of the following second.
-/

namespace StudioRental

namespace Instant

theorem le_def {a b : Instant} :
    a ≤ b ↔ a.seconds < b.seconds ∨ (a.seconds = b.seconds ∧ a.frac ≤ b.frac) := Iff.rfl

theorem le_refl (a : Instant) : a ≤ a := .inr ⟨rfl, Nat.le_refl _⟩

theorem le_trans {a b c : Instant} (hab : a ≤ b) (hbc : b ≤ c) : a ≤ c := by
  rw [le_def] at *
  omega

theorem le_of_not_le {a b : Instant} (h : ¬ a ≤ b) : b ≤ a := by
  rw [le_def] at *
  omega

theorem millis_le_millis {a b : Instant} (hab : a ≤ b) (ha : a.frac < nanosPerSecond) :
    a.millis ≤ b.millis := by
  simp only [millis, nanosPerMilli]
  unfold nanosPerSecond at ha
  rcases hab with hs | ⟨hs, hfr⟩
  · omega
  · have : a.frac / 1000000 ≤ b.frac / 1000000 := Nat.div_le_div_right hfr
    omega

end Instant

/-! ### Binary search -/

section Search

variable {α : Type} {p : α → Bool} {xs : List α}

theorem searchBase_spec {k : Nat} (hk : ∀ i, (xs[i]?.map p).getD false = true ↔ i < k)
    (base size : Nat) (hbase : base < k ∨ base = 0) (hsize : k ≤ base + size) :
    (searchBase p xs base size < k ∨ searchBase p xs base size = 0) ∧
      k ≤ searchBase p xs base size + 1 := by
  fun_induction searchBase p xs base size with
  | case1 base size hle => exact ⟨hbase, by omega⟩
  | case2 base size hle half base' ih =>
      apply ih
      · -- the window moves up only to a place where `p` holds
        simp only [base']
        split
        · rename_i hp
          exact .inl ((hk _).1 hp)
        · exact hbase
      · simp only [base']
        split
        · omega
        · rename_i hp
          have : ¬ base + half < k := fun h => hp ((hk _).2 h)
          omega

theorem partitionPoint_eq {k : Nat} (hk : ∀ i, (xs[i]?.map p).getD false = true ↔ i < k) :
    partitionPoint p xs = k := by
  have hlen : k ≤ xs.length := by
    by_contra h
    have := (hk xs.length).2 (by omega)
    simp at this
  unfold partitionPoint
  split
  · rename_i he
    have : xs.length = 0 := by simpa using he
    omega
  · obtain ⟨hb, hk'⟩ := searchBase_spec hk 0 xs.length (.inr rfl) (by omega)
    dsimp only
    split
    · rename_i hp
      have := (hk _).1 hp
      omega
    · rename_i hp
      have : ¬ searchBase p xs 0 xs.length < k := fun h => hp ((hk _).2 h)
      omega

/-- On a list where `p` holds of a prefix and of nothing after it, binary search finds the end
of the prefix. -/
theorem partitionPoint_append {ys zs : List α} (hy : ∀ y ∈ ys, p y = true)
    (hz : ∀ z ∈ zs, p z = false) : partitionPoint p (ys ++ zs) = ys.length := by
  apply partitionPoint_eq
  intro i
  by_cases hi : i < ys.length
  · simp [List.getElem?_append_left hi, hy _ (List.getElem_mem hi), hi]
  · rw [List.getElem?_append_right (by omega)]
    cases hget : zs[i - ys.length]? with
    | none => simp [hi]
    | some z => simp [hz z (List.mem_of_getElem? hget), hi]

theorem dropWhile_false (h : xs.Pairwise fun a b => p b → p a) :
    ∀ z ∈ xs.dropWhile p, p z = false := by
  induction xs with
  | nil => simp
  | cons x xs ih =>
      rw [List.pairwise_cons] at h
      by_cases hx : p x
      · simpa [List.dropWhile_cons, hx] using ih h.2
      · intro z hz
        simp only [List.dropWhile_cons, hx, Bool.false_eq_true, if_false, List.mem_cons] at hz
        rcases hz with rfl | hz
        · simpa using hx
        · by_contra hpz
          exact hx (h.1 z hz (by simpa using hpz))

theorem take_length_takeWhile (xs : List α) (p : α → Bool) :
    xs.take (xs.takeWhile p).length = xs.takeWhile p :=
  (List.prefix_iff_eq_take.1 (List.takeWhile_prefix p)).symm

theorem drop_length_takeWhile (xs : List α) (p : α → Bool) :
    xs.drop (xs.takeWhile p).length = xs.dropWhile p := by
  have h := @List.drop_left _ (xs.takeWhile p) (xs.dropWhile p)
  rwa [List.takeWhile_append_dropWhile] at h

/-- Binary search on such a list finds the length of the prefix where `p` holds. -/
theorem partitionPoint_eq_takeWhile (h : xs.Pairwise fun a b => p b → p a) :
    partitionPoint p xs = (xs.takeWhile p).length := by
  have h' : partitionPoint p (xs.takeWhile p ++ xs.dropWhile p) = (xs.takeWhile p).length :=
    partitionPoint_append (fun y hy => List.mem_takeWhile_imp hy) (dropWhile_false h)
  rwa [List.takeWhile_append_dropWhile] at h'

end Search

/-! ### The bookings of a room -/

namespace RoomBookings

/-- The bookings are in order of their start. -/
def Sorted (l : List Booking) : Prop := l.Pairwise fun a b => a.start ≤ b.start

/-- The spans of the bookings are in order of their first millisecond. -/
def SpanSorted (l : List Booking) : Prop := l.Pairwise fun a b => a.span.start ≤ b.span.start

theorem Sorted.spanSorted {l : List Booking} (h : Sorted l)
    (hleap : ∀ b ∈ l, b.start.frac < Instant.nanosPerSecond) : SpanSorted l := by
  unfold SpanSorted Booking.span
  exact h.imp_of_mem fun ha _ hab => Instant.millis_le_millis hab (hleap _ ha)

theorem Sorted.startsBy {l : List Booking} (h : Sorted l) (t : Instant) :
    l.Pairwise fun x y => decide (y.start ≤ t) = true → decide (x.start ≤ t) = true :=
  h.imp fun hxy hy => by simpa using Instant.le_trans hxy (by simpa using hy)

variable (r : RoomBookings) (b : Booking)

/-- Where a new booking goes on an ordered list: after the bookings that start no later than
it. -/
theorem insert_bookings (h : Sorted r.bookings) :
    (r.insert b).bookings =
      r.bookings.takeWhile (fun x => decide (x.start ≤ b.start)) ++
        b :: r.bookings.dropWhile (fun x => decide (x.start ≤ b.start)) := by
  simp only [insert, partitionPoint_eq_takeWhile (h.startsBy b.start), take_length_takeWhile,
    drop_length_takeWhile]

theorem insert_perm : (r.insert b).bookings.Perm (b :: r.bookings) := by
  simp only [insert]
  exact List.perm_middle.trans (by rw [List.take_append_drop])

@[simp] theorem mem_insert {x : Booking} : x ∈ (r.insert b).bookings ↔ x = b ∨ x ∈ r.bookings := by
  rw [(insert_perm r b).mem_iff, List.mem_cons]

@[simp] theorem room_insert : (r.insert b).room = r.room := rfl

theorem ext {r r' : RoomBookings} (hroom : r.room = r'.room) (hb : r.bookings = r'.bookings) :
    r = r' := by
  cases r; cases r'; simp_all

theorem upsert_nil (room : Ulid) (b : Booking) : ({ room } : RoomBookings).upsert b = ⟨room, [b]⟩ :=
  rfl

/-- Entering a booking keeps an ordered list ordered. -/
theorem Sorted.insert {r : RoomBookings} (h : Sorted r.bookings) (b : Booking) :
    Sorted (r.insert b).bookings := by
  rw [insert_bookings r b h]
  have hsplit : r.bookings.takeWhile (fun x => decide (x.start ≤ b.start)) ++
      r.bookings.dropWhile (fun x => decide (x.start ≤ b.start)) = r.bookings :=
    List.takeWhile_append_dropWhile
  have h' : Sorted (r.bookings.takeWhile (fun x => decide (x.start ≤ b.start)) ++
      r.bookings.dropWhile (fun x => decide (x.start ≤ b.start))) := by rwa [hsplit]
  unfold Sorted at h' ⊢
  rw [List.pairwise_append] at h' ⊢
  refine ⟨h'.1, List.pairwise_cons.2 ⟨fun y hy => ?_, h'.2.1⟩, fun x hx y hy => ?_⟩
  · -- the bookings after the new one start later than it
    have := dropWhile_false (h.startsBy b.start) y hy
    exact Instant.le_of_not_le (by simpa using this)
  · have hxb : x.start ≤ b.start := by simpa using List.mem_takeWhile_imp hx
    rcases List.mem_cons.1 hy with rfl | hy
    · exact hxb
    · exact h'.2.2 x hx y hy

theorem insert_of_le (h : ∀ x ∈ r.bookings, x.start ≤ b.start) :
    (r.insert b).bookings = r.bookings ++ [b] := by
  have hpp : partitionPoint (fun x => decide (x.start ≤ b.start)) (r.bookings ++ []) =
      r.bookings.length :=
    partitionPoint_append (fun y hy => by simpa using h y hy) (by simp)
  simp only [List.append_nil] at hpp
  simp [insert, hpp]

@[simp] theorem room_replace : (r.replace b).room = r.room := rfl

theorem replace_go_append {l₁ l₂ : List Booking} {x : Booking} (h₁ : ∀ y ∈ l₁, y.id ≠ b.id)
    (hx : x.id = b.id) : replace.go b (l₁ ++ x :: l₂) = l₁ ++ b :: l₂ := by
  induction l₁ with
  | nil => simp [replace.go, hx]
  | cons y l₁ ih =>
      have hy : y.id ≠ b.id := h₁ y (by simp)
      simp [replace.go, hy, ih (fun z hz => h₁ z (by simp [hz]))]

theorem find?_eq_some {id : Ulid} {x : Booking} (h : r.find? id = some x) :
    x.id = id ∧ ∃ l₁ l₂, r.bookings = l₁ ++ x :: l₂ ∧ ∀ y ∈ l₁, y.id ≠ id := by
  obtain ⟨hx, l₁, l₂, hl, h₁⟩ := List.find?_eq_some_iff_append.1 h
  exact ⟨by simpa using hx, l₁, l₂, hl, fun y hy => by simpa using h₁ y hy⟩

theorem replace_of_find? {x : Booking} (h : r.find? b.id = some x) :
    ∃ l₁ l₂, r.bookings = l₁ ++ x :: l₂ ∧ (r.replace b).bookings = l₁ ++ b :: l₂ := by
  obtain ⟨hx, l₁, l₂, hl, h₁⟩ := find?_eq_some r h
  exact ⟨l₁, l₂, hl, by simp only [replace, hl, replace_go_append b h₁ hx]⟩

theorem Sorted.replace {r : RoomBookings} (h : Sorted r.bookings) {b x : Booking}
    (hx : r.find? b.id = some x) (hs : b.start = x.start) : Sorted (r.replace b).bookings := by
  obtain ⟨l₁, l₂, hl, hr⟩ := replace_of_find? r b hx
  have hmap : (r.replace b).bookings.map (·.start) = r.bookings.map (·.start) := by
    simp [hl, hr, hs]
  have h' : (r.bookings.map (·.start)).Pairwise (· ≤ ·) := List.pairwise_map.2 h
  rw [← hmap] at h'
  exact List.pairwise_map.1 h'

theorem find?_eq_none {id : Ulid} : r.find? id = none ↔ ∀ x ∈ r.bookings, x.id ≠ id := by
  simp [find?]

theorem upsert_of_find?_none (h : r.find? b.id = none) : r.upsert b = r.insert b := by
  simp [upsert, h]

theorem upsert_of_find?_some {x : Booking} (h : r.find? b.id = some x) : r.upsert b = r.replace b := by
  simp [upsert, h]

@[simp] theorem room_upsert : (r.upsert b).room = r.room := by
  unfold upsert; split <;> rfl

/-- The overlap search on a list ordered by span finds exactly the bookings whose span overlaps
the window. -/
theorem overlapping_eq (w : Span) (h : SpanSorted r.bookings) :
    r.overlapping w = r.bookings.filter fun x => x.span.overlaps w := by
  have hmono : r.bookings.Pairwise fun x y =>
      decide (y.span.start < w.stop) = true → decide (x.span.start < w.stop) = true :=
    h.imp fun hxy hy => by simp at hy ⊢; omega
  simp only [overlapping, partitionPoint_eq_takeWhile hmono, take_length_takeWhile]
  have hsplit : r.bookings.takeWhile (fun x => decide (x.span.start < w.stop)) ++
      r.bookings.dropWhile (fun x => decide (x.span.start < w.stop)) = r.bookings :=
    List.takeWhile_append_dropWhile
  have hdrop : (r.bookings.dropWhile fun x => decide (x.span.start < w.stop)).filter
      (fun x => x.span.overlaps w) = [] := by
    rw [List.filter_eq_nil_iff]
    intro x hx
    have := dropWhile_false hmono x hx
    simp only [decide_eq_false_iff_not] at this
    simp [Span.overlaps, this]
  -- the bookings past the search bound start after the window ends
  conv => rhs; rw [← hsplit, List.filter_append, hdrop, List.append_nil]
  apply List.filter_congr
  intro x hx
  have := List.mem_takeWhile_imp hx
  simp only [decide_eq_true_eq] at this
  simp [Span.overlaps, this]

end RoomBookings

end StudioRental
