import StudioRental.Payment.InvoiceIds
import StudioRental.Server.Basic
import Mathlib.Logic.Relation
import Mathlib.Algebra.Group.Int.Defs

/-!
Invoice numbers are unique and increasing, however the calls interleave.

A try of the swap either leaves the cell as it is and keeps its call looping with the value the
cell holds, or finds the cell still holding the value the call saw; then it stores one more than
that value or the clock reading, whichever is larger, and the call returns exactly that number,
computed again from the value the swap returns (`tryUpdate_cases`). Below the largest invoice
number, one more is one more: the cell only grows, each number returned is what the cell then
holds, and it lies above every number returned before. At the largest number the cell wraps, and
the next call gets a smaller number (`topCell_call_wraps`).

What every reachable configuration keeps is `Config.Sound`: the numbers returned increase in the
order they were returned and lie at or below the cell, each is at least its call's clock
reading and above every number returned before its call was made, and a call in flight knows
only numbers returned. A swap keeps it when the cell is below the largest number, and the cell
stays below the larger of where it started and the highest clock reading by at most the number
of calls returned (`Config.Below`). So every interleaving from an idle generator whose readings
are at most `top` keeps both, as long as fewer calls return than the numbers left above that
(`Config.Sound.reachable`). The server's `nextInvoice` is one call made while no other is in
flight (`nextInvoice_alone`).
-/

namespace StudioRental

namespace InvoiceIds

open Relation

theorem tryUpdate_swap (cell now : Int) (earlier : List Int) :
    tryUpdate cell now cell earlier false =
      (max now (succ cell), [], [⟨now, max now (succ cell), earlier⟩]) := by
  simp [tryUpdate, attempt, bump, result]

theorem tryUpdate_fail {cell seen : Int} (now : Int) (earlier : List Int) (spurious : Bool)
    (h : ¬ (cell = seen ∧ spurious = false)) :
    tryUpdate cell now seen earlier spurious = (cell, [⟨.updating now cell, earlier⟩], []) := by
  simp only [tryUpdate, attempt, bump, if_neg h]

/-- A try of the swap either fails, leaving the cell and looping on with the value it holds, or
finds the cell still holding the value seen, stores the number and returns it. -/
theorem tryUpdate_cases (cell now seen : Int) (earlier : List Int) (spurious : Bool) :
    tryUpdate cell now seen earlier spurious = (cell, [⟨.updating now cell, earlier⟩], []) ∨
      (cell = seen ∧ tryUpdate cell now seen earlier spurious =
        (max now (succ cell), [], [⟨now, max now (succ cell), earlier⟩])) := by
  by_cases h : cell = seen ∧ spurious = false
  · obtain ⟨rfl, rfl⟩ := h
    exact .inr ⟨rfl, tryUpdate_swap cell now earlier⟩
  · exact .inl (tryUpdate_fail now earlier spurious h)

theorem succ_of_lt {x : Int} (h : x < invoiceMax) : succ x = x + 1 := by
  simp [succ, Int.ne_of_lt h]

/-- A step that returns no call keeps the cell and the calls returned; a swap that goes through
stores the new number, below the largest number one more than the cell or the reading. -/
theorem Interleaves.cases {m m' : Config} (hstep : Interleaves m m') :
    (m'.cell = m.cell ∧ m'.issued = m.issued) ∨
    (∃ now earlier, m'.cell = max now (succ m.cell) ∧
      m'.issued = m.issued ++ [⟨now, max now (succ m.cell), earlier⟩]) := by
  cases hstep with
  | begin cell fs is => exact .inl ⟨rfl, rfl⟩
  | clock cell l₁ l₂ is earlier now => exact .inl ⟨rfl, rfl⟩
  | load cell l₁ l₂ is earlier now => exact .inl ⟨rfl, rfl⟩
  | update cell l₁ l₂ is earlier now seen spurious =>
    rcases tryUpdate_cases cell now seen earlier spurious with hfail | ⟨rfl, hdone⟩
    · rw [hfail]
      exact .inl ⟨rfl, List.append_nil _⟩
    · rw [hdone]
      exact .inr ⟨now, earlier, rfl, rfl⟩

/-- What every reachable configuration keeps. -/
structure Config.Sound (m : Config) : Prop where
  /-- The numbers returned increase in the order they were returned. -/
  increasing : (m.issued.map (·.id)).Pairwise (· < ·)
  /-- The cell holds at least every number returned. -/
  le_cell : ∀ i ∈ m.issued, i.id ≤ m.cell
  /-- A number is at least its call's clock reading. -/
  clock_le : ∀ i ∈ m.issued, i.now ≤ i.id
  /-- A number lies above every number returned before its call was made. -/
  above_earlier : ∀ i ∈ m.issued, ∀ a ∈ i.earlier, a < i.id
  /-- A call in flight knows only numbers returned. -/
  known : ∀ f ∈ m.flights, ∀ a ∈ f.earlier, a ∈ m.issued.map (·.id)

namespace Config.Sound

theorem idle (cell : Int) : Config.Sound ⟨cell, [], []⟩ :=
  ⟨List.Pairwise.nil, by simp, by simp, by simp, by simp⟩

theorem begin {cell : Int} {fs : List Flight} {is : List Issue}
    (h : Config.Sound ⟨cell, fs, is⟩) :
    Config.Sound ⟨cell, fs ++ [⟨.start, is.map (·.id)⟩], is⟩ := by
  refine ⟨h.increasing, h.le_cell, h.clock_le, h.above_earlier, fun f hf a ha => ?_⟩
  rcases List.mem_append.1 hf with hf | hf
  · exact h.known f hf a ha
  · rw [List.mem_singleton] at hf
    subst hf
    exact ha

theorem moveOn {cell : Int} {l₁ l₂ : List Flight} {is : List Issue} {f g : Flight}
    (h : Config.Sound ⟨cell, l₁ ++ f :: l₂, is⟩) (hg : g.earlier = f.earlier) :
    Config.Sound ⟨cell, l₁ ++ g :: l₂, is⟩ := by
  refine ⟨h.increasing, h.le_cell, h.clock_le, h.above_earlier, fun f' hf' a ha => ?_⟩
  simp only [List.mem_append, List.mem_cons] at hf'
  rcases hf' with hf' | rfl | hf'
  · exact h.known f' (by simp [hf']) a ha
  · exact h.known f (by simp) a (hg ▸ ha)
  · exact h.known f' (by simp [hf']) a ha

theorem finish {cell now : Int} {earlier : List Int} {l₁ l₂ : List Flight} {is : List Issue}
    (h : Config.Sound ⟨cell, l₁ ++ ⟨.updating now cell, earlier⟩ :: l₂, is⟩)
    (htop : cell < invoiceMax) :
    Config.Sound
      ⟨max now (succ cell), l₁ ++ l₂, is ++ [⟨now, max now (succ cell), earlier⟩]⟩ := by
  rw [succ_of_lt htop]
  have hnew : cell < max now (cell + 1) := by omega
  -- the call knew only numbers returned, all at or below the cell
  have hknown : ∀ a ∈ earlier, a ≤ cell := fun a ha => by
    have hmem := h.known ⟨.updating now cell, earlier⟩ (by simp) a ha
    obtain ⟨i, hi, rfl⟩ := List.mem_map.1 hmem
    exact h.le_cell i hi
  refine ⟨?_, ?_, ?_, ?_, fun f hf a ha => ?_⟩
  · rw [List.map_append, List.pairwise_append]
    refine ⟨h.increasing, List.pairwise_singleton _ _, fun a ha b hb => ?_⟩
    obtain ⟨i, hi, rfl⟩ := List.mem_map.1 ha
    rw [List.map_singleton, List.mem_singleton] at hb
    subst hb
    exact Int.lt_of_le_of_lt (h.le_cell i hi) hnew
  -- each of the other facts holds of the numbers returned before, and of the new one
  · refine List.forall_mem_append.2 ⟨fun i hi => ?_, List.forall_mem_singleton.2 (Int.le_refl _)⟩
    exact Int.le_trans (h.le_cell i hi) (Int.le_of_lt hnew)
  · exact List.forall_mem_append.2 ⟨h.clock_le, List.forall_mem_singleton.2 (Int.le_max_left _ _)⟩
  · exact List.forall_mem_append.2 ⟨h.above_earlier,
      List.forall_mem_singleton.2 fun a ha => Int.lt_of_le_of_lt (hknown a ha) hnew⟩
  · -- the calls still in flight were in flight before
    have hf' : f ∈ l₁ ++ ⟨.updating now cell, earlier⟩ :: l₂ := by
      rcases List.mem_append.1 hf with hf | hf
      · exact List.mem_append_left _ hf
      · exact List.mem_append_right _ (List.mem_cons_of_mem _ hf)
    dsimp only
    rw [List.map_append]
    exact List.mem_append_left _ (h.known f hf' a ha)

/-- A step keeps a configuration sound when, if it returns a call, the cell was below the largest
number. -/
theorem interleaves {m m' : Config} (h : m.Sound)
    (htop : m'.issued ≠ m.issued → m.cell < invoiceMax) (hstep : Interleaves m m') :
    m'.Sound := by
  cases hstep with
  | begin cell fs is => exact h.begin
  | clock cell l₁ l₂ is earlier now => exact h.moveOn rfl
  | load cell l₁ l₂ is earlier now => exact h.moveOn rfl
  | update cell l₁ l₂ is earlier now seen spurious =>
    rcases tryUpdate_cases cell now seen earlier spurious with hfail | ⟨rfl, hdone⟩
    · rw [hfail, List.append_assoc, List.singleton_append, List.append_nil]
      exact h.moveOn rfl
    · rw [hdone, List.append_nil]
      exact h.finish (htop (by simp [hdone]))

end Config.Sound

/-- The cell lies above the larger of its first value `c₀` and the highest clock reading `top`
by at most the number of calls returned. -/
def Config.Below (c₀ top : Int) (m : Config) : Prop := m.cell ≤ max c₀ top + m.issued.length

theorem Interleaves.issued_prefix {m m' : Config} (hstep : Interleaves m m') :
    m.issued <+: m'.issued := by
  rcases Interleaves.cases hstep with ⟨-, h⟩ | ⟨now, earlier, -, h⟩
  · exact h ▸ List.prefix_refl _
  · exact h ▸ List.prefix_append _ _

/-- A step whose call, if it returns, read the clock at most at `top`, keeps the cell within its
bound; and a swap it makes found the cell below the largest number when one more call still fits
under it. -/
theorem Config.Below.interleaves {c₀ top : Int} {m m' : Config} (hb : m.Below c₀ top)
    (hstep : Interleaves m m') (hnow : ∀ i ∈ m'.issued, i.now ≤ top)
    (hroom : max c₀ top + m'.issued.length ≤ invoiceMax) :
    m'.Below c₀ top ∧ (m'.issued ≠ m.issued → m.cell < invoiceMax) := by
  unfold Config.Below at hb ⊢
  rcases Interleaves.cases hstep with ⟨hc, hi⟩ | ⟨now, earlier, hc, hi⟩
  · rw [hc, hi]
    exact ⟨hb, fun hne => absurd rfl hne⟩
  · -- the call returned the new number: one more fits under the largest number
    rw [hi, List.length_append, List.length_singleton] at hroom
    have htop : m.cell < invoiceMax := by omega
    have hread : now ≤ top := hnow _ (by rw [hi]; exact List.mem_append_right _ (List.mem_singleton_self _))
    refine ⟨?_, fun _ => htop⟩
    rw [hc, hi, succ_of_lt htop, List.length_append, List.length_singleton]
    omega

/-- Every interleaving from a sound configuration within its bound, whose returned calls read the
clock at most at `top` and leave room under the largest number, stays sound and within it. -/
theorem Config.Sound.reachable {c₀ top : Int} {m m' : Config} (h : m.Sound) (hb : m.Below c₀ top)
    (hrun : ReflTransGen Interleaves m m') :
    (∀ i ∈ m'.issued, i.now ≤ top) → max c₀ top + m'.issued.length ≤ invoiceMax →
      m'.Sound ∧ m'.Below c₀ top := by
  induction hrun with
  | refl => exact fun _ _ => ⟨h, hb⟩
  | tail _ hstep ih =>
    intro hnow hroom
    -- what the last step returned extends what was returned before it
    have hpre := Interleaves.issued_prefix hstep
    obtain ⟨hs, hb'⟩ := ih (fun i hi => hnow i (hpre.subset hi))
      (Int.le_trans (by have := hpre.length_le; omega) hroom)
    obtain ⟨hb'', htop⟩ := hb'.interleaves hstep hnow hroom
    exact ⟨hs.interleaves htop hstep, hb''⟩

/-- However calls of `next` on one generator interleave, and whatever the clock reads, stalling
or going back, as long as the readings stay at most `top` and the calls returned leave room
under the largest number above `top` and the first cell: the numbers returned increase in the
order the calls returned, so no two are equal; each is at least the clock reading its call took;
and a call made after another has returned gets a larger number. -/
theorem interleaved_invoice_ids_increase (cell top : Int) :
    ∀ m, ReflTransGen Interleaves ⟨cell, [], []⟩ m →
      (∀ i ∈ m.issued, i.now ≤ top) → max cell top + m.issued.length ≤ invoiceMax →
      (m.issued.map (·.id)).Pairwise (· < ·) ∧ (m.issued.map (·.id)).Nodup ∧
      (∀ i ∈ m.issued, i.now ≤ i.id) ∧
      ∀ i ∈ m.issued, ∀ a ∈ i.earlier, a < i.id := by
  intro m hrun hnow hroom
  have hb : (⟨cell, [], []⟩ : Config).Below cell top := by
    unfold Config.Below
    simp only [List.length_nil]
    omega
  obtain ⟨hs, -⟩ := (Config.Sound.idle cell).reachable hb hrun hnow hroom
  exact ⟨hs.increasing, hs.increasing.imp Int.ne_of_lt, hs.clock_le, hs.above_earlier⟩

theorem Interleaves.update_eq {cell now seen : Int} {earlier : List Int} {spurious : Bool}
    {cell' : Int} {fs : List Flight} {out : List Issue} (l₁ l₂ : List Flight) (is : List Issue)
    (h : tryUpdate cell now seen earlier spurious = (cell', fs, out)) :
    Interleaves ⟨cell, l₁ ++ ⟨.updating now seen, earlier⟩ :: l₂, is⟩
      ⟨cell', l₁ ++ fs ++ l₂, is ++ out⟩ := by
  have step := Interleaves.update cell l₁ l₂ is earlier now seen spurious
  rw [h] at step
  exact step

/-- A call made while no other is in flight returns the larger of its clock reading and one more
than the cell, and leaves that number in the cell. -/
theorem call_alone (cell now : Int) (is : List Issue) :
    ReflTransGen Interleaves ⟨cell, [], is⟩
      ⟨max now (succ cell), [], is ++ [⟨now, max now (succ cell), is.map (·.id)⟩]⟩ := by
  have h₁ : Interleaves ⟨cell, [], is⟩ ⟨cell, [⟨.start, is.map (·.id)⟩], is⟩ :=
    .begin cell [] is
  have h₂ : Interleaves ⟨cell, [⟨.start, is.map (·.id)⟩], is⟩
      ⟨cell, [⟨.clocked now, is.map (·.id)⟩], is⟩ := .clock cell [] [] is _ now
  have h₃ : Interleaves ⟨cell, [⟨.clocked now, is.map (·.id)⟩], is⟩
      ⟨cell, [⟨.updating now cell, is.map (·.id)⟩], is⟩ := .load cell [] [] is _ now
  have h₄ := Interleaves.update_eq [] [] is (tryUpdate_swap cell now (is.map (·.id)))
  exact .tail (.tail (.tail (.single h₁) h₂) h₃) h₄

/-- The server's `nextInvoice` is a call of `next` made while no other is in flight, its clock
reading the server's clock in microseconds and its cell the last number the server handed out. -/
theorem nextInvoice_alone (s : Server) :
    Server.nextInvoice.run.run s =
      (.ok (max s.clock.micros (succ s.lastInvoice)),
        { s with clock := s.clock.addNanos s.tick,
                 lastInvoice := max s.clock.micros (succ s.lastInvoice) }) ∧
      ReflTransGen Interleaves ⟨s.lastInvoice, [], []⟩
        ⟨max s.clock.micros (succ s.lastInvoice), [],
          [⟨s.clock.micros, max s.clock.micros (succ s.lastInvoice), []⟩]⟩ :=
  ⟨rfl, call_alone s.lastInvoice s.clock.micros []⟩

/-! ### A race with a clock going back -/

/-- One call returns 100 alone; then two calls are made. The second reads the clock at 200 and
swaps first; the first read it at 50, behind the number already returned, and its swap fails
once before it goes through. -/
def clockBackRace : Config :=
  ⟨201, [], [⟨100, 100, []⟩, ⟨200, 200, [100]⟩, ⟨50, 201, [100]⟩]⟩

theorem clockBackRace_reachable : ReflTransGen Interleaves ⟨0, [], []⟩ clockBackRace :=
  (call_alone 0 100 [])
    |>.tail (.begin _ [] _) |>.tail (.begin _ [_] _)
    -- the first call reads the clock at 50, behind the number returned; the second at 200
    |>.tail (.clock _ [] [_] _ _ 50) |>.tail (.clock _ [_] [] _ _ 200)
    |>.tail (.load _ [] [_] _ _ _) |>.tail (.load _ [_] [] _ _ _)
    -- the second swaps first; the first finds 200 in the cell, takes it and tries again
    |>.tail (.update_eq [_] [] _ (tryUpdate_swap 100 200 [100]))
    |>.tail (.update_eq [] [] _ (tryUpdate_fail 50 [100] false (by decide)))
    |>.tail (.update_eq [] [] _ (tryUpdate_swap 200 50 [100]))

/-- In the race, with readings at most 200, the numbers are 100, 200 and 201: increasing,
distinct, each at least its call's clock reading (the call that read 50 gets 201), and above 100,
returned before both later calls were made. -/
theorem clockBackRace_ids_increase :
    ReflTransGen Interleaves ⟨0, [], []⟩ clockBackRace ∧
      (∀ i ∈ clockBackRace.issued, i.now ≤ 200) ∧
      max 0 200 + clockBackRace.issued.length ≤ invoiceMax ∧
      (clockBackRace.issued.map (·.id)).Pairwise (· < ·) ∧
      (clockBackRace.issued.map (·.id)).Nodup ∧
      (∀ i ∈ clockBackRace.issued, i.now ≤ i.id) ∧
      ∀ i ∈ clockBackRace.issued, ∀ a ∈ i.earlier, a < i.id := by
  have hnow : ∀ i ∈ clockBackRace.issued, i.now ≤ 200 := by decide
  have hroom : max 0 200 + clockBackRace.issued.length ≤ invoiceMax := by decide
  exact ⟨clockBackRace_reachable, hnow, hroom,
    interleaved_invoice_ids_increase 0 200 clockBackRace clockBackRace_reachable hnow hroom⟩

/-! ### Past the largest number -/

theorem succ_top : succ invoiceMax = invoiceMin := if_pos rfl

/-- The room the bound asks for is needed. From a cell one below the largest number, two calls
made one after the other with the clock at zero return the largest number and then zero, which
is below the number returned before the second call was made. -/
theorem nearTop_ids_wrap :
    ReflTransGen Interleaves ⟨invoiceMax - 1, [], []⟩
      ⟨0, [], [⟨0, invoiceMax, []⟩, ⟨0, 0, [invoiceMax]⟩]⟩ ∧ (0 : Int) < invoiceMax := by
  have hfirst : max 0 (succ (invoiceMax - 1)) = invoiceMax := by
    rw [succ_of_lt (by decide)]
    decide
  have hsecond : max 0 (succ invoiceMax) = 0 := by
    rw [succ_top]
    decide
  have h₁ := call_alone (invoiceMax - 1) 0 []
  have h₂ := call_alone (max 0 (succ (invoiceMax - 1))) 0
    [⟨0, max 0 (succ (invoiceMax - 1)), []⟩]
  rw [hfirst] at h₁ h₂
  rw [hsecond] at h₂
  exact ⟨h₁.trans h₂, by decide⟩

end InvoiceIds

end StudioRental
