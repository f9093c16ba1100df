import StudioRental.Payment.Intent

/-!
Invoice numbers handed out by calls running side by side.

The generator keeps the last number it handed out in one atomic signed 64-bit cell, which starts
at zero; one more than the largest invoice number wraps to the smallest (`InvoiceIds.succ`). A
call of `next` reads the clock in microseconds and then updates the cell with `fetch_update`:
it loads the cell and, from the value it has seen, asks the closure `bump` for the value to
store, then tries a weak compare-and-swap. The swap stores that value only when the cell still
holds the value seen, and it may fail even then; on a failure the call takes the value the cell
holds and tries again. `fetch_update` returns the value the swap replaced, or the value last seen
when the closure declines (`bump` never does). The call returns the larger of its clock reading
and one more than that value, computing it again from the returned value rather than reading
what the swap stored.

Clock readings come from outside and may stall or go back. A configuration
(`InvoiceIds.Config`) is the cell with the calls in flight and the calls returned so far, in the
order they returned. Each call carries
the numbers returned before it was made: a record kept beside the cell, which nothing the calls
do reads. An interleaving step makes a call, or moves one call in flight on by one of its steps
(`InvoiceIds.Interleaves`).
-/

namespace StudioRental

namespace InvoiceIds

/-- One more than a value of the cell, as the signed 64-bit cell adds: past the largest invoice
number it wraps to the smallest. -/
def succ (last : Int) : Int := if last = invoiceMax then invoiceMin else last + 1

/-- The closure `next` gives `fetch_update`: the larger of the clock reading and one more than
the value seen. -/
def bump (now last : Int) : Option Int := some (max now (succ last))

/-- Where one try of `fetch_update`'s loop leaves it: returned, with the value the swap replaced
(`ok`) or the value seen when the closure declined (`error`), or still looping with the value
the cell holds. -/
inductive Attempt where
  | done (r : Except Int Int)
  | retry (seen : Int)

/-- One try of `fetch_update`'s loop with closure `f`, having seen `seen`, on the cell holding
`cell`: the cell after it, and where the loop is. The swap may fail spuriously. -/
def attempt (f : Int → Option Int) (cell seen : Int) (spurious : Bool) : Int × Attempt :=
  match f seen with
  | none => (cell, .done (.error seen))
  | some next =>
    if cell = seen ∧ spurious = false then (next, .done (.ok seen)) else (cell, .retry cell)

/-- What `next` returns once `fetch_update` has returned: the larger of the clock reading and
one more than the value returned, whether it came back as `ok` or as `error`. -/
def result (now : Int) (r : Except Int Int) : Int :=
  let prev := match r with
    | .ok p => p
    | .error p => p
  max now (succ prev)

/-- Where a call of `next` is. -/
inductive Phase where
  /-- Made, about to read the clock. -/
  | start
  /-- The clock read `now`; about to load the cell. -/
  | clocked (now : Int)
  /-- In `fetch_update`'s loop, having last seen `seen` in the cell. -/
  | updating (now seen : Int)

/-- A call in flight, with the numbers returned before it was made. -/
structure Flight where
  phase : Phase
  earlier : List Int

/-- A returned call: its clock reading, the number it returned, and the numbers returned before
it was made. -/
structure Issue where
  now : Int
  id : Int
  earlier : List Int

/-- The configuration of the generator: its cell, the calls in flight, and the calls returned, in
the order they returned. -/
structure Config where
  cell : Int
  flights : List Flight
  issued : List Issue

/-- A try of the swap by a call in its loop: the cell after it, the call if it goes on looping,
and the call returned if it does not. -/
def tryUpdate (cell now seen : Int) (earlier : List Int) (spurious : Bool) :
    Int × List Flight × List Issue :=
  match attempt (bump now) cell seen spurious with
  | (cell', .retry s) => (cell', [⟨.updating now s, earlier⟩], [])
  | (cell', .done r) => (cell', [], [⟨now, result now r, earlier⟩])

/-- One step of calls of `next` running side by side: a call is made, or a call in flight reads
the clock (any reading), loads the cell, or tries the swap. -/
inductive Interleaves : Config → Config → Prop
  | begin (cell : Int) (fs : List Flight) (is : List Issue) :
      Interleaves ⟨cell, fs, is⟩ ⟨cell, fs ++ [⟨.start, is.map (·.id)⟩], is⟩
  | clock (cell : Int) (l₁ l₂ : List Flight) (is : List Issue) (earlier : List Int)
      (now : Int) :
      Interleaves ⟨cell, l₁ ++ ⟨.start, earlier⟩ :: l₂, is⟩
        ⟨cell, l₁ ++ ⟨.clocked now, earlier⟩ :: l₂, is⟩
  | load (cell : Int) (l₁ l₂ : List Flight) (is : List Issue) (earlier : List Int) (now : Int) :
      Interleaves ⟨cell, l₁ ++ ⟨.clocked now, earlier⟩ :: l₂, is⟩
        ⟨cell, l₁ ++ ⟨.updating now cell, earlier⟩ :: l₂, is⟩
  | update (cell : Int) (l₁ l₂ : List Flight) (is : List Issue) (earlier : List Int)
      (now seen : Int) (spurious : Bool) :
      Interleaves ⟨cell, l₁ ++ ⟨.updating now seen, earlier⟩ :: l₂, is⟩
        ⟨(tryUpdate cell now seen earlier spurious).1,
          l₁ ++ (tryUpdate cell now seen earlier spurious).2.1 ++ l₂,
          is ++ (tryUpdate cell now seen earlier spurious).2.2⟩

end InvoiceIds

end StudioRental
