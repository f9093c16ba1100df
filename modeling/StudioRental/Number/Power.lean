/-!
Powers of numbers, as the core library computes them.

Naturals and integers are raised to natural powers by the core instance, `Nat.pow` and
`Int.pow`. A library that makes them monoids brings a second instance for `^`, which unfolds to
the same function but is another term. The modules that compute with powers open these scoped
instances, so their powers are the core ones whatever else is in scope.
-/

namespace StudioRental.CorePow

/-- Naturals to natural powers, by `Nat.pow`. -/
scoped instance (priority := 1100) natPow : Pow Nat Nat := instPowNat

/-- Integers to natural powers, by `Int.pow`. -/
scoped instance (priority := 1100) intPow : Pow Int Nat := instPowNat

end StudioRental.CorePow
