/-!
# Counters that start over

Sequence numbers run through `0, 1, …, last` and start over.
-/

namespace ScadaBridge

/-- A counter from zero up to `last`. -/
structure Counter (last : Nat) where
  /-- The number that is given out next. -/
  value : Fin (last + 1)
deriving DecidableEq, Repr

namespace Counter

variable {last : Nat}

/-- The counter that gives out `n` next, modulo its size. -/
def ofNat (last n : Nat) : Counter last := ⟨⟨n % (last + 1), Nat.mod_lt _ last.succ_pos⟩⟩

/-- A counter that starts with zero. -/
def zero : Counter last := ofNat last 0

/-- The counter after `n` numbers were given out. -/
def advance (c : Counter last) (n : Nat) : Counter last := ofNat last (c.value.val + n)

/-- The next number, and the counter after it. -/
def next (c : Counter last) : Nat × Counter last := (c.value.val, c.advance 1)

theorem advance_advance (c : Counter last) (m n : Nat) :
    (c.advance m).advance n = c.advance (m + n) := by
  simp only [advance, ofNat, Nat.mod_add_mod, Nat.add_assoc]

end Counter

end ScadaBridge
