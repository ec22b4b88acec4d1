/-!
# Outages of the plant bus

An outage begins when the bus is lost. When it has lasted for the timeout it expires, once; it ends when
the bus is back. Instants are milliseconds of a clock that is only used here.
-/

namespace ScadaBridge

/-- What is known of the connection to the plant bus. -/
structure Outage where
  /-- The timeout in milliseconds. -/
  timeout : Nat
  /-- When the outage began; none if the bus is there, or the outage expired. -/
  since : Option Nat
  expired : Bool
deriving DecidableEq, Repr

namespace Outage

def none (timeout : Nat) : Outage := ⟨timeout, .none, false⟩

/-- The bus was lost. Losing it again changes nothing. -/
def lost (o : Outage) (instant : Nat) : Outage :=
  if o.since.isNone && !o.expired then { o with since := some instant } else o

/-- The bus is back. Tells whether the outage had expired. -/
def connected (o : Outage) : Outage × Bool := ({ o with since := .none, expired := false }, o.expired)

/-- Checks whether the outage expires, which it does once. -/
def check (o : Outage) (instant : Nat) : Outage × Bool :=
  match o.since with
  | some began =>
    if o.timeout ≤ instant - began then ({ o with since := .none, expired := true }, true)
    else (o, false)
  | .none => (o, false)

end Outage

end ScadaBridge
