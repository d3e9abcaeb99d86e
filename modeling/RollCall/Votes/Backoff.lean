/-!
# Delays between attempts

How long to wait before an attempt is repeated, in milliseconds. No delay is longer than
`Backoff.longest`, and the delays of an exponential policy are counted in 64 bits.
-/
namespace RollCall

/-- A policy for the delay after the attempt `0`, `1`, … has failed. -/
inductive Backoff
  | fixed (delay : Nat)
  | linear (base step : Nat)
  /-- The delay doubles with every attempt up to a limit. -/
  | exponential (base limit : Nat)
  | immediate
deriving DecidableEq

namespace Backoff

/-- One second more for every attempt. -/
def standard : Backoff := linear 1000 1000

/-- The longest delay that can be kept: `2^64` seconds but for less than a millisecond. -/
def longest : Nat := 0x10000000000000000 * 1000 - 1

/-- Attempts are counted up to `2^32 - 1` by a linear policy. -/
def attemptLimit : Nat := 0xFFFFFFFF

/-- The power of two that multiplies the base after an attempt, kept below `2^64`. Attempts are
counted modulo `2^32`. -/
def factor (attempt : Nat) : Nat :=
  let exponent := attempt % 0x100000000
  if exponent < 64 then 1 <<< exponent else 0xFFFFFFFFFFFFFFFF

/-- The delay after an attempt, if it is found at all. A sum that is too long breaks the program
off; a product that does not fit its 64 bits does so where arithmetic is `checked`, and is cut to
them elsewhere. The base is cut to 64 bits in any case. -/
def delay? (checked : Bool) (attempt : Nat) : Backoff → Option Nat
  | fixed d => some d
  | linear base step =>
    let sum := base + min longest (step * min attempt attemptLimit)
    if sum ≤ longest then some sum else none
  | exponential base limit =>
    let product := base % 0x10000000000000000 * factor attempt
    if product < 0x10000000000000000 then some (min limit product)
    else if checked then none else some (min limit (product % 0x10000000000000000))
  | immediate => some 0

/-- The delay where arithmetic is not checked. The longest one stands for a sum that is too long. -/
def delay (attempt : Nat) (policy : Backoff) : Nat :=
  (policy.delay? false attempt).getD longest

end Backoff
end RollCall
