/-!
A permuted congruential generator of 64-bit numbers with 128 bits of state. A 32-bit number is half
of a 64-bit one; the other half is kept for the next 32-bit number and is not seen by the draws of
64 bits.
-/
namespace Lindenmayer

/-- A generator: its state and increment, both below `2 ^ 128`, and the half that is kept. -/
structure Generator where
  state : Nat
  increment : Nat
  kept : Option Nat
deriving DecidableEq, Repr, Inhabited

namespace Generator

/-- The size of the state. -/
def modulus : Nat := Nat.pow 2 128

/-- The factor of a step. -/
def multiplier : Nat := 0x2360ed051fc65da44385df649fccf645

/-- The state after one step. -/
def stepped (state increment : Nat) : Nat := (state * multiplier + increment) % modulus

/-- A 64-bit number rotated to the right. -/
def rotateRight (n count : Nat) : Nat :=
  n / Nat.pow 2 count + n % Nat.pow 2 count * Nat.pow 2 (64 - count)

/-- The number that a state gives: the halves of the state put together, rotated by its first six
    bits. -/
def output (state : Nat) : Nat :=
  rotateRight ((state / Nat.pow 2 64) ^^^ (state % Nat.pow 2 64)) (state / Nat.pow 2 122)

/-- The generator with a stream and a first state. -/
def start (stream state : Nat) : Generator :=
  let increment := (2 * stream + 1) % modulus
  { state := stepped ((stepped 0 increment + state) % modulus) increment, increment, kept := none }

/-- The next 64-bit number. -/
def next64 (g : Generator) : Nat × Generator :=
  let state := stepped g.state g.increment
  (output state, { g with state })

/-- The next 32-bit number: the kept half if there is one. -/
def next32 (g : Generator) : Nat × Generator :=
  match g.kept with
  | some half => (half, { g with kept := none })
  | none =>
    let (n, g) := g.next64
    (n % 0x100000000, { g with kept := some (n / 0x100000000) })

/-- The next number below `2 ^ 53`. -/
def next53 (g : Generator) : Nat × Generator :=
  let (n, g) := g.next64
  (n / 0x800, g)

/-- The next number below `count`, each as likely: a draw is scaled and, if it falls into the
    remainder that would favour some numbers, made again. So many draws are made at most; one of 32
    bits is made again with a chance of `count / 2 ^ 32` at most. -/
def below (count : Nat) : (draws : Nat) → Generator → Nat × Generator
  | 0, g => (0, g)
  | draws + 1, g =>
    let (n, g) := g.next32
    let scaled := n * count
    if scaled % 0x100000000 < 0x100000000 % count then below count draws g
    else (scaled / 0x100000000, g)

end Generator

end Lindenmayer
