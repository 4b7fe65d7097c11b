import Greenlight.Value.Datum

/-! # The order of a set

The numbers of a set are shown in the order of their slots in a table. The size of the table is a power of
two; the slot that a number asks for comes from its residue, and if that slot is taken it tries others. Sets
with members that are no numbers are shown in the order in which they were written. -/

namespace Greenlight.Datum

/-- The prime that numbers are reduced by. -/
def residuePrime : Nat := (1 <<< 61) - 1

/-- The residue of the absolute value of a number whose denominator is a power of two. Such a power divides
like the one that completes it to the 61st, which leaves one. -/
def residue (q : Rat) : Nat :=
  (q.num.natAbs % residuePrime) <<< ((61 - q.den.log2 % 61) % 61) % residuePrime

/-- A signed residue in 64 bits; minus one is counted as minus two. -/
def signedResidue (negative : Bool) (n : Nat) : Nat :=
  if negative ∧ n ≠ 0 then (1 <<< 64) - (if n = 1 then 2 else n) else n

/-- The number that decides the slot of a datum, if it is a number. -/
def slotSeed? (d : Datum) : Option Nat :=
  match d.number?, d with
  | some q, _ => some (signedResidue (q < 0) (residue q))
  | none, .float x => some (signedResidue (x < 0) 314159)
  | none, _ => none

/-- The number of slots for a set: eight, or the next power of two above twice its size. -/
def slotCount (members : Nat) : Nat := if members ≤ 4 then 8 else 1 <<< ((2 * members).log2 + 1)

/-- The first free slot of those tried: from each place up to nine behind it as well, if the table goes that
far; then the place jumps on. The jumps reach every slot once the seed is used up. -/
def freeSlot (table : Array (Option Datum)) : Nat → Nat → Nat → Nat
  | 0, _, place => place
  | fuel + 1, seed, place =>
    let width := if place + 9 < table.size then 10 else 1
    match (List.range' place width).find? fun slot => (table.getD slot none).isNone with
    | some slot => slot
    | none => freeSlot table fuel (seed >>> 5) ((5 * place + 1 + seed >>> 5) % table.size)

/-- Puts a number into a table. -/
def place (table : Array (Option Datum)) (d : Datum) (seed : Nat) : Array (Option Datum) :=
  table.setIfInBounds (freeSlot table (table.size + 16) seed (seed % table.size)) (some d)

/-- The members of a set in the order in which they are shown. -/
def arranged (members : List Datum) : List Datum :=
  match members.mapM slotSeed? with
  | none => members
  | some seeds =>
    let empty := Array.replicate (slotCount members.length) none
    let table := (members.zip seeds).foldl (fun table (d, seed) => place table d seed) empty
    table.toList.filterMap id

end Greenlight.Datum
