import Greenlight.Text.Feed
import Greenlight.Yaml.Error

/-! # The characters of a YAML file

A file is read block by block, and every block is checked as a whole. A defect takes its block, and all
that follows, out of reach, but shows only when a character there is asked for; a file that is well formed
in front of it may turn out to be wrong for another reason first. -/

namespace Greenlight.Yaml

/-- A text as far as it can be read. -/
structure Source where
  chars : List Char
  /-- Why the text cannot be read to its end. -/
  defect : Option ReadError

/-- Characters that a text may hold. -/
def isAllowed (c : Char) : Bool :=
  let n := c.toNat
  n == 9 || n == 10 || n == 13 || (32 ≤ n && n ≤ 126) || n == 0x85 || (0xA0 ≤ n && n ≤ 0xFFFD) ||
    0x10000 ≤ n

namespace Source

/-- A text of which nothing can be read. -/
def unreadable (e : ReadError) : Source := ⟨[], some e⟩

/-- The number of characters of a block. -/
def blockSize : Nat := 4096

/-- A block, in front of what follows it. -/
def checked (block : List Char) (rest : Unit → Source) : Source :=
  if block.all isAllowed then
    let rest := rest ()
    ⟨block ++ rest.chars, rest.defect⟩
  else unreadable (.form .unprintable)

/-- At most `count` blocks of a file. -/
def ofBlocks : Nat → Text.Feed → Source
  | 0, _ => ⟨[], none⟩
  | count + 1, feed =>
    match feed.take blockSize with
    | .error e => unreadable (.encoding e)
    | .ok (block, feed) =>
      if block.isEmpty then ⟨[], none⟩ else checked block fun _ => ofBlocks count feed

/-- The text of a file. The first two blocks are decoded before they are checked. -/
def ofBytes (bytes : List UInt8) : Source :=
  let firstBlocks := do
    let (first, feed) ← (Text.Feed.ofBytes bytes).take blockSize
    let (second, feed) ← feed.take blockSize
    return (first ++ second, feed)
  match firstBlocks with
  | .error e => unreadable (.encoding e)
  | .ok (block, feed) => checked block fun _ => ofBlocks (bytes.length + 1) feed

end Source

end Greenlight.Yaml
