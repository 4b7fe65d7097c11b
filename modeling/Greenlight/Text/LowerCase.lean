import Greenlight.Text.CaseTable

/-! # Lower case

Every character goes to its lower case partner, with two exceptions: the dotted capital I becomes two
characters, and a capital sigma takes its final form at the end of a word. -/

namespace Greenlight.Text

/-- The lower case partner of one character, found in `lowerRuns`. -/
def lowerPartner (c : Char) : Char :=
  let n := c.toNat
  if n < 128 then c.toLower
  else
    match lowerRuns.find? fun r => r.1 ≤ n && n ≤ r.2.1 && (n - r.1) % r.2.2.1 == 0 with
    | some (_, _, _, shift) => Char.ofNat ((n : Int) + shift).toNat
    | none => c

/-- The first character that is not passed over has case. -/
def meetsCased (cs : List Char) : Bool :=
  match cs.dropWhile fun c => inRanges transparentRanges c.toNat with
  | [] => false
  | c :: _ => inRanges casedRanges c.toNat

/-- A sigma ends a word if a letter with case comes before it and none follows. -/
def endsWord (before after : List Char) : Bool := meetsCased before && !meetsCased after

/-- Lower case of one character between the text `before` it, last character first, and `after` it. -/
def lowerBetween (before : List Char) (c : Char) (after : List Char) : List Char :=
  if c = 'Σ' then [if endsWord before after then 'ς' else 'σ']
  else if c = 'İ' then ['i', '̇']
  else [lowerPartner c]

/-- Lower case of a text that stands after `before`, last character first. -/
def lowerAfter (before : List Char) : List Char → List Char
  | [] => []
  | c :: rest => lowerBetween before c rest ++ lowerAfter (c :: before) rest

/-- Lower case of a text. -/
def lowerChars (cs : List Char) : List Char := lowerAfter [] cs

/-- Lower case of a text. -/
def lower (s : String) : String := String.ofList (lowerChars s.toList)

theorem toList_lower (s : String) : (lower s).toList = lowerChars s.toList := by
  simp [lower]

end Greenlight.Text
