/-! # Pieces between separators

Cutting a text at every occurrence of one character and joining pieces again, texts that occur in other
texts, and numbers filled up with zeros. -/

namespace Greenlight.Text

/-- The pieces of a text between the separators; a text without one is a single piece. -/
def piecesChars (sep : Char) : List Char → List (List Char)
  | [] => [[]]
  | c :: rest =>
    if c = sep then [] :: piecesChars sep rest
    else
      match piecesChars sep rest with
      | [] => [[c]]
      | piece :: more => (c :: piece) :: more

/-- The pieces of a text between the separators. -/
def pieces (sep : Char) (s : String) : List String := (piecesChars sep s.toList).map String.ofList

/-- Pieces with a text between each two of them. -/
def joinChars (sep : List Char) : List (List Char) → List Char
  | [] => []
  | [piece] => piece
  | piece :: more => piece ++ sep ++ joinChars sep more

/-- Pieces with a text between each two of them. -/
def join (sep : String) (parts : List String) : String :=
  String.ofList (joinChars sep.toList (parts.map String.toList))

/-- The text before the first separator and the text after it. -/
def cutAtFirst (sep : Char) (cs : List Char) : Option (List Char × List Char) :=
  match cs.dropWhile (· ≠ sep) with
  | [] => none
  | _ :: after => some (cs.takeWhile (· ≠ sep), after)

/-- The text before the last separator and the text after it. -/
def cutAtLast (sep : Char) (cs : List Char) : Option (List Char × List Char) :=
  (cutAtFirst sep cs.reverse).map fun (after, before) => (before.reverse, after.reverse)

/-- One text occurs in another. -/
def occursIn (needle : List Char) : List Char → Bool
  | [] => needle.isEmpty
  | c :: rest => needle.isPrefixOf (c :: rest) || occursIn needle rest

/-- One text occurs in another. -/
def contains (text needle : String) : Bool := occursIn needle.toList text.toList

/-- Order by code point, the shorter of two texts with a common start first. -/
def precedes (a b : String) : Bool := a ≤ b

/-- Texts in ascending order. -/
def sort (texts : List String) : List String := texts.mergeSort precedes

/-- A number in decimal digits, filled up with zeros in front. -/
def paddedNat (width n : Nat) : String :=
  let digits := Nat.repr n
  String.ofList (List.replicate (width - digits.length) '0') ++ digits

/-- A whole number filled up with zeros after its sign. -/
def paddedInt (width : Nat) (n : Int) : String :=
  if n < 0 then "-" ++ paddedNat (width - 1) n.natAbs else paddedNat width n.natAbs

@[simp] theorem paddedInt_natCast (width n : Nat) : paddedInt width n = paddedNat width n :=
  if_neg (Int.not_lt.2 (Int.natCast_nonneg n))

end Greenlight.Text
