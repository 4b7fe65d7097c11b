import Greenlight.Text.Quoted

/-! # UTF-8 with defects

Reading bytes as characters, either strictly, with the place and the cause of the first defect, or
leniently, with one replacement character for each defect. A defect is the longest start of a
character that its next byte does not continue. -/

namespace Greenlight.Text

/-- Why bytes are no character. -/
inductive Utf8Defect where
  | startByte
  | continuation
  | truncated
deriving DecidableEq, Repr

/-- The cause in words. -/
def Utf8Defect.message : Utf8Defect → String
  | .startByte => "invalid start byte"
  | .continuation => "invalid continuation byte"
  | .truncated => "unexpected end of data"

/-- The first bytes of a text: a character, or a defect, with the number of bytes after the first. -/
inductive Utf8Piece where
  | char (c : Char) (more : Nat)
  | defect (cause : Utf8Defect) (more : Nat)

/-- The number of bytes after the first. -/
def Utf8Piece.more : Utf8Piece → Nat
  | .char _ more => more
  | .defect _ more => more

/-- A byte that can stand second or later. -/
def isTail (b : UInt8) : Bool := 0x80 ≤ b && b < 0xC0

/-- A byte that can stand second after `first`: no overlong form, no surrogate, nothing above the
last code point. -/
def isSecond (first second : UInt8) : Bool :=
  isTail second &&
    (if first == 0xE0 then 0xA0 ≤ second
     else if first == 0xED then second < 0xA0
     else if first == 0xF0 then 0x90 ≤ second
     else if first == 0xF4 then second < 0x90
     else true)

/-- The character of payload bits given in groups of six after the first group. -/
def charOfGroups (first : Nat) (tails : List UInt8) : Char :=
  Char.ofNat (tails.foldl (fun n b => n * 64 + (b.toNat - 0x80)) first)

/-- The piece that starts with `first`, before `rest`. -/
def utf8Piece (first : UInt8) (rest : List UInt8) : Utf8Piece :=
  if first < 0x80 then .char (Char.ofNat first.toNat) 0
  else if first < 0xC2 || 0xF4 < first then .defect .startByte 0
  else
    match rest with
    | [] => .defect .truncated 0
    | b :: rest =>
      if !isSecond first b then .defect .continuation 0
      else if first < 0xE0 then .char (charOfGroups (first.toNat - 0xC0) [b]) 1
      else
        match rest with
        | [] => .defect .truncated 1
        | c :: rest =>
          if !isTail c then .defect .continuation 1
          else if first < 0xF0 then .char (charOfGroups (first.toNat - 0xE0) [b, c]) 2
          else
            match rest with
            | [] => .defect .truncated 2
            | d :: _ =>
              if !isTail d then .defect .continuation 2
              else .char (charOfGroups (first.toNat - 0xF0) [b, c, d]) 3

/-- The pieces of a byte text, in order. -/
def utf8Pieces : List UInt8 → List Utf8Piece
  | [] => []
  | b :: rest =>
    let piece := utf8Piece b rest
    piece :: utf8Pieces (rest.drop piece.more)
termination_by bytes => bytes.length
decreasing_by simp only [List.length_drop, List.length_cons]; omega

/-- One replacement character stands for each defect. -/
def decodeLossy (bytes : List UInt8) : List Char :=
  (utf8Pieces bytes).map fun
    | .char c _ => c
    | .defect _ _ => '\uFFFD'

/-- The first defect of a byte text. -/
structure EncodingError where
  cause : Utf8Defect
  first : UInt8
  position : Nat
  width : Nat
deriving DecidableEq, Repr

/-- The defect in words, with its byte or the places of its bytes. -/
def EncodingError.message (e : EncodingError) : String :=
  let place :=
    if e.width = 1 then
      s!"byte 0x{String.ofList (hexDigits 2 e.first.toNat)} in position {e.position}"
    else s!"bytes in position {e.position}-{e.position + e.width - 1}"
  s!"'utf-8' codec can't decode {place}: {e.cause.message}"

/-- Strict reading from a position on. -/
def decodeFrom (position : Nat) : List UInt8 → Except EncodingError (List Char)
  | [] => .ok []
  | b :: rest =>
    match h : utf8Piece b rest with
    | .char c more => (decodeFrom (position + more + 1) (rest.drop more)).map (c :: ·)
    | .defect cause more => .error ⟨cause, b, position, more + 1⟩
termination_by bytes => bytes.length
decreasing_by simp only [List.length_drop, List.length_cons]; omega

/-- Strict reading. -/
def decode (bytes : List UInt8) : Except EncodingError (List Char) := decodeFrom 0 bytes

/-- The bytes of a text. -/
def encode (s : String) : List UInt8 := s.toUTF8.data.toList

end Greenlight.Text
