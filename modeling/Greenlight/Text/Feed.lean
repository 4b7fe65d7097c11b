import Greenlight.Text.Utf8

/-! # Text files in portions

A text file is decoded chunk by chunk, and only as far as characters are asked for. A defect shows when
its chunk is decoded, with places counted from the start of the chunk and of what was left over from the
chunk before it. Line ends of every kind are read as line feeds. -/

namespace Greenlight.Text

/-- Bytes at the end of a chunk that wait for the next one: the start of a character, or the first two
bytes of a surrogate, which its third byte decides. -/
def isStarted (cause : Utf8Defect) (bytes : List UInt8) : Bool :=
  match cause, bytes with
  | .truncated, _ => true
  | .continuation, [0xED, second] => isTail second
  | _, _ => false

/-- Strict reading of a text that goes on behind `bytes`: its characters, and the bytes at the end that
wait for the rest of it. -/
def decodeOpen (position : Nat) (bytes : List UInt8) :
    Except EncodingError (List Char × List UInt8) :=
  match bytes with
  | [] => .ok ([], [])
  | b :: rest =>
    match utf8Piece b rest with
    | .char c more =>
      (decodeOpen (position + more + 1) (rest.drop more)).map fun (cs, started) => (c :: cs, started)
    | .defect cause more =>
      if isStarted cause (b :: rest) then .ok ([], b :: rest)
      else .error ⟨cause, b, position, more + 1⟩
termination_by bytes.length
decreasing_by simp only [List.length_drop, List.length_cons]; omega

/-- A carriage return, alone or before a line feed, is read as a line feed. -/
def unifyLineEnds : List Char → List Char
  | [] => []
  | '\r' :: '\n' :: rest => '\n' :: unifyLineEnds rest
  | c :: rest => (if c = '\r' then '\n' else c) :: unifyLineEnds rest

/-- A text file that is being read. -/
structure Feed where
  /-- The bytes that no chunk has held so far. -/
  bytes : List UInt8
  /-- The start of a character at the end of the last chunk. -/
  started : List UInt8
  /-- A carriage return at the end of the last chunk waits for the character behind it. -/
  held : Bool
  /-- Characters that are decoded and not yet taken. -/
  ready : List Char
  /-- The number of bytes for a character in the last chunk. -/
  ratio : Float

namespace Feed

/-- A file that is not read yet. -/
def ofBytes (bytes : List UInt8) : Feed := ⟨bytes, [], false, [], 0⟩

/-- The size of the next chunk: 8192 bytes, or what so many characters took up in the last chunk. -/
def chunkSize (f : Feed) (wanted : Nat) : Nat :=
  let expected := (if f.ratio < 1 then wanted.toFloat else f.ratio * wanted.toFloat).toUInt64.toNat
  if expected < 8192 then 8192 else expected

/-- Decodes a chunk. -/
def decodeChunk (f : Feed) (chunk : List UInt8) : Except EncodingError Feed := do
  let (cs, started) ← decodeOpen 0 (f.started ++ chunk)
  if cs.isEmpty then return { f with started, ratio := 0 }
  let cs := if f.held then '\r' :: cs else cs
  let held := cs.getLast? == some '\r'
  let cs := unifyLineEnds (if held then cs.dropLast else cs)
  return { f with
    started
    held
    ready := f.ready ++ cs
    ratio := if cs.isEmpty then 0 else chunk.length.toFloat / cs.length.toFloat }

/-- Decodes chunks until some number of characters is ready, or the file ends. -/
def fill (wanted : Nat) (f : Feed) : Except EncodingError Feed :=
  if wanted ≤ f.ready.length then .ok f
  else
    match _h : f.bytes with
    | [] => do
      let _ ← decode f.started
      return { f with held := false, ready := if f.held then f.ready ++ ['\n'] else f.ready }
    | b :: rest => do
      let size := f.chunkSize (wanted - f.ready.length) - 1
      let decoded ← f.decodeChunk (b :: rest.take size)
      fill wanted { decoded with bytes := rest.drop size }
termination_by f.bytes.length
decreasing_by simp only [_h, List.length_drop, List.length_cons]; omega

/-- The next characters of a file; they are fewer than asked for only at its end. -/
def take (count : Nat) (f : Feed) : Except EncodingError (List Char × Feed) := do
  let f ← f.fill count
  return (f.ready.take count, { f with ready := f.ready.drop count })

end Feed

end Greenlight.Text
