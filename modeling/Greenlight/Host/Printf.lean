import Greenlight.Decimal.Notation
import Greenlight.Decimal.Reader
import Greenlight.Text.Utf8

/-! # Formats

A format is written with a row of arguments: its escapes stand for single bytes, and each conversion
takes an argument. It is used again as long as arguments are left. -/

namespace Greenlight.Host

/-- The value of a row of octal digits. -/
def octalValue (cs : List Char) : Nat := cs.foldl (fun n c => 8 * n + (c.toNat - 48)) 0

/-- A digit below eight. -/
def isOctal (c : Char) : Bool := '0' ≤ c && c ≤ '7'

/-- What a letter behind a backslash stands for. -/
def escapeByte? : Char → Option UInt8
  | 'a' => some 7
  | 'b' => some 8
  | 'e' => some 27
  | 'f' => some 12
  | 'n' => some 10
  | 'r' => some 13
  | 't' => some 9
  | 'v' => some 11
  | '\\' => some 92
  | _ => none

/-- The bytes that an escape stands for, and what follows it; the text starts behind the backslash.
With `leadingZero` an octal number begins with a zero of its own. -/
def readEscape (leadingZero : Bool) (cs : List Char) : List UInt8 × List Char :=
  let octal (cs : List Char) : List UInt8 × List Char :=
    let digits := (cs.take 3).takeWhile isOctal
    ([(octalValue digits).toUInt8], cs.drop digits.length)
  match cs with
  | [] => ([92], [])
  | c :: rest =>
    match escapeByte? c with
    | some b => ([b], rest)
    | none =>
      if leadingZero && c == '0' then octal rest
      else if isOctal c then octal cs
      else if !leadingZero && c == '"' then ([34], rest)
      else ([92], c :: rest)

/-- A text with its escapes resolved; `true` if the escape that ends all output was met. -/
def resolveEscapes : Nat → List Char → List UInt8 × Bool
  | 0, _ => ([], false)
  | _, [] => ([], false)
  | fuel + 1, c :: rest =>
    if c == '\\' then
      if rest.head? == some 'c' then ([], true)
      else
        let (bytes, rest) := readEscape true rest
        let (more, ended) := resolveEscapes fuel rest
        (bytes ++ more, ended)
    else
      let (more, ended) := resolveEscapes fuel rest
      (Text.encode c.toString ++ more, ended)

/-! ## Arguments as numbers -/

/-- What can be wrong with an argument that is to be a number. -/
inductive ArgumentDefect where
  | noNumber
  /-- Something stands behind the number. -/
  | partly
  | beyondRange
deriving DecidableEq, Repr

/-- The argument without the blanks in front of it. -/
def withoutBlanks (cs : List Char) : List Char :=
  cs.dropWhile fun c => c == ' ' || ('\t' ≤ c && c ≤ '\r')

/-- The code of the character behind a quote. -/
def quotedCode? : List Char → Option Nat
  | '\'' :: c :: _ | '"' :: c :: _ => some c.toNat
  | _ => none

/-- The whole number that an argument stands for, within the range of 64 bits. -/
def wholeArgument (signed : Bool) (s : String) : Int × Option ArgumentDefect :=
  match quotedCode? s.toList, withoutBlanks s.toList with
  | some code, _ => (code, none)
  | none, [] => (0, if s.isEmpty then none else some .noNumber)
  | none, cs =>
    let (negative, cs) := Decimal.takeSign cs
    let base := match cs with
      | '0' :: 'x' :: d :: _ | '0' :: 'X' :: d :: _ => if (Decimal.baseDigit? 16 d).isSome then 16 else 8
      | '0' :: _ => 8
      | _ => 10
    let cs := if base = 16 then cs.drop 2 else cs
    let digits := cs.takeWhile fun c => (Decimal.baseDigit? base c).isSome
    match Decimal.readPlainDigits? base digits with
    | none => (0, some .noNumber)
    | some size =>
      let n : Int := if negative then -(size : Int) else size
      let (low, high) : Int × Int :=
        if signed then (-0x8000000000000000, 0x7FFFFFFFFFFFFFFF)
        else (-0xFFFFFFFFFFFFFFFF, 0xFFFFFFFFFFFFFFFF)
      if digits.length < cs.length then (n, some .partly)
      else if n < low then (low, some .beyondRange)
      else if high < n then (high, some .beyondRange)
      else (n, none)

/-- The double that some characters stand for; whole numbers may be hexadecimal. -/
def readReal? (cs : List Char) : Option Float :=
  let (negative, digits) := Decimal.takeSign cs
  match digits with
  | '0' :: 'x' :: rest | '0' :: 'X' :: rest =>
    (Decimal.readPlainDigits? 16 rest).map fun n => Decimal.toFloat (.finite negative n 0)
  | _ => (Decimal.read? cs).map Decimal.toFloat

/-- The double that an argument stands for. -/
def realArgument (s : String) : Float × Option ArgumentDefect :=
  match quotedCode? s.toList, withoutBlanks s.toList with
  | some code, _ => (Decimal.toFloat (.finite false code 0), none)
  | none, [] => (0, if s.isEmpty then none else some .noNumber)
  | none, cs =>
    let lengths := (List.range' 1 cs.length).reverse
    match lengths.findSome? fun n => (readReal? (cs.take n)).map fun x => (x, n) with
    | some (x, n) => (x, if n < cs.length then some .partly else none)
    | none => (0, some .noNumber)

/-! ## Conversions -/

/-- A conversion: its flags, width, precision and letter. -/
structure Conversion where
  flags : List Char
  width : Nat
  precision : Option Nat
  letter : Char

/-- A number in a conversion, with what follows: digits, or a star for one of the arguments. -/
def readSize (cs : List Char) (args : List String) : Int × List Char × List String :=
  match cs with
  | '*' :: rest => ((wholeArgument true (args.headD "")).1, rest, args.tail)
  | cs =>
    let digits := cs.takeWhile Char.isDigit
    (Decimal.digitsValue digits, cs.drop digits.length, args)

/-- Reads a conversion behind its percent sign, with the arguments that it needs for its sizes. -/
def readConversion (cs : List Char) (args : List String) :
    Option (Conversion × List Char × List String) :=
  let flags := cs.takeWhile "-+ #0".toList.contains
  let (width, cs, args) := readSize (cs.drop flags.length) args
  let flags := if width < 0 then '-' :: flags else flags
  let (precision, cs, args) : Option Nat × List Char × List String :=
    match cs with
    | '.' :: rest =>
      let (n, cs, args) := readSize rest args
      (if n < 0 then none else some n.toNat, cs, args)
    | _ => (none, cs, args)
  match cs with
  | letter :: rest => some (⟨flags, width.natAbs, precision, letter⟩, rest, args)
  | [] => none

/-- The sign in front of a number. -/
def Conversion.signText (c : Conversion) (negative : Bool) : List Char :=
  if negative then ['-'] else if c.flags.contains '+' then ['+']
  else if c.flags.contains ' ' then [' '] else []

/-- Fills a field up to its width. -/
def Conversion.fill (c : Conversion) (zeros : Bool) (start bytes : List UInt8) : List UInt8 :=
  let missing := c.width - (start.length + bytes.length)
  if c.flags.contains '-' then start ++ bytes ++ List.replicate missing 32
  else if zeros && c.flags.contains '0' then start ++ List.replicate missing 48 ++ bytes
  else List.replicate missing 32 ++ start ++ bytes

/-- A whole number under a conversion. -/
def Conversion.whole (c : Conversion) (n : Int) : List UInt8 :=
  let signed := c.letter = 'd' || c.letter = 'i'
  let base := match c.letter with
    | 'x' | 'X' => 16
    | 'o' => 8
    | _ => 10
  let size := if signed then n.natAbs else (n % 0x10000000000000000).toNat
  let digits := if size = 0 && c.precision = some 0 then [] else Nat.toDigits base size
  let digits := List.replicate ((c.precision.getD 1) - digits.length) '0' ++ digits
  let digits := if base = 8 && c.flags.contains '#' && digits.head? != some '0' then '0' :: digits
    else digits
  let start := if signed then c.signText (n < 0)
    else if base = 16 && c.flags.contains '#' && size != 0 then ['0', 'x'] else []
  let raise (cs : List Char) : List UInt8 :=
    Text.encode (String.ofList (if c.letter = 'X' then cs.map Char.toUpper else cs))
  c.fill c.precision.isNone (raise start) (raise digits)

/-- A double under a conversion. -/
def Conversion.real (c : Conversion) (x : Float) : List UInt8 :=
  let places := c.precision.getD 6
  let (negative, finite, body) : Bool × Bool × String :=
    match Decimal.Reading.ofFloat x with
    | .undefined => (false, false, "nan")
    | .infinite negative => (negative, false, "inf")
    | .finite negative b =>
      (negative, true, match c.letter.toLower with
        | 'f' => b.fixed places
        | 'e' =>
          let (digits, leading) := b.significant (places + 1)
          Decimal.scientific digits leading
        | _ => b.general (if places = 0 then 1 else places))
  let raise (cs : List Char) : List UInt8 :=
    Text.encode (String.ofList (if c.letter.isUpper then cs.map Char.toUpper else cs))
  c.fill finite (raise (c.signText negative)) (raise body.toList)

/-! ## Writing -/

/-- Why a format cannot be written to its end. -/
inductive FormatDefect where
  | unknown (directive : String)
  | unfinished
deriving DecidableEq, Repr

/-- What a format comes to: the bytes, the arguments left, whether the output ends here, arguments that
are no proper numbers, and why the rest cannot be written. -/
structure Printed where
  bytes : List UInt8
  left : List String
  ended : Bool
  strange : List (String × ArgumentDefect)
  defect : Option FormatDefect

/-- Puts bytes in front. -/
def Printed.after (bytes : List UInt8) (p : Printed) : Printed := { p with bytes := bytes ++ p.bytes }

/-- Puts what is wrong with an argument in front. -/
def Printed.noting (arg : String) (defect : Option ArgumentDefect) (p : Printed) : Printed :=
  { p with strange := (defect.map fun d => (arg, d)).toList ++ p.strange }

/-- Writes a format once. -/
def printOnce : Nat → List Char → List String → Printed
  | 0, _, args => ⟨[], args, false, [], none⟩
  | _, [], args => ⟨[], args, false, [], none⟩
  | fuel + 1, c :: rest, args =>
    if c == '\\' then
      if rest.head? == some 'c' then ⟨[], args, true, [], none⟩
      else
        let (bytes, rest) := readEscape false rest
        (printOnce fuel rest args).after bytes
    else if c == '%' then
      if rest.head? = some '%' then (printOnce fuel rest.tail args).after [37]
      else
        match readConversion rest args with
        | none => ⟨[], args, true, [], some .unfinished⟩
        | some (conversion, behind, args) =>
          let arg := args.headD ""
          let cut (bytes : List UInt8) : List UInt8 :=
            (conversion.precision.map bytes.take).getD bytes
          match conversion.letter with
          | 's' =>
            (printOnce fuel behind args.tail).after (conversion.fill false [] (cut (Text.encode arg)))
          | 'b' =>
            let (bytes, ended) := resolveEscapes arg.length arg.toList
            let bytes := conversion.fill false [] (cut bytes)
            if ended then ⟨bytes, args.tail, true, [], none⟩
            else (printOnce fuel behind args.tail).after bytes
          | 'c' =>
            (printOnce fuel behind args.tail).after
              (conversion.fill false [] ((Text.encode arg).take 1))
          | 'd' | 'i' | 'u' | 'x' | 'X' | 'o' =>
            let (n, defect) := wholeArgument ("di".toList.contains conversion.letter) arg
            ((printOnce fuel behind args.tail).after (conversion.whole n)).noting arg defect
          | 'f' | 'F' | 'e' | 'E' | 'g' | 'G' =>
            let (x, defect) := realArgument arg
            ((printOnce fuel behind args.tail).after (conversion.real x)).noting arg defect
          | _ =>
            let directive := "%" ++ String.ofList (rest.take (rest.length - behind.length))
            ⟨[], args, true, [], some (.unknown directive)⟩
    else (printOnce fuel rest args).after (Text.encode c.toString)

/-- Writes a format as often as its arguments ask for. -/
def printAll : Nat → List Char → List String → Printed
  | 0, _, args => ⟨[], args, false, [], none⟩
  | fuel + 1, format, args =>
    let p := printOnce (format.length + 1) format args
    if p.ended || p.left.isEmpty || p.left.length = args.length then p
    else
      let next := printAll fuel format p.left
      { next.after p.bytes with strange := p.strange ++ next.strange }

end Greenlight.Host
