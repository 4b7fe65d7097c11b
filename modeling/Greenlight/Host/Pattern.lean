import Greenlight.Host.Machine

/-! # Patterns and fields

Patterns stand for names: a star for any characters, a question mark for one, brackets for one of some.
An expanded word falls apart into fields at its unquoted blanks. -/

namespace Greenlight.Host

/-! ## Patterns -/

/-- One sign of a pattern. -/
inductive Sign where
  | exactly (c : Char)
  | anyOne
  | anyMany
  | oneOf (negated : Bool) (ranges : List (Char × Char))
deriving DecidableEq, Repr

/-- Characters, each quoted or not. -/
abbrev Marked := List (Char × Bool)

/-- Characters with one mark. -/
def mark (quoted : Bool) (s : String) : Marked := s.toList.map fun c => (c, quoted)

/-- The ranges in a row of characters between brackets. -/
def rangesOf : Nat → List Char → List (Char × Char)
  | 0, _ => []
  | fuel + 1, a :: '-' :: b :: rest => (a, b) :: rangesOf fuel rest
  | fuel + 1, a :: rest => (a, a) :: rangesOf fuel rest
  | _, [] => []

/-- The signs of a pattern; quoted characters stand for themselves. -/
def signsOf : Nat → Marked → List Sign
  | 0, _ => []
  | _, [] => []
  | fuel + 1, (c, quoted) :: rest =>
    if quoted then .exactly c :: signsOf fuel rest
    else if c = '*' then .anyMany :: signsOf fuel rest
    else if c = '?' then .anyOne :: signsOf fuel rest
    else if c = '[' then
      let (negated, body) : Bool × Marked := match rest with
        | ('!', _) :: body => (true, body)
        | body => (false, body)
      let inside := body.take 1 ++ (body.drop 1).takeWhile (·.1 != ']')
      match body.drop inside.length with
      | _ :: behind =>
        let inside := inside.map (·.1)
        .oneOf negated (rangesOf (inside.length + 1) inside) :: signsOf fuel behind
      | [] => .exactly c :: signsOf fuel rest
    else .exactly c :: signsOf fuel rest

/-- The signs of a pattern. -/
def patternOf (m : Marked) : List Sign := signsOf (m.length + 1) m

/-- Everything that a row of characters ends with. -/
def suffixes : List Char → List (List Char)
  | [] => [[]]
  | c :: rest => (c :: rest) :: suffixes rest

/-- A pattern stands for some characters. -/
def matchesAll : List Sign → List Char → Bool
  | [], cs => cs.isEmpty
  | .anyMany :: rest, cs => (suffixes cs).any (matchesAll rest)
  | .anyOne :: rest, _ :: cs => matchesAll rest cs
  | .exactly c :: rest, d :: cs => c == d && matchesAll rest cs
  | .oneOf negated ranges :: rest, d :: cs =>
    ((ranges.any fun (a, b) => a ≤ d && d ≤ b) != negated) && matchesAll rest cs
  | _, [] => false

/-- The text without the part at one end that a pattern matches, the longest or the shortest one. -/
def trimMatch (atStart longest : Bool) (pattern : List Sign) (s : String) : String :=
  let cs := s.toList
  let lengths := List.range (cs.length + 1)
  let lengths := if longest then lengths.reverse else lengths
  let part (n : Nat) : List Char := if atStart then cs.take n else cs.drop (cs.length - n)
  match lengths.find? fun n => matchesAll pattern (part n) with
  | some n => String.ofList (if atStart then cs.drop n else cs.take (cs.length - n))
  | none => s

/-- A pattern has signs that stand for other characters. -/
def hasSigns (m : Marked) : Bool :=
  (patternOf m).any fun
    | .exactly _ => false
    | _ => true

/-- The names that a field stands for; only its last part is a pattern. -/
def fileNames (t : FileTree) (m : Marked) : List String :=
  let behind := (m.reverse.takeWhile (·.1 != '/')).reverse
  let front := String.ofList ((m.take (m.length - behind.length)).map (·.1))
  let pattern := patternOf behind
  let hidden := behind.head?.map (·.1) = some '.'
  let names := (t.list (if front.isEmpty then "." else front)).filter fun name =>
    matchesAll pattern name.toList && (hidden || !name.startsWith ".")
  (Text.sort names).map (front ++ ·)

/-! ## Fields -/

/-- A part of an expanded word. -/
inductive Part where
  | chars (s : String) (quoted : Bool)
  /-- The value of an expansion, which falls apart at its blanks. -/
  | value (s : String)
  /-- A field ends here. -/
  | cut

/-- Characters at which values fall apart. -/
abbrev Separators := List Char

/-- The fields of the characters of a value; `field` is the one begun. -/
def splitValue (separators : Separators) : Option Marked → List Char →
    List Marked × Option Marked
  | field, [] => ([], field)
  | field, c :: rest =>
    if separators.contains c then
      let blank := c == ' ' || c == '\t' || c == '\n'
      let closed := if blank then field.toList else [field.getD []]
      let (more, last) := splitValue separators none rest
      (closed ++ more, last)
    else splitValue separators (some (field.getD [] ++ [(c, false)])) rest

/-- The fields of an expanded word; `field` is the one begun. -/
def fieldsFrom (separators : Separators) : Option Marked → List Part → List Marked
  | field, [] => field.toList
  | field, .chars s quoted :: rest =>
    if s.isEmpty && !quoted then fieldsFrom separators field rest
    else fieldsFrom separators (some (field.getD [] ++ mark quoted s)) rest
  | field, .value s :: rest =>
    let (closed, last) := splitValue separators field s.toList
    closed ++ fieldsFrom separators last rest
  | field, .cut :: rest => field.toList ++ fieldsFrom separators none rest

/-- The text of the characters of a field. -/
def plain (m : Marked) : String := String.ofList (m.map (·.1))

/-- The texts of a field: itself, or the names of the files that it stands for. -/
def fieldTexts (t : FileTree) (m : Marked) : List String :=
  if hasSigns m then
    let names := fileNames t m
    if names.isEmpty then [plain m] else names
  else [plain m]

/-- All characters of an expanded word, in one. -/
def joinParts (parts : List Part) : Marked :=
  parts.flatMap fun
    | .chars s quoted => mark quoted s
    | .value s => mark false s
    | .cut => [(' ', true)]

end Greenlight.Host
