import Greenlight.Host.Pattern
import Greenlight.Host.Tools.Basic

/-! # Tools for lines and bytes

Tools that read what comes in, or a file, and write parts or changes of it. -/

namespace Greenlight.Host

/-- A number at the end of a column. -/
def rightAligned (width n : Nat) : String :=
  let s := Nat.repr n
  String.ofList (List.replicate (width - s.length) ' ') ++ s

/-- Writes files one after the other, or what comes in, perhaps with numbers in front of the lines. -/
def catTool : Tool := fun args => do
  let (options, paths) := splitOptions args
  let mut status := 0
  let mut line := 1
  for path in (if paths.isEmpty then ["-"] else paths) do
    match ← readInput path with
    | .ok bytes =>
      if options.contains 'n' then
        let lines := byteLines bytes
        emit 1 ((List.zipWith (fun n line =>
          Text.encode (rightAligned 6 n ++ "\t") ++ line) (List.range' line lines.length) lines).flatten)
        line := line + lines.length
      else emit 1 bytes
    | .error problem => status ← toolFails s!"{path}: {problem.words}" 1
  return status

/-- The options of a tool that keeps a part of its input: bytes instead of lines, and how many. -/
def partOptions : List String → Bool × Nat × List String
  | "-n" :: n :: rest => (false, n.toNat?.getD 0, rest)
  | "-c" :: n :: rest => (true, n.toNat?.getD 0, rest)
  | option :: rest =>
    match option.toList with
    | '-' :: 'n' :: n => (false, Decimal.digitsValue n, rest)
    | '-' :: 'c' :: n => (true, Decimal.digitsValue n, rest)
    | '-' :: n => if n.isEmpty then (false, 10, option :: rest) else (false, Decimal.digitsValue n, rest)
    | _ => (false, 10, option :: rest)
  | [] => (false, 10, [])

/-- Writes the start of its input. -/
def headTool : Tool := fun args => do
  let (bytes, n, paths) := partOptions args
  match ← toolInput (if bytes then some n else none) paths with
  | .ok input =>
    emit 1 (if bytes then input.take n else ((byteLines input).take n).flatten)
    return 0
  | .error problem =>
    let path := paths.headD ""
    toolFails s!"cannot open '{path}' for reading: {problem.words}" 1

/-- Writes the end of its input. -/
def tailTool : Tool := fun args => do
  let (bytes, n, paths) := partOptions args
  match ← toolInput none paths with
  | .ok input =>
    let lines := byteLines input
    emit 1 (if bytes then input.drop (input.length - n) else (lines.drop (lines.length - n)).flatten)
    return 0
  | .error problem =>
    let path := paths.headD ""
    toolFails s!"cannot open '{path}' for reading: {problem.words}" 1

/-- Words of bytes. -/
def wordCount (bytes : List UInt8) : Nat :=
  let isBlank (b : UInt8) : Bool := b == 32 || (9 ≤ b && b ≤ 13)
  (bytes.foldl (fun (count, inside) b =>
    if isBlank b then (count, false) else (if inside then count else count + 1, true)) (0, false)).1

/-- Counts the lines, words or bytes of its input. -/
def wcTool : Tool := fun args => do
  let (options, paths) := splitOptions args
  match ← toolInput none paths with
  | .ok input =>
    let asked (c : Char) : Bool := options.isEmpty || options.contains c
    let counts := (if asked 'l' then [input.count 10] else []) ++
      (if asked 'w' then [wordCount input] else []) ++
      (if asked 'c' || options.contains 'm' then [input.length] else [])
    let width := if counts.length = 1 then 1 else if paths.isEmpty then 7
      else (Nat.repr input.length).length
    emitText 1 (Text.join " " (counts.map (rightAligned width) ++ paths) ++ "\n")
    return 0
  | .error problem =>
    let path := paths.headD ""
    toolFails s!"{path}: {problem.words}" 1

/-- Writes the numbers of a range, one on a line. -/
def seqTool : Tool := fun args => do
  let numbers := args.map leadingNumber
  let (first, step, last) := match numbers with
    | [last] => (1, 1, last)
    | [first, last] => (first, 1, last)
    | [first, step, last] => (first, step, last)
    | _ => (1, 1, 0)
  let count := if step = 0 then 0 else (Int.fdiv (last - first) step + 1).toNat
  emitText 1 (String.join ((List.range count).map fun (i : Nat) => s!"{first + step * i}\n"))
  return 0

/-- The characters of a set for `tr`, with ranges and escapes resolved. -/
def trSet : Nat → List UInt8 → List UInt8
  | 0, _ => []
  | fuel + 1, a :: 45 :: b :: rest =>
    ((List.range (b.toNat + 1 - a.toNat)).map fun i => (a.toNat + i).toUInt8) ++ trSet fuel rest
  | fuel + 1, a :: rest => a :: trSet fuel rest
  | _, [] => []

/-- The set that an argument of `tr` describes. -/
def trArgument (s : String) : List UInt8 :=
  let rec resolve : Nat → List Char → List UInt8
    | 0, _ => []
    | _, [] => []
    | fuel + 1, '\\' :: rest =>
      let (bytes, rest) := readEscape false rest
      bytes ++ resolve fuel rest
    | fuel + 1, c :: rest => Text.encode c.toString ++ resolve fuel rest
  trSet (s.utf8ByteSize + 1) (resolve (s.length + 1) s.toList)

/-- Replaces or drops bytes of its input. -/
def trTool : Tool := fun args => do
  let input ← receive 0 none
  match args with
  | ["-d", set] =>
    let set := trArgument set
    emit 1 (input.filter fun b => !set.contains b)
    return 0
  | [source, target] =>
    let source := trArgument source
    let target := trArgument target
    emit 1 (input.map fun b =>
      match source.idxOf? b with
      | some i => (target[i]?).getD (target.getLast?.getD b)
      | none => b)
    return 0
  | _ => usageFails "missing operand" 1

/-- Lines in order of their bytes. -/
def sortTool : Tool := fun args => do
  let (options, paths) := splitOptions args
  match ← toolInput none paths with
  | .ok input =>
    let lines := (byteLines input).map withoutEnd
    let le (a b : List UInt8) : Bool :=
      if options.contains 'n' then
        decide (leadingNumber (String.ofList (Text.decodeLossy a)) ≤
          leadingNumber (String.ofList (Text.decodeLossy b)))
      else decide (a ≤ b)
    let sorted := lines.mergeSort le
    let sorted := if options.contains 'r' then sorted.reverse else sorted
    let sorted := if options.contains 'u' then dropRepeated sorted else sorted
    emit 1 ((sorted.map (· ++ [10])).flatten)
    return 0
  | .error problem =>
    let path := paths.headD ""
    toolFails s!"cannot read: {path}: {problem.words}" 2
where
  /-- Lines without those that repeat the one before. -/
  dropRepeated : List (List UInt8) → List (List UInt8)
    | a :: b :: rest => if a == b then dropRepeated (b :: rest) else a :: dropRepeated (b :: rest)
    | lines => lines

/-- Drops lines that repeat the one before. -/
def uniqTool : Tool := fun args => do
  let (_, paths) := splitOptions args
  match ← toolInput none paths with
  | .ok input =>
    emit 1 ((sortTool.dropRepeated (byteLines input)).flatten)
    return 0
  | .error problem =>
    let path := paths.headD ""
    toolFails s!"{path}: {problem.words}" 1

/-- Copies its input to files and to its output. -/
def teeTool : Tool := fun args => do
  let (options, paths) := splitOptions args
  let input ← receive 0 none
  emit 1 input
  let mut status := 0
  for path in paths do
    match ← changeTree fun t => if options.contains 'a' then t.append path input else t.write path input with
    | none => pure ()
    | some problem => status ← toolFails s!"{path}: {problem.words}" 1
  return status

/-- The number of lines that `yes` writes before nobody reads them. -/
def yesLines : Nat := 65536

/-- Writes a line again and again. -/
def yesTool : Tool := fun args => do
  let line := Text.encode (Text.join " " (if args.isEmpty then ["y"] else args) ++ "\n")
  emit 1 (List.replicate yesLines line).flatten
  return 0

/-! ## Searching lines -/

/-- One step of a search pattern: a sign, which may be repeated. -/
structure Repeated where
  sign : Sign
  repeats : Bool

/-- The steps of a search pattern, in which a star repeats the sign before it. -/
def searchSteps : Nat → List Char → List Repeated
  | 0, _ => []
  | _, [] => []
  | fuel + 1, c :: rest =>
    let (sign, rest) : Sign × List Char :=
      match c, rest with
      | '.', rest => (.anyOne, rest)
      | '\\', e :: rest => (.exactly e, rest)
      | '[', rest =>
        let negated := rest.head? = some '^'
        let body := if negated then rest.tail else rest
        let inside := body.take 1 ++ (body.drop 1).takeWhile (· != ']')
        (.oneOf negated (rangesOf (inside.length + 1) inside), body.drop (inside.length + 1))
      | c, rest => (.exactly c, rest)
    match rest with
    | '*' :: rest => ⟨sign, true⟩ :: searchSteps fuel rest
    | '+' :: rest => ⟨sign, false⟩ :: ⟨sign, true⟩ :: searchSteps fuel rest
    | rest => ⟨sign, false⟩ :: searchSteps fuel rest

/-- The steps match a text from its start on, up to its end if `toEnd` is set. -/
def matchesSteps (toEnd : Bool) : Nat → List Repeated → List Char → Bool
  | 0, _, _ => false
  | _, [], cs => !toEnd || cs.isEmpty
  | fuel + 1, ⟨sign, true⟩ :: steps, cs =>
    matchesSteps toEnd fuel steps cs ||
      match cs with
      | c :: rest => matchesAll [sign] [c] && matchesSteps toEnd fuel (⟨sign, true⟩ :: steps) rest
      | [] => false
  | fuel + 1, ⟨sign, false⟩ :: steps, c :: cs =>
    matchesAll [sign] [c] && matchesSteps toEnd fuel steps cs
  | _, _ :: _, [] => false

/-- A search pattern occurs in a line. -/
def occurs (pattern line : List Char) : Bool :=
  let fromStart := pattern.head? = some '^'
  let pattern := if fromStart then pattern.tail else pattern
  let toEnd := pattern.getLast? = some '$'
  let pattern := if toEnd then pattern.dropLast else pattern
  let steps := searchSteps (pattern.length + 1) pattern
  let places := if fromStart then [line] else suffixes line
  places.any (matchesSteps toEnd (2 * line.length + 2 * steps.length + 2) steps)

/-- Writes the lines in which a pattern occurs. -/
def grepTool : Tool := fun args => do
  let (options, rest) := splitOptions args
  match rest with
  | [] => complain ("Usage: grep [OPTION]... PATTERNS [FILE]...\n" ++
      "Try 'grep --help' for more information.") 2
  | pattern :: paths =>
    match ← toolInput none paths with
    | .error problem =>
      let path := paths.headD ""
      toolFails s!"{path}: {problem.words}" 2
    | .ok input =>
      let found := (byteLines input).filter fun line =>
        let cs := Text.decodeLossy (withoutEnd line)
        let hit := if options.contains 'F' then Text.contains (String.ofList cs) pattern
          else if options.contains 'i' then
            occurs (pattern.toList.map Char.toLower) (cs.map Char.toLower)
          else occurs pattern.toList cs
        hit != options.contains 'v'
      if options.contains 'c' then emitText 1 (Nat.repr found.length ++ "\n")
      else if !options.contains 'q' then
        emit 1 ((found.map fun line => withoutEnd line ++ [10]).flatten)
      return statusOf !found.isEmpty

end Greenlight.Host
