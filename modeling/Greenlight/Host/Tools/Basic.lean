import Greenlight.Host.Machine
import Greenlight.Host.Printf

/-! # What tools have in common

A tool takes its arguments and gives its exit status. Options come first and begin with a hyphen. -/

namespace Greenlight.Host

/-- A tool. -/
abbrev Tool := List String → Run Nat

/-- Writes a complaint to the channel for errors and fails. -/
def complain (message : String) (status : Nat) : Run Nat := do
  emitText 2 (message ++ "\n")
  return status

/-- The status of a condition. -/
def statusOf (b : Bool) : Nat := if b then 0 else 1

/-- Complains in the name of the program that runs, and fails. -/
def toolFails (message : String) (status : Nat) : Run Nat := do
  complain s!"{(← get).process.name}: {message}" status

/-- Complains and says where to learn more. -/
def usageFails (message : String) (status : Nat) : Run Nat := do
  let tool := (← get).process.name
  complain s!"{tool}: {message}\nTry '{tool} --help' for more information." status

/-- Arguments that are options, and the others. -/
def splitOptions (args : List String) : List Char × List String :=
  let (options, rest) := args.partition fun arg => arg.startsWith "-" && arg != "-"
  (options.flatMap fun option => option.toList.drop 1, rest)

/-- The whole number in front of a text, in decimal. -/
def leadingNumber (s : String) : Int :=
  let (negative, digits) := Decimal.takeSign (s.toList.dropWhile (· == ' '))
  let n : Int := Decimal.digitsValue (digits.takeWhile Char.isDigit)
  if negative then -n else n

/-- The content of the file at a path; the path may name what comes in. -/
def readInput (path : String) : Run (Except FileProblem (List UInt8)) := do
  if path = "-" then return .ok (← receive 0 none)
  else
    match device? path with
    | some _ => return .ok []
    | none =>
      match (← viewTree).read path with
      | .ok bytes => return .ok bytes
      | .error e => return .error e.problem

/-- The input of a tool: its first argument, or what comes in; at most a number of bytes. -/
def toolInput (limit : Option Nat) (paths : List String) : Run (Except FileProblem (List UInt8)) :=
  match paths with
  | [] => return .ok (← receive 0 limit)
  | path :: _ =>
    match device? path, limit with
    | some .zeros, some n => return .ok (List.replicate n 0)
    | _, _ => readInput path

/-- Lines of bytes, each with its end. -/
def byteLines : List UInt8 → List (List UInt8)
  | [] => []
  | b :: rest =>
    match byteLines rest with
    | line :: more => if b == 10 then [b] :: line :: more else (b :: line) :: more
    | [] => [[b]]

/-- A line without its end. -/
def withoutEnd (line : List UInt8) : List UInt8 :=
  if line.getLast? = some 10 then line.dropLast else line

end Greenlight.Host
