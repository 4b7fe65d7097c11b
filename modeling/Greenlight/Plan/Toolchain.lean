import Greenlight.Task

/-! # The toolchain

How the tools of the crate are called: a command that every other command starts with, and perhaps a
package that some commands are limited to. -/

namespace Greenlight

/-- The start of every command, and the package to limit commands to. -/
structure Toolchain where
  invocation : List String
  package : Option Arg
deriving DecidableEq, Repr

namespace Toolchain

/-- The plain toolchain. -/
def plain : Toolchain := ⟨["cargo"], none⟩

/-- A command of the toolchain. -/
def command (t : Toolchain) (args : List Arg) : List Arg := Arg.ofTexts t.invocation ++ args

/-- Arguments that limit a command to the package. -/
def packageArgs (t : Toolchain) : List Arg :=
  match t.package with
  | none => []
  | some name => [.text "-p", name]

end Toolchain

end Greenlight
