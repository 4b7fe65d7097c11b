/-! # Scripts

The commands of a small shell: words with their expansions, simple commands with assignments and
redirections, pipelines, lists, branches and loops. -/

namespace Greenlight.Host

/-- What an expansion does with the value of a parameter. -/
inductive ParamUse where
  | plain
  | length
  /-- Another word in place of a parameter that is unset, or empty if the flag is set. -/
  | default (orEmpty : Bool)
  | assign (orEmpty : Bool)
  | alternative (orEmpty : Bool)
  | demand (orEmpty : Bool)
  /-- The value without the part that a pattern matches: at its start or end, the longest or the
  shortest one. -/
  | trim (atStart longest : Bool)
deriving DecidableEq, Repr

/-- How a redirection opens its target. -/
inductive RedirKind where
  | write
  /-- Like `write`, even where files are to be kept. -/
  | replace
  | append
  /-- For reading and writing. -/
  | update
  | read
  /-- The target is the number of another channel, or a hyphen to close this one. -/
  | duplicate
  /-- The target is the text that is read. -/
  | document
deriving DecidableEq, Repr

mutual

/-- A piece of a word. -/
inductive Piece where
  /-- Characters as they are; stars and the like stand for file names. -/
  | bare (s : String)
  /-- Quoted characters. -/
  | quoted (s : String)
  | param (inQuotes : Bool) (name : String) (use : ParamUse) (word : List Piece)
  | output (inQuotes : Bool) (script : String)
  | arithmetic (inQuotes : Bool) (expression : List Piece)

/-- A command. -/
inductive Command where
  | simple (line : Nat) (assignments : List (String × List Piece)) (words : List (List Piece))
    (redirs : List Redir)
  | pipeline (negated : Bool) (parts : List Command)
  | both (first second : Command)
  | either (first second : Command)
  | background (command : Command)
  | sequence (commands : List Command)
  | branch (condition yes no : Command)
  | loop (untilTrue : Bool) (condition body : Command)
  | each (name : String) (words : Option (List (List Piece))) (body : Command)
  | choose (word : List Piece) (arms : List (List (List Piece) × Command))
  | group (command : Command) (redirs : List Redir)
  | subshell (command : Command) (redirs : List Redir)
  | define (name : String) (body : Command)

/-- A redirection of a channel. -/
inductive Redir where
  | mk (channel : Nat) (kind : RedirKind) (target : List Piece)

end

/-- A word: its pieces in a row. -/
abbrev Word := List Piece

instance : Inhabited Command := ⟨.sequence []⟩

/-- The characters of a word that is nothing but bare characters. -/
def bareText? : Word → Option String
  | [.bare s] => some s
  | _ => none

end Greenlight.Host
