import Greenlight.Entries
import Greenlight.FlagSet
import Greenlight.Fault
import Greenlight.Text.Blank
import Greenlight.Text.LowerCase

/-! # Reading single options

Every option has a spelling as one text, for an environment variable, and a spelling as a structured
value, for a configuration file. The readers of this module take both. -/

namespace Greenlight.Settings

open Text

/-! ## Lists of names -/

/-- The names in a row of texts: stripped, not blank, each once, in order. -/
def distinctNames (items : List String) : List String :=
  ((items.map strip).filter (!·.isEmpty)).eraseDups

/-- A list of names: texts between commas, or a list. -/
def readNames (v : Value) : Except Fault (List String) :=
  match v.content with
  | .datum .null => .ok []
  | .datum (.text s) => .ok (distinctNames (pieces ',' s))
  | _ =>
    match v.items? with
    | some items => (items.mapM Value.written).map distinctNames
    | none => v.refuse fun shown => .settings (.noNameList shown)

/-! ## Sets of flags -/

/-- Words for the set without flags. -/
def isEmptySetWord (s : String) : Bool := s == "" || s == "none" || s == "-"

/-- The set of the texts that are not blank, stripped. -/
def flagSetOfTexts (items : List String) : FlagSet :=
  FlagSet.ofList ((items.map strip).filter (!·.isEmpty))

/-- Flags between commas or plus signs, or a word for the empty set. -/
def flagSetOfText (s : String) : FlagSet :=
  let token := strip s
  if isEmptySetWord (lower token) then FlagSet.empty
  else flagSetOfTexts ((pieces ',' token).flatMap (pieces '+'))

/-- A set of flags: a text, or a collection of flags. -/
def readFlagSet (v : Value) : Except Fault FlagSet :=
  match v.content with
  | .datum .null => .ok FlagSet.empty
  | .datum (.text s) => .ok (flagSetOfText s)
  | .set members => (members.mapM fun d => (Value.ofDatum d).written).map flagSetOfTexts
  | _ =>
    match v.items? with
    | some items => (items.mapM Value.written).map flagSetOfTexts
    | none => v.refuse fun shown => .settings (.noFlagSet shown)

/-- Several sets of flags: texts between semicolons, or a list of sets; `null` leaves the choice
open. -/
def readFlagSets (v : Value) : Except Fault (Option (List FlagSet)) :=
  match v.content with
  | .datum .null => .ok none
  | .datum (.text s) => .ok (some ((pieces ';' s).map flagSetOfText))
  | _ =>
    match v.items? with
    | some items => (items.mapM readFlagSet).map some
    | none => v.refuse fun shown => .settings (.noFlagSets shown)

/-- Groups of flags that exclude each other; empty groups are left out. -/
def readGroups (v : Value) : Except Fault (List FlagSet) :=
  let groups : Except Fault (List FlagSet) :=
    match v.text? with
    | some s => .ok ((((pieces ';' s).filter fun part => !(strip part).isEmpty)).map flagSetOfText)
    | none =>
      match v.items? with
      | some items => items.mapM readFlagSet
      | none => v.refuse fun shown => .settings (.noGroups shown)
  groups.map (·.filter (!·.isEmpty))

/-! ## Truth values -/

/-- A truth value, or one of the words for it. -/
def readBool (option : String) (v : Value) : Except Fault Bool :=
  match v.content with
  | .datum (.bool b) => .ok b
  | _ => do
    let word := lower (strip (← v.written))
    if ["1", "true", "yes", "on"].contains word then return true
    else if ["0", "false", "no", "off"].contains word then return false
    else v.refuse fun shown => .settings (.noBool option shown)

/-- Flags that a policy includes or leaves out; those in `excluded` are left out in any case. -/
def readInclusion (fileValue : Option Value) (excluded : List String) :
    Except Fault (List (String × Bool)) := do
  let given ← match (fileValue.getD .null).content with
    | .datum .null => pure []
    | .map entries =>
      entries.foldlM (fun found (flag, included) => do
        let choice ← readBool "include_flags" included
        return Entries.put (← (Value.ofDatum flag).written) choice found) []
    | _ => .error (.settings .inclusionNoMapping)
  return excluded.foldl (fun found flag => Entries.put flag false found) given

/-! ## Time limits of stages -/

/-- The entries of a text: a name and a number of seconds with an equals sign between them. -/
def limitEntries (s : String) : Except Fault (List (String × Value)) :=
  ((((pieces ',' s).map strip).filter (!·.isEmpty))).mapM fun token =>
    match cutAtFirst '=' token.toList with
    | none => .error (.settings (.limitEntry token))
    | some (name, seconds) =>
      .ok (strip (String.ofList name), .text (strip (String.ofList seconds)))

/-- The seconds of one stage. A number too large for a double is a fault of its own. -/
def readLimit (stage : String) (raw : Value) : Except Fault Float :=
  match raw.toFloat with
  | .ok seconds => .ok seconds
  | .error .beyondFloat => .error (.number .beyondFloat)
  | .error _ => raw.refuse fun shown => .settings (.stageLimit stage shown)

/-- Time limits of stages: texts between commas, or a mapping. Stage names are in lower case. -/
def readLimits (v : Value) : Except Fault (List (String × Float)) := do
  let items ← match v.content with
    | .map entries => entries.mapM fun (key, raw) => do return (← (Value.ofDatum key).written, raw)
    | .datum (.text s) => limitEntries s
    | _ => v.refuse fun shown => .settings (.noLimits shown)
  items.foldlM (fun found (stage, raw) => do
    return Entries.put (lower stage) (← readLimit stage raw) found) []

/-! ## Commands, paths and numbers -/

/-- A command: one text cut into words, or a list of arguments. -/
def readCommand (v : Value) : Except Fault (List String) :=
  match v.text? with
  | some s => (ShellWords.split s).mapError .words
  | none =>
    match v.items? with
    | some items => items.mapM Value.written
    | none => v.refuse fun shown => .settings (.noCommand shown)

/-- A path. -/
def readPath (v : Value) : Except Fault Path := v.text?.elim (.error .pathNotText) (.ok <| .ofText ·)

/-- A number of seconds. -/
def readSeconds (v : Value) : Except Fault Float := v.toFloat.mapError .number

/-- A whole number. -/
def readCount (v : Value) : Except Fault Int := v.toInt.mapError .number

end Greenlight.Settings
