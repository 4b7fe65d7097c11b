import Greenlight.Gate.Planning
import Greenlight.Proofs.Agreeing
import Greenlight.Proofs.Plan.Declarations
import Greenlight.Proofs.Plan.Queue

/-! # The invocation of the toolchain

How the tools are called is the start of commands and nothing else. Main statement: with two invocations a
plan fails alike, or has the same tasks, whose commands go on alike behind the two invocations; only a
declared command that does not start with `cargo` is the same. -/

namespace Greenlight

/-! ## Commands under two invocations -/

/-- The words of the command that a value declares. -/
def FixedCheck.DeclaresWords (value : Value) (words : List String) : Prop :=
  ∃ entries, value.content = .map entries ∧
    GivesWords (valueUnder entries "command" .null) words

/-- A command under two invocations of the toolchain: they are followed by the same arguments, or the
command is a declared one that does not start with `cargo`. -/
inductive CalledAlike (declared : List Value) (first second : List String) :
    List Arg → List Arg → Prop where
  | tool (rest : List Arg) :
      CalledAlike declared first second (Arg.ofTexts first ++ rest) (Arg.ofTexts second ++ rest)
  | own {value : Value} {words : List String} (hv : value ∈ declared)
      (hw : FixedCheck.DeclaresWords value words) (hne : words ≠ [])
      (hcargo : words.head? ≠ some "cargo") :
      CalledAlike declared first second (Arg.ofTexts words) (Arg.ofTexts words)

/-- A task under two invocations of the toolchain. -/
structure Task.CallsAlike (declared : List Value) (first second : List String) (a b : Task) :
    Prop where
  id : a.id = b.id
  severity : a.severity = b.severity
  stage : a.stage = b.stage
  description : a.description = b.description
  environment : a.environment = b.environment
  command : CalledAlike declared first second a.command b.command

/-- A fixed check under two invocations of the toolchain. -/
structure FixedCheck.CallsAlike (declared : List Value) (first second : List String)
    (a b : FixedCheck) : Prop where
  id : a.id = b.id
  severity : a.severity = b.severity
  stage : a.stage = b.stage
  description : a.description = b.description
  environment : a.environment = b.environment
  command : CalledAlike declared first second a.command b.command

variable {declared : List Value} {first second : List String} {package : Option Arg}

theorem CalledAlike.ne_nil_iff {a b : List Arg} (h : CalledAlike declared first second a b)
    (hfirst : first ≠ []) (hsecond : second ≠ []) : a ≠ [] ∧ b ≠ [] := by
  cases h with
  | tool rest => simp [Arg.ofTexts, hfirst, hsecond]
  | own _ _ hne _ => simp [Arg.ofTexts, hne]

/-! ## Fixed checks -/

namespace FixedCheck

variable {value : Value} {name : String} {given : Value}

/-- A command is read from the same words with both invocations. -/
theorem readCommand_agrees (t other : Toolchain) (name : String) (given : Value) :
    Agrees (fun a b => ∃ words, GivesWords given words ∧ words ≠ [] ∧ a = expandCommand t words ∧
        b = expandCommand other words)
      (readCommand t name given) (readCommand other name given) := by
  have hwords (words : List String) (hw : GivesWords given words) :
      Agrees (fun a b => ∃ words, GivesWords given words ∧ words ≠ [] ∧ a = expandCommand t words ∧
          b = expandCommand other words)
        (if words.isEmpty then .error (.expansion (.commandEmpty name))
          else .ok (expandCommand t words) : Except Fault (List Arg))
        (if words.isEmpty then .error (.expansion (.commandEmpty name))
          else .ok (expandCommand other words)) := by
    split
    · exact .error _
    · next hne => exact .ok ⟨words, hw, by simpa using hne, rfl, rfl⟩
  unfold readCommand
  cases hs : given.text? with
  | some s =>
    refine .bind_left_of_ok fun words hw => hwords words ?_
    exact (givesWords_iff_split hs).2 (mapError_eq_ok_iff.1 hw)
  | none =>
    cases hm : given.items?.bind fun items => items.mapM Value.text? with
    | none => exact .error _
    | some words => exact hwords words ((givesWords_iff_mapM hs).2 hm)

theorem expandCommand_calledAlike {value : Value} {words : List String} (hv : value ∈ declared)
    (hw : DeclaresWords value words) (hne : words ≠ []) :
    CalledAlike declared first second (expandCommand ⟨first, package⟩ words)
      (expandCommand ⟨second, package⟩ words) := by
  cases words with
  | nil => exact absurd rfl hne
  | cons head args =>
    unfold expandCommand
    dsimp only
    split
    · exact .tool (Arg.ofTexts args)
    · next hcargo => exact .own hv hw hne (by simpa using hcargo)

theorem read_agrees (hv : value ∈ declared) (index : Nat) :
    Agrees (CallsAlike declared first second) (read ⟨first, package⟩ index value)
      (read ⟨second, package⟩ index value) := by
  unfold read
  cases hc : value.content with
  | map entries =>
    dsimp only
    cases (Value.lookup entries "id").bind Value.text? with
    | none => exact .error _
    | some name =>
      dsimp only
      split
      · exact .error _
      · refine (readCommand_agrees _ _ name _).bind ?_
        rintro _ _ ⟨words, hw, hne, rfl, rfl⟩
        refine .bind_left fun severity => .bind_left fun stage => .bind_left fun environment =>
          .bind_left fun description => .ok ?_
        exact ⟨rfl, rfl, rfl, rfl, rfl, expandCommand_calledAlike hv ⟨entries, hc, hw⟩ hne⟩
  | _ => exact .error _

/-- Declarations are read alike with both invocations. -/
theorem readFrom_agrees {values : List Value} (hv : ∀ value ∈ values, value ∈ declared)
    (index : Nat) :
    Agrees (List.Forall₂ (CallsAlike declared first second))
      (readFrom ⟨first, package⟩ index values) (readFrom ⟨second, package⟩ index values) := by
  induction values generalizing index with
  | nil => exact .ok .nil
  | cons value rest ih =>
    obtain ⟨hvalue, hrest⟩ := List.forall_mem_cons.1 hv
    refine (read_agrees hvalue index).bind fun a b hab => ?_
    exact (ih hrest (index + 1)).bind fun as bs habs => .ok (.cons hab habs)

theorem defaults_callsAlike :
    List.Forall₂ (CallsAlike declared first second) (defaults ⟨first, package⟩)
      (defaults ⟨second, package⟩) := by
  have hcall (id description : String) (severity : Severity) (stage : Stage) (rest : List Arg) :
      CallsAlike declared first second
        ⟨id, Toolchain.command ⟨first, package⟩ rest, severity, stage, description, []⟩
        ⟨id, Toolchain.command ⟨second, package⟩ rest, severity, stage, description, []⟩ :=
    ⟨rfl, rfl, rfl, rfl, rfl, .tool rest⟩
  exact .cons (hcall ..) (.cons (hcall ..) (.cons (hcall ..) (.cons (hcall ..) .nil)))

end FixedCheck

/-! ## Queues -/

namespace Plan

variable {examples : List String} {features : List FeatureSet}

/-- The queue over the checks that are declared, or else over the default ones. -/
def queue (t : Toolchain) (examples : List String) (features : List FeatureSet)
    (declared : Option (List Value)) : Except Fault (List Task) := do
  let checks ← match declared with
    | some values => FixedCheck.readAll t values
    | none => pure (FixedCheck.defaults t)
  expand t examples features checks

theorem checkTask_agrees {a b : FixedCheck} (hfirst : first ≠ []) (hsecond : second ≠ [])
    (h : a.CallsAlike declared first second b) :
    Agrees (Task.CallsAlike declared first second) (checkTask a) (checkTask b) := by
  obtain ⟨ha, hb⟩ := h.command.ne_nil_iff hfirst hsecond
  unfold checkTask
  rw [if_neg (mt List.isEmpty_iff.1 ha), if_neg (mt List.isEmpty_iff.1 hb)]
  refine .ok ⟨h.id, h.severity, h.stage, ?_, h.environment, h.command⟩
  simp only [h.id, h.description]

theorem expand_agrees {as bs : List FixedCheck} (hfirst : first ≠ []) (hsecond : second ≠ [])
    (h : List.Forall₂ (FixedCheck.CallsAlike declared first second) as bs) :
    Agrees (List.Forall₂ (Task.CallsAlike declared first second))
      (expand ⟨first, package⟩ examples features as)
      (expand ⟨second, package⟩ examples features bs) := by
  unfold expand
  have hchecks : Agrees (List.Forall₂ (Task.CallsAlike declared first second))
      (as.mapM checkTask) (bs.mapM checkTask) :=
    .mapM (fun _ _ hab => checkTask_agrees hfirst hsecond hab) h
  refine hchecks.bind fun fixed others hfixed => ?_
  have hexamples : List.Forall₂ (Task.CallsAlike declared first second)
      (examples.map (exampleTask ⟨first, package⟩)) (examples.map (exampleTask ⟨second, package⟩)) := by
    rw [List.forall₂_map_left_iff, List.forall₂_map_right_iff, List.forall₂_same]
    exact fun name _ => ⟨rfl, rfl, rfl, rfl, rfl, .tool _⟩
  have hfeatures : List.Forall₂ (Task.CallsAlike declared first second)
      (features.map (testTask ⟨first, package⟩)) (features.map (testTask ⟨second, package⟩)) := by
    rw [List.forall₂_map_left_iff, List.forall₂_map_right_iff, List.forall₂_same]
    exact fun combination _ => ⟨rfl, rfl, rfl, rfl, rfl, .tool _⟩
  have htasks := List.rel_append (List.rel_append hexamples hfeatures) hfixed
  -- both queues have the same ids, so an id comes twice in both or in none
  have hids := map_eq_map_of_forall₂ (fun _ _ hab => hab.id) htasks
  dsimp only at hids ⊢
  rw [hids]
  split
  · exact .error _
  · exact .ok htasks

/-- With two invocations that are not empty, the queue fails alike or has the same tasks up to the start
of their commands. -/
theorem queue_agrees (hfirst : first ≠ []) (hsecond : second ≠ []) (package : Option Arg)
    (examples : List String) (features : List FeatureSet) (declared : Option (List Value)) :
    Agrees (List.Forall₂ (Task.CallsAlike (declared.getD []) first second))
      (queue ⟨first, package⟩ examples features declared)
      (queue ⟨second, package⟩ examples features declared) := by
  cases declared with
  | none => exact expand_agrees hfirst hsecond FixedCheck.defaults_callsAlike
  | some values =>
    have hread : Agrees (List.Forall₂ (FixedCheck.CallsAlike values first second))
        (FixedCheck.readAll ⟨first, package⟩ values) (FixedCheck.readAll ⟨second, package⟩ values) :=
      FixedCheck.readFrom_agrees (fun _ hm => hm) 0
    exact hread.bind fun _ _ hchecks => expand_agrees hfirst hsecond hchecks

/-- An invocation that holds `cargo` itself, a declared command that is `cargo` alone, and one that does
not start with it. -/
theorem queue_agrees_cross :
    let lint := Value.map [(.text "id", .text "lint"), (.text "command", .text "cargo")]
    let publish := Value.map [(.text "id", .text "publish"),
      (.text "command", .list [.text "check-release", .text "cargo"])]
    let commands (first : List String) :=
      (queue ⟨first, none⟩ ["hello"] [] (some [lint, publish])).toOption.map (·.map Task.command)
    ["cargo"] ≠ [] ∧ ["cross", "cargo"] ≠ [] ∧
      commands ["cargo"] = some [
        Arg.ofTexts ["cargo", "run", "--release", "--all-features", "--example", "hello"],
        Arg.ofTexts ["cargo"], Arg.ofTexts ["check-release", "cargo"]] ∧
      commands ["cross", "cargo"] = some [
        Arg.ofTexts ["cross", "cargo", "run", "--release", "--all-features", "--example", "hello"],
        Arg.ofTexts ["cross", "cargo"], Arg.ofTexts ["check-release", "cargo"]] ∧
      Agrees (List.Forall₂ (Task.CallsAlike [lint, publish] ["cargo"] ["cross", "cargo"]))
        (queue ⟨["cargo"], none⟩ ["hello"] [] (some [lint, publish]))
        (queue ⟨["cross", "cargo"], none⟩ ["hello"] [] (some [lint, publish])) := by
  intro lint publish commands
  have hfirst : ["cargo"] ≠ [] := by decide
  have hsecond : ["cross", "cargo"] ≠ [] := by decide
  refine ⟨hfirst, hsecond, by decide +kernel, by decide +kernel, ?_⟩
  exact queue_agrees hfirst hsecond none ["hello"] [] (some [lint, publish])

end Plan

end Greenlight
