/-
This file says what is left of the environment where the arguments give the directory and
the nesting limit themselves and name no settings file. The arguments are read without a
look at the variables, and they replace the settings that the environment gives, so of two
environments that are accepted the same comes out. But the environment is checked before
anything is replaced: one that is refused ends the run, although nothing of it would have
been used. The message tells why, so two refused environments only give the same if they
are refused for the same reason.
-/

import ConsumerContract.CommandLine.Run
import ConsumerContract.Proofs.MadeDirectories

namespace ConsumerContract

/-! ### Messages -/

theorem Display.toList_unlines (lines : List String) :
    (unlines lines).toList = lines.flatMap fun line => line.toList ++ ['\n'] := by
  rw [unlines, String.toList_join, List.flatMap_map]
  simp only [String.toList_append]
  rfl

/-- Whatever stands behind a text, the whole begins as the text does. -/
theorem Display.begins_append {front : String} {char : Char}
    (begins : ∃ rest, front.toList = char :: rest) (behind : String) :
    ∃ rest, (front ++ behind).toList = char :: rest := by
  obtain ⟨rest, chars⟩ := begins
  exact ⟨rest ++ behind.toList, by rw [String.toList_append, chars, List.cons_append]⟩

namespace RunFailure

/-- Indenting can be undone: blanks are added behind ends of lines only. -/
theorem indented_injective (first others : String) : (indented first others).Injective := by
  intro text other same
  have kept (char : Char) : (if char = '\n' then '\n' :: others.toList else [char]) =
      char :: if char = '\n' then others.toList else [] := by
    by_cases ending : char = '\n'
    · rw [if_pos ending, if_pos ending, ending]
    · rw [if_neg ending, if_neg ending]
  have chars := congrArg String.toList same
  rw [indented, indented, String.toList_append, String.toList_append, String.toList_ofList,
    String.toList_ofList] at chars
  replace chars := List.append_cancel_left chars
  simp only [kept] at chars
  refine String.toList_injective ?_
  clear same
  generalize text.toList = front at chars ⊢
  generalize other.toList = front' at chars ⊢
  induction front generalizing front' with
  | nil =>
    cases front' with
    | nil => rfl
    | cons char rest => cases chars
  | cons char rest inductionHypothesis =>
    cases front' with
    | nil => cases chars
    | cons char' rest' =>
      obtain ⟨rfl, behind⟩ := List.cons.inj chars
      rw [inductionHypothesis rest' (List.append_cancel_left behind)]

theorem toList_message (failure : RunFailure) :
    failure.message.toList = "Error: ".toList ++ (failure.context.toList ++
      ("\n\nCaused by:\n".toList ++ (Display.unlines (causeLines failure.causes)).toList)) := by
  simp only [message, Display.toList_unlines, List.flatMap_append, List.flatMap_cons,
    String.toList_append, List.append_assoc]
  rfl

theorem message_ne_empty (failure : RunFailure) : failure.message ≠ "" := by
  intro same
  have chars := congrArg String.toList same
  rw [toList_message] at chars
  cases chars

/-- The message about a refused environment is the one about no other failure of the settings. -/
theorem message_environment_ne (problem other : SettingsProblem) :
    (environment problem).message ≠ (settings other).message := by
  intro same
  have doing : ∃ rest, (environment problem).context.toList =
      ['i', 'n', 'v', 'a', 'l', 'i', 'd', ' ', 'P'] ++ rest := ⟨_, String.toList_ofList⟩
  have doing' : ∃ rest, (settings other).context.toList =
      ['i', 'n', 'v', 'a', 'l', 'i', 'd', ' ', 'c'] ++ rest := ⟨_, String.toList_ofList⟩
  obtain ⟨rest, begins⟩ := doing
  obtain ⟨rest', begins'⟩ := doing'
  have chars := congrArg String.toList same
  rw [toList_message, toList_message, begins, begins', List.append_assoc, List.append_assoc]
    at chars
  exact absurd (List.append_inj_left (List.append_cancel_left chars) rfl) (by decide)

theorem message_environment_inj {problem other : SettingsProblem}
    (same : (environment problem).message = (environment other).message) :
    problem.message = other.message := by
  have chars := congrArg String.toList same
  rw [toList_message, toList_message] at chars
  have lines := List.append_cancel_left (List.append_cancel_left (List.append_cancel_left chars))
  rw [causes, causes, causeLines, causeLines, Display.toList_unlines, Display.toList_unlines,
    List.flatMap_singleton, List.flatMap_singleton] at lines
  exact indented_injective _ _ (String.toList_injective (List.append_cancel_right lines))

end RunFailure

namespace SettingsProblem

open Display (begins_append)

/-- The problem can be one of an environment, which is no document. -/
def IsPlain : SettingsProblem → Prop
  | malformed _ => False
  | _ => True

/-- The letter with which a message goes on behind what all of them begin with. -/
def letter : SettingsProblem → Char
  | malformed _ => 'f'
  | invalidDepth _ => 'P'
  | zeroDepth => 'm'
  | noDirectory => 'o'

theorem toList_message (problem : SettingsProblem) :
    ∃ rest, problem.message.toList =
      "Invalid configuration: ".toList ++ problem.letter :: rest := by
  suffices behind : ∃ text, problem.message = "Invalid configuration: " ++ text ∧
      ∃ rest, text.toList = problem.letter :: rest by
    obtain ⟨text, shown, rest, chars⟩ := behind
    exact ⟨rest, by rw [shown, String.toList_append, chars]⟩
  cases problem with
  | malformed fault =>
    exact ⟨"failed to parse configuration: " ++ fault.message, rfl,
      begins_append ⟨_, String.toList_ofList⟩ _⟩
  | invalidDepth text =>
    have name : ∃ rest, Settings.maxDepthVariable.toList = 'P' :: rest := ⟨_, String.toList_ofList⟩
    exact ⟨Settings.maxDepthVariable ++ " must be a positive integer, got '" ++ text ++ "'", rfl,
      begins_append (begins_append (begins_append name _) _) _⟩
  | zeroDepth => exact ⟨"maxDepth must be at least 1", rfl, _, String.toList_ofList⟩
  | noDirectory => exact ⟨"outputDir must not be empty", rfl, _, String.toList_ofList⟩

theorem letter_of_message {first second : SettingsProblem} (same : first.message = second.message) :
    first.letter = second.letter := by
  obtain ⟨rest, chars⟩ := first.toList_message
  obtain ⟨rest', chars'⟩ := second.toList_message
  rw [same, chars'] at chars
  exact (List.cons.inj (List.append_cancel_left chars)).1.symm

theorem text_of_message {text other : String}
    (same : (invalidDepth text).message = (invalidDepth other).message) : text = other := by
  have shown (text : String) : (invalidDepth text).message = "Invalid configuration: " ++
      (Settings.maxDepthVariable ++ " must be a positive integer, got '" ++ text ++ "'") := rfl
  rw [shown, shown, String.append_right_inj, String.append_left_inj, String.append_right_inj]
    at same
  exact same

/-- Plain problems are told apart by one letter, and by the text that is no number. -/
theorem eq_of_message {first second : SettingsProblem} (plain : first.IsPlain)
    (plain' : second.IsPlain) (same : first.message = second.message) : first = second := by
  have letters := letter_of_message same
  cases first with
  | malformed fault => exact plain.elim
  | invalidDepth text =>
    cases second with
    | malformed fault => exact plain'.elim
    | invalidDepth other => rw [text_of_message same]
    | _ => cases letters
  | zeroDepth =>
    cases second with
    | malformed fault => exact plain'.elim
    | zeroDepth => rfl
    | _ => cases letters
  | noDirectory =>
    cases second with
    | malformed fault => exact plain'.elim
    | noDirectory => rfl
    | _ => cases letters

end SettingsProblem

/-! ### Environments -/

namespace Settings

/-- What is wrong with the settings in an environment, if anything is. -/
def refusal? (environment : Environment) : Option SettingsProblem :=
  match ofEnvironment environment with
  | .error problem => some problem
  | .ok _ => none

theorem ofEnvironment_of_refused {environment : Environment} {problem : SettingsProblem}
    (refused : refusal? environment = some problem) :
    ofEnvironment environment = .error problem := by
  unfold refusal? at refused
  split at refused
  · rename_i found
    rw [found, Option.some.inj refused]
  · cases refused

theorem exists_ofEnvironment_of_accepted {environment : Environment}
    (accepted : refusal? environment = none) :
    ∃ settings, ofEnvironment environment = .ok settings := by
  unfold refusal? at accepted
  split at accepted
  · cases accepted
  · rename_i settings found
    exact ⟨settings, found⟩

/-- The first thing that is wrong decides. -/
theorem refusal?_eq (environment : Environment) :
    refusal? environment =
      match environmentDepth environment with
      | .error problem => some problem
      | .ok depth =>
        if depth = 0 then some .zeroDepth
        else if environment outputDirectoryVariable = some "" then some .noDirectory
        else none := by
  rw [refusal?, ofEnvironment]
  cases environmentDepth environment with
  | error problem => rfl
  | ok depth =>
    have standardNamed : standard.outputDirectory ≠ "" := by decide +kernel
    have named : (environment outputDirectoryVariable).getD standard.outputDirectory = "" ↔
        environment outputDirectoryVariable = some "" := by
      cases environment outputDirectoryVariable with
      | none => exact iff_of_false standardNamed nofun
      | some directory => exact Option.some_inj.symm
    by_cases zero : depth = 0
    · subst zero
      rfl
    · by_cases noName : environment outputDirectoryVariable = some ""
      · simp only [if_neg zero, if_pos noName, bind, Except.bind, check, if_pos (named.mpr noName)]
      · simp only [if_neg zero, if_neg noName, bind, Except.bind, check,
          if_neg (mt named.mp noName)]

theorem isPlain_of_refused {environment : Environment} {problem : SettingsProblem}
    (refused : refusal? environment = some problem) : problem.IsPlain := by
  rw [refusal?_eq] at refused
  split at refused
  · rename_i found
    rw [environmentDepth] at found
    split at found
    · cases found
    · split at found
      · cases found
      · rw [← Option.some.inj refused, ← Except.error.inj found]
        exact trivial
  · split_ifs at refused
    · rw [← Option.some.inj refused]
      exact trivial
    · rw [← Option.some.inj refused]
      exact trivial

end Settings

/-! ### Runs -/

theorem Arguments.ofList_of_given {given : GivenArguments} {arguments : List String}
    (read : GivenArguments.takeAll {} none false arguments = .ok given)
    (directory : given.outputDirectory.isSome) (depth : given.maxDepth.isSome)
    (environment : Environment) : Arguments.ofList environment arguments = given.complete := by
  have kept : given.setFromEnvironment environment .outputDirectory
      Settings.outputDirectoryVariable = .ok given := if_pos directory
  have kept' : given.setFromEnvironment environment .maxDepth
      Settings.maxDepthVariable = .ok given := if_pos depth
  rw [ofList, read]
  change (given.setFromEnvironment environment .outputDirectory
      Settings.outputDirectoryVariable >>= _) = _
  rw [kept]
  change (given.setFromEnvironment environment .maxDepth Settings.maxDepthVariable >>= _) = _
  rw [kept']
  rfl

section Runs

variable {σ : Type} (source : ExampleSource) (disk : Disk (StateM σ)) {environment : Environment}
  {list : List String} {arguments : Arguments} (before : σ)

/-- What a run comes to that replaces settings which are in order. -/
def Arguments.overriddenRun (arguments : Arguments) : RunOutcome × σ :=
  match (arguments.override .standard).check with
  | .error problem => ({ status := 1, errors := (RunFailure.settings problem).message }, before)
  | .ok settings =>
    let compiled := arguments.compile source disk settings before
    (arguments.outcome compiled.1, compiled.2)

/-- What a run comes to, by what is wrong with the environment. -/
def Arguments.comesTo (arguments : Arguments) : Option SettingsProblem → RunOutcome × σ
  | some problem =>
    ({ status := 1, errors := (RunFailure.environment problem).message }, before)
  | none => arguments.overriddenRun source disk before

theorem run_of_refused (read : Arguments.ofList environment list = .ok arguments)
    (noFile : arguments.settingsFile = none) {problem : SettingsProblem}
    (refused : Settings.refusal? environment = some problem) :
    runCommand source disk environment list before =
      arguments.comesTo source disk before (some problem) := by
  have set : arguments.settings disk environment before =
      (.error (.environment problem), before) := by
    rw [Arguments.settings, Arguments.baseSettings, noFile]
    dsimp only
    rw [Settings.ofEnvironment_of_refused refused]
    rfl
  rw [runCommand, read]
  dsimp only
  rw [run_bind set]
  rfl

theorem run_of_accepted (read : Arguments.ofList environment list = .ok arguments)
    (noFile : arguments.settingsFile = none) (directory : arguments.outputDirectory.isSome)
    (depth : arguments.maxDepth.isSome) (accepted : Settings.refusal? environment = none) :
    runCommand source disk environment list before =
      arguments.comesTo source disk before none := by
  obtain ⟨settings, found⟩ := Settings.exists_ofEnvironment_of_accepted accepted
  obtain ⟨directory, given⟩ := Option.isSome_iff_exists.mp directory
  obtain ⟨depth, given'⟩ := Option.isSome_iff_exists.mp depth
  have set : arguments.settings disk environment before =
      ((arguments.override settings).check.mapError .settings, before) := by
    rw [Arguments.settings, Arguments.baseSettings, noFile]
    dsimp only
    rw [found]
    rfl
  have overridden (settings : Settings) : arguments.override settings =
      { settings with outputDirectory := directory, maxDepth := depth } := by
    rw [Arguments.override, given, given']
    rfl
  rw [runCommand, read]
  dsimp only
  rw [run_bind set, Arguments.comesTo, Arguments.overriddenRun, overridden, overridden]
  by_cases zero : depth = 0
  · subst zero
    rfl
  · by_cases noName : directory = ""
    · simp only [Settings.check, if_neg zero, if_pos noName]
      rfl
    · simp only [Settings.check, if_neg zero, if_neg noName]
      rfl

/-- Where the arguments replace both settings, all that counts of an environment is what is wrong
with it. -/
theorem run_of_replaced (read : Arguments.ofList environment list = .ok arguments)
    (noFile : arguments.settingsFile = none) (directory : arguments.outputDirectory.isSome)
    (depth : arguments.maxDepth.isSome) :
    runCommand source disk environment list before =
      arguments.comesTo source disk before (Settings.refusal? environment) := by
  rcases refused : Settings.refusal? environment with _ | problem
  · exact run_of_accepted source disk before read noFile directory depth refused
  · exact run_of_refused source disk before read noFile refused

/-- No other run ends with the message about a refused environment. -/
theorem errors_overriddenRun_ne (problem : SettingsProblem) :
    (arguments.overriddenRun source disk before).1.errors ≠
      (RunFailure.environment problem).message := by
  rw [Arguments.overriddenRun]
  split
  · exact (RunFailure.message_environment_ne problem _).symm
  · exact (RunFailure.message_ne_empty _).symm

/-- What a run comes to tells what is wrong with the environment. -/
theorem eq_of_comesTo {first second : Option SettingsProblem}
    (plain : ∀ problem ∈ first, problem.IsPlain) (plain' : ∀ problem ∈ second, problem.IsPlain)
    (same : arguments.comesTo source disk before first =
      arguments.comesTo source disk before second) : first = second := by
  have errors := congrArg (fun run => run.1.errors) same
  cases first with
  | none =>
    cases second with
    | none => rfl
    | some other => exact absurd errors (errors_overriddenRun_ne source disk before other)
  | some problem =>
    cases second with
    | none => exact absurd errors.symm (errors_overriddenRun_ne source disk before problem)
    | some other =>
      rw [SettingsProblem.eq_of_message (plain problem rfl) (plain' other rfl)
        (RunFailure.message_environment_inj errors)]

/-- The arguments give the directory and the nesting limit and name no settings file. Then a run
comes to the same in two environments exactly if both are accepted or both are refused for the same
reason, or if there is no path to go on with. -/
theorem runCommand_of_overridden (arguments : List String) (given : GivenArguments)
    (read : GivenArguments.takeAll {} none false arguments = .ok given)
    (directory : given.outputDirectory.isSome) (depth : given.maxDepth.isSome)
    (noFile : given.settingsFile = none) (first second : Environment) :
    runCommand source disk first arguments before =
        runCommand source disk second arguments before ↔
      given.path = none ∨ Settings.refusal? first = Settings.refusal? second := by
  have readFirst := Arguments.ofList_of_given read directory depth first
  have readSecond := Arguments.ofList_of_given read directory depth second
  rcases noPath : given.path with _ | path
  · have missing : given.complete = GivenArguments.refuse .missingPath := by
      rw [GivenArguments.complete, noPath]
    rw [runCommand, runCommand, readFirst, readSecond, missing]
    exact iff_of_true rfl (Or.inl rfl)
  · obtain ⟨whole, complete, sameDirectory, sameDepth, sameFile⟩ : ∃ whole,
        given.complete = .ok whole ∧ whole.outputDirectory = given.outputDirectory ∧
          whole.maxDepth = given.maxDepth ∧ whole.settingsFile = given.settingsFile := by
      rw [GivenArguments.complete, noPath]
      exact ⟨_, rfl, rfl, rfl, rfl⟩
    rw [complete] at readFirst readSecond
    rw [← sameDirectory] at directory
    rw [← sameDepth] at depth
    rw [← sameFile] at noFile
    rw [or_iff_right (Option.some_ne_none path),
      run_of_replaced source disk before readFirst noFile directory depth,
      run_of_replaced source disk before readSecond noFile directory depth]
    constructor
    · exact eq_of_comesTo source disk before (fun _ => Settings.isPlain_of_refused)
        (fun _ => Settings.isPlain_of_refused)
    · intro same
      rw [same]

end Runs

/-- A limit with blanks around it and a directory are accepted and come to nothing. A limit that is
no number is refused, and so the run ends, although it was given another one. -/
theorem runCommand_of_overridden_of_limits :
    let source : ExampleSource := ⟨fun _ => 0, default⟩
    let tree : FileTree := ⟨[(["in"], .directory)], []⟩
    let list := ["in", "--out-dir", "out", "--max-depth", "5"]
    let environment (limit : String) : Environment
      | "PACT_MAX_DEPTH" => some limit
      | "PACT_OUTPUT_DIR" => some "elsewhere"
      | _ => none
    runCommand source FileTree.disk (environment " 7 ") list tree =
        runCommand source FileTree.disk (fun _ => none) list tree ∧
      runCommand source FileTree.disk (environment "deep") list tree ≠
        runCommand source FileTree.disk (fun _ => none) list tree := by
  intro source tree list environment
  have read : GivenArguments.takeAll {} none false list = .ok
      { path := some "in", outputDirectory := some "out", maxDepth := some 5 } := by
    decide +kernel
  have overridden (first second : Environment) :=
    runCommand_of_overridden source FileTree.disk tree list _ read rfl rfl rfl first second
  have accepted : Settings.refusal? (environment " 7 ") = Settings.refusal? fun _ => none := by
    decide +kernel
  have refused : Settings.refusal? (environment "deep") ≠ Settings.refusal? fun _ => none := by
    decide +kernel
  refine ⟨(overridden _ _).mpr (Or.inr accepted), mt (overridden _ _).mp ?_⟩
  exact not_or.mpr ⟨Option.some_ne_none _, refused⟩

/-- A variable that the arguments replace decides whether anything is compiled. -/
theorem replaced_limit_decides :
    let source : ExampleSource := ⟨fun _ => 0, default⟩
    let tree : FileTree := ⟨[(["in"], .directory)], []⟩
    let list := ["in", "--out-dir", "out", "--max-depth", "5"]
    let environment : Environment := fun name =>
      if name = "PACT_MAX_DEPTH" then some "deep" else none
    (runCommand source FileTree.disk environment list tree).1.status = 1 ∧
      (runCommand source FileTree.disk (fun _ => none) list tree).1.status = 0 := by
  decide +kernel

end ConsumerContract
