import RetainerTable.CommandLine.Request

namespace RetainerTable.CommandLine

variable {command : Command} {option : OptionName} {options : List OptionName} {inputs : Inputs}

/-- The option in long form, its value after an equals sign. -/
def OptionName.withValue (option : OptionName) (value : String) : String :=
  "--" ++ option.long ++ "=" ++ value

namespace Inputs

/-- The inputs as arguments. -/
def arguments (inputs : Inputs) : List String :=
  OptionName.manifest.withValue inputs.manifest ::
    (inputs.settings.toList.map OptionName.settings.withValue ++
      if inputs.vectorizeInheritance then ["--vectorize-inheritance"] else [])

/-- The options that these arguments give. -/
def given (inputs : Inputs) : List Given :=
  (.manifest, inputs.manifest) :: (inputs.settings.toList.map (OptionName.settings, ·) ++
    if inputs.vectorizeInheritance then [(.vectorizeInheritance, "")] else [])

end Inputs

private theorem find?_long (hoption : option ∈ command.options) :
    command.options.find? (·.long = option.long) = some option := by
  revert hoption
  cases command <;> cases option <;> decide

/-- What stands before the equals sign is the name of the option, what stands after it the value. -/
theorem readWord_withValue {first : Char} {rest : List Char} (hoption : option ∈ command.options)
    (htakes : option.takesValue = true) :
    readWord command.options (option.long.toList ++ '=' :: first :: rest) =
      some ⟨[(option, String.ofList (first :: rest))], none⟩ := by
  have hplain : ∀ c ∈ option.long.toList, decide (c ≠ '=') = true := by
    cases option <;> simp [OptionName.long]
  have hname : (option.long.toList ++ '=' :: first :: rest).takeWhile (· ≠ '=') =
      option.long.toList := by
    rw [List.takeWhile_append_of_pos hplain, List.takeWhile_cons_of_neg (by simp), List.append_nil]
  have hvalue : (option.long.toList ++ '=' :: first :: rest).dropWhile (· ≠ '=') =
      '=' :: first :: rest := by
    rw [List.dropWhile_append_of_pos hplain, List.dropWhile_cons_of_neg (by simp)]
  unfold readWord
  simp only [hname, hvalue, String.ofList_toList, find?_long hoption, htakes]

private theorem readArgument_withValue {value : String} (hoption : option ∈ command.options)
    (htakes : option.takesValue = true) (hvalue : value ≠ "") :
    readArgument command.options (option.withValue value) = some ⟨[(option, value)], none⟩ := by
  obtain ⟨first, rest, hletters⟩ := List.exists_cons_of_ne_nil (mt String.toList_eq_nil_iff.mp hvalue)
  have hword : readWord command.options (option.long.toList ++ '=' :: first :: rest) = _ :=
    readWord_withValue hoption htakes
  rw [← hletters, String.ofList_toList] at hword
  have htext : (option.withValue value).toList =
      '-' :: '-' :: (option.long.toList ++ '=' :: value.toList) := by
    simp [OptionName.withValue]
  rw [← hword, readArgument, htext]
  cases option <;> rfl

/-- An option with its value in the same argument is read, then the other arguments. -/
theorem readArguments_withValue {value : String} (hoption : option ∈ command.options)
    (htakes : option.takesValue = true) (hvalue : value ≠ "") (arguments : List String) :
    readArguments command.options none (option.withValue value :: arguments) =
      (readArguments command.options none arguments).map ((option, value) :: ·) := by
  have hargument := readArgument_withValue hoption htakes hvalue
  have hhelp : asksForHelp [(option, value)] = false := by
    cases option <;> first | rfl | cases htakes
  have hdashes : option.withValue value = "--" → arguments ≠ [] := by
    intro heq
    rw [heq] at hargument
    cases hargument
  rw [readArguments, hargument]
  · simp only [hhelp, Bool.false_eq_true, if_false, List.singleton_append]
  · exact hdashes

private theorem readArguments_arguments (command : Command) (hmanifest : inputs.manifest ≠ "")
    (hsettings : inputs.settings ≠ some "") :
    readArguments command.options none inputs.arguments = some inputs.given := by
  have hnamed : ∀ option ∈ [OptionName.manifest, .settings], option ∈ command.options := by
    cases command <;> decide
  have hflag : readArguments command.options none
      (if inputs.vectorizeInheritance then ["--vectorize-inheritance"] else []) =
        some (if inputs.vectorizeInheritance then [(.vectorizeInheritance, "")] else []) := by
    cases inputs.vectorizeInheritance <;> cases command <;> decide
  rw [Inputs.arguments, Inputs.given, readArguments_withValue (hnamed _ (by simp)) rfl hmanifest]
  cases hpath : inputs.settings with
  | none =>
    rw [Option.toList_none, List.map_nil, List.nil_append, hflag]
    rfl
  | some path =>
    have hne : path ≠ "" := by
      rintro rfl
      exact hsettings hpath
    rw [Option.toList_some, List.map_singleton, List.singleton_append,
      readArguments_withValue (hnamed _ (by simp)) rfl hne, hflag]
    rfl

/-- Paths that are not empty can be asked for, whatever else they are. -/
theorem ofArguments?_arguments (hmanifest : inputs.manifest ≠ "")
    (hsettings : inputs.settings ≠ some "") :
    Request.ofArguments? ("resolve" :: inputs.arguments) = some (.resolve inputs) ∧
    Request.ofArguments? ("generate" :: inputs.arguments) = some (.generate inputs none) ∧
    ∀ out, out ≠ "" →
      Request.ofArguments? ("generate" :: OptionName.out.withValue out :: inputs.arguments) =
        some (.generate inputs (some out)) := by
  have hgiven := fun command => readArguments_arguments command hmanifest hsettings
  refine ⟨?_, ?_, fun out hout => ?_⟩
  · change Command.resolve.request? inputs.arguments = _
    rw [Command.request?, hgiven]
    obtain ⟨manifest, settings, flag⟩ := inputs
    cases settings <;> cases flag <;> rfl
  · change Command.generate.request? inputs.arguments = _
    rw [Command.request?, hgiven]
    obtain ⟨manifest, settings, flag⟩ := inputs
    cases settings <;> cases flag <;> rfl
  · change Command.generate.request? (OptionName.out.withValue out :: inputs.arguments) = _
    have hnamed : OptionName.out ∈ Command.generate.options := by decide
    rw [Command.request?, readArguments_withValue hnamed rfl hout, hgiven]
    obtain ⟨manifest, settings, flag⟩ := inputs
    cases settings <;> cases flag <;> rfl

end RetainerTable.CommandLine
