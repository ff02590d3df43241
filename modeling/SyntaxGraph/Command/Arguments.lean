/-!
# Command-line arguments

Options begin with a dash. A long option may carry its value behind an equals sign; short options
may stand together, and the last of them may carry its value. An option that needs a value takes
the next argument, whatever it is. After a double dash nothing is an option.
-/
namespace SyntaxGraph

/-- What a path on the command line may lead to. -/
structure PathRule where
  mustExist : Bool := false
  mayBeFile : Bool := true
  mayBeDir : Bool := true
deriving DecidableEq

/-- What the value of an option has to be. -/
inductive ValueRule
  | path (rule : PathRule)
  | integer
deriving DecidableEq

/-- An option of a command; an option without a rule takes no value. -/
structure OptionSpec where
  key : String
  long : String
  short : Option Char := none
  rule : Option ValueRule := none
deriving DecidableEq

def OptionSpec.takesValue (spec : OptionSpec) : Bool := spec.rule.isSome

inductive UsageError
  | unknownOption (name : String)
  | missingValue (name : String)
  | unexpectedValue (name : String)
  | missingArgument
  | extraArgument (argument : String)
  | badArgument (argument : String)
  | missingCommand
  | unknownCommand (name : String)
deriving DecidableEq

def UsageError.message : UsageError → String
  | .unknownOption name => s!"No such option: {name}"
  | .missingValue name => s!"Option '{name}' requires an argument."
  | .unexpectedValue name => s!"Option '{name}' does not take a value."
  | .missingArgument => "Missing argument."
  | .extraArgument argument => s!"Got unexpected extra argument ({argument})"
  | .badArgument argument => s!"Invalid value: {argument}"
  | .missingCommand => "Missing command."
  | .unknownCommand name => s!"No such command '{name}'."

/-- The options and the other arguments that were given, in their order. -/
structure Given where
  options : List (String × String) := []
  arguments : List String := []
deriving DecidableEq

namespace Given

def withOptions (given : Given) (options : List (String × String)) : Given :=
  { given with options := options ++ given.options }

def withArgument (given : Given) (argument : String) : Given :=
  { given with arguments := argument :: given.arguments }

def has (given : Given) (key : String) : Bool :=
  (given.options.lookup key).isSome

def value? (given : Given) (key : String) : Option String :=
  -- The last value counts.
  given.options.reverse.lookup key

/-- The keys of the options that were given, in the order in which they came first. -/
def keys (given : Given) : List String :=
  (given.options.map (·.1)).eraseDups

end Given

/-- Options read from one argument, and the option that still needs a value. -/
structure OptionRun where
  options : List (String × String) := []
  pending : Option OptionSpec := none

def readShort (specs : List OptionSpec) : List Char → Except UsageError OptionRun
  | [] => .ok {}
  | c :: rest =>
    match specs.find? fun spec => spec.short = some c with
    | none => .error (.unknownOption (String.ofList ['-', c]))
    | some spec =>
      if spec.takesValue then
        if rest.isEmpty then .ok { pending := some spec }
        -- What follows the letter is the value, and no more options.
        else .ok { options := [(spec.key, String.ofList rest)] }
      else do
        let run ← readShort specs rest
        return { run with options := (spec.key, "") :: run.options }

def readOption (specs : List OptionSpec) (argument : List Char) : Except UsageError OptionRun :=
  let name := String.ofList (argument.takeWhile (· ≠ '='))
  let value? := match argument.dropWhile (· ≠ '=') with
    | [] => none
    | _ :: value => some (String.ofList value)
  match specs.find? fun spec => spec.long = name, value? with
  | some spec, some value =>
    if spec.takesValue then .ok { options := [(spec.key, value)] }
    else .error (.unexpectedValue name)
  | some spec, none =>
    if spec.takesValue then .ok { pending := some spec }
    else .ok { options := [(spec.key, "")] }
  | none, _ =>
    match argument with
    -- Only a single dash may begin several options.
    | '-' :: '-' :: _ => .error (.unknownOption name)
    | _ => readShort specs (argument.drop 1)

def looksLikeOption (argument : String) : Bool :=
  match argument.toList with
  | '-' :: _ :: _ => true
  | _ => false

/-- Reads arguments; options may stand behind other arguments if they are `mixed`. -/
def readArguments (specs : List OptionSpec) (mixed : Bool) :
    List String → Except UsageError Given
  | [] => .ok {}
  | argument :: rest =>
    if argument = "--" then .ok { arguments := rest }
    else if looksLikeOption argument then
      match readOption specs argument.toList with
      | .error e => .error e
      | .ok { options, pending := none } =>
        (readArguments specs mixed rest).map (·.withOptions options)
      | .ok { options, pending := some spec } =>
        match rest with
        | [] => .error (.missingValue spec.long)
        -- The value may look like an option.
        | value :: rest =>
          (readArguments specs mixed rest).map (·.withOptions (options ++ [(spec.key, value)]))
    else if mixed then (readArguments specs mixed rest).map (·.withArgument argument)
    -- Options behind the first argument are left for others.
    else .ok { arguments := argument :: rest }

end SyntaxGraph
