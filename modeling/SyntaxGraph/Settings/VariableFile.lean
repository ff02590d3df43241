import SyntaxGraph.Settings.Storage
import SyntaxGraph.Text.Digit

/-!
# Files of variables

A file of variables has lines such as `NAME=value`. A line may begin with `export`, and a number
sign after a blank begins a comment. A value in quotes may hold line ends and escapes. A value may
refer to other variables, as in `${NAME}` or `${NAME:-default}`. A line that makes no sense is
skipped. Variables of the environment are never overridden.
-/
namespace SyntaxGraph

/-- What a line does: it gives a variable a value, or takes its value away. -/
abbrev Binding := String × Option String

namespace VariableFile

/-! ### Lines -/

def isLineEnd (c : Char) : Bool := c = '\n' || c = '\r'

def isInnerBlank (c : Char) : Bool := Text.isBlank c && !isLineEnd c

def skipInner (text : List Char) : List Char := text.dropWhile isInnerBlank

def skipLine (text : List Char) : List Char := (text.dropWhile (!isLineEnd ·)).drop 1

/-- What follows the end of a line, if the line ends here but for blanks and a comment. -/
def endLine? (text : List Char) : Option (List Char) :=
  match skipInner text with
  | [] => some []
  | c :: rest => if c = '#' then some (skipLine rest) else if isLineEnd c then some rest else none

/-! ### Names -/

/-- What follows the word that may stand before a name. -/
def skipExport (text : List Char) : List Char :=
  match text with
  | 'e' :: 'x' :: 'p' :: 'o' :: 'r' :: 't' :: c :: rest =>
    if isInnerBlank c then skipInner rest else text
  | _ => text

def isNameChar (c : Char) : Bool := c ≠ '=' && c ≠ '#' && !Text.isBlank c

def nameOf? (name : List Char) : Option String :=
  if name.isEmpty then none else some (String.ofList name)

/-- A name, in single quotes or without, and what follows it. -/
def readName? (text : List Char) : Option (String × List Char) :=
  match text with
  | '\'' :: rest =>
    match rest.dropWhile (· ≠ '\'') with
    | [] => none
    | _ :: after => (nameOf? (rest.takeWhile (· ≠ '\''))).map fun name => (name, after)
  | text =>
    (nameOf? (text.takeWhile isNameChar)).map fun name => (name, text.dropWhile isNameChar)

/-! ### Values -/

/-- A quoted text behind its opening quote, and what follows the quote that closes it. -/
def readQuoted? (quote : Char) : List Char → Option (List Char × List Char)
  | [] => none
  | [c] => if c = quote then some ([], []) else none
  | c :: d :: rest =>
    if c = quote then some ([], d :: rest)
    -- A quote behind a backslash closes nothing.
    else if c = '\\' then
      (readQuoted? quote rest).map fun (value, after) => (c :: d :: value, after)
    else (readQuoted? quote (d :: rest)).map fun (value, after) => (c :: value, after)

def singleEscapes : List (Char × Char) := [('\\', '\\'), ('\'', '\'')]

def doubleEscapes : List (Char × Char) :=
  singleEscapes ++ [('"', '"'), ('a', Char.ofNat 7), ('b', Char.ofNat 8), ('f', Char.ofNat 12),
    ('n', '\n'), ('r', '\r'), ('t', '\t'), ('v', Char.ofNat 11)]

def resolveEscapes (escapes : List (Char × Char)) : List Char → List Char
  | [] => []
  | [c] => [c]
  | '\\' :: d :: rest =>
    match escapes.lookup d with
    | some c => c :: resolveEscapes escapes rest
    -- What is no escape stays as it is, with its backslash.
    | none => '\\' :: resolveEscapes escapes (d :: rest)
  | c :: rest => c :: resolveEscapes escapes rest

/-- The text before a comment; a comment begins with a number sign after blanks. -/
def dropComment : List Char → List Char
  | [] => []
  | c :: rest =>
    if Text.isBlank c && (rest.dropWhile Text.isBlank).head? = some '#' then []
    else c :: dropComment rest

def strip (text : List Char) : List Char :=
  ((text.dropWhile Text.isBlank).reverse.dropWhile Text.isBlank).reverse

def readValue? (text : List Char) : Option (String × List Char) :=
  match skipInner text with
  | '\'' :: rest => (readQuoted? '\'' rest).map fun (value, after) =>
      (String.ofList (resolveEscapes singleEscapes value), after)
  | '"' :: rest => (readQuoted? '"' rest).map fun (value, after) =>
      (String.ofList (resolveEscapes doubleEscapes value), after)
  | _ =>
    -- Without quotes the value ends with the line.
    some (String.ofList (strip (dropComment (text.takeWhile (!isLineEnd ·)))),
      text.dropWhile (!isLineEnd ·))

def readOptionalValue? (text : List Char) : Option (Option String × List Char) :=
  match skipInner text with
  | '=' :: rest => (readValue? rest).map fun (value, after) => (some value, after)
  -- A name alone takes the value of the variable away.
  | rest => some (none, rest)

/-! ### Whole files -/

/-- What a text does first, and what follows it; a line that makes no sense does nothing. -/
def readBinding (text : List Char) : Option Binding × List Char :=
  match readName? (skipExport text) with
  | none => (none, skipLine text)
  | some (name, rest) =>
    match readOptionalValue? rest with
    -- What was read of the line stays read: the rest of the last line is skipped.
    | none => (none, skipLine rest)
    | some (value, rest) =>
      match endLine? rest with
      | some rest => (some (name, value), rest)
      | none => (none, skipLine rest)

/-- What a text does, at most as many lines as there is fuel. -/
def readBindings : Nat → List Char → List Binding
  | 0, _ => []
  | fuel + 1, text =>
    match text.dropWhile Text.isBlank with
    | [] => []
    | text =>
      let (found, rest) := readBinding text
      found.toList ++ readBindings fuel rest

def byteOrderMark : Char := Char.ofNat 0xFEFF

def read (text : List Char) : List Binding :=
  let text := if text.head? = some byteOrderMark then text.drop 1 else text
  readBindings (text.length + 1) text

/-! ### References -/

/-- A reference behind its dollar sign and opening bracket: the name, the default, and what
follows. -/
def readReference? (text : List Char) : Option (String × String × List Char) :=
  let name := String.ofList (text.takeWhile fun c => c ≠ '\x7d' && c ≠ ':')
  match text.dropWhile fun c => c ≠ '\x7d' && c ≠ ':' with
  | '\x7d' :: rest => some (name, "", rest)
  | ':' :: '-' :: rest =>
    match rest.dropWhile (· ≠ '\x7d') with
    | [] => none
    | _ :: after => some (name, String.ofList (rest.takeWhile (· ≠ '\x7d')), after)
  -- A colon without a dash does not belong to a name.
  | _ => none

def expand (meaning : String → String → String) : Nat → List Char → List Char
  | 0, text => text
  | _, [] => []
  | fuel + 1, '$' :: '\x7b' :: rest =>
    match readReference? rest with
    | some (name, default, after) => (meaning name default).toList ++ expand meaning fuel after
    | none => '$' :: expand meaning fuel ('\x7b' :: rest)
  | fuel + 1, c :: rest => c :: expand meaning fuel rest

/-- What a name in a reference stands for: what the environment says, or else what the file said
before, or else the default. -/
def meaningOf (env : List (String × String)) (known : List Binding) (name default : String) :
    String :=
  match env.lookup name, known.lookup name with
  | some value, _ => value
  | none, some (some value) => value
  -- A variable without a value stands for nothing, not for the default.
  | none, some none => ""
  | none, none => default

/-- The variables after what a file does, the latest first; `known` are those before. -/
def resolve (env : List (String × String)) (known : List Binding) : List Binding → List Binding
  | [] => known
  | (name, none) :: rest => resolve env ((name, none) :: known) rest
  | (name, some value) :: rest =>
    let expanded := expand (meaningOf env known) value.length value.toList
    resolve env ((name, some (String.ofList expanded)) :: known) rest

end VariableFile

/-! ### Variables in the environment -/

/-- Why a variable cannot be set, if it cannot: neither name nor value may hold a null character, no
name may hold an equals sign, and no name is empty. -/
def checkVariable (name value : String) : Except Fault Unit :=
  if (name ++ value).toList.contains (Char.ofNat 0) || name.toList.contains '=' then
    .error .badValue
  else if name = "" then .error .namelessVariable
  else .ok ()

def latestBindings : List Binding → List Binding
  | [] => []
  | (name, value) :: rest => (name, value) :: (latestBindings rest).filter (·.1 ≠ name)

/-- The environment together with what a file does to it. -/
def Environment.withBindings (env : Environment) (bindings : List Binding) :
    Except Fault Environment := do
  let latest := latestBindings (VariableFile.resolve env [] bindings)
  -- Variables that are set stay as they are.
  let new := latest.filterMap fun (name, value?) =>
    if (env.lookup name).isSome then none else value?.map fun value => (name, value)
  new.forM fun (name, value) => checkVariable name value
  return env ++ new

def disablingVariable : String := "PYTHON_DOTENV_DISABLED"

/-- Whether a text turns files of variables off, in whatever case. -/
def turnsOff (text : String) : Bool :=
  -- The long one is an `s` as well when cases are ignored.
  let folded := (Text.lower text).toList.map fun c => if c.toNat = 0x17F then 's' else c
  ["1", "true", "t", "yes", "y"].contains (String.ofList folded)

namespace VariableFile

/-- The environment together with the variables in a file, if there is one and files of variables
are not turned off. The path of the file is taken as it is written. -/
def load (fs : FileSystem) (env : Environment) (path : String) : Except Fault Environment :=
  if (env.lookup disablingVariable).any turnsOff then .ok env
  else
    match fs.getWritten path with
    | .ok (.file bytes) => do
      let chars ← (Text.decodeUtf8 bytes).mapError .undecodable
      env.withBindings (read (Text.unifyNewlines chars))
    -- Other paths that lead nowhere are passed over.
    | .error .nulCharacter => .error (.file .nulCharacter path)
    | _ => .ok env

/-- The reader of files that are written as above. -/
def reader (found? : FileSystem → Option String) : VariableReader := ⟨found?, load⟩

end VariableFile

end SyntaxGraph
