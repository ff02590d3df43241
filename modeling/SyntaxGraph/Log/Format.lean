import SyntaxGraph.Log
import SyntaxGraph.Text.Digit
import SyntaxGraph.Text.Numeral
import SyntaxGraph.Text.Tails

/-!
# The form of log lines

The form of a log line is a text with fields such as `%(levelname)-8s`: which part of the record
stands there, how wide it is, and how it is written. A doubled percent sign stands for one. A field
without a key stands for the record as a whole; only the first field may do without.
-/
namespace SyntaxGraph

structure LogField where
  key : Option String
  flags : List Char := []
  width : Nat := 0
  limit : Option Nat := none
  form : Char
deriving DecidableEq

inductive LogPiece
  | char (c : Char)
  | field (field : LogField)
deriving DecidableEq

/-- A part of a record: a string, a number, or something else that can only be spelled out. -/
inductive LogValue
  | text (codes : List Text.CodePoint)
  | int (value : Int) (spelling : String)
  | real (value : Json.Real)
  | other (spelling : String)

namespace LogValue

def ofText (text : String) : LogValue := .text (Text.codePoints text)

def ofJson : Json → LogValue
  | .str content => ofText content
  | .broken codes => .text codes
  | .int n => .int n (Json.int n).literal
  | .bool value => .int (if value then 1 else 0) (Json.bool value).literal
  | .real value => .real value
  | value => .other value.literal

def spelling : LogValue → String
  | .text codes => Text.quotedCodes codes
  | .int _ spelling | .other spelling => spelling
  | .real value => Json.realLiteral value

/-- The integer in a value: places behind the point are cut off. -/
def whole? : LogValue → Option Int
  | .int n _ => some n
  | .real value => value.ratio?.map fun (num, den) => num.tdiv den
  | .text _ | .other _ => none

/-- The double precision number that is nearest to a value, unless it is too large for one. -/
def real? : LogValue → Option Json.Real
  | .int n _ =>
    match Json.Real.ofSignedRatio n 1 with
    -- An integer may be too large for a double.
    | .infinity _ => none
    | value => some value
  | .real value => some value
  | .text _ | .other _ => none

end LogValue

namespace LogField

def numberOf (digits : List Char) : Nat :=
  digits.foldl (fun n c => 10 * n + (c.toNat - '0'.toNat)) 0

def isFlag (c : Char) : Bool :=
  "#0+ -".toList.contains c

def has (field : LogField) (flag : Char) : Bool :=
  field.flags.contains flag

/-! ### Reading -/

/-- A key up to the bracket that closes it, and what follows; `depth` counts the open brackets
inside. -/
def readKey? (depth : Nat) : List Char → Option (List Char × List Char)
  | [] => none
  | c :: rest =>
    if c = ')' && depth = 0 then some ([], rest)
    else
      let depth := if c = '(' then depth + 1 else if c = ')' then depth - 1 else depth
      (readKey? depth rest).map fun (key, rest) => (c :: key, rest)

def readOptionalKey? (text : List Char) : Option (Option String × List Char) :=
  match text with
  | '(' :: rest => (readKey? 0 rest).map fun (key, rest) => (some (String.ofList key), rest)
  | rest => some (none, rest)

/-- The greatest length of a field, if one is given. -/
def readLimit (rest : List Char) : Option Nat × List Char :=
  match rest with
  -- A point alone stands for zero.
  | '.' :: rest => (some (numberOf (rest.takeWhile Char.isDigit)), rest.dropWhile Char.isDigit)
  | rest => (none, rest)

/-- What follows a letter that tells the size of a number and means nothing. -/
def dropSize (rest : List Char) : List Char :=
  match rest with
  | 'h' :: rest | 'l' :: rest | 'L' :: rest => rest
  | rest => rest

def read? (text : List Char) : Option (LogField × List Char) := do
  let (key, rest) ← readOptionalKey? text
  let flags := rest.takeWhile isFlag
  let rest := rest.dropWhile isFlag
  let width := numberOf (rest.takeWhile Char.isDigit)
  let (limit, rest) := readLimit (rest.dropWhile Char.isDigit)
  match dropSize rest with
  | form :: rest => some ({ key, flags, width, limit, form }, rest)
  | [] => none

/-! ### Writing -/

def maxWidth : Nat := 10000000

def maxLimit : Nat := 2147483647

/-- Fills a string up to the width of the field. -/
def fill (field : LogField) (body : List Text.CodePoint) : List Text.CodePoint :=
  let blanks := List.replicate (field.width - body.length) (Text.CodePoint.char ' ')
  if field.has '-' then body ++ blanks else blanks ++ body

/-- Writes a string into the field, no longer than the field allows. -/
def writeCodes (field : LogField) (codes : List Text.CodePoint) : List Text.CodePoint :=
  field.fill (match field.limit with
    | some limit => codes.take limit
    | none => codes)

def writeText (field : LogField) (text : String) : List Text.CodePoint :=
  field.writeCodes (Text.codePoints text)

def signOf (field : LogField) (negative : Bool) : List Char :=
  if negative then ['-'] else if field.has '+' then ['+'] else if field.has ' ' then [' '] else []

/-- Writes a numeral into the field, behind a sign and the mark of its base; zeros that fill the
field up stand between. -/
def writeNumeral (field : LogField) (negative : Bool) (mark numeral : List Char) :
    List Text.CodePoint :=
  let front := field.signOf negative ++ if field.has '#' then mark else []
  let missing := field.width - (front.length + numeral.length)
  -- Zeros go between the sign and the numeral, and only to the left.
  let zeros := if field.has '0' && !field.has '-' then Text.zeros missing else []
  field.fill ((front ++ zeros ++ numeral).map .char)

def writeInt? (field : LogField) (base : Nat) (mark : List Char) (upper : Bool) (value : Int) :
    Option (List Text.CodePoint) :=
  let atLeast := field.limit.getD 0
  -- A limit is the least number of digits here.
  if maxWidth < atLeast then none
  else
    let digits := Text.digitsIn base atLeast value.natAbs
    some (field.writeNumeral (value < 0) mark (if upper then digits.map Char.toUpper else digits))

/-- How many places a number has if nobody says. -/
def usualPlaces : Nat := 6

/-- Writes a double precision number into the field, with a numeral for its size. -/
def writeReal? (field : LogField) (numeral : Bool → Nat → Nat → Nat → List Char) (upper : Bool)
    (value : Json.Real) : Option (List Text.CodePoint) :=
  let places := field.limit.getD usualPlaces
  let name (small capital : String) := (if upper then capital else small).toList
  if maxWidth < places then none
  else
    match value with
    | .finite negative digits exponent =>
      let (num, den) := Json.Real.sizeOf digits exponent
      some (field.writeNumeral negative [] (numeral (field.has '#') places num den))
    | .infinity negative => some (field.writeNumeral negative [] (name "inf" "INF"))
    | .nan => some (field.writeNumeral false [] (name "nan" "NAN"))

def writeCode? (field : LogField) (code : Int) : Option (List Text.CodePoint) :=
  if 0 ≤ code && code < 0x110000 then some (field.fill [.ofNat code.toNat]) else none

def writeOnly? (field : LogField) (codes : List Text.CodePoint) : Option (List Text.CodePoint) :=
  match codes with
  | [code] => some (field.fill [code])
  | _ => none

/-- Writes a value into the field in one of the forms for numbers. Only integers have a numeral in
a base other than ten. -/
def writeNumber? (field : LogField) (value : LogValue) : Option (List Text.CodePoint) :=
  match field.form, value with
  | 'd', value | 'i', value | 'u', value => value.whole?.bind (field.writeInt? 10 [] false)
  | 'o', .int n _ => field.writeInt? 8 ['0', 'o'] false n
  | 'x', .int n _ => field.writeInt? 16 ['0', 'x'] false n
  | 'X', .int n _ => field.writeInt? 16 ['0', 'X'] true n
  | 'f', value => value.real?.bind (field.writeReal? Text.fixedNumeral false)
  | 'F', value => value.real?.bind (field.writeReal? Text.fixedNumeral true)
  | 'e', value => value.real?.bind (field.writeReal? (Text.scientificNumeral 'e') false)
  | 'E', value => value.real?.bind (field.writeReal? (Text.scientificNumeral 'E') true)
  | 'g', value => value.real?.bind (field.writeReal? (Text.shorterNumeral 'e') false)
  | 'G', value => value.real?.bind (field.writeReal? (Text.shorterNumeral 'E') true)
  | _, _ => none

def write? (field : LogField) (value : LogValue) : Option (List Text.CodePoint) :=
  if maxWidth < field.width || maxLimit < field.limit.getD 0 then none
  else
    match field.form, value with
    | 's', .text codes => some (field.writeCodes codes)
    -- What is no text is spelled out as in a message.
    | 's', value | 'r', value => some (field.writeText value.spelling)
    | 'a', value => some (field.writeText (Text.inAscii value.spelling))
    | 'c', .int code _ => field.writeCode? code
    | 'c', .text codes => field.writeOnly? codes
    | _, value => field.writeNumber? value

/-! ### Recognising -/

/-- What follows a width that is given by digits of any script, or that is left open. -/
def skipWidth (rest : List Char) : List Char :=
  match rest with
  | '*' :: rest => rest
  | rest => rest.dropWhile fun c => (Text.digitValue? c).isSome

/-- What follows a limit. -/
def skipLimit (rest : List Char) : List Char :=
  match rest with
  -- A point alone is no limit.
  | '.' :: rest' => if (skipWidth rest').length = rest'.length then rest else skipWidth rest'
  | rest => rest

/-- Whether a character names a way to write a field, in either case. The dotless and the dotted
`i` and the long `s` are taken for these letters. -/
def isForm (c : Char) : Bool :=
  "diouxefgcrsa%".toList.contains c.toLower || [0x130, 0x131, 0x17F].contains c.toNat

/-- Whether a text begins with something that looks like a field with a key. -/
def startsField (text : List Char) : Bool :=
  match text with
  | '%' :: '(' :: rest =>
    match rest.dropWhile Text.isWordChar with
    | ')' :: after =>
      -- A key has at least one character.
      (rest.head?.any Text.isWordChar) &&
        ((skipLimit (skipWidth (after.dropWhile isFlag))).head?.any isForm)
    | _ => false
  | _ => false

end LogField

namespace LogRecord

def spelling (record : LogRecord) : String :=
  "\x7b" ++ s!"'name': {Text.quoted record.logger}, 'msg': {record.content.literal}, " ++
    s!"'args': (), 'levelname': {Text.quoted record.level.name}, 'levelno': {record.level.rank}" ++
    "\x7d"

/-- A part of a record that is logged at a time. There is one thread and no task, and records
come without arguments and without errors. -/
def part? (record : LogRecord) (time key : String) : Option LogValue :=
  match key with
  | "asctime" => some (.ofText time)
  | "name" => some (.ofText record.logger)
  | "levelname" => some (.ofText record.level.name)
  | "levelno" => some (.ofJson (.int record.level.rank))
  | "message" => some (.text record.messageCodes)
  | "msg" => some (.ofJson record.content)
  | "threadName" => some (.ofText "MainThread")
  | "processName" => some (.ofText "MainProcess")
  | "args" => some (.other "()")
  | "exc_info" | "exc_text" | "stack_info" | "taskName" => some (.other "None")
  | _ => none

end LogRecord

def hasLogField (form : String) : Bool :=
  Text.anyTail LogField.startsField form.toList

/-- The pieces of a form, at most as many as there is fuel. A percent sign that begins no field is
refused. -/
def logPieces? : Nat → List Char → Option (List LogPiece)
  | _, [] => some []
  | 0, _ :: _ => none
  | fuel + 1, '%' :: '%' :: rest => (logPieces? fuel rest).map (.char '%' :: ·)
  | fuel + 1, '%' :: rest => do
    let (field, rest) ← LogField.read? rest
    let pieces ← logPieces? fuel rest
    return .field field :: pieces
  | fuel + 1, c :: rest => (logPieces? fuel rest).map (.char c :: ·)

/-- Writes the pieces of a log line; `first` tells that no field came before. -/
def LogRecord.writePieces? (record : LogRecord) (time : String) (first : Bool) :
    List LogPiece → Option (List Text.CodePoint)
  | [] => some []
  | .char c :: rest => (writePieces? record time first rest).map (.char c :: ·)
  | .field field :: rest => do
    let value ← match field.key with
      | some key => record.part? time key
      -- Only the first field may stand for the record as a whole.
      | none => if first then some (.other record.spelling) else none
    let written ← field.write? value
    let others ← writePieces? record time false rest
    return written ++ others

/-- The log line of a record in a form, if the form makes sense. -/
def LogRecord.line? (record : LogRecord) (form time : String) : Option (List Text.CodePoint) := do
  let pieces ← logPieces? form.length form.toList
  record.writePieces? time true pieces

/-- The usual form of log lines: time, level, logger and message. -/
def usualLogForm : String := "%(asctime)s | %(levelname)-8s | %(name)s | %(message)s"

end SyntaxGraph
