import SequenceApi.Json.Basic
import SequenceApi.Json.Lexeme

/-!
# Reading JSON texts

Lexemes drive a machine with a stack: what may come next, and the arrays and objects that are still
open. A value is complete when its last lexeme is read, and then goes to the innermost open
container. A key that occurs twice keeps its first place and its last value.

## Main definitions

* `Json.ReadError`: a fault at a place, an integer that is too long, or brackets nested too deep
* `Json.step`, `Json.run`: one lexeme, and all of them
* `Json.read`: the value of a text
-/

namespace SequenceApi.Json

/-- The brackets that can nest too deep. -/
inductive Bracket where
  | array
  | object
  deriving DecidableEq, Repr

/-- Why a text has no value. -/
inductive ReadError where
  /-- A fault at a place, which also has a line and a column. -/
  | syntaxError (fault : Fault) (line column place : Nat)
  /-- An integer with too many digits. -/
  | longInt (digits : Nat)
  /-- More open brackets than `deepest`. -/
  | tooDeep (bracket : Bracket)
  deriving DecidableEq, Repr

/-- The wording of a fault. -/
def Fault.message : Fault → String
  | .noValue => "Expecting value"
  | .noKey => "Expecting property name enclosed in double quotes"
  | .noColon => "Expecting ':' delimiter"
  | .noComma => "Expecting ',' delimiter"
  | .moreText => "Extra data"
  | .unterminated => "Unterminated string starting at"
  | .control => "Invalid control character at"
  | .escape => "Invalid \\escape"
  | .unicodeEscape => "Invalid \\uXXXX escape"
  | .byteOrderMark => "Unexpected UTF-8 BOM (decode using utf-8-sig)"

/-- The wording of a refused integer. -/
def longIntMessage (digits : Nat) : String :=
  s!"Exceeds the limit ({longestInteger} digits) for integer string conversion: " ++
    s!"value has {digits} digits; use sys.set_int_max_str_digits() to increase the limit"

/-- The wording of an error. -/
def ReadError.message : ReadError → String
  | .syntaxError fault line column place =>
    s!"{fault.message}: line {line} column {column} (char {place})"
  | .longInt digits => longIntMessage digits
  | .tooDeep .array =>
    "maximum recursion depth exceeded while decoding a JSON array from a unicode string"
  | .tooDeep .object =>
    "maximum recursion depth exceeded while decoding a JSON object from a unicode string"

/-- At most this many brackets are open at a time. -/
def deepest : Nat := 990

/-- A container with an item under way. -/
inductive Frame where
  /-- The items before the one under way, last first. -/
  | array (items : List Json)
  /-- The fields before, and the key of the value under way. -/
  | object (fields : List (String × Json)) (key : String)

/-- What may come next. -/
inductive Mode where
  /-- A value. -/
  | value
  /-- The first item of an array, or its end. -/
  | firstItem
  /-- A comma or the end of an array with the given items, last first. -/
  | afterItem (items : List Json)
  /-- The first key of an object, or its end. -/
  | firstKey
  /-- A key, after a comma. -/
  | nextKey (fields : List (String × Json))
  /-- The colon after a key. -/
  | colon (fields : List (String × Json)) (key : String)
  /-- A comma or the end of an object with the given fields. -/
  | afterField (fields : List (String × Json))
  /-- Nothing more. -/
  | done (v : Json)

/-- The machine between two lexemes. -/
structure State where
  mode : Mode
  stack : List Frame

/-- A complete value goes to the innermost open container. -/
def State.complete (v : Json) : List Frame → State
  | [] => ⟨.done v, []⟩
  | .array items :: stack => ⟨.afterItem (v :: items), stack⟩
  | .object fields key :: stack => ⟨.afterField (Table.put key v fields), stack⟩

/-- A fault at a place, before lines are counted. -/
inductive StepError where
  | fault (fault : Fault) (place : Nat)
  | longInt (digits : Nat)
  | tooDeep (bracket : Bracket)

/-- The start of a value: a simple one is complete, a bracket opens a container. -/
def startValue (stack : List Frame) (place : Nat) : Lexeme → Except StepError State
  | .null => .ok (.complete .null stack)
  | .bool b => .ok (.complete (.bool b) stack)
  | .int n => .ok (.complete (.int n) stack)
  | .float x => .ok (.complete (.float x) stack)
  | .str s => .ok (.complete (.str s) stack)
  | .openArray =>
    if deepest ≤ stack.length then .error (.tooDeep .array) else .ok ⟨.firstItem, stack⟩
  | .openObject =>
    if deepest ≤ stack.length then .error (.tooDeep .object) else .ok ⟨.firstKey, stack⟩
  | .longInt digits => .error (.longInt digits)
  | .badStr fault at_ => .error (.fault fault at_)
  | _ => .error (.fault .noValue place)

/-- A key of an object with the given fields. -/
def startKey (fields : List (String × Json)) (stack : List Frame) (place : Nat) :
    Lexeme → Except StepError State
  | .str key => .ok ⟨.colon fields key, stack⟩
  | .badStr fault at_ => .error (.fault fault at_)
  | _ => .error (.fault .noKey place)

/-- The machine after one more lexeme. -/
def step (s : State) (place : Nat) (x : Lexeme) : Except StepError State :=
  match s.mode with
  | .value => startValue s.stack place x
  | .firstItem =>
    if x = .closeArray then .ok (.complete (.arr []) s.stack)
    else startValue (.array [] :: s.stack) place x
  | .afterItem items =>
    if x = .comma then .ok ⟨.value, .array items :: s.stack⟩
    else if x = .closeArray then .ok (.complete (.arr items.reverse) s.stack)
    else .error (.fault .noComma place)
  | .firstKey =>
    if x = .closeObject then .ok (.complete (.obj []) s.stack) else startKey [] s.stack place x
  | .nextKey fields => startKey fields s.stack place x
  | .colon fields key =>
    if x = .colon then .ok ⟨.value, .object fields key :: s.stack⟩
    else .error (.fault .noColon place)
  | .afterField fields =>
    if x = .comma then .ok ⟨.nextKey fields, s.stack⟩
    else if x = .closeObject then .ok (.complete (.obj fields) s.stack)
    else .error (.fault .noComma place)
  | .done _ => .error (.fault .moreText place)

/-- The value at the end of the text, or what is missing there. -/
def finish (s : State) (place : Nat) : Except StepError Json :=
  match s.mode with
  | .done v => .ok v
  | .value | .firstItem => .error (.fault .noValue place)
  | .firstKey | .nextKey _ => .error (.fault .noKey place)
  | .colon .. => .error (.fault .noColon place)
  | .afterItem _ | .afterField _ => .error (.fault .noComma place)

/-- The machine over all lexemes of a text with `length` characters. -/
def run (length : Nat) : State → List (Nat × Lexeme) → Except StepError Json
  | s, [] => finish s length
  | s, (place, x) :: rest =>
    match step s place x with
    | .ok s => run length s rest
    | .error e => .error e

/-- The line of a place, from one, and its column, from one. -/
def lineColumn (cs : List Char) (place : Nat) : Nat × Nat :=
  let before := cs.take place
  (before.count '\n' + 1, (before.reverse.takeWhile (· != '\n')).length + 1)

/-- The error with the line and column of its place. -/
def StepError.located (cs : List Char) : StepError → ReadError
  | .fault f place =>
    let (line, column) := lineColumn cs place
    .syntaxError f line column place
  | .longInt n => .longInt n
  | .tooDeep b => .tooDeep b

/-- The value of a text, given by its characters. -/
def readChars (cs : List Char) : Except ReadError Json :=
  if cs.head? = some '\ufeff' then .error (.syntaxError .byteOrderMark 1 1 0)
  else
    match run cs.length ⟨.value, []⟩ (lexemes cs) with
    | .ok v => .ok v
    | .error e => .error (e.located cs)

/-- The value of a text. -/
def read (s : String) : Except ReadError Json :=
  readChars s.toList

end SequenceApi.Json
