import ModelRepositories.Decimal.Layout
import ModelRepositories.Json.Value
import ModelRepositories.Text.Quoted

/-!
What can be wrong with a JSON text or with a value that should describe a record, and how it is
said. A fault found while a text is read has a position; one found in a value has none.
-/

namespace ModelRepositories.Json

def numberLayout : Decimal.Layout := ⟨-5, 16⟩

inductive Found where
  | null
  | bool (b : Bool)
  | int (n : Int)
  | float (x : Float)
  | str (text : String)
  | sequence
  | map

def Value.found : Value → Found
  | .null => .null
  | .bool b => .bool b
  | .int n => .int n
  | .float x => .float x
  | .str text => .str text
  | .arr _ => .sequence
  | .obj _ => .map

def Found.text : Found → String
  | .null => "null"
  | .bool b => "boolean `" ++ (if b then "true" else "false") ++ "`"
  | .int n => "integer `" ++ toString n ++ "`"
  | .float x => "floating point `" ++ numberLayout.floatText x ++ "`"
  | .str text => "string " ++ Text.quoted text
  | .sequence => "sequence"
  | .map => "map"

inductive Expected where
  | string
  | boolean
  | sequence
  | map
  | unit
  | stringOrMap
  | record (name : String)
  deriving DecidableEq

def Expected.text : Expected → String
  | .string => "a string"
  | .boolean => "a boolean"
  | .sequence => "a sequence"
  | .map => "a map"
  | .unit => "unit"
  | .stringOrMap => "string or map"
  | .record name => "struct " ++ name

inductive Fault where
  | endInValue
  | endInList
  | endInObject
  | endInString
  | expectedValue
  | expectedLiteral
  | expectedColon
  | expectedCommaOrBracket
  | expectedCommaOrBrace
  | expectedKey
  | danglingComma
  | trailingText
  | malformedNumber
  | numberOutOfRange
  | malformedEscape
  | controlCharacter
  | loneSurrogate
  | missingSurrogate
  | nestedTooDeep
  | wrongType (found : Found) (expected : Expected)
  | missingMember (key : String)
  | duplicateMember (key : String)
  | tooFewItems (count : Nat) (record : String) (slots : Nat)
  | tooManyItems (count : Nat)
  | unknownVariant (name : String) (variants : List String)
  | notOneMember
  | noSuchShape (shape : String)

def Fault.text : Fault → String
  | .endInValue => "EOF while parsing a value"
  | .endInList => "EOF while parsing a list"
  | .endInObject => "EOF while parsing an object"
  | .endInString => "EOF while parsing a string"
  | .expectedValue => "expected value"
  | .expectedLiteral => "expected ident"
  | .expectedColon => "expected `:`"
  | .expectedCommaOrBracket => "expected `,` or `]`"
  | .expectedCommaOrBrace => "expected `,` or `\x7d`"
  | .expectedKey => "key must be a string"
  | .danglingComma => "trailing comma"
  | .trailingText => "trailing characters"
  | .malformedNumber => "invalid number"
  | .numberOutOfRange => "number out of range"
  | .malformedEscape => "invalid escape"
  | .controlCharacter => "control character (\\u0000-\\u001F) found while parsing a string"
  | .loneSurrogate => "lone leading surrogate in hex escape"
  | .missingSurrogate => "unexpected end of hex escape"
  | .nestedTooDeep => "recursion limit exceeded"
  | .wrongType found expected => "invalid type: " ++ found.text ++ ", expected " ++ expected.text
  | .missingMember key => "missing field `" ++ key ++ "`"
  | .duplicateMember key => "duplicate field `" ++ key ++ "`"
  | .tooFewItems count record slots =>
    "invalid length " ++ toString count ++ ", expected struct " ++ record ++ " with " ++
      toString slots ++ (if slots = 1 then " element" else " elements")
  | .tooManyItems count =>
    "invalid length " ++ toString count ++ ", expected fewer elements in array"
  | .unknownVariant name variants =>
    "unknown variant `" ++ name ++ "`, expected one of " ++
      ", ".intercalate (variants.map fun variant => "`" ++ variant ++ "`")
  | .notOneMember => "invalid value: map, expected map with a single key"
  | .noSuchShape shape => "data did not match any variant of untagged enum " ++ shape

/-- A line counts from one, a column is the number of bytes since the last line feed. -/
structure Position where
  line : Nat
  column : Nat
  deriving DecidableEq, Repr

structure Error where
  fault : Fault
  position : Option Position

def Error.text (e : Error) : String :=
  match e.position with
  | none => e.fault.text
  | some place =>
    e.fault.text ++ " at line " ++ toString place.line ++ " column " ++ toString place.column

def Error.debug (e : Error) : String :=
  let place := e.position.getD ⟨0, 0⟩
  "Error(" ++ Text.quoted e.fault.text ++ ", line: " ++ toString place.line ++ ", column: " ++
    toString place.column ++ ")"

end ModelRepositories.Json
