import HttpContract.Text.Decimal
import HttpContract.Text.Utf8

/-! Why and where a text is not a JSON document. -/
namespace HttpContract

inductive JsonFault where
  | eofInList | eofInObject | eofInString | eofInValue
  | expectedColon | expectedListEnd | expectedObjectEnd | expectedIdent | expectedValue
  | invalidEscape | invalidNumber | numberOutOfRange | controlCharacter
  | keyNotString | loneSurrogate | trailingComma | trailingCharacters | shortHexEscape
  | recursionLimit
  deriving DecidableEq, Inhabited

def JsonFault.message : JsonFault → Text
  | eofInList => "EOF while parsing a list"
  | eofInObject => "EOF while parsing an object"
  | eofInString => "EOF while parsing a string"
  | eofInValue => "EOF while parsing a value"
  | expectedColon => "expected `:`"
  | expectedListEnd => "expected `,` or `]`"
  | expectedObjectEnd => "expected `,` or `\x7d`"
  | expectedIdent => "expected ident"
  | expectedValue => "expected value"
  | invalidEscape => "invalid escape"
  | invalidNumber => "invalid number"
  | numberOutOfRange => "number out of range"
  | controlCharacter =>
    "control character (\\u0000-\\u001F) found while parsing a string"
  | keyNotString => "key must be a string"
  | loneSurrogate => "lone leading surrogate in hex escape"
  | trailingComma => "trailing comma"
  | trailingCharacters => "trailing characters"
  | shortHexEscape => "unexpected end of hex escape"
  | recursionLimit => "recursion limit exceeded"

/-- A fault, and how many bytes follow the last one that was looked at. -/
structure JsonFailure where
  fault : JsonFault
  left : Nat
  deriving DecidableEq, Inhabited

/-- A fault with its line, from 1, and its column in bytes. -/
structure JsonError where
  fault : JsonFault
  line : Nat
  column : Nat
  deriving DecidableEq, Inhabited

namespace JsonError

def message (error : JsonError) : Text :=
  error.fault.message ++ " at line " ++ Text.decimal error.line ++ " column " ++
    Text.decimal error.column

def newline : UInt8 := 10

/-- Places a failure in the text that was read: the lines begun and the bytes since the last
newline, up to the last byte that was looked at. -/
def ofFailure (text : Text) (failure : JsonFailure) : JsonError :=
  let bytes := Utf8.encode text
  let before := bytes.take (bytes.length - failure.left)
  { fault := failure.fault
    line := before.count newline + 1
    column := (before.reverse.takeWhile (· != newline)).length }

end JsonError
end HttpContract
