/-!
# Faults of JSON texts

Two things can be wrong with a text that is read as a value of some type: it is no JSON
(`SyntaxFault`), or it is JSON of another shape (`ShapeFault`). A reader goes through the text once
from the left and reports what it meets first, so a wrong shape may be reported of a text that is
broken further on.
-/

namespace TenantAccess.Json

/-- Why a text is no JSON. -/
inductive SyntaxFault where
  /-- The text ends inside an array. -/
  | endInArray
  /-- The text ends inside an object. -/
  | endInObject
  /-- The text ends inside a string. -/
  | endInText
  /-- The text ends where a value should stand. -/
  | endInValue
  | expectedColon
  | expectedArraySeparator
  | expectedObjectSeparator
  | expectedIdent
  | expectedValue
  | invalidEscape
  | invalidNumber
  | numberOutOfRange
  /-- A control character stands unescaped in a string. -/
  | controlCharacter
  | keyMustBeText
  /-- The second half of a surrogate pair stands alone, or the first is followed by no second. -/
  | loneSurrogate
  | trailingComma
  | trailingCharacters
  /-- No escape follows the first half of a surrogate pair. -/
  | unpairedSurrogate
  deriving DecidableEq, Repr

/-- The fault in words. -/
def SyntaxFault.message : SyntaxFault → String
  | .endInArray => "EOF while parsing a list"
  | .endInObject => "EOF while parsing an object"
  | .endInText => "EOF while parsing a string"
  | .endInValue => "EOF while parsing a value"
  | .expectedColon => "expected `:`"
  | .expectedArraySeparator => "expected `,` or `]`"
  | .expectedObjectSeparator => "expected `,` or `\x7d`"
  | .expectedIdent => "expected ident"
  | .expectedValue => "expected value"
  | .invalidEscape => "invalid escape"
  | .invalidNumber => "invalid number"
  | .numberOutOfRange => "number out of range"
  | .controlCharacter => "control character (\\u0000-\\u001F) found while parsing a string"
  | .keyMustBeText => "key must be a string"
  | .loneSurrogate => "lone leading surrogate in hex escape"
  | .trailingComma => "trailing comma"
  | .trailingCharacters => "trailing characters"
  | .unpairedSurrogate => "unexpected end of hex escape"

end TenantAccess.Json
