import TenantAccess.Decimal.Shortest
import TenantAccess.Json.Document
import TenantAccess.Text.Quoted

/-!
# Reading documents

A reader of a type takes a document and gives a value of the type or the first thing that is wrong:
a fault of the text, or a shape that the type does not have. Readers go through the document from the
left, so of two things that are wrong the first in the text is reported.
-/

namespace TenantAccess.Json

/-- A value that is not of the wanted shape. -/
inductive Found where
  | null
  | bool (b : Bool)
  | number (n : Number)
  | text (s : String)
  | sequence
  | map
  deriving Repr

/-- The value in words. -/
def Found.describe : Found → String
  | .null => "null"
  | .bool true => "boolean `true`"
  | .bool false => "boolean `false`"
  | .number (.integer n) => s!"integer `{n}`"
  | .number (.float x) => s!"floating point `{Decimal.ofFloat x}`"
  | .text s => "string " ++ Text.quote s
  | .sequence => "sequence"
  | .map => "map"

/-- How a sound document differs from the shape of a type. -/
inductive ShapeFault where
  | wrongType (found : Found) (wanted : String)
  /-- An integer that the wanted type does not hold. -/
  | outOfRange (n : Int) (wanted : String)
  | duplicateField (name : String)
  | missingField (name : String)
  /-- A record written as an array has too few items. -/
  | wrongLength (items : Nat) (record : String) (fields : Nat)
  | unknownVariant (name : String) (variants : List String)
  deriving Repr

namespace ShapeFault

/-- A name as it is shown in a message. -/
def shown (name : String) : String := "`" ++ name ++ "`"

/-- A choice of names in words. -/
def choice : List String → String
  | [a, b] => shown a ++ " or " ++ shown b
  | [a] => shown a
  | names => "one of " ++ String.intercalate ", " (names.map shown)

/-- The difference in words. -/
def message : ShapeFault → String
  | .wrongType found wanted => s!"invalid type: {found.describe}, expected {wanted}"
  | .outOfRange n wanted => s!"invalid value: integer `{n}`, expected {wanted}"
  | .duplicateField name => s!"duplicate field `{name}`"
  | .missingField name => s!"missing field `{name}`"
  | .wrongLength items record fields =>
    s!"invalid length {items}, expected struct {record} with {fields} elements"
  | .unknownVariant name variants => s!"unknown variant `{name}`, expected {choice variants}"

end ShapeFault

/-- Why a text is not read as a value of a type. -/
inductive DecodeFault where
  /-- The text is no JSON. -/
  | malformed (fault : SyntaxFault)
  /-- The text, as far as it was read, is JSON of another shape. -/
  | misshapen (fault : ShapeFault)
  deriving Repr

/-- The fault in words. -/
def DecodeFault.message : DecodeFault → String
  | .malformed fault => fault.message
  | .misshapen fault => fault.message

/-- A reader of a type. -/
abbrev Reader (α : Type) := Doc → Except DecodeFault α

/-- Fails with a fault of the text, if there is one. -/
def checkSyntax (fault? : Option SyntaxFault) : Except DecodeFault Unit :=
  match fault? with
  | some fault => .error (.malformed fault)
  | none => .ok ()

namespace Doc

/-- The fault of a document that is not what a reader wants. -/
def mismatch (wanted : String) : Doc → DecodeFault
  | .null => .misshapen (.wrongType .null wanted)
  | .bool b => .misshapen (.wrongType (.bool b) wanted)
  | .number n =>
    match n.value with
    | .ok n => .misshapen (.wrongType (.number n) wanted)
    | .error fault => .malformed fault
  | .text (.ok s) => .misshapen (.wrongType (.text s) wanted)
  | .text (.error fault) => .malformed fault
  | .array .. => .misshapen (.wrongType .sequence wanted)
  | .object .. => .misshapen (.wrongType .map wanted)
  | .broken fault _ => .malformed fault
  | .missing => .malformed .endInValue

end Doc

namespace Reader

variable {α : Type}

/-- Passes over a document. -/
def skip : Reader Unit := fun d => checkSyntax d.passedFault?

/-- Reads a string. -/
def text : Reader String
  | .text (.ok s) => .ok s
  | d => .error (d.mismatch "a string")

/-- Reads a truth value. -/
def bool : Reader Bool
  | .bool b => .ok b
  | d => .error (d.mismatch "a boolean")

/-- Reads an integer of 32 bits. -/
def int32 : Reader Int32
  | .number n =>
    match n.value with
    | .ok (.integer i) =>
      if Int32.minValue.toInt ≤ i ∧ i ≤ Int32.maxValue.toInt then .ok (Int32.ofInt i)
      else .error (.misshapen (.outOfRange i "i32"))
    | .ok (.float x) => .error (.misshapen (.wrongType (.number (.float x)) "i32"))
    | .error fault => .error (.malformed fault)
  | d => .error (d.mismatch "i32")

/-- Reads a value that may be null. -/
def option (read : Reader α) : Reader (Option α)
  | .null => .ok none
  | d => (read d).map some

/-- Reads an array of values. -/
def list (read : Reader α) : Reader (List α)
  | .array items ending => do
    let values ← items.mapM read
    checkSyntax ending.wantedFault?
    return values
  | d => .error (d.mismatch "a sequence")

/-- Reads the members of an object with names of any kind. -/
def members (read : Reader α) : List Member → Except DecodeFault (List (String × α))
  | [] => .ok []
  | (name, d) :: rest => do
    let name ← name.mapError .malformed
    let value ← read d
    return (name, value) :: (← members read rest)

/-- Reads an object with names of any kind. -/
def map (read : Reader α) : Reader (List (String × α))
  | .object ms ending => do
    let values ← members read ms
    checkSyntax ending.wantedFault?
    return values
  | d => .error (d.mismatch "a map")

/-! ## Names of a choice -/

/-- The value with a name. -/
def ofName (variants : List (String × α)) (name : String) : Except DecodeFault α :=
  match variants.lookup name with
  | some value => .ok value
  | none => .error (.misshapen (.unknownVariant name (variants.map Prod.fst)))

/-- Reads one of the named values: its name, or an object that holds null under the name and nothing
else. A number or a word in its place is not looked at. -/
def variant (variants : List (String × α)) : Reader α
  | .text (.ok name) => ofName variants name
  | .text (.error fault) => .error (.malformed fault)
  | .object ((name, d) :: more) ending => do
    let value ← ofName variants (← name.mapError .malformed)
    match d with
    | .null => pure ()
    | d => throw (d.mismatch "unit")
    match more, ending with
    | [], .closed => return value
    | [], .broken .endInObject _ => throw (.malformed .endInObject)
    | _, _ => throw (.malformed .expectedValue)
  | .object [] ending => .error (.malformed (ending.wantedFault?.getD .expectedValue))
  | .missing => .error (.malformed .endInValue)
  | .broken fault _ =>
    .error (.malformed (if fault ∈ [.invalidNumber, .endInValue, .expectedIdent]
      then .expectedValue else fault))
  | _ => .error (.malformed .expectedValue)

/-- Reads a whole text. -/
def ofText (read : Reader α) (s : String) : Except DecodeFault α := do
  let (d, trailing) := Doc.ofText s
  let value ← read d
  if trailing then throw (.malformed .trailingCharacters)
  return value

end Reader

end TenantAccess.Json
