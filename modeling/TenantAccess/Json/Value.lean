import TenantAccess.Json.Document
import TenantAccess.LabelMap

/-!
# JSON values and their text

A `Value` is what the library writes. It is written in one of two ways: `compact` without any white
space and with the members of an object in the order given, and `pretty` for people, with the members
sorted by name, each item and member on a line of its own, and two spaces for each level.
`Value.toDoc` is the document that reading the text gives back.
-/

namespace TenantAccess.Json

/-- A JSON value without fractions. -/
inductive Value where
  | null
  | bool (b : Bool)
  | integer (n : Int)
  | text (s : String)
  | array (items : List Value)
  | object (members : List (String × Value))
  deriving Repr

namespace Value

mutual

/-- The document of a value. -/
def toDoc : Value → Doc
  | .null => .null
  | .bool b => .bool b
  | .integer n => .number (.ofInt n)
  | .text s => .text (.ok s)
  | .array items => .array (docsOfItems items) .closed
  | .object members => .object (docsOfMembers members) .closed

/-- The documents of the items of an array. -/
def docsOfItems : List Value → List Doc
  | [] => []
  | v :: rest => v.toDoc :: docsOfItems rest

/-- The documents of the members of an object. -/
def docsOfMembers : List (String × Value) → List Member
  | [] => []
  | (name, v) :: rest => (.ok name, v.toDoc) :: docsOfMembers rest

end

/-! ## Strings -/

/-- The letter that stands for a character behind a backslash. -/
def escapeLetter? : Char → Option Char
  | '"' => some '"'
  | '\\' => some '\\'
  | '\x08' => some 'b'
  | '\x0c' => some 'f'
  | '\n' => some 'n'
  | '\r' => some 'r'
  | '\t' => some 't'
  | _ => none

/-- A character inside of a string: control characters are escaped, all else stands for itself. -/
def quoteChar (c : Char) : List Char :=
  match escapeLetter? c with
  | some letter => ['\\', letter]
  | none =>
    if c.toNat < 0x20 then
      ['\\', 'u', '0', '0', Nat.digitChar (c.toNat / 16), Nat.digitChar (c.toNat % 16)]
    else [c]

/-- A string with its quotes. -/
def quote (s : String) : String :=
  String.ofList ('"' :: s.toList.flatMap quoteChar ++ ['"'])

/-! ## Compact text -/

mutual

/-- The text of a value without white space. -/
def compact : Value → String
  | .null => "null"
  | .bool true => "true"
  | .bool false => "false"
  | .integer n => toString n
  | .text s => quote s
  | .array [] => "[]"
  | .array (v :: rest) => "[" ++ v.compact ++ compactItems rest ++ "]"
  | .object [] => "\x7b\x7d"
  | .object ((name, v) :: rest) =>
    "\x7b" ++ quote name ++ ":" ++ v.compact ++ compactMembers rest ++ "\x7d"

/-- The items behind the first, each after a comma. -/
def compactItems : List Value → String
  | [] => ""
  | v :: rest => "," ++ v.compact ++ compactItems rest

/-- The members behind the first, each after a comma. -/
def compactMembers : List (String × Value) → String
  | [] => ""
  | (name, v) :: rest => "," ++ quote name ++ ":" ++ v.compact ++ compactMembers rest

end

/-! ## Text for people -/

mutual

/-- The value with the members of every object sorted by name. -/
def sorted : Value → Value
  | .array items => .array (sortedItems items)
  | .object members => .object (LabelMap.ofList (sortedMembers members)).entries
  | v => v

/-- The items of an array with their objects sorted. -/
def sortedItems : List Value → List Value
  | [] => []
  | v :: rest => v.sorted :: sortedItems rest

/-- The members of an object with the objects in them sorted. -/
def sortedMembers : List (String × Value) → List (String × Value)
  | [] => []
  | (name, v) :: rest => (name, v.sorted) :: sortedMembers rest

end

/-- A new line at a level. -/
def newline (level : Nat) : String :=
  String.ofList ('\n' :: List.replicate (2 * level) ' ')

mutual

/-- The text of a value that begins at a level, item by item on lines of their own. -/
def spread (level : Nat) : Value → String
  | .array [] => "[]"
  | .array (v :: rest) =>
    "[" ++ newline (level + 1) ++ v.spread (level + 1) ++ spreadItems (level + 1) rest
      ++ newline level ++ "]"
  | .object [] => "\x7b\x7d"
  | .object ((name, v) :: rest) =>
    "\x7b" ++ newline (level + 1) ++ quote name ++ ": " ++ v.spread (level + 1)
      ++ spreadMembers (level + 1) rest ++ newline level ++ "\x7d"
  | .null => "null"
  | .bool true => "true"
  | .bool false => "false"
  | .integer n => toString n
  | .text s => quote s

/-- The items behind the first, each on a line after a comma. -/
def spreadItems (level : Nat) : List Value → String
  | [] => ""
  | v :: rest => "," ++ newline level ++ v.spread level ++ spreadItems level rest

/-- The members behind the first, each on a line after a comma. -/
def spreadMembers (level : Nat) : List (String × Value) → String
  | [] => ""
  | (name, v) :: rest =>
    "," ++ newline level ++ quote name ++ ": " ++ v.spread level ++ spreadMembers level rest

end

/-- The text of a value for people. -/
def pretty (v : Value) : String := v.sorted.spread 0

end Value

end TenantAccess.Json
