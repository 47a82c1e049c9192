import TenantAccess.Json.Token

/-!
# JSON documents

A `Doc` is the tree of a JSON text, read as far as the text is sound: where the text is broken, the
tree holds the fault in the place of a value or as the end of a container. Reading a document never
fails. A reader of a type goes through the tree from the left and meets wrong shapes and faults of
the text in the order in which they stand in it; what it passes over is checked by
`Doc.passedFault?`.
-/

namespace TenantAccess.Json

/-- How the members of a container end. -/
inductive Ending where
  | closed
  /-- The container is broken, for a reader that wants it and for one that passes over it. -/
  | broken (wanted passed : SyntaxFault)

/-- A JSON text, as far as it is sound. -/
inductive Doc where
  | null
  | bool (b : Bool)
  | number (n : Numeral)
  | text (s : Except SyntaxFault String)
  | array (items : List Doc) (ending : Ending)
  | object (members : List (Except SyntaxFault String × Doc)) (ending : Ending)
  /-- A broken value, for a reader that wants it and for one that passes over it. -/
  | broken (wanted passed : SyntaxFault)
  /-- The text ends where a value should stand. -/
  | missing

/-- A name, or the fault in it, with its value. -/
abbrev Member := Except SyntaxFault String × Doc

namespace Ending

/-- What a reader that wants a container meets at its end. -/
def wantedFault? : Ending → Option SyntaxFault
  | .closed => none
  | .broken wanted _ => some wanted

/-- What a reader that passes over a container meets at its end. -/
def passedFault? : Ending → Option SyntaxFault
  | .closed => none
  | .broken _ passed => some passed

end Ending

mutual

/-- The first fault that a reader meets which passes over a document. -/
def Doc.passedFault? : Doc → Option SyntaxFault
  | .null | .bool _ | .number _ | .text _ => none
  | .array items ending => (passedFaultOfItems? items).or ending.passedFault?
  | .object members ending => (passedFaultOfMembers? members).or ending.passedFault?
  | .broken _ passed => some passed
  | .missing => some .endInValue

/-- The first fault in the items of an array. -/
def passedFaultOfItems? : List Doc → Option SyntaxFault
  | [] => none
  | d :: rest => d.passedFault?.or (passedFaultOfItems? rest)

/-- The first fault in the values of an object. -/
def passedFaultOfMembers? : List (Except SyntaxFault String × Doc) → Option SyntaxFault
  | [] => none
  | (_, d) :: rest => d.passedFault?.or (passedFaultOfMembers? rest)

end

/-! ## Building the tree -/

/-- A container whose members are being read, the last first. -/
inductive Frame where
  | array (items : List Doc)
  | object (members : List Member)
  /-- An object in which the value of a member is being read. -/
  | member (members : List Member) (key : Except SyntaxFault String)

/-- What may stand next. -/
inductive Place where
  | value
  /-- A value or the end of an array. -/
  | firstItem
  /-- A value behind a comma. -/
  | item
  /-- A name or the end of an object. -/
  | firstKey
  /-- A name behind a comma. -/
  | key
  | colon
  /-- A comma or the end of the container. -/
  | separator

/-- How far a tree is built. -/
inductive Progress where
  /-- Something is to come at a place inside of containers, the innermost first. -/
  | reading (place : Place) (stack : List Frame)
  /-- The tree is complete. -/
  | finished (root : Doc)
  /-- The tree is complete and more text stands behind it. -/
  | trailing (root : Doc)
  /-- The text is broken; the tree holds the fault. -/
  | stopped (root : Doc)

namespace Progress

/-- The tree in which a broken document is the last that was read. -/
def rootOf (d : Doc) : List Frame → Doc
  | [] => d
  | .array items :: stack => rootOf (.array (d :: items).reverse .closed) stack
  | .object members :: stack => rootOf (.object members.reverse .closed) stack
  | .member members key :: stack => rootOf (.object ((key, d) :: members).reverse .closed) stack

/-- The text is broken where a value stands. -/
def breakAt (stack : List Frame) (d : Doc) : Progress := .stopped (rootOf d stack)

/-- The text is broken where the members of the innermost container go on or end. -/
def breakEnd (stack : List Frame) (ending : Ending) : Progress :=
  match stack with
  | .array items :: outer => .stopped (rootOf (.array items.reverse ending) outer)
  | .object members :: outer => .stopped (rootOf (.object members.reverse ending) outer)
  | stack => .stopped (rootOf .missing stack)

/-- A value is complete. -/
def complete (stack : List Frame) (d : Doc) : Progress :=
  match stack with
  | [] => .finished d
  | .array items :: outer => .reading .separator (.array (d :: items) :: outer)
  | .member members key :: outer => .reading .separator (.object ((key, d) :: members) :: outer)
  | .object members :: outer => .reading .separator (.object members :: outer)

/-- A token stands where a value should. -/
def readValue (stack : List Frame) : Token → Progress
  | .null => complete stack .null
  | .bool b => complete stack (.bool b)
  | .number n => complete stack (.number n)
  | .text s => complete stack (.text s)
  | .openArray => .reading .firstItem (.array [] :: stack)
  | .openObject => .reading .firstKey (.object [] :: stack)
  | .broken wanted passed | .brokenText wanted passed => breakAt stack (.broken wanted passed)
  | .closeArray | .closeObject | .comma | .colon =>
    breakAt stack (.broken .expectedValue .expectedValue)

/-- A token stands where a name may; `other` is how the object ends when it is none. -/
def readKey (members : List Member) (outer : List Frame) (other : Token → Ending) :
    Token → Progress
  | .text s => .reading .colon (.member members s :: outer)
  | .brokenText wanted passed => breakEnd (.object members :: outer) (.broken wanted passed)
  | t => breakEnd (.object members :: outer) (other t)

/-- The next token is taken in. -/
def step : Progress → Token → Progress
  | .finished root, _ => .trailing root
  | .trailing root, _ => .trailing root
  | .stopped root, _ => .stopped root
  | .reading .value stack, t => readValue stack t
  | .reading .firstItem (.array items :: outer), .closeArray =>
    complete outer (.array items.reverse .closed)
  | .reading .firstItem stack, t => readValue stack t
  | .reading .item stack, .closeArray => breakEnd stack (.broken .trailingComma .expectedValue)
  | .reading .item stack, t => readValue stack t
  | .reading .firstKey (.object members :: outer), .closeObject =>
    complete outer (.object members.reverse .closed)
  | .reading .firstKey (.object members :: outer), t =>
    readKey members outer (fun _ => .broken .keyMustBeText .keyMustBeText) t
  | .reading .key (.object members :: outer), t =>
    readKey members outer (fun
      | .closeObject => .broken .trailingComma .keyMustBeText
      | _ => .broken .keyMustBeText .keyMustBeText) t
  | .reading .colon stack, .colon => .reading .value stack
  | .reading .colon stack, _ => breakAt stack (.broken .expectedColon .expectedColon)
  | .reading .separator (.array items :: outer), .comma => .reading .item (.array items :: outer)
  | .reading .separator (.array items :: outer), .closeArray =>
    complete outer (.array items.reverse .closed)
  | .reading .separator (.array items :: outer), _ =>
    breakEnd (.array items :: outer) (.broken .expectedArraySeparator .expectedArraySeparator)
  | .reading .separator (.object members :: outer), .comma =>
    .reading .key (.object members :: outer)
  | .reading .separator (.object members :: outer), .closeObject =>
    complete outer (.object members.reverse .closed)
  | .reading .separator stack, _ =>
    breakEnd stack (.broken .expectedObjectSeparator .expectedObjectSeparator)
  | .reading _ stack, _ => breakAt stack (.broken .expectedValue .expectedValue)

/-- The text ends. -/
def conclude : Progress → Doc × Bool
  | .finished root | .stopped root => (root, false)
  | .trailing root => (root, true)
  | .reading place stack =>
    let ended (p : Progress) : Doc × Bool :=
      match p with
      | .stopped root => (root, false)
      | _ => (.missing, false)
    match place, stack with
    | .value, stack | .item, stack => ended (breakAt stack .missing)
    | .firstItem, stack => ended (breakEnd stack (.broken .endInArray .endInArray))
    | .firstKey, stack => ended (breakEnd stack (.broken .endInObject .endInObject))
    | .key, stack => ended (breakEnd stack (.broken .endInValue .endInObject))
    | .colon, stack => ended (breakAt stack (.broken .endInObject .endInObject))
    | .separator, .array items :: outer =>
      ended (breakEnd (.array items :: outer) (.broken .endInArray .endInArray))
    | .separator, stack => ended (breakEnd stack (.broken .endInObject .endInObject))

end Progress

/-- The document that a text begins with, and whether anything but white space stands behind it. -/
def Doc.ofText (s : String) : Doc × Bool :=
  ((Token.scan s.toList).foldl Progress.step (.reading .value [])).conclude

end TenantAccess.Json
