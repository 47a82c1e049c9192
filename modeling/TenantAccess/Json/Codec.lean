import TenantAccess.Json.Reader
import TenantAccess.Json.Value

/-!
# Codecs

A `Codec` reads and writes the values of a type. A record is described once, by a `Layout`: its
fields in order, each with its name, its codec, how it is taken from the record, and what stands in
for it when it is absent. From the layout follow both directions. A record is written as an object
with every field. It is read from an object, whatever the order of the members and with unknown
members passed over, and from an array of the fields in order.
-/

namespace TenantAccess.Json

variable {ρ α β : Type}

/-- How values of a type are read and written. -/
structure Codec (α : Type) where
  read : Reader α
  write : α → Value

namespace Codec

/-- Strings. -/
def text : Codec String := ⟨Reader.text, .text⟩

/-- Truth values. -/
def bool : Codec Bool := ⟨Reader.bool, .bool⟩

/-- Integers of 32 bits. -/
def int32 : Codec Int32 := ⟨Reader.int32, fun n => .integer n.toInt⟩

/-- Values that may be absent, written as null. -/
def option (c : Codec α) : Codec (Option α) where
  read := Reader.option c.read
  write
    | none => .null
    | some a => c.write a

/-- Lists. -/
def list (c : Codec α) : Codec (List α) where
  read := Reader.list c.read
  write as := .array (as.map c.write)

@[simp] theorem write_list (c : Codec α) (as : List α) :
    (list c).write as = .array (as.map c.write) := rfl

/-- Entries under labels; of entries under one label the last is kept. -/
def labelMap (c : Codec α) : Codec (LabelMap α) where
  read d := (Reader.map c.read d).map LabelMap.ofList
  write m := .object (m.entries.map fun e => (e.1, c.write e.2))

/-- Values that are written as their names. -/
def named (name : α → String) (all : List α) : Codec α where
  read := Reader.variant (all.map fun a => (name a, a))
  write a := .text (name a)

/-- Values that stand for values of another type. -/
def iso (c : Codec α) (ofValue : α → β) (toValue : β → α) : Codec β where
  read d := (c.read d).map ofValue
  write b := c.write (toValue b)

end Codec

/-- The fields of records `ρ` that make up an `α`. -/
structure Layout (ρ α : Type) where
  /-- The names of the fields, each with the check of its value. -/
  fields : List (String × (Doc → Except DecodeFault Unit))
  /-- Puts the values together that were found under the names; the second argument is the fault of a
  field without a stand-in that was not found, from its place and its name. -/
  build : (String → Option Doc) → (Nat → String → DecodeFault) → Except DecodeFault α
  /-- The fields of a record as they are written. -/
  members : ρ → List (String × Value)

namespace Layout

/-- A field. `standIn` is its value when it is absent; a field without one must be there. -/
def field (name : String) (c : Codec α) (get : ρ → α) (standIn : Option α := none) :
    Layout ρ α where
  fields := [(name, fun d => (c.read d).map fun _ => ())]
  build find absent :=
    match find name, standIn with
    | some d, _ => c.read d
    | none, some a => .ok a
    | none, none => .error (absent 0 name)
  members r := [(name, c.write (get r))]

/-- A field that is read and never written. -/
def hidden (name : String) (c : Codec α) (standIn : α) : Layout ρ α where
  fields := [(name, fun d => (c.read d).map fun _ => ())]
  build find _ :=
    match find name with
    | some d => c.read d
    | none => .ok standIn
  members _ := []

/-- A value that depends on no field. -/
def constant (a : α) : Layout ρ α where
  fields := []
  build _ _ := .ok a
  members _ := []

/-- The fields of a function followed by those of its argument. -/
def apply (f : Layout ρ (α → β)) (x : Layout ρ α) : Layout ρ β where
  fields := f.fields ++ x.fields
  build find absent := do
    let f' ← f.build find absent
    let x' ← x.build find fun place => absent (f.fields.length + place)
    return f' x'
  members r := f.members r ++ x.members r

instance : Applicative (Layout ρ) where
  pure := constant
  seq f x := apply f (x ())

/-! ## Reading a record -/

/-- Goes through the members of an object and gives the first thing that is wrong with them. `seen`
are the names of the fields met before. -/
def checkMembers (fields : List (String × (Doc → Except DecodeFault Unit))) (seen : List String) :
    List Member → Except DecodeFault Unit
  | [] => .ok ()
  | (name, d) :: rest => do
    let name ← name.mapError .malformed
    match fields.lookup name with
    | none =>
      Reader.skip d
      checkMembers fields seen rest
    | some check =>
      if seen.contains name then throw (.misshapen (.duplicateField name))
      check d
      checkMembers fields (name :: seen) rest

/-- Goes through the items of an array that stand for fields and gives the first thing that is wrong
with them. -/
def checkItems (ending : Ending) : List (String × (Doc → Except DecodeFault Unit)) → List Doc →
    Except DecodeFault Unit
  | (_, check) :: fields, d :: items => do
    check d
    checkItems ending fields items
  | _ :: _, [] => checkSyntax ending.wantedFault?
  | [], _ :: _ => .error (.malformed .trailingCharacters)
  | [], [] =>
    match ending.wantedFault? with
    | some .expectedArraySeparator => .error (.malformed .trailingCharacters)
    | fault? => checkSyntax fault?

/-- The value of the first member with a name. -/
def find? (members : List Member) (name : String) : Option Doc :=
  (members.find? fun m => match m.1 with
    | .ok n => n = name
    | .error _ => false).map Prod.snd

/-- Reads a record that is called `record` in messages. -/
def read (record : String) (l : Layout ρ α) : Reader α
  | .object members ending => do
    checkMembers l.fields [] members
    checkSyntax ending.wantedFault?
    l.build (find? members) fun _ name => .misshapen (.missingField name)
  | .array items ending => do
    checkItems ending l.fields items
    l.build (((l.fields.map Prod.fst).zip items).lookup ·) fun place _ =>
      .misshapen (.wrongLength place record l.fields.length)
  | d => .error (d.mismatch s!"struct {record}")

/-- The codec of records that are called `record` in messages. -/
def codec (record : String) (l : Layout ρ ρ) : Codec ρ where
  read := l.read record
  write r := .object (l.members r)

/-! ## Writing a record -/

section
variable (r : ρ)

@[simp] theorem write_codec (record : String) (l : Layout ρ ρ) :
    (codec record l).write r = .object (l.members r) := rfl

@[simp] theorem members_field (name : String) (c : Codec α) (get : ρ → α) (standIn : Option α) :
    (field name c get standIn).members r = [(name, c.write (get r))] := rfl

@[simp] theorem members_map (f : α → β) (x : Layout ρ α) :
    (f <$> x).members r = x.members r := rfl

@[simp] theorem members_seq (f : Layout ρ (α → β)) (x : Layout ρ α) :
    (f <*> x).members r = f.members r ++ x.members r := rfl

end

end Layout

end TenantAccess.Json
