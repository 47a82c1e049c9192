import TenantAccess.Json.Reader
import TenantAccess.Proofs.Json.Token

/-!
# Reading a written text back

A value is written as tokens (`Value.tokens`), with more or less white space between them. Both
printers are one printer at two spacings (`Value.print`), so both write the tokens of the value
(`Value.writes_print`). Taken in one after the other, the tokens build up the document of the value
(`Progress.foldl_tokens`), whatever containers it stands in. The main statements are
`Doc.ofText_of_writes`, `Doc.ofText_compact` and `Doc.ofText_pretty`: a text that writes the tokens
of a value is read as the document of the value, and nothing is left behind it.
-/

namespace TenantAccess.Json

namespace Value

/-! ## The tokens of a value -/

mutual

/-- The tokens that a value is written as. -/
def tokens : Value → List Token
  | .null => [.null]
  | .bool b => [.bool b]
  | .integer n => [.number (.ofInt n)]
  | .text s => [.text (.ok s)]
  | .array [] => [.openArray, .closeArray]
  | .array (v :: rest) => .openArray :: (v.tokens ++ tokensOfItems rest ++ [.closeArray])
  | .object [] => [.openObject, .closeObject]
  | .object ((name, v) :: rest) =>
    .openObject :: .text (.ok name) :: .colon ::
      (v.tokens ++ tokensOfMembers rest ++ [.closeObject])

/-- The tokens of the items behind the first. -/
def tokensOfItems : List Value → List Token
  | [] => []
  | v :: rest => .comma :: (v.tokens ++ tokensOfItems rest)

/-- The tokens of the members behind the first. -/
def tokensOfMembers : List (String × Value) → List Token
  | [] => []
  | (name, v) :: rest =>
    .comma :: .text (.ok name) :: .colon :: (v.tokens ++ tokensOfMembers rest)

end

end Value

/-! ## Spacing -/

/-- The white space in a text: in front of the items of each level, and behind the colon of a
member. -/
structure Spacing where
  gap : Nat → String
  pad : String
  gap_isSpace : ∀ level, ∀ c ∈ (gap level).toList, Token.isSpace c
  pad_isSpace : ∀ c ∈ pad.toList, Token.isSpace c

/-- No white space. -/
def Spacing.dense : Spacing where
  gap _ := ""
  pad := ""
  gap_isSpace _ _ hc := by simp at hc
  pad_isSpace _ hc := by simp at hc

/-- Every item on a line of its own. -/
def Spacing.lines : Spacing where
  gap := Value.newline
  pad := " "
  gap_isSpace level c hc := by
    rw [Value.newline, String.toList_ofList, List.mem_cons] at hc
    obtain rfl | hc := hc
    · decide
    · rw [List.eq_of_mem_replicate hc]
      decide
  pad_isSpace c hc := by
    obtain rfl : c = ' ' := List.mem_singleton.1 hc
    decide

/-! ## Printing -/

namespace Value

variable (s : Spacing)

mutual

/-- The text of a value that begins at a level. -/
def print (level : Nat) : Value → String
  | .null => "null"
  | .bool true => "true"
  | .bool false => "false"
  | .integer n => toString n
  | .text s => quote s
  | .array [] => "[]"
  | .array (v :: rest) =>
    "[" ++ s.gap (level + 1) ++ v.print (level + 1) ++ printItems (level + 1) rest
      ++ s.gap level ++ "]"
  | .object [] => "\x7b\x7d"
  | .object ((name, v) :: rest) =>
    "\x7b" ++ s.gap (level + 1) ++ quote name ++ ":" ++ s.pad ++ v.print (level + 1)
      ++ printMembers (level + 1) rest ++ s.gap level ++ "\x7d"

/-- The items behind the first. -/
def printItems (level : Nat) : List Value → String
  | [] => ""
  | v :: rest => "," ++ s.gap level ++ v.print level ++ printItems level rest

/-- The members behind the first. -/
def printMembers (level : Nat) : List (String × Value) → String
  | [] => ""
  | (name, v) :: rest =>
    "," ++ s.gap level ++ quote name ++ ":" ++ s.pad ++ v.print level ++ printMembers level rest

end

mutual

/-- Compact text is printed without white space. -/
theorem compact_eq_print (level : Nat) : ∀ v : Value, v.compact = v.print .dense level
  | .null | .bool true | .bool false | .integer _ | .text _ | .array [] | .object [] => by
    simp [compact, print]
  | .array (v :: rest) => by
    simp [compact, print, Spacing.dense, compact_eq_print (level + 1) v,
      compactItems_eq_print (level + 1) rest]
  | .object ((name, v) :: rest) => by
    simp [compact, print, Spacing.dense, compact_eq_print (level + 1) v,
      compactMembers_eq_print (level + 1) rest]

theorem compactItems_eq_print (level : Nat) :
    ∀ items, compactItems items = printItems .dense level items
  | [] => by simp [compactItems, printItems]
  | v :: rest => by
    simp [compactItems, printItems, Spacing.dense, compact_eq_print level v,
      compactItems_eq_print level rest]

theorem compactMembers_eq_print (level : Nat) :
    ∀ members, compactMembers members = printMembers .dense level members
  | [] => by simp [compactMembers, printMembers]
  | (name, v) :: rest => by
    simp [compactMembers, printMembers, Spacing.dense, compact_eq_print level v,
      compactMembers_eq_print level rest]

end

mutual

/-- Text for people is printed with every item on a line of its own. -/
theorem spread_eq_print (level : Nat) : ∀ v : Value, v.spread level = v.print .lines level
  | .null | .bool true | .bool false | .integer _ | .text _ | .array [] | .object [] => by
    simp [spread, print]
  | .array (v :: rest) => by
    simp [spread, print, Spacing.lines, spread_eq_print (level + 1) v,
      spreadItems_eq_print (level + 1) rest]
  | .object ((name, v) :: rest) => by
    have hcolon : ": " = ":" ++ " " := rfl
    simp [spread, print, Spacing.lines, spread_eq_print (level + 1) v, hcolon,
      spreadMembers_eq_print (level + 1) rest, String.append_assoc]

theorem spreadItems_eq_print (level : Nat) :
    ∀ items, spreadItems level items = printItems .lines level items
  | [] => by simp [spreadItems, printItems]
  | v :: rest => by
    simp [spreadItems, printItems, Spacing.lines, spread_eq_print level v,
      spreadItems_eq_print level rest]

theorem spreadMembers_eq_print (level : Nat) :
    ∀ members, spreadMembers level members = printMembers .lines level members
  | [] => by simp [spreadMembers, printMembers]
  | (name, v) :: rest => by
    simp [spreadMembers, printMembers, Spacing.lines, spread_eq_print level v,
      spreadMembers_eq_print level rest, String.append_assoc]

end

/-! ## What is printed -/

open Token (Writes)

variable {s}

/-- Behind the items of a container its end may stand on a line of its own. -/
theorem writes_close {t : Token} {c : Char} (ht : t.word? = some [c])
    (hc : ¬ c.isDigit ∧ c ∉ ['.', 'e', 'E']) (level : Nat) {ts : List Token} {cs : List Char}
    (h : Writes ts cs) :
    Writes (t :: ts) ((s.gap level).toList ++ c :: cs) ∧
      EndsNumber ((s.gap level).toList ++ c :: cs) :=
  ⟨.spaces (s.gap_isSpace level) (.word ht h),
    .spaces (s.gap_isSpace level) (endsNumber_cons hc)⟩

mutual

/-- What is printed of a value writes its tokens, in front of anything that does not make a number
longer. -/
theorem writes_print (level : Nat) {ts : List Token} {cs : List Char} (h : Writes ts cs)
    (hcs : EndsNumber cs) :
    ∀ v : Value, Writes (v.tokens ++ ts) ((v.print s level).toList ++ cs)
  | .null => by
    have hall := Writes.word (t := .null) rfl h
    simpa [tokens, print] using hall
  | .bool true => by
    have hall := Writes.word (t := .bool true) rfl h
    simpa [tokens, print] using hall
  | .bool false => by
    have hall := Writes.word (t := .bool false) rfl h
    simpa [tokens, print] using hall
  | .integer n => .integer n hcs h
  | .text s => .text s h
  | .array [] => by
    have hall := Writes.word (t := .openArray) rfl (.word (t := .closeArray) rfl h)
    simpa [tokens, print] using hall
  | .object [] => by
    have hall := Writes.word (t := .openObject) rfl (.word (t := .closeObject) rfl h)
    simpa [tokens, print] using hall
  | .array (v :: rest) => by
    obtain ⟨hend, hgap⟩ := writes_close (s := s) (t := .closeArray) rfl (by decide) level h
    obtain ⟨hitems, hrest⟩ := writes_printItems (level + 1) hend hgap rest
    have hvalue := writes_print (level + 1) hitems hrest v
    have hall := Writes.word (t := .openArray) rfl (.spaces (s.gap_isSpace (level + 1)) hvalue)
    simpa [tokens, print] using hall
  | .object ((name, v) :: rest) => by
    obtain ⟨hend, hgap⟩ := writes_close (s := s) (t := .closeObject) rfl (by decide) level h
    obtain ⟨hmembers, hrest⟩ := writes_printMembers (level + 1) hend hgap rest
    have hvalue := writes_print (level + 1) hmembers hrest v
    have hmember := Writes.text name (.word (t := .colon) rfl (.spaces s.pad_isSpace hvalue))
    have hall := Writes.word (t := .openObject) rfl (.spaces (s.gap_isSpace (level + 1)) hmember)
    simpa [tokens, print] using hall

theorem writes_printItems (level : Nat) {ts : List Token} {cs : List Char} (h : Writes ts cs)
    (hcs : EndsNumber cs) : ∀ items : List Value,
      Writes (tokensOfItems items ++ ts) ((printItems s level items).toList ++ cs) ∧
        EndsNumber ((printItems s level items).toList ++ cs)
  | [] => ⟨h, hcs⟩
  | v :: rest => by
    obtain ⟨hitems, hrest⟩ := writes_printItems level h hcs rest
    have hvalue := writes_print level hitems hrest v
    have hall := Writes.word (t := .comma) rfl (.spaces (s.gap_isSpace level) hvalue)
    refine ⟨by simpa [tokensOfItems, printItems] using hall, ?_⟩
    simpa [printItems] using endsNumber_cons (by decide)

theorem writes_printMembers (level : Nat) {ts : List Token} {cs : List Char} (h : Writes ts cs)
    (hcs : EndsNumber cs) : ∀ members : List (String × Value),
      Writes (tokensOfMembers members ++ ts) ((printMembers s level members).toList ++ cs) ∧
        EndsNumber ((printMembers s level members).toList ++ cs)
  | [] => ⟨h, hcs⟩
  | (name, v) :: rest => by
    obtain ⟨hmembers, hrest⟩ := writes_printMembers level h hcs rest
    have hvalue := writes_print level hmembers hrest v
    have hmember := Writes.text name (.word (t := .colon) rfl (.spaces s.pad_isSpace hvalue))
    have hall := Writes.word (t := .comma) rfl (.spaces (s.gap_isSpace level) hmember)
    refine ⟨by simpa [tokensOfMembers, printMembers] using hall, ?_⟩
    simpa [printMembers] using endsNumber_cons (by decide)

end

end Value

/-! ## Building the tree -/

/-- A value may stand at the place. -/
inductive Place.TakesValue : Place → Prop
  | value : TakesValue .value
  | firstItem : TakesValue .firstItem
  | item : TakesValue .item

namespace Progress

/-- Where a value may stand, a token that does not end an array is taken for the beginning of
one. -/
theorem foldl_of_takesValue {place : Place} (hplace : place.TakesValue) (stack : List Frame)
    {t : Token} (ht : t ≠ .closeArray) (ts : List Token) :
    (t :: ts).foldl step (.reading place stack) = ts.foldl step (readValue stack t) := by
  refine congrArg (ts.foldl step) ?_
  cases hplace with
  | value => rfl
  | item => cases t <;> first | rfl | exact absurd rfl ht
  | firstItem =>
    cases t with
    | closeArray => exact absurd rfl ht
    | _ => rcases stack with _ | ⟨_ | _ | _, _⟩ <;> rfl

mutual

/-- Where a value may stand, its tokens build up its document. -/
theorem foldl_tokens {place : Place} (hplace : place.TakesValue) (stack : List Frame) :
    ∀ v : Value, v.tokens.foldl step (.reading place stack) = complete stack v.toDoc
  | .null | .bool _ | .integer _ | .text _ | .array [] | .object [] =>
    foldl_of_takesValue hplace stack (by nofun) _
  | .array (v :: rest) => by
    refine (foldl_of_takesValue hplace stack (by nofun) _).trans ?_
    rw [readValue, List.foldl_append, List.foldl_append, foldl_tokens .firstItem, complete,
      foldl_tokensOfItems, List.foldl_cons, List.foldl_nil, step, List.reverse_append,
      List.reverse_reverse]
    rfl
  | .object ((name, v) :: rest) => by
    refine (foldl_of_takesValue hplace stack (by nofun) _).trans ?_
    -- the name and the colon lead to the value
    show (v.tokens ++ Value.tokensOfMembers rest ++ [Token.closeObject]).foldl step
      (.reading .value (.member [] (.ok name) :: stack)) = _
    rw [List.foldl_append, List.foldl_append, foldl_tokens .value, complete,
      foldl_tokensOfMembers, List.foldl_cons, List.foldl_nil, step, List.reverse_append,
      List.reverse_reverse]
    rfl

/-- The tokens of further items add the documents of the items to an array. -/
theorem foldl_tokensOfItems (docs : List Doc) (outer : List Frame) : ∀ items : List Value,
    (Value.tokensOfItems items).foldl step (.reading .separator (.array docs :: outer)) =
      .reading .separator (.array ((Value.docsOfItems items).reverse ++ docs) :: outer)
  | [] => rfl
  | v :: rest => by
    rw [Value.tokensOfItems, List.foldl_cons, step, List.foldl_append, foldl_tokens .item,
      complete, foldl_tokensOfItems, Value.docsOfItems, List.reverse_cons, List.append_assoc]
    rfl

/-- The tokens of further members add the documents of the members to an object. -/
theorem foldl_tokensOfMembers (docs : List Member) (outer : List Frame) :
    ∀ members : List (String × Value),
      (Value.tokensOfMembers members).foldl step (.reading .separator (.object docs :: outer)) =
        .reading .separator (.object ((Value.docsOfMembers members).reverse ++ docs) :: outer)
  | [] => rfl
  | (name, v) :: rest => by
    rw [Value.tokensOfMembers, List.foldl_cons, List.foldl_cons, List.foldl_cons, step, step,
      readKey, step, List.foldl_append, foldl_tokens .value, complete, foldl_tokensOfMembers,
      Value.docsOfMembers, List.reverse_cons, List.append_assoc]
    rfl

end

end Progress

/-- A text that writes the tokens of a value is read as the document of the value, with nothing left
behind it. -/
theorem Doc.ofText_of_writes {v : Value} {text : String} (h : Token.Writes v.tokens text.toList) :
    Doc.ofText text = (v.toDoc, false) := by
  rw [Doc.ofText, h.scan_eq, Progress.foldl_tokens .value]
  rfl

/-- Compact text is read as the document of the value. -/
theorem Doc.ofText_compact (v : Value) : Doc.ofText v.compact = (v.toDoc, false) := by
  have h := Value.writes_print (s := .dense) 0 .nil nofun v
  rw [List.append_nil, List.append_nil, ← Value.compact_eq_print] at h
  exact Doc.ofText_of_writes h

/-- Text for people, on lines of its own, is read as the document of the value with its members
sorted. -/
theorem Doc.ofText_pretty (v : Value) :
    Doc.ofText (v.pretty ++ "\n") = (v.sorted.toDoc, false) := by
  have hend : Token.Writes [] ['\n'] := .space rfl .nil
  have h := Value.writes_print (s := .lines) 0 hend (endsNumber_cons (by decide)) v.sorted
  rw [List.append_nil, ← Value.spread_eq_print] at h
  refine Doc.ofText_of_writes ?_
  rw [Value.pretty, String.toList_append]
  exact h

/-- A text is read if the reader takes its document. -/
theorem Reader.ofText_eq_ok {α : Type} {read : Reader α} {text : String} {doc : Doc} {a : α}
    (htext : Doc.ofText text = (doc, false)) (hread : read doc = .ok a) :
    read.ofText text = .ok a := by
  rw [ofText, htext]
  simp only [hread]
  rfl

end TenantAccess.Json
