import TenantAccess.Json.Numeral

/-!
# JSON tokens

A JSON text is cut into tokens from the left, up to the first place where it is broken. Some faults
depend on what a reader is after: half a surrogate pair has no text, but a reader that passes over
the string never asks for it. A token therefore carries what a reader that wants its value meets,
and the broken token that ends a list carries both faults.
-/

namespace TenantAccess.Json

/-- A piece of a JSON text. -/
inductive Token where
  | openArray | closeArray | openObject | closeObject | comma | colon
  | null
  | bool (b : Bool)
  | number (n : Numeral)
  /-- A string that ends; its text, unless it holds half a surrogate pair. -/
  | text (s : Except SyntaxFault String)
  /-- A string that is broken, for a reader that wants it and for one that passes over it. -/
  | brokenText (wanted passed : SyntaxFault)
  /-- Anything else that is broken, for a reader that wants it and for one that passes over it. -/
  | broken (wanted passed : SyntaxFault)

namespace Token

/-! ## Strings -/

/-- The value of a hexadecimal digit. -/
def hexValue? (c : Char) : Option Nat :=
  if c.isDigit then some (c.toNat - '0'.toNat)
  else if 'a' ≤ c ∧ c ≤ 'f' then some (c.toNat - 'a'.toNat + 10)
  else if 'A' ≤ c ∧ c ≤ 'F' then some (c.toNat - 'A'.toNat + 10)
  else none

/-- The number that four hexadecimal digits write. -/
def hexNumber? (a b c d : Char) : Option Nat := do
  return (((← hexValue? a) * 16 + (← hexValue? b)) * 16 + (← hexValue? c)) * 16 + (← hexValue? d)

/-- The character that a letter behind a backslash stands for. -/
def escaped? : Char → Option Char
  | '"' => some '"'
  | '\\' => some '\\'
  | '/' => some '/'
  | 'b' => some '\x08'
  | 'f' => some '\x0c'
  | 'n' => some '\n'
  | 'r' => some '\r'
  | 't' => some '\t'
  | _ => none

/-- Whether a number is the first half of a surrogate pair. -/
def isHighSurrogate (n : Nat) : Bool := 0xD800 ≤ n && n ≤ 0xDBFF

/-- Whether a number is the second half of a surrogate pair. -/
def isLowSurrogate (n : Nat) : Bool := 0xDC00 ≤ n && n ≤ 0xDFFF

/-- The character of a surrogate pair. -/
def ofSurrogates (high low : Nat) : Char :=
  Char.ofNat (0x10000 + (high - 0xD800) * 0x400 + (low - 0xDC00))

/-- The text of a string as far as it is read: its characters, the last first, or the first fault
that a reader of the text has met. -/
abbrev TextSoFar := Except SyntaxFault (List Char)

namespace TextSoFar

/-- The text with one more character. -/
def push (t : TextSoFar) (c : Char) : TextSoFar := t.map (c :: ·)

/-- The text with a fault, which an earlier one hides. -/
def fail (t : TextSoFar) (f : SyntaxFault) : TextSoFar := t.bind fun _ => .error f

/-- The fault of a string that breaks off with `f`. -/
def faultOr (t : TextSoFar) (f : SyntaxFault) : SyntaxFault :=
  match t with
  | .ok _ => f
  | .error earlier => earlier

/-- The text when the first half of a surrogate pair was read and no second half follows. -/
def unpaired (t : TextSoFar) (high : Option Nat) : TextSoFar :=
  if high.isSome then t.fail .unpairedSurrogate else t

/-- The text with the number of a `\u` escape, behind the first half of a surrogate pair or not. -/
def pushNumber (t : TextSoFar) (high : Option Nat) (n : Nat) : TextSoFar :=
  match high with
  | some h => if isLowSurrogate n then t.push (ofSurrogates h n) else t.fail .loneSurrogate
  | none =>
    if isLowSurrogate n then t.fail .loneSurrogate
    else if isHighSurrogate n then t
    else t.push (Char.ofNat n)

end TextSoFar

/-- Reads a string to its closing quote. `high` is the first half of a surrogate pair when the last
escape was one. Gives the string's token and what is behind it, or the broken token. -/
def scanText (high : Option Nat) (t : TextSoFar) : List Char → Token × List Char
  | [] => (.brokenText (t.faultOr .endInText) .endInText, [])
  | '"' :: rest => (.text ((t.unpaired high).map fun cs => String.ofList cs.reverse), rest)
  | ['\\'] => (.brokenText (t.faultOr .endInText) .endInText, [])
  | '\\' :: 'u' :: a :: b :: c :: d :: rest =>
    match hexNumber? a b c d with
    | none => (.brokenText (t.faultOr .invalidEscape) .invalidEscape, [])
    | some n =>
      scanText (if high.isNone && isHighSurrogate n then some n else none) (t.pushNumber high n) rest
  | '\\' :: 'u' :: rest =>
    let fault := if 4 ≤ (String.ofList rest).utf8ByteSize then .invalidEscape else .endInText
    (.brokenText (t.faultOr fault) fault, [])
  | '\\' :: c :: rest =>
    match escaped? c with
    | none => (.brokenText ((t.unpaired high).faultOr .invalidEscape) .invalidEscape, [])
    | some e => scanText none ((t.unpaired high).push e) rest
  | c :: rest =>
    if c.toNat < 0x20 then
      (.brokenText ((t.unpaired high).faultOr .controlCharacter) .controlCharacter, [])
    else scanText none ((t.unpaired high).push c) rest

theorem scanText_length (high : Option Nat) (t : TextSoFar) (cs : List Char) :
    (scanText high t cs).2.length ≤ cs.length := by
  fun_induction scanText high t cs <;> simp_all <;> omega

/-! ## The whole text -/

/-- The fault of a word that should go on as `expected`. -/
def wordFault : List Char → List Char → SyntaxFault
  | _, [] => .endInValue
  | [], _ => .expectedIdent
  | e :: expected, c :: cs => if e = c then wordFault expected cs else .expectedIdent

/-- The broken token with one fault for all readers. -/
def brokenFor (f : SyntaxFault) : Token := .broken f f

/-- The token that a text with at least one character begins with, and what is behind it. The text
does not begin with white space. -/
def scanOne : List Char → Token × List Char
  | '[' :: rest => (.openArray, rest)
  | ']' :: rest => (.closeArray, rest)
  | '{' :: rest => (.openObject, rest)
  | '}' :: rest => (.closeObject, rest)
  | ',' :: rest => (.comma, rest)
  | ':' :: rest => (.colon, rest)
  | '"' :: rest => scanText none (.ok []) rest
  | 'n' :: 'u' :: 'l' :: 'l' :: rest => (.null, rest)
  | 'n' :: rest => (brokenFor (wordFault ['u', 'l', 'l'] rest), [])
  | 't' :: 'r' :: 'u' :: 'e' :: rest => (.bool true, rest)
  | 't' :: rest => (brokenFor (wordFault ['r', 'u', 'e'] rest), [])
  | 'f' :: 'a' :: 'l' :: 's' :: 'e' :: rest => (.bool false, rest)
  | 'f' :: rest => (brokenFor (wordFault ['a', 'l', 's', 'e'] rest), [])
  | c :: rest =>
    if c = '-' ∨ c.isDigit then
      match Numeral.scan (c :: rest) with
      | .ok (n, behind) => (.number n, behind)
      | .error (wanted, passed) => (.broken wanted passed, [])
    else (brokenFor .expectedValue, [])
  | [] => (brokenFor .endInValue, [])

theorem scanOne_length {cs : List Char} (h : cs ≠ []) : (scanOne cs).2.length < cs.length := by
  unfold scanOne
  split
  case h_7 rest => exact Nat.lt_succ_of_le (scanText_length ..)
  case h_14 c rest _ _ _ _ _ _ _ _ _ _ _ =>
    split
    · split
      · exact Numeral.scan_length ‹_›
      · simp
    · simp
  case h_15 => exact absurd rfl h
  all_goals simp <;> omega

/-- Whether a token is broken; the text behind it is not read. -/
def isBroken : Token → Bool
  | .brokenText .. | .broken .. => true
  | _ => false

/-- The white space of JSON. -/
def isSpace (c : Char) : Bool := c = ' ' || c = '\t' || c = '\n' || c = '\r'

/-- The tokens of a text; when the last is broken, it is where reading ends. -/
def scan : List Char → List Token
  | [] => []
  | c :: rest =>
    if isSpace c then scan rest
    else
      let one := scanOne (c :: rest)
      if one.1.isBroken then [one.1] else one.1 :: scan one.2
termination_by cs => cs.length
decreasing_by
  · simp
  · exact scanOne_length (by simp)

end Token

end TenantAccess.Json
