import TenantAccess.Text.Shapeless

/-!
# Quoted texts

A text is quoted in messages between double quotes. The quote, the backslash, NUL, tab, carriage
return and line feed are written with a backslash and a letter, and characters without a shape of
their own by their code point in lower-case hexadecimal. All else stands for itself.
-/

namespace TenantAccess.Text

/-- The letter that stands for a character behind a backslash. -/
def escapeLetter? : Char → Option Char
  | '"' => some '"'
  | '\\' => some '\\'
  | '\x00' => some '0'
  | '\t' => some 't'
  | '\r' => some 'r'
  | '\n' => some 'n'
  | _ => none

/-- A character inside of a quoted text. -/
def quoteChar (c : Char) : List Char :=
  match escapeLetter? c with
  | some letter => ['\\', letter]
  | none =>
    if isShapeless c then ['\\', 'u', '{'] ++ Nat.toDigits 16 c.toNat ++ ['}'] else [c]

/-- The text between double quotes. -/
def quote (s : String) : String :=
  String.ofList ('"' :: s.toList.flatMap quoteChar ++ ['"'])

end TenantAccess.Text
