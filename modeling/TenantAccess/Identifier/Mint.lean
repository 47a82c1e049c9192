import TenantAccess.Identifier

/-!
# Minting identifiers

A fresh identifier is the text of a UUID of version 7: 128 bits that begin with the time in
milliseconds, followed by a serial number within that time and by noise, with the version and the
variant at their fixed places, written as 32 lower-case hexadecimal digits in groups of
8, 4, 4, 4 and 12. The time and the serial number never go back, so texts minted one after the other
differ and ascend.
-/

namespace TenantAccess.Identifier

/-- Where minting stands: the time and the serial number of the last identifier. -/
structure Mint where
  /-- The time in milliseconds. -/
  moment : Nat := 0
  /-- The number of the identifier within that time, of 42 bits. -/
  serial : Nat := 0
  deriving DecidableEq, Repr

namespace Mint

/-- The number after the last serial number: 42 bits. -/
def serialLimit : Nat := 1 <<< 42

/-- The place of the next identifier when the clock shows `clock`. A clock that stands still or goes
back only raises the serial number; one serial number past the last is the first of the next
moment. -/
def next (m : Mint) (clock : Nat) : Mint :=
  if m.moment < clock then { moment := clock, serial := 0 }
  else if m.serial + 1 < serialLimit then { m with serial := m.serial + 1 }
  else { moment := m.moment + 1, serial := 0 }

/-- The fields of the identifier at this place, each with its width in bits: the time, the version,
the upper part of the serial number, the variant, the lower part, and noise. -/
def fields (m : Mint) (noise : Nat) : List (Nat × Nat) :=
  [(48, m.moment), (4, 7), (12, m.serial >>> 30), (2, 2), (30, m.serial), (32, noise)]

/-- The fields side by side as one number; what exceeds the width of a field is left out. -/
def bits (m : Mint) (noise : Nat) : Nat :=
  (m.fields noise).foldl (fun n f => (n <<< f.1) + f.2 % (1 <<< f.1)) 0

end Mint

/-- The hexadecimal digit of a number below 16. -/
def hexDigit (n : Nat) : Char :=
  if n < 10 then Char.ofNat (48 + n) else Char.ofNat (87 + n)

/-- The last `count` hexadecimal digits of a number, leading zeros kept. -/
def hexDigits : Nat → Nat → List Char
  | 0, _ => []
  | count + 1, n => hexDigits count (n / 16) ++ [hexDigit (n % 16)]

/-- Cuts a list into groups of the given lengths, with a hyphen between any two. -/
def hyphenated : List Nat → List Char → List Char
  | [], _ => []
  | [n], cs => cs.take n
  | n :: rest, cs => cs.take n ++ '-' :: hyphenated rest (cs.drop n)

/-- The lengths of the groups of a written UUID. -/
def uuidGroups : List Nat := [8, 4, 4, 4, 12]

/-- A fresh identifier and the place of minting behind it. -/
def mint {kind : IdKind} (m : Mint) (clock noise : Nat) : Identifier kind × Mint :=
  let m := m.next clock
  (⟨String.ofList (hyphenated uuidGroups (hexDigits 32 (m.bits noise)))⟩, m)

/-- Whether a character is a lower-case hexadecimal digit. -/
def isLowerHex (c : Char) : Bool :=
  c.isDigit || ('a' ≤ c && c ≤ 'f')

/-- Whether an identifier is written as a UUID of version 7: lower-case hexadecimal digits in the
groups of `uuidGroups`, the version at the head of the third group, and one of the four digits of the
variant at the head of the fourth. -/
def isUuid7 {kind : IdKind} (id : Identifier kind) : Bool :=
  let digits := id.text.toList.filter (· ≠ '-')
  digits.length == 32 && digits.all isLowerHex
    && hyphenated uuidGroups digits == id.text.toList
    && digits[12]? == some '7'
    && (digits[16]?.any fun c => c == '8' || c == '9' || c == 'a' || c == 'b')

end TenantAccess.Identifier
