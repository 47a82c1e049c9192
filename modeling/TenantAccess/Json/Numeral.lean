import TenantAccess.Json.Fault

/-!
# JSON numbers

A `Numeral` is a number as it is written. As a value it is an integer when it is written as one and
fits 64 bits, and a binary floating point number otherwise. The floating point value is computed
from a significand of 64 bits by one multiplication or division by a power of ten, which is not
always the nearest value to what is written.
-/

namespace TenantAccess.Json

/-- A number as it is written. The integer part has no leading zeros, so it is kept as its value. -/
structure Numeral where
  negative : Bool := false
  whole : Nat
  /-- The digits behind the point; none when there is no point. -/
  fraction : List Nat := []
  /-- The exponent: whether it is negative, and its digits as a number. -/
  exponent : Option (Bool × Nat) := none
  deriving DecidableEq, Repr

/-- A number as a value. -/
inductive Number where
  | integer (n : Int)
  | float (x : Float)
  deriving Repr

namespace Numeral

/-! ## Reading -/

/-- The value of a decimal digit. -/
def digitValue (c : Char) : Nat := c.toNat - '0'.toNat

/-- The digits that a text begins with. -/
def leadingDigits (cs : List Char) : List Nat := (cs.takeWhile Char.isDigit).map digitValue

/-- What is behind the digits that a text begins with. -/
def afterDigits (cs : List Char) : List Char := cs.dropWhile Char.isDigit

/-- The number that digits write in base ten. -/
def ofDigits (digits : List Nat) : Nat := digits.foldl (fun n d => n * 10 + d) 0

/-- The fault of a number that breaks off before a text: for a reader that wants its value, and for
one that passes over it. -/
def brokenBefore (rest : List Char) : SyntaxFault × SyntaxFault :=
  (if rest.isEmpty then .endInValue else .invalidNumber, .invalidNumber)

/-- What is behind the sign that a text begins with, if it does. -/
def afterSign : List Char → List Char
  | '+' :: rest => rest
  | '-' :: rest => rest
  | cs => cs

/-- Reads the exponent that a text begins with, if there is one, for a number read so far. -/
def scanExponent (n : Numeral) : List Char → Except (SyntaxFault × SyntaxFault) (Numeral × List Char)
  | c :: rest =>
    if c = 'e' ∨ c = 'E' then
      if (leadingDigits (afterSign rest)).isEmpty then .error (brokenBefore (afterSign rest))
      else
        let e := (decide (rest.head? = some '-'), ofDigits (leadingDigits (afterSign rest)))
        .ok ({ n with exponent := some e }, afterDigits (afterSign rest))
    else .ok (n, c :: rest)
  | [] => .ok (n, [])

/-- Reads the fraction and the exponent that a text begins with, for an integer part read so far. -/
def scanFraction (n : Numeral) : List Char → Except (SyntaxFault × SyntaxFault) (Numeral × List Char)
  | '.' :: rest =>
    if (leadingDigits rest).isEmpty then .error (brokenBefore rest)
    else scanExponent { n with fraction := leadingDigits rest } (afterDigits rest)
  | cs => scanExponent n cs

/-- Reads the number that a text begins with, its sign read already. -/
def scanUnsigned (negative : Bool) : List Char →
    Except (SyntaxFault × SyntaxFault) (Numeral × List Char)
  | '0' :: rest =>
    if rest.head?.any Char.isDigit then .error (.invalidNumber, .invalidNumber)
    else scanFraction { negative, whole := 0 } rest
  | cs =>
    if (leadingDigits cs).isEmpty then .error (brokenBefore cs)
    else scanFraction { negative, whole := ofDigits (leadingDigits cs) } (afterDigits cs)

/-- Reads the number that a text begins with. -/
def scan : List Char → Except (SyntaxFault × SyntaxFault) (Numeral × List Char)
  | '-' :: rest => scanUnsigned true rest
  | cs => scanUnsigned false cs

theorem afterDigits_length (cs : List Char) : (afterDigits cs).length ≤ cs.length :=
  (List.dropWhile_sublist _).length_le

theorem afterDigits_length_lt {cs : List Char} (h : ¬ (leadingDigits cs).isEmpty) :
    (afterDigits cs).length < cs.length := by
  cases cs with
  | nil => simp [leadingDigits] at h
  | cons c rest =>
    by_cases hc : c.isDigit
    · simpa [afterDigits, List.dropWhile_cons, hc] using
        Nat.lt_succ_of_le (afterDigits_length rest)
    · simp [leadingDigits, hc] at h

theorem afterSign_length (cs : List Char) : (afterSign cs).length ≤ cs.length := by
  unfold afterSign
  split <;> simp

theorem scanExponent_length {n m : Numeral} {cs rest : List Char}
    (h : scanExponent n cs = .ok (m, rest)) : rest.length ≤ cs.length := by
  cases cs with
  | nil => simp only [scanExponent, Except.ok.injEq, Prod.mk.injEq] at h; simp [← h.2]
  | cons c cs =>
    simp only [scanExponent] at h
    split at h
    · split at h
      · cases h
      · simp only [Except.ok.injEq, Prod.mk.injEq] at h
        rw [← h.2]
        exact Nat.le_trans (afterDigits_length _) (Nat.le_trans (afterSign_length _) (by simp))
    · simp only [Except.ok.injEq, Prod.mk.injEq] at h; simp [← h.2]

theorem scanFraction_length {n m : Numeral} {cs rest : List Char}
    (h : scanFraction n cs = .ok (m, rest)) : rest.length ≤ cs.length := by
  unfold scanFraction at h
  split at h
  · split at h
    · cases h
    · have := afterDigits_length ‹List Char›
      have := scanExponent_length h
      simp only [List.length_cons]; omega
  · exact scanExponent_length h

theorem scanUnsigned_length {negative : Bool} {m : Numeral} {cs rest : List Char}
    (h : scanUnsigned negative cs = .ok (m, rest)) : rest.length < cs.length := by
  unfold scanUnsigned at h
  split at h
  · split at h
    · cases h
    · have := scanFraction_length h
      simp only [List.length_cons]; omega
  · split at h
    · cases h
    · rename_i hd
      have := afterDigits_length_lt hd
      have := scanFraction_length h
      omega

theorem scan_length {m : Numeral} {cs rest : List Char} (h : scan cs = .ok (m, rest)) :
    rest.length < cs.length := by
  unfold scan at h
  split at h
  · have := scanUnsigned_length h
    simp only [List.length_cons]; omega
  · exact scanUnsigned_length h

/-! ## The value -/

/-- The least number that does not fit 64 bits. -/
def wordLimit : Nat := 18446744073709551616

/-- The greatest beginning of a number's digits that fits 64 bits, and how many digits are left
out. -/
def leadingWord (n : Nat) : Nat × Nat :=
  if n < wordLimit then (n, 0)
  else
    let (word, dropped) := leadingWord (n / 10)
    (word, dropped + 1)
termination_by n
decreasing_by simp_all [wordLimit]; omega

/-- Takes in the digits behind the point for as long as the significand fits 64 bits; each digit
taken in lowers the exponent by one, and the digits after the first that does not fit are lost. -/
def absorb (significand : Nat) (exponent : Int) : List Nat → Nat × Int
  | [] => (significand, exponent)
  | d :: rest =>
    if significand * 10 + d < wordLimit then absorb (significand * 10 + d) (exponent - 1) rest
    else (significand, exponent)

/-- Ten to the power of a number, as a floating point number. -/
def powerOfTen (n : Nat) : Float := Float.ofScientific 1 false n

/-- A floating point number times ten to the power of `e`. Powers above the 308th are out of reach
of one step: a large one is out of range, and a small one is reached by several divisions. -/
def scaled (x : Float) (e : Int) : Except SyntaxFault Float :=
  if h : 308 < e.natAbs then
    if x == 0 then .ok x
    else if hneg : 0 ≤ e then .error .numberOutOfRange
    else scaled (x / powerOfTen 308) (e + 308)
  else if 0 ≤ e then
    let y := x * powerOfTen e.natAbs
    if y.isInf then .error .numberOutOfRange else .ok y
  else .ok (x / powerOfTen e.natAbs)
termination_by e.natAbs
decreasing_by omega

/-- The least number that an exponent of 32 bits does not hold. -/
def exponentLimit : Nat := 2147483648

/-- The exponent, kept within 32 bits. -/
def clampExponent (e : Int) : Int :=
  max (-(exponentLimit : Int)) (min e ((exponentLimit : Int) - 1))

/-- The floating point value of a number. -/
def toFloat (n : Numeral) : Except SyntaxFault Float :=
  let (word, dropped) := leadingWord n.whole
  let (significand, start) := absorb word dropped n.fraction
  let x := (UInt64.ofNat significand).toFloat
  let magnitude :=
    match n.exponent with
    | none => scaled x start
    | some (down, e) =>
      if exponentLimit ≤ e then
        if significand ≠ 0 ∧ !down then .error .numberOutOfRange else .ok 0
      else scaled x (clampExponent (if down then start - e else start + e))
  if n.negative then magnitude.map fun y => -y else magnitude

/-- The value of a number. Zero with a minus sign is no integer. -/
def value (n : Numeral) : Except SyntaxFault Number :=
  if n.fraction.isEmpty && n.exponent.isNone && !n.negative && n.whole < wordLimit then
    .ok (.integer n.whole)
  else if n.fraction.isEmpty && n.exponent.isNone && n.negative && 0 < n.whole
      && n.whole ≤ wordLimit / 2 then
    .ok (.integer (-(n.whole : Int)))
  else n.toFloat.map .float

/-- An integer as it is written. -/
def ofInt (n : Int) : Numeral := { negative := n < 0, whole := n.natAbs }

end Numeral

end TenantAccess.Json
