import Mathlib.Data.List.Basic
import TenantAccess.Json.Token
import TenantAccess.Json.Value

/-!
# Cutting a written text into tokens

`Token.Writes` says which texts write a sequence of tokens: the spelling of one token after the
other, with white space before, between and behind them as one likes. The main statement is
`Token.Writes.scan_eq`: cutting such a text gives the tokens back. It rests on the two tokens whose
spelling is no fixed word: what is read behind a quote is the string that was quoted
(`Token.scanText_quote`), and what is read where a decimal stands is the integer
(`Numeral.scan_toString`), as long as nothing follows that would make a number longer
(`EndsNumber`).
-/

namespace TenantAccess.Json

/-! ## Numerals -/

/-- The text does not go on as a number would. -/
def EndsNumber (cs : List Char) : Prop :=
  ∀ c ∈ cs.head?, ¬ c.isDigit ∧ c ∉ ['.', 'e', 'E']

theorem endsNumber_cons {c : Char} {cs : List Char} (hc : ¬ c.isDigit ∧ c ∉ ['.', 'e', 'E']) :
    EndsNumber (c :: cs) := by
  rintro _ ⟨⟩
  exact hc

/-- White space ends a number, and if there is none, what follows it decides. -/
theorem EndsNumber.spaces {pad cs : List Char} (hpad : ∀ c ∈ pad, Token.isSpace c)
    (h : EndsNumber cs) : EndsNumber (pad ++ cs) := by
  cases pad with
  | nil => exact h
  | cons c pad =>
    have hc := hpad c List.mem_cons_self
    simp only [Token.isSpace, Bool.or_eq_true, decide_eq_true_eq] at hc
    obtain ((rfl | rfl) | rfl) | rfl := hc <;> exact endsNumber_cons (by decide)

namespace Numeral

variable {rest : List Char}

theorem digitValue_digitChar {d : Nat} (h : d < 10) : digitValue (Nat.digitChar d) = d := by
  have hall : ∀ d < 10, digitValue (Nat.digitChar d) = d := by decide
  exact hall d h

/-- The decimal digits of a number write it. -/
theorem ofDigits_toDigits (n : Nat) : ofDigits ((Nat.toDigits 10 n).map digitValue) = n := by
  induction n using Nat.strongRecOn with
  | ind n ih =>
    rcases Nat.lt_or_ge n 10 with hlt | hge
    · rw [Nat.toDigits_of_lt_base hlt]
      simp [ofDigits, digitValue_digitChar hlt]
    · have hdiv := ih (n / 10) (by omega)
      rw [ofDigits] at hdiv ⊢
      rw [Nat.toDigits_of_base_le (by decide) hge, List.map_append, List.foldl_append, hdiv]
      have hlast := digitValue_digitChar (Nat.mod_lt n (show 10 > 0 by decide))
      simp only [List.map_cons, List.map_nil, List.foldl_cons, List.foldl_nil, hlast]
      omega

/-- The digits of a number end where the number ends. -/
theorem span_digits {digits : List Char} (hdigits : ∀ c ∈ digits, c.isDigit)
    (hrest : EndsNumber rest) :
    leadingDigits (digits ++ rest) = digits.map digitValue ∧
      afterDigits (digits ++ rest) = rest := by
  have hnone : rest.takeWhile Char.isDigit = [] ∧ rest.dropWhile Char.isDigit = rest := by
    cases rest with
    | nil => exact ⟨rfl, rfl⟩
    | cons c rest => simp [(hrest c rfl).1]
  rw [leadingDigits, afterDigits, List.takeWhile_append_of_pos hdigits,
    List.dropWhile_append_of_pos hdigits, hnone.1, hnone.2, List.append_nil]
  exact ⟨rfl, rfl⟩

/-- Behind a number that ends there is no fraction and no exponent. -/
theorem scanFraction_of_endsNumber (n : Numeral) (hrest : EndsNumber rest) :
    scanFraction n rest = .ok (n, rest) := by
  cases rest with
  | nil => rfl
  | cons c rest =>
    have hc := (hrest c rfl).2
    simp only [List.mem_cons, List.not_mem_nil, or_false, not_or] at hc
    rw [scanFraction, scanExponent, if_neg (not_or.2 hc.2)]
    exact fun rest' heq => hc.1 (List.cons.inj heq).1

/-- A text that begins with the digits of a number begins with the first of them. -/
theorem head?_toDigits_append {n : Nat} {c : Char} {cs : List Char}
    (h : Nat.toDigits 10 n ++ rest = c :: cs) : (Nat.toDigits 10 n).head? = some c := by
  have hhead : (Nat.toDigits 10 n ++ rest).head? = some c := by rw [h]; rfl
  rwa [List.head?_append_of_ne_nil _ Nat.toDigits_ne_nil] at hhead

/-- The decimal digits of a number do not begin with a zero, unless they are one. -/
theorem head?_toDigits {n : Nat} (h : 0 < n) : (Nat.toDigits 10 n).head? ≠ some '0' := by
  induction n using Nat.strongRecOn with
  | ind n ih =>
    rcases Nat.lt_or_ge n 10 with hlt | hge
    · rw [Nat.toDigits_of_lt_base hlt]
      have hall : ∀ d < 10, 0 < d → Nat.digitChar d ≠ '0' := by decide
      simpa using hall n hlt h
    · rw [Nat.toDigits_of_base_le (by decide) hge,
        List.head?_append_of_ne_nil _ Nat.toDigits_ne_nil]
      exact ih (n / 10) (by omega) (by omega)

/-- Reading the decimal digits of a number gives the number. -/
theorem scanUnsigned_toDigits (negative : Bool) (n : Nat) (hrest : EndsNumber rest) :
    scanUnsigned negative (Nat.toDigits 10 n ++ rest) = .ok ({ negative, whole := n }, rest) := by
  rcases Nat.eq_zero_or_pos n with rfl | hpos
  · have hhead : ¬ rest.head?.any Char.isDigit := by
      cases rest with
      | nil => nofun
      | cons c rest => exact (hrest c rfl).1
    have hzero : Nat.toDigits 10 0 = ['0'] := by decide
    rw [hzero, List.singleton_append, scanUnsigned, if_neg hhead]
    exact scanFraction_of_endsNumber _ hrest
  · have hdigits : ∀ c ∈ Nat.toDigits 10 n, c.isDigit := fun c hc =>
      Nat.isDigit_of_mem_toDigits (by decide) (by decide) hc
    obtain ⟨hlead, hafter⟩ := span_digits hdigits hrest
    have hne : ¬ (leadingDigits (Nat.toDigits 10 n ++ rest)).isEmpty := by
      simp [hlead, Nat.toDigits_ne_nil]
    rw [scanUnsigned, if_neg hne, hlead, hafter, ofDigits_toDigits]
    · exact scanFraction_of_endsNumber _ hrest
    · intro rest' heq
      exact head?_toDigits hpos (head?_toDigits_append heq)

/-- An integer is written as its digits, behind a sign when it is negative. -/
theorem toList_toString (n : Int) :
    (toString n).toList = (if n < 0 then ['-'] else []) ++ Nat.toDigits 10 n.natAbs := by
  rw [Int.toString_eq_repr, Int.repr_eq_if]
  split_ifs with hpos hneg hneg
  · omega
  · rw [Nat.repr_eq_ofList_toDigits, String.toList_ofList, show n.toNat = n.natAbs by omega]
    rfl
  · have hdigits : (Nat.repr (-n).toNat).toList = Nat.toDigits 10 n.natAbs := by
      rw [Nat.repr_eq_ofList_toDigits, String.toList_ofList, show (-n).toNat = n.natAbs by omega]
    rw [String.toList_append, hdigits]
    rfl
  · omega

/-- An integer begins with a sign or a digit. -/
theorem exists_toString (n : Int) :
    ∃ c rest, (toString n).toList = c :: rest ∧ (c = '-' ∨ c.isDigit) := by
  rw [toList_toString]
  split_ifs with hneg
  · exact ⟨_, _, rfl, .inl rfl⟩
  · obtain ⟨c, rest, heq⟩ :=
      List.exists_cons_of_ne_nil (Nat.toDigits_ne_nil (b := 10) (n := n.natAbs))
    rw [List.nil_append, heq]
    have hmem : c ∈ Nat.toDigits 10 n.natAbs := heq ▸ List.mem_cons_self
    exact ⟨c, rest, rfl, .inr (Nat.isDigit_of_mem_toDigits (by decide) (by decide) hmem)⟩

/-- Reading an integer where it is written gives the integer. -/
theorem scan_toString (n : Int) (hrest : EndsNumber rest) :
    scan ((toString n).toList ++ rest) = .ok (ofInt n, rest) := by
  rw [toList_toString, ofInt]
  by_cases hneg : n < 0
  · rw [if_pos hneg, decide_eq_true hneg]
    exact scanUnsigned_toDigits true n.natAbs hrest
  · rw [if_neg hneg, decide_eq_false hneg, List.nil_append, scan]
    · exact scanUnsigned_toDigits false n.natAbs hrest
    · intro rest' heq
      have hmem : '-' ∈ Nat.toDigits 10 n.natAbs :=
        List.mem_of_mem_head? (head?_toDigits_append heq)
      exact absurd (Nat.isDigit_of_mem_toDigits (by decide) (by decide) hmem) (by decide)

end Numeral

/-! ## Strings -/

namespace Token

open Value (quoteChar escapeLetter? quote)

variable {rest : List Char}

/-- The number of a control character is read where it is written with four digits. -/
theorem hexNumber?_digitChar {n : Nat} (h : n < 32) :
    hexNumber? '0' '0' (Nat.digitChar (n / 16)) (Nat.digitChar (n % 16)) = some n := by
  have hall : ∀ n < 32,
      hexNumber? '0' '0' (Nat.digitChar (n / 16)) (Nat.digitChar (n % 16)) = some n := by decide
  exact hall n h

/-- What is read where a character is quoted is the character. -/
theorem scanText_quoteChar (c : Char) (cs : List Char) :
    scanText none (.ok cs) (quoteChar c ++ rest) = scanText none (.ok (c :: cs)) rest := by
  rw [quoteChar]
  split
  · rename_i letter hletter
    unfold escapeLetter? at hletter
    split at hletter <;> cases hletter <;> rfl
  · rename_i hplain
    split_ifs with hcontrol
    · have hlow : ¬ isLowSurrogate c.toNat := by simp [isLowSurrogate]; omega
      have hhigh : ¬ isHighSurrogate c.toNat := by simp [isHighSurrogate]; omega
      simp only [List.cons_append, List.nil_append]
      rw [scanText, hexNumber?_digitChar hcontrol]
      simp [TextSoFar.pushNumber, TextSoFar.push, Except.map, hlow, hhigh]
    · have hback : c ≠ '\\' := by
        rintro rfl
        cases hplain
      have hquote : c ≠ '"' := by
        rintro rfl
        cases hplain
      rw [List.singleton_append, scanText, if_neg hcontrol]
      · rfl
      · exact hquote
      all_goals simp [hback]

/-- What is read behind a quote is the string that was quoted. -/
theorem scanText_quote (s : String) (rest : List Char) :
    scanOne ((quote s).toList ++ rest) = (.text (.ok s), rest) := by
  have hall : ∀ cs before, scanText none (.ok before) (cs.flatMap quoteChar ++ '"' :: rest) =
      (.text (.ok (String.ofList (before.reverse ++ cs))), rest) := by
    intro cs
    induction cs with
    | nil =>
      intro before
      simp [scanText, TextSoFar.unpaired, Except.map]
    | cons c cs ih =>
      intro before
      rw [List.flatMap_cons, List.append_assoc, scanText_quoteChar, ih]
      simp
  have hs := hall s.toList []
  rw [List.reverse_nil, List.nil_append, String.ofList_toList] at hs
  rw [quote, String.toList_ofList, ← hs]
  simp [scanOne]

/-! ## Whole texts -/

/-- The spelling of a token that is always spelt alike. -/
def word? : Token → Option (List Char)
  | .openArray => some ['[']
  | .closeArray => some [']']
  | .openObject => some ['{']
  | .closeObject => some ['}']
  | .comma => some [',']
  | .colon => some [':']
  | .null => some ['n', 'u', 'l', 'l']
  | .bool true => some ['t', 'r', 'u', 'e']
  | .bool false => some ['f', 'a', 'l', 's', 'e']
  | .number _ | .text _ | .brokenText .. | .broken .. => none

/-- The text spells the tokens one after the other; white space may stand before, between and behind
them. -/
inductive Writes : List Token → List Char → Prop
  | nil : Writes [] []
  | space {c : Char} {ts : List Token} {cs : List Char} (hc : isSpace c) (h : Writes ts cs) :
      Writes ts (c :: cs)
  | word {t : Token} {w : List Char} {ts : List Token} {cs : List Char} (hw : t.word? = some w)
      (h : Writes ts cs) : Writes (t :: ts) (w ++ cs)
  | text (s : String) {ts : List Token} {cs : List Char} (h : Writes ts cs) :
      Writes (.text (.ok s) :: ts) ((quote s).toList ++ cs)
  | integer (n : Int) {ts : List Token} {cs : List Char} (hcs : EndsNumber cs)
      (h : Writes ts cs) : Writes (.number (.ofInt n) :: ts) ((toString n).toList ++ cs)

/-- White space may stand in front of a text. -/
theorem Writes.spaces {ts : List Token} {pad cs : List Char} (hpad : ∀ c ∈ pad, isSpace c)
    (h : Writes ts cs) : Writes ts (pad ++ cs) := by
  induction pad with
  | nil => exact h
  | cons c pad ih =>
    obtain ⟨hc, hpad⟩ := List.forall_mem_cons.1 hpad
    exact .space hc (ih hpad)

/-- A token that is sound is cut off, and the rest is cut up. -/
theorem scan_of_scanOne {t : Token} {c : Char} {cs : List Char} (hc : ¬ isSpace c)
    (ht : ¬ t.isBroken) (hone : scanOne (c :: cs) = (t, rest)) :
    scan (c :: cs) = t :: scan rest := by
  rw [scan, if_neg hc]
  simp only [hone]
  rw [if_neg ht]

/-- Where a token is spelt that is always spelt alike, it is read. -/
theorem scanOne_word {t : Token} {w : List Char} (hw : t.word? = some w) :
    ∃ c cs, w = c :: cs ∧ ¬ isSpace c ∧ ¬ t.isBroken ∧
      ∀ rest, scanOne (c :: (cs ++ rest)) = (t, rest) := by
  unfold word? at hw
  split at hw <;> cases hw <;> exact ⟨_, _, rfl, by decide, nofun, fun _ => rfl⟩

/-- Where a sign or a digit stands a number is read. -/
theorem scanOne_of_number {c : Char} {cs : List Char} {n : Numeral} (hc : c = '-' ∨ c.isDigit)
    (hscan : Numeral.scan (c :: cs) = .ok (n, rest)) :
    scanOne (c :: cs) = (.number n, rest) := by
  unfold scanOne
  split
  case h_14 =>
    rename_i heq
    obtain ⟨rfl, rfl⟩ := List.cons.inj heq
    rw [if_pos hc, hscan]
  case h_15 heq => cases heq
  all_goals
    rename_i heq
    obtain ⟨rfl, -⟩ := List.cons.inj heq
    exact absurd hc (by decide)

/-- Cutting up a text that writes tokens gives the tokens. -/
theorem Writes.scan_eq {ts : List Token} {cs : List Char} (h : Writes ts cs) : scan cs = ts := by
  induction h with
  | nil => rw [scan]
  | space hc _ ih => rw [scan, if_pos hc, ih]
  | @word t w ts cs hw _ ih =>
    obtain ⟨c, rest, rfl, hc, ht, hone⟩ := scanOne_word hw
    rw [List.cons_append, scan_of_scanOne hc ht (hone cs), ih]
  | @text s ts cs _ ih =>
    have hone := scanText_quote s cs
    rw [quote, String.toList_ofList, List.cons_append, List.cons_append] at hone ⊢
    rw [scan_of_scanOne (by decide) (by simp [isBroken]) hone, ih]
  | @integer n ts cs hcs _ ih =>
    have hscan := Numeral.scan_toString n hcs
    obtain ⟨c, rest, heq, hc⟩ := Numeral.exists_toString n
    have hspace : ¬ isSpace c := by
      rcases hc with rfl | hc
      · decide
      · intro hspace
        simp only [isSpace, Bool.or_eq_true, decide_eq_true_eq] at hspace
        obtain ((rfl | rfl) | rfl) | rfl := hspace <;> exact absurd hc (by decide)
    rw [heq, List.cons_append] at hscan ⊢
    rw [scan_of_scanOne hspace (by simp [isBroken]) (scanOne_of_number hc hscan), ih]

end Token

end TenantAccess.Json
