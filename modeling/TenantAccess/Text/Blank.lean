/-!
# Blank text

White space is the Unicode property `White_Space`. A text is blank when it holds nothing else, and
`trim` takes white space off both ends and off the ends only (`trim_eq`). A trimmed text is a fixed
point (`trim_trim`), and it is empty exactly when the text was blank (`trim_eq_empty_iff`), so that
"blank" and "nothing is left after trimming" are one test. The fixed points are the texts with no
white space at either end (`trim_eq_self_iff`), and what is trimmed to one of them is that text with
white space around it (`trim_eq_iff_isPaddingOf`).
-/

namespace TenantAccess.Text

/-- The characters of the Unicode property `White_Space`, as closed ranges of code points. -/
def whiteSpace : List (Nat × Nat) :=
  [(0x9, 0xD), (0x20, 0x20), (0x85, 0x85), (0xA0, 0xA0), (0x1680, 0x1680), (0x2000, 0x200A),
   (0x2028, 0x2029), (0x202F, 0x202F), (0x205F, 0x205F), (0x3000, 0x3000)]

/-- Whether a character is white space. -/
def isWhite (c : Char) : Bool :=
  whiteSpace.any fun r => r.1 ≤ c.toNat && c.toNat ≤ r.2

/-- Drops the white space a list of characters begins with. -/
def trimLeft (cs : List Char) : List Char :=
  cs.dropWhile isWhite

/-- Drops the white space a list of characters ends with. -/
def trimRight (cs : List Char) : List Char :=
  (trimLeft cs.reverse).reverse

/-- The text without the white space around it. -/
def trim (s : String) : String :=
  String.ofList (trimRight (trimLeft s.toList))

/-- Whether the text holds white space only; the empty text does. -/
def isBlank (s : String) : Bool :=
  s.toList.all isWhite

/-- Whether white space stands at either end of the text. -/
def isPadded (s : String) : Bool :=
  trim s != s

/-- No white space stands at either end of the text. -/
structure IsTrimmed (s : String) : Prop where
  first : ∀ c ∈ s.toList.head?, isWhite c = false
  last : ∀ c ∈ s.toList.getLast?, isWhite c = false

/-- The text `s` is `core` with nothing but white space around it. -/
def IsPaddingOf (s core : String) : Prop :=
  ∃ before behind, isBlank before ∧ isBlank behind ∧ s = before ++ core ++ behind

/-! ## Trimming character lists -/

theorem trimLeft_eq (cs : List Char) :
    ∃ before, cs = before ++ trimLeft cs ∧ before.all isWhite = true :=
  ⟨cs.takeWhile isWhite, (List.takeWhile_append_dropWhile).symm, by
    induction cs with
    | nil => rfl
    | cons c rest ih => by_cases h : isWhite c <;> simp_all⟩

theorem trimRight_eq (cs : List Char) :
    ∃ behind, cs = trimRight cs ++ behind ∧ behind.all isWhite = true := by
  obtain ⟨before, h, hw⟩ := trimLeft_eq cs.reverse
  refine ⟨before.reverse, ?_, by simpa using hw⟩
  simpa [trimRight] using congrArg List.reverse h

/-- Nothing is dropped from a list that begins with a character other than white space. -/
theorem trimLeft_eq_self {cs : List Char} (h : ∀ c ∈ cs.head?, isWhite c = false) :
    trimLeft cs = cs := by
  cases cs with
  | nil => rfl
  | cons c rest => simp [trimLeft, h c (by simp)]

theorem isWhite_head_trimLeft {cs : List Char} : ∀ c ∈ (trimLeft cs).head?, isWhite c = false := by
  induction cs with
  | nil => simp [trimLeft]
  | cons c rest ih =>
    by_cases h : isWhite c
    · simpa [trimLeft, h] using ih
    · simp [trimLeft, h]

theorem trimLeft_trimLeft (cs : List Char) : trimLeft (trimLeft cs) = trimLeft cs :=
  trimLeft_eq_self isWhite_head_trimLeft

theorem trimRight_trimRight (cs : List Char) : trimRight (trimRight cs) = trimRight cs := by
  simp [trimRight, trimLeft_trimLeft]

theorem trimLeft_eq_nil_iff {cs : List Char} : trimLeft cs = [] ↔ cs.all isWhite = true := by
  induction cs with
  | nil => simp [trimLeft]
  | cons c rest ih =>
    by_cases h : isWhite c
    · rw [trimLeft, List.dropWhile_cons_of_pos h, List.all_cons, h, Bool.true_and]
      exact ih
    · simp [trimLeft, h]

/-- White space before a text does not reach what trimming leaves. -/
theorem trimLeft_append {before cs : List Char} (h : before.all isWhite = true) :
    trimLeft (before ++ cs) = trimLeft cs := by
  induction before with
  | nil => rfl
  | cons c rest ih =>
    simp only [List.all_cons, Bool.and_eq_true] at h
    simpa [trimLeft, h.1] using ih (by simpa using h.2)

theorem trimRight_append {cs behind : List Char} (h : behind.all isWhite = true) :
    trimRight (cs ++ behind) = trimRight cs := by
  simp only [trimRight, List.reverse_append]
  rw [trimLeft_append (by simpa using h)]

/-- White space behind a text does not reach what trimming leaves. -/
theorem trimRight_trimLeft_append {cs behind : List Char} (h : behind.all isWhite = true) :
    trimRight (trimLeft (cs ++ behind)) = trimRight (trimLeft cs) := by
  by_cases hcs : cs.all isWhite
  · -- nothing is left of either
    rw [trimLeft_append hcs, trimLeft_eq_nil_iff.2 h, trimLeft_eq_nil_iff.2 hcs]
  · have hne : ¬ (cs.dropWhile isWhite).isEmpty := fun hnil =>
      hcs (trimLeft_eq_nil_iff.1 (List.isEmpty_iff.1 hnil))
    have hkeep : trimLeft (cs ++ behind) = trimLeft cs ++ behind := by
      rw [trimLeft, List.dropWhile_append, if_neg hne]
      rfl
    rw [hkeep, trimRight_append h]

/-- Trimming the right end of a list that begins with a character other than white space leaves
that character in place. -/
theorem head?_trimRight {cs : List Char} (h : ∀ c ∈ cs.head?, isWhite c = false) :
    ∀ c ∈ (trimRight cs).head?, isWhite c = false := by
  obtain ⟨behind, hb, _⟩ := trimRight_eq cs
  intro c hc
  apply h c
  rw [hb]
  cases ht : trimRight cs with
  | nil => simp [ht] at hc
  | cons d rest => simpa [ht] using hc

/-! ## Trimming texts -/

theorem trim_trim (s : String) : trim (trim s) = trim s := by
  simp only [trim, String.toList_ofList]
  rw [trimLeft_eq_self (head?_trimRight isWhite_head_trimLeft), trimRight_trimRight]

/-- What trimming takes off is white space, and it takes it off the two ends only. -/
theorem trim_eq (s : String) :
    ∃ before behind, s.toList = before ++ (trim s).toList ++ behind ∧
      before.all isWhite = true ∧ behind.all isWhite = true := by
  obtain ⟨before, hb, hbw⟩ := trimLeft_eq s.toList
  obtain ⟨behind, he, hew⟩ := trimRight_eq (trimLeft s.toList)
  exact ⟨before, behind, by simpa [trim, List.append_assoc, ← he] using hb, hbw, hew⟩

theorem trim_eq_empty_iff {s : String} : trim s = "" ↔ isBlank s = true := by
  have key : trimRight (trimLeft s.toList) = [] ↔ s.toList.all isWhite = true := by
    simp only [trimRight, List.reverse_eq_nil_iff, trimLeft_eq_nil_iff, List.all_reverse]
    constructor
    · intro h
      obtain ⟨before, hb, hbw⟩ := trimLeft_eq s.toList
      rw [hb, List.all_append, hbw, h, Bool.and_self]
    · intro h
      rw [trimLeft_eq_nil_iff.2 h, List.all_nil]
  rw [isBlank, ← key, trim]
  exact ⟨fun h => by simpa using congrArg String.toList h, fun h => by simp [h]⟩

/-- Trimming leaves a text alone if no white space stands at either end of it. -/
theorem trim_eq_self_iff {s : String} : trim s = s ↔ IsTrimmed s := by
  constructor
  · intro h
    have hlist : s.toList = trimRight (trimLeft s.toList) := by
      simpa [trim] using (congrArg String.toList h).symm
    refine ⟨fun c hc => ?_, fun c hc => ?_⟩
    · rw [hlist] at hc
      exact head?_trimRight isWhite_head_trimLeft c hc
    · rw [hlist, trimRight, List.getLast?_reverse] at hc
      exact isWhite_head_trimLeft c hc
  · intro h
    have hlast : trimLeft s.toList.reverse = s.toList.reverse :=
      trimLeft_eq_self (by simpa using h.last)
    rw [trim, trimLeft_eq_self h.first, trimRight, hlast, List.reverse_reverse, String.ofList_toList]

/-- A text is what trimming leaves of it, with white space around it. -/
theorem isPaddingOf_trim (s : String) : IsPaddingOf s (trim s) := by
  obtain ⟨before, behind, heq, hbefore, hbehind⟩ := trim_eq s
  refine ⟨String.ofList before, String.ofList behind, by simpa [isBlank] using hbefore,
    by simpa [isBlank] using hbehind, String.toList_injective ?_⟩
  simpa using heq

/-- White space around a text makes no difference to what trimming leaves. -/
theorem IsPaddingOf.trim_eq {s core : String} (h : IsPaddingOf s core) : trim s = trim core := by
  obtain ⟨before, behind, hbefore, hbehind, rfl⟩ := h
  simp only [trim, String.toList_append, List.append_assoc]
  rw [trimLeft_append hbefore, trimRight_trimLeft_append hbehind]

/-- The texts that are trimmed to a given one are that one with white space around it. -/
theorem trim_eq_iff_isPaddingOf {s core : String} (h : IsTrimmed core) :
    trim s = core ↔ IsPaddingOf s core :=
  ⟨fun heq => heq ▸ isPaddingOf_trim s, fun hpad => hpad.trim_eq.trans (trim_eq_self_iff.2 h)⟩

theorem isPadded_iff {s : String} : isPadded s = true ↔ ¬ IsTrimmed s := by
  rw [isPadded, bne_iff_ne, ne_eq, trim_eq_self_iff]

end TenantAccess.Text
