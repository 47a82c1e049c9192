import TenantAccess.Fault
import TenantAccess.Text.Blank

/-!
# Identifiers

An identifier is an opaque text, marked with the kind of thing that it names, so that the id of a
role is never taken for the id of a menu. Any text can be an identifier: rows keep the text that they
were written with. `Identifier.parse` is for texts that a person typed: it takes white space off
both ends and refuses what is then empty, so that what it makes of a text is a question of the
trimmed text only (`Identifier.parse_congr`).
-/

namespace TenantAccess

/-- The kinds of things that have identifiers. -/
inductive IdKind where
  | tenant | account | application | role | menu | permission | unit
  deriving DecidableEq, Repr

/-- What an identifier of this kind is called in a fault. -/
def IdKind.name : IdKind → String
  | .tenant => "TenantCode"
  | .account => "AccountId"
  | .application => "ApplicationId"
  | .role => "RoleId"
  | .menu => "MenuId"
  | .permission => "PermissionId"
  | .unit => "UnitId"

/-- An identifier of something of the given kind. -/
structure Identifier (kind : IdKind) where
  /-- The text itself. -/
  text : String
  deriving DecidableEq, Repr

/-- Code of a tenant. -/
abbrev TenantCode := Identifier .tenant

/-- Identifier of an account: a person, or an administrator known from the settings. -/
abbrev AccountId := Identifier .account

/-- Identifier of an application. -/
abbrev ApplicationId := Identifier .application

/-- Identifier of a role. -/
abbrev RoleId := Identifier .role

/-- Identifier of a menu. -/
abbrev MenuId := Identifier .menu

/-- Identifier of a permission. -/
abbrev PermissionId := Identifier .permission

/-- Identifier of a unit of an organisation. -/
abbrev UnitId := Identifier .unit

namespace Identifier

variable {kind : IdKind}

/-- Identifiers are ordered as their texts, by code point. -/
instance : Ord (Identifier kind) where
  compare := compareOn text

instance : Std.TransOrd (Identifier kind) :=
  inferInstanceAs (Std.TransCmp (compareOn (text : Identifier kind → String)))

instance : Std.LawfulEqOrd (Identifier kind) where
  eq_of_compare {a b} h := by
    cases a; cases b
    exact congrArg _ (Std.LawfulEqOrd.eq_of_compare h)

/-- An identifier is shown as its text. -/
instance : ToString (Identifier kind) := ⟨text⟩

/-- The identifier that a text stands for: the text without the white space around it, which must
not be empty. -/
def parse (text : String) : Except StoreFault (Identifier kind) :=
  if Text.isBlank text then
    .error (.invalidId s!"{kind.name}: blank")
  else
    .ok ⟨Text.trim text⟩

variable {s s' : String}

/-- A text stands for an identifier if it is not blank. -/
theorem parse_eq_ok_iff {id : Identifier kind} :
    parse s = .ok id ↔ ¬ Text.isBlank s ∧ id = ⟨Text.trim s⟩ := by
  rw [parse]
  split
  · rename_i h
    simp [h]
  · rename_i h
    simp [h, eq_comm]

/-- A text is refused if it is blank, under the name of the kind. -/
theorem parse_eq_error_iff {fault : StoreFault} :
    (parse s : Except StoreFault (Identifier kind)) = .error fault ↔
      Text.isBlank s ∧ fault = .invalidId s!"{kind.name}: blank" := by
  rw [parse]
  split
  · rename_i h
    simp [h, eq_comm]
  · rename_i h
    simp [h]

/-- Texts that are trimmed alike stand for the same identifier or for none. -/
theorem parse_congr (h : Text.trim s = Text.trim s') :
    (parse s : Except StoreFault (Identifier kind)) = parse s' := by
  have hblank : Text.isBlank s = Text.isBlank s' := by
    rw [Bool.eq_iff_iff, ← Text.trim_eq_empty_iff, ← Text.trim_eq_empty_iff, h]
  rw [parse, parse, hblank, h]

end Identifier

end TenantAccess
