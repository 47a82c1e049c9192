import TenantAccess.Format.Configuration
import TenantAccess.Resolver.Decision

/-!
# The JSON form of explanations

Explanations are written and never read. The time at which the decision was made is no part of the
decision; whoever writes the explanation adds it or leaves it out.
-/

namespace TenantAccess

open Json

/-- The written name of a kind of account. -/
def AccountKind.name : AccountKind → String
  | .supervisor => "supervisor"
  | .officer => "officer"
  | .member => "member"

/-- The written name of the rule that decided. -/
def Basis.name : Basis → String
  | .noAccount => "no_account"
  | .inactiveAccount => "inactive_account"
  | .supervisor => "supervisor"
  | .officer => "officer"
  | .unconfiguredOfficer => "unconfigured_officer"
  | .disabledOfficer => "disabled_officer"
  | .roles => "roles"

/-- A list of texts. -/
def textList (texts : List String) : Value := .array (texts.map .text)

/-- The JSON form of the state of an account. -/
def AccountState.toValue (s : AccountState) : Value :=
  .object [
    ("account_id", .text s.accountId.text),
    ("username", .text s.username),
    ("tenant_code", .text s.tenant.text),
    ("kind", .text s.kind.name),
    ("roles", textList s.roles),
    ("effective_permissions", textList s.permissions),
    ("range_mode", (s.rangeMode.map fun m => .text m.name).getD .null)]

/-- The JSON form of an explanation, with the time of the decision if it is given. -/
def Explanation.toValue (e : Explanation) (time : Option String) : Value :=
  .object <| [
    ("permission_code", .text e.code),
    ("granted", .bool e.granted),
    ("basis", .text e.basis.name),
    ("reason", .text e.reason),
    ("account", (e.account.map AccountState.toValue).getD .null),
    ("suggestions", textList e.suggestions)]
    ++ (time.map fun t => ("evaluated_at", .text t)).toList

end TenantAccess
