import TenantAccess.Format.Explanation
import TenantAccess.Resolver.Question

/-!
# The JSON form of answers

Answers are written for those who asked from a command line. Rows are written as they are in a
dataset. Whoever asked whether something is allowed is told again what was asked for.
-/

namespace TenantAccess

open Json

/-- The JSON form of rows. -/
def rowsValue {α : Type} (c : Codec α) (rows : List α) : Value := .array (rows.map c.write)

/-- The JSON form of the answer to a question within a tenant. `time` is the time that explanations
carry. -/
def Question.toValue (tenant : TenantCode) (time : String) : (q : Question) → q.Answer → Value
  | .permissions .. => rowsValue Permission.codec
  | .roles .. => rowsValue Role.codec
  | .ranges .. => rowsValue RoleRange.codec
  | .menus .. => rowsValue Menu.codec
  | .applications .. => rowsValue Application.codec
  | .validate application => fun _ =>
    .object [("application", .text application.text), ("tenant", .text tenant.text),
      ("valid", .bool true)]
  | .authorize account _ code => fun _ =>
    .object [("account", .text account.text), ("granted", .bool true), ("permission", .text code)]
  | .explain .. => fun e => Explanation.toValue e (some time)
  | .credentials .. => Application.codec.write

end TenantAccess
