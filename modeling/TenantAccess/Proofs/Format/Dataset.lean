import TenantAccess.Loading
import TenantAccess.Proofs.Format.Fields
import TenantAccess.Proofs.Json.Document
import TenantAccess.Proofs.Secrecy

/-!
# Reading a written dataset back

Every row is written with all of its fields, but for the secrets, and read with some of them absent.
`Dataset.defaults` lists what stands in for a field of a dataset or of one of its rows when it is
absent. The layouts of the rows agree with the list: each of their codecs restores its rows from
what is left when such members are left out. The main statement is `ofText_of_omits`: a dataset is
read back without its secrets, whichever members that have their default value were left out, and it
is then written as it was.
-/

namespace TenantAccess

open Json

/-! ## Rows -/

/-- What stands in for the fields of a dataset and of its rows that may be absent. -/
def Dataset.defaults : List (String × Value) :=
  [("enabled", .bool true), ("primary", .bool false), ("admin", .bool false),
    ("deleted", .bool false), ("order", .integer 0), ("email", .null), ("url", .null),
    ("context_path", .null), ("parent_id", .null), ("unit_id", .null), ("tenants", .array []),
    ("applications", .array []), ("accounts", .array []), ("roles", .array []),
    ("role_permissions", .array []), ("role_principals", .array []), ("role_ranges", .array []),
    ("menus", .array []), ("permissions", .array [])]

theorem Lease.restores : Lease.codec.Restores (Spares Dataset.defaults) fun l => l := by
  refine Layout.Restores.codec ?_ _ (by decide)
  exact Layout.Restores.map Lease.mk (restores_required Identifier.restores rfl)
    |>.seq (restores_standIn .bool rfl)
    |>.seq (restores_standIn .bool rfl)

theorem Tenant.restores : Tenant.codec.Restores (Spares Dataset.defaults) fun t => t := by
  refine Layout.Restores.codec ?_ _ (by decide)
  exact Layout.Restores.map Tenant.mk (restores_required Identifier.restores rfl)
    |>.seq (restores_required .text rfl)
    |>.seq (restores_standIn .bool rfl)
    |>.seq (restores_plainList Lease.restores rfl)

/-- An application is read without its secret, which was not written. -/
theorem Application.restores :
    Application.codec.Restores (Spares Dataset.defaults) Application.withoutSecret := by
  refine Layout.Restores.codec ?_ _ (by decide)
  exact Layout.Restores.map Application.mk (restores_required Identifier.restores rfl)
    |>.seq (restores_required .text rfl)
    |>.seq (restores_required .text rfl)
    |>.seq .hidden
    |>.seq (restores_standIn .bool rfl)
    |>.seq (restores_optional .text nofun rfl)
    |>.seq (restores_optional .text nofun rfl)

theorem Account.restores : Account.codec.Restores (Spares Dataset.defaults) fun a => a := by
  refine Layout.Restores.codec ?_ _ (by decide)
  exact Layout.Restores.map Account.mk (restores_required Identifier.restores rfl)
    |>.seq (restores_required .text rfl)
    |>.seq (restores_optional .text nofun rfl)
    |>.seq (restores_required .text rfl)
    |>.seq (restores_standIn .bool rfl)
    |>.seq (restores_standIn .bool rfl)
    |>.seq (restores_standIn .bool rfl)
    |>.seq (restores_required Identifier.restores rfl)

theorem Menu.restores : Menu.codec.Restores (Spares Dataset.defaults) fun m => m := by
  refine Layout.Restores.codec ?_ _ (by decide)
  exact Layout.Restores.map Menu.mk (restores_required Identifier.restores rfl)
    |>.seq (restores_optional Identifier.restores nofun rfl)
    |>.seq (restores_required .text rfl)
    |>.seq (restores_required .text rfl)
    |>.seq (restores_required .text rfl)
    |>.seq (restores_standIn .bool rfl)
    |>.seq (restores_standIn .int32 rfl)
    |>.seq (restores_required Identifier.restores rfl)
    |>.seq (restores_required Identifier.restores rfl)

theorem Permission.restores : Permission.codec.Restores (Spares Dataset.defaults) fun p => p := by
  refine Layout.Restores.codec ?_ _ (by decide)
  exact Layout.Restores.map Permission.mk (restores_required Identifier.restores rfl)
    |>.seq (restores_required .text rfl)
    |>.seq (restores_required .text rfl)
    |>.seq (restores_required Identifier.restores rfl)
    |>.seq (restores_required Identifier.restores rfl)
    |>.seq (restores_required Identifier.restores rfl)

theorem Role.restores : Role.codec.Restores (Spares Dataset.defaults) fun r => r := by
  refine Layout.Restores.codec ?_ _ (by decide)
  exact Layout.Restores.map Role.mk (restores_required Identifier.restores rfl)
    |>.seq (restores_required .text rfl)
    |>.seq (restores_required .text rfl)
    |>.seq (restores_required Identifier.restores rfl)
    |>.seq (restores_optional Identifier.restores nofun rfl)
    |>.seq (restores_standIn .bool rfl)
    |>.seq (restores_required Identifier.restores rfl)

theorem PrincipalKind.restores {spare : String → Value → Prop} :
    PrincipalKind.codec.Restores spare fun k => k :=
  .named fun k => by cases k <;> rfl

theorem PermissionLink.restores :
    PermissionLink.codec.Restores (Spares Dataset.defaults) fun l => l := by
  refine Layout.Restores.codec ?_ _ (by decide)
  exact Layout.Restores.map PermissionLink.mk (restores_required Identifier.restores rfl)
    |>.seq (restores_required Identifier.restores rfl)
    |>.seq (restores_required Identifier.restores rfl)

theorem RoleAssignment.restores :
    RoleAssignment.codec.Restores (Spares Dataset.defaults) fun a => a := by
  refine Layout.Restores.codec ?_ _ (by decide)
  exact Layout.Restores.map RoleAssignment.mk (restores_required Identifier.restores rfl)
    |>.seq (restores_required .text rfl)
    |>.seq (restores_required PrincipalKind.restores rfl)
    |>.seq (restores_required Identifier.restores rfl)

theorem RoleRange.restores : RoleRange.codec.Restores (Spares Dataset.defaults) fun r => r := by
  refine Layout.Restores.codec ?_ _ (by decide)
  exact Layout.Restores.map RoleRange.mk (restores_required Identifier.restores rfl)
    |>.seq (restores_required .text rfl)
    |>.seq (restores_required .text rfl)
    |>.seq (restores_required .text rfl)
    |>.seq (restores_required Identifier.restores rfl)

/-! ## Datasets -/

/-- A dataset is read without its secrets, which were not written. -/
theorem Dataset.restores : Dataset.codec.Restores (Spares defaults) withoutSecrets := by
  refine Layout.Restores.codec ?_ _ (by decide)
  exact Layout.Restores.map Dataset.mk (restores_plainList Tenant.restores rfl)
    |>.seq (restores_list Application.restores rfl)
    |>.seq (restores_plainList Account.restores rfl)
    |>.seq (restores_plainList Role.restores rfl)
    |>.seq (restores_plainList PermissionLink.restores rfl)
    |>.seq (restores_plainList RoleAssignment.restores rfl)
    |>.seq (restores_plainList RoleRange.restores rfl)
    |>.seq (restores_plainList Menu.restores rfl)
    |>.seq (restores_plainList Permission.restores rfl)

/-- A dataset that was written, and from which members with their default values were left out at
any depth, is read as the dataset without its secrets: from the compact text, and from every other
text that is read as the same document. When it is written again, the text is that of the dataset
itself. -/
theorem ofText_of_omits (d : Dataset) {v : Value}
    (hv : (Dataset.codec.write d).Omits (Spares Dataset.defaults) v) :
    Dataset.ofText v.compact = .ok d.withoutSecrets ∧
    (∀ text, Doc.ofText text = (v.toDoc, false) → Dataset.ofText text = .ok d.withoutSecrets) ∧
    (Dataset.codec.write d.withoutSecrets).compact = (Dataset.codec.write d).compact ∧
    (Dataset.codec.write d.withoutSecrets).pretty = (Dataset.codec.write d).pretty := by
  have hread : Dataset.codec.read v.toDoc = .ok d.withoutSecrets := Dataset.restores d v hv
  have htext : ∀ text, Doc.ofText text = (v.toDoc, false) →
      Dataset.ofText text = .ok d.withoutSecrets := fun text htext => by
    rw [Dataset.ofText, Reader.ofText_eq_ok htext hread]
    rfl
  refine ⟨htext _ (Doc.ofText_compact v), htext, ?_, ?_⟩
  · rw [Dataset.write_withoutSecrets]
  · rw [Dataset.write_withoutSecrets]

/-- Nothing but the wiki. -/
def Wiki.alone (secret : String) : Dataset where
  applications := [{ id := ⟨"wiki"⟩, code := "wiki", name := "Wiki", secret }]

/-- The wiki as it is left when every member with its default value is gone. -/
def Wiki.terse : Value :=
  .object [("id", .text "wiki"), ("code", .text "wiki"), ("name", .text "Wiki")]

/-- The wiki with a secret is read back from its shortest text, without the secret. -/
theorem ofText_of_omits_terse :
    (Dataset.codec.write (Wiki.alone "pw")).Omits (Spares Dataset.defaults)
      (.object [("applications", .array [Wiki.terse])]) ∧
    Dataset.ofText (Value.object [("applications", .array [Wiki.terse])]).compact =
      .ok (Wiki.alone "") := by
  have hwiki : (Application.codec.write
      { id := ⟨"wiki"⟩, code := "wiki", name := "Wiki", secret := "pw" }).Omits
      (Spares Dataset.defaults) Wiki.terse :=
    .object <| .keep (.text _) <| .keep (.text _) <| .keep (.text _) <| .leave rfl <| .leave rfl <|
      .leave rfl .nil
  have hdataset : (Dataset.codec.write (Wiki.alone "pw")).Omits (Spares Dataset.defaults)
      (.object [("applications", .array [Wiki.terse])]) :=
    .object <| .leave rfl <| .keep (.array (.cons hwiki .nil)) <| .leave rfl <| .leave rfl <|
      .leave rfl <| .leave rfl <| .leave rfl <| .leave rfl <| .leave rfl .nil
  exact ⟨hdataset, (ofText_of_omits _ hdataset).1⟩

end TenantAccess
