import TenantAccess.Tenancy

/-!
# Roles

A role belongs to one application of one tenant. Three kinds of rows hang on it: links to the
permissions that it grants, assignments to those who hold it, and ranges of data that its holders
see. Each of these rows is its own key: two that differ in any field are two rows.
-/

namespace TenantAccess

/-- A role. -/
structure Role where
  id : RoleId
  code : String
  name : String
  applicationId : ApplicationId
  unitId : Option UnitId := none
  enabled : Bool := true
  tenant : TenantCode
  deriving DecidableEq, Repr

/-- Roles are listed by code, then by id. -/
def Role.listingOrder : Role → Role → Ordering :=
  compareLex (compareOn Role.code) (compareOn Role.id)

instance : TenantScoped Role := ⟨Role.tenant⟩
instance : Entity Role .role := ⟨Role.id⟩

/-- The kinds of holders that a role can be assigned to. -/
inductive PrincipalKind where
  | account | unit | department | post
  deriving DecidableEq, Repr

namespace PrincipalKind

/-- Every kind, in the order in which they are named in messages. -/
def all : List PrincipalKind := [.account, .unit, .department, .post]

/-- The written name of the kind. -/
def name : PrincipalKind → String
  | .account => "account"
  | .unit => "unit"
  | .department => "department"
  | .post => "post"

end PrincipalKind

/-- A holder of roles. -/
structure Principal where
  kind : PrincipalKind
  id : String
  deriving DecidableEq, Repr

/-- An account as a holder of roles. -/
def Principal.ofAccount (id : AccountId) : Principal :=
  ⟨.account, id.text⟩

/-- A link from a role to a permission that it grants. -/
structure PermissionLink where
  roleId : RoleId
  permissionId : PermissionId
  tenant : TenantCode
  deriving DecidableEq, Repr

instance : TenantScoped PermissionLink := ⟨PermissionLink.tenant⟩

/-- An assignment of a role to a holder. -/
structure RoleAssignment where
  roleId : RoleId
  principalId : String
  principalKind : PrincipalKind
  tenant : TenantCode
  deriving DecidableEq, Repr

/-- The holder that an assignment names. -/
def RoleAssignment.principal (a : RoleAssignment) : Principal :=
  ⟨a.principalKind, a.principalId⟩

instance : TenantScoped RoleAssignment := ⟨RoleAssignment.tenant⟩

/-- A range of data that the holders of a role see. Permissions never depend on it. -/
structure RoleRange where
  roleId : RoleId
  category : String
  rangeType : String
  dataId : String
  tenant : TenantCode
  deriving DecidableEq, Repr

/-- Ranges are listed by role, then by category, type and data. -/
def RoleRange.listingOrder : RoleRange → RoleRange → Ordering :=
  compareLex (compareOn RoleRange.roleId)
    (compareLex (compareOn RoleRange.category)
      (compareLex (compareOn RoleRange.rangeType) (compareOn RoleRange.dataId)))

instance : TenantScoped RoleRange := ⟨RoleRange.tenant⟩

end TenantAccess
