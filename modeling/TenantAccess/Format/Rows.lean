import TenantAccess.Dataset
import TenantAccess.Json.Codec

/-!
# The JSON form of rows and datasets

Each kind of row has a layout that names its fields in order and says which of them may be left out.
A lease, a tenant, an application and so on are enabled unless they say otherwise. The secret of an
application is the one field that is read and never written.
-/

namespace TenantAccess

open Json

/-- Identifiers are written as their texts. -/
def Identifier.codec {kind : IdKind} : Codec (Identifier kind) :=
  Codec.text.iso Identifier.mk Identifier.text

/-- A field that is true unless it says otherwise. -/
def trueByDefault {ρ : Type} (name : String) (get : ρ → Bool) : Layout ρ Bool :=
  .field name .bool get (some true)

/-- A field that is false unless it says otherwise. -/
def falseByDefault {ρ : Type} (name : String) (get : ρ → Bool) : Layout ρ Bool :=
  .field name .bool get (some false)

/-- A text that may be absent. -/
def optionalText {ρ : Type} (name : String) (get : ρ → Option String) : Layout ρ (Option String) :=
  .field name (.option .text) get (some none)

/-- The JSON form of leases. -/
def Lease.codec : Codec Lease := Layout.codec "TenantApplication" <|
  Lease.mk <$> .field "application_id" Identifier.codec Lease.applicationId
    <*> trueByDefault "enabled" Lease.enabled
    <*> falseByDefault "primary" Lease.primary

/-- The JSON form of tenants. -/
def Tenant.codec : Codec Tenant := Layout.codec "Tenant" <|
  Tenant.mk <$> .field "code" Identifier.codec Tenant.code
    <*> .field "name" .text Tenant.name
    <*> trueByDefault "enabled" Tenant.enabled
    <*> .field "applications" (.list Lease.codec) Tenant.leases (some [])

/-- The JSON form of applications. -/
def Application.codec : Codec Application := Layout.codec "Application" <|
  Application.mk <$> .field "id" Identifier.codec Application.id
    <*> .field "code" .text Application.code
    <*> .field "name" .text Application.name
    <*> .hidden "secret" .text ""
    <*> trueByDefault "enabled" Application.enabled
    <*> optionalText "url" Application.url
    <*> optionalText "context_path" Application.contextPath

/-- The JSON form of accounts. -/
def Account.codec : Codec Account := Layout.codec "Account" <|
  Account.mk <$> .field "id" Identifier.codec Account.id
    <*> .field "username" .text Account.username
    <*> optionalText "email" Account.email
    <*> .field "name" .text Account.name
    <*> falseByDefault "admin" Account.admin
    <*> trueByDefault "enabled" Account.enabled
    <*> falseByDefault "deleted" Account.deleted
    <*> .field "tenant_code" Identifier.codec Account.tenant

/-- The JSON form of menus. -/
def Menu.codec : Codec Menu := Layout.codec "Menu" <|
  Menu.mk <$> .field "id" Identifier.codec Menu.id
    <*> .field "parent_id" (.option Identifier.codec) Menu.parentId (some none)
    <*> .field "code" .text Menu.code
    <*> .field "name" .text Menu.name
    <*> .field "menu_type" .text Menu.menuType
    <*> trueByDefault "enabled" Menu.enabled
    <*> .field "order" .int32 Menu.order (some 0)
    <*> .field "application_id" Identifier.codec Menu.applicationId
    <*> .field "tenant_code" Identifier.codec Menu.tenant

/-- The JSON form of permissions. -/
def Permission.codec : Codec Permission := Layout.codec "Permission" <|
  Permission.mk <$> .field "id" Identifier.codec Permission.id
    <*> .field "code" .text Permission.code
    <*> .field "name" .text Permission.name
    <*> .field "menu_id" Identifier.codec Permission.menuId
    <*> .field "application_id" Identifier.codec Permission.applicationId
    <*> .field "tenant_code" Identifier.codec Permission.tenant

/-- The JSON form of roles. -/
def Role.codec : Codec Role := Layout.codec "Role" <|
  Role.mk <$> .field "id" Identifier.codec Role.id
    <*> .field "code" .text Role.code
    <*> .field "name" .text Role.name
    <*> .field "application_id" Identifier.codec Role.applicationId
    <*> .field "unit_id" (.option Identifier.codec) Role.unitId (some none)
    <*> trueByDefault "enabled" Role.enabled
    <*> .field "tenant_code" Identifier.codec Role.tenant

/-- The JSON form of the kinds of holders: their names. -/
def PrincipalKind.codec : Codec PrincipalKind := .named PrincipalKind.name PrincipalKind.all

/-- The JSON form of holders. -/
def Principal.codec : Codec Principal := Layout.codec "PrincipalRef" <|
  Principal.mk <$> .field "principal_type" PrincipalKind.codec Principal.kind
    <*> .field "principal_id" .text Principal.id

/-- The JSON form of permission links. -/
def PermissionLink.codec : Codec PermissionLink := Layout.codec "RolePermission" <|
  PermissionLink.mk <$> .field "role_id" Identifier.codec PermissionLink.roleId
    <*> .field "permission_id" Identifier.codec PermissionLink.permissionId
    <*> .field "tenant_code" Identifier.codec PermissionLink.tenant

/-- The JSON form of role assignments. -/
def RoleAssignment.codec : Codec RoleAssignment := Layout.codec "RolePrincipal" <|
  RoleAssignment.mk <$> .field "role_id" Identifier.codec RoleAssignment.roleId
    <*> .field "principal_id" .text RoleAssignment.principalId
    <*> .field "principal_type" PrincipalKind.codec RoleAssignment.principalKind
    <*> .field "tenant_code" Identifier.codec RoleAssignment.tenant

/-- The JSON form of role ranges. -/
def RoleRange.codec : Codec RoleRange := Layout.codec "RoleRange" <|
  RoleRange.mk <$> .field "role_id" Identifier.codec RoleRange.roleId
    <*> .field "category" .text RoleRange.category
    <*> .field "range_type" .text RoleRange.rangeType
    <*> .field "data_id" .text RoleRange.dataId
    <*> .field "tenant_code" Identifier.codec RoleRange.tenant

/-- A list of rows of a dataset, empty unless it says otherwise. -/
def rows {α : Type} (name : String) (c : Codec α) (get : Dataset → List α) :
    Layout Dataset (List α) :=
  .field name (.list c) get (some [])

/-- The JSON form of datasets. -/
def Dataset.codec : Codec Dataset := Layout.codec "Dataset" <|
  Dataset.mk <$> rows "tenants" Tenant.codec Dataset.tenants
    <*> rows "applications" Application.codec Dataset.applications
    <*> rows "accounts" Account.codec Dataset.accounts
    <*> rows "roles" Role.codec Dataset.roles
    <*> rows "role_permissions" PermissionLink.codec Dataset.permissionLinks
    <*> rows "role_principals" RoleAssignment.codec Dataset.roleAssignments
    <*> rows "role_ranges" RoleRange.codec Dataset.roleRanges
    <*> rows "menus" Menu.codec Dataset.menus
    <*> rows "permissions" Permission.codec Dataset.permissions

end TenantAccess
