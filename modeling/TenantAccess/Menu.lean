import TenantAccess.Tenancy
import TenantAccess.Text.Blank

/-!
# Menus and permissions

Menus form a forest by their parent links, and every permission belongs to one menu. Nothing keeps
the links in order: a parent may be missing, of another type, or a descendant.
-/

namespace TenantAccess

/-- A node of an application's menu forest. -/
structure Menu where
  id : MenuId
  parentId : Option MenuId := none
  code : String
  name : String
  menuType : String
  enabled : Bool := true
  /-- Where the menu stands among others. -/
  order : Int32 := 0
  applicationId : ApplicationId
  tenant : TenantCode
  deriving DecidableEq, Repr

namespace Menu

/-- The parent, if one is named; a blank name is none. -/
def parent? (m : Menu) : Option MenuId :=
  m.parentId.filter fun p => !Text.isBlank p.text

/-- Menus are listed by their place, then by code, then by id. -/
def listingOrder : Menu → Menu → Ordering :=
  compareLex (compareOn fun m => m.order.toInt)
    (compareLex (compareOn Menu.code) (compareOn Menu.id))

end Menu

instance : TenantScoped Menu := ⟨Menu.tenant⟩
instance : Entity Menu .menu := ⟨Menu.id⟩

/-- A permission, which belongs to one menu. -/
structure Permission where
  id : PermissionId
  code : String
  name : String
  menuId : MenuId
  applicationId : ApplicationId
  tenant : TenantCode
  deriving DecidableEq, Repr

/-- Permissions are listed by code, then by id. -/
def Permission.listingOrder : Permission → Permission → Ordering :=
  compareLex (compareOn Permission.code) (compareOn Permission.id)

instance : TenantScoped Permission := ⟨Permission.tenant⟩
instance : Entity Permission .permission := ⟨Permission.id⟩

end TenantAccess
