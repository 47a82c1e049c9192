import TenantAccess.Resolver.Rights

/-!
# Visible menus

An account sees the menus that its permissions belong to, with their parents up to the roots. The
walk goes level by level: all menus of a level are read at once, and their parents that have not
been asked for are the next level. No id is asked for twice, so parents that several menus share are
read once, and a cycle of parent links ends the walk. With a menu type in force a menu of another
type is not seen, and what is above it is not reached through it.
-/

namespace TenantAccess

/-- The menu type in force: the text without white space around it, unless that is empty. -/
def effectiveType (menuType : Option String) : Option String :=
  (menuType.map Text.trim).filter fun t => !t.isEmpty

/-- The menus of a reply that were asked for and are of the type in force. -/
def seenMenus (asked : List MenuId) (menuType : Option String) (rows : List Menu) : List Menu :=
  rows.filter fun m => asked.contains m.id && menuType.all (m.menuType = ·)

/-- The ids to ask for after a level: the parents of the menus seen there that have not been asked
for. -/
def nextLevel (asked : List MenuId) (seen : List Menu) : List MenuId :=
  ascending ((seen.filterMap Menu.parent?).filter fun id => !asked.contains id)

/-- Menus with each id once, in the order of the listing. -/
def listedMenus (order : Arrangement Menu) (menus : List Menu) : List Menu :=
  sortBy Menu.listingOrder (order.arrange (distinctBy Menu.id menus))

/-- Walks upwards from the menus of a level. `asked` are the ids of the levels before and `found`
the menus seen there; the first argument bounds the levels to come. -/
def climb (order : Arrangement Menu) (menuType : Option String) (tenant : TenantCode) :
    Nat → List MenuId → List MenuId → List Menu → Query (List Menu)
  | _, [], _, found => .answer (listedMenus order found)
  | 0, _ :: _, _, _ => .stall
  | levels + 1, level, asked, found => do
    let rows : List Menu ← Query.read (.menus level menuType tenant)
    Query.ownRows "menu" tenant rows
    let seen := seenMenus level menuType rows
    let asked := asked ++ level
    climb order menuType tenant levels (nextLevel asked seen) asked (found ++ seen)

/-- The menus with the given ids and all that is above them. -/
def Resolver.menusAbove (R : Resolver) (ids : List MenuId) (menuType : Option String)
    (tenant : TenantCode) : Query (List Menu) :=
  climb R.menuOrder menuType tenant R.levels (ascending ids) [] []

/-- The menus that an account sees, of one type or, when the type is blank, of all. -/
def Resolver.menus (R : Resolver) (account : AccountId) (menuType : Option String)
    (scope : Option ApplicationId) (tenant : TenantCode) : Query (List Menu) := do
  let permissions ← R.permissions account scope tenant
  R.menusAbove (permissions.map Permission.menuId) (effectiveType menuType) tenant

end TenantAccess
