import TenantAccess.Resolver.Decision

/-!
# Questions

All that can be asked about rights within a tenant, as one type. A `Question` says of itself with
what it is answered, and `Resolver.ask` is the query that finds the answer, so that what holds
whatever is asked can be said once.
-/

namespace TenantAccess

/-- A question within a tenant. -/
inductive Question where
  /-- Which permissions an account holds. -/
  | permissions (account : AccountId) (scope : Option ApplicationId)
  /-- Which roles an account holds. -/
  | roles (account : AccountId) (scope : Option ApplicationId)
  /-- Which ranges of data the roles of an account carry. -/
  | ranges (account : AccountId) (scope : Option ApplicationId)
  /-- Which menus an account sees. -/
  | menus (account : AccountId) (menuType : Option String) (scope : Option ApplicationId)
  /-- Which applications an account reaches through menus of a type. -/
  | applications (account : AccountId) (menuType : String)
  /-- Whether the tenant may use an application. -/
  | validate (application : ApplicationId)
  /-- Whether an account holds a permission within an application that the tenant may use. -/
  | authorize (account : AccountId) (application : ApplicationId) (code : String)
  /-- Why an account holds a permission or does not. -/
  | explain (account : AccountId) (scope : Option ApplicationId) (code : String)
  /-- Which application a code and a secret stand for, whatever the tenant. -/
  | credentials (code secret : String)
  deriving DecidableEq, Repr

/-- What a question is answered with. -/
def Question.Answer : Question → Type
  | .permissions .. => List Permission
  | .roles .. => List Role
  | .ranges .. => List RoleRange
  | .menus .. => List Menu
  | .applications .. => List Application
  | .validate .. => Unit
  | .authorize .. => Unit
  | .explain .. => Explanation
  | .credentials .. => Application

/-- The query that finds the answer to a question. -/
def Resolver.ask (R : Resolver) (tenant : TenantCode) : (q : Question) → Query q.Answer
  | .permissions account scope => R.permissions account scope tenant
  | .roles account scope => R.roles account scope tenant
  | .ranges account scope => R.ranges account scope tenant
  | .menus account menuType scope => R.menus account menuType scope tenant
  | .applications account menuType => R.applications account menuType tenant
  | .validate application => validateApplication application tenant
  | .authorize account application code => R.authorize account application tenant code
  | .explain account scope code => R.explain account scope tenant code
  | .credentials code secret => applicationByCredentials code secret

end TenantAccess
