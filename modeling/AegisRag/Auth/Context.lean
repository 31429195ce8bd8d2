import AegisRag.Semantics.Text

/-!
# Authenticated identities

`AuthContext` of `packages/auth/context.py`, as far as access decisions read it. Its
validators trim every text and refuse a blank identifier, so a context holds the
proof that its texts are trimmed.
-/

namespace AegisRag.Auth

open Semantics

structure AuthContext where
  userId : String
  tenantId : String
  roles : List String
  department : Option String
  permissions : List String
  userId_isText : IsText userId
  tenantId_isText : IsText tenantId
  roles_areTexts : ∀ role ∈ roles, IsText role
  department_isText : ∀ name, department = some name → IsText name
  permissions_areTexts : ∀ permission ∈ permissions, IsText permission

end AegisRag.Auth
