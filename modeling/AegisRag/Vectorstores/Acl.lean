import AegisRag.Semantics.Json
import AegisRag.Semantics.Text

/-!
# Access lists

`packages/vectorstores/acl.py` and the identities it is asked about. The check trims what
it reads, takes a single text for a list of one and passes over values of other shapes.
Python's `str` of a value that is not a text is a parameter, of which only the bracket
that opens a list is known.
-/

namespace AegisRag.Vectorstores

open Semantics

/-- The members of an access list. -/
abbrev Acl := List (String × Json)

/-- A way to write values that are not texts. -/
structure Rendering where
  text : Json → String
  bracketed : ∀ items, ∃ rest, (text (.arr items)).toList = '[' :: rest

/-- A text stands for itself. -/
def Rendering.str (rendering : Rendering) : Json → String
  | .str value => value
  | value => rendering.text value

/-! ## Identities -/

/-- `AclFilter`: the identity that asks, with the texts its validators leave. -/
structure AclFilter where
  userId : String
  roles : List String
  department : Option String
  permissions : List String
  userId_isText : IsText userId
  roles_areTexts : ∀ role ∈ roles, IsText role
  department_isText : ∀ name, department = some name → IsText name
  permissions_areTexts : ∀ permission ∈ permissions, IsText permission

namespace AclFilter

/-- `_normalize_text_list`. -/
def normalizeTextList (values : List String) : List String := (texts values).dedup.mergeSort

theorem mem_normalizeTextList {values : List String} {value : String} :
    value ∈ normalizeTextList values ↔ value ∈ texts values := by
  rw [normalizeTextList, List.mem_mergeSort, List.mem_dedup]

theorem normalizeTextList_areTexts (values : List String) :
    ∀ value ∈ normalizeTextList values, IsText value := by
  intro value isIn
  exact texts_areTexts values value (mem_normalizeTextList.mp isIn)

/-- The members that grant access, each with the names of the identity it may list. -/
def grants (filter : AclFilter) : List (String × List String) :=
  [("allowed_users", [filter.userId]), ("allowed_roles", filter.roles),
    ("allowed_departments", filter.department.toList),
    ("allowed_permissions", filter.permissions)]

end AclFilter

/-! ## The check -/

section

variable (python : Rendering)

/-- `_text_set`, as a list of its elements. -/
def textSet : Option Json → List String
  | some (.str value) => texts [value]
  | some (.arr items) => texts (items.map python.str)
  | _ => []

/-- The visibilities that let the whole tenant read. -/
def openVisibilities : List (List Char) := ["public".toList, "tenant".toList]

/-- The visibility the check compares. -/
def visibility (acl : Acl) : List Char :=
  lower (strip (python.str ((acl.lookup "visibility").getD (.str "tenant"))))

/-- `acl_allows`. -/
def aclAllows (acl : Acl) (filter : AclFilter) : Bool :=
  if filter.userId ∈ textSet python (acl.lookup "denied_users") then false
  else if visibility python acl ∈ openVisibilities then true
  else if filter.userId ∈ textSet python (acl.lookup "allowed_users") then true
  else if filter.roles.any (· ∈ textSet python (acl.lookup "allowed_roles")) then true
  else if filter.department.any (· ∈ textSet python (acl.lookup "allowed_departments")) then true
  else filter.permissions.any (· ∈ textSet python (acl.lookup "allowed_permissions"))

variable {python} {acl : Acl} {filter : AclFilter}

/-- Access is refused to a denied user, and otherwise granted by an open visibility or
by one name that one of the granting members lists. -/
theorem aclAllows_iff : aclAllows python acl filter = true ↔
    filter.userId ∉ textSet python (acl.lookup "denied_users") ∧
      (visibility python acl ∈ openVisibilities ∨
        ∃ grant ∈ filter.grants, ∃ name ∈ grant.2,
          name ∈ textSet python (acl.lookup grant.1)) := by
  by_cases denied : filter.userId ∈ textSet python (acl.lookup "denied_users")
  · simp [aclAllows, denied]
  · have department : filter.department.any
        (· ∈ textSet python (acl.lookup "allowed_departments")) = true ↔
          ∃ name, filter.department = some name ∧
            name ∈ textSet python (acl.lookup "allowed_departments") := by
      simp [Option.any_eq_true]
    simp [aclAllows, denied, AclFilter.grants, department]

end

end AegisRag.Vectorstores
