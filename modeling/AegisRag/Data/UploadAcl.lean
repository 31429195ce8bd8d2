import AegisRag.Retrieval.Filters

/-!
# Access lists at upload

`_validate_acl` of `packages/data/service.py`. The accepted list goes unchanged to the row
that retrieval reads. The validator knows the members `roles`, `users` and `departments`;
the check reads `allowed_roles`, `allowed_users` and `allowed_departments`.
-/

namespace AegisRag.Data

open Semantics Vectorstores

/-- `DocumentUploadInvalidMetadataError` by its details, and the error Python raises over
a visibility that cannot be in a set. -/
inductive AclError where
  | invalid (field : String) (invalidKeys : List String)
  | unhashable
deriving DecidableEq

def allowedAclKeys : List String := ["visibility", "roles", "users", "departments"]

def allowedAclVisibility : List String := ["tenant", "private", "restricted"]

/-- The members that list names, in the order they are checked. -/
def listFields : List String := ["roles", "users", "departments"]

/-- A member is a list of texts that are not blank. -/
def isNameList : Json → Bool
  | .arr items => items.all fun
      | .str text => strip text ≠ ""
      | _ => false
  | _ => false

def checkVisibility : Json → Except AclError Unit
  | .str value =>
    if value ∈ allowedAclVisibility then .ok () else .error (.invalid "acl.visibility" [])
  | .arr _ | .obj _ => .error .unhashable
  | _ => .error (.invalid "acl.visibility" [])

def checkField (acl : Acl) (field : String) : Except AclError Unit :=
  match acl.lookup field with
  | none => .ok ()
  | some value => if isNameList value then .ok () else .error (.invalid ("acl." ++ field) [])

def extraKeys (acl : Acl) : List String := (acl.map Prod.fst).filter (· ∉ allowedAclKeys)

/-- `_validate_acl`. -/
def validateAcl (acl : Acl) : Except AclError Unit :=
  if extraKeys acl = [] then do
    checkVisibility ((acl.lookup "visibility").getD (.str "tenant"))
    listFields.forM (checkField acl)
  else .error (.invalid "acl" (extraKeys acl).mergeSort)

/-! ## What the check makes of an accepted list -/

/-- The identity's user id, one of its roles or its department stands in the list. -/
def Listed (python : Rendering) (acl : Acl) (filter : AclFilter) : Prop :=
  filter.userId ∈ textSet python (acl.lookup "users") ∨
    (∃ role ∈ filter.roles, role ∈ textSet python (acl.lookup "roles")) ∨
    ∃ name, filter.department = some name ∧ name ∈ textSet python (acl.lookup "departments")

section

variable {python : Rendering} {acl : Acl} {filter : AclFilter}

theorem lookup_eq_none_of_unlisted {key : String} (unlisted : key ∉ acl.map Prod.fst) :
    acl.lookup key = none := by
  rw [List.lookup_eq_none_iff]
  intro member isMember
  rw [bne_iff_ne]
  rintro rfl
  exact unlisted (List.mem_map.mpr ⟨member, isMember, rfl⟩)

theorem checkVisibility_ok {given : Json} (accepted : checkVisibility given = .ok ()) :
    ∃ value ∈ allowedAclVisibility, given = .str value := by
  cases given with
  | str value =>
    rw [checkVisibility] at accepted
    split at accepted
    · rename_i isAllowed
      exact ⟨value, isAllowed, rfl⟩
    · cases accepted
  | _ => cases accepted

/-- An accepted list has only the validator's members and one of its visibilities. -/
theorem validateAcl_ok (accepted : validateAcl acl = .ok ()) :
    (∀ key ∈ acl.map Prod.fst, key ∈ allowedAclKeys) ∧
      ∃ value ∈ allowedAclVisibility,
        (acl.lookup "visibility").getD (.str "tenant") = .str value := by
  unfold validateAcl at accepted
  split at accepted
  · rename_i noExtra
    constructor
    · intro key isKey
      have kept := List.filter_eq_nil_iff.mp noExtra key isKey
      simpa using kept
    · cases checked : checkVisibility ((acl.lookup "visibility").getD (.str "tenant")) with
      | error failure =>
        rw [checked] at accepted
        cases accepted
      | ok => exact checkVisibility_ok checked
  · cases accepted

/-- A member the validator does not know is missing from an accepted list. -/
theorem missing_of_accepted (accepted : validateAcl acl = .ok ()) {key : String}
    (unknown : key ∉ allowedAclKeys) : acl.lookup key = none := by
  apply lookup_eq_none_of_unlisted
  intro isKey
  exact unknown ((validateAcl_ok accepted).1 key isKey)

/-- The check lets nobody through an accepted list but by its visibility. -/
theorem aclAllows_iff_visible (accepted : validateAcl acl = .ok ()) :
    aclAllows python acl filter = true ↔ visibility python acl ∈ openVisibilities := by
  rw [aclAllows_iff]
  have unnamed : ∀ key ∈ Retrieval.nameKeys, textSet python (acl.lookup key) = [] := by
    intro key isKey
    have unknown : key ∉ allowedAclKeys := by
      simp only [Retrieval.nameKeys, List.mem_cons, List.not_mem_nil, or_false] at isKey
      rcases isKey with rfl | rfl | rfl | rfl | rfl <;> decide
    rw [missing_of_accepted accepted unknown]
    rfl
  have denied := unnamed "denied_users" (by simp [Retrieval.nameKeys])
  rw [denied]
  constructor
  · rintro ⟨_, visible | ⟨grant, isGrant, _, _, isListed⟩⟩
    · exact visible
    · have isKey : grant.1 ∈ Retrieval.nameKeys := by
        simp only [AclFilter.grants, List.mem_cons, List.not_mem_nil, or_false] at isGrant
        rcases isGrant with rfl | rfl | rfl | rfl <;> simp [Retrieval.nameKeys]
      rw [unnamed _ isKey] at isListed
      cases isListed
  · intro visible
    exact ⟨List.not_mem_nil, Or.inl visible⟩

/-- A private or restricted list is readable by nobody, so it answers as its lists say
exactly for the identities they leave out. -/
theorem uploaded_acl_excludes_unlisted (accepted : validateAcl acl = .ok ())
    (restricts : acl.lookup "visibility" = some (.str "private") ∨
      acl.lookup "visibility" = some (.str "restricted")) :
    aclAllows python acl filter = false ∧
      ((aclAllows python acl filter = true ↔ Listed python acl filter) ↔
        ¬ Listed python acl filter) := by
  have closed : visibility python acl ∉ openVisibilities := by
    have names : lower (strip "private") ∉ openVisibilities ∧
        lower (strip "restricted") ∉ openVisibilities := by decide +kernel
    rcases restricts with found | found
    · simpa [visibility, found, Rendering.str] using names.1
    · simpa [visibility, found, Rendering.str] using names.2
  have refused : aclAllows python acl filter = false := by
    rw [← Bool.not_eq_true, aclAllows_iff_visible accepted]
    exact closed
  refine ⟨refused, ?_⟩
  rw [refused]
  exact ⟨fun same listed => Bool.false_ne_true (same.mpr listed),
    iff_of_false Bool.false_ne_true⟩

end

/-- A restricted document for a user who is not the reader. -/
theorem uploaded_acl_excludes_unlisted_reader :
    aclAllows Retrieval.Reader.brackets
        [("visibility", .str "restricted"), ("users", .arr [.str "owner"])]
        (Retrieval.toVectorAclFilter Retrieval.Reader.filters) = true ↔
      Listed Retrieval.Reader.brackets
        [("visibility", .str "restricted"), ("users", .arr [.str "owner"])]
        (Retrieval.toVectorAclFilter Retrieval.Reader.filters) := by
  have accepted : validateAcl
      [("visibility", .str "restricted"), ("users", .arr [.str "owner"])] = .ok () := by
    decide +kernel
  apply (uploaded_acl_excludes_unlisted accepted (Or.inr rfl)).2.mpr
  rintro (isUser | ⟨_, _, isRole⟩ | ⟨_, _, isName⟩)
  · revert isUser
    decide +kernel
  · cases isRole
  · cases isName

/-- A private document that lists the reader among its users is accepted, and the reader
may not read it. -/
theorem uploaded_acl_locks_out_listed_user :
    validateAcl [("visibility", .str "private"), ("users", .arr [.str "reader"])] = .ok () ∧
      "reader" ∈ textSet Retrieval.Reader.brackets (some (.arr [.str "reader"])) ∧
      (Retrieval.toVectorAclFilter Retrieval.Reader.filters).userId = "reader" ∧
      aclAllows Retrieval.Reader.brackets
        [("visibility", .str "private"), ("users", .arr [.str "reader"])]
        (Retrieval.toVectorAclFilter Retrieval.Reader.filters) = false := by
  decide +kernel

end AegisRag.Data
