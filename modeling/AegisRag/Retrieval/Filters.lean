import AegisRag.Semantics.Sql
import AegisRag.Auth.Context
import AegisRag.Vectorstores.Acl

/-!
# Access filters of a retrieval

The conditions on the access list that the two PostgreSQL searches generate from a filter
set: `_postgres_search_query` of `packages/vectorstores/adapters/pgvector.py` and
`_postgres_search_statement` of `packages/retrieval/sparse.py`. A member of a row's access
list may be missing, and then every comparison with it is unknown.
-/

namespace AegisRag.Retrieval

open Semantics Auth Vectorstores

/-! ## Filter sets -/

/-- `RetrievalFilterSet`; its identity is that of the authenticated context. -/
structure RetrievalFilterSet where
  auth : AuthContext
  metadataFilter : List (String × Json)

/-- `build_retrieval_filter_set`; a filter on another tenant is refused. -/
def buildRetrievalFilterSet (auth : AuthContext) (metadataFilter : List (String × Json)) :
    Except String RetrievalFilterSet :=
  let rest := metadataFilter.filter fun member => member.1 ≠ "tenant_id"
  match metadataFilter.lookup "tenant_id" with
  | none | some .null => .ok ⟨auth, rest⟩
  | some (.str tenantId) =>
    if tenantId = auth.tenantId then .ok ⟨auth, rest⟩ else .error "RETRIEVAL_FORBIDDEN_FILTER"
  | some _ => .error "RETRIEVAL_FORBIDDEN_FILTER"

/-- `AclFilter` of an authenticated context, whose texts its validators keep. -/
def aclFilterFromAuth (auth : AuthContext) : AclFilter where
  userId := auth.userId
  roles := AclFilter.normalizeTextList auth.roles
  department := optionalText auth.department
  permissions := AclFilter.normalizeTextList auth.permissions
  userId_isText := auth.userId_isText
  roles_areTexts := AclFilter.normalizeTextList_areTexts auth.roles
  department_isText := optionalText_isText auth.department
  permissions_areTexts := AclFilter.normalizeTextList_areTexts auth.permissions

/-- `to_vector_acl_filter`. -/
def toVectorAclFilter (filters : RetrievalFilterSet) : AclFilter :=
  aclFilterFromAuth filters.auth

/-- The members that grant access, with the identity's names as the sparse search has
them, in their own order and not deduplicated. -/
def RetrievalFilterSet.grants (filters : RetrievalFilterSet) : List (String × List String) :=
  [("allowed_users", [filters.auth.userId]), ("allowed_roles", filters.auth.roles),
    ("allowed_departments", filters.auth.department.toList),
    ("allowed_permissions", filters.auth.permissions)]

/-- Both forms of an identity name the same texts under the same members. -/
theorem grants_agree (filters : RetrievalFilterSet) (holds : String → String → Prop) :
    (∃ grant ∈ filters.grants, ∃ name ∈ grant.2, holds grant.1 name) ↔
      ∃ grant ∈ (toVectorAclFilter filters).grants, ∃ name ∈ grant.2, holds grant.1 name := by
  have department := optionalText_eq_self filters.auth.department_isText
  have roles := texts_eq_self filters.auth.roles_areTexts
  have permissions := texts_eq_self filters.auth.permissions_areTexts
  simp [RetrievalFilterSet.grants, AclFilter.grants, toVectorAclFilter, aclFilterFromAuth,
    AclFilter.mem_normalizeTextList, department, roles, permissions]

/-! ## The generated conditions -/

section

variable (postgres : Rendering)

/-- `acl ->> key`: the member as text, unknown where it is missing or null. -/
def memberText (acl : Acl) (key : String) : Option String :=
  match acl.lookup key with
  | none | some .null => none
  | some value => some (postgres.str value)

/-- `LOWER(COALESCE(acl ->> 'visibility', 'tenant')) IN ('public', 'tenant')`. -/
def visibleToTenant (acl : Acl) : Truth :=
  some (lower ((memberText postgres acl "visibility").getD "tenant") ∈ openVisibilities)

def isStr (value : String) : Json → Bool
  | .str text => text = value
  | _ => false

/-- `acl::jsonb @> {key: [value]}`: an array contains its elements, a single text
contains no array. -/
def containsList (acl : Acl) (key value : String) : Bool :=
  match acl.lookup key with
  | some (.arr items) => items.any (isStr value)
  | _ => false

/-- The condition on the access list in `_postgres_search_query`. -/
def pgvectorCondition (acl : Acl) (filter : AclFilter) : Truth :=
  Truth.and (Truth.not (some (containsList acl "denied_users" filter.userId)))
    (Truth.anyOf (visibleToTenant postgres acl :: filter.grants.flatMap fun grant =>
      grant.2.map fun name => some (containsList acl grant.1 name)))

/-- `jsonb_typeof(acl::jsonb -> key) = 'array'`. -/
def isArray (acl : Acl) (key : String) : Truth :=
  (acl.lookup key).map fun
    | .arr _ => true
    | _ => false

/-- `(acl::jsonb -> key) ? value`: an element of an array, a key of an object, or the
text itself. -/
def hasText (acl : Acl) (key value : String) : Truth :=
  (acl.lookup key).map fun
    | .arr items => items.any (isStr value)
    | .obj members => (members.lookup value).isSome
    | .str text => text = value
    | _ => false

/-- The clause of the sparse search for one name, which looks at a list and at a single
text. -/
def sparseMatch (acl : Acl) (key value : String) : Truth :=
  Truth.or (Truth.and (isArray acl key) (hasText acl key value))
    ((memberText postgres acl key).map fun text => decide (text = value))

/-- The condition on the access list in `_postgres_search_statement`. -/
def sparseCondition (acl : Acl) (filters : RetrievalFilterSet) : Truth :=
  Truth.and (Truth.not (sparseMatch postgres acl "denied_users" filters.auth.userId))
    (Truth.anyOf (visibleToTenant postgres acl :: filters.grants.flatMap fun grant =>
      grant.2.map fun name => sparseMatch postgres acl grant.1 name))

end

/-! ## What the statements find -/

/-- The members of an access list that the check reads as names. -/
def nameKeys : List String :=
  ["denied_users", "allowed_users", "allowed_roles", "allowed_departments",
    "allowed_permissions"]

/-- A single text or a list of texts. -/
def IsTexts : Json → Prop
  | .str _ => True
  | .arr items => ∀ item ∈ items, ∃ text, item = .str text
  | _ => False

/-- All members the check reads are missing, a text or a list of texts. -/
def Shaped (acl : Acl) : Prop :=
  ∀ key ∈ "visibility" :: nameKeys, ∀ value, acl.lookup key = some value → IsTexts value

/-- The member is a list that holds the name as it is. -/
def Spelled (acl : Acl) (key name : String) : Prop :=
  ∃ items, acl.lookup key = some (.arr items) ∧ .str name ∈ items

/-- The name is the JSON text of the list that the member is. -/
def Rendered (postgres : Rendering) (acl : Acl) (key name : String) : Prop :=
  ∃ items, acl.lookup key = some (.arr items) ∧ postgres.str (.arr items) = name

/-- What the sparse statement finds: the name in a list, as a single text, or as the JSON text
of a list. -/
def FoundBySparse (postgres : Rendering) (acl : Acl) (key name : String) : Prop :=
  Spelled acl key name ∨ acl.lookup key = some (.str name) ∨ Rendered postgres acl key name

/-- The visibility opens the row, or one name of the identity is found where it grants access. -/
def RetrievalFilterSet.Granted (filters : RetrievalFilterSet) (isOpen : Prop)
    (finds : String → String → Prop) : Prop :=
  isOpen ∨ ∃ grant ∈ filters.grants, ∃ name ∈ grant.2, finds grant.1 name

section

variable {python postgres : Rendering} {acl : Acl} {key name : String}

theorem any_isStr {items : List Json} : items.any (isStr name) = true ↔ .str name ∈ items := by
  rw [List.any_eq_true]
  constructor
  · rintro ⟨item, isIn, isName⟩
    cases item with
    | str text =>
      rw [isStr, decide_eq_true_eq] at isName
      exact isName ▸ isIn
    | _ => cases isName
  · intro isIn
    exact ⟨_, isIn, by simp [isStr]⟩

theorem containsList_iff : containsList acl key name = true ↔ Spelled acl key name := by
  unfold containsList Spelled
  split
  · rename_i items found
    rw [any_isStr]
    exact ⟨fun isIn => ⟨items, found, isIn⟩, fun ⟨_, same, isIn⟩ => by
      rwa [Json.arr.inj (Option.some.inj (found.symm.trans same))]⟩
  · rename_i noList
    exact ⟨nofun, fun ⟨items, found, _⟩ => (noList items found).elim⟩

/-- The check finds what is spelled out. -/
theorem Spelled.mem_textSet (spelled : Spelled acl key name) (isText : IsText name) :
    name ∈ textSet python (acl.lookup key) := by
  obtain ⟨items, found, isIn⟩ := spelled
  rw [found, textSet, isText.mem_texts]
  exact ⟨name, List.mem_map.mpr ⟨_, isIn, rfl⟩, isText.1⟩

/-- The check finds what the sparse statement finds, the JSON text of a list apart. -/
theorem FoundBySparse.mem_textSet (found : FoundBySparse postgres acl key name)
    (isText : IsText name) :
    name ∈ textSet python (acl.lookup key) ∨ Rendered postgres acl key name := by
  obtain spelled | single | rendered := found
  · exact .inl (spelled.mem_textSet isText)
  · left
    rw [single, textSet, isText.mem_texts]
    exact ⟨name, List.mem_singleton.mpr rfl, isText.1⟩
  · exact .inr rendered

/-- The sparse clause is decided where the member is there, and true where the name is found. -/
theorem sparseMatch_spec (shaped : ∀ value, acl.lookup key = some value → IsTexts value) :
    (sparseMatch postgres acl key name = some true ↔ FoundBySparse postgres acl key name) ∧
      (sparseMatch postgres acl key name = some false ↔
        (acl.lookup key).isSome ∧ ¬ FoundBySparse postgres acl key name) := by
  cases found : acl.lookup key with
  | none =>
    simp [sparseMatch, isArray, hasText, memberText, found, Truth.and, Truth.or, FoundBySparse,
      Spelled, Rendered]
  | some value =>
    cases value with
    | str text =>
      by_cases same : text = name <;>
      simp [sparseMatch, isArray, hasText, memberText, found, same, Truth.and, Truth.or,
        FoundBySparse, Spelled, Rendered, Rendering.str]
    | arr items =>
      have isFound : FoundBySparse postgres acl key name ↔
          items.any (isStr name) = true ∨ postgres.str (.arr items) = name := by
        rw [any_isStr]
        simp [FoundBySparse, Spelled, Rendered, found]
      rw [isFound, sparseMatch, isArray, hasText, memberText, found]
      simp only [Option.map_some, Option.isSome_some, true_and]
      generalize items.any (isStr name) = answer
      by_cases same : postgres.str (.arr items) = name <;> cases answer <;>
        simp [same, Truth.and, Truth.or]
    | _ => exact absurd (shaped _ found) id

/-! ## Visibility -/

theorem lower_bracket {value : String} {rest : List Char} (bracketed : value.toList = '[' :: rest) :
    lower value ∉ openVisibilities := by
  have opens : lower value = '[' :: rest.flatMap lowerChar := by
    rw [lower, bracketed, List.flatMap_cons]
    rfl
  rw [opens]
  simp [openVisibilities]

/-- A space is no capital. -/
theorem lowerChar_of_isSpace {char : Char} (blank : isSpace char = true) :
    lowerChar char = [char] := by
  have codes : char.toNat ≤ 32 ∨ 0x85 ≤ char.toNat ∧ char.toNat ≠ 0x130 ∧ char.toNat ≠ 0x212A := by
    simp only [isSpace, Bool.or_eq_true, Bool.and_eq_true, decide_eq_true_eq, beq_iff_eq] at blank
    omega
  have notUpper : ¬ (char.val ≥ 'A'.val ∧ char.val ≤ 'Z'.val) := by
    rintro ⟨low, high⟩
    have low : 65 ≤ char.toNat := UInt32.le_iff_toNat_le.mp low
    have high : char.toNat ≤ 90 := UInt32.le_iff_toNat_le.mp high
    omega
  have isSame : char.toLower = char := by
    unfold Char.toLower
    rw [dif_neg notUpper]
  rw [lowerChar, if_neg (by omega), if_neg (by omega), isSame]

/-- An open visibility that has no spaces around it is one for the check. -/
theorem visibleToTenant_isOpen (shaped : Shaped acl)
    (visible : visibleToTenant postgres acl = some true) :
    visibility python acl ∈ openVisibilities := by
  rw [visibleToTenant, Option.some.injEq, decide_eq_true_eq, memberText] at visible
  rw [visibility]
  cases found : acl.lookup "visibility" with
  | none =>
    have stripped : strip "tenant" = "tenant" := by decide +kernel
    simp [Rendering.str, stripped, lower, openVisibilities, lowerChar]
  | some value =>
    rw [found] at visible
    cases value with
    | str text =>
      have blankless : ∀ char ∈ text.toList, isSpace char = false := by
        intro char isIn
        by_contra blank
        have isBlank : isSpace char = true := by simpa using blank
        have inLower : char ∈ lower text :=
          List.mem_flatMap.mpr ⟨char, isIn, by rw [lowerChar_of_isSpace isBlank]; simp⟩
        have letters : ∀ word ∈ openVisibilities, ∀ letter ∈ word, isSpace letter = false := by
          simp [openVisibilities, isSpace]
        rw [letters _ visible char inLower] at isBlank
        cases isBlank
      have stripped : strip text = text := by
        rw [strip, List.dropWhile_eq_self_iff.mpr, List.rdropWhile_eq_self_iff.mpr,
          String.ofList_toList]
        · exact fun filled => by simpa using blankless _ (List.getLast_mem filled)
        · exact fun filled => by simpa using blankless _ (List.getElem_mem filled)
      simpa [Rendering.str, stripped] using visible
    | arr items =>
      obtain ⟨_, postgresText⟩ := postgres.bracketed items
      exact absurd visible (lower_bracket postgresText)
    | _ => exact absurd (shaped _ List.mem_cons_self _ found) id

end

/-! ## Agreement with the check -/

section

variable {python postgres : Rendering} {acl : Acl} {filters : RetrievalFilterSet}

theorem grants_keys {grant : String × List String} (isGrant : grant ∈ filters.grants) :
    grant.1 ∈ nameKeys := by
  simp only [RetrievalFilterSet.grants, List.mem_cons, List.not_mem_nil, or_false] at isGrant
  rcases isGrant with rfl | rfl | rfl | rfl <;> simp [nameKeys]

theorem grants_texts {grant : String × List String} (isGrant : grant ∈ filters.grants) :
    ∀ name ∈ grant.2, IsText name := by
  intro name isName
  simp only [RetrievalFilterSet.grants, List.mem_cons, List.not_mem_nil, or_false] at isGrant
  rcases isGrant with rfl | rfl | rfl | rfl
  · exact List.mem_singleton.mp isName ▸ filters.auth.userId_isText
  · exact filters.auth.roles_areTexts name isName
  · exact filters.auth.department_isText name (by simpa using isName)
  · exact filters.auth.permissions_areTexts name isName

theorem Granted.imp (granted : filters.Granted isOpen finds) (opens : isOpen → isOpen')
    (found : ∀ grant ∈ filters.grants, ∀ name ∈ grant.2, finds grant.1 name →
      finds' grant.1 name) : filters.Granted isOpen' finds' := by
  refine granted.imp opens ?_
  rintro ⟨grant, isGrant, name, isName, holds⟩
  exact ⟨grant, isGrant, name, isName, found grant isGrant name isName holds⟩

/-- The condition both searches generate, over the clause for one name: nobody is denied,
and the visibility or one name grants access. -/
theorem generated_iff {denied visible : Truth} {grants : List (String × List String)}
    (clause : String → String → Truth) :
    Truth.and (Truth.not denied) (Truth.anyOf (visible :: grants.flatMap fun grant =>
        grant.2.map fun name => clause grant.1 name)) = some true ↔
      denied = some false ∧ (visible = some true ∨
        ∃ grant ∈ grants, ∃ name ∈ grant.2, clause grant.1 name = some true) := by
  rw [Truth.and_eq_true, Truth.not_eq_true, Truth.anyOf_eq_true]
  simp [List.mem_flatMap, List.mem_map, eq_comm]

theorem aclAllows_granted : aclAllows python acl (toVectorAclFilter filters) = true ↔
    filters.auth.userId ∉ textSet python (acl.lookup "denied_users") ∧
      filters.Granted (visibility python acl ∈ openVisibilities)
        fun key name => name ∈ textSet python (acl.lookup key) := by
  rw [aclAllows_iff, ← grants_agree filters fun key name => name ∈ textSet python (acl.lookup key)]
  rfl

theorem pgvectorCondition_granted :
    pgvectorCondition postgres acl (toVectorAclFilter filters) = some true ↔
      ¬ Spelled acl "denied_users" filters.auth.userId ∧
        filters.Granted (visibleToTenant postgres acl = some true) (Spelled acl) := by
  have granted := grants_agree filters fun key name =>
    some (containsList acl key name) = some true
  rw [pgvectorCondition, generated_iff fun key name => some (containsList acl key name),
    ← granted, ← containsList_iff, Option.some.injEq, Bool.not_eq_true]
  simp only [Option.some.injEq, containsList_iff]
  rfl

theorem sparseCondition_granted (shaped : Shaped acl) :
    sparseCondition postgres acl filters = some true ↔
      ((acl.lookup "denied_users").isSome ∧
        ¬ FoundBySparse postgres acl "denied_users" filters.auth.userId) ∧
        filters.Granted (visibleToTenant postgres acl = some true)
          (FoundBySparse postgres acl) := by
  have shapedAt : ∀ key ∈ nameKeys, ∀ value, acl.lookup key = some value → IsTexts value :=
    fun key isKey => shaped key (List.mem_cons_of_mem _ isKey)
  rw [sparseCondition, generated_iff (sparseMatch postgres acl),
    (sparseMatch_spec (shapedAt _ (by simp [nameKeys]))).2]
  refine and_congr_right fun _ => or_congr_right ?_
  refine exists_congr fun grant => and_congr_right fun isGrant => exists_congr fun name => ?_
  exact and_congr_right fun _ => (sparseMatch_spec (shapedAt _ (grants_keys isGrant))).1

/-- Two readings of which the first finds only what the second finds. -/
theorem agrees_iff {finds granted denied allowed : Prop} (denies : finds → denied)
    (grants : granted → allowed) : ((¬ finds ∧ granted) ↔ (¬ denied ∧ allowed)) ↔
      (denied → ¬ finds → ¬ granted) ∧ (¬ denied → allowed → granted) := by
  tauto

/-- Two readings of which the first finds names the second does not, or cannot decide. -/
theorem decided_agrees_iff {decided finds granted denied allowed more others : Prop}
    (denies : finds → denied ∨ more) (adds : more → finds) (present : denied → decided)
    (grants : granted → allowed ∨ others) (finds_others : others → granted) :
    (((decided ∧ ¬ finds) ∧ granted) ↔ (¬ denied ∧ allowed)) ↔
      (denied → ¬ finds → ¬ granted) ∧ (¬ denied → allowed → decided ∧ ¬ more ∧ granted) ∧
        (¬ denied → decided → ¬ more → others → allowed) := by
  tauto

/-- The vector search selects the rows the check lets through exactly if every denial of a user
who is granted access, and every grant, is spelled out. So does the sparse search with what it
finds, provided that `denied_users` is there and the JSON text of a list is no name. -/
theorem sql_filters_agree_with_acl_allows (shaped : Shaped acl) :
    let user := filters.auth.userId
    let isDenied := user ∈ textSet python (acl.lookup "denied_users")
    let isOpen := visibleToTenant postgres acl = some true
    let isGranted := filters.Granted (visibility python acl ∈ openVisibilities) fun key name =>
      name ∈ textSet python (acl.lookup key)
    ((pgvectorCondition postgres acl (toVectorAclFilter filters) = some true ↔
        aclAllows python acl (toVectorAclFilter filters) = true) ↔
      (isDenied → ¬ Spelled acl "denied_users" user → ¬ filters.Granted isOpen (Spelled acl)) ∧
      (¬ isDenied → isGranted → filters.Granted isOpen (Spelled acl))) ∧
    ((sparseCondition postgres acl filters = some true ↔
        aclAllows python acl (toVectorAclFilter filters) = true) ↔
      (isDenied → ¬ FoundBySparse postgres acl "denied_users" user →
        ¬ filters.Granted isOpen (FoundBySparse postgres acl)) ∧
      (¬ isDenied → isGranted → (acl.lookup "denied_users").isSome ∧
        ¬ Rendered postgres acl "denied_users" user ∧
        filters.Granted isOpen (FoundBySparse postgres acl)) ∧
      (¬ isDenied → (acl.lookup "denied_users").isSome →
        ¬ Rendered postgres acl "denied_users" user →
        filters.Granted False (Rendered postgres acl) → isGranted)) := by
  intro user isDenied isOpen isGranted
  have isText := filters.auth.userId_isText
  have opens : isOpen → visibility python acl ∈ openVisibilities := visibleToTenant_isOpen shaped
  rw [aclAllows_granted, pgvectorCondition_granted, sparseCondition_granted shaped]
  constructor
  · have denies : Spelled acl "denied_users" user → isDenied := fun spelled =>
      spelled.mem_textSet isText
    have grants : filters.Granted isOpen (Spelled acl) → isGranted := fun granted =>
      Granted.imp granted opens fun grant isGrant name isName spelled =>
        spelled.mem_textSet (grants_texts isGrant name isName)
    exact agrees_iff denies grants
  · have denies : FoundBySparse postgres acl "denied_users" user → isDenied ∨
        Rendered postgres acl "denied_users" user := fun found => found.mem_textSet isText
    have renders : Rendered postgres acl "denied_users" user →
        FoundBySparse postgres acl "denied_users" user := fun rendered => .inr (.inr rendered)
    have present : isDenied → (acl.lookup "denied_users").isSome := by
      intro denied
      cases found : acl.lookup "denied_users" with
      | none => simp [isDenied, found, textSet] at denied
      | some value => rfl
    have grants : filters.Granted isOpen (FoundBySparse postgres acl) →
        isGranted ∨ filters.Granted False (Rendered postgres acl) := by
      rintro (isOpen | ⟨grant, isGrant, name, isName, found⟩)
      · exact .inl (.inl (opens isOpen))
      · refine (found.mem_textSet (grants_texts isGrant name isName)).imp
          (fun isIn => .inr ⟨grant, isGrant, name, isName, isIn⟩)
          fun rendered => .inr ⟨grant, isGrant, name, isName, rendered⟩
    have added : filters.Granted False (Rendered postgres acl) →
        filters.Granted isOpen (FoundBySparse postgres acl) := fun granted =>
      Granted.imp granted False.elim fun _ _ _ _ rendered => .inr (.inr rendered)
    exact decided_agrees_iff denies renders present grants added

end

/-! ## One reader -/

namespace Reader

/-- Values other than texts written as far as they are known. -/
def brackets : Rendering where
  text
    | .arr _ => "[]"
    | _ => ""
  bracketed _ := ⟨[']'], by simp⟩

def auth : AuthContext where
  userId := "reader"
  tenantId := "tenant"
  roles := ["staff"]
  department := some "legal"
  permissions := []
  userId_isText := ⟨by decide +kernel, by decide⟩
  tenantId_isText := ⟨by decide +kernel, by decide⟩
  roles_areTexts := by
    intro role isRole
    rw [List.mem_singleton.mp isRole]
    exact ⟨by decide +kernel, by decide⟩
  department_isText := by
    rintro name ⟨⟩
    exact ⟨by decide +kernel, by decide⟩
  permissions_areTexts := by simp

def filters : RetrievalFilterSet := ⟨auth, []⟩

/-- Restricted to one role, with another user denied. -/
def staffOnly : Acl :=
  [("visibility", .str "restricted"), ("denied_users", .arr [.str "mallory"]),
    ("allowed_roles", .arr [.str "staff"])]

end Reader

open Reader

/-- Both searches select a row that a role may read. -/
theorem sql_filters_agree_staffOnly :
    Shaped staffOnly ∧
      pgvectorCondition brackets staffOnly (toVectorAclFilter filters) = some true ∧
      sparseCondition brackets staffOnly filters = some true := by
  have shaped : Shaped staffOnly := by
    simp [Shaped, nameKeys, staffOnly, List.lookup, IsTexts]
  have allowed : aclAllows brackets staffOnly (toVectorAclFilter filters) = true := by
    decide +kernel
  have granted : ∀ finds : String → String → Prop, (Spelled staffOnly "allowed_roles" "staff" →
      finds "allowed_roles" "staff") →
      filters.Granted (visibleToTenant brackets staffOnly = some true) finds := fun finds found =>
    .inr ⟨("allowed_roles", ["staff"]), by simp [RetrievalFilterSet.grants, filters, auth], "staff",
      by simp, found ⟨_, rfl, by simp⟩⟩
  have notDenied := (aclAllows_granted.mp allowed).1
  obtain ⟨pgvector, sparse⟩ := @sql_filters_agree_with_acl_allows brackets brackets _ filters shaped
  refine ⟨shaped, (pgvector.mpr ⟨fun denied => absurd denied notDenied, fun _ _ =>
    granted _ id⟩).mpr allowed, (sparse.mpr ⟨fun denied => absurd denied notDenied, fun _ _ =>
    ⟨rfl, ?_, granted _ .inl⟩, fun _ _ _ _ => (aclAllows_granted.mp allowed).2⟩).mpr allowed⟩
  rintro ⟨items, -, isName⟩
  exact absurd isName (by decide : "[]" ≠ "reader")

/-- A row without `denied_users` is open to the tenant and yet the sparse search skips it,
because its condition is unknown. The vector search skips a row whose only name is a
single text, and selects one whose single text denies the reader. -/
theorem sql_filters_disagree_with_acl_allows :
    (aclAllows brackets [] (toVectorAclFilter filters) = true ∧
      sparseCondition brackets [] filters = none) ∧
    (aclAllows brackets [("visibility", .str "restricted"), ("allowed_users", .str "reader")]
        (toVectorAclFilter filters) = true ∧
      pgvectorCondition brackets
        [("visibility", .str "restricted"), ("allowed_users", .str "reader")]
        (toVectorAclFilter filters) = some false) ∧
    aclAllows brackets [("denied_users", .str "reader")]
        (toVectorAclFilter filters) = false ∧
      pgvectorCondition brackets [("denied_users", .str "reader")]
        (toVectorAclFilter filters) = some true := by
  decide +kernel

end AegisRag.Retrieval
