import Mathlib.Data.Set.Basic
import Mathlib.Order.Bounds.Basic
import Caas.Js.OrderedMap
import Caas.Machine.Descent

/-!
# The permission registry and the permission resolver

`resolve` expands the wildcards of the given permissions and then follows the implications.
`resolveImplications` calls itself on every implied permission and keeps no record of the
permissions it has seen; its first argument is how deep its calls may nest.

`mem_of_resolves` says what the resolver returns, `exists_resolves_iff` when it does.
-/

namespace Caas.Permissions

open Js

/-- The fields of a definition that the registry and the resolver read. -/
structure PermissionDefinition where
  id : String
  resource : String
  implies : Option (List String) := none
deriving DecidableEq

/-- The registry files every definition under its own id. -/
structure PermissionRegistry where
  permissions : OrderedMap String PermissionDefinition
  filed : ∀ entry ∈ permissions.entries, entry.1 = entry.2.id

namespace PermissionRegistry

def empty : PermissionRegistry := ⟨.empty, fun _ member => absurd member List.not_mem_nil⟩

def register (registry : PermissionRegistry) (permission : PermissionDefinition) :
    PermissionRegistry :=
  ⟨registry.permissions.set permission.id permission,
    OrderedMap.forall_mem_setEntry registry.filed rfl⟩

def registerMany (registry : PermissionRegistry) (permissions : List PermissionDefinition) :
    PermissionRegistry :=
  permissions.foldl register registry

def get (registry : PermissionRegistry) (permissionId : String) : Option PermissionDefinition :=
  registry.permissions.get permissionId

def getByResource (registry : PermissionRegistry) (resourceType : String) :
    List PermissionDefinition :=
  registry.permissions.values.filter fun permission => permission.resource = resourceType

/-- `pattern.split('.')` is read for its first two parts only. -/
def expandWildcard (registry : PermissionRegistry) (pattern : String) : List String :=
  if '*' ∉ pattern.toList then [pattern]
  else
    match pattern.toList.splitOn '.' with
    | resource :: ['*'] :: _ => (registry.getByResource (String.ofList resource)).map (·.id)
    | _ => [pattern]

def implied (registry : PermissionRegistry) (permission : String) : List String :=
  ((registry.get permission).bind (·.implies)).getD []

theorem registered_of_implied {registry : PermissionRegistry} {permission : String}
    (implies : registry.implied permission ≠ []) :
    permission ∈ registry.permissions.entries.map Prod.fst := by
  by_contra absent
  have missing : registry.get permission = none :=
    OrderedMap.lookupEntry_eq_none_iff.mpr absent
  exact implies (by rw [implied, missing]; rfl)

end PermissionRegistry

namespace PermissionResolver

variable (registry : PermissionRegistry)

/-- The recursion; `none` is that the calls nest deeper than `depth`. -/
def resolveImplications : Nat → List String → Option (OrderedSet String)
  | 0, _ => none
  | depth + 1, permissions =>
    permissions.foldlM (fun resolved permission =>
      (registry.implied permission).foldlM (fun resolved implied => do
        let subImplied ← resolveImplications depth [implied]
        return (resolved.add implied).addAll subImplied.items) resolved)
      (OrderedSet.ofList permissions)

def expandWildcards (permissions : List String) : OrderedSet String :=
  permissions.foldl (fun expanded permission =>
    if '*' ∈ permission.toList then expanded.addAll (registry.expandWildcard permission)
    else expanded.add permission) .empty

def resolve (depth : Nat) (permissions : List String) : Option (OrderedSet String) :=
  resolveImplications registry depth (expandWildcards registry permissions).items

def hasPermission (depth : Nat) (userPermissions : List String) (requiredPermission : String) :
    Option Bool :=
  (resolve registry depth userPermissions).map fun resolved =>
    requiredPermission ∈ resolved.items

/-- A call of `resolve` comes back with a set, at whatever depth. -/
def Resolves (permissions : List String) (resolved : OrderedSet String) : Prop :=
  ∃ depth, resolve registry depth permissions = some resolved

variable {registry}

variable {permissions : List String} {permission : String}

theorem mem_expandWildcards : permission ∈ expandWildcards registry permissions ↔
      ∃ given ∈ permissions, permission ∈ registry.expandWildcard given := by
  have folded : ∀ expanded : OrderedSet String,
      permission ∈ permissions.foldl (fun expanded permission =>
          if '*' ∈ permission.toList then expanded.addAll (registry.expandWildcard permission)
          else expanded.add permission) expanded ↔
        permission ∈ expanded ∨
          ∃ given ∈ permissions, permission ∈ registry.expandWildcard given := by
    induction permissions with
    | nil => simp
    | cons given rest ih =>
      intro expanded
      rw [List.foldl_cons, ih, List.exists_mem_cons_iff, ← or_assoc]
      refine or_congr_left ?_
      split
      · exact OrderedSet.mem_addAll
      · rename_i plain
        rw [OrderedSet.mem_add, PermissionRegistry.expandWildcard, if_pos plain,
          List.mem_singleton]
  rw [expandWildcards, folded, or_iff_right (OrderedSet.not_mem_empty permission)]

section Following

variable {depth : Nat}

theorem isSome_foldlM {α β : Type} {step : β → α → Option β} {returns : α → Prop}
    {items : List α} (each : ∀ item ∈ items, ∀ state, (step state item).isSome ↔ returns item)
    (start : β) : (items.foldlM step start).isSome ↔ ∀ item ∈ items, returns item := by
  induction items generalizing start with
  | nil => simp
  | cons item rest ih =>
    rw [List.foldlM_cons, List.forall_mem_cons]
    have first := each item List.mem_cons_self start
    have later := ih fun other member => each other (List.mem_cons_of_mem _ member)
    cases stepped : step start item with
    | none =>
      rw [stepped] at first
      simpa using fun returned => absurd (first.mpr returned) Bool.false_ne_true
    | some middle =>
      rw [stepped] at first
      simpa [first.mp rfl] using later middle

theorem isSome_resolveImplications {permissions : List String} :
    (resolveImplications registry (depth + 1) permissions).isSome ↔
      ∀ given ∈ permissions, Descent.ends registry.implied (depth + 1) given = true := by
  induction depth generalizing permissions with
  | zero =>
    rw [resolveImplications]
    refine isSome_foldlM (fun given _ resolved => ?_) _
    rw [Descent.ends_succ]
    refine isSome_foldlM (fun implied _ resolved => ?_) resolved
    simp [resolveImplications, Descent.ends]
  | succ depth ih =>
    rw [resolveImplications]
    refine isSome_foldlM (fun given _ resolved => ?_) _
    rw [Descent.ends_succ]
    refine isSome_foldlM (fun implied _ resolved => ?_) resolved
    rw [← List.forall_mem_singleton (p := fun implied => Descent.ends _ _ implied = true), ← ih]
    cases resolveImplications registry (depth + 1) [implied] <;> simp

theorem mem_inner_loop {implications : List String} {resolved result : OrderedSet String}
    (done : implications.foldlM (fun resolved implied => do
        let subImplied ← resolveImplications registry depth [implied]
        return (resolved.add implied).addAll subImplied.items) resolved = some result)
    {permission : String} : permission ∈ result ↔ permission ∈ resolved ∨ ∃ implied ∈ implications,
      permission = implied ∨ ∃ sub, resolveImplications registry depth [implied] = some sub ∧
        permission ∈ sub := by
  induction implications generalizing resolved with
  | nil =>
    obtain rfl : resolved = result := by simpa using done
    simp
  | cons implied rest ih =>
    rw [List.foldlM_cons] at done
    cases found : resolveImplications registry depth [implied] with
    | none => simp [found] at done
    | some sub =>
      simp only [found, Option.bind_eq_bind, Option.bind_some, Option.pure_def] at done
      rw [ih done, List.exists_mem_cons_iff, OrderedSet.mem_addAll, OrderedSet.mem_add, or_assoc,
        or_assoc, found]
      simp [OrderedSet.mem_def, or_assoc]

theorem mem_outer_loop {permissions : List String} {resolved result : OrderedSet String}
    (done : permissions.foldlM (fun resolved permission =>
      (registry.implied permission).foldlM (fun resolved implied => do
        let subImplied ← resolveImplications registry depth [implied]
        return (resolved.add implied).addAll subImplied.items) resolved) resolved = some result)
    {permission : String} : permission ∈ result ↔ permission ∈ resolved ∨
      ∃ given ∈ permissions, ∃ implied ∈ registry.implied given,
        permission = implied ∨ ∃ sub, resolveImplications registry depth [implied] = some sub ∧
          permission ∈ sub := by
  induction permissions generalizing resolved with
  | nil =>
    obtain rfl : resolved = result := by simpa using done
    simp
  | cons given rest ih =>
    rw [List.foldlM_cons] at done
    obtain ⟨middle, first, later⟩ := Option.bind_eq_some_iff.mp done
    rw [ih later, mem_inner_loop first, List.exists_mem_cons_iff, or_assoc]

end Following

/-- The relation that the recursion follows. -/
abbrev Implies (registry : PermissionRegistry) : String → String → Prop :=
  Descent.Calls registry.implied

theorem mem_resolveImplications {depth : Nat} {resolved : OrderedSet String}
    (done : resolveImplications registry depth permissions = some resolved) :
    permission ∈ resolved ↔
      ∃ given ∈ permissions, Relation.ReflTransGen (Implies registry) given permission := by
  induction depth generalizing permissions resolved permission with
  | zero => cases done
  | succ depth ih =>
    have calls := isSome_resolveImplications.mp (Option.isSome_of_eq_some done)
    rw [resolveImplications] at done
    rw [mem_outer_loop done, OrderedSet.mem_ofList]
    constructor
    · rintro (member | ⟨given, member, implied, called, rfl | ⟨sub, below, inside⟩⟩)
      · exact ⟨permission, member, .refl⟩
      · exact ⟨given, member, .single called⟩
      · obtain ⟨_, only, path⟩ := (ih below).mp inside
        rw [List.mem_singleton.mp only] at path
        exact ⟨given, member, .head called path⟩
    · rintro ⟨given, member, path⟩
      rcases Relation.ReflTransGen.cases_head path with rfl | ⟨implied, called, onward⟩
      · exact .inl member
      · refine .inr ⟨given, member, implied, called, .inr ?_⟩
        have ended := Descent.ends_succ.mp (calls given member) implied called
        obtain ⟨sub, below⟩ : ∃ sub, resolveImplications registry depth [implied] = some sub := by
          rw [← Option.isSome_iff_exists]
          cases depth with
          | zero => cases ended
          | succ depth =>
            exact isSome_resolveImplications.mpr fun given only =>
              List.mem_singleton.mp only ▸ ended
        exact ⟨sub, below, (ih below).mpr ⟨implied, List.mem_singleton_self implied, onward⟩⟩

/-- The permissions a call with enough room comes back with. -/
def Reached (registry : PermissionRegistry) (permissions : List String) (permission : String) :
    Prop :=
  ∃ given ∈ permissions, ∃ expanded ∈ registry.expandWildcard given,
    Relation.ReflTransGen (Implies registry) expanded permission

theorem mem_of_resolves {resolved : OrderedSet String}
    (done : Resolves registry permissions resolved) :
    permission ∈ resolved ↔ Reached registry permissions permission := by
  obtain ⟨depth, done⟩ := done
  rw [mem_resolveImplications done]
  constructor
  · rintro ⟨expanded, member, path⟩
    obtain ⟨given, listed, stands⟩ := mem_expandWildcards.mp member
    exact ⟨given, listed, expanded, stands, path⟩
  · rintro ⟨given, listed, expanded, stands, path⟩
    exact ⟨expanded, mem_expandWildcards.mpr ⟨given, listed, stands⟩, path⟩

/-- The resolver comes back exactly when no permission it reaches implies itself. -/
theorem exists_resolves_iff : (∃ resolved, Resolves registry permissions resolved) ↔
      ∀ permission, Reached registry permissions permission →
        ¬ Relation.TransGen (Implies registry) permission permission := by
  have finite := fun permission => @PermissionRegistry.registered_of_implied registry permission
  constructor
  · rintro ⟨resolved, depth, done⟩ permission ⟨given, listed, expanded, stands, path⟩
    cases depth with
    | zero => cases done
    | succ depth =>
      have ended := isSome_resolveImplications.mp (Option.isSome_of_eq_some done) expanded
        (mem_expandWildcards.mpr ⟨given, listed, stands⟩)
      exact (Descent.exists_ends_iff_no_cycle finite).mp ⟨_, ended⟩ permission path
  · intro acyclic
    have each : ∀ expanded ∈ (expandWildcards registry permissions).items,
        ∃ depth, Descent.ends registry.implied depth expanded = true := by
      intro expanded member
      obtain ⟨given, listed, stands⟩ := mem_expandWildcards.mp member
      exact (Descent.exists_ends_iff_no_cycle finite).mpr fun permission path =>
        acyclic permission ⟨given, listed, expanded, stands, path⟩
    obtain ⟨depth, all⟩ := Descent.exists_common_depth each
    have returns := isSome_resolveImplications.mpr fun expanded member =>
      Descent.ends_mono (Nat.le_succ depth) (all expanded member)
    obtain ⟨resolved, done⟩ := Option.isSome_iff_exists.mp returns
    exact ⟨resolved, depth + 1, done⟩

end PermissionResolver

end Caas.Permissions

/-!
## Which permissions a list of permissions stands for

A wildcard `resource.*` stands for the registered permissions of its resource, anything else
for itself. The permissions of a user are the least set that holds what the given permissions
stand for and, with a permission, what its implications stand for.

The resolver comes back with this set unless a permission it reaches implies itself, or a
wildcard is misread: the wildcards inside implications are never expanded.
-/

namespace Caas.Permissions

open Js PermissionResolver

variable {registry : PermissionRegistry} {permissions : List String}

/-- The text is `resource.*`. -/
def IsWildcard (permission resource : String) : Prop := permission = resource ++ ".*"

def expansion (registry : PermissionRegistry) (permission : String) : Set String :=
  {other | (∃ resource definition, IsWildcard permission resource ∧
      definition ∈ registry.getByResource resource ∧ other = definition.id) ∨
    (other = permission ∧ ∀ resource, ¬ IsWildcard permission resource)}

/-- The sets that hold the given permissions and are closed under implication. -/
def closedSets (registry : PermissionRegistry) (permissions : List String) : Set (Set String) :=
  {held | (∀ given ∈ permissions, expansion registry given ⊆ held) ∧
    ∀ permission ∈ held, ∀ implied ∈ registry.implied permission,
      expansion registry implied ⊆ held}

/-- The permissions that the given ones stand for. -/
inductive Entitled (registry : PermissionRegistry) (permissions : List String) : String → Prop
  | given {given permission : String} (listed : given ∈ permissions)
      (stands : permission ∈ expansion registry given) : Entitled registry permissions permission
  | implied {holder implied permission : String} (held : Entitled registry permissions holder)
      (called : implied ∈ registry.implied holder)
      (stands : permission ∈ expansion registry implied) :
      Entitled registry permissions permission

theorem isLeast_entitled : IsLeast (closedSets registry permissions)
      {permission | Entitled registry permissions permission} := by
  constructor
  · exact ⟨fun given listed permission stands => .given listed stands,
      fun permission held implied called other stands => .implied held called stands⟩
  · intro held closed permission entitled
    induction entitled with
    | given listed stands => exact closed.1 _ listed stands
    | implied _ called stands ih => exact closed.2 _ ih _ called stands

theorem mem_expansion_of_plain {permission other : String}
    (plain : ∀ resource, ¬ IsWildcard permission resource) :
    other ∈ expansion registry permission ↔ other = permission := by
  constructor
  · rintro (⟨resource, _, wildcard, _⟩ | ⟨same, _⟩)
    · exact absurd wildcard (plain resource)
    · exact same
  · exact fun same => .inr ⟨same, plain⟩

/-- The resolver reads the wildcards it meets as they are meant and runs into no cycle. -/
structure WellRead (registry : PermissionRegistry) (permissions : List String) : Prop where
  acyclic : ∀ permission, Reached registry permissions permission →
    ¬ Relation.TransGen (Implies registry) permission permission
  given : ∀ given ∈ permissions,
    (∀ expanded ∈ registry.expandWildcard given, Entitled registry permissions expanded) ∧
      ∀ meant ∈ expansion registry given, Reached registry permissions meant
  implied : ∀ permission, Reached registry permissions permission →
    ∀ implied ∈ registry.implied permission, ∀ resource, IsWildcard implied resource →
      Entitled registry permissions implied ∧
        ∀ meant ∈ expansion registry implied, Reached registry permissions meant

namespace PermissionResolver.Reached

variable {permission : String}

theorem step {implied : String} (reached : Reached registry permissions permission)
    (called : implied ∈ registry.implied permission) : Reached registry permissions implied := by
  obtain ⟨given, listed, expanded, stands, path⟩ := reached
  exact ⟨given, listed, expanded, stands, path.tail called⟩

theorem entitled (read : WellRead registry permissions)
    (reached : Reached registry permissions permission) :
    Entitled registry permissions permission := by
  obtain ⟨given, listed, expanded, stands, path⟩ := reached
  induction path with
  | refl => exact (read.given given listed).1 expanded stands
  | @tail holder implied path called ih =>
    have here : Reached registry permissions holder := ⟨given, listed, expanded, stands, path⟩
    by_cases wildcard : ∃ resource, IsWildcard implied resource
    · obtain ⟨resource, wildcard⟩ := wildcard
      exact (read.implied holder here implied called resource wildcard).1
    · exact .implied ih called ((mem_expansion_of_plain (not_exists.mp wildcard)).mpr rfl)

theorem mono {more : List String} (subset : permissions ⊆ more)
    (reached : Reached registry permissions permission) : Reached registry more permission := by
  obtain ⟨given, listed, expanded, stands, path⟩ := reached
  exact ⟨given, subset listed, expanded, stands, path⟩

end PermissionResolver.Reached

theorem Entitled.reached (read : WellRead registry permissions) {permission : String}
    (entitled : Entitled registry permissions permission) :
    Reached registry permissions permission := by
  induction entitled with
  | given listed stands => exact (read.given _ listed).2 _ stands
  | @implied holder implied permission _ called stands ih =>
    by_cases wildcard : ∃ resource, IsWildcard implied resource
    · obtain ⟨resource, wildcard⟩ := wildcard
      exact (read.implied holder ih implied called resource wildcard).2 permission stands
    · rw [mem_expansion_of_plain (not_exists.mp wildcard)] at stands
      rw [stands]
      exact ih.step called

theorem wellRead_iff (acyclic : ∀ permission, Reached registry permissions permission →
      ¬ Relation.TransGen (Implies registry) permission permission) :
    WellRead registry permissions ↔ ∀ permission,
      Reached registry permissions permission ↔ Entitled registry permissions permission := by
  constructor
  · exact fun read permission => ⟨Reached.entitled read, Entitled.reached read⟩
  · intro same
    refine ⟨acyclic, fun given listed => ⟨fun expanded stands => ?_, fun meant stands => ?_⟩,
      fun permission reached implied called resource wildcard =>
        ⟨(same implied).mp (reached.step called), fun meant stands => ?_⟩⟩
    · exact (same expanded).mp ⟨given, listed, expanded, stands, .refl⟩
    · exact (same meant).mpr (.given listed stands)
    · exact (same meant).mpr (.implied ((same permission).mp reached) called stands)

/-- The resolver comes back with the least closed set. -/
def ResolvesToLeast (registry : PermissionRegistry) (permissions : List String) : Prop :=
  ∃ resolved, Resolves registry permissions resolved ∧
    IsLeast (closedSets registry permissions) {permission | permission ∈ resolved}

/-- The resolver is right exactly about the lists it reads well; and where it comes back at all,
more given permissions leave it no permission less. -/
theorem resolve_least (registry : PermissionRegistry) (permissions : List String) :
    (ResolvesToLeast registry permissions ↔ WellRead registry permissions) ∧
      ∀ more depth depth' required, permissions ⊆ more →
        hasPermission registry depth permissions required = some true →
          (hasPermission registry depth' more required).isSome →
            hasPermission registry depth' more required = some true := by
  refine ⟨⟨?_, fun read => ?_⟩, fun more depth depth' required subset granted returns => ?_⟩
  · rintro ⟨resolved, done, least⟩
    refine (wellRead_iff (exists_resolves_iff.mp ⟨resolved, done⟩)).mpr fun permission => ?_
    rw [← mem_of_resolves done]
    exact Set.ext_iff.mp (least.unique isLeast_entitled) permission
  · obtain ⟨resolved, done⟩ := exists_resolves_iff.mpr read.acyclic
    have members : {permission | permission ∈ resolved} =
        {permission | Entitled registry permissions permission} :=
      Set.ext fun permission =>
        (mem_of_resolves done).trans ((wellRead_iff read.acyclic).mp read permission)
    exact ⟨resolved, done, members ▸ isLeast_entitled⟩
  · obtain ⟨resolved, done, held⟩ := Option.map_eq_some_iff.mp granted
    obtain ⟨answer, returned⟩ := Option.isSome_iff_exists.mp returns
    obtain ⟨resolved', done', held'⟩ := Option.map_eq_some_iff.mp returned
    have member : required ∈ resolved := OrderedSet.mem_def.mpr (by simpa using held)
    have reached := (mem_of_resolves ⟨depth, done⟩).mp member
    have kept : required ∈ resolved'.items :=
      (mem_of_resolves ⟨depth', done'⟩).mpr (reached.mono subset)
    rw [returned, ← held']
    exact congrArg some (decide_eq_true kept)

def mutualRegistry : PermissionRegistry :=
  PermissionRegistry.empty.registerMany
    [{ id := "group.manage", resource := "group", implies := some ["user.manage"] },
      { id := "user.manage", resource := "user", implies := some ["group.manage"] }]

/-- Of two permissions that imply each other neither is ever resolved. -/
theorem mutualRegistry_diverges : ¬ ResolvesToLeast mutualRegistry ["group.manage"] := by
  rintro ⟨resolved, done, -⟩
  have acyclic := exists_resolves_iff.mp ⟨resolved, done⟩
  refine acyclic "group.manage" ⟨"group.manage", by decide, "group.manage", by decide, .refl⟩ ?_
  have there : Implies mutualRegistry "group.manage" "user.manage" :=
    show "user.manage" ∈ mutualRegistry.implied "group.manage" by decide
  have back : Implies mutualRegistry "user.manage" "group.manage" :=
    show "group.manage" ∈ mutualRegistry.implied "user.manage" by decide
  exact .head there (.single back)

end Caas.Permissions
