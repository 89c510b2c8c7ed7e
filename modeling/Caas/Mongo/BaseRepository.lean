import Caas.Mongo.QueryBuilder
import Caas.Machine.Transducer
import Mathlib.Data.List.Induction

/-!
# The base repository

Every operation that reads or changes documents builds its filter with the one
query builder of the repository, which nobody resets. `OwnFilters` says that a
call passes its own conditions and tenant to the database and nothing else;
`passes_own_filters_iff` says after which histories that is so.

Documents, projections and sort orders pass through and are left out.
-/

namespace Caas.Mongo

open Js OrderedMap

universe u

/-- The model operation a filter is passed to. -/
inductive ModelMethod where
  | findOne
  | find
  | findOneAndUpdate
  | updateMany
  | deleteOne
  | countDocuments
deriving DecidableEq

/-- A query as the database receives it. -/
structure Query (Condition : Type u) where
  method : ModelMethod
  filter : FilterQuery Condition

/-- A call of the repository. `countFails` says that the database rejects the count of
a paginated read, which ends the call. -/
inductive RepositoryCall (Condition : Type u) where
  | findById (id : Condition) (tenantId : String)
  | findOne (filter : FilterQuery Condition) (tenantId : String)
  | findMany (filter : FilterQuery Condition) (tenantId : String)
  | count (filter : FilterQuery Condition) (tenantId : String)
  | exists' (filter : FilterQuery Condition) (tenantId : String)
  | update (id : Condition) (tenantId : String)
  | updateMany (filter : FilterQuery Condition) (tenantId : String)
  | delete (id : Condition) (tenantId : String)
  | softDelete (id : Condition) (tenantId : String)
  | findWithPagination (filter : FilterQuery Condition) (tenantId : String) (countFails : Bool)

namespace RepositoryCall

variable {Condition : Type u}

/-- `{ _id: id }`. -/
def byId (id : Condition) : FilterQuery Condition := .ofList [("_id", id)]

def conditions : RepositoryCall Condition → FilterQuery Condition
  | .findById id _ | .update id _ | .delete id _ | .softDelete id _ => byId id
  | .findOne filter _ | .findMany filter _ | .count filter _ | .exists' filter _
  | .updateMany filter _ | .findWithPagination filter _ _ => filter

def tenantId : RepositoryCall Condition → String
  | .findById _ tenantId | .findOne _ tenantId | .findMany _ tenantId | .count _ tenantId
  | .exists' _ tenantId | .update _ tenantId | .updateMany _ tenantId | .delete _ tenantId
  | .softDelete _ tenantId | .findWithPagination _ tenantId _ => tenantId

end RepositoryCall

namespace BaseRepository

variable {Condition : Type u} (text : String → Condition)

/-- One query: `this.queryBuilder.where(filter).tenant(tenantId).build()`. -/
def issue (builder : QueryBuilder Condition) (method : ModelMethod)
    (filter : FilterQuery Condition) (tenantId : String) :
    QueryBuilder Condition × Query Condition :=
  let builder := (builder.where' filter).tenant tenantId
  (builder, { method, filter := builder.build text })

/-- The queries of one call, in order. A soft delete is an update; a paginated read
is a count followed by a find. -/
def step (builder : QueryBuilder Condition) :
    RepositoryCall Condition → QueryBuilder Condition × List (Query Condition)
  | .findById id tenantId => one (issue text builder .findOne (RepositoryCall.byId id) tenantId)
  | .findOne filter tenantId => one (issue text builder .findOne filter tenantId)
  | .findMany filter tenantId => one (issue text builder .find filter tenantId)
  | .count filter tenantId => one (issue text builder .countDocuments filter tenantId)
  | .exists' filter tenantId => one (issue text builder .findOne filter tenantId)
  | .update id tenantId | .softDelete id tenantId =>
    one (issue text builder .findOneAndUpdate (RepositoryCall.byId id) tenantId)
  | .updateMany filter tenantId => one (issue text builder .updateMany filter tenantId)
  | .delete id tenantId => one (issue text builder .deleteOne (RepositoryCall.byId id) tenantId)
  | .findWithPagination filter tenantId countFails =>
    let (counted, total) := issue text builder .countDocuments filter tenantId
    if countFails then (counted, [total])
    else
      let (found, documents) := issue text counted .find filter tenantId
      (found, [total, documents])
where
  /-- A call that issues a single query. -/
  one (issued : QueryBuilder Condition × Query Condition) :
      QueryBuilder Condition × List (Query Condition) :=
    (issued.1, [issued.2])

def machine : Transducer (QueryBuilder Condition) (RepositoryCall Condition)
    (List (Query Condition)) := ⟨step text⟩

/-- The builder after the calls of `history` on a fresh repository. -/
def builderAfter (history : List (RepositoryCall Condition)) : QueryBuilder Condition :=
  (machine text).run .fresh history

/-- The filter a call should pass: its conditions, for its tenant. -/
def ownFilter (call : RepositoryCall Condition) : FilterQuery Condition :=
  call.conditions.set "tenantId" (text call.tenantId)

/-- After `history`, every query of `call` has the call's own filter. -/
def OwnFilters (history : List (RepositoryCall Condition)) (call : RepositoryCall Condition) :
    Prop :=
  ∀ query ∈ (step text (builderAfter text history) call).2,
    ∀ key, query.filter.get key = (ownFilter text call).get key

/-- The newest condition that `history` gave for `key`. -/
def lastGiven (history : List (RepositoryCall Condition)) (key : String) : Option Condition :=
  history.foldl (fun given call => (call.conditions.get key).or given) none

variable {text}

theorem lastGiven_eq_none_iff {history : List (RepositoryCall Condition)} {key : String} :
    lastGiven history key = none ↔ ∀ call ∈ history, call.conditions.get key = none := by
  induction history using List.reverseRecOn with
  | nil => simp [lastGiven]
  | append_singleton earlier call ih =>
    unfold lastGiven at ih ⊢
    rw [List.foldl_append, List.foldl_cons, List.foldl_nil, Option.or_eq_none_iff, ih]
    simp [or_imp, forall_and, and_comm]

theorem or_or_self (given earlier : Option Condition) :
    given.or (given.or earlier) = given.or earlier := by
  cases given <;> rfl

variable (builder : QueryBuilder Condition) (call : RepositoryCall Condition)

theorem query_step (key : String) : (step text builder call).1.query.get key =
      (call.conditions.get key).or (builder.query.get key) := by
  cases call with
  | findWithPagination filter tenantId countFails =>
    cases countFails <;>
      simp [step, issue, QueryBuilder.where', QueryBuilder.tenant, get_spread,
        RepositoryCall.conditions, or_or_self]
  | _ =>
    simp [step, step.one, issue, QueryBuilder.where', QueryBuilder.tenant, get_spread,
      RepositoryCall.conditions]

theorem query_builderAfter (history : List (RepositoryCall Condition)) (key : String) :
    (builderAfter text history).query.get key = lastGiven history key := by
  induction history using List.reverseRecOn with
  | nil => rfl
  | append_singleton earlier call ih =>
    unfold builderAfter Transducer.run at ih ⊢
    unfold lastGiven at ih ⊢
    rw [List.foldl_append, List.foldl_append, List.foldl_cons, List.foldl_cons, ← ih]
    exact query_step _ call key

theorem get_filter_step {query : Query Condition} (issued : query ∈ (step text builder call).2)
    (key : String) : query.filter.get key =
      if key = "tenantId" ∧ call.tenantId ≠ "" then some (text call.tenantId)
      else (call.conditions.get key).or (builder.query.get key) := by
  cases call with
  | findWithPagination filter tenantId countFails =>
    have counted : query = (issue text builder .countDocuments filter tenantId).2 ∨
        query = (issue text (issue text builder .countDocuments filter tenantId).1 .find filter
          tenantId).2 := by
      cases countFails with
      | true => exact .inl (by simpa [step] using issued)
      | false => simpa [step] using issued
    rcases counted with rfl | rfl
    · exact QueryBuilder.get_build_where filter tenantId key
    · refine (QueryBuilder.get_build_where filter tenantId key).trans ?_
      simp only [issue, QueryBuilder.where', QueryBuilder.tenant, get_spread, or_or_self]
      rfl
  | _ =>
    cases List.mem_singleton.mp issued
    exact QueryBuilder.get_build_where _ _ key

theorem step_issues : ∃ query, query ∈ (step text builder call).2 := by
  cases call with
  | findWithPagination filter tenantId countFails =>
    cases countFails <;> exact ⟨_, List.mem_cons_self⟩
  | _ => exact ⟨_, List.mem_cons_self⟩

/-- After every history, a call passes its own filter exactly when it gives itself
every condition that an earlier call gave for another key than the tenant's, and it
names its tenant (or an empty tenant id stands among the conditions anyway). -/
theorem passes_own_filters_iff (text : String → Condition)
    (history : List (RepositoryCall Condition)) (call : RepositoryCall Condition) :
    OwnFilters text history call ↔
      (∀ earlier ∈ history, ∀ key, key ≠ "tenantId" → call.conditions.get key = none →
        earlier.conditions.get key = none) ∧ (call.tenantId = "" →
        (call.conditions.get "tenantId").or (lastGiven history "tenantId") = some (text "")) := by
  have own : ∀ key, (ownFilter text call).get key =
      if key = "tenantId" then some (text call.tenantId) else call.conditions.get key := by
    intro key
    simp [ownFilter, get_set, eq_comm]
  constructor
  · intro passes
    obtain ⟨query, issued⟩ := step_issues (builderAfter text history) call
    have shown : ∀ key, _ := fun key =>
      (get_filter_step _ call issued key).symm.trans (passes query issued key)
    constructor
    · intro earlier member key other ungiven
      have leaked := shown key
      rw [own, query_builderAfter, if_neg (fun named => other named.1), if_neg other, ungiven,
        Option.none_or] at leaked
      exact lastGiven_eq_none_iff.mp leaked earlier member
    · intro unnamed
      have tenant := shown "tenantId"
      rw [own, query_builderAfter, if_neg (fun named => named.2 unnamed), if_pos rfl,
        unnamed] at tenant
      exact tenant
  · rintro ⟨covered, tenanted⟩ query issued key
    rw [get_filter_step _ call issued, own, query_builderAfter]
    by_cases tenant : key = "tenantId"
    · subst tenant
      by_cases unnamed : call.tenantId = ""
      · rw [if_neg (fun named => named.2 unnamed), if_pos rfl, unnamed]
        exact tenanted unnamed
      · rw [if_pos ⟨rfl, unnamed⟩, if_pos rfl]
    · rw [if_neg (fun named => tenant named.1), if_neg tenant]
      cases given : call.conditions.get key with
      | some condition => rfl
      | none =>
        rw [Option.none_or]
        exact lastGiven_eq_none_iff.mpr fun earlier member =>
          covered earlier member key tenant given

/-- A count of everything, after a read by id, counts that one document only. -/
theorem findById_narrows_count :
    ¬ OwnFilters Value.string [.findById (.string "x") "a"] (.count .empty "b") := by
  intro passes
  have leaked := passes _ List.mem_cons_self "_id"
  exact absurd leaked (by decide)

end BaseRepository

end Caas.Mongo
