import Caas.Datastore.CursorPagination
import Caas.Js.ArraySort

/-!
# What a query of the MongoDB adapter means

A query means the documents that satisfy its filter, in an order that all its sort keys
admit, projected, and of them the requested slice. The adapter ignores two filter operators,
projects before it sorts, and sorts by the first key alone; `query_meaning` says what this
costs. Nothing is assumed of the engine's sort but what it promises.
-/

namespace Caas.Datastore.MongoDBAdapter

open Js

section Meaning

variable (runtime : Runtime) (regexp : String → String → Bool)

/-- The value of the field meets every operator. -/
def satisfiesOperator (doc : Record) (key : String) (op : FilterOperator) : Bool :=
  op.eq.all (fun v => (prop doc key).strictEquals v) &&
  op.ne.all (fun v => !(prop doc key).strictEquals v) &&
  op.gt.all (fun v => runtime.gt (prop doc key) v) &&
  op.gte.all (fun v => runtime.ge (prop doc key) v) &&
  op.lt.all (fun v => runtime.lt (prop doc key) v) &&
  op.lte.all (fun v => runtime.le (prop doc key) v) &&
  op.isIn.all (fun vs => vs.any fun v => (prop doc key).sameValueZero v) &&
  op.nin.all (fun vs => !vs.any fun v => (prop doc key).sameValueZero v) &&
  op.exists'.all (fun expected => expected == (prop doc key ≠ .undefined)) &&
  op.regex.all fun pattern =>
    match prop doc key with
    | .string text => regexp pattern text
    | _ => false

/-- The field meets its condition; a plain object holds no operator. -/
def satisfiesField (doc : Record) (key : String) : FilterValue → Bool
  | .operator op => satisfiesOperator runtime regexp doc key op
  | .literal (.object _) => true
  | .literal value => (prop doc key).strictEquals value

def satisfies (doc : Record) (filter : FilterSpec) : Bool :=
  filter.entries.all fun entry => satisfiesField runtime regexp doc entry.1 entry.2

/-- The documents a query is about. -/
def matching (state : AdapterState) (filter : FilterSpec) (tenantId : String) : List Record :=
  state.store.values.filter fun doc =>
    !foreign (some tenantId) doc && satisfies runtime regexp doc filter

/-- The sort key puts `a` before `b`. -/
def before (spec : SortSpec) (a b : Record) : Bool :=
  match spec.direction with
  | .asc => runtime.lt (prop a spec.field) (prop b spec.field)
  | .desc => runtime.gt (prop a spec.field) (prop b spec.field)

/-- The sort keys put `a` before `b`: the first of them that tells the two apart does. -/
def lexBefore : List SortSpec → Record → Record → Bool
  | [], _, _ => false
  | spec :: rest, a, b =>
    before runtime spec a b || (!before runtime spec b a && lexBefore rest a b)

def requested (pagination : Option PaginationSpec) (items : List Record) : List Record :=
  let limit := (pagination.map (·.limit)).getD 50
  ((pageOffset pagination).map fun start => slice items start (start + limit)).getD []

/-- The page holds the requested slice of the projections of the matching documents in an order
that the sort keys admit, and tells how many documents `count` counts. -/
def Answers (state : AdapterState) (filter : FilterSpec) (opts : FindManyOptions) : Prop :=
  let page := findMany runtime state filter (some opts)
  (∃ ordered : List Record, ordered.Perm (matching runtime regexp state filter opts.tenantId) ∧
    ordered.Pairwise (fun a b => lexBefore runtime (opts.sort.getD []) b a = false) ∧
    page.items = requested opts.pagination
      (ordered.map fun doc => applyProjection doc opts.projection)) ∧
  page.total = count runtime state filter (some opts.toReadOptions)

/-- Every engine that keeps the promise of `sort` answers with every page. -/
def AlwaysAnswers (state : AdapterState) (filter : FilterSpec) (opts : ReadOptions)
    (keys : Option (List SortSpec)) : Prop :=
  ∀ sort, Sorts sort → ∀ pagination, Answers { runtime with sort } regexp state filter
    { opts with sort := keys, pagination }

/-- Every document that the adapter selects also meets the operators that it ignores. -/
def Understood (state : AdapterState) (filter : FilterSpec) (tenantId : String) : Prop :=
  ∀ doc ∈ selected runtime state filter (some tenantId), ∀ key op,
    (key, .operator op) ∈ filter.entries →
      (∀ vs ∈ op.nin, (vs.any fun v => (prop doc key).sameValueZero v) = false) ∧
      ∀ pattern ∈ op.regex, ∃ text, prop doc key = .string text ∧ regexp pattern text = true

/-- Of two selected documents that the sort keys tell apart the first key does, and it does in
their projections; it orders these consistently, unless no two are to be told apart. -/
def FirstKeyDecides (state : AdapterState) (filter : FilterSpec) (opts : ReadOptions) :
    Option (List SortSpec) → Prop
  | none | some [] => True
  | some (first :: rest) =>
    let docs := selected runtime state filter (some opts.tenantId)
    let shown doc := applyProjection doc opts.projection
    (∀ a ∈ docs, ∀ b ∈ docs, lexBefore runtime (first :: rest) a b = true →
      before runtime first (shown a) (shown b) = true) ∧
    (Consistent (compare runtime first) (docs.map shown) ∨
      ∀ a ∈ docs, ∀ b ∈ docs, lexBefore runtime (first :: rest) a b = false)

/-- Selected documents are told apart by their ids. -/
def DistinctIds (state : AdapterState) (filter : FilterSpec) (tenantId : String) : Prop :=
  ∀ a ∈ selected runtime state filter (some tenantId),
    ∀ b ∈ selected runtime state filter (some tenantId), prop a "id" = prop b "id" → a = b

end Meaning

section Selection

variable {runtime : Runtime} {regexp : String → String → Bool} {state : AdapterState}
  {filter : FilterSpec} {tenantId : String}

/-- The operators that the adapter ignores. -/
def ignoredField (regexp : String → String → Bool) (doc : Record) (key : String) :
    FilterValue → Bool
  | .operator op =>
    op.nin.all (fun vs => !vs.any fun v => (prop doc key).sameValueZero v) &&
    op.regex.all fun pattern =>
      match prop doc key with
      | .string text => regexp pattern text
      | _ => false
  | .literal _ => true

theorem has_and_ne_undefined (doc : Record) (key : String) :
    (doc.has key && decide (prop doc key ≠ .undefined)) = decide (prop doc key ≠ .undefined) := by
  cases found : doc.get key with
  | none => simp [OrderedMap.has, prop, found]
  | some value => simp [OrderedMap.has, found]

theorem satisfiesField_eq (doc : Record) (key : String) (value : FilterValue) :
    satisfiesField runtime regexp doc key value =
      (matchesField runtime doc key value && ignoredField regexp doc key value) := by
  cases value with
  | operator op =>
    simp only [satisfiesField, satisfiesOperator, matchesField, matchesOperator, ignoredField,
      has_and_ne_undefined]
    ac_rfl
  | literal value => cases value <;> simp [satisfiesField, matchesField, ignoredField]

variable {doc : Record}

theorem satisfies_iff : satisfies runtime regexp doc filter = true ↔
    matchesFilter runtime doc filter = true ∧
      ∀ entry ∈ filter.entries, ignoredField regexp doc entry.1 entry.2 = true := by
  simp [satisfies, matchesFilter, satisfiesField_eq, forall₂_and]

theorem mem_selected : doc ∈ selected runtime state filter (some tenantId) ↔
    doc ∈ state.store.values ∧ foreign (some tenantId) doc = false ∧
      matchesFilter runtime doc filter = true := by
  simp [selected]

theorem ignoredField_operator {key : String} {op : FilterOperator} :
    ignoredField regexp doc key (.operator op) = true ↔
      (∀ vs ∈ op.nin, (vs.any fun v => (prop doc key).sameValueZero v) = false) ∧
      ∀ pattern ∈ op.regex, ∃ text, prop doc key = .string text ∧ regexp pattern text = true := by
  simp only [ignoredField, Bool.and_eq_true, Option.all_eq_true, Bool.not_eq_true']
  refine and_congr Iff.rfl (forall₂_congr fun pattern _ => ?_)
  cases prop doc key <;> simp

theorem understood_iff : Understood runtime regexp state filter tenantId ↔
    ∀ doc ∈ selected runtime state filter (some tenantId),
      satisfies runtime regexp doc filter = true := by
  refine forall₂_congr fun doc member => ?_
  rw [satisfies_iff, and_iff_right (mem_selected.mp member).2.2]
  constructor
  · rintro meets ⟨key, value⟩ given
    cases value with
    | literal value => rfl
    | operator op => exact ignoredField_operator.mpr (meets key op given)
  · intro meets key op given
    exact ignoredField_operator.mp (meets _ given)

theorem matching_eq : matching runtime regexp state filter tenantId =
    (selected runtime state filter (some tenantId)).filter fun doc =>
      satisfies runtime regexp doc filter := by
  rw [matching, selected, List.filter_filter]
  refine List.filter_congr fun doc _ => Bool.eq_iff_iff.mpr ?_
  simp only [Bool.and_eq_true, satisfies_iff]
  tauto

end Selection

section Order

variable {runtime : Runtime}

theorem lessThan_irrefl (number : Number) : number.lessThan number ≠ some true := by
  cases number with
  | nan | infinity => exact nofun
  | negInfinity | finite => simp [Number.lessThan]

theorem isLessThan_irrefl (value : Value) : runtime.isLessThan value value ≠ some true := by
  unfold Runtime.isLessThan
  split
  · next left right same same' =>
    cases same.symm.trans same'
    simp [stringLess]
  · exact lessThan_irrefl _

theorem before_irrefl (spec : SortSpec) (doc : Record) : before runtime spec doc doc = false := by
  unfold before
  split
  · exact decide_eq_false (isLessThan_irrefl _)
  · exact decide_eq_false (isLessThan_irrefl _)

theorem lexBefore_irrefl (keys : List SortSpec) (doc : Record) :
    lexBefore runtime keys doc doc = false := by
  induction keys with
  | nil => rfl
  | cons spec rest ih => simp [lexBefore, before_irrefl, ih]

theorem lexBefore_sort (sort : (Record → Record → Int) → List Record → List Record)
    (keys : List SortSpec) (a b : Record) :
    lexBefore { runtime with sort } keys a b = lexBefore runtime keys a b := by
  induction keys with
  | nil => rfl
  | cons spec rest ih =>
    exact congrArg (fun later => before runtime spec a b || (!before runtime spec b a && later)) ih

theorem mayPrecede_compare (spec : SortSpec) (a b : Record) :
    mayPrecede (compare runtime spec) a b = !before runtime spec b a := by
  unfold mayPrecede compare before Runtime.lt Runtime.gt
  cases spec.direction with
  | asc =>
    by_cases less : runtime.isLessThan (prop b spec.field) (prop a spec.field) = some true
    · simp [less]
    · simp [less]
  | desc =>
    by_cases less : runtime.isLessThan (prop a spec.field) (prop b spec.field) = some true
    · simp [less]
    · simp [less]

end Order

section Answers

variable {runtime : Runtime} {regexp : String → String → Bool} {state : AdapterState}
  {filter : FilterSpec} {opts : ReadOptions} {keys : Option (List SortSpec)}

theorem matching_of_understood (understood : Understood runtime regexp state filter opts.tenantId) :
    matching runtime regexp state filter opts.tenantId =
      selected runtime state filter (some opts.tenantId) := by
  rw [matching_eq, List.filter_eq_self]
  exact understood_iff.mp understood

variable {sort : (Record → Record → Int) → List Record → List Record}

theorem exists_ordered (sorts : Sorts sort) (comparator : Record → Record → Int)
    (docs : List Record) (shown : Record → Record) : ∃ ordered : List Record, ordered.Perm docs ∧
      sort comparator (docs.map shown) = ordered.map shown := by
  have perm := sorts.perm comparator (docs.map shown)
  rw [← congrFun₂ (List.eq_map_comp_perm shown)] at perm
  obtain ⟨ordered, same, perm⟩ := perm
  exact ⟨ordered, perm, same⟩

theorem alwaysAnswers_of_decides (understood : Understood runtime regexp state filter opts.tenantId)
    (decides : FirstKeyDecides runtime state filter opts keys) :
    AlwaysAnswers runtime regexp state filter opts keys := by
  intro sort sorts pagination
  have docs := matching_of_understood understood
  match keys with
  | none | some [] =>
    refine ⟨⟨selected runtime state filter (some opts.tenantId), ?_, ?_, rfl⟩, ?_⟩
    · exact docs ▸ List.Perm.refl _
    · exact List.pairwise_of_forall fun _ _ => rfl
    · exact List.length_map _
  | some (first :: rest) =>
    obtain ⟨ordered, perm, same⟩ := exists_ordered sorts (compare runtime first)
      (selected runtime state filter (some opts.tenantId))
      fun doc => applyProjection doc opts.projection
    have page : findMany { runtime with sort } state filter
        (some { opts with sort := some (first :: rest), pagination }) =
          paginate (ordered.map fun doc => applyProjection doc opts.projection) pagination :=
      congrArg (fun items => paginate items pagination) same
    refine ⟨⟨ordered, docs ▸ perm, ?_, congrArg PaginatedResult.items page⟩, ?_⟩
    · simp only [lexBefore_sort, Option.getD_some]
      obtain ⟨first_tells, consistent | alike⟩ := decides
      · have arranged := sorts.ordered _ _ consistent
        rw [same, List.pairwise_map] at arranged
        refine arranged.imp_of_mem fun {a b} here there precedes => ?_
        refine Bool.eq_false_iff.mpr fun later => ?_
        have told := first_tells b (perm.mem_iff.mp there) a (perm.mem_iff.mp here) later
        rw [mayPrecede_compare, told] at precedes
        cases precedes
      · exact List.pairwise_of_forall_mem_list fun a here b there =>
          alike b (perm.mem_iff.mp there) a (perm.mem_iff.mp here)
    · exact (congrArg PaginatedResult.total page).trans
        ((List.length_map _).trans perm.length_eq)

theorem prop_applyProjection_id (doc : Record) (projection : Option (List String)) :
    prop (applyProjection doc projection) "id" = prop doc "id" := by
  match projection with
  | none | some [] => rfl
  | some (first :: rest) =>
    refine List.foldlRecOn (motive := fun result => prop result "id" = prop doc "id")
      (first :: rest) _ (by rw [prop_set, if_pos rfl]) ?_
    intro result same field _
    split
    · next value found =>
      rw [prop_set]
      split
      · next key => rw [← key, prop, found, Option.getD_some]
      · exact same
    · exact same

theorem requested_all {items : List Record} {limit : Nat} (enough : items.length ≤ limit) :
    requested (some { limit := limit }) items = items := by
  have page := slice_eq items 0 limit
  rw [List.drop_zero, List.take_of_length_le enough] at page
  exact page

theorem sortItems_perm (sorts : Sorts sort) (keys : Option (List SortSpec)) (items : List Record) :
    (sortItems { runtime with sort } keys items).Perm items := by
  match keys with
  | none | some [] => exact List.Perm.refl items
  | some (first :: _) => exact sorts.perm _ items

theorem AlwaysAnswers.everything (always : AlwaysAnswers runtime regexp state filter opts keys)
    (sorts : Sorts sort) :
    ∃ ordered : List Record, ordered.Perm (matching runtime regexp state filter opts.tenantId) ∧
      ordered.Pairwise (fun a b => lexBefore runtime (keys.getD []) b a = false) ∧
      sortItems { runtime with sort } keys
        ((selected runtime state filter (some opts.tenantId)).map
          fun doc => applyProjection doc opts.projection) =
        ordered.map fun doc => applyProjection doc opts.projection := by
  let docs := selected runtime state filter (some opts.tenantId)
  have permuted : (sortItems { runtime with sort } keys
      (docs.map fun doc => applyProjection doc opts.projection)).Perm
        (docs.map fun doc => applyProjection doc opts.projection) := sortItems_perm sorts keys _
  have length := permuted.length_eq
  rw [List.length_map] at length
  obtain ⟨⟨ordered, perm, told, page⟩, -⟩ := always sort sorts (some { limit := docs.length })
  refine ⟨ordered, perm, ?_, ?_⟩
  · simpa only [lexBefore_sort] using told
  · have fits : (ordered.map fun doc => applyProjection doc opts.projection).length ≤
        docs.length := by
      rw [List.length_map, perm.length_eq]
      exact (congrArg List.length matching_eq).trans_le (List.length_filter_le _ _)
    rw [requested_all fits] at page
    exact (requested_all length.le).symm.trans page

theorem AlwaysAnswers.understood (always : AlwaysAnswers runtime regexp state filter opts keys) :
    Understood runtime regexp state filter opts.tenantId := by
  obtain ⟨ordered, perm, -, shown⟩ := always.everything sorts_arranged
  have lengths := congrArg List.length shown
  rw [(sortItems_perm sorts_arranged keys _).length_eq, List.length_map, List.length_map,
    perm.length_eq, matching_eq] at lengths
  rw [understood_iff, ← List.filter_eq_self]
  exact (List.filter_sublist).eq_of_length lengths.symm

/-- No engine can put two documents that the keys tell apart the wrong way round. -/
theorem AlwaysAnswers.not_misordered {first : SortSpec} {rest : List SortSpec} {a b : Record}
    (always : AlwaysAnswers runtime regexp state filter opts (some (first :: rest)))
    (distinct : DistinctIds runtime state filter opts.tenantId)
    (here : a ∈ selected runtime state filter (some opts.tenantId))
    (there : b ∈ selected runtime state filter (some opts.tenantId))
    (told : lexBefore runtime (first :: rest) a b = true) :
    Consistent (compare runtime first) ((selected runtime state filter (some opts.tenantId)).map
        fun doc => applyProjection doc opts.projection) ∧
      before runtime first (applyProjection a opts.projection)
        (applyProjection b opts.projection) = true := by
  let shown doc := applyProjection doc opts.projection
  let docs := selected runtime state filter (some opts.tenantId)
  by_contra free
  have different : a ≠ b := by
    rintro rfl
    rw [lexBefore_irrefl] at told
    cases told
  have front : (shown b :: shown a :: ((docs.erase b).erase a).map shown).Perm
      (docs.map shown) := by
    have remaining : a ∈ docs.erase b := (List.mem_erase_of_ne different).mpr here
    exact ((List.perm_cons_erase there).trans
      ((List.perm_cons_erase remaining).cons b)).symm.map shown
  have precedes (consistent : Consistent (compare runtime first) (docs.map shown)) :
      mayPrecede (compare runtime first) (shown b) (shown a) = true := by
    rw [mayPrecede_compare, Bool.not_eq_true', Bool.eq_false_iff]
    exact fun decided => free ⟨consistent, decided⟩
  obtain ⟨sort, sorts, misplaced⟩ := Sorts.exists_before front precedes
  obtain ⟨ordered, perm, arranged, page⟩ := always.everything sorts
  change sort (compare runtime first) (docs.map shown) = ordered.map shown at page
  rw [page, List.sublist_map_iff] at misplaced
  obtain ⟨pair, within, same⟩ := misplaced
  obtain ⟨b', a', rfl⟩ : ∃ x y, pair = [x, y] := by
    have two := congrArg List.length same
    rw [List.length_map] at two
    exact List.length_eq_two.mp two.symm
  simp only [List.map_cons, List.map_nil, List.cons.injEq, and_true] at same
  have kept : ∀ {x y : Record}, x ∈ docs → y ∈ [b', a'] → shown x = shown y → x = y := by
    intro x y inside member alike
    have inside' : y ∈ docs := by
      have matched := perm.mem_iff.mp (within.subset member)
      rw [matching_of_understood always.understood] at matched
      exact matched
    have ids := congrArg (fun doc => prop doc "id") alike
    simp only [shown, prop_applyProjection_id] at ids
    exact distinct x inside y inside' ids
  obtain rfl := kept there List.mem_cons_self same.1
  obtain rfl := kept here (List.mem_cons_of_mem _ List.mem_cons_self) same.2
  have order := List.pairwise_iff_forall_sublist.mp arranged within
  rw [Option.getD_some, told] at order
  cases order

theorem AlwaysAnswers.decides (always : AlwaysAnswers runtime regexp state filter opts keys)
    (distinct : DistinctIds runtime state filter opts.tenantId) :
    FirstKeyDecides runtime state filter opts keys := by
  match keys with
  | none | some [] => trivial
  | some (first :: rest) =>
    refine ⟨fun a here b there told => (always.not_misordered distinct here there told).2, ?_⟩
    refine or_iff_not_imp_right.mpr fun unlike => ?_
    push Not at unlike
    obtain ⟨a, here, b, there, told⟩ := unlike
    exact (always.not_misordered distinct here there (Bool.eq_true_of_not_eq_false told)).1

/-- `findMany` answers with every page, in every engine, if all selected documents meet the
ignored operators and the first key decides their order; and only then, if ids are distinct. -/
theorem query_meaning (runtime : Runtime) (regexp : String → String → Bool)
    (state : AdapterState) (filter : FilterSpec) (opts : ReadOptions)
    (keys : Option (List SortSpec)) : (Understood runtime regexp state filter opts.tenantId ∧
        FirstKeyDecides runtime state filter opts keys →
      AlwaysAnswers runtime regexp state filter opts keys) ∧
    (DistinctIds runtime state filter opts.tenantId →
      AlwaysAnswers runtime regexp state filter opts keys →
        Understood runtime regexp state filter opts.tenantId ∧
          FirstKeyDecides runtime state filter opts keys) :=
  ⟨fun holds => alwaysAnswers_of_decides holds.1 holds.2,
    fun distinct always => ⟨always.understood, always.decides distinct⟩⟩

end Answers

/-- Whoever asks for the ages other than three gets the three, too. -/
theorem excluded_age_is_answered : ¬ AlwaysAnswers Runtime.sample (fun _ _ => false) threeDocuments
    (.ofList [("age", .operator { nin := some [.int 3] })]) { tenantId := "t" } none := by
  intro always
  have stored : (.ofList [("id", .string "a"), ("_tenantId", .string "t"), ("age", .int 3)]) ∈
      selected Runtime.sample threeDocuments
        (.ofList [("age", .operator { nin := some [.int 3] })]) (some "t") := by
    decide +kernel
  have met := (always.understood _ stored "age" { nin := some [.int 3] } (by decide)).1 _ rfl
  revert met
  decide

end Caas.Datastore.MongoDBAdapter
