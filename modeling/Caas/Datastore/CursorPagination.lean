import Caas.Datastore.KeyValueAdapter
import Caas.Js.Numerals

/-!
# Following the cursors

A client that starts without a cursor and follows `nextCursor` while there is more. Both
kinds of adapter cut their pages out of one list with `paginate`, so it is enough to follow
the cursors of such a list: what is left after a page is the list without the items of that page.
-/

namespace Caas.Datastore

open Js

/-- The pages from a cursor on, unless they outnumber the fuel. -/
def followCursors (find : PaginationSpec → PaginatedResult) (limit : Int) :
    Nat → Option String → Option (List PaginatedResult)
  | 0, _ => none
  | fuel + 1, cursor =>
    let page := find { limit, cursor }
    if page.hasMore then (followCursors find limit fuel page.nextCursor).map (page :: ·)
    else some [page]

/-- How many pages a number of items takes; an empty result is one page, too. -/
def pageCount (total limit : Nat) : Nat := max 1 ((total + limit - 1) / limit)

/-- The pages come to an end, in the right number, and are together what one page that is
large enough holds. -/
def Complete (find : PaginationSpec → PaginatedResult) (limit : Int) : Prop :=
  let total := (find { limit }).total
  ∃ pages : List PaginatedResult,
    (∀ fuel, pageCount total limit.toNat ≤ fuel → followCursors find limit fuel none = some pages) ∧
      pages.length = pageCount total limit.toNat ∧
      ∀ whole : Int, total ≤ whole → pages.flatMap (·.items) = (find { limit := whole }).items

theorem followCursors_mono {find : PaginationSpec → PaginatedResult} {limit : Int}
    {fuel more : Nat} {cursor : Option String} {pages : List PaginatedResult}
    (followed : followCursors find limit fuel cursor = some pages) (enough : fuel ≤ more) :
    followCursors find limit more cursor = some pages := by
  induction fuel generalizing more cursor pages with
  | zero => cases followed
  | succ fuel ih =>
    obtain ⟨more, rfl⟩ : ∃ rest, more = rest + 1 := ⟨more - 1, by omega⟩
    simp only [followCursors] at followed ⊢
    split at followed
    · next further =>
      obtain ⟨rest, later, rfl⟩ := Option.map_eq_some_iff.mp followed
      rw [if_pos further, ih later (by omega), Option.map_some]
    · next last =>
      rw [if_neg last]
      exact followed

section Pages

variable {items : List Record} {limit start : Nat}

theorem slice_eq (items : List Record) (start limit : Nat) :
    slice items start (start + limit) = (items.drop start).take limit := by
  have first : ¬ (start : Int) < 0 := by omega
  have last : ¬ (start : Int) + limit < 0 := by omega
  have stop : ((start : Int) + limit).toNat = start + limit := by omega
  have begins : (start : Int).toNat = start := by omega
  rw [slice, sliceIndex, sliceIndex, if_neg first, if_neg last, stop, begins, List.drop_take]
  by_cases inside : start ≤ items.length
  · rw [Nat.min_eq_left inside, List.take_eq_take_iff, List.length_drop]
    omega
  · have beyond : items.length ≤ start := by omega
    rw [Nat.min_eq_right beyond, List.drop_length, List.take_nil,
      List.drop_eq_nil_of_le beyond, List.take_nil]

theorem paginate_from {cursor : Option String}
    (offset : pageOffset (some { limit, cursor }) = some (start : Int)) :
    paginate items (some { limit, cursor }) =
      { items := (items.drop start).take limit
        total := items.length
        hasMore := start + limit < items.length
        nextCursor :=
          if start + limit < items.length then some (start + limit).repr else none } := by
  have text : toString ((start : Int) + limit) = (start + limit).repr := rfl
  have inside : (start : Int) + limit < items.length ↔ start + limit < items.length := by omega
  simp only [paginate, offset, nextCursor, Option.map_some, Option.getD_some, slice_eq, inside,
    text]
  by_cases more : start + limit < items.length
  · simp [more]
  · simp [more]

theorem pageOffset_repr (limit : Int) (start : Nat) :
    pageOffset (some { limit, cursor := some start.repr }) = some (start : Int) := by
  have written : present (some start.repr) = some start.repr := by
    refine Option.filter_eq_some_iff.mpr ⟨rfl, decide_eq_true fun empty => ?_⟩
    have none := congrArg String.toList empty
    rw [Nat.toList_repr] at none
    exact Nat.toDigits_ne_nil none
  rw [pageOffset, Option.bind_some, written]
  exact parseInt_repr start

theorem pageCount_of_le {total : Nat} (positive : 0 < limit) (fits : total ≤ limit) :
    pageCount total limit = 1 := by
  have few : (total + limit - 1) / limit < 2 := by
    rw [Nat.div_lt_iff_lt_mul positive]
    omega
  exact Nat.max_eq_left (Nat.le_of_lt_succ few)

theorem pageCount_of_lt {total : Nat} (positive : 0 < limit) (more : limit < total) :
    pageCount total limit = pageCount (total - limit) limit + 1 := by
  have shift : total + limit - 1 = total - limit + limit - 1 + limit := by omega
  have some_page : 1 ≤ (total - limit + limit - 1) / limit := by
    rw [Nat.le_div_iff_mul_le positive]
    omega
  rw [pageCount, pageCount, shift, Nat.add_div_right _ positive, Nat.max_eq_right some_page]
  exact Nat.max_eq_right (Nat.le_add_left 1 _)

/-- From a start on, the pages are those of what is left of the items. -/
theorem followCursors_from {cursor : Option String} {fuel : Nat} (positive : 0 < limit)
    (offset : pageOffset (some { limit, cursor }) = some (start : Int))
    (enough : pageCount (items.length - start) limit ≤ fuel) :
    ∃ pages, followCursors (fun page => paginate items (some page)) limit fuel cursor = some pages ∧
      pages.length = pageCount (items.length - start) limit ∧
      pages.flatMap (·.items) = items.drop start := by
  induction fuel generalizing start cursor with
  | zero =>
    have some_page : 1 ≤ pageCount (items.length - start) limit := Nat.le_max_left _ _
    omega
  | succ fuel ih =>
    have left : items.length - start - limit = items.length - (start + limit) := by omega
    rw [followCursors, paginate_from offset]
    by_cases more : start + limit < items.length
    · have count : pageCount (items.length - start) limit =
          pageCount (items.length - (start + limit)) limit + 1 := by
        rw [← left, pageCount_of_lt positive (by omega)]
      obtain ⟨pages, followed, length, together⟩ :=
        ih (pageOffset_repr limit (start + limit)) (by omega)
      simp only [more, decide_true, if_true, followed, Option.map_some]
      refine ⟨_, rfl, ?_, ?_⟩
      · rw [List.length_cons, length, count]
      · rw [List.flatMap_cons, together, ← List.drop_drop, List.take_append_drop]
    · simp only [more, decide_false, Bool.false_eq_true, if_false]
      refine ⟨_, rfl, ?_, ?_⟩
      · rw [pageCount_of_le positive (by omega), List.length_singleton]
      · rw [List.flatMap_singleton, List.take_of_length_le]
        rw [List.length_drop]
        omega

theorem complete_paginate (items : List Record) {limit : Int} (positive : 1 ≤ limit) :
    Complete (fun page => paginate items (some page)) limit := by
  obtain ⟨limit, rfl⟩ := Int.eq_ofNat_of_zero_le (Int.le_trans Int.one_nonneg positive)
  have start : pageOffset (some { limit := (limit : Int) }) = some ((0 : Nat) : Int) := rfl
  have positive : 0 < limit := by omega
  obtain ⟨pages, followed, length, together⟩ :=
    @followCursors_from items limit 0 none _ positive start le_rfl
  have total : (paginate items (some { limit := (limit : Int) })).total = items.length := rfl
  refine ⟨pages, fun fuel enough => followCursors_mono followed enough, length, ?_⟩
  intro whole fits
  rw [total] at fits
  obtain ⟨whole, rfl⟩ := Int.eq_ofNat_of_zero_le (Int.le_trans (Int.natCast_nonneg _) fits)
  have start : pageOffset (some { limit := (whole : Int) }) = some ((0 : Nat) : Int) := rfl
  change _ = (paginate items (some { limit := (whole : Int) })).items
  rw [together, paginate_from start, List.drop_zero, List.take_of_length_le (by omega)]

end Pages

/-- Following the cursors of either adapter misses nothing and repeats nothing. -/
theorem cursors_are_complete (runtime : Runtime) (state : AdapterState) (filter : FilterSpec)
    (opts : FindManyOptions) {limit : Int} (positive : 1 ≤ limit) :
    Complete (fun page => MongoDBAdapter.findMany runtime state filter
        (some { opts with pagination := some page })) limit ∧
      Complete (fun page => KeyValueAdapter.findMany state filter
        (some { opts with pagination := some page })) limit :=
  ⟨complete_paginate _ positive, complete_paginate _ positive⟩

def threeDocuments : AdapterState where
  store := .ofList [
    (.string "a", .ofList [("id", .string "a"), ("_tenantId", .string "t"), ("age", .int 3)]),
    (.string "b", .ofList [("id", .string "b"), ("_tenantId", .string "t"), ("age", .int 1)]),
    (.string "c", .ofList [("id", .string "c"), ("_tenantId", .string "t"), ("age", .int 2)])]
  idempotencyKeys := .empty

/-- Two at a time, they take two pages. -/
theorem three_documents_are_complete :
    let find (page : PaginationSpec) := MongoDBAdapter.findMany Runtime.sample threeDocuments .empty
      (some { tenantId := "t", pagination := some page })
    (followCursors find 2 2 none).map List.length = some 2 ∧ Complete find 2 := by
  refine ⟨?_, (cursors_are_complete Runtime.sample threeDocuments .empty { tenantId := "t" }
    (by decide)).1⟩
  decide +kernel

end Caas.Datastore
