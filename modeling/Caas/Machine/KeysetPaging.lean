import Mathlib.Data.List.Sort

/-!
# Paging by the key of the last item

A reader asks for items below a bound, the largest keys first and so many at a time, and takes
the key of the last item of a page for the next bound, until a page is empty. The items are
those with a smaller key, so that items which tie with the last one of a page are passed over:
`readsAll_iff` says that all items are read if and only if no page ends between two that
tie. Whatever is read is in order and read once, and the reading ends.

How the source orders items that tie is left to it, at each call anew.
-/

universe u v w

namespace KeysetPaging

variable {α : Type u} {κ : Type v} {ε : Type w} [LinearOrder κ] (key : α → κ)

def below (items : List α) : Option κ → List α
  | none => items
  | some bound => items.filter (key · < bound)

/-- The largest keys first. -/
def Descending (items : List α) : Prop := items.Pairwise fun a b => key b ≤ key a

/-- Every page holds the first items below the bound, in some order of those that tie. -/
def Serves (fetch : Nat → Option κ → Except ε (List α)) (items : List α) (limit : Nat) : Prop :=
  ∀ call bound, ∃ ordered : List α, ordered.Perm (below key items bound) ∧
    Descending key ordered ∧ fetch call bound = .ok (ordered.take limit)

/-- The pages from a bound on, unless they outnumber the fuel; `call` counts the calls. -/
def readPages (fetch : Nat → Option κ → Except ε (List α)) :
    Nat → Nat → Option κ → Option (Except ε (List (List α)))
  | 0, _, _ => none
  | fuel + 1, call, bound =>
    match fetch call bound with
    | .error error => some (.error error)
    | .ok page =>
      match page.getLast? with
      | none => some (.ok [])
      | some last =>
        (readPages fetch fuel (call + 1) (some (key last))).map (·.map (page :: ·))

def descendingKeys (items : List α) : List κ := (items.map key).mergeSort fun a b => b ≤ a

/-- The last key of a page and the next one are different, wherever a page ends. -/
def PageEndsDiffer (limit : Nat) (keys : List κ) : Prop :=
  ∀ page key, keys[page * limit + (limit - 1)]? = some key → keys[(page + 1) * limit]? ≠ some key

/-- The reading ends, and yields every item once, in order. -/
def ReadsAll (fetch : Nat → Option κ → Except ε (List α)) (items : List α) : Prop :=
  ∃ fuel pages, readPages key fetch fuel 0 none = some (.ok pages) ∧
    pages.flatten.Perm items ∧ Descending key pages.flatten

section Keys

variable {key}

theorem descendingKeys_perm_map (items : List α) :
    (descendingKeys key items).Perm (items.map key) :=
  List.mergeSort_perm _ _

theorem descending_mergeSort (items : List α) :
    Descending key (items.mergeSort fun a b => key b ≤ key a) := by
  have trans (a b c : α) (first : decide (key b ≤ key a) = true)
      (second : decide (key c ≤ key b) = true) : decide (key c ≤ key a) = true :=
    decide_eq_true ((of_decide_eq_true second).trans (of_decide_eq_true first))
  have total (a b : α) : (decide (key b ≤ key a) || decide (key a ≤ key b)) = true := by
    simpa only [Bool.or_eq_true, decide_eq_true_iff] using le_total (key b) (key a)
  exact (List.pairwise_mergeSort trans total items).imp of_decide_eq_true

/-- Items in order have their keys in order, however those that tie stand. -/
theorem descendingKeys_eq {items ordered : List α} (perm : ordered.Perm items)
    (descending : Descending key ordered) : descendingKeys key items = ordered.map key := by
  have keys : (ordered.map key).Pairwise fun a b => b ≤ a := List.pairwise_map.mpr descending
  refine List.Perm.eq_of_pairwise (fun a b _ _ first second => le_antisymm second first)
    (descending_mergeSort (items.map key)) keys ?_
  exact (descendingKeys_perm_map items).trans (perm.map key).symm

omit [LinearOrder κ] in
theorem pageEndsDiffer_drop (limit : Nat) (keys : List κ) : PageEndsDiffer limit keys ↔
      (∀ key, keys[limit - 1]? = some key → keys[limit]? ≠ some key) ∧
        PageEndsDiffer limit (keys.drop limit) := by
  have shift (page offset : Nat) :
      (keys.drop limit)[page * limit + offset]? = keys[(page + 1) * limit + offset]? := by
    rw [List.getElem?_drop, Nat.succ_mul, Nat.add_comm limit, Nat.add_right_comm]
  constructor
  · refine fun differ => ⟨fun key => ?_, fun page key => ?_⟩
    · simpa only [Nat.zero_mul, Nat.zero_add, Nat.one_mul] using differ 0 key
    · rw [shift page, ← Nat.add_zero ((page + 1) * limit), shift (page + 1)]
      exact differ (page + 1) key
  · rintro ⟨first, later⟩ page key
    cases page with
    | zero => simpa only [Nat.zero_mul, Nat.zero_add, Nat.one_mul] using first key
    | succ page =>
      have further := later page key
      rw [shift page, ← Nat.add_zero ((page + 1) * limit), shift (page + 1)] at further
      exact further

omit [LinearOrder κ] in
/-- Pages can end anywhere when no keys tie. -/
theorem pageEndsDiffer_of_nodup {limit : Nat} (positive : 0 < limit) {keys : List κ}
    (nodup : keys.Nodup) : PageEndsDiffer limit keys := by
  intro page key last next
  obtain ⟨bound, _⟩ := List.getElem?_eq_some_iff.mp last
  have same := (List.getElem?_inj bound nodup).mp (last.trans next.symm)
  rw [Nat.succ_mul] at same
  omega

end Keys

section Pages

variable {key} {items ordered : List α} {limit : Nat} {bound : Option κ} {last : α}

/-- The last item has the smallest key. -/
theorem Descending.last_le (descending : Descending key ordered)
    (ends : ordered.getLast? = some last) : ∀ item ∈ ordered, key last ≤ key item := by
  obtain ⟨front, rfl⟩ := List.getLast?_eq_some_iff.mp ends
  intro item member
  obtain member | same := List.mem_append.mp member
  · exact (List.pairwise_append.mp descending).2.2 item member last (List.mem_singleton.mpr rfl)
  · rw [List.mem_singleton.mp same]

/-- The bound of the next page is the tighter one. -/
theorem below_last (member : last ∈ below key items bound) :
    below key items (some (key last)) = (below key items bound).filter (key · < key last) := by
  cases bound with
  | none => rfl
  | some bound =>
    have smaller : key last < bound := of_decide_eq_true (List.mem_filter.mp member).2
    rw [below, below, List.filter_filter]
    refine List.filter_congr fun item _ => ?_
    rw [Bool.eq_iff_iff, Bool.and_eq_true, decide_eq_true_iff, decide_eq_true_iff]
    exact ⟨fun less => ⟨less, less.trans smaller⟩, And.left⟩

/-- What is left below the last item of a page comes after the page. -/
theorem below_perm_drop (perm : ordered.Perm (below key items bound))
    (descending : Descending key ordered) (ends : (ordered.take limit).getLast? = some last) :
    (below key items (some (key last))).Perm
      ((ordered.drop limit).filter (key · < key last)) := by
  have onPage := Descending.last_le (List.Pairwise.sublist (List.take_sublist limit _) descending)
    ends
  have none : (ordered.take limit).filter (key · < key last) = [] := by
    refine List.filter_eq_nil_iff.mpr fun item member => ?_
    rw [decide_eq_true_iff, not_lt]
    exact onPage item member
  have member : last ∈ ordered := List.mem_of_mem_take (List.mem_of_getLast? ends)
  rw [below_last (perm.mem_iff.mp member)]
  refine (perm.symm.filter _).trans ?_
  rw [← List.take_append_drop limit ordered, List.filter_append, List.take_append_drop, none,
    List.nil_append]

/-- The item after a page does not tie with the last one if none of those that follow does. -/
theorem first_end_differs_iff (positive : 0 < limit) (descending : Descending key ordered)
    (ends : (ordered.take limit).getLast? = some last) :
    (∀ tie, (ordered.map key)[limit - 1]? = some tie → (ordered.map key)[limit]? ≠ some tie) ↔
      ∀ item ∈ ordered.drop limit, key item < key last := by
  cases rest : ordered.drop limit with
  | nil =>
    have short : ordered[limit]? = none :=
      List.getElem?_eq_none (List.drop_eq_nil_iff.mp rest)
    simp [List.getElem?_map, short]
  | cons next more =>
    have long : limit < ordered.length := by
      rw [← Nat.not_le, ← List.drop_eq_nil_iff, rest]
      exact List.cons_ne_nil next more
    have nextAt : ordered[limit]? = some next := by
      rw [← Nat.add_zero limit, ← List.getElem?_drop, rest]
      rfl
    have lastAt : ordered[limit - 1]? = some last := by
      rw [List.getLast?_eq_getElem?, List.length_take_of_le (Nat.le_of_lt long),
        List.getElem?_take_of_lt (Nat.sub_lt positive Nat.one_pos)] at ends
      exact ends
    rw [Descending, ← List.take_append_drop limit ordered, rest] at descending
    obtain ⟨_, after, across⟩ := List.pairwise_append.mp descending
    have nextLe : key next ≤ key last :=
      across last (List.mem_of_getLast? ends) next List.mem_cons_self
    simp only [List.getElem?_map, lastAt, nextAt, Option.map_some, Option.some.injEq, forall_eq',
      ne_eq]
    constructor
    · intro differ item member
      have first := lt_of_le_of_ne nextLe differ
      obtain rfl | member := List.mem_cons.mp member
      · exact first
      · exact lt_of_le_of_lt ((List.pairwise_cons.mp after).1 item member) first
    · exact fun less => ne_of_lt (less next List.mem_cons_self)

end Pages

section Reading

variable {key} {fetch : Nat → Option κ → Except ε (List α)} {items : List α} {limit : Nat}
  {fuel call : Nat} {bound : Option κ}

variable {pages : List (List α)}

omit [LinearOrder κ] in
/-- The pages are none, or the first one and those below its last item. -/
theorem readPages_ok {page : List α}
    (read : readPages key fetch (fuel + 1) call bound = some (.ok pages))
    (fetched : fetch call bound = .ok page) :
    (page = [] ∧ pages = []) ∨ ∃ last rest, page.getLast? = some last ∧
      readPages key fetch fuel (call + 1) (some (key last)) = some (.ok rest) ∧
      pages = page :: rest := by
  rw [readPages, fetched] at read
  cases ends : page.getLast? with
  | none =>
    simp only [ends, Option.some.injEq, Except.ok.injEq] at read
    exact .inl ⟨List.getLast?_eq_none_iff.mp ends, read.symm⟩
  | some last =>
    simp only [ends] at read
    obtain ⟨result, later, mapped⟩ := Option.map_eq_some_iff.mp read
    cases result with
    | error error => cases mapped
    | ok rest => exact .inr ⟨last, rest, rfl, later, (Except.ok.inj mapped).symm⟩

theorem mem_of_readPages (serves : Serves key fetch items limit)
    (read : readPages key fetch fuel call bound = some (.ok pages)) :
    ∀ item ∈ pages.flatten, item ∈ below key items bound := by
  -- a page is below its bound, and the bound only gets tighter
  induction fuel generalizing call bound pages with
  | zero => cases read
  | succ fuel ih =>
    obtain ⟨ordered, perm, descending, fetched⟩ := serves call bound
    intro item member
    obtain ⟨_, rfl⟩ | ⟨last, rest, ends, later, rfl⟩ := readPages_ok read fetched
    · cases member
    · obtain member | member := List.mem_append.mp member
      · exact perm.mem_iff.mp (List.mem_of_mem_take member)
      · have further := ih later item member
        rw [below_last (perm.mem_iff.mp (List.mem_of_mem_take (List.mem_of_getLast? ends)))]
          at further
        exact (List.mem_filter.mp further).1

theorem readPages_descending (serves : Serves key fetch items limit)
    (read : readPages key fetch fuel call bound = some (.ok pages)) :
    Descending key pages.flatten := by
  induction fuel generalizing call bound pages with
  | zero => cases read
  | succ fuel ih =>
    obtain ⟨ordered, perm, descending, fetched⟩ := serves call bound
    obtain ⟨_, rfl⟩ | ⟨last, rest, ends, later, rfl⟩ := readPages_ok read fetched
    · exact List.Pairwise.nil
    · have page : Descending key (ordered.take limit) :=
        List.Pairwise.sublist (List.take_sublist limit ordered) descending
      refine List.pairwise_append.mpr ⟨page, ih later, fun item onPage further member => ?_⟩
      have less := (List.mem_filter.mp (mem_of_readPages serves later further member)).2
      exact (le_of_lt (of_decide_eq_true less)).trans (page.last_le ends item onPage)

/-- Everything below the bound is read if and only if no page ends between items that tie. -/
theorem readPages_perm_iff (positive : 0 < limit) (serves : Serves key fetch items limit)
    (read : readPages key fetch fuel call bound = some (.ok pages)) :
    pages.flatten.Perm (below key items bound) ↔
      PageEndsDiffer limit (descendingKeys key (below key items bound)) := by
  induction fuel generalizing call bound pages with
  | zero => cases read
  | succ fuel ih =>
    obtain ⟨ordered, perm, descending, fetched⟩ := serves call bound
    rw [descendingKeys_eq perm descending]
    obtain ⟨empty, rfl⟩ | ⟨last, rest, ends, later, rfl⟩ := readPages_ok read fetched
    · obtain rfl : ordered = [] := by
        rcases List.take_eq_nil_iff.mp empty with zero | nothing
        · omega
        · exact nothing
      exact iff_of_true perm fun _ _ found => by cases found
    · have split : (below key items bound).Perm (ordered.take limit ++ ordered.drop limit) := by
        rw [List.take_append_drop]
        exact perm.symm
      rw [List.flatten_cons, pageEndsDiffer_drop, first_end_differs_iff positive descending ends,
        ← List.map_drop, split.congr_right, List.perm_append_left_iff]
      have left := below_perm_drop perm descending ends
      have apart : (∀ item ∈ ordered.drop limit, key item < key last) →
          (rest.flatten.Perm (ordered.drop limit) ↔
            PageEndsDiffer limit ((ordered.drop limit).map key)) := by
        intro less
        rw [List.filter_eq_self.mpr fun item member => decide_eq_true (less item member)] at left
        rw [← descendingKeys_eq left.symm
          (List.Pairwise.sublist (List.drop_sublist limit ordered) descending), ← ih later]
        exact left.congr_right rest.flatten |>.symm
      constructor
      · intro all
        have less : ∀ item ∈ ordered.drop limit, key item < key last := fun item member =>
          of_decide_eq_true (List.mem_filter.mp
            (mem_of_readPages serves later item (all.mem_iff.mpr member))).2
        exact ⟨less, (apart less).mp all⟩
      · rintro ⟨less, differ⟩
        exact (apart less).mpr differ

/-- The reading ends, as each page leaves fewer items. -/
theorem exists_readPages (serves : Serves key fetch items limit)
    (enough : (below key items bound).length < fuel) :
    ∃ pages, readPages key fetch fuel call bound = some (.ok pages) := by
  induction fuel generalizing call bound with
  | zero => cases enough
  | succ fuel ih =>
    obtain ⟨ordered, perm, descending, fetched⟩ := serves call bound
    cases ends : (ordered.take limit).getLast? with
    | none => exact ⟨[], by simp [readPages, fetched, ends]⟩
    | some last =>
      have member := perm.mem_iff.mp (List.mem_of_mem_take (List.mem_of_getLast? ends))
      have fewer : (below key items (some (key last))).length < (below key items bound).length := by
        rw [below_last member, List.length_filter_lt_length_iff_exists]
        exact ⟨last, member, by simp⟩
      obtain ⟨rest, later⟩ : ∃ rest, readPages key fetch fuel (call + 1) (some (key last)) =
          some (.ok rest) := ih (by omega)
      exact ⟨ordered.take limit :: rest, by simp only [readPages, fetched, ends, later]; rfl⟩

theorem readsAll_iff (positive : 0 < limit) (serves : Serves key fetch items limit) :
    ReadsAll key fetch items ↔ PageEndsDiffer limit (descendingKeys key items) := by
  constructor
  · rintro ⟨fuel, pages, read, all, _⟩
    exact (readPages_perm_iff positive serves read).mp all
  · intro differ
    obtain ⟨pages, read⟩ : ∃ pages, readPages key fetch (items.length + 1) 0 none =
        some (.ok pages) := exists_readPages serves (Nat.lt_succ_self _)
    exact ⟨_, pages, read, (readPages_perm_iff positive serves read).mpr differ,
      readPages_descending serves read⟩

end Reading

end KeysetPaging
