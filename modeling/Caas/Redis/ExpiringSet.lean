import Caas.Redis.ExpiringMap

/-!
# Redis sets with expiry

What the commands on sets do to the members that exist at a time and to the expiry of
the keys. A set without members is a key that does not exist.
-/

namespace Redis

open Js OrderedMap

universe u v

namespace ExpiringMap

section Entries

variable {κ : Type u} {ν : Type v} [DecidableEq κ] {map : ExpiringMap κ ν} {now now' : Nat}
  {key other : κ} {value : ν} {entry : Entry ν}

theorem get_of_liveEntry (live : map.liveEntry now key = some entry) : get map key = some entry :=
  (Option.filter_eq_some_iff.mp live).1

/-- A key exists as long as its expiry lies ahead. -/
theorem liveEntry_of_get {time : Nat} (stored : get map key = some entry)
    (expiry : entry.expiresAt = some time) (ahead : now < time) :
    map.liveEntry now key = some entry := by
  apply Option.filter_eq_some_iff.mpr
  refine ⟨stored, ?_⟩
  simp [Entry.live, expiry, ahead]

theorem get_expire {seconds : Int} (live : map.liveEntry now key = some entry)
    (positive : 0 < seconds) (other : κ) : get (map.expire now key seconds) other =
      if key = other then some ⟨entry.value, some (now + 1000 * seconds.toNat)⟩
      else get map other := by
  simp [expire, live, if_neg (Int.not_le.mpr positive), get_set]

theorem get_expire_nonpos {seconds : Int} (live : map.liveEntry now key = some entry)
    (nonpositive : seconds ≤ 0) (other : κ) : get (map.expire now key seconds) other =
      if key = other then none else get map other := by
  simp [expire, live, if_pos nonpositive]

theorem lookup_expire {seconds : Int} (positive : 0 < seconds) :
    (map.expire now key seconds).lookup now other = map.lookup now other := by
  cases found : map.liveEntry now key with
  | none => simp [expire, found]
  | some entry =>
    simp only [expire, found, if_neg (Int.not_le.mpr positive)]
    by_cases same : key = other
    · subst same
      have lives :
          (⟨entry.value, some (now + 1000 * seconds.toNat)⟩ : Entry ν).live now = true := by
        simp only [Entry.live, Option.all_some, decide_eq_true_eq]
        omega
      rw [lookup_set_self, if_pos lives, lookup, found, Option.map_some]
    · rw [lookup_set_of_ne same]

end Entries

section Members

variable {κ α : Type} [DecidableEq κ] [DecidableEq α]

/-- The members of a set at `now`. -/
def members (map : ExpiringMap κ (List α)) (now : Nat) (key : κ) : List α :=
  (map.lookup now key).getD []

/-- `SREM`. -/
def srem (map : ExpiringMap κ (List α)) (now : Nat) (key : κ) (member : α) :
    ExpiringMap κ (List α) :=
  let left := (map.members now key).filter (· ≠ member)
  if left = [] then delete map key else map.replace now key left

variable {map : ExpiringMap κ (List α)} {now now' : Nat} {key other : κ} {member found : α}

omit [DecidableEq α] in
/-- A set with members is a key that exists. -/
theorem liveEntry_of_mem (present : member ∈ map.members now key) :
    ∃ entry, map.liveEntry now key = some entry ∧ member ∈ entry.value := by
  unfold members lookup at present
  cases live : map.liveEntry now key with
  | none => simp [live] at present
  | some entry => exact ⟨entry, rfl, by simpa [live] using present⟩

omit [DecidableEq α] in
theorem mem_members_of_liveEntry {entry : Entry (List α)}
    (live : map.liveEntry now key = some entry) :
    member ∈ map.members now key ↔ member ∈ entry.value := by
  rw [members, lookup, live, Option.map_some, Option.getD_some]

theorem exec_sadd : (SetCommand.exec map now (.sadd key member)).1 =
      if member ∈ map.members now key then map
      else map.replace now key (map.members now key ++ [member]) := by
  by_cases present : member ∈ map.members now key
  · have kept : SetCommand.exec map now (.sadd key member) = (map, (0 : Nat)) := if_pos present
    rw [kept, if_pos present]
  · have added : SetCommand.exec map now (.sadd key member) =
        (map.replace now key (map.members now key ++ [member]), (1 : Nat)) := if_neg present
    rw [added, if_neg present]

theorem mem_members_sadd :
    found ∈ members (SetCommand.exec map now (.sadd key member)).1 now other ↔
      (key = other ∧ found = member) ∨ found ∈ map.members now other := by
  rw [exec_sadd]
  by_cases present : member ∈ map.members now key
  · rw [if_pos present]
    constructor
    · exact .inr
    · rintro (⟨rfl, rfl⟩ | kept)
      · exact present
      · exact kept
  · rw [if_neg present]
    unfold members
    rw [lookup_replace]
    by_cases same : key = other
    · subst same
      simp [or_comm]
    · simp [same]

theorem get_sadd_of_ne (different : key ≠ other) :
    get (SetCommand.exec map now (.sadd key member)).1 other =
      get map other := by
  rw [exec_sadd]
  split
  · rfl
  · rw [replace, get_set_of_ne map _ different]

/-- `SADD` leaves a key that exists. -/
theorem liveEntry_sadd (map : ExpiringMap κ (List α)) (now : Nat) (key : κ) (member : α) :
    ∃ entry, liveEntry (SetCommand.exec map now (.sadd key member)).1 now key = some entry := by
  have present : member ∈ members (SetCommand.exec map now (.sadd key member)).1 now key :=
    mem_members_sadd.mpr (.inl ⟨rfl, rfl⟩)
  obtain ⟨entry, live, -⟩ := liveEntry_of_mem present
  exact ⟨entry, live⟩

omit [DecidableEq α] in
theorem members_expire (map : ExpiringMap κ (List α)) (now : Nat) (key other : κ) {seconds : Int}
    (positive : 0 < seconds) :
    (map.expire now key seconds).members now other = map.members now other := by
  rw [members, lookup_expire positive, members]

theorem members_srem : (map.srem now key member).members now other =
      if key = other then (map.members now key).filter (· ≠ member) else map.members now other := by
  by_cases empty : (map.members now key).filter (· ≠ member) = []
  · have deleted : map.srem now key member = delete map key := if_pos empty
    rw [deleted, members, lookup_delete]
    split
    · exact empty.symm
    · rfl
  · have replaced : map.srem now key member =
        map.replace now key ((map.members now key).filter (· ≠ member)) := if_neg empty
    rw [replaced, members, lookup_replace]
    split <;> rfl

theorem mem_members_srem : found ∈ (map.srem now key member).members now other ↔
      found ∈ map.members now other ∧ ¬(key = other ∧ found = member) := by
  rw [members_srem]
  by_cases same : key = other
  · subst same
    simp
  · simp [same]

/-- `SREM` does not touch expiries. -/
theorem expiresAt_srem {entry : Entry (List α)}
    (stored : get (map.srem now key member) other = some entry) :
    ∃ before, get map other = some before ∧ entry.expiresAt = before.expiresAt := by
  unfold srem at stored
  simp only at stored
  split at stored
  · rw [get_delete] at stored
    split at stored
    · cases stored
    · exact ⟨entry, stored, rfl⟩
  · next left =>
    rw [replace, get_set] at stored
    split at stored
    · next same =>
      subst same
      obtain ⟨kept, mem⟩ := List.exists_mem_of_ne_nil _ left
      obtain ⟨before, live, -⟩ := liveEntry_of_mem (List.mem_filter.mp mem).1
      cases stored
      exact ⟨before, get_of_liveEntry live, by simp [live]⟩
    · exact ⟨entry, stored, rfl⟩

end Members

end ExpiringMap

end Redis
