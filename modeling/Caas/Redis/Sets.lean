import Mathlib.Data.List.Nodup
import Mathlib.Logic.Function.Basic

/-!
# Redis sets

Keys that hold sets, without expiry: what the commands on sets do to their members. A key that
does not exist is a set without members.
-/

namespace Redis

universe u v

/-- The members of the set under each key, each of them once. -/
structure Sets (κ : Type u) (α : Type v) where
  members : κ → List α
  nodup : ∀ key, (members key).Nodup

namespace Sets

variable {κ : Type u} {α : Type v} [DecidableEq κ] [DecidableEq α]

def empty : Sets κ α := ⟨fun _ => [], fun _ => List.nodup_nil⟩

def replace (sets : Sets κ α) (key : κ) (members : List α) (nodup : members.Nodup) : Sets κ α where
  members := Function.update sets.members key members
  nodup other := by
    rw [Function.update_apply]
    split
    · exact nodup
    · exact sets.nodup other

/-- `SADD`. -/
def sadd (sets : Sets κ α) (key : κ) (added : List α) : Sets κ α :=
  sets.replace key (added ∪ sets.members key) ((sets.nodup key).union added)

/-- `SREM`. -/
def srem (sets : Sets κ α) (key : κ) (removed : List α) : Sets κ α :=
  sets.replace key ((sets.members key).filter fun member => member ∉ removed)
    ((sets.nodup key).filter _)

/-- `DEL`. -/
def del (sets : Sets κ α) (key : κ) : Sets κ α := sets.replace key [] List.nodup_nil

variable {sets : Sets κ α} {key other : κ} {changed : List α} {member : α}

omit [DecidableEq α] in
theorem members_replace_of_ne {members : List α} {nodup : members.Nodup} (different : other ≠ key) :
    (sets.replace key members nodup).members other = sets.members other :=
  Function.update_of_ne different _ _

omit [DecidableEq α] in
theorem members_replace_self {members : List α} {nodup : members.Nodup} :
    (sets.replace key members nodup).members key = members := Function.update_self _ _ _

theorem members_sadd_self :
    (sets.sadd key changed).members key = changed ∪ sets.members key := members_replace_self

theorem mem_sadd : member ∈ (sets.sadd key changed).members other ↔
    (other = key ∧ member ∈ changed) ∨ member ∈ sets.members other := by
  by_cases same : other = key
  · subst same
    rw [members_sadd_self, List.mem_union_iff]
    simp
  · rw [sadd, members_replace_of_ne same]
    simp [same]

theorem mem_srem : member ∈ (sets.srem key changed).members other ↔
    member ∈ sets.members other ∧ ¬ (other = key ∧ member ∈ changed) := by
  by_cases same : other = key
  · subst same
    simp [srem, replace]
  · rw [srem, members_replace_of_ne same]
    simp [same]

omit [DecidableEq α] in
theorem mem_del : member ∈ (sets.del key).members other ↔
    other ≠ key ∧ member ∈ sets.members other := by
  by_cases same : other = key
  · subst same
    simp [del, replace]
  · rw [del, members_replace_of_ne same]
    simp [same]

/-- Adding to a set adds at most as many members as are named. -/
theorem length_sadd_self :
    ((sets.sadd key changed).members key).length ≤ changed.length + (sets.members key).length := by
  rw [members_sadd_self]
  induction changed with
  | nil => simp
  | cons added rest ih =>
    rw [List.cons_union, List.length_insert, List.length_cons]
    split <;> omega

end Sets

end Redis
