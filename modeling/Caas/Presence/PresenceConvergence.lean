import Caas.Machine.Contest
import Caas.Presence.PresenceConflictResolver
import Mathlib.Data.String.Basic
import Mathlib.Order.Basic

/-!
# Presence converges when one update beats all others

Applied one after the other in any order, the updates of one user should leave the same one. A
pair of updates is decided in the same way in either order, but victories can go round in a
circle: an update that comes later than a second one may lose, because it is not active, to a
third that loses to the second.
-/

namespace Caas.Presence.PresenceConflictResolver

open Js Redis ExpiringMap OrderedMap

variable {NodeId : Type} [LinearOrder NodeId]

def clockOf (update : PresenceUpdate NodeId) : NodeId → Nat := valueAt update.vectorClock

def Active (update : PresenceUpdate NodeId) : Prop := update.status ∈ activeStates

instance (update : PresenceUpdate NodeId) : Decidable (Active update) :=
  inferInstanceAs (Decidable (_ ∈ _))

/-- One update beats another: its clock is later; or neither clock is, and it alone is active, or
they are alike in that and its node has the greater id. -/
def Beats (one other : PresenceUpdate NodeId) : Prop :=
  clockOf other < clockOf one ∨
    ¬ clockOf one < clockOf other ∧
      (Active one ∧ ¬ Active other ∨
        (Active one ↔ Active other) ∧ other.nodeId < one.nodeId)

/-- Updates of one user as nodes publish them: with a date, no two of them with the same node and
clock, and with consistent clocks, so that an update whose clock counts another one has also
counted all that the other had. -/
structure Published (userId : String) (updates : List (PresenceUpdate NodeId)) : Prop where
  user : ∀ update ∈ updates, update.userId = userId
  dated : ∀ update ∈ updates, ∃ time, update.timestamp = .date time
  distinct : ∀ one ∈ updates, ∀ other ∈ updates, one.nodeId = other.nodeId →
    clockOf one = clockOf other → one = other
  consistent : ∀ one ∈ updates, ∀ other ∈ updates,
    clockOf one one.nodeId ≤ clockOf other one.nodeId → clockOf one ≤ clockOf other

/-- Time passes before each update is applied. -/
def applyAll (store : PresenceStore NodeId) (steps : List (Nat × PresenceUpdate NodeId)) :
    PresenceStore NodeId :=
  steps.foldl (fun current step =>
    (applyUpdate { current with now := current.now + step.1 } step.2).1) store

def storedUpdate (store : PresenceStore NodeId) (userId : String) : Option (PresenceUpdate NodeId) :=
  store.states.lookup store.now (stateKey userId)

/-- The steps apply these updates, in any order, in less time than a stored state lives. -/
structure Applies (updates : List (PresenceUpdate NodeId))
    (steps : List (Nat × PresenceUpdate NodeId)) : Prop where
  perm : (steps.map Prod.snd).Perm updates
  intime : (steps.map Prod.fst).sum < 1000 * stateTtl

/-- Every order of the updates leaves the same stored update. -/
def Converges (store : PresenceStore NodeId) (userId : String)
    (updates : List (PresenceUpdate NodeId)) : Prop :=
  ∀ steps steps', Applies updates steps → Applies updates steps' →
    storedUpdate (applyAll store steps) userId = storedUpdate (applyAll store steps') userId

section Clocks

variable {a b : VectorClock NodeId}

theorem foldl_compareAt (nodes : List NodeId) (found : Bool × Bool) :
    nodes.foldl (compareAt a b) found =
      (found.1 || nodes.any fun node => valueAt a node > valueAt b node,
        found.2 || nodes.any fun node => valueAt b node > valueAt a node) := by
  induction nodes generalizing found with
  | nil => simp
  | cons node rest ih =>
    rw [List.foldl_cons, ih, List.any_cons, List.any_cons]
    unfold compareAt
    split
    · next greater => simp [greater, Nat.not_lt.mpr (Nat.le_of_lt greater)]
    · next notGreater =>
      split
      · next greater => simp [greater, notGreater]
      · next notLess => simp [notGreater, notLess]

theorem mem_keys {node : NodeId} (counts : 0 < valueAt a node) : node ∈ keys a := by
  unfold valueAt at counts
  cases found : get a node with
  | none =>
    rw [found] at counts
    exact absurd counts (lt_irrefl 0)
  | some value => exact List.mem_map_of_mem (get_eq_some_iff.mp found)

theorem any_allNodes {c d : VectorClock NodeId} (either : c = a ∨ c = b) :
    (allNodes a b).any (fun node => valueAt c node > valueAt d node) = true ↔
      ∃ node, valueAt d node < valueAt c node := by
  simp only [List.any_eq_true, decide_eq_true_eq, gt_iff_lt]
  refine ⟨fun ⟨node, _, greater⟩ => ⟨node, greater⟩, fun ⟨node, greater⟩ => ⟨node, ?_, greater⟩⟩
  have counted := mem_keys (Nat.zero_lt_of_lt greater)
  by_cases first : node ∈ keys a
  · exact List.mem_append_left _ first
  · refine List.mem_append_right _ (List.mem_filter.mpr ⟨?_, decide_eq_true first⟩)
    rcases either with rfl | rfl
    · exact absurd counted first
    · exact counted

theorem compareVectorClocks_eq (a b : VectorClock NodeId) :
    (compareVectorClocks a b = .after ↔ valueAt b < valueAt a) ∧
      (compareVectorClocks a b = .before ↔ valueAt a < valueAt b) := by
  have after := @any_allNodes _ _ a b a b (.inl rfl)
  have before := @any_allNodes _ _ a b b a (.inr rfl)
  have left : valueAt a ≤ valueAt b ↔ ¬ ∃ node, valueAt b node < valueAt a node := by
    simp [Pi.le_def]
  have right : valueAt b ≤ valueAt a ↔ ¬ ∃ node, valueAt a node < valueAt b node := by
    simp [Pi.le_def]
  unfold compareVectorClocks
  rw [foldl_compareAt, Pi.lt_def, Pi.lt_def, left, right, ← after, ← before]
  generalize (allNodes a b).any (fun node => valueAt a node > valueAt b node) = aIsGreater
  generalize (allNodes a b).any (fun node => valueAt b node > valueAt a node) = bIsGreater
  cases aIsGreater <;> cases bIsGreater <;> simp

end Clocks

section Conflicts

variable {one other update : PresenceUpdate NodeId}

theorem compare_json : (compareVectorClocks other.json.vectorClock one.vectorClock = .after ↔
        clockOf one < clockOf other) ∧
      (compareVectorClocks other.json.vectorClock one.vectorClock = .before ↔
        clockOf other < clockOf one) := compareVectorClocks_eq _ _

/-- Whether an update wins against a stored one. -/
def Wins (update current : PresenceUpdate NodeId) : Prop :=
  (resolveConflict current.json update).timestamp = update.timestamp ∧
    (resolveConflict current.json update).nodeId = update.nodeId

instance : DecidableRel (@Wins NodeId _) := fun _ _ => inferInstanceAs (Decidable (_ ∧ _))

theorem not_wins_of_resolve {current : PresenceUpdate NodeId} {time time' : Int}
    (dated : update.timestamp = .date time) (dated' : current.timestamp = .date time')
    (resolved : resolveConflict current.json update = current.json) : ¬ Wins update current := by
  rintro ⟨same, _⟩
  rw [resolved, dated] at same
  have text : current.json.timestamp = current.timestamp.json := rfl
  rw [text, dated'] at same
  cases same

/-- An update wins against a stored one exactly when it beats it: no timestamp ever decides. -/
theorem wins_iff_beats {current : PresenceUpdate NodeId} {time time' : Int}
    (dated : update.timestamp = .date time) (dated' : current.timestamp = .date time')
    (ordered : update.nodeId = current.nodeId →
      clockOf update < clockOf current ∨ clockOf current < clockOf update) :
    Wins update current ↔ Beats update current := by
  obtain ⟨after, before⟩ := @compare_json _ _ update current
  have wins (resolved : resolveConflict current.json update = update) : Wins update current :=
    ⟨congrArg _ resolved, congrArg _ resolved⟩
  have loses := @not_wins_of_resolve _ _ update current _ _ dated dated'
  have noDate : current.json.timestamp.greater update.timestamp = false ∧
      update.timestamp.greater current.json.timestamp = false := by
    have text : current.json.timestamp = current.timestamp.json := rfl
    rw [text, dated, dated']
    exact ⟨rfl, rfl⟩
  unfold resolveConflict at wins loses
  cases order : compareVectorClocks current.json.vectorClock update.vectorClock with
  | after =>
    have later := after.mp order
    rw [order] at loses
    refine iff_of_false (loses rfl) ?_
    rintro (earlier | ⟨notLater, _⟩)
    · exact lt_asymm earlier later
    · exact notLater later
  | before =>
    rw [order] at wins
    exact iff_of_true (wins rfl) (.inl (before.mp order))
  | concurrent =>
    have notLater : ¬ clockOf update < clockOf current := fun later => by
      rw [after.mpr later] at order
      cases order
    have notEarlier : ¬ clockOf current < clockOf update := fun earlier => by
      rw [before.mpr earlier] at order
      cases order
    have different : update.nodeId ≠ current.nodeId := fun same =>
      (ordered same).elim notLater notEarlier
    rw [order] at wins loses
    simp only [noDate.1, noDate.2, Bool.false_eq_true, if_false] at wins loses
    by_cases alike : update.status ∈ activeStates ↔ current.json.status ∈ activeStates
    · by_cases node : current.json.nodeId > update.nodeId
      · refine iff_of_false (loses (by simp [alike, node])) ?_
        rintro (earlier | ⟨_, ⟨active, idle⟩ | ⟨_, smaller⟩⟩)
        · exact notEarlier earlier
        · exact idle (alike.mp active)
        · exact lt_asymm node smaller
      · have greater : current.nodeId < update.nodeId :=
          lt_of_le_of_ne (not_lt.mp node) (Ne.symm different)
        exact iff_of_true (wins (by simp [alike, node]))
          (.inr ⟨notLater, .inr ⟨alike, greater⟩⟩)
    · by_cases mine : update.status ∈ activeStates
      · have theirs : current.json.status ∉ activeStates :=
          fun here => alike (iff_of_true mine here)
        exact iff_of_true (wins (by simp [mine, theirs]))
          (.inr ⟨notLater, .inl ⟨mine, theirs⟩⟩)
      · have theirs : current.json.status ∈ activeStates := by
          by_contra missing
          exact alike (iff_of_false mine missing)
        refine iff_of_false (loses (by simp [mine, theirs])) ?_
        rintro (earlier | ⟨_, ⟨active, _⟩ | ⟨same, _⟩⟩)
        · exact notEarlier earlier
        · exact mine active
        · exact mine (same.mpr theirs)

theorem beats_iff_not_beats (ordered : one.nodeId = other.nodeId →
      clockOf one < clockOf other ∨ clockOf other < clockOf one) :
    Beats one other ↔ ¬ Beats other one := by
  by_cases later : clockOf other < clockOf one
  · refine iff_of_true (.inl later) ?_
    rintro (earlier | ⟨notEarlier, _⟩)
    · exact lt_asymm later earlier
    · exact notEarlier later
  by_cases earlier : clockOf one < clockOf other
  · refine iff_of_false ?_ (not_not.mpr (.inl earlier))
    rintro (here | ⟨notHere, _⟩)
    · exact later here
    · exact notHere earlier
  have different : one.nodeId ≠ other.nodeId := fun same => (ordered same).elim earlier later
  have nodes : other.nodeId < one.nodeId ↔ ¬ one.nodeId < other.nodeId :=
    ⟨lt_asymm, fun notLess => lt_of_le_of_ne (not_lt.mp notLess) (Ne.symm different)⟩
  unfold Beats
  simp only [later, earlier, false_or, not_false_eq_true, true_and, nodes]
  by_cases mine : Active one <;> by_cases theirs : Active other <;> simp [mine, theirs]

end Conflicts

section Runs

variable {userId : String} {updates : List (PresenceUpdate NodeId)}

variable {one other : PresenceUpdate NodeId} {store : PresenceStore NodeId}
  {champion : Option (PresenceUpdate NodeId)}

theorem Published.ordered (published : Published userId updates) (mine : one ∈ updates)
    (theirs : other ∈ updates) (different : one ≠ other) (same : one.nodeId = other.nodeId) :
    clockOf one < clockOf other ∨ clockOf other < clockOf one := by
  have apart : clockOf one ≠ clockOf other :=
    fun clocks => different (published.distinct one mine other theirs same clocks)
  rcases le_total (clockOf one one.nodeId) (clockOf other one.nodeId) with seen | seen
  · exact .inl (lt_of_le_of_ne (published.consistent one mine other theirs seen) apart)
  · rw [same] at seen
    exact .inr (lt_of_le_of_ne (published.consistent other theirs one mine seen) apart.symm)

theorem Published.wins_iff_beats (published : Published userId updates) (mine : one ∈ updates)
    (theirs : other ∈ updates) (different : one ≠ other) : Wins one other ↔ Beats one other := by
  obtain ⟨time, dated⟩ := published.dated one mine
  obtain ⟨time', dated'⟩ := published.dated other theirs
  exact PresenceConflictResolver.wins_iff_beats dated dated'
    (published.ordered mine theirs different)

/-- The store has the champion of what was applied, for long enough. -/
def Tracks (userId : String) (limit : Nat) (store : PresenceStore NodeId) :
    Option (PresenceUpdate NodeId) → Prop
  | none => storedUpdate store userId = none
  | some champion => ∃ expiresAt, limit ≤ expiresAt ∧
    get store.states (stateKey userId) = some ⟨champion.json, some expiresAt⟩

omit [LinearOrder NodeId] in
theorem Tracks.stored {limit : Nat} (tracks : Tracks userId limit store champion)
    (live : store.now < limit) : storedUpdate store userId = champion.map PresenceUpdate.json := by
  cases champion with
  | none => exact tracks
  | some champion =>
    obtain ⟨expiresAt, later, stored⟩ := tracks
    have unexpired : store.now < expiresAt := lt_of_lt_of_le live later
    simp [storedUpdate, lookup, liveEntry, stored,
      Option.filter, Entry.live, unexpired]

theorem Tracks.step {start elapsed : Nat} {update : PresenceUpdate NodeId}
    (tracks : Tracks userId (start + 1000 * stateTtl) store champion) (later : start ≤ store.now)
    (live : store.now + elapsed < start + 1000 * stateTtl) (user : update.userId = userId) :
    Tracks userId (start + 1000 * stateTtl)
      (applyUpdate { store with now := store.now + elapsed } update).1
      (Contest.meet Wins champion update) := by
  subst user
  have waited : Tracks update.userId (start + 1000 * stateTtl)
      { store with now := store.now + elapsed } champion := by
    cases champion with
    | none =>
      refine Option.eq_none_iff_forall_ne_some.mpr fun found here => ?_
      have before : storedUpdate store update.userId = some found :=
        lookup_of_later (Nat.le_add_right _ _) here
      rw [tracks] at before
      cases before
    | some champion => exact tracks
  have saved : Tracks update.userId (start + 1000 * stateTtl)
      (saveUpdate { store with now := store.now + elapsed } update) (some update) :=
    ⟨_, Nat.add_le_add_right (le_trans later (Nat.le_add_right _ _)) _,
      get_set_self _ _ _⟩
  have stored := waited.stored live
  unfold storedUpdate at stored
  unfold applyUpdate
  rw [stored]
  cases champion with
  | none => exact saved
  | some champion =>
    change Tracks _ _ (if Wins update champion then _ else _ : PresenceStore NodeId × Bool).1
      (if Wins update champion then _ else _)
    by_cases wins : Wins update champion
    · rw [if_pos wins, if_pos wins]
      exact saved
    · rw [if_neg wins, if_neg wins]
      exact waited

theorem Tracks.run {start : Nat} {steps : List (Nat × PresenceUpdate NodeId)}
    (tracks : Tracks userId (start + 1000 * stateTtl) store champion) (later : start ≤ store.now)
    (live : store.now + (steps.map Prod.fst).sum < start + 1000 * stateTtl)
    (users : ∀ step ∈ steps, step.2.userId = userId) : storedUpdate (applyAll store steps) userId =
      ((steps.map Prod.snd).foldl (Contest.meet Wins) champion).map PresenceUpdate.json := by
  induction steps generalizing store champion with
  | nil => exact tracks.stored live
  | cons step rest ih =>
    rw [List.map_cons, List.sum_cons] at live
    have now : (applyUpdate { store with now := store.now + step.1 } step.2).1.now =
        store.now + step.1 := by
      unfold applyUpdate
      split
      · rfl
      · dsimp only
        split <;> rfl
    refine ih (tracks.step later (by omega) (users step List.mem_cons_self)) ?_ ?_ ?_
    · rw [now]
      exact le_trans later (Nat.le_add_right _ _)
    · rw [now, Nat.add_assoc]
      exact live
    · exact fun other member => users other (List.mem_cons_of_mem _ member)

theorem storedUpdate_applyAll (published : Published userId updates)
    (fresh : storedUpdate store userId = none) {steps : List (Nat × PresenceUpdate NodeId)}
    (applies : Applies updates steps) : storedUpdate (applyAll store steps) userId =
      (Contest.champion Wins (steps.map Prod.snd)).map PresenceUpdate.json := by
  have tracks : Tracks userId (store.now + 1000 * stateTtl) store none := fresh
  refine tracks.run (le_refl _) (Nat.add_lt_add_left applies.intime _) fun step member => ?_
  exact published.user _ (applies.perm.mem_iff.mp (List.mem_map_of_mem member))

theorem Published.eq_of_json (published : Published userId updates) (mine : one ∈ updates)
    (theirs : other ∈ updates) (same : one.json = other.json) : one = other :=
  published.distinct one mine other theirs (congrArg (·.nodeId) same)
    (congrArg clockOf same : clockOf one.json = clockOf other.json)

theorem Published.converges_iff (published : Published userId updates)
    (fresh : storedUpdate store userId = none) : Converges store userId updates ↔
      ∀ order order' : List (PresenceUpdate NodeId), order.Perm updates → order'.Perm updates →
        Contest.champion Wins order = Contest.champion Wins order' := by
  constructor
  · intro converges order order' perm perm'
    have applies (order : List (PresenceUpdate NodeId)) (perm : order.Perm updates) :
        Applies updates (order.map (Prod.mk 0)) := by
      refine ⟨by simpa [Function.comp_def] using perm, ?_⟩
      simp [Function.comp_def, stateTtl]
    have champions (order : List (PresenceUpdate NodeId)) (perm : order.Perm updates) :
        storedUpdate (applyAll store (order.map (Prod.mk 0))) userId =
          (Contest.champion Wins order).map PresenceUpdate.json := by
      rw [storedUpdate_applyAll published fresh (applies order perm)]
      simp [Function.comp_def]
    have same := converges _ _ (applies order perm) (applies order' perm')
    rw [champions order perm, champions order' perm'] at same
    cases final : Contest.champion Wins order with
    | none =>
      rw [final] at same
      exact (Option.map_eq_none_iff.mp same.symm).symm
    | some one =>
      rw [final] at same
      obtain ⟨other, final', json⟩ := Option.map_eq_some_iff.mp same.symm
      rw [final', published.eq_of_json (perm'.mem_iff.mp (Contest.champion_mem final'))
        (perm.mem_iff.mp (Contest.champion_mem final)) json]
  · intro agree steps steps' applies applies'
    rw [storedUpdate_applyAll published fresh applies, storedUpdate_applyAll published fresh applies',
      agree _ _ applies.perm applies'.perm]

end Runs

/-- Updates of one user with consistent clocks are applied one after the other to a store without
a state of theirs. Every order leaves the same stored update exactly when there are none, or when
one of them beats all others. -/
theorem presence_converges_iff (store : PresenceStore NodeId) (userId : String)
    (updates : List (PresenceUpdate NodeId)) (published : Published userId updates)
    (fresh : storedUpdate store userId = none) :
    Converges store userId updates ↔ updates = [] ∨ ∃ best ∈ updates, ∀ other ∈ updates,
      other ≠ best → Beats best other := by
  rw [published.converges_iff fresh, Contest.order_irrelevant_iff]
  · refine or_congr_right (exists_congr fun best => and_congr_right fun member => ?_)
    refine forall₂_congr fun other here => forall_congr' fun different => ?_
    exact published.wins_iff_beats member here (Ne.symm different)
  · intro one mine other theirs different
    rw [published.wins_iff_beats mine theirs different,
      published.wins_iff_beats theirs mine different.symm]
    exact beats_iff_not_beats (published.ordered mine theirs different)

section Sample

def published (nodeId : String) (count : Nat) (status : PresenceStatus) : PresenceUpdate String where
  userId := "u1"
  status := status
  timestamp := .date 1709210096789
  vectorClock := set .empty nodeId count
  nodeId := nodeId

def sampleStore : PresenceStore String := ⟨0, .empty⟩

theorem clockOf_published (nodeId node : String) (count : Nat) (status : PresenceStatus) :
    clockOf (published nodeId count status) node = if nodeId = node then count else 0 := by
  unfold clockOf valueAt published
  rw [get_set]
  split <;> rfl

/-- Nodes that count their own updates only publish updates with consistent clocks. -/
theorem published_of_counts {updates : List (PresenceUpdate String)}
    (counts : ∀ update ∈ updates, ∃ nodeId count status, 0 < count ∧
      update = published nodeId count status)
    (distinct : ∀ one ∈ updates, ∀ other ∈ updates, one.nodeId = other.nodeId →
      clockOf one one.nodeId = clockOf other one.nodeId → one = other) :
    Published "u1" updates where
  user update member := by
    obtain ⟨nodeId, count, status, _, rfl⟩ := counts update member
    rfl
  dated update member := by
    obtain ⟨nodeId, count, status, _, rfl⟩ := counts update member
    exact ⟨_, rfl⟩
  distinct one mine other theirs same clocks :=
    distinct one mine other theirs same (congrFun clocks _)
  consistent one mine other theirs seen := by
    obtain ⟨nodeId, count, status, positive, rfl⟩ := counts one mine
    obtain ⟨nodeId', count', status', _, rfl⟩ := counts other theirs
    intro node
    rw [clockOf_published, clockOf_published] at seen ⊢
    change (if nodeId = nodeId then count else 0) ≤ (if nodeId' = nodeId then count' else 0) at seen
    rw [if_pos rfl] at seen
    by_cases same : nodeId' = nodeId
    · subst same
      rw [if_pos rfl] at seen
      split
      · exact seen
      · exact le_refl _
    · rw [if_neg same] at seen
      omega

def twoUpdates : List (PresenceUpdate String) :=
  [published "n1" 1 .online, published "n2" 1 .offline]

theorem two_updates_converge : Converges sampleStore "u1" twoUpdates := by
  refine (presence_converges_iff sampleStore "u1" twoUpdates (published_of_counts ?_ ?_) rfl).mpr
    (.inr ⟨published "n1" 1 .online, List.mem_cons_self, ?_⟩)
  · simp only [twoUpdates, List.mem_cons, List.not_mem_nil, or_false]
    rintro _ (rfl | rfl)
    · exact ⟨_, _, _, Nat.zero_lt_one, rfl⟩
    · exact ⟨_, _, _, Nat.zero_lt_one, rfl⟩
  · simp only [twoUpdates, List.mem_cons, List.not_mem_nil, or_false]
    rintro _ (rfl | rfl) _ (rfl | rfl) same _
    · rfl
    · exact absurd same (by decide)
    · exact absurd same (by decide)
    · rfl
  · simp only [twoUpdates, List.mem_cons, List.not_mem_nil, or_false]
    rintro _ (rfl | rfl) different
    · exact absurd rfl different
    · refine .inr ⟨fun earlier => ?_, .inl ⟨by decide, by decide⟩⟩
      have counted := earlier.le "n1"
      rw [clockOf_published, clockOf_published] at counted
      exact absurd counted (by decide)

def threeUpdates : List (PresenceUpdate String) :=
  [published "n2" 1 .online, published "n2" 2 .offline, published "n1" 1 .online]

theorem three_updates_diverge : ¬ ∀ updates : List (PresenceUpdate String), Published "u1" updates →
      Converges sampleStore "u1" updates := by
  intro converges
  have consistent : Published "u1" threeUpdates := by
    refine published_of_counts ?_ ?_
    · simp only [threeUpdates, List.mem_cons, List.not_mem_nil, or_false]
      rintro _ (rfl | rfl | rfl)
      · exact ⟨_, _, _, Nat.zero_lt_one, rfl⟩
      · exact ⟨_, _, _, Nat.zero_lt_two, rfl⟩
      · exact ⟨_, _, _, Nat.zero_lt_one, rfl⟩
    · simp only [threeUpdates, List.mem_cons, List.not_mem_nil, or_false]
      rintro _ (rfl | rfl | rfl) _ (rfl | rfl | rfl) same clocks
      all_goals first | rfl | exact absurd same (by decide) | exact absurd clocks (by decide)
  have same := converges threeUpdates consistent
    [(0, published "n2" 1 .online), (0, published "n2" 2 .offline), (0, published "n1" 1 .online)]
    [(0, published "n1" 1 .online), (0, published "n2" 1 .online), (0, published "n2" 2 .offline)]
    ⟨.refl _, by decide⟩ ⟨@List.perm_append_comm _ [_] [_, _], by decide⟩
  have nodes := congrArg (Option.map (·.nodeId)) same
  revert nodes
  decide +kernel

end Sample

end Caas.Presence.PresenceConflictResolver
