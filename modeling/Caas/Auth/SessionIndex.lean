import Caas.Auth.SessionStore
import Mathlib.Data.List.Induction

/-!
# Sessions outside their user's index

A session is stored again with a fresh expiry by every operation that changes it, while
the index of its user lives for the time to live of a session after the latest creation.
A session that lives longer than that is in no index, and logging its user out everywhere
passes it by.
-/

namespace Caas.Auth.SessionStore

open Js Redis ExpiringMap

def createNote (userId : String) (input : Input) : Option Nat :=
  match input.call with
  | .create _ data => if data.userId = userId then some input.now else none
  | _ => none

def lastCreate (past : List Input) (userId : String) : Option Nat :=
  Transducer.latest (createNote userId) past

section Reading

variable {keys : SessionKeys} {now now' : Nat} {sessionId : String} {session data : Session}

theorem validated (valid : SessionSerializer.validateAndNormalize data = .ok session) :
    SessionSerializer.missesRequiredFields data = false ∧ session.id = data.id ∧
      session.userId = data.userId := by
  unfold SessionSerializer.validateAndNormalize at valid
  split at valid
  · cases valid
  · next complete =>
    cases valid
    exact ⟨by simpa using complete, rfl, rfl⟩

theorem validate_of_complete (complete : SessionSerializer.missesRequiredFields data = false) :
    ∃ session, SessionSerializer.validateAndNormalize data = .ok session :=
  ⟨_, if_neg (by simp [complete])⟩

theorem get_eq_some_iff : get keys now sessionId = .ok (some session) ↔
      ∃ data, keys.sessions.lookup now sessionId = some data ∧
        SessionSerializer.validateAndNormalize data = .ok session := by
  unfold get SessionSerializer.deserialize
  cases found : keys.sessions.lookup now sessionId with
  | none => simp
  | some data =>
    cases valid : SessionSerializer.validateAndNormalize data with
    | error | ok => simp [Except.mapError, Except.map, valid]

/-- What is stored under an id cannot be read back. -/
def unreadable (keys : SessionKeys) (now : Nat) (sessionId : String) : Bool :=
  (keys.sessions.lookup now sessionId).any SessionSerializer.missesRequiredFields

theorem get_of_unreadable (broken : unreadable keys now sessionId = true) :
    ∃ error, get keys now sessionId = .error error := by
  obtain ⟨data, found, misses⟩ := (Option.any_eq_true _ _).mp broken
  exact ⟨_, by simp only [get, found, SessionSerializer.deserialize,
    SessionSerializer.validateAndNormalize, if_pos misses, Except.mapError, Except.map]; rfl⟩

theorem get_of_readable (readable : unreadable keys now sessionId = false) :
    ∃ found, get keys now sessionId = .ok found := by
  unfold unreadable at readable
  cases found : keys.sessions.lookup now sessionId with
  | none => exact ⟨none, by rw [get, found]⟩
  | some data =>
    rw [found, Option.any_some] at readable
    obtain ⟨session, valid⟩ := validate_of_complete readable
    exact ⟨some session, get_eq_some_iff.mpr ⟨data, found, valid⟩⟩

theorem unreadable_iff :
    unreadable keys now sessionId = true ↔ ∃ error, get keys now sessionId = .error error := by
  constructor
  · exact get_of_unreadable
  · rintro ⟨error, thrown⟩
    by_contra readable
    obtain ⟨found, returned⟩ := get_of_readable (Bool.eq_false_iff.mpr readable)
    cases thrown.symm.trans returned

theorem get_of_later (later : now ≤ now')
    (returned : get keys now' sessionId = .ok (some session)) :
    get keys now sessionId = .ok (some session) := by
  obtain ⟨data, found, valid⟩ := get_eq_some_iff.mp returned
  exact get_eq_some_iff.mpr ⟨data, lookup_of_later later found, valid⟩

end Reading

/-- What the keys owe to the calls so far: a session is stored under its own id, and an
index expires when the session last created for its user was to. -/
structure Tracked (config : SessionConfig) (past : List Input) (keys : SessionKeys) : Prop where
  ids : ∀ sessionId entry, OrderedMap.get keys.sessions sessionId = some entry →
    entry.value.id = sessionId
  stored : ∀ sessionId entry, OrderedMap.get keys.sessions sessionId = some entry →
    0 < config.ttlSeconds
  index : ∀ userId entry, OrderedMap.get keys.userSessions userId = some entry →
    ∃ time, lastCreate past userId = some time ∧
      entry.expiresAt = some (time + 1000 * config.ttlSeconds.toNat)

section Steps

variable {config : SessionConfig} {past : List Input} {keys : SessionKeys} {now : Nat}
  {sessionId userId : String}

theorem get_storeSession {session : Session} {entry : Entry Session}
    (found : OrderedMap.get (storeSession keys now session).sessions sessionId = some entry) :
    entry.value = session ∧ session.id = sessionId ∧ 0 < timeToLive now session ∨
      OrderedMap.get keys.sessions sessionId = some entry := by
  unfold storeSession at found
  simp only at found
  split at found
  · rw [StringCommand.get_setex] at found
    split at found
    · next written =>
      cases found
      exact .inl ⟨rfl, written⟩
    · exact .inr found
  · exact .inr found

@[simp] theorem userSessions_storeSession (session : Session) :
    (storeSession keys now session).userSessions = keys.userSessions := by
  unfold storeSession
  simp only
  split <;> rfl

theorem get_addToUserIndex {entry : Entry (List String)} {owner : String}
    (found : OrderedMap.get (addToUserIndex keys now config owner sessionId).userSessions userId =
      some entry) : owner = userId ∧ 0 < config.ttlSeconds ∧
        entry.expiresAt = some (now + 1000 * config.ttlSeconds.toNat) ∨
      owner ≠ userId ∧ OrderedMap.get keys.userSessions userId = some entry := by
  obtain ⟨added, live⟩ := liveEntry_sadd keys.userSessions now owner sessionId
  by_cases positive : 0 < config.ttlSeconds
  · have expired := (get_expire live positive userId).symm.trans found
    split at expired
    · next same =>
      cases expired
      exact .inl ⟨same, positive, rfl⟩
    · next other =>
      exact .inr ⟨other, (get_sadd_of_ne other).symm.trans expired⟩
  · have expired := (get_expire_nonpos live (Int.not_lt.mp positive) userId).symm.trans
      found
    split at expired
    · cases expired
    · next other =>
      exact .inr ⟨other, (get_sadd_of_ne other).symm.trans expired⟩

theorem mem_addToUserIndex (positive : 0 < config.ttlSeconds) {owner other : String} :
    other ∈ getUserSessionIds (addToUserIndex keys now config owner sessionId) now userId ↔
      (owner = userId ∧ other = sessionId) ∨ other ∈ getUserSessionIds keys now userId := by
  have expired := members_expire
    (SetCommand.exec keys.userSessions now (.sadd owner sessionId)).1 now owner userId positive
  show other ∈ members
    (expire (SetCommand.exec keys.userSessions now (.sadd owner sessionId)).1 now owner
      config.ttlSeconds) now userId ↔ _
  rw [expired]
  exact mem_members_sadd

inductive Change (config : SessionConfig) (keys : SessionKeys) (input : Input) :
    SessionKeys → Prop where
  | none (quiet : ∀ userId, createNote userId input = none) : Change config keys input keys
  | created (session : Session) (expiry : session.expiresAt = input.now + config.ttlSeconds * 1000)
      (note : ∀ userId, createNote userId input =
        if session.userId = userId then some input.now else Option.none) :
      Change config keys input
        (addToUserIndex (storeSession keys input.now session) input.now config session.userId
          session.id)
  | restored (sessionId : String) (session changed : Session)
      (returned : get keys input.now sessionId = .ok (some session))
      (id : changed.id = session.id) (user : changed.userId = session.userId)
      (quiet : ∀ userId, createNote userId input = Option.none) :
      Change config keys input (storeSession keys input.now changed)
  | deleted (sessionId : String) (session : Session)
      (returned : get keys input.now sessionId = .ok (some session))
      (quiet : ∀ userId, createNote userId input = Option.none) :
      Change config keys input
        ⟨OrderedMap.delete keys.sessions sessionId,
          keys.userSessions.srem input.now session.userId sessionId⟩

theorem restore_changes {input : Input} {change : Session → Session}
    {missing : Except String (Option Session)} {answer : Session → Option Session}
    (id : ∀ session, (change session).id = session.id)
    (user : ∀ session, (change session).userId = session.userId)
    (quiet : ∀ userId, createNote userId input = none) : Change config keys input
      (restore keys input.now sessionId change missing answer).1 := by
  unfold restore
  cases returned : get keys input.now sessionId with
  | error error => exact .none quiet
  | ok found =>
    cases found with
    | none => exact .none quiet
    | some session => exact .restored sessionId session _ returned (id session) (user session) quiet

theorem step_changes (config : SessionConfig) (keys : SessionKeys) (input : Input) :
    Change config keys input ((machine config).step keys input).1 := by
  obtain ⟨now, call⟩ := input
  cases call with
  | create sessionId data => exact .created _ rfl fun _ => rfl
  | update sessionId updates | updateLastActivity sessionId | renew sessionId extensionMs
  | deactivate sessionId =>
    exact restore_changes (fun _ => rfl) (fun _ => rfl) fun _ => rfl
  | delete sessionId =>
    show Change config keys ⟨now, .delete sessionId⟩ (delete keys now sessionId).1
    unfold delete
    cases returned : get keys now sessionId with
    | error error => exact .none fun _ => rfl
    | ok found =>
      cases found with
      | none => exact .none fun _ => rfl
      | some session => exact .deleted sessionId session returned fun _ => rfl

theorem lastCreate_append (input : Input) : lastCreate (past ++ [input]) userId =
      (createNote userId input).or (lastCreate past userId) :=
  Transducer.latest_concat _ _ _

theorem Tracked.id_eq (tracked : Tracked config past keys) {session : Session}
    (returned : get keys now sessionId = .ok (some session)) :
    session.id = sessionId ∧ 0 < config.ttlSeconds := by
  obtain ⟨data, found, valid⟩ := get_eq_some_iff.mp returned
  obtain ⟨entry, stored, rfl⟩ := Option.map_eq_some_iff.mp found
  have stored := get_of_liveEntry stored
  exact ⟨(validated valid).2.1.trans (tracked.ids sessionId entry stored),
    tracked.stored sessionId entry stored⟩

theorem Tracked.change (tracked : Tracked config past keys) {input : Input} {after : SessionKeys}
    (change : Change config keys input after) : Tracked config (past ++ [input]) after := by
  cases change with
  | none quiet =>
    refine ⟨tracked.ids, tracked.stored, fun userId entry found => ?_⟩
    rw [lastCreate_append, quiet]
    exact tracked.index userId entry found
  | created session expiry note =>
    have lifetime : timeToLive input.now session = config.ttlSeconds := by
      unfold timeToLive
      omega
    refine ⟨fun sessionId entry found => ?_, fun sessionId entry found => ?_,
      fun userId entry found => ?_⟩
    · obtain ⟨value, same, -⟩ | kept := get_storeSession found
      · rw [value, same]
      · exact tracked.ids sessionId entry kept
    · obtain ⟨-, -, positive⟩ | kept := get_storeSession found
      · exact lifetime ▸ positive
      · exact tracked.stored sessionId entry kept
    · rw [lastCreate_append, note]
      obtain ⟨same, -, expiresAt⟩ | ⟨different, kept⟩ := get_addToUserIndex found
      · exact ⟨input.now, by rw [if_pos same]; rfl, expiresAt⟩
      · rw [userSessions_storeSession] at kept
        rw [if_neg different]
        exact tracked.index userId entry kept
  | restored sessionId session changed returned id user quiet =>
    obtain ⟨own, positive⟩ := tracked.id_eq returned
    refine ⟨fun other entry found => ?_, fun other entry found => positive,
      fun userId entry found => ?_⟩
    · obtain ⟨value, same, -⟩ | kept := get_storeSession found
      · rw [value, same]
      · exact tracked.ids other entry kept
    · rw [lastCreate_append, quiet]
      rw [userSessions_storeSession] at found
      exact tracked.index userId entry found
  | deleted sessionId session returned quiet =>
    have kept : ∀ other entry,
        OrderedMap.get (OrderedMap.delete keys.sessions sessionId) other = some entry →
          OrderedMap.get keys.sessions other = some entry := by
      intro other entry found
      rw [OrderedMap.get_delete] at found
      split at found
      · cases found
      · exact found
    refine ⟨fun other entry found => tracked.ids other entry (kept other entry found),
      fun other entry found => tracked.stored other entry (kept other entry found),
      fun userId entry found => ?_⟩
    obtain ⟨before, stored, expiry⟩ := expiresAt_srem found
    rw [lastCreate_append, quiet, expiry]
    exact tracked.index userId before stored

theorem tracked_run (past : List Input) :
    Tracked config past ((machine config).run .empty past) := by
  induction past using List.reverseRecOn with
  | nil =>
    refine ⟨fun sessionId entry found => ?_, fun sessionId entry found => ?_,
      fun userId entry found => ?_⟩
    all_goals cases found
  | append_singleton past input ih =>
    rw [Transducer.run_append]
    exact ih.change (step_changes config _ input)

end Steps

section Index

variable {config : SessionConfig} {past : List Input} {keys : SessionKeys} {now : Nat}

/-- Every session that is returned is in the index of its user. -/
def Indexed (keys : SessionKeys) (now : Nat) : Prop :=
  ∀ sessionId session, get keys now sessionId = .ok (some session) →
    sessionId ∈ getUserSessionIds keys now session.userId

theorem get_storeSession_returned {session changed : Session} {sessionId : String}
    (returned : get (storeSession keys now changed) now sessionId = .ok (some session)) :
    changed.id = sessionId ∧ session.userId = changed.userId ∨
      get keys now sessionId = .ok (some session) := by
  obtain ⟨data, found, valid⟩ := get_eq_some_iff.mp returned
  obtain ⟨entry, live, rfl⟩ := Option.map_eq_some_iff.mp found
  obtain ⟨value, same, -⟩ | kept := get_storeSession (get_of_liveEntry live)
  · exact .inl ⟨same, value ▸ (validated valid).2.2⟩
  · refine .inr (get_eq_some_iff.mpr ⟨entry.value, ?_, valid⟩)
    have lives := (Option.filter_eq_some_iff.mp live).2
    exact Option.map_eq_some_iff.mpr ⟨entry, Option.filter_eq_some_iff.mpr ⟨kept, lives⟩, rfl⟩

/-- No call loses a session from the index as long as it has not expired. -/
theorem Indexed.change {input : Input} {after : SessionKeys} (indexed : Indexed keys input.now)
    (tracked : Tracked config past keys) (change : Change config keys input after) :
    Indexed after input.now := by
  have after_tracked := tracked.change change
  cases change with
  | none quiet => exact indexed
  | created created expiry note =>
    intro sessionId session returned
    have positive := (after_tracked.id_eq returned).2
    obtain ⟨same, owner⟩ | kept := get_storeSession_returned returned
    · exact (mem_addToUserIndex positive).mpr (.inl ⟨owner.symm, same.symm⟩)
    · refine (mem_addToUserIndex positive).mpr (.inr ?_)
      unfold getUserSessionIds
      rw [userSessions_storeSession]
      exact indexed sessionId session kept
  | restored sessionId session changed returned id user quiet =>
    intro other found returned'
    unfold getUserSessionIds
    rw [userSessions_storeSession]
    obtain ⟨same, owner⟩ | kept := get_storeSession_returned returned'
    · rw [owner, user, ← same, id, (tracked.id_eq returned).1]
      exact indexed sessionId session returned
    · exact indexed other found kept
  | deleted sessionId session returned quiet =>
    intro other found returned'
    have kept : sessionId ≠ other ∧ get keys input.now other = .ok (some found) := by
      obtain ⟨data, stored, valid⟩ := get_eq_some_iff.mp returned'
      rw [lookup_delete] at stored
      split at stored
      · cases stored
      · next different => exact ⟨different, get_eq_some_iff.mpr ⟨data, stored, valid⟩⟩
    apply mem_members_srem.mpr
    exact ⟨indexed other found kept.2, fun both => kept.1 both.2.symm⟩

/-- A stored session with all required fields that has not expired. -/
def Alive (keys : SessionKeys) (now : Nat) (sessionId : String) (session : Session) : Prop :=
  keys.sessions.lookup now sessionId = some session ∧
    SessionSerializer.missesRequiredFields session = false

theorem Alive.returned {sessionId : String} {session : Session}
    (alive : Alive keys now sessionId session) :
    ∃ found, get keys now sessionId = .ok (some found) ∧ found.userId = session.userId := by
  obtain ⟨found, valid⟩ := validate_of_complete alive.2
  exact ⟨found, get_eq_some_iff.mpr ⟨session, alive.1, valid⟩, (validated valid).2.2⟩

theorem alive_of_returned {sessionId : String} {found : Session}
    (returned : get keys now sessionId = .ok (some found)) :
    ∃ session, Alive keys now sessionId session ∧ found.userId = session.userId := by
  obtain ⟨session, stored, valid⟩ := get_eq_some_iff.mp returned
  exact ⟨session, ⟨stored, (validated valid).1⟩, (validated valid).2.2⟩

/-- The user of every living session has had a session created within the last
`ttlSeconds`. -/
def RecentlyCreated (config : SessionConfig) (past : List Input) (keys : SessionKeys)
    (now : Nat) : Prop :=
  ∀ sessionId session, Alive keys now sessionId session →
    ∃ time, lastCreate past session.userId = some time ∧
      (now : Int) < time + 1000 * config.ttlSeconds

theorem Indexed.recentlyCreated (indexed : Indexed keys now) (tracked : Tracked config past keys) :
    RecentlyCreated config past keys now := by
  intro sessionId session alive
  obtain ⟨found, returned, owner⟩ := alive.returned
  obtain ⟨entry, live, -⟩ := liveEntry_of_mem (indexed sessionId found returned)
  obtain ⟨time, latest, expiry⟩ := tracked.index _ entry (get_of_liveEntry live)
  have positive := (tracked.id_eq returned).2
  have ahead := (Option.filter_eq_some_iff.mp live).2
  rw [owner] at latest
  refine ⟨time, latest, ?_⟩
  simp only [Entry.live, expiry, Option.all_some, decide_eq_true_eq] at ahead
  omega

theorem Indexed.later {now' : Nat} (indexed : Indexed keys now) (tracked : Tracked config past keys)
    (later : now ≤ now') (recent : RecentlyCreated config past keys now') : Indexed keys now' := by
  intro sessionId found returned
  have present := indexed sessionId found (get_of_later later returned)
  obtain ⟨entry, live, member⟩ := liveEntry_of_mem present
  have stored := get_of_liveEntry live
  obtain ⟨time, latest, expiry⟩ := tracked.index _ entry stored
  obtain ⟨session, alive, owner⟩ := alive_of_returned returned
  obtain ⟨time', latest', ahead⟩ := recent sessionId session alive
  rw [owner, latest'] at latest
  cases latest
  have lives : keys.userSessions.liveEntry now' found.userId = some entry :=
    liveEntry_of_get stored expiry (by omega)
  exact (mem_members_of_liveEntry lives).mpr member

end Index

section LoggingOut

variable {config : SessionConfig} {past : List Input} {keys : SessionKeys} {now : Nat}

theorem get_delete (sessionId other : String) : get (delete keys now sessionId).1 now other =
      if sessionId = other ∧ unreadable keys now sessionId = false then .ok none
      else get keys now other := by
  cases broken : unreadable keys now sessionId with
  | true =>
    obtain ⟨error, thrown⟩ := get_of_unreadable broken
    have kept : (delete keys now sessionId).1 = keys := by simp [delete, thrown]
    rw [kept, if_neg (by simp)]
  | false =>
    obtain ⟨found, returned⟩ := get_of_readable broken
    cases found with
    | none =>
      have kept : (delete keys now sessionId).1 = keys := by simp [delete, returned]
      rw [kept]
      by_cases same : sessionId = other
      · rw [if_pos ⟨same, rfl⟩, ← same, returned]
      · rw [if_neg fun both => same both.1]
    | some session =>
      have removed : (delete keys now sessionId).1.sessions =
          OrderedMap.delete keys.sessions sessionId := by simp only [delete, returned]; rfl
      unfold get
      rw [removed, lookup_delete]
      by_cases same : sessionId = other
      · rw [if_pos same, if_pos ⟨same, rfl⟩]
      · rw [if_neg same, if_neg fun both => same both.1]

theorem unreadable_delete (sessionId : String) :
    unreadable (delete keys now sessionId).1 now = unreadable keys now := by
  ext other
  rw [Bool.eq_iff_iff, unreadable_iff, unreadable_iff, get_delete]
  split
  · next both =>
    obtain ⟨rfl, readable⟩ := both
    obtain ⟨found, returned⟩ := get_of_readable readable
    simp [returned]
  · exact Iff.rfl

/-- The deletions come as far as the first session that cannot be read. -/
theorem get_deleteAll (sessionIds : List String) (deletedCount : Nat) (other : String) :
    get (deleteAll keys now deletedCount sessionIds).1 now other =
      if other ∈ sessionIds.takeWhile (!unreadable keys now ·) then .ok none
      else get keys now other := by
  induction sessionIds generalizing keys deletedCount with
  | nil => simp [deleteAll]
  | cons sessionId rest ih =>
    have left : get (delete keys now sessionId).1 now other = _ := get_delete sessionId other
    cases broken : unreadable keys now sessionId with
    | true =>
      obtain ⟨error, thrown⟩ := get_of_unreadable broken
      have ends : deleteAll keys now deletedCount (sessionId :: rest) =
          (keys, .error error) := by
        simp [deleteAll, delete, thrown]
      rw [ends, List.takeWhile_cons_of_neg (by simp [broken]), if_neg List.not_mem_nil]
    | false =>
      obtain ⟨found, returned⟩ := get_of_readable broken
      have continues : deleteAll keys now deletedCount (sessionId :: rest) =
          deleteAll (delete keys now sessionId).1 now (deletedCount + 1) rest := by
        cases found <;> simp [deleteAll, delete, returned]
      rw [continues, ih, unreadable_delete, left, List.takeWhile_cons_of_pos (by simp [broken])]
      simp only [List.mem_cons, broken, and_true]
      by_cases member : other ∈ rest.takeWhile (!unreadable keys now ·)
      · simp [member]
      · simp [member, eq_comm]

/-- Logging a user out everywhere leaves no session of theirs that is returned. -/
def LogsOut (keys : SessionKeys) (now : Nat) : Prop :=
  ∀ userId sessionId session,
    get (deleteUserSessions keys now userId).1 now sessionId = .ok (some session) →
      session.userId ≠ userId

/-- No session that misses a required field stands in an index before a living session of
the user. -/
def Unobstructed (keys : SessionKeys) (now : Nat) : Prop :=
  ∀ sessionId session, Alive keys now sessionId session →
    sessionId ∈ getUserSessionIds keys now session.userId →
      sessionId ∈ (getUserSessionIds keys now session.userId).takeWhile
        (!unreadable keys now ·)

theorem logsOut_iff (indexed : Indexed keys now) : LogsOut keys now ↔ Unobstructed keys now := by
  constructor
  · intro logsOut sessionId session alive member
    obtain ⟨found, returned, owner⟩ := alive.returned
    by_contra passed
    refine logsOut session.userId sessionId found ?_ owner
    rw [deleteUserSessions, get_deleteAll, if_neg passed, returned]
  · intro unobstructed userId sessionId found left owner
    subst owner
    rw [deleteUserSessions, get_deleteAll] at left
    split at left
    · cases left
    · next passed =>
      obtain ⟨session, alive, owner⟩ := alive_of_returned left
      have member := indexed sessionId found left
      rw [owner] at passed member
      exact passed (unobstructed sessionId session alive member)

/-- A moment of a history of calls, when `seen` of them have run. -/
def Moment (history seen : List Input) (now : Nat) : Prop :=
  ∃ rest, history = seen ++ rest ∧ (∀ input ∈ seen, input.now ≤ now) ∧
    ∀ input ∈ rest, now ≤ input.now

theorem indexed_of_recent {history : List Input} (clock : history.Pairwise (·.now ≤ ·.now))
    (recent : ∀ seen now, Moment history seen now →
      RecentlyCreated config seen ((machine config).run .empty seen) now)
    {seen : List Input} (moment : Moment history seen now) :
    Indexed ((machine config).run .empty seen) now := by
  induction seen using List.reverseRecOn generalizing now with
  | nil =>
    intro sessionId session returned
    cases returned
  | append_singleton seen input ih =>
    obtain ⟨rest, same, called, later⟩ := id moment
    -- The call runs at a moment of its own.
    have before : Moment history seen input.now := by
      subst same
      obtain ⟨earlier, -, last⟩ := List.pairwise_append.mp clock
      refine ⟨input :: rest, by simp, fun other member => ?_, fun other member => ?_⟩
      · exact (List.pairwise_append.mp earlier).2.2 other member input (by simp)
      · obtain rfl | member := List.mem_cons.mp member
        · exact le_rfl
        · exact last input (by simp) other member
    have tracked : Tracked config seen _ := tracked_run seen
    have stepped := (ih before).change tracked (step_changes config _ input)
    have recentNow := recent _ now moment
    rw [Transducer.run_append] at recentNow ⊢
    exact stepped.later (tracked.change (step_changes config _ input))
      (called input (by simp)) recentNow

/-- Over a history of calls every session that is returned is in the index of its user, and
logging the user out leaves none, at every moment exactly if at every moment the user of a
living session has had one created within the time to live, and no broken session stands
before a living one in an index. -/
theorem no_orphans_iff (config : SessionConfig) (history : List Input)
    (clock : history.Pairwise (·.now ≤ ·.now)) : (∀ seen now, Moment history seen now →
        Indexed ((machine config).run .empty seen) now ∧
          LogsOut ((machine config).run .empty seen) now) ↔ ∀ seen now, Moment history seen now →
        RecentlyCreated config seen ((machine config).run .empty seen) now ∧
          Unobstructed ((machine config).run .empty seen) now := by
  constructor
  · intro sound seen now moment
    obtain ⟨indexed, logsOut⟩ := sound seen now moment
    exact ⟨indexed.recentlyCreated (tracked_run seen), (logsOut_iff indexed).mp logsOut⟩
  · intro condition seen now moment
    have indexed := indexed_of_recent clock
      (fun seen now moment => (condition seen now moment).1) moment
    exact ⟨indexed, (logsOut_iff indexed).mpr (condition seen now moment).2⟩

/-- A session of the user `u`, on a laptop. -/
def sampleData : SessionData :=
  { userId := "u", tenantId := "t", deviceId := "d", ipAddress := "10.0.0.1"
    deviceInfo := { type := .web, os := "linux", userAgent := "browser" } }

/-- A session for a day, renewed for two days an hour later. -/
def renewedForTwoDays : List Input :=
  [⟨1700000000000, .create "s" sampleData⟩, ⟨1700003600000, .renew "s" 172800000⟩]

theorem no_orphans_iff_renewed : (∀ seen now, Moment renewedForTwoDays seen now →
        Indexed ((machine ⟨86400⟩).run .empty seen) now ∧
          LogsOut ((machine ⟨86400⟩).run .empty seen) now) ↔
      ∀ seen now, Moment renewedForTwoDays seen now →
        RecentlyCreated ⟨86400⟩ seen ((machine ⟨86400⟩).run .empty seen) now ∧
          Unobstructed ((machine ⟨86400⟩).run .empty seen) now :=
  no_orphans_iff ⟨86400⟩ renewedForTwoDays (by decide +kernel)

/-- The renewed session is in no index on the next day, and survives the logout. -/
theorem renewed_session_is_orphan : ¬∀ seen now, Moment renewedForTwoDays seen now →
        Indexed ((machine ⟨86400⟩).run .empty seen) now ∧
          LogsOut ((machine ⟨86400⟩).run .empty seen) now := by
  intro sound
  have moment : Moment renewedForTwoDays renewedForTwoDays 1700090000000 :=
    ⟨[], (List.append_nil _).symm, by decide +kernel, by simp⟩
  obtain ⟨indexed, -⟩ := sound _ _ moment
  have returned : get ((machine ⟨86400⟩).run .empty renewedForTwoDays) 1700090000000 "s" =
      .ok (some
        { id := "s", userId := "u", tenantId := "t", deviceId := "d"
          deviceInfo := sampleData.deviceInfo, ipAddress := "10.0.0.1", location := none
          createdAt := 1700000000000, lastActivity := 1700000000000
          expiresAt := 1700176400000, isActive := true, mfaVerified := false }) := by
    decide +kernel
  have member := indexed "s" _ returned
  revert member
  decide +kernel

end LoggingOut

end Caas.Auth.SessionStore
