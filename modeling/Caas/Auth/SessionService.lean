import Caas.Auth.SessionIndex

/-!
# The limit of sessions

The session service creates a session after it has counted the ids in the index of the user,
and deletes the oldest of the sessions listed there if the ids are too many. The ids outlive
their sessions, as nothing but a deletion takes one out, and the index may expire before a session
does that has been renewed: `session_limit` holds for the histories in which the index tells,
whenever a session is created, what the limit needs to know.
-/

namespace Caas.Auth.SessionService

open Js Redis SessionStore ExpiringMap

section Calls

variable (keys : SessionKeys) (now : Nat)

/-- The sessions of some ids, without those that do not exist. -/
def readSessions : List String → Except String (List Session)
  | [] => .ok []
  | sessionId :: rest =>
    match get keys now sessionId with
    | .error error => .error error
    | .ok found => (readSessions rest).map (found.toList ++ ·)

def getUserSessions (userId : String) : Except String (List Session) :=
  readSessions keys now (getUserSessionIds keys now userId)

/-- Of sessions that are as old the last is taken. -/
def oldest (first : Session) (rest : List Session) : Session :=
  rest.foldl (fun prev current =>
    if prev.createdAt < current.createdAt then prev else current) first

def removeOldestSession (userId : String) : SessionKeys × Except String (Option Session) :=
  match getUserSessions keys now userId with
  | .error error => (keys, .error error)
  | .ok [] => (keys, .ok none)
  | .ok (first :: rest) => delete keys now (oldest first rest).id

/-- What the store is given; the id of a device is drawn if there is none. -/
def sessionData (deviceId : String) (params : SessionData) : SessionData :=
  { params with
    deviceId := if params.deviceId = "" then deviceId else params.deviceId
    mfaVerified := none }

def createSession (config : SessionConfig) (maxSessionsPerUser : Nat) (sessionId deviceId : String)
    (params : SessionData) : SessionKeys × Except String (Option Session) :=
  let currentCount := (getUserSessionIds keys now params.userId).length
  if maxSessionsPerUser ≤ currentCount then
    match removeOldestSession keys now params.userId with
    | (left, .error error) => (left, .error error)
    | (left, .ok _) => create left now config sessionId (sessionData deviceId params)
  else create keys now config sessionId (sessionData deviceId params)

end Calls

/-- A call of the service, or one of the store that creates no session. -/
inductive Call where
  | createSession (sessionId deviceId : String) (params : SessionData)
  | sessionStore (call : SessionStore.Call) (kept : ∀ id data, call ≠ .create id data)

structure Input where
  now : Nat
  call : Call

/-- The service as a machine over its calls. -/
def machine (config : SessionConfig) (maxSessionsPerUser : Nat) :
    Transducer SessionKeys Input (Except String (Option Session)) where
  step keys input :=
    match input.call with
    | .createSession sessionId deviceId params =>
      createSession keys input.now config maxSessionsPerUser sessionId deviceId params
    | .sessionStore call _ => (SessionStore.machine config).step keys ⟨input.now, call⟩

def liveIds (keys : SessionKeys) (now : Nat) (userId : String) : List String :=
  (keys.sessions.entries.map Prod.fst).filter fun sessionId =>
    match get keys now sessionId with
    | .ok (some session) => session.userId = userId
    | _ => false

def Oldest (keys : SessionKeys) (now : Nat) (userId : String) (session : Session) : Prop :=
  session.userId = userId ∧ ∀ sessionId other, get keys now sessionId = .ok (some other) →
    other.userId = userId → session.createdAt ≤ other.createdAt

/-- A creation that completes leaves the user no more sessions than the limit, and what it deletes
is the oldest of as many as the limit at least. -/
def LimitKept (config : SessionConfig) (maxSessionsPerUser : Nat) (keys : SessionKeys)
    (input : Input) : Prop :=
  match input.call with
  | .createSession sessionId deviceId params =>
    let (after, result) :=
      createSession keys input.now config maxSessionsPerUser sessionId deviceId params
    (result.isOk = true → (liveIds after input.now params.userId).length ≤ maxSessionsPerUser) ∧
    ∀ deleted, keys.sessions.lookup input.now deleted ≠ none →
      after.sessions.lookup input.now deleted = none →
        maxSessionsPerUser ≤ (liveIds keys input.now params.userId).length ∧
          ∃ session, get keys input.now deleted = .ok (some session) ∧
            Oldest keys input.now params.userId session
  | .sessionStore _ _ => True

/-- What the index of the user lists is as many ids as the limit, one of a session among them,
exactly if the user has as many sessions; and the oldest session that it lists is then the oldest
of the user. -/
structure IndexTells (maxSessionsPerUser : Nat) (keys : SessionKeys) (now : Nat)
    (userId : String) : Prop where
  limit : (maxSessionsPerUser ≤ (getUserSessionIds keys now userId).length ∧
      ∃ sessionId ∈ getUserSessionIds keys now userId, ∃ session,
        get keys now sessionId = .ok (some session)) ↔
    maxSessionsPerUser ≤ (liveIds keys now userId).length
  oldest : maxSessionsPerUser ≤ (liveIds keys now userId).length →
    ∀ sessionId ∈ getUserSessionIds keys now userId, ∀ session,
      get keys now sessionId = .ok (some session) →
      (∀ other ∈ getUserSessionIds keys now userId, ∀ listed,
        get keys now other = .ok (some listed) → session.createdAt ≤ listed.createdAt) →
      Oldest keys now userId session

/-- Whenever a session is created the index of the user tells, or lists a session that misses a
required field, so that the creation throws before it has done anything. -/
def IndexGuard (maxSessionsPerUser : Nat) (keys : SessionKeys) (input : Input) : Prop :=
  match input.call with
  | .createSession _ _ params =>
    (maxSessionsPerUser ≤ (getUserSessionIds keys input.now params.userId).length ∧
      ∃ sessionId ∈ getUserSessionIds keys input.now params.userId,
        unreadable keys input.now sessionId = true) ∨
    IndexTells maxSessionsPerUser keys input.now params.userId
  | .sessionStore _ _ => True

section Counting

variable {keys : SessionKeys} {now now' : Nat} {userId : String}

theorem mem_liveIds {sessionId : String} : sessionId ∈ liveIds keys now userId ↔
    ∃ session, get keys now sessionId = .ok (some session) ∧ session.userId = userId := by
  simp only [liveIds, List.mem_filter]
  constructor
  · rintro ⟨-, own⟩
    split at own
    · next session returned => exact ⟨session, returned, of_decide_eq_true own⟩
    · cases own
  · rintro ⟨session, returned, own⟩
    simp only [returned, own, decide_true, and_true]
    obtain ⟨data, found, -⟩ := get_eq_some_iff.mp returned
    obtain ⟨entry, live, -⟩ := Option.map_eq_some_iff.mp found
    exact List.mem_map_of_mem (OrderedMap.get_eq_some_iff.mp (get_of_liveEntry live))

theorem nodup_liveIds : (liveIds keys now userId).Nodup := keys.sessions.nodup.filter _

theorem length_liveIds_le {ids : List String} (within : liveIds keys now userId ⊆ ids) :
    (liveIds keys now userId).length ≤ ids.length :=
  (List.subperm_of_subset nodup_liveIds within).length_le

theorem liveIds_later (later : now ≤ now') :
    (liveIds keys now' userId).length ≤ (liveIds keys now userId).length := by
  refine length_liveIds_le fun sessionId member => ?_
  obtain ⟨session, returned, own⟩ := mem_liveIds.mp member
  exact mem_liveIds.mpr ⟨session, get_of_later later returned, own⟩

theorem liveIds_delete {sessionId : String} (live : sessionId ∈ liveIds keys now userId) :
    (liveIds (delete keys now sessionId).1 now userId).length + 1 ≤
      (liveIds keys now userId).length := by
  obtain ⟨session, returned, -⟩ := mem_liveIds.mp live
  have readable : unreadable keys now sessionId = false := by
    refine Bool.eq_false_iff.mpr fun broken => ?_
    obtain ⟨error, thrown⟩ := get_of_unreadable broken
    cases returned.symm.trans thrown
  have within : liveIds (delete keys now sessionId).1 now userId ⊆
      (liveIds keys now userId).erase sessionId := by
    intro other member
    obtain ⟨session', returned', own⟩ := mem_liveIds.mp member
    rw [get_delete] at returned'
    split at returned'
    · cases returned'
    · next different =>
      have other_ne : other ≠ sessionId := fun same => different ⟨same.symm, readable⟩
      exact (List.mem_erase_of_ne other_ne).mpr (mem_liveIds.mpr ⟨session', returned', own⟩)
  have fewer := length_liveIds_le within
  have positive := List.length_pos_of_mem live
  rw [List.length_erase_of_mem live] at fewer
  omega

theorem liveIds_create (config : SessionConfig) (sessionId : String) (data : SessionData) :
    (liveIds (create keys now config sessionId data).1 now userId).length ≤
      (liveIds keys now userId).length + if data.userId = userId then 1 else 0 := by
  have kept : ∀ other session,
      get (create keys now config sessionId data).1 now other = .ok (some session) →
        sessionId = other ∧ session.userId = data.userId ∨
          get keys now other = .ok (some session) :=
    fun other session returned => get_storeSession_returned returned
  split
  · have within : liveIds (create keys now config sessionId data).1 now userId ⊆
        sessionId :: liveIds keys now userId := by
      intro other member
      obtain ⟨session, returned, own⟩ := mem_liveIds.mp member
      obtain ⟨rfl, -⟩ | before := kept other session returned
      · exact List.mem_cons_self
      · exact List.mem_cons_of_mem _ (mem_liveIds.mpr ⟨session, before, own⟩)
    exact length_liveIds_le within
  · next different =>
    refine length_liveIds_le fun other member => ?_
    obtain ⟨session, returned, own⟩ := mem_liveIds.mp member
    obtain ⟨-, owner⟩ | before := kept other session returned
    · exact absurd (owner.symm.trans own) different
    · exact mem_liveIds.mpr ⟨session, before, own⟩

end Counting

section Removing

variable {keys : SessionKeys} {now : Nat} {userId : String}

theorem readSessions_spec (keys : SessionKeys) (now : Nat) (sessionIds : List String) :
    (∃ error, readSessions keys now sessionIds = .error error ∧
        ∃ sessionId ∈ sessionIds, unreadable keys now sessionId = true) ∨
      ∃ sessions, readSessions keys now sessionIds = .ok sessions ∧
        (∀ sessionId ∈ sessionIds, unreadable keys now sessionId = false) ∧
        ∀ session, session ∈ sessions ↔
          ∃ sessionId ∈ sessionIds, get keys now sessionId = .ok (some session) := by
  induction sessionIds with
  | nil => exact .inr ⟨[], rfl, by simp, by simp⟩
  | cons sessionId rest ih =>
    cases broken : unreadable keys now sessionId with
    | true =>
      obtain ⟨error, thrown⟩ := get_of_unreadable broken
      exact .inl ⟨error, by rw [readSessions, thrown], sessionId, List.mem_cons_self, broken⟩
    | false =>
      obtain ⟨found, returned⟩ := get_of_readable broken
      rw [readSessions, returned]
      obtain ⟨error, thrown, other, later, obstructs⟩ | ⟨sessions, read, readable, known⟩ := ih
      · rw [thrown]
        exact .inl ⟨error, rfl, other, List.mem_cons_of_mem _ later, obstructs⟩
      · rw [read]
        refine .inr ⟨found.toList ++ sessions, rfl, List.forall_mem_cons.mpr ⟨broken, readable⟩,
          fun session => ?_⟩
        rw [List.mem_append, known, List.exists_mem_cons_iff, returned, Option.mem_toList,
          Except.ok.injEq]

theorem oldest_spec (first : Session) (rest : List Session) : oldest first rest ∈ first :: rest ∧
      ∀ session ∈ first :: rest, (oldest first rest).createdAt ≤ session.createdAt := by
  induction rest generalizing first with
  | nil =>
    refine ⟨List.mem_cons_self, fun session member => ?_⟩
    rw [List.mem_singleton.mp member]
    exact le_rfl
  | cons current rest ih =>
    have step : oldest first (current :: rest) =
        oldest (if first.createdAt < current.createdAt then first else current) rest := rfl
    rw [step]
    obtain ⟨member, least⟩ := ih (if first.createdAt < current.createdAt then first else current)
    have head := least _ List.mem_cons_self
    constructor
    · obtain same | later := List.mem_cons.mp member
      · rw [same]
        split <;> simp
      · exact List.mem_cons_of_mem _ (List.mem_cons_of_mem _ later)
    · intro session within
      obtain rfl | rfl | later : session = first ∨ session = current ∨ session ∈ rest := by
        simpa using within
      · refine head.trans ?_
        split <;> omega
      · refine head.trans ?_
        split <;> omega
      · exact least session (List.mem_cons_of_mem _ later)

inductive Removal (keys : SessionKeys) (now : Nat) (userId : String) :
    SessionKeys × Except String (Option Session) → Prop where
  | thrown (error : String)
      (broken : ∃ sessionId ∈ getUserSessionIds keys now userId,
        unreadable keys now sessionId = true) :
      Removal keys now userId (keys, .error error)
  | nothing (empty : ¬ ∃ sessionId ∈ getUserSessionIds keys now userId, ∃ session,
      get keys now sessionId = .ok (some session)) :
      Removal keys now userId (keys, .ok none)
  | removed (sessionId : String) (session : Session)
      (listed : sessionId ∈ getUserSessionIds keys now userId)
      (returned : get keys now sessionId = .ok (some session))
      (least : ∀ other ∈ getUserSessionIds keys now userId, ∀ found,
        get keys now other = .ok (some found) → session.createdAt ≤ found.createdAt) :
      Removal keys now userId ((delete keys now sessionId).1, .ok none)

theorem removeOldestSession_spec {config : SessionConfig} {past : List SessionStore.Input}
    (tracked : Tracked config past keys) (now : Nat) (userId : String) :
    Removal keys now userId (removeOldestSession keys now userId) := by
  unfold removeOldestSession getUserSessions
  obtain ⟨error, thrown, broken⟩ | ⟨sessions, read, -, known⟩ :=
    readSessions_spec keys now (getUserSessionIds keys now userId)
  · rw [thrown]
    exact .thrown error broken
  · rw [read]
    cases sessions with
    | nil =>
      refine .nothing ?_
      rintro ⟨sessionId, listed, session, returned⟩
      exact absurd ((known session).mpr ⟨sessionId, listed, returned⟩) List.not_mem_nil
    | cons first rest =>
      obtain ⟨member, least⟩ := oldest_spec first rest
      obtain ⟨sessionId, listed, returned⟩ := (known _).mp member
      have id := (tracked.id_eq returned).1
      have answer : delete keys now sessionId = ((delete keys now sessionId).1, .ok none) := by
        unfold delete
        rw [returned]
      simp only [id]
      rw [answer]
      exact .removed sessionId _ listed returned fun other within found read =>
        least found ((known found).mpr ⟨other, within, read⟩)

theorem removeOldestSession_of_unreadable (broken : ∃ sessionId ∈ getUserSessionIds keys now userId,
      unreadable keys now sessionId = true) :
    ∃ error, removeOldestSession keys now userId = (keys, .error error) := by
  unfold removeOldestSession getUserSessions
  obtain ⟨error, thrown, -⟩ | ⟨sessions, -, readable, -⟩ :=
    readSessions_spec keys now (getUserSessionIds keys now userId)
  · exact ⟨error, by rw [thrown]⟩
  · obtain ⟨sessionId, listed, obstructs⟩ := broken
    rw [readable sessionId listed] at obstructs
    cases obstructs

end Removing

theorem indexTells_of_perm {maxSessionsPerUser : Nat} {keys : SessionKeys} {now : Nat}
    {userId : String} (positive : 1 ≤ maxSessionsPerUser)
    (same : (getUserSessionIds keys now userId).Perm (liveIds keys now userId)) :
    IndexTells maxSessionsPerUser keys now userId where
  limit := by
    rw [same.length_eq]
    refine and_iff_left_of_imp fun full => ?_
    obtain ⟨sessionId, live⟩ := List.exists_mem_of_length_pos (Nat.lt_of_lt_of_le positive full)
    obtain ⟨session, returned, -⟩ := mem_liveIds.mp live
    exact ⟨sessionId, same.mem_iff.mpr live, session, returned⟩
  oldest := by
    intro _ sessionId listed session returned least
    obtain ⟨found, returned', own⟩ := mem_liveIds.mp (same.mem_iff.mp listed)
    cases returned.symm.trans returned'
    refine ⟨own, fun other found returned own => ?_⟩
    exact least other (same.mem_iff.mpr (mem_liveIds.mpr ⟨found, returned, own⟩)) found returned

section Limit

variable {config : SessionConfig} {maxSessionsPerUser : Nat} {keys : SessionKeys} {now : Nat}

def Limited (maxSessionsPerUser : Nat) (keys : SessionKeys) (now : Nat) : Prop :=
  ∀ userId, (liveIds keys now userId).length ≤ maxSessionsPerUser

/-- The keys are those after some calls of the store. -/
def Reached (config : SessionConfig) (keys : SessionKeys) : Prop :=
  ∃ past, Tracked config past keys

theorem Reached.step (reached : Reached config keys) (input : SessionStore.Input) :
    Reached config ((SessionStore.machine config).step keys input).1 := by
  obtain ⟨past, tracked⟩ := reached
  exact ⟨past ++ [input], tracked.change (step_changes config keys input)⟩

theorem Limited.sessionStore (limited : Limited maxSessionsPerUser keys now)
    (reached : Reached config keys) {call : SessionStore.Call}
    (kept : ∀ id data, call ≠ .create id data) :
    Limited maxSessionsPerUser ((SessionStore.machine config).step keys ⟨now, call⟩).1 now := by
  obtain ⟨past, tracked⟩ := reached
  have quiet : ∀ userId, createNote userId ⟨now, call⟩ = none := by
    intro userId
    cases call with
    | create sessionId data => exact absurd rfl (kept sessionId data)
    | update | updateLastActivity | renew | deactivate | delete => rfl
  intro userId
  refine le_trans (length_liveIds_le fun sessionId member => ?_) (limited userId)
  obtain ⟨session, returned, own⟩ := mem_liveIds.mp member
  have change := step_changes config keys ⟨now, call⟩
  generalize ((SessionStore.machine config).step keys ⟨now, call⟩).1 = after at change returned
  cases change with
  | none => exact mem_liveIds.mpr ⟨session, returned, own⟩
  | created created expiry note =>
    have noted := note created.userId
    rw [quiet, if_pos rfl] at noted
    cases noted
  | restored other before changed found id user _ =>
    obtain ⟨same, owner⟩ | stored := get_storeSession_returned returned
    · rw [id, (tracked.id_eq found).1] at same
      exact mem_liveIds.mpr ⟨before, same ▸ found, (user.symm.trans owner.symm).trans own⟩
    · exact mem_liveIds.mpr ⟨session, stored, own⟩
  | deleted other before found _ =>
    refine mem_liveIds.mpr ⟨session, ?_, own⟩
    obtain ⟨data, stored, valid⟩ := get_eq_some_iff.mp returned
    rw [lookup_delete] at stored
    split at stored
    · cases stored
    · exact get_eq_some_iff.mpr ⟨data, stored, valid⟩

theorem Limited.delete (limited : Limited maxSessionsPerUser keys now)
    (reached : Reached config keys) (sessionId : String) :
    Limited maxSessionsPerUser (delete keys now sessionId).1 now := by
  refine @Limited.sessionStore config maxSessionsPerUser keys now limited reached
    (.delete sessionId) ?_
  intro id data same
  cases same

theorem Limited.create (limited : Limited maxSessionsPerUser keys now) (config : SessionConfig)
    (sessionId : String) {data : SessionData}
    (room : (liveIds keys now data.userId).length + 1 ≤ maxSessionsPerUser) :
    Limited maxSessionsPerUser (create keys now config sessionId data).1 now := by
  intro userId
  refine (liveIds_create config sessionId data).trans ?_
  split
  · next same =>
    subst same
    exact room
  · exact limited userId

theorem lookup_create {sessionId other : String} {data : SessionData}
    (gone : (create keys now config sessionId data).1.sessions.lookup now other = none) :
    keys.sessions.lookup now other = none := by
  by_contra found
  refine absurd gone ?_
  show (storeSession keys now _).sessions.lookup now other ≠ none
  unfold storeSession
  simp only
  split
  · exact StringCommand.lookup_setex_ne_none found
  · exact found

theorem lookup_delete {sessionId other : String}
    (gone : (delete keys now sessionId).1.sessions.lookup now other = none) :
    other = sessionId ∨ keys.sessions.lookup now other = none := by
  unfold delete at gone
  split at gone
  · exact .inr gone
  · exact .inr gone
  · change ExpiringMap.lookup (OrderedMap.delete keys.sessions sessionId) now other = none at gone
    rw [ExpiringMap.lookup_delete] at gone
    split at gone
    · next same => exact .inl same.symm
    · exact .inr gone

def Keeps (config : SessionConfig) (maxSessionsPerUser : Nat) (keys : SessionKeys)
    (input : Input) : Prop :=
  LimitKept config maxSessionsPerUser keys input ∧
    Reached config ((machine config maxSessionsPerUser).step keys input).1 ∧
    Limited maxSessionsPerUser ((machine config maxSessionsPerUser).step keys input).1 input.now

variable {sessionId deviceId : String} {params : SessionData}

theorem keeps_of_thrown {error : String} (reached : Reached config keys)
    (limited : Limited maxSessionsPerUser keys now)
    (thrown : createSession keys now config maxSessionsPerUser sessionId deviceId params =
      (keys, .error error)) :
    Keeps config maxSessionsPerUser keys ⟨now, .createSession sessionId deviceId params⟩ := by
  simp only [Keeps, LimitKept, machine, thrown]
  refine ⟨⟨?_, fun _ found gone => absurd gone found⟩, reached, limited⟩
  rintro ⟨⟩

theorem keeps_of_created {left : SessionKeys} (reached : Reached config left)
    (limited : Limited maxSessionsPerUser left now)
    (room : (liveIds left now params.userId).length + 1 ≤ maxSessionsPerUser)
    (created : createSession keys now config maxSessionsPerUser sessionId deviceId params =
      create left now config sessionId (sessionData deviceId params))
    (rightly : ∀ deleted, keys.sessions.lookup now deleted ≠ none →
      left.sessions.lookup now deleted = none →
        maxSessionsPerUser ≤ (liveIds keys now params.userId).length ∧
          ∃ session, get keys now deleted = .ok (some session) ∧
            Oldest keys now params.userId session) :
    Keeps config maxSessionsPerUser keys ⟨now, .createSession sessionId deviceId params⟩ := by
  have grown : Limited maxSessionsPerUser
      (create left now config sessionId (sessionData deviceId params)).1 now :=
    limited.create config sessionId room
  simp only [Keeps, LimitKept, machine, created]
  exact ⟨⟨fun _ => grown params.userId, fun deleted found gone =>
      rightly deleted found (lookup_create gone)⟩,
    reached.step ⟨now, .create sessionId (sessionData deviceId params)⟩, grown⟩

/-- What a call that is made when the index tells keeps, and leaves behind. -/
theorem step_keeps (input : Input) (reached : Reached config keys)
    (limited : Limited maxSessionsPerUser keys input.now)
    (tells : IndexGuard maxSessionsPerUser keys input) :
    Keeps config maxSessionsPerUser keys input := by
  obtain ⟨now, call⟩ := input
  cases call with
  | sessionStore call kept =>
    exact ⟨trivial, reached.step ⟨now, call⟩, limited.sessionStore reached kept⟩
  | createSession sessionId deviceId params =>
    by_cases many : maxSessionsPerUser ≤ (getUserSessionIds keys now params.userId).length
    · obtain ⟨-, broken⟩ | tells := tells
      · obtain ⟨error, thrown⟩ := removeOldestSession_of_unreadable broken
        exact keeps_of_thrown reached limited (by rw [createSession, if_pos many, thrown])
      · obtain ⟨past, tracked⟩ := id reached
        have removal := removeOldestSession_spec tracked now params.userId
        generalize removed : removeOldestSession keys now params.userId = outcome at removal
        cases removal with
        | thrown error =>
          exact keeps_of_thrown reached limited (by rw [createSession, if_pos many, removed])
        | nothing empty =>
          have few : ¬ maxSessionsPerUser ≤ (liveIds keys now params.userId).length :=
            fun full => empty (tells.limit.mpr full).2
          exact keeps_of_created reached limited (Nat.lt_of_not_le few)
            (by rw [createSession, if_pos many, removed]) fun _ found gone => absurd gone found
        | removed deleted session listed returned least =>
          have full := tells.limit.mp ⟨many, deleted, listed, session, returned⟩
          have oldest := tells.oldest full deleted listed session returned least
          have fewer := liveIds_delete (mem_liveIds.mpr ⟨session, returned, oldest.1⟩)
          have left_reached : Reached config (delete keys now deleted).1 :=
            reached.step ⟨now, .delete deleted⟩
          have left_limited : Limited maxSessionsPerUser (delete keys now deleted).1 now :=
            limited.delete reached deleted
          refine keeps_of_created left_reached left_limited (fewer.trans (limited params.userId))
            (by rw [createSession, if_pos many, removed]) fun other found gone => ?_
          obtain rfl | absent := lookup_delete gone
          · exact ⟨full, session, returned, oldest⟩
          · exact absurd absent found
    · obtain ⟨full, -⟩ | tells := tells
      · exact absurd full many
      · have few : ¬ maxSessionsPerUser ≤ (liveIds keys now params.userId).length :=
          fun full => many (tells.limit.mpr full).1
        exact keeps_of_created reached limited (Nat.lt_of_not_le few)
          (by rw [createSession, if_neg many]) fun _ found gone => absurd gone found

end Limit

/-- In a history in which the index tells whenever a session is created, the limit is kept. -/
theorem session_limit {config : SessionConfig} {maxSessionsPerUser : Nat} {inputs : List Input}
    (clock : inputs.Pairwise (·.now ≤ ·.now))
    (tells : (machine config maxSessionsPerUser).Admits (IndexGuard maxSessionsPerUser)
      .empty inputs) :
    (machine config maxSessionsPerUser).Admits (LimitKept config maxSessionsPerUser)
      .empty inputs := by
  have general : ∀ (keys : SessionKeys) (now : Nat), (∀ input ∈ inputs, now ≤ input.now) →
      Reached config keys → Limited maxSessionsPerUser keys now →
      (machine config maxSessionsPerUser).Admits (IndexGuard maxSessionsPerUser) keys inputs →
      (machine config maxSessionsPerUser).Admits (LimitKept config maxSessionsPerUser)
        keys inputs := by
    clear tells
    induction inputs with
    | nil => exact fun _ _ _ _ _ _ => trivial
    | cons input rest ih =>
      intro keys now later reached limited tells
      obtain ⟨after, clock⟩ := List.pairwise_cons.mp clock
      have sooner := later input List.mem_cons_self
      obtain ⟨kept, reached, limited⟩ := step_keeps input reached
        (fun userId => (liveIds_later sooner).trans (limited userId)) tells.1
      exact ⟨kept, ih clock _ input.now after reached limited tells.2⟩
  exact general .empty 0 (fun _ _ => Nat.zero_le _) ⟨[], tracked_run []⟩ (fun _ => Nat.zero_le _)
    tells

/-- Two logins of a user with an hour between them. -/
def twoLogins : List Input :=
  [⟨1700000000000, .createSession "s1" "d1" sampleData⟩,
    ⟨1700003600000, .createSession "s2" "d2" sampleData⟩]

/-- With a limit of one the second takes the place of the first. -/
theorem twoLogins_keep_limit :
    (machine ⟨86400⟩ 1).Admits (LimitKept ⟨86400⟩ 1) .empty twoLogins := by
  refine session_limit (by decide +kernel) ⟨.inr ?_, .inr ?_, trivial⟩
  · exact indexTells_of_perm le_rfl (List.Perm.of_eq (by decide +kernel))
  · exact indexTells_of_perm le_rfl (List.Perm.of_eq (by decide +kernel))

/-- A day after the first of two logins the third deletes the session of the second, which is
the only one left. -/
theorem only_session_is_deleted : ¬ (machine ⟨86400⟩ 2).Admits (LimitKept ⟨86400⟩ 2) .empty
      [⟨1700000000000, .createSession "s1" "d1" sampleData⟩,
        ⟨1700082800000, .createSession "s2" "d2" sampleData⟩,
        ⟨1700090000000, .createSession "s3" "d3" sampleData⟩] := by
  rintro ⟨-, -, ⟨-, kept⟩, -⟩
  exact absurd (kept "s2" (by decide +kernel) (by decide +kernel)).1 (by decide +kernel)

end Caas.Auth.SessionService
