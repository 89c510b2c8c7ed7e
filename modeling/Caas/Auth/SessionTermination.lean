import Caas.Auth.SessionCopies

/-!
# Terminated sessions

A call that has read a session before its termination holds a copy that is out of date, and
stores the whole copy all the same. As long as no such copy is stored that is active, and no
session is deactivated that is out of time while Redis still has it, a terminated session stays
terminated.
-/

namespace Caas.Auth.SessionTermination

open Async Redis StringCommand ExpiringMap

/-- The concurrent calls, with whose copies are out of date. -/
abbrev SessionPool :=
  Pool.Recorded SessionServer SessionCommand SessionCommand.Reply SessionCall Standing
    SessionAnswer (Nat → Bool)

abbrev SessionEvent := Event Unit Nat SessionCall

abbrev SessionCallState :=
  Call SessionCommand SessionCommand.Reply SessionCall Standing SessionAnswer

def machine : Transducer SessionPool SessionEvent Unit :=
  Pool.Recorded.machine sessionHost discipline (fun _ => {}) (Pool.staleness renews outdates)

def newPool (server : SessionServer) : SessionPool := ⟨⟨server, []⟩, fun _ => false⟩

section Conditions

variable (sessionId : String)

/-- Sessions are stored under their own ids. -/
def Keyed (keys : SessionKeys) : Prop :=
  ∀ time session, keys.sessions.lookup time sessionId = some session → session.id = sessionId

/-- No active session is stored. -/
def Quiet (server : SessionServer) : Prop :=
  ∀ session ∈ server.keys.sessions.lookup server.now sessionId, session.isActive = false

/-- The condition on a command of the call at `index`: what it stores as active is up to date,
and a session that is out of time is deactivated only when Redis has it no more. -/
def CarefulCommand (current : SessionPool) (index : Nat) (call : SessionCallState) :
    SessionCommand → Prop
  | .sessions (.setex _ _ session) => session.isActive = true → current.history index = false
  | .now => (terminates call.input && call.phase.lapses current.pool.shared.now) = true →
    Quiet sessionId current.pool.shared
  | _ => True

def Careful (current : SessionPool) : SessionEvent → Prop
  | .start input => input.sessionId = sessionId
  | .change _ => True
  | .run index _ => ∀ awaiting ∈ current.pool.awaited? index,
    CarefulCommand sessionId current index awaiting.1 awaiting.2

end Conditions

/-- No active session is stored, now or later, and active copies are out of date. -/
structure Quenched (sessionId : String) (current : SessionPool) : Prop where
  stored : ∀ time, current.pool.shared.now ≤ time →
    ∀ session, current.pool.shared.keys.sessions.lookup time sessionId = some session →
      session.isActive = false
  stale : ∀ (index : Nat) (call : SessionCallState), current.pool.calls[index]? = some call →
    call.phase.holdsActive = true → current.history index = true

/-- The calls are on the session, and it is quenched once a termination has taken its effect. -/
structure Kept (sessionId : String) (current : SessionPool) : Prop where
  own : ∀ call ∈ current.pool.calls, call.input.sessionId = sessionId
  keyed : Keyed sessionId current.pool.shared.keys
  quenched : (∃ call ∈ current.pool.calls, call.phase.effective = true) →
    Quenched sessionId current

section Execution

variable {server : SessionServer} {command : SessionCommand} {call : SessionCall}
  {standing : Standing} {sessionId : String} {session : Session}

theorem now_exec (server : SessionServer) (command : SessionCommand) (oracle : Unit) :
    (server.exec command oracle).1.now = server.now := by
  cases command <;> rfl

theorem lookup_exec {oracle : Unit} {time : Nat}
    (found : (server.exec command oracle).1.keys.sessions.lookup time sessionId = some session) :
    server.keys.sessions.lookup time sessionId = some session ∨
      ∃ seconds, command = .sessions (.setex sessionId seconds session) := by
  cases command with
  | sessions command =>
    rcases lookup_exec found with before | ⟨seconds, rfl⟩
    · exact .inl before
    · exact .inr ⟨seconds, rfl⟩
  | srem | now => exact .inl found

theorem assumes_exec (may : May call standing command) (oracle : Unit)
    (keyed : Keyed call.sessionId server.keys) :
    (discipline call).assumes command (server.exec command oracle).2 := by
  cases command with
  | sessions command =>
    cases command with
    | get key =>
      intro session found
      obtain rfl : key = call.sessionId := may.allowed
      exact keyed _ session found
    | setex => exact setex_succeeds
    | ttl | del => trivial
  | srem | now => trivial

theorem holdsActive_next (may : May call standing command) (oracle : Unit)
    (active : ((discipline call).next standing command
      (server.exec command oracle).2).holdsActive = true) :
    (∃ session, server.keys.sessions.lookup server.now call.sessionId = some session ∧
        session.isActive = true) ∨ standing.holdsActive = true ∧
        renews call standing command (server.exec command oracle).2 = false := by
  cases command with
  | sessions command =>
    cases command with
    | get key =>
      left
      obtain rfl : key = call.sessionId := may.allowed
      obtain ⟨copy, took, active⟩ := (Option.any_eq_true _ _).mp active
      obtain ⟨data, found, read⟩ := Option.bind_eq_some_iff.mp took
      refine ⟨data, found, ?_⟩
      cases valid : SessionSerializer.deserialize data with
      | error error =>
        rw [valid] at read
        cases read
      | ok session =>
        rw [valid] at read
        cases read
        exact (deserialize_ok valid).2.symm.trans active
    | setex | ttl | del => exact .inr ⟨active, rfl⟩
  | srem | now => exact .inr ⟨active, rfl⟩

end Execution

section Steps

variable {sessionId : String} {current : SessionPool} {index : Nat} {call : SessionCallState}
  {command : SessionCommand} {next : command.Reply → SessionProgram SessionAnswer}

theorem Quenched.start (quenched : Quenched sessionId current) (input : SessionCall) :
    Quenched sessionId ⟨current.pool.start sessionHost (fun _ => {}) input, current.history⟩ := by
  refine ⟨quenched.stored, fun index call present active => ?_⟩
  rcases Pool.getElem?_start present with before | rfl
  · exact quenched.stale index call before active
  · cases active

theorem Quenched.takes (quenched : Quenched sessionId current)
    (own : call.input.sessionId = sessionId)
    (may : May call.input call.phase command) (oracle : Unit)
    (active : ((discipline call.input).next call.phase command
      (current.pool.shared.exec command oracle).2).holdsActive = true) :
    call.phase.holdsActive = true ∧ renews call.input call.phase command
      (current.pool.shared.exec command oracle).2 = false := by
  rcases holdsActive_next may oracle active with ⟨session, found, isActive⟩ | held
  · rw [own] at found
    cases (quenched.stored _ (Nat.le_refl _) session found).symm.trans isActive
  · exact held

theorem Quenched.resume (quenched : Quenched sessionId current) (oracle : Unit)
    (present : current.pool.calls[index]? = some call) (own : call.input.sessionId = sessionId)
    (may : May call.input call.phase command)
    (careful : CarefulCommand sessionId current index call command) : Quenched sessionId
      ⟨current.pool.resume discipline index call command next
          (current.pool.shared.exec command oracle),
        Pool.staleAfter renews outdates current.history index call command
          (current.pool.shared.exec command oracle).2⟩ := by
  constructor
  · intro time later session found
    rcases lookup_exec found with before | ⟨seconds, rfl⟩
    · have later : (current.pool.shared.exec command oracle).1.now ≤ time := later
      rw [now_exec] at later
      exact quenched.stored time later session before
    · -- An active copy would be out of date.
      refine Bool.eq_false_iff.mpr fun active => ?_
      have held := (may.allowed.active active).1
      cases (careful active).symm.trans (quenched.stale index call present held)
  · intro other holder found active
    rw [Pool.getElem?_resume present] at found
    split at found
    · rename_i same
      cases found
      obtain ⟨held, unrenewed⟩ := quenched.takes own may oracle active
      exact Pool.staleAfter_stays (same ▸ quenched.stale index call present held) (.inr unrenewed)
    · rename_i different
      exact Pool.staleAfter_stays (quenched.stale other holder found active)
        (.inl (Ne.symm different))

theorem quenched_of_outdates (oracle : Unit) (own : call.input.sessionId = sessionId)
    (may : May call.input call.phase command)
    (careful : CarefulCommand sessionId current index call command)
    (outdated : outdates call.input call.phase command
      (current.pool.shared.exec command oracle).2 = true) : Quenched sessionId
      ⟨current.pool.resume discipline index call command next
          (current.pool.shared.exec command oracle),
        Pool.staleAfter renews outdates current.history index call command
          (current.pool.shared.exec command oracle).2⟩ := by
  refine ⟨fun time later session found => ?_,
    fun _ _ _ _ => Pool.staleAfter_of_outdates outdated⟩
  have later : (current.pool.shared.exec command oracle).1.now ≤ time := later
  rw [now_exec] at later
  cases command with
  | sessions command =>
    cases command with
    | get key =>
      -- The termination has found no session.
      obtain rfl : key = sessionId := may.allowed.trans own
      have missing : (current.pool.shared.keys.sessions.lookup current.pool.shared.now key).isNone =
          true := (Bool.and_eq_true_iff.mp outdated).2
      have before : current.pool.shared.keys.sessions.lookup current.pool.shared.now key =
          some session := lookup_of_later later found
      rw [before] at missing
      cases missing
    | del key =>
      obtain rfl : key = sessionId := may.allowed.trans own
      have found : lookup (Js.OrderedMap.delete current.pool.shared.keys.sessions key)
        time key = some session := found
      rw [lookup_delete, if_pos rfl] at found
      cases found
    | setex key seconds written =>
      have stores : Stores call.input call.phase key seconds written := may.allowed
      obtain rfl : key = sessionId := stores.own.trans own
      obtain rfl : session = written :=
        lookup_setex_self (setex_succeeds stores.left) found
      refine Bool.eq_false_iff.mpr fun active => ?_
      cases (stores.active active).2.symm.trans outdated
    | ttl => cases outdated
  | srem => cases outdated
  | now => exact careful outdated session (lookup_of_later later found)

theorem Kept.start (kept : Kept sessionId current) {input : SessionCall}
    (own : input.sessionId = sessionId) :
    Kept sessionId ⟨current.pool.start sessionHost (fun _ => {}) input, current.history⟩ := by
  refine ⟨fun call member => ?_, kept.keyed, ?_⟩
  · rcases Pool.mem_start member with earlier | rfl
    · exact kept.own call earlier
    · exact own
  · rintro ⟨call, member, effective⟩
    rcases Pool.mem_start member with earlier | rfl
    · exact (kept.quenched ⟨call, earlier, effective⟩).start input
    · cases effective

theorem Kept.resume (kept : Kept sessionId current) (oracle : Unit)
    (present : current.pool.calls[index]? = some call) (may : May call.input call.phase command)
    (careful : CarefulCommand sessionId current index call command) : Kept sessionId
      ⟨current.pool.resume discipline index call command next
          (current.pool.shared.exec command oracle),
        Pool.staleAfter renews outdates current.history index call command
          (current.pool.shared.exec command oracle).2⟩ := by
  have among := List.mem_of_getElem? present
  have own := kept.own call among
  refine ⟨fun other member => ?_, fun time session found => ?_, ?_⟩
  · rcases List.mem_or_eq_of_mem_set member with earlier | rfl
    · exact kept.own other earlier
    · exact own
  · rcases lookup_exec found with before | ⟨seconds, rfl⟩
    · exact kept.keyed time session before
    · exact may.allowed.keyed
  · rintro ⟨other, member, effective⟩
    rcases List.mem_or_eq_of_mem_set member with earlier | rfl
    · exact (kept.quenched ⟨other, earlier, effective⟩).resume oracle present own may careful
    · rcases Bool.or_eq_true_iff.mp effective with before | outdated
      · exact (kept.quenched ⟨call, among, before⟩).resume oracle present own may careful
      · exact quenched_of_outdates oracle own may careful outdated

end Steps

section Runs

variable {sessionId : String} {server : SessionServer} {current : SessionPool} {reader : Nat}
  {events : List SessionEvent}

theorem Quenched.later (quenched : Quenched sessionId current) (elapsed : Nat) :
    Quenched sessionId { current with
      pool.shared := sessionHost.change current.pool.shared elapsed } :=
  ⟨fun time later => quenched.stored time (Nat.le_trans (Nat.le_add_right _ _) later),
    quenched.stale⟩

theorem Kept.later (kept : Kept sessionId current) (elapsed : Nat) :
    Kept sessionId { current with
      pool.shared := sessionHost.change current.pool.shared elapsed } :=
  ⟨kept.own, kept.keyed, fun effective => (kept.quenched effective).later elapsed⟩

theorem kept_run (careful : machine.Admits (Careful sessionId) current events)
    (respectful : current.pool.Respectful discipline Ends) (kept : Kept sessionId current) :
    (machine.run current events).pool.Respectful discipline Ends ∧
      Kept sessionId (machine.run current events) := by
  refine Pool.Recorded.invariant sessionCall_respects (fun _ _ kept own => kept.start own)
    (fun _ elapsed kept _ => kept.later elapsed) ?_ careful respectful kept
  intro current index oracle call command next kept guarded _ present program may
  refine ⟨assumes_exec may oracle ?_, fun _ => ?_⟩
  · exact kept.own call (List.mem_of_getElem? present) ▸ kept.keyed
  · exact kept.resume oracle present may (guarded _ (Pool.awaited?_of_await present program))

def Terminated (current : SessionPool) : Prop :=
  ∃ index answer, (current.pool.calls[index]?.any (terminates ·.input)) = true ∧
    current.pool.outcome? index = some (.ok answer)

/-- The call at `reader` is a `get` that has returned the session. -/
def Returned (current : SessionPool) (reader : Nat) (session : Session) : Prop :=
  (current.pool.calls[reader]?.any (gets ·.input)) = true ∧
    current.pool.outcome? reader = some (.ok (.session (some session)))

/-- The session is quenched, and the `get` at `reader` has read no active session. -/
structure Settled (sessionId : String) (reader : Nat) (current : SessionPool) : Prop where
  kept : Kept sessionId current
  quenched : Quenched sessionId current
  reads : ∀ call, current.pool.calls[reader]? = some call →
    gets call.input = true → call.phase.holdsActive = false

/-- Once a termination has completed, the session is quenched; a `get` in progress has read
nothing. -/
theorem settled_of_terminated (respectful : current.pool.Respectful discipline Ends)
    (kept : Kept sessionId current) (terminated : Terminated current)
    (pending : current.pool.outcome? reader = none) : Settled sessionId reader current := by
  refine ⟨kept, ?_, ?_⟩
  · obtain ⟨index, answer, terminating, completed⟩ := terminated
    obtain ⟨call, present, ended⟩ := Option.bind_eq_some_iff.mp completed
    rw [present, Option.any_some] at terminating
    refine kept.quenched ⟨call, List.mem_of_getElem? present, ?_⟩
    exact (respectful.ends_of_outcome present ended).effective terminating ⟨answer, rfl⟩
  · intro call present reads
    have respects := respectful call (List.mem_of_getElem? present)
    have unfinished : call.program.outcome? = none := by
      simpa only [Pool.outcome?, present, Option.bind_some] using pending
    cases program : call.program with
    | result | failure =>
      rw [program] at unfinished
      cases unfinished
    | await command next =>
      rw [program] at respects
      have may : May call.input call.phase command := respects.1
      rw [Standing.holdsActive, may.single reads]
      rfl

theorem settled_run (careful : machine.Admits (Careful sessionId) current events)
    (respectful : current.pool.Respectful discipline Ends)
    (settled : Settled sessionId reader current) :
    (machine.run current events).pool.Respectful discipline Ends ∧
      Settled sessionId reader (machine.run current events) := by
  refine Pool.Recorded.invariant sessionCall_respects ?_ ?_ ?_ careful respectful settled
  · intro current input settled own
    refine ⟨settled.kept.start own, settled.quenched.start input, fun call present reads => ?_⟩
    rcases Pool.getElem?_start present with before | rfl
    · exact settled.reads call before reads
    · rfl
  · intro current elapsed settled _
    exact ⟨settled.kept.later elapsed, settled.quenched.later elapsed, settled.reads⟩
  · intro current index oracle call command next settled guarded _ present program may
    have own := settled.kept.own call (List.mem_of_getElem? present)
    have careful := guarded _ (Pool.awaited?_of_await present program)
    refine ⟨assumes_exec may oracle (own ▸ settled.kept.keyed), fun _ =>
      ⟨settled.kept.resume oracle present may careful,
        settled.quenched.resume oracle present own may careful, fun other found reads => ?_⟩⟩
    rw [Pool.getElem?_resume present] at found
    split at found
    · rename_i same
      cases found
      refine Bool.eq_false_iff.mpr fun active => ?_
      have held := (settled.quenched.takes own may oracle active).1
      cases (settled.reads call (same ▸ present) reads).symm.trans held
    · exact settled.reads other found reads

/-- In every interleaving of calls on a session, in which no active copy is stored that is out of
date, and no session is deactivated that is out of time while Redis still has it as active: once
a deactivation or deletion has completed, no `get` that ends later returns the session as
active. -/
theorem terminated_session_stays_terminated (sessionId : String) (server : SessionServer)
    (keyed : Keyed sessionId server.keys) (before after : List SessionEvent)
    (careful : machine.Admits (Careful sessionId) (newPool server) (before ++ after))
    (terminated : Terminated (machine.run (newPool server) before)) (reader : Nat)
    (pending : (machine.run (newPool server) before).pool.outcome? reader = none)
    (session : Session)
    (returned : Returned (machine.run (newPool server) (before ++ after)) reader session) :
    session.isActive = false := by
  obtain ⟨first, second⟩ := Transducer.admits_append.mp careful
  obtain ⟨respectful, kept⟩ := kept_run first (fun _ member => nomatch member)
    ⟨fun _ member => (nomatch member), keyed, fun ⟨_, member, _⟩ => (nomatch member)⟩
  obtain ⟨respectful, settled⟩ := settled_run second respectful
    (settled_of_terminated respectful kept terminated pending)
  rw [Transducer.run_append] at returned
  obtain ⟨reads, outcome⟩ := returned
  obtain ⟨call, present, ended⟩ := Option.bind_eq_some_iff.mp outcome
  rw [present, Option.any_some] at reads
  have quiet := settled.reads call present reads
  rw [Standing.holdsActive, (respectful.ends_of_outcome present ended).returns reads session rfl]
    at quiet
  exact quiet

theorem keyed_run (config : SessionConfig) (past : List SessionStore.Input) (sessionId : String) :
    Keyed sessionId ((SessionStore.machine config).run .empty past) := by
  intro time session found
  obtain ⟨entry, live, rfl⟩ := Option.map_eq_some_iff.mp found
  exact (SessionStore.tracked_run past).ids sessionId entry (get_of_liveEntry live)

instance {sessionId : String} {server : SessionServer} : Decidable (Quiet sessionId server) :=
  inferInstanceAs (Decidable (∀ session ∈ _, _ = _))

instance {call : SessionCallState} {index : Nat} (command : SessionCommand) :
    Decidable (CarefulCommand sessionId current index call command) :=
  match command with
  | .sessions (.setex _ _ _) => inferInstanceAs (Decidable (_ = _ → _ = _))
  | .now => inferInstanceAs (Decidable (_ = _ → Quiet _ _))
  | .sessions (.get _) | .sessions (.ttl _) | .sessions (.del _) | .srem _ _ => .isTrue trivial

instance (event : SessionEvent) : Decidable (Careful sessionId current event) :=
  match event with
  | .start _ => inferInstanceAs (Decidable (_ = _))
  | .change _ => .isTrue trivial
  | .run _ _ => inferInstanceAs (Decidable (∀ awaiting ∈ _, _))

end Runs

section Sample

def sampleServer : SessionServer where
  now := 1700000000000
  keys := (SessionStore.machine ⟨3600⟩).run .empty
    [⟨1700000000000, .create "s" ⟨"u", "t", "d", ⟨.web, "os", none, none, ""⟩, "ip", none, none⟩⟩]

def steps (index count : Nat) : List SessionEvent := List.replicate count (.run index ())

def deactivated : List SessionEvent :=
  [.start (.updateLastActivity "s"), .start (.deactivate "s"), .start (.get "s")] ++ steps 0 2 ++
    steps 1 1 ++ steps 0 2 ++ steps 1 2

def sampleSession : Session :=
  ⟨"s", "u", "t", "d", ⟨.web, "os", none, none, ""⟩, "ip", none, 1700000000000, 1700000000000,
    1700003600000, true, false⟩

theorem sample_stays_terminated :
    ∃ session, Returned (machine.run (newPool sampleServer) (deactivated ++ steps 2 1)) 2 session ∧
      session.isActive = false := by
  have returned : Returned (machine.run (newPool sampleServer) (deactivated ++ steps 2 1)) 2
      { sampleSession with isActive := false } := ⟨by decide +kernel, by decide +kernel⟩
  exact ⟨_, returned, terminated_session_stays_terminated "s" sampleServer (keyed_run _ _ _)
    deactivated (steps 2 1) (by decide +kernel) ⟨1, .done, by decide +kernel⟩ 2
    (by decide +kernel) _ returned⟩

def deleted : List SessionEvent :=
  [.start (.updateLastActivity "s"), .start (.delete "s"), .start (.get "s")] ++ steps 0 3 ++
    steps 1 3

/-- A session that has been deleted is stored anew. -/
theorem deleted_session_returns :
    ¬ ∀ (sessionId : String) (server : SessionServer) (before after : List SessionEvent),
      Keyed sessionId server.keys →
        (∀ input, .start input ∈ before ++ after → input.sessionId = sessionId) →
        Terminated (machine.run (newPool server) before) →
        ∀ reader session, (machine.run (newPool server) before).pool.outcome? reader = none →
          Returned (machine.run (newPool server) (before ++ after)) reader session →
            session.isActive = false := by
  intro stays
  have own : ∀ input, .start input ∈ deleted ++ (steps 0 1 ++ steps 2 1) →
      input.sessionId = "s" := by
    intro input member
    simp only [deleted, steps, List.mem_append, List.mem_cons, List.mem_replicate,
      Event.start.injEq, reduceCtorEq, and_false, or_false, List.not_mem_nil] at member
    rcases member with rfl | rfl | rfl <;> rfl
  have inactive := stays "s" sampleServer deleted (steps 0 1 ++ steps 2 1) (keyed_run _ _ _) own
    ⟨1, .done, by decide +kernel⟩ 2 sampleSession (by decide +kernel)
    ⟨by decide +kernel, by decide +kernel⟩
  cases inactive

/-- A session that has been renewed for one second and a half is deactivated a bit later: Redis
still has it as active. -/
example :
    (machine.run (newPool sampleServer)
      ([.start (.renew "s" 1500), .start (.deactivate "s"), .start (.get "s")] ++ steps 0 4 ++
        [.change 1600] ++ steps 1 2 ++ steps 2 1)).pool.outcome? 2 =
          some (.ok (.session (some { sampleSession with expiresAt := 1700000001500 }))) := by
  decide +kernel

end Sample

end Caas.Auth.SessionTermination
