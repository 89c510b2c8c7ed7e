import Caas.Auth.SessionCalls
import Caas.Auth.SessionIndex

/-!
# The copies that session calls hold

A call reads the session, changes its copy and stores the whole copy again. The standing of a
call is the copy it has taken last, and whether a termination has taken its effect: with a
session that is not found, deleted or stored as inactive, or with a session that is out of
time, which is not stored at all.
-/

namespace Caas.Auth.SessionTermination

open Async Program Redis SessionCalls

structure Standing where
  held : Option Session := none
  effective : Bool := false

def terminates : SessionCall → Bool
  | .deactivate _ | .delete _ => true
  | _ => false

/-- Whether a call is to read its session only. -/
def gets : SessionCall → Bool
  | .get _ => true
  | _ => false

/-- Whether the call holds a copy of the session that is active. -/
def Standing.holdsActive (standing : Standing) : Bool := standing.held.any (·.isActive)

/-- Whether the copy a call holds has no time left. -/
def Standing.lapses (standing : Standing) (now : Nat) : Bool :=
  standing.held.any fun session => SessionStore.timeToLive now session ≤ 0

/-- Whether a termination takes its effect with a command. -/
def outdates (call : SessionCall) (standing : Standing) :
    (command : SessionCommand) → command.Reply → Bool
  | .sessions (.get _), (found : Option Session) => terminates call && found.isNone
  | .sessions (.del _), _ | .sessions (.setex _ _ _), _ => terminates call
  | .now, (now : Nat) => terminates call && standing.lapses now
  | .sessions (.ttl _), _ | .srem _ _, _ => false

/-- Whether a command takes a copy of the session that is stored. -/
def renews (_call : SessionCall) (_standing : Standing) :
    (command : SessionCommand) → command.Reply → Bool
  | .sessions (.get _), _ => true
  | _, _ => false

/-- The copy that a call holds after a command. -/
def taken (held : Option Session) : (command : SessionCommand) → command.Reply → Option Session
  | .sessions (.get _), (found : Option Session) =>
    found.bind fun data => (SessionSerializer.deserialize data).toOption
  | _, _ => held

/-- A session is stored under its id with time left; what is active is a copy of what is, and
nothing active is stored to terminate a session. -/
structure Stores (call : SessionCall) (standing : Standing) (key : String) (seconds : Int)
    (session : Session) : Prop where
  own : key = call.sessionId
  keyed : session.id = key
  left : 0 < seconds
  active : session.isActive = true → standing.holdsActive = true ∧ terminates call = false

/-- What a call may issue; `get` issues one command only. -/
structure May (call : SessionCall) (standing : Standing) (command : SessionCommand) : Prop where
  single : gets call = true → standing.held = none
  allowed : match command with
    | .sessions (.get key) | .sessions (.del key) => key = call.sessionId
    | .sessions (.setex key seconds session) => Stores call standing key seconds session
    | .sessions (.ttl _) => False
    | .srem _ _ | .now => True

/-- Sessions are stored under their own ids, and Redis takes what has time to live. -/
def discipline (call : SessionCall) :
    Discipline SessionCommand SessionCommand.Reply Standing where
  next standing command reply :=
    ⟨taken standing.held command reply, standing.effective || outdates call standing command reply⟩
  may := May call
  assumes
    | .sessions (.get key), (found : Option Session) => ∀ session ∈ found, session.id = key
    | .sessions (.setex _ seconds _), (written : Except String Unit) =>
      0 < seconds → written = .ok ()
    | _, _ => True

/-- A termination that completes has taken its effect, and `get` returns what it has read. -/
structure Ends (call : SessionCall) (standing : Standing)
    (outcome : Outcome SessionAnswer) : Prop where
  effective : terminates call = true → (∃ answer, outcome = .ok answer) → standing.effective = true
  returns : gets call = true → ∀ session, outcome = .ok (.session (some session)) →
    standing.held = some session

section Bodies

variable {call : SessionCall} {standing : Standing}

theorem deserialize_ok {data session : Session}
    (read : SessionSerializer.deserialize data = .ok session) :
    session.id = data.id ∧ session.isActive = data.isActive := by
  unfold SessionSerializer.deserialize SessionSerializer.validateAndNormalize at read
  split at read
  · cases read
  · cases read
    exact ⟨rfl, rfl⟩

/-- What reading the session leaves of a call. -/
structure Got (call : SessionCall) (after : Standing) (outcome : Outcome (Option Session)) :
    Prop where
  held : ∀ found, outcome = .ok found → after.held = found
  missing : outcome = .ok none → terminates call = true → after.effective = true
  keyed : ∀ session, outcome = .ok (some session) → session.id = call.sessionId

theorem get_respects (single : gets call = true → standing.held = none) :
    (get call.sessionId).Respects (discipline call) (Got call) standing := by
  refine respects_command_bind ⟨single, rfl⟩ ?_
  rintro (found : Option Session) keyed _ rfl
  cases found with
  | none =>
    refine ⟨?_, fun _ terminating => ?_, fun _ absent => nomatch absent⟩
    · rintro _ ⟨⟩
      rfl
    · simp [discipline, outdates, terminating]
  | some data =>
    dsimp only
    cases read : SessionSerializer.deserialize data with
    | error error =>
      exact ⟨fun _ thrown => (nomatch thrown), fun thrown => (nomatch thrown),
        fun _ thrown => (nomatch thrown)⟩
    | ok session =>
      refine ⟨?_, fun absent => (nomatch absent), ?_⟩
      · rintro _ ⟨⟩
        simp only [discipline, taken, Option.bind_some, read]
        rfl
      · rintro _ ⟨⟩
        exact (deserialize_ok read).1.trans (keyed data rfl)

/-- A copy is stored, or out of time; a termination takes its effect either way. -/
theorem storeSession_respects {session held : Session} (holds : standing.held = some held)
    (single : gets call = false) (keyed : session.id = call.sessionId)
    (active : session.isActive = true → held.isActive = true ∧ terminates call = false)
    (expiry : terminates call = true → session.expiresAt = held.expiresAt) :
    (storeSession session).Respects (discipline call)
      (fun after outcome => outcome = .ok () ∧ (terminates call = true → after.effective = true))
      standing := by
  have unread : gets call = true → standing.held = none :=
    fun reads => nomatch single.symm.trans reads
  refine respects_command_bind ⟨unread, trivial⟩ ?_
  rintro (now : Nat) _ _ rfl
  by_cases left : 0 < SessionStore.timeToLive now session
  · simp only [left, if_true]
    refine respects_command_bind ⟨unread, keyed, rfl, left, fun is => ?_⟩ ?_
    · obtain ⟨was, kept⟩ := active is
      refine ⟨?_, kept⟩
      simp [discipline, taken, Standing.holdsActive, holds, was]
    · rintro (written : Except String Unit) succeeds _ rfl
      obtain rfl : written = .ok () := succeeds left
      refine ⟨rfl, fun terminating => ?_⟩
      simp [discipline, outdates, terminating]
  · simp only [left, if_false]
    refine ⟨rfl, fun terminating => ?_⟩
    have late : SessionStore.timeToLive now held ≤ 0 := by
      rw [SessionStore.timeToLive, ← expiry terminating]
      exact Int.not_lt.mp left
    simp [discipline, outdates, terminating, Standing.lapses, holds, late]

structure Changes (call : SessionCall) (session changed : Session) : Prop where
  id : changed.id = session.id
  active : changed.isActive = true → session.isActive = true ∧ terminates call = false
  expiry : terminates call = true → changed.expiresAt = session.expiresAt

theorem restore_respects {change : Session → SessionProgram Session} (single : gets call = false)
    (changes : ∀ session standing, standing.held = some session →
      (change session).Respects (discipline call)
        (fun after outcome => after.held = some session ∧
          ∃ changed, outcome = .ok changed ∧ Changes call session changed) standing) :
    (restore call.sessionId change).Respects (discipline call)
      (fun after outcome => terminates call = true → (∃ answer, outcome = .ok answer) →
        after.effective = true) standing := by
  refine respects_bind
    ((get_respects fun reads => (nomatch single.symm.trans reads)).mono ?_)
  rintro after (error | _ | session) got
  · rintro _ ⟨_, thrown⟩
    cases thrown
  · exact fun terminating _ => got.missing rfl terminating
  · refine respects_bind ((changes session after (got.held _ rfl)).mono ?_)
    rintro after _ ⟨holds, changed, rfl, change⟩
    refine respects_bind ((storeSession_respects holds single
      (change.id.trans (got.keyed session rfl)) change.active change.expiry).mono ?_)
    rintro after _ ⟨rfl, effective⟩
    exact fun terminating _ => effective terminating

theorem now_respects {session : Session} (changed : Nat → Session)
    (single : gets call = false) (holds : standing.held = some session)
    (changes : ∀ now, Changes call session (changed now)) :
    (do
      let now : Nat ← SessionCommand.await .now
      return changed now : SessionProgram Session).Respects (discipline call)
        (fun after outcome => after.held = some session ∧
          ∃ changed, outcome = .ok changed ∧ Changes call session changed) standing := by
  refine respects_command_bind
    ⟨fun reads => (nomatch single.symm.trans reads), trivial⟩ ?_
  rintro (now : Nat) _ _ rfl
  exact ⟨holds, changed now, rfl, changes now⟩

theorem updateLastActivity_respects (single : gets call = false)
    (lasting : terminates call = false) :
    (updateLastActivity call.sessionId).Respects (discipline call) (fun _ _ => True) standing := by
  refine respects_bind ((restore_respects single fun session standing holds =>
    now_respects (fun now => { session with lastActivity := now }) single holds
      fun now => ⟨rfl, fun is => ⟨is, lasting⟩, fun _ => rfl⟩).mono ?_)
  rintro _ (_ | _) _ <;> trivial

theorem validate_respects (session : Session) (options : ValidationOptions)
    (single : gets call = false) :
    (validate session options).Respects (discipline call) (fun _ _ => True) standing := by
  unfold validate validateExpiry
  split
  · trivial
  · split
    · refine respects_command_bind
        ⟨fun reads => (nomatch single.symm.trans reads), trivial⟩ ?_
      rintro (now : Nat) _ _ rfl
      by_cases expired : session.expiresAt ≤ now
      · simp only [expired, if_true]
        trivial
      · simp only [expired, if_false]
        trivial
    · trivial

theorem validateSession_respects (options : ValidationOptions)
    (single : gets call = false) (lasting : terminates call = false) :
    (validateSession call.sessionId options).Respects (discipline call) (fun _ _ => True)
      standing := by
  refine respects_bind
    ((get_respects fun reads => (nomatch single.symm.trans reads)).mono ?_)
  rintro after (error | _ | session) got
  · trivial
  · trivial
  · refine respects_bind ((validate_respects session options single).mono ?_)
    rintro after (error | validation) _
    · trivial
    · dsimp only
      split
      · refine respects_bind ((updateLastActivity_respects single lasting).mono ?_)
        rintro _ (_ | _) _ <;> trivial
      · trivial

theorem ends_of_lasting {outcome : Outcome SessionAnswer} (lasting : terminates call = false)
    (single : gets call = false) : Ends call standing outcome :=
  ⟨fun terminating => (nomatch lasting.symm.trans terminating),
    fun reads => (nomatch single.symm.trans reads)⟩

theorem sessionCall_respects (call : SessionCall) :
    (sessionCall call).Respects (discipline call) (Ends call) {} := by
  cases call with
  | get sessionId =>
    refine respects_bind ((@get_respects (.get sessionId) _ fun _ => rfl).mono ?_)
    rintro after (error | found) got
    · exact ⟨fun _ ⟨_, thrown⟩ => (nomatch thrown), fun _ _ thrown => (nomatch thrown)⟩
    · refine ⟨fun terminating => (nomatch terminating), ?_⟩
      rintro _ session ⟨⟩
      exact got.held _ rfl
  | validateSession sessionId options =>
    refine respects_bind
      ((@validateSession_respects (.validateSession sessionId options) _ options rfl rfl).mono ?_)
    rintro _ (_ | _) _ <;> exact ends_of_lasting rfl rfl
  | updateLastActivity sessionId =>
    refine respects_bind
      ((@updateLastActivity_respects (.updateLastActivity sessionId) _ rfl rfl).mono ?_)
    rintro _ (_ | _) _ <;> exact ends_of_lasting rfl rfl
  | update sessionId updates =>
    refine respects_bind (respects_bind
      ((@restore_respects (.update sessionId updates) _ _ rfl ?_).mono ?_))
    · intro session standing holds
      exact ⟨holds, updated updates session, rfl, rfl, fun is => ⟨is, rfl⟩, fun _ => rfl⟩
    · rintro _ (_ | _ | _) _ <;> exact ends_of_lasting rfl rfl
  | renew sessionId extensionMs =>
    refine respects_bind (respects_bind
      ((@restore_respects (.renew sessionId extensionMs) _ _ rfl ?_).mono ?_))
    · intro session standing holds
      refine now_respects (fun now => { session with expiresAt := now + extensionMs }) rfl holds ?_
      exact fun now => ⟨rfl, fun is => ⟨is, rfl⟩, nofun⟩
    · rintro _ (_ | _ | _) _ <;> exact ends_of_lasting rfl rfl
  | deactivate sessionId =>
    refine respects_bind (respects_bind
      ((@restore_respects (.deactivate sessionId) _ _ rfl ?_).mono ?_))
    · intro session standing holds
      exact ⟨holds, _, rfl, rfl, nofun, fun _ => rfl⟩
    · rintro after (error | found) effective
      · exact ⟨fun _ ⟨_, thrown⟩ => (nomatch thrown), fun reads => (nomatch reads)⟩
      · exact ⟨fun _ _ => effective rfl ⟨_, rfl⟩, fun reads => (nomatch reads)⟩
  | delete sessionId =>
    refine respects_bind (respects_bind
      ((@get_respects (.delete sessionId) _ fun _ => rfl).mono ?_))
    rintro after (error | _ | session) got
    · exact ⟨fun _ ⟨_, thrown⟩ => (nomatch thrown), fun reads => (nomatch reads)⟩
    · exact ⟨fun _ _ => got.missing rfl rfl, fun reads => (nomatch reads)⟩
    · refine respects_command_bind ⟨fun reads => (nomatch reads), rfl⟩ ?_
      rintro _ _ _ rfl
      refine respects_command_bind ⟨fun reads => (nomatch reads), trivial⟩ ?_
      rintro _ _ _ rfl
      refine ⟨fun _ _ => ?_, fun reads => (nomatch reads)⟩
      simp [discipline, outdates, terminates]

end Bodies

end Caas.Auth.SessionTermination
