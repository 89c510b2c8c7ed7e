import Caas.Auth.RefreshCommands

/-!
# Single use of refresh tokens

`refresh` reads the record of its token once before it decides and once more when
it marks the record as used. A second call that reads the record in between sees
it unused as well. The phases below follow the calls that present one token, the
one with the hash `tokenHash`: `holding` is the time between the two reads and the
mark, and `spent` is afterwards.

When no call reads the record as unspent while another one is holding it, a record
is spent by at most one call; from then on it is used, revoked or gone, and stays
so, because every later write of it is of a used or revoked record.
-/

namespace Caas.Auth.SingleUse

open Async Program Redis StringCommand

/-- Where a call stands with the token: it has not read its record yet, it has read it as
unspent, it has finished marking it, or it will not succeed with it. -/
inductive Phase where
  | fresh
  | holding
  | spent
  | lost
deriving DecidableEq

variable (settings : RefreshSettings) (tokenHash : String)

def Phase.read : Phase → Option RefreshTokenData → Phase
  | .fresh, some data => if Unspent data then .holding else .lost
  | .fresh, none => .lost
  | .holding, none => .spent
  | phase, _ => phase

/-- The time to live of the record has been read; without any, it will not be marked. -/
def Phase.timed : Phase → Int → Phase
  | .holding, seconds => if seconds ≤ 0 then .spent else .holding
  | phase, _ => phase

/-- The record has been written, unless the write was rejected. -/
def Phase.marked : Phase → Except String Unit → Phase
  | .holding, .ok _ => .spent
  | .holding, .error _ => .lost
  | phase, _ => phase

/-- A family has been read; one that is revoked ends the attempt. -/
def Phase.checked : Phase → Option RefreshTokenFamily → Phase
  | .holding, some family => if family.revoked then .lost else .holding
  | phase, _ => phase

def nextPhase (phase : Phase) : (command : RefreshCommand) → command.Reply → Phase
  | .token (.get hash), found => if hash = tokenHash then phase.read found else phase
  | .token (.ttl hash), seconds => if hash = tokenHash then phase.timed seconds else phase
  | .token (.setex hash _ _), written => if hash = tokenHash then phase.marked written else phase
  | .family (.get _), found => phase.checked found
  | _, _ => phase

/-- The calls write the record only as used or revoked, new tokens having other hashes. -/
def discipline : Discipline RefreshCommand RefreshCommand.Reply Phase where
  next := nextPhase tokenHash
  may _ := Confined (fun hash data => hash = tokenHash → ¬ Unspent data) fun _ => True
  assumes
    | .generateAccessToken _ _, (reply : Except String Generated) =>
      ∀ generated, reply = .ok generated →
        settings.hashToken generated.tokens.refreshToken ≠ tokenHash
    | _, _ => True

/-- The phase in which a call starts; only those that present the token matter. -/
def first (refreshToken : String) : Phase :=
  if settings.hashToken refreshToken = tokenHash then .fresh else .lost

/-- A call that presents the token succeeds only once it has spent it. -/
def ends (refreshToken : String) (phase : Phase) (outcome : Outcome RefreshResult) : Prop :=
  settings.hashToken refreshToken = tokenHash →
    ∀ tokens, outcome = .ok (.success tokens) → phase = .spent

section Programs

variable {settings tokenHash} {refreshToken : String}

theorem nextPhase_of_settled {phase : Phase} (settled : phase = .spent ∨ phase = .lost)
    (command : RefreshCommand) (reply : command.Reply) :
    nextPhase tokenHash phase command reply = phase := by
  have constant : ∀ hash, (if hash = tokenHash then phase else phase) = phase := fun _ => ite_self _
  cases command with
  | validate | generateAccessToken | userTokens => rfl
  | family command => cases command <;> rcases settled with rfl | rfl <;> rfl
  | token command =>
    cases command with
    | del key => rfl
    | get hash | ttl hash | setex hash =>
      rcases settled with rfl | rfl <;> exact constant hash

theorem settled_respects {α : Type} {program : RefreshProgram α} {phase : Phase}
    (settled : phase = .spent ∨ phase = .lost)
    (issues : program.Issues (Confined (fun hash data => hash = tokenHash → ¬ Unspent data)
      fun _ => True) (discipline settings tokenHash).assumes) :
    program.Respects (discipline settings tokenHash) (fun final _ => final = phase) phase :=
  issues.respects (fun _ allowed => allowed) fun command reply _ =>
    nextPhase_of_settled settled command reply

variable (data : RefreshTokenData)

theorem generate_issues : (RefreshService.generateNewTokenPair settings data).Issues
      (Confined (fun hash data => hash = tokenHash → ¬ Unspent data) fun _ => True)
      (discipline settings tokenHash).assumes := by
  refine RefreshService.generateNewTokenPair_issues ?_ fun _ =>
    Rewrites.of_forall (fun _ => trivial) _ _
  intro sessionId deviceId reply assumed generated issued stored _ same
  exact absurd same (assumed generated issued)

theorem revoke_issues : (RefreshTokenStore.revoke settings refreshToken).Issues
    (Confined (fun hash data => hash = tokenHash → ¬ Unspent data) fun _ => True)
    (discipline settings tokenHash).assumes :=
  RefreshTokenStore.revoke_issues fun data _ => not_unspent_of_revoked data

theorem handleReuse_issues (result : ReuseDetector.ReuseDetectionResult) :
    (ReuseDetector.handleReuse data result).Issues
      (Confined (fun hash data => hash = tokenHash → ¬ Unspent data) fun _ => True)
      (discipline settings tokenHash).assumes :=
  ReuseDetector.handleReuse_issues (fun _ data _ => not_unspent_of_revoked data)
    (Rewrites.of_forall (fun _ => trivial) _ _) result

theorem markAsUsed_respects : (RefreshTokenStore.markAsUsed settings refreshToken).Respects
      (discipline settings (settings.hashToken refreshToken))
      (fun phase outcome => outcome = .ok () → phase = .spent) .holding := by
  refine respects_command_bind trivial
    fun (found : Option RefreshTokenData) _ after read => ?_
  have here : ∀ moved : Phase, (if settings.hashToken refreshToken =
      settings.hashToken refreshToken then moved else .holding) = moved := fun _ => if_pos rfl
  cases found with
  | none =>
    obtain rfl : Phase.spent = after := (here _).symm.trans read
    exact fun _ => rfl
  | some data =>
    obtain rfl : Phase.holding = after := (here _).symm.trans read
    refine respects_bind ?_
    refine respects_command_bind trivial fun (seconds : Int) _ after timed => ?_
    by_cases positive : seconds > 0
    · obtain rfl : Phase.holding = after := by
        rw [← timed]
        exact ((here _).trans (if_neg (by omega))).symm
      simp only [positive, if_true]
      refine respects_command_bind (fun _ => not_unspent_of_used data)
        fun (written : Except String Unit) _ after marked => ?_
      refine respects_orThrow_bind (fun _ succeeded => ?_) fun error _ failed => ?_
      · obtain rfl : Phase.spent = after := by
          rw [← marked, succeeded]
          exact (here _).symm
        exact fun _ => rfl
      · cases failed
    · obtain rfl : Phase.spent = after := by
        rw [← timed]
        exact ((here _).trans (if_pos (by omega))).symm
      simp only [positive, if_false]
      exact fun _ => rfl

theorem detectReuse_respects {data : RefreshTokenData} (unspent : Unspent data) :
    (ReuseDetector.detectReuse data).Respects (discipline settings tokenHash)
      (fun phase outcome => ∃ result, outcome = .ok result ∧
        (if result.isReuse then phase = .lost else phase = .holding)) .holding := by
  unfold ReuseDetector.detectReuse
  rw [unspent.1, unspent.2]
  refine respects_bind ?_
  refine respects_command_bind trivial
    fun (found : Option RefreshTokenFamily) _ after read => ?_
  change Phase.checked .holding found = after at read
  subst read
  cases found with
  | none => exact ⟨_, rfl, rfl⟩
  | some family =>
    cases revoked : family.revoked with
    | false | true =>
      simp only [Option.map_some, Option.getD_some, revoked, Phase.checked]
      exact ⟨_, rfl, rfl⟩

/-- The outcome is no success yet, or the call has spent the token. -/
def Spends (phase : Phase) (outcome : Outcome RefreshResult) : Prop :=
  ∀ tokens, outcome = .ok (.success tokens) → phase = .spent

theorem rotate_respects : (RefreshService.rotate settings refreshToken data).Respects
      (discipline settings (settings.hashToken refreshToken)) Spends .holding := by
  refine respects_bind (markAsUsed_respects.mono fun phase outcome marked => ?_)
  cases outcome with
  | error error =>
    intro tokens succeeded
    cases succeeded
  | ok _ =>
    obtain rfl := marked rfl
    refine respects_bind ((settled_respects (.inl rfl) (generate_issues data)).mono ?_)
    rintro phase outcome rfl
    cases outcome with
    | error error =>
      intro tokens succeeded
      cases succeeded
    | ok tokenPair =>
      dsimp only
      split
      · refine respects_bind ((settled_respects (.inl rfl) revoke_issues).mono ?_)
        rintro phase outcome rfl
        cases outcome with
        | error error =>
          intro tokens succeeded
          cases succeeded
        | ok _ => exact fun _ _ => rfl
      · exact fun _ _ => rfl

theorem report_respects (result : ReuseDetector.ReuseDetectionResult) (code message : String) :
    (do
      ReuseDetector.handleReuse data result
      return RefreshResult.error code message : RefreshProgram RefreshResult).Respects
      (discipline settings tokenHash) Spends .lost := by
  refine respects_bind
    ((settled_respects (.inr rfl) (handleReuse_issues data result)).mono ?_)
  intro phase outcome _
  cases outcome with
  | error | ok =>
    intro tokens succeeded
    cases succeeded

theorem attempt_respects : (RefreshService.attempt settings refreshToken).Respects
      (discipline settings (settings.hashToken refreshToken)) Spends .fresh := by
  refine respects_command_bind trivial
    fun (validated : Except String Unit) _ after read => ?_
  obtain rfl : Phase.fresh = after := read
  refine respects_orThrow_bind (fun _ _ => ?_) fun error _ tokens succeeded => ?_
  · refine respects_command_bind trivial
      fun (found : Option RefreshTokenData) _ after read => ?_
    have moved : Phase.read .fresh found = after := (if_pos rfl).symm.trans read
    cases found with
    | none =>
      intro tokens succeeded
      cases succeeded
    | some data =>
      by_cases unspent : Unspent data
      · obtain rfl : Phase.holding = after := (if_pos unspent).symm.trans moved
        refine respects_bind ((detectReuse_respects unspent).mono ?_)
        rintro phase outcome ⟨result, rfl, checked⟩
        dsimp only
        split at checked
        · rename_i reuse
          subst checked
          rw [if_pos reuse]
          exact report_respects data result _ _
        · rename_i allowed
          subst checked
          rw [if_neg allowed]
          exact rotate_respects data
      · obtain rfl : Phase.lost = after := (if_neg unspent).symm.trans moved
        obtain ⟨result, detected, reuse⟩ := ReuseDetector.detectReuse_of_not_unspent unspent
        dsimp only [RefreshService.proceed]
        rw [detected]
        refine respects_bind (respects_pure ?_)
        dsimp only
        rw [if_pos reuse]
        exact report_respects data result _ _
  · cases succeeded

/-- Every call keeps to the discipline: it succeeds with the token only once it has
spent it. -/
theorem refresh_respects (settings : RefreshSettings) (tokenHash refreshToken : String) :
    (RefreshService.refresh settings refreshToken).Respects (discipline settings tokenHash)
      (ends settings tokenHash refreshToken) (first settings tokenHash refreshToken) := by
  by_cases presents : settings.hashToken refreshToken = tokenHash
  · subst presents
    rw [first, if_pos rfl]
    refine respects_catching (attempt_respects.mono fun phase outcome spends => ?_)
    cases outcome with
    | ok result => exact fun _ => spends
    | error error =>
      intro _ tokens succeeded
      cases succeeded
  · rw [first, if_neg presents]
    have issues : (RefreshService.refresh settings refreshToken).Issues
        (Confined (fun hash data => hash = tokenHash → ¬ Unspent data) fun _ => True)
        (discipline settings tokenHash).assumes := by
      refine RefreshService.refresh_issues ?_ ?_ (fun _ => trivial)
      · intro hash data flagged _
        exact not_unspent_of_flagged flagged
      · intro sessionId deviceId reply assumed generated issued data same
        exact absurd same (assumed generated issued)
    exact (settled_respects (.inr rfl) issues).mono fun _ _ _ same => absurd same presents

end Programs

section Runs

abbrev RefreshPool :=
  Pool RefreshStore RefreshCommand RefreshCommand.Reply String Phase RefreshResult

def machine : Transducer RefreshPool (Event RefreshOracle Nat String) Unit :=
  Pool.machine (refreshHost settings) (fun _ => discipline settings tokenHash)
    (first settings tokenHash)

/-- The call has read the record as unspent, and may succeed or have succeeded with it. -/
def Phase.Claims (phase : Phase) : Prop := phase = .holding ∨ phase = .spent

/-- The record cannot be read as unspent. -/
def Dead (store : RefreshStore) : Prop :=
  ∀ data, store.tokens.lookup store.now tokenHash = some data → ¬ Unspent data

/-- The condition on a command of a call in the given phase. The first read of the record
finds it unspent only while no call is holding it; `TTL` does not round the rest of its
life down to zero seconds when it is to be marked; a generated token is another one. -/
def CarefulCommand
    (calls : List (Call RefreshCommand RefreshCommand.Reply String Phase RefreshResult))
    (store : RefreshStore) (oracle : RefreshOracle) (phase : Phase) : RefreshCommand → Prop
  | .token (.get hash) => hash = tokenHash → phase = .fresh →
      (∃ data ∈ store.tokens.lookup store.now tokenHash, Unspent data) →
        ∀ call ∈ calls, call.phase ≠ .holding
  | .token (.ttl hash) => hash = tokenHash → phase = .holding →
      store.tokens.lookup store.now tokenHash ≠ none →
        0 < store.tokens.ttl store.now tokenHash
  | .generateAccessToken _ _ => ∀ generated ∈ oracle.generated.toOption,
      settings.hashToken generated.tokens.refreshToken ≠ tokenHash
  | _ => True

def Careful (pool : RefreshPool) :
    Event RefreshOracle Nat String → Prop
  | .run index oracle => ∀ awaiting ∈ pool.awaited? index,
      CarefulCommand settings tokenHash pool.calls pool.shared oracle awaiting.1.phase awaiting.2
  | _ => True

instance {calls : List (Call RefreshCommand RefreshCommand.Reply String Phase RefreshResult)}
    {store : RefreshStore} {oracle : RefreshOracle} {phase : Phase} (command : RefreshCommand) :
    Decidable (CarefulCommand settings tokenHash calls store oracle phase command) :=
  match command with
  | .token (.get _) =>
    inferInstanceAs (Decidable (_ → _ → (∃ data ∈ _, Unspent data) → ∀ call ∈ _, _))
  | .token (.ttl _) => inferInstanceAs (Decidable (_ → _ → _ → _))
  | .generateAccessToken _ _ => inferInstanceAs (Decidable (∀ generated ∈ _, _))
  | .validate _ | .family _ | .userTokens _ | .token (.setex _ _ _) | .token (.del _) =>
    .isTrue trivial

instance (pool : RefreshPool)
    (event : Event RefreshOracle Nat String) : Decidable (Careful settings tokenHash pool event) :=
  match event with
  | .run _ _ => inferInstanceAs (Decidable (∀ awaiting ∈ _, _))
  | .start _ | .change _ => .isTrue trivial

/-- At most one call claims the token, and a record that has been spent is dead. -/
structure ClaimedOnce
    (pool : RefreshPool) :
    Prop where
  claims : pool.Exclusive Phase.Claims
  dead : ∀ call ∈ pool.calls, call.phase = .spent → Dead tokenHash pool.shared

variable {settings tokenHash} {store : RefreshStore} {oracle : RefreshOracle}
  {calls : List (Call RefreshCommand RefreshCommand.Reply String Phase RefreshResult)}
  {command : RefreshCommand} {phase : Phase}

theorem fresh_or_read (reply : command.Reply) :
    nextPhase tokenHash .fresh command reply = .fresh ∨ command = .token (.get tokenHash) := by
  cases command with
  | validate | generateAccessToken | userTokens => exact .inl rfl
  | family command => cases command <;> exact .inl rfl
  | token command =>
    cases command with
    | del => exact .inl rfl
    | ttl | setex => exact .inl (ite_self _)
    | get hash =>
      by_cases same : hash = tokenHash
      · exact .inr (same ▸ rfl)
      · exact .inl (if_neg same)

theorem claims_of_exec
    (claims : (nextPhase tokenHash phase command (store.exec oracle command).2).Claims) :
    phase.Claims ∨ phase = .fresh ∧ command = .token (.get tokenHash) ∧
      ∃ data ∈ store.tokens.lookup store.now tokenHash, Unspent data := by
  cases phase with
  | holding => exact .inl (.inl rfl)
  | spent => exact .inl (.inr rfl)
  | lost =>
    rw [nextPhase_of_settled (.inr rfl)] at claims
    exact .inl claims
  | fresh =>
    right
    rcases @fresh_or_read tokenHash command (store.exec oracle command).2 with same | rfl
    · rw [same] at claims
      rcases claims with holding | spent
      · cases holding
      · cases spent
    · refine ⟨rfl, rfl, ?_⟩
      change (if tokenHash = tokenHash then
        Phase.read .fresh (store.tokens.lookup store.now tokenHash) else .fresh).Claims at claims
      rw [if_pos rfl] at claims
      cases found : store.tokens.lookup store.now tokenHash with
      | none =>
        rw [found] at claims
        rcases claims with holding | spent
        · cases holding
        · cases spent
      | some data =>
        refine ⟨data, rfl, ?_⟩
        by_contra flagged
        rw [found, Phase.read, if_neg flagged] at claims
        rcases claims with holding | spent
        · cases holding
        · cases spent

theorem dead_exec (dead : Dead tokenHash store)
    (may : (discipline settings tokenHash).may phase command) :
    Dead tokenHash (store.exec oracle command).1 := by
  intro data found
  rw [RefreshStore.now_exec] at found
  rcases RefreshStore.lookup_token_exec found with before | ⟨seconds, rfl⟩
  · exact dead data before
  · exact may rfl

theorem dead_of_none (absent : store.tokens.lookup store.now tokenHash = none) :
    Dead tokenHash store := by
  intro data found
  rw [absent] at found
  cases found

theorem checked_ne_spent (found : Option RefreshTokenFamily) :
    Phase.checked .holding found ≠ .spent := by
  cases found with
  | none => nofun
  | some family =>
    rw [Phase.checked]
    split <;> nofun

theorem claims_of_spent {reply : command.Reply}
    (spent : nextPhase tokenHash phase command reply = .spent) : phase.Claims := by
  cases phase with
  | holding => exact .inl rfl
  | spent => exact .inr rfl
  | lost =>
    rw [nextPhase_of_settled (.inr rfl)] at spent
    cases spent
  | fresh =>
    rcases @fresh_or_read tokenHash command reply with same | rfl
    · rw [same] at spent
      cases spent
    · change (if tokenHash = tokenHash then Phase.read .fresh reply else .fresh) = .spent at spent
      rw [if_pos rfl] at spent
      cases reply with
      | none => cases spent
      | some data =>
        rw [Phase.read] at spent
        split at spent <;> cases spent

/-- Only a holding call comes to have spent the token, and then the record is dead. -/
theorem dead_of_spent
    (careful : CarefulCommand settings tokenHash calls store oracle .holding command)
    (may : (discipline settings tokenHash).may .holding command)
    (spent : nextPhase tokenHash .holding command (store.exec oracle command).2 = .spent) :
    Dead tokenHash (store.exec oracle command).1 := by
  cases command with
  | validate | generateAccessToken | userTokens => cases spent
  | family command =>
    cases command with
    | get => exact absurd spent (checked_ne_spent _)
    | setex | ttl | del => cases spent
  | token command =>
    cases command with
    | del => cases spent
    | get hash =>
      change (if hash = tokenHash then Phase.read .holding (store.tokens.lookup store.now hash)
        else .holding) = .spent at spent
      split at spent
      · rename_i same
        subst same
        cases found : store.tokens.lookup store.now hash with
        | none => exact dead_of_none found
        | some data =>
          rw [found] at spent
          cases spent
      · cases spent
    | ttl hash =>
      change (if hash = tokenHash then Phase.timed .holding (store.tokens.ttl store.now hash)
        else .holding) = .spent at spent
      split at spent
      · rename_i same
        subst same
        by_contra alive
        have positive := careful rfl rfl fun absent => alive (dead_of_none absent)
        rw [Phase.timed, if_neg (by omega)] at spent
        cases spent
      · cases spent
    | setex hash seconds written =>
      change (if hash = tokenHash then
        Phase.marked .holding
          (exec store.tokens store.now (.setex hash seconds written)).2
        else .holding) = .spent at spent
      split at spent
      · rename_i same
        subst same
        cases outcome :
          (exec store.tokens store.now (.setex hash seconds written)).2 with
        | error error =>
          rw [outcome] at spent
          cases spent
        | ok _ =>
          intro data found
          rw [lookup_setex_self outcome found]
          exact may rfl
      · cases spent

theorem first_not_claims (refreshToken : String) :
    ¬ (first settings tokenHash refreshToken).Claims := by
  unfold first
  split
  · rintro (holding | spent)
    · cases holding
    · cases spent
  · rintro (holding | spent)
    · cases holding
    · cases spent

variable {pool : RefreshPool}

theorem ClaimedOnce.start (once : ClaimedOnce tokenHash pool) (refreshToken : String) :
    ClaimedOnce tokenHash
      (pool.start (refreshHost settings) (first settings tokenHash) refreshToken) := by
  constructor
  · exact once.claims.start (first_not_claims refreshToken)
  · intro call member spent
    rcases Pool.mem_start member with earlier | rfl
    · exact once.dead call earlier spent
    · exact absurd (.inr spent) (first_not_claims refreshToken)

theorem ClaimedOnce.change (once : ClaimedOnce tokenHash pool) (elapsed : Nat) :
    ClaimedOnce tokenHash
      { pool with shared := (refreshHost settings).change pool.shared elapsed } :=
  ⟨once.claims, fun call member spent data found =>
    once.dead call member spent data (ExpiringMap.lookup_of_later (Nat.le_add_right _ _) found)⟩

theorem ClaimedOnce.resume (once : ClaimedOnce tokenHash pool) {index : Nat}
    {call : Call RefreshCommand RefreshCommand.Reply String Phase RefreshResult}
    {next : command.Reply → RefreshProgram RefreshResult}
    (careful : CarefulCommand settings tokenHash pool.calls pool.shared oracle call.phase command)
    (present : pool.calls[index]? = some call)
    (may : (discipline settings tokenHash).may call.phase command) :
    ClaimedOnce tokenHash (pool.resume (fun _ => discipline settings tokenHash) index call command
      next (pool.shared.exec oracle command)) := by
  constructor
  · refine once.claims.resume present fun claims => ?_
    rcases claims_of_exec claims with held | ⟨fresh, rfl, unspent⟩
    · exact .inl held
    · right
      rintro other member (holding | spent)
      · exact careful rfl fresh unspent other member holding
      · obtain ⟨data, found, unspent⟩ := unspent
        exact once.dead other member spent data found unspent
  · intro other member spent
    rcases List.mem_or_eq_of_mem_set member with kept | rfl
    · exact dead_exec (once.dead other kept spent) may
    · rcases claims_of_spent spent with holding | before
      · rw [holding] at careful may spent
        exact dead_of_spent careful may spent
      · exact dead_exec (once.dead call (List.mem_of_getElem? present) before) may

theorem assumes_of_careful
    (careful : CarefulCommand settings tokenHash calls store oracle phase command) :
    (discipline settings tokenHash).assumes command (store.exec oracle command).2 := by
  cases command with
  | validate | token | family | userTokens => trivial
  | generateAccessToken sessionId deviceId =>
    intro generated issued
    refine careful generated ?_
    rw [show oracle.generated = .ok generated from issued]
    rfl

theorem claimedOnce_of_careful {store : RefreshStore}
    {events : List (Event RefreshOracle Nat String)}
    (careful : (machine settings tokenHash).Admits (Careful settings tokenHash) ⟨store, []⟩
      events) : ((machine settings tokenHash).run ⟨store, []⟩ events).Respectful
        (fun _ => discipline settings tokenHash) (ends settings tokenHash) ∧
      ClaimedOnce tokenHash ((machine settings tokenHash).run ⟨store, []⟩ events) := by
  refine Pool.invariant (refresh_respects settings tokenHash) ?_ ?_ ?_ careful ?_ ?_
  · intro pool refreshToken once _
    exact once.start refreshToken
  · intro pool elapsed once _
    exact once.change elapsed
  · intro pool index oracle call command next once guarded present awaits may
    have careful := guarded _ (Pool.awaited?_of_await present awaits)
    exact ⟨assumes_of_careful careful, once.resume careful present may⟩
  · intro call member
    cases member
  · constructor
    · intro index other call call' present
      cases present
    · intro call member
      cases member

end Runs

/-- The call at `index` presented `refreshToken` and returned success with a new pair. -/
def Succeeded (pool : RefreshPool)
    (refreshToken : String) (index : Nat) (tokens : TokenPair) : Prop :=
  ∃ call ∈ pool.calls[index]?, call.input = refreshToken ∧
    call.program.outcome? = some (.ok (.success tokens))

instance {pool : RefreshPool}
    {refreshToken : String} {index : Nat} {tokens : TokenPair} :
    Decidable (Succeeded pool refreshToken index tokens) :=
  inferInstanceAs (Decidable (∃ call ∈ _, _))

/-- In every interleaving of careful commands, from any contents of the store, at most one
of the calls that present a token succeeds. -/
theorem at_most_one_success (settings : RefreshSettings) (refreshToken : String)
    (store : RefreshStore) (events : List (Event RefreshOracle Nat String))
    (careful : (machine settings (settings.hashToken refreshToken)).Admits
      (Careful settings (settings.hashToken refreshToken)) ⟨store, []⟩ events)
    (index other : Nat) (tokens tokens' : TokenPair) (succeeded : Succeeded
      ((machine settings (settings.hashToken refreshToken)).run ⟨store, []⟩ events) refreshToken
      index tokens) (succeeded' : Succeeded
      ((machine settings (settings.hashToken refreshToken)).run ⟨store, []⟩ events) refreshToken
      other tokens') :
    index = other := by
  obtain ⟨respectful, once⟩ := claimedOnce_of_careful careful
  obtain ⟨call, present, rfl, ended⟩ := succeeded
  obtain ⟨call', present', same, ended'⟩ := succeeded'
  have spent := respectful.ends_of_outcome present ended rfl tokens rfl
  have spent' := respectful.ends_of_outcome present' ended' (congrArg _ same) tokens' rfl
  exact once.claims index other call call' present present' (.inr spent) (.inr spent')

section Sample

def sampleStore : RefreshStore where
  now := 0
  tokens := .ofList [("t", ⟨⟨"u", "s", "d", "f", none, 0, 100, false, false⟩, some 100000⟩)]
  families := .ofList [("f", ⟨⟨"f", "u", 0, ["t"], false⟩, some 200000⟩)]
  userTokens := .empty

def sampleOracle (name : String) : RefreshOracle where
  validated := .ok ()
  generated := .ok ⟨⟨"access" ++ name, "refresh" ++ name, 10, 100⟩, "id" ++ name, fun _ => 5000⟩

def turns (index count : Nat) : List (Event RefreshOracle Nat String) :=
  List.replicate count (.run index (sampleOracle (toString index)))

def sampleEvents : List (Event RefreshOracle Nat String) :=
  [.start "t", .start "t"] ++ turns 1 1 ++ turns 0 6 ++ turns 1 8 ++ turns 0 10

def racingEvents : List (Event RefreshOracle Nat String) :=
  [.start "t", .start "t"] ++ turns 0 2 ++ turns 1 2 ++ turns 0 14 ++ turns 1 14

set_option maxRecDepth 4000 in
theorem at_most_one_success_of_sample :
    Succeeded ((machine ⟨id, true⟩ "t").run ⟨sampleStore, []⟩ sampleEvents) "t" 0
        ⟨"access0", "refresh0", 10, 100⟩ ∧
      ∀ other tokens, Succeeded ((machine ⟨id, true⟩ "t").run ⟨sampleStore, []⟩ sampleEvents) "t"
        other tokens → 0 = other :=
  have first : Succeeded ((machine ⟨id, true⟩ "t").run ⟨sampleStore, []⟩ sampleEvents) "t" 0
      ⟨"access0", "refresh0", 10, 100⟩ := by decide
  ⟨first, fun other tokens =>
    at_most_one_success ⟨id, true⟩ "t" sampleStore sampleEvents (by decide)
    0 other _ tokens first⟩

set_option maxRecDepth 4000 in
/-- Both racing calls succeed. -/
theorem racing_calls_succeed : ¬ ∀ index other tokens tokens',
      Succeeded ((machine ⟨id, true⟩ "t").run ⟨sampleStore, []⟩ racingEvents) "t" index tokens →
      Succeeded ((machine ⟨id, true⟩ "t").run ⟨sampleStore, []⟩ racingEvents) "t" other tokens' →
        index = other := by
  intro single
  have same := single 0 1 ⟨"access0", "refresh0", 10, 100⟩ ⟨"access1", "refresh1", 10, 100⟩
    (by decide) (by decide)
  cases same

end Sample

end Caas.Auth.SingleUse
