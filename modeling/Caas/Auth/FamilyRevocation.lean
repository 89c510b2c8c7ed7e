import Caas.Auth.RefreshCommands

/-!
# Finality of family revocation

Reuse of a token revokes its family and then the tokens in the index of its user.
The phases below follow the calls on tokens of one family. A call that presents an
unspent token consults the family twice: before it rotates the token, and when it
adds the new token to the family, writing back what it has read.

Revocation is final in either of two ways. All tokens of the family are spent and
no call holds one that was not; such calls are the only ones that store new tokens.
Or the family is revoked and no call is past its first look at it; this lasts until
the family expires, from when on a rotation fails when it adds its token, since
nothing brings the family back.
-/

namespace Caas.Auth.FamilyRevocation

open Async Program Redis RefreshTokenStore

/-- Where a call stands with the family: it has not read the record of its token, that record
is missing or of another family, it has read it as unspent, it has found the family not
revoked, it has read the family to add a token, or it reports the reuse of the token. -/
inductive Phase where
  | unread
  | elsewhere
  | held
  | passed
  | adding
  | reporting
deriving DecidableEq

variable (settings : RefreshSettings) (familyId : String)

def Phase.read : Phase → Option RefreshTokenData → Phase
  | .unread, some data =>
    if data.familyId = familyId then if Unspent data then .held else .reporting else .elsewhere
  | .unread, none => .elsewhere
  | phase, _ => phase

def Phase.consulted : Phase → Option RefreshTokenFamily → Phase
  | .held, found => if (found.map (·.revoked)).getD false then .reporting else .passed
  | .passed, some _ => .adding
  | phase, _ => phase

def nextPhase (phase : Phase) : (command : RefreshCommand) → command.Reply → Phase
  | .token (.get _), found => phase.read familyId found
  | .family (.get id), found => if id = familyId then phase.consulted found else phase
  | _, _ => phase

/-- The family is written by calls that add a token, or as revoked. -/
def familyMay (phase : Phase) : StringCommand String RefreshTokenFamily → Prop
  | .setex id _ family => id = familyId → phase = .adding ∨ family.revoked = true
  | .del id => id ≠ familyId
  | _ => True

/-- Unspent tokens of the family are stored only by calls that have passed its check. -/
def discipline : Discipline RefreshCommand RefreshCommand.Reply Phase where
  next := nextPhase familyId
  may phase := Confined
    (fun _ data => data.familyId = familyId → Unspent data → phase = .passed)
    (familyMay familyId phase)
  assumes _ _ := True

/-- With rotation, a call on the family succeeds only after it has read the family to add its
token. -/
def ends (phase : Phase) (outcome : Outcome RefreshResult) : Prop :=
  ∀ tokens, outcome = .ok (.success tokens) →
    phase = .elsewhere ∨ phase = .adding ∨ settings.rotationEnabled = false ∧ phase = .passed

section Programs

variable {settings familyId} {refreshToken : String} {phase : Phase} {data : RefreshTokenData}

theorem nextPhase_of_settled (settled : phase = .elsewhere ∨ phase = .adding ∨ phase = .reporting)
    (command : RefreshCommand) (reply : command.Reply) :
    nextPhase familyId phase command reply = phase := by
  cases command with
  | validate | generateAccessToken | userTokens => rfl
  | token command => cases command <;> rcases settled with rfl | rfl | rfl <;> rfl
  | family command =>
    cases command with
    | ttl | setex | del => rfl
    | get id => rcases settled with rfl | rfl | rfl <;> exact ite_self _

theorem settled_respects {α : Type} {program : RefreshProgram α}
    {tokenWrite : String → RefreshTokenData → Prop}
    {familyCommand : StringCommand String RefreshTokenFamily → Prop}
    (settled : phase = .elsewhere ∨ phase = .adding ∨ phase = .reporting)
    (issues : program.Issues (Confined tokenWrite familyCommand) fun _ _ => True)
    (tokens : ∀ tokenHash data, tokenWrite tokenHash data → data.familyId = familyId →
      ¬ Unspent data)
    (families : ∀ command, familyCommand command → familyMay familyId phase command) :
    program.Respects (discipline familyId) (fun final _ => final = phase) phase := by
  refine issues.respects (fun command allowed => ?_) fun command reply _ =>
    nextPhase_of_settled settled command reply
  refine allowed.mono (fun tokenHash data written same unspent => ?_) families
  exact absurd unspent (tokens tokenHash data written same)

theorem passed_respects {α : Type} {program : RefreshProgram α}
    (issues : program.Issues (Confined (fun _ _ => True) fun _ => False) fun _ _ => True) :
    program.Respects (discipline familyId) (fun final _ => final = .passed) .passed := by
  refine issues.respects (fun command allowed => ?_) fun command reply allowed => ?_
  · exact allowed.mono (fun _ _ _ _ _ => rfl) fun _ none => none.elim
  · cases command with
    | validate | generateAccessToken | userTokens => rfl
    | token command => cases command <;> rfl
    | family command => exact allowed.elim

/-- The outcome is no success, or the phase is one in which a call may end in one. -/
def Succeeds (settings : RefreshSettings) {α : Type} (phase : Phase) (outcome : Outcome α) :
    Prop :=
  ∀ value, outcome = .ok value →
    phase = .adding ∨ settings.rotationEnabled = false ∧ phase = .passed

theorem addTokenToFamily_respects (tokenId : String) :
    (FamilyTracker.addTokenToFamily familyId tokenId).Respects (discipline familyId)
      (fun phase outcome => ∀ value, outcome = .ok value → phase = .adding) .passed := by
  refine respects_command_bind trivial
    fun (found : Option RefreshTokenFamily) _ after read => ?_
  have moved : Phase.consulted .passed found = after := (if_pos rfl).symm.trans read
  cases found with
  | none => nofun
  | some family =>
    obtain rfl : Phase.adding = after := moved
    have issues : (FamilyTracker.writeBack familyId (family.withToken tokenId)).Issues
        (Confined (fun _ _ => False) (familyMay familyId .adding)) fun _ _ => True :=
      FamilyTracker.writeBack_issues ⟨trivial, trivial, fun _ _ _ => .inl rfl⟩
    refine (settled_respects (.inr (.inl rfl)) issues (fun _ _ never => never.elim)
      fun _ may => may).mono ?_
    intro phase outcome final _ _
    exact final

theorem generateNewTokenPair_respects (data : RefreshTokenData) :
    (RefreshService.generateNewTokenPair settings data).Respects (discipline data.familyId)
      (Succeeds settings) .passed := by
  refine respects_command_bind trivial
    fun (reply : Except String Generated) _ after read => ?_
  obtain rfl : Phase.passed = after := read
  refine respects_orThrow_bind (fun generated _ => ?_) fun error _ => nofun
  cases rotation : settings.rotationEnabled with
  | false => exact fun _ _ => .inr ⟨rotation, rfl⟩
  | true =>
    refine respects_bind
      ((passed_respects (store_issues trivial)).mono ?_)
    rintro phase outcome rfl
    cases outcome with
    | error error => nofun
    | ok _ =>
      refine respects_bind
        ((addTokenToFamily_respects _).mono fun phase outcome added => ?_)
      cases outcome with
      | error error => nofun
      | ok value => exact fun _ _ => .inl (added value rfl)

theorem rotate_respects (data : RefreshTokenData) :
    (RefreshService.rotate settings refreshToken data).Respects (discipline data.familyId)
      (Succeeds settings) .passed := by
  refine respects_bind ((passed_respects
    (markAsUsed_issues fun _ => trivial)).mono ?_)
  rintro phase outcome rfl
  cases outcome with
  | error error => nofun
  | ok _ =>
    refine respects_bind ((generateNewTokenPair_respects data).mono ?_)
    intro phase outcome generated
    cases outcome with
    | error error => nofun
    | ok tokenPair =>
      have generated := generated tokenPair rfl
      cases rotation : settings.rotationEnabled with
      | false => exact fun _ _ => generated
      | true =>
        obtain rfl : phase = .adding := generated.resolve_right fun disabled => by
          rw [rotation] at disabled
          cases disabled.1
        have issues : (revoke settings refreshToken).Issues
            (Confined (fun _ data => ¬ Unspent data) fun _ => False) fun _ _ => True :=
          revoke_issues fun data => not_unspent_of_revoked data
        refine respects_bind ((settled_respects (.inr (.inl rfl)) issues
          (fun _ _ flagged _ => flagged) fun _ none => none.elim).mono ?_)
        rintro phase outcome rfl
        cases outcome with
        | error error => nofun
        | ok _ => exact fun _ _ => .inl rfl

theorem report_respects (result : ReuseDetector.ReuseDetectionResult) (code message : String) :
    (do
      ReuseDetector.handleReuse data result
      return RefreshResult.error code message : RefreshProgram RefreshResult).Respects
      (discipline familyId) (ends settings) .reporting := by
  have issues : (ReuseDetector.handleReuse data result).Issues
      (Confined (fun _ data => ¬ Unspent data) (familyMay familyId .reporting)) fun _ _ => True :=
    ReuseDetector.handleReuse_issues (fun _ data => not_unspent_of_revoked data)
      ⟨trivial, trivial, fun _ _ _ => .inr rfl⟩ result
  refine respects_bind ((settled_respects (.inr (.inr rfl)) issues
    (fun _ _ flagged _ => flagged) fun _ may => may).mono fun phase outcome _ => ?_)
  cases outcome with
  | error | ok => nofun

theorem proceed_respects_of_unspent (unspent : Unspent data) :
    (RefreshService.proceed settings refreshToken data).Respects (discipline data.familyId)
      (ends settings) .held := by
  unfold RefreshService.proceed ReuseDetector.detectReuse
  rw [unspent.1, unspent.2]
  refine respects_bind (respects_bind ?_)
  refine respects_command_bind trivial
    fun (found : Option RefreshTokenFamily) _ after read => ?_
  have moved : Phase.consulted .held found = after := (if_pos rfl).symm.trans read
  cases revoked : (found.map (·.revoked)).getD false with
  | true =>
    obtain rfl : Phase.reporting = after := (if_pos revoked).symm.trans moved
    exact report_respects _ _ _
  | false =>
    obtain rfl : Phase.passed = after := (if_neg (by simp [revoked])).symm.trans moved
    exact (rotate_respects data).mono fun phase outcome succeeds tokens succeeded =>
      .inr (succeeds _ succeeded)

theorem proceed_respects_of_spent (spent : ¬ Unspent data) :
    (RefreshService.proceed settings refreshToken data).Respects (discipline familyId)
      (ends settings) .reporting := by
  obtain ⟨result, detected, reuse⟩ := ReuseDetector.detectReuse_of_not_unspent spent
  unfold RefreshService.proceed
  rw [detected]
  refine respects_bind (respects_pure ?_)
  dsimp only
  rw [if_pos reuse]
  exact report_respects _ _ _

theorem proceed_respects_of_other (other : data.familyId ≠ familyId) :
    (RefreshService.proceed settings refreshToken data).Respects (discipline familyId)
      (ends settings) .elsewhere := by
  have issues : (RefreshService.proceed settings refreshToken data).Issues
      (Confined (fun _ written => written.familyId = familyId → ¬ Unspent written)
        (familyMay familyId .elsewhere)) fun _ _ => True := by
    refine RefreshService.proceed_issues ?_ ?_ fun rewrite =>
      ⟨trivial, trivial, fun _ _ same => absurd same other⟩
    · intro _ written flagged _
      exact not_unspent_of_flagged flagged
    · intro _ _ reply _ generated _ written same own
      exact absurd (same.symm.trans own) other
  exact (settled_respects (.inl rfl) issues (fun _ _ flagged => flagged) fun _ may => may).mono
    fun phase outcome final _ _ => .inl final

theorem attempt_respects (familyId refreshToken : String) :
    (RefreshService.attempt settings refreshToken).Respects (discipline familyId)
      (ends settings) .unread := by
  refine respects_command_bind trivial
    fun (validated : Except String Unit) _ after read => ?_
  obtain rfl : Phase.unread = after := read
  refine respects_orThrow_bind (fun _ _ => ?_) fun error _ => nofun
  refine respects_command_bind trivial
    fun (found : Option RefreshTokenData) _ after read => ?_
  have moved : Phase.read familyId .unread found = after := read
  cases found with
  | none => nofun
  | some data =>
    by_cases own : data.familyId = familyId
    · subst own
      have moved := (if_pos rfl).symm.trans moved
      by_cases unspent : Unspent data
      · obtain rfl : Phase.held = after := (if_pos unspent).symm.trans moved
        exact proceed_respects_of_unspent unspent
      · obtain rfl : Phase.reporting = after := (if_neg unspent).symm.trans moved
        exact proceed_respects_of_spent unspent
    · obtain rfl : Phase.elsewhere = after := (if_neg own).symm.trans moved
      exact proceed_respects_of_other own

theorem refresh_respects (settings : RefreshSettings) (familyId refreshToken : String) :
    (RefreshService.refresh settings refreshToken).Respects (discipline familyId)
      (ends settings) .unread := by
  refine respects_catching ((attempt_respects familyId refreshToken).mono ?_)
  intro phase outcome succeeds
  cases outcome with
  | ok result => exact succeeds
  | error error => nofun

end Programs

section Runs

abbrev RefreshPool :=
  Pool RefreshStore RefreshCommand RefreshCommand.Reply String Phase RefreshResult

def machine : Transducer RefreshPool (Event RefreshOracle Nat String) Unit :=
  Pool.machine (refreshHost settings) (fun _ => discipline familyId) (fun _ => .unread)

/-- No call still in progress is in one of the phases. -/
def NoneUnfinished (pool : RefreshPool) (phases : List Phase) : Prop :=
  ∀ call ∈ pool.calls, call.program.outcome? = none → call.phase ∉ phases

/-- All tokens of the family are spent, and no call in progress holds one that was not. -/
def TokensSpent (pool : RefreshPool) : Prop :=
  (∀ tokenHash data, pool.shared.tokens.lookup pool.shared.now tokenHash = some data →
    data.familyId = familyId → ¬ Unspent data) ∧
  NoneUnfinished pool [.held, .passed, .adding]

/-- The family is revoked or gone, and no call in progress is past its check. -/
def FamilyRevoked (pool : RefreshPool) : Prop :=
  (∀ family ∈ pool.shared.families.lookup pool.shared.now familyId, family.revoked = true) ∧
  NoneUnfinished pool [.passed, .adding]

/-- The condition on a command of a call in the given phase: the family is written only while
it exists and, without rotation, checked only while it exists. -/
def CarefulCommand (store : RefreshStore) (phase : Phase) : RefreshCommand → Prop
  | .family (.setex id _ _) => id = familyId → store.families.lookup store.now familyId ≠ none
  | .family (.get id) => id = familyId → phase = .held → settings.rotationEnabled = false →
      store.families.lookup store.now familyId ≠ none
  | _ => True

def Careful (pool : RefreshPool) : Event RefreshOracle Nat String → Prop
  | .run index _ => ∀ awaiting ∈ pool.awaited? index,
      CarefulCommand settings familyId pool.shared awaiting.1.phase awaiting.2
  | _ => True

variable {settings familyId} {store : RefreshStore} {oracle : RefreshOracle}
  {command : RefreshCommand} {phase : Phase} {pool : RefreshPool}

/-- The phases to which a command can lead from `phase`, and what it takes. -/
inductive Moves (familyId : String) (store : RefreshStore) (command : RefreshCommand)
    (phase : Phase) : Phase → Prop
  | stays : Moves familyId store command phase phase
  | leaves : Moves familyId store command phase .elsewhere
  | reports : Moves familyId store command phase .reporting
  | holds {tokenHash : String} {data : RefreshTokenData}
      (found : store.tokens.lookup store.now tokenHash = some data)
      (own : data.familyId = familyId) (unspent : Unspent data) :
      Moves familyId store command phase .held
  | passes (held : phase = .held) (reads : command = .family (.get familyId))
      (unrevoked : ∀ family ∈ store.families.lookup store.now familyId, family.revoked = false) :
      Moves familyId store command phase .passed
  | adds (passed : phase = .passed)
      (exist : store.families.lookup store.now familyId ≠ none) :
      Moves familyId store command phase .adding

theorem moves_read (phase : Phase) (tokenHash : String) : Moves familyId store command phase
      (phase.read familyId (store.tokens.lookup store.now tokenHash)) := by
  cases phase with
  | unread =>
    cases found : store.tokens.lookup store.now tokenHash with
    | none => exact .leaves
    | some data =>
      by_cases own : data.familyId = familyId
      · by_cases unspent : Unspent data
        · rw [Phase.read, if_pos own, if_pos unspent]
          exact .holds found own unspent
        · rw [Phase.read, if_pos own, if_neg unspent]
          exact .reports
      · rw [Phase.read, if_neg own]
        exact .leaves
  | elsewhere | held | passed | adding | reporting => exact .stays

theorem moves_consulted (phase : Phase) (reads : command = .family (.get familyId)) :
    Moves familyId store command phase
      (phase.consulted (store.families.lookup store.now familyId)) := by
  cases phase with
  | unread | elsewhere | adding | reporting => exact .stays
  | held =>
    cases found : store.families.lookup store.now familyId with
    | none => exact .passes rfl reads (by simp [found])
    | some family =>
      cases revoked : family.revoked with
      | true =>
        rw [Phase.consulted, if_pos (by simp [revoked])]
        exact .reports
      | false =>
        rw [Phase.consulted, if_neg (by simp [revoked])]
        exact .passes rfl reads (by simp [found, revoked])
  | passed =>
    cases found : store.families.lookup store.now familyId with
    | none => exact .stays
    | some family => exact .adds rfl (by simp [found])

theorem moves (familyId : String) (phase : Phase) (store : RefreshStore) (oracle : RefreshOracle)
    (command : RefreshCommand) : Moves familyId store command phase
      (nextPhase familyId phase command (store.exec oracle command).2) := by
  cases command with
  | validate | generateAccessToken | userTokens => exact .stays
  | token command =>
    cases command with
    | ttl | setex | del => exact .stays
    | get tokenHash => exact moves_read phase tokenHash
  | family command =>
    cases command with
    | ttl | setex | del => exact .stays
    | get id =>
      by_cases same : id = familyId
      · subst same
        rw [show nextPhase id phase (.family (.get id)) (store.exec oracle (.family (.get id))).2 =
          phase.consulted (store.families.lookup store.now id) from if_pos rfl]
        exact moves_consulted phase rfl
      · rw [show nextPhase familyId phase (.family (.get id))
          (store.exec oracle (.family (.get id))).2 = phase from if_neg same]
        exact .stays

section Spent

/-- All tokens of the family are spent, and no call but those of `done` holds one that was not. -/
structure Spent (familyId : String) (done : Nat → Prop) (pool : RefreshPool) : Prop where
  tokens : ∀ tokenHash data, pool.shared.tokens.lookup pool.shared.now tokenHash = some data →
    data.familyId = familyId → ¬ Unspent data
  calls : pool.Apart done fun phase => phase ∉ [Phase.held, Phase.passed, Phase.adding]

variable {done : Nat → Prop}

theorem Spent.start (spent : Spent familyId done pool) (refreshToken : String) :
    Spent familyId done (pool.start (refreshHost settings) (fun _ => .unread) refreshToken) :=
  ⟨spent.tokens, spent.calls.start (by decide)⟩

theorem Spent.change (spent : Spent familyId done pool) (elapsed : Nat) : Spent familyId done
      { pool with shared := (refreshHost settings).change pool.shared elapsed } :=
  ⟨fun tokenHash data found =>
    spent.tokens tokenHash data (ExpiringMap.lookup_of_later (Nat.le_add_right _ _) found),
    spent.calls.change _⟩

theorem Spent.resume (spent : Spent familyId done pool) {index : Nat}
    {call : Call RefreshCommand RefreshCommand.Reply String Phase RefreshResult}
    {next : command.Reply → RefreshProgram RefreshResult}
    (present : pool.calls[index]? = some call) (awaits : call.program = .await command next)
    (may : (discipline familyId).may call.phase command) :
    Spent familyId done (pool.resume (fun _ => discipline familyId) index call command
      next (pool.shared.exec oracle command)) := by
  have idle := spent.calls.of_await present awaits
  constructor
  · intro tokenHash data found own unspent
    change (pool.shared.exec oracle command).1.tokens.lookup
      (pool.shared.exec oracle command).1.now tokenHash = some data at found
    rw [RefreshStore.now_exec] at found
    rcases RefreshStore.lookup_token_exec found with before | ⟨seconds, rfl⟩
    · exact spent.tokens tokenHash data before own unspent
    · have passed : call.phase = .passed := may own unspent
      simp [passed] at idle
  · refine spent.calls.resume present awaits (fun _ same => same) ?_
    change nextPhase familyId call.phase command (pool.shared.exec oracle command).2 ∉ _
    have moved := moves familyId call.phase pool.shared oracle command
    generalize nextPhase familyId call.phase command (pool.shared.exec oracle command).2 = after
      at moved ⊢
    cases moved with
    | stays => exact idle
    | leaves | reports => decide
    | holds found own unspent => exact absurd unspent (spent.tokens _ _ found own)
    | passes held => simp [held] at idle
    | adds passed => simp [passed] at idle

end Spent

section Barred

/-- The family is revoked and no call but those of `done` is past its check; or the family is
gone, and none of those has read it to add a token, or has passed its check without rotation. -/
inductive Barred (settings : RefreshSettings) (familyId : String) (done : Nat → Prop)
    (pool : RefreshPool) : Prop
  | revoked (family : RefreshTokenFamily)
      (found : pool.shared.families.lookup pool.shared.now familyId = some family)
      (revoked : family.revoked = true)
      (calls : pool.Apart done fun phase => phase ∉ [Phase.passed, Phase.adding])
  | gone (absent : pool.shared.families.lookup pool.shared.now familyId = none)
      (calls : pool.Apart done fun phase =>
        phase ≠ .adding ∧ (settings.rotationEnabled = false → phase ≠ .passed))

variable {done : Nat → Prop}

theorem barred_of_revoked
    (revoked : ∀ family, pool.shared.families.lookup pool.shared.now familyId = some family →
      family.revoked = true)
    (calls : pool.Apart done fun phase => phase ∉ [Phase.passed, Phase.adding]) :
    Barred settings familyId done pool := by
  cases found : pool.shared.families.lookup pool.shared.now familyId with
  | none =>
    refine .gone found (calls.mono fun phase idle => ⟨?_, fun _ => ?_⟩)
    · rintro rfl
      simp at idle
    · rintro rfl
      simp at idle
  | some family => exact .revoked family found (revoked family found) calls

theorem Barred.start (barred : Barred settings familyId done pool) (refreshToken : String) :
    Barred settings familyId done
      (pool.start (refreshHost settings) (fun _ => .unread) refreshToken) := by
  cases barred with
  | revoked family found revoked calls =>
    exact .revoked family found revoked (calls.start (by decide))
  | gone absent calls => exact .gone absent (calls.start ⟨by decide, fun _ => by decide⟩)

theorem Barred.change (barred : Barred settings familyId done pool) (elapsed : Nat) :
    Barred settings familyId done
      { pool with shared := (refreshHost settings).change pool.shared elapsed } := by
  have earlier : ∀ family, ((refreshHost settings).change pool.shared elapsed).families.lookup
      ((refreshHost settings).change pool.shared elapsed).now familyId = some family →
        pool.shared.families.lookup pool.shared.now familyId = some family := fun family found =>
    ExpiringMap.lookup_of_later (Nat.le_add_right _ _) found
  cases barred with
  | revoked family found revoked calls =>
    refine barred_of_revoked (fun family' found' => ?_) (calls.change _)
    cases found.symm.trans (earlier family' found')
    exact revoked
  | gone absent calls =>
    refine .gone (Option.eq_none_iff_forall_ne_some.mpr fun family found => ?_) (calls.change _)
    cases absent.symm.trans (earlier family found)

theorem Barred.resume (barred : Barred settings familyId done pool) {index : Nat}
    {call : Call RefreshCommand RefreshCommand.Reply String Phase RefreshResult}
    {next : command.Reply → RefreshProgram RefreshResult}
    (careful : CarefulCommand settings familyId pool.shared call.phase command)
    (present : pool.calls[index]? = some call) (awaits : call.program = .await command next)
    (may : (discipline familyId).may call.phase command) :
    Barred settings familyId done (pool.resume (fun _ => discipline familyId) index call command
      next (pool.shared.exec oracle command)) := by
  have moved := moves familyId call.phase pool.shared oracle command
  cases barred with
  | revoked family found revoked calls =>
    have idle := calls.of_await present awaits
    refine barred_of_revoked (fun family' found' => ?_) ?_
    · change (pool.shared.exec oracle command).1.families.lookup
        (pool.shared.exec oracle command).1.now familyId = some family' at found'
      rw [RefreshStore.now_exec] at found'
      rcases RefreshStore.lookup_family_exec found' with before | ⟨seconds, rfl⟩
      · cases found.symm.trans before
        exact revoked
      · exact (may rfl).resolve_left fun adding => by simp [adding] at idle
    · refine calls.resume present awaits (fun _ same => same) ?_
      change nextPhase familyId call.phase command (pool.shared.exec oracle command).2 ∉ _
      generalize nextPhase familyId call.phase command (pool.shared.exec oracle command).2 = after
      at moved ⊢
      cases moved with
      | stays => exact idle
      | leaves | reports | holds => decide
      | passes held reads unrevoked =>
        have contradiction := revoked.symm.trans (unrevoked family found)
        cases contradiction
      | adds passed => simp [passed] at idle
  | gone absent calls =>
    have idle := calls.of_await present awaits
    refine .gone (Option.eq_none_iff_forall_ne_some.mpr fun family found => ?_) ?_
    · change (pool.shared.exec oracle command).1.families.lookup
        (pool.shared.exec oracle command).1.now familyId = some family at found
      rw [RefreshStore.now_exec] at found
      rcases RefreshStore.lookup_family_exec found with before | ⟨seconds, rfl⟩
      · cases absent.symm.trans before
      · exact careful rfl absent
    · refine calls.resume present awaits (fun _ same => same) ?_
      change nextPhase familyId call.phase command (pool.shared.exec oracle command).2 ≠ _ ∧
        (_ → nextPhase familyId call.phase command (pool.shared.exec oracle command).2 ≠ _)
      generalize nextPhase familyId call.phase command (pool.shared.exec oracle command).2 = after
      at moved ⊢
      cases moved with
      | stays => exact idle
      | leaves | reports | holds => exact ⟨by decide, fun _ => by decide⟩
      | passes held reads unrevoked =>
        subst reads
        exact ⟨by decide, fun disabled => absurd absent (careful rfl held disabled)⟩
      | adds passed exist => exact absurd absent exist

end Barred

theorem respectful_run (events : List (Event RefreshOracle Nat String)) (store : RefreshStore) :
    ((machine settings familyId).run ⟨store, []⟩ events).Respectful
      (fun _ => discipline familyId) fun _ => ends settings := by
  refine Pool.respectful_run (refresh_respects settings familyId) (fun _ _ _ _ => trivial) ?_ events
  intro call member
  cases member

theorem apart_of_noneUnfinished {phases : List Phase} (none : NoneUnfinished pool phases) :
    pool.Apart (fun index => ∃ call, pool.Ended index call) fun phase => phase ∉ phases := by
  refine ⟨fun index ended => ended, fun index call present unended => ?_⟩
  refine none call (List.mem_of_getElem? present) ?_
  by_contra ended
  exact unended ⟨call, present, ended⟩

theorem spent_run {done : Nat → Prop} (spent : Spent familyId done pool)
    (respectful : pool.Respectful (fun _ => discipline familyId) fun _ => ends settings)
    (events : List (Event RefreshOracle Nat String)) :
    Spent familyId done ((machine settings familyId).run pool events) := by
  have admits : (machine settings familyId).Admits (fun _ _ => True) pool events :=
    Transducer.admits_of_forall (fun _ _ => trivial) pool events
  refine (Pool.invariant (refresh_respects settings familyId) ?_ ?_ ?_ admits respectful spent).2
  · intro pool refreshToken spent _
    exact spent.start refreshToken
  · intro pool elapsed spent _
    exact spent.change elapsed
  · intro pool index oracle call command next spent _ present awaits may
    exact ⟨trivial, spent.resume present awaits may⟩

theorem barred_run {done : Nat → Prop} (barred : Barred settings familyId done pool)
    (respectful : pool.Respectful (fun _ => discipline familyId) fun _ => ends settings)
    {events : List (Event RefreshOracle Nat String)}
    (careful : (machine settings familyId).Admits (Careful settings familyId) pool events) :
    Barred settings familyId done ((machine settings familyId).run pool events) := by
  refine (Pool.invariant (refresh_respects settings familyId) ?_ ?_ ?_ careful respectful barred).2
  · intro pool refreshToken barred _
    exact barred.start refreshToken
  · intro pool elapsed barred _
    exact barred.change elapsed
  · intro pool index oracle call command next barred guarded present awaits may
    have careful := guarded _ (Pool.awaited?_of_await present awaits)
    exact ⟨trivial, barred.resume careful present awaits may⟩

end Runs

/-- The call at `index` presented a token of the family and returned success with a new pair. -/
def Succeeded (pool : RefreshPool) (index : Nat) (tokens : TokenPair) : Prop :=
  ∃ call ∈ pool.calls[index]?, call.phase ≠ .elsewhere ∧
    call.program.outcome? = some (.ok (.success tokens))

/-- A call has detected reuse of a token of the family and completed its handling. -/
def ReuseHandled (pool : RefreshPool) : Prop :=
  ∃ call ∈ pool.calls, call.phase = .reporting ∧ call.program.outcome? =
    some (.ok (.error "TOKEN_REUSE_DETECTED" "Refresh token reuse detected. All tokens revoked."))

section Sample

def sampleData (used : Bool) : RefreshTokenData := ⟨"u", "s", "d", "f", none, 0, 100, used, false⟩

def sampleStore : RefreshStore where
  now := 0
  tokens :=
    .ofList [("t0", ⟨sampleData true, some 100000⟩), ("t1", ⟨sampleData false, some 100000⟩),
    ("t2", ⟨sampleData false, some 100000⟩)]
  families := .ofList [("f", ⟨⟨"f", "u", 0, ["t0", "t1", "t2"], false⟩, some 200000⟩)]
  userTokens := .ofList [("u", ⟨["t0", "t1", "t2"], some 100000⟩)]

def turns (index count : Nat) : List (Event RefreshOracle Nat String) :=
  List.replicate count (.run index ⟨.ok (), .ok ⟨⟨"access" ++ toString index,
    "refresh" ++ toString index, 10, 100⟩, "id" ++ toString index, fun _ => 5000⟩⟩)

def reuseEvents : List (Event RefreshOracle Nat String) :=
  [.start "t1"] ++ turns 0 16 ++ [.start "t0"] ++ turns 1 18

def laterEvents : List (Event RefreshOracle Nat String) :=
  [.start "refresh0", .change 1000, .start "t2"] ++ turns 2 20 ++ turns 3 20

/-- Two refreshes are under way while the used token is presented: one has read the family,
the other has not stored its new token. -/
def racingEvents : List (Event RefreshOracle Nat String) :=
  [.start "t1", .start "t2", .start "t0"] ++ turns 0 12 ++ turns 1 7 ++ turns 2 18

def lateEvents : List (Event RefreshOracle Nat String) :=
  turns 0 4 ++ turns 1 9 ++ [.start "refresh1"] ++ turns 3 16

instance {pool : RefreshPool} {index : Nat} {tokens : TokenPair} :
    Decidable (Succeeded pool index tokens) :=
  inferInstanceAs (Decidable (∃ call ∈ _, _))

instance {pool : RefreshPool} : Decidable (ReuseHandled pool) :=
  inferInstanceAs (Decidable (∃ call ∈ _, _))

instance {familyId : String} {pool : RefreshPool} : Decidable (FamilyRevoked familyId pool) :=
  inferInstanceAs (Decidable ((∀ family ∈ _, _) ∧ ∀ call ∈ _, _ → _))

instance {settings : RefreshSettings} {familyId : String} {store : RefreshStore} {phase : Phase}
    (command : RefreshCommand) : Decidable (CarefulCommand settings familyId store phase command) :=
  match command with
  | .family (.setex _ _ _) => inferInstanceAs (Decidable (_ → _))
  | .family (.get _) => inferInstanceAs (Decidable (_ → _ → _ → _))
  | .validate _ | .generateAccessToken _ _ | .token _ | .userTokens _ | .family (.ttl _)
  | .family (.del _) => .isTrue trivial

instance {settings : RefreshSettings} {familyId : String} (pool : RefreshPool)
    (event : Event RefreshOracle Nat String) : Decidable (Careful settings familyId pool event) :=
  match event with
  | .run _ _ => inferInstanceAs (Decidable (∀ awaiting ∈ _, _))
  | .start _ | .change _ => .isTrue trivial

end Sample

end Caas.Auth.FamilyRevocation
