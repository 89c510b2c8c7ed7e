import Caas.Auth.RefreshCommands
import Caas.Async.Fallible

/-!
# Refreshes that fail half way

A refresh marks the presented token as used before it has made the new pair. What fails
after that leaves a token that cannot be presented again: the reuse check takes the next
attempt for an attack. The rejections of awaited commands are the faults here; a call runs
at one reading of the clock, and any time may pass before it is tried again.
-/

namespace Caas.Auth.RefreshFaults

open Js Async Redis RefreshTokenStore StringCommand ExpiringMap
open Program hiding result failure await

/-- The answers from outside to one command, and its fault if it is rejected. -/
abbrev Circumstance := RefreshOracle × Option Fault

def exec (store : RefreshStore) (command : RefreshCommand) (oracle : RefreshOracle) :
    RefreshStore × command.Reply := store.exec oracle command

/-- What `refresh` makes of an error. -/
def failed (message : String) : RefreshResult :=
  .error "REFRESH_FAILED" (if message = "" then "Token refresh failed" else message)

/-- `refresh` with commands that may be rejected. -/
def refresh (settings : RefreshSettings) (refreshToken : String) :
    Program RefreshCommand (fun command => Outcome command.Reply) RefreshResult :=
  (RefreshService.attempt settings refreshToken).fallible.catching fun message =>
    .result (failed message)

/-- A call of `refresh`, what it leaves and how it ends. -/
def call (settings : RefreshSettings) (refreshToken : String) (store : RefreshStore)
    (circumstance : Nat → Circumstance) : RefreshStore × Outcome RefreshResult :=
  (refresh settings refreshToken).run (faulty exec) circumstance 0 store

section Claim

variable (settings : RefreshSettings) (refreshToken : String) (store : RefreshStore)
  (circumstance : Nat → Circumstance)

/-- The token passes validation and the reuse check; the commands up to the third are
answered. -/
structure Passes (tokenData : RefreshTokenData) : Prop where
  answered : ∀ number < 3, (circumstance number).2 = none
  validated : (circumstance 0).1.validated = .ok ()
  found : store.tokens.lookup store.now (settings.hashToken refreshToken) = some tokenData
  unspent : Unspent tokenData
  family : ∀ family, store.families.lookup store.now tokenData.familyId = some family →
    family.revoked = false

/-- The write of `markAsUsed` takes effect: it comes after the answers to its `get` and
`ttl`, the token has time left to live, and the write is not lost. -/
def Marked : Prop :=
  (circumstance 3).2 = none ∧ (circumstance 4).2 = none ∧
    0 < store.tokens.ttl store.now (settings.hashToken refreshToken) ∧
      ∀ error, (circumstance 5).2 ≠ some (.lost error)

/-- The faults are gone: commands are answered, validation and generation succeed. -/
def Recovered : Prop :=
  ∀ number, (circumstance number).2 = none ∧ (circumstance number).1.validated = .ok () ∧
    ∃ generated, (circumstance number).1.generated = .ok generated ∧
      0 < generated.tokens.refreshExpiresIn

/-- The token's record and, where a rotation needs it, its family have not expired. -/
def Lasting : Prop :=
  ∃ tokenData, store.tokens.lookup store.now (settings.hashToken refreshToken) = some tokenData ∧
    (settings.rotationEnabled = true →
      (store.families.lookup store.now tokenData.familyId).isSome = true)

/-- The token is unused and unrevoked, and presenting it again succeeds. -/
def Unburnt : Prop :=
  (∃ tokenData, store.tokens.lookup store.now (settings.hashToken refreshToken) = some tokenData ∧
    Unspent tokenData) ∧
  ∀ later circumstance, store.now ≤ later →
    Lasting settings refreshToken { store with now := later } →
      Recovered circumstance →
        ∃ tokens, (call settings refreshToken { store with now := later } circumstance).2 =
          .ok (.success tokens)

/-- Generated tokens differ from the presented one in their hash. -/
def FreshTokens : Prop :=
  ∀ number generated, (circumstance number).1.generated = .ok generated →
    settings.hashToken generated.tokens.refreshToken ≠ settings.hashToken refreshToken

end Claim

section Invariants

variable {settings : RefreshSettings} {refreshToken : String} {circumstance : Nat → Circumstance}

def afterMark (settings : RefreshSettings) (refreshToken : String) (tokenData : RefreshTokenData) :
    RefreshProgram RefreshResult := do
  let newTokenPair ← RefreshService.generateNewTokenPair settings tokenData
  if settings.rotationEnabled then
    revoke settings refreshToken
  return .success newTokenPair

/-- No record that can be read under a hash is unspent. -/
def Spent (tokenHash : String) (store : RefreshStore) : Prop :=
  ∀ data, store.tokens.lookup store.now tokenHash = some data → ¬Unspent data

/-- The time and the entry of a token are as in `before`, and its family is not revoked. -/
structure Kept (before : RefreshStore) (tokenHash familyId : String) (store : RefreshStore) :
    Prop where
  now : store.now = before.now
  token : OrderedMap.get store.tokens tokenHash = OrderedMap.get before.tokens tokenHash
  family : ∀ family, store.families.lookup store.now familyId = some family →
    family.revoked = false

/-- Writes under a hash leave it spent. -/
def spends (tokenHash : String) : RefreshCommand → Prop :=
  Confined (fun other data => other = tokenHash → ¬Unspent data) fun _ => True

/-- A family is not the given one, or not revoked. -/
def unrevoked (familyId other : String) (family : RefreshTokenFamily) : Prop :=
  other = familyId → family.revoked = false

def sparesFamily (familyId : String) : StringCommand String RefreshTokenFamily → Prop
  | .setex other _ family => unrevoked familyId other family
  | _ => True

/-- No write under a hash, and none that revokes a family. -/
def spares (tokenHash familyId : String) : RefreshCommand → Prop :=
  Confined (fun other _ => other ≠ tokenHash) (sparesFamily familyId)

/-- Generated tokens have another hash, and families are read as `read` says. -/
def Replies (settings : RefreshSettings) (tokenHash : String)
    (read : String → RefreshTokenFamily → Prop) : (command : RefreshCommand) → command.Reply → Prop
  | .generateAccessToken _ _, (reply : Except String Generated) =>
    ∀ generated, reply = .ok generated →
      settings.hashToken generated.tokens.refreshToken ≠ tokenHash
  | .family (.get other), (reply : Option RefreshTokenFamily) =>
    ∀ family, reply = some family → read other family
  | _, _ => True

variable {before : RefreshStore} {tokenHash familyId : String}

theorem Kept.lookup {store : RefreshStore} (kept : Kept before tokenHash familyId store) :
    store.tokens.lookup store.now tokenHash = before.tokens.lookup before.now tokenHash := by
  rw [ExpiringMap.lookup, ExpiringMap.liveEntry, kept.token, kept.now]
  rfl

theorem Kept.ttl {store : RefreshStore} (kept : Kept before tokenHash familyId store) :
    store.tokens.ttl store.now tokenHash = before.tokens.ttl before.now tokenHash := by
  rw [ExpiringMap.ttl, ExpiringMap.liveEntry, kept.token, kept.now]
  rfl

theorem spent_step (number : Nat) (store : RefreshStore) (command : RefreshCommand)
    (spent : Spent tokenHash store) (allowed : spends tokenHash command) :
    Spent tokenHash (exec store command (circumstance number).1).1 := by
  intro data found
  rw [exec, RefreshStore.now_exec] at found
  obtain before | ⟨seconds, rfl⟩ := RefreshStore.lookup_token_exec found
  · exact spent data before
  · exact allowed rfl

theorem kept_step (number : Nat) (store : RefreshStore) (command : RefreshCommand)
    (kept : Kept before tokenHash familyId store) (allowed : spares tokenHash familyId command) :
    Kept before tokenHash familyId (exec store command (circumstance number).1).1 where
  now := (RefreshStore.now_exec).trans kept.now
  token := by
    cases command with
    | validate | generateAccessToken | family | userTokens => exact kept.token
    | token command =>
      cases command with
      | get | ttl => exact kept.token
      | del => exact allowed.elim
      | setex other seconds data =>
        refine (get_setex _ _ _ _ _ _).trans ?_
        rw [if_neg fun both => allowed both.1]
        exact kept.token
  family := by
    intro family found
    rw [exec, RefreshStore.now_exec] at found
    obtain before | ⟨seconds, rfl⟩ := RefreshStore.lookup_family_exec found
    · exact kept.family family before
    · exact allowed rfl

theorem replies_of_fresh (fresh : FreshTokens settings refreshToken circumstance) (number : Nat)
    (store : RefreshStore) (command : RefreshCommand) {read : String → RefreshTokenFamily → Prop}
    (reads : ∀ familyId family, store.families.lookup store.now familyId = some family →
      read familyId family) : Replies settings (settings.hashToken refreshToken) read command
      (exec store command (circumstance number).1).2 := by
  cases command with
  | validate | token | userTokens => trivial
  | generateAccessToken => exact fresh number
  | family command =>
    cases command with
    | setex | ttl | del => trivial
    | get other => exact reads other

theorem afterMark_spends (tokenData : RefreshTokenData) :
    (afterMark settings refreshToken tokenData).Issues (spends (settings.hashToken refreshToken))
      (Replies settings (settings.hashToken refreshToken) fun _ _ => True) := by
  have families : ∀ familyId rewrite,
      Rewrites (fun _ => True) familyId rewrite := fun familyId rewrite =>
    Rewrites.of_forall (fun _ => trivial) familyId rewrite
  refine issues_bind (RefreshService.generateNewTokenPair_issues ?_ fun _ => families _ _)
    fun _ => ?_
  · intro sessionId deviceId reply assumed generated issued data _ same
    exact absurd same (assumed generated issued)
  · split
    · refine issues_bind (revoke_issues
        fun data _ => not_unspent_of_revoked data) fun _ => issues_pure
    · exact issues_pure

theorem addTokenToFamily_spares {tokenId : String} :
    (FamilyTracker.addTokenToFamily familyId tokenId).Issues (spares tokenHash familyId)
      (Replies settings tokenHash (unrevoked familyId)) := by
  refine issues_command_bind trivial
    fun (found : Option RefreshTokenFamily) assumed => ?_
  cases found with
  | none => exact issues_failure
  | some family =>
    -- Only the family that has been read is written back.
    have rewrites : Rewrites (sparesFamily familyId) familyId (fun _ => family.withToken tokenId) :=
      ⟨trivial, trivial, fun _ _ => assumed family rfl⟩
    exact @FamilyTracker.writeBack_issues _ _ _ familyId family _ rewrites

theorem generateNewTokenPair_spares (tokenData : RefreshTokenData) :
    (RefreshService.generateNewTokenPair settings tokenData).Issues
      (spares tokenHash tokenData.familyId)
      (Replies settings tokenHash (unrevoked tokenData.familyId)) := by
  refine issues_command_bind trivial fun (reply : Except String Generated) assumed => ?_
  refine issues_orThrow_bind fun generated issued => ?_
  have other := assumed generated issued
  split
  · refine issues_bind (store_issues other) fun _ => ?_
    exact issues_bind addTokenToFamily_spares fun _ => issues_pure
  · exact issues_pure

end Invariants

section Runs

variable {settings : RefreshSettings} {refreshToken : String} {store : RefreshStore}
  {circumstance : Nat → Circumstance} {tokenData : RefreshTokenData}

theorem exec_get {tokenHash : String} {found : Option RefreshTokenData}
    (same : store.tokens.lookup store.now tokenHash = found) (oracle : RefreshOracle) :
    exec store (.token (.get tokenHash)) oracle = (store, (found : Option RefreshTokenData)) :=
  congrArg (Prod.mk store) same

/-- What an outcome of the `try` block becomes. -/
def caught (post : RefreshStore → Outcome RefreshResult → Prop) (store : RefreshStore) :
    Outcome RefreshResult → Prop
  | .ok result => post store (.ok result)
  | .error message => post store (.ok (failed message))

/-- A token that passes validation and the reuse check is rotated from the third command on. -/
theorem ensures_of_passes {post : RefreshStore → Outcome RefreshResult → Prop}
    (passes : Passes settings refreshToken store circumstance tokenData)
    (rotates : (RefreshService.rotate settings refreshToken tokenData).fallible.Ensures
      (faulty exec) circumstance (fun _ => caught post) 3 store) :
    (refresh settings refreshToken).Ensures (faulty exec) circumstance (fun _ => post) 0
      store := by
  refine ensures_catching ?_
  suffices body : (RefreshService.attempt settings refreshToken).fallible.Ensures
      (faulty exec) circumstance (fun _ => caught post) 0 store by
    refine body.mono fun number store outcome holds => ?_
    cases outcome <;> exact holds
  have validated : exec store (.validate refreshToken) (circumstance 0).1 =
      (store, (.ok () : Except String Unit)) := congrArg (Prod.mk store) passes.validated
  refine ensures_fallible_answered (passes.answered 0 (by omega)) validated ?_
  refine ensures_fallible_answered (passes.answered 1 (by omega))
    (exec_get passes.found (circumstance 1).1) ?_
  have detects : ReuseDetector.detectReuse tokenData =
      FamilyTracker.isFamilyRevoked tokenData.familyId >>= fun revoked =>
        if revoked then pure ⟨true, .revokeFamily, "Token family has been revoked"⟩
        else pure ⟨false, .allow, none⟩ := by
    unfold ReuseDetector.detectReuse
    rw [if_neg (by simp [passes.unspent.1]), if_neg (by simp [passes.unspent.2])]
  show (RefreshService.proceed settings refreshToken tokenData).fallible.Ensures _ _ _ 2 store
  rw [RefreshService.proceed, detects]
  refine ensures_fallible_answered (passes.answered 2 (by omega)) rfl ?_
  have unrevoked : ((store.families.lookup store.now tokenData.familyId).map
      (·.revoked)).getD false = false := by
    cases found : store.families.lookup store.now tokenData.familyId with
    | none => rfl
    | some family => exact passes.family family found
  let read : RefreshProgram ReuseDetector.ReuseDetectionResult :=
    if ((store.families.lookup store.now tokenData.familyId).map (·.revoked)).getD false = true then
      pure ⟨true, .revokeFamily, "Token family has been revoked"⟩
    else pure ⟨false, .allow, none⟩
  show (read >>= _ : RefreshProgram RefreshResult).fallible.Ensures _ _ _ 3 store
  have allowed : read = pure ⟨false, .allow, none⟩ := if_neg (by rw [unrevoked]; decide)
  rw [allowed]
  exact rotates

/-- The store after the write of `markAsUsed`. -/
def markedStore (settings : RefreshSettings) (refreshToken : String) (store : RefreshStore)
    (tokenData : RefreshTokenData) : RefreshStore :=
  let tokenHash := settings.hashToken refreshToken
  let ttl := store.tokens.ttl store.now tokenHash
  { store with
    tokens :=
      (StringCommand.exec store.tokens store.now (.setex tokenHash ttl tokenData.asUsed)).1 }

theorem spent_markedStore (marked : Marked settings refreshToken store circumstance) :
    Spent (settings.hashToken refreshToken)
      (markedStore settings refreshToken store tokenData) := by
  intro data found
  rw [StringCommand.lookup_setex_self (StringCommand.setex_succeeds marked.2.2.1) found]
  exact not_unspent_of_used tokenData

/-- The marking throws and writes nothing, finds no time left to live, or writes. -/
theorem markAsUsed_ensures {post : Nat → RefreshStore → Outcome Unit → Prop}
    (found : store.tokens.lookup store.now (settings.hashToken refreshToken) = some tokenData)
    (thrown : ¬Marked settings refreshToken store circumstance → ∀ number error,
      post number store (.error error))
    (skipped : ¬Marked settings refreshToken store circumstance →
      store.tokens.ttl store.now (settings.hashToken refreshToken) ≤ 0 → post 5 store (.ok ()))
    (written : Marked settings refreshToken store circumstance → ∀ outcome,
      post 6 (markedStore settings refreshToken store tokenData) outcome) :
    (markAsUsed settings refreshToken).fallible.Ensures (faulty exec)
      circumstance post 3 store := by
  have unmarked (fault : (circumstance 3).2 ≠ none ∨ (circumstance 4).2 ≠ none) :
      ¬Marked settings refreshToken store circumstance := by
    rintro ⟨first, second, -⟩
    obtain fault | fault := fault
    · exact fault first
    · exact fault second
  refine ensures_fallible_command_bind (exec_get found _)
    (fun error fault => thrown (unmarked (.inl (by simp [fault]))) _ _)
    (fun error fault => thrown (unmarked (.inl (by simp [fault]))) _ _) fun first => ?_
  refine ensures_fallible_command_bind rfl
    (fun error fault => thrown (unmarked (.inr (by simp [fault]))) _ _)
    (fun error fault => thrown (unmarked (.inr (by simp [fault]))) _ _) fun second => ?_
  let ttl := store.tokens.ttl store.now (settings.hashToken refreshToken)
  let rewrite : RefreshProgram Bool :=
    RefreshCommand.await
      (.token (.setex (settings.hashToken refreshToken) ttl tokenData.asUsed)) >>= fun reply =>
        orThrow reply >>= fun _ => pure true
  let attempt : RefreshProgram Bool := if ttl > 0 then rewrite else pure false
  show (attempt >>= fun _ => pure ()).fallible.Ensures _ _ post 5 store
  by_cases positive : 0 < ttl
  · have writes : attempt = rewrite := if_pos positive
    rw [writes]
    have executed : exec store
        (.token (.setex (settings.hashToken refreshToken) ttl tokenData.asUsed))
        (circumstance 5).1 =
          (markedStore settings refreshToken store tokenData, (.ok () : Except String Unit)) :=
      Prod.ext rfl (StringCommand.setex_succeeds positive)
    refine ensures_fallible_command_bind executed (fun error fault => ?_)
      (fun error fault => ?_) fun third => ?_
    · exact thrown (fun marked => marked.2.2.2 error fault) _ _
    · exact written ⟨first, second, positive, by simp [fault]⟩ _
    · exact written ⟨first, second, positive, by simp [third]⟩ (.ok ())
  · have skips : attempt = pure false := if_neg positive
    rw [skips]
    exact skipped (fun marked => positive marked.2.2.1) (Int.not_lt.mp positive)

theorem rotate_spends
    (found : store.tokens.lookup store.now (settings.hashToken refreshToken) = some tokenData)
    (fresh : FreshTokens settings refreshToken circumstance)
    (marked : Marked settings refreshToken store circumstance) :
    (RefreshService.rotate settings refreshToken tokenData).fallible.Ensures (faulty exec)
      circumstance (fun _ store _ => Spent (settings.hashToken refreshToken) store) 3 store := by
  have sequenced : RefreshService.rotate settings refreshToken tokenData =
      markAsUsed settings refreshToken >>= fun _ =>
        afterMark settings refreshToken tokenData := rfl
  rw [sequenced, fallible_bind]
  refine ensures_bind (markAsUsed_ensures found (absurd marked) (absurd marked)
    fun _ outcome => ?_)
  cases outcome with
  | error error => exact spent_markedStore marked
  | ok done =>
    refine (afterMark_spends tokenData).keeps (fun number store command spent allowed => ?_)
      (spent_markedStore marked)
    exact ⟨spent_step number store command spent allowed,
      replies_of_fresh fresh number store command fun _ _ _ => trivial⟩

theorem revoke_ensures {post : RefreshStore → Outcome RefreshResult → Prop}
    {result : RefreshResult} {number : Nat}
    (found : store.tokens.lookup store.now (settings.hashToken refreshToken) = some tokenData)
    (expired : store.tokens.ttl store.now (settings.hashToken refreshToken) ≤ 0)
    (thrown : ∀ error, post store (.error error)) (returned : post store (.ok result)) :
    (revoke settings refreshToken >>= fun _ => pure result).fallible.Ensures
      (faulty exec) circumstance (fun _ => post) number store := by
  refine ensures_fallible_command_bind (exec_get found _) (fun error _ => thrown error)
    (fun error _ => thrown error) fun _ => ?_
  refine ensures_fallible_command_bind rfl (fun error _ => thrown error)
    (fun error _ => thrown error) fun _ => ?_
  let ttl := store.tokens.ttl store.now (settings.hashToken refreshToken)
  let attempt : RefreshProgram Bool :=
    if ttl > 0 then
      RefreshCommand.await
          (.token (.setex (settings.hashToken refreshToken) ttl tokenData.asRevoked)) >>=
        fun reply => orThrow reply >>= fun _ => pure true
    else pure false
  show ((attempt >>= fun _ => pure ()) >>= fun _ => pure result).fallible.Ensures _ _ _ _ store
  have skips : attempt = pure false := if_neg (Int.not_lt.mpr expired)
  rw [skips]
  exact returned

theorem rotate_keeps (passes : Passes settings refreshToken store circumstance tokenData)
    (fresh : FreshTokens settings refreshToken circumstance)
    (unmarked : ¬Marked settings refreshToken store circumstance) :
    (RefreshService.rotate settings refreshToken tokenData).fallible.Ensures (faulty exec)
      circumstance
      (fun _ => fun after _ =>
        Kept store (settings.hashToken refreshToken) tokenData.familyId after)
      3 store := by
  have start : Kept store (settings.hashToken refreshToken) tokenData.familyId store :=
    ⟨rfl, rfl, passes.family⟩
  have sequenced : RefreshService.rotate settings refreshToken tokenData =
      markAsUsed settings refreshToken >>= fun _ =>
        afterMark settings refreshToken tokenData := rfl
  rw [sequenced, fallible_bind]
  refine ensures_bind (markAsUsed_ensures passes.found (fun _ _ _ => start)
    (fun _ expired => ?_) fun marked => absurd marked unmarked)
  refine (fallible_bind _ _).symm ▸ ensures_bind ?_
  refine ((generateNewTokenPair_spares tokenData).keeps (fun number store command kept allowed =>
    ⟨kept_step number store command kept allowed, replies_of_fresh fresh number store command
      fun _ _ found same => kept.family _ (same ▸ found)⟩) start).mono
        fun number after outcome kept => ?_
  cases outcome with
  | error error => exact kept
  | ok newTokenPair =>
    cases rotation : settings.rotationEnabled with
    | false => exact kept
    | true =>
      -- The old token is not revoked either: its time to live is the same.
      exact revoke_ensures (kept.lookup.trans passes.found) (kept.ttl ▸ expired)
        (fun _ => kept) kept

end Runs

section Retry

variable {settings : RefreshSettings} {familyId : String}

/-- Anything but the deletion of a family. -/
def steady : RefreshCommand → Prop
  | .family (.del _) => False
  | _ => True

/-- The replies when nothing fails and, where it is needed, the family is there. -/
def Recovers (settings : RefreshSettings) (familyId : String) :
    (command : RefreshCommand) → command.Reply → Prop
  | .generateAccessToken _ _, (reply : Except String Generated) =>
    ∃ generated, reply = .ok generated ∧ 0 < generated.tokens.refreshExpiresIn
  | .token (.setex _ seconds _), (reply : Except String Unit) => 0 < seconds → reply = .ok ()
  | .family (.setex _ seconds _), (reply : Except String Unit) => 0 < seconds → reply = .ok ()
  | .family (.get other), (reply : Option RefreshTokenFamily) =>
    other = familyId → settings.rotationEnabled = true → reply ≠ none
  | _, _ => True

def Succeeds {α : Type} (settings : RefreshSettings) (familyId : String)
    (program : RefreshProgram α) : Prop :=
  program.Respects (Discipline.plain steady (Recovers settings familyId))
    (fun _ outcome => ∃ value, outcome = .ok value) ()

theorem succeeds_bind {α β : Type} {program : RefreshProgram α} {next : α → RefreshProgram β}
    (first : Succeeds settings familyId program)
    (rest : ∀ value, Succeeds settings familyId (next value)) :
    Succeeds settings familyId (program >>= next) := by
  refine Respects.seq first (fun value _ => rest value) fun error ended => ?_
  obtain ⟨value, impossible⟩ := ended
  cases impossible

theorem succeeds_pure {α : Type} (value : α) :
    Succeeds settings familyId (pure value : RefreshProgram α) := ⟨value, rfl⟩

theorem writeBack_succeeds (tokenHash : String) (data : RefreshTokenData) :
    Succeeds settings familyId (writeBack tokenHash data) := by
  refine respects_command_bind trivial fun (ttl : Int) _ _ _ => ?_
  split
  · next positive =>
    refine respects_command_bind trivial fun (reply : Except String Unit) good _ _ => ?_
    rw [good positive]
    exact ⟨true, rfl⟩
  · exact ⟨false, rfl⟩

theorem markAsUsed_succeeds (refreshToken : String) :
    Succeeds settings familyId (markAsUsed settings refreshToken) := by
  refine respects_command_bind trivial fun (found : Option RefreshTokenData) _ _ _ => ?_
  cases found with
  | none => exact succeeds_pure ()
  | some data => exact succeeds_bind (writeBack_succeeds _ _) fun _ => succeeds_pure ()

theorem revoke_succeeds (refreshToken : String) :
    Succeeds settings familyId (revoke settings refreshToken) := by
  refine respects_command_bind trivial fun (found : Option RefreshTokenData) _ _ _ => ?_
  cases found with
  | none => exact succeeds_pure ()
  | some data => exact succeeds_bind (writeBack_succeeds _ _) fun _ => succeeds_pure ()

theorem store_succeeds (token : String) (data : RefreshTokenData) {ttlSeconds : Int}
    (positive : 0 < ttlSeconds) :
    Succeeds settings familyId (store settings token data ttlSeconds) := by
  refine respects_command_bind trivial fun (reply : Except String Unit) good _ _ => ?_
  rw [good positive]
  refine respects_command_bind trivial fun _ _ _ _ => ?_
  exact respects_command_bind trivial fun _ _ _ _ => succeeds_pure ()

theorem addTokenToFamily_succeeds (rotation : settings.rotationEnabled = true) (tokenId : String) :
    Succeeds settings familyId (FamilyTracker.addTokenToFamily familyId tokenId) := by
  refine respects_command_bind trivial
    fun (found : Option RefreshTokenFamily) good _ _ => ?_
  cases found with
  | none => exact absurd rfl (good rfl rotation)
  | some family =>
    refine respects_command_bind trivial fun (ttl : Int) _ _ _ => ?_
    split
    · next positive =>
      refine respects_command_bind trivial fun (reply : Except String Unit) good _ _ => ?_
      rw [good positive]
      exact succeeds_pure ()
    · exact succeeds_pure ()

theorem generateNewTokenPair_succeeds (tokenData : RefreshTokenData) :
    Succeeds settings tokenData.familyId
      (RefreshService.generateNewTokenPair settings tokenData) := by
  refine respects_command_bind trivial fun (reply : Except String Generated) good _ _ => ?_
  obtain ⟨generated, issued, positive⟩ := good
  rw [issued]
  refine respects_orThrow_bind (fun made same => ?_) fun error thrown => nomatch thrown
  cases same
  cases rotation : settings.rotationEnabled with
  | false => exact succeeds_pure _
  | true =>
    refine succeeds_bind (store_succeeds _ _ positive) fun _ => ?_
    exact succeeds_bind (addTokenToFamily_succeeds rotation _) fun _ => succeeds_pure _

theorem rotate_succeeds (refreshToken : String) (tokenData : RefreshTokenData) :
    (RefreshService.rotate settings refreshToken tokenData).Respects
      (Discipline.plain steady (Recovers settings tokenData.familyId))
      (fun _ outcome => ∃ tokens, outcome = .ok (.success tokens)) () := by
  have fails : ∀ {α : Type} (error : String), (∃ value : α, Except.error error = .ok value) →
      ∃ tokens, (.error error : Outcome RefreshResult) = .ok (.success tokens) := by
    rintro α error ⟨value, impossible⟩
    cases impossible
  refine Respects.seq (markAsUsed_succeeds refreshToken) (fun _ _ => ?_)
    fun error => fails error
  refine Respects.seq (generateNewTokenPair_succeeds tokenData) (fun tokens _ => ?_)
    fun error => fails error
  split
  · refine Respects.seq (revoke_succeeds refreshToken) (fun _ _ => ?_) fun error =>
      fails error
    exact ⟨tokens, rfl⟩
  · exact ⟨tokens, rfl⟩

variable {refreshToken : String} {store : RefreshStore} {circumstance : Nat → Circumstance}

/-- The family is there, where a rotation needs it. -/
def FamilyLasts (settings : RefreshSettings) (familyId : String) (store : RefreshStore) : Prop :=
  settings.rotationEnabled = true → store.families.lookup store.now familyId ≠ none

theorem familyLasts_step (number : Nat) (store : RefreshStore) (command : RefreshCommand)
    (lasts : FamilyLasts settings familyId store) (allowed : steady command) :
    FamilyLasts settings familyId (exec store command (circumstance number).1).1 := by
  intro rotation
  have before := lasts rotation
  cases command with
  | validate | generateAccessToken | token | userTokens => exact before
  | family command =>
    cases command with
    | get | ttl => exact before
    | del => exact allowed.elim
    | setex other seconds family => exact lookup_setex_ne_none before

theorem recovers_step (recovered : Recovered circumstance) (number : Nat) (store : RefreshStore)
    (command : RefreshCommand) (lasts : FamilyLasts settings familyId store) :
    Recovers settings familyId command (exec store command (circumstance number).1).2 := by
  cases command with
  | validate | userTokens => trivial
  | generateAccessToken => exact (recovered number).2.2
  | token command =>
    cases command with
    | get | ttl | del => trivial
    | setex other seconds data => exact setex_succeeds
  | family command =>
    cases command with
    | ttl | del => trivial
    | setex other seconds family => exact setex_succeeds
    | get other =>
      rintro rfl rotation
      exact lasts rotation

theorem call_succeeds {tokenData : RefreshTokenData}
    (found : store.tokens.lookup store.now (settings.hashToken refreshToken) = some tokenData)
    (unspent : Unspent tokenData)
    (family : ∀ family, store.families.lookup store.now tokenData.familyId = some family →
      family.revoked = false)
    (lasts : FamilyLasts settings tokenData.familyId store) (recovered : Recovered circumstance) :
    ∃ tokens, (call settings refreshToken store circumstance).2 = .ok (.success tokens) := by
  have passes : Passes settings refreshToken store circumstance tokenData :=
    ⟨fun number _ => (recovered number).1, (recovered 0).2.1, found, unspent, family⟩
  have calm number := (recovered number).1
  have ensured : (refresh settings refreshToken).Ensures (faulty exec) circumstance
      (fun _ _ outcome => ∃ tokens, outcome = .ok (.success tokens)) 0 store := by
    refine ensures_of_passes passes (Ensures.mono
      ((rotate_succeeds refreshToken tokenData).ensures_of_calm calm
        (fun number store command lasts allowed =>
          ⟨familyLasts_step number store command lasts allowed,
            recovers_step recovered number store command lasts⟩) lasts)
      fun number after outcome ended => ?_)
    obtain ⟨tokens, rfl⟩ := ended
    exact ⟨tokens, rfl⟩
  exact ensures_iff_run.mp ensured

/-- However a refresh ends after the reuse check, it leaves the token unused, and presenting
it again succeeds, exactly if the write of its mark has not taken effect. -/
theorem refresh_unburnt_iff {tokenData : RefreshTokenData}
    (passes : Passes settings refreshToken store circumstance tokenData)
    (fresh : FreshTokens settings refreshToken circumstance) :
    Unburnt settings refreshToken (call settings refreshToken store circumstance).1 ↔
      ¬Marked settings refreshToken store circumstance := by
  constructor
  · rintro ⟨⟨data, found, unspent⟩, -⟩ marked
    have spent : (refresh settings refreshToken).Ensures (faulty exec) circumstance
        (fun _ after _ => Spent (settings.hashToken refreshToken) after) 0 store := by
      refine ensures_of_passes passes ((rotate_spends passes.found fresh marked).mono
        fun number after outcome spent => ?_)
      cases outcome <;> exact spent
    exact ensures_iff_run.mp spent data found unspent
  · intro unmarked
    have keeps : (refresh settings refreshToken).Ensures (faulty exec) circumstance
        (fun _ after _ =>
          Kept store (settings.hashToken refreshToken) tokenData.familyId after) 0 store := by
      refine ensures_of_passes passes ((rotate_keeps passes fresh unmarked).mono
        fun number after outcome kept => ?_)
      cases outcome <;> exact kept
    have kept := ensures_iff_run.mp keeps
    have found := kept.lookup.trans passes.found
    refine ⟨⟨tokenData, found, passes.unspent⟩, fun later again elapsed lasting recovered => ?_⟩
    obtain ⟨data, alive, family⟩ := lasting
    have same : data = tokenData := by
      have before := lookup_of_later elapsed alive
      exact Option.some.inj (before.symm.trans found)
    subst same
    refine call_succeeds alive passes.unspent (fun family found => ?_)
      (fun rotation gone => ?_) recovered
    · exact kept.family family (lookup_of_later elapsed found)
    · have present := family rotation
      rw [gone] at present
      cases present

section Sample

def sampleSettings : RefreshSettings := ⟨id, true⟩

def sampleData : RefreshTokenData :=
  { userId := "u", sessionId := "s", deviceId := "d", familyId := "f", parentId := none
    issuedAt := 0, expiresAt := 3600, used := false, revoked := false }

def sampleStore : RefreshStore where
  now := 0
  tokens := ExpiringMap.store .empty 0 "t" 3600 sampleData
  families := ExpiringMap.store .empty 0 "f" 3600 ⟨"f", "u", 0, ["t"], false⟩
  userTokens := .empty

def sampleOracle : RefreshOracle :=
  ⟨.ok (), .ok ⟨⟨"access", "t'", 900, 3600⟩, "id'", fun _ => 0⟩⟩

def rejectedMark (number : Nat) : Circumstance :=
  (sampleOracle, if number = 3 then some (.lost "Connection is closed.") else none)

theorem refresh_unburnt_of_rejected_mark :
    Unburnt sampleSettings "t" (call sampleSettings "t" sampleStore rejectedMark).1 := by
  have passes : Passes sampleSettings "t" sampleStore rejectedMark sampleData :=
    { answered := by decide
      validated := rfl
      found := by decide +kernel
      unspent := by decide
      family := by
        intro family found
        have stored : sampleStore.families.lookup sampleStore.now sampleData.familyId =
            some ⟨"f", "u", 0, ["t"], false⟩ := by decide +kernel
        cases stored.symm.trans found
        rfl }
  have fresh : FreshTokens sampleSettings "t" rejectedMark := by
    rintro number generated issued
    cases issued
    decide
  exact (refresh_unburnt_iff passes fresh).mpr fun marked => absurd marked.1 (by decide)

def failedGeneration (_number : Nat) : Circumstance := (⟨.ok (), .error "signing failed"⟩, none)

/-- A generation that fails burns the token: trying again revokes its family. -/
theorem failed_generation_burns_token :
    let first := call sampleSettings "t" sampleStore failedGeneration
    let again := call sampleSettings "t" first.1 fun _ => (sampleOracle, none)
    first.2 = .ok (failed "signing failed") ∧ ¬Unburnt sampleSettings "t" first.1 ∧
      again.2 = .ok (.error "TOKEN_REUSE_DETECTED"
        "Refresh token reuse detected. All tokens revoked.") ∧
      (again.1.families.lookup 0 "f").map (·.revoked) = some true := by
  refine ⟨by decide +kernel, ?_, by decide +kernel, by decide +kernel⟩
  rintro ⟨⟨data, found, unspent⟩, -⟩
  have stored : (call sampleSettings "t" sampleStore failedGeneration).1.tokens.lookup
      (call sampleSettings "t" sampleStore failedGeneration).1.now "t" =
        some sampleData.asUsed := by decide +kernel
  cases stored.symm.trans found
  exact not_unspent_of_used sampleData unspent

end Sample

end Retry

end Caas.Auth.RefreshFaults
