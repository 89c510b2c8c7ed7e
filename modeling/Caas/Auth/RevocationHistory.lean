import Mathlib.Data.List.Induction
import Caas.Auth.RevocationService

/-!
# What a history of revocations leaves in force

The keys of the revocation store are a function of the calls so far: of each token and
session the end of the latest revocation, of each user and tenant the time of the latest
one. `Remembers` states this, and what `isRevoked` answers follows. The answers can then
be compared with the revocations that were asked for, and with those of the checker.
-/

namespace Caas.Auth

open Js Redis StringCommand ExpiringMap OrderedMap

namespace RevocationService

section History

/-- When a call lets the revocation of a token end. -/
def tokenNote (jti : String) (input : Input) : Option Nat :=
  match input.call with
  | .revokeToken tokenId _ ttlSeconds _ =>
    if tokenId = jti ∧ 0 < ttlSeconds then some (input.now + 1000 * ttlSeconds.toNat) else none
  | _ => none

/-- When a call lets the revocation of a session end. -/
def sessionNote (sessionId : String) (input : Input) : Option Nat :=
  match input.call with
  | .revokeSessionTokens revoked _ ttlSeconds _ =>
    if revoked = sessionId ∧ 0 < ttlSeconds then some (input.now + 1000 * ttlSeconds.toNat)
    else none
  | _ => none

/-- The cut-off that a call sets for a user; a clearing sets none. -/
def userNote (userId : String) (input : Input) : Option (Option Nat) :=
  match input.call with
  | .revokeUserTokens revoked _ => if revoked = userId then some (some input.now) else none
  | .clearUserRevocation cleared => if cleared = userId then some none else none
  | _ => none

/-- The cut-off that a call sets for a tenant. -/
def tenantNote (tenantId : String) (input : Input) : Option Nat :=
  match input.call with
  | .revokeTenantTokens revoked _ => if revoked = tenantId then some input.now else none
  | _ => none

variable (past : List Input)

def tokenEnd (jti : String) : Option Nat := Transducer.latest (tokenNote jti) past

def sessionEnd (sessionId : String) : Option Nat := Transducer.latest (sessionNote sessionId) past

/-- When the tokens of a user were last revoked, unless that has been cleared. -/
def userCutoff (userId : String) : Option Nat := (Transducer.latest (userNote userId) past).join

/-- When the tokens of a tenant were last revoked. -/
def tenantCutoff (tenantId : String) : Option Nat :=
  Transducer.latest (tenantNote tenantId) past

end History

/-- A cut-off key made at `time`. -/
def cutoffEntry (time : Nat) : Entry Nat := ⟨time / 1000, some (time + 1000 * cutoffSeconds)⟩

/-- A revocation key that ends at `time`. -/
def endingEntry (time : Nat) : Entry Unit := ⟨(), some time⟩

/-- The keys hold what the history says, and nothing else. -/
structure Remembers (past : List Input) (keys : RevocationKeys) : Prop where
  tokens : ∀ jti, get keys.tokens jti = (tokenEnd past jti).map endingEntry
  users : ∀ userId, get keys.users userId = (userCutoff past userId).map cutoffEntry
  sessions : ∀ sessionId,
    get keys.sessions sessionId = (sessionEnd past sessionId).map endingEntry
  tenants : ∀ tenantId,
    get keys.tenants tenantId = (tenantCutoff past tenantId).map cutoffEntry

theorem cutoffSeconds_pos : (0 : Int) < (cutoffSeconds : Int) := by decide

section Steps

variable (keys : RevocationKeys) (input : Input)

theorem get_tokens_step (jti : String) : get (machine.step keys input).1.tokens jti =
      ((tokenNote jti input).map endingEntry).or (get keys.tokens jti) := by
  obtain ⟨now, call, published, timestamp⟩ := input
  cases call with
  | revokeToken tokenId userId ttlSeconds reason =>
    refine (get_setex keys.tokens now tokenId jti ttlSeconds ()).trans ?_
    simp only [tokenNote]
    split <;> rfl
  | _ => rfl

theorem get_sessions_step (sessionId : String) :
    get (machine.step keys input).1.sessions sessionId =
      ((sessionNote sessionId input).map endingEntry).or
        (get keys.sessions sessionId) := by
  obtain ⟨now, call, published, timestamp⟩ := input
  cases call with
  | revokeSessionTokens revoked userId ttlSeconds reason =>
    refine (get_setex keys.sessions now revoked sessionId ttlSeconds ()).trans ?_
    simp only [sessionNote]
    split <;> rfl
  | _ => rfl

theorem get_tenants_step (tenantId : String) : get (machine.step keys input).1.tenants tenantId =
      ((tenantNote tenantId input).map cutoffEntry).or (get keys.tenants tenantId) := by
  obtain ⟨now, call, published, timestamp⟩ := input
  cases call with
  | revokeTenantTokens revoked reason =>
    refine (get_setex keys.tenants now revoked tenantId cutoffSeconds _).trans ?_
    simp only [tenantNote, cutoffSeconds_pos, and_true]
    split <;> rfl
  | _ => rfl

theorem get_users_step (userId : String) : get (machine.step keys input).1.users userId =
      match userNote userId input with
      | some cutoff => cutoff.map cutoffEntry
      | none => get keys.users userId := by
  obtain ⟨now, call, published, timestamp⟩ := input
  cases call with
  | revokeUserTokens revoked reason =>
    refine (get_setex keys.users now revoked userId cutoffSeconds _).trans ?_
    simp only [userNote, cutoffSeconds_pos, and_true]
    split <;> rfl
  | clearUserRevocation cleared =>
    refine (get_delete keys.users cleared userId).trans ?_
    simp only [userNote]
    split <;> rfl
  | _ => rfl

end Steps

theorem Remembers.step {past : List Input} {keys : RevocationKeys} (remembers : Remembers past keys)
    (input : Input) : Remembers (past ++ [input]) (machine.step keys input).1 where
  tokens jti := by
    rw [get_tokens_step, remembers.tokens, tokenEnd, tokenEnd, Transducer.latest_concat,
      Option.map_or]
  users userId := by
    rw [get_users_step, remembers.users, userCutoff, userCutoff, Transducer.latest_concat]
    cases userNote userId input with
    | none | some => rfl
  sessions sessionId := by
    rw [get_sessions_step, remembers.sessions, sessionEnd, sessionEnd, Transducer.latest_concat,
      Option.map_or]
  tenants tenantId := by
    rw [get_tenants_step, remembers.tenants, tenantCutoff, tenantCutoff, Transducer.latest_concat,
      Option.map_or]

theorem remembers_run (past : List Input) : Remembers past (machine.run .empty past) := by
  induction past using List.reverseRecOn with
  | nil => exact ⟨fun _ => rfl, fun _ => rfl, fun _ => rfl, fun _ => rfl⟩
  | append_singleton past input ih =>
    rw [Transducer.run_append]
    exact ih.step input

section Answers

variable (past : List Input) (now : Nat)

/-- The latest revocation of a token has not ended. -/
def tokenInForce (jti : String) : Bool := (tokenEnd past jti).any (now < ·)

/-- The latest revocation of a session has not ended. -/
def sessionInForce (sessionId : String) : Bool := (sessionEnd past sessionId).any (now < ·)

/-- A cut-off of at most thirty days ago lies in a later second than the issue of a token. -/
def cutsOff (issuedAt : Nat) (cutoff : Option Nat) : Bool :=
  cutoff.any fun time => now < time + 1000 * cutoffSeconds ∧ issuedAt < time / 1000

theorem isSome_ending (found : Option Nat) :
    (found.bind fun time => if now < time then some () else none).isSome =
      found.any (now < ·) := by
  cases found with
  | none => rfl
  | some time => by_cases live : now < time <;> simp [live]

theorem compared_cutoff (found : Option Nat) (live : Nat → Prop) [DecidablePred live]
    (issuedAt : Nat) :
    (match found.bind fun time => if live time then some (time / 1000) else none with
      | none => false
      | some invalidBefore => decide (issuedAt < invalidBefore)) =
      found.any fun time => live time ∧ issuedAt < time / 1000 := by
  cases found with
  | none => rfl
  | some time => by_cases within : live time <;> simp [within]

variable {past now} {keys : RevocationKeys} (remembers : Remembers past keys)
include remembers

theorem Remembers.isTokenRevoked (jti : String) :
    RevocationStore.isTokenRevoked keys now jti = tokenInForce past now jti := by
  unfold RevocationStore.isTokenRevoked
  rw [lookup_eq_of_get (remembers.tokens jti)]
  exact isSome_ending now _

theorem Remembers.areSessionTokensRevoked (sessionId : String) :
    RevocationStore.areSessionTokensRevoked keys now sessionId =
      sessionInForce past now sessionId := by
  unfold RevocationStore.areSessionTokensRevoked
  rw [lookup_eq_of_get (remembers.sessions sessionId)]
  exact isSome_ending now _

theorem Remembers.areUserTokensRevoked (userId : String) (issuedAt : Nat) :
    RevocationStore.areUserTokensRevoked keys now userId issuedAt =
      cutsOff now issuedAt (userCutoff past userId) := by
  unfold RevocationStore.areUserTokensRevoked
  rw [lookup_eq_of_get (remembers.users userId)]
  exact compared_cutoff _ (fun time => now < time + 1000 * cutoffSeconds) issuedAt

theorem Remembers.areTenantTokensRevoked (tenantId : String) (issuedAt : Nat) :
    RevocationStore.areTenantTokensRevoked keys now tenantId issuedAt =
      cutsOff now issuedAt (tenantCutoff past tenantId) := by
  unfold RevocationStore.areTenantTokensRevoked
  rw [lookup_eq_of_get (remembers.tenants tenantId)]
  exact compared_cutoff _ (fun time => now < time + 1000 * cutoffSeconds) issuedAt

theorem Remembers.isRevoked (tokenId userId sessionId tenantId : String) (issuedAt : Nat) :
    (isRevoked keys now tokenId userId sessionId tenantId issuedAt).revoked =
      (tokenInForce past now tokenId || cutsOff now issuedAt (userCutoff past userId) ||
        sessionInForce past now sessionId ||
        cutsOff now issuedAt (tenantCutoff past tenantId)) := by
  unfold RevocationService.isRevoked
  rw [remembers.isTokenRevoked, remembers.areUserTokensRevoked,
    remembers.areSessionTokensRevoked, remembers.areTenantTokensRevoked]
  cases tokenInForce past now tokenId <;> cases cutsOff now issuedAt (userCutoff past userId) <;>
    cases sessionInForce past now sessionId <;>
    cases cutsOff now issuedAt (tenantCutoff past tenantId) <;> rfl

theorem Remembers.checker_isRevoked (tokenId userId sessionId : String) (issuedAt : Nat) :
    (RevocationChecker.isRevoked keys now tokenId userId sessionId issuedAt).revoked =
      (tokenInForce past now tokenId || cutsOff now issuedAt (userCutoff past userId) ||
        sessionInForce past now sessionId) := by
  unfold RevocationChecker.isRevoked
  rw [show RevocationChecker.isTokenRevoked keys now tokenId = tokenInForce past now tokenId from
      remembers.isTokenRevoked tokenId,
    show RevocationChecker.areUserTokensRevoked keys now userId issuedAt =
      cutsOff now issuedAt (userCutoff past userId) from
      remembers.areUserTokensRevoked userId issuedAt,
    show RevocationChecker.areSessionTokensRevoked keys now sessionId =
      sessionInForce past now sessionId from remembers.areSessionTokensRevoked sessionId]
  cases tokenInForce past now tokenId <;> cases cutsOff now issuedAt (userCutoff past userId) <;>
    cases sessionInForce past now sessionId <;> rfl

end Answers

end RevocationService

end Caas.Auth

/-!
## Who is told that a token is revoked

Two laws of revocation: a token that ought to be revoked is reported so until it expires,
and the checker of token validation reports what the service reports. A cut-off is a whole
second, so a token issued in the second of the cut-off survives it; a later revocation
with a shorter time to live ends an earlier one; and the checker does not know cut-offs of
tenants. The conditions say exactly where this shows.
-/

namespace Caas.Auth.RevocationService

/-- A token issued at a time, in milliseconds, to live for a number of seconds. -/
structure IssuedToken where
  jti : String
  userId : String
  sessionId : String
  tenantId : String
  issued : Nat
  lifetime : Nat
  lifetime_le : lifetime ≤ cutoffSeconds

namespace IssuedToken

variable (token : IssuedToken)

/-- The claim that says when the token was issued, in seconds. -/
def issuedAt : Nat := token.issued / 1000

def expiry : Nat := 1000 * (token.issuedAt + token.lifetime)

/-- A call that revokes what was issued before it to the owner of the token, if it is the
user. -/
def RevokesUser (call : Call) : Prop := ∃ reason, call = .revokeUserTokens token.userId reason

def RevokesTenant (call : Call) : Prop := ∃ reason, call = .revokeTenantTokens token.tenantId reason

/-- A call that revokes the token or its session for the rest of the token's life. -/
def RevokesForLife (input : Input) : Prop :=
  (∃ userId ttlSeconds reason, input.call = .revokeToken token.jti userId ttlSeconds reason ∧
      (token.expiry : Int) ≤ input.now + 1000 * ttlSeconds) ∨
    ∃ userId ttlSeconds reason,
      input.call = .revokeSessionTokens token.sessionId userId ttlSeconds reason ∧
        (token.expiry : Int) ≤ input.now + 1000 * ttlSeconds

/-- After the calls `before` and `after` its issue, a token that ought to be revoked. -/
def OughtToBeRevoked (before after : List Input) : Prop :=
  (∃ earlier input later, after = earlier ++ input :: later ∧ token.RevokesUser input.call ∧
      ∀ next ∈ later, next.call ≠ .clearUserRevocation token.userId) ∨
    (∃ input ∈ after, token.RevokesTenant input.call) ∨
    ∃ input ∈ before ++ after, token.RevokesForLife input

/-- A moment of the life of the token: `seen` has been called since its issue. -/
structure Moment (before after seen : List Input) (now : Nat) : Prop where
  begun : seen <+: after
  issued : token.issued ≤ now
  called : ∀ input ∈ before ++ seen, input.now ≤ now
  alive : now < token.expiry

/-- The latest calls reach the token: that for its jti or its session has not ended, or
that for its user or its tenant came in a later second than the issue. -/
def InForce (past : List Input) (now : Nat) : Prop :=
  tokenInForce past now token.jti = true ∨
    (∃ time, userCutoff past token.userId = some time ∧ token.issuedAt < time / 1000) ∨
    sessionInForce past now token.sessionId = true ∨
    ∃ time, tenantCutoff past token.tenantId = some time ∧ token.issuedAt < time / 1000

/-- What the service answers about the token. -/
def reported (past : List Input) (now : Nat) : Bool :=
  (isRevoked (machine.run .empty past) now token.jti token.userId token.sessionId token.tenantId
    token.issuedAt).revoked

/-- Whenever the token ought to be revoked, the service says so. -/
def ReportedWhenRevoked (before after : List Input) : Prop :=
  ∀ seen now, token.Moment before after seen now → token.OughtToBeRevoked before seen →
    token.reported (before ++ seen) now = true

variable {token}

theorem cutsOff_iff {now : Nat} (alive : now < token.expiry) (cutoff : Option Nat) :
    cutsOff now token.issuedAt cutoff = true ↔
      ∃ time, cutoff = some time ∧ token.issuedAt < time / 1000 := by
  have bound := token.lifetime_le
  unfold expiry at alive
  rw [cutsOff, Option.any_eq_true]
  apply exists_congr
  intro time
  rw [decide_eq_true_iff]
  have notExpired : token.issuedAt < time / 1000 → now < time + 1000 * cutoffSeconds := by omega
  exact and_congr_right fun _ => and_iff_right_of_imp notExpired

theorem reported_iff {past : List Input} {now : Nat} (alive : now < token.expiry) :
    token.reported past now = true ↔ token.InForce past now := by
  unfold reported InForce
  rw [(remembers_run past).isRevoked, Bool.or_eq_true, Bool.or_eq_true, Bool.or_eq_true,
    cutsOff_iff alive, cutsOff_iff alive, or_assoc, or_assoc]

/-- The service reports the token whenever it ought to be revoked exactly if the latest
calls reach it then. -/
theorem reported_when_revoked_iff (token : IssuedToken) (before after : List Input) :
    token.ReportedWhenRevoked before after ↔
      ∀ seen now, token.Moment before after seen now → token.OughtToBeRevoked before seen →
        token.InForce (before ++ seen) now := by
  constructor
  · intro complete seen now moment ought
    exact (reported_iff moment.alive).mp (complete seen now moment ought)
  · intro condition seen now moment ought
    exact (reported_iff moment.alive).mpr (condition seen now moment ought)

/-- A token issued in the second in which its user is revoked is not reported, nor one
whose revocation a second call with less time to live has replaced. -/
theorem revocation_is_incomplete :
    let token : IssuedToken := ⟨"j", "u", "s", "t", 1000000, 3600, by decide⟩
    ¬token.ReportedWhenRevoked [] [⟨1000700, .revokeUserTokens "u" .passwordChange, .ok (), 0⟩] ∧
      ¬token.ReportedWhenRevoked []
        [⟨1001000, .revokeToken "j" "u" 3600 .logout, .ok (), 0⟩,
          ⟨1002000, .revokeToken "j" "u" 10 .logout, .ok (), 0⟩] := by
  constructor
  · intro complete
    have reported := complete _ 1001000
      ⟨List.prefix_refl _, by decide, by decide, by decide⟩
      (.inl ⟨[], _, [], rfl, ⟨_, rfl⟩, nofun⟩)
    exact absurd reported (by decide +kernel)
  · intro complete
    have reported := complete _ 1013000
      ⟨List.prefix_refl _, by decide, by decide, by decide⟩
      (.inr (.inr ⟨_, List.mem_cons_self, .inl ⟨_, _, _, rfl, by decide⟩⟩))
    exact absurd reported (by decide +kernel)

end IssuedToken

section Checker

variable (past : List Input) (now : Nat) (jti userId sessionId tenantId : String) (issuedAt : Nat)

/-- Service and checker say the same about a token. -/
def CheckerAgrees : Prop :=
  (RevocationChecker.isRevoked (machine.run .empty past) now jti userId sessionId
      issuedAt).revoked =
    (isRevoked (machine.run .empty past) now jti userId sessionId tenantId issuedAt).revoked

/-- Only the latest revocation of its tenant cuts the token off. -/
def OnlyTenantRevoked : Prop :=
  cutsOff now issuedAt (tenantCutoff past tenantId) = true ∧
    tokenInForce past now jti = false ∧ cutsOff now issuedAt (userCutoff past userId) = false ∧
      sessionInForce past now sessionId = false

theorem checkerAgrees_iff : CheckerAgrees past now jti userId sessionId tenantId issuedAt ↔
      ¬OnlyTenantRevoked past now jti userId sessionId tenantId issuedAt := by
  unfold CheckerAgrees OnlyTenantRevoked
  rw [(remembers_run past).isRevoked, (remembers_run past).checker_isRevoked]
  cases tokenInForce past now jti <;> cases cutsOff now issuedAt (userCutoff past userId) <;>
    cases sessionInForce past now sessionId <;>
    cases cutsOff now issuedAt (tenantCutoff past tenantId) <;> decide

/-- Over a history of calls the checker and the service agree about a token at every moment
exactly if at no moment the token is cut off by its tenant alone. -/
theorem checker_agrees_iff (history : List Input) :
    (∀ seen now, seen <+: history → (∀ input ∈ seen, input.now ≤ now) →
        CheckerAgrees seen now jti userId sessionId tenantId issuedAt) ↔
      ∀ seen now, seen <+: history → (∀ input ∈ seen, input.now ≤ now) →
        ¬OnlyTenantRevoked seen now jti userId sessionId tenantId issuedAt := by
  simp [checkerAgrees_iff]

/-- The tokens of a revoked tenant pass the checker. -/
theorem checker_misses_tenants :
    ¬CheckerAgrees [⟨2000, .revokeTenantTokens "t" .tenantSuspended, .ok (), 2000⟩] 3000
        "j" "u" "s" "t" 1 := by
  unfold CheckerAgrees
  decide +kernel

end Checker

end Caas.Auth.RevocationService
