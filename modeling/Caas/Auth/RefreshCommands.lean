import Caas.Auth.RefreshService

/-!
# What the functions of the refresh service write

One lemma per function, over which token records it writes and which commands it
issues on families. Its other commands only read, or touch the index of a user.
-/

namespace Caas.Auth

open Async Program Redis

/-- The commands that write only the given token records, and of those on families only
the given ones. -/
def Confined (tokenWrite : String → RefreshTokenData → Prop)
    (familyCommand : StringCommand String RefreshTokenFamily → Prop) : RefreshCommand → Prop
  | .token (.setex tokenHash _ data) => tokenWrite tokenHash data
  | .token (.del _) => False
  | .family command => familyCommand command
  | _ => True

/-- A family may be read and written back as `rewrite` changes it. -/
structure Rewrites (familyCommand : StringCommand String RefreshTokenFamily → Prop)
    (familyId : String) (rewrite : RefreshTokenFamily → RefreshTokenFamily) : Prop where
  get : familyCommand (.get familyId)
  ttl : familyCommand (.ttl familyId)
  setex : ∀ seconds family, familyCommand (.setex familyId seconds (rewrite family))

/-- What `markAsUsed` makes of a record. -/
def RefreshTokenData.asUsed (data : RefreshTokenData) : RefreshTokenData :=
  { data with used := true }

/-- What `revoke` makes of a record. -/
def RefreshTokenData.asRevoked (data : RefreshTokenData) : RefreshTokenData :=
  { data with revoked := true }

/-- What `addTokenToFamily` makes of a family. -/
def RefreshTokenFamily.withToken (tokenId : String) (family : RefreshTokenFamily) :
    RefreshTokenFamily :=
  { family with tokens := family.tokens ++ [tokenId] }

/-- What `revokeFamily` makes of a family. -/
def RefreshTokenFamily.asRevoked (family : RefreshTokenFamily) : RefreshTokenFamily :=
  { family with revoked := true }

variable {tokenWrite : String → RefreshTokenData → Prop}
  {familyCommand : StringCommand String RefreshTokenFamily → Prop}
  {assumes : (command : RefreshCommand) → command.Reply → Prop}

theorem Confined.mono {tokenWrite' : String → RefreshTokenData → Prop}
    {familyCommand' : StringCommand String RefreshTokenFamily → Prop} {command : RefreshCommand}
    (confined : Confined tokenWrite familyCommand command)
    (tokens : ∀ tokenHash data, tokenWrite tokenHash data → tokenWrite' tokenHash data)
    (families : ∀ command, familyCommand command → familyCommand' command) :
    Confined tokenWrite' familyCommand' command := by
  cases command with
  | validate | generateAccessToken | userTokens => trivial
  | family command => exact families command confined
  | token command =>
    cases command with
    | get | ttl => trivial
    | setex tokenHash seconds data => exact tokens tokenHash data confined
    | del => exact confined

namespace RefreshStore

variable {store : RefreshStore} {oracle : RefreshOracle} {command : RefreshCommand} {now : Nat}

theorem now_exec : (store.exec oracle command).1.now = store.now := by
  cases command <;> rfl

theorem lookup_token_exec {tokenHash : String} {data : RefreshTokenData}
    (found : (store.exec oracle command).1.tokens.lookup now tokenHash = some data) :
    store.tokens.lookup now tokenHash = some data ∨
      ∃ seconds, command = .token (.setex tokenHash seconds data) := by
  cases command with
  | validate | generateAccessToken | userTokens | family => exact .inl found
  | token command =>
    rcases StringCommand.lookup_exec found with before | ⟨seconds, rfl⟩
    · exact .inl before
    · exact .inr ⟨seconds, rfl⟩

theorem lookup_family_exec {familyId : String} {family : RefreshTokenFamily}
    (found : (store.exec oracle command).1.families.lookup now familyId = some family) :
    store.families.lookup now familyId = some family ∨
      ∃ seconds, command = .family (.setex familyId seconds family) := by
  cases command with
  | validate | generateAccessToken | userTokens | token => exact .inl found
  | family command =>
    rcases StringCommand.lookup_exec found with before | ⟨seconds, rfl⟩
    · exact .inl before
    · exact .inr ⟨seconds, rfl⟩

end RefreshStore

theorem Rewrites.of_forall (families : ∀ command, familyCommand command) (familyId : String)
    (rewrite : RefreshTokenFamily → RefreshTokenFamily) : Rewrites familyCommand familyId rewrite :=
  ⟨families _, families _, fun _ _ => families _⟩

def Unspent (data : RefreshTokenData) : Prop := data.used = false ∧ data.revoked = false

instance (data : RefreshTokenData) : Decidable (Unspent data) :=
  inferInstanceAs (Decidable (_ ∧ _))

theorem not_unspent_of_used (data : RefreshTokenData) : ¬ Unspent data.asUsed := by
  rintro ⟨unused, -⟩
  cases unused

theorem not_unspent_of_revoked (data : RefreshTokenData) : ¬ Unspent data.asRevoked := by
  rintro ⟨-, unrevoked⟩
  cases unrevoked

theorem not_unspent_of_flagged {data : RefreshTokenData}
    (flagged : data.used = true ∨ data.revoked = true) : ¬ Unspent data := by
  rintro ⟨unused, unrevoked⟩
  simp [unused, unrevoked] at flagged

namespace RefreshTokenStore

variable {settings : RefreshSettings} {token : String}

theorem getByHash_issues (tokenHash : String) :
    (getByHash tokenHash).Issues (Confined tokenWrite familyCommand) assumes :=
  issues_command trivial

theorem writeBack_issues {tokenHash : String} {data : RefreshTokenData}
    (written : tokenWrite tokenHash data) :
    (writeBack tokenHash data).Issues (Confined tokenWrite familyCommand) assumes := by
  refine issues_bind (issues_command trivial) fun (ttl : Int) => ?_
  split
  · refine issues_bind (issues_command written) fun reply => ?_
    exact issues_bind issues_orThrow fun _ => issues_pure
  · exact issues_pure

theorem store_issues {data : RefreshTokenData} {ttlSeconds : Int}
    (written : tokenWrite (settings.hashToken token) data) :
    (store settings token data ttlSeconds).Issues (Confined tokenWrite familyCommand) assumes := by
  refine issues_bind (issues_command written) fun reply => ?_
  refine issues_bind issues_orThrow fun _ => ?_
  refine issues_bind (issues_command trivial) fun _ => ?_
  exact issues_bind (issues_command trivial) fun _ => issues_pure

theorem markAsUsed_issues
    (written : ∀ data : RefreshTokenData, tokenWrite (settings.hashToken token) data.asUsed) :
    (markAsUsed settings token).Issues (Confined tokenWrite familyCommand) assumes := by
  refine issues_bind (getByHash_issues _) fun found => ?_
  cases found with
  | none => exact issues_pure
  | some data =>
    exact issues_bind (writeBack_issues (written data)) fun _ => issues_pure

theorem revoke_issues
    (written : ∀ data : RefreshTokenData, tokenWrite (settings.hashToken token) data.asRevoked) :
    (revoke settings token).Issues (Confined tokenWrite familyCommand) assumes := by
  refine issues_bind (getByHash_issues _) fun found => ?_
  cases found with
  | none => exact issues_pure
  | some data =>
    exact issues_bind (writeBack_issues (written data)) fun _ => issues_pure

theorem revokeEach_issues
    (written : ∀ tokenHash (data : RefreshTokenData), tokenWrite tokenHash data.asRevoked)
    (tokenHashes : List String) :
    (revokeEach tokenHashes).Issues (Confined tokenWrite familyCommand) assumes := by
  induction tokenHashes with
  | nil => exact issues_pure
  | cons tokenHash rest ih =>
    refine issues_bind (getByHash_issues _) fun found => ?_
    cases found with
    | none => exact ih
    | some data =>
      refine issues_bind (writeBack_issues (written _ data)) fun _ => ?_
      exact issues_bind ih fun _ => issues_pure

theorem revokeAllUserTokens_issues
    (written : ∀ tokenHash (data : RefreshTokenData), tokenWrite tokenHash data.asRevoked)
    (userId : String) :
    (revokeAllUserTokens userId).Issues (Confined tokenWrite familyCommand) assumes :=
  issues_bind (issues_command trivial) fun tokenHashes =>
    revokeEach_issues written tokenHashes

end RefreshTokenStore

namespace FamilyTracker

variable {familyId : String}

theorem writeBack_issues {family : RefreshTokenFamily}
    {rewrite : RefreshTokenFamily → RefreshTokenFamily}
    (rewrites : Rewrites familyCommand familyId rewrite) :
    (writeBack familyId (rewrite family)).Issues (Confined tokenWrite familyCommand) assumes := by
  refine issues_bind (issues_command rewrites.ttl) fun (ttl : Int) => ?_
  split
  · refine issues_bind (issues_command (rewrites.setex _ _)) fun reply => ?_
    exact issues_orThrow
  · exact issues_pure

theorem addTokenToFamily_issues {tokenId : String}
    (rewrites : Rewrites familyCommand familyId (RefreshTokenFamily.withToken tokenId)) :
    (addTokenToFamily familyId tokenId).Issues (Confined tokenWrite familyCommand) assumes := by
  refine issues_bind (issues_command rewrites.get) fun found => ?_
  cases found with
  | none => exact issues_failure
  | some family => exact writeBack_issues rewrites

theorem revokeFamily_issues
    (rewrites : Rewrites familyCommand familyId RefreshTokenFamily.asRevoked) :
    (revokeFamily familyId).Issues (Confined tokenWrite familyCommand) assumes := by
  refine issues_bind (issues_command rewrites.get) fun found => ?_
  cases found with
  | none => exact issues_pure
  | some family => exact writeBack_issues rewrites

theorem isFamilyRevoked_issues (reads : familyCommand (.get familyId)) :
    (isFamilyRevoked familyId).Issues (Confined tokenWrite familyCommand) assumes :=
  issues_bind (issues_command reads) fun _ => issues_pure

end FamilyTracker

namespace ReuseDetector

variable {tokenData : RefreshTokenData}

theorem detectReuse_issues (reads : familyCommand (.get tokenData.familyId)) :
    (detectReuse tokenData).Issues (Confined tokenWrite familyCommand) assumes := by
  unfold detectReuse
  split
  · exact issues_pure
  · split
    · exact issues_pure
    · refine issues_bind (FamilyTracker.isFamilyRevoked_issues reads) fun revoked => ?_
      split
      · exact issues_pure
      · exact issues_pure

theorem detectReuse_of_not_unspent (flagged : ¬ Unspent tokenData) :
    ∃ result, detectReuse tokenData = pure result ∧ result.isReuse = true := by
  unfold detectReuse
  cases used : tokenData.used with
  | true => exact ⟨_, if_pos rfl, rfl⟩
  | false =>
    cases revoked : tokenData.revoked with
    | true => exact ⟨_, (if_neg (by simp)).trans (if_pos rfl), rfl⟩
    | false => exact absurd ⟨used, revoked⟩ flagged

theorem handleReuse_issues
    (tokenWritten : ∀ tokenHash (data : RefreshTokenData), tokenWrite tokenHash data.asRevoked)
    (rewrites : Rewrites familyCommand tokenData.familyId RefreshTokenFamily.asRevoked)
    (reuseResult : ReuseDetectionResult) :
    (handleReuse tokenData reuseResult).Issues (Confined tokenWrite familyCommand) assumes := by
  unfold handleReuse
  split
  · split
    · refine issues_bind (FamilyTracker.revokeFamily_issues rewrites) fun _ => ?_
      refine issues_bind
        (RefreshTokenStore.revokeAllUserTokens_issues tokenWritten _) fun _ => ?_
      exact issues_pure
    · exact issues_pure
    · exact issues_pure
  · exact issues_pure

end ReuseDetector

namespace RefreshService

variable {settings : RefreshSettings} {oldTokenData tokenData : RefreshTokenData}
  {refreshToken : String}

theorem generateNewTokenPair_issues
    (tokenWritten : ∀ sessionId deviceId (reply : Except String Generated),
      assumes (.generateAccessToken sessionId deviceId) reply →
        ∀ generated, reply = .ok generated → ∀ data : RefreshTokenData,
          data.familyId = oldTokenData.familyId →
            tokenWrite (settings.hashToken generated.tokens.refreshToken) data)
    (rewrites : ∀ tokenId,
      Rewrites familyCommand oldTokenData.familyId (RefreshTokenFamily.withToken tokenId)) :
    (generateNewTokenPair settings oldTokenData).Issues (Confined tokenWrite familyCommand)
      assumes := by
  refine issues_command_bind trivial fun (reply : Except String Generated) assumed => ?_
  refine issues_orThrow_bind fun generated issued => ?_
  have written := tokenWritten _ _ reply assumed generated issued
  split
  · refine issues_bind
      (RefreshTokenStore.store_issues (written _ rfl)) fun _ => ?_
    refine issues_bind
      (FamilyTracker.addTokenToFamily_issues (rewrites _)) fun _ => ?_
    exact issues_pure
  · exact issues_pure

theorem rotate_issues
    (flagged : ∀ tokenHash (data : RefreshTokenData), data.used = true ∨ data.revoked = true →
      tokenWrite tokenHash data)
    (tokenWritten : ∀ sessionId deviceId (reply : Except String Generated),
      assumes (.generateAccessToken sessionId deviceId) reply →
        ∀ generated, reply = .ok generated → ∀ data : RefreshTokenData,
          data.familyId = tokenData.familyId →
            tokenWrite (settings.hashToken generated.tokens.refreshToken) data)
    (rewrites : ∀ tokenId,
      Rewrites familyCommand tokenData.familyId (RefreshTokenFamily.withToken tokenId)) :
    (rotate settings refreshToken tokenData).Issues (Confined tokenWrite familyCommand)
      assumes := by
  refine issues_bind (RefreshTokenStore.markAsUsed_issues
    fun data => flagged _ _ (.inl rfl)) fun _ => ?_
  refine issues_bind (generateNewTokenPair_issues tokenWritten rewrites) fun _ => ?_
  split
  · refine issues_bind (RefreshTokenStore.revoke_issues
      fun data => flagged _ _ (.inr rfl)) fun _ => ?_
    exact issues_pure
  · exact issues_pure

theorem proceed_issues
    (flagged : ∀ tokenHash (data : RefreshTokenData), data.used = true ∨ data.revoked = true →
      tokenWrite tokenHash data)
    (tokenWritten : ∀ sessionId deviceId (reply : Except String Generated),
      assumes (.generateAccessToken sessionId deviceId) reply →
        ∀ generated, reply = .ok generated → ∀ data : RefreshTokenData,
          data.familyId = tokenData.familyId →
            tokenWrite (settings.hashToken generated.tokens.refreshToken) data)
    (families : ∀ rewrite, Rewrites familyCommand tokenData.familyId rewrite) :
    (proceed settings refreshToken tokenData).Issues (Confined tokenWrite familyCommand)
      assumes := by
  refine issues_bind (ReuseDetector.detectReuse_issues (families id).get) fun result => ?_
  split
  · refine issues_bind (ReuseDetector.handleReuse_issues
      (fun tokenHash data => flagged tokenHash _ (.inr rfl)) (families _) result) fun _ => ?_
    exact issues_pure
  · exact rotate_issues flagged tokenWritten fun _ => families _

theorem refresh_issues
    (flagged : ∀ tokenHash (data : RefreshTokenData), data.used = true ∨ data.revoked = true →
      tokenWrite tokenHash data)
    (tokenWritten : ∀ sessionId deviceId (reply : Except String Generated),
      assumes (.generateAccessToken sessionId deviceId) reply →
        ∀ generated, reply = .ok generated → ∀ data : RefreshTokenData,
          tokenWrite (settings.hashToken generated.tokens.refreshToken) data)
    (families : ∀ command, familyCommand command) :
    (refresh settings refreshToken).Issues (Confined tokenWrite familyCommand) assumes := by
  refine issues_catching ?_ fun _ => issues_pure
  refine issues_command_bind trivial fun (_ : Except String Unit) _ => ?_
  refine issues_orThrow_bind fun _ _ => ?_
  refine issues_command_bind trivial fun (found : Option RefreshTokenData) _ => ?_
  cases found with
  | none => exact issues_pure
  | some tokenData =>
    refine proceed_issues flagged (fun _ _ reply assumed generated issued data _ =>
      tokenWritten _ _ reply assumed generated issued data) fun rewrite => ?_
    exact Rewrites.of_forall families _ _

end RefreshService

end Caas.Auth
