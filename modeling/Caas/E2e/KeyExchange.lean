import Caas.Async.Pool
import Caas.Js.Json
import Caas.Redis.ExpiringMap

/-!
# The start of a key exchange

An initiator has taken a bundle of the responder, and sends the first message of X3DH with
the id of the one-time pre-key that it has used, if any. The service looks whether the
responder has a bundle, has the pre-key removed, and forwards the initiation.

The keys with the prefixes `prekey:ratelimit:` and `prekey:bundle:` are two maps here, and
the text of a bundle is the bundle. What the crypto service answers is given with each step;
a pre-key is removed whether or not it is still there. What is sent is one command.
-/

namespace Caas.E2e

open Js Async Redis

/-- The numbers of keys are of the type `ν`. -/
structure PreKey (ν : Type) where
  keyId : ν
  publicKey : String
deriving DecidableEq

structure SignedPreKey (ν : Type) extends PreKey ν where
  signature : String
deriving DecidableEq

structure PreKeyBundle (ν : Type) where
  userId : String
  identityKey : String
  signedPreKey : SignedPreKey ν
  oneTimePreKeys : List (PreKey ν)
  timestamp : Nat
deriving DecidableEq

structure X3DHInitiation (ν : Type) where
  responderId : String
  identityKey : String
  ephemeralKey : String
  oneTimePreKeyId : Option ν
  initialMessage : Option String
deriving DecidableEq

/-- `e2e:x3dh_initiate` to the responder. -/
structure ForwardedInitiation (ν : Type) where
  initiatorId : String
  initiation : X3DHInitiation ν
  timestamp : Nat
deriving DecidableEq

/-- `e2e:x3dh_initiation_response` to the initiator. -/
inductive InitiationResponse where
  | success (responderId : String)
  | failure (error : String)
deriving DecidableEq

/-- Redis, with what has been asked of the crypto service and what has been forwarded. -/
structure KeyExchangeStore (ν : Type) where
  now : Nat
  requests : ExpiringMap String Nat
  bundles : ExpiringMap String (PreKeyBundle ν)
  removed : List String
  forwarded : List (ForwardedInitiation ν)

namespace E2EKeyExchange

inductive KeyExchangeCommand (ν : Type) where
  | incr (key : String)
  | expire (key : String) (seconds : Nat)
  | get (key : String)
  | setex (key : String) (seconds : Nat) (bundle : PreKeyBundle ν)
  | del (key : String)
  /-- `axios.get` of a user's bundle. -/
  | fetchBundle (targetUserId : String)
  /-- `axios.delete` of a pre-key. -/
  | deletePreKey (bundleId : String)
  /-- Forward an initiation with the time of sending. -/
  | forward (initiatorId : String) (initiation : X3DHInitiation ν)

/-- What the crypto service answers. -/
inductive BundleReply (ν : Type) where
  | found (bundle : PreKeyBundle ν)
  | notFound
  | failed (error : String)

variable {ν : Type}

def KeyExchangeCommand.Reply : KeyExchangeCommand ν → Type
  | .incr _ => Nat
  | .expire _ _ => Unit
  | .get _ => Option (PreKeyBundle ν)
  | .setex _ _ _ => Unit
  | .del _ => Unit
  | .fetchBundle _ => BundleReply ν
  | .deletePreKey _ => Unit
  | .forward _ _ => Unit

abbrev KeyExchangeProgram (ν : Type) := Program (KeyExchangeCommand ν) KeyExchangeCommand.Reply

def await (command : KeyExchangeCommand ν) : KeyExchangeProgram ν command.Reply :=
  Program.command command

/-- Execute a command; `answer` is what the crypto service would answer. -/
def exec (store : KeyExchangeStore ν) (command : KeyExchangeCommand ν) (answer : BundleReply ν) :
    KeyExchangeStore ν × command.Reply :=
  match command with
  | .incr key =>
    let requests := (store.requests.lookup store.now key).getD 0 + 1
    ({ store with requests := store.requests.replace store.now key requests }, requests)
  | .expire key seconds =>
    ({ store with requests := store.requests.expire store.now key seconds }, ())
  | .get key => (store, store.bundles.lookup store.now key)
  | .setex key seconds bundle =>
    ({ store with bundles := store.bundles.store store.now key seconds bundle }, ())
  | .del key => ({ store with bundles := OrderedMap.delete store.bundles key }, ())
  | .fetchBundle _ => (store, answer)
  | .deletePreKey bundleId => ({ store with removed := store.removed ++ [bundleId] }, ())
  | .forward initiatorId initiation =>
    ({ store with forwarded := store.forwarded ++ [⟨initiatorId, initiation, store.now⟩] }, ())

/-- `cacheTTL` and `rateLimitPerMinute` -/
structure Config where
  cacheTTL : Nat
  rateLimitPerMinute : Nat

variable (numbers : Json.Numbers ν) (config : Config)

def cacheKey (userId : String) : String := "prekey:bundle:" ++ userId

/-- The cached bundle, or the one that the crypto service has. -/
def findBundle (targetUserId : String) : KeyExchangeProgram ν (Option (PreKeyBundle ν)) := do
  let cached : Option (PreKeyBundle ν) ← await (.get (cacheKey targetUserId))
  match cached with
  | some bundle => pure (some bundle)
  | none => do
    let response : BundleReply ν ← await (.fetchBundle targetUserId)
    match response with
    | .found bundle => do
      let _ ← await (.setex (cacheKey targetUserId) config.cacheTTL bundle)
      pure (some bundle)
    | .notFound => pure none
    | .failed error => .failure error

def requestBundle (requesterId targetUserId : String) :
    KeyExchangeProgram ν (Option (PreKeyBundle ν)) := do
  let rateLimitKey := "prekey:ratelimit:" ++ requesterId
  let requests : Nat ← await (.incr rateLimitKey)
  if requests = 1 then do
    let _ ← await (.expire rateLimitKey 60)
  if requests > config.rateLimitPerMinute then
    .failure "Rate limit exceeded for pre-key bundle requests"
  else findBundle config targetUserId

def removeUsedPreKey (userId bundleId : String) : KeyExchangeProgram ν Unit := do
  let _ ← await (.deletePreKey bundleId)
  await (.del (cacheKey userId))

/-- The pre-key that is removed: its id has to count as true. -/
def usedPreKey? (initiation : X3DHInitiation ν) : Option ν :=
  initiation.oneTimePreKeyId.filter fun id => !numbers.isZero id

def handleX3DHInitiation (userId : String) (data : X3DHInitiation ν) :
    KeyExchangeProgram ν InitiationResponse :=
  Program.catching
    (do
      let bundle : Option (PreKeyBundle ν) ← requestBundle config userId data.responderId
      match bundle with
      | none => pure (.failure "Responder bundle not found")
      | some _ => do
        match usedPreKey? numbers data with
        | some id =>
          removeUsedPreKey data.responderId
            (data.responderId ++ ":" ++ String.ofList (numbers.digits id))
        | none => pure ()
        let _ ← await (.forward userId data)
        pure (.success data.responderId))
    fun error => pure (.failure error)

structure InitiationCall (ν : Type) where
  userId : String
  data : X3DHInitiation ν

/-- What changes besides: time passes, or a cached bundle is evicted. -/
inductive KeyExchangeChange where
  | elapse (milliseconds : Nat)
  | evict (key : String)

def host : Host (KeyExchangeStore ν) (KeyExchangeCommand ν) KeyExchangeCommand.Reply
    (BundleReply ν) KeyExchangeChange (InitiationCall ν) InitiationResponse where
  exec := exec
  change store
    | .elapse milliseconds => { store with now := store.now + milliseconds }
    | .evict key => { store with bundles := OrderedMap.delete store.bundles key }
  body call := handleX3DHInitiation numbers config call.userId call.data

end E2EKeyExchange

end Caas.E2e
