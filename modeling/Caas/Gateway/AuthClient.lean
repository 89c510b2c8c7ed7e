import Mathlib.Logic.Function.Basic
import Caas.Auth.IpWhitelist

/-!
# The gateway's client of the auth service

`validateApiKey` of the gateway, with its cache, in front of the endpoint of the auth
service with its own caches. Calls are made one after the other; between two of them time
may pass, and the auth service may be called otherwise. A request that is sent again
after it was not answered is such a call of its own.
-/

namespace Caas.Gateway

open Async Redis Auth

abbrev ValidateApiKeyResponse := ApiKeyValidationResult

/-- An answer of the endpoint, with its status. -/
structure Reply where
  status : Nat
  data : ValidateApiKeyResponse

/-- The endpoint `POST /api/v1/auth/internal/validate-api-key`. -/
def endpoint (settings : ClientSettings) (apiKey : String) (ipAddress : Option String) :
    ClientProgram Reply :=
  Program.catching
    (do
      if apiKey = "" then return ⟨400, ApiKeyService.invalid "API key is required"⟩
      else
        match ← ApiKeyService.validateApiKey settings apiKey ipAddress with
        | .validated result => return ⟨if result.valid then 200 else 401, result⟩
        -- The service answers a validation with nothing else.
        | .generated _ _ | .rotated _ | .done => Program.failure "")
    fun _ =>
      return ⟨500, ApiKeyService.invalid "Internal server error during API key validation"⟩

/-- The cache of the gateway, and the auth service. Their Redis servers share a clock. -/
structure GatewayStore where
  cache : ExpiringMap String ValidateApiKeyResponse
  auth : ClientStore

def serve {α : Type} (program : ClientProgram α) (circumstances : ClientCircumstances)
    (store : ClientStore) : ClientStore × Program.Outcome α :=
  program.run ClientStore.execLater circumstances 0 store

namespace AuthClient

variable (settings : ClientSettings) (keyPrefix : String)

def cacheTtl : Int := 300

def cacheKey (apiKey : String) : String := keyPrefix ++ ("apikey:" ++ apiKey)

def getCached (store : GatewayStore) (apiKey : String) : Option ValidateApiKeyResponse :=
  store.cache.lookup store.auth.now (cacheKey keyPrefix apiKey)

def setCache (store : GatewayStore) (apiKey : String) (data : ValidateApiKeyResponse) :
    GatewayStore :=
  { store with
    cache := (StringCommand.exec store.cache store.auth.now
      (.setex (cacheKey keyPrefix apiKey) cacheTtl data)).1 }

/-- What the client makes of an answer; a status that is no success is an error of the request. -/
def receive (reply : Reply) : Except String ValidateApiKeyResponse :=
  if reply.status = 200 then .ok reply.data
  else if reply.status = 401 then
    .ok (ApiKeyService.invalid (ClientRepository.orElse reply.data.error "Invalid API key"))
  else .error ("Request failed with status code " ++ toString reply.status)

/-- The request to the auth service, which an open circuit or the network may reject. -/
def request (apiKey : String) (ipAddress : Option String) (fault : Option Fault)
    (circumstances : ClientCircumstances) (store : GatewayStore) :
    GatewayStore × Except String ValidateApiKeyResponse :=
  match fault with
  | some (.lost error) => (store, .error error)
  | some (.unanswered error) =>
    ({ store with auth := (serve (endpoint settings apiKey ipAddress) circumstances store.auth).1 },
      .error error)
  | none =>
    let (auth, outcome) := serve (endpoint settings apiKey ipAddress) circumstances store.auth
    match outcome.bind receive with
    | .error error => ({ store with auth }, .error error)
    | .ok data =>
      if data.valid then (setCache keyPrefix { store with auth } apiKey data, .ok data)
      else ({ store with auth }, .ok data)

def validateApiKey (apiKey : String) (ipAddress : Option String) (fault : Option Fault)
    (circumstances : ClientCircumstances) (store : GatewayStore) :
    GatewayStore × Except String ValidateApiKeyResponse :=
  match getCached keyPrefix store apiKey with
  | some cached =>
    if cached.valid then (store, .ok cached)
    else request settings keyPrefix apiKey ipAddress fault circumstances store
  | none => request settings keyPrefix apiKey ipAddress fault circumstances store

end AuthClient

/-- What else happens to the auth service. -/
inductive AuthCall where
  | apiKey (call : ApiKeyCall)
  | addIp (clientId ip : String)
  | removeIp (clientId ip : String)

def AuthCall.body (settings : ClientSettings) (functions : AddressFunctions) :
    AuthCall → ClientProgram ApiKeyResult
  | .apiKey call => ApiKeyService.call settings call
  | .addIp clientId ip => IpWhitelistService.addIp settings functions clientId ip
  | .removeIp clientId ip => IpWhitelistService.removeIp settings functions clientId ip

inductive GatewayInput where
  | validateApiKey (apiKey : String) (ipAddress : Option String) (fault : Option Fault)
      (circumstances : ClientCircumstances)
  | auth (call : AuthCall) (circumstances : ClientCircumstances)
  | elapse (milliseconds : Nat)

/-- The stores, and the clients that the auth service held when it answered last that a key
is valid. These are a history variable: no step depends on them. -/
structure GatewayState where
  store : GatewayStore
  answered : String → List Client

namespace GatewayState

variable (settings : ClientSettings) (functions : AddressFunctions) (keyPrefix : String)

/-- The call is answered from the cache of the gateway. -/
def isHit (state : GatewayState) (apiKey : String) : Bool :=
  (AuthClient.getCached keyPrefix state.store apiKey).any (·.valid)

/-- The call of the gateway; only the answer of a request is remembered. -/
def validateApiKey (state : GatewayState) (apiKey : String) (ipAddress : Option String)
    (fault : Option Fault) (circumstances : ClientCircumstances) :
    GatewayState × Except String ValidateApiKeyResponse :=
  let (store, outcome) :=
    AuthClient.validateApiKey settings keyPrefix apiKey ipAddress fault circumstances state.store
  if outcome.toOption.any (·.valid) && !state.isHit keyPrefix apiKey then
    (⟨store, Function.update state.answered apiKey store.auth.clients⟩, outcome)
  else (⟨store, state.answered⟩, outcome)

/-- One step; only the calls of the gateway are answered. -/
def step (state : GatewayState) :
    GatewayInput → GatewayState × Option (Except String ValidateApiKeyResponse)
  | .validateApiKey apiKey ipAddress fault circumstances =>
    (state.validateApiKey settings keyPrefix apiKey ipAddress fault circumstances).map id some
  | .auth call circumstances =>
    ({ state with
        store.auth := (serve (call.body settings functions) circumstances state.store.auth).1 },
      none)
  | .elapse milliseconds =>
    ({ state with store.auth.now := state.store.auth.now + milliseconds }, none)

/-- The gateway and the auth service. -/
def machine :
    Transducer GatewayState GatewayInput (Option (Except String ValidateApiKeyResponse)) where
  step := step settings functions keyPrefix

/-- The clients of the auth service before anything is cached. -/
def initial (clients : List Client) (now : Nat) : GatewayState :=
  ⟨⟨.empty, ⟨now, clients, .empty, .empty, .empty⟩⟩, fun _ => clients⟩

end GatewayState

end Caas.Gateway
