import Caas.Js.Date
import Caas.Presence.PresenceManager
import Mathlib.Order.Lattice

/-!
# Conflicts between presence updates

An update is stored unless the one that is stored wins: by its vector clock, or else because it is
active, by its timestamp, or by its node id. What is stored is JSON, so that a stored timestamp is
a text.

Of the ids of nodes, strings that JavaScript compares, only the order is used. A clock has its
nodes as own properties, none of them named like a property of every object. Redis does not fail.
-/

namespace Caas.Presence.PresenceConflictResolver

open Js Redis

/-- A valid date, or the text that it becomes in JSON. -/
inductive Timestamp where
  | date (time : Int)
  | text (iso : String)
deriving DecidableEq

/-- `left > right`. A text and a date are compared as numbers, and the text of a date is none. -/
def Timestamp.greater : Timestamp → Timestamp → Bool
  | .date left, .date right => right < left
  | .text left, .text right => right < left
  | .date _, .text _ | .text _, .date _ => false

/-- `JSON.parse(JSON.stringify(timestamp))`. -/
def Timestamp.json : Timestamp → Timestamp
  | .date time => .text (String.ofList (Date.isoText time))
  | .text iso => .text iso

abbrev VectorClock (NodeId : Type) := OrderedMap NodeId Nat

structure PresenceUpdate (NodeId : Type) where
  userId : String
  status : PresenceStatus
  timestamp : Timestamp
  vectorClock : VectorClock NodeId
  nodeId : NodeId

/-- `JSON.parse(JSON.stringify(update))`. -/
def PresenceUpdate.json {NodeId : Type} (update : PresenceUpdate NodeId) : PresenceUpdate NodeId :=
  { update with timestamp := update.timestamp.json }

inductive ClockOrder where
  | before
  | after
  | concurrent
deriving DecidableEq

section Comparison

variable {NodeId : Type} [DecidableEq NodeId]

def keys (clock : VectorClock NodeId) : List NodeId := clock.entries.map Prod.fst

/-- `clock[nodeId] || 0`. -/
def valueAt (clock : VectorClock NodeId) (nodeId : NodeId) : Nat :=
  (OrderedMap.get clock nodeId).getD 0

/-- The loop of `compareVectorClocks`, with what it has found so far: whether `a` is greater
somewhere, and whether `b` is. -/
def compareAt (a b : VectorClock NodeId) (found : Bool × Bool) (nodeId : NodeId) : Bool × Bool :=
  if valueAt a nodeId > valueAt b nodeId then (true, found.2)
  else if valueAt b nodeId > valueAt a nodeId then (found.1, true)
  else found

/-- `new Set([...Object.keys(a), ...Object.keys(b)])`. -/
def allNodes (a b : VectorClock NodeId) : List NodeId :=
  keys a ++ (keys b).filter (· ∉ keys a)

def compareVectorClocks (a b : VectorClock NodeId) : ClockOrder :=
  let (aIsGreater, bIsGreater) := (allNodes a b).foldl (compareAt a b) (false, false)
  if aIsGreater ∧ ¬ bIsGreater then .after
  else if bIsGreater ∧ ¬ aIsGreater then .before
  else .concurrent

end Comparison

def activeStates : List PresenceStatus := [.online, .away, .busy]

variable {NodeId : Type} [LinearOrder NodeId]

def resolveConflict (update1 update2 : PresenceUpdate NodeId) : PresenceUpdate NodeId :=
  match compareVectorClocks update1.vectorClock update2.vectorClock with
  | .after => update1
  | .before => update2
  | .concurrent =>
    let update1IsActive := update1.status ∈ activeStates
    let update2IsActive := update2.status ∈ activeStates
    if update1IsActive ∧ ¬ update2IsActive then update1
    else if update2IsActive ∧ ¬ update1IsActive then update2
    else if update1.timestamp.greater update2.timestamp then update1
    else if update2.timestamp.greater update1.timestamp then update2
    else if update1.nodeId > update2.nodeId then update1
    else update2

/-- The clock and the states of presence, by their keys. -/
structure PresenceStore (NodeId : Type) where
  now : Nat
  states : ExpiringMap String (PresenceUpdate NodeId)

def stateKey (userId : String) : String := s!"presence:state:{userId}"

/-- The `EX` of every stored state. -/
def stateTtl : Nat := 24 * 60 * 60

def saveUpdate (store : PresenceStore NodeId) (update : PresenceUpdate NodeId) :
    PresenceStore NodeId :=
  { store with
    states := store.states.store store.now (stateKey update.userId) stateTtl update.json }

def applyUpdate (store : PresenceStore NodeId) (update : PresenceUpdate NodeId) :
    PresenceStore NodeId × Bool :=
  match store.states.lookup store.now (stateKey update.userId) with
  | none => (saveUpdate store update, true)
  | some currentUpdate =>
    let resolved := resolveConflict currentUpdate update
    if resolved.timestamp = update.timestamp ∧ resolved.nodeId = update.nodeId then
      (saveUpdate store update, true)
    else (store, false)

end Caas.Presence.PresenceConflictResolver
