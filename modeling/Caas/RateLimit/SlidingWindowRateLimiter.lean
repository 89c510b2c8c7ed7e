import Mathlib.Algebra.BigOperators.Group.Finset.Basic
import Mathlib.Algebra.Order.BigOperators.Group.Finset
import Mathlib.Algebra.Order.BigOperators.Group.List
import Mathlib.Data.Finset.Card
import Mathlib.Data.Finset.Image
import Mathlib.Data.Finset.Lattice.Fold
import Mathlib.Data.Finset.Max
import Caas.Async.Pool
import Caas.Redis.ExpiringMap

/-!
# The sliding window rate limiter

The requests on a key are entries of a sorted set in Redis. A check removes the entries that are
too old, counts the others, and then adds an entry for every unit of its cost.

Scores are in thousandths of a millisecond. The member of an entry is its score in decimal, so
entries of one score are one entry; sums of a time and of some thousandths that differ have
different scores at times of our decades, though scores are floating-point numbers. Redis does not
fail, and its clock is the one that a check reads when it begins.
-/

namespace Caas.RateLimit

open Async Js Redis

structure RateLimitResult where
  allowed : Bool
  remaining : Nat
  resetAt : Nat
  retryAfterMs : Option Nat := none
deriving DecidableEq

/-- The clock, and the sorted sets by their keys. -/
structure LimitState where
  now : Nat
  sets : ExpiringMap String (Finset Nat)

inductive LimitCommand where
  | dateNow
  | zRemRangeByScore (key : String) (windowStart : Int)
  | zCard (key : String)
  | zRangeFirst (key : String)
  | exec (key : String) (scores : Finset Nat) (seconds : Nat)

def LimitCommand.Reply : LimitCommand → Type
  | .dateNow => Nat
  | .zRemRangeByScore _ _ => Unit
  | .zCard _ => Nat
  | .zRangeFirst _ => Option Nat
  | .exec _ _ _ => Unit

abbrev LimitProgram := Program LimitCommand LimitCommand.Reply

def await (command : LimitCommand) : LimitProgram command.Reply := Program.command command

/-- The entries of a key; a key that does not exist has none. -/
def entriesOf (state : LimitState) (key : String) : Finset Nat :=
  (state.sets.lookup state.now key).getD ∅

/-- The entries of a key that exists are replaced; a set without entries does not exist. -/
def keepEntries (state : LimitState) (key : String) (entries : Finset Nat) : LimitState :=
  { state with
    sets := if entries = ∅ then OrderedMap.delete state.sets key
      else state.sets.replace state.now key entries }

/-- `ZREMRANGEBYSCORE` from zero up to a time. -/
def removeUpTo (windowStart : Int) (entries : Finset Nat) : Finset Nat :=
  entries.filter fun score => ¬ (score : Int) ≤ 1000 * windowStart

def exec (state : LimitState) (command : LimitCommand) (_ : Unit) : LimitState × command.Reply :=
  match command with
  | .dateNow => (state, state.now)
  | .zRemRangeByScore key windowStart =>
    (keepEntries state key (removeUpTo windowStart (entriesOf state key)), ())
  | .zCard key => (state, (entriesOf state key).card)
  | .zRangeFirst key =>
    (state, if present : (entriesOf state key).Nonempty then some ((entriesOf state key).min' present)
      else none)
  | .exec key scores seconds =>
    let added := keepEntries state key (entriesOf state key ∪ scores)
    ({ added with sets := added.sets.expire added.now key seconds }, ())

namespace RedisClient

def zRemRangeByScore (key : String) (windowStart : Int) : LimitProgram Unit :=
  await (.zRemRangeByScore key windowStart)

def zCard (key : String) : LimitProgram Nat := await (.zCard key)

def zRangeFirst (key : String) : LimitProgram (Option Nat) := await (.zRangeFirst key)

/-- The `multi` of a check: every score is added and the expiry is set. -/
def pipeline (key : String) (scores : Finset Nat) (seconds : Nat) : LimitProgram Unit :=
  await (.exec key scores seconds)

end RedisClient

def dateNow : LimitProgram Nat := await .dateNow

structure CheckLimit where
  key : String
  limit : Nat
  windowMs : Nat
  cost : Nat := 1
deriving DecidableEq

namespace SlidingWindowRateLimiter

variable (keyPrefix : String)

def redisKey (key : String) : String := s!"{keyPrefix}:{key}"

/-- The scores `now + i * 0.001` of a check. -/
def scoresOf (now cost : Nat) : Finset Nat := (Finset.range cost).image (1000 * now + ·)

def expirySeconds (windowMs : Nat) : Nat := (windowMs + 999) / 1000 + 1

/-- The end of a check that the limit does not allow. -/
def refuse (check : CheckLimit) (now : Nat) : LimitProgram (Nat × RateLimitResult) := do
  let oldest ← RedisClient.zRangeFirst (redisKey keyPrefix check.key)
  let retryAfter :=
    match oldest with
    | none => 1000 * check.windowMs
    | some oldestTimestamp => oldestTimestamp + 1000 * check.windowMs - 1000 * now
  pure (now,
    { allowed := false
      remaining := 0
      resetAt := (1000 * now + retryAfter) / 1000
      retryAfterMs := some ((retryAfter + 999) / 1000) })

def allow (check : CheckLimit) (now currentCount : Nat) :
    LimitProgram (Nat × RateLimitResult) := do
  RedisClient.pipeline (redisKey keyPrefix check.key) (scoresOf now check.cost)
    (expirySeconds check.windowMs)
  pure (now,
    { allowed := true
      remaining := check.limit - currentCount - check.cost
      resetAt := now + check.windowMs })

def checkLimit (check : CheckLimit) : LimitProgram (Nat × RateLimitResult) := do
  let now ← dateNow
  RedisClient.zRemRangeByScore (redisKey keyPrefix check.key) (now - check.windowMs)
  let currentCount ← RedisClient.zCard (redisKey keyPrefix check.key)
  if currentCount + check.cost > check.limit then refuse keyPrefix check now
  else allow keyPrefix check now currentCount

/-- Checks; time passes between commands. -/
def host : Host LimitState LimitCommand LimitCommand.Reply Unit Nat CheckLimit
    (Nat × RateLimitResult) where
  exec := exec
  change state elapsed := { state with now := state.now + elapsed }
  body := checkLimit keyPrefix

end SlidingWindowRateLimiter

end Caas.RateLimit

/-!
## No window has more than the limit

The costs of the checks that are allowed should not exceed the limit in any window. A check counts
entries and adds its own later, and an entry is known by its score: checks that overlap may be
allowed by the same count, and checks of the same millisecond share their entries.
-/

namespace Caas.RateLimit.SlidingWindowRateLimiter

open Async Js Redis

/-- How far a check has come: it has read the clock, removed old entries, counted the others, or
is allowed or refused. -/
inductive CheckPhase where
  | idle
  | began (now : Nat)
  | removed (now : Nat)
  | counted (now currentCount : Nat)
  | allowed (now : Nat)
  | refused (now : Nat)

def nextPhase (phase : CheckPhase) : (command : LimitCommand) → command.Reply → CheckPhase
  | .dateNow, now => .began now
  | .zRemRangeByScore _ _, _ =>
    match phase with
    | .began now => .removed now
    | phase => phase
  | .zCard _, currentCount =>
    match phase with
    | .removed now => .counted now currentCount
    | phase => phase
  | .zRangeFirst _, _ =>
    match phase with
    | .counted now _ => .refused now
    | phase => phase
  | .exec _ _ _, _ =>
    match phase with
    | .counted now _ => .allowed now
    | phase => phase

variable (keyPrefix : String)

inductive Awaits (check : CheckLimit) : CheckPhase → LimitCommand → Prop where
  | clock : Awaits check .idle .dateNow
  | remove (now : Nat) :
    Awaits check (.began now)
      (.zRemRangeByScore (redisKey keyPrefix check.key) (now - check.windowMs))
  | count (now : Nat) : Awaits check (.removed now) (.zCard (redisKey keyPrefix check.key))
  | oldest (now currentCount : Nat) :
    Awaits check (.counted now currentCount) (.zRangeFirst (redisKey keyPrefix check.key))
  | add (now currentCount : Nat) (room : currentCount + check.cost ≤ check.limit) :
    Awaits check (.counted now currentCount)
      (.exec (redisKey keyPrefix check.key) (scoresOf now check.cost)
        (expirySeconds check.windowMs))

def discipline (check : CheckLimit) : Discipline LimitCommand LimitCommand.Reply CheckPhase where
  next := nextPhase
  may := Awaits keyPrefix check
  assumes _ _ := True

/-- A check ends with the time that it has read, and as allowed when its entries are added. -/
def ends (phase : CheckPhase) : Program.Outcome (Nat × RateLimitResult) → Prop
  | .ok (now, result) => if result.allowed then phase = .allowed now else phase = .refused now
  | .error _ => False

theorem checkLimit_respects (check : CheckLimit) :
    (checkLimit keyPrefix check).Respects (discipline keyPrefix check) ends .idle := by
  refine ⟨.clock, fun (now : Nat) _ => ⟨.remove now, fun _ _ => ⟨.count now,
    fun (currentCount : Nat) _ => ?_⟩⟩⟩
  change (if currentCount + check.cost > check.limit then refuse keyPrefix check now
    else allow keyPrefix check now currentCount).Respects (discipline keyPrefix check) ends
      (.counted now currentCount)
  split
  · exact ⟨.oldest now currentCount, fun _ _ => rfl⟩
  · next room => exact ⟨.add now currentCount (Nat.not_lt.mp room), fun _ _ => rfl⟩

abbrev CheckEvent := Event Unit Nat CheckLimit

abbrev CheckPool :=
  Pool LimitState LimitCommand LimitCommand.Reply CheckLimit CheckPhase (Nat × RateLimitResult)

def checkMachine : Transducer CheckPool CheckEvent Unit :=
  Pool.machine (host keyPrefix) (discipline keyPrefix) fun _ => .idle

/-- The cost of a check of the key that has been allowed in the window that ends with `stop`. -/
def costIn (key : String) (windowMs stop : Nat) (check : CheckLimit) :
    Option (Program.Outcome (Nat × RateLimitResult)) → Nat
  | some (.ok (now, result)) =>
    if check.key = key ∧ result.allowed ∧ stop < now + windowMs ∧ now ≤ stop then check.cost else 0
  | _ => 0

/-- The total cost of the checks of the key that have been allowed in that window. -/
def totalIn (pool : CheckPool) (key : String) (windowMs stop : Nat) : Nat :=
  (pool.calls.map fun call => costIn key windowMs stop call.input call.program.outcome?).sum

/-- The checks of the key stay within the limit in every window. -/
def Limited (key : String) (limit windowMs : Nat) (pool : CheckPool) : Prop :=
  ∀ stop, totalIn pool key windowMs stop ≤ limit

/-- A check of the key is allowed, made at this time. -/
def AllowedAt (key : String) (check : CheckLimit) (phase : CheckPhase) (now : Nat) : Prop :=
  check.key = key ∧ phase = .allowed now

/-- When a check adds its entries, made at a time and with a count, the entries of every check that
has been allowed in its window are still stored, no more entries are stored than it has counted,
and its own are not those of another check that has been allowed. -/
structure Undisturbed (key : String) (windowMs : Nat) (pool : CheckPool) (now cost currentCount : Nat) :
    Prop where
  kept : ∀ call ∈ pool.calls, ∀ time, AllowedAt key call.input call.phase time →
    now < time + windowMs →
      scoresOf time call.input.cost ⊆ entriesOf pool.shared (redisKey keyPrefix key)
  fresh : (entriesOf pool.shared (redisKey keyPrefix key)).card ≤ currentCount
  apart : ∀ call ∈ pool.calls, ∀ time, AllowedAt key call.input call.phase time →
    Disjoint (scoresOf now cost) (scoresOf time call.input.cost)

/-- All checks of the key have one limit and one window, and none that adds its entries is
disturbed. -/
def Guarded (key : String) (limit windowMs : Nat) (pool : CheckPool) : CheckEvent → Prop
  | .start check => check.key = key → check.limit = limit ∧ check.windowMs = windowMs
  | .run index _ => ∀ call scores seconds now currentCount,
    pool.awaited? index = some (call, .exec (redisKey keyPrefix key) scores seconds) →
      call.input.key = key → call.phase = .counted now currentCount →
        Undisturbed keyPrefix key windowMs pool now call.input.cost currentCount
  | .change _ => True

section Sums

/-- The cost of a check that has been allowed at one of these times. -/
def costAt (key : String) (times : Nat → Bool) (check : CheckLimit) : CheckPhase → Nat
  | .allowed now => if check.key = key ∧ times now then check.cost else 0
  | _ => 0

/-- Whether an entry is one of a check that has been allowed. -/
def owns (key : String) (score : Nat) (check : CheckLimit) : CheckPhase → Nat
  | .allowed now => if check.key = key ∧ score ∈ scoresOf now check.cost then 1 else 0
  | _ => 0

def spent (pool : CheckPool) (key : String) (times : Nat → Bool) : Nat :=
  (pool.calls.map fun call => costAt key times call.input call.phase).sum

def owners (pool : CheckPool) (key : String) (score : Nat) : Nat :=
  (pool.calls.map fun call => owns key score call.input call.phase).sum

variable {pool pool' : CheckPool} {key : String} {windowMs now : Nat}

theorem card_scoresOf (now cost : Nat) : (scoresOf now cost).card = cost := by
  unfold scoresOf
  rw [Finset.card_image_of_injective _ (add_right_injective _), Finset.card_range]

theorem sum_map_sum {α : Type} (list : List α) (entries : Finset Nat) (weight : α → Nat → Nat) :
    (list.map fun element => ∑ score ∈ entries, weight element score).sum =
      ∑ score ∈ entries, (list.map fun element => weight element score).sum := by
  induction list with
  | nil => simp
  | cons element rest ih =>
    simp only [List.map_cons, List.sum_cons]
    rw [ih, Finset.sum_add_distrib]

/-- Checks whose entries are stored, each entry of one check only, cost as much as entries are
stored at most. -/
theorem spent_le_card {entries : Finset Nat} {times : Nat → Bool}
    (kept : ∀ call ∈ pool.calls, ∀ time, AllowedAt key call.input call.phase time →
      times time → scoresOf time call.input.cost ⊆ entries)
    (apart : ∀ score, owners pool key score ≤ 1) : spent pool key times ≤ entries.card := by
  have each : ∀ call ∈ pool.calls, costAt key times call.input call.phase ≤
      ∑ score ∈ entries, owns key score call.input call.phase := by
    intro call member
    have stored := kept call member
    cases phase : call.phase with
    | allowed time =>
      rw [phase] at stored
      simp only [costAt]
      split
      · next both =>
        have inside := stored time ⟨both.1, rfl⟩ both.2
        calc call.input.cost = (scoresOf time call.input.cost).card := (card_scoresOf _ _).symm
          _ = ∑ score ∈ scoresOf time call.input.cost, 1 := Finset.card_eq_sum_ones _
          _ = ∑ score ∈ scoresOf time call.input.cost, owns key score call.input (.allowed time) :=
            Finset.sum_congr rfl fun score here => (if_pos ⟨both.1, here⟩).symm
          _ ≤ ∑ score ∈ entries, owns key score call.input (.allowed time) :=
            Finset.sum_le_sum_of_subset inside
      · exact Nat.zero_le _
    | idle | began | removed | counted | refused => exact Nat.zero_le _
  calc spent pool key times
      ≤ (pool.calls.map fun call =>
          ∑ score ∈ entries, owns key score call.input call.phase).sum := List.sum_le_sum each
    _ = ∑ score ∈ entries, owners pool key score := sum_map_sum _ _ _
    _ ≤ ∑ score ∈ entries, 1 := Finset.sum_le_sum fun score _ => apart score
    _ = entries.card := (Finset.card_eq_sum_ones _).symm

theorem totalIn_le_spent (respectful : pool.Respectful (discipline keyPrefix) fun _ => ends)
    (stop : Nat) : totalIn pool key windowMs stop ≤
      spent pool key fun time => stop < time + windowMs ∧ time ≤ stop := by
  refine List.sum_le_sum fun call member => ?_
  cases outcome : call.program.outcome? with
  | none => exact Nat.zero_le _
  | some outcome' =>
    have ended := (respectful call member).ends_of_outcome outcome
    cases outcome' with
    | error => exact Nat.zero_le _
    | ok made =>
      obtain ⟨now, result⟩ := made
      simp only [costIn]
      split
      · next all =>
        have reached : call.phase = .allowed now := by
          simpa only [ends, all.2.1, if_true] using ended
        rw [reached]
        exact le_of_eq (if_pos ⟨all.1, decide_eq_true all.2.2⟩).symm
      · exact Nat.zero_le _

end Sums

section Runs

/-- The checks of the key have one limit and one window, the costs in every window are within it,
and no two of those that have been allowed share an entry. -/
structure Held (key : String) (limit windowMs : Nat) (pool : CheckPool) : Prop where
  same : ∀ call ∈ pool.calls, call.input.key = key →
    call.input.limit = limit ∧ call.input.windowMs = windowMs
  bounded : ∀ stop, (spent pool key fun time => stop < time + windowMs ∧ time ≤ stop) ≤ limit
  apart : ∀ score, owners pool key score ≤ 1

variable {keyPrefix} {pool pool' : CheckPool} {key : String} {limit windowMs : Nat}
  {call : Call LimitCommand LimitCommand.Reply CheckLimit CheckPhase (Nat × RateLimitResult)}
  {phase : CheckPhase}

theorem costAt_of_waiting {check : CheckLimit} (waiting : ∀ time, phase ≠ .allowed time)
    (times : Nat → Bool) : costAt key times check phase = 0 := by
  cases phase with
  | allowed time => exact absurd rfl (waiting time)
  | idle | began | removed | counted | refused => rfl

theorem owns_of_waiting {check : CheckLimit} (waiting : ∀ time, phase ≠ .allowed time)
    (score : Nat) : owns key score check phase = 0 := by
  cases phase with
  | allowed time => exact absurd rfl (waiting time)
  | idle | began | removed | counted | refused => rfl

theorem spent_goes (goes : pool.Goes call phase pool') (waiting : ∀ time, call.phase ≠ .allowed time)
    (times : Nat → Bool) :
    spent pool' key times = spent pool key times + costAt key times call.input phase := by
  have sum := goes.sum (costAt key times)
  rw [costAt_of_waiting waiting] at sum
  exact sum

theorem owners_goes (goes : pool.Goes call phase pool')
    (waiting : ∀ time, call.phase ≠ .allowed time) (score : Nat) :
    owners pool' key score = owners pool key score + owns key score call.input phase := by
  have sum := goes.sum (owns key score)
  rw [owns_of_waiting waiting] at sum
  exact sum

theorem Held.same_goes (held : Held key limit windowMs pool) (goes : pool.Goes call phase pool')
    {other : Call LimitCommand LimitCommand.Reply CheckLimit CheckPhase (Nat × RateLimitResult)}
    (member : other ∈ pool'.calls) (own : other.input.key = key) :
    other.input.limit = limit ∧ other.input.windowMs = windowMs := by
  rcases goes.back other member with here | ⟨input, _⟩
  · exact held.same other here own
  · rw [input] at own ⊢
    exact held.same call goes.member own

theorem Held.goes (held : Held key limit windowMs pool) (goes : pool.Goes call phase pool')
    (waiting : ∀ time, call.phase ≠ .allowed time) (waits : ∀ time, phase ≠ .allowed time) :
    Held key limit windowMs pool' := by
  refine ⟨fun other => held.same_goes goes, fun stop => ?_, fun score => ?_⟩
  · rw [spent_goes goes waiting, costAt_of_waiting waits]
    exact held.bounded stop
  · rw [owners_goes goes waiting, owns_of_waiting waits]
    exact held.apart score

theorem owners_eq_zero {score : Nat}
    (free : ∀ call ∈ pool.calls, ∀ time, AllowedAt key call.input call.phase time →
      score ∉ scoresOf time call.input.cost) : owners pool key score = 0 := by
  refine List.sum_eq_zero fun count member => ?_
  obtain ⟨call, here, rfl⟩ := List.mem_map.mp member
  have absent := free call here
  cases phase : call.phase with
  | allowed time =>
    rw [phase] at absent
    exact if_neg fun both => absent time ⟨both.1, rfl⟩ both.2
  | idle | began | removed | counted | refused => rfl

/-- A check adds its entries, undisturbed: the windows that it is made in have room for it. -/
theorem Held.add (held : Held key limit windowMs pool) {now currentCount : Nat}
    (before : call.phase = .counted now currentCount)
    (room : currentCount + call.input.cost ≤ call.input.limit) (undisturbed : call.input.key = key →
      Undisturbed keyPrefix key windowMs pool now call.input.cost currentCount)
    (goes : pool.Goes call (.allowed now) pool') : Held key limit windowMs pool' := by
  have waiting (time : Nat) : call.phase ≠ .allowed time := by
    rw [before]
    simp
  refine ⟨fun other => held.same_goes goes, fun stop => ?_, fun score => ?_⟩
  · rw [spent_goes goes waiting]
    simp only [costAt]
    split
    · next inside =>
      obtain ⟨own, within⟩ := inside
      obtain ⟨earlier, later⟩ := of_decide_eq_true within
      have calm := undisturbed own
      have counted : (spent pool key fun time => stop < time + windowMs ∧ time ≤ stop) ≤
          currentCount := by
        refine le_trans (spent_le_card (fun other member time allowed between => ?_) held.apart)
          calm.fresh
        have ⟨new, _⟩ := of_decide_eq_true between
        exact calm.kept other member time allowed (lt_of_le_of_lt later new)
      rw [(held.same call goes.member own).1] at room
      exact le_trans (Nat.add_le_add_right counted _) room
    · exact held.bounded stop
  · rw [owners_goes goes waiting]
    simp only [owns]
    split
    · next own =>
      have free : owners pool key score = 0 := owners_eq_zero fun other member time allowed here =>
        Finset.disjoint_left.mp ((undisturbed own.1).apart other member time allowed) own.2 here
      rw [free]
    · exact held.apart score

theorem Held.start (held : Held key limit windowMs pool) {check : CheckLimit}
    (same : check.key = key → check.limit = limit ∧ check.windowMs = windowMs) :
    Held key limit windowMs (pool.start (host keyPrefix) (fun _ => .idle) check) := by
  have sums (weight : CheckLimit → CheckPhase → Nat) (zero : weight check .idle = 0) :
      ((pool.start (host keyPrefix) (fun _ => CheckPhase.idle) check).calls.map fun call =>
        weight call.input call.phase).sum =
      (pool.calls.map fun call => weight call.input call.phase).sum := by
    simp [Pool.start, zero]
  refine ⟨fun call member own => ?_, fun stop => ?_, fun score => ?_⟩
  · rcases Pool.mem_start member with here | rfl
    · exact held.same call here own
    · exact same own
  · exact le_of_eq_of_le (sums (costAt key _) rfl) (held.bounded stop)
  · exact le_of_eq_of_le (sums (owns key score) rfl) (held.apart score)

theorem Held.resume (held : Held key limit windowMs pool) {command : LimitCommand}
    (awaits : Awaits keyPrefix call.input call.phase command)
    (undisturbed : ∀ scores seconds now currentCount,
      command = .exec (redisKey keyPrefix key) scores seconds → call.input.key = key →
        call.phase = .counted now currentCount →
          Undisturbed keyPrefix key windowMs pool now call.input.cost currentCount)
    (goes : pool.Goes call (nextPhase call.phase command (exec pool.shared command ()).2) pool') :
    Held key limit windowMs pool' := by
  obtain ⟨check, phase, program⟩ := call
  cases awaits with
  | clock | remove | count | oldest =>
    exact held.goes goes (fun _ => by simp) fun _ => by simp [nextPhase]
  | add now currentCount room =>
    have calm (own : check.key = key) :
        Undisturbed keyPrefix key windowMs pool now check.cost currentCount :=
      undisturbed _ _ now currentCount (by rw [own]) own rfl
    exact held.add rfl room calm goes

theorem Held.run (held : Held key limit windowMs pool) {events : List CheckEvent}
    (respectful : pool.Respectful (discipline keyPrefix) fun _ => ends)
    (guarded : (checkMachine keyPrefix).Admits (Guarded keyPrefix key limit windowMs) pool events) :
    ((checkMachine keyPrefix).run pool events).Respectful (discipline keyPrefix) (fun _ => ends) ∧
      Held key limit windowMs ((checkMachine keyPrefix).run pool events) := by
  refine Pool.invariant (checkLimit_respects keyPrefix) ?_ ?_ ?_ guarded respectful held
  · exact fun pool check held same => held.start same
  · exact fun pool elapsed held _ => ⟨held.same, held.bounded, held.apart⟩
  · rintro pool index ⟨⟩ call command next held guarded present program awaits
    have goes := @Pool.goes_resume _ _ _ _ _ _ (discipline keyPrefix) pool index call command next
      (exec pool.shared command ()) present
    refine ⟨trivial, held.resume awaits (fun scores seconds now currentCount adds => ?_) goes⟩
    subst adds
    exact guarded call scores seconds now currentCount (Pool.awaited?_of_await present program)

end Runs

/-- Checks run interleaved in any way. As long as all checks of the key have one limit and one
window and every one of them adds its entries undisturbed, the total cost of those that are
allowed is within the limit in every window. -/
theorem checks_are_limited (keyPrefix key : String) (limit windowMs : Nat) (state : LimitState)
    (events : List CheckEvent)
    (guarded : (checkMachine keyPrefix).Admits (Guarded keyPrefix key limit windowMs) ⟨state, []⟩
      events) :
    Limited key limit windowMs ((checkMachine keyPrefix).run ⟨state, []⟩ events) := by
  have fresh : Held key limit windowMs ⟨state, []⟩ := ⟨fun _ member => absurd member List.not_mem_nil,
    fun _ => Nat.zero_le _, fun _ => Nat.zero_le _⟩
  obtain ⟨respectful, held⟩ := fresh.run (fun _ member => absurd member List.not_mem_nil) guarded
  exact fun stop => le_trans (totalIn_le_spent keyPrefix respectful stop) (held.bounded stop)

section Sample

def sampleCheck : CheckLimit := ⟨"user:1", 2, 1000, 1⟩

def commands (index count : Nat) : List CheckEvent := List.replicate count (.run index ())

def apart : List CheckEvent :=
  .start sampleCheck :: commands 0 4 ++ .change 1 :: .start sampleCheck :: commands 1 4

theorem checks_apart_are_limited : Limited "user:1" 2 1000
    ((checkMachine "ratelimit").run ⟨⟨0, .empty⟩, []⟩ apart) := by
  refine checks_are_limited "ratelimit" "user:1" 2 1000 ⟨0, .empty⟩ apart
    ⟨fun _ => ⟨rfl, rfl⟩, ?_, ?_, ?_, ?_, trivial, fun _ => ⟨rfl, rfl⟩, ?_, ?_, ?_, ?_, trivial⟩
  all_goals
    rintro _ _ _ now currentCount ⟨⟩ _ ⟨⟩
  · refine ⟨?_, Nat.le_refl _, ?_⟩
    · rintro _ (_ | ⟨_, ⟨⟩⟩) time ⟨_, ⟨⟩⟩
    · rintro _ (_ | ⟨_, ⟨⟩⟩) time ⟨_, ⟨⟩⟩
  · refine ⟨?_, Nat.le_refl _, ?_⟩
    · rintro _ (_ | ⟨_, _ | ⟨_, ⟨⟩⟩⟩) time ⟨_, ⟨⟩⟩ _
      decide +kernel
    · rintro _ (_ | ⟨_, _ | ⟨_, ⟨⟩⟩⟩) time ⟨_, ⟨⟩⟩
      decide +kernel

def together : List CheckEvent :=
  .start sampleCheck :: commands 0 4 ++ .start sampleCheck :: commands 1 4 ++
    .start sampleCheck :: commands 2 4

theorem checks_together_exceed_limit : ¬ ∀ events, Limited "user:1" 2 1000
      ((checkMachine "ratelimit").run ⟨⟨0, .empty⟩, []⟩ events) := by
  intro limited
  have total := limited together 0
  revert total
  decide +kernel

end Sample

end Caas.RateLimit.SlidingWindowRateLimiter
