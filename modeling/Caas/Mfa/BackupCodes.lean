import Mathlib.Data.List.Induction
import Caas.Js.Buffer
import Caas.Js.Value
import Caas.Machine.Transducer

/-!
# Backup codes

The generator writes a code with a hyphen in its middle, and the storage hashes it as it is
written; `verifyCode` removes the hyphens of what a user types before it is hashed.

`regenerateCodes` awaits `deleteCodes` and then generates; its two parts are calls of their
own here, so that others may run in between.
-/

namespace Caas.Mfa

open Js

structure BackupCode where
  codeHash : String
  used : Bool
  usedAt : Option Int
deriving DecidableEq

/-- What the code is built on: SHA-256 and `toUpperCase`. -/
structure BackupCodeSettings where
  codeLength : Nat
  sha256 : Buffer → Buffer
  toUpperCase : String → String

/-- The bytes that `randomBytes(codeLength)` draws. -/
abbrev Draw (codeLength : Nat) := {bytes : Buffer // bytes.length = codeLength}

namespace BackupCodeGenerator

def charset : List Char := "ABCDEFGHJKLMNPQRSTUVWXYZ23456789".toList

def charOf (byte : Fin 256) : Char := charset.getD (byte.val % charset.length) ' '

def formatCode (code : List Char) : String :=
  let half := code.length / 2
  String.ofList (code.take half ++ '-' :: code.drop half)

def generateSingleCode {codeLength : Nat} (bytes : Draw codeLength) : String :=
  formatCode (bytes.val.map charOf)

/-- The loop of `generate`, with the codes so far; it goes on as long as the draws last. -/
def generateFrom {codeLength : Nat} (count : Number) (uniqueCodes : List String) :
    List (Draw codeLength) → Option (List String)
  | [] =>
    if (Number.int uniqueCodes.length).lessThan count = some true then none else some uniqueCodes
  | bytes :: draws =>
    if (Number.int uniqueCodes.length).lessThan count = some true then
      let code := generateSingleCode bytes
      generateFrom count (if code ∈ uniqueCodes then uniqueCodes else uniqueCodes ++ [code]) draws
    else some uniqueCodes

/-- The codes, or nothing when the draws do not suffice for `count` of them. -/
def generate {codeLength : Nat} (count : Number) (draws : List (Draw codeLength)) :
    Option (List String) :=
  generateFrom count [] draws

def normalizeCode (settings : BackupCodeSettings) (code : String) : String :=
  settings.toUpperCase (String.ofList (code.toList.filter (· ≠ '-')))

theorem hyphen_mem_formatCode (code : List Char) : '-' ∈ (formatCode code).toList := by
  simp [formatCode]

theorem hyphen_mem_of_generate {codeLength : Nat} {count : Number}
    {draws : List (Draw codeLength)} {codes : List String}
    (generated : generate count draws = some codes) : ∀ code ∈ codes, '-' ∈ code.toList := by
  have loop : ∀ (draws : List (Draw codeLength)) (uniqueCodes : List String),
      (∀ code ∈ uniqueCodes, '-' ∈ code.toList) →
        generateFrom count uniqueCodes draws = some codes → ∀ code ∈ codes, '-' ∈ code.toList := by
    intro draws
    induction draws with
    | nil =>
      intro uniqueCodes hyphened finished
      unfold generateFrom at finished
      split at finished
      · cases finished
      · exact Option.some.inj finished ▸ hyphened
    | cons bytes draws ih =>
      intro uniqueCodes hyphened finished
      unfold generateFrom at finished
      split at finished
      · refine ih _ ?_ finished
        split
        · exact hyphened
        · intro code member
          rcases List.mem_append.mp member with before | new
          · exact hyphened code before
          · rw [List.mem_singleton.mp new]
            exact hyphen_mem_formatCode _
      · exact Option.some.inj finished ▸ hyphened
  exact loop draws [] (by simp) generated

end BackupCodeGenerator

abbrev BackupCodeStorage := OrderedMap String (List BackupCode)

namespace BackupCodeStorage

variable (settings : BackupCodeSettings)

def hashCode (code : String) : String := Buffer.hexDigest settings.sha256 code

def storeCodes (storage : BackupCodeStorage) (userId : String) (codes : List String) :
    BackupCodeStorage :=
  storage.set userId (codes.map fun code =>
    { codeHash := hashCode settings code, used := false, usedAt := none })

/-- Mark the first unused code with this hash as used. -/
def useFirst (codeHash : String) (now : Int) : List BackupCode → Option (List BackupCode)
  | [] => none
  | code :: rest =>
    if code.codeHash = codeHash ∧ code.used = false then
      some ({ code with used := true, usedAt := some now } :: rest)
    else (useFirst codeHash now rest).map (code :: ·)

def verifyAndUseCode (storage : BackupCodeStorage) (userId code : String) (now : Int) :
    BackupCodeStorage × Bool :=
  match storage.get userId with
  | none => (storage, false)
  | some codes =>
    match useFirst (hashCode settings code) now codes with
    | none => (storage, false)
    | some codes => (storage.set userId codes, true)

end BackupCodeStorage

/-- A call, with what it draws and the time it reads. -/
inductive BackupCall (codeLength : Nat) where
  | generateCodes (userId : String) (count : Number) (draws : List (Draw codeLength))
  | verifyCode (userId code : String) (now : Int)
  | deleteCodes (userId : String)
deriving DecidableEq

inductive BackupAnswer where
  | generating
  | codes (codes : List String)
  | verified (isValid : Bool)
  | deleted
deriving DecidableEq

namespace BackupCodeService

variable (settings : BackupCodeSettings)

/-- A call on the storage. A generation that runs out of draws has not returned. -/
def step (storage : BackupCodeStorage) :
    BackupCall settings.codeLength → BackupCodeStorage × BackupAnswer
  | .generateCodes userId count draws =>
    match BackupCodeGenerator.generate count draws with
    | none => (storage, .generating)
    | some codes => (BackupCodeStorage.storeCodes settings storage userId codes, .codes codes)
  | .verifyCode userId code now =>
    let (after, isValid) := BackupCodeStorage.verifyAndUseCode settings storage userId
      (BackupCodeGenerator.normalizeCode settings code) now
    (after, .verified isValid)
  | .deleteCodes userId => (OrderedMap.delete storage userId, .deleted)

def machine : Transducer BackupCodeStorage (BackupCall settings.codeLength) BackupAnswer where
  step := step settings

end BackupCodeService

end Caas.Mfa

/-!
## What backup codes are good for

A code should work once, however it is typed. As what is typed is hashed without its
hyphens, no code is ever found: a user's codes work as they should exactly as long as nobody
uses them.
-/

namespace Caas.Mfa

open Js

namespace BackupCodeService

variable (settings : BackupCodeSettings)

/-- `typed` is `code` up to hyphens and the case of letters. -/
def Variant (code typed : String) : Prop :=
  (typed.toList.filter (· ≠ '-')).map Char.toUpper = code.toList.filter (· ≠ '-')

instance (code typed : String) : Decidable (Variant code typed) :=
  inferInstanceAs (Decidable (_ = _))

/-- The latest generation of a user's codes and what has been typed for the user since. -/
structure Generation where
  codes : List String := []
  typed : List String := []

variable {settings}

/-- What a call and its answer change about the latest generation of `userId`. -/
def Generation.after (userId : String) (generation : Generation) :
    BackupCall settings.codeLength × BackupAnswer → Generation
  | (.generateCodes owner _ _, .codes codes) =>
    if owner = userId then { codes } else generation
  | (.verifyCode owner code _, _) =>
    if owner = userId then { generation with typed := generation.typed ++ [code] } else generation
  | (.deleteCodes owner, _) => if owner = userId then {} else generation
  | _ => generation

/-- The latest generation of `userId` after calls and their answers. -/
def latest (userId : String) (past : List (BackupCall settings.codeLength × BackupAnswer)) :
    Generation :=
  past.foldl (Generation.after userId) {}

/-- What is typed now is a code of the latest generation, for the first time. -/
def FirstUse (generation : Generation) (typed : String) : Prop :=
  ∃ code ∈ generation.codes, Variant code typed ∧ ∀ earlier ∈ generation.typed,
    ¬ Variant code earlier

/-- Every verification succeeds exactly when it is the first use of a code of the user's
latest generation. -/
def WorksOnce (trace : List (BackupCall settings.codeLength × BackupAnswer)) : Prop :=
  ∀ before userId code now isValid after,
    trace = before ++ (.verifyCode userId code now, .verified isValid) :: after →
      (isValid = true ↔ FirstUse (latest userId before) code)

/-- No verification is asked for a code of the user's latest generation. -/
def Unused (trace : List (BackupCall settings.codeLength × BackupAnswer)) : Prop :=
  ∀ before userId code now answer after,
    trace = before ++ (.verifyCode userId code now, answer) :: after →
      ∀ generated ∈ (latest userId before).codes, ¬ Variant generated code

/-- The call at a position of a trace does not use a code. -/
def UnusedAt (events : List (BackupCall settings.codeLength × BackupAnswer)) (position : Nat) :
    Prop :=
  match events[position]? with
  | some (.verifyCode userId code _, _) =>
    ∀ generated ∈ (latest userId (events.take position)).codes, ¬ Variant generated code
  | _ => True

instance (events : List (BackupCall settings.codeLength × BackupAnswer)) (position : Nat) :
    Decidable (UnusedAt events position) := by
  unfold UnusedAt
  split <;> infer_instance

theorem unused_iff {events : List (BackupCall settings.codeLength × BackupAnswer)} :
    Unused events ↔ ∀ position < events.length, UnusedAt events position := by
  constructor
  · intro unused position inside
    unfold UnusedAt
    split
    · rename_i userId code now answer found
      obtain ⟨bound, here⟩ := List.getElem?_eq_some_iff.mp found
      refine unused (events.take position) userId code now answer (events.drop (position + 1)) ?_
      rw [← here, ← List.drop_eq_getElem_cons bound, List.take_append_drop]
    · trivial
  · intro each before userId code now answer after split
    have inside : before.length < events.length := by simp [split]
    have here := each before.length inside
    unfold UnusedAt at here
    subst split
    simpa using here

instance (events : List (BackupCall settings.codeLength × BackupAnswer)) :
    Decidable (Unused events) := decidable_of_iff _ unused_iff.symm

def Refused (trace : List (BackupCall settings.codeLength × BackupAnswer)) : Prop :=
  ∀ userId code now answer, (.verifyCode userId code now, answer) ∈ trace →
    answer = .verified false

/-- What the storage holds are hashes of texts with a hyphen. -/
def Hyphened (settings : BackupCodeSettings) (storage : BackupCodeStorage) : Prop :=
  ∀ userId codes, storage.get userId = some codes → ∀ code ∈ codes, ∃ text : String,
    '-' ∈ text.toList ∧ code.codeHash = BackupCodeStorage.hashCode settings text

section Refusing

variable (injective : Function.Injective settings.sha256)
  (upperCase : ∀ text : String, '-' ∉ text.toList → '-' ∉ (settings.toUpperCase text).toList)

include injective upperCase

theorem useFirst_normalizeCode {codes : List BackupCode}
    (hyphened : ∀ code ∈ codes, ∃ text : String,
      '-' ∈ text.toList ∧ code.codeHash = BackupCodeStorage.hashCode settings text)
    (typed : String) (now : Int) : BackupCodeStorage.useFirst
      (BackupCodeStorage.hashCode settings (BackupCodeGenerator.normalizeCode settings typed)) now
      codes = none := by
  induction codes with
  | nil => rfl
  | cons code rest ih =>
    obtain ⟨text, hyphen, hashed⟩ := hyphened code List.mem_cons_self
    have other : code.codeHash ≠
        BackupCodeStorage.hashCode settings (BackupCodeGenerator.normalizeCode settings typed) := by
      intro same
      have texts : text = BackupCodeGenerator.normalizeCode settings typed :=
        Buffer.hexDigest_injective injective (hashed.symm.trans same)
      rw [texts] at hyphen
      exact upperCase _ (by simp) hyphen
    rw [BackupCodeStorage.useFirst, if_neg fun both => other both.1,
      ih fun later member => hyphened later (List.mem_cons_of_mem _ member)]
    rfl

theorem hyphened_step {storage : BackupCodeStorage} (hyphened : Hyphened settings storage)
    (call : BackupCall settings.codeLength) : Hyphened settings (step settings storage call).1 ∧
      ∀ userId code now, call = .verifyCode userId code now →
        (step settings storage call).2 = .verified false := by
  cases call with
  | generateCodes userId count draws =>
    refine ⟨?_, nofun⟩
    cases generated : BackupCodeGenerator.generate count draws with
    | none =>
      have same : (step settings storage (.generateCodes userId count draws)).1 = storage := by
        simp [step, generated]
      rw [same]
      exact hyphened
    | some codes =>
      intro owner stored found
      simp only [step, generated, BackupCodeStorage.storeCodes, OrderedMap.get_set] at found
      split at found
      · obtain rfl := Option.some.inj found
        intro code member
        obtain ⟨text, listed, rfl⟩ := List.mem_map.mp member
        exact ⟨text, BackupCodeGenerator.hyphen_mem_of_generate generated text listed, rfl⟩
      · exact hyphened owner stored found
  | verifyCode userId typed now =>
    have refused : BackupCodeStorage.verifyAndUseCode settings storage userId
        (BackupCodeGenerator.normalizeCode settings typed) now = (storage, false) := by
      unfold BackupCodeStorage.verifyAndUseCode
      cases found : storage.get userId with
      | none => rfl
      | some codes =>
        simp [useFirst_normalizeCode injective upperCase (hyphened userId codes found)]
    have answered : step settings storage (.verifyCode userId typed now) =
        (storage, .verified false) := by
      simp [step, refused]
    rw [answered]
    exact ⟨hyphened, fun _ _ _ _ => rfl⟩
  | deleteCodes userId =>
    refine ⟨?_, nofun⟩
    intro owner stored found
    simp only [step, OrderedMap.get_delete] at found
    split at found
    · cases found
    · exact hyphened owner stored found

theorem refused_trace (calls : List (BackupCall settings.codeLength)) :
    Refused ((machine settings).trace .empty calls) := by
  have refused : ∀ storage, Hyphened settings storage →
      Refused ((machine settings).trace storage calls) := by
    induction calls with
    | nil => exact fun _ _ _ _ _ _ absent => absurd absent List.not_mem_nil
    | cons call rest ih =>
      intro storage hyphened userId code now answer member
      have kept := hyphened_step injective upperCase hyphened call
      rcases List.mem_cons.mp member with here | later
      · obtain ⟨rfl, rfl⟩ := Prod.mk.inj here
        exact kept.2 userId code now rfl
      · exact ih _ kept.1 userId code now answer later
  exact refused .empty fun _ _ absent => nomatch absent

end Refusing

/-- What has been typed since the latest generation was typed when it was the latest. -/
theorem exists_of_mem_typed {userId typed : String}
    {past : List (BackupCall settings.codeLength × BackupAnswer)}
    (member : typed ∈ (latest userId past).typed) :
    ∃ before now answer after, past = before ++ (.verifyCode userId typed now, answer) :: after ∧
      (latest userId before).codes = (latest userId past).codes := by
  induction past using List.reverseRecOn with
  | nil => exact absurd member List.not_mem_nil
  | append_singleton past event ih =>
    have extended : latest userId (past ++ [event]) =
        Generation.after userId (latest userId past) event := by
      rw [latest, List.foldl_append]
      rfl
    rw [extended] at member ⊢
    -- Unless the event is a use of its own, it leaves an earlier use in its generation.
    have earlier (typedBefore : typed ∈ (latest userId past).typed)
        (sameCodes : (latest userId past).codes =
          (Generation.after userId (latest userId past) event).codes) :
        ∃ before now answer after, past ++ [event] =
          before ++ (.verifyCode userId typed now, answer) :: after ∧ (latest userId before).codes =
            (Generation.after userId (latest userId past) event).codes := by
      obtain ⟨before, now, answer, after, rfl, same⟩ := ih typedBefore
      exact ⟨before, now, answer, after ++ [event], by simp, same.trans sameCodes⟩
    obtain ⟨call, answer⟩ := event
    cases call with
    | generateCodes owner count draws =>
      cases answer with
      | codes codes =>
        by_cases own : owner = userId
        · simp only [Generation.after, if_pos own] at member
          exact absurd member List.not_mem_nil
        · simp only [Generation.after, if_neg own] at member earlier ⊢
          exact earlier member trivial
      | generating | verified _ | deleted => exact earlier member rfl
    | verifyCode owner code now =>
      by_cases own : owner = userId
      · subst own
        simp only [Generation.after, if_true, forall_const] at member earlier ⊢
        rcases List.mem_append.mp member with before | new
        · exact earlier before
        · rw [List.mem_singleton.mp new]
          exact ⟨past, now, answer, [], rfl, rfl⟩
      · simp only [Generation.after, if_neg own] at member earlier ⊢
        exact earlier member trivial
    | deleteCodes owner =>
      by_cases own : owner = userId
      · simp only [Generation.after, if_pos own] at member
        exact absurd member List.not_mem_nil
      · simp only [Generation.after, if_neg own] at member earlier ⊢
        exact earlier member trivial

theorem worksOnce_iff_of_refused {trace : List (BackupCall settings.codeLength × BackupAnswer)}
    (refused : Refused trace) : WorksOnce trace ↔ Unused trace := by
  constructor
  · intro works before
    induction length : before.length using Nat.strongRecOn generalizing before with
    | ind count ih =>
      intro userId code now answer after split generated member variant
      have here : (.verifyCode userId code now, answer) ∈ trace := by simp [split]
      obtain rfl := refused userId code now answer here
      have notFirst := (works before userId code now false after split).mpr.mt Bool.false_ne_true
      -- A use that is not the first follows an earlier one of the same generation.
      have used : ∃ earlier ∈ (latest userId before).typed, Variant generated earlier := by
        by_contra none
        push Not at none
        exact notFirst ⟨generated, member, variant, none⟩
      obtain ⟨earlier, typed, variant'⟩ := used
      obtain ⟨past, now', answer', rest, rfl, same⟩ := exists_of_mem_typed typed
      refine ih past.length ?_ past rfl userId earlier now' answer'
        (rest ++ (.verifyCode userId code now, .verified false) :: after) (by simp [split])
        generated (same ▸ member) variant'
      rw [← length, List.length_append, List.length_cons]
      omega
  · intro unused before userId code now isValid after split
    have here : (.verifyCode userId code now, .verified isValid) ∈ trace := by simp [split]
    cases refused userId code now _ here
    refine iff_of_false Bool.false_ne_true ?_
    rintro ⟨generated, member, variant, -⟩
    exact unused before userId code now _ after split generated member variant

/-- Backup codes work exactly once in a run if and only if nobody uses one in it. -/
theorem worksOnce_iff_unused (injective : Function.Injective settings.sha256)
    (upperCase : ∀ text : String, '-' ∉ text.toList → '-' ∉ (settings.toUpperCase text).toList)
    (calls : List (BackupCall settings.codeLength)) :
    WorksOnce ((machine settings).trace .empty calls) ↔
      Unused ((machine settings).trace .empty calls) :=
  worksOnce_iff_of_refused (refused_trace injective upperCase calls)

section Sample

def sampleSettings : BackupCodeSettings :=
  ⟨8, Buffer.framed, fun text => String.ofList (text.toList.map Char.toUpper)⟩

theorem sampleSettings_upperCase (text : String) (plain : '-' ∉ text.toList) :
    '-' ∉ (sampleSettings.toUpperCase text).toList := by
  intro member
  rw [sampleSettings, String.toList_ofList, List.mem_map] at member
  obtain ⟨c, listed, same⟩ := member
  unfold Char.toUpper at same
  split at same
  · rename_i lower
    have above : 97 ≤ c.val.toNat := UInt32.le_iff_toNat_le.mp lower.1
    have below : c.val.toNat ≤ 122 := UInt32.le_iff_toNat_le.mp lower.2
    have shift : ('A'.val - 'a'.val).toNat = 4294967264 := by decide
    have code : (c.val + ('A'.val - 'a'.val)).toNat = 45 :=
      congrArg UInt32.toNat (Char.mk.inj same)
    rw [UInt32.toNat_add, shift] at code
    omega
  · exact plain (same ▸ listed)

def sampleGeneration : BackupCall sampleSettings.codeLength :=
  .generateCodes "u" (.int 1) [⟨[0, 1, 2, 3, 4, 5, 6, 7], rfl⟩]

/-- The code that has just been generated is refused. -/
theorem generated_code_refused :
    ¬ ∀ calls, WorksOnce ((machine sampleSettings).trace .empty calls) := by
  intro works
  have first := works [sampleGeneration, .verifyCode "u" "abcd-efgh" 1]
    [(sampleGeneration, .codes ["ABCD-EFGH"])] "u" "abcd-efgh" 1 false [] (by decide +kernel)
  exact Bool.false_ne_true (first.mpr ⟨"ABCD-EFGH", by decide +kernel, by decide +kernel,
    fun _ absent => absurd absent List.not_mem_nil⟩)

/-- Another user's code and a mistyped one change nothing. -/
theorem unused_codes_work : WorksOnce ((machine sampleSettings).trace .empty
      [sampleGeneration, .verifyCode "v" "ABCD-EFGH" 1, .verifyCode "u" "ABCD-EFGI" 2]) :=
  (worksOnce_iff_unused Buffer.framed_injective sampleSettings_upperCase _).mpr
    (by decide +kernel)

end Sample

end BackupCodeService

end Caas.Mfa
