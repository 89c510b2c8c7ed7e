import Caas.Audit.AuditStorage

/-!
# Tamper evidence

What `verifyChain` says about a list that was made from a stored chain. The hash of an
entry ties it to its fields and to the entry before it, and nothing ties the last entry
down: a list that goes on as `store` would have gone on is a chain too.
-/

namespace Caas.Audit

open Js HashChain

/-- A list made from `entries` by changing an entry without recomputing its hash, by
removing one between two others, by inserting one or by exchanging two. `changes` and
`inserts` say which changes and insertions are meant. -/
inductive Modified (sha256 : Buffer → Buffer) (changes : AuditEntry → AuditEntry → Prop)
    (inserts : List AuditEntry → AuditEntry → List AuditEntry → Prop) (entries : List AuditEntry) :
    List AuditEntry → Prop
  | changed {before : List AuditEntry} {entry other : AuditEntry} {after : List AuditEntry}
      (split : entries = before ++ entry :: after) (meant : changes entry other)
      (kept : other.hash = entry.hash ∨ calculateHash sha256 other ≠ .ok other.hash) :
      Modified sha256 changes inserts entries (before ++ other :: after)
  | removed {before : List AuditEntry} {entry : AuditEntry} {after : List AuditEntry}
      (split : entries = before ++ entry :: after) (first : before ≠ []) (last : after ≠ []) :
      Modified sha256 changes inserts entries (before ++ after)
  | inserted {before : List AuditEntry} {other : AuditEntry} {after : List AuditEntry}
      (split : entries = before ++ after) (meant : inserts before other after) :
      Modified sha256 changes inserts entries (before ++ other :: after)
  | exchanged {before : List AuditEntry} {entry : AuditEntry} {middle : List AuditEntry}
      {later : AuditEntry} {after : List AuditEntry}
      (split : entries = before ++ entry :: middle ++ later :: after) :
      Modified sha256 changes inserts entries (before ++ later :: middle ++ entry :: after)

/-- A valid date, and a change of the hash or of what is hashed. -/
structure HashedChange (entry other : AuditEntry) : Prop where
  dated : other.timestamp ≠ none
  seen : ¬ SameHashed entry other ∨ other.hash ≠ entry.hash

/-- The entry goes on with the chain `before` as the next stored entry would. -/
def Continues (sha256 : Buffer → Buffer) (before : List AuditEntry) (other : AuditEntry) : Prop :=
  calculateHash sha256 other = .ok other.hash ∧
    ∀ last ∈ before.getLast?, other.previousHash = some last.hash

/-- An insertion with a valid date, other than of an entry that goes on with the chain at
its end. -/
structure ForeignInsertion (sha256 : Buffer → Buffer) (before : List AuditEntry)
    (other : AuditEntry) (after : List AuditEntry) : Prop where
  dated : other.timestamp ≠ none
  foreign : after ≠ [] ∨ ¬ Continues sha256 before other

/-- `verifyChain` reports the list as invalid. -/
def ReportedInvalid (sha256 : Buffer → Buffer) (entries : List AuditEntry) : Prop :=
  ∃ verification, verifyChain sha256 entries = .ok verification ∧ verification.valid = false

namespace AuditStorage

variable {sha256 : Buffer → Buffer} {storage : AuditStorage} {calls : List StoreCall}
  {before middle after : List AuditEntry} {entry later other : AuditEntry}

theorem reportedInvalid_of_not_intact {entries : List AuditEntry}
    (dated : ∀ entry ∈ entries, entry.timestamp ≠ none)
    (broken : ¬ (sealing sha256).Intact entries) :
    ReportedInvalid sha256 entries := by
  obtain ⟨verification, verified, valid⟩ := verifyChain_spec sha256 dated
  exact ⟨verification, verified, Bool.eq_false_iff.mpr fun holds => broken (valid.mp holds)⟩

theorem Recorded.nodup_hashes (recorded : Recorded sha256 storage calls)
    (injective : Function.Injective sha256) (fresh : (calls.map (·.bytes)).Nodup) :
    (storage.entries.values.map (·.hash)).Nodup := by
  have ids : (storage.entries.values.map (·.auditId)).Nodup := by
    rw [recorded.ids, ← Function.comp_def Buffer.toHex, ← List.map_map]
    exact fresh.map Buffer.toHex_injective
  rw [List.Nodup, List.pairwise_map] at ids ⊢
  refine ids.imp_of_mem fun {entry other} member member' different same => ?_
  have first := genuine_iff.mp (recorded.intact.genuine member)
  rw [same] at first
  exact different (sameHashed_of_calculateHash injective first
    (genuine_iff.mp (recorded.intact.genuine member'))).auditId

theorem not_intact_of_changed (injective : Function.Injective sha256)
    (intact : (sealing sha256).Intact (before ++ entry :: after))
    (change : HashedChange entry other)
    (kept : other.hash = entry.hash ∨ calculateHash sha256 other ≠ .ok other.hash) :
    ¬ (sealing sha256).Intact (before ++ other :: after) := by
  intro forged
  have right := genuine_iff.mp (intact.1 entry (by simp))
  have right' := genuine_iff.mp (forged.1 other (by simp))
  rcases kept with kept | wrong
  · rcases change.seen with different | different
    · rw [kept] at right'
      exact different (sameHashed_of_calculateHash injective right right')
    · exact different kept
  · exact wrong right'

/-- An entry put in before another one would have to repeat the entry that it follows. -/
theorem not_intact_of_inserted (injective : Function.Injective sha256)
    (digests : ∀ bytes, sha256 bytes ≠ [])
    (intact : (sealing sha256).Intact (before ++ later :: after))
    (rooted : ∀ first ∈ (before ++ later :: after).head?, first.previousHash = none)
    (nodup : ((before ++ later :: after).map (·.hash)).Nodup) :
    ¬ (sealing sha256).Intact (before ++ other :: later :: after) := by
  intro extended
  rcases List.eq_nil_or_concat before with rfl | ⟨start, last, rfl⟩
  · have link : later.previousHash = some other.hash := extended.follows rfl
    rw [rooted later rfl] at link
    cases link
  · rw [List.concat_eq_append, List.append_assoc,
      List.singleton_append] at intact extended rooted nodup
    obtain ⟨sameHash, link⟩ := intact.stamp_of_inserted extended
    have right := genuine_iff.mp (intact.1 last (by simp))
    have right' := genuine_iff.mp (extended.1 other (by simp))
    change other.hash = last.hash at sameHash
    change other.previousHash = some last.hash at link
    rw [sameHash] at right'
    have previous := (sameHashed_of_calculateHash injective right right').previousHash
    rw [link, Option.getD_some] at previous
    -- `last` would have to be linked to its own hash.
    rcases List.eq_nil_or_concat start with rfl | ⟨init, earlier, rfl⟩
    · obtain ⟨timestamp, -, hashed⟩ := calculateHash_eq_ok.mp right
      rw [rooted last rfl, Option.getD_none, ← hashed] at previous
      refine digests _ (Buffer.toHex_injective (previous.symm.trans ?_))
      rfl
    · rw [List.concat_eq_append, List.append_assoc, List.singleton_append] at intact nodup
      have actual : last.previousHash = some earlier.hash := intact.follows rfl
      rw [actual, Option.getD_some] at previous
      rw [List.map_append, List.map_cons] at nodup
      have apart := (List.nodup_cons.mp (List.nodup_append.mp nodup).2.1).1
      exact apart (List.mem_map.mpr ⟨last, by simp, previous.symm⟩)

/-- Changes of what is hashed, removals, insertions other than at the end of the chain and
exchanges are reported. -/
theorem modified_chain_reported (injective : Function.Injective sha256)
    (digests : ∀ bytes, sha256 bytes ≠ []) (fresh : (calls.map (·.bytes)).Nodup)
    {modified : List AuditEntry}
    (modification : Modified sha256 HashedChange (ForeignInsertion sha256)
      ((machine sha256).run new calls).entries.values modified) :
    ReportedInvalid sha256 modified := by
  have recorded := recorded_run sha256 fresh
  have intact := recorded.intact
  have dated := recorded.dated
  have rooted := recorded.rooted
  have nodup := recorded.nodup_hashes injective
    (List.Nodup.sublist (List.filter_sublist.map _) fresh)
  generalize ((machine sha256).run new calls).entries.values = entries at *
  cases modification with
  | @changed before entry other after split change kept =>
    subst split
    refine reportedInvalid_of_not_intact ?_ (not_intact_of_changed injective intact change kept)
    intro current member
    rcases List.mem_append.mp member with member | member
    · exact dated current (List.mem_append_left _ member)
    · rcases List.mem_cons.mp member with rfl | member
      · exact change.dated
      · exact dated current (by simp [member])
  | @removed before entry after split first last =>
    subst split
    obtain ⟨start, earlier, rfl⟩ := (List.eq_nil_or_concat before).resolve_left first
    obtain ⟨later, rest, rfl⟩ := List.exists_cons_of_ne_nil last
    rw [List.concat_eq_append, List.append_assoc, List.singleton_append] at *
    rw [List.map_append, List.map_cons] at nodup
    have distinct : earlier.hash ≠ entry.hash := by
      intro same
      exact (List.nodup_cons.mp (List.nodup_append.mp nodup).2.1).1 (by simp [same])
    refine reportedInvalid_of_not_intact (fun current member => dated current ?_)
      (Sealing.not_intact_of_removed intact distinct)
    simp only [List.mem_append, List.mem_cons] at member ⊢
    tauto
  | @inserted before other after split insertion =>
    subst split
    refine reportedInvalid_of_not_intact ?_ ?_
    · intro current member
      rcases List.mem_append.mp member with member | member
      · exact dated current (List.mem_append_left _ member)
      · rcases List.mem_cons.mp member with rfl | member
        · exact insertion.dated
        · exact dated current (List.mem_append_right _ member)
    · cases after with
      | cons later rest =>
        exact not_intact_of_inserted injective digests intact rooted nodup
      | nil =>
        intro extended
        have parts := Sealing.intact_append_singleton.mp extended
        exact (insertion.foreign.resolve_left (not_not.mpr rfl))
          ⟨genuine_iff.mp parts.2.1, parts.2.2⟩
  | @exchanged before entry middle later after split =>
    subst split
    refine reportedInvalid_of_not_intact (fun current member => dated current ?_)
      (Sealing.not_intact_of_exchanged intact (fun first leading => rooted first ?_) nodup)
    · simp only [List.mem_append, List.mem_cons] at member ⊢
      tauto
    · cases before <;> exact leading

/-- The second of three entries taken out. -/
theorem removed_entry_reported : ReportedInvalid Buffer.framed (((machine Buffer.framed).run new
        [sampleCall "a" 1 1, sampleCall "a" 2 2, sampleCall "a" 3 3]).entries.values.eraseIdx
        1) :=
  modified_chain_reported Buffer.framed_injective (fun _ => List.cons_ne_nil _ _)
    (show ([sampleCall "a" 1 1, sampleCall "a" 2 2, sampleCall "a" 3 3].map (·.bytes)).Nodup by
      decide)
    (@Modified.removed Buffer.framed _ _ _ [_] _ [_] rfl (List.cons_ne_nil _ _)
      (List.cons_ne_nil _ _))

/-- A stored chain that goes on with an entry as `store` would write it. -/
theorem appended_entry_accepted :
    ¬ ∀ calls : List StoreCall, (calls.map (·.bytes)).Nodup → ∀ modified : List AuditEntry,
      Modified Buffer.framed (fun entry other => other ≠ entry) (fun _ _ _ => True)
        ((machine Buffer.framed).run new calls).entries.values modified →
      ReportedInvalid Buffer.framed modified := by
  intro reported
  have recorded := @recorded_run Buffer.framed [sampleCall "a" 1 1, sampleCall "a" 2 2] (by decide)
  obtain ⟨verification, verified, invalid⟩ := reported [sampleCall "a" 1 1] (by decide)
    ((machine Buffer.framed).run new [sampleCall "a" 1 1, sampleCall "a" 2 2]).entries.values
    (@Modified.inserted Buffer.framed _ _ _ [_] _ [] rfl trivial)
  obtain ⟨verification', verified', valid⟩ := verifyChain_spec Buffer.framed recorded.dated
  rw [verified, Except.ok.injEq] at verified'
  rw [← verified', invalid] at valid
  exact Bool.false_ne_true (valid.mpr recorded.intact)

end AuditStorage

end Caas.Audit
