/-!
# Documents of a collection

A collection lists its documents in the order in which they were inserted. `findOne` and
`updateOne` take the first document that a filter matches, and nothing else.
-/

namespace Documents

universe u v

variable {α : Type u} {κ : Type v}

/-- Change the first document that matches, if there is one. -/
def updateOne (matched : α → Bool) (update : α → α) : List α → List α
  | [] => []
  | document :: rest =>
    if matched document then update document :: rest
    else document :: updateOne matched update rest

variable {matched other : α → Bool} {update update' : α → α} {documents : List α}

theorem updateOne_cons (document : α) (rest : List α) :
    updateOne matched update (document :: rest) =
      if matched document then update document :: rest
      else document :: updateOne matched update rest := rfl

theorem mem_updateOne {document : α} (member : document ∈ updateOne matched update documents) :
    document ∈ documents ∨
      ∃ earlier ∈ documents, matched earlier = true ∧ document = update earlier := by
  induction documents with
  | nil => exact .inl member
  | cons head rest ih =>
    cases found : matched head with
    | true =>
      simp only [updateOne_cons, found, if_true, List.mem_cons] at member
      rcases member with changed | kept
      · exact .inr ⟨head, List.mem_cons_self, found, changed⟩
      · exact .inl (List.mem_cons_of_mem head kept)
    | false =>
      simp only [updateOne_cons, found, Bool.false_eq_true, if_false, List.mem_cons] at member
      rcases member with rfl | later
      · exact .inl List.mem_cons_self
      · rcases ih later with kept | ⟨earlier, here, matches', changed⟩
        · exact .inl (List.mem_cons_of_mem head kept)
        · exact .inr ⟨earlier, List.mem_cons_of_mem head here, matches', changed⟩

theorem filter_updateOne
    (kept : ∀ document, matched document = true → matched (update document) = true) :
    (updateOne matched update documents).filter matched =
      (documents.filter matched).modifyHead update := by
  induction documents with
  | nil => rfl
  | cons document rest ih =>
    cases found : matched document with
    | true =>
      simp [updateOne_cons, found, kept document found]
    | false =>
      simp only [updateOne_cons, found, List.filter_cons, Bool.false_eq_true, if_false]
      exact ih

/-- Another filter does not see the update of a document that it matches neither before nor
after. -/
theorem filter_updateOne_of_apart (apart : ∀ document, matched document = true →
      other document = false ∧ other (update document) = false) :
    (updateOne matched update documents).filter other = documents.filter other := by
  induction documents with
  | nil => rfl
  | cons document rest ih =>
    cases found : matched document with
    | true =>
      obtain ⟨before, after⟩ := apart document found
      simp [updateOne_cons, found, before, after]
    | false =>
      simp [updateOne_cons, found, List.filter_cons, ih]

theorem updateOne_of_none (none : documents.find? matched = none) :
    updateOne matched update documents = documents := by
  induction documents with
  | nil => rfl
  | cons document rest ih =>
    cases found : matched document with
    | true =>
      rw [List.find?_cons, found] at none
      cases none
    | false =>
      rw [List.find?_cons, found] at none
      simp [updateOne_cons, found, ih none]

theorem updateOne_congr {document : α} (found : documents.find? matched = some document)
    (same : update document = update' document) :
    updateOne matched update documents = updateOne matched update' documents := by
  induction documents with
  | nil => rfl
  | cons head rest ih =>
    cases first : matched head with
    | true =>
      rw [List.find?_cons, first] at found
      cases found
      simp [updateOne_cons, first, same]
    | false =>
      rw [List.find?_cons, first] at found
      simp [updateOne_cons, first, ih found]

theorem map_updateOne {key : α → κ}
    (kept : ∀ document, matched document = true → key (update document) = key document) :
    (updateOne matched update documents).map key = documents.map key := by
  induction documents with
  | nil => rfl
  | cons document rest ih =>
    cases found : matched document with
    | true => simp [updateOne_cons, found, kept document found]
    | false => simp [updateOne_cons, found, ih]

theorem updateOne_eq_map
    (single : documents.Pairwise fun one two => ¬ (matched one = true ∧ matched two = true)) :
    updateOne matched update documents =
      documents.map fun document => if matched document then update document else document := by
  induction documents with
  | nil => rfl
  | cons document rest ih =>
    obtain ⟨apart, single⟩ := List.pairwise_cons.mp single
    cases found : matched document with
    | true =>
      have kept : rest.map (fun document => if matched document then update document
          else document) = rest := by
        refine (List.map_congr_left fun later member => ?_).trans (List.map_id rest)
        exact if_neg fun matches' => apart later member ⟨found, matches'⟩
      simp [updateOne_cons, found, kept]
    | false =>
      simp [updateOne_cons, found, ih single]

end Documents
