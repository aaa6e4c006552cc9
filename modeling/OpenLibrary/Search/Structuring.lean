import OpenLibrary.Search.Pipeline

/-!
# Structuring a response

The handler of `requesBookInfo` leaves out the documents without one of the six keys, and
casts the values of the others. A key is there also when its value is `null`, or of another
type than the cast expects. So the handler runs to its end exactly when the values of the
documents with all six keys are of the expected types (`structuring_iff`).
-/

namespace OpenLibrary

/-- The documents of a response that are not left out. -/
def InfoData.cleanDocuments (data : InfoData) : List JsonObject :=
  match data.bookResultsJSON? with
  | some docs => docs.filter isClean
  | none => []

theorem InfoData.cleanDocuments_of_some {data : InfoData} {docs : List JsonObject}
    (h : data.bookResultsJSON? = some docs) :
  data.cleanDocuments = docs.filter isClean
  := by
  rw [cleanDocuments, h]

theorem InfoData.cleanDocuments_of_none {data : InfoData} (h : data.bookResultsJSON? = none) :
  data.cleanDocuments = []
  := by
  rw [cleanDocuments, h]

/-- The values of a document from which a book is structured are of the expected types. -/
theorem wellTyped_of_structureBook {doc : JsonObject} {b : Book} (h : structureBook doc = some b) :
  WellTyped doc
  := by
  obtain ⟨coverID, title, firstPublishYear, editionCount, authors, publishers, subtitle,
    hcoverID, htitle, hyear, hcount, hauthors, hpublishers, hsubtitle, -⟩ :=
    structureBook_eq_some.mp h
  constructor
  · rw [hcoverID, Option.isSome_some]
  · rw [htitle, Option.isSome_some]
  · rw [hyear, Option.isSome_some]
  · rw [hcount, Option.isSome_some]
  · rw [hauthors, Option.isSome_some]
  · rw [hpublishers, Option.isSome_some]
  · intro value hvalue
    rw [subtitle?_eq_elim, hvalue, Option.elim_some] at hsubtitle
    rw [hsubtitle, Option.isSome_some]

/-- Books are structured from documents exactly when the values of the clean ones are of the
expected types. -/
theorem exists_structureBooks_iff {docs : List JsonObject} :
  (∃ newBooks, structureBooks docs = some newBooks) ↔
    ∀ doc ∈ docs.filter isClean, WellTyped doc
  := by
  constructor
  · rintro ⟨newBooks, hbooks⟩ doc hdoc
    have hall := List.mapM_eq_some_iff.mp hbooks
    obtain ⟨i, hi, rfl⟩ := List.mem_iff_getElem.mp hdoc
    apply wellTyped_of_structureBook (hall.get hi (hall.length_eq ▸ hi))
  · intro h
    apply exists_structureBooks
    intro doc hdoc hclean
    apply h doc (List.mem_filter.mpr ⟨hdoc, hclean⟩)

namespace State

/-- To the results of a state those of another add one book for each document of a response
that is not left out, with the fields of the document. -/
def Structures (s : State) (data : InfoData) (t : State) : Prop :=
  ∃ objects, t.search.bookResults = s.search.bookResults ++ objects ∧
    List.Forall₂ (fun doc o => Describes doc (t.objects.book o)) data.cleanDocuments objects

variable {s : State} {r : Nat}

/-- The objects of the structured books are described by the clean documents. -/
theorem describes_booksStructured {docs : List JsonObject} {newBooks : List Book}
    (h : structureBooks docs = some newBooks) :
  List.Forall₂ (fun doc o => Describes doc ((s.booksStructured r newBooks).objects.book o))
    (docs.filter isClean) (s.newResults newBooks)
  := by
  have hall := List.mapM_eq_some_iff.mp h
  have hlength : (s.newResults newBooks).length = newBooks.length := List.length_range'
  apply List.forall₂_iff_get.mpr
  constructor
  · rw [hlength, hall.length_eq]
  · intro i hi hi'
    have hb : i < newBooks.length := hlength ▸ hi'
    have hobject : (s.newResults newBooks).get ⟨i, hi'⟩ = s.objects.next + i := by
      rw [List.get_eq_getElem]
      simp [newResults]
    rw [hobject, book_booksStructured s r newBooks (List.getElem?_eq_getElem hb)]
    apply (describes_structureBook (hall.get hi hb)).1

/-- A response that does not trap turns each document with all six keys into a book. -/
theorem structures_of_bookInfoResponse {data : InfoData} {t : State}
    (h : s.bookInfoResponse r data = .ok t) :
  s.Structures data t
  := by
  obtain ⟨-, ⟨hdata, rfl⟩ | ⟨hdata, rfl⟩ | ⟨docs, newBooks, hdata, -, hbooks, rfl⟩⟩ :=
    bookInfoResponse_eq_ok.mp h
  · use []
    rw [InfoData.cleanDocuments_of_none hdata, List.append_nil]
    exact ⟨rfl, List.Forall₂.nil⟩
  · use []
    rw [InfoData.cleanDocuments_of_some hdata, List.append_nil]
    exact ⟨rfl, List.Forall₂.nil⟩
  · use (s.infoAnswered r).newResults newBooks
    rw [InfoData.cleanDocuments_of_some hdata, bookResults_booksStructured]
    exact ⟨rfl, describes_booksStructured hbooks⟩

/-- The handler runs to its end when no document it structures has a value of another type. -/
theorem exists_bookInfoResponse {data : InfoData} (hr : r ∈ s.search.infoTasks)
    (h : ∀ doc ∈ data.cleanDocuments, WellTyped doc) :
  ∃ t, s.bookInfoResponse r data = .ok t
  := by
  cases hdata : data.bookResultsJSON? with
  | none => exact ⟨_, bookInfoResponse_eq_ok.mpr ⟨hr, Or.inl ⟨hdata, rfl⟩⟩⟩
  | some docs =>
      rcases eq_or_ne docs [] with rfl | hdocs
      · exact ⟨_, bookInfoResponse_eq_ok.mpr ⟨hr, Or.inr (Or.inl ⟨hdata, rfl⟩)⟩⟩
      · rw [InfoData.cleanDocuments_of_some hdata] at h
        obtain ⟨newBooks, hbooks⟩ := exists_structureBooks_iff.mpr h
        exact ⟨_, bookInfoResponse_eq_ok.mpr
          ⟨hr, Or.inr (Or.inr ⟨docs, newBooks, hdata, hdocs, hbooks, rfl⟩)⟩⟩

/-- The values of the documents a handler structures are of the expected types. -/
theorem wellTyped_of_bookInfoResponse {data : InfoData} {t : State}
    (h : s.bookInfoResponse r data = .ok t) :
  ∀ doc ∈ data.cleanDocuments, WellTyped doc
  := by
  obtain ⟨-, ⟨hdata, -⟩ | ⟨hdata, -⟩ | ⟨docs, newBooks, hdata, -, hbooks, -⟩⟩ :=
    bookInfoResponse_eq_ok.mp h
  · rw [InfoData.cleanDocuments_of_none hdata]
    intro doc hdoc
    cases hdoc
  · rw [InfoData.cleanDocuments_of_some hdata]
    intro doc hdoc
    cases hdoc
  · rw [InfoData.cleanDocuments_of_some hdata]
    apply exists_structureBooks_iff.mp ⟨newBooks, hbooks⟩

/-- The handler of a call in flight ends early only where a forced cast fails. -/
theorem fault_of_bookInfoResponse {data : InfoData} {fault : Fault}
    (hr : r ∈ s.search.infoTasks) (h : s.bookInfoResponse r data = .error fault) :
  fault = .trap .forcedCast
  := by
  rw [bookInfoResponse, if_pos hr] at h
  split at h
  · cases h
  · cases h
  · split at h
    · apply (Except.error.inj h).symm
    · cases h

end State

/-- The response to a call in flight, whatever it is, is handled to the end, with each document
turned into a book or left out, exactly when the values of each document with all six keys are
of the expected types; otherwise a forced cast fails. -/
theorem structuring_iff (F : Foundation) (s : State) (r : Nat) (data : InfoData)
    (hr : r ∈ s.search.infoTasks) :
  ((∃ t, (application F).step s (.bookInfoResponse r data) = .ok t ∧ s.Structures data t) ↔
      ∀ doc ∈ data.cleanDocuments, WellTyped doc) ∧
    ((application F).step s (.bookInfoResponse r data) = .error (.trap .forcedCast) ↔
      ¬ ∀ doc ∈ data.cleanDocuments, WellTyped doc)
  := by
  have hok : (∃ t, (application F).step s (.bookInfoResponse r data) = .ok t) ↔
      ∀ doc ∈ data.cleanDocuments, WellTyped doc := by
    constructor
    · rintro ⟨t, ht⟩
      apply State.wellTyped_of_bookInfoResponse ht
    · apply State.exists_bookInfoResponse hr
  rw [← hok]
  constructor
  · constructor
    · rintro ⟨t, ht, -⟩
      use t
    · rintro ⟨t, ht⟩
      exact ⟨t, ht, State.structures_of_bookInfoResponse ht⟩
  · constructor
    · rintro htrap ⟨t, ht⟩
      cases htrap.symm.trans ht
    · intro hnone
      cases hstep : (application F).step s (.bookInfoResponse r data) with
      | ok t => cases hnone ⟨t, hstep⟩
      | error fault =>
          rw [State.fault_of_bookInfoResponse hr hstep]

/-- A response with one document. -/
theorem structuring_iff_dune :
  ∃ s, (application .onPlainText).run (launch Table.empty)
      [.screen (.searchBarTextDidChange "dune"), .beginRequest 1] = .ok s ∧
    ((∃ t, (application .onPlainText).step s
        (.bookInfoResponse 0 (responseOf [document 7 "Dune"])) = .ok t ∧
        s.Structures (responseOf [document 7 "Dune"]) t) ↔
      ∀ doc ∈ (responseOf [document 7 "Dune"]).cleanDocuments, WellTyped doc)
  := by
  refine ⟨_, rfl, ?_⟩
  apply (structuring_iff .onPlainText _ 0 _ (by decide)).1

/-- A document whose `cover_i` is `null` has the key, and the cast of its value fails. -/
theorem null_cover_traps :
  ¬ ∀ (F : Foundation) (realm : Realm) (as : List Action) (s : State) (r : Nat)
    (data : InfoData), (application F).run (launch realm) as = .ok s →
      r ∈ s.search.infoTasks →
      ∃ t, (application F).step s (.bookInfoResponse r data) = .ok t ∧ s.Structures data t
  := by
  intro h
  obtain ⟨t, ht, -⟩ := h .onPlainText Table.empty
    [.screen (.searchBarTextDidChange "dune"), .beginRequest 1] _ 0
    (responseOf [[("cover_i", .null), ("title", .string "Dune"),
      ("author_name", .array [.string "Frank Herbert"]), ("first_publish_year", .number 1965),
      ("publisher", .array [.string "Chilton"]), ("edition_count", .number 120)]])
    rfl (by decide)
  cases ht

end OpenLibrary
