import Mathlib
import OpenLibrary.Search.Answers
import OpenLibrary.Search.Superseded

/-!
# The search pipeline

A call of `requestAPI` that nothing else overlaps goes through three phases: its response is
awaited (`Waiting`); the books of its documents are the results, and their covers come in
whatever order (`Covering`); its completion has been called, with the books the documents
describe (`Completed`). Each step keeps the phase or leads to the next, and no callback the
call waits for fails.

What the documents describe (`HasRequiredKeys`, `WellTyped`, `Describes`) and where a cover is
found (`coverURL`) is said here in words of its own, and not with the functions of the program.
-/

namespace OpenLibrary

/-! ### What a document describes -/

/-- The name shown for a list of names. -/
def listName : List String → String
  | [] => ""
  | [name] => name
  | _ => "Multiple"

theorem nameOfList_eq_listName (list : List String) :
  nameOfList list = listName list
  := by
  match list with
  | [] => rfl
  | [name] => simp [nameOfList, listName, String.join]
  | _ :: _ :: _ => simp [nameOfList, listName]

/-- The keys the document of a book must have. -/
def requiredKeys : List String :=
  ["cover_i", "title", "author_name", "first_publish_year", "publisher", "edition_count"]

/-- A document has all the required keys. -/
def HasRequiredKeys (doc : JsonObject) : Prop :=
  ∀ key ∈ requiredKeys, key ∈ doc.map Prod.fst

instance : DecidablePred HasRequiredKeys := fun doc =>
  inferInstanceAs (Decidable (∀ key ∈ requiredKeys, key ∈ doc.map Prod.fst))

/-- The documents that are not left out are those with all the required keys. -/
theorem isClean_iff {doc : JsonObject} :
  isClean doc ↔ HasRequiredKeys doc
  := by
  have hkey : ∀ key : String, (doc.lookup key).isSome ↔ key ∈ doc.map Prod.fst := by
    intro key
    rw [List.lookup_isSome_iff, List.mem_map]
    apply exists_congr
    intro p
    rw [beq_iff_eq, eq_comm]
  simp only [isClean, Bool.and_eq_true, hkey, HasRequiredKeys, requiredKeys, List.forall_mem_cons,
    List.not_mem_nil, false_implies, implies_true, and_true, and_assoc]

theorem filter_isClean (docs : List JsonObject) :
  docs.filter isClean = docs.filter HasRequiredKeys
  := by
  apply List.filter_congr
  intro doc _
  apply Bool.eq_iff_iff.mpr
  rw [decide_eq_true_eq]
  apply isClean_iff

/-- The values a document has are of the expected types. -/
structure WellTyped (doc : JsonObject) : Prop where
  coverID : ((doc.lookup "cover_i").bind Json.asInt?).isSome
  title : ((doc.lookup "title").bind Json.asString?).isSome
  firstPublishYear : ((doc.lookup "first_publish_year").bind Json.asInt?).isSome
  editionCount : ((doc.lookup "edition_count").bind Json.asInt?).isSome
  authorName : ((doc.lookup "author_name").bind Json.asStrings?).isSome
  publisher : ((doc.lookup "publisher").bind Json.asStrings?).isSome
  subtitle : ∀ value, doc.lookup "subtitle" = some value → value.asString?.isSome

/-- The fields of a book are those of a document. -/
structure Describes (doc : JsonObject) (b : Book) : Prop where
  coverID : (doc.lookup "cover_i").bind Json.asInt? = some b.coverID
  title : (doc.lookup "title").bind Json.asString? = some b.title
  firstPublishYear : (doc.lookup "first_publish_year").bind Json.asInt? = some b.firstPublishYear
  editionCount : (doc.lookup "edition_count").bind Json.asInt? = some b.editionCount
  authorName : ((doc.lookup "author_name").bind Json.asStrings?).map listName = some b.authorName
  publisher : ((doc.lookup "publisher").bind Json.asStrings?).map listName = some b.publisher
  subtitle : (doc.lookup "subtitle").elim (some "") Json.asString? = some b.subtitle

theorem subtitle?_eq_elim (doc : JsonObject) :
  subtitle? doc = (doc.lookup "subtitle").elim (some "") Json.asString?
  := by
  rw [subtitle?]
  cases doc.lookup "subtitle" with
  | none => rfl
  | some value => rfl

/-- A book is structured from every document with values of the expected types. -/
theorem exists_structureBook {doc : JsonObject} (h : WellTyped doc) :
  ∃ b, structureBook doc = some b
  := by
  obtain ⟨coverID, hcoverID⟩ := Option.isSome_iff_exists.mp h.coverID
  obtain ⟨title, htitle⟩ := Option.isSome_iff_exists.mp h.title
  obtain ⟨firstPublishYear, hyear⟩ := Option.isSome_iff_exists.mp h.firstPublishYear
  obtain ⟨editionCount, hcount⟩ := Option.isSome_iff_exists.mp h.editionCount
  obtain ⟨authors, hauthors⟩ := Option.isSome_iff_exists.mp h.authorName
  obtain ⟨publishers, hpublishers⟩ := Option.isSome_iff_exists.mp h.publisher
  obtain ⟨subtitle, hsubtitle⟩ : ∃ subtitle, subtitle? doc = some subtitle := by
    rw [subtitle?_eq_elim]
    cases hs : doc.lookup "subtitle" with
    | none => exact ⟨"", rfl⟩
    | some value => apply Option.isSome_iff_exists.mp (h.subtitle value hs)
  exact ⟨_, structureBook_eq_some.mpr
    ⟨coverID, title, firstPublishYear, editionCount, authors, publishers, subtitle,
      hcoverID, htitle, hyear, hcount, hauthors, hpublishers, hsubtitle, rfl⟩⟩

/-- The book structured from a document has its fields, no cover, and is not marked. -/
theorem describes_structureBook {doc : JsonObject} {b : Book} (h : structureBook doc = some b) :
  Describes doc b ∧ b.coverData = [] ∧ b.isInWishlist = false
  := by
  obtain ⟨coverID, title, firstPublishYear, editionCount, authors, publishers, subtitle,
    hcoverID, htitle, hyear, hcount, hauthors, hpublishers, hsubtitle, rfl⟩ :=
    structureBook_eq_some.mp h
  refine ⟨?_, rfl, rfl⟩
  constructor
  · apply hcoverID
  · apply htitle
  · apply hyear
  · apply hcount
  · rw [hauthors]
    apply congrArg some (nameOfList_eq_listName authors).symm
  · rw [hpublishers]
    apply congrArg some (nameOfList_eq_listName publishers).symm
  · rw [← subtitle?_eq_elim]
    apply hsubtitle

theorem bookResultsJSON?_responseOf (docs : List JsonObject) :
  (responseOf docs).bookResultsJSON? = some docs
  := by
  have hobjects : (Json.array (docs.map .object)).asObjects? = some docs := by
    apply List.mapM_eq_some_iff.mpr
    rw [List.forall₂_map_left_iff, List.forall₂_same]
    intro doc _
    rfl
  apply hobjects

/-- The book of a document when its search is complete: it has the fields of the document and
the data of its cover, and is marked exactly when the store holds a record of its `coverID`. -/
structure Finished (realm : Realm) (doc : JsonObject) (coverData : Data) (b : Book) : Prop where
  describes : Describes doc b
  coverData : b.coverData = coverData
  isInWishlist : b.isInWishlist = true ↔ realm.Holds b.coverID

/-! ### Where a cover is found -/

/-- The URL of the cover with a number, in medium size. -/
def coverURL (coverID : Int) : String :=
  s!"http://covers.openlibrary.org/b/id/{coverID}-M.jpg"

/-- The number of a cover is read off its URL. -/
theorem coverURL_inj {c d : Int} :
  coverURL c = coverURL d ↔ c = d
  := by
  change "http://covers.openlibrary.org/b/id/" ++ toString c ++ "-M.jpg" =
    "http://covers.openlibrary.org/b/id/" ++ toString d ++ "-M.jpg" ↔ _
  rw [String.append_left_inj, String.append_right_inj]
  apply Int.repr_inj

/-- The cover of a book is asked for under the URL of its own number. -/
theorem bookCoverRequestURL_eq_coverURL (coverID : Int) :
  bookCoverRequestURL coverID = coverURL coverID
  := rfl

/-! ### Callbacks -/

namespace State

/-- The callback is one the state waits for: the answer to a data task in flight, or the
`notify` block of a group left as often as entered. -/
def Due (s : State) : Action → Prop
  | .bookInfoResponse r _ => r ∈ s.search.infoTasks
  | .coverResponse task _ => task ∈ s.search.coverTasks
  | .coversNotified r => r ∈ s.search.notifies ∧ s.search.groups r = 0
  | _ => False

/-- The data is `cover` of the book that asks for a cover and the number it asks for. -/
def IsCover (cover : Nat → Int → Data) (task : CoverTask) (imageData : Data) : Prop :=
  ∀ coverID, task.url = coverURL coverID → imageData = cover task.book coverID

/-- A step that begins no call and presses no wishlist button, in which a response to
`requesBookInfo` has the given documents, and each cover comes with data. -/
def Undisturbed (docs : List JsonObject) (cover : Nat → Int → Data) (s : State) : Action → Prop
  | .beginRequest _ => s.userInfo = none
  | .bookInfoResponse _ data => data.bookResultsJSON? = some docs
  | .coverResponse task data => ∃ imageData, data = some imageData ∧ IsCover cover task imageData
  | .userPressedWishlistButton _ => False
  | .notifyWishlistOfUpdate => False
  | _ => True

/-- A callback the state waits for, bringing the given documents or a cover. -/
def Awaited (docs : List JsonObject) (cover : Nat → Int → Data) (s : State) (a : Action) : Prop :=
  s.Due a ∧ s.Undisturbed docs cover a

/-- The cover task of the book at an index, for a call made in a state. -/
def coverTaskAt (s : State) (i : Nat) (b : Book) : CoverTask where
  request := s.search.requests
  book := s.objects.next + i
  url := bookCoverRequestURL b.coverID

/-- The books a call made in the state `s` is completed with, when its response has the given
documents: one for each document with all the required keys, in their order, with the data that
came for it and its own `coverID`, and marked by the store, which stays as it is until then. -/
structure Answer (s : State) (docs : List JsonObject) (cover : Nat → Int → Data)
    (books : List Book) : Prop where
  length : books.length = (docs.filter HasRequiredKeys).length
  finished : ∀ (i : Nat) (doc : JsonObject) (b : Book),
    (docs.filter HasRequiredKeys)[i]? = some doc → books[i]? = some b →
      Finished s.realm doc (cover (s.objects.next + i) b.coverID) b

/-- A book with the data of its cover, once that has come. -/
def withCover (s v : State) (cover : Nat → Int → Data) (i : Nat) (b : Book) : Book :=
  if s.coverTaskAt i b ∈ v.search.coverTasks then
    b
  else
    { b with coverData := cover (s.objects.next + i) b.coverID }

/-- A book with the data of its cover, marked if the store has a record of it. -/
def finished (s : State) (cover : Nat → Int → Data) (i : Nat) (b : Book) : Book :=
  if s.realm.countCover b.coverID ≠ 0 then
    { b with coverData := cover (s.objects.next + i) b.coverID, isInWishlist := true }
  else
    { b with coverData := cover (s.objects.next + i) b.coverID }

/-! ### The phases of a call -/

/-- What stays, during the call made in the state `s`, as it was then. -/
structure Alone (s v : State) : Prop where
  realm : v.realm = s.realm
  posting : v.posting = none
  groups : ∀ r ∈ s.search.notifies, v.search.groups r = s.search.groups r

/-- The response to the call made in the state `s` is awaited. -/
structure Waiting (s v : State) : Prop extends Alone s v where
  next : v.objects.next = s.objects.next
  infoTasks : v.search.infoTasks = [s.search.requests]
  coverTasks : v.search.coverTasks = []
  bookResults : v.search.bookResults = []
  notifies : v.search.notifies = s.search.notifies
  history : v.history.filter (Event.completes s.search.requests) = []

/-- The books of the call made in the state `s` are the results, and their covers come. -/
structure Covering (s : State) (newBooks : List Book) (cover : Nat → Int → Data)
    (v : State) : Prop extends Alone s v where
  infoTasks : v.search.infoTasks = []
  bookResults : v.search.bookResults = s.newResults newBooks
  notifies : v.search.notifies = s.search.notifies ++ [s.search.requests]
  group : v.search.groups s.search.requests = v.search.coverTasks.length
  nodup : v.search.coverTasks.Nodup
  tasks : ∀ task ∈ v.search.coverTasks,
    ∃ i b, newBooks[i]? = some b ∧ task = s.coverTaskAt i b
  books : ∀ (i : Nat) (b : Book), newBooks[i]? = some b →
    v.objects.book (s.objects.next + i) = s.withCover v cover i b
  history : v.history.filter (Event.completes s.search.requests) = []

/-- The completion of the call made in the state `s` has been called. -/
structure Completed (s : State) (newBooks : List Book) (cover : Nat → Int → Data)
    (v : State) : Prop extends Alone s v where
  infoTasks : v.search.infoTasks = []
  coverTasks : v.search.coverTasks = []
  notifies : v.search.notifies = s.search.notifies
  history : v.history.filter (Event.completes s.search.requests) =
    [.completed s.search.requests true (newBooks.mapIdx (s.finished cover))]

/-- The phases of the call made in the state `s`. -/
inductive Phase (s : State) (newBooks : List Book) (cover : Nat → Int → Data)
    (v : State) : Prop where
  | waiting (h : Waiting s v)
  | covering (h : Covering s newBooks cover v)
  | completed (h : Completed s newBooks cover v)

section Phases

variable {F : Foundation} {s v w : State} {newBooks : List Book} {docs : List JsonObject}
  {cover : Nat → Int → Data} {a : Action}

/-- Events that are no completions do not matter. -/
theorem filter_completes_append {r : Nat} {history events : List Event}
    (h : ∀ e ∈ events, Event.completes r e = false) :
  (history ++ events).filter (Event.completes r) = history.filter (Event.completes r)
  := by
  have hnone : events.filter (Event.completes r) = [] := by
    rw [List.filter_eq_nil_iff]
    intro e he
    rw [h e he]
    apply Bool.false_ne_true
  rw [List.filter_append, hnone, List.append_nil]

theorem Alone.congr (h : Alone s v) (hrealm : w.realm = v.realm)
    (hsearch : w.search = v.search) (hposting : w.posting = v.posting) :
  Alone s w
  := by
  constructor
  · rw [hrealm, h.realm]
  · rw [hposting, h.posting]
  · rw [hsearch]
    apply h.groups

/-- Steps that leave the store, the objects and the search manager alone, and complete
nothing, keep the phase. -/
theorem Phase.congr (h : Phase s newBooks cover v) (events : List Event)
    (hrealm : w.realm = v.realm) (hobjects : w.objects = v.objects)
    (hsearch : w.search = v.search) (hposting : w.posting = v.posting)
    (hhistory : w.history = v.history ++ events)
    (hevents : ∀ e ∈ events, ∀ r, Event.completes r e = false) :
  Phase s newBooks cover w
  := by
  have hfilter : ∀ r, w.history.filter (Event.completes r) =
      v.history.filter (Event.completes r) := by
    intro r
    rw [hhistory]
    apply filter_completes_append
    intro e he
    apply hevents e he r
  cases h with
  | waiting h =>
      apply Phase.waiting
      constructor
      · apply h.toAlone.congr hrealm hsearch hposting
      · rw [hobjects, h.next]
      · rw [hsearch, h.infoTasks]
      · rw [hsearch, h.coverTasks]
      · rw [hsearch, h.bookResults]
      · rw [hsearch, h.notifies]
      · rw [hfilter, h.history]
  | covering h =>
      apply Phase.covering
      constructor
      · apply h.toAlone.congr hrealm hsearch hposting
      · rw [hsearch, h.infoTasks]
      · rw [hsearch, h.bookResults]
      · rw [hsearch, h.notifies]
      · rw [hsearch, h.group]
      · rw [hsearch]
        apply h.nodup
      · rw [hsearch]
        apply h.tasks
      · intro i b hb
        rw [hobjects, h.books i b hb, withCover, withCover, hsearch]
      · rw [hfilter, h.history]
  | completed h =>
      apply Phase.completed
      constructor
      · apply h.toAlone.congr hrealm hsearch hposting
      · rw [hsearch, h.infoTasks]
      · rw [hsearch, h.coverTasks]
      · rw [hsearch, h.notifies]
      · rw [hfilter, h.history]

/-- The cover tasks of two books of the results are different. -/
theorem coverTaskAt_inj {i j : Nat} {b c : Book} (h : s.coverTaskAt i b = s.coverTaskAt j c) :
  i = j
  := Nat.add_left_cancel (congrArg CoverTask.book h)

/-- A book asks for the cover with its own number. -/
theorem isCover_coverTaskAt {i : Nat} {b : Book} {imageData : Data} :
  IsCover cover (s.coverTaskAt i b) imageData ↔
    imageData = cover (s.objects.next + i) b.coverID
  := by
  have hurl : ∀ coverID, (s.coverTaskAt i b).url = coverURL coverID ↔ b.coverID = coverID := by
    intro coverID
    rw [coverTaskAt, bookCoverRequestURL_eq_coverURL, coverURL_inj]
  simp only [IsCover, hurl, forall_eq']
  rfl

/-- Once the books are structured, the covers asked for are those of the structured books. -/
theorem mem_coverTasks_booksStructured {r : Nat} (hresults : s.search.bookResults = [])
    (hcoverTasks : s.search.coverTasks = []) {task : CoverTask} :
  task ∈ (s.booksStructured r newBooks).search.coverTasks ↔
    ∃ i b, newBooks[i]? = some b ∧
      task = { request := r, book := s.objects.next + i, url := bookCoverRequestURL b.coverID }
  := by
  rw [coverTasks_booksStructured, bookResults_booksStructured, hresults, hcoverTasks,
    List.nil_append, List.nil_append, List.mem_map]
  constructor
  · rintro ⟨o, ho, rfl⟩
    obtain ⟨hle, hlt⟩ := List.mem_range'_1.mp ho
    obtain ⟨i, rfl⟩ := Nat.exists_eq_add_of_le hle
    have hi : i < newBooks.length := by omega
    use i, newBooks[i], List.getElem?_eq_getElem hi
    rw [coverTask, book_booksStructured s r newBooks (List.getElem?_eq_getElem hi)]
  · rintro ⟨i, b, hb, rfl⟩
    obtain ⟨hi, -⟩ := List.getElem?_eq_some_iff.mp hb
    use s.objects.next + i
    constructor
    · apply List.mem_range'_1.mpr
      omega
    · rw [coverTask, book_booksStructured s r newBooks hb]

/-- Once the books are structured, no cover is asked for twice. -/
theorem nodup_coverTasks_booksStructured {r : Nat} (hresults : s.search.bookResults = [])
    (hcoverTasks : s.search.coverTasks = []) :
  (s.booksStructured r newBooks).search.coverTasks.Nodup
  := by
  rw [coverTasks_booksStructured, bookResults_booksStructured, hresults, hcoverTasks,
    List.nil_append, List.nil_append]
  apply List.Nodup.map
  · intro o p hop
    apply congrArg CoverTask.book hop
  · apply List.nodup_range' (h := Nat.one_pos)

/-- The structured books are the results, and the cover of each is asked for. -/
theorem Waiting.results (h : Waiting s v) (hs : s.search.requests ∉ s.search.notifies)
    (newBooks : List Book) (cover : Nat → Int → Data) :
  Covering s newBooks cover ((v.infoAnswered s.search.requests).booksStructured
    s.search.requests newBooks)
  := by
  have hresults : (v.infoAnswered s.search.requests).search.bookResults = [] := h.bookResults
  have hcoverTasks : (v.infoAnswered s.search.requests).search.coverTasks = [] := h.coverTasks
  have hnext : (v.infoAnswered s.search.requests).objects.next = s.objects.next := h.next
  have htasks : ∀ task, task ∈ ((v.infoAnswered s.search.requests).booksStructured
        s.search.requests newBooks).search.coverTasks ↔
      ∃ i b, newBooks[i]? = some b ∧ task = s.coverTaskAt i b := by
    intro task
    rw [mem_coverTasks_booksStructured hresults hcoverTasks, hnext]
    rfl
  constructor
  · constructor
    · rw [realm_booksStructured]
      apply h.realm
    · rw [posting_booksStructured]
      apply h.posting
    · intro r hr
      have hne : r ≠ s.search.requests := by
        rintro rfl
        apply hs hr
      rw [group_booksStructured_of_ne _ _ _ hne]
      apply h.groups r hr
  · rw [infoTasks_booksStructured]
    change v.search.infoTasks.erase s.search.requests = []
    rw [h.infoTasks, List.erase_cons_head]
  · rw [bookResults_booksStructured, hresults, List.nil_append, newResults, hnext]
    rfl
  · rw [notifies_booksStructured]
    apply congrArg (· ++ [s.search.requests]) h.notifies
  · rw [group_booksStructured, coverTasks_booksStructured, hcoverTasks, List.nil_append,
      List.length_map]
  · apply nodup_coverTasks_booksStructured hresults hcoverTasks
  · intro task htask
    apply (htasks task).mp htask
  · intro i b hb
    rw [withCover, if_pos]
    · rw [← hnext, book_booksStructured _ _ _ hb]
    · exact (htasks _).mpr ⟨i, b, hb, rfl⟩
  · rw [history_booksStructured, filter_completes_append]
    · apply h.history
    · intro e he
      obtain ⟨o, -, rfl⟩ := List.mem_map.mp he
      rfl

/-- A cover is set at its book, and its group left. -/
theorem Covering.received (h : Covering s newBooks cover v)
    (hs : s.search.requests ∉ s.search.notifies) {task : CoverTask}
    (htask : task ∈ v.search.coverTasks) {imageData : Data}
    (hcover : IsCover cover task imageData) :
  Covering s newBooks cover ((v.coverAnswered task).coverReceived task imageData)
  := by
  obtain ⟨j, c, hc, rfl⟩ := h.tasks task htask
  obtain rfl := isCover_coverTaskAt.mp hcover
  constructor
  · constructor
    · apply h.realm
    · apply h.posting
    · intro r hr
      apply Eq.trans (Function.update_of_ne _ _ _) (h.groups r hr)
      rintro rfl
      apply hs hr
  · apply h.infoTasks
  · apply h.bookResults
  · apply h.notifies
  · change Function.update v.search.groups s.search.requests
        (v.search.groups s.search.requests - 1) s.search.requests =
      (v.search.coverTasks.erase (s.coverTaskAt j c)).length
    rw [Function.update_self, h.group, List.length_erase_of_mem htask]
  · apply h.nodup.erase
  · intro task htask'
    apply h.tasks task (List.mem_of_mem_erase htask')
  · intro i b hb
    have hmem : s.coverTaskAt i b ∈ ((v.coverAnswered (s.coverTaskAt j c)).coverReceived
          (s.coverTaskAt j c) (cover (s.objects.next + j) c.coverID)).search.coverTasks ↔
        s.coverTaskAt i b ≠ s.coverTaskAt j c ∧ s.coverTaskAt i b ∈ v.search.coverTasks :=
      h.nodup.mem_erase_iff
    have hbook : (v.coverAnswered (s.coverTaskAt j c)).objects.book (s.objects.next + i) =
        s.withCover v cover i b := h.books i b hb
    rw [book_coverReceived, hbook]
    rcases eq_or_ne i j with rfl | hij
    · obtain rfl := Option.some.inj (hb.symm.trans hc)
      have hself : s.objects.next + i = (s.coverTaskAt i b).book := rfl
      rw [if_pos hself, withCover, if_pos htask, withCover, if_neg]
      intro hmem'
      apply (hmem.mp hmem').1 rfl
    · have hne : s.coverTaskAt i b ≠ s.coverTaskAt j c := by
        intro he
        apply hij (coverTaskAt_inj he)
      rw [if_neg]
      · apply if_congr _ rfl rfl
        rw [hmem]
        apply (and_iff_right hne).symm
      · intro he
        apply hij (Nat.add_left_cancel he)
  · apply h.history

/-- Once all covers have come the results are finished, and the completion is called with
them. -/
theorem Covering.notified (h : Covering s newBooks cover v)
    (hs : s.search.requests ∉ s.search.notifies)
    (hgroup : v.search.groups s.search.requests = 0) :
  Completed s newBooks cover
    ((v.notifyTaken s.search.requests).determineWishlistBooks.complete s.search.requests true)
  := by
  have hcoverTasks : v.search.coverTasks = [] := by
    rw [← List.length_eq_zero_iff, ← h.group, hgroup]
  have hresults : (v.notifyTaken s.search.requests).determineWishlistBooks.results =
      newBooks.mapIdx (s.finished cover) := by
    change v.search.bookResults.map
        (v.search.bookResults.foldl (determineWishlistBook v.realm) v.objects).book = _
    rw [h.bookResults]
    apply List.ext_getElem?
    intro i
    rw [List.getElem?_map, List.getElem?_mapIdx, newResults]
    cases hb : newBooks[i]? with
    | none =>
        rw [List.getElem?_eq_none]
        · rfl
        · rw [List.length_range']
          apply List.getElem?_eq_none_iff.mp hb
    | some b =>
        obtain ⟨hi, -⟩ := List.getElem?_eq_some_iff.mp hb
        have hbook := h.books i b hb
        rw [withCover, hcoverTasks, if_neg List.not_mem_nil] at hbook
        rw [List.getElem?_range' hi, Nat.one_mul, Option.map_some, Option.map_some,
          book_foldl_determineWishlistBook, hbook, h.realm, finished]
        congr 1
        apply if_congr _ rfl rfl
        apply and_iff_right
        apply List.mem_range'_1.mpr
        omega
  constructor
  · exact ⟨h.realm, h.posting, h.groups⟩
  · apply h.infoTasks
  · apply hcoverTasks
  · change v.search.notifies.erase s.search.requests = s.search.notifies
    rw [h.notifies, List.erase_append_right _ hs, List.erase_cons_head, List.append_nil]
  · change (v.history ++ [Event.completed _ true _]).filter _ = _
    rw [List.filter_append, h.history, hresults]
    simp [Event.completes]

theorem Phase.alone (h : Phase s newBooks cover v) :
  Alone s v
  := by
  cases h with
  | waiting h => apply h.toAlone
  | covering h => apply h.toAlone
  | completed h => apply h.toAlone

/-- A response is that to the call, which is waiting for it. -/
theorem Phase.results (h : Phase s newBooks cover v)
    (hs : s.search.requests ∉ s.search.notifies) {r : Nat} (hr : r ∈ v.search.infoTasks) :
  Phase s newBooks cover ((v.infoAnswered r).booksStructured r newBooks)
  := by
  cases h with
  | waiting h =>
      rw [h.infoTasks, List.mem_singleton] at hr
      rw [hr]
      apply Phase.covering (h.results hs newBooks cover)
  | covering h =>
      rw [h.infoTasks] at hr
      cases hr
  | completed h =>
      rw [h.infoTasks] at hr
      cases hr

/-- A cover is one of those that are to come. -/
theorem Phase.received (h : Phase s newBooks cover v)
    (hs : s.search.requests ∉ s.search.notifies) {task : CoverTask}
    (htask : task ∈ v.search.coverTasks) {imageData : Data}
    (hcover : IsCover cover task imageData) :
  Phase s newBooks cover ((v.coverAnswered task).coverReceived task imageData)
  := by
  cases h with
  | waiting h =>
      rw [h.coverTasks] at htask
      cases htask
  | covering h => apply Phase.covering (h.received hs htask hcover)
  | completed h =>
      rw [h.coverTasks] at htask
      cases htask

/-- A `notify` block that runs is that of the call, since the other groups are never empty. -/
theorem Phase.notified (h : Phase s newBooks cover v)
    (hs : s.search.requests ∉ s.search.notifies)
    (hnotifies : ∀ r ∈ s.search.notifies, s.search.groups r ≠ 0) {r : Nat}
    (hr : r ∈ v.search.notifies) (hgroup : v.search.groups r = 0) :
  Phase s newBooks cover ((v.notifyTaken r).determineWishlistBooks.complete r true)
  := by
  have hnone : r ∉ s.search.notifies := by
    intro hr'
    apply hnotifies r hr'
    rw [← h.alone.groups r hr', hgroup]
  cases h with
  | waiting h =>
      rw [h.notifies] at hr
      cases hnone hr
  | covering h =>
      rw [h.notifies, List.mem_append, or_iff_right hnone, List.mem_singleton] at hr
      subst hr
      apply Phase.completed (h.notified hs hgroup)
  | completed h =>
      rw [h.notifies] at hr
      cases hnone hr

/-- An undisturbed step keeps the phase, or leads to the next one. -/
theorem Phase.step (h : Phase s newBooks cover v)
    (hs : s.search.requests ∉ s.search.notifies)
    (hnotifies : ∀ r ∈ s.search.notifies, s.search.groups r ≠ 0)
    (hdocs : docs ≠ []) (hbooks : structureBooks docs = some newBooks)
    (ha : v.Undisturbed docs cover a) (he : Effect F v a w) :
  Phase s newBooks cover w
  := by
  cases he with
  | @screen action screen events hidle hscreen =>
      apply h.congr events
      · rfl
      · rfl
      · rfl
      · rfl
      · rfl
      · intro e he r
        obtain ⟨row, b, -, rfl⟩ := events_of_screenStep hscreen e he
        rfl
  | timer =>
      apply h.congr []
      · rfl
      · rfl
      · rfl
      · rfl
      · apply (List.append_nil _).symm
      · simp
  | request hidle htimer hinfo hurl => cases ha.symm.trans hinfo
  | noResults hr hdata => cases ha.symm.trans hdata
  | emptyResults hr hdata => cases hdocs (Option.some.inj (ha.symm.trans hdata))
  | results hr hdata hdocs' hbooks' =>
      obtain rfl := Option.some.inj (ha.symm.trans hdata)
      obtain rfl := Option.some.inj (hbooks.symm.trans hbooks')
      apply h.results hs hr
  | noCover htask =>
      obtain ⟨imageData, hdata, -⟩ := ha
      cases hdata
  | cover htask =>
      obtain ⟨imageData, hdata, hcover⟩ := ha
      obtain rfl := Option.some.inj hdata
      apply h.received hs htask hcover
  | notified hr hgroup => apply h.notified hs hnotifies hr hgroup
  | pressed hidle hpress hread =>
      cases a with
      | userPressedWishlistButton row => cases ha
      | notifyWishlistOfUpdate => cases ha
      | _ => cases hpress
  | updated hposting hread => cases h.alone.posting.symm.trans hposting

/-- When everything issued has been delivered, the completion of the call has been called. -/
theorem Phase.completed_of_settled (h : Phase s newBooks cover v) (hv : v.Settled) :
  Completed s newBooks cover v
  := by
  cases h with
  | waiting h =>
      have hnone := hv.infoTasks
      rw [h.infoTasks] at hnone
      cases hnone
  | covering h =>
      have hr : s.search.requests ∈ v.search.notifies := by
        rw [h.notifies]
        apply List.mem_append_right _ (List.mem_singleton_self _)
      cases hv.notifies s.search.requests hr (by rw [h.group, hv.coverTasks, List.length_nil])
  | completed h => apply h

/-- A callback that is awaited comes, and its handler runs to its end. -/
theorem step_of_awaited (ha : v.Awaited docs cover a) (hdocs : docs ≠ [])
    (hbooks : structureBooks docs = some newBooks) :
  ∃ w, v.step F a = .ok w
  := by
  obtain ⟨hdue, ha⟩ := ha
  cases a with
  | bookInfoResponse r data => exact ⟨_, step_eq_ok.mpr (Effect.results hdue ha hdocs hbooks)⟩
  | coverResponse task data =>
      obtain ⟨imageData, rfl, -⟩ := ha
      exact ⟨_, step_eq_ok.mpr (Effect.cover hdue)⟩
  | coversNotified r => exact ⟨_, step_eq_ok.mpr (Effect.notified hdue.1 hdue.2)⟩
  | _ => cases hdue

/-- The covers that have not come yet can all come, and the completion be called then. -/
theorem Covering.exists_completed (F : Foundation) (docs : List JsonObject)
    (h : Covering s newBooks cover v) (hs : s.search.requests ∉ s.search.notifies) :
  ∃ as w, (application F).run v as = .ok w ∧
    (application F).EveryStep (Awaited docs cover) v as ∧ Completed s newBooks cover w
  := by
  generalize hn : v.search.coverTasks.length = n
  induction n generalizing v with
  | zero =>
      have hgroup := h.group.trans hn
      have hr : s.search.requests ∈ v.search.notifies := by
        rw [h.notifies]
        apply List.mem_append_right _ (List.mem_singleton_self _)
      have hstep := step_eq_ok.mpr (Effect.notified (F := F) hr hgroup)
      refine ⟨[.coversNotified s.search.requests], _,
        Machine.run_cons.mpr ⟨_, hstep, rfl⟩, ?_, ?_⟩
      · exact (Machine.everyStep_cons hstep).mpr
          ⟨⟨⟨hr, hgroup⟩, trivial⟩, Machine.everyStep_nil⟩
      · apply h.notified hs hgroup
  | succ n ih =>
      obtain ⟨task, htask⟩ : ∃ task, task ∈ v.search.coverTasks := by
        apply List.exists_mem_of_length_pos
        omega
      obtain ⟨imageData, hcover⟩ : ∃ imageData, IsCover cover task imageData := by
        obtain ⟨i, b, -, rfl⟩ := h.tasks task htask
        exact ⟨_, isCover_coverTaskAt.mpr rfl⟩
      have hstep : v.step F (.coverResponse task (some imageData)) = .ok _ :=
        step_eq_ok.mpr (Effect.cover htask)
      obtain ⟨as, w, hrun, hawaited, hcompleted⟩ := ih (h.received hs htask hcover)
        ((List.length_erase_of_mem htask).trans (by omega))
      use .coverResponse task (some imageData) :: as, w,
        Machine.run_cons.mpr ⟨_, hstep, hrun⟩
      constructor
      · exact (Machine.everyStep_cons hstep).mpr ⟨⟨htask, imageData, rfl, hcover⟩, hawaited⟩
      · apply hcompleted

/-- From every phase, awaited callbacks lead to the completion. -/
theorem Phase.exists_completed (F : Foundation) (h : Phase s newBooks cover v)
    (hs : s.search.requests ∉ s.search.notifies) (hdocs : docs ≠ [])
    (hbooks : structureBooks docs = some newBooks) :
  ∃ as w, (application F).run v as = .ok w ∧
    (application F).EveryStep (Awaited docs cover) v as ∧ Completed s newBooks cover w
  := by
  cases h with
  | waiting h =>
      have hr : s.search.requests ∈ v.search.infoTasks := by
        rw [h.infoTasks]
        apply List.mem_singleton_self
      have hdata := bookResultsJSON?_responseOf docs
      have hstep := step_eq_ok.mpr (Effect.results (F := F) hr hdata hdocs hbooks)
      obtain ⟨as, w, hrun, hawaited, hcompleted⟩ :=
        (h.results hs newBooks cover).exists_completed F docs hs
      use .bookInfoResponse s.search.requests (responseOf docs) :: as, w,
        Machine.run_cons.mpr ⟨_, hstep, hrun⟩
      constructor
      · exact (Machine.everyStep_cons hstep).mpr ⟨⟨hr, hdata⟩, hawaited⟩
      · apply hcompleted
  | covering h => apply h.exists_completed F docs hs
  | completed h => exact ⟨[], v, rfl, Machine.everyStep_nil, h⟩

/-- A call begins waiting for its response. -/
theorem waiting_requested (h : s.Settled) (hposting : s.posting = none)
    (hanswers : s.answers s.search.requests = 0) (timer : Nat) :
  Waiting s (s.timerFired timer).requested
  := by
  constructor
  · exact ⟨rfl, hposting, fun r _ => rfl⟩
  · rfl
  · change s.search.infoTasks ++ [s.search.requests] = [s.search.requests]
    rw [h.infoTasks, List.nil_append]
  · apply h.coverTasks
  · rfl
  · rfl
  · change (s.history ++ [Event.requested s.search.requests]).filter _ = []
    rw [← List.length_eq_zero_iff, ← List.countP_eq_length_filter, List.countP_append]
    apply Eq.trans (Nat.add_zero _) hanswers

/-- The finished book of a document is that of the book structured from it. -/
theorem finished_of_structureBook {doc : JsonObject} {b : Book} (h : structureBook doc = some b)
    (i : Nat) :
  Finished s.realm doc (cover (s.objects.next + i) (s.finished cover i b).coverID) (s.finished cover i b)
  := by
  obtain ⟨⟨hcoverID, htitle, hyear, hcount, hauthors, hpublishers, hsubtitle⟩, -, hmark⟩ :=
    describes_structureBook h
  rcases eq_or_ne (s.realm.countCover b.coverID) 0 with hnone | hsome
  · rw [finished, if_neg (not_not_intro hnone)]
    constructor
    · exact ⟨hcoverID, htitle, hyear, hcount, hauthors, hpublishers, hsubtitle⟩
    · rfl
    · apply iff_of_false
      · rw [hmark]
        apply Bool.false_ne_true
      · apply Realm.countCover_eq_zero.mp hnone
  · rw [finished, if_pos hsome]
    constructor
    · exact ⟨hcoverID, htitle, hyear, hcount, hauthors, hpublishers, hsubtitle⟩
    · rfl
    · apply iff_of_true rfl
      apply Realm.countCover_ne_zero.mp hsome

/-- The finished books of the documents are the answer to the call. -/
theorem answer_of_structureBooks (hbooks : structureBooks docs = some newBooks) :
  s.Answer docs cover (newBooks.mapIdx (s.finished cover))
  := by
  have hall := List.mapM_eq_some_iff.mp hbooks
  rw [filter_isClean] at hall
  constructor
  · rw [List.length_mapIdx, hall.length_eq]
  · intro i doc c hdoc hc
    rw [List.getElem?_mapIdx] at hc
    obtain ⟨b, hb, rfl⟩ := Option.map_eq_some_iff.mp hc
    obtain ⟨hi, rfl⟩ := List.getElem?_eq_some_iff.mp hdoc
    obtain ⟨hi', rfl⟩ := List.getElem?_eq_some_iff.mp hb
    apply finished_of_structureBook (hall.get hi hi')

/-- The call made in the state `s` is in one of its phases, and not answered yet, or it was
answered with the given books. -/
def Progress (s : State) (newBooks books : List Book) (cover : Nat → Int → Data)
    (v : State) : Prop :=
  v.answers s.search.requests = 0 ∧ Phase s newBooks cover v ∨
    v.history.filter (Event.completes s.search.requests) =
      [.completed s.search.requests true books]

theorem answers_of_filter {r : Nat} {books : List Book}
    (h : v.history.filter (Event.completes r) = [.completed r true books]) :
  v.answers r = 1
  := by
  rw [answers, List.countP_eq_length_filter, h]
  rfl

/-- Without an answer the call is in one of its phases. -/
theorem Progress.of_phase (h : Phase s newBooks cover v) :
  Progress s newBooks (newBooks.mapIdx (s.finished cover)) cover v
  := by
  cases h with
  | waiting h =>
      left
      constructor
      · rw [answers, List.countP_eq_length_filter, h.history, List.length_nil]
      · apply Phase.waiting h
  | covering h =>
      left
      constructor
      · rw [answers, List.countP_eq_length_filter, h.history, List.length_nil]
      · apply Phase.covering h
  | completed h =>
      right
      apply h.history

/-- A step that, until the completion of a call has been called, is undisturbed. -/
def UndisturbedUntil (r : Nat) (docs : List JsonObject) (cover : Nat → Int → Data) (s : State)
    (a : Action) : Prop :=
  s.answers r = 0 → s.Undisturbed docs cover a

/-- A timer that fires with a query begins a call, which waits for its response. -/
theorem waiting_of_step {timer : Nat} (h : s.Settled) (hquery : s.userInfo ≠ none)
    (hanswers : s.answers s.search.requests = 0) (he : Effect F s (.beginRequest timer) w) :
  Waiting s w
  := by
  cases he with
  | timer hidle htimer hinfo => cases hquery hinfo
  | request hidle htimer hinfo hurl => apply waiting_requested h hidle hanswers
  | pressed hidle hpress hread => cases hpress

/-- A step that is undisturbed until the completion keeps the progress of the call. -/
theorem Progress.step {as : List Action}
    (h : Progress s newBooks (newBooks.mapIdx (s.finished cover)) cover v)
    (hbalance : Balance as v s.search.requests) (hs : s.search.requests ∉ s.search.notifies)
    (hnotifies : ∀ r ∈ s.search.notifies, s.search.groups r ≠ 0)
    (hdocs : docs ≠ []) (hbooks : structureBooks docs = some newBooks)
    (ha : v.UndisturbedUntil s.search.requests docs cover a) (he : Effect F v a w) :
  Progress s newBooks (newBooks.mapIdx (s.finished cover)) cover w
  := by
  rcases h with ⟨hanswers, hphase⟩ | hcompleted
  · apply Progress.of_phase
    apply hphase.step hs hnotifies hdocs hbooks (ha hanswers) he
  · right
    rw [hbalance.filter_completes_of_answered he (answers_of_filter hcompleted), hcompleted]

end Phases

end State

/-- Books are structured from documents whose values are of the expected types. -/
theorem exists_structureBooks {docs : List JsonObject}
    (h : ∀ doc ∈ docs, isClean doc → WellTyped doc) :
  ∃ newBooks, structureBooks docs = some newBooks
  := by
  apply List.exists_mapM_eq_some
  intro doc hdoc
  obtain ⟨hmem, hclean⟩ := List.mem_filter.mp hdoc
  apply exists_structureBook (h doc hmem hclean)

/-- In a run from the beginning of a call of `requestAPI`, made while no callback of an earlier
call can come any more, in which until its completion no other call begins and no wishlist
button is pressed, the response has documents of which those with all the required keys have
values of the expected types, and every cover comes with data, in any order: no awaited callback
traps; awaited callbacks lead on to the completion; when everything issued has been delivered the
completion has been called; and it is called once, with success, and with the answer as the
results. -/
theorem search_pipeline (F : Foundation) (realm : Realm) (before : List Action) (s u : State)
    (timer : Nat) (docs : List JsonObject) (cover : Nat → Int → Data) (as : List Action)
    (t : State) (hbefore : (application F).run (launch realm) before = .ok s) (hs : s.Settled)
    (hrequest : (application F).step s (.beginRequest timer) = .ok u) (hquery : s.userInfo ≠ none)
    (hdocs : docs ≠ []) (htyped : ∀ doc ∈ docs, HasRequiredKeys doc → WellTyped doc)
    (hrun : (application F).run u as = .ok t)
    (hundisturbed : (application F).EveryStep
      (State.UndisturbedUntil s.search.requests docs cover) u as) :
  (∀ a, t.Awaited docs cover a → ∃ v, (application F).step t a = .ok v) ∧
    (∃ bs v, (application F).run t bs = .ok v ∧
      (application F).EveryStep (State.Awaited docs cover) t bs ∧
      v.answers s.search.requests = 1) ∧
    (t.Settled → t.answers s.search.requests = 1) ∧
    (t.answers s.search.requests ≠ 0 → ∃ books,
      t.history.filter (Event.completes s.search.requests) =
        [.completed s.search.requests true books] ∧
      s.Answer docs cover books)
  := by
  obtain ⟨newBooks, hbooks⟩ := exists_structureBooks
    (fun doc hdoc hclean => htyped doc hdoc (isClean_iff.mp hclean))
  have hfresh : s.search.requests ∉ s.search.notifies := by
    intro hr
    apply Nat.lt_irrefl _ ((State.Calls.of_run hbefore).notifies _ hr)
  have hanswers : s.answers s.search.requests = 0 :=
    (Balance.of_run hbefore).answers_eq_zero (Nat.le_refl _)
  have hwaiting := State.waiting_of_step hs hquery hanswers (State.step_eq_ok.mp hrequest)
  have hprogress : State.Progress s newBooks (newBooks.mapIdx (s.finished cover)) cover t := by
    apply Machine.invariant_of_everyStep_of_invariant (M := application F)
      (I := fun v => ∃ bs, Balance bs v s.search.requests) _ _ _ hrun hundisturbed
    · intro bs v hbs
      have hall := Machine.run_append.mpr
        ⟨u, Machine.run_concat.mpr ⟨s, hbefore, hrequest⟩, hbs⟩
      exact ⟨_, Balance.of_run hall⟩
    · rintro v a w ⟨bs, hbalance⟩ hv ha hw
      apply hv.step hbalance hfresh hs.notifies hdocs hbooks ha (State.step_eq_ok.mp hw)
    · apply State.Progress.of_phase (State.Phase.waiting hwaiting)
  refine ⟨?_, ?_, ?_, ?_⟩
  · intro a ha
    apply State.step_of_awaited ha hdocs hbooks
  · rcases hprogress with ⟨-, hphase⟩ | hcompleted
    · obtain ⟨bs, v, hbs, hawaited, hcompleted⟩ :=
        hphase.exists_completed F hfresh hdocs hbooks
      exact ⟨bs, v, hbs, hawaited, State.answers_of_filter hcompleted.history⟩
    · exact ⟨[], t, rfl, Machine.everyStep_nil, State.answers_of_filter hcompleted⟩
  · intro ht
    rcases hprogress with ⟨-, hphase⟩ | hcompleted
    · apply State.answers_of_filter (hphase.completed_of_settled ht).history
    · apply State.answers_of_filter hcompleted
  · intro hanswered
    rcases hprogress with ⟨hnot, -⟩ | hcompleted
    · cases hanswered hnot
    · exact ⟨_, hcompleted, State.answer_of_structureBooks hbooks⟩

/-- Of three documents two have all the required keys, their covers come in the reverse order, and the store has
a record of the first. -/
theorem search_pipeline_dune :
  ∃ s u t, (application .onPlainText).run
      (launch (Table.empty.insert { coverID := 7, title := "Dune", isInWishlist := true }))
      [.screen (.searchBarTextDidChange "dune")] = .ok s ∧
    (application .onPlainText).step s (.beginRequest 1) = .ok u ∧
    (application .onPlainText).run u
      [.bookInfoResponse 0
          (responseOf [document 7 "Dune", [("title", .string "Persuasion")], document 8 "Emma"]),
        .coverResponse ⟨0, 1, bookCoverRequestURL 8⟩ (some [8]),
        .coverResponse ⟨0, 0, bookCoverRequestURL 7⟩ (some [7]), .coversNotified 0] = .ok t ∧
    ∃ books, t.history.filter (Event.completes s.search.requests) =
        [.completed s.search.requests true books] ∧
      s.Answer [document 7 "Dune", [("title", .string "Persuasion")], document 8 "Emma"]
        (fun _ coverID => [coverID.toNat.toUInt8]) books
  := by
  refine ⟨_, _, _, rfl, rfl, rfl, ?_⟩
  apply (search_pipeline .onPlainText _ [.screen (.searchBarTextDidChange "dune")] _ _ 1
    [document 7 "Dune", [("title", .string "Persuasion")], document 8 "Emma"]
    (fun _ coverID => [coverID.toNat.toUInt8])
    [.bookInfoResponse 0
        (responseOf [document 7 "Dune", [("title", .string "Persuasion")], document 8 "Emma"]),
      .coverResponse ⟨0, 1, bookCoverRequestURL 8⟩ (some [8]),
      .coverResponse ⟨0, 0, bookCoverRequestURL 7⟩ (some [7]), .coversNotified 0]
    _ rfl ⟨rfl, rfl, by decide⟩ rfl (by decide) (by simp) _ rfl _).2.2.2 (by decide)
  · intro doc hdoc hkeys
    rcases List.mem_cons.mp hdoc with rfl | hdoc
    · exact ⟨rfl, rfl, rfl, rfl, rfl, rfl, by rintro _ ⟨⟩⟩
    rcases List.mem_pair.mp hdoc with rfl | rfl
    · apply absurd hkeys
      decide
    · exact ⟨rfl, rfl, rfl, rfl, rfl, rfl, by rintro _ ⟨⟩⟩
  · refine (Machine.everyStep_cons (by exact rfl)).mpr ⟨?_, ?_⟩
    · intro _
      apply bookResultsJSON?_responseOf
    iterate 2
      refine (Machine.everyStep_cons (by exact rfl)).mpr ⟨fun _ => ⟨_, rfl, ?_⟩, ?_⟩
      · intro coverID hurl
        obtain rfl := coverURL_inj.mp hurl
        rfl
    refine (Machine.everyStep_cons (by exact rfl)).mpr ⟨fun _ => trivial, Machine.everyStep_nil⟩

end OpenLibrary
