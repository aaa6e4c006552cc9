import OpenLibrary.Model.State

/-!
# The search manager

The functions of `BookSearchManager`. `requestAPI` runs when the search timer fires; the
response handlers `bookInfoResponse` and `coverResponse` and the `notify` block
`coversNotified` run when the network answers and a dispatch group empties.
-/

namespace OpenLibrary

/-! ### Structuring a response -/

/-- `jsonDataDictionary["docs"] as? [[String:Any]]` of the data of a response, none at each
of the exits without a result. -/
def InfoData.bookResultsJSON? : InfoData → Option (List JsonObject)
  | noData => none
  | notJson => none
  | json value => do (← (← value.asObject?).lookup "docs").asObjects?

/-- A document has the six keys without which it is left out. -/
def isClean (book : JsonObject) : Bool :=
  (book.lookup "cover_i").isSome && (book.lookup "title").isSome &&
    (book.lookup "author_name").isSome && (book.lookup "first_publish_year").isSome &&
    (book.lookup "publisher").isSome && (book.lookup "edition_count").isSome

/-- `list.count > 1 ? "Multiple" : list.joined()`. -/
def nameOfList (list : List String) : String :=
  if list.length > 1 then "Multiple" else String.join list

/-- `book["subtitle"] as! String` of a document that has the key, and the default `""` of one
that has not. -/
def subtitle? (book : JsonObject) : Option String :=
  match book.lookup "subtitle" with
  | some value => value.asString?
  | none => some ""

/-- The `Book` made of a clean document, none where a forced cast fails. -/
def structureBook (book : JsonObject) : Option Book := do
  let coverID ← (← book.lookup "cover_i").asInt?
  let title ← (← book.lookup "title").asString?
  let firstPublishYear ← (← book.lookup "first_publish_year").asInt?
  let editionCount ← (← book.lookup "edition_count").asInt?
  let tempBookAuthorsList ← (← book.lookup "author_name").asStrings?
  let tempPublihsersList ← (← book.lookup "publisher").asStrings?
  let subtitle ← subtitle? book
  pure
    { coverID := coverID
      title := title
      firstPublishYear := firstPublishYear
      editionCount := editionCount
      authorName := nameOfList tempBookAuthorsList
      publisher := nameOfList tempPublihsersList
      subtitle := subtitle }

/-- The `Book`s made of the clean documents of a response. -/
def structureBooks (bookResultsJSON : List JsonObject) : Option (List Book) :=
  (bookResultsJSON.filter isClean).mapM structureBook

/-- A document with the six keys. -/
def document (coverID : Int) (title : String) : JsonObject :=
  [("cover_i", .number coverID), ("title", .string title),
    ("author_name", .array [.string "Frank Herbert"]), ("first_publish_year", .number 1965),
    ("publisher", .array [.string "Chilton", .string "Ace"]), ("edition_count", .number 120)]

/-- A response with an array of documents. -/
def responseOf (docs : List JsonObject) : InfoData :=
  .json (.object [("numFound", .number docs.length), ("docs", .array (docs.map .object))])

example : (responseOf [document 7 "Dune", [("title", .string "Emma")]]).bookResultsJSON?.bind
    structureBooks = some [{
      coverID := 7, title := "Dune", authorName := "Frank Herbert", firstPublishYear := 1965,
      publisher := "Multiple", editionCount := 120 }] := by
  decide

/-! ### URLs -/

/-- `"http://openlibrary.org/search.json?q=" + bookQuery`. -/
def bookInfoRequestURL (bookQuery : String) : String :=
  "http://openlibrary.org/search.json?q=" ++ bookQuery

/-- `"http://covers.openlibrary.org/b/id/\(book.coverID)-M.jpg"`, which is a URL for every
`coverID`. -/
def bookCoverRequestURL (coverID : Int) : String :=
  "http://covers.openlibrary.org/b/id/" ++ toString coverID ++ "-M.jpg"

/-- The query `requestAPI` sends for the text of the search bar. -/
def optimizedBookQuery (F : Foundation) (bookQuery : String) : String :=
  F.lowercased (trimWhitespace (replaceSpaces bookQuery))

/-! ### Completion -/

namespace State

/-- The books `bookResults` holds. -/
def results (s : State) : List Book :=
  s.search.bookResults.map s.objects.book

/-- The completion of a call of `requestAPI` is called. -/
def complete (s : State) (r : Nat) (success : Bool) : State :=
  { s with
    screen := s.screen.requestCompleted success
    history := s.history ++ [.completed r success s.results] }

/-! ### Requests -/

/-- `bookResults` is emptied and the data task of a new call starts. -/
def requested (s : State) : State :=
  { s with
    search := { s.search with
      bookResults := []
      requests := s.search.requests + 1
      infoTasks := s.search.infoTasks ++ [s.search.requests] }
    history := s.history ++ [.requested s.search.requests] }

/-- `BookSearchManager.requesBookInfo` up to its data task. -/
def requesBookInfo (F : Foundation) (s : State) (bookQuery : String) : Except Fault State :=
  if F.isURL (bookInfoRequestURL bookQuery) then
    .ok s.requested
  else
    .error (.trap .forcedUnwrap)

/-- `BookSearchManager.requestAPI`. -/
def requestAPI (F : Foundation) (s : State) (bookQuery : String) : Except Fault State :=
  s.requesBookInfo F (optimizedBookQuery F bookQuery)

/-- `newBook` is filled in and appended to `bookResults`. -/
def appendResult (r : Nat) (s : State) (newBook : Book) : State :=
  { s with
    objects := s.objects.alloc newBook
    search := { s.search with bookResults := s.search.bookResults ++ [s.objects.next] }
    history := s.history ++ [.structured r s.objects.next] }

/-- The cover data task of a call for a book. -/
def coverTask (s : State) (r : Nat) (book : Nat) : CoverTask where
  request := r
  book := book
  url := bookCoverRequestURL (s.objects.book book).coverID

/-- `BookSearchManager.requesBookCovers`: one `enter` and one data task for each book, then
`notify`. -/
def requesBookCovers (s : State) (r : Nat) : State :=
  { s with
    search := { s.search with
      coverTasks := s.search.coverTasks ++ s.search.bookResults.map (s.coverTask r)
      groups := Function.update s.search.groups r s.search.bookResults.length
      notifies := s.search.notifies ++ [r] } }

/-- The data task of `requesBookInfo` is answered. -/
def infoAnswered (s : State) (r : Nat) : State :=
  { s with search := { s.search with infoTasks := s.search.infoTasks.erase r } }

/-- The loop over the clean documents, and the closure of `requestAPI` after it. -/
def booksStructured (s : State) (r : Nat) (newBooks : List Book) : State :=
  (newBooks.foldl (appendResult r) s).requesBookCovers r

/-- The handler of the data task of `requesBookInfo`. -/
def bookInfoResponse (s : State) (r : Nat) (data : InfoData) : Except Fault State :=
  if r ∈ s.search.infoTasks then
    match data.bookResultsJSON? with
    | none => .ok (s.infoAnswered r)
    | some [] => .ok ((s.infoAnswered r).complete r false)
    | some (book :: books) =>
        match structureBooks (book :: books) with
        | none => .error (.trap .forcedCast)
        | some newBooks => .ok ((s.infoAnswered r).booksStructured r newBooks)
  else
    .error .disabled

/-- A data task of `requesBookCovers` is answered. -/
def coverAnswered (s : State) (task : CoverTask) : State :=
  { s with search := { s.search with coverTasks := s.search.coverTasks.erase task } }

/-- The cover of a book is set, and the group of its call left. -/
def coverReceived (s : State) (task : CoverTask) (imageData : Data) : State :=
  { s with
    objects := s.objects.modify task.book (fun b => { b with coverData := imageData })
    search := { s.search with
      groups := Function.update s.search.groups task.request
        (s.search.groups task.request - 1) } }

/-- The handler of a data task of `requesBookCovers`. -/
def coverResponse (s : State) (task : CoverTask) (data : Option Data) : Except Fault State :=
  if task ∈ s.search.coverTasks then
    match data with
    | none => .ok (s.coverAnswered task)
    | some imageData => .ok ((s.coverAnswered task).coverReceived task imageData)
  else
    .error .disabled

/-- A step of the loop of `determineWishlistBooks`. -/
def determineWishlistBook (realm : Realm) (objects : Objects) (book : Nat) : Objects :=
  if realm.countCover (objects.book book).coverID ≠ 0 then
    objects.modify book (fun b => { b with isInWishlist := true })
  else
    objects

/-- `BookSearchManager.determineWishlistBooks`. -/
def determineWishlistBooks (s : State) : State :=
  { s with
    objects := s.search.bookResults.foldl (determineWishlistBook s.realm) s.objects }

/-- The `notify` block of a call starts. -/
def notifyTaken (s : State) (r : Nat) : State :=
  { s with search := { s.search with notifies := s.search.notifies.erase r } }

/-- The `notify` block of the dispatch group of a call. -/
def coversNotified (s : State) (r : Nat) : Except Fault State :=
  if r ∈ s.search.notifies ∧ s.search.groups r = 0 then
    .ok ((s.notifyTaken r).determineWishlistBooks.complete r true)
  else
    .error .disabled

end State

end OpenLibrary
