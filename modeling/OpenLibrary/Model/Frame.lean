import OpenLibrary.Library.Lists
import OpenLibrary.Model.Effect

/-!
# What a step leaves alone

Closed forms of the loops over structured books and over `bookResults`, and the parts of the
state that the steps of the screens, of the search manager and of the wishlist leave as they
are.
-/

namespace OpenLibrary

/-! ### Structured books -/

namespace Objects

/-- The objects after making one for each book of a list. -/
def allocAll (objects : Objects) (books : List Book) : Objects :=
  books.foldl alloc objects

theorem next_allocAll (objects : Objects) (books : List Book) :
  (objects.allocAll books).next = objects.next + books.length
  := by
  induction books generalizing objects with
  | nil => rfl
  | cons b books ih =>
      apply Eq.trans (ih (objects.alloc b))
      rw [next_alloc, List.length_cons, Nat.add_assoc, Nat.add_comm 1]

/-- Making objects leaves the older ones alone. -/
theorem book_allocAll_of_lt {objects : Objects} {books : List Book} {o : Nat}
    (h : o < objects.next) :
  (objects.allocAll books).book o = objects.book o
  := by
  induction books generalizing objects with
  | nil => rfl
  | cons b books ih =>
      apply Eq.trans (ih (Nat.lt_succ_of_lt h))
      rw [book_alloc, if_neg (Nat.ne_of_lt h)]

/-- Making objects leaves the ones after them alone. -/
theorem book_allocAll_of_le {objects : Objects} {books : List Book} {o : Nat}
    (h : objects.next + books.length ≤ o) :
  (objects.allocAll books).book o = objects.book o
  := by
  induction books generalizing objects with
  | nil => rfl
  | cons b books ih =>
      rw [List.length_cons] at h
      have hle : (objects.alloc b).next + books.length ≤ o := by
        rw [next_alloc]
        omega
      apply Eq.trans (ih hle)
      rw [book_alloc, if_neg]
      omega

/-- The object made for the book at an index of the list holds that book. -/
theorem book_allocAll_add {objects : Objects} {books : List Book} {i : Nat}
    (h : i < books.length) :
  (objects.allocAll books).book (objects.next + i) = books[i]
  := by
  induction books generalizing objects i with
  | nil => cases h
  | cons b books ih =>
      cases i with
      | zero =>
          have hlt : objects.next < (objects.alloc b).next := Nat.lt_succ_self objects.next
          apply Eq.trans (book_allocAll_of_lt hlt)
          rw [book_alloc, if_pos rfl]
          rfl
      | succ i =>
          have hi := @ih (objects.alloc b) i (Nat.lt_of_succ_lt_succ h)
          rw [next_alloc, Nat.add_right_comm] at hi
          apply hi

end Objects

/-- What a book structured from a document holds. -/
theorem structureBook_eq_some {book : JsonObject} {newBook : Book} :
  structureBook book = some newBook ↔ ∃ coverID title firstPublishYear editionCount authors
      publishers subtitle,
    (book.lookup "cover_i").bind Json.asInt? = some coverID ∧
    (book.lookup "title").bind Json.asString? = some title ∧
    (book.lookup "first_publish_year").bind Json.asInt? = some firstPublishYear ∧
    (book.lookup "edition_count").bind Json.asInt? = some editionCount ∧
    (book.lookup "author_name").bind Json.asStrings? = some authors ∧
    (book.lookup "publisher").bind Json.asStrings? = some publishers ∧
    subtitle? book = some subtitle ∧
    newBook =
      { coverID := coverID
        title := title
        firstPublishYear := firstPublishYear
        editionCount := editionCount
        authorName := nameOfList authors
        publisher := nameOfList publishers
        subtitle := subtitle }
  := by
  simp only [structureBook, Option.bind_eq_bind, Option.pure_def, Option.bind_eq_some_iff,
    Option.some.injEq]
  constructor
  · rintro ⟨_, hc, c, hc', _, ht, t, ht', _, hy, y, hy', _, he, e, he', _, ha, as, ha', _, hp, ps,
      hp', sub, hsub, rfl⟩
    exact ⟨c, t, y, e, as, ps, sub, ⟨_, hc, hc'⟩, ⟨_, ht, ht'⟩, ⟨_, hy, hy'⟩, ⟨_, he, he'⟩,
      ⟨_, ha, ha'⟩, ⟨_, hp, hp'⟩, hsub, rfl⟩
  · rintro ⟨c, t, y, e, as, ps, sub, ⟨_, hc, hc'⟩, ⟨_, ht, ht'⟩, ⟨_, hy, hy'⟩, ⟨_, he, he'⟩,
      ⟨_, ha, ha'⟩, ⟨_, hp, hp'⟩, hsub, rfl⟩
    exact ⟨_, hc, c, hc', _, ht, t, ht', _, hy, y, hy', _, he, e, he', _, ha, as, ha', _, hp, ps,
      hp', sub, hsub, rfl⟩

/-- A structured book is not marked. -/
theorem isInWishlist_structureBook {book : JsonObject} {newBook : Book}
    (h : structureBook book = some newBook) :
  newBook.isInWishlist = false
  := by
  obtain ⟨_, _, _, _, _, _, _, -, -, -, -, -, -, -, rfl⟩ := structureBook_eq_some.mp h
  rfl

/-- None of the books structured from a response is marked. -/
theorem isInWishlist_structureBooks {docs : List JsonObject} {newBooks : List Book}
    (h : structureBooks docs = some newBooks) :
  ∀ b ∈ newBooks, b.isInWishlist = false
  := by
  intro b hb
  obtain ⟨i, hi, rfl⟩ := List.mem_iff_getElem.mp hb
  have hall := List.mapM_eq_some_iff.mp h
  have hlength := hall.length_eq
  apply isInWishlist_structureBook (hall.get (hlength ▸ hi) hi)

namespace State

/-- The identities of the objects a list of structured books gets. -/
def newResults (s : State) (newBooks : List Book) : List Nat :=
  List.range' s.objects.next newBooks.length

/-- The loop over the clean documents, in closed form. -/
theorem foldl_appendResult (r : Nat) (s : State) (newBooks : List Book) :
  newBooks.foldl (appendResult r) s =
    { s with
      objects := s.objects.allocAll newBooks
      search := { s.search with
        bookResults := s.search.bookResults ++ s.newResults newBooks }
      history := s.history ++ (s.newResults newBooks).map (Event.structured r) }
  := by
  induction newBooks generalizing s with
  | nil =>
      rw [newResults, List.length_nil, List.range'_zero, List.append_nil, List.map_nil,
        List.append_nil]
      rfl
  | cons b newBooks ih =>
      rw [List.foldl_cons, ih]
      simp only [appendResult, newResults, List.length_cons, List.range'_succ, List.map_cons,
        List.append_assoc, List.cons_append, List.nil_append, Objects.next_alloc]
      rfl

section BooksStructured

variable (s : State) (r : Nat) (newBooks : List Book)

@[simp]
theorem realm_booksStructured :
  (s.booksStructured r newBooks).realm = s.realm
  := by
  rw [booksStructured, foldl_appendResult]
  rfl

@[simp]
theorem objects_booksStructured :
  (s.booksStructured r newBooks).objects = s.objects.allocAll newBooks
  := by
  rw [booksStructured, foldl_appendResult]
  rfl

@[simp]
theorem wishList_booksStructured :
  (s.booksStructured r newBooks).wishList = s.wishList
  := by
  rw [booksStructured, foldl_appendResult]
  rfl

@[simp]
theorem screen_booksStructured :
  (s.booksStructured r newBooks).screen = s.screen
  := by
  rw [booksStructured, foldl_appendResult]
  rfl

@[simp]
theorem posting_booksStructured :
  (s.booksStructured r newBooks).posting = s.posting
  := by
  rw [booksStructured, foldl_appendResult]
  rfl

@[simp]
theorem history_booksStructured :
  (s.booksStructured r newBooks).history =
    s.history ++ (s.newResults newBooks).map (Event.structured r)
  := by
  rw [booksStructured, foldl_appendResult]
  rfl

@[simp]
theorem requests_booksStructured :
  (s.booksStructured r newBooks).search.requests = s.search.requests
  := by
  rw [booksStructured, foldl_appendResult]
  rfl

@[simp]
theorem infoTasks_booksStructured :
  (s.booksStructured r newBooks).search.infoTasks = s.search.infoTasks
  := by
  rw [booksStructured, foldl_appendResult]
  rfl

@[simp]
theorem notifies_booksStructured :
  (s.booksStructured r newBooks).search.notifies = s.search.notifies ++ [r]
  := by
  rw [booksStructured, foldl_appendResult]
  rfl

/-- The structured books are appended to the results. -/
theorem bookResults_booksStructured :
  (s.booksStructured r newBooks).search.bookResults =
    s.search.bookResults ++ s.newResults newBooks
  := by
  rw [booksStructured, foldl_appendResult]
  rfl

theorem next_booksStructured :
  (s.booksStructured r newBooks).objects.next = s.objects.next + newBooks.length
  := by
  rw [objects_booksStructured]
  apply Objects.next_allocAll

variable {s} in
/-- Where the objects of the results have been made, they have been made of the new ones
too. -/
theorem lt_next_booksStructured (h : ∀ o ∈ s.search.bookResults, o < s.objects.next) :
  ∀ o ∈ (s.booksStructured r newBooks).search.bookResults,
    o < (s.booksStructured r newBooks).objects.next
  := by
  intro o ho
  rw [bookResults_booksStructured] at ho
  rw [next_booksStructured]
  rcases List.mem_append.mp ho with hold | hnew
  · apply Nat.lt_add_right _ (h o hold)
  · apply (List.mem_range'_1.mp hnew).2

variable {s} in
/-- Structuring books leaves the older objects alone. -/
theorem book_booksStructured_of_lt {o : Nat} (h : o < s.objects.next) :
  (s.booksStructured r newBooks).objects.book o = s.objects.book o
  := by
  rw [objects_booksStructured]
  apply Objects.book_allocAll_of_lt h

/-- The cover of every result is asked for. -/
theorem coverTasks_booksStructured :
  (s.booksStructured r newBooks).search.coverTasks = s.search.coverTasks ++
    (s.booksStructured r newBooks).search.bookResults.map
      ((s.booksStructured r newBooks).coverTask r)
  := by
  rw [booksStructured, foldl_appendResult]
  rfl

/-- The group of the call counts the results. -/
theorem group_booksStructured :
  (s.booksStructured r newBooks).search.groups r =
    (s.booksStructured r newBooks).search.bookResults.length
  := Function.update_self _ _ _

theorem group_booksStructured_of_ne {r' : Nat} (h : r' ≠ r) :
  (s.booksStructured r newBooks).search.groups r' = s.search.groups r'
  := by
  rw [booksStructured, foldl_appendResult]
  apply Function.update_of_ne h

/-- The object of the structured book at an index. -/
theorem book_booksStructured {i : Nat} {b : Book} (hb : newBooks[i]? = some b) :
  (s.booksStructured r newBooks).objects.book (s.objects.next + i) = b
  := by
  obtain ⟨hi, rfl⟩ := List.getElem?_eq_some_iff.mp hb
  rw [objects_booksStructured]
  apply Objects.book_allocAll_add hi

end BooksStructured

/-! ### Covers -/

/-- A cover changes nothing but `coverData` of its book. -/
theorem book_coverReceived (s : State) (task : CoverTask) (imageData : Data) (o : Nat) :
  (s.coverReceived task imageData).objects.book o =
    if o = task.book then
      { s.objects.book o with coverData := imageData }
    else
      s.objects.book o
  := by
  rw [coverReceived, Objects.book_modify]
  split
  · next ho => rw [ho]
  · rfl

/-! ### The flags of the results -/

theorem next_foldl_determineWishlistBook (realm : Realm) (books : List Nat)
    (objects : Objects) :
  (books.foldl (determineWishlistBook realm) objects).next = objects.next
  := by
  induction books generalizing objects with
  | nil => rfl
  | cons o books ih =>
      apply Eq.trans (ih _)
      rw [determineWishlistBook]
      split <;> rfl

@[simp]
theorem next_determineWishlistBooks (s : State) :
  s.determineWishlistBooks.objects.next = s.objects.next
  := by
  apply next_foldl_determineWishlistBook

/-- A step of the loop of `determineWishlistBooks` marks its book if the store has a record
of it. -/
theorem book_determineWishlistBook (realm : Realm) (objects : Objects) (p o : Nat) :
  (determineWishlistBook realm objects p).book o =
    if o = p ∧ realm.countCover (objects.book o).coverID ≠ 0 then
      { objects.book o with isInWishlist := true }
    else
      objects.book o
  := by
  rw [determineWishlistBook]
  rcases eq_or_ne o p with rfl | ho
  · split
    · next hc =>
        rw [Objects.book_modify, if_pos rfl]
        simp [hc]
    · next hc => simp [hc]
  · split
    · rw [Objects.book_modify, if_neg ho]
      simp [ho]
    · simp [ho]

/-- The loop of `determineWishlistBooks` marks the books of the list that the store has a
record of, and changes nothing else. -/
theorem book_foldl_determineWishlistBook (realm : Realm) (books : List Nat)
    (objects : Objects) (o : Nat) :
  (books.foldl (determineWishlistBook realm) objects).book o =
    if o ∈ books ∧ realm.countCover (objects.book o).coverID ≠ 0 then
      { objects.book o with isInWishlist := true }
    else
      objects.book o
  := by
  induction books generalizing objects with
  | nil => simp
  | cons p books ih =>
      rw [List.foldl_cons, ih, book_determineWishlistBook]
      rcases eq_or_ne (realm.countCover (objects.book o).coverID) 0 with hc | hc
      · simp [hc]
      · rcases eq_or_ne o p with rfl | ho
        · simp [hc]
        · simp [hc, ho]

/-! ### Presses -/

section Toggled

variable (s : State) (ref : BookRef)

@[simp]
theorem search_toggled :
  (s.toggled ref).search = s.search
  := by
  cases ref with
  | detached o => rfl
  | stored row => rfl

@[simp]
theorem history_toggled :
  (s.toggled ref).history = s.history
  := by
  cases ref with
  | detached o => rfl
  | stored row => rfl

@[simp]
theorem wishList_toggled :
  (s.toggled ref).wishList = s.wishList
  := by
  cases ref with
  | detached o => rfl
  | stored row => rfl

@[simp]
theorem screen_toggled :
  (s.toggled ref).screen = s.screen
  := by
  cases ref with
  | detached o => rfl
  | stored row => rfl

@[simp]
theorem posting_toggled :
  (s.toggled ref).posting = some ref
  := by
  cases ref with
  | detached o => rfl
  | stored row => rfl

@[simp]
theorem next_toggled :
  (s.toggled ref).objects.next = s.objects.next
  := by
  cases ref with
  | detached o => rfl
  | stored row => rfl

/-- The first transaction of a press leaves the store holding the same `coverID`s. -/
theorem holds_toggled (c : Int) :
  (s.toggled ref).realm.Holds c ↔ s.realm.Holds c
  := by
  cases ref with
  | detached o => rfl
  | stored row => apply Realm.holds_toggle

/-- The first transaction of a press changes no object but the one pressed. -/
theorem book_toggled_of_ne {o : Nat} (h : ref ≠ .detached o) :
  (s.toggled ref).objects.book o = s.objects.book o
  := by
  cases ref with
  | detached p =>
      apply Eq.trans (Objects.book_modify s.objects p o Book.toggle)
      rw [if_neg]
      rintro rfl
      apply h rfl
  | stored row => rfl

end Toggled

/-- What the presenter does after the second transaction of a press. -/
theorem screen_wishlistUpdated (s : State) (book : Book) :
  (s.wishlistUpdated book).screen =
    if s.screen.currentAppState = .wishlist ∧ (s.wishlistUpdated book).getWishlistCount = 0 then
      s.screen.updateMainArea .searchForBooks .searchForBooksToAddToWishlist
    else
      s.screen.updateBookList
  := by
  simp only [wishlistUpdated, updateMainScreen, String.reduceEq, if_false, if_true]
  cases s.screen.currentAppState with
  | bookSearch => simp
  | wishlist => simp [getWishlistCount]

/-! ### The screens -/

theorem shownBooks_of_bookSearch {s : State} (h : s.screen.currentAppState = .bookSearch) :
  s.shownBooks = s.search.bookResults.map .detached
  := by
  rw [shownBooks, h]

theorem shownBooks_of_wishlist {s : State} (h : s.screen.currentAppState = .wishlist) :
  s.shownBooks = s.wishList.map .stored
  := by
  rw [shownBooks, h]

/-- A tab change changes nothing on the screen but the tab, until its blocks run. -/
theorem changeAppState_frame (s : State) (state : AppState) :
  (s.changeAppState state).currentAppState = state ∧
    (s.changeAppState state).isHidden = s.screen.isHidden ∧
    (s.changeAppState state).cells = s.screen.cells ∧
    (s.changeAppState state).details = s.screen.details
  := by
  rw [changeAppState]
  split
  · next hsame => exact ⟨hsame.symm, rfl, rfl, rfl⟩
  · cases state with
    | bookSearch => exact ⟨rfl, rfl, rfl, rfl⟩
    | wishlist =>
        dsimp only
        split
        · exact ⟨rfl, rfl, rfl, rfl⟩
        · exact ⟨rfl, rfl, rfl, rfl⟩

/-- The second transaction of a press changes nothing on the screen, until its block runs. -/
theorem wishlistUpdated_frame (s : State) (book : Book) :
  (s.wishlistUpdated book).screen.currentAppState = s.screen.currentAppState ∧
    (s.wishlistUpdated book).screen.isHidden = s.screen.isHidden ∧
    (s.wishlistUpdated book).screen.cells = s.screen.cells ∧
    (s.wishlistUpdated book).screen.details = s.screen.details
  := by
  rw [screen_wishlistUpdated]
  split
  · exact ⟨rfl, rfl, rfl, rfl⟩
  · exact ⟨rfl, rfl, rfl, rfl⟩

theorem scheduledTimers_changeAppState (s : State) (state : AppState) :
  (s.changeAppState state).scheduledTimers = s.screen.scheduledTimers
  := by
  rw [changeAppState]
  split
  · rfl
  · cases state with
    | bookSearch => rfl
    | wishlist =>
        dsimp only
        split
        · rfl
        · rfl

/-- A change of the tab enqueues a block. -/
theorem changeAppState_enqueues {s : State} {state : AppState}
    (h : state ≠ s.screen.currentAppState) :
  ∃ block, (s.changeAppState state).mainQueue = s.screen.mainQueue ++ [block]
  := by
  rw [changeAppState, if_neg h]
  cases state with
  | bookSearch => exact ⟨_, rfl⟩
  | wishlist =>
      dsimp only
      split
      · exact ⟨_, rfl⟩
      · exact ⟨_, rfl⟩

/-- The handler of a press enqueues a block. -/
theorem wishlistUpdated_enqueues (s : State) (book : Book) :
  ∃ block, (s.wishlistUpdated book).screen =
    { s.screen with mainQueue := s.screen.mainQueue ++ [block] }
  := by
  rw [screen_wishlistUpdated]
  split
  · exact ⟨_, rfl⟩
  · exact ⟨_, rfl⟩

/-- Editing the search bar leaves the rest of the screen alone. -/
theorem requestBookSearch_frame (s : State) (searchText : String) :
  (s.requestBookSearch searchText).currentAppState = s.screen.currentAppState ∧
    (s.requestBookSearch searchText).mainQueue = s.screen.mainQueue ∧
    (s.requestBookSearch searchText).isHidden = s.screen.isHidden ∧
    (s.requestBookSearch searchText).message = s.screen.message ∧
    (s.requestBookSearch searchText).cells = s.screen.cells ∧
    (s.requestBookSearch searchText).details = s.screen.details
  := by
  rw [requestBookSearch]
  split
  · exact ⟨rfl, rfl, rfl, rfl, rfl, rfl⟩
  · exact ⟨rfl, rfl, rfl, rfl, rfl, rfl⟩

theorem mem_displayed {s : State} {ref : BookRef} {e : Event} :
  e ∈ s.displayed ref ↔ ∃ row b, ref = .stored row ∧ s.realm.find? row = some b ∧
    e = .displayed row b.coverID
  := by
  cases ref with
  | detached o => simp [displayed]
  | stored row =>
      cases hb : s.realm.find? row with
      | none => simp [displayed, hb]
      | some b => simp [displayed, hb]

/-- A step of the screens records only what was displayed, and only of books that could be
read. -/
theorem events_of_screenStep {s : State} {action : ScreenAction} {screen : Screen}
    {events : List Event} (h : s.screenStep action = .ok (screen, events)) :
  ∀ e ∈ events, ∃ row b, s.realm.find? row = some b ∧ e = .displayed row b.coverID
  := by
  have hdisplayed : ∀ ref, ∀ e ∈ s.displayed ref,
      ∃ row b, s.realm.find? row = some b ∧ e = .displayed row b.coverID := by
    intro ref e he
    obtain ⟨row, b, -, hb, rfl⟩ := mem_displayed.mp he
    use row, b, hb
  have hreload : ∀ e ∈ s.shownBooks.flatMap s.displayed,
      ∃ row b, s.realm.find? row = some b ∧ e = .displayed row b.coverID := by
    intro e he
    obtain ⟨ref, -, he⟩ := List.mem_flatMap.mp he
    apply hdisplayed ref e he
  intro e he
  cases screenEffect_of_screenStep h with
  | bookList => apply hreload e he
  | previewCell => apply hreload e he
  | cell => apply hdisplayed _ e he
  | popup => apply hdisplayed _ e he
  | tab | text | animation | mainArea | page | close => cases he

/-! ### The store -/

/-- The press an event is the end of. -/
def press? : Event → Option (Int × Bool)
  | .pressed coverID left => some (coverID, left)
  | _ => none

/-- The presses so far: of each the `coverID` of the book and the flag it left. -/
def presses (s : State) : List (Int × Bool) :=
  s.history.filterMap press?

theorem presses_of_history {s t : State} {events : List Event}
    (h : t.history = s.history ++ events) (hevents : ∀ e ∈ events, press? e = none) :
  t.presses = s.presses
  := by
  rw [presses, h, List.filterMap_append, List.filterMap_eq_nil_iff.mpr hevents,
    List.append_nil]
  rfl

end State

/-- What a step does to the store: nothing, the first transaction of a press, or the
second. -/
inductive StoreEffect (s : State) : Action → State → Prop where
  | quiet {a : Action} {t : State} (hrealm : t.realm = s.realm)
      (hwishList : t.wishList = s.wishList) (hposting : t.posting = s.posting)
      (hpresses : t.presses = s.presses) (hpress : s.pressedBook a = none) : StoreEffect s a t
  | pressed {a : Action} {ref : BookRef} {book : Book} (hidle : s.posting = none)
      (hpress : s.pressedBook a = some ref) (hread : s.read? ref = some book) :
      StoreEffect s a (s.toggled ref)
  | updated {ref : BookRef} {book : Book} (hposting : s.posting = some ref)
      (hread : s.read? ref = some book) :
      StoreEffect s .addOrDeleteBookFromWishlist (s.wishlistUpdated book)

namespace State

variable {F : Foundation} {s t : State} {a : Action}

/-- The history of a process only grows. -/
theorem history_prefix (h : Effect F s a t) :
  s.history <+: t.history
  := by
  cases h with
  | screen | request | emptyResults | notified | updated => apply List.prefix_append
  | timer | noResults | noCover | cover => apply List.prefix_rfl
  | results =>
      rw [history_booksStructured]
      apply List.prefix_append
  | pressed =>
      use []
      rw [List.append_nil, history_toggled]

/-- A step does one of these to the store. -/
theorem storeEffect (h : Effect F s a t) :
  StoreEffect s a t
  := by
  cases h with
  | screen hidle hscreen =>
      apply StoreEffect.quiet
      · rfl
      · rfl
      · rfl
      · apply presses_of_history rfl
        intro e he
        obtain ⟨row, b, -, rfl⟩ := events_of_screenStep hscreen e he
        rfl
      · rfl
  | timer | noResults | noCover | cover =>
      apply StoreEffect.quiet
      · rfl
      · rfl
      · rfl
      · rfl
      · rfl
  | request | emptyResults | notified =>
      apply StoreEffect.quiet
      · rfl
      · rfl
      · rfl
      · apply presses_of_history rfl
        simp [press?]
      · rfl
  | results =>
      apply StoreEffect.quiet
      · apply realm_booksStructured
      · apply wishList_booksStructured
      · apply posting_booksStructured
      · apply presses_of_history (history_booksStructured _ _ _)
        intro e he
        obtain ⟨o, -, rfl⟩ := List.mem_map.mp he
        rfl
      · rfl
  | pressed hidle hpress hread => apply StoreEffect.pressed hidle hpress hread
  | updated hposting hread => apply StoreEffect.updated hposting hread

end State

end OpenLibrary
