import OpenLibrary.Wishlist.Store

/-!
# The copies in the wishlist

The handler of a press keeps a copy of the book in the store, made field by field. It leaves
`subtitle` out, and it is made of the book as it is then, while a cover may have come since the
press. The other fields of a book never change (`State.text_eq`). So each record shown is
the book whose press added it, as it was at the press, exactly when each book added had no
subtitle and the cover it had at the press (`copies_iff`).
-/

namespace OpenLibrary

/-! ### What is displayed of a book -/

/-- The fields of a book that a cell or the popup displays, and its `coverID`: all but the
flag. -/
def Book.display (b : Book) : Book :=
  { b with isInWishlist := false }

/-- The fields of a book that its document gives. -/
def Book.text (b : Book) : Book :=
  { b with coverData := [], isInWishlist := false }

/-- The copy of a book displays the same as the book did when it had the cover it has now, if
ever it did, exactly when the book has no subtitle and the same cover. -/
theorem display_realmBook_iff {b c : Book} (h : b.text = c.text) :
  (State.realmBook b).display = c.display ↔ b.subtitle = "" ∧ b.coverData = c.coverData
  := by
  cases b
  cases c
  simp only [Book.text, Book.mk.injEq] at h
  obtain ⟨rfl, -, rfl, rfl, rfl, rfl, rfl, rfl, -⟩ := h
  simp only [State.realmBook, Book.display, Book.mk.injEq]
  constructor
  · rintro ⟨-, rfl, -, rfl, -⟩
    exact ⟨rfl, rfl⟩
  · rintro ⟨rfl, rfl⟩
    simp

theorem Book.display_toggle (b : Book) :
  b.toggle.display = b.display
  := rfl

/-! ### The objects a process refers to -/

/-- A cell or the popup refers to a book. -/
def Screen.Refers (screen : Screen) (ref : BookRef) : Prop :=
  ref ∈ screen.cells ∨ ∃ details, screen.details = some details ∧
    details.bookBeingDesplayed = ref

theorem Screen.refers_of_eq {old new : Screen} {ref : BookRef} (h : new.Refers ref)
    (hcells : new.cells = old.cells) (hdetails : new.details = old.details) :
  old.Refers ref
  := by
  rw [Screen.Refers, ← hcells, ← hdetails]
  apply h

namespace State

/-- The detached books the process refers to have been made. -/
structure Known (s : State) : Prop where
  results : ∀ o ∈ s.search.bookResults, o < s.objects.next
  screen : ∀ o, s.screen.Refers (.detached o) → o < s.objects.next
  posting : ∀ o, s.posting = some (.detached o) → o < s.objects.next

theorem known_launch (realm : Realm) :
  (launch realm).Known
  := by
  constructor
  · intro o ho
    cases ho
  · rintro o (ho | ⟨details, hdetails, -⟩)
    · cases ho
    · cases hdetails
  · intro o ho
    cases ho

variable {F : Foundation} {s t : State} {a : Action}

/-- A step of the screens makes them refer to no book but those shown. -/
theorem refers_screenEffect {action : ScreenAction} {screen : Screen} {events : List Event}
    (he : ScreenEffect s action screen events) {ref : BookRef} (h : screen.Refers ref) :
  s.screen.Refers ref ∨ ref ∈ s.shownBooks
  := by
  cases he with
  | @tab state =>
      obtain ⟨-, -, hcells, hdetails⟩ := s.changeAppState_frame state
      left
      apply Screen.refers_of_eq h hcells hdetails
  | @text searchText =>
      obtain ⟨-, -, -, -, hcells, hdetails⟩ := s.requestBookSearch_frame searchText
      left
      apply Screen.refers_of_eq h hcells hdetails
  | animation | mainArea =>
      left
      apply h
  | bookList | previewCell =>
      rcases h with hcell | hdetails
      · right
        apply hcell
      · left
        right
        apply hdetails
  | cell hrow hbook hread =>
      rcases h with hcell | hdetails
      · rcases List.mem_or_eq_of_mem_set hcell with hold | rfl
        · left
          left
          apply hold
        · right
          apply List.mem_of_getElem? hbook
      · left
        right
        apply hdetails
  | popup hrow hnone hbook hread =>
      rcases h with hcell | ⟨details, hdetails, rfl⟩
      · left
        left
        apply hcell
      · right
        obtain rfl := Option.some.inj hdetails
        apply List.mem_of_getElem? hbook
  | page hdetails hpage hread =>
      left
      rcases h with hcell | ⟨details, hdetails', rfl⟩
      · left
        apply hcell
      · right
        obtain rfl := Option.some.inj hdetails'
        exact ⟨_, hdetails, rfl⟩
  | close =>
      left
      rcases h with hcell | ⟨details, hdetails, -⟩
      · left
        apply hcell
      · cases hdetails

namespace Known

/-- Steps after which the process refers to no other books keep them made. -/
theorem congr (h : s.Known) (hnext : s.objects.next ≤ t.objects.next)
    (hresults : t.search.bookResults ⊆ s.search.bookResults)
    (hcells : t.screen.cells = s.screen.cells) (hdetails : t.screen.details = s.screen.details)
    (hposting : t.posting = s.posting) :
  t.Known
  := by
  constructor
  · intro o ho
    apply Nat.lt_of_lt_of_le (h.results o (hresults ho)) hnext
  · intro o ho
    apply Nat.lt_of_lt_of_le (h.screen o (Screen.refers_of_eq ho hcells hdetails)) hnext
  · intro o ho
    rw [hposting] at ho
    apply Nat.lt_of_lt_of_le (h.posting o ho) hnext

/-- A detached book shown has been made. -/
theorem shown (h : s.Known) {o : Nat} (ho : .detached o ∈ s.shownBooks) :
  o < s.objects.next
  := by
  cases htab : s.screen.currentAppState with
  | bookSearch =>
      rw [shownBooks_of_bookSearch htab] at ho
      obtain ⟨p, hp, he⟩ := List.mem_map.mp ho
      obtain rfl := BookRef.detached.inj he
      apply h.results p hp
  | wishlist =>
      rw [shownBooks_of_wishlist htab] at ho
      obtain ⟨row, -, he⟩ := List.mem_map.mp ho
      cases he

/-- A book pressed is one that a cell or the popup refers to. -/
theorem refers_of_pressedBook {ref : BookRef} (h : s.pressedBook a = some ref) :
  s.screen.Refers ref
  := by
  cases a with
  | userPressedWishlistButton row =>
      left
      rw [pressedBook] at h
      split at h
      · cases h
      · apply List.mem_of_getElem? h
  | notifyWishlistOfUpdate =>
      right
      obtain ⟨details, hdetails, hbook⟩ := Option.map_eq_some_iff.mp h
      exact ⟨details, hdetails, hbook⟩
  | _ => cases h

/-- A step makes the books that the process refers to after it. -/
theorem step (h : s.Known) (he : Effect F s a t) :
  t.Known
  := by
  cases he with
  | screen hidle hscreen =>
      constructor
      · apply h.results
      · intro o ho
        rcases refers_screenEffect (screenEffect_of_screenStep hscreen) ho with hold | hshown
        · apply h.screen o hold
        · apply h.shown hshown
      · apply h.posting
  | timer | noResults | emptyResults | noCover | cover =>
      apply h.congr
      · apply Nat.le_refl
      · apply List.Subset.refl
      · rfl
      · rfl
      · rfl
  | request =>
      apply h.congr
      · apply Nat.le_refl
      · apply List.nil_subset
      · rfl
      · rfl
      · rfl
  | notified =>
      apply h.congr
      · apply Nat.le_of_eq (next_determineWishlistBooks _).symm
      · apply List.Subset.refl
      · rfl
      · rfl
      · rfl
  | @results r data docs newBooks hr hdata hdocs hbooks =>
      have hnext : s.objects.next ≤
          ((s.infoAnswered r).booksStructured r newBooks).objects.next := by
        rw [next_booksStructured]
        apply Nat.le_add_right
      constructor
      · apply lt_next_booksStructured
        apply h.results
      · intro o ho
        rw [screen_booksStructured] at ho
        apply Nat.lt_of_lt_of_le (h.screen o ho) hnext
      · intro o ho
        rw [posting_booksStructured] at ho
        apply Nat.lt_of_lt_of_le (h.posting o ho) hnext
  | @pressed _ ref book hidle hpress hread =>
      constructor
      · rw [search_toggled, next_toggled]
        apply h.results
      · rw [screen_toggled, next_toggled]
        apply h.screen
      · intro o ho
        rw [posting_toggled] at ho
        rw [next_toggled]
        obtain rfl := Option.some.inj ho
        apply h.screen o (refers_of_pressedBook hpress)
  | @updated ref book hposting hread =>
      obtain ⟨-, -, hcells, hdetails⟩ := s.wishlistUpdated_frame book
      constructor
      · apply h.results
      · intro o ho
        apply h.screen o (Screen.refers_of_eq ho hcells hdetails)
      · intro o ho
        cases ho

end Known

/-- A step changes no field of a book that its document gives. -/
theorem text_eq {o : Nat} (ho : o < s.objects.next) (he : Effect F s a t) :
  (t.objects.book o).text = (s.objects.book o).text
  := by
  cases he with
  | screen | timer | request | noResults | emptyResults | noCover | updated => rfl
  | @results r data docs newBooks =>
      have ho' : o < (s.infoAnswered r).objects.next := ho
      rw [book_booksStructured_of_lt r newBooks ho']
      rfl
  | @cover task imageData htask =>
      rw [book_coverReceived]
      split
      · rfl
      · rfl
  | @notified r =>
      have hbook := book_foldl_determineWishlistBook s.realm s.search.bookResults s.objects o
      change ((s.search.bookResults.foldl (determineWishlistBook s.realm)
        s.objects).book o).text = _
      rw [hbook]
      split
      · rfl
      · rfl
  | @pressed _ ref book hidle hpress hread =>
      cases ref with
      | stored row => rfl
      | detached p =>
          change ((s.objects.modify p Book.toggle).book o).text = _
          rw [Objects.book_modify]
          split
          · next hop =>
              rw [hop]
              rfl
          · rfl

end State

/-! ### Where the records come from -/

/-- What led to the records: the book pressed last, as it was at the press, and for each record
the book whose press added it, as it was at that press. -/
structure Provenance where
  pressed : Option Book
  addedBy : Nat → Option Book

namespace Provenance

/-- No book has been pressed yet. -/
def initial : Provenance where
  pressed := none
  addedBy _ := none

/-- A press is of the book as it is then, and the record its handler adds, which gets the next
identifier, comes from it. -/
def next (p : Process) (g : Provenance) : Signal → Provenance
  | .act a =>
      match p with
      | .running s =>
          { pressed :=
              match s.pressedBook a with
              | some ref => s.read? ref
              | none => g.pressed
            addedBy :=
              match a with
              | .addOrDeleteBookFromWishlist => Function.update g.addedBy s.realm.next g.pressed
              | _ => g.addedBy }
      | .terminated _ => g
  | _ => g

/-- Every record of a store displays what the book whose press added it displayed at the
press. -/
def Copied (g : Provenance) (realm : Realm) : Prop :=
  ∀ row b, (row, b) ∈ realm.rows → ∃ book, g.addedBy row = some book ∧ b.display = book.display

end Provenance

/-- The device, with where the records come from. -/
def tracedLifecycle (F : Foundation) : Machine (Process × Provenance) Signal Fault :=
  (lifecycle F).withHistory Provenance.next

/-- Every record shown in the Wishlist tab displays what the book whose press added it displayed
at the press. -/
def ShowsCopies (x : Process × Provenance) : Prop :=
  ∀ s, x.1 = .running s → ∀ row ∈ s.wishList, ∀ b, s.realm.find? row = some b →
    ∃ book, x.2.addedBy row = some book ∧ b.display = book.display

/-- Where a handler adds a record, the book has no subtitle, and the cover it had at the
press. -/
def CopiesWhole (x : Process × Provenance) : Signal → Prop
  | .act .addOrDeleteBookFromWishlist =>
      ∀ s o, x.1 = .running s → s.posting = some (.detached o) →
        (s.objects.book o).isInWishlist = true → ¬ s.realm.Holds (s.objects.book o).coverID →
        (s.objects.book o).subtitle = "" ∧
          ∀ book, x.2.pressed = some book → (s.objects.book o).coverData = book.coverData
  | _ => True

/-- What holds of a running process while its records are copies. -/
structure State.Copies (s : State) (g : Provenance) : Prop where
  known : s.Known
  wishList : s.wishList = s.realm.ids
  copied : g.Copied s.realm
  pressed : ∀ o, s.posting = some (.detached o) → ∃ book, g.pressed = some book ∧
    (s.objects.book o).text = book.text

namespace State.Copies

variable {F : Foundation} {s t : State} {a : Action} {g : Provenance}

/-- Steps that leave the store and the press under way alone keep the records copies. -/
theorem quiet (h : s.Copies g) (he : Effect F s a t) (hrealm : t.realm = s.realm)
    (hwishList : t.wishList = s.wishList) (hposting : t.posting = s.posting) :
  t.Copies g
  := by
  constructor
  · apply h.known.step he
  · rw [hwishList, hrealm]
    apply h.wishList
  · rw [hrealm]
    apply h.copied
  · intro o ho
    rw [hposting] at ho
    obtain ⟨book, hbook, htext⟩ := h.pressed o ho
    use book, hbook
    rw [text_eq (h.known.posting o ho) he, htext]

/-- A press is of the book as it is then. -/
theorem toggled (h : s.Copies g) {ref : BookRef} {book : Book} (he : Effect F s a (s.toggled ref))
    (hpress : s.pressedBook a = some ref) (hread : s.read? ref = some book) :
  (s.toggled ref).Copies { g with pressed := some book }
  := by
  constructor
  · apply h.known.step he
  · rw [wishList_toggled, h.wishList]
    cases ref with
    | detached o => rfl
    | stored row => apply (Table.ids_modify _ _ _).symm
  · intro row b hb
    cases ref with
    | detached o => apply h.copied row b hb
    | stored i =>
        obtain ⟨c, hc, rfl⟩ := Table.mem_modify.mp hb
        obtain ⟨book, hbook, hdisplay⟩ := h.copied row c hc
        use book, hbook
        split
        · rw [Book.display_toggle, hdisplay]
        · apply hdisplay
  · intro o ho
    rw [posting_toggled] at ho
    obtain rfl := Option.some.inj ho
    use book, rfl
    have hlt := h.known.screen o (Known.refers_of_pressedBook hpress)
    rw [text_eq hlt he]
    obtain rfl := Option.some.inj hread
    rfl

/-- A book whose `coverID` the store does not hold is no record. -/
theorem detached_of_not_holds {ref : BookRef} {book : Book} (hread : s.read? ref = some book)
    (hnot : ¬ s.realm.Holds book.coverID) :
  ∃ o, ref = .detached o ∧ s.objects.book o = book
  := by
  cases ref with
  | detached o => exact ⟨o, rfl, Option.some.inj hread⟩
  | stored row =>
      apply absurd _ hnot
      exact ⟨row, book, Table.find?_eq_some.mp hread, rfl⟩

/-- The records there were before a handler adds one still come from where they did. -/
theorem copied_update (h : s.Copies g) {row : Nat} {b : Book} (hb : (row, b) ∈ s.realm.rows) :
  ∃ book, Function.update g.addedBy s.realm.next g.pressed row = some book ∧
    b.display = book.display
  := by
  rw [Function.update_of_ne (s.realm.lt_next _ hb).ne]
  apply h.copied row b hb

/-- The handler of a press keeps the records copies, where the record it adds is one. -/
theorem updated (h : s.Copies g) {ref : BookRef} {book : Book}
    (he : Effect F s .addOrDeleteBookFromWishlist (s.wishlistUpdated book))
    (hposting : s.posting = some ref) (hread : s.read? ref = some book)
    (hwhole : CopiesWhole (.running s, g) (.act .addOrDeleteBookFromWishlist)) :
  (s.wishlistUpdated book).Copies
    { g with addedBy := Function.update g.addedBy s.realm.next g.pressed }
  := by
  constructor
  · apply h.known.step he
  · apply ids_addOrDelete h.wishList
  · intro row b hb
    change (row, b) ∈ (addOrDelete s.realm s.wishList book).1.rows at hb
    rw [addOrDelete] at hb
    split at hb
    · next hflag =>
        split at hb
        · next hcount =>
            rcases Table.mem_insert.mp hb with hold | hnew
            · apply h.copied_update hold
            · obtain ⟨rfl, rfl⟩ := Prod.mk.inj hnew
              have hnot := Realm.countCover_eq_zero.mp hcount
              obtain ⟨o, rfl, rfl⟩ := detached_of_not_holds hread hnot
              obtain ⟨pressed, hpressed, htext⟩ := h.pressed o hposting
              obtain ⟨hsubtitle, hcover⟩ := hwhole s o rfl hposting hflag hnot
              refine ⟨pressed, (Function.update_self _ _ _).trans hpressed, ?_⟩
              apply (display_realmBook_iff htext).mpr ⟨hsubtitle, hcover pressed hpressed⟩
        · apply h.copied_update hb
    · apply h.copied_update (Table.mem_delete.mp hb).1
  · intro o ho
    cases ho

/-- Where the records shown are copies after a handler, the one it adds is. -/
theorem copiesWhole_of_shows (h : s.Copies g) {book : Book} {ref : BookRef}
    (hposting : s.posting = some ref) (hread : s.read? ref = some book)
    (hshows : ShowsCopies (.running (s.wishlistUpdated book),
      { g with addedBy := Function.update g.addedBy s.realm.next g.pressed })) :
  CopiesWhole (.running s, g) (.act .addOrDeleteBookFromWishlist)
  := by
  rintro s' o hs' hposting' hflag hnot
  obtain rfl := Process.running.inj hs'
  obtain rfl := Option.some.inj (hposting.symm.trans hposting')
  obtain rfl := Option.some.inj hread
  obtain ⟨pressed, hpressed, htext⟩ := h.pressed o hposting
  have hadd : addOrDelete s.realm s.wishList (s.objects.book o) =
      (s.realm.insert (realmBook (s.objects.book o)),
        Table.ids (s.realm.insert (realmBook (s.objects.book o)))) := by
    rw [addOrDelete, if_pos hflag, if_pos (Realm.countCover_eq_zero.mpr hnot)]
  have hrow : s.realm.next ∈ (addOrDelete s.realm s.wishList (s.objects.book o)).2 := by
    rw [hadd, Table.ids_insert]
    apply List.mem_append_right _ (List.mem_singleton_self _)
  have hfind : (addOrDelete s.realm s.wishList (s.objects.book o)).1.find? s.realm.next =
      some (realmBook (s.objects.book o)) := by
    rw [hadd]
    exact Table.find?_eq_some.mpr (Table.mem_insert.mpr (Or.inr rfl))
  obtain ⟨book, hbook, hdisplay⟩ := hshows _ rfl _ hrow _ hfind
  have hbook : Function.update g.addedBy s.realm.next g.pressed s.realm.next = some book := hbook
  rw [Function.update_self] at hbook
  obtain rfl := Option.some.inj (hpressed.symm.trans hbook)
  obtain ⟨hsubtitle, hcover⟩ := (display_realmBook_iff htext).mp hdisplay
  use hsubtitle
  intro book' hbook'
  obtain rfl := Option.some.inj (hpressed.symm.trans hbook')
  apply hcover

/-- A step records nothing new of the records there are. -/
theorem addedBy_next {row : Nat} {b : Book} (hb : (row, b) ∈ s.realm.rows) :
  (g.next (.running s) (.act a)).addedBy row = g.addedBy row
  := by
  cases a with
  | addOrDeleteBookFromWishlist =>
      apply Function.update_of_ne (s.realm.lt_next _ hb).ne
  | _ => rfl

/-- A press is recorded as of the book as it is then. -/
theorem next_of_pressed {ref : BookRef} {book : Book} (hpress : s.pressedBook a = some ref)
    (hread : s.read? ref = some book) :
  g.next (.running s) (.act a) = { g with pressed := some book }
  := by
  cases a with
  | userPressedWishlistButton row => simp only [Provenance.next, hpress, hread]
  | notifyWishlistOfUpdate => simp only [Provenance.next, hpress, hread]
  | _ => cases hpress

/-- Other actions than presses and their handlers record nothing. -/
theorem next_of_quiet (hpress : s.pressedBook a = none) (ha : a ≠ .addOrDeleteBookFromWishlist) :
  g.next (.running s) (.act a) = g
  := by
  cases a with
  | addOrDeleteBookFromWishlist => apply absurd rfl ha
  | _ => simp only [Provenance.next, hpress]

/-- A step of the process keeps the records copies, where the record it adds is one. -/
theorem step (h : s.Copies g) (he : Effect F s a t)
    (hwhole : CopiesWhole (.running s, g) (.act a)) :
  t.Copies (g.next (.running s) (.act a))
  := by
  cases storeEffect he with
  | quiet hrealm hwishList hposting _ hpress =>
      have ha : a ≠ .addOrDeleteBookFromWishlist := by
        rintro rfl
        cases he with
        | pressed _ hpress' => cases hpress'
        | updated hposting' => cases hposting.trans hposting'
      rw [next_of_quiet hpress ha]
      apply h.quiet he hrealm hwishList hposting
  | pressed hidle hpress hread =>
      rw [next_of_pressed hpress hread]
      apply h.toggled he hpress hread
  | updated hposting hread => apply h.updated he hposting hread hwhole

end State.Copies

/-- What holds of the device while the records are copies. -/
def Copies : Process × Provenance → Prop
  | (.running s, g) => s.Copies g
  | (.terminated realm, g) => g.Copied realm

namespace Copies

variable {F : Foundation} {x y : Process × Provenance} {signal : Signal}

/-- While the records are copies, those shown are. -/
theorem shows (h : Copies x) :
  ShowsCopies x
  := by
  obtain ⟨p, g⟩ := x
  rintro s rfl row hrow b hb
  apply h.copied row b (Table.find?_eq_some.mp hb)

/-- A step keeps the records copies, where the record it adds is one. -/
theorem step (h : Copies x) (hwhole : CopiesWhole x signal)
    (hy : (tracedLifecycle F).step x signal = .ok y) :
  Copies y
  := by
  obtain ⟨p, g⟩ := x
  obtain ⟨q, g'⟩ := y
  obtain ⟨hq, rfl⟩ := Machine.step_withHistory.mp hy
  cases p with
  | terminated realm =>
      cases signal with
      | launch =>
          obtain rfl := Except.ok.inj hq
          constructor
          · apply State.known_launch
          · rfl
          · apply h
          · intro o ho
            cases ho
      | act a => cases hq
      | terminate => cases hq
  | running s =>
      cases signal with
      | launch => cases hq
      | terminate =>
          obtain rfl := Except.ok.inj hq
          apply h.copied
      | act a =>
          change Process.step F (.running s) (.act a) = .ok q at hq
          rw [Process.step] at hq
          split at hq
          · next t ht =>
              obtain rfl := Except.ok.inj hq
              apply State.Copies.step h (State.step_eq_ok.mp ht) hwhole
          · next trap ht =>
              obtain rfl := Except.ok.inj hq
              intro row b hb
              rw [State.Copies.addedBy_next hb]
              apply h.copied row b hb
          · cases hq

/-- A step after which the records shown are copies copies the whole of the book it adds. -/
theorem copiesWhole (h : Copies x) (hy : (tracedLifecycle F).step x signal = .ok y)
    (hshows : ShowsCopies y) :
  CopiesWhole x signal
  := by
  obtain ⟨p, g⟩ := x
  obtain ⟨q, g'⟩ := y
  obtain ⟨hq, rfl⟩ := Machine.step_withHistory.mp hy
  cases signal with
  | launch => trivial
  | terminate => trivial
  | act a =>
      cases a with
      | addOrDeleteBookFromWishlist =>
          rintro s o rfl hposting hflag hnot
          have hread : s.read? (.detached o) = some (s.objects.book o) := rfl
          have hstep : Process.step F (.running s) (.act .addOrDeleteBookFromWishlist) =
              .ok (.running (s.wishlistUpdated (s.objects.book o))) := by
            rw [Process.step, State.step_eq_ok.mpr (Effect.updated hposting hread)]
          obtain rfl := Except.ok.inj (hstep.symm.trans hq)
          apply State.Copies.copiesWhole_of_shows h hposting hread hshows s o rfl hposting hflag
            hnot
      | _ => trivial

end Copies

/-- In every run of a device whose store is empty at first, every record shown in the Wishlist
tab displays what the book whose press added it displayed at the press, exactly when each book
added had no subtitle and still the cover it had at its press. -/
theorem copies_iff (F : Foundation) (signals : List Signal) (x : Process × Provenance)
    (h : (tracedLifecycle F).run (.terminated Table.empty, .initial) signals = .ok x) :
  (tracedLifecycle F).EveryState ShowsCopies (.terminated Table.empty, .initial) signals ↔
    (tracedLifecycle F).EveryStep CopiesWhole (.terminated Table.empty, .initial) signals
  := by
  have hempty : Copies (.terminated Table.empty, .initial) := by
    intro row b hb
    cases hb
  apply Machine.everyState_iff_everyStep_of_imp (M := tracedLifecycle F) (P := Copies) _ _
    Copies.shows hempty h
  · intro x signal y hx hwhole hy
    apply hx.step hwhole hy
  · intro x signal y hx hy hshows
    apply hx.copiesWhole hy hshows

/-- A book without a subtitle is added, and shown after a restart. -/
theorem copies_iff_dune :
  ∃ x, (tracedLifecycle .onPlainText).run (.terminated Table.empty, .initial)
      [.launch, .act (.screen (.searchBarTextDidChange "dune")), .act (.beginRequest 1),
        .act (.bookInfoResponse 0 (responseOf [document 7 "Dune"])),
        .act (.coverResponse ⟨0, 0, bookCoverRequestURL 7⟩ (some [1])), .act (.coversNotified 0),
        .act (.screen .runMainBlock), .act (.userPressedWishlistButton 0),
        .act .addOrDeleteBookFromWishlist, .terminate, .launch] = .ok x ∧
    ((tracedLifecycle .onPlainText).EveryState ShowsCopies (.terminated Table.empty, .initial)
        [.launch, .act (.screen (.searchBarTextDidChange "dune")), .act (.beginRequest 1),
          .act (.bookInfoResponse 0 (responseOf [document 7 "Dune"])),
          .act (.coverResponse ⟨0, 0, bookCoverRequestURL 7⟩ (some [1])),
          .act (.coversNotified 0), .act (.screen .runMainBlock),
          .act (.userPressedWishlistButton 0), .act .addOrDeleteBookFromWishlist, .terminate,
          .launch] ↔
      (tracedLifecycle .onPlainText).EveryStep CopiesWhole (.terminated Table.empty, .initial)
        [.launch, .act (.screen (.searchBarTextDidChange "dune")), .act (.beginRequest 1),
          .act (.bookInfoResponse 0 (responseOf [document 7 "Dune"])),
          .act (.coverResponse ⟨0, 0, bookCoverRequestURL 7⟩ (some [1])),
          .act (.coversNotified 0), .act (.screen .runMainBlock),
          .act (.userPressedWishlistButton 0), .act .addOrDeleteBookFromWishlist, .terminate,
          .launch])
  := by
  apply (exists_congr (fun x => and_iff_left_of_imp _)).mpr
  · exact ⟨_, rfl⟩
  · intro x h
    apply copies_iff .onPlainText _ x h

/-- The subtitle of a book is not in its record. -/
theorem subtitle_lost :
  ¬ ∀ (F : Foundation) (signals : List Signal) (x : Process × Provenance),
    (tracedLifecycle F).run (.terminated Table.empty, .initial) signals = .ok x →
      (tracedLifecycle F).EveryState ShowsCopies (.terminated Table.empty, .initial) signals
  := by
  intro h
  have hshows := h .onPlainText
    [.launch, .act (.screen (.searchBarTextDidChange "dune")), .act (.beginRequest 1),
      .act (.bookInfoResponse 0
        (responseOf [("subtitle", .string "A Novel") :: document 7 "Dune"])),
      .act (.coverResponse ⟨0, 0, bookCoverRequestURL 7⟩ (some [1])), .act (.coversNotified 0),
      .act (.screen .runMainBlock), .act (.userPressedWishlistButton 0),
      .act .addOrDeleteBookFromWishlist] _ rfl _ [] _ (List.append_nil _).symm rfl _ rfl 0
    (by decide) _ rfl
  obtain ⟨book, hbook, hdisplay⟩ := hshows
  obtain rfl := Option.some.inj hbook
  revert hdisplay
  decide

end OpenLibrary
