import OpenLibrary.Screen.Display
import OpenLibrary.Wishlist.Presses

/-!
# The outcome of a press

A press is over when the handler of its notification has run, and callbacks of other threads may
run before that. A press of a button without the check mark always ends with the book in the
store. A press of one with it ends with the book gone exactly when no `notify` block marks the
book again in between, which happens when the book is a result and the store holds its `coverID`
(`press_does_what_button_shows`).
-/

namespace OpenLibrary

/-- The check mark is on the buttons of the books that are marked. -/
theorem image_updateWishlistButtonUI_eq_none {book : Book} :
  (updateWishlistButtonUI book).image = none ↔ book.isInWishlist = false
  := by
  rw [updateWishlistButtonUI]
  cases book.isInWishlist with
  | true => decide
  | false => decide

namespace State

/-- The flag of the book a reference points to, if it can be read. -/
def flag? (s : State) (ref : BookRef) : Option Bool :=
  (s.read? ref).map Book.isInWishlist

/-- The step is no `notify` block that finds the book pressed among the results, and its
`coverID` in the store. -/
def LeavesPressed (s : State) : Action → Prop
  | .coversNotified _ => ∀ o, s.posting = some (.detached o) → o ∈ s.search.bookResults →
      ¬ s.realm.Holds (s.objects.book o).coverID
  | _ => True

/-- The notification of a press of a book is posted, on a store. -/
structure Posts (ref : BookRef) (coverID : Int) (realm : Realm) (s : State) : Prop where
  posting : s.posting = some ref
  realm : s.realm = realm
  made : s.Made ref
  book : ∃ book, s.read? ref = some book ∧ book.coverID = coverID

variable {F : Foundation} {s t : State} {a : Action} {ref : BookRef} {coverID : Int}
  {realm : Realm}

namespace Posts

/-- After its first transaction the notification of a press is posted. -/
theorem toggled {book : Book} (hmade : s.Made ref) (hread : s.read? ref = some book)
    (he : Effect F s a (s.toggled ref)) :
  (s.toggled ref).Posts ref book.coverID (s.toggled ref).realm
  := by
  constructor
  · apply posting_toggled
  · rfl
  · apply hmade.step he
  · use book.toggle
    rw [read?_toggled, hread]
    exact ⟨rfl, rfl⟩

/-- While a notification is posted, other threads change neither the store nor the book
posted, but for its cover and its flag. -/
theorem step (h : s.Posts ref coverID realm) (ha : a ≠ .addOrDeleteBookFromWishlist)
    (he : Effect F s a t) :
  t.Posts ref coverID realm
  := by
  have he' := he
  have hrealm : t.realm = s.realm ∧ t.posting = s.posting := by
    cases storeEffect he with
    | quiet hrealm _ hposting => exact ⟨hrealm, hposting⟩
    | pressed hidle => cases hidle.symm.trans h.posting
    | updated => apply absurd rfl ha
  obtain ⟨book, hbook, hcoverID⟩ := h.book
  constructor
  · rw [hrealm.2, h.posting]
  · rw [hrealm.1, h.realm]
  · apply h.made.step he
  · cases ref with
    | detached o =>
        refine ⟨t.objects.book o, rfl, ?_⟩
        obtain rfl := Option.some.inj hbook
        obtain ⟨htext, -⟩ := labels_of_text (text_eq h.made he)
        rw [htext, hcoverID]
    | stored row =>
        use book
        rw [read?, hrealm.1]
        exact ⟨hbook, hcoverID⟩

/-- While a notification is posted, a step changes the flag of the book posted only where it is
unset and a `notify` block sets it. -/
theorem flag?_step (h : s.Posts ref coverID realm) (ha : a ≠ .addOrDeleteBookFromWishlist)
    (he : Effect F s a t) :
  (s.flag? ref = some true → t.flag? ref = some true) ∧
    (s.flag? ref = some false → (t.flag? ref = some false ↔ s.LeavesPressed a))
  := by
  have hsame : t.flag? ref = s.flag? ref → s.LeavesPressed a →
      (s.flag? ref = some true → t.flag? ref = some true) ∧
        (s.flag? ref = some false → (t.flag? ref = some false ↔ s.LeavesPressed a)) := by
    intro hflag hleaves
    rw [hflag]
    exact ⟨id, fun hunset => iff_of_true hunset hleaves⟩
  cases ref with
  | stored row =>
      apply hsame
      · rw [flag?, flag?, read?, read?, (h.step ha he).realm, h.realm]
      · cases a with
        | coversNotified r =>
            intro o ho
            cases h.posting.symm.trans ho
        | _ => trivial
  | detached o =>
      cases he with
      | screen hidle | timer hidle | request hidle | pressed hidle =>
          cases hidle.symm.trans h.posting
      | noResults | emptyResults | noCover =>
          apply hsame
          · rfl
          · trivial
      | @results r data docs newBooks =>
          have ho : o < (s.infoAnswered r).objects.next := h.made
          apply hsame
          · change some _ = some _
            rw [book_booksStructured_of_lt r newBooks ho]
            rfl
          · trivial
      | @cover task imageData =>
          apply hsame
          · change some _ = some _
            rw [book_coverReceived]
            split
            · rfl
            · rfl
          · trivial
      | @notified r =>
          have hbook := book_foldl_determineWishlistBook s.realm s.search.bookResults s.objects o
          change (some (s.objects.book o).isInWishlist = some true →
              some ((s.search.bookResults.foldl (determineWishlistBook s.realm)
                s.objects).book o).isInWishlist = some true) ∧
            (some (s.objects.book o).isInWishlist = some false →
              (some ((s.search.bookResults.foldl (determineWishlistBook s.realm)
                s.objects).book o).isInWishlist = some false ↔ _))
          rw [hbook]
          split
          · next hmarks =>
              refine ⟨fun _ => rfl, fun _ => iff_of_false ?_ ?_⟩
              · intro he
                cases he
              · intro hleaves
                apply hleaves o h.posting hmarks.1
                apply Realm.countCover_ne_zero.mp hmarks.2
          · next hleft =>
              refine ⟨id, fun hunset => iff_of_true hunset ?_⟩
              intro p hp hmem hheld
              obtain rfl := BookRef.detached.inj (Option.some.inj (h.posting.symm.trans hp))
              apply hleft
              exact ⟨hmem, Realm.countCover_ne_zero.mpr hheld⟩
      | updated => apply absurd rfl ha

/-- While a notification is posted, its book keeps the flag unset exactly when every step leaves
it, and keeps it set in any case. -/
theorem flag?_run (h : s.Posts ref coverID realm) {mid : List Action}
    (hmid : ∀ a ∈ mid, a ≠ .addOrDeleteBookFromWishlist)
    (ht : (application F).run s mid = .ok t) :
  t.Posts ref coverID realm ∧ (s.flag? ref = some true → t.flag? ref = some true) ∧
    (s.flag? ref = some false →
      (t.flag? ref = some false ↔ (application F).EveryStep LeavesPressed s mid))
  := by
  have hD := Machine.everyStep_of_forall_mem (M := application F) (s := s) hmid
  have hsome : ∀ {v : State}, v.Posts ref coverID realm →
      v.flag? ref ≠ some false → v.flag? ref = some true := by
    intro v hv hne
    obtain ⟨book, hbook, -⟩ := hv.book
    rw [flag?, hbook, Option.map_some] at hne ⊢
    cases hflag : book.isInWishlist with
    | true => rfl
    | false =>
        rw [hflag] at hne
        apply absurd rfl hne
  refine ⟨?_, ?_, ?_⟩
  · apply Machine.invariant_of_everyStep (M := application F) _ h ht hD
    intro v a w hv ha hw
    apply hv.step ha (step_eq_ok.mp hw)
  · intro hset
    have hboth : t.Posts ref coverID realm ∧ t.flag? ref = some true := by
      apply Machine.invariant_of_everyStep (M := application F)
        (P := fun v => v.Posts ref coverID realm ∧ v.flag? ref = some true) _ ⟨h, hset⟩ ht hD
      rintro v a w ⟨hv, hflag⟩ ha hw
      exact ⟨hv.step ha (step_eq_ok.mp hw), (hv.flag?_step ha (step_eq_ok.mp hw)).1 hflag⟩
    apply hboth.2
  · intro hunset
    apply Machine.iff_everyStep_of_lost (M := application F) (I := Posts ref coverID realm)
      (P := fun v => v.flag? ref = some false) _ _ _ h hunset ht hD
    · intro v a w hv ha hw
      apply hv.step ha (step_eq_ok.mp hw)
    · intro v a w hv ha hflag hw
      apply (hv.flag?_step ha (step_eq_ok.mp hw)).2 hflag
    · intro v a w hv ha hflag hw
      rw [(hv.flag?_step ha (step_eq_ok.mp hw)).1 (hsome hv hflag)]
      intro he
      cases he

theorem exists_flag? (h : s.Posts ref coverID realm) :
  ∃ flag, s.flag? ref = some flag
  := by
  obtain ⟨book, hbook, -⟩ := h.book
  use book.isInWishlist
  rw [flag?, hbook, Option.map_some]

/-- The handler leaves the store holding the `coverID` of the book posted as its flag says, and
others as before. -/
theorem holds_handled (h : s.Posts ref coverID realm) {flag : Bool}
    (hflag : s.flag? ref = some flag) (he : Effect F s .addOrDeleteBookFromWishlist t) (c : Int) :
  t.realm.Holds c ↔ c = coverID ∧ flag = true ∨ c ≠ coverID ∧ realm.Holds c
  := by
  cases he with
  | pressed _ hpress => cases hpress
  | @updated ref' book hposting hread =>
      obtain rfl := Option.some.inj (h.posting.symm.trans hposting)
      obtain ⟨book', hbook', rfl⟩ := h.book
      obtain rfl := Option.some.inj (hread.symm.trans hbook')
      rw [flag?, hread, Option.map_some] at hflag
      obtain rfl := Option.some.inj hflag
      rw [← h.realm]
      apply holds_addOrDelete

end Posts

end State

/-- In every run, in every state in which no notification is being posted and no block queued: a
press in a cell, the steps of other threads after it, and the handler of the press leave the book
of the cell in the store if the button showed no check mark. If it showed one, they leave the
book out of the store exactly when none of the steps in between is a `notify` block that finds
the book among the results and its `coverID` in the store. Other books they leave in or out of
it. -/
theorem press_does_what_button_shows (F : Foundation) (realm : Realm) (as : List Action)
    (s : State) (views : Views)
    (h : (viewed F).run (launch realm, .initial) as = .ok (s, views)) (hidle : s.posting = none)
    (hqueue : s.screen.mainQueue = []) (row : Nat) (ref : BookRef) (cell : BookPreviewCellView)
    (book : Book) (href : s.screen.cells[row]? = some ref) (hcell : views.cells[row]? = some cell)
    (hread : s.read? ref = some book) (mid : List Action)
    (hmid : ∀ a ∈ mid, a ≠ .addOrDeleteBookFromWishlist) (u : State)
    (hu : (application F).run s
      (.userPressedWishlistButton row :: (mid ++ [.addOrDeleteBookFromWishlist])) = .ok u) :
  (cell.wishlistButton.image = none → u.realm.Holds book.coverID) ∧
    (cell.wishlistButton.image ≠ none → (¬ u.realm.Holds book.coverID ↔
      (application F).EveryStep State.LeavesPressed (s.toggled ref) mid)) ∧
    ∀ c, c ≠ book.coverID → (u.realm.Holds c ↔ s.realm.Holds c)
  := by
  obtain ⟨t, ht, hu⟩ := Machine.run_cons.mp hu
  have he : Effect F s (.userPressedWishlistButton row) t := State.step_eq_ok.mp ht
  have hvisible : s.screen.isHidden = false ∧ t = s.toggled ref := by
    cases he with
    | pressed _ hpress =>
        rw [State.pressedBook] at hpress
        split at hpress
        · cases hpress
        · next hhidden =>
            obtain rfl := Option.some.inj (href.symm.trans hpress)
            exact ⟨Bool.not_eq_true _ ▸ hhidden, rfl⟩
  obtain ⟨hvisible, rfl⟩ := hvisible
  obtain ⟨hfaithful, hfresh⟩ := faithful_and_fresh_of_run h
  have hmarks : cell.Marks s ref := (hfresh hidle hqueue hvisible).of_getElem? href hcell
  have hbutton : cell.wishlistButton = updateWishlistButtonUI book := hmarks.button book hread
  obtain ⟨displayed, hdisplays, -⟩ := hfaithful.cells.of_getElem? href hcell
  have hposts := State.Posts.toggled hdisplays.made hread he
  have htoggled : (s.toggled ref).flag? ref = some (!book.isInWishlist) := by
    rw [State.flag?, State.read?_toggled, hread]
    rfl
  obtain ⟨v, hv, hlast⟩ := Machine.run_concat.mp hu
  have hend : Effect F v .addOrDeleteBookFromWishlist u := State.step_eq_ok.mp hlast
  obtain ⟨hvposts, hset, hunset⟩ := hposts.flag?_run hmid hv
  obtain ⟨flag, hflag⟩ := hvposts.exists_flag?
  have hholds := hvposts.holds_handled hflag hend
  have himage : cell.wishlistButton.image = none ↔ book.isInWishlist = false := by
    rw [hbutton]
    apply image_updateWishlistButtonUI_eq_none
  refine ⟨?_, ?_, ?_⟩
  · intro hnone
    rw [himage.mp hnone] at htoggled
    obtain rfl := Option.some.inj (hflag.symm.trans (hset htoggled))
    exact (hholds book.coverID).mpr (Or.inl ⟨rfl, rfl⟩)
  · intro hmark
    rw [Ne, himage, Bool.not_eq_false] at hmark
    rw [hmark] at htoggled
    rw [hholds, ← hunset htoggled, hflag]
    simp
  · intro c hc
    rw [hholds, or_iff_right, and_iff_right hc, State.holds_toggled]
    rintro ⟨he, -⟩
    apply hc he

/-- A book is removed while the response to another search comes. -/
theorem press_does_what_button_shows_dune :
  ∃ x u, ((viewed .onPlainText).run (launch Table.empty, .initial)
      [.screen (.searchBarTextDidChange "dune"), .beginRequest 1,
        .bookInfoResponse 0 (responseOf [document 7 "Dune"]),
        .coverResponse ⟨0, 0, bookCoverRequestURL 7⟩ (some [1]), .coversNotified 0,
        .screen .runMainBlock, .userPressedWishlistButton 0, .addOrDeleteBookFromWishlist,
        .screen .runMainBlock, .screen (.searchBarTextDidChange "emma"),
        .beginRequest 2] = .ok x ∧
    x.1.posting = none ∧ x.1.screen.mainQueue = [] ∧
    x.1.screen.cells[0]? = some (.detached 0) ∧
    (application .onPlainText).run x.1 (.userPressedWishlistButton 0 ::
      ([.bookInfoResponse 1 (responseOf [document 8 "Emma"])] ++
        [.addOrDeleteBookFromWishlist])) = .ok u) ∧
    ∀ cell book, x.2.cells[0]? = some cell → x.1.read? (.detached 0) = some book →
      (cell.wishlistButton.image = none → u.realm.Holds book.coverID) ∧
        (cell.wishlistButton.image ≠ none → (¬ u.realm.Holds book.coverID ↔
          (application .onPlainText).EveryStep State.LeavesPressed (x.1.toggled (.detached 0))
            [.bookInfoResponse 1 (responseOf [document 8 "Emma"])])) ∧
        ∀ c, c ≠ book.coverID → (u.realm.Holds c ↔ x.1.realm.Holds c)
  := by
  apply (exists_congr (fun x => exists_congr (fun u => and_iff_left_of_imp _))).mpr
  · exact ⟨_, _, rfl, rfl, rfl, rfl, rfl⟩
  · rintro ⟨s, views⟩ u ⟨h, hidle, hqueue, href, hu⟩ cell book hcell hread
    apply press_does_what_button_shows .onPlainText Table.empty _ s views h hidle hqueue 0 _ cell
      book href hcell hread _ _ u hu
    intro a ha
    obtain rfl := List.mem_singleton.mp ha
    intro he
    cases he

end OpenLibrary
