import OpenLibrary.Wishlist.Store

/-!
# The rows of the table

The table reads `bookResults` or `wishList` afresh for every row it is asked for, while its
rows are those of the last `reloadData`. They agree as long as the rows are the beginning of
what is read (`State.coherent_iff`). That is lost when rows are visible and `bookResults` is
emptied for a new search, the tab is changed, or a press deletes the record of one of them,
and at no other step (`State.KeepsRows`).
-/

namespace OpenLibrary

namespace State

/-- While the table is visible, asking for the book of any of its rows gives the book the row
shows. -/
def Coherent (s : State) : Prop :=
  s.screen.isHidden = false → ∀ (row : Nat) (book : BookRef),
    s.screen.cells[row]? = some book → s.requestBook row = .ok book

/-- The table is visible and has rows. -/
structure Showing (s : State) : Prop where
  visible : s.screen.isHidden = false
  rows : s.screen.cells ≠ []

/-- The step leaves what the visible rows are read from alone: rows showing, the tab is not
changed, no search begins in the search tab, and no press deletes the record of a row in the
other. -/
def KeepsRows (s : State) : Action → Prop
  | .screen (.userSelectedTab state) => state = s.screen.currentAppState ∨ ¬ s.Showing
  | .beginRequest _ =>
      s.userInfo = none ∨ s.screen.currentAppState = .wishlist ∨ ¬ s.Showing
  | .addOrDeleteBookFromWishlist =>
      s.screen.currentAppState = .wishlist → s.screen.isHidden = false →
        ∀ ref book, s.posting = some ref → s.read? ref = some book →
          book.isInWishlist = false → ∀ row b, .stored row ∈ s.screen.cells →
            s.realm.find? row = some b → b.coverID ≠ book.coverID
  | _ => True

variable {F : Foundation} {s t : State} {a : Action}

/-- The table is coherent when its rows, if visible, are the beginning of what is read. -/
theorem coherent_iff :
  s.Coherent ↔ (s.screen.isHidden = false → s.screen.cells <+: s.shownBooks)
  := by
  apply imp_congr_right
  intro _
  simp only [requestBook_eq_ok]
  rw [List.prefix_iff_getElem?]
  constructor
  · intro h row hrow
    apply h row _ (List.getElem?_eq_getElem hrow)
  · intro h row book hbook
    obtain ⟨hrow, rfl⟩ := List.getElem?_eq_some_iff.mp hbook
    apply h row hrow

/-- Appending to what is read keeps the table coherent. -/
theorem Coherent.of_prefix (h : s.Coherent) (hhidden : t.screen.isHidden = s.screen.isHidden)
    (hcells : t.screen.cells = s.screen.cells) (hbooks : s.shownBooks <+: t.shownBooks) :
  t.Coherent
  := by
  rw [coherent_iff, hhidden, hcells]
  intro hvisible
  apply (coherent_iff.mp h hvisible).trans hbooks

/-- The parts of a state `Coherent` speaks of. -/
theorem Coherent.congr (h : s.Coherent) (hhidden : t.screen.isHidden = s.screen.isHidden)
    (hcells : t.screen.cells = s.screen.cells) (hbooks : t.shownBooks = s.shownBooks) :
  t.Coherent
  := by
  apply h.of_prefix hhidden hcells
  use []
  rw [List.append_nil, hbooks]

/-- A table without visible rows is coherent. -/
theorem coherent_of_not_showing (h : ¬ s.Showing) :
  s.Coherent
  := by
  intro hvisible row book hbook
  apply absurd _ h
  use hvisible
  intro hnil
  rw [hnil] at hbook
  cases hbook

/-! ### Rows read from another list -/

/-- The first row of a coherent table is read from the list of the tab. -/
theorem mem_shownBooks_of_showing (h : s.Coherent) (hshowing : s.Showing) :
  ∃ ref ∈ s.screen.cells, ref ∈ s.shownBooks
  := by
  obtain ⟨ref, href⟩ := List.exists_mem_of_ne_nil s.screen.cells hshowing.rows
  use ref, href
  apply (coherent_iff.mp h hshowing.visible).subset href

/-- A table whose rows are read from the list of another tab is coherent exactly when it has no
visible rows. -/
theorem coherent_iff_of_tab_ne (h : s.Coherent)
    (htab : t.screen.currentAppState ≠ s.screen.currentAppState)
    (hhidden : t.screen.isHidden = s.screen.isHidden)
    (hcells : t.screen.cells = s.screen.cells) :
  t.Coherent ↔ ¬ s.Showing
  := by
  constructor
  · intro ht hshowing
    obtain ⟨ref, hcell, hshown⟩ := mem_shownBooks_of_showing h hshowing
    have hshown' : ref ∈ t.shownBooks := by
      apply (coherent_iff.mp ht _).subset
      · rw [hcells]
        apply hcell
      · rw [hhidden]
        apply hshowing.visible
    cases hs : s.screen.currentAppState with
    | bookSearch =>
        cases ht' : t.screen.currentAppState with
        | bookSearch => apply htab (ht'.trans hs.symm)
        | wishlist =>
            rw [shownBooks_of_bookSearch hs] at hshown
            rw [shownBooks_of_wishlist ht'] at hshown'
            obtain ⟨o, -, rfl⟩ := List.mem_map.mp hshown
            obtain ⟨row, -, he⟩ := List.mem_map.mp hshown'
            cases he
    | wishlist =>
        cases ht' : t.screen.currentAppState with
        | wishlist => apply htab (ht'.trans hs.symm)
        | bookSearch =>
            rw [shownBooks_of_wishlist hs] at hshown
            rw [shownBooks_of_bookSearch ht'] at hshown'
            obtain ⟨row, -, rfl⟩ := List.mem_map.mp hshown
            obtain ⟨o, -, he⟩ := List.mem_map.mp hshown'
            cases he
  · intro hshowing
    apply coherent_of_not_showing
    rintro ⟨hvisible, hrows⟩
    apply hshowing
    constructor
    · rw [← hhidden]
      apply hvisible
    · rw [← hcells]
      apply hrows

/-- A table whose list becomes empty is coherent exactly when it has no visible rows. -/
theorem coherent_iff_of_shownBooks_eq_nil (hbooks : t.shownBooks = [])
    (hhidden : t.screen.isHidden = s.screen.isHidden)
    (hcells : t.screen.cells = s.screen.cells) :
  t.Coherent ↔ ¬ s.Showing
  := by
  rw [coherent_iff, hbooks, List.prefix_nil, hhidden, hcells]
  constructor
  · rintro h ⟨hvisible, hrows⟩
    apply hrows (h hvisible)
  · intro h hvisible
    apply Classical.byContradiction
    intro hrows
    apply h ⟨hvisible, hrows⟩

/-! ### Rows read from a list that changes -/

/-- After the deletion of the records of a `coverID` the rows of the Wishlist tab are coherent
exactly when none of these records was among them. -/
theorem prefix_delete_iff {realm : Realm} {cells : List BookRef} {c : Int}
    (h : cells <+: realm.ids.map .stored) :
  cells <+: (Table.ids (realm.delete (fun b => b.coverID == c))).map .stored ↔
    ∀ row b, .stored row ∈ cells → realm.find? row = some b → b.coverID ≠ c
  := by
  obtain ⟨rows, hrows, rfl⟩ := List.prefix_map_iff.mp h
  constructor
  · intro hkept row b hrow hb
    obtain ⟨row', hrow', he⟩ := List.mem_map.mp (hkept.subset hrow)
    obtain rfl := BookRef.stored.inj he
    obtain ⟨b', hb', hc⟩ := Table.mem_ids_delete.mp hrow'
    rw [Table.eq_of_mem (Table.find?_eq_some.mp hb) hb']
    apply beq_eq_false_iff_ne.mp hc
  · intro hnone
    apply List.IsPrefix.map
    apply Table.prefix_ids_delete hrows
    intro row hrow b hb
    apply beq_eq_false_iff_ne.mpr
    apply hnone row b (List.mem_map_of_mem hrow) (Table.find?_eq_some.mpr hb)

/-- The handler of a press keeps the table coherent exactly when it deletes the record of no
visible row. -/
theorem coherent_wishlistUpdated_iff (hids : s.wishList = s.realm.ids) (h : s.Coherent)
    {ref : BookRef} {book : Book} (hposting : s.posting = some ref)
    (hread : s.read? ref = some book) :
  (s.wishlistUpdated book).Coherent ↔ s.KeepsRows .addOrDeleteBookFromWishlist
  := by
  obtain ⟨happ, hhidden, hcells, -⟩ := s.wishlistUpdated_frame book
  cases htab : s.screen.currentAppState with
  | bookSearch =>
      apply iff_of_true
      · apply h.congr hhidden hcells
        rw [shownBooks_of_bookSearch (happ.trans htab), shownBooks_of_bookSearch htab]
        rfl
      · intro he
        cases htab.symm.trans he
  | wishlist =>
      have hbooks : (s.wishlistUpdated book).shownBooks =
          (addOrDelete s.realm s.wishList book).2.map .stored :=
        shownBooks_of_wishlist (happ.trans htab)
      have hold := coherent_iff.mp h
      rw [shownBooks_of_wishlist htab, hids] at hold
      rw [coherent_iff, hhidden, hcells, hbooks, addOrDelete]
      cases hflag : book.isInWishlist with
      | true =>
          apply iff_of_true
          · intro hvisible
            apply (hold hvisible).trans
            rw [if_pos rfl]
            split
            · rw [Table.ids_insert]
              apply List.IsPrefix.map
              apply List.prefix_append
            · use []
              rw [List.append_nil, hids]
          · intro _ _ ref' book' hposting' hread' hflag'
            obtain rfl := Option.some.inj (hposting.symm.trans hposting')
            obtain rfl := Option.some.inj (hread.symm.trans hread')
            cases hflag.symm.trans hflag'
      | false =>
          rw [if_neg Bool.false_ne_true]
          constructor
          · intro hkept _ hvisible ref' book' hposting' hread' _
            obtain rfl := Option.some.inj (hposting.symm.trans hposting')
            obtain rfl := Option.some.inj (hread.symm.trans hread')
            apply (prefix_delete_iff (hold hvisible)).mp (hkept hvisible)
          · intro hkeeps hvisible
            apply (prefix_delete_iff (hold hvisible)).mpr
            apply hkeeps htab hvisible ref book hposting hread hflag

/-! ### Steps -/

/-- A tab change keeps the table coherent exactly when no rows are visible. -/
theorem coherent_changeAppState_iff (h : s.Coherent) (state : AppState) :
  { s with screen := s.changeAppState state, history := s.history ++ [] }.Coherent ↔
    s.KeepsRows (.screen (.userSelectedTab state))
  := by
  obtain ⟨happ, hhidden, hcells, -⟩ := s.changeAppState_frame state
  rcases eq_or_ne state s.screen.currentAppState with hsame | hne
  · apply iff_of_true _ (Or.inl hsame)
    apply h.congr hhidden hcells
    rw [shownBooks, shownBooks]
    dsimp only
    rw [happ, hsame]
  · apply Iff.trans (coherent_iff_of_tab_ne h _ hhidden hcells)
    · rw [KeepsRows, or_iff_right hne]
    · dsimp only
      rw [happ]
      apply hne

/-- A step of the screens keeps the table coherent exactly when it does not change the tab
with rows visible. -/
theorem coherent_screen_iff (h : s.Coherent) {action : ScreenAction} {screen : Screen}
    {events : List Event} (he : ScreenEffect s action screen events) :
  { s with screen := screen, history := s.history ++ events }.Coherent ↔
    s.KeepsRows (.screen action)
  := by
  cases he with
  | tab => apply coherent_changeAppState_iff h
  | @text searchText =>
      obtain ⟨happ, -, hhidden, -, hcells, -⟩ := s.requestBookSearch_frame searchText
      apply iff_of_true _ trivial
      apply h.congr hhidden hcells
      rw [shownBooks, shownBooks]
      dsimp only
      rw [happ]
  | mainArea =>
      apply iff_of_true _ trivial
      intro hvisible
      cases hvisible
  | bookList | previewCell =>
      apply iff_of_true _ trivial
      apply coherent_iff.mpr
      intro _
      apply List.prefix_refl
  | @cell row ref book hrow hbook hread =>
      apply iff_of_true _ trivial
      rw [hasRow, Bool.and_eq_true, Bool.not_eq_true', decide_eq_true_eq] at hrow
      have hcell : s.screen.cells[row] = ref := by
        have hold := h hrow.1 row _ (List.getElem?_eq_getElem hrow.2)
        rw [requestBook_eq_ok, hbook] at hold
        apply (Option.some.inj hold).symm
      apply h.congr
      · rfl
      · dsimp only
        rw [← hcell, List.set_getElem_self]
      · rfl
  | animation | popup | page | close => apply iff_of_true h trivial

/-- A step keeps the table coherent exactly when it leaves what the visible rows are read from
alone. -/
theorem coherent_step_iff (hids : s.wishList = s.realm.ids) (h : s.Coherent)
    (he : Effect F s a t) :
  t.Coherent ↔ s.KeepsRows a
  := by
  cases he with
  | screen hidle hscreen => apply coherent_screen_iff h (screenEffect_of_screenStep hscreen)
  | timer hidle htimer hinfo => apply iff_of_true h (Or.inl hinfo)
  | request hidle htimer hinfo =>
      have hsome : s.userInfo ≠ none := by
        rw [hinfo]
        intro hnone
        cases hnone
      rw [KeepsRows, or_iff_right hsome]
      cases htab : s.screen.currentAppState with
      | wishlist =>
          apply iff_of_true _ (Or.inl rfl)
          apply h.congr
          · rfl
          · rfl
          · rw [shownBooks_of_wishlist htab]
            apply shownBooks_of_wishlist
            apply htab
      | bookSearch =>
          rw [or_iff_right (by intro hne; cases hne)]
          apply coherent_iff_of_shownBooks_eq_nil
          · apply shownBooks_of_bookSearch
            apply htab
          · rfl
          · rfl
  | noResults | noCover | cover => apply iff_of_true h trivial
  | emptyResults | notified => apply iff_of_true h trivial
  | results =>
      apply iff_of_true _ trivial
      apply h.of_prefix
      · rw [screen_booksStructured]
        rfl
      · rw [screen_booksStructured]
        rfl
      · rw [shownBooks, shownBooks, screen_booksStructured, wishList_booksStructured,
          bookResults_booksStructured, List.map_append]
        cases htab : s.screen.currentAppState with
        | wishlist =>
            simp only [infoAnswered, htab]
            apply List.prefix_rfl
        | bookSearch =>
            simp only [infoAnswered, htab]
            apply List.prefix_append
  | @pressed _ ref book hidle hpress hread =>
      apply iff_of_true
      · apply h.congr
        · rw [screen_toggled]
        · rw [screen_toggled]
        · rw [shownBooks, screen_toggled, search_toggled, wishList_toggled]
          rfl
      · apply press_induction hpress
        · intro row
          trivial
        · trivial
  | updated hposting hread => apply coherent_wishlistUpdated_iff hids h hposting hread

end State

/-- In every run the table is coherent in every state of it exactly when every step of it leaves
what the visible rows are read from alone. -/
theorem table_coherent_iff (F : Foundation) (realm : Realm) (as : List Action) (s : State)
    (h : (application F).run (launch realm) as = .ok s) :
  (application F).EveryState State.Coherent (launch realm) as ↔
    (application F).EveryStep State.KeepsRows (launch realm) as
  := by
  apply Machine.everyState_iff_everyStep (I := fun s => s.wishList = s.realm.ids) _ _ rfl _ h
  · intro s a t hs ht
    apply State.wishList_step hs (State.storeEffect (State.step_eq_ok.mp ht))
  · intro s a t hids hs ht
    apply State.coherent_step_iff hids hs (State.step_eq_ok.mp ht)
  · intro hvisible
    cases hvisible

/-- A search is made, its book displayed, and the popup opened. -/
theorem table_coherent_iff_dune :
  ∃ s, (application .onPlainText).run (launch Table.empty)
      [.screen (.searchBarTextDidChange "dune"), .beginRequest 1,
        .bookInfoResponse 0 (responseOf [document 7 "Dune"]),
        .coverResponse ⟨0, 0, bookCoverRequestURL 7⟩ (some [1]), .coversNotified 0,
        .screen .runMainBlock, .screen (.cellForRowAt 0), .screen (.didSelectRowAt 0)] = .ok s ∧
    ((application .onPlainText).EveryState State.Coherent (launch Table.empty)
        [.screen (.searchBarTextDidChange "dune"), .beginRequest 1,
          .bookInfoResponse 0 (responseOf [document 7 "Dune"]),
          .coverResponse ⟨0, 0, bookCoverRequestURL 7⟩ (some [1]), .coversNotified 0,
          .screen .runMainBlock, .screen (.cellForRowAt 0), .screen (.didSelectRowAt 0)] ↔
      (application .onPlainText).EveryStep State.KeepsRows (launch Table.empty)
        [.screen (.searchBarTextDidChange "dune"), .beginRequest 1,
          .bookInfoResponse 0 (responseOf [document 7 "Dune"]),
          .coverResponse ⟨0, 0, bookCoverRequestURL 7⟩ (some [1]), .coversNotified 0,
          .screen .runMainBlock, .screen (.cellForRowAt 0), .screen (.didSelectRowAt 0)])
  := by
  refine ⟨_, rfl, ?_⟩
  apply table_coherent_iff .onPlainText Table.empty _ _ rfl

/-- A second search empties what the visible row is read from. -/
theorem row_without_book :
  ¬ ∀ (F : Foundation) (realm : Realm) (as : List Action) (s : State),
    (application F).run (launch realm) as = .ok s →
      (application F).EveryState State.Coherent (launch realm) as
  := by
  intro h
  have hcoherent := h .onPlainText Table.empty
    [.screen (.searchBarTextDidChange "dune"), .beginRequest 1,
      .bookInfoResponse 0 (responseOf [document 7 "Dune"]),
      .coverResponse ⟨0, 0, bookCoverRequestURL 7⟩ (some [1]), .coversNotified 0,
      .screen .runMainBlock, .screen (.searchBarTextDidChange "emma"), .beginRequest 2] _ rfl
  cases hcoherent _ [] _ (List.append_nil _).symm rfl rfl 0 (.detached 0) rfl

end OpenLibrary
