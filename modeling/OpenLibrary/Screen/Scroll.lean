import OpenLibrary.Model.Traps
import OpenLibrary.Wishlist.Store

/-!
# Scrolling the wishlist

The block that shows the table scrolls to its first row when the Wishlist tab is selected, and
the process does not survive that on an empty wishlist. Whether it will comes about at three
steps: a search is completed, the tab is selected, or a press empties the wishlist, each while a
block is queued, or is enqueued, and the other two conditions hold (`State.SparesScroll`).
-/

namespace OpenLibrary

namespace State

/-- The Wishlist tab is selected, and a block is queued that shows the table, on an empty
wishlist. -/
structure Stranded (s : State) : Prop where
  empty : s.getWishlistCount = 0
  queued : .updateBookList ∈ s.screen.mainQueue
  tab : s.screen.currentAppState = .wishlist

/-- The handler of the posted notification would leave the wishlist empty: the book is not
marked, and the store holds no other. -/
def EmptiesWishlist (s : State) : Prop :=
  ∃ ref book, s.posting = some ref ∧ s.read? ref = some book ∧ book.isInWishlist = false ∧
    ∀ c, s.realm.Holds c → c = book.coverID

/-- No search is completed with success while the Wishlist tab is selected and the wishlist
empty; and while a block is queued that shows the table, the Wishlist tab is not selected with an
empty wishlist, and no press empties the wishlist in it. -/
def SparesScroll (s : State) : Action → Prop
  | .coversNotified _ => s.screen.currentAppState = .wishlist → s.getWishlistCount ≠ 0
  | .screen (.userSelectedTab .wishlist) =>
      .updateBookList ∈ s.screen.mainQueue → s.getWishlistCount ≠ 0
  | .addOrDeleteBookFromWishlist =>
      .updateBookList ∈ s.screen.mainQueue → s.screen.currentAppState = .wishlist →
        ¬ s.EmptiesWishlist
  | _ => True

/-- A block that shows the table and runs now in the Wishlist tab finds a book in the
wishlist. -/
def ScrollsToRow (s : State) : Action → Prop
  | .screen .runMainBlock =>
      s.posting = none → s.screen.mainQueue.head? = some .updateBookList →
        s.screen.currentAppState = .wishlist → s.getWishlistCount ≠ 0
  | _ => True

theorem not_stranded_launch (realm : Realm) :
  ¬ (launch realm).Stranded
  := by
  intro h
  cases h.tab

variable {F : Foundation} {s t : State} {a : Action}

/-! ### The handler of a press -/

/-- A table without rows holds no record. -/
theorem ids_eq_nil_iff {realm : Realm} :
  realm.ids = [] ↔ ∀ c, ¬ realm.Holds c
  := by
  rw [Table.ids, List.map_eq_nil_iff, List.eq_nil_iff_forall_not_mem]
  constructor
  · rintro h c ⟨row, b, hb, -⟩
    apply h _ hb
  · rintro h ⟨row, b⟩ hb
    exact h b.coverID ⟨row, b, hb, rfl⟩

/-- The handler leaves the wishlist empty when the book is not marked and the store holds no
other. -/
theorem getWishlistCount_wishlistUpdated (h : s.wishList = s.realm.ids) {ref : BookRef}
    {book : Book} (hposting : s.posting = some ref) (hread : s.read? ref = some book) :
  (s.wishlistUpdated book).getWishlistCount = 0 ↔ s.EmptiesWishlist
  := by
  have hempties : s.EmptiesWishlist ↔ book.isInWishlist = false ∧
      ∀ c, s.realm.Holds c → c = book.coverID := by
    constructor
    · rintro ⟨ref', book', hposting', hread', hmark⟩
      obtain rfl := Option.some.inj (hposting.symm.trans hposting')
      obtain rfl := Option.some.inj (hread.symm.trans hread')
      apply hmark
    · intro hmark
      exact ⟨ref, book, hposting, hread, hmark⟩
  have hids := ids_addOrDelete h book
  change List.length (addOrDelete s.realm s.wishList book).2 = 0 ↔ _
  rw [hempties, hids, List.length_eq_zero_iff, ids_eq_nil_iff, addOrDelete]
  cases hmark : book.isInWishlist with
  | true =>
      rw [if_pos rfl]
      apply iff_of_false
      · intro hnone
        split at hnone
        · apply hnone (realmBook book).coverID
          exact Realm.holds_insert.mpr (Or.inr rfl)
        · next hcount => exact hnone _ (Realm.countCover_ne_zero.mp hcount)
      · rintro ⟨⟨⟩, -⟩
  | false =>
      rw [if_neg Bool.false_ne_true, and_iff_right rfl]
      apply forall_congr'
      intro c
      rw [Realm.holds_delete, not_and, Classical.not_not]

/-! ### Steps -/

/-- The parts of a state `Stranded` speaks of. -/
theorem Stranded.congr (h : t.Stranded)
    (htab : t.screen.currentAppState = s.screen.currentAppState)
    (hqueue : .updateBookList ∈ t.screen.mainQueue → .updateBookList ∈ s.screen.mainQueue)
    (hwishList : t.wishList = s.wishList) :
  s.Stranded
  := by
  constructor
  · rw [getWishlistCount, ← hwishList]
    apply h.empty
  · apply hqueue h.queued
  · rw [← htab]
    apply h.tab

/-- Selecting a tab strands the block when it is the Wishlist tab, a block is queued and the
wishlist is empty. -/
theorem stranded_changeAppState_iff (h : ¬ s.Stranded) (state : AppState) :
  { s with screen := s.changeAppState state }.Stranded ↔
    ¬ s.SparesScroll (.screen (.userSelectedTab state))
  := by
  have hspares : ∀ hstate : state = .wishlist,
      ¬ s.SparesScroll (.screen (.userSelectedTab state)) ↔
        .updateBookList ∈ s.screen.mainQueue ∧ s.getWishlistCount = 0 := by
    rintro rfl
    rw [SparesScroll, Classical.not_imp, Ne, Classical.not_not]
  rw [changeAppState]
  split
  · next hsame =>
      apply iff_of_false h
      rw [Classical.not_not]
      cases state with
      | bookSearch => trivial
      | wishlist =>
          intro hqueued hempty
          apply h
          exact ⟨hempty, hqueued, hsame.symm⟩
  · cases state with
    | bookSearch =>
        apply iff_of_false
        · intro hstranded
          cases hstranded.tab
        · apply not_not_intro trivial
    | wishlist =>
        rw [hspares rfl]
        dsimp only
        split
        · next hempty =>
            rw [and_iff_left hempty]
            constructor
            · intro hstranded
              apply (List.mem_append.mp hstranded.queued).resolve_right
              simp
            · intro hqueued
              exact ⟨hempty, List.mem_append_left _ hqueued, rfl⟩
        · next hempty =>
            apply iff_of_false
            · intro hstranded
              apply hempty hstranded.empty
            · rintro ⟨-, he⟩
              apply hempty he

/-- No other action of the screens strands a block. -/
theorem not_stranded_screen (h : ¬ s.Stranded) {action : ScreenAction} {screen : Screen}
    {events : List Event} (he : ScreenEffect s action screen events)
    (htab : ∀ state, action ≠ .userSelectedTab state) :
  ¬ { s with screen := screen, history := s.history ++ events }.Stranded
  := by
  intro hstranded
  apply h
  cases he with
  | @tab state => apply absurd rfl (htab state)
  | @text searchText =>
      obtain ⟨happ, hqueue, -⟩ := s.requestBookSearch_frame searchText
      apply hstranded.congr
      · apply happ
      · intro hqueued
        rw [← hqueue]
        apply hqueued
      · rfl
  | mainArea hqueue | bookList hqueue | previewCell hqueue =>
      apply hstranded.congr
      · rfl
      · intro hqueued
        rw [hqueue]
        apply List.mem_cons_of_mem _ hqueued
      · rfl
  | animation | cell | popup | page | close =>
      apply hstranded.congr
      · rfl
      · apply id
      · rfl

/-- A step strands a block exactly when it does not spare the scrolling. -/
theorem stranded_iff (h : ¬ s.Stranded) (hwishList : s.wishList = s.realm.ids)
    (he : Effect F s a t) :
  t.Stranded ↔ ¬ s.SparesScroll a
  := by
  cases he with
  | @screen action screen events hidle hscreen =>
      cases screenEffect_of_screenStep hscreen with
      | @tab state =>
          rw [← stranded_changeAppState_iff h state]
          constructor
          · intro hstranded
            apply hstranded.congr
            · rfl
            · apply id
            · rfl
          · intro hstranded
            apply hstranded.congr
            · rfl
            · apply id
            · rfl
      | text | animation | mainArea | bookList | previewCell | cell | popup | page | close =>
          apply iff_of_false
          · apply not_stranded_screen h (screenEffect_of_screenStep hscreen)
            intro state hstate
            cases hstate
          · apply not_not_intro trivial
  | timer | request | noResults | noCover | cover =>
      apply iff_of_false
      · intro hstranded
        apply h
        apply hstranded.congr
        · rfl
        · apply id
        · rfl
      · apply not_not_intro trivial
  | emptyResults =>
      apply iff_of_false
      · intro hstranded
        apply h
        apply hstranded.congr
        · rfl
        · intro hqueued
          apply (List.mem_append.mp hqueued).resolve_right
          simp
        · rfl
      · apply not_not_intro trivial
  | results =>
      apply iff_of_false
      · intro hstranded
        apply h
        apply hstranded.congr
        · rw [screen_booksStructured]
          rfl
        · rw [screen_booksStructured]
          apply id
        · apply wishList_booksStructured
      · apply not_not_intro trivial
  | notified =>
      rw [SparesScroll, Classical.not_imp, Ne, Classical.not_not]
      constructor
      · intro hstranded
        exact ⟨hstranded.tab, hstranded.empty⟩
      · rintro ⟨htab, hempty⟩
        exact ⟨hempty, List.mem_append_right _ List.mem_cons_self, htab⟩
  | @pressed _ ref book hidle hpress hread =>
      apply iff_of_false
      · intro hstranded
        apply h
        apply hstranded.congr
        · rw [screen_toggled]
        · rw [screen_toggled]
          apply id
        · apply wishList_toggled
      · apply press_induction hpress
        · intro row
          apply not_not_intro trivial
        · apply not_not_intro trivial
  | @updated ref book hposting hread =>
      have hempties := getWishlistCount_wishlistUpdated hwishList hposting hread
      obtain ⟨happ, -⟩ := s.wishlistUpdated_frame book
      rw [SparesScroll, Classical.not_imp, Classical.not_imp, Classical.not_not, ← hempties]
      constructor
      · intro hstranded
        have htab : s.screen.currentAppState = .wishlist := happ ▸ hstranded.tab
        have hqueued := hstranded.queued
        rw [screen_wishlistUpdated, if_pos ⟨htab, hstranded.empty⟩] at hqueued
        refine ⟨?_, htab, hstranded.empty⟩
        apply (List.mem_append.mp hqueued).resolve_right
        simp
      · rintro ⟨hqueued, htab, hempty⟩
        refine ⟨hempty, ?_, happ ▸ htab⟩
        rw [screen_wishlistUpdated, if_pos ⟨htab, hempty⟩]
        apply List.mem_append_left _ hqueued

/-! ### The main queue -/

/-- With no block stranded, the one that runs now does not scroll an empty table. -/
theorem scrollsToRow_of_not_stranded (h : ¬ s.Stranded) (a : Action) :
  s.ScrollsToRow a
  := by
  cases a with
  | screen action =>
      cases action with
      | runMainBlock =>
          intro _ hhead htab hempty
          apply h
          exact ⟨hempty, List.mem_of_mem_head? hhead, htab⟩
      | _ => trivial
  | _ => trivial

/-- With no block stranded, no step scrolls an empty table. -/
theorem step_ne_scrollToRow (h : ¬ s.Stranded) (a : Action) :
  s.step F a ≠ .error (.trap .scrollToRow)
  := by
  intro htrap
  have he : TrapEffect F s a .scrollToRow := step_eq_trap.mp htrap
  cases he with
  | scroll hidle hqueue htab hempty =>
      apply h
      rw [shownBooks_of_wishlist htab] at hempty
      refine ⟨?_, ?_, htab⟩
      · apply List.length_eq_zero_iff.mpr (List.map_eq_nil_iff.mp hempty)
      · rw [hqueue]
        apply List.mem_cons_self

/-- Where a block is stranded, no book is shown. -/
theorem Stranded.shownBooks (h : s.Stranded) :
  s.shownBooks = []
  := by
  rw [shownBooks_of_wishlist h.tab, List.map_eq_nil_iff]
  apply List.length_eq_zero_iff.mp h.empty

/-- The block before a stranded one runs, and leaves it stranded. -/
theorem Stranded.runMainBlock (h : s.Stranded) (hidle : s.posting = none) {block : Block}
    {rest : List Block} (hqueue : s.screen.mainQueue = block :: rest)
    (hblock : block ≠ .updateBookList) :
  ∃ t, s.step F (.screen .runMainBlock) = .ok t ∧ t.Stranded ∧ t.posting = none ∧
    t.screen.mainQueue = rest
  := by
  have hqueued : .updateBookList ∈ rest := by
    have hqueued := h.queued
    rw [hqueue] at hqueued
    apply (List.mem_cons.mp hqueued).resolve_left hblock.symm
  cases block with
  | updateBookList => cases hblock rfl
  | updateMainArea image message =>
      have hscreen : s.screenStep .runMainBlock =
          .ok (updateMainAreaBlock { s.screen with mainQueue := rest } image message, []) := by
        rw [screenStep, State.runMainBlock, hqueue]
      refine ⟨_, step_eq_ok.mpr (Effect.screen hidle hscreen), ?_, hidle, rfl⟩
      exact ⟨h.empty, hqueued, h.tab⟩
  | updatePreviewCell i =>
      have hscreen : s.screenStep .runMainBlock =
          .ok ({ s.screen with mainQueue := rest, cells := [] }, []) := by
        rw [screenStep, State.runMainBlock, hqueue]
        simp only [reloadData, h.shownBooks]
        rfl
      refine ⟨_, step_eq_ok.mpr (Effect.screen hidle hscreen), ?_, hidle, rfl⟩
      exact ⟨h.empty, hqueued, h.tab⟩

/-- When the blocks queued run, a stranded one scrolls an empty table. -/
theorem Stranded.traps (h : s.Stranded) (hidle : s.posting = none) :
  ∃ n, (application F).run s (List.replicate n (.screen .runMainBlock)) =
    .error (.trap .scrollToRow)
  := by
  generalize hqueue : s.screen.mainQueue = queue
  induction queue generalizing s with
  | nil =>
      have hqueued := h.queued
      rw [hqueue] at hqueued
      cases hqueued
  | cons block rest ih =>
      rcases eq_or_ne block .updateBookList with rfl | hblock
      · use 1
        have htrap : s.step F (.screen .runMainBlock) = .error (.trap .scrollToRow) :=
          step_eq_trap.mpr (TrapEffect.scroll hidle hqueue h.tab h.shownBooks)
        apply Machine.run_cons_of_error htrap
      · obtain ⟨t, ht, hstranded, hidle, hrest⟩ :=
          h.runMainBlock (F := F) hidle hqueue hblock
        obtain ⟨n, hn⟩ := ih hstranded hidle hrest
        use n + 1
        rw [List.replicate_succ, ← hn]
        apply Machine.run_cons_of_ok ht

/-- Where no block is stranded and each step spares the scrolling, none is stranded after the
run. -/
theorem not_stranded_of_run {as : List Action} (h : ¬ s.Stranded)
    (hwishList : s.wishList = s.realm.ids) (hspares : (application F).EveryStep SparesScroll s as)
    (hrun : (application F).run s as = .ok t) :
  ¬ t.Stranded
  := by
  apply And.left (b := t.wishList = t.realm.ids)
  apply Machine.invariant_of_everyStep
    (P := fun t => ¬ t.Stranded ∧ t.wishList = t.realm.ids) _ ⟨h, hwishList⟩ hrun hspares
  rintro s a t ⟨hs, hwishList⟩ ha ht
  have he : Effect F s a t := step_eq_ok.mp ht
  constructor
  · intro hstranded
    apply (stranded_iff hs hwishList he).mp hstranded ha
  · apply wishList_step hwishList (storeEffect he)

end State

/-- In every run whose steps spare the scrolling, each block that shows the table in the
Wishlist tab finds a book in the wishlist, and the process never scrolls an empty table; and when
one step more leaves no notification being posted, running the blocks queued scrolls none either
exactly when that step spares the scrolling. -/
theorem scrolls_to_row_iff (F : Foundation) (realm : Realm) (as : List Action)
    (hspares : (application F).EveryStep State.SparesScroll (launch realm) as) :
  (application F).EveryStep State.ScrollsToRow (launch realm) as ∧
    (application F).run (launch realm) as ≠ .error (.trap .scrollToRow) ∧
    ∀ s a t, (application F).run (launch realm) as = .ok s → (application F).step s a = .ok t →
      t.posting = none →
      ((∀ n, (application F).run t (List.replicate n (.screen .runMainBlock)) ≠
        .error (.trap .scrollToRow)) ↔ s.SparesScroll a)
  := by
  have hclear : ∀ {pre post s}, as = pre ++ post →
      (application F).run (launch realm) pre = .ok s → ¬ s.Stranded := by
    rintro pre post s rfl hs
    apply State.not_stranded_of_run (State.not_stranded_launch realm) rfl _ hs
    apply Machine.everyStep_of_append hspares
  refine ⟨?_, ?_, ?_⟩
  · intro pre a post s he hs
    apply State.scrollsToRow_of_not_stranded (hclear he hs)
  · apply Machine.run_ne_error_iff.mpr
    intro pre a post s he hs
    apply State.step_ne_scrollToRow (hclear he hs)
  · intro s a t hs ht hidle
    have he : Effect F s a t := State.step_eq_ok.mp ht
    have hnot := hclear (List.append_nil as).symm hs
    have hwishList : s.wishList = s.realm.ids := by
      apply Machine.invariant (P := fun s => s.wishList = s.realm.ids) _ rfl hs
      intro s a t hwishList ht
      apply State.wishList_step hwishList (State.storeEffect (State.step_eq_ok.mp ht))
    rw [← Classical.not_not (a := s.SparesScroll a), ← State.stranded_iff hnot hwishList he]
    constructor
    · intro hruns hstranded
      obtain ⟨n, hn⟩ := hstranded.traps (F := F) hidle
      apply hruns n hn
    · intro hstranded n
      apply Machine.run_ne_error_iff.mpr
      intro pre b post u hb hu
      apply State.step_ne_scrollToRow
      have hdrain : (application F).EveryStep State.SparesScroll t
          (List.replicate n (.screen .runMainBlock)) :=
        Machine.everyStep_replicate (fun _ => trivial) n
      rw [hb] at hdrain
      apply State.not_stranded_of_run hstranded _ (Machine.everyStep_of_append hdrain) hu
      apply State.wishList_step hwishList (State.storeEffect he)

/-- A search is completed in the Wishlist tab, on a store with a record, and the tab left and
selected again while its block is queued. -/
theorem scrolls_to_row_iff_dune :
  (application .onPlainText).EveryStep State.ScrollsToRow
      (launch (Table.empty.insert { coverID := 7, title := "Dune", isInWishlist := true }))
      [.screen (.searchBarTextDidChange "emma"), .beginRequest 1,
        .screen (.userSelectedTab .wishlist),
        .bookInfoResponse 0 (responseOf [document 8 "Emma"]),
        .coverResponse ⟨0, 0, bookCoverRequestURL 8⟩ (some [1]), .coversNotified 0,
        .screen (.userSelectedTab .bookSearch), .screen (.userSelectedTab .wishlist),
        .screen .runMainBlock, .screen .runMainBlock, .screen .runMainBlock,
        .screen .runMainBlock] ∧
    (application .onPlainText).run
      (launch (Table.empty.insert { coverID := 7, title := "Dune", isInWishlist := true }))
      [.screen (.searchBarTextDidChange "emma"), .beginRequest 1,
        .screen (.userSelectedTab .wishlist),
        .bookInfoResponse 0 (responseOf [document 8 "Emma"]),
        .coverResponse ⟨0, 0, bookCoverRequestURL 8⟩ (some [1]), .coversNotified 0,
        .screen (.userSelectedTab .bookSearch), .screen (.userSelectedTab .wishlist),
        .screen .runMainBlock, .screen .runMainBlock, .screen .runMainBlock,
        .screen .runMainBlock] ≠ .error (.trap .scrollToRow)
  := by
  refine and_assoc.mpr (scrolls_to_row_iff .onPlainText _ _ ?_) |>.1
  iterate 2 refine (Machine.everyStep_cons (by exact rfl)).mpr ⟨trivial, ?_⟩
  refine (Machine.everyStep_cons (by exact rfl)).mpr ⟨fun _ => by decide, ?_⟩
  iterate 2 refine (Machine.everyStep_cons (by exact rfl)).mpr ⟨trivial, ?_⟩
  refine (Machine.everyStep_cons (by exact rfl)).mpr ⟨fun _ => by decide, ?_⟩
  refine (Machine.everyStep_cons (by exact rfl)).mpr ⟨trivial, ?_⟩
  refine (Machine.everyStep_cons (by exact rfl)).mpr ⟨fun _ => by decide, ?_⟩
  iterate 4 refine (Machine.everyStep_cons (by exact rfl)).mpr ⟨trivial, ?_⟩
  apply Machine.everyStep_nil

/-- A search begun in the search tab, and completed after a change to the Wishlist tab, scrolls
the empty wishlist. -/
theorem empty_wishlist_scrolled :
  ¬ ∀ (F : Foundation) (realm : Realm) (as : List Action),
    (application F).EveryStep State.ScrollsToRow (launch realm) as ∧
      (application F).run (launch realm) as ≠ .error (.trap .scrollToRow)
  := by
  intro h
  apply (h .onPlainText Table.empty
    [.screen (.searchBarTextDidChange "dune"), .beginRequest 1,
      .screen (.userSelectedTab .wishlist), .screen .runMainBlock,
      .bookInfoResponse 0 (responseOf [document 7 "Dune"]),
      .coverResponse ⟨0, 0, bookCoverRequestURL 7⟩ (some [1]), .coversNotified 0,
      .screen .runMainBlock]).2
  rfl

end OpenLibrary
