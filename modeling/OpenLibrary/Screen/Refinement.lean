import OpenLibrary.Screen.Display
import OpenLibrary.Screen.Sequential
import OpenLibrary.Screen.Shelf
import OpenLibrary.Search.Covers

/-!
# The application as a shelf

Used sequentially, and with nothing on the main screen touched while the popup covers it
(`State.Attended`), the application is a shelf: what the user does and what the network answers
turn the shelf a state leads to (`State.ahead`) into the one the next state leads to
(`State.ahead_step`), and at rest the user sees that shelf. What holds of shelves then holds of the
application, such as that a second press undoes the first (`second_press_undoes`).
-/

namespace OpenLibrary

/-! ### The shelf of a state -/

namespace Screen

/-- The message in the main area, if there is one instead of the table. -/
def announced (screen : Screen) : Option (String × String) :=
  if screen.isHidden then some (screen.imageMessage, screen.message) else none

/-- The message in the main area after a block of the main queue. -/
def drawn (message : Option (String × String)) : Block → Option (String × String)
  | .updateMainArea imageMessage message => some (imageMessage.rawValue, message.rawValue)
  | .updateBookList => none
  | .updatePreviewCell _ => message

/-- The message in the main area once the main queue is empty. -/
def outcome (screen : Screen) : Option (String × String) :=
  screen.mainQueue.foldl drawn screen.announced

/-- A block enqueued has the last word. -/
theorem outcome_enqueued (screen : Screen) (block : Block) :
  { screen with mainQueue := screen.mainQueue ++ [block] }.outcome = drawn screen.outcome block
  := by
  rw [outcome, List.foldl_append]
  rfl

theorem outcome_of_mainQueue_eq_nil {screen : Screen} (h : screen.mainQueue = []) :
  screen.outcome = screen.announced
  := by
  rw [outcome, h]
  rfl

end Screen

namespace State

/-- The shelf of a state, once the blocks of the main queue have run. -/
def shelf (s : State) : Shelf where
  tab := s.screen.currentAppState
  found := s.results
  wishlist := s.realm.values
  message := s.screen.outcome

/-- The state once the notification being posted is handled, or the covers being fetched are all
there. -/
def settled (s : State) : State :=
  match s.posting.bind s.read? with
  | some book => s.wishlistUpdated book
  | none =>
      match s.search.notifies with
      | [] => s
      | r :: _ => s.determineWishlistBooks.complete r true

/-- The shelf a state leads to. -/
def ahead (s : State) : Shelf :=
  s.settled.shelf

/-- What the user does with an action, or the network answers. -/
def uses (s : State) : Action → List Use
  | .screen (.userSelectedTab state) => [.select state]
  | .beginRequest _ => if s.userInfo.isSome then [.search] else []
  | .bookInfoResponse _ data => (data.bookResultsJSON?.map Use.answer).toList
  | .coverResponse task (some imageData) =>
      [.cover (s.search.bookResults.idxOf task.book) imageData]
  | .userPressedWishlistButton row => [.press row]
  | .notifyWishlistOfUpdate =>
      (s.screen.details.map (fun details => Use.press details.bookBeingDisplayedIndex)).toList
  | _ => []

/-! ### Attended use -/

end State

/-- The user does the action on the main screen, which the popup covers. -/
def Action.onMainScreen : Action → Bool
  | .screen (.userSelectedTab _) => true
  | .screen (.searchBarTextDidChange _) => true
  | .userPressedWishlistButton _ => true
  | _ => false

namespace State

/-- The step waits for those before it, and is on the screen that is in front. -/
def Attended (F : Foundation) (s : State) (a : Action) : Prop :=
  s.Sequential F a ∧ (a.onMainScreen → s.screen.details = none)

/-- While the popup is open, no search begins, no other book is pressed, and its book is in the row
it was opened from, unless it was deleted. -/
structure Fronted (s : State) (details : BookDetails) : Prop where
  timers : s.screen.scheduledTimers = []
  infoTasks : s.search.infoTasks = []
  posting : ∀ ref, s.posting = some ref → ref = details.bookBeingDesplayed
  row : s.read? details.bookBeingDesplayed ≠ none →
    s.shownBooks[details.bookBeingDisplayedIndex]? = some details.bookBeingDesplayed

variable {F : Foundation} {s t : State} {a : Action}

namespace Fronted

variable {details : BookDetails}

/-- Steps that change no list of books keep the popup in front. -/
theorem congr (h : s.Fronted details) (htimers : t.screen.scheduledTimers = [])
    (hinfo : t.search.infoTasks = s.search.infoTasks) (hposting : t.posting = s.posting)
    (hread : t.read? details.bookBeingDesplayed ≠ none →
      s.read? details.bookBeingDesplayed ≠ none)
    (hshown : t.shownBooks = s.shownBooks) :
  t.Fronted details
  := by
  constructor
  · apply htimers
  · rw [hinfo, h.infoTasks]
  · rw [hposting]
    apply h.posting
  · intro hsome
    rw [hshown]
    apply h.row (hread hsome)

/-- A book stays in its row when its press is handled, or is deleted. -/
theorem wishlistUpdated (h : s.Fronted details) {book : Book}
    (hread : s.read? details.bookBeingDesplayed = some book) :
  (s.wishlistUpdated book).Fronted details
  := by
  obtain ⟨htab, -, -, -⟩ := s.wishlistUpdated_frame book
  have hrow := h.row (by rw [hread]; apply Option.some_ne_none)
  constructor
  · obtain ⟨block, hscreen⟩ := s.wishlistUpdated_enqueues book
    rw [hscreen]
    apply h.timers
  · apply h.infoTasks
  · intro ref hnone
    cases hnone
  · intro hsome
    cases hstate : s.screen.currentAppState with
    | bookSearch =>
        rw [shownBooks_of_bookSearch (htab.trans hstate)]
        rw [shownBooks_of_bookSearch hstate] at hrow
        apply hrow
    | wishlist =>
        rw [shownBooks_of_wishlist hstate] at hrow
        rw [shownBooks_of_wishlist (htab.trans hstate), ← hrow]
        obtain ⟨row, -, href⟩ := List.mem_map.mp (List.mem_of_getElem? hrow)
        have hkept : (addOrDelete s.realm s.wishList book).2 = s.wishList := by
          rw [← href] at hread hsome
          rw [addOrDelete]
          split
          · next hmarked =>
              rw [if_neg]
              apply Realm.countCover_ne_zero.mpr
              exact ⟨row, book, Table.find?_eq_some.mp hread, rfl⟩
          · next hunmarked =>
              apply absurd _ hsome
              change (addOrDelete s.realm s.wishList book).1.find? row = none
              rw [addOrDelete, if_neg hunmarked]
              change Table.find? (s.realm.delete _) row = none
              rw [Table.find?_delete, show s.realm.find? row = some book from hread]
              simp
        change ((addOrDelete s.realm s.wishList book).2.map BookRef.stored)[_]? = _
        rw [hkept]

end Fronted

/-- What the popup stands for, step by step. -/
theorem fronted_step (h : ∀ details, s.screen.details = some details → s.Fronted details)
    (ha : s.Attended F a) (he : Effect F s a t) :
  ∀ details, t.screen.details = some details → t.Fronted details
  := by
  intro details hdetails
  cases he with
  | screen hidle hscreen =>
      cases screenEffect_of_screenStep hscreen with
      | @tab state =>
          obtain ⟨-, -, -, hsame⟩ := s.changeAppState_frame state
          cases (ha.2 rfl).symm.trans (hsame.symm.trans hdetails)
      | @text searchText =>
          obtain ⟨-, -, -, -, -, hsame⟩ := s.requestBookSearch_frame searchText
          cases (ha.2 rfl).symm.trans (hsame.symm.trans hdetails)
      | animation | mainArea | bookList | previewCell | cell =>
          have hfronted := h details hdetails
          apply hfronted.congr
          · apply hfronted.timers
          · rfl
          · rfl
          · apply id
          · rfl
      | popup hrow hnone hbook =>
          obtain rfl := Option.some.inj hdetails
          have hrest : s.AtRest := ha.1.1
          constructor
          · apply hrest.scheduledTimers
          · apply hrest.infoTasks
          · intro ref hposting
            cases hidle.symm.trans hposting
          · intro _
            apply hbook
      | page hold =>
          obtain rfl := Option.some.inj hdetails
          have hfronted := h _ hold
          exact ⟨hfronted.timers, hfronted.infoTasks, hfronted.posting, hfronted.row⟩
      | close => cases hdetails
  | timer _ htimer | request _ htimer =>
      apply absurd htimer (not_fires (h details hdetails).timers)
  | noResults hr | emptyResults hr =>
      rw [(h details hdetails).infoTasks] at hr
      cases hr
  | results hr =>
      rw [screen_booksStructured] at hdetails
      rw [(h details hdetails).infoTasks] at hr
      cases hr
  | noCover | cover | notified =>
      have hfronted := h details hdetails
      apply hfronted.congr
      · apply hfronted.timers
      · rfl
      · rfl
      · cases details.bookBeingDesplayed with
        | detached o =>
            intro _
            apply Option.some_ne_none
        | stored row => apply id
      · rfl
  | @pressed a ref book hidle hpress hread =>
      rw [screen_toggled] at hdetails
      have hfronted := h details hdetails
      have href : ref = details.bookBeingDesplayed := by
        cases a with
        | userPressedWishlistButton row => cases (ha.2 rfl).symm.trans hdetails
        | notifyWishlistOfUpdate =>
            rw [pressedBook, hdetails] at hpress
            apply (Option.some.inj hpress).symm
        | _ => cases hpress
      constructor
      · rw [screen_toggled]
        apply hfronted.timers
      · rw [search_toggled]
        apply hfronted.infoTasks
      · rw [posting_toggled, href]
        intro ref' hposting
        apply (Option.some.inj hposting).symm
      · intro _
        rw [shownBooks, screen_toggled, search_toggled, wishList_toggled]
        apply hfronted.row
        rw [← href, hread]
        apply Option.some_ne_none
  | @updated ref book hposting hread =>
      obtain ⟨-, -, -, hsame⟩ := s.wishlistUpdated_frame book
      have hfronted := h details (hsame.symm.trans hdetails)
      obtain rfl := hfronted.posting ref hposting
      apply hfronted.wishlistUpdated hread

/-! ### The shelf a state leads to -/

theorem countCover_eq_zero_iff {realm : Realm} {c : Int} :
  realm.countCover c = 0 ↔ Shelf.wished realm.values c = false
  := by
  rw [Realm.countCover, Table.count_eq_countP_values, List.countP_eq_zero, Shelf.wished,
    List.any_eq_false]

/-- `determineWishlistBooks` marks the results whose `coverID` is wished for. -/
theorem results_determineWishlistBooks (s : State) :
  s.determineWishlistBooks.results = s.results.map (Shelf.marked s.realm.values)
  := by
  rw [results, results, List.map_map]
  apply List.map_congr_left
  intro o ho
  apply Eq.trans (book_foldl_determineWishlistBook _ _ _ o)
  rw [Function.comp_apply, Shelf.marked]
  apply if_congr _ rfl rfl
  rw [Ne, countCover_eq_zero_iff, Bool.not_eq_false]
  apply and_iff_right ho

theorem ahead_of_idle (hidle : s.posting = none) (hnotifies : s.search.notifies = []) :
  s.ahead = s.shelf
  := by
  rw [ahead, settled, hidle, Option.bind_none, hnotifies]

theorem ahead_of_posting {ref : BookRef} {book : Book} (hposting : s.posting = some ref)
    (hread : s.read? ref = some book) :
  s.ahead = (s.wishlistUpdated book).shelf
  := by
  rw [ahead, settled, hposting, Option.bind_some, hread]

theorem ahead_of_fetching (hidle : s.posting = none) {r : Nat} {rest : List Nat}
    (hnotifies : s.search.notifies = r :: rest) :
  s.ahead =
    { tab := s.screen.currentAppState
      found := s.results.map (Shelf.marked s.realm.values)
      wishlist := s.realm.values
      message := none }
  := by
  rw [ahead, settled, hidle, Option.bind_none, hnotifies]
  dsimp only
  rw [← results_determineWishlistBooks]
  apply congrArg (Shelf.mk _ _ _)
  apply s.screen.outcome_enqueued .updateBookList

/-- Steps that leave books, tab and message alone lead to the same shelf. -/
theorem ahead_congr (hidle : s.posting = none) (hposting : t.posting = none)
    (hnotifies : t.search.notifies = s.search.notifies) (hresults : t.results = s.results)
    (hrealm : t.realm = s.realm) (htab : t.screen.currentAppState = s.screen.currentAppState)
    (houtcome : t.screen.outcome = s.screen.outcome) :
  t.ahead = s.ahead
  := by
  cases hs : s.search.notifies with
  | nil =>
      rw [ahead_of_idle hidle hs, ahead_of_idle hposting (hnotifies.trans hs), shelf, shelf,
        hresults, hrealm, htab, houtcome]
  | cons r rest =>
      rw [ahead_of_fetching hidle hs, ahead_of_fetching hposting (hnotifies.trans hs), hresults,
        hrealm, htab]

/-- The message in place of the rows of the wishlist, by their number. -/
theorem wishlistMessage_values (hids : s.wishList = s.realm.ids) :
  Shelf.wishlistMessage s.realm.values =
    if s.getWishlistCount = 0 then
      some (ImageMessage.searchForBooks.rawValue, Message.searchForBooksToAddToWishlist.rawValue)
    else
      none
  := by
  rw [Shelf.wishlistMessage]
  apply if_congr _ rfl rfl
  rw [List.isEmpty_iff, Table.values_eq_nil, getWishlistCount, hids, List.length_eq_zero_iff]

/-- The user selects a tab. -/
theorem shelf_changeAppState (hids : s.wishList = s.realm.ids)
    (state : AppState) (events : List Event) :
  { s with screen := s.changeAppState state, history := s.history ++ events }.shelf =
    s.shelf.select state
  := by
  unfold changeAppState Shelf.select
  by_cases hsame : state = s.screen.currentAppState
  · rw [if_pos hsame, if_pos (show state = s.shelf.tab from hsame)]
    rfl
  · rw [if_neg hsame, if_neg (show state ≠ s.shelf.tab from hsame)]
    cases state with
    | bookSearch =>
        apply congrArg (Shelf.mk _ _ _)
        apply Screen.outcome_enqueued
    | wishlist =>
        have hmessage := wishlistMessage_values hids
        dsimp only
        split
        · next hcount =>
            apply congrArg (Shelf.mk _ _ _)
            rw [if_pos hcount] at hmessage
            apply Eq.trans _ hmessage.symm
            apply Screen.outcome_enqueued
        · next hcount =>
            apply congrArg (Shelf.mk _ _ _)
            rw [if_neg hcount] at hmessage
            apply Eq.trans _ hmessage.symm
            apply Screen.outcome_enqueued

/-- The store after the handler of a press. -/
theorem values_addOrDelete (realm : Realm) (wishList : List Nat) (book : Book) :
  (addOrDelete realm wishList book).1.values = Shelf.wish realm.values book
  := by
  rw [addOrDelete, Shelf.wish]
  split
  · split
    · next hcount =>
        rw [countCover_eq_zero_iff.mp hcount, if_neg Bool.false_ne_true]
        apply Table.values_insert
    · next hcount =>
        rw [countCover_eq_zero_iff, Bool.not_eq_false] at hcount
        rw [if_pos hcount]
  · apply Table.values_delete

/-- The message after the handler of a press. -/
theorem outcome_wishlistUpdated (hids : s.wishList = s.realm.ids) (book : Book) :
  (s.wishlistUpdated book).screen.outcome =
    match s.screen.currentAppState with
    | .bookSearch => none
    | .wishlist => Shelf.wishlistMessage (Shelf.wish s.realm.values book)
  := by
  have hmessage := wishlistMessage_values (s := s.wishlistUpdated book) (ids_addOrDelete hids book)
  change Shelf.wishlistMessage (addOrDelete s.realm s.wishList book).1.values = _ at hmessage
  rw [values_addOrDelete] at hmessage
  rw [screen_wishlistUpdated, hmessage]
  cases s.screen.currentAppState with
  | bookSearch =>
      rw [if_neg (by rintro ⟨he, -⟩; cases he)]
      apply Screen.outcome_enqueued
  | wishlist =>
      simp only [true_and]
      split
      · apply Screen.outcome_enqueued
      · apply Screen.outcome_enqueued

/-- The first transaction of a press leaves the identifiers of the records as they are. -/
theorem ids_toggled (s : State) (ref : BookRef) :
  (s.toggled ref).realm.ids = s.realm.ids
  := by
  cases ref with
  | detached o => rfl
  | stored row => apply Table.ids_modify

/-- The user presses the button of a row. -/
theorem shelf_wishlistUpdated_toggled (hids : s.wishList = s.realm.ids)
    (hnodup : s.search.bookResults.Nodup) {row : Nat} {ref : BookRef} {book : Book}
    (hshown : s.shownBooks[row]? = some ref) (hread : s.read? ref = some book) :
  ((s.toggled ref).wishlistUpdated book.toggle).shelf = s.shelf.press row
  := by
  have hids' : (s.toggled ref).wishList = (s.toggled ref).realm.ids := by
    rw [wishList_toggled, ids_toggled, hids]
  have houtcome := outcome_wishlistUpdated hids' book.toggle
  have hwish := values_addOrDelete (s.toggled ref).realm (s.toggled ref).wishList book.toggle
  have htab := ((s.toggled ref).wishlistUpdated_frame book.toggle).1
  rw [screen_toggled] at houtcome htab
  unfold Shelf.press
  cases hstate : s.screen.currentAppState with
  | bookSearch =>
      rw [hstate] at houtcome
      rw [shownBooks_of_bookSearch hstate, List.getElem?_map] at hshown
      obtain ⟨o, ho, rfl⟩ := Option.map_eq_some_iff.mp hshown
      obtain rfl := Option.some.inj hread
      have hfound : s.shelf.found[row]? = some (s.objects.book o) := by
        apply Eq.trans List.getElem?_map
        rw [ho]
        rfl
      rw [show s.shelf.tab = .bookSearch from hstate]
      dsimp only
      rw [hfound]
      dsimp only
      apply Shelf.ext
      · apply htab.trans hstate
      · dsimp only
        rw [← List.idxOf_of_getElem? hnodup ho]
        apply List.map_update_eq_modify hnodup
      · apply hwish
      · apply houtcome
  | wishlist =>
      rw [hstate] at houtcome
      rw [shownBooks_of_wishlist hstate, List.getElem?_map] at hshown
      obtain ⟨i, hi, rfl⟩ := Option.map_eq_some_iff.mp hshown
      rw [hids] at hi
      have hkept : s.shelf.wishlist[row]? = some book := Table.getElem?_values hi hread
      have hvalues := Table.values_modify hi Book.toggle
      rw [show s.shelf.tab = .wishlist from hstate]
      dsimp only
      rw [hkept]
      dsimp only
      apply Shelf.ext
      · apply htab.trans hstate
      · rfl
      · apply hwish.trans (congrArg (Shelf.wish · book.toggle) hvalues)
      · apply houtcome.trans
        apply congrArg (fun values => Shelf.wishlistMessage (Shelf.wish values book.toggle)) hvalues

/-- The books structured from a response become the results. -/
theorem results_booksStructured (hresults : s.search.bookResults = []) (r : Nat)
    (newBooks : List Book) :
  (s.booksStructured r newBooks).results = newBooks
  := by
  rw [results, bookResults_booksStructured, hresults, List.nil_append, objects_booksStructured,
    newResults]
  apply List.ext_getElem
  · rw [List.length_map, List.length_range']
  · intro i hi hi'
    rw [List.getElem_map, List.getElem_range', Nat.one_mul]
    apply Objects.book_allocAll_add hi'

/-- The cover of a result arrives. -/
theorem results_coverReceived (hnodup : s.search.bookResults.Nodup) (task : CoverTask)
    (imageData : Data) :
  ((s.coverAnswered task).coverReceived task imageData).results =
    s.results.modify (s.search.bookResults.idxOf task.book)
      (fun book => { book with coverData := imageData })
  := by
  apply List.map_update_eq_modify hnodup s.objects.book task.book
    (fun book => { book with coverData := imageData })

theorem marked_cover (wishlist : List Book) (book : Book) (imageData : Data) :
  Shelf.marked wishlist { book with coverData := imageData } =
    { Shelf.marked wishlist book with coverData := imageData }
  := by
  rw [Shelf.marked, Shelf.marked]
  split
  · rfl
  · rfl

/-- A step of the screens turns the shelf the state leads to into the one the next leads to. -/
theorem ahead_screen (hstage : s.Stage) (hids : s.wishList = s.realm.ids) (hidle : s.posting = none)
    {action : ScreenAction} {screen : Screen} {events : List Event}
    (hseq : s.Sequential F (.screen action)) (he : ScreenEffect s action screen events) :
  { s with screen := screen, history := s.history ++ events }.ahead =
    (s.uses (.screen action)).foldl Shelf.step s.ahead
  := by
  have hquiet : screen.currentAppState = s.screen.currentAppState →
      screen.outcome = s.screen.outcome →
      { s with screen := screen, history := s.history ++ events }.ahead = s.ahead := by
    intro htab houtcome
    apply ahead_congr hidle
    · apply hidle
    · rfl
    · rfl
    · rfl
    · apply htab
    · apply houtcome
  cases he with
  | @tab state =>
      have hnotifies := (hstage.quiet_of_ready hseq.1.toReady).pends.notifies
      rw [ahead_of_idle hidle hnotifies]
      apply Eq.trans (ahead_of_idle (s := { s with
        screen := s.changeAppState state, history := s.history ++ [] }) hidle hnotifies)
      apply shelf_changeAppState hids
  | @text searchText =>
      apply hquiet (s.requestBookSearch_frame searchText).1
      rw [requestBookSearch]
      split
      · rfl
      · rfl
  | animation | cell | popup | page | close => apply hquiet rfl rfl
  | mainArea hqueue | bookList hqueue | previewCell hqueue =>
      apply hquiet rfl
      rw [Screen.outcome, Screen.outcome, hqueue]
      rfl

/-- A press is one of the button of the row of its book. -/
theorem uses_of_press (hquiet : s.Quiet)
    (hfronted : ∀ details, s.screen.details = some details → s.Fronted details) {ref : BookRef}
    {book : Book} (hpress : s.pressedBook a = some ref) (hread : s.read? ref = some book) :
  ∃ row, s.uses a = [.press row] ∧ s.shownBooks[row]? = some ref
  := by
  cases a with
  | userPressedWishlistButton row =>
      rw [pressedBook] at hpress
      split at hpress
      · cases hpress
      · next hvisible =>
          rw [hquiet.rows (Bool.not_eq_true _ ▸ hvisible)] at hpress
          use row, rfl, hpress
  | notifyWishlistOfUpdate =>
      obtain ⟨details, hdetails, rfl⟩ := Option.map_eq_some_iff.mp hpress
      use details.bookBeingDisplayedIndex
      constructor
      · rw [uses, hdetails]
        rfl
      · apply (hfronted details hdetails).row
        rw [hread]
        apply Option.some_ne_none
  | _ => cases hpress

/-- A step turns the shelf the state leads to into the one the next leads to, as the user and the
network do. -/
theorem ahead_step (hstage : s.Stage) (hids : s.wishList = s.realm.ids)
    (hnodup : s.search.bookResults.Nodup)
    (hfronted : ∀ details, s.screen.details = some details → s.Fronted details)
    (ha : s.Attended F a) (he : Effect F s a t) :
  t.ahead = (s.uses a).foldl Shelf.step s.ahead
  := by
  cases he with
  | screen hidle hscreen =>
      apply ahead_screen hstage hids hidle ha.1 (screenEffect_of_screenStep hscreen)
  | @timer timer hidle htimer hinfo =>
      rw [uses, hinfo]
      apply ahead_congr (t := s.timerFired timer) hidle hidle rfl rfl rfl rfl rfl
  | @request timer bookQuery hidle htimer hinfo =>
      have hnotifies := (hstage.quiet_of_fires htimer).pends.notifies
      rw [uses, hinfo, ahead_of_idle hidle hnotifies]
      apply Eq.trans (ahead_of_idle (s := (s.timerFired timer).requested) hidle hnotifies)
      rfl
  | noResults hr hdata =>
      obtain ⟨docs, newBooks, hdocs, -⟩ := ha.1
      cases hdata.symm.trans hdocs
  | @emptyResults r data hr hdata =>
      obtain ⟨hpends, hresults, -, -, -⟩ := hstage.searching_of_mem hr
      rw [uses, hdata, ahead_of_idle hpends.posting hpends.notifies]
      apply Eq.trans (ahead_of_idle (s := (s.infoAnswered r).complete r false) hpends.posting
        hpends.notifies)
      apply Shelf.ext
      · rfl
      · apply Eq.trans (congrArg (List.map s.objects.book) hresults)
        rfl
      · rfl
      · apply Screen.outcome_enqueued
  | @results r data docs newBooks hr hdata hdocs hbooks =>
      have hsearching := hstage.searching_of_mem hr
      have hpends := hsearching.pends
      have hfetching := hsearching.pends_booksStructured newBooks
      rw [uses, hdata, ahead_of_idle hpends.posting hpends.notifies,
        ahead_of_fetching hfetching.posting hfetching.notifies,
        results_booksStructured (s := s.infoAnswered r) hsearching.bookResults,
        realm_booksStructured, screen_booksStructured]
      apply Shelf.ext
      · rfl
      · change _ = ((structureBooks docs).getD []).map (Shelf.marked s.realm.values)
        rw [hbooks]
        rfl
      · rfl
      · change none = if docs.isEmpty then _ else none
        rw [if_neg]
        rw [List.isEmpty_iff]
        apply hdocs
  | noCover => apply absurd rfl ha.1
  | @cover task imageData htask =>
      obtain ⟨r, hpends, -, -, -, -⟩ := hstage.fetching_of_task htask
      rw [uses, ahead_of_fetching hpends.posting hpends.notifies]
      apply Eq.trans (ahead_of_fetching (s := (s.coverAnswered task).coverReceived task imageData)
        hpends.posting hpends.notifies)
      apply Shelf.ext
      · rfl
      · dsimp only
        rw [results_coverReceived hnodup]
        apply List.map_modify
        intro book
        apply marked_cover
      · rfl
      · rfl
  | @notified r hr hgroup =>
      have hpends := (hstage.fetching_of_mem hr).pends
      have hnotifies : s.search.notifies.erase r = [] := by
        rw [hpends.notifies, List.erase_cons_head]
      apply Eq.trans (ahead_of_idle (s := (s.notifyTaken r).determineWishlistBooks.complete r true)
        hpends.posting hnotifies)
      apply Eq.trans _ (ahead_of_fetching hpends.posting hpends.notifies).symm
      apply Shelf.ext
      · rfl
      · apply results_determineWishlistBooks (s.notifyTaken r)
      · rfl
      · apply s.screen.outcome_enqueued .updateBookList
  | @pressed a ref book hidle hpress hread =>
      have hquiet := hstage.quiet_of_ready (ha.1.ready_of_press hpress)
      obtain ⟨row, huses, hshown⟩ := uses_of_press hquiet hfronted hpress hread
      have htoggled : (s.toggled ref).read? ref = some book.toggle := by
        rw [read?_toggled, hread]
        rfl
      rw [huses, ahead_of_idle hidle hquiet.pends.notifies,
        ahead_of_posting (s.posting_toggled ref) htoggled]
      apply shelf_wishlistUpdated_toggled hids hnodup hshown hread
  | @updated ref book hposting hread =>
      have hpends := (hstage.pressing_of_posting hposting).pends
      apply Eq.trans (ahead_of_idle (s := s.wishlistUpdated book) rfl hpends.notifies)
      apply (ahead_of_posting hposting hread).symm

/-! ### What the user sees -/

/-- Each cell of the table displays its book as it is now. -/
def Mirrored (s : State) (views : Views) : Prop :=
  views.cells.map some = (s.screen.cells.map s.read?).map (Option.map BookPreviewCellView.setup)

/-- A table made anew displays its books. -/
theorem mirrored_reloadData (hread : s.readable s.shownBooks) {views : Views} :
  (Views.reloadData s views).cells.map some =
    (s.shownBooks.map s.read?).map (Option.map BookPreviewCellView.setup)
  := by
  rw [List.map_map]
  apply List.map_some_filterMap
  intro ref href
  rw [Option.isSome_map]
  apply List.all_eq_true.mp hread ref href

/-- A step of the screens keeps the cells of a visible table in step with their books. -/
theorem mirrored_screen {action : ScreenAction} {screen : Screen} {events : List Event}
    {views : Views} (he : ScreenEffect s action screen events)
    (hqueue : screen.mainQueue = []) (hvisible : screen.isHidden = false)
    (h : s.screen.mainQueue = [] → s.screen.isHidden = false → s.Mirrored views) :
  Mirrored { s with screen := screen, history := s.history ++ events }
    (Views.next s views (.screen action))
  := by
  cases he with
  | @tab state =>
      by_cases hsame : state = s.screen.currentAppState
      · have hscreen : s.changeAppState state = s.screen := by
          rw [changeAppState, if_pos hsame]
        rw [hscreen] at hqueue hvisible ⊢
        rw [Views.next, if_pos hsame]
        apply h hqueue hvisible
      · obtain ⟨block, hblock⟩ := changeAppState_enqueues hsame
        rw [hblock] at hqueue
        cases (List.append_eq_nil_iff.mp hqueue).2
  | @text searchText =>
      obtain ⟨-, hsame, hhidden, -, hcells, -⟩ := s.requestBookSearch_frame searchText
      apply Eq.trans (h (hsame.symm.trans hqueue) (hhidden.symm.trans hvisible))
      dsimp only
      rw [hcells]
      rfl
  | animation | close => apply h hqueue hvisible
  | mainArea => cases hvisible
  | bookList hq hread | previewCell hq hread =>
      rw [Views.next, hq]
      apply mirrored_reloadData hread
  | @cell row ref book hrow hbook hread =>
      rw [Views.next, Views.cellForRowAt, hbook, Option.bind_some, hread]
      dsimp only [Mirrored]
      rw [List.map_set, List.map_set, List.map_set, h hqueue hvisible]
      apply congrArg (List.set _ row)
      apply (congrArg (Option.map BookPreviewCellView.setup) hread).symm
  | @popup row ref book hrow hdetails hbook hread =>
      rw [Views.next, Views.presentBookDetailPopup, hbook, Option.bind_some, hread]
      apply h hqueue hvisible
  | @page page details book hdetails hpage hread =>
      rw [Views.next, Views.cellForItemAt, hdetails, Option.bind_some, hread]
      apply h hqueue hvisible

/-- In the quiet stage the cells of a visible table stay in step with their books. -/
theorem mirrored_step (hstage : s.Stage) {views : Views} (hseq : s.Sequential F a)
    (he : Effect F s a t) (hpends : t.Pends none [] [] []) (hvisible : t.screen.isHidden = false)
    (h : s.Pends none [] [] [] → s.screen.isHidden = false → s.Mirrored views) :
  t.Mirrored (Views.next s views a)
  := by
  cases he with
  | screen hidle hscreen =>
      apply mirrored_screen (screenEffect_of_screenStep hscreen) hpends.mainQueue hvisible
      intro hqueue
      apply h ⟨hidle, hpends.infoTasks, hpends.notifies, hqueue⟩
  | timer hidle =>
      apply h ⟨hidle, hpends.infoTasks, hpends.notifies, hpends.mainQueue⟩ hvisible
  | request => cases (List.append_eq_nil_iff.mp hpends.infoTasks).2
  | noResults hr hdata =>
      obtain ⟨docs, newBooks, hdocs, -⟩ := hseq
      cases hdata.symm.trans hdocs
  | emptyResults | notified => cases (List.append_eq_nil_iff.mp hpends.mainQueue).2
  | results =>
      have hnotifies := hpends.notifies
      rw [notifies_booksStructured] at hnotifies
      cases (List.append_eq_nil_iff.mp hnotifies).2
  | noCover htask | cover htask =>
      obtain ⟨r, hfetching⟩ := hstage.fetching_of_task htask
      cases hpends.notifies.symm.trans hfetching.pends.notifies
  | pressed =>
      have hposting := hpends.posting
      rw [posting_toggled] at hposting
      cases hposting
  | @updated ref book =>
      obtain ⟨block, hscreen⟩ := s.wishlistUpdated_enqueues book
      have hqueue := hpends.mainQueue
      rw [hscreen] at hqueue
      cases (List.append_eq_nil_iff.mp hqueue).2

/-- The books of the rows, read. -/
theorem map_read?_shownBooks (hids : s.wishList = s.realm.ids) :
  s.shownBooks.map s.read? = s.shelf.rows.map some
  := by
  rw [Shelf.rows]
  cases hstate : s.screen.currentAppState with
  | bookSearch =>
      rw [shownBooks_of_bookSearch hstate, show s.shelf.tab = .bookSearch from hstate]
      dsimp only
      rw [List.map_map, shelf, results, List.map_map]
      rfl
  | wishlist =>
      rw [shownBooks_of_wishlist hstate, show s.shelf.tab = .wishlist from hstate, hids]
      dsimp only
      rw [List.map_map, Table.ids, List.map_map]
      apply Eq.trans _ (List.map_map).symm
      apply List.map_congr_left
      rintro ⟨row, book⟩ hrow
      apply Table.find?_eq_some.mpr hrow

/-- What the user sees of a state: the side of the indicator, and the main area. -/
def seen (s : State) (views : Views) : Direction × MainArea :=
  (views.topBar,
    if s.screen.isHidden then
      .message s.screen.imageMessage s.screen.message
    else
      .bookList views.cells)

/-- In the quiet stage the user sees the shelf. -/
theorem seen_of_quiet (h : s.Quiet) (hids : s.wishList = s.realm.ids) {views : Views}
    (htop : views.topBar = s.screen.currentAppState.direction)
    (hmirrored : s.screen.isHidden = false → s.Mirrored views) :
  s.seen views = s.shelf.seen
  := by
  rw [seen, Shelf.seen, htop]
  apply congrArg (Prod.mk _)
  have hmessage : s.shelf.message = s.screen.announced :=
    Screen.outcome_of_mainQueue_eq_nil h.pends.mainQueue
  rw [hmessage, Screen.announced]
  cases hhidden : s.screen.isHidden with
  | true => rfl
  | false =>
      have hcells := hmirrored hhidden
      rw [Mirrored, h.rows hhidden, map_read?_shownBooks hids, List.map_map] at hcells
      have hrows : views.cells = s.shelf.rows.map BookPreviewCellView.setup := by
        apply List.map_injective_iff.mpr (Option.some_injective _)
        rw [hcells, List.map_map]
        rfl
      rw [hrows]
      rfl

end State

/-! ### Runs -/

/-- The application with what it displays, and what the user and the network have done. -/
def observed (F : Foundation) : Machine ((State × Views) × List Use) Action Fault :=
  (viewed F).withLog (fun x a => x.1.uses a)

/-- A state reflects what the user and the network have done since a process started on a store. -/
structure Reflects (realm : Realm) (s : State) (views : Views) (uses : List Use) : Prop where
  ahead : s.ahead = uses.foldl Shelf.step (.initial realm)
  fronted : ∀ details, s.screen.details = some details → s.Fronted details
  mirrored : s.Pends none [] [] [] → s.screen.isHidden = false → s.Mirrored views

theorem reflects_launch (realm : Realm) :
  Reflects realm (launch realm) .initial []
  := by
  constructor
  · rfl
  · intro details hdetails
    cases hdetails
  · intro _ hvisible
    cases hvisible

/-- Every attended run leads to a state that reflects it. -/
theorem reflects_of_run {F : Foundation} {realm : Realm} {as : List Action}
    {x : (State × Views) × List Use}
    (h : (observed F).run ((launch realm, .initial), []) as = .ok x)
    (hattended : (application F).EveryStep (State.Attended F) (launch realm) as) :
  Reflects realm x.1.1 x.1.2 x.2
  := by
  revert hattended
  apply Machine.traced (M := observed F)
    (P := fun as x => (application F).EveryStep (State.Attended F) (launch realm) as →
      Reflects realm x.1.1 x.1.2 x.2) _ _ h
  · intro _
    apply reflects_launch
  · rintro as ⟨⟨s, views⟩, uses⟩ a ⟨⟨t, views'⟩, uses'⟩ hx ih hy hattended
    obtain ⟨hviewed, rfl⟩ := Machine.step_withLog.mp hy
    obtain ⟨hstep, rfl⟩ := Machine.step_withHistory.mp hviewed
    have hs : (application F).run (launch realm) as = .ok s :=
      (Machine.run_withHistory _).mpr ⟨_, (Machine.run_withLog _).mpr ⟨_, hx⟩⟩
    obtain ⟨hbefore, ha⟩ := (Machine.everyStep_concat hs).mp hattended
    have hold := ih hbefore
    have hstage : s.Stage := State.stage_of_run hs (hbefore.imp (fun _ _ h => h.1))
    have he : Effect F s a t := State.step_eq_ok.mp hstep
    constructor
    · rw [List.foldl_append, ← hold.ahead]
      apply State.ahead_step hstage (State.Tracked.of_run hs).wishList (Covers.of_run hs).nodup
        hold.fronted ha he
    · apply State.fronted_step hold.fronted ha he
    · intro hpends hvisible
      apply State.mirrored_step hstage ha.1 he hpends hvisible hold.mirrored

/-- In attended use a state at rest has the shelf that what the user and the network have done
makes. -/
theorem shelf_of_run {F : Foundation} {realm : Realm} {as : List Action}
    {x : (State × Views) × List Use}
    (h : (observed F).run ((launch realm, .initial), []) as = .ok x)
    (hattended : (application F).EveryStep (State.Attended F) (launch realm) as)
    (hrest : x.1.1.AtRest) :
  x.1.1.shelf = x.2.foldl Shelf.step (.initial realm)
  := by
  obtain ⟨⟨s, views⟩, uses⟩ := x
  have hviewed : (viewed F).run (launch realm, .initial) as = .ok (s, views) :=
    (Machine.run_withLog _).mpr ⟨_, h⟩
  have hs : (application F).run (launch realm) as = .ok s :=
    (Machine.run_withHistory _).mpr ⟨_, hviewed⟩
  have hstage : s.Stage := State.stage_of_run hs (hattended.imp (fun _ _ h => h.1))
  have hquiet := hstage.quiet_of_ready hrest.toReady
  rw [← (reflects_of_run h hattended).ahead,
    State.ahead_of_idle hrest.posting hquiet.pends.notifies]

/-- In attended use the application is a shelf: what the user and the network have done, one after
the other, makes of the shelf at first the one the state leads to, and at rest that is the shelf
of the state, and what the user sees. -/
theorem attended_use_is_a_shelf (F : Foundation) (realm : Realm) (as : List Action)
    (x : (State × Views) × List Use)
    (h : (observed F).run ((launch realm, .initial), []) as = .ok x)
    (hattended : (application F).EveryStep (State.Attended F) (launch realm) as) :
  x.1.1.ahead = x.2.foldl Shelf.step (.initial realm) ∧
    (x.1.1.AtRest → x.1.1.shelf = x.2.foldl Shelf.step (.initial realm) ∧
      x.1.1.seen x.1.2 = (x.2.foldl Shelf.step (.initial realm)).seen)
  := by
  obtain ⟨⟨s, views⟩, uses⟩ := x
  have hreflects := reflects_of_run h hattended
  have hviewed : (viewed F).run (launch realm, .initial) as = .ok (s, views) :=
    (Machine.run_withLog _).mpr ⟨_, h⟩
  have hs : (application F).run (launch realm) as = .ok s :=
    (Machine.run_withHistory _).mpr ⟨_, hviewed⟩
  have hstage : s.Stage := State.stage_of_run hs (hattended.imp (fun _ _ h => h.1))
  use hreflects.ahead
  intro hrest
  have hquiet := hstage.quiet_of_ready hrest.toReady
  have hshelf : s.shelf = uses.foldl Shelf.step (.initial realm) := shelf_of_run h hattended hrest
  use hshelf
  rw [← hshelf]
  apply State.seen_of_quiet hquiet (State.Tracked.of_run hs).wishList
    (faithful_and_fresh_of_run hviewed).1.topBar
  apply hreflects.mirrored hquiet.pends

/-- A book is searched for and added from its popup, and the Wishlist tab selected. -/
theorem attended_use_is_a_shelf_dune :
  ∃ x, ((observed .onPlainText).run ((launch Table.empty, .initial), [])
      [.screen (.searchBarTextDidChange "dune"), .beginRequest 1,
        .bookInfoResponse 0 (responseOf [document 7 "Dune"]),
        .coverResponse ⟨0, 0, bookCoverRequestURL 7⟩ (some [1]), .coversNotified 0,
        .screen .runMainBlock, .screen (.didSelectRowAt 0), .notifyWishlistOfUpdate,
        .addOrDeleteBookFromWishlist, .screen .runMainBlock, .screen .userPressedCloseButton,
        .screen (.userSelectedTab .wishlist), .screen .topBarAnimationCompleted,
        .screen .runMainBlock] = .ok x ∧
    (application .onPlainText).EveryStep (State.Attended .onPlainText) (launch Table.empty)
      [.screen (.searchBarTextDidChange "dune"), .beginRequest 1,
        .bookInfoResponse 0 (responseOf [document 7 "Dune"]),
        .coverResponse ⟨0, 0, bookCoverRequestURL 7⟩ (some [1]), .coversNotified 0,
        .screen .runMainBlock, .screen (.didSelectRowAt 0), .notifyWishlistOfUpdate,
        .addOrDeleteBookFromWishlist, .screen .runMainBlock, .screen .userPressedCloseButton,
        .screen (.userSelectedTab .wishlist), .screen .topBarAnimationCompleted,
        .screen .runMainBlock]) ∧
    (x.1.1.ahead = x.2.foldl Shelf.step (.initial Table.empty) ∧
      (x.1.1.AtRest → x.1.1.shelf = x.2.foldl Shelf.step (.initial Table.empty) ∧
        x.1.1.seen x.1.2 = (x.2.foldl Shelf.step (.initial Table.empty)).seen))
  := by
  apply (exists_congr (fun x => and_iff_left_of_imp _)).mpr
  · refine ⟨_, rfl, ?_⟩
    refine (Machine.everyStep_cons (by exact rfl)).mpr ⟨⟨?_, fun _ => rfl⟩, ?_⟩
    · exact ⟨(State.atRest_of_nil rfl rfl rfl rfl rfl rfl rfl).toReady, rfl⟩
    refine (Machine.everyStep_cons (by exact rfl)).mpr ⟨⟨fun _ _ => rfl, nofun⟩, ?_⟩
    refine (Machine.everyStep_cons (by exact rfl)).mpr ⟨⟨⟨_, _, rfl, rfl⟩, nofun⟩, ?_⟩
    refine (Machine.everyStep_cons (by exact rfl)).mpr ⟨⟨Option.some_ne_none _, nofun⟩, ?_⟩
    iterate 2 refine (Machine.everyStep_cons (by exact rfl)).mpr ⟨⟨trivial, nofun⟩, ?_⟩
    refine (Machine.everyStep_cons (by exact rfl)).mpr ⟨⟨⟨?_, ?_⟩, nofun⟩, ?_⟩
    · apply State.atRest_of_nil rfl rfl rfl rfl rfl rfl rfl
    · rintro ref ⟨⟩
    refine (Machine.everyStep_cons (by exact rfl)).mpr ⟨⟨⟨?_, ?_⟩, nofun⟩, ?_⟩
    · apply State.atRest_of_nil rfl rfl rfl rfl rfl rfl rfl
    · rintro ref ⟨⟩
      apply Option.some_ne_none
    iterate 2 refine (Machine.everyStep_cons (by exact rfl)).mpr ⟨⟨trivial, nofun⟩, ?_⟩
    refine (Machine.everyStep_cons (by exact rfl)).mpr ⟨⟨⟨?_, ?_⟩, nofun⟩, ?_⟩
    · apply State.atRest_of_nil rfl rfl rfl rfl rfl rfl rfl
    · rintro ref ⟨⟩
    refine (Machine.everyStep_cons (by exact rfl)).mpr ⟨⟨⟨?_, ?_⟩, fun _ => rfl⟩, ?_⟩
    · apply State.atRest_of_nil rfl rfl rfl rfl rfl rfl rfl
    · rintro ref ⟨⟩
    iterate 2 refine (Machine.everyStep_cons (by exact rfl)).mpr ⟨⟨trivial, nofun⟩, ?_⟩
    apply Machine.everyStep_nil
  · rintro x ⟨h, hattended⟩
    apply attended_use_is_a_shelf .onPlainText Table.empty _ x h hattended

/-- In attended use, when a book found that is neither marked nor in the store has its button
pressed twice from a state at rest on, the next state at rest has the results and the books in the
store that the state had, in the same order. -/
theorem second_press_undoes (F : Foundation) (realm : Realm) (as bs : List Action)
    (x y : (State × Views) × List Use)
    (h : (observed F).run ((launch realm, .initial), []) as = .ok x)
    (h' : (observed F).run x bs = .ok y)
    (hattended : (application F).EveryStep (State.Attended F) (launch realm) (as ++ bs))
    (hx : x.1.1.AtRest) (hy : y.1.1.AtRest) (row : Nat)
    (huses : y.2 = x.2 ++ [.press row, .press row])
    (htab : x.1.1.screen.currentAppState = .bookSearch) (book : Book)
    (hbook : x.1.1.results[row]? = some book) (hflag : book.isInWishlist = false)
    (hheld : ¬ x.1.1.realm.Holds book.coverID) :
  y.1.1.results = x.1.1.results ∧ y.1.1.realm.values = x.1.1.realm.values
  := by
  have hbefore := shelf_of_run h (Machine.everyStep_of_append hattended) hx
  have hafter := shelf_of_run (Machine.run_append.mpr ⟨x, h, h'⟩) hattended hy
  have hwished : Shelf.wished x.1.1.shelf.wishlist book.coverID = false :=
    State.countCover_eq_zero_iff.mp (Realm.countCover_eq_zero.mpr hheld)
  have hshelf : y.1.1.shelf = { x.1.1.shelf with message := none } := by
    rw [hafter, huses, List.foldl_append, ← hbefore]
    apply Shelf.press_press htab hbook hflag hwished
  constructor
  · apply congrArg Shelf.found hshelf
  · apply congrArg Shelf.wishlist hshelf

/-- A book is added and given up from its row. -/
theorem second_press_undoes_dune :
  ∃ x y, ((observed .onPlainText).run ((launch Table.empty, .initial), [])
      [.screen (.searchBarTextDidChange "dune"), .beginRequest 1,
        .bookInfoResponse 0 (responseOf [document 7 "Dune"]),
        .coverResponse ⟨0, 0, bookCoverRequestURL 7⟩ (some [1]), .coversNotified 0,
        .screen .runMainBlock] = .ok x ∧
    (observed .onPlainText).run x
      [.userPressedWishlistButton 0, .addOrDeleteBookFromWishlist, .screen .runMainBlock,
        .userPressedWishlistButton 0, .addOrDeleteBookFromWishlist,
        .screen .runMainBlock] = .ok y) ∧
    y.1.1.results = x.1.1.results ∧ y.1.1.realm.values = x.1.1.realm.values
  := by
  refine ⟨_, _, ⟨rfl, rfl⟩, ?_⟩
  apply second_press_undoes .onPlainText Table.empty
    [.screen (.searchBarTextDidChange "dune"), .beginRequest 1,
      .bookInfoResponse 0 (responseOf [document 7 "Dune"]),
      .coverResponse ⟨0, 0, bookCoverRequestURL 7⟩ (some [1]), .coversNotified 0,
      .screen .runMainBlock]
    [.userPressedWishlistButton 0, .addOrDeleteBookFromWishlist, .screen .runMainBlock,
      .userPressedWishlistButton 0, .addOrDeleteBookFromWishlist, .screen .runMainBlock]
    _ _ rfl rfl _ _ _ 0 rfl rfl
    { coverID := 7, coverData := [1], title := "Dune", authorName := "Frank Herbert",
      firstPublishYear := 1965, publisher := "Multiple", editionCount := 120 }
  · decide
  · rfl
  · apply Realm.countCover_eq_zero.mp
    rfl
  · refine (Machine.everyStep_cons (by exact rfl)).mpr ⟨⟨?_, fun _ => rfl⟩, ?_⟩
    · exact ⟨(State.atRest_of_nil rfl rfl rfl rfl rfl rfl rfl).toReady, rfl⟩
    refine (Machine.everyStep_cons (by exact rfl)).mpr ⟨⟨fun _ _ => rfl, nofun⟩, ?_⟩
    refine (Machine.everyStep_cons (by exact rfl)).mpr ⟨⟨⟨_, _, rfl, rfl⟩, nofun⟩, ?_⟩
    refine (Machine.everyStep_cons (by exact rfl)).mpr ⟨⟨Option.some_ne_none _, nofun⟩, ?_⟩
    iterate 2 refine (Machine.everyStep_cons (by exact rfl)).mpr ⟨⟨trivial, nofun⟩, ?_⟩
    iterate 2
      refine (Machine.everyStep_cons (by exact rfl)).mpr ⟨⟨⟨?_, ?_⟩, fun _ => rfl⟩, ?_⟩
      · apply State.atRest_of_nil rfl rfl rfl rfl rfl rfl rfl
      · rintro ref ⟨⟩
        apply Option.some_ne_none
      iterate 2 refine (Machine.everyStep_cons (by exact rfl)).mpr ⟨⟨trivial, nofun⟩, ?_⟩
    apply Machine.everyStep_nil
  · apply State.atRest_of_nil rfl rfl rfl rfl rfl rfl rfl
  · apply State.atRest_of_nil rfl rfl rfl rfl rfl rfl rfl

end OpenLibrary
