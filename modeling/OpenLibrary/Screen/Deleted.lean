import OpenLibrary.Model.Traps
import OpenLibrary.Wishlist.Store

/-!
# Deleted records

A cell and the popup keep the book they were set up with. When that is a record and a press
deletes it, the next press on the same cell or in the same popup, or the next page of the
popup, touches a record that is no longer there (`invalidated_iff`). Nothing else does: the
table is filled from `wishList`, which lists the records there are, and no record is deleted
while a press on it is under way (`State.Tracked`).
-/

namespace OpenLibrary

/-! ### The trap -/

namespace State

/-- The book that an action finds in a cell or the popup, and reads. -/
def heldBook (s : State) : Action → Option BookRef
  | .screen (.cellForItemAt page) =>
      s.screen.details.bind (fun details =>
        if page < details.numOfBookDetailSections then some details.bookBeingDesplayed else none)
  | a => s.pressedBook a

/-- The books shown, and the one being posted, can be read. -/
structure Readable (s : State) : Prop where
  shown : ∀ ref ∈ s.shownBooks, (s.read? ref).isSome
  posted : ∀ ref, s.posting = some ref → (s.read? ref).isSome

variable {F : Foundation} {s t : State} {a : Action}

/-- The books the table is filled from can be read. -/
theorem Readable.readable (h : s.Readable) :
  s.readable s.shownBooks
  := by
  apply List.all_eq_true.mpr
  apply h.shown

/-- The book read for a row is there. -/
theorem Readable.read?_ne_none (h : s.Readable) {row : Nat} {ref : BookRef}
    (hbook : s.shownBooks[row]? = some ref) :
  s.read? ref ≠ none
  := by
  apply Option.isSome_iff_ne_none.mp
  apply h.shown
  apply List.mem_of_getElem? hbook

/-- The book an action presses is found in a cell or the popup. -/
theorem heldBook_of_pressedBook {ref : BookRef} (h : s.pressedBook a = some ref) :
  s.heldBook a = some ref
  := by
  cases a with
  | userPressedWishlistButton row => apply h
  | notifyWishlistOfUpdate => apply h
  | _ => cases h

/-- A step touches a deleted record exactly when nothing is being posted and the book it finds
in a cell or the popup is one. -/
theorem step_eq_invalidated (h : s.Readable) :
  s.step F a = .error (.trap .invalidatedObject) ↔
    s.posting = none ∧ ∃ ref, s.heldBook a = some ref ∧ s.read? ref = none
  := by
  rw [step_eq_trap]
  constructor
  · intro he
    cases he with
    | bookList hidle hqueue hread => apply absurd h.readable hread
    | previewCell hidle hqueue hread => apply absurd h.readable hread
    | cell hidle hrow hbook hread => apply absurd hread (h.read?_ne_none hbook)
    | popup hidle hrow hdetails hbook hread => apply absurd hread (h.read?_ne_none hbook)
    | page hidle hdetails hpage hread =>
        refine ⟨hidle, _, ?_, hread⟩
        rw [heldBook, hdetails, Option.bind_some, if_pos hpage]
    | press hidle hpress hread => exact ⟨hidle, _, heldBook_of_pressedBook hpress, hread⟩
    | handler hposting hread =>
        have hposted := h.posted _ hposting
        rw [hread] at hposted
        cases hposted
  · rintro ⟨hidle, ref, hheld, hread⟩
    cases a with
    | screen action =>
        cases action with
        | cellForItemAt page =>
            obtain ⟨details, hdetails, hheld⟩ := Option.bind_eq_some_iff.mp hheld
            split at hheld
            · next hpage =>
                obtain rfl := Option.some.inj hheld
                apply TrapEffect.page hidle hdetails hpage hread
            · cases hheld
        | _ => cases hheld
    | userPressedWishlistButton row =>
        have hpress : s.pressedBook (.userPressedWishlistButton row) = some ref := hheld
        apply TrapEffect.press hidle hpress hread
    | notifyWishlistOfUpdate =>
        have hpress : s.pressedBook .notifyWishlistOfUpdate = some ref := hheld
        apply TrapEffect.press hidle hpress hread
    | _ => cases hheld

end State

/-! ### Removals in the history -/

/-- A record was removed by a press after it had been displayed. -/
def Removed (history : List Event) (row : Nat) : Prop :=
  ∃ pre c post, history = pre ++ .displayed row c :: post ∧ .pressed c false ∈ post

namespace Removed

variable {history events : List Event} {row : Nat} {e : Event}

theorem displayed (h : Removed history row) :
  ∃ c, .displayed row c ∈ history
  := by
  obtain ⟨pre, c, post, rfl, -⟩ := h
  exact ⟨c, List.mem_append_right pre List.mem_cons_self⟩

/-- One more event removes the records it deletes that have been displayed. -/
theorem concat :
  Removed (history ++ [e]) row ↔ Removed history row ∨
    ∃ c, e = .pressed c false ∧ .displayed row c ∈ history
  := by
  constructor
  · rintro ⟨pre, c, post, h, hpost⟩
    induction post using List.reverseRecOn with
    | nil => cases hpost
    | append_singleton post e' _ =>
        rw [← List.cons_append, ← List.append_assoc] at h
        obtain ⟨rfl, hlast⟩ := List.append_inj' h rfl
        obtain rfl := (List.cons.inj hlast).1
        rcases List.mem_append.mp hpost with hpost | hpost
        · left
          exact ⟨pre, c, post, rfl, hpost⟩
        · right
          exact ⟨c, (List.mem_singleton.mp hpost).symm,
            List.mem_append_right pre List.mem_cons_self⟩
  · rintro (⟨pre, c, post, rfl, hpost⟩ | ⟨c, rfl, hdisplayed⟩)
    · refine ⟨pre, c, post ++ [e], ?_, List.mem_append_left [e] hpost⟩
      rw [List.append_assoc, List.cons_append]
    · obtain ⟨pre, post, rfl⟩ := List.append_of_mem hdisplayed
      refine ⟨pre, c, post ++ [.pressed c false], ?_, ?_⟩
      · rw [List.append_assoc, List.cons_append]
      · apply List.mem_append_right post List.mem_cons_self

/-- Events that are no presses remove no record. -/
theorem append (h : ∀ e ∈ events, State.press? e = none) :
  Removed (history ++ events) row ↔ Removed history row
  := by
  induction events using List.reverseRecOn with
  | nil => rw [List.append_nil]
  | append_singleton events e ih =>
      rw [← List.append_assoc, concat, ih, or_iff_left]
      · rintro ⟨c, rfl, -⟩
        cases h _ (List.mem_append_right events List.mem_cons_self)
      · intro e' he'
        apply h e' (List.mem_append_left [e] he')

end Removed

/-! ### Records displayed -/

/-- A cell or the popup keeps a record. -/
def Screen.Keeps (screen : Screen) (row : Nat) : Prop :=
  .stored row ∈ screen.cells ∨
    ∃ details, screen.details = some details ∧ details.bookBeingDesplayed = .stored row

namespace State

/-- What a state and its history say of the records displayed. -/
structure Tracked (s : State) : Prop where
  wishList : s.wishList = s.realm.ids
  /-- A record being posted is there. -/
  posted : ∀ row, s.posting = some (.stored row) → row ∈ s.realm.ids
  /-- A record kept has been displayed. -/
  kept : ∀ row, s.screen.Keeps row → ∃ c, .displayed row c ∈ s.history
  /-- A record displayed was given its identifier, and still has the `coverID` it had. -/
  known : ∀ row c, .displayed row c ∈ s.history →
    row < s.realm.next ∧ ∀ b, s.realm.find? row = some b → b.coverID = c
  /-- A record displayed is there unless it was removed since. -/
  gone : ∀ row c, .displayed row c ∈ s.history →
    (s.realm.find? row = none ↔ Removed s.history row)

theorem tracked_launch (realm : Realm) :
  (launch realm).Tracked
  := by
  constructor
  · rfl
  · intro row hposting
    cases hposting
  · rintro row (hcell | ⟨details, hdetails, -⟩)
    · cases hcell
    · cases hdetails
  · intro row c hdisplayed
    cases hdisplayed
  · intro row c hdisplayed
    cases hdisplayed

variable {F : Foundation} {s t : State} {a : Action}

namespace Tracked

/-- The books shown, and the one being posted, can be read. -/
theorem readable (h : s.Tracked) :
  s.Readable
  := by
  constructor
  · intro ref href
    cases htab : s.screen.currentAppState with
    | bookSearch =>
        rw [shownBooks_of_bookSearch htab] at href
        obtain ⟨o, -, rfl⟩ := List.mem_map.mp href
        rfl
    | wishlist =>
        rw [shownBooks_of_wishlist htab, h.wishList] at href
        obtain ⟨row, hrow, rfl⟩ := List.mem_map.mp href
        apply Table.isSome_find?.mpr hrow
  · intro ref hposting
    cases ref with
    | detached o => rfl
    | stored row => apply Table.isSome_find?.mpr (h.posted row hposting)

/-- Events that neither display nor press a book change nothing. -/
theorem congr (h : s.Tracked) (events : List Event) (hrealm : t.realm = s.realm)
    (hwishList : t.wishList = s.wishList) (hposting : t.posting = s.posting)
    (hcells : t.screen.cells = s.screen.cells) (hdetails : t.screen.details = s.screen.details)
    (hhistory : t.history = s.history ++ events)
    (hevents : ∀ e ∈ events, press? e = none ∧ ∀ row c, e ≠ .displayed row c) :
  t.Tracked
  := by
  have hdisplayed : ∀ row c, .displayed row c ∈ t.history ↔ .displayed row c ∈ s.history := by
    intro row c
    rw [hhistory, List.mem_append]
    apply or_iff_left
    intro he
    apply (hevents _ he).2 row c rfl
  constructor
  · rw [hwishList, hrealm]
    apply h.wishList
  · rw [hposting, hrealm]
    apply h.posted
  · intro row hkeeps
    simp only [hdisplayed]
    rw [Screen.Keeps, hcells, hdetails] at hkeeps
    apply h.kept row hkeeps
  · intro row c hc
    rw [hrealm]
    apply h.known row c ((hdisplayed row c).mp hc)
  · intro row c hc
    rw [hrealm, hhistory, Removed.append]
    · apply h.gone row c ((hdisplayed row c).mp hc)
    · intro e he
      apply (hevents e he).1

/-- A record kept after a step of the screens was kept before, or is displayed by the step. -/
theorem keeps_screenEffect {action : ScreenAction} {screen : Screen} {events : List Event}
    (he : ScreenEffect s action screen events) {row : Nat} (hkeeps : screen.Keeps row) :
  s.screen.Keeps row ∨ ∃ c, .displayed row c ∈ events
  := by
  have hdisplay : ∀ {b}, s.realm.find? row = some b →
      .displayed row b.coverID ∈ s.displayed (.stored row) := by
    intro b hb
    exact mem_displayed.mpr ⟨row, b, rfl, hb, rfl⟩
  have hreload : s.readable s.shownBooks → .stored row ∈ s.shownBooks →
      ∃ c, .displayed row c ∈ s.shownBooks.flatMap s.displayed := by
    intro hread hrow
    obtain ⟨b, hb⟩ := Option.isSome_iff_exists.mp (List.all_eq_true.mp hread _ hrow)
    exact ⟨b.coverID, List.mem_flatMap.mpr ⟨_, hrow, hdisplay hb⟩⟩
  cases he with
  | @tab state =>
      obtain ⟨-, -, hcells, hdetails⟩ := s.changeAppState_frame state
      rw [Screen.Keeps, hcells, hdetails] at hkeeps
      apply Or.inl hkeeps
  | @text searchText =>
      obtain ⟨-, -, -, -, hcells, hdetails⟩ := s.requestBookSearch_frame searchText
      rw [Screen.Keeps, hcells, hdetails] at hkeeps
      apply Or.inl hkeeps
  | animation | mainArea => apply Or.inl hkeeps
  | bookList hqueue hread hrow =>
      rcases hkeeps with hcell | hdetails
      · apply Or.inr (hreload hread hcell)
      · apply Or.inl (Or.inr hdetails)
  | previewCell hqueue hread =>
      rcases hkeeps with hcell | hdetails
      · apply Or.inr (hreload hread hcell)
      · apply Or.inl (Or.inr hdetails)
  | cell hrow hbook hread =>
      rcases hkeeps with hcell | hdetails
      · rcases List.mem_or_eq_of_mem_set hcell with hold | rfl
        · apply Or.inl (Or.inl hold)
        · right
          exact ⟨_, hdisplay hread⟩
      · apply Or.inl (Or.inr hdetails)
  | popup hrow hnone hbook hread =>
      rcases hkeeps with hcell | ⟨details, hdetails, hrow⟩
      · apply Or.inl (Or.inl hcell)
      · right
        obtain rfl := Option.some.inj hdetails
        obtain rfl : _ = BookRef.stored row := hrow
        exact ⟨_, hdisplay hread⟩
  | page hdetails hpage hread =>
      rcases hkeeps with hcell | ⟨details, hdetails', hrow⟩
      · apply Or.inl (Or.inl hcell)
      · left
        right
        obtain rfl := Option.some.inj hdetails'
        exact ⟨_, hdetails, hrow⟩
  | close =>
      rcases hkeeps with hcell | ⟨details, hdetails, hrow⟩
      · apply Or.inl (Or.inl hcell)
      · cases hdetails

/-- A step of the screens displays records that are there. -/
theorem screen (h : s.Tracked) {action : ScreenAction} {screen : Screen} {events : List Event}
    (hscreen : s.screenStep action = .ok (screen, events)) :
  { s with screen := screen, history := s.history ++ events }.Tracked
  := by
  have hevents := events_of_screenStep hscreen
  have hremoved : ∀ row, Removed (s.history ++ events) row ↔ Removed s.history row := by
    intro row
    apply Removed.append
    intro e he
    obtain ⟨row, b, -, rfl⟩ := hevents e he
    rfl
  have hdisplayed : ∀ row c, .displayed row c ∈ events →
      ∃ b, s.realm.find? row = some b ∧ b.coverID = c := by
    intro row c hc
    obtain ⟨row', b, hb, he⟩ := hevents _ hc
    obtain ⟨rfl, rfl⟩ := Event.displayed.inj he
    exact ⟨b, hb, rfl⟩
  constructor
  · apply h.wishList
  · apply h.posted
  · intro row hkeeps
    rcases keeps_screenEffect (screenEffect_of_screenStep hscreen) hkeeps with hold | ⟨c, hc⟩
    · obtain ⟨c, hc⟩ := h.kept row hold
      exact ⟨c, List.mem_append_left events hc⟩
    · exact ⟨c, List.mem_append_right s.history hc⟩
  · intro row c hc
    rcases List.mem_append.mp hc with hold | hnew
    · apply h.known row c hold
    · obtain ⟨b, hb, rfl⟩ := hdisplayed row c hnew
      constructor
      · apply s.realm.lt_next (row, b) (Table.find?_eq_some.mp hb)
      · intro b' hb'
        rw [Option.some.inj (hb'.symm.trans hb)]
  · intro row c hc
    rw [hremoved]
    rcases List.mem_append.mp hc with hold | hnew
    · apply h.gone row c hold
    · obtain ⟨b, hb, rfl⟩ := hdisplayed row c hnew
      apply iff_of_false
      · intro hnone
        cases hb.symm.trans hnone
      · intro hold
        obtain ⟨c', hc'⟩ := hold.displayed
        cases hb.symm.trans ((h.gone row c' hc').mpr hold)

/-- The first transaction of a press leaves each record there, with its `coverID`. -/
theorem find?_toggled (s : State) (ref : BookRef) (row : Nat) :
  ∃ f : Book → Book, (∀ b, (f b).coverID = b.coverID) ∧
    (s.toggled ref).realm.find? row = (s.realm.find? row).map f
  := by
  cases ref with
  | detached o => exact ⟨id, fun _ => rfl, (Option.map_id_apply).symm⟩
  | stored i =>
      rcases eq_or_ne row i with rfl | hne
      · exact ⟨Book.toggle, Book.coverID_toggle, Table.find?_modify_self s.realm row Book.toggle⟩
      · refine ⟨id, fun _ => rfl, ?_⟩
        rw [Option.map_id_apply]
        apply Table.find?_modify_of_ne s.realm Book.toggle hne

/-- The first transaction of a press removes no record. -/
theorem toggled (h : s.Tracked) {ref : BookRef} {book : Book}
    (hread : s.read? ref = some book) :
  (s.toggled ref).Tracked
  := by
  have hids : (s.toggled ref).realm.ids = s.realm.ids := by
    cases ref with
    | detached o => rfl
    | stored row => apply Table.ids_modify
  have hnext : (s.toggled ref).realm.next = s.realm.next := by
    cases ref with
    | detached o => rfl
    | stored row => rfl
  constructor
  · rw [wishList_toggled, hids]
    apply h.wishList
  · intro row hposting
    rw [posting_toggled] at hposting
    obtain rfl := Option.some.inj hposting
    rw [hids, ← Table.isSome_find?]
    apply Option.isSome_of_eq_some hread
  · rw [screen_toggled, history_toggled]
    apply h.kept
  · intro row c hc
    rw [history_toggled] at hc
    obtain ⟨hlt, hcover⟩ := h.known row c hc
    obtain ⟨f, hf, hfind⟩ := find?_toggled s ref row
    rw [hnext, hfind]
    refine ⟨hlt, ?_⟩
    intro b hb
    obtain ⟨b', hb', rfl⟩ := Option.map_eq_some_iff.mp hb
    rw [hf, hcover b' hb']
  · intro row c hc
    rw [history_toggled] at hc ⊢
    obtain ⟨f, -, hfind⟩ := find?_toggled s ref row
    rw [hfind, Option.map_eq_none_iff]
    apply h.gone row c hc

/-- The second transaction of a press removes the records of its `coverID` if it leaves the
flag unset, and no others. -/
theorem find?_addOrDelete {realm : Realm} {wishList : List Nat} {book : Book} {row : Nat}
    (h : row < realm.next) {b : Book} :
  (addOrDelete realm wishList book).1.find? row = some b ↔
    realm.find? row = some b ∧ (book.isInWishlist = true ∨ b.coverID ≠ book.coverID)
  := by
  rw [addOrDelete]
  cases hflag : book.isInWishlist with
  | true =>
      rw [if_pos rfl, and_iff_left (Or.inl rfl)]
      split
      · apply Iff.of_eq
        apply congrArg (fun found => found = some b)
        apply Table.find?_insert_of_lt realm _ h
      · rfl
  | false =>
      rw [if_neg Bool.false_ne_true, or_iff_right Bool.false_ne_true]
      apply Iff.trans (Iff.of_eq (congrArg (fun found => found = some b)
        (Table.find?_delete realm _ row)))
      rw [Option.filter_eq_some_iff]
      simp

theorem next_addOrDelete (realm : Realm) (wishList : List Nat) (book : Book) :
  realm.next ≤ (addOrDelete realm wishList book).1.next
  := by
  rw [addOrDelete]
  split
  · split
    · apply Nat.le_succ
    · apply Nat.le_refl
  · apply Nat.le_refl

/-- After the second transaction of a press the records it removed are gone. -/
theorem wishlistUpdated (h : s.Tracked) (book : Book) :
  (s.wishlistUpdated book).Tracked
  := by
  obtain ⟨-, -, hcells, hdetails⟩ := s.wishlistUpdated_frame book
  have hdisplayed : ∀ row c, .displayed row c ∈ (s.wishlistUpdated book).history ↔
      .displayed row c ∈ s.history := by
    intro row c
    apply Iff.trans List.mem_append
    simp
  constructor
  · apply ids_addOrDelete h.wishList book
  · intro row hposting
    cases hposting
  · intro row hkeeps
    simp only [hdisplayed]
    rw [Screen.Keeps, hcells, hdetails] at hkeeps
    apply h.kept row hkeeps
  · intro row c hc
    obtain ⟨hlt, hcover⟩ := h.known row c ((hdisplayed row c).mp hc)
    constructor
    · apply Nat.lt_of_lt_of_le hlt (next_addOrDelete s.realm s.wishList book)
    · intro b hb
      apply hcover b
      have hfind : (addOrDelete s.realm s.wishList book).1.find? row = some b := hb
      rw [find?_addOrDelete hlt] at hfind
      apply hfind.1
  · intro row c hc
    have hold := (hdisplayed row c).mp hc
    obtain ⟨hlt, hcover⟩ := h.known row c hold
    change (addOrDelete s.realm s.wishList book).1.find? row = none ↔
      Removed (s.history ++ [.pressed book.coverID book.isInWishlist]) row
    rw [Removed.concat, ← h.gone row c hold, Option.eq_none_iff_forall_ne_some]
    simp only [ne_eq, find?_addOrDelete hlt]
    cases hfind : s.realm.find? row with
    | none => simp
    | some b =>
        obtain rfl := hcover b hfind
        constructor
        · intro hgone
          right
          obtain ⟨hflag, hsame⟩ := not_or.mp (fun hkept => hgone b ⟨rfl, hkept⟩)
          use b.coverID
          rw [Bool.not_eq_true] at hflag
          rw [hflag, Classical.not_not.mp hsame]
          refine ⟨rfl, ?_⟩
          rw [← Classical.not_not.mp hsame]
          apply hold
        · rintro (hnone | ⟨c', he, hc'⟩) b' ⟨hb', hkept⟩
          · cases hnone
          · obtain ⟨rfl, hflag⟩ := Event.pressed.inj he
            obtain rfl := Option.some.inj hb'
            rcases hkept with hset | hne
            · cases hset.symm.trans hflag
            · apply hne ((h.known row _ hc').2 b hfind)

/-- A step keeps what a state and its history say of the records displayed. -/
theorem step (h : s.Tracked) (he : Effect F s a t) :
  t.Tracked
  := by
  cases he with
  | screen hidle hscreen => apply h.screen hscreen
  | timer | noResults | noCover | cover =>
      apply h.congr []
      · rfl
      · rfl
      · rfl
      · rfl
      · rfl
      · apply (List.append_nil _).symm
      · simp
  | request | emptyResults | notified =>
      apply h.congr [_]
      · rfl
      · rfl
      · rfl
      · rfl
      · rfl
      · rfl
      · simp [press?]
  | results =>
      apply h.congr (List.map _ _)
      · apply realm_booksStructured
      · apply wishList_booksStructured
      · apply posting_booksStructured
      · rw [screen_booksStructured]
        rfl
      · rw [screen_booksStructured]
        rfl
      · apply history_booksStructured
      · intro e he
        obtain ⟨o, -, rfl⟩ := List.mem_map.mp he
        simp [press?]
  | pressed hidle hpress hread => apply h.toggled hread
  | updated => apply h.wishlistUpdated

/-- What a state and its history say of the records displayed is true in every run. -/
theorem of_run {realm : Realm} {as : List Action}
    (h : (application F).run (launch realm) as = .ok s) :
  s.Tracked
  := by
  apply Machine.invariant (M := application F) _ (tracked_launch realm) h
  intro s a t hs ht
  apply hs.step (step_eq_ok.mp ht)

end Tracked

/-- The book an action finds in a cell or the popup is kept there. -/
theorem keeps_of_heldBook {row : Nat} (h : s.heldBook a = some (.stored row)) :
  s.screen.Keeps row
  := by
  have hcell : ∀ i, s.pressedBook (.userPressedWishlistButton i) = some (.stored row) →
      s.screen.Keeps row := by
    intro i hi
    rw [pressedBook] at hi
    split at hi
    · cases hi
    · left
      apply List.mem_of_getElem? hi
  have hdetails : s.pressedBook .notifyWishlistOfUpdate = some (.stored row) →
      s.screen.Keeps row := by
    intro hd
    right
    apply Option.map_eq_some_iff.mp hd
  cases a with
  | userPressedWishlistButton i => apply hcell i h
  | notifyWishlistOfUpdate => apply hdetails h
  | screen action =>
      cases action with
      | cellForItemAt page =>
          apply hdetails
          obtain ⟨details, hd, h⟩ := Option.bind_eq_some_iff.mp h
          rw [pressedBook, hd]
          split at h
          · apply h
          · cases h
      | _ => cases h
  | _ => cases h

/-- With no press under way, the step presses a cell or the popup, or brings a page of the popup
into view, and the book kept there is a record that a press removed after it had been
displayed. -/
def TouchesRemoved (s : State) (a : Action) : Prop :=
  s.posting = none ∧ ∃ row, s.heldBook a = some (.stored row) ∧ Removed s.history row

/-- A step touches a deleted record exactly when the record it finds kept was removed. -/
theorem Tracked.step_eq_invalidated_iff (h : s.Tracked) :
  s.step F a = .error (.trap .invalidatedObject) ↔ s.TouchesRemoved a
  := by
  rw [step_eq_invalidated h.readable]
  apply and_congr_right
  intro _
  constructor
  · rintro ⟨ref, hheld, hread⟩
    cases ref with
    | detached o => cases hread
    | stored row =>
        obtain ⟨c, hc⟩ := h.kept row (keeps_of_heldBook hheld)
        exact ⟨row, hheld, (h.gone row c hc).mp hread⟩
  · rintro ⟨row, hheld, hremoved⟩
    obtain ⟨c, hc⟩ := h.kept row (keeps_of_heldBook hheld)
    exact ⟨.stored row, hheld, (h.gone row c hc).mpr hremoved⟩

end State

/-- A process touches no deleted record exactly when none of its steps uses a cell or a popup
that keeps a record removed since it was displayed. -/
theorem deleted_untouched_iff (F : Foundation) (realm : Realm) (as : List Action) :
  (application F).run (launch realm) as ≠ .error (.trap .invalidatedObject) ↔
    (application F).EveryStep (fun s a => ¬ s.TouchesRemoved a) (launch realm) as
  := by
  rw [Machine.run_ne_error_iff]
  apply Machine.everyStep_congr
  intro pre s h a
  have htracked : s.Tracked := State.Tracked.of_run h
  apply not_congr htracked.step_eq_invalidated_iff

/-- The second press in the popup of a record touches the record that the first one deleted. -/
theorem second_press_in_popup_traps :
  ¬ ∀ (F : Foundation) (realm : Realm) (as : List Action),
    (application F).run (launch realm) as ≠ .error (.trap .invalidatedObject)
  := by
  intro h
  apply h .onPlainText
    (Table.empty.insert { coverID := 7, title := "Dune", isInWishlist := true })
    [.screen (.userSelectedTab .wishlist), .screen .runMainBlock,
      .screen (.didSelectRowAt 0), .notifyWishlistOfUpdate, .addOrDeleteBookFromWishlist,
      .notifyWishlistOfUpdate]
  rfl

end OpenLibrary
