import OpenLibrary.Library.Assignments
import OpenLibrary.Model.Frame

/-!
# The last press decides

The wishlist is, for its purpose, the set of the `coverID`s the store holds, and a press
assigns to it: it puts the `coverID` of its book in, or takes it out, as the flag it leaves
says (`covers_addOrDelete`). The store of a process is the store it started on after the
assignments of its presses (`covers_of_run`), and a record none of these speaks of is as it
was (`Untouched`).
-/

namespace OpenLibrary

/-! ### The wishlist as a set -/

/-- The `coverID`s a store holds. -/
def Realm.covers (realm : Realm) : Set Int :=
  {c | realm.Holds c}

/-- The second transaction of a press assigns the flag it reads to the `coverID` of its
book. -/
theorem covers_addOrDelete (realm : Realm) (wishList : List Nat) (book : Book) :
  (State.addOrDelete realm wishList book).1.covers =
    assign realm.covers (book.coverID, book.isInWishlist)
  := by
  ext c
  rw [State.addOrDelete]
  cases hflag : book.isInWishlist with
  | true =>
      rw [assign_true, if_pos rfl, Set.mem_union, Set.mem_singleton_iff]
      split
      · apply Realm.holds_insert
      · next hcount =>
          apply (or_iff_left_of_imp _).symm
          rintro rfl
          apply Realm.countCover_ne_zero.mp hcount
  | false =>
      rw [assign_false, Set.mem_sdiff, Set.mem_singleton_iff]
      apply Realm.holds_delete

/-- The store after the second transaction of a press holds the `coverID` of the book as the
flag says, and others as before. -/
theorem holds_addOrDelete {realm : Realm} {wishList : List Nat} {book : Book} {c : Int} :
  (State.addOrDelete realm wishList book).1.Holds c ↔
    c = book.coverID ∧ book.isInWishlist = true ∨ c ≠ book.coverID ∧ realm.Holds c
  := by
  change c ∈ (State.addOrDelete realm wishList book).1.covers ↔ _
  rw [covers_addOrDelete]
  rfl

namespace State

variable {F : Foundation} {realm : Realm} {as : List Action} {s t : State} {a : Action}

theorem presses_toggled (s : State) (ref : BookRef) :
  (s.toggled ref).presses = s.presses
  := by
  rw [presses, history_toggled]
  rfl

theorem presses_wishlistUpdated (s : State) (book : Book) :
  (s.wishlistUpdated book).presses = s.presses ++ [(book.coverID, book.isInWishlist)]
  := by
  apply List.filterMap_append

/-- The first transaction of a press leaves the store holding the same `coverID`s. -/
theorem covers_toggled (s : State) (ref : BookRef) :
  (s.toggled ref).realm.covers = s.realm.covers
  := by
  ext c
  apply holds_toggled

/-- A step keeps the store what the presses so far make of the one at the start. -/
theorem covers_step (h : s.realm.covers = s.presses.foldl assign realm.covers)
    (he : StoreEffect s a t) :
  t.realm.covers = t.presses.foldl assign realm.covers
  := by
  cases he with
  | quiet hrealm hwishList hposting hpresses =>
      rw [hrealm, hpresses]
      apply h
  | pressed =>
      rw [covers_toggled, presses_toggled]
      apply h
  | @updated ref book hposting hread =>
      rw [presses_wishlistUpdated, List.foldl_append, ← h]
      apply covers_addOrDelete

/-- The store of a process holds what the presses so far make of the store at its start. -/
theorem covers_of_run (h : (application F).run (launch realm) as = .ok s) :
  s.realm.covers = s.presses.foldl assign realm.covers
  := by
  apply Machine.invariant (M := application F)
    (P := fun s => s.realm.covers = s.presses.foldl assign realm.covers) _ rfl h
  intro s a t hs ht
  apply covers_step hs (storeEffect (step_eq_ok.mp ht))

/-! ### Records of other books -/

/-- The records whose `coverID` no press so far was on, and of which none is being posted, are
those of the store at the start. -/
def Untouched (realm : Realm) (s : State) : Prop :=
  ∀ c, lastAssigned c s.presses = none →
    (∀ row book, s.posting = some (.stored row) → s.realm.find? row = some book →
      book.coverID ≠ c) →
    ∀ row book, book.coverID = c → ((row, book) ∈ s.realm.rows ↔ (row, book) ∈ realm.rows)

/-- Toggling the flag of a record leaves the records of other books alone. -/
theorem mem_modify_toggle {i row : Nat} {book : Book}
    (h : ∀ b, realm.find? i = some b → b.coverID ≠ book.coverID) :
  (row, book) ∈ Table.rows (realm.modify i Book.toggle) ↔ (row, book) ∈ realm.rows
  := by
  rw [Table.mem_modify]
  constructor
  · rintro ⟨b, hb, rfl⟩
    rcases eq_or_ne row i with rfl | hi
    · rw [if_pos rfl] at h
      apply absurd rfl (h b (Table.find?_eq_some.mpr hb))
    · rw [if_neg hi]
      apply hb
  · intro hb
    use book, hb
    rw [if_neg]
    rintro rfl
    apply h book (Table.find?_eq_some.mpr hb) rfl

/-- The second transaction of a press leaves the records of other books alone. -/
theorem mem_addOrDelete {wishList : List Nat} {pressed book : Book} {row : Nat}
    (h : pressed.coverID ≠ book.coverID) :
  (row, book) ∈ (addOrDelete realm wishList pressed).1.rows ↔ (row, book) ∈ realm.rows
  := by
  rw [addOrDelete]
  split
  · split
    · rw [Table.mem_insert]
      apply or_iff_left
      intro he
      apply h
      rw [(Prod.mk.inj he).2]
      rfl
    · rfl
  · rw [Table.mem_delete]
    apply and_iff_left
    apply beq_eq_false_iff_ne.mpr h.symm

/-- A step leaves the records alone that no press was on. -/
theorem Untouched.step (h : s.Untouched realm) (he : StoreEffect s a t) :
  t.Untouched realm
  := by
  intro c hc hposted row book hbook
  cases he with
  | quiet hrealm hwishList hposting hpresses =>
      rw [hpresses] at hc
      rw [hposting, hrealm] at hposted
      rw [hrealm]
      apply h c hc hposted row book hbook
  | @pressed _ ref pressed hidle hpress hread =>
      rw [presses_toggled] at hc
      have hold : (row, book) ∈ s.realm.rows ↔ (row, book) ∈ realm.rows := by
        apply h c hc _ row book hbook
        intro i b hi
        rw [hidle] at hi
        cases hi
      cases ref with
      | detached o => apply hold
      | stored i =>
          rw [← hold]
          apply mem_modify_toggle
          intro b hb
          rw [hbook]
          apply hposted i b.toggle rfl
          apply Table.find?_eq_some.mpr
          apply Table.mem_modify.mpr
          use b, Table.find?_eq_some.mp hb
          rw [if_pos rfl]
  | @updated ref pressed hposting hread =>
      rw [presses_wishlistUpdated, lastAssigned_concat] at hc
      rcases eq_or_ne pressed.coverID c with hp | hp
      · rw [if_pos hp] at hc
        cases hc
      · rw [if_neg hp] at hc
        rw [← h c hc _ row book hbook]
        · apply mem_addOrDelete
          rw [hbook]
          apply hp
        · intro i b hi hb
          obtain rfl := Option.some.inj (hposting.symm.trans hi)
          obtain rfl := Option.some.inj (hread.symm.trans hb)
          apply hp

end State

/-- At the end of every run of a process on any store, and for every `coverID`: the store holds
a record with it exactly when the last press on a book with it left the flag of that book set,
or there was no such press and the store held one at the start; and if there was none, the
records with it are those of the start, in all their fields. The flag a press leaves is the one
the book has when the press is over: where a `notify` block runs between the toggle and the
handler, it is the one the handler finds, which `press_does_what_button_shows` compares with the
button. -/
theorem last_press_decides (F : Foundation) (realm : Realm) (as : List Action) (s : State)
    (h : (application F).run (launch realm) as = .ok s) (hidle : s.posting = none) (c : Int) :
  (s.realm.Holds c ↔ lastAssigned c s.presses = some true ∨
      lastAssigned c s.presses = none ∧ realm.Holds c) ∧
    (lastAssigned c s.presses = none → ∀ row book, book.coverID = c →
      ((row, book) ∈ s.realm.rows ↔ (row, book) ∈ realm.rows))
  := by
  constructor
  · change c ∈ s.realm.covers ↔ _
    rw [State.covers_of_run h]
    apply mem_foldl_assign
  · intro hc
    have huntouched : s.Untouched realm := by
      apply Machine.invariant (M := application F) (P := State.Untouched realm) _ _ h
      · intro s a t hs ht
        apply hs.step (State.storeEffect (State.step_eq_ok.mp ht))
      · intro c _ _ row book _
        rfl
    apply huntouched c hc
    intro row book hrow
    rw [hidle] at hrow
    cases hrow

/-- One of two results is pressed, on a store with a record of the other. -/
theorem last_press_decides_emma :
  ∃ s, ((application .onPlainText).run
      (launch (Table.empty.insert { coverID := 7, title := "Dune", isInWishlist := true }))
      [.screen (.searchBarTextDidChange "dune"), .beginRequest 1,
        .bookInfoResponse 0 (responseOf [document 7 "Dune", document 8 "Emma"]),
        .coverResponse ⟨0, 1, bookCoverRequestURL 8⟩ (some [1]),
        .coverResponse ⟨0, 0, bookCoverRequestURL 7⟩ (some [2]), .coversNotified 0,
        .screen .runMainBlock, .userPressedWishlistButton 1,
        .addOrDeleteBookFromWishlist] = .ok s ∧
    s.posting = none) ∧
    ((s.realm.Holds 8 ↔ lastAssigned 8 s.presses = some true ∨
        lastAssigned 8 s.presses = none ∧ Realm.Holds
          (Table.empty.insert { coverID := 7, title := "Dune", isInWishlist := true }) 8) ∧
      (lastAssigned 8 s.presses = none → ∀ row book, book.coverID = 8 →
        ((row, book) ∈ s.realm.rows ↔ (row, book) ∈
          (Table.empty.insert
            ({ coverID := 7, title := "Dune", isInWishlist := true } : Book)).rows)))
  := by
  apply (exists_congr (fun s => and_iff_left_of_imp _)).mpr
  · exact ⟨_, rfl, rfl⟩
  · rintro s ⟨h, hidle⟩
    apply last_press_decides .onPlainText _ _ _ h hidle

end OpenLibrary
