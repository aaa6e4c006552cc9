import OpenLibrary.Search.Answers
import OpenLibrary.Wishlist.Presses

/-!
# The flags of the search results

`isInWishlist` of a search result is brought in line with the store by the `notify` block of
a call, and by a press on that very result. A press on another book of the same `coverID`, and
a `notify` block that never runs, leave it behind. While neither happens (`State.KeepsFlags`),
each result that is not being pressed agrees with the store, or is unmarked with a `notify`
block on its way (`State.Flagged`).
-/

namespace OpenLibrary

namespace State

/-- The flag of a result is set exactly when the store holds a record of its `coverID`. -/
def Agrees (s : State) (o : Nat) : Prop :=
  (s.objects.book o).isInWishlist = true ↔ s.realm.Holds (s.objects.book o).coverID

/-- A `notify` block is on its way: the covers in flight are all its group waits for. -/
def Pending (s : State) : Prop :=
  ∃ r ∈ s.search.notifies, s.search.groups r = s.openCovers r

/-- A result that is unmarked, with a `notify` block on its way. -/
def Awaits (s : State) (o : Nat) : Prop :=
  (s.objects.book o).isInWishlist = false ∧ s.Pending

/-- Each result agrees with the store or awaits a `notify` block, but for the one being
pressed. -/
structure Flagged (s : State) : Prop where
  lt_next : ∀ o ∈ s.search.bookResults, o < s.objects.next
  flags : ∀ o ∈ s.search.bookResults, s.posting ≠ some (.detached o) → s.Agrees o ∨ s.Awaits o

/-- The step leaves no flag behind: the handler of a press runs when every other result of the
`coverID` pressed carries the flag the press leaves, or awaits a `notify` block; and a cover
comes without data only when another `notify` block is on its way, or no unmarked result is of
a `coverID` the store holds. -/
def KeepsFlags (s : State) : Action → Prop
  | .addOrDeleteBookFromWishlist =>
      ∀ ref book, s.posting = some ref → s.read? ref = some book →
        ∀ o ∈ s.search.bookResults, ref ≠ .detached o →
          (s.objects.book o).coverID = book.coverID →
          (s.objects.book o).isInWishlist = book.isInWishlist ∨ s.Awaits o
  | .coverResponse task none =>
      (∃ r ∈ s.search.notifies, r ≠ task.request ∧ s.search.groups r = s.openCovers r) ∨
        ∀ o ∈ s.search.bookResults, s.posting ≠ some (.detached o) →
          (s.objects.book o).isInWishlist = false →
            ¬ s.realm.Holds (s.objects.book o).coverID
  | _ => True

theorem flagged_launch (realm : Realm) :
  (launch realm).Flagged
  := by
  constructor
  · intro o ho
    cases ho
  · intro o ho
    cases ho

variable {F : Foundation} {s t : State} {a : Action}

namespace Flagged

/-- New results are unmarked, and the `notify` block of their call is on its way. -/
theorem booksStructured (h : s.Flagged) {r : Nat} {newBooks : List Book}
    (hopen : s.openCovers r = 0) (hunmarked : ∀ b ∈ newBooks, b.isInWishlist = false) :
  (s.booksStructured r newBooks).Flagged
  := by
  have hpending : (s.booksStructured r newBooks).Pending := by
    use r
    constructor
    · rw [notifies_booksStructured]
      apply List.mem_append_right _ (List.mem_singleton_self r)
    · apply (Balance.openCovers_booksStructured newBooks hopen).symm
  constructor
  · apply lt_next_booksStructured r newBooks h.lt_next
  · intro o ho hpressed
    rw [bookResults_booksStructured] at ho
    rw [posting_booksStructured] at hpressed
    rcases List.mem_append.mp ho with hold | hnew
    · rw [Agrees, Awaits, book_booksStructured_of_lt r newBooks (h.lt_next o hold),
        realm_booksStructured]
      apply Or.imp_right _ (h.flags o hold hpressed)
      apply And.imp_right
      intro _
      apply hpending
    · right
      constructor
      · obtain ⟨i, hi, rfl⟩ := List.mem_range'.mp hnew
        rw [Nat.one_mul, book_booksStructured _ _ _ (List.getElem?_eq_getElem hi)]
        apply hunmarked _ (List.getElem_mem hi)
      · apply hpending

/-- A cover that comes with data leaves the `notify` blocks on their way. -/
theorem coverReceived (h : s.Flagged) {task : CoverTask} (htask : task ∈ s.search.coverTasks)
    (imageData : Data) :
  ((s.coverAnswered task).coverReceived task imageData).Flagged
  := by
  have hpending : s.Pending → ((s.coverAnswered task).coverReceived task imageData).Pending := by
    rintro ⟨r, hr, hgroup⟩
    use r, hr
    have hopen := Balance.openCovers_coverAnswered (r := r) htask
    change Function.update s.search.groups task.request (s.search.groups task.request - 1) r =
      (s.coverAnswered task).openCovers r
    rw [Function.update_apply]
    split
    · next he =>
        rw [he, List.count_singleton_self] at hopen
        rw [he] at hgroup ⊢
        omega
    · next he =>
        rw [List.count_eq_zero_of_not_mem (by simpa using he)] at hopen
        omega
  constructor
  · apply h.lt_next
  · intro o ho hpressed
    have hold := (h.flags o ho hpressed).imp_right (And.imp_right hpending)
    rw [Agrees, Awaits, book_coverReceived]
    split
    · apply hold
    · apply hold

/-- A cover without data leaves another `notify` block on its way, or none is needed. -/
theorem coverAnswered (h : s.Flagged) {task : CoverTask} (htask : task ∈ s.search.coverTasks)
    (hkeeps : s.KeepsFlags (.coverResponse task none)) :
  (s.coverAnswered task).Flagged
  := by
  constructor
  · apply h.lt_next
  · intro o ho hpressed
    rcases h.flags o ho hpressed with hagrees | ⟨hflag, -⟩
    · left
      apply hagrees
    · rcases hkeeps with ⟨r, hr, hne, hgroup⟩ | hnone
      · right
        have hopen := Balance.openCovers_coverAnswered (r := r) htask
        rw [List.count_eq_zero_of_not_mem (by simpa using hne), Nat.add_zero, ← hgroup] at hopen
        exact ⟨hflag, r, hr, hopen.symm⟩
      · left
        apply iff_of_false
        · rw [Bool.not_eq_true]
          apply hflag
        · apply hnone o ho hpressed hflag

/-- After the `notify` block of a call every result agrees with the store. -/
theorem notifyTaken (h : s.Flagged) (r : Nat) :
  (s.notifyTaken r).determineWishlistBooks.Flagged
  := by
  constructor
  · intro o ho
    rw [next_determineWishlistBooks]
    apply h.lt_next o ho
  · intro o ho hpressed
    left
    have hbook := book_foldl_determineWishlistBook s.realm s.search.bookResults s.objects o
    change ((s.search.bookResults.foldl (determineWishlistBook s.realm) s.objects).book
        o).isInWishlist = true ↔ s.realm.Holds ((s.search.bookResults.foldl
          (determineWishlistBook s.realm) s.objects).book o).coverID
    rw [hbook]
    split
    · next hheld =>
        apply iff_of_true rfl
        apply Realm.countCover_ne_zero.mp hheld.2
    · next hnot =>
        have hheld : ¬ s.realm.Holds (s.objects.book o).coverID := by
          intro hheld
          apply hnot
          exact ⟨ho, Realm.countCover_ne_zero.mpr hheld⟩
        rcases h.flags o ho hpressed with hagrees | ⟨hflag, -⟩
        · apply hagrees
        · rw [hflag]
          apply iff_of_false Bool.false_ne_true hheld

/-- The first transaction of a press leaves the other results in line. -/
theorem toggled (h : s.Flagged) (hidle : s.posting = none) (ref : BookRef) :
  (s.toggled ref).Flagged
  := by
  constructor
  · rw [search_toggled, next_toggled]
    apply h.lt_next
  · intro o ho hpressed
    rw [search_toggled] at ho
    rw [posting_toggled] at hpressed
    have hnone : s.posting ≠ some (.detached o) := by
      rw [hidle]
      intro he
      cases he
    have hne : ref ≠ .detached o := by
      rintro rfl
      apply hpressed rfl
    rw [Agrees, Awaits, book_toggled_of_ne s ref hne, holds_toggled]
    apply Or.imp_right _ (h.flags o ho hnone)
    apply And.imp_right
    rintro ⟨r, hr⟩
    use r
    simpa [openCovers] using hr

/-- The second transaction of a press brings its book in line, and every other result in line
before that need not change. -/
theorem wishlistUpdated (h : s.Flagged) {ref : BookRef} {book : Book}
    (hposting : s.posting = some ref) (hread : s.read? ref = some book)
    (hkeeps : s.KeepsFlags .addOrDeleteBookFromWishlist) :
  (s.wishlistUpdated book).Flagged
  := by
  constructor
  · apply h.lt_next
  · intro o ho _
    change ((s.objects.book o).isInWishlist = true ↔
      (addOrDelete s.realm s.wishList book).1.Holds (s.objects.book o).coverID) ∨ s.Awaits o
    rw [holds_addOrDelete]
    rcases eq_or_ne ref (.detached o) with rfl | hne
    · obtain rfl := Option.some.inj hread
      left
      simp
    · rcases eq_or_ne (s.objects.book o).coverID book.coverID with hc | hc
      · apply Or.imp_left _ (hkeeps ref book hposting hread o ho hne hc)
        intro hflag
        rw [hflag]
        simp [hc]
      · have hpressed : s.posting ≠ some (.detached o) := by
          rw [hposting]
          intro he
          apply hne (Option.some.inj he)
        apply Or.imp_left _ (h.flags o ho hpressed)
        intro hagrees
        rw [Agrees] at hagrees
        simp [hagrees, hc]

/-- A step that leaves no flag behind keeps the results in line. -/
theorem step (h : s.Flagged) (hopen : ∀ r ∈ s.search.infoTasks, s.openCovers r = 0)
    (hkeeps : s.KeepsFlags a) (he : Effect F s a t) :
  t.Flagged
  := by
  cases he with
  | screen | timer | noResults | emptyResults => exact ⟨h.lt_next, h.flags⟩
  | request =>
      constructor
      · intro o ho
        cases ho
      · intro o ho
        cases ho
  | @results r data docs newBooks hr hdata hdocs hbooks =>
      have hanswered : (s.infoAnswered r).Flagged := ⟨h.lt_next, h.flags⟩
      apply hanswered.booksStructured (hopen r hr) (isInWishlist_structureBooks hbooks)
  | noCover htask => apply h.coverAnswered htask hkeeps
  | cover htask => apply h.coverReceived htask
  | @notified r hr hgroup => exact ⟨(h.notifyTaken r).lt_next, (h.notifyTaken r).flags⟩
  | pressed hidle => apply h.toggled hidle
  | updated hposting hread => apply h.wishlistUpdated hposting hread hkeeps

/-- With no handler running and no search in flight, results in line agree with the store. -/
theorem agrees (h : s.Flagged) (hidle : s.posting = none) (hsettled : s.Settled) :
  ∀ o ∈ s.search.bookResults, s.Agrees o
  := by
  intro o ho
  have hpressed : s.posting ≠ some (.detached o) := by
    rw [hidle]
    intro he
    cases he
  apply (h.flags o ho hpressed).resolve_right
  rintro ⟨-, r, hr, hgroup⟩
  apply hsettled.notifies r hr
  rw [hgroup, openCovers, hsettled.coverTasks, List.countP_nil]

end Flagged

/-- A step after which the results agree with the store leaves no flag behind. -/
theorem keepsFlags_of_agrees (he : Effect F s a t)
    (hagrees : ∀ o ∈ t.search.bookResults, t.Agrees o) :
  s.KeepsFlags a
  := by
  cases he with
  | screen | timer | request | noResults | emptyResults | results | cover | notified => trivial
  | noCover htask =>
      right
      intro o ho _ hflag hheld
      have hset := (hagrees o ho).mpr hheld
      cases hflag.symm.trans hset
  | @pressed _ ref book hidle hpress =>
      apply press_induction hpress
      · intro row
        trivial
      · trivial
  | @updated ref book hposting hread =>
      intro ref' book' hposting' hread' o ho hne hc
      obtain rfl := Option.some.inj (hposting.symm.trans hposting')
      obtain rfl := Option.some.inj (hread.symm.trans hread')
      left
      have hheld : (s.objects.book o).isInWishlist = true ↔
          (addOrDelete s.realm s.wishList book).1.Holds (s.objects.book o).coverID :=
        hagrees o ho
      rw [holds_addOrDelete, hc] at hheld
      apply Bool.eq_iff_iff.mpr
      simpa using hheld

end State

/-- In every run whose steps leave no flag behind, in every state of it with no handler running
and no search in flight, each result is marked exactly when the store holds a record of its
`coverID`; and for one step more that ends in such a state, so it is there exactly when that
step leaves no flag behind. -/
theorem flags_agree_iff (F : Foundation) (realm : Realm) (as : List Action) (s : State)
    (h : (application F).run (launch realm) as = .ok s)
    (hkeeps : (application F).EveryStep State.KeepsFlags (launch realm) as) :
  (application F).EveryState (fun s => s.posting = none → s.Settled →
      ∀ o ∈ s.search.bookResults, (s.objects.book o).isInWishlist = true ↔
        s.realm.Holds (s.objects.book o).coverID) (launch realm) as ∧
    ∀ a t, s.step F a = .ok t → t.posting = none → t.Settled →
      ((∀ o ∈ t.search.bookResults, (t.objects.book o).isInWishlist = true ↔
        t.realm.Holds (t.objects.book o).coverID) ↔ s.KeepsFlags a)
  := by
  have hopen : ∀ {as : List Action} {s : State},
      (application F).run (launch realm) as = .ok s →
        ∀ r ∈ s.search.infoTasks, s.openCovers r = 0 := by
    intro as s h r hr
    have hbalance : Balance as s r := Balance.of_run h
    apply hbalance.openCovers_eq_zero hr
  have hflagged : ∀ {as : List Action} {s : State},
      (application F).run (launch realm) as = .ok s →
        (application F).EveryStep State.KeepsFlags (launch realm) as → s.Flagged := by
    intro as s h hkeeps
    apply Machine.invariant_of_everyStep_of_invariant (M := application F) (P := State.Flagged)
      hopen _ (State.flagged_launch realm) h hkeeps
    intro s a t hopen hs ha ht
    apply hs.step hopen ha (State.step_eq_ok.mp ht)
  constructor
  · rintro pre post t rfl ht hidle hsettled
    apply (hflagged ht (Machine.everyStep_of_append hkeeps)).agrees hidle hsettled
  · intro a t ht hidle hsettled
    have he := State.step_eq_ok.mp ht
    constructor
    · apply State.keepsFlags_of_agrees he
    · intro ha
      apply ((hflagged h hkeeps).step (hopen h) ha he).agrees hidle hsettled

/-- One of two results is added. -/
theorem flags_agree_iff_dune :
  ∃ s, ((application .onPlainText).run (launch Table.empty)
      [.screen (.searchBarTextDidChange "dune"), .beginRequest 1,
        .bookInfoResponse 0 (responseOf [document 7 "Dune", document 8 "Emma"]),
        .coverResponse ⟨0, 1, bookCoverRequestURL 8⟩ (some [1]),
        .coverResponse ⟨0, 0, bookCoverRequestURL 7⟩ (some [2]), .coversNotified 0,
        .screen .runMainBlock, .userPressedWishlistButton 0,
        .addOrDeleteBookFromWishlist] = .ok s ∧
    (application .onPlainText).EveryStep State.KeepsFlags (launch Table.empty)
      [.screen (.searchBarTextDidChange "dune"), .beginRequest 1,
        .bookInfoResponse 0 (responseOf [document 7 "Dune", document 8 "Emma"]),
        .coverResponse ⟨0, 1, bookCoverRequestURL 8⟩ (some [1]),
        .coverResponse ⟨0, 0, bookCoverRequestURL 7⟩ (some [2]), .coversNotified 0,
        .screen .runMainBlock, .userPressedWishlistButton 0, .addOrDeleteBookFromWishlist]) ∧
    ((application .onPlainText).EveryState (fun s => s.posting = none → s.Settled →
        ∀ o ∈ s.search.bookResults, (s.objects.book o).isInWishlist = true ↔
          s.realm.Holds (s.objects.book o).coverID) (launch Table.empty)
        [.screen (.searchBarTextDidChange "dune"), .beginRequest 1,
          .bookInfoResponse 0 (responseOf [document 7 "Dune", document 8 "Emma"]),
          .coverResponse ⟨0, 1, bookCoverRequestURL 8⟩ (some [1]),
          .coverResponse ⟨0, 0, bookCoverRequestURL 7⟩ (some [2]), .coversNotified 0,
          .screen .runMainBlock, .userPressedWishlistButton 0, .addOrDeleteBookFromWishlist] ∧
      ∀ a t, s.step .onPlainText a = .ok t → t.posting = none → t.Settled →
        ((∀ o ∈ t.search.bookResults, (t.objects.book o).isInWishlist = true ↔
          t.realm.Holds (t.objects.book o).coverID) ↔ s.KeepsFlags a))
  := by
  apply (exists_congr (fun s => and_iff_left_of_imp _)).mpr
  · refine ⟨_, rfl, ?_⟩
    iterate 8 refine (Machine.everyStep_cons (by exact rfl)).mpr ⟨trivial, ?_⟩
    refine (Machine.everyStep_cons (by exact rfl)).mpr ⟨?_, Machine.everyStep_nil⟩
    rintro ref book ⟨⟩ ⟨⟩ o ho hne hc
    rcases List.mem_pair.mp (show o ∈ [0, 1] from ho) with rfl | rfl
    · apply absurd rfl hne
    · apply absurd hc
      decide
  · rintro s ⟨h, hkeeps⟩
    apply flags_agree_iff .onPlainText Table.empty _ s h hkeeps

/-- Of two results with one `coverID`, the one that is not pressed stays unmarked. -/
theorem unmarked_result_of_stored_book :
  ¬ ∀ (F : Foundation) (realm : Realm) (as : List Action) (s : State),
    (application F).run (launch realm) as = .ok s → s.posting = none → s.Settled →
      ∀ o ∈ s.search.bookResults, (s.objects.book o).isInWishlist = true ↔
        s.realm.Holds (s.objects.book o).coverID
  := by
  intro h
  have hagrees := h .onPlainText Table.empty
    [.screen (.searchBarTextDidChange "dune"), .beginRequest 1,
      .bookInfoResponse 0 (responseOf [document 7 "Dune", document 7 "Dune"]),
      .coverResponse ⟨0, 0, bookCoverRequestURL 7⟩ (some [1]),
      .coverResponse ⟨0, 1, bookCoverRequestURL 7⟩ (some [1]), .coversNotified 0,
      .screen .runMainBlock, .userPressedWishlistButton 0, .addOrDeleteBookFromWishlist]
    _ rfl rfl ⟨rfl, rfl, by decide⟩ 1 (by decide)
  have hmarked := hagrees.mpr ⟨0, _, List.mem_cons_self, rfl⟩
  revert hmarked
  decide

end OpenLibrary
