import OpenLibrary.Search.Answers

/-!
# Covers

A phase of `requesBookCovers` takes the results there are and asks for the cover of each. Phases
overlap, and may share books. Still the group of each counts the books of its own phase that have
not been served (`FanIn`), so its `notify` block runs exactly when all have been, and the data a
book has came for the cover of its own `coverID` (`Covers`).
-/

namespace OpenLibrary

/-! ### Whose cover -/

/-- The books structured from a response have no cover. -/
theorem coverData_structureBooks {docs : List JsonObject} {newBooks : List Book}
    (h : structureBooks docs = some newBooks) :
  ∀ b ∈ newBooks, b.coverData = []
  := by
  intro b hb
  obtain ⟨i, hi, rfl⟩ := List.mem_iff_getElem.mp hb
  have hall := List.mapM_eq_some_iff.mp h
  obtain ⟨_, _, _, _, _, _, _, -, -, -, -, -, -, -, he⟩ :=
    structureBook_eq_some.mp (hall.get (hall.length_eq ▸ hi) hi)
  rw [List.get_eq_getElem] at he
  rw [he]

/-- The data of the cover of a book, if it has any, came in answer to the URL of the cover of its
`coverID`. -/
def Delivered (as : List Action) (b : Book) : Prop :=
  b.coverData = [] ∨ ∃ task, .coverResponse task (some b.coverData) ∈ as ∧
    task.url = bookCoverRequestURL b.coverID

theorem Delivered.congr {as : List Action} {b c : Book} (h : Delivered as b)
    (hcoverID : c.coverID = b.coverID) (hcoverData : c.coverData = b.coverData) :
  Delivered as c
  := by
  rw [Delivered, hcoverID, hcoverData]
  apply h

theorem Delivered.mono {as bs : List Action} {b : Book} (h : Delivered as b) :
  Delivered (as ++ bs) b
  := by
  rcases h with hnone | ⟨task, hmem, hurl⟩
  · left
    apply hnone
  · right
    use task, List.mem_append_left bs hmem

/-- What the actions so far, in a process started on a store, say of the covers in a state. -/
structure Covers (realm : Realm) (as : List Action) (s : State) : Prop where
  objects : ∀ o, Delivered as (s.objects.book o)
  records : ∀ row b, (row, b) ∈ s.realm.rows → Delivered as b ∨
    ∃ row' b', (row', b') ∈ realm.rows ∧ b.coverID = b'.coverID ∧ b.coverData = b'.coverData
  results : ∀ o ∈ s.search.bookResults, o < s.objects.next
  nodup : s.search.bookResults.Nodup
  tasks : ∀ task ∈ s.search.coverTasks, task.book < s.objects.next ∧
    task.url = bookCoverRequestURL (s.objects.book task.book).coverID

namespace Covers

variable {F : Foundation} {realm : Realm} {as : List Action} {s t : State} {a : Action}

theorem launch (realm : Realm) :
  Covers realm [] (launch realm)
  := by
  constructor
  · intro o
    left
    rfl
  · intro row b hb
    right
    use row, b, hb
  · intro o ho
    cases ho
  · apply List.nodup_nil
  · intro task htask
    cases htask

/-- Steps that bring no cover and make no book keep the covers. -/
theorem congr (h : Covers realm as s) (hnext : t.objects.next = s.objects.next)
    (hcoverID : ∀ o, (t.objects.book o).coverID = (s.objects.book o).coverID)
    (hcoverData : ∀ o, (t.objects.book o).coverData = (s.objects.book o).coverData)
    (hrecords : ∀ row b, (row, b) ∈ t.realm.rows → Delivered as b ∨
      ∃ row' b', (row', b') ∈ s.realm.rows ∧ b.coverID = b'.coverID ∧ b.coverData = b'.coverData)
    (hresults : t.search.bookResults.Sublist s.search.bookResults)
    (htasks : t.search.coverTasks ⊆ s.search.coverTasks) (a : Action) :
  Covers realm (as ++ [a]) t
  := by
  constructor
  · intro o
    apply ((h.objects o).congr (hcoverID o) (hcoverData o)).mono
  · intro row b hb
    rcases hrecords row b hb with hdelivered | ⟨row', b', hb', hid, hdata⟩
    · left
      apply hdelivered.mono
    · rcases h.records row' b' hb' with hdelivered | ⟨row'', b'', hb'', hid', hdata'⟩
      · left
        apply (hdelivered.congr hid hdata).mono
      · right
        use row'', b'', hb'', hid.trans hid', hdata.trans hdata'
  · intro o ho
    rw [hnext]
    apply h.results o (hresults.subset ho)
  · apply h.nodup.sublist hresults
  · intro task htask
    rw [hnext, hcoverID]
    apply h.tasks task (htasks htask)

/-- Steps that leave the store and the objects alone keep the covers. -/
theorem quiet (h : Covers realm as s) (hobjects : t.objects = s.objects)
    (hrealm : t.realm = s.realm) (hresults : t.search.bookResults.Sublist s.search.bookResults)
    (htasks : t.search.coverTasks ⊆ s.search.coverTasks) (a : Action) :
  Covers realm (as ++ [a]) t
  := by
  apply h.congr
  · rw [hobjects]
  · intro o
    rw [hobjects]
  · intro o
    rw [hobjects]
  · intro row b hb
    right
    rw [hrealm] at hb
    use row, b, hb
  · apply hresults
  · apply htasks

/-- The data of a cover goes to the book it was asked for. -/
theorem received (h : Covers realm as s) {task : CoverTask} (htask : task ∈ s.search.coverTasks)
    (imageData : Data) :
  Covers realm (as ++ [.coverResponse task (some imageData)])
    ((s.coverAnswered task).coverReceived task imageData)
  := by
  have hbook := (s.coverAnswered task).book_coverReceived task imageData
  have hcoverID : ∀ o, (((s.coverAnswered task).coverReceived task imageData).objects.book
      o).coverID = (s.objects.book o).coverID := by
    intro o
    rw [hbook]
    split
    · rfl
    · rfl
  constructor
  · intro o
    rcases eq_or_ne o task.book with rfl | ho
    · right
      refine ⟨task, ?_, ?_⟩
      · rw [hbook, if_pos rfl]
        apply List.mem_append_right _ (List.mem_singleton_self _)
      · rw [hcoverID]
        apply (h.tasks task htask).2
    · rw [hbook, if_neg ho]
      apply (h.objects o).mono
  · intro row b hb
    apply (h.records row b hb).imp_left Delivered.mono
  · apply h.results
  · apply h.nodup
  · intro other hother
    rw [hcoverID]
    apply h.tasks other (List.mem_of_mem_erase hother)

/-- Structured books have no cover yet, and the cover asked for each is that of its
`coverID`. -/
theorem structured (h : Covers realm as s) (r : Nat) {docs : List JsonObject}
    {newBooks : List Book} (hbooks : structureBooks docs = some newBooks) (a : Action) :
  Covers realm (as ++ [a]) (s.booksStructured r newBooks)
  := by
  have hresults := State.lt_next_booksStructured r newBooks h.results
  constructor
  · intro o
    rcases Nat.lt_or_ge o s.objects.next with ho | ho
    · rw [State.book_booksStructured_of_lt r newBooks ho]
      apply (h.objects o).mono
    · obtain ⟨i, rfl⟩ := Nat.exists_eq_add_of_le ho
      rcases Nat.lt_or_ge i newBooks.length with hi | hi
      · left
        rw [State.book_booksStructured s r newBooks (List.getElem?_eq_getElem hi)]
        apply coverData_structureBooks hbooks
        apply List.getElem_mem hi
      · rw [State.objects_booksStructured, Objects.book_allocAll_of_le (by omega)]
        apply (h.objects _).mono
  · intro row b hb
    rw [State.realm_booksStructured] at hb
    apply (h.records row b hb).imp_left Delivered.mono
  · apply hresults
  · rw [State.bookResults_booksStructured]
    apply List.Nodup.append h.nodup (List.nodup_range' (h := Nat.one_pos))
    intro o ho ho'
    apply Nat.not_lt_of_le (List.mem_range'_1.mp ho').1 (h.results o ho)
  · intro task htask
    rw [State.coverTasks_booksStructured] at htask
    rcases List.mem_append.mp htask with htask | htask
    · obtain ⟨hlt, hurl⟩ := h.tasks task htask
      rw [State.book_booksStructured_of_lt r newBooks hlt, State.next_booksStructured]
      use Nat.lt_add_right _ hlt
    · obtain ⟨o, ho, rfl⟩ := List.mem_map.mp htask
      exact ⟨hresults o ho, rfl⟩

/-- The records after the handler of a press are old ones, and the copy of the book. -/
theorem records_wishlistUpdated (h : Covers realm as s) {ref : BookRef} {book : Book}
    (hread : s.read? ref = some book) :
  ∀ row b, (row, b) ∈ (s.wishlistUpdated book).realm.rows → Delivered as b ∨
    ∃ row' b', (row', b') ∈ s.realm.rows ∧ b.coverID = b'.coverID ∧ b.coverData = b'.coverData
  := by
  have hold : ∀ row b, (row, b) ∈ s.realm.rows → Delivered as b ∨
      ∃ row' b', (row', b') ∈ s.realm.rows ∧ b.coverID = b'.coverID ∧
        b.coverData = b'.coverData := by
    intro row b hb
    right
    use row, b, hb
  intro row b hb
  change (row, b) ∈ (State.addOrDelete s.realm s.wishList book).1.rows at hb
  rw [State.addOrDelete] at hb
  split at hb
  · split at hb
    · rcases Table.mem_insert.mp hb with hb | hb
      · apply hold row b hb
      · obtain ⟨-, rfl⟩ := Prod.mk.inj hb
        cases ref with
        | detached o =>
            left
            obtain rfl := Option.some.inj hread
            apply (h.objects o).congr rfl rfl
        | stored row' =>
            right
            exact ⟨row', book, (Table.find?_eq_some.mp hread), rfl, rfl⟩
    · apply hold row b hb
  · apply hold row b (Table.mem_delete.mp hb).1

/-- The flags of the results are no concern of the covers. -/
theorem notified (h : Covers realm as s) (r : Nat) (a : Action) :
  Covers realm (as ++ [a]) ((s.notifyTaken r).determineWishlistBooks.complete r true)
  := by
  have hbook : ∀ o, ((s.notifyTaken r).determineWishlistBooks.complete r true).objects.book o =
      if o ∈ s.search.bookResults ∧ s.realm.countCover (s.objects.book o).coverID ≠ 0 then
        { s.objects.book o with isInWishlist := true }
      else
        s.objects.book o := by
    intro o
    apply State.book_foldl_determineWishlistBook
  apply h.congr
  · apply State.next_determineWishlistBooks (s.notifyTaken r)
  · intro o
    rw [hbook]
    split
    · rfl
    · rfl
  · intro o
    rw [hbook]
    split
    · rfl
    · rfl
  · intro row b hb
    right
    use row, b, hb
  · apply List.Sublist.refl
  · apply List.Subset.refl

/-- The flag of the book pressed is no concern of the covers. -/
theorem toggled (h : Covers realm as s) (ref : BookRef) (a : Action) :
  Covers realm (as ++ [a]) (s.toggled ref)
  := by
  cases ref with
  | detached p =>
      have hbook : ∀ o, (s.toggled (.detached p)).objects.book o =
          if o = p then (s.objects.book p).toggle else s.objects.book o := by
        intro o
        apply Objects.book_modify
      apply h.congr
      · rfl
      · intro o
        rw [hbook]
        split
        · next ho => rw [ho, Book.coverID_toggle]
        · rfl
      · intro o
        rw [hbook]
        split
        · next ho =>
            rw [ho]
            rfl
        · rfl
      · intro row b hb
        right
        use row, b, hb
      · apply List.Sublist.refl
      · apply List.Subset.refl
  | stored i =>
      apply h.congr
      · rfl
      · intro o
        rfl
      · intro o
        rfl
      · intro row b hb
        right
        obtain ⟨c, hc, rfl⟩ := Table.mem_modify.mp hb
        use row, c, hc
        split
        · exact ⟨rfl, rfl⟩
        · exact ⟨rfl, rfl⟩
      · apply List.Sublist.refl
      · apply List.Subset.refl

/-- Every step keeps the covers the right ones. -/
theorem step (h : Covers realm as s) (he : Effect F s a t) :
  Covers realm (as ++ [a]) t
  := by
  cases he with
  | screen | timer | noResults | emptyResults =>
      apply h.quiet
      · rfl
      · rfl
      · apply List.Sublist.refl
      · apply List.Subset.refl
  | request =>
      apply h.quiet
      · rfl
      · rfl
      · apply List.nil_sublist
      · apply List.Subset.refl
  | @results r data docs newBooks hr hdata hdocs hbooks =>
      have hanswered : Covers realm as (s.infoAnswered r) :=
        ⟨h.objects, h.records, h.results, h.nodup, h.tasks⟩
      apply hanswered.structured r hbooks
  | noCover =>
      apply h.quiet
      · rfl
      · rfl
      · apply List.Sublist.refl
      · apply List.erase_subset
  | cover htask => apply h.received htask
  | notified => apply h.notified
  | pressed => apply h.toggled
  | updated hposting hread =>
      apply h.congr
      · rfl
      · intro o
        rfl
      · intro o
        rfl
      · apply h.records_wishlistUpdated hread
      · apply List.Sublist.refl
      · apply List.Subset.refl

/-- Every run keeps the covers the right ones. -/
theorem of_run (h : (application F).run (OpenLibrary.launch realm) as = .ok s) :
  Covers realm as s
  := by
  apply Machine.traced (M := application F) (P := Covers realm) (launch realm) _ h
  intro as s a t _ hs ht
  apply hs.step (State.step_eq_ok.mp ht)

end Covers

/-! ### The fan-in of a phase -/

/-- The action brings the data of the cover of a book in the phase of a call. -/
def Action.serves (r o : Nat) : Action → Bool
  | .coverResponse task (some _) => task.request == r && task.book == o
  | _ => false

/-- The data of the cover of a book came in the phase of a call. -/
def served (as : List Action) (r o : Nat) : Bool :=
  as.any (Action.serves r o)

theorem served_concat (as : List Action) (a : Action) (r o : Nat) :
  served (as ++ [a]) r o = (served as r o || a.serves r o)
  := by
  rw [served, List.any_append, List.any_cons, List.any_nil, Bool.or_false]
  rfl

/-- The books whose covers are in flight for a call. -/
def State.openBooks (s : State) (r : Nat) : List Nat :=
  (s.search.coverTasks.filter (fun task => task.request == r)).map CoverTask.book

/-- What the actions since the beginning of the phase of a call, with the books of the phase, say
of a state. -/
structure FanIn (r : Nat) (snapshot : List Nat) (as : List Action) (s : State) : Prop where
  begun : r < s.search.requests
  answered : r ∉ s.search.infoTasks
  group : s.search.groups r = snapshot.countP (fun o => !served as r o)
  nodup : (s.openBooks r).Nodup
  unserved : ∀ o ∈ s.openBooks r, o ∈ snapshot ∧ served as r o = false
  waiting : .coversNotified r ∉ as → s.search.notifies.count r = 1
  notified : .coversNotified r ∈ as → s.search.notifies.count r = 0

namespace FanIn

variable {F : Foundation} {r : Nat} {snapshot : List Nat} {as : List Action} {s t : State}
  {a : Action}

/-- Steps that serve no book of the phase and do not run its `notify` block keep the fan-in. -/
theorem congr (h : FanIn r snapshot as s) (hrequests : s.search.requests ≤ t.search.requests)
    (hinfo : r ∉ t.search.infoTasks) (hgroup : t.search.groups r = s.search.groups r)
    (hcoverTasks : (t.openBooks r).Sublist (s.openBooks r))
    (hnotifies : t.search.notifies.count r = s.search.notifies.count r)
    (hserves : ∀ o, a.serves r o = false) (hnotified : a ≠ .coversNotified r) :
  FanIn r snapshot (as ++ [a]) t
  := by
  have hserved : served (as ++ [a]) r = served as r := by
    funext o
    rw [served_concat, hserves, Bool.or_false]
  have hmem : .coversNotified r ∈ as ++ [a] ↔ .coversNotified r ∈ as := by
    rw [List.mem_append, List.mem_singleton]
    apply or_iff_left hnotified.symm
  constructor
  · apply Nat.lt_of_lt_of_le h.begun hrequests
  · apply hinfo
  · rw [hgroup, hserved]
    apply h.group
  · apply h.nodup.sublist hcoverTasks
  · intro o ho
    rw [hserved]
    apply h.unserved o (hcoverTasks.subset ho)
  · rw [hmem, hnotifies]
    apply h.waiting
  · rw [hmem, hnotifies]
    apply h.notified

/-- Steps that leave the search manager alone keep the fan-in. -/
theorem quiet (h : FanIn r snapshot as s) (hsearch : t.search = s.search)
    (hserves : ∀ o, a.serves r o = false) (hnotified : a ≠ .coversNotified r) :
  FanIn r snapshot (as ++ [a]) t
  := by
  apply h.congr
  · rw [hsearch]
  · rw [hsearch]
    apply h.answered
  · rw [hsearch]
  · rw [State.openBooks, hsearch]
    apply List.Sublist.refl
  · rw [hsearch]
  · apply hserves
  · apply hnotified

/-- Answering a cover task takes its book from those whose covers are in flight. -/
theorem openBooks_coverAnswered {task : CoverTask} (htask : task ∈ s.search.coverTasks) :
  (s.openBooks task.request).Perm
    (task.book :: (s.coverAnswered task).openBooks task.request)
  := by
  have hperm := ((List.perm_cons_erase htask).filter
    (fun other => other.request == task.request)).map CoverTask.book
  rw [List.filter_cons_of_pos (p := fun other : CoverTask => other.request ==
    task.request) (beq_self_eq_true _)] at hperm
  apply hperm

theorem openBooks_coverAnswered_sublist (s : State) (task : CoverTask) (r : Nat) :
  ((s.coverAnswered task).openBooks r).Sublist (s.openBooks r)
  := by
  apply List.Sublist.map
  apply List.Sublist.filter
  apply List.erase_sublist

/-- The covers a call asks for are none of another call's. -/
theorem openBooks_booksStructured_of_ne {r' : Nat} (newBooks : List Book) (h : r ≠ r') :
  (s.booksStructured r' newBooks).openBooks r = s.openBooks r
  := by
  have hnone : ∀ books : List Nat, (books.map ((s.booksStructured r' newBooks).coverTask
      r')).filter (fun task => task.request == r) = [] := by
    intro books
    apply List.filter_eq_nil_iff.mpr
    intro task htask
    obtain ⟨o, -, rfl⟩ := List.mem_map.mp htask
    simpa [State.coverTask] using h.symm
  rw [State.openBooks, State.coverTasks_booksStructured, List.filter_append, hnone,
    List.append_nil]
  rfl

/-- A call without covers in flight asks for those of its results. -/
theorem openBooks_booksStructured (newBooks : List Book) (h : s.openBooks r = []) :
  (s.booksStructured r newBooks).openBooks r =
    (s.booksStructured r newBooks).search.bookResults
  := by
  have hall : ∀ books : List Nat, (books.map ((s.booksStructured r newBooks).coverTask r)).filter
      (fun task => task.request == r) =
        books.map ((s.booksStructured r newBooks).coverTask r) := by
    intro books
    apply List.filter_eq_self.mpr
    intro task htask
    obtain ⟨o, -, rfl⟩ := List.mem_map.mp htask
    apply beq_self_eq_true
  have hid : CoverTask.book ∘ (s.booksStructured r newBooks).coverTask r = id := rfl
  rw [State.openBooks] at h
  rw [State.openBooks, State.coverTasks_booksStructured, List.filter_append, List.map_append, h,
    hall, List.nil_append, List.map_map, hid, List.map_id]

/-- The data of a cover of the phase serves its book. -/
theorem received {task : CoverTask} (h : FanIn task.request snapshot as s)
    (hsnapshot : snapshot.Nodup) (htask : task ∈ s.search.coverTasks) (imageData : Data) :
  FanIn task.request snapshot (as ++ [.coverResponse task (some imageData)])
    ((s.coverAnswered task).coverReceived task imageData)
  := by
  have hperm := openBooks_coverAnswered htask
  obtain ⟨hbook, hnodup⟩ := List.nodup_cons.mp (hperm.nodup_iff.mp h.nodup)
  obtain ⟨hmem, hunserved⟩ := h.unserved task.book (hperm.mem_iff.mpr List.mem_cons_self)
  have hserved : ∀ o, served (as ++ [.coverResponse task (some imageData)]) task.request o =
      (served as task.request o || o == task.book) := by
    intro o
    rw [served_concat, Action.serves, beq_self_eq_true, Bool.true_and, Bool.beq_comm]
  have hnotmem : .coversNotified task.request ∈ as ++ [.coverResponse task (some imageData)] ↔
      .coversNotified task.request ∈ as := by
    rw [List.mem_append, List.mem_singleton]
    apply or_iff_left
    intro he
    cases he
  constructor
  · apply h.begun
  · apply h.answered
  · have hcount := List.countP_and_ne_add_one (p := fun o => !served as task.request o) hsnapshot
      hmem (by rw [hunserved]; rfl)
    have hgroup := h.group
    change Function.update s.search.groups task.request (s.search.groups task.request - 1)
      task.request = _
    rw [Function.update_self]
    have hpred : (fun o => !served (as ++ [.coverResponse task (some imageData)]) task.request o) =
        fun o => !served as task.request o && o != task.book := by
      funext o
      rw [hserved, Bool.not_or]
      rfl
    rw [hpred]
    omega
  · apply hnodup
  · intro o ho
    obtain ⟨ho', hun⟩ := h.unserved o (hperm.mem_iff.mpr (List.mem_cons_of_mem _ ho))
    use ho'
    rw [hserved, hun, Bool.false_or, beq_eq_false_iff_ne]
    rintro rfl
    apply hbook ho
  · rw [hnotmem]
    apply h.waiting
  · rw [hnotmem]
    apply h.notified

/-- The `notify` block of the phase is done when it has run. -/
theorem taken (h : FanIn r snapshot as s) (hr : r ∈ s.search.notifies) :
  FanIn r snapshot (as ++ [.coversNotified r])
    ((s.notifyTaken r).determineWishlistBooks.complete r true)
  := by
  have hserved : served (as ++ [.coversNotified r]) r = served as r := by
    funext o
    rw [served_concat]
    apply Bool.or_false
  have hmem : .coversNotified r ∈ as ++ [.coversNotified r] :=
    List.mem_append_right _ (List.mem_singleton_self _)
  have hcount : s.search.notifies.count r = 1 := by
    apply h.waiting
    intro hnotified
    apply absurd (h.notified hnotified) (List.count_pos_iff.mpr hr).ne'
  constructor
  · apply h.begun
  · apply h.answered
  · rw [hserved]
    apply h.group
  · apply h.nodup
  · rw [hserved]
    apply h.unserved
  · intro hnot
    apply absurd hmem hnot
  · intro _
    change (s.search.notifies.erase r).count r = 0
    rw [List.count_erase_self, hcount]

/-- A step keeps the fan-in of a phase that has begun. -/
theorem step (h : FanIn r snapshot as s) (hsnapshot : snapshot.Nodup) (he : Effect F s a t) :
  FanIn r snapshot (as ++ [a]) t
  := by
  have hne : ∀ {r'}, r' ∈ s.search.infoTasks → r ≠ r' := by
    rintro r' hr' rfl
    apply h.answered hr'
  cases he with
  | screen | timer | updated =>
      apply h.quiet
      · rfl
      · intro o
        rfl
      · intro he
        cases he
  | request =>
      apply h.congr
      · apply Nat.le_succ
      · change r ∉ s.search.infoTasks ++ [s.search.requests]
        rw [List.mem_append, List.mem_singleton, not_or]
        exact ⟨h.answered, h.begun.ne⟩
      · rfl
      · apply List.Sublist.refl
      · rfl
      · intro o
        rfl
      · intro he
        cases he
  | noResults | emptyResults =>
      apply h.congr
      · apply Nat.le_refl
      · intro hr
        apply h.answered (List.mem_of_mem_erase hr)
      · rfl
      · apply List.Sublist.refl
      · rfl
      · intro o
        rfl
      · intro he
        cases he
  | @results r' data docs newBooks hr' hdata hdocs hbooks =>
      apply h.congr
      · rw [State.requests_booksStructured]
        apply Nat.le_refl
      · rw [State.infoTasks_booksStructured]
        intro hr
        apply h.answered (List.mem_of_mem_erase hr)
      · apply State.group_booksStructured_of_ne _ _ _ (hne hr')
      · rw [openBooks_booksStructured_of_ne _ (hne hr')]
        apply List.Sublist.refl
      · rw [State.notifies_booksStructured, List.count_append, List.count_singleton, if_neg]
        · rfl
        · simpa using (hne hr').symm
      · intro o
        rfl
      · intro he
        cases he
  | @noCover task htask =>
      apply h.congr
      · apply Nat.le_refl
      · apply h.answered
      · rfl
      · apply openBooks_coverAnswered_sublist
      · rfl
      · intro o
        rfl
      · intro he
        cases he
  | @cover task imageData htask =>
      rcases eq_or_ne task.request r with rfl | hr
      · apply h.received hsnapshot htask
      · apply h.congr
        · apply Nat.le_refl
        · apply h.answered
        · apply Function.update_of_ne hr.symm
        · apply openBooks_coverAnswered_sublist
        · rfl
        · intro o
          rw [Action.serves, beq_eq_false_iff_ne.mpr hr, Bool.false_and]
        · intro he
          cases he
  | @notified r' hr' hgroup =>
      rcases eq_or_ne r' r with rfl | hr
      · apply h.taken hr'
      · apply h.congr
        · apply Nat.le_refl
        · apply h.answered
        · rfl
        · apply List.Sublist.refl
        · change (s.search.notifies.erase r').count r = _
          apply List.count_erase_of_ne hr.symm
        · intro o
          rfl
        · intro he
          apply hr (Action.coversNotified.inj he)
  | @pressed _ ref book hidle hpress hread =>
      apply h.quiet
      · apply State.search_toggled
      · intro o
        apply State.press_induction hpress
        · intro row
          rfl
        · rfl
      · rintro rfl
        cases hpress

/-- A phase begins with the covers of its books in flight. -/
theorem begin {bs : List Action} (hbalance : Balance bs s r) (hr : r ∈ s.search.infoTasks)
    {newBooks : List Book}
    (hnodup : ((s.infoAnswered r).booksStructured r newBooks).search.bookResults.Nodup) :
  FanIn r ((s.infoAnswered r).booksStructured r newBooks).search.bookResults []
    ((s.infoAnswered r).booksStructured r newBooks)
  := by
  have hconserved := hbalance.conserved
  simp only [places] at hconserved
  have hpos := List.count_pos_iff.mpr hr
  have hopen : (s.infoAnswered r).openBooks r = [] := by
    have hzero := hbalance.openCovers_eq_zero hr
    rw [State.openCovers, List.countP_eq_length_filter] at hzero
    rw [State.openBooks, List.map_eq_nil_iff]
    apply List.length_eq_zero_iff.mp hzero
  constructor
  · rw [State.requests_booksStructured]
    change r < s.search.requests
    omega
  · rw [State.infoTasks_booksStructured]
    change r ∉ s.search.infoTasks.erase r
    apply List.count_eq_zero.mp
    rw [List.count_erase_self]
    omega
  · rw [State.group_booksStructured]
    apply (List.countP_eq_length.mpr _).symm
    intro o _
    rfl
  · rw [openBooks_booksStructured newBooks hopen]
    apply hnodup
  · rw [openBooks_booksStructured newBooks hopen]
    intro o ho
    exact ⟨ho, rfl⟩
  · intro _
    rw [State.notifies_booksStructured, List.count_append, List.count_singleton_self]
    change s.search.notifies.count r + 1 = 1
    omega
  · intro hmem
    cases hmem

/-- The group is empty exactly when every book of the phase has been served. -/
theorem group_eq_zero_iff (h : FanIn r snapshot as s) :
  s.search.groups r = 0 ↔ ∀ o ∈ snapshot, served as r o
  := by
  rw [h.group, List.countP_eq_zero]
  apply forall₂_congr
  intro o _
  rw [Bool.not_eq_true, Bool.not_eq_false']

/-- A run keeps the fan-in of a phase that has begun. -/
theorem of_run (h : FanIn r snapshot [] s) (hsnapshot : snapshot.Nodup)
    (hrun : (application F).run s as = .ok t) :
  FanIn r snapshot as t
  := by
  apply Machine.traced (M := application F) (P := FanIn r snapshot) h _ hrun
  intro as t a u _ ht hu
  apply ht.step hsnapshot (State.step_eq_ok.mp hu)

/-- The `notify` block of the phase has not run before when it runs, and every book of the phase
has been served. -/
theorem of_coversNotified (h : FanIn r snapshot as s)
    (hstep : s.coversNotified r = .ok t) :
  .coversNotified r ∉ as ∧ ∀ o ∈ snapshot, served as r o
  := by
  obtain ⟨⟨hr, hgroup⟩, -⟩ := State.coversNotified_eq_ok.mp hstep
  constructor
  · intro hmem
    apply absurd (h.notified hmem) (List.count_pos_iff.mpr hr).ne'
  · apply h.group_eq_zero_iff.mp hgroup

/-- Where every book of the phase has been served, its `notify` block has run, or can run. -/
theorem notified_or_due (h : FanIn r snapshot as s) (hserved : ∀ o ∈ snapshot, served as r o) :
  .coversNotified r ∈ as ∨ r ∈ s.search.notifies ∧ s.search.groups r = 0
  := by
  rcases Classical.em (.coversNotified r ∈ as) with hmem | hmem
  · left
    apply hmem
  · right
    use List.count_pos_iff.mp (by rw [h.waiting hmem]; apply Nat.one_pos)
    apply h.group_eq_zero_iff.mpr hserved

end FanIn

/-- In every run, the cover of each book in memory is empty or came in answer to the URL of the
cover of its own `coverID`, and so is that of each record, or the record was in the store with it
when the process started. Of every phase of `requesBookCovers` begun in the run: its completion
is called once at most, and then each book of the phase has been served in the phase; it has been
called or can be called exactly when each has, as where the phase has no books; and when
everything issued has been delivered, it has been called exactly when each has. -/
theorem covers_fan_in (F : Foundation) (realm : Realm) (as : List Action) (s : State)
    (h : (application F).run (launch realm) as = .ok s) :
  (∀ o, Delivered as (s.objects.book o)) ∧
    (∀ row b, (row, b) ∈ s.realm.rows → Delivered as b ∨ ∃ row' b', (row', b') ∈ realm.rows ∧
      b.coverID = b'.coverID ∧ b.coverData = b'.coverData) ∧
    ∀ pre r data docs post v, as = pre ++ .bookInfoResponse r data :: post →
      data.bookResultsJSON? = some docs → docs ≠ [] →
      (application F).run (launch realm) (pre ++ [.bookInfoResponse r data]) = .ok v →
      (∀ before after, post = before ++ .coversNotified r :: after →
        .coversNotified r ∉ before ∧ ∀ o ∈ v.search.bookResults, served before r o) ∧
      (.coversNotified r ∈ post ∨ (∃ t, (application F).step s (.coversNotified r) = .ok t) ↔
        ∀ o ∈ v.search.bookResults, served post r o) ∧
      (s.Settled → (.coversNotified r ∈ post ↔ ∀ o ∈ v.search.bookResults, served post r o))
  := by
  have hcovers := Covers.of_run h
  refine ⟨hcovers.objects, hcovers.records, ?_⟩
  rintro pre r data docs post v rfl hdata hdocs hv
  obtain ⟨u, hu, huv⟩ := Machine.run_concat.mp hv
  have hpost : (application F).run v post = .ok s := by
    obtain ⟨u', hu', hus⟩ := Machine.run_append.mp h
    obtain rfl := Except.ok.inj (hu.symm.trans hu')
    obtain ⟨v', hv', hvs⟩ := Machine.run_cons.mp hus
    obtain rfl := Except.ok.inj (huv.symm.trans hv')
    apply hvs
  have hnodup := (Covers.of_run hv).nodup
  have hbegin : FanIn r v.search.bookResults [] v := by
    have he : Effect F u (.bookInfoResponse r data) v := State.step_eq_ok.mp huv
    cases he with
    | noResults hr hnone => cases hnone.symm.trans hdata
    | emptyResults hr hempty => apply absurd (Option.some.inj (hdata.symm.trans hempty)) hdocs
    | results hr => apply FanIn.begin (Balance.of_run hu) hr hnodup
    | pressed hidle hpress => cases hpress
  have hfanIn := hbegin.of_run hnodup hpost
  have honce : ∀ before after, post = before ++ .coversNotified r :: after →
      .coversNotified r ∉ before ∧ ∀ o ∈ v.search.bookResults, served before r o := by
    rintro before after rfl
    obtain ⟨w, hw, hws⟩ := Machine.run_append.mp hpost
    obtain ⟨w', hw', -⟩ := Machine.run_cons.mp hws
    apply (hbegin.of_run hnodup hw).of_coversNotified hw'
  have hdone : .coversNotified r ∈ post → ∀ o ∈ v.search.bookResults, served post r o := by
    intro hmem o ho
    obtain ⟨before, after, rfl⟩ := List.append_of_mem hmem
    rw [served, List.any_append, Bool.or_eq_true]
    left
    apply (honce before after rfl).2 o ho
  refine ⟨honce, ?_, ?_⟩
  · constructor
    · rintro (hmem | ⟨t, ht⟩)
      · apply hdone hmem
      · apply (hfanIn.of_coversNotified ht).2
    · intro hserved
      apply (hfanIn.notified_or_due hserved).imp_right
      intro hdue
      exact ⟨_, State.coversNotified_eq_ok.mpr ⟨hdue, rfl⟩⟩
  · intro hsettled
    constructor
    · apply hdone
    · intro hserved
      apply (hfanIn.notified_or_due hserved).resolve_right
      rintro ⟨hr, hgroup⟩
      apply hsettled.notifies r hr hgroup

/-- Two phases, of which the second has the book of the first too, and its covers first. -/
theorem covers_fan_in_dune :
  ∃ s v, (application .onPlainText).run (launch Table.empty)
      [.screen (.searchBarTextDidChange "emma"), .beginRequest 1,
        .screen (.searchBarTextDidChange "dune"), .beginRequest 2,
        .bookInfoResponse 0 (responseOf [document 8 "Emma"]),
        .bookInfoResponse 1 (responseOf [document 7 "Dune"]),
        .coverResponse ⟨1, 1, bookCoverRequestURL 7⟩ (some [1]),
        .coverResponse ⟨1, 0, bookCoverRequestURL 8⟩ (some [2]), .coversNotified 1,
        .coverResponse ⟨0, 0, bookCoverRequestURL 8⟩ (some [3]), .coversNotified 0] = .ok s ∧
    (application .onPlainText).run (launch Table.empty)
      [.screen (.searchBarTextDidChange "emma"), .beginRequest 1,
        .screen (.searchBarTextDidChange "dune"), .beginRequest 2,
        .bookInfoResponse 0 (responseOf [document 8 "Emma"]),
        .bookInfoResponse 1 (responseOf [document 7 "Dune"])] = .ok v ∧
    ∀ o ∈ v.search.bookResults, served
      [.coverResponse ⟨1, 1, bookCoverRequestURL 7⟩ (some [1]),
        .coverResponse ⟨1, 0, bookCoverRequestURL 8⟩ (some [2])] 1 o
  := by
  refine ⟨_, _, rfl, rfl, ?_⟩
  apply ((covers_fan_in .onPlainText Table.empty _ _ rfl).2.2
    [.screen (.searchBarTextDidChange "emma"), .beginRequest 1,
      .screen (.searchBarTextDidChange "dune"), .beginRequest 2,
      .bookInfoResponse 0 (responseOf [document 8 "Emma"])] 1
    (responseOf [document 7 "Dune"]) [document 7 "Dune"]
    [.coverResponse ⟨1, 1, bookCoverRequestURL 7⟩ (some [1]),
      .coverResponse ⟨1, 0, bookCoverRequestURL 8⟩ (some [2]), .coversNotified 1,
      .coverResponse ⟨0, 0, bookCoverRequestURL 8⟩ (some [3]), .coversNotified 0] _ rfl rfl
    (by simp) rfl).1
    [.coverResponse ⟨1, 1, bookCoverRequestURL 7⟩ (some [1]),
      .coverResponse ⟨1, 0, bookCoverRequestURL 8⟩ (some [2])]
    [.coverResponse ⟨0, 0, bookCoverRequestURL 8⟩ (some [3]), .coversNotified 0] rfl |>.2

end OpenLibrary
