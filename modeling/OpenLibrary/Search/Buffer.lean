import OpenLibrary.Wishlist.Copies

/-!
# What the results hold

Calls overlap, and each empties and fills the one array `bookResults`. Whatever the order, the
results are what the arrivals of the run make of them, one after the other: a call that begins
empties them, a response appends the books of its clean documents, without covers, and the data of
a cover goes to the book it was asked for, if it is still among the results. Nothing else changes
what is displayed of them but the flag (`results_replay_arrivals`).
-/

namespace OpenLibrary

/-! ### Arrivals -/

/-- What changes the results: a call begins, the books of a response arrive, each under the
identity it is given, or the cover of a book arrives. -/
inductive Arrival where
  | called
  | books (newBooks : List (Nat × Book))
  | cover (o : Nat) (imageData : Data)

/-- The results after an arrival. -/
def arrive (results : List (Nat × Book)) : Arrival → List (Nat × Book)
  | .called => []
  | .books newBooks => results ++ newBooks
  | .cover o imageData => results.map (fun p =>
      if p.1 = o then (p.1, { p.2 with coverData := imageData }) else p)

example :
    ([Arrival.books [(0, { coverID := 7 })], .cover 0 [1], .called, .books [(1, { coverID := 9 })],
      .cover 0 [2]].foldl arrive []).map Prod.snd = [{ coverID := 9 }] := by
  decide

/-- The books an arrival appends. -/
def Arrival.newBooks : Arrival → List (Nat × Book)
  | called => []
  | books newBooks => newBooks
  | cover _ _ => []

/-- The texts of the results, while no call begins, are those that arrive, after those there
were. -/
theorem map_text_foldl_arrive {arrivals : List Arrival} (h : .called ∉ arrivals)
    (results : List (Nat × Book)) :
  (arrivals.foldl arrive results).map (fun p => p.2.text) =
    results.map (fun p => p.2.text) ++
      (arrivals.flatMap Arrival.newBooks).map (fun p => p.2.text)
  := by
  induction arrivals generalizing results with
  | nil => exact (List.append_nil _).symm
  | cons arrival arrivals ih =>
      obtain ⟨hfirst, hrest⟩ := List.ne_and_not_mem_of_not_mem_cons h
      rw [List.foldl_cons, ih hrest, List.flatMap_cons, List.map_append, ← List.append_assoc]
      congr 1
      cases arrival with
      | called => cases hfirst rfl
      | books newBooks => apply List.map_append
      | cover o imageData =>
          rw [arrive, Arrival.newBooks, List.map_nil, List.append_nil, List.map_map]
          apply List.map_congr_left
          intro p _
          rw [Function.comp_apply]
          split
          · rfl
          · rfl

/-- The books of the clean documents of a response; none if there is no response. -/
def InfoData.newBooks (data : InfoData) : List Book :=
  (data.bookResultsJSON?.bind structureBooks).getD []

namespace State

/-- What an action brings to the results. -/
def arrivals (s : State) : Action → List Arrival
  | .beginRequest _ => if s.userInfo.isSome then [.called] else []
  | .bookInfoResponse _ data => [.books ((s.newResults data.newBooks).zip data.newBooks)]
  | .coverResponse task (some imageData) => [.cover task.book imageData]
  | _ => []

/-- The results, each under its identity, with all that is displayed of it but the flag. -/
def buffer (s : State) : List (Nat × Book) :=
  s.search.bookResults.map (fun o => (o, (s.objects.book o).display))

/-- Steps that neither change the results nor what is displayed of them. -/
theorem buffer_congr {s t : State} (hresults : t.search.bookResults = s.search.bookResults)
    (hbooks : ∀ o ∈ s.search.bookResults,
      (t.objects.book o).display = (s.objects.book o).display) :
  t.buffer = s.buffer
  := by
  rw [buffer, buffer, hresults]
  apply List.map_congr_left
  intro o ho
  rw [hbooks o ho]

/-- The books of a response are appended to the results. -/
theorem buffer_booksStructured {s : State} (h : s.Known) (r : Nat) {newBooks : List Book}
    (hplain : ∀ b ∈ newBooks, b.isInWishlist = false) :
  (s.booksStructured r newBooks).buffer = s.buffer ++ (s.newResults newBooks).zip newBooks
  := by
  rw [buffer, bookResults_booksStructured, List.map_append]
  congr 1
  · apply List.map_congr_left
    intro o ho
    rw [book_booksStructured_of_lt r newBooks (h.results o ho)]
  · apply List.ext_getElem?
    intro i
    rw [List.getElem?_map, newResults, List.zip, List.getElem?_zipWith]
    rcases Nat.lt_or_ge i newBooks.length with hi | hi
    · rw [List.getElem?_range' (by simpa using hi), Option.map_some, Nat.one_mul,
        book_booksStructured s r newBooks (List.getElem?_eq_getElem hi), List.getElem?_eq_getElem hi]
      have hdisplay : newBooks[i].display = newBooks[i] := by
        rw [Book.display, ← hplain newBooks[i] (List.getElem_mem hi)]
      rw [hdisplay]
    · rw [List.getElem?_eq_none (by simpa using hi), List.getElem?_eq_none hi]
      rfl

/-- The data of a cover goes to the book it was asked for. -/
theorem buffer_coverReceived (s : State) (task : CoverTask) (imageData : Data) :
  (s.coverReceived task imageData).buffer = arrive s.buffer (.cover task.book imageData)
  := by
  rw [arrive, buffer, buffer, List.map_map]
  apply List.map_congr_left
  intro o _
  rw [book_coverReceived, Function.comp_apply]
  split
  · rfl
  · rfl

variable {F : Foundation} {s t : State} {a : Action}

/-- What a step does to the results is what it brings to them. -/
theorem buffer_step (h : s.Known) (he : Effect F s a t) :
  t.buffer = (s.arrivals a).foldl arrive s.buffer
  := by
  cases he with
  | screen | noCover => rfl
  | timer hidle htimer hinfo =>
      rw [arrivals, hinfo]
      rfl
  | request hidle htimer hinfo =>
      rw [arrivals, hinfo]
      rfl
  | noResults hr hdata =>
      rw [arrivals, InfoData.newBooks, hdata]
      exact (List.append_nil _).symm
  | emptyResults hr hdata =>
      rw [arrivals, InfoData.newBooks, hdata]
      exact (List.append_nil _).symm
  | @results r data docs newBooks hr hdata hdocs hbooks =>
      have hnew : data.newBooks = newBooks := by
        rw [InfoData.newBooks, hdata, Option.bind_some, hbooks, Option.getD_some]
      have hanswered : (s.infoAnswered r).Known := ⟨h.results, h.screen, h.posting⟩
      rw [arrivals, hnew]
      apply buffer_booksStructured hanswered r (isInWishlist_structureBooks hbooks)
  | @cover task imageData htask => apply buffer_coverReceived (s.coverAnswered task)
  | @notified r hr hgroup =>
      apply buffer_congr
      · rfl
      · intro o _
        have hbook := book_foldl_determineWishlistBook s.realm s.search.bookResults s.objects o
        apply Eq.trans (congrArg Book.display hbook)
        split
        · rfl
        · rfl
  | @pressed _ ref book hidle hpress hread =>
      have hnone : s.arrivals a = [] := by
        apply press_induction hpress
        · intro row
          rfl
        · rfl
      rw [hnone]
      apply buffer_congr
      · rw [search_toggled]
      · intro o _
        by_cases hdetached : ref = .detached o
        · rw [hdetached, toggled, Objects.book_modify, if_pos rfl]
          rfl
        · rw [book_toggled_of_ne s ref hdetached]
  | updated => rfl

end State

/-! ### Runs -/

/-- The application with what arrives. -/
def collected (F : Foundation) : Machine (State × List Arrival) Action Fault :=
  (application F).withLog State.arrivals

/-- In every run, however calls and covers overlap, what is displayed of the results, but for the
flag, is what the arrivals of the run make of them in the order in which they came; and the texts of
the results are those of all the books that arrived since the last call began, in that order. -/
theorem results_replay_arrivals (F : Foundation) (realm : Realm) (as : List Action)
    (x : State × List Arrival) (h : (collected F).run (launch realm, []) as = .ok x) :
  x.1.buffer = x.2.foldl arrive [] ∧
    ∀ pre post, x.2 = pre ++ .called :: post → .called ∉ post →
      x.1.results.map Book.text =
        (post.flatMap Arrival.newBooks).map (fun p => p.2.text)
  := by
  have hbuffer : x.1.buffer = x.2.foldl arrive [] := by
    apply Machine.foldl_log_of_run_of_invariant (M := application F) (I := State.Known)
      State.buffer _ _ (State.known_launch realm) h
    · intro s a t hs ht
      apply hs.step (State.step_eq_ok.mp ht)
    · intro s a t hs ht
      apply State.buffer_step hs (State.step_eq_ok.mp ht)
  constructor
  · apply hbuffer
  · intro pre post hsplit hlast
    have htexts : x.1.results.map Book.text = x.1.buffer.map (fun p => p.2.text) := by
      rw [State.results, State.buffer, List.map_map, List.map_map]
      rfl
    rw [htexts, hbuffer, hsplit, List.foldl_append, List.foldl_cons, map_text_foldl_arrive hlast]
    rfl

/-- A second search begins before the cover of the first one's book has come. -/
theorem results_replay_arrivals_dune :
  ∃ x, (collected .onPlainText).run (launch Table.empty, [])
      [.screen (.searchBarTextDidChange "dune"), .beginRequest 1,
        .bookInfoResponse 0 (responseOf [document 7 "Dune"]),
        .screen (.searchBarTextDidChange "emma"), .beginRequest 2,
        .coverResponse ⟨0, 0, bookCoverRequestURL 7⟩ (some [1]),
        .bookInfoResponse 1 (responseOf [document 9 "Emma"])] = .ok x ∧
    (x.1.buffer = x.2.foldl arrive [] ∧
      ∀ pre post, x.2 = pre ++ .called :: post → .called ∉ post →
        x.1.results.map Book.text =
          (post.flatMap Arrival.newBooks).map (fun p => p.2.text))
  := by
  apply (exists_congr (fun x => and_iff_left_of_imp _)).mpr
  · exact ⟨_, rfl⟩
  · apply results_replay_arrivals

end OpenLibrary
