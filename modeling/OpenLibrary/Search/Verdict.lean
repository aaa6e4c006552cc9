import OpenLibrary.Search.Pipeline

/-!
# The verdict of a search

A search that no other overlaps awaits its response with no results, then has as results the
books of the clean documents until its completion is called (`Course`). The handler of the
response tests the documents for emptiness before it leaves any out. So the verdict that the
completion gets fits the results exactly when the response has no documents, or a clean one.
-/

namespace OpenLibrary

namespace State

/-! ### The verdict -/

/-- Where the step calls the completion of a call, it does so with `true` exactly when there are
results and with `false` exactly when there are none, and the main screen is to show the list
then or that no results were found. -/
def Reports (F : Foundation) (r : Nat) (s : State) (a : Action) : Prop :=
  ∀ t, s.step F a = .ok t → t.answers r ≠ s.answers r → ∃ success,
    t.history = s.history ++ [.completed r success t.results] ∧
      (success = true ↔ t.results ≠ []) ∧ (success = false ↔ t.results = []) ∧
      t.screen = if t.results ≠ [] then s.screen.updateBookList else
        s.screen.updateMainArea .noResultsFound .noResultsFound

/-- A step that, until the completion of a call has been called, begins no other call, in which
the response has the given documents and each cover comes with data. -/
def UncontestedUntil (r : Nat) (docs : List JsonObject) (s : State) (a : Action) : Prop :=
  s.answers r = 0 →
    match a with
    | .beginRequest _ => s.userInfo = none
    | .bookInfoResponse _ data => data.bookResultsJSON? = some docs
    | .coverResponse _ data => data.isSome
    | _ => True

variable {F : Foundation} {s t : State} {a : Action} {r : Nat} {docs : List JsonObject}

theorem answers_append {events : List Event}
    (h : t.history = s.history ++ events) (hevents : events.countP (Event.completes r) = 0) :
  t.answers r = s.answers r
  := by
  rw [answers, h, List.countP_append, hevents]
  rfl

/-- The completion of a call is called by the response without documents to it, or by its
`notify` block. -/
theorem completes_cases (he : Effect F s a t) (h : t.answers r ≠ s.answers r) :
  r ∈ s.search.infoTasks ∧ (∃ data, a = .bookInfoResponse r data ∧
      data.bookResultsJSON? = some []) ∧ t = (s.infoAnswered r).complete r false ∨
    r ∈ s.search.notifies ∧ t = (s.notifyTaken r).determineWishlistBooks.complete r true
  := by
  cases he with
  | screen hidle hscreen =>
      apply absurd (answers_append rfl _) h
      apply Balance.countP_completes_eq_zero (events_of_screenStep hscreen)
  | timer | noResults | noCover | cover => apply absurd rfl h
  | request | updated => apply absurd (answers_append rfl rfl) h
  | @emptyResults r' data hr hdata =>
      left
      rcases eq_or_ne r' r with rfl | hne
      · exact ⟨hr, ⟨data, rfl, hdata⟩, rfl⟩
      · apply absurd (answers_append rfl _) h
        rw [List.countP_singleton, Event.completes, if_neg]
        simpa using hne
  | results =>
      apply absurd (answers_append (history_booksStructured _ _ _) _) h
      rw [List.countP_map]
      apply List.countP_eq_zero.mpr
      intro o _
      apply Bool.false_ne_true
  | @notified r' hr hgroup =>
      right
      rcases eq_or_ne r' r with rfl | hne
      · exact ⟨hr, rfl⟩
      · apply absurd (answers_append rfl _) h
        rw [List.countP_singleton, Event.completes, if_neg]
        simpa using hne
  | pressed =>
      apply absurd _ h
      rw [answers, history_toggled]
      rfl

/-- A completion called with `true` fits the results exactly when there are any. -/
theorem reports_true_iff (he : Effect F s a ((s.notifyTaken r).determineWishlistBooks.complete r
    true)) :
  s.Reports F r a ↔ s.search.bookResults ≠ []
  := by
  have hstep := step_eq_ok.mpr he
  have hanswers : ((s.notifyTaken r).determineWishlistBooks.complete r true).answers r ≠
      s.answers r := by
    simp [answers, complete, determineWishlistBooks, notifyTaken, Event.completes]
  have hresults : ((s.notifyTaken r).determineWishlistBooks.complete r true).results ≠ [] ↔
      s.search.bookResults ≠ [] := by
    apply not_congr
    apply List.map_eq_nil_iff
  rw [← hresults]
  constructor
  · intro h
    obtain ⟨success, hhistory, htrue, -, -⟩ := h _ hstep hanswers
    apply htrue.mp
    have hevent := List.append_cancel_left hhistory
    injection hevent with hevent
    injection hevent with _ hsuccess
    apply hsuccess.symm
  · intro h t ht _
    obtain rfl := Except.ok.inj (hstep.symm.trans ht)
    use true, rfl
    refine ⟨iff_of_true rfl h, iff_of_false (fun he => by cases he) h, ?_⟩
    rw [if_pos h]
    rfl

/-! ### The course of a search -/

/-- Where a call stands that no other overlaps. -/
inductive Course (r : Nat) (docs : List JsonObject) (s : State) : Prop where
  /-- Its response is awaited. -/
  | awaiting (infoTasks : s.search.infoTasks = [r]) (bookResults : s.search.bookResults = [])
  /-- The books of the clean documents are the results. -/
  | collecting (infoTasks : s.search.infoTasks = []) (hdocs : docs ≠ [])
      (bookResults : s.search.bookResults = [] ↔ docs.filter isClean = [])

/-- Steps that leave the results alone and answer no response keep the course. -/
theorem Course.congr (h : Course r docs s) (hinfo : t.search.infoTasks = s.search.infoTasks)
    (hresults : t.search.bookResults = s.search.bookResults) :
  Course r docs t
  := by
  cases h with
  | awaiting infoTasks bookResults =>
      apply Course.awaiting
      · rw [hinfo, infoTasks]
      · rw [hresults, bookResults]
  | collecting infoTasks hdocs bookResults =>
      apply Course.collecting
      · rw [hinfo, infoTasks]
      · apply hdocs
      · rw [hresults]
        apply bookResults

/-- The books of the clean documents become the results. -/
theorem Course.results (h : Course r docs s) (hr : r ∈ s.search.infoTasks) (hdocs : docs ≠ [])
    {newBooks : List Book} (hbooks : structureBooks docs = some newBooks) :
  Course r docs ((s.infoAnswered r).booksStructured r newBooks)
  := by
  cases h with
  | collecting infoTasks =>
      rw [infoTasks] at hr
      cases hr
  | awaiting infoTasks bookResults =>
      apply Course.collecting
      · rw [infoTasks_booksStructured]
        change s.search.infoTasks.erase r = []
        rw [infoTasks, List.erase_cons_head]
      · apply hdocs
      · rw [bookResults_booksStructured]
        change s.search.bookResults ++ _ = [] ↔ _
        have hlength := (List.mapM_eq_some_iff.mp hbooks).length_eq
        rw [bookResults, List.nil_append, ← List.length_eq_zero_iff, newResults,
          List.length_range', ← hlength, List.length_eq_zero_iff]

/-- An uncontested step keeps the course, or calls the completion. -/
theorem Course.step (h : Course r docs s) (hopen : s.answers r = 0)
    (ha : s.UncontestedUntil r docs a) (he : Effect F s a t) (ht : t.answers r = 0) :
  Course r docs t
  := by
  have hdue := ha hopen
  have hmem : ∀ {r'}, r' ∈ s.search.infoTasks → r' = r := by
    intro r' hr'
    cases h with
    | awaiting infoTasks =>
        rw [infoTasks] at hr'
        apply List.mem_singleton.mp hr'
    | collecting infoTasks =>
        rw [infoTasks] at hr'
        cases hr'
  cases he with
  | request hidle htimer hinfo hurl => cases hinfo.symm.trans hdue
  | noResults hr hdata => cases hdata.symm.trans hdue
  | emptyResults hr hdata =>
      obtain rfl := hmem hr
      rw [answers, complete, List.countP_append] at ht
      simp [Event.completes] at ht
  | results hr hdata hdocs hbooks =>
      obtain rfl := hmem hr
      obtain rfl := Option.some.inj (hdata.symm.trans hdue)
      apply h.results hr hdocs hbooks
  | screen | timer | noCover | cover | notified | updated =>
      apply h.congr
      · rfl
      · rfl
  | pressed =>
      apply h.congr
      · rw [search_toggled]
      · rw [search_toggled]

/-- In the course of a call its completion gets the verdict that fits exactly when the response
has no documents or a clean one. -/
theorem Course.reports_iff (h : Course r docs s) {as : List Action} (hbalance : Balance as s r)
    (hopen : s.answers r = 0) (ha : s.UncontestedUntil r docs a) (he : Effect F s a t)
    (ht : t.answers r ≠ s.answers r) :
  s.Reports F r a ↔ docs = [] ∨ ∃ doc ∈ docs, isClean doc
  := by
  have hconserved := hbalance.conserved
  simp only [places] at hconserved
  rcases completes_cases he ht with ⟨hr, ⟨data, rfl, hdata⟩, rfl⟩ | ⟨hr, rfl⟩
  · obtain rfl := Option.some.inj (hdata.symm.trans (ha hopen))
    apply iff_of_true
    · intro w hw _
      obtain rfl := Except.ok.inj ((step_eq_ok.mpr he).symm.trans hw)
      cases h with
      | collecting infoTasks hdocs => apply absurd rfl hdocs
      | awaiting infoTasks bookResults =>
          have hresults : ((s.infoAnswered r).complete r false).results = [] :=
            List.map_eq_nil_iff.mpr bookResults
          rw [hresults]
          use false
          refine ⟨?_, iff_of_false (fun he => by cases he) (fun he => he rfl),
            iff_of_true rfl rfl, rfl⟩
          rw [← hresults]
          rfl
    · left
      rfl
  · rw [reports_true_iff he]
    cases h with
    | awaiting infoTasks =>
        have hpos := List.count_pos_iff.mpr hr
        rw [infoTasks, List.count_singleton_self] at hconserved
        omega
    | collecting infoTasks hdocs bookResults =>
        rw [Ne, bookResults, List.filter_eq_nil_iff, or_iff_right hdocs]
        simp

/-- The call has begun, and until it is answered it is on its course, and none of its responses
was dropped. -/
structure OnCourse (r : Nat) (docs : List JsonObject) (s : State) : Prop where
  begun : r < s.search.requests
  course : s.answers r = 0 → Course r docs s
  kept : s.answers r = 0 → ∃ as, Balance as s r ∧
    as.countP (Action.dropsInfo r) = 0 ∧ as.countP (Action.dropsCover r) = 0

/-- An uncontested step drops no response. -/
theorem drops_of_uncontested (hopen : s.answers r = 0) (ha : s.UncontestedUntil r docs a) :
  a.dropsInfo r = false ∧ a.dropsCover r = false
  := by
  have ha := ha hopen
  cases a with
  | bookInfoResponse r' data =>
      constructor
      · rw [Action.dropsInfo, ha]
        apply Bool.and_false
      · rfl
  | coverResponse task data =>
      cases data with
      | none => cases ha
      | some imageData => exact ⟨rfl, rfl⟩
  | screen | beginRequest | coversNotified | userPressedWishlistButton | notifyWishlistOfUpdate
    | addOrDeleteBookFromWishlist => exact ⟨rfl, rfl⟩

/-- A completion that has been called stays so. -/
theorem answers_le (he : Effect F s a t) :
  s.answers r ≤ t.answers r
  := by
  obtain ⟨events, hevents⟩ := history_prefix he
  rw [answers, answers, ← hevents, List.countP_append]
  apply Nat.le_add_right

/-- The calls that have begun stay so. -/
theorem requests_le (he : Effect F s a t) :
  s.search.requests ≤ t.search.requests
  := by
  cases he with
  | request => apply Nat.le_succ
  | results =>
      rw [requests_booksStructured]
      apply Nat.le_refl
  | pressed =>
      rw [search_toggled]
  | screen | timer | noResults | emptyResults | noCover | cover | notified | updated =>
      apply Nat.le_refl

/-- An uncontested step keeps the call on its course until it is answered. -/
theorem OnCourse.step (h : OnCourse r docs s) (ha : s.UncontestedUntil r docs a)
    (he : Effect F s a t) :
  OnCourse r docs t
  := by
  have hopen : t.answers r = 0 → s.answers r = 0 := by
    intro ht
    apply Nat.eq_zero_of_le_zero
    rw [← ht]
    apply answers_le he
  constructor
  · apply Nat.lt_of_lt_of_le h.begun (requests_le he)
  · intro ht
    apply (h.course (hopen ht)).step (hopen ht) ha he ht
  · intro ht
    obtain ⟨as, hbalance, hinfo, hcover⟩ := h.kept (hopen ht)
    obtain ⟨hdropsInfo, hdropsCover⟩ := drops_of_uncontested (hopen ht) ha
    refine ⟨as ++ [a], hbalance.step he, ?_, ?_⟩
    · rw [List.countP_append, hinfo, List.countP_singleton, hdropsInfo]
      rfl
    · rw [List.countP_append, hcover, List.countP_singleton, hdropsCover]
      rfl

/-- A call made when no callback of an earlier one can come any more begins its course. -/
theorem onCourse_requested {as : List Action} (hbalance : Balance as s s.search.requests)
    (hs : s.Settled) (timer : Nat) :
  OnCourse s.search.requests docs (s.timerFired timer).requested
  := by
  constructor
  · apply Nat.lt_succ_self
  · intro _
    apply Course.awaiting
    · change s.search.infoTasks ++ [s.search.requests] = [s.search.requests]
      rw [hs.infoTasks, List.nil_append]
    · rfl
  · intro _
    refine ⟨_, hbalance.requested timer, ?_, ?_⟩
    · rw [List.countP_append]
      apply Classical.byContradiction
      intro hd
      apply Nat.lt_irrefl _ (hbalance.begun_of_dropped (Or.inl hd))
    · rw [List.countP_append]
      apply Classical.byContradiction
      intro hd
      apply Nat.lt_irrefl _ (hbalance.begun_of_dropped (Or.inr hd))

/-- A timer that fires with a query begins a call, which is not answered at once. -/
theorem onCourse_of_step {as : List Action} (hbalance : Balance as s s.search.requests)
    (hs : s.Settled) (hquery : s.userInfo ≠ none) {timer : Nat}
    (he : Effect F s (.beginRequest timer) t) :
  OnCourse s.search.requests docs t ∧ t.answers s.search.requests = 0
  := by
  have hanswers := hbalance.answers_eq_zero (Nat.le_refl s.search.requests)
  cases he with
  | timer hidle htimer hinfo => cases hquery hinfo
  | request =>
      constructor
      · apply onCourse_requested hbalance hs
      · rw [← hanswers]
        apply answers_append rfl rfl
  | pressed hidle hpress => cases hpress

/-- When everything issued has been delivered, the call has been answered. -/
theorem OnCourse.answers_of_settled (h : OnCourse r docs s) (hs : s.Settled)
    {as : List Action} (hbalance : Balance as s r) :
  s.answers r = 1
  := by
  rcases eq_or_ne (s.answers r) 0 with hopen | hanswered
  · obtain ⟨bs, hbs, hinfo, hcover⟩ := h.kept hopen
    apply (hbs.answers_iff hs h.begun).mpr ⟨hinfo, hcover⟩
  · have hconserved := hbalance.conserved
    simp only [places] at hconserved
    omega

/-- On its course a call gets the verdict that fits, when the response has no documents or a
clean one. -/
theorem OnCourse.reports (h : OnCourse r docs s) {as : List Action} (hbalance : Balance as s r)
    (ha : s.UncontestedUntil r docs a) (hclean : docs = [] ∨ ∃ doc ∈ docs, isClean doc) :
  s.Reports F r a
  := by
  intro t ht hne
  have he : Effect F s a t := step_eq_ok.mp ht
  have hopen : s.answers r = 0 := by
    have hconserved := (hbalance.step he).conserved
    have hle := answers_le (r := r) he
    simp only [places] at hconserved
    omega
  apply ((h.course hopen).reports_iff hbalance hopen ha he hne).mpr hclean t ht hne

end State

/-- In a run from the beginning of a call of `requestAPI`, made while no callback of an earlier
call can come any more, in which until its completion no other call begins, the response has an
array of documents, and every cover comes with data: when everything issued has been delivered
the completion has been called once; and once it has been called, it was with the verdict that
fits what there is to show exactly when the response has no documents or one with the six
keys. -/
theorem verdict_iff (F : Foundation) (realm : Realm) (before : List Action) (s u : State)
    (timer : Nat) (docs : List JsonObject) (as : List Action) (t : State)
    (hbefore : (application F).run (launch realm) before = .ok s) (hs : s.Settled)
    (hrequest : (application F).step s (.beginRequest timer) = .ok u) (hquery : s.userInfo ≠ none)
    (hrun : (application F).run u as = .ok t)
    (halone : (application F).EveryStep
      (State.UncontestedUntil s.search.requests docs) u as) :
  (t.Settled → t.answers s.search.requests = 1) ∧
    (t.answers s.search.requests ≠ 0 →
      ((application F).EveryStep (State.Reports F s.search.requests) u as ↔
        docs = [] ∨ ∃ doc ∈ docs, isClean doc))
  := by
  have hbalance : ∀ {bs v}, (application F).run u bs = .ok v →
      ∃ cs, Balance cs v s.search.requests := by
    intro bs v hbs
    have hall := Machine.run_append.mpr ⟨u, Machine.run_concat.mpr ⟨s, hbefore, hrequest⟩, hbs⟩
    exact ⟨_, Balance.of_run hall⟩
  obtain ⟨hu, hunanswered⟩ : State.OnCourse s.search.requests docs u ∧
      u.answers s.search.requests = 0 :=
    State.onCourse_of_step (Balance.of_run hbefore) hs hquery (State.step_eq_ok.mp hrequest)
  have hcourse : ∀ {bs cs v}, as = bs ++ cs → (application F).run u bs = .ok v →
      State.OnCourse s.search.requests docs v := by
    rintro bs cs v rfl hbs
    apply Machine.invariant_of_everyStep _ hu hbs (Machine.everyStep_of_append halone)
    intro v a w hv ha hw
    apply hv.step ha (State.step_eq_ok.mp hw)
  constructor
  · intro ht
    obtain ⟨cs, hcs⟩ := hbalance hrun
    apply (hcourse (List.append_nil as).symm hrun).answers_of_settled ht hcs
  · intro hanswered
    constructor
    · intro hreports
      apply Classical.byContradiction
      intro hclean
      apply hanswered
      apply Machine.invariant_of_everyStep (M := application F)
        (P := fun v => v.answers s.search.requests = 0)
        (C := fun v a => ∀ w, v.step F a = .ok w → v.answers s.search.requests = 0 →
          w.answers s.search.requests = v.answers s.search.requests) _ hunanswered hrun
      · intro pre a post v he hv w hw hopen
        obtain ⟨cs, hcs⟩ := hbalance hv
        apply Classical.byContradiction
        intro hne
        apply hclean
        apply (((hcourse he hv).course hopen).reports_iff hcs hopen (halone pre a post v he hv)
          (State.step_eq_ok.mp hw) hne).mp (hreports pre a post v he hv)
      · intro v a w hopen ha hw
        rw [ha w hw hopen, hopen]
    · intro hclean pre a post v he hv
      obtain ⟨cs, hcs⟩ := hbalance hv
      apply (hcourse he hv).reports hcs (halone pre a post v he hv) hclean

/-- A search with a book, whose completion is called. -/
theorem verdict_iff_dune :
  ∃ s u t, (application .onPlainText).run (launch Table.empty)
      [.screen (.searchBarTextDidChange "dune")] = .ok s ∧
    (application .onPlainText).step s (.beginRequest 1) = .ok u ∧
    (application .onPlainText).run u
      [.bookInfoResponse 0 (responseOf [document 7 "Dune"]),
        .coverResponse ⟨0, 0, bookCoverRequestURL 7⟩ (some [1]), .coversNotified 0] = .ok t ∧
    t.answers s.search.requests = 1 ∧
    ((application .onPlainText).EveryStep (State.Reports .onPlainText s.search.requests) u
        [.bookInfoResponse 0 (responseOf [document 7 "Dune"]),
          .coverResponse ⟨0, 0, bookCoverRequestURL 7⟩ (some [1]), .coversNotified 0] ↔
      [document 7 "Dune"] = [] ∨ ∃ doc ∈ [document 7 "Dune"], isClean doc)
  := by
  refine ⟨_, _, _, rfl, rfl, rfl, by decide, ?_⟩
  apply (verdict_iff .onPlainText Table.empty [.screen (.searchBarTextDidChange "dune")] _ _ 1
    [document 7 "Dune"]
    [.bookInfoResponse 0 (responseOf [document 7 "Dune"]),
      .coverResponse ⟨0, 0, bookCoverRequestURL 7⟩ (some [1]), .coversNotified 0]
    _ rfl ⟨rfl, rfl, by decide⟩ rfl (by decide) rfl _).2 (by decide)
  refine (Machine.everyStep_cons (by exact rfl)).mpr ⟨?_, ?_⟩
  · intro _
    apply bookResultsJSON?_responseOf
  refine (Machine.everyStep_cons (by exact rfl)).mpr ⟨fun _ => rfl, ?_⟩
  refine (Machine.everyStep_cons (by exact rfl)).mpr ⟨fun _ => trivial, Machine.everyStep_nil⟩

/-- A response whose one document misses a key is reported as a success, with nothing to
show. -/
theorem nothing_reported_as_success :
  ¬ ∀ (F : Foundation) (realm : Realm) (before : List Action) (s u : State) (timer : Nat)
    (docs : List JsonObject) (as : List Action) (t : State),
    (application F).run (launch realm) before = .ok s → s.Settled →
      (application F).step s (.beginRequest timer) = .ok u → s.userInfo ≠ none →
      (∀ doc ∈ docs, isClean doc → WellTyped doc) →
      (application F).run u as = .ok t →
      (application F).EveryStep (State.UncontestedUntil s.search.requests docs) u as →
      (application F).EveryStep (State.Reports F s.search.requests) u as
  := by
  intro h
  have htyped : ∀ doc ∈ [[("title", Json.string "Dune")]], isClean doc → WellTyped doc := by
    intro doc hdoc hclean
    obtain rfl := List.mem_singleton.mp hdoc
    cases hclean
  have hreports := h .onPlainText Table.empty [.screen (.searchBarTextDidChange "dune")] _ _ 1
    [[("title", .string "Dune")]]
    [.bookInfoResponse 0 (responseOf [[("title", .string "Dune")]]), .coversNotified 0] _ rfl
    ⟨rfl, rfl, by decide⟩ rfl (by decide) htyped rfl
    ((Machine.everyStep_cons (by exact rfl)).mpr ⟨fun _ => bookResultsJSON?_responseOf _,
      (Machine.everyStep_cons (by exact rfl)).mpr ⟨fun _ => trivial, Machine.everyStep_nil⟩⟩)
  obtain ⟨success, hhistory, htrue, -, -⟩ := hreports
    [.bookInfoResponse 0 (responseOf [[("title", .string "Dune")]])] (.coversNotified 0) [] _ rfl
    rfl _ rfl (by decide)
  injection List.append_cancel_left hhistory with hevent
  injection hevent with _ hsuccess
  apply htrue.mp hsuccess.symm rfl

end OpenLibrary
