import OpenLibrary.Model.Frame

/-!
# Every search is answered once

Each call of `requestAPI` is always in one of four places: its data task is in flight, its
`notify` block is waiting, its completion has been called, or its response was dropped at one
of the exits of the handler (`Balance.conserved`). While its `notify` block is waiting, its
dispatch group counts the covers in flight and the covers that came without data
(`Balance.group`). So when everything issued has been delivered, a call was answered exactly
when none of its responses was dropped (`Balance.answers_iff`).
-/

namespace OpenLibrary

/-- The completion of a call is called. -/
def Event.completes (r : Nat) : Event → Bool
  | .completed r' _ _ => r' == r
  | _ => false

namespace Action

/-- The response to a call is dropped at an exit of the handler of `requesBookInfo`. -/
def dropsInfo (r : Nat) : Action → Bool
  | .bookInfoResponse r' data => r' == r && data.bookResultsJSON?.isNone
  | _ => false

/-- A cover of a call comes without data. -/
def dropsCover (r : Nat) : Action → Bool
  | .coverResponse task none => task.request == r
  | _ => false

/-- A response of the network is one its handler does something with: an object with an array
of documents, or the data of a cover. -/
def Usable : Action → Prop
  | .bookInfoResponse _ data => data.bookResultsJSON?.isSome
  | .coverResponse _ data => data.isSome
  | _ => True

end Action

namespace State

/-- How often the completion of a call has been called. -/
def answers (s : State) (r : Nat) : Nat :=
  s.history.countP (Event.completes r)

/-- The number of covers of a call in flight. -/
def openCovers (s : State) (r : Nat) : Nat :=
  s.search.coverTasks.countP (fun task => task.request == r)

/-- Every callback issued has been delivered and has run to its end: the data tasks, and the
`notify` blocks of the groups that have been left as often as entered. -/
structure Settled (s : State) : Prop where
  infoTasks : s.search.infoTasks = []
  coverTasks : s.search.coverTasks = []
  notifies : ∀ r ∈ s.search.notifies, s.search.groups r ≠ 0

end State

/-- The number of places a call is in: its data task in flight, its `notify` block waiting,
its completion called, its response dropped. -/
def places (as : List Action) (s : State) (r : Nat) : Nat :=
  s.search.infoTasks.count r + s.search.notifies.count r + s.answers r +
    as.countP (Action.dropsInfo r)

/-- What the actions so far and the state say of a call. -/
structure Balance (as : List Action) (s : State) (r : Nat) : Prop where
  /-- A call that has begun is in one place, another in none. -/
  conserved : r < s.search.requests ∧ places as s r = 1 ∨
    s.search.requests ≤ r ∧ places as s r = 0
  /-- A waiting group counts the covers in flight and those dropped. -/
  group : r ∈ s.search.notifies →
    s.search.groups r = s.openCovers r + as.countP (Action.dropsCover r)
  /-- Without a waiting group there is no cover in flight, and none was dropped. -/
  idle : r ∉ s.search.notifies → s.openCovers r = 0 ∧ as.countP (Action.dropsCover r) = 0

namespace Balance

variable {F : Foundation} {as : List Action} {s t : State} {a : Action} {r r' : Nat}

theorem init (realm : Realm) (r : Nat) :
  Balance [] (launch realm) r
  := by
  constructor
  · right
    exact ⟨Nat.zero_le r, rfl⟩
  · intro h
    cases h
  · intro _
    exact ⟨rfl, rfl⟩

/-- An action that leaves the search manager and the completions alone, and is not a dropped
response, keeps the balance. -/
theorem congr (h : Balance as s r) (hsearch : t.search = s.search)
    (hanswers : t.answers r = s.answers r) (hinfo : a.dropsInfo r = false)
    (hcover : a.dropsCover r = false) :
  Balance (as ++ [a]) t r
  := by
  obtain ⟨hconserved, hgroup, hidle⟩ := h
  constructor
  · simpa [places, hsearch, hanswers, hinfo] using hconserved
  · simpa [State.openCovers, hsearch, hcover] using hgroup
  · simpa [State.openCovers, hsearch, hcover] using hidle

/-- What the screens record is no completion. -/
theorem countP_completes_eq_zero {events : List Event}
    (h : ∀ e ∈ events, ∃ row b, s.realm.find? row = some b ∧ e = .displayed row b.coverID) :
  events.countP (Event.completes r) = 0
  := by
  apply List.countP_eq_zero.mpr
  intro e he
  obtain ⟨row, b, -, rfl⟩ := h e he
  simp [Event.completes]

/-- A new call waits for the answer to its data task. -/
theorem requested (h : Balance as s r) (timer : Nat) :
  Balance (as ++ [.beginRequest timer]) (s.timerFired timer).requested r
  := by
  obtain ⟨hconserved, hgroup, hidle⟩ := h
  have hplaces : places (as ++ [.beginRequest timer]) (s.timerFired timer).requested r =
      places as s r + [s.search.requests].count r := by
    simp only [places, State.answers, State.requested, State.timerFired, List.count_append,
      List.countP_append, List.countP_singleton, Event.completes, Action.dropsInfo]
    simp only [Bool.false_eq_true, if_false]
    omega
  have hrequests : (s.timerFired timer).requested.search.requests = s.search.requests + 1 := rfl
  constructor
  · rw [hplaces, hrequests]
    rcases eq_or_ne r s.search.requests with rfl | hr
    · rw [List.count_singleton_self]
      omega
    · rw [List.count_eq_zero_of_not_mem (by simpa using hr)]
      omega
  · simpa [State.requested, State.timerFired, State.openCovers, Action.dropsCover] using hgroup
  · simpa [State.requested, State.timerFired, State.openCovers, Action.dropsCover] using hidle

/-- A call whose response is dropped goes from the data tasks to the dropped. -/
theorem infoDropped (h : Balance as s r) (hr : r' ∈ s.search.infoTasks) {data : InfoData}
    (hdata : data.bookResultsJSON? = none) :
  Balance (as ++ [.bookInfoResponse r' data]) (s.infoAnswered r') r
  := by
  obtain ⟨hconserved, hgroup, hidle⟩ := h
  have hcount := List.count_erase_add_count_singleton (a := r) hr
  have hdrops : (as ++ [Action.bookInfoResponse r' data]).countP (Action.dropsInfo r) =
      as.countP (Action.dropsInfo r) + [r'].count r := by
    simp [Action.dropsInfo, hdata, List.count_singleton]
  have hplaces : places (as ++ [.bookInfoResponse r' data]) (s.infoAnswered r') r =
      places as s r := by
    simp only [places, State.answers, State.infoAnswered, hdrops]
    omega
  constructor
  · rw [hplaces]
    apply hconserved
  · simpa [State.infoAnswered, State.openCovers, Action.dropsCover] using hgroup
  · simpa [State.infoAnswered, State.openCovers, Action.dropsCover] using hidle

/-- A call whose response has no documents is answered at once. -/
theorem infoEmpty (h : Balance as s r) (hr : r' ∈ s.search.infoTasks) {data : InfoData}
    (hdata : data.bookResultsJSON? = some []) :
  Balance (as ++ [.bookInfoResponse r' data]) ((s.infoAnswered r').complete r' false) r
  := by
  obtain ⟨hconserved, hgroup, hidle⟩ := h
  have hcount := List.count_erase_add_count_singleton (a := r) hr
  have hdrops : (as ++ [Action.bookInfoResponse r' data]).countP (Action.dropsInfo r) =
      as.countP (Action.dropsInfo r) := by
    simp [Action.dropsInfo, hdata]
  have hanswers : ((s.infoAnswered r').complete r' false).answers r =
      s.answers r + [r'].count r := by
    simp [State.answers, State.complete, State.infoAnswered, Event.completes,
      List.count_singleton]
  have hplaces :
      places (as ++ [.bookInfoResponse r' data]) ((s.infoAnswered r').complete r' false) r =
        places as s r := by
    simp only [places, hanswers, hdrops]
    simp only [State.complete, State.infoAnswered]
    omega
  constructor
  · rw [hplaces]
    apply hconserved
  · simpa [State.complete, State.infoAnswered, State.openCovers, Action.dropsCover] using hgroup
  · simpa [State.complete, State.infoAnswered, State.openCovers, Action.dropsCover] using hidle

/-- The covers a call asks for are none of another call's. -/
theorem openCovers_booksStructured_of_ne (newBooks : List Book) (hne : r ≠ r') :
  (s.booksStructured r' newBooks).openCovers r = s.openCovers r
  := by
  rw [State.openCovers, State.coverTasks_booksStructured, List.countP_append, List.countP_map]
  simp [Function.comp_def, State.coverTask, State.openCovers, hne.symm]

/-- The group of a call without covers in flight counts the covers it asks for. -/
theorem openCovers_booksStructured (newBooks : List Book) (hopen : s.openCovers r = 0) :
  (s.booksStructured r newBooks).openCovers r =
    (s.booksStructured r newBooks).search.groups r
  := by
  rw [State.openCovers] at hopen
  rw [State.group_booksStructured, State.openCovers, State.coverTasks_booksStructured,
    List.countP_append, hopen, List.countP_map]
  simp [Function.comp_def, State.coverTask]

/-- A call whose response has documents goes from the data tasks to the waiting groups, with
as many covers in flight as its group counts. -/
theorem infoStructured (h : Balance as s r) (hr : r' ∈ s.search.infoTasks) {data : InfoData}
    {docs : List JsonObject} (hdata : data.bookResultsJSON? = some docs)
    (newBooks : List Book) :
  Balance (as ++ [.bookInfoResponse r' data]) ((s.infoAnswered r').booksStructured r' newBooks) r
  := by
  obtain ⟨hconserved, hgroup, hidle⟩ := h
  have hcount := List.count_erase_add_count_singleton (a := r) hr
  have hdrops : (as ++ [Action.bookInfoResponse r' data]).countP (Action.dropsInfo r) =
      as.countP (Action.dropsInfo r) := by
    simp [Action.dropsInfo, hdata]
  have hcovers : (as ++ [Action.bookInfoResponse r' data]).countP (Action.dropsCover r) =
      as.countP (Action.dropsCover r) := by
    simp [Action.dropsCover]
  have hanswers : ((s.infoAnswered r').booksStructured r' newBooks).answers r =
      s.answers r := by
    rw [State.answers, State.history_booksStructured, List.countP_append, List.countP_map]
    simp [Function.comp_def, Event.completes, State.answers, State.infoAnswered]
  have hplaces : places (as ++ [.bookInfoResponse r' data])
      ((s.infoAnswered r').booksStructured r' newBooks) r = places as s r := by
    simp only [places, hanswers, hdrops, State.notifies_booksStructured,
      State.infoTasks_booksStructured, List.count_append]
    simp only [State.infoAnswered]
    omega
  constructor
  · rw [hplaces, State.requests_booksStructured]
    apply hconserved
  · intro hmem
    rw [hcovers]
    rcases eq_or_ne r r' with rfl | hne
    · have hpos := List.count_pos_iff.mpr hr
      have hnone : r ∉ s.search.notifies := by
        apply List.count_eq_zero.mp
        simp only [places] at hconserved
        omega
      obtain ⟨hopen, hdropped⟩ := hidle hnone
      have hopen' : (s.infoAnswered r).openCovers r = 0 := hopen
      rw [hdropped, openCovers_booksStructured newBooks hopen', Nat.add_zero]
    · rw [State.notifies_booksStructured, List.mem_append, List.mem_singleton,
        or_iff_left hne] at hmem
      rw [State.group_booksStructured_of_ne _ _ _ hne, openCovers_booksStructured_of_ne _ hne]
      apply hgroup hmem
  · intro hmem
    rw [State.notifies_booksStructured, List.mem_append, List.mem_singleton, not_or] at hmem
    rw [hcovers, openCovers_booksStructured_of_ne _ hmem.2]
    apply hidle hmem.1

/-- Answering a cover task leaves one cover less in flight for its call. -/
theorem openCovers_coverAnswered {task : CoverTask} (htask : task ∈ s.search.coverTasks) :
  (s.coverAnswered task).openCovers r + [task.request].count r = s.openCovers r
  := by
  have hperm := List.perm_cons_erase htask
  have hcount := hperm.countP_eq (fun task => task.request == r)
  rw [List.countP_cons] at hcount
  simp only [State.openCovers, State.coverAnswered, List.count_singleton]
  omega

/-- A cover without data goes from the covers in flight to those dropped. -/
theorem coverDropped (h : Balance as s r) {task : CoverTask}
    (htask : task ∈ s.search.coverTasks) :
  Balance (as ++ [.coverResponse task none]) (s.coverAnswered task) r
  := by
  obtain ⟨hconserved, hgroup, hidle⟩ := h
  have hopen := openCovers_coverAnswered (r := r) htask
  have hcovers : (as ++ [Action.coverResponse task none]).countP (Action.dropsCover r) =
      as.countP (Action.dropsCover r) + [task.request].count r := by
    simp [Action.dropsCover, List.count_singleton]
  constructor
  · simpa [places, State.coverAnswered, State.answers, Action.dropsInfo] using hconserved
  · intro hmem
    have hr := hgroup hmem
    rw [hcovers]
    simp only [State.coverAnswered] at hopen ⊢
    omega
  · intro hmem
    have hr := hidle hmem
    rw [hcovers]
    omega

/-- A cover with data leaves the group of its call. -/
theorem coverCounted (h : Balance as s r) {task : CoverTask}
    (htask : task ∈ s.search.coverTasks) (imageData : Data) :
  Balance (as ++ [.coverResponse task (some imageData)])
    ((s.coverAnswered task).coverReceived task imageData) r
  := by
  obtain ⟨hconserved, hgroup, hidle⟩ := h
  have hopen := openCovers_coverAnswered (r := r) htask
  have hcovers : (as ++ [Action.coverResponse task (some imageData)]).countP
      (Action.dropsCover r) = as.countP (Action.dropsCover r) := by
    simp [Action.dropsCover]
  have hopen' : ((s.coverAnswered task).coverReceived task imageData).openCovers r =
      (s.coverAnswered task).openCovers r := rfl
  constructor
  · simpa [places, State.coverAnswered, State.coverReceived, State.answers,
      Action.dropsInfo] using hconserved
  · intro hmem
    have hr := hgroup hmem
    rw [hcovers, hopen']
    simp only [State.coverReceived, Function.update_apply]
    split
    · next he =>
        rw [he, List.count_singleton_self] at hopen
        simp only [State.coverAnswered] at hopen ⊢
        rw [he] at hr ⊢
        omega
    · next he =>
        rw [List.count_eq_zero_of_not_mem (by simpa using he)] at hopen
        simp only [State.coverAnswered] at hopen ⊢
        omega
  · intro hmem
    have hr := hidle hmem
    rw [hcovers, hopen']
    omega

/-- A call whose `notify` block runs goes from the waiting groups to those answered. -/
theorem groupNotified (h : Balance as s r) (hr : r' ∈ s.search.notifies)
    (hempty : s.search.groups r' = 0) :
  Balance (as ++ [.coversNotified r'])
    ((s.notifyTaken r').determineWishlistBooks.complete r' true) r
  := by
  obtain ⟨hconserved, hgroup, hidle⟩ := h
  have hcount := List.count_erase_add_count_singleton (a := r) hr
  generalize ht : (s.notifyTaken r').determineWishlistBooks.complete r' true = t
  have hanswers : t.answers r = s.answers r + [r'].count r := by
    subst ht
    simp [State.answers, State.complete, State.determineWishlistBooks, State.notifyTaken,
      Event.completes, List.count_singleton]
  have hsearch : t.search = { s.search with notifies := s.search.notifies.erase r' } := by
    subst ht
    rfl
  have hopen : t.openCovers r = s.openCovers r := by
    simp [State.openCovers, hsearch]
  have hplaces : places (as ++ [.coversNotified r']) t r = places as s r := by
    simp only [places, hanswers, hsearch, List.countP_append, List.countP_singleton,
      Action.dropsInfo, Bool.false_eq_true, if_false]
    omega
  have hcovers : (as ++ [Action.coversNotified r']).countP (Action.dropsCover r) =
      as.countP (Action.dropsCover r) := by
    simp [Action.dropsCover]
  constructor
  · rw [hplaces, hsearch]
    apply hconserved
  · rw [hopen, hcovers, hsearch]
    intro hmem
    apply hgroup (List.mem_of_mem_erase hmem)
  · rw [hopen, hcovers, hsearch]
    intro hmem
    rcases eq_or_ne r r' with rfl | hne
    · have hzero := hgroup hr
      omega
    · apply hidle
      intro hmem'
      apply hmem ((List.mem_erase_of_ne hne).mpr hmem')

/-- A step keeps the balance of every call. -/
theorem step (h : Balance as s r) (he : Effect F s a t) :
  Balance (as ++ [a]) t r
  := by
  cases he with
  | screen hidle hscreen =>
      apply h.congr
      · rfl
      · simp [State.answers, countP_completes_eq_zero (State.events_of_screenStep hscreen)]
      · rfl
      · rfl
  | timer =>
      apply h.congr
      · rfl
      · rfl
      · rfl
      · rfl
  | request => apply h.requested
  | noResults hr hdata => apply h.infoDropped hr hdata
  | emptyResults hr hdata => apply h.infoEmpty hr hdata
  | results hr hdata hdocs hbooks => apply h.infoStructured hr hdata
  | noCover htask => apply h.coverDropped htask
  | cover htask => apply h.coverCounted htask
  | notified hr hgroup => apply h.groupNotified hr hgroup
  | @pressed _ ref book hidle hpress hread =>
      apply h.congr
      · cases ref with
        | detached o => rfl
        | stored row => rfl
      · cases ref with
        | detached o => rfl
        | stored row => rfl
      · apply State.press_induction hpress
        · intro row
          rfl
        · rfl
      · apply State.press_induction hpress
        · intro row
          rfl
        · rfl
  | updated hposting hread =>
      apply h.congr
      · rfl
      · simp [State.answers, State.wishlistUpdated, Event.completes]
      · rfl
      · rfl

/-- Every run keeps the balance of every call. -/
theorem of_run {realm : Realm} (h : (application F).run (launch realm) as = .ok s) :
  Balance as s r
  := by
  apply Machine.traced (M := application F) (P := fun as s => Balance as s r) _ _ h
  · apply init
  · intro as s a t _ hs ht
    apply hs.step (State.step_eq_ok.mp ht)

/-- A call whose response is awaited has no cover in flight. -/
theorem openCovers_eq_zero (h : Balance as s r) (hr : r ∈ s.search.infoTasks) :
  s.openCovers r = 0
  := by
  obtain ⟨hconserved, -, hidle⟩ := h
  have hpos := List.count_pos_iff.mpr hr
  have hnone : r ∉ s.search.notifies := by
    apply List.count_eq_zero.mp
    simp only [places] at hconserved
    omega
  apply (hidle hnone).1

/-- A call that has not begun is not answered. -/
theorem answers_eq_zero (h : Balance as s r) (hr : s.search.requests ≤ r) :
  s.answers r = 0
  := by
  have hconserved := h.conserved
  simp only [places] at hconserved
  omega

/-- No completion is recorded of a call that is answered already. -/
theorem filter_completes_of_answered (h : Balance as s r) (he : Effect F s a t)
    (hs : s.answers r = 1) :
  t.history.filter (Event.completes r) = s.history.filter (Event.completes r)
  := by
  obtain ⟨events, hevents⟩ := State.history_prefix he
  have hconserved := (h.step he).conserved
  have hanswers : t.answers r = s.answers r + events.countP (Event.completes r) := by
    rw [State.answers, ← hevents, List.countP_append]
    rfl
  have hnone : events.filter (Event.completes r) = [] := by
    rw [← List.length_eq_zero_iff, ← List.countP_eq_length_filter]
    simp only [places] at hconserved
    omega
  rw [← hevents, List.filter_append, hnone, List.append_nil]

/-- When everything issued has been delivered, a call that has begun was answered once exactly
when none of its responses was dropped. -/
theorem answers_iff (h : Balance as s r) (hs : s.Settled) (hr : r < s.search.requests) :
  s.answers r = 1 ↔
    as.countP (Action.dropsInfo r) = 0 ∧ as.countP (Action.dropsCover r) = 0
  := by
  obtain ⟨hconserved, hgroup, hidle⟩ := h
  have hinfo : s.search.infoTasks.count r = 0 := by
    rw [hs.infoTasks, List.count_nil]
  have hopen : s.openCovers r = 0 := by
    rw [State.openCovers, hs.coverTasks, List.countP_nil]
  simp only [places] at hconserved
  rcases Classical.em (r ∈ s.search.notifies) with hmem | hmem
  · have hpos := List.count_pos_iff.mpr hmem
    have hzero := hs.notifies r hmem
    have hcount := hgroup hmem
    omega
  · have hnone := List.count_eq_zero_of_not_mem hmem
    have hdropped := hidle hmem
    omega

/-- A call with a dropped response has begun. -/
theorem begun_of_dropped (h : Balance as s r)
    (hd : as.countP (Action.dropsInfo r) ≠ 0 ∨ as.countP (Action.dropsCover r) ≠ 0) :
  r < s.search.requests
  := by
  obtain ⟨hconserved, -, hidle⟩ := h
  simp only [places] at hconserved
  rcases Classical.em (r ∈ s.search.notifies) with hmem | hmem
  · have hpos := List.count_pos_iff.mpr hmem
    omega
  · have hdropped := hidle hmem
    omega

end Balance

/-- The actions of a run are usable exactly when they drop no response of any call. -/
theorem usable_iff {as : List Action} :
  (∀ a ∈ as, a.Usable) ↔ ∀ r, as.countP (Action.dropsInfo r) = 0 ∧
    as.countP (Action.dropsCover r) = 0
  := by
  constructor
  · intro h r
    constructor
    · apply List.countP_eq_zero.mpr
      intro a ha hdrops
      have husable := h a ha
      cases a with
      | bookInfoResponse r' data =>
          simp only [Action.dropsInfo, Bool.and_eq_true, Option.isNone_iff_eq_none] at hdrops
          simp [Action.Usable, hdrops.2] at husable
      | _ => cases hdrops
    · apply List.countP_eq_zero.mpr
      intro a ha hdrops
      have husable := h a ha
      cases a with
      | coverResponse task data =>
          cases data with
          | none => cases husable
          | some imageData => cases hdrops
      | _ => cases hdrops
  · intro h a ha
    cases a with
    | bookInfoResponse r data =>
        have hnot := List.countP_eq_zero.mp (h r).1 _ ha
        simpa [Action.dropsInfo, Action.Usable, Option.isSome_iff_ne_none] using hnot
    | coverResponse task data =>
        cases data with
        | none =>
            have hnot := List.countP_eq_zero.mp (h task.request).2 _ ha
            simp [Action.dropsCover] at hnot
        | some imageData => rfl
    | _ => trivial

/-- When everything issued has been delivered, every call of `requestAPI` has had its
completion called once exactly when each response held what its handler looks for. -/
theorem answered_once_iff (F : Foundation) (realm : Realm) (as : List Action) (s : State)
    (h : (application F).run (launch realm) as = .ok s) (hs : s.Settled) :
  (∀ r < s.search.requests, s.answers r = 1) ↔ ∀ a ∈ as, a.Usable
  := by
  rw [usable_iff]
  constructor
  · intro hanswers r
    have hbalance : Balance as s r := Balance.of_run h
    rcases Nat.lt_or_ge r s.search.requests with hr | hr
    · apply (hbalance.answers_iff hs hr).mp (hanswers r hr)
    · constructor
      · apply Classical.byContradiction
        intro hd
        have := hbalance.begun_of_dropped (Or.inl hd)
        omega
      · apply Classical.byContradiction
        intro hd
        have := hbalance.begun_of_dropped (Or.inr hd)
        omega
  · intro hdropped r hr
    apply ((Balance.of_run h).answers_iff hs hr).mpr (hdropped r)

/-- One search, with its cover. -/
theorem answered_once_iff_dune :
  ∃ s, (application .onPlainText).run (launch Table.empty)
      [.screen (.searchBarTextDidChange "dune"), .beginRequest 1,
        .bookInfoResponse 0 (responseOf [document 7 "Dune"]),
        .coverResponse ⟨0, 0, bookCoverRequestURL 7⟩ (some [1]), .coversNotified 0] = .ok s ∧
    s.Settled ∧ ((∀ r < s.search.requests, s.answers r = 1) ↔ ∀ a ∈
      [.screen (.searchBarTextDidChange "dune"), .beginRequest 1,
        .bookInfoResponse 0 (responseOf [document 7 "Dune"]),
        .coverResponse ⟨0, 0, bookCoverRequestURL 7⟩ (some [1]), .coversNotified 0],
      Action.Usable a)
  := by
  refine ⟨_, rfl, ?_, ?_⟩
  · exact ⟨rfl, rfl, by decide⟩
  · apply answered_once_iff .onPlainText Table.empty _ _ rfl
    exact ⟨rfl, rfl, by decide⟩

/-- A search whose response brings no data is never answered. -/
theorem unanswered_without_data :
  ¬ ∀ (F : Foundation) (realm : Realm) (as : List Action) (s : State),
    (application F).run (launch realm) as = .ok s → s.Settled →
      ∀ r < s.search.requests, s.answers r = 1
  := by
  intro h
  have hanswers := h .onPlainText Table.empty
    [.screen (.searchBarTextDidChange "dune"), .beginRequest 1, .bookInfoResponse 0 .noData]
    _ rfl ⟨rfl, rfl, by decide⟩ 0 (by decide)
  revert hanswers
  decide

end OpenLibrary
