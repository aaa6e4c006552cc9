import OpenLibrary.Model.Frame

/-!
# What a press leaves behind when it stops

A press of a wishlist button makes two transactions, and the process may end between them.
The first one changes the store only when the book is a record. The store in between is the
one before or the one after the press exactly when the book is detached, or a record whose
flag is not set (`toggled_realm_iff`). So a store found at a restart has all flags set exactly
when no process ended in the middle of removing a record (`Process.Interrupts`).
-/

namespace OpenLibrary

namespace State

variable {F : Foundation} {s t u : State} {a : Action} {as : List Action} {ref : BookRef}

/-! ### The run of a press -/

/-- An action that presses a book makes the first transaction of the press. -/
theorem toggled_of_press (h : StoreEffect s a t) (hpress : s.pressedBook a = some ref) :
  (∃ book, s.read? ref = some book) ∧ t = s.toggled ref
  := by
  cases h with
  | quiet _ _ _ _ hnone =>
      rw [hnone] at hpress
      cases hpress
  | pressed hidle hpress' hread =>
      obtain rfl := Option.some.inj (hpress'.symm.trans hpress)
      exact ⟨⟨_, hread⟩, rfl⟩
  | updated => cases hpress

/-- Between the two transactions of a press the store does not change. -/
theorem realm_between (h : StoreEffect s a t) (hposting : s.posting = some ref)
    (ha : a ≠ .addOrDeleteBookFromWishlist) :
  t.realm = s.realm ∧ t.posting = some ref
  := by
  cases h with
  | quiet hrealm _ hposting' =>
      rw [hposting', hposting]
      exact ⟨hrealm, rfl⟩
  | pressed hidle =>
      rw [hidle] at hposting
      cases hposting
  | updated => apply absurd rfl ha

/-- The states between the two transactions of a press have one store. -/
theorem everyState_between (hposting : u.posting = some ref)
    (has : ∀ a ∈ as, a ≠ .addOrDeleteBookFromWishlist) :
  (application F).EveryState (fun v => v.realm = u.realm ∧ v.posting = some ref) u as
  := by
  apply Machine.everyState_of_everyStep (M := application F)
    (P := fun v => v.realm = u.realm ∧ v.posting = some ref)
    (C := fun _ a => a ≠ .addOrDeleteBookFromWishlist)
  · rintro v a w ⟨hrealm, hposting⟩ ha hw
    obtain ⟨hsame, hposting⟩ := realm_between (storeEffect (step_eq_ok.mp hw)) hposting ha
    exact ⟨hsame.trans hrealm, hposting⟩
  · exact ⟨rfl, hposting⟩
  · rintro pre a post v rfl _
    apply has a (List.mem_append_right pre List.mem_cons_self)

/-- The second transaction of a press is made of the book as it is after the first one, on the
store the first one leaves. -/
theorem wishlistUpdated_of_press
    (h : (application F).run s (a :: (as ++ [.addOrDeleteBookFromWishlist])) = .ok t)
    (hpress : s.pressedBook a = some ref)
    (has : ∀ a ∈ as, a ≠ .addOrDeleteBookFromWishlist) :
  ∃ (v : State) (book : Book), v.realm = (s.toggled ref).realm ∧ v.read? ref = some book ∧
    t = v.wishlistUpdated book
  := by
  obtain ⟨u, hu, hrun⟩ := Machine.run_cons.mp h
  obtain ⟨v, hv, ht⟩ := Machine.run_concat.mp hrun
  obtain ⟨-, rfl⟩ := toggled_of_press (storeEffect (step_eq_ok.mp hu)) hpress
  obtain ⟨hrealm, hposting⟩ := everyState_between (F := F) (posting_toggled s ref) has as [] v
    (List.append_nil as).symm hv
  obtain ⟨ref', book, hposting', hread, rfl⟩ := addOrDeleteBookFromWishlist_eq_ok.mp ht
  obtain rfl := Option.some.inj (hposting'.symm.trans hposting)
  exact ⟨v, book, hrealm, hread, rfl⟩

/-- The stores of the run of a press: the one before it, the one after its first transaction,
and the one after its second. -/
theorem everyState_press
    (h : (application F).run s (a :: (as ++ [.addOrDeleteBookFromWishlist])) = .ok t)
    (hpress : s.pressedBook a = some ref)
    (has : ∀ a ∈ as, a ≠ .addOrDeleteBookFromWishlist) (P : Realm → Prop) :
  (application F).EveryState (fun v => P v.realm) s
      (a :: (as ++ [.addOrDeleteBookFromWishlist])) ↔
    P s.realm ∧ P (s.toggled ref).realm ∧ P t.realm
  := by
  obtain ⟨u, hu, hrun⟩ := Machine.run_cons.mp h
  obtain ⟨-, rfl⟩ := toggled_of_press (storeEffect (step_eq_ok.mp hu)) hpress
  have hbetween := everyState_between (F := F) (posting_toggled s ref) has
  rw [Machine.everyState_cons hu, Machine.everyState_concat hrun]
  apply and_congr_right'
  apply and_congr_left'
  constructor
  · intro hP
    apply hP [] as _ rfl rfl
  · intro hP pre post v he hv
    rw [(hbetween pre post v he hv).1]
    apply hP

/-! ### The store between the transactions -/

/-- The store between the two transactions of a press is the one before the press or the one
after it exactly when the book is not a record whose flag is set. -/
theorem toggled_realm_iff {v : State} {book : Book} (hrealm : v.realm = (s.toggled ref).realm)
    (hread : v.read? ref = some book) :
  ((s.toggled ref).realm = s.realm ∨ (s.toggled ref).realm = (v.wishlistUpdated book).realm) ↔
    ∀ row b, ref = .stored row → s.realm.find? row = some b → b.isInWishlist = false
  := by
  cases ref with
  | detached o =>
      apply iff_of_true
      · left
        rfl
      · intro row b he
        cases he
  | stored row =>
      have hfind : (s.toggled (.stored row)).realm.find? row = some book := by
        rw [← hrealm]
        apply hread
      have hmap : (s.realm.find? row).map Book.toggle = some book := by
        rw [← hfind]
        apply (Table.find?_modify_self s.realm row Book.toggle).symm
      obtain ⟨b, hb, rfl⟩ := Option.map_eq_some_iff.mp hmap
      have hmem := Table.find?_eq_some.mp hfind
      constructor
      · rintro (hsame | hdone) row' b' ⟨⟩ hb'
        · rw [hsame, hb] at hfind
          have hflag := congrArg Book.isInWishlist (Option.some.inj hfind)
          simp at hflag
        · obtain rfl := Option.some.inj (hb.symm.trans hb')
          cases hflag : b.isInWishlist with
          | false => rfl
          | true =>
              have htoggle : b.toggle.isInWishlist = false := by
                rw [Book.isInWishlist_toggle, hflag]
                rfl
              rw [hdone, wishlistUpdated, addOrDelete, htoggle, if_neg Bool.false_ne_true]
                at hmem
              have hkept := (Table.mem_delete.mp hmem).2
              simp at hkept
      · intro hflag
        right
        have htoggle : b.toggle.isInWishlist = true := by
          rw [Book.isInWishlist_toggle, hflag row b rfl hb]
          rfl
        have hholds : v.realm.countCover b.toggle.coverID ≠ 0 := by
          rw [hrealm]
          apply Realm.countCover_ne_zero.mpr
          exact ⟨row, b.toggle, hmem, rfl⟩
        rw [wishlistUpdated, addOrDelete, htoggle, if_pos rfl, if_neg hholds]
        apply hrealm.symm

end State

/-! ### Stores found at a restart -/

/-- Every record has its flag set. -/
def Realm.Marked (realm : Realm) : Prop :=
  ∀ row b, (row, b) ∈ realm.rows → b.isInWishlist = true

namespace State

/-- The records whose flag is not set are the one a press is removing. -/
structure Marked (s : State) : Prop where
  flag : ∀ row b, (row, b) ∈ s.realm.rows →
    (b.isInWishlist = false ↔ s.posting = some (.stored row))
  live : ∀ row, s.posting = some (.stored row) → row ∈ s.realm.ids

variable {F : Foundation} {s t : State} {a : Action} {ref : BookRef}

theorem Marked.launch {realm : Realm} (h : realm.Marked) :
  (launch realm).Marked
  := by
  constructor
  · intro row b hb
    apply iff_of_false
    · intro hflag
      rw [h row b hb] at hflag
      cases hflag
    · intro hposting
      cases hposting
  · intro row hposting
    cases hposting

/-- The first transaction of a press clears a flag only if the book is a record. -/
theorem Marked.toggled (h : s.Marked) (hidle : s.posting = none) {book : Book}
    (hread : s.read? ref = some book) :
  (s.toggled ref).Marked
  := by
  have hset : ∀ row b, (row, b) ∈ s.realm.rows → b.isInWishlist ≠ false := by
    intro row b hb hflag
    have hposting := (h.flag row b hb).mp hflag
    rw [hidle] at hposting
    cases hposting
  cases ref with
  | detached o =>
      constructor
      · intro row b hb
        apply iff_of_false (hset row b hb)
        intro hposting
        cases hposting
      · intro row hposting
        cases hposting
  | stored i =>
      constructor
      · intro row c hc
        obtain ⟨b, hb, rfl⟩ := Table.mem_modify.mp hc
        rw [posting_toggled, Option.some.injEq, BookRef.stored.injEq]
        rcases eq_or_ne row i with rfl | hrow
        · simpa using hset row b hb
        · rw [if_neg hrow]
          apply iff_of_false (hset row b hb) hrow.symm
      · rintro row ⟨⟩
        change i ∈ Table.ids (s.realm.modify i Book.toggle)
        rw [Table.ids_modify, ← Table.isSome_find?]
        apply Option.isSome_of_eq_some hread

/-- The second transaction of a press leaves no record whose flag is not set. -/
theorem Marked.wishlistUpdated (h : s.Marked) {book : Book} (hposting : s.posting = some ref)
    (hread : s.read? ref = some book) :
  (s.wishlistUpdated book).Marked
  := by
  have honly : ∀ row b, (row, b) ∈ s.realm.rows → b.isInWishlist = false → b = book := by
    intro row b hb hflag
    have hrow := (h.flag row b hb).mp hflag
    obtain rfl := Option.some.inj (hposting.symm.trans hrow)
    apply Option.some.inj ((Table.find?_eq_some.mpr hb).symm.trans hread)
  constructor
  · intro row b hb
    apply iff_of_false
    · intro hflag
      simp only [State.wishlistUpdated, addOrDelete] at hb
      split at hb
      · next hset =>
          split at hb
          · rcases Table.mem_insert.mp hb with hold | he
            · rw [honly row b hold hflag, hset] at hflag
              cases hflag
            · rw [(Prod.mk.inj he).2] at hflag
              cases hset.symm.trans hflag
          · rw [honly row b hb hflag, hset] at hflag
            cases hflag
      · obtain ⟨hold, hkept⟩ := Table.mem_delete.mp hb
        rw [honly row b hold hflag] at hkept
        simp at hkept
    · intro hrow
      cases hrow
  · intro row hrow
    cases hrow

/-- A step keeps the records whose flag is not set those a press is removing. -/
theorem Marked.step (h : s.Marked) (he : StoreEffect s a t) :
  t.Marked
  := by
  cases he with
  | quiet hrealm _ hposting =>
      constructor
      · rw [hrealm, hposting]
        apply h.flag
      · rw [hrealm, hposting]
        apply h.live
  | pressed hidle hpress hread => apply h.toggled hidle hread
  | updated hposting hread => apply h.wishlistUpdated hposting hread

/-- A process may end with all flags set exactly when it is not removing a record. -/
theorem Marked.realm_iff (h : s.Marked) :
  s.realm.Marked ↔ ∀ row, s.posting ≠ some (.stored row)
  := by
  constructor
  · intro hall row hposting
    obtain ⟨b, hb⟩ := Table.mem_ids.mp (h.live row hposting)
    have hflag := (h.flag row b hb).mpr hposting
    rw [hall row b hb] at hflag
    cases hflag
  · intro hnone row b hb
    apply Bool.not_eq_false b.isInWishlist |>.mp
    apply mt (h.flag row b hb).mp
    apply hnone

end State

namespace Process

/-- What holds of the flags of the store left between processes, and in a running one. -/
def Marked : Process → Prop
  | running s => s.Marked
  | terminated realm => realm.Marked

/-- A store found at a restart has all flags set. -/
def RestartsMarked (p : Process) : Prop :=
  ∀ realm, p = terminated realm → realm.Marked

/-- The process ends between the two transactions of a press on a record. -/
def Interrupts (F : Foundation) (p : Process) (signal : Signal) : Prop :=
  ∃ s row realm, p = running s ∧ s.posting = some (.stored row) ∧
    p.step F signal = .ok (terminated realm)

variable {F : Foundation} {p q : Process} {signal : Signal}

/-- A running process that ends leaves its store. -/
theorem realm_of_end {s : State} {realm : Realm}
    (h : Process.step F (running s) signal = .ok (terminated realm)) :
  realm = s.realm
  := by
  cases signal with
  | launch => cases h
  | terminate =>
      obtain ⟨⟩ := Except.ok.inj h
      rfl
  | act a =>
      rw [Process.step] at h
      split at h
      · cases h
      · obtain ⟨⟩ := Except.ok.inj h
        rfl
      · cases h

/-- A step that does not interrupt a removal keeps the flags so. -/
theorem Marked.step (h : p.Marked) (hinterrupts : ¬ p.Interrupts F signal)
    (hq : p.step F signal = .ok q) :
  q.Marked
  := by
  cases q with
  | running t =>
      cases p with
      | terminated realm =>
          cases signal with
          | launch =>
              obtain ⟨⟩ := Except.ok.inj hq
              apply State.Marked.launch h
          | act a => cases hq
          | terminate => cases hq
      | running s =>
          cases signal with
          | launch => cases hq
          | terminate => cases hq
          | act a =>
              rw [Process.step] at hq
              split at hq
              · next t' ht =>
                  obtain ⟨⟩ := Except.ok.inj hq
                  apply State.Marked.step h (State.storeEffect (State.step_eq_ok.mp ht))
              · cases hq
              · cases hq
  | terminated realm =>
      cases p with
      | terminated realm' =>
          cases signal with
          | launch => cases hq
          | act a => cases hq
          | terminate => cases hq
      | running s =>
          rw [realm_of_end hq]
          apply (State.Marked.realm_iff h).mpr
          intro row hposting
          apply hinterrupts ⟨s, row, realm, rfl, hposting, hq⟩

/-- A step after which a store found at a restart has all flags set interrupts no removal. -/
theorem not_interrupts (h : p.Marked) (hq : p.step F signal = .ok q) (hmarked : q.RestartsMarked) :
  ¬ p.Interrupts F signal
  := by
  rintro ⟨s, row, realm, rfl, hposting, hend⟩
  obtain rfl := Except.ok.inj (hq.symm.trans hend)
  have hrealm := hmarked realm rfl
  rw [realm_of_end hend] at hrealm
  apply (State.Marked.realm_iff h).mp hrealm row hposting

end Process

/-- A press leaves the store as it was before or as it is after the whole press, wherever it
stops, exactly when its book is not a record with its flag set; and in every run on a store
with all flags set, every store found at a restart has all flags set exactly when no process
ends between the two transactions of a press on a record. -/
theorem press_atomic_iff (F : Foundation) :
  (∀ (s t : State) (a : Action) (as : List Action) (ref : BookRef),
      s.pressedBook a = some ref → (∀ a ∈ as, a ≠ .addOrDeleteBookFromWishlist) →
      (application F).run s (a :: (as ++ [.addOrDeleteBookFromWishlist])) = .ok t →
      ((application F).EveryState (fun v => v.realm = s.realm ∨ v.realm = t.realm) s
          (a :: (as ++ [.addOrDeleteBookFromWishlist])) ↔
        ∀ row b, ref = .stored row → s.realm.find? row = some b → b.isInWishlist = false)) ∧
    ∀ (realm : Realm) (signals : List Signal) (p : Process), realm.Marked →
      (lifecycle F).run (.terminated realm) signals = .ok p →
      ((lifecycle F).EveryState Process.RestartsMarked (.terminated realm) signals ↔
        (lifecycle F).EveryStep (fun p signal => ¬ p.Interrupts F signal)
          (.terminated realm) signals)
  := by
  constructor
  · intro s t a as ref hpress has h
    obtain ⟨v, book, hrealm, hread, rfl⟩ := State.wishlistUpdated_of_press h hpress has
    rw [← State.toggled_realm_iff hrealm hread, State.everyState_press h hpress has
      (fun realm => realm = s.realm ∨ realm = (v.wishlistUpdated book).realm)]
    constructor
    · rintro ⟨-, hbetween, -⟩
      apply hbetween
    · intro hbetween
      exact ⟨Or.inl rfl, hbetween, Or.inr rfl⟩
  · intro realm signals p hrealm h
    apply Machine.everyState_iff_everyStep_of_imp (P := Process.Marked)
      (s := .terminated realm) _ _ _ hrealm h
    · intro p signal q hp hinterrupts hq
      apply hp.step hinterrupts hq
    · intro p signal q hp hq hmarked
      apply Process.not_interrupts hp hq hmarked
    · rintro p hp realm rfl
      apply hp

/-- A result is pressed; and a record is pressed, after which the process ends and is started
again. -/
theorem press_atomic_iff_dune :
  (∃ s t, (s.pressedBook (.userPressedWishlistButton 0) = some (.detached 0) ∧
      (application .onPlainText).run (launch Table.empty)
        [.screen (.searchBarTextDidChange "dune"), .beginRequest 1,
          .bookInfoResponse 0 (responseOf [document 7 "Dune"]),
          .coverResponse ⟨0, 0, bookCoverRequestURL 7⟩ (some [1]), .coversNotified 0,
          .screen .runMainBlock] = .ok s ∧
      (application .onPlainText).run s
        (.userPressedWishlistButton 0 :: ([] ++ [.addOrDeleteBookFromWishlist])) = .ok t) ∧
    ((application .onPlainText).EveryState (fun v => v.realm = s.realm ∨ v.realm = t.realm) s
        (.userPressedWishlistButton 0 :: ([] ++ [.addOrDeleteBookFromWishlist])) ↔
      ∀ row b, BookRef.detached 0 = .stored row → s.realm.find? row = some b →
        b.isInWishlist = false)) ∧
  (lifecycle .onPlainText).EveryState Process.RestartsMarked
    (.terminated (Table.empty.insert { coverID := 7, title := "Dune", isInWishlist := true }))
    [.launch, .act (.screen (.userSelectedTab .wishlist)), .act (.screen .runMainBlock),
      .act (.userPressedWishlistButton 0), .act .addOrDeleteBookFromWishlist, .terminate, .launch]
  := by
  constructor
  · apply (exists₂_congr (fun s t => and_iff_left_of_imp _)).mpr
    · exact ⟨_, _, rfl, rfl, rfl⟩
    · rintro s t ⟨hpress, -, h⟩
      apply (press_atomic_iff .onPlainText).1 s t _ [] _ hpress _ h
      intro a ha
      cases ha
  · apply ((press_atomic_iff .onPlainText).2 _ _ _ _ rfl).mpr
    · refine (Machine.everyStep_cons (by exact rfl)).mpr ⟨?_, ?_⟩
      · rintro ⟨s, row, realm, ⟨⟩, -⟩
      iterate 3
        refine (Machine.everyStep_cons (by exact rfl)).mpr ⟨?_, ?_⟩
        · rintro ⟨s, row, realm, ⟨⟩, ⟨⟩, -⟩
      refine (Machine.everyStep_cons (by exact rfl)).mpr ⟨?_, ?_⟩
      · rintro ⟨s, row, realm, ⟨⟩, -, ⟨⟩⟩
      refine (Machine.everyStep_cons (by exact rfl)).mpr ⟨?_, ?_⟩
      · rintro ⟨s, row, realm, ⟨⟩, ⟨⟩, -⟩
      refine (Machine.everyStep_cons (by exact rfl)).mpr ⟨?_, Machine.everyStep_nil⟩
      rintro ⟨s, row, realm, ⟨⟩, -⟩
    · intro row b hb
      obtain ⟨-, rfl⟩ := Prod.mk.inj (List.mem_singleton.mp hb)
      rfl

/-- Between the two transactions that remove a record, the store holds it with its flag
cleared. -/
theorem removal_not_atomic :
  ¬ ∀ (F : Foundation) (realm : Realm) (before : List Action) (s t : State) (a : Action)
    (as : List Action) (ref : BookRef),
    (application F).run (launch realm) before = .ok s → s.pressedBook a = some ref →
      (∀ a ∈ as, a ≠ .addOrDeleteBookFromWishlist) →
      (application F).run s (a :: (as ++ [.addOrDeleteBookFromWishlist])) = .ok t →
      (application F).EveryState (fun v => v.realm = s.realm ∨ v.realm = t.realm) s
        (a :: (as ++ [.addOrDeleteBookFromWishlist]))
  := by
  intro h
  have hbetween := h .onPlainText Table.empty
    [.screen (.searchBarTextDidChange "dune"), .beginRequest 1,
      .bookInfoResponse 0 (responseOf [document 7 "Dune"]),
      .coverResponse ⟨0, 0, bookCoverRequestURL 7⟩ (some [1]), .coversNotified 0,
      .screen .runMainBlock, .userPressedWishlistButton 0, .addOrDeleteBookFromWishlist,
      .screen (.userSelectedTab .wishlist), .screen .runMainBlock, .screen .runMainBlock]
    _ _ (.userPressedWishlistButton 0) [] (.stored 0) rfl rfl (by simp) rfl
    [.userPressedWishlistButton 0] [.addOrDeleteBookFromWishlist] _ rfl rfl
  rcases hbetween with hbefore | hafter
  · have hrows := congrArg Table.rows hbefore
    revert hrows
    decide
  · have hrows := congrArg Table.rows hafter
    revert hrows
    decide

end OpenLibrary
