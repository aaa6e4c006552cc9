import OpenLibrary.Search.Covers
import OpenLibrary.Search.Pipeline
import OpenLibrary.Search.Query

/-!
# Requests that are told apart

Among the texts that survive encoding, two send the same request exactly when they ask for the
same: the server reads back from the URL the lowercase of the text, trimmed
(`requestURL_inj`). A cover is asked for under the number of its book and nothing else, and so two
cover tasks load the same URL exactly when their books have the same number (`requests_told_apart`).
-/

namespace OpenLibrary

/-! ### Octets -/

/-- A text is read off its octets. -/
theorem Uri.utf8_injective {l m : List Char} (h : Uri.utf8 l = Uri.utf8 m) :
  l = m
  := by
  apply String.ofList_injective
  apply String.toByteArray_inj.mp
  rw [String.toByteArray_ofList, String.toByteArray_ofList]
  apply congrArg List.toByteArray h

/-! ### Queries -/

section Queries

variable {F : Foundation} {text text' : String}

/-- The query of a text is made of the lowercase of the text, trimmed, where the text has no space
at its ends. -/
theorem Foundation.Lawful.optimizedBookQuery_eq (hF : F.Lawful) (h : IsQueryText text)
    (hends : NoSpaceAtEnds text) :
  (optimizedBookQuery F text).toList =
    Uri.writeSpaces (F.lowercased (trimWhitespace text)).toList
  := by
  have hcharacters :
      ∀ c ∈ text.toList.trimWhile isOtherWhitespace, LowercasesToAscii c := by
    intro c hc
    apply lowercasesToAscii_of_isQueryCharacter (Uri.allowed_of_wellFormed h hc)
  obtain ⟨pieces, hpieces, hlower⟩ := hF.lowercased (trimWhitespace text)
  rw [toList_trimWhitespace, ← noSpaceAtEnds_iff.mp hends] at hpieces
  rw [hF.toList_optimizedBookQuery hcharacters, hlower, flatten_eq_map hpieces hcharacters]

/-- Among the texts that survive encoding, those that ask for the same are those that send the same
request. -/
theorem Foundation.Lawful.requestURL_inj (hF : F.Lawful) (h : IsQueryText text)
    (h' : IsQueryText text') (hsurvives : SurvivesEncoding text)
    (hsurvives' : SurvivesEncoding text') :
  requestURL F text = requestURL F text' ↔
    F.lowercased (trimWhitespace text) = F.lowercased (trimWhitespace text')
  := by
  have hread {t : String} (ht : IsQueryText t) (hs : SurvivesEncoding t) : IsReadBack F t := by
    apply (hF.isReadBack_iff ht).mpr
    constructor
    · rw [← ht.trimWhile_eq, noSpaceAtEnds_iff.mp hs.1]
    · apply forall_isReadDifferently_iff.mpr hs.2
  constructor
  · intro hurl
    have hsame := hread h hsurvives
    rw [IsReadBack, hurl] at hsame
    have hvalue := (hread h' hsurvives').symm.trans hsame
    apply String.toList_inj.mp
    apply Uri.utf8_injective
    apply (congrArg Prod.snd (List.singleton_inj.mp hvalue)).symm
  · intro hlower
    apply congrArg bookInfoRequestURL
    apply String.toList_inj.mp
    rw [hF.optimizedBookQuery_eq h hsurvives.1, hF.optimizedBookQuery_eq h' hsurvives'.1, hlower]

end Queries

/-! ### Queries and covers -/

/-- Among the texts whose request has a URL and that survive encoding, two send the same request
exactly when their lowercases, trimmed, are the same. In every run, each cover is asked for under a
URL, and two cover tasks load the same one exactly when their books have the same number. -/
theorem requests_told_apart (F : Foundation) (hF : F.Lawful) :
  (∀ text text', F.isURL (requestURL F text) = true → F.isURL (requestURL F text') = true →
      SurvivesEncoding text → SurvivesEncoding text' →
      (requestURL F text = requestURL F text' ↔
        F.lowercased (trimWhitespace text) = F.lowercased (trimWhitespace text'))) ∧
    ∀ (realm : Realm) (as : List Action) (s : State),
      (application F).run (launch realm) as = .ok s →
      ∀ task ∈ s.search.coverTasks, F.isURL task.url = true ∧
        ∀ task' ∈ s.search.coverTasks, task.url = task'.url ↔
          (s.objects.book task.book).coverID = (s.objects.book task'.book).coverID
  := by
  constructor
  · intro text text' hurl hurl'
    apply hF.requestURL_inj (hF.isURL_requestURL_iff.mp hurl) (hF.isURL_requestURL_iff.mp hurl')
  · intro realm as s h task htask
    have hcovers := Covers.of_run h
    obtain ⟨-, hurl⟩ := hcovers.tasks task htask
    constructor
    · rw [hurl]
      apply hF.isURL_bookCoverRequestURL
    · intro task' htask'
      obtain ⟨-, hurl'⟩ := hcovers.tasks task' htask'
      rw [hurl, hurl', bookCoverRequestURL_eq_coverURL, bookCoverRequestURL_eq_coverURL,
        coverURL_inj]

/-- Two ways to write one text, and the covers of two books of one search. -/
theorem requests_told_apart_dune :
  (requestURL .onAscii "The Hobbit" = requestURL .onAscii "the hobbit" ↔
      Foundation.onAscii.lowercased (trimWhitespace "The Hobbit") =
        Foundation.onAscii.lowercased (trimWhitespace "the hobbit")) ∧
    ∃ s, (application .onAscii).run (launch Table.empty)
        [.screen (.searchBarTextDidChange "dune"), .beginRequest 1,
          .bookInfoResponse 0 (responseOf [document 7 "Dune", document 9 "Emma"])] = .ok s ∧
      ∀ task ∈ s.search.coverTasks, Foundation.onAscii.isURL task.url = true ∧
        ∀ task' ∈ s.search.coverTasks, task.url = task'.url ↔
          (s.objects.book task.book).coverID = (s.objects.book task'.book).coverID
  := by
  obtain ⟨hqueries, hcovers⟩ := requests_told_apart .onAscii Foundation.onAscii_lawful
  constructor
  · apply hqueries
    · decide +kernel
    · decide +kernel
    · constructor
      · unfold NoSpaceAtEnds
        decide +kernel
      · simp [Uri.isReadDifferently]
    · constructor
      · unfold NoSpaceAtEnds
        decide +kernel
      · simp [Uri.isReadDifferently]
  · apply (exists_congr (fun s => and_iff_left_of_imp _)).mpr
    · exact ⟨_, rfl⟩
    · apply hcovers

end OpenLibrary
