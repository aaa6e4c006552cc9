import OpenLibrary.Library.Uri
import OpenLibrary.Model.Traps

/-!
# The query of a request

`requestAPI` rewrites the spaces of the text of the search bar to `+`, trims it, lowercases it,
and appends it to the address of the search; it escapes nothing. A text whose request has a URL
is an `IsQueryText`, and any other stops the process when its timer fires. Of the texts whose
request has a URL, those that `SurvivesEncoding` are the ones the server reads back.
-/

namespace OpenLibrary

/-! ### Foundation -/

/-- The Kelvin sign, the only character outside ASCII whose lowercase is of ASCII. -/
def kelvinSign : Char := Char.ofNat 0x212A

/-- What the lowercase of a text has for a character of it. -/
def LowercasedTo (c : Char) (piece : List Char) : Prop :=
  if c.toNat < 0x80 then
    piece = [c.toLower]
  else if c = kelvinSign then
    piece = ['k']
  else
    ∃ d ∈ piece, 0x80 ≤ d.toNat

/-- What is relied on of Foundation: a text is lowercased character by character, and
`URL(string:)` is not `nil` exactly for texts made of the characters and percent escapes that
RFC 3986 allows. -/
structure Foundation.Lawful (F : Foundation) : Prop where
  lowercased (s : String) : ∃ pieces, List.Forall₂ LowercasedTo s.toList pieces ∧
    (F.lowercased s).toList = pieces.flatten
  isURL (s : String) : F.isURL s = true ↔ Uri.wellFormed Uri.isAllowed s.toList = true

/-- The lowercase of a character of ASCII or of the Kelvin sign. -/
def lowercase (c : Char) : Char :=
  if c = kelvinSign then 'k' else c.toLower

/-- Foundation on texts of ASCII and the Kelvin sign, whose other characters are left alone. -/
def Foundation.onAscii : Foundation where
  lowercased s := String.ofList (s.toList.map lowercase)
  isURL s := Uri.wellFormed Uri.isAllowed s.toList

/-! ### Characters -/

/-- The characters whose lowercase is of ASCII. -/
def LowercasesToAscii (c : Char) : Prop :=
  c.toNat < 0x80 ∨ c = kelvinSign

/-- The characters the text of a query may have. -/
def isQueryCharacter (c : Char) : Bool :=
  Uri.isAllowed c || c == ' ' || c == kelvinSign

/-- What holds of each character of ASCII and of the Kelvin sign. -/
theorem LowercasesToAscii.induction {C : Char → Prop} (hascii : ∀ n < 0x80, C (Char.ofNat n))
    (hkelvin : C kelvinSign) :
  ∀ c, LowercasesToAscii c → C c
  := by
  rintro c (h | rfl)
  · rw [← Char.ofNat_toNat c]
    apply hascii c.toNat h
  · apply hkelvin

/-- What rewriting a space and lowercasing a character do to it. -/
theorem LowercasesToAscii.written : ∀ c, LowercasesToAscii c →
  Uri.SamePart (if lowercase c = ' ' then '+' else lowercase c) c ∧
    Uri.isAllowed (if lowercase c = ' ' then '+' else lowercase c) = isQueryCharacter c
  := by
  apply LowercasesToAscii.induction
  · decide +kernel
  · decide

/-- What lowercasing a character leaves alone. -/
theorem LowercasesToAscii.kept : ∀ c, LowercasesToAscii c →
  (if lowercase c = ' ' then '+' else lowercase c) = lowercase (if c = ' ' then '+' else c) ∧
    (lowercase c == ' ') = (c == ' ') ∧
    Uri.isReadDifferently (lowercase c) = Uri.isReadDifferently c
  := by
  apply LowercasesToAscii.induction
  · decide +kernel
  · decide

theorem LowercasesToAscii.isWhitespaceOrNewline_eq : ∀ c, LowercasesToAscii c →
  isQueryCharacter c = true ∨ c = '%' → isWhitespaceOrNewline c = (c == ' ')
  := by
  apply LowercasesToAscii.induction
  · decide +kernel
  · decide

theorem LowercasesToAscii.replaced {c : Char} (h : LowercasesToAscii c) :
  LowercasesToAscii (if c = ' ' then '+' else c)
  := by
  split
  · left
    decide
  · apply h

theorem lowercasesToAscii_of_isQueryCharacter {c : Char}
    (h : isQueryCharacter c = true ∨ c = '%') :
  LowercasesToAscii c
  := by
  simp only [isQueryCharacter, Bool.or_eq_true, beq_iff_eq] at h
  rcases h with ((h | rfl) | rfl) | rfl
  · left
    apply Uri.isAllowed_lt h
  · left
    decide
  · right
    rfl
  · left
    decide

/-! ### Lowercasing -/

/-- A text whose characters lowercase to ASCII is lowercased one by one. -/
theorem flatten_eq_map {l : List Char} {pieces : List (List Char)}
    (hpieces : List.Forall₂ LowercasedTo l pieces) (h : ∀ c ∈ l, LowercasesToAscii c) :
  pieces.flatten = l.map lowercase
  := by
  induction hpieces with
  | nil => rfl
  | @cons c piece l pieces hc hpieces ih =>
      have hpiece : piece = [lowercase c] := by
        rw [LowercasedTo] at hc
        rcases h c List.mem_cons_self with hascii | rfl
        · rw [if_pos hascii] at hc
          rw [hc, lowercase, if_neg]
          rintro rfl
          contradiction
        · apply hc
      rw [List.flatten_cons, hpiece, ih (fun d hd => h d (List.mem_cons_of_mem c hd))]
      rfl

/-- Any other character leaves one outside ASCII. -/
theorem exists_mem_flatten {l : List Char} {pieces : List (List Char)} {c : Char}
    (hpieces : List.Forall₂ LowercasedTo l pieces) (hc : c ∈ l) (hnot : ¬ LowercasesToAscii c) :
  ∃ d ∈ pieces.flatten, 0x80 ≤ d.toNat
  := by
  induction hpieces with
  | nil => cases hc
  | @cons c' piece l pieces hpiece hpieces ih =>
      rw [List.flatten_cons]
      cases hc with
      | head =>
          rw [LowercasedTo, if_neg (fun h => hnot (Or.inl h)), if_neg (fun h => hnot (Or.inr h))]
            at hpiece
          obtain ⟨d, hd, hge⟩ := hpiece
          exact ⟨d, List.mem_append_left _ hd, hge⟩
      | tail _ hc =>
          obtain ⟨d, hd, hge⟩ := ih hc
          exact ⟨d, List.mem_append_right _ hd, hge⟩

theorem toLower_of_not_lt {c : Char} (h : ¬ c.toNat < 0x80) :
  c.toLower = c
  := by
  apply dif_neg
  rintro ⟨-, hle⟩
  apply h (Nat.lt_of_le_of_lt (UInt32.le_iff_toNat_le.mp hle) (by decide))

theorem Foundation.onAscii_lawful :
  Foundation.onAscii.Lawful
  := by
  constructor
  · intro s
    use s.toList.map (fun c => [lowercase c])
    constructor
    · rw [List.forall₂_map_right_iff, List.forall₂_same]
      intro c hc
      rw [LowercasedTo, lowercase]
      split
      · rw [if_neg]
        rintro rfl
        contradiction
      · next hascii =>
          split
          · rfl
          · use c
            rw [toLower_of_not_lt hascii]
            exact ⟨List.mem_singleton_self c, Nat.le_of_not_lt hascii⟩
    · rw [onAscii, String.toList_ofList, ← List.flatMap_def, List.map_eq_flatMap]
  · intro s
    rfl

/-! ### The text that is sent -/

/-- The whitespace that is trimmed: the spaces are a `+` by then. -/
def isOtherWhitespace (c : Char) : Bool :=
  isWhitespaceOrNewline c && c != ' '

/-- The string a request makes its URL of. -/
def requestURL (F : Foundation) (text : String) : String :=
  bookInfoRequestURL (optimizedBookQuery F text)

/-- The request for a text has a URL: between any other whitespace at its ends, the text is made
of spaces, of characters a URL may have, of the Kelvin sign, and of percent escapes. -/
def IsQueryText (text : String) : Prop :=
  Uri.wellFormed isQueryCharacter (text.toList.trimWhile isOtherWhitespace) = true

theorem toList_trimWhitespace (s : String) :
  (trimWhitespace s).toList = s.toList.trimWhile isWhitespaceOrNewline
  := String.toList_ofList

theorem toList_trimWhitespace_replaceSpaces (text : String) :
  (trimWhitespace (replaceSpaces text)).toList =
    Uri.writeSpaces (text.toList.trimWhile isOtherWhitespace)
  := by
  have hreplaced : (replaceSpaces text).toList = Uri.writeSpaces text.toList :=
    String.toList_ofList
  rw [toList_trimWhitespace, hreplaced, Uri.writeSpaces, List.trimWhile_map, Uri.writeSpaces]
  rw [List.trimWhile_congr (q := isOtherWhitespace)]
  intro c hc
  rw [Function.comp_apply, isOtherWhitespace]
  by_cases hspace : c = ' '
  · rw [hspace]
    decide
  · rw [if_neg hspace, bne_iff_ne.mpr hspace, Bool.and_true]

section Sent

variable {F : Foundation} {text : String}

/-- The query of a text whose characters lowercase to ASCII. -/
theorem Foundation.Lawful.toList_optimizedBookQuery (hF : F.Lawful)
    (h : ∀ c ∈ text.toList.trimWhile isOtherWhitespace, LowercasesToAscii c) :
  (optimizedBookQuery F text).toList =
    Uri.writeSpaces ((text.toList.trimWhile isOtherWhitespace).map lowercase)
  := by
  obtain ⟨pieces, hpieces, hlower⟩ := hF.lowercased (trimWhitespace (replaceSpaces text))
  rw [optimizedBookQuery, hlower, flatten_eq_map hpieces]
  · rw [toList_trimWhitespace_replaceSpaces, Uri.writeSpaces, Uri.writeSpaces, List.map_map,
      List.map_map]
    apply List.map_congr_left
    intro c hc
    apply (LowercasesToAscii.kept c (h c hc)).1.symm
  · intro c hc
    rw [toList_trimWhitespace_replaceSpaces] at hc
    obtain ⟨d, hd, rfl⟩ := List.mem_map.mp hc
    apply (h d hd).replaced

/-- The characters of the query of a text with another character are not all of ASCII. -/
theorem Foundation.Lawful.exists_mem_optimizedBookQuery (hF : F.Lawful) {c : Char}
    (hc : c ∈ text.toList.trimWhile isOtherWhitespace) (hnot : ¬ LowercasesToAscii c) :
  ∃ d ∈ (optimizedBookQuery F text).toList, 0x80 ≤ d.toNat
  := by
  obtain ⟨pieces, hpieces, hlower⟩ := hF.lowercased (trimWhitespace (replaceSpaces text))
  rw [optimizedBookQuery, hlower]
  apply exists_mem_flatten hpieces _ hnot
  have hne (d : Char) (hd : LowercasesToAscii d) : c ≠ d := by
    rintro rfl
    apply hnot hd
  rw [toList_trimWhitespace_replaceSpaces]
  apply (Uri.mem_writeSpaces (hne ' ' (Or.inl (by decide))) (hne '+' (Or.inl (by decide)))).mpr hc

theorem all_isAllowed_address :
  "http://openlibrary.org/search.json?q=".toList.all Uri.isAllowed = true
  := by
  decide +kernel

theorem toList_requestURL :
  (requestURL F text).toList =
    "http://openlibrary.org/search.json?q=".toList ++ (optimizedBookQuery F text).toList
  := String.toList_append

/-- The request for a text has a URL exactly when the text is the text of a query. -/
theorem Foundation.Lawful.isURL_requestURL_iff (hF : F.Lawful) :
  F.isURL (requestURL F text) = true ↔ IsQueryText text
  := by
  apply (hF.isURL _).trans
  rw [toList_requestURL, Uri.wellFormed_append (List.all_eq_true.mp all_isAllowed_address), IsQueryText]
  by_cases hall : ∀ c ∈ text.toList.trimWhile isOtherWhitespace, LowercasesToAscii c
  · rw [hF.toList_optimizedBookQuery hall, Uri.writeSpaces, List.map_map]
    apply Bool.eq_iff_iff.mp
    apply Uri.wellFormed_map
    · intro c hc
      apply (LowercasesToAscii.written c (hall c hc)).1
    · intro c hc
      apply (LowercasesToAscii.written c (hall c hc)).2
  · push Not at hall
    obtain ⟨c, hc, hnot⟩ := hall
    apply iff_of_false
    · intro hurl
      obtain ⟨d, hd, hge⟩ := hF.exists_mem_optimizedBookQuery hc hnot
      rcases Uri.allowed_of_wellFormed hurl hd with h | rfl
      · have := Uri.isAllowed_lt h
        omega
      · apply absurd hge (by decide)
    · intro hquery
      apply hnot (lowercasesToAscii_of_isQueryCharacter (Uri.allowed_of_wellFormed hquery hc))

/-- The string the URL of a cover is made of is a URL for every number. -/
theorem Foundation.Lawful.isURL_bookCoverRequestURL (hF : F.Lawful) (coverID : Int) :
  F.isURL (bookCoverRequestURL coverID) = true
  := by
  have haddress : "http://covers.openlibrary.org/b/id/".toList.all Uri.isAllowed = true := by
    decide +kernel
  have hend : Uri.wellFormed Uri.isAllowed "-M.jpg".toList = true := by
    decide +kernel
  have hnat (n : Nat) : ∀ c ∈ n.repr.toList, Uri.isAllowed c = true := by
    intro c hc
    rw [Nat.toList_repr] at hc
    have hdigit := Nat.isDigit_of_mem_toDigits (by decide) (by decide) hc
    rw [Uri.isAllowed, Char.isAlphanum, hdigit, Bool.or_true, Bool.true_or, Bool.true_or]
  have hint : ∀ c ∈ (toString coverID).toList, Uri.isAllowed c = true := by
    rw [Int.toString_eq_repr, Int.repr_eq_if]
    split
    · apply hnat
    · intro c hc
      rw [String.toList_append] at hc
      rcases List.mem_append.mp hc with hc | hc
      · rw [List.mem_singleton.mp hc]
        decide
      · apply hnat _ c hc
  have hurl : (bookCoverRequestURL coverID).toList =
      "http://covers.openlibrary.org/b/id/".toList ++
        ((toString coverID).toList ++ "-M.jpg".toList) := by
    unfold bookCoverRequestURL
    rw [String.toList_append, String.toList_append, List.append_assoc]
  apply (hF.isURL _).mpr
  apply (congrArg (Uri.wellFormed Uri.isAllowed) hurl).trans
  apply (Uri.wellFormed_append (List.all_eq_true.mp haddress)).trans
  apply (Uri.wellFormed_append hint).trans hend

end Sent

/-! ### Requests without a URL -/

/-- A timer that fires does so with the text of a query. -/
def FiresQueryText (s : State) (a : Action) : Prop :=
  ∀ timer text, a = .beginRequest timer → s.posting = none →
    (s.screen.scheduledTimers.lookup timer).isSome → s.userInfo = some text → IsQueryText text

theorem step_ne_forcedUnwrap_iff {F : Foundation} (hF : F.Lawful) {s : State} {a : Action} :
  (application F).step s a ≠ .error (.trap .forcedUnwrap) ↔ FiresQueryText s a
  := by
  constructor
  · rintro h timer text rfl hidle htimer hinfo
    by_contra hquery
    apply h (State.step_eq_trap.mpr (TrapEffect.url hidle htimer hinfo _))
    intro hurl
    apply hquery (hF.isURL_requestURL_iff.mp hurl)
  · intro h htrap
    have he := State.step_eq_trap.mp htrap
    cases he with
    | url hidle htimer hinfo hurl =>
        apply hurl (hF.isURL_requestURL_iff.mpr (h _ _ rfl hidle htimer hinfo))

/-- The request for a text has a URL exactly when the text is the text of a query, and no run
ends in the forced unwrap of one exactly when each timer fires with such a text. -/
theorem typed_query_iff (F : Foundation) (hF : F.Lawful) :
  (∀ text, F.isURL (requestURL F text) = true ↔ IsQueryText text) ∧
    ∀ (s : State) (actions : List Action),
      (application F).run s actions ≠ .error (.trap .forcedUnwrap) ↔
        (application F).EveryStep FiresQueryText s actions
  := by
  constructor
  · intro text
    apply hF.isURL_requestURL_iff
  · intro s actions
    rw [Machine.run_ne_error_iff]
    constructor
    · intro h pre a post u he hu
      apply (step_ne_forcedUnwrap_iff hF).mp (h pre a post u he hu)
    · intro h pre a post u he hu
      apply (step_ne_forcedUnwrap_iff hF).mpr (h pre a post u he hu)

/-- A query is typed, and its timer fires. -/
theorem typed_query_iff_dune :
  (Foundation.onAscii.isURL (requestURL .onAscii "Dune 1965") = true ↔
      IsQueryText "Dune 1965") ∧
    ((application .onAscii).run (launch Table.empty)
        [.screen (.searchBarTextDidChange "Dune 1965"), .beginRequest 1] ≠
          .error (.trap .forcedUnwrap) ↔
      (application .onAscii).EveryStep FiresQueryText (launch Table.empty)
        [.screen (.searchBarTextDidChange "Dune 1965"), .beginRequest 1])
  := by
  constructor
  · apply (typed_query_iff .onAscii Foundation.onAscii_lawful).1
  · apply (typed_query_iff .onAscii Foundation.onAscii_lawful).2

/-- The request for a text with a letter outside ASCII has no URL. -/
theorem accented_letter_traps :
  ¬ ∀ (F : Foundation) (realm : Realm) (text : String), F.Lawful → text ≠ "" →
    (application F).run (launch realm)
      [.screen (.searchBarTextDidChange text), .beginRequest 1] ≠ .error (.trap .forcedUnwrap)
  := by
  intro h
  apply h .onAscii Table.empty "café" Foundation.onAscii_lawful (by decide)
  rfl

/-! ### Queries read by the server -/

/-- The server reads one parameter in the URL of the request for a text: `q`, with the lowercase
of the text without the whitespace at its ends. -/
def IsReadBack (F : Foundation) (text : String) : Prop :=
  Uri.parameters (requestURL F text).toList =
    [(Uri.utf8 "q".toList, Uri.utf8 (F.lowercased (trimWhitespace text)).toList)]

/-- There is no space in the whitespace at the ends of a text. -/
def NoSpaceAtEnds (text : String) : Prop :=
  ' ' ∉ text.toList.takeWhile isWhitespaceOrNewline ∧
    ' ' ∉ text.toList.reverse.takeWhile isWhitespaceOrNewline

/-- A text with no space at its ends and no `&`, `#`, `+` or `%`. -/
def SurvivesEncoding (text : String) : Prop :=
  NoSpaceAtEnds text ∧ ∀ c ∈ text.toList, Uri.isReadDifferently c = false

section ReadBack

variable {F : Foundation} {text : String}

/-- Without a space at its ends, a text is trimmed of all the whitespace there. -/
theorem noSpaceAtEnds_iff :
  NoSpaceAtEnds text ↔
    text.toList.trimWhile isOtherWhitespace = text.toList.trimWhile isWhitespaceOrNewline
  := by
  have hspace {l : List Char} : ' ' ∉ l.takeWhile isWhitespaceOrNewline ↔
      ∀ c ∈ l.takeWhile isWhitespaceOrNewline, isOtherWhitespace c = true := by
    constructor
    · intro h c hc
      rw [isOtherWhitespace, List.mem_takeWhile_imp hc, Bool.true_and, bne_iff_ne]
      rintro rfl
      apply h hc
    · intro h hc
      have := h ' ' hc
      contradiction
  rw [List.trimWhile_eq_trimWhile_iff, NoSpaceAtEnds, hspace, hspace]
  intro c hc
  apply (Bool.and_eq_true_iff.mp hc).1

/-- The text of a query is trimmed of the spaces at its ends where the whitespace at the ends of
the text is trimmed. -/
theorem IsQueryText.trimWhile_eq (h : IsQueryText text) :
  text.toList.trimWhile isWhitespaceOrNewline =
    (text.toList.trimWhile isOtherWhitespace).trimWhile (· == ' ')
  := by
  rw [← List.trimWhile_trimWhile (q := isOtherWhitespace)]
  · apply List.trimWhile_congr
    intro c hc
    have hcharacter := Uri.allowed_of_wellFormed h hc
    apply LowercasesToAscii.isWhitespaceOrNewline_eq c _ hcharacter
    apply lowercasesToAscii_of_isQueryCharacter hcharacter
  · intro c hc
    apply (Bool.and_eq_true_iff.mp hc).1

/-- The characters of a text that are read differently are not at its ends. -/
theorem forall_isReadDifferently_iff :
  (∀ c ∈ text.toList.trimWhile isOtherWhitespace, Uri.isReadDifferently c = false) ↔
    ∀ c ∈ text.toList, Uri.isReadDifferently c = false
  := by
  have hends {c : Char} (hc : isOtherWhitespace c = true) :
      Uri.isReadDifferently c = false := by
    rw [Bool.eq_false_iff]
    intro h
    have hnone : ['&', '#', '+', '%'].all (fun d => !isOtherWhitespace d) = true := by
      decide
    have hnot := List.all_eq_true.mp hnone c (Uri.mem_of_isReadDifferently h)
    rw [hc] at hnot
    contradiction
  obtain ⟨a, b, htext, ha, hb⟩ := List.exists_append_trimWhile isOtherWhitespace text.toList
  constructor
  · intro h c hc
    rw [htext] at hc
    rcases List.mem_append.mp hc with hc | hc
    · rcases List.mem_append.mp hc with hc | hc
      · apply hends (ha c hc)
      · apply h c hc
    · apply hends (hb c hc)
  · intro h c hc
    apply h c (List.mem_of_mem_trimWhile hc)

theorem address_eq :
  "http://openlibrary.org/search.json?q=".toList =
    "http://openlibrary.org/search.json".toList ++ '?' :: ("q".toList ++ ['='])
  := by
  decide +kernel

theorem trimWhile_map_lowercase {l : List Char} (hl : ∀ c ∈ l, LowercasesToAscii c) :
  (l.map lowercase).trimWhile (· == ' ') = (l.trimWhile (· == ' ')).map lowercase
  := by
  rw [List.trimWhile_map, List.trimWhile_congr]
  intro c hc
  apply (LowercasesToAscii.kept c (hl c hc)).2.1

/-- What the server reads of the text of a query. -/
theorem Foundation.Lawful.isReadBack_iff (hF : F.Lawful) (h : IsQueryText text) :
  IsReadBack F text ↔
    (text.toList.trimWhile isOtherWhitespace).trimWhile (· == ' ') =
        text.toList.trimWhile isOtherWhitespace ∧
      ∀ c ∈ text.toList.trimWhile isOtherWhitespace, Uri.isReadDifferently c = false
  := by
  have hurl := (hF.isURL _).mp (hF.isURL_requestURL_iff.mpr h)
  have htrim := h.trimWhile_eq
  have hl : ∀ c ∈ text.toList.trimWhile isOtherWhitespace, LowercasesToAscii c :=
    fun c hc => lowercasesToAscii_of_isQueryCharacter (Uri.allowed_of_wellFormed h hc)
  have hquery := hF.toList_optimizedBookQuery hl
  have hvalue : (F.lowercased (trimWhitespace text)).toList =
      (text.toList.trimWhile isWhitespaceOrNewline).map lowercase := by
    obtain ⟨pieces, hpieces, hlower⟩ := hF.lowercased (trimWhitespace text)
    rw [toList_trimWhitespace] at hpieces
    rw [hlower, flatten_eq_map hpieces]
    intro c hc
    rw [htrim] at hc
    apply hl c (List.mem_of_mem_trimWhile hc)
  rw [toList_requestURL, Uri.wellFormed_append (List.all_eq_true.mp all_isAllowed_address),
    hquery] at hurl
  rw [htrim, ← trimWhile_map_lowercase hl] at hvalue
  rw [IsReadBack, toList_requestURL, address_eq, hquery, hvalue, List.append_assoc,
    List.cons_append, List.append_assoc, List.singleton_append,
    Uri.parameters_eq_singleton_iff (by decide +kernel) (by decide),
    Uri.spacesWritten_read_iff hurl,
    trimWhile_map_lowercase hl]
  apply and_congr
  · constructor
    · intro hsame
      apply List.trimWhile_sublist.eq_of_length
      rw [← List.length_map lowercase, hsame, List.length_map]
    · intro hsame
      rw [hsame]
  · rw [List.forall_mem_map]
    apply forall₂_congr
    intro c hc
    rw [(LowercasesToAscii.kept c (hl c hc)).2.2]

end ReadBack

/-- Among the texts whose request has a URL, those that are read back are the ones that survive
encoding; and two texts with no space at their ends that differ only in the whitespace there
send the same query. -/
theorem lossless_iff (F : Foundation) (hF : F.Lawful) :
  (∀ text, F.isURL (requestURL F text) = true → (IsReadBack F text ↔ SurvivesEncoding text)) ∧
    ∀ text text', NoSpaceAtEnds text → NoSpaceAtEnds text' →
      trimWhitespace text = trimWhitespace text' →
      optimizedBookQuery F text = optimizedBookQuery F text'
  := by
  constructor
  · intro text hurl
    have hquery := hF.isURL_requestURL_iff.mp hurl
    rw [hF.isReadBack_iff hquery, SurvivesEncoding, noSpaceAtEnds_iff, hquery.trimWhile_eq,
      forall_isReadDifferently_iff, eq_comm]
  · intro text text' hends hends' htrim
    apply congrArg F.lowercased
    apply String.toList_inj.mp
    rw [toList_trimWhitespace_replaceSpaces, toList_trimWhitespace_replaceSpaces,
      noSpaceAtEnds_iff.mp hends, noSpaceAtEnds_iff.mp hends', ← toList_trimWhitespace,
      ← toList_trimWhitespace, htrim]

/-- A text with whitespace other than spaces after it. -/
theorem lossless_iff_dune :
  (IsReadBack .onAscii (String.ofList ("The Hobbit".toList ++ [Char.ofNat 0x0A])) ↔
      SurvivesEncoding (String.ofList ("The Hobbit".toList ++ [Char.ofNat 0x0A]))) ∧
    optimizedBookQuery .onAscii (String.ofList ("The Hobbit".toList ++ [Char.ofNat 0x0A])) =
      optimizedBookQuery .onAscii "The Hobbit"
  := by
  constructor
  · apply (lossless_iff .onAscii Foundation.onAscii_lawful).1
    decide +kernel
  · apply (lossless_iff .onAscii Foundation.onAscii_lawful).2
    · unfold NoSpaceAtEnds
      decide +kernel
    · unfold NoSpaceAtEnds
      decide +kernel
    · decide +kernel

/-- The `+` in a text is read as a space. -/
theorem plus_sign_lost :
  ¬ ∀ (F : Foundation) (text : String), F.Lawful → F.isURL (requestURL F text) = true →
    IsReadBack F text
  := by
  intro h
  have hread := h .onAscii "c++" Foundation.onAscii_lawful (by decide +kernel)
  apply absurd hread
  unfold IsReadBack
  decide +kernel

end OpenLibrary
