import Mathlib.Data.List.Basic
import OpenLibrary.Library.Lists

/-!
# The characters and the parameters of a URI

The characters RFC 3986 allows in a URI, its percent escapes, and the parameters a server reads
off the query of a URI that a form has sent: the fragment is dropped at `#`, the query is split
at `&`, a parameter at its first `=`, a `+` is read as a space, and percent escapes are decoded.

A client that writes a value into a query with each space as a `+`, and escapes nothing, sends
that value without the spaces around it exactly when `spacesWritten_read_iff` says so.
-/

namespace Uri

/-! ### Characters -/

/-- The characters that stand for themselves, and the delimiters. -/
def isAllowed (c : Char) : Bool :=
  c.isAlphanum || "-._~".toList.contains c || ":/?#[]@!$&'()*+,;=".toList.contains c

/-- The value of a hexadecimal digit. -/
def hexValue (c : Char) : Option Nat :=
  if '0' ≤ c ∧ c ≤ '9' then some (c.toNat - 0x30)
  else if 'A' ≤ c ∧ c ≤ 'F' then some (c.toNat - 0x41 + 10)
  else if 'a' ≤ c ∧ c ≤ 'f' then some (c.toNat - 0x61 + 10)
  else none

/-- A text begins with two hexadecimal digits. -/
def beginsWithOctet : List Char → Bool
  | x :: y :: _ => (hexValue x).isSome && (hexValue y).isSome
  | _ => false

/-- A text is made of the characters that are allowed and of percent escapes. -/
def wellFormed (allowed : Char → Bool) : List Char → Bool
  | [] => true
  | c :: rest => (allowed c || (c == '%' && beginsWithOctet rest)) && wellFormed allowed rest

section WellFormed

variable {allowed : Char → Bool} {l : List Char}

theorem wellFormed_cons {c : Char} :
  wellFormed allowed (c :: l) = true ↔
    (allowed c = true ∨ c = '%' ∧ beginsWithOctet l = true) ∧ wellFormed allowed l = true
  := by
  simp [wellFormed]

theorem allowed_of_wellFormed {c : Char} (h : wellFormed allowed l = true) (hc : c ∈ l) :
  allowed c = true ∨ c = '%'
  := by
  induction l with
  | nil => cases hc
  | cons d l ih =>
      obtain ⟨hd, hl⟩ := wellFormed_cons.mp h
      cases hc with
      | head => apply hd.imp_right And.left
      | tail _ hc => apply ih hl hc

/-- Characters that are allowed may stand before a text. -/
theorem wellFormed_append {a : List Char} (ha : ∀ c ∈ a, allowed c = true) :
  wellFormed allowed (a ++ l) = wellFormed allowed l
  := by
  induction a with
  | nil => rfl
  | cons c a ih =>
      rw [List.cons_append, wellFormed, ha c List.mem_cons_self,
        ih (fun d hd => ha d (List.mem_cons_of_mem c hd))]
      rfl

/-- Two characters take the same part in percent escapes. -/
def SamePart (c d : Char) : Prop :=
  (c = '%' ↔ d = '%') ∧ (hexValue c).isSome = (hexValue d).isSome

instance (c d : Char) : Decidable (SamePart c d) :=
  inferInstanceAs (Decidable (_ ∧ _))

theorem beginsWithOctet_map {f : Char → Char} (hf : ∀ c ∈ l, SamePart (f c) c) :
  beginsWithOctet (l.map f) = beginsWithOctet l
  := by
  match l, hf with
  | [], _ => rfl
  | [x], _ => rfl
  | x :: y :: rest, hf =>
      simp only [List.map_cons, beginsWithOctet, (hf x (by simp)).2, (hf y (by simp)).2]

/-- Rewriting a text character by character, and leaving its percent escapes alone. -/
theorem wellFormed_map {allowed' : Char → Bool} {f : Char → Char}
    (hf : ∀ c ∈ l, SamePart (f c) c) (hallowed : ∀ c ∈ l, allowed (f c) = allowed' c) :
  wellFormed allowed (l.map f) = wellFormed allowed' l
  := by
  induction l with
  | nil => rfl
  | cons c l ih =>
      have hc := hf c List.mem_cons_self
      have hl : ∀ d ∈ l, SamePart (f d) d := fun d hd => hf d (List.mem_cons_of_mem c hd)
      have hpercent : (f c == '%') = (c == '%') := by
        rw [Bool.eq_iff_iff, beq_iff_eq, beq_iff_eq, hc.1]
      rw [List.map_cons, wellFormed, wellFormed, hallowed c List.mem_cons_self, hpercent,
        beginsWithOctet_map hl, ih hl (fun d hd => hallowed d (List.mem_cons_of_mem c hd))]

end WellFormed

/-! ### Octets -/

/-- The octets of a text in UTF-8. -/
def utf8 (l : List Char) : List UInt8 :=
  l.flatMap String.utf8EncodeChar

/-- The octets a server reads in a text. -/
def decode : List Char → List UInt8
  | [] => []
  | '+' :: rest => 0x20 :: decode rest
  | '%' :: x :: y :: rest =>
      match hexValue x, hexValue y with
      | some a, some b => UInt8.ofNat (16 * a + b) :: decode rest
      | _, _ => 0x25 :: decode (x :: y :: rest)
  | c :: rest => String.utf8EncodeChar c ++ decode rest

example : decode "rock+%26+roll%21".toList = utf8 "rock & roll!".toList := by
  decide

section Octets

variable {allowed : Char → Bool} {l : List Char}

theorem utf8_cons {c : Char} :
  utf8 (c :: l) = String.utf8EncodeChar c ++ utf8 l
  := List.flatMap_cons

/-- A character of ASCII is one octet. -/
theorem utf8EncodeChar_of_lt {c : Char} (h : c.toNat < 0x80) :
  String.utf8EncodeChar c = [UInt8.ofNat c.toNat]
  := by
  have hsize : c.utf8Size = 1 := by
    rw [Char.utf8Size_eq_one_iff, UInt32.le_iff_toNat_le]
    apply Nat.le_of_lt_succ h
  rw [String.utf8EncodeChar_eq_singleton hsize]
  rfl

theorem utf8_of_ascii (h : ∀ c ∈ l, c.toNat < 0x80) :
  utf8 l = l.map (fun c => UInt8.ofNat c.toNat)
  := by
  induction l with
  | nil => rfl
  | cons c l ih =>
      rw [utf8_cons, utf8EncodeChar_of_lt (h c List.mem_cons_self),
        ih (fun d hd => h d (List.mem_cons_of_mem c hd))]
      rfl

theorem length_utf8_of_ascii (h : ∀ c ∈ l, c.toNat < 0x80) :
  (utf8 l).length = l.length
  := by
  rw [utf8_of_ascii h, List.length_map]

theorem ofNat_toNat_inj {c d : Char} (hc : c.toNat < 0x80) (hd : d.toNat < 0x80)
    (h : UInt8.ofNat c.toNat = UInt8.ofNat d.toNat) :
  c = d
  := by
  have hnat := congrArg UInt8.toNat h
  rw [UInt8.toNat_ofNat', UInt8.toNat_ofNat', Nat.mod_eq_of_lt (by omega),
    Nat.mod_eq_of_lt (by omega)] at hnat
  apply Char.toNat_inj.mp hnat

@[simp]
theorem decode_plus :
  decode ('+' :: l) = 0x20 :: decode l
  := by
  rw [decode]

/-- A character that is neither `+` nor `%` is read as itself. -/
theorem decode_cons {c : Char} (hplus : c ≠ '+') (hpercent : c ≠ '%') :
  decode (c :: l) = String.utf8EncodeChar c ++ decode l
  := by
  rw [decode]
  · apply hplus
  · intro x y rest hc
    contradiction

/-- A percent escape is read as one octet. -/
theorem decode_escape {x y : Char} {a b : Nat} (hx : hexValue x = some a)
    (hy : hexValue y = some b) :
  decode ('%' :: x :: y :: l) = UInt8.ofNat (16 * a + b) :: decode l
  := by
  rw [decode, hx, hy]

/-- A `%` with no two hexadecimal digits after it is read as itself. -/
theorem decode_percent (h : beginsWithOctet l = false) :
  decode ('%' :: l) = 0x25 :: decode l
  := by
  match l, h with
  | [], _ => rfl
  | [x], _ => rfl
  | x :: y :: rest, h =>
      rw [decode]
      cases hx : hexValue x with
      | none => rfl
      | some a =>
          cases hy : hexValue y with
          | none => rfl
          | some b => simp [beginsWithOctet, hx, hy] at h

/-- What the octets of a text are read from, one piece at a time. -/
theorem decode_induction {C : List Char → Prop} (nil : C [])
    (plus : ∀ l, C l → C ('+' :: l))
    (escape : ∀ x y a b l, hexValue x = some a → hexValue y = some b → C l →
      C ('%' :: x :: y :: l))
    (percent : ∀ l, beginsWithOctet l = false → C l → C ('%' :: l))
    (cons : ∀ c l, c ≠ '+' → c ≠ '%' → C l → C (c :: l)) (l : List Char) :
  C l
  := by
  induction hn : l.length using Nat.strongRecOn generalizing l with
  | ind n ih =>
      have hshorter (m : List Char) (hm : m.length < l.length) : C m :=
        ih m.length (hn ▸ hm) m rfl
      match l with
      | [] => apply nil
      | c :: rest =>
          have hrest : C rest := hshorter rest (by simp)
          by_cases hplus : c = '+'
          · rw [hplus]
            apply plus rest hrest
          · by_cases hpercent : c = '%'
            · rw [hpercent]
              match rest with
              | [] => apply percent [] rfl nil
              | [x] => apply percent [x] rfl hrest
              | x :: y :: tail =>
                  cases hx : hexValue x with
                  | none => exact percent _ (by simp [beginsWithOctet, hx]) hrest
                  | some a =>
                      cases hy : hexValue y with
                      | none => exact percent _ (by simp [beginsWithOctet, hy]) hrest
                      | some b =>
                          apply escape x y a b tail hx hy
                          apply hshorter tail
                          simp only [List.length_cons]
                          omega
            · apply cons c rest hplus hpercent hrest

/-- A text without `%` is read as itself, but for `+`. -/
theorem decode_of_not_mem (h : '%' ∉ l) :
  decode l = utf8 (l.map (fun c => if c = '+' then ' ' else c))
  := by
  induction l with
  | nil => rfl
  | cons c l ih =>
      have hl := ih (List.not_mem_of_not_mem_cons h)
      rw [List.map_cons, utf8_cons, ← hl]
      by_cases hplus : c = '+'
      · rw [if_pos hplus, hplus]
        apply decode_plus
      · rw [if_neg hplus]
        apply decode_cons hplus (List.ne_of_not_mem_cons h).symm

/-- What is read in a text of ASCII is not longer than the text. -/
theorem length_decode_le (h : ∀ c ∈ l, c.toNat < 0x80) :
  (decode l).length ≤ l.length
  := by
  induction l using decode_induction with
  | nil => apply Nat.le_refl
  | plus l ih =>
      rw [decode_plus, List.length_cons, List.length_cons]
      have := ih (fun d hd => h d (List.mem_cons_of_mem _ hd))
      omega
  | escape x y a b l hx hy ih =>
      rw [decode_escape hx hy]
      have := ih (fun d hd => h d (by simp [hd]))
      simp only [List.length_cons]
      omega
  | percent l hl ih =>
      rw [decode_percent hl, List.length_cons, List.length_cons]
      have := ih (fun d hd => h d (List.mem_cons_of_mem _ hd))
      omega
  | cons c l hplus hpercent ih =>
      rw [decode_cons hplus hpercent, utf8EncodeChar_of_lt (h c List.mem_cons_self)]
      have := ih (fun d hd => h d (List.mem_cons_of_mem _ hd))
      simp only [List.length_append, List.length_cons, List.length_nil]
      omega

/-- A percent escape makes what is read shorter than the text. -/
theorem length_decode_lt (h : ∀ c ∈ l, c.toNat < 0x80) (hallowed : allowed '%' = false)
    (hl : wellFormed allowed l = true) (hmem : '%' ∈ l) :
  (decode l).length < l.length
  := by
  induction l using decode_induction with
  | nil => cases hmem
  | plus l ih =>
      have := ih (fun d hd => h d (List.mem_cons_of_mem _ hd)) (wellFormed_cons.mp hl).2
        (List.mem_of_ne_of_mem (by decide) hmem)
      rw [decode_plus, List.length_cons, List.length_cons]
      omega
  | escape x y a b l hx hy ih =>
      rw [decode_escape hx hy]
      have := length_decode_le (fun d hd => h d (by simp [hd]) : ∀ d ∈ l, d.toNat < 0x80)
      simp only [List.length_cons]
      omega
  | percent l hnot ih =>
      rcases (wellFormed_cons.mp hl).1 with hc | ⟨-, hc⟩
      · rw [hallowed] at hc
        contradiction
      · rw [hnot] at hc
        contradiction
  | cons c l hplus hpercent ih =>
      have := ih (fun d hd => h d (List.mem_cons_of_mem _ hd)) (wellFormed_cons.mp hl).2
        (List.mem_of_ne_of_mem (Ne.symm hpercent) hmem)
      rw [decode_cons hplus hpercent, utf8EncodeChar_of_lt (h c List.mem_cons_self)]
      simp only [List.length_append, List.length_cons, List.length_nil]
      omega

/-- A `+` is read on its own, whatever stands before it. -/
theorem decode_append_plus {r : List Char} :
  decode (l ++ '+' :: r) = decode l ++ 0x20 :: decode r
  := by
  induction l using decode_induction with
  | nil => apply decode_plus
  | plus l ih => rw [List.cons_append, decode_plus, ih, decode_plus, List.cons_append]
  | escape x y a b l hx hy ih =>
      rw [List.cons_append, List.cons_append, List.cons_append, decode_escape hx hy, ih,
        decode_escape hx hy, List.cons_append]
  | percent l hnot ih =>
      rw [List.cons_append, decode_percent, ih, decode_percent hnot, List.cons_append]
      match l, hnot with
      | [], _ =>
          cases r with
          | nil => rfl
          | cons y r => rfl
      | [x], _ => simp [beginsWithOctet, show hexValue '+' = none from by decide]
      | x :: y :: rest, hnot => apply hnot
  | cons c l hplus hpercent ih =>
      rw [List.cons_append, decode_cons hplus hpercent, ih, decode_cons hplus hpercent,
        List.append_assoc]

end Octets

/-! ### Parameters -/

/-- The query of a URI. -/
def query (uri : List Char) : List Char :=
  ((uri.takeWhile (· != '#')).dropWhile (· != '?')).drop 1

/-- The name and the value of a parameter. -/
def parameter (part : List Char) : List UInt8 × List UInt8 :=
  (decode (part.takeWhile (· != '=')), decode ((part.dropWhile (· != '=')).drop 1))

/-- The parameters of a URI. -/
def parameters (uri : List Char) : List (List UInt8 × List UInt8) :=
  ((query uri).splitOn '&').map parameter

example : parameters "http://a/b?q=the+hobbit&page=2#top".toList =
    [(utf8 "q".toList, utf8 "the hobbit".toList), (utf8 "page".toList, utf8 "2".toList)] := by
  decide

section Parameters

variable {base name value : List Char}

/-- The query of a URI with one begins after the first `?` and ends before the first `#`. -/
theorem query_append (hbase : base.all (fun c => c != '#' && c != '?') = true) :
  query (base ++ '?' :: value) = value.takeWhile (· != '#')
  := by
  have hboth (c : Char) (hc : c ∈ base) := Bool.and_eq_true_iff.mp (List.all_eq_true.mp hbase c hc)
  have hfragment : ∀ c ∈ base ++ ['?'], (c != '#') = true := by
    intro c hc
    rcases List.mem_append.mp hc with hc | hc
    · apply (hboth c hc).1
    · rw [List.mem_singleton.mp hc]
      decide
  have hquery : ∀ c ∈ base, (c != '?') = true := fun c hc => (hboth c hc).2
  rw [query, List.append_cons, List.takeWhile_append_of_pos hfragment, List.append_assoc,
    List.dropWhile_append_of_pos hquery]
  rfl

/-- The characters of a name that end neither the name nor the query and are read as
themselves. -/
def isPlain (c : Char) : Bool :=
  !"#&=+%".toList.contains c

theorem ne_of_isPlain {c d : Char} (hc : isPlain c = true)
    (hd : isPlain d = false) :
  c ≠ d
  := by
  rintro rfl
  rw [hc] at hd
  contradiction

theorem parameter_append (hname : name.all isPlain = true) :
  parameter (name ++ '=' :: value) = (utf8 name, decode value)
  := by
  have hname := List.all_eq_true.mp hname
  have hequals : ∀ c ∈ name, (c != '=') = true := by
    intro c hc
    apply bne_iff_ne.mpr (ne_of_isPlain (hname c hc) (by decide))
  have hpercent : '%' ∉ name := by
    intro hc
    apply ne_of_isPlain (hname _ hc) (by decide) rfl
  have hplus : name.map (fun c => if c = '+' then ' ' else c) = name := by
    rw [List.map_congr_left (g := id)]
    · apply List.map_id
    · intro c hc
      apply if_neg (ne_of_isPlain (hname c hc) (by decide))
  rw [parameter, List.takeWhile_append_of_pos hequals, List.dropWhile_append_of_pos hequals,
    List.takeWhile_cons_of_neg (by decide), List.dropWhile_cons_of_neg (by decide),
    List.append_nil, decode_of_not_mem hpercent, hplus]
  rfl

/-- What a form with one value sends is read as one parameter exactly when no `&` is left in the
value before its first `#`. -/
theorem parameters_eq_singleton_iff {octets : List UInt8}
    (hbase : base.all (fun c => c != '#' && c != '?') = true)
    (hname : name.all isPlain = true) :
  parameters (base ++ '?' :: (name ++ '=' :: value)) = [(utf8 name, octets)] ↔
    '&' ∉ value.takeWhile (· != '#') ∧ decode (value.takeWhile (· != '#')) = octets
  := by
  have hplain := List.all_eq_true.mp hname
  have hfragment : ∀ c ∈ name ++ ['='], (c != '#') = true := by
    intro c hc
    rw [bne_iff_ne]
    rcases List.mem_append.mp hc with hc | hc
    · apply ne_of_isPlain (hplain c hc) (by decide)
    · rw [List.mem_singleton.mp hc]
      decide
  have hand : '&' ∉ name ++ ['='] := by
    intro hc
    rcases List.mem_append.mp hc with hc | hc
    · apply ne_of_isPlain (hplain _ hc) (by decide) rfl
    · apply absurd (List.mem_singleton.mp hc) (by decide)
  rw [parameters, query_append hbase, List.append_cons, List.takeWhile_append_of_pos hfragment]
  generalize value.takeWhile (· != '#') = sent
  by_cases hsent : '&' ∈ sent
  · obtain ⟨first, rest, rfl⟩ := List.append_of_mem hsent
    apply iff_of_false
    · rw [← List.append_assoc, List.splitOn_append_cons_self]
      intro h
      have hlength := congrArg List.length h
      have hfirst := List.length_pos_iff.mpr (List.splitOn_ne_nil '&' (name ++ ['='] ++ first))
      have hrest := List.length_pos_iff.mpr (List.splitOn_ne_nil '&' rest)
      simp only [List.length_map, List.length_append, List.length_singleton] at hlength
      omega
    · intro h
      apply h.1 hsent
  · have hnot : '&' ∉ name ++ ['='] ++ sent := by
      intro hc
      apply (List.mem_append.mp hc).elim hand hsent
    rw [List.splitOn_eq_singleton hnot, ← List.append_cons, List.map_singleton,
      parameter_append hname]
    constructor
    · intro h
      exact ⟨hsent, (Prod.mk.inj (List.singleton_inj.mp h)).2⟩
    · rintro ⟨-, rfl⟩
      rfl

end Parameters

/-! ### Values with their spaces written as `+` -/

/-- A text with each space written as `+`. -/
def writeSpaces (l : List Char) : List Char :=
  l.map (fun c => if c = ' ' then '+' else c)

/-- The characters that are not read as themselves in a value. -/
def isReadDifferently (c : Char) : Bool :=
  "&#+%".toList.contains c

theorem mem_of_isReadDifferently {c : Char} (h : isReadDifferently c = true) :
  c ∈ ['&', '#', '+', '%']
  := List.contains_iff_mem.mp h

section WriteSpaces

variable {l : List Char}

theorem isAllowed_lt {c : Char} (h : isAllowed c = true) :
  c.toNat < 0x80
  := by
  have hlist (t : List Char) (ht : t.all (fun d => d.toNat < 0x80) = true)
      (hc : t.contains c = true) : c.toNat < 0x80 :=
    of_decide_eq_true (List.all_eq_true.mp ht c (List.contains_iff_mem.mp hc))
  rw [isAllowed, Bool.or_eq_true, Bool.or_eq_true] at h
  rcases h with (h | h) | h
  · have hle : c.val ≤ 'z'.val := by
      rcases Bool.or_eq_true_iff.mp h with h | h
      · rcases Bool.or_eq_true_iff.mp h with h | h
        · apply UInt32.le_trans (of_decide_eq_true h).2 (by decide)
        · apply of_decide_eq_true (Bool.and_eq_true_iff.mp h).2
      · apply UInt32.le_trans (of_decide_eq_true (Bool.and_eq_true_iff.mp h).2) (by decide)
    apply Nat.lt_of_le_of_lt (UInt32.le_iff_toNat_le.mp hle) (by decide)
  · apply hlist _ (by decide) h
  · apply hlist _ (by decide) h

theorem mem_writeSpaces {c : Char} (hspace : c ≠ ' ') (hplus : c ≠ '+') :
  c ∈ writeSpaces l ↔ c ∈ l
  := by
  rw [writeSpaces, List.mem_map]
  constructor
  · rintro ⟨d, hd, h⟩
    split at h
    · apply absurd h.symm hplus
    · rw [← h]
      apply hd
  · intro hc
    exact ⟨c, hc, if_neg hspace⟩

/-- A text is of ASCII where what is written of it is well formed. -/
theorem ascii_of_wellFormed (hl : wellFormed isAllowed (writeSpaces l) = true) :
  ∀ c ∈ l, c.toNat < 0x80
  := by
  intro c hc
  by_cases hspace : c = ' '
  · rw [hspace]
    decide
  · have hwritten : c ∈ writeSpaces l := List.mem_map.mpr ⟨c, hc, if_neg hspace⟩
    rcases allowed_of_wellFormed hl hwritten with h | rfl
    · apply isAllowed_lt h
    · decide

theorem ascii_writeSpaces (h : ∀ c ∈ l, c.toNat < 0x80) :
  ∀ c ∈ writeSpaces l, c.toNat < 0x80
  := by
  intro c hc
  obtain ⟨d, hd, rfl⟩ := List.mem_map.mp hc
  split
  · decide
  · apply h d hd

/-- A text with none of the characters that are read differently is read back. -/
theorem decode_writeSpaces (h : ∀ c ∈ l, isReadDifferently c = false) :
  decode (writeSpaces l) = utf8 l
  := by
  have hpercent : '%' ∉ writeSpaces l := by
    intro hc
    have := h _ ((mem_writeSpaces (by decide) (by decide)).mp hc)
    contradiction
  rw [decode_of_not_mem hpercent, writeSpaces, List.map_map, List.map_congr_left (g := id),
    List.map_id]
  intro c hc
  rw [Function.comp_apply, id]
  by_cases hspace : c = ' '
  · rw [if_pos hspace, if_pos rfl, hspace]
  · rw [if_neg hspace, if_neg]
    rintro rfl
    have := h _ hc
    contradiction

/-- A text of ASCII whose octets begin with that of a space begins with a space. -/
theorem exists_cons_of_utf8 {octets : List UInt8} (h : ∀ c ∈ l, c.toNat < 0x80)
    (hl : utf8 l = 0x20 :: octets) :
  ∃ m, l = ' ' :: m
  := by
  rw [utf8_of_ascii h] at hl
  obtain ⟨c, m, rfl, hc, -⟩ := List.map_eq_cons_iff.mp hl
  use m
  rw [ofNat_toNat_inj (d := ' ') (h c List.mem_cons_self) (by decide) hc]

/-- A text of ASCII whose octets end with that of a space ends with a space. -/
theorem exists_concat_of_utf8 {octets : List UInt8} (h : ∀ c ∈ l, c.toNat < 0x80)
    (hl : utf8 l = octets ++ [0x20]) :
  ∃ m, l = m ++ [' ']
  := by
  rw [utf8_of_ascii h] at hl
  obtain ⟨m, n, rfl, -, hn⟩ := List.map_eq_append_iff.mp hl
  obtain ⟨c, rfl, hc⟩ := List.map_eq_singleton_iff.mp hn
  use m
  rw [ofNat_toNat_inj (d := ' ') (h c (by simp)) (by decide) hc]

/-- What is left of a written text before a `#` in it. -/
theorem takeWhile_writeSpaces {m : List Char} (hl : '#' ∉ l) :
  (writeSpaces (l ++ '#' :: m)).takeWhile (· != '#') = writeSpaces l
  := by
  rw [writeSpaces, List.map_append, List.takeWhile_append_of_pos, List.map_cons,
    List.takeWhile_cons_of_neg (by decide), List.append_nil]
  · rfl
  · intro c hc
    rw [bne_iff_ne]
    rintro rfl
    apply hl ((mem_writeSpaces (by decide) (by decide)).mp hc)

theorem takeWhile_writeSpaces_of_not_mem (hl : '#' ∉ l) :
  (writeSpaces l).takeWhile (· != '#') = writeSpaces l
  := by
  rw [List.takeWhile_eq_self_iff]
  intro c hc
  rw [bne_iff_ne]
  rintro rfl
  apply hl ((mem_writeSpaces (by decide) (by decide)).mp hc)

/-- A value that is read back without the spaces around it does not begin with a space. -/
theorem not_space_first {m : List Char} (hascii : ∀ c ∈ l, c.toNat < 0x80)
    (hread : decode ((writeSpaces l).takeWhile (· != '#')) = utf8 (l.trimWhile (· == ' '))) :
  l ≠ ' ' :: m
  := by
  intro hl
  have hcore : ∀ c ∈ l.trimWhile (· == ' '), c.toNat < 0x80 :=
    fun c hc => hascii c (List.mem_of_mem_trimWhile hc)
  have hplus : (writeSpaces l).takeWhile (· != '#') =
      '+' :: (writeSpaces m).takeWhile (· != '#') := by
    rw [hl]
    rfl
  rw [hplus, decode_plus] at hread
  obtain ⟨n, hn⟩ := exists_cons_of_utf8 hcore hread.symm
  apply List.not_of_trimWhile_eq_cons hn rfl

/-- A value that is read back without the spaces around it has no `#`. -/
theorem not_number_sign (hascii : ∀ c ∈ l, c.toNat < 0x80)
    (hread : decode ((writeSpaces l).takeWhile (· != '#')) = utf8 (l.trimWhile (· == ' '))) :
  '#' ∉ l
  := by
  intro hmem
  have hcore : ∀ c ∈ l.trimWhile (· == ' '), c.toNat < 0x80 :=
    fun c hc => hascii c (List.mem_of_mem_trimWhile hc)
  obtain ⟨a, b, hl, ha, hb⟩ := List.exists_append_trimWhile (· == ' ') l
  have hnil : a = [] := by
    cases a with
    | nil => rfl
    | cons c a =>
        have hc := beq_iff_eq.mp (ha c List.mem_cons_self)
        rw [hc, List.append_assoc, List.cons_append] at hl
        cases not_space_first hascii hread hl
  rw [hnil, List.nil_append] at hl
  have hsharp : '#' ∈ l.trimWhile (· == ' ') := by
    rw [hl] at hmem
    rcases List.mem_append.mp hmem with h | h
    · apply h
    · have := hb _ h
      contradiction
  obtain ⟨first, rest, hsplit, hfirst⟩ := List.eq_append_cons_of_mem hsharp
  rw [hsplit, List.append_assoc, List.cons_append] at hl
  have hlength := length_decode_le (ascii_writeSpaces (l := first)
    (fun c hc => hcore c (by rw [hsplit]; apply List.mem_append_left _ hc)))
  rw [hl, takeWhile_writeSpaces hfirst, ← hl] at hread
  rw [hread, length_utf8_of_ascii hcore, hsplit, writeSpaces, List.length_map,
    List.length_append, List.length_cons] at hlength
  omega

/-- A value that is read back whole, with no `&` and no `#`, has no `+` and no `%` either. -/
theorem plain_of_decode (hl : wellFormed isAllowed (writeSpaces l) = true) (hsharp : '#' ∉ l)
    (hand : '&' ∉ writeSpaces l) (hread : decode (writeSpaces l) = utf8 l) :
  ∀ c ∈ l, isReadDifferently c = false
  := by
  have hascii := ascii_of_wellFormed hl
  have hpercent : '%' ∉ writeSpaces l := by
    intro hc
    have hlength := length_decode_lt (ascii_writeSpaces hascii) (by decide) hl hc
    rw [hread, length_utf8_of_ascii hascii, writeSpaces, List.length_map] at hlength
    apply Nat.lt_irrefl _ hlength
  have hplus : '+' ∉ l := by
    intro hc
    rw [decode_of_not_mem hpercent, writeSpaces, List.map_map, utf8_of_ascii hascii,
      utf8_of_ascii, List.map_map] at hread
    · have := List.map_inj_left.mp hread _ hc
      contradiction
    · intro c hc
      obtain ⟨d, hd, rfl⟩ := List.mem_map.mp hc
      rw [Function.comp_apply]
      split
      · decide
      · split
        · decide
        · apply hascii d hd
  intro c hc
  rw [Bool.eq_false_iff]
  intro h
  have hcases := mem_of_isReadDifferently h
  simp only [List.mem_cons, List.not_mem_nil, or_false] at hcases
  rcases hcases with rfl | rfl | rfl | rfl
  · apply hand ((mem_writeSpaces (by decide) (by decide)).mpr hc)
  · apply hsharp hc
  · apply hplus hc
  · apply hpercent ((mem_writeSpaces (by decide) (by decide)).mpr hc)

/-- A value is read back without the spaces around it exactly when it has none, and none of the
characters that are read differently. -/
theorem spacesWritten_read_iff (hl : wellFormed isAllowed (writeSpaces l) = true) :
  ('&' ∉ (writeSpaces l).takeWhile (· != '#') ∧
      decode ((writeSpaces l).takeWhile (· != '#')) = utf8 (l.trimWhile (· == ' '))) ↔
    l.trimWhile (· == ' ') = l ∧ ∀ c ∈ l, isReadDifferently c = false
  := by
  have hascii := ascii_of_wellFormed hl
  constructor
  · rintro ⟨hand, hread⟩
    have hsharp := not_number_sign hascii hread
    have hcore : l.trimWhile (· == ' ') = l := by
      apply List.trimWhile_eq_self
      · intro c m hm hc
        apply not_space_first (m := m) hascii hread
        rw [hm, beq_iff_eq.mp hc]
      · intro m c hm hc
        have hlast : writeSpaces l = writeSpaces m ++ '+' :: [] := by
          rw [hm, beq_iff_eq.mp hc, writeSpaces, List.map_append]
          rfl
        rw [takeWhile_writeSpaces_of_not_mem hsharp, hlast, decode_append_plus] at hread
        obtain ⟨n, hn⟩ := exists_concat_of_utf8
          (fun d hd => hascii d (List.mem_of_mem_trimWhile hd)) hread.symm
        apply List.not_of_trimWhile_eq_concat hn rfl
    rw [takeWhile_writeSpaces_of_not_mem hsharp] at hand hread
    rw [hcore] at hread
    refine ⟨hcore, ?_⟩
    apply plain_of_decode hl hsharp hand hread
  · rintro ⟨hcore, hplain⟩
    have hsharp : '#' ∉ l := by
      intro hc
      have := hplain _ hc
      contradiction
    rw [hcore, takeWhile_writeSpaces_of_not_mem hsharp, decode_writeSpaces hplain]
    refine ⟨?_, rfl⟩
    intro hc
    have := hplain _ ((mem_writeSpaces (by decide) (by decide)).mp hc)
    contradiction

end WriteSpaces

end Uri
