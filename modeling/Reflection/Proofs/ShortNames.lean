import Mathlib.Data.String.Basic
import Mathlib.Data.List.Chain
import Reflection.Text.ShortName

/-!
# The laws of short names

The shortened text is cut out of the path by one walk from left to right. `ShortName.walk?` does the
walk over byte offsets, as a text in memory is cut, and fails on a cut inside a character;
`ShortName.walk?_eq` says that it never fails and gives the shortened text.

The text itself obeys two laws from which the others follow: without a double colon nothing is left
out (`abbreviate_of_unqualified`), and a character outside words ends a segment for good
(`abbreviate_append_cons`). The bare identifier is searched from the ends of the path and still
agrees with the shortened text (`identOf_eq`).

Main statement: `ShortName.abbreviates`.
-/

set_option autoImplicit false

namespace Reflection

namespace ShortName

/-! ## Byte offsets -/

/-- The text between two byte offsets. There is none if an offset lies inside a character or past
the end, or if the second comes before the first. -/
def slice? (text : String) (start stop : Nat) : Option String :=
  if start ≤ stop ∧ String.Pos.Raw.IsValid text ⟨start⟩ ∧ String.Pos.Raw.IsValid text ⟨stop⟩ then
    some (String.Pos.Raw.extract text ⟨start⟩ ⟨stop⟩)
  else none

/-- The walk over a path, from the byte `index` on, where the characters that are left stand. The
segment in progress begins at the byte `start`. A double colon moves the start behind it, and at a
character outside words the segment is cut out and written. -/
def walk? (full : String) (start index : Nat) : List Char → Option String
  | [] => slice? full start full.utf8ByteSize
  | ':' :: ':' :: rest => walk? full (index + 2) (index + 2) rest
  | c :: rest =>
    if c == ':' || isWordChar c then walk? full start (index + c.utf8Size) rest
    else do
      let segment ← slice? full start index
      let tail ← walk? full (index + c.utf8Size) (index + c.utf8Size) rest
      some (segment ++ c.toString ++ tail)

/-- A cut between characters gives the characters between. -/
theorem slice?_eq (before segment after : List Char) :
    slice? (String.ofList (before ++ segment ++ after)) (String.utf8Len before)
      (String.utf8Len (before ++ segment)) = some (String.ofList segment) := by
  have hstart : String.Pos.Raw.IsValid (String.ofList (before ++ segment ++ after))
      ⟨String.utf8Len before⟩ := by
    rw [String.Pos.Raw.isValid_iff_exists_append]
    refine ⟨String.ofList before, String.ofList (segment ++ after), ?_, ?_⟩
    · rw [← String.ofList_append, List.append_assoc]
    · rw [String.rawEndPos_ofList]
  have hstop : String.Pos.Raw.IsValid (String.ofList (before ++ segment ++ after))
      ⟨String.utf8Len (before ++ segment)⟩ := by
    rw [String.Pos.Raw.isValid_iff_exists_append]
    refine ⟨String.ofList (before ++ segment), String.ofList after, ?_, ?_⟩
    · rw [← String.ofList_append]
    · rw [String.rawEndPos_ofList]
  have hle : String.utf8Len before ≤ String.utf8Len (before ++ segment) := by
    rw [String.utf8Len_append]
    exact Nat.le_add_right _ _
  rw [slice?, if_pos ⟨hle, hstart, hstop⟩, String.utf8Len_append, String.extract_of_valid]

/-- The walk never cuts inside a character, and gives the shortened text. -/
theorem walk?_eq {full : String} {start index : Nat} (before segment rest : List Char)
    (hfull : full = String.ofList (before ++ segment ++ rest))
    (hstart : start = String.utf8Len before) (hindex : index = String.utf8Len (before ++ segment)) :
    walk? full start index rest = some (String.ofList (abbreviate segment rest)) := by
  -- `before` are the characters up to the start of the segment in progress.
  induction segment, rest using abbreviate.induct generalizing before start index with
  | case1 segment =>
    have hcut := slice?_eq before segment []
    rw [List.append_nil] at hcut hfull
    rw [walk?, abbreviate, hfull, hstart, String.utf8ByteSize_ofList, hcut]
  | case2 segment rest ih =>
    rw [walk?, abbreviate]
    -- The double colon and all before it lie behind the new start.
    apply ih (before ++ segment ++ [':', ':'])
    · simpa using hfull
    · rw [hindex, String.utf8Len_append _ [':', ':']]
      rfl
    · rw [hindex, List.append_nil, String.utf8Len_append _ [':', ':']]
      rfl
  | case3 segment c rest hne hword ih =>
    rw [walk?, abbreviate, if_pos hword, if_pos hword]
    · apply ih before
      · simpa using hfull
      · exact hstart
      · rw [hindex, ← List.append_assoc, String.utf8Len_append _ [c]]
        simp
    · exact hne
    · exact hne
  | case4 segment c rest hne hword ih =>
    have hcut := slice?_eq before segment (c :: rest)
    rw [← hfull, ← hstart, ← hindex] at hcut
    have htail : walk? full (index + c.utf8Size) (index + c.utf8Size) rest =
        some (String.ofList (abbreviate [] rest)) := by
      apply ih (before ++ segment ++ [c])
      · simpa using hfull
      · rw [hindex, String.utf8Len_append _ [c]]
        simp
      · rw [hindex, List.append_nil, String.utf8Len_append _ [c]]
        simp
    rw [walk?, abbreviate, if_neg hword, if_neg hword, hcut, htail]
    · apply congrArg some
      rw [← String.toList_inj]
      simp
    · exact hne
    · exact hne

/-! ## Shortening -/

/-- No two colons stand next to each other. -/
def Unqualified (text : List Char) : Prop :=
  ¬[':', ':'] <:+: text

theorem unqualified_iff_isChain {text : List Char} :
    Unqualified text ↔ text.IsChain fun a b => a = ':' → b ≠ ':' := by
  rw [List.isChain_iff_forall_rel_of_append_cons_cons]
  constructor
  · intro h a b before after htext ha hb
    apply h
    refine ⟨before, after, ?_⟩
    rw [htext, ha, hb, List.append_assoc]
    rfl
  · rintro h ⟨before, after, htext⟩
    rw [List.append_assoc] at htext
    exact h htext.symm rfl rfl

/-- A character inside words, or a colon that is not doubled, is kept. -/
theorem abbreviate_of_inside {segment rest : List Char} {c : Char}
    (hinside : (c == ':' || isWordChar c) = true)
    (hne : ∀ tail, c = ':' → rest = ':' :: tail → False) :
    abbreviate segment (c :: rest) = abbreviate (segment ++ [c]) rest := by
  rw [abbreviate, if_pos hinside]
  exact hne

/-- Any other character ends the segment. -/
theorem abbreviate_of_outside {segment rest : List Char} {c : Char}
    (houtside : ¬(c == ':' || isWordChar c) = true) :
    abbreviate segment (c :: rest) = segment ++ c :: abbreviate [] rest := by
  rw [abbreviate, if_neg houtside]
  rintro tail rfl
  exact absurd rfl houtside

/-- What is left over has no double colon: a segment never ends with a colon that the next
character would double, and the character that ends a segment is no colon. -/
theorem unqualified_abbreviate {segment rest : List Char} (hsegment : Unqualified segment)
    (hborder : segment.getLast? = some ':' → rest.head? ≠ some ':') :
    Unqualified (abbreviate segment rest) := by
  induction segment, rest using abbreviate.induct with
  | case1 segment => exact hsegment
  | case2 segment rest ih =>
    apply ih
    · simp [Unqualified]
    · simp
  | case3 segment c rest hne hinside ih =>
    rw [abbreviate_of_inside hinside hne]
    apply ih
    · rw [unqualified_iff_isChain] at hsegment ⊢
      rw [List.isChain_append]
      refine ⟨hsegment, List.isChain_singleton c, ?_⟩
      intro a ha b hb hcolon heq
      obtain rfl : c = b := Option.some.inj hb
      rw [hcolon] at ha
      exact hborder ha (congrArg some heq)
    · intro hlast hhead
      rw [List.getLast?_concat, Option.some.injEq] at hlast
      cases rest with
      | nil => cases hhead
      | cons d rest => exact hne rest hlast (by rw [Option.some.inj hhead])
  | case4 segment c rest hne houtside ih =>
    have hcolon : c ≠ ':' := by
      rintro rfl
      exact houtside rfl
    have htail : Unqualified (abbreviate [] rest) := by
      apply ih
      · simp [Unqualified]
      · simp
    rw [abbreviate_of_outside houtside]
    rw [unqualified_iff_isChain] at hsegment htail ⊢
    rw [List.isChain_append, List.isChain_cons]
    refine ⟨hsegment, ⟨fun _ _ h => absurd h hcolon, htail⟩, ?_⟩
    intro a _ b hb _ heq
    obtain rfl : c = b := Option.some.inj hb
    exact hcolon heq

/-- Without a double colon nothing is left out. -/
theorem abbreviate_of_unqualified {segment rest : List Char} (h : Unqualified rest) :
    abbreviate segment rest = segment ++ rest := by
  induction segment, rest using abbreviate.induct with
  | case1 segment => exact (List.append_nil segment).symm
  | case2 segment rest ih => exact absurd ⟨[], rest, rfl⟩ h
  | case3 segment c rest hne hinside ih =>
    have hrest : Unqualified rest := fun hinfix => h (List.infix_cons hinfix)
    rw [abbreviate_of_inside hinside hne, ih hrest, List.append_assoc]
    rfl
  | case4 segment c rest hne houtside ih =>
    have hrest : Unqualified rest := fun hinfix => h (List.infix_cons hinfix)
    rw [abbreviate_of_outside houtside, ih hrest]
    rfl

/-- A character outside words ends a segment for good: what comes before it and what comes after it
are shortened apart. -/
theorem abbreviate_append_cons {segment before after : List Char} {c : Char}
    (hc : isWordChar c = false) (hcolon : c ≠ ':') :
    abbreviate segment (before ++ c :: after) =
      abbreviate segment before ++ c :: abbreviate [] after := by
  induction segment, before using abbreviate.induct with
  | case1 segment => exact abbreviate_of_outside (by simp [hc, hcolon])
  | case2 segment rest ih => exact ih
  | case3 segment d rest hne hinside ih =>
    rw [abbreviate_of_inside hinside hne, ← ih, List.cons_append, abbreviate_of_inside hinside]
    -- The double colon would stand in `rest`, as `c` is no colon.
    intro tail hd hrest
    cases rest with
    | nil => exact hcolon (List.cons.inj hrest).1
    | cons e rest => exact hne rest hd (by rw [(List.cons.inj hrest).1])
  | case4 segment d rest hne houtside ih =>
    rw [abbreviate_of_outside houtside, List.cons_append, abbreviate_of_outside houtside, ih,
      List.append_assoc]
    rfl

/-! ## Paths -/

/-- Every character is a letter, a digit or an underscore. -/
def IsWord (text : List Char) : Prop :=
  ∀ c ∈ text, isWordChar c = true

/-- Words joined by double colons, the last one behind its qualifiers. -/
def joinPath (qualifiers : List (List Char)) (last : List Char) : List Char :=
  (qualifiers.flatMap fun q => q ++ [':', ':']) ++ last

theorem joinPath_cons (q : List Char) (qualifiers : List (List Char)) (last : List Char) :
    joinPath (q :: qualifiers) last = q ++ ':' :: ':' :: joinPath qualifiers last := by
  simp [joinPath]

theorem not_isWordChar_colon : isWordChar ':' = false := by
  decide +kernel

theorem not_isWordChar_angle : isWordChar '<' = false := by
  decide +kernel

theorem IsWord.ne {word : List Char} {c d : Char} (hword : IsWord word) (hc : c ∈ word)
    (hd : isWordChar d = false) : c ≠ d := by
  rintro rfl
  rw [hword c hc] at hd
  cases hd

/-- A word goes into the segment in progress as it is. -/
theorem abbreviate_word {segment word rest : List Char} (hword : IsWord word) :
    abbreviate segment (word ++ rest) = abbreviate (segment ++ word) rest := by
  induction word generalizing segment with
  | nil => rw [List.nil_append, List.append_nil]
  | cons c word ih =>
    obtain ⟨hc, hrest⟩ := List.forall_mem_cons.1 hword
    rw [List.cons_append, abbreviate_of_inside (by simp [hc]), ih hrest, List.append_assoc]
    · rfl
    · intro tail hcolon _
      exact hword.ne List.mem_cons_self not_isWordChar_colon hcolon

/-- Of a path the last word is left. -/
theorem abbreviate_joinPath {qualifiers : List (List Char)} {last : List Char}
    (hqualifiers : ∀ q ∈ qualifiers, IsWord q) (hlast : IsWord last) :
    abbreviate [] (joinPath qualifiers last) = last := by
  induction qualifiers with
  | nil =>
    have h : abbreviate [] (last ++ []) = abbreviate last [] := abbreviate_word hlast
    rw [List.append_nil] at h
    exact h
  | cons q qualifiers ih =>
    obtain ⟨hq, hrest⟩ := List.forall_mem_cons.1 hqualifiers
    rw [joinPath_cons, abbreviate_word hq]
    exact ih hrest

/-! ## The identifier -/

/-- What follows the last double colon of the rest follows it in the whole text too. -/
theorem afterLastSeparator_append {before rest tail : List Char}
    (h : afterLastSeparator rest = some tail) :
    afterLastSeparator (before ++ rest) = some tail := by
  induction before with
  | nil => exact h
  | cons c before ih => simp only [List.cons_append, afterLastSeparator, ih]

theorem afterLastSeparator_cons_eq_none {c : Char} {rest : List Char}
    (hrest : afterLastSeparator rest = none)
    (hne : ∀ tail, c = ':' → rest = ':' :: tail → False) :
    afterLastSeparator (c :: rest) = none := by
  rw [afterLastSeparator, hrest]
  exact hne

theorem afterLastSeparator_word {word : List Char} (hword : IsWord word) :
    afterLastSeparator word = none := by
  induction word with
  | nil => rfl
  | cons c word ih =>
    apply afterLastSeparator_cons_eq_none
    · exact ih (List.forall_mem_cons.1 hword).2
    · intro tail hcolon _
      exact hword.ne List.mem_cons_self not_isWordChar_colon hcolon

/-- Behind the last double colon of a path stands its last word. -/
theorem afterLastSeparator_joinPath {qualifiers : List (List Char)} {last : List Char}
    (hne : qualifiers ≠ []) (hlast : IsWord last) :
    afterLastSeparator (joinPath qualifiers last) = some last := by
  induction qualifiers with
  | nil => exact absurd rfl hne
  | cons q qualifiers ih =>
    rw [joinPath_cons]
    apply afterLastSeparator_append
    by_cases hend : qualifiers = []
    · subst hend
      -- The second colon starts no separator of its own, as a word has no colon.
      have hcolon : afterLastSeparator (':' :: last) = none := by
        apply afterLastSeparator_cons_eq_none (afterLastSeparator_word hlast)
        rintro tail - rfl
        exact hlast.ne List.mem_cons_self not_isWordChar_colon rfl
      show afterLastSeparator (':' :: ':' :: last) = some last
      rw [afterLastSeparator, hcolon]
    · have hrest : afterLastSeparator ([':', ':'] ++ joinPath qualifiers last) = some last :=
        afterLastSeparator_append (ih hend)
      exact hrest

/-- The part of a text before the first angle bracket, if that part is a path, has the same
identifier as the shortened text: the last word. -/
theorem identOf_eq {text : List Char} {qualifiers : List (List Char)} {last : List Char}
    (hhead : text.takeWhile (· != '<') = joinPath qualifiers last)
    (hqualifiers : ∀ q ∈ qualifiers, IsWord q) (hlast : IsWord last) :
    identOf text = last ∧ (abbreviate [] text).takeWhile (· != '<') = last := by
  have hplain : ∀ c ∈ last, (c != '<') = true := fun c hc =>
    bne_iff_ne.2 (hlast.ne hc not_isWordChar_angle)
  have hshort : abbreviate [] (joinPath qualifiers last) = last :=
    abbreviate_joinPath hqualifiers hlast
  constructor
  · rw [identOf, hhead]
    by_cases hne : qualifiers = []
    · subst hne
      show (afterLastSeparator last).getD last = last
      rw [afterLastSeparator_word hlast, Option.getD_none]
    · rw [afterLastSeparator_joinPath hne hlast, Option.getD_some]
  · have hsplit := List.takeWhile_append_dropWhile (p := (· != '<')) (l := text)
    rw [hhead] at hsplit
    cases hafter : text.dropWhile (· != '<') with
    | nil =>
      rw [hafter, List.append_nil] at hsplit
      have hall : (last ++ []).takeWhile (· != '<') = last ++ [].takeWhile (· != '<') :=
        List.takeWhile_append_of_pos hplain
      rw [List.takeWhile_nil, List.append_nil] at hall
      rw [← hsplit, hshort, hall]
    | cons c rest =>
      have hc : c = '<' := by
        have hstop := List.head?_dropWhile_not (· != '<') text
        rw [hafter] at hstop
        simpa using hstop
      rw [← hsplit, hafter, hc, abbreviate_append_cons not_isWordChar_angle (by decide), hshort,
        List.takeWhile_append_of_pos hplain]
      simp

/-! ## The laws -/

/-- What the shortened text of a path is. -/
structure Abbreviates (name : ShortName) : Prop where
  /-- The walk over the bytes cuts between characters only, and gives the shortened text. -/
  cut : walk? name.full 0 0 name.full.toList = some name.display
  /-- No double colon is left, -/
  unqualified : Unqualified name.display.toList
  /-- so that shortening again changes nothing, -/
  again : (mk name.display).display = name.display
  /-- as it does for a text that had none. -/
  plain : Unqualified name.full.toList → name.display = name.full
  /-- The parts before and after a character that is neither in words nor a colon are shortened
  apart. -/
  split : ∀ (before after : String) (c : Char), name.full = before ++ c.toString ++ after →
    isWordChar c = false → c ≠ ':' →
      name.display = (mk before).display ++ c.toString ++ (mk after).display
  /-- Of words joined by double colons the last one is left. -/
  path : ∀ (qualifiers : List (List Char)) (last : List Char), (∀ q ∈ qualifiers, IsWord q) →
    IsWord last → name.full.toList = joinPath qualifiers last → name.display.toList = last
  /-- If the part before the first angle bracket is such a path, the identifier is the shortened
  text up to its first angle bracket. -/
  identified : ∀ (qualifiers : List (List Char)) (last : List Char), (∀ q ∈ qualifiers, IsWord q) →
    IsWord last → name.full.toList.takeWhile (· != '<') = joinPath qualifiers last →
      name.ident = String.ofList (name.display.toList.takeWhile (· != '<'))

/-- Every path is shortened by these laws. -/
theorem abbreviates (name : ShortName) : name.Abbreviates := by
  have hfree : Unqualified name.display.toList := by
    rw [display, String.toList_ofList]
    apply unqualified_abbreviate
    · simp [Unqualified]
    · simp
  refine ⟨?_, hfree, ?_, ?_, ?_, ?_, ?_⟩
  · apply walk?_eq [] []
    · simp
    · rfl
    · rfl
  · rw [display, abbreviate_of_unqualified hfree, List.nil_append, String.ofList_toList]
  · intro hplain
    rw [display, abbreviate_of_unqualified hplain, List.nil_append, String.ofList_toList]
  · intro before after c hfull hc hcolon
    have htext : name.full.toList = before.toList ++ c :: after.toList := by
      rw [hfull]
      simp
    rw [display, htext, abbreviate_append_cons hc hcolon, ← String.toList_inj]
    simp [display]
  · intro qualifiers last hqualifiers hlast hfull
    rw [display, hfull, String.toList_ofList, abbreviate_joinPath hqualifiers hlast]
  · intro qualifiers last hqualifiers hlast hhead
    obtain ⟨hident, hdisplay⟩ := identOf_eq hhead hqualifiers hlast
    rw [ident, display, String.toList_ofList, hident, hdisplay]

-- A third colon belongs to the segment behind it, and an arrow ends a segment like a bracket.
example : (ShortName.mk "a:::b→c::d").display = ":b→d" := by
  decide +kernel

end ShortName

end Reflection
