import Reflection.Json.Compact

/-!
# The compact library keeps to the grammar

What `Json.compact` writes and reads is what the grammar says (`Json.compact_lawful`).

* `Json.spells_escape`: the inside of a string is spelled, with the escapes it needs and no others.
* `Json.unescape_of_spells`: whatever spells a string is read as the string, whatever follows.
* `Json.number?_of_numeral`, `Json.number?_of_negative`: the digits of an integer are read whole.
-/

set_option autoImplicit false

namespace Reflection

-- Powers are computed by the power of the numbers, not by the one of monoids.
attribute [local instance (high)] instPowNat

/-- The range that all kinds of integers share. -/
theorem IntKind.Holds.bounds {k : IntKind} {n : Int} (h : k.Holds n) :
    -(2 ^ (63 : Nat)) ≤ n ∧ n ≤ 2 ^ (64 : Nat) - 1 := by
  obtain ⟨hleast, hgreatest⟩ := h
  cases k <;> simp [IntKind.least, IntKind.greatest, IntKind.isSigned, IntKind.bits] at * <;> omega

namespace Json

/-! ## Writing strings -/

theorem hexValue?_hexDigit {n : Nat} (h : n < 16) : hexValue? (hexDigit n) = some n := by
  decide +revert

/-- Two hexadecimal digits write a number of eight bits. -/
theorem hexUnit?_hexDigit {n : Nat} (h : n < 256) :
    hexUnit? '0' '0' (hexDigit (n / 16)) (hexDigit (n % 16)) = some n := by
  have hzero : hexValue? '0' = some 0 := rfl
  have hhigh : hexValue? (hexDigit (n / 16)) = some (n / 16) := hexValue?_hexDigit (by omega)
  have hlow : hexValue? (hexDigit (n % 16)) = some (n % 16) := hexValue?_hexDigit (by omega)
  have hsum : ((0 * 16 + 0) * 16 + n / 16) * 16 + n % 16 = n := by omega
  simp only [hexUnit?, hzero, hhigh, hlow, Option.bind_eq_bind, Option.bind_some, hsum]

/-- One character is written as the grammar says. -/
theorem spells_escapeChar (c : Char) {body s : List Char} (h : Spells MustEscape body s) :
    Spells MustEscape (escapeChar c ++ body) (c :: s) := by
  unfold escapeChar
  split
  -- Seven characters have an escape of their own.
  iterate 7 exact .escape (by decide) (.letter rfl) h
  rename_i hquote hslash _ _ _ _ _
  split
  · rename_i hcontrol
    refine .escape (.inr (.inr hcontrol)) (.unit (hexUnit?_hexDigit (by omega)) ?_) h
    rw [unitChar?, if_neg (by omega), Char.ofNat_toNat]
  · rename_i hplain
    refine .plain ?_ h
    rintro (rfl | rfl | hcontrol)
    · exact hquote rfl
    · exact hslash rfl
    · exact hplain hcontrol

/-- The inside of a string is written with the escapes it needs and no others. -/
theorem spells_escape (s : List Char) : Spells MustEscape (escape s) s := by
  rw [escape]
  induction s with
  | nil => exact .nil
  | cons c s ih =>
    rw [List.flatMap_cons]
    exact spells_escapeChar c ih

/-! ## Reading strings -/

/-- A character that needs no escape is read as itself. -/
theorem unescape_plain {c : Char} (h : ¬MustEscape c) (rest : List Char) :
    unescape (c :: rest) = prepend? (some c) (unescape rest) := by
  obtain ⟨hquote, hslash, hplain⟩ : c ≠ '"' ∧ c ≠ '\\' ∧ ¬c.toNat < 0x20 := by
    simpa only [MustEscape, not_or] using h
  rw [unescape, if_neg hplain]
  · exact hquote
  · exact fun _ _ _ _ _ heq => absurd heq hslash
  · exact fun _ _ heq => absurd heq hslash
  · exact fun heq => absurd heq hslash

/-- An escape is read as its character. -/
theorem unescape_of_escapeOf {c : Char} {text : List Char} (h : EscapeOf c text)
    (rest : List Char) : unescape (text ++ rest) = prepend? (some c) (unescape rest) := by
  cases h with
  | @letter letter hletter =>
    rw [List.cons_append, List.cons_append, List.nil_append, unescape, hletter]
    -- No letter of an escape begins a number.
    rintro _ _ _ _ _ rfl
    cases hletter
  | unit hunit hchar =>
    simp only [List.cons_append, List.nil_append]
    rw [unescape, hunit]
    simp only [hchar]
  | @pair a b c' d e f g h high low hhigh hlow hchar =>
    -- Half of a pair is no character, so that the other half is looked for.
    have hsurrogate : unitChar? high = none := by
      rw [surrogatePair?] at hchar
      split at hchar
      · rename_i hrange
        exact if_pos ⟨hrange.1.1, by omega⟩
      · cases hchar
    simp only [List.cons_append, List.nil_append]
    rw [unescape, hhigh]
    simp only [hsurrogate, hlow, Option.bind_some, hchar]

/-- The inside of a string is read up to the closing quote. -/
theorem unescape_of_spells {escaped : Char → Prop} {body s : List Char}
    (h : Spells escaped body s) (rest : List Char) :
    unescape (body ++ '"' :: rest) = some (s, rest) := by
  -- What is left behind a character never matters, so each step leaves the rest to the next.
  induction h with
  | nil => rfl
  | plain hplain _ ih =>
    rw [List.cons_append, unescape_plain hplain, ih]
    rfl
  | escape _ htext _ ih =>
    rw [List.append_assoc, unescape_of_escapeOf htext, ih]
    rfl

/-! ## Reading integers -/

theorem le_ofDigitChars (digits : List Char) (start : Nat) :
    start ≤ Nat.ofDigitChars 10 digits start := by
  induction digits generalizing start with
  | nil => exact Nat.le_refl start
  | cons c digits ih =>
    rw [Nat.ofDigitChars_cons]
    exact Nat.le_trans (by omega) (ih _)

/-- Digits of an integer that fits are all collected. -/
theorem collect_eq_of_fits {digits : List Char} (hdigits : ∀ c ∈ digits, c.isDigit)
    {significand : Nat} (count : Nat)
    (hfits : Nat.ofDigitChars 10 digits significand ≤ significandLimit) :
    collect significand count digits =
      (Nat.ofDigitChars 10 digits significand, count + digits.length, []) := by
  induction digits generalizing significand count with
  | nil => rfl
  | cons c digits ih =>
    obtain ⟨hc, hrest⟩ := List.forall_mem_cons.1 hdigits
    have hvalue : digitValue? c = some (c.toNat - 48) := if_pos hc
    have hnext : significand * 10 + (c.toNat - 48) = 10 * significand + (c.toNat - '0'.toNat) := by
      rw [Nat.mul_comm]
      rfl
    rw [Nat.ofDigitChars_cons, ← hnext] at hfits ⊢
    rw [collect, hvalue]
    dsimp only
    -- What is collected so far never exceeds the whole, so no digit is refused.
    rw [if_pos (Nat.le_trans (le_ofDigitChars digits _) hfits), ih hrest (count + 1) hfits,
      List.length_cons, Nat.add_assoc, Nat.add_comm 1]

section

variable {digits : List Char} {n : Nat}

/-- The digits of an integer that fits are read as that integer. -/
theorem unsigned?_of_numeral (h : Numeral digits n) (negative : Bool)
    (hfits : n ≤ significandLimit) : unsigned? negative digits = some (integer negative n, []) := by
  have hcollect : collect 0 0 digits = (n, digits.length, []) := by
    rw [collect_eq_of_fits h.isDigit 0 (by rwa [h.value]), h.value, Nat.zero_add]
  have hlead : ¬(digits.head? = some '0' ∧ 1 < digits.length) := by
    rintro ⟨hzero, hlong⟩
    rw [h.lead hzero] at hlong
    exact absurd hlong (by decide)
  rw [unsigned?, hcollect]
  simp [h.nonempty, hlead]

/-- An integer without sign is read as it is written. -/
theorem number?_of_numeral (h : Numeral digits n) (hfits : n ≤ significandLimit) :
    number? digits = some (.natural n, []) := by
  rw [number?, unsigned?_of_numeral h false hfits]
  · rfl
  · rintro other rfl
    exact absurd (h.isDigit '-' List.mem_cons_self) (by decide)

/-- So is a negative integer. -/
theorem number?_of_negative (h : Numeral digits n) (hpos : 0 < n) (hfits : n ≤ 2 ^ (63 : Nat)) :
    number? ('-' :: digits) = some (.negative (-n), []) := by
  have hinteger : integer true n = .negative (-n) := by
    rw [integer, if_neg (by simp), if_neg]
    rintro (rfl | hlarge)
    · exact Nat.lt_irrefl 0 hpos
    · exact Nat.lt_irrefl _ (Nat.lt_of_lt_of_le hlarge hfits)
  rw [number?, unsigned?_of_numeral h true (Nat.le_trans hfits (by decide)), hinteger]

end

/-! ## Reading texts -/

/-- A text that starts with a digit or a minus sign is read as a number. -/
theorem datum?_of_number {c : Char} {rest : List Char} (h : c.isDigit ∨ c = '-') {n : Number}
    {datum : SourceDatum} (hn : number? (c :: rest) = some (n, []))
    (hdatum : numberDatum? n = some datum) : datum? (c :: rest) = some (datum, []) := by
  have hother : ∀ other : Char, ¬(other.isDigit ∨ other = '-') → c ≠ other := by
    rintro other hneither rfl
    exact hneither h
  rw [datum?, hn]
  · simp [hdatum]
  all_goals exact fun _ heq => hother _ (by decide) (List.cons.inj heq).1

theorem isBlank_of_number {c : Char} (h : c.isDigit ∨ c = '-') : isBlank c = false := by
  rw [Bool.eq_false_iff]
  intro hblank
  simp only [isBlank, Bool.or_eq_true, beq_iff_eq] at hblank
  rcases hblank with ((rfl | rfl) | rfl) | rfl <;> exact absurd h (by decide)

/-- A scalar is read whole, and it does not begin with a blank. -/
theorem Denotes.datum? {text : List Char} {datum : SourceDatum} (h : Denotes text datum) :
    ∃ c rest, text = c :: rest ∧ isBlank c = Bool.false ∧
      Json.datum? text = some (datum, []) := by
  cases h with
  | null => exact ⟨_, _, rfl, rfl, rfl⟩
  | true => exact ⟨_, _, rfl, rfl, rfl⟩
  | false => exact ⟨_, _, rfl, rfl, rfl⟩
  | @natural _ n size hkind hsize hvalue =>
    obtain ⟨c, rest, rfl⟩ := List.exists_cons_of_ne_nil hsize.nonempty
    have hdigit : c.isDigit ∨ c = '-' := .inl (hsize.isDigit c List.mem_cons_self)
    have hread : BoundedInt.ofInt? .u64 size = some n := by
      rw [← hvalue, ← hkind]
      exact dif_pos n.holds
    have hfits : size ≤ significandLimit := by
      have hgreatest := n.holds.bounds.2
      rw [significandLimit]
      omega
    refine ⟨c, rest, rfl, isBlank_of_number hdigit,
      datum?_of_number hdigit (number?_of_numeral hsize hfits) ?_⟩
    rw [numberDatum?, hread, Option.map_some]
  | @negative digits n size hkind hsize hpos hvalue =>
    have hread : BoundedInt.ofInt? .i64 (-size) = some n := by
      rw [← hvalue, ← hkind]
      exact dif_pos n.holds
    have hfits : size ≤ 2 ^ (63 : Nat) := by
      have hleast := n.holds.bounds.1
      omega
    refine ⟨'-', digits, rfl, rfl,
      datum?_of_number (.inr rfl) (number?_of_negative hsize hpos hfits) ?_⟩
    rw [numberDatum?, hread, Option.map_some]
  | @string body s h =>
    refine ⟨'"', _, rfl, rfl, ?_⟩
    rw [Json.datum?, unescape_of_spells h, Option.map_some]

namespace Compact

variable {α : Type} (visit : SourceDatum → Except SourceRefusal α)

/-- A text that is a datum and nothing else is answered by the visitor. -/
theorem read_of_denotes {text : String} {datum : SourceDatum} (h : Denotes text.toList datum) :
    read visit text = (visit datum).mapError .refused := by
  obtain ⟨c, rest, htext, hblank, hdatum⟩ := h.datum?
  have hskip : skipBlank text.toList = text.toList := by
    rw [htext, skipBlank, List.dropWhile_cons, hblank]
    rfl
  rw [read, hskip, hdatum]
  dsimp only
  cases visit datum with
  | error cause => rfl
  | ok v => rfl

/-- An object is refused at its opening bracket. -/
theorem read_of_isEntry {text : String} {cause : SourceRefusal} (h : IsEntry text.toList)
    (hvisit : visit .map = .error cause) : read visit text = .error (.refused cause) := by
  generalize hcs : text.toList = cs at h
  obtain @⟨key, value, _, _, -, -⟩ := h
  have hdatum : datum? (skipBlank ('\x7b' :: (key ++ ':' :: (value ++ ['\x7d'])))) =
      some (.map, key ++ ':' :: (value ++ ['\x7d'])) := rfl
  rw [read, hcs, hdatum]
  dsimp only
  rw [hvisit]

end Compact

/-- The compact library does what is relied on. -/
theorem compact_lawful : compact.Lawful where
  write_unit := rfl
  write_bool _ := rfl
  write_int _ := rfl
  write_char _ := rfl
  write_string s := ⟨escape s.toList, spells_escape s.toList, String.toList_ofList⟩
  write_entry _ _ := rfl
  read_scalar visit _ _ h := Compact.read_of_denotes visit h
  read_entry visit _ _ h hvisit := Compact.read_of_isEntry visit h hvisit

end Json

end Reflection
