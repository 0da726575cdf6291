/-
# Readers of tokens

A reader of a token gives what the grammar says, and with it the one rest that the token cannot be
carried beyond: a reader takes all there is.  Each is characterised by an equivalence, of which the
last, `readOperand_eq_read_iff`, says that comparisons are read exactly as far as their literals go.
-/
import Dossier.Proofs.Filter.Grammar
import Mathlib.Data.List.Basic
import Mathlib.Data.List.TakeWhile
import Mathlib.Data.Option.Basic

namespace Dossier

namespace Filter

/-! ## 1. Runs of characters -/

theorem stops_nil (kind : Char → Bool) : Stops kind [] := fun _ h => nomatch h

theorem stops_cons {kind : Char → Bool} {c : Char} {rest : List Char} :
    Stops kind (c :: rest) ↔ kind c = false := by
  simp [Stops]

theorem stops_dropWhile (kind : Char → Bool) (s : List Char) : Stops kind (s.dropWhile kind) := by
  intro c hc
  have := List.head?_dropWhile_not kind s
  rw [Option.mem_def.mp hc] at this
  exact this

/-- A run that stops before the rest is all that is taken. -/
theorem Stops.takeWhile_append {kind : Char → Bool} {run rest : List Char} (h : Stops kind rest)
    (hrun : ∀ c ∈ run, kind c = true) : (run ++ rest).takeWhile kind = run := by
  rw [List.takeWhile_append_of_pos hrun]
  cases rest with
  | nil => simp
  | cons c after =>
    rw [List.takeWhile_cons_of_neg (by rw [stops_cons.mp h]; decide), List.append_nil]

theorem Stops.dropWhile_append {kind : Char → Bool} {run rest : List Char} (h : Stops kind rest)
    (hrun : ∀ c ∈ run, kind c = true) : (run ++ rest).dropWhile kind = rest := by
  rw [List.dropWhile_append_of_pos hrun]
  cases rest with
  | nil => rfl
  | cons c after => rw [List.dropWhile_cons_of_neg (by rw [stops_cons.mp h]; decide)]

/-- A run is settled by the characters that it consists of and where it stops. -/
theorem Stops.append_inj {kind : Char → Bool} {run other rest after : List Char}
    (hrest : Stops kind rest) (hafter : Stops kind after) (hrun : ∀ c ∈ run, kind c = true)
    (hother : ∀ c ∈ other, kind c = true) (h : run ++ rest = other ++ after) :
    run = other ∧ rest = after := by
  have htake := hrest.takeWhile_append hrun
  have hdrop := hrest.dropWhile_append hrun
  rw [h] at htake hdrop
  exact ⟨htake.symm.trans (hafter.takeWhile_append hother),
    hdrop.symm.trans (hafter.dropWhile_append hother)⟩

theorem Stops.imp {kind kind' : Char → Bool} {rest : List Char} (h : Stops kind rest)
    (himp : ∀ c, kind' c = true → kind c = true) : Stops kind' rest := by
  intro c hc
  cases hkind : kind' c with
  | false => rfl
  | true => rw [← h c hc, himp c hkind]

/-! ## 2. Blanks and keywords -/

theorem blanks_skipSpace (s : List Char) : Blanks s (skipSpace s) :=
  ⟨s.takeWhile isSpace, fun _ => List.mem_takeWhile_imp, List.takeWhile_append_dropWhile.symm⟩

theorem skipSpace_of_stops {s : List Char} (h : Stops isSpace s) : skipSpace s = s := by
  have hnone : ∀ c ∈ [], isSpace c = true := fun _ hc => nomatch hc
  exact h.dropWhile_append hnone

theorem stops_skipSpace (s : List Char) : Stops isSpace (skipSpace s) := stops_dropWhile isSpace s

@[simp] theorem skipSpace_skipSpace (s : List Char) : skipSpace (skipSpace s) = skipSpace s :=
  skipSpace_of_stops (stops_skipSpace s)

theorem Blanks.skipSpace_eq {s rest : List Char} (h : Blanks s rest) :
    skipSpace s = skipSpace rest := by
  obtain ⟨blanks, hblanks, rfl⟩ := h
  exact List.dropWhile_append_of_pos hblanks

/-- Blanks before something else are those that are passed. -/
theorem Blanks.skipSpace_eq_rest {s rest : List Char} (h : Blanks s rest)
    (hrest : Stops isSpace rest) : skipSpace s = rest :=
  h.skipSpace_eq.trans (skipSpace_of_stops hrest)

theorem Blanks.length_le {s rest : List Char} (h : Blanks s rest) : rest.length ≤ s.length := by
  obtain ⟨blanks, -, rfl⟩ := h
  rw [List.length_append]
  omega

theorem length_eq_of_equalIgnoringCase {s t : List Char} (h : equalIgnoringCase s t = true) :
    s.length = t.length := by
  have := congrArg List.length (eq_of_beq h)
  rwa [List.length_map, List.length_map] at this

theorem readWord_eq_some_iff {word s rest : List Char} :
    readWord word s = some rest ↔
      ∃ text, equalIgnoringCase word text = true ∧ s = text ++ rest := by
  unfold readWord
  constructor
  · intro h
    split at h
    · rename_i heq
      cases h
      exact ⟨s.take word.length, heq, (List.take_append_drop _ _).symm⟩
    · cases h
  · rintro ⟨text, heq, rfl⟩
    have hlength := length_eq_of_equalIgnoringCase heq
    rw [hlength, List.take_left, List.drop_left, if_pos heq]

theorem readKeyword_eq_some_iff {word s rest : List Char} :
    readKeyword word s = some rest ↔ Keyword word s rest := by
  unfold readKeyword
  constructor
  · intro h
    split at h
    · rename_i c after hword
      split at h
      · rename_i hends
        cases h
        obtain ⟨text, heq, hs⟩ := readWord_eq_some_iff.mp hword
        exact ⟨text, c, after, heq, hends, rfl, hs⟩
      · cases h
    · cases h
  · rintro ⟨text, c, after, heq, hends, rfl, hs⟩
    rw [readWord_eq_some_iff.mpr ⟨text, heq, hs⟩]
    exact if_pos hends

theorem Keyword.length_lt {word s rest : List Char} (h : Keyword word s rest) (hword : word ≠ []) :
    rest.length < s.length := by
  obtain ⟨text, c, after, heq, -, -, rfl⟩ := h
  have hlength := length_eq_of_equalIgnoringCase heq
  have hpos := List.length_pos_of_ne_nil hword
  rw [List.length_append]
  omega

/-! ## 3. Numbers -/

theorem readChar_eq_some_iff {c : Char} {s rest : List Char} :
    readChar c s = some rest ↔ s = c :: rest := by
  unfold readChar
  split
  · rename_i d after
    by_cases h : d = c
    · rw [if_pos h, h, Option.some.injEq, List.cons.injEq, and_iff_right rfl]
    · rw [if_neg h]
      exact iff_of_false (by rintro ⟨⟩) fun e => h (List.cons.inj e).1
  · exact iff_of_false (by rintro ⟨⟩) (by rintro ⟨⟩)

theorem readNumeral_eq_some_iff {s digits rest : List Char} :
    readNumeral s = some (digits, rest) ↔
      Numeral digits ∧ Stops Char.isDigit rest ∧ s = digits ++ rest := by
  unfold readNumeral
  constructor
  · intro h
    split at h
    · cases h
    · rename_i hne
      cases h
      exact ⟨⟨hne, fun _ => List.mem_takeWhile_imp⟩, stops_dropWhile _ _,
        List.takeWhile_append_dropWhile.symm⟩
  · rintro ⟨⟨hne, hdigits⟩, hstops, rfl⟩
    rw [hstops.takeWhile_append hdigits, hstops.dropWhile_append hdigits]
    split
    · exact absurd rfl hne
    · rfl

theorem sign_of_readSign (s : List Char) :
    ∃ sign, Sign (readSign s).1 sign ∧ s = sign ++ (readSign s).2 := by
  unfold readSign
  split
  · exact ⟨_, .minus, rfl⟩
  · exact ⟨_, .plus, rfl⟩
  · exact ⟨_, .none, rfl⟩

theorem Sign.readSign_append {negative : Bool} {sign digits : List Char} (h : Sign negative sign)
    (hdigits : Numeral digits) (rest : List Char) :
    readSign (sign ++ (digits ++ rest)) = (negative, digits ++ rest) := by
  cases h with
  | none =>
    obtain ⟨hne, hall⟩ := hdigits
    obtain ⟨c, cs, rfl⟩ := List.exists_cons_of_ne_nil hne
    have hc := hall c List.mem_cons_self
    unfold readSign
    split
    · rename_i heq
      cases heq
      cases hc
    · rename_i heq
      cases heq
      cases hc
    · rfl
  | plus => rfl
  | minus => rfl

theorem readDecimal_eq_some_iff {s rest : List Char} {value : Literal} :
    readDecimal s = some (value, rest) ↔
      ∃ negative sign whole fraction, Sign negative sign ∧ Numeral whole ∧ Numeral fraction ∧
        Stops Char.isDigit rest ∧ s = sign ++ (whole ++ '.' :: (fraction ++ rest)) ∧
        value = .double (Double.ofDecimal negative (digitsValue (whole ++ fraction))
          (-fraction.length)) := by
  constructor
  · intro h
    obtain ⟨sign, hsign, hs⟩ := sign_of_readSign s
    unfold readDecimal at h
    generalize readSign s = split at h hsign hs
    obtain ⟨negative, s₀⟩ := split
    obtain ⟨⟨whole, s₁⟩, hwhole, h⟩ := Option.bind_eq_some_iff.mp h
    obtain ⟨s₂, hpoint, h⟩ := Option.bind_eq_some_iff.mp h
    obtain ⟨⟨fraction, s₃⟩, hfraction, h⟩ := Option.bind_eq_some_iff.mp h
    cases h
    obtain ⟨hwhole, -, hs₁⟩ := readNumeral_eq_some_iff.mp hwhole
    obtain ⟨hfraction, hstops, hs₃⟩ := readNumeral_eq_some_iff.mp hfraction
    refine ⟨_, sign, whole, fraction, hsign, hwhole, hfraction, hstops, ?_, rfl⟩
    rw [← hs₃, ← readChar_eq_some_iff.mp hpoint, ← hs₁]
    exact hs
  · rintro ⟨negative, sign, whole, fraction, hsign, hwhole, hfraction, hstops, rfl, rfl⟩
    have hpoint : Stops Char.isDigit ('.' :: (fraction ++ rest)) := stops_cons.mpr rfl
    unfold readDecimal
    rw [hsign.readSign_append hwhole]
    refine Option.bind_eq_some_iff.mpr
      ⟨_, readNumeral_eq_some_iff.mpr ⟨hwhole, hpoint, rfl⟩, ?_⟩
    refine Option.bind_eq_some_iff.mpr ⟨_, readChar_eq_some_iff.mpr rfl, ?_⟩
    exact Option.bind_eq_some_iff.mpr
      ⟨_, readNumeral_eq_some_iff.mpr ⟨hfraction, hstops, rfl⟩, rfl⟩

theorem readInteger_eq_some_iff {s rest : List Char} {value : Literal} :
    readInteger s = some (value, rest) ↔
      ∃ negative sign digits, Sign negative sign ∧ Numeral digits ∧
        Int64.minValue.toInt ≤ signed negative digits ∧
        signed negative digits ≤ Int64.maxValue.toInt ∧ Stops Char.isDigit rest ∧
        s = sign ++ (digits ++ rest) ∧ value = .int (Int64.ofInt (signed negative digits)) := by
  constructor
  · intro h
    obtain ⟨sign, hsign, hs⟩ := sign_of_readSign s
    obtain ⟨⟨digits, s₁⟩, hdigits, h⟩ := Option.bind_eq_some_iff.mp h
    replace h : (if Int64.minValue.toInt ≤ signed (readSign s).1 digits ∧
        signed (readSign s).1 digits ≤ Int64.maxValue.toInt
        then some (Literal.int (Int64.ofInt (signed (readSign s).1 digits)), s₁) else none) =
          some (value, rest) := h
    split at h
    · rename_i hrange
      cases h
      obtain ⟨hdigits, hstops, hs₁⟩ := readNumeral_eq_some_iff.mp hdigits
      exact ⟨_, sign, digits, hsign, hdigits, hrange.1, hrange.2, hstops, hs₁ ▸ hs, rfl⟩
    · cases h
  · rintro ⟨negative, sign, digits, hsign, hdigits, hlow, hhigh, hstops, rfl, rfl⟩
    unfold readInteger
    rw [hsign.readSign_append hdigits]
    refine Option.bind_eq_some_iff.mpr
      ⟨_, readNumeral_eq_some_iff.mpr ⟨hdigits, hstops, rfl⟩, ?_⟩
    exact if_pos ⟨hlow, hhigh⟩

/-! ## 4. Strings -/

theorem quoted_cons (c : Char) (content : List Char) :
    quoted (c :: content) = (if c = '\'' then ['\'', '\''] else [c]) ++ quoted content :=
  List.flatMap_cons

theorem readQuoted_eq_some_iff {s content rest : List Char} :
    readQuoted s = some (content, rest) ↔
      s = quoted content ++ '\'' :: rest ∧ Stops (· == '\'') rest := by
  constructor
  · intro h
    fun_induction readQuoted s generalizing content rest with
    | case1 => cases h
    | case2 s ih =>
      obtain ⟨⟨inner, after⟩, hinner, heq⟩ := Option.map_eq_some_iff.mp h
      cases heq
      obtain ⟨rfl, hstops⟩ := ih hinner
      exact ⟨rfl, hstops⟩
    | case3 s hone =>
      cases h
      refine ⟨rfl, fun c hc => beq_false_of_ne ?_⟩
      rintro rfl
      obtain ⟨after, hafter⟩ := List.head?_eq_some_iff.mp hc
      exact hone after hafter
    | case4 c s hdouble hquote ih =>
      obtain ⟨⟨inner, after⟩, hinner, heq⟩ := Option.map_eq_some_iff.mp h
      cases heq
      obtain ⟨rfl, hstops⟩ := ih hinner
      refine ⟨?_, hstops⟩
      rw [quoted_cons, if_neg hquote]
      rfl
  · rintro ⟨rfl, hstops⟩
    induction content with
    | nil =>
      show readQuoted ('\'' :: rest) = _
      cases rest with
      | nil => rfl
      | cons c after =>
        rw [readQuoted]
        rintro _ ⟨⟩
        cases stops_cons.mp hstops
    | cons c content ih =>
      rw [quoted_cons]
      by_cases hc : c = '\''
      · subst hc
        show (readQuoted (quoted content ++ '\'' :: rest)).map _ = _
        rw [ih]
        rfl
      · rw [if_neg hc]
        show readQuoted (c :: (quoted content ++ '\'' :: rest)) = _
        rw [readQuoted, ih]
        · rfl
        · exact fun _ h => absurd h hc
        · exact fun h => absurd h hc

theorem readString_eq_some_iff {s rest : List Char} {value : Literal} :
    readString s = some (value, rest) ↔
      ∃ content, value = .string (String.ofList content) ∧
        s = '\'' :: (quoted content ++ '\'' :: rest) ∧ Stops (· == '\'') rest := by
  constructor
  · intro h
    unfold readString at h
    split at h
    · obtain ⟨⟨content, after⟩, hcontent, heq⟩ := Option.map_eq_some_iff.mp h
      cases heq
      obtain ⟨rfl, hstops⟩ := readQuoted_eq_some_iff.mp hcontent
      exact ⟨content, rfl, rfl, hstops⟩
    · cases h
  · rintro ⟨content, rfl, rfl, hstops⟩
    exact Option.map_eq_some_iff.mpr
      ⟨(content, rest), readQuoted_eq_some_iff.mpr ⟨rfl, hstops⟩, rfl⟩

/-! ## 5. Literals -/

theorem isAlpha_of_toLower {c : Char} (h : c.toLower.isAlpha = true) : c.isAlpha = true := by
  unfold Char.toLower at h
  split at h
  · rename_i hupper
    exact Bool.or_eq_true_iff.mpr (.inl (decide_eq_true hupper))
  · exact h

theorem isDigit_of_isAlpha {c : Char} (h : c.isAlpha = true) : c.isDigit = false := by
  rw [isAlpha_iff] at h
  refine Bool.eq_false_iff.mpr fun hdigit => ?_
  have hcode : 48 ≤ c.toNat ∧ c.toNat ≤ 57 := Char.isDigit_iff_toNat.mp hdigit
  omega

theorem isSpace_eq_false {c : Char} (h : c.isDigit = true ∨ c.isAlpha = true) :
    isSpace c = false := by
  cases hspace : isSpace c with
  | false => rfl
  | true =>
    simp only [isSpace, Bool.or_eq_true, beq_iff_eq] at hspace
    rcases hspace with ((rfl | rfl) | rfl) | rfl <;> rcases h with h | h <;> cases h

/-- A text that differs from a word of letters by case at most consists of letters. -/
theorem isAlpha_of_equalIgnoringCase {word text : List Char}
    (h : equalIgnoringCase word text = true) (hword : word.all (·.toLower.isAlpha) = true) :
    ∀ c ∈ text, c.isAlpha = true := by
  intro c hc
  have hmem : c.toLower ∈ word.map Char.toLower := eq_of_beq h ▸ List.mem_map_of_mem hc
  obtain ⟨w, hw, heq⟩ := List.mem_map.mp hmem
  exact isAlpha_of_toLower (heq ▸ List.all_eq_true.mp hword w hw)

/-- A text that differs from a word by case at most begins with the word's first letter. -/
theorem exists_cons_of_equalIgnoringCase {w : Char} {word text : List Char}
    (h : equalIgnoringCase (w :: word) text = true) :
    ∃ c after, text = c :: after ∧ c.toLower = w.toLower := by
  cases text with
  | nil => cases h
  | cons c after => exact ⟨c, after, rfl, (List.cons.inj (eq_of_beq h)).1.symm⟩

theorem Sign.exists_cons {negative : Bool} {sign digits : List Char} (h : Sign negative sign)
    (hdigits : Numeral digits) (rest : List Char) :
    ∃ c after, sign ++ (digits ++ rest) = c :: after ∧ c.isAlpha = false ∧ c ≠ '\'' ∧
      isSpace c = false := by
  cases h with
  | none =>
    obtain ⟨hne, hall⟩ := hdigits
    obtain ⟨c, cs, rfl⟩ := List.exists_cons_of_ne_nil hne
    have hc := hall c List.mem_cons_self
    refine ⟨c, cs ++ rest, rfl, ?_, ?_, ?_⟩
    · cases halpha : c.isAlpha with
      | false => rfl
      | true => rw [isDigit_of_isAlpha halpha] at hc; cases hc
    · rintro rfl
      cases hc
    · exact isSpace_eq_false (.inl hc)
  | plus => exact ⟨_, _, rfl, rfl, by decide, rfl⟩
  | minus => exact ⟨_, _, rfl, rfl, by decide, rfl⟩

/-- An integer is read as one exactly if it is not the beginning of a decimal. -/
theorem readDecimal_eq_none_iff {negative : Bool} {sign digits rest : List Char}
    (hsign : Sign negative sign) (hdigits : Numeral digits) (hstops : Stops Char.isDigit rest) :
    readDecimal (sign ++ (digits ++ rest)) = none ↔
      ∀ after, rest = '.' :: after → Stops Char.isDigit after := by
  constructor
  · rintro hnone after rfl c hc
    cases hdigit : c.isDigit with
    | false => rfl
    | true =>
      obtain ⟨others, rfl⟩ := List.head?_eq_some_iff.mp hc
      have hfraction : Numeral ((c :: others).takeWhile Char.isDigit) :=
        ⟨by rw [List.takeWhile_cons_of_pos hdigit]; exact List.cons_ne_nil _ _,
          fun _ => List.mem_takeWhile_imp⟩
      have hsome := readDecimal_eq_some_iff.mpr ⟨negative, sign, digits, _, hsign, hdigits,
        hfraction, stops_dropWhile _ (c :: others), rfl, rfl⟩
      rw [List.takeWhile_append_dropWhile, hnone] at hsome
      cases hsome
  · intro h
    cases hread : readDecimal (sign ++ (digits ++ rest)) with
    | none => rfl
    | some found =>
      obtain ⟨negative', sign', whole, fraction, hsign', hwhole, ⟨hne, hfraction⟩, -, heq, -⟩ :=
        readDecimal_eq_some_iff.mp hread
      have hrest := hsign.readSign_append hdigits rest
      rw [heq, hsign'.readSign_append hwhole] at hrest
      have hpoint : Stops Char.isDigit ('.' :: (fraction ++ found.2)) := stops_cons.mpr rfl
      have hnumeral := readNumeral_eq_some_iff.mpr ⟨hwhole, hpoint, rfl⟩
      rw [(Prod.mk.inj hrest).2, readNumeral_eq_some_iff.mpr ⟨hdigits, hstops, rfl⟩] at hnumeral
      obtain ⟨c, cs, rfl⟩ := List.exists_cons_of_ne_nil hne
      have hc := h _ (Prod.mk.inj (Option.some.inj hnumeral)).2
      rw [List.cons_append, stops_cons, hfraction c List.mem_cons_self] at hc
      cases hc

theorem readString_of_sign {negative : Bool} {sign digits : List Char} (hsign : Sign negative sign)
    (hdigits : Numeral digits) (rest : List Char) :
    readString (sign ++ (digits ++ rest)) = none := by
  refine Option.eq_none_iff_forall_ne_some.mpr fun found hread => ?_
  obtain ⟨_, -, heq, -⟩ := readString_eq_some_iff.mp hread
  obtain ⟨c, _, hcons, -, hc, -⟩ := hsign.exists_cons hdigits rest
  exact hc (List.cons.inj (hcons.symm.trans heq)).1

/-- A word stands for a literal. -/
theorem map_readWord_eq_some_iff {word s rest : List Char} {literal value : Literal} :
    (readWord word s).map (literal, ·) = some (value, rest) ↔
      literal = value ∧ ∃ text, equalIgnoringCase word text = true ∧ s = text ++ rest := by
  rw [Option.map_eq_some_iff, ← readWord_eq_some_iff]
  constructor
  · rintro ⟨after, hread, heq⟩
    cases heq
    exact ⟨rfl, hread⟩
  · rintro ⟨rfl, hread⟩
    exact ⟨rest, hread, rfl⟩

/-- A word is not read where another begins that has another first letter. -/
theorem map_readWord_eq_none {v w : Char} {other word text : List Char} {literal : Literal}
    (h : equalIgnoringCase (w :: word) text = true) (hne : w.toLower ≠ v.toLower)
    (rest : List Char) : (readWord (v :: other) (text ++ rest)).map (literal, ·) = none := by
  refine Option.eq_none_iff_forall_ne_some.mpr fun found hread => ?_
  obtain ⟨-, _, hother, hs⟩ := map_readWord_eq_some_iff.mp hread
  obtain ⟨c, after, rfl, hc⟩ := exists_cons_of_equalIgnoringCase h
  obtain ⟨d, others, rfl, hd⟩ := exists_cons_of_equalIgnoringCase hother
  have hfirst : c = d := (List.cons.inj hs).1
  exact hne (hc.symm.trans (hfirst ▸ hd))

/-- No number and no string begins with the letter of a word. -/
theorem readNumber_eq_none {w : Char} {word text : List Char} (hw : w.toLower.isAlpha = true)
    (h : equalIgnoringCase (w :: word) text = true) (rest : List Char) :
    readString (text ++ rest) = none ∧ readDecimal (text ++ rest) = none ∧
      readInteger (text ++ rest) = none := by
  obtain ⟨c, after, rfl, hc⟩ := exists_cons_of_equalIgnoringCase h
  have halpha : c.isAlpha = true := isAlpha_of_toLower (hc ▸ hw)
  have hno {negative : Bool} {sign digits others : List Char} (hsign : Sign negative sign)
      (hdigits : Numeral digits) : c :: (after ++ rest) ≠ sign ++ (digits ++ others) := by
    intro heq
    obtain ⟨_, _, hcons, hfirst, -⟩ := hsign.exists_cons hdigits others
    rw [(List.cons.inj (heq.trans hcons)).1, hfirst] at halpha
    cases halpha
  refine ⟨?_, ?_, ?_⟩
  · refine Option.eq_none_iff_forall_ne_some.mpr fun found hread => ?_
    obtain ⟨_, -, heq, -⟩ := readString_eq_some_iff.mp hread
    rw [(List.cons.inj heq).1] at halpha
    cases halpha
  · refine Option.eq_none_iff_forall_ne_some.mpr fun found hread => ?_
    obtain ⟨_, _, _, _, hsign, hwhole, -, -, heq, -⟩ := readDecimal_eq_some_iff.mp hread
    exact hno hsign hwhole heq
  · refine Option.eq_none_iff_forall_ne_some.mpr fun found hread => ?_
    obtain ⟨_, _, _, hsign, hdigits, -, -, -, heq, -⟩ := readInteger_eq_some_iff.mp hread
    exact hno hsign hdigits heq

theorem readValue_eq_some_iff {s rest : List Char} {value : Literal} :
    readValue s = some (value, rest) ↔
      ∃ text, Writes value text ∧ s = text ++ rest ∧ EndsBefore value rest := by
  unfold readValue
  simp only [Option.orElse_eq_some]
  constructor
  · intro h
    rcases h with h | ⟨-, h | ⟨hdecimal, h | ⟨-, h | ⟨-, h | ⟨-, h⟩⟩⟩⟩⟩
    · obtain ⟨content, rfl, rfl, hstops⟩ := readString_eq_some_iff.mp h
      exact ⟨_, .string content, by simp, hstops⟩
    · obtain ⟨negative, sign, whole, fraction, hsign, hwhole, hfraction, hstops, rfl, rfl⟩ :=
        readDecimal_eq_some_iff.mp h
      exact ⟨_, .decimal hsign hwhole hfraction, by simp, hstops⟩
    · obtain ⟨negative, sign, digits, hsign, hdigits, hlow, hhigh, hstops, rfl, rfl⟩ :=
        readInteger_eq_some_iff.mp h
      exact ⟨_, .integer hsign hdigits hlow hhigh, by simp,
        hstops, (readDecimal_eq_none_iff hsign hdigits hstops).mp hdecimal⟩
    · obtain ⟨rfl, text, heq, rfl⟩ := map_readWord_eq_some_iff.mp h
      exact ⟨text, .trueWord heq, rfl, trivial⟩
    · obtain ⟨rfl, text, heq, rfl⟩ := map_readWord_eq_some_iff.mp h
      exact ⟨text, .falseWord heq, rfl, trivial⟩
    · obtain ⟨rfl, text, heq, rfl⟩ := map_readWord_eq_some_iff.mp h
      exact ⟨text, .nullWord heq, rfl, trivial⟩
  · rintro ⟨text, hwrites, rfl, hends⟩
    cases hwrites with
    | string content => exact .inl (readString_eq_some_iff.mpr ⟨content, rfl, by simp, hends⟩)
    | decimal hsign hwhole hfraction =>
      rw [List.append_assoc, List.append_assoc]
      refine .inr ⟨readString_of_sign hsign hwhole _, .inl ?_⟩
      exact readDecimal_eq_some_iff.mpr
        ⟨_, _, _, _, hsign, hwhole, hfraction, hends, rfl, rfl⟩
    | integer hsign hdigits hlow hhigh =>
      rw [List.append_assoc]
      refine .inr ⟨readString_of_sign hsign hdigits _,
        .inr ⟨(readDecimal_eq_none_iff hsign hdigits hends.1).mpr hends.2, .inl ?_⟩⟩
      exact readInteger_eq_some_iff.mpr
        ⟨_, _, _, hsign, hdigits, hlow, hhigh, hends.1, rfl, rfl⟩
    | trueWord h =>
      obtain ⟨hstring, hdecimal, hinteger⟩ := readNumber_eq_none (by decide) h rest
      refine .inr ⟨hstring, .inr ⟨hdecimal, .inr ⟨hinteger, .inl ?_⟩⟩⟩
      exact map_readWord_eq_some_iff.mpr ⟨rfl, text, h, rfl⟩
    | falseWord h =>
      obtain ⟨hstring, hdecimal, hinteger⟩ := readNumber_eq_none (by decide) h rest
      refine .inr ⟨hstring, .inr ⟨hdecimal, .inr ⟨hinteger,
        .inr ⟨map_readWord_eq_none h (by decide) rest, .inl ?_⟩⟩⟩⟩
      exact map_readWord_eq_some_iff.mpr ⟨rfl, text, h, rfl⟩
    | nullWord h =>
      obtain ⟨hstring, hdecimal, hinteger⟩ := readNumber_eq_none (by decide) h rest
      refine .inr ⟨hstring, .inr ⟨hdecimal, .inr ⟨hinteger,
        .inr ⟨map_readWord_eq_none h (by decide) rest,
          .inr ⟨map_readWord_eq_none h (by decide) rest, ?_⟩⟩⟩⟩⟩
      exact map_readWord_eq_some_iff.mpr ⟨rfl, text, h, rfl⟩

/-! ## 6. Comparisons -/

theorem inPath_eq_false {c : Char} (h : isSpace c = true) : inPath c = false := by
  simp only [isSpace, Bool.or_eq_true, beq_iff_eq] at h
  rcases h with ((rfl | rfl) | rfl) | rfl <;> rfl

/-- What starts a path can go on with it. -/
theorem inPath_of_startsPath {c : Char} (h : startsPath c = true) : inPath c = true := by
  simp only [startsPath, inPath, Char.isAlphanum, Bool.or_eq_true] at h ⊢
  rcases h with (h | h) | h
  · exact .inl (.inl (.inl (.inl h)))
  · exact .inl (.inl (.inr h))
  · exact .inr h

/-- What ends a keyword ends a path. -/
theorem inPath_of_endsKeyword {c : Char} (h : endsKeyword c = true) : inPath c = false := by
  cases hpath : inPath c with
  | false => rfl
  | true =>
    simp only [endsKeyword, Bool.or_eq_true, beq_iff_eq] at h
    rcases h with h | rfl
    · simp only [inPath, Bool.or_eq_true, beq_iff_eq] at hpath
      rcases hpath with ((hpath | rfl) | rfl) | rfl
      · rw [isBlank_of_isAlphanum hpath] at h
        cases h
      all_goals revert h; decide
    · cases hpath

/-- What ends a keyword ends a run of letters. -/
theorem isAlpha_of_endsKeyword {c : Char} (h : endsKeyword c = true) : c.isAlpha = false := by
  cases halpha : c.isAlpha with
  | false => rfl
  | true =>
    have hpath := inPath_of_startsPath (c := c) (by rw [startsPath, halpha]; rfl)
    rw [inPath_of_endsKeyword h] at hpath
    cases hpath

theorem readPath_eq_some_iff {s rest : List Char} {path : String} :
    readPath s = some (path, rest) ↔ Path s path rest ∧ Stops inPath rest := by
  cases s with
  | nil => exact iff_of_false (by rintro ⟨⟩) (by rintro ⟨⟨_, _, _, _, _, ⟨⟩⟩, _⟩)
  | cons c s =>
    rw [readPath]
    constructor
    · intro h
      split at h
      · rename_i hc
        cases h
        exact ⟨⟨c, _, hc, fun _ => List.mem_takeWhile_imp, rfl,
          congrArg (c :: ·) List.takeWhile_append_dropWhile.symm⟩, stops_dropWhile _ _⟩
      · cases h
    · rintro ⟨⟨d, cs, hd, hcs, rfl, heq⟩, hstops⟩
      cases heq
      rw [if_pos hd, hstops.takeWhile_append hcs, hstops.dropWhile_append hcs]

/-- Blanks after a path end it. -/
theorem Blanks.stops_inPath {s rest : List Char} (h : Blanks s rest) (hsome : s ≠ rest) :
    Stops inPath s := by
  obtain ⟨blanks, hblanks, rfl⟩ := h
  cases blanks with
  | nil => exact absurd rfl hsome
  | cons c blanks => exact stops_cons.mpr (inPath_eq_false (hblanks c List.mem_cons_self))

theorem parse_eq_ok_iff {token : String} {op : Operator} :
    Operator.parse token = .ok op ↔ Operator.ofToken? token = some op := by
  unfold Operator.parse
  cases Operator.ofToken? token with
  | none => exact iff_of_false (by rintro ⟨⟩) (by rintro ⟨⟩)
  | some other => rw [Except.ok.injEq, Option.some.injEq]

theorem ofToken?_empty : Operator.ofToken? "" = none := by decide

theorem Token.exists_cons {s rest : List Char} {op : Operator} (h : Token s op rest) :
    ∃ c after, s = c :: after ∧ c.isAlpha = true := by
  obtain ⟨letters, hletters, -, hop, rfl⟩ := h
  cases letters with
  | nil =>
    rw [String.ofList_nil, ofToken?_empty] at hop
    cases hop
  | cons c letters => exact ⟨c, letters ++ rest, rfl, hletters c List.mem_cons_self⟩

theorem Token.stops_isSpace {s rest : List Char} {op : Operator} (h : Token s op rest) :
    Stops isSpace s := by
  obtain ⟨c, after, rfl, hc⟩ := h.exists_cons
  exact stops_cons.mpr (isSpace_eq_false (.inr hc))

theorem Writes.stops_isSpace {value : Literal} {text : List Char} (h : Writes value text)
    (rest : List Char) : Stops isSpace (text ++ rest) := by
  have hword {w : Char} {word : List Char} (hw : w.toLower.isAlpha = true)
      (heq : equalIgnoringCase (w :: word) text = true) : Stops isSpace (text ++ rest) := by
    obtain ⟨c, after, rfl, hc⟩ := exists_cons_of_equalIgnoringCase heq
    exact stops_cons.mpr (isSpace_eq_false (.inr (isAlpha_of_toLower (hc ▸ hw))))
  cases h with
  | string content => exact stops_cons.mpr rfl
  | decimal hsign hwhole _ =>
    rw [List.append_assoc, List.append_assoc]
    obtain ⟨c, after, heq, -, -, hc⟩ := hsign.exists_cons hwhole _
    exact heq ▸ stops_cons.mpr hc
  | integer hsign hdigits _ _ =>
    rw [List.append_assoc]
    obtain ⟨c, after, heq, -, -, hc⟩ := hsign.exists_cons hdigits _
    exact heq ▸ stops_cons.mpr hc
  | trueWord heq => exact hword (by decide) heq
  | falseWord heq => exact hword (by decide) heq
  | nullWord heq => exact hword (by decide) heq

/-- After a path, blanks and an operator, what is left to read is the literal. -/
theorem readOperand_of_token {s s₁ s₂ s₃ : List Char} {path : String} {op : Operator}
    (hpath : Path s path s₁) (hblanks : Blanks s₁ s₂) (hsome : s₁ ≠ s₂) (htoken : Token s₂ op s₃) :
    readOperand s =
      if op = .pr then .read (.present path) s₃
      else
        match readValue (skipSpace s₃) with
        | none => .stopped (skipSpace s₃) none
        | some (value, rest) => .read (.operand path op value) rest := by
  have hread := readPath_eq_some_iff.mpr ⟨hpath, hblanks.stops_inPath hsome⟩
  have hskip := hblanks.skipSpace_eq_rest htoken.stops_isSpace
  obtain ⟨letters, hletters, hstops, hop, rfl⟩ := htoken
  unfold readOperand
  rw [hread]
  dsimp only
  rw [hskip, if_neg (Ne.symm hsome), hstops.takeWhile_append hletters,
    hstops.dropWhile_append hletters]
  cases letters with
  | nil =>
    rw [String.ofList_nil, ofToken?_empty] at hop
    cases hop
  | cons c letters =>
    dsimp only
    rw [parse_eq_ok_iff.mpr hop]
    by_cases hpr : op = .pr
    · rw [if_pos hpr, hpr]
    · rw [if_neg hpr]
      cases op <;> first | rfl | exact absurd rfl hpr

theorem readOperand_eq_read_iff {s rest : List Char} {c : Condition} :
    readOperand s = .read c rest ↔ Comparison EndsBefore s c rest := by
  constructor
  · intro h
    unfold readOperand at h
    split at h
    · cases h
    · rename_i path s₁ hpath
      obtain ⟨hpath, -⟩ := readPath_eq_some_iff.mp hpath
      dsimp only at h
      split at h
      · cases h
      · rename_i hsome
        split at h
        · cases h
        · have hblanks := blanks_skipSpace s₁
          have htoken {op : Operator} (hop : Operator.parse (String.ofList
              ((skipSpace s₁).takeWhile Char.isAlpha)) = .ok op) :
              Token (skipSpace s₁) op ((skipSpace s₁).dropWhile Char.isAlpha) :=
            ⟨_, fun _ => List.mem_takeWhile_imp, stops_dropWhile _ _, parse_eq_ok_iff.mp hop,
              List.takeWhile_append_dropWhile.symm⟩
          split at h
          · cases h
          · rename_i hop
            cases h
            exact .present hpath hblanks (Ne.symm hsome) (htoken hop)
          · rename_i op hpr hop
            split at h
            · cases h
            · rename_i value after hvalue
              cases h
              obtain ⟨text, hwrites, heq, hends⟩ := readValue_eq_some_iff.mp hvalue
              exact .operand hpath hblanks (Ne.symm hsome) (htoken hop) hpr
                (heq ▸ blanks_skipSpace _) hwrites hends
  · intro h
    cases h with
    | present hpath hblanks hsome htoken =>
      rw [readOperand_of_token hpath hblanks hsome htoken, if_pos rfl]
    | operand hpath hblanks hsome htoken hop hvalueBlanks hvalue hends =>
      rw [readOperand_of_token hpath hblanks hsome htoken, if_neg hop,
        hvalueBlanks.skipSpace_eq_rest (hvalue.stops_isSpace rest),
        readValue_eq_some_iff.mpr ⟨_, hvalue, rfl, hends⟩]

end Filter

end Dossier
