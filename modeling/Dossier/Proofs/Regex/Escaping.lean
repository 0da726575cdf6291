/-
# Texts that are looked for

The operators that look for a text, anywhere, at the start or at the end, make a pattern of it, in
which the characters with a meaning of their own are escaped.  Here the pattern is read back: its
expression is the text, with an assertion before or after it (`parse?_pattern`), whatever the text
consists of.  So a value has a match exactly if the text stands in it (`isMatch_regex`).

The one thing that can go wrong is the room that the expression takes, for each octet of the text
takes a state of an automaton (`fits_regex_iff`).
-/
import Dossier.Proofs.Regex.Places
import Dossier.Query.Compile
import Dossier.Regex.Reader
import Mathlib.Data.List.Basic

namespace Dossier

namespace Operator

/-- The operators that look for a text. -/
def textual : List Operator := [.co, .sw, .ew]

/-- Where a text is to stand in a value. -/
def Finds : Operator → List Char → List Char → Prop
  | .co, text, value => text <:+: value
  | .sw, text, value => text <+: value
  | .ew, text, value => text <:+ value
  | _, _, _ => False

/-- How many octets a text may have for its pattern to be read. -/
def textLimit : Operator → Nat
  | .co => 327673
  | .sw => 327674
  | .ew => 327672
  | _ => 0

end Operator

namespace Regex

/-! ## 1. Reading characters -/

theorem readEscape_of_isMeta (o : Options) {c : Char} (h : isMeta c = true) (s : List Char) :
    readEscape o (c :: s) = some (.char c false, s) := by
  rw [isMeta, List.contains_iff_mem] at h
  simp only [List.mem_cons, List.not_mem_nil, or_false] at h
  rcases h with rfl | rfl | rfl | rfl | rfl | rfl | rfl | rfl | rfl | rfl | rfl | rfl | rfl | rfl |
    rfl | rfl | rfl | rfl <;> rfl

variable {p : Progress}

theorem charRegex_of_not_caseless {o : Options} (h : o.caseless = false) (c : Char) :
    charRegex o c false = some (literal [c]) := by
  simp [charRegex, h]

theorem readPart_escaped (hp : p.options.caseless = false) {c : Char} (h : isMeta c = true)
    (s : List Char) : readPart p ('\\' :: c :: s) = some (p.push (some (literal [c])) 0, s) := by
  simp [readPart, readEscape_of_isMeta _ h, charRegex_of_not_caseless hp]

theorem readPart_plain (hp : p.options.caseless = false) {c : Char} (h : isMeta c = false)
    (s : List Char) : readPart p (c :: s) = some (p.push (some (literal [c])) 0, s) := by
  unfold readPart
  dsimp only
  split
  all_goals try exact absurd h (by decide)
  rw [charRegex_of_not_caseless hp]
  rfl

/-! ## 2. Reading texts -/

/-- The parts that a text is read as, the newest first. -/
def textParts (text : List Char) : List Part := (text.map fun c => ⟨some (literal [c]), 0⟩).reverse

/-- What has been read after a text, one part for each character. -/
def pushText (p : Progress) (text : List Char) : Progress :=
  { p with level := { p.level with parts := textParts text ++ p.level.parts } }

theorem pushText_cons (p : Progress) (c : Char) (text : List Char) :
    pushText (p.push (some (literal [c])) 0) text = pushText p (c :: text) := by
  simp [pushText, textParts, Progress.push, Level.push]

/-- The next part of a pattern is read, and then those after it. -/
theorem readParts_succ (hp : p.options.extended = false) {p' : Progress} {c : Char}
    {s rest : List Char} (h : readPart p (c :: s) = some (p', rest)) (fuel : Nat) :
    readParts (fuel + 1) p (c :: s) = readParts fuel p' rest := by
  rw [readParts, Options.skip_of_not_extended hp]
  dsimp only
  rw [h]
  rfl

/-- **A text is read from its pattern.** -/
theorem readParts_escape (hcase : p.options.caseless = false)
    (hextended : p.options.extended = false) (text rest : List Char) (fuel : Nat) :
    readParts (fuel + text.length) p (escape text ++ rest) =
      readParts fuel (pushText p text) rest := by
  induction text generalizing p with
  | nil => rfl
  | cons c text ih =>
    have hrest := ih (p := p.push (some (literal [c])) 0) hcase hextended
    rw [← pushText_cons, ← hrest, escape, List.length_cons, ← Nat.add_assoc]
    cases hmeta : isMeta c with
    | true =>
      rw [if_pos rfl]
      exact readParts_succ hextended (readPart_escaped hcase hmeta _) _
    | false =>
      rw [if_neg Bool.false_ne_true]
      exact readParts_succ hextended (readPart_plain hcase hmeta _) _

theorem length_escape (text : List Char) : text.length ≤ (escape text).length := by
  induction text with
  | nil => exact Nat.le_refl _
  | cons c text ih =>
    rw [escape]
    split <;> simp only [List.length_cons] <;> omega

theorem readParts_nil (hextended : p.options.extended = false) (houter : p.outer = [])
    (fuel : Nat) : readParts (fuel + 1) p [] = some p.level.contents := by
  rw [readParts, Options.skip_of_not_extended hextended, houter]
  rfl

/-! ## 3. The expression of a text -/

/-- A text as a part of a sequence; an empty one is none. -/
def textOf (text : List Char) : List Regex := if text = [] then [] else [literal text]

/-- Characters one after the other join to a text, if no text follows them. -/
theorem foldr_joinPart {rest : List Regex}
    (hrest : ∀ text, joinPart (literal text) rest = literal text :: rest) (text : List Char) :
    (text.map fun c => literal [c]).foldr joinPart rest = textOf text ++ rest := by
  induction text with
  | nil => rfl
  | cons c text ih =>
    rw [List.map_cons, List.foldr_cons, ih]
    cases text with
    | nil => exact hrest [c]
    | cons d text => rfl

/-- Assertions, the characters of a text and assertions, in a sequence. -/
theorem seqAll_text (front back : List Look) (text : List Char) :
    seqAll (front.map look ++ ((text.map fun c => literal [c]) ++ back.map look)) =
      ofParts (front.map look ++ (textOf text ++ back.map look)) := by
  have hlooks (ls : List Look) : (ls.map look).flatMap parts = ls.map look := by
    rw [List.flatMap_map]
    exact List.flatMap_pure_eq_map look ls
  have htext : (text.map fun c => literal [c]).flatMap parts = text.map fun c => literal [c] := by
    rw [List.flatMap_map]
    exact List.flatMap_pure_eq_map _ text
  have hjoin (ls : List Look) (rest : List Regex) :
      (ls.map look).foldr joinPart rest = ls.map look ++ rest := by
    induction ls with
    | nil => rfl
    | cons l ls ih => rw [List.map_cons, List.foldr_cons, ih]; rfl
  have hback (word : List Char) :
      joinPart (literal word) (back.map look) = literal word :: back.map look := by
    cases back <;> rfl
  rw [seqAll, List.flatMap_append, List.flatMap_append, hlooks, hlooks, htext, List.foldr_append,
    List.foldr_append, hjoin back, List.append_nil, foldr_joinPart hback, hjoin]

/-- The sequence of the parts that have been read, which are nested no deeper than once. -/
theorem contents_eq {l : Level} (hdone : l.done = []) {rs : List Regex}
    (hparts : l.parts = (rs.map fun r => ⟨some r, 0⟩).reverse) :
    l.contents.1 = seqAll rs ∧ l.contents.2 ≤ 1 := by
  have hzero (n : Nat) : (List.replicate n 0).foldl max 0 = 0 := by
    induction n with
    | zero => rfl
    | succ n ih => exact ih
  have hdepth : (l.parts.map (·.depth)).foldl max 0 = 0 := by
    rw [hparts, List.map_reverse, List.map_map]
    show ((rs.map fun _ => 0).reverse).foldl max 0 = 0
    rw [List.map_const', List.reverse_replicate, hzero]
  have hcontents : l.contents = l.current := by rw [Level.contents, hdone]
  rw [hcontents, Level.current]
  dsimp only
  constructor
  · rw [hparts, List.reverse_reverse, List.filterMap_map]
    exact congrArg seqAll (List.filterMap_some)
  · rw [hdepth]
    split <;> omega

end Regex

/-! ## 4. Patterns -/

/-- The assertions before the text in a pattern. -/
def Operator.before : Operator → List Look
  | .sw => [.textStart]
  | _ => []

/-- The assertions after it. -/
def Operator.after : Operator → List Look
  | .ew => [.textEnd]
  | _ => []

/-- The expression that looks for a text. -/
def Operator.regex (op : Operator) (text : List Char) : Regex :=
  Regex.ofParts (op.before.map .look ++ (Regex.textOf text ++ op.after.map .look))

namespace Regex

/-- The parts that a pattern is read as. -/
theorem readParts_pattern {op : Operator} (hop : op ∈ Operator.textual) (text : String) :
    ∃ l : Level, readParts ((op.pattern text).toList.length + 1) {} (op.pattern text).toList =
        some l.contents ∧ l.done = [] ∧
      l.parts = ((op.before.map look ++ ((text.toList.map fun c => literal [c]) ++
        op.after.map look)).map fun r => ⟨some r, 0⟩).reverse := by
  obtain ⟨n, hn⟩ := Nat.exists_eq_add_of_le' (length_escape text.toList)
  simp only [Operator.textual, List.mem_cons, List.not_mem_nil, or_false] at hop
  rcases hop with rfl | rfl | rfl
  · have hread := readParts_escape (p := {}) rfl rfl text.toList [] (n + 1)
    rw [List.append_nil, readParts_nil rfl rfl] at hread
    refine ⟨(pushText {} text.toList).level, ?_, rfl, ?_⟩
    · show readParts ((String.ofList (escape text.toList)).toList.length + 1) {}
        (String.ofList (escape text.toList)).toList = _
      rw [String.toList_ofList, hn, Nat.add_right_comm, hread]
    · simp [pushText, textParts, Operator.before, Operator.after]
  · have hstart := readParts_succ (p := {}) rfl (c := '^') (s := escape text.toList) rfl
      (n + 1 + text.toList.length)
    have hread := readParts_escape (p := Progress.push {} (some (look .textStart)) 0) rfl rfl
      text.toList [] (n + 1)
    rw [List.append_nil, readParts_nil rfl rfl] at hread
    refine ⟨(pushText (Progress.push {} (some (look .textStart)) 0) text.toList).level, ?_, rfl, ?_⟩
    · show readParts ((String.ofList ('^' :: escape text.toList)).toList.length + 1) {}
        (String.ofList ('^' :: escape text.toList)).toList = _
      rw [String.toList_ofList, List.length_cons, hn, Nat.add_right_comm n]
      exact hstart.trans hread
    · simp [pushText, textParts, Operator.before, Operator.after, Progress.push, Level.push]
  · have hread := readParts_escape (p := {}) rfl rfl text.toList ['$'] (n + 2)
    have hstop := readParts_succ (p := pushText {} text.toList) rfl (c := '$') (s := []) rfl (n + 1)
    rw [readParts_nil rfl rfl] at hstop
    refine ⟨((pushText {} text.toList).push (some (look .textEnd)) 0).level, ?_, rfl, ?_⟩
    · show readParts ((String.ofList (escape text.toList ++ ['$'])).toList.length + 1) {}
        (String.ofList (escape text.toList ++ ['$'])).toList = _
      rw [String.toList_ofList, List.length_append, hn, List.length_singleton]
      rw [show n + text.toList.length + 1 + 1 = n + 2 + text.toList.length by omega]
      exact hread.trans hstop
    · simp [pushText, textParts, Operator.before, Operator.after, Progress.push, Level.push]

/-- **A pattern is read as the text that is looked for**, if the expression finds room. -/
theorem parse?_pattern {op : Operator} (hop : op ∈ Operator.textual) (text : String) :
    parse? (op.pattern text) false false =
      if (op.regex text.toList).fits then some (op.regex text.toList) else none := by
  obtain ⟨l, hread, hdone, hparts⟩ := readParts_pattern hop text
  obtain ⟨hregex, hdepth⟩ := contents_eq hdone hparts
  rw [seqAll_text] at hregex
  have hlimit : decide (l.contents.2 ≤ depthLimit) = true :=
    decide_eq_true (hdepth.trans (by decide))
  unfold parse?
  dsimp only
  rw [hread]
  show (if decide (l.contents.2 ≤ depthLimit) && l.contents.1.fits then some l.contents.1
    else none) = _
  rw [hlimit, Bool.true_and, hregex]
  rfl

/-! ## 5. Room -/

/-- Adds states and what leads from them, several times. -/
def addEach (additions : List (Nat × Nat)) (f : Footprint) : Option Footprint :=
  additions.foldlM (fun f addition => f.add addition.1 addition.2) f

/-- The room of all additions. -/
def roomOf (additions : List (Nat × Nat)) : Nat :=
  (additions.map fun addition => addition.1 * Footprint.stateRoom + addition.2).sum

theorem addEach_append (first second : List (Nat × Nat)) (f : Footprint) :
    addEach (first ++ second) f = addEach first f >>= addEach second :=
  List.foldlM_append

theorem addEach_singleton (states extra : Nat) :
    addEach [(states, extra)] = Footprint.add states extra :=
  funext fun _ => bind_pure _

theorem roomOf_singleton (states extra : Nat) :
    roomOf [(states, extra)] = states * Footprint.stateRoom + extra :=
  rfl

theorem roomOf_append (first second : List (Nat × Nat)) :
    roomOf (first ++ second) = roomOf first + roomOf second := by
  rw [roomOf, List.map_append, List.sum_append, roomOf, roomOf]

/-- There is room for everything exactly if there is for the sum. -/
theorem isSome_addEach (additions : List (Nat × Nat)) {f : Footprint}
    (hf : f.room ≤ Footprint.roomLimit) :
    (addEach additions f).isSome = true ↔ f.room + roomOf additions ≤ Footprint.roomLimit := by
  induction additions generalizing f with
  | nil => exact iff_of_true rfl hf
  | cons a rest ih =>
    rw [addEach, List.foldlM_cons, Footprint.add, roomOf, List.map_cons, List.sum_cons]
    by_cases hroom : f.room + a.1 * Footprint.stateRoom + a.2 ≤ Footprint.roomLimit
    · rw [if_pos hroom]
      refine (ih hroom).trans ?_
      rw [roomOf]
      dsimp only
      omega
    · rw [if_neg hroom]
      exact iff_of_false Bool.false_ne_true (by omega)

/-- What an expression adds to an automaton. -/
def Adds (back : Bool) (r : Regex) (additions : List (Nat × Nat)) : Prop :=
  ∀ f, r.addTo back false f = addEach additions f

/-- A state for each octet of a text. -/
theorem adds_literal (back : Bool) (text : List Char) :
    Adds back (literal text) [((text.flatMap octetsOf).length, 0)] := by
  intro f
  rw [addTo, addEach_singleton]

theorem adds_look (back : Bool) (assertion : Look) : Adds back (look assertion) [(1, 0)] := by
  intro f
  rw [addTo, addEach_singleton]

theorem adds_seq {a b : Regex} {first second : List (Nat × Nat)} (back : Bool)
    (ha : Adds back a first) (hb : Adds back b second) :
    Adds back (seq a b) (if back then second ++ first else first ++ second) := by
  intro f
  have ha := funext ha
  have hb := funext hb
  cases back with
  | true => rw [addTo, if_pos rfl, if_pos rfl, addEach_append, ha, hb]
  | false =>
    rw [addTo, if_neg Bool.false_ne_true, if_neg Bool.false_ne_true, addEach_append, ha, hb]

/-- What is added to pass over what is before a match. -/
def approach (anchored : Bool) : List (Nat × Nat) :=
  if anchored then [(1, 0)] else [(1, 8), (1, 0), (1, 8)]

theorem addApproach_eq (anchored : Bool) :
    addApproach anchored {} = addEach (approach anchored) {} := by
  cases anchored <;> rfl

theorem roomOf_approach (anchored : Bool) :
    roomOf (approach anchored) =
      if anchored then Footprint.stateRoom else 3 * Footprint.stateRoom + 16 := by
  cases anchored <;> rfl

/-- An expression finds room if the sums of what it adds do. -/
theorem fits_iff {r : Regex} {back forth : List (Nat × Nat)} (hwords : r.isWordList = false)
    (hback : Adds true r back) (hforth : Adds false r forth) :
    r.fits = true ↔
      roomOf (approach (r.endsAt .textEnd)) + roomOf back + Footprint.stateRoom ≤
          Footprint.roomLimit ∧
        roomOf (approach (r.startsAt .textStart)) + roomOf forth + 3 * Footprint.stateRoom ≤
          Footprint.roomLimit := by
  have hempty : ({} : Footprint).room ≤ Footprint.roomLimit := Nat.zero_le _
  have hbackward : r.backward? =
      addEach (approach (r.endsAt .textEnd) ++ back ++ [(1, 0)]) {} := by
    rw [addEach_append, addEach_append, backward?, addApproach_eq, funext hback,
      addEach_singleton]
  have hforward : r.forward? =
      addEach (approach (r.startsAt .textStart) ++ [(1, 0)] ++ forth ++ [(2, 0)]) {} := by
    rw [addEach_append, addEach_append, addEach_append, forward?, addApproach_eq, funext hforth,
      addEach_singleton, addEach_singleton]
  rw [fits, hwords, Bool.false_or, Bool.and_eq_true, hbackward, hforward, isSome_addEach _ hempty,
    isSome_addEach _ hempty]
  simp only [roomOf_append, roomOf_singleton]
  refine and_congr ?_ ?_ <;> omega

/-- **A pattern finds room exactly if its text is not too long.** -/
theorem fits_regex_iff {op : Operator} (hop : op ∈ Operator.textual) (text : List Char) :
    (op.regex text).fits = true ↔ (text.flatMap octetsOf).length ≤ op.textLimit := by
  simp only [Operator.textual, List.mem_cons, List.not_mem_nil, or_false] at hop
  cases text with
  | nil => rcases hop with rfl | rfl | rfl <;> decide
  | cons c rest =>
    generalize hword : c :: rest = word
    have hliteral (back : Bool) := adds_literal back word
    generalize (word.flatMap octetsOf).length = n at hliteral ⊢
    rcases hop with rfl | rfl | rfl
    · have hregex : Operator.co.regex word = literal word := hword ▸ rfl
      have hends : (literal word).endsAt .textEnd = false := rfl
      have hstarts : (literal word).startsAt .textStart = false := rfl
      rw [hregex, fits_iff rfl (hliteral true) (hliteral false), hends, hstarts]
      simp only [roomOf_approach, roomOf_singleton, Footprint.stateRoom, Footprint.roomLimit,
        Operator.textLimit, Bool.false_eq_true, if_false]
      omega
    · have hregex : Operator.sw.regex word = seq (look .textStart) (literal word) := hword ▸ rfl
      have hends : (seq (look .textStart) (literal word)).endsAt .textEnd = false := by
        simp [endsAt]
      have hstarts : (seq (look .textStart) (literal word)).startsAt .textStart = true := rfl
      rw [hregex, fits_iff rfl (adds_seq true (adds_look true _) (hliteral true))
        (adds_seq false (adds_look false _) (hliteral false)), hends, hstarts]
      simp only [roomOf_approach, roomOf_append, roomOf_singleton, Footprint.stateRoom,
        Footprint.roomLimit, Operator.textLimit, Bool.false_eq_true, if_true, if_false]
      omega
    · have hregex : Operator.ew.regex word = seq (literal word) (look .textEnd) := hword ▸ rfl
      have hends : (seq (literal word) (look .textEnd)).endsAt .textEnd = true := rfl
      have hstarts : (seq (literal word) (look .textEnd)).startsAt .textStart = false := by
        simp [startsAt]
      rw [hregex, fits_iff rfl (adds_seq true (hliteral true) (adds_look true _))
        (adds_seq false (hliteral false) (adds_look false _)), hends, hstarts]
      simp only [roomOf_approach, roomOf_append, roomOf_singleton, Footprint.stateRoom,
        Footprint.roomLimit, Operator.textLimit, Bool.false_eq_true, if_true, if_false]
      omega

/-! ## 6. Matches -/

section

variable (value text : List Char)

/-- The stretches where the text stands. -/
theorem takes_contains :
    ((Operator.co.regex text).plan (.ofText value)).Takes fun i j =>
      j = i + text.length ∧ text <+: value.drop i := by
  cases text with
  | nil => exact (takes_empty value).congr fun i j => by simp
  | cons c rest => exact takes_literal value (c :: rest)

theorem takes_startsWith :
    ((Operator.sw.regex text).plan (.ofText value)).Takes fun i j =>
      i = 0 ∧ j = i + text.length ∧ text <+: value.drop i := by
  cases text with
  | nil => exact (takes_textStart value).congr fun i j => by simp [and_comm]
  | cons c rest =>
    refine ((takes_textStart value).seq (takes_literal value (c :: rest)) _).congr fun i j => ?_
    constructor
    · rintro ⟨m, ⟨rfl, rfl⟩, hj, hprefix⟩
      exact ⟨rfl, hj, hprefix⟩
    · rintro ⟨rfl, hj, hprefix⟩
      exact ⟨0, ⟨rfl, rfl⟩, hj, hprefix⟩

theorem takes_endsWith :
    ((Operator.ew.regex text).plan (.ofText value)).Takes fun i j =>
      (j = i + text.length ∧ text <+: value.drop i) ∧ j = value.length := by
  cases text with
  | nil =>
    refine (takes_textEnd value).congr fun i j => ?_
    constructor
    · rintro ⟨rfl, hj⟩
      exact ⟨⟨rfl, List.nil_prefix⟩, hj⟩
    · rintro ⟨⟨rfl, -⟩, hj⟩
      exact ⟨rfl, hj⟩
  | cons c rest =>
    refine ((takes_literal value (c :: rest)).seq (takes_textEnd value) _).congr fun i j => ?_
    constructor
    · rintro ⟨m, hliteral, rfl, hm⟩
      exact ⟨hliteral, hm⟩
    · rintro ⟨hliteral, hj⟩
      exact ⟨j, hliteral, rfl, hj⟩

end

/-- **A value has a match exactly if the text stands where it is looked for.** -/
theorem isMatch_regex {op : Operator} (hop : op ∈ Operator.textual) (text value : List Char) :
    (op.regex text).isMatch value = true ↔ op.Finds text value := by
  simp only [Operator.textual, List.mem_cons, List.not_mem_nil, or_false] at hop
  rcases hop with rfl | rfl | rfl
  · rw [isMatch_iff (takes_contains value text)]
    refine Iff.trans ?_ List.infix_iff_prefix_suffix.symm
    constructor
    · rintro ⟨i, -, -, -, hprefix⟩
      exact ⟨_, hprefix, List.drop_suffix i value⟩
    · rintro ⟨tail, hprefix, hsuffix⟩
      have htail := List.suffix_iff_eq_drop.mp hsuffix
      exact ⟨value.length - tail.length, _, Nat.sub_le _ _, rfl, htail ▸ hprefix⟩
  · rw [isMatch_iff (takes_startsWith value text)]
    constructor
    · rintro ⟨i, j, -, rfl, -, hprefix⟩
      exact hprefix
    · intro hprefix
      exact ⟨0, _, Nat.zero_le _, rfl, rfl, hprefix⟩
  · rw [isMatch_iff (takes_endsWith value text)]
    refine Iff.trans ?_ List.suffix_iff_eq_drop.symm
    constructor
    · rintro ⟨i, j, hi, ⟨hj, hprefix⟩, hend⟩
      have hplace : value.length - text.length = i := by omega
      have hlength : text.length = (value.drop i).length := by
        rw [List.length_drop]
        omega
      rw [hplace]
      exact hprefix.eq_of_length hlength
    · intro htext
      have hlength := congrArg List.length htext
      rw [List.length_drop] at hlength
      refine ⟨value.length - text.length, _, Nat.sub_le _ _, ⟨rfl, ?_⟩, by omega⟩
      exact htext ▸ List.prefix_refl _

end Regex

end Dossier
