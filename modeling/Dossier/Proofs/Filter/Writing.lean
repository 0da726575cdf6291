/-
# Filters that write conditions

Every condition whose fields are paths, and whose literals are null, booleans, integers and strings,
can be written as a filter (`Condition.filterText`).  The filter is read back as the condition, up
to groups: the sides of a connective and what is negated stand in parentheses, so they come back as
groups (`Condition.reread`).  Groups do not count for the query.

What a literal consists of is never taken for a part of the filter around it, whatever quotes,
parentheses and words a string has.  A field can have the name of a word, too.  With the name `not`
it would begin a negation if a comparison followed.  Its operator would have to be the field of that
comparison, and what is written after the operator begins with no other operator (`not_shadowed`).

Main statement: `Condition.read_filterText`.
-/
import Dossier.Proofs.Filter.Reading

namespace Dossier

/-! ## 1. Texts -/

/-- The literal as it stands in a filter.  A string is quoted. -/
def Literal.written : Literal → List Char
  | .string s => '\'' :: (Filter.quoted s.toList ++ ['\''])
  | other => other.toText.toList

/-- Null, booleans, integers and strings.  A filter has no word for a point in time, and not every
double stands in it as its text does. -/
def Literal.isWritable : Literal → Bool
  | .null | .bool _ | .int _ | .string _ => true
  | .double _ | .instant _ => false

/-- Whether the text is a field path. -/
def isPath (field : String) : Bool :=
  match field.toList with
  | [] => false
  | c :: cs => Filter.startsPath c && cs.all Filter.inPath

namespace Condition

/-- The condition as a filter.  The sides of a connective and what is negated are put in
parentheses. -/
def written : Condition → List Char
  | .operand field .pr _ => field.toList ++ ' ' :: Operator.pr.token.toList
  | .operand field op value => field.toList ++ ' ' :: (op.token.toList ++ ' ' :: value.written)
  | .logic connective left right =>
    '(' :: (left.written ++ ')' :: ' ' :: (connective.token.toList ++ ' ' :: '(' ::
      (right.written ++ [')'])))
  | .not inner => "not".toList ++ ' ' :: '(' :: (inner.written ++ [')'])
  | .group inner => '(' :: (inner.written ++ [')'])

def filterText (c : Condition) : String := String.ofList c.written

/-- The fields are paths and the literals have a text.  The literal of a presence does not count. -/
def isWritable : Condition → Bool
  | .operand field op value => isPath field && (op == .pr || value.isWritable)
  | .logic _ left right => left.isWritable && right.isWritable
  | .not inner => inner.isWritable
  | .group inner => inner.isWritable

/-- The condition without groups, and without the literals that do not count. -/
def bare : Condition → Condition
  | .operand field .pr _ => .present field
  | .operand field op value => .operand field op value
  | .logic connective left right => .logic connective left.bare right.bare
  | .not inner => .not inner.bare
  | .group inner => inner.bare

/-- The condition that its text is read as. -/
def reread : Condition → Condition
  | .operand field .pr _ => .present field
  | .operand field op value => .operand field op value
  | .logic connective left right => .logic connective (.group left.reread) (.group right.reread)
  | .not inner => .not (.group inner.reread)
  | .group inner => .group inner.reread

theorem written_operand {field : String} {op : Operator} {value : Literal} (h : op ≠ .pr) :
    (operand field op value).written =
      field.toList ++ ' ' :: (op.token.toList ++ ' ' :: value.written) := by
  cases op with
  | pr => exact absurd rfl h
  | _ => rfl

theorem reread_operand {field : String} {op : Operator} {value : Literal} (h : op ≠ .pr) :
    (operand field op value).reread = .operand field op value := by
  cases op with
  | pr => exact absurd rfl h
  | _ => rfl

theorem bare_reread (c : Condition) : c.reread.bare = c.bare := by
  induction c with
  | operand field op value => cases op <;> rfl
  | logic connective left right ihl ihr =>
    rw [reread, bare, bare, bare, bare, ihl, ihr]
  | not inner ih => rw [reread, bare, bare, bare, ih]
  | group inner ih => rw [reread, bare, bare, ih]

/-- Neither groups nor the literal of a presence are in the query. -/
theorem compile_reread (c : Condition) : c.reread.compile = c.compile := by
  induction c with
  | operand field op value => cases op <;> rfl
  | logic connective left right ihl ihr =>
    rw [reread, compile, compile, compile, compile, ihl, ihr]
  | not inner ih => rw [reread, compile, compile, compile, ih]
  | group inner ih => rw [reread, compile, compile, ih]

end Condition

namespace Filter

/-! ## 2. Literals -/

theorem digitsValue_toDigits (n : Nat) : digitsValue (Nat.toDigits 10 n) = n :=
  Nat.ofDigitChars_toDigits (by decide) (by decide)

theorem numeral_toDigits (n : Nat) : Numeral (Nat.toDigits 10 n) :=
  ⟨Nat.toDigits_ne_nil, fun _ => Nat.isDigit_of_mem_toDigits (by decide) (by decide)⟩

/-- An integer is written by its sign and its digits. -/
theorem writes_of_signed {n : Int64} {m : Nat} {negative : Bool} {sign : List Char}
    (hsign : Sign negative sign) (h : signed negative (Nat.toDigits 10 m) = n.toInt) :
    Writes (.int n) (sign ++ Nat.toDigits 10 m) := by
  have hwrites := Writes.integer hsign (numeral_toDigits m) (h ▸ n.minValue_le_toInt)
    (h ▸ Int64.le_iff_toInt_le.mp n.le_maxValue)
  rwa [h, Int64.ofInt_toInt] at hwrites

theorem writes_int (n : Int64) : Writes (.int n) (Literal.int n).written := by
  show Writes _ (toString n.toInt).toList
  rw [Int.toString_eq_repr]
  cases hint : n.toInt with
  | ofNat m =>
    have hwrites : Writes (.int n) ([] ++ Nat.toDigits 10 m) := by
      refine writes_of_signed .none ?_
      rw [signed, if_neg Bool.false_ne_true, digitsValue_toDigits, hint]
      rfl
    rw [Int.repr, Nat.toList_repr]
    exact hwrites
  | negSucc m =>
    have hwrites : Writes (.int n) (['-'] ++ Nat.toDigits 10 (m + 1)) := by
      refine writes_of_signed .minus ?_
      rw [signed, if_pos rfl, digitsValue_toDigits, hint]
      rfl
    rw [Int.repr, String.toList_append, Nat.toList_repr]
    exact hwrites

/-- Literals are written. -/
theorem writes_written {value : Literal} (h : value.isWritable = true) :
    Writes value value.written := by
  cases value with
  | null => exact .nullWord (by decide)
  | bool b =>
    cases b with
    | true => exact .trueWord (by decide)
    | false => exact .falseWord (by decide)
  | int n => exact writes_int n
  | string s =>
    have hstring := Writes.string s.toList
    rwa [String.ofList_toList] at hstring
  | double x => cases h
  | instant t => cases h

/-! ## 3. What follows a field -/

theorem exists_of_isPath {field : String} (h : isPath field = true) :
    ∃ c cs, field.toList = c :: cs ∧ startsPath c = true ∧ ∀ d ∈ cs, inPath d = true := by
  unfold isPath at h
  split at h
  · cases h
  · rename_i c cs heq
    rw [Bool.and_eq_true, List.all_eq_true] at h
    exact ⟨c, cs, heq, h⟩

theorem path_of_isPath {field : String} (h : isPath field = true) (rest : List Char) :
    Path (field.toList ++ rest) field rest := by
  obtain ⟨c, cs, hfield, hc, hcs⟩ := exists_of_isPath h
  have hname : field = String.ofList (c :: cs) := by rw [← hfield, String.ofList_toList]
  exact ⟨c, cs, hc, hcs, hname, by rw [hfield, List.cons_append]⟩

theorem inPath_of_isPath {field : String} (h : isPath field = true) :
    ∀ d ∈ field.toList, inPath d = true := by
  obtain ⟨c, cs, hfield, hc, hcs⟩ := exists_of_isPath h
  rw [hfield]
  exact List.forall_mem_cons.mpr ⟨inPath_of_startsPath hc, hcs⟩

theorem isAlpha_token (op : Operator) : ∀ c ∈ op.token.toList, c.isAlpha = true :=
  List.all_eq_true.mp (by cases op <;> decide)

theorem inPath_of_isAlpha {c : Char} (h : c.isAlpha = true) : inPath c = true :=
  inPath_of_startsPath (by rw [startsPath, h]; rfl)

theorem token_token (op : Operator) {rest : List Char} (h : Stops Char.isAlpha rest) :
    Token (op.token.toList ++ rest) op rest :=
  ⟨_, isAlpha_token op, h, by rw [String.ofList_toList, Operator.ofToken?_token], rfl⟩

theorem blanks_refl (s : List Char) : Blanks s s := ⟨[], List.forall_mem_nil _, rfl⟩

theorem blanks_cons (s : List Char) : Blanks (' ' :: s) s := ⟨[' '], List.all_eq_true.mp rfl, rfl⟩

/-- The end of the text or of a group. -/
def Shut (rest : List Char) : Prop := rest = [] ∨ ∃ after, rest = ')' :: after

theorem Shut.stops {kind : Char → Bool} {rest : List Char} (h : Shut rest)
    (hkind : kind ')' = false) : Stops kind rest := by
  rcases h with rfl | ⟨after, rfl⟩
  · exact stops_nil kind
  · exact stops_cons.mpr hkind

/-- No operator begins where something else than a letter stands. -/
theorem Token.not_of_stops {s rest : List Char} {op : Operator} (h : Stops Char.isAlpha s) :
    ¬ Token s op rest := by
  intro htoken
  obtain ⟨c, after, rfl, hc⟩ := htoken.exists_cons
  rw [stops_cons, hc] at h
  cases h

/-- A word of letters that is no operator. -/
theorem Token.not_of_word {word rest after : List Char} {op : Operator}
    (hword : ∀ c ∈ word, c.isAlpha = true) (hrest : Stops Char.isAlpha rest)
    (hnone : Operator.ofToken? (String.ofList word) = none) : ¬ Token (word ++ rest) op after := by
  rintro ⟨letters, hletters, hstops, hop, hs⟩
  obtain ⟨rfl, -⟩ := hrest.append_inj hstops hword hletters hs
  rw [hnone] at hop
  cases hop

/-- **No literal begins with an operator.** -/
theorem written_not_token {value : Literal} (h : value.isWritable = true) {rest after : List Char}
    (hrest : Shut rest) (op : Operator) : ¬ Token (value.written ++ rest) op after := by
  have halpha : Stops Char.isAlpha rest := hrest.stops rfl
  cases value with
  | null => exact Token.not_of_word (List.all_eq_true.mp rfl) halpha (by decide)
  | bool b =>
    cases b with
    | true => exact Token.not_of_word (List.all_eq_true.mp rfl) halpha (by decide)
    | false => exact Token.not_of_word (List.all_eq_true.mp rfl) halpha (by decide)
  | int n =>
    refine Token.not_of_stops ?_
    generalize hwritten : (Literal.int n).written = text
    have hwrites : Writes (.int n) text := hwritten ▸ writes_int n
    cases hwrites with
    | integer hsign hdigits _ _ =>
      obtain ⟨c, others, hcons, hc, -⟩ := hsign.exists_cons hdigits rest
      rw [List.append_assoc, hcons]
      exact stops_cons.mpr hc
  | string s => exact Token.not_of_stops (stops_cons.mpr rfl)
  | double x => cases h
  | instant t => cases h

/-- **A comparison that is written is not shadowed.**  If its field is the word `not`, its operator
would be the field of another comparison, and nothing after it begins with an operator. -/
theorem not_shadowed {field : String} (hfield : isPath field = true) (op : Operator)
    {after : List Char} (hafter : Stops inPath after)
    (hnone : ∀ s op rest, Blanks after s → after ≠ s → ¬ Token s op rest) :
    ¬ Shadowed (field.toList ++ ' ' :: (op.token.toList ++ after)) := by
  rintro ⟨s₁, s₂, ⟨text, k, others, heq, hk, rfl, htext⟩, hblanks, c, rest, hcomparison⟩
  have hword := isAlpha_of_equalIgnoringCase heq (by decide)
  have hspace : Stops inPath (' ' :: (op.token.toList ++ after)) := stops_cons.mpr rfl
  obtain ⟨-, hrest⟩ := hspace.append_inj (stops_cons.mpr (inPath_of_endsKeyword hk))
    (inPath_of_isPath hfield) (fun d hd => inPath_of_isAlpha (hword d hd)) htext
  have htoken : Stops isSpace (op.token.toList ++ after) := by cases op <;> exact stops_cons.mpr rfl
  have hs₂ : op.token.toList ++ after = s₂ := by
    rw [← hrest] at hblanks
    rw [← hblanks.skipSpace_eq_rest hcomparison.stops_isSpace]
    exact ((blanks_cons _).skipSpace_eq_rest htoken).symm
  have hno {p₁ p₂ p₃ : List Char} {path : String} {op' : Operator} (hpath : Path s₂ path p₁)
      (hblanks : Blanks p₁ p₂) (hsome : p₁ ≠ p₂) : ¬ Token p₂ op' p₃ := by
    obtain ⟨d, ds, hd, hds, -, hs⟩ := hpath
    obtain ⟨-, hp₁⟩ := hafter.append_inj (hblanks.stops_inPath hsome)
      (fun e he => inPath_of_isAlpha (isAlpha_token op e he))
      (List.forall_mem_cons.mpr ⟨inPath_of_startsPath hd, hds⟩) (hs₂.trans hs)
    subst hp₁
    exact hnone p₂ op' p₃ hblanks hsome
  cases hcomparison with
  | present hpath hblanks hsome htoken => exact hno hpath hblanks hsome htoken
  | operand hpath hblanks hsome htoken => exact hno hpath hblanks hsome htoken

/-! ## 4. Conditions -/

theorem plain_present {field : String} (hfield : isPath field = true) {rest : List Char}
    (hrest : Shut rest) :
    Plain (field.toList ++ ' ' :: (Operator.pr.token.toList ++ rest)) (.present field) rest := by
  have htoken := token_token .pr (hrest.stops rfl)
  refine ⟨.present (path_of_isPath hfield _) (blanks_cons _) (List.cons_ne_self _ _) htoken, ?_⟩
  refine not_shadowed hfield .pr (hrest.stops rfl) fun s op after hblanks hsome htoken => ?_
  have hskip := hblanks.skipSpace_eq_rest htoken.stops_isSpace
  exact hsome ((skipSpace_of_stops (hrest.stops rfl)).symm.trans hskip)

theorem plain_operand {field : String} (hfield : isPath field = true) {op : Operator}
    (hop : op ≠ .pr) {value : Literal} (hvalue : value.isWritable = true) {rest : List Char}
    (hrest : Shut rest) :
    Plain (field.toList ++ ' ' :: (op.token.toList ++ ' ' :: (value.written ++ rest)))
      (.operand field op value) rest := by
  have hwrites := writes_written hvalue
  have htoken : Token (op.token.toList ++ ' ' :: (value.written ++ rest)) op
      (' ' :: (value.written ++ rest)) := token_token op (stops_cons.mpr rfl)
  have hblanks : Blanks (' ' :: (value.written ++ rest)) (value.written ++ rest) := blanks_cons _
  refine ⟨.operand (path_of_isPath hfield _) (blanks_cons _) (List.cons_ne_self _ _) htoken hop
    hblanks hwrites trivial, ?_⟩
  refine not_shadowed hfield op (stops_cons.mpr rfl) fun s op' after hafter _ htoken => ?_
  have hs : value.written ++ rest = s := by
    rw [← hafter.skipSpace_eq_rest htoken.stops_isSpace]
    exact (hblanks.skipSpace_eq_rest (hwrites.stops_isSpace rest)).symm
  exact written_not_token hvalue hrest op' (hs ▸ htoken)

/-- A condition in parentheses is a group, whatever comes after it. -/
theorem derives_group {s rest : List Char} {c : Condition}
    (h : Derives Plain (.chain .or) (s ++ ')' :: rest) c (')' :: rest)) :
    Derives Plain .unary ('(' :: (s ++ ')' :: rest)) (.group c) rest :=
  .group (blanks_refl _) (.expression (blanks_refl _) h (blanks_refl _)) (blanks_refl _)

theorem Derives.chain {s rest : List Char} {c : Condition} (h : Derives Plain .unary s c rest) :
    Derives Plain (.chain .or) s c rest :=
  .single .or (.single .and h)

/-- Two groups and a connective between them. -/
theorem derives_joined (connective : Connective) {s t rest : List Char} {left right : Condition}
    (hleft : Derives Plain .unary s left
      (' ' :: (connective.token.toList ++ ' ' :: t)))
    (hright : Derives Plain .unary t right rest) :
    Derives Plain (.chain .or) s (.logic connective left right) rest := by
  have hword : Keyword connective.token.toList (connective.token.toList ++ ' ' :: t) (' ' :: t) :=
    ⟨_, ' ', t, beq_self_eq_true _, by decide, rfl, rfl⟩
  cases connective with
  | and =>
    have hitem := Derives.single .and hleft
    exact .single .or (.joined .and hitem (blanks_cons _) hword (blanks_cons _) hright)
  | or =>
    exact .joined .or hleft.chain (blanks_cons _) hword (blanks_cons _) (.single .and hright)

/-- **A condition is derived from its text**, where nothing but the end of a group comes after. -/
theorem derives_written {c : Condition} (h : c.isWritable = true) {rest : List Char}
    (hrest : Shut rest) : Derives Plain (.chain .or) (c.written ++ rest) c.reread rest := by
  induction c generalizing rest with
  | operand field op value =>
    obtain ⟨hfield, hvalue⟩ := Bool.and_eq_true_iff.mp h
    by_cases hop : op = .pr
    · subst hop
      have hplain := plain_present hfield hrest
      rw [Condition.written, List.append_assoc]
      exact (Derives.comparison hplain).chain
    · have hplain := plain_operand hfield hop (by simpa [hop] using hvalue) hrest
      rw [Condition.written_operand hop, Condition.reread_operand hop]
      simp only [List.cons_append, List.append_assoc]
      exact (Derives.comparison hplain).chain
  | logic connective left right ihl ihr =>
    obtain ⟨hl, hr⟩ := Bool.and_eq_true_iff.mp h
    rw [Condition.written, Condition.reread]
    simp only [List.cons_append, List.append_assoc, List.nil_append]
    exact derives_joined connective (derives_group (ihl hl (.inr ⟨_, rfl⟩)))
      (derives_group (ihr hr (.inr ⟨_, rfl⟩)))
  | not inner ih =>
    have hgroup := derives_group (ih h (.inr ⟨rest, rfl⟩))
    rw [Condition.written, Condition.reread]
    simp only [List.cons_append, List.append_assoc, List.nil_append]
    have hword : Keyword "not".toList
        ("not".toList ++ ' ' :: '(' :: (inner.written ++ ')' :: rest))
        (' ' :: '(' :: (inner.written ++ ')' :: rest)) :=
      ⟨_, ' ', _, beq_self_eq_true _, by decide, rfl, rfl⟩
    exact (Derives.negation hword (blanks_cons _) hgroup).chain
  | group inner ih =>
    have hgroup := derives_group (ih h (.inr ⟨rest, rfl⟩))
    rw [Condition.written, Condition.reread]
    simp only [List.cons_append, List.append_assoc, List.nil_append]
    exact hgroup.chain

/-- No text of a condition is blank. -/
theorem all_isBlank_written {c : Condition} (h : c.isWritable = true) :
    c.written.all isBlank = false := by
  have hfield {field : String} (hfield : isPath field = true) (rest : List Char) :
      (field.toList ++ rest).all isBlank = false := by
    obtain ⟨d, ds, heq, hd, -⟩ := exists_of_isPath hfield
    have hblank : isBlank d = false := by
      cases hblank : isBlank d with
      | false => rfl
      | true =>
        have hend : endsKeyword d = true := by rw [endsKeyword, hblank, Bool.true_or]
        rw [← inPath_of_endsKeyword hend, inPath_of_startsPath hd]
    rw [heq, List.cons_append, List.all_cons, hblank, Bool.false_and]
  cases c with
  | operand field op value =>
    obtain ⟨hpath, -⟩ := Bool.and_eq_true_iff.mp h
    by_cases hop : op = .pr
    · subst hop
      exact hfield hpath _
    · rw [Condition.written_operand hop]
      exact hfield hpath _
  | logic connective left right => rfl
  | not inner => rfl
  | group inner => rfl

end Filter

/-- **A condition can be written as a filter.**  The filter is read as the condition in which the
sides of connectives and what is negated are groups, which is the condition but for its groups, and
has its query. -/
theorem Condition.read_filterText (c : Condition) (h : c.isWritable = true) :
    parseFilter c.filterText = .ok c.reread ∧ c.reread.bare = c.bare ∧
      ∃ query, c.compile = .ok query ∧ compileFilter c.filterText = .ok query := by
  have hderives : Filter.Derives Filter.Plain .expression c.filterText.toList c.reread [] := by
    have hchain := Filter.derives_written h (.inl rfl)
    rw [List.append_nil] at hchain
    rw [filterText, String.toList_ofList]
    exact .expression (Filter.blanks_refl _) hchain (Filter.blanks_refl _)
  have hparse : parseFilter c.filterText = .ok c.reread :=
    Filter.parseFilter_eq_ok_iff.mpr hderives
  obtain ⟨query, hquery⟩ := hderives.exists_compile fun _ _ _ hplain => hplain.1.exists_compile
  have hblank : ¬ c.filterText.toList.all isBlank = true := by
    rw [filterText, String.toList_ofList, Filter.all_isBlank_written h]
    exact Bool.false_ne_true
  refine ⟨hparse, c.bare_reread, query, c.compile_reread.symm.trans hquery, ?_⟩
  rw [compileFilter, if_neg hblank, hparse]
  dsimp only
  rw [hquery]

namespace Filter.Example

/-- A field with the name `not`, a string that looks like the end of a group and the beginning of
another, and the least integer. -/
def lookalikes : Condition :=
  .logic .or
    (.not (.group (.operand "not" .eq (.string "') or (not pr and '"))))
    (.logic .and (.operand "or.$a" .ge (.int (-9223372036854775808)))
      (.operand "_pr" .pr (.string "'")))

theorem read_lookalikes :
    lookalikes.isWritable = true ∧
      lookalikes.filterText =
        "(not ((not eq ''') or (not pr and '''))) or " ++
          "((or.$a ge -9223372036854775808) and (_pr pr))" ∧
      parseFilter lookalikes.filterText = .ok lookalikes.reread ∧
      lookalikes.reread.bare = lookalikes.bare ∧
      ∃ query, lookalikes.compile = .ok query ∧
        compileFilter lookalikes.filterText = .ok query := by
  have h : lookalikes.isWritable = true := by decide +kernel
  refine ⟨h, ?_, lookalikes.read_filterText h⟩
  decide +kernel

end Filter.Example

end Dossier
