/-
# Filters are read as the grammar says

Readers take the first alternative that succeeds and as much as it can, and never come back to
another.  Nothing is lost by this, for what may follow a condition in a derivation never continues
it: no digit, point or quote (`Follow`), and no word that a chain goes on with (`Ends`).

* What is read is derived (`readUnary_sound`): by induction on the depth, and inside it along a
  chain.
* What is derived is read (`Derives.completes`): by induction on the derivation.  A chain is derived
  from the left but read from its first item on, so what is shown of a chain is that reading it
  passes through the derived condition, with fuel left for what comes after.

Main statement: `parseFilter_iff_derives`.
-/
import Dossier.Proofs.Filter.Tokens
import Dossier.Query.Compile

namespace Dossier

namespace Filter

/-! ## 1. How texts begin, and how far they go -/

theorem Comparison.imp {ends ends' : Literal → List Char → Prop} {s rest : List Char}
    {c : Condition} (h : Comparison ends s c rest)
    (himp : ∀ value, ends value rest → ends' value rest) : Comparison ends' s c rest := by
  cases h with
  | present hpath hblanks hsome htoken => exact .present hpath hblanks hsome htoken
  | operand hpath hblanks hsome htoken hop hvalueBlanks hvalue hends =>
    exact .operand hpath hblanks hsome htoken hop hvalueBlanks hvalue (himp _ hends)

theorem Path.length_lt {s rest : List Char} {path : String} (h : Path s path rest) :
    rest.length < s.length := by
  obtain ⟨c, cs, -, -, -, rfl⟩ := h
  rw [List.length_cons, List.length_append]
  omega

theorem Token.length_le {s rest : List Char} {op : Operator} (h : Token s op rest) :
    rest.length ≤ s.length := by
  obtain ⟨letters, -, -, -, rfl⟩ := h
  rw [List.length_append]
  omega

theorem Comparison.length_lt {ends : Literal → List Char → Prop} {s rest : List Char}
    {c : Condition} (h : Comparison ends s c rest) : rest.length < s.length := by
  cases h with
  | present hpath hblanks _ htoken =>
    have := htoken.length_le
    have := hblanks.length_le
    have := hpath.length_lt
    omega
  | operand hpath hblanks _ htoken _ hvalueBlanks =>
    have hle := hvalueBlanks.length_le
    rw [List.length_append] at hle
    have := htoken.length_le
    have := hblanks.length_le
    have := hpath.length_lt
    omega

/-- A comparison begins with its path. -/
theorem Comparison.exists_cons {ends : Literal → List Char → Prop} {s rest : List Char}
    {c : Condition} (h : Comparison ends s c rest) :
    ∃ d after, s = d :: after ∧ startsPath d = true := by
  have hfield {after : List Char} {path : String} (hpath : Path s path after) :
      ∃ d after, s = d :: after ∧ startsPath d = true := by
    obtain ⟨d, ds, hd, -, -, rfl⟩ := hpath
    exact ⟨d, ds ++ after, rfl, hd⟩
  cases h with
  | present hpath => exact hfield hpath
  | operand hpath => exact hfield hpath

theorem Comparison.stops_isSpace {ends : Literal → List Char → Prop} {s rest : List Char}
    {c : Condition} (h : Comparison ends s c rest) : Stops isSpace s := by
  obtain ⟨d, after, rfl, hd⟩ := h.exists_cons
  refine stops_cons.mpr ?_
  cases hspace : isSpace d with
  | false => rfl
  | true => rw [← inPath_eq_false hspace, inPath_of_startsPath hd]

theorem Keyword.stops_isSpace {w : Char} {word s rest : List Char}
    (h : Keyword (w :: word) s rest) (hw : w.toLower.isAlpha = true) : Stops isSpace s := by
  obtain ⟨text, d, after, heq, -, rfl, rfl⟩ := h
  obtain ⟨c, others, rfl, hc⟩ := exists_cons_of_equalIgnoringCase heq
  exact stops_cons.mpr (isSpace_eq_false (.inr (isAlpha_of_toLower (hc ▸ hw))))

/-- Only an expression can begin with blanks. -/
theorem Derives.stops_isSpace {category : Category} {s rest : List Char} {c : Condition}
    (h : Derives Plain category s c rest) (hcategory : category ≠ .expression) :
    Stops isSpace s := by
  induction h with
  | comparison h => exact h.1.stops_isSpace
  | negation hword => exact hword.stops_isSpace (by decide)
  | group => exact stops_cons.mpr rfl
  | single connective _ ih => exact ih (by cases connective <;> rintro ⟨⟩)
  | joined connective _ _ _ _ _ ih => exact ih (by rintro ⟨⟩)
  | expression => exact absurd rfl hcategory

theorem Derives.length_lt {category : Category} {s rest : List Char} {c : Condition}
    (h : Derives Plain category s c rest) : rest.length < s.length := by
  induction h with
  | comparison h => exact h.1.length_lt
  | negation hword hblanks _ ih =>
    have := hword.length_lt (by decide)
    have := hblanks.length_le
    omega
  | group hblanks _ hclose ih =>
    have := hblanks.length_le
    have := hclose.length_le
    rw [List.length_cons] at *
    omega
  | single connective _ ih => exact ih
  | joined connective _ hblanks hword hright _ ih ih' =>
    have := hblanks.length_le
    have := hword.length_lt (by cases connective <;> decide)
    have := hright.length_le
    omega
  | expression hbefore _ hafter ih =>
    have := hbefore.length_le
    have := hafter.length_le
    omega

/-! ## 2. Readers of unary conditions -/

theorem readNegation_eq_some_iff {unary : Reader} {s rest : List Char} {c : Condition} :
    readNegation unary s = some (c, rest) ↔
      ∃ s₁ inner, Keyword "not".toList s s₁ ∧ unary (skipSpace s₁) = .read inner rest ∧
        c = .not inner := by
  unfold readNegation
  constructor
  · intro h
    obtain ⟨s₁, hword, h⟩ := Option.bind_eq_some_iff.mp h
    cases hread : unary (skipSpace s₁) with
    | stopped _ _ => rw [hread] at h; cases h
    | read inner after =>
      rw [hread] at h
      cases h
      exact ⟨s₁, inner, readKeyword_eq_some_iff.mp hword, hread, rfl⟩
  · rintro ⟨s₁, inner, hword, hread, rfl⟩
    refine Option.bind_eq_some_iff.mpr ⟨s₁, readKeyword_eq_some_iff.mpr hword, ?_⟩
    rw [hread]

theorem readGroup_eq_some_iff {unary : Reader} {s rest : List Char} {c : Condition} :
    readGroup unary s = some (c, rest) ↔
      ∃ s₁ s₂ inner, s = '(' :: s₁ ∧ readExpression unary (skipSpace s₁) = .read inner s₂ ∧
        skipSpace s₂ = ')' :: rest ∧ c = .group inner := by
  constructor
  · intro h
    unfold readGroup at h
    split at h
    · rename_i s₁
      cases hread : readExpression unary (skipSpace s₁) with
      | stopped _ _ => rw [hread] at h; cases h
      | read inner s₂ =>
        rw [hread] at h
        obtain ⟨after, hclose, heq⟩ := Option.map_eq_some_iff.mp h
        cases heq
        exact ⟨s₁, s₂, inner, rfl, hread, readChar_eq_some_iff.mp hclose, rfl⟩
    · cases h
  · rintro ⟨s₁, s₂, inner, rfl, hread, hclose, rfl⟩
    rw [readGroup, hread]
    exact Option.map_eq_some_iff.mpr ⟨rest, readChar_eq_some_iff.mpr hclose, rfl⟩

/-- No negation begins with a parenthesis. -/
theorem readNegation_paren (unary : Reader) (s : List Char) :
    readNegation unary ('(' :: s) = none := by
  refine Option.eq_none_iff_forall_ne_some.mpr fun found hnegation => ?_
  obtain ⟨_, _, ⟨text, d, after, heq, -, -, hs⟩, -⟩ := readNegation_eq_some_iff.mp hnegation
  obtain ⟨e, others, rfl, he⟩ := exists_cons_of_equalIgnoringCase (w := 'n') heq
  rw [← (List.cons.inj hs).1] at he
  revert he
  decide

/-- No group begins like a path. -/
theorem readGroup_eq_none {unary : Reader} {d : Char} {s : List Char}
    (hd : startsPath d = true) : readGroup unary (d :: s) = none := by
  refine Option.eq_none_iff_forall_ne_some.mpr fun found hgroup => ?_
  obtain ⟨_, _, _, hs, -⟩ := readGroup_eq_some_iff.mp hgroup
  cases hs
  cases hd

theorem readUnary_eq_read_iff {depth : Nat} {s rest : List Char} {c : Condition} :
    readUnary (depth + 1) s = .read c rest ↔
      readNegation (readUnary depth) s = some (c, rest) ∨
      readNegation (readUnary depth) s = none ∧
        (readGroup (readUnary depth) s = some (c, rest) ∨
          readGroup (readUnary depth) s = none ∧ readOperand s = .read c rest) := by
  simp only [readUnary]
  cases readNegation (readUnary depth) s with
  | some found =>
    show Outcome.read found.1 found.2 = .read c rest ↔ _
    simp [Prod.ext_iff]
  | none =>
    cases readGroup (readUnary depth) s with
    | some found =>
      show Outcome.read found.1 found.2 = .read c rest ↔ _
      simp [Prod.ext_iff]
    | none =>
      show readOperand s = .read c rest ↔ _
      simp

/-- A comparison is read as such, or not at all because something else is read. -/
theorem exists_readUnary_of_readOperand (depth : Nat) {s rest : List Char} {c : Condition}
    (h : readOperand s = .read c rest) :
    ∃ c' rest', readUnary (depth + 1) s = .read c' rest' := by
  simp only [readUnary_eq_read_iff]
  cases readNegation (readUnary depth) s with
  | some found => exact ⟨found.1, found.2, .inl rfl⟩
  | none =>
    cases readGroup (readUnary depth) s with
    | some found => exact ⟨found.1, found.2, .inr ⟨rfl, .inl rfl⟩⟩
    | none => exact ⟨c, rest, .inr ⟨rfl, .inr ⟨rfl, h⟩⟩⟩

/-! ## 3. What is read is derived -/

/-- The reader of the items of a chain. -/
def itemReader (unary : Reader) : Connective → Reader
  | .and => unary
  | .or => readJoined "and".toList .and unary

/-- What the reader reads in texts below a length is derived. -/
def Sound (reader : Reader) (category : Category) (bound : Nat) : Prop :=
  ∀ s c rest, s.length < bound → reader s = .read c rest → Derives Plain category s c rest

theorem length_skipSpace_le (s : List Char) : (skipSpace s).length ≤ s.length :=
  (blanks_skipSpace s).length_le

theorem readChain_sound {connective : Connective} {item : Reader} {bound : Nat}
    (hitem : Sound item (.item connective) bound) {s s₁ rest : List Char} {left c : Condition}
    (hs : s.length < bound) (hleft : Derives Plain (.chain connective) s left s₁) {fuel : Nat}
    (h : readChain connective.token.toList connective item fuel left s₁ = (c, rest)) :
    Derives Plain (.chain connective) s c rest := by
  induction fuel generalizing left s₁ with
  | zero =>
    cases h
    exact hleft
  | succ fuel ih =>
    rw [readChain] at h
    cases hword : readKeyword connective.token.toList (skipSpace s₁) with
    | none =>
      rw [hword] at h
      cases h
      exact hleft
    | some s₃ =>
      rw [hword] at h
      cases hread : item (skipSpace s₃) with
      | stopped _ _ =>
        simp only [hread] at h
        cases h
        exact hleft
      | read right after =>
        simp only [hread] at h
        have hword := readKeyword_eq_some_iff.mp hword
        have hlt := hword.length_lt (by cases connective <;> decide)
        have := length_skipSpace_le s₁
        have := length_skipSpace_le s₃
        have := hleft.length_lt
        have hright := hitem _ _ _ (by omega) hread
        exact ih (.joined connective hleft (blanks_skipSpace _) hword (blanks_skipSpace _) hright) h

theorem readJoined_sound {connective : Connective} {item : Reader} {bound : Nat}
    (hitem : Sound item (.item connective) bound) :
    Sound (readJoined connective.token.toList connective item) (.chain connective) bound := by
  intro s c rest hs h
  unfold readJoined at h
  cases hread : item s with
  | stopped _ _ => rw [hread] at h; cases h
  | read left s₁ =>
    rw [hread] at h
    cases h
    exact readChain_sound hitem hs (.single connective (hitem _ _ _ hs hread)) rfl

theorem readExpression_sound {unary : Reader} {bound : Nat} (hunary : Sound unary .unary bound) :
    Sound (readExpression unary) .expression bound := by
  intro s c rest hs h
  unfold readExpression at h
  cases hread : readJoined "or".toList .or (readJoined "and".toList .and unary) (skipSpace s) with
  | stopped _ _ => rw [hread] at h; cases h
  | read c' s₂ =>
    rw [hread] at h
    cases h
    have hand : Sound (readJoined Connective.and.token.toList .and unary) (.chain .and) bound :=
      readJoined_sound hunary
    have hor : Sound (readJoined Connective.or.token.toList .or
        (readJoined Connective.and.token.toList .and unary)) (.chain .or) bound :=
      readJoined_sound hand
    have := length_skipSpace_le s
    exact .expression (blanks_skipSpace s) (hor _ _ _ (by omega) hread) (blanks_skipSpace s₂)

/-- **What is read as a unary condition is derived.**  A comparison is read only where no negation
is, so its text is not shadowed. -/
theorem readUnary_sound (depth : Nat) : Sound (readUnary depth) .unary depth := by
  induction depth with
  | zero => exact fun _ _ _ hs => absurd hs (Nat.not_lt_zero _)
  | succ depth ih =>
    intro s c rest hs h
    rcases readUnary_eq_read_iff.mp h with h | ⟨hnegation, h | ⟨-, h⟩⟩
    · obtain ⟨s₁, inner, hword, hread, rfl⟩ := readNegation_eq_some_iff.mp h
      have := hword.length_lt (by decide)
      have := length_skipSpace_le s₁
      exact .negation hword (blanks_skipSpace s₁) (ih _ _ _ (by omega) hread)
    · obtain ⟨s₁, s₂, inner, rfl, hread, hclose, rfl⟩ := readGroup_eq_some_iff.mp h
      rw [List.length_cons] at hs
      have := length_skipSpace_le s₁
      exact .group (blanks_skipSpace s₁) (readExpression_sound ih _ _ _ (by omega) hread)
        (hclose ▸ blanks_skipSpace s₂)
    · have hcomparison := readOperand_eq_read_iff.mp h
      refine .comparison ⟨hcomparison.imp fun _ _ => trivial, ?_⟩
      rintro ⟨s₁, s₂, hword, hblanks, c', rest', hother⟩
      have hlt := hword.length_lt (by decide)
      cases depth with
      | zero => omega
      | succ depth =>
        obtain ⟨inner, after, hread⟩ :=
          exists_readUnary_of_readOperand depth (readOperand_eq_read_iff.mpr hother)
        have hsome := readNegation_eq_some_iff.mpr ⟨s₁, inner, hword,
          (hblanks.skipSpace_eq_rest hother.stops_isSpace).symm ▸ hread, rfl⟩
        rw [hnegation] at hsome
        cases hsome

/-! ## 4. What may follow -/

/-- The character could continue a literal. -/
def continues (c : Char) : Bool := c.isDigit || c == '.' || c == '\''

/-- Nothing continues the literal of a comparison that comes before the rest. -/
def Follow (rest : List Char) : Prop := Stops continues rest

theorem continues_eq_false {c : Char} (h : c.isAlpha = true ∨ isSpace c = true ∨ c = ')') :
    continues c = false := by
  cases hcontinues : continues c with
  | false => rfl
  | true =>
    simp only [continues, Bool.or_eq_true, beq_iff_eq] at hcontinues
    rcases hcontinues with (hdigit | rfl) | rfl
    · rcases h with h | h | rfl
      · rw [isDigit_of_isAlpha h] at hdigit
        cases hdigit
      · rw [isSpace_eq_false (.inl hdigit)] at h
        cases h
      · cases hdigit
    all_goals revert h; decide

theorem Follow.endsBefore {rest : List Char} (h : Follow rest) (value : Literal) :
    EndsBefore value rest := by
  have hdigit : Stops Char.isDigit rest := h.imp fun c hc => by rw [continues, hc]; rfl
  cases value with
  | string content => exact h.imp fun c hc => by rw [continues, hc, Bool.or_true]
  | double x => exact hdigit
  | int n =>
    refine ⟨hdigit, ?_⟩
    rintro after rfl
    cases stops_cons.mp h
  | _ => trivial

theorem Blanks.follow {s rest : List Char} (h : Blanks s rest) (hrest : Follow rest) :
    Follow s := by
  obtain ⟨blanks, hblanks, rfl⟩ := h
  cases blanks with
  | nil => exact hrest
  | cons c blanks =>
    exact stops_cons.mpr (continues_eq_false (.inr (.inl (hblanks c List.mem_cons_self))))

/-- The word of a connective does not come next. -/
def NoWord (connective : Connective) (rest : List Char) : Prop :=
  readKeyword connective.token.toList (skipSpace rest) = none

/-- The rest closes an expression: there is nothing more than blanks, or a parenthesis after
them. -/
def Closes (rest : List Char) : Prop :=
  skipSpace rest = [] ∨ ∃ after, skipSpace rest = ')' :: after

/-- What may follow a condition of the category. -/
def Ends : Category → List Char → Prop
  | .unary, rest => Follow rest
  | .chain .and, rest => Follow rest ∧ NoWord .and rest
  | .chain .or, rest => (Follow rest ∧ NoWord .and rest) ∧ NoWord .or rest
  | .expression, rest => Closes rest

/-- A connective begins with its first letter. -/
theorem Keyword.exists_cons {connective : Connective} {s rest : List Char}
    (h : Keyword connective.token.toList s rest) :
    ∃ c after, s = c :: after ∧ c.isAlpha = true ∧
      connective.token.toList.head? = some c.toLower := by
  obtain ⟨text, d, after, heq, -, rfl, rfl⟩ := h
  cases connective with
  | and =>
    obtain ⟨c, others, rfl, hc⟩ := exists_cons_of_equalIgnoringCase (w := 'a') heq
    exact ⟨c, _, rfl, isAlpha_of_toLower (hc ▸ rfl), hc ▸ rfl⟩
  | or =>
    obtain ⟨c, others, rfl, hc⟩ := exists_cons_of_equalIgnoringCase (w := 'o') heq
    exact ⟨c, _, rfl, isAlpha_of_toLower (hc ▸ rfl), hc ▸ rfl⟩

/-- No word comes next if something else than a letter does. -/
theorem noWord_of_stops {connective : Connective} {rest : List Char}
    (h : Stops Char.isAlpha (skipSpace rest)) : NoWord connective rest := by
  refine Option.eq_none_iff_forall_ne_some.mpr fun after hword => ?_
  obtain ⟨c, others, heq, hc, -⟩ := (readKeyword_eq_some_iff.mp hword).exists_cons
  rw [heq, stops_cons, hc] at h
  cases h

/-- The word of a connective may follow its items. -/
theorem ends_item_of_keyword {connective : Connective} {s s₁ s₂ : List Char}
    (hblanks : Blanks s s₁) (hword : Keyword connective.token.toList s₁ s₂) :
    skipSpace s = s₁ ∧ Ends (.item connective) s := by
  obtain ⟨c, after, hcons, hc, hhead⟩ := hword.exists_cons
  have hskip : skipSpace s = s₁ :=
    hblanks.skipSpace_eq_rest (hcons ▸ stops_cons.mpr (isSpace_eq_false (.inr hc)))
  have hfollow : Follow s :=
    hblanks.follow (hcons ▸ stops_cons.mpr (continues_eq_false (.inl hc)))
  refine ⟨hskip, ?_⟩
  cases connective with
  | and => exact hfollow
  | or =>
    -- No text begins with both words.
    refine ⟨hfollow, Option.eq_none_iff_forall_ne_some.mpr fun rest hand => ?_⟩
    rw [hskip] at hand
    obtain ⟨d, _, heq, -, hother⟩ := (readKeyword_eq_some_iff.mp hand).exists_cons
    rw [(List.cons.inj (hcons.symm.trans heq)).1, ← hother] at hhead
    revert hhead
    decide

theorem Closes.ends {rest : List Char} (h : Closes rest) : Ends (.chain .or) rest := by
  have hstops : Follow (skipSpace rest) ∧ Stops Char.isAlpha (skipSpace rest) := by
    rcases h with h | ⟨after, h⟩
    · exact h ▸ ⟨stops_nil _, stops_nil _⟩
    · exact h ▸ ⟨stops_cons.mpr rfl, stops_cons.mpr rfl⟩
  exact ⟨⟨(blanks_skipSpace rest).follow hstops.1, noWord_of_stops hstops.2⟩,
    noWord_of_stops hstops.2⟩

/-! ## 5. Chains -/

/-- Reading the chain passes through the condition, with fuel for the rest. -/
def Passes (connective : Connective) (item : Reader) (s : List Char) (c : Condition)
    (rest : List Char) : Prop :=
  ∃ first s₀, item s = .read first s₀ ∧ ∀ fuel, s₀.length ≤ fuel →
    ∃ fuel', rest.length ≤ fuel' ∧
      readChain connective.token.toList connective item fuel first s₀ =
        readChain connective.token.toList connective item fuel' c rest

theorem Passes.single {connective : Connective} {item : Reader} {s rest : List Char}
    {c : Condition} (h : item s = .read c rest) : Passes connective item s c rest :=
  ⟨c, rest, h, fun fuel hfuel => ⟨fuel, hfuel, rfl⟩⟩

theorem Passes.joined {connective : Connective} {item : Reader} {s s₁ s₂ rest : List Char}
    {left right : Condition} (h : Passes connective item s left s₁)
    (hword : readKeyword connective.token.toList (skipSpace s₁) = some s₂)
    (hread : item (skipSpace s₂) = .read right rest) (hlt : rest.length < s₁.length) :
    Passes connective item s (.logic connective left right) rest := by
  obtain ⟨first, s₀, hfirst, hpass⟩ := h
  refine ⟨first, s₀, hfirst, fun fuel hfuel => ?_⟩
  obtain ⟨fuel', hfuel', heq⟩ := hpass fuel hfuel
  cases fuel' with
  | zero => omega
  | succ fuel' =>
    refine ⟨fuel', by omega, heq.trans ?_⟩
    rw [readChain, hword]
    dsimp only
    rw [hread]

theorem Passes.readJoined_eq {connective : Connective} {item : Reader} {s rest : List Char}
    {c : Condition} (h : Passes connective item s c rest) (hend : NoWord connective rest) :
    readJoined connective.token.toList connective item s = .read c rest := by
  obtain ⟨first, s₀, hfirst, hpass⟩ := h
  obtain ⟨fuel, -, heq⟩ := hpass s₀.length (Nat.le_refl _)
  have hstop : readChain connective.token.toList connective item fuel c rest = (c, rest) := by
    cases fuel with
    | zero => rfl
    | succ fuel =>
      rw [readChain, hend]
  rw [readJoined, hfirst]
  dsimp only
  rw [heq, hstop]

/-! ## 6. What is derived is read -/

/-- The readers read the condition, whatever the depth, if it is followed by what may follow. -/
def Completes : Category → List Char → Condition → List Char → Prop
  | .unary, s, c, rest =>
    Ends .unary rest → ∀ depth, s.length < depth → readUnary depth s = .read c rest
  | .chain connective, s, c, rest =>
    Ends (.item connective) rest → ∀ depth, s.length < depth →
      Passes connective (itemReader (readUnary depth) connective) s c rest
  | .expression, s, c, rest =>
    Ends .expression rest → ∀ depth, s.length < depth →
      readExpression (readUnary depth) s = .read c (skipSpace rest)

theorem Completes.item {connective : Connective} {s rest : List Char} {c : Condition}
    (h : Completes (.item connective) s c rest) (hends : Ends (.item connective) rest)
    {depth : Nat} (hdepth : s.length < depth) :
    itemReader (readUnary depth) connective s = .read c rest := by
  cases connective with
  | and => exact h hends depth hdepth
  | or => exact (h hends.1 depth hdepth).readJoined_eq hends.2

/-- After the word `not` of a comparison comes its operator. -/
theorem Comparison.exists_token {ends : Literal → List Char → Prop} {s s₁ rest : List Char}
    {c : Condition} (h : Comparison ends s c rest) (hword : Keyword "not".toList s s₁) :
    ∃ op s₂, Token (skipSpace s₁) op s₂ := by
  have hfield {p₁ p₂ p₃ : List Char} {path : String} {op : Operator} (hpath : Path s path p₁)
      (hblanks : Blanks p₁ p₂) (hsome : p₁ ≠ p₂) (htoken : Token p₂ op p₃) :
      Token (skipSpace s₁) op p₃ := by
    obtain ⟨d, ds, hd, hds, -, rfl⟩ := hpath
    obtain ⟨text, k, after, heq, hk, rfl, htext⟩ := hword
    have hletters := isAlpha_of_equalIgnoringCase heq (by decide)
    have hpath : ∀ e ∈ d :: ds, inPath e = true :=
      List.forall_mem_cons.mpr ⟨inPath_of_startsPath hd, hds⟩
    obtain ⟨-, hrest⟩ := (hblanks.stops_inPath hsome).append_inj
      (stops_cons.mpr (inPath_of_endsKeyword hk)) hpath
      (fun e he => inPath_of_startsPath (by rw [startsPath, hletters e he]; rfl)) htext
    rw [← hrest, hblanks.skipSpace_eq_rest htoken.stops_isSpace]
    exact htoken
  cases h with
  | present hpath hblanks hsome htoken => exact ⟨_, _, hfield hpath hblanks hsome htoken⟩
  | operand hpath hblanks hsome htoken => exact ⟨_, _, hfield hpath hblanks hsome htoken⟩

/-- The word `not` is no operator. -/
theorem Token.not_keyword {s rest : List Char} {op : Operator} (h : Token s op rest)
    (after : List Char) : ¬ Keyword "not".toList s after := by
  rintro ⟨text, c, others, heq, hc, rfl, hs⟩
  obtain ⟨letters, hletters, hstops, hop, rfl⟩ := h
  obtain ⟨rfl, -⟩ := hstops.append_inj (stops_cons.mpr (isAlpha_of_endsKeyword hc)) hletters
    (isAlpha_of_equalIgnoringCase heq (by decide)) hs
  have htoken := List.find?_some hop
  rw [String.toList_ofList] at htoken
  have hsame : op.token.toList.map Char.toLower = "not".toList.map Char.toLower :=
    (eq_of_beq htoken).trans (eq_of_beq heq).symm
  revert hsame
  cases op <;> decide

/-- A comparison is read where its text is not shadowed: after the word `not` there is an operator,
and with it neither a negation nor a group. -/
theorem Plain.readUnary_eq {s rest : List Char} {c : Condition} (h : Plain s c rest)
    (hfollow : Follow rest) (depth : Nat) : readUnary (depth + 1) s = .read c rest := by
  obtain ⟨hcomparison, hshadow⟩ := h
  have hread : readOperand s = .read c rest :=
    readOperand_eq_read_iff.mpr (hcomparison.imp fun value _ => hfollow.endsBefore value)
  refine readUnary_eq_read_iff.mpr (.inr ⟨?_, .inr ⟨?_, hread⟩⟩)
  · refine Option.eq_none_iff_forall_ne_some.mpr fun found hnegation => ?_
    obtain ⟨s₁, inner, hword, hinner, -⟩ := readNegation_eq_some_iff.mp hnegation
    obtain ⟨op, s₂, htoken⟩ := hcomparison.exists_token hword
    cases depth with
    | zero => cases hinner
    | succ depth =>
      rcases readUnary_eq_read_iff.mp hinner with hinner | ⟨-, hinner | ⟨-, hinner⟩⟩
      · obtain ⟨s₃, _, hagain, -⟩ := readNegation_eq_some_iff.mp hinner
        exact htoken.not_keyword s₃ hagain
      · obtain ⟨_, _, _, hparen, -⟩ := readGroup_eq_some_iff.mp hinner
        obtain ⟨d, after, hcons, hd⟩ := htoken.exists_cons
        rw [(List.cons.inj (hcons.symm.trans hparen)).1] at hd
        cases hd
      · exact hshadow ⟨s₁, skipSpace s₁, hword, blanks_skipSpace s₁, _, _,
          readOperand_eq_read_iff.mp hinner⟩
  · obtain ⟨d, after, rfl, hd⟩ := hcomparison.exists_cons
    exact readGroup_eq_none hd

theorem readExpression_congr (unary : Reader) {s t : List Char} (h : skipSpace s = skipSpace t) :
    readExpression unary s = readExpression unary t := by
  rw [readExpression, readExpression, h]

/-- **What is derived is read.** -/
theorem Derives.completes {category : Category} {s rest : List Char} {c : Condition}
    (h : Derives Plain category s c rest) : Completes category s c rest := by
  induction h with
  | comparison h =>
    intro hends depth hdepth
    cases depth with
    | zero => omega
    | succ depth => exact h.readUnary_eq hends depth
  | @negation s s₁ s₂ rest inner hword hblanks h ih =>
    intro hends depth hdepth
    have := hword.length_lt (by decide)
    have := hblanks.length_le
    cases depth with
    | zero => omega
    | succ depth =>
      refine readUnary_eq_read_iff.mpr (.inl (readNegation_eq_some_iff.mpr
        ⟨s₁, inner, hword, ?_, rfl⟩))
      rw [hblanks.skipSpace_eq_rest (h.stops_isSpace (by rintro ⟨⟩))]
      exact ih hends depth (by omega)
  | @group s s₁ s₂ rest inner hblanks h hclose ih =>
    intro _ depth hdepth
    have := hblanks.length_le
    rw [List.length_cons] at hdepth
    have hskip : skipSpace s₂ = ')' :: rest := hclose.skipSpace_eq_rest (stops_cons.mpr rfl)
    cases depth with
    | zero => omega
    | succ depth =>
      refine readUnary_eq_read_iff.mpr (.inr ⟨readNegation_paren _ s, .inl
        (readGroup_eq_some_iff.mpr ⟨s, skipSpace s₂, inner, rfl, ?_, ?_, rfl⟩)⟩)
      · rw [readExpression_congr _ ((skipSpace_skipSpace s).trans hblanks.skipSpace_eq)]
        exact ih (.inr ⟨rest, hskip⟩) depth (by omega)
      · rw [skipSpace_skipSpace, hskip]
  | single connective h ih =>
    intro hends depth hdepth
    exact .single (ih.item hends hdepth)
  | @joined connective s s₁ s₂ s₃ s₄ rest left right hleft hblanks hword hright h ih ih' =>
    intro hends depth hdepth
    obtain ⟨hskip, hitem⟩ := ends_item_of_keyword hblanks hword
    have := hleft.length_lt
    have := hblanks.length_le
    have := hword.length_lt (by cases connective <;> decide)
    have := hright.length_le
    have := h.length_lt
    refine (ih hitem depth hdepth).joined (hskip ▸ readKeyword_eq_some_iff.mpr hword) ?_ (by omega)
    rw [hright.skipSpace_eq_rest (h.stops_isSpace (by cases connective <;> rintro ⟨⟩))]
    exact ih'.item hends (by omega)
  | @expression s s₁ s₂ rest c hbefore h hafter ih =>
    intro hends depth hdepth
    have := hbefore.length_le
    have hcloses : Ends (.chain .or) s₂ := Closes.ends (by
      unfold Closes
      rw [hafter.skipSpace_eq]
      exact hends)
    have hread : readJoined "or".toList .or (readJoined "and".toList .and (readUnary depth)) s₁ =
        .read c s₂ := (ih hcloses.1 depth (by omega)).readJoined_eq hcloses.2
    rw [readExpression, hbefore.skipSpace_eq_rest (h.stops_isSpace (by rintro ⟨⟩)), hread]
    dsimp only
    rw [hafter.skipSpace_eq]

/-! ## 7. Whole filters -/

theorem readAll_eq_read_iff {s : List Char} {c : Condition} :
    (∃ rest, readAll s = .read c rest) ↔ Derives Plain .expression s c [] := by
  constructor
  · rintro ⟨rest, h⟩
    unfold readAll at h
    split at h
    · rename_i hread
      cases h
      exact readExpression_sound (readUnary_sound _) _ _ _ (Nat.lt_succ_self _) hread
    · cases h
    · cases h
  · intro h
    have hread : readExpression (readUnary (s.length + 1)) s = .read c [] :=
      h.completes (.inl rfl) _ (Nat.lt_succ_self _)
    exact ⟨[], by rw [readAll, hread]⟩

/-- A condition that is derived has a query, for its paths are not empty. -/
theorem Derives.exists_compile {comparison : List Char → Condition → List Char → Prop}
    (hcomparison : ∀ s c rest, comparison s c rest → ∃ query, c.compile = .ok query)
    {category : Category} {s rest : List Char} {c : Condition}
    (h : Derives comparison category s c rest) : ∃ query, c.compile = .ok query := by
  induction h with
  | comparison h => exact hcomparison _ _ _ h
  | negation _ _ _ ih =>
    obtain ⟨query, hquery⟩ := ih
    exact ⟨_, by rw [Condition.compile, hquery]; rfl⟩
  | group _ _ _ ih => exact ih
  | single _ _ ih => exact ih
  | joined connective _ _ _ _ _ ih ih' =>
    obtain ⟨left, hleft⟩ := ih
    obtain ⟨right, hright⟩ := ih'
    exact ⟨_, by rw [Condition.compile, hleft, hright]; rfl⟩
  | expression _ _ _ ih => exact ih

theorem Comparison.exists_compile {ends : Literal → List Char → Prop} {s rest : List Char}
    {c : Condition} (h : Comparison ends s c rest) : ∃ query, c.compile = .ok query := by
  have hfield {after : List Char} {path : String} (hpath : Path s path after) (op : Operator)
      (value : Literal) : ∃ query, (Condition.operand path op value).compile = .ok query := by
    obtain ⟨d, ds, -, -, rfl, -⟩ := hpath
    refine ⟨_, if_neg fun hempty => ?_⟩
    have := congrArg String.toList hempty
    rw [String.toList_ofList] at this
    cases this
  cases h with
  | present hpath => exact hfield hpath _ _
  | operand hpath => exact hfield hpath _ _

/-- A filter is read exactly if the grammar derives all of it. -/
theorem parseFilter_eq_ok_iff {filter : String} {c : Condition} :
    parseFilter filter = .ok c ↔ Derives Plain .expression filter.toList c [] := by
  rw [← readAll_eq_read_iff]
  unfold parseFilter
  generalize readAll filter.toList = outcome
  cases outcome with
  | read c' rest =>
    rw [Except.ok.injEq]
    exact ⟨fun h => ⟨rest, by rw [h]⟩, fun ⟨_, h⟩ => (Outcome.read.inj h).1⟩
  | stopped rest cause => exact iff_of_false (by rintro ⟨⟩) (by rintro ⟨_, ⟨⟩⟩)

end Filter

/-- **Filters are read as the grammar says.**  A filter is read exactly if the grammar derives it,
and as the condition that is derived; there is at most one; and it has a query. -/
theorem parseFilter_iff_derives (filter : String) :
    (∀ c, parseFilter filter = .ok c ↔
      Filter.Derives Filter.Plain .expression filter.toList c []) ∧
    (∀ c c', Filter.Derives Filter.Plain .expression filter.toList c [] →
      Filter.Derives Filter.Plain .expression filter.toList c' [] → c = c') ∧
    ∀ c, Filter.Derives Filter.Plain .expression filter.toList c [] →
      ∃ query, c.compile = .ok query := by
  have hread (c : Condition) : parseFilter filter = .ok c ↔
      Filter.Derives Filter.Plain .expression filter.toList c [] := Filter.parseFilter_eq_ok_iff
  refine ⟨hread, fun c c' h h' => ?_, fun c h => ?_⟩
  · exact Except.ok.inj (((hread c).mpr h).symm.trans ((hread c').mpr h'))
  · exact h.exists_compile fun _ _ _ hplain => hplain.1.exists_compile

namespace Filter.Example

/-- A chain with a negation and a group in it, and a quote inside a string. -/
def nested : String := "not (name sw 'O''H' OR age ge -3) and not eq 1"

def nestedCondition : Condition :=
  .logic .and
    (.not (.group
      (.logic .or (.operand "name" .sw (.string "O'H")) (.operand "age" .ge (.int (-3))))))
    (.operand "not" .eq (.int 1))

theorem derives_nested :
    parseFilter nested = .ok nestedCondition ∧
      Derives Plain .expression nested.toList nestedCondition [] ∧
      (∀ c, Derives Plain .expression nested.toList c [] → c = nestedCondition) ∧
      ∃ query, nestedCondition.compile = .ok query := by
  have hparse : parseFilter nested = .ok nestedCondition := by decide +kernel
  obtain ⟨hread, hunique, hcompile⟩ := parseFilter_iff_derives nested
  have hderives := (hread nestedCondition).mp hparse
  exact ⟨hparse, hderives, fun c h => hunique c _ h hderives, hcompile _ hderives⟩

/-- Two comparisons, the first with the field `not`; or a negation, and something left over. -/
def shadowed : String := "not eq1or pr pr"

theorem shadowed_not_read :
    Derives (Comparison Anywhere) .expression shadowed.toList
      (.logic .or (.operand "not" .eq (.int 1)) (.present "pr")) [] ∧
    ∀ c, parseFilter shadowed ≠ .ok c := by
  have hnone (s : List Char) : Blanks s s := ⟨[], List.forall_mem_nil _, rfl⟩
  have hone (s : List Char) : Blanks (' ' :: s) s := ⟨[' '], List.all_eq_true.mp rfl, rfl⟩
  have hnot : Comparison Anywhere shadowed.toList (.operand "not" .eq (.int 1))
      ['o', 'r', ' ', 'p', 'r', ' ', 'p', 'r'] := by
    have hpath : Path shadowed.toList "not"
        [' ', 'e', 'q', '1', 'o', 'r', ' ', 'p', 'r', ' ', 'p', 'r'] :=
      ⟨'n', ['o', 't'], rfl, List.all_eq_true.mp rfl, by decide, by decide⟩
    have htoken : Token ['e', 'q', '1', 'o', 'r', ' ', 'p', 'r', ' ', 'p', 'r'] .eq
        ['1', 'o', 'r', ' ', 'p', 'r', ' ', 'p', 'r'] :=
      ⟨['e', 'q'], List.all_eq_true.mp rfl, stops_cons.mpr rfl, by decide, rfl⟩
    have hvalue : Writes (.int 1) ['1'] :=
      .integer .none (show Numeral ['1'] from ⟨by decide, List.all_eq_true.mp rfl⟩) (by decide)
        (by decide)
    exact .operand hpath (hone _) (by decide) htoken (by decide) (hnone _) hvalue trivial
  have hpr : Comparison Anywhere ['p', 'r', ' ', 'p', 'r'] (.present "pr") [] := by
    have hpath : Path ['p', 'r', ' ', 'p', 'r'] "pr" [' ', 'p', 'r'] :=
      ⟨'p', ['r'], rfl, List.all_eq_true.mp rfl, by decide, rfl⟩
    have htoken : Token ['p', 'r'] .pr [] :=
      ⟨['p', 'r'], List.all_eq_true.mp rfl, stops_nil _, by decide, rfl⟩
    exact .present hpath (hone _) (by decide) htoken
  have hor : Keyword Connective.or.token.toList ['o', 'r', ' ', 'p', 'r', ' ', 'p', 'r']
      [' ', 'p', 'r', ' ', 'p', 'r'] :=
    ⟨['o', 'r'], ' ', ['p', 'r', ' ', 'p', 'r'], by decide, by decide, rfl, rfl⟩
  refine ⟨?_, fun c h => ?_⟩
  · have hleft : Derives (Comparison Anywhere) (.chain .or) shadowed.toList _ _ :=
      .single .or (.single .and (.comparison hnot))
    have hright : Derives (Comparison Anywhere) (.chain .and) ['p', 'r', ' ', 'p', 'r'] _ _ :=
      .single .and (.comparison hpr)
    exact .expression (hnone _) (.joined .or hleft (hnone _) hor (hone _) hright) (hnone _)
  · have hstopped : parseFilter shadowed = .error (.stoppedAt shadowed 13 none) := by
      decide +kernel
    rw [hstopped] at h
    cases h

end Filter.Example

end Dossier
