import SfcBundler.Proofs.Json.Literal
import SfcBundler.Scan.Imports
import SfcBundler.Text.Cut

/-!
# Scanning a script line by line

A line of a script is read on its own: a line without comments hides nothing of the next, and a
statement that starts in a line ends in it. What a scan finds in a script that is written line by
line is then what it finds in its lines, one after the other.

## Main definitions

* `Scan.Reads`: a piece of a script has no comments and given imports, whatever follows it
* `Scan.IsSilent`: a line in which no statement starts

## Main results

* `Scan.Reads.append`: two pieces give the imports of both
* `Scan.reads_statement`, `Scan.reads_of_isSilent`: a line that is a statement, and a silent one
* `Scan.Reads.specifiers_eq`: what the scan of a whole script finds
-/

namespace SfcBundler.Scan

/-! ### Comments -/

/-- A text that neither opens a literal nor has a slash in it. -/
def isBareCode (text : List Char) : Bool := text.all fun c => !opensLiteral c && c != '/'

theorem blankFrom_bareCode {text : List Char} (h : isBareCode text) (rest : List Char) :
    blankFrom true .code (text ++ rest) = text ++ blankFrom true .code rest := by
  induction text with
  | nil => rfl
  | cons c text ih =>
    simp only [isBareCode, List.all_cons, Bool.and_eq_true, Bool.not_eq_eq_eq_not, Bool.not_true,
      bne_iff_ne] at h
    obtain ⟨⟨hopens, hslash⟩, htext⟩ := h
    simp [blankFrom, Region.step, hopens, hslash, ih htext]

/-- Inside quotes characters are copied that neither close the literal nor escape the next one. -/
theorem blankFrom_inside {quote : Char} {text : List Char}
    (h : ∀ c ∈ text, c ≠ quote ∧ c ≠ '\\' ∧ c ≠ '\n') (rest : List Char) :
    blankFrom true (.literal quote) (text ++ rest) =
      text ++ blankFrom true (.literal quote) rest := by
  induction text with
  | nil => rfl
  | cons c text ih =>
    obtain ⟨⟨hquote, hback, hline⟩, htext⟩ := List.forall_mem_cons.1 h
    simp [blankFrom, Region.step, hquote, hback, hline, ih htext]

/-- So are plain characters inside double quotes. -/
theorem blankFrom_plain {text : List Char} (h : Json.IsPlain text) (rest : List Char) :
    blankFrom true (.literal '\x22') (text ++ rest) =
      text ++ blankFrom true (.literal '\x22') rest := by
  refine blankFrom_inside (fun c hc => ?_) rest
  -- a line end would close the literal, but it is a control
  obtain ⟨hquote, -, hback, hcontrol⟩ := h c hc
  refine ⟨hquote, hback, ?_⟩
  rintro rfl
  exact absurd hcontrol (by decide)

/-- So is a backslash with whatever it escapes, and plain characters behind that. -/
theorem blankFrom_escape (c : Char) {tail : List Char} (h : Json.IsPlain tail) (rest : List Char) :
    blankFrom true (.literal '\x22') ('\\' :: c :: tail ++ rest) =
      '\\' :: c :: tail ++ blankFrom true (.literal '\x22') rest := by
  have hescape : blankFrom true (.literal '\x22') ('\\' :: c :: (tail ++ rest)) =
      '\\' :: c :: blankFrom true (.literal '\x22') (tail ++ rest) := rfl
  rw [List.cons_append, List.cons_append, hescape, blankFrom_plain h]
  rfl

/-- Inside double quotes a mild text is copied as it is printed, and its closing quote ends the
literal. -/
theorem blankFrom_literal {text : List Char} (h : Json.IsMild text) (rest : List Char) :
    blankFrom true (.literal '\x22') (Json.inner text ++ '\x22' :: rest) =
      Json.inner text ++ '\x22' :: blankFrom true .code rest := by
  induction text with
  | nil => simp [blankFrom, Region.step]
  | cons c text ih =>
    rw [Json.inner_cons, List.append_assoc, List.append_assoc]
    rcases h.escape_cases with ⟨hself, hdouble, hshown⟩ | ⟨-, hself⟩ | ⟨d, tail, hself, hplain, -⟩
    · have hc : Json.IsPlain [c] := fun d hd => by
        obtain rfl := List.mem_singleton.1 hd
        obtain ⟨hsingle, hback⟩ := h d List.mem_cons_self
        exact ⟨hdouble, hsingle, hback, hshown⟩
      rw [hself, blankFrom_plain hc, ih h.of_cons]
    · have hnil : Json.IsPlain [] := fun _ hd => absurd hd List.not_mem_nil
      have hquote := blankFrom_escape '\x22' hnil (Json.inner text ++ '\x22' :: rest)
      rw [hself, hquote, ih h.of_cons]
    · have htail : Json.IsPlain tail := fun e he => hplain e (List.mem_cons_of_mem d he)
      rw [hself, blankFrom_escape d htail, ih h.of_cons]

/-- A mild literal between bare code is copied whole. -/
theorem blankFrom_quote {front literal back : List Char} (hfront : isBareCode front)
    (hliteral : Json.IsMild literal) (hback : isBareCode back) (rest : List Char) :
    blankFrom true .code (front ++ Json.quote literal ++ back ++ rest) =
      front ++ Json.quote literal ++ back ++ blankFrom true .code rest := by
  have hopen :
      blankFrom true .code ('\x22' :: (Json.inner literal ++ '\x22' :: (back ++ rest))) =
        '\x22' :: blankFrom true (.literal '\x22')
          (Json.inner literal ++ '\x22' :: (back ++ rest)) := rfl
  simp only [Json.quote_eq_inner, List.append_assoc, List.cons_append, List.nil_append]
  rw [blankFrom_bareCode hfront, hopen, blankFrom_literal hliteral, blankFrom_bareCode hback]

/-! ### Statements -/

/-- Whether a text begins like a keyword of a statement. -/
def beginsKeyword : List Char → Bool
  | c :: d :: _ => (c == 'i' && d == 'm') || (c == 'e' && d == 'x')
  | _ => false

theorem afterKeyword?_eq_some_iff {text rest : List Char} : afterKeyword? text = some rest ↔
    ∃ keyword, (keyword = "import".toList ∨ keyword = "export".toList) ∧
      text = keyword ++ rest := by
  constructor
  · intro h
    unfold afterKeyword? at h
    split at h
    · rename_i hfound
      cases h
      exact ⟨_, .inl rfl, Text.isPrefixOf?_eq_some.1 hfound⟩
    · exact ⟨_, .inr rfl, Text.isPrefixOf?_eq_some.1 h⟩
  · rintro ⟨keyword, rfl | rfl, rfl⟩ <;> rfl

/-- A keyword is six letters, none of them a quote or a backslash, and its first two show at the
start. -/
theorem eq_append_of_afterKeyword? {text rest : List Char} (h : afterKeyword? text = some rest) :
    ∃ keyword : List Char, text = keyword ++ rest ∧ keyword.length = 6 ∧
      (∀ c ∈ keyword, isQuote c = false ∧ c ≠ '\\') ∧
      ∀ back, beginsKeyword (keyword ++ back) := by
  obtain ⟨keyword, rfl | rfl, rfl⟩ := afterKeyword?_eq_some_iff.1 h
  · exact ⟨_, rfl, rfl, by simp [isQuote], fun _ => rfl⟩
  · exact ⟨_, rfl, rfl, by simp [isQuote], fun _ => rfl⟩

/-- A keyword holds no quote, so one that starts in front of a quote ends there. -/
theorem exists_of_afterKeyword? {front back rest : List Char} {quote : Char}
    (hquote : isQuote quote) (h : afterKeyword? (front ++ quote :: back) = some rest) :
    ∃ keyword middle : List Char, front = keyword ++ middle ∧ rest = middle ++ quote :: back ∧
      keyword ≠ [] ∧ '\\' ∉ keyword := by
  obtain ⟨keyword, hsplit, hlength, hnoQuote, -⟩ := eq_append_of_afterKeyword? h
  have hne : keyword ≠ [] := List.ne_nil_of_length_pos (by omega)
  have hback : '\\' ∉ keyword := fun hmem => (hnoQuote _ hmem).2 rfl
  rcases List.append_eq_append_iff.1 hsplit with ⟨extra, rfl, hextra⟩ | ⟨middle, rfl, rfl⟩
  · cases extra with
    | nil => exact ⟨front, [], by simp, by simpa using hextra.symm, by simpa using hne,
        by simpa using hback⟩
    | cons c extra =>
      obtain ⟨rfl, -⟩ := List.cons_eq_cons.1 hextra
      exact absurd (hnoQuote quote (by simp)).1 (by simp [hquote])
  · exact ⟨keyword, middle, rfl, rfl, hne, hback⟩

theorem keywordAt?_eq_none {text : List Char} (h : beginsKeyword text = false) :
    keywordAt? text = none := by
  cases hkeyword : afterKeyword? text with
  | none => simp [keywordAt?, hkeyword]
  | some rest =>
    obtain ⟨keyword, rfl, -, -, hbegins⟩ := eq_append_of_afterKeyword? hkeyword
    simp [hbegins] at h

/-- A quote is no part of a clause. -/
theorem isClause_eq_false_of_isQuote {c : Char} (h : isQuote c) : isClause c = false := by
  simp only [isQuote, Bool.or_eq_true, beq_iff_eq] at h
  rcases h with rfl | rfl <;> decide

/-- A specifier between quotes is read whole. -/
theorem quoted?_quote {opening closing : Char} {specifier : List Char} (hopening : isQuote opening)
    (hclosing : isQuote closing) (hne : specifier ≠ [])
    (hinside : ∀ c ∈ specifier, isQuote c = false ∧ c ≠ '\n') (after : List Char) :
    quoted? (opening :: (specifier ++ closing :: after)) = some (specifier, after) := by
  have hinside : ∀ c ∈ specifier, (!isQuote c && c != '\n') = true := by
    intro c hc
    obtain ⟨hnoQuote, hline⟩ := hinside c hc
    simp [hnoQuote, hline]
  obtain ⟨c, tail, rfl⟩ := List.exists_cons_of_ne_nil hne
  have htake : ((c :: tail) ++ closing :: after).takeWhile (fun d => !isQuote d && d != '\n') =
      c :: tail := by
    -- the specifier ends at the first quote, and there is none inside of it
    rw [List.takeWhile_append_of_pos hinside, List.takeWhile_cons_of_neg (by simp [hclosing])]
    simp
  have hdrop : ((c :: tail) ++ closing :: after).dropWhile (fun d => !isQuote d && d != '\n') =
      closing :: after := by
    rw [List.dropWhile_append_of_pos hinside, List.dropWhile_cons_of_neg (by simp [hclosing])]
  simp only [quoted?]
  rw [if_pos hopening, htake, hdrop]
  exact if_pos hclosing

/-- A specifier stands between two quotes, with at least one character and neither quotes nor line
ends. -/
theorem quoted?_eq_some_iff {text specifier after : List Char} :
    quoted? text = some (specifier, after) ↔ ∃ opening closing,
      text = opening :: (specifier ++ closing :: after) ∧ isQuote opening ∧ isQuote closing ∧
        specifier ≠ [] ∧ ∀ c ∈ specifier, isQuote c = false ∧ c ≠ '\n' := by
  constructor
  · intro h
    unfold quoted? at h
    split at h
    · cases h
    rename_i opening rest
    split at h
    · rename_i hopening
      dsimp only at h
      split at h
      · cases h
      · cases h
      · rename_i hdrop hne
        split at h
        · rename_i hclosing
          cases h
          refine ⟨opening, _, ?_, hopening, hclosing, hne, fun c hc => ?_⟩
          · rw [← hdrop, List.takeWhile_append_dropWhile]
          · simpa using List.mem_takeWhile_imp hc
        · cases h
    · cases h
  · rintro ⟨opening, closing, rfl, hopening, hclosing, hne, hinside⟩
    exact quoted?_quote hopening hclosing hne hinside after

/-- A statement is read up to the first quote behind the one that opens its specifier. -/
theorem keywordAt?_statement {keyword clause specifier : List Char} {opening closing : Char}
    (hkeyword : ∀ rest, afterKeyword? (keyword ++ rest) = some rest)
    (hclause : ∀ c ∈ clause, isClause c) (hfrom : isFromClause clause) (hopening : isQuote opening)
    (hclosing : isQuote closing) (hne : specifier ≠ [])
    (hinside : ∀ c ∈ specifier, isQuote c = false ∧ c ≠ '\n') (after : List Char) :
    keywordAt? (keyword ++ clause ++ opening :: (specifier ++ closing :: after)) =
      some (specifier, after) := by
  have hopen : ¬isClause opening := by simp [isClause_eq_false_of_isQuote hopening]
  simp only [keywordAt?, List.append_assoc, hkeyword, Option.bind_eq_bind, Option.bind_some]
  rw [List.takeWhile_append_of_pos hclause, List.takeWhile_cons_of_neg hopen,
    List.dropWhile_append_of_pos hclause, List.dropWhile_cons_of_neg hopen, List.append_nil,
    if_pos hfrom, quoted?_quote hopening hclosing hne hinside]

/-- A statement is a keyword and a specifier between quotes, with a clause between them. -/
theorem keywordAt?_eq_some_iff {text specifier after : List Char} :
    keywordAt? text = some (specifier, after) ↔ ∃ keyword clause opening closing,
      text = keyword ++ clause ++ opening :: (specifier ++ closing :: after) ∧
        (keyword = "import".toList ∨ keyword = "export".toList) ∧ (∀ c ∈ clause, isClause c) ∧
        isFromClause clause ∧ isQuote opening ∧ isQuote closing ∧ specifier ≠ [] ∧
        ∀ c ∈ specifier, isQuote c = false ∧ c ≠ '\n' := by
  constructor
  · intro h
    simp only [keywordAt?, Option.bind_eq_bind, Option.bind_eq_some_iff] at h
    obtain ⟨rest, hkeyword, h⟩ := h
    obtain ⟨keyword, hword, rfl⟩ := afterKeyword?_eq_some_iff.1 hkeyword
    split at h
    · rename_i hfrom
      -- the clause is all that is taken in front of the quotes
      obtain ⟨opening, closing, hdrop, hquoted⟩ := quoted?_eq_some_iff.1 h
      refine ⟨keyword, rest.takeWhile isClause, opening, closing, ?_, hword,
        fun c hc => List.mem_takeWhile_imp hc, hfrom, hquoted⟩
      rw [← hdrop, List.append_assoc, List.takeWhile_append_dropWhile]
    · cases h
  · rintro ⟨keyword, clause, opening, closing, rfl, hword, hclause, hfrom, hopening, hclosing, hne,
      hinside⟩
    have hkeyword (rest : List Char) : afterKeyword? (keyword ++ rest) = some rest :=
      afterKeyword?_eq_some_iff.2 ⟨keyword, hword, rfl⟩
    exact keywordAt?_statement hkeyword hclause hfrom hopening hclosing hne hinside after

/-- What a statement leaves is shorter than the text. -/
theorem length_of_keywordAt? {text specifier after : List Char}
    (h : keywordAt? text = some (specifier, after)) : after.length < text.length := by
  obtain ⟨keyword, clause, opening, closing, rfl, -⟩ := keywordAt?_eq_some_iff.1 h
  simp only [List.length_append, List.length_cons]
  omega

/-! ### Scanning -/

theorem specifiers_of_none {at? : Bool → List Char → Option (List Char × List Char)}
    {lineStart : Bool} {c : Char} {rest : List Char} (h : at? lineStart (c :: rest) = none) :
    specifiers at? lineStart (c :: rest) = specifiers at? (c == '\n') rest := by
  rw [specifiers, h]

theorem specifiers_of_some {at? : Bool → List Char → Option (List Char × List Char)}
    {lineStart : Bool} {text specifier after : List Char}
    (h : at? lineStart text = some (specifier, after)) (hlength : after.length < text.length) :
    specifiers at? lineStart text = specifier :: specifiers at? false after := by
  obtain ⟨c, rest, rfl⟩ : ∃ c rest, text = c :: rest :=
    List.exists_cons_of_ne_nil (List.ne_nil_of_length_pos (by omega))
  rw [specifiers, h]
  exact if_pos hlength

/-- A statement may start behind a line end, and so it may at the start of the next line. -/
theorem specifiers_newline (lineStart : Bool) (rest : List Char) :
    specifiers statementAt? lineStart ('\n' :: rest) = specifiers statementAt? true rest := by
  have hopener : statementAt? lineStart ('\n' :: rest) = keywordAt? rest := by
    -- at the start of a line or behind a line end, the same statement is tried
    cases lineStart <;> rfl
  cases hstatement : keywordAt? rest with
  | none =>
    rw [hstatement] at hopener
    exact specifiers_of_none hopener
  | some found =>
    obtain ⟨specifier, after⟩ := found
    have hlength := length_of_keywordAt? hstatement
    have hstart : statementAt? true rest = some (specifier, after) := by
      simp [statementAt?, hstatement]
    rw [hstatement] at hopener
    rw [specifiers_of_some hopener (by simp only [List.length_cons]; omega),
      specifiers_of_some hstart hlength]

/-- A piece of a script, made of whole lines, that has no comments and holds given imports. -/
structure Reads (text : List Char) (found : List (List Char)) : Prop where
  noComments : ∀ rest, blankFrom true .code (text ++ rest) = text ++ blankFrom true .code rest
  finds : ∀ rest, specifiers statementAt? true (text ++ rest) =
    found ++ specifiers statementAt? true rest

namespace Reads

theorem nil : Reads [] [] := ⟨fun _ => rfl, fun _ => rfl⟩

theorem append {front back : List Char} {found more : List (List Char)} (hfront : Reads front found)
    (hback : Reads back more) : Reads (front ++ back) (found ++ more) where
  noComments rest := by
    rw [List.append_assoc, hfront.noComments, hback.noComments, List.append_assoc]
  finds rest := by rw [List.append_assoc, hfront.finds, hback.finds, List.append_assoc]

/-- What the scan of a whole script finds. -/
theorem specifiers_eq {text : List Char} {found : List (List Char)} (h : Reads text found) :
    specifiers statementAt? true (blankComments true text) = found := by
  have hblank := h.noComments []
  have hfinds := h.finds []
  rw [List.append_nil] at hblank hfinds
  rw [blankComments, hblank]
  simpa [blankFrom, specifiers] using hfinds

end Reads

/-- A line in which no statement starts, whatever the next line is. -/
def IsSilent (line : List Char) : Prop :=
  ∀ tail, tail <:+ line → ∀ rest, keywordAt? (tail ++ '\n' :: rest) = none

theorem specifiers_of_isSilent {line : List Char} (h : IsSilent line) (lineStart : Bool)
    (rest : List Char) :
    specifiers statementAt? lineStart (line ++ '\n' :: rest) =
      specifiers statementAt? true rest := by
  induction line generalizing lineStart with
  | nil => exact specifiers_newline lineStart rest
  | cons c line ih =>
    have hhere := h (c :: line) List.suffix_rfl rest
    have hnext := h line (List.suffix_cons c line) rest
    -- a statement would start here, or behind a first character that opens it
    have hnone : statementAt? lineStart (c :: line ++ '\n' :: rest) = none := by
      rw [List.cons_append] at hhere ⊢
      cases lineStart <;> simp [statementAt?, hhere, hnext]
    rw [List.cons_append] at hnone ⊢
    rw [specifiers_of_none hnone]
    exact ih (fun tail htail => h tail (htail.trans (List.suffix_cons c line))) _

theorem IsSilent.cons {c : Char} {line : List Char}
    (hhere : ∀ rest, keywordAt? (c :: (line ++ '\n' :: rest)) = none) (hline : IsSilent line) :
    IsSilent (c :: line) := by
  intro tail htail rest
  rcases List.suffix_cons_iff.1 htail with rfl | htail
  · exact hhere rest
  · exact hline tail htail rest

theorem isSilent_nil : IsSilent [] := by
  intro tail htail rest
  rw [List.suffix_nil.1 htail]
  rfl

/-- Whether a keyword may begin somewhere in a text. -/
def holdsKeyword : List Char → Bool
  | [] => false
  | c :: rest => beginsKeyword (c :: rest) || holdsKeyword rest

/-- No statement starts in front of a silent line's first character where no keyword begins. -/
theorem IsSilent.append {front line : List Char} {c : Char}
    (h : holdsKeyword (front ++ [c]) = false) (hline : IsSilent (c :: line)) :
    IsSilent (front ++ c :: line) := by
  induction front with
  | nil => exact hline
  | cons d front ih =>
    simp only [List.cons_append, holdsKeyword, Bool.or_eq_false_iff] at h
    refine IsSilent.cons (fun rest => keywordAt?_eq_none ?_) (ih h.2)
    -- two characters decide, and the second of them is `c` at the latest
    cases front with
    | nil => exact h.1
    | cons e front => exact h.1

/-- No statement starts in code that ends in a semicolon where no keyword begins. -/
theorem isSilent_code {front : List Char} (h : holdsKeyword (front ++ [';']) = false) :
    IsSilent (front ++ [';']) :=
  .append h (.cons (fun _ => rfl) isSilent_nil)

/-- A quote behind a backslash opens no specifier, and neither does the closing quote of a literal,
if only a semicolon follows the literal on its line. -/
theorem keywordAt?_in_literal {text : List Char} (hguarded : Json.IsGuarded text)
    (rest : List Char) :
    keywordAt? (text ++ '\x22' :: ';' :: '\n' :: rest) = none := by
  cases hkeyword : afterKeyword? (text ++ '\x22' :: ';' :: '\n' :: rest) with
  | none => simp [keywordAt?, hkeyword]
  | some back =>
    obtain ⟨keyword, middle, rfl, rfl, hkeywordNe, hkeywordBack⟩ :=
      exists_of_afterKeyword? (by decide) hkeyword
    have hquoted :
        quoted? ((middle ++ '\x22' :: ';' :: '\n' :: rest).dropWhile isClause) = none := by
      rw [List.dropWhile_append]
      split
      · rfl
      · rename_i hclause
        obtain ⟨c, tail, hdrop⟩ := List.exists_cons_of_ne_nil
          (fun hnil => hclause (List.isEmpty_iff.2 hnil))
        have hmiddle : middle = middle.takeWhile isClause ++ c :: tail :=
          hdrop ▸ List.takeWhile_append_dropWhile.symm
        rw [hmiddle, ← List.append_assoc] at hguarded
        -- the clause stops inside of the literal, and no backslash stands in front of where it does
        have hback : '\\' ∉ keyword ++ middle.takeWhile isClause := by
          rw [List.mem_append, not_or]
          exact ⟨hkeywordBack, fun hmem => absurd (List.mem_takeWhile_imp hmem) (by decide)⟩
        have hne : keyword ++ middle.takeWhile isClause ≠ [] :=
          List.append_ne_nil_of_left_ne_nil hkeywordNe _
        have hdouble := hguarded.ne_double hne hback
        have hsingle : c ≠ '\x27' := by
          rintro rfl
          exact hguarded.single_notMem (by simp)
        simp [hdrop, quoted?, isQuote, hsingle, hdouble]
    simp only [keywordAt?, hkeyword, Option.bind_eq_bind, Option.bind_some, hquoted, ite_self]

/-- No statement starts in a guarded literal or behind it. -/
theorem isSilent_literal {text : List Char} (hguarded : Json.IsGuarded text) :
    IsSilent (text ++ ['\x22', ';']) := by
  induction text with
  | nil => exact .cons (fun _ => rfl) (.cons (fun _ => rfl) isSilent_nil)
  | cons c text ih =>
    refine .cons (fun rest => ?_) (ih (hguarded.suffix (List.suffix_cons c text)))
    have hnone := keywordAt?_in_literal hguarded rest
    simpa using hnone

/-- What is left of a mild literal behind the first quote inside is silent, as is what follows the
literal if it has no quote inside. -/
theorem exists_quote_silent {literal : List Char} (hmild : Json.IsMild literal) : ∃ line,
    Json.quote literal ++ [';'] = '\x22' :: (Json.shown literal ++ '\x22' :: line) ∧
      IsSilent line := by
  obtain ⟨back, hquote, rfl | ⟨rest, rfl, hrest⟩⟩ := Json.exists_quote_eq literal
  · exact ⟨[';'], by rw [hquote]; simp, .cons (fun _ => rfl) isSilent_nil⟩
  · exact ⟨rest ++ ['\x22', ';'], by rw [hquote]; simp,
      isSilent_literal (hmild.isGuarded_inner.suffix hrest)⟩

/-- A line that is a statement gives what is shown of its specifier. -/
theorem reads_statement {keyword clause specifier : List Char}
    (hkeyword : ∀ rest, afterKeyword? (keyword ++ rest) = some rest)
    (hclause : ∀ c ∈ clause, isClause c) (hfrom : isFromClause clause)
    (hbare : isBareCode (keyword ++ clause)) (hne : specifier ≠ [])
    (hmild : Json.IsMild specifier) :
    Reads (keyword ++ clause ++ Json.quote specifier ++ [';', '\n']) [Json.shown specifier] where
  noComments := blankFrom_quote hbare hmild (by decide)
  finds rest := by
    obtain ⟨line, hline, hsilent⟩ := exists_quote_silent hmild
    have hclosed : ∀ c ∈ Json.shown specifier, isQuote c = false ∧ c ≠ '\n' := by
      intro c hc
      obtain ⟨hdouble, hsingle, hcontrol⟩ := hmild.shown_closed c hc
      refine ⟨by simp [isQuote, hdouble, hsingle], ?_⟩
      rintro rfl
      exact absurd hcontrol (by decide)
    have hquote : isQuote '\x22' := by decide
    have hfound := keywordAt?_statement hkeyword hclause hfrom hquote hquote
      (Json.shown_ne_nil hne) hclosed (line ++ '\n' :: rest)
    have htext : keyword ++ clause ++ Json.quote specifier ++ [';', '\n'] ++ rest =
        keyword ++ clause ++
          '\x22' :: (Json.shown specifier ++ '\x22' :: (line ++ '\n' :: rest)) := by
      calc keyword ++ clause ++ Json.quote specifier ++ [';', '\n'] ++ rest
          = keyword ++ clause ++ (Json.quote specifier ++ [';']) ++ '\n' :: rest := by simp
        _ = keyword ++ clause ++ ('\x22' :: (Json.shown specifier ++ '\x22' :: line)) ++
              '\n' :: rest := by rw [hline]
        _ = _ := by simp
    have hstart : statementAt? true (keyword ++ clause ++
        '\x22' :: (Json.shown specifier ++ '\x22' :: (line ++ '\n' :: rest))) =
          some (Json.shown specifier, line ++ '\n' :: rest) := by
      rw [statementAt?.eq_def, if_pos rfl, hfound]
    -- what is left of the line is silent
    rw [htext, specifiers_of_some hstart (length_of_keywordAt? hfound),
      specifiers_of_isSilent hsilent]
    rfl

/-- A silent line of bare code gives nothing. -/
theorem reads_of_isSilent {line : List Char} (hsilent : IsSilent line) (hbare : isBareCode line) :
    Reads (line ++ ['\n']) [] where
  noComments rest := by
    have hline : isBareCode (line ++ ['\n']) := by
      simp only [isBareCode, List.all_append, Bool.and_eq_true] at hbare ⊢
      exact ⟨hbare, by decide⟩
    exact blankFrom_bareCode hline rest
  finds rest := by
    rw [List.append_assoc]
    exact specifiers_of_isSilent hsilent true rest

/-- A line that sets something to a mild literal gives nothing. -/
theorem reads_literal {front literal : List Char} (hbare : isBareCode front)
    (hkeyword : holdsKeyword (front ++ ['\x22']) = false) (hmild : Json.IsMild literal) :
    Reads (front ++ Json.quote literal ++ [';', '\n']) [] where
  noComments := blankFrom_quote hbare hmild (by decide)
  finds rest := by
    have hinside : IsSilent ('\x22' :: (Json.inner literal ++ ['\x22', ';'])) :=
      .cons (fun _ => rfl) (isSilent_literal hmild.isGuarded_inner)
    have hfinds := specifiers_of_isSilent (hinside.append hkeyword) true rest
    simpa [Json.quote_eq_inner] using hfinds

end SfcBundler.Scan
