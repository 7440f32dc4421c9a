import SfcBundler.Proofs.Scan.Comments
import SfcBundler.Proofs.Scan.Lines

/-!
# What a scan finds in a script

A script is made of statements, of comments, which may hold anything but what ends them, and of
filler without quotes and slashes. A scan finds the specifiers of the statements and nothing else.

Where comments are blanked out no quotes are left but those around the specifiers. Whatever keyword
is read in front of a specifier, it is read up to the next quote, and so finds the specifier. A
keyword in the filler may be read in place of the one that belongs to the statement behind it, but
what it finds is the same.

## Main definitions

* `Scan.Statement`: a static import, or an export of what another module exports
* `Scan.Item`, `Scan.Script`: scripts made of statements, comments and filler
* `Scan.opensBehind`: whether a statement may start behind a text

## Main results

* `Scan.Item.blankFrom_written`: what is left of an item when comments are blanked out
* `Scan.keywordAt?_eq_of_some`: what a keyword in front of a statement finds
* `Scan.specifiers_statement`: a scan in front of a statement finds its specifier
* `Scan.Script.imports_text`: the imports of a script
-/

namespace SfcBundler

namespace Text

theorem trimEnd_append {blanks : List Char} (h : ∀ c ∈ blanks, isBlank c) (text : List Char) :
    trimEnd (text ++ blanks) = trimEnd text := by
  have hreverse : ∀ c ∈ blanks.reverse, isBlank c := fun c hc => h c (List.mem_reverse.1 hc)
  rw [trimEnd, trimEnd, List.reverse_append, List.dropWhile_append_of_pos hreverse]

theorem trimEnd_concat {c : Char} (h : isBlank c = false) (text : List Char) :
    trimEnd (text ++ [c]) = text ++ [c] := by
  rw [trimEnd, List.reverse_append, List.reverse_singleton, List.singleton_append,
    List.dropWhile_cons_of_neg (by simp [h]), List.reverse_cons, List.reverse_reverse]

end Text

namespace Scan

/-! ### Scripts -/

/-- Whether a character may stand in a specifier. -/
def isInside (c : Char) : Bool := !isQuote c && c != '\\' && c != '\n'

/-- A static import, or an export of what another module exports. Between the keyword and the
specifier in quotes stand blanks, or names with `from` and blanks behind them. -/
structure Statement where
  keyword : List Char
  names : Option (List Char)
  blanks : List Char
  quote : Char
  specifier : List Char
  isKeyword : keyword = "import".toList ∨ keyword = "export".toList := by decide
  areNames : names.all (List.all · isClause) := by decide
  areBlank : blanks.all Text.isBlank := by decide
  isQuote : isQuote quote := by decide
  ne_nil : specifier ≠ [] := by decide
  isClosed : specifier.all isInside := by decide

namespace Statement

/-- What stands between the keyword and the opening quote. -/
def clause (statement : Statement) : List Char :=
  (match statement.names with
    | some names => names ++ ['f', 'r', 'o', 'm']
    | none => []) ++ statement.blanks

/-- The text of a statement up to its closing quote. -/
def written (statement : Statement) : List Char :=
  statement.keyword ++ statement.clause ++
    statement.quote :: (statement.specifier ++ [statement.quote])

end Statement

/-- A piece of a script. -/
inductive Item where
  | statement (source : Statement)
  | lineComment (words : List Char) (isLine : '\n' ∉ words := by decide)
  | blockComment (words : List Char) (isOpen : ¬Text.HoldsEnd words := by decide)
  | filler (text : List Char) (isBare : isBareCode text := by decide)

/-- Whether a statement may start behind a text: behind a semicolon, a closing brace or a blank,
such as a line end. Behind an empty text it may if it may in front. -/
def opensBehind (before : Bool) (text : List Char) : Bool :=
  match text.getLast? with
  | some c => opensStatement c
  | none => before

namespace Item

/-- The text of an item. -/
def written : Item → List Char
  | statement source => source.written
  | lineComment words _ => '/' :: '/' :: (words ++ ['\n'])
  | blockComment words _ => '/' :: '*' :: (words ++ ['*', '/'])
  | filler text _ => text

/-- The specifiers in an item. -/
def specifiers : Item → List (List Char)
  | statement source => [source.specifier]
  | _ => []

/-- Whether a statement may start behind an item; behind a comment it always may. -/
def opens (before : Bool) : Item → Bool
  | statement _ => false
  | filler text _ => opensBehind before text
  | _ => true

/-- Whether an item stands where it may. -/
def isPlaced (before : Bool) : Item → Bool
  | statement _ => before
  | _ => true

/-- Whether each item stands where it may. `before` says whether a statement may start in front of
them. -/
def arePlaced : Bool → List Item → Bool
  | _, [] => true
  | before, item :: items => item.isPlaced before && arePlaced (item.opens before) items

end Item

/-- A script in which each statement stands where one may start. -/
structure Script where
  items : List Item
  arePlaced : Item.arePlaced true items := by decide

namespace Script

/-- The text of a script. -/
def text (script : Script) : List Char := script.items.flatMap Item.written

/-- The specifiers of the statements of a script, in order. -/
def specifiers (script : Script) : List (List Char) := script.items.flatMap Item.specifiers

end Script

/-! ### Characters -/

theorem opensLiteral_of_isQuote {c : Char} (h : isQuote c) : opensLiteral c := by
  simp only [isQuote, Bool.or_eq_true, beq_iff_eq] at h
  rcases h with rfl | rfl <;> decide

/-- The characters of a clause are bare code. -/
theorem isBareCode_of_isClause {text : List Char} (h : ∀ c ∈ text, isClause c) :
    isBareCode text := by
  rw [isBareCode, List.all_eq_true]
  intro c hc
  have hclause := h c hc
  rw [Bool.and_eq_true, Bool.not_eq_eq_eq_not, Bool.not_true, bne_iff_ne]
  constructor
  · by_contra hopens
    simp only [opensLiteral, Bool.not_eq_false, Bool.or_eq_true, beq_iff_eq] at hopens
    rcases hopens with (rfl | rfl) | rfl <;> exact absurd hclause (by decide)
  · rintro rfl
    exact absurd hclause (by decide)

theorem isBareCode_append {front back : List Char} (hfront : isBareCode front)
    (hback : isBareCode back) : isBareCode (front ++ back) := by
  rw [isBareCode, List.all_append, Bool.and_eq_true]
  exact ⟨hfront, hback⟩

/-- Bare code holds no quotes. -/
theorem isQuote_of_isBareCode {text : List Char} (h : isBareCode text) :
    ∀ c ∈ text, isQuote c = false := by
  intro c hc
  by_contra hquote
  have hbare := List.all_eq_true.1 h c hc
  simp [opensLiteral_of_isQuote (by simpa using hquote)] at hbare

/-! ### Statements -/

namespace Statement

variable (statement : Statement)

theorem written_append (rest : List Char) :
    statement.written ++ rest = statement.keyword ++ statement.clause ++
      statement.quote :: (statement.specifier ++ statement.quote :: rest) := by
  simp [written]

theorem isInside_of_mem {c : Char} (h : c ∈ statement.specifier) :
    Scan.isQuote c = false ∧ c ≠ '\\' ∧ c ≠ '\n' := by
  have hinside := List.all_eq_true.1 statement.isClosed c h
  simpa [isInside, and_assoc] using hinside

/-- A specifier is read up to the quote that closes it. -/
theorem closed : ∀ c ∈ statement.specifier, Scan.isQuote c = false ∧ c ≠ '\n' := by
  intro c hc
  obtain ⟨hquote, -, hline⟩ := statement.isInside_of_mem hc
  exact ⟨hquote, hline⟩

theorem isClause_clause : ∀ c ∈ statement.clause, isClause c := by
  intro c hc
  rcases List.mem_append.1 hc with hnames | hblank
  · split at hnames
    · rename_i names hsome
      rcases List.mem_append.1 hnames with hname | hfrom
      · have hnames : names.all isClause := by simpa [hsome] using statement.areNames
        exact List.all_eq_true.1 hnames c hname
      · have hall : ['f', 'r', 'o', 'm'].all isClause := by decide
        exact List.all_eq_true.1 hall c hfrom
    · cases hnames
  · simp [isClause, List.all_eq_true.1 statement.areBlank c hblank]

theorem isFromClause_clause : isFromClause statement.clause := by
  rw [isFromClause, clause, Text.trimEnd_append (List.all_eq_true.1 statement.areBlank)]
  split
  · rename_i names _
    have hconcat : names ++ ['f', 'r', 'o', 'm'] = names ++ ['f', 'r', 'o'] ++ ['m'] := by simp
    rw [hconcat, Text.trimEnd_concat (by decide), ← hconcat, Bool.or_eq_true]
    exact .inr (List.isSuffixOf_iff_suffix.2 (List.suffix_append _ _))
  · rfl

/-- No quote stands in front of the specifier. -/
theorem isBareCode_front : isBareCode (statement.keyword ++ statement.clause) := by
  refine isBareCode_append ?_ (isBareCode_of_isClause statement.isClause_clause)
  rcases statement.isKeyword with hkeyword | hkeyword <;> rw [hkeyword] <;> decide

theorem afterKeyword?_keyword (rest : List Char) :
    afterKeyword? (statement.keyword ++ rest) = some rest := by
  rcases statement.isKeyword with hkeyword | hkeyword <;> rw [hkeyword] <;> rfl

/-- A statement is read whole. -/
theorem keywordAt?_written (rest : List Char) :
    keywordAt? (statement.written ++ rest) = some (statement.specifier, rest) := by
  rw [written_append]
  exact keywordAt?_statement statement.afterKeyword?_keyword statement.isClause_clause
    statement.isFromClause_clause statement.isQuote statement.isQuote statement.ne_nil
    statement.closed rest

/-- A statement has no comments, whatever its specifier looks like. -/
theorem blankFrom_written (rest : List Char) :
    blankFrom true .code (statement.written ++ rest) =
      statement.written ++ blankFrom true .code rest := by
  have hopen (text : List Char) : blankFrom true .code (statement.quote :: text) =
      statement.quote :: blankFrom true (.literal statement.quote) text := by
    simp [blankFrom, Region.step, opensLiteral_of_isQuote statement.isQuote]
  have hclose : blankFrom true (.literal statement.quote) (statement.quote :: rest) =
      statement.quote :: blankFrom true .code rest := by
    have hback : statement.quote ≠ '\\' := by
      intro heq
      exact absurd (heq ▸ statement.isQuote) (by decide)
    simp [blankFrom, Region.step, hback]
  -- nothing in the specifier closes the literal that it stands in
  have hinside : ∀ c ∈ statement.specifier,
      c ≠ statement.quote ∧ c ≠ '\\' ∧ c ≠ '\n' := by
    intro c hc
    obtain ⟨hquote, hback, hline⟩ := statement.isInside_of_mem hc
    refine ⟨?_, hback, hline⟩
    rintro rfl
    exact absurd statement.isQuote (by simp [hquote])
  rw [written_append, blankFrom_bareCode statement.isBareCode_front, hopen,
    blankFrom_inside hinside, hclose, ← written_append]

end Statement

namespace Item

/-- An item with comments blanked out. -/
def shown : Item → List Char
  | statement source => source.written
  | filler text _ => text
  | comment => comment.written.map blanked

/-- What is left of an item when comments are blanked out, whatever follows it. -/
theorem blankFrom_written (item : Item) (rest : List Char) :
    blankFrom true .code (item.written ++ rest) = item.shown ++ blankFrom true .code rest := by
  cases item with
  | statement source => exact source.blankFrom_written rest
  | filler text isBare => exact blankFrom_bareCode isBare rest
  | lineComment words isLine =>
    have hbegins : Begins true ('/' :: '/' :: (words ++ '\n' :: rest))
        (.comment ['/', '/'] words []) ('\n' :: rest) := .lineComment rfl isLine (by simp)
    have hend : blankFrom true .code ('\n' :: rest) = '\n' :: blankFrom true .code rest := rfl
    simpa [written, shown, Piece.shown, Piece.written, Piece.isComment, blanked, hend] using
      hbegins.blankFrom_eq
  | blockComment words isOpen =>
    have hbegins : Begins true ('/' :: '*' :: (words ++ (['*', '/'] ++ rest)))
        (.comment ['/', '*'] words ['*', '/']) rest := .blockComment isOpen (.inl rfl)
    simpa [written, shown, Piece.shown, Piece.written, Piece.isComment, blanked] using
      hbegins.blankFrom_eq

end Item

theorem Script.blankComments_text (script : Script) :
    blankComments true script.text = script.items.flatMap Item.shown := by
  rw [blankComments, text]
  induction script.items with
  | nil => rfl
  | cons item items ih =>
    rw [List.flatMap_cons, List.flatMap_cons, item.blankFrom_written, ih]

/-! ### Scanning -/

/-- No statement starts where no quote follows. -/
theorem keywordAt?_eq_none_of_forall {text : List Char} (h : ∀ c ∈ text, isQuote c = false) :
    keywordAt? text = none := by
  refine Option.eq_none_iff_forall_ne_some.2 fun found hfound => ?_
  obtain ⟨_, _, opening, _, rfl, -, -, -, hopening, -⟩ := keywordAt?_eq_some_iff.1 hfound
  simp [h opening (by simp)] at hopening

/-- A text is divided in one way only where it is at its first quote. -/
theorem append_quote_inj {front other behind tail : List Char} {quote mark : Char}
    (hfront : ∀ c ∈ front, isQuote c = false) (hother : ∀ c ∈ other, isQuote c = false)
    (hquote : isQuote quote) (hmark : isQuote mark)
    (h : front ++ quote :: behind = other ++ mark :: tail) : front = other ∧ behind = tail := by
  have hbefore {front : List Char} (hfront : ∀ c ∈ front, isQuote c = false) {quote : Char}
      (hquote : isQuote quote) (behind : List Char) :
      (front ++ quote :: behind).takeWhile (fun c => !isQuote c) = front := by
    rw [List.takeWhile_append_of_pos fun c hc => by simp [hfront c hc],
      List.takeWhile_cons_of_neg (by simp [hquote]), List.append_nil]
  have hsame : front = other := by
    rw [← hbefore hfront hquote behind, h, hbefore hother hmark]
  subst hsame
  exact ⟨rfl, (List.cons.inj (List.append_cancel_left h)).2⟩

/-- A keyword in front of a statement is read up to the next quote, and that is the one which opens
the specifier of the statement. -/
theorem keywordAt?_eq_of_some (statement : Statement) {front rest : List Char}
    {found : List Char × List Char} (hfront : ∀ c ∈ front, isQuote c = false)
    (h : keywordAt? (front ++ (statement.written ++ rest)) = some found) :
    found = (statement.specifier, rest) := by
  have hquote := statement.isQuote
  obtain ⟨specifier, after⟩ := found
  obtain ⟨keyword, clause, opening, closing, htext, hword, hclause, -, hopening, hclosing, -,
    hinside⟩ := keywordAt?_eq_some_iff.1 h
  -- no quote stands in front of either specifier, and none inside of it
  have hbefore : ∀ c ∈ front ++ (statement.keyword ++ statement.clause), isQuote c = false :=
    List.forall_mem_append.2 ⟨hfront, isQuote_of_isBareCode statement.isBareCode_front⟩
  have hbefore' : ∀ c ∈ keyword ++ clause, isQuote c = false := by
    refine isQuote_of_isBareCode (isBareCode_append ?_ (isBareCode_of_isClause hclause))
    rcases hword with rfl | rfl <;> decide
  rw [statement.written_append, ← List.append_assoc] at htext
  obtain ⟨-, hbehind⟩ := append_quote_inj hbefore hbefore' hquote hopening htext
  obtain ⟨hspecifier, hafter⟩ := append_quote_inj (fun c hc => (statement.closed c hc).1)
    (fun c hc => (hinside c hc).1) hquote hclosing hbehind
  rw [hspecifier, hafter]

theorem statementAt?_cons_eq_some {lineStart : Bool} {c : Char} {rest : List Char}
    {found : List Char × List Char} (h : statementAt? lineStart (c :: rest) = some found) :
    keywordAt? (c :: rest) = some found ∨ keywordAt? rest = some found := by
  rw [statementAt?.eq_def] at h
  split at h
  · rename_i hhere
    cases h
    split at hhere
    · exact .inl hhere
    · cases hhere
  · dsimp only at h
    split at h
    · exact .inr h
    · cases h

theorem statementAt?_cons_eq_none {lineStart : Bool} {c : Char} {rest : List Char}
    (h : statementAt? lineStart (c :: rest) = none) (hopens : opensStatement c) :
    keywordAt? rest = none := by
  rw [statementAt?.eq_def] at h
  split at h
  · cases h
  · simpa [hopens] using h

/-- A scan in front of a statement finds its specifier, if a statement may start there. -/
theorem specifiers_statement (statement : Statement) {front : List Char} {lineStart : Bool}
    (hfront : ∀ c ∈ front, isQuote c = false) (hopens : opensBehind lineStart front)
    (rest : List Char) :
    specifiers statementAt? lineStart (front ++ (statement.written ++ rest)) =
      statement.specifier :: specifiers statementAt? false rest := by
  have hkeyword := statement.keywordAt?_written rest
  have hlength := length_of_keywordAt? hkeyword
  induction front generalizing lineStart with
  | nil =>
    obtain rfl : lineStart = true := hopens
    have hstart : statementAt? true (statement.written ++ rest) =
        some (statement.specifier, rest) := by simp [statementAt?, hkeyword]
    exact specifiers_of_some hstart hlength
  | cons c front ih =>
    have hbehind := (List.forall_mem_cons.1 hfront).2
    cases hfound : statementAt? lineStart (c :: (front ++ (statement.written ++ rest))) with
    | some found =>
      -- a keyword in front may be read in place of the statement's own
      obtain rfl : found = (statement.specifier, rest) := by
        rcases statementAt?_cons_eq_some hfound with hhere | hnext
        · exact keywordAt?_eq_of_some statement hfront hhere
        · exact keywordAt?_eq_of_some statement hbehind hnext
      refine specifiers_of_some hfound ?_
      rw [List.length_append, List.length_cons]
      omega
    | none =>
      rw [List.cons_append, specifiers_of_none hfound]
      refine ih hbehind ?_
      cases front with
      | nil =>
        have hnone := statementAt?_cons_eq_none hfound hopens
        rw [List.nil_append, hkeyword] at hnone
        cases hnone
      | cons d front => simpa [opensBehind, List.getLast?_cons] using hopens

/-- A scan finds nothing where there are no quotes. -/
theorem specifiers_eq_nil {text : List Char} (h : ∀ c ∈ text, isQuote c = false)
    (lineStart : Bool) : specifiers statementAt? lineStart text = [] := by
  induction text generalizing lineStart with
  | nil => rw [specifiers]
  | cons c rest ih =>
    have hrest := (List.forall_mem_cons.1 h).2
    cases hfound : statementAt? lineStart (c :: rest) with
    | some found =>
      rcases statementAt?_cons_eq_some hfound with hhere | hnext
      · rw [keywordAt?_eq_none_of_forall h] at hhere
        cases hhere
      · rw [keywordAt?_eq_none_of_forall hrest] at hnext
        cases hnext
    | none => rw [specifiers_of_none hfound, ih hrest]

theorem opensBehind_append (before : Bool) (front back : List Char) :
    opensBehind before (front ++ back) = opensBehind (opensBehind before front) back := by
  rw [opensBehind, opensBehind, List.getLast?_append]
  cases back.getLast? <;> rfl

namespace Item

/-- A comment leaves blanks, which hold no quotes and open statements. -/
theorem isQuote_blanked (c : Char) : isQuote (blanked c) = false := by
  rw [blanked]
  split <;> decide

theorem opensBehind_blanked (before : Bool) {text : List Char} (hne : text ≠ []) :
    opensBehind before (text.map blanked) = true := by
  rw [opensBehind, List.getLast?_map, List.getLast?_eq_some_getLast hne, Option.map_some, blanked]
  dsimp only
  split <;> decide

/-- The specifiers of items are found behind a text without quotes. -/
theorem specifiers_shown {items : List Item} {front : List Char} {lineStart : Bool}
    (hfront : ∀ c ∈ front, isQuote c = false)
    (hplaced : arePlaced (opensBehind lineStart front) items) :
    Scan.specifiers statementAt? lineStart (front ++ items.flatMap shown) =
      items.flatMap specifiers := by
  induction items generalizing front lineStart with
  | nil => simpa using specifiers_eq_nil hfront lineStart
  | cons item items ih =>
    -- what is shown of an item that is no statement is in front of the next
    have hbehind (text : List Char) (htext : ∀ c ∈ text, isQuote c = false)
        (hrest : arePlaced (opensBehind (opensBehind lineStart front) text) items) :
        Scan.specifiers statementAt? lineStart (front ++ (text ++ items.flatMap shown)) =
          items.flatMap specifiers := by
      rw [← opensBehind_append] at hrest
      rw [← List.append_assoc]
      exact ih (List.forall_mem_append.2 ⟨hfront, htext⟩) hrest
    have hcomment (text : List Char) (hne : text ≠ []) (hrest : arePlaced true items) :
        Scan.specifiers statementAt? lineStart
          (front ++ (text.map blanked ++ items.flatMap shown)) = items.flatMap specifiers := by
      refine hbehind _ (fun c hc => ?_) ?_
      · obtain ⟨d, -, rfl⟩ := List.mem_map.1 hc
        exact isQuote_blanked d
      · rw [opensBehind_blanked _ hne]
        exact hrest
    rw [List.flatMap_cons, List.flatMap_cons]
    cases item with
    | statement source =>
      obtain ⟨hopens, hitems⟩ : opensBehind lineStart front ∧ arePlaced false items := by
        simpa [arePlaced, isPlaced, opens] using hplaced
      have hrest : Scan.specifiers statementAt? false ([] ++ items.flatMap shown) =
          items.flatMap specifiers := ih (by simp) hitems
      have hfound := specifiers_statement source hfront hopens (items.flatMap shown)
      rw [List.nil_append] at hrest
      rw [hrest] at hfound
      exact hfound
    | filler text isBare => exact hbehind text (isQuote_of_isBareCode isBare) hplaced
    | lineComment words isLine => exact hcomment _ (List.cons_ne_nil _ _) hplaced
    | blockComment words isOpen => exact hcomment _ (List.cons_ne_nil _ _) hplaced

end Item

namespace Script

/-- The imports of a script are the specifiers of its statements in the order in which they first
occur, each once. -/
theorem imports_text (script : Script) {loader : Loader} (hloader : loader.isScript) :
    imports (String.ofList script.text) loader =
      script.specifiers.eraseDups.map fun specifier => (String.ofList specifier, .statement) := by
  have hfound : Scan.specifiers statementAt? true ([] ++ script.items.flatMap Item.shown) =
      script.specifiers := Item.specifiers_shown (by simp) script.arePlaced
  rw [List.nil_append] at hfound
  rw [imports, if_pos hloader, String.toList_ofList, script.blankComments_text, hfound]

/-- A script with keywords in its filler, statements in its comments, and specifiers that look like
comments. -/
def crowded : Script where
  items := [
    .filler "const a = 1; export ".toList,
    .blockComment "* import 'b' from *\n".toList,
    .statement {
      keyword := "import".toList, names := some "\n * as b, \x7b c \x7d\n".toList
      blanks := " ".toList, quote := '\x27', specifier := "//x/*".toList },
    .filler " import ".toList,
    .lineComment " it's import \"c\"".toList,
    .statement {
      keyword := "export".toList, names := some " * ".toList
      blanks := "".toList, quote := '\x22', specifier := ";import from ".toList },
    .filler ";".toList,
    .statement {
      keyword := "import".toList, names := none
      blanks := "".toList, quote := '\x22', specifier := "//x/*".toList }]

/-- Neither keywords in its filler nor quotes in its comments hide a statement of `crowded`. -/
theorem imports_crowded : Loader.isScript .ts ∧
    imports (String.ofList crowded.text) .ts =
      [("//x/*", .statement), (";import from ", .statement)] :=
  ⟨rfl, (imports_text crowded rfl).trans (by decide)⟩

end Script

end Scan

end SfcBundler
