import Mathlib.Data.List.TakeWhile
import SfcBundler.Proofs.Text.Fields
import SfcBundler.Scan.Comments

/-!
# The pieces of a text with comments

A text is made of characters of code, of literals and of comments, and it is divided into them in
one way only: the first two characters tell which kind of piece a text begins with, and each piece
has one end.

## Main definitions

* `Scan.Piece`: a character of code, a literal or a comment
* `Scan.Begins`, `Scan.Division`: the first piece of a text, and the division of a text into pieces

## Main results

* `Scan.exists_begins`, `Scan.Begins.eq`: every text begins with one piece
* `Scan.exists_division`, `Scan.Division.eq`: every text is divided into pieces in one way
-/

namespace SfcBundler.Scan

variable {lineComments : Bool} {text words body rest : List Char}

/-! ### Pieces -/

/-- Whether a character ends a literal: its quote does, and a line end unless lines may be
spanned. -/
def closesLiteral (quote c : Char) : Bool := c == quote || (c == '\n' && quote != backtick)

/-- What may stand in a literal: characters that do not end it, and backslashes with whatever they
escape. -/
inductive IsBody (quote : Char) : List Char → Prop
  | nil : IsBody quote []
  | bare {c : Char} {rest : List Char} : closesLiteral quote c = false → c ≠ '\\' →
    IsBody quote rest → IsBody quote (c :: rest)
  | escaped (c : Char) {rest : List Char} : IsBody quote rest → IsBody quote ('\\' :: c :: rest)

/-- How a literal ends: with a character that closes it, or with the text, where a backslash may be
left that escapes nothing. -/
def EndsLiteral (quote : Char) (ending rest : List Char) : Prop :=
  (∃ c, closesLiteral quote c ∧ ending = [c]) ∨ ((ending = [] ∨ ending = ['\\']) ∧ rest = [])

/-- How a block comment ends: with the mark that closes it, or with the text. -/
def EndsComment (ending rest : List Char) : Prop :=
  ending = ['*', '/'] ∨ (ending = [] ∧ rest = [])

/-- Whether a character opens a comment in front of another. -/
def opensComment (lineComments : Bool) (c : Char) (next : Option Char) : Bool :=
  c == '/' && (next == some '*' || (lineComments && next == some '/'))

/-- A piece of a text: a character of code, a literal with its quotes, or a comment, which has words
between two marks. -/
inductive Piece where
  | code (c : Char)
  | literal (text : List Char)
  | comment (opening words ending : List Char)

namespace Piece

/-- The text of a piece. -/
def written : Piece → List Char
  | code c => [c]
  | literal text => text
  | comment opening words ending => opening ++ words ++ ending

/-- Whether a piece is a comment. -/
def isComment : Piece → Bool
  | comment .. => true
  | _ => false

end Piece

/-- The piece that a text begins with, and what follows it. A line comment goes up to the end of the
line, a block comment up to the first mark that can close it. -/
inductive Begins (lineComments : Bool) : List Char → Piece → List Char → Prop
  | code {c : Char} {rest : List Char} : opensLiteral c = false →
    opensComment lineComments c rest.head? = false → Begins lineComments (c :: rest) (.code c) rest
  | literal {quote : Char} {body ending rest : List Char} : opensLiteral quote →
    IsBody quote body → EndsLiteral quote ending rest →
    Begins lineComments (quote :: (body ++ (ending ++ rest))) (.literal (quote :: (body ++ ending)))
      rest
  | lineComment {words rest : List Char} : lineComments → '\n' ∉ words →
    (∀ c ∈ rest.head?, c = '\n') →
    Begins lineComments ('/' :: '/' :: (words ++ rest)) (.comment ['/', '/'] words []) rest
  | blockComment {words ending rest : List Char} : ¬Text.HoldsEnd words →
    EndsComment ending rest →
    Begins lineComments ('/' :: '*' :: (words ++ (ending ++ rest)))
      (.comment ['/', '*'] words ending) rest

/-- The pieces of a text, from its start to its end. -/
inductive Division (lineComments : Bool) : List Char → List Piece → Prop
  | nil : Division lineComments [] []
  | cons {text rest : List Char} {piece : Piece} {pieces : List Piece} :
    Begins lineComments text piece rest → Division lineComments rest pieces →
    Division lineComments text (piece :: pieces)

/-! ### The first piece of a text -/

theorem opensLiteral_slash : opensLiteral '/' = false := rfl

theorem closesLiteral_back {quote : Char} (h : opensLiteral quote) :
    closesLiteral quote '\\' = false := by
  simp only [opensLiteral, Bool.or_eq_true, beq_iff_eq] at h
  rcases h with (rfl | rfl) | rfl <;> decide

theorem Begins.text_eq {piece : Piece} (h : Begins lineComments text piece rest) :
    text = piece.written ++ rest := by
  cases h <;> simp [Piece.written]

theorem Begins.length_lt {piece : Piece} (h : Begins lineComments text piece rest) :
    rest.length < text.length := by
  cases h <;> simp <;> omega

/-- A text inside of a literal is its body, its end and what follows it. -/
theorem exists_literal (quote : Char) (text : List Char) : ∃ body ending rest,
    text = body ++ (ending ++ rest) ∧ IsBody quote body ∧ EndsLiteral quote ending rest := by
  match text with
  | [] => exact ⟨[], [], [], rfl, .nil, .inr ⟨.inl rfl, rfl⟩⟩
  | c :: text =>
    by_cases hcloses : closesLiteral quote c
    · exact ⟨[], [c], text, rfl, .nil, .inl ⟨c, hcloses, rfl⟩⟩
    by_cases hback : c = '\\'
    · -- a backslash takes the next character with it, and the text may end in front of that
      subst hback
      match text with
      | [] => exact ⟨[], ['\\'], [], rfl, .nil, .inr ⟨.inr rfl, rfl⟩⟩
      | d :: text =>
        obtain ⟨body, ending, rest, rfl, hbody, hends⟩ := exists_literal quote text
        exact ⟨'\\' :: d :: body, ending, rest, rfl, .escaped d hbody, hends⟩
    · obtain ⟨body, ending, rest, rfl, hbody, hends⟩ := exists_literal quote text
      exact ⟨c :: body, ending, rest, rfl, .bare (by simpa using hcloses) hback hbody, hends⟩
termination_by text.length

/-- A text inside of a block comment is its words, its end and what follows it. -/
theorem exists_blockComment (text : List Char) : ∃ words ending rest,
    text = words ++ (ending ++ rest) ∧ ¬Text.HoldsEnd words ∧ EndsComment ending rest := by
  induction text with
  | nil => exact ⟨[], [], [], rfl, Text.not_holdsEnd_nil, .inr ⟨rfl, rfl⟩⟩
  | cons c text ih =>
    by_cases hcloses : c = '*' ∧ text.head? = some '/'
    · obtain ⟨rfl, hslash⟩ := hcloses
      obtain ⟨rest, rfl⟩ := List.head?_eq_some_iff.1 hslash
      exact ⟨[], ['*', '/'], rest, rfl, Text.not_holdsEnd_nil, .inl rfl⟩
    · obtain ⟨words, ending, rest, rfl, hwords, hends⟩ := ih
      have hgoes : c = '*' → words.head? ≠ some '/' := by
        intro hstar hslash
        obtain ⟨more, rfl⟩ := List.head?_eq_some_iff.1 hslash
        exact hcloses ⟨hstar, rfl⟩
      exact ⟨c :: words, ending, rest, rfl, Text.not_holdsEnd_cons.2 ⟨hgoes, hwords⟩, hends⟩

/-- Every text but the empty one begins with a piece. -/
theorem exists_begins (lineComments : Bool) (hne : text ≠ []) :
    ∃ piece rest, Begins lineComments text piece rest := by
  obtain ⟨c, text, rfl⟩ := List.exists_cons_of_ne_nil hne
  -- the first character, or the first two, say what piece it is
  by_cases hliteral : opensLiteral c
  · obtain ⟨body, ending, rest, rfl, hbody, hends⟩ := exists_literal c text
    exact ⟨_, rest, .literal hliteral hbody hends⟩
  by_cases hcomment : opensComment lineComments c text.head?
  · simp only [opensComment, Bool.and_eq_true, Bool.or_eq_true, beq_iff_eq] at hcomment
    obtain ⟨rfl, hstar | ⟨hline, hslash⟩⟩ := hcomment
    · obtain ⟨text, rfl⟩ := List.head?_eq_some_iff.1 hstar
      obtain ⟨words, ending, rest, rfl, hwords, hends⟩ := exists_blockComment text
      exact ⟨_, rest, .blockComment hwords hends⟩
    · obtain ⟨text, rfl⟩ := List.head?_eq_some_iff.1 hslash
      rw [← List.takeWhile_append_dropWhile (p := (· != '\n')) (l := text)]
      refine ⟨_, _, .lineComment hline (fun hmem => ?_) fun c hc => ?_⟩
      · simpa using List.mem_takeWhile_imp hmem
      · have hnot := List.head?_dropWhile_not (· != '\n') text
        rw [Option.mem_def.1 hc] at hnot
        simpa using hnot
  · exact ⟨.code c, text, .code (by simpa using hliteral) (by simpa using hcomment)⟩

/-- What ends a literal is neither a bare character nor an escape. -/
theorem EndsLiteral.ne_body {quote : Char} {ending tail : List Char}
    (h : EndsLiteral quote ending rest) (hback : closesLiteral quote '\\' = false)
    (hbody : IsBody quote body) (hne : body ≠ []) : ending ++ rest ≠ body ++ tail := by
  intro heq
  cases hbody with
  | nil => exact hne rfl
  | bare hopen hbare _ =>
    rcases h with ⟨c, hcloses, rfl⟩ | ⟨rfl | rfl, rfl⟩
    · rw [(List.cons.inj heq).1, hopen] at hcloses
      cases hcloses
    · cases heq
    · exact hbare (List.cons.inj heq).1.symm
  | escaped d _ =>
    rcases h with ⟨c, hcloses, rfl⟩ | ⟨rfl | rfl, rfl⟩
    · rw [(List.cons.inj heq).1, hback] at hcloses
      cases hcloses
    · cases heq
    · cases (List.cons.inj heq).2

theorem EndsLiteral.eq {quote : Char} {ending other tail : List Char}
    (h : EndsLiteral quote ending rest) (hother : EndsLiteral quote other tail)
    (hback : closesLiteral quote '\\' = false) (heq : ending ++ rest = other ++ tail) :
    ending = other := by
  rcases h with ⟨c, hcloses, rfl⟩ | ⟨hending, rfl⟩ <;>
    rcases hother with ⟨d, hcloses', rfl⟩ | ⟨hother, rfl⟩
  · cases heq
    rfl
  · rcases hother with rfl | rfl
    · cases heq
    · cases heq
      exact absurd hcloses (by simp [hback])
  · rcases hending with rfl | rfl
    · cases heq
    · cases heq
      exact absurd hcloses' (by simp [hback])
  · simpa using heq

/-- A literal has one body and one end. -/
theorem IsBody.eq {quote : Char} {others ending other tail : List Char}
    (hbody : IsBody quote body) (hothers : IsBody quote others)
    (hends : EndsLiteral quote ending rest) (hends' : EndsLiteral quote other tail)
    (hback : closesLiteral quote '\\' = false)
    (h : body ++ (ending ++ rest) = others ++ (other ++ tail)) :
    body = others ∧ ending = other := by
  -- both bodies go on in the same way, and where one of them ends the other cannot go on
  induction hbody generalizing others with
  | nil =>
    by_cases hnil : others = []
    · rw [hnil] at h
      exact ⟨hnil.symm, hends.eq hends' hback h⟩
    · exact absurd h (hends.ne_body hback hothers hnil)
  | bare hopen hbare hrest ih =>
    cases hothers with
    | nil =>
      exact absurd h.symm
        (hends'.ne_body hback (.bare hopen hbare hrest) (List.cons_ne_nil _ _))
    | bare _ _ hothers =>
      obtain ⟨rfl, hrest⟩ := List.cons.inj h
      obtain ⟨rfl, hending⟩ := ih hothers hrest
      exact ⟨rfl, hending⟩
    | escaped => exact absurd (List.cons.inj h).1 hbare
  | escaped d hrest ih =>
    cases hothers with
    | nil =>
      exact absurd h.symm (hends'.ne_body hback (.escaped d hrest) (List.cons_ne_nil _ _))
    | bare _ hbare => exact absurd (List.cons.inj h).1.symm hbare
    | escaped e hothers =>
      obtain ⟨rfl, hrest⟩ := List.cons.inj (List.cons.inj h).2
      obtain ⟨rfl, hending⟩ := ih hothers hrest
      exact ⟨rfl, hending⟩

/-- No word of a block comment stands where the comment ends. -/
theorem EndsComment.ne_words {ending other tail : List Char} (h : EndsComment ending rest)
    (hother : EndsComment other tail) (hwords : ¬Text.HoldsEnd words) (hne : words ≠ []) :
    ending ++ rest ≠ words ++ (other ++ tail) := by
  intro heq
  obtain ⟨c, words, rfl⟩ := List.exists_cons_of_ne_nil hne
  rcases h with rfl | ⟨rfl, rfl⟩
  · obtain ⟨rfl, hslash⟩ := List.cons.inj heq
    cases words with
    | nil => rcases hother with rfl | ⟨rfl, rfl⟩ <;> cases hslash
    | cons d words =>
      obtain ⟨rfl, -⟩ := List.cons.inj hslash
      exact (Text.not_holdsEnd_cons.1 hwords).1 rfl rfl
  · cases heq

/-- A block comment has one end, as the first mark that can close it does. -/
theorem EndsComment.eq {others ending other tail : List Char} (hends : EndsComment ending rest)
    (hends' : EndsComment other tail) (hwords : ¬Text.HoldsEnd words)
    (hothers : ¬Text.HoldsEnd others)
    (h : words ++ (ending ++ rest) = others ++ (other ++ tail)) :
    words = others ∧ ending = other := by
  induction words generalizing others with
  | nil =>
    by_cases hnil : others = []
    · subst hnil
      refine ⟨rfl, ?_⟩
      rcases hends with rfl | ⟨rfl, rfl⟩ <;> rcases hends' with rfl | ⟨rfl, rfl⟩
      · rfl
      · cases h
      · cases h
      · rfl
    · exact absurd h (hends.ne_words hends' hothers hnil)
  | cons c words ih =>
    cases others with
    | nil => exact absurd h.symm (hends'.ne_words hends hwords (List.cons_ne_nil _ _))
    | cons d others =>
      obtain ⟨rfl, hrest⟩ := List.cons.inj h
      obtain ⟨rfl, hending⟩ := ih (Text.not_holdsEnd_cons.1 hwords).2
        (Text.not_holdsEnd_cons.1 hothers).2 hrest
      exact ⟨rfl, hending⟩

/-- A line comment has one end. -/
theorem eq_of_lineEnds {others tail : List Char} (hwords : '\n' ∉ words) (hothers : '\n' ∉ others)
    (hrest : ∀ c ∈ rest.head?, c = '\n') (htail : ∀ c ∈ tail.head?, c = '\n')
    (h : words ++ rest = others ++ tail) : words = others := by
  have htake {words rest : List Char} (hwords : '\n' ∉ words) (hrest : ∀ c ∈ rest.head?, c = '\n') :
      (words ++ rest).takeWhile (· != '\n') = words := by
    have hnone : rest.takeWhile (· != '\n') = [] := by
      cases rest with
      | nil => rfl
      | cons c rest => simp [hrest c rfl]
    rw [List.takeWhile_append_of_pos fun c hc => ?_, hnone, List.append_nil]
    simpa using fun heq : c = '\n' => hwords (heq ▸ hc)
  rw [← htake hwords hrest, h, htake hothers htail]

/-- The same text begins with the same piece. -/
theorem Begins.piece_eq {piece other : Piece} {same tail : List Char}
    (h : Begins lineComments text piece rest) (hother : Begins lineComments same other tail)
    (heq : text = same) : piece = other := by
  -- the first two characters tell the kinds of pieces apart
  cases h with
  | code hliteral hcomment =>
    cases hother with
    | code => rw [(List.cons.inj heq).1]
    | literal hopens => simp [(List.cons.inj heq).1, hopens] at hliteral
    | lineComment hline =>
      obtain ⟨rfl, rfl⟩ := List.cons.inj heq
      simp [opensComment, hline] at hcomment
    | blockComment =>
      obtain ⟨rfl, rfl⟩ := List.cons.inj heq
      simp [opensComment] at hcomment
  | literal hopens hbody hends =>
    cases hother with
    | code hliteral => simp [← (List.cons.inj heq).1, hopens] at hliteral
    | literal _ hbody' hends' =>
      obtain ⟨rfl, hinside⟩ := List.cons.inj heq
      obtain ⟨rfl, rfl⟩ := hbody.eq hbody' hends hends' (closesLiteral_back hopens) hinside
      rfl
    | lineComment => simp [(List.cons.inj heq).1, opensLiteral_slash] at hopens
    | blockComment => simp [(List.cons.inj heq).1, opensLiteral_slash] at hopens
  | lineComment hline hwords hrest =>
    cases hother with
    | code _ hcomment =>
      obtain ⟨rfl, rfl⟩ := List.cons.inj heq
      simp [opensComment, hline] at hcomment
    | literal hopens => simp [← (List.cons.inj heq).1, opensLiteral_slash] at hopens
    | lineComment _ hwords' hrest' =>
      have hinside := (List.cons.inj (List.cons.inj heq).2).2
      rw [eq_of_lineEnds hwords hwords' hrest hrest' hinside]
    | blockComment => cases (List.cons.inj (List.cons.inj heq).2).1
  | blockComment hwords hends =>
    cases hother with
    | code _ hcomment =>
      obtain ⟨rfl, rfl⟩ := List.cons.inj heq
      simp [opensComment] at hcomment
    | literal hopens => simp [← (List.cons.inj heq).1, opensLiteral_slash] at hopens
    | lineComment => cases (List.cons.inj (List.cons.inj heq).2).1
    | blockComment hwords' hends' =>
      have hinside := (List.cons.inj (List.cons.inj heq).2).2
      obtain ⟨rfl, rfl⟩ := hends.eq hends' hwords hwords' hinside
      rfl

/-- A text begins with one piece. -/
theorem Begins.eq {piece other : Piece} {tail : List Char} (h : Begins lineComments text piece rest)
    (hother : Begins lineComments text other tail) : piece = other ∧ rest = tail := by
  obtain rfl := h.piece_eq hother rfl
  exact ⟨rfl, List.append_cancel_left (h.text_eq.symm.trans hother.text_eq)⟩

/-! ### All pieces of a text -/

/-- Every text can be divided into pieces. -/
theorem exists_division (lineComments : Bool) (text : List Char) :
    ∃ pieces, Division lineComments text pieces := by
  by_cases hne : text = []
  · exact ⟨[], hne ▸ .nil⟩
  · obtain ⟨piece, rest, hbegins⟩ := exists_begins lineComments hne
    have hlength := hbegins.length_lt
    obtain ⟨pieces, hrest⟩ := exists_division lineComments rest
    exact ⟨piece :: pieces, .cons hbegins hrest⟩
termination_by text.length

namespace Division

variable {pieces others : List Piece}

/-- A text can be divided into pieces in one way only. -/
theorem eq (h : Division lineComments text pieces) (hothers : Division lineComments text others) :
    pieces = others := by
  induction h generalizing others with
  | nil =>
    cases hothers with
    | nil => rfl
    | cons hbegins => exact absurd hbegins.length_lt (Nat.not_lt_zero _)
  | cons hbegins _ ih =>
    cases hothers with
    | nil => exact absurd hbegins.length_lt (Nat.not_lt_zero _)
    | cons hother hrest =>
      obtain ⟨rfl, rfl⟩ := hbegins.eq hother
      rw [ih hrest]

theorem text_eq (h : Division lineComments text pieces) : text = pieces.flatMap Piece.written := by
  induction h with
  | nil => rfl
  | cons hbegins _ ih => rw [hbegins.text_eq, ih, List.flatMap_cons]

end Division

end SfcBundler.Scan
