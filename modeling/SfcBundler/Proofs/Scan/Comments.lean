import Mathlib.Data.List.Forall2
import SfcBundler.Proofs.Scan.Pieces

/-!
# Comments blanked out in place

The scanner knows no pieces of a text, it goes from character to character. But what it writes is
each piece in its place: code and literals as they are, and comments as blanks.

What is left of a text has no comments. A slash that is left stands before the character that it
stood before, or before the first blank of a comment, so it opens no comment now either.

## Main definitions

* `Scan.Piece.Alike`: comments that differ inside, and other pieces that do not differ
* `Scan.BlanksOut`: a text with the comments among its pieces blanked out

## Main results

* `Scan.Begins.blankFrom_eq`: what the scanner writes for a piece, whatever follows it
* `Scan.Division.divided`: what is left of a text, divided into pieces
* `Scan.blankComments_faithful`: comments are blanked out in place, and nothing else is
-/

namespace SfcBundler.Scan

variable {lineComments : Bool} {text words body rest : List Char}

/-! ### What is left of a text -/

namespace Piece

/-- A piece in a text with its comments blanked out. -/
def shown (piece : Piece) : List Char :=
  if piece.isComment then piece.written.map blanked else piece.written

/-- A piece divided into pieces again after it was blanked out. -/
def divided (piece : Piece) : List Piece :=
  if piece.isComment then piece.shown.map code else [piece]

/-- The characters of a piece, and whether they stand in a comment. -/
def places (piece : Piece) : List (Char × Bool) := piece.written.map (·, piece.isComment)

/-- Comments between the same marks, with words that differ in other characters than line ends; or
pieces that do not differ. -/
inductive Alike : Piece → Piece → Prop
  | refl (piece : Piece) : Alike piece piece
  | comment (opening ending : List Char) {words others : List Char} :
    words.map blanked = others.map blanked →
    Alike (.comment opening words ending) (.comment opening others ending)

end Piece

/-- What is left of a character: a blank, if it stands in a comment and is no line end. -/
def blankedAt (place : Char × Bool) : Char :=
  if place.2 && place.1 != '\n' then ' ' else place.1

/-! ### What is written for a piece -/

theorem step_code {next : Option Char} {c : Char} (hliteral : opensLiteral c = false)
    (hcomment : opensComment lineComments c next = false) :
    Region.step lineComments next c .code = (c, .code) := by
  by_cases hslash : c = '/'
  · simp only [opensComment, hslash, beq_self_eq_true, Bool.true_and, Bool.or_eq_false_iff,
      Bool.and_eq_false_iff, beq_eq_false_iff_ne] at hcomment
    obtain ⟨hblock, hline⟩ := hcomment
    rcases hline with hline | hline <;> simp [Region.step, hliteral, hblock, hline]
  · simp [Region.step, hliteral, hslash]

theorem step_literal (next : Option Char) (quote c : Char) :
    Region.step lineComments next c (.literal quote) =
      (c, if c = '\\' then .escaped quote else if closesLiteral quote c then .code
        else .literal quote) := by
  simp [Region.step, closesLiteral]

theorem blankFrom_body {quote : Char} (h : IsBody quote body) (rest : List Char) :
    blankFrom lineComments (.literal quote) (body ++ rest) =
      body ++ blankFrom lineComments (.literal quote) rest := by
  induction h with
  | nil => rfl
  | bare hopen hback _ ih => simp [blankFrom, step_literal, hopen, hback, ih]
  | escaped c _ ih => simp [blankFrom, Region.step, ih]

theorem EndsLiteral.blankFrom_eq {quote : Char} {ending : List Char}
    (h : EndsLiteral quote ending rest) (hback : closesLiteral quote '\\' = false) :
    blankFrom lineComments (.literal quote) (ending ++ rest) =
      ending ++ blankFrom lineComments .code rest := by
  rcases h with ⟨c, hcloses, rfl⟩ | ⟨rfl | rfl, rfl⟩
  · have hne : c ≠ '\\' := by
      rintro rfl
      rw [hback] at hcloses
      cases hcloses
    simp [blankFrom, step_literal, hne, hcloses]
  · rfl
  · rfl

/-- The words of a line comment are blanked out. -/
theorem blankFrom_line (h : '\n' ∉ words) (rest : List Char) :
    blankFrom lineComments .line (words ++ rest) =
      words.map blanked ++ blankFrom lineComments .line rest := by
  induction words with
  | nil => rfl
  | cons c words ih =>
    rw [List.mem_cons, not_or] at h
    simp [blankFrom, Region.step, Ne.symm h.1, ih h.2]

/-- The words of a block comment are blanked out. A slash in front of them is not one behind a
star. -/
theorem EndsComment.blankFrom_eq {ending : List Char} (h : EndsComment ending rest)
    (hwords : ¬Text.HoldsEnd words) {afterStar : Bool}
    (hstar : afterStar → words.head? ≠ some '/') :
    blankFrom lineComments (.block afterStar) (words ++ (ending ++ rest)) =
      (words ++ ending).map blanked ++ blankFrom lineComments .code rest := by
  induction words generalizing afterStar with
  | nil =>
    rcases h with rfl | ⟨rfl, rfl⟩
    · simp [blankFrom, Region.step]
    · rfl
  | cons c words ih =>
    obtain ⟨hclose, hwords⟩ := Text.not_holdsEnd_cons.1 hwords
    -- a slash behind a star would close the comment
    have hgoes : (afterStar && c = '/') = false := by
      cases afterStar with
      | false => rfl
      | true => simpa using hstar rfl
    have hnext : blankFrom lineComments (.block (c = '*')) (words ++ (ending ++ rest)) =
        (words ++ ending).map blanked ++ blankFrom lineComments .code rest :=
      ih hwords fun hstar => hclose (by simpa using hstar)
    simp [blankFrom, Region.step, hgoes, hnext]

/-- What is written for the first piece of a text, whatever follows it. -/
theorem Begins.blankFrom_eq {piece : Piece} (h : Begins lineComments text piece rest) :
    blankFrom lineComments .code text = piece.shown ++ blankFrom lineComments .code rest := by
  cases h with
  | code hliteral hcomment =>
    simp [blankFrom, step_code hliteral hcomment, Piece.shown, Piece.written, Piece.isComment]
  | @literal quote body ending rest hopens hbody hends =>
    have hopen : blankFrom lineComments .code (quote :: (body ++ (ending ++ rest))) =
        quote :: blankFrom lineComments (.literal quote) (body ++ (ending ++ rest)) := by
      simp [blankFrom, Region.step, hopens]
    rw [hopen, blankFrom_body hbody, hends.blankFrom_eq (closesLiteral_back hopens)]
    simp [Piece.shown, Piece.written, Piece.isComment]
  | @lineComment words rest hline hwords hrest =>
    have hopen : blankFrom lineComments .code ('/' :: '/' :: (words ++ rest)) =
        ' ' :: ' ' :: blankFrom lineComments .line (words ++ rest) := by
      rw [hline]
      rfl
    -- only a line end or the end of the text may follow, and either closes the comment
    have hend : blankFrom lineComments .line rest = blankFrom lineComments .code rest := by
      cases rest with
      | nil => rfl
      | cons c rest =>
        obtain rfl := hrest c rfl
        rfl
    rw [hopen, blankFrom_line hwords, hend]
    simp [Piece.shown, Piece.written, Piece.isComment, blanked]
  | @blockComment words ending rest hwords hends =>
    have hopen : blankFrom lineComments .code ('/' :: '*' :: (words ++ (ending ++ rest))) =
        ' ' :: ' ' :: blankFrom lineComments (.block false) (words ++ (ending ++ rest)) := rfl
    have hinside : blankFrom lineComments (.block false) (words ++ (ending ++ rest)) =
        (words ++ ending).map blanked ++ blankFrom lineComments .code rest :=
      hends.blankFrom_eq hwords (by simp)
    rw [hopen, hinside]
    simp [Piece.shown, Piece.written, Piece.isComment, blanked]

namespace Division

variable {pieces : List Piece}

theorem blankComments_eq (h : Division lineComments text pieces) :
    blankComments lineComments text = pieces.flatMap Piece.shown := by
  rw [blankComments]
  induction h with
  | nil => rfl
  | cons hbegins _ ih => rw [hbegins.blankFrom_eq, ih, List.flatMap_cons]

/-- Blanks in front of a text are code. -/
theorem blanks (h : Division lineComments rest pieces) (words : List Char) :
    Division lineComments (words.map blanked ++ rest)
      ((words.map blanked).map .code ++ pieces) := by
  induction words with
  | nil => exact h
  | cons c words ih =>
    refine .cons (.code ?_ ?_) ih
    · rw [blanked]
      split <;> decide
    · rw [blanked]
      split <;> rfl

end Division

/-- What is left of a text begins as the text does, or with a blank. -/
theorem head?_blankFrom (text : List Char) :
    (blankFrom lineComments .code text).head? = text.head? ∨
      (blankFrom lineComments .code text).head? = some ' ' := by
  cases text with
  | nil => exact .inl rfl
  | cons c rest =>
    simp only [blankFrom, Region.step, List.head?_cons]
    split
    · exact .inl rfl
    split
    · exact .inr rfl
    split
    · exact .inr rfl
    · exact .inl rfl

theorem opensComment_blank {c : Char} {next next' : Option Char}
    (h : opensComment lineComments c next = false) (hnext : next' = next ∨ next' = some ' ') :
    opensComment lineComments c next' = false := by
  rcases hnext with rfl | rfl
  · exact h
  · simp [opensComment]

theorem EndsLiteral.blank {quote : Char} {ending : List Char} (h : EndsLiteral quote ending rest) :
    EndsLiteral quote ending (blankFrom lineComments .code rest) := by
  refine h.imp id fun ⟨hending, hrest⟩ => ⟨hending, ?_⟩
  rw [hrest]
  rfl

/-- What is left of a text is divided as the text is, with a blank for each character of a
comment. -/
theorem Division.divided {pieces : List Piece} (h : Division lineComments text pieces) :
    Division lineComments (blankComments lineComments text) (pieces.flatMap Piece.divided) := by
  rw [blankComments]
  induction h with
  | nil => exact .nil
  | @cons text rest piece pieces hbegins _ ih =>
    rw [hbegins.blankFrom_eq, List.flatMap_cons]
    cases hbegins with
    | code hliteral hcomment =>
      exact .cons (.code hliteral (opensComment_blank hcomment (head?_blankFrom rest))) ih
    | @literal quote body ending _ hopens hbody hends =>
      have hblank : Begins lineComments
          (quote :: (body ++ (ending ++ blankFrom lineComments .code rest)))
          (.literal (quote :: (body ++ ending))) (blankFrom lineComments .code rest) :=
        .literal hopens hbody hends.blank
      refine .cons ?_ ih
      simpa [Piece.shown, Piece.written, Piece.isComment] using hblank
    | lineComment | blockComment => exact ih.blanks _

/-- No piece of what is left is a comment. -/
theorem isComment_of_mem_divided {piece other : Piece} (h : other ∈ piece.divided) :
    other.isComment = false := by
  rw [Piece.divided] at h
  split at h
  · obtain ⟨c, -, rfl⟩ := List.mem_map.1 h
    rfl
  · rename_i hcode
    rw [List.mem_singleton.1 h]
    simpa using hcode

theorem Division.blankComments_of_isComment {pieces : List Piece}
    (h : Division lineComments text pieces) (hnone : ∀ piece ∈ pieces, piece.isComment = false) :
    blankComments lineComments text = text := by
  have hshown : pieces.map Piece.shown = pieces.map Piece.written :=
    List.map_congr_left fun piece hpiece => by simp [Piece.shown, hnone piece hpiece]
  rw [h.blankComments_eq, List.flatMap_def, hshown, ← List.flatMap_def, ← h.text_eq]

/-- Pieces that differ inside of comments alone are shown alike. -/
theorem flatMap_shown_of_alike {pieces others : List Piece}
    (h : List.Forall₂ Piece.Alike pieces others) :
    others.flatMap Piece.shown = pieces.flatMap Piece.shown := by
  induction h with
  | nil => rfl
  | cons hpiece _ ih =>
    rw [List.flatMap_cons, List.flatMap_cons, ih]
    cases hpiece with
    | refl => rfl
    | comment opening ending hwords => simp [Piece.shown, Piece.written, Piece.isComment, hwords]

/-! ### Places -/

theorem map_fst_flatMap_places (pieces : List Piece) :
    (pieces.flatMap Piece.places).map Prod.fst = pieces.flatMap Piece.written := by
  rw [List.map_flatMap]
  congr 1
  funext piece
  simp [Piece.places, Function.comp_def]

theorem blankedAt_code (c : Char) : blankedAt (c, false) = c := rfl

theorem blankedAt_comment (c : Char) : blankedAt (c, true) = blanked c := by
  by_cases hend : c = '\n' <;> simp [blankedAt, blanked, hend]

theorem map_blankedAt_flatMap_places (pieces : List Piece) :
    (pieces.flatMap Piece.places).map blankedAt = pieces.flatMap Piece.shown := by
  rw [List.map_flatMap]
  congr 1
  funext piece
  cases hcomment : piece.isComment <;>
    simp [Piece.places, Piece.shown, blankedAt_code, blankedAt_comment, hcomment, Function.comp_def]

theorem blankedAt_eq_lineEnd (place : Char × Bool) : blankedAt place = '\n' ↔ place.1 = '\n' := by
  obtain ⟨c, inside⟩ := place
  by_cases hend : c = '\n' <;> cases inside <;> simp [blankedAt, hend]

/-- What is left of a text when its comments are blanked out. -/
structure BlanksOut (lineComments : Bool) (text : List Char) (pieces : List Piece)
    (blank : List Char) : Prop where
  division : ∀ others, Division lineComments text others ↔ others = pieces
  text_eq : text = (pieces.flatMap Piece.places).map Prod.fst
  blank_eq : blank = (pieces.flatMap Piece.places).map blankedAt
  length_eq : blank.length = text.length
  lineEnd_iff : ∀ place : Nat, blank[place]? = some '\n' ↔ text[place]? = some '\n'
  noComments : ∃ others, Division lineComments blank others ∧
    ∀ piece ∈ others, piece.isComment = false
  again : blankComments lineComments blank = blank
  alike : ∀ other others, Division lineComments other others →
    List.Forall₂ Piece.Alike pieces others → blankComments lineComments other = blank

/-- Comments are blanked out in place, and nothing else is. A text is divided into code, literals
and comments in one way only; character by character, what stands in a comment and is no line end
becomes a blank, and everything else stays as it is. What is left has no comments, and is the same
for every text that differs inside of comments alone. -/
theorem blankComments_faithful (lineComments : Bool) (text : List Char) :
    ∃ pieces, BlanksOut lineComments text pieces (blankComments lineComments text) := by
  obtain ⟨pieces, hdivision⟩ := exists_division lineComments text
  have htext : text = (pieces.flatMap Piece.places).map Prod.fst := by
    rw [map_fst_flatMap_places]
    exact hdivision.text_eq
  have hblank : blankComments lineComments text = (pieces.flatMap Piece.places).map blankedAt := by
    rw [map_blankedAt_flatMap_places]
    exact hdivision.blankComments_eq
  -- what is left of a comment divides into code
  have hnone : ∀ piece ∈ pieces.flatMap Piece.divided, piece.isComment = false := by
    intro piece hpiece
    obtain ⟨whole, -, hmem⟩ := List.mem_flatMap.1 hpiece
    exact isComment_of_mem_divided hmem
  refine ⟨pieces, ?_, htext, hblank, blankComments_length lineComments text, ?_,
    ⟨_, hdivision.divided, hnone⟩, hdivision.divided.blankComments_of_isComment hnone, ?_⟩
  · intro others
    constructor
    · intro hothers
      exact hothers.eq hdivision
    · rintro rfl
      exact hdivision
  · intro place
    rw [hblank, htext]
    simp only [List.getElem?_map, Option.map_eq_some_iff, blankedAt_eq_lineEnd]
  · intro other others hothers halike
    rw [hothers.blankComments_eq, hdivision.blankComments_eq, flatMap_shown_of_alike halike]

/-- A slash behind the opening star does not close a comment, a backslash keeps a literal open, and
a line end closes one. -/
example : blankComments true "a/*/ b\n*/'//\\'//'c//'\n\x60\n//".toList =
    "a     \n  '//\\'//'c   \n\x60\n//".toList := by decide

end SfcBundler.Scan
