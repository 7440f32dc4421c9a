import SfcBundler.Json.Comments
import SfcBundler.Proofs.Text.Fields

/-!
# Texts with comments

The text of a configuration is made of literals, of code without quotes and slashes, and of
comments, which may hold anything but what ends them. Literals and code are kept as they are:
a literal may look like a comment, and a comment like a literal.

What is left of any text has no comments. A slash in front of a comment would have opened a line
comment itself, so no slash that is left comes to stand before a slash or a star.

## Main definitions

* `Json.IsBody`: what may stand between the quotes of a literal
* `Json.Fragment`, `Json.Document`: texts with comments
* `Json.Document.written`, `Json.Document.kept`: such a text, and what is left of it

## Main results

* `Json.stripFrom_written`: what is left of a fragment, whatever follows it
* `Json.stripFrom_stripFrom`: what is left of a text has no comments
* `Json.stripComments_exact`: both for whole texts
-/

namespace SfcBundler.Json

/-! ### Fragments -/

/-- What may stand between the quotes of a literal: characters other than quotes and backslashes,
and backslashes with whatever they escape. -/
inductive IsBody : List Char → Prop
  | nil : IsBody []
  | bare {c : Char} {rest : List Char} : c ≠ '\x22' → c ≠ '\\' → IsBody rest → IsBody (c :: rest)
  | escaped (c : Char) {rest : List Char} : IsBody rest → IsBody ('\\' :: c :: rest)

/-- A fragment of a text with comments. -/
inductive Fragment where
  | literal (body : List Char) (isBody : IsBody body)
  | code (text : List Char) (isBare : ∀ c ∈ text, c ≠ '\x22' ∧ c ≠ '/')
  | lineComment (words : List Char) (isLine : '\n' ∉ words)
  | blockComment (words : List Char) (isOpen : ¬Text.HoldsEnd words)

namespace Fragment

/-- The text of a fragment. -/
def written : Fragment → List Char
  | literal body _ => '\x22' :: (body ++ ['\x22'])
  | code text _ => text
  | lineComment words _ => '/' :: '/' :: (words ++ ['\n'])
  | blockComment words _ => '/' :: '*' :: (words ++ ['*', '/'])

/-- What is left of a fragment without comments. -/
def kept : Fragment → List Char
  | literal body _ => '\x22' :: (body ++ ['\x22'])
  | code text _ => text
  | lineComment _ _ => ['\n']
  | blockComment _ _ => []

end Fragment

/-- A text with comments. The last line may be a comment that no line end closes. -/
structure Document where
  fragments : List Fragment
  lastLine : Option { words : List Char // '\n' ∉ words } := none

namespace Document

/-- The text of a document. -/
def written (document : Document) : List Char :=
  document.fragments.flatMap Fragment.written ++
    match document.lastLine with
    | some words => '/' :: '/' :: words.val
    | none => []

/-- What is left of a document without comments. -/
def kept (document : Document) : List Char := document.fragments.flatMap Fragment.kept

end Document

section Step

variable {text words body : List Char} {rest : List Char}

theorem stripFrom_body (h : IsBody body) :
    stripFrom (.literal false) (body ++ '\x22' :: rest) =
      body ++ '\x22' :: stripFrom .plain rest := by
  induction h with
  | nil => rfl
  | bare hquote hback _ ih => simp [stripFrom, CommentRegion.step, hquote, hback, ih]
  | escaped c _ ih => simp [stripFrom, CommentRegion.step, ih]

/-- A character that opens neither a literal nor a comment is left. -/
theorem stripFrom_plain_cons {c : Char} (hquote : c ≠ '\x22')
    (hopens : c = '/' → rest.head? ≠ some '/' ∧ rest.head? ≠ some '*') :
    stripFrom .plain (c :: rest) = c :: stripFrom .plain rest := by
  have hline : ¬(c = '/' ∧ rest.head? = some '/') := fun h => (hopens h.1).1 h.2
  have hblock : ¬(c = '/' ∧ rest.head? = some '*') := fun h => (hopens h.1).2 h.2
  simp [stripFrom, CommentRegion.step, hquote, hline, hblock]

theorem stripFrom_code (h : ∀ c ∈ text, c ≠ '\x22' ∧ c ≠ '/') :
    stripFrom .plain (text ++ rest) = text ++ stripFrom .plain rest := by
  induction text with
  | nil => rfl
  | cons c text ih =>
    obtain ⟨⟨hquote, hslash⟩, htext⟩ := List.forall_mem_cons.1 h
    rw [List.cons_append, stripFrom_plain_cons hquote (absurd · hslash), ih htext,
      List.cons_append]

/-- Nothing of a line comment is left up to the end of the line. -/
theorem stripFrom_line (h : '\n' ∉ words) :
    stripFrom .line (words ++ rest) = stripFrom .line rest := by
  induction words with
  | nil => rfl
  | cons c words ih =>
    rw [List.mem_cons, not_or] at h
    simp [stripFrom, CommentRegion.step, Ne.symm h.1, ih h.2]

/-- Nothing of a block comment is left up to its end. -/
theorem stripFrom_block (h : ¬Text.HoldsEnd words) {afterStar : Bool}
    (hstar : afterStar → words.head? ≠ some '/') :
    stripFrom (.block afterStar) (words ++ '*' :: '/' :: rest) = stripFrom .plain rest := by
  induction words generalizing afterStar with
  | nil => simp [stripFrom, CommentRegion.step]
  | cons c words ih =>
    obtain ⟨hclose, hwords⟩ := Text.not_holdsEnd_cons.1 h
    -- a slash behind a star would close the comment
    have hgoes : (afterStar && c = '/') = false := by
      cases afterStar with
      | false => rfl
      | true => simpa using hstar rfl
    have hnext : stripFrom (.block (c = '*')) (words ++ '*' :: '/' :: rest) =
        stripFrom .plain rest :=
      ih hwords fun hstar => hclose (by simpa using hstar)
    simp [stripFrom, CommentRegion.step, hgoes, hnext]

/-- What is left of a fragment, whatever follows it. -/
theorem stripFrom_written (fragment : Fragment) :
    stripFrom .plain (fragment.written ++ rest) = fragment.kept ++ stripFrom .plain rest := by
  cases fragment with
  | literal body isBody =>
    have hopen : stripFrom .plain ('\x22' :: (body ++ '\x22' :: rest)) =
        '\x22' :: stripFrom (.literal false) (body ++ '\x22' :: rest) := rfl
    simpa [Fragment.written, Fragment.kept, stripFrom_body isBody] using hopen
  | code text isBare => exact stripFrom_code isBare
  | lineComment words isLine =>
    have hopen : stripFrom .plain ('/' :: '/' :: (words ++ '\n' :: rest)) =
        stripFrom .line (words ++ '\n' :: rest) := rfl
    have hclose : stripFrom .line ('\n' :: rest) = '\n' :: stripFrom .plain rest := rfl
    simpa [Fragment.written, Fragment.kept, stripFrom_line isLine, hclose] using hopen
  | blockComment words isOpen =>
    have hopen : stripFrom .plain ('/' :: '*' :: (words ++ '*' :: '/' :: rest)) =
        stripFrom (.block false) (words ++ '*' :: '/' :: rest) := rfl
    simpa [Fragment.written, Fragment.kept, stripFrom_block isOpen] using hopen

end Step

theorem stripComments_written (document : Document) :
    stripComments document.written = document.kept := by
  obtain ⟨fragments, lastLine⟩ := document
  rw [stripComments, Document.written, Document.kept]
  dsimp only
  induction fragments with
  | nil =>
    cases lastLine with
    | none => rfl
    | some words =>
      have hnothing : stripFrom .line (words.val ++ []) = [] := stripFrom_line words.property
      rw [List.append_nil] at hnothing
      exact hnothing
  | cons fragment fragments ih =>
    rw [List.flatMap_cons, List.flatMap_cons, List.append_assoc, stripFrom_written, ih]

/-! ### What is left -/

/-- The region in which the first character that is left behind a region is read again. -/
def CommentRegion.again : CommentRegion → CommentRegion
  | literal escaped => literal escaped
  | _ => plain

/-- A character that opens no comment is left. -/
theorem head?_stripFrom {text : List Char} (h : text.head? ≠ some '/') :
    (stripFrom .plain text).head? = text.head? := by
  cases text with
  | nil => rfl
  | cons c rest =>
    have hslash : c ≠ '/' := by simpa using h
    by_cases hquote : c = '\x22'
    · rw [hquote]
      rfl
    · rw [stripFrom_plain_cons hquote (absurd · hslash)]
      rfl

/-- What is left of a text has no comments. -/
theorem stripFrom_stripFrom (region : CommentRegion) (text : List Char) :
    stripFrom region.again (stripFrom region text) = stripFrom region text := by
  induction text generalizing region with
  | nil => rfl
  | cons c rest ih =>
    cases region with
    | plain =>
      by_cases hquote : c = '\x22'
      · simpa [stripFrom, CommentRegion.step, CommentRegion.again, hquote] using ih (.literal false)
      by_cases hline : c = '/' ∧ rest.head? = some '/'
      · simpa [stripFrom, CommentRegion.step, CommentRegion.again, hline] using ih .line
      by_cases hblock : c = '/' ∧ rest.head? = some '*'
      · simpa [stripFrom, CommentRegion.step, CommentRegion.again, hblock] using ih .opening
      have hopens : c = '/' → rest.head? ≠ some '/' ∧ rest.head? ≠ some '*' := fun hslash =>
        ⟨fun hhead => hline ⟨hslash, hhead⟩, fun hhead => hblock ⟨hslash, hhead⟩⟩
      -- what follows a slash that is left is left as well, so the slash still opens no comment
      have hstill : c = '/' → (stripFrom .plain rest).head? ≠ some '/' ∧
          (stripFrom .plain rest).head? ≠ some '*' := by
        intro hslash
        rw [head?_stripFrom (hopens hslash).1]
        exact hopens hslash
      change stripFrom .plain (stripFrom .plain (c :: rest)) = stripFrom .plain (c :: rest)
      rw [stripFrom_plain_cons hquote hopens, stripFrom_plain_cons hquote hstill]
      exact congrArg _ (ih .plain)
    | literal escaped =>
      have hnext (region : CommentRegion) (hsame : region.again = region) :
          c :: stripFrom region (stripFrom region rest) = c :: stripFrom region rest := by
        have hregion := ih region
        rw [hsame] at hregion
        rw [hregion]
      -- behind a character of a literal stands the same one as before
      simp only [stripFrom, CommentRegion.step, CommentRegion.again, Option.toList_some,
        List.singleton_append]
      refine hnext _ ?_
      split
      · rfl
      split
      · rfl
      split <;> rfl
    | line =>
      by_cases hend : c = '\n'
      · have hplain : stripFrom .plain (stripFrom .plain rest) = stripFrom .plain rest := ih .plain
        simp [stripFrom, CommentRegion.step, CommentRegion.again, hend, hplain]
      · simpa [stripFrom, CommentRegion.step, CommentRegion.again, hend] using ih .line
    | opening => exact ih (.block false)
    | block afterStar =>
      by_cases hend : (afterStar && c = '/') = true
      · simpa [stripFrom, CommentRegion.step, CommentRegion.again, hend] using ih .plain
      · simpa [stripFrom, CommentRegion.step, CommentRegion.again, hend] using ih (.block (c = '*'))

/-- What is left of a text with comments is what its fragments say, and what is left of any text has
no comments. -/
theorem stripComments_exact :
    (∀ document : Document, stripComments document.written = document.kept) ∧
      ∀ text, stripComments (stripComments text) = stripComments text :=
  ⟨stripComments_written, stripFrom_stripFrom .plain⟩

/-- A slash behind the opening star does not close a comment, nor does a quote in it open a literal,
and marks of comments in a literal open none. -/
example : stripComments "[/*/ \"//*/ \"\\\"/**/\" /***/] // \"".toList =
    "[ \"\\\"/**/\" ] ".toList := by decide

end SfcBundler.Json
