/-!
# Cutting texts apart

Texts are cut as lists of characters: at the first mark, at every mark, and at either end.

## Main definitions

* `Text.cut`: the text before and after the first mark
* `Text.fields`: the pieces between all marks
* `Text.dropEnd`: a text without its last run of one character
* `Text.unixLines`: a text whose two-character line ends are single ones

## Main results

* `Text.isPrefixOf?_eq_some`: what is left behind a prefix
* `Text.cut_eq_some`: the two halves and the mark are the text, and the first half holds no mark
* `Text.join_fields`: joining the pieces with the mark gives the text back
-/

namespace SfcBundler.Text

theorem isPrefixOf?_eq_some {front text rest : List Char} :
    front.isPrefixOf? text = some rest ↔ text = front ++ rest := by
  induction front generalizing text with
  | nil =>
    change some text = some rest ↔ text = rest
    rw [Option.some.injEq]
  | cons c front ih =>
    cases text with
    | nil =>
      change none = some rest ↔ [] = c :: (front ++ rest)
      simp
    | cons d text =>
      change (if c == d then front.isPrefixOf? text else none) = some rest ↔
        d :: text = c :: (front ++ rest)
      by_cases h : c = d
      · simp [h, ih]
      · simp [h, Ne.symm h]

/-- The text before and after the first `mark`; `none` when the text holds no mark. -/
def cut (mark : Char) : List Char → Option (List Char × List Char)
  | [] => none
  | c :: rest =>
    if c = mark then some ([], rest)
    else (cut mark rest).map fun halves => (c :: halves.1, halves.2)

theorem cut_eq_none {mark : Char} {text : List Char} : cut mark text = none ↔ mark ∉ text := by
  induction text with
  | nil => simp [cut]
  | cons c rest ih =>
    by_cases h : c = mark
    · simp [cut, h]
    · simp [cut, h, ih, Ne.symm h]

theorem cut_append {mark : Char} {before : List Char} (h : mark ∉ before) (after : List Char) :
    cut mark (before ++ mark :: after) = some (before, after) := by
  induction before with
  | nil => simp [cut]
  | cons c rest ih =>
    simp only [List.mem_cons, not_or] at h
    simp [cut, Ne.symm h.1, ih h.2]

theorem cut_eq_some {mark : Char} {text before after : List Char} :
    cut mark text = some (before, after) ↔ text = before ++ mark :: after ∧ mark ∉ before := by
  constructor
  · induction text generalizing before with
    | nil => simp [cut]
    | cons c rest ih =>
      by_cases h : c = mark
      · simp only [cut, h, if_true, Option.some.injEq, Prod.mk.injEq]
        rintro ⟨rfl, rfl⟩
        simp
      · simp only [cut, h, if_false, Option.map_eq_some_iff, Prod.mk.injEq]
        rintro ⟨⟨a, b⟩, hcut, rfl, rfl⟩
        obtain ⟨rfl, hmem⟩ := ih hcut
        exact ⟨rfl, by simp [Ne.symm h, hmem]⟩
  · rintro ⟨rfl, h⟩
    exact cut_append h after

/-- The pieces of a text between its marks, always at least one. -/
def fields (mark : Char) : List Char → List (List Char)
  | [] => [[]]
  | c :: rest =>
    if c = mark then [] :: fields mark rest
    else match fields mark rest with
      | [] => [[c]]
      | piece :: pieces => (c :: piece) :: pieces

theorem fields_ne_nil (mark : Char) (text : List Char) : fields mark text ≠ [] := by
  cases text with
  | nil => simp [fields]
  | cons c rest =>
    by_cases h : c = mark
    · simp [fields, h]
    · simp only [fields, h, if_false]
      split <;> simp

/-- Pieces written one after the other with a separator between them. -/
def join (separator : List Char) : List (List Char) → List Char
  | [] => []
  | [piece] => piece
  | piece :: next :: pieces => piece ++ separator ++ join separator (next :: pieces)

theorem join_fields (mark : Char) (text : List Char) :
    join [mark] (fields mark text) = text := by
  induction text with
  | nil => simp [fields, join]
  | cons c rest ih =>
    by_cases h : c = mark
    · obtain ⟨piece, pieces, hf⟩ := List.exists_cons_of_ne_nil (fields_ne_nil mark rest)
      rw [hf] at ih
      simp [fields, h, hf, join, ih]
    · obtain ⟨piece, pieces, hf⟩ := List.exists_cons_of_ne_nil (fields_ne_nil mark rest)
      rw [hf] at ih
      cases pieces with
      | nil => simpa [fields, h, hf, join] using ih
      | cons next pieces => simpa [fields, h, hf, join] using ih

/-- A text without the run of `mark` at its end. -/
def dropEnd (mark : Char) (text : List Char) : List Char :=
  (text.reverse.dropWhile (· == mark)).reverse

/-- A text in which every carriage return right before a line feed is left out. -/
def unixLines : List Char → List Char
  | [] => []
  | '\r' :: '\n' :: rest => '\n' :: unixLines rest
  | c :: rest => c :: unixLines rest

end SfcBundler.Text
