import Mathlib.Data.List.Chain
import Mathlib.Data.List.TakeWhile
import SfcBundler.Json.Printer

/-!
# Between the quotes of a printed text

A text is printed with a backslash in front of every double quote, and with its controls escaped. To
who does not know of escapes it seems to end at the first quote inside.

## Main definitions

* `Json.inner`: what a printed text holds between its quotes
* `Json.shown`: what of it stands in front of the first quote inside
* `Json.IsMild`: a text without single quotes and backslashes
* `Json.IsGuarded`: a text in which backslashes stand in front of all double quotes

## Main results

* `Json.IsMild.escape_cases`: a character of a mild text, printed
* `Json.IsMild.isGuarded_inner`: what a printed mild text holds is guarded
* `Json.shown_append`: what is shown of a text behind another
* `Json.shown_of_isPlain`: a plain text is shown as it is
* `Json.IsMild.shown_eq_self`: so is a mild text that is shown without escapes
-/

namespace SfcBundler.Json

/-- What a printed text holds between its quotes. -/
def inner (text : List Char) : List Char := text.flatMap escape

/-- What of a printed text stands in front of the first double quote inside. -/
def shown (text : List Char) : List Char := (inner text).takeWhile (· != '\x22')

/-- A text without single quotes and without backslashes. -/
def IsMild (text : List Char) : Prop := ∀ c ∈ text, c ≠ '\x27' ∧ c ≠ '\\'

instance (text : List Char) : Decidable (IsMild text) := List.decidableBAll _ text

/-- A text without single quotes in which a backslash stands in front of every double quote, except
for one at the start. -/
structure IsGuarded (text : List Char) : Prop where
  single_notMem : '\x27' ∉ text
  isChain : text.IsChain fun c d => d = '\x22' → c = '\\'

variable {text : List Char}

theorem IsGuarded.suffix (h : IsGuarded text) {back : List Char} (hback : back <:+ text) :
    IsGuarded back :=
  ⟨fun hsingle => h.single_notMem (hback.subset hsingle), h.isChain.suffix hback⟩

/-- No double quote follows on characters other than backslashes. -/
theorem IsGuarded.ne_double {front back : List Char} {c : Char} (h : IsGuarded (front ++ c :: back))
    (hne : front ≠ []) (hback : '\\' ∉ front) : c ≠ '\x22' := by
  intro hdouble
  obtain ⟨before, last, rfl⟩ : ∃ before last, front = before ++ [last] :=
    ⟨_, _, (List.dropLast_append_getLast hne).symm⟩
  have hchain := h.isChain
  rw [List.append_assoc, List.singleton_append, List.isChain_append_cons_cons] at hchain
  exact hback (by simp [hchain.2.1 hdouble])

theorem quote_eq_inner (text : List Char) : quote text = '\x22' :: inner text ++ ['\x22'] := rfl

@[simp]
theorem inner_nil : inner [] = [] := rfl

theorem inner_cons (c : Char) (text : List Char) : inner (c :: text) = escape c ++ inner text := rfl

theorem inner_append (front back : List Char) : inner (front ++ back) = inner front ++ inner back :=
  List.flatMap_append

theorem inner_of_isPlain (h : IsPlain text) : inner text = text := by
  have hquote := quote_of_isPlain h
  rw [quote_eq_inner] at hquote
  exact List.append_cancel_right (List.cons.inj hquote).2

theorem IsPlain.isMild (h : IsPlain text) : IsMild text := fun c hc =>
  ⟨(h c hc).2.1, (h c hc).2.2.1⟩

theorem IsPlain.double_notMem (h : IsPlain text) : '\x22' ∉ text := fun hdouble =>
  (h _ hdouble).1 rfl

/-- The digits of an escape are plain. -/
theorem isPlain_hexDigit (value : Nat) (h : value < 16) :
    IsPlain [hexDigit value] ∧ hexDigit value ≠ '/' := by
  have hall : ∀ value < 16, IsPlain [hexDigit value] ∧ hexDigit value ≠ '/' := by decide
  exact hall value h

/-- A character other than a backslash is printed as it is, or it is a double quote, or a backslash
is printed with plain characters behind it. -/
theorem escape_cases {c : Char} (hback : c ≠ '\\') :
    (escape c = [c] ∧ c ≠ '\x22' ∧ 0x20 ≤ c.toNat) ∨ (c = '\x22' ∧ escape c = ['\\', '\x22']) ∨
    ∃ d tail, escape c = '\\' :: d :: tail ∧ IsPlain (d :: tail) ∧ '/' ∉ d :: tail := by
  by_cases hdouble : c = '\x22'
  · exact .inr (.inl ⟨hdouble, by rw [hdouble]; rfl⟩)
  -- the letters of the controls are plain
  have hletters : ∀ entry ∈ escapeLetters, entry.2 = '\x22' ∨ entry.2 = '\\' ∨
      IsPlain [entry.1] ∧ '/' ∉ [entry.1] := by
    decide
  have hform := isEscape_escape c
  generalize escape c = form at hform ⊢
  cases hform with
  | letter hletter =>
    obtain ⟨hplain, hslash⟩ := ((hletters _ hletter).resolve_left hdouble).resolve_left hback
    exact .inr (.inr ⟨_, _, rfl, hplain, hslash⟩)
  | unit hcontrol =>
    obtain ⟨hhigh, hhighSlash⟩ := isPlain_hexDigit (c.toNat / 16) (by omega)
    obtain ⟨hlow, hlowSlash⟩ := isPlain_hexDigit (c.toNat % 16) (by omega)
    refine .inr (.inr ⟨_, _, rfl, ?_, ?_⟩)
    · have hdigits : IsPlain ([hexDigit (c.toNat / 16)] ++ [hexDigit (c.toNat % 16)]) :=
        isPlain_append.2 ⟨hhigh, hlow⟩
      have htail : IsPlain (['u', '0', '0'] ++ _) := isPlain_append.2 ⟨by decide, hdigits⟩
      exact htail
    · simp [Ne.symm hhighSlash, Ne.symm hlowSlash]
  | bare hquote _ hcontrol => exact .inl ⟨rfl, hquote, hcontrol⟩

/-- Double quotes are printed with a double quote inside, and so is nothing else. -/
theorem double_mem_inner : '\x22' ∈ inner text ↔ '\x22' ∈ text := by
  induction text with
  | nil => simp
  | cons c text ih =>
    have hescape : '\x22' ∈ escape c ↔ '\x22' = c := by
      by_cases hback : c = '\\'
      · rw [hback]
        decide
      · rcases escape_cases hback with
          ⟨hself, -, -⟩ | ⟨hdouble, hself⟩ | ⟨d, tail, hself, hplain, -⟩
        · rw [hself, List.mem_singleton]
        · rw [hself, hdouble]
          decide
        · rw [hself, List.mem_cons, or_iff_right (by decide)]
          refine iff_of_false hplain.double_notMem ?_
          rintro rfl
          cases hself
          exact hplain.double_notMem List.mem_cons_self
    rw [inner_cons, List.mem_append, List.mem_cons, hescape, ih]

theorem takeWhile_append_of_mem {mark : Char} {front : List Char} (h : mark ∈ front)
    (back : List Char) :
    (front ++ back).takeWhile (· != mark) = front.takeWhile (· != mark) := by
  induction front with
  | nil => cases h
  | cons c front ih =>
    by_cases hc : c = mark
    · rw [List.cons_append, List.takeWhile_cons_of_neg (by simpa using hc),
        List.takeWhile_cons_of_neg (by simpa using hc)]
    · rw [List.cons_append, List.takeWhile_cons_of_pos (by simpa using hc),
        List.takeWhile_cons_of_pos (by simpa using hc),
        ih ((List.mem_cons.1 h).resolve_left (Ne.symm hc))]

/-- What is shown of a text does not reach beyond the first double quote in it. -/
theorem shown_append (front back : List Char) :
    shown (front ++ back) = if '\x22' ∈ front then shown front else shown front ++ shown back := by
  rw [shown, inner_append]
  split
  · rename_i hdouble
    exact takeWhile_append_of_mem (double_mem_inner.2 hdouble) (inner back)
  · rename_i hdouble
    have hall : ∀ c ∈ inner front, (c != '\x22') = true := fun c hc => by
      simpa using fun heq : c = '\x22' => hdouble (double_mem_inner.1 (heq ▸ hc))
    rw [List.takeWhile_append_of_pos hall, shown, List.takeWhile_eq_self_iff.2 hall, shown]

theorem shown_of_isPlain (h : IsPlain text) : shown text = text := by
  rw [shown, inner_of_isPlain h, List.takeWhile_eq_self_iff]
  intro c hc
  simpa using (h c hc).1

theorem shown_ne_nil (h : text ≠ []) : shown text ≠ [] := by
  obtain ⟨c, rest, rfl⟩ := List.exists_cons_of_ne_nil h
  obtain ⟨d, tail, hescape, hdouble, -⟩ := escape_head c
  rw [shown, inner_cons, hescape, List.cons_append,
    List.takeWhile_cons_of_pos (by simpa using hdouble)]
  exact List.cons_ne_nil _ _

theorem shown_subset : shown text ⊆ inner text := (List.takeWhile_sublist _).subset

/-- A printed text ends at the first quote inside, or goes on behind it. -/
theorem exists_quote_eq (text : List Char) : ∃ back,
    quote text = '\x22' :: (shown text ++ '\x22' :: back) ∧
      (back = [] ∨ ∃ rest, back = rest ++ ['\x22'] ∧ rest <:+ inner text) := by
  have hsplit : shown text ++ (inner text).dropWhile (· != '\x22') = inner text :=
    List.takeWhile_append_dropWhile
  rw [quote_eq_inner]
  cases hdrop : (inner text).dropWhile (· != '\x22') with
  | nil =>
    rw [hdrop, List.append_nil] at hsplit
    exact ⟨[], by rw [hsplit]; rfl, .inl rfl⟩
  | cons c rest =>
    have hhead : c = '\x22' := by
      have hnot := List.head?_dropWhile_not (· != '\x22') (inner text)
      rw [hdrop] at hnot
      simpa using hnot
    rw [hdrop, hhead] at hsplit
    refine ⟨rest ++ ['\x22'], by rw [← hsplit]; simp, .inr ⟨rest, rfl, ?_⟩⟩
    exact ⟨shown text ++ ['\x22'], by rw [← hsplit]; simp⟩

theorem isChain_of_notMem (h : '\x22' ∉ text) (c : Char) :
    (c :: text).IsChain fun c d => d = '\x22' → c = '\\' := by
  induction text generalizing c with
  | nil => exact .singleton c
  | cons d text ih =>
    rw [List.mem_cons, not_or] at h
    exact .cons_cons (fun heq => absurd heq.symm h.1) (ih h.2 d)

namespace IsMild

theorem of_cons {c : Char} (h : IsMild (c :: text)) : IsMild text := fun d hd =>
  h d (List.mem_cons_of_mem c hd)

theorem append {back : List Char} (h : IsMild text) (hback : IsMild back) : IsMild (text ++ back) :=
  fun c hc => (List.mem_append.1 hc).elim (h c) (hback c)

/-- The first character of a mild text, printed. -/
theorem escape_cases {c : Char} (h : IsMild (c :: text)) :
    (escape c = [c] ∧ c ≠ '\x22' ∧ 0x20 ≤ c.toNat) ∨ (c = '\x22' ∧ escape c = ['\\', '\x22']) ∨
    ∃ d tail, escape c = '\\' :: d :: tail ∧ IsPlain (d :: tail) ∧ '/' ∉ d :: tail :=
  Json.escape_cases (h c List.mem_cons_self).2

/-- No single quote and no control stands between the quotes of a mild text. -/
theorem inner_closed (h : IsMild text) : ∀ d ∈ inner text, d ≠ '\x27' ∧ 0x20 ≤ d.toNat := by
  induction text with
  | nil => simp
  | cons c text ih =>
    intro d hd
    rw [inner_cons, List.mem_append] at hd
    rcases hd with hd | hd
    · rcases h.escape_cases with ⟨hself, -, hshown⟩ | ⟨-, hself⟩ | ⟨e, tail, hself, hplain, -⟩
      · rw [hself] at hd
        obtain rfl := List.mem_singleton.1 hd
        exact ⟨(h d List.mem_cons_self).1, hshown⟩
      · rw [hself] at hd
        rcases List.mem_pair.1 hd with rfl | rfl
        · decide
        · decide
      · rw [hself] at hd
        rcases List.mem_cons.1 hd with rfl | hd
        · decide
        · exact ⟨(hplain d hd).2.1, (hplain d hd).2.2.2⟩
    · exact ih h.of_cons d hd

/-- What is shown of a mild text holds no quote and no control. -/
theorem shown_closed (h : IsMild text) :
    ∀ d ∈ shown text, d ≠ '\x22' ∧ d ≠ '\x27' ∧ 0x20 ≤ d.toNat := fun d hd =>
  ⟨by simpa using List.mem_takeWhile_imp hd, h.inner_closed d (shown_subset hd)⟩

/-- Inside of a printed text a backslash stands in front of every double quote. -/
theorem isGuarded_inner (h : IsMild text) : IsGuarded (inner text) := by
  refine ⟨fun hsingle => (h.inner_closed _ hsingle).1 rfl, ?_⟩
  induction text with
  | nil => exact .nil
  | cons c text ih =>
    have hhere : (escape c).IsChain fun c d => d = '\x22' → c = '\\' := by
      rcases h.escape_cases with ⟨hself, -, -⟩ | ⟨-, hself⟩ | ⟨d, tail, hself, hplain, -⟩
      · rw [hself]
        exact .singleton c
      · rw [hself]
        exact .cons_cons (fun _ => rfl) (.singleton _)
      · rw [hself]
        exact isChain_of_notMem hplain.double_notMem _
    rw [inner_cons, List.isChain_append]
    refine ⟨hhere, ih h.of_cons, fun last _ first hfirst hdouble => ?_⟩
    -- the escape of the next character does not begin with a quote
    cases text with
    | nil => cases hfirst
    | cons d text =>
      obtain ⟨e, tail, hescape, hquote, -⟩ := escape_head d
      rw [inner_cons, hescape] at hfirst
      cases hfirst
      exact absurd hdouble hquote

/-- Escapes bring in no slashes. -/
theorem slash_notMem_inner (h : IsMild text) (hslash : '/' ∉ text) : '/' ∉ inner text := by
  induction text with
  | nil => simp
  | cons c text ih =>
    rw [List.mem_cons, not_or] at hslash
    rw [inner_cons, List.mem_append, not_or]
    refine ⟨?_, ih h.of_cons hslash.2⟩
    rcases h.escape_cases with ⟨hself, -, -⟩ | ⟨-, hself⟩ | ⟨d, tail, hself, -, htail⟩
    · rw [hself, List.mem_singleton]
      exact hslash.1
    · rw [hself]
      decide
    · rw [hself, List.mem_cons, not_or]
      exact ⟨by decide, htail⟩

/-- A mild text that is shown without escapes is shown as it is. -/
theorem shown_eq_self (h : IsMild text) (hback : '\\' ∉ shown text) : shown text = text := by
  induction text with
  | nil => rfl
  | cons c text ih =>
    have hcons : shown (c :: text) = (escape c ++ inner text).takeWhile (· != '\x22') := rfl
    rcases h.escape_cases with ⟨hself, hdouble, -⟩ | ⟨-, hself⟩ | ⟨d, tail, hself, -, -⟩
    · have hstep : shown (c :: text) = c :: shown text := by
        rw [hcons, hself, List.singleton_append,
          List.takeWhile_cons_of_pos (by simpa using hdouble)]
        rfl
      rw [hstep, List.mem_cons, not_or] at hback
      rw [hstep, ih h.of_cons hback.2]
    · rw [hcons, hself] at hback
      exact absurd List.mem_cons_self hback
    · rw [hcons, hself] at hback
      exact absurd List.mem_cons_self hback

end IsMild

end SfcBundler.Json
