import SfcBundler.Proofs.Scan.Script

/-!
# What stands behind a script

A text without quotes can be written behind any script, in whatever region the script ends: inside
of a comment it is part of the comment, and anywhere else it may be shown. Either way it is left
without quotes, so no import ends in it, and one that ends before it is found as it was. Only its
first character must not make a comment with a slash at the end of the script.

## Main results

* `Scan.blankFrom_append`: comments are blanked out in a text and in what stands behind it
* `Scan.keywordAt?_append`, `Scan.specifiers_append`: what is found in front of such a text
* `Scan.imports_append`: the imports of a script with such a text behind it
-/

namespace SfcBundler.Scan

variable {tail : List Char}

/-! ### Comments -/

/-- A character that makes no comment with a slash in front of it tells as little as the end of the
text. -/
theorem Region.step_head (h : ∀ c ∈ tail.head?, c ≠ '*' ∧ c ≠ '/') (lineComments : Bool) (c : Char)
    (region : Region) :
    region.step lineComments tail.head? c = region.step lineComments none c := by
  have hstar : tail.head? ≠ some '*' := fun hhead => (h '*' hhead).1 rfl
  have hslash : tail.head? ≠ some '/' := fun hhead => (h '/' hhead).2 rfl
  cases region with
  | code => simp [Region.step, hstar, hslash]
  | _ => rfl

/-- Comments are blanked out in a text as if nothing followed it, and behind it as if something had
gone before. -/
theorem blankFrom_append (h : ∀ c ∈ tail.head?, c ≠ '*' ∧ c ≠ '/') (lineComments : Bool)
    (region : Region) (text : List Char) : ∃ behind : Region,
      blankFrom lineComments region (text ++ tail) =
        blankFrom lineComments region text ++ blankFrom lineComments behind tail := by
  induction text generalizing region with
  | nil => exact ⟨region, rfl⟩
  | cons c text ih =>
    have hstep : region.step lineComments (text ++ tail).head? c =
        region.step lineComments text.head? c := by
      cases text with
      | nil => exact region.step_head h lineComments c
      | cons d text => rfl
    obtain ⟨behind, hbehind⟩ := ih (region.step lineComments text.head? c).2
    refine ⟨behind, ?_⟩
    rw [List.cons_append, blankFrom, hstep, hbehind, blankFrom, List.cons_append]

/-- No quote is shown where none was. -/
theorem isQuote_of_mem_blankFrom {text : List Char} (h : ∀ c ∈ text, isQuote c = false)
    (lineComments : Bool) (region : Region) :
    ∀ c ∈ blankFrom lineComments region text, isQuote c = false := by
  induction text generalizing region with
  | nil => exact fun c hc => absurd hc List.not_mem_nil
  | cons d text ih =>
    obtain ⟨hd, htext⟩ := List.forall_mem_cons.1 h
    refine List.forall_mem_cons.2 ⟨?_, ih htext _⟩
    -- in any region a character is shown as it is or blanked out
    have hshown : (region.step lineComments text.head? d).1 = d ∨
        (region.step lineComments text.head? d).1 = blanked d ∨
        (region.step lineComments text.head? d).1 = ' ' := by
      cases region with
      | code =>
        rw [Region.step]
        split
        · exact .inl rfl
        split
        · exact .inr (.inr rfl)
        split
        · exact .inr (.inr rfl)
        · exact .inl rfl
      | opening => exact .inr (.inr rfl)
      | block | line => exact .inr (.inl rfl)
      | literal | escaped => exact .inl rfl
    rcases hshown with hsame | hblank | hspace
    · rw [hsame, hd]
    · rw [hblank, Item.isQuote_blanked]
    · rw [hspace]
      rfl

/-! ### Specifiers -/

/-- A quote stands in front of a text without quotes. -/
theorem exists_of_append_eq {text front behind : List Char} {closing : Char}
    (h : ∀ c ∈ tail, isQuote c = false) (hclosing : isQuote closing)
    (heq : text ++ tail = front ++ closing :: behind) :
    ∃ after, text = front ++ closing :: after ∧ behind = after ++ tail := by
  have hnot : closing ∉ tail := fun hmem => by simp [h closing hmem] at hclosing
  rcases List.append_eq_append_iff.1 heq with ⟨extra, -, htail⟩ | ⟨extra, rfl, htail⟩
  · exact absurd (htail ▸ List.mem_append_right _ List.mem_cons_self) hnot
  · cases extra with
    | nil =>
      rw [List.nil_append] at htail
      exact absurd (htail ▸ List.mem_cons_self) hnot
    | cons d extra =>
      obtain ⟨rfl, hbehind⟩ := List.cons.inj htail
      exact ⟨extra, rfl, hbehind⟩

/-- What is found in front of a text without quotes is what is found without it. -/
theorem keywordAt?_append (h : ∀ c ∈ tail, isQuote c = false) (text : List Char) :
    keywordAt? (text ++ tail) = (keywordAt? text).map fun found => (found.1, found.2 ++ tail) := by
  refine Option.ext fun found => ?_
  obtain ⟨specifier, behind⟩ := found
  simp only [Option.map_eq_some_iff, Prod.exists, Prod.mk.injEq, keywordAt?_eq_some_iff]
  constructor
  · -- the closing quote is in front of the tail, and with it the whole statement
    rintro ⟨keyword, clause, opening, closing, heq, hkeyword, hclause, hfrom, hopening, hclosing,
      hspecifier⟩
    obtain ⟨after, htext, hbehind⟩ : ∃ after,
        text = keyword ++ (clause ++ opening :: specifier) ++ closing :: after ∧
          behind = after ++ tail := exists_of_append_eq h hclosing (by simpa using heq)
    exact ⟨specifier, after, ⟨keyword, clause, opening, closing, by simpa using htext, hkeyword,
      hclause, hfrom, hopening, hclosing, hspecifier⟩, rfl, hbehind.symm⟩
  · rintro ⟨specifier, after, ⟨keyword, clause, opening, closing, rfl, hfound⟩, rfl, rfl⟩
    exact ⟨keyword, clause, opening, closing, by simp, hfound⟩

theorem statementAt?_append (h : ∀ c ∈ tail, isQuote c = false) (lineStart : Bool) (c : Char)
    (rest : List Char) :
    statementAt? lineStart (c :: rest ++ tail) =
      (statementAt? lineStart (c :: rest)).map fun found => (found.1, found.2 ++ tail) := by
  have hhere := keywordAt?_append h (c :: rest)
  have hnext := keywordAt?_append h rest
  rw [List.cons_append] at hhere ⊢
  rw [statementAt?.eq_def, statementAt?.eq_def]
  dsimp only
  rw [hhere, hnext]
  cases lineStart <;> cases keywordAt? (c :: rest) <;> cases opensStatement c <;> rfl

/-- A scan finds in front of a text without quotes what it finds without it. -/
theorem specifiers_append (h : ∀ c ∈ tail, isQuote c = false) (lineStart : Bool)
    (text : List Char) :
    specifiers statementAt? lineStart (text ++ tail) = specifiers statementAt? lineStart text := by
  match text with
  | [] => rw [List.nil_append, specifiers_eq_nil h, specifiers]
  | c :: rest =>
    have hat := statementAt?_append h lineStart c rest
    cases hfound : statementAt? lineStart (c :: rest) with
    | none =>
      rw [hfound] at hat
      rw [List.cons_append] at hat ⊢
      rw [specifiers_of_none hat, specifiers_of_none hfound]
      exact specifiers_append h _ rest
    | some found =>
      -- both scans go on behind the same statement, so this is an induction on the length
      obtain ⟨specifier, after⟩ := found
      have hlength : after.length < (c :: rest).length := by
        rcases statementAt?_cons_eq_some hfound with hhere | hnext
        · exact length_of_keywordAt? hhere
        · exact (length_of_keywordAt? hnext).trans (Nat.lt_succ_self _)
      rw [hfound] at hat
      have hlength' : (after ++ tail).length < (c :: rest ++ tail).length := by
        rw [List.length_append, List.length_append]
        exact Nat.add_lt_add_right hlength _
      rw [specifiers_of_some hat hlength', specifiers_of_some hfound hlength,
        specifiers_append h false after]
termination_by text.length
decreasing_by
  · exact Nat.lt_succ_self _
  · exact hlength

/-- The imports of a script are not changed by a text behind it that has no quotes and makes no
comment with the end of the script. -/
theorem imports_append {behind : String} {loader : Loader} (hloader : loader.isScript)
    (hhead : ∀ c ∈ behind.toList.head?, c ≠ '*' ∧ c ≠ '/')
    (hquote : ∀ c ∈ behind.toList, isQuote c = false) (contents : String) :
    imports (contents ++ behind) loader = imports contents loader := by
  obtain ⟨region, hblank⟩ := blankFrom_append hhead true .code contents.toList
  rw [imports, imports, if_pos hloader, if_pos hloader, String.toList_append, blankComments, hblank,
    specifiers_append (isQuote_of_mem_blankFrom hquote true region), blankComments]

end SfcBundler.Scan
