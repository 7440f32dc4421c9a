import SfcBundler.Text.Cut

/-!
# Pieces between marks

To cut a text at a mark and to join pieces with the mark undo each other, as long as no piece
holds the mark. A block comment is a piece as well; the mark behind it is a star with a slash. A
text may also be cut in two where a longer mark stands for the last time.

## Main definitions

* `Text.HoldsEnd`: a text in which a block comment would end
* `Text.cutLast?`: what stands before and behind the last occurrence of a mark

## Main results

* `Text.fields_join`: the pieces of joined pieces
* `Text.cutLast?_eq_some_iff`: a text is cut at the last of all occurrences
* `Text.exists_mem_fields`, `Text.mem_join`: where the characters of a text are found in its pieces
-/

namespace SfcBundler.Text

variable {mark c : Char} {text front piece : List Char} {pieces : List (List Char)}

theorem fields_of_notMem (h : mark ∉ text) : fields mark text = [text] := by
  induction text with
  | nil => rfl
  | cons d rest ih =>
    rw [List.mem_cons, not_or] at h
    rw [fields, if_neg (Ne.symm h.1), ih h.2]

theorem fields_append (h : mark ∉ front) (back : List Char) :
    fields mark (front ++ mark :: back) = front :: fields mark back := by
  induction front with
  | nil => simp [fields]
  | cons d rest ih =>
    rw [List.mem_cons, not_or] at h
    rw [List.cons_append, fields, if_neg (Ne.symm h.1), ih h.2]

theorem fields_join (h : ∀ piece ∈ pieces, mark ∉ piece) (hne : pieces ≠ []) :
    fields mark (join [mark] pieces) = pieces := by
  induction pieces with
  | nil => exact absurd rfl hne
  | cons piece rest ih =>
    have hpiece : mark ∉ piece := h piece List.mem_cons_self
    cases rest with
    | nil => exact fields_of_notMem hpiece
    | cons next rest =>
      have hrest := ih (fun other hother => h other (List.mem_cons_of_mem _ hother)) (by simp)
      rw [join, List.append_assoc, List.singleton_append, fields_append hpiece, hrest]

/-- The pieces of lines, each with the mark behind it. -/
theorem fields_lines (h : ∀ piece ∈ pieces, mark ∉ piece) :
    fields mark (pieces.flatMap (· ++ [mark])) = pieces ++ [[]] := by
  induction pieces with
  | nil => rfl
  | cons piece rest ih =>
    obtain ⟨hpiece, hrest⟩ := List.forall_mem_cons.1 h
    rw [List.flatMap_cons, List.append_assoc, List.singleton_append, fields_append hpiece, ih hrest,
      List.cons_append]

theorem notMem_of_mem_fields (h : piece ∈ fields mark text) : mark ∉ piece := by
  induction text generalizing piece with
  | nil =>
    obtain rfl := List.mem_singleton.1 h
    exact List.not_mem_nil
  | cons d rest ih =>
    by_cases hd : d = mark
    · rw [fields, if_pos hd] at h
      rcases List.mem_cons.1 h with rfl | h
      · exact List.not_mem_nil
      · exact ih h
    · obtain ⟨first, others, hrest⟩ := List.exists_cons_of_ne_nil (fields_ne_nil mark rest)
      rw [fields, if_neg hd, hrest] at h
      rcases List.mem_cons.1 h with rfl | h
      · have hfirst := ih (hrest ▸ List.mem_cons_self)
        rw [List.mem_cons, not_or]
        exact ⟨Ne.symm hd, hfirst⟩
      · exact ih (hrest ▸ List.mem_cons_of_mem _ h)

/-- A character of joined pieces stands in a piece or between pieces. -/
theorem mem_join {separator : List Char} (h : c ∈ join separator pieces) :
    c ∈ separator ∨ ∃ piece ∈ pieces, c ∈ piece := by
  induction pieces with
  | nil => cases h
  | cons piece rest ih =>
    cases rest with
    | nil => exact .inr ⟨piece, List.mem_cons_self, h⟩
    | cons next rest =>
      rw [join, List.mem_append, List.mem_append] at h
      rcases h with (h | h) | h
      · exact .inr ⟨piece, List.mem_cons_self, h⟩
      · exact .inl h
      · rcases ih h with hseparator | ⟨other, hother, hc⟩
        · exact .inl hseparator
        · exact .inr ⟨other, List.mem_cons_of_mem _ hother, hc⟩

theorem mem_join_of_mem {separator : List Char} (hpiece : piece ∈ pieces) (hc : c ∈ piece) :
    c ∈ join separator pieces := by
  induction pieces with
  | nil => cases hpiece
  | cons first rest ih =>
    cases rest with
    | nil =>
      obtain rfl := List.mem_singleton.1 hpiece
      exact hc
    | cons next rest =>
      rw [join, List.mem_append, List.mem_append]
      rcases List.mem_cons.1 hpiece with rfl | hrest
      · exact .inl (.inl hc)
      · exact .inr (ih hrest)

theorem join_append_last (separator : List Char) (front : List (List Char))
    (last more : List Char) :
    join separator (front ++ [last]) ++ more = join separator (front ++ [last ++ more]) := by
  induction front with
  | nil => rfl
  | cons piece rest ih =>
    cases rest with
    | nil => simp [join]
    | cons next rest =>
      rw [List.cons_append, List.cons_append, List.cons_append, List.cons_append, join, join,
        List.append_assoc]
      exact congrArg _ ih

/-- A character of a text, unless it is the mark, stands in a piece. -/
theorem exists_mem_fields (hc : c ∈ text) (hne : c ≠ mark) :
    ∃ piece ∈ fields mark text, c ∈ piece := by
  rw [← join_fields mark text] at hc
  rcases mem_join hc with hmark | hpiece
  · exact absurd (List.mem_singleton.1 hmark) hne
  · exact hpiece

theorem mem_of_mem_fields (hpiece : piece ∈ fields mark text) (hc : c ∈ piece) : c ∈ text := by
  rw [← join_fields mark text]
  exact mem_join_of_mem hpiece hc

/-- A text in which a block comment would end. -/
def HoldsEnd (text : List Char) : Prop := ['*', '/'] <:+: text

theorem not_holdsEnd_nil : ¬HoldsEnd [] := by simp [HoldsEnd]

theorem holdsEnd_cons :
    HoldsEnd (c :: text) ↔ (c = '*' ∧ text.head? = some '/') ∨ HoldsEnd text := by
  have hhere : ['*', '/'] <+: c :: text ↔ c = '*' ∧ text.head? = some '/' := by
    cases text with
    | nil => simp
    | cons d rest => simp [eq_comm]
  rw [HoldsEnd, List.infix_cons_iff, hhere, HoldsEnd]

/-- A comment goes on behind a character that ends it with nothing of the rest. -/
theorem not_holdsEnd_cons :
    ¬HoldsEnd (c :: text) ↔ (c = '*' → text.head? ≠ some '/') ∧ ¬HoldsEnd text := by
  rw [holdsEnd_cons, not_or, not_and]

instance decidableHoldsEnd : (text : List Char) → Decidable (HoldsEnd text)
  | [] => .isFalse not_holdsEnd_nil
  | _ :: rest =>
    have := decidableHoldsEnd rest
    decidable_of_iff _ holdsEnd_cons.symm

/-! ### The last mark -/

section Last

variable {sign before after tail : List Char}

/-- What stands before and behind the last occurrence of `sign` in a text. -/
def cutLast? (sign : List Char) : List Char → Option (List Char × List Char)
  | [] => (sign.isPrefixOf? []).map fun after => ([], after)
  | c :: rest =>
    match cutLast? sign rest with
    | some (before, after) => some (c :: before, after)
    | none => (sign.isPrefixOf? (c :: rest)).map fun after => ([], after)

theorem ne_of_cutLast?_eq_none (h : cutLast? sign text = none) (before after : List Char) :
    text ≠ before ++ (sign ++ after) := by
  induction text generalizing before with
  | nil =>
    intro heq
    obtain ⟨-, hsign⟩ := List.append_eq_nil_iff.1 heq.symm
    have hhere := isPrefixOf?_eq_some.2 hsign.symm
    simp [cutLast?, hhere] at h
  | cons c rest ih =>
    rw [cutLast?] at h
    split at h
    · cases h
    · rename_i hrest
      intro heq
      cases before with
      | nil =>
        have hhere := isPrefixOf?_eq_some.2 (List.nil_append (sign ++ after) ▸ heq)
        simp [hhere] at h
      | cons d before => exact ih hrest before (List.cons.inj heq).2

theorem eq_append_of_cutLast? (h : cutLast? sign text = some (before, after)) :
    text = before ++ (sign ++ after) ∧
      ∀ front back, text = front ++ (sign ++ back) → front.length ≤ before.length := by
  induction text generalizing before with
  | nil =>
    simp only [cutLast?, Option.map_eq_some_iff, Prod.mk.injEq] at h
    obtain ⟨rest, hhere, rfl, rfl⟩ := h
    rw [List.nil_append]
    refine ⟨isPrefixOf?_eq_some.1 hhere, fun front back heq => ?_⟩
    obtain ⟨rfl, -⟩ := List.append_eq_nil_iff.1 heq.symm
    exact Nat.le_refl _
  | cons c rest ih =>
    rw [cutLast?] at h
    -- a sign that begins further on comes before one that begins here
    split at h
    · rename_i before' after' hrest
      cases h
      obtain ⟨rfl, hlast⟩ := ih hrest
      refine ⟨rfl, fun front back heq => ?_⟩
      cases front with
      | nil => exact Nat.zero_le _
      | cons d front => exact Nat.succ_le_succ (hlast front back (List.cons.inj heq).2)
    · rename_i hrest
      simp only [Option.map_eq_some_iff, Prod.mk.injEq] at h
      obtain ⟨rest', hhere, rfl, rfl⟩ := h
      rw [List.nil_append]
      refine ⟨isPrefixOf?_eq_some.1 hhere, fun front back heq => ?_⟩
      cases front with
      | nil => exact Nat.le_refl _
      | cons d front =>
        exact absurd (List.cons.inj heq).2 (ne_of_cutLast?_eq_none hrest front back)

/-- A text is cut at the occurrence that has the most in front of it. -/
theorem cutLast?_eq_some_iff : cutLast? sign text = some (before, after) ↔
    text = before ++ (sign ++ after) ∧
      ∀ front back, text = front ++ (sign ++ back) → front.length ≤ before.length := by
  constructor
  · exact eq_append_of_cutLast?
  · rintro ⟨heq, hlast⟩
    cases hcut : cutLast? sign text with
    | none => exact absurd heq (ne_of_cutLast?_eq_none hcut before after)
    | some halves =>
      obtain ⟨heq', hlast'⟩ := eq_append_of_cutLast? hcut
      have hlength : halves.1.length = before.length :=
        Nat.le_antisymm (hlast _ _ heq') (hlast' _ _ heq)
      obtain ⟨hbefore, hafter⟩ := List.append_inj (heq'.symm.trans heq) hlength
      rw [← hbefore, ← List.append_cancel_left hafter]

/-- A text is cut in front of what holds no character that the mark begins with. -/
theorem cutLast?_append (hhead : sign.head? = some c) (htail : c ∉ tail) (text : List Char) :
    cutLast? sign (text ++ (sign ++ tail)) = some (text, tail) := by
  refine cutLast?_eq_some_iff.2 ⟨rfl, fun front back heq => ?_⟩
  refine Nat.le_of_not_lt fun hlong => ?_
  -- a later mark would give `c` once more than it is there
  obtain ⟨extra, hfront, hextra⟩ :
      ∃ extra, front = text ++ extra ∧ sign ++ tail = extra ++ (sign ++ back) := by
    rcases List.append_eq_append_iff.1 heq with ⟨extra, hfront, hextra⟩ | ⟨extra, htext, -⟩
    · exact ⟨extra, hfront, hextra⟩
    · rw [htext, List.length_append] at hlong
      omega
  obtain ⟨rest, rfl⟩ := List.head?_eq_some_iff.1 hhead
  cases extra with
  | nil => simp [hfront] at hlong
  | cons d extra =>
    obtain ⟨rfl, -⟩ := List.cons.inj hextra
    have hcount := congrArg (List.count c) hextra
    simp [List.count_append, List.count_eq_zero_of_not_mem htail] at hcount
    omega

end Last

end SfcBundler.Text
