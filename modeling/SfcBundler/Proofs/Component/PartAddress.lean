import SfcBundler.Plugin.Components
import SfcBundler.Proofs.Component.EntryImports
import SfcBundler.Proofs.Text.Fields

/-!
# Addresses of parts read back

The address of a part is read as the part and its owner, as long as no question mark stands in the
path of the owner.

## Main results

* `Text.readUnsigned?_decimal`: the digits of a number spell the number
* `Part.parse_path`: the address of a part read back
* `Part.isAddress_path`: the address of a part is that of a component
-/

namespace SfcBundler

namespace Text

theorem foldl_digits (digits : List Char) (value : Nat) :
    digits.foldl (fun value c => value * 10 + (c.toNat - '0'.toNat)) value =
      Nat.ofDigitChars 10 digits value := by
  rw [Nat.ofDigitChars_eq_foldl]
  congr 1
  funext sofar c
  rw [Nat.mul_comm]

/-- The digits of a number below the bound spell the number. -/
theorem readUnsigned?_decimal {value bound : Nat} (h : value < bound) :
    readUnsigned? bound (decimal value) = some value := by
  have hdigits : ∀ c ∈ Nat.toDigits 10 value, c.isDigit := fun c hc =>
    Nat.isDigit_of_mem_toDigits (by decide) (by decide) hc
  have hvalue := foldl_digits (Nat.toDigits 10 value) 0
  rw [Nat.ofDigitChars_ten_toDigits] at hvalue
  rw [readUnsigned?, decimal, String.toList_ofList]
  -- no sign stands in front of the digits
  cases hshape : Nat.toDigits 10 value with
  | nil => exact absurd hshape Nat.toDigits_ne_nil
  | cons c rest =>
    rw [hshape] at hdigits hvalue
    have hsign : c ≠ '+' := by
      rintro rfl
      exact absurd (hdigits '+' List.mem_cons_self) (by decide)
    have hall : (c :: rest).all Char.isDigit := List.all_eq_true.2 hdigits
    split
    · rename_i heq
      exact absurd (List.cons.inj heq).1 hsign
    · rw [if_neg (by simp [hall]), hvalue, if_pos h]

end Text

namespace Part

/-- The parameters of the query of a style block. -/
theorem params_style {digits : List Char} (h : '&' ∉ digits) :
    (Text.fields '&' ("type=style&index=".toList ++ digits)).map Query.pair =
      [("type".toList, "style".toList), ("index".toList, digits)] := by
  -- the ampersand in front of the index is the only one
  have hindex : '&' ∉ "index=".toList ++ digits := by
    rw [List.mem_append, not_or]
    exact ⟨by decide, h⟩
  have hfields : Text.fields '&' ("type=style".toList ++ '&' :: ("index=".toList ++ digits)) =
      ["type=style".toList, "index=".toList ++ digits] := by
    rw [Text.fields_append (by decide), Text.fields_of_notMem hindex]
  have hpair : Query.pair ("index".toList ++ '=' :: digits) = ("index".toList, digits) := by
    rw [Query.pair, Text.cut_append (by decide)]
    rfl
  change (Text.fields '&' ("type=style".toList ++ '&' :: ("index=".toList ++ digits))).map
    Query.pair = _
  rw [hfields]
  exact congrArg (fun pair => [("type".toList, "style".toList), pair]) hpair

theorem isDigit_of_mem_decimal {n : Nat} {c : Char} (hc : c ∈ (Text.decimal n).toList) :
    c.isDigit := by
  rw [Text.decimal, String.toList_ofList] at hc
  exact Nat.isDigit_of_mem_toDigits (by decide) (by decide) hc

/-- The query of a part selects the part. -/
theorem ofQuery_query {part : Part}
    (hindex : ∀ index, part.index? = some index → index < indexBound)
    {selection : List Char} (hselection : part.query.toList = '?' :: selection) :
    ofQuery (String.ofList selection) = .ok (some part) := by
  match part with
  | script =>
    obtain rfl := (List.cons.inj hselection).2
    rfl
  | template =>
    obtain rfl := (List.cons.inj hselection).2
    rfl
  | style index =>
    rw [query_style, String.toList_append] at hselection
    have hmark : '&' ∉ (Text.decimal index).toList := fun hmem =>
      absurd (isDigit_of_mem_decimal hmem) (by decide)
    obtain rfl : "type=style&index=".toList ++ (Text.decimal index).toList = selection :=
      (List.cons.inj hselection).2
    have hparams := params_style hmark
    -- only the parameters of the query count from here on
    generalize hquery : String.ofList _ = query
    have htext : query.toList = "type=style&index=".toList ++ (Text.decimal index).toList := by
      rw [← hquery, String.toList_ofList]
    have htype : Query.param? query "type" = some "style" := by
      rw [Query.param?, htext, hparams, List.lookup_cons_self, Option.map_some,
        String.ofList_toList]
    have hposition : Query.param? query "index" = some (Text.decimal index) := by
      have hother : ("index".toList == "type".toList) = false := by decide
      rw [Query.param?, htext, hparams, List.lookup_cons, hother, List.lookup_cons_self,
        Option.map_some, String.ofList_toList]
    have hname : PartKind.ofName? "style" = some .style := rfl
    rw [ofQuery, htype]
    simp only [hposition, Text.readUnsigned?_decimal (hindex index rfl), hname]
    rfl

theorem exists_query (part : Part) : ∃ selection, part.query.toList = '?' :: selection := by
  match part with
  | script => exact ⟨_, rfl⟩
  | template => exact ⟨_, rfl⟩
  | style index =>
    rw [query_style, String.toList_append]
    exact ⟨_, rfl⟩

/-- The address of a part is read as the part and its owner. -/
theorem parse_path {part : Part} {owner : String} (howner : '?' ∉ owner.toList)
    (hindex : ∀ index, part.index? = some index → index < indexBound) :
    parse (part.path owner) = .ok (some (owner, part)) := by
  obtain ⟨selection, hselection⟩ := part.exists_query
  have hsplit : Query.split (part.path owner) = (owner, some (String.ofList selection)) := by
    rw [Query.split, path, String.toList_append, hselection, Text.cut_append howner]
    simp only [String.ofList_toList]
  -- the first question mark is the one in front of the query
  rw [parse, hsplit]
  simp only [ofQuery_query hindex hselection]
  rfl

/-- The owner that an address names is a part of the address. -/
theorem mem_of_parse {address owner : String} {part : Part}
    (h : parse address = .ok (some (owner, part))) {c : Char} (hc : c ∈ owner.toList) :
    c ∈ address.toList := by
  rw [parse, Query.split] at h
  cases hcut : Text.cut '?' address.toList with
  | none =>
    rw [hcut] at h
    cases h
  | some halves =>
    obtain ⟨before, after⟩ := halves
    obtain ⟨haddress, -⟩ := Text.cut_eq_some.1 hcut
    rw [hcut] at h
    cases hpart : ofQuery (String.ofList after) with
    | error error => simp [hpart, Except.map] at h
    | ok part? =>
      obtain rfl : String.ofList before = owner := by
        cases part? with
        | none => simp [hpart, Except.map] at h
        | some found =>
          simp only [hpart, Except.map, Option.map_some, Except.ok.injEq, Option.some.injEq] at h
          exact congrArg Prod.fst h
      rw [String.toList_ofList] at hc
      rw [haddress]
      exact List.mem_append_left _ hc

theorem slash_notMem_query (part : Part) : '/' ∉ part.query.toList := by
  match part with
  | script => decide
  | template => decide
  | style index =>
    rw [query_style, String.toList_append, List.mem_append, not_or]
    exact ⟨by decide, fun hmem => absurd (isDigit_of_mem_decimal hmem) (by decide)⟩

end Part

/-- The path of a component file with a query of one line behind it is an address of a component. -/
theorem ComponentFile.isAddress_append {path selection : List Char} (h : isFile path)
    (hline : '\n' ∉ selection) : isAddress (path ++ '?' :: selection) := by
  obtain ⟨front, rfl⟩ := List.isSuffixOf_iff_suffix.1 h
  rw [List.append_assoc]
  clear h
  -- the address is found behind as many characters as stand in front of the extension
  induction front with
  | nil =>
    have hextension : extension.isPrefixOf? ('.' :: 'v' :: 'u' :: 'e' :: '?' :: selection) =
        some ('?' :: selection) :=
      Text.isPrefixOf?_eq_some.2 rfl
    change isAddress ('.' :: 'v' :: 'u' :: 'e' :: '?' :: selection)
    rw [isAddress, hextension]
    simp [hline]
  | cons c rest ih =>
    rw [List.cons_append, isAddress, ih, Bool.or_true]

/-- The address of a part of a component file is that of a component. -/
theorem Part.isAddress_path {owner : String} (h : ComponentFile.isFile owner.toList) (part : Part) :
    ComponentFile.isAddress (part.path owner).toList := by
  obtain ⟨selection, hselection⟩ := part.exists_query
  have hline : '\n' ∉ selection := by
    intro hmem
    have hplain := part.isPlain_query
    rw [hselection] at hplain
    exact absurd (hplain '\n' (List.mem_cons_of_mem _ hmem)).2.2.2 (by decide)
  rw [path, String.toList_append, hselection]
  exact ComponentFile.isAddress_append h hline

end SfcBundler
