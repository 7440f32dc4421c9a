import Mathlib.Data.List.Basic
import SfcBundler.Command.Glob
import SfcBundler.Proofs.Files.Ways

/-!
# Patterns that name a directory

A pattern such as `**/name/**` ignores what is in a directory of that name. Whether it matches a
path depends on what is below a directory alone, unless the name is that of the directory itself or
of one above.

## Main definitions

* `Glob.isOrdinary`: a character that stands for itself in a pattern
* `Glob.NamesDirectory`: the pattern of a directory's name, and of something in it

## Main results

* `Utf8.encodeChar_append_inj`, `Utf8.slash_mem_encodeChar`: characters are told apart by their
  bytes
* `Glob.namesDirectory_of_parse`: the pattern of a text that begins with a directory's name
* `Glob.NamesDirectory.isMatch_eq`: such a pattern looks below the directories without its name
-/

namespace SfcBundler

namespace Utf8

/-- The first character of a text is known from the bytes. -/
theorem encodeChar_append_inj {c d : Char} {front back : List UInt8}
    (h : String.utf8EncodeChar c ++ front = String.utf8EncodeChar d ++ back) :
    c = d ∧ front = back := by
  have hbytes := congrArg (fun bytes => bytes.toByteArray.utf8DecodeChar? 0) h
  simp only [List.toByteArray_append, ByteArray.utf8DecodeChar?_utf8EncodeChar_append,
    Option.some.injEq] at hbytes
  subst hbytes
  exact ⟨rfl, List.append_cancel_left h⟩

/-- The byte of a slash is in no other character. -/
theorem slash_mem_encodeChar {c : Char} (h : 0x2F ∈ String.utf8EncodeChar c) : c = '/' := by
  have hbyte {n : Nat} (heq : (0x2F : UInt8) = UInt8.ofNat n) : n % 256 = 0x2F := by
    have hnat := congrArg UInt8.toNat heq
    simpa using hnat.symm
  have hslash : c.val.toNat = 0x2F := by
    rw [String.utf8EncodeChar] at h
    split at h
    · have hown := hbyte (List.mem_singleton.1 h)
      omega
    -- the bytes of a longer character are all from 128 on
    · exfalso
      split at h
      · simp only [List.mem_cons, List.not_mem_nil, or_false] at h
        rcases h with h | h
        all_goals have hown := hbyte h; omega
      · split at h
        · simp only [List.mem_cons, List.not_mem_nil, or_false] at h
          rcases h with h | h | h
          all_goals have hown := hbyte h; omega
        · simp only [List.mem_cons, List.not_mem_nil, or_false] at h
          rcases h with h | h | h | h
          all_goals have hown := hbyte h; omega
  exact Char.toNat_inj.1 hslash

theorem encode_cons (c : Char) (text : List Char) :
    encode (c :: text) = String.utf8EncodeChar c ++ encode text := rfl

theorem encode_slash (text : List Char) : encode ('/' :: text) = 0x2F :: encode text := rfl

/-- Bytes that begin with a slash are those of such a text. -/
theorem exists_of_encode_eq_slash {text : List Char} {bytes : List UInt8}
    (h : encode text = 0x2F :: bytes) : ∃ rest, text = '/' :: rest ∧ bytes = encode rest := by
  cases text with
  | nil => cases h
  | cons c rest =>
    obtain ⟨rfl, hrest⟩ := encodeChar_append_inj (d := '/') h
    exact ⟨rest, rfl, hrest.symm⟩

end Utf8

namespace Glob

open Utf8 (encode)

/-! Matching -/

section Match

variable {token : GlobToken} {tokens : List GlobToken} {text : List Char} {bytes : List UInt8}
  {texts : List (List UInt8)}

/-- Tokens match from one of several texts. -/
theorem mem_sequenceEnds {left : List UInt8} :
    left ∈ sequenceEnds tokens texts ↔ ∃ text ∈ texts, left ∈ sequenceEnds tokens [text] := by
  induction tokens generalizing texts with
  | nil => simp [sequenceEnds]
  | cons token rest ih =>
    rw [sequenceEnds, ih]
    constructor
    · rintro ⟨after, hafter, hleft⟩
      obtain ⟨text, htext, htoken⟩ := List.mem_flatMap.1 (List.mem_eraseDups.1 hafter)
      refine ⟨text, htext, ?_⟩
      rw [sequenceEnds, ih]
      exact ⟨after, List.mem_eraseDups.2 (List.mem_flatMap.2 ⟨text, List.mem_singleton.2 rfl,
        htoken⟩), hleft⟩
    · rintro ⟨text, htext, hleft⟩
      rw [sequenceEnds, ih] at hleft
      obtain ⟨after, hafter, hleft⟩ := hleft
      obtain ⟨other, hother, htoken⟩ := List.mem_flatMap.1 (List.mem_eraseDups.1 hafter)
      rw [List.mem_singleton.1 hother] at htoken
      exact ⟨after, List.mem_eraseDups.2 (List.mem_flatMap.2 ⟨text, htext, htoken⟩), hleft⟩

/-- Tokens match a text as a whole if the first matches at its front, and the others what it
leaves. -/
theorem nil_mem_cons : [] ∈ sequenceEnds (token :: tokens) [bytes] ↔
    ∃ left ∈ tokenEnds token bytes, [] ∈ sequenceEnds tokens [left] := by
  rw [sequenceEnds, mem_sequenceEnds]
  simp only [List.flatMap_singleton, List.mem_eraseDups]

/-- A character matches where a text begins with it. -/
theorem mem_literalEnds {c : Char} {left : List UInt8} :
    left ∈ tokenEnds (.literal c) (encode text) ↔
      ∃ rest, text = c :: rest ∧ left = encode rest := by
  rw [tokenEnds, Option.mem_toList, List.isPrefixOf?_eq_some_iff_append_eq]
  constructor
  · intro h
    cases text with
    | nil =>
      rw [Utf8.encode, List.flatMap_nil, List.append_eq_nil_iff] at h
      exact absurd h.1 String.utf8EncodeChar_ne_nil
    | cons d rest =>
      obtain ⟨rfl, hleft⟩ := Utf8.encodeChar_append_inj h
      exact ⟨rest, rfl, hleft⟩
  · rintro ⟨rest, rfl, rfl⟩
    rfl

/-- Characters match where a text begins with them. -/
theorem nil_mem_literals {name : List Char} : [] ∈ sequenceEnds (name.map .literal ++ tokens)
    [encode text] ↔ ∃ rest, text = name ++ rest ∧ [] ∈ sequenceEnds tokens [encode rest] := by
  induction name generalizing text with
  | nil => simp
  | cons c name ih =>
    rw [List.map_cons, List.cons_append, nil_mem_cons]
    constructor
    · rintro ⟨left, hleft, hmatch⟩
      obtain ⟨rest, rfl, rfl⟩ := mem_literalEnds.1 hleft
      obtain ⟨more, rfl, hmore⟩ := ih.1 hmatch
      exact ⟨more, rfl, hmore⟩
    · rintro ⟨rest, rfl, hrest⟩
      exact ⟨_, mem_literalEnds.2 ⟨name ++ rest, rfl, rfl⟩, ih.2 ⟨rest, rfl, hrest⟩⟩

/-- Behind bytes without a slash there is no more than behind what follows them. -/
theorem afterSlashes_append {front : List UInt8} (h : 0x2F ∉ front) (back : List UInt8) :
    afterSlashes (front ++ back) = afterSlashes back := by
  induction front with
  | nil => rfl
  | cons byte front ih =>
    rw [List.mem_cons, not_or] at h
    rw [List.cons_append, afterSlashes, if_neg (Ne.symm h.1), List.nil_append, ih h.2]

/-- A slash of a text is its first character or one behind it. -/
theorem exists_slash_cons_iff {c : Char} {holds : List Char → Prop} :
    (∃ front rest, c :: text = front ++ '/' :: rest ∧ holds rest) ↔
      c = '/' ∧ holds text ∨ ∃ front rest, text = front ++ '/' :: rest ∧ holds rest := by
  constructor
  · rintro ⟨front, rest, htext, hrest⟩
    cases front with
    | nil =>
      obtain ⟨rfl, rfl⟩ := List.cons.inj htext
      exact .inl ⟨rfl, hrest⟩
    | cons d front => exact .inr ⟨front, rest, (List.cons.inj htext).2, hrest⟩
  · rintro (⟨rfl, htext⟩ | ⟨front, rest, rfl, hrest⟩)
    · exact ⟨[], text, rfl, htext⟩
    · exact ⟨c :: front, rest, rfl, hrest⟩

/-- What stands behind the slashes of a text. -/
theorem mem_afterSlashes {left : List UInt8} : left ∈ afterSlashes (encode text) ↔
    ∃ front rest, text = front ++ '/' :: rest ∧ left = encode rest := by
  induction text with
  | nil => simp [Utf8.encode, afterSlashes]
  | cons c text ih =>
    rw [exists_slash_cons_iff, ← ih]
    by_cases hc : c = '/'
    · subst hc
      rw [Utf8.encode_slash, afterSlashes, if_pos rfl, List.singleton_append, List.mem_cons]
      simp only [true_and]
    · -- no byte of another character is a slash
      have hbytes : 0x2F ∉ String.utf8EncodeChar c := fun hmem =>
        hc (Utf8.slash_mem_encodeChar hmem)
      rw [Utf8.encode_cons, afterSlashes_append hbytes]
      simp only [hc, false_and, false_or]

end Match

/-- A token that begins with a slash. -/
inductive BeginsWithSlash : GlobToken → Prop
  | literal : BeginsWithSlash (.literal '/')
  | trailing : BeginsWithSlash .trailingSegments
  | inner : BeginsWithSlash .innerSegments

theorem BeginsWithSlash.exists_rest {token : GlobToken} (h : BeginsWithSlash token)
    {text : List Char} {left : List UInt8} (hleft : left ∈ tokenEnds token (encode text)) :
    ∃ rest, text = '/' :: rest := by
  cases h with
  | literal =>
    obtain ⟨rest, rfl, -⟩ := mem_literalEnds.1 hleft
    exact ⟨rest, rfl⟩
  | trailing =>
    rw [tokenEnds.eq_def] at hleft
    dsimp only at hleft
    split at hleft
    · rename_i hbytes
      obtain ⟨rest, rfl, -⟩ := Utf8.exists_of_encode_eq_slash hbytes
      exact ⟨rest, rfl⟩
    · cases hleft
  | inner =>
    rw [tokenEnds.eq_def] at hleft
    dsimp only at hleft
    split at hleft
    · rename_i hbytes
      obtain ⟨rest, rfl, -⟩ := Utf8.exists_of_encode_eq_slash hbytes
      exact ⟨rest, rfl⟩
    · cases hleft

/-- The pattern of a directory's name behind any segments, and of something in the directory. -/
def NamesDirectory (name : List Char) (glob : Glob) : Prop :=
  ∃ token more, BeginsWithSlash token ∧
    glob = .leadingSegments :: (name.map .literal ++ token :: more)

/-- Whether a text begins with a directory's name and something in the directory that the rest of a
pattern matches. -/
def Names (name : List Char) (tokens : List GlobToken) (text : List Char) : Prop :=
  ∃ rest, text = name ++ '/' :: rest ∧ [] ∈ sequenceEnds tokens [encode ('/' :: rest)]

theorem names_iff {name text : List Char} {token : GlobToken} {more : List GlobToken}
    (h : BeginsWithSlash token) : [] ∈ sequenceEnds (name.map .literal ++ token :: more)
      [encode text] ↔ Names name (token :: more) text := by
  rw [nil_mem_literals]
  constructor
  · rintro ⟨after, rfl, hmatch⟩
    obtain ⟨left, hleft, -⟩ := nil_mem_cons.1 hmatch
    obtain ⟨rest, rfl⟩ := h.exists_rest hleft
    exact ⟨rest, rfl, hmatch⟩
  · rintro ⟨rest, rfl, hmatch⟩
    exact ⟨_, rfl, hmatch⟩

/-- Below a directory that is not called so and lies in none, only what is below counts. -/
theorem names_below_iff {name front text : List Char} {tokens : List GlobToken}
    (hslash : '/' ∉ name) (hfront : name ∉ Text.fields '/' front) :
    (Names name tokens (front ++ '/' :: text) ∨ ∃ before after,
        front ++ '/' :: text = before ++ '/' :: after ∧ Names name tokens after) ↔
      Names name tokens text ∨ ∃ before after,
        text = before ++ '/' :: after ∧ Names name tokens after := by
  -- a match that begins above would give the name to a segment there
  have hfields {above rest : List Char} (h : above ++ '/' :: text = name ++ '/' :: rest) :
      name ∈ Text.fields '/' above := by
    have hsegments := congrArg (Text.fields '/') h
    rw [Text.fields_append_mark, Text.fields_append_mark, Text.fields_of_notMem hslash] at hsegments
    obtain ⟨first, others, hfirst⟩ := List.exists_cons_of_ne_nil (Text.fields_ne_nil '/' above)
    rw [hfirst] at hsegments ⊢
    rw [(List.cons.inj hsegments).1]
    exact List.mem_cons_self
  constructor
  · rintro (⟨rest, htext, -⟩ | ⟨before, after, htext, hnames⟩)
    · exact absurd (hfields htext) hfront
    · rcases List.append_eq_append_iff.1 htext with ⟨between, rfl, hafter⟩ | ⟨between, rfl, hafter⟩
      · cases between with
        | nil =>
          obtain rfl := (List.cons.inj hafter).2
          exact .inl hnames
        | cons c between =>
          obtain ⟨rfl, rfl⟩ := List.cons.inj hafter
          exact .inr ⟨between, after, rfl, hnames⟩
      · cases between with
        | nil =>
          obtain rfl := (List.cons.inj hafter).2
          exact .inl hnames
        | cons c between =>
          obtain ⟨rfl, rfl⟩ := List.cons.inj hafter
          obtain ⟨rest, htext, -⟩ := hnames
          have hbetween := hfields htext
          rw [Text.fields_append_mark, List.mem_append] at hfront
          exact absurd (.inr hbetween) hfront
  · rintro (hnames | ⟨before, after, rfl, hnames⟩)
    · exact .inr ⟨front, text, rfl, hnames⟩
    · refine .inr ⟨front ++ '/' :: before, after, ?_, hnames⟩
      rw [List.append_assoc, List.cons_append]

namespace NamesDirectory

variable {name : List Char} {glob : Glob} {front other path : String}

theorem isMatch_iff (h : NamesDirectory name glob) : ∃ tokens, ∀ path : String,
    glob.isMatch path ↔ Names name tokens path.toList ∨
      ∃ before after, path.toList = before ++ '/' :: after ∧ Names name tokens after := by
  obtain ⟨token, more, htoken, rfl⟩ := h
  refine ⟨token :: more, ?_⟩
  intro path
  -- there is more than the stars in front, so the pattern is not one that matches everything
  have hmatch : isMatch (.leadingSegments :: (name.map .literal ++ token :: more)) path =
      (ends (.leadingSegments :: (name.map .literal ++ token :: more))
        (encode path.toList)).contains [] := by
    cases name with
    | nil => rfl
    | cons c name => rfl
  rw [hmatch, List.contains_iff_mem, ends, nil_mem_cons]
  simp only [tokenEnds, List.mem_cons, mem_afterSlashes]
  constructor
  · rintro ⟨left, rfl | ⟨before, after, hpath, rfl⟩, hnames⟩
    · exact .inl ((names_iff htoken).1 hnames)
    · exact .inr ⟨before, after, hpath, (names_iff htoken).1 hnames⟩
  · rintro (hnames | ⟨before, after, hpath, hnames⟩)
    · exact ⟨_, .inl rfl, (names_iff htoken).2 hnames⟩
    · exact ⟨_, .inr ⟨before, after, hpath, rfl⟩, (names_iff htoken).2 hnames⟩

/-- The pattern matches the same paths below all directories that are not called so and lie in
none. -/
theorem isMatch_eq (h : NamesDirectory name glob) (hslash : '/' ∉ name)
    (hfront : name ∉ Text.fields '/' front.toList) (hother : name ∉ Text.fields '/' other.toList)
    (path : String) :
    glob.isMatch (front ++ "/" ++ path) = glob.isMatch (other ++ "/" ++ path) := by
  obtain ⟨tokens, hmatch⟩ := h.isMatch_iff
  have hlist (front : String) :
      (front ++ "/" ++ path).toList = front.toList ++ '/' :: path.toList := by
    simp
  rw [Bool.eq_iff_iff, hmatch, hmatch, hlist, hlist, names_below_iff hslash hfront,
    names_below_iff hslash hother]

end NamesDirectory

/-! Reading the pattern -/

/-- A character that stands for itself in a pattern, and in the name of a directory. -/
def isOrdinary (c : Char) : Bool := !(['?', '*', '[', '\x7b', '\x7d', '\\', '/'].contains c)

theorem BeginsWithSlash.spanSegments {token : GlobToken} (h : BeginsWithSlash token)
    (atEnd : Bool) : BeginsWithSlash (ParseState.spanSegments atEnd token) := by
  cases h with
  | trailing => exact .trailing
  | literal =>
    cases atEnd with
    | true => exact .trailing
    | false => exact .inner
  | inner =>
    cases atEnd with
    | true => exact .trailing
    | false => exact .inner

/-- Tokens outside of all groups that begin, in reverse, with given ones and one that begins with a
slash. -/
def HasFront (base : Glob) (state : ParseState) : Prop :=
  ∃ token more, BeginsWithSlash token ∧ state.outer = more ++ token :: base

namespace HasFront

variable {base : Glob} {state next : ParseState}

theorem withCurrent (h : HasFront base state) {tokens : Glob}
    (htokens : state.groups = [] → ∃ token more, BeginsWithSlash token ∧
      tokens = more ++ token :: base) : HasFront base (state.withCurrent tokens) := by
  rw [ParseState.withCurrent]
  split
  · exact h
  · rename_i hgroups
    exact htokens hgroups

theorem push (h : HasFront base state) (added : GlobToken) : HasFront base (state.push added) := by
  refine h.withCurrent ?_
  intro hgroups
  obtain ⟨token, more, htoken, houter⟩ := h
  refine ⟨token, added :: more, htoken, ?_⟩
  rw [ParseState.current, hgroups, houter]
  rfl

theorem replaceLast (h : HasFront base state) (atEnd : Bool) :
    HasFront base (state.replaceLast (ParseState.spanSegments atEnd)) := by
  rw [ParseState.replaceLast]
  split
  · rename_i last before hcurrent
    refine h.withCurrent ?_
    intro hgroups
    obtain ⟨token, more, htoken, houter⟩ := h
    rw [ParseState.current, hgroups, houter] at hcurrent
    cases more with
    | nil =>
      obtain ⟨rfl, rfl⟩ := List.cons.inj hcurrent
      exact ⟨_, [], htoken.spanSegments atEnd, rfl⟩
    | cons first more =>
      obtain ⟨rfl, rfl⟩ := List.cons.inj hcurrent
      exact ⟨token, _ :: more, htoken, rfl⟩
  · exact h

theorem takeStars (h : HasFront base state) (previous : Option Char) (text : List Char) :
    HasFront base (state.takeStars previous text).1 := by
  have hstars : HasFront base state.pushStars := (h.push .star).push .star
  unfold ParseState.takeStars
  split
  · split
    · exact h.push .leadingSegments
    · exact h.push .leadingSegments
    · exact hstars
  · split
    · exact hstars
    · split
      · exact h.replaceLast true
      · exact h.replaceLast false
      · split
        · exact h.replaceLast true
        · exact hstars

theorem closeGroup (h : HasFront base state) (hclose : state.closeGroup = .ok next) :
    HasFront base next := by
  rw [ParseState.closeGroup] at hclose
  split at hclose
  · rename_i rest hgroups
    obtain rfl := Except.ok.inj hclose
    have hopen : HasFront base { state with groups := rest } := h
    exact hopen.push _
  · cases hclose

theorem openGroup (h : HasFront base state) : HasFront base state.openGroup := h

theorem nextBranch (h : HasFront base state) : HasFront base state.nextBranch := by
  rw [ParseState.nextBranch]
  split
  · exact h
  · exact h

/-- What is read later leaves the front as it is. -/
theorem read {previous : Option Char} {fuel : Nat} {text : List Char} (h : HasFront base state)
    (hread : Glob.read state previous fuel text = .ok next) : HasFront base next := by
  induction fuel generalizing state previous text with
  | zero =>
    obtain rfl : state = next := Except.ok.inj hread
    exact h
  | succ fuel ih =>
    cases text with
    | nil =>
      obtain rfl : state = next := Except.ok.inj hread
      exact h
    | cons c rest =>
      -- whatever is read is added behind the front
      rw [Glob.read.eq_def] at hread
      dsimp only at hread
      split at hread
      · exact ih (h.push .any) hread
      split at hread
      · split at hread
        · exact ih (h.takeStars previous _) hread
        · exact ih (h.push .star) hread
      split at hread
      · obtain ⟨⟨token, left⟩, -, hread⟩ := exists_of_bind_ok hread
        exact ih (h.push token) hread
      split at hread
      · exact ih h.openGroup hread
      split at hread
      · obtain ⟨closed, hclose, hread⟩ := exists_of_bind_ok hread
        exact ih (h.closeGroup hclose) hread
      split at hread
      · exact ih h.nextBranch hread
      split at hread
      · split at hread
        · cases hread
        · exact ih (h.push _) hread
      · exact ih (h.push _) hread

end HasFront

theorem read_literal {outer : Glob} {previous : Option Char} {fuel : Nat} {c : Char}
    {rest : List Char} (h : isOrdinary c ∨ c = '/') :
    read ⟨[], outer⟩ previous (fuel + 1) (c :: rest) =
      read ⟨[], .literal c :: outer⟩ c fuel rest := by
  have hne : c ≠ '?' ∧ c ≠ '*' ∧ c ≠ '[' ∧ c ≠ '\x7b' ∧ c ≠ '\x7d' ∧ c ≠ '\\' := by
    rcases h with h | rfl
    · simp only [isOrdinary, Bool.not_eq_true', List.contains_eq_mem, decide_eq_false_iff_not,
        List.mem_cons, not_or] at h
      exact ⟨h.1, h.2.1, h.2.2.1, h.2.2.2.1, h.2.2.2.2.1, h.2.2.2.2.2.1⟩
    · decide
  obtain ⟨hany, hstar, hclass, hopen, hclose, hescape⟩ := hne
  rw [read.eq_def]
  dsimp only
  -- outside of all groups a comma stands for itself
  rw [if_neg hany, if_neg hstar, if_neg hclass, if_neg hopen, if_neg hclose,
    if_neg (by simp [ParseState.isOuter]), if_neg hescape]
  rfl

theorem exists_read_literals {name rest : List Char} (h : ∀ c ∈ name, isOrdinary c) (outer : Glob)
    (previous : Option Char) (fuel : Nat) :
    ∃ last, read ⟨[], outer⟩ previous (name.length + fuel) (name ++ rest) =
      read ⟨[], (name.map GlobToken.literal).reverse ++ outer⟩ last fuel rest := by
  induction name generalizing outer previous with
  | nil => exact ⟨previous, by rw [List.length_nil, Nat.zero_add]; rfl⟩
  | cons c name ih =>
    obtain ⟨last, hlast⟩ := ih (fun d hd => h d (List.mem_cons_of_mem _ hd)) (.literal c :: outer) c
    refine ⟨last, ?_⟩
    have hfuel : (c :: name).length + fuel = name.length + fuel + 1 := by
      rw [List.length_cons]
      omega
    rw [hfuel, List.cons_append, read_literal (.inl (h c List.mem_cons_self)), hlast,
      List.map_cons, List.reverse_cons, List.append_assoc]
    rfl

/-- The pattern of a text that begins with the name of a directory, wherever it lies, and has
something behind the name. -/
theorem namesDirectory_of_parse {name rest : String} {glob : Glob}
    (h : ∀ c ∈ name.toList, isOrdinary c)
    (hparse : parse ("**/" ++ name ++ "/" ++ rest) = .ok glob) :
    NamesDirectory name.toList glob := by
  have hlist : ("**/" ++ name ++ "/" ++ rest).toList =
      '*' :: '*' :: '/' :: (name.toList ++ '/' :: rest.toList) := by
    simp
  have hfuel : ("**/" ++ name ++ "/" ++ rest).length + 1 =
      name.toList.length + (rest.toList.length + 3 + 1) + 1 := by
    rw [← String.length_toList, hlist]
    simp
    omega
  rw [parse, hlist, hfuel] at hparse
  obtain ⟨state, hread, hstate⟩ := exists_of_bind_ok hparse
  -- the stars at the front stand for the segments above
  have hstart : read {} none (name.toList.length + (rest.toList.length + 3 + 1) + 1)
      ('*' :: '*' :: '/' :: (name.toList ++ '/' :: rest.toList)) =
        read ⟨[], [.leadingSegments]⟩ (some '/') (name.toList.length + (rest.toList.length + 3 + 1))
          (name.toList ++ '/' :: rest.toList) := by
    have hstars (text : List Char) : ParseState.takeStars {} none ('/' :: text) =
        (⟨[], [.leadingSegments]⟩, text) := rfl
    have hread (text : List Char) (fuel : Nat) : read {} none (fuel + 1) ('*' :: '*' :: text) =
        read (ParseState.takeStars {} none text).1
          (some (if (ParseState.takeStars {} none text).2.length < text.length then '/' else '*'))
          fuel (ParseState.takeStars {} none text).2 := rfl
    rw [hread, hstars, if_pos (by simp)]
  obtain ⟨last, hlast⟩ := exists_read_literals h [.leadingSegments] (some '/')
    (rest.toList.length + 3 + 1)
  rw [hstart, hlast, read_literal (.inr rfl)] at hread
  have hfront :
      HasFront ((name.toList.map GlobToken.literal).reverse ++ [.leadingSegments]) state :=
    HasFront.read ⟨_, [], .literal, rfl⟩ hread
  obtain ⟨token, more, htoken, houter⟩ := hfront
  refine ⟨token, more.reverse, htoken, ?_⟩
  split at hstate
  · obtain rfl := Except.ok.inj hstate
    rw [houter]
    simp
  · cases hstate

end Glob

end SfcBundler
