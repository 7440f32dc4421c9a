import Mathlib.Algebra.Group.Nat.Defs
import SfcBundler.Text.Cut
import SfcBundler.Text.Utf8

/-!
# Line ends in bytes and in text

A file keeps its line ends in bytes, and its text is read from them leniently. Neither a line feed
nor a return can continue a character that was begun, so whatever malformed bytes stand in front of
a line end, they are given up in front of it. A return that is written before a line feed is then a
character of its own, right before that of the line feed.

## Main definitions

* `Text.Widens`: items with a return written in front of some of their line feeds
* `Utf8.State.IsSound`: a state in which the reader waits for no ASCII

## Main results

* `Utf8.exists_mem_of_mem_unitsFrom`: an ASCII character stands for a byte of its own
* `Utf8.widens_decodeLossy`: what is written in front of the line feeds of bytes stands in front
  of those of their text, malformed bytes or not
* `Text.unixLines_of_widens`: single line ends of a text, however it was written
-/

namespace SfcBundler

namespace Text

/-- Items with a return written in front of some of their line feeds. -/
inductive Widens {α : Type} (ret feed : α) : List α → List α → Prop
  | nil : Widens ret feed [] []
  | keep (item : α) {items wide : List α} (rest : Widens ret feed items wide) :
    Widens ret feed (item :: items) (item :: wide)
  | widen {items wide : List α} (rest : Widens ret feed items wide) :
    Widens ret feed (feed :: items) (ret :: feed :: wide)

namespace Widens

variable {α β : Type} {ret feed : α} {items wide : List α}

theorem refl (ret feed : α) (items : List α) : Widens ret feed items items := by
  induction items with
  | nil => exact .nil
  | cons item items ih => exact .keep item ih

theorem append_left (front : List α) (h : Widens ret feed items wide) :
    Widens ret feed (front ++ items) (front ++ wide) := by
  induction front with
  | nil => exact h
  | cons item front ih => exact .keep item ih

theorem map (change : α → β) (h : Widens ret feed items wide) :
    Widens (change ret) (change feed) (items.map change) (wide.map change) := by
  induction h with
  | nil => exact .nil
  | keep item _ ih => exact .keep (change item) ih
  | widen _ ih => exact .widen ih

end Widens

theorem unixLines_cons_of_ne {c : Char} (h : c ≠ '\r') (text : List Char) :
    unixLines (c :: text) = c :: unixLines text := by
  rw [unixLines]
  rintro rest rfl
  exact absurd rfl h

/-- The single line ends of a text, however it was written. -/
theorem unixLines_of_widens {text wide : List Char} (h : Widens '\r' '\n' text wide)
    (htext : '\r' ∉ text) : unixLines wide = text := by
  induction h with
  | nil => rfl
  | keep c _ ih =>
    rw [List.mem_cons, not_or] at htext
    rw [unixLines_cons_of_ne (Ne.symm htext.1), ih htext.2]
  | widen _ ih => rw [unixLines, ih (List.not_mem_of_not_mem_cons htext)]

end Text

namespace Utf8

/-- The least code point that a character can come to of which `owed` bytes are missing, the next of
them from `low` on. -/
def leastCodePoint (owed : Nat) (low : UInt8) (bits : Nat) : Nat :=
  bits * 64 ^ owed + (low.toNat - 0x80) * 64 ^ (owed - 1)

/-- A state in which the reader waits for no ASCII: the next byte is none, and the character that it
belongs to is none. -/
def State.IsSound : State → Prop
  | .start => True
  | .inside owed low _ bits => 1 ≤ owed ∧ 0x80 ≤ low.toNat ∧ 0x80 ≤ leastCodePoint owed low bits

variable {state : State} {byte : UInt8} {bytes wide : List UInt8} {c : Char}

/-- A byte that is waited for leaves the character where it can come to no less. -/
theorem State.IsSound.le_of_mem {owed bits : Nat} {low high : UInt8}
    (h : (State.inside owed low high bits).IsSound) (hbyte : low ≤ byte && byte ≤ high) :
    0x80 ≤ (bits * 64 + (byte.toNat - 0x80)) * 64 ^ (owed - 1) := by
  obtain ⟨howed, -, hleast⟩ := h
  obtain ⟨more, rfl⟩ := Nat.exists_eq_add_of_le' howed
  have hlow : low.toNat ≤ byte.toNat := (Bool.and_eq_true_iff.1 hbyte).1 |> of_decide_eq_true
  calc 0x80
      ≤ bits * 64 ^ (more + 1) + (low.toNat - 0x80) * 64 ^ more := hleast
    _ ≤ bits * 64 ^ (more + 1) + (byte.toNat - 0x80) * 64 ^ more :=
        Nat.add_le_add_left (Nat.mul_le_mul_right _ (Nat.sub_le_sub_right hlow _)) _
    _ = (bits * 64 + (byte.toNat - 0x80)) * 64 ^ more := by
        rw [Nat.pow_succ', ← Nat.mul_assoc, Nat.add_mul]

/-- A character is begun in a state that comes to no ASCII. -/
theorem isSound_first (byte : UInt8) : (first byte).2.IsSound := by
  unfold first
  dsimp only
  -- the narrower ranges behind E0 and F0 are what keeps the overlong forms of ASCII out
  repeat' split
  all_goals simp_all [State.IsSound, leastCodePoint]
  all_goals omega

theorem step_of_lt {owed bits : Nat} {low high : UInt8} (h : byte < low) :
    step (.inside owed low high bits) byte = (none :: (first byte).1, (first byte).2) := by
  rw [step, if_neg]
  simp [UInt8.not_le.2 h]

theorem isSound_step (h : state.IsSound) (byte : UInt8) : (step state byte).2.IsSound := by
  cases state with
  | start => exact isSound_first byte
  | inside owed low high bits =>
    rw [step]
    split
    · rename_i hbyte
      dsimp only
      split
      · trivial
      · exact ⟨by omega, Nat.le_refl _, Nat.le_trans (h.le_of_mem hbyte) (Nat.le_add_right _ _)⟩
    · exact isSound_first byte

/-- A number that is no code point makes a null character. -/
theorem toNat_ofNat_of_pos {n : Nat} (h : 0 < (Char.ofNat n).toNat) : (Char.ofNat n).toNat = n := by
  by_cases hvalid : n.isValidChar
  · rw [Char.ofNat, dif_pos hvalid]
    rfl
  · rw [Char.ofNat, dif_neg hvalid] at h
    exact absurd h (Nat.lt_irrefl 0)

theorem toNat_of_mem_first (hc : some c ∈ (first byte).1) (hpos : 0 < c.toNat) :
    c.toNat = byte.toNat := by
  unfold first at hc
  dsimp only at hc
  split at hc
  · obtain rfl := Option.some.inj (List.mem_singleton.1 hc)
    exact toNat_ofNat_of_pos hpos
  · repeat' split at hc
    all_goals simp at hc

/-- An ASCII character is read from its own byte alone. -/
theorem toNat_of_mem_step (h : state.IsSound) (hc : some c ∈ (step state byte).1)
    (hpos : 0 < c.toNat) (hascii : c.toNat < 0x80) : c.toNat = byte.toNat := by
  cases state with
  | start => exact toNat_of_mem_first hc hpos
  | inside owed low high bits =>
    rw [step] at hc
    split at hc
    · rename_i hbyte
      have hgrows := h.le_of_mem hbyte
      dsimp only at hc
      split at hc
      · -- the last byte of a longer character
        rename_i hlast
        rw [List.mem_singleton, Option.some_inj] at hc
        rw [Nat.sub_eq_zero_of_le hlast, Nat.pow_zero, Nat.mul_one] at hgrows
        rw [hc] at hpos hascii
        rw [toNat_ofNat_of_pos hpos] at hascii
        exact absurd hgrows (Nat.not_le.2 hascii)
      · cases hc
    · exact toNat_of_mem_first ((List.mem_cons.1 hc).resolve_left (by simp)) hpos

theorem unitsFrom_cons (state : State) (byte : UInt8) (bytes : List UInt8) :
    unitsFrom state (byte :: bytes) =
      (step state byte).1 ++ unitsFrom (step state byte).2 bytes := by
  cases state <;> rfl

/-- An ASCII character stands for a byte of its own. -/
theorem exists_mem_of_mem_unitsFrom (h : state.IsSound) (hc : some c ∈ unitsFrom state bytes)
    (hpos : 0 < c.toNat) (hascii : c.toNat < 0x80) : ∃ byte ∈ bytes, byte.toNat = c.toNat := by
  induction bytes generalizing state with
  | nil => cases state <;> simp [unitsFrom] at hc
  | cons byte bytes ih =>
    rw [unitsFrom_cons] at hc
    rcases List.mem_append.1 hc with hhere | hlater
    · exact ⟨byte, List.mem_cons_self, (toNat_of_mem_step h hhere hpos hascii).symm⟩
    · obtain ⟨found, hfound, heq⟩ := ih (isSound_step h byte) hlater
      exact ⟨found, List.mem_cons_of_mem _ hfound, heq⟩

theorem return_notMem_decodeLossy (h : 0x0D ∉ bytes) : '\r' ∉ decodeLossy bytes := by
  intro hmem
  obtain ⟨piece, hpiece, hchar⟩ := List.mem_map.1 hmem
  cases piece with
  | none => cases hchar
  | some c =>
    obtain rfl : c = '\r' := hchar
    have hstart : State.start.IsSound := trivial
    obtain ⟨byte, hbyte, heq⟩ :=
      exists_mem_of_mem_unitsFrom hstart hpiece (by decide) (by decide)
    obtain rfl : byte = 0x0D := UInt8.toNat_inj.1 heq
    exact h hbyte

/-- A line feed gives up a character that was begun, and is read as it is. So it is with a return,
and the line feed behind it is read between characters. -/
theorem widens_feed (h : state.IsSound)
    (hrest : Text.Widens (some '\r') (some '\n') (unitsFrom .start bytes) (unitsFrom .start wide)) :
    Text.Widens (some '\r') (some '\n') (unitsFrom state (0x0A :: bytes))
      (unitsFrom state (0x0D :: 0x0A :: wide)) := by
  have hfeed : first 0x0A = ([some '\n'], .start) := by decide
  have hreturn : first 0x0D = ([some '\r'], .start) := by decide
  cases state with
  | start =>
    rw [unitsFrom_cons, unitsFrom_cons, step, step, hfeed, hreturn, unitsFrom_cons, step, hfeed]
    exact .widen hrest
  | inside owed low high bits =>
    -- the malformed unit ends in front of whichever of the two comes first
    have hbefore {byte : UInt8} (hbyte : byte.toNat < 0x80) : byte < low :=
      UInt8.lt_iff_toNat_lt.2 (Nat.lt_of_lt_of_le hbyte h.2.1)
    rw [unitsFrom_cons, unitsFrom_cons, step_of_lt (hbefore (by decide)),
      step_of_lt (hbefore (by decide)), hfeed, hreturn, unitsFrom_cons, step, hfeed]
    exact .keep none (.widen hrest)

/-- Whatever was begun, the returns that are written in front of line feeds are read there. -/
theorem widens_unitsFrom (hwide : Text.Widens 0x0D 0x0A bytes wide) (h : state.IsSound) :
    Text.Widens (some '\r') (some '\n') (unitsFrom state bytes) (unitsFrom state wide) := by
  induction hwide generalizing state with
  | nil => exact .refl ..
  | keep byte _ ih =>
    -- both readers complete the same units and stand in the same state
    rw [unitsFrom_cons, unitsFrom_cons]
    exact (ih (isSound_step h byte)).append_left _
  | widen _ ih => exact widens_feed h (ih trivial)

/-- The line feeds of bytes are those of their text, and a return in front of one of them stays in
front of it. -/
theorem widens_decodeLossy (h : Text.Widens 0x0D 0x0A bytes wide) :
    Text.Widens '\r' '\n' (decodeLossy bytes) (decodeLossy wide) :=
  have hstart : State.start.IsSound := trivial
  (widens_unitsFrom h hstart).map (·.getD (Char.ofNat 0xFFFD))

end Utf8

end SfcBundler
