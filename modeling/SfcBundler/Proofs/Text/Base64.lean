import SfcBundler.Text.Base64

/-!
# Reading base 64

A digit is read as its value, and four digits as three bytes. The last group may be filled up to
four characters; the bits that its digits have beyond its bytes must then be zero. A text that is
read in this way is the only one that is written for its bytes.

## Main definitions

* `Base64.value?`: the value of a digit
* `Base64.decode?`: the bytes of a text

## Main results

* `Base64.decode?_eq_some_iff`: a text is read as the bytes that it is written for, and as no others
-/

namespace SfcBundler.Base64

/-- The value of a digit. -/
def value? (c : Char) : Option Nat :=
  if 'A'.toNat ≤ c.toNat ∧ c.toNat ≤ 'Z'.toNat then some (c.toNat - 'A'.toNat)
  else if 'a'.toNat ≤ c.toNat ∧ c.toNat ≤ 'z'.toNat then some (c.toNat - 'a'.toNat + 26)
  else if '0'.toNat ≤ c.toNat ∧ c.toNat ≤ '9'.toNat then some (c.toNat - '0'.toNat + 52)
  else if c = '+' then some 62
  else if c = '/' then some 63
  else none

/-- The first byte of a group, from its first two digits. -/
def firstByte (first second : Nat) : UInt8 := UInt8.ofNat (first * 4 + second / 16)

/-- The second byte of a group, from its second and third digit. -/
def secondByte (second third : Nat) : UInt8 := UInt8.ofNat (second % 16 * 16 + third / 4)

/-- The third byte of a group, from its last two digits. -/
def thirdByte (third fourth : Nat) : UInt8 := UInt8.ofNat (third % 4 * 64 + fourth)

/-- The bytes of a text. A group with `=` in it must be the last one. -/
def decode? : List Char → Option (List UInt8)
  | [] => some []
  | a :: b :: c :: d :: rest => do
    let first ← value? a
    let second ← value? b
    if c = '=' then
      if d = '=' ∧ rest = [] ∧ second % 16 = 0 then some [firstByte first second] else none
    else
      let third ← value? c
      if d = '=' then
        if rest = [] ∧ third % 4 = 0 then some [firstByte first second, secondByte second third]
        else none
      else
        let fourth ← value? d
        let bytes ← decode? rest
        some (firstByte first second :: secondByte second third :: thirdByte third fourth :: bytes)
  | _ => none

/-- Whether a character may stand in base 64: a digit, or what groups are filled up with. -/
def isSign (c : Char) : Bool := c == '=' || (value? c).isSome

/-! ### Digits -/

theorem value?_digit {value : Nat} (h : value < 64) : value? (digit value) = some value := by
  have hall : ∀ value < 64, value? (digit value) = some value := by decide
  exact hall value h

theorem digit_ne_pad {value : Nat} (h : value < 64) : digit value ≠ '=' := by
  have hall : ∀ value < 64, digit value ≠ '=' := by decide
  exact hall value h

/-- Only the digit of a value is read as that value. -/
theorem digit_eq_of_value? {c : Char} {value : Nat} (h : value? c = some value) :
    value < 64 ∧ digit value = c := by
  have hA : 'A'.toNat = 65 := rfl
  have hZ : 'Z'.toNat = 90 := rfl
  have ha : 'a'.toNat = 97 := rfl
  have hz : 'z'.toNat = 122 := rfl
  have h0 : '0'.toNat = 48 := rfl
  have h9 : '9'.toNat = 57 := rfl
  -- the digits are two alphabets, the decimal digits and two signs, in this order
  rw [value?] at h
  split at h
  · cases h
    refine ⟨by omega, ?_⟩
    rw [digit, if_pos (by omega), Nat.add_sub_cancel' (by omega), Char.ofNat_toNat]
  split at h
  · cases h
    refine ⟨by omega, ?_⟩
    rw [digit, if_neg (by omega), if_pos (by omega), Nat.add_sub_cancel,
      Nat.add_sub_cancel' (by omega), Char.ofNat_toNat]
  split at h
  · cases h
    refine ⟨by omega, ?_⟩
    rw [digit, if_neg (by omega), if_neg (by omega), if_pos (by omega), Nat.add_sub_cancel,
      Nat.add_sub_cancel' (by omega), Char.ofNat_toNat]
  split at h
  · rename_i hplus
    cases h
    exact ⟨by omega, hplus.symm⟩
  split at h
  · rename_i hslash
    cases h
    exact ⟨by omega, hslash.symm⟩
  · cases h

theorem isSign_digit {value : Nat} (h : value < 64) : isSign (digit value) := by
  simp [isSign, value?_digit h]

/-- Nothing but digits is written, and what groups are filled up with. -/
theorem all_isSign_encode (bytes : List UInt8) : (encode bytes).all isSign := by
  have hpad : isSign '=' := rfl
  induction bytes using encode.induct with
  | case1 => rfl
  | case2 a =>
    have ha := a.toNat_lt
    simp (disch := omega) [encode, isSign_digit, hpad]
  | case3 a b =>
    have ha := a.toNat_lt
    have hb := b.toNat_lt
    simp (disch := omega) [encode, isSign_digit, hpad]
  | case4 a b c rest ih =>
    have ha := a.toNat_lt
    have hb := b.toNat_lt
    have hc := c.toNat_lt
    rw [encode]
    simp (disch := omega) only [List.all_cons, isSign_digit, ih, Bool.and_self]

/-! ### Bytes -/

section Groups

variable {first second third fourth : Nat}

theorem firstByte_eq (a : UInt8) (h : second < 16) :
    firstByte (a.toNat / 4) (a.toNat % 4 * 16 + second) = a := by
  have hvalue : a.toNat / 4 * 4 + (a.toNat % 4 * 16 + second) / 16 = a.toNat := by omega
  rw [firstByte, hvalue, UInt8.ofNat_toNat]

theorem secondByte_eq (first : Nat) (b : UInt8) (h : third < 4) :
    secondByte (first * 16 + b.toNat / 16) (b.toNat % 16 * 4 + third) = b := by
  have hb := b.toNat_lt
  have hvalue : (first * 16 + b.toNat / 16) % 16 * 16 + (b.toNat % 16 * 4 + third) / 4 =
      b.toNat := by omega
  rw [secondByte, hvalue, UInt8.ofNat_toNat]

theorem thirdByte_eq (second : Nat) (c : UInt8) :
    thirdByte (second * 4 + c.toNat / 64) (c.toNat % 64) = c := by
  have hc := c.toNat_lt
  have hvalue : (second * 4 + c.toNat / 64) % 4 * 64 + c.toNat % 64 = c.toNat := by omega
  rw [thirdByte, hvalue, UInt8.ofNat_toNat]

theorem toNat_firstByte (hfirst : first < 64) (hsecond : second < 64) :
    (firstByte first second).toNat = first * 4 + second / 16 :=
  UInt8.toNat_ofNat_of_lt' (by simp only [UInt8.size]; omega)

theorem toNat_secondByte (hthird : third < 64) :
    (secondByte second third).toNat = second % 16 * 16 + third / 4 :=
  UInt8.toNat_ofNat_of_lt' (by simp only [UInt8.size]; omega)

theorem toNat_thirdByte (hfourth : fourth < 64) :
    (thirdByte third fourth).toNat = third % 4 * 64 + fourth :=
  UInt8.toNat_ofNat_of_lt' (by simp only [UInt8.size]; omega)

end Groups

theorem decode?_encode (bytes : List UInt8) : decode? (encode bytes) = some bytes := by
  induction bytes using encode.induct with
  | case1 => rfl
  | case2 a =>
    have ha := a.toNat_lt
    have hone : firstByte (a.toNat / 4) (a.toNat % 4 * 16) = a :=
      firstByte_eq a (Nat.zero_lt_succ 15)
    -- the bits of the last digit that are not needed are zeros, as the reader demands
    have hfilled : a.toNat % 4 * 16 % 16 = 0 := by omega
    simp (disch := omega) only [encode, decode?, value?_digit, hone, hfilled, and_self, if_true,
      Option.bind_eq_bind, Option.bind_some]
  | case3 a b =>
    have ha := a.toNat_lt
    have hb := b.toNat_lt
    have hone : firstByte (a.toNat / 4) (a.toNat % 4 * 16 + b.toNat / 16) = a :=
      firstByte_eq a (by omega)
    have htwo : secondByte (a.toNat % 4 * 16 + b.toNat / 16) (b.toNat % 16 * 4) = b :=
      secondByte_eq _ b (Nat.zero_lt_succ 3)
    have hfilled : b.toNat % 16 * 4 % 4 = 0 := by omega
    simp (disch := omega) only [encode, decode?, value?_digit, digit_ne_pad, hone, htwo, hfilled,
      and_self, if_true, if_false, Option.bind_eq_bind, Option.bind_some]
  | case4 a b c rest ih =>
    have ha := a.toNat_lt
    have hb := b.toNat_lt
    have hc := c.toNat_lt
    have hone : firstByte (a.toNat / 4) (a.toNat % 4 * 16 + b.toNat / 16) = a :=
      firstByte_eq a (by omega)
    have htwo : secondByte (a.toNat % 4 * 16 + b.toNat / 16) (b.toNat % 16 * 4 + c.toNat / 64) =
        b := secondByte_eq _ b (by omega)
    have hthree := thirdByte_eq (b.toNat % 16) c
    simp (disch := omega) only [encode, decode?, value?_digit, digit_ne_pad, hone, htwo, hthree,
      ih, if_false, Option.bind_eq_bind, Option.bind_some]

/-- What is read is written in the same way. -/
theorem encode_of_decode? {text : List Char} {bytes : List UInt8}
    (h : decode? text = some bytes) : encode bytes = text := by
  induction text using decode?.induct generalizing bytes with
  | case1 =>
    cases h
    rfl
  | case2 a b c d rest ih =>
    simp only [decode?, Option.bind_eq_bind, Option.bind_eq_some_iff] at h
    obtain ⟨first, hvalue, second, hvalue', h⟩ := h
    obtain ⟨hfirst, rfl⟩ := digit_eq_of_value? hvalue
    obtain ⟨hsecond, rfl⟩ := digit_eq_of_value? hvalue'
    -- the digits are found in the bytes again, since those that are filled up end in zeros
    have hone := toNat_firstByte hfirst hsecond
    have hdigit : (firstByte first second).toNat / 4 = first := by omega
    split at h
    · -- one byte
      rename_i hpad
      split at h
      · rename_i hlast
        obtain ⟨rfl, rfl, hfilled⟩ := hlast
        cases h
        have hdigit' : (firstByte first second).toNat % 4 * 16 = second := by omega
        rw [encode, hdigit, hdigit', hpad]
      · cases h
    rw [Option.bind_eq_some_iff] at h
    obtain ⟨third, hvalue, h⟩ := h
    obtain ⟨hthird, rfl⟩ := digit_eq_of_value? hvalue
    have htwo : (secondByte second third).toNat = second % 16 * 16 + third / 4 :=
      toNat_secondByte hthird
    have hdigit' : (firstByte first second).toNat % 4 * 16 +
        (secondByte second third).toNat / 16 = second := by omega
    split at h
    · -- two bytes
      rename_i hpad
      split at h
      · rename_i hlast
        obtain ⟨rfl, hfilled⟩ := hlast
        cases h
        have hdigit'' : (secondByte second third).toNat % 16 * 4 = third := by omega
        rw [encode, hdigit, hdigit', hdigit'', hpad]
      · cases h
    · -- three bytes, with the other groups behind them
      simp only [Option.bind_eq_some_iff, Option.some.injEq] at h
      obtain ⟨fourth, hvalue, bytes, hbytes, rfl⟩ := h
      obtain ⟨hfourth, rfl⟩ := digit_eq_of_value? hvalue
      have hthree : (thirdByte third fourth).toNat = third % 4 * 64 + fourth :=
        toNat_thirdByte hfourth
      have hdigit'' : (secondByte second third).toNat % 16 * 4 +
          (thirdByte third fourth).toNat / 64 = third := by omega
      have hlast : (thirdByte third fourth).toNat % 64 = fourth := by omega
      rw [encode, hdigit, hdigit', hdigit'', hlast, ih hbytes]
  | case3 text hnil hgroup =>
    rw [decode?] at h
    · cases h
    · exact hnil
    · exact hgroup

/-- A text is read as the bytes that it is written for, and as no others. -/
theorem decode?_eq_some_iff {text : List Char} {bytes : List UInt8} :
    decode? text = some bytes ↔ text = encode bytes := by
  constructor
  · intro h
    exact (encode_of_decode? h).symm
  · rintro rfl
    exact decode?_encode bytes

/-- Bits beyond the bytes of a group are not passed over. -/
example : decode? "Zm9vYg==".toList = some [102, 111, 111, 98] ∧
    decode? "Zm9vYh==".toList = none := by decide

end SfcBundler.Base64
