import Mathlib.Data.List.Basic
import ParserFoundry.Files.Bytes
import ParserFoundry.Proofs.Checked
/-!
# Texts in Bytes

Reading takes the bytes one after the other, and a character may be under way for three of them.
The byte sequences that spell one character are listed by their length, as the reader takes them.
They are the sequences that characters are written with, so that exactly the bytes of a text can be
read, and they are read as this text.

Main results:
- `spells_utf8EncodeChar`, `Spells.eq`: characters are written with the sequences that spell them.
- `Spells.characters`, `exists_spells`: these sequences are read, and no others.
- `text_eq_some_iff`: what can be read as a text.
-/

namespace ParserFoundry.Files

namespace Bytes

/-! ## Sequences that spell a character -/

/-- The bytes spell the character with a code. After some first bytes, the range of the second is
narrower, since the code would be too small, a surrogate or too large otherwise. -/
inductive Spells : Bytes → Nat → Prop
  | one {first : UInt8} : first.toNat < 0x80 → Spells [first] first.toNat
  | two {first second : UInt8} :
      0xC2 ≤ first.toNat ∧ first.toNat ≤ 0xDF →
      0x80 ≤ second.toNat ∧ second.toNat ≤ 0xBF →
      Spells [first, second] (first.toNat % 32 * 64 + second.toNat % 64)
  | three {first second third : UInt8} :
      0xE0 ≤ first.toNat ∧ first.toNat ≤ 0xEF →
      (if first.toNat = 0xE0 then 0xA0 else 0x80) ≤ second.toNat ∧
        second.toNat ≤ (if first.toNat = 0xED then 0x9F else 0xBF) →
      0x80 ≤ third.toNat ∧ third.toNat ≤ 0xBF →
      Spells [first, second, third]
        ((first.toNat % 16 * 64 + second.toNat % 64) * 64 + third.toNat % 64)
  | four {first second third fourth : UInt8} :
      0xF0 ≤ first.toNat ∧ first.toNat ≤ 0xF4 →
      (if first.toNat = 0xF0 then 0x90 else 0x80) ≤ second.toNat ∧
        second.toNat ≤ (if first.toNat = 0xF4 then 0x8F else 0xBF) →
      0x80 ≤ third.toNat ∧ third.toNat ≤ 0xBF →
      0x80 ≤ fourth.toNat ∧ fourth.toNat ≤ 0xBF →
      Spells [first, second, third, fourth]
        (((first.toNat % 8 * 64 + second.toNat % 64) * 64 + third.toNat % 64) * 64 +
          fourth.toNat % 64)

/-! ### Ranges -/

/-- The second of three bytes goes on with a character. With the first one, it makes the code too
large for two bytes, and no surrogate. -/
theorem second_of_three {first second : Nat} (hfirst : 0xE0 ≤ first ∧ first ≤ 0xEF)
    (hsecond : (if first = 0xE0 then 0xA0 else 0x80) ≤ second ∧
      second ≤ (if first = 0xED then 0x9F else 0xBF)) :
    (0x80 ≤ second ∧ second ≤ 0xBF) ∧ 0x20 ≤ first % 16 * 64 + second % 64 ∧
      first % 16 * 64 + second % 64 < 0x400 ∧
      (first % 16 * 64 + second % 64 < 0x360 ∨ 0x380 ≤ first % 16 * 64 + second % 64) := by
  split_ifs at hsecond <;> omega

/-- The second of four bytes goes on with a character. With the first one, it makes the code too
large for three bytes, and not too large for a character. -/
theorem second_of_four {first second : Nat} (hfirst : 0xF0 ≤ first ∧ first ≤ 0xF4)
    (hsecond : (if first = 0xF0 then 0x90 else 0x80) ≤ second ∧
      second ≤ (if first = 0xF4 then 0x8F else 0xBF)) :
    (0x80 ≤ second ∧ second ≤ 0xBF) ∧ 0x10 ≤ first % 8 * 64 + second % 64 ∧
      first % 8 * 64 + second % 64 < 0x110 := by
  split_ifs at hsecond <;> omega

/-- What is spelled is the code of a character. -/
theorem Spells.isValidChar {bytes : Bytes} {code : Nat} (h : Spells bytes code) :
    code.isValidChar := by
  unfold Nat.isValidChar
  cases h with
  | one hfirst => omega
  | two hfirst hsecond => omega
  | @three first second third hfirst hsecond hthird =>
    -- the first two bytes decide, whatever the last one adds
    obtain ⟨-, -, hmost, hsurrogate⟩ := second_of_three hfirst hsecond
    generalize first.toNat % 16 * 64 + second.toNat % 64 = high at hmost hsurrogate ⊢
    clear hfirst hsecond hthird
    omega
  | @four first second third fourth hfirst hsecond hthird hfourth =>
    obtain ⟨-, hleast, hmost⟩ := second_of_four hfirst hsecond
    generalize first.toNat % 8 * 64 + second.toNat % 64 = high at hleast hmost ⊢
    clear hfirst hsecond hthird hfourth
    omega

/-! ### Written characters -/

section Encode

variable {c : Char}

/-- Codes below 128 are written with one byte. -/
theorem utf8EncodeChar_one (h : c.toNat < 0x80) :
    String.utf8EncodeChar c = [UInt8.ofNat c.toNat] :=
  if_pos (Nat.le_of_lt_succ h)

/-- Two bytes: five bits and six. -/
theorem utf8EncodeChar_two (hleast : 0x80 ≤ c.toNat) (hmost : c.toNat < 0x800) :
    String.utf8EncodeChar c =
      [UInt8.ofNat (c.toNat / 64 % 32 + 0xC0), UInt8.ofNat (c.toNat % 64 + 0x80)] :=
  (if_neg (Nat.not_le_of_gt hleast)).trans (if_pos (Nat.le_of_lt_succ hmost))

/-- Three bytes: four bits and twice six. -/
theorem utf8EncodeChar_three (hleast : 0x800 ≤ c.toNat) (hmost : c.toNat < 0x10000) :
    String.utf8EncodeChar c =
      [UInt8.ofNat (c.toNat / 64 / 64 % 16 + 0xE0), UInt8.ofNat (c.toNat / 64 % 64 + 0x80),
        UInt8.ofNat (c.toNat % 64 + 0x80)] := by
  rw [Nat.div_div_eq_div_mul]
  exact (if_neg (by change ¬c.toNat ≤ 127; omega)).trans
    ((if_neg (Nat.not_le_of_gt hleast)).trans (if_pos (Nat.le_of_lt_succ hmost)))

/-- Four bytes: three bits and three times six. -/
theorem utf8EncodeChar_four (hleast : 0x10000 ≤ c.toNat) :
    String.utf8EncodeChar c =
      [UInt8.ofNat (c.toNat / 64 / 64 / 64 % 8 + 0xF0), UInt8.ofNat (c.toNat / 64 / 64 % 64 + 0x80),
        UInt8.ofNat (c.toNat / 64 % 64 + 0x80), UInt8.ofNat (c.toNat % 64 + 0x80)] := by
  simp only [Nat.div_div_eq_div_mul]
  exact (if_neg (by change ¬c.toNat ≤ 127; omega)).trans
    ((if_neg (by change ¬c.toNat ≤ 2047; omega)).trans (if_neg (Nat.not_le_of_gt hleast)))

end Encode

/-- The code may be written differently. -/
theorem Spells.of_eq {bytes : Bytes} {code code' : Nat} (h : Spells bytes code')
    (hcode : code' = code) : Spells bytes code :=
  hcode ▸ h

/-- A character is written with bytes that spell it. -/
theorem spells_utf8EncodeChar (c : Char) : Spells (String.utf8EncodeChar c) c.toNat := by
  have hvalid : c.toNat.isValidChar := c.valid
  unfold Nat.isValidChar at hvalid
  rcases Nat.lt_or_ge c.toNat 0x80 with hone | hone
  · rw [utf8EncodeChar_one hone]
    generalize c.toNat = code at hone ⊢
    -- the length is chosen by the code, and each byte lies in its range
    refine (Spells.one ?_).of_eq ?_ <;> simp only [UInt8.toNat_ofNat'] <;> omega
  rcases Nat.lt_or_ge c.toNat 0x800 with htwo | htwo
  · rw [utf8EncodeChar_two hone htwo]
    generalize c.toNat = code at hone htwo ⊢
    refine (Spells.two ?_ ?_).of_eq ?_ <;> simp only [UInt8.toNat_ofNat'] <;> omega
  rcases Nat.lt_or_ge c.toNat 0x10000 with hthree | hthree
  · rw [utf8EncodeChar_three htwo hthree]
    generalize c.toNat = code at hvalid htwo hthree ⊢
    refine (Spells.three ?_ ?_ ?_).of_eq ?_ <;> simp only [UInt8.toNat_ofNat']
    case refine_2 => split_ifs <;> omega
    all_goals omega
  · rw [utf8EncodeChar_four hthree]
    generalize c.toNat = code at hvalid hthree ⊢
    refine (Spells.four ?_ ?_ ?_ ?_).of_eq ?_ <;> simp only [UInt8.toNat_ofNat']
    case refine_2 => split_ifs <;> omega
    all_goals omega

/-- The six bits of a byte are read off behind a number. -/
theorem div_digit (high low : Nat) : (high * 64 + low % 64) / 64 = high := by
  omega

/-- The six bits themselves. -/
theorem mod_digit (high low : Nat) : (high * 64 + low % 64) % 64 = low % 64 := by
  omega

/-- A byte is told by its number. -/
theorem ofNat_eq {byte : UInt8} {code : Nat} (h : code = byte.toNat) : UInt8.ofNat code = byte := by
  rw [h, UInt8.ofNat_toNat]

/-- A byte that goes on with a character is made from its six bits. -/
theorem ofNat_digit {byte : UInt8} (h : 0x80 ≤ byte.toNat ∧ byte.toNat ≤ 0xBF) :
    UInt8.ofNat (byte.toNat % 64 + 0x80) = byte :=
  ofNat_eq (by omega)

/-- Only the bytes that a character is written with spell it. -/
theorem Spells.eq {bytes : Bytes} {code : Nat} (h : Spells bytes code) :
    bytes = String.utf8EncodeChar (Char.ofNat code) := by
  have hcode : (Char.ofNat code).toNat = code := by
    rw [Char.ofNat, dif_pos h.isValidChar]
    rfl
  -- the ranges of the bytes say which length the code is written with
  cases h with
  | one hfirst => rw [utf8EncodeChar_one (by omega), hcode, UInt8.ofNat_toNat]
  | @two first second hfirst hsecond =>
    rw [utf8EncodeChar_two (by omega) (by omega), hcode, div_digit, mod_digit, ofNat_digit hsecond,
      show UInt8.ofNat _ = first from ofNat_eq (by omega)]
  | @three first second third hfirst hsecond hthird =>
    obtain ⟨hnext, hleast, hmost, -⟩ := second_of_three hfirst hsecond
    rw [utf8EncodeChar_three (by omega) (by omega), hcode, div_digit, mod_digit, div_digit,
      mod_digit, ofNat_digit hthird, ofNat_digit hnext,
      show UInt8.ofNat _ = first from ofNat_eq (by omega)]
  | @four first second third fourth hfirst hsecond hthird hfourth =>
    obtain ⟨hnext, hleast, -⟩ := second_of_four hfirst hsecond
    rw [utf8EncodeChar_four (by omega), hcode, div_digit, mod_digit, div_digit, mod_digit,
      div_digit, mod_digit, ofNat_digit hfourth, ofNat_digit hthird, ofNat_digit hnext,
      show UInt8.ofNat _ = first from ofNat_eq (by omega)]

/-! ## Reading sequences -/

/-! ### First bytes -/

/-- The first of two bytes. -/
theorem lead_two {first : Nat} (h : 0xC2 ≤ first ∧ first ≤ 0xDF) :
    lead? first = some ⟨1, 0x80, 0xBF, first % 32⟩ := by
  rw [lead?, if_pos h]

/-- The first of three bytes says which second ones make too small a code, or a surrogate. -/
theorem lead_three {first : Nat} (h : 0xE0 ≤ first ∧ first ≤ 0xEF) :
    lead? first = some ⟨2, if first = 0xE0 then 0xA0 else 0x80,
      if first = 0xED then 0x9F else 0xBF, first % 16⟩ := by
  by_cases hleast : first = 0xE0
  · rw [hleast]
    rfl
  · by_cases hsurrogate : first = 0xED
    · rw [hsurrogate]
      rfl
    · rw [lead?, if_neg (by omega), if_neg hleast, if_neg hsurrogate, if_pos (by omega),
        if_neg hleast, if_neg hsurrogate]

/-- The first of four bytes says which second ones make too small or too large a code. -/
theorem lead_four {first : Nat} (h : 0xF0 ≤ first ∧ first ≤ 0xF4) :
    lead? first = some ⟨3, if first = 0xF0 then 0x90 else 0x80,
      if first = 0xF4 then 0x8F else 0xBF, first % 8⟩ := by
  by_cases hleast : first = 0xF0
  · rw [hleast]
    rfl
  · by_cases hgreatest : first = 0xF4
    · rw [hgreatest]
      rfl
    · rw [lead?, if_neg (by omega), if_neg (by omega), if_neg (by omega), if_neg (by omega),
        if_neg hleast, if_neg hgreatest, if_pos (by omega), if_neg hleast, if_neg hgreatest]

/-- No other byte begins a character of several bytes. -/
theorem lead_eq_none {first : Nat} (htwo : ¬(0xC2 ≤ first ∧ first ≤ 0xDF))
    (hthree : ¬(0xE0 ≤ first ∧ first ≤ 0xEF)) (hfour : ¬(0xF0 ≤ first ∧ first ≤ 0xF4)) :
    lead? first = none := by
  rw [lead?, if_neg htwo, if_neg (by omega), if_neg (by omega), if_neg (by omega),
    if_neg (by omega), if_neg (by omega), if_neg (by omega)]

/-! ### Steps of the reader -/

variable {first byte : UInt8} {more low high value : Nat}

/-- A small byte is a character. -/
theorem characters_small (hfirst : first.toNat < 0x80) (rest : Bytes) :
    characters none (first :: rest) = some (Char.ofNat first.toNat) :: characters none rest := by
  simp [characters, hfirst]

/-- A first byte starts a character that goes on. -/
theorem characters_lead (hfirst : ¬first.toNat < 0x80)
    (hlead : lead? first.toNat = some ⟨more, low, high, value⟩) (rest : Bytes) :
    characters none (first :: rest) = characters (some ⟨more, low, high, value⟩) rest := by
  simp [characters, hfirst, hlead, Partial.ofLead]

/-- A byte that starts nothing is no character. -/
theorem characters_no_lead (hfirst : ¬first.toNat < 0x80) (hlead : lead? first.toNat = none)
    (rest : Bytes) : characters none (first :: rest) = none :: characters none rest := by
  simp [characters, hfirst, hlead]

/-- The last byte of a character. -/
theorem characters_last (hbyte : low ≤ byte.toNat ∧ byte.toNat ≤ high) (rest : Bytes) :
    characters (some ⟨1, low, high, value⟩) (byte :: rest) =
      some (Char.ofNat (value * 64 + byte.toNat % 64)) :: characters none rest := by
  simp [characters, hbyte]

/-- A byte of a character that goes on. -/
theorem characters_next (hbyte : low ≤ byte.toNat ∧ byte.toNat ≤ high) (rest : Bytes) :
    characters (some ⟨more + 2, low, high, value⟩) (byte :: rest) =
      characters (some ⟨more + 1, 0x80, 0xBF, value * 64 + byte.toNat % 64⟩) rest := by
  simp [characters, hbyte]

/-- A character that is read does not break off. -/
theorem exists_next {bytes : Bytes}
    (h : none ∉ characters (some ⟨more, low, high, value⟩) bytes) :
    ∃ byte rest, bytes = byte :: rest ∧ low ≤ byte.toNat ∧ byte.toNat ≤ high := by
  cases bytes with
  | nil => exact absurd (List.mem_singleton_self none) h
  | cons byte rest =>
    refine ⟨byte, rest, rfl, ?_⟩
    by_contra hbyte
    -- the reader gives nothing for the bytes before, and starts anew
    refine h ?_
    rw [characters]
    dsimp only
    rw [if_neg hbyte]
    split_ifs
    · exact List.mem_cons_self
    · split <;> exact List.mem_cons_self

/-! ### Whole sequences -/

/-- Bytes that spell a character are read as this character. -/
theorem Spells.characters {bytes : Bytes} {code : Nat} (h : Spells bytes code) (rest : Bytes) :
    characters none (bytes ++ rest) = some (Char.ofNat code) :: characters none rest := by
  -- the first byte starts the character, and the others go on with it
  cases h with
  | one hfirst => exact characters_small hfirst rest
  | two hfirst hsecond =>
    exact (characters_lead (by omega) (lead_two hfirst) _).trans (characters_last hsecond rest)
  | three hfirst hsecond hthird =>
    exact (characters_lead (by omega) (lead_three hfirst) _).trans
      ((characters_next hsecond _).trans (characters_last hthird rest))
  | four hfirst hsecond hthird hfourth =>
    exact (characters_lead (by omega) (lead_four hfirst) _).trans
      ((characters_next hsecond _).trans
        ((characters_next hthird _).trans (characters_last hfourth rest)))

/-- Bytes of which all is read start with bytes that spell a character. -/
theorem exists_spells {bytes : Bytes} (hne : bytes ≠ []) (h : none ∉ characters none bytes) :
    ∃ front code rest, Spells front code ∧ bytes = front ++ rest := by
  obtain ⟨first, bytes, rfl⟩ := List.exists_cons_of_ne_nil hne
  -- the first byte says how many are to follow, and in which range the next one is
  by_cases hfirst : first.toNat < 0x80
  · exact ⟨[first], _, bytes, .one hfirst, rfl⟩
  by_cases htwo : 0xC2 ≤ first.toNat ∧ first.toNat ≤ 0xDF
  · rw [characters_lead hfirst (lead_two htwo)] at h
    obtain ⟨second, rest, rfl, hsecond⟩ := exists_next h
    exact ⟨[first, second], _, rest, .two htwo hsecond, rfl⟩
  by_cases hthree : 0xE0 ≤ first.toNat ∧ first.toNat ≤ 0xEF
  · rw [characters_lead hfirst (lead_three hthree)] at h
    obtain ⟨second, bytes, rfl, hsecond⟩ := exists_next h
    rw [characters_next hsecond] at h
    obtain ⟨third, rest, rfl, hthird⟩ := exists_next h
    exact ⟨[first, second, third], _, rest, .three hthree hsecond hthird, rfl⟩
  by_cases hfour : 0xF0 ≤ first.toNat ∧ first.toNat ≤ 0xF4
  · rw [characters_lead hfirst (lead_four hfour)] at h
    obtain ⟨second, bytes, rfl, hsecond⟩ := exists_next h
    rw [characters_next hsecond] at h
    obtain ⟨third, bytes, rfl, hthird⟩ := exists_next h
    rw [characters_next hthird] at h
    obtain ⟨fourth, rest, rfl, hfourth⟩ := exists_next h
    exact ⟨[first, second, third, fourth], _, rest, .four hfour hsecond hthird hfourth, rfl⟩
  · rw [characters_no_lead hfirst (lead_eq_none htwo hthree hfour)] at h
    exact absurd List.mem_cons_self h

/-! ## Reading texts -/

/-- The characters of written characters. -/
theorem characters_flatMap (chars : List Char) :
    characters none (chars.flatMap String.utf8EncodeChar) = chars.map some := by
  -- character by character: each of them is read before the next one starts
  induction chars with
  | nil => rfl
  | cons c rest ih =>
    rw [List.flatMap_cons, (spells_utf8EncodeChar c).characters, ih, Char.ofNat_toNat,
      List.map_cons]

/-- Bytes of which all is read are those of the characters that are read. -/
theorem exists_flatMap_of_characters {bytes : Bytes} (h : none ∉ characters none bytes) :
    ∃ chars : List Char, bytes = chars.flatMap String.utf8EncodeChar := by
  -- on the number of bytes, as a character takes between one and four of them
  induction hlength : bytes.length using Nat.strongRecOn generalizing bytes with
  | ind length ih =>
    by_cases hne : bytes = []
    · exact ⟨[], hne⟩
    · obtain ⟨front, code, rest, hfront, rfl⟩ := exists_spells hne h
      rw [hfront.characters] at h
      have hshorter : rest.length < length := by
        rw [← hlength, List.length_append]
        cases hfront <;> simp
      obtain ⟨chars, rfl⟩ := ih _ hshorter (fun hmem => h (List.mem_cons_of_mem _ hmem)) rfl
      exact ⟨Char.ofNat code :: chars, by rw [List.flatMap_cons, ← hfront.eq]⟩

/-- If all places hold characters, they are all characters. -/
theorem eq_map_some_of_mapM {values : List (Option Char)} {chars : List Char}
    (h : values.mapM id = some chars) : values = chars.map some := by
  -- along the places; one without a character would have been met
  induction values generalizing chars with
  | nil =>
    cases h
    rfl
  | cons value rest ih =>
    simp only [List.mapM_cons, Option.bind_eq_bind, Option.bind_eq_some_iff] at h
    obtain ⟨c, hvalue, others, hothers, hchars⟩ := h
    cases hchars
    rw [List.map_cons, ← ih hothers, ← hvalue]
    rfl

/-- A text is read from its own bytes. -/
theorem text_ofText (text : String) : text? (ofText text) = some text := by
  have hread : (text.toList.map some).mapM id = some (text.toList.map id) :=
    mapM_map_eq_some fun c _ => rfl
  rw [text?, ofText, characters_flatMap, hread, List.map_id, Option.map_some, String.ofList_toList]

/-- **Exactly the bytes of texts are read**, each as the text that it was written from. -/
theorem text_eq_some_iff {bytes : Bytes} {text : String} :
    text? bytes = some text ↔ bytes = ofText text := by
  constructor
  · intro h
    -- all of the bytes are read, so they are those of some text, which is this one
    obtain ⟨read, hread, -⟩ := Option.map_eq_some_iff.mp h
    have hnone : none ∉ characters none bytes := by
      rw [eq_map_some_of_mapM hread]
      simp
    obtain ⟨chars, hchars⟩ := exists_flatMap_of_characters hnone
    have hbytes : bytes = ofText (String.ofList chars) := by
      rw [ofText, String.toList_ofList, hchars]
    rw [hbytes, text_ofText] at h
    rw [hbytes, Option.some.inj h]
  · intro h
    rw [h, text_ofText]

end Bytes

end ParserFoundry.Files
