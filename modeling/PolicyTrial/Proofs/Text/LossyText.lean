import PolicyTrial.Text.Utf8

/-!
# Text that was decoded once

Decoding replaces what is ill-formed, so it loses octets; but it loses nothing twice. The octets of
a text decode to that very text, so a text that came from arbitrary octets can be written down and
read again.

* `pieces_encode`: the pieces of an encoded text are its characters.
* `lossyText_ofString`: reading what was written gives the text back.

The decoder runs over one character at a time. A lead octet fixes how many octets follow and between
which bounds the next one lies (`lead_two`, `lead_three`, `lead_four`); every octet that follows
adds six bits (`piecesOnto_inside_more`, `piecesOnto_inside_last`).
-/

namespace PolicyTrial.Text.Utf8

variable (out : List (Option Char)) (rest : List UInt8)

/-! ### The octets that follow a lead -/

theorem toNat_trail (n : Nat) : (UInt8.ofNat (n % 64 + 0x80)).toNat = n % 64 + 0x80 := by
  rw [UInt8.toNat_ofNat']
  omega

theorem piecesOnto_inside_more {more value low high n : Nat} (hl : low ≤ n % 64 + 0x80)
    (hh : n % 64 + 0x80 ≤ high) :
    piecesOnto out (.inside (more + 1) value low high) (UInt8.ofNat (n % 64 + 0x80) :: rest) =
      piecesOnto out (.inside more (value * 64 + n % 64) 0x80 0xBF) rest := by
  rw [piecesOnto, step, toNat_trail, if_pos ⟨hl, hh⟩]
  simp

theorem piecesOnto_inside_last {value low high n : Nat} (hl : low ≤ n % 64 + 0x80)
    (hh : n % 64 + 0x80 ≤ high) :
    piecesOnto out (.inside 0 value low high) (UInt8.ofNat (n % 64 + 0x80) :: rest) =
      piecesOnto (some (Char.ofNat (value * 64 + n % 64)) :: out) .start rest := by
  rw [piecesOnto, step, toNat_trail, if_pos ⟨hl, hh⟩]
  simp

/-! ### The lead octets -/

theorem lead_two {v : Nat} (hv : 0x7f < v) (hv' : v ≤ 0x7ff) :
    lead (v / 64 % 0x20 + 0xc0) = ([], .inside 0 (v / 64) 0x80 0xBF) := by
  have h_lead : v / 64 % 0x20 + 0xc0 = v / 64 + 0xc0 := by omega
  rw [h_lead, lead, if_neg (by omega), if_neg (by omega), if_pos (by omega),
    show v / 64 + 0xc0 - 0xC0 = v / 64 by omega]

/-- The bounds on the second octet rule out overlong forms and surrogates. -/
theorem lead_three {v : Nat} (hv : 0x7ff < v) (hv' : v ≤ 0xffff)
    (h_valid : v < 0xd800 ∨ 0xdfff < v) :
    ∃ low high, lead (v / 4096 % 0x10 + 0xe0) = ([], .inside 1 (v / 4096) low high) ∧
      low ≤ v / 64 % 64 + 0x80 ∧ v / 64 % 64 + 0x80 ≤ high := by
  have h_lead : v / 4096 % 0x10 + 0xe0 = v / 4096 + 0xe0 := by omega
  rw [h_lead, lead, if_neg (by omega), if_neg (by omega), if_neg (by omega)]
  by_cases h0 : v / 4096 = 0
  · refine ⟨0xA0, 0xBF, ?_, by omega, by omega⟩
    rw [if_pos (by omega), h0]
  · rw [if_neg (by omega)]
    by_cases hd : v / 4096 = 0xd
    · refine ⟨0x80, 0x9F, ?_, by omega, by omega⟩
      rw [if_pos (by omega), hd]
    · refine ⟨0x80, 0xBF, ?_, by omega, by omega⟩
      rw [if_neg (by omega), if_pos (by omega), show v / 4096 + 0xe0 - 0xE0 = v / 4096 by omega]

/-- The bounds on the second octet rule out overlong forms and what lies past the last character. -/
theorem lead_four {v : Nat} (hv : 0xffff < v) (h_valid : v < 0x110000) :
    ∃ low high, lead (v / 262144 % 0x08 + 0xf0) = ([], .inside 2 (v / 262144) low high) ∧
      low ≤ v / 4096 % 64 + 0x80 ∧ v / 4096 % 64 + 0x80 ≤ high := by
  have h_lead : v / 262144 % 0x08 + 0xf0 = v / 262144 + 0xf0 := by omega
  rw [h_lead, lead, if_neg (by omega), if_neg (by omega), if_neg (by omega), if_neg (by omega),
    if_neg (by omega), if_neg (by omega)]
  by_cases h0 : v / 262144 = 0
  · refine ⟨0x90, 0xBF, ?_, by omega, by omega⟩
    rw [if_pos (by omega), h0]
  · rw [if_neg (by omega)]
    by_cases h4 : v / 262144 = 4
    · refine ⟨0x80, 0x8F, ?_, by omega, by omega⟩
      rw [if_neg (by omega), if_pos (by omega), h4]
    · refine ⟨0x80, 0xBF, ?_, by omega, by omega⟩
      rw [if_pos (by omega), show v / 262144 + 0xf0 - 0xF0 = v / 262144 by omega]

theorem piecesOnto_lead {b : Nat} (hb : b < 256) {st : State} (h : lead b = ([], st)) :
    piecesOnto out .start (UInt8.ofNat b :: rest) = piecesOnto out st rest := by
  have h_byte : (UInt8.ofNat b).toNat = b := by rw [UInt8.toNat_ofNat']; omega
  rw [piecesOnto, step, h_byte, h]
  simp

/-! ### Whole characters and texts -/

/-- The octets of one character are that character. -/
theorem piecesOnto_utf8EncodeChar (c : Char) :
    piecesOnto out .start (String.utf8EncodeChar c ++ rest) =
      piecesOnto (some c :: out) .start rest := by
  have h_valid : c.val.toNat < 0xd800 ∨ 0xdfff < c.val.toNat ∧ c.val.toNat < 0x110000 := c.valid
  have h_char : Char.ofNat c.val.toNat = c := c.ofNat_toNat
  unfold String.utf8EncodeChar
  generalize c.val.toNat = v at h_valid h_char ⊢
  dsimp only
  by_cases h1 : v ≤ 0x7f
  · have h_byte : (UInt8.ofNat v).toNat = v := by rw [UInt8.toNat_ofNat']; omega
    rw [if_pos h1, List.singleton_append, piecesOnto, step, h_byte, lead, if_pos (by omega), h_char]
    simp
  rw [if_neg h1]
  by_cases h2 : v ≤ 0x7ff
  · rw [if_pos h2, List.cons_append, List.singleton_append,
      piecesOnto_lead _ _ (by omega) (lead_two (by omega) h2),
      piecesOnto_inside_last _ _ (by omega) (by omega),
      show v / 64 * 64 + v % 64 = v by omega, h_char]
  rw [if_neg h2]
  by_cases h3 : v ≤ 0xffff
  · obtain ⟨low, high, h_lead, hl, hh⟩ := lead_three (by omega) h3 (by omega)
    rw [if_pos h3, List.cons_append, List.cons_append, List.singleton_append,
      piecesOnto_lead _ _ (by omega) h_lead, piecesOnto_inside_more _ _ hl hh,
      piecesOnto_inside_last _ _ (by omega) (by omega),
      show (v / 4096 * 64 + v / 64 % 64) * 64 + v % 64 = v by omega, h_char]
  · obtain ⟨low, high, h_lead, hl, hh⟩ := lead_four (v := v) (by omega) (by omega)
    rw [if_neg h3, List.cons_append, List.cons_append, List.cons_append, List.singleton_append,
      piecesOnto_lead _ _ (by omega) h_lead, piecesOnto_inside_more _ _ hl hh,
      piecesOnto_inside_more _ _ (by omega) (by omega),
      piecesOnto_inside_last _ _ (by omega) (by omega),
      show ((v / 262144 * 64 + v / 4096 % 64) * 64 + v / 64 % 64) * 64 + v % 64 = v by omega,
      h_char]

theorem piecesOnto_encode (s : List Char) :
    piecesOnto out .start (encode s) = out.reverse ++ s.map some := by
  induction s generalizing out with
  | nil => simp [encode, piecesOnto]
  | cons c s ih =>
    have h_encode : encode (c :: s) = String.utf8EncodeChar c ++ encode s := rfl
    rw [h_encode, piecesOnto_utf8EncodeChar, ih]
    simp

/-- The pieces of an encoded text are its characters, none of them ill-formed. -/
theorem pieces_encode (s : List Char) : pieces (encode s) = s.map some := by
  rw [pieces, piecesOnto_encode, List.reverse_nil, List.nil_append]

theorem decodeLossy_encode (s : List Char) : decodeLossy (encode s) = s := by
  rw [decodeLossy, pieces_encode, List.map_map]
  exact List.map_id s

end PolicyTrial.Text.Utf8

namespace PolicyTrial

/-- **Nothing is lost twice.** Reading what was written gives the text back; so a text that was
decoded from ill-formed octets is decoded from its own octets again. -/
theorem lossyText_ofString (s : String) : (Bytes.ofString s).lossyText = s := by
  rw [Bytes.lossyText, Bytes.ofString, Text.Utf8.decodeLossy_encode, String.ofList_toList]

end PolicyTrial
