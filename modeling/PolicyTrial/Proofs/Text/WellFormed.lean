import PolicyTrial.Proofs.Text.LossyText

/-!
# Octets that are a text

The decoder of whole texts takes the octets of a text and nothing else (`decode?_eq_some_iff`). For
the octets of a text this is what decoding them gives; the other direction follows the decoder. As
long as no piece is ill-formed, a lead octet is followed by as many octets as it asks for
(`exists_of_inside_more`, `exists_of_inside_last`), and together they are the octets of the one
character with these bits (`utf8EncodeChar_two`, `utf8EncodeChar_three`, `utf8EncodeChar_four`).
-/

namespace PolicyTrial.Text.Utf8

/-! ### Pieces -/

theorem piecesOnto_step (out : List (Option Char)) (st : State) (b : UInt8) (rest : List UInt8) :
    piecesOnto out st (b :: rest) =
      piecesOnto ((step st b).1.reverse ++ out) (step st b).2 rest := by
  cases st with
  | start | inside => rfl

/-- What was found before stands in front of what is found. -/
theorem piecesOnto_eq_append (out : List (Option Char)) (st : State) (bs : List UInt8) :
    piecesOnto out st bs = out.reverse ++ piecesOnto [] st bs := by
  induction bs generalizing out st with
  | nil =>
    cases st with
    | start => exact (List.append_nil _).symm
    | inside => exact List.reverse_cons
  | cons b rest ih =>
    rw [piecesOnto_step, ih, piecesOnto_step [], ih ((step st b).1.reverse ++ []),
      List.reverse_append, List.append_nil, List.append_assoc]

theorem piecesOnto_cons (st : State) (b : UInt8) (rest : List UInt8) :
    piecesOnto [] st (b :: rest) = (step st b).1 ++ piecesOnto [] (step st b).2 rest := by
  rw [piecesOnto_step, piecesOnto_eq_append, List.append_nil, List.reverse_reverse]

/-- Octets are decoded to a text if all of their pieces are characters. -/
theorem decode?_eq_some_iff_pieces {bs : List UInt8} {s : List Char} :
    decode? bs = some s ↔ pieces bs = s.map some := by
  unfold decode?
  dsimp only
  generalize pieces bs = ps
  constructor
  · intro h
    split at h
    · next h_all =>
      cases h
      induction ps with
      | nil => rfl
      | cons p ps ih =>
        rw [List.all_cons, Bool.and_eq_true] at h_all
        obtain ⟨c, rfl⟩ := Option.isSome_iff_exists.mp h_all.1
        exact congrArg (some c :: ·) (ih h_all.2)
    · cases h
  · intro h
    have h_all : (s.map some).all (·.isSome) = true := by simp
    rw [h, if_pos h_all, List.filterMap_map]
    exact congrArg some List.filterMap_some

/-! ### Octets behind a lead -/

variable {more value low high : Nat} {bs : List UInt8} {s : List Char}

theorem exists_of_inside_more
    (h : piecesOnto [] (.inside (more + 1) value low high) bs = s.map some) :
    ∃ b rest, bs = b :: rest ∧ low ≤ b.toNat ∧ b.toNat ≤ high ∧
      piecesOnto [] (.inside more (value * 64 + (b.toNat - 0x80)) 0x80 0xBF) rest = s.map some := by
  cases bs with
  | nil => cases s <;> cases h
  | cons b rest =>
    rw [piecesOnto_cons, step] at h
    split at h
    · next h_bounds => exact ⟨b, rest, rfl, h_bounds.1, h_bounds.2, h⟩
    · cases s <;> cases h

theorem exists_of_inside_last (h : piecesOnto [] (.inside 0 value low high) bs = s.map some) :
    ∃ b rest s', bs = b :: rest ∧ low ≤ b.toNat ∧ b.toNat ≤ high ∧
      s = Char.ofNat (value * 64 + (b.toNat - 0x80)) :: s' ∧ pieces rest = s'.map some := by
  cases bs with
  | nil => cases s <;> cases h
  | cons b rest =>
    rw [piecesOnto_cons, step] at h
    split at h
    · next h_bounds =>
      cases s with
      | nil => cases h
      | cons c s' =>
        obtain ⟨h_char, h_rest⟩ := List.cons.inj h
        obtain rfl := Option.some.inj h_char
        exact ⟨b, rest, s', rfl, h_bounds.1, h_bounds.2, rfl, h_rest⟩
    · cases s <;> cases h

/-! ### The characters of some octets -/

theorem toNat_ofNat_char {v : Nat} (h : v < 0xd800 ∨ 0xdfff < v ∧ v < 0x110000) :
    (Char.ofNat v).val.toNat = v := by
  have h_valid : v.isValidChar := h
  rw [Char.ofNat, dif_pos h_valid]
  rfl

theorem ofNat_eq {n : Nat} {b : UInt8} (h : n = b.toNat) : UInt8.ofNat n = b := by
  rw [h, UInt8.ofNat_toNat]

theorem utf8EncodeChar_one {b : UInt8} (h : b.toNat < 0x80) :
    String.utf8EncodeChar (Char.ofNat b.toNat) = [b] := by
  unfold String.utf8EncodeChar
  rw [toNat_ofNat_char (by omega)]
  rw [if_pos (by omega), ofNat_eq rfl]

/-- An octet behind a lead has six bits of its own. -/
def IsTrail (b : UInt8) : Prop := 0x80 ≤ b.toNat ∧ b.toNat ≤ 0xBF

theorem utf8EncodeChar_two {a b : UInt8} {v : Nat} (ha : 0xC2 ≤ a.toNat ∧ a.toNat < 0xE0)
    (hb : IsTrail b) (hv : v = (a.toNat - 0xC0) * 64 + (b.toNat - 0x80)) :
    String.utf8EncodeChar (Char.ofNat v) = [a, b] := by
  unfold IsTrail at hb
  unfold String.utf8EncodeChar
  rw [toNat_ofNat_char (by omega)]
  rw [if_neg (by omega), if_pos (by omega), ofNat_eq (b := a) (by omega),
    ofNat_eq (b := b) (by omega)]

theorem utf8EncodeChar_three {a b c : UInt8} {v : Nat} (ha : 0xE0 ≤ a.toNat ∧ a.toNat < 0xF0)
    (hb : IsTrail b) (hc : IsTrail c)
    (hv : v = ((a.toNat - 0xE0) * 64 + (b.toNat - 0x80)) * 64 + (c.toNat - 0x80))
    (h_long : 0x7ff < v) (h_valid : v < 0xd800 ∨ 0xdfff < v) :
    String.utf8EncodeChar (Char.ofNat v) = [a, b, c] := by
  unfold IsTrail at hb hc
  unfold String.utf8EncodeChar
  rw [toNat_ofNat_char (by omega)]
  rw [if_neg (by omega), if_neg (by omega), if_pos (by omega), ofNat_eq (b := a) (by omega),
    ofNat_eq (b := b) (by omega), ofNat_eq (b := c) (by omega)]

theorem utf8EncodeChar_four {a b c d : UInt8} {v : Nat} (ha : 0xF0 ≤ a.toNat ∧ a.toNat < 0xF8)
    (hb : IsTrail b) (hc : IsTrail c) (hd : IsTrail d)
    (hv : v = (((a.toNat - 0xF0) * 64 + (b.toNat - 0x80)) * 64 + (c.toNat - 0x80)) * 64 +
      (d.toNat - 0x80))
    (h_long : 0xffff < v) (h_valid : v < 0x110000) :
    String.utf8EncodeChar (Char.ofNat v) = [a, b, c, d] := by
  unfold IsTrail at hb hc hd
  unfold String.utf8EncodeChar
  rw [toNat_ofNat_char (by omega)]
  rw [if_neg (by omega), if_neg (by omega), if_neg (by omega), ofNat_eq (b := a) (by omega),
    ofNat_eq (b := b) (by omega), ofNat_eq (b := c) (by omega), ofNat_eq (b := d) (by omega)]

/-! ### Whole texts -/

/-- What a lead octet starts, with the bounds that keep out what is overlong, a surrogate or past
the last character. -/
inductive Leads (a : Nat) : List (Option Char) → State → Prop
  | one (h : a < 0x80) : Leads a [some (Char.ofNat a)] .start
  | nothing : Leads a [none] .start
  | two (h : 0xC2 ≤ a ∧ a < 0xE0) : Leads a [] (.inside 0 (a - 0xC0) 0x80 0xBF)
  | three {low high : Nat} (h : 0xE0 ≤ a ∧ a < 0xF0) (h_trail : 0x80 ≤ low ∧ high ≤ 0xBF)
      (h_long : a = 0xE0 → 0xA0 ≤ low) (h_valid : a = 0xED → high ≤ 0x9F) :
    Leads a [] (.inside 1 (a - 0xE0) low high)
  | four {low high : Nat} (h : 0xF0 ≤ a ∧ a < 0xF5) (h_trail : 0x80 ≤ low ∧ high ≤ 0xBF)
      (h_long : a = 0xF0 → 0x90 ≤ low) (h_valid : a = 0xF4 → high ≤ 0x8F) :
    Leads a [] (.inside 2 (a - 0xF0) low high)

theorem leads_lead (a : Nat) : Leads a (lead a).1 (lead a).2 := by
  unfold lead
  split
  · exact .one ‹_›
  split
  · exact .nothing
  split
  · exact .two (by omega)
  split
  · next h => subst h; exact .three (by omega) (by omega) (by omega) (by omega)
  split
  · next h => subst h; exact .three (by omega) (by omega) (by omega) (by omega)
  split
  · exact .three (by omega) (by omega) (by omega) (by omega)
  split
  · next h => subst h; exact .four (by omega) (by omega) (by omega) (by omega)
  split
  · exact .four (by omega) (by omega) (by omega) (by omega)
  split
  · next h => subst h; exact .four (by omega) (by omega) (by omega) (by omega)
  · exact .nothing

/-- If no piece is ill-formed, the octets start with those of the first character. -/
theorem exists_of_pieces_cons {a : UInt8} {rest : List UInt8}
    (h : pieces (a :: rest) = s.map some) :
    ∃ c s' rest', s = c :: s' ∧ a :: rest = String.utf8EncodeChar c ++ rest' ∧
      pieces rest' = s'.map some := by
  rw [pieces, piecesOnto_cons, step] at h
  -- the lead octet says how many octets the first character has
  have h_lead := leads_lead a.toNat
  generalize (lead a.toNat).1 = out, (lead a.toNat).2 = st at h h_lead
  cases h_lead with
  | one h_ascii =>
    cases s with
    | nil => cases h
    | cons c s' =>
      obtain ⟨h_char, h_rest⟩ := List.cons.inj h
      cases h_char
      exact ⟨_, s', rest, rfl, by rw [utf8EncodeChar_one h_ascii]; rfl, h_rest⟩
  | nothing => cases s <;> cases h
  | two h_range =>
    obtain ⟨b, rest, s', rfl, h_low, h_high, rfl, h_rest⟩ := exists_of_inside_last h
    refine ⟨_, s', rest, rfl, ?_, h_rest⟩
    rw [utf8EncodeChar_two h_range ⟨h_low, h_high⟩ rfl]
    rfl
  | three h_range h_trail h_long h_valid =>
    obtain ⟨b, rest, rfl, hb, hb', h⟩ := exists_of_inside_more h
    obtain ⟨c, rest, s', rfl, hc, hc', rfl, h_rest⟩ := exists_of_inside_last h
    refine ⟨_, s', rest, rfl, ?_, h_rest⟩
    -- the bounds of the second octet make the value one of three octets, and no surrogate
    rw [utf8EncodeChar_three h_range ⟨by omega, by omega⟩ ⟨hc, hc'⟩ rfl (by omega) (by omega)]
    rfl
  | four h_range h_trail h_long h_valid =>
    obtain ⟨b, rest, rfl, hb, hb', h⟩ := exists_of_inside_more h
    obtain ⟨c, rest, rfl, hc, hc', h⟩ := exists_of_inside_more h
    obtain ⟨d, rest, s', rfl, hd, hd', rfl, h_rest⟩ := exists_of_inside_last h
    refine ⟨_, s', rest, rfl, ?_, h_rest⟩
    rw [utf8EncodeChar_four ⟨h_range.1, by omega⟩ ⟨by omega, by omega⟩ ⟨hc, hc'⟩ ⟨hd, hd'⟩ rfl
      (by omega) (by omega)]
    rfl

/-- Octets whose pieces are all characters are the octets of these characters. By induction on the
characters, each of which takes its octets from the start. -/
theorem eq_encode_of_pieces (h : pieces bs = s.map some) : bs = encode s := by
  induction s generalizing bs with
  | nil =>
    cases bs with
    | nil => rfl
    | cons a rest =>
      obtain ⟨_, _, _, h_eq, -⟩ := exists_of_pieces_cons h
      cases h_eq
  | cons c s ih =>
    cases bs with
    | nil => cases h
    | cons a rest =>
      obtain ⟨c', s', rest', h_eq, h_octets, h_rest⟩ := exists_of_pieces_cons h
      cases h_eq
      rw [h_octets, ih h_rest]
      rfl

/-- **A text is decoded from its octets, and from no others.** -/
theorem decode?_eq_some_iff : decode? bs = some s ↔ bs = encode s := by
  rw [decode?_eq_some_iff_pieces]
  constructor
  · exact eq_encode_of_pieces
  · rintro rfl
    exact pieces_encode s

end PolicyTrial.Text.Utf8
