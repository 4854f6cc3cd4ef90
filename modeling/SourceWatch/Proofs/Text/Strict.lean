import SourceWatch.Proofs.Text.Utf8

/-!
# The strict reading of UTF-8

Only the bytes of a text are read strictly, and they are read as this text: each character has one encoding, since
overlong forms, surrogates and numbers above the last code point are no heads.

Main statements:

* `Utf8.encode_of_head`: the bytes of a head are those of its character;
* `Utf8.decode_eq_ok_iff`: what is read strictly.
-/

namespace SourceWatch.Text.Utf8

variable {b c d e : UInt8} {rest : List UInt8} {ch : Char} {extra v : ℕ}

/-! ### The bytes of a head -/

theorem toNat_charOfNat (h : v.isValidChar) : (Char.ofNat v).val.toNat = v := by
  rw [Char.ofNat, dif_pos h]
  rfl

theorem ofNat_eq (h : v = b.toNat) : UInt8.ofNat v = b := by
  rw [h]
  exact UInt8.ofNat_toNat

theorem payload_lt (b : UInt8) : payload b < 64 :=
  Nat.mod_lt _ (by decide)

/-- A byte that continues a sequence is told by what it carries. -/
theorem toNat_of_isContinuation (h : isContinuation b = true) : b.toNat = payload b + 0x80 := by
  rw [isContinuation_iff] at h
  rw [payload]
  omega

theorem encode_one (h : b.toNat < 0x80) : String.utf8EncodeChar (Char.ofNat b.toNat) = [b] := by
  have hv := toNat_charOfNat (v := b.toNat) (.inl (by omega))
  simp only [String.utf8EncodeChar, hv, if_pos (by omega : b.toNat ≤ 0x7f), UInt8.ofNat_toNat]

theorem encode_two (hb : 0xC2 ≤ b.toNat) (hb' : b.toNat < 0xE0) (hc : isContinuation c = true) :
    String.utf8EncodeChar (Char.ofNat (b.toNat % 32 * 64 + payload c)) = [b, c] := by
  have hpayload := payload_lt c
  have hcont := toNat_of_isContinuation hc
  generalize hv : b.toNat % 32 * 64 + payload c = v
  have hval := toNat_charOfNat (v := v) (.inl (by omega))
  have hfirst : UInt8.ofNat (v / 64 % 0x20 + 0xc0) = b := ofNat_eq (by omega)
  have hsecond : UInt8.ofNat (v % 0x40 + 0x80) = c := ofNat_eq (by omega)
  simp only [String.utf8EncodeChar, hval, if_neg (by omega : ¬ v ≤ 0x7f), if_pos (by omega : v ≤ 0x7ff), hfirst,
    hsecond]

/-- Which second bytes are left out depends on the first byte. -/
theorem notExcluded_iff (limit first last : UInt8) :
    (if c < limit then b == first else b == last) = false ↔
      ¬ (if c.toNat < limit.toNat then b.toNat = first.toNat else b.toNat = last.toNat) := by
  by_cases h : c < limit
  · rw [if_pos h, if_pos (UInt8.lt_iff_toNat_lt.mp h), beq_eq_false_iff_ne, ne_eq, UInt8.toNat_inj]
  · rw [if_neg h, if_neg (mt UInt8.lt_iff_toNat_lt.mpr h), beq_eq_false_iff_ne, ne_eq, UInt8.toNat_inj]

/-- Of the bytes that continue a sequence, those that make an overlong form or a surrogate are no second bytes. -/
theorem isSecondOfThree_iff : isSecondOfThree b c = true ↔
    isContinuation c = true ∧ ¬ (if c.toNat < 0xA0 then b.toNat = 0xE0 else b.toNat = 0xED) := by
  rw [isSecondOfThree, Bool.and_eq_true, Bool.not_eq_true', notExcluded_iff]
  rfl

/-- Nor are those that make an overlong form or go beyond the last code point. -/
theorem isSecondOfFour_iff : isSecondOfFour b c = true ↔
    isContinuation c = true ∧ ¬ (if c.toNat < 0x90 then b.toNat = 0xF0 else b.toNat = 0xF4) := by
  rw [isSecondOfFour, Bool.and_eq_true, Bool.not_eq_true', notExcluded_iff]
  rfl

theorem encode_three (hb : 0xE0 ≤ b.toNat) (hb' : b.toNat < 0xF0) (hc : isSecondOfThree b c = true)
    (hd : isContinuation d = true) :
    String.utf8EncodeChar (Char.ofNat (b.toNat % 16 * 4096 + payload c * 64 + payload d)) = [b, c, d] := by
  obtain ⟨hcont, hform⟩ := isSecondOfThree_iff.mp hc
  have hpayload := payload_lt c
  have hpayload' := payload_lt d
  have hc := toNat_of_isContinuation hcont
  have hd := toNat_of_isContinuation hd
  generalize hv : b.toNat % 16 * 4096 + payload c * 64 + payload d = v
  have hrange : 0x7ff < v ∧ v ≤ 0xffff ∧ (v < 0xD800 ∨ 0xDFFF < v) := by
    split at hform <;> omega
  have hval := toNat_charOfNat (v := v) (by unfold Nat.isValidChar; omega)
  have hfirst : UInt8.ofNat (v / 4096 % 0x10 + 0xe0) = b := ofNat_eq (by omega)
  have hsecond : UInt8.ofNat (v / 64 % 0x40 + 0x80) = c := ofNat_eq (by omega)
  have hthird : UInt8.ofNat (v % 0x40 + 0x80) = d := ofNat_eq (by omega)
  simp only [String.utf8EncodeChar, hval, if_neg (by omega : ¬ v ≤ 0x7f), if_neg (by omega : ¬ v ≤ 0x7ff),
    if_pos (by omega : v ≤ 0xffff), hfirst, hsecond, hthird]

theorem encode_four (hb : 0xF0 ≤ b.toNat) (hb' : b.toNat < 0xF5) (hc : isSecondOfFour b c = true)
    (hd : isContinuation d = true) (he : isContinuation e = true) :
    String.utf8EncodeChar
        (Char.ofNat (b.toNat % 8 * 262144 + payload c * 4096 + payload d * 64 + payload e)) = [b, c, d, e] := by
  obtain ⟨hcont, hform⟩ := isSecondOfFour_iff.mp hc
  have hpayload := payload_lt c
  have hpayload' := payload_lt d
  have hpayload'' := payload_lt e
  have hc := toNat_of_isContinuation hcont
  have hd := toNat_of_isContinuation hd
  have he := toNat_of_isContinuation he
  generalize hv : b.toNat % 8 * 262144 + payload c * 4096 + payload d * 64 + payload e = v
  have hrange : 0xffff < v ∧ v < 0x110000 := by
    split at hform <;> omega
  have hval := toNat_charOfNat (v := v) (by unfold Nat.isValidChar; omega)
  have hfirst : UInt8.ofNat (v / 262144 % 0x08 + 0xf0) = b := ofNat_eq (by omega)
  have hsecond : UInt8.ofNat (v / 4096 % 0x40 + 0x80) = c := ofNat_eq (by omega)
  have hthird : UInt8.ofNat (v / 64 % 0x40 + 0x80) = d := ofNat_eq (by omega)
  have hfourth : UInt8.ofNat (v % 0x40 + 0x80) = e := ofNat_eq (by omega)
  simp only [String.utf8EncodeChar, hval, if_neg (by omega : ¬ v ≤ 0x7f), if_neg (by omega : ¬ v ≤ 0x7ff),
    if_neg (by omega : ¬ v ≤ 0xffff), hfirst, hsecond, hthird, hfourth]

theorem encode_of_headTwo (hb : 0xC2 ≤ b.toNat) (hb' : b.toNat < 0xE0) (h : headTwo b rest = .scalar ch extra) :
    String.utf8EncodeChar ch = b :: rest.take extra := by
  unfold headTwo at h
  split at h
  · cases h
  · split at h
    · next hc =>
      cases h
      exact encode_two hb hb' hc
    · cases h

theorem encode_of_headThree (hb : 0xE0 ≤ b.toNat) (hb' : b.toNat < 0xF0)
    (h : headThree b rest = .scalar ch extra) : String.utf8EncodeChar ch = b :: rest.take extra := by
  unfold headThree at h
  split at h
  · cases h
  · split at h
    · cases h
    · next hc =>
      split at h
      · cases h
      · split at h
        · next hd =>
          cases h
          exact encode_three hb hb' (by simpa using hc) hd
        · cases h

theorem encode_of_headFour (hb : 0xF0 ≤ b.toNat) (hb' : b.toNat < 0xF5)
    (h : headFour b rest = .scalar ch extra) : String.utf8EncodeChar ch = b :: rest.take extra := by
  unfold headFour at h
  split at h
  · cases h
  · split at h
    · cases h
    · next hc =>
      split at h
      · cases h
      · split at h
        · cases h
        · next hd =>
          split at h
          · cases h
          · split at h
            · next he =>
              cases h
              exact encode_four hb hb' (by simpa using hc) (by simpa using hd) he
            · cases h

/-- **The bytes of a head are those of its character.** -/
theorem encode_of_head (h : head b rest = .scalar ch extra) :
    String.utf8EncodeChar ch = b :: rest.take extra := by
  rw [head_eq] at h
  split at h
  · next hb =>
    cases h
    exact encode_one hb
  split at h
  · cases h
  split at h
  · exact encode_of_headTwo (by omega) (by omega) h
  split at h
  · exact encode_of_headThree (by omega) (by omega) h
  split at h
  · exact encode_of_headFour (by omega) (by omega) h
  · cases h

/-! ### Texts -/

/-- An encoded text is read strictly as it was written. -/
theorem decodeOnto_encode (position : ℕ) (cs done : List Char) :
    decodeOnto position (encode cs) done = .ok (done.reverse ++ cs) := by
  induction cs generalizing position done with
  | nil => simp [encode, decodeOnto]
  | cons ch cs ih =>
    obtain ⟨b, more, hencode, -, hhead⟩ := head_utf8EncodeChar ch (encode cs)
    have hbytes : encode (ch :: cs) = b :: (more ++ encode cs) := by
      rw [encode, List.flatMap_cons, hencode]
      rfl
    rw [hbytes, decodeOnto, hhead]
    show decodeOnto _ ((more ++ encode cs).drop more.length) (ch :: done) = _
    rw [List.drop_left, ih]
    simp

/-- What is read strictly is the encoding of what it is read as. -/
theorem encode_of_decodeOnto {position : ℕ} {bytes : List UInt8} {done cs : List Char}
    (h : decodeOnto position bytes done = .ok cs) : ∃ read, cs = done.reverse ++ read ∧ bytes = encode read := by
  induction position, bytes, done using decodeOnto.induct with
  | case1 position done =>
    rw [decodeOnto] at h
    cases h
    exact ⟨[], (List.append_nil _).symm, rfl⟩
  | case2 position b rest done ch extra hhead ih =>
    rw [decodeOnto, hhead] at h
    obtain ⟨read, rfl, hbytes⟩ := ih h
    refine ⟨ch :: read, by simp, ?_⟩
    rw [encode, List.flatMap_cons, encode_of_head hhead, ← encode, ← hbytes, List.cons_append, List.take_append_drop]
  | case3 position b rest done hhead =>
    rw [decodeOnto, hhead] at h
    cases h
  | case4 position b rest done extra hhead =>
    rw [decodeOnto, hhead] at h
    cases h
  | case5 position b rest done hhead =>
    rw [decodeOnto, hhead] at h
    cases h

/-- **What is read strictly** is the encoding of a text, and read as this text. -/
theorem decode_eq_ok_iff {bytes : List UInt8} {cs : List Char} : decode bytes = .ok cs ↔ bytes = encode cs := by
  constructor
  · intro h
    obtain ⟨read, hread, hbytes⟩ := encode_of_decodeOnto h
    rw [hread]
    exact hbytes
  · rintro rfl
    exact decodeOnto_encode 0 cs []

/-- No two texts are encoded alike. -/
theorem encode_injective : Function.Injective encode := by
  intro cs cs' h
  have hread := decode_eq_ok_iff.mpr h
  rw [decode_eq_ok_iff.mpr rfl] at hread
  cases hread
  rfl

/-- What is not read strictly encodes no text. -/
theorem decode_eq_error_iff {bytes : List UInt8} :
    (∃ malformed, decode bytes = .error malformed) ↔ ∀ cs, bytes ≠ encode cs := by
  cases h : decode bytes with
  | ok cs => exact iff_of_false nofun fun hnone => hnone cs (decode_eq_ok_iff.mp h)
  | error malformed =>
    refine iff_of_true ⟨malformed, rfl⟩ fun cs hcs => ?_
    rw [decode_eq_ok_iff.mpr hcs] at h
    cases h

end SourceWatch.Text.Utf8
