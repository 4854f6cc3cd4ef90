import SourceWatch.Text.Utf8
import Mathlib.Data.Nat.Notation

/-!
# The lenient reading of UTF-8

Whatever stands before an encoded text, however malformed, the lenient reading recovers at the first byte
of the text: an encoded character never starts with a byte that continues a sequence.

Main definition: `Utf8.startsFresh`, no sequence goes on into a list of bytes.

Main statements:

* `Utf8.decodeLenient_append`: the lenient reading of bytes that are followed by a fresh start;
* `Utf8.decodeLenient_encode_append`: an encoded text is read back as it was written;
* `Utf8.decodeLenient_resync`: the same in the midst of arbitrary bytes.
-/

namespace SourceWatch.Text.Utf8

variable {b c : UInt8} {xs z : List UInt8}

/-! ### Bytes -/

theorem isContinuation_iff : isContinuation b = true ↔ 0x80 ≤ b.toNat ∧ b.toNat < 0xC0 := by
  rw [isContinuation, Bool.and_eq_true, decide_eq_true_eq, decide_eq_true_eq, UInt8.le_iff_toNat_le,
    UInt8.lt_iff_toNat_lt]
  rfl

/-- No sequence goes on into these bytes. -/
def startsFresh : List UInt8 → Bool
  | [] => true
  | b :: _ => !isContinuation b

theorem isSecondOfThree_of_not_isContinuation (h : isContinuation c = false) :
    isSecondOfThree b c = false := by
  rw [isSecondOfThree, h, Bool.false_and]

theorem isSecondOfFour_of_not_isContinuation (h : isContinuation c = false) :
    isSecondOfFour b c = false := by
  rw [isSecondOfFour, h, Bool.false_and]

/-! ### The head of an input -/

/-- The character of a head and the number of bytes behind the first one that encode it, if the head has
one. -/
def Head.char? : Head → Option (Char × ℕ)
  | .scalar c extra => some (c, extra)
  | _ => none

theorem headTwo_append (hz : startsFresh z = true) :
    (headTwo b (xs ++ z)).char? = (headTwo b xs).char? := by
  cases xs with
  | cons c xs => rfl
  | nil =>
    cases z with
    | nil => rfl
    | cons c z =>
      have hc : isContinuation c = false := by simpa [startsFresh] using hz
      simp only [List.nil_append, headTwo, hc]
      rfl

theorem headThree_append (hz : startsFresh z = true) :
    (headThree b (xs ++ z)).char? = (headThree b xs).char? := by
  cases z with
  | nil => rw [List.append_nil]
  | cons e z =>
    have he : isContinuation e = false := by simpa [startsFresh] using hz
    match xs with
    | [] =>
      simp only [List.nil_append, headThree, isSecondOfThree_of_not_isContinuation he]
      rfl
    | [c] =>
      simp only [List.cons_append, List.nil_append, headThree, he]
      split <;> rfl
    | c :: d :: xs => rfl

theorem headFour_append (hz : startsFresh z = true) :
    (headFour b (xs ++ z)).char? = (headFour b xs).char? := by
  cases z with
  | nil => rw [List.append_nil]
  | cons e z =>
    have he : isContinuation e = false := by simpa [startsFresh] using hz
    match xs with
    | [] =>
      simp only [List.nil_append, headFour, isSecondOfFour_of_not_isContinuation he]
      rfl
    | [c] =>
      simp only [List.cons_append, List.nil_append, headFour, he]
      split <;> rfl
    | [c, d] =>
      simp only [List.cons_append, List.nil_append, headFour, he]
      split
      · rfl
      · split <;> rfl
    | c :: d :: f :: xs => rfl

/-- A fresh start behind an input does not change the character that the input begins with. -/
theorem head_append (hz : startsFresh z = true) :
    (head b (xs ++ z)).char? = (head b xs).char? := by
  unfold head
  split
  · rfl
  split
  · rfl
  split
  · exact headTwo_append hz
  split
  · exact headThree_append hz
  split
  · exact headFour_append hz
  · rfl

theorem le_length_of_headTwo {ch : Char} {n : ℕ} (h : (headTwo b xs).char? = some (ch, n)) :
    n ≤ xs.length := by
  cases xs with
  | nil => cases h
  | cons c xs =>
    simp only [headTwo] at h
    split at h
    · cases h
      exact Nat.le_add_left 1 xs.length
    · cases h

theorem le_length_of_headThree {ch : Char} {n : ℕ} (h : (headThree b xs).char? = some (ch, n)) :
    n ≤ xs.length := by
  match xs with
  | [] => cases h
  | [c] =>
    simp only [headThree] at h
    split at h <;> cases h
  | c :: d :: xs =>
    simp only [headThree] at h
    split at h
    · cases h
    · split at h
      · cases h
        exact Nat.le_add_left 2 xs.length
      · cases h

theorem le_length_of_headFour {ch : Char} {n : ℕ} (h : (headFour b xs).char? = some (ch, n)) :
    n ≤ xs.length := by
  match xs with
  | [] => cases h
  | [c] =>
    simp only [headFour] at h
    split at h <;> cases h
  | [c, d] =>
    simp only [headFour] at h
    split at h
    · cases h
    · split at h <;> cases h
  | c :: d :: e :: xs =>
    simp only [headFour] at h
    split at h
    · cases h
    · split at h
      · cases h
      · split at h
        · cases h
          exact Nat.le_add_left 3 xs.length
        · cases h

/-- The bytes that encode a character are there. -/
theorem le_length_of_head {ch : Char} {n : ℕ} (h : (head b xs).char? = some (ch, n)) :
    n ≤ xs.length := by
  unfold head at h
  split at h
  · cases h
    exact Nat.zero_le _
  split at h
  · cases h
  split at h
  · exact le_length_of_headTwo h
  split at h
  · exact le_length_of_headThree h
  split at h
  · exact le_length_of_headFour h
  · cases h

/-! ### The reading without the accumulator -/

theorem decodeLenientOnto_cons (b : UInt8) (rest : List UInt8) (done : List Char) :
    decodeLenientOnto (b :: rest) done =
      match (head b rest).char? with
      | some (ch, extra) => decodeLenientOnto (rest.drop extra) (ch :: done)
      | none => decodeLenientOnto rest done := by
  rw [decodeLenientOnto]
  cases head b rest <;> rfl

theorem decodeLenientOnto_eq (bytes : List UInt8) (done : List Char) :
    decodeLenientOnto bytes done = done.reverse ++ decodeLenient bytes := by
  induction hn : bytes.length using Nat.strongRecOn generalizing bytes done with
  | _ n ih =>
    cases bytes with
    | nil => simp [decodeLenient, decodeLenientOnto]
    | cons b rest =>
      rw [List.length_cons] at hn
      rw [decodeLenient, decodeLenientOnto_cons, decodeLenientOnto_cons]
      cases (head b rest).char? with
      | none => exact ih rest.length (by omega) rest done rfl
      | some found =>
        have hdrop : (rest.drop found.2).length < n := by
          rw [List.length_drop]
          omega
        show decodeLenientOnto (rest.drop found.2) (found.1 :: done) =
          done.reverse ++ decodeLenientOnto (rest.drop found.2) [found.1]
        rw [ih _ hdrop _ (found.1 :: done) rfl, ih _ hdrop _ [found.1] rfl]
        simp

theorem decodeLenient_nil : decodeLenient [] = [] := by
  rw [decodeLenient, decodeLenientOnto, List.reverse_nil]

theorem decodeLenient_cons (b : UInt8) (rest : List UInt8) :
    decodeLenient (b :: rest) =
      match (head b rest).char? with
      | some (ch, extra) => ch :: decodeLenient (rest.drop extra)
      | none => decodeLenient rest := by
  rw [decodeLenient, decodeLenientOnto_cons]
  cases (head b rest).char? with
  | none => rfl
  | some found => exact decodeLenientOnto_eq _ _

/-- **The reading recovers.**  Bytes that are followed by a fresh start are read as if nothing
followed. -/
theorem decodeLenient_append (hz : startsFresh z = true) (xs : List UInt8) :
    decodeLenient (xs ++ z) = decodeLenient xs ++ decodeLenient z := by
  induction hn : xs.length using Nat.strongRecOn generalizing xs with
  | _ n ih =>
    cases xs with
    | nil => rw [List.nil_append, decodeLenient_nil, List.nil_append]
    | cons b xs =>
      rw [List.length_cons] at hn
      rw [List.cons_append, decodeLenient_cons, decodeLenient_cons, head_append hz]
      cases hhead : (head b xs).char? with
      | none => exact ih xs.length (by omega) xs rfl
      | some found =>
        have hle := le_length_of_head hhead
        have hdrop : (xs.drop found.2).length < n := by
          rw [List.length_drop]
          omega
        show found.1 :: decodeLenient ((xs ++ z).drop found.2) =
          found.1 :: decodeLenient (xs.drop found.2) ++ decodeLenient z
        rw [List.drop_append_of_le_length hle, ih _ hdrop _ rfl, List.cons_append]

/-! ### Encoded characters -/

theorem toNat_ofNat {n : ℕ} (h : n < 256) : (UInt8.ofNat n).toNat = n :=
  UInt8.toNat_ofNat_of_lt' h

/-- The cases of the head by the number that the first byte is. -/
theorem head_eq (b : UInt8) (rest : List UInt8) :
    head b rest =
      if b.toNat < 0x80 then .scalar (Char.ofNat b.toNat) 0
      else if b.toNat < 0xC2 then .invalidStart
      else if b.toNat < 0xE0 then headTwo b rest
      else if b.toNat < 0xF0 then headThree b rest
      else if b.toNat < 0xF5 then headFour b rest
      else .invalidStart := by
  simp only [head, UInt8.lt_iff_toNat_lt]
  rfl

/-- The byte that carries the last six bits of `n` continues a sequence. -/
theorem continuation_ofNat (n : ℕ) :
    isContinuation (UInt8.ofNat (n % 0x40 + 0x80)) = true ∧
      payload (UInt8.ofNat (n % 0x40 + 0x80)) = n % 0x40 ∧
      (UInt8.ofNat (n % 0x40 + 0x80)).toNat = n % 0x40 + 0x80 := by
  have hn := toNat_ofNat (n := n % 0x40 + 0x80) (by omega)
  rw [isContinuation_iff, payload, hn]
  omega

variable {v : ℕ}

theorem head_encoded_one (h : v ≤ 0x7f) (rest : List UInt8) :
    head (UInt8.ofNat v) rest = .scalar (Char.ofNat v) 0 := by
  have hb := toNat_ofNat (n := v) (by omega)
  rw [head_eq, hb, if_pos (by omega)]

theorem head_encoded_two (h : 0x7f < v) (h' : v ≤ 0x7ff) (rest : List UInt8) :
    head (UInt8.ofNat (v / 64 % 0x20 + 0xc0)) (UInt8.ofNat (v % 0x40 + 0x80) :: rest) =
      .scalar (Char.ofNat v) 1 := by
  have hb := toNat_ofNat (n := v / 64 % 0x20 + 0xc0) (by omega)
  obtain ⟨hc, hpayload, -⟩ := continuation_ofNat v
  have hsum : (v / 64 % 0x20 + 0xc0) % 32 * 64 + v % 0x40 = v := by omega
  rw [head_eq, hb, if_neg (by omega), if_neg (by omega), if_pos (by omega), headTwo, if_pos hc,
    hb, hpayload, hsum]

theorem head_encoded_three (h : 0x7ff < v) (h' : v ≤ 0xffff) (hs : v < 0xD800 ∨ 0xDFFF < v)
    (rest : List UInt8) :
    head (UInt8.ofNat (v / 4096 % 0x10 + 0xe0))
        (UInt8.ofNat (v / 64 % 0x40 + 0x80) :: UInt8.ofNat (v % 0x40 + 0x80) :: rest) =
      .scalar (Char.ofNat v) 2 := by
  have hb := toNat_ofNat (n := v / 4096 % 0x10 + 0xe0) (by omega)
  obtain ⟨hc, hpayload, hn⟩ := continuation_ofNat (v / 64)
  obtain ⟨hd, hpayload', -⟩ := continuation_ofNat v
  have hsum : (v / 4096 % 0x10 + 0xe0) % 16 * 4096 + v / 64 % 0x40 * 64 + v % 0x40 = v := by omega
  -- no overlong form and no surrogate
  have hsecond : isSecondOfThree (UInt8.ofNat (v / 4096 % 0x10 + 0xe0))
      (UInt8.ofNat (v / 64 % 0x40 + 0x80)) = true := by
    rw [isSecondOfThree, hc, Bool.true_and, Bool.not_eq_true']
    simp only [UInt8.lt_iff_toNat_lt, hn]
    split
    · rw [beq_eq_false_iff_ne, ne_eq, ← UInt8.toNat_inj, hb]
      rename_i hlt
      change v / 64 % 0x40 + 0x80 < 0xA0 at hlt
      show ¬ v / 4096 % 0x10 + 0xe0 = 0xE0
      omega
    · rw [beq_eq_false_iff_ne, ne_eq, ← UInt8.toNat_inj, hb]
      rename_i hlt
      change ¬ v / 64 % 0x40 + 0x80 < 0xA0 at hlt
      show ¬ v / 4096 % 0x10 + 0xe0 = 0xED
      omega
  rw [head_eq, hb, if_neg (by omega), if_neg (by omega), if_neg (by omega), if_pos (by omega),
    headThree, hsecond]
  simp only [Bool.not_true, Bool.false_eq_true, if_false, if_pos hd, hb, hpayload, hpayload', hsum]

theorem head_encoded_four (h : 0xffff < v) (h' : v < 0x110000) (rest : List UInt8) :
    head (UInt8.ofNat (v / 262144 % 0x08 + 0xf0))
        (UInt8.ofNat (v / 4096 % 0x40 + 0x80) :: UInt8.ofNat (v / 64 % 0x40 + 0x80) ::
          UInt8.ofNat (v % 0x40 + 0x80) :: rest) =
      .scalar (Char.ofNat v) 3 := by
  have hb := toNat_ofNat (n := v / 262144 % 0x08 + 0xf0) (by omega)
  obtain ⟨hc, hpayload, hn⟩ := continuation_ofNat (v / 4096)
  obtain ⟨hd, hpayload', -⟩ := continuation_ofNat (v / 64)
  obtain ⟨he, hpayload'', -⟩ := continuation_ofNat v
  have hsum : (v / 262144 % 0x08 + 0xf0) % 8 * 262144 + v / 4096 % 0x40 * 4096 +
      v / 64 % 0x40 * 64 + v % 0x40 = v := by omega
  -- no overlong form and nothing above the last code point
  have hsecond : isSecondOfFour (UInt8.ofNat (v / 262144 % 0x08 + 0xf0))
      (UInt8.ofNat (v / 4096 % 0x40 + 0x80)) = true := by
    rw [isSecondOfFour, hc, Bool.true_and, Bool.not_eq_true']
    simp only [UInt8.lt_iff_toNat_lt, hn]
    split
    · rw [beq_eq_false_iff_ne, ne_eq, ← UInt8.toNat_inj, hb]
      rename_i hlt
      change v / 4096 % 0x40 + 0x80 < 0x90 at hlt
      show ¬ v / 262144 % 0x08 + 0xf0 = 0xF0
      omega
    · rw [beq_eq_false_iff_ne, ne_eq, ← UInt8.toNat_inj, hb]
      rename_i hlt
      change ¬ v / 4096 % 0x40 + 0x80 < 0x90 at hlt
      show ¬ v / 262144 % 0x08 + 0xf0 = 0xF4
      omega
  rw [head_eq, hb, if_neg (by omega), if_neg (by omega), if_neg (by omega), if_neg (by omega),
    if_pos (by omega), headFour, hsecond]
  simp only [Bool.not_true, Bool.false_eq_true, if_false, hd, if_pos he, hb, hpayload, hpayload',
    hpayload'', hsum]

/-- An encoded character is the head of what it begins, and starts afresh. -/
theorem head_utf8EncodeChar (ch : Char) (rest : List UInt8) :
    ∃ b more, String.utf8EncodeChar ch = b :: more ∧ isContinuation b = false ∧
      head b (more ++ rest) = .scalar ch more.length := by
  have hch : ∀ extra, Head.scalar (Char.ofNat ch.val.toNat) extra = .scalar ch extra := by
    intro extra
    rw [show Char.ofNat ch.val.toNat = ch from Char.ofNat_toNat ch]
  have hvalid : ch.val.toNat < 0xD800 ∨ 0xDFFF < ch.val.toNat ∧ ch.val.toNat < 0x110000 := ch.valid
  have hfresh : ∀ {n : ℕ}, n < 256 → (n < 0x80 ∨ 0xC0 ≤ n) →
      isContinuation (UInt8.ofNat n) = false := by
    intro n hn h
    rw [Bool.eq_false_iff, ne_eq, isContinuation_iff, toNat_ofNat hn]
    omega
  unfold String.utf8EncodeChar
  by_cases h1 : ch.val.toNat ≤ 0x7f
  · refine ⟨_, _, if_pos h1, hfresh (by omega) (by omega), ?_⟩
    exact (head_encoded_one h1 rest).trans (hch 0)
  by_cases h2 : ch.val.toNat ≤ 0x7ff
  · refine ⟨_, _, (if_neg h1).trans (if_pos h2), hfresh (by omega) (by omega), ?_⟩
    exact (head_encoded_two (by omega) h2 rest).trans (hch 1)
  by_cases h3 : ch.val.toNat ≤ 0xffff
  · refine ⟨_, _, (if_neg h1).trans ((if_neg h2).trans (if_pos h3)),
      hfresh (by omega) (by omega), ?_⟩
    exact (head_encoded_three (by omega) h3 (by omega) rest).trans (hch 2)
  · refine ⟨_, _, (if_neg h1).trans ((if_neg h2).trans (if_neg h3)),
      hfresh (by omega) (by omega), ?_⟩
    exact (head_encoded_four (by omega) (by omega) rest).trans (hch 3)

/-! ### Encoded texts -/

theorem startsFresh_encode_append {s : List Char} (hs : s ≠ []) (rest : List UInt8) :
    startsFresh (encode s ++ rest) = true := by
  obtain ⟨ch, s, rfl⟩ := List.exists_cons_of_ne_nil hs
  obtain ⟨b, more, hencode, hb, -⟩ := head_utf8EncodeChar ch rest
  rw [encode, List.flatMap_cons, hencode]
  simp [startsFresh, hb]

/-- An encoded text is read back as it was written. -/
theorem decodeLenient_encode_append (s : List Char) (rest : List UInt8) :
    decodeLenient (encode s ++ rest) = s ++ decodeLenient rest := by
  induction s with
  | nil => rfl
  | cons ch s ih =>
    obtain ⟨b, more, hencode, -, hhead⟩ := head_utf8EncodeChar ch (encode s ++ rest)
    rw [show encode (ch :: s) ++ rest = b :: (more ++ (encode s ++ rest)) by
      rw [encode, List.flatMap_cons, hencode, encode]; simp]
    rw [decodeLenient_cons, hhead]
    show ch :: decodeLenient ((more ++ (encode s ++ rest)).drop more.length) = _
    rw [List.drop_left, ih, List.cons_append]

/-- **An encoded text survives in the midst of arbitrary bytes.** -/
theorem decodeLenient_resync (x y : List UInt8) {s : List Char} (hs : s ≠ []) :
    decodeLenient (x ++ encode s ++ y) = decodeLenient x ++ s ++ decodeLenient y := by
  rw [List.append_assoc, decodeLenient_append (startsFresh_encode_append hs y),
    decodeLenient_encode_append, List.append_assoc]

end SourceWatch.Text.Utf8
