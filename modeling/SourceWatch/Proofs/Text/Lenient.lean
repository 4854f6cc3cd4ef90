import SourceWatch.Proofs.Text.Strict

/-!
# What the lenient reading keeps

The lenient reading keeps each encoded character and drops each byte at which no encoded character begins.  There are
no encodings of overlong forms, of surrogates and of numbers above the last code point, so their bytes are dropped, and
so are those of a character that is cut off; but no byte is dropped at which an encoded character begins.

Main definitions:

* `Utf8.Salvages`: the text that is left of bytes, some of which may be malformed;
* `Utf8.Straddles`: an encoded character that is cut in two.

Main statements:

* `Utf8.salvages_iff`: the lenient reading is what is left;
* `Utf8.exists_lost_of_straddles`: a character that is cut in two is lost when the parts are read one by one;
* `Utf8.decodeLenient_append_iff`: bytes may be read in two parts unless an encoded character is cut in two;
* `Utf8.decodeLenient_resync_iff`: when an encoded text is read in the midst of other bytes.
-/

namespace SourceWatch.Text.Utf8

variable {b : UInt8} {bytes rest x y p q : List UInt8} {ch : Char} {cs : List Char} {extra : ℕ}

/-- **The text that is left of bytes:** an encoded character is kept, and a byte at which no encoded character begins
is dropped. -/
inductive Salvages : List UInt8 → List Char → Prop
  | nil : Salvages [] []
  | keep {rest : List UInt8} {cs : List Char} (ch : Char) :
      Salvages rest cs → Salvages (String.utf8EncodeChar ch ++ rest) (ch :: cs)
  | drop {b : UInt8} {rest : List UInt8} {cs : List Char} :
      (∀ ch, ¬ String.utf8EncodeChar ch <+: b :: rest) → Salvages rest cs → Salvages (b :: rest) cs

/-! ### The character at the start -/

/-- The bytes of an input whose head is a character. -/
theorem eq_append_of_head (h : (head b rest).char? = some (ch, extra)) :
    b :: rest = String.utf8EncodeChar ch ++ rest.drop extra := by
  have hhead : head b rest = .scalar ch extra := by
    unfold Head.char? at h
    split at h
    · next hscalar =>
      cases h
      exact hscalar
    · cases h
  rw [encode_of_head hhead, List.cons_append, List.take_append_drop]

/-- The head of bytes that begin with an encoded character is this character. -/
theorem exists_head_of_isPrefix (h : String.utf8EncodeChar ch <+: b :: rest) :
    ∃ extra, (head b rest).char? = some (ch, extra) := by
  obtain ⟨later, hlater⟩ := h
  obtain ⟨first, more, hencode, -, hhead⟩ := head_utf8EncodeChar ch later
  rw [hencode, List.cons_append] at hlater
  cases hlater
  exact ⟨more.length, by rw [hhead, Head.char?]⟩

/-- No two characters begin at one place. -/
theorem eq_of_isPrefix {ch' : Char} (h : String.utf8EncodeChar ch <+: b :: rest)
    (h' : String.utf8EncodeChar ch' <+: b :: rest) : ch = ch' := by
  obtain ⟨extra, hhead⟩ := exists_head_of_isPrefix h
  obtain ⟨extra', hhead'⟩ := exists_head_of_isPrefix h'
  rw [hhead] at hhead'
  cases hhead'
  rfl

/-- The head of bytes is no character if and only if no encoded character begins there. -/
theorem char?_head_eq_none_iff :
    (head b rest).char? = none ↔ ∀ ch, ¬ String.utf8EncodeChar ch <+: b :: rest := by
  constructor
  · intro hnone ch h
    obtain ⟨extra, hsome⟩ := exists_head_of_isPrefix h
    rw [hnone] at hsome
    cases hsome
  · intro h
    cases hhead : (head b rest).char? with
    | none => rfl
    | some found => exact absurd ⟨_, (eq_append_of_head hhead).symm⟩ (h found.1)

theorem decodeLenient_utf8EncodeChar_append (ch : Char) (rest : List UInt8) :
    decodeLenient (String.utf8EncodeChar ch ++ rest) = ch :: decodeLenient rest := by
  have h := decodeLenient_encode_append [ch] rest
  rwa [encode, List.flatMap_singleton] at h

/-- A byte at which no encoded character begins plays no part. -/
theorem decodeLenient_of_not_isPrefix (h : ∀ ch, ¬ String.utf8EncodeChar ch <+: b :: rest) :
    decodeLenient (b :: rest) = decodeLenient rest := by
  rw [decodeLenient_cons, char?_head_eq_none_iff.mpr h]

/-! ### The reading as a whole -/

theorem salvages_decodeLenient (bytes : List UInt8) : Salvages bytes (decodeLenient bytes) := by
  induction hn : bytes.length using Nat.strongRecOn generalizing bytes with
  | _ n ih =>
    cases bytes with
    | nil =>
      rw [decodeLenient_nil]
      exact .nil
    | cons b rest =>
      rw [List.length_cons] at hn
      cases hhead : (head b rest).char? with
      | none =>
        have hdrop := char?_head_eq_none_iff.mp hhead
        rw [decodeLenient_of_not_isPrefix hdrop]
        exact .drop hdrop (ih rest.length (by omega) rest rfl)
      | some found =>
        have hshorter : (rest.drop found.2).length < n := by
          rw [List.length_drop]
          omega
        rw [eq_append_of_head hhead, decodeLenient_utf8EncodeChar_append]
        exact .keep found.1 (ih _ hshorter _ rfl)

/-- **The lenient reading** of bytes is the text that is left of them. -/
theorem salvages_iff : Salvages bytes cs ↔ decodeLenient bytes = cs := by
  constructor
  · intro h
    induction h with
    | nil => exact decodeLenient_nil
    | keep ch _ ih => rw [decodeLenient_utf8EncodeChar_append, ih]
    | drop hdrop _ ih => rw [decodeLenient_of_not_isPrefix hdrop, ih]
  · rintro rfl
    exact salvages_decodeLenient bytes

/-! ### Bytes in two parts -/

/-- An encoded character is cut in two where `x` ends and `y` begins. -/
def Straddles (x y : List UInt8) : Prop :=
  ∃ ch p q, p ≠ [] ∧ q ≠ [] ∧ String.utf8EncodeChar ch = p ++ q ∧ p <:+ x ∧ q <+: y

theorem Straddles.append (h : Straddles x y) (front : List UInt8) : Straddles (front ++ x) y := by
  obtain ⟨ch, p, q, hp, hq, hencode, hend, hstart⟩ := h
  exact ⟨ch, p, q, hp, hq, hencode, hend.trans (List.suffix_append front x), hstart⟩

/-- An encoded character that begins in the first part ends there, unless it is cut in two. -/
theorem isPrefix_of_not_straddles (h : ¬ Straddles x y) (hx : x ≠ [])
    (hch : String.utf8EncodeChar ch <+: x ++ y) : String.utf8EncodeChar ch <+: x := by
  obtain ⟨later, hlater⟩ := hch
  rcases List.append_eq_append_iff.mp hlater with ⟨inside, hinside, -⟩ | ⟨cut, hencode, hy⟩
  · exact ⟨inside, hinside.symm⟩
  · by_cases hcut : cut = []
    · exact ⟨[], by rw [List.append_nil, hencode, hcut, List.append_nil]⟩
    · exact absurd ⟨ch, x, cut, hx, hcut, hencode, List.suffix_rfl, later, hy.symm⟩ h

/-- Bytes are read in two parts as they are read in one, unless an encoded character is cut in two. -/
theorem decodeLenient_append_of_not_straddles (h : ¬ Straddles x y) :
    decodeLenient (x ++ y) = decodeLenient x ++ decodeLenient y := by
  induction hn : x.length using Nat.strongRecOn generalizing x with
  | _ n ih =>
    cases x with
    | nil => rw [List.nil_append, decodeLenient_nil, List.nil_append]
    | cons b rest =>
      rw [List.length_cons] at hn
      by_cases hkeep : ∃ ch, String.utf8EncodeChar ch <+: b :: rest ++ y
      · obtain ⟨ch, hch⟩ := hkeep
        obtain ⟨inside, hinside⟩ := isPrefix_of_not_straddles h (List.cons_ne_nil b rest) hch
        have hshorter : inside.length < n := by
          have hlength := congrArg List.length hinside
          rw [List.length_append, String.length_utf8EncodeChar, List.length_cons] at hlength
          have hpos := ch.utf8Size_pos
          omega
        rw [← hinside] at h ⊢
        rw [List.append_assoc, decodeLenient_utf8EncodeChar_append, decodeLenient_utf8EncodeChar_append,
          ih _ hshorter (fun hcut => h (hcut.append _)) rfl, List.cons_append]
      · have hdrop : ∀ ch, ¬ String.utf8EncodeChar ch <+: b :: rest := fun ch hch =>
          hkeep ⟨ch, hch.trans (List.prefix_append _ y)⟩
        have hrest : ¬ Straddles rest y := fun hcut => h (hcut.append [b])
        rw [decodeLenient_of_not_isPrefix hdrop, ← ih rest.length (by omega) hrest rfl]
        exact decodeLenient_of_not_isPrefix fun ch hch => hkeep ⟨ch, hch⟩

/-- The bytes of a character behind its first one continue its sequence. -/
theorem isContinuation_of_mem_utf8EncodeChar (h : String.utf8EncodeChar ch = b :: rest) :
    ∀ c ∈ rest, isContinuation c = true := by
  have hcontinues := fun n => (continuation_ofNat n).1
  unfold String.utf8EncodeChar at h
  simp only at h
  split at h
  · cases h
    simp
  split at h
  · cases h
    exact List.forall_mem_singleton.mpr (hcontinues _)
  split at h
  · cases h
    exact List.forall_mem_cons.mpr ⟨hcontinues _, List.forall_mem_singleton.mpr (hcontinues _)⟩
  · cases h
    exact List.forall_mem_cons.mpr ⟨hcontinues _, List.forall_mem_cons.mpr
      ⟨hcontinues _, List.forall_mem_singleton.mpr (hcontinues _)⟩⟩

/-- Bytes that continue a sequence are dropped where none goes on. -/
theorem decodeLenient_of_isContinuation (h : ∀ c ∈ q, isContinuation c = true) (y : List UInt8) :
    decodeLenient (q ++ y) = decodeLenient y := by
  induction q with
  | nil => rfl
  | cons c q ih =>
    obtain ⟨hc, hq⟩ := List.forall_mem_cons.mp h
    have hrange := isContinuation_iff.mp hc
    have hhead : head c (q ++ y) = .invalidStart := by
      rw [head_eq, if_neg (by omega), if_pos (by omega)]
    rw [List.cons_append, decodeLenient_cons, hhead]
    exact ih hq

/-- The bytes of a character that is cut off are dropped. -/
theorem decodeLenient_of_cut (h : String.utf8EncodeChar ch = p ++ q) (hq : q ≠ []) : decodeLenient p = [] := by
  cases p with
  | nil => exact decodeLenient_nil
  | cons b more =>
    have hdrop : ∀ ch', ¬ String.utf8EncodeChar ch' <+: b :: more := by
      intro ch' hch'
      have hwhole : String.utf8EncodeChar ch' <+: b :: (more ++ q) := hch'.trans (List.prefix_append (b :: more) q)
      have hsame : ch' = ch := eq_of_isPrefix hwhole (h ▸ List.prefix_rfl)
      have hle := hch'.length_le
      have hlength := List.length_pos_iff.mpr hq
      rw [hsame, h, List.length_append] at hle
      omega
    have hmore : ∀ c ∈ more, isContinuation c = true := fun c hc =>
      isContinuation_of_mem_utf8EncodeChar h c (List.mem_append_left q hc)
    rw [decodeLenient_of_not_isPrefix hdrop, ← List.append_nil more, decodeLenient_of_isContinuation hmore,
      decodeLenient_nil]

/-- A character that is cut in two is all that is lost when the parts are read one by one. -/
theorem exists_lost_of_straddles (h : Straddles x y) :
    ∃ ch, decodeLenient (x ++ y) = decodeLenient x ++ ch :: decodeLenient y := by
  obtain ⟨ch, p, q, hp, hq, hencode, ⟨u, rfl⟩, w, rfl⟩ := h
  obtain ⟨b, more, rfl⟩ := List.exists_cons_of_ne_nil hp
  obtain ⟨first, rest, hfirst, hfresh, -⟩ := head_utf8EncodeChar ch w
  have hwhole : String.utf8EncodeChar ch = b :: (more ++ q) := hencode
  have hbegin : first = b := (List.cons.inj (hfirst.symm.trans hwhole)).1
  have hfreshCut : startsFresh (b :: more) = true := by simp [startsFresh, ← hbegin, hfresh]
  have hfreshWhole : startsFresh (String.utf8EncodeChar ch ++ w) = true := by simp [startsFresh, hfirst, hfresh]
  have hcontinues : ∀ c ∈ q, isContinuation c = true := fun c hc =>
    isContinuation_of_mem_utf8EncodeChar hwhole c (List.mem_append_right more hc)
  have hone : decodeLenient (u ++ b :: more ++ (q ++ w)) = decodeLenient u ++ ch :: decodeLenient w := by
    rw [List.append_assoc, ← List.append_assoc (b :: more), ← hencode, decodeLenient_append hfreshWhole,
      decodeLenient_utf8EncodeChar_append]
  refine ⟨ch, ?_⟩
  rw [hone, decodeLenient_append hfreshCut, decodeLenient_of_cut hencode hq, List.append_nil,
    decodeLenient_of_isContinuation hcontinues]

/-- **Bytes may be read in two parts** if and only if no encoded character is cut in two. -/
theorem decodeLenient_append_iff :
    decodeLenient (x ++ y) = decodeLenient x ++ decodeLenient y ↔ ¬ Straddles x y := by
  refine ⟨fun hparts hcut => ?_, decodeLenient_append_of_not_straddles⟩
  obtain ⟨ch, hlost⟩ := exists_lost_of_straddles hcut
  have hlength := congrArg List.length (hparts.symm.trans hlost)
  simp only [List.length_append, List.length_cons] at hlength
  omega

/-- **An encoded text is read in the midst of any bytes**, if and only if it has a character or no character is cut in
two where the bytes around it meet. -/
theorem decodeLenient_resync_iff {s : List Char} :
    decodeLenient (x ++ encode s ++ y) = decodeLenient x ++ s ++ decodeLenient y ↔ (s = [] → ¬ Straddles x y) := by
  by_cases hs : s = []
  · subst hs
    rw [show encode [] = [] from rfl, List.append_nil, List.append_nil, decodeLenient_append_iff]
    exact ⟨fun h _ => h, fun h => h rfl⟩
  · exact iff_of_true (decodeLenient_resync x y hs) fun hempty => absurd hempty hs

end SourceWatch.Text.Utf8
