import SourceWatch.Proofs.Association
import SourceWatch.Proofs.Json.Scalars

/-!
# Reading printed documents

A document is read back as it was printed, on one line or indented, if it holds no numbers with a fraction, its strings
are whole, its integers do not have too many digits, the names in an object are distinct, and it does not nest too
deep.

Main definitions:

* `Json.spell`: the characters of a printed value;
* `Json.Faithful`: values that are read back as they were printed.

Main statements:

* `Json.toList_printOnto`: a value is printed by its characters;
* `Json.Faithful.readsBack`: the value is read back, whatever stands behind it;
* `Json.readWithin_print`: so is a document, within any limit that it keeps.
-/

namespace SourceWatch.Json

open Text

/-! ### The characters of a value -/

/-- The characters of a text in quotes. -/
def spellText (ascii : Bool) (t : CodeText) : List Char :=
  '"' :: (t.flatMap (escapePoint ascii) ++ ['"'])

mutual

/-- The characters of a value, printed at a depth. -/
def spell (style : Style) (depth : Nat) : Json → List Char
  | .null => "null".toList
  | .bool b => (if b then "true" else "false").toList
  | .int n => (toString n).toList
  | .real x => (printReal x).toList
  | .text t => spellText style.ascii t
  | .array [] => ['[', ']']
  | .array (item :: items) =>
    '[' :: ((style.lineStart (depth + 1)).toList ++ (spell style (depth + 1) item ++
      (spellItems style (depth + 1) items ++ ((style.lineStart depth).toList ++ [']']))))
  | .object [] => ['{', '}']
  | .object ((name, value) :: members) =>
    '{' :: ((style.lineStart (depth + 1)).toList ++ (spellText style.ascii name ++ (style.colon.toList ++
      (spell style (depth + 1) value ++ (spellMembers style (depth + 1) members ++
        ((style.lineStart depth).toList ++ ['}']))))))

/-- The characters of the items behind the first one. -/
def spellItems (style : Style) (depth : Nat) : List Json → List Char
  | [] => []
  | item :: items =>
    ',' :: ((style.lineStart depth).toList ++ (spell style depth item ++ spellItems style depth items))

/-- The characters of the members behind the first one. -/
def spellMembers (style : Style) (depth : Nat) : List (CodeText × Json) → List Char
  | [] => []
  | (name, value) :: members =>
    ',' :: ((style.lineStart depth).toList ++ (spellText style.ascii name ++ (style.colon.toList ++
      (spell style depth value ++ spellMembers style depth members))))

end

section Spelling

variable (style : Style)

theorem toList_printText (ascii : Bool) (t : CodeText) : (printText ascii t).toList = spellText ascii t :=
  String.toList_ofList

mutual

/-- A value is printed by its characters. -/
theorem toList_printOnto (depth : ℕ) (out : String) (value : Json) :
    (printOnto style depth out value).toList = out.toList ++ spell style depth value := by
  match value with
  | .null | .bool _ | .int _ | .real _ => rw [printOnto, spell, String.toList_append]
  | .text t => rw [printOnto, spell, String.toList_append, toList_printText]
  | .array [] => rw [printOnto, spell, String.toList_append]; rfl
  | .array (item :: items) =>
    rw [printOnto, spell]
    simp only [String.toList_append, toList_printItemsOnto, toList_printOnto, List.append_assoc]
    rfl
  | .object [] => rw [printOnto, spell, String.toList_append]; rfl
  | .object ((name, value) :: members) =>
    rw [printOnto, spell]
    simp only [String.toList_append, toList_printMembersOnto, toList_printOnto, toList_printText, List.append_assoc]
    rfl

theorem toList_printItemsOnto (depth : ℕ) (out : String) (items : List Json) :
    (printItemsOnto style depth out items).toList = out.toList ++ spellItems style depth items := by
  match items with
  | [] => rw [printItemsOnto, spellItems, List.append_nil]
  | item :: items =>
    rw [printItemsOnto, spellItems]
    simp only [String.toList_append, toList_printItemsOnto, toList_printOnto, List.append_assoc]
    rfl

theorem toList_printMembersOnto (depth : ℕ) (out : String) (members : List (CodeText × Json)) :
    (printMembersOnto style depth out members).toList = out.toList ++ spellMembers style depth members := by
  match members with
  | [] => rw [printMembersOnto, spellMembers, List.append_nil]
  | (name, value) :: members =>
    rw [printMembersOnto, spellMembers]
    simp only [String.toList_append, toList_printMembersOnto, toList_printOnto, toList_printText, List.append_assoc]
    rfl

end

end Spelling

/-! ### Values that are read back -/

/-- **Values that are read back as they were printed,** nested some levels deep at most. -/
inductive Faithful : ℕ → Json → Prop
  | null {levels : ℕ} : Faithful levels .null
  | bool {levels : ℕ} (b : Bool) : Faithful levels (.bool b)
  | int {levels : ℕ} {n : ℤ} (short : digitCount n ≤ digitLimit) : Faithful levels (.int n)
  | text {levels : ℕ} {t : CodeText} (whole : isWhole t = true) : Faithful levels (.text t)
  | array {levels : ℕ} {items : List Json} (items_faithful : ∀ item ∈ items, Faithful levels item) :
      Faithful (levels + 1) (.array items)
  | object {levels : ℕ} {members : List (CodeText × Json)} (distinct : (members.map (·.1)).Nodup)
      (names_whole : ∀ m ∈ members, isWhole m.1 = true) (values_faithful : ∀ m ∈ members, Faithful levels m.2) :
      Faithful (levels + 1) (.object members)

/-- A character that begins a value. -/
def Begins (c : Char) : Prop :=
  isBlank c = false ∧ c ≠ ']' ∧ c ≠ '}' ∧ c ≠ '\uFEFF'

variable {style : Style} {limit levels fuel depth : ℕ} {value : Json} {c : Char} {cs rest behind : List Char}
  {t : CodeText}

theorem Begins.of_mem (h : c ∈ ['n', 't', 'f', '-', '"', '[', '{']) : Begins c := by
  simp only [List.mem_cons, List.not_mem_nil, or_false] at h
  rcases h with rfl | rfl | rfl | rfl | rfl | rfl | rfl <;> exact ⟨rfl, by decide, by decide, by decide⟩

theorem Begins.of_isDigit (h : isDigit c = true) : Begins c := by
  have hne (d : Char) (hd : isDigit d = false) : c ≠ d := by
    rintro rfl
    rw [h] at hd
    cases hd
  refine ⟨?_, hne ']' rfl, hne '}' rfl, hne '\uFEFF' rfl⟩
  simp [isBlank, hne ' ' rfl, hne '\t' rfl, hne '\n' rfl, hne '\r' rfl]

/-- The value is read back from its characters, however deep it was printed and whatever stands behind it. -/
structure ReadsBack (style : Style) (levels : ℕ) (value : Json) : Prop where
  begins : ∀ printed, ∃ c cs, spell style printed value = c :: cs ∧ Begins c
  reads : ∀ {limit} printed fuel depth rest, 2 * (spell style printed value).length ≤ fuel →
    depth + levels ≤ limit → Ends rest →
      readValue limit fuel depth (spell style printed value ++ rest) = .ok (value, rest)

/-- What a value begins with. -/
theorem Faithful.exists_spell (h : Faithful levels value) (style : Style) (printed : ℕ) :
    ∃ c cs, spell style printed value = c :: cs ∧ Begins c := by
  cases h with
  | null => exact ⟨'n', _, by rw [spell]; rfl, .of_mem (by decide)⟩
  | bool b =>
    cases b
    · exact ⟨'f', _, by rw [spell]; rfl, .of_mem (by decide)⟩
    · exact ⟨'t', _, by rw [spell]; rfl, .of_mem (by decide)⟩
  | @int _ n _ =>
    rw [spell]
    cases n with
    | ofNat n =>
      obtain ⟨d, digits, hdigits, hdigit⟩ := exists_toDigits n
      exact ⟨d, digits, (toList_ofNat n).trans hdigits, .of_isDigit hdigit⟩
    | negSucc n => exact ⟨'-', _, toList_negSucc n, .of_mem (by decide)⟩
  | text => exact ⟨'"', _, by rw [spell]; rfl, .of_mem (by decide)⟩
  | @array _ items _ =>
    cases items with
    | nil => exact ⟨'[', _, by rw [spell], .of_mem (by decide)⟩
    | cons => exact ⟨'[', _, by rw [spell], .of_mem (by decide)⟩
  | @object _ members _ _ _ =>
    cases members with
    | nil => exact ⟨'{', _, by rw [spell], .of_mem (by decide)⟩
    | cons => exact ⟨'{', _, by rw [spell], .of_mem (by decide)⟩

/-! ### Blanks and marks -/

theorem skipBlanks_of_begins (hc : isBlank c = false) : skipBlanks (c :: cs) = c :: cs :=
  List.dropWhile_cons_of_neg (Bool.eq_false_iff.mp hc)

/-- The start of a line holds blanks only. -/
theorem skipBlanks_lineStart (style : Style) (depth : ℕ) (hc : isBlank c = false) :
    skipBlanks ((style.lineStart depth).toList ++ c :: cs) = c :: cs := by
  have hblank : ∀ d ∈ (style.lineStart depth).toList, isBlank d = true := by
    unfold Style.lineStart
    split
    · simp
    · intro d hd
      rw [String.toList_ofList, List.mem_cons, List.mem_replicate] at hd
      rcases hd with rfl | ⟨-, rfl⟩ <;> rfl
  rw [skipBlanks, List.dropWhile_append_of_pos hblank]
  exact skipBlanks_of_begins hc

/-- The start of a line before a name. -/
theorem skipBlanks_lineStart_spellText (style : Style) (depth : ℕ) (t : CodeText) (rest : List Char) :
    skipBlanks ((style.lineStart depth).toList ++ (spellText false t ++ rest)) = spellText false t ++ rest :=
  skipBlanks_lineStart style depth rfl

theorem ends_cons (hc : c ∈ enders) : Ends (c :: cs) := by
  intro d hd
  cases hd
  exact hc

theorem ends_lineStart (style : Style) (depth : ℕ) (hc : c ∈ enders) :
    Ends ((style.lineStart depth).toList ++ c :: cs) := by
  unfold Style.lineStart
  split
  · exact ends_cons hc
  · rw [String.toList_ofList]
    exact ends_cons (by decide)

/-! ### Steps of reading -/

theorem readValue_text (whole : isWhole t = true) :
    readValue limit (fuel + 1) depth (spellText false t ++ rest) = .ok (.text t, rest) := by
  rw [spellText, List.cons_append, List.append_assoc, readValue]
  simp only [List.singleton_append, readString_flatMap_escapePoint whole]

theorem readValue_plain (hquote : c ≠ '"') (hbracket : c ≠ '[') (hbrace : c ≠ '{') :
    readValue limit (fuel + 1) depth (c :: cs) = readPlain (c :: cs) := by
  rw [readValue]
  all_goals
    intro behind h
    cases h
    contradiction

theorem readValue_array_nil (hdepth : depth < limit) :
    readValue limit (fuel + 1) depth ('[' :: ']' :: rest) = .ok (.array [], rest) := by
  rw [readValue, if_neg (Nat.not_le.mpr hdepth), skipBlanks_of_begins rfl]
  rfl

theorem readValue_array_cons (hdepth : depth < limit) (hbehind : skipBlanks behind = cs)
    (hstart : ∀ rest, cs ≠ ']' :: rest) :
    readValue limit (fuel + 1) depth ('[' :: behind) = readItems limit fuel (depth + 1) cs [] := by
  rw [readValue, if_neg (Nat.not_le.mpr hdepth), hbehind]
  split
  · exact absurd rfl (hstart _)
  · rfl

theorem readValue_object_nil (hdepth : depth < limit) :
    readValue limit (fuel + 1) depth ('{' :: '}' :: rest) = .ok (.object [], rest) := by
  rw [readValue, if_neg (Nat.not_le.mpr hdepth), skipBlanks_of_begins rfl]
  rfl

theorem readValue_object_cons (hdepth : depth < limit) (hbehind : skipBlanks behind = cs)
    (hstart : ∀ rest, cs ≠ '}' :: rest) :
    readValue limit (fuel + 1) depth ('{' :: behind) = readMembers limit fuel (depth + 1) cs [] := by
  rw [readValue, if_neg (Nat.not_le.mpr hdepth), hbehind]
  split
  · exact absurd rfl (hstart _)
  · rfl

theorem readKey_spellText (style : Style) (whole : isWhole t = true) (hc : isBlank c = false) :
    readKey (spellText false t ++ (style.colon.toList ++ c :: cs)) = .ok (t, c :: cs) := by
  have hcolon : ∃ blanks, style.colon.toList = ':' :: blanks ∧ skipBlanks (blanks ++ c :: cs) = c :: cs := by
    unfold Style.colon
    split
    · exact ⟨[' '], rfl, skipBlanks_of_begins hc⟩
    · exact ⟨[], rfl, skipBlanks_of_begins hc⟩
  obtain ⟨blanks, hcolon, hblanks⟩ := hcolon
  rw [spellText, List.cons_append, List.append_assoc, readKey, List.singleton_append]
  simp only [readString_flatMap_escapePoint whole, hcolon, List.cons_append]
  rw [skipBlanks_of_begins rfl]
  simp only [hblanks]

/-! ### Items and members -/

section Entries

variable {printed : ℕ} {key : CodeText} {items done : List Json} {members written : List (CodeText × Json)}

namespace ReadsBack

/-- The start of a line before a value. -/
theorem skipBlanks_lineStart (h : ReadsBack style levels value) (printed : ℕ) (rest : List Char) :
    skipBlanks ((style.lineStart printed).toList ++ (spell style printed value ++ rest)) =
      spell style printed value ++ rest := by
  obtain ⟨c, cs, hspell, hbegins⟩ := h.begins printed
  rw [hspell, List.cons_append]
  exact Json.skipBlanks_lineStart style printed hbegins.1

/-- A name is read up to its value. -/
theorem readKey (h : ReadsBack style levels value) (whole : isWhole key = true) (printed : ℕ) (rest : List Char) :
    Json.readKey (spellText false key ++ (style.colon.toList ++ (spell style printed value ++ rest))) =
      .ok (key, spell style printed value ++ rest) := by
  obtain ⟨c, cs, hspell, hbegins⟩ := h.begins printed
  rw [hspell, List.cons_append]
  exact readKey_spellText style whole hbegins.1

theorem readItems_last (h : ReadsBack style levels value) (hfuel : 2 * (spell style printed value).length ≤ fuel)
    (hdepth : depth + levels ≤ limit) (hends : Ends behind) (hclose : skipBlanks behind = ']' :: rest) :
    readItems limit (fuel + 1) depth (spell style printed value ++ behind) done =
      .ok (.array (done.reverse ++ [value]), rest) := by
  rw [readItems, h.reads printed fuel depth behind hfuel hdepth hends]
  simp only [hclose, List.reverse_cons]

theorem readItems_next (h : ReadsBack style levels value) (hfuel : 2 * (spell style printed value).length ≤ fuel)
    (hdepth : depth + levels ≤ limit) :
    readItems limit (fuel + 1) depth (spell style printed value ++ ',' :: rest) done =
      readItems limit fuel depth (skipBlanks rest) (value :: done) := by
  rw [readItems, h.reads printed fuel depth _ hfuel hdepth (ends_cons (by decide))]
  simp only [skipBlanks_of_begins (c := ',') rfl]

theorem readMembers_last (h : ReadsBack style levels value) (whole : isWhole key = true)
    (hfuel : 2 * (spell style printed value).length ≤ fuel) (hdepth : depth + levels ≤ limit)
    (hends : Ends behind) (hclose : skipBlanks behind = '}' :: rest)
    (distinct : ((written.reverse ++ [(key, value)]).map (·.1)).Nodup) :
    readMembers limit (fuel + 1) depth
        (spellText false key ++ (style.colon.toList ++ (spell style printed value ++ behind))) written =
      .ok (.object (written.reverse ++ [(key, value)]), rest) := by
  rw [readMembers, h.readKey whole]
  simp only [h.reads printed fuel depth behind hfuel hdepth hends, hclose, List.reverse_cons,
    Association.ofPairs_of_nodup distinct]

theorem readMembers_next (h : ReadsBack style levels value) (whole : isWhole key = true)
    (hfuel : 2 * (spell style printed value).length ≤ fuel) (hdepth : depth + levels ≤ limit) :
    readMembers limit (fuel + 1) depth
        (spellText false key ++ (style.colon.toList ++ (spell style printed value ++ ',' :: rest))) written =
      readMembers limit fuel depth (skipBlanks rest) ((key, value) :: written) := by
  have hreads := h.reads printed fuel depth (',' :: rest) hfuel hdepth (ends_cons (by decide))
  rw [readMembers, h.readKey whole]
  simp only [hreads, skipBlanks_of_begins (c := ',') rfl]

end ReadsBack

/-- **The items of an array are read back,** one of them and those behind it. -/
theorem readItems_spell (hitems : ∀ item ∈ value :: items, ReadsBack style levels item)
    (hfuel : 2 * ((spell style printed value).length + (spellItems style printed items).length) < fuel)
    (hdepth : depth + levels ≤ limit) (hends : Ends behind) (hclose : skipBlanks behind = ']' :: rest) :
    readItems limit fuel depth (spell style printed value ++ (spellItems style printed items ++ behind)) done =
      .ok (.array (done.reverse ++ value :: items), rest) := by
  induction items generalizing value done fuel with
  | nil =>
    obtain ⟨fuel, rfl⟩ := Nat.exists_eq_succ_of_ne_zero (Nat.ne_zero_of_lt hfuel)
    exact (hitems value List.mem_cons_self).readItems_last (by omega) hdepth hends hclose
  | cons next items ih =>
    obtain ⟨fuel, rfl⟩ := Nat.exists_eq_succ_of_ne_zero (Nat.ne_zero_of_lt hfuel)
    rw [spellItems] at hfuel ⊢
    simp only [List.length_cons, List.length_append] at hfuel
    simp only [List.cons_append, List.append_assoc]
    rw [(hitems value List.mem_cons_self).readItems_next (by omega) hdepth,
      (hitems next (by simp)).skipBlanks_lineStart,
      ih (fun item hitem => hitems item (List.mem_cons_of_mem value hitem)) (by omega), List.reverse_cons,
      List.append_assoc]
    rfl

/-- **The members of an object are read back,** one of them and those behind it. -/
theorem readMembers_spell (ascii : style.ascii = false)
    (hmembers : ∀ m ∈ (key, value) :: members, isWhole m.1 = true ∧ ReadsBack style levels m.2)
    (distinct : ((written.reverse ++ (key, value) :: members).map (·.1)).Nodup)
    (hfuel : 2 * ((spell style printed value).length + (spellMembers style printed members).length) < fuel)
    (hdepth : depth + levels ≤ limit) (hends : Ends behind) (hclose : skipBlanks behind = '}' :: rest) :
    readMembers limit fuel depth (spellText false key ++ (style.colon.toList ++ (spell style printed value ++
        (spellMembers style printed members ++ behind)))) written =
      .ok (.object (written.reverse ++ (key, value) :: members), rest) := by
  induction members generalizing key value written fuel with
  | nil =>
    obtain ⟨fuel, rfl⟩ := Nat.exists_eq_succ_of_ne_zero (Nat.ne_zero_of_lt hfuel)
    obtain ⟨whole, hvalue⟩ := hmembers (key, value) List.mem_cons_self
    exact hvalue.readMembers_last whole (by simp only; omega) hdepth hends hclose distinct
  | cons next members ih =>
    obtain ⟨fuel, rfl⟩ := Nat.exists_eq_succ_of_ne_zero (Nat.ne_zero_of_lt hfuel)
    obtain ⟨whole, hvalue⟩ := hmembers (key, value) List.mem_cons_self
    obtain ⟨name, follower⟩ := next
    rw [spellMembers, ascii] at hfuel ⊢
    simp only [List.length_cons, List.length_append] at hfuel
    simp only [List.cons_append, List.append_assoc]
    rw [hvalue.readMembers_next whole (by simp only; omega) hdepth, skipBlanks_lineStart_spellText,
      ih (fun m hm => hmembers m (List.mem_cons_of_mem _ hm)) (by simpa using distinct) (by omega), List.reverse_cons,
      List.append_assoc]
    rfl

/-- An array is read back if its items are. -/
theorem readValue_array (hitems : ∀ item ∈ items, ReadsBack style levels item)
    (hfuel : 2 * (spell style printed (.array items)).length ≤ fuel + 1)
    (hdepth : depth + (levels + 1) ≤ limit) :
    readValue limit (fuel + 1) depth (spell style printed (.array items) ++ rest) = .ok (.array items, rest) := by
  have hdeep : depth < limit := by omega
  cases items with
  | nil =>
    rw [spell]
    exact readValue_array_nil hdeep
  | cons item items =>
    have hitem := hitems item List.mem_cons_self
    obtain ⟨c, cs, hspell, hbegins⟩ := hitem.begins (printed + 1)
    have hstart (tail rest : List Char) : spell style (printed + 1) item ++ tail ≠ ']' :: rest := by
      rw [hspell]
      exact fun h => hbegins.2.1 (List.cons.inj h).1
    rw [spell] at hfuel ⊢
    simp only [List.length_cons, List.length_append] at hfuel
    simp only [List.cons_append, List.append_assoc]
    rw [readValue_array_cons hdeep (hitem.skipBlanks_lineStart (printed + 1) _) (hstart _),
      readItems_spell hitems (by omega) (by omega) (ends_lineStart style printed (by decide))
        (skipBlanks_lineStart style printed rfl)]
    rfl

/-- An object is read back if its names are whole and distinct, and its values are read back. -/
theorem readValue_object (ascii : style.ascii = false) (distinct : (members.map (·.1)).Nodup)
    (hmembers : ∀ m ∈ members, isWhole m.1 = true ∧ ReadsBack style levels m.2)
    (hfuel : 2 * (spell style printed (.object members)).length ≤ fuel + 1)
    (hdepth : depth + (levels + 1) ≤ limit) :
    readValue limit (fuel + 1) depth (spell style printed (.object members) ++ rest) = .ok (.object members, rest) := by
  have hdeep : depth < limit := by omega
  cases members with
  | nil =>
    rw [spell]
    exact readValue_object_nil hdeep
  | cons member members =>
    obtain ⟨key, value⟩ := member
    have hdistinct : ((([] : List (CodeText × Json)).reverse ++ (key, value) :: members).map (·.1)).Nodup := distinct
    rw [spell, ascii] at hfuel ⊢
    simp only [List.length_cons, List.length_append] at hfuel
    simp only [List.cons_append, List.append_assoc]
    rw [readValue_object_cons hdeep (skipBlanks_lineStart_spellText style (printed + 1) key _) nofun,
      readMembers_spell ascii hmembers hdistinct (by omega) (by omega) (ends_lineStart style printed (by decide))
        (skipBlanks_lineStart style printed rfl)]
    rfl

end Entries

/-! ### Documents -/

/-- A value has a character, so its reading has fuel for a step. -/
theorem ReadsBack.of_succ (begins : ∀ printed, ∃ c cs, spell style printed value = c :: cs ∧ Begins c)
    (reads : ∀ {limit} printed fuel depth rest, 2 * (spell style printed value).length ≤ fuel + 1 →
      depth + levels ≤ limit → Ends rest →
        readValue limit (fuel + 1) depth (spell style printed value ++ rest) = .ok (value, rest)) :
    ReadsBack style levels value := by
  refine ⟨begins, fun printed fuel depth rest hfuel => ?_⟩
  obtain ⟨c, cs, hspell, -⟩ := begins printed
  obtain ⟨fuel, rfl⟩ : ∃ n, fuel = n + 1 := by
    rw [hspell, List.length_cons] at hfuel
    exact ⟨fuel - 1, by omega⟩
  exact reads printed fuel depth rest hfuel

theorem readValue_int {n : ℤ} (short : digitCount n ≤ digitLimit) (hends : Ends rest) :
    readValue limit (fuel + 1) depth ((toString n).toList ++ rest) = .ok (.int n, rest) := by
  rw [← readPlain_int short hends]
  cases n with
  | ofNat n =>
    obtain ⟨d, digits, hdigits, hdigit⟩ := exists_toDigits n
    have hne (c : Char) (hc : isDigit c = false) : d ≠ c := by
      rintro rfl
      rw [hdigit] at hc
      cases hc
    rw [toList_ofNat, hdigits, List.cons_append]
    exact readValue_plain (hne '"' rfl) (hne '[' rfl) (hne '{' rfl)
  | negSucc n =>
    rw [toList_negSucc, List.cons_append]
    exact readValue_plain (by decide) (by decide) (by decide)

/-- **A value is read back as it was printed.** -/
theorem Faithful.readsBack (h : Faithful levels value) (ascii : style.ascii = false) :
    ReadsBack style levels value := by
  induction h with
  | null =>
    refine .of_succ ((Faithful.null : Faithful 0 .null).exists_spell style) fun _ _ _ _ _ _ _ => ?_
    rw [spell, ← readPlain_null]
    exact readValue_plain (by decide) (by decide) (by decide)
  | bool b =>
    refine .of_succ ((Faithful.bool b : Faithful 0 (.bool b)).exists_spell style) fun _ _ _ _ _ _ _ => ?_
    rw [spell]
    cases b
    · rw [← readPlain_false]
      exact readValue_plain (by decide) (by decide) (by decide)
    · rw [← readPlain_true]
      exact readValue_plain (by decide) (by decide) (by decide)
  | @int levels n short =>
    refine .of_succ ((Faithful.int short : Faithful 0 (.int n)).exists_spell style) fun _ _ _ _ _ _ hends => ?_
    rw [spell]
    exact readValue_int short hends
  | @text levels t whole =>
    refine .of_succ ((Faithful.text whole : Faithful 0 (.text t)).exists_spell style) fun _ _ _ _ _ _ _ => ?_
    rw [spell, ascii]
    exact readValue_text whole
  | array items_faithful ih =>
    exact .of_succ ((Faithful.array items_faithful).exists_spell style) fun _ _ _ _ hfuel hdepth _ =>
      readValue_array ih hfuel hdepth
  | object distinct names_whole values_faithful ih =>
    exact .of_succ ((Faithful.object distinct names_whole values_faithful).exists_spell style)
      fun _ _ _ _ hfuel hdepth _ =>
        readValue_object ascii distinct (fun m hm => ⟨names_whole m hm, ih m hm⟩) hfuel hdepth

theorem ends_of_blanks (blanks : ∀ c ∈ rest, isBlank c = true) : Ends rest := by
  intro c hc
  have hblank := blanks c (List.mem_of_mem_head? hc)
  simp only [isBlank, Bool.or_eq_true, decide_eq_true_eq] at hblank
  rcases hblank with ((rfl | rfl) | rfl) | rfl <;> decide

/-- **A printed document is read back,** also before blanks. -/
theorem readWithin_print (h : Faithful levels value) (hlevels : levels ≤ limit) (indent : Option ℕ)
    (blanks : ∀ c ∈ rest, isBlank c = true) :
    readWithin limit ((print ⟨indent, false⟩ value).toList ++ rest) = .ok value := by
  have hreads : ReadsBack ⟨indent, false⟩ levels value := h.readsBack rfl
  obtain ⟨c, cs, hspell, hbegins⟩ := hreads.begins 0
  have hstart : skipBlanks (spell ⟨indent, false⟩ 0 value ++ rest) = spell ⟨indent, false⟩ 0 value ++ rest := by
    rw [hspell, List.cons_append]
    exact skipBlanks_of_begins hbegins.1
  have hrest : skipBlanks rest = [] := List.dropWhile_eq_nil_iff.mpr blanks
  rw [print, toList_printOnto, String.toList_empty, List.nil_append, readWithin, hstart,
    hreads.reads 0 _ 0 rest (by rw [List.length_append]; omega) (by omega) (ends_of_blanks blanks)]
  · simp only [hrest]
  · intro tail htail
    rw [hspell] at htail
    exact hbegins.2.2.2 (List.cons.inj htail).1

end SourceWatch.Json
