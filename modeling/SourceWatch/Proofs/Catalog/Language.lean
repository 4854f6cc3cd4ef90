import SourceWatch.Proofs.Catalog.Pattern
import SourceWatch.Proofs.Detector.Findings

/-!
# The languages of the structural rules

A structural rule is satisfied by the texts in which one of a few phrases stands: an assignment of a quoted
value, the address of a hidden service, or the beginning of a call.  The phrases are spelled out here, part by
part, and the search for a pattern is shown to find them wherever they stand and to find nothing else.

Main definitions:

* `Describes`: what a sequence of atoms stands for;
* `IsAssignment`, `IsOnionAddress`, `IsCall`: the phrases;
* `OutsideWord`: a text after which a word may start;
* `ReadAsDeclared`: what a text tells of the rules that it satisfies.

Main statements:

* `matchesThen_iff`: matching with a continuation finds the texts that the atoms describe;
* `Pattern.search_iff`, `Pattern.search_iff_of_free`: what the search for a pattern finds;
* `readAsDeclared`: each rule is satisfied by its phrases and by nothing else.
-/

namespace SourceWatch

open Text

/-! ### What a sequence of atoms stands for -/

/-- A sequence of atoms describes a text, from its start to its end. -/
def Describes : List Atom → List Char → Prop
  | [], m => m = []
  | .one holds :: atoms, m => ∃ c rest, m = c :: rest ∧ holds c = true ∧ Describes atoms rest
  | .atLeast count holds :: atoms, m =>
    ∃ run rest, m = run ++ rest ∧ count ≤ run.length ∧ (∀ c ∈ run, holds c = true) ∧
      Describes atoms rest

variable {next : List Char → Bool} {holds : Char → Bool} {cs : List Char}

theorem manyThen_iff : manyThen holds next cs = true ↔
    ∃ run rest, cs = run ++ rest ∧ (∀ c ∈ run, holds c = true) ∧ next rest = true := by
  induction cs with
  | nil =>
    constructor
    · intro h
      exact ⟨[], [], rfl, by simp, h⟩
    · rintro ⟨run, rest, hcs, -, h⟩
      rw [(List.append_eq_nil_iff.mp hcs.symm).2] at h
      exact h
  | cons c cs ih =>
    rw [manyThen, Bool.or_eq_true, Bool.and_eq_true, ih]
    constructor
    · rintro (h | ⟨hc, run, rest, rfl, hall, h⟩)
      · exact ⟨[], c :: cs, rfl, by simp, h⟩
      · exact ⟨c :: run, rest, rfl, List.forall_mem_cons.mpr ⟨hc, hall⟩, h⟩
    · rintro ⟨run, rest, hcs, hall, h⟩
      cases run with
      | nil =>
        rw [hcs]
        exact .inl h
      | cons d run =>
        obtain ⟨rfl, rfl⟩ := List.cons.inj hcs
        obtain ⟨hc, hall⟩ := List.forall_mem_cons.mp hall
        exact .inr ⟨hc, run, rest, rfl, hall, h⟩

theorem atLeastThen_iff {count : ℕ} : atLeastThen holds next count cs = true ↔
    ∃ run rest, cs = run ++ rest ∧ count ≤ run.length ∧ (∀ c ∈ run, holds c = true) ∧
      next rest = true := by
  induction count generalizing cs with
  | zero => simp only [atLeastThen, manyThen_iff, Nat.zero_le, true_and]
  | succ count ih =>
    cases cs with
    | nil =>
      constructor
      · intro h
        cases h
      · rintro ⟨run, rest, hcs, hlong, -⟩
        rw [(List.append_eq_nil_iff.mp hcs.symm).1] at hlong
        cases hlong
    | cons c cs =>
      rw [atLeastThen, Bool.and_eq_true, ih]
      constructor
      · rintro ⟨hc, run, rest, rfl, hlong, hall, h⟩
        exact ⟨c :: run, rest, rfl, Nat.succ_le_succ hlong, List.forall_mem_cons.mpr ⟨hc, hall⟩, h⟩
      · rintro ⟨run, rest, hcs, hlong, hall, h⟩
        cases run with
        | nil => cases hlong
        | cons d run =>
          obtain ⟨rfl, rfl⟩ := List.cons.inj hcs
          obtain ⟨hc, hall⟩ := List.forall_mem_cons.mp hall
          exact ⟨hc, run, rest, rfl, Nat.le_of_succ_le_succ hlong, hall, h⟩

/-- **Matching finds what the atoms describe**, however much of the text each of them has to take. -/
theorem matchesThen_iff (atoms : List Atom) {cs : List Char} :
    matchesThen next atoms cs = true ↔
      ∃ m rest, cs = m ++ rest ∧ Describes atoms m ∧ next rest = true := by
  induction atoms generalizing cs with
  | nil =>
    constructor
    · intro h
      exact ⟨[], cs, rfl, rfl, h⟩
    · rintro ⟨m, rest, rfl, rfl, h⟩
      exact h
  | cons atom atoms ih =>
    cases atom with
    | one holds =>
      cases cs with
      | nil =>
        constructor
        · intro h
          cases h
        · rintro ⟨m, rest, hcs, ⟨c, more, rfl, -⟩, -⟩
          cases hcs
      | cons c cs =>
        rw [matchesThen, Bool.and_eq_true, ih]
        constructor
        · rintro ⟨hc, m, rest, rfl, hm, h⟩
          exact ⟨c :: m, rest, rfl, ⟨c, m, rfl, hc, hm⟩, h⟩
        · rintro ⟨_, rest, hcs, ⟨d, m, rfl, hd, hm⟩, h⟩
          obtain ⟨rfl, rfl⟩ := List.cons.inj hcs
          exact ⟨hd, m, rest, rfl, hm, h⟩
    | atLeast count holds =>
      rw [matchesThen, atLeastThen_iff]
      constructor
      · rintro ⟨run, rest, rfl, hlong, hall, h⟩
        obtain ⟨m, rest, rfl, hm, h⟩ := ih.mp h
        exact ⟨run ++ m, rest, (List.append_assoc run m rest).symm, ⟨run, m, rfl, hlong, hall, hm⟩, h⟩
      · rintro ⟨_, rest, rfl, ⟨run, m, rfl, hlong, hall, hm⟩, h⟩
        exact ⟨run, m ++ rest, List.append_assoc run m rest, hlong, hall, ih.mpr ⟨m, rest, rfl, hm, h⟩⟩

theorem startsWith_iff {atoms : List Atom} {cs : List Char} :
    startsWith atoms cs = true ↔ ∃ m, m <+: cs ∧ Describes atoms m := by
  rw [startsWith, matchesThen_iff]
  constructor
  · rintro ⟨m, rest, rfl, hm, -⟩
    exact ⟨m, List.prefix_append m rest, hm⟩
  · rintro ⟨m, ⟨rest, rfl⟩, hm⟩
    exact ⟨m, rest, rfl, hm, rfl⟩

/-! ### What the search for a pattern finds -/

/-- A word may start behind a text: the text is empty or ends in a character that belongs to no word. -/
def OutsideWord (u : List Char) : Prop :=
  u = [] ∨ ∃ init c, u = init ++ [c] ∧ isWordChar c = false

/-- Whether a word character stands right before the end of a text; an empty text leaves it to what stands
before. -/
def endsInWord (afterWord : Bool) (u : List Char) : Bool :=
  (u.getLast?.map isWordChar).getD afterWord

theorem endsInWord_cons (afterWord : Bool) (c : Char) (u : List Char) :
    endsInWord afterWord (c :: u) = endsInWord (isWordChar c) u := by
  rw [endsInWord, List.getLast?_cons, endsInWord]
  cases u.getLast? <;> rfl

theorem endsInWord_eq_false_iff {u : List Char} : endsInWord false u = false ↔ OutsideWord u := by
  cases u using List.reverseRecOn with
  | nil => exact ⟨fun _ => .inl rfl, fun _ => rfl⟩
  | append_singleton init c =>
    have hlast : endsInWord false (init ++ [c]) = isWordChar c := by
      rw [endsInWord, List.getLast?_concat]
      rfl
    rw [hlast]
    constructor
    · intro h
      exact .inr ⟨init, c, rfl, h⟩
    · rintro (h | ⟨init', d, h, hd⟩)
      · exact absurd h (by simp)
      · have hsame : c = d := List.head_eq_of_cons_eq (List.append_inj' h rfl).2
        rw [hsame]
        exact hd

namespace Pattern

variable {p : Pattern} {afterWord : Bool} {cs : List Char}

theorem searchFrom_iff : p.searchFrom afterWord cs = true ↔
    ∃ u rest, cs = u ++ rest ∧ p.matchesAt (endsInWord afterWord u) rest = true := by
  induction cs generalizing afterWord with
  | nil =>
    constructor
    · intro h
      exact ⟨[], [], rfl, h⟩
    · rintro ⟨u, rest, hcs, h⟩
      obtain ⟨rfl, rfl⟩ := List.append_eq_nil_iff.mp hcs.symm
      exact h
  | cons c cs ih =>
    -- a pattern that is not tied to words does not ask what stands before
    have hafter : ∀ u rest, p.matchesAt (endsInWord (p.atWordStart && isWordChar c) u) rest =
        p.matchesAt (endsInWord afterWord (c :: u)) rest := by
      intro u rest
      rw [endsInWord_cons, matchesAt, matchesAt]
      cases p.atWordStart <;> rfl
    rw [searchFrom, Bool.or_eq_true, ih]
    constructor
    · rintro (h | ⟨u, rest, rfl, h⟩)
      · exact ⟨[], c :: cs, rfl, h⟩
      · exact ⟨c :: u, rest, rfl, hafter u rest ▸ h⟩
    · rintro ⟨u, rest, hcs, h⟩
      cases u with
      | nil =>
        rw [hcs]
        exact .inl h
      | cons d u =>
        obtain ⟨rfl, rfl⟩ := List.cons.inj hcs
        exact .inr ⟨u, rest, rfl, hafter u rest ▸ h⟩

/-- **What the search for a pattern finds.**  Some part of the text is described by one of the sequences of
the pattern, and a word may start there if the pattern is tied to the start of a word. -/
theorem search_iff : p.search cs = true ↔
    ∃ u m w, cs = u ++ m ++ w ∧ (∃ atoms ∈ p.alternatives, Describes atoms m) ∧
      (p.atWordStart = true → OutsideWord u) := by
  rw [search, searchFrom_iff]
  constructor
  · rintro ⟨u, rest, rfl, h⟩
    obtain ⟨hword, atoms, hmem, hstart⟩ := matchesAt_iff.mp h
    obtain ⟨m, ⟨w, rfl⟩, hm⟩ := startsWith_iff.mp hstart
    refine ⟨u, m, w, (List.append_assoc u m w).symm, ⟨atoms, hmem, hm⟩, fun htied => ?_⟩
    rw [htied, Bool.true_and] at hword
    exact endsInWord_eq_false_iff.mp hword
  · rintro ⟨u, m, w, rfl, ⟨atoms, hmem, hm⟩, hword⟩
    refine ⟨u, m ++ w, List.append_assoc u m w, matchesAt_iff.mpr ⟨?_, atoms, hmem, ?_⟩⟩
    · cases htied : p.atWordStart with
      | false => rfl
      | true => exact endsInWord_eq_false_iff.mpr (hword htied)
    · exact startsWith_iff.mpr ⟨m, List.prefix_append m w, hm⟩

/-- A pattern that is not tied to the start of a word is found wherever it stands. -/
theorem search_iff_of_free (hp : p.atWordStart = false) : p.search cs = true ↔
    ∃ m, m <:+: cs ∧ ∃ atoms ∈ p.alternatives, Describes atoms m := by
  rw [search_iff]
  constructor
  · rintro ⟨u, m, w, rfl, hm, -⟩
    exact ⟨m, ⟨u, w, rfl⟩, hm⟩
  · rintro ⟨m, ⟨u, w, rfl⟩, hm⟩
    refine ⟨u, m, w, rfl, hm, fun htied => ?_⟩
    rw [hp] at htied
    cases htied

end Pattern

/-! ### The phrases -/

/-- All characters of a text are blanks. -/
def AllBlank (cs : List Char) : Prop :=
  ∀ c ∈ cs, isBlank c = true

/-- The two quotation marks. -/
def IsQuotationMark (c : Char) : Prop :=
  c = '\x27' ∨ c = '"'

/-- A text without quotation marks. -/
def Unquoted (cs : List Char) : Prop :=
  '\x27' ∉ cs ∧ '"' ∉ cs

/-- **Assignments.**  The word, a colon or an equals sign, and a value of at least `least` characters, with
blanks around the sign.  A quotation mark stands on each side of the value, not necessarily the same, and none
within. -/
def IsAssignment (word : String) (least : ℕ) (m : List Char) : Prop :=
  ∃ s₁ sign s₂ q₁ v q₂, m = word.toList ++ s₁ ++ [sign] ++ s₂ ++ [q₁] ++ v ++ [q₂] ∧
    AllBlank s₁ ∧ (sign = ':' ∨ sign = '=') ∧ AllBlank s₂ ∧ IsQuotationMark q₁ ∧ Unquoted v ∧
    least ≤ v.length ∧ IsQuotationMark q₂

/-- **Addresses of hidden services.**  A scheme, a host of at least one character, and the ending.  A host
has no slashes, blanks and quotation marks. -/
def IsOnionAddress (m : List Char) : Prop :=
  ∃ scheme host, (scheme = "http" ∨ scheme = "https") ∧
    m = scheme.toList ++ "://".toList ++ host ++ ".onion".toList ∧ host ≠ [] ∧
    ∀ c ∈ host, c ≠ '/' ∧ isBlank c = false ∧ ¬ IsQuotationMark c

/-- **Beginnings of calls.**  The word and an opening parenthesis, with blanks in between. -/
def IsCall (word : String) (m : List Char) : Prop :=
  ∃ s, m = word.toList ++ s ++ ['('] ∧ AllBlank s

theorem isQuote_iff {c : Char} : Atom.isQuote c = true ↔ IsQuotationMark c := by
  rw [Atom.isQuote, Bool.or_eq_true, decide_eq_true_eq, decide_eq_true_eq]
  exact Iff.rfl

theorem isSeparator_iff {c : Char} : Atom.isSeparator c = true ↔ c = ':' ∨ c = '=' := by
  rw [Atom.isSeparator, Bool.or_eq_true, decide_eq_true_eq, decide_eq_true_eq]

theorem unquoted_iff {cs : List Char} :
    (∀ c ∈ cs, (!Atom.isQuote c) = true) ↔ Unquoted cs := by
  simp only [Bool.not_eq_true', ← Bool.not_eq_true, isQuote_iff, IsQuotationMark, Unquoted]
  constructor
  · intro h
    exact ⟨fun hm => h _ hm (.inl rfl), fun hm => h _ hm (.inr rfl)⟩
  · rintro ⟨hsingle, hdouble⟩ c hm (rfl | rfl)
    · exact hsingle hm
    · exact hdouble hm

theorem isHostChar_iff {c : Char} :
    Atom.isHostChar c = true ↔ c ≠ '/' ∧ isBlank c = false ∧ ¬ IsQuotationMark c := by
  simp only [Atom.isHostChar, Bool.not_eq_true', Bool.or_eq_false_iff, decide_eq_false_iff_not,
    ← isQuote_iff, Bool.not_eq_true, and_assoc, ne_eq]

/-! ### Describing the phrases -/

/-- A sequence of atoms behind a word describes the word and what follows it. -/
theorem describes_word_append (word : String) (atoms : List Atom) {m : List Char} :
    Describes (Atom.word word ++ atoms) m ↔ ∃ rest, m = word.toList ++ rest ∧ Describes atoms rest := by
  rw [Atom.word]
  generalize word.toList = letters
  induction letters generalizing m with
  | nil => simp
  | cons letter letters ih =>
    simp only [List.map_cons, List.cons_append, Describes, ih, decide_eq_true_eq]
    constructor
    · rintro ⟨c, _, rfl, rfl, rest, rfl, hrest⟩
      exact ⟨rest, rfl, hrest⟩
    · rintro ⟨rest, rfl, hrest⟩
      exact ⟨letter, _, rfl, rfl, rest, rfl, hrest⟩

theorem describes_word (word : String) {m : List Char} :
    Describes (Atom.word word) m ↔ m = word.toList := by
  have h := describes_word_append word [] (m := m)
  rw [List.append_nil] at h
  rw [h]
  simp [Describes]

theorem describes_assignment (word : String) (least : ℕ) {m : List Char} :
    Describes (Atom.assignment word least) m ↔ IsAssignment word least m := by
  rw [Atom.assignment, describes_word_append]
  simp only [Describes, Atom.blanks, isSeparator_iff, isQuote_iff, unquoted_iff, Nat.zero_le, true_and]
  constructor
  · rintro ⟨_, rfl, s₁, _, rfl, hs₁, sign, _, rfl, hsign, s₂, _, rfl, hs₂, q₁, _, rfl, hq₁, v, _, rfl,
      hlong, hv, q₂, _, rfl, hq₂, rfl⟩
    exact ⟨s₁, sign, s₂, q₁, v, q₂, by simp, hs₁, hsign, hs₂, hq₁, hv, hlong, hq₂⟩
  · rintro ⟨s₁, sign, s₂, q₁, v, q₂, rfl, hs₁, hsign, hs₂, hq₁, hv, hlong, hq₂⟩
    exact ⟨_, by simp, s₁, _, rfl, hs₁, sign, _, rfl, hsign, s₂, _, rfl, hs₂, q₁, _, rfl, hq₁, v, _, rfl,
      hlong, hv, q₂, _, rfl, hq₂, rfl⟩

theorem describes_call (word : String) {m : List Char} :
    Describes (Atom.call word) m ↔ IsCall word m := by
  rw [Atom.call, describes_word_append]
  simp only [Describes, Atom.blanks, Nat.zero_le, true_and, decide_eq_true_eq]
  constructor
  · rintro ⟨_, rfl, s, _, rfl, hs, _, _, rfl, rfl, rfl⟩
    exact ⟨s, by simp, hs⟩
  · rintro ⟨s, rfl, hs⟩
    exact ⟨_, by simp, s, _, rfl, hs, '(', _, rfl, rfl, rfl⟩

theorem describes_onionAddress (scheme : String) {m : List Char} :
    Describes (Atom.onionAddress scheme) m ↔
      ∃ host, m = scheme.toList ++ "://".toList ++ host ++ ".onion".toList ∧ host ≠ [] ∧
        ∀ c ∈ host, c ≠ '/' ∧ isBlank c = false ∧ ¬ IsQuotationMark c := by
  rw [Atom.onionAddress, describes_word_append, String.toList_append]
  simp only [Describes, describes_word, isHostChar_iff, Nat.one_le_iff_ne_zero, ne_eq,
    List.length_eq_zero_iff]
  constructor
  · rintro ⟨_, rfl, host, _, rfl, hne, hhost, rfl⟩
    exact ⟨host, by simp, hne, hhost⟩
  · rintro ⟨host, rfl, hne, hhost⟩
    exact ⟨_, by simp, host, _, rfl, hne, hhost, rfl⟩

/-! ### The rules -/

theorem nodup_names_structuralRules : (structuralRules.map (·.name)).Nodup := by
  simp [structuralRules, credentialRule, executionRule]

variable {t : List Char}

theorem mem_satisfiedRules_iff (r : StructuralRule) (h : r ∈ structuralRules) :
    r.name ∈ satisfiedRules t ↔ r.pattern.search t = true := by
  rw [satisfiedRules, List.mem_map]
  constructor
  · rintro ⟨other, hother, hname⟩
    obtain ⟨hmem, hsearch⟩ := List.mem_filter.mp hother
    rwa [List.inj_on_of_nodup_map nodup_names_structuralRules hmem h hname] at hsearch
  · intro hsearch
    exact ⟨r, List.mem_filter.mpr ⟨h, hsearch⟩, rfl⟩

/-- A rule that looks for one sequence of atoms, wherever it stands. -/
theorem mem_satisfiedRules_iff_of_single (r : StructuralRule) (h : r ∈ structuralRules)
    {atoms : List Atom} (hp : r.pattern = ⟨false, [atoms]⟩) :
    r.name ∈ satisfiedRules t ↔ ∃ m, m <:+: t ∧ Describes atoms m := by
  rw [mem_satisfiedRules_iff r h, hp, Pattern.search_iff_of_free rfl]
  simp only [List.mem_singleton, exists_eq_left]

/-- The beginning of a call of `shell_exec` ends in one of `exec`. -/
theorem exec_of_shellExec (h : "shell_exec_call" ∈ satisfiedRules t) :
    "exec_call" ∈ satisfiedRules t := by
  obtain ⟨m, hm, hcall⟩ := (mem_satisfiedRules_iff_of_single
    (executionRule "shell_exec_call" ⟨false, [Atom.call "shell_exec"]⟩) (by simp [structuralRules])
    rfl).mp h
  obtain ⟨s, rfl, hs⟩ := (describes_call _).mp hcall
  have hword : "shell_exec".toList = "shell_".toList ++ "exec".toList := rfl
  refine (mem_satisfiedRules_iff_of_single
    (executionRule "exec_call" ⟨false, [Atom.call "exec"]⟩) (by simp [structuralRules]) rfl).mpr
    ⟨"exec".toList ++ s ++ ['('], List.IsInfix.trans ?_ hm, (describes_call _).mpr ⟨s, rfl, hs⟩⟩
  rw [hword]
  exact ⟨"shell_".toList, [], by simp⟩

/-- What a detector of a built catalog tells of a rule. -/
theorem Detector.exists_rule_inspect_iff (keywords : List String)
    (overrides : List (String × Severity)) (maxFileBytes : Int) (stamp : Stamp) (path name : String) :
    (∃ f ∈ (ofCatalog (.build keywords overrides) maxFileBytes).inspect stamp path t,
      f.rule = some name) ↔ name ∈ satisfiedRules t := by
  simp only [mem_inspect_iff, catalog_ofCatalog_build, Catalog.structuralRules_build, satisfiedRules, List.mem_map,
    List.mem_filter]
  constructor
  · rintro ⟨f, ⟨rule, -, -, rfl⟩ | ⟨rule, hmem, hsearch, rfl⟩, hname⟩
    · -- the finding of a keyword names no rule
      cases hname
    · exact ⟨rule, ⟨hmem, hsearch⟩, Option.some.inj hname⟩
  · rintro ⟨rule, ⟨hmem, hsearch⟩, rfl⟩
    exact ⟨_, .inr ⟨rule, hmem, hsearch, rfl⟩, rfl⟩

/-! ### The main theorem -/

/-- **Rules as they are declared.**  What a text tells of the rules that it satisfies: each of them by the
phrases that stand in it, and detectors of built catalogs report the rules that are satisfied. -/
structure ReadAsDeclared (t : List Char) : Prop where
  password : "hardcoded_password" ∈ satisfiedRules t ↔ ∃ m, m <:+: t ∧ IsAssignment "password" 8 m
  secret : "hardcoded_secret" ∈ satisfiedRules t ↔ ∃ m, m <:+: t ∧ IsAssignment "secret" 16 m
  token : "hardcoded_token" ∈ satisfiedRules t ↔ ∃ m, m <:+: t ∧ IsAssignment "token" 20 m
  key : "hardcoded_api_key" ∈ satisfiedRules t ↔ ∃ u m w word, t = u ++ m ++ w ∧
    word ∈ ["key", "apikey", "api_key", "api-key"] ∧ IsAssignment word 20 m ∧ OutsideWord u
  onion : "onion_url" ∈ satisfiedRules t ↔ ∃ m, m <:+: t ∧ IsOnionAddress m
  eval : "eval_call" ∈ satisfiedRules t ↔ ∃ m, m <:+: t ∧ IsCall "eval" m
  exec : "exec_call" ∈ satisfiedRules t ↔ ∃ m, m <:+: t ∧ IsCall "exec" m
  shellExec : "shell_exec_call" ∈ satisfiedRules t ↔ ∃ m, m <:+: t ∧ IsCall "shell_exec" m
  within : "shell_exec_call" ∈ satisfiedRules t → "exec_call" ∈ satisfiedRules t
  reported : ∀ keywords overrides maxFileBytes stamp path name,
    (∃ f ∈ (Detector.ofCatalog (.build keywords overrides) maxFileBytes).inspect stamp path t,
      f.rule = some name) ↔ name ∈ satisfiedRules t

/-- A rule about an assignment. -/
theorem mem_satisfiedRules_iff_isAssignment (name word : String) (least : ℕ)
    (h : credentialRule name ⟨false, [Atom.assignment word least]⟩ ∈ structuralRules) :
    name ∈ satisfiedRules t ↔ ∃ m, m <:+: t ∧ IsAssignment word least m := by
  have hrule := mem_satisfiedRules_iff_of_single (t := t) _ h rfl
  simp only [describes_assignment] at hrule
  exact hrule

/-- A rule about a call. -/
theorem mem_satisfiedRules_iff_isCall (name word : String)
    (h : executionRule name ⟨false, [Atom.call word]⟩ ∈ structuralRules) :
    name ∈ satisfiedRules t ↔ ∃ m, m <:+: t ∧ IsCall word m := by
  have hrule := mem_satisfiedRules_iff_of_single (t := t) _ h rfl
  simp only [describes_call] at hrule
  exact hrule

/-- The rule about keys, which are words of their own. -/
theorem mem_satisfiedRules_iff_isKey : "hardcoded_api_key" ∈ satisfiedRules t ↔
    ∃ u m w word, t = u ++ m ++ w ∧ word ∈ ["key", "apikey", "api_key", "api-key"] ∧
      IsAssignment word 20 m ∧ OutsideWord u := by
  have hrule := mem_satisfiedRules_iff (t := t) (credentialRule "hardcoded_api_key"
    ⟨true, ["key", "apikey", "api_key", "api-key"].map (Atom.assignment · 20)⟩)
    (by simp [structuralRules])
  refine hrule.trans (Pattern.search_iff.trans ?_)
  constructor
  · rintro ⟨u, m, w, rfl, ⟨atoms, hatoms, hm⟩, hword⟩
    obtain ⟨word, hmem, rfl⟩ := List.mem_map.mp hatoms
    exact ⟨u, m, w, word, rfl, hmem, (describes_assignment _ _).mp hm, hword rfl⟩
  · rintro ⟨u, m, w, word, rfl, hmem, hm, hword⟩
    exact ⟨u, m, w, rfl, ⟨_, List.mem_map_of_mem hmem, (describes_assignment _ _).mpr hm⟩,
      fun _ => hword⟩

/-- The rule about addresses of hidden services. -/
theorem mem_satisfiedRules_iff_isOnionAddress :
    "onion_url" ∈ satisfiedRules t ↔ ∃ m, m <:+: t ∧ IsOnionAddress m := by
  have hrule := mem_satisfiedRules_iff (t := t)
    (executionRule "onion_url" ⟨false, [Atom.onionAddress "http", Atom.onionAddress "https"]⟩)
    (by simp [structuralRules])
  refine hrule.trans ((Pattern.search_iff_of_free rfl).trans ?_)
  constructor
  · rintro ⟨m, hinfix, atoms, hmem, hm⟩
    rcases List.mem_pair.mp hmem with rfl | rfl
    · obtain ⟨host, hhost⟩ := (describes_onionAddress _).mp hm
      exact ⟨m, hinfix, "http", host, .inl rfl, hhost⟩
    · obtain ⟨host, hhost⟩ := (describes_onionAddress _).mp hm
      exact ⟨m, hinfix, "https", host, .inr rfl, hhost⟩
  · rintro ⟨m, hinfix, scheme, host, rfl | rfl, hhost⟩
    · exact ⟨m, hinfix, _, List.mem_pair.mpr (.inl rfl), (describes_onionAddress _).mpr ⟨host, hhost⟩⟩
    · exact ⟨m, hinfix, _, List.mem_pair.mpr (.inr rfl), (describes_onionAddress _).mpr ⟨host, hhost⟩⟩

/-- **The structural rules match what they declare.**  A text satisfies a rule if and only if one of the
phrases of the rule stands in it. -/
theorem readAsDeclared (t : List Char) : ReadAsDeclared t where
  password := mem_satisfiedRules_iff_isAssignment _ _ _ (by simp [structuralRules])
  secret := mem_satisfiedRules_iff_isAssignment _ _ _ (by simp [structuralRules])
  token := mem_satisfiedRules_iff_isAssignment _ _ _ (by simp [structuralRules])
  key := mem_satisfiedRules_iff_isKey
  onion := mem_satisfiedRules_iff_isOnionAddress
  eval := mem_satisfiedRules_iff_isCall _ _ (by simp [structuralRules])
  exec := mem_satisfiedRules_iff_isCall _ _ (by simp [structuralRules])
  shellExec := mem_satisfiedRules_iff_isCall _ _ (by simp [structuralRules])
  within := exec_of_shellExec
  reported := fun _ _ _ _ _ _ => Detector.exists_rule_inspect_iff _ _ _ _ _ _

end SourceWatch
