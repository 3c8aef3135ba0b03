import Mathlib
import Rulebook.Proofs.Pattern.Language
import Rulebook.Proofs.Predicate.Texts

/-!
# Grammars of shapes

The texts that the checks of shape accept, said without the patterns. For an address of electronic
mail any dot behind the at sign will do that has characters on both sides, so the pattern may have
to go back from the last dot to an earlier one.

* `Shape.holds_iff`: a text has a shape iff it is not blank and a word of the shape's language.
* `Shape.IsMailAddress`, `Shape.email_grammar`: the addresses of electronic mail.
* `Predicate.shapes_grammar`: the texts of each shape.
-/

namespace Rulebook

namespace Shape

open Pattern

/-- A text has a shape iff it is not blank and a word of the language of the shape. -/
theorem holds_iff {shape : Node} {L : Language Char} (h : shape.Reads L) (s : String) :
    holds shape s = true ↔ (∃ c ∈ s.toList, isBlank c = false) ∧ s.toList ∈ L := by
  rw [holds, Bool.and_eq_true, fullMatch_iff h]
  simp [isBlankText]

/-- Where the characters of a shape are not blanks, it is enough that there is one. -/
theorem holds_some_iff {negated : Bool} {items : List SetItem}
    (hitems : ∀ c, inSet .exact negated items c = true → isBlank c = false) (s : String) :
    holds (some_ negated items) s = true ↔
      s ≠ "" ∧ ∀ c ∈ s.toList, inSet .exact negated items c = true := by
  rw [some_, holds_iff (reads_repeat 1 .exact negated items)]
  constructor
  · rintro ⟨-, hlength, hall⟩
    refine ⟨?_, hall⟩
    rintro rfl
    simp at hlength
  · rintro ⟨hne, hall⟩
    have hne : s.toList ≠ [] := by simpa using hne
    obtain ⟨c, hc⟩ := List.exists_mem_of_ne_nil _ hne
    exact ⟨⟨c, hc, hitems c (hall c hc)⟩, List.length_pos_iff.mpr hne, hall⟩

/-! ## Characters -/

theorem accepts_span (a b c : Char) : (span a b).accepts .exact c = true ↔ a ≤ c ∧ c ≤ b := by
  show (decide (a.toNat ≤ c.toNat) && decide (c.toNat ≤ b.toNat)) = true ↔ _
  rw [Bool.and_eq_true, decide_eq_true_iff, decide_eq_true_iff]
  exact Iff.rfl

theorem accepts_char (c d : Char) : (SetItem.char d).accepts .exact c = true ↔ c = d := by
  simp [SetItem.accepts, CaseRule.same, CaseRule.twins, CaseRule.normalize]

theorem accepts_blanks (c : Char) : blanks.accepts .exact c = isBlank c := by
  simp [blanks, SetItem.accepts, Category.contains, CaseRule.normalize]

theorem any_letters (c : Char) :
    letters.any (SetItem.accepts .exact c) = true ↔ c.isAlpha = true := by
  simp [letters, accepts_span, Char.isAlpha, Char.isUpper, Char.isLower, Char.le_def, or_comm]

/-- Letters, digits and the underscore are no blanks. -/
theorem isBlank_of_isAlphanum {c : Char} (h : c.isAlphanum = true ∨ c = '_') :
    isBlank c = false := by
  rcases h with h | rfl
  · simp only [Char.isAlphanum, Char.isAlpha, Char.isUpper, Char.isLower, Char.isDigit,
      Bool.or_eq_true, Bool.and_eq_true, decide_eq_true_eq] at h
    change (65 ≤ c.toNat ∧ c.toNat ≤ 90 ∨ 97 ≤ c.toNat ∧ c.toNat ≤ 122) ∨
      48 ≤ c.toNat ∧ c.toNat ≤ 57 at h
    simp only [isBlank, Bool.or_eq_false_iff, Bool.and_eq_false_iff, decide_eq_false_iff_not,
      beq_eq_false_iff_ne]
    omega
  · decide

/-! ## Addresses of electronic mail -/

/-- An address of electronic mail has no blanks, one at sign with something in front of it, and
behind it a dot that is neither the first character there nor the last. -/
structure IsMailAddress (cs : List Char) : Prop where
  not_blank : ∀ c ∈ cs, isBlank c = false
  one_at : cs.count '@' = 1
  parts : ∃ user domain, cs = user ++ '@' :: domain ∧ user ≠ [] ∧
    ∃ i, 0 < i ∧ i + 1 < domain.length ∧ domain[i]? = some '.'

/-- A part of an address: characters that are neither blanks nor the at sign. -/
def IsMailWord (w : List Char) : Prop := w ≠ [] ∧ ∀ c ∈ w, c ≠ '@' ∧ isBlank c = false

/-- The language of the parts of an address. -/
def mailWords : Language Char := repeats 1 (inSet .exact true [.char '@', blanks])

theorem mem_mailWords {w : List Char} : w ∈ mailWords ↔ IsMailWord w := by
  have hset : ∀ c, inSet .exact true [.char '@', blanks] c = true ↔
      c ≠ '@' ∧ isBlank c = false := by
    intro c
    have hchar : (SetItem.char '@').accepts .exact c = decide (c = '@') := by
      rw [Bool.eq_iff_iff, accepts_char, decide_eq_true_iff]
    simp [inSet, hchar, accepts_blanks]
  show 1 ≤ w.length ∧ (∀ c ∈ w, _) ↔ _
  rw [Nat.one_le_iff_ne_zero, ne_eq, List.length_eq_zero_iff]
  simp only [hset]
  exact Iff.rfl

theorem reads_email :
    email.Reads (mailWords * ({['@']} * (mailWords * ({['.']} * (mailWords * 1))))) :=
  have word := reads_repeat 1 .exact true [.char '@', blanks]
  reads_seq_cons word <| reads_seq_cons (reads_char '@') <| reads_seq_cons word <|
    reads_seq_cons (reads_char '.') <| reads_seq_cons word reads_seq_nil

/-- The words of the pattern: three parts with an at sign and a dot between them. -/
theorem mem_emailWords {cs : List Char} :
    cs ∈ mailWords * ({['@']} * (mailWords * ({['.']} * (mailWords * 1)))) ↔
      ∃ user host label, IsMailWord user ∧ IsMailWord host ∧ IsMailWord label ∧
        cs = user ++ '@' :: (host ++ '.' :: label) := by
  simp only [Language.mem_mul, Language.mem_one, mem_mailWords]
  constructor
  · rintro ⟨user, huser, _, ⟨_, rfl, _, ⟨host, hhost, _, ⟨_, rfl, _, ⟨label, hlabel, _, rfl, rfl⟩,
      rfl⟩, rfl⟩, rfl⟩, rfl⟩
    exact ⟨user, host, label, huser, hhost, hlabel, by simp⟩
  · rintro ⟨user, host, label, huser, hhost, hlabel, rfl⟩
    exact ⟨user, huser, _, ⟨_, rfl, _, ⟨host, hhost, _, ⟨_, rfl, _, ⟨label, hlabel, [], rfl, rfl⟩,
      rfl⟩, rfl⟩, rfl⟩, by simp⟩

theorem isMailAddress_of_words {user host label : List Char} (huser : IsMailWord user)
    (hhost : IsMailWord host) (hlabel : IsMailWord label) :
    IsMailAddress (user ++ '@' :: (host ++ '.' :: label)) := by
  have hnoAt : ∀ {w}, IsMailWord w → w.count '@' = 0 := fun hw =>
    List.count_eq_zero.mpr fun hmem => (hw.2 _ hmem).1 rfl
  refine ⟨?_, ?_, user, host ++ '.' :: label, rfl, huser.1, host.length, ?_, ?_, ?_⟩
  · intro c hc
    simp only [List.mem_append, List.mem_cons] at hc
    rcases hc with hc | rfl | hc | rfl | hc
    · exact (huser.2 c hc).2
    · decide
    · exact (hhost.2 c hc).2
    · decide
    · exact (hlabel.2 c hc).2
  · simp [hnoAt huser, hnoAt hhost, hnoAt hlabel]
  · exact List.length_pos_iff.mpr hhost.1
  · have hlength := List.length_pos_iff.mpr hlabel.1
    rw [List.length_append, List.length_cons]
    omega
  · rw [List.getElem?_append_right (Nat.le_refl _), Nat.sub_self]
    rfl

/-- In an address the dot splits what stands behind the at sign. -/
theorem IsMailAddress.exists_words {cs : List Char} (h : IsMailAddress cs) :
    ∃ user host label, IsMailWord user ∧ IsMailWord host ∧ IsMailWord label ∧
      cs = user ++ '@' :: (host ++ '.' :: label) := by
  obtain ⟨hblank, hcount, user, domain, rfl, huser, i, hpos, hlast, hdot⟩ := h
  obtain ⟨hi, hdot⟩ := List.getElem?_eq_some_iff.mp hdot
  have hdomain : domain = domain.take i ++ '.' :: domain.drop (i + 1) := by
    rw [← hdot, ← List.drop_eq_getElem_cons hi, List.take_append_drop]
  -- The one at sign is the one between the parts.
  have hnoAt : '@' ∉ user ∧ '@' ∉ domain := by
    rw [List.count_append, List.count_cons_self] at hcount
    exact ⟨List.count_eq_zero.mp (by omega), List.count_eq_zero.mp (by omega)⟩
  have hword : ∀ w, w ≠ [] → (∀ c ∈ w, c ∈ user ∨ c ∈ domain) → IsMailWord w := by
    intro w hne hw
    refine ⟨hne, fun c hc => ⟨?_, hblank c ?_⟩⟩
    · rintro rfl
      exact (hw _ hc).elim hnoAt.1 hnoAt.2
    · rw [List.mem_append, List.mem_cons]
      exact (hw c hc).imp_right .inr
  refine ⟨user, domain.take i, domain.drop (i + 1), hword user huser fun c hc => .inl hc,
    hword _ ?_ fun c hc => .inr (List.mem_of_mem_take hc),
    hword _ ?_ fun c hc => .inr (List.mem_of_mem_drop hc), congrArg _ (congrArg _ hdomain)⟩
  · rw [ne_eq, List.take_eq_nil_iff]
    rintro (h | rfl)
    · omega
    · cases hi
  · rw [ne_eq, List.drop_eq_nil_iff]
    omega

/-- The pattern of addresses accepts those of the grammar and no other text. -/
theorem holds_email_iff (s : String) : holds email s = true ↔ IsMailAddress s.toList := by
  rw [holds_iff reads_email, mem_emailWords]
  constructor
  · rintro ⟨-, user, host, label, huser, hhost, hlabel, hs⟩
    rw [hs]
    exact isMailAddress_of_words huser hhost hlabel
  · intro h
    obtain ⟨user, host, label, huser, hrest⟩ := h.exists_words
    obtain ⟨c, hc⟩ := List.exists_mem_of_ne_nil _ huser.1
    refine ⟨⟨c, ?_, (huser.2 c hc).2⟩, user, host, label, huser, hrest⟩
    rw [hrest.2.2]
    exact List.mem_append_left _ hc

/-! ## Letters and digits -/

theorem holds_numeric_iff (s : String) :
    holds numeric s = true ↔ s ≠ "" ∧ ∀ c ∈ s.toList, c.isDigit = true := by
  have hset : ∀ c, inSet .exact false [span '0' '9'] c = true ↔ c.isDigit = true := by
    intro c
    simp [inSet, accepts_span, Char.isDigit, Char.le_def]
  rw [numeric, holds_some_iff fun c hc => isBlank_of_isAlphanum (.inl ?_)]
  · simp only [hset]
  · rw [Char.isAlphanum, (hset c).mp hc, Bool.or_true]

theorem holds_alphanumeric_iff (s : String) :
    holds alphanumeric s = true ↔ s ≠ "" ∧ ∀ c ∈ s.toList, c.isAlphanum = true ∨ c = '_' := by
  have hset : ∀ c, inSet .exact false (letters ++ [span '0' '9', .char '_']) c = true ↔
      c.isAlphanum = true ∨ c = '_' := by
    intro c
    rw [inSet, Bool.bne_false, List.any_append, Bool.or_eq_true, any_letters]
    simp [accepts_span, accepts_char, Char.isAlphanum, Char.isDigit, Char.le_def, or_assoc]
  rw [alphanumeric, holds_some_iff fun c hc => isBlank_of_isAlphanum ((hset c).mp hc)]
  simp only [hset]

/-- The letters with an accent and the ñ of Spanish. -/
def spanishLetters : List Char := ['á', 'é', 'í', 'ó', 'ú', 'Á', 'É', 'Í', 'Ó', 'Ú', 'ñ', 'Ñ']

theorem holds_alphabetic_iff (s : String) :
    holds alphabetic s = true ↔
      (∀ c ∈ s.toList, c.isAlpha = true ∨ c ∈ spanishLetters ∨ isBlank c = true) ∧
        ∃ c ∈ s.toList, isBlank c = false := by
  have hset : ∀ c, inSet .exact false (letters ++ spanish ++ [blanks]) c = true ↔
      c.isAlpha = true ∨ c ∈ spanishLetters ∨ isBlank c = true := by
    intro c
    have hspanish : spanish.any (SetItem.accepts .exact c) = true ↔ c ∈ spanishLetters := by
      simp [spanish, spanishLetters, accepts_char]
    rw [inSet, Bool.bne_false, List.any_append, List.any_append, Bool.or_eq_true, Bool.or_eq_true,
      any_letters, hspanish, or_assoc]
    simp [accepts_blanks]
  rw [alphabetic, some_, holds_iff (reads_repeat 1 .exact _ _), and_comm]
  constructor
  · rintro ⟨⟨-, hall⟩, hsome⟩
    exact ⟨fun c hc => (hset c).mp (hall c hc), hsome⟩
  · rintro ⟨hall, c, hc, hblank⟩
    exact ⟨⟨List.length_pos_of_mem hc, fun c hc => (hset c).mpr (hall c hc)⟩, c, hc, hblank⟩

end Shape

namespace Predicate

variable {v : Value} {t : String}

theorem hasShape_answers (hv : v ≠ .none) (ht : v.text = .ok t) {shape : Pattern.Node} {P : Prop}
    (hshape : Shape.holds shape t = true ↔ P) : Answers (hasShape shape v) P := by
  refine ⟨Shape.holds shape t, ?_, hshape⟩
  rw [hasShape, ifPresent_of_ne hv, ht]
  rfl

/-- The text of an integer, where it has one, is made of digits iff it has no sign. -/
theorem isDigit_text_int_iff {n : Int} (ht : (Value.int n).text = .ok t) :
    (t ≠ "" ∧ ∀ c ∈ t.toList, c.isDigit = true) ↔ 0 ≤ n := by
  have htext : t = toString n := by
    change intText n = .ok t at ht
    rw [intText] at ht
    split at ht
    · exact (Except.ok.inj ht).symm
    · cases ht
  rw [htext, Int.toString_eq_repr, Int.repr_eq_if]
  by_cases hn : 0 ≤ n
  · rw [if_pos hn, iff_true_right hn]
    constructor
    · intro hempty
      have := congrArg String.toList hempty
      rw [Nat.toList_repr] at this
      exact Nat.toDigits_ne_nil this
    · intro c hc
      rw [Nat.toList_repr] at hc
      exact Nat.isDigit_of_mem_toDigits (by decide) (Nat.le_refl 10) hc
  · rw [if_neg hn, iff_false_right hn]
    rintro ⟨-, hall⟩
    have hsign := hall '-' (by rw [String.toList_append]; exact List.mem_append_left _ (by decide))
    cases hsign

/-- The checks of shape answer for every value with a text, and accept the texts of a grammar. An
address of electronic mail has no blanks, one at sign with something in front of it, and behind it
a dot within what stands there. The other shapes are made of letters, digits and underscores, all of
ASCII text; of such digits, so of the integers those without a sign; and of letters of ASCII text or
Spanish and blanks, not blanks alone. -/
theorem shapes_grammar (hv : v ≠ .none) (ht : v.text = .ok t) :
    Answers (isEmail v) (Shape.IsMailAddress t.toList) ∧
    Answers (isAlphanumeric v) (t ≠ "" ∧ ∀ c ∈ t.toList, c.isAlphanum = true ∨ c = '_') ∧
    Answers (isNumeric v) (t ≠ "" ∧ ∀ c ∈ t.toList, c.isDigit = true) ∧
    (∀ n, v = .int n → Answers (isNumeric v) (0 ≤ n)) ∧
    Answers (isAlpha v)
      ((∀ c ∈ t.toList, c.isAlpha = true ∨ c ∈ Shape.spanishLetters ∨ isBlank c = true) ∧
        ∃ c ∈ t.toList, isBlank c = false) := by
  refine ⟨hasShape_answers hv ht (Shape.holds_email_iff t),
    hasShape_answers hv ht (Shape.holds_alphanumeric_iff t),
    hasShape_answers hv ht (Shape.holds_numeric_iff t), ?_,
    hasShape_answers hv ht (Shape.holds_alphabetic_iff t)⟩
  rintro n rfl
  exact hasShape_answers hv ht ((Shape.holds_numeric_iff t).trans (isDigit_text_int_iff ht))

/-- Behind the at sign the first dot and the last one may stand at the ends, if one between them does
not. The text of a truth value is a word. -/
theorem shapes_grammar_sample :
    Shape.IsMailAddress "ana@.a.b.".toList ∧ isEmail (.str "ana@.a.b.") = .ok true ∧
      (Value.bool true).text = .ok "True" ∧ isAlpha (.bool true) = .ok true := by
  have hblank : "ana@.a.b.".toList.all (!isBlank ·) = true := rfl
  have hmail : Shape.IsMailAddress "ana@.a.b.".toList :=
    ⟨by simpa only [List.all_eq_true, Bool.not_eq_true'] using hblank, rfl, ['a', 'n', 'a'],
      ['.', 'a', '.', 'b', '.'], rfl, List.cons_ne_nil _ _, 2, by decide, by decide, rfl⟩
  have hletters : "True".toList.all Char.isAlpha = true := rfl
  obtain ⟨hemail, -⟩ := shapes_grammar (v := .str "ana@.a.b.") (by simp) rfl
  obtain ⟨-, -, -, -, halpha⟩ := shapes_grammar (v := .bool true) (by simp) rfl
  exact ⟨hmail, hemail.passes_iff.mpr hmail, rfl, halpha.passes_iff.mpr
    ⟨fun c hc => .inl (List.all_eq_true.mp hletters c hc), 'T', List.mem_cons_self, rfl⟩⟩

end Predicate

end Rulebook
