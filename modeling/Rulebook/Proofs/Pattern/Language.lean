import Mathlib.Computability.Language
import Rulebook.Pattern.Match

/-!
# The language of a pattern

Since a match goes back wherever the rest does not fit, it tries all ways in which the parts of a
pattern can share out the text. Whether one is found does not depend on which is tried first: it is
whether the text ahead starts with a word of the language of the part, and the rest matches behind
that word.

* `Node.Reads`: a part matches by the words of a language.
* `reads_char`, `reads_repeat`, `reads_seq_cons`: the languages of single characters, of
  repeated ones, and of parts one after the other.
* `fullMatch_iff`: a pattern matches a whole text iff the text is a word of its language.
-/

namespace Rulebook

namespace Pattern

theorem append_prefix_iff {α : Type} (u v l : List α) :
    u ++ v <+: l ↔ u <+: l ∧ v <+: l.drop u.length := by
  constructor
  · rintro ⟨rest, rfl⟩
    refine ⟨⟨v ++ rest, by rw [List.append_assoc]⟩, rest, ?_⟩
    rw [List.append_assoc, List.drop_left]
  · rintro ⟨⟨front, rfl⟩, hv⟩
    rw [List.drop_left] at hv
    exact (List.prefix_append_right_inj u).mpr hv

namespace Place

/-- The place behind a word that comes next. -/
def past (p : Place) (w : List Char) : Place :=
  { p with
    before := w.reverse ++ p.before
    rest := p.rest.drop w.length
    position := p.position + w.length }

@[simp] theorem past_rest (p : Place) (w : List Char) : (p.past w).rest = p.rest.drop w.length := rfl

@[simp] theorem past_position (p : Place) (w : List Char) :
    (p.past w).position = p.position + w.length := rfl

@[simp] theorem past_nil (p : Place) : p.past [] = p := rfl

theorem past_past (p : Place) (u v : List Char) : (p.past u).past v = p.past (u ++ v) := by
  simp [past, Nat.add_assoc]

end Place

/-- One character that passes a test, and then what follows. -/
def one (test : Char → Bool) (p : Place) (next : Next) : Option Place := (p.step test).bind next

theorem one_isSome_iff (test : Char → Bool) (p : Place) (next : Next) :
    (one test p next).isSome ↔
      ∃ c, test c = true ∧ [c] <+: p.rest ∧ (next (p.past [c])).isSome := by
  unfold one Place.step Place.past
  cases p.rest with
  | nil => simp
  | cons c rest => cases htest : test c <;> simp [List.cons_prefix_cons, htest]

/-- A part finds a match iff the text ahead starts with a word of the language, and what follows
matches behind that word. -/
def Node.Reads (n : Node) (L : Language Char) : Prop :=
  ∀ p next, (n.run p next).isSome ↔ ∃ w ∈ L, w <+: p.rest ∧ (next (p.past w)).isSome

/-! ## Single characters -/

/-- Whether a set of characters, or all but it, has a character. -/
def inSet (r : CaseRule) (negated : Bool) (items : List SetItem) (c : Char) : Bool :=
  items.any (SetItem.accepts r c) != negated

theorem reads_char (c : Char) : (Node.char .exact c).Reads {[c]} := by
  intro p next
  refine (one_isSome_iff (CaseRule.exact.same c) p next).trans ?_
  constructor
  · rintro ⟨d, hd, hrest, hnext⟩
    obtain rfl : d = c := by simpa [CaseRule.same, CaseRule.twins, CaseRule.normalize] using hd
    exact ⟨[d], rfl, hrest, hnext⟩
  · rintro ⟨w, rfl, hrest, hnext⟩
    exact ⟨c, by simp [CaseRule.same, CaseRule.twins, CaseRule.normalize], hrest, hnext⟩

/-! ## Repetition -/

/-- The words of at least so many characters that all pass a test. -/
def repeats (least : Nat) (test : Char → Bool) : Language Char :=
  {w | least ≤ w.length ∧ ∀ c ∈ w, test c = true}

theorem loop_succ (body : Place → Next → Option Place) (next : Next) (rounds least : Nat)
    (last : Option Nat) (p : Place) :
    loop true body next (rounds + 1) (least + 1) none last p =
      body p (loop true body next rounds least none (some p.position)) := rfl

/-- Once no more rounds are needed, either one is made or what follows matches at once. -/
theorem loop_zero_isSome_iff (body : Place → Next → Option Place) (next : Next) (rounds : Nat)
    {last : Option Nat} {p : Place} (hlast : last ≠ some p.position) :
    (loop true body next (rounds + 1) 0 none last p).isSome ↔
      (body p (loop true body next rounds 0 none (some p.position))).isSome ∨
        (next p).isSome := by
  have hgoes : ((none : Option Nat) == some 0 || last == some p.position) = false := by
    simpa using hlast
  rw [loop, if_neg (Nat.lt_irrefl 0), Option.map_none, hgoes, if_neg Bool.false_ne_true, if_pos rfl]
  cases body p (loop true body next rounds 0 none (some p.position)) <;> simp

/-- One more round reads the first character of a word, if the rounds behind it read the others. -/
theorem round_isSome_iff {test : Char → Bool} {least : Nat} {p : Place} {next again : Next}
    (h : ∀ c, [c] <+: p.rest → ((again (p.past [c])).isSome ↔
      ∃ w ∈ repeats (least - 1) test, w <+: (p.past [c]).rest ∧
        (next ((p.past [c]).past w)).isSome)) :
    (one test p again).isSome ↔
      ∃ w ∈ repeats least test, w ≠ [] ∧ w <+: p.rest ∧ (next (p.past w)).isSome := by
  rw [one_isSome_iff]
  constructor
  · rintro ⟨c, hc, hrest, hagain⟩
    obtain ⟨w, ⟨hleast, hw⟩, hpast, hnext⟩ := (h c hrest).mp hagain
    rw [Place.past_past] at hnext
    refine ⟨c :: w, ⟨?_, ?_⟩, List.cons_ne_nil c w, ?_, hnext⟩
    · rw [List.length_cons]
      omega
    · exact List.forall_mem_cons.mpr ⟨hc, hw⟩
    · exact (append_prefix_iff [c] w p.rest).mpr ⟨hrest, hpast⟩
  · rintro ⟨w, ⟨hleast, hw⟩, hne, hrest, hnext⟩
    obtain ⟨c, w, rfl⟩ := List.exists_cons_of_ne_nil hne
    obtain ⟨hc, hw⟩ := List.forall_mem_cons.mp hw
    obtain ⟨hfirst, hpast⟩ := (append_prefix_iff [c] w p.rest).mp hrest
    refine ⟨c, hc, hfirst, (h c hfirst).mpr ⟨w, ⟨?_, hw⟩, hpast, ?_⟩⟩
    · rw [List.length_cons] at hleast
      omega
    · rw [Place.past_past]
      exact hnext

/-- Rounds of one character each read the words of repeated characters, if there are rounds enough
for the text ahead. -/
theorem loop_isSome_iff (test : Char → Bool) (next : Next) {rounds least : Nat}
    {last : Option Nat} {p : Place} (hrounds : p.rest.length < rounds)
    (hlast : last ≠ some p.position) :
    (loop true (one test) next rounds least none last p).isSome ↔
      ∃ w ∈ repeats least test, w <+: p.rest ∧ (next (p.past w)).isSome := by
  induction rounds generalizing least last p with
  | zero => exact absurd hrounds (Nat.not_lt_zero _)
  | succ rounds ih =>
    -- A round moves on by one character, so the text ahead gets shorter with the rounds left.
    have hbehind : ∀ c, [c] <+: p.rest → (p.past [c]).rest.length < rounds := by
      intro c hc
      have hpos : 1 ≤ p.rest.length := hc.length_le
      rw [Place.past_rest, List.length_drop, List.length_singleton]
      omega
    have hmoved : ∀ c, some p.position ≠ some (p.past [c]).position := by simp
    have hround : ∀ least, (one test p (loop true (one test) next rounds (least - 1) none
        (some p.position))).isSome ↔
          ∃ w ∈ repeats least test, w ≠ [] ∧ w <+: p.rest ∧ (next (p.past w)).isSome :=
      fun _ => round_isSome_iff fun c hc => ih (hbehind c hc) (hmoved c)
    cases least with
    | succ least =>
      rw [loop_succ]
      refine (hround (least + 1)).trans ⟨?_, ?_⟩
      · rintro ⟨w, hw, -, hread⟩
        exact ⟨w, hw, hread⟩
      · rintro ⟨w, hw, hread⟩
        exact ⟨w, hw, List.ne_nil_of_length_pos (Nat.lt_of_lt_of_le (Nat.succ_pos _) hw.1), hread⟩
    | zero =>
      rw [loop_zero_isSome_iff _ _ _ hlast]
      refine (or_congr_left (hround 0)).trans ⟨?_, ?_⟩
      · rintro (⟨w, hw, -, hread⟩ | hnext)
        · exact ⟨w, hw, hread⟩
        · rw [← p.past_nil] at hnext
          exact ⟨[], ⟨Nat.le_refl 0, List.forall_mem_nil _⟩, List.nil_prefix, hnext⟩
      · rintro ⟨w, hw, hread⟩
        by_cases hne : w = []
        · rw [hne, p.past_nil] at hread
          exact .inr hread.2
        · exact .inl ⟨w, hw, hne, hread⟩

theorem reads_repeat (least : Nat) (r : CaseRule) (negated : Bool) (items : List SetItem) :
    (Node.repeat_ .greedy least none (.set r negated items)).Reads
      (repeats least (inSet r negated items)) := by
  intro p next
  exact loop_isSome_iff (inSet r negated items) next (by omega) (by simp)

/-! ## Parts one after the other -/

theorem reads_seq_nil : (Node.seq []).Reads 1 := by
  intro p next
  constructor
  · intro hnext
    exact ⟨[], Language.nil_mem_one, List.nil_prefix, hnext⟩
  · rintro ⟨w, hw, -, hnext⟩
    rw [Language.mem_one] at hw
    subst hw
    exact hnext

theorem reads_seq_cons {n : Node} {ns : List Node} {L M : Language Char} (hn : n.Reads L)
    (hns : (Node.seq ns).Reads M) : (Node.seq (n :: ns)).Reads (L * M) := by
  intro p next
  refine (hn p fun q => (Node.seq ns).run q next).trans ⟨?_, ?_⟩
  · rintro ⟨u, hu, hrest, hagain⟩
    obtain ⟨v, hv, hpast, hnext⟩ := (hns (p.past u) next).mp hagain
    rw [Place.past_past] at hnext
    exact ⟨u ++ v, Language.mem_mul.mpr ⟨u, hu, v, hv, rfl⟩,
      (append_prefix_iff u v p.rest).mpr ⟨hrest, hpast⟩, hnext⟩
  · rintro ⟨w, hw, hrest, hnext⟩
    obtain ⟨u, hu, v, hv, rfl⟩ := Language.mem_mul.mp hw
    obtain ⟨hfirst, hpast⟩ := (append_prefix_iff u v p.rest).mp hrest
    refine ⟨u, hu, hfirst, (hns (p.past u) next).mpr ⟨v, hv, hpast, ?_⟩⟩
    rw [Place.past_past]
    exact hnext

/-! ## Whole texts -/

/-- A pattern matches a whole text iff the text is a word of its language. -/
theorem fullMatch_iff {n : Node} {L : Language Char} (hn : n.Reads L) (cs : List Char) :
    fullMatch n cs = true ↔ cs ∈ L := by
  refine (hn (.start cs) fun p => if p.rest.isEmpty then some p else none).trans ⟨?_, ?_⟩
  · rintro ⟨w, hw, ⟨rest, rfl⟩, hend⟩
    have hrest : rest = [] := by simpa [Place.start] using hend
    rwa [hrest, List.append_nil]
  · intro hcs
    refine ⟨cs, hcs, List.prefix_refl cs, ?_⟩
    simp [Place.start]

end Pattern

end Rulebook
