import Rulebook.Proofs.Template

/-!
# Templates written part by part

A template that is written from texts, with their braces doubled, and the names of operands, each
alone in its braces, is filled in by putting the texts of the operands between the texts. What
stands in an operand is not read again, so its braces say nothing.

* `Template.Segment`: a part of a template. `Template.written`: the template of some parts.
* `Template.read_written`: reading finds the parts again.
* `Template.fill_written`: filling in replaces each name by the text of its operand.
-/

namespace Rulebook

namespace Template

/-- A part of a template: a text that stands for itself, or the name of an operand. -/
inductive Segment where
  | text (t : String)
  | operand (name : String)
deriving DecidableEq, Repr

/-- A character of a text, as it is written in a template. -/
def escapeBrace (c : Char) : List Char := if c = '{' ∨ c = '}' then [c, c] else [c]

namespace Segment

/-- How a part is written in a template. -/
def write : Segment → List Char
  | .text t => t.toList.flatMap escapeBrace
  | .operand name => '{' :: (name.toList ++ ['}'])

/-- What is read of a part. -/
def pieces : Segment → List Piece
  | .text t => t.toList.map .char
  | .operand name => [.field ⟨name.toList, none, []⟩]

/-- The text that a part stands for. -/
def value (operands : Operands) : Segment → Except Fault String
  | .text t => .ok t
  | .operand name =>
    match operands.lookup name with
    | some v => v.text
    | none => .error (.template (.missingName (Quoted.encode name)))

end Segment

/-- The template of some parts. -/
def written (segments : List Segment) : String :=
  String.ofList (segments.flatMap Segment.write)

/-- Whether a name stands for an operand: it is no number, and holds no character that means
something in a template. -/
def IsOperandName (name : List Char) : Prop :=
  name ≠ [] ∧ number? name = none ∧ ∀ c ∈ name, c ∉ ['{', '}', ':', '!', '[', '.']

instance (name : List Char) : Decidable (IsOperandName name) :=
  decidable_of_iff (name ≠ [] ∧ number? name = none ∧
    name.all fun c => c ∉ ['{', '}', ':', '!', '[', '.']) (by simp [IsOperandName])

/-! ## Reading -/

theorem read_char {c : Char} (hopen : c ≠ '{') (hclose : c ≠ '}') (cs : List Char) :
    read (c :: cs) = (read cs).cons (.char c) := by
  rw [read.eq_def]
  simp [hopen, hclose]

theorem read_escapeBrace (c : Char) (rest : List Char) :
    read (escapeBrace c ++ rest) = (read rest).cons (.char c) := by
  by_cases hopen : c = '{'
  · subst hopen
    show read ('{' :: '{' :: rest) = _
    rw [read.eq_def]
    rfl
  · by_cases hclose : c = '}'
    · subst hclose
      show read ('}' :: '}' :: rest) = _
      rw [read.eq_def]
      rfl
    · have hplain : escapeBrace c = [c] := by simp [escapeBrace, hopen, hclose]
      rw [hplain]
      exact read_char hopen hclose rest

theorem readName_operand {name : List Char}
    (h : ∀ c ∈ name, c ∉ ['{', '}', ':', '!', '[', '.']) (rest : List Char) :
    readName false (name ++ '}' :: rest) = .ok (name, some '}', rest) := by
  induction name with
  | nil => rfl
  | cons c cs ih =>
    have hc := h c List.mem_cons_self
    simp only [List.mem_cons, List.not_mem_nil, or_false, not_or] at hc
    obtain ⟨hopen, hclose, hcolon, hmark, hbracket, -⟩ := hc
    have hrest := ih fun c' hc' => h c' (List.mem_cons_of_mem c hc')
    have hinside : (c == '[') = false := by simpa using hbracket
    rw [List.cons_append, readName, hinside, hrest]
    simp [hopen, hclose, hcolon, hmark]

theorem read_operand {name : List Char} (h : IsOperandName name) (rest : List Char) :
    read ('{' :: (name ++ '}' :: rest)) = (read rest).cons (.field ⟨name, none, []⟩) := by
  obtain ⟨hne, -, hchars⟩ := h
  obtain ⟨c, cs, rfl⟩ := List.exists_cons_of_ne_nil hne
  have hc : c ≠ '{' := by
    have hnot := hchars c List.mem_cons_self
    simp only [List.mem_cons, not_or] at hnot
    exact hnot.1
  have hfield : readField (c :: (cs ++ '}' :: rest)) = .ok (⟨c :: cs, none, []⟩, rest) := by
    rw [readField, ← List.cons_append, readName_operand hchars rest]
    rfl
  rw [List.cons_append, read]
  simp only [BEq.rfl, ↓reduceIte, beq_iff_eq, hc]
  split
  · rename_i e he
    rw [hfield] at he
    cases he
  · rename_i f rest' hf
    rw [hfield] at hf
    cases hf
    rfl

/-- Reading finds the characters of a text again. -/
theorem read_text (cs rest : List Char) :
    read (cs.flatMap escapeBrace ++ rest) =
      ⟨cs.map .char ++ (read rest).pieces, (read rest).fault⟩ := by
  induction cs with
  | nil => rfl
  | cons c cs ih =>
    rw [List.flatMap_cons, List.append_assoc, read_escapeBrace, ih]
    rfl

/-- Reading finds the parts of a template again. -/
theorem read_written {segments : List Segment}
    (h : ∀ name, .operand name ∈ segments → IsOperandName name.toList) :
    read (written segments).toList = ⟨segments.flatMap Segment.pieces, none⟩ := by
  rw [written, String.toList_ofList]
  induction segments with
  | nil =>
    show read [] = _
    rw [read]
    rfl
  | cons segment segments ih =>
    have hrest := ih fun name hname => h name (List.mem_cons_of_mem segment hname)
    rw [List.flatMap_cons]
    cases segment with
    | text t =>
      rw [Segment.write, read_text, hrest]
      rfl
    | operand name =>
      have hname := h name List.mem_cons_self
      rw [Segment.write, List.cons_append, List.append_assoc, List.singleton_append,
        read_operand hname, hrest]
      rfl

/-! ## Filling in -/

/-- A name stands for the operand of that name, if there is one. -/
theorem fieldValue_operand {name : List Char} (h : IsOperandName name) (operands : Operands) :
    fieldValue operands name = match operands.lookup (String.ofList name) with
      | some v => pure v
      | none => throw (.template (.missingName (Quoted.encode (String.ofList name)))) := by
  obtain ⟨hne, hnumber, hchars⟩ := h
  have hplain : ∀ c ∈ name, (c != '.' && c != '[') = true := by
    intro c hc
    have hnot := hchars c hc
    simp only [List.mem_cons, List.not_mem_nil, or_false, not_or] at hnot
    simp [hnot]
  cases hv : operands.lookup (String.ofList name) with
  | some v => exact fieldValue_plain hplain hne hnumber hv
  | none =>
    have hfirst : firstValue operands name =
        throw (.template (.missingName (Quoted.encode (String.ofList name)))) := by
      unfold firstValue boundedNumber?
      rw [hnumber, List.isEmpty_eq_false_iff.mpr hne]
      dsimp only
      rw [hv]
      funext n
      rfl
    unfold fieldValue
    simp only
    rw [List.takeWhile_eq_self_iff.mpr hplain, hfirst]
    funext n
    rfl

theorem pieceText_operand {name : String} (h : IsOperandName name.toList) (operands : Operands) :
    pieceText operands (.field ⟨name.toList, none, []⟩) =
      (Segment.operand name).value operands := by
  have hfield := fieldValue_operand h operands
  rw [String.ofList_toList] at hfield
  simp only [pieceText, fillPiece, Segment.value, hfield]
  cases operands.lookup name with
  | none => rfl
  | some v =>
    show gives .open_ (liftM (formatValue v []) : Filler String) = v.text
    show gives .open_ (liftM v.text : Filler String) = v.text
    cases v.text <;> rfl

theorem mapM_char (operands : Operands) (cs : List Char) :
    (cs.map Piece.char).mapM (pieceText operands) = .ok (cs.map String.singleton) := by
  induction cs with
  | nil => rfl
  | cons c cs ih =>
    have hchar : pieceText operands (.char c) = .ok (String.singleton c) := rfl
    rw [List.map_cons, List.mapM_cons, hchar, ok_then, ih]
    rfl

theorem join_singleton (t : String) : String.join (t.toList.map String.singleton) = t := by
  rw [← String.toList_inj, String.toList_join, List.flatMap_map]
  simp

/-- The texts of the pieces of a part, joined, are the text that it stands for. -/
theorem join_pieces {segment : Segment}
    (h : ∀ name, segment = .operand name → IsOperandName name.toList) (operands : Operands) :
    (segment.pieces.mapM (pieceText operands)).map String.join = segment.value operands := by
  cases segment with
  | text t =>
    rw [Segment.pieces, mapM_char]
    exact congrArg Except.ok (join_singleton t)
  | operand name =>
    rw [Segment.pieces, List.mapM_cons, pieceText_operand (h name rfl)]
    cases hv : (Segment.operand name).value operands with
    | error e => rfl
    | ok t => exact congrArg Except.ok (String.join_cons.trans (String.append_empty))

theorem map_join_append (x y : Except Fault (List String)) :
    (do let first ← x; let rest ← y; pure (first ++ rest)).map String.join =
      (do let first ← x.map String.join; let rest ← y.map String.join; pure (first ++ rest)) := by
  cases x with
  | error e => rfl
  | ok first =>
    cases y with
    | error e => rfl
    | ok rest => exact congrArg Except.ok String.join_append

theorem map_join_cons (x : Except Fault String) (y : Except Fault (List String)) :
    (do let first ← x; let rest ← y; pure (first :: rest)).map String.join =
      (do let first ← x; let rest ← y.map String.join; pure (first ++ rest)) := by
  cases x with
  | error e => rfl
  | ok first =>
    cases y with
    | error e => rfl
    | ok rest => exact congrArg Except.ok String.join_cons

/-- A template of parts is filled in part by part. -/
theorem fill_written {segments : List Segment}
    (h : ∀ name, .operand name ∈ segments → IsOperandName name.toList) (operands : Operands) :
    fill (written segments) operands =
      (segments.mapM (Segment.value operands)).map String.join := by
  have hpieces : ((segments.flatMap Segment.pieces).mapM (pieceText operands)).map String.join =
      (segments.mapM (Segment.value operands)).map String.join := by
    induction segments with
    | nil => rfl
    | cons segment segments ih =>
      have hrest := ih fun name hname => h name (List.mem_cons_of_mem segment hname)
      have hfirst := join_pieces (fun name hname => h name (hname ▸ List.mem_cons_self)) operands
      rw [List.flatMap_cons, List.mapM_append, map_join_append, hfirst, hrest, List.mapM_cons,
        map_join_cons]
  rw [fill_eq, read_written h, ← hpieces]
  cases (segments.flatMap Segment.pieces).mapM (pieceText operands) <;> rfl

end Template

end Rulebook
