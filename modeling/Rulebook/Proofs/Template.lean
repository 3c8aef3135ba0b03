import Mathlib.Data.List.TakeWhile
import Rulebook.Template
import Rulebook.Proofs.Action

/-!
# What filling in a template gives

Filling in a template numbers the fields without a name on its way, but a template with such a
field is never filled in: there is nothing under a number. So the numbering can be left aside, and
each piece has a text of its own, or a fault.

A template that passes the check has only fields of the one known name. The check looks no
further; whether such a field can be filled in still depends on its conversion and its format.

* `Template.Steady`: a filler that leaves the numbering. `Template.fillNested_steady`: they all do.
* `Template.fill_eq`: a template is filled in piece by piece.
* `Template.check_ok_iff`: which templates pass the check.
* `Template.fill_ok_iff`: a template that passes can be filled in with the name of a property iff
  all its fields can.
* `Template.text_of_fill`: a template with the known name as a field is filled in only with a name
  that can be written.
* `Template.fill_plain`: a template whose fields are nothing but the known name can always be
  filled in.
-/

namespace Rulebook

namespace Template

variable {α β : Type}

/-- A filler that does not fail leaves the numbering as it is. -/
def Steady (m : Filler α) : Prop := ∀ n x n', m.run n = .ok (x, n') → n' = n

namespace Steady

theorem ret (x : α) : Steady (pure x) := by
  intro n y n' h
  cases h
  rfl

theorem fail (e : Fault) : Steady (throw e : Filler α) := by
  intro n y n' h
  cases h

theorem lift (x : Except Fault α) : Steady (liftM x : Filler α) := by
  intro n y n' h
  cases x with
  | error e => cases h
  | ok a => cases h; rfl

theorem look : Steady (get : Filler Numbering) := by
  intro n m n' h
  cases h
  rfl

/-- What fails in the end need not leave the numbering. -/
theorem thenFail (m : Filler α) (e : Fault) : Steady (m >>= fun _ => (throw e : Filler β)) := by
  intro n y n' h
  obtain ⟨_, -, h⟩ := ok_of_bind h
  cases h

theorem bind {m : Filler α} {f : α → Filler β} (hm : Steady m) (hf : ∀ x, Steady (f x)) :
    Steady (m >>= f) := by
  intro n y n' h
  obtain ⟨⟨x, k⟩, hx, h⟩ := ok_of_bind h
  rw [← hm n x k hx]
  exact hf x k y n' h

theorem mapM {f : α → Filler β} (hf : ∀ x, Steady (f x)) (xs : List α) : Steady (xs.mapM f) := by
  induction xs with
  | nil => exact ret []
  | cons x xs ih =>
    rw [List.mapM_cons]
    exact bind (hf x) fun _ => bind ih fun _ => ret _

end Steady

theorem firstValue_steady (operands : Operands) (first : List Char) :
    Steady (firstValue operands first) := by
  unfold firstValue
  refine .bind (.lift _) fun index => ?_
  refine .bind .look fun m => ?_
  split
  · split
    · exact .ret _
    · exact .fail _
  · exact .fail _
  · exact .fail _
  all_goals exact .thenFail _ _

theorem fieldValue_steady (operands : Operands) (name : List Char) :
    Steady (fieldValue operands name) := by
  unfold fieldValue
  exact .bind (firstValue_steady operands _) fun _ => .lift _

/-- The format of a field, filled in if it has fields itself. -/
def fillFormat (operands : Operands) (depth : Nat) (format : List Char) : Filler (List Char) :=
  if format.contains '{' then (fun s => s.toList) <$> fillNested operands depth format
  else pure format

/-- The text of a piece of a template. -/
def fillPiece (operands : Operands) (depth : Nat) : Piece → Filler String
  | .char c => pure (String.singleton c)
  | .field f => do
    let v ← fieldValue operands f.name
    let v ← convert v f.conversion
    let format ← fillFormat operands depth f.format
    (formatValue v format : Except Fault String)

/-- What comes of the texts of all pieces. -/
def joined (fault : Option TemplateFault) (texts : List String) : Except Fault String :=
  match fault with
  | some e => .error (.template e)
  | none => .ok (String.join texts)

theorem fillNested_succ (operands : Operands) (depth : Nat) (cs : List Char) :
    fillNested operands (depth + 1) cs =
      ((read cs).pieces.mapM (fillPiece operands depth) >>= fun texts =>
        (liftM (joined (read cs).fault texts) : Filler String)) := by
  rw [fillNested]
  congr 1
  · congr 1
    funext p
    cases p with
    | char c => rfl
    | field f =>
      dsimp only [fillPiece, fillFormat]
      split <;> simp
  · funext texts
    cases (read cs).fault <;> rfl

theorem fillFormat_steady_of {operands : Operands} {depth : Nat}
    (h : ∀ cs, Steady (fillNested operands depth cs)) (format : List Char) :
    Steady (fillFormat operands depth format) := by
  unfold fillFormat
  split
  · exact .bind (h _) fun _ => .ret _
  · exact .ret _

theorem fillPiece_steady_of {operands : Operands} {depth : Nat}
    (h : ∀ cs, Steady (fillNested operands depth cs)) (p : Piece) :
    Steady (fillPiece operands depth p) := by
  cases p with
  | char c => exact .ret _
  | field f =>
    exact .bind (fieldValue_steady operands _) fun _ => .bind (.lift _) fun _ =>
      .bind (fillFormat_steady_of h _) fun _ => .lift _

theorem fillNested_steady (operands : Operands) (depth : Nat) (cs : List Char) :
    Steady (fillNested operands depth cs) := by
  induction depth generalizing cs with
  | zero => exact .fail _
  | succ depth ih =>
    rw [fillNested_succ]
    exact .bind (.mapM (fillPiece_steady_of ih) _) fun _ => .lift _

theorem fillPiece_steady (operands : Operands) (depth : Nat) (p : Piece) :
    Steady (fillPiece operands depth p) :=
  fillPiece_steady_of (fillNested_steady operands depth) p

theorem fillFormat_steady (operands : Operands) (depth : Nat) (format : List Char) :
    Steady (fillFormat operands depth format) :=
  fillFormat_steady_of (fillNested_steady operands depth) format

/-! ## Piece by piece -/

/-- What a filler gives from a state of the numbering. -/
def gives (n : Numbering) (m : Filler α) : Except Fault α := (m.run n).map Prod.fst

theorem Steady.gives_bind {m : Filler α} {f : α → Filler β} (hm : Steady m) (n : Numbering) :
    gives n (m >>= f) = gives n m >>= fun x => gives n (f x) := by
  show ((m.run n >>= fun p => (f p.1).run p.2).map Prod.fst) = (m.run n).map Prod.fst >>= _
  rcases hr : m.run n with e | ⟨x, k⟩
  · rfl
  · rw [hm n x k hr]
    rfl

theorem Steady.gives_mapM {f : α → Filler β} (hf : ∀ x, Steady (f x)) (n : Numbering)
    (xs : List α) : gives n (xs.mapM f) = xs.mapM fun x => gives n (f x) := by
  induction xs with
  | nil => rfl
  | cons x xs ih =>
    rw [List.mapM_cons, List.mapM_cons, (hf x).gives_bind]
    congr 1
    funext y
    rw [(Steady.mapM hf xs).gives_bind, ih]
    rfl

/-- The text of a piece of a template. -/
def pieceText (operands : Operands) (p : Piece) : Except Fault String :=
  gives .open_ (fillPiece operands 1 p)

/-- A template is filled in piece by piece. The fault that ended the reading is met last. -/
theorem fill_eq (template : String) (operands : Operands) :
    fill template operands =
      (read template.toList).pieces.mapM (pieceText operands) >>=
        joined (read template.toList).fault := by
  have hpieces := fillPiece_steady operands 1
  show gives .open_ (fillNested operands 2 template.toList) = _
  rw [fillNested_succ, (Steady.mapM hpieces _).gives_bind, Steady.gives_mapM hpieces]
  congr 1
  funext texts
  cases joined (read template.toList).fault texts <;> rfl

/-- The format that a field has once the fields in it are filled in. -/
def Field.formatOf (operands : Operands) (f : Field) : Except Fault (List Char) :=
  gives .open_ (fillFormat operands 1 f.format)

/-- The operands of a message that names only the property. -/
def fieldOperands (name : String) : Operands := [(fieldName, .str name)]

/-- A plain name stands for the operand of that name. -/
theorem fieldValue_plain {operands : Operands} {name : List Char} {v : Value}
    (hplain : ∀ c ∈ name, (c != '.' && c != '[') = true) (hne : name ≠ [])
    (hnumber : number? name = none) (hv : operands.lookup (String.ofList name) = some v) :
    fieldValue operands name = pure v := by
  have hfirst : firstValue operands name = pure v := by
    unfold firstValue boundedNumber?
    rw [hnumber, List.isEmpty_eq_false_iff.mpr hne]
    dsimp only
    rw [hv]
    funext n
    rfl
  unfold fieldValue
  simp only
  rw [List.takeWhile_eq_self_iff.mpr hplain, List.dropWhile_eq_nil_iff.mpr hplain, hfirst,
    pure_bind]
  rfl

theorem number?_fieldName : number? fieldName.toList = none := by
  decide +kernel

theorem fieldValue_fieldName (name : String) :
    fieldValue (fieldOperands name) fieldName.toList = pure (.str name) :=
  fieldValue_plain (List.all_eq_true.mp rfl) (by decide) number?_fieldName (by
    rw [String.ofList_toList, fieldOperands, List.lookup_cons_self])

theorem pieceText_field {f : Field} (h : String.ofList f.name = fieldName) (name : String) :
    pieceText (fieldOperands name) (.field f) = (do
      let v ← convert (.str name) f.conversion
      let format ← f.formatOf (fieldOperands name)
      formatValue v format) := by
  have hname : f.name = fieldName.toList := by rw [← h, String.toList_ofList]
  simp only [pieceText, fillPiece]
  rw [hname, fieldValue_fieldName, pure_bind, (Steady.lift _).gives_bind]
  cases convert (.str name) f.conversion with
  | error e => rfl
  | ok v =>
    show gives .open_ (fillFormat _ 1 f.format >>= fun format =>
      (liftM (formatValue v format) : Filler String)) = _
    rw [(fillFormat_steady _ _ _).gives_bind]
    show (f.formatOf (fieldOperands name) >>= fun format => _) =
      f.formatOf (fieldOperands name) >>= fun format => formatValue v format
    congr 1
    funext format
    cases formatValue v format <;> rfl

/-! ## Texts in fields -/

/-- Whether a format is one for texts: it has nothing that only numbers have. -/
def TextFormat.IsForText (f : TextFormat) : Prop :=
  f.type = 's' ∧ f.sign = none ∧ f.noNegativeZero = false ∧ f.alternate = false ∧ f.align ≠ '='

/-- Whether texts can be written in a format. -/
def SuitsText (format : List Char) : Prop :=
  format = [] ∨ ∃ f, readTextFormat format = .ok f ∧ f.IsForText

theorem checkForText_ok_iff (f : TextFormat) : f.checkForText = .ok () ↔ f.IsForText := by
  unfold TextFormat.checkForText TextFormat.IsForText
  by_cases htype : f.type = 's'
  · cases hsign : f.sign with
    | some c => simp [htype]
    | none =>
      cases f.noNegativeZero <;> cases f.alternate <;> simp [htype]
  · simp [htype]

theorem formatText_ok_iff (s : String) (format : List Char) :
    (∃ t, formatText s format = .ok t) ↔ ∃ f, readTextFormat format = .ok f ∧ f.IsForText := by
  constructor
  · rintro ⟨t, h⟩
    obtain ⟨f, hf, h⟩ := ok_of_bind h
    obtain ⟨⟨⟩, hcheck, -⟩ := ok_of_bind h
    exact ⟨f, hf, (checkForText_ok_iff f).mp hcheck⟩
  · rintro ⟨f, hf, hcheck⟩
    refine ⟨f.write s, ?_⟩
    rw [formatText, hf, ok_then, (checkForText_ok_iff f).mpr hcheck]
    rfl

/-- A text can be written in a format if and only if the format suits texts, whatever the text. -/
theorem formatValue_ok_iff (s : String) (format : List Char) :
    (∃ t, formatValue (.str s) format = .ok t) ↔ SuitsText format := by
  unfold formatValue SuitsText
  cases format with
  | nil => simp
  | cons c cs => simpa using formatText_ok_iff s (c :: cs)

/-- Whether a field can be filled in with the name of a property: it is converted to a text in one
of the known ways, and its format, filled in itself, is one for texts. -/
def Field.Fits (name : String) (f : Field) : Prop :=
  f.conversion ∈ [none, some 'r', some 's', some 'a'] ∧
    ∃ format, f.formatOf (fieldOperands name) = .ok format ∧ SuitsText format

/-- A text becomes a text under the known conversions, and fails under the others. -/
theorem convert_str (name : String) (c : Option Char) :
    (c ∈ [none, some 'r', some 's', some 'a'] ∧ ∃ s, convert (.str name) c = .ok (.str s)) ∨
      (c ∉ [none, some 'r', some 's', some 'a'] ∧ ∃ e, convert (.str name) c = .error e) := by
  by_cases hc : c ∈ [none, some 'r', some 's', some 'a']
  · refine .inl ⟨hc, ?_⟩
    simp only [List.mem_cons, List.not_mem_nil, or_false] at hc
    obtain rfl | rfl | rfl | rfl := hc <;> exact ⟨_, rfl⟩
  · refine .inr ⟨hc, ?_⟩
    unfold convert
    split <;> simp_all

theorem pieceText_ok_iff {f : Field} (h : String.ofList f.name = fieldName) (name : String) :
    (∃ t, pieceText (fieldOperands name) (.field f) = .ok t) ↔ f.Fits name := by
  rw [pieceText_field h, Field.Fits]
  rcases convert_str name f.conversion with ⟨hc, s, hs⟩ | ⟨hc, e, he⟩
  · rw [hs, ok_then]
    constructor
    · rintro ⟨t, ht⟩
      obtain ⟨format, hformat, ht⟩ := ok_of_bind ht
      exact ⟨hc, format, hformat, (formatValue_ok_iff s format).mp ⟨t, ht⟩⟩
    · rintro ⟨-, format, hformat, hsuits⟩
      rw [hformat, ok_then]
      exact (formatValue_ok_iff s format).mpr hsuits
  · rw [he]
    exact ⟨fun ⟨_, ht⟩ => (by cases ht), fun h => absurd h.1 hc⟩

/-! ## Templates with one name -/

/-- The fields of a template. -/
def fields (r : Reading) : List Field :=
  r.pieces.filterMap fun
    | .field f => some f
    | .char _ => none

theorem names_eq (r : Reading) : names r = (fields r).map (·.name) := by
  unfold names fields
  rw [List.map_filterMap]
  congr 1
  funext p
  cases p <;> rfl

theorem mem_fields {r : Reading} {f : Field} : f ∈ fields r ↔ .field f ∈ r.pieces := by
  unfold fields
  rw [List.mem_filterMap]
  constructor
  · rintro ⟨p, hp, h⟩
    cases p with
    | char c => cases h
    | field g => cases h; exact hp
  · exact fun h => ⟨_, h, rfl⟩

theorem mem_unknownNames {r : Reading} {name : String} :
    name ∈ unknownNames r ↔ name ≠ fieldName ∧ ∃ f ∈ fields r, String.ofList f.name = name := by
  unfold unknownNames
  rw [names_eq]
  simp only [List.mem_eraseDups, List.mem_mergeSort, List.mem_filter, List.mem_map, bne_iff_ne,
    exists_exists_and_eq_and]
  exact and_comm

/-- A template passes if it can be read and all its fields have the known name. -/
theorem check_ok_iff (template : String) :
    check template = .ok () ↔ (read template.toList).fault = none ∧
      ∀ f ∈ fields (read template.toList), String.ofList f.name = fieldName := by
  have hunknown : unknownNames (read template.toList) = [] ↔
      ∀ f ∈ fields (read template.toList), String.ofList f.name = fieldName := by
    rw [List.eq_nil_iff_forall_not_mem]
    constructor
    · intro h f hf
      by_contra hne
      exact h _ (mem_unknownNames.mpr ⟨hne, f, hf, rfl⟩)
    · rintro h name hname
      obtain ⟨hne, f, hf, rfl⟩ := mem_unknownNames.mp hname
      exact hne (h f hf)
  rw [← hunknown]
  cases hfault : (read template.toList).fault with
  | some e => simp [check, hfault]
  | none => cases hnames : unknownNames (read template.toList) <;> simp [check, hfault, hnames]

/-- Whether all fields of a template can be filled in with the name of a property. -/
def Fits (name template : String) : Prop := ∀ f ∈ fields (read template.toList), f.Fits name

/-- A template that passes can be filled in with the name of a property if and only if all its
fields can. -/
theorem fill_ok_iff {template : String} (h : check template = .ok ()) (name : String) :
    (∃ t, fill template (fieldOperands name) = .ok t) ↔ Fits name template := by
  obtain ⟨hfault, hnames⟩ := (check_ok_iff template).mp h
  have hpieces : (∃ t, fill template (fieldOperands name) = .ok t) ↔
      ∀ p ∈ (read template.toList).pieces, ∃ t, pieceText (fieldOperands name) p = .ok t := by
    rw [fill_eq, hfault, ← mapM_ok_iff]
    constructor
    · rintro ⟨t, h⟩
      obtain ⟨texts, htexts, -⟩ := ok_of_bind h
      exact ⟨texts, htexts⟩
    · rintro ⟨texts, htexts⟩
      exact ⟨String.join texts, by rw [htexts]; rfl⟩
  rw [hpieces]
  constructor
  · intro hall f hf
    exact (pieceText_ok_iff (hnames f hf) name).mp (hall _ (mem_fields.mp hf))
  · intro hall p hp
    cases p with
    | char c => exact ⟨_, rfl⟩
    | field f =>
      have hf := mem_fields.mpr hp
      exact (pieceText_ok_iff (hnames f hf) name).mpr (hall f hf)

/-! ## Plain templates -/

/-- The field that is nothing but the known name. -/
def Field.plain : Field := ⟨fieldName.toList, none, []⟩

theorem fieldValue_named (name : Value) (operands : Operands) :
    fieldValue ((fieldName, name) :: operands) fieldName.toList = pure name :=
  fieldValue_plain (List.all_eq_true.mp rfl) (by decide) number?_fieldName (by
    rw [String.ofList_toList, List.lookup_cons_self])

/-- The plain field is filled in with the text of the name. -/
theorem pieceText_named (name : Value) (operands : Operands) :
    pieceText ((fieldName, name) :: operands) (.field Field.plain) = name.text := by
  have hvalue : fieldValue ((fieldName, name) :: operands) Field.plain.name = pure name :=
    fieldValue_named name operands
  simp only [pieceText, fillPiece]
  rw [hvalue, pure_bind]
  show gives .open_ (liftM name.text : Filler String) = _
  cases name.text <;> rfl

/-- A template with the plain field is filled in only with a name that has a text. -/
theorem text_of_fill {template : String} (h : Field.plain ∈ fields (read template.toList))
    {name : Value} {operands : Operands} {text : String}
    (hfill : fill template ((fieldName, name) :: operands) = .ok text) :
    ∃ t, name.text = .ok t := by
  rw [fill_eq] at hfill
  obtain ⟨texts, htexts, -⟩ := ok_of_bind hfill
  obtain ⟨t, ht⟩ := mapM_ok_iff.mp ⟨texts, htexts⟩ _ (mem_fields.mp h)
  exact ⟨t, (pieceText_named name operands).symm.trans ht⟩

/-- Whether a template can be read and has no other fields than the plain one. -/
def IsPlain (template : String) : Prop :=
  (read template.toList).fault = none ∧ ∀ f ∈ fields (read template.toList), f = Field.plain

instance (template : String) : Decidable (IsPlain template) := inferInstanceAs (Decidable (_ ∧ _))

theorem IsPlain.check_ok {template : String} (h : IsPlain template) :
    check template = .ok () := by
  refine (check_ok_iff template).mpr ⟨h.1, fun f hf => ?_⟩
  rw [h.2 f hf, Field.plain, String.ofList_toList]

/-- The text of a piece if every field stands for the same text. -/
def Piece.textWith (name : String) : Piece → String
  | .char c => String.singleton c
  | .field _ => name

theorem mapM_pieceText_named {ps : List Piece} (h : ∀ f, Piece.field f ∈ ps → f = Field.plain)
    {name : Value} {text : String} (hname : name.text = .ok text) :
    ps.mapM (pieceText [(fieldName, name)]) = .ok (ps.map (Piece.textWith text)) := by
  induction ps with
  | nil => rfl
  | cons p ps ih =>
    have hp : pieceText [(fieldName, name)] p = .ok (p.textWith text) := by
      cases p with
      | char c => rfl
      | field f =>
        rw [h f List.mem_cons_self, pieceText_named, hname]
        rfl
    rw [List.mapM_cons, hp, ih fun f hf => h f (List.mem_cons_of_mem p hf)]
    rfl

/-- Filling in a plain template puts the text of the name for its fields. -/
theorem fill_named {template : String} (h : IsPlain template) {name : Value} {text : String}
    (hname : name.text = .ok text) :
    fill template [(fieldName, name)] =
      .ok (String.join ((read template.toList).pieces.map (Piece.textWith text))) := by
  rw [fill_eq, h.1, mapM_pieceText_named (fun f hf => h.2 f (mem_fields.mpr hf)) hname]
  rfl

/-- Filling in a plain template fails only as writing the name does. -/
theorem fill_named_error {template : String} (h : IsPlain template) {name : Value} {f : Fault}
    (hfill : fill template [(fieldName, name)] = .error f) : name.text = .error f := by
  cases hname : name.text with
  | ok text =>
    rw [fill_named h hname] at hfill
    cases hfill
  | error g =>
    rw [fill_eq, h.1] at hfill
    rcases error_of_bind hfill with hpieces | ⟨texts, -, hjoined⟩
    · obtain ⟨p, hp, hfails⟩ := mapM_error hpieces
      cases p with
      | char c => cases hfails
      | field field =>
        rw [h.2 field (mem_fields.mpr hp), pieceText_named, hname] at hfails
        exact hfails
    · cases hjoined

/-- Filling in a plain template with a text never fails. -/
theorem fill_plain {template : String} (h : IsPlain template) (name : String) :
    fill template (fieldOperands name) =
      .ok (String.join ((read template.toList).pieces.map (Piece.textWith name))) :=
  fill_named h (Value.text_str name)

theorem IsPlain.fits {template : String} (h : IsPlain template) (name : String) :
    Fits name template :=
  (fill_ok_iff h.check_ok name).mp ⟨_, fill_plain h name⟩

end Template

end Rulebook
