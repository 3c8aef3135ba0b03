import Rulebook.Predicate.Named
import Rulebook.Proofs.Declare.Failure
import Rulebook.Proofs.Template.Literal

/-!
# How checks are wired

Each method that declares a check at once stands for a predicate of the library, which is asked
about the value of the property and what the call gave, and for a message, which names the property
and some of what the call gave. The table of them is written down here for itself, and compared
with the methods one by one.

* `Wiring`: what a method stands for. `wirings`: the table.
* `Wiring.answer`, `Wiring.text`: the answer that decides a check, and its message.
* `Wiring.wirings_fit`: the methods fit the table, row by row.
* `Chain.call_wired`: the rule of a single check reports its message iff the answer is that the
  check is not passed, and fails iff there is none.
-/

namespace Rulebook

variable {ω : Type}

open Rulebook.Action

/-- Who decides a check, and about what. -/
inductive Question where
  /-- A predicate of the library, on the value and what the call gave. -/
  | library (predicate : String)
  /-- A predicate of the library, on the value and the moment on the clock of the validator. -/
  | dated (predicate : String)
  /-- A predicate of the library, on the value and the items that an operand gave to the call. -/
  | member (predicate : String)
  /-- What the call gave; nothing stands for what every value passes. -/
  | own
deriving DecidableEq

/-- Whether the items of an operand are asked for. -/
def Question.asksItems : Question → Bool
  | .member _ => true
  | _ => false

/-- A part of a message: a text, the name of the property, or what the call gave at a position. -/
inductive MessagePart where
  | text (t : String)
  | property
  | argument (i : Nat)
deriving DecidableEq

/-- What a method stands for. -/
structure Wiring where
  method : String
  question : Question
  message : List MessagePart

namespace Wiring

/-- A message on a property: it begins with the property, and this follows. -/
def about (rest : List MessagePart) : List MessagePart := .text "The " :: .property :: rest

end Wiring

open Wiring in
/-- What the methods stand for that declare a check at once. -/
def wirings : List Wiring := [
  ⟨"not_null", .library "is_not_null", about [.text " field cannot be null."]⟩,
  ⟨"null", .library "is_null", about [.text " field must be null."]⟩,
  ⟨"not_empty", .library "is_not_empty", about [.text " field cannot be empty."]⟩,
  ⟨"empty", .library "is_empty", about [.text " field must be empty."]⟩,
  ⟨"minimum_length", .library "has_min_length",
    about [.text " field must be at least ", .argument 0, .text " characters long."]⟩,
  ⟨"maximum_length", .library "has_max_length",
    about [.text " field must be no longer than ", .argument 0, .text " characters."]⟩,
  ⟨"matches", .library "matches", about [.text " field is not in the correct format."]⟩,
  ⟨"starts_with", .library "starts_with",
    about [.text " field must begin with '", .argument 0, .text "'."]⟩,
  ⟨"ends_with", .library "ends_with",
    about [.text " field must end with '", .argument 0, .text "'."]⟩,
  ⟨"must_contain", .library "contains",
    about [.text " field must contain '", .argument 0, .text "'."]⟩,
  ⟨"equal_to", .library "equals",
    about [.text " field must be equal to '", .argument 0, .text "'."]⟩,
  ⟨"greater_than", .library "greater_than",
    about [.text " field must be greater than ", .argument 0, .text "."]⟩,
  ⟨"less_than", .library "less_than",
    about [.text " field must be less than ", .argument 0, .text "."]⟩,
  ⟨"between", .library "between",
    about [.text " field must be between ", .argument 0, .text " and ", .argument 1, .text "."]⟩,
  ⟨"positive", .library "is_positive", about [.text " field must be a positive number."]⟩,
  ⟨"negative", .library "is_negative", about [.text " field must be a negative number."]⟩,
  ⟨"not_zero", .library "is_not_zero", about [.text " field must not be zero."]⟩,
  ⟨"future_date", .dated "is_future", about [.text " field must be a future date."]⟩,
  ⟨"past_date", .dated "is_past", about [.text " field must be a past date."]⟩,
  ⟨"today", .dated "is_today", about [.text " field must be today's date."]⟩,
  ⟨"is_in", .member "is_in", about [.text " field must be in the list of allowed values."]⟩,
  ⟨"has_count", .library "has_count",
    about [.text " field must contain exactly ", .argument 0, .text " items."]⟩,
  ⟨"not_empty_collection", .library "is_non_empty_collection",
    about [.text " field must not be an empty collection."]⟩,
  ⟨"is_alpha", .library "is_alpha",
    about [.text " field must only contain alphabetic characters."]⟩,
  ⟨"is_alphanumeric", .library "is_alphanumeric",
    about [.text " field must only contain alphanumeric characters."]⟩,
  ⟨"is_numeric", .library "is_numeric", about [.text " field must only contain numbers."]⟩,
  ⟨"email", .library "is_email", about [.text " field must be a valid email address."]⟩,
  ⟨"url", .library "is_url", about [.text " field must be a valid URL."]⟩,
  ⟨"must", .own, about [.text " field does not meet the specified condition."]⟩]

/-- The text of a part of a message, for a property and what the call gave. -/
def MessagePart.value (p : Property) (args : List Value) : MessagePart → Except Fault String
  | .text t => .ok t
  | .property => p.name.text
  | .argument i => (args.getD i .none).text

namespace Wiring

/-- The message, for a property and what the call gave. -/
def text (w : Wiring) (p : Property) (args : List Value) : Except Fault String :=
  (w.message.mapM (MessagePart.value p args)).map String.join

/-- The items that a call takes from an operand: those that it gives at the time of the call. -/
def items (w : Wiring) (s : Store ω) (args : List Value) : Except Fault (List Value) :=
  if w.question.asksItems then s.itemsOf (args.headD .none) else .ok []

/-- The answer that decides the check of a value. `items` are those that the call took. -/
def answer (w : Wiring) (host : Host ω) (place : Place) (validator : Nat)
    (args items : List Value) (v : Value) : Action ω Bool :=
  match w.question with
  | .library name => Predicate.call host.zone name (v :: args)
  | .dated name => do
    let settings := (← get).settingsOf validator
    let moment ← Run.now host place settings
    Predicate.call host.zone name [v, moment]
  | .member name => Predicate.call host.zone name [v, .tuple items]
  | .own =>
    match args.headD .none with
    | .none => pure true
    | f => do
      let outcome ← Run.invoke host place f [v]
      pure outcome.truthy

/-- A check is decided by the answer of a wiring, and has its message. -/
def FitsCheck (w : Wiring) (args items : List Value) (check : Check) : Prop :=
  (∀ {ω : Type} (host : Host ω) (place : Place) (validator : Nat) (v : Value),
    Run.passes host place validator check v = w.answer host place validator args items v) ∧
  ∀ p, Chain.checkMessage p check = w.text p args

/-- A declaration made from what a call gave declares a check that a wiring stands for. -/
def FitsDeclaration (w : Wiring) (args : List Value) : Declaration → Prop
  | .check check => w.question.asksItems = false ∧ w.FitsCheck args [] check
  | .isIn values => w.question.asksItems = true ∧ args.headD .none = values ∧
      ∀ items, w.FitsCheck args items (.isIn items)
  | .must .none => w.question.asksItems = false ∧ w.FitsCheck args [] .always
  | .must f => w.question.asksItems = false ∧ w.FitsCheck args [] (.must f)
  | _ => False

/-- A method is the one of a wiring, and declares what it stands for. -/
def Fits (w : Wiring) (m : Declaration.Method) : Prop :=
  m.name = w.method ∧ ∀ args given,
    Arguments.fill ("RuleBuilder." ++ m.name) 1 m.required m.optional args = .ok given →
      w.FitsDeclaration args (m.declares given)

/-! ## Messages -/

/-- A part of a message as a part of a template, with names for what the call gave. -/
def segment (names : List String) : MessagePart → Template.Segment
  | .text t => .text t
  | .property => .operand Template.fieldName
  | .argument i => .operand (names.getD i "")

/-- Whether a part of a message refers to nothing beyond so many arguments. -/
def inRange (n : Nat) : MessagePart → Bool
  | .argument i => decide (i < n)
  | _ => true

/-- A template says what a message says, with these names for what the call gave. -/
def Spells (names : List String) (message : List MessagePart) (template : String) : Prop :=
  template = Template.written (message.map (segment names)) ∧
    (Template.fieldName :: names).Nodup ∧
    (∀ name ∈ Template.fieldName :: names, Template.IsOperandName name.toList) ∧
    ∀ part ∈ message, inRange names.length part = true

instance (names : List String) (message : List MessagePart) (template : String) :
    Decidable (Spells names message template) :=
  inferInstanceAs (Decidable (_ ∧ _ ∧ _ ∧ _))

theorem lookup_zip {names : List String} (hnames : names.Nodup) {args : List Value}
    (hlength : names.length ≤ args.length) {i : Nat} (hi : i < names.length) :
    (names.zip args).lookup (names.getD i "") = some (args.getD i .none) := by
  induction names generalizing args i with
  | nil => cases hi
  | cons name names ih =>
    cases args with
    | nil => cases hlength
    | cons a args =>
      cases i with
      | zero => simp
      | succ i =>
        have hi' : i < names.length := Nat.lt_of_succ_lt_succ hi
        have hne : names.getD i "" ≠ name := by
          rintro rfl
          apply (List.nodup_cons.mp hnames).1
          rw [List.getD_eq_getElem _ _ hi']
          exact List.getElem_mem hi'
        have hrest := ih (List.nodup_cons.mp hnames).2 (Nat.le_of_succ_le_succ hlength) hi'
        simp only [List.zip_cons_cons, List.getD_cons_succ, List.lookup_cons]
        rw [beq_eq_false_iff_ne.mpr hne]
        exact hrest

/-- A part of a message is the text of its name among the operands of the template. -/
theorem value_segment {names : List String} (hnames : (Template.fieldName :: names).Nodup)
    {args : List Value} (hlength : names.length ≤ args.length) {part : MessagePart}
    (hpart : inRange names.length part = true) (p : Property) :
    (segment names part).value ((Template.fieldName, p.name) :: names.zip args) =
      part.value p args := by
  cases part with
  | text t => rfl
  | property => simp [segment, Template.Segment.value, MessagePart.value]
  | argument i =>
    have hi : i < names.length := by simpa [inRange] using hpart
    obtain ⟨hfield, hnames⟩ := List.nodup_cons.mp hnames
    have hne : names.getD i "" ≠ Template.fieldName := by
      intro h
      apply hfield
      rw [← h, List.getD_eq_getElem _ _ hi]
      exact List.getElem_mem hi
    have hzip := lookup_zip hnames hlength hi
    rw [segment, Template.Segment.value, List.lookup_cons, beq_eq_false_iff_ne.mpr hne]
    simp only [hzip, MessagePart.value]

/-- A check has the message of a wiring if its template says that message, and its operands are
what the call gave, under the names in it. -/
theorem checkMessage_eq {w : Wiring} {names : List String} {args : List Value} {check : Check}
    (hspells : Spells names w.message check.template) (hoperands : check.operands = names.zip args)
    (hlength : names.length ≤ args.length) (p : Property) :
    Chain.checkMessage p check = w.text p args := by
  obtain ⟨htemplate, hnodup, hnames, hparts⟩ := hspells
  have hwritten : ∀ name, .operand name ∈ w.message.map (segment names) →
      Template.IsOperandName name.toList := by
    intro name hname
    obtain ⟨part, hpart, hsegment⟩ := List.mem_map.mp hname
    cases part with
    | text t => cases hsegment
    | property =>
      cases hsegment
      exact hnames _ List.mem_cons_self
    | argument i =>
      cases hsegment
      have hi : i < names.length := by simpa [inRange] using hparts _ hpart
      rw [List.getD_eq_getElem _ _ hi]
      exact hnames _ (List.mem_cons_of_mem _ (List.getElem_mem hi))
  have htexts : ∀ parts : List MessagePart, (∀ part ∈ parts, inRange names.length part = true) →
      (parts.map (segment names)).mapM
        (Template.Segment.value ((Template.fieldName, p.name) :: names.zip args)) =
          parts.mapM (MessagePart.value p args) := by
    intro parts hparts
    induction parts with
    | nil => rfl
    | cons part parts ih =>
      have hpart := value_segment hnodup hlength (hparts part List.mem_cons_self) p
      have hrest := ih fun part' hpart' => hparts part' (List.mem_cons_of_mem part hpart')
      rw [List.map_cons, List.mapM_cons, List.mapM_cons, hpart, hrest]
  rw [Chain.checkMessage, Chain.message, htemplate, hoperands, Template.fill_written hwritten,
    htexts _ hparts, text]

/-! ## The methods -/

/-- What a call that is accepted gave, with what it left out. -/
theorem fill_ok {function : String} {self : Nat} {required : List String}
    {optional : List (String × Value)} {args given : List Value}
    (h : Arguments.fill function self required optional args = .ok given) :
    required.length ≤ args.length ∧ args.length ≤ required.length + optional.length ∧
      given = args ++ (optional.drop (args.length - required.length)).map Prod.snd := by
  unfold Arguments.fill at h
  dsimp only at h
  split at h
  · cases h
  · split at h
    · cases h
    · cases h
      exact ⟨by omega, by omega, rfl⟩

/-- A method without arguments fits a wiring whose answer decides its check. -/
theorem plain {name : String} {check : Check} {question : Question} {message : List MessagePart}
    (hasks : question.asksItems = false)
    (hpasses : ∀ {ω : Type} (host : Host ω) (place : Place) (validator : Nat) (v : Value),
      Run.passes host place validator check v =
        (Wiring.mk name question message).answer host place validator [] [] v)
    (hspells : Spells [] message check.template) (hoperands : check.operands = []) :
    Fits ⟨name, question, message⟩ ⟨name, [], [], fun _ => .check check⟩ := by
  refine ⟨rfl, ?_⟩
  intro args given hfill
  obtain ⟨-, hmost, rfl⟩ := fill_ok hfill
  obtain rfl := List.length_eq_zero_iff.mp (Nat.le_zero.mp hmost)
  exact ⟨hasks, hpasses, checkMessage_eq hspells hoperands (Nat.le_refl 0)⟩

/-- A method with one argument fits a wiring whose answer decides its check. The argument has a
name in the message, or none. -/
theorem unary {name argument template : String} (make : Value → Check) {question : Question}
    {message : List MessagePart} (names : List String) (hasks : question.asksItems = false)
    (hpasses : ∀ {ω : Type} (host : Host ω) (place : Place) (validator : Nat) (a v : Value),
      Run.passes host place validator (make a) v =
        (Wiring.mk name question message).answer host place validator [a] [] v)
    (htemplate : ∀ a, (make a).template = template) (hspells : Spells names message template)
    (hoperands : ∀ a, (make a).operands = names.zip [a]) (hlength : names.length ≤ 1) :
    Fits ⟨name, question, message⟩
      ⟨name, [argument], [], fun args => .check (make (args.headD .none))⟩ := by
  refine ⟨rfl, ?_⟩
  intro args given hfill
  obtain ⟨hleast, hmost, rfl⟩ := fill_ok hfill
  match args, hleast, hmost with
  | [a], _, _ =>
    rw [← htemplate a] at hspells
    exact ⟨hasks, fun host place validator v => hpasses host place validator a v,
      checkMessage_eq hspells (hoperands a) hlength⟩

/-- A method with two arguments fits a wiring whose answer decides its check. -/
theorem binary {name first second template : String} (make : Value → Value → Check)
    {question : Question} {message : List MessagePart} (names : List String)
    (hasks : question.asksItems = false)
    (hpasses : ∀ {ω : Type} (host : Host ω) (place : Place) (validator : Nat) (a b v : Value),
      Run.passes host place validator (make a b) v =
        (Wiring.mk name question message).answer host place validator [a, b] [] v)
    (htemplate : ∀ a b, (make a b).template = template) (hspells : Spells names message template)
    (hoperands : ∀ a b, (make a b).operands = names.zip [a, b]) (hlength : names.length ≤ 2) :
    Fits ⟨name, question, message⟩ ⟨name, [first, second], [], fun args =>
      .check (make (args[0]?.getD .none) (args[1]?.getD .none))⟩ := by
  refine ⟨rfl, ?_⟩
  intro args given hfill
  obtain ⟨hleast, hmost, rfl⟩ := fill_ok hfill
  match args, hleast, hmost with
  | [a, b], _, _ =>
    rw [← htemplate a b] at hspells
    exact ⟨hasks, fun host place validator v => hpasses host place validator a b v,
      checkMessage_eq hspells (hoperands a b) hlength⟩

/-- A method fits a wiring whose second argument may be left out, if the answer does not depend on
whether it was. -/
theorem defaulted {name first second template : String} {default : Value}
    (make : Value → Value → Check) {question : Question} {message : List MessagePart}
    (names : List String) (hasks : question.asksItems = false)
    (hleftOut : ∀ {ω : Type} (host : Host ω) (place : Place) (validator : Nat) (a v : Value),
      Run.passes host place validator (make a default) v =
        (Wiring.mk name question message).answer host place validator [a] [] v)
    (hpasses : ∀ {ω : Type} (host : Host ω) (place : Place) (validator : Nat) (a b v : Value),
      Run.passes host place validator (make a b) v =
        (Wiring.mk name question message).answer host place validator [a, b] [] v)
    (htemplate : ∀ a b, (make a b).template = template) (hspells : Spells names message template)
    (hoperands : ∀ a b, (make a b).operands = names.zip [a]) (hlength : names.length ≤ 1) :
    Fits ⟨name, question, message⟩ ⟨name, [first], [(second, default)], fun args =>
      .check (make (args[0]?.getD .none) (args[1]?.getD .none))⟩ := by
  refine ⟨rfl, ?_⟩
  intro args given hfill
  obtain ⟨hleast, hmost, rfl⟩ := fill_ok hfill
  match args, hleast, hmost with
  | [a], _, _ =>
    rw [← htemplate a default] at hspells
    exact ⟨hasks, fun host place validator v => hleftOut host place validator a v,
      checkMessage_eq hspells (hoperands a default) hlength⟩
  | [a, b], _, _ =>
    rw [← htemplate a b] at hspells
    have hzip : names.zip [a] = names.zip [a, b] := by
      match names, hlength with
      | [], _ => rfl
      | [_], _ => rfl
    exact ⟨hasks, fun host place validator v => hpasses host place validator a b v,
      checkMessage_eq hspells ((hoperands a b).trans hzip) (Nat.le_succ_of_le hlength)⟩

/-- A method that asks for a value among the items of its argument fits the wiring that does. -/
theorem member {name argument : String} {message : List MessagePart}
    (hspells : Spells [] message (Check.isIn []).template) :
    Fits ⟨name, .member "is_in", message⟩
      ⟨name, [argument], [], fun args => .isIn (args.headD .none)⟩ := by
  refine ⟨rfl, ?_⟩
  intro args given hfill
  obtain ⟨hleast, hmost, rfl⟩ := fill_ok hfill
  match args, hleast, hmost with
  | [a], _, _ =>
    refine ⟨rfl, rfl, ?_⟩
    intro items
    exact ⟨fun _ _ _ _ => rfl, checkMessage_eq hspells rfl (Nat.zero_le 1)⟩

/-- A method that takes the check itself fits the wiring that asks it. -/
theorem own {name argument : String} {message : List MessagePart}
    (hspells : Spells [] message Check.always.template) :
    Fits ⟨name, .own, message⟩ ⟨name, [argument], [], fun args => .must (args.headD .none)⟩ := by
  refine ⟨rfl, ?_⟩
  intro args given hfill
  obtain ⟨hleast, hmost, rfl⟩ := fill_ok hfill
  match args, hleast, hmost with
  | [a], _, _ =>
    cases a with
    | none => exact ⟨rfl, fun _ _ _ _ => rfl, checkMessage_eq hspells rfl (Nat.zero_le 1)⟩
    | _ => exact ⟨rfl, fun _ _ _ _ => rfl, checkMessage_eq hspells rfl (Nat.zero_le 1)⟩

/-- The methods that declare a check at once fit the table, row by row. -/
theorem wirings_fit : List.Forall₂ Fits wirings (Declaration.methods.take 29) := by
  -- One step for each row, by the shape of its method: the check asks the predicate of the row by
  -- definition, and templates are compared as texts.
  refine .cons (plain rfl (fun _ _ _ _ => rfl) (by decide +kernel) rfl) ?_
  refine .cons (plain rfl (fun _ _ _ _ => rfl) (by decide +kernel) rfl) ?_
  refine .cons (plain rfl (fun _ _ _ _ => rfl) (by decide +kernel) rfl) ?_
  refine .cons (plain rfl (fun _ _ _ _ => rfl) (by decide +kernel) rfl) ?_
  refine .cons (unary .minLength ["length"] rfl (fun _ _ _ _ _ => rfl) (fun _ => rfl)
    (by decide +kernel) (fun _ => rfl) (by decide)) ?_
  refine .cons (unary .maxLength ["length"] rfl (fun _ _ _ _ _ => rfl) (fun _ => rfl)
    (by decide +kernel) (fun _ => rfl) (by decide)) ?_
  refine .cons (unary .hasMatch [] rfl (fun _ _ _ _ _ => rfl) (fun _ => rfl)
    (by decide +kernel) (fun _ => rfl) (by decide)) ?_
  refine .cons (unary .startsWith ["prefix"] rfl (fun _ _ _ _ _ => rfl) (fun _ => rfl)
    (by decide +kernel) (fun _ => rfl) (by decide)) ?_
  refine .cons (unary .endsWith ["suffix"] rfl (fun _ _ _ _ _ => rfl) (fun _ => rfl)
    (by decide +kernel) (fun _ => rfl) (by decide)) ?_
  refine .cons (defaulted .contains ["substring"] rfl (fun _ _ _ _ _ => rfl)
    (fun _ _ _ _ _ _ => rfl) (fun _ _ => rfl) (by decide +kernel) (fun _ _ => rfl)
    (by decide)) ?_
  refine .cons (unary .equalTo ["other"] rfl (fun _ _ _ _ _ => rfl) (fun _ => rfl)
    (by decide +kernel) (fun _ => rfl) (by decide)) ?_
  refine .cons (unary .greaterThan ["threshold"] rfl (fun _ _ _ _ _ => rfl) (fun _ => rfl)
    (by decide +kernel) (fun _ => rfl) (by decide)) ?_
  refine .cons (unary .lessThan ["threshold"] rfl (fun _ _ _ _ _ => rfl) (fun _ => rfl)
    (by decide +kernel) (fun _ => rfl) (by decide)) ?_
  refine .cons (binary .between ["minimum", "maximum"] rfl (fun _ _ _ _ _ _ => rfl) (fun _ _ => rfl)
    (by decide +kernel) (fun _ _ => rfl) (by decide)) ?_
  refine .cons (plain rfl (fun _ _ _ _ => rfl) (by decide +kernel) rfl) ?_
  refine .cons (plain rfl (fun _ _ _ _ => rfl) (by decide +kernel) rfl) ?_
  refine .cons (plain rfl (fun _ _ _ _ => rfl) (by decide +kernel) rfl) ?_
  refine .cons (plain rfl (fun _ _ _ _ => rfl) (by decide +kernel) rfl) ?_
  refine .cons (plain rfl (fun _ _ _ _ => rfl) (by decide +kernel) rfl) ?_
  refine .cons (plain rfl (fun _ _ _ _ => rfl) (by decide +kernel) rfl) ?_
  refine .cons (member (by decide +kernel)) ?_
  refine .cons (unary .hasCount ["count"] rfl (fun _ _ _ _ _ => rfl) (fun _ => rfl)
    (by decide +kernel) (fun _ => rfl) (by decide)) ?_
  refine .cons (plain rfl (fun _ _ _ _ => rfl) (by decide +kernel) rfl) ?_
  refine .cons (plain rfl (fun _ _ _ _ => rfl) (by decide +kernel) rfl) ?_
  refine .cons (plain rfl (fun _ _ _ _ => rfl) (by decide +kernel) rfl) ?_
  refine .cons (plain rfl (fun _ _ _ _ => rfl) (by decide +kernel) rfl) ?_
  refine .cons (plain rfl (fun _ _ _ _ => rfl) (by decide +kernel) rfl) ?_
  refine .cons (plain rfl (fun _ _ _ _ => rfl) (by decide +kernel) rfl) ?_
  exact .cons (own (by decide +kernel)) .nil

/-- What is found under a name in methods that fit wirings fits what is found there. -/
theorem find_fits {ws : List Wiring} {ms : List Declaration.Method} (h : List.Forall₂ Fits ws ms)
    {method : String} {m : Declaration.Method} (hm : ms.find? (·.name == method) = some m) :
    ∃ w, ws.find? (·.method == method) = some w ∧ w.Fits m := by
  induction h with
  | nil => cases hm
  | @cons w m' ws ms hfits _ ih =>
    rw [List.find?_cons, hfits.1] at hm
    rw [List.find?_cons]
    cases hname : w.method == method with
    | true =>
      rw [hname] at hm
      cases hm
      exact ⟨w, rfl, hfits⟩
    | false =>
      rw [hname] at hm
      exact ih hm

/-- The methods that do not declare a check at once. -/
def otherMethods : List String := ["must_async", "dependent_rule_async", "with_message"]

/-- A call of a method that declares a check at once makes a declaration that a wiring stands
for. -/
theorem ofCall_fits {method : String} (hmethod : method ∉ otherMethods) {args : List Value}
    {d : Declaration} (h : Declaration.ofCall method args = .ok d) :
    ∃ w, wirings.find? (·.method == method) = some w ∧ w.FitsDeclaration args d := by
  have hother : (Declaration.methods.drop 29).find? (·.name == method) = none := by
    rw [List.find?_eq_none]
    intro m hm hname
    apply hmethod
    rw [← beq_iff_eq.mp hname]
    exact List.mem_map_of_mem (f := Declaration.Method.name) hm
  have hsplit : Declaration.methods.find? (·.name == method) =
      (Declaration.methods.take 29).find? (·.name == method) := by
    conv_lhs => rw [← List.take_append_drop 29 Declaration.methods]
    rw [List.find?_append, hother, Option.or_none]
  unfold Declaration.ofCall at h
  rw [hsplit] at h
  cases hm : (Declaration.methods.take 29).find? (·.name == method) with
  | none =>
    rw [hm] at h
    cases h
  | some m =>
    obtain ⟨w, hw, hname, hfits⟩ := find_fits wirings_fit hm
    obtain rfl : m.name = method := by simpa using List.find?_some hm
    simp only [hm] at h
    cases hfill : Arguments.fill ("RuleBuilder." ++ m.name) 1 m.required m.optional args with
    | error f =>
      rw [hfill] at h
      cases h
    | ok given =>
      rw [hfill] at h
      cases h
      exact ⟨w, hw, hfits args given hfill⟩

/-- What is planned for a declaration that a wiring stands for: a check that the wiring decides,
with its message. -/
theorem FitsDeclaration.plan {w : Wiring} {args : List Value} {d : Declaration}
    (hfits : w.FitsDeclaration args d) {s : Store ω} {chain : Chain} {e : Chain.Effect}
    (hplan : Chain.plan s chain d = .ok e) :
    ∃ items check text, w.items s args = .ok items ∧ w.FitsCheck args items check ∧
      w.text chain.property args = .ok text ∧ e = .check check text := by
  have hcheck : ∀ {items : List Value} {check : Check}, w.FitsCheck args items check →
      Chain.planCheck chain.property check = .ok e → ∃ text,
        w.text chain.property args = .ok text ∧ e = .check check text := by
    intro items check hfits hplan
    obtain ⟨text, he, htext⟩ := Chain.planCheck_message hplan
    rw [hfits.2] at htext
    exact ⟨text, htext, he⟩
  have hnone : w.question.asksItems = false → w.items s args = .ok [] := by
    intro hasks
    rw [items, hasks]
    rfl
  cases d with
  | check check =>
    obtain ⟨hasks, hfits⟩ := hfits
    obtain ⟨text, htext, he⟩ := hcheck hfits hplan
    exact ⟨[], check, text, hnone hasks, hfits, htext, he⟩
  | isIn values =>
    obtain ⟨hasks, rfl, hfits⟩ := hfits
    obtain ⟨items, hitems, hplan⟩ := ok_of_bind hplan
    obtain ⟨text, htext, he⟩ := hcheck (hfits items) hplan
    exact ⟨items, .isIn items, text, by rw [Wiring.items, if_pos hasks, hitems], hfits items, htext,
      he⟩
  | must f =>
    cases f with
    | none =>
      obtain ⟨hasks, hfits⟩ := hfits
      obtain ⟨text, htext, he⟩ := hcheck hfits hplan
      exact ⟨[], .always, text, hnone hasks, hfits, htext, he⟩
    | _ =>
      obtain ⟨hasks, hfits⟩ := hfits
      simp only [Chain.plan] at hplan
      split at hplan
      · obtain ⟨text, htext, he⟩ := hcheck hfits hplan
        exact ⟨[], .must _, text, hnone hasks, hfits, htext, he⟩
      · obtain ⟨_, -, hplan⟩ := ok_of_bind hplan
        obtain ⟨_, -, hplan⟩ := ok_of_bind hplan
        cases hplan
  | _ => exact hfits.elim

end Wiring

namespace Chain

open Run

/-- The messages of a chain of one check. -/
theorem failing_single (host : Host ω) (place : Place) (validator : Nat) (v : Value) (e : Entry)
    (s : Store ω) :
    (failing host place validator v [e]).exec s =
      match (passes host place validator e.check v).exec s with
      | (.ok true, s') => (.ok [], s')
      | (.ok false, s') => (.ok [e.message], s')
      | (.error f, s') => (.error f, s') := by
  unfold failing
  rcases hp : (passes host place validator e.check v).exec s with ⟨f | passed, s'⟩
  · exact exec_bind_error hp
  · rw [exec_bind_ok hp]
    cases passed <;> rfl

/-- A call on a new chain of a method that declares a check at once registers a rule. Whenever the
rule has read the property of an object, and the check is still the only one, it asks what the
method stands for: it reports the message iff the answer is no, reports nothing iff it is yes, and
fails iff there is none. What the message names and the items of an operand are those of the
call. -/
theorem call_wired {s t : Store ω} {c validator : Nat} {p : Property}
    (hc : s.chains[c]? = some (.start validator p)) (hv : validator < s.validators.length)
    {method : String} (hmethod : method ∉ Wiring.otherMethods) {args : List Value}
    (h : (call c method args).exec s = (.ok (), t)) :
    ∃ w items text, wirings.find? (·.method == method) = some w ∧ w.items s args = .ok items ∧
      w.text p args = .ok text ∧ t.rulesOf validator = s.rulesOf validator ++ [.batched p c] ∧
      ∀ (host : Host ω) (place : Place) (object v : Value) (u u' : Store ω),
        (readProperty host place p object).exec u = (.ok v, u') →
        u'.chains[c]? = t.chains[c]? →
        (batched host place p c object).exec u =
          match (w.answer host place validator args items v).exec u' with
          | (.ok true, u'') => (.ok [], u'')
          | (.ok false, u'') => (.ok [.str text], u'')
          | (.error f, u'') => (.error f, u'') := by
  obtain ⟨chain, d, e, hchain, hd, hplan, rfl⟩ := call_ok h
  obtain rfl := Option.some.inj (hc.symm.trans hchain)
  obtain ⟨w, hw, hfits⟩ := Wiring.ofCall_fits hmethod hd
  obtain ⟨items, check, text, hitems, hfits, htext, rfl⟩ := hfits.plan hplan
  obtain ⟨drained, hplanned⟩ := planned_eq s d
  rw [hplanned]
  refine ⟨w, items, text, hw, hitems, htext, ?_, ?_⟩
  · exact rulesOf_apply (s := { s with drained := drained }) hv _ c
  · intro host place object v u u' hread hkept
    rw [chains_apply (by exact hc), if_pos rfl] at hkept
    have hentries : u'.entriesOf c = [⟨check, .str text⟩] := by
      rw [Store.entriesOf, hkept]
      rfl
    have hasked : (u'.chains[c]?).elim 0 (·.validator) = validator := by
      rw [hkept]
      rfl
    rw [batched, exec_bind_ok hread, exec_bind_ok (exec_get u'), hasked, hentries,
      failing_single, hfits.1]

/-- A store with a validator and a new chain on a name. -/
def sampleNew : Store Unit := { Store.sample with chains := [.start 0 (.named "name")] }

set_option maxRecDepth 4000 in
/-- What is compared with stands in the message as it is, with its braces. -/
theorem call_wired_sample :
    ∃ t, (call 0 "starts_with" [.str "\x7bfield\x7d"]).exec sampleNew = (.ok (), t) ∧
      (batched (.signalling 0 .none) .outside (.named "name") 0
        (.dict [(.str "name", .str "Ann")])).exec t =
          (.ok [.str "The name field must begin with '\x7bfield\x7d'."], t) := by
  have hcall : ((call 0 "starts_with" [.str "\x7bfield\x7d"]).exec sampleNew).1 = .ok () := by cbv
  have h : (call 0 "starts_with" [.str "\x7bfield\x7d"]).exec sampleNew =
      (.ok (), ((call 0 "starts_with" [.str "\x7bfield\x7d"]).exec sampleNew).2) :=
    Prod.ext hcall rfl
  obtain ⟨w, items, text, hw, -, htext, -, hruns⟩ :=
    call_wired rfl (by decide) (by decide) h
  cases hw
  cases htext
  refine ⟨_, h, ?_⟩
  rw [hruns (.signalling 0 .none) .outside (.dict [(.str "name", .str "Ann")]) (.str "Ann") _ _ rfl
    rfl]
  rfl

end Chain

end Rulebook
