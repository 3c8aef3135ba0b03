import Rulebook.Arguments
import Rulebook.Store

/-!
# Declaring rules

Checks are declared on a property one call after the other. A call looks at its operands and writes
the message, and then puts the check into the chain or the rule into the validator. What is left
after that is a note of it, with the names of the properties; nobody reads it, but it is written,
and a name that cannot be written fails there.

* `Declaration.ofCall`: what a call with arguments declares.
* `Chain.declare`: makes a declaration on a chain.
-/

namespace Rulebook

/-- What a call on a chain declares. -/
inductive Declaration where
  /-- A check whose operands are taken as they are. -/
  | check (c : Check)
  /-- A value among those that something gives. -/
  | isIn (values : Value)
  /-- A check of one's own; nothing stands for one that every value passes. -/
  | must (predicate : Value)
  | mustAsync (predicate message : Value)
  | dependent (other predicate message : Value)
  /-- Another message for the last check; nothing stands for that of the settings. -/
  | withMessage (message : Value)

namespace Declaration

/-- A call: its name, the names of the arguments it needs and of those it may have, and what it
declares. Arguments left out are filled in. -/
structure Method where
  name : String
  required : List String
  optional : List (String × Value)
  declares : List Value → Declaration

/-- A call without arguments. -/
private def plain (name : String) (c : Check) : Method := ⟨name, [], [], fun _ => .check c⟩

/-- A call with one argument. -/
private def unary (name argument : String) (make : Value → Declaration) : Method :=
  ⟨name, [argument], [], fun args => make (args.headD .none)⟩

/-- The argument at a position. -/
private def arg (args : List Value) (i : Nat) : Value := args[i]?.getD .none

/-- All calls on a chain. -/
def methods : List Method := [
  plain "not_null" .notNull,
  plain "null" .null,
  plain "not_empty" .notEmpty,
  plain "empty" .empty,
  unary "minimum_length" "length" fun v => .check (.minLength v),
  unary "maximum_length" "length" fun v => .check (.maxLength v),
  unary "matches" "pattern" fun v => .check (.hasMatch v),
  unary "starts_with" "prefix" fun v => .check (.startsWith v),
  unary "ends_with" "suffix" fun v => .check (.endsWith v),
  ⟨"must_contain", ["substring"], [("case_sensitive", .bool false)],
    fun args => .check (.contains (arg args 0) (arg args 1))⟩,
  unary "equal_to" "other" fun v => .check (.equalTo v),
  unary "greater_than" "threshold" fun v => .check (.greaterThan v),
  unary "less_than" "threshold" fun v => .check (.lessThan v),
  ⟨"between", ["minimum", "maximum"], [],
    fun args => .check (.between (arg args 0) (arg args 1))⟩,
  plain "positive" .positive,
  plain "negative" .negative,
  plain "not_zero" .notZero,
  plain "future_date" .future,
  plain "past_date" .past,
  plain "today" .today,
  unary "is_in" "values" .isIn,
  unary "has_count" "count" fun v => .check (.hasCount v),
  plain "not_empty_collection" .nonEmptyCollection,
  plain "is_alpha" .alpha,
  plain "is_alphanumeric" .alphanumeric,
  plain "is_numeric" .numeric,
  plain "email" .email,
  plain "url" .url,
  unary "must" "predicate" .must,
  ⟨"must_async", ["predicate"], [("message", .none)],
    fun args => .mustAsync (arg args 0) (arg args 1)⟩,
  ⟨"dependent_rule_async", ["dependent", "predicate"], [("message", .none)],
    fun args => .dependent (arg args 0) (arg args 1) (arg args 2)⟩,
  unary "with_message" "message" .withMessage]

/-- What a call with arguments declares. -/
def ofCall (name : String) (args : List Value) : Except Fault Declaration :=
  match methods.find? (·.name == name) with
  | none => .error (.noAttribute "RuleBuilder" name)
  | some m =>
    (Arguments.fill ("RuleBuilder." ++ name) 1 m.required m.optional args).map m.declares

end Declaration

namespace Chain

variable {ω : Type}

/-- A template filled in with the name of a property and operands. -/
def message (p : Property) (template : String) (operands : Template.Operands) :
    Except Fault String :=
  Template.fill template ((Template.fieldName, p.name) :: operands)

/-- The message of a check on a property. -/
def checkMessage (p : Property) (c : Check) : Except Fault String :=
  message p c.template c.operands

/-- Refuses a check that needs numbers on a property that is declared to hold none. -/
def requireNumeric (p : Property) (c : Check) : Except Fault Unit :=
  match c.numericName? with
  | none => .ok ()
  | some check =>
    if p.declared.numericVerdict == some false then do
      let name ← p.name.text
      let declared ← p.declared.text
      .error (.notNumeric check p.name name declared)
    else .ok ()

/-- A chain without checks. -/
def start (validator : Nat) (property : Property) : Chain := ⟨validator, property, [], false⟩

/-- The chain and its property. -/
def find (c : Nat) : Action ω Chain := do
  match (← get).chains[c]? with
  | some chain => pure chain
  | none => throw .unbounded

/-- Writes names into a note of a rule that was registered. The note is not kept. -/
def note : List Value → Except Fault Unit
  | [] => .ok ()
  | name :: names => do
    let _ ← name.text
    note names

/-- Puts a check with its message behind those of a chain. The first one registers the rule that
reads the chain. -/
def append (c : Nat) (chain : Chain) (check : Check) (message : String) : Action ω Unit := do
  modify fun s => s.modifyChain c fun ch =>
    { ch with entries := ch.entries ++ [⟨check, .str message⟩] }
  if !chain.registered then do
    modify fun s => s.addRule chain.validator (.batched chain.property c)
    modify fun s => s.modifyChain c fun ch => { ch with registered := true }
    note [chain.property.name]

/-- Declares a check. -/
def declareCheck (c : Nat) (chain : Chain) (check : Check) : Action ω Unit := do
  requireNumeric chain.property check
  let text ← checkMessage chain.property check
  append c chain check text

/-- Refuses what cannot be called as a predicate of a check that may have to be waited for. -/
def requireCallable (p : Property) (check : String) (predicate : Value) : Except Fault Unit :=
  if predicate.isCallable then .ok ()
  else do
    let name ← p.name.text
    let shown ← predicate.shown
    .error (.needsCallable check p.name name shown)

/-- The template of the message of a check that may have to be waited for. -/
def asyncTemplate : String := "The field \x7bfield\x7d does not meet the specified condition."

/-- The template of the message of a check on two properties. -/
def dependentTemplate : String :=
  "The field \x7bfield\x7d does not meet the dependent condition of \x7bdependent\x7d."

/-- A message that is given, or that of a template. -/
def givenOr (given : Value) (text : Unit → Except Fault String) : Except Fault Value :=
  match given with
  | .none => (text ()).map .str
  | v => .ok v

/-- The default message of the settings for a property. -/
def defaultMessage (settings : Settings) (p : Property) : Except Fault Value :=
  match settings.defaultMessage with
  | .str template => (message p template []).map .str
  | v => do
    let found ← v.getAttribute "format"
    .error (.notCallable found.typeName)

/-- A message that is given, or the default message of the settings. -/
def messageOr (settings : Settings) (p : Property) (given : Value) : Except Fault Value :=
  match given with
  | .none => defaultMessage settings p
  | v => .ok v

/-- Replaces the message of the last check. -/
def replaceLast (entries : List Entry) (message : Value) : List Entry :=
  match entries with
  | [] => []
  | [e] => [{ e with message }]
  | e :: es => e :: replaceLast es message

/-- Gives the last check another message. -/
def declareMessage (c : Nat) (chain : Chain) (given : Value) : Action ω Unit := do
  if chain.entries.isEmpty then pure ()
  else do
    let settings := (← get).settingsOf chain.validator
    let text ← messageOr settings chain.property given
    modify fun s => s.modifyChain c fun ch => { ch with entries := replaceLast ch.entries text }

/-- Declares a check of one's own. -/
def declareMust (c : Nat) (chain : Chain) (predicate : Value) : Action ω Unit :=
  match predicate with
  | .none => declareCheck c chain .always
  | f => do
    if f.isCallable then declareCheck c chain (.must f)
    else do
      let name ← chain.property.name.text
      let shown ← f.shown
      throw (.predicateNotCallable chain.property.name name shown)

/-- Declares a check on the property that may have to be waited for. -/
def declareAsync (chain : Chain) (predicate given : Value) : Action ω Unit := do
  requireCallable chain.property "must_async" predicate
  let text ← givenOr given fun _ => message chain.property asyncTemplate []
  modify fun s => s.addRule chain.validator (.standalone chain.property (.own predicate) text)
  note [chain.property.name]

/-- Declares a check on the property and another one. -/
def declareDependent (chain : Chain) (other predicate given : Value) : Action ω Unit := do
  match other with
  | .none => do
    let name ← chain.property.name.text
    throw (.dependentMissing chain.property.name name)
  | _ => pure ()
  requireCallable chain.property "dependent_rule_async" predicate
  let otherProperty ← Property.resolve other ((← get).modelOf chain.validator)
  let text ← givenOr given fun _ =>
    message chain.property dependentTemplate [("dependent", otherProperty.name)]
  modify fun s => s.addRule chain.validator
    (.standalone chain.property (.dependent otherProperty predicate) text)
  note [chain.property.name, otherProperty.name]

/-- Makes a declaration on a chain. -/
def declare (c : Nat) (d : Declaration) : Action ω Unit := do
  let chain ← find c
  match d with
  | .check check => declareCheck c chain check
  | .isIn values => do
    let allowed ← Action.elements values
    declareCheck c chain (.isIn allowed)
  | .must predicate => declareMust c chain predicate
  | .mustAsync predicate given => declareAsync chain predicate given
  | .dependent other predicate given => declareDependent chain other predicate given
  | .withMessage given => declareMessage c chain given

/-- A call on a chain with arguments. -/
def call (c : Nat) (method : String) (args : List Value) : Action ω Unit := do
  let d ← Declaration.ofCall method args
  declare c d

/-- How a chain is shown. -/
def shown (chain : Chain) : Except Fault String := do
  let name ← chain.property.name.shown
  pure ("RuleBuilder(" ++ name ++ ", state=" ++
    (if chain.registered then "materialized" else "accumulating") ++ ", checks=" ++
    toString chain.entries.length ++ ")")

end Chain

namespace Validator

variable {ω : Type}

/-- Starts a chain on the property that a selector stands for, and gives its number. -/
def ruleFor (v : Nat) (selector : Value) : Action ω Nat := do
  let s ← get
  let p ← Property.resolve selector (s.modelOf v)
  set { s with chains := s.chains ++ [Chain.start v p] }
  pure s.chains.length

/-- How a validator is shown. -/
def shown (v : Validator) : Except Fault String := do
  let model ← (match v.model with
    | none => .ok "None"
    | some m => if m.value.truthy then m.name else .ok "None" : Except Fault String)
  pure (v.className ++ "(model=" ++ model ++ ", rules=" ++ toString v.rules.length ++ ")")

end Validator

namespace Rule

variable {ω : Type}

/-- How a rule is shown. -/
def shown (s : Store ω) : Rule → Except Fault String
  | .batched p c => do
    let name ← p.name.shown
    pure ("BatchedRule(" ++ name ++ ", checks=" ++ toString (s.entriesOf c).length ++ ")")
  | .standalone p _ _ => do
    let name ← p.name.shown
    pure ("StandaloneRule(" ++ name ++ ")")

end Rule

end Rulebook
