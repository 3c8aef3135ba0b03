import Rulebook.Proofs.Run.Alike

/-!
# The tasks of a run

What a run does with an object, laid out in a row: reading the property of a rule, asking each of
its checks about what was read, asking a check that may have to be waited for. A run without a
signal is these tasks, one after the other, up to the first fault.

* `Run.Task`, `Run.perform`, `Run.performAll`: the tasks, and what one and all of them do.
* `Run.Verdict`: what a check said.
* `Run.performAll_error`: a fault ends the row at the task that raised it.
* `Run.failing_eq`, `Run.batched_ok`: the checks of a chain, as tasks.
-/

namespace Rulebook

variable {ω : Type}

/-- The name of a property that is named by a text. -/
def Property.key (p : Property) : String :=
  match p.name with
  | .str name => name
  | _ => ""

/-- The validator whose settings the checks of a chain look at. -/
def Store.ownerOf (s : Store ω) (c : Nat) : Nat := (s.chains[c]?).elim 0 (·.validator)

namespace Run

open Rulebook.Action

/-- One thing that a run does with an object. -/
inductive Task where
  /-- Reads a property for the checks that come next. -/
  | read (p : Property)
  /-- Asks a check about what was read last. -/
  | check (p : Property) (owner : Nat) (e : Entry)
  | standalone (p : Property) (check : StandaloneCheck) (message : Value)

/-- What a check said of an object. -/
structure Verdict where
  name : String
  message : Value
  passed : Bool

/-- The messages of the checks that were not passed, each for its name. -/
def failures (vs : List Verdict) : List (String × Value) :=
  (vs.filter (!·.passed)).map fun v => (v.name, v.message)

theorem failures_append (vs ws : List Verdict) :
    failures (vs ++ ws) = failures vs ++ failures ws := by
  simp [failures]

/-- No message is left iff every check was passed. -/
theorem failures_eq_nil {vs : List Verdict} : failures vs = [] ↔ ∀ v ∈ vs, v.passed = true := by
  simp [failures]

variable (host : Host ω) (mode : Mode) (validator : Nat) (object : Value)

/-- Does a task, given what was read last. Gives what was read last then, and what a check said;
a check that has to be waited for says what it says in the end. -/
def perform (x : Value) : Task → Action ω (Value × List Verdict)
  | .read p => do
    let x ← readProperty host mode.place p object
    pure (x, [])
  | .check p owner e => do
    let passed ← passes host mode.place owner e.check x
    pure (x, [⟨p.key, e.message, passed⟩])
  | .standalone p check message => do
    let inside ← drivenAt host mode validator
    let outcome ← callStandalone host inside p check object
    let outcome ← await host inside outcome
    pure (x, [⟨p.key, message, outcome.truthy⟩])

/-- Does tasks one after the other, each once, up to the first fault. -/
def performAll (x : Value) : List Task → Action ω (Value × List Verdict)
  | [] => pure (x, [])
  | t :: ts => do
    let (x, vs) ← perform host mode validator object x t
    let (x, ws) ← performAll x ts
    pure (x, vs ++ ws)

/-- The tasks of a rule: those of a chain are in the order in which it holds its checks. -/
def tasksOf (s : Store ω) : Rule → List Task
  | .batched p c => .read p :: (s.entriesOf c).map (.check p (s.ownerOf c))
  | .standalone p check message => [.standalone p check message]

variable {host mode validator object}

theorem performAll_append (x : Value) (ts us : List Task) :
    performAll host mode validator object x (ts ++ us) = (do
      let (x, vs) ← performAll host mode validator object x ts
      let (x, ws) ← performAll host mode validator object x us
      pure (x, vs ++ ws)) := by
  induction ts generalizing x with
  | nil => simp [performAll]
  | cons t ts ih => simp [performAll, ih, List.append_assoc]

/-- A fault comes from a task before which all were done, and after which none was. -/
theorem performAll_error {x : Value} {ts : List Task} {s s' : Store ω} {f : Fault}
    (h : (performAll host mode validator object x ts).exec s = (.error f, s')) :
    ∃ done t rest y vs s₁, ts = done ++ t :: rest ∧
      (performAll host mode validator object x done).exec s = (.ok (y, vs), s₁) ∧
      (perform host mode validator object y t).exec s₁ = (.error f, s') := by
  induction ts generalizing x s with
  | nil => simp [performAll] at h
  | cons t ts ih =>
    rcases bind_error h with h | ⟨⟨y, vs⟩, s₁, ht, h⟩
    · exact ⟨[], t, ts, x, [], s, rfl, rfl, h⟩
    · rcases bind_error h with h | ⟨_, _, _, h⟩
      · obtain ⟨done, u, rest, z, ws, s₂, rfl, hd, hu⟩ := ih h
        refine ⟨t :: done, u, rest, z, vs ++ ws, s₂, rfl, ?_, hu⟩
        rw [performAll, exec_bind_ok ht, exec_bind_ok hd]
        rfl
      · simp at h

variable (host mode validator object) in
/-- The messages that the checks of a chain leave are those of the checks that were not passed. -/
theorem failing_eq (p : Property) (owner : Nat) (x : Value) (es : List Entry) :
    (do
      let messages ← failing host mode.place owner x es
      pure (messages.map fun m => (p.key, m))) = (do
      let (_, vs) ← performAll host mode validator object x (es.map (.check p owner))
      pure (failures vs)) := by
  induction es with
  | nil => rfl
  | cons e es ih =>
    have step : ∀ passed : Bool, (do
        let messages ← failing host mode.place owner x es
        pure ((if passed then messages else e.message :: messages).map fun m => (p.key, m))) =
        (do
        let ps ← (do
          let messages ← failing host mode.place owner x es
          pure (messages.map fun m => (p.key, m)))
        pure (if passed then ps else (p.key, e.message) :: ps)) := by
      intro passed
      cases passed <;> simp
    simp only [failing, List.map_cons, performAll, perform, bind_assoc, pure_bind]
    refine congrArg _ (funext fun passed => ?_)
    rw [step, ih]
    simp only [bind_assoc, pure_bind]
    refine congrArg _ (funext fun q => ?_)
    cases passed <;> rfl

/-- Asked about what was read, every check says something. -/
theorem performAll_checks {p : Property} {owner : Nat} {x y : Value} {es : List Entry}
    {vs : List Verdict} {s s' : Store ω}
    (h : (performAll host mode validator object x (es.map (.check p owner))).exec s =
      (.ok (y, vs), s')) : y = x ∧ vs.map (·.message) = es.map (·.message) := by
  induction es generalizing s vs with
  | nil =>
    obtain ⟨h, -⟩ := Prod.mk.inj h
    cases h
    exact ⟨rfl, rfl⟩
  | cons e es ih =>
    obtain ⟨⟨x₁, ws⟩, s₁, hcheck, hrest⟩ := bind_ok h
    obtain ⟨passed, s₂, -, hpassed⟩ := bind_ok hcheck
    obtain ⟨hpassed, rfl⟩ := Prod.mk.inj hpassed
    cases hpassed
    obtain ⟨⟨z, us⟩, s₃, hall, hlast⟩ := bind_ok hrest
    obtain ⟨hlast, rfl⟩ := Prod.mk.inj hlast
    cases hlast
    obtain ⟨rfl, hmessages⟩ := ih hall
    exact ⟨rfl, congrArg (e.message :: ·) hmessages⟩

/-- From the first store to the second one, all the checks of a chain are asked about its
property, and each of them says something. -/
def AsksAll (host : Host ω) (mode : Mode) (validator : Nat) (object : Value) (p : Property)
    (c : Nat) (s s' : Store ω) : Prop :=
  ∃ x t vs, (readProperty host mode.place p object).exec s = (.ok x, t) ∧
    (performAll host mode validator object x
      ((t.entriesOf c).map (.check p (t.ownerOf c)))).exec t = (.ok (x, vs), s') ∧
    vs.map (·.message) = (t.entriesOf c).map (·.message)

/-- A rule that reads a chain and does not fault reads its property, and then asks the checks that
the chain holds; it leaves the messages of those that were not passed. -/
theorem batched_ok {p : Property} {c : Nat} {messages : List Value} {s s' : Store ω}
    (h : (runRule host mode validator object (.batched p c)).exec s = (.ok messages, s')) :
    ∃ x t vs, (readProperty host mode.place p object).exec s = (.ok x, t) ∧
      (failing host mode.place (t.ownerOf c) x (t.entriesOf c)).exec t = (.ok messages, s') ∧
      (performAll host mode validator object x
        ((t.entriesOf c).map (.check p (t.ownerOf c)))).exec t = (.ok (x, vs), s') ∧
      messages.map (fun m => (p.key, m)) = failures vs := by
  obtain ⟨x, t, hread, h⟩ := bind_ok h
  rw [exec_bind_ok (exec_get t)] at h
  have hfailing : (failing host mode.place (t.ownerOf c) x (t.entriesOf c)).exec t =
      (.ok messages, s') := h
  have pairs := congrArg (·.exec t)
    (failing_eq host mode validator object p (t.ownerOf c) x (t.entriesOf c))
  rw [exec_bind_ok hfailing] at pairs
  obtain ⟨⟨y, vs⟩, t', hall, hlast⟩ := bind_ok pairs.symm
  obtain ⟨hmessages, rfl⟩ := Prod.mk.inj hlast
  obtain ⟨rfl, -⟩ := performAll_checks hall
  exact ⟨y, t, vs, hread, hfailing, hall, (Except.ok.inj hmessages).symm⟩

/-- A rule that reads a chain and does not fault asks all its checks. -/
theorem asksAll_of_runRule {p : Property} {c : Nat} {messages : List Value} {s s' : Store ω}
    (h : (runRule host mode validator object (.batched p c)).exec s = (.ok messages, s')) :
    AsksAll host mode validator object p c s s' := by
  obtain ⟨x, t, vs, hread, -, hall, -⟩ := batched_ok h
  exact ⟨x, t, vs, hread, hall, (performAll_checks hall).2⟩

end Run

end Rulebook
