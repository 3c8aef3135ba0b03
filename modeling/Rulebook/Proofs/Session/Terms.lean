import Rulebook.Proofs.Action
import Rulebook.Session.Opening

/-!
# Evaluating terms

Evaluating a term takes identities and makes functions, and leaves everything else. So a property
of the store that does not look at these two holds after it if it held before.

* `Action.Keeps.bind`, `Action.Keeps.forM`: what actions keep that run one after the other.
* `Session.Indifferent`: a property that does not look at identities and functions.
* `Session.eval_keeps`: evaluating a term keeps such a property.
-/

namespace Rulebook

namespace Action

variable {ω α β : Type} {I : Store ω → Prop}

theorem Keeps.ret (x : α) : Keeps I (pure x : Action ω α) := by
  rintro s r s' hs ⟨⟩
  exact hs

theorem Keeps.lift (x : Except Fault α) : Keeps I (liftM x : Action ω α) := by
  rintro s r s' hs ⟨⟩
  exact hs

theorem Keeps.bind {a : Action ω α} {f : α → Action ω β} (ha : Keeps I a)
    (hf : ∀ x, Keeps I (f x)) : Keeps I (a >>= f) := by
  intro s r s' hs h
  cases hr : a.exec s with
  | mk x t =>
    cases x with
    | error e =>
      rw [exec_bind_error hr] at h
      exact ha s _ s' hs (hr.trans (by rw [(Prod.mk.inj h).2]))
    | ok x =>
      rw [exec_bind_ok hr] at h
      exact hf x t r s' (ha s _ t hs hr) h

theorem Keeps.forM {xs : List α} {f : α → Action ω PUnit} (hf : ∀ x ∈ xs, Keeps I (f x)) :
    Keeps I (xs.forM f) := by
  induction xs with
  | nil => exact Keeps.ret PUnit.unit
  | cons x xs ih =>
    exact .bind (hf x List.mem_cons_self) fun _ => ih fun y hy => hf y (List.mem_cons_of_mem x hy)

end Action

namespace Session

open Rulebook.Action

/-- A property that does not look at the two things that evaluating changes: the identities that
are taken and the functions that can be called. -/
def Indifferent (I : Store State → Prop) : Prop :=
  ∀ s fresh functions, I s →
    I { s with extra := { s.extra with fresh := fresh, functions := functions } }

variable {I : Store State → Prop}

theorem state_exec (s : Store State) : (Play.state).exec s = (.ok s.extra, s) := rfl

theorem state_keeps : Keeps I Play.state := by
  rintro s r s' hs ⟨⟩
  exact hs

theorem freshId_keeps (hI : Indifferent I) : Keeps I Play.freshId := by
  rintro s r s' hs ⟨⟩
  exact hI s (s.extra.fresh + 1) s.extra.functions hs

theorem addFunction_keeps (hI : Indifferent I) (f : Function) : Keeps I (Play.addFunction f) := by
  rintro s r s' hs ⟨⟩
  exact hI s s.extra.fresh (s.extra.functions.push f) hs

theorem floatOf_keeps (hI : Indifferent I) (text : String) : Keeps I (floatOf text) :=
  (freshId_keeps hI).bind fun _ => .ret _

mutual

theorem eval_keeps (hI : Indifferent I) : ∀ t : Term, Keeps I t.eval
  | .value v => .ret v
  | .float text => (floatOf_keeps hI text).bind fun _ => .ret _
  | .decimal _ => (freshId_keeps hI).bind fun _ => .ret _
  | .complex re im => (floatOf_keeps hI re).bind fun _ => (floatOf_keeps hI im).bind fun _ =>
      .ret _
  | .list items => (evalAll_keeps hI items).bind fun _ => .ret _
  | .tuple items => (evalAll_keeps hI items).bind fun _ => .ret _
  | .set items => (evalAll_keeps hI items).bind fun _ => .lift _
  | .dict entries => (evalEntries_keeps hI entries).bind fun _ => .lift _
  | .iterator items => (evalAll_keeps hI items).bind fun _ => (freshId_keeps hI).bind fun _ =>
      .ret _
  | .blank => (freshId_keeps hI).bind fun _ => .ret _
  | .class _ => state_keeps.bind fun _ => .ret _
  | .object _ attributes => (evalAttributes_keeps hI attributes).bind fun _ =>
      (freshId_keeps hI).bind fun _ => state_keeps.bind fun _ => .ret _
  | .function _ _ _ => (addFunction_keeps hI _).bind fun _ => .ret _
  | .reference name accessor _ _ => (eval_keeps hI name).bind fun _ =>
      (eval_keeps hI accessor).bind fun _ => state_keeps.bind fun _ => .lift _

theorem evalAll_keeps (hI : Indifferent I) : ∀ ts : List Term, Keeps I (Term.evalAll ts)
  | [] => .ret _
  | t :: ts => (eval_keeps hI t).bind fun _ => (evalAll_keeps hI ts).bind fun _ => .ret _

theorem evalEntries_keeps (hI : Indifferent I) :
    ∀ entries : List (Term × Term), Keeps I (Term.evalEntries entries)
  | [] => .ret _
  | (k, v) :: rest => (eval_keeps hI k).bind fun _ => (eval_keeps hI v).bind fun _ =>
      (evalEntries_keeps hI rest).bind fun _ => .ret _

theorem evalAttributes_keeps (hI : Indifferent I) :
    ∀ attributes : List (String × Term), Keeps I (Term.evalAttributes attributes)
  | [] => .ret _
  | (_, t) :: rest => (eval_keeps hI t).bind fun _ => (evalAttributes_keeps hI rest).bind fun _ =>
      .ret _

end

theorem evalOption_keeps (hI : Indifferent I) (t : Option Term) : Keeps I (evalOption t) := by
  cases t with
  | none => exact .ret _
  | some t => exact (eval_keeps hI t).bind fun _ => .ret _

end Session

end Rulebook
