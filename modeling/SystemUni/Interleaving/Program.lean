import Mathlib

/-!
# Sequential programs over a shared store

A program is a tree of atomic statements.  Everything a statement cannot know
from the store (a clock reading, a random draw, how a call to a server ends)
is a choice made by the environment when the statement is executed.  The tree
is finite along every branch; an endless loop is a program that starts its own
next turn as a child.
-/

set_option autoImplicit false

namespace Interleaving

/-- What the programs of one system share: the store, the environment's
choices, the names of the statements and the names of the programs that a
program may start. -/
structure Signature where
  State : Type
  Choice : Type
  Label : Type
  Child : Type

/-- One atomic statement as executed by thread `me`: it waits until `ready`
and then replaces the store by `act`. -/
structure Statement (S : Signature) where
  label : S.Label
  ready : Nat → S.Choice → S.State → Bool
  act : Nat → S.Choice → S.State → S.State

inductive Prog (S : Signature) (α : Type) : Type where
  | ret (value : α)
  | step (statement : Statement S)
      (next : Nat → S.Choice → S.State → Prog S α)
  | fork (child : S.Child) (next : Prog S α)

namespace Prog

variable {S : Signature} {α β γ : Type}

/-- Execute one statement and answer what it observed before acting. -/
def perform (statement : Statement S)
    (answer : Nat → S.Choice → S.State → α) : Prog S α :=
  .step statement fun me choice state => .ret (answer me choice state)

protected def bind : Prog S α → (α → Prog S β) → Prog S β
  | .ret value, rest => rest value
  | .step statement next, rest =>
      .step statement fun me choice state => (next me choice state).bind rest
  | .fork child next, rest => .fork child (next.bind rest)

instance : Monad (Prog S) where
  pure := .ret
  bind := Prog.bind

theorem bind_ret (program : Prog S α) : program.bind .ret = program := by
  induction program with
  | ret value => rfl
  | step statement next inductionHypothesis =>
      simp only [Prog.bind, inductionHypothesis]
  | fork child next inductionHypothesis =>
      simp only [Prog.bind, inductionHypothesis]

theorem bind_assoc (program : Prog S α) (middle : α → Prog S β)
    (last : β → Prog S γ) :
    (program.bind middle).bind last =
      program.bind fun value => (middle value).bind last := by
  induction program with
  | ret value => rfl
  | step statement next inductionHypothesis =>
      simp only [Prog.bind, inductionHypothesis]
  | fork child next inductionHypothesis =>
      simp only [Prog.bind, inductionHypothesis]

instance : LawfulMonad (Prog S) :=
  LawfulMonad.mk' (Prog S) (fun program => bind_ret program)
    (fun _ _ => rfl) bind_assoc

/-! ## Running alone -/

/-- Thread `me` executes the program with nobody else acting, reading the
environment's choices off a stream.  The result is the answer, the final store
and the choices left over; `none` means that a statement waits forever.
Children are not executed. -/
def solo (me : Nat) : Prog S α → (Nat → S.Choice) → S.State →
    Option (α × S.State × (Nat → S.Choice))
  | .ret value, choices, state => some (value, state, choices)
  | .step statement next, choices, state =>
      if statement.ready me (choices 0) state then
        (next me (choices 0) state).solo me (fun index => choices (index + 1))
          (statement.act me (choices 0) state)
      else none
  | .fork _ next, choices, state => next.solo me choices state

/-! ## Programs that leave a part of the store alone -/

/-- Every statement the program can execute leaves `view` of the store as it
was. -/
def Keeps {ν : Type} (view : S.State → ν) : Prog S α → Prop
  | .ret _ => True
  | .step statement next => ∀ me choice state,
      statement.ready me choice state = true →
        view (statement.act me choice state) = view state ∧
          (next me choice state).Keeps view
  | .fork _ next => next.Keeps view

theorem keeps_bind {ν : Type} (view : S.State → ν) (program : Prog S α)
    (rest : α → Prog S β) (first : program.Keeps view)
    (second : ∀ value, (rest value).Keeps view) :
    (program.bind rest).Keeps view := by
  induction program with
  | ret value => exact second value
  | step statement next inductionHypothesis =>
      intro me choice state ready
      obtain ⟨kept, later⟩ := first me choice state ready
      exact ⟨kept, inductionHypothesis me choice state later⟩
  | fork child next inductionHypothesis => exact inductionHypothesis first

/-- A program that leaves a view alone leaves alone all that is computed from
it. -/
theorem Keeps.map {ν μ : Type} {view : S.State → ν} {program : Prog S α}
    (project : ν → μ) (keeps : program.Keeps view) :
    program.Keeps fun state => project (view state) := by
  induction program with
  | ret value => trivial
  | step statement next inductionHypothesis =>
      intro me choice state ready
      obtain ⟨kept, later⟩ := keeps me choice state ready
      exact ⟨congrArg project kept, inductionHypothesis me choice state later⟩
  | fork child next inductionHypothesis => exact inductionHypothesis keeps

end Prog

/-! ## Programs that may raise an exception -/

section Raising

variable {S : Signature} {ε α β ν : Type} {view : S.State → ν}

/-- `Prog.Keeps` for a program that either returns or raises. -/
def Leaves (view : S.State → ν) (program : ExceptT ε (Prog S) α) : Prop :=
  program.run.Keeps view

theorem leaves_pure {value : α} :
    Leaves view (pure value : ExceptT ε (Prog S) α) := trivial

theorem leaves_throw {exception : ε} :
    Leaves view (throw exception : ExceptT ε (Prog S) α) := trivial

theorem leaves_bind {program : ExceptT ε (Prog S) α}
    {rest : α → ExceptT ε (Prog S) β} (first : Leaves view program)
    (second : ∀ value, Leaves view (rest value)) :
    Leaves view (program >>= rest) := by
  refine Prog.keeps_bind view program.run (ExceptT.bindCont rest) first ?_
  intro result
  cases result with
  | ok value => exact second value
  | error exception => exact True.intro

theorem leaves_tryCatch {program : ExceptT ε (Prog S) α}
    {handler : ε → ExceptT ε (Prog S) α} (first : Leaves view program)
    (second : ∀ exception, Leaves view (handler exception)) :
    Leaves view (tryCatch program handler) := by
  refine Prog.keeps_bind view program.run _ first ?_
  intro result
  cases result with
  | ok value => exact True.intro
  | error exception => exact second exception

end Raising

end Interleaving
