import SystemUni.Interleaving.Sequential

/-!
# Programs that see only a part of the store

Two executions of one program, in stores that show the same view, are compared.
If no statement lets anything but the view show, in what the program goes on
with or in the view itself, both give the same answer and leave the same view,
whatever else the stores hold and the environment chooses.
-/

set_option autoImplicit false

namespace Interleaving

variable {S : Signature} {α β ε ν : Type}

/-- No statement waits, and what it leaves of the view and how the program goes
on depend on the view only. -/
def Prog.Determined (view : S.State → ν) (allowed : S.Choice → Prop) :
    Prog S α → Prop
  | .ret _ => True
  | .step statement next => ∀ me choice store, allowed choice →
      statement.ready me choice store = true ∧
        (next me choice store).Determined view allowed ∧
        ∀ other otherChoice otherStore, allowed otherChoice →
          view otherStore = view store →
            view (statement.act other otherChoice otherStore) =
                view (statement.act me choice store) ∧
              next other otherChoice otherStore = next me choice store
  | .fork _ next => next.Determined view allowed

section Rules

variable {view : S.State → ν} {allowed : S.Choice → Prop} {me other : Nat}

theorem determined_bind (program : Prog S α) (rest : α → Prog S β)
    (first : program.Determined view allowed)
    (second : ∀ value, (rest value).Determined view allowed) :
    (program.bind rest).Determined view allowed := by
  induction program with
  | ret value => exact second value
  | step statement next inductionHypothesis =>
      intro me choice store allows
      obtain ⟨ready, later, same⟩ := first me choice store allows
      refine ⟨ready, inductionHypothesis me choice store later, ?_⟩
      intro other otherChoice otherStore otherAllows sameView
      obtain ⟨acts, continues⟩ :=
        same other otherChoice otherStore otherAllows sameView
      exact ⟨acts, congrArg (fun program => program.bind rest) continues⟩
  | fork child next inductionHypothesis => exact inductionHypothesis first

theorem determined_runs {program : Prog S α}
    (determined : program.Determined view allowed) {store otherStore last
      otherLast : S.State} {value otherValue : α}
    (runs : Evaluates (Condition.allowing allowed) me program store value last)
    (otherRuns : Evaluates (Condition.allowing allowed) other program otherStore
      otherValue otherLast) (same : view otherStore = view store) :
    otherValue = value ∧ view otherLast = view last := by
  induction program generalizing store otherStore with
  | ret value =>
      cases runs
      cases otherRuns
      exact ⟨rfl, same⟩
  | step statement next inductionHypothesis =>
      cases runs with
      | step _ _ choice _ ready allows rest =>
          cases otherRuns with
          | step _ _ otherChoice _ otherReady otherAllows otherRest =>
              obtain ⟨_, later, agrees⟩ := determined me choice store allows
              obtain ⟨acts, continues⟩ :=
                agrees other otherChoice otherStore otherAllows same
              rw [continues] at otherRest
              exact inductionHypothesis me choice store later rest otherRest
                acts
  | fork child next inductionHypothesis =>
      cases runs with
      | fork _ _ rest =>
          cases otherRuns with
          | fork _ _ otherRest =>
              exact inductionHypothesis determined rest otherRest same

theorem determined_finishes {program : Prog S α}
    (determined : program.Determined view allowed) (store : S.State) :
    Alone allowed me program (fun _ _ => True) store := by
  induction program generalizing store with
  | ret value => trivial
  | step statement next inductionHypothesis =>
      intro choice allows
      obtain ⟨ready, later, _⟩ := determined me choice store allows
      exact ⟨ready, inductionHypothesis me choice store later _⟩
  | fork child next inductionHypothesis =>
      exact inductionHypothesis determined store

end Rules

/-! ## Programs that may raise an exception -/

section Raising

/-- `Prog.Determined` for a program that either returns or raises. -/
def Depends (view : S.State → ν) (allowed : S.Choice → Prop)
    (program : ExceptT ε (Prog S) α) : Prop :=
  program.run.Determined view allowed

variable {view : S.State → ν} {allowed : S.Choice → Prop}

theorem depends_pure {value : α} :
    Depends view allowed (pure value : ExceptT ε (Prog S) α) := trivial

theorem depends_throw {exception : ε} :
    Depends view allowed (throw exception : ExceptT ε (Prog S) α) := trivial

theorem depends_bind {program : ExceptT ε (Prog S) α}
    {rest : α → ExceptT ε (Prog S) β} (first : Depends view allowed program)
    (second : ∀ value, Depends view allowed (rest value)) :
    Depends view allowed (program >>= rest) := by
  refine determined_bind program.run (ExceptT.bindCont rest) first ?_
  intro result
  cases result with
  | ok value => exact second value
  | error exception => exact True.intro

theorem depends_tryCatch {program : ExceptT ε (Prog S) α}
    {handler : ε → ExceptT ε (Prog S) α} (first : Depends view allowed program)
    (second : ∀ exception, Depends view allowed (handler exception)) :
    Depends view allowed (tryCatch program handler) := by
  refine determined_bind program.run _ first ?_
  intro result
  cases result with
  | ok value => exact True.intro
  | error exception => exact second exception

end Raising

end Interleaving
