import SystemUni.Interleaving.Reactions

/-!
# Resources held by threads

A resource is held by at most one thread.  Threads take resources for
themselves only; a thread that may take some lets go of all of them in its last
statement.  Then whatever is held is held by a thread that is still running.
-/

set_option autoImplicit false

namespace Interleaving

variable {S : Signature} {κ α β ρ : Type}

/-- A statement makes nobody but its own thread the holder of anything. -/
def takesForItself (holder : S.State → κ → Option Nat) : Law S :=
  fun me _ _ before after => ∀ key owner, holder after key = some owner →
    holder before key = some owner ∨ owner = me

def Prog.Unfinished (program : Prog S α) : Prop :=
  ∀ value, program ≠ .ret value

/-- The program holds nothing after its last statement. -/
def Prog.LetsGo (holder : S.State → κ → Option Nat) : Prog S α → Prop
  | .ret _ => True
  | .step statement next => ∀ me choice store,
      statement.ready me choice store = true →
        ((next me choice store).Unfinished ∨
          ∀ key, holder (statement.act me choice store) key ≠ some me) ∧
        (next me choice store).LetsGo holder
  | .fork _ next => next.Unfinished ∧ next.LetsGo holder

/-- A program that may take something lets go of it; any other leaves the
holders alone. -/
def Prog.Tidy (holder : S.State → κ → Option Nat) (program : Prog S α) :
    Prop :=
  program.Follows (takesForItself holder) ∧
    (program.LetsGo holder ∨ program.Keeps holder)

section Rules

variable {holder : S.State → κ → Option Nat}

theorem Prog.unfinished_bind (program : Prog S α) {rest : α → Prog S β}
    (second : ∀ value, (rest value).Unfinished) :
    (program.bind rest).Unfinished := by
  cases program with
  | ret value => exact second value
  | step statement next =>
      intro value same
      cases same
  | fork child next =>
      intro value same
      cases same

/-- It is enough that the last part lets go. -/
theorem Prog.letsGo_bind (program : Prog S α) {rest : α → Prog S β}
    (unfinished : ∀ value, (rest value).Unfinished)
    (second : ∀ value, (rest value).LetsGo holder) :
    (program.bind rest).LetsGo holder := by
  induction program with
  | ret value => exact second value
  | step statement next inductionHypothesis =>
      intro me choice store _
      exact ⟨.inl (unfinished_bind _ unfinished),
        inductionHypothesis me choice store⟩
  | fork child next inductionHypothesis =>
      exact ⟨unfinished_bind next unfinished, inductionHypothesis⟩

theorem Prog.LetsGo.answers {program : Prog S α} {rest : α → Prog S β}
    (returns : ∀ value, ∃ answer, rest value = .ret answer)
    (letsGo : program.LetsGo holder) :
    (program.bind rest).LetsGo holder := by
  have unfinished (other : Prog S α) (isUnfinished : other.Unfinished) :
      (other.bind rest).Unfinished := by
    intro value same
    cases other with
    | ret inner => exact isUnfinished inner rfl
    | step statement next => cases same
    | fork child next => cases same
  induction program with
  | ret value =>
      obtain ⟨answer, same⟩ := returns value
      change (rest value).LetsGo holder
      rw [same]
      trivial
  | step statement next inductionHypothesis =>
      intro me choice store ready
      obtain ⟨after, later⟩ := letsGo me choice store ready
      refine ⟨?_, inductionHypothesis me choice store later⟩
      rcases after with goesOn | nothing
      · exact .inl (unfinished _ goesOn)
      · exact .inr nothing
  | fork child next inductionHypothesis =>
      exact ⟨unfinished next letsGo.1, inductionHypothesis letsGo.2⟩

theorem Prog.Keeps.takes {program : Prog S α} (keeps : program.Keeps holder) :
    program.Follows (takesForItself holder) := by
  induction program with
  | ret value => trivial
  | step statement next inductionHypothesis =>
      intro me choice store ready
      obtain ⟨same, later⟩ := keeps me choice store ready
      refine ⟨?_, inductionHypothesis me choice store later⟩
      intro key owner held
      rw [same] at held
      exact .inl held
  | fork child next inductionHypothesis => exact inductionHypothesis keeps

theorem Prog.Keeps.tidy {program : Prog S α} (keeps : program.Keeps holder) :
    program.Tidy holder := ⟨keeps.takes, .inr keeps⟩

end Rules

section Runs

variable {system : System S ρ} {condition : Condition S}
  {holder : S.State → κ → Option Nat}

theorem Run.tidy {first last : Config S ρ}
    (run : Run system condition first last)
    (starts : ∀ store program, system.start store program →
      program.Tidy holder)
    (children : ∀ child, (system.code child).Tidy holder)
    (initially : ∀ program ∈ first.threads, program.Tidy holder) :
    ∀ program ∈ last.threads, program.Tidy holder := by
  refine run.threads _ initially starts children ?_ ?_
  · rintro statement next me choice store ready ⟨follows, releases⟩
    refine ⟨(follows me choice store ready).2, ?_⟩
    rcases releases with letsGo | keeps
    · exact .inl (letsGo me choice store ready).2
    · exact .inr (keeps me choice store ready).2
  · rintro child next ⟨follows, releases⟩
    refine ⟨follows, ?_⟩
    rcases releases with letsGo | keeps
    · exact .inl letsGo.2
    · exact .inr keeps

/-- The holder's thread, which is still going to let go. -/
def HeldByRunning (holder : S.State → κ → Option Nat) (config : Config S ρ) :
    Prop :=
  ∀ key owner, holder config.store key = some owner →
    ∃ program, config.threads[owner]? = some program ∧ program.Unfinished ∧
      program.LetsGo holder

theorem HeldByRunning.transition {config next : Config S ρ} {event : Event S}
    (held : HeldByRunning holder config)
    (tidy : ∀ program ∈ config.threads, program.Tidy holder)
    (transition : Transition system config event next) :
    HeldByRunning holder next := by
  intro key owner holds
  cases transition with
  | arrive arriving allowed =>
      obtain ⟨program, found, rest⟩ := held key owner holds
      have bound := (List.getElem?_eq_some_iff.mp found).1
      exact ⟨program, (List.getElem?_append_left bound).trans found, rest⟩
  | fork thread child rest scheduled =>
      obtain ⟨program, found, unfinished, letsGo⟩ := held key owner holds
      have bound := (List.getElem?_eq_some_iff.mp found).1
      by_cases same : thread = owner
      · subst same
        rw [found] at scheduled
        cases Option.some.inj scheduled
        refine ⟨rest, ?_, letsGo.1, letsGo.2⟩
        rw [List.getElem?_append_left (by simpa using bound)]
        exact List.getElem?_set_self bound
      · refine ⟨program, ?_, unfinished, letsGo⟩
        rw [List.getElem?_append_left (by simpa using bound)]
        exact (List.getElem?_set_ne same).trans found
  | act thread statement rest choice scheduled ready =>
      have bound := (List.getElem?_eq_some_iff.mp scheduled).1
      obtain ⟨follows, releases⟩ := tidy _ (List.mem_of_getElem? scheduled)
      have lawful := (follows thread choice config.store ready).1
      by_cases same : thread = owner
      · subst same
        refine ⟨_, List.getElem?_set_self bound, ?_⟩
        have letsGo : (Prog.step statement rest).LetsGo holder := by
          rcases releases with letsGo | keeps
          · exact letsGo
          · -- It held the resource before, so it is among those that let go.
            have before := (keeps thread choice config.store ready).1
            rw [before] at holds
            obtain ⟨program, found, _, letsGo⟩ := held key thread holds
            rw [scheduled] at found
            cases Option.some.inj found
            exact letsGo
        obtain ⟨after, later⟩ := letsGo thread choice config.store ready
        rcases after with unfinished | nothing
        · exact ⟨unfinished, later⟩
        · exact absurd holds (nothing key)
      · have before : holder config.store key = some owner := by
          rcases lawful key owner holds with before | mine
          · exact before
          · exact absurd mine.symm same
        obtain ⟨program, found, rest⟩ := held key owner before
        exact ⟨program, (List.getElem?_set_ne same).trans found, rest⟩

/-- Nothing is held by a thread that is not running any more. -/
theorem Run.heldByRunning {store : S.State} {config : Config S ρ}
    (starts : ∀ store program, system.start store program →
      program.Tidy holder)
    (children : ∀ child, (system.code child).Tidy holder)
    (free : ∀ key, holder store key = none)
    (reachable : Reachable system condition store config) :
    HeldByRunning holder config := by
  induction reachable with
  | refl =>
      intro key owner holds
      rw [free key] at holds
      cases holds
  | step before transition _ inductionHypothesis =>
      have tidy := before.tidy starts children (List.forall_mem_nil _)
      exact inductionHypothesis.transition tidy transition

end Runs

end Interleaving
