import SystemUni.Interleaving.RelyGuarantee

/-!
# Running alone

With nobody else acting, a program is a function of the environment's choices.
`Alone` says that whatever allowed choices are made no statement waits and the
program finishes with `post`; it is total correctness, along the program text.
-/

set_option autoImplicit false

namespace Interleaving

variable {S : Signature} {α β ε : Type}

def Alone (allowed : S.Choice → Prop) (me : Nat) :
    Prog S α → (α → S.State → Prop) → S.State → Prop
  | .ret value, post, store => post value store
  | .step statement next, post, store => ∀ choice, allowed choice →
      statement.ready me choice store = true ∧
        Alone allowed me (next me choice store) post
          (statement.act me choice store)
  | .fork _ next, post, store => Alone allowed me next post store

section Rules

variable {allowed : S.Choice → Prop} {me : Nat}

theorem alone_solo (program : Prog S α) {post : α → S.State → Prop}
    (store : S.State) (alone : Alone allowed me program post store)
    (choices : Nat → S.Choice) (allows : ∀ index, allowed (choices index)) :
    ∃ value after left,
      program.solo me choices store = some (value, after, left) ∧
        post value after := by
  induction program generalizing store choices with
  | ret value => exact ⟨value, store, choices, rfl, alone⟩
  | step statement next inductionHypothesis =>
      obtain ⟨ready, continues⟩ := alone (choices 0) (allows 0)
      simp only [Prog.solo, if_pos ready]
      exact inductionHypothesis me (choices 0) store _ continues _
        fun index => allows (index + 1)
  | fork child next inductionHypothesis =>
      exact inductionHypothesis store alone choices allows

theorem alone_bind (program : Prog S α) (rest : α → Prog S β)
    (post : β → S.State → Prop) (store : S.State)
    (alone : Alone allowed me program
      (fun value later => Alone allowed me (rest value) post later) store) :
    Alone allowed me (program.bind rest) post store := by
  induction program generalizing store with
  | ret value => exact alone
  | step statement next inductionHypothesis =>
      intro choice allows
      obtain ⟨ready, continues⟩ := alone choice allows
      exact ⟨ready, inductionHypothesis me choice store _ continues⟩
  | fork child next inductionHypothesis =>
      exact inductionHypothesis store alone

theorem alone_mono (program : Prog S α) {post other : α → S.State → Prop}
    (store : S.State) (alone : Alone allowed me program post store)
    (implies : ∀ value later, post value later → other value later) :
    Alone allowed me program other store := by
  induction program generalizing store with
  | ret value => exact implies value store alone
  | step statement next inductionHypothesis =>
      intro choice allows
      obtain ⟨ready, continues⟩ := alone choice allows
      exact ⟨ready, inductionHypothesis me choice store _ continues⟩
  | fork child next inductionHypothesis =>
      exact inductionHypothesis store alone

theorem alone_weaken (program : Prog S α) {post : α → S.State → Prop}
    {fewer : S.Choice → Prop} (store : S.State)
    (implies : ∀ choice, fewer choice → allowed choice)
    (alone : Alone allowed me program post store) :
    Alone fewer me program post store := by
  induction program generalizing store with
  | ret value => exact alone
  | step statement next inductionHypothesis =>
      intro choice allows
      obtain ⟨ready, continues⟩ := alone choice (implies choice allows)
      exact ⟨ready, inductionHypothesis me choice store _ continues⟩
  | fork child next inductionHypothesis =>
      exact inductionHypothesis store alone

end Rules

/-! ## Programs that may raise an exception -/

section Raising

/-- `Alone` for a program that either returns or raises. -/
def Finishes (allowed : S.Choice → Prop) (me : Nat)
    (program : ExceptT ε (Prog S) α) (post : α → S.State → Prop)
    (fail : ε → S.State → Prop) (store : S.State) : Prop :=
  Alone allowed me program.run (outcome post fail) store

variable {allowed : S.Choice → Prop} {me : Nat}
  {post : α → S.State → Prop} {fail : ε → S.State → Prop} {store : S.State}

theorem finishes_pure (value : α) (holds : post value store) :
    Finishes allowed me (pure value : ExceptT ε (Prog S) α) post fail store :=
  holds

theorem finishes_throw (exception : ε) (holds : fail exception store) :
    Finishes allowed me (throw exception : ExceptT ε (Prog S) α) post fail
      store := holds

theorem finishes_bind {program : ExceptT ε (Prog S) α}
    {rest : α → ExceptT ε (Prog S) β} {last : β → S.State → Prop}
    (first : Finishes allowed me program
      (fun value later => Finishes allowed me (rest value) last fail later)
      fail store) :
    Finishes allowed me (program >>= rest) last fail store := by
  refine alone_bind program.run (ExceptT.bindCont rest) _ store
    (alone_mono program.run store first ?_)
  intro result later holds
  cases result with
  | ok value => exact holds
  | error exception => exact holds

theorem finishes_tryCatch {program : ExceptT ε (Prog S) α}
    {handler : ε → ExceptT ε (Prog S) α}
    (first : Finishes allowed me program post
      (fun exception later =>
        Finishes allowed me (handler exception) post fail later) store) :
    Finishes allowed me (tryCatch program handler) post fail store := by
  refine alone_bind program.run _ _ store
    (alone_mono program.run store first ?_)
  intro result later holds
  cases result with
  | ok value => exact holds
  | error exception => exact holds

theorem finishes_mono {program : ExceptT ε (Prog S) α}
    {other : α → S.State → Prop} {otherFail : ε → S.State → Prop}
    (first : Finishes allowed me program post fail store)
    (returned : ∀ value later, post value later → other value later)
    (raised : ∀ exception later, fail exception later →
      otherFail exception later) :
    Finishes allowed me program other otherFail store := by
  refine alone_mono program.run store first ?_
  intro result later holds
  cases result with
  | ok value => exact returned value later holds
  | error exception => exact raised exception later holds

end Raising

end Interleaving
