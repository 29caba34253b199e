import SystemUni.Interleaving.Alone

/-!
# Proofs for every logic

`Runs` is about a program among others and `Finishes` about one that is alone,
but a proof along the text of a program uses the same rules for both.  A logic
is what has these rules; what is proved in every logic is proved once.
-/

set_option autoImplicit false

namespace Interleaving

structure Logic (S : Signature) (ε : Type) where
  Holds : {α : Type} → ExceptT ε (Prog S) α → (α → S.State → Prop) →
    (ε → S.State → Prop) → S.State → Prop
  returns : ∀ {α : Type} {post : α → S.State → Prop}
    {fail : ε → S.State → Prop} {store : S.State} (value : α),
    post value store → Holds (pure value) post fail store
  raises : ∀ {α : Type} {post : α → S.State → Prop}
    {fail : ε → S.State → Prop} {store : S.State} (exception : ε),
    fail exception store → Holds (throw exception) post fail store
  sequences : ∀ {α β : Type} {program : ExceptT ε (Prog S) α}
    {rest : α → ExceptT ε (Prog S) β} {post : β → S.State → Prop}
    {fail : ε → S.State → Prop} {store : S.State},
    Holds program (fun value later => Holds (rest value) post fail later)
      fail store → Holds (program >>= rest) post fail store
  handles : ∀ {α : Type} {program : ExceptT ε (Prog S) α}
    {handler : ε → ExceptT ε (Prog S) α} {post : α → S.State → Prop}
    {fail : ε → S.State → Prop} {store : S.State},
    Holds program post
      (fun exception later => Holds (handler exception) post fail later)
      store → Holds (tryCatch program handler) post fail store
  weakens : ∀ {α : Type} {program : ExceptT ε (Prog S) α}
    {post other : α → S.State → Prop} {fail otherFail : ε → S.State → Prop}
    {store : S.State}, Holds program post fail store →
    (∀ value later, post value later → other value later) →
    (∀ exception later, fail exception later → otherFail exception later) →
      Holds program other otherFail store

variable {S : Signature}

/-- The logic of a thread among others. -/
def Discipline.logic (D : Discipline S) (me : Nat) (ε : Type) :
    Logic S ε where
  Holds := Runs D me
  returns := runs_pure
  raises := runs_throw
  sequences := runs_bind
  handles := runs_tryCatch
  weakens := runs_mono

/-- The logic of a program that is alone. -/
def Logic.alone (allowed : S.Choice → Prop) (me : Nat) (ε : Type) :
    Logic S ε where
  Holds := Finishes allowed me
  returns := finishes_pure
  raises := finishes_throw
  sequences := finishes_bind
  handles := finishes_tryCatch
  weakens := finishes_mono

end Interleaving
