import SystemUni.Interleaving.System

/-!
# Rely-guarantee reasoning

A discipline names an invariant of the store, what every thread may rely on
between two of its statements and what every executed statement guarantees.
`Safe` is checked thread by thread along the program text; `Obeys.sound` turns
it into facts about all configurations of all runs.
-/

set_option autoImplicit false

namespace Interleaving

variable {S : Signature} {ρ : Type}

structure Discipline (S : Signature) where
  inv : S.State → Prop
  rely : Nat → S.State → S.State → Prop
  guar : Nat → S.Label → S.Choice → S.State → S.State → Prop
  ok : Condition S
  rely_refl : ∀ me store, rely me store store
  rely_trans : ∀ me {first middle last}, rely me first middle →
    rely me middle last → rely me first last
  guar_rely : ∀ {me other label choice before after}, me ≠ other →
    guar me label choice before after → rely other before after

/-- A store in which thread `me` may go on after it left `store` behind. -/
structure Later (D : Discipline S) (me : Nat) (store later : S.State) :
    Prop where
  inv : D.inv later
  rely : D.rely me store later

theorem Later.refl {D : Discipline S} {me : Nat} {store : S.State}
    (invariant : D.inv store) : Later D me store store :=
  ⟨invariant, D.rely_refl me store⟩

theorem Later.trans {D : Discipline S} {me : Nat}
    {first middle last : S.State} (before : Later D me first middle)
    (after : Later D me middle last) : Later D me first last :=
  ⟨after.inv, D.rely_trans me before.rely after.rely⟩

/-- Executed by thread `me` from this store, with others interfering as far as
the discipline lets them, every statement of the program keeps the discipline
and the program can only finish with `post`. -/
def Safe {α : Type} (D : Discipline S) (me : Nat) :
    Prog S α → (α → S.State → Prop) → S.State → Prop
  | .ret value, post, store => post value store
  | .step statement next, post, store => ∀ choice,
      statement.ready me choice store = true →
      D.ok statement.label choice store →
        D.inv (statement.act me choice store) ∧
        D.guar me statement.label choice store
          (statement.act me choice store) ∧
        ∀ later, D.inv later →
          D.rely me (statement.act me choice store) later →
          Safe D me (next me choice store) post later
  | .fork _ next, post, store => ∀ later, D.inv later →
      D.rely me store later → Safe D me next post later

/-- Safe now and after any interference. -/
def SafeFrom {α : Type} (D : Discipline S) (me : Nat) (program : Prog S α)
    (post : α → S.State → Prop) (store : S.State) : Prop :=
  ∀ later, D.inv later → D.rely me store later → Safe D me program post later

theorem SafeFrom.later {α : Type} {D : Discipline S} {me : Nat}
    {program : Prog S α} {post : α → S.State → Prop} {store next : S.State}
    (safe : SafeFrom D me program post store) (rely : D.rely me store next) :
    SafeFrom D me program post next :=
  fun last invariant relies =>
    safe last invariant (D.rely_trans me rely relies)

theorem SafeFrom.now {α : Type} {D : Discipline S} {me : Nat}
    {program : Prog S α} {post : α → S.State → Prop} {store : S.State}
    (safe : SafeFrom D me program post store) (invariant : D.inv store) :
    Safe D me program post store :=
  safe store invariant (D.rely_refl me store)

theorem safe_bind {α β : Type} (D : Discipline S) (me : Nat)
    (program : Prog S α) (rest : α → Prog S β)
    (post : β → S.State → Prop) (store : S.State)
    (safe : Safe D me program
      (fun value later => Safe D me (rest value) post later) store) :
    Safe D me (program.bind rest) post store := by
  induction program generalizing store with
  | ret value => exact safe
  | step statement next inductionHypothesis =>
      intro choice ready ok
      obtain ⟨kept, guaranteed, continues⟩ := safe choice ready ok
      refine ⟨kept, guaranteed, ?_⟩
      intro later invariant rely
      exact inductionHypothesis me choice store later
        (continues later invariant rely)
  | fork child next inductionHypothesis =>
      intro later invariant rely
      exact inductionHypothesis later (safe later invariant rely)

theorem safe_mono {α : Type} (D : Discipline S) (me : Nat)
    (program : Prog S α) {post other : α → S.State → Prop} (store : S.State)
    (safe : Safe D me program post store)
    (implies : ∀ value later, post value later → other value later) :
    Safe D me program other store := by
  induction program generalizing store with
  | ret value => exact implies value store safe
  | step statement next inductionHypothesis =>
      intro choice ready ok
      obtain ⟨kept, guaranteed, continues⟩ := safe choice ready ok
      refine ⟨kept, guaranteed, ?_⟩
      intro later invariant rely
      exact inductionHypothesis me choice store later
        (continues later invariant rely)
  | fork child next inductionHypothesis =>
      intro later invariant rely
      exact inductionHypothesis later (safe later invariant rely)

theorem safe_inv {α : Type} (D : Discipline S) (me : Nat)
    (program : Prog S α) {post : α → S.State → Prop} (store : S.State)
    (invariant : D.inv store) (safe : Safe D me program post store) :
    Safe D me program (fun value later => D.inv later ∧ post value later)
      store := by
  induction program generalizing store with
  | ret value => exact ⟨invariant, safe⟩
  | step statement next inductionHypothesis =>
      intro choice ready ok
      obtain ⟨kept, guaranteed, continues⟩ := safe choice ready ok
      refine ⟨kept, guaranteed, ?_⟩
      intro later laterInvariant rely
      exact inductionHypothesis me choice store later laterInvariant
        (continues later laterInvariant rely)
  | fork child next inductionHypothesis =>
      intro later laterInvariant rely
      exact inductionHypothesis later laterInvariant
        (safe later laterInvariant rely)

/-- A program that leaves alone all that a discipline speaks about keeps the
discipline, and takes part in the run like any interference. -/
theorem safe_of_keeps {α ν : Type} (D : Discipline S) (me : Nat)
    (view : S.State → ν)
    (still : ∀ label choice before after, view after = view before →
      D.inv before → D.inv after ∧ D.guar me label choice before after ∧
        D.rely me before after)
    (program : Prog S α) (keeps : program.Keeps view)
    (post : α → S.State → Prop) (store : S.State) (invariant : D.inv store)
    (returns : ∀ value later, Later D me store later → post value later) :
    Safe D me program post store := by
  induction program generalizing store with
  | ret value => exact returns value store (.refl invariant)
  | step statement next inductionHypothesis =>
      intro choice ready _
      obtain ⟨kept, later⟩ := keeps me choice store ready
      obtain ⟨after, guaranteed, unseen⟩ :=
        still statement.label choice store _ kept invariant
      refine ⟨after, guaranteed, ?_⟩
      intro last lastInvariant rely
      have follows : Later D me store last :=
        ⟨lastInvariant, D.rely_trans me unseen rely⟩
      exact inductionHypothesis me choice store later last lastInvariant
        fun value final further => returns value final (follows.trans further)
  | fork child next inductionHypothesis =>
      intro later laterInvariant rely
      have follows : Later D me store later := ⟨laterInvariant, rely⟩
      exact inductionHypothesis keeps later laterInvariant
        fun value final further => returns value final (follows.trans further)

/-! ## Two disciplines at once -/

def Discipline.both (first second : Discipline S) : Discipline S where
  inv store := first.inv store ∧ second.inv store
  rely me before after := first.rely me before after ∧ second.rely me before after
  guar me label choice before after :=
    first.guar me label choice before after ∧
      second.guar me label choice before after
  ok label choice store := first.ok label choice store ∧ second.ok label choice store
  rely_refl me store := ⟨first.rely_refl me store, second.rely_refl me store⟩
  rely_trans me _ _ _ before after :=
    ⟨first.rely_trans me before.1 after.1, second.rely_trans me before.2 after.2⟩
  guar_rely different guaranteed :=
    ⟨first.guar_rely different guaranteed.1, second.guar_rely different guaranteed.2⟩

theorem safe_both {α : Type} (first second : Discipline S) (me : Nat)
    (program : Prog S α) (post other : α → S.State → Prop) (store : S.State)
    (one : Safe first me program post store)
    (two : Safe second me program other store) :
    Safe (first.both second) me program
      (fun value later => post value later ∧ other value later) store := by
  induction program generalizing store with
  | ret value => exact ⟨one, two⟩
  | step statement next inductionHypothesis =>
      intro choice ready ok
      obtain ⟨keptOne, guaranteedOne, laterOne⟩ := one choice ready ok.1
      obtain ⟨keptTwo, guaranteedTwo, laterTwo⟩ := two choice ready ok.2
      refine ⟨⟨keptOne, keptTwo⟩, ⟨guaranteedOne, guaranteedTwo⟩, ?_⟩
      intro later invariant rely
      exact inductionHypothesis me choice store later
        (laterOne later invariant.1 rely.1) (laterTwo later invariant.2 rely.2)
  | fork child next inductionHypothesis =>
      intro later invariant rely
      exact inductionHypothesis later (one later invariant.1 rely.1)
        (two later invariant.2 rely.2)

/-- The discipline of leaving one view of the store alone. -/
def frameDiscipline {ν : Type} (view : S.State → ν) : Discipline S where
  inv _ := True
  rely _ _ _ := True
  guar _ _ _ before after := view after = view before
  ok := anything
  rely_refl _ _ := trivial
  rely_trans _ _ _ _ _ _ := trivial
  guar_rely _ _ := trivial

theorem safe_frame {α ν : Type} {view : S.State → ν} {program : Prog S α}
    (keeps : program.Keeps view) (me : Nat) (store : S.State) :
    Safe (frameDiscipline view) me program (fun _ _ => True) store :=
  safe_of_keeps _ me view (fun _ _ _ _ same _ => ⟨trivial, same, trivial⟩)
    program keeps _ store trivial fun _ _ _ => trivial

/-! ## Stronger disciplines -/

/-- What a statement owes to the stronger discipline follows from what it
guarantees already if it leaves the view alone. -/
structure Discipline.Refines {ν : Type} (stronger D : Discipline S)
    (view : S.State → ν) : Prop where
  inv : ∀ store, stronger.inv store → D.inv store
  rely : ∀ me before after, stronger.rely me before after →
    D.rely me before after
  ok : ∀ label choice store, stronger.ok label choice store →
    D.ok label choice store
  step : ∀ me label choice before after, stronger.inv before →
    stronger.ok label choice before → D.inv after →
    D.guar me label choice before after → view after = view before →
      stronger.inv after ∧ stronger.guar me label choice before after

theorem safe_refine {α ν : Type} {stronger D : Discipline S}
    {view : S.State → ν} (refines : stronger.Refines D view) (me : Nat)
    (program : Prog S α) (keeps : program.Keeps view)
    (post : α → S.State → Prop) (store : S.State)
    (invariant : stronger.inv store) (safe : Safe D me program post store) :
    Safe stronger me program post store := by
  induction program generalizing store with
  | ret value => exact safe
  | step statement next inductionHypothesis =>
      intro choice ready ok
      obtain ⟨same, laterKeeps⟩ := keeps me choice store ready
      obtain ⟨kept, guaranteed, continues⟩ :=
        safe choice ready (refines.ok statement.label choice store ok)
      obtain ⟨after, owed⟩ := refines.step me statement.label choice store _
        invariant ok kept guaranteed same
      refine ⟨after, owed, ?_⟩
      intro later laterInvariant rely
      exact inductionHypothesis me choice store laterKeeps later laterInvariant
        (continues later (refines.inv later laterInvariant)
          (refines.rely me _ later rely))
  | fork child next inductionHypothesis =>
      intro later laterInvariant rely
      exact inductionHypothesis keeps later laterInvariant
        (safe later (refines.inv later laterInvariant)
          (refines.rely me store later rely))

/-! ## From threads to runs -/

/-- Every program the system can ever start is safe. -/
structure Obeys (system : System S ρ) (D : Discipline S)
    (post : ρ → S.State → Prop) : Prop where
  starts : ∀ me store program, D.inv store → system.start store program →
    SafeFrom D me program post store
  children : ∀ me child store, D.inv store →
    SafeFrom D me (system.code child) post store

theorem Obeys.both {system : System S ρ} {first second : Discipline S}
    {post other : ρ → S.State → Prop} (one : Obeys system first post)
    (two : Obeys system second other) :
    Obeys system (first.both second)
      (fun value store => post value store ∧ other value store) where
  starts me store program invariant request later laterInvariant rely :=
    safe_both first second me program post other later
      (one.starts me store program invariant.1 request later laterInvariant.1
        rely.1)
      (two.starts me store program invariant.2 request later laterInvariant.2
        rely.2)
  children me child store invariant later laterInvariant rely :=
    safe_both first second me _ post other later
      (one.children me child store invariant.1 later laterInvariant.1 rely.1)
      (two.children me child store invariant.2 later laterInvariant.2 rely.2)

/-- The invariant, and the safety of what is left of every thread. -/
structure Disciplined (D : Discipline S) (post : ρ → S.State → Prop)
    (config : Config S ρ) : Prop where
  inv : D.inv config.store
  threads : ∀ thread program, config.threads[thread]? = some program →
    SafeFrom D thread program post config.store

section Soundness

variable {system : System S ρ} {D : Discipline S} {post : ρ → S.State → Prop}

theorem Disciplined.guaranteed {config next : Config S ρ} {thread : Nat}
    {label : S.Label} {choice : S.Choice}
    (disciplined : Disciplined D post config)
    (transition : Transition system config (.act thread label choice) next)
    (ok : D.ok label choice config.store) :
    D.inv next.store ∧ D.guar thread label choice config.store next.store := by
  cases transition with
  | act thread statement rest choice scheduled ready =>
      have safe := (disciplined.threads thread _ scheduled).now disciplined.inv
      obtain ⟨kept, guaranteed, _⟩ := safe choice ready ok
      exact ⟨kept, guaranteed⟩

theorem Disciplined.arrive
    {config : Config S ρ} {program : Prog S ρ}
    (disciplined : Disciplined D post config)
    (safe : ∀ thread, SafeFrom D thread program post config.store) :
    Disciplined D post
      { config with threads := config.threads ++ [program] } := by
  refine ⟨disciplined.inv, ?_⟩
  intro thread member found
  rw [List.getElem?_append] at found
  split at found
  · exact disciplined.threads thread member found
  · have same : program = member := by
      rw [List.getElem?_singleton] at found
      split at found
      · exact Option.some.inj found
      · cases found
    subst same
    exact safe thread

theorem Disciplined.set {config : Config S ρ} {thread : Nat}
    {program : Prog S ρ} {store : S.State}
    (disciplined : Disciplined D post config) (kept : D.inv store)
    (rely : ∀ other, thread ≠ other → D.rely other config.store store)
    (safe : SafeFrom D thread program post store) :
    Disciplined D post ⟨store, config.threads.set thread program⟩ := by
  refine ⟨kept, ?_⟩
  intro other member found
  rw [List.getElem?_set] at found
  split at found
  · rename_i same
    subst same
    split at found
    · cases Option.some.inj found
      exact safe
    · cases found
  · rename_i different
    exact (disciplined.threads other member found).later (rely other different)

theorem Obeys.transition (obeys : Obeys system D post)
    {config next : Config S ρ} {event : Event S}
    (disciplined : Disciplined D post config)
    (transition : Transition system config event next)
    (admitted : D.ok.Admits event config.store) :
    Disciplined D post next := by
  cases transition with
  | arrive program allowed =>
      exact disciplined.arrive fun thread =>
        obeys.starts thread config.store program disciplined.inv allowed
  | fork thread child rest scheduled =>
      have safe := (disciplined.threads thread _ scheduled).now disciplined.inv
      have parent : Disciplined D post
          ⟨config.store, config.threads.set thread rest⟩ :=
        disciplined.set disciplined.inv
          (fun other _ => D.rely_refl other config.store) safe
      exact parent.arrive fun thread =>
        obeys.children thread child config.store disciplined.inv
  | act thread statement rest choice scheduled ready =>
      have safe := (disciplined.threads thread _ scheduled).now disciplined.inv
      obtain ⟨kept, guaranteed, continues⟩ := safe choice ready admitted
      exact disciplined.set kept
        (fun other different => D.guar_rely different guaranteed) continues

theorem Obeys.run (obeys : Obeys system D post) {first last : Config S ρ}
    (disciplined : Disciplined D post first)
    (run : Run system D.ok first last) : Disciplined D post last := by
  induction run with
  | refl => exact disciplined
  | step _ transition admitted inductionHypothesis =>
      exact obeys.transition inductionHypothesis transition admitted

/-- Soundness: a system that obeys a discipline keeps it in every reachable
configuration. -/
theorem Obeys.sound (obeys : Obeys system D post) {store : S.State}
    (initial : D.inv store) {config : Config S ρ}
    (reachable : Reachable system D.ok store config) :
    Disciplined D post config := by
  refine obeys.run ⟨initial, ?_⟩ reachable
  intro thread program found
  cases found

theorem Disciplined.finished {config : Config S ρ}
    (disciplined : Disciplined D post config) {answer : ρ}
    (finished : Prog.ret answer ∈ config.threads) :
    post answer config.store := by
  obtain ⟨thread, bound, found⟩ := List.mem_iff_getElem.mp finished
  have scheduled : config.threads[thread]? = some (Prog.ret answer) := by
    rw [List.getElem?_eq_getElem bound, found]
  exact (disciplined.threads thread _ scheduled).now disciplined.inv

/-- What every statement of the system does to the store, a run does. -/
theorem Obeys.relates (obeys : Obeys system D post)
    (relation : S.State → S.State → Prop)
    (refl : ∀ store, relation store store)
    (trans : ∀ {before middle after}, relation before middle →
      relation middle after → relation before after)
    (each : ∀ me label choice before after, D.inv before →
      D.guar me label choice before after → relation before after)
    {first last : Config S ρ} (disciplined : Disciplined D post first)
    (run : Run system D.ok first last) : relation first.store last.store := by
  refine run.relates relation refl trans ?_
  intro middle next thread label choice before transition ok
  have here := obeys.run disciplined before
  exact each thread label choice _ _ here.inv
    (here.guaranteed transition ok).2

/-- A further invariant on top of a discipline, kept by every statement that
meets the condition of the run. -/
theorem Obeys.preserves (obeys : Obeys system D post)
    {condition : Condition S}
    (admits : ∀ label choice store, condition label choice store →
      D.ok label choice store)
    (invariant : S.State → Prop)
    (each : ∀ me label choice before after, D.inv before →
      D.guar me label choice before after → condition label choice before →
      invariant before → invariant after)
    {first last : Config S ρ} (disciplined : Disciplined D post first)
    (run : Run system condition first last)
    (initially : invariant first.store) : invariant last.store := by
  induction run with
  | refl => exact initially
  | @step middle last event before transition admitted inductionHypothesis =>
      have here := obeys.run disciplined (before.weaken admits)
      have happened := transition
      cases transition with
      | arrive program allowed => exact inductionHypothesis
      | fork thread child next scheduled => exact inductionHypothesis
      | act thread statement next choice scheduled ready =>
          have guaranteed := here.guaranteed happened (admits _ _ _ admitted)
          exact each thread statement.label choice _ _ here.inv guaranteed.2
            admitted inductionHypothesis

/-- Threads that arrive while a stable property holds may be specified from
it. -/
theorem Obeys.newcomers (obeys : Obeys system D post)
    (later : ρ → S.State → Prop) (property : S.State → Prop)
    (stable : ∀ me label choice before after, D.inv before →
      D.guar me label choice before after → property before → property after)
    (starts : ∀ me store program, D.inv store → property store →
      system.start store program → SafeFrom D me program later store)
    (children : ∀ me child store, D.inv store → property store →
      SafeFrom D me (system.code child) later store)
    {first last : Config S ρ} (disciplined : Disciplined D post first)
    (run : Run system D.ok first last) (initially : property first.store) :
    first.threads.length ≤ last.threads.length ∧ property last.store ∧
      ∀ thread program, first.threads.length ≤ thread →
        last.threads[thread]? = some program →
          SafeFrom D thread program later last.store := by
  induction run with
  | refl =>
      refine ⟨le_refl _, initially, ?_⟩
      intro thread program arrived found
      rw [List.getElem?_eq_none arrived] at found
      cases found
  | @step middle last event before transition admitted inductionHypothesis =>
      obtain ⟨grows, holds, safe⟩ := inductionHypothesis
      have here := obeys.run disciplined before
      have happened := transition
      cases transition with
      | arrive program allowed =>
          refine ⟨by simpa using Nat.le_succ_of_le grows, holds, ?_⟩
          intro thread member arrived found
          rw [List.getElem?_append] at found
          split at found
          · exact safe thread member arrived found
          · rw [List.getElem?_singleton] at found
            split at found
            · cases Option.some.inj found
              exact starts thread middle.store _ here.inv holds allowed
            · cases found
      | fork forking child next scheduled =>
          refine ⟨by simpa using Nat.le_succ_of_le grows, holds, ?_⟩
          intro thread member arrived found
          rw [List.getElem?_append] at found
          split at found
          · rw [List.getElem?_set] at found
            split at found
            · rename_i same
              subst same
              split at found
              · cases Option.some.inj found
                exact (safe forking _ arrived scheduled).now here.inv
              · cases found
            · exact safe thread member arrived found
          · rw [List.getElem?_singleton] at found
            split at found
            · cases Option.some.inj found
              exact children thread child middle.store here.inv holds
            · cases found
      | act acting statement next choice scheduled ready =>
          obtain ⟨kept, guaranteed⟩ := here.guaranteed happened admitted
          refine ⟨by simpa using grows,
            stable acting _ choice _ _ here.inv guaranteed holds, ?_⟩
          intro thread member arrived found
          rw [List.getElem?_set] at found
          split at found
          · rename_i same
            subst same
            split at found
            · cases Option.some.inj found
              have now := (safe acting _ arrived scheduled).now here.inv
              exact (now choice ready admitted).2.2
            · cases found
          · rename_i different
            exact (safe thread member arrived found).later
              (D.guar_rely different guaranteed)

end Soundness

/-! ## Programs that may raise an exception -/

section Raising

variable {ε α β : Type} (D : Discipline S) (me : Nat)

def outcome (post : α → S.State → Prop) (fail : ε → S.State → Prop) :
    Except ε α → S.State → Prop
  | .ok value => post value
  | .error exception => fail exception

/-- `Safe` for a program that either returns or raises. -/
def Runs (program : ExceptT ε (Prog S) α) (post : α → S.State → Prop)
    (fail : ε → S.State → Prop) (store : S.State) : Prop :=
  Safe D me program.run (outcome post fail) store

variable {D me}
variable {post : α → S.State → Prop} {fail : ε → S.State → Prop}
  {store : S.State}

theorem runs_pure (value : α) (holds : post value store) :
    Runs D me (pure value : ExceptT ε (Prog S) α) post fail store := holds

theorem runs_throw (exception : ε) (holds : fail exception store) :
    Runs D me (throw exception : ExceptT ε (Prog S) α) post fail store := holds

theorem runs_bind {program : ExceptT ε (Prog S) α}
    {rest : α → ExceptT ε (Prog S) β} {last : β → S.State → Prop}
    (runs : Runs D me program
      (fun value later => Runs D me (rest value) last fail later) fail store) :
    Runs D me (program >>= rest) last fail store := by
  refine safe_bind D me program.run (ExceptT.bindCont rest) _ store
    (safe_mono D me program.run store runs ?_)
  intro result later holds
  cases result with
  | ok value => exact holds
  | error exception => exact holds

theorem runs_tryCatch {program : ExceptT ε (Prog S) α}
    {handler : ε → ExceptT ε (Prog S) α}
    (runs : Runs D me program post
      (fun exception later => Runs D me (handler exception) post fail later)
      store) :
    Runs D me (tryCatch program handler) post fail store := by
  refine safe_bind D me program.run _ _ store
    (safe_mono D me program.run store runs ?_)
  intro result later holds
  cases result with
  | ok value => exact holds
  | error exception => exact holds

theorem runs_mono {program : ExceptT ε (Prog S) α}
    {other : α → S.State → Prop} {otherFail : ε → S.State → Prop}
    (runs : Runs D me program post fail store)
    (returned : ∀ value later, post value later → other value later)
    (raised : ∀ exception later, fail exception later →
      otherFail exception later) :
    Runs D me program other otherFail store := by
  refine safe_mono D me program.run store runs ?_
  intro result later holds
  cases result with
  | ok value => exact returned value later holds
  | error exception => exact raised exception later holds

theorem runs_inv {program : ExceptT ε (Prog S) α} (invariant : D.inv store)
    (runs : Runs D me program post fail store) :
    Runs D me program (fun value later => D.inv later ∧ post value later)
      (fun exception later => D.inv later ∧ fail exception later) store := by
  refine safe_mono D me program.run store
    (safe_inv D me program.run store invariant runs) ?_
  intro result later holds
  cases result with
  | ok value => exact holds
  | error exception => exact holds

end Raising

end Interleaving
