import SystemUni.Enrollments.Creation

/-!
# Concurrent enrollment

Any number of `create_enrollment` requests, interleaved statement by statement
with nobody else writing, is equivalent to executing them one after another.
-/

set_option autoImplicit false

namespace SystemUni.Enrollments.Concurrency

open Interleaving Relational
open SystemUni.Runtime.Errors
open SystemUni.Runtime.Statements
open SystemUni.Models.Rows
open SystemUni.Models.Schema
open SystemUni.Crud.Enrollment
open SystemUni.Enrollments.Creation

/-! ## Tables up to what the database generates -/

/-- A row without its id and its time of creation. -/
def content (row : Enrollment) : Enrollment :=
  { row with id := 0, createdAt := 0 }

def contents (tables : Tables) : List Enrollment :=
  tables.enrollments.rows.map content

structure Alike (tables other : Tables) : Prop where
  students : tables.students = other.students
  courseOfferings : tables.courseOfferings = other.courseOfferings
  enrollments : contents tables = contents other

section Alike

variable {tables other : Tables} {enrollment : EnrollmentCreate}

theorem any_contents (condition : Enrollment → Bool)
    (ignores : ∀ row, condition (content row) = condition row) :
    tables.enrollments.rows.any condition = (contents tables).any condition := by
  rw [contents, List.any_map]
  congr 1
  funext row
  exact (ignores row).symm

theorem Alike.refusal (alike : Alike tables other) :
    refusal enrollment tables = refusal enrollment other := by
  unfold Creation.refusal
  rw [alike.students, alike.courseOfferings,
    any_contents enrollment.samePair fun _ => rfl,
    any_contents enrollment.samePair fun _ => rfl, alike.enrollments]

theorem insertable_iff_contents :
    Insertable enrollment tables ↔ ∀ row ∈ contents tables,
      enrollment.samePair row = false ∧ enrollment.sameCode row = false := by
  unfold Insertable contents
  rw [List.forall_mem_map]
  rfl

theorem Alike.insertable (alike : Alike tables other) :
    Insertable enrollment tables ↔ Insertable enrollment other := by
  rw [insertable_iff_contents, insertable_iff_contents, alike.enrollments]

end Alike

/-! ## What one request does -/

section Enroll

variable {enrollment : EnrollmentCreate} {choice : Choice}
  {tables after : Tables}

theorem enroll_inserted
    (takes : enroll enrollment choice tables = (after, some .inserted)) :
    refusal enrollment tables = none ∧ Insertable enrollment tables ∧
      enrollmentChecks (enrollment.row choice) = true ∧
      ∃ fresh : tables.enrollments.find? choice.newId = none,
        after = { tables with
          enrollments :=
            tables.enrollments.insert (enrollment.row choice) fresh } := by
  unfold enroll at takes
  split at takes
  · cases takes
  · rename_i accepted
    split at takes
    · rename_i allowed
      split at takes
      · rename_i fresh
        cases takes
        exact ⟨accepted, allowed.1, allowed.2, fresh, rfl⟩
      · cases takes
    · cases takes

theorem enroll_refusal {statusCode : Nat}
    (takes : enroll enrollment choice tables =
      (after, some (.refused statusCode))) :
    after = tables ∧ (refusal enrollment tables = some statusCode ∨
      refusal enrollment tables = none ∧ statusCode = 409 ∧
        ¬ (Insertable enrollment tables ∧
          enrollmentChecks (enrollment.row choice) = true)) := by
  unfold enroll at takes
  split at takes
  · rename_i refused
    cases takes
    exact ⟨rfl, .inl refused⟩
  · rename_i accepted
    split at takes
    · split at takes
      · cases takes
      · cases takes
    · rename_i forbidden
      cases takes
      exact ⟨rfl, .inr ⟨accepted, rfl, forbidden⟩⟩

theorem enroll_grows {result : Option Response}
    (takes : enroll enrollment choice tables = (after, result)) :
    Grows tables after := by
  unfold enroll at takes
  split at takes
  · cases takes
    exact .refl tables
  · split at takes
    · split at takes
      · cases takes
        exact .insert _
      · cases takes
        exact .refl tables
    · cases takes
      exact .refl tables

/-- On alike tables a request is answered alike and leaves alike tables,
whatever is drawn. -/
theorem Alike.enroll {other otherAfter : Tables} {otherChoice : Choice}
    {response otherResponse : Response} (alike : Alike tables other)
    (takes : enroll enrollment choice tables = (after, some response))
    (otherTakes : enroll enrollment otherChoice other =
      (otherAfter, some otherResponse)) :
    response = otherResponse ∧ Alike after otherAfter := by
  cases response with
  | inserted =>
      obtain ⟨accepted, insertable, checks, fresh, rfl⟩ :=
        enroll_inserted takes
      cases otherResponse with
      | inserted =>
          obtain ⟨_, _, _, otherFresh, rfl⟩ := enroll_inserted otherTakes
          refine ⟨rfl, alike.students, alike.courseOfferings, ?_⟩
          have same := alike.enrollments
          simp only [contents, Table.insert, List.map_append, List.map_cons,
            List.map_nil] at same ⊢
          rw [same]
          rfl
      | refused statusCode =>
          exfalso
          rcases (enroll_refusal otherTakes).2 with refused | ⟨_, _, forbidden⟩
          · rw [← alike.refusal, accepted] at refused
            cases refused
          · exact forbidden ⟨alike.insertable.mp insertable, checks⟩
  | refused statusCode =>
      obtain ⟨rfl, why⟩ := enroll_refusal takes
      cases otherResponse with
      | inserted =>
          exfalso
          obtain ⟨accepted, insertable, checks, _⟩ :=
            enroll_inserted otherTakes
          rcases why with refused | ⟨_, _, forbidden⟩
          · rw [alike.refusal, accepted] at refused
            cases refused
          · exact forbidden ⟨alike.insertable.mpr insertable, checks⟩
      | refused otherStatus =>
          obtain ⟨rfl, otherWhy⟩ := enroll_refusal otherTakes
          refine ⟨?_, alike⟩
          rw [alike.refusal] at why
          rcases why with refused | ⟨accepted, rfl, _⟩
          · rcases otherWhy with refusedToo | ⟨acceptedToo, _, _⟩
            · rw [refused] at refusedToo
              cases refusedToo
              rfl
            · rw [refused] at acceptedToo
              cases acceptedToo
          · rcases otherWhy with refusedToo | ⟨_, rfl, _⟩
            · rw [accepted] at refusedToo
              cases refusedToo
            · rfl

end Enroll

/-! ## The requests -/

/-- Nobody arrives later and nothing else writes. -/
def enrollmentsOnly (code : Child → Prog university (Except Exc Enrollment)) :
    System university (Except Exc Enrollment) where
  start _ _ := False
  code := code

section Requests

variable (request : Nat → EnrollmentCreate)

def endpoint (thread : Nat) : Prog university (Except Exc Enrollment) :=
  (createEnrollmentEndpoint (request thread)).run

def requested (count : Nat) (store : Store) :
    Config university (Except Exc Enrollment) :=
  ⟨store, (List.range count).map (endpoint request)⟩

def effectOf (thread : Nat) : Choice → Tables → Tables × Option Response :=
  enroll (request thread)

def resultOf (answer : Except Exc Enrollment) : Option Response :=
  some (responseOf answer)

theorem lin_request (thread : Nat) (store : Store) :
    Lin enrollmentDiscipline thread tablesOf (effectOf request thread)
      (endpoint request thread) (fun _ _ => False)
      (fun taken answer _ => resultOf answer = taken) store :=
  lin_of_takes takes_endpoint

theorem threads_requested {count thread : Nat} {store : Store}
    {program : Prog university (Except Exc Enrollment)}
    (found : (requested request count store).threads[thread]? =
      some program) : program = endpoint request thread := by
  simp only [requested, List.getElem?_map, Option.map_eq_some_iff] at found
  obtain ⟨other, isOther, same⟩ := found
  obtain ⟨_, isThread⟩ := List.getElem?_eq_some_iff.mp isOther
  rw [List.getElem_range] at isThread
  rw [← same, isThread]

theorem requested_linearized (count : Nat) (store : Store) :
    Linearized enrollmentDiscipline tablesOf (effectOf request) resultOf
      (tablesOf store) (requested request count store) [] := by
  refine ⟨trivial, .nil _, List.nodup_nil, List.forall_mem_nil _, ?_⟩
  intro thread program found
  rw [threads_requested request found]
  right
  refine ⟨List.forall_mem_nil _, ?_⟩
  intro later _ _
  exact lin_request request thread later

theorem exists_fresh (tables : Tables) :
    ∃ newId, tables.enrollments.find? newId = none := by
  obtain ⟨newId, unused⟩ := Infinite.exists_notMem_finset
    (tables.enrollments.rows.map Enrollment.id).toFinset
  refine ⟨newId, Table.find?_eq_none_iff.mpr ?_⟩
  intro row member same
  exact unused (List.mem_toFinset.mpr (List.mem_map.mpr ⟨row, member, same⟩))

theorem draws_possible (label : Label) (store : Store) :
    ∃ choice, draws label choice store := by
  obtain ⟨newId, fresh⟩ := exists_fresh store.db.tables
  exact ⟨{ newId := newId }, rfl, fun _ => fresh⟩

/-- What an effect has done it can do with a draw that is possible. -/
theorem effect_redrawn {thread : Nat} {choice : Choice}
    {before after : Tables} {response : Response}
    (takes : effectOf request thread choice before = (after, some response)) :
    ∃ drawn, effectOf request thread drawn before = (after, some response) ∧
      ∀ label later, tablesOf later = before → draws label drawn later := by
  cases response with
  | inserted =>
      obtain ⟨_, _, _, fresh, _⟩ := enroll_inserted takes
      refine ⟨{ choice with call := .done }, takes, ?_⟩
      rintro label later rfl
      exact ⟨rfl, fun _ => fresh⟩
  | refused statusCode =>
      obtain ⟨newId, fresh⟩ := exists_fresh before
      refine ⟨{ newId := newId }, ?_, ?_⟩
      · obtain ⟨rfl, why⟩ := enroll_refusal takes
        unfold effectOf enroll
        rcases why with refused | ⟨accepted, rfl, forbidden⟩
        · rw [refused]
        · rw [accepted]
          exact if_neg forbidden
      · rintro label later rfl
        exact ⟨rfl, fun _ => fresh⟩

theorem effect_alike (thread : Nat) (choice otherChoice : Choice)
    (before other after otherAfter : Tables)
    (taken otherTaken : Option Response) (alike : Alike before other)
    (takes : effectOf request thread choice before = (after, taken))
    (real : taken ≠ none)
    (otherTakes : effectOf request thread otherChoice other =
      (otherAfter, otherTaken))
    (otherReal : otherTaken ≠ none) :
    taken = otherTaken ∧ Alike after otherAfter := by
  obtain ⟨response, rfl⟩ := Option.ne_none_iff_exists'.mp real
  obtain ⟨otherResponse, rfl⟩ := Option.ne_none_iff_exists'.mp otherReal
  obtain ⟨same, still⟩ := alike.enroll takes otherTakes
  exact ⟨congrArg some same, still⟩

/-! ## Conflicts -/

/-- The row has the pair or the code that the request asks for. -/
def Conflicts (enrollment : EnrollmentCreate) (row : Enrollment) : Prop :=
  enrollment.samePair row = true ∨ enrollment.sameCode row = true

/-- Two requests ask for one (student, offering) pair or for one code. -/
def Compete (enrollment other : EnrollmentCreate) : Prop :=
  (enrollment.studentId = other.studentId ∧
    enrollment.courseOfferingId = other.courseOfferingId) ∨
  enrollment.enrollmentCode = other.enrollmentCode

theorem Compete.symm {enrollment other : EnrollmentCreate}
    (compete : Compete enrollment other) : Compete other enrollment := by
  rcases compete with ⟨student, courseOffering⟩ | code
  · exact .inl ⟨student.symm, courseOffering.symm⟩
  · exact .inr code.symm

theorem Compete.conflicts {enrollment other : EnrollmentCreate}
    (compete : Compete enrollment other) (choice : Choice) :
    Conflicts other (enrollment.row choice) := by
  rcases compete with ⟨student, courseOffering⟩ | code
  · left
    simp [EnrollmentCreate.samePair, EnrollmentCreate.row, student,
      courseOffering]
  · right
    simp [EnrollmentCreate.sameCode, EnrollmentCreate.row, code]

theorem not_conflicts {enrollment : EnrollmentCreate} {tables : Tables}
    (insertable : Insertable enrollment tables) {row : Enrollment}
    (member : row ∈ tables.enrollments.rows) : ¬ Conflicts enrollment row := by
  rintro (pair | code)
  · rw [(insertable row member).1] at pair
    cases pair
  · rw [(insertable row member).2] at code
    cases code

theorem exists_conflict {enrollment : EnrollmentCreate} {tables : Tables}
    (taken : ¬ Insertable enrollment tables) :
    ∃ row ∈ tables.enrollments.rows, Conflicts enrollment row := by
  by_contra none
  refine taken fun row member => ?_
  have free : ¬ Conflicts enrollment row := fun conflicts =>
    none ⟨row, member, conflicts⟩
  simpa [Conflicts] using free

section Order

variable {request} {first last : Tables}
  {entries earlier later : List (Entry university (Option Response))}
  {entry other : Entry university (Option Response)}

theorem ordered_grows (ordered : Ordered (effectOf request) first entries last) :
    Grows first last :=
  ordered.relates Grows .refl Grows.trans fun _ _ _ _ _ takes =>
    enroll_grows takes

/-- Once a request has inserted its row, no competing one can. -/
theorem not_compete_later
    (ordered : Ordered (effectOf request) first (earlier ++ entry :: later)
      last)
    (inserted : entry.result = some .inserted) (member : other ∈ later)
    (insertedToo : other.result = some .inserted) :
    ¬ Compete (request entry.thread) (request other.thread) := by
  intro compete
  obtain ⟨before, after, _, takes, rest⟩ := ordered.split
  rw [inserted] at takes
  obtain ⟨_, _, _, fresh, isAfter⟩ := enroll_inserted takes
  obtain ⟨between, beyond, rfl⟩ := List.append_of_mem member
  obtain ⟨present, _, orderedBetween, takesToo, _⟩ := rest.split
  rw [insertedToo] at takesToo
  obtain ⟨_, insertable, _⟩ := enroll_inserted takesToo
  have written : (request entry.thread).row entry.choice ∈
      after.enrollments.rows := by
    rw [isAfter]
    exact (Table.mem_insert fresh).mpr (.inr rfl)
  exact not_conflicts insertable ((ordered_grows orderedBetween).member written)
    (compete.conflicts entry.choice)

theorem not_compete (ordered : Ordered (effectOf request) first entries last)
    (member : entry ∈ entries) (otherMember : other ∈ entries)
    (different : entry.thread ≠ other.thread)
    (inserted : entry.result = some .inserted)
    (insertedToo : other.result = some .inserted) :
    ¬ Compete (request entry.thread) (request other.thread) := by
  obtain ⟨earlier, later, rfl⟩ := List.append_of_mem member
  rcases List.mem_append.mp otherMember with before | after
  · obtain ⟨start, between, rfl⟩ := List.append_of_mem before
    rw [List.append_assoc, List.cons_append] at ordered
    intro compete
    exact not_compete_later ordered insertedToo (by simp) inserted compete.symm
  · rcases List.mem_cons.mp after with same | behind
    · exact absurd (congrArg Entry.thread same).symm different
    · exact not_compete_later ordered inserted behind insertedToo

/-- A valid request that is refused conflicts with a row of the last table. -/
theorem refused_conflicts
    (ordered : Ordered (effectOf request) first entries last)
    (member : entry ∈ entries) {statusCode : Nat}
    (refused : entry.result = some (.refused statusCode))
    (resolves : Resolves (request entry.thread) first)
    (text : fitsText (request entry.thread).enrollmentCode = true)
    (checks : enrollmentChecks ((request entry.thread).row entry.choice) =
      true) :
    ∃ row ∈ last.enrollments.rows, Conflicts (request entry.thread) row := by
  obtain ⟨earlier, later, rfl⟩ := List.append_of_mem member
  obtain ⟨before, after, orderedBefore, takes, orderedAfter⟩ := ordered.split
  rw [refused] at takes
  have taken : ¬ Insertable (request entry.thread) before := by
    intro insertable
    have there := resolves.grows (ordered_grows orderedBefore)
    unfold effectOf at takes
    rw [there.enroll text, if_pos ⟨insertable, checks⟩] at takes
    split at takes
    · cases takes
    · cases takes
  obtain ⟨row, found, conflicts⟩ := exists_conflict taken
  have grows := (enroll_grows takes).trans (ordered_grows orderedAfter)
  exact ⟨row, grows.member found, conflicts⟩

end Order

end Requests

/-! ## The equivalence -/

def responseAt (config : Config university (Except Exc Enrollment))
    (thread : Nat) : Option Response :=
  (config.answer? thread).map responseOf

/-- The request can be served: its ids and its code fit, what it names exists
and its values meet the checks. -/
structure Valid (enrollment : EnrollmentCreate) (tables : Tables) : Prop where
  resolves : Resolves enrollment tables
  text : fitsText enrollment.enrollmentCode = true
  checks : enrollmentChecks (enrollment.row {}) = true

/-- There is an order in which the requests, executed one after another, are
answered as they were and leave the table as it is: the very same one with the
right draws, and the same up to generated values with any draws.  Of competing
requests at most one inserts, and a valid one that conflicts with no row but
its own is not refused. -/
theorem concurrent_enrollments_linearizable
    (code : Child → Prog university (Except Exc Enrollment))
    (request : Nat → EnrollmentCreate) (count : Nat) (store : Store)
    (config : Config university (Except Exc Enrollment))
    (run : Run (enrollmentsOnly code) draws (requested request count store)
      config)
    (finished : config.Finished) :
    (∃ order : List Nat, order.Perm (List.range count) ∧
      (∃ answers last,
        OneAfterAnother draws (endpoint request) order store answers last ∧
          last.db.tables = config.store.db.tables) ∧
      ∀ answers last,
        OneAfterAnother draws (endpoint request) order store answers last →
          (answers.map fun answer => (answer.1, some (responseOf answer.2))) =
              (order.map fun thread => (thread, responseAt config thread)) ∧
            contents last.db.tables = contents config.store.db.tables) ∧
    (∀ thread other, thread ≠ other →
      responseAt config thread = some .inserted →
      responseAt config other = some .inserted →
      ¬ Compete (request thread) (request other)) ∧
    ∀ thread < count, Valid (request thread) store.db.tables →
      (∀ row ∈ config.store.db.tables.enrollments.rows,
        Conflicts (request thread) row →
          config.answer? thread = some (.ok row)) →
      responseAt config thread = some .inserted := by
  obtain ⟨entries, linearized, length⟩ :=
    (requested_linearized request count store).run
      (fun _ _ starts => starts) run
  obtain ⟨perm, answered⟩ := linearized.finished finished
  have counted : (requested request count store).threads.length = count := by
    simp [requested]
  rw [length, counted] at perm
  have responds (entry : Entry university (Option Response))
      (member : entry ∈ entries) :
      responseAt config entry.thread = entry.result ∧ entry.result ≠ none := by
    obtain ⟨answer, isAnswer, same⟩ := answered entry member
    rw [responseAt, isAnswer, ← same]
    exact ⟨rfl, nofun⟩
  have entered (thread : Nat) (bound : thread < count) :
      ∃ entry ∈ entries, entry.thread = thread :=
    List.mem_map.mp (perm.mem_iff.mpr (List.mem_range.mpr bound))
  have ordered := linearized.ordered
  refine ⟨⟨_, perm, ?_, ?_⟩, ?_, ?_⟩
  · have redrawn (entry : Entry university (Option Response))
        (member : entry ∈ entries) (before after : Tables)
        (takes : effectOf request entry.thread entry.choice before =
          (after, entry.result)) :
        ∃ choice, effectOf request entry.thread choice before =
            (after, entry.result) ∧
          ∀ label later, tablesOf later = before → draws label choice later := by
      obtain ⟨response, isResponse⟩ :=
        Option.ne_none_iff_exists'.mp (responds entry member).2
      rw [isResponse] at takes ⊢
      exact effect_redrawn request takes
    obtain ⟨answers, last, ends, runs⟩ :=
      Ordered.executed (D := enrollmentDiscipline) (endpoint request) ordered
      draws_possible redrawn
      (fun entry _ later _ => lin_request request entry.thread later) store
      trivial rfl
    exact ⟨answers, last, runs, ends⟩
  · intro answers last runs
    obtain ⟨others, otherOrdered, results, threads⟩ :=
      OneAfterAnother.ordered (D := enrollmentDiscipline) runs
        (fun thread _ later _ => lin_request request thread later) trivial
    have otherReal (entry : Entry university (Option Response))
        (member : entry ∈ others) : entry.result ≠ none := by
      have found := List.mem_map_of_mem
        (f := fun entry => (entry.thread, entry.result)) member
      rw [results] at found
      obtain ⟨answer, _, same⟩ := List.mem_map.mp found
      have isAnswer : resultOf answer.2 = entry.result :=
        congrArg Prod.snd same
      rw [← isAnswer]
      exact nofun
    obtain ⟨same, alike⟩ := otherOrdered.agree Alike (fun taken => taken ≠ none)
      (effect_alike request) ordered ⟨rfl, rfl, rfl⟩ threads otherReal
      fun entry member => (responds entry member).2
    refine ⟨?_, alike.enrollments⟩
    calc answers.map (fun answer => (answer.1, some (responseOf answer.2)))
        = others.map (fun entry => (entry.thread, entry.result)) :=
          results.symm
      _ = entries.map (fun entry => (entry.thread, entry.result)) := same
      _ = (entries.map fun entry => entry.thread).map
            fun thread => (thread, responseAt config thread) := by
          rw [List.map_map]
          apply List.map_congr_left
          intro entry member
          simp only [Function.comp_apply, (responds entry member).1]
  · intro thread other different inserted insertedToo
    have bounded (thread : Nat)
        (inserted : responseAt config thread = some .inserted) :
        thread < count := by
      obtain ⟨answer, answers, _⟩ := Option.map_eq_some_iff.mp inserted
      have found := Config.threads_of_answer? answers
      have bound := (List.getElem?_eq_some_iff.mp found).1
      omega
    obtain ⟨entry, member, rfl⟩ := entered thread (bounded thread inserted)
    obtain ⟨otherEntry, otherMember, rfl⟩ :=
      entered other (bounded other insertedToo)
    rw [(responds entry member).1] at inserted
    rw [(responds otherEntry otherMember).1] at insertedToo
    exact not_compete ordered member otherMember different inserted insertedToo
  · intro thread bound valid alone
    obtain ⟨entry, member, rfl⟩ := entered thread bound
    obtain ⟨answer, isAnswer, same⟩ := answered entry member
    rw [(responds entry member).1]
    by_contra refusedSo
    cases response : entry.result with
    | none => exact (responds entry member).2 response
    | some taken =>
        cases taken with
        | inserted => exact refusedSo response
        | refused statusCode =>
            obtain ⟨row, found, conflicts⟩ := refused_conflicts ordered member
              response valid.resolves valid.text valid.checks
            have own := alone row found conflicts
            rw [isAnswer] at own
            rw [Option.some.inj own, response] at same
            cases same

/-! ## Two requests for one place -/

def openTables : Tables :=
  { sampleTables with
    teachers := ⟨[⟨1, "Amal", 0, 1⟩], by decide⟩
    courses := ⟨[⟨1, "Algebra", "ALG", 0, some 1⟩], by decide⟩
    courseOfferings := ⟨[⟨1, 1, 1, "Fall", 2025, "A", 0⟩], by decide⟩ }

def openStore : Store := { db := ⟨openTables, by decide +kernel⟩ }

def firstRequest : EnrollmentCreate where
  studentId := 1
  courseOfferingId := 1
  enrollmentCode := "A"
  studentIdPositive := by decide
  courseOfferingIdPositive := by decide
  codeLength := by decide
  gradeBounds := by simp

def secondRequest : EnrollmentCreate :=
  { firstRequest with enrollmentCode := "B", codeLength := by decide }

def twoRequests (thread : Nat) : EnrollmentCreate :=
  if thread = 0 then firstRequest else secondRequest

instance (label : Label) (choice : Choice) (store : Store) :
    Decidable (draws label choice store) :=
  inferInstanceAs (Decidable (choice.call = .done ∧ (label = .registrar →
    store.db.tables.enrollments.find? choice.newId = none)))

/-- Both have found the place free before the first one takes it. -/
def overlappingTurns : List (Turn university) :=
  ([0, 0, 0, 0, 1, 1, 1, 1, 0, 0, 0, 1, 1, 1, 1].map
    fun thread => ⟨thread, { newId := thread + 1 }⟩)

def bothServed : Config university (Except Exc Enrollment) :=
  (requested twoRequests 2 openStore).played
    (enrollmentsOnly fun _ => endpoint twoRequests 0)
    (fun label choice store => decide (draws label choice store))
    overlappingTurns

theorem bothServed_run :
    Run (enrollmentsOnly fun _ => endpoint twoRequests 0) draws
      (requested twoRequests 2 openStore) bothServed :=
  Config.played_run (enrollmentsOnly fun _ => endpoint twoRequests 0)
    (fun label choice store => decide (draws label choice store)) draws
    (fun _ _ _ drawn => of_decide_eq_true drawn) overlappingTurns
    (requested twoRequests 2 openStore) (by decide +kernel)

/-- The second of the two is refused. -/
theorem concurrent_enrollments_linearizable_two :
    responseAt bothServed 1 ≠ some .inserted := by
  have atMostOne := (concurrent_enrollments_linearizable
    (fun _ => endpoint twoRequests 0) twoRequests 2 openStore bothServed
    bothServed_run (by decide +kernel)).2.1
  intro insertedToo
  exact atMostOne 0 1 (by decide) (by decide +kernel) insertedToo
    (.inl ⟨rfl, rfl⟩)

end SystemUni.Enrollments.Concurrency
