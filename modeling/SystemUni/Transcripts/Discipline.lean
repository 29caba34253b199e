import SystemUni.Students.Frame
import SystemUni.Students.Service
import SystemUni.Workers.Service

/-!
# Who a transcript is exported for

An export is admitted on the role and the link it has read.  The role is the
request's own; the link is still there at the commit because as long as nobody
is deleted no request takes a link away.
-/

set_option autoImplicit false

namespace SystemUni.Transcripts.Discipline

open Interleaving Relational
open SystemUni.Runtime.Errors
open SystemUni.Runtime.External
open SystemUni.Runtime.Statements
open SystemUni.Runtime.Rules
open SystemUni.Models.Rows
open SystemUni.Models.Changes
open SystemUni.Models.Jobs
open SystemUni.Models.Schema
open SystemUni.Routers.Reports
open SystemUni.Workers.Queue
open SystemUni.Accounts.Frame
open SystemUni.Students.Discipline
open SystemUni.Students.Requests

/-! ## Links -/

def LinksPersist (before after : Tables) : Prop :=
  ∀ studentId userId, linkedUser before studentId = some userId →
    linkedUser after studentId = some userId

theorem LinksPersist.refl (tables : Tables) : LinksPersist tables tables :=
  fun _ _ linked => linked

theorem LinksPersist.trans {first middle last : Tables}
    (before : LinksPersist first middle) (after : LinksPersist middle last) :
    LinksPersist first last :=
  fun studentId userId linked =>
    after studentId userId (before studentId userId linked)

/-- The statement deletes neither a student nor a user. -/
def keepsRows : Condition university := fun label _ _ =>
  match label with
  | .account (.deleteUser _ _) => False
  | .student (.deleteStudent _) => False
  | _ => True

theorem keepsLink_of_step {label : Label} (choice : Choice) (store : Store)
    {row next : Option Student} (step : RowStep label row next)
    (kept : keepsRows label choice store) {userId : Id}
    (linked : row.bind (fun student => student.userId) = some userId) :
    next.bind (fun student => student.userId) = some userId := by
  cases step with
  | kept => exact linked
  | written read change computed =>
      cases computed with
      | updateStudent studentUpdate agrees => exact linked
      | linkStudentToUser linkedId unlinked =>
          have taken : read.userId = some userId := linked
          rw [unlinked] at taken
          cases taken
      | deleteUser user linkedTo => exact kept.elim
  | deleted read deletes =>
      subst deletes
      exact kept.elim

theorem linksPersist_of_effect {label : Label} (choice : Choice)
    {before after : Store}
    (effect : StudentEffect (students before) label (students after))
    (kept : keepsRows label choice before) :
    LinksPersist before.db.tables after.db.tables :=
  fun studentId _ linked =>
    keepsLink_of_step choice before (effect.row studentId) kept linked

/-! ## Entitlement -/

/-- What admitted the export. -/
def Entitled (record : Export) : Prop :=
  record.ownerRole = .admin ∨ record.linkedUser = some record.ownerId

def exports (store : Store) : List Export := store.queue.exports

def custodyDiscipline : Discipline university where
  inv store := ∀ record ∈ exports store, Entitled record
  rely _ before after :=
    Forward before after ∧ LinksPersist before.db.tables after.db.tables
  guar _ label _ before after :=
    StudentEffect (students before) label (students after) ∧
      before.returned ⊆ after.returned ∧
      LinksPersist before.db.tables after.db.tables
  ok := keepsRows
  rely_refl _ store := ⟨.refl store, .refl _⟩
  rely_trans _ _ _ _ before after :=
    ⟨before.1.trans after.1, before.2.trans after.2⟩
  guar_rely _ guaranteed :=
    ⟨⟨guaranteed.1.progress, guaranteed.2.1⟩, guaranteed.2.2⟩

theorem custody_stutters : Stutters custodyDiscipline :=
  fun _ _ _ _ _ => ⟨.unchanged, List.Subset.refl _, .refl _⟩

theorem custody_refines (libraries : Libraries) :
    custodyDiscipline.Refines (studentDiscipline libraries False)
      exports where
  inv _ _ := nofun
  rely _ _ _ relies := relies.1
  ok _ _ _ _ := nofun
  step me label choice before after entitled kept _ guaranteed same := by
    have persists : LinksPersist before.db.tables after.db.tables :=
      linksPersist_of_effect choice guaranteed.1 kept
    refine ⟨?_, guaranteed.1, guaranteed.2, persists⟩
    intro record member
    rw [same] at member
    exact entitled record member

section Requests

variable {libraries : Libraries} {me : Nat} {store : Store} {α : Type}

/-- What student requests do is all this discipline asks of a program that
exports nothing. -/
theorem runs_custody {program : Py α} {post : α → Store → Prop}
    {fail : Exc → Store → Prop} (leaves : Leaves exports program)
    (entitled : custodyDiscipline.inv store)
    (runs : Runs (studentDiscipline libraries False) me program post fail
      store) :
    Runs custodyDiscipline me program post fail store :=
  safe_refine (custody_refines libraries) me program.run leaves _ store entitled
    runs

abbrev EntitledStill {α : Type} (_ : α) (later : Store) : Prop :=
  custodyDiscipline.inv later

/-- The part of the store that neither students nor exports are part of. -/
def custodyView (store : Store) :
    (Table Student.id × (Id → Option CacheEntry) × List (Id × WriteMark)) ×
      List Export :=
  (studentView store, exports store)

theorem runs_bystander {program : Py α} {post : α → Store → Prop}
    {fail : Exc → Store → Prop} (leaves : Leaves custodyView program)
    (entitled : custodyDiscipline.inv store)
    (raises : ∀ exc later, Later custodyDiscipline me store later →
      fail exc later)
    (returns : ∀ value later, Later custodyDiscipline me store later →
      post value later) :
    Runs custodyDiscipline me program post fail store := by
  refine safe_of_keeps custodyDiscipline me custodyView ?_ program.run leaves _
    store entitled ?_
  · intro label choice before after same kept
    have sameStudents : students after = students before :=
      congrArg (fun view => view.1.1) same
    have sameMarks : after.returned = before.returned :=
      congrArg (fun view => view.1.2.2) same
    have sameExports : exports after = exports before :=
      congrArg (fun view => view.2) same
    have persists : LinksPersist before.db.tables after.db.tables := by
      intro studentId userId linked
      change ((students after).find? studentId).bind _ = _
      rw [sameStudents]
      exact linked
    have grows : before.returned ⊆ after.returned := by
      rw [sameMarks]
      exact List.Subset.refl _
    have effect : StudentEffect (students before) label (students after) := by
      rw [sameStudents]
      exact .unchanged
    refine ⟨?_, ⟨effect, grows, persists⟩,
      ⟨⟨effect.progress, grows⟩, persists⟩⟩
    intro record member
    rw [sameExports] at member
    exact kept record member
  · intro result later follows
    cases result with
    | ok value => exact returns value later follows
    | error exc => exact raises exc later follows

theorem mayExport_iff {user : User} {student : Student} :
    mayExport user student = true ↔
      user.role = .admin ∨ student.userId = some user.id := by
  simp [mayExport]

/-- Between the read of the student and the commit of the job the link that
admitted the export persists. -/
theorem runs_export {studentId : Id} {user : User}
    (entitled : custodyDiscipline.inv store) :
    Runs custodyDiscipline me (exportTranscriptAsync studentId user)
      EntitledStill EntitledStill store := by
  refine runs_bind (runs_cast custody_stutters entitled
    (fun _ _ follows => follows.inv) ?_)
  intro afterRead read
  cases found : store.db.tables.students.find? studentId with
  | none => exact runs_throw _ read.inv
  | some student =>
      simp only
      split
      · exact runs_throw _ read.inv
      rename_i admitted
      have may : user.role = .admin ∨ student.userId = some user.id :=
        mayExport_iff.mp (by simpa using admitted)
      refine runs_bind (runs_observe custody_stutters read.inv ?_)
      intro draw afterDraw drawn
      refine runs_bind (runs_transaction custody_stutters drawn.inv
        (fun _ _ follows => follows.inv) ?_)
      intro choice done next _ body
      have persists : LinksPersist store.db.tables afterDraw.db.tables :=
        (read.trans drawn).rely.2
      have recorded : Entitled
          (exportRecord draw.uuid user studentId afterDraw.db.tables) := by
        rcases may with admin | linked
        · exact .inl admin
        · refine .inr (persists studentId user.id ?_)
          rw [linkedUser, found]
          exact linked
      obtain ⟨queue, enqueued, becomes⟩ := mapped_ok body
      cases becomes
      obtain ⟨fresh, rfl⟩ := enqueueJob_ok enqueued
      refine ⟨?_, ⟨.unchanged, List.Subset.refl _, .refl _⟩, ?_⟩
      · intro record member
        rcases List.mem_cons.mp member with rfl | earlier
        · exact recorded
        · exact drawn.inv record earlier
      · intro later follows
        exact ⟨runs_pure _ follows.inv, fun _ => follows.inv⟩

end Requests

end SystemUni.Transcripts.Discipline
