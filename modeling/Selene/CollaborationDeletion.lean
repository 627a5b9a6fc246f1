import Selene.CollaborationImport

/-!
# Deleting a project

In every reachable repository a project can be deleted.  Its export is gone
afterwards, and what other projects export is not disturbed.
-/

namespace Selene.Collaboration

open Js

variable {repository : Repository} {projectId : JsString}

/-- The repository after a stored project is deleted. -/
def deleted (repository : Repository) (projectId : JsString) : Repository :=
  { withoutProject repository projectId with
    projects := repository.projects.delete projectId }

theorem Consistent.deleteProject_eq
    (consistent : Consistent repository)
    (stored : repository.projects.has projectId = true) :
    deleteProject repository projectId =
      .ok (deleted repository projectId) := by
  rw [deleteProject, if_neg (by simp [stored])]
  exact unit_bind_eq_ok.mpr ⟨check_eq_ok.mpr consistent.revisionsSize,
    unit_bind_eq_ok.mpr ⟨check_eq_ok.mpr consistent.threadsSize,
      unit_bind_eq_ok.mpr ⟨check_eq_ok.mpr consistent.commentsSize, rfl⟩⟩⟩

theorem snapshotOf_deleted
    {project : Project}
    (other : project.id ≠ projectId) :
    snapshotOf (deleted repository projectId) project =
      snapshotOf repository project := by
  have named {α : Type} {keyOf : α → JsString} (table : Table keyOf)
      (projectOf : α → JsString) :
      (table.keep fun row => decide (projectOf row ≠ projectId)).rows.filter
          (fun row => decide (projectOf row = project.id)) =
        table.rows.filter fun row => decide (projectOf row = project.id) :=
    Table.filter_keep fun row _ owned =>
      decide_eq_true (of_decide_eq_true owned ▸ other)
  have referring {α : Type} {keyOf : α → JsString} (table : Table keyOf)
      {names : List JsString} {owner : JsString → Option JsString}
      (owns : ∀ name, name ∈ names ↔ owner name = some project.id)
      (referenceOf : α → JsString) :
      (table.keep fun row => decide (owner (referenceOf row) ≠
          some projectId)).rows.filter (fun row =>
            decide (referenceOf row ∈ names)) =
        table.rows.filter fun row => decide (referenceOf row ∈ names) :=
    Table.filter_keep fun row _ owned => decide_eq_true
      (ne_of_owners other ((owns _).mp (of_decide_eq_true owned)))
  exact snapshotOf_eq_of rfl rfl (named _ _) (named _ _)
    (referring _ (fun _ => mem_threads_iff) _)
    (referring _ (fun _ => mem_comments_iff) _)
    (referring _ (fun _ => mem_revisions_iff) _) (named _ _) (named _ _)
    (named _ _) ((Table.find?_delete _ _ _).trans (if_neg other))

/--
After any run a project can be deleted: nothing is exported of it afterwards,
and every other project is exported as before.
-/
theorem deleteProject_exports
    {host : Host}
    {system : System}
    (reachable : ReachableSystem host system)
    (projectId : JsString) :
    let ran := execute host system (.deleteProject projectId)
    ran.2 = .accepted ∧
      exportProject ran.1.repository projectId = .ok none ∧
      ∀ other, other ≠ projectId →
        exportProject ran.1.repository other =
          exportProject system.repository other := by
  have consistent := consistent_of_reachable reachable
  dsimp only
  rw [execute]
  cases stored : system.repository.projects.has projectId with
  | false =>
      rw [deleteProject, if_pos stored]
      refine ⟨rfl, ?_, fun _ _ => rfl⟩
      rw [Table.has_eq_isSome, Option.isSome_eq_false_iff,
        Option.isNone_iff_eq_none] at stored
      show exportProject system.repository projectId = .ok none
      rw [exportProject, stored]
  | true =>
      rw [consistent.deleteProject_eq stored]
      refine ⟨rfl, ?_, fun other different => exportProject_congr consistent
        { consistent.withoutProject projectId with }
        ((Table.find?_delete _ _ _).trans (if_neg different))
        fun project isProject => snapshotOf_deleted (isProject ▸ different)⟩
      have gone : (deleted system.repository projectId).projects.find?
          projectId = none :=
        (Table.find?_delete _ _ _).trans (if_pos rfl)
      show exportProject (deleted system.repository projectId) projectId = _
      rw [exportProject, gone]

/-- What was imported can be deleted. -/
theorem deleteProject_exports_sample :
    exportProject
        (execute codeUnitHost (execute codeUnitHost .initial
          (.replaceProject sampleSnapshot none)).1
            (.deleteProject sampleProject.id)).1.repository
        sampleProject.id =
      .ok none := by
  have imported : ReachableSystem codeUnitHost (execute codeUnitHost .initial
      (.replaceProject sampleSnapshot none)).1 :=
    ⟨[.replaceProject sampleSnapshot none], rfl⟩
  exact (deleteProject_exports imported sampleProject.id).2.1

end Selene.Collaboration
