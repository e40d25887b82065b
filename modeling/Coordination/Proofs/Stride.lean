/-
Coordination.Proofs.Stride — moves that belong together.

A move may drop a job without a message, if the job has ended. Those who
follow the jobs by the messages then still take it for the job of its
analysis. The core never leaves them in this belief: it goes on at once to
tell of the analysis, or starts another job for it. A `Stride` is a move
that drops no job, or one that does together with the move that follows.

Strides are moves, so they keep what moves keep. What holds between
strides only is what the messages say of jobs: `Proofs/JobViews`.
-/
import Coordination.Proofs.Move

namespace Coordination

open Entry (ofEffects)
open Roster (keys)

/-- The analysis that a message says was changed or removed. -/
def Message.revised? : Message → Option AnalysisId
  | .analysisUpdated id _ _ _ | .analysisRemoved id => some id
  | _ => none

/-- The changes of a standing after which the messages say of every dropped job that it is gone. -/
inductive Stride : Standing → List Entry → Standing → Prop
  /-- No job is dropped. -/
  | keep {s t : Standing} {entries : List Entry} (move : Move s entries t)
      (kept : ∀ a ∈ keys s.jobs.current, a ∈ keys t.jobs.current) : Stride s entries t
  /-- The job of an analysis is dropped, and the analysis was changed or removed. -/
  | revise (s : Standing) (analysis : AnalysisId) (message : Message)
      (revised : message.revised? = some analysis)
      (fits : Standing.Fits { s with jobs := (s.jobs.retire analysis).1 } message) :
    Stride s (ofEffects Core.accepting (s.jobs.retire analysis).2 ++ [.publish message])
      ⟨s.replica.hear message, (s.jobs.retire analysis).1⟩
  /-- The job of an analysis is dropped, and another one is handed over. -/
  | restart (s : Standing) (request : Job.Request) (refusal : Option Job.Problem)
      (feeds : s.Feeds request) :
    Stride s (ofEffects Core.accepting (s.jobs.retire request.analysis).2 ++
        .start request refusal :: Entry.failure request refusal)
      { s with
        jobs := (s.jobs.retire request.analysis).1.handOver request.handle refusal }

/-- Strides one after the other. -/
inductive Strides : Standing → List Entry → Standing → Prop
  | refl (s : Standing) : Strides s [] s
  | step {s t u : Standing} {entries more : List Entry} (stride : Stride s entries t)
    (rest : Strides t more u) : Strides s (entries ++ more) u

/-- A job that changes its status is not dropped. -/
theorem Stride.cancel (s : Standing) {record : Job.Record}
    (found : s.jobs.get? record.id = some record) (live : record.status.isFinal = false) :
    Stride s [.cancel record.id, .publish (.jobCanceled record.handle)]
      { s with jobs := (s.jobs.setStatus record.id .canceled).1 } := by
  refine .keep (.cancel s found live) ?_
  intro a ha
  rwa [Job.Table.current_setStatus]

theorem Stride.report (s : Standing) (report : Job.Report) :
    Stride s (.report report :: ((s.jobs.apply report).2.toList.map fun record =>
        .publish (.ofPhase record.handle report.phase)))
      { s with jobs := (s.jobs.apply report).1 } := by
  refine .keep (.report s report) ?_
  intro a ha
  rwa [Job.Table.apply, Job.Table.current_setStatus]

variable {s t u : Standing} {entries more : List Entry}

namespace Strides

theorem single (stride : Stride s entries t) : Strides s entries t :=
  List.append_nil entries ▸ .step stride (.refl t)

theorem trans (before : Strides s entries t) (after : Strides t more u) :
    Strides s (entries ++ more) u := by
  induction before with
  | refl s => exact after
  | step stride _ ih =>
    rw [List.append_assoc]
    exact .step stride (ih after)

end Strides

/-- A stride is one move or two. -/
theorem Stride.moves (stride : Stride s entries t) : Moves s entries t := by
  cases stride with
  | keep move => exact .single move
  | revise analysis message revised fits =>
    exact .step (.retire s analysis) (.single (.tell _ message fits))
  | restart request refusal feeds =>
    have idle := s.jobs.not_mem_current_retire request.analysis
    exact .step (.retire s request.analysis) (.single (.start _ request refusal feeds idle))

theorem Strides.moves (strides : Strides s entries t) : Moves s entries t := by
  induction strides with
  | refl s => exact .refl s
  | step stride _ ih => exact stride.moves.trans ih

end Coordination
