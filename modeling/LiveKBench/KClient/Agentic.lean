import LiveKBench.KClient.KgymDataset

/-! What the agent is told about its patch: `kGymAgentClient.resolve_job_context` reads the context
of the job itself, beside the verdict by which the patch is scored. -/
namespace LiveKBench.KClient
open KCore KArena Lib

/-- `os.path.join` of two parts. -/
def osPathJoin (path part : String) : String :=
  if part.startsWith "/" then part
  else if path = "" ∨ path.endsWith "/" then path ++ part
  else path ++ "/" ++ part

/-- One part of a path in the loop of `os.path.normpath`; `rooted` tells that the path starts with
a slash, and the parts kept so far are in reverse. -/
def normpathPart (rooted : Bool) (kept : List String) (comp : String) : List String :=
  if comp = "" ∨ comp = "." then kept
  else if comp = ".." then
    match kept with
    | [] => if rooted then [] else [comp]
    | last :: rest => if last = ".." then comp :: kept else rest
  else comp :: kept

/-- `os.path.normpath`: two leading slashes stay two, three and more become one. -/
def normpath (path : String) : String :=
  let rooted := path.startsWith "/"
  let slashes :=
    if rooted then (if path.startsWith "//" ∧ ¬ path.startsWith "///" then "//" else "/") else ""
  let comps := ((path.splitOn "/").foldl (normpathPart rooted) []).reverse
  let normal := slashes ++ "/".intercalate comps
  if normal = "" then "." else normal

/-- `os.path.abspath` in the working directory `cwd`. -/
def abspath (cwd path : String) : String :=
  normpath (if path.startsWith "/" then path else osPathJoin cwd path)

inductive AgentError
  | raised (e : PyError)
  /-- What leaves a task group one of whose tasks raised. -/
  | exceptionGroup (errors : List PyError)
  deriving DecidableEq, Repr

/-- What the client does to the files of the agent's machine. -/
inductive FileAction
  | downloadResource (key path : String)
  | tryRm (path : String)
  deriving DecidableEq, Repr

/-- What one call printed, did to the files and raised. -/
structure Observation where
  lines : List String
  files : List FileAction
  raised : Option AgentError
  deriving DecidableEq, Repr

namespace Observation

def printed (line : String) : Observation := ⟨[line],[],none⟩

def raising (e : PyError) : Observation := ⟨[],[],some (.raised e)⟩

/-- What the agent reads afterwards. -/
def toolObservation (o : Observation) : String := String.join (o.lines.map (· ++ "\n"))

/-- The observation has a line that starts with the text. -/
def Reports (o : Observation) (text : String) : Prop := ∃ line ∈ o.lines, text.toList <+: line.toList

end Observation

/-- The client of one agent; `downloadResource` is what the storage backend makes of a download of
a key to a path. -/
structure AgentClient where
  home : String
  cwd : String
  downloadResource : String → String → Except PyError Unit

namespace AgentClient
variable (agent : AgentClient)

def stderrPath : String := osPathJoin agent.home "LinuxBuildStderr.txt"

def reportPath : String := osPathJoin agent.home "report.txt"

/-- The part for the results of a job that raised. -/
def resolveJobException (problemWorker : JobWorker) (result : JobResult) (e : JobException) :
    Observation :=
  let content := Observation.printed
    ("kGym error:" ++ problemWorker.workerType ++ ", " ++ e.code ++ ", " ++ e.content)
  if problemWorker.workerType = "kbuilder" then
    match result.builder with
    | none => .raising .attributeError
    | some fields =>
      match fields.kBuilderStderr with
      | none => content
      | some stderr =>
        let files := [.downloadResource stderr.key agent.stderrPath]
        match agent.downloadResource stderr.key agent.stderrPath with
        | .error e => ⟨[],files,some (.raised e)⟩
        | .ok () =>
          ⟨["Compilation error, builder's log at: `" ++ abspath agent.cwd agent.stderrPath ++ "`"],
            files,none⟩
  else content

def resolveAborted (ctx : JobContext) : Observation :=
  match pyIndex ctx.jobWorkers ctx.currentWorker with
  | none => .raising .indexError
  | some problemWorker =>
    match problemWorker.workerResult with
    | none => .raising .attributeError
    | some result =>
      match result.workerException with
      | some e => .printed ("kGym error: " ++ problemWorker.workerType ++ ", " ++ e.code ++ ".")
      | none =>
        match result.jobException with
        | some e => agent.resolveJobException problemWorker result e
        | none => .printed
            "kGym error: unknown error; You may try the tool once more to see if things change."

/-- One pass of the loop over the stages after the first. -/
def crashPass (crashes : List Crash) (result : VMManagerFields) : List Crash :=
  match result.crashes with
  | none => crashes
  | some found => crashes ++ found.filter fun crash => crash.crashType = .crash

def gatherCrashes (ctx : JobContext) : Except PyError (List Crash) :=
  (ctx.jobWorkers.drop 1).foldlM
    (fun crashes w => (readResult w.workerResult).map (crashPass crashes)) []

/-- The report of the first crash whose first incident has one. -/
def firstReport (crashes : List Crash) : Option JobResource :=
  crashes.findSome? fun crash => crash.incidents.head?.bind CrashIncident.report

/-- The loop in the task group; the group waits for the download that it started. -/
def resolveCrashes (crashes : List Crash) : Observation :=
  match crashes,firstReport crashes with
  | first :: _,some report =>
    { lines := ["Crash reproduced: \"" ++ first.title ++ "\"",
        "Check crash report at `" ++ agent.reportPath ++ "`."]
      files := [.downloadResource report.key agent.reportPath]
      raised := match agent.downloadResource report.key agent.reportPath with
        | .ok () => none
        | .error e => some (.exceptionGroup [e]) }
  | _,_ =>
    ⟨["No crash reproduced."],[.tryRm agent.stderrPath,.tryRm agent.reportPath],none⟩

def resolveJobContext (ctx : JobContext) : Observation :=
  if ctx.status = .aborted then agent.resolveAborted ctx
  else match gatherCrashes ctx with
    | .error e => .raising e
    | .ok crashes => agent.resolveCrashes crashes

end AgentClient

/-- The job finished, and its stages are one of the builder and then ones of the machine manager,
with the results `results`. -/
structure FinishedPipeline (ctx : JobContext) (results : List VMManagerFields) : Prop where
  finished : ctx.status = .finished
  builder : ∃ w ∈ ctx.jobWorkers.head?, w.workerType = "kbuilder"
  machines : ∀ w ∈ ctx.jobWorkers.drop 1, w.workerType = "kvmmanager"
  reported : (ctx.jobWorkers.drop 1).mapM vmResult = .ok results

/-- The evaluation that the scorer gives, if it gives one. -/
def scored (ctx : JobContext) : Option Evaluation :=
  (interpretKgymVerdict ctx ctx.jobId).toOption.map EvaluationResult.evaluation

/-- What the agent should be told: of a finished pipeline what the scorer finds, and of an aborted
job something. -/
structure AgentClient.AgreesWithScorer (agent : AgentClient) (ctx : JobContext) : Prop where
  reproduced : ∀ results, FinishedPipeline ctx results →
    ((agent.resolveJobContext ctx).Reports "Crash reproduced" ↔ scored ctx = some .reproduced)
  notReproduced : ∀ results, FinishedPipeline ctx results →
    ((agent.resolveJobContext ctx).Reports "No crash reproduced." ↔
      scored ctx = some .notReproduced)
  aborted : ctx.status = .aborted →
    (agent.resolveJobContext ctx).raised = none ∧ (agent.resolveJobContext ctx).lines ≠ []

/-- The first incident of one of the crashes has a report. -/
def Reported (crashes : List Crash) : Prop :=
  ∃ crash ∈ crashes, ∃ incident ∈ crash.incidents.head?, incident.report ≠ none

/-- A machine found the image usable, and either there is no real crash, or the first one has an
incident and one of them a report of its first incident. -/
structure Reportable (results : List VMManagerFields) : Prop where
  usable : Usable results
  crashes : realCrashes results = [] ∨
    (∃ crash ∈ (realCrashes results).head?, crash.incidents ≠ []) ∧ Reported (realCrashes results)

/-- The stage that the job stopped at is there and reported a result, which has the builder's fields
where they are read, and the log that they name can be downloaded. -/
def AgentClient.Answerable (agent : AgentClient) (ctx : JobContext) : Prop :=
  ∃ w ∈ pyIndex ctx.jobWorkers ctx.currentWorker, ∃ result ∈ w.workerResult,
    result.workerException = none → result.jobException ≠ none → w.workerType = "kbuilder" →
      ∃ fields ∈ result.builder, ∀ stderr ∈ fields.kBuilderStderr,
        agent.downloadResource stderr.key agent.stderrPath = .ok ()

section Feedback
variable {agent : AgentClient} {ctx : JobContext} {results : List VMManagerFields}
  {crashes : List Crash}

namespace FinishedPipeline

lemma vmWorkers_eq (h : FinishedPipeline ctx results) : vmWorkers ctx = ctx.jobWorkers.drop 1 := by
  obtain ⟨builder,hhead,hbuilder⟩ := h.builder
  have hmachines := h.machines
  unfold vmWorkers
  cases hw : ctx.jobWorkers with
  | nil => rfl
  | cons first jobWorkers =>
    obtain rfl : first = builder := by simpa [hw] using hhead
    have hall : ∀ w ∈ jobWorkers, w.workerType = "kvmmanager" := by simpa [hw] using hmachines
    rw [List.filter_cons_of_neg (by simp [hbuilder]),List.filter_eq_self.mpr (by simpa using hall)]
    rfl

lemma scored_eq (h : FinishedPipeline ctx results) : scored ctx =
    if bestImage results = .error then some Evaluation.imageError
    else match (realCrashes results).head? with
      | none => some .notReproduced
      | some crash => if crash.incidents = [] then none else some .reproduced := by
  rw [scored,interpretKgymVerdict,if_neg (by simp [h.finished]),h.vmWorkers_eq,h.reported,
    ← firstCrash_eq]
  simp only [bind,Except.bind]
  by_cases himage : bestImage results = .error
  · rw [if_pos himage,if_pos himage]
    rfl
  · rw [if_neg himage,if_neg himage]
    cases firstCrash results with
    | none => rfl
    | some crash => cases hi : crash.incidents <;> simp [hi,Except.toOption,pure,Except.pure]

lemma scored_of_not_usable (h : FinishedPipeline ctx results) (hu : ¬ Usable results) :
    scored ctx = some .imageError := by
  rw [h.scored_eq,if_pos (bestImage_eq_error_iff.mpr hu)]

/-- With a usable image the scorer looks at the first real crash. -/
lemma scored_of_usable (h : FinishedPipeline ctx results) (hu : Usable results) : scored ctx =
    match (realCrashes results).head? with
    | none => some .notReproduced
    | some crash => if crash.incidents = [] then none else some .reproduced := by
  rw [h.scored_eq,if_neg (by rw [bestImage_eq_error_iff]; exact not_not_intro hu)]

lemma foldl_crashPass (crashes : List Crash) : results.foldl AgentClient.crashPass crashes =
    crashes ++ realCrashes results := by
  induction results generalizing crashes with
  | nil => simp [realCrashes]
  | cons result results ih =>
    have hkind : ∀ found : List Crash, found.filter (fun crash => crash.crashType = .crash) =
        found.filter fun crash => crash.crashType ≠ .special := by
      intro found
      apply List.filter_congr
      intro crash _
      cases crash.crashType <;> rfl
    rw [List.foldl_cons,ih]
    unfold AgentClient.crashPass
    cases hc : result.crashes with
    | none => simp [realCrashes,hc]
    | some found => simp only [realCrashes,List.flatMap_cons,hc,Option.getD_some,
        List.filter_append,List.append_assoc,hkind]

/-- The crashes that the client gathers from a finished pipeline. -/
lemma gatherCrashes_eq (h : FinishedPipeline ctx results) :
    AgentClient.gatherCrashes ctx = .ok (realCrashes results) := by
  have hread : (ctx.jobWorkers.drop 1).mapM (fun w => readResult w.workerResult) = .ok results :=
    h.reported
  rw [AgentClient.gatherCrashes,foldlM_map_eq,hread]
  change Except.ok (results.foldl AgentClient.crashPass []) = _
  rw [foldl_crashPass,List.nil_append]

lemma resolveJobContext_eq (h : FinishedPipeline ctx results) :
    agent.resolveJobContext ctx = agent.resolveCrashes (realCrashes results) := by
  rw [AgentClient.resolveJobContext,if_neg (by simp [h.finished]),h.gatherCrashes_eq]

end FinishedPipeline

lemma firstReport_ne_none_iff : AgentClient.firstReport crashes ≠ none ↔ Reported crashes := by
  unfold AgentClient.firstReport Reported
  simp [List.findSome?_eq_none_iff]

/-- The client prints one of two answers, as one of the crashes has a report or not. -/
lemma resolveCrashes_lines :
    (Reported crashes ∧ ∃ title, (agent.resolveCrashes crashes).lines =
      ["Crash reproduced: \"" ++ title ++ "\"",
        "Check crash report at `" ++ agent.reportPath ++ "`."]) ∨
    (¬ Reported crashes ∧ (agent.resolveCrashes crashes).lines = ["No crash reproduced."]) := by
  rw [← firstReport_ne_none_iff]
  cases crashes with
  | nil => exact .inr ⟨by simp [AgentClient.firstReport],rfl⟩
  | cons first rest =>
    cases hr : AgentClient.firstReport (first :: rest) with
    | none =>
      refine .inr ⟨by simp,?_⟩
      simp only [AgentClient.resolveCrashes,hr]
    | some report =>
      refine .inl ⟨by simp,first.title,?_⟩
      simp only [AgentClient.resolveCrashes,hr]

lemma reports_reproduced_iff :
    (agent.resolveCrashes crashes).Reports "Crash reproduced" ↔ Reported crashes := by
  obtain ⟨hr,title,hlines⟩ | ⟨hr,hlines⟩ := @resolveCrashes_lines agent crashes
  · refine iff_of_true ⟨_,by rw [hlines]; exact List.mem_cons_self,?_⟩ hr
    simp only [String.toList_append]
    exact ⟨": \"".toList ++ (title.toList ++ "\"".toList),by simp⟩
  · refine iff_of_false ?_ hr
    intro ⟨line,hline,hp⟩
    rw [hlines,List.mem_singleton] at hline
    subst hline
    exact absurd hp (by decide)

lemma reports_notReproduced_iff :
    (agent.resolveCrashes crashes).Reports "No crash reproduced." ↔ ¬ Reported crashes := by
  obtain ⟨hr,title,hlines⟩ | ⟨hr,hlines⟩ := @resolveCrashes_lines agent crashes
  · refine iff_of_false ?_ (not_not_intro hr)
    intro ⟨line,hline,hp⟩
    rw [hlines,List.mem_cons,List.mem_singleton] at hline
    obtain rfl | rfl := hline <;> simp at hp
  · refine iff_of_true ⟨_,by rw [hlines]; exact List.mem_cons_self,?_⟩ hr
    exact List.prefix_rfl

/-- Of a finished pipeline the two agree exactly on the reportable ones. -/
lemma agrees_iff_reportable (h : FinishedPipeline ctx results) :
    (((agent.resolveJobContext ctx).Reports "Crash reproduced" ↔ scored ctx = some .reproduced) ∧
      ((agent.resolveJobContext ctx).Reports "No crash reproduced." ↔
        scored ctx = some .notReproduced)) ↔ Reportable results := by
  rw [h.resolveJobContext_eq,reports_reproduced_iff,reports_notReproduced_iff]
  by_cases hu : Usable results
  · rw [h.scored_of_usable hu]
    have hreportable : Reportable results ↔ realCrashes results = [] ∨
        (∃ crash ∈ (realCrashes results).head?, crash.incidents ≠ []) ∧
          Reported (realCrashes results) :=
      ⟨fun hr => hr.crashes,fun hc => ⟨hu,hc⟩⟩
    rw [hreportable]
    cases hp : realCrashes results with
    | nil => simp [Reported]
    | cons crash rest =>
      by_cases hi : crash.incidents = [] <;> by_cases hr : Reported (crash :: rest) <;>
        simp [hi,hr]
  · have hnot : ¬ Reportable results := fun hr => hu hr.usable
    rw [h.scored_of_not_usable hu]
    by_cases hr : Reported (realCrashes results) <;> simp [hr,hnot]

lemma resolveJobException_iff {w : JobWorker} {result : JobResult} {e : JobException} :
    ((agent.resolveJobException w result e).raised = none ∧
      (agent.resolveJobException w result e).lines ≠ []) ↔
      (w.workerType = "kbuilder" → ∃ fields ∈ result.builder, ∀ stderr ∈ fields.kBuilderStderr,
        agent.downloadResource stderr.key agent.stderrPath = .ok ()) := by
  unfold AgentClient.resolveJobException
  by_cases hw : w.workerType = "kbuilder"
  · cases hb : result.builder with
    | none => simp [hw,Observation.raising]
    | some fields =>
      cases hs : fields.kBuilderStderr with
      | none => simp [hw,hs,Observation.printed]
      | some stderr =>
        cases hd : agent.downloadResource stderr.key agent.stderrPath <;> simp [hw,hs,hd]
  · simp [hw,Observation.printed]

/-- Of an aborted job the client says something exactly if it is answerable. -/
lemma resolveAborted_iff :
    ((agent.resolveAborted ctx).raised = none ∧ (agent.resolveAborted ctx).lines ≠ []) ↔
      agent.Answerable ctx := by
  unfold AgentClient.resolveAborted AgentClient.Answerable
  cases hw : pyIndex ctx.jobWorkers ctx.currentWorker with
  | none => simp [Observation.raising]
  | some w =>
    cases hr : w.workerResult with
    | none => simp [Observation.raising,hr]
    | some result =>
      cases he : result.workerException with
      | some e => simp [Observation.printed,hr,he]
      | none =>
        cases hj : result.jobException with
        | none => simp [Observation.printed,hr,he,hj]
        | some e => simpa [hr,he,hj] using @resolveJobException_iff agent w result e

/-- The client agrees with the scorer, and answers of an aborted job, exactly where the results of
the pipeline are reportable and the aborted job is answerable. -/
theorem agreesWithScorer_iff (agent : AgentClient) (ctx : JobContext) :
    agent.AgreesWithScorer ctx ↔
      (∀ results, FinishedPipeline ctx results → Reportable results) ∧
      (ctx.status = .aborted → agent.Answerable ctx) := by
  have haborted : ctx.status = .aborted →
      agent.resolveJobContext ctx = agent.resolveAborted ctx := fun hs => if_pos hs
  constructor
  · intro h
    refine ⟨fun results hp => agrees_iff_reportable hp |>.mp
      ⟨h.reproduced results hp,h.notReproduced results hp⟩,fun hs => ?_⟩
    rw [← resolveAborted_iff,← haborted hs]
    exact h.aborted hs
  · intro ⟨hreportable,hanswerable⟩
    refine ⟨fun results hp => ?_,fun results hp => ?_,fun hs => ?_⟩
    · exact ((agrees_iff_reportable hp).mpr (hreportable results hp)).1
    · exact ((agrees_iff_reportable hp).mpr (hreportable results hp)).2
    · rw [haborted hs,resolveAborted_iff]
      exact hanswerable hs

/-- The agent's machine, with a storage backend that has every key. -/
def workingAgent : AgentClient := ⟨"/root","/root",fun _ _ => .ok ()⟩

/-- `abortedWhilePending` makes the client raise. -/
theorem not_agreesWithScorer :
    ¬ ∀ (agent : AgentClient) (ctx : JobContext), agent.AgreesWithScorer ctx := by
  intro h
  have hraised := ((h workingAgent abortedWhilePending).aborted rfl).1
  have hnot : (workingAgent.resolveJobContext abortedWhilePending).raised ≠ none := by decide
  exact hnot hraised

end Feedback
end LiveKBench.KClient
