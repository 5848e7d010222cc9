import LiveKBench.KArena.AgentInvoker

/-! The list of files that an agent is given in oracle mode. It is written from the record that has
been cleaned before. -/
namespace LiveKBench.KArena
open KClient

/-- The arguments that mount the list. -/
def oracleMount (env : Environment) : List String :=
  ["-v",((AgentInvoker.workspacePaths (.parse env.tempDir)).oraclePath.absolute env.cwd).text ++
    ":/KBDr/oracle-files.txt:ro"]

/-- Wherever the record of the bug is, the list that is written and mounted is that of the files of
its fix, one a line. -/
def ListsOracle (inv : Invocation) (d : SyzbotData) : Prop :=
  ∀ (heap : Heap) (bug : ℕ), heap[bug]? = some d →
    ∃ prepared after, inv.invoke heap bug = some (prepared,after) ∧
      (∀ cmd, prepared.dockerCmd = .ok cmd → oracleMount inv.env <:+: cmd) ∧
      ∃ files, d.patchModifiedFiles = some files ∧
        prepared.oracleFiles = "\n".intercalate files

section Oracle
variable {inv : Invocation} {d : SyzbotData} {files : List String}

lemma oracleFiles_prepared (copy : ℕ) : (inv.prepared copy d).oracleFiles = "" := rfl

/-- In oracle mode every command mounts the list. -/
lemma mount_of_dockerCmd (h : inv.agentConfig.oracleMode = true) {copy : ℕ} {cmd : List String}
    (hcmd : (inv.prepared copy d).dockerCmd = .ok cmd) : oracleMount inv.env <:+: cmd := by
  have hadd : ∀ x y : List String, oracleMount inv.env <:+: x → oracleMount inv.env <:+: x ++ y :=
    fun x y hx => hx.trans (List.prefix_append x y).isInfix
  unfold Invocation.prepared at hcmd
  dsimp only at hcmd
  unfold AgentInvoker.buildDockerCmd at hcmd
  simp only [Invocation.invoker,h,if_true] at hcmd
  cases hcreds : inv.config.googleApplicationCredentials with
  | none =>
    rw [hcreds] at hcmd
    obtain rfl := Except.ok.inj hcmd
    apply hadd
    apply hadd
    apply hadd
    exact (List.suffix_append _ _).isInfix
  | some credentials =>
    rw [hcreds] at hcmd
    dsimp only at hcmd
    split at hcmd
    · obtain rfl := Except.ok.inj hcmd
      apply hadd
      apply hadd
      apply hadd
      exact (List.suffix_append _ _).isInfix
    · cases hcmd

/-- Only the list of one file without a name is written as an empty text. -/
lemma intercalate_eq_empty (h : files ≠ []) : "\n".intercalate files = "" ↔ files = [""] := by
  cases files with
  | nil => exact absurd rfl h
  | cons file files =>
    cases files with
    | nil => simp
    | cons file' files => simp [String.intercalate_cons_cons]

/-- The list reaches the agent only where it is that of one file without a name. -/
theorem listsOracle_iff (inv : Invocation) (d : SyzbotData)
    (hmode : inv.agentConfig.oracleMode = true) (hne : d.patchModifiedFiles ≠ some [])
    (hsome : d.patchModifiedFiles ≠ none) :
    ListsOracle inv d ↔ d.patchModifiedFiles = some [""] := by
  obtain ⟨files,hfiles⟩ := Option.ne_none_iff_exists'.mp hsome
  have hnil : files ≠ [] := by
    rintro rfl
    exact hne hfiles
  rw [hfiles,Option.some.injEq,← intercalate_eq_empty hnil]
  constructor
  · intro h
    obtain ⟨prepared,after,hinvoke,-,files',hfiles',htext⟩ := h [d] 0 rfl
    rw [invoke_eq rfl,Option.some.injEq,Prod.mk.injEq] at hinvoke
    obtain rfl := Option.some.inj (hfiles.symm.trans hfiles')
    rw [← htext,← hinvoke.1,oracleFiles_prepared]
  · intro htext heap bug hd
    refine ⟨_,_,invoke_eq hd,?_,files,hfiles,?_⟩
    · intro cmd hcmd
      exact mount_of_dockerCmd hmode hcmd
    · rw [htext,oracleFiles_prepared]

def oracleInvocation : Invocation :=
  { plainInvocation with agentConfig := ⟨"mini-swe-agent","oracle","model",true⟩ }

/-- `fixedBug` with a fix in a file without a name. -/
def namelessBug : SyzbotData := { fixedBug with patchModifiedFiles := some [""] }

theorem listsOracle_namelessBug : ListsOracle oracleInvocation namelessBug :=
  (listsOracle_iff oracleInvocation namelessBug rfl (by simp [namelessBug])
    (by simp [namelessBug])).mpr rfl

/-- The agent is given an empty list. -/
theorem not_listsOracle : ¬∀ (inv : Invocation) (d : SyzbotData),
    inv.agentConfig.oracleMode = true → d.patchModifiedFiles ≠ some [] →
      d.patchModifiedFiles ≠ none → ListsOracle inv d := by
  intro h
  obtain ⟨prepared,after,hinvoke,-,files,hfiles,htext⟩ :=
    h oracleInvocation patchedBug rfl (by simp [patchedBug]) (by simp [patchedBug]) [patchedBug] 0
      rfl
  rw [invoke_eq rfl,Option.some.injEq,Prod.mk.injEq] at hinvoke
  obtain rfl := Option.some.inj hfiles
  rw [← hinvoke.1,oracleFiles_prepared,String.intercalate_singleton] at htext
  exact absurd htext (by decide)

end Oracle
end LiveKBench.KArena
