import LiveKBench.KCore.JobIdCodec
import LiveKBench.KCore.Resources

/-! The keys of resources: a key tells the job, the stage, the type of the worker and the name under
which the file was submitted, so that no two stages ever write to the same key. -/
namespace LiveKBench.KCore.Resources
open Lib

section Keys
variable {j j' w w' : ℕ} {type type' bucketName bucketName' name name' : String}

/-- A text ends at the first mark. -/
lemma append_cons_inj {mark : Char} {x y rest rest' : List Char} (hx : mark ∉ x) (hy : mark ∉ y)
    (h : x ++ mark :: rest = y ++ mark :: rest') : x = y ∧ rest = rest' := by
  induction x generalizing y with
  | nil =>
    cases y with
    | nil => exact ⟨rfl,List.tail_eq_of_cons_eq h⟩
    | cons c y =>
      obtain rfl := List.head_eq_of_cons_eq h
      exact absurd List.mem_cons_self hy
  | cons c x ih =>
    cases y with
    | nil =>
      obtain rfl := List.head_eq_of_cons_eq h
      exact absurd List.mem_cons_self hx
    | cons c' y =>
      obtain ⟨rfl,hrest⟩ := List.cons.inj h
      obtain ⟨rfl,hr⟩ := ih (fun hm => hx (List.mem_cons_of_mem _ hm))
        (fun hm => hy (List.mem_cons_of_mem _ hm)) hrest
      exact ⟨rfl,hr⟩

lemma toList_storagePrefix (task : TaskBase) (name : String) :
    (task.storagePrefix ++ name).toList = "jobs/".toList ++ (task.jobId.toList ++ '/' ::
      (Nat.toDigits 10 task.currentWorker ++ '_' :: (task.workerType.toList ++ '/' ::
        name.toList))) := by
  have hstart : task.storagePrefix = "jobs/" ++ task.jobId ++ "/" ++ task.currentWorker.repr ++
    "_" ++ task.workerType ++ "/" := rfl
  rw [hstart]
  simp only [String.toList_append,Nat.toList_repr,List.append_assoc]
  rfl

lemma isHexDigit_of_mem_str {c : Char} (h : c ∈ (JobId.str j).toList) : isHexDigit c = true := by
  rw [JobId.toList_str] at h
  exact isHexDigit_of_mem_numeral h

lemma slash_notMem_str : '/' ∉ (JobId.str j).toList :=
  fun h => absurd (isHexDigit_of_mem_str h) (by decide)

lemma str_inj (h : (JobId.str j).toList = (JobId.str j').toList) : j = j' := by
  have hnew := JobId.new_str j
  rw [String.toList_injective h,JobId.new_str] at hnew
  exact_mod_cast (Option.some.inj hnew).symm

lemma toDigits_inj (h : Nat.toDigits 10 w = Nat.toDigits 10 w') : w = w' := by
  rw [← Nat.ofDigitChars_ten_toDigits (n := w),h,Nat.ofDigitChars_ten_toDigits]

/-- A key is of one stage, one worker type and one name. -/
theorem key_inj (htype : '/' ∉ type.toList) (htype' : '/' ∉ type'.toList)
    (h : (⟨JobId.str j,w,type,bucketName⟩ : TaskBase).storagePrefix ++ name =
      (⟨JobId.str j',w',type',bucketName'⟩ : TaskBase).storagePrefix ++ name') :
    j = j' ∧ w = w' ∧ type = type' ∧ name = name' := by
  have hlist := congrArg String.toList h
  rw [toList_storagePrefix,toList_storagePrefix] at hlist
  obtain ⟨hj,hstage⟩ := append_cons_inj slash_notMem_str slash_notMem_str
    (List.append_cancel_left hlist)
  obtain ⟨hw,hworker⟩ := append_cons_inj Nat.underscore_not_in_toDigits
    Nat.underscore_not_in_toDigits hstage
  obtain ⟨htypes,hname⟩ := append_cons_inj htype htype' hworker
  exact ⟨str_inj hj,toDigits_inj hw,String.toList_injective htypes,String.toList_injective hname⟩

end Keys
end LiveKBench.KCore.Resources
