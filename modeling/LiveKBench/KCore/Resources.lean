import LiveKBench.KCore.Models
import LiveKBench.KCore.Storage
import LiveKBench.Lib.Retry

/-! Files on their way to the bucket and back: `TaskBase.submit_resource` and the retry loops of
`GCSStorageBackend`. -/
namespace LiveKBench.KCore.Resources
open Lib Storage

abbrev Bytes := List UInt8

/-- How one call of the client's transfer manager ends. What an upload that fails says it has left
is whether the object was stored even so: an object appears whole or not at all. What a download
that fails leaves is the file at the local path. -/
inductive Transfer (τ : Type)
  | inTime
  | timedOut (left : τ)
  | raised (left : τ)
  deriving DecidableEq

/-- The client's behaviour, attempt after attempt. -/
abbrev Pattern (τ : Type) := ℕ → Transfer τ

/-- A call that runs to its end leaves `done`. -/
def Transfer.attempt {σ τ : Type} (done : σ) (leave : τ → σ) : Transfer τ → Attempt σ
  | .inTime => .returned done
  | .timedOut left => .timedOut (leave left)
  | .raised left => .raised (leave left)

lemma Transfer.attempt_returned {σ τ : Type} {done s : σ} {leave : τ → σ} {t : Transfer τ} :
    t.attempt done leave = .returned s ↔ t = .inTime ∧ done = s := by
  cases t <;> simp [attempt]

lemma Transfer.attempt_timedOut {σ τ : Type} {done s : σ} {leave : τ → σ} {t : Transfer τ} :
    t.attempt done leave = .timedOut s ↔ ∃ left, t = .timedOut left ∧ leave left = s := by
  cases t <;> simp [attempt]

/-! ## `GCSStorageBackend` -/

section Backend
variable (pattern : Pattern Bool)

/-- `upload_chunks_concurrently`. -/
def uploadChunks (content : Bytes) (key : String) (i : ℕ) (blobs : Contents Bytes) :
    Attempt (Contents Bytes) :=
  (pattern i).attempt (blobs.set key content) fun landed =>
    if landed then blobs.set key content else blobs

/-- Three time-outs end the loop as a success does. -/
def uploadResource (content : Bytes) (key : String) (blobs : Contents Bytes) :
    Attempt (Contents Bytes) :=
  match retry (uploadChunks pattern content key) blobs 3 with
  | .returned blobs => .returned blobs
  | .timedOut blobs => .returned blobs
  | .raised blobs => .raised blobs

end Backend

/-- `download_chunks_concurrently`, which raises on the `None` that `get_blob` gives for a missing
key. The state is the file at the local path. -/
def downloadChunks (pattern : Pattern (Option Bytes)) (blobs : Contents Bytes) (key : String)
    (i : ℕ) (file : Option Bytes) : Attempt (Option Bytes) :=
  match blobs.value? key with
  | none => .raised file
  | some content => (pattern i).attempt (some content) id

def downloadResource (pattern : Pattern (Option Bytes)) (blobs : Contents Bytes) (key : String)
    (file : Option Bytes) : Attempt (Option Bytes) :=
  match retry (downloadChunks pattern blobs key) file 3 with
  | .returned file => .returned file
  | .timedOut file => .returned file
  | .raised file => .raised file

/-! ## `TaskBase.submit_resource` -/

/-- What a task knows of where its resources go. -/
structure TaskBase where
  jobId : String
  currentWorker : ℕ
  workerType : String
  bucketName : String

def TaskBase.storagePrefix (task : TaskBase) : String :=
  s!"jobs/{task.jobId}/{task.currentWorker}_{task.workerType}/"

def TaskBase.resourceUrl (task : TaskBase) (key : String) : String :=
  s!"https://storage.cloud.google.com/{task.bucketName}/{key}"

/-- What the call returns (`none` when it raises), and the bucket afterwards. -/
structure Submission where
  answer : Option (Option JobResource)
  blobs : Contents Bytes

/-- The file at the local path is `none` when `os.stat` finds nothing there. -/
def TaskBase.submitResource (task : TaskBase) (pattern : Pattern Bool) (inFolderKey : String)
    (file : Option Bytes) (blobs : Contents Bytes) : Submission :=
  match file with
  | none => ⟨none,blobs⟩
  | some content =>
    if content.length = 0 then ⟨some none,blobs⟩
    else
      let key := task.storagePrefix ++ inFolderKey
      match uploadResource pattern content key blobs with
      | .returned blobs => ⟨some (some ⟨key,task.resourceUrl key⟩),blobs⟩
      | .timedOut blobs => ⟨none,blobs⟩
      | .raised blobs => ⟨none,blobs⟩

/-! ## What is reported and what is there -/

/-- A resource is reported only if the object under its key holds the content of the file. -/
def Submission.Reported (submission : Submission) (file : Option Bytes) : Prop :=
  ∀ resource, submission.answer = some (some resource) →
    ∃ content, file = some content ∧ submission.blobs.value? resource.key = some content

/-- A download returns only if the local path holds the content of the object. -/
def Fetched (blobs : Contents Bytes) (key : String) (download : Attempt (Option Bytes)) : Prop :=
  ∀ file, download = .returned file → ∃ content, blobs.value? key = some content ∧ file = some content

/-- There is nothing to upload, one of three attempts is better than a time-out that stores nothing,
or the object is there already. -/
def UploadLands (pattern : Pattern Bool) (file : Option Bytes) (key : String)
    (blobs : Contents Bytes) : Prop :=
  file = none ∨ file = some [] ∨ (∃ i < 3, pattern i ≠ .timedOut false) ∨ blobs.value? key = file

/-- There is no object, one of three attempts does not time out, or the last of them leaves the
whole content. -/
def DownloadLands (pattern : Pattern (Option Bytes)) (blobs : Contents Bytes) (key : String) : Prop :=
  blobs.value? key = none ∨ (∃ i < 3, ∀ left, pattern i ≠ .timedOut left) ∨
    pattern 2 = .timedOut (blobs.value? key)

section Upload
variable {pattern : Pattern Bool} {content : Bytes} {key : String} {blobs blobs' : Contents Bytes}

/-- A call that runs to its end has stored the content. -/
lemma value_of_returned {i : ℕ} (h : uploadChunks pattern content key i blobs = .returned blobs') :
    blobs'.value? key = some content := by
  obtain ⟨-,rfl⟩ := Transfer.attempt_returned.mp h
  simp

lemma uploadChunks_timedOut {i : ℕ} :
    uploadChunks pattern content key i blobs = .timedOut blobs' ↔
      (pattern i = .timedOut false ∧ blobs' = blobs) ∨
        (pattern i = .timedOut true ∧ blobs' = blobs.set key content) := by
  rw [uploadChunks,Transfer.attempt_timedOut]
  simp [eq_comm]

/-- After time-outs only, the content is there if it was before or if one of them has stored it. -/
lemma value_of_spent {n : ℕ}
    (h : retry (uploadChunks pattern content key) blobs n = .timedOut blobs')
    (hlands : (∃ i < n, pattern i ≠ .timedOut false) ∨ blobs.value? key = some content) :
    blobs'.value? key = some content := by
  induction n generalizing blobs' with
  | zero =>
    obtain rfl := Attempt.timedOut.inj h
    obtain ⟨i,hi,-⟩ | hvalue := hlands
    · omega
    · exact hvalue
  | succ n ih =>
    obtain ⟨blobs₁,hn,hlast⟩ := retry_succ_timedOut.mp h
    obtain ⟨hidle,rfl⟩ | ⟨-,rfl⟩ := uploadChunks_timedOut.mp hlast
    · apply ih hn
      obtain ⟨i,hi,hne⟩ | hvalue := hlands
      · have hlt : i < n := by
          have hin : i ≠ n := by
            rintro rfl
            exact hne hidle
          omega
        exact .inl ⟨i,hlt,hne⟩
      · exact .inr hvalue
    · simp

/-- Three time-outs that store nothing are taken for a success. -/
lemma uploadResource_of_idle (h : ∀ i < 3, pattern i = .timedOut false) :
    uploadResource pattern content key blobs = .returned blobs := by
  have hspent : retry (uploadChunks pattern content key) blobs 3 = .timedOut blobs := by
    apply retry_of_idle
    intro i hi
    exact uploadChunks_timedOut.mpr (.inl ⟨h i hi,rfl⟩)
  rw [uploadResource,hspent]

lemma value_of_uploadResource (h : uploadResource pattern content key blobs = .returned blobs')
    (hlands : (∃ i < 3, pattern i ≠ .timedOut false) ∨ blobs.value? key = some content) :
    blobs'.value? key = some content := by
  unfold uploadResource at h
  cases hr : retry (uploadChunks pattern content key) blobs 3 with
  | returned blobs₁ =>
    rw [hr] at h
    obtain rfl := Attempt.returned.inj h
    exact retry_returned (fun _ _ _ hi => value_of_returned hi) hr
  | timedOut blobs₁ =>
    rw [hr] at h
    obtain rfl := Attempt.returned.inj h
    exact value_of_spent hr hlands
  | raised blobs₁ =>
    rw [hr] at h
    cases h

/-- The call of the backend as an object: so many time-outs, and then a call that runs to its
end. -/
theorem uploadResource_eq_step (bucketName : String) (quote : String → String) (localName : Name)
    (path : Path) (timeouts : ℕ) :
    uploadResource (fun i => if i < timeouts then .timedOut false else .inTime) content path.text
        blobs =
      .returned ((gcsStorageBackend bucketName quote).step blobs
        (.uploadResource localName path content timeouts)).1 := by
  simp only [gcsStorageBackend]
  by_cases hlate : 3 ≤ timeouts
  · rw [if_neg (by omega)]
    apply uploadResource_of_idle
    intro i hi
    exact if_pos (by omega)
  · rw [if_pos (by omega)]
    have hcases : timeouts = 0 ∨ timeouts = 1 ∨ timeouts = 2 := by omega
    obtain rfl | rfl | rfl := hcases <;> rfl

end Upload

section Submit
variable {task : TaskBase} {pattern : Pattern Bool} {inFolderKey : String} {file : Option Bytes}
  {blobs : Contents Bytes}

theorem reported_iff : (task.submitResource pattern inFolderKey file blobs).Reported file ↔
    UploadLands pattern file (task.storagePrefix ++ inFolderKey) blobs := by
  unfold TaskBase.submitResource Submission.Reported UploadLands
  cases file with
  | none => simp
  | some content =>
    by_cases hempty : content.length = 0
    · obtain rfl := List.length_eq_zero_iff.mp hempty
      simp
    · have hne : content ≠ [] := fun h => hempty (congrArg List.length h)
      simp only [hempty,if_false]
      generalize task.storagePrefix ++ inFolderKey = key
      constructor
      · intro hreported
        by_contra hlands
        have hidle : ∀ i < 3, pattern i = .timedOut false := by
          intro i hi
          by_contra hp
          exact hlands (.inr (.inr (.inl ⟨i,hi,hp⟩)))
        rw [uploadResource_of_idle hidle] at hreported
        obtain ⟨content',hfile,hvalue⟩ := hreported _ rfl
        exact hlands (.inr (.inr (.inr (hvalue.trans hfile.symm))))
      · intro hlands resource hanswer
        have hlands' : (∃ i < 3, pattern i ≠ .timedOut false) ∨ blobs.value? key = some content := by
          simpa [hne] using hlands
        cases hup : uploadResource pattern content key blobs with
        | returned blobs' =>
          rw [hup] at hanswer
          obtain rfl := Option.some.inj (Option.some.inj hanswer)
          exact ⟨content,rfl,value_of_uploadResource hup hlands'⟩
        | timedOut blobs' =>
          rw [hup] at hanswer
          cases hanswer
        | raised blobs' =>
          rw [hup] at hanswer
          cases hanswer

end Submit

section Download
variable {pattern : Pattern (Option Bytes)} {blobs : Contents Bytes} {key : String}
  {content : Bytes} {file file' : Option Bytes}

lemma downloadChunks_eq (h : blobs.value? key = some content) (i : ℕ) :
    downloadChunks pattern blobs key i file = (pattern i).attempt (some content) id := by
  rw [downloadChunks,h]

/-- After time-outs only, what the last of them has left is at the local path. -/
lemma left_of_spent (h : blobs.value? key = some content) {n : ℕ}
    (hr : retry (downloadChunks pattern blobs key) file (n+1) = .timedOut file') :
    pattern n = .timedOut file' := by
  obtain ⟨file₁,-,hlast⟩ := retry_succ_timedOut.mp hr
  rw [downloadChunks_eq h,Transfer.attempt_timedOut] at hlast
  obtain ⟨left,hp,rfl⟩ := hlast
  exact hp

lemma spent_of_timedOut (h : blobs.value? key = some content) {n : ℕ}
    (hlate : ∀ i < n, ∃ left, pattern i = .timedOut left) :
    ∃ file', retry (downloadChunks pattern blobs key) file n = .timedOut file' := by
  induction n with
  | zero => exact ⟨file,rfl⟩
  | succ n ih =>
    obtain ⟨file₁,hn⟩ := ih fun i hi => hlate i (by omega)
    obtain ⟨left,hp⟩ := hlate n (by omega)
    refine ⟨left,retry_succ_timedOut.mpr ⟨file₁,hn,?_⟩⟩
    rw [downloadChunks_eq h,Transfer.attempt_timedOut]
    exact ⟨left,hp,rfl⟩

theorem fetched_iff : Fetched blobs key (downloadResource pattern blobs key file) ↔
    DownloadLands pattern blobs key := by
  unfold Fetched DownloadLands downloadResource
  cases hvalue : blobs.value? key with
  | none =>
    have hraised : retry (downloadChunks pattern blobs key) file 3 = .raised file := by
      simp [retry,Attempt.orElse,downloadChunks,hvalue]
    simp [hraised]
  | some content =>
    constructor
    · intro hfetched
      by_contra hlands
      have hlate : ∀ i < 3, ∃ left, pattern i = .timedOut left := by
        intro i hi
        by_contra hp
        exact hlands (.inr (.inl ⟨i,hi,fun left h => hp ⟨left,h⟩⟩))
      obtain ⟨file',hr⟩ := @spent_of_timedOut pattern blobs key content file hvalue 3 hlate
      rw [hr] at hfetched
      obtain ⟨content',hcontent,hfile⟩ := hfetched file' rfl
      apply hlands
      rw [left_of_spent hvalue hr,hfile,hcontent]
      exact .inr (.inr rfl)
    · intro hlands file' hdone
      refine ⟨content,rfl,?_⟩
      cases hr : retry (downloadChunks pattern blobs key) file 3 with
      | returned file₁ =>
        rw [hr] at hdone
        obtain rfl := Attempt.returned.inj hdone
        refine retry_returned (Q := fun file => file = some content) ?_ hr
        intro i s s' hs
        rw [downloadChunks_eq hvalue,Transfer.attempt_returned] at hs
        exact hs.2.symm
      | timedOut file₁ =>
        rw [hr] at hdone
        obtain rfl := Attempt.returned.inj hdone
        have hlast : pattern 2 = .timedOut file₁ := left_of_spent hvalue hr
        obtain hnone | ⟨i,hi,hp⟩ | hleft := hlands
        · cases hnone
        · obtain ⟨s₁,s₂,hs⟩ := retry_spent hr hi
          rw [downloadChunks_eq hvalue,Transfer.attempt_timedOut] at hs
          obtain ⟨left,hpi,-⟩ := hs
          exact absurd hpi (hp left)
        · exact Transfer.timedOut.inj (hlast.symm.trans hleft)
      | raised file₁ =>
        rw [hr] at hdone
        cases hdone

end Download

/-- What is reported is stored, and what is downloaded is there, exactly unless the three attempts
are spent for nothing. -/
theorem resources_exist_iff (task : TaskBase) (inFolderKey key : String)
    (uploads : Pattern Bool) (downloads : Pattern (Option Bytes)) (file : Option Bytes)
    (blobs : Contents Bytes) :
    ((task.submitResource uploads inFolderKey file blobs).Reported file ↔
      UploadLands uploads file (task.storagePrefix ++ inFolderKey) blobs) ∧
    (Fetched blobs key (downloadResource downloads blobs key file) ↔
      DownloadLands downloads blobs key) :=
  ⟨reported_iff,fetched_iff⟩

def buildTask : TaskBase := ⟨"0000002a",0,"kbuilder","kgym"⟩

/-- Three time-outs leave an empty bucket empty and a download cut short, and both calls return. -/
theorem phantom_resource :
    ¬(buildTask.submitResource (fun _ => .timedOut false) "kcache.tar.gz" (some [1])
        OrderedMap.empty).Reported (some [1]) ∧
    ¬Fetched (OrderedMap.empty.set "kcache.tar.gz" [1,2]) "kcache.tar.gz"
      (downloadResource (fun _ => .timedOut (some [1]))
        (OrderedMap.empty.set "kcache.tar.gz" [1,2]) "kcache.tar.gz" none) := by
  constructor
  · intro h
    obtain ⟨content,-,hvalue⟩ := h _ rfl
    cases hvalue
  · intro h
    obtain ⟨content,hcontent,hfile⟩ := h (some [1]) rfl
    rw [OrderedMap.value?_set,if_pos rfl] at hcontent
    exact absurd (hcontent.trans hfile.symm) (by decide)

end LiveKBench.KCore.Resources
