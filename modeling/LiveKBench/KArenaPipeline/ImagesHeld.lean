import LiveKBench.KArenaPipeline.ImageActivities

/-! Whether the images that the run of an agent uses are there. Nothing counts who uses an image: a
cleanup of another call takes it away, an image of the agent that is found says nothing of the image
it was built from, and the base commit of a run goes by the status that its bug has by then. -/
namespace LiveKBench.KArenaPipeline
open KArenaDb
open Lib Machine

abbrev ImagePool :=
  Pool ImageWorld Activity String ImageRequest ImageRequest.Answer ImageError

abbrev ImageEvent := Pool.Event Activity String ImageReply CrawlInsert

/-- The bug and the base commit of the container that a request starts. -/
def AgentRequest.container? : AgentRequest → Option (String × BaseCommit)
  | .runAgent run _ => some (run.bug.bugId,run.baseCommit)
  | .analyze analyzer _ => some (analyzer.bug.bugId,analyzer.baseCommit)
  | _ => none

/-- The base commit that a request goes by. -/
def AgentRequest.baseCommit? : AgentRequest → Option BaseCommit
  | .getLatestKcache _ baseCommit _ => some baseCommit
  | .runAgent run _ => some run.baseCommit
  | .analyze analyzer _ => some analyzer.baseCommit
  | .insertAgentPatch patch _ => some patch.baseCommit
  | _ => none

/-- With code 0, the image is there afterwards. -/
def DockerCommand.Provides (image : String) : DockerCommand → Prop
  | .inspect i => i = image
  | .build _ _ i => i = image
  | _ => False

/-- The images of a batch for a bug at a base commit. -/
def AgentPatchProcess.agentImage (p : AgentPatchProcess) (bugId : String) (c : BaseCommit) :
    String :=
  KenvImageManager.agentImageName ⟨p.dockerPrefix,p.preserveKenvBase,c⟩ bugId p.agent

def AgentPatchProcess.kenvImage (p : AgentPatchProcess) (bugId : String) (c : BaseCommit) :
    String :=
  KenvImageManager.kenvImageName ⟨p.dockerPrefix,p.preserveKenvBase,c⟩ bugId

/-- The task of a bug in a call awaits a request. -/
def Awaits (p : ImagePool) (k : ℕ) (bugId : String) (r : ImageRequest) : Prop :=
  ∃ c, p.task (k,bugId) = .active (.await r c)

def IsBatch (p : ImagePool) (k : ℕ) (batch : AgentPatchProcess) : Prop :=
  ∃ unionId items, p.calls k = some ⟨.agentPatches batch unionId,items⟩

/-- Here `ensure_agent_image` returns to the task. -/
def EnsuresImage (image : String) (k : ℕ) (bugId : String) (p : ImagePool) (e : ImageEvent) : Prop :=
  ∃ reply command output, e = .resume k bugId reply ∧ Awaits p k bugId (.agent (.docker command)) ∧
    command.Provides image ∧ reply.answers (.agent (.docker command)) = .ok output ∧
    output.returncode = 0

def ImagesPresent (batch : AgentPatchProcess) (bugId : String) (c : BaseCommit) (p : ImagePool) :
    Prop :=
  batch.agentImage bugId c ∈ p.shared.images ∧ batch.kenvImage bugId c ∈ p.shared.images

/-- Where a batch starts a container for a bug and a base commit, the same task made sure of their
images, which have been there ever since; all base commits are that of the batch's images. -/
structure ImageThere (tr : List (ImagePool × ImageEvent)) (p : ImagePool) : Prop where
  kept : ∀ k bugId batch r q reply before, IsBatch p k batch → Awaits p k bugId (.agent r) →
    tr = (q,.resume k bugId reply) :: before → ∀ b c, r.container? = some (b,c) →
      Since (ImagesPresent batch b c) (EnsuresImage (batch.agentImage b c) k bugId) tr p
  agree : ∀ k bugId batch r, IsBatch p k batch → Awaits p k bugId (.agent r) →
    ∀ c, r.baseCommit? = some c → c = batch.baseCommit

/-- No removal takes an image of a batch whose task for it goes on; the bug still has the status of
the batch; and where the image of the agent is found, the kenv image is there too. -/
structure Undisturbed (p : ImagePool) (e : ImageEvent) : Prop where
  removal : ∀ k bugId reply targets, e = .resume k bugId reply →
    Awaits p k bugId (.agent (.docker (.rmi targets))) → reply.effect = true →
      ∀ image ∈ targets, image ∈ reply.removed → ∀ k' bugId' batch, (k',bugId') ≠ (k,bugId) →
        IsBatch p k' batch → (p.task (k',bugId')).isActive = true →
          image ≠ batch.agentImage bugId' batch.baseCommit ∧
            image ≠ batch.kenvImage bugId' batch.baseCommit
  status : ∀ k bugId reply batch attempt, e = .resume k bugId reply → IsBatch p k batch →
    Awaits p k bugId (.agent (.getBug bugId attempt)) →
      ∀ row ∈ p.shared.bugs.get? bugId, row.status = batch.bugType
  kenv : ∀ k bugId reply batch, e = .resume k bugId reply → IsBatch p k batch →
    Awaits p k bugId (.agent (.docker (.inspect (batch.agentImage bugId batch.baseCommit)))) →
      batch.agentImage bugId batch.baseCommit ∈ p.shared.images →
        batch.kenvImage bugId batch.baseCommit ∈ p.shared.images

/-- The table of bugs was filled by crawls; whatever images are there. -/
def ImageWorld.Initial (w : ImageWorld) : Prop := ∃ cs, w.bugs = crawled cs

/-! ## What the task of a batch does -/

/-- How far a task is: it has asked nothing, it has found no image of the agent, it knows the kenv
image to be there, it knows both to be there, or it has removed them. -/
inductive ImagePhase
  | starting
  | missing
  | kenvThere
  | holding
  | cleaned
  deriving DecidableEq

section Follow
variable (batch : AgentPatchProcess) (bugId : String)

/-- A request that starts no container, goes by no base commit and removes nothing. -/
def AgentRequest.Harmless (r : AgentRequest) : Prop :=
  r.container? = none ∧ r.baseCommit? = none ∧ ∀ targets, r ≠ .docker (.rmi targets)

/-- A request made while the images are held. -/
structure AgentRequest.MadeHolding (r : AgentRequest) : Prop where
  container : ∀ b c, r.container? = some (b,c) → b = bugId ∧ c = batch.baseCommit
  baseCommit : ∀ c, r.baseCommit? = some c → c = batch.baseCommit
  bug : ∀ b attempt, r = .getBug b attempt → b = bugId

def allowedIn : ImagePhase → AgentRequest → Prop
  | .starting,r => r = .docker (.inspect (batch.agentImage bugId batch.baseCommit))
  | .missing,r => r.Harmless
  | .kenvThere,r => r.Harmless
  | .holding,r => r.MadeHolding batch bugId
  | .cleaned,r => r = .docker .prune

open Classical in
/-- The phase after an answer. -/
noncomputable def nextPhase : ImagePhase → (r : AgentRequest) → Except AgentError r.Answer →
    ImagePhase
  | .starting,.docker _,.ok output => if output.returncode = 0 then .holding else .missing
  | .missing,.docker command,.ok output =>
    if command.Provides (batch.kenvImage bugId batch.baseCommit) ∧ output.returncode = 0
    then .kenvThere else .missing
  | .kenvThere,.docker command,.ok output =>
    if command.Provides (batch.agentImage bugId batch.baseCommit) ∧ output.returncode = 0
    then .holding else .kenvThere
  | .holding,.docker _,_ => .cleaned
  | t,_,_ => t

/-- The bug that the database returns is the one asked for, and has the status of the batch. -/
def Gives : (r : AgentRequest) → Except AgentError r.Answer → Prop
  | .getBug b _,.ok bug => b = bugId →
    baseCommitForStatus bug.status = batch.baseCommit ∧ bug.syzbotData.bugId = bugId
  | _,_ => True

noncomputable def imageProtocol :
    Protocol AgentRequest AgentRequest.Answer AgentError ImagePhase where
  allowed := allowedIn batch bugId
  leads t r x t' := t' = nextPhase batch bugId t r x ∧ Gives batch bugId r x

variable {batch bugId}

lemma kenvBaseImageName_ne (m : KenvImageManager) (bugId : String) :
    m.kenvBaseImageName bugId ≠ m.kenvImageName bugId := by
  intro h
  have hlength := congrArg String.length h
  simp only [KenvImageManager.kenvBaseImageName,KenvImageManager.kenvImageName,
    String.length_append] at hlength
  have hbase : (toString "kenv-base-").length = 10 := rfl
  have hkenv : (toString "kenv-").length = 5 := rfl
  omega

/-- Both ends of a part that leaves the task where it is. -/
abbrev Stays (t : ImagePhase) {α : Type} : ImagePhase → Except AgentError α → Prop :=
  fun t' _ => t' = t

/-- A part that ends in one of the phases, unless it raises. -/
def Reaches (t : ImagePhase) {α : Type} : ImagePhase → Except AgentError α → Prop
  | t',.ok _ => t' = t
  | _,.error _ => True

lemma follows_docker {command : DockerCommand} {t : ImagePhase}
    {Q : ImagePhase → Except AgentError DockerOutput → Prop}
    (ha : allowedIn batch bugId t (.docker command))
    (hQ : ∀ x, Q (nextPhase batch bugId t (.docker command) x) x) :
    (runDocker command).Follows (imageProtocol batch bugId) Q t := by
  refine Coroutine.follows_request.mpr ⟨ha,fun x t' ht => ?_⟩
  obtain ⟨rfl,-⟩ := ht
  exact hQ x

lemma harmless_docker {command : DockerCommand} (h : ∀ targets, command ≠ .rmi targets) :
    (AgentRequest.docker command).Harmless :=
  ⟨rfl,rfl,fun targets heq => h targets (AgentRequest.docker.inj heq)⟩

/-- What does not provide the kenv image, and cannot remove it. -/
lemma follows_missing {command : DockerCommand} (hrmi : ∀ targets, command ≠ .rmi targets)
    (h : ¬command.Provides (batch.kenvImage bugId batch.baseCommit)) :
    (runDocker command).Follows (imageProtocol batch bugId) (Stays .missing) .missing := by
  refine follows_docker (harmless_docker hrmi) fun x => ?_
  cases x with
  | ok output => simp [Stays,nextPhase,h]
  | error e => rfl

lemma follows_build {dockerfile buildArg image : String} {t t' : ImagePhase}
    (ha : allowedIn batch bugId t (.docker (.build dockerfile buildArg image)))
    (hnext : ∀ output : DockerOutput, output.returncode = 0 →
      nextPhase batch bugId t (.docker (.build dockerfile buildArg image)) (.ok output) = t') :
    (KenvImageManager.build dockerfile buildArg image).Follows (imageProtocol batch bugId)
      (Reaches t') t := by
  rw [KenvImageManager.build,Coroutine.follows_bind]
  refine follows_docker ha fun x => ?_
  cases x with
  | error e => trivial
  | ok output =>
    rw [Coroutine.after_ok]
    by_cases hcode : output.returncode = 0
    · simp [hcode,Reaches,hnext output hcode]
    · simp [hcode,Reaches]

lemma follows_pullAttempts (maxRetries : ℕ) (attempts : List ℕ) :
    (batch.imageManager.pullAttempts bugId maxRetries attempts).Follows
      (imageProtocol batch bugId) (Stays .missing) .missing := by
  induction attempts with
  | nil => exact rfl
  | cons attempt attempts ih =>
    rw [KenvImageManager.pullAttempts,Coroutine.follows_bind]
    refine (@follows_missing batch bugId (.pull _ _) (by simp) id).mono fun t x ht => ?_
    obtain rfl : t = _ := ht
    cases x with
    | error e => rfl
    | ok output =>
      rw [Coroutine.after_ok]
      by_cases hcode : output.returncode = 0
      · simp only [hcode,beq_self_eq_true,if_true]
        rw [Coroutine.follows_bind]
        refine (@follows_missing batch bugId (.tag _ _) (by simp) id).mono fun t x ht => ?_
        obtain rfl : t = _ := ht
        cases x with
        | error e => rfl
        | ok output =>
          rw [Coroutine.after_ok]
          by_cases htagged : output.returncode = 0 <;> simp [htagged]
      · simp only [beq_iff_eq,hcode,if_false]
        rw [Coroutine.follows_bind]
        refine Coroutine.follows_request.mpr ⟨⟨rfl,rfl,by simp⟩,fun x t' ht => ?_⟩
        obtain ⟨rfl,-⟩ := ht
        cases x with
        | error e => rfl
        | ok u => exact ih

lemma follows_ensureKenvImage : (batch.imageManager.ensureKenvImage bugId).Follows
    (imageProtocol batch bugId) (Reaches .kenvThere) .missing := by
  have hbuild : (batch.imageManager.buildKenvImage bugId).Follows (imageProtocol batch bugId)
      (Reaches .kenvThere) .missing := by
    refine follows_build (harmless_docker (by simp)) fun output hcode => ?_
    exact if_pos ⟨rfl,hcode⟩
  rw [KenvImageManager.ensureKenvImage,KenvImageManager.checkImageExists,Coroutine.follows_bind,
    Coroutine.follows_bind]
  refine follows_docker (harmless_docker (by simp)) fun x => ?_
  cases x with
  | error e => trivial
  | ok output =>
    by_cases hcode : output.returncode = 0
    · have hnext : nextPhase batch bugId .missing
          (.docker (.inspect (batch.imageManager.kenvImageName bugId))) (.ok output) = .kenvThere :=
        if_pos ⟨rfl,hcode⟩
      simp [hcode,hnext,Reaches]
    · have hnext : nextPhase batch bugId .missing
          (.docker (.inspect (batch.imageManager.kenvImageName bugId))) (.ok output) = .missing :=
        if_neg fun h => hcode h.2
      simp only [Coroutine.after_ok,hnext,beq_iff_eq,hcode,Coroutine.follows_pure,if_false,
        Coroutine.follows_bind,KenvImageManager.checkImageExists]
      refine (@follows_missing batch bugId (.inspect _) (by simp)
        (kenvBaseImageName_ne batch.imageManager bugId)).mono fun t x ht => ?_
      obtain rfl : t = _ := ht
      cases x with
      | error e => trivial
      | ok output =>
        by_cases hbase : output.returncode = 0
        · simpa [hbase] using hbuild
        · simp only [Coroutine.after_ok,beq_iff_eq,hbase,Coroutine.follows_pure,if_false,
            Coroutine.follows_bind,KenvImageManager.pullKenvBaseImage]
          refine (follows_pullAttempts 3 _).mono fun t x ht => ?_
          obtain rfl : t = _ := ht
          cases x with
          | error e => trivial
          | ok u => exact hbuild

theorem follows_ensureAgentImage : (batch.imageManager.ensureAgentImage bugId batch.agent).Follows
    (imageProtocol batch bugId) (Reaches .holding) .starting := by
  rw [KenvImageManager.ensureAgentImage,KenvImageManager.checkImageExists,Coroutine.follows_bind,
    Coroutine.follows_bind]
  refine follows_docker rfl fun x => ?_
  cases x with
  | error e => trivial
  | ok output =>
    by_cases hcode : output.returncode = 0
    · simp [nextPhase,hcode,Reaches]
    · simp only [Coroutine.after_ok,nextPhase,hcode,beq_iff_eq,Coroutine.follows_pure,if_false,
        Coroutine.follows_bind]
      refine follows_ensureKenvImage.mono fun t x ht => ?_
      cases x with
      | error e => trivial
      | ok u =>
        obtain rfl : t = _ := ht
        refine follows_build (harmless_docker (by simp)) fun output hcode => ?_
        exact if_pos ⟨rfl,hcode⟩

/-- A request other than one to docker keeps the images held. -/
lemma follows_holding {α : Type} {r : AgentRequest} {f : r.Answer → AgentCode α}
    (hr : r.MadeHolding batch bugId) (hdocker : ∀ command, r ≠ .docker command)
    (hf : ∀ a, Gives batch bugId r (.ok a) →
      (f a).Follows (imageProtocol batch bugId) (Stays .holding) .holding) :
    (awaitRequest r >>= f).Follows (imageProtocol batch bugId) (Stays .holding) .holding := by
  rw [Coroutine.follows_bind]
  refine Coroutine.follows_request.mpr ⟨hr,fun x t' ht => ?_⟩
  obtain ⟨rfl,hgives⟩ := ht
  have hnext : nextPhase batch bugId .holding r x = .holding := by
    cases r with
    | docker command => exact absurd rfl (hdocker command)
    | _ => rfl
  rw [hnext]
  cases x with
  | error e => rfl
  | ok a => exact hf a hgives

/-- A request that names neither a container nor a base commit nor a bug. -/
lemma madeHolding_plain {r : AgentRequest} (hc : r.container? = none) (hb : r.baseCommit? = none)
    (hbug : ∀ b attempt, r ≠ .getBug b attempt) : r.MadeHolding batch bugId where
  container := by simp [hc]
  baseCommit := by simp [hb]
  bug b attempt h := absurd h (hbug b attempt)

lemma madeHolding_commit {r : AgentRequest} (hc : r.container? = none)
    (hb : r.baseCommit? = some batch.baseCommit) (hbug : ∀ b attempt, r ≠ .getBug b attempt) :
    r.MadeHolding batch bugId where
  container := by simp [hc]
  baseCommit c h := Option.some.inj (h.symm.trans hb)
  bug b attempt h := absurd h (hbug b attempt)

lemma madeHolding_getBug (attempt : ℕ) :
    (AgentRequest.getBug bugId attempt).MadeHolding batch bugId where
  container := by simp [AgentRequest.container?]
  baseCommit := by simp [AgentRequest.baseCommit?]
  bug b _ h := (AgentRequest.getBug.inj h).1.symm

lemma follows_patchOf (result : AgentRun.Result) {bug : SyzbotBug} (attempt : ℕ)
    (hbug : bug.syzbotData.bugId = bugId) :
    (AgentPatchProcess.patchOf result bug batch.baseCommit attempt).Follows
      (imageProtocol batch bugId) (Stays .holding) .holding := by
  unfold AgentPatchProcess.patchOf
  cases result.status with
  | error => exact rfl
  | success =>
    refine follows_holding ⟨?_,?_,by simp⟩ (by simp) fun analysis _ => rfl
    · intro b c h
      cases h
      exact ⟨hbug,rfl⟩
    · intro c h
      cases h
      rfl

/-- The bug has the status of the batch, so the base commit is that of the images. -/
lemma follows_processSingleBug (unionId : ℤ) (attempt : ℕ) :
    (batch.processSingleBug bugId unionId attempt).Follows (imageProtocol batch bugId)
      (Stays .holding) .holding := by
  refine follows_holding (madeHolding_getBug attempt) (by simp) fun bug hgives => ?_
  obtain ⟨hcommit,hbug⟩ := hgives rfl
  rw [hcommit]
  refine follows_holding (madeHolding_commit rfl rfl (by simp)) (by simp) fun kcache _ => ?_
  refine follows_holding ⟨?_,fun c h => by cases h; rfl,by simp⟩ (by simp) fun result _ => ?_
  · intro b c h
    cases h
    exact ⟨hbug,rfl⟩
  rw [Coroutine.follows_bind]
  refine (follows_patchOf result attempt hbug).mono fun t x ht => ?_
  obtain rfl : t = _ := ht
  cases x with
  | error e => rfl
  | ok patch =>
    rw [Coroutine.after_ok]
    refine follows_holding (madeHolding_plain rfl rfl (by simp)) (by simp) fun patchId _ => ?_
    refine follows_holding (madeHolding_plain rfl rfl (by simp)) (by simp) fun addedTime _ => ?_
    refine follows_holding (madeHolding_commit rfl rfl (by simp)) (by simp) fun agentPatchId _ => ?_
    refine follows_holding (madeHolding_plain rfl rfl (by simp)) (by simp) fun _ _ => ?_
    exact follows_holding (madeHolding_plain rfl rfl (by simp)) (by simp) fun _ _ => rfl

lemma follows_instances (unionId : ℤ) (attempts : List ℕ) :
    (batch.instances bugId unionId attempts).Follows (imageProtocol batch bugId)
      (Stays .holding) .holding := by
  induction attempts with
  | nil => exact rfl
  | cons attempt attempts ih =>
    rw [AgentPatchProcess.instances,Coroutine.follows_bind,Coroutine.follows_tryCatch,
      Coroutine.follows_bind]
    refine (follows_processSingleBug unionId attempt).mono fun t x ht => ?_
    obtain rfl : t = _ := ht
    have hrest : ∀ patch : Option AgentPatch, (do
        let patches ← batch.instances bugId unionId attempts
        return patch.toList ++ patches : AgentCode (List AgentPatch)).Follows
          (imageProtocol batch bugId) (Stays .holding) .holding := by
      intro patch
      rw [Coroutine.follows_bind]
      refine ih.mono fun t x ht => ?_
      obtain rfl : t = _ := ht
      cases x <;> rfl
    cases x with
    | ok patch => exact hrest (some patch)
    | error e => exact hrest none

/-- The whole task: at last it removes its images and asks for nothing but a pruning. -/
theorem follows_processBugInstances (unionId : ℤ) :
    (do
      let patches ← batch.guarded unionId bugId
      let _ ← batch.afterwards bugId patches : AgentCode Unit).Follows (imageProtocol batch bugId)
        (fun _ _ => True) .starting := by
  have hafter : ∀ patches, (batch.afterwards bugId patches).Follows (imageProtocol batch bugId)
      (fun _ _ => True) .holding := by
    intro patches
    rw [AgentPatchProcess.afterwards,KenvImageManager.cleanupImages,Coroutine.follows_bind,
      Coroutine.follows_bind]
    refine follows_docker (madeHolding_plain rfl rfl (by simp)) fun x => ?_
    cases x with
    | error e => trivial
    | ok output =>
      rw [Coroutine.after_ok,Coroutine.follows_bind]
      refine follows_docker rfl fun x => ?_
      cases x <;> trivial
  rw [Coroutine.follows_bind,AgentPatchProcess.guarded,Coroutine.follows_bind]
  refine follows_ensureAgentImage.mono fun t x ht => ?_
  cases x with
  | error e => trivial
  | ok u =>
    obtain rfl : t = _ := ht
    refine (follows_instances unionId _).mono fun t x ht => ?_
    obtain rfl : t = _ := ht
    cases x with
    | error e => trivial
    | ok patches =>
      rw [Coroutine.after_ok,Coroutine.follows_bind]
      refine (hafter patches).mono fun t x _ => ?_
      cases x <;> trivial

end Follow

/-! ## What an answer changes -/

section Exec
variable {w w' : ImageWorld} {reply : ImageReply}

/-- Only a removal takes images away. -/
lemma images_of_exec {r : ImageRequest} {x : Except ImageError r.Answer}
    (h : w.exec reply r = some (w',x)) : w'.bugs = w.bugs ∧ ∀ image ∈ w.images,
      image ∈ w'.images ∨ ∃ targets, r = .agent (.docker (.rmi targets)) ∧ reply.effect = true ∧
        image ∈ targets ∧ image ∈ reply.removed := by
  have hsame : w' = w → w'.bugs = w.bugs ∧ ∀ image ∈ w.images, image ∈ w'.images ∨
      ∃ targets, r = .agent (.docker (.rmi targets)) ∧ reply.effect = true ∧
        image ∈ targets ∧ image ∈ reply.removed := by
    rintro rfl
    exact ⟨rfl,fun image hi => .inl hi⟩
  have hdocker : ∀ command : DockerCommand,
      w' = { w with images := if reply.effect then command.run reply.removed w.images
        else w.images } → r = .agent (.docker command) →
      w'.bugs = w.bugs ∧ ∀ image ∈ w.images, image ∈ w'.images ∨
        ∃ targets, r = .agent (.docker (.rmi targets)) ∧ reply.effect = true ∧
          image ∈ targets ∧ image ∈ reply.removed := by
    rintro command rfl rfl
    refine ⟨rfl,fun image hi => ?_⟩
    by_cases heffect : reply.effect = true
    · cases command with
      | rmi targets =>
        by_cases hgone : image ∈ targets ∧ image ∈ reply.removed
        · exact .inr ⟨targets,rfl,heffect,hgone⟩
        · left
          simp only [heffect,if_true,DockerCommand.run,List.mem_filter]
          exact ⟨hi,by simpa [not_and_or] using not_and_or.mp hgone⟩
      | _ => simp [heffect,DockerCommand.run,hi]
    · simp [heffect,hi]
  cases r with
  | eval r =>
    cases h
    exact hsame rfl
  | agent r =>
    cases r with
    | docker command =>
      simp only [ImageWorld.exec] at h
      split at h
      · cases h
        exact hdocker command rfl rfl
      · split at h
        · cases h
          exact hdocker command rfl rfl
        · cases h
    | getBug b attempt =>
      simp only [ImageWorld.exec] at h
      split at h
      · cases h
        exact hsame rfl
      · cases h
        exact hsame rfl
    | _ =>
      cases h
      exact hsame rfl

lemma docker_of_exec {command : DockerCommand} {output : DockerOutput}
    (h : w.exec reply (.agent (.docker command)) = some (w',.ok output)) :
    reply.answers (.agent (.docker command)) = .ok output ∧
      command.Honest w.images reply.effect output ∧
      w'.images = if reply.effect then command.run reply.removed w.images else w.images := by
  simp only [ImageWorld.exec] at h
  split at h
  · cases h
  · rename_i output' ha
    split at h
    · rename_i honest
      cases h
      exact ⟨ha,honest,rfl⟩
    · cases h

/-- Docker does not exit with code 0 for an image that is not there. -/
lemma mem_images_of_provides {command : DockerCommand} {output : DockerOutput} {image : String}
    (h : w.exec reply (.agent (.docker command)) = some (w',.ok output))
    (hp : command.Provides image) (hcode : output.returncode = 0) : image ∈ w'.images := by
  obtain ⟨-,honest,himages⟩ := docker_of_exec h
  have hnow := honest hcode
  rw [himages]
  cases command with
  | inspect i =>
    obtain rfl : i = image := hp
    cases reply.effect <;> simpa [DockerCommand.run] using hnow
  | build dockerfile buildArg i =>
    obtain rfl : i = image := hp
    have heffect : reply.effect = true := hnow
    simp [heffect,DockerCommand.run]
  | pull i attempt => exact hp.elim
  | tag source target => exact hp.elim
  | rmi targets => exact hp.elim
  | prune => exact hp.elim

lemma getBug_of_exec {b : String} {attempt : ℕ} {bug : SyzbotBug}
    (h : w.exec reply (.agent (.getBug b attempt)) = some (w',.ok bug)) :
    ∃ row, w.bugs.get? b = some row ∧ bug.status = row.status ∧
      bug.syzbotData = row.syzbotData := by
  simp only [ImageWorld.exec] at h
  split at h
  · cases h
  · have hbug : getBug w.bugs b = .ok bug := by
      simpa using congrArg (Option.map Prod.snd) h
    unfold getBug at hbug
    split at hbug
    · cases hbug
    · rename_i row hrow
      split at hbug
      · cases hbug
      · rename_i bug' hread
        cases hbug
        simp only [rowToBug,Option.bind_eq_bind,Option.bind_eq_some_iff,Option.pure_def,
          Option.some.injEq] at hread
        obtain ⟨addedTime,-,reportedTime,-,subsystem,-,rfl⟩ := hread
        exact ⟨row,hrow,rfl,rfl⟩

end Exec

/-! ## All tasks together -/

section Held
variable {batch : AgentPatchProcess} {bugId : String} {k : ℕ}
  {tr : List (ImagePool × ImageEvent)} {p p' : ImagePool} {e : ImageEvent}

/-- What a phase says of the images. -/
def Secured (batch : AgentPatchProcess) (k : ℕ) (bugId : String)
    (tr : List (ImagePool × ImageEvent)) (p : ImagePool) : ImagePhase → Prop
  | .kenvThere => batch.kenvImage bugId batch.baseCommit ∈ p.shared.images
  | .holding => Since (ImagesPresent batch bugId batch.baseCommit)
      (EnsuresImage (batch.agentImage bugId batch.baseCommit) k bugId) tr p
  | _ => True

/-- A task of a batch that has not ended follows the protocol from a phase of which this holds. -/
def TaskHeld (batch : AgentPatchProcess) (k : ℕ) (bugId : String)
    (tr : List (ImagePool × ImageEvent)) (p : ImagePool) :
    Task ImageRequest ImageRequest.Answer ImageError → Prop
  | .active c => ∃ (code : AgentCode Unit) (t : ImagePhase), c = AgentCode.lift code ∧
      code.Follows (imageProtocol batch bugId) (fun _ _ => True) t ∧ Secured batch k bugId tr p t
  | _ => True

/-- The invariant of all orders of steps. A row of a bug holds the data of that bug. -/
structure ImagesKept (tr : List (ImagePool × ImageEvent)) (p : ImagePool) : Prop where
  held : ∀ k bugId batch, IsBatch p k batch → TaskHeld batch k bugId tr p (p.task (k,bugId))
  rows : ∀ row ∈ p.shared.bugs.rows, row.syzbotData.bugId = row.bugId

lemma taskHeld_ofCoroutine {code : AgentCode Unit} {t : ImagePhase}
    (hf : code.Follows (imageProtocol batch bugId) (fun _ _ => True) t)
    (hs : Secured batch k bugId tr p t) :
    TaskHeld batch k bugId tr p (.ofCoroutine (AgentCode.lift code)) := by
  cases code with
  | done a => trivial
  | raise e => trivial
  | await r c =>
    rw [AgentCode.lift,Task.ofCoroutine]
    exact ⟨.await r c,t,by rw [AgentCode.lift],hf,hs⟩

/-- Images that stay leave a phase as it is. -/
lemma Secured.next {t : ImagePhase} (h : Secured batch k bugId tr p t)
    (hkeep : ∀ image, image = batch.agentImage bugId batch.baseCommit ∨
      image = batch.kenvImage bugId batch.baseCommit →
        image ∈ p.shared.images → image ∈ p'.shared.images) :
    Secured batch k bugId ((p,e) :: tr) p' t := by
  cases t with
  | kenvThere => exact hkeep _ (.inr rfl) h
  | holding =>
    have hnow : ImagesPresent batch bugId batch.baseCommit p := Since.holds h
    exact Since.next h ⟨hkeep _ (.inl rfl) hnow.1,hkeep _ (.inr rfl) hnow.2⟩
  | _ => trivial

lemma TaskHeld.next {task : Task ImageRequest ImageRequest.Answer ImageError}
    (h : TaskHeld batch k bugId tr p task)
    (hkeep : task.isActive = true → ∀ image, image = batch.agentImage bugId batch.baseCommit ∨
      image = batch.kenvImage bugId batch.baseCommit →
        image ∈ p.shared.images → image ∈ p'.shared.images) :
    TaskHeld batch k bugId ((p,e) :: tr) p' task := by
  cases task with
  | active c =>
    obtain ⟨code,t,hc,hf,hs⟩ := h
    exact ⟨code,t,hc,hf,hs.next (hkeep rfl)⟩
  | _ => trivial

lemma baseCommit_eq (batch : AgentPatchProcess) :
    batch.baseCommit = baseCommitForStatus batch.bugType := by
  unfold AgentPatchProcess.baseCommit baseCommitForStatus
  cases batch.bugType <;> rfl

/-- The answer to a task of a batch leads it to a phase of which what should hold does. -/
lemma secured_answer {reply : ImageReply} {r : AgentRequest} {w' : ImageWorld}
    {x : Except AgentError r.Answer} {t : ImagePhase}
    {c : Except ImageError r.Answer → Coroutine ImageRequest ImageRequest.Answer ImageError Unit}
    (hb : IsBatch p k batch) (hu : Undisturbed p (.resume k bugId reply))
    (htask : p.task (k,bugId) = .active (.await (.agent r) c))
    (hexec : p.shared.exec reply (.agent r) = some (w',x.mapError .agent))
    (hallowed : allowedIn batch bugId t r) (hs : Secured batch k bugId tr p t)
    (hw : p'.shared = w') :
    Secured batch k bugId ((p,.resume k bugId reply) :: tr) p' (nextPhase batch bugId t r x) := by
  have hkeep : (∀ targets, r ≠ .docker (.rmi targets)) → ∀ image ∈ p.shared.images,
      image ∈ p'.shared.images := by
    intro hrmi image hi
    rw [hw]
    obtain hstays | ⟨targets,hr,-⟩ := (images_of_exec hexec).2 image hi
    · exact hstays
    · exact absurd (ImageRequest.agent.inj hr) (hrmi targets)
  cases t with
  | starting =>
    obtain rfl : r = _ := hallowed
    cases x with
    | error e => trivial
    | ok output =>
      obtain ⟨hanswer,honest,-⟩ := docker_of_exec hexec
      by_cases hcode : output.returncode = 0
      · have hthere := hu.kenv k bugId reply batch rfl hb ⟨c,htask⟩ (honest hcode)
        rw [show nextPhase batch bugId .starting _ (.ok output) = .holding from if_pos hcode]
        refine since_of_step ?_ ⟨hkeep (by simp) _ (honest hcode),hkeep (by simp) _ hthere⟩
        exact ⟨reply,_,output,rfl,⟨c,htask⟩,rfl,hanswer,hcode⟩
      · rw [show nextPhase batch bugId .starting _ (.ok output) = .missing from if_neg hcode]
        trivial
  | missing =>
    cases r with
    | docker command =>
      cases x with
      | error e => trivial
      | ok output =>
        by_cases hkenv : command.Provides (batch.kenvImage bugId batch.baseCommit) ∧
            output.returncode = 0
        · rw [show nextPhase batch bugId .missing _ (.ok output) = .kenvThere from if_pos hkenv]
          change _ ∈ p'.shared.images
          rw [hw]
          exact mem_images_of_provides hexec hkenv.1 hkenv.2
        · rw [show nextPhase batch bugId .missing _ (.ok output) = .missing from if_neg hkenv]
          trivial
    | _ => trivial
  | kenvThere =>
    have hkenv : batch.kenvImage bugId batch.baseCommit ∈ p'.shared.images :=
      hkeep hallowed.2.2 _ hs
    cases r with
    | docker command =>
      cases x with
      | error e => exact hkenv
      | ok output =>
        by_cases hagent : command.Provides (batch.agentImage bugId batch.baseCommit) ∧
            output.returncode = 0
        · have hthere := mem_images_of_provides hexec hagent.1 hagent.2
          obtain ⟨hanswer,-⟩ := docker_of_exec hexec
          rw [show nextPhase batch bugId .kenvThere _ (.ok output) = .holding from if_pos hagent]
          refine since_of_step ?_ ⟨hw ▸ hthere,hkenv⟩
          exact ⟨reply,command,output,rfl,⟨c,htask⟩,hagent.1,hanswer,hagent.2⟩
        · rw [show nextPhase batch bugId .kenvThere _ (.ok output) = .kenvThere from if_neg hagent]
          exact hkenv
    | _ => exact hkenv
  | holding =>
    cases r with
    | docker command => trivial
    | _ => exact hs.next fun image _ => hkeep (by simp) image
  | cleaned =>
    obtain rfl : r = _ := hallowed
    trivial

/-- A bug comes back as its row says. -/
lemma gives_answer {reply : ImageReply} {r : AgentRequest} {w' : ImageWorld}
    {x : Except AgentError r.Answer}
    {c : Except ImageError r.Answer → Coroutine ImageRequest ImageRequest.Answer ImageError Unit}
    (hb : IsBatch p k batch) (hu : Undisturbed p (.resume k bugId reply))
    (hrows : ∀ row ∈ p.shared.bugs.rows, row.syzbotData.bugId = row.bugId)
    (htask : p.task (k,bugId) = .active (.await (.agent r) c))
    (hexec : p.shared.exec reply (.agent r) = some (w',x.mapError .agent)) :
    Gives batch bugId r x := by
  cases r with
  | getBug b attempt =>
    cases x with
    | error e => trivial
    | ok bug =>
      rintro rfl
      obtain ⟨row,hrow,hstatus,hdata⟩ := getBug_of_exec hexec
      have hsame := hu.status k b reply batch attempt rfl hb ⟨c,htask⟩ row hrow
      constructor
      · rw [baseCommit_eq,hstatus,hsame]
      · rw [hdata,hrows row (Table.get?_eq_some.mp hrow).1,Table.key_of_get? hrow]
  | _ => trivial

/-- A crawl writes the data of a bug under the bug's own id. -/
lemma rows_crawlInsert {bugs : BugTable}
    (h : ∀ row ∈ bugs.rows, row.syzbotData.bugId = row.bugId) (c : CrawlInsert) :
    ∀ row ∈ (crawlInsert bugs c).rows, row.syzbotData.bugId = row.bugId := by
  intro row hrow
  unfold crawlInsert at hrow
  cases hc : c.syzbotBug with
  | none =>
    rw [hc] at hrow
    exact h row hrow
  | some bug =>
    rw [hc] at hrow
    obtain ⟨status,-,rfl⟩ := Option.map_eq_some_iff.mp hc
    have hget := Table.get?_eq_some.mpr ⟨hrow,rfl⟩
    rw [get?_insertSyzbotBug] at hget
    split at hget
    · rename_i hid
      cases hold : bugs.get? row.bugId with
      | none =>
        rw [hold] at hget
        obtain rfl := Option.some.inj hget
        rfl
      | some old =>
        rw [hold] at hget
        obtain rfl := Option.some.inj hget
        exact hid
    · exact h row (Table.get?_eq_some.mp hget).1

lemma rows_crawled (cs : List CrawlInsert) :
    ∀ row ∈ (crawled cs).rows, row.syzbotData.bugId = row.bugId := by
  unfold crawled
  refine List.foldlRecOn cs crawlInsert (motive := fun bugs : BugTable =>
    ∀ row ∈ bugs.rows, row.syzbotData.bugId = row.bugId) ?_ ?_
  · intro row hrow
    cases hrow
  · intro bugs h c _
    exact rows_crawlInsert h c

/-- A task that the step does not resume. -/
lemma TaskHeld.unresumed {reply : ImageReply} {bugId' : String} {k' : ℕ} {r : ImageRequest}
    {c : Except ImageError r.Answer → Coroutine ImageRequest ImageRequest.Answer ImageError Unit}
    {w' : ImageWorld} {x : Except ImageError r.Answer} (hne : (k',bugId') ≠ (k,bugId))
    (hb : IsBatch p k' batch) (hu : Undisturbed p (.resume k bugId reply))
    (htask : p.task (k,bugId) = .active (.await r c))
    (hexec : p.shared.exec reply r = some (w',x)) (hw : p'.shared = w')
    (h : TaskHeld batch k' bugId' tr p (p.task (k',bugId'))) :
    TaskHeld batch k' bugId' ((p,.resume k bugId reply) :: tr) p' (p.task (k',bugId')) := by
  refine h.next fun hactive image himage hi => ?_
  rw [hw]
  obtain hstays | ⟨targets,rfl,heffect,htarget,hremoved⟩ := (images_of_exec hexec).2 image hi
  · exact hstays
  · have hother := hu.removal k bugId reply targets rfl ⟨c,htask⟩ heffect image htarget hremoved
      k' bugId' batch hne hb hactive
    obtain rfl | rfl := himage
    · exact absurd rfl hother.1
    · exact absurd rfl hother.2

/-- The task that the step resumes. -/
lemma TaskHeld.resumed {reply : ImageReply} {r : ImageRequest}
    {c : Except ImageError r.Answer → Coroutine ImageRequest ImageRequest.Answer ImageError Unit}
    {w' : ImageWorld} {x : Except ImageError r.Answer} (hb : IsBatch p k batch)
    (hu : Undisturbed p (.resume k bugId reply))
    (hrows : ∀ row ∈ p.shared.bugs.rows, row.syzbotData.bugId = row.bugId)
    (htask : p.task (k,bugId) = .active (.await r c))
    (hexec : p.shared.exec reply r = some (w',x)) (hw : p'.shared = w')
    (h : TaskHeld batch k bugId tr p (p.task (k,bugId))) :
    TaskHeld batch k bugId ((p,.resume k bugId reply) :: tr) p' (.ofCoroutine (c x)) := by
  rw [htask] at h
  obtain ⟨code,t,hc,hf,hs⟩ := h
  cases code with
  | done a => cases hc
  | raise e => cases hc
  | await r₀ f =>
    rw [AgentCode.lift] at hc
    cases hc
    obtain ⟨hallowed,hnext⟩ := hf
    have hgoes : ∀ y : Except AgentError r₀.Answer, x = y.mapError .agent →
        TaskHeld batch k bugId ((p,.resume k bugId reply) :: tr) p'
          (.ofCoroutine (AgentCode.lift (f y))) := by
      rintro y rfl
      refine taskHeld_ofCoroutine (hnext y _ ⟨rfl,?_⟩) ?_
      · exact gives_answer hb hu hrows htask hexec
      · exact secured_answer hb hu htask hexec hallowed hs hw
    cases x with
    | ok a => exact hgoes (.ok a) rfl
    | error e =>
      cases e with
      | agent e => exact hgoes (.error e) rfl
      | raised e => trivial
      | cancelled => trivial

theorem ImagesKept.step (h : ImagesKept tr p) (hf : Pipeline.Formed p) (hu : Undisturbed p e)
    (hm : imageActivities.Moves p e p') : ImagesKept ((p,e) :: tr) p' := by
  cases hm with
  | @start k args fresh =>
    refine ⟨fun k' bugId batch hb => ?_,h.rows⟩
    by_cases hk : k' = k
    · subst hk
      rw [hf.absent (by simp [fresh]) bugId]
      trivial
    · have hold : IsBatch p k' batch := by
        obtain ⟨unionId,items,hc⟩ := hb
        exact ⟨unionId,items,(Function.update_of_ne hk _ _).symm.trans hc⟩
      exact (h.held k' bugId batch hold).next fun _ _ _ hi => hi
  | @select k args call =>
    refine ⟨fun k' bugId batch hb => ?_,h.rows⟩
    by_cases hk : k' = k
    · subst hk
      have habsent : p.task (k',bugId) = .absent := hf.absent (by simp [call]) bugId
      by_cases hi : bugId ∈ imageActivities.select args p.shared
      · simp [Pool.spawn,hi,TaskHeld]
      · simp [Pool.spawn,hi,habsent,TaskHeld]
    · have hold : IsBatch p k' batch := by
        obtain ⟨unionId,items,hc⟩ := hb
        exact ⟨unionId,items,(Function.update_of_ne hk _ _).symm.trans hc⟩
      have hsame : (p.spawn k args (imageActivities.select args p.shared)).task (k',bugId) =
          p.task (k',bugId) := by simp [Pool.spawn,hk]
      rw [hsame]
      exact (h.held k' bugId batch hold).next fun _ _ _ hi => hi
  | @enter k bugId args items call queued permit =>
    refine ⟨fun k' bugId' batch hb => ?_,h.rows⟩
    have hold : IsBatch p k' batch := hb
    by_cases hki : (k',bugId') = (k,bugId)
    · cases hki
      obtain ⟨unionId,items,hc⟩ := hold
      obtain rfl : args = .agentPatches batch unionId := by
        cases call.symm.trans hc
        rfl
      simp only [Pool.setTask,Function.update_self]
      exact taskHeld_ofCoroutine (follows_processBugInstances unionId) trivial
    · simp only [Pool.setTask,Function.update_of_ne hki]
      exact (h.held k' bugId' batch hold).next fun _ _ _ hi => hi
  | @resume k bugId reply call r c w' x called active exec =>
    have hbugs := (images_of_exec exec).1
    refine ⟨fun k' bugId' batch hb => ?_,fun row hrow => h.rows row (hbugs ▸ hrow)⟩
    have hold : IsBatch p k' batch := hb
    by_cases hki : (k',bugId') = (k,bugId)
    · cases hki
      simp only [Pool.setTask,Function.update_self]
      exact (h.held k bugId batch hold).resumed hold hu h.rows active exec rfl
    · simp only [Pool.setTask,Function.update_of_ne hki]
      exact (h.held k' bugId' batch hold).unresumed hki hold hu active exec rfl
  | @cancel k bugId args items call cancels failed live => cases cancels
  | @other c s happens =>
    obtain rfl := Option.some.inj happens
    refine ⟨fun k' bugId' batch hb => ?_,rows_crawlInsert h.rows c⟩
    exact (h.held k' bugId' batch hb).next fun _ _ _ hi => hi

/-- What is awaited is allowed in a phase that is secured. -/
lemma TaskHeld.allowed {r : AgentRequest} (h : TaskHeld batch k bugId tr p (p.task (k,bugId)))
    (ha : Awaits p k bugId (.agent r)) :
    ∃ t, allowedIn batch bugId t r ∧ Secured batch k bugId tr p t := by
  obtain ⟨c,htask⟩ := ha
  rw [htask] at h
  obtain ⟨code,t,hc,hf,hs⟩ := h
  cases code with
  | done a => cases hc
  | raise e => cases hc
  | await r₀ f =>
    rw [AgentCode.lift] at hc
    cases hc
    exact ⟨t,hf.1,hs⟩

/-- A request that starts a container or goes by a base commit is made while the images are held. -/
lemma holding_of_allowed {r : AgentRequest} {t : ImagePhase} (h : allowedIn batch bugId t r)
    (hr : r.container? ≠ none ∨ r.baseCommit? ≠ none) :
    t = .holding ∧ r.MadeHolding batch bugId := by
  have hplain : r.container? = none → r.baseCommit? = none → False := by
    intro hc hb
    obtain hne | hne := hr
    · exact hne hc
    · exact hne hb
  cases t with
  | starting =>
    obtain rfl : r = _ := h
    exact (hplain rfl rfl).elim
  | missing => exact (hplain h.1 h.2.1).elim
  | kenvThere => exact (hplain h.1 h.2.1).elim
  | holding => exact ⟨rfl,h⟩
  | cleaned =>
    obtain rfl : r = _ := h
    exact (hplain rfl rfl).elim

theorem ImagesKept.imageThere (h : ImagesKept tr p) : ImageThere tr p where
  kept k bugId batch r q reply before hb ha htr b c hc := by
    obtain ⟨t,hallowed,hs⟩ := (h.held k bugId batch hb).allowed ha
    obtain ⟨rfl,hmade⟩ := holding_of_allowed hallowed (.inl (by simp [hc]))
    obtain ⟨rfl,rfl⟩ := hmade.container b c hc
    exact hs
  agree k bugId batch r hb ha c hc := by
    obtain ⟨t,hallowed,hs⟩ := (h.held k bugId batch hb).allowed ha
    obtain ⟨rfl,hmade⟩ := holding_of_allowed hallowed (.inr (by simp [hc]))
    exact hmade.baseCommit c hc

theorem imagesKept_of_run (h : (imageActivities.machine ImageWorld.Initial).Run Undisturbed tr p) :
    ImagesKept tr p := by
  induction h with
  | start hi =>
    obtain ⟨w,⟨cs,hw⟩,rfl⟩ := hi
    refine ⟨fun k bugId batch hb => ?_,?_⟩
    · trivial
    · change ∀ row ∈ w.bugs.rows, _
      rw [hw]
      exact rows_crawled cs
  | next hr hu ht ih =>
    exact ih.step (Pipeline.formed_of_reachable ⟨_,hr⟩) hu (Pipeline.moves_of_step _ ht)

/-- In every order of steps that leaves the images in use and the bugs' statuses alone, the images
of every run are there. -/
theorem imageThere_of_run
    (h : (imageActivities.machine ImageWorld.Initial).Run Undisturbed tr p) : ImageThere tr p :=
  (imagesKept_of_run h).imageThere

end Held

/-! ## A bug that is fixed while its batch runs -/

/-- A batch of one open bug, one run. -/
def oneOpenBug : AgentPatchProcess where
  dockerPrefix := "live-kbench"
  preserveKenvBase := false
  agentConfigId := 1
  agent := "mini-swe-agent"
  statefulEdit := false
  bugType := .open
  bugRuns := AgentPatchProcess.runsOf [.inl "b1"] 1
  semaphore := 16

def imagesOfOpenBug : ImageWorld where
  images := [oneOpenBug.agentImage "b1" .crashCommit,oneOpenBug.kenvImage "b1" .crashCommit]
  bugs := crawled [crawlOf openBug]

def reproducedKcache : KCache where
  kCacheId := 1
  bugId := "b1"
  baseCommit := .parentCommit
  addedTime := KArenaWeb.midJanuary
  kGymJobId := "00000001"
  status := .success
  systemMessage := ""
  storageKey := none
  storageUri := none
  kGymEvaluation := some .reproduced
  kGymEvaluationResult := none
  crashReport := none

/-- Docker does what it is asked, and the database answers. -/
def goesWell : ImageReply where
  answers
    | .agent (.docker _) => .ok ⟨0,"",""⟩
    | .agent (.getBug bugId _) => getBug imagesOfOpenBug.bugs bugId
    | .agent (.getLatestKcache _ _ _) => .ok reproducedKcache
    | .agent _ => .error (.agent (.other "OSError" ""))
    | .eval _ => .error (.raised (.exception "OSError" ""))
  effect := true
  removed := []

/-- The batch finds its images, and then asks for the bug and for its kCache. -/
def batchRuns (between : List ImageEvent) : List ImageEvent :=
  [.start 0 (.agentPatches oneOpenBug 1),.select 0,.enter 0 "b1",.resume 0 "b1" goesWell] ++
    between ++ [.resume 0 "b1" goesWell,.resume 0 "b1" goesWell]

/-- The container of the agent that the batch starts. -/
def startedContainer (p : ImagePool) : Option (String × BaseCommit) :=
  match p.task (0,"b1") with
  | .active (.await (.agent r) _) => r.container?
  | _ => none

lemma awaits_of_startedContainer {p : ImagePool} {b : String} {c : BaseCommit}
    (h : startedContainer p = some (b,c)) :
    ∃ r, Awaits p 0 "b1" (.agent r) ∧ r.container? = some (b,c) := by
  unfold startedContainer at h
  split at h
  · rename_i r k htask
    exact ⟨r,⟨k,htask⟩,h⟩
  · cases h

/-- What is removed is no image of a batch among the first two calls. -/
def spares (p : ImagePool) (k : ℕ) (bugId : String) (removed : List String) : Bool :=
  (List.range 2).all fun k' =>
    match p.calls k' with
    | some ⟨.agentPatches batch _,some items⟩ => items.all fun b => (k',b) = (k,bugId) ||
      !(batch.agentImage b batch.baseCommit ∈ removed || batch.kenvImage b batch.baseCommit ∈ removed)
    | _ => true

/-- The steps of two calls that remove no image of a batch, find both images or none and get a bug
of the batch's status. -/
def calm (p : ImagePool) : ImageEvent → Bool
  | .start k _ => k < 2
  | .resume k bugId reply =>
    match p.task (k,bugId),p.calls k with
    | .active (.await (.agent (.docker (.rmi _))) _),_ => spares p k bugId reply.removed
    | .active (.await (.agent (.docker (.inspect _))) _),some ⟨.agentPatches batch _,_⟩ =>
      batch.kenvImage bugId batch.baseCommit ∈ p.shared.images
    | .active (.await (.agent (.getBug _ _)) _),some ⟨.agentPatches batch _,_⟩ =>
      (p.shared.bugs.get? bugId).all fun row => row.status = batch.bugType
    | _,_ => true
  | _ => true

lemma undisturbed_of_calm {p : ImagePool} {e : ImageEvent}
    (hp : (imageActivities.machine ImageWorld.Initial).ReachableBy (fun p e => calm p e = true) p)
    (h : calm p e = true) : Undisturbed p e where
  removal k bugId reply targets he ha heffect image htarget hremoved k' bugId' batch hne hb hactive := by
    subst he
    obtain ⟨c,htask⟩ := ha
    obtain ⟨unionId,items,hcall⟩ := hb
    have hspares : spares p k bugId reply.removed = true := by simpa [calm,htask] using h
    have hpresent : p.task (k',bugId') ≠ .absent := by
      intro habsent
      simp [habsent,Task.isActive] at hactive
    have hk : k' < 2 := by
      by_contra hk
      exact hpresent (Pipeline.absent_of_unstarted hp
        (fun p k args hc => of_decide_eq_true hc) (not_lt.mp hk) bugId')
    obtain ⟨args,items',hcall',hmem⟩ := (Pipeline.formed_of_reachable hp k' bugId').mp hpresent
    rw [hcall] at hcall'
    cases hcall'
    have hb := List.all_eq_true.mp hspares k' (List.mem_range.mpr hk)
    simp only [hcall,List.all_eq_true] at hb
    have hthis := hb bugId' hmem
    simp only [hne,decide_false,Bool.false_or,Bool.not_eq_true',Bool.or_eq_false_iff,
      decide_eq_false_iff_not] at hthis
    exact ⟨fun heq => hthis.1 (heq ▸ hremoved),fun heq => hthis.2 (heq ▸ hremoved)⟩
  status k bugId reply batch attempt he hb ha := by
    subst he
    obtain ⟨c,htask⟩ := ha
    obtain ⟨unionId,items,hcall⟩ := hb
    intro row hrow
    have hrow : p.shared.bugs.get? bugId = some row := hrow
    simpa [calm,htask,hcall,hrow] using h
  kenv k bugId reply batch he hb ha := by
    subst he
    obtain ⟨c,htask⟩ := ha
    obtain ⟨unionId,items,hcall⟩ := hb
    intro _
    simpa [calm,htask,hcall] using h

def fixedBug : KClient.SyzbotData :=
  { renamedBug with bugId := "b2", patch := some "diff --git a/kernel/pid.c" }

/-- The image in which the developer's patch is analyzed. -/
def parentImage : String := oneOpenBug.kenvImage "b2" .parentCommit

/-- The analysis of the developer's patch comes to nothing, and its image is removed. -/
def populates : ImageReply where
  answers
    | .eval (.getBug _) => .ok ((crawlOf fixedBug).syzbotBug.map fun bug => ⟨bug,none⟩)
    | .eval (.runAgent _ _) => .ok none
    | r => goesWell.answers r
  effect := true
  removed := [parentImage]

/-- A batch and a population of developer patches take turns, and a crawl comes in between. -/
def besidesPopulation : List ImageEvent :=
  [.start 0 (.agentPatches oneOpenBug 1),.start 1 (.developerPatches "live-kbench" false ["b2"]),
    .select 0,.select 1,.enter 1 "b2",.resume 1 "b2" populates,.enter 0 "b1",
    .resume 0 "b1" goesWell,.resume 1 "b2" populates,.other (crawlOf openBug),
    .resume 0 "b1" goesWell,.resume 1 "b2" populates,.resume 1 "b2" populates,
    .resume 0 "b1" goesWell]

/-- The population has removed its image, and the batch starts its container in one that is there. -/
theorem besidesPopulation_imageThere : ∃ tr p,
    (imageActivities.machine ImageWorld.Initial).Run Undisturbed tr p ∧
      startedContainer p = some ("b1",.crashCommit) ∧ parentImage ∉ p.shared.images ∧
      ImageThere tr p := by
  obtain ⟨tr,p,hr,hp⟩ := Machine.exists_run_of_replay
    (imageActivities.machine ImageWorld.Initial) (fun p e => calm p e = true) besidesPopulation
    (fun _ p => startedContainer p = some ("b1",.crashCommit) && parentImage ∉ p.shared.images)
    (s := .idle { imagesOfOpenBug with
      images := parentImage :: imagesOfOpenBug.images
      bugs := crawled [crawlOf openBug,crawlOf fixedBug] }) ⟨_,⟨_,rfl⟩,rfl⟩ (by decide +kernel)
  simp only [Bool.and_eq_true,decide_eq_true_eq] at hp
  have hrun := hr.mono_of_reachable fun _ _ => undisturbed_of_calm
  exact ⟨tr,p,hrun,hp.1,hp.2,imageThere_of_run hrun⟩

/-- The first call is a batch of open bugs. -/
def openBatch (p : ImagePool) : Bool :=
  match p.calls 0 with
  | some ⟨.agentPatches batch _,_⟩ => batch.bugType = .open
  | _ => false

lemma isBatch_of_openBatch {p : ImagePool} (h : openBatch p = true) :
    ∃ batch, IsBatch p 0 batch ∧ batch.baseCommit = .crashCommit := by
  unfold openBatch at h
  split at h
  · rename_i batch unionId items hcall
    refine ⟨batch,⟨unionId,items,hcall⟩,?_⟩
    rw [baseCommit_eq,of_decide_eq_true h]
    rfl
  · cases h

/-- A container runs at the base commit that its request goes by. -/
lemma baseCommit_of_container {r : AgentRequest} {b : String} {c : BaseCommit}
    (h : r.container? = some (b,c)) : r.baseCommit? = some c := by
  cases r with
  | runAgent run attempt =>
    cases h
    rfl
  | analyze analyzer attempt =>
    cases h
    rfl
  | _ => cases h

/-- A crawl finds the bug fixed: the agent starts in an image that the batch has not made. -/
theorem fixedMeanwhile_not_imageThere : ¬∀ tr p,
    (imageActivities.machine ImageWorld.Initial).Run (fun _ _ => True) tr p → ImageThere tr p := by
  intro hall
  obtain ⟨tr,p,hr,hp⟩ := Machine.exists_run_of_replay
    (imageActivities.machine ImageWorld.Initial) (fun _ _ => True)
    (batchRuns [.other (crawlOf renamedBug)])
    (fun _ p => startedContainer p = some ("b1",.parentCommit) ∧ openBatch p = true)
    ⟨imagesOfOpenBug,⟨_,rfl⟩,rfl⟩ (by decide +kernel)
  obtain ⟨hstarted,hopen⟩ := of_decide_eq_true hp
  obtain ⟨r,ha,hcontainer⟩ := awaits_of_startedContainer hstarted
  obtain ⟨batch,hbatch,hcommit⟩ := isBatch_of_openBatch hopen
  have hsame := (hall tr p hr).agree 0 "b1" batch r hbatch ha _ (baseCommit_of_container hcontainer)
  rw [hcommit] at hsame
  cases hsame

end LiveKBench.KArenaPipeline
