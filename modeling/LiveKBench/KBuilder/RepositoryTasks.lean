import LiveKBench.KBuilder.RepositoryManager

/-! What a task does to the directory of the clones, request by request: it reads the list before
anything else, it removes and clones only what the list does not name, and it writes the list only
with the clone that it has just made. -/
namespace LiveKBench.KBuilder.Repositories
open KClient (osPathJoin)
open Lib Lib.Pipeline

/-- How far a task has come: the list that it has read or written, and what it has done since. -/
inductive Stage
  | waiting
  | begun
  | missing
  | truncated (repos : Repos)
  | listed (repos : Repos)
  | cloning (repos : Repos)
  | cloned (repos : Repos)
  | over

structure Phase where
  gitUrl : String
  stage : Stage

/-- The requests after which a task is where it was. -/
def quiet : Request → Bool
  | .reportJobLog _ => true
  | .cloneExists _ => true
  | .rmtree _ => true
  | .rmtreeEnd _ => true
  | .fetch _ => true
  | .lastUpdated _ => true
  | .now => true
  | .setLastUpdated _ _ => true
  | _ => false

section Protocol
variable (digest : String → String) (repoDir : String)

/-- The clone of a repository that is not listed. -/
def Unlisted (gitUrl : String) (stage : Stage) (url localName : String) : Prop :=
  ∃ repos, stage = .listed repos ∧ canonicalizeGitUrl gitUrl = .ok url ∧
    repos.value? url = none ∧ localName = digest url

/-- The clone that git makes. -/
def Cloning (gitUrl : String) (stage : Stage) (url localName : String) : Prop :=
  ∃ repos, stage = .cloning repos ∧ canonicalizeGitUrl gitUrl = .ok url ∧
    repos.value? url = none ∧ localName = digest url

def allowed (t : Phase) : Request → Prop
  | .begin => t.stage = .waiting
  | .listingExists => t.stage = .begun
  | .readListing => t.stage = .begun
  | .truncateListing => t.stage = .missing ∨
      ∃ repos url, t.stage = .cloned repos ∧ canonicalizeGitUrl t.gitUrl = .ok url
  | .writeListing repos => t.stage = .truncated repos
  | .rmtree localName => ∃ url, Unlisted digest t.gitUrl t.stage url localName
  | .rmtreeEnd localName => ∃ url, Unlisted digest t.gitUrl t.stage url localName
  | .clone url localName => Unlisted digest t.gitUrl t.stage url localName
  | .cloneEnd url localName => Cloning digest t.gitUrl t.stage url localName
  | .obtained gitUrl path => gitUrl = t.gitUrl ∧ ∃ repos url localName, t.stage = .listed repos ∧
      canonicalizeGitUrl gitUrl = .ok url ∧ repos.value? url = some localName ∧
      path = osPathJoin repoDir localName
  | _ => True

inductive Leads (gitUrl : String) : Stage → (r : Request) → Except TaskError r.Answer → Stage → Prop
  | raised {stage r e} : Leads gitUrl stage r (.error e) .over
  | quiet {stage r a} (h : quiet r = true) : Leads gitUrl stage r (.ok a) stage
  | begin : Leads gitUrl .waiting .begin (.ok ()) .begun
  | found : Leads gitUrl .begun .listingExists (.ok true) .begun
  | absent : Leads gitUrl .begun .listingExists (.ok false) .missing
  | read {repos} : Leads gitUrl .begun .readListing (.ok repos) (.listed repos)
  | truncateFirst : Leads gitUrl .missing .truncateListing (.ok ()) (.truncated .empty)
  | truncate {repos url} (h : canonicalizeGitUrl gitUrl = .ok url) :
      Leads gitUrl (.cloned repos) .truncateListing (.ok ()) (.truncated (repos.set url (digest url)))
  | write {repos} : Leads gitUrl (.truncated repos) (.writeListing repos) (.ok ()) (.listed repos)
  | cloning {repos url localName} :
      Leads gitUrl (.listed repos) (.clone url localName) (.ok ()) (.cloning repos)
  | cloned {repos url localName} :
      Leads gitUrl (.cloning repos) (.cloneEnd url localName) (.ok true) (.cloned repos)
  | uncloned {stage url localName} :
      Leads gitUrl stage (.cloneEnd url localName) (.ok false) stage
  | obtained {stage url path} : Leads gitUrl stage (.obtained url path) (.ok ()) .over
  | finish {stage} : Leads gitUrl stage .finish (.ok ()) .over

def protocol : Protocol Request Request.Answer TaskError Phase where
  allowed := allowed digest repoDir
  leads t r x t' := t'.gitUrl = t.gitUrl ∧ Leads digest t.gitUrl t.stage r x t'.stage

end Protocol

def Anyhow (_ : Phase) (_ : Except TaskError Unit) : Prop := True

def firstPhase (job : Job) (_ : Unit) : Phase := ⟨job.gitUrl,.waiting⟩

/-! ## What a task does -/

section Works
variable {digest : String → String} {repoDir gitUrl url localName : String} {stage : Stage}
  {repos : Repos}

lemma ask_follows {r : Request} {Q : Phase → Except TaskError r.Answer → Prop}
    (hallowed : allowed digest repoDir ⟨gitUrl,stage⟩ r)
    (h : ∀ x stage', Leads digest gitUrl stage r x stage' → Q ⟨gitUrl,stage'⟩ x) :
    (ask r).Follows (protocol digest repoDir) Q ⟨gitUrl,stage⟩ := by
  refine Coroutine.follows_request.mpr ⟨hallowed,?_⟩
  rintro x ⟨gitUrl',stage'⟩ ⟨hurl,hx⟩
  obtain rfl : gitUrl' = gitUrl := hurl
  exact h x stage' hx

lemma quiet_follows {r : Request} {Q : Phase → Except TaskError r.Answer → Prop}
    (hr : quiet r = true) (hallowed : allowed digest repoDir ⟨gitUrl,stage⟩ r)
    (hok : ∀ a, Q ⟨gitUrl,stage⟩ (.ok a)) (herror : ∀ t e, Q t (.error e)) :
    (ask r).Follows (protocol digest repoDir) Q ⟨gitUrl,stage⟩ := by
  refine ask_follows hallowed fun x stage' hx => ?_
  cases hx with
  | raised => exact herror _ _
  | quiet h => exact hok _
  | _ => cases hr

/-- Both halves of a write. -/
lemma saveLocalRepositoryList_follows {Q : Phase → Except TaskError Unit → Prop}
    (hallowed : allowed digest repoDir ⟨gitUrl,stage⟩ .truncateListing)
    (htruncated : ∀ stage', Leads digest gitUrl stage .truncateListing (.ok ()) stage' →
      stage' = .truncated repos)
    (hok : Q ⟨gitUrl,.listed repos⟩ (.ok ())) (herror : ∀ t e, Q t (.error e)) :
    (saveLocalRepositoryList repos).Follows (protocol digest repoDir) Q ⟨gitUrl,stage⟩ := by
  refine Coroutine.follows_bind.mpr (ask_follows hallowed fun x stage' hx => ?_)
  cases x with
  | error e => exact herror _ _
  | ok a =>
    obtain rfl := htruncated stage' hx
    refine ask_follows rfl fun x stage' hx => ?_
    cases hx with
    | raised => exact herror _ _
    | quiet h => cases h
    | write => exact hok

lemma loadLocalRepositoryList_follows {Q : Phase → Except TaskError Repos → Prop}
    (hok : ∀ repos, Q ⟨gitUrl,.listed repos⟩ (.ok repos)) (herror : ∀ t e, Q t (.error e)) :
    loadLocalRepositoryList.Follows (protocol digest repoDir) Q ⟨gitUrl,.begun⟩ := by
  refine Coroutine.follows_bind.mpr (ask_follows rfl fun x stage' hx => ?_)
  cases hx with
  | raised => exact herror _ _
  | quiet h => cases h
  | found =>
    refine ask_follows rfl fun x stage' hx => ?_
    cases hx with
    | raised => exact herror _ _
    | quiet h => cases h
    | read => exact hok _
  | absent =>
    refine Coroutine.follows_bind.mpr
      (saveLocalRepositoryList_follows (.inl rfl) (fun stage' hx => ?_) (hok _) herror)
    cases hx with
    | quiet h => cases h
    | truncateFirst => rfl

lemma removeClone_follows {Q : Phase → Except TaskError Unit → Prop}
    (hnew : Unlisted digest gitUrl stage url localName) (hok : Q ⟨gitUrl,stage⟩ (.ok ()))
    (herror : ∀ t e, Q t (.error e)) :
    (removeClone localName).Follows (protocol digest repoDir) Q ⟨gitUrl,stage⟩ := by
  refine Coroutine.follows_bind.mpr (quiet_follows rfl trivial (fun found => ?_) herror)
  cases found with
  | false => exact hok
  | true =>
    refine Coroutine.follows_bind.mpr (quiet_follows rfl ⟨url,hnew⟩ (fun _ => ?_) herror)
    exact quiet_follows rfl ⟨url,hnew⟩ (fun _ => hok) herror

lemma cloneBareRepository_follows {Q : Phase → Except TaskError String → Prop}
    (hurl : canonicalizeGitUrl gitUrl = .ok url) (hnone : repos.value? url = none)
    (hok : Q ⟨gitUrl,.listed (repos.set url (digest url))⟩ (.ok (digest url)))
    (herror : ∀ t e, Q t (.error e)) :
    (cloneBareRepository digest repos url).Follows (protocol digest repoDir) Q
      ⟨gitUrl,.listed repos⟩ := by
  have hnew : Unlisted digest gitUrl (.listed repos) url (digest url) :=
    ⟨repos,rfl,hurl,hnone,rfl⟩
  refine Coroutine.follows_bind.mpr (quiet_follows rfl trivial (fun _ => ?_) herror)
  refine Coroutine.follows_bind.mpr (removeClone_follows hnew ?_ herror)
  refine Coroutine.follows_bind.mpr (ask_follows hnew fun x stage' hx => ?_)
  cases hx with
  | raised => exact herror _ _
  | quiet h => cases h
  | cloning =>
    have hcloning : Cloning digest gitUrl (.cloning repos) url (digest url) :=
      ⟨repos,rfl,hurl,hnone,rfl⟩
    refine Coroutine.follows_bind.mpr (ask_follows hcloning fun x stage' hx => ?_)
    cases hx with
    | raised => exact herror _ _
    | quiet h => cases h
    | uncloned => exact herror _ _
    | cloned =>
      refine Coroutine.follows_bind.mpr (saveLocalRepositoryList_follows
        (.inr ⟨repos,url,rfl,hurl⟩) (fun stage' hx => ?_) hok herror)
      cases hx with
      | quiet h => cases h
      | truncate h =>
        obtain rfl := Except.ok.inj (hurl.symm.trans h)
        rfl

lemma refresh_follows {Q : Phase → Except TaskError Unit → Prop}
    (hok : Q ⟨gitUrl,stage⟩ (.ok ())) (herror : ∀ t e, Q t (.error e)) :
    (refresh localName).Follows (protocol digest repoDir) Q ⟨gitUrl,stage⟩ := by
  refine Coroutine.follows_bind.mpr (quiet_follows rfl trivial (fun updated => ?_) herror)
  refine Coroutine.follows_bind.mpr (quiet_follows rfl trivial (fun now => ?_) herror)
  cases hold : dayOld now updated with
  | false => simpa [hold] using hok
  | true =>
    rw [Coroutine.after_ok,if_pos hold]
    refine Coroutine.follows_bind.mpr (quiet_follows rfl trivial (fun _ => ?_) herror)
    have hfetch : ∀ {R : Phase → Except TaskError Unit → Prop}, R ⟨gitUrl,stage⟩ (.ok ()) →
        (∀ t e, R t (.error e)) →
        (updateLocalRepository localName).Follows (protocol digest repoDir) R ⟨gitUrl,stage⟩ := by
      intro R hR herror
      refine Coroutine.follows_bind.mpr (quiet_follows rfl trivial (fun succeeded => ?_) herror)
      cases succeeded with
      | true => exact hR
      | false => exact herror _ _
    refine Coroutine.follows_bind.mpr (hfetch ?_ herror)
    refine Coroutine.follows_bind.mpr (quiet_follows rfl trivial (fun _ => ?_) herror)
    exact quiet_follows rfl trivial (fun _ => hok) herror

/-- The path is that of a clone which is listed. -/
lemma getRepository_follows {Q : Phase → Except TaskError String → Prop}
    (hok : ∀ repos url localName, canonicalizeGitUrl gitUrl = .ok url →
      repos.value? url = some localName →
      Q ⟨gitUrl,.listed repos⟩ (.ok (osPathJoin repoDir localName)))
    (herror : ∀ t e, Q t (.error e)) :
    (getRepository digest repoDir gitUrl).Follows (protocol digest repoDir) Q ⟨gitUrl,.begun⟩ := by
  unfold getRepository
  cases hurl : canonicalizeGitUrl gitUrl with
  | error e => exact herror _ _
  | ok url =>
    refine Coroutine.follows_bind.mpr (Coroutine.follows_bind.mpr
      (loadLocalRepositoryList_follows (fun repos => ?_) herror))
    have hlog : ∀ {R : Phase → Except TaskError String → Prop} repos localName,
        R ⟨gitUrl,.listed repos⟩ (.ok (osPathJoin repoDir localName)) →
        (∀ t e, R t (.error e)) → Coroutine.After (protocol digest repoDir) R
          (fun localName => do
            ask (.reportJobLog s!"Use cached bare repository \"{localName}\"")
            return osPathJoin repoDir localName) ⟨gitUrl,.listed repos⟩ (.ok localName) := by
      intro R repos localName hR herror
      exact Coroutine.follows_bind.mpr (quiet_follows rfl trivial (fun _ => hR) herror)
    refine Coroutine.follows_bind.mpr ?_
    unfold cachedRepository
    cases hvalue : repos.value? url with
    | none =>
      refine cloneBareRepository_follows hurl hvalue (hlog _ _ ?_ herror) herror
      exact hok _ url _ hurl (by simp)
    | some localName =>
      exact Coroutine.follows_bind.mpr
        (refresh_follows (hlog _ _ (hok _ url _ hurl hvalue) herror) herror)

theorem work_follows (job : Job) : (work digest repoDir job.gitUrl).Follows
    (protocol digest repoDir) Anyhow (firstPhase job ()) := by
  have hfinish : ∀ t, (ask .finish).Follows (protocol digest repoDir) Anyhow t :=
    fun t => Coroutine.follows_request.mpr ⟨trivial,fun _ _ _ => trivial⟩
  refine Coroutine.follows_bind.mpr (ask_follows rfl fun x stage' hx => ?_)
  cases hx with
  | raised => trivial
  | quiet h => cases h
  | begin =>
    refine Coroutine.follows_bind.mpr (Coroutine.follows_tryCatch.mpr ?_)
    refine Coroutine.follows_bind.mpr (getRepository_follows ?_ fun t e => hfinish t)
    intro repos url localName hurl hvalue
    refine ask_follows ⟨rfl,repos,url,localName,rfl,hurl,hvalue,rfl⟩ fun x stage' hx => ?_
    cases x <;> exact hfinish _

end Works

/-! ## What a request does to the directory -/

section Answers
variable {digest : String → String} {repoDir : String} {t : Phase} {s s' : State} {process k : ℕ}
  {r : Request} {input : Input} {x : Except TaskError r.Answer}

lemma Listing.exists_eq_false {listing : Listing} : listing.exists = false ↔ listing = .absent := by
  cases listing <;> simp [Listing.exists]

lemma Listing.read_eq_ok {listing : Listing} {repos : Repos} :
    listing.read = .ok repos ↔ listing = .written repos := by
  cases listing <;> simp [Listing.read]

def Listing.isEmpty : Listing → Bool
  | .empty => true
  | _ => false

lemma Listing.isEmpty_iff {listing : Listing} : listing.isEmpty = true ↔ listing = .empty := by
  cases listing <;> simp [Listing.isEmpty]

/-- A request that raises leaves what the task awaited, and changes nothing else. -/
lemma eq_of_answer_error {e : TaskError} (h : answer process r s input = some (s',.error e)) :
    s' = s.abandon process ∨ s' = s := by
  unfold answer at h
  split at h <;> try split at h
  all_goals
    first
    | exact .inl (Prod.mk.inj (Option.some.inj h)).1.symm
    | exact .inr (Prod.mk.inj (Option.some.inj h)).1.symm
    | cases h

lemma leads_of_answer (hr : allowed digest repoDir t r)
    (h : answer process r s input = some (s',x)) :
    ∃ stage, Leads digest t.gitUrl t.stage r x stage := by
  cases x with
  | error e => exact ⟨_,.raised⟩
  | ok a =>
    obtain ⟨gitUrl,stage⟩ := t
    cases r with
    | begin => cases h
    | finish => exact ⟨_,.finish⟩
    | obtained url path => exact ⟨_,.obtained⟩
    | listingExists =>
      obtain rfl : stage = .begun := hr
      cases a with
      | true => exact ⟨_,.found⟩
      | false => exact ⟨_,.absent⟩
    | readListing =>
      obtain rfl : stage = .begun := hr
      exact ⟨_,.read⟩
    | truncateListing =>
      rcases hr with hr | ⟨repos,url,hr,hurl⟩
      · obtain rfl : stage = .missing := hr
        exact ⟨_,.truncateFirst⟩
      · obtain rfl : stage = .cloned repos := hr
        exact ⟨_,.truncate hurl⟩
    | writeListing repos =>
      obtain rfl : stage = .truncated repos := hr
      exact ⟨_,.write⟩
    | clone url localName =>
      obtain ⟨repos,rfl,-⟩ := hr
      exact ⟨_,.cloning⟩
    | cloneEnd url localName =>
      obtain ⟨repos,rfl,-⟩ := hr
      cases a with
      | true => exact ⟨_,.cloned⟩
      | false => exact ⟨_,.uncloned⟩
    | _ => exact ⟨_,.quiet rfl⟩

lemma running_setRunning_self (s : State) (process : ℕ) (k : Option ℕ) :
    (s.setRunning process k).running process = k := Function.update_self _ _ _

/-- A process that becomes free takes no task from another one. -/
lemma running_of_setRunning_none {n k' : ℕ}
    (h : (s.setRunning process none).running n = some k') : s.running n = some k' := by
  by_cases hn : n = process
  · subst hn
    exact absurd ((running_setRunning_self s n none).symm.trans h) (by simp)
  · exact (Function.update_of_ne hn _ _).symm.trans h

lemma running_startClone (s : State) (process : ℕ) (gitUrl localName : String) :
    (s.startClone process gitUrl localName).running = s.running := by
  unfold State.startClone
  split <;> rfl

lemma running_cases_of_answer (h : answer process r s input = some (s',x)) :
    s'.running = s.running ∨ s' = s.setRunning process none := by
  unfold answer at h
  split at h <;> try split at h
  all_goals
    first
    | (cases h; exact .inl rfl)
    | (cases h; exact .inl (running_startClone _ _ _ _))
    | (cases h; done)
    | exact .inl (congrArg State.running (Prod.mk.inj (Option.some.inj h)).1.symm)
    | exact .inr (Prod.mk.inj (Option.some.inj h)).1.symm

lemma running_of_answer (h : answer process r s input = some (s',x)) {n k' : ℕ}
    (hrunning : s'.running n = some k') : s.running n = some k' := by
  rcases running_cases_of_answer h with hsame | rfl
  · exact hsame ▸ hrunning
  · exact running_of_setRunning_none hrunning

/-- The process that runs a task answers its requests. -/
lemma answer_of_exec (hr : r ≠ .begin) (h : exec process k r s input = some (s',x)) :
    s.running process = some k ∧ answer process r s input = some (s',x) := by
  unfold exec at h
  split at h
  · exact absurd rfl hr
  · exact Option.ite_none_right_eq_some.mp h

lemma none_of_none {α : Type} {a b : Option α} (h : ∀ x, a = some x → b = some x) (hb : b = none) :
    a = none := by
  cases a with
  | none => rfl
  | some x => exact absurd (hb.symm.trans (h x rfl)) (by simp)

/-- No task goes on, and the list stays, when a process is killed or an orphan goes on. -/
lemma same_of_happen {e : Outside} (h : happen e s = some s') : s'.listing = s.listing ∧
    s'.obtained = s.obtained ∧ ∀ n k, s'.running n = some k → s.running n = some k := by
  cases e with
  | crash process =>
    obtain rfl := Option.some.inj h
    exact ⟨rfl,rfl,fun n k hk => running_of_setRunning_none hk⟩
  | orphan n progress =>
    obtain ⟨o,-,rfl⟩ := Option.map_eq_some_iff.mp h
    exact ⟨rfl,rfl,fun n k hk => hk⟩

end Answers

end LiveKBench.KBuilder.Repositories
