import LiveKBench.KBuilder.RepositoryClones
import LiveKBench.Lib.Refinement

/-! A builder that is killed between the two halves of a write leaves an empty list, which no later
task can read: from then on no job obtains a repository, by whichever builder. -/
namespace LiveKBench.KBuilder.Repositories
open Lib Lib.Pipeline

section Torn
variable {digest : String → String} {repoDir : String} {s s' : State}
  {calls : ℕ → Option (Call Job Unit)} {g : ℕ × Unit → Option Phase}

/-- The tasks of the processes have not read the list. -/
def Stage.Early (stage : Stage) : Prop := stage = .waiting ∨ stage = .begun ∨ stage = .over

/-- The list is empty, and only tasks that have not read it yet go on. -/
structure Torn (obtained : List (String × String)) (s : State)
    (calls : ℕ → Option (Call Job Unit)) (g : ℕ × Unit → Option Phase) : Prop where
  listing : s.listing = .empty
  obtained : s.obtained = obtained
  early : ∀ k t call, g (k,()) = some t → calls k = some call →
    s.running call.args.process = some k → t.stage.Early

variable {obtained : List (String × String)}

lemma Stage.not_early_listed (repos : Repos) : ¬(Stage.listed repos).Early := by simp [Early]

lemma not_unlisted_of_early {gitUrl url localName : String} {stage : Stage} (hearly : stage.Early) :
    ¬Unlisted digest gitUrl stage url localName := by
  rintro ⟨repos,rfl,-⟩
  exact Stage.not_early_listed repos hearly

lemma not_cloning_of_early {gitUrl url localName : String} {stage : Stage} (hearly : stage.Early) :
    ¬Cloning digest gitUrl stage url localName := by
  rintro ⟨repos,rfl,-⟩
  simp [Stage.Early] at hearly

/-- A task that has not read the list learns nothing from an empty one. -/
lemma torn_of_answer {process : ℕ} {gitUrl : String} {r : Request} {input : Input}
    {x : Except TaskError r.Answer} {stage stage' : Stage} (hearly : stage.Early)
    (hlisting : s.listing = .empty) (hr : allowed digest repoDir ⟨gitUrl,stage⟩ r)
    (hl : Leads digest gitUrl stage r x stage') (ha : answer process r s input = some (s',x)) :
    s'.listing = .empty ∧ s'.obtained = s.obtained ∧ stage'.Early := by
  cases hl with
  | raised =>
    obtain rfl | rfl := eq_of_answer_error ha
    · exact ⟨hlisting,rfl,.inr (.inr rfl)⟩
    · exact ⟨hlisting,rfl,.inr (.inr rfl)⟩
  | begin => cases ha
  | found =>
    cases input with
    | go =>
      obtain ⟨rfl,-⟩ := Prod.mk.inj (Option.some.inj ha)
      exact ⟨hlisting,rfl,hearly⟩
    | _ => cases ha
  | absent =>
    cases input with
    | go =>
      obtain ⟨rfl,hx⟩ := Prod.mk.inj (Option.some.inj ha)
      rw [hlisting] at hx
      cases hx
    | _ => cases ha
  | read =>
    cases input with
    | go =>
      obtain ⟨rfl,hx⟩ := Prod.mk.inj (Option.some.inj ha)
      rw [hlisting] at hx
      cases hx
    | _ => cases ha
  | truncateFirst => simp [Stage.Early] at hearly
  | truncate hurl => simp [Stage.Early] at hearly
  | write => simp [Stage.Early] at hearly
  | cloning => exact absurd hearly (Stage.not_early_listed _)
  | cloned => exact absurd hr (not_cloning_of_early hearly)
  | uncloned => exact absurd hr (not_cloning_of_early hearly)
  | obtained =>
    obtain ⟨-,repos,-,-,rfl,-⟩ := hr
    exact absurd hearly (Stage.not_early_listed repos)
  | finish =>
    cases input <;> cases ha
    exact ⟨hlisting,rfl,.inr (.inr rfl)⟩
  | quiet hquiet =>
    cases r with
    | rmtree localName =>
      obtain ⟨url,hnew⟩ := hr
      exact absurd hnew (not_unlisted_of_early hearly)
    | rmtreeEnd localName =>
      obtain ⟨url,hnew⟩ := hr
      exact absurd hnew (not_unlisted_of_early hearly)
    | reportJobLog message =>
      cases input <;> cases ha
      exact ⟨hlisting,rfl,hearly⟩
    | cloneExists localName =>
      cases input <;> cases ha
      exact ⟨hlisting,rfl,hearly⟩
    | fetch localName =>
      cases input <;> cases ha
      exact ⟨hlisting,rfl,hearly⟩
    | lastUpdated localName =>
      cases input <;> cases ha
      exact ⟨hlisting,rfl,hearly⟩
    | now =>
      cases input <;> cases ha
      exact ⟨hlisting,rfl,hearly⟩
    | setLastUpdated localName now =>
      cases input <;> cases ha
      exact ⟨hlisting,rfl,hearly⟩
    | _ => cases hquiet

theorem typed_of_runs : (builders digest repoDir).Upholds (protocol digest repoDir) Anyhow firstPhase
    (fun _ _ => True) fun _ _ _ => True where
  body job _ := work_follows job
  starts _ _ _ _ _ _ _ _ _ := trivial
  selects _ _ _ _ _ _ _ _ _ := trivial
  resumes := by
    rintro p g k ⟨⟩ input call r c s x t - - - - - hg hr hexec
    have hexec' : exec call.args.process k r p.shared input = some (s,x) := hexec
    by_cases hbegin : r = .begin
    · subst hbegin
      obtain ⟨-,hpair⟩ := Option.ite_none_right_eq_some.mp hexec'
      cases hpair
      have hwaiting : t.stage = .waiting := hr
      exact ⟨⟨t.gitUrl,.begun⟩,⟨rfl,hwaiting ▸ .begin⟩,trivial⟩
    · obtain ⟨-,hanswer⟩ := answer_of_exec hbegin hexec'
      obtain ⟨stage,hleads⟩ := leads_of_answer hr hanswer
      exact ⟨⟨t.gitUrl,stage⟩,⟨rfl,hleads⟩,trivial⟩
  cancels := by
    intro p g k i args items t _ hi _ _ hcancels
    cases hcancels
  others _ _ _ _ _ _ _ _ := trivial

theorem torn_upheld : (builders digest repoDir).Upholds (protocol digest repoDir) Anyhow firstPhase
    (fun _ _ => True) (Torn obtained) where
  body job _ := work_follows job
  starts := by
    intro p g k args _ hi _ _ hnone
    refine ⟨hi.listing,hi.obtained,?_⟩
    intro k' t call hg hcall
    have hk : k' ≠ k := by
      rintro rfl
      rw [hnone] at hg
      cases hg
    rw [Function.update_of_ne hk] at hcall
    exact hi.early k' t call hg hcall
  selects := by
    intro p g k args _ hi _ _ hnone
    refine ⟨hi.listing,hi.obtained,?_⟩
    intro k' t call hg hcall hrunning
    rcases spawned_cases hnone hg with ⟨-,-,rfl⟩ | ⟨hk,hg⟩
    · exact .inl rfl
    · rw [Function.update_of_ne hk] at hcall
      exact hi.early k' t call hg hcall hrunning
  resumes := by
    rintro p g k ⟨⟩ input call r c s x t - hi - hcall - hg hr hexec
    have hexec' : exec call.args.process k r p.shared input = some (s,x) := hexec
    by_cases hbegin : r = .begin
    · subst hbegin
      obtain ⟨-,hpair⟩ := Option.ite_none_right_eq_some.mp hexec'
      cases hpair
      have hwaiting : t.stage = .waiting := hr
      refine ⟨⟨t.gitUrl,.begun⟩,⟨rfl,hwaiting ▸ .begin⟩,hi.listing,hi.obtained,?_⟩
      intro k' t' call' hg' hcall' hrunning
      by_cases hk : k' = k
      · subst hk
        rw [Function.update_self] at hg'
        cases hg'
        exact .inr (.inl rfl)
      · rw [Function.update_of_ne (by simpa using hk)] at hg'
        refine hi.early k' t' call' hg' hcall' ?_
        by_cases hprocess : call'.args.process = call.args.process
        · rw [hprocess] at hrunning
          exact absurd (Option.some.inj ((running_setRunning_self _ _ _).symm.trans hrunning))
            (Ne.symm hk)
        · exact (Function.update_of_ne hprocess _ _).symm.trans hrunning
    · obtain ⟨hrunning,hanswer⟩ := answer_of_exec hbegin hexec'
      obtain ⟨stage,hleads⟩ := leads_of_answer hr hanswer
      obtain ⟨hlisting,hobtained,hearly⟩ :=
        torn_of_answer (hi.early k t call hg hcall hrunning) hi.listing hr hleads hanswer
      refine ⟨⟨t.gitUrl,stage⟩,⟨rfl,hleads⟩,hlisting,hobtained.trans hi.obtained,?_⟩
      intro k' t' call' hg' hcall' hrunning'
      by_cases hk : k' = k
      · subst hk
        rw [Function.update_self] at hg'
        cases hg'
        exact hearly
      · rw [Function.update_of_ne (by simpa using hk)] at hg'
        exact hi.early k' t' call' hg' hcall' (running_of_answer hanswer hrunning')
  cancels := by
    intro p g k i args items t _ hi _ _ hcancels
    cases hcancels
  others := by
    intro p g n s _ hi _ happens
    obtain ⟨hlisting,hobtained,hrunning⟩ := same_of_happen happens
    exact ⟨hlisting.trans hi.listing,hobtained.trans hi.obtained,
      fun k t call hg hcall hk => hi.early k t call hg hcall (hrunning _ k hk)⟩

/-- Once every process that had begun a task was killed or is done and the list is empty, no task
of any process ever obtains a repository, and no process ever writes the list. -/
theorem nothing_obtained_of_torn {tr : List (Runs × RunEvent)} {p q : Runs} {e : RunEvent}
    (h : (machine digest repoDir).Run (fun _ _ => True) tr p) (hq : (q,e) ∈ tr)
    (hempty : q.shared.listing = .empty) (hidle : ∀ n, q.shared.running n = none) :
    p.shared.listing = .empty ∧ p.shared.obtained = q.shared.obtained := by
  have hreached := h.before hq
  obtain ⟨g,ht,-⟩ := typed_of_runs.reachable (fun _ _ => trivial) hreached
  have htorn : Torn q.shared.obtained q.shared q.calls g :=
    ⟨hempty,rfl,fun k t call _ _ hk => absurd ((hidle _).symm.trans hk) (by simp)⟩
  have hkept := h.keeps (P := fun p => Formed p ∧ ∃ g,
    Typed (protocol digest repoDir) Anyhow firstPhase p g ∧
      Torn q.shared.obtained p.shared p.calls g) ?_ hq ⟨formed_of_reachable hreached,g,ht,htorn⟩
  · obtain ⟨-,g',-,hi⟩ := hkept
    exact ⟨hi.listing,hi.obtained⟩
  · rintro p e p' hs ⟨hf,g,ht,hi⟩
    have hm := (builders digest repoDir).moves_of_step hs
    exact ⟨hf.step hm,torn_upheld.step ht hi hf trivial hm⟩

end Torn

/-- The builder is killed while it makes the list, and the next task gives up. -/
theorem nothing_obtained_of_torn_killed : ∃ p q : Runs, q.shared.listing = .empty ∧
    p.shared.listing = .empty ∧ p.shared.obtained = q.shared.obtained := by
  obtain ⟨tr,p,hp,htest⟩ := Machine.exists_run_of_replay (machine id "/mnt/repo")
    (OneBuilder ["url"])
    (task 0 0 [.go,.go,.go] ++ [.other (.crash 0)] ++ task 1 0 [.go,.go,.go,.go])
    (fun tr _ => tr.any fun (q,_) => q.shared.listing.isEmpty && q.shared.running 0 = none)
    emptyDirectory_init (by decide +kernel)
  obtain ⟨⟨q,e⟩,hq,hseen⟩ := List.any_eq_true.mp htest
  obtain ⟨hempty,hidle⟩ := Bool.and_eq_true_iff.mp hseen
  have hupheld := @upholds id "/mnt/repo" ["url"] Function.injective_id.injOn
  obtain ⟨g,-,hi⟩ := hupheld.reachable (fun _ => inv_of_initial) (hp.before hq)
  have hnone : ∀ n, q.shared.running n = none := by
    intro n
    by_cases hn : n = 0
    · exact hn ▸ of_decide_eq_true hidle
    · exact hi.alone n hn
  have hlisting := Listing.isEmpty_iff.mp hempty
  have hstuck := nothing_obtained_of_torn (hp.mono fun _ _ _ => trivial) hq hlisting hnone
  exact ⟨p,q,hlisting,hstuck⟩

end LiveKBench.KBuilder.Repositories
