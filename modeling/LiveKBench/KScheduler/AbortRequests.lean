import LiveKBench.KScheduler.WaitingJobs
import LiveKBench.KScheduler.MutualExclusion

/-! Abort requests and the workers that they reach. The handler decides from a context that it has
read before its guarded `UPDATE`. Where the `UPDATE` finds a running job, and the context names a
host, that host was running the job when the handler read its digest. -/
namespace LiveKBench.KScheduler
open KCore Lib Backend

/-- The worker that the handler sends its next RPC to. -/
def AbortPc.target? : AbortPc → Option String
  | .control jobContext => some jobContext.currentWorkerHostname
  | _ => none

/-- The handler has decided to await a worker. -/
def AbortPc.awaits : AbortPc → Bool
  | .control _ => true
  | .await => true
  | _ => false

/-- The host that the handler has read. -/
def AbortPc.hostname? : AbortPc → Option String
  | .read (.workers d) => some d.currentWorkerHostname
  | .read (.tags d _) => some d.currentWorkerHostname
  | .write jobContext => some jobContext.currentWorkerHostname
  | _ => none

def Operation.aborts : Operation → Bool
  | .abort _ _ => true
  | _ => false

/-- Whether the event is the guarded `UPDATE` of the abort that runs as operation `i`. -/
def writesAbort (i : ℕ) : State × Event → Bool
  | (s,.advance j _) =>
    j = i && (s.operations j).any fun
      | .abort _ (.write _) => true
      | _ => false
  | _ => false

/-- The states of the request that operation `i` handles, newest first. -/
def duringRequest (i : ℕ) (tr : List (State × Event)) (s : State) : List State :=
  (s :: tr.map Prod.fst).takeWhile fun t => (t.operations i).any Operation.aborts

/-- The state in which operation `i` has made its latest guarded `UPDATE` of an abort. -/
def atWrite (i : ℕ) (tr : List (State × Event)) : Option State :=
  (tr.find? (writesAbort i)).map Prod.fst

/-- The host was running the job at some moment of the request. -/
def HeldDuring (i : ℕ) (tr : List (State × Event)) (s : State) (jobId : JobId)
    (hostname : String) : Prop :=
  ∃ t ∈ duringRequest i tr s, ∃ d ∈ t.db.digest? jobId,
    d.status = .inProgress ∧ d.currentWorkerHostname = hostname

/-- The job was running at the guarded `UPDATE` of the request. -/
def RunningAtWrite (i : ℕ) (tr : List (State × Event)) (jobId : JobId) : Prop :=
  ∃ t ∈ atWrite i tr, ∃ d ∈ t.db.digest? jobId, d.status = .inProgress

/-- An abort sends its RPC to a host with a name that was running the job at some moment of the
request, and awaits a worker only if the job was running at its write. -/
structure ReachesHolder (tr : List (State × Event)) (s : State) (i : ℕ) (jobId : JobId)
    (pc : AbortPc) : Prop where
  target : ∀ hostname ∈ pc.target?, hostname ≠ "" ∧ HeldDuring i tr s jobId hostname
  running : pc.awaits = true → RunningAtWrite i tr jobId

def AbortsReachHolders (tr : List (State × Event)) (s : State) : Prop :=
  ∀ i jobId pc, s.operations i = some (.abort jobId pc) → ReachesHolder tr s i jobId pc

/-- The guarded `UPDATE` of an abort finds the job waiting, or it finds it running and the context
that the handler has read names a host. -/
def WritesInTime (s : State) (e : Event) : Prop :=
  match s.advancing e with
  | some (.abort jobId (.write jobContext)) =>
    ∀ d ∈ s.db.digest? jobId,
      d.Waits ∨ d.status = .inProgress ∧ jobContext.currentWorkerHostname ≠ ""
  | _ => True

def writesInTime (s : State) (e : Event) : Bool :=
  match s.advancing e with
  | some (.abort jobId (.write jobContext)) =>
    (s.db.digest? jobId).all fun d =>
      d.Waits ∨ d.status = .inProgress ∧ jobContext.currentWorkerHostname ≠ ""
  | _ => true

lemma writesInTime_iff {s : State} {e : Event} : writesInTime s e = true ↔ WritesInTime s e := by
  unfold writesInTime WritesInTime
  split
  · simp [Option.all_eq_true]
  · simp

instance (s : State) (e : Event) : Decidable (WritesInTime s e) :=
  decidable_of_iff _ writesInTime_iff

/-! ## Digests during a request -/

/-- A job that nobody runs but that still names a host; no statement makes it run again. -/
def JobDigest.Orphaned (d : JobDigest) : Prop :=
  d.currentWorkerHostname ≠ "" ∧ d.status ≠ .inProgress

lemma JobDigest.Orphaned.row {d : JobDigest} (h : d.Orphaned) (st : Statement) :
    (st.row d).Orphaned := by
  rcases st.row_cases d with hrow | hc
  · rw [hrow]
    exact h
  · generalize st.row d = d' at hc
    cases hc with
    | focus takes => exact absurd takes.2.1 h.1
    | restart takes => exact absurd takes.2.1 h.1
    | release takes => exact absurd takes.2.1 h.2
    | finish takes => exact ⟨h.1,by simp⟩
    | abort takes => exact absurd takes.2.1 h.1

/-- What a move leaves of a digest, as long as the process lives. -/
lemma Move.digest?_after {fleet : Fleet} {s u : State} {e : Event} (hm : Move fleet s e u)
    (he : ∀ graceful ts, e ≠ .restartScheduler graceful ts) {jobId : JobId} {d : JobDigest}
    (hd : s.db.digest? jobId = some d) :
    ∃ d', u.db.digest? jobId = some d' ∧ (d' = d ∨ ∃ st : Statement, d' = st.row d) := by
  rw [(hm.writes_of_ne he).1]
  rcases s.write_cases e with hw | ⟨st,-,hw⟩
  · exact ⟨d,hw ▸ hd,.inl rfl⟩
  · exact ⟨st.row d,hw ▸ Statement.digest?_run_of_some hd,.inr ⟨st,rfl⟩⟩

/-- A job whose guarded `UPDATE` found it waiting is aborted. -/
lemma abort_eq_one_of_waits {fleet : Fleet} {C : State → Event → Prop} {s : State}
    (h : (system fleet).ReachableBy C s) {jobId : JobId} {d : JobDigest}
    (hd : s.db.digest? jobId = some d) (hw : d.Waits) : (s.db.abort jobId).2 = 1 :=
  Db.abort_eq_one.mpr ⟨d,hd,Db.digest?_jobId hd,unheld h jobId d hd hw,hw⟩

/-! ## The steps of a request -/

/-- The steps after which the handler goes on, with what they have found. -/
inductive AbortGoesOn (db : Db) (jobId : JobId) : AbortPc → AbortPc → Prop
  | digest {d} (reads : db.digest? jobId = some d) :
      AbortGoesOn db jobId (.read .digest) (.read (.workers d))
  | workers {d} :
      AbortGoesOn db jobId (.read (.workers d)) (.read (.tags d (db.selectWorkers jobId)))
  | tags {d jobWorkers} :
      AbortGoesOn db jobId (.read (.tags d jobWorkers))
        (.write (d.context jobWorkers (db.selectTags jobId)))
  | refused {jobContext} (misses : (db.abort jobId).2 ≠ 1) :
      AbortGoesOn db jobId (.write jobContext) (.control jobContext)
  | sent {jobContext} : AbortGoesOn db jobId (.control jobContext) .await

lemma AbortPc.goesOn {db : Db} {jobId : JobId} {pc pc' : AbortPc} {o : Outcome AbortPc}
    (h : pc.step jobId db = some o) (hn : o.next? = some pc') : AbortGoesOn db jobId pc pc' := by
  cases pc with
  | read g =>
    cases g with
    | digest =>
      simp only [AbortPc.step,GetJob.step] at h
      cases hd : db.digest? jobId with
      | none =>
        simp only [hd] at h
        cases h
        cases hn
      | some d =>
        simp only [hd] at h
        cases h
        cases hn
        exact .digest hd
    | workers d =>
      cases h
      cases hn
      exact .workers
    | tags d jobWorkers =>
      simp only [AbortPc.step,GetJob.step] at h
      split at h
      · cases h
        cases hn
      · cases h
        cases hn
        exact .tags
  | write jobContext =>
    simp only [AbortPc.step] at h
    split at h
    · cases h
      cases hn
    · next hne =>
      cases h
      cases hn
      exact .refused hne
  | control jobContext =>
    cases h
    cases hn
    exact .sent
  | await => cases h

/-- An abort goes on about its own job. -/
lemma Piece.of_next_abort {ts : TimeStamp} {db : Db} {op : Operation} {o : Outcome Operation}
    {jobId : JobId} {pc : AbortPc} (h : Piece ts db op o)
    (hn : o.next? = some (.abort jobId pc)) : ∃ pc₀, op = .abort jobId pc₀ := by
  cases h with
  | abortRead | abortGoesOn | abortRefused | abortControl =>
    cases hn
    exact ⟨_,rfl⟩
  | _ => cases hn

lemma next?_map_abort {jobId : JobId} {o : Outcome AbortPc} :
    (o.map (.abort jobId)).next? = o.next?.map (Operation.abort jobId) := by
  cases o <;> rfl

/-- An abort after a step was one before it that the step has not touched, or it has gone on, or
the step has started it. -/
lemma abort_origin {fleet : Fleet} {s s' : State} {e : Event} (h : (system fleet).step s e = some s')
    {i : ℕ} {jobId : JobId} {pc : AbortPc} (hop : s'.operations i = some (.abort jobId pc)) :
    (s.operations i = some (.abort jobId pc) ∧ ∀ ts, e ≠ .advance i ts) ∨
      (∃ ts pc₀, e = .advance i ts ∧ s.operations i = some (.abort jobId pc₀) ∧
        AbortGoesOn s.db jobId pc₀ pc) ∨
      pc = .read .digest := by
  obtain ⟨u,hu,rfl⟩ := Option.map_eq_some_iff.mp h
  have hm := Move.of_effect hu
  rcases hm.operation_origin hop with hk | ⟨ts,op₀,o,rfl,hop₀,-,-⟩ | ⟨hs,-⟩
  · exact .inl hk
  · simp only [State.effect,hop₀,Option.bind_eq_bind,Option.bind_some,Option.pure_def,
      Option.bind_eq_some_iff] at hu
    obtain ⟨o',ho,hu⟩ := hu
    cases hu
    simp only [State.operations_settle,Function.update_self] at hop
    obtain ⟨pc₀,rfl⟩ := (Piece.of_step ho).of_next_abort hop
    obtain ⟨o'',ho',rfl⟩ := Option.map_eq_some_iff.mp ho
    rw [next?_map_abort] at hop
    obtain ⟨pc',hn,hpc⟩ := Option.map_eq_some_iff.mp hop
    cases hpc
    exact .inr (.inl ⟨ts,pc₀,rfl,hop₀,AbortPc.goesOn ho' hn⟩)
  · cases hs with
    | abortJob => exact .inr (.inr rfl)

/-! ## Runs -/

section History
variable {tr : List (State × Event)} {s s' : State} {e : Event} {i : ℕ} {jobId : JobId}
  {hostname : String}

lemma duringRequest_next {pc pc' : AbortPc} (hs : s.operations i = some (.abort jobId pc))
    (hs' : s'.operations i = some (.abort jobId pc')) :
    duringRequest i ((s,e) :: tr) s' = s' :: duringRequest i tr s := by
  simp [duringRequest,hs,hs',Operation.aborts]

lemma mem_duringRequest {pc : AbortPc} (hs : s.operations i = some (.abort jobId pc)) :
    s ∈ duringRequest i tr s := by
  simp [duringRequest,hs,Operation.aborts]

lemma HeldDuring.next {pc pc' : AbortPc} (h : HeldDuring i tr s jobId hostname)
    (hs : s.operations i = some (.abort jobId pc))
    (hs' : s'.operations i = some (.abort jobId pc')) :
    HeldDuring i ((s,e) :: tr) s' jobId hostname := by
  obtain ⟨t,ht,hd⟩ := h
  refine ⟨t,?_,hd⟩
  rw [duringRequest_next hs hs']
  exact List.mem_cons_of_mem _ ht

lemma atWrite_next (h : writesAbort i (s,e) = false) : atWrite i ((s,e) :: tr) = atWrite i tr := by
  simp [atWrite,h]

lemma writesAbort_of_ne (h : ∀ ts, e ≠ .advance i ts) : writesAbort i (s,e) = false := by
  cases e with
  | advance j ts =>
    have hj : j ≠ i := by
      intro hj
      exact h ts (hj ▸ rfl)
    simp [writesAbort,hj]
  | _ => rfl

/-- What the handler has read of the job's host: the job is still there, and the host was running
it, or nobody will. -/
def Vouched (i : ℕ) (tr : List (State × Event)) (s : State) (jobId : JobId)
    (hostname : String) : Prop :=
  ∃ d, s.db.digest? jobId = some d ∧
    (hostname ≠ "" → HeldDuring i tr s jobId hostname ∨ d.Orphaned)

lemma Vouched.next {fleet : Fleet} {pc pc' : AbortPc} (h : Vouched i tr s jobId hostname)
    (hstep : (system fleet).step s e = some s')
    (hs : s.operations i = some (.abort jobId pc))
    (hs' : s'.operations i = some (.abort jobId pc')) :
    Vouched i ((s,e) :: tr) s' jobId hostname := by
  obtain ⟨u,hm,rfl⟩ := Move.of_step hstep
  obtain ⟨d,hd,hv⟩ := h
  have he : ∀ graceful ts, e ≠ .restartScheduler graceful ts := by
    rintro graceful ts rfl
    cases hm
    cases hs'
  obtain ⟨d',hd',hst⟩ := hm.digest?_after he hd
  refine ⟨d',hd',fun hne => ?_⟩
  rcases hv hne with hheld | horph
  · exact .inl (hheld.next hs hs')
  · right
    rcases hst with rfl | ⟨st,rfl⟩
    · exact horph
    · exact horph.row st

end History

/-- What holds of an abort at every point of its request. -/
structure AbortSound (tr : List (State × Event)) (s : State) (i : ℕ) (jobId : JobId)
    (pc : AbortPc) : Prop where
  vouched : ∀ hostname ∈ pc.hostname?, Vouched i tr s jobId hostname
  reaches : ReachesHolder tr s i jobId pc

lemma abortSound_kept {fleet : Fleet} {tr : List (State × Event)} {s s' : State} {e : Event}
    {i : ℕ} {jobId : JobId} {pc : AbortPc} (h : AbortSound tr s i jobId pc)
    (hstep : (system fleet).step s e = some s') (he : ∀ ts, e ≠ .advance i ts)
    (hs : s.operations i = some (.abort jobId pc))
    (hs' : s'.operations i = some (.abort jobId pc)) : AbortSound ((s,e) :: tr) s' i jobId pc where
  vouched hostname hh := (h.vouched hostname hh).next hstep hs hs'
  reaches := {
    target := by
      intro hostname hh
      obtain ⟨hne,hheld⟩ := h.reaches.target hostname hh
      exact ⟨hne,hheld.next hs hs'⟩
    running := by
      intro ha
      rw [RunningAtWrite,atWrite_next (writesAbort_of_ne he)]
      exact h.reaches.running ha }

lemma abortSound_goesOn {fleet : Fleet} {tr : List (State × Event)} {s s' : State} {i : ℕ}
    {ts : TimeStamp} {jobId : JobId} {pc pc' : AbortPc}
    (hr : (system fleet).ReachableBy WritesInTime s) (h : AbortSound tr s i jobId pc)
    (hc : WritesInTime s (.advance i ts)) (hstep : (system fleet).step s (.advance i ts) = some s')
    (hs : s.operations i = some (.abort jobId pc))
    (hs' : s'.operations i = some (.abort jobId pc')) (hg : AbortGoesOn s.db jobId pc pc') :
    AbortSound ((s,.advance i ts) :: tr) s' i jobId pc' := by
  cases hg with
  | @digest d reads =>
    refine ⟨?_,⟨by simp [AbortPc.target?],by simp [AbortPc.awaits]⟩⟩
    rintro hostname ⟨⟩
    refine Vouched.next ⟨d,reads,fun hne => ?_⟩ hstep hs hs'
    by_cases hrun : d.status = .inProgress
    · exact .inl ⟨s,mem_duringRequest hs,d,reads,hrun,rfl⟩
    · exact .inr ⟨hne,hrun⟩
  | workers | tags =>
    refine ⟨?_,⟨by simp [AbortPc.target?],by simp [AbortPc.awaits]⟩⟩
    intro hostname hh
    exact (h.vouched hostname hh).next hstep hs hs'
  | @refused jobContext misses =>
    obtain ⟨d,hd,hv⟩ := h.vouched _ rfl
    simp only [WritesInTime,State.advancing,hs] at hc
    rcases hc d hd with hw | ⟨hrun,hne⟩
    · exact absurd (abort_eq_one_of_waits hr hd hw) misses
    have hat : atWrite i ((s,.advance i ts) :: tr) = some s := by
      simp [atWrite,writesAbort,hs]
    refine ⟨by simp [AbortPc.hostname?],⟨?_,fun _ => ⟨s,hat,d,hd,hrun⟩⟩⟩
    rintro hostname ⟨⟩
    rcases hv hne with hheld | horph
    · exact ⟨hne,hheld.next hs hs'⟩
    · exact absurd hrun horph.2
  | sent =>
    refine ⟨by simp [AbortPc.hostname?],⟨by simp [AbortPc.target?],fun _ => ?_⟩⟩
    rw [RunningAtWrite,atWrite_next (by simp [writesAbort,hs])]
    exact h.reaches.running rfl

/-- In every run whose aborts are written in time, an abort sends its RPC only to a host that was
running the job during the request, and awaits no worker for a job that was not running. -/
theorem aborts_reach_holders {fleet : Fleet} {tr : List (State × Event)} {s : State}
    (h : (system fleet).Run WritesInTime tr s) : AbortsReachHolders tr s := by
  have hsound : ∀ i jobId pc, s.operations i = some (.abort jobId pc) →
      AbortSound tr s i jobId pc := by
    refine h.invariant (I := fun tr s => ∀ i jobId pc, s.operations i = some (.abort jobId pc) →
      AbortSound tr s i jobId pc) ?_ ?_
    · rintro s rfl i jobId pc hop
      cases hop
    · intro tr s e s' hr ih hc hstep i jobId pc hop
      rcases abort_origin hstep hop with ⟨hs,he⟩ | ⟨ts,pc₀,rfl,hs,hg⟩ | rfl
      · exact abortSound_kept (ih i jobId pc hs) hstep he hs hop
      · exact abortSound_goesOn ⟨tr,hr⟩ (ih i jobId pc₀ hs) hc hstep hs hop hg
      · exact ⟨nofun,⟨nofun,nofun⟩⟩
  exact fun i jobId pc hop => (hsound i jobId pc hop).reaches

/-- No weaker condition will do: after a write that is not in time the abort has missed. -/
theorem late_abort_misses {fleet : Fleet} {tr : List (State × Event)} {s s' : State} {e : Event}
    (hstep : (system fleet).step s e = some s') (hlate : ¬WritesInTime s e) :
    ¬AbortsReachHolders ((s,e) :: tr) s' := by
  intro h
  unfold WritesInTime at hlate
  split at hlate
  · next jobId jobContext ha =>
    obtain ⟨i,ts,rfl,hop⟩ := State.advancing_eq_some ha
    simp only [not_forall,not_or,not_and_or] at hlate
    obtain ⟨d,hd,hwait,hbad⟩ := hlate
    have hne : (s.db.abort jobId).2 ≠ 1 := by
      intro hone
      obtain ⟨d',hd',hab⟩ := Db.abort_eq_one.mp hone
      obtain rfl := Option.some.inj (hd.symm.trans hd')
      exact hwait hab.2.2
    have hop' : s'.operations i = some (.abort jobId (.control jobContext)) := by
      obtain ⟨u,hu,rfl⟩ := Option.map_eq_some_iff.mp hstep
      simp only [State.effect,hop,Operation.step,AbortPc.step,hne,if_false,Option.map_some,
        Option.bind_eq_bind,Option.bind_some,Option.pure_def,Option.some.injEq] at hu
      subst hu
      simp [Outcome.map,Outcome.next?]
    obtain ⟨ht,hrun⟩ := h i jobId _ hop'
    obtain ⟨t,hat,d',hd',hp⟩ := hrun rfl
    have hat' : atWrite i ((s,.advance i ts) :: tr) = some s := by
      simp [atWrite,writesAbort,hop]
    obtain rfl := Option.some.inj (hat'.symm.trans hat)
    obtain rfl := Option.some.inj (hd.symm.trans hd')
    rcases hbad with hs | hn
    · exact hs hp
    · exact hn (ht _ rfl).1
  · exact hlate trivial

/-- The first builder runs a job, and an abort of it comes to its RPC. -/
def abortWhileBuilding : List Event :=
  firstBuilderRuns ++ Event.serveAbort 1 1

def State.Targets (s : State) (i : ℕ) (hostname : String) : Bool :=
  match s.operations i with
  | some (.abort 1 pc) => pc.target? = some hostname
  | _ => false

lemma State.exists_of_targets {s : State} {i : ℕ} {hostname : String}
    (h : s.Targets i hostname = true) :
    ∃ pc, s.operations i = some (.abort 1 pc) ∧ pc.target? = some hostname := by
  unfold State.Targets at h
  split at h
  · next pc hop => exact ⟨pc,hop,of_decide_eq_true h⟩
  · cases h

theorem abort_reaches_first_builder :
    ∃ tr s, (system builders).Run WritesInTime tr s ∧ s.Targets 1 "builder-0" = true ∧
      AbortsReachHolders tr s := by
  obtain ⟨tr,s,hr,hp⟩ := Machine.exists_run_of_replay (system builders) WritesInTime
    abortWhileBuilding (fun _ s => s.Targets 1 "builder-0") rfl (by decide)
  exact ⟨tr,s,hr,hp,aborts_reach_holders hr⟩

/-- The first builder ends a job, and then an abort of it arrives. -/
def abortAfterFinish : List Event :=
  firstBuilderRuns ++ [.report 0 (successOf "kbuilder")] ++ Event.serveUpdate 0 6 firstUpdate 3 ++
  Event.serveAbort 1 1

/-- The abort of a finished job sends its RPC to a host without a name. -/
theorem abort_of_finished_reaches_nobody :
    ∃ tr s, (system builders).Run (fun _ _ => True) tr s ∧ ¬AbortsReachHolders tr s := by
  obtain ⟨tr,s,hr,hp⟩ := Machine.exists_run_of_replay (system builders) (fun _ _ => True)
    abortAfterFinish (fun _ s => s.Targets 1 "") rfl (by decide)
  obtain ⟨pc,hop,ht⟩ := State.exists_of_targets hp
  exact ⟨tr,s,hr,fun h => ((h 1 1 pc hop).target "" ht).1 rfl⟩

end LiveKBench.KScheduler
