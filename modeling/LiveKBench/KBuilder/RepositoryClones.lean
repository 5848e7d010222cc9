import LiveKBench.KBuilder.RepositoryTasks

/-! One builder on the directory: a repository that a job has obtained is there for good, wherever
the builder is killed. A second builder on the same directory can take it away. -/
namespace LiveKBench.KBuilder.Repositories
open KClient (osPathJoin)
open Lib Lib.Pipeline

section One
variable (digest : String → String) (repoDir : String) (urls : List String)

/-- An operation that is under way, awaited or not. -/
def Working (s : State) (o : Operation) : Prop :=
  (∃ process, s.doing process = some o) ∨ o ∈ s.orphans

/-- Nothing is at work on the clone of a repository. -/
def Free (s : State) (url : String) : Prop := ∀ o, Working s o → o.localName ≠ digest url

/-- The listed repositories are there, with nothing at work on them, and all that were obtained are
listed. -/
structure Good (s : State) (repos : Repos) : Prop where
  named : ∀ url localName, repos.value? url = some localName →
    localName = digest url ∧ s.clones localName = some (.complete url) ∧ url ∈ urls
  free : ∀ url, repos.value? url ≠ none → Free digest s url
  kept : ∀ e ∈ s.obtained, ∃ url, canonicalizeGitUrl e.1 = .ok url ∧ repos.value? url ≠ none

/-- What was obtained is there. -/
def Held (s : State) (gitUrl path : String) : Prop :=
  ∃ url, canonicalizeGitUrl gitUrl = .ok url ∧ path = osPathJoin repoDir (digest url) ∧
    s.clones (digest url) = some (.complete url)

/-- Nothing is at work on it. -/
def Calm (s : State) (gitUrl : String) : Prop :=
  ∀ url, canonicalizeGitUrl gitUrl = .ok url → Free digest s url

/-- What the task that runs knows of the directory. -/
def Fits (s : State) (gitUrl : String) : Stage → Prop
  | .missing => s.listing = .absent
  | .truncated repos => s.listing = .empty ∧ Good digest urls s repos
  | .listed repos => s.listing = .written repos
  | .cloning repos => s.listing = .written repos ∧ ∀ url, canonicalizeGitUrl gitUrl = .ok url →
      ∀ o ∈ s.orphans, o.localName ≠ digest url
  | .cloned repos => s.listing = .written repos ∧
      ∃ url, canonicalizeGitUrl gitUrl = .ok url ∧ s.clones (digest url) = some (.complete url) ∧
        Free digest s url
  | _ => True

/-- The directory, as the task that runs sees it. -/
structure Local (s : State) (gitUrl : String) (stage : Stage) : Prop where
  listed : ∀ repos, s.listing = .written repos → Good digest urls s repos
  absent : s.listing = .absent → s.obtained = []
  held : ∀ e ∈ s.obtained, Held digest repoDir s e.1 e.2 ∧ Calm digest s e.1
  alone : ∀ process, process ≠ 0 → s.doing process = none
  fits : Fits digest urls s gitUrl stage

variable {digest repoDir urls} {s s' : State} {gitUrl url localName : String} {stage : Stage}
  {repos : Repos}

lemma Local.over (h : Local digest repoDir urls s gitUrl stage) (gitUrl' : String) :
    Local digest repoDir urls s gitUrl' .over := { h with fits := trivial }

/-! ### What happens to the directory -/

/-- From `s` to `s'` a clone changes that is not listed, and operations end or become orphans. -/
structure Shrinks (s s' : State) : Prop where
  obtained : s'.obtained = s.obtained
  working : ∀ o, Working s' o → Working s o
  clones : s'.clones = s.clones ∨ ∃ o clone, Working s o ∧
    s'.clones = Function.update s.clones o.localName clone

lemma Shrinks.clones_eq (h : Shrinks s s') (hfree : Free digest s url) :
    s'.clones (digest url) = s.clones (digest url) := by
  obtain hsame | ⟨o,clone,ho,hclones⟩ := h.clones
  · rw [hsame]
  · rw [hclones]
    exact Function.update_of_ne (hfree o ho).symm _ _

lemma Free.shrinks (hfree : Free digest s url) (h : Shrinks s s') : Free digest s' url :=
  fun o ho => hfree o (h.working o ho)

lemma Good.shrinks (hgood : Good digest urls s repos) (h : Shrinks s s') :
    Good digest urls s' repos where
  named := by
    intro url localName hvalue
    obtain ⟨rfl,hclone,hmem⟩ := hgood.named url localName hvalue
    have hfree := hgood.free url (by simp [hvalue])
    exact ⟨rfl,(h.clones_eq hfree).trans hclone,hmem⟩
  free url hlisted := (hgood.free url hlisted).shrinks h
  kept := h.obtained ▸ hgood.kept

lemma held_shrinks {path : String} (hheld : Held digest repoDir s gitUrl path)
    (hcalm : Calm digest s gitUrl) (h : Shrinks s s') :
    Held digest repoDir s' gitUrl path ∧ Calm digest s' gitUrl := by
  refine ⟨?_,fun url hurl => (hcalm url hurl).shrinks h⟩
  obtain ⟨url,hurl,hpath,hclone⟩ := hheld
  exact ⟨url,hurl,hpath,(h.clones_eq (hcalm url hurl)).trans hclone⟩

/-- Nothing else of the state matters. -/
lemma Local.shrinks (h : Local digest repoDir urls s gitUrl stage) (hs : Shrinks s s')
    (hlisting : s'.listing = s.listing) (halone : ∀ process, process ≠ 0 → s'.doing process = none)
    (hfits : Fits digest urls s' gitUrl stage) : Local digest repoDir urls s' gitUrl stage where
  listed repos hl := (h.listed repos (hlisting ▸ hl)).shrinks hs
  absent hl := hs.obtained.trans (h.absent (hlisting ▸ hl))
  held e he := by
    rw [hs.obtained] at he
    exact held_shrinks (h.held e he).1 (h.held e he).2 hs
  alone := halone
  fits := hfits

/-- What the task knows stays, where no new orphan is left in its way. -/
lemma Fits.shrinks (hfits : Fits digest urls s gitUrl stage) (h : Shrinks s s')
    (hlisting : s'.listing = s.listing) (horphans : ∀ o ∈ s'.orphans, o ∈ s.orphans) :
    Fits digest urls s' gitUrl stage := by
  cases stage with
  | missing => exact hlisting.trans hfits
  | truncated repos => exact ⟨hlisting.trans hfits.1,hfits.2.shrinks h⟩
  | listed repos => exact hlisting.trans hfits
  | cloning repos =>
    exact ⟨hlisting.trans hfits.1,fun url hurl o ho => hfits.2 url hurl o (horphans o ho)⟩
  | cloned repos =>
    obtain ⟨hl,url,hurl,hclone,hfree⟩ := hfits
    exact ⟨hlisting.trans hl,url,hurl,(h.clones_eq hfree).trans hclone,hfree.shrinks h⟩
  | _ => trivial

lemma working_abandon {process : ℕ} {o : Operation} (h : Working (s.abandon process) o) :
    Working s o := by
  obtain ⟨n,hdoing⟩ | horphan := h
  · by_cases hn : n = process
    · subst hn
      exact absurd ((Function.update_self _ _ _).symm.trans hdoing) nofun
    · exact .inl ⟨n,(Function.update_of_ne hn _ _).symm.trans hdoing⟩
  · obtain hdoing | horphan := List.mem_append.mp horphan
    · exact .inl ⟨process,Option.mem_toList.mp hdoing⟩
    · exact .inr horphan

lemma doing_setDoing_self (s : State) (process : ℕ) (o : Option Operation) :
    (s.setDoing process o).doing process = o := Function.update_self _ _ _

lemma doing_setDoing_of_ne {n process : ℕ} (hn : n ≠ process) (s : State) (o : Option Operation) :
    (s.setDoing process o).doing n = s.doing n := Function.update_of_ne hn _ _

lemma alone_setDoing (h : ∀ process, process ≠ 0 → s.doing process = none) (o : Option Operation) :
    ∀ process, process ≠ 0 → (s.setDoing 0 o).doing process = none :=
  fun process hne => (doing_setDoing_of_ne hne s o).trans (h process hne)

/-- An exception of the task. -/
lemma Local.abandon (h : Local digest repoDir urls s gitUrl stage) :
    Local digest repoDir urls (s.abandon 0) gitUrl .over :=
  (h.over gitUrl).shrinks ⟨rfl,fun _ => working_abandon,.inl rfl⟩ rfl
    (alone_setDoing h.alone none) trivial

lemma working_of_happen {e : Outside} (h : happen e s = some s') :
    Shrinks s s' ∧ (∀ n, s.doing n = none → s'.doing n = none) := by
  cases e with
  | crash process =>
    obtain rfl := Option.some.inj h
    refine ⟨⟨rfl,fun o ho => ?_,.inl rfl⟩,fun n hn => ?_⟩
    · obtain ⟨n,hdoing⟩ | horphan := ho
      · by_cases hn : n = process
        · subst hn
          exact absurd ((Function.update_self _ _ _).symm.trans hdoing) nofun
        · exact .inl ⟨n,(Function.update_of_ne hn _ _).symm.trans hdoing⟩
      · obtain hdoing | horphan := List.mem_append.mp horphan
        · exact .inl ⟨process,Option.mem_toList.mp (List.mem_of_mem_filter hdoing)⟩
        · exact .inr horphan
    · by_cases hprocess : n = process
      · subst hprocess
        exact Function.update_self _ _ _
      · exact (Function.update_of_ne hprocess _ _).trans hn
  | orphan n progress =>
    obtain ⟨o,ho,rfl⟩ := Option.map_eq_some_iff.mp h
    refine ⟨⟨rfl,fun o' ho' => ?_,.inr ⟨o,_,.inr (List.mem_of_getElem? ho),rfl⟩⟩,fun _ hn => hn⟩
    obtain hdoing | horphan := ho'
    · exact .inl hdoing
    · refine .inr ?_
      simp only [State.goOn] at horphan
      split at horphan
      · exact horphan
      · exact List.mem_of_mem_eraseIdx horphan

/-- No orphan is left while the only builder goes on with its task. -/
lemma orphans_of_happen {e : Outside} (halone : ∀ process, process ≠ 0 → s.doing process = none)
    (h : happen e s = some s') {k : ℕ} (hk : s'.running 0 = some k) :
    ∀ o ∈ s'.orphans, o ∈ s.orphans := by
  cases e with
  | crash process =>
    obtain rfl := Option.some.inj h
    intro o ho
    obtain hdoing | horphan := List.mem_append.mp ho
    · have hne : process ≠ 0 := by
        rintro rfl
        cases (running_setRunning_self s 0 none).symm.trans hk
      rw [halone process hne] at hdoing
      cases hdoing
    · exact horphan
  | orphan n progress =>
    obtain ⟨o,-,rfl⟩ := Option.map_eq_some_iff.mp h
    intro o' ho'
    simp only [State.goOn] at ho'
    split at ho'
    · exact ho'
    · exact List.mem_of_mem_eraseIdx ho'

lemma Unlisted.asked (h : Unlisted digest gitUrl stage url localName) :
    canonicalizeGitUrl gitUrl = .ok url := by
  obtain ⟨-,-,hurl,-⟩ := h
  exact hurl

lemma Cloning.asked (h : Cloning digest gitUrl stage url localName) :
    canonicalizeGitUrl gitUrl = .ok url := by
  obtain ⟨-,-,hurl,-⟩ := h
  exact hurl

/-- The task works on a clone that is not listed, and on nothing that was obtained. -/
lemma Local.works (hinj : Set.InjOn digest {url | url ∈ urls})
    (h : Local digest repoDir urls s gitUrl stage) (hurl : url ∈ urls)
    (hlisting : s.listing = .written repos) (hnone : repos.value? url = none)
    (clone : Option Clone) (o : Option Operation) (ho : ∀ o' ∈ o, o'.localName = digest url)
    {stage' : Stage} (hfits : Fits digest urls ((s.setClone (digest url) clone).setDoing 0 o) gitUrl
      stage') :
    Local digest repoDir urls ((s.setClone (digest url) clone).setDoing 0 o) gitUrl stage' := by
  have hgood := h.listed repos hlisting
  have hother : ∀ url', repos.value? url' ≠ none → digest url' ≠ digest url := by
    intro url' hlisted heq
    obtain ⟨name,hname⟩ := Option.ne_none_iff_exists'.mp hlisted
    obtain ⟨-,-,hmem⟩ := hgood.named url' name hname
    obtain rfl := hinj hmem hurl heq
    exact hlisted hnone
  have hfree : ∀ url', repos.value? url' ≠ none →
      Free digest ((s.setClone (digest url) clone).setDoing 0 o) url' := by
    intro url' hlisted o' ho'
    obtain ⟨n,hdoing⟩ | horphan := ho'
    · by_cases hn : n = 0
      · subst hn
        rw [doing_setDoing_self] at hdoing
        rw [ho o' hdoing]
        exact (hother url' hlisted).symm
      · rw [doing_setDoing_of_ne hn] at hdoing
        exact hgood.free url' hlisted o' (.inl ⟨n,hdoing⟩)
    · exact hgood.free url' hlisted o' (.inr horphan)
  have hgood' : Good digest urls ((s.setClone (digest url) clone).setDoing 0 o) repos := by
    refine ⟨fun url' name hvalue => ?_,hfree,hgood.kept⟩
    obtain ⟨rfl,hclone,hmem⟩ := hgood.named url' name hvalue
    exact ⟨rfl,(Function.update_of_ne (hother url' (by simp [hvalue])) _ _).trans hclone,hmem⟩
  refine ⟨?_,h.absent,fun e he => ?_,alone_setDoing h.alone o,hfits⟩
  · intro repos' hrepos'
    obtain rfl := Listing.written.inj (hlisting.symm.trans hrepos')
    exact hgood'
  · obtain ⟨url',hurl',hlisted⟩ := hgood.kept e he
    obtain ⟨url'',hurl'',hpath,hclone⟩ := (h.held e he).1
    obtain rfl := Except.ok.inj (hurl'.symm.trans hurl'')
    refine ⟨⟨url',hurl',hpath,(Function.update_of_ne (hother url' hlisted) _ _).trans hclone⟩,?_⟩
    intro url'' hurl''
    obtain rfl := Except.ok.inj (hurl'.symm.trans hurl'')
    exact hfree url' hlisted

/-- A clone is begun where no orphan is at work. -/
lemma Local.begins (hinj : Set.InjOn digest {url | url ∈ urls})
    (h : Local digest repoDir urls s gitUrl (.listed repos))
    (hurl : canonicalizeGitUrl gitUrl = .ok url) (hmem : url ∈ urls)
    (hnone : repos.value? url = none) (halone : ∀ o ∈ s.orphans, o.localName ≠ digest url) :
    Local digest repoDir urls (s.startClone 0 url (digest url)) gitUrl (.cloning repos) := by
  have horphans : ∀ url', canonicalizeGitUrl gitUrl = .ok url' →
      ∀ o ∈ s.orphans, o.localName ≠ digest url' := by
    intro url' hurl' o ho
    obtain rfl := Except.ok.inj (hurl.symm.trans hurl')
    exact halone o ho
  unfold State.startClone
  split
  · refine h.works hinj hmem h.fits hnone _ _ (fun o ho => ?_) ⟨h.fits,horphans⟩
    obtain rfl := Option.some.inj ho
    rfl
  · exact { h with fits := ⟨h.fits,horphans⟩ }

/-- The clone is complete, and nothing is at work on it any more. -/
lemma Local.completes (hinj : Set.InjOn digest {url | url ∈ urls})
    (h : Local digest repoDir urls s gitUrl (.cloning repos))
    (hurl : canonicalizeGitUrl gitUrl = .ok url) (hmem : url ∈ urls)
    (hnone : repos.value? url = none) : Local digest repoDir urls
      ((s.setClone (digest url) (some (.complete url))).setDoing 0 none) gitUrl (.cloned repos) := by
  obtain ⟨hlisting,horphans⟩ := h.fits
  refine h.works hinj hmem hlisting hnone _ none nofun
    ⟨hlisting,url,hurl,Function.update_self _ _ _,fun o ho => ?_⟩
  obtain ⟨n,hdoing⟩ | horphan := ho
  · by_cases hn : n = 0
    · subst hn
      rw [doing_setDoing_self] at hdoing
      cases hdoing
    · rw [doing_setDoing_of_ne hn] at hdoing
      cases (h.alone n hn).symm.trans hdoing
  · exact horphans url hurl o horphan

/-- A clone ends that is not complete, with or without its rest. -/
lemma Local.fails (hinj : Set.InjOn digest {url | url ∈ urls})
    (h : Local digest repoDir urls s gitUrl (.cloning repos)) (hmem : url ∈ urls)
    (hnone : repos.value? url = none) (clone : Option Clone) : Local digest repoDir urls
      ((s.setClone (digest url) clone).setDoing 0 none) gitUrl (.cloning repos) :=
  h.works hinj hmem h.fits.1 hnone clone none nofun h.fits

/-- A listed clone is obtained. -/
lemma Local.obtains (h : Local digest repoDir urls s gitUrl (.listed repos))
    (hurl : canonicalizeGitUrl gitUrl = .ok url) (hvalue : repos.value? url = some localName) :
    Local digest repoDir urls
      { s with obtained := (gitUrl,osPathJoin repoDir localName) :: s.obtained } gitUrl .over := by
  have hlisting : s.listing = .written repos := h.fits
  have hgood := h.listed repos hlisting
  obtain ⟨rfl,hclone,-⟩ := hgood.named url localName hvalue
  have hlisted : repos.value? url ≠ none := by simp [hvalue]
  refine ⟨?_,fun hl => ?_,?_,h.alone,trivial⟩
  · intro repos' hrepos'
    obtain rfl := Listing.written.inj (hlisting.symm.trans hrepos')
    refine ⟨hgood.named,hgood.free,fun e he => ?_⟩
    obtain rfl | he := List.mem_cons.mp he
    · exact ⟨url,hurl,hlisted⟩
    · exact hgood.kept e he
  · cases hlisting.symm.trans hl
  · intro e he
    obtain rfl | he := List.mem_cons.mp he
    · refine ⟨⟨url,hurl,rfl,hclone⟩,fun url' hurl' => ?_⟩
      obtain rfl := Except.ok.inj (hurl.symm.trans hurl')
      exact hgood.free url hlisted
    · exact h.held e he

lemma good_empty (h : s.obtained = []) : Good digest urls s .empty where
  named url localName hvalue := by simp at hvalue
  free url hlisted := by simp at hlisted
  kept e he := by simp [h] at he

lemma Good.set (hgood : Good digest urls s repos) (hclone : s.clones (digest url) = some (.complete url))
    (hfree : Free digest s url) (hurl : url ∈ urls) :
    Good digest urls s (repos.set url (digest url)) where
  named url' localName hvalue := by
    rw [OrderedMap.value?_set] at hvalue
    split at hvalue
    · next heq =>
      subst heq
      cases hvalue
      exact ⟨rfl,hclone,hurl⟩
    · exact hgood.named url' localName hvalue
  free url' hlisted := by
    rw [OrderedMap.value?_set] at hlisted
    split at hlisted
    · next heq => exact heq ▸ hfree
    · exact hgood.free url' hlisted
  kept e he := by
    obtain ⟨url',hurl',hlisted⟩ := hgood.kept e he
    refine ⟨url',hurl',?_⟩
    rw [OrderedMap.value?_set]
    split
    · simp
    · exact hlisted

/-- A clone is begun where no orphan is at work. -/
def Alone (s : State) : Request → Prop
  | .clone _ localName => ∀ o ∈ s.orphans, o.localName ≠ localName
  | _ => True

variable {r : Request} {input : Input} {x : Except TaskError r.Answer} {stage' : Stage}

/-- A request of the task that runs, of a URL that is one of those asked for. -/
lemma Local.step (hinj : Set.InjOn digest {url | url ∈ urls})
    (hurls : ∀ url, canonicalizeGitUrl gitUrl = .ok url → url ∈ urls)
    (h : Local digest repoDir urls s gitUrl stage) (halone : Alone s r)
    (hr : allowed digest repoDir ⟨gitUrl,stage⟩ r) (hl : Leads digest gitUrl stage r x stage')
    (ha : answer 0 r s input = some (s',x)) : Local digest repoDir urls s' gitUrl stage' := by
  cases hl with
  | raised =>
    obtain rfl | rfl := eq_of_answer_error ha
    · exact h.abandon
    · exact h.over gitUrl
  | begin => cases ha
  | found =>
    cases input with
    | go =>
      obtain ⟨rfl,-⟩ := Prod.mk.inj (Option.some.inj ha)
      exact h
    | _ => cases ha
  | absent =>
    cases input with
    | go =>
      obtain ⟨rfl,hx⟩ := Prod.mk.inj (Option.some.inj ha)
      exact { h with fits := (Listing.exists_eq_false.mp (Except.ok.inj hx)) }
    | _ => cases ha
  | read =>
    cases input with
    | go =>
      obtain ⟨rfl,hx⟩ := Prod.mk.inj (Option.some.inj ha)
      exact { h with fits := Listing.read_eq_ok.mp hx }
    | _ => cases ha
  | truncateFirst =>
    cases input with
    | go =>
      cases ha
      have hgood : Good digest urls { s with listing := .empty } .empty :=
        good_empty (h.absent h.fits)
      exact ⟨(fun _ hl => nomatch hl),(fun hl => nomatch hl),h.held,h.alone,rfl,hgood⟩
    | _ => cases ha
  | @truncate repos url hurl =>
    cases input with
    | go =>
      cases ha
      obtain ⟨hlisting,url',hurl',hclone,hfree⟩ := h.fits
      obtain rfl := Except.ok.inj (hurl.symm.trans hurl')
      have hgood := (h.listed repos hlisting).set hclone hfree (hurls url hurl)
      exact ⟨(fun _ hl => nomatch hl),(fun hl => nomatch hl),h.held,h.alone,rfl,hgood.named,
        hgood.free,hgood.kept⟩
    | _ => cases ha
  | write =>
    cases input with
    | go =>
      cases ha
      obtain ⟨-,hgood⟩ := h.fits
      refine ⟨?_,(fun hl => nomatch hl),h.held,h.alone,rfl⟩
      rintro _ ⟨⟩
      exact ⟨hgood.named,hgood.free,hgood.kept⟩
    | _ => cases ha
  | @cloning repos url localName =>
    cases input <;> cases ha
    have hurl := Unlisted.asked hr
    obtain ⟨_,⟨⟩,-,hnone,rfl⟩ := hr
    exact h.begins hinj hurl (hurls url hurl) hnone halone
  | @cloned repos url localName =>
    cases input with
    | code succeeded =>
      cases succeeded with
      | true =>
        obtain ⟨-,hpair⟩ := Option.ite_none_right_eq_some.mp ha
        cases hpair
        have hurl := Cloning.asked hr
        obtain ⟨_,⟨⟩,-,hnone,rfl⟩ := hr
        exact h.completes hinj hurl (hurls url hurl) hnone
      | false => cases ha
    | cleaned =>
      obtain ⟨-,hpair⟩ := Option.ite_none_right_eq_some.mp ha
      cases hpair
    | _ => cases ha
  | @uncloned stage url localName =>
    have hmem := hurls url (Cloning.asked hr)
    obtain ⟨repos,hstage,-,hnone,rfl⟩ := hr
    obtain rfl : stage = .cloning repos := hstage
    cases input with
    | code succeeded =>
      cases succeeded with
      | true =>
        obtain ⟨-,hpair⟩ := Option.ite_none_right_eq_some.mp ha
        cases hpair
      | false =>
        cases ha
        -- the directory stays as it is
        have hsame : s.setClone (digest url) (s.clones (digest url)) = s := by
          unfold State.setClone
          rw [Function.update_eq_self]
        have hfails := h.fails hinj hmem hnone (s.clones (digest url))
        rwa [hsame] at hfails
    | cleaned =>
      obtain ⟨-,hpair⟩ := Option.ite_none_right_eq_some.mp ha
      cases hpair
      exact h.fails hinj hmem hnone none
    | _ => cases ha
  | obtained =>
    cases input with
    | go =>
      cases ha
      obtain ⟨rfl,repos,url,localName,hstage,hurl,hvalue,rfl⟩ := hr
      obtain rfl : stage = .listed repos := hstage
      exact h.obtains hurl hvalue
    | _ => cases ha
  | finish =>
    cases input with
    | go =>
      cases ha
      exact (h.over gitUrl).shrinks ⟨rfl,fun _ ho => ho,.inl rfl⟩ rfl h.alone trivial
    | _ => cases ha
  | quiet hquiet =>
    cases r with
    | rmtree localName =>
      obtain ⟨url,hnew⟩ := hr
      have hurl := Unlisted.asked hnew
      obtain ⟨repos,rfl,-,hnone,rfl⟩ := hnew
      cases input <;> cases ha
      refine h.works hinj (hurls url hurl) h.fits hnone _ _ (fun o ho => ?_) h.fits
      obtain rfl := Option.some.inj ho
      rfl
    | rmtreeEnd localName =>
      obtain ⟨url,hnew⟩ := hr
      have hurl := Unlisted.asked hnew
      obtain ⟨repos,rfl,-,hnone,rfl⟩ := hnew
      cases input <;> cases ha
      exact h.works hinj (hurls url hurl) h.fits hnone none none nofun h.fits
    | setLastUpdated localName now =>
      cases input <;> cases ha
      exact h.shrinks ⟨rfl,fun _ ho => ho,.inl rfl⟩ rfl h.alone
        (h.fits.shrinks ⟨rfl,fun _ ho => ho,.inl rfl⟩ rfl fun _ ho => ho)
    | reportJobLog message =>
      cases input <;> cases ha
      exact h
    | cloneExists localName =>
      cases input <;> cases ha
      exact h
    | fetch localName =>
      cases input <;> cases ha
      exact h
    | lastUpdated localName =>
      cases input <;> cases ha
      exact h
    | now =>
      cases input <;> cases ha
      exact h
    | _ => cases hquiet

def requested? : Task Request Request.Answer TaskError → Option Request
  | .active (.await r _) => some r
  | _ => none

/-- Only one process uses the directory, the URLs that are asked for are some of `urls`, and no clone
is begun while an orphan is at work on its directory. -/
def OneBuilder (urls : List String) (p : Runs) : RunEvent → Prop
  | .start _ job => job.process = 0 ∧
      ∀ url, canonicalizeGitUrl job.gitUrl = .ok url → url ∈ urls
  | .resume k i _ => ∀ r ∈ requested? (p.task (k,i)), Alone p.shared r
  | _ => True

variable (digest repoDir urls) in
structure Inv (s : State) (calls : ℕ → Option (Call Job Unit)) (g : ℕ × Unit → Option Phase) :
    Prop where
  base : Local digest repoDir urls s "" .over
  fits : ∀ k t, g (k,()) = some t → s.running 0 = some k → Fits digest urls s t.gitUrl t.stage
  jobs : ∀ k call, calls k = some call → call.args.process = 0 ∧
    ∀ url, canonicalizeGitUrl call.args.gitUrl = .ok url → url ∈ urls
  asked : ∀ k t call, g (k,()) = some t → calls k = some call → t.gitUrl = call.args.gitUrl
  alone : ∀ n, n ≠ 0 → s.running n = none

lemma Inv.local {calls : ℕ → Option (Call Job Unit)} {g : ℕ × Unit → Option Phase}
    (hi : Inv digest repoDir urls s calls g) {k : ℕ} {t : Phase} (hg : g (k,()) = some t)
    (hrunning : s.running 0 = some k) : Local digest repoDir urls s t.gitUrl t.stage :=
  { hi.base with fits := hi.fits k t hg hrunning }

theorem upholds (hinj : Set.InjOn digest {url | url ∈ urls}) :
    (builders digest repoDir).Upholds (protocol digest repoDir) Anyhow firstPhase
      (OneBuilder urls) (Inv digest repoDir urls) where
  body job _ := work_follows job
  starts := by
    intro p g k args _ hi hc _ hnone
    refine ⟨hi.base,hi.fits,?_,?_,hi.alone⟩
    · intro k' call hcall
      by_cases hk : k' = k
      · subst hk
        rw [Function.update_self] at hcall
        cases hcall
        exact hc
      · rw [Function.update_of_ne hk] at hcall
        exact hi.jobs k' call hcall
    · intro k' t call hg hcall
      have hk : k' ≠ k := by
        rintro rfl
        rw [hnone] at hg
        cases hg
      rw [Function.update_of_ne hk] at hcall
      exact hi.asked k' t call hg hcall
  selects := by
    intro p g k args _ hi _ hcall hnone
    refine ⟨hi.base,?_,?_,?_,hi.alone⟩
    · intro k' t hg hrunning
      rcases spawned_cases hnone hg with ⟨-,-,rfl⟩ | ⟨-,hg⟩
      · trivial
      · exact hi.fits k' t hg hrunning
    · intro k' call hcall'
      by_cases hk : k' = k
      · subst hk
        rw [Function.update_self] at hcall'
        cases hcall'
        exact hi.jobs k' ⟨args,none⟩ hcall
      · rw [Function.update_of_ne hk] at hcall'
        exact hi.jobs k' call hcall'
    · intro k' t call hg hcall'
      rcases spawned_cases hnone hg with ⟨rfl,-,rfl⟩ | ⟨hk,hg⟩
      · rw [Function.update_self] at hcall'
        cases hcall'
        rfl
      · rw [Function.update_of_ne hk] at hcall'
        exact hi.asked k' t call hg hcall'
  resumes := by
    rintro p g k ⟨⟩ input call r c s x t _ hi hc hcall hactive hg hr hexec
    obtain ⟨hprocess,hurls⟩ := hi.jobs k call hcall
    have hexec' : exec call.args.process k r p.shared input = some (s,x) := hexec
    rw [hprocess] at hexec'
    have hasked : ∀ (t' : Phase), t'.gitUrl = t.gitUrl → ∀ k' t'' call',
        Function.update g (k,()) (some t') (k',()) = some t'' → p.calls k' = some call' →
        t''.gitUrl = call'.args.gitUrl := by
      intro t' hurl k' t'' call' hg' hcall'
      by_cases hk : k' = k
      · subst hk
        rw [Function.update_self] at hg'
        cases hg'
        exact hurl.trans (hi.asked k' t call' hg hcall')
      · rw [Function.update_of_ne (by simpa using hk)] at hg'
        exact hi.asked k' t'' call' hg' hcall'
    by_cases hbegin : r = .begin
    · subst hbegin
      obtain ⟨-,hpair⟩ := Option.ite_none_right_eq_some.mp hexec'
      cases hpair
      have hwaiting : t.stage = .waiting := hr
      have hbase : Local digest repoDir urls (p.shared.setRunning 0 (some k)) "" .over :=
        hi.base.shrinks ⟨rfl,fun _ ho => ho,.inl rfl⟩ rfl hi.base.alone trivial
      refine ⟨⟨t.gitUrl,.begun⟩,⟨rfl,hwaiting ▸ .begin⟩,hbase,?_,hi.jobs,
        hasked _ rfl,fun n hn => (Function.update_of_ne hn _ _).trans (hi.alone n hn)⟩
      intro k' t' hg' hrunning
      obtain rfl := Option.some.inj ((running_setRunning_self p.shared 0 _).symm.trans hrunning)
      rw [Function.update_self] at hg'
      cases hg'
      trivial
    · obtain ⟨hrunning,hanswer⟩ := answer_of_exec hbegin hexec'
      obtain ⟨stage,hleads⟩ := leads_of_answer hr hanswer
      have hurl := hi.asked k t call hg hcall
      have halone : Alone p.shared r := hc r (by rw [hactive]; rfl)
      have hlocal := (hi.local hg hrunning).step hinj (hurl ▸ hurls) halone hr hleads hanswer
      refine ⟨⟨t.gitUrl,stage⟩,⟨rfl,hleads⟩,hlocal.over "",?_,hi.jobs,hasked _ rfl,
        fun n hn => none_of_none (fun k => running_of_answer hanswer) (hi.alone n hn)⟩
      intro k' t' hg' hrunning'
      obtain rfl := Option.some.inj (hrunning.symm.trans (running_of_answer hanswer hrunning'))
      rw [Function.update_self] at hg'
      cases hg'
      exact hlocal.fits
  cancels := by
    intro p g k i args items t _ hi _ _ hcancels
    cases hcancels
  others := by
    intro p g e s _ hi _ happens
    obtain ⟨hlisting,hobtained,hrunning⟩ := same_of_happen happens
    obtain ⟨hshrinks,hdoing⟩ := working_of_happen happens
    have halone : ∀ n, n ≠ 0 → s.doing n = none := fun n hn => hdoing n (hi.base.alone n hn)
    refine ⟨hi.base.shrinks hshrinks hlisting halone trivial,?_,hi.jobs,hi.asked,
      fun m hm => none_of_none (hrunning m) (hi.alone m hm)⟩
    intro k t hg hk
    refine (hi.fits k t hg (hrunning 0 k hk)).shrinks hshrinks hlisting ?_
    exact orphans_of_happen hi.base.alone happens hk

lemma inv_of_initial (h : Initial s) :
    Inv digest repoDir urls s (fun _ => none) fun _ => none := by
  obtain ⟨hlisting,hrunning,hobtained,hdoing,-⟩ := h
  refine ⟨⟨?_,fun _ => hobtained,?_,fun n _ => hdoing n,trivial⟩,(fun _ _ hg => nomatch hg),
    (fun _ _ hc => nomatch hc),(fun _ _ _ hg => nomatch hg),fun n _ => hrunning n⟩
  · intro repos hl
    rw [hlisting] at hl
    cases hl
  · intro e he
    rw [hobtained] at he
    cases he

/-- What a task of the only builder was given is the clone of the repository that it asked for, and
it is there from then on, wherever the builder is killed. -/
theorem held_of_obtained (hinj : Set.InjOn digest {url | url ∈ urls}) {p : Runs}
    (h : (machine digest repoDir).ReachableBy (OneBuilder urls) p) {gitUrl path : String}
    (hobtained : (gitUrl,path) ∈ p.shared.obtained) : Held digest repoDir p.shared gitUrl path := by
  obtain ⟨g,-,hi⟩ := (upholds hinj).reachable (fun _ => inv_of_initial) h
  exact (hi.base.held _ hobtained).1

instance (s : State) (r : Request) : Decidable (Alone s r) := by
  unfold Alone
  split <;> infer_instance

instance (p : Runs) (e : RunEvent) : Decidable (OneBuilder urls p e) :=
  match e with
  | .start _ job =>
    have : Decidable (∀ url, canonicalizeGitUrl job.gitUrl = .ok url → url ∈ urls) :=
      match canonicalizeGitUrl job.gitUrl with
      | .error _ => .isTrue nofun
      | .ok url => decidable_of_iff (url ∈ urls) (by simp)
    inferInstanceAs (Decidable (_ ∧ _))
  | .resume k i _ =>
    inferInstanceAs (Decidable (∀ r ∈ requested? (p.task (k,i)), Alone p.shared r))
  | .select _ => .isTrue trivial
  | .enter _ _ => .isTrue trivial
  | .cancel _ _ => .isTrue trivial
  | .other _ => .isTrue trivial

end One

def resumes (k : ℕ) (inputs : List Input) : List RunEvent := inputs.map (.resume k ())

/-- A task of the process, up to the request that its last input answers. -/
def task (k process : ℕ) (inputs : List Input) : List RunEvent :=
  .start k ⟨process,"url"⟩ :: .select k :: .enter k () :: resumes k inputs

/-- The list is made and written, or read. -/
def made : List Input := [.go,.go,.go,.go]

def read : List Input := [.go,.go,.go]

/-- The clone is begun, where the directory is free. -/
def cloning : List Input := [.go,.go,.go]

/-- The rest of another clone is removed first. -/
def recloning : List Input := [.go,.go,.go,.go,.go]

/-- The job is cancelled, and the task ends. -/
def cancelled : List Input := [.raises (pyError "asyncio.exceptions.CancelledError"),.go]

/-- The clone is made, listed and obtained. -/
def noted : List Input := [.code true,.go,.go,.go,.go]

/-- The clone that the list names is obtained, and it needs no update. -/
def usedAgain : List Input := [.go,.time 0,.go,.go]

def emptyDirectory : State :=
  ⟨.absent,fun _ => none,fun _ _ => none,fun _ => none,[],fun _ => none,[]⟩

lemma emptyDirectory_init : (machine id "/mnt/repo").init (Pool.idle emptyDirectory) :=
  ⟨emptyDirectory,⟨rfl,fun _ => rfl,rfl,fun _ => rfl,rfl⟩,rfl⟩

/-- The clone of a cancelled job fails by itself before the next job clones the repository; the
builder is killed while that job goes on, and the last job uses the clone again. -/
theorem held_of_obtained_killed : ∃ p : Runs, p.shared.orphans.length = 0 ∧
    (p.shared.obtained.filter (· = ("url","/mnt/repo/url"))).length = 2 ∧
    Held id "/mnt/repo" p.shared "url" "/mnt/repo/url" := by
  obtain ⟨p,hp,htest⟩ := Machine.exists_of_replay (machine id "/mnt/repo") (OneBuilder ["url"])
    (task 0 0 (made ++ cloning ++ cancelled) ++ [.other (.orphan 0 .fails)] ++
      task 1 0 (read ++ cloning ++ noted) ++ [.other (.crash 0)] ++
      task 2 0 (read ++ usedAgain))
    (fun p => p.shared.orphans.length = 0 &&
      (p.shared.obtained.filter (· = ("url","/mnt/repo/url"))).length = 2)
    emptyDirectory_init (by decide +kernel)
  obtain ⟨horphans,htwice⟩ := Bool.and_eq_true_iff.mp htest
  have htwo := of_decide_eq_true htwice
  have hobtained : ("url","/mnt/repo/url") ∈ p.shared.obtained := by
    obtain ⟨e,he⟩ := List.exists_mem_of_length_pos (htwo ▸ Nat.two_pos)
    obtain ⟨hmem,heq⟩ := List.mem_filter.mp he
    exact of_decide_eq_true heq ▸ hmem
  exact ⟨p,of_decide_eq_true horphans,htwo,
    held_of_obtained Function.injective_id.injOn hp hobtained⟩

lemma canonicalizeGitUrl_url : canonicalizeGitUrl "url" = .ok "url" := by
  have hlast : "url".toList.getLast? = some 'l' := by decide
  rw [canonicalizeGitUrl,hlast]
  exact congrArg Except.ok (if_neg (by decide))

/-- A run after which the clone that a job has obtained is not there. -/
lemma not_held {s : State} (h : s.clones "url" ≠ some (.complete "url")) :
    ¬Held id "/mnt/repo" s "url" "/mnt/repo/url" := by
  rintro ⟨url,hurl,-,hclone⟩
  obtain rfl := Except.ok.inj (canonicalizeGitUrl_url.symm.trans hurl)
  exact h hclone

/-- Another builder, which has read the list before, removes a clone that a job has obtained. -/
theorem obtained_removed : ∃ p : Runs, (machine id "/mnt/repo").Reachable p ∧
    ("url","/mnt/repo/url") ∈ p.shared.obtained ∧
    ¬Held id "/mnt/repo" p.shared "url" "/mnt/repo/url" := by
  obtain ⟨p,hp,htest⟩ := Machine.exists_of_replay (machine id "/mnt/repo") (fun _ _ => True)
    (task 0 0 made ++ task 1 1 (read ++ [.go]) ++ resumes 0 (cloning ++ noted) ++
      resumes 1 [.go,.go])
    (fun p => ("url","/mnt/repo/url") ∈ p.shared.obtained &&
      p.shared.clones "url" ≠ some (.complete "url")) emptyDirectory_init (by decide +kernel)
  obtain ⟨hobtained,hremoved⟩ := Bool.and_eq_true_iff.mp htest
  exact ⟨p,hp,of_decide_eq_true hobtained,not_held (of_decide_eq_true hremoved)⟩

/-- The next job of the only builder clones beside the git of the cancelled one, which fails in the
end and takes the listed clone with it. -/
theorem obtained_taken : ∃ p : Runs, (machine id "/mnt/repo").Reachable p ∧
    ("url","/mnt/repo/url") ∈ p.shared.obtained ∧
    ¬Held id "/mnt/repo" p.shared "url" "/mnt/repo/url" := by
  obtain ⟨p,hp,htest⟩ := Machine.exists_of_replay (machine id "/mnt/repo") (fun _ _ => True)
    (task 0 0 (made ++ cloning ++ cancelled) ++ task 1 0 (read ++ recloning ++ noted) ++
      [.other (.orphan 0 .fails)])
    (fun p => ("url","/mnt/repo/url") ∈ p.shared.obtained &&
      p.shared.clones "url" ≠ some (.complete "url")) emptyDirectory_init (by decide +kernel)
  obtain ⟨hobtained,htaken⟩ := Bool.and_eq_true_iff.mp htest
  exact ⟨p,hp,of_decide_eq_true hobtained,not_held (of_decide_eq_true htaken)⟩

end LiveKBench.KBuilder.Repositories
