import LiveKBench.Lib.Machine

/-! One machine refines another where each of its steps is a step of the other or none at all. A run
of the first is then a run of the second, with the same events as far as the second has them. -/
namespace LiveKBench.Lib.Machine
variable {σ ε τ δ : Type*} {M : Machine σ ε} {N : Machine τ δ} {C : σ → ε → Prop}

/-- `R` is kept by the steps of `M` and the steps of `N` that `act` names for them. -/
structure Refines (M : Machine σ ε) (C : σ → ε → Prop) (N : Machine τ δ)
    (act : σ → ε → Option δ) (R : σ → τ → Prop) : Prop where
  init : ∀ s, M.init s → ∃ t, N.init t ∧ R s t
  quiet : ∀ s e s' t, R s t → C s e → M.step s e = some s' → act s e = none → R s' t
  acts : ∀ s e s' t d, R s t → C s e → M.step s e = some s' → act s e = some d →
    ∃ t', N.step t d = some t' ∧ R s' t'

/-- The events of the refined machine that a history stands for, the newest first. -/
def acted (act : σ → ε → Option δ) (tr : List (σ × ε)) : List δ := tr.filterMap fun p => act p.1 p.2

lemma mem_acted {act : σ → ε → Option δ} {tr : List (σ × ε)} {d : δ} :
    d ∈ acted act tr ↔ ∃ s e, (s,e) ∈ tr ∧ act s e = some d := by
  simp [acted]

variable {act : σ → ε → Option δ} {R : σ → τ → Prop}

/-- Every run is a run of the refined machine. -/
theorem Refines.run (h : Refines M C N act R) {tr : List (σ × ε)} {s : σ} (hr : M.Run C tr s) :
    ∃ tr' t, N.Run (fun _ _ => True) tr' t ∧ R s t ∧ tr'.map Prod.snd = acted act tr := by
  induction hr with
  | start hi =>
    obtain ⟨t,ht,hR⟩ := h.init _ hi
    exact ⟨[],t,.start ht,hR,rfl⟩
  | @next tr s e s' _ hc ht ih =>
    obtain ⟨tr',t,hrun,hR,hmap⟩ := ih
    cases hact : act s e with
    | none =>
      have hsame : acted act ((s,e) :: tr) = acted act tr := by simp [acted,hact]
      exact ⟨tr',t,hrun,h.quiet s e s' t hR hc ht hact,hmap.trans hsame.symm⟩
    | some d =>
      have hmore : acted act ((s,e) :: tr) = d :: acted act tr := by simp [acted,hact]
      obtain ⟨t',hstep,hR'⟩ := h.acts s e s' t d hR hc ht hact
      refine ⟨(t,d) :: tr',t',hrun.next trivial hstep,hR',?_⟩
      rw [hmore,← hmap]
      rfl

/-- What a history holds was done. -/
theorem Run.taken {tr : List (σ × ε)} {s s₀ : σ} {e : ε} (h : M.Run C tr s) (hmem : (s₀,e) ∈ tr) :
    ∃ s₁, M.step s₀ e = some s₁ := by
  induction h with
  | start hi => cases hmem
  | next _ _ ht ih =>
    rcases List.mem_cons.mp hmem with he | hmem
    · cases he
      exact ⟨_,ht⟩
    · exact ih hmem

/-- The part of a run before one of its steps. -/
theorem Run.before {tr : List (σ × ε)} {s s₀ : σ} {e : ε} (h : M.Run C tr s)
    (hmem : (s₀,e) ∈ tr) : ∃ tr₀, M.Run C tr₀ s₀ := by
  induction h with
  | start hi => cases hmem
  | next hr _ _ ih =>
    rcases List.mem_cons.mp hmem with he | hmem
    · cases he
      exact ⟨_,hr⟩
    · exact ih hmem

/-- What every step keeps still holds at the end of the run of all that it held of on the way. -/
theorem Run.keeps {P : σ → Prop} {tr : List (σ × ε)} {s s₀ : σ} {e : ε} (h : M.Run C tr s)
    (hstep : ∀ s e s', M.step s e = some s' → P s → P s') (hmem : (s₀,e) ∈ tr) (hP : P s₀) :
    P s := by
  induction h with
  | start hi => cases hmem
  | next _ _ ht ih =>
    rcases List.mem_cons.mp hmem with he | hmem
    · cases he
      exact hstep _ _ _ ht hP
    · exact hstep _ _ _ ht (ih hmem)

/-- What one step of a run brings about and every step keeps holds at the end. -/
theorem Run.keeps_after {P : σ → Prop} {tr : List (σ × ε)} {s s₀ s₁ : σ} {e : ε}
    (h : M.Run C tr s) (hstep : ∀ s e s', M.step s e = some s' → P s → P s')
    (hmem : (s₀,e) ∈ tr) (htaken : M.step s₀ e = some s₁) (hP : P s₁) : P s := by
  induction h with
  | start hi => cases hmem
  | next _ _ ht ih =>
    rcases List.mem_cons.mp hmem with he | hmem
    · cases he
      obtain rfl := Option.some.inj (htaken.symm.trans ht)
      exact hP
    · exact hstep _ _ _ ht (ih hmem)

end LiveKBench.Lib.Machine
