import LiveKBench.KArenaPipeline.KenvBaseBuilds

/-! What holds between the steps of any number of runs: which driver holds a row, what its status
and its times may be, and how often it is built. -/
namespace LiveKBench.KArenaPipeline
open KArenaDb KArenaDb.KEnvBase
open Lib

namespace Kenv

abbrev Runs := Pool State Args ℕ Request Request.Answer BuildError

/-- The runs on a table that has no row yet. -/
def machine : Machine Runs (Pool.Event Args ℕ Input Other) :=
  populateKenvBaseBuilds.machine fun s => s = ⟨.opened .empty,[]⟩

def buildsOf (kEnvImageId : ℕ) : BuilderCall → Bool
  | .build row => row.kEnvImageId = kEnvImageId
  | _ => false

/-- How often `build` was called for an image. -/
def State.builds (s : State) (kEnvImageId : ℕ) : ℕ := s.asked.countP (buildsOf kEnvImageId)

/-- A driver that won its row and has not written the final state yet. -/
def Phase.Holds (t : Phase) : Prop := t.stage = .claimed ∨ t.stage = .building

/-- The drivers and the rows they hold. -/
structure Held (db : KEnvBaseTable) (g : ℕ × ℕ → Option Phase) : Prop where
  row : ∀ k i t, g (k,i) = some t → t.Holds → ∃ row, db.get? i = some row ∧ row.status = .building
  sole : ∀ k k' i t t', g (k,i) = some t → t.Holds → g (k',i) = some t' → t'.Holds → k = k'
  holder : ∀ i row, db.get? i = some row → row.status = .building → ∃ k t, g (k,i) = some t ∧ t.Holds
  passed : ∀ k i t, g (k,i) = some t → t.stage = .over →
    ∃ row, db.get? i = some row ∧ row.status ≠ .pending

/-- No image is built twice, and none before its driver came to it. -/
structure BuiltOnce (s : State) (g : ℕ × ℕ → Option Phase) : Prop where
  once : ∀ i, s.builds i ≤ 1
  unbuilt : ∀ i, (∀ k t, g (k,i) = some t → t.stage ≠ .building) →
    (∀ row, s.db.current.get? i = some row → ¬Terminal row) → s.builds i = 0

def Present (db : KEnvBaseTable) (i : ℕ) : Prop := ∃ row, db.get? i = some row

/-- What may become of a row: nothing, or it goes from `pending` to `building`, or from there to a
final state, in which it stays. -/
inductive Advances (row : KEnvBaseImage) : KEnvBaseImage → Prop
  | stays : Advances row row
  | claimed (pending : row.status = .pending) : Advances row { row with status := .building }
  | ended {row'} (building : row.status = .building) (final : Terminal row') : Advances row row'

/-- Every row of a table has its successor in another one. -/
def Follow (db db' : KEnvBaseTable) : Prop :=
  ∀ i row, db.get? i = some row → ∃ row', db'.get? i = some row' ∧ Advances row row'

/-- What holds between the steps. -/
structure Inv (s : State) (calls : ℕ → Option (Call Args ℕ)) (g : ℕ × ℕ → Option Phase) : Prop where
  item : ∀ k i t, g (k,i) = some t → t.kEnvImageId = i
  seen : ∀ k i t call, g (k,i) = some t → calls k = some call →
    Present (s.db.view call.args.connection) i
  known : ∀ i row, s.db.committed.get? i = some row →
    ∃ row', s.db.current.get? i = some row' ∧ Relation.ReflTransGen Advances row row'
  held : Held s.db.current g
  builtOnce : BuiltOnce s g
  dated : ∀ i row, s.db.current.get? i = some row → Dated row
  datedCommitted : ∀ i row, s.db.committed.get? i = some row → Dated row

section Tables
variable {db : KEnvBaseTable} {i id : ℕ} {row : KEnvBaseImage} {new : NewState}

lemma Follow.present {db' : KEnvBaseTable} (h : Follow db db') (hi : Present db i) :
    Present db' i := by
  obtain ⟨row,hr⟩ := hi
  obtain ⟨row',hr',-⟩ := h i row hr
  exact ⟨row',hr'⟩

lemma follow_rfl : Follow db db := fun _ row hr => ⟨row,hr,.stays⟩

/-- A row in a final state stays as it is. -/
lemma eq_of_later {row' : KEnvBaseImage} (h : Relation.ReflTransGen Advances row row')
    (ht : Terminal row) : row' = row := by
  induction h with
  | refl => rfl
  | tail _ hstep ih =>
    subst ih
    rw [terminal_iff] at ht
    cases hstep with
    | stays => rfl
    | claimed hp => exact absurd hp ht.1
    | ended hb _ => exact absurd hb ht.2

lemma follow_claim : Follow db (claim id db).1 := by
  intro i row hr
  rw [get?_claim,hr]
  refine ⟨_,rfl,?_⟩
  by_cases hc : claimable id row
  · have hs : row.status = .pending := by
      simp only [claimable,Bool.and_eq_true,decide_eq_true_eq] at hc
      exact hc.2
    simpa [hc] using Advances.claimed hs
  · simpa [hc] using Advances.stays

/-- Where a claim is won, its row is building and the others are as before. -/
lemma get?_claim_won (hrow : db.get? id = some row) (hs : row.status = .pending) :
    (claim id db).1.get? i =
      if i = id then some { row with status := .building } else db.get? i := by
  rw [get?_claim]
  by_cases hi : i = id
  · subst hi
    simp [hrow,claimable,key_of_get? hrow,hs]
  · rw [if_neg hi]
    cases hr : db.get? i with
    | none => rfl
    | some r => simp [claimable,key_of_get? hr,hi]

/-- Where a claim is lost, nothing changes. -/
lemma get?_claim_lost (hlost : ¬0 < (claim id db).2) : (claim id db).1.get? i = db.get? i := by
  rw [get?_claim]
  cases hr : db.get? i with
  | none => rfl
  | some r =>
    have hfalse : claimable id r = false := by
      by_contra hc
      simp only [claimable,Bool.not_eq_false,Bool.and_eq_true,decide_eq_true_eq] at hc
      have hid : i = id := (key_of_get? hr).symm.trans hc.1
      exact hlost (claim_pos.mpr ⟨r,hid ▸ hr,hc.2⟩)
    simp [hfalse]

lemma get?_setState_eq (hrow : db.get? id = some row) :
    (setState id new db).get? i = if i = id then some (new.apply row) else db.get? i := by
  rw [get?_setState]
  by_cases hi : i = id
  · subst hi
    simp [hrow,key_of_get? hrow]
  · rw [if_neg hi]
    cases hr : db.get? i with
    | none => rfl
    | some r => simp [key_of_get? hr,hi]

lemma terminal_apply (hnew : Final new) : Terminal (new.apply row) := by
  cases hnew <;> simp [Terminal,NewState.apply]

lemma follow_setState (hrow : db.get? id = some row) (hs : row.status = .building)
    (hnew : Final new) : Follow db (setState id new db) := by
  intro i r hr
  rw [get?_setState_eq hrow]
  by_cases hi : i = id
  · subst hi
    rw [hrow] at hr
    cases hr
    exact ⟨_,if_pos rfl,.ended hs (terminal_apply hnew)⟩
  · exact ⟨r,by rw [if_neg hi,hr],.stays⟩

/-- A final state dates a row that was building. -/
lemma dated_apply (hnew : Final new) (hrow : Dated row) (hs : row.status = .building) :
    Dated (new.apply row) := by
  have htimes : row.builtTime = none ∧ row.pushedTime = none := by simpa [Dated,hs] using hrow
  cases hnew <;> simp [Dated,NewState.apply,htimes]

end Tables

section Phases
variable {g : ℕ × ℕ → Option Phase} {k k' i i' : ℕ} {t t' : Phase} {db db' : KEnvBaseTable}
  {row : KEnvBaseImage}

lemma Held.of_get? (h : Held db g) (hdb : ∀ j, db.get? j = db'.get? j) : Held db' g := by
  constructor
  · intro k i t hg hh
    exact hdb i ▸ h.row k i t hg hh
  · exact h.sole
  · intro i row hr
    exact h.holder i row ((hdb i).trans hr)
  · intro k i t hg ho
    exact hdb i ▸ h.passed k i t hg ho

lemma phase_update (h : Function.update g (k,i) (some t) (k',i') = some t') :
    ((k',i') = (k,i) ∧ t' = t) ∨ ((k',i') ≠ (k,i) ∧ g (k',i') = some t') := by
  by_cases hki : (k',i') = (k,i)
  · rw [hki,Function.update_self] at h
    exact .inl ⟨hki,(Option.some.inj h).symm⟩
  · rw [Function.update_of_ne hki] at h
    exact .inr ⟨hki,h⟩

/-- A driver that wins its row becomes its one holder. -/
lemma Held.claimed (h : Held db g) (hg : g (k,i) = some t) (hrow : db.get? i = some row)
    (hs : row.status = .pending)
    (hdb : ∀ j, db'.get? j = if j = i then some { row with status := .building } else db.get? j) :
    Held db' (Function.update g (k,i) (some ⟨t.kEnvImageId,.claimed⟩)) := by
  have hfree : ∀ k' t', g (k',i) = some t' → ¬t'.Holds := by
    intro k' t' hg' hh
    obtain ⟨r,hr,hb⟩ := h.row k' i t' hg' hh
    rw [hrow] at hr
    cases hr
    simp [hs] at hb
  constructor
  · intro k₁ j t₁ h₁ hh
    rw [hdb j]
    rcases phase_update h₁ with ⟨he,rfl⟩ | ⟨-,hold⟩
    · cases he
      exact ⟨_,if_pos rfl,rfl⟩
    · have hj : j ≠ i := by
        rintro rfl
        exact hfree k₁ t₁ hold hh
      rw [if_neg hj]
      exact h.row k₁ j t₁ hold hh
  · intro k₁ k₂ j t₁ t₂ h₁ hh₁ h₂ hh₂
    rcases phase_update h₁ with ⟨he₁,-⟩ | ⟨-,h₁⟩
    · rcases phase_update h₂ with ⟨he₂,-⟩ | ⟨-,h₂⟩
      · cases he₁
        cases he₂
        rfl
      · cases he₁
        exact absurd hh₂ (hfree k₂ t₂ h₂)
    · rcases phase_update h₂ with ⟨he₂,-⟩ | ⟨-,h₂⟩
      · cases he₂
        exact absurd hh₁ (hfree k₁ t₁ h₁)
      · exact h.sole k₁ k₂ j t₁ t₂ h₁ hh₁ h₂ hh₂
  · intro j r hr hb
    by_cases hj : j = i
    · subst hj
      exact ⟨k,_,Function.update_self _ _ _,.inl rfl⟩
    · rw [hdb j,if_neg hj] at hr
      obtain ⟨k₁,t₁,h₁,hh⟩ := h.holder j r hr hb
      exact ⟨k₁,t₁,by rw [Function.update_of_ne (by simp [hj]),h₁],hh⟩
  · intro k₁ j t₁ h₁ hover
    rw [hdb j]
    rcases phase_update h₁ with ⟨-,rfl⟩ | ⟨-,h₁⟩
    · cases hover
    · obtain ⟨r,hr,hp⟩ := h.passed k₁ j t₁ h₁ hover
      have hj : j ≠ i := by
        rintro rfl
        rw [hrow] at hr
        cases hr
        exact hp hs
      rw [if_neg hj]
      exact ⟨r,hr,hp⟩

/-- A holder that writes the final state gives its row up. -/
lemma Held.finished (h : Held db g) (hg : g (k,i) = some t) (hh : t.Holds)
    (hrow : Terminal row) (hdb : ∀ j, db'.get? j = if j = i then some row else db.get? j) :
    Held db' (Function.update g (k,i) (some ⟨t.kEnvImageId,.over⟩)) := by
  have hsole : ∀ k' t', g (k',i) = some t' → t'.Holds → k' = k :=
    fun k' t' hg' hh' => h.sole k' k i t' t hg' hh' hg hh
  have hnot : ¬(⟨t.kEnvImageId,.over⟩ : Phase).Holds := by simp [Phase.Holds]
  rw [terminal_iff] at hrow
  constructor
  · intro k₁ j t₁ h₁ hh₁
    rcases phase_update h₁ with ⟨-,rfl⟩ | ⟨hne,hold⟩
    · exact absurd hh₁ hnot
    · have hj : j ≠ i := by
        rintro rfl
        exact hne (by rw [hsole k₁ t₁ hold hh₁])
      rw [hdb j,if_neg hj]
      exact h.row k₁ j t₁ hold hh₁
  · intro k₁ k₂ j t₁ t₂ h₁ hh₁ h₂ hh₂
    rcases phase_update h₁ with ⟨-,rfl⟩ | ⟨-,h₁⟩
    · exact absurd hh₁ hnot
    · rcases phase_update h₂ with ⟨-,rfl⟩ | ⟨-,h₂⟩
      · exact absurd hh₂ hnot
      · exact h.sole k₁ k₂ j t₁ t₂ h₁ hh₁ h₂ hh₂
  · intro j r hr hb
    rw [hdb j] at hr
    by_cases hj : j = i
    · rw [if_pos hj] at hr
      cases hr
      exact absurd hb hrow.2
    · rw [if_neg hj] at hr
      obtain ⟨k₁,t₁,h₁,hh₁⟩ := h.holder j r hr hb
      exact ⟨k₁,t₁,by rw [Function.update_of_ne (by simp [hj]),h₁],hh₁⟩
  · intro k₁ j t₁ h₁ hover
    rw [hdb j]
    by_cases hj : j = i
    · exact ⟨row,if_pos hj,hrow.1⟩
    · rw [if_neg hj]
      rcases phase_update h₁ with ⟨he,-⟩ | ⟨-,h₁⟩
      · cases he
        exact absurd rfl hj
      · exact h.passed k₁ j t₁ h₁ hover

/-- A driver goes on without a change of what it holds. -/
lemma Held.moved (h : Held db g) {u : Phase} (hg : g (k,i) = some t) (hholds : u.Holds ↔ t.Holds)
    (hover : u.stage = .over → ∃ row, db.get? i = some row ∧ row.status ≠ .pending) :
    Held db (Function.update g (k,i) (some u)) := by
  have hback : ∀ k₁ j t₁, Function.update g (k,i) (some u) (k₁,j) = some t₁ → t₁.Holds →
      ∃ t₂, g (k₁,j) = some t₂ ∧ t₂.Holds := by
    intro k₁ j t₁ h₁ hh₁
    rcases phase_update h₁ with ⟨he,rfl⟩ | ⟨-,h₁⟩
    · cases he
      exact ⟨t,hg,hholds.mp hh₁⟩
    · exact ⟨t₁,h₁,hh₁⟩
  constructor
  · intro k₁ j t₁ h₁ hh₁
    obtain ⟨t₂,h₂,hh₂⟩ := hback k₁ j t₁ h₁ hh₁
    exact h.row k₁ j t₂ h₂ hh₂
  · intro k₁ k₂ j t₁ t₂ h₁ hh₁ h₂ hh₂
    obtain ⟨t₃,h₃,hh₃⟩ := hback k₁ j t₁ h₁ hh₁
    obtain ⟨t₄,h₄,hh₄⟩ := hback k₂ j t₂ h₂ hh₂
    exact h.sole k₁ k₂ j t₃ t₄ h₃ hh₃ h₄ hh₄
  · intro j r hr hb
    obtain ⟨k₁,t₁,h₁,hh₁⟩ := h.holder j r hr hb
    by_cases he : (k₁,j) = (k,i)
    · cases he
      rw [hg] at h₁
      cases h₁
      exact ⟨k,u,Function.update_self _ _ _,hholds.mpr hh₁⟩
    · exact ⟨k₁,t₁,by rw [Function.update_of_ne he,h₁],hh₁⟩
  · intro k₁ j t₁ h₁ ho
    rcases phase_update h₁ with ⟨he,rfl⟩ | ⟨-,h₁⟩
    · cases he
      exact hover ho
    · exact h.passed k₁ j t₁ h₁ ho

end Phases

section Requests
variable {s : State} {calls : ℕ → Option (Call Args ℕ)} {g : ℕ × ℕ → Option Phase} {k i c : ℕ}
  {t t' : Phase} {call : Call Args ℕ} {db' : Shared KEnvBaseTable}

lemma Inv.present (h : Inv s calls g) (hv : Present (s.db.view c) i) : Present s.db.current i := by
  obtain ⟨row,hr⟩ := hv
  rcases s.db.view_eq c with he | he
  · exact ⟨row,he ▸ hr⟩
  · obtain ⟨row',hr',-⟩ := h.known i row (he ▸ hr)
    exact ⟨row',hr'⟩

/-- No connection loses a row from its sight when a statement keeps the rows. -/
lemma view_executes {α : Type} {f : KEnvBaseTable → KEnvBaseTable × α} {a : α}
    (hx : s.db.Executes c f db' a) (hf : Follow s.db.current (f s.db.current).1) {c' j : ℕ}
    (hv : Present (s.db.view c') j) : Present (db'.view c') j := by
  rw [hx.view_eq]
  by_cases hc : c = c'
  · subst hc
    rw [if_pos rfl,hx.current]
    exact hf.present (hx.view ▸ hv)
  · rw [if_neg hc]
    exact hv

lemma Inv.known_executes (h : Inv s calls g) {α : Type} {f : KEnvBaseTable → KEnvBaseTable × α}
    {a : α} (hx : s.db.Executes c f db' a) (hf : Follow s.db.current (f s.db.current).1) :
    ∀ i row, db'.committed.get? i = some row →
      ∃ row', db'.current.get? i = some row' ∧ Relation.ReflTransGen Advances row row' := by
  intro i row hr
  obtain ⟨row',hr',hlater⟩ := h.known i row (hx.committed ▸ hr)
  obtain ⟨row'',hr'',hstep⟩ := hf i row' hr'
  exact ⟨row'',hx.current ▸ hr'',hlater.tail hstep⟩

lemma Inv.view_commit (h : Inv s calls g) {c' j : ℕ} (hv : Present (s.db.view c') j) :
    Present ((s.db.commit c).view c') j := by
  rcases s.db.view_commit c c' with he | ⟨he,-⟩
  · exact he ▸ hv
  · exact he ▸ h.present hv

/-- The rows that the call of a task sees. -/
lemma Inv.seen_update (h : Inv s calls g) (hg : g (k,i) = some t)
    {seen : ℕ → ℕ → Prop} (hseen : ∀ c' j, Present (s.db.view c') j → seen c' j) :
    ∀ k' j t₁ call, Function.update g (k,i) (some t') (k',j) = some t₁ → calls k' = some call →
      seen call.args.connection j := by
  intro k' j t₁ call h₁ hcall
  rcases phase_update h₁ with ⟨he,-⟩ | ⟨-,h₁⟩
  · cases he
    exact hseen _ _ (h.seen k i t call hg hcall)
  · exact hseen _ _ (h.seen k' j t₁ call h₁ hcall)

lemma Inv.item_update (h : Inv s calls g) (hg : g (k,i) = some t)
    (hid : t'.kEnvImageId = t.kEnvImageId) :
    ∀ k' j t₁, Function.update g (k,i) (some t') (k',j) = some t₁ → t₁.kEnvImageId = j := by
  intro k' j t₁ h₁
  rcases phase_update h₁ with ⟨he,rfl⟩ | ⟨-,h₁⟩
  · cases he
    exact hid.trans (h.item k i t hg)
  · exact h.item k' j t₁ h₁

/-- The count of builds stands while no driver starts one. -/
lemma BuiltOnce.moved {s' : State} (h : BuiltOnce s g) (hasked : s'.asked = s.asked)
    (hg : g (k,i) = some t)
    (hover : t.stage = .building → t'.stage = .building ∨
      ∃ row, s'.db.current.get? i = some row ∧ Terminal row)
    (hrows : ∀ j row, s.db.current.get? j = some row → Terminal row →
      ∃ row', s'.db.current.get? j = some row' ∧ Terminal row') :
    BuiltOnce s' (Function.update g (k,i) (some t')) := by
  have hbuilds : ∀ j, s'.builds j = s.builds j := by
    intro j
    rw [State.builds,State.builds,hasked]
  refine ⟨fun j => (hbuilds j).trans_le (h.once j),fun j hnone hopen => ?_⟩
  rw [hbuilds]
  apply h.unbuilt j
  · intro k' t₁ h₁ hb
    by_cases he : (k',j) = (k,i)
    · cases he
      rw [hg] at h₁
      cases h₁
      rcases hover hb with hb' | ⟨row,hr,hterminal⟩
      · exact hnone k t' (Function.update_self _ _ _) hb'
      · exact hopen row hr hterminal
    · exact hnone k' t₁ (by rw [Function.update_of_ne he,h₁]) hb
  · intro row hr hterminal
    obtain ⟨row',hr',hterminal'⟩ := hrows j row hr hterminal
    exact hopen row' hr' hterminal'

/-- The statement of a claim. -/
lemma Inv.claim (h : Inv s calls g) (hg : g (k,i) = some t) (hstage : t.stage = .waiting) {n : ℕ}
    (hcall : calls k = some call)
    (hx : s.db.Executes call.args.connection (KEnvBase.claim i) db' n) :
    Inv { s with db := db' } calls
      (Function.update g (k,i) (some { t with stage := if 0 < n then .claimed else .over })) := by
  obtain ⟨row,hrow⟩ := h.present (h.seen k i t call hg hcall)
  have hn : 0 < n ↔ row.status = .pending := by
    rw [hx.answer,claim_pos]
    constructor
    · rintro ⟨row',hr',hs⟩
      rw [hrow] at hr'
      cases hr'
      exact hs
    · exact fun hs => ⟨row,hrow,hs⟩
  refine ⟨h.item_update hg rfl,h.seen_update hg (fun c' j => view_executes hx follow_claim),
    h.known_executes hx follow_claim,?_,?_,?_,?_⟩
  · change Held db'.current _
    rw [hx.current]
    by_cases hs : row.status = .pending
    · rw [if_pos (hn.mpr hs)]
      exact h.held.claimed hg hrow hs fun j => get?_claim_won hrow hs
    · have hlost : ¬0 < (KEnvBase.claim i s.db.current).2 := hx.answer ▸ mt hn.mp hs
      rw [if_neg (mt hn.mp hs)]
      have hmoved := h.held.moved (u := ⟨t.kEnvImageId,.over⟩) hg
        (by simp [Phase.Holds,hstage]) (fun _ => ⟨row,hrow,hs⟩)
      exact hmoved.of_get? fun j => (get?_claim_lost hlost).symm
  · refine h.builtOnce.moved rfl hg (by simp [hstage]) ?_
    intro j r hr hterminal
    change ∃ row', db'.current.get? j = some row' ∧ _
    rw [hx.current,get?_claim,hr]
    refine ⟨_,rfl,?_⟩
    have hnot : claimable i r = false := by
      rw [terminal_iff] at hterminal
      simp [claimable,hterminal.1]
    simpa [hnot] using hterminal
  · intro j r hr
    change db'.current.get? j = some r at hr
    rw [hx.current,get?_claim] at hr
    obtain ⟨r₀,hr₀,rfl⟩ := Option.map_eq_some_iff.mp hr
    have hdated := h.dated j r₀ hr₀
    by_cases hc : claimable i r₀
    · have hs : r₀.status = .pending := by
        simp only [claimable,Bool.and_eq_true,decide_eq_true_eq] at hc
        exact hc.2
      simpa [hc,Dated,hs] using hdated
    · simpa [hc] using hdated
  · intro j r hr
    exact h.datedCommitted j r (hx.committed ▸ hr)

/-- The statement that writes a final state. -/
lemma Inv.setState (h : Inv s calls g) (hg : g (k,i) = some t) (hstage : t.stage = .building)
    {new : NewState} (hnew : Final new) {a : Unit}
    (hx : s.db.Executes c (fun db => (KEnvBase.setState i new db,())) db' a) :
    Inv { s with db := db' } calls
      (Function.update g (k,i) (some { t with stage := .over })) := by
  have hholds : t.Holds := .inr hstage
  obtain ⟨row,hrow,hs⟩ := h.held.row k i t hg hholds
  have hdb : ∀ j, db'.current.get? j = if j = i then some (new.apply row) else
      s.db.current.get? j := by
    intro j
    rw [hx.current]
    exact get?_setState_eq hrow
  have hterminal : Terminal (new.apply row) := terminal_apply hnew
  have hfollow := follow_setState hrow hs hnew
  refine ⟨h.item_update hg rfl,h.seen_update hg (fun c' j => view_executes hx hfollow),
    h.known_executes hx hfollow,?_,?_,?_,?_⟩
  · exact h.held.finished hg hholds hterminal hdb
  · refine h.builtOnce.moved rfl hg ?_ ?_
    · exact fun _ => .inr ⟨_,(hdb i).trans (if_pos rfl),hterminal⟩
    · intro j r hr hr'
      by_cases hj : j = i
      · exact ⟨_,(hdb j).trans (if_pos hj),hterminal⟩
      · exact ⟨r,by rw [hdb j,if_neg hj,hr],hr'⟩
  · intro j r hr
    have hr := (hdb j).symm.trans hr
    by_cases hj : j = i
    · rw [if_pos hj] at hr
      cases hr
      exact dated_apply hnew (h.dated i row hrow) hs
    · rw [if_neg hj] at hr
      exact h.dated j r hr
  · intro j r hr
    exact h.datedCommitted j r (hx.committed ▸ hr)

/-- The call of `build`. -/
lemma Inv.invokeBuild (h : Inv s calls g) (hg : g (k,i) = some t) (hstage : t.stage = .claimed)
    {image : KEnvBaseImage} (himage : image.kEnvImageId = i) :
    Inv { s with asked := .build image :: s.asked } calls
      (Function.update g (k,i) (some { t with stage := .building })) := by
  have hholds : t.Holds := .inl hstage
  obtain ⟨row,hrow,hs⟩ := h.held.row k i t hg hholds
  have hbuilds : ∀ j, State.builds { s with asked := .build image :: s.asked } j =
      s.builds j + if j = i then 1 else 0 := by
    intro j
    simp [State.builds,List.countP_cons,buildsOf,himage,eq_comm]
  have hunbuilt : s.builds i = 0 := by
    apply h.builtOnce.unbuilt i
    · intro k' t' hg' hb
      have hk : k' = k := h.held.sole k' k i t' t hg' (.inr hb) hg hholds
      subst hk
      rw [hg] at hg'
      cases hg'
      rw [hstage] at hb
      cases hb
    · intro r hr hterminal
      rw [hrow] at hr
      cases hr
      exact (terminal_iff.mp hterminal).2 hs
  refine ⟨h.item_update hg rfl,h.seen_update hg (fun c' j hv => hv),h.known,?_,?_,h.dated,
    h.datedCommitted⟩
  · exact h.held.moved hg (by simp [Phase.Holds,hstage]) (by simp)
  · refine ⟨fun j => ?_,fun j hnone hopen => ?_⟩
    · rw [hbuilds]
      by_cases hj : j = i
      · subst hj
        simp [hunbuilt]
      · simpa [hj] using h.builtOnce.once j
    · by_cases hj : j = i
      · subst hj
        exact absurd rfl (hnone k _ (Function.update_self _ _ _))
      · rw [hbuilds,if_neg hj,Nat.add_zero]
        apply h.builtOnce.unbuilt j _ hopen
        intro k' t' hg'
        exact hnone k' t' (by rw [Function.update_of_ne (by simp [hj]),hg'])

/-- Another call of the builder. -/
lemma Inv.invoke (h : Inv s calls g) {call : BuilderCall} (hcall : ∀ j, buildsOf j call = false) :
    Inv { s with asked := call :: s.asked } calls g := by
  have hbuilds : ∀ j, State.builds { s with asked := call :: s.asked } j = s.builds j := by
    intro j
    simp [State.builds,hcall]
  exact ⟨h.item,h.seen,h.known,h.held,⟨fun j => (hbuilds j).trans_le (h.builtOnce.once j),
    fun j hnone hopen => (hbuilds j).trans (h.builtOnce.unbuilt j hnone hopen)⟩,h.dated,
    h.datedCommitted⟩

lemma Inv.commit (h : Inv s calls g) : Inv { s with db := s.db.commit c } calls g := by
  have hcommitted : ∀ j row, (s.db.commit c).committed.get? j = some row →
      s.db.current.get? j = some row ∨ s.db.committed.get? j = some row := by
    intro j row hr
    rw [Shared.committed_commit] at hr
    rcases s.db.view_eq c with he | he
    · exact .inl (he ▸ hr)
    · exact .inr (he ▸ hr)
  refine ⟨h.item,?_,?_,?_,?_,?_,?_⟩
  · intro k i t call hg hcall
    exact h.view_commit (h.seen k i t call hg hcall)
  · intro j row hr
    change ∃ row', (s.db.commit c).current.get? j = some row' ∧ _
    rw [Shared.current_commit]
    rcases hcommitted j row hr with hr | hr
    · exact ⟨row,hr,.refl⟩
    · exact h.known j row hr
  · change Held (s.db.commit c).current g
    rw [Shared.current_commit]
    exact h.held
  · refine ⟨h.builtOnce.once,fun j hnone hopen => h.builtOnce.unbuilt j hnone ?_⟩
    simpa using hopen
  · simpa using h.dated
  · intro j row hr
    rcases hcommitted j row hr with hr | hr
    · exact h.dated j row hr
    · exact h.datedCommitted j row hr

/-- An insertion leaves the rows and may add a pending one. -/
lemma get?_submitted (sub : Submission) (db : KEnvBaseTable) (j : ℕ) :
    ((insertKenvBase sub.row db).getD db).get? j = db.get? j ∨
      db.get? j = none ∧ ∃ row, ((insertKenvBase sub.row db).getD db).get? j = some row ∧
        row.status = .pending ∧ Dated row := by
  cases hi : insertKenvBase sub.row db with
  | none => exact .inl rfl
  | some db' =>
    have hget := get?_insertKenvBase hi j
    rw [Option.getD_some]
    by_cases hj : db.last+1 = j
    · subst hj
      rw [if_pos rfl] at hget
      exact .inr ⟨db.get?_fresh,_,hget,rfl,rfl,rfl⟩
    · rw [if_neg hj] at hget
      exact .inl hget

lemma follow_submitted {sub : Submission} {db : KEnvBaseTable} :
    Follow db ((insertKenvBase sub.row db).getD db) := by
  intro j row hr
  rcases get?_submitted sub db j with he | ⟨hnone,-⟩
  · exact ⟨row,he.trans hr,.stays⟩
  · rw [hr] at hnone
    cases hnone

lemma Inv.insert (h : Inv s calls g) {sub : Submission} {a : Unit}
    (hx : s.db.Executes c (fun t => ((insertKenvBase sub.row t).getD t,())) db' a) :
    Inv { s with db := db' } calls g := by
  have hkept : ∀ j row, s.db.current.get? j = some row → db'.current.get? j = some row := by
    intro j row hr
    rw [hx.current]
    rcases get?_submitted sub s.db.current j with he | ⟨hnone,-⟩
    · exact he.trans hr
    · rw [hr] at hnone
      cases hnone
  have hfollow : Follow s.db.current ((insertKenvBase sub.row s.db.current).getD s.db.current) :=
    follow_submitted
  have hnew : ∀ j row, db'.current.get? j = some row →
      s.db.current.get? j = some row ∨ row.status = .pending ∧ Dated row := by
    intro j row hr
    rw [hx.current] at hr
    rcases get?_submitted sub s.db.current j with he | ⟨-,row',hr',hnew⟩
    · exact .inl (he.symm.trans hr)
    · rw [hr'] at hr
      cases hr
      exact .inr hnew
  refine ⟨h.item,fun k i t call hg hcall => view_executes hx hfollow (h.seen k i t call hg hcall),
    h.known_executes hx hfollow,?_,?_,?_,?_⟩
  · constructor
    · intro k i t hg hh
      obtain ⟨row,hr,hs⟩ := h.held.row k i t hg hh
      exact ⟨row,hkept i row hr,hs⟩
    · exact h.held.sole
    · intro i row hr hb
      rcases hnew i row hr with hr | ⟨hp,-⟩
      · exact h.held.holder i row hr hb
      · rw [hp] at hb
        cases hb
    · intro k i t hg ho
      obtain ⟨row,hr,hs⟩ := h.held.passed k i t hg ho
      exact ⟨row,hkept i row hr,hs⟩
  · refine ⟨h.builtOnce.once,fun j hnone hopen => h.builtOnce.unbuilt j hnone ?_⟩
    exact fun row hr => hopen row (hkept j row hr)
  · intro j row hr
    rcases hnew j row hr with hr | ⟨-,hd⟩
    · exact h.dated j row hr
    · exact hd
  · intro j row hr
    exact h.datedCommitted j row (hx.committed ▸ hr)

lemma Inv.start (h : Inv s calls g) {args : Args} (hnone : ∀ i, g (k,i) = none) :
    Inv s (Function.update calls k (some ⟨args,none⟩)) g := by
  refine ⟨h.item,?_,h.known,h.held,h.builtOnce,h.dated,h.datedCommitted⟩
  intro k' i t call hg hcall
  have hk : k' ≠ k := by
    rintro rfl
    rw [hnone] at hg
    cases hg
  rw [Function.update_of_ne hk] at hcall
  exact h.seen k' i t call hg hcall

def firstPhase (_ : Args) (kEnvImageId : ℕ) : Phase := ⟨kEnvImageId,.waiting⟩

/-- The tasks of a call begin where nothing is claimed. -/
lemma Inv.spawn (h : Inv s calls g) {args : Args} (hnone : ∀ i, g (k,i) = none) :
    Inv s
      (Function.update calls k
        (some ⟨args,some (getPendingKenvBaseBuilds (s.db.view args.connection))⟩))
      (Pipeline.spawned firstPhase g k args
        (getPendingKenvBaseBuilds (s.db.view args.connection))) := by
  refine ⟨?_,?_,h.known,?_,?_,h.dated,h.datedCommitted⟩
  · intro k' i t ht
    rcases Pipeline.spawned_cases hnone ht with ⟨-,-,rfl⟩ | ⟨-,hg⟩
    · rfl
    · exact h.item k' i t hg
  · intro k' i t call ht hcall
    rcases Pipeline.spawned_cases hnone ht with ⟨rfl,hi,-⟩ | ⟨hk,hg⟩
    · rw [Function.update_self] at hcall
      cases hcall
      obtain ⟨row,hr,-⟩ := mem_pending.mp hi
      exact ⟨row,hr⟩
    · rw [Function.update_of_ne hk] at hcall
      exact h.seen k' i t call hg hcall
  · constructor
    · intro k' i t ht hh
      rcases Pipeline.spawned_cases hnone ht with ⟨-,-,rfl⟩ | ⟨-,hg⟩
      · simp [Phase.Holds,firstPhase] at hh
      · exact h.held.row k' i t hg hh
    · intro k₁ k₂ i t₁ t₂ h₁ hh₁ h₂ hh₂
      rcases Pipeline.spawned_cases hnone h₁ with ⟨-,-,rfl⟩ | ⟨-,hg₁⟩
      · simp [Phase.Holds,firstPhase] at hh₁
      · rcases Pipeline.spawned_cases hnone h₂ with ⟨-,-,rfl⟩ | ⟨-,hg₂⟩
        · simp [Phase.Holds,firstPhase] at hh₂
        · exact h.held.sole k₁ k₂ i t₁ t₂ hg₁ hh₁ hg₂ hh₂
    · intro i row hr hb
      obtain ⟨k',t,hg,hh⟩ := h.held.holder i row hr hb
      exact ⟨k',t,Pipeline.spawned_of_some hnone hg,hh⟩
    · intro k' i t ht ho
      rcases Pipeline.spawned_cases hnone ht with ⟨-,-,rfl⟩ | ⟨-,hg⟩
      · cases ho
      · exact h.held.passed k' i t hg ho
  · refine ⟨h.builtOnce.once,fun j hn hopen => h.builtOnce.unbuilt j ?_ hopen⟩
    exact fun k' t hg => hn k' t (Pipeline.spawned_of_some hnone hg)

end Requests

end Kenv
end LiveKBench.KArenaPipeline
