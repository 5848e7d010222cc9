import LiveKBench.KCore.RpcDelivery
import Mathlib.Logic.Relation

/-! From every state of a lossless run the calls that wait can still be answered. A request that is
published before its queue exists never is. -/
namespace LiveKBench.KCore.Rpc
open Lib
variable {C S V : Type} {N : Network S V} {σ σ' : State C S V}

/-- Something goes wrong: a crash, a lost connection, a failed publication or a cancellation at a
client or at a server, or an exception of `consume_func`. The one exception that is part of the
procedure is that of a body that does not validate. -/
def State.fails (N : Network S V) (σ : State C S V) : Event C S V → Bool
  | .client_gone _ => true
  | .callback_lost _ => true
  | .server_gone _ => true
  | .connection_lost _ => true
  | .publish_raises _ => true
  | .cancel _ => true
  | .raises tag =>
    match σ.handlers tag with
    | some ⟨s,r,.received⟩ => ((N.request_type s).model_validate_json r.body).isSome
    | _ => true
  | _ => false

section Progress
variable [DecidableEq C] [DecidableEq S]

/-- A step without a failure. -/
def Quiet (N : Network S V) (σ σ' : State C S V) : Prop :=
  ∃ e, Lossless σ e ∧ σ.fails N e = false ∧ step N σ e = some σ'

/-- Steps without failures lead from one state to the other. -/
abbrev Leads (N : Network S V) : State C S V → State C S V → Prop :=
  Relation.ReflTransGen (Quiet N)

lemma Sound.quiet (hs : Sound N σ) (h : Quiet N σ σ') : Sound N σ' := by
  obtain ⟨e,hloss,-,hstep⟩ := h
  exact hs.step (moves_of_step hstep) hloss

/-- No message and no result of the call is anywhere. -/
structure Nowhere (σ : State C S V) (k : ℕ) : Prop where
  result : ∀ call, σ.calls k = some call → call.future.result? = none
  posted : ∀ n r, Posted σ n r → r.correlation_id ≠ k
  handled : ∀ tag hd, σ.handlers tag = some hd → hd.request.correlation_id ≠ k
  replied : ∀ c l p, σ.callback c = some l → p ∈ l → p.1 ≠ k

variable {e : Event C S V}

/-- Only the publication of its own request to a queue that exists brings a call about. -/
lemma Nowhere.step {k : ℕ} (hno : Nowhere σ k) (h : Moves N σ e σ')
    (hp : ∀ call, e = .publish k → σ.calls k = some call → σ.declared call.rpc_name = false) :
    Nowhere σ' k := by
  refine ⟨fun call' hk' => ?_,fun n r hr => ?_,fun tag hd hh => ?_,fun c l p hl hmem => ?_⟩
  · by_cases hresp : ∃ c b, e = .on_response c k b
    · obtain ⟨c,b,rfl⟩ := hresp
      cases h with
      | resolve callback mem => exact absurd rfl (hno.replied c _ _ callback mem)
      | invalid_state callback mem => exact absurd rfl (hno.replied c _ _ callback mem)
      | key_error callback mem => exact absurd rfl (hno.replied c _ _ callback mem)
    · by_cases hcall : ∃ c n a, e = .call k c n a
      · obtain ⟨c,n,a,rfl⟩ := hcall
        cases h with
        | call_unstarted =>
          simp only [State.setCall_calls,Function.update_self,Option.some.injEq] at hk'
          exact hk' ▸ rfl
        | call =>
          simp only [State.setCall_calls,Function.update_self,Option.some.injEq] at hk'
          exact hk' ▸ rfl
      · have hview := h.view_eq (k := k) (fun c n a he => hcall ⟨c,n,a,he⟩)
          (fun c b he => hresp ⟨c,b,he⟩)
        rw [hk'] at hview
        obtain ⟨call,hk,hv⟩ := Option.map_eq_some_iff.mp hview.symm
        simp only [Call.view,Prod.mk.injEq] at hv
        exact hv.2.2.2 ▸ hno.result call hk
  · rcases h.posted hr with hr | ⟨k',call,rfl,hk,hflight,hn,rfl⟩
    · exact hno.posted n r hr
    · rintro rfl
      have hd := hp call rfl hk
      cases h with
      | publish called inFlight declared =>
        rw [hk] at called
        cases called
        exact absurd hd (by simp [declared])
      | publish_unroutable called inFlight declared =>
        exact hno.posted n _ hr rfl
  · rcases h.handled hh with ⟨hd₀,hh₀,-,hr⟩ | ⟨-,hposted⟩
    · exact hr ▸ hno.handled tag hd₀ hh₀
    · exact hno.posted _ _ hposted
  · rcases h.callback_mem hl hmem with ⟨l₀,hl₀,hm₀⟩ | ⟨tag,s,r,ret,hh,-,rfl⟩
    · exact hno.replied c l₀ p hl₀ hm₀
    · exact hno.handled tag _ hh

/-- What the broker has not taken is nowhere. -/
def Untaken (σ : State C S V) : Prop :=
  ∀ k, (∀ call, σ.calls k = some call → call.inFlight = true) → Nowhere σ k

lemma Moves.taken {k : ℕ} (h : Moves N σ (.publish k) σ') :
    ∃ call', σ'.calls k = some call' ∧ call'.inFlight = false := by
  cases h with
  | publish => exact ⟨_,Function.update_self _ _ _,rfl⟩
  | publish_unroutable => exact ⟨_,Function.update_self _ _ _,rfl⟩

/-- A message that was taken is not on its way again. -/
lemma Moves.taken_before (h : Moves N σ e σ') {k : ℕ} {call call' : Call C}
    (hk : σ.calls k = some call) (hk' : σ'.calls k = some call') (hf : call'.inFlight = true) :
    call.inFlight = true := by
  rcases h.call_from hk' with ⟨call₀,hk₀,hcont⟩ | ⟨hfresh,-⟩
  · rw [hk] at hk₀
    cases hk₀
    exact hcont.taken hf
  · rw [hk] at hfresh
    cases hfresh

lemma Untaken.step (hu : Untaken σ) (h : Moves N σ e σ') : Untaken σ' := by
  intro k hk
  have hno : Nowhere σ k := hu k fun call hc => by
    obtain ⟨call',hc',-⟩ := h.header_eq hc
    exact h.taken_before hc hc' (hk call' hc')
  refine hno.step h fun call he _ => ?_
  subst he
  obtain ⟨call',hc',hf⟩ := h.taken
  rw [hk call' hc'] at hf
  cases hf

omit [DecidableEq C] [DecidableEq S] in
lemma untaken_empty : Untaken (State.empty : State C S V) := by
  intro k _
  refine ⟨fun _ h => ?_,fun n r h => ?_,fun _ _ h => ?_,fun _ _ _ h => ?_⟩
  · cases h
  · simp [Posted,State.empty] at h
  · cases h
  · cases h

/-- The request was taken, and it is nowhere. -/
def Dropped (σ : State C S V) (k : ℕ) : Prop :=
  (∃ call, σ.calls k = some call ∧ call.inFlight = false) ∧ Nowhere σ k

lemma Dropped.step {k : ℕ} (hd : Dropped σ k) (h : Moves N σ e σ') : Dropped σ' k := by
  obtain ⟨⟨call,hk,hf⟩,hno⟩ := hd
  obtain ⟨call',hk',-⟩ := h.header_eq hk
  refine ⟨⟨call',hk',?_⟩,hno.step h fun call₁ he hk₁ => ?_⟩
  · by_contra hf'
    rw [h.taken_before hk hk' (by simpa using hf')] at hf
    cases hf
  · subst he
    cases h with
    | publish called inFlight =>
      rw [hk] at called
      cases called
      rw [hf] at inFlight
      cases inFlight
    | publish_unroutable called inFlight declared =>
      rw [hk] at called hk₁
      cases called
      cases hk₁
      exact declared

/-- In no run, whatever else happens, does a call return whose request was published before any
server had declared the queue of its procedure. -/
theorem unroutable_never_returns {K : State C S V → Event C S V → Prop}
    {tr : List (State C S V × Event C S V)} (h : (machine N).Run K tr σ) {σ₀ : State C S V} {k : ℕ}
    {call₀ : Call C} (hmem : (σ₀,.publish k) ∈ tr) (hk₀ : σ₀.calls k = some call₀)
    (hd : σ₀.declared call₀.rpc_name = false) :
    ∀ call body, σ.calls k = some call → call.status ≠ .returned body := by
  obtain ⟨tr₀,hbefore⟩ := h.before hmem
  have huntaken : Untaken σ₀ := hbefore.invariant (I := fun _ => Untaken)
    (by rintro _ rfl; exact untaken_empty) fun _ _ _ _ _ hi _ hs => hi.step (moves_of_step hs)
  obtain ⟨σ₁,hstep⟩ := h.taken hmem
  have hm : Moves N σ₀ (.publish k) σ₁ := moves_of_step hstep
  have hflight : call₀.inFlight = true := by
    cases hm with
    | publish called inFlight =>
      rw [hk₀] at called
      cases called
      exact inFlight
    | publish_unroutable called inFlight =>
      rw [hk₀] at called
      cases called
      exact inFlight
  have hno : Nowhere σ₀ k := huntaken k fun call hk => by
    rw [hk₀] at hk
    cases hk
    exact hflight
  have hdropped : Dropped σ₁ k := ⟨hm.taken,hno.step hm fun call _ hk => by
    rw [hk₀] at hk
    cases hk
    exact hd⟩
  have hend : Dropped σ k := h.keeps_after
    (fun _ _ _ hs hP => Dropped.step hP (moves_of_step hs)) hmem hstep hdropped
  intro call body hk hret
  have hresult := hend.2.result call hk
  rw [returnsResult_of_run h k call body hk hret] at hresult
  cases hresult

/-- The client calls before the scheduler has declared the queue; then the scheduler starts. -/
theorem unroutable_never_returns_focus :
    ∃ (σ : State ℕ (Procedure × ℕ) String) (call : Call ℕ), σ.calls 7 = some call ∧
      call.status = .waiting ∧ σ.servers focusing = .consuming ∧
        ∀ body, call.status ≠ .returned body := by
  obtain ⟨tr,σ,hrun,hp⟩ := Machine.exists_run_of_replay
    (machine (C := ℕ) (kgym texts)) (fun _ _ => True)
    [.client_declare 0,.call 7 0 "scheduler.focus_job" "00000001",.publish 7,.confirm 7,
      .client_consume 0,.server_declare focusing,.server_consume focusing]
    (fun history σ => ((σ.calls 7).any fun call => call.status = .waiting) &&
      (σ.servers focusing = .consuming : Bool) &&
      history.any fun p => (p.2 matches .publish 7) && (p.1.calls 7).any fun call =>
        p.1.declared call.rpc_name = false) rfl (by decide +kernel)
  simp only [Bool.and_eq_true,List.any_eq_true,Option.any_eq_true,decide_eq_true_eq] at hp
  obtain ⟨⟨⟨call,hk,hwaiting⟩,hserver⟩,⟨σ₀,e⟩,hmem,he,call₀,hk₀,hd⟩ := hp
  cases e with
  | publish k =>
    have h7 : k = 7 := by
      by_contra hne
      split at he
      · rename_i hk7
        cases hk7
        exact hne rfl
      · cases he
    subst h7
    exact ⟨σ,call,hk,hwaiting,hserver,fun body => unroutable_never_returns hrun hmem hk₀ hd call body hk⟩
  | _ => cases he

end Progress
end LiveKBench.KCore.Rpc
