import LiveKBench.KCore.RpcDelivery

/-! What `_on_response` makes of the responses about one call. A request that is handled several
times is replied to several times; the first response that the client takes from its callback queue
settles the call, and the later ones find its future popped. -/
namespace LiveKBench.KCore.Rpc
open Lib
variable {C S V : Type} {N : Network S V} {σ σ' : State C S V}

/-- How `_on_response` ends. -/
inductive Reaction
  | sets_result
  | raises_invalid_state
  | raises_key_error
  deriving DecidableEq

/-- `pop` finds the future or raises, and `set_result` finds it pending or raises. -/
def State.reaction (σ : State C S V) (c : C) (k : ℕ) : Reaction :=
  if (σ.clients c).futures k then
    if σ.resolves c k then .sets_result else .raises_invalid_state
  else .raises_key_error

/-- The responses about the call `k` that clients have taken, the newest first: the client, the body
and how `_on_response` ended. -/
def responses (k : ℕ) (tr : List (State C S V × Event C S V)) : List (C × String × Reaction) :=
  tr.filterMap fun p => match p.2 with
    | .on_response c k' body => if k' = k then some (c,body,p.1.reaction c k) else none
    | _ => none

/-- What the first response has made of the call's future. -/
def SettledBy (call : Call C) (body : String) : Reaction → Prop
  | .sets_result => call.future = .result body
  | .raises_invalid_state => call.future = .cancelled
  | .raises_key_error => False

/-- No response has come, or the first one has settled the call and the others have raised. All of
them came to the client that made the call. -/
inductive Responded (call : Call C) (registered : Bool) : List (C × String × Reaction) → Prop
  | none (there : registered = true) (unset : call.future.result? = none) :
      Responded call registered []
  | first {late body reaction} (popped : registered = false)
      (dropped : ∀ x ∈ late, x.1 = call.client ∧ x.2.2 = .raises_key_error)
      (settled : SettledBy call body reaction) :
      Responded call registered (late ++ [(call.client,body,reaction)])

/-- The first response. -/
lemma Responded.of_settled {call : Call C} {registered : Bool} {body : String} {reaction : Reaction}
    (popped : registered = false) (settled : SettledBy call body reaction) :
    Responded call registered [(call.client,body,reaction)] := by
  have hfirst : Responded call registered ([] ++ [(call.client,body,reaction)]) :=
    .first popped (by simp) settled
  exact hfirst

/-- The replies on their way are to the clients that made the calls. -/
def Addressed (σ : State C S V) : Prop :=
  ∀ c l p, σ.callback c = some l → p ∈ l → ∃ call, σ.calls p.1 = some call ∧ call.client = c

section Step
variable [DecidableEq C] [DecidableEq S] {e : Event C S V}

lemma Addressed.step (ha : Addressed σ) (ht : Traced N σ) (h : Moves N σ e σ') : Addressed σ' := by
  intro c l p hl hp
  have hthere : ∃ call, σ.calls p.1 = some call ∧ call.client = c := by
    rcases h.callback_mem hl hp with ⟨l₀,hl₀,hp₀⟩ | ⟨tag,s,r,ret,hh,rfl,rfl⟩
    · exact ha c l₀ p hl₀ hp₀
    · obtain ⟨call,hk,-,hr⟩ := ht.handled tag _ hh
      exact ⟨call,hk,congrArg Request.reply_to hr⟩
  obtain ⟨call,hk,rfl⟩ := hthere
  obtain ⟨call',hk',-,hr⟩ := h.header_eq hk
  exact ⟨call',hk',congrArg Request.reply_to hr⟩

/-- A response comes from the callback queue of the client. -/
lemma Moves.response_mem {c : C} {k : ℕ} {body : String} (h : Moves N σ (.on_response c k body) σ') :
    ∃ l, σ.callback c = some l ∧ (k,body) ∈ l := by
  cases h with
  | resolve callback mem => exact ⟨_,callback,mem⟩
  | invalid_state callback mem => exact ⟨_,callback,mem⟩
  | key_error callback mem => exact ⟨_,callback,mem⟩

/-- What a response does to its call and to its future. -/
lemma Responded.respond {c : C} {k : ℕ} {body : String} {call call' : Call C}
    {rs : List (C × String × Reaction)} (h : Moves N σ (.on_response c k body) σ')
    (hk : σ.calls k = some call) (hc : call.client = c) (hk' : σ'.calls k = some call')
    (hr : Responded call ((σ.clients c).futures k) rs) :
    Responded call' ((σ'.clients c).futures k) ((c,body,σ.reaction c k) :: rs) := by
  subst hc
  cases h with
  | @resolve _ _ _ l call₀ callback mem consuming there called pending =>
    rw [hk] at called
    cases called
    simp only [State.setCall_calls,Function.update_self,Option.some.injEq] at hk'
    subst hk'
    cases hr with
    | none =>
      have hreaction : σ.reaction call.client k = .sets_result := by
        simp [State.reaction,State.resolves,there,hk,pending]
      rw [hreaction]
      exact @Responded.of_settled C { call with future := .result body } _ _ _ (by simp) rfl
    | first popped => cases there.symm.trans popped
  | @invalid_state _ _ _ l callback mem consuming there done =>
    obtain rfl : call = call' := Option.some.inj (hk.symm.trans hk')
    cases hr with
    | none _ unset =>
      have hpending := done call hk
      have hreaction : σ.reaction call.client k = .raises_invalid_state := by
        simp [State.reaction,State.resolves,there,hk,hpending]
      refine .of_settled (by simp) ?_
      rw [hreaction]
      cases hf : call.future with
      | pending => exact absurd hf hpending
      | result b => simp [Future.result?,hf] at unset
      | cancelled => exact hf
    | first popped => cases there.symm.trans popped
  | @key_error _ _ _ l callback mem consuming gone =>
    obtain rfl : call = call' := Option.some.inj (hk.symm.trans hk')
    have hreaction : σ.reaction call.client k = .raises_key_error := by
      simp [State.reaction,gone]
    cases hr with
    | none there => cases there.symm.trans gone
    | @first late b reaction popped dropped settled =>
      rw [← List.cons_append]
      refine .first popped ?_ settled
      intro x hx
      rcases List.mem_cons.mp hx with rfl | hx
      · exact ⟨rfl,hreaction⟩
      · exact dropped x hx

omit [DecidableEq C] [DecidableEq S] in
/-- Other events leave the responses to a call and what they have made of it. -/
lemma Responded.keep {k : ℕ} {call call' : Call C} {registered : Bool}
    {rs : List (C × String × Reaction)} (hcont : Continues e k call call')
    (hunset : call'.future.result? = call.future.result?) (hr : Responded call registered rs) :
    Responded call' registered rs := by
  cases hr with
  | none there unset => exact .none there (hunset.trans unset)
  | @first late body reaction popped dropped settled =>
    rw [← hcont.client]
    refine .first popped (fun x hx => hcont.client ▸ dropped x hx) ?_
    cases reaction with
    | sets_result => exact (hcont.settled (by simp [show call.future = _ from settled])).trans settled
    | raises_invalid_state =>
      exact (hcont.settled (by simp [show call.future = _ from settled])).trans settled
    | raises_key_error => exact settled

/-- Every call is as the responses to it say. -/
def AsResponded (tr : List (State C S V × Event C S V)) (σ : State C S V) : Prop :=
  (∀ k, σ.calls k = none → responses k tr = []) ∧
    ∀ k call, σ.calls k = some call →
      Responded call ((σ.clients call.client).futures k) (responses k tr)

lemma AsResponded.step {tr : List (State C S V × Event C S V)} (hi : AsResponded tr σ)
    (ha : Addressed σ) (h : Moves N σ e σ') : AsResponded ((σ,e) :: tr) σ' := by
  have hother : ∀ k, (∀ c b, e ≠ .on_response c k b) → responses k ((σ,e) :: tr) = responses k tr := by
    intro k hne
    cases e with
    | on_response c k' b =>
      have hk : k' ≠ k := by
        rintro rfl
        exact hne c b rfl
      simp [responses,hk]
    | _ => rfl
  refine ⟨fun k hk' => ?_,fun k call' hk' => ?_⟩
  · have hk : σ.calls k = none := by
      by_contra hne
      obtain ⟨call,hk⟩ := Option.ne_none_iff_exists'.mp hne
      obtain ⟨call',hk'',-⟩ := h.header_eq hk
      cases hk'.symm.trans hk''
    rw [hother k ?_]
    · exact hi.1 k hk
    · rintro c b rfl
      obtain ⟨l,hl,hmem⟩ := h.response_mem
      obtain ⟨call,hc,-⟩ := ha c l _ hl hmem
      cases hk.symm.trans hc
  · by_cases hresp : ∃ c b, e = .on_response c k b
    · obtain ⟨c,b,rfl⟩ := hresp
      obtain ⟨l,hl,hmem⟩ := h.response_mem
      obtain ⟨call,hk,hc⟩ := ha c l _ hl hmem
      obtain ⟨call'',hk'',-,hreq⟩ := h.header_eq hk
      obtain rfl : call'' = call' := Option.some.inj (hk''.symm.trans hk')
      have hc' : call''.client = c := (congrArg Request.reply_to hreq).trans hc
      have hr := Responded.respond h hk hc hk' (hc ▸ hi.2 k call hk)
      rw [hc']
      simpa [responses] using hr
    · rw [hother k fun c b he => hresp ⟨c,b,he⟩]
      rcases h.call_from hk' with ⟨call,hk,hcont⟩ | ⟨hfresh,rfl,-⟩
      · have hcall : ∀ c n a, e ≠ .call k c n a := by
          rintro c n a rfl
          cases h with
          | call_unstarted fresh => cases hk.symm.trans fresh
          | call fresh => cases hk.symm.trans fresh
        have hview := h.view_eq hcall fun c b he => hresp ⟨c,b,he⟩
        rw [hk,hk'] at hview
        simp only [Option.map_some,Option.some.injEq,Call.view,Prod.mk.injEq] at hview
        rw [hcont.client,h.futures_eq (fun n a => hcall _ n a) fun b he => hresp ⟨_,b,he⟩]
        exact Responded.keep hcont hview.2.2.2 (hi.2 k call hk)
      · rw [hi.1 k hfresh]
        cases h with
        | call_unstarted fresh idle =>
          simp only [State.setCall_calls,Function.update_self,Option.some.injEq] at hk'
          exact hk' ▸ .none (by simp) rfl
        | call fresh idle gone =>
          simp only [State.setCall_calls,Function.update_self,Option.some.injEq] at hk'
          exact hk' ▸ .none (by simp) rfl

theorem asResponded_of_run {K : State C S V → Event C S V → Prop}
    {tr : List (State C S V × Event C S V)} (h : (machine N).Run K tr σ) : AsResponded tr σ := by
  have hall := h.invariant (I := fun tr σ => Traced N σ ∧ Addressed σ ∧ AsResponded tr σ) ?_ ?_
  · exact hall.2.2
  · rintro _ rfl
    refine ⟨traced_empty,fun c l p hl => ?_,fun k _ => rfl,fun k call hk => ?_⟩
    · cases hl
    · cases hk
  · rintro tr s e s' - ⟨ht,ha,hi⟩ - hs
    have hm := moves_of_step hs
    exact ⟨ht.step hm,ha.step ht hm,hi.step ha hm⟩

/-- Of the responses to a call, the first that its client takes settles it: it sets the future, or
finds it cancelled. All the others, of a request that was handled again, find the future popped and
raise; none comes to another client. What the call returns is the body of the first. -/
theorem first_response_settles {K : State C S V → Event C S V → Prop}
    {tr : List (State C S V × Event C S V)} (h : (machine N).Run K tr σ) {k : ℕ} {call : Call C}
    (hk : σ.calls k = some call) :
    Responded call ((σ.clients call.client).futures k) (responses k tr) ∧
      ∀ body, call.status = .returned body → ∃ late,
        responses k tr = late ++ [(call.client,body,.sets_result)] ∧
          ∀ x ∈ late, x.1 = call.client ∧ x.2.2 = .raises_key_error := by
  have hr := (asResponded_of_run h).2 k call hk
  refine ⟨hr,fun body hret => ?_⟩
  have hfuture := returnsResult_of_run h k call body hk hret
  generalize responses k tr = rs at hr ⊢
  cases hr with
  | none there unset => simp [hfuture,Future.result?] at unset
  | @first late b reaction popped dropped settled =>
    refine ⟨late,?_,dropped⟩
    cases reaction with
    | sets_result =>
      have hb := hfuture.symm.trans settled
      simp only [Future.result.injEq] at hb
      rw [hb]
    | raises_invalid_state => cases hfuture.symm.trans settled
    | raises_key_error => exact settled.elim

theorem first_response_settles_handledTwice :
    ∃ (tr : List (State ℕ (Procedure × ℕ) String × Event ℕ (Procedure × ℕ) String))
      (σ : State ℕ (Procedure × ℕ) String), (machine (kgym texts)).Run (fun _ _ => True) tr σ ∧
      (responses 7 tr).length = 2 ∧
      ∃ late, responses 7 tr = late ++ [(0,"denied",.sets_result)] := by
  obtain ⟨tr,σ,hrun,hp⟩ := Machine.exists_run_of_replay (machine (kgym texts)) (fun _ _ => True)
    handledTwice (fun tr σ => returnedDenied σ && (responses 7 tr).length = 2 &&
      (σ.calls 7).any fun call => call.client = 0) rfl (by decide +kernel)
  simp only [Bool.and_eq_true,decide_eq_true_eq] at hp
  obtain ⟨⟨hret,hlen⟩,hclient⟩ := hp
  obtain ⟨call,hk,-,-,hstatus⟩ := exists_call_of_returnedDenied hret
  obtain ⟨late,hlate,-⟩ := (first_response_settles hrun hk).2 "denied" hstatus
  have hc : call.client = 0 := by simpa [hk] using hclient
  exact ⟨tr,σ,hrun,hlen,late,hc ▸ hlate⟩

end Step
end LiveKBench.KCore.Rpc
