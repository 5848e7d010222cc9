import LiveKBench.KCore.Rpc

/-! What a remote procedure call returns. The machine of the RPC code refines the abstract call
service: whatever is redelivered, lost, cancelled or sent twice, a future gets one result at most,
and this is the encoded return value of an invocation of `consume_func` on the call's argument, by a
server of the procedure that was called. -/
namespace LiveKBench.KCore.Rpc
open Lib
variable {C S V : Type} {N : Network S V} {σ σ' : State C S V}

/-! ## Messages and handlers come from calls -/

/-- The message that the call `k` publishes. -/
def Call.request (call : Call C) (k : ℕ) : Request C := ⟨call.argument,k,call.client⟩

/-- What the steps other than its own response keep of a call. -/
def Call.view (call : Call C) : String × String × C × Option String :=
  (call.rpc_name,call.argument,call.client,call.future.result?)

/-- `r` is the message of a call of the procedure `n`. -/
def Sent (σ : State C S V) (n : String) (r : Request C) : Prop :=
  ∃ call, σ.calls r.correlation_id = some call ∧ call.rpc_name = n ∧
    call.request r.correlation_id = r

/-- `r` is in the queue of the procedure `n`, delivered or not. -/
def Posted (σ : State C S V) (n : String) (r : Request C) : Prop :=
  r ∈ (σ.queue n).ready ∨ ∃ key, (key,r) ∈ (σ.queue n).unacked

lemma view_kill (call : Call C) : call.kill.view = call.view := by
  unfold Call.kill
  split <;> rfl

lemma view_cancel (call : Call C) : call.cancel.view = call.view := by
  unfold Call.cancel
  split
  · rename_i hc
    simp [Call.view,Future.result?,hc.2]
  · rfl

lemma posted_setQueue {n n' : String} {b : Inbox (S × ℕ) (Request C)} {r : Request C}
    (hb : r ∈ b.ready ∨ (∃ key, (key,r) ∈ b.unacked) → Posted σ n r)
    (h : Posted (σ.setQueue n b) n' r) : Posted σ n' r := by
  by_cases hn : n' = n
  · subst hn
    exact hb (by simpa [Posted] using h)
  · simpa [Posted,Function.update_of_ne hn] using h

/-- Every message and every handler is of a call. -/
structure Traced (N : Network S V) (σ : State C S V) : Prop where
  posted : ∀ n r, Posted σ n r → Sent σ n r
  handled : ∀ t hd, σ.handlers t = some hd → Sent σ (N.rpc_name hd.server) hd.request

theorem traced_empty : Traced N (State.empty : State C S V) where
  posted n r hp := by simp [Posted,State.empty] at hp
  handled t hd hh := by cases hh

section Frame
variable [DecidableEq C] [DecidableEq S] {e : Event C S V}

omit [DecidableEq C] [DecidableEq S] in
lemma view_setCall {k k' : ℕ} {call call' : Call C} (called : σ.calls k = some call)
    (hview : call'.view = call.view) :
    ((σ.setCall k call').calls k').map Call.view = (σ.calls k').map Call.view := by
  by_cases hk : k' = k
  · subst hk
    simp [called,hview]
  · simp [Function.update_of_ne hk]

/-- The other events leave the calls as they are, up to where the callers stand. -/
theorem Moves.view_eq (h : Moves N σ e σ') {k : ℕ} (hcall : ∀ c n a, e ≠ .call k c n a)
    (hresp : ∀ c b, e ≠ .on_response c k b) :
    (σ'.calls k).map Call.view = (σ.calls k).map Call.view := by
  cases h with
  | client_declare idle => rfl
  | client_consume declared => rfl
  | @client_gone c =>
    cases hk : σ.calls k with
    | none => simp [hk]
    | some call =>
      by_cases hc : call.client = c
      · simp [hk,hc,view_kill]
      · simp [hk,hc]
  | callback_lost => rfl
  | callback_restored consuming lost => rfl
  | server_declare idle => rfl
  | server_consume declared => rfl
  | server_gone => rfl
  | connection_lost => rfl
  | @call_unstarted k' c n a fresh idle =>
    have hne : k ≠ k' := by
      rintro rfl
      exact hcall c n a rfl
    simp [Function.update_of_ne hne]
  | @call k' c n a fresh idle gone =>
    have hne : k ≠ k' := by
      rintro rfl
      exact hcall c n a rfl
    simp [Function.update_of_ne hne]
  | publish called inFlight declared => exact view_setCall called rfl
  | publish_unroutable called inFlight declared => exact view_setCall called rfl
  | confirm called publishing taken => exact view_setCall called rfl
  | publish_raises called publishing => exact view_setCall called rfl
  | cancel called live => exact view_setCall called (view_cancel _)
  | resume called waiting done => exact view_setCall called rfl
  | @resolve c k' body l call callback mem consuming there called pending =>
    have hne : k ≠ k' := by
      rintro rfl
      exact hresp c body rfl
    simp [Function.update_of_ne hne]
  | invalid_state callback mem consuming there done => rfl
  | key_error callback mem consuming gone => rfl
  | deliver consuming fresh mem prefetch => rfl
  | execute handled valid => rfl
  | reply handled => rfl
  | raises handled => rfl
  | ack handled => rfl

/-- A response changes the future and nothing else that a call keeps. -/
lemma Moves.header_eq (h : Moves N σ e σ') {k : ℕ} {call : Call C} (hk : σ.calls k = some call) :
    ∃ call', σ'.calls k = some call' ∧ call'.rpc_name = call.rpc_name ∧
      call'.request k = call.request k := by
  by_cases hresp : ∃ c b, e = .on_response c k b
  · obtain ⟨c,b,rfl⟩ := hresp
    cases h with
    | resolve callback mem consuming there called pending =>
      rw [called] at hk
      cases hk
      exact ⟨_,Function.update_self _ _ _,rfl,rfl⟩
    | invalid_state => exact ⟨call,hk,rfl,rfl⟩
    | key_error => exact ⟨call,hk,rfl,rfl⟩
  · by_cases hcall : ∃ c n a, e = .call k c n a
    · obtain ⟨c,n,a,rfl⟩ := hcall
      cases h with
      | call_unstarted fresh => simp [fresh] at hk
      | call fresh => simp [fresh] at hk
    · have hview := h.view_eq (k := k) (fun c n a he => hcall ⟨c,n,a,he⟩)
        (fun c b he => hresp ⟨c,b,he⟩)
      rw [hk] at hview
      obtain ⟨call',hcall',hv⟩ := Option.map_eq_some_iff.mp hview
      simp only [Call.view,Prod.mk.injEq] at hv
      obtain ⟨hn,ha,hc,-⟩ := hv
      exact ⟨call',hcall',hn,by simp [Call.request,ha,hc]⟩

theorem Sent.step (h : Moves N σ e σ') {n : String} {r : Request C} (hs : Sent σ n r) :
    Sent σ' n r := by
  obtain ⟨call,hcall,hn,hr⟩ := hs
  obtain ⟨call',hcall',hn',hr'⟩ := h.header_eq hcall
  exact ⟨call',hcall',hn'.trans hn,hr'.trans hr⟩

omit [DecidableEq C] in
lemma mem_takeBack {s : S} {b : Inbox (S × ℕ) (Request C)} {r : Request C}
    (h : r ∈ (takeBack s b).ready ∨ ∃ key, (key,r) ∈ (takeBack s b).unacked) :
    r ∈ b.ready ∨ ∃ key, (key,r) ∈ b.unacked := by
  rcases h with h | ⟨key,h⟩
  · simp only [takeBack,List.mem_append,List.mem_map,List.mem_filter] at h
    rcases h with ⟨⟨key,r'⟩,⟨hmem,-⟩,rfl⟩ | h
    · exact .inr ⟨key,hmem⟩
    · exact .inl h
  · exact .inr ⟨key,(List.mem_filter.mp h).1⟩

/-- Only a publication puts a message in a queue. -/
theorem Moves.posted (h : Moves N σ e σ') {n : String} {r : Request C} (hp : Posted σ' n r) :
    Posted σ n r ∨ ∃ k call, e = .publish k ∧ σ.calls k = some call ∧ call.inFlight = true ∧
      call.rpc_name = n ∧ call.request k = r := by
  cases h with
  | client_declare idle => exact .inl hp
  | client_consume declared => exact .inl hp
  | client_gone => exact .inl hp
  | callback_lost => exact .inl hp
  | callback_restored consuming lost => exact .inl hp
  | server_declare idle => exact .inl hp
  | server_consume declared => exact .inl hp
  | server_gone => exact .inl (posted_setQueue (σ := σ) mem_takeBack hp)
  | connection_lost => exact .inl (posted_setQueue mem_takeBack hp)
  | call_unstarted fresh idle => exact .inl hp
  | call fresh idle gone => exact .inl hp
  | @publish k call called inFlight declared =>
    by_cases hr : call.rpc_name = n ∧ call.request k = r
    · exact .inr ⟨k,call,rfl,called,inFlight,hr.1,hr.2⟩
    · refine .inl ?_
      by_cases hn : n = call.rpc_name
      · subst hn
        have hne : r ≠ ⟨call.argument,k,call.client⟩ := fun he => hr ⟨rfl,he.symm⟩
        simpa [Posted,hne] using hp
      · simpa [Posted,Function.update_of_ne hn] using hp
  | publish_unroutable called inFlight declared => exact .inl hp
  | confirm called publishing taken => exact .inl hp
  | publish_raises called publishing => exact .inl hp
  | cancel called live => exact .inl hp
  | resume called waiting done => exact .inl hp
  | resolve callback mem consuming there called pending => exact .inl hp
  | invalid_state callback mem consuming there done => exact .inl hp
  | key_error callback mem consuming gone => exact .inl hp
  | deliver consuming fresh mem prefetch =>
    refine .inl (posted_setQueue (fun hb => ?_) hp)
    rcases hb with hb | ⟨key,hb⟩
    · exact .inl (Inbox.mem_ready_of_take hb)
    · rcases List.mem_cons.mp hb with he | hb
      · cases he
        exact .inl mem
      · exact .inr ⟨key,hb⟩
  | execute handled valid => exact .inl hp
  | reply handled => exact .inl hp
  | raises handled =>
    refine .inl (posted_setQueue (fun hb => ?_) hp)
    rcases hb with hb | ⟨key,hb⟩
    · rcases (Inbox.mem_ready_nack _ _ _).mp hb with hb | hb
      · exact .inl hb
      · exact .inr ⟨_,hb⟩
    · exact .inr ⟨key,((Inbox.mem_unacked_nack _ _ _).mp hb).1⟩
  | ack handled =>
    refine .inl (posted_setQueue (fun hb => ?_) hp)
    rcases hb with hb | ⟨key,hb⟩
    · exact .inl hb
    · exact .inr ⟨key,((Inbox.mem_unacked_ack _ _ _).mp hb).1⟩

/-- What a handler works on is what was delivered to it. -/
theorem Moves.handled (h : Moves N σ e σ') {t : ℕ} {hd : Handler C S V}
    (hh : σ'.handlers t = some hd) :
    (∃ hd₀, σ.handlers t = some hd₀ ∧ hd₀.server = hd.server ∧ hd₀.request = hd.request) ∨
      (e = .deliver hd.server t hd.request ∧ Posted σ (N.rpc_name hd.server) hd.request) := by
  have hset : ∀ {t' : ℕ} {h₀ h₁ : Handler C S V},
      Function.update σ.handlers t' (some h₁) t = some hd → σ.handlers t' = some h₀ →
      h₀.server = h₁.server → h₀.request = h₁.request →
      ∃ hd₀, σ.handlers t = some hd₀ ∧ hd₀.server = hd.server ∧ hd₀.request = hd.request := by
    intro t' h₀ h₁ hu h0 hs hr
    by_cases ht : t = t'
    · subst ht
      simp only [Function.update_self,Option.some.injEq] at hu
      subst hu
      exact ⟨h₀,h0,hs,hr⟩
    · exact ⟨hd,by simpa [Function.update_of_ne ht] using hu,rfl,rfl⟩
  have hdrop : ∀ {t' : ℕ}, Function.update σ.handlers t' none t = some hd →
      σ.handlers t = some hd := by
    intro t' hu
    by_cases ht : t = t'
    · subst ht
      simp at hu
    · simpa [Function.update_of_ne ht] using hu
  have hsame : σ.handlers t = some hd →
      ∃ hd₀, σ.handlers t = some hd₀ ∧ hd₀.server = hd.server ∧ hd₀.request = hd.request :=
    fun hs => ⟨hd,hs,rfl,rfl⟩
  cases h with
  | client_declare idle => exact .inl (hsame hh)
  | client_consume declared => exact .inl (hsame hh)
  | client_gone => exact .inl (hsame hh)
  | callback_lost => exact .inl (hsame hh)
  | callback_restored consuming lost => exact .inl (hsame hh)
  | server_declare idle => exact .inl (hsame hh)
  | server_consume declared => exact .inl (hsame hh)
  | server_gone => exact .inl (hsame (Option.filter_eq_some_iff.mp hh).1)
  | connection_lost => exact .inl (hsame hh)
  | call_unstarted fresh idle => exact .inl (hsame hh)
  | call fresh idle gone => exact .inl (hsame hh)
  | publish called inFlight declared => exact .inl (hsame hh)
  | publish_unroutable called inFlight declared => exact .inl (hsame hh)
  | confirm called publishing taken => exact .inl (hsame hh)
  | publish_raises called publishing => exact .inl (hsame hh)
  | cancel called live => exact .inl (hsame hh)
  | resume called waiting done => exact .inl (hsame hh)
  | resolve callback mem consuming there called pending => exact .inl (hsame hh)
  | invalid_state callback mem consuming there done => exact .inl (hsame hh)
  | key_error callback mem consuming gone => exact .inl (hsame hh)
  | @deliver s tag r consuming fresh mem prefetch =>
    by_cases ht : t = tag
    · subst ht
      simp only [State.setHandler_handlers,Function.update_self,Option.some.injEq] at hh
      subst hh
      exact .inr ⟨rfl,.inl mem⟩
    · exact .inl (hsame (by simpa [Function.update_of_ne ht] using hh))
  | execute handled valid => exact .inl (hset hh handled rfl rfl)
  | reply handled => exact .inl (hset hh handled rfl rfl)
  | raises handled => exact .inl (hsame (hdrop hh))
  | ack handled => exact .inl (hsame (hdrop hh))

theorem Traced.step (ht : Traced N σ) (h : Moves N σ e σ') : Traced N σ' := by
  refine ⟨fun n r hp => ?_,fun t hd hh => ?_⟩
  · rcases h.posted hp with hp | ⟨k,call,-,hcall,-,hn,rfl⟩
    · exact (ht.posted n r hp).step h
    · exact Sent.step h ⟨call,hcall,hn,rfl⟩
  · rcases h.handled hh with ⟨hd₀,hh₀,hs,hr⟩ | ⟨-,hp⟩
    · exact hs ▸ hr ▸ (ht.handled t hd₀ hh₀).step h
    · exact (ht.posted _ _ hp).step h

end Frame
/-! ## The abstract call service -/

/-- The calls as an abstract service: an execution is a server and what its `consume_func` returned,
of a procedure and a body that the server's request type validates. -/
def service (N : Network S V) : CallService (String × String) (S × V) String where
  accepts a i := N.rpc_name i.1 = a.1 ∧ ((N.request_type i.1).model_validate_json a.2).isSome
  reply i := encodeReceipt (N.receipt_type i.1) i.2

/-- What `consume_func` returned, once it has. -/
def HandlerState.ret? {V : Type} : HandlerState V → Option V
  | .received => none
  | .computed ret => some ret
  | .replied ret => some ret

/-- Whether the response consumer of `c` sets the future of the call `k`. -/
def State.resolves (σ : State C S V) (c : C) (k : ℕ) : Bool :=
  (σ.clients c).futures k && (σ.calls k).any fun call => call.future = .pending

/-- What an event is to the abstract service. -/
def act (σ : State C S V) : Event C S V → Option (CallService.Event ℕ (String × String) (S × V) String)
  | .call k _ n argument => some (.ask k (n,argument))
  | .execute tag ret =>
    (σ.handlers tag).map fun hd => .execute hd.request.correlation_id (hd.server,ret)
  | .on_response c k body => if σ.resolves c k then some (.answer k body) else none
  | _ => none

/-- A state of the code and one of the abstract service: the same calls with the same answers, and
each return value and each reply on its way is of an execution. -/
structure Tracks (N : Network S V) (σ : State C S V)
    (t : CallService.State ℕ (String × String) (S × V) String) : Prop where
  traced : Traced N σ
  asked : ∀ k, t.asked k = (σ.calls k).map fun call => (call.rpc_name,call.argument)
  answered : ∀ k, t.answer k = (σ.calls k).bind fun call => call.future.result?
  executed : ∀ tag hd ret, σ.handlers tag = some hd → hd.state.ret? = some ret →
    (hd.server,ret) ∈ t.executions hd.request.correlation_id
  replied : ∀ c l k body, σ.callback c = some l → (k,body) ∈ l →
    ∃ i ∈ t.executions k, (service N).reply i = body

section Tracks
variable {t : CallService.State ℕ (String × String) (S × V) String}

/-- The calls as the abstract service sees them, from what the steps keep of a call. -/
lemma asked_of_view {k : ℕ} (h : (σ'.calls k).map Call.view = (σ.calls k).map Call.view) :
    (σ'.calls k).map (fun call => (call.rpc_name,call.argument)) =
      (σ.calls k).map fun call => (call.rpc_name,call.argument) := by
  have hv := congrArg (Option.map fun v : String × String × C × Option String => (v.1,v.2.1)) h
  simpa [Option.map_map,Function.comp_def,Call.view] using hv

lemma answered_of_view {k : ℕ} (h : (σ'.calls k).map Call.view = (σ.calls k).map Call.view) :
    (σ'.calls k).bind (fun call => call.future.result?) =
      (σ.calls k).bind fun call => call.future.result? := by
  have hv := congrArg (fun o : Option (String × String × C × Option String) =>
    o.bind fun v => v.2.2.2) h
  simpa [Option.bind_map,Function.comp_def,Call.view] using hv

end Tracks

section Refinement
variable [DecidableEq C] [DecidableEq S]
  {t : CallService.State ℕ (String × String) (S × V) String} {e : Event C S V}

/-- What a step puts in a callback queue is the reply of a handler to this client. -/
lemma Moves.callback_mem (h : Moves N σ e σ') {c : C} {l : List (ℕ × String)} {p : ℕ × String}
    (hl : σ'.callback c = some l) (hp : p ∈ l) : (∃ l₀, σ.callback c = some l₀ ∧ p ∈ l₀) ∨
      ∃ tag s r ret, σ.handlers tag = some ⟨s,r,.computed ret⟩ ∧ r.reply_to = c ∧
        p = (r.correlation_id,encodeReceipt (N.receipt_type s) ret) := by
  have hsame : ∀ {l' : List (ℕ × String)}, σ.callback c = some l' → p ∈ l' →
      ∃ l₀, σ.callback c = some l₀ ∧ p ∈ l₀ := fun h1 h2 => ⟨_,h1,h2⟩
  have hnone : ∀ {c'}, Function.update σ.callback c' none c = some l →
      ∃ l₀, σ.callback c = some l₀ ∧ p ∈ l₀ := by
    intro c' hu
    by_cases hc : c = c'
    · subst hc
      simp at hu
    · exact hsame (by simpa [Function.update_of_ne hc] using hu) hp
  have hempty : ∀ {c'}, Function.update σ.callback c' (some []) c = some l →
      ∃ l₀, σ.callback c = some l₀ ∧ p ∈ l₀ := by
    intro c' hu
    by_cases hc : c = c'
    · subst hc
      simp only [Function.update_self,Option.some.injEq] at hu
      subst hu
      cases hp
    · exact hsame (by simpa [Function.update_of_ne hc] using hu) hp
  have herase : ∀ {c' l' q}, σ.callback c' = some l' →
      Function.update σ.callback c' (some (l'.erase q)) c = some l →
      ∃ l₀, σ.callback c = some l₀ ∧ p ∈ l₀ := by
    intro c' l' q hl' hu
    by_cases hc : c = c'
    · subst hc
      simp only [Function.update_self,Option.some.injEq] at hu
      subst hu
      exact hsame hl' (List.mem_of_mem_erase hp)
    · exact hsame (by simpa [Function.update_of_ne hc] using hu) hp
  cases h with
  | client_declare idle => exact .inl (hempty hl)
  | client_consume declared => exact .inl (hsame hl hp)
  | client_gone => exact .inl (hnone hl)
  | callback_lost => exact .inl (hnone hl)
  | callback_restored consuming lost => exact .inl (hempty hl)
  | server_declare idle => exact .inl (hsame hl hp)
  | server_consume declared => exact .inl (hsame hl hp)
  | server_gone => exact .inl (hsame hl hp)
  | connection_lost => exact .inl (hsame hl hp)
  | call_unstarted fresh idle => exact .inl (hsame hl hp)
  | call fresh idle gone => exact .inl (hsame hl hp)
  | publish called inFlight declared => exact .inl (hsame hl hp)
  | publish_unroutable called inFlight declared => exact .inl (hsame hl hp)
  | confirm called publishing taken => exact .inl (hsame hl hp)
  | publish_raises called publishing => exact .inl (hsame hl hp)
  | cancel called live => exact .inl (hsame hl hp)
  | resume called waiting done => exact .inl (hsame hl hp)
  | resolve callback mem consuming there called pending => exact .inl (herase callback hl)
  | invalid_state callback mem consuming there done => exact .inl (herase callback hl)
  | key_error callback mem consuming gone => exact .inl (herase callback hl)
  | deliver consuming fresh mem prefetch => exact .inl (hsame hl hp)
  | execute handled valid => exact .inl (hsame hl hp)
  | @reply s tag r ret handled =>
    by_cases hc : c = r.reply_to
    · subst hc
      simp only [State.setHandler_callback,State.respond,State.setCallback_callback,
        Function.update_self,Option.map_eq_some_iff] at hl
      obtain ⟨l₀,hl₀,rfl⟩ := hl
      rcases List.mem_cons.mp hp with rfl | hp
      · exact .inr ⟨tag,s,r,ret,handled,rfl,rfl⟩
      · exact .inl ⟨l₀,hl₀,hp⟩
    · exact .inl (hsame (by simpa [State.respond,Function.update_of_ne hc] using hl) hp)
  | raises handled => exact .inl (hsame hl hp)
  | ack handled => exact .inl (hsame hl hp)

/-- A return value that a handler has is new with the event `execute` only. -/
lemma Moves.returned (h : Moves N σ e σ') {tag : ℕ} {hd : Handler C S V} {ret : V}
    (hh : σ'.handlers tag = some hd) (hr : hd.state.ret? = some ret) :
    (∃ hd₀, σ.handlers tag = some hd₀ ∧ hd₀.server = hd.server ∧ hd₀.request = hd.request ∧
      hd₀.state.ret? = some ret) ∨
      (e = .execute tag ret ∧ ∃ hd₀, σ.handlers tag = some hd₀ ∧ hd₀.server = hd.server ∧
        hd₀.request = hd.request) := by
  have hsame : σ.handlers tag = some hd → ∃ hd₀, σ.handlers tag = some hd₀ ∧
      hd₀.server = hd.server ∧ hd₀.request = hd.request ∧ hd₀.state.ret? = some ret :=
    fun hs => ⟨hd,hs,rfl,rfl,hr⟩
  have hdrop : ∀ {t'}, Function.update σ.handlers t' none tag = some hd →
      σ.handlers tag = some hd := by
    intro t' hu
    by_cases ht : tag = t'
    · subst ht
      simp at hu
    · simpa [Function.update_of_ne ht] using hu
  cases h with
  | client_declare idle => exact .inl (hsame hh)
  | client_consume declared => exact .inl (hsame hh)
  | client_gone => exact .inl (hsame hh)
  | callback_lost => exact .inl (hsame hh)
  | callback_restored consuming lost => exact .inl (hsame hh)
  | server_declare idle => exact .inl (hsame hh)
  | server_consume declared => exact .inl (hsame hh)
  | server_gone => exact .inl (hsame (Option.filter_eq_some_iff.mp hh).1)
  | connection_lost => exact .inl (hsame hh)
  | call_unstarted fresh idle => exact .inl (hsame hh)
  | call fresh idle gone => exact .inl (hsame hh)
  | publish called inFlight declared => exact .inl (hsame hh)
  | publish_unroutable called inFlight declared => exact .inl (hsame hh)
  | confirm called publishing taken => exact .inl (hsame hh)
  | publish_raises called publishing => exact .inl (hsame hh)
  | cancel called live => exact .inl (hsame hh)
  | resume called waiting done => exact .inl (hsame hh)
  | resolve callback mem consuming there called pending => exact .inl (hsame hh)
  | invalid_state callback mem consuming there done => exact .inl (hsame hh)
  | key_error callback mem consuming gone => exact .inl (hsame hh)
  | @deliver s t' r consuming fresh mem prefetch =>
    by_cases ht : tag = t'
    · subst ht
      simp only [State.setHandler_handlers,Function.update_self,Option.some.injEq] at hh
      subst hh
      cases hr
    · exact .inl (hsame (by simpa [Function.update_of_ne ht] using hh))
  | @execute s t' r ret' arg handled valid =>
    by_cases ht : tag = t'
    · subst ht
      simp only [State.setHandler_handlers,Function.update_self,Option.some.injEq] at hh
      subst hh
      cases hr
      exact .inr ⟨rfl,_,handled,rfl,rfl⟩
    · exact .inl (hsame (by simpa [Function.update_of_ne ht] using hh))
  | @reply s t' r ret' handled =>
    by_cases ht : tag = t'
    · subst ht
      simp only [State.setHandler_handlers,Function.update_self,Option.some.injEq] at hh
      subst hh
      exact .inl ⟨_,handled,rfl,rfl,hr⟩
    · exact .inl (hsame (by simpa [State.respond,Function.update_of_ne ht] using hh))
  | raises handled => exact .inl (hsame (hdrop hh))
  | ack handled => exact .inl (hsame (hdrop hh))

lemma Tracks.executed_step (h : Tracks N σ t) (hm : Moves N σ e σ') {x : ℕ → List (S × V)}
    (hsub : ∀ k i, i ∈ t.executions k → i ∈ x k)
    (hnew : ∀ tag ret hd, e = .execute tag ret → σ.handlers tag = some hd →
      (hd.server,ret) ∈ x hd.request.correlation_id) :
    ∀ tag hd ret, σ'.handlers tag = some hd → hd.state.ret? = some ret →
      (hd.server,ret) ∈ x hd.request.correlation_id := by
  intro tag hd ret hh hr
  rcases hm.returned hh hr with ⟨hd₀,hh₀,hs,hq,hr₀⟩ | ⟨he,hd₀,hh₀,hs,hq⟩
  · rw [← hs,← hq]
    exact hsub _ _ (h.executed tag hd₀ ret hh₀ hr₀)
  · rw [← hs,← hq]
    exact hnew tag ret hd₀ he hh₀

lemma Tracks.replied_step (h : Tracks N σ t) (hm : Moves N σ e σ') {x : ℕ → List (S × V)}
    (hsub : ∀ k i, i ∈ t.executions k → i ∈ x k) :
    ∀ c l k body, σ'.callback c = some l → (k,body) ∈ l →
      ∃ i ∈ x k, (service N).reply i = body := by
  intro c l k body hl hmem
  rcases hm.callback_mem hl hmem with ⟨l₀,hl₀,hm₀⟩ | ⟨tag,s,r,ret,hh,-,he⟩
  · obtain ⟨i,hi,hb⟩ := h.replied c l₀ k body hl₀ hm₀
    exact ⟨i,hsub k i hi,hb⟩
  · cases he
    exact ⟨(s,ret),hsub _ _ (h.executed tag _ ret hh rfl),rfl⟩

/-- A call is new to the service as well. -/
lemma Tracks.ask (h : Tracks N σ t) {k : ℕ} {c : C} {n argument : String}
    (hm : Moves N σ (.call k c n argument) σ') :
    ∃ t', (service N).step t (.ask k (n,argument)) = some t' ∧ Tracks N σ' t' := by
  have hfresh : σ.calls k = none := by
    cases hm with
    | call_unstarted fresh => exact fresh
    | call fresh => exact fresh
  have hnew : ∃ call, σ'.calls = Function.update σ.calls k (some call) ∧ call.rpc_name = n ∧
      call.argument = argument ∧ call.future = .pending := by
    cases hm with
    | call_unstarted fresh => exact ⟨_,rfl,rfl,rfl,rfl⟩
    | call fresh => exact ⟨_,rfl,rfl,rfl,rfl⟩
  obtain ⟨call,hcalls,rfl,rfl,hfuture⟩ := hnew
  have hasked : t.asked k = none := by simp [h.asked,hfresh]
  refine ⟨_,CallService.step_of_moves (.ask hasked),h.traced.step hm,fun k' => ?_,fun k' => ?_,
    h.executed_step hm (fun _ _ hi => hi) (by simp),h.replied_step hm (fun _ _ hi => hi)⟩
  · by_cases hk : k' = k
    · subst hk
      simp [hcalls]
    · simpa [hcalls,Function.update_of_ne hk] using h.asked k'
  · by_cases hk : k' = k
    · subst hk
      simp [h.answered,hfresh,hcalls,hfuture,Future.result?]
    · simpa [hcalls,Function.update_of_ne hk] using h.answered k'

/-- A handler works on the argument of a call. -/
lemma Tracks.execute (h : Tracks N σ t) {tag : ℕ} {ret : V} (hm : Moves N σ (.execute tag ret) σ') :
    ∃ hd t', σ.handlers tag = some hd ∧ (service N).step t
      (.execute hd.request.correlation_id (hd.server,ret)) = some t' ∧ Tracks N σ' t' := by
  cases hm with
  | @execute s _ r _ arg handled valid =>
    obtain ⟨call,hcall,hn,hr⟩ := h.traced.handled tag _ handled
    have hasked : t.asked r.correlation_id = some (call.rpc_name,call.argument) := by
      simp [h.asked,hcall]
    have hbody : call.argument = r.body := congrArg Request.body hr
    have haccepts : (service N).accepts (call.rpc_name,call.argument) (s,ret) :=
      ⟨hn.symm,by simp [hbody,valid]⟩
    have hm : Moves N σ (.execute tag ret) _ := .execute handled valid
    have hsub : ∀ k i, i ∈ t.executions k → i ∈ Function.update t.executions r.correlation_id
        ((s,ret) :: t.executions r.correlation_id) k := by
      intro k i hi
      by_cases hk : k = r.correlation_id
      · subst hk
        simpa using .inr hi
      · simpa [Function.update_of_ne hk] using hi
    refine ⟨_,_,handled,CallService.step_of_moves (.execute hasked haccepts),h.traced.step hm,
      h.asked,h.answered,h.executed_step hm hsub ?_,h.replied_step hm hsub⟩
    intro tag' ret' hd he hh
    cases he
    rw [handled] at hh
    cases hh
    simp

/-- A response that sets a future brings the reply of an execution. -/
lemma Tracks.answer (h : Tracks N σ t) {c : C} {k : ℕ} {body : String}
    (hm : Moves N σ (.on_response c k body) σ') (hres : σ.resolves c k = true) :
    ∃ t', (service N).step t (.answer k body) = some t' ∧ Tracks N σ' t' := by
  have hm' := hm
  cases hm with
  | @resolve _ _ _ l call callback mem consuming there called pending =>
    obtain ⟨i,hi,rfl⟩ := h.replied c l k body callback mem
    have hnone : t.answer k = none := by simp [h.answered,called,pending,Future.result?]
    refine ⟨_,CallService.step_of_moves (.answer hnone hi),h.traced.step hm',fun k' => ?_,
      fun k' => ?_,h.executed_step hm' (fun _ _ hi => hi) (by simp),
      h.replied_step hm' (fun _ _ hi => hi)⟩
    · by_cases hk : k' = k
      · subst hk
        simp [h.asked,called]
      · simpa [Function.update_of_ne hk] using h.asked k'
    · by_cases hk : k' = k
      · subst hk
        simp [Future.result?]
      · simpa [Function.update_of_ne hk] using h.answered k'
  | invalid_state callback mem consuming there done =>
    simp only [State.resolves,there,Bool.true_and,Option.any_eq_true,decide_eq_true_eq] at hres
    obtain ⟨call,hcall,hpending⟩ := hres
    exact absurd hpending (done call hcall)
  | key_error callback mem consuming gone => simp [State.resolves,gone] at hres

/-- The other steps change nothing that the abstract service sees. -/
lemma Tracks.quiet (h : Tracks N σ t) (hm : Moves N σ e σ') (hact : act σ e = none) :
    Tracks N σ' t := by
  have hview : ∀ k, (σ'.calls k).map Call.view = (σ.calls k).map Call.view := by
    intro k
    by_cases hresp : ∃ c b, e = .on_response c k b
    · obtain ⟨c,b,rfl⟩ := hresp
      cases hm with
      | resolve callback mem consuming there called pending =>
        simp [act,State.resolves,there,called,pending] at hact
      | invalid_state => rfl
      | key_error => rfl
    · refine hm.view_eq (fun c n a he => ?_) (fun c b he => hresp ⟨c,b,he⟩)
      subst he
      cases hact
  refine ⟨h.traced.step hm,fun k => (h.asked k).trans (asked_of_view (hview k)).symm,
    fun k => (h.answered k).trans (answered_of_view (hview k)).symm,
    h.executed_step hm (fun _ _ hi => hi) ?_,h.replied_step hm (fun _ _ hi => hi)⟩
  intro tag ret hd he hh
  subst he
  simp [act,hh] at hact

/-- The code refines the call service. -/
theorem refines_service (N : Network S V) :
    (machine (C := C) N).Refines (fun _ _ => True) (service N).machine act (Tracks N) where
  init σ hσ := by
    obtain rfl := hσ
    refine ⟨_,rfl,traced_empty,fun k => rfl,fun k => rfl,?_,?_⟩
    · intro tag hd ret hh
      cases hh
    · intro c l k body hl
      cases hl
  quiet σ e σ' t ht _ hs hact := ht.quiet (moves_of_step hs) hact
  acts σ e σ' t d ht _ hs hact := by
    have hm := moves_of_step hs
    cases e with
    | call k c n argument =>
      cases hact
      exact ht.ask hm
    | execute tag ret =>
      obtain ⟨hd,t',hh,hstep,ht'⟩ := ht.execute hm
      simp only [act,hh,Option.map_some,Option.some.injEq] at hact
      exact ⟨t',hact ▸ hstep,ht'⟩
    | on_response c k body =>
      simp only [act] at hact
      split at hact
      · rename_i hres
        cases hact
        exact ht.answer hm hres
      · cases hact
    | _ => cases hact

/-! ## What a call returns -/

/-- A call returns what its future has. -/
def ReturnsResult (σ : State C S V) : Prop :=
  ∀ k call body, σ.calls k = some call → call.status = .returned body → call.future = .result body

omit [DecidableEq C] [DecidableEq S] in
lemma ReturnsResult.setCall (h : ReturnsResult σ) {k : ℕ} {call : Call C}
    (hcall : ∀ body, call.status = .returned body → call.future = .result body) :
    ReturnsResult (σ.setCall k call) := by
  intro k' call' body hk' hret
  by_cases hk : k' = k
  · subst hk
    simp only [State.setCall_calls,Function.update_self,Option.some.injEq] at hk'
    subst hk'
    exact hcall body hret
  · exact h k' call' body (by simpa [Function.update_of_ne hk] using hk') hret

theorem ReturnsResult.step (h : ReturnsResult σ) (hm : Moves N σ e σ') : ReturnsResult σ' := by
  cases hm with
  | client_declare idle => exact h
  | client_consume declared => exact h
  | @client_gone c =>
    intro k call body hk hret
    obtain ⟨call₀,hk₀,rfl⟩ := Option.map_eq_some_iff.mp hk
    split at hret
    · unfold Call.kill at hret
      split at hret
      · cases hret
      · rename_i hc hdead
        have hresult := h k call₀ body hk₀ hret
        simpa [hc,Call.kill,hdead] using hresult
    · rename_i hc
      simpa [hc] using h k call₀ body hk₀ hret
  | callback_lost => exact h
  | callback_restored consuming lost => exact h
  | server_declare idle => exact h
  | server_consume declared => exact h
  | server_gone => exact h
  | connection_lost => exact h
  | call_unstarted fresh idle => exact h.setCall (by simp)
  | call fresh idle gone => exact h.setCall (by simp)
  | @publish k call called inFlight declared =>
    exact h.setCall fun body hret => h k call body called hret
  | @publish_unroutable k call called inFlight declared =>
    exact h.setCall fun body hret => h k call body called hret
  | confirm called publishing taken => exact h.setCall (by simp)
  | publish_raises called publishing => exact h.setCall (by simp)
  | cancel called live =>
    refine h.setCall fun body hret => ?_
    unfold Call.cancel at hret
    split at hret <;> cases hret
  | resume called waiting done =>
    refine h.setCall fun body hret => ?_
    cases hret
    exact done
  | resolve callback mem consuming there called pending =>
    refine ReturnsResult.setCall (fun k call body hk => h k call body hk) fun body hret => ?_
    have hresult := h _ _ body called hret
    rw [pending] at hresult
    cases hresult
  | invalid_state callback mem consuming there done => exact h
  | key_error callback mem consuming gone => exact h
  | deliver consuming fresh mem prefetch => exact h
  | execute handled valid => exact h
  | reply handled => exact h
  | raises handled => exact h
  | ack handled => exact h

section Runs
variable {K : State C S V → Event C S V → Prop} {tr : List (State C S V × Event C S V)}

theorem returnsResult_of_run (h : (machine N).Run K tr σ) : ReturnsResult σ := by
  refine h.invariant (I := fun _ => ReturnsResult) ?_ ?_
  · rintro _ rfl k call body hk
    cases hk
  · intro tr s e s' _ hi _ hs
    exact hi.step (moves_of_step hs)

/-- The result of a future was computed by a handler of the call's own message. -/
theorem exists_execute_of_result (h : (machine N).Run K tr σ) {k : ℕ} {call : Call C} {body : String}
    (hk : σ.calls k = some call) (hb : call.future = .result body) :
    ∃ σ₀ tag s r ret, (σ₀,.execute tag ret) ∈ tr ∧ σ₀.handlers tag = some ⟨s,r,.received⟩ ∧
      r = call.request k ∧ N.rpc_name s = call.rpc_name ∧
      encodeReceipt (N.receipt_type s) ret = body := by
  obtain ⟨tr',t,hrun,ht,hmap⟩ := (refines_service N).run (h.mono fun _ _ _ => trivial)
  have hanswer : t.answer k = some body := by simp [ht.answered,hk,hb,Future.result?]
  obtain ⟨⟨s,ret⟩,hi,hreply⟩ := CallService.answer_sound hrun hanswer
  obtain ⟨hmem,-⟩ := CallService.mem_executions hrun hi
  rw [hmap,Machine.mem_acted] at hmem
  obtain ⟨σ₀,e,hmem,hact⟩ := hmem
  have hexec : ∃ tag hd, e = .execute tag ret ∧ σ₀.handlers tag = some hd ∧
      hd.request.correlation_id = k ∧ hd.server = s := by
    cases e with
    | execute tag ret' =>
      obtain ⟨hd,hh,he⟩ := Option.map_eq_some_iff.mp hact
      cases he
      exact ⟨tag,hd,rfl,hh,rfl,rfl⟩
    | call => cases hact
    | on_response c k' b =>
      simp only [act] at hact
      split at hact <;> cases hact
    | _ => cases hact
  obtain ⟨tag,hd,rfl,hh,hid,rfl⟩ := hexec
  obtain ⟨σ₁,hstep⟩ := h.taken hmem
  have hmoves : Moves N σ₀ (.execute tag ret) σ₁ := moves_of_step hstep
  cases hmoves with
  | @execute s _ r _ arg handled valid =>
    rw [hh] at handled
    cases handled
    obtain ⟨trb,hbefore⟩ : ∃ trb, (machine N).Run K trb σ₀ := h.before hmem
    have htraced : Traced N σ₀ := hbefore.invariant (I := fun _ => Traced N)
      (by rintro _ rfl; exact traced_empty) fun _ _ _ _ _ hi _ hs => hi.step (moves_of_step hs)
    obtain ⟨call',hcall',hn,hr⟩ := h.keeps
      (fun _ _ _ hs hP => Sent.step (moves_of_step hs) hP) hmem (htraced.handled tag _ hh)
    simp only at hid hcall' hn hr hreply
    rw [hid,hk] at hcall'
    cases hcall'
    exact ⟨σ₀,tag,s,r,ret,hmem,hh,by rw [← hid]; exact hr.symm,hn.symm,hreply⟩

end Runs

/-! ## The procedures of kGym -/

/-- `SchedulerServerBase` and the two servers of a worker, known by its hostname. -/
inductive Procedure
  | get_system_config
  | focus_job
  | update_job
  | abort_job (worker_hostname : String)
  | yield_job (worker_hostname : String)
  deriving DecidableEq

def Procedure.rpc_name : Procedure → String
  | .get_system_config => "scheduler.get_system_config"
  | .focus_job => "scheduler.focus_job"
  | .update_job => "scheduler.update_job"
  | .abort_job worker_hostname => "workers." ++ worker_hostname ++ ".abort_job"
  | .yield_job worker_hostname => "workers." ++ worker_hostname ++ ".yield_job"

/-- The models of `kcore/models.py` that the procedures take and return. -/
structure Models (V : Type) where
  SystemConfigRequest : ModelType V
  SystemConfig : ModelType V
  JobFocusRequest : ModelType V
  JobFocusReceipt : ModelType V
  JobUpdateRequest : ModelType V
  JobAbortRequest : ModelType V
  JobYieldRequest : ModelType V

/-- The request type of a procedure, at its server and at `SchedulerClient` or `WorkerControl`. -/
def Procedure.request_type (M : Models V) : Procedure → ModelType V
  | .get_system_config => M.SystemConfigRequest
  | .focus_job => M.JobFocusRequest
  | .update_job => M.JobUpdateRequest
  | .abort_job _ => M.JobAbortRequest
  | .yield_job _ => M.JobYieldRequest

def Procedure.receipt_type (M : Models V) : Procedure → Option (ModelType V)
  | .get_system_config => some M.SystemConfig
  | .focus_job => some M.JobFocusReceipt
  | _ => none

/-- Any number of processes may serve a procedure. -/
def kgym (M : Models V) : Network (Procedure × ℕ) V where
  rpc_name s := s.1.rpc_name
  request_type s := s.1.request_type M
  receipt_type s := s.1.receipt_type M

lemma append_right_injective (a b c : String) (h : a ++ b = a ++ c) : b = c := by
  rw [← String.toList_inj] at h ⊢
  simpa using h

lemma append_left_inj_of_length {a b c d : String} (hl : c.length = d.length)
    (h : a ++ c = b ++ d) : a = b ∧ c = d := by
  rw [← String.toList_inj] at h
  simp only [String.toList_append] at h
  have hlen : c.toList.length = d.toList.length := by rw [String.length_toList,String.length_toList,hl]
  obtain ⟨ha,hc⟩ := List.append_inj' h hlen
  exact ⟨String.toList_inj.mp ha,String.toList_inj.mp hc⟩

/-- A queue of a worker is no queue of the scheduler. -/
lemma workers_ne_scheduler (a b : String) : "workers." ++ a ≠ "scheduler." ++ b := by
  intro h
  rw [← String.toList_inj] at h
  simp at h

theorem rpc_name_injective : Function.Injective Procedure.rpc_name := by
  have hworkers : ∀ {h h' c c' : String}, c.length = c'.length →
      "workers." ++ h ++ c = "workers." ++ h' ++ c' → h = h' ∧ c = c' := by
    intro h h' c c' hl he
    obtain ⟨hh,hc⟩ := append_left_inj_of_length hl he
    exact ⟨append_right_injective _ _ _ hh,hc⟩
  have hscheduler : ∀ (h c d : String), "workers." ++ h ++ c ≠ "scheduler." ++ d := by
    intro h c d he
    exact workers_ne_scheduler (h ++ c) d (by rwa [← String.append_assoc])
  have h1 : Procedure.get_system_config.rpc_name = "scheduler." ++ "get_system_config" := by decide
  have h2 : Procedure.focus_job.rpc_name = "scheduler." ++ "focus_job" := by decide
  have h3 : Procedure.update_job.rpc_name = "scheduler." ++ "update_job" := by decide
  intro p q he
  cases p <;> cases q <;> first
    | rfl
    | (rw [h1] at he; exact absurd he.symm (hscheduler _ _ _))
    | (rw [h2] at he; exact absurd he.symm (hscheduler _ _ _))
    | (rw [h3] at he; exact absurd he.symm (hscheduler _ _ _))
    | (rw [h1] at he; exact absurd he (hscheduler _ _ _))
    | (rw [h2] at he; exact absurd he (hscheduler _ _ _))
    | (rw [h3] at he; exact absurd he (hscheduler _ _ _))
    | (obtain ⟨rfl,hc⟩ := hworkers (by decide) he; first | rfl | exact absurd hc (by decide))
    | exact absurd he (by decide)

lemma decode_encodeReceipt {T : Option (ModelType V)} {ret : V}
    (h : ∀ U, T = some U → U.isinstance ret = true) :
    decodeReceipt T (encodeReceipt T ret) = some (T.map fun _ => ret) := by
  cases T with
  | none => rfl
  | some U => simp [decodeReceipt,encodeReceipt,U.validate_dump ret (h U rfl)]

end Refinement

/-! ## Results -/

/-! A run in which the request is handled twice: the first handler raises after its reply, and the
second reply finds no future. -/

def text : ModelType String := ⟨fun _ => true,id,some,fun _ _ => rfl⟩

def texts : Models String := ⟨text,text,text,text,text,text,text⟩

def focusing : Procedure × ℕ := (.focus_job,0)

def focusRequest : Request ℕ := ⟨"00000001",7,0⟩

def handledTwice : List (Event ℕ (Procedure × ℕ) String) :=
  [.client_declare 0,.client_consume 0,.server_declare focusing,.server_consume focusing,
   .call 7 0 "scheduler.focus_job" "00000001",.publish 7,.confirm 7,
   .deliver focusing 1 focusRequest,.execute 1 "denied",.reply 1,.raises 1,
   .deliver focusing 2 focusRequest,.execute 2 "granted",.reply 2,.ack 2,
   .on_response 0 7 "denied",.on_response 0 7 "granted",.resume 7]

/-- The call has returned, with what the first handler computed. -/
def returnedDenied (σ : State ℕ (Procedure × ℕ) String) : Bool :=
  (σ.calls 7).any fun call => call.rpc_name = "scheduler.focus_job" ∧
    call.argument = "00000001" ∧ call.status = .returned "denied"

lemma exists_call_of_returnedDenied {σ : State ℕ (Procedure × ℕ) String}
    (h : returnedDenied σ = true) : ∃ call, σ.calls 7 = some call ∧
      call.rpc_name = "scheduler.focus_job" ∧ call.argument = "00000001" ∧
      call.status = .returned "denied" := by
  cases hk : σ.calls 7 with
  | none => simp [returnedDenied,hk] at h
  | some call => exact ⟨call,rfl,by simpa [returnedDenied,hk] using h⟩

theorem exists_handledTwice : ∃ tr σ, (machine (kgym texts)).Run (fun _ _ => True) tr σ ∧
    returnedDenied σ = true :=
  Machine.exists_run_of_replay (machine (kgym texts)) (fun _ _ => True) handledTwice
    (fun _ => returnedDenied) rfl (by decide +kernel)

section Results
variable [DecidableEq C] [DecidableEq S]

/-- What a call of a procedure of kGym returns is what that procedure returned for the argument of
this very call, read back from the messages as it was. -/
theorem returned_by_procedure {M : Models V} {σ : State C (Procedure × ℕ) V}
    {K : State C (Procedure × ℕ) V → Event C (Procedure × ℕ) V → Prop}
    {tr : List (State C (Procedure × ℕ) V × Event C (Procedure × ℕ) V)}
    (h : (machine (kgym M)).Run K tr σ) {p : Procedure} {arg : V}
    (harg : (p.request_type M).isinstance arg = true) {k : ℕ} {call : Call C} {body : String}
    (hk : σ.calls k = some call) (hname : call.rpc_name = p.rpc_name)
    (hargument : call.argument = (p.request_type M).model_dump_json arg)
    (hret : call.status = .returned body) :
    ∃ σ₀ tag i r ret, (σ₀,.execute tag ret) ∈ tr ∧ σ₀.handlers tag = some ⟨(p,i),r,.received⟩ ∧
      r.correlation_id = k ∧ (p.request_type M).model_validate_json r.body = some arg ∧
      ((∀ T, p.receipt_type M = some T → T.isinstance ret = true) →
        decodeReceipt (p.receipt_type M) body = some ((p.receipt_type M).map fun _ => ret)) := by
  have hfuture := returnsResult_of_run h k call body hk hret
  obtain ⟨σ₀,tag,⟨q,i⟩,r,ret,hmem,hh,rfl,hs,rfl⟩ := exists_execute_of_result h hk hfuture
  obtain rfl : q = p := rpc_name_injective (hs.trans hname)
  refine ⟨σ₀,tag,i,_,ret,hmem,hh,rfl,?_,decode_encodeReceipt⟩
  rw [Call.request,hargument]
  exact (q.request_type M).validate_dump arg harg

theorem returned_by_procedure_handledTwice :
    ∃ (tr : List (State ℕ (Procedure × ℕ) String × Event ℕ (Procedure × ℕ) String))
      (σ₀ : State ℕ (Procedure × ℕ) String) (tag i : ℕ) (r : Request ℕ) (ret : String),
      (σ₀,.execute tag ret) ∈ tr ∧ σ₀.handlers tag = some ⟨(.focus_job,i),r,.received⟩ ∧
      r.correlation_id = 7 ∧ decodeReceipt (some text) "denied" = some (some ret) := by
  obtain ⟨tr,σ,hrun,hp⟩ := exists_handledTwice
  obtain ⟨call,hk,hname,harg,hret⟩ := exists_call_of_returnedDenied hp
  obtain ⟨σ₀,tag,i,r,ret,hmem,hh,hid,-,hdecode⟩ := returned_by_procedure hrun (p := .focus_job)
    (by rfl) hk hname harg hret
  refine ⟨tr,σ₀,tag,i,r,ret,hmem,hh,hid,hdecode fun T hT => ?_⟩
  cases hT
  rfl

end Results
end LiveKBench.KCore.Rpc
