import LiveKBench.KCore.RpcAnswers

/-! No request and no reply is lost. As long as a request is published to a queue that exists and the
callback queue of its client stays, a call that waits has its message on the way to the broker, in
the queue of its procedure, or its reply in the callback queue, through every crash and every
exception of the servers. -/
namespace LiveKBench.KCore.Rpc
open Lib
variable {C S V : Type} {N : Network S V} {σ σ' : State C S V}

/-- The client has its callback queue. -/
def Phase.isOpen : Phase → Bool
  | .declared => true
  | .consuming => true
  | _ => false

/-- A reply to the call is in the callback queue of its client. -/
def InCallback (σ : State C S V) (k : ℕ) (call : Call C) : Prop :=
  ∃ l body, σ.callback call.client = some l ∧ (k,body) ∈ l

/-- The call still waits for its future. -/
def Call.Waits (call : Call C) : Prop := call.isLive = true ∧ call.future = .pending

/-- The event loses no reply and sends no request to a queue that does not exist. -/
def Lossless (σ : State C S V) (e : Event C S V) : Prop :=
  (∀ c, e ≠ .callback_lost c) ∧
    ∀ k call, e = .publish k → σ.calls k = some call → σ.declared call.rpc_name = true

section Frame
variable [DecidableEq C] [DecidableEq S] {e : Event C S V}

/-- A call goes on as it was called. -/
structure Continues (e : Event C S V) (k : ℕ) (call call' : Call C) : Prop where
  client : call'.client = call.client
  rpc_name : call'.rpc_name = call.rpc_name
  argument : call'.argument = call.argument
  live : call'.isLive = true → call.isLive = true
  pending : call'.future = .pending → call.future = .pending
  settled : call.future ≠ .pending → call'.future = call.future
  inFlight : call.inFlight = true → call'.inFlight = true ∨ e = .publish k
  taken : call'.inFlight = true → call.inFlight = true

omit [DecidableEq C] [DecidableEq S] in
lemma Continues.refl (k : ℕ) (call : Call C) : Continues e k call call :=
  ⟨rfl,rfl,rfl,id,id,fun _ => rfl,.inl,id⟩

omit [DecidableEq C] [DecidableEq S] in
lemma Continues.waits {k : ℕ} {call call' : Call C} (h : Continues e k call call')
    (hw : call'.Waits) : call.Waits := ⟨h.live hw.1,h.pending hw.2⟩

omit [DecidableEq C] [DecidableEq S] in
lemma continues_update {k k' : ℕ} {call₀ call₁ call' : Call C}
    (hk' : Function.update σ.calls k (some call₁) k' = some call') (called : σ.calls k = some call₀)
    (hc : Continues e k call₀ call₁) :
    ∃ call, σ.calls k' = some call ∧ Continues e k' call call' := by
  by_cases hk : k' = k
  · subst hk
    simp only [Function.update_self,Option.some.injEq] at hk'
    subst hk'
    exact ⟨call₀,called,hc⟩
  · exact ⟨call',by simpa [Function.update_of_ne hk] using hk',.refl k' call'⟩

omit [DecidableEq C] [DecidableEq S] in
lemma continues_kill (k : ℕ) (call : Call C) : Continues e k call call.kill := by
  unfold Call.kill
  split
  · exact ⟨rfl,rfl,rfl,by simp [Call.isLive],id,fun _ => rfl,.inl,id⟩
  · exact .refl k call

omit [DecidableEq C] [DecidableEq S] in
lemma continues_cancel (k : ℕ) (call : Call C) : Continues e k call call.cancel := by
  unfold Call.cancel
  split
  · next hc => exact ⟨rfl,rfl,rfl,by simp [Call.isLive],by simp,fun hp => absurd hc.2 hp,.inl,id⟩
  · exact ⟨rfl,rfl,rfl,by simp [Call.isLive],id,fun _ => rfl,.inl,id⟩

/-- Every call after a step was one before, or is called by it. -/
theorem Moves.call_from (h : Moves N σ e σ') {k : ℕ} {call' : Call C}
    (hk : σ'.calls k = some call') :
    (∃ call, σ.calls k = some call ∧ Continues e k call call') ∨
      (σ.calls k = none ∧ e = .call k call'.client call'.rpc_name call'.argument ∧
        (call'.isLive = true → call'.inFlight = true ∧
          (σ.clients call'.client).phase.isOpen = true)) := by
  have hsame : σ.calls k = some call' → ∃ call, σ.calls k = some call ∧ Continues e k call call' :=
    fun hs => ⟨call',hs,.refl k call'⟩
  cases h with
  | client_declare idle => exact .inl (hsame hk)
  | client_consume declared => exact .inl (hsame hk)
  | @client_gone c =>
    obtain ⟨call,hcall,rfl⟩ := Option.map_eq_some_iff.mp hk
    refine .inl ⟨call,hcall,?_⟩
    split
    · exact continues_kill k call
    · exact .refl k call
  | callback_lost => exact .inl (hsame hk)
  | callback_restored consuming lost => exact .inl (hsame hk)
  | server_declare idle => exact .inl (hsame hk)
  | server_consume declared => exact .inl (hsame hk)
  | server_gone => exact .inl (hsame hk)
  | connection_lost => exact .inl (hsame hk)
  | @call_unstarted k' c n a fresh idle =>
    by_cases hkk : k = k'
    · subst hkk
      simp only [State.setCall_calls,Function.update_self,Option.some.injEq] at hk
      subst hk
      exact .inr ⟨fresh,rfl,by simp [Call.isLive]⟩
    · exact .inl (hsame (by simpa [Function.update_of_ne hkk] using hk))
  | @call k' c n a fresh idle gone =>
    by_cases hkk : k = k'
    · subst hkk
      simp only [State.setCall_calls,Function.update_self,Option.some.injEq] at hk
      subst hk
      refine .inr ⟨fresh,rfl,fun _ => ⟨rfl,?_⟩⟩
      cases hp : (σ.clients c).phase with
      | idle => exact absurd hp idle
      | gone => exact absurd hp gone
      | declared => rfl
      | consuming => rfl
    · exact .inl (hsame (by simpa [Function.update_of_ne hkk] using hk))
  | publish called inFlight declared =>
    exact .inl (continues_update hk called ⟨rfl,rfl,rfl,id,id,fun _ => rfl,fun _ => .inr rfl,by simp⟩)
  | publish_unroutable called inFlight declared =>
    exact .inl (continues_update hk called ⟨rfl,rfl,rfl,id,id,fun _ => rfl,fun _ => .inr rfl,by simp⟩)
  | confirm called publishing taken =>
    refine .inl (continues_update hk called ⟨rfl,rfl,rfl,?_,id,fun _ => rfl,.inl,id⟩)
    exact fun _ => by simp [Call.isLive,publishing]
  | publish_raises called publishing =>
    exact .inl (continues_update hk called
      ⟨rfl,rfl,rfl,by simp [Call.isLive],id,fun _ => rfl,.inl,id⟩)
  | cancel called live => exact .inl (continues_update hk called (continues_cancel _ _))
  | resume called waiting done =>
    exact .inl (continues_update hk called
      ⟨rfl,rfl,rfl,by simp [Call.isLive],id,fun _ => rfl,.inl,id⟩)
  | resolve callback mem consuming there called pending =>
    exact .inl (continues_update hk called
      ⟨rfl,rfl,rfl,id,by simp,fun hp => absurd pending hp,.inl,id⟩)
  | invalid_state callback mem consuming there done => exact .inl (hsame hk)
  | key_error callback mem consuming gone => exact .inl (hsame hk)
  | deliver consuming fresh mem prefetch => exact .inl (hsame hk)
  | execute handled valid => exact .inl (hsame hk)
  | reply handled => exact .inl (hsame hk)
  | raises handled => exact .inl (hsame hk)
  | ack handled => exact .inl (hsame hk)

/-- The registered futures change with the calls and the responses of the client. -/
theorem Moves.futures_eq (h : Moves N σ e σ') {c : C} {k : ℕ} (hcall : ∀ n a, e ≠ .call k c n a)
    (hresp : ∀ b, e ≠ .on_response c k b) :
    (σ'.clients c).futures k = (σ.clients c).futures k := by
  have hphase : ∀ {c' p}, (Function.update σ.clients c' { σ.clients c' with phase := p } c).futures k =
      (σ.clients c).futures k := by
    intro c' p
    by_cases hc : c = c'
    · subst hc
      simp
    · simp [Function.update_of_ne hc]
  have hset : ∀ {c' k' b}, (c',k') ≠ (c,k) → (Function.update σ.clients c' { σ.clients c' with
      futures := Function.update (σ.clients c').futures k' b } c).futures k =
      (σ.clients c).futures k := by
    intro c' k' b hne
    by_cases hc : c = c'
    · subst hc
      have hk : k ≠ k' := by
        rintro rfl
        exact hne rfl
      simp [Function.update_of_ne hk]
    · simp [Function.update_of_ne hc]
  cases h with
  | client_declare idle => exact hphase
  | client_consume declared => exact hphase
  | client_gone => exact hphase
  | callback_lost => rfl
  | callback_restored consuming lost => rfl
  | server_declare idle => rfl
  | server_consume declared => rfl
  | server_gone => rfl
  | connection_lost => rfl
  | @call_unstarted k' c' n a fresh idle =>
    refine hset fun he => ?_
    cases he
    exact hcall n a rfl
  | @call k' c' n a fresh idle gone =>
    refine hset fun he => ?_
    cases he
    exact hcall n a rfl
  | publish called inFlight declared => rfl
  | publish_unroutable called inFlight declared => rfl
  | confirm called publishing taken => rfl
  | publish_raises called publishing => rfl
  | cancel called live => rfl
  | resume called waiting done => rfl
  | @resolve c' k' body l call callback mem consuming there called pending =>
    refine hset fun he => ?_
    cases he
    exact hresp body rfl
  | @invalid_state c' k' body l callback mem consuming there done =>
    refine hset fun he => ?_
    cases he
    exact hresp body rfl
  | key_error callback mem consuming gone => rfl
  | deliver consuming fresh mem prefetch => rfl
  | execute handled valid => rfl
  | reply handled => rfl
  | raises handled => rfl
  | ack handled => rfl

/-- Only the client's own start and end change whether it has its queue. -/
theorem Moves.isOpen_eq (h : Moves N σ e σ') {c : C} (hdeclare : e ≠ .client_declare c)
    (hgone : e ≠ .client_gone c) :
    (σ'.clients c).phase.isOpen = (σ.clients c).phase.isOpen := by
  have hset : ∀ {c' k' b}, (Function.update σ.clients c' { σ.clients c' with
      futures := Function.update (σ.clients c').futures k' b } c).phase = (σ.clients c).phase := by
    intro c' k' b
    by_cases hc : c = c'
    · subst hc
      simp
    · simp [Function.update_of_ne hc]
  cases h with
  | @client_declare c' idle =>
    have hc : c ≠ c' := by
      rintro rfl
      exact hdeclare rfl
    simp [Function.update_of_ne hc]
  | @client_consume c' declared =>
    by_cases hc : c = c'
    · subst hc
      simp [declared,Phase.isOpen]
    · simp [Function.update_of_ne hc]
  | @client_gone c' =>
    have hc : c ≠ c' := by
      rintro rfl
      exact hgone rfl
    simp [Function.update_of_ne hc]
  | callback_lost => rfl
  | callback_restored consuming lost => rfl
  | server_declare idle => rfl
  | server_consume declared => rfl
  | server_gone => rfl
  | connection_lost => rfl
  | call_unstarted fresh idle => exact congrArg Phase.isOpen hset
  | call fresh idle gone => exact congrArg Phase.isOpen hset
  | publish called inFlight declared => rfl
  | publish_unroutable called inFlight declared => rfl
  | confirm called publishing taken => rfl
  | publish_raises called publishing => rfl
  | cancel called live => rfl
  | resume called waiting done => rfl
  | resolve callback mem consuming there called pending => exact congrArg Phase.isOpen hset
  | invalid_state callback mem consuming there done => exact congrArg Phase.isOpen hset
  | key_error callback mem consuming gone => rfl
  | deliver consuming fresh mem prefetch => rfl
  | execute handled valid => rfl
  | reply handled => rfl
  | raises handled => rfl
  | ack handled => rfl

/-- A reply leaves its queue with the queue, or when the client takes it. -/
theorem Moves.callback_keep (h : Moves N σ e σ') {c : C} {l : List (ℕ × String)} {p : ℕ × String}
    (hl : σ.callback c = some l) (hp : p ∈ l) (hdeclare : e ≠ .client_declare c)
    (hgone : e ≠ .client_gone c) (hlost : e ≠ .callback_lost c)
    (hresp : e ≠ .on_response c p.1 p.2) : ∃ l', σ'.callback c = some l' ∧ p ∈ l' := by
  have hsame : ∃ l', σ.callback c = some l' ∧ p ∈ l' := ⟨l,hl,hp⟩
  have hset : ∀ {c' l'}, c' ≠ c → ∃ l'', Function.update σ.callback c' l' c = some l'' ∧ p ∈ l'' := by
    intro c' l' hne
    exact ⟨l,by simp [Function.update_of_ne (Ne.symm hne),hl],hp⟩
  have herase : ∀ {c' k b l'}, σ.callback c' = some l' → e = .on_response c' k b →
      ∃ l'', Function.update σ.callback c' (some (l'.erase (k,b))) c = some l'' ∧ p ∈ l'' := by
    intro c' k b l' hl' he
    by_cases hc : c' = c
    · subst hc
      rw [hl] at hl'
      cases hl'
      have hne : p ≠ (k,b) := by
        rintro rfl
        exact hresp he
      exact ⟨_,Function.update_self _ _ _,(List.mem_erase_of_ne hne).mpr hp⟩
    · exact hset hc
  cases h with
  | client_declare idle => exact hset fun hc => hdeclare (by rw [hc])
  | client_consume declared => exact hsame
  | client_gone => exact hset fun hc => hgone (by rw [hc])
  | callback_lost => exact hset fun hc => hlost (by rw [hc])
  | @callback_restored c' consuming lost =>
    refine hset fun hc => ?_
    rw [hc,hl] at lost
    cases lost
  | server_declare idle => exact hsame
  | server_consume declared => exact hsame
  | server_gone => exact hsame
  | connection_lost => exact hsame
  | call_unstarted fresh idle => exact hsame
  | call fresh idle gone => exact hsame
  | publish called inFlight declared => exact hsame
  | publish_unroutable called inFlight declared => exact hsame
  | confirm called publishing taken => exact hsame
  | publish_raises called publishing => exact hsame
  | cancel called live => exact hsame
  | resume called waiting done => exact hsame
  | resolve callback mem consuming there called pending => exact herase callback rfl
  | invalid_state callback mem consuming there done => exact herase callback rfl
  | key_error callback mem consuming gone => exact herase callback rfl
  | deliver consuming fresh mem prefetch => exact hsame
  | execute handled valid => exact hsame
  | @reply s tag r ret handled =>
    by_cases hc : c = r.reply_to
    · subst hc
      refine ⟨(r.correlation_id,encodeReceipt (N.receipt_type s) ret) :: l,?_,
        List.mem_cons_of_mem _ hp⟩
      simp only [State.setHandler_callback,State.respond,State.setCallback_callback,
        Function.update_self,hl,Option.map_some]
    · exact ⟨l,by simp [State.respond,Function.update_of_ne hc,hl],hp⟩
  | raises handled => exact hsame
  | ack handled => exact hsame

omit [DecidableEq C] [DecidableEq S] in
lemma posted_of_setQueue {n n' : String} {b : Inbox (S × ℕ) (Request C)} {r : Request C}
    (hb : Posted σ n r → r ∈ b.ready ∨ ∃ key, (key,r) ∈ b.unacked) (h : Posted σ n' r) :
    Posted (σ.setQueue n b) n' r := by
  by_cases hn : n' = n
  · subst hn
    simpa [Posted] using hb h
  · simpa [Posted,Function.update_of_ne hn] using h

omit [DecidableEq C] in
lemma takeBack_of_mem {s : S} {b : Inbox (S × ℕ) (Request C)} {r : Request C}
    (h : r ∈ b.ready ∨ ∃ key, (key,r) ∈ b.unacked) :
    r ∈ (takeBack s b).ready ∨ ∃ key, (key,r) ∈ (takeBack s b).unacked := by
  rcases h with h | ⟨key,h⟩
  · exact .inl (List.mem_append_right _ h)
  · by_cases hs : key.1 = s
    · exact .inl (List.mem_append_left _ (List.mem_map.mpr
        ⟨(key,r),List.mem_filter.mpr ⟨h,by simpa using hs⟩,rfl⟩))
    · exact .inr ⟨key,List.mem_filter.mpr ⟨h,by simpa using hs⟩⟩

/-- A request leaves its queue only when it is acknowledged. -/
theorem Moves.posted_keep (h : Moves N σ e σ') {n : String} {r : Request C} (hp : Posted σ n r) :
    Posted σ' n r ∨ ∃ tag s r' ret, e = .ack tag ∧ σ.handlers tag = some ⟨s,r',.replied ret⟩ ∧
      n = N.rpc_name s ∧ ((s,tag),r) ∈ (σ.queue n).unacked := by
  cases h with
  | client_declare idle => exact .inl hp
  | client_consume declared => exact .inl hp
  | client_gone => exact .inl hp
  | callback_lost => exact .inl hp
  | callback_restored consuming lost => exact .inl hp
  | server_declare idle => exact .inl hp
  | server_consume declared => exact .inl hp
  | server_gone => exact .inl (posted_of_setQueue (σ := σ) takeBack_of_mem hp)
  | connection_lost => exact .inl (posted_of_setQueue takeBack_of_mem hp)
  | call_unstarted fresh idle => exact .inl hp
  | call fresh idle gone => exact .inl hp
  | publish called inFlight declared =>
    exact .inl (posted_of_setQueue (σ := σ) (Or.imp_left (List.mem_cons_of_mem _)) hp)
  | publish_unroutable called inFlight declared => exact .inl hp
  | confirm called publishing taken => exact .inl hp
  | publish_raises called publishing => exact .inl hp
  | cancel called live => exact .inl hp
  | resume called waiting done => exact .inl hp
  | resolve callback mem consuming there called pending => exact .inl hp
  | invalid_state callback mem consuming there done => exact .inl hp
  | key_error callback mem consuming gone => exact .inl hp
  | @deliver s tag r' consuming fresh mem prefetch =>
    refine .inl (posted_of_setQueue (fun hb => ?_) hp)
    rcases hb with hb | ⟨key,hb⟩
    · by_cases hr : r = r'
      · exact .inr ⟨(s,tag),hr ▸ List.mem_cons_self⟩
      · exact .inl (Inbox.mem_ready_take hb hr)
    · exact .inr ⟨key,List.mem_cons_of_mem _ hb⟩
  | execute handled valid => exact .inl hp
  | reply handled => exact .inl hp
  | @raises tag hd handled =>
    refine .inl (posted_of_setQueue (fun hb => ?_) hp)
    simp only [Inbox.mem_ready_nack,Inbox.mem_unacked_nack]
    rcases hb with hb | ⟨key,hb⟩
    · exact .inl (.inl hb)
    · by_cases hkey : key = (hd.server,tag)
      · exact .inl (.inr (hkey ▸ hb))
      · exact .inr ⟨key,hb,hkey⟩
  | @ack s tag r' ret handled =>
    by_cases hn : n = N.rpc_name s
    · subst hn
      rcases hp with hp | ⟨key,hp⟩
      · exact .inl (.inl (by simpa using hp))
      · by_cases hkey : key = (s,tag)
        · subst hkey
          exact .inr ⟨tag,s,r',ret,rfl,handled,rfl,hp⟩
        · exact .inl (.inr ⟨key,by simpa using ⟨hp,hkey⟩⟩)
    · exact .inl (by simpa [Posted,Function.update_of_ne hn] using hp)

/-! ## Invariants -/

/-- A pending future is registered with its client, and the registered futures are of its calls. -/
structure Registered (σ : State C S V) : Prop where
  owned : ∀ c k, (σ.clients c).futures k = true → ∃ call, σ.calls k = some call ∧ call.client = c
  pending : ∀ k call, σ.calls k = some call → call.Waits →
    (σ.clients call.client).futures k = true

/-- A response for a call that waits ends its wait. -/
lemma Registered.resolves (hr : Registered σ) {c : C} {k : ℕ} {body : String}
    (h : Moves N σ (.on_response c k body) σ') {call call' : Call C} (hk : σ.calls k = some call)
    (hc : call.client = c) (hk' : σ'.calls k = some call') : ¬call'.Waits := by
  intro hwaits
  cases h with
  | resolve callback mem consuming there called pending =>
    simp only [State.setCall_calls,Function.update_self,Option.some.injEq] at hk'
    subst hk'
    cases hwaits.2
  | invalid_state callback mem consuming there done =>
    exact done call' hk' hwaits.2
  | key_error callback mem consuming gone =>
    have hreg := hr.pending k call' hk' hwaits
    obtain rfl : call = call' := Option.some.inj (hk.symm.trans hk')
    rw [hc,gone] at hreg
    cases hreg

theorem Registered.step (hr : Registered σ) (h : Moves N σ e σ') : Registered σ' := by
  refine ⟨fun c k hf => ?_,fun k call' hk' hwaits => ?_⟩
  · have hold : (∃ n a, e = .call k c n a) ∨ (σ.clients c).futures k = true := by
      by_cases hcall : ∃ n a, e = .call k c n a
      · exact .inl hcall
      · by_cases hresp : ∃ b, e = .on_response c k b
        · obtain ⟨b,rfl⟩ := hresp
          cases h with
          | resolve => simp at hf
          | invalid_state => simp at hf
          | key_error => exact .inr hf
        · refine .inr ?_
          rwa [← h.futures_eq (fun n a he => hcall ⟨n,a,he⟩) (fun b he => hresp ⟨b,he⟩)]
    rcases hold with ⟨n,a,rfl⟩ | hold
    · cases h with
      | call_unstarted fresh idle => exact ⟨_,Function.update_self _ _ _,rfl⟩
      | call fresh idle gone => exact ⟨_,Function.update_self _ _ _,rfl⟩
    · obtain ⟨call,hk,rfl⟩ := hr.owned c k hold
      obtain ⟨call',hk',-,hreq⟩ := h.header_eq hk
      exact ⟨call',hk',congrArg Request.reply_to hreq⟩
  · rcases h.call_from hk' with ⟨call,hk,hcont⟩ | ⟨hfresh,rfl,-⟩
    · have hreg := hr.pending k call hk (hcont.waits hwaits)
      rw [hcont.client]
      by_cases hresp : ∃ b, e = .on_response call.client k b
      · obtain ⟨b,rfl⟩ := hresp
        exact absurd hwaits (hr.resolves h hk rfl hk')
      · rw [h.futures_eq (fun n a he => ?_) (fun b he => hresp ⟨b,he⟩)]
        · exact hreg
        · subst he
          cases h with
          | call_unstarted fresh => simp [fresh] at hk
          | call fresh => simp [fresh] at hk
    · cases h with
      | call_unstarted fresh idle => simp
      | call fresh idle gone => simp

/-- What is delivered has its handler. -/
def Keyed (N : Network S V) (σ : State C S V) : Prop :=
  ∀ n s tag r, ((s,tag),r) ∈ (σ.queue n).unacked →
    N.rpc_name s = n ∧ ∃ st, σ.handlers tag = some ⟨s,r,st⟩

omit [DecidableEq C] [DecidableEq S] in
lemma Keyed.setQueue (hk : Keyed N σ) {n : String} {b : Inbox (S × ℕ) (Request C)}
    (hb : ∀ p ∈ b.unacked, p ∈ (σ.queue n).unacked) : Keyed N (σ.setQueue n b) := by
  intro n' s tag r hmem
  by_cases hn : n' = n
  · subst hn
    exact hk n' s tag r (hb _ (by simpa using hmem))
  · exact hk n' s tag r (by simpa [Function.update_of_ne hn] using hmem)

omit [DecidableEq C] [DecidableEq S] in
/-- A handler that goes on keeps its server and its request. -/
lemma Keyed.setHandler (hk : Keyed N σ) {tag : ℕ} {s : S} {r : Request C} {st st' : HandlerState V}
    (handled : σ.handlers tag = some ⟨s,r,st⟩) : Keyed N (σ.setHandler tag (some ⟨s,r,st'⟩)) := by
  intro n s' tag' r' hmem
  obtain ⟨hn,st₀,hh⟩ := hk n s' tag' r' hmem
  refine ⟨hn,?_⟩
  by_cases ht : tag' = tag
  · subst ht
    rw [handled] at hh
    cases hh
    exact ⟨st',by simp⟩
  · exact ⟨st₀,by simpa [Function.update_of_ne ht] using hh⟩

omit [DecidableEq C] [DecidableEq S] in
/-- A handler that is done leaves no delivery behind. -/
lemma Keyed.settle (hk : Keyed N σ) {tag : ℕ} {hd : Handler C S V} {b : Inbox (S × ℕ) (Request C)}
    (handled : σ.handlers tag = some hd)
    (hb : ∀ p, p ∈ b.unacked ↔ p ∈ (σ.queue (N.rpc_name hd.server)).unacked ∧
      p.1 ≠ (hd.server,tag)) :
    Keyed N ((σ.setQueue (N.rpc_name hd.server) b).setHandler tag none) := by
  intro n s tag' r hmem
  have hold : ((s,tag'),r) ∈ (σ.queue n).unacked ∧
      (n = N.rpc_name hd.server → (s,tag') ≠ (hd.server,tag)) := by
    by_cases hn : n = N.rpc_name hd.server
    · subst hn
      simp only [State.setHandler_queue,State.setQueue_queue,Function.update_self,hb] at hmem
      exact ⟨hmem.1,fun _ => hmem.2⟩
    · exact ⟨by simpa [Function.update_of_ne hn] using hmem,fun h => absurd h hn⟩
  obtain ⟨hn,st,hh⟩ := hk n s tag' r hold.1
  refine ⟨hn,st,?_⟩
  have ht : tag' ≠ tag := by
    rintro rfl
    rw [handled] at hh
    cases hh
    exact hold.2 hn.symm rfl
  simpa [Function.update_of_ne ht] using hh

theorem Keyed.step (hk : Keyed N σ) (h : Moves N σ e σ') : Keyed N σ' := by
  cases h with
  | client_declare idle => exact hk
  | client_consume declared => exact hk
  | client_gone => exact hk
  | callback_lost => exact hk
  | callback_restored consuming lost => exact hk
  | server_declare idle => exact hk
  | server_consume declared => exact hk
  | @server_gone s =>
    intro n s' tag r hmem
    have hold : ((s',tag),r) ∈ (σ.queue n).unacked ∧ s' ≠ s := by
      by_cases hn : n = N.rpc_name s
      · subst hn
        simpa [takeBack] using hmem
      · have hmem' : ((s',tag),r) ∈ (σ.queue n).unacked := by
          simpa [Function.update_of_ne hn] using hmem
        refine ⟨hmem',?_⟩
        rintro rfl
        exact hn (hk n s' tag r hmem').1.symm
    obtain ⟨hn,st,hh⟩ := hk n s' tag r hold.1
    exact ⟨hn,st,Option.filter_eq_some_iff.mpr ⟨hh,by simpa using hold.2⟩⟩
  | connection_lost => exact hk.setQueue fun p hp => (List.mem_filter.mp hp).1
  | call_unstarted fresh idle => exact hk
  | call fresh idle gone => exact hk
  | publish called inFlight declared => exact Keyed.setQueue (σ := σ.setCall _ _) hk fun p hp => hp
  | publish_unroutable called inFlight declared => exact hk
  | confirm called publishing taken => exact hk
  | publish_raises called publishing => exact hk
  | cancel called live => exact hk
  | resume called waiting done => exact hk
  | resolve callback mem consuming there called pending => exact hk
  | invalid_state callback mem consuming there done => exact hk
  | key_error callback mem consuming gone => exact hk
  | @deliver s tag r consuming fresh mem prefetch =>
    intro n s' tag' r' hmem
    have hcases : ((s',tag'),r') ∈ (σ.queue n).unacked ∨
        (n = N.rpc_name s ∧ ((s',tag'),r') = ((s,tag),r)) := by
      by_cases hn : n = N.rpc_name s
      · subst hn
        simp only [State.setHandler_queue,State.setQueue_queue,Function.update_self,
          Inbox.unacked_take] at hmem
        rcases List.mem_cons.mp hmem with he | hmem
        · exact .inr ⟨rfl,he⟩
        · exact .inl hmem
      · exact .inl (by simpa [Function.update_of_ne hn] using hmem)
    rcases hcases with hold | ⟨rfl,he⟩
    · obtain ⟨hn,st,hh⟩ := hk n s' tag' r' hold
      have ht : tag' ≠ tag := by
        rintro rfl
        rw [fresh] at hh
        cases hh
      exact ⟨hn,st,by simpa [Function.update_of_ne ht] using hh⟩
    · cases he
      exact ⟨rfl,.received,by simp⟩
  | execute handled valid => exact hk.setHandler handled
  | reply handled => exact Keyed.setHandler (σ := σ.respond _ _ _) hk handled
  | raises handled => exact hk.settle handled fun p => Inbox.mem_unacked_nack _ _ p
  | ack handled => exact hk.settle handled fun p => Inbox.mem_unacked_ack _ _ p

/-- A call that is live has a client with its queue, as long as no queue is lost. -/
structure Open (σ : State C S V) : Prop where
  callback : ∀ c, (σ.clients c).phase.isOpen = true → ∃ l, σ.callback c = some l
  live : ∀ k call, σ.calls k = some call → call.isLive = true →
    (σ.clients call.client).phase.isOpen = true

omit [DecidableEq S] in
lemma callback_respond {c c' : C} {k : ℕ} {body : String} {l : List (ℕ × String)}
    (hl : σ.callback c = some l) : ∃ l', (σ.respond c' k body).callback c = some l' := by
  by_cases hc : c = c'
  · subst hc
    exact ⟨(k,body) :: l,by simp [State.respond,hl]⟩
  · exact ⟨l,by simp [State.respond,Function.update_of_ne hc,hl]⟩

/-- A queue that is there stays, unless it is lost or its client ends. -/
lemma Moves.callback_some (h : Moves N σ e σ') {c : C} {l : List (ℕ × String)}
    (hl : σ.callback c = some l) (hgone : e ≠ .client_gone c) (hlost : e ≠ .callback_lost c) :
    ∃ l', σ'.callback c = some l' := by
  have hset : ∀ {c' : C} {l' : Option (List (ℕ × String))}, (c = c' → ∃ l₁, l' = some l₁) →
      ∃ l'', Function.update σ.callback c' l' c = some l'' := by
    intro c' l' hsome
    by_cases hc : c = c'
    · obtain ⟨l₁,rfl⟩ := hsome hc
      subst hc
      exact ⟨l₁,Function.update_self _ _ _⟩
    · exact ⟨l,by simpa [Function.update_of_ne hc] using hl⟩
  cases h with
  | client_declare idle => exact hset fun _ => ⟨[],rfl⟩
  | client_consume declared => exact ⟨l,hl⟩
  | client_gone => exact hset fun hc => absurd (hc ▸ rfl) hgone
  | callback_lost => exact hset fun hc => absurd (hc ▸ rfl) hlost
  | callback_restored consuming lost => exact hset fun _ => ⟨[],rfl⟩
  | server_declare idle => exact ⟨l,hl⟩
  | server_consume declared => exact ⟨l,hl⟩
  | server_gone => exact ⟨l,hl⟩
  | connection_lost => exact ⟨l,hl⟩
  | call_unstarted fresh idle => exact ⟨l,hl⟩
  | call fresh idle gone => exact ⟨l,hl⟩
  | publish called inFlight declared => exact ⟨l,hl⟩
  | publish_unroutable called inFlight declared => exact ⟨l,hl⟩
  | confirm called publishing taken => exact ⟨l,hl⟩
  | publish_raises called publishing => exact ⟨l,hl⟩
  | cancel called live => exact ⟨l,hl⟩
  | resume called waiting done => exact ⟨l,hl⟩
  | resolve callback mem consuming there called pending => exact hset fun _ => ⟨_,rfl⟩
  | invalid_state callback mem consuming there done => exact hset fun _ => ⟨_,rfl⟩
  | key_error callback mem consuming gone => exact hset fun _ => ⟨_,rfl⟩
  | deliver consuming fresh mem prefetch => exact ⟨l,hl⟩
  | execute handled valid => exact ⟨l,hl⟩
  | reply handled => exact callback_respond hl
  | raises handled => exact ⟨l,hl⟩
  | ack handled => exact ⟨l,hl⟩

/-- The calls of a client that ended are not live. -/
lemma Moves.dead_of_gone {c : C} (h : Moves N σ (.client_gone c) σ') {k : ℕ} {call' : Call C}
    (hk' : σ'.calls k = some call') (hc : call'.client = c) : call'.isLive = false := by
  cases h with
  | client_gone =>
    obtain ⟨call,hk,rfl⟩ := Option.map_eq_some_iff.mp hk'
    by_cases hclient : call.client = c
    · simp only [hclient,↓reduceIte,Call.kill]
      split
      · rfl
      · rename_i hdead
        simpa using hdead
    · simp [hclient] at hc

lemma Moves.live_client (h : Moves N σ e σ') {k : ℕ} {call' : Call C}
    (hk' : σ'.calls k = some call') (hlive : call'.isLive = true) :
    e ≠ .client_gone call'.client := by
  rintro rfl
  rw [h.dead_of_gone hk' rfl] at hlive
  cases hlive

lemma Moves.isOpen_declared {c : C} (h : Moves N σ (.client_declare c) σ') :
    (σ'.clients c).phase.isOpen = true ∧ (σ.clients c).phase.isOpen = false := by
  cases h with
  | client_declare idle => exact ⟨by simp [Phase.isOpen],by simp [idle,Phase.isOpen]⟩

lemma Moves.isOpen_gone {c : C} (h : Moves N σ (.client_gone c) σ') :
    (σ'.clients c).phase.isOpen = false := by
  cases h with
  | client_gone => simp [Phase.isOpen]

theorem Open.step (ho : Open σ) (h : Moves N σ e σ') (hlost : ∀ c, e ≠ .callback_lost c) :
    Open σ' := by
  refine ⟨fun c hopen => ?_,fun k call' hk' hl' => ?_⟩
  · have hgone : e ≠ .client_gone c := by
      rintro rfl
      rw [h.isOpen_gone] at hopen
      cases hopen
    by_cases hd : e = .client_declare c
    · subst hd
      cases h with
      | client_declare idle => exact ⟨[],by simp⟩
    · obtain ⟨l,hl⟩ := ho.callback c (by rwa [h.isOpen_eq hd hgone] at hopen)
      exact h.callback_some hl hgone (hlost c)
  · have hgone := h.live_client hk' hl'
    have hbefore : (σ.clients call'.client).phase.isOpen = true := by
      rcases h.call_from hk' with ⟨call,hk,hcont⟩ | ⟨-,-,hnew⟩
      · rw [hcont.client]
        exact ho.live k call hk (hcont.live hl')
      · exact (hnew hl').2
    have hd : e ≠ .client_declare call'.client := by
      rintro rfl
      rw [h.isOpen_declared.2] at hbefore
      cases hbefore
    rwa [h.isOpen_eq hd hgone]

/-- Where the request or the reply of a waiting call is. -/
def Accounted (σ : State C S V) (k : ℕ) (call : Call C) : Prop :=
  call.inFlight = true ∨ Posted σ call.rpc_name (call.request k) ∨ InCallback σ k call

/-- A waiting call is accounted for, and a handler that has replied has its reply there. -/
structure Kept (σ : State C S V) : Prop where
  waiting : ∀ k call, σ.calls k = some call → call.Waits → Accounted σ k call
  replied : ∀ tag s r ret, σ.handlers tag = some ⟨s,r,.replied ret⟩ →
    ∀ call, σ.calls r.correlation_id = some call → call.Waits → InCallback σ r.correlation_id call

/-- A reply stays in the callback queue for as long as its call waits. -/
lemma InCallback.step (h : Moves N σ e σ') (hlost : ∀ c, e ≠ .callback_lost c) (hr : Registered σ)
    (ho : Open σ) {k : ℕ} {call call' : Call C} (hk : σ.calls k = some call)
    (hk' : σ'.calls k = some call') (hcont : Continues e k call call') (hw : call'.Waits)
    (hin : InCallback σ k call) : InCallback σ' k call' := by
  obtain ⟨l,body,hl,hmem⟩ := hin
  have hdeclare : e ≠ .client_declare call.client := by
    rintro rfl
    have hopen := ho.live k call hk (hcont.live hw.1)
    rw [h.isOpen_declared.2] at hopen
    cases hopen
  have hgone : e ≠ .client_gone call.client := hcont.client ▸ h.live_client hk' hw.1
  have hresp : e ≠ .on_response call.client k body := by
    rintro rfl
    exact hr.resolves h hk rfl hk' hw
  obtain ⟨l',hl',hmem'⟩ := h.callback_keep hl hmem hdeclare hgone (hlost _) hresp
  exact ⟨l',body,hcont.client ▸ hl',hmem'⟩

/-- A handler has replied with the event `reply` only. -/
lemma Moves.replied (h : Moves N σ e σ') {tag : ℕ} {s : S} {r : Request C} {ret : V}
    (hh : σ'.handlers tag = some ⟨s,r,.replied ret⟩) :
    σ.handlers tag = some ⟨s,r,.replied ret⟩ ∨ e = .reply tag := by
  have hset : ∀ {tag' : ℕ} {o : Option (Handler C S V)},
      Function.update σ.handlers tag' o tag = some ⟨s,r,.replied ret⟩ →
      (tag = tag' → o ≠ some ⟨s,r,.replied ret⟩) → σ.handlers tag = some ⟨s,r,.replied ret⟩ := by
    intro tag' o hu ho
    by_cases htag : tag = tag'
    · subst htag
      exact absurd (by simpa using hu) (ho rfl)
    · simpa [Function.update_of_ne htag] using hu
  cases h with
  | client_declare idle => exact .inl hh
  | client_consume declared => exact .inl hh
  | client_gone => exact .inl hh
  | callback_lost => exact .inl hh
  | callback_restored consuming lost => exact .inl hh
  | server_declare idle => exact .inl hh
  | server_consume declared => exact .inl hh
  | server_gone => exact .inl (Option.filter_eq_some_iff.mp hh).1
  | connection_lost => exact .inl hh
  | call_unstarted fresh idle => exact .inl hh
  | call fresh idle gone => exact .inl hh
  | publish called inFlight declared => exact .inl hh
  | publish_unroutable called inFlight declared => exact .inl hh
  | confirm called publishing taken => exact .inl hh
  | publish_raises called publishing => exact .inl hh
  | cancel called live => exact .inl hh
  | resume called waiting done => exact .inl hh
  | resolve callback mem consuming there called pending => exact .inl hh
  | invalid_state callback mem consuming there done => exact .inl hh
  | key_error callback mem consuming gone => exact .inl hh
  | deliver consuming fresh mem prefetch => exact .inl (hset hh (by simp))
  | execute handled valid => exact .inl (hset hh (by simp))
  | @reply s' tag' r' ret' handled =>
    by_cases htag : tag = tag'
    · exact .inr (by rw [htag])
    · exact .inl (hset hh fun he => absurd he htag)
  | raises handled => exact .inl (hset hh (by simp))
  | ack handled => exact .inl (hset hh (by simp))

/-- The publication of a request puts it in its queue. -/
lemma Moves.published {k : ℕ} (h : Moves N σ (.publish k) σ') {call : Call C}
    (hk : σ.calls k = some call) (hd : σ.declared call.rpc_name = true) :
    Posted σ' call.rpc_name (call.request k) := by
  cases h with
  | publish called inFlight declared =>
    rw [hk] at called
    cases called
    exact .inl (by simp [Call.request])
  | publish_unroutable called inFlight declared =>
    rw [hk] at called
    cases called
    rw [hd] at declared
    cases declared

theorem Kept.step (hkept : Kept σ) (h : Moves N σ e σ') (hloss : Lossless σ e) (ht : Traced N σ)
    (hr : Registered σ) (hkeyed : Keyed N σ) (ho : Open σ) : Kept σ' := by
  refine ⟨fun k call' hk' hw => ?_,fun tag s r ret hh call' hk' hw => ?_⟩
  · rcases h.call_from hk' with ⟨call,hk,hcont⟩ | ⟨-,-,hnew⟩
    · have hreq : call'.request k = call.request k := by
        simp [Call.request,hcont.argument,hcont.client]
      rcases hkept.waiting k call hk (hcont.waits hw) with hflight | hposted | hin
      · rcases hcont.inFlight hflight with hflight | rfl
        · exact .inl hflight
        · refine .inr (.inl ?_)
          rw [hcont.rpc_name,hreq]
          exact h.published hk (hloss.2 k call rfl hk)
      · rcases h.posted_keep hposted with hposted | ⟨tag,s,r',ret,rfl,hh,hn,hun⟩
        · refine .inr (.inl ?_)
          rwa [hcont.rpc_name,hreq]
        · obtain ⟨-,st,hh'⟩ := hkeyed _ s tag _ hun
          rw [hh] at hh'
          cases hh'
          have hin := hkept.replied tag s _ ret hh call hk (hcont.waits hw)
          exact .inr (.inr (hin.step h hloss.1 hr ho hk hk' hcont hw))
      · exact .inr (.inr (hin.step h hloss.1 hr ho hk hk' hcont hw))
    · exact .inl (hnew hw.1).1
  · have hbefore : ∀ hd, σ.handlers tag = some hd → hd.request = r →
        ∃ call, σ.calls r.correlation_id = some call ∧
          Continues e r.correlation_id call call' := by
      rintro hd hh₀ rfl
      obtain ⟨call,hk,-⟩ := ht.handled tag hd hh₀
      rcases h.call_from hk' with hold | ⟨hfresh,-⟩
      · exact hold
      · rw [hk] at hfresh
        cases hfresh
    have hold : σ.handlers tag = some ⟨s,r,.replied ret⟩ → InCallback σ' r.correlation_id call' := by
      intro hh₀
      obtain ⟨call,hk,hcont⟩ := hbefore _ hh₀ rfl
      have hin := hkept.replied tag s r ret hh₀ call hk (hcont.waits hw)
      exact hin.step h hloss.1 hr ho hk hk' hcont hw
    rcases h.handled hh with ⟨hd₀,hh₀,-,hreq⟩ | ⟨he,-⟩
    · by_cases hrep : e = .reply tag
      · subst hrep
        obtain ⟨call,hk,hcont⟩ := hbefore hd₀ hh₀ hreq
        cases h with
        | @reply s₁ _ r₁ ret₁ handled =>
          simp only [State.setHandler_handlers,Function.update_self,Option.some.injEq] at hh
          cases hh
          obtain ⟨call₁,hk₁,-,hr₁⟩ := ht.handled tag _ handled
          obtain rfl : call = call₁ := Option.some.inj (hk.symm.trans hk₁)
          have hclient : r.reply_to = call'.client := by
            rw [hcont.client]
            exact (congrArg Request.reply_to hr₁).symm
          obtain ⟨l,hl⟩ := ho.callback call.client
            (ho.live _ call hk (hcont.live hw.1))
          refine ⟨(r.correlation_id,encodeReceipt (N.receipt_type s) ret) :: l,
            encodeReceipt (N.receipt_type s) ret,?_,List.mem_cons_self⟩
          rw [← hcont.client,← hclient] at hl
          simp [State.respond,← hclient,hl]
      · exact hold ((h.replied hh).resolve_right hrep)
    · subst he
      cases h with
      | deliver => simp at hh

/-- The queue of a server that runs is declared, and finitely many deliveries are handled. -/
structure Running (N : Network S V) (σ : State C S V) : Prop where
  declared : ∀ s, σ.servers s ≠ .idle → σ.declared (N.rpc_name s) = true
  fresh : ∃ b, ∀ tag, b ≤ tag → σ.handlers tag = none

theorem Running.step (hr : Running N σ) (h : Moves N σ e σ') : Running N σ' := by
  obtain ⟨hdeclared,b,hb⟩ := hr
  refine ⟨?_,?_⟩
  · have hserver : ∀ {s' p}, (σ.declared (N.rpc_name s') = true ∨ p = .idle) →
        ∀ s, Function.update σ.servers s' p s ≠ .idle → σ.declared (N.rpc_name s) = true := by
      intro s' p hp s hs
      by_cases he : s = s'
      · subst he
        exact hp.resolve_right (by simpa using hs)
      · exact hdeclared s (by simpa [Function.update_of_ne he] using hs)
    cases h with
    | @server_declare s' idle =>
      intro s hs
      by_cases hn : N.rpc_name s = N.rpc_name s'
      · simp [hn]
      · have he : s ≠ s' := fun he => hn (by rw [he])
        simpa [Function.update_of_ne hn] using
          hdeclared s (by simpa [Function.update_of_ne he] using hs)
    | @server_consume s' declared =>
      exact hserver (.inl (hdeclared s' (by simp [declared])))
    | server_gone => exact hserver (.inr rfl)
    | _ => exact hdeclared
  · by_cases hdeliver : ∃ s tag r, e = .deliver s tag r
    · obtain ⟨s,tag,r,rfl⟩ := hdeliver
      refine ⟨max b (tag+1),fun t ht => ?_⟩
      cases hh : σ'.handlers t with
      | none => rfl
      | some hd =>
        rcases h.handled hh with ⟨hd₀,hh₀,-⟩ | ⟨he,-⟩
        · rw [hb t (by omega)] at hh₀
          cases hh₀
        · cases he
          omega
    · refine ⟨b,fun t ht => ?_⟩
      cases hh : σ'.handlers t with
      | none => rfl
      | some hd =>
        rcases h.handled hh with ⟨hd₀,hh₀,-⟩ | ⟨he,-⟩
        · rw [hb t ht] at hh₀
          cases hh₀
        · exact absurd ⟨_,_,_,he⟩ hdeliver

/-- What holds in every state of a lossless run. -/
structure Sound (N : Network S V) (σ : State C S V) : Prop where
  traced : Traced N σ
  registered : Registered σ
  keyed : Keyed N σ
  opened : Open σ
  kept : Kept σ
  running : Running N σ

theorem Sound.step (hs : Sound N σ) (h : Moves N σ e σ') (hloss : Lossless σ e) : Sound N σ' where
  traced := hs.traced.step h
  registered := hs.registered.step h
  keyed := hs.keyed.step h
  opened := hs.opened.step h hloss.1
  kept := hs.kept.step h hloss hs.traced hs.registered hs.keyed hs.opened
  running := hs.running.step h

omit [DecidableEq C] [DecidableEq S] in
lemma sound_empty : Sound N (State.empty : State C S V) where
  traced := traced_empty
  registered := ⟨fun _ _ h => (by cases h),fun _ _ h => (by cases h)⟩
  keyed n s tag r h := by simp [State.empty] at h
  opened := ⟨fun _ h => (by cases h),fun _ _ h => (by cases h)⟩
  kept := ⟨fun _ _ h => (by cases h),fun _ _ _ _ h => (by cases h)⟩
  running := ⟨fun _ h => absurd rfl h,0,fun _ _ => rfl⟩

theorem sound_of_reachable (h : (machine N).ReachableBy Lossless σ) : Sound N σ := by
  refine h.invariant ?_ ?_
  · rintro _ rfl
    exact sound_empty
  · intro σ e σ' _ hs hloss ht
    exact hs.step (moves_of_step ht) hloss

end Frame

instance (σ : State C S V) (e : Event C S V) : Decidable (Lossless σ e) :=
  decidable_of_iff ((match e with
    | .callback_lost _ => false
    | .publish k => (σ.calls k).all fun call => σ.declared call.rpc_name
    | _ => true) = true) <| by
      cases e with
      | publish k =>
        simp only [Option.all_eq_true]
        constructor
        · rintro h
          refine ⟨fun c => by simp,fun k' call he hk => ?_⟩
          cases he
          exact h call hk
        · rintro ⟨-,h⟩ call hk
          exact h k call rfl hk
      | _ => simp [Lossless]

/-! ## Nothing is lost -/

/-- A request whose handler raised waits in its queue again. -/
def interrupted : List (Event ℕ (Procedure × ℕ) String) :=
  [.client_declare 0,.client_consume 0,.server_declare focusing,.server_consume focusing,
   .call 7 0 "scheduler.focus_job" "00000001",.publish 7,.confirm 7,
   .deliver focusing 1 focusRequest,.execute 1 "denied",.raises 1]

def waitsForFocus (σ : State ℕ (Procedure × ℕ) String) : Bool :=
  decide (σ.servers focusing = .consuming) && (σ.calls 7).any fun call =>
    call.rpc_name = "scheduler.focus_job" ∧ call.isLive = true ∧ call.future = .pending

theorem exists_interrupted : ∃ σ, (machine (kgym texts)).ReachableBy Lossless σ ∧
    waitsForFocus σ = true :=
  Machine.exists_of_replay (machine (kgym texts)) Lossless interrupted waitsForFocus rfl
    (by decide +kernel)

lemma exists_call_of_waitsForFocus {σ : State ℕ (Procedure × ℕ) String}
    (h : waitsForFocus σ = true) : σ.servers focusing = .consuming ∧ ∃ call, σ.calls 7 = some call ∧
      call.rpc_name = "scheduler.focus_job" ∧ call.Waits := by
  cases hk : σ.calls 7 with
  | none => simp [waitsForFocus,hk] at h
  | some call =>
    obtain ⟨hs,hn,hw⟩ : σ.servers focusing = .consuming ∧ call.rpc_name = "scheduler.focus_job" ∧
        call.isLive = true ∧ call.future = .pending := by simpa [waitsForFocus,hk] using h
    exact ⟨hs,call,rfl,hn,hw⟩

section Frame
variable [DecidableEq C] [DecidableEq S] {e : Event C S V}


/-- In a lossless run a call that waits is accounted for: its request is on the way to the broker or
with the queue of its procedure, or its reply is in the callback queue. No crash of a server, no
lost connection and no exception in a handler takes it away. -/
theorem accounted_of_reachable (h : (machine N).ReachableBy Lossless σ) {k : ℕ} {call : Call C}
    (hk : σ.calls k = some call) (hw : call.Waits) : Accounted σ k call :=
  (sound_of_reachable h).kept.waiting k call hk hw

theorem accounted_interrupted : ∃ (σ : State ℕ (Procedure × ℕ) String) (call : Call ℕ),
    σ.calls 7 = some call ∧ call.Waits ∧ Accounted σ 7 call := by
  obtain ⟨σ,hreach,hp⟩ := exists_interrupted
  obtain ⟨-,call,hk,-,hw⟩ := exists_call_of_waitsForFocus hp
  exact ⟨σ,call,hk,hw,accounted_of_reachable hreach hk hw⟩

end Frame

end LiveKBench.KCore.Rpc
