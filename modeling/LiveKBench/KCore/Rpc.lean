import LiveKBench.Lib.CallService
import LiveKBench.Lib.Inbox
import Mathlib.Tactic.Simps.Basic

/-! `kcore/rpc.py`: remote procedure calls over the message broker. A client publishes its argument
to the queue named after the procedure and awaits a future that the consumer of its callback queue
resolves; a server handles one request at a time inside `message.process(requeue=True)`. Every
client, server and broker step is an event of its own, and the events interleave in any order. -/
namespace LiveKBench.KCore.Rpc
open Lib

/-- `type[BaseModel]` for values `V`, with what pydantic says of its two methods. -/
structure ModelType (V : Type) where
  isinstance : V → Bool
  model_dump_json : V → String
  model_validate_json : String → Option V
  validate_dump : ∀ v, isinstance v = true → model_validate_json (model_dump_json v) = some v

/-- The bodies of the messages are UTF-8; they are kept as the texts. A future that the response
consumer has not popped yet is still pending or has been cancelled. -/
inductive Future
  | pending
  | result (body : String)
  | cancelled
  deriving DecidableEq

def Future.result? : Future → Option String
  | .result body => some body
  | _ => none

/-- Where `GeneralRpcClient.__call__` stands. -/
inductive CallStatus
  | publishing
  | waiting
  | returned (body : String)
  | raised
  deriving DecidableEq

/-- `inFlight` says that the message was handed to the channel and the broker has not taken it. -/
structure Call (C : Type) where
  client : C
  rpc_name : String
  argument : String
  future : Future
  status : CallStatus
  inFlight : Bool

/-- A correlation id is a number, `uuid4` being read as one that no other call has. -/
structure Request (C : Type) where
  body : String
  correlation_id : ℕ
  reply_to : C
  deriving DecidableEq

/-- Where `start` stands; a process that ended is `gone`. -/
inductive Phase
  | idle
  | declared
  | consuming
  | gone
  deriving DecidableEq

/-- `_futures` is the set of its keys, the futures being those of the calls. -/
structure Client where
  phase : Phase
  futures : ℕ → Bool

/-- Where `_on_invocation` stands. -/
inductive HandlerState (V : Type)
  | received
  | computed (ret : V)
  | replied (ret : V)

structure Handler (C S V : Type) where
  server : S
  request : Request C
  state : HandlerState V

/-- The arguments of the servers' constructors. -/
structure Network (S V : Type) where
  rpc_name : S → String
  request_type : S → ModelType V
  receipt_type : S → Option (ModelType V)

/-- A delivery of a queue is known by the server and its delivery tag. A callback queue that does
not exist is `none`. -/
structure State (C S V : Type) where
  clients : C → Client
  servers : S → Phase
  declared : String → Bool
  calls : ℕ → Option (Call C)
  queue : String → Inbox (S × ℕ) (Request C)
  callback : C → Option (List (ℕ × String))
  handlers : ℕ → Option (Handler C S V)

inductive Event (C S V : Type)
  | client_declare (c : C)
  | client_consume (c : C)
  | client_gone (c : C)
  | callback_lost (c : C)
  | callback_restored (c : C)
  | server_declare (s : S)
  | server_consume (s : S)
  | server_gone (s : S)
  | connection_lost (s : S)
  | call (k : ℕ) (c : C) (rpc_name argument : String)
  | publish (k : ℕ)
  | confirm (k : ℕ)
  | publish_raises (k : ℕ)
  | cancel (k : ℕ)
  | resume (k : ℕ)
  | on_response (c : C) (k : ℕ) (body : String)
  | deliver (s : S) (tag : ℕ) (r : Request C)
  | execute (tag : ℕ) (ret : V)
  | reply (tag : ℕ)
  | raises (tag : ℕ)
  | ack (tag : ℕ)

/-- What `_on_invocation` sends back for the value that `consume_func` returned. -/
def encodeReceipt {V : Type} : Option (ModelType V) → V → String
  | none, _ => "null"
  | some T, ret => T.model_dump_json ret

/-- What `RpcClient.__call__` returns for the body that the general call returned: Python's `None`
where there is no receipt type. The outer `none` is a validation error. -/
def decodeReceipt {V : Type} : Option (ModelType V) → String → Option (Option V)
  | none, _ => some none
  | some T, body => (T.model_validate_json body).map some

variable {C S V : Type}

def State.empty : State C S V where
  clients _ := ⟨.idle,fun _ => false⟩
  servers _ := .idle
  declared _ := false
  calls _ := none
  queue _ := .empty
  callback _ := none
  handlers _ := none

section Step
variable [DecidableEq C] [DecidableEq S]

@[simps] def State.setCall (σ : State C S V) (k : ℕ) (call : Call C) : State C S V :=
  { σ with calls := Function.update σ.calls k (some call) }

@[simps] def State.setPhase (σ : State C S V) (c : C) (phase : Phase) : State C S V :=
  { σ with clients := Function.update σ.clients c { σ.clients c with phase := phase } }

@[simps] def State.setServer (σ : State C S V) (s : S) (phase : Phase) : State C S V :=
  { σ with servers := Function.update σ.servers s phase }

@[simps] def State.setQueue (σ : State C S V) (n : String) (b : Inbox (S × ℕ) (Request C)) :
    State C S V :=
  { σ with queue := Function.update σ.queue n b }

@[simps] def State.setCallback (σ : State C S V) (c : C) (l : Option (List (ℕ × String))) : State C S V :=
  { σ with callback := Function.update σ.callback c l }

@[simps] def State.setHandler (σ : State C S V) (tag : ℕ) (h : Option (Handler C S V)) : State C S V :=
  { σ with handlers := Function.update σ.handlers tag h }

/-- `self._futures[correlation_id] = future`, or its removal by `pop`. -/
@[simps] def State.setFuture (σ : State C S V) (c : C) (k : ℕ) (there : Bool) : State C S V :=
  { σ with
    clients := Function.update σ.clients c
      { σ.clients c with futures := Function.update (σ.clients c).futures k there } }

/-- `default_exchange.publish`: a message for a queue that does not exist is dropped. -/
def State.post (σ : State C S V) (n : String) (r : Request C) : State C S V :=
  if σ.declared n then σ.setQueue n ((σ.queue n).post r) else σ

def State.respond (σ : State C S V) (c : C) (k : ℕ) (body : String) : State C S V :=
  σ.setCallback c ((σ.callback c).map fun l => (k,body) :: l)

/-- The broker puts back what it delivered to `s` and did not see acknowledged. -/
def takeBack (s : S) (b : Inbox (S × ℕ) (Request C)) : Inbox (S × ℕ) (Request C) :=
  ⟨(b.unacked.filter fun p => p.1.1 = s).map Prod.snd ++ b.ready,
   b.unacked.filter fun p => p.1.1 ≠ s⟩

def Call.isLive (call : Call C) : Bool :=
  match call.status with
  | .publishing => true
  | .waiting => true
  | _ => false

/-- The calls of a process that ended do not go on. -/
def Call.kill (call : Call C) : Call C :=
  if call.isLive then { call with status := .raised } else call

/-- `CancelledError` at the await where the call stands; at `await future` it cancels the future,
unless that has its result already. -/
def Call.cancel (call : Call C) : Call C :=
  if call.status = .waiting ∧ call.future = .pending then
    { call with status := .raised, future := .cancelled }
  else { call with status := .raised }

def step (N : Network S V) (σ : State C S V) : Event C S V → Option (State C S V)
  | .client_declare c =>
    if (σ.clients c).phase = .idle then
      some ((σ.setPhase c .declared).setCallback c (some []))
    else none
  | .client_consume c =>
    if (σ.clients c).phase = .declared then some (σ.setPhase c .consuming) else none
  | .client_gone c =>
    some { (σ.setPhase c .gone).setCallback c none with
      calls := fun k => (σ.calls k).map fun call =>
        if call.client = c then call.kill else call }
  | .callback_lost c => some (σ.setCallback c none)
  | .callback_restored c =>
    if (σ.clients c).phase = .consuming ∧ σ.callback c = none then
      some (σ.setCallback c (some []))
    else none
  | .server_declare s =>
    if σ.servers s = .idle then
      some { σ.setServer s .declared with
        declared := Function.update σ.declared (N.rpc_name s) true }
    else none
  | .server_consume s =>
    if σ.servers s = .declared then some (σ.setServer s .consuming) else none
  | .server_gone s =>
    -- a process that is started again under the same name is a server that is idle
    some { σ.setServer s .idle with
      queue := Function.update σ.queue (N.rpc_name s) (takeBack s (σ.queue (N.rpc_name s)))
      handlers := fun t => (σ.handlers t).filter fun h => h.server ≠ s }
  | .connection_lost s =>
    -- the handlers go on: they may still reply, and their acknowledgements come to nothing
    some (σ.setQueue (N.rpc_name s) (takeBack s (σ.queue (N.rpc_name s))))
  | .call k c n argument =>
    if σ.calls k = none ∧ (σ.clients c).phase ≠ .gone then
      -- the future is registered before `self._callback_queue.name`, which a client that has not
      -- declared its queue does not have
      if (σ.clients c).phase = .idle then
        some ((σ.setFuture c k true).setCall k ⟨c,n,argument,.pending,.raised,false⟩)
      else some ((σ.setFuture c k true).setCall k ⟨c,n,argument,.pending,.publishing,true⟩)
    else none
  | .publish k =>
    match σ.calls k with
    | some call =>
      if call.inFlight then
        some ((σ.setCall k { call with inFlight := false }).post call.rpc_name
          ⟨call.argument,k,call.client⟩)
      else none
    | none => none
  | .confirm k =>
    match σ.calls k with
    | some call =>
      if call.status = .publishing ∧ call.inFlight = false then
        some (σ.setCall k { call with status := .waiting })
      else none
    | none => none
  | .publish_raises k =>
    match σ.calls k with
    | some call =>
      if call.status = .publishing then some (σ.setCall k { call with status := .raised })
      else none
    | none => none
  | .cancel k =>
    match σ.calls k with
    | some call => if call.isLive then some (σ.setCall k call.cancel) else none
    | none => none
  | .resume k =>
    match σ.calls k with
    | some call =>
      match call.status,call.future with
      | .waiting,.result body => some (σ.setCall k { call with status := .returned body })
      | _,_ => none
    | none => none
  | .on_response c k body =>
    match σ.callback c with
    | some l =>
      if (σ.clients c).phase = .consuming ∧ (k,body) ∈ l then
        let τ := σ.setCallback c (some (l.erase (k,body)))
        -- `pop` raises for an id that is not there, and `set_result` for a future that is done
        if (σ.clients c).futures k then
          match σ.calls k with
          | some call =>
            if call.future = .pending then
              some ((τ.setFuture c k false).setCall k { call with future := .result body })
            else some (τ.setFuture c k false)
          | none => some (τ.setFuture c k false)
        else some τ
      else none
    | none => none
  | .deliver s tag r =>
    let b := σ.queue (N.rpc_name s)
    -- `set_qos(prefetch_count=1)`
    if σ.servers s = .consuming ∧ σ.handlers tag = none ∧ r ∈ b.ready ∧
        b.unacked.all (fun p => p.1.1 ≠ s) = true then
      some ((σ.setQueue (N.rpc_name s) (b.take (s,tag) r)).setHandler tag (some ⟨s,r,.received⟩))
    else none
  | .execute tag ret =>
    match σ.handlers tag with
    | some ⟨s,r,.received⟩ =>
      if ((N.request_type s).model_validate_json r.body).isSome then
        some (σ.setHandler tag (some ⟨s,r,.computed ret⟩))
      else none
    | _ => none
  | .reply tag =>
    match σ.handlers tag with
    | some ⟨s,r,.computed ret⟩ =>
      some ((σ.respond r.reply_to r.correlation_id (encodeReceipt (N.receipt_type s) ret)).setHandler
        tag (some ⟨s,r,.replied ret⟩))
    | _ => none
  | .raises tag =>
    -- the validation, `consume_func` or the publication raised, or the handler was cancelled
    match σ.handlers tag with
    | some h =>
      some ((σ.setQueue (N.rpc_name h.server)
        ((σ.queue (N.rpc_name h.server)).nack (h.server,tag))).setHandler tag none)
    | none => none
  | .ack tag =>
    match σ.handlers tag with
    | some ⟨s,_,.replied _⟩ =>
      some ((σ.setQueue (N.rpc_name s) ((σ.queue (N.rpc_name s)).ack (s,tag))).setHandler tag none)
    | _ => none

def machine (N : Network S V) : Machine (State C S V) (Event C S V) where
  init σ := σ = .empty
  step := step N

/-- What a step can do. -/
inductive Moves (N : Network S V) (σ : State C S V) : Event C S V → State C S V → Prop
  | client_declare {c} (idle : (σ.clients c).phase = .idle) :
      Moves N σ (.client_declare c) ((σ.setPhase c .declared).setCallback c (some []))
  | client_consume {c} (declared : (σ.clients c).phase = .declared) :
      Moves N σ (.client_consume c) (σ.setPhase c .consuming)
  | client_gone {c} :
      Moves N σ (.client_gone c) { (σ.setPhase c .gone).setCallback c none with
        calls := fun k => (σ.calls k).map fun call =>
          if call.client = c then call.kill else call }
  | callback_lost {c} : Moves N σ (.callback_lost c) (σ.setCallback c none)
  | callback_restored {c} (consuming : (σ.clients c).phase = .consuming)
      (lost : σ.callback c = none) :
      Moves N σ (.callback_restored c) (σ.setCallback c (some []))
  | server_declare {s} (idle : σ.servers s = .idle) :
      Moves N σ (.server_declare s) { σ.setServer s .declared with
        declared := Function.update σ.declared (N.rpc_name s) true }
  | server_consume {s} (declared : σ.servers s = .declared) :
      Moves N σ (.server_consume s) (σ.setServer s .consuming)
  | server_gone {s} :
      Moves N σ (.server_gone s) { σ.setServer s .idle with
        queue := Function.update σ.queue (N.rpc_name s) (takeBack s (σ.queue (N.rpc_name s)))
        handlers := fun t => (σ.handlers t).filter fun h => h.server ≠ s }
  | connection_lost {s} :
      Moves N σ (.connection_lost s)
        (σ.setQueue (N.rpc_name s) (takeBack s (σ.queue (N.rpc_name s))))
  | call_unstarted {k c n argument} (fresh : σ.calls k = none)
      (idle : (σ.clients c).phase = .idle) :
      Moves N σ (.call k c n argument)
        ((σ.setFuture c k true).setCall k ⟨c,n,argument,.pending,.raised,false⟩)
  | call {k c n argument} (fresh : σ.calls k = none) (idle : (σ.clients c).phase ≠ .idle)
      (gone : (σ.clients c).phase ≠ .gone) :
      Moves N σ (.call k c n argument)
        ((σ.setFuture c k true).setCall k ⟨c,n,argument,.pending,.publishing,true⟩)
  | publish {k call} (called : σ.calls k = some call) (inFlight : call.inFlight = true)
      (declared : σ.declared call.rpc_name = true) :
      Moves N σ (.publish k) ((σ.setCall k { call with inFlight := false }).setQueue call.rpc_name
        ((σ.queue call.rpc_name).post ⟨call.argument,k,call.client⟩))
  | publish_unroutable {k call} (called : σ.calls k = some call) (inFlight : call.inFlight = true)
      (declared : σ.declared call.rpc_name = false) :
      Moves N σ (.publish k) (σ.setCall k { call with inFlight := false })
  | confirm {k call} (called : σ.calls k = some call) (publishing : call.status = .publishing)
      (taken : call.inFlight = false) :
      Moves N σ (.confirm k) (σ.setCall k { call with status := .waiting })
  | publish_raises {k call} (called : σ.calls k = some call)
      (publishing : call.status = .publishing) :
      Moves N σ (.publish_raises k) (σ.setCall k { call with status := .raised })
  | cancel {k call} (called : σ.calls k = some call) (live : call.isLive = true) :
      Moves N σ (.cancel k) (σ.setCall k call.cancel)
  | resume {k call body} (called : σ.calls k = some call) (waiting : call.status = .waiting)
      (done : call.future = .result body) :
      Moves N σ (.resume k) (σ.setCall k { call with status := .returned body })
  | resolve {c k body l call} (callback : σ.callback c = some l) (mem : (k,body) ∈ l)
      (consuming : (σ.clients c).phase = .consuming) (there : (σ.clients c).futures k = true)
      (called : σ.calls k = some call) (pending : call.future = .pending) :
      Moves N σ (.on_response c k body)
        (((σ.setCallback c (some (l.erase (k,body)))).setFuture c k false).setCall k
          { call with future := .result body })
  | invalid_state {c k body l} (callback : σ.callback c = some l) (mem : (k,body) ∈ l)
      (consuming : (σ.clients c).phase = .consuming) (there : (σ.clients c).futures k = true)
      (done : ∀ call, σ.calls k = some call → call.future ≠ .pending) :
      Moves N σ (.on_response c k body)
        ((σ.setCallback c (some (l.erase (k,body)))).setFuture c k false)
  | key_error {c k body l} (callback : σ.callback c = some l) (mem : (k,body) ∈ l)
      (consuming : (σ.clients c).phase = .consuming) (gone : (σ.clients c).futures k = false) :
      Moves N σ (.on_response c k body) (σ.setCallback c (some (l.erase (k,body))))
  | deliver {s tag r} (consuming : σ.servers s = .consuming) (fresh : σ.handlers tag = none)
      (mem : r ∈ (σ.queue (N.rpc_name s)).ready)
      (prefetch : ∀ p ∈ (σ.queue (N.rpc_name s)).unacked, p.1.1 ≠ s) :
      Moves N σ (.deliver s tag r)
        ((σ.setQueue (N.rpc_name s) ((σ.queue (N.rpc_name s)).take (s,tag) r)).setHandler tag
          (some ⟨s,r,.received⟩))
  | execute {s tag r ret arg} (handled : σ.handlers tag = some ⟨s,r,.received⟩)
      (valid : (N.request_type s).model_validate_json r.body = some arg) :
      Moves N σ (.execute tag ret) (σ.setHandler tag (some ⟨s,r,.computed ret⟩))
  | reply {s tag r ret} (handled : σ.handlers tag = some ⟨s,r,.computed ret⟩) :
      Moves N σ (.reply tag)
        ((σ.respond r.reply_to r.correlation_id
          (encodeReceipt (N.receipt_type s) ret)).setHandler tag (some ⟨s,r,.replied ret⟩))
  | raises {tag h} (handled : σ.handlers tag = some h) :
      Moves N σ (.raises tag)
        ((σ.setQueue (N.rpc_name h.server)
          ((σ.queue (N.rpc_name h.server)).nack (h.server,tag))).setHandler tag none)
  | ack {s tag r ret} (handled : σ.handlers tag = some ⟨s,r,.replied ret⟩) :
      Moves N σ (.ack tag)
        ((σ.setQueue (N.rpc_name s) ((σ.queue (N.rpc_name s)).ack (s,tag))).setHandler tag none)

variable {N : Network S V} {σ σ' : State C S V}

theorem moves_of_step {e : Event C S V} (h : step N σ e = some σ') : Moves N σ e σ' := by
  cases e with
  | client_declare c =>
    simp only [step] at h
    split at h
    · rename_i hidle
      cases h
      exact .client_declare hidle
    · cases h
  | client_consume c =>
    simp only [step] at h
    split at h
    · rename_i hdeclared
      cases h
      exact .client_consume hdeclared
    · cases h
  | client_gone c =>
    cases h
    exact .client_gone
  | callback_lost c =>
    cases h
    exact .callback_lost
  | callback_restored c =>
    simp only [step] at h
    split at h
    · rename_i hc
      cases h
      exact .callback_restored hc.1 hc.2
    · cases h
  | server_declare s =>
    simp only [step] at h
    split at h
    · rename_i hidle
      cases h
      exact .server_declare hidle
    · cases h
  | server_consume s =>
    simp only [step] at h
    split at h
    · rename_i hdeclared
      cases h
      exact .server_consume hdeclared
    · cases h
  | server_gone s =>
    cases h
    exact .server_gone
  | connection_lost s =>
    cases h
    exact .connection_lost
  | call k c n argument =>
    simp only [step] at h
    split at h
    · rename_i hc
      split at h
      · rename_i hidle
        cases h
        exact .call_unstarted hc.1 hidle
      · rename_i hidle
        cases h
        exact .call hc.1 hidle hc.2
    · cases h
  | publish k =>
    simp only [step] at h
    split at h
    · rename_i call hcall
      split at h
      · rename_i hflight
        cases h
        by_cases hd : σ.declared call.rpc_name = true
        · simpa [State.post,hd] using Moves.publish hcall hflight hd
        · simpa [State.post,hd] using Moves.publish_unroutable hcall hflight (by simpa using hd)
      · cases h
    · cases h
  | confirm k =>
    simp only [step] at h
    split at h
    · rename_i call hcall
      split at h
      · rename_i hc
        cases h
        exact .confirm hcall hc.1 hc.2
      · cases h
    · cases h
  | publish_raises k =>
    simp only [step] at h
    split at h
    · rename_i call hcall
      split at h
      · rename_i hc
        cases h
        exact .publish_raises hcall hc
      · cases h
    · cases h
  | cancel k =>
    simp only [step] at h
    split at h
    · rename_i call hcall
      split at h
      · rename_i hlive
        cases h
        exact .cancel hcall hlive
      · cases h
    · cases h
  | resume k =>
    simp only [step] at h
    split at h
    · rename_i call hcall
      split at h
      · rename_i body hwaiting hdone
        cases h
        exact .resume hcall hwaiting hdone
      · cases h
    · cases h
  | on_response c k body =>
    simp only [step] at h
    split at h
    · rename_i l hl
      split at h
      · rename_i hc
        split at h
        · rename_i hthere
          split at h
          · rename_i call hcall
            split at h
            · rename_i hpending
              cases h
              exact .resolve hl hc.2 hc.1 hthere hcall hpending
            · rename_i hdone
              cases h
              refine .invalid_state hl hc.2 hc.1 hthere fun call' hcall' => ?_
              rw [hcall] at hcall'
              cases hcall'
              exact hdone
          · rename_i hcall
            cases h
            exact .invalid_state hl hc.2 hc.1 hthere (by simp [hcall])
        · rename_i hgone
          cases h
          exact .key_error hl hc.2 hc.1 (by simpa using hgone)
      · cases h
    · cases h
  | deliver s tag r =>
    simp only [step] at h
    split at h
    · rename_i hc
      cases h
      exact .deliver hc.1 hc.2.1 hc.2.2.1 (by simpa [List.all_eq_true] using hc.2.2.2)
    · cases h
  | execute tag ret =>
    simp only [step] at h
    split at h
    · rename_i s r hh
      split at h
      · rename_i hvalid
        obtain ⟨arg,harg⟩ := Option.isSome_iff_exists.mp hvalid
        cases h
        exact .execute hh harg
      · cases h
    · cases h
  | reply tag =>
    simp only [step] at h
    split at h
    · rename_i s r ret hh
      cases h
      exact .reply hh
    · cases h
  | raises tag =>
    simp only [step] at h
    split at h
    · rename_i hd hh
      cases h
      exact .raises hh
    · cases h
  | ack tag =>
    simp only [step] at h
    split at h
    · rename_i s r ret hh
      cases h
      exact .ack hh
    · cases h

theorem step_of_moves {e : Event C S V} (h : Moves N σ e σ') : step N σ e = some σ' := by
  cases h with
  | client_declare idle => exact if_pos idle
  | client_consume declared => exact if_pos declared
  | client_gone => rfl
  | callback_lost => rfl
  | callback_restored consuming lost => exact if_pos ⟨consuming,lost⟩
  | server_declare idle => exact if_pos idle
  | server_consume declared => exact if_pos declared
  | server_gone => rfl
  | connection_lost => rfl
  | call_unstarted fresh idle => simp [step,fresh,idle]
  | call fresh idle gone => simp [step,fresh,idle,gone]
  | publish called inFlight declared => simp [step,called,inFlight,declared,State.post]
  | publish_unroutable called inFlight declared => simp [step,called,inFlight,declared,State.post]
  | confirm called publishing taken => simp [step,called,publishing,taken]
  | publish_raises called publishing => simp [step,called,publishing]
  | cancel called live => simp [step,called,live]
  | resume called waiting done => simp [step,called,waiting,done]
  | resolve callback mem consuming there called pending =>
    simp [step,callback,mem,consuming,there,called,pending]
  | @invalid_state c k body l callback mem consuming there done =>
    cases called : σ.calls k with
    | none => simp [step,callback,mem,consuming,there,called]
    | some call => simp [step,callback,mem,consuming,there,called,done call called]
  | key_error callback mem consuming gone => simp [step,callback,mem,consuming,gone]
  | deliver consuming fresh mem prefetch =>
    exact if_pos ⟨consuming,fresh,mem,by simpa [List.all_eq_true] using prefetch⟩
  | execute handled valid => simp [step,handled,valid]
  | reply handled => simp [step,handled]
  | raises handled => simp [step,handled]
  | ack handled => simp [step,handled]

end Step
end LiveKBench.KCore.Rpc
