import P2pStun.HolePunching
import P2pStun.Handshake
import P2pStun.PsFiling
import P2pStun.ReceiveLoop
import P2pStun.Session

/-! Normal runners in the network of plain hole punching: clients whose call of `connect`
succeeded greet and log, while others are still at it. Greetings reach clients that are not
connected yet, and messages of the protocol reach clients that are. Without the greetings
the network takes steps of the network of callers, but for a stray datagram. -/
namespace P2pStun
open ByteLayout CStrings Runs Handshake

inductive TalkEvent (ι : Type)
  | connecting (e : Event ι)
  | talk (i : ι) (interfaces : List Interface) (stack : Bytes 254)
  | beat (i : ι) (sendOk : Bool)
  | hear (i : ι) (position len : Nat) (input : Bytes 254)
  | fail (i : ι) (input : Bytes 254)

/-- A client with a session has left `connect`. -/
structure TalkNetwork (ι : Type) where
  net : Network ι
  session : ι → Option Session

def TalkNetwork.start {ι : Type} : TalkNetwork ι := ⟨Network.start,fun _ => none⟩

namespace Deployment

variable {ι : Type} [DecidableEq ι] (d : Deployment ι)

def sentInSession (i : ι) (out : List Session.Output) : List Packet :=
  d.sentBy i (out.filterMap fun
    | .sent x => some x
    | .logged _ => none)

def setSession (t : TalkNetwork ι) (i : ι) (next : Session × List Session.Output) :
    TalkNetwork ι × List (ι × Session.Output) :=
  (⟨{t.net with flight := t.net.flight ++ d.sentInSession i next.2},
    Function.update t.session i (some next.1)⟩,next.2.map fun o => (i,o))

def talkStep : Machine (TalkNetwork ι) (TalkEvent ι) (ι × Session.Output) := fun t e => match e with
  | .connecting (.deliver i position len sendOk stack) =>
    match t.session i with
    | none => ({t with net := d.next t.net (.deliver i position len sendOk stack)},[])
    | some _ => (t,[])
  | .connecting e => ({t with net := d.next t.net e},[])
  | .talk i interfaces stack =>
    match t.net.client i, t.session i with
    | some k, none =>
      if k.progress = .returned .connectionSuccessful then
        ({t with session := Function.update t.session i (some (.start k.socket interfaces stack))},[])
      else (t,[])
    | _, _ => (t,[])
  | .beat i sendOk =>
    match t.session i with
    | none => (t,[])
    | some s => d.setSession t i (s.step (.beat sendOk))
  | .hear i position len input =>
    match t.session i, t.net.flight[position]? with
    | some s, some p =>
      if p.dst = d.endpoint i then
        d.setSession {t with net := {t.net with flight := t.net.flight.eraseIdx position}} i
          (s.step (.hear (recvfrom p.payload p.src len) input))
      else (t,[])
    | _, _ => (t,[])
  | .fail i input =>
    match t.session i with
    | none => (t,[])
    | some s => d.setSession t i (s.step (.hear (.error []) input))

end Deployment

section Silence

def Typed (p : Packet) : Prop := p.payload.type ≠ none

instance typed_decidable : DecidablePred Typed := fun p => inferInstanceAs (Decidable (p.payload.type ≠ none))

def Network.silent {ι : Type} (net : Network ι) : Network ι := {net with flight := net.flight.filter (Typed ·)}

variable {flight sent : List Packet} {position : Nat} {p : Packet}

theorem silent_typed (all : ∀ q ∈ sent, Typed q) :
    (flight ++ sent).filter (Typed ·) = flight.filter (Typed ·) ++ sent := by
  have same : sent.filter (Typed ·) = sent := List.filter_eq_self.mpr (by simpa using all)
  rw [List.filter_append,same]

theorem silent_kept (found : flight[position]? = some p) (kept : Typed p) :
    ∃ n, (flight.filter (Typed ·))[n]? = some p ∧
      (flight.eraseIdx position).filter (Typed ·) = (flight.filter (Typed ·)).eraseIdx n := by
  obtain ⟨split,erased⟩ := split_of_getElem? found
  have parts : flight.filter (Typed ·) = (flight.take position).filter (Typed ·) ++
      p :: (flight.drop (position + 1)).filter (Typed ·) := by
    conv_lhs => rw [split]
    rw [List.filter_append,List.filter_cons_of_pos (by simpa using kept)]
  refine ⟨((flight.take position).filter (Typed ·)).length,?_,?_⟩
  · rw [parts,List.getElem?_append_right le_rfl,Nat.sub_self]
    rfl
  · rw [erased,List.filter_append,parts,List.eraseIdx_append_of_length_le le_rfl,Nat.sub_self]
    rfl

theorem silent_dropped (found : flight[position]? = some p) (dropped : ¬Typed p) :
    (flight.eraseIdx position).filter (Typed ·) = flight.filter (Typed ·) := by
  obtain ⟨split,erased⟩ := split_of_getElem? found
  conv_rhs => rw [split]
  rw [erased,List.filter_append,List.filter_append,List.filter_cons_of_neg (by simpa using dropped)]

end Silence

theorem P2pConnector.connect_typed (c : P2pConnector) (k : Connecting) (e : ReceiveStep) :
    ∀ x ∈ (c.connect k e).2, x.payload.type ≠ none := by
  have request {s : UdpSocket} {stack : Message} {type : MessageType} {x : Outgoing}
      (sent : x ∈ (s.send (.ofMessage (stack.request type c.transactionId)) e.sendOk).2) :
      x.payload.type ≠ none := by
    rw [mem_send sent,Payload.type_ofMessage,Message.type_request]
    exact Option.some_ne_none _
  intro x sent
  cases progress : k.progress with
  | awaitAck second =>
    rw [c.connect_awaitAck k e second progress] at sent
    exact absurd sent List.not_mem_nil
  | receiving n =>
    rw [c.connect_receiving k n e progress] at sent
    cases how : c.handling k e.outcome with
    | silent =>
      rw [how] at sent
      simp only [handled] at sent
      split_ifs at sent
      · exact request sent
      · exact absurd sent List.not_mem_nil
    | replied | answered =>
      rw [how] at sent
      exact request sent
    | costs | ignored | responded =>
      rw [how] at sent
      exact absurd sent List.not_mem_nil
  | returned r =>
    rw [c.connect_returned k e r progress] at sent
    exact absurd sent List.not_mem_nil

namespace UdpServer

theorem ackMessage_typed : ackMessage.type ≠ none := by
  rw [ackMessage,Message.type_setType]
  exact Option.some_ne_none _

theorem handle_typed (s : UdpServer) (r : Received) : ∀ x ∈ (handle s r).2, x.message.type ≠ none := by
  intro x sent
  unfold handle at sent
  split at sent
  · have sent : x ∈ (psHandle s.psTransactionClientMap (s.psRequest r)).2 := sent
    cases alive : live s.psTransactionClientMap (s.psRequest r) with
    | none =>
      rw [psHandle_opened alive] at sent
      rw [List.mem_singleton.mp sent]
      exact ackMessage_typed
    | some t =>
      by_cases done : matched t (s.psRequest r)
      · rw [psHandle_matched alive done] at sent
        simp only [replies,List.mem_cons,List.not_mem_nil,or_false] at sent
        rcases sent with rfl | rfl | rfl
        · exact ackMessage_typed
        · simp
        · simp
      · rw [psHandle_kept alive done] at sent
        rw [List.mem_singleton.mp sent]
        exact ackMessage_typed
  · simp only [bindRequest] at sent
    split at sent
    · rw [List.mem_singleton.mp sent]
      exact ackMessage_typed
    · simp only [List.mem_cons,List.not_mem_nil,or_false] at sent
      rcases sent with rfl | rfl | rfl
      · exact ackMessage_typed
      · simp
      · simp
  · rw [List.mem_singleton.mp sent]
    exact ackMessage_typed
  · exact absurd sent List.not_mem_nil

theorem handle_stray (s : UdpServer) (r : Received) (stray : r.payload.type = none) (nonempty : r.payload ≠ []) :
    handle s r = ({s with msg := s.buffer r},[]) := by
  apply handle_quiet
  rw [buffer,Message.type_received _ _ nonempty,stray]
  simp

end UdpServer

namespace Deployment

variable {ι : Type} [DecidableEq ι] {d : Deployment ι} {m : Matching ι} {net : Network ι} {i : ι}

theorem silent_setClient {next : Connecting × List Outgoing} (typed : ∀ x ∈ next.2, x.payload.type ≠ none) :
    (d.setClient net i next).silent = d.setClient net.silent i next := by
  have all : ∀ q ∈ d.sentBy i next.2, Typed q := by
    intro q member
    obtain ⟨x,sent,rfl⟩ := List.mem_map.mp member
    exact typed x sent
  simp only [setClient,Network.silent,silent_typed all]

theorem silent_clientStep (e : ReceiveStep) : (d.clientStep net i e).silent = d.clientStep net.silent i e := by
  unfold clientStep
  have same : net.silent.client i = net.client i := rfl
  rw [same]
  cases net.client i with
  | none => rfl
  | some k => exact silent_setClient ((d.connector i).connect_typed k e)

omit [DecidableEq ι] in
theorem silent_serverStep (r : Received) : (d.serverStep net r).silent = d.serverStep net.silent r := by
  have all : ∀ q ∈ d.sentByServer (UdpServer.handle net.server r).2, Typed q := by
    intro q member
    obtain ⟨x,sent,rfl⟩ := List.mem_map.mp member
    rw [Typed,Payload.type_ofMessage]
    exact UdpServer.handle_typed _ r x sent
  simp only [serverStep,Network.silent,silent_typed all]

theorem consistent_moved {k k' : Connecting} (present : net.client i = some k) (ok : d.ClientOk m i k')
    (before : Consistent d m net) :
    Consistent d m {net with client := Function.update net.client i (some k')} := by
  have still (j : ι) : Function.update net.client i (some k') j = none ↔ net.client j = none := by
    by_cases same : j = i
    · simp [same,present]
    · rw [Function.update_of_ne same]
  refine ⟨clients_set i _ before.clients ok,before.packets,before.once,?_,?_,?_⟩
  · intro j member
    rw [ne_eq,still]
    exact before.asking j member
  · intro a found
    obtain ⟨j,same,called,free⟩ := before.stored a found
    exact ⟨j,same,fun absent => called ((still j).mp absent),free⟩
  · exact fun j absent => before.idle j ((still j).mp absent)

theorem consistent_stray (payload : Payload) (src : Endpoint) (len : Nat) (fits : len < 2 ^ 31) (sendOk : Bool)
    (stack : Message) (stray : payload.type = none) (nonempty : payload ≠ []) (before : Consistent d m net) :
    Consistent d m (d.clientStep net i ⟨.datagram ⟨payload,src,len,fits⟩,sendOk,stack⟩) := by
  unfold clientStep
  cases present : net.client i with
  | none => exact before
  | some k =>
    have ok := before.clients i k present
    have moves (k' : Connecting) (next : (d.connector i).connect k ⟨.datagram ⟨payload,src,len,fits⟩,sendOk,stack⟩ = (k',[]))
        (ok : d.ClientOk m i k') :
        Consistent d m (d.setClient net i ((d.connector i).connect k ⟨.datagram ⟨payload,src,len,fits⟩,sendOk,stack⟩)) := by
      rw [next,setClient,sentBy,List.map_nil,List.append_nil]
      exact consistent_moved present ok before
    cases progress : k.progress with
    | awaitAck second =>
      refine moves _ (P2pConnector.connect_awaitAck _ k _ second progress) ?_
      have carries : RecvOutcome.carries (.datagram ⟨payload,src,len,fits⟩) = true := by
        simpa [RecvOutcome.carries] using nonempty
      rw [if_pos carries]
      refine ⟨?_,?_,?_⟩
      · intro _ waits
        contradiction
      · intro _
        have target := ok.asked second progress
        simp only [Connecting.heard,Connecting.took,target]
        exact .asking
      · intro good
        contradiction
    | receiving n =>
      have costs : (d.connector i).handling k (.datagram ⟨payload,src,len,fits⟩) = .costs := by
        simp [P2pConnector.handling,handlingOf,stray,nonempty]
      have next := (d.connector i).connect_receiving k n ⟨.datagram ⟨payload,src,len,fits⟩,sendOk,stack⟩ progress
      rw [costs] at next
      exact moves _ next (clientOk_again _ _ (ok.receiving ⟨n,progress⟩))
    | returned r => exact moves k ((d.connector i).connect_returned k _ r progress) ok

/-- A message on its way is delivered in the network without greetings, too, and a greeting
that reaches a client before it is connected is a stray datagram. -/
theorem consistent_silent_deliver (i : ι) (position len : Nat) (sendOk : Bool) (stack : Message) (whole : 16 ≤ len)
    (nonempty : ∀ p ∈ net.flight, ¬Typed p → p.payload ≠ []) (before : Consistent d m net.silent) :
    Consistent d m (d.next net (.deliver i position len sendOk stack)).silent := by
  simp only [next]
  cases found : net.flight[position]? with
  | none => exact before
  | some p =>
    by_cases mine : p.dst = d.endpoint i
    · simp only [mine,if_true]
      rw [silent_clientStep]
      by_cases typed : Typed p
      · obtain ⟨n,found',erased⟩ := silent_kept found typed
        have step := consistent_deliver i n len sendOk stack
          (addressReported_of_whole (.deliver i n len sendOk stack) whole _) before
        have there : net.silent.flight[n]? = some p := found'
        simp only [next,there,mine,if_true] at step
        simp only [Network.silent,erased]
        exact step
      · simp only [Network.silent,silent_dropped found typed]
        by_cases fits : len < 2 ^ 31
        · rw [recvfrom_ok fits]
          exact consistent_stray p.payload p.src len fits sendOk stack (by simpa [Typed] using typed)
            (nonempty p (List.mem_of_getElem? found) typed) before
        · rw [recvfrom_error fits]
          exact consistent_client i _ (fun k _ => .error p.payload) before
    · simp only [mine,if_false]
      exact before

theorem consistent_silent_serve (s : ServerSocket) (position : Nat) (clock1 clock2 : UInt64) (fresh : Option Message)
    (nonempty : ∀ p ∈ net.flight, ¬Typed p → p.payload ≠ []) (before : Consistent d m net.silent) :
    ∃ m', m ≤ m' ∧ Consistent d m' (d.next net (.serve s position clock1 clock2 fresh)).silent := by
  simp only [next]
  cases found : net.flight[position]? with
  | none => exact ⟨m,m.le_rfl,before⟩
  | some p =>
    by_cases mine : p.dst = d.server s
    · simp only [mine,if_true]
      rw [silent_serverStep]
      by_cases typed : Typed p
      · obtain ⟨n,found',erased⟩ := silent_kept found typed
        obtain ⟨m',grow,step⟩ := consistent_serve s n clock1 clock2 fresh before
        have there : net.silent.flight[n]? = some p := found'
        simp only [next,there,mine,if_true] at step
        simp only [Network.silent,erased]
        exact ⟨m',grow,step⟩
      · refine ⟨m,m.le_rfl,?_⟩
        have stray : p.payload.type = none := by simpa [Typed] using typed
        have quiet := UdpServer.handle_stray net.server ⟨s,p.payload,p.src,clock1,clock2,fresh⟩ stray
          (nonempty p (List.mem_of_getElem? found) typed)
        simp only [Network.silent,silent_dropped found typed,serverStep,quiet,sentByServer,List.map_nil,
          List.append_nil]
        exact ⟨before.clients,before.packets,before.once,before.asking,before.stored,before.idle⟩
    · simp only [mine,if_false]
      exact ⟨m,m.le_rfl,before⟩

omit [DecidableEq ι] in
theorem consistent_silent_lose (position : Nat) (before : Consistent d m net.silent) :
    Consistent d m {net with flight := net.flight.eraseIdx position}.silent := by
  cases found : net.flight[position]? with
  | none =>
    rw [List.eraseIdx_of_length_le (List.getElem?_eq_none_iff.mp found)]
    exact before
  | some p =>
    by_cases typed : Typed p
    · obtain ⟨n,_,erased⟩ := silent_kept found typed
      simp only [Network.silent,erased]
      exact consistent_lose n before
    · simp only [Network.silent,silent_dropped found typed]
      exact before

theorem consistent_silent (e : Event ι) (whole : WholeAddress e)
    (nonempty : ∀ p ∈ net.flight, ¬Typed p → p.payload ≠ []) (before : Consistent d m net.silent) :
    ∃ m', m ≤ m' ∧ Consistent d m' (d.next net e).silent := by
  cases e with
  | call i socket sendOk =>
    refine ⟨m,m.le_rfl,?_⟩
    simp only [next]
    cases absent : net.client i with
    | none =>
      have typed : ∀ x ∈ ((d.connector i).start socket sendOk).2, x.payload.type ≠ none := by
        intro x sent
        rw [mem_send sent,Payload.type_ofMessage,Message.type_request]
        exact Option.some_ne_none _
      rw [silent_setClient typed]
      exact consistent_call i socket sendOk absent before
    | some k => exact before
  | wait i failed sendOk stack =>
    refine ⟨m,m.le_rfl,?_⟩
    simp only [next]
    rw [silent_clientStep]
    refine consistent_client i _ (fun k _ => ?_) before
    cases failed with
    | true => exact .error []
    | false => exact .timeout
  | deliver i position len sendOk stack =>
    exact ⟨m,m.le_rfl,consistent_silent_deliver i position len sendOk stack whole nonempty before⟩
  | serve s position clock1 clock2 fresh =>
    exact consistent_silent_serve s position clock1 clock2 fresh nonempty before
  | lose position => exact ⟨m,m.le_rfl,consistent_silent_lose position before⟩

theorem next_sent {p : Packet} (e : Event ι) (member : p ∈ (d.next net e).flight) : p ∈ net.flight ∨
    (Typed p ∧ ((∃ l, p.src = d.endpoint l) ∨ ∃ q ∈ net.flight, ∃ s clock1 clock2 fresh,
      ∃ x ∈ (UdpServer.handle net.server ⟨s,q.payload,q.src,clock1,clock2,fresh⟩).2, p.dst = x.dest.endpoint)) := by
  have client {net' : Network ι} {i : ι} {e : ReceiveStep} (member : p ∈ (d.clientStep net' i e).flight) :
      p ∈ net'.flight ∨ (Typed p ∧ ∃ l, p.src = d.endpoint l) := by
    unfold clientStep at member
    cases present : net'.client i with
    | none =>
      rw [present] at member
      exact Or.inl member
    | some k =>
      rw [present] at member
      rcases List.mem_append.mp member with old | new
      · exact Or.inl old
      · obtain ⟨x,sent,rfl⟩ := List.mem_map.mp new
        exact Or.inr ⟨(d.connector i).connect_typed k e x sent,i,rfl⟩
  cases e with
  | call i socket sendOk =>
    simp only [next] at member
    cases absent : net.client i with
    | none =>
      rw [absent] at member
      rcases List.mem_append.mp member with old | new
      · exact Or.inl old
      · obtain ⟨x,sent,rfl⟩ := List.mem_map.mp new
        refine Or.inr ⟨?_,Or.inl ⟨i,rfl⟩⟩
        rw [mem_send sent]
        simp [Typed]
    | some k =>
      rw [absent] at member
      exact Or.inl member
  | wait i failed sendOk stack => exact (client member).imp_right fun new => ⟨new.1,Or.inl new.2⟩
  | deliver i position len sendOk stack =>
    simp only [next] at member
    split at member
    · exact Or.inl member
    · split_ifs at member
      · rcases client member with old | new
        · exact Or.inl (List.mem_of_mem_eraseIdx old)
        · exact Or.inr ⟨new.1,Or.inl new.2⟩
      · exact Or.inl member
  | serve s position clock1 clock2 fresh =>
    simp only [next] at member
    cases found : net.flight[position]? with
    | none =>
      rw [found] at member
      exact Or.inl member
    | some q =>
      simp only [found] at member
      split_ifs at member
      · rcases List.mem_append.mp member with old | new
        · exact Or.inl (List.mem_of_mem_eraseIdx old)
        · obtain ⟨x,sent,rfl⟩ := List.mem_map.mp new
          refine Or.inr ⟨?_,Or.inr ⟨q,List.mem_of_getElem? found,s,clock1,clock2,fresh,x,sent,rfl⟩⟩
          rw [Typed,Payload.type_ofMessage]
          exact UdpServer.handle_typed _ _ x sent
      · exact Or.inl member
  | lose position => exact Or.inl (List.mem_of_mem_eraseIdx member)

/-- Where a client may send its greetings: to its partner, or to a server. -/
def Toward (d : Deployment ι) (m : Matching ι) (i : ι) (e : Endpoint) : Prop :=
  ∃ j, m.partner i = some j ∧ d.transactionId i = d.transactionId j ∧ (e = d.endpoint j ∨ ∃ s, e = d.server s)

structure Talking (d : Deployment ι) (m : Matching ι) (t : TalkNetwork ι) : Prop where
  consistent : d.Consistent m t.net.silent
  sessions : ∀ i s, t.session i = some s →
    (∃ e, s.target = e.sockaddr ∧ d.Toward m i e) ∧ ∃ addr, s.msg = greeting addr ++ [0]
  greetings : ∀ p ∈ t.net.flight, ¬Typed p →
    ∃ i s, t.session i = some s ∧ p.src = d.endpoint i ∧ d.Toward m i p.dst ∧ p.payload = s.msg

/-- What a session sends goes to its partner or to a server, and what it logs is what its
partner sends, or a message of the protocol. -/
def Spoken (d : Deployment ι) (m : Matching ι) (t : TalkNetwork ι) : ι × Session.Output → Prop
  | (i,.sent x) => ∃ e, x.dest = e.sockaddr ∧ d.Toward m i e
  | (i,.logged input) => ∃ j, m.partner i = some j ∧ d.transactionId i = d.transactionId j ∧
    ((∃ s, t.session j = some s ∧ s.msg = stringAt input ++ [0]) ∨ ∀ c ∈ (stringAt input).head?, c < 8)

def Lasting (t t' : TalkNetwork ι) : Prop :=
  ∀ i s, t.session i = some s → ∃ s', t'.session i = some s' ∧ s'.msg = s.msg

section Growth

variable {m' : Matching ι} {t t' : TalkNetwork ι}

omit [DecidableEq ι]

theorem Toward.mono {e : Endpoint} (grow : m ≤ m') (toward : d.Toward m i e) : d.Toward m' i e := by
  obtain ⟨j,partners,rest⟩ := toward
  exact ⟨j,grow i j partners,rest⟩

theorem Spoken.mono {o : ι × Session.Output} (grow : m ≤ m') (lasting : Lasting t t') (spoken : d.Spoken m t o) :
    d.Spoken m' t' o := by
  obtain ⟨i,out⟩ := o
  cases out with
  | sent x =>
    obtain ⟨e,dest,toward⟩ := spoken
    exact ⟨e,dest,toward.mono grow⟩
  | logged input =>
    obtain ⟨j,partners,agree,said | code⟩ := spoken
    · obtain ⟨s,present,text⟩ := said
      obtain ⟨s',present',same⟩ := lasting j s present
      exact ⟨j,grow i j partners,agree,Or.inl ⟨s',present',same.trans text⟩⟩
    · exact ⟨j,grow i j partners,agree,Or.inr code⟩

theorem Lasting.refl (t : TalkNetwork ι) : Lasting t t := fun _ s present => ⟨s,present,rfl⟩

theorem Talking.nonempty (talking : Talking d m t) : ∀ p ∈ t.net.flight, ¬Typed p → p.payload ≠ [] := by
  intro p member untyped
  obtain ⟨i,s,present,_,_,payload⟩ := talking.greetings p member untyped
  obtain ⟨_,addr,text⟩ := talking.sessions i s present
  rw [payload,text]
  simp

end Growth

variable {t : TalkNetwork ι} {s : Session}

theorem talking_connecting (e : Event ι) (whole : WholeAddress e) (before : Talking d m t) :
    ∃ m', m ≤ m' ∧ Talking d m' {t with net := d.next t.net e} := by
  obtain ⟨m',grow,consistent⟩ := consistent_silent e whole before.nonempty before.consistent
  refine ⟨m',grow,consistent,?_,?_⟩
  · intro i s present
    obtain ⟨⟨e,target,toward⟩,text⟩ := before.sessions i s present
    exact ⟨⟨e,target,toward.mono grow⟩,text⟩
  · intro p member untyped
    obtain ⟨i,s,present,source,toward,payload⟩ := before.greetings p ((next_sent e member).resolve_right fun new => untyped new.1) untyped
    exact ⟨i,s,present,source,toward.mono grow,payload⟩

omit [DecidableEq ι] in
theorem talking_erase (position : Nat) (before : Talking d m t) :
    Talking d m {t with net := {t.net with flight := t.net.flight.eraseIdx position}} :=
  ⟨consistent_silent_lose position before.consistent,before.sessions,
    fun p member => before.greetings p (List.mem_of_mem_eraseIdx member)⟩

theorem lasting_session {next : Session × List Session.Output} (present : t.session i = some s)
    (same : next.1.msg = s.msg) : Lasting t (d.setSession t i next).1 := by
  intro j s' present'
  by_cases own : j = i
  · subst j
    rw [present] at present'
    cases present'
    exact ⟨next.1,Function.update_self _ _ _,same⟩
  · exact ⟨s',(Function.update_of_ne own _ _).trans present',rfl⟩

theorem talking_session {next : Session × List Session.Output} (present : t.session i = some s)
    (same : next.1.msg = s.msg) (target : ∃ e, next.1.target = e.sockaddr ∧ d.Toward m i e)
    (sends : ∀ x, Session.Output.sent x ∈ next.2 → x.payload = s.msg ∧ ∃ e, x.dest = e.sockaddr ∧ d.Toward m i e)
    (before : Talking d m t) : Talking d m (d.setSession t i next).1 := by
  obtain ⟨_,addr,text⟩ := before.sessions i s present
  have greets : ∀ q ∈ d.sentInSession i next.2, q.src = d.endpoint i ∧ d.Toward m i q.dst ∧ q.payload = s.msg := by
    intro q member
    obtain ⟨x,sent,rfl⟩ := List.mem_map.mp member
    obtain ⟨o,out,found⟩ := List.mem_filterMap.mp sent
    cases o with
    | sent y =>
      cases found
      obtain ⟨payload,e,dest,toward⟩ := sends x out
      refine ⟨rfl,?_,payload⟩
      rw [dest]
      exact toward
    | logged input => contradiction
  have quiet : (d.sentInSession i next.2).filter (Typed ·) = [] := by
    rw [List.filter_eq_nil_iff]
    intro q member typed
    obtain ⟨_,_,payload⟩ := greets q member
    have typed : Typed q := by simpa using typed
    rw [Typed,payload,text] at typed
    exact typed (type_greeting addr)
  constructor
  case consistent =>
    simp only [setSession,Network.silent,List.filter_append,quiet,List.append_nil]
    exact before.consistent
  case sessions =>
    intro j s' present'
    by_cases own : j = i
    · subst j
      have present' := (Function.update_self _ _ _).symm.trans present'
      cases present'
      exact ⟨target,addr,same.trans text⟩
    · exact before.sessions j s' ((Function.update_of_ne own _ _).symm.trans present')
  case greetings =>
    intro p member untyped
    rcases List.mem_append.mp member with old | new
    · obtain ⟨j,s',present',source,toward,payload⟩ := before.greetings p old untyped
      obtain ⟨s'',present'',same'⟩ := lasting_session (d := d) present same j s' present'
      exact ⟨j,s'',present'',source,toward,payload.trans same'.symm⟩
    · obtain ⟨source,toward,payload⟩ := greets p new
      exact ⟨i,next.1,Function.update_self _ _ _,source,toward,payload.trans same.symm⟩

omit [DecidableEq ι] in
theorem heard_from {p : Packet} (present : t.session i = some s) (member : p ∈ t.net.flight)
    (mine : p.dst = d.endpoint i) (before : Talking d m t) :
    ∃ j, m.partner i = some j ∧ d.transactionId i = d.transactionId j ∧
      (p.src = d.endpoint j ∨ ∃ socket, p.src = d.server socket) ∧
      (¬Typed p → ∃ s', t.session j = some s' ∧ p.payload = s'.msg) := by
  obtain ⟨⟨_,_,j,partners,agree,_⟩,_⟩ := before.sessions i s present
  have partner {a : ι} (back : m.partner a = some i) : a = j :=
    Option.some.inj ((m.symmetric a i back).symm.trans partners)
  refine ⟨j,partners,agree,?_⟩
  by_cases typed : Typed p
  · refine ⟨?_,fun untyped => absurd typed untyped⟩
    have ok := before.consistent.packets p (List.mem_filter.mpr ⟨member,by simpa using typed⟩)
    cases ok with
    | bindRequest a socket msg => exact absurd mine.symm (d.apart i socket)
    | ack a socket msg => exact Or.inr ⟨socket,rfl⟩
    | bindReply a l socket msg => exact Or.inr ⟨socket,rfl⟩
    | clientBindRequest a l msg typed own back =>
      obtain rfl := d.distinct mine
      exact Or.inl (congrArg d.endpoint (partner back))
    | clientBindResponse a l msg typed back =>
      obtain rfl := d.distinct mine
      exact Or.inl (congrArg d.endpoint (partner back))
  · obtain ⟨a,s',present',source,⟨l,back,_,dest | ⟨socket,dest⟩⟩,payload⟩ := before.greetings p member typed
    · obtain rfl := d.distinct (mine.symm.trans dest)
      obtain rfl := partner back
      exact ⟨Or.inl source,fun _ => ⟨s',present',payload⟩⟩
    · exact absurd (mine.symm.trans dest) (d.apart i socket)

theorem talking_beat (sendOk : Bool) (present : t.session i = some s) (before : Talking d m t) :
    let next := d.setSession t i (s.step (.beat sendOk))
    Talking d m next.1 ∧ Lasting t next.1 ∧ ∀ o ∈ next.2, d.Spoken m next.1 o := by
  intro next
  obtain ⟨target,_⟩ := before.sessions i s present
  refine ⟨?_,lasting_session present (Session.step_msg s _),?_⟩
  · refine talking_session present (Session.step_msg s _) target ?_ before
    intro x sent
    obtain ⟨handle,same⟩ := Session.beat_sent sent
    cases same
    exact ⟨rfl,target⟩
  · intro o member
    obtain ⟨out,sent,rfl⟩ := List.mem_map.mp member
    obtain ⟨handle,rfl⟩ := Session.beat_sent sent
    exact target

/-- Senders are reported whole, and no call of `receive` fails. -/
def Received : TalkEvent ι → Prop
  | .connecting e => WholeAddress e
  | .hear _ _ len _ => ReportsWhole len
  | .fail _ _ => False
  | _ => True

theorem talking_hear (position len : Nat) (input : Bytes 254) (whole : ReportsWhole len) {p : Packet}
    (present : t.session i = some s) (found : t.net.flight[position]? = some p) (mine : p.dst = d.endpoint i)
    (before : Talking d m t) :
    let t' := {t with net := {t.net with flight := t.net.flight.eraseIdx position}}
    let next := d.setSession t' i (s.step (.hear (recvfrom p.payload p.src len) input))
    Talking d m next.1 ∧ Lasting t next.1 ∧ ∀ o ∈ next.2, d.Spoken m next.1 o := by
  intro t' next
  have lasting : Lasting t next.1 := lasting_session (t := t') present (Session.step_msg s _)
  obtain ⟨j,partners,agree,source,same_text⟩ := heard_from present (List.mem_of_getElem? found) mine before
  refine ⟨?_,lasting,?_⟩
  · refine talking_session (t := t') present (Session.step_msg s _) ?_ ?_ (talking_erase position before)
    · exact ⟨p.src,Session.hear_target s p.payload p.src len input whole,j,partners,agree,source⟩
    · intro x sent
      simp [Session.step] at sent
  · intro o member
    obtain ⟨out,logged,rfl⟩ := List.mem_map.mp member
    rw [Session.hear_logged] at logged
    rw [List.mem_singleton.mp logged]
    refine ⟨j,partners,agree,?_⟩
    by_cases typed : Typed p
    · exact Or.inr (Session.hear_message p.payload input typed)
    · obtain ⟨s',present',payload⟩ := same_text typed
      obtain ⟨_,addr,text⟩ := before.sessions j s' present'
      obtain ⟨s'',present'',same⟩ := lasting j s' present'
      refine Or.inl ⟨s'',present'',?_⟩
      have said : stringAt (overwrite input (p.payload.take 254)) = greeting addr := by
        rw [payload,text]
        exact Session.hear_greeting addr input
      rw [same,text]
      exact congrArg (· ++ [0]) said.symm

theorem talking_start {k : Connecting} (interfaces : List Interface) (stack : Bytes 254)
    (present : t.net.client i = some k) (good : Succeeded k) (absent : t.session i = none)
    (before : Talking d m t) :
    let t' := {t with session := Function.update t.session i (some (.start k.socket interfaces stack))}
    Talking d m t' ∧ Lasting t t' := by
  intro t'
  have kept {j : ι} {s : Session} (there : t.session j = some s) : t'.session j = some s := by
    refine (Function.update_of_ne ?_ _ _).trans there
    rintro rfl
    rw [absent] at there
    contradiction
  refine ⟨⟨before.consistent,?_,?_⟩,fun j s present => ⟨s,kept present,rfl⟩⟩
  · intro j s present'
    by_cases own : j = i
    · subst j
      have present' := (Function.update_self _ _ _).symm.trans present'
      cases present'
      obtain ⟨j,partners,agree,target⟩ := (before.consistent.clients i k present).succeeded good
      exact ⟨⟨d.endpoint j,target,j,partners,agree,Or.inl rfl⟩,_,hbMessage_eq _ stack⟩
    · exact before.sessions j s ((Function.update_of_ne own _ _).symm.trans present')
  · intro p member untyped
    obtain ⟨j,s,present,rest⟩ := before.greetings p member untyped
    exact ⟨j,s,kept present,rest⟩

theorem talking_step (e : TalkEvent ι) (received : Received e) (before : Talking d m t) :
    ∃ m', m ≤ m' ∧ Talking d m' (d.talkStep t e).1 ∧ Lasting t (d.talkStep t e).1 ∧
      ∀ o ∈ (d.talkStep t e).2, d.Spoken m' (d.talkStep t e).1 o := by
  have stays : ∃ m', m ≤ m' ∧ Talking d m' t ∧ Lasting t t ∧ ∀ o ∈ ([] : List (ι × Session.Output)), d.Spoken m' t o :=
    ⟨m,m.le_rfl,before,.refl t,fun o member => absurd member List.not_mem_nil⟩
  have connects (e : Event ι) (whole : WholeAddress e) : ∃ m', m ≤ m' ∧ Talking d m' {t with net := d.next t.net e} ∧
      Lasting t {t with net := d.next t.net e} ∧
      ∀ o ∈ ([] : List (ι × Session.Output)), d.Spoken m' {t with net := d.next t.net e} o := by
    obtain ⟨m',grow,after⟩ := talking_connecting e whole before
    exact ⟨m',grow,after,.refl t,fun o member => absurd member List.not_mem_nil⟩
  cases e with
  | connecting e =>
    cases e with
    | deliver i position len sendOk stack =>
      simp only [talkStep]
      cases t.session i with
      | none => exact connects _ received
      | some s => exact stays
    | call | wait | serve | lose => exact connects _ received
  | talk i interfaces stack =>
    simp only [talkStep]
    cases present : t.net.client i with
    | none => exact stays
    | some k =>
      cases absent : t.session i with
      | some s => exact stays
      | none =>
        by_cases good : k.progress = .returned .connectionSuccessful
        · simp only [good,if_true]
          obtain ⟨after,lasting⟩ := talking_start interfaces stack present good absent before
          exact ⟨m,m.le_rfl,after,lasting,fun o member => absurd member List.not_mem_nil⟩
        · simp only [good,if_false]
          exact stays
  | beat i sendOk =>
    simp only [talkStep]
    cases present : t.session i with
    | none => exact stays
    | some s => exact ⟨m,m.le_rfl,talking_beat sendOk present before⟩
  | hear i position len input =>
    simp only [talkStep]
    cases present : t.session i with
    | none => exact stays
    | some s =>
      cases found : t.net.flight[position]? with
      | none => exact stays
      | some p =>
        by_cases mine : p.dst = d.endpoint i
        · simp only [mine,if_true]
          exact ⟨m,m.le_rfl,talking_hear position len input received present found mine before⟩
        · simp only [mine,if_false]
          exact stays
  | fail i input => exact received.elim

theorem talking_run {events : List (TalkEvent ι)} (received : ∀ e ∈ events, Received e) :
    ∃ m, Talking d m (run d.talkStep .start events) ∧
      ∀ o ∈ outputs d.talkStep .start events, d.Spoken m (run d.talkStep .start events) o := by
  have all : Along d.talkStep (fun _ e => Received e) .start events :=
    along_of_forall _ _ fun e member _ => received e member
  refine history_along (fun past t => ∃ m, Talking d m t ∧ ∀ o ∈ outputs d.talkStep .start past, d.Spoken m t o)
    ⟨.empty,⟨consistent_start,by simp [TalkNetwork.start],by simp [TalkNetwork.start,Network.start]⟩,by simp⟩ ?_ all
  rintro past e ⟨m,talking,spoken⟩ received
  obtain ⟨m',grow,after,lasting,new⟩ := talking_step e received talking
  refine ⟨m',after,?_⟩
  intro o member
  rw [outputs_append,outputs_cons,outputs_nil,List.append_nil] at member
  rcases List.mem_append.mp member with old | said
  · exact (spoken o old).mono grow lasting
  · exact new o said

/-- In every run of normal runners, whatever is lost or overtaken, a session addresses its
partner or a server, and logs what its partner sends or a message of the protocol. -/
theorem talk_partners (d : Deployment ι) (events : List (TalkEvent ι)) (received : ∀ e ∈ events, Received e) :
    ∃ m : Matching ι,
      (∀ i s, (run d.talkStep .start events).session i = some s → ∃ e, s.target = e.sockaddr ∧ d.Toward m i e) ∧
      ∀ o ∈ outputs d.talkStep .start events, d.Spoken m (run d.talkStep .start events) o := by
  obtain ⟨m,talking,spoken⟩ := talking_run (d := d) received
  exact ⟨m,fun i s present => (talking.sessions i s present).1,spoken⟩

section Examples

def lan (addr : UInt32) : List Interface :=
  [⟨some (⟨0x0100007f,0⟩ : Endpoint).sockaddr,true,true⟩,⟨some (⟨addr,0⟩ : Endpoint).sockaddr,true,false⟩]

/-- The second client is connected by the request of the first one before the server's
reply reaches it. It takes the reply for a greeting and answers it. -/
def strayed : List (TalkEvent Bool) :=
  [.connecting (.call false .create true),.connecting (.call true .create true),
    .connecting (.serve .first 0 0 0 none),.connecting (.serve .first 0 0 0 none),
    .connecting (.deliver false 0 16 true Message.zero),.connecting (.deliver true 0 16 true Message.zero),
    .connecting (.deliver false 1 16 true Message.zero),.connecting (.deliver true 1 16 true Message.zero),
    .talk true (lan 3) fun _ => 1,.hear true 0 16 fun _ => 1,.beat true true,
    .connecting (.deliver false 0 16 true Message.zero),.talk false (lan 2) fun _ => 1,.beat false true,
    .connecting (.serve .first 0 0 0 none),.hear true 0 16 fun _ => 1]

theorem strayed_received : ∀ e ∈ strayed, Received e := by
  simp [strayed,Received,WholeAddress,ReportsWhole]

theorem strayed_partners : ∃ m : Matching Bool,
    ∀ o ∈ outputs twoClients.talkStep .start strayed, twoClients.Spoken m (run twoClients.talkStep .start strayed) o := by
  obtain ⟨m,_,spoken⟩ := talk_partners twoClients strayed strayed_received
  exact ⟨m,spoken⟩

def transcript (out : List (Bool × Session.Output)) : List (Bool × (Endpoint ⊕ List UInt8)) :=
  out.map fun o => (o.1,match o.2 with
    | .sent x => .inl x.dest.endpoint
    | .logged input => .inr (stringAt input))

example : transcript (outputs twoClients.talkStep .start strayed) =
    [(true,.inr [1]),(true,.inl (twoClients.server .first)),
      (false,.inl (twoClients.endpoint true)),(true,.inr (greeting 2))] := by decide +kernel

end Examples

end Deployment

end P2pStun
