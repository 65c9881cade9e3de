import P2pStun.Matching
import P2pStun.Network
import P2pStun.Acceptance

/-! Agreement of plain hole punching. The server joins each client to one other client
at most, and every datagram in flight comes from that matching: a reply names the
partner of its recipient, requests and responses travel between partners, responses
only where the ids agree. -/
namespace P2pStun.Deployment
open Runs

variable {ι : Type} (d : Deployment ι)

def transactionId (i : ι) : UInt32 := (d.connector i).transactionId

/-- What a client is after, in the receive loop. -/
inductive Standing (m : Matching ι) (i : ι) : ConnectorState → SockaddrIn → Prop
  | asking : Standing m i .waitingForStunReply (d.connector i).stunServerAddr
  | joined (j : ι) (partners : m.partner i = some j) :
      Standing m i .waitingForClientReply (d.endpoint j).sockaddr

structure ClientOk (m : Matching ι) (i : ι) (k : Connecting) : Prop where
  asked : ∀ second, k.progress = .awaitAck second →
    k.socket.targetAddress = (d.connector i).stunServerAddr
  receiving : Receiving k → d.Standing m i k.state k.socket.targetAddress
  succeeded : Succeeded k → ∃ j, m.partner i = some j ∧ d.transactionId i = d.transactionId j ∧
    k.socket.targetAddress = (d.endpoint j).sockaddr

inductive PacketOk (m : Matching ι) : Packet → Prop
  | bindRequest (i : ι) (s : ServerSocket) (msg : Message) (typed : msg.type = some .bindRequest) :
      PacketOk m ⟨d.endpoint i,d.server s,.ofMessage msg⟩
  | ack (i : ι) (s : ServerSocket) (msg : Message) (typed : msg.type = some .ack) :
      PacketOk m ⟨d.server s,d.endpoint i,.ofMessage msg⟩
  | bindReply (i j : ι) (s : ServerSocket) (msg : Message) (typed : msg.type = some .bindReply)
      (names : msg.bindReply = (d.endpoint j).sockaddr) (partners : m.partner i = some j) :
      PacketOk m ⟨d.server s,d.endpoint i,.ofMessage msg⟩
  | clientBindRequest (i j : ι) (msg : Message) (typed : msg.type = some .clientBindRequest)
      (own : ntohl msg.transactionId = d.transactionId i) (partners : m.partner i = some j) :
      PacketOk m ⟨d.endpoint i,d.endpoint j,.ofMessage msg⟩
  | clientBindResponse (i j : ι) (msg : Message) (typed : msg.type = some .clientBindResponse)
      (partners : m.partner i = some j) (agree : d.transactionId i = d.transactionId j) :
      PacketOk m ⟨d.endpoint i,d.endpoint j,.ofMessage msg⟩

variable {d} {m m' : Matching ι} {i : ι}

theorem Standing.mono {state : ConnectorState} {target : SockaddrIn} (grow : m ≤ m')
    (standing : d.Standing m i state target) : d.Standing m' i state target := by
  cases standing with
  | asking => exact .asking
  | joined j partners => exact .joined j (grow i j partners)

theorem Standing.unconnected {state : ConnectorState} {target : SockaddrIn}
    (standing : d.Standing m i state target) : state ≠ .connected := by
  cases standing <;> exact nofun

theorem ClientOk.mono {k : Connecting} (grow : m ≤ m') (ok : d.ClientOk m i k) :
    d.ClientOk m' i k where
  asked := ok.asked
  receiving running := (ok.receiving running).mono grow
  succeeded good := by
    obtain ⟨j,partners,rest⟩ := ok.succeeded good
    exact ⟨j,grow i j partners,rest⟩

theorem PacketOk.mono {p : Packet} (grow : m ≤ m') (ok : d.PacketOk m p) : d.PacketOk m' p := by
  cases ok with
  | bindRequest i s msg typed => exact .bindRequest i s msg typed
  | ack i s msg typed => exact .ack i s msg typed
  | bindReply i j s msg typed names partners =>
    exact .bindReply i j s msg typed names (grow i j partners)
  | clientBindRequest i j msg typed own partners =>
    exact .clientBindRequest i j msg typed own (grow i j partners)
  | clientBindResponse i j msg typed partners agree =>
    exact .clientBindResponse i j msg typed (grow i j partners) agree

theorem clientOk_again (k : Connecting) (n : Nat)
    (standing : d.Standing m i k.state k.socket.targetAddress) : d.ClientOk m i (k.again n) where
  asked second same := by
    simp only [Connecting.again] at same
    split at same <;> contradiction
  receiving _ := standing
  succeeded good := absurd good (again_succeeded k n standing.unconnected)

theorem clientOk_established (k : Connecting) (j : ι) (partners : m.partner i = some j)
    (agree : d.transactionId i = d.transactionId j)
    (target : k.socket.targetAddress = (d.endpoint j).sockaddr) : d.ClientOk m i k.established where
  asked := nofun
  receiving := nofun
  succeeded _ := ⟨j,partners,agree,target⟩

theorem clientOk_failed (k : Connecting) (r : ConnectResult) (ended : k.progress = .returned r)
    (failed : r ≠ .connectionSuccessful) : d.ClientOk m i k where
  asked second same := by simp [ended] at same
  receiving running := by
    obtain ⟨n,same⟩ := running
    simp [ended] at same
  succeeded good := by
    rw [Succeeded,ended] at good
    exact absurd (by simpa using good) failed

theorem sameHost_iff (a b : Endpoint) : SameHost a.sockaddr b.sockaddr ↔ a = b := by
  cases a; cases b
  simp [SameHost]

def Reported (k : Connecting) (i : Incoming) : Prop :=
  UdpSocket.fromAddress k.socket.peerAddress i = i.source.sockaddr

theorem reported_of_whole (k : Connecting) (i : Incoming) (whole : 16 ≤ i.len) : Reported k i :=
  ByteLayout.partly_full _ _ _ _ whole

theorem took_reported (k : Connecting) (msg : Message) (src : Endpoint) (len : Nat) (fits : len < 2 ^ 31)
    (reported : Reported k ⟨.ofMessage msg,src,len,fits⟩) :
    k.took ⟨.ofMessage msg,src,len,fits⟩ =
      {k with socket := {k.socket with peerAddress := src.sockaddr}, message := msg} := by
  have peer : UdpSocket.fromAddress k.socket.peerAddress ⟨.ofMessage msg,src,len,fits⟩ = src.sockaddr :=
    reported
  simp [Connecting.took,peer]

def SendsOk (d : Deployment ι) (m : Matching ι) (sent : List Packet) : Prop :=
  ∀ p ∈ sent, d.PacketOk m p ∧ p.payload.type ≠ some .bindRequest

theorem sendsOk_nil (i : ι) : SendsOk d m (d.sentBy i []) := nofun

theorem sendsOk_request (s : UdpSocket) (j : ι) (ok : Bool) (stack : Message)
    (partners : m.partner i = some j) (target : s.targetAddress = (d.endpoint j).sockaddr) :
    SendsOk d m (d.sentBy i
      (s.send (.ofMessage (stack.request .clientBindRequest (d.transactionId i))) ok).2) := by
  intro p member
  obtain ⟨x,sent,rfl⟩ := List.mem_map.mp member
  rw [mem_send sent,target]
  refine ⟨.clientBindRequest i j _ ?_ ?_ partners,?_⟩
  · exact Message.type_request _ _ _
  · exact Message.transactionId_request _ _ _
  · simp

theorem sendsOk_response (s : UdpSocket) (j : ι) (ok : Bool) (stack : Message)
    (partners : m.partner i = some j) (agree : d.transactionId i = d.transactionId j)
    (target : s.targetAddress = (d.endpoint j).sockaddr) :
    SendsOk d m (d.sentBy i
      (s.send (.ofMessage (stack.request .clientBindResponse (d.transactionId i))) ok).2) := by
  intro p member
  obtain ⟨x,sent,rfl⟩ := List.mem_map.mp member
  rw [mem_send sent,target]
  refine ⟨.clientBindResponse i j _ ?_ partners agree,?_⟩
  · exact Message.type_request _ _ _
  · simp

theorem onMessage_ok (k : Connecting) (n : Nat) (e : ReceiveStep) (p : Packet)
    (ok : d.PacketOk m p) (mine : p.dst = d.endpoint i) (read : p.payload = .ofMessage k.message)
    (peer : k.socket.peerAddress = p.src.sockaddr)
    (standing : d.Standing m i k.state k.socket.targetAddress) :
    d.ClientOk m i ((d.connector i).onMessage k n e).1 ∧
      SendsOk d m (d.sentBy i ((d.connector i).onMessage k n e).2) := by
  cases ok with
  | bindRequest a s msg typed => exact absurd mine.symm (d.apart i s)
  | ack a s msg typed =>
    rw [Payload.ofMessage_injective read] at typed
    rw [P2pConnector.onMessage_ack _ _ _ _ typed]
    exact ⟨clientOk_again k n standing,sendsOk_nil i⟩
  | bindReply a j s msg typed names partners =>
    rw [Payload.ofMessage_injective read] at typed names
    rw [d.distinct mine] at partners
    rw [P2pConnector.onMessage_bindReply _ _ _ _ typed,names]
    split
    · refine ⟨clientOk_again _ 3 (.joined j partners),?_⟩
      exact sendsOk_request _ j e.sendOk e.stack partners rfl
    · exact ⟨clientOk_again k n standing,sendsOk_nil i⟩
  | clientBindRequest a j msg typed own partners =>
    rw [Payload.ofMessage_injective read] at typed own
    rw [d.distinct mine] at partners
    have mutual_ := m.symmetric a i partners
    rw [P2pConnector.onMessage_clientBindRequest _ _ _ _ typed,own,peer]
    split
    · rename_i agree
      refine ⟨clientOk_established _ a mutual_ agree.symm rfl,?_⟩
      exact sendsOk_response _ a e.sendOk e.stack mutual_ agree.symm rfl
    · exact ⟨clientOk_again k _ standing,sendsOk_nil i⟩
  | clientBindResponse a j msg typed partners agree =>
    rw [Payload.ofMessage_injective read] at typed
    rw [d.distinct mine] at partners agree
    rw [P2pConnector.onMessage_clientBindResponse _ _ _ _ typed,peer]
    split
    · rename_i same
      refine ⟨?_,sendsOk_nil i⟩
      generalize state : k.state = held at standing
      generalize target : k.socket.targetAddress = aim at standing same
      cases standing with
      | asking =>
        -- a response from the server's address would have to come from the server
        obtain ⟨s,server⟩ := d.configured i
        rw [P2pConnector.stunServerAddr,Address.sockaddr,server,sameHost_iff] at same
        exact absurd same (d.apart a s)
      | joined j joined =>
        rw [sameHost_iff] at same
        rw [← d.distinct same] at joined target
        exact clientOk_established k a joined agree.symm target
    · exact ⟨clientOk_again k n standing,sendsOk_nil i⟩

/-- What may happen to a client: no datagram, or a packet from the matching. -/
inductive Arrives (d : Deployment ι) (m : Matching ι) (i : ι) (k : Connecting) : RecvOutcome → Prop
  | timeout : Arrives d m i k .timeout
  | error (written : Payload) : Arrives d m i k (.error written)
  | packet (p : Packet) (len : Nat) (fits : len < 2 ^ 31) (ok : d.PacketOk m p)
      (mine : p.dst = d.endpoint i) (reported : Reported k ⟨p.payload,p.src,len,fits⟩) :
      Arrives d m i k (.datagram ⟨p.payload,p.src,len,fits⟩)

theorem arrives_recvfrom {k : Connecting} {p : Packet} (len : Nat) (ok : d.PacketOk m p)
    (mine : p.dst = d.endpoint i)
    (reported : ∀ a, recvfrom p.payload p.src len = .ok a → Reported k a) :
    Arrives d m i k (.of (recvfrom p.payload p.src len)) := by
  by_cases fits : len < 2 ^ 31
  · have taken := reported _ (recvfrom_ok fits)
    rw [recvfrom_ok fits]
    exact .packet p len fits ok mine taken
  · rw [recvfrom_error fits]
    exact .error p.payload

theorem PacketOk.message {p : Packet} (ok : d.PacketOk m p) : ∃ msg, p.payload = .ofMessage msg := by
  cases ok <;> exact ⟨_,rfl⟩

theorem receive_ok (k : Connecting) (n : Nat) (e : ReceiveStep) (arrives : Arrives d m i k e.outcome)
    (standing : d.Standing m i k.state k.socket.targetAddress) :
    d.ClientOk m i ((d.connector i).receive k n e).1 ∧
      SendsOk d m (d.sentBy i ((d.connector i).receive k n e).2) := by
  generalize found : e.outcome = outcome at arrives
  cases arrives with
  | timeout =>
    simp only [P2pConnector.receive,found,UdpSocket.waitReceive,if_true,tryConnectToClient_eq]
    refine ⟨clientOk_again _ _ standing,?_⟩
    split
    · rename_i waiting
      have waiting : k.state = .waitingForClientReply := waiting
      rw [waiting] at standing
      generalize target : k.socket.targetAddress = aim at standing
      cases standing with
      | joined j partners => exact sendsOk_request _ j e.sendOk e.stack partners target
    · exact sendsOk_nil i
  | error written =>
    simp only [P2pConnector.receive,found,UdpSocket.waitReceive]
    exact ⟨clientOk_again _ _ standing,sendsOk_nil i⟩
  | packet p len fits ok mine reported =>
    obtain ⟨msg,content⟩ := ok.message
    have nonempty : p.payload ≠ [] := by simp [content,Payload.ofMessage]
    rw [content] at reported
    rw [P2pConnector.receive_datagram _ k n e _ found nonempty,content,
      took_reported k msg _ len fits reported]
    exact onMessage_ok _ n e p ok mine content rfl standing

theorem connect_ok (k : Connecting) (e : ReceiveStep) (arrives : Arrives d m i k e.outcome)
    (ok : d.ClientOk m i k) :
    d.ClientOk m i ((d.connector i).connect k e).1 ∧
      SendsOk d m (d.sentBy i ((d.connector i).connect k e).2) := by
  unfold P2pConnector.connect
  cases progress : k.progress with
  | awaitAck second =>
    simp only
    split
    · exact ⟨clientOk_failed _ _ rfl nofun,sendsOk_nil i⟩
    · have target : (k.socket.waitReceive 56 e.outcome).1.targetAddress =
          (d.connector i).stunServerAddr := by
        rw [← ok.asked second progress]
        cases e.outcome <;> rfl
      refine ⟨⟨nofun,?_,nofun⟩,sendsOk_nil i⟩
      intro _
      simp only [target]
      exact .asking
  | receiving n => exact receive_ok k n e arrives (ok.receiving ⟨n,progress⟩)
  | returned r => exact ⟨ok,sendsOk_nil i⟩

def requesters (flight : List Packet) : List Endpoint :=
  flight.filterMap (fun p => if p.payload.type = some .bindRequest then some p.src else none)

theorem requesters_perm {flight : List Packet} {position : Nat} {p : Packet}
    (found : flight[position]? = some p) (typed : p.payload.type = some .bindRequest) :
    (p.src :: requesters (flight.eraseIdx position)).Perm (requesters flight) := by
  obtain ⟨bound,rfl⟩ := List.getElem?_eq_some_iff.mp found
  have moved := (List.getElem_cons_eraseIdx_perm bound).filterMap
    (fun p => if p.payload.type = some .bindRequest then some p.src else none)
  rwa [List.filterMap_cons,if_pos typed] at moved

theorem requesters_append (ps qs : List Packet) :
    requesters (ps ++ qs) = requesters ps ++ requesters qs := List.filterMap_append

theorem requesters_erase (ps : List Packet) (position : Nat) :
    (requesters (ps.eraseIdx position)).Sublist (requesters ps) :=
  (List.eraseIdx_sublist ps position).filterMap _

theorem requesters_sent (flight sent : List Packet) (ok : SendsOk d m sent) :
    requesters (flight ++ sent) = requesters flight := by
  have none_asks : requesters sent = [] := by
    rw [requesters,List.filterMap_eq_nil_iff]
    intro p member
    exact if_neg (ok p member).2
  rw [requesters_append,none_asks,List.append_nil]

theorem packets_sent {flight sent : List Packet} (before : ∀ p ∈ flight, d.PacketOk m p)
    (ok : SendsOk d m sent) : ∀ p ∈ flight ++ sent, d.PacketOk m p := by
  intro p member
  rcases List.mem_append.mp member with old | new
  · exact before p old
  · exact (ok p new).1

/-- Every client asks once: while its request is in flight it is neither stored nor
joined, while it is stored it is not joined, and before its call it is none of these. -/
structure Consistent (d : Deployment ι) (m : Matching ι) (net : Network ι) : Prop where
  clients : ∀ i k, net.client i = some k → d.ClientOk m i k
  packets : ∀ p ∈ net.flight, d.PacketOk m p
  once : (requesters net.flight).Nodup
  asking : ∀ i, d.endpoint i ∈ requesters net.flight → net.client i ≠ none ∧
    m.partner i = none ∧ net.server.transactionClientMap 0 ≠ some (d.endpoint i).sockaddr
  stored : ∀ a, net.server.transactionClientMap 0 = some a →
    ∃ i, a = (d.endpoint i).sockaddr ∧ net.client i ≠ none ∧ m.partner i = none
  idle : ∀ i, net.client i = none → m.partner i = none

theorem consistent_start : Consistent d .empty Network.start where
  clients := nofun
  packets := nofun
  once := List.nodup_nil
  asking := nofun
  stored := nofun
  idle _ _ := rfl

theorem consistent_lose {net : Network ι} (position : Nat) (before : Consistent d m net) :
    Consistent d m {net with flight := net.flight.eraseIdx position} := by
  have fewer := requesters_erase net.flight position
  refine ⟨before.clients,?_,before.once.sublist fewer,?_,before.stored,before.idle⟩
  · intro p member
    exact before.packets p (List.mem_of_mem_eraseIdx member)
  · intro i member
    exact before.asking i (fewer.mem member)

theorem start_ok (m : Matching ι) (i : ι) (socket : UdpSocket) (sendOk : Bool) :
    d.ClientOk m i ((d.connector i).start socket sendOk).1 ∧
      ∀ x ∈ ((d.connector i).start socket sendOk).2,
        d.PacketOk m ⟨d.endpoint i,x.dest.endpoint,x.payload⟩ := by
  constructor
  · cases sendOk with
    | true => exact ⟨fun _ _ => rfl,nofun,nofun⟩
    | false => exact clientOk_failed _ .connectionError rfl nofun
  · intro x sent
    obtain ⟨s,server⟩ := d.configured i
    rw [mem_send sent]
    have dest : (d.connector i).stunServerAddr.endpoint = d.server s := server
    simp only [UdpSocket.setTargetAddress,dest]
    exact .bindRequest i s _ (Message.type_request _ _ _)

theorem ack_ok (m : Matching ι) (i : ι) :
    d.PacketOk m ⟨d.server .first,(d.endpoint i).sockaddr.endpoint,.ofMessage UdpServer.ackMessage⟩ :=
  .ack i .first _ (by simp [UdpServer.ackMessage])

theorem requesters_start (i : ι) (socket : UdpSocket) (sendOk : Bool) :
    requesters (d.sentBy i ((d.connector i).start socket sendOk).2) =
      if sendOk then [d.endpoint i] else [] := by
  cases sendOk <;>
    simp [requesters,sentBy,P2pConnector.start,UdpSocket.send]

/-- A connected client's target is another client with the same id, which has the first
one for its target if it is connected too. -/
def Agreement (d : Deployment ι) (net : Network ι) : Prop :=
  ∀ a k, net.client a = some k → Succeeded k →
    ∃ x, x ≠ a ∧ k.socket.targetAddress = (d.endpoint x).sockaddr ∧
      d.transactionId x = d.transactionId a ∧
      ∀ l, net.client x = some l → Succeeded l → l.socket.targetAddress = (d.endpoint a).sockaddr

theorem agreement_of_consistent {net : Network ι} (consistent : Consistent d m net) :
    Agreement d net := by
  intro a k found good
  obtain ⟨x,partners,agree,target⟩ := (consistent.clients a k found).succeeded good
  refine ⟨x,?_,target,agree.symm,?_⟩
  · rintro rfl
    exact m.irreflexive x partners
  · intro l found' good'
    obtain ⟨y,partners',_,target'⟩ := (consistent.clients x l found').succeeded good'
    rw [m.symmetric a x partners] at partners'
    rw [target',Option.some.inj partners']

/-- The client whose `recvfrom` takes a datagram learns the whole address of its sender. -/
def AddressReported (net : Network ι) : Event ι → Prop
  | .deliver i position len _ _ => ∀ p k, net.flight[position]? = some p → net.client i = some k →
    ∀ a, recvfrom p.payload p.src len = .ok a → Reported k a
  | _ => True

def WholeAddress : Event ι → Prop
  | .deliver _ _ len _ _ => 16 ≤ len
  | _ => True

theorem addressReported_of_whole (e : Event ι) (whole : WholeAddress e) (net : Network ι) :
    AddressReported net e := by
  cases e with
  | deliver i position len sendOk stack =>
    intro p k _ _ a taken
    obtain ⟨_,_,same⟩ := recvfrom_taken taken
    exact reported_of_whole k a (same ▸ whole)
  | _ => trivial

theorem consistent_stored {net : Network ι} (i : ι) (r : FullDatagram .bindRequest)
    (source : r.source = d.endpoint i) (present : net.client i ≠ none)
    (free : m.partner i = none) (silent : d.endpoint i ∉ requesters net.flight)
    (empty : net.server.transactionClientMap 0 = none) (before : Consistent d m net) :
    Consistent d m (d.serverStep net r.toReceived) := by
  obtain ⟨map,sent⟩ := UdpServer.handle_bindRequest net.server r
  rw [source,UdpServer.plainHandle,empty] at map sent
  have answers : SendsOk d m (d.sentByServer (UdpServer.handle net.server r.toReceived).2) := by
    rw [sent]
    intro p member
    rw [List.mem_singleton.mp member]
    exact ⟨ack_ok m i,by simp [UdpServer.ackPlain,UdpServer.ackMessage]⟩
  refine ⟨before.clients,packets_sent before.packets answers,?_,?_,?_,before.idle⟩
  · simp only [serverStep,requesters_sent _ _ answers]
    exact before.once
  · intro k member
    simp only [serverStep,requesters_sent _ _ answers] at member
    obtain ⟨called,single,_⟩ := before.asking k member
    refine ⟨called,single,?_⟩
    simp only [serverStep,map,Function.update_self,ne_eq,Option.some.injEq]
    intro same
    rw [Endpoint.sockaddr_injective same] at silent
    exact silent member
  · intro a found
    simp only [serverStep,map,Function.update_self,Option.some.injEq] at found
    exact ⟨i,found.symm,present,free⟩

variable [DecidableEq ι]

theorem clients_set {P : ι → Connecting → Prop} {client : ι → Option Connecting} (i : ι)
    (k : Connecting) (others : ∀ j k, client j = some k → P j k) (new : P i k) :
    ∀ j l, Function.update client i (some k) j = some l → P j l := by
  intro j l
  rw [Function.update_apply]
  split_ifs with same
  · rintro ⟨⟩
    exact same ▸ new
  · exact others j l

theorem consistent_client {net : Network ι} (i : ι) (e : ReceiveStep)
    (arrives : ∀ k, net.client i = some k → Arrives d m i k e.outcome)
    (before : Consistent d m net) : Consistent d m (d.clientStep net i e) := by
  unfold clientStep
  cases present : net.client i with
  | none => exact before
  | some k =>
    obtain ⟨ok,sends⟩ := connect_ok k e (arrives k present) (before.clients i k present)
    have asked := requesters_sent net.flight _ sends
    have present' (j : ι) (absent : Function.update net.client i
        (some ((d.connector i).connect k e).1) j = none) : net.client j = none := by
      rw [Function.update_apply] at absent
      split_ifs at absent
      exact absent
    refine ⟨clients_set i _ before.clients ok,packets_sent before.packets sends,?_,?_,?_,?_⟩
    · exact asked ▸ before.once
    · intro j member
      simp only [setClient,asked] at member
      obtain ⟨called,rest⟩ := before.asking j member
      exact ⟨fun absent => called (present' j absent),rest⟩
    · intro a found
      obtain ⟨j,same,called,free⟩ := before.stored a found
      exact ⟨j,same,fun absent => called (present' j absent),free⟩
    · intro j absent
      exact before.idle j (present' j absent)

theorem consistent_call {net : Network ι} (i : ι) (socket : UdpSocket) (sendOk : Bool)
    (absent : net.client i = none) (before : Consistent d m net) :
    Consistent d m (d.setClient net i ((d.connector i).start socket sendOk)) := by
  obtain ⟨ok,sends⟩ := start_ok (d := d) m i socket sendOk
  have free := before.idle i absent
  have silent : d.endpoint i ∉ requesters net.flight :=
    fun member => (before.asking i member).1 absent
  have called (j : ι) (present : net.client j ≠ none) :
      Function.update net.client i (some ((d.connector i).start socket sendOk).1) j ≠ none := by
    rw [Function.update_apply]
    split_ifs
    · exact nofun
    · exact present
  refine ⟨clients_set i _ before.clients ok,?_,?_,?_,?_,?_⟩
  · intro p member
    rcases List.mem_append.mp member with old | new
    · exact before.packets p old
    · obtain ⟨x,sent,rfl⟩ := List.mem_map.mp new
      exact sends x sent
  · simp only [setClient,requesters_append,requesters_start]
    split
    · refine List.nodup_append.mpr ⟨before.once,List.nodup_singleton _,?_⟩
      intro e member f own same
      rw [same,List.mem_singleton.mp own] at member
      exact silent member
    · simpa using before.once
  · intro j member
    simp only [setClient,requesters_append,requesters_start,List.mem_append] at member
    rcases member with old | new
    · obtain ⟨present,rest⟩ := before.asking j old
      exact ⟨called j present,rest⟩
    · have same : j = i := by
        split at new
        · exact d.distinct (List.mem_singleton.mp new)
        · contradiction
      subst j
      refine ⟨by simp [setClient],free,?_⟩
      intro stored
      obtain ⟨a,same,present,_⟩ := before.stored _ stored
      rw [d.distinct (Endpoint.sockaddr_injective same)] at absent
      exact present absent
  · intro a found
    obtain ⟨j,same,present,free⟩ := before.stored a found
    exact ⟨j,same,called j present,free⟩
  · intro j absent'
    by_contra joined
    exact called j (fun none => joined (before.idle j none)) absent'

section Request

variable {net : Network ι} (i : ι) (r : FullDatagram .bindRequest)

theorem consistent_joined {j : ι} (source : r.source = d.endpoint i) (apart : i ≠ j)
    (free : m.partner i = none) (free' : m.partner j = none) (present : net.client i ≠ none)
    (present' : net.client j ≠ none) (silent : d.endpoint i ∉ requesters net.flight)
    (stored : net.server.transactionClientMap 0 = some (d.endpoint j).sockaddr)
    (before : Consistent d m net) :
    Consistent d (m.join i j apart free free') (d.serverStep net r.toReceived) := by
  obtain ⟨map,sent⟩ := UdpServer.handle_bindRequest net.server r
  rw [source,UdpServer.plainHandle,stored] at map sent
  have grow := m.le_join apart free free'
  have answers : SendsOk d (m.join i j apart free free')
      (d.sentByServer (UdpServer.handle net.server r.toReceived).2) := by
    rw [sent]
    intro p member
    simp only [sentByServer,List.map_cons,List.map_nil,List.mem_cons,List.not_mem_nil,or_false] at member
    rcases member with rfl | rfl | rfl
    · exact ⟨ack_ok _ i,by simp [UdpServer.ackPlain,UdpServer.ackMessage]⟩
    · exact ⟨.bindReply i j .first _ (by simp) (by simp) (m.join_left apart free free'),by simp⟩
    · exact ⟨.bindReply j i .first _ (by simp) (by simp) (m.join_right apart free free'),by simp⟩
  refine ⟨?_,?_,?_,?_,?_,?_⟩
  · exact fun k l found => (before.clients k l found).mono grow
  · exact packets_sent (fun p member => (before.packets p member).mono grow) answers
  · simp only [serverStep,requesters_sent _ _ answers]
    exact before.once
  · intro k member
    simp only [serverStep,requesters_sent _ _ answers] at member
    obtain ⟨called,single,unstored⟩ := before.asking k member
    have first : k ≠ i := by
      rintro rfl
      exact silent member
    have second : k ≠ j := by
      rintro rfl
      exact unstored stored
    refine ⟨called,(m.join_other apart free free' first second).trans single,?_⟩
    simp [serverStep,map]
  · intro a found
    simp [serverStep,map] at found
  · intro k absent
    have first : k ≠ i := by
      rintro rfl
      exact present absent
    have second : k ≠ j := by
      rintro rfl
      exact present' absent
    exact (m.join_other apart free free' first second).trans (before.idle k absent)

theorem consistent_server (source : r.source = d.endpoint i) (present : net.client i ≠ none)
    (free : m.partner i = none) (silent : d.endpoint i ∉ requesters net.flight)
    (unstored : net.server.transactionClientMap 0 ≠ some (d.endpoint i).sockaddr)
    (before : Consistent d m net) :
    ∃ m', m ≤ m' ∧ Consistent d m' (d.serverStep net r.toReceived) := by
  cases stored : net.server.transactionClientMap 0 with
  | none =>
    exact ⟨m,m.le_rfl,consistent_stored i r source present free silent stored before⟩
  | some copeer =>
    obtain ⟨j,rfl,present',free'⟩ := before.stored copeer stored
    have apart : i ≠ j := by
      rintro rfl
      exact unstored stored
    exact ⟨m.join i j apart free free',m.le_join apart free free',
      consistent_joined i r source apart free free' present present' silent stored before⟩

end Request

theorem consistent_deliver {net : Network ι} (i : ι) (position len : Nat) (sendOk : Bool)
    (stack : Message) (reported : AddressReported net (.deliver i position len sendOk stack))
    (before : Consistent d m net) :
    Consistent d m (d.next net (.deliver i position len sendOk stack)) := by
  simp only [next]
  cases found : net.flight[position]? with
  | none => exact before
  | some p =>
    by_cases mine : p.dst = d.endpoint i
    · simp only [mine,if_true]
      have ok := before.packets p (List.mem_of_getElem? found)
      apply consistent_client
      · exact fun k present => arrives_recvfrom len ok mine (reported p k found present)
      · exact consistent_lose position before
    · simp only [mine,if_false]
      exact before

theorem consistent_serve {net : Network ι} (s : ServerSocket) (position : Nat) (clock1 clock2 : UInt64)
    (fresh : Option Message) (before : Consistent d m net) :
    ∃ m', m ≤ m' ∧ Consistent d m' (d.next net (.serve s position clock1 clock2 fresh)) := by
  simp only [next]
  cases found : net.flight[position]? with
  | none => exact ⟨m,m.le_rfl,before⟩
  | some p =>
    by_cases mine : p.dst = d.server s
    · simp only [mine,if_true]
      have ok := before.packets p (List.mem_of_getElem? found)
      cases ok with
      | bindRequest i s' msg typed =>
        have asks : (Payload.ofMessage msg).type = some .bindRequest := by simpa using typed
        have perm := requesters_perm found asks
        obtain ⟨silent,_⟩ := List.nodup_cons.mp (perm.nodup_iff.mpr before.once)
        obtain ⟨called,free,unstored⟩ := before.asking i (perm.mem_iff.mp (List.mem_cons_self ..))
        exact consistent_server i ⟨⟨s,.ofMessage msg,d.endpoint i,clock1,clock2,fresh⟩,
          by simp [Payload.ofMessage],asks⟩ rfl called free silent unstored
          (consistent_lose position before)
      | ack i s' msg typed => exact absurd mine (d.apart i s)
      | bindReply i j s' msg typed names partners => exact absurd mine (d.apart i s)
      | clientBindRequest i j msg typed own partners => exact absurd mine (d.apart j s)
      | clientBindResponse i j msg typed partners agree => exact absurd mine (d.apart j s)
    · simp only [mine,if_false]
      exact ⟨m,m.le_rfl,before⟩

theorem consistent_next {net : Network ι} (e : Event ι) (reported : AddressReported net e)
    (before : Consistent d m net) : ∃ m', m ≤ m' ∧ Consistent d m' (d.next net e) := by
  cases e with
  | call i socket sendOk =>
    simp only [next]
    cases absent : net.client i with
    | none => exact ⟨m,m.le_rfl,consistent_call i socket sendOk absent before⟩
    | some k => exact ⟨m,m.le_rfl,before⟩
  | wait i failed sendOk stack =>
    refine ⟨m,m.le_rfl,consistent_client i _ (fun k _ => ?_) before⟩
    cases failed with
    | true => exact .error []
    | false => exact .timeout
  | deliver i position len sendOk stack =>
    exact ⟨m,m.le_rfl,consistent_deliver i position len sendOk stack reported before⟩
  | serve s position clock1 clock2 fresh => exact consistent_serve s position clock1 clock2 fresh before
  | lose position => exact ⟨m,m.le_rfl,consistent_lose position before⟩

/-- In every run whose receive calls report the senders, the connected clients agree. -/
theorem agreement_run (d : Deployment ι) (events : List (Event ι))
    (reported : Along d.step AddressReported Network.start events) :
    Agreement d (run d.step Network.start events) := by
  have keep (net : Network ι) (e : Event ι) (before : ∃ m, Consistent d m net)
      (reported : AddressReported net e) : ∃ m, Consistent d m (d.step net e).1 := by
    obtain ⟨m,before⟩ := before
    obtain ⟨m',_,after⟩ := consistent_next e reported before
    exact ⟨m',after⟩
  obtain ⟨m,consistent⟩ := run_invariant keep ⟨.empty,consistent_start⟩ reported
  exact agreement_of_consistent consistent

def twoClients : Deployment Bool where
  endpoint i := if i then ⟨3,30⟩ else ⟨2,20⟩
  server s := if s = .first then (Address.mk 1 10).endpoint else (Address.mk 1 11).endpoint
  connector _ := ⟨⟨1,10⟩,7⟩
  distinct := by decide
  apart i s := by cases i <;> cases s <;> decide
  configured _ := ⟨.first,rfl⟩

def punch (len : Nat) : List (Event Bool) :=
  [.call false .create true,.call true .create true,.serve .first 0 0 0 none,.serve .first 0 0 0 none,
    .deliver false 0 16 true Message.zero,.deliver true 0 16 true Message.zero,
    .deliver true 0 16 true Message.zero,.deliver false 1 len true Message.zero,
    .deliver true 1 16 true Message.zero]

def outcome (net : Network Bool) (i : Bool) : Option (Progress × SockaddrIn) :=
  (net.client i).map (fun k => (k.progress,k.socket.targetAddress))

theorem agreement_punch :
    outcome (run twoClients.step Network.start (punch 16)) false =
        some (.returned .connectionSuccessful,(⟨3,30⟩ : Endpoint).sockaddr) ∧
      outcome (run twoClients.step Network.start (punch 16)) true =
        some (.returned .connectionSuccessful,(⟨2,20⟩ : Endpoint).sockaddr) ∧
      Agreement twoClients (run twoClients.step Network.start (punch 16)) := by
  refine ⟨by decide +kernel,by decide +kernel,agreement_run twoClients (punch 16) ?_⟩
  apply along_of_forall
  intro e member
  apply addressReported_of_whole
  simp only [punch,List.mem_cons,List.not_mem_nil,or_false] at member
  rcases member with rfl | rfl | rfl | rfl | rfl | rfl | rfl | rfl | rfl <;> simp [WholeAddress]

/-- With an address length of zero the peer address still holds the server's. -/
theorem emptyAddress_not_agreement :
    ¬Agreement twoClients (run twoClients.step Network.start (punch 0)) := by
  intro agreement
  have connected : outcome (run twoClients.step Network.start (punch 0)) false =
      some (.returned .connectionSuccessful,(Address.mk 1 10).sockaddr) := by decide +kernel
  obtain ⟨k,found,same⟩ := Option.map_eq_some_iff.mp connected
  obtain ⟨good,target⟩ := Prod.mk.injEq .. ▸ same
  obtain ⟨x,_,other,_⟩ := agreement false k found good
  have server := Endpoint.sockaddr_injective (target.symm.trans other)
  exact twoClients.apart x .first server.symm

end P2pStun.Deployment
