import P2pStun.Acceptance

/-! What one iteration of a receive loop does, said once for both connectors: how the
outcome is handled, the state after it and what is sent. -/
namespace P2pStun
open Runs

inductive Handling
  | silent | costs | ignored | replied | answered | responded
deriving DecidableEq

def Connecting.heard (k : Connecting) : RecvOutcome → Connecting
  | .timeout => k
  | .error written => {k with message := k.message.received written}
  | .datagram d => k.took d

/-- The kinds of iterations: nothing received, an attempt spent, the loop continued at no
cost, a reply of the server acted upon, a request answered, a response accepted. -/
def handlingOf (reply : MessageType) (known : SockaddrIn → Prop) [DecidablePred known]
    (id : UInt32) (k : Connecting) : RecvOutcome → Handling
  | .timeout => .silent
  | .error _ => .costs
  | .datagram d =>
    let peerAddr := (k.took d).socket.peerAddress
    match d.payload.type with
    | none => if d.payload = [] then .silent else .costs
    | some type =>
      if type = reply then if known peerAddr then .replied else .ignored
      else match type with
      | .clientBindRequest =>
        if ntohl (k.took d).message.transactionId = id then .answered else .costs
      | .clientBindResponse => if SameHost peerAddr k.socket.targetAddress then .responded else .ignored
      | .ack => .ignored
      | _ => .costs

/-- A datagram with at least one byte; an empty one counts as a timeout. -/
def RecvOutcome.carries : RecvOutcome → Bool
  | .datagram d => !d.payload.isEmpty
  | _ => false

theorem waitReceive_carries (s : UdpSocket) (o : RecvOutcome) :
    ((s.waitReceive 56 o).2.1 = -1 ∨ (s.waitReceive 56 o).2.1 = 0) ↔ o.carries = false := by
  cases o with
  | timeout => simp [UdpSocket.waitReceive,RecvOutcome.carries]
  | error written => simp [UdpSocket.waitReceive,RecvOutcome.carries]
  | datagram d =>
    rcases List.eq_nil_or_concat' d.payload with empty | ⟨init,last,long⟩
    · simp [UdpSocket.waitReceive,RecvOutcome.carries,empty]
    · simp only [UdpSocket.waitReceive,RecvOutcome.carries,long]
      simp
      omega

theorem waitReceive_heard (k : Connecting) (o : RecvOutcome) :
    ({k with
      socket := (k.socket.waitReceive 56 o).1
      message := k.message.received (k.socket.waitReceive 56 o).2.2} : Connecting) = k.heard o := by
  cases o with
  | timeout => rfl
  | error written => simp [UdpSocket.waitReceive,Connecting.heard]
  | datagram d => simp [UdpSocket.waitReceive,Connecting.heard,Connecting.took]

namespace P2pConnector

variable (c : P2pConnector) (k : Connecting) (n : Nat) (e : ReceiveStep)

def handling : RecvOutcome → Handling :=
  handlingOf .bindReply (SameHost · c.stunServerAddr) c.transactionId k

def handled : Handling → Connecting × List Outgoing
  | .silent => (k.again (n - 1),
      if k.state = .waitingForClientReply then
        (k.socket.send (Payload.ofMessage (e.stack.request .clientBindRequest c.transactionId)) e.sendOk).2
      else [])
  | .costs => (k.again (n - 1),[])
  | .ignored => (k.again n,[])
  | .replied =>
    let socket := k.socket.setTargetAddress k.message.bindReply
    (({k with socket := socket, state := .waitingForClientReply} : Connecting).again 3,
      (socket.send (Payload.ofMessage (e.stack.request .clientBindRequest c.transactionId)) e.sendOk).2)
  | .answered =>
    let socket := k.socket.setTargetAddress k.socket.peerAddress
    (({k with socket := socket} : Connecting).established,
      (socket.send (Payload.ofMessage (e.stack.request .clientBindResponse c.transactionId)) e.sendOk).2)
  | .responded => (k.established,[])

theorem onMessage_handled (d : Incoming) (found : e.outcome = .datagram d) (nonempty : d.payload ≠ []) :
    c.onMessage (k.took d) n e = c.handled (k.took d) n e (c.handling k e.outcome) := by
  have read : (k.took d).message.type = d.payload.type := Message.type_received _ _ nonempty
  rw [handling,found]
  cases typed : d.payload.type with
  | none => simp [onMessage,read,handlingOf,typed,nonempty,handled]
  | some type =>
    cases type with
    | bindReply =>
      rw [onMessage_bindReply _ _ _ _ (read.trans typed)]
      by_cases host : SameHost (k.took d).socket.peerAddress c.stunServerAddr
      · simp [handlingOf,typed,host,handled]
      · simp [handlingOf,typed,host,handled]
    | clientBindRequest =>
      rw [onMessage_clientBindRequest _ _ _ _ (read.trans typed)]
      by_cases same : ntohl (k.took d).message.transactionId = c.transactionId
      · simp [handlingOf,typed,same,handled]
      · simp [handlingOf,typed,same,handled]
    | clientBindResponse =>
      rw [onMessage_clientBindResponse _ _ _ _ (read.trans typed)]
      have kept : (k.took d).socket.targetAddress = k.socket.targetAddress := rfl
      by_cases host : SameHost (k.took d).socket.peerAddress k.socket.targetAddress
      · simp [handlingOf,typed,kept,host,handled]
      · simp [handlingOf,typed,kept,host,handled]
    | _ => simp [onMessage,read,handlingOf,typed,handled]

theorem receive_handled :
    c.receive k n e = c.handled (k.heard e.outcome) n e (c.handling k e.outcome) := by
  cases found : e.outcome with
  | timeout =>
    simp only [receive,found,UdpSocket.waitReceive,tryConnectToClient_eq,if_true]
    rfl
  | error written => simp [receive,found,UdpSocket.waitReceive,handling,handlingOf,handled,Connecting.heard]
  | datagram d =>
    by_cases empty : d.payload = []
    · have untyped : d.payload.type = none := by rw [empty]; rfl
      have silent : c.handling k (.datagram d) = .silent := by
        simp only [handling,handlingOf,untyped]
        rw [if_pos empty]
      simp [receive,found,UdpSocket.waitReceive,empty,silent,handled,Connecting.heard,
        Connecting.took,tryConnectToClient_eq]
    · rw [receive_datagram c k n e d found empty,c.onMessage_handled k n e d found empty,found]
      rfl

theorem connect_awaitAck (second : Bool) (waits : k.progress = .awaitAck second) :
    c.connect k e = (if e.outcome.carries then
      {k.heard e.outcome with state := .waitingForStunReply, progress := .receiving 10}
      else {k.heard e.outcome with progress := .returned .connectionError},[]) := by
  rw [← waitReceive_heard]
  simp only [connect,waits,waitReceive_carries]
  cases e.outcome.carries <;> rfl

theorem connect_receiving (receiving : k.progress = .receiving n) :
    c.connect k e = c.handled (k.heard e.outcome) n e (c.handling k e.outcome) := by
  rw [connect,receiving]
  exact c.receive_handled k n e

theorem connect_returned (r : ConnectResult) (ended : k.progress = .returned r) :
    c.connect k e = (k,[]) := by
  rw [connect,ended]

end P2pConnector

namespace P2pPsConnector

variable {fpu : FloatUnit} (c : P2pPsConnector) (k : PsConnecting) (n : Nat) (e : PsStep fpu)

/-- Only the address of the sender is compared, not its port. -/
def FromServer (peerAddr : SockaddrIn) : Prop :=
  peerAddr.sinAddr = c.stunServerAddr2.sinAddr ∨ peerAddr.sinAddr = c.stunServerAddr1.sinAddr

instance : DecidablePred c.FromServer := fun _ => inferInstanceAs (Decidable (_ ∨ _))

def handling : RecvOutcome → Handling :=
  handlingOf .psBindReply c.FromServer c.transactionId k.toConnecting

def heard (o : RecvOutcome) : PsConnecting := {k with toConnecting := k.toConnecting.heard o}

def handled : Handling → PsConnecting × List Outgoing
  | .silent | .costs => (again k (n - 1),[])
  | .ignored => (again k n,[])
  | .replied =>
    let (k,success,out) := c.tryStartPsConnection k k.message.psBindReply e
    if success = 1 then (again k 1,out) else ({k with progress := .returned .connectionFailed},out)
  | .answered =>
    let socket := k.socket.setTargetAddress k.socket.peerAddress
    (established {k with socket := socket},
      (socket.send (Payload.ofMessage (e.stack.request .clientBindResponse c.transactionId)) e.sendOk).2)
  | .responded => (established k,[])

theorem tryStartPsConnection_success (r : PsBindReply) :
    (c.tryStartPsConnection k r e).2.1 = -1 ∨ (c.tryStartPsConnection k r e).2.1 = 0 ∨
      (c.tryStartPsConnection k r e).2.1 = 1 := by
  simp only [tryStartPsConnection]
  split
  · exact Or.inl rfl
  · split
    · split
      · exact Or.inl rfl
      · split
        · exact Or.inr (Or.inl rfl)
        · exact Or.inr (Or.inl rfl)
        · split
          · exact Or.inr (Or.inr rfl)
          · exact Or.inr (Or.inl rfl)
    · split
      · exact Or.inr (Or.inl rfl)
      · exact Or.inr (Or.inl rfl)
      · exact Or.inr (Or.inr rfl)

theorem onMessage_psBindReply (typed : k.message.type = some .psBindReply) :
    c.onMessage k n e =
      if c.FromServer k.socket.peerAddress then c.handled k n e .replied else (again k n,[]) := by
  have success := c.tryStartPsConnection_success k e k.message.psBindReply
  simp only [onMessage,typed,FromServer,handled]
  generalize c.tryStartPsConnection k k.message.psBindReply e = tried at success ⊢
  obtain ⟨after,result,out⟩ := tried
  by_cases second : k.socket.peerAddress.sinAddr = c.stunServerAddr2.sinAddr
  · rcases success with rfl | rfl | rfl <;> simp [second]
  · by_cases first : k.socket.peerAddress.sinAddr = c.stunServerAddr1.sinAddr
    · rcases success with rfl | rfl | rfl <;> simp [first]
    · simp [first,second]

theorem onMessage_handled (d : Incoming) (found : e.outcome = .datagram d) (nonempty : d.payload ≠ []) :
    c.onMessage {k with toConnecting := k.took d} n e =
      c.handled {k with toConnecting := k.took d} n e (c.handling k e.outcome) := by
  have read : (k.took d).message.type = d.payload.type := Message.type_received _ _ nonempty
  rw [handling,found]
  cases typed : d.payload.type with
  | none => simp [onMessage,read,handlingOf,typed,nonempty,handled]
  | some type =>
    cases type with
    | psBindReply =>
      rw [onMessage_psBindReply _ _ _ _ (read.trans typed)]
      by_cases host : c.FromServer (k.took d).socket.peerAddress
      · simp [handlingOf,typed,host]
      · simp [handlingOf,typed,host,handled]
    | clientBindRequest =>
      rw [onMessage_clientBindRequest _ _ _ _ (read.trans typed)]
      by_cases same : ntohl (k.took d).message.transactionId = c.transactionId
      · simp [handlingOf,typed,same,handled]
      · simp [handlingOf,typed,same,handled]
    | clientBindResponse =>
      rw [onMessage_clientBindResponse _ _ _ _ (read.trans typed)]
      have kept : (k.took d).socket.targetAddress = k.socket.targetAddress := rfl
      by_cases host : SameHost (k.took d).socket.peerAddress k.socket.targetAddress
      · simp [handlingOf,typed,kept,host,handled]
      · simp [handlingOf,typed,kept,host,handled]
    | _ => simp [onMessage,read,handlingOf,typed,handled]

theorem receive_handled :
    c.receive k n e = c.handled (heard k e.outcome) n e (c.handling k e.outcome) := by
  cases found : e.outcome with
  | timeout => simp [receive,found,UdpSocket.waitReceive,handling,handlingOf,handled,heard,Connecting.heard]
  | error written => simp [receive,found,UdpSocket.waitReceive,handling,handlingOf,handled,heard,Connecting.heard]
  | datagram d =>
    by_cases empty : d.payload = []
    · have untyped : d.payload.type = none := by rw [empty]; rfl
      have silent : c.handling k (.datagram d) = .silent := by
        simp only [handling,handlingOf,untyped]
        rw [if_pos empty]
      simp [receive,found,UdpSocket.waitReceive,empty,silent,handled,heard,Connecting.heard,Connecting.took]
    · rw [receive_datagram c k n e d found empty,c.onMessage_handled k n e d found empty,found]
      rfl

theorem connect_awaitFirst (waits : k.progress = .awaitAck false) :
    c.connect k e = if e.outcome.carries then c.secondRequest (heard k e.outcome) e
      else ({heard k e.outcome with progress := .returned .connectionError},[]) := by
  rw [heard,← waitReceive_heard]
  simp only [connect,waits,waitReceive_carries]
  cases e.outcome.carries <;> rfl

def heardByHelper (o : RecvOutcome) : PsConnecting :=
  {c.setHelperSocket k ((c.helperSocket k).waitReceive 56 o).1 with
    message := k.message.received ((c.helperSocket k).waitReceive 56 o).2.2}

theorem connect_awaitSecond (waits : k.progress = .awaitAck true) :
    c.connect k e = (if e.outcome.carries then
      {c.heardByHelper k e.outcome with state := .waitingForStunReply, progress := .receiving 5}
      else {c.heardByHelper k e.outcome with progress := .returned .connectionError},[]) := by
  simp only [connect,waits,waitReceive_carries,heardByHelper]
  cases e.outcome.carries <;> rfl

theorem connect_receiving (receiving : k.progress = .receiving n) :
    c.connect k e = c.handled (heard k e.outcome) n e (c.handling k e.outcome) := by
  rw [connect,receiving]
  exact c.receive_handled k n e

theorem connect_returned (r : ConnectResult) (ended : k.progress = .returned r) :
    c.connect k e = (k,[]) := by
  rw [connect,ended]

end P2pPsConnector

section Rounds

def arrives (message : Message) (source : Endpoint) : ReceiveStep :=
  ⟨.datagram (.whole (.ofMessage message) source),true,Message.zero⟩

def ackOf (server : Address) : ReceiveStep := arrives (Message.zero.setType .ack) server.endpoint

def requestOf (id : UInt32) (source : Endpoint) : ReceiveStep :=
  arrives (Message.zero.request .clientBindRequest id) source

def bindReplyOf (server : Address) (client : Endpoint) : ReceiveStep :=
  arrives ((Message.zero.setType .bindReply).setBindReply client.sockaddr) server.endpoint

def steadyReply (server : Address) (client : Endpoint) : ReceiveStep :=
  arrives ((Message.zero.setType .psBindReply).setPsBindReply ⟨client.sockaddr,client.sockaddr,0,1⟩)
    server.endpoint

def quiet : ReceiveStep := ⟨.timeout,true,Message.zero⟩

def Draw.plain : Draw .exact := ⟨0,(0 : Rat),true⟩

def readably (e : ReceiveStep) : PsStep .exact :=
  ⟨e,some 4,.plain,0,fun _ => ⟨some 5,.plain,true,Message.zero⟩,.ready fun _ => true⟩

def PortManager.plain : PortManager := ⟨fun _ => none,6000,0,50,5000⟩

end Rounds

end P2pStun
