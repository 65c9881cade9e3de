import P2pStun.UdpSocket

/-! Connection set-up. First what both connectors share, the two messages between
clients, then `p2p_connector_t::connect` as a machine that takes one step for every
datagram, timeout or error its socket reports. -/
namespace P2pStun
open Runs

inductive ConnectorState
  | invalid | disconnected | waitingForStunReply | waitingForClientReply | connected
deriving DecidableEq

def ConnectorState.result : ConnectorState → ConnectResult
  | connected => .connectionSuccessful
  | waitingForStunReply => .connectionFailedNoServerMatchInTime
  | _ => .connectionFailed

def sendResult (sent : Bool) : Int := if sent then 1 else 0

/-- `stack` is what the local message holds before its fields are set. -/
def tryConnectToClient (transactionId : UInt32) (socket : UdpSocket) (ok : Bool) (stack : Message) :
    Bool × List Outgoing :=
  let message := stack.request .clientBindRequest transactionId
  let (sent,out) := socket.send (Payload.ofMessage message) ok
  if sendResult sent = -1 then (false,out) else (true,out)

def replyToBindRequest (transactionId : UInt32) (socket : UdpSocket) (clientBindRequest : Message)
    (peerAddr : SockaddrIn) (ok : Bool) (stack : Message) : UdpSocket × Bool × List Outgoing :=
  if transactionId ≠ ntohl clientBindRequest.transactionId then (socket,false,[])
  else
    let message := stack.request .clientBindResponse transactionId
    let socket := socket.setTargetAddress peerAddr
    let (sent,out) := socket.send (Payload.ofMessage message) ok
    if sendResult sent = -1 then (socket,false,out) else (socket,true,out)

/-- Every `send` counts as successful here, so only the id decides. -/
theorem replyToBindRequest_eq (id : UInt32) (socket : UdpSocket) (m : Message)
    (peerAddr : SockaddrIn) (ok : Bool) (stack : Message) :
    replyToBindRequest id socket m peerAddr ok stack =
      if ntohl m.transactionId = id then
        (socket.setTargetAddress peerAddr,true,((socket.setTargetAddress peerAddr).send
          (Payload.ofMessage (stack.request .clientBindResponse id)) ok).2)
      else (socket,false,[]) := by
  unfold replyToBindRequest
  by_cases same : ntohl m.transactionId = id
  · cases ok <;> simp [same,UdpSocket.send,sendResult]
  · simp [same,Ne.symm same]

theorem tryConnectToClient_eq (id : UInt32) (socket : UdpSocket) (ok : Bool) (stack : Message) :
    tryConnectToClient id socket ok stack =
      (true,(socket.send (Payload.ofMessage (stack.request .clientBindRequest id)) ok).2) := by
  cases ok <;> simp [tryConnectToClient,UdpSocket.send,sendResult]

def SameHost (a b : SockaddrIn) : Prop := a.sinAddr = b.sinAddr ∧ a.sinPort = b.sinPort

instance (a b : SockaddrIn) : Decidable (SameHost a b) := inferInstanceAs (Decidable (_ ∧ _))

/-- What the kernel answers to one round of calls, and the content of the local
message of the functions called in it. -/
structure ReceiveStep where
  outcome : RecvOutcome
  sendOk : Bool
  stack : Message

/-- Where a call of `connect` stands; the scanning connector awaits a second ack. -/
inductive Progress
  | awaitAck (second : Bool)
  | receiving (attemptsLeft : Nat)
  | returned (result : ConnectResult)
deriving DecidableEq

structure Connecting where
  socket : UdpSocket
  message : Message
  state : ConnectorState
  progress : Progress

/-- The condition of the receive loop. -/
def Connecting.again (k : Connecting) (attemptsLeft : Nat) : Connecting :=
  {k with progress := if attemptsLeft = 0 then .returned k.state.result else .receiving attemptsLeft}

def Connecting.established (k : Connecting) : Connecting :=
  {k with state := .connected, progress := .returned ConnectorState.connected.result}

def Connecting.took (k : Connecting) (d : Incoming) : Connecting :=
  {k with
    socket := {k.socket with peerAddress := UdpSocket.fromAddress k.socket.peerAddress d}
    message := k.message.received d.payload}

structure P2pConnector where
  stunServerAddress : Address
  transactionId : UInt32

theorem mem_send {s : UdpSocket} {buffer : Payload} {ok : Bool} {x : Outgoing}
    (sent : x ∈ (s.send buffer ok).2) : x = ⟨s.socketHandle,s.targetAddress,buffer⟩ := by
  cases ok with
  | true => exact List.mem_singleton.mp sent
  | false => contradiction

namespace P2pConnector

def stunServerAddr (c : P2pConnector) : SockaddrIn := c.stunServerAddress.sockaddr

def start (c : P2pConnector) (socket : UdpSocket) (sendOk : Bool) : Connecting × List Outgoing :=
  let socket := socket.setTargetAddress c.stunServerAddr
  let message := Message.zero.request .bindRequest c.transactionId
  let (sent,out) := socket.send (Payload.ofMessage message) sendOk
  (⟨socket,message,.disconnected,if sent then .awaitAck false else .returned .connectionError⟩,out)

def onMessage (c : P2pConnector) (k : Connecting) (attemptsLeft : Nat) (e : ReceiveStep) :
    Connecting × List Outgoing :=
  let peerAddr := k.socket.peerAddress
  match k.message.type with
  | some .bindReply =>
    if ¬SameHost peerAddr c.stunServerAddr then (k.again attemptsLeft,[])
    else
      let k := {k with socket := k.socket.setTargetAddress k.message.bindReply}
      let (tried,out) := tryConnectToClient c.transactionId k.socket e.sendOk e.stack
      if tried then (({k with state := .waitingForClientReply} : Connecting).again 3,out)
      else (k.again (attemptsLeft - 1),out)
  | some .clientBindRequest =>
    let (socket,replied,out) :=
      replyToBindRequest c.transactionId k.socket k.message peerAddr e.sendOk e.stack
    let k := {k with socket := socket}
    if replied then (k.established,out) else (k.again (attemptsLeft - 1),out)
  | some .clientBindResponse =>
    if ¬SameHost peerAddr k.socket.targetAddress then (k.again attemptsLeft,[])
    else (k.established,[])
  | some .ack => (k.again attemptsLeft,[])
  | _ => (k.again (attemptsLeft - 1),[])

def receive (c : P2pConnector) (k : Connecting) (attemptsLeft : Nat) (e : ReceiveStep) :
    Connecting × List Outgoing :=
  let (socket,result,bytes) := k.socket.waitReceive 56 e.outcome
  let k := {k with socket := socket, message := k.message.received bytes}
  if result = 0 then
    let out := if k.state = .waitingForClientReply then
      (tryConnectToClient c.transactionId socket e.sendOk e.stack).2 else []
    (k.again (attemptsLeft - 1),out)
  else if result < 0 then (k.again (attemptsLeft - 1),[])
  else c.onMessage k attemptsLeft e

def connect (c : P2pConnector) : Machine Connecting ReceiveStep Outgoing := fun k e =>
  match k.progress with
  | .awaitAck _ =>
    let (socket,result,bytes) := k.socket.waitReceive 56 e.outcome
    let k := {k with socket := socket, message := k.message.received bytes}
    if result = -1 ∨ result = 0 then ({k with progress := .returned .connectionError},[])
    else ({k with state := .waitingForStunReply, progress := .receiving 10},[])
  | .receiving attemptsLeft => c.receive k attemptsLeft e
  | .returned _ => (k,[])

theorem receive_datagram (c : P2pConnector) (k : Connecting) (n : Nat) (e : ReceiveStep)
    (d : Incoming) (found : e.outcome = .datagram d) (nonempty : d.payload ≠ []) :
    c.receive k n e = c.onMessage (k.took d) n e := by
  have positive : 0 < d.payload.length := List.length_pos_iff.mpr nonempty
  have some_bytes : ¬(min (d.payload.length : Int) 56 = 0) ∧ ¬(min (d.payload.length : Int) 56 < 0) := by
    omega
  simp [receive,found,UdpSocket.waitReceive,some_bytes,Connecting.took]

variable (c : P2pConnector) (k : Connecting) (n : Nat) (e : ReceiveStep)

theorem onMessage_bindReply (typed : k.message.type = some .bindReply) :
    c.onMessage k n e =
      if SameHost k.socket.peerAddress c.stunServerAddr then
        (({k with
            socket := k.socket.setTargetAddress k.message.bindReply
            state := .waitingForClientReply} : Connecting).again 3,
          ((k.socket.setTargetAddress k.message.bindReply).send
            (Payload.ofMessage (e.stack.request .clientBindRequest c.transactionId)) e.sendOk).2)
      else (k.again n,[]) := by
  simp [onMessage,typed,tryConnectToClient_eq]

theorem onMessage_clientBindRequest (typed : k.message.type = some .clientBindRequest) :
    c.onMessage k n e =
      if ntohl k.message.transactionId = c.transactionId then
        (({k with socket := k.socket.setTargetAddress k.socket.peerAddress} : Connecting).established,
          ((k.socket.setTargetAddress k.socket.peerAddress).send
            (Payload.ofMessage (e.stack.request .clientBindResponse c.transactionId)) e.sendOk).2)
      else (k.again (n - 1),[]) := by
  by_cases same : ntohl k.message.transactionId = c.transactionId
  · simp [onMessage,typed,replyToBindRequest_eq,same]
  · simp [onMessage,typed,replyToBindRequest_eq,same]

theorem onMessage_clientBindResponse (typed : k.message.type = some .clientBindResponse) :
    c.onMessage k n e =
      if SameHost k.socket.peerAddress k.socket.targetAddress then (k.established,[])
      else (k.again n,[]) := by
  simp [onMessage,typed]

theorem onMessage_ack (typed : k.message.type = some .ack) : c.onMessage k n e = (k.again n,[]) := by
  simp only [onMessage,typed]

end P2pConnector

end P2pStun
