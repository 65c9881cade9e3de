import P2pStun.HolePunching
import P2pStun.ReceiveLoop
import P2pStun.Handshake

/-! How far a call of `p2p_connector_t::connect` has come, and how one datagram of each
type, or a wait in vain, moves it. -/
namespace P2pStun
open Runs

/-- How far a call has come; the plain connector does not knock first. -/
def Connecting.stage (k : Connecting) : Option Stage :=
  match k.progress with
  | .awaitAck _ => some .asked
  | .receiving 0 => none
  | .receiving (_ + 1) => match k.state with
    | .waitingForStunReply => some .listening
    | .waitingForClientReply => some .calling
    | _ => none
  | .returned .connectionSuccessful => some .connected
  | .returned _ => none

def Network.stage {ι : Type} (net : Network ι) (i : ι) : Option Stage := (net.client i).bind Connecting.stage

def Connecting.Patient (k : Connecting) : Prop :=
  match k.progress with
  | .awaitAck _ => False
  | .receiving attemptsLeft => 2 ≤ attemptsLeft
  | .returned _ => True

instance (k : Connecting) : Decidable k.Patient :=
  match progress : k.progress with
  | .awaitAck _ => isFalse (by simp [Connecting.Patient,progress])
  | .receiving n => decidable_of_iff (2 ≤ n) (by simp [Connecting.Patient,progress])
  | .returned _ => isTrue (by simp [Connecting.Patient,progress])

section Arrivals

variable {k : Connecting}

theorem Connecting.stage_asked (stage : k.stage = some .asked) : ∃ second, k.progress = .awaitAck second := by
  cases progress : k.progress with
  | awaitAck second => exact ⟨second,rfl⟩
  | receiving n => cases n <;> cases state : k.state <;> simp [Connecting.stage,progress,state] at stage
  | returned r => cases r <;> simp [Connecting.stage,progress] at stage

theorem Connecting.stage_receiving {stage : Stage} (at_ : k.stage = some stage)
    (running : stage = .listening ∨ stage = .calling) :
    ∃ n, k.progress = .receiving (n + 1) ∧
      k.state = if stage = .listening then .waitingForStunReply else .waitingForClientReply := by
  cases progress : k.progress with
  | awaitAck second =>
    simp only [Connecting.stage,progress,Option.some.injEq] at at_
    subst at_
    simp at running
  | receiving n =>
    cases n with
    | zero => simp [Connecting.stage,progress] at at_
    | succ n =>
      refine ⟨n,rfl,?_⟩
      cases state : k.state with
      | waitingForStunReply =>
        simp only [Connecting.stage,progress,state,Option.some.injEq] at at_
        exact at_ ▸ rfl
      | waitingForClientReply =>
        simp only [Connecting.stage,progress,state,Option.some.injEq] at at_
        exact at_ ▸ rfl
      | invalid | disconnected | connected => simp [Connecting.stage,progress,state] at at_
  | returned r =>
    cases r with
    | connectionSuccessful =>
      simp only [Connecting.stage,progress,Option.some.injEq] at at_
      subst at_
      simp at running
    | invalid | connectionFailedNoServerMatchInTime | connectionFailed | connectionError =>
      simp [Connecting.stage,progress] at at_

theorem Connecting.stage_connected : k.stage = some .connected ↔ Succeeded k := by
  cases progress : k.progress with
  | awaitAck second => simp [Connecting.stage,progress,Succeeded]
  | receiving n => cases n <;> cases state : k.state <;> simp [Connecting.stage,progress,state,Succeeded]
  | returned r => cases r <;> simp [Connecting.stage,progress,Succeeded]

theorem Connecting.stage_again (n : Nat) (state : k.state = .waitingForStunReply ∨ k.state = .waitingForClientReply) :
    (k.again (n + 1)).stage =
      some (if k.state = .waitingForStunReply then .listening else .calling) := by
  rcases state with state | state <;> simp [Connecting.stage,Connecting.again,state]

def arrival (msg : Message) (src : Endpoint) (len : Nat) (stack : Message) : ReceiveStep :=
  ⟨.of (recvfrom (.ofMessage msg) src len),true,stack⟩

variable (c : P2pConnector) (msg : Message) (src : Endpoint) (len : Nat) (stack : Message)

theorem arrival_whole (whole : ReportsWhole len) :
    arrival msg src len stack = ⟨.datagram ⟨.ofMessage msg,src,len,whole.2⟩,true,stack⟩ := by
  rw [arrival,recvfrom_ok whole.2]
  rfl

theorem arrival_asked (stage : k.stage = some .asked) (whole : ReportsWhole len) :
    (c.connect k (arrival msg src len stack)).1.stage = some .listening ∧
      (c.connect k (arrival msg src len stack)).2 = [] := by
  obtain ⟨second,waits⟩ := Connecting.stage_asked stage
  rw [c.connect_awaitAck k _ second waits]
  have carries : (arrival msg src len stack).outcome.carries = true := by
    simp [arrival_whole msg src len stack whole,RecvOutcome.carries,Payload.ofMessage]
  rw [carries]
  exact ⟨rfl,rfl⟩

theorem arrival_connected (stage : k.stage = some .connected) :
    c.connect k (arrival msg src len stack) = (k,[]) :=
  c.connect_returned k _ .connectionSuccessful (Connecting.stage_connected.mp stage)

theorem arrival_receiving {n : Nat} (receiving : k.progress = .receiving n) (whole : ReportsWhole len) :
    c.connect k (arrival msg src len stack) =
      c.onMessage {k with socket := {k.socket with peerAddress := src.sockaddr}, message := msg} n
        (arrival msg src len stack) := by
  have nonempty : Payload.ofMessage msg ≠ [] := by simp [Payload.ofMessage]
  have step : c.connect k (arrival msg src len stack) = c.receive k n (arrival msg src len stack) := by
    simp only [P2pConnector.connect,receiving]
  rw [step,c.receive_datagram k n _ ⟨.ofMessage msg,src,len,whole.2⟩
      (by rw [arrival_whole msg src len stack whole]) nonempty,
    Deployment.took_reported k msg src len whole.2 (Deployment.reported_of_whole k _ whole.1)]

theorem arrival_ack {stage : Stage} (at_ : k.stage = some stage)
    (running : stage = .listening ∨ stage = .calling) (typed : msg.type = some .ack) (whole : ReportsWhole len) :
    (c.connect k (arrival msg src len stack)).1.stage = some stage ∧
      (c.connect k (arrival msg src len stack)).2 = [] := by
  obtain ⟨n,receiving,state⟩ := Connecting.stage_receiving at_ running
  rw [arrival_receiving c msg src len stack receiving whole,c.onMessage_ack _ _ _ typed]
  refine ⟨?_,rfl⟩
  rw [Connecting.stage_again n (by rcases running with rfl | rfl <;> simp [state])]
  rcases running with rfl | rfl <;> simp [state]

theorem arrival_reply (at_ : k.stage = some .listening) (typed : msg.type = some .bindReply)
    (host : SameHost src.sockaddr c.stunServerAddr) (whole : ReportsWhole len) :
    (c.connect k (arrival msg src len stack)).1.stage = some .calling ∧
      (c.connect k (arrival msg src len stack)).2 = [⟨k.socket.socketHandle,msg.bindReply,
        .ofMessage (stack.request .clientBindRequest c.transactionId)⟩] := by
  obtain ⟨n,receiving,_⟩ := Connecting.stage_receiving at_ (Or.inl rfl)
  rw [arrival_receiving c msg src len stack receiving whole,c.onMessage_bindReply _ _ _ typed,if_pos host]
  exact ⟨Connecting.stage_again 2 (Or.inr rfl),rfl⟩

theorem arrival_punch {stage : Stage} (at_ : k.stage = some stage)
    (running : stage = .listening ∨ stage = .calling) (typed : msg.type = some .clientBindRequest)
    (own : ntohl msg.transactionId = c.transactionId) (whole : ReportsWhole len) :
    (c.connect k (arrival msg src len stack)).1.stage = some .connected ∧
      (c.connect k (arrival msg src len stack)).2 = [⟨k.socket.socketHandle,src.sockaddr,
        .ofMessage (stack.request .clientBindResponse c.transactionId)⟩] := by
  obtain ⟨n,receiving,_⟩ := Connecting.stage_receiving at_ running
  rw [arrival_receiving c msg src len stack receiving whole,c.onMessage_clientBindRequest _ _ _ typed,if_pos own]
  exact ⟨rfl,rfl⟩

theorem arrival_answer (at_ : k.stage = some .calling) (typed : msg.type = some .clientBindResponse)
    (target : k.socket.targetAddress = src.sockaddr) (whole : ReportsWhole len) :
    (c.connect k (arrival msg src len stack)).1.stage = some .connected ∧
      (c.connect k (arrival msg src len stack)).2 = [] := by
  obtain ⟨n,receiving,_⟩ := Connecting.stage_receiving at_ (Or.inr rfl)
  rw [arrival_receiving c msg src len stack receiving whole,c.onMessage_clientBindResponse _ _ _ typed,
    if_pos (by rw [target]; exact ⟨rfl,rfl⟩)]
  exact ⟨rfl,rfl⟩

theorem wait_patient {n : Nat} (receiving : k.progress = .receiving (n + 2)) (failed sendOk : Bool) :
    (c.connect k ⟨if failed then .error [] else .timeout,sendOk,stack⟩).1.stage = k.stage ∧
      ∀ x ∈ (c.connect k ⟨if failed then .error [] else .timeout,sendOk,stack⟩).2,
        x.payload.type = some .clientBindRequest ∧ k.stage = some .calling := by
  have stays (s : UdpSocket) (msg : Message) :
      (({k with socket := s, message := msg} : Connecting).again (n + 1)).stage = k.stage := by
    simp [Connecting.stage,Connecting.again,receiving]
  have step : c.connect k ⟨if failed then .error [] else .timeout,sendOk,stack⟩ =
      c.receive k (n + 2) ⟨if failed then .error [] else .timeout,sendOk,stack⟩ := by
    simp only [P2pConnector.connect,receiving]
  rw [step]
  cases failed with
  | true =>
    simp only [P2pConnector.receive,UdpSocket.waitReceive,if_true]
    exact ⟨stays _ _,by simp⟩
  | false =>
    simp only [P2pConnector.receive,UdpSocket.waitReceive,tryConnectToClient_eq,if_true,Bool.false_eq_true,if_false]
    refine ⟨stays _ _,?_⟩
    intro x sent
    split at sent
    · rename_i calls
      rw [mem_send sent]
      simp [Connecting.stage,receiving,show k.state = .waitingForClientReply from calls]
    · contradiction

end Arrivals

end P2pStun
