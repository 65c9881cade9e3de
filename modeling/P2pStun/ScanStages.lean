import P2pStun.ScanIntroductions
import P2pStun.Stages

/-! How far a call of `p2p_ps_connector_t::connect` behind a translator that is not
symmetric has come, and how one datagram of each type, or a wait in vain, moves it. -/
namespace P2pStun
open Runs P2pPsConnector

variable {fpu : FloatUnit}

/-- The target tells a client that listens from one that calls another one. -/
def PsConnecting.stage (c : P2pPsConnector) (other : Endpoint) (k : PsConnecting) : Option Stage :=
  match k.progress with
  | .awaitAck false => some .knocking
  | .awaitAck true => if k.socket.targetAddress = c.stunServerAddr2 then some .asked else none
  | .receiving 0 => none
  | .receiving (_ + 1) =>
    if k.socket.targetAddress = c.stunServerAddr2 then some .listening
    else if k.socket.targetAddress = other.sockaddr then some .calling
    else none
  | .returned .connectionSuccessful => some .connected
  | .returned _ => none

variable {c : P2pPsConnector} {other : Endpoint} {k : PsConnecting}

theorem PsConnecting.stage_some {s : Stage} (at_ : k.stage c other = some s) :
    match s with
    | .knocking => k.progress = .awaitAck false
    | .asked => k.progress = .awaitAck true ∧ k.socket.targetAddress = c.stunServerAddr2
    | .listening => ∃ n, k.progress = .receiving (n + 1) ∧ k.socket.targetAddress = c.stunServerAddr2
    | .calling => ∃ n, k.progress = .receiving (n + 1) ∧ k.socket.targetAddress = other.sockaddr ∧
      k.socket.targetAddress ≠ c.stunServerAddr2
    | .connected => Succeeded k.toConnecting := by
  cases progress : k.progress with
  | awaitAck second =>
    cases second with
    | false =>
      simp only [stage,progress,Option.some.injEq] at at_
      subst at_
      rfl
    | true =>
      simp only [stage,progress] at at_
      split_ifs at at_ with target
      cases at_
      exact ⟨rfl,target⟩
  | receiving n =>
    cases n with
    | zero => simp [stage,progress] at at_
    | succ n =>
      simp only [stage,progress] at at_
      split_ifs at at_ with listens calls
      · cases at_
        exact ⟨n,rfl,listens⟩
      · cases at_
        exact ⟨n,rfl,calls,listens⟩
  | returned r =>
    cases r with
    | connectionSuccessful =>
      simp only [stage,progress,Option.some.injEq] at at_
      subst at_
      exact progress
    | invalid | connectionFailedNoServerMatchInTime | connectionFailed | connectionError =>
      simp [stage,progress] at at_

theorem PsConnecting.stage_connected : k.stage c other = some .connected ↔ Succeeded k.toConnecting :=
  ⟨stage_some,fun good => by simp [stage,show k.progress = _ from good]⟩

theorem PsConnecting.stage_again (n : Nat) : (again k (n + 1)).stage c other =
    if k.socket.targetAddress = c.stunServerAddr2 then some .listening
    else if k.socket.targetAddress = other.sockaddr then some .calling
    else none := rfl

section Arrivals

variable (e : PsStep fpu) (msg : Message) (src : Endpoint) (len : Nat)

def PsStep.gets (e : PsStep fpu) (msg : Message) (src : Endpoint) (len : Nat) : PsStep fpu :=
  e.hearing (.of (recvfrom (.ofMessage msg) src len))

theorem gets_outcome (whole : ReportsWhole len) :
    (e.gets msg src len).outcome = .datagram ⟨.ofMessage msg,src,len,whole.2⟩ := by
  rw [PsStep.gets,recvfrom_ok whole.2]
  rfl

theorem gets_carries (whole : ReportsWhole len) : (e.gets msg src len).outcome.carries = true := by
  rw [gets_outcome e msg src len whole]
  simp [RecvOutcome.carries,Payload.ofMessage]

theorem scan_start (other : Endpoint) (socket : UdpSocket) (portman : PortManager) (draw : Draw fpu) :
    (c.start socket portman draw true).1.stage c other = some .knocking ∧
      ∃ x msg, (c.start socket portman draw true).2 = [x] ∧ x.dest = c.stunServerAddr1 ∧
        x.payload = .ofMessage msg ∧ msg.type = some .psBindRequest ∧ ntohl msg.transactionId = c.transactionId := by
  refine ⟨rfl,_,_,rfl,rfl,rfl,?_,?_⟩
  · exact Message.type_request _ _ _
  · exact Message.transactionId_request _ _ _

theorem scan_knocking (cone : c.isSymNat = false) (at_ : k.stage c other = some .knocking) (ok : e.sendOk = true)
    (whole : ReportsWhole len) :
    (c.connect k (e.gets msg src len)).1.stage c other = some .asked ∧
      ∃ x m, (c.connect k (e.gets msg src len)).2 = [x] ∧ x.dest = c.stunServerAddr2 ∧
        x.payload = .ofMessage m ∧ m.type = some .psBindRequest ∧ ntohl m.transactionId = c.transactionId := by
  have ok : (e.gets msg src len).sendOk = true := ok
  rw [c.connect_awaitFirst k _ (PsConnecting.stage_some at_),if_pos (gets_carries e msg src len whole)]
  simp only [secondRequest,setHelperSocket,cone,ok,UdpSocket.send,if_true,Bool.false_eq_true,if_false,
    not_true_eq_false]
  refine ⟨?_,_,_,rfl,rfl,rfl,?_,?_⟩
  · simp [PsConnecting.stage,UdpSocket.setTargetAddress]
  · exact Message.type_request _ _ _
  · exact Message.transactionId_request _ _ _

theorem scan_asked (cone : c.isSymNat = false) (at_ : k.stage c other = some .asked)
    (whole : ReportsWhole len) :
    (c.connect k (e.gets msg src len)).1.stage c other = some .listening ∧
      (c.connect k (e.gets msg src len)).2 = [] := by
  obtain ⟨waits,target⟩ := PsConnecting.stage_some at_
  rw [c.connect_awaitSecond k _ waits,if_pos (gets_carries e msg src len whole)]
  refine ⟨?_,rfl⟩
  have kept : (c.heardByHelper k (e.gets msg src len).outcome).socket.targetAddress = c.stunServerAddr2 := by
    rw [← target]
    simp [heardByHelper,helperSocket,setHelperSocket,cone,ScanDeployment.waitReceive_targetAddress]
  simp only [PsConnecting.stage]
  exact if_pos kept

theorem scan_connected (at_ : k.stage c other = some .connected) : c.connect k (e.gets msg src len) = (k,[]) :=
  c.connect_returned k _ .connectionSuccessful (PsConnecting.stage_some at_)

theorem scan_receiving {n : Nat} (receiving : k.progress = .receiving n) (whole : ReportsWhole len) :
    c.connect k (e.gets msg src len) =
      c.handled {k with socket := {k.socket with peerAddress := src.sockaddr}, message := msg} n
        (e.gets msg src len) (c.handling k (.datagram ⟨.ofMessage msg,src,len,whole.2⟩)) := by
  have took := ScanDeployment.heard_message k msg src len whole.2 whole.1
  rw [c.connect_receiving k n _ receiving,gets_outcome e msg src len whole,took]

theorem scan_ack {s : Stage} (at_ : k.stage c other = some s) (running : s = .listening ∨ s = .calling)
    (typed : msg.type = some .ack) (whole : ReportsWhole len) :
    (c.connect k (e.gets msg src len)).1.stage c other = some s ∧ (c.connect k (e.gets msg src len)).2 = [] := by
  have kept (n : Nat) (receiving : k.progress = .receiving (n + 1)) :
      c.connect k (e.gets msg src len) =
        (again {k with socket := {k.socket with peerAddress := src.sockaddr}, message := msg} (n + 1),[]) := by
    rw [scan_receiving e msg src len receiving whole]
    simp [handling,handlingOf,typed,handled]
  rcases running with rfl | rfl
  · obtain ⟨n,receiving,target⟩ := PsConnecting.stage_some at_
    rw [kept n receiving,PsConnecting.stage_again]
    exact ⟨if_pos target,rfl⟩
  · obtain ⟨n,receiving,target,elsewhere⟩ := PsConnecting.stage_some at_
    rw [kept n receiving,PsConnecting.stage_again,if_neg elsewhere]
    exact ⟨if_pos target,rfl⟩

theorem scan_punch {s : Stage} (at_ : k.stage c other = some s) (running : s = .listening ∨ s = .calling)
    (typed : msg.type = some .clientBindRequest) (own : ntohl msg.transactionId = c.transactionId)
    (ok : e.sendOk = true) (whole : ReportsWhole len) :
    (c.connect k (e.gets msg src len)).1.stage c other = some .connected ∧
      ∃ x m, (c.connect k (e.gets msg src len)).2 = [x] ∧ x.dest = src.sockaddr ∧
        x.payload = .ofMessage m ∧ m.type = some .clientBindResponse := by
  have answered (n : Nat) (receiving : k.progress = .receiving (n + 1)) :
      c.connect k (e.gets msg src len) =
        c.handled {k with socket := {k.socket with peerAddress := src.sockaddr}, message := msg} (n + 1)
          (e.gets msg src len) .answered := by
    have read : ntohl (k.took ⟨.ofMessage msg,src,len,whole.2⟩).message.transactionId = c.transactionId := by
      rw [← own]
      simp [Connecting.took]
    rw [scan_receiving e msg src len receiving whole]
    simp [handling,handlingOf,typed,read]
  have ok : (e.gets msg src len).sendOk = true := ok
  obtain ⟨n,receiving⟩ : ∃ n, k.progress = .receiving (n + 1) := by
    rcases running with rfl | rfl
    · exact (PsConnecting.stage_some at_).imp fun _ => And.left
    · exact (PsConnecting.stage_some at_).imp fun _ => And.left
  rw [answered n receiving]
  simp only [handled,UdpSocket.send,ok,if_true]
  exact ⟨rfl,_,_,rfl,rfl,rfl,Message.type_request _ _ _⟩

theorem scan_answer (at_ : k.stage c other = some .calling) (typed : msg.type = some .clientBindResponse)
    (source : src = other) (whole : ReportsWhole len) :
    (c.connect k (e.gets msg src len)).1.stage c other = some .connected ∧
      (c.connect k (e.gets msg src len)).2 = [] := by
  obtain ⟨n,receiving,target,_⟩ := PsConnecting.stage_some at_
  have peer : (k.took ⟨.ofMessage msg,src,len,whole.2⟩).socket.peerAddress = other.sockaddr :=
    source ▸ Deployment.reported_of_whole _ _ whole.1
  have host : SameHost (k.took ⟨.ofMessage msg,src,len,whole.2⟩).socket.peerAddress k.socket.targetAddress := by
    rw [peer,target]
    exact ⟨rfl,rfl⟩
  rw [scan_receiving e msg src len receiving whole]
  simp only [handling,handlingOf,Payload.type_ofMessage,typed,host,handled]
  exact ⟨rfl,rfl⟩

theorem scan_reply (cone : c.isSymNat = false) (at_ : k.stage c other = some .listening)
    (typed : msg.type = some .psBindReply) (known : c.FromServer src.sockaddr)
    (names : msg.psBindReply.addrOne = other.sockaddr ∧ msg.psBindReply.addrTwo = other.sockaddr)
    (routed : other.port ≠ 0) (elsewhere : other.sockaddr ≠ c.stunServerAddr2)
    (selected : ∃ readable, e.select = .ready readable) (ok : e.sendOk = true) (whole : ReportsWhole len) :
    (c.connect k (e.gets msg src len)).1.stage c other = some .calling ∧
      ∃ x m, (c.connect k (e.gets msg src len)).2 = [x] ∧ x.dest = other.sockaddr ∧
        x.payload = .ofMessage m ∧ m.type = some .clientBindRequest := by
  obtain ⟨n,receiving,_⟩ := PsConnecting.stage_some at_
  obtain ⟨readable,selected⟩ := selected
  have peer : (k.took ⟨.ofMessage msg,src,len,whole.2⟩).socket.peerAddress = src.sockaddr :=
    Deployment.reported_of_whole _ _ whole.1
  rw [scan_receiving e msg src len receiving whole]
  simp only [handling,handlingOf,Payload.type_ofMessage,typed,peer,known,if_true]
  have port : htons (ntohs other.port) = other.port := ByteLayout.swapped_swapped _ _
  have nonzero : ntohs other.port ≠ 0 := by
    intro zero
    rw [zero] at port
    exact routed (port.symm.trans (by decide))
  have predicted : determineTargetPort fpu (ntohs other.port) (ntohs other.port) msg.psBindReply.t1
      msg.psBindReply.t2 scanRange (e.gets msg src len).timeNow = ntohs other.port := if_pos rfl
  have selected : (e.gets msg src len).select = .ready readable := selected
  have ok : (e.gets msg src len).sendOk = true := ok
  simp only [handled,tryStartPsConnection,names,Endpoint.sockaddr_sinPort,predicted,nonzero,port,cone,selected,
    Bool.false_eq_true,if_false,if_true]
  simp only [tryConnectToClient_eq,UdpSocket.send,ok,if_true]
  refine ⟨?_,_,_,rfl,rfl,rfl,Message.type_request _ _ _⟩
  rw [PsConnecting.stage_again]
  exact (if_neg elsewhere).trans (if_pos rfl)

theorem scan_wait (other : Endpoint) (failed : Bool) (patient : k.Patient) :
    (c.connect k (e.hearing (if failed then .error [] else .timeout))).1.stage c other = k.stage c other ∧
      (c.connect k (e.hearing (if failed then .error [] else .timeout))).2 = [] := by
  cases progress : k.progress with
  | awaitAck second => simp [Connecting.Patient,progress] at patient
  | returned r =>
    rw [c.connect_returned k _ r progress]
    exact ⟨rfl,rfl⟩
  | receiving attemptsLeft =>
    obtain ⟨n,rfl⟩ : ∃ n, attemptsLeft = n + 2 := by
      simp only [Connecting.Patient,progress] at patient
      exact ⟨attemptsLeft - 2,by omega⟩
    have stays : c.connect k (e.hearing (if failed then .error [] else .timeout)) = (again k (n + 1),[]) := by
      rw [c.connect_receiving k _ _ progress]
      cases failed <;> rfl
    rw [stays]
    simp [PsConnecting.stage,again,Connecting.again,progress]

theorem scan_requests : ∀ x ∈ (c.connect k e).2, x.payload.type = some .psBindRequest → x.dest = c.stunServerAddr2 := by
  have other (m : Message) (id : UInt32) (type : MessageType) (different : type ≠ .psBindRequest) :
      (Payload.ofMessage (m.request type id)).type ≠ some .psBindRequest := by
    rw [Payload.type_ofMessage,Message.type_request]
    exact fun same => different (Option.some.inj same)
  intro x sent typed
  cases progress : k.progress with
  | awaitAck second =>
    cases second with
    | false =>
      rw [c.connect_awaitFirst k e progress] at sent
      split_ifs at sent
      · unfold secondRequest at sent
        generalize (if c.isSymNat then (heard k e.outcome).socket2.init e.helperFd
          else ((heard k e.outcome).socket,true)) = helper at sent
        obtain ⟨helper,ready⟩ := helper
        cases ready with
        | false => exact absurd sent List.not_mem_nil
        | true =>
          rw [mem_send sent]
          rfl
      · exact absurd sent List.not_mem_nil
    | true =>
      rw [c.connect_awaitSecond k e progress] at sent
      exact absurd sent List.not_mem_nil
  | receiving n =>
    rw [c.connect_receiving k n e progress] at sent
    cases how : c.handling k e.outcome with
    | silent | costs | ignored | responded =>
      rw [how] at sent
      exact absurd sent List.not_mem_nil
    | answered =>
      rw [how] at sent
      rw [mem_send sent] at typed
      exact absurd typed (other _ _ _ (by decide))
    | replied =>
      rw [how] at sent
      simp only [handled] at sent
      obtain ⟨_,scans⟩ := c.tryStartPsConnection_scans (heard k e.outcome)
        (heard k e.outcome).message.psBindReply e
      have sent : x ∈ (c.tryStartPsConnection (heard k e.outcome)
          (heard k e.outcome).message.psBindReply e).2.2 := by
        split_ifs at sent
        · exact sent
        · exact sent
      obtain ⟨_,stack,content⟩ := scans x sent
      rw [content] at typed
      exact absurd typed (other _ _ _ (by decide))
  | returned r =>
    rw [c.connect_returned k e r progress] at sent
    exact absurd sent List.not_mem_nil

end Arrivals

end P2pStun
