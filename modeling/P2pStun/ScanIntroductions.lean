import P2pStun.HolePunching
import P2pStun.PsFiling
import P2pStun.ScanNetwork

/-! Whom the scanning clients meet. Every datagram of the network has a history: the
server introduces endpoints that asked for the recipient's id from another IP, a scan aims
at an introduced IP, and a response comes from a client whose call has succeeded. -/
namespace P2pStun.P2pPsConnector
open Runs

variable {fpu : FloatUnit} (c : P2pPsConnector)

def Scans (target : SockaddrIn) (x : Outgoing) : Prop :=
  x.dest = target ∧ ∃ stack : Message,
    x.payload = .ofMessage (stack.request .clientBindRequest c.transactionId)

theorem scans_tried (socket : UdpSocket) (ok : Bool) (stack : Message) :
    ∀ x ∈ (tryConnectToClient c.transactionId socket ok stack).2, c.Scans socket.targetAddress x := by
  intro x sent
  rw [tryConnectToClient_eq] at sent
  rw [mem_send sent]
  exact ⟨rfl,stack,rfl⟩

theorem openScanSockets_scans (addr : SockaddrIn) (basePort : UInt16) (portman : PortManager)
    (calls : List (ScanCall fpu)) :
    (∀ s ∈ (c.openScanSockets addr basePort portman calls).2.1, s.targetAddress = addr) ∧
      ∀ x ∈ (c.openScanSockets addr basePort portman calls).2.2.1, c.Scans addr x := by
  induction calls generalizing portman with
  | nil => exact ⟨nofun,nofun⟩
  | cons call rest ih =>
    cases created : call.fd with
    | none => simp [openScanSockets,created,UdpSocket.init_create_none]
    | some fd =>
      let socket : UdpSocket := ⟨true,.zero,.zero,fd⟩
      obtain ⟨targets,scans⟩ := ih (socket.bindByPortman portman basePort call.draw).1
      simp only [openScanSockets,created,UdpSocket.init_create_some,not_true_eq_false,if_false]
      constructor
      · rw [List.forall_mem_cons]
        exact ⟨rfl,targets⟩
      · intro x member
        rcases List.mem_append.mp member with own | later
        · exact c.scans_tried (socket.setTargetAddress addr) call.sendOk call.stack x own
        · exact scans x later

theorem tryStartPsConnection_scans (k : PsConnecting) (r : PsBindReply) (e : PsStep fpu) :
    let target := {r.addrOne with sinPort := htons (scanTarget fpu r e.timeNow)}
    ((c.tryStartPsConnection k r e).1.socket.targetAddress = k.socket.targetAddress ∨
      (c.tryStartPsConnection k r e).1.socket.targetAddress = target) ∧
    ∀ x ∈ (c.tryStartPsConnection k r e).2.2, c.Scans target x := by
  intro target
  simp only [tryStartPsConnection]
  split
  · exact ⟨Or.inl rfl,fun _ sent => absurd sent List.not_mem_nil⟩
  · split
    · obtain ⟨targets,scans⟩ := c.openScanSockets_scans target k.basePort k.portman (List.ofFn e.scans)
      split
      · exact ⟨Or.inl rfl,scans⟩
      · cases e.select with
        | timeout => exact ⟨Or.inl rfl,scans⟩
        | error => exact ⟨Or.inl rfl,scans⟩
        | ready readable =>
          dsimp only
          split
          · rename_i socket found
            exact ⟨Or.inr (targets socket (List.mem_of_find?_eq_some found)),scans⟩
          · exact ⟨Or.inl rfl,scans⟩
    · have scans := c.scans_tried (k.socket.setTargetAddress target) e.sendOk e.stack
      cases e.select with
      | timeout => exact ⟨Or.inr rfl,scans⟩
      | error => exact ⟨Or.inr rfl,scans⟩
      | ready readable => exact ⟨Or.inr rfl,scans⟩

end P2pStun.P2pPsConnector

namespace P2pStun.ScanDeployment
open Runs

variable {ι : Type} {fpu : FloatUnit}

structure Past (ι : Type) where
  sent : List Packet
  settled : ι → Endpoint → Prop

instance : LE (Past ι) := ⟨fun a b => a.sent ⊆ b.sent ∧ ∀ i e, a.settled i e → b.settled i e⟩

def Past.of (net : ScanNetwork ι) (sent : List Packet) : Past ι where
  sent := sent
  settled i e := ∃ k, net.client i = some k ∧ Succeeded k.toConnecting ∧
    k.socket.targetAddress = e.sockaddr

def Asked (sent : List Packet) (id : UInt32) (e : Endpoint) : Prop :=
  ∃ p ∈ sent, p.src = e ∧ p.payload.type = some .psBindRequest ∧ p.payload.transactionId = some id

variable (d : ScanDeployment ι)

/-- Two endpoints of one IP other than the client's that asked for the client's id. -/
structure Introduced (sent : List Packet) (i : ι) (one two : Endpoint) : Prop where
  together : two.addr = one.addr
  elsewhere : one.addr ≠ d.ip i
  first : Asked sent (d.transactionId i) one
  second : Asked sent (d.transactionId i) two

/-- The IP of two introduced endpoints and the port predicted from theirs. -/
def Aimed (fpu : FloatUnit) (sent : List Packet) (i : ι) (dst : Endpoint) : Prop :=
  ∃ one two t1 t2 now, d.Introduced sent i one two ∧
    dst = ⟨one.addr,htons (determineTargetPort fpu (ntohs one.port) (ntohs two.port) t1 t2 scanRange now)⟩

inductive PacketOk (fpu : FloatUnit) (past : Past ι) : Packet → Prop
  | psBindRequest (src dst : Endpoint) (i : ι) (msg : Message) (from_ : d.owner src = some i)
      (typed : msg.type = some .psBindRequest) (own : ntohl msg.transactionId = d.transactionId i) :
      PacketOk fpu past ⟨src,dst,.ofMessage msg⟩
  | ack (s : ServerSocket) (dst : Endpoint) (msg : Message) (typed : msg.type = some .ack) :
      PacketOk fpu past ⟨d.server s,dst,.ofMessage msg⟩
  | psBindReply (s : ServerSocket) (dst : Endpoint) (i : ι) (msg : Message) (one two : Endpoint)
      (to_ : d.owner dst = some i) (typed : msg.type = some .psBindReply)
      (names : msg.psBindReply.addrOne = one.sockaddr ∧ msg.psBindReply.addrTwo = two.sockaddr)
      (introduced : d.Introduced past.sent i one two) :
      PacketOk fpu past ⟨d.server s,dst,.ofMessage msg⟩
  | clientBindRequest (src dst : Endpoint) (i : ι) (msg : Message) (from_ : d.owner src = some i)
      (typed : msg.type = some .clientBindRequest)
      (own : ntohl msg.transactionId = d.transactionId i) (aimed : d.Aimed fpu past.sent i dst) :
      PacketOk fpu past ⟨src,dst,.ofMessage msg⟩
  | clientBindResponse (src dst : Endpoint) (i j : ι) (msg : Message) (from_ : d.owner src = some i)
      (to_ : d.owner dst = some j) (typed : msg.type = some .clientBindResponse)
      (agree : d.transactionId i = d.transactionId j) (elsewhere : d.ip i ≠ d.ip j)
      (settled : past.settled i dst) :
      PacketOk fpu past ⟨src,dst,.ofMessage msg⟩

/-- The target is an endpoint of another client with the same id and another IP, which has
sent a request to this one or has succeeded with a target that belongs to this one. -/
def Met (past : Past ι) (i : ι) (target : SockaddrIn) : Prop :=
  ∃ j e, d.owner e = some j ∧ target = e.sockaddr ∧ d.transactionId j = d.transactionId i ∧
    d.ip j ≠ d.ip i ∧
    ((∃ p ∈ past.sent, p.src = e ∧ d.owner p.dst = some i ∧
        p.payload.type = some .clientBindRequest ∧
        p.payload.transactionId = some (d.transactionId i)) ∨
      ∃ back, d.owner back = some i ∧ past.settled j back)

structure ClientOk (past : Past ι) (i : ι) (k : PsConnecting) : Prop where
  target : ∃ e : Endpoint, k.socket.targetAddress = e.sockaddr
  unconnected : Unconnected k.toConnecting
  met : Succeeded k.toConnecting → d.Met past i k.socket.targetAddress

variable {d} {past later : Past ι} {i : ι}

theorem Asked.mono {sent sent' : List Packet} {id : UInt32} {e : Endpoint} (grow : sent ⊆ sent')
    (asked : Asked sent id e) : Asked sent' id e := by
  obtain ⟨p,member,rest⟩ := asked
  exact ⟨p,grow member,rest⟩

theorem Introduced.mono {sent sent' : List Packet} {one two : Endpoint} (grow : sent ⊆ sent')
    (introduced : d.Introduced sent i one two) : d.Introduced sent' i one two :=
  ⟨introduced.together,introduced.elsewhere,introduced.first.mono grow,introduced.second.mono grow⟩

theorem Aimed.mono {sent sent' : List Packet} {dst : Endpoint} (grow : sent ⊆ sent')
    (aimed : d.Aimed fpu sent i dst) : d.Aimed fpu sent' i dst := by
  obtain ⟨one,two,t1,t2,now,introduced,same⟩ := aimed
  exact ⟨one,two,t1,t2,now,introduced.mono grow,same⟩

theorem PacketOk.mono {p : Packet} (grow : past ≤ later) (ok : d.PacketOk fpu past p) :
    d.PacketOk fpu later p := by
  cases ok with
  | psBindRequest src dst i msg from_ typed own => exact .psBindRequest src dst i msg from_ typed own
  | ack s dst msg typed => exact .ack s dst msg typed
  | psBindReply s dst i msg one two to_ typed names introduced =>
    exact .psBindReply s dst i msg one two to_ typed names (introduced.mono grow.1)
  | clientBindRequest src dst i msg from_ typed own aimed =>
    exact .clientBindRequest src dst i msg from_ typed own (aimed.mono grow.1)
  | clientBindResponse src dst i j msg from_ to_ typed agree elsewhere settled =>
    exact .clientBindResponse src dst i j msg from_ to_ typed agree elsewhere (grow.2 i dst settled)

theorem Met.mono {target : SockaddrIn} (grow : past ≤ later) (met : d.Met past i target) :
    d.Met later i target := by
  obtain ⟨j,e,owned,same,agree,elsewhere,how⟩ := met
  refine ⟨j,e,owned,same,agree,elsewhere,?_⟩
  rcases how with ⟨p,member,rest⟩ | ⟨back,mine,settled⟩
  · exact Or.inl ⟨p,grow.1 member,rest⟩
  · exact Or.inr ⟨back,mine,grow.2 j back settled⟩

theorem ClientOk.mono {k : PsConnecting} (grow : past ≤ later) (ok : d.ClientOk past i k) :
    d.ClientOk later i k :=
  ⟨ok.target,ok.unconnected,fun good => (ok.met good).mono grow⟩

theorem PacketOk.message {p : Packet} (ok : d.PacketOk fpu past p) :
    ∃ msg, p.payload = .ofMessage msg := by
  cases ok <;> exact ⟨_,rfl⟩

theorem Asked.owner {id : UInt32} {e : Endpoint} (asked : Asked past.sent id e)
    (ok : ∀ p ∈ past.sent, d.PacketOk fpu past p) :
    ∃ i, d.owner e = some i ∧ d.transactionId i = id := by
  obtain ⟨p,member,rfl,typed,own⟩ := asked
  cases ok p member with
  | psBindRequest src dst i msg from_ _ same =>
    rw [Payload.transactionId_ofMessage,same] at own
    exact ⟨i,from_,Option.some.inj own⟩
  | ack s dst msg other | psBindReply s dst i msg one two to_ other
  | clientBindRequest src dst i msg from_ other | clientBindResponse src dst i j msg from_ to_ other =>
    rw [Payload.type_ofMessage,other] at typed
    contradiction

section Client

open P2pPsConnector

theorem clientOk_failed (k : PsConnecting) (r : ConnectResult)
    (target : ∃ e : Endpoint, k.socket.targetAddress = e.sockaddr)
    (ended : k.progress = .returned r) (failed : r ≠ .connectionSuccessful) :
    d.ClientOk past i k := by
  refine ⟨target,?_,?_⟩
  · rintro ⟨n,same⟩
    simp [ended] at same
  · intro good
    rw [Succeeded,ended] at good
    exact absurd (by simpa using good) failed

theorem clientOk_again (k : PsConnecting) (n : Nat)
    (target : ∃ e : Endpoint, k.socket.targetAddress = e.sockaddr)
    (unconnected : k.state ≠ .connected) : d.ClientOk past i (again k n) :=
  ⟨target,again_unconnected _ n unconnected,
    fun good => absurd good (again_succeeded k.toConnecting n unconnected)⟩

theorem clientOk_established (k : PsConnecting) (met : d.Met past i k.socket.targetAddress) :
    d.ClientOk past i (established k) := by
  refine ⟨?_,established_unconnected _,fun _ => met⟩
  obtain ⟨_,e,_,same,_⟩ := met
  exact ⟨e,same⟩

/-- The client is in order after a step, and so is what it sends once the network has
seen it succeed, if it has. -/
structure StepOk (d : ScanDeployment ι) (fpu : FloatUnit) (past : Past ι) (i : ι)
    (next : PsConnecting × List Outgoing) : Prop where
  client : d.ClientOk past i next.1
  sends : ∀ (nat : d.Translation i) (later : Past ι), past ≤ later →
    (∀ e : Endpoint, Succeeded next.1.toConnecting → next.1.socket.targetAddress = e.sockaddr →
      later.settled i e) → ∀ x ∈ next.2, d.PacketOk fpu later (nat.packet x)

theorem stepOk_silent {k : PsConnecting} (ok : d.ClientOk past i k) : d.StepOk fpu past i (k,[]) :=
  ⟨ok,fun _ _ _ _ => nofun⟩

theorem aimed_located {dst : Endpoint} {j : ι} (aimed : d.Aimed fpu past.sent j dst)
    (mine : d.owner dst = some i) : d.ip j ≠ d.ip i := by
  obtain ⟨one,two,t1,t2,now,introduced,same⟩ := aimed
  have here : one.addr = d.ip i := by
    rw [← d.located dst i mine,same]
  rw [← here]
  exact introduced.elsewhere.symm

theorem handled_replied (k : PsConnecting) (n : Nat) (e : PsStep fpu) (one two : Endpoint)
    (target : ∃ e : Endpoint, k.socket.targetAddress = e.sockaddr) (unconnected : k.state ≠ .connected)
    (names : k.message.psBindReply.addrOne = one.sockaddr ∧
      k.message.psBindReply.addrTwo = two.sockaddr)
    (introduced : d.Introduced past.sent i one two) :
    d.StepOk fpu past i ((d.connector i).handled k n e .replied) := by
  obtain ⟨aims,scans⟩ := (d.connector i).tryStartPsConnection_scans k k.message.psBindReply e
  have state := (d.connector i).tryStartPsConnection_state k k.message.psBindReply e
  let aim : Endpoint := ⟨one.addr,htons (scanTarget fpu k.message.psBindReply e.timeNow)⟩
  have goal : ({k.message.psBindReply.addrOne with
      sinPort := htons (scanTarget fpu k.message.psBindReply e.timeNow)} : SockaddrIn) = aim.sockaddr := by
    rw [names.1]
    rfl
  have aimed (later : Past ι) (grow : past ≤ later) : d.Aimed fpu later.sent i aim := by
    let reply := k.message.psBindReply
    refine ⟨one,two,reply.t1,reply.t2,e.timeNow,introduced.mono grow.1,?_⟩
    simp only [aim,reply,scanTarget,names,Endpoint.sockaddr_sinPort]
  rw [goal] at aims scans
  simp only [handled]
  generalize (d.connector i).tryStartPsConnection k k.message.psBindReply e = tried at *
  obtain ⟨after,success,out⟩ := tried
  have pointed : ∃ e : Endpoint, after.socket.targetAddress = e.sockaddr := by
    rcases aims with kept | scanned
    · exact target.imp fun _ same => kept.trans same
    · exact ⟨aim,scanned⟩
  have sends (nat : d.Translation i) (later : Past ι) (grow : past ≤ later) :
      ∀ x ∈ out, d.PacketOk fpu later (nat.packet x) := by
    intro x sent
    obtain ⟨dest,stack,content⟩ := scans x sent
    rw [Translation.packet,dest,content]
    exact .clientBindRequest _ _ i _ (nat.own x) (Message.type_request _ _ _)
      (Message.transactionId_request _ _ _) (aimed later grow)
  split
  · exact ⟨clientOk_again _ _ pointed (state ▸ unconnected),fun nat later grow _ => sends nat later grow⟩
  · exact ⟨clientOk_failed _ .connectionFailed pointed rfl (by decide),fun nat later grow _ => sends nat later grow⟩

inductive Arrives (d : ScanDeployment ι) (fpu : FloatUnit) (past : Past ι) (i : ι) : RecvOutcome → Prop
  | timeout : Arrives d fpu past i .timeout
  | error (written : Payload) : Arrives d fpu past i (.error written)
  | packet (p : Packet) (len : Nat) (fits : len < 2 ^ 31) (ok : d.PacketOk fpu past p) (seen : p ∈ past.sent)
      (mine : d.owner p.dst = some i) (whole : 16 ≤ len) :
      Arrives d fpu past i (.datagram ⟨p.payload,p.src,len,fits⟩)

theorem arrives_recvfrom {p : Packet} (len : Nat) (ok : d.PacketOk fpu past p) (seen : p ∈ past.sent)
    (mine : d.owner p.dst = some i) (whole : 16 ≤ len) :
    Arrives d fpu past i (.of (recvfrom p.payload p.src len)) := by
  by_cases fits : len < 2 ^ 31
  · rw [recvfrom_ok fits]
    exact .packet p len fits ok seen mine whole
  · rw [recvfrom_error fits]
    exact .error p.payload

theorem heard_message (k : PsConnecting) (msg : Message) (src : Endpoint) (len : Nat) (fits : len < 2 ^ 31)
    (whole : 16 ≤ len) :
    heard k (.datagram ⟨.ofMessage msg,src,len,fits⟩) =
      {k with socket := {k.socket with peerAddress := src.sockaddr}, message := msg} := by
  rw [heard,Connecting.heard,Deployment.took_reported]
  exact Deployment.reported_of_whole _ _ whole

theorem handled_answered (k : PsConnecting) (n : Nat) (e : PsStep fpu) (src : Endpoint) (j : ι)
    (peer : k.socket.peerAddress = src.sockaddr) (met : d.Met past i src.sockaddr)
    (from_ : d.owner src = some j) (agree : d.transactionId j = d.transactionId i)
    (elsewhere : d.ip j ≠ d.ip i) :
    d.StepOk fpu past i ((d.connector i).handled k n e .answered) := by
  simp only [handled,peer]
  refine ⟨clientOk_established _ met,?_⟩
  intro nat later _ settles x sent
  rw [mem_send sent]
  exact .clientBindResponse _ _ i j _ (nat.own _) from_ (Message.type_request _ _ _) agree.symm
    elsewhere.symm (settles src rfl rfl)

theorem handled_arrived (k : PsConnecting) (n : Nat) (e : PsStep fpu) (receiving : k.progress = .receiving n)
    (arrives : Arrives d fpu past i e.outcome) (ok : d.ClientOk past i k) :
    d.StepOk fpu past i ((d.connector i).handled (heard k e.outcome) n e
      ((d.connector i).handling k e.outcome)) := by
  have unconnected := ok.unconnected ⟨n,receiving⟩
  have passed (k : PsConnecting) (m : Nat) (target : ∃ e : Endpoint, k.socket.targetAddress = e.sockaddr)
      (unconnected : k.state ≠ .connected) : d.StepOk fpu past i (again k m,[]) :=
    stepOk_silent (clientOk_again k m target unconnected)
  generalize e.outcome = outcome at arrives
  cases arrives with
  | timeout => exact passed k (n - 1) ok.target unconnected
  | error written => exact passed _ (n - 1) ok.target unconnected
  | packet p len fits good seen mine whole =>
    cases good with
    | psBindRequest src dst j msg from_ typed own =>
      rw [heard_message k msg src len fits whole]
      simp only [handling,handlingOf,Payload.type_ofMessage,typed]
      exact passed _ (n - 1) ok.target unconnected
    | ack s dst msg typed =>
      rw [heard_message k msg _ len fits whole]
      simp only [handling,handlingOf,Payload.type_ofMessage,typed]
      exact passed _ n ok.target unconnected
    | psBindReply s dst j msg one two to_ typed names introduced =>
      rw [to_] at mine
      cases mine
      rw [heard_message k msg _ len fits whole]
      simp only [handling,handlingOf,Payload.type_ofMessage,typed,if_true]
      split
      · exact handled_replied _ n e one two ok.target unconnected names introduced
      · exact passed _ n ok.target unconnected
    | clientBindRequest src dst j msg from_ typed own aimed =>
      have read : ntohl (k.took ⟨.ofMessage msg,src,len,fits⟩).message.transactionId = d.transactionId j := by
        rw [← own]
        simp [Connecting.took]
      rw [heard_message k msg src len fits whole]
      simp only [handling,handlingOf,Payload.type_ofMessage,typed,read,reduceCtorEq,if_false]
      split
      · rename_i agree
        have elsewhere := aimed_located aimed mine
        refine handled_answered _ n e src j rfl ?_ from_ agree elsewhere
        refine ⟨j,src,from_,rfl,agree,elsewhere,Or.inl ⟨_,seen,rfl,mine,by simpa using typed,?_⟩⟩
        rw [Payload.transactionId_ofMessage,own]
        exact congrArg some agree
      · exact passed _ (n - 1) ok.target unconnected
    | clientBindResponse src dst j l msg from_ to_ typed agree elsewhere settled =>
      rw [to_] at mine
      cases mine
      have peer : (k.took ⟨.ofMessage msg,src,len,fits⟩).socket.peerAddress = src.sockaddr :=
        Deployment.reported_of_whole _ _ whole
      rw [heard_message k msg src len fits whole]
      simp only [handling,handlingOf,Payload.type_ofMessage,typed,peer,reduceCtorEq,if_false]
      split
      · rename_i host
        obtain ⟨aim,same⟩ := ok.target
        rw [same,Deployment.sameHost_iff] at host
        refine stepOk_silent (clientOk_established _ ?_)
        exact ⟨j,src,from_,host ▸ same,agree,elsewhere,Or.inr ⟨dst,to_,settled⟩⟩
      · exact passed _ n ok.target unconnected

theorem secondRequest_ok (k : PsConnecting) (e : PsStep fpu)
    (target : ∃ e : Endpoint, k.socket.targetAddress = e.sockaddr) :
    d.StepOk fpu past i ((d.connector i).secondRequest k e) := by
  let c := d.connector i
  have aimed : ∃ aim : Endpoint, (c.secondRequest k e).1.socket.targetAddress = aim.sockaddr := by
    unfold secondRequest
    cases symmetric : c.isSymNat with
    | false =>
      simp only [symmetric,setHelperSocket,Bool.false_eq_true,if_false,not_true_eq_false]
      exact ⟨c.stunServerAddress2.endpoint,rfl⟩
    | true =>
      simp only [symmetric,setHelperSocket,if_true]
      split <;> exact target
  have asks : ∀ x ∈ (c.secondRequest k e).2, ∃ msg : Message,
      x.payload = .ofMessage (msg.request .psBindRequest c.transactionId) := by
    unfold secondRequest
    intro x
    generalize (if c.isSymNat then k.socket2.init e.helperFd else (k.socket,true)) = helper
    obtain ⟨helper,ready⟩ := helper
    cases ready with
    | false => exact nofun
    | true =>
      intro sent
      rw [mem_send sent]
      exact ⟨k.message,rfl⟩
  refine ⟨?_,?_⟩
  · rcases c.secondRequest_waits k e with waits | failed
    · refine ⟨aimed,?_,?_⟩
      · rintro ⟨n,same⟩
        exact absurd (waits.symm.trans same) nofun
      · intro good
        exact absurd (waits.symm.trans good) nofun
    · exact clientOk_failed _ _ aimed failed nofun
  · intro nat later _ _ x sent
    obtain ⟨msg,content⟩ := asks x sent
    rw [Translation.packet,content]
    exact .psBindRequest _ _ i _ (nat.own x) (Message.type_request _ _ _)
      (Message.transactionId_request _ _ _)

theorem waitReceive_targetAddress (s : UdpSocket) (o : RecvOutcome) :
    (s.waitReceive 56 o).1.targetAddress = s.targetAddress := by
  cases o <;> rfl

theorem connect_ok (k : PsConnecting) (e : PsStep fpu) (arrives : Arrives d fpu past i e.outcome)
    (ok : d.ClientOk past i k) : d.StepOk fpu past i ((d.connector i).connect k e) := by
  cases progress : k.progress with
  | awaitAck second =>
    cases second with
    | false =>
      have target : ∃ aim : Endpoint, (heard k e.outcome).socket.targetAddress = aim.sockaddr := by
        rw [show (heard k e.outcome).socket.targetAddress = k.socket.targetAddress by
          cases e.outcome <;> rfl]
        exact ok.target
      rw [connect_awaitFirst _ k e progress]
      split
      · exact secondRequest_ok _ e target
      · exact stepOk_silent (clientOk_failed _ .connectionError target rfl nofun)
    | true =>
      have target : ∃ aim : Endpoint,
          ((d.connector i).heardByHelper k e.outcome).socket.targetAddress = aim.sockaddr := by
        have same : ((d.connector i).heardByHelper k e.outcome).socket.targetAddress =
            k.socket.targetAddress := by
          unfold heardByHelper setHelperSocket helperSocket
          split
          · rfl
          · exact waitReceive_targetAddress _ _
        exact same ▸ ok.target
      rw [connect_awaitSecond _ k e progress]
      split
      · exact stepOk_silent ⟨target,fun _ => nofun,nofun⟩
      · exact stepOk_silent (clientOk_failed _ .connectionError target rfl nofun)
  | receiving n =>
    rw [connect_receiving _ k n e progress]
    exact handled_arrived k n e progress arrives ok
  | returned r =>
    rw [connect_returned _ k e r progress]
    exact stepOk_silent ok

theorem start_ok (socket : UdpSocket) (portman : PortManager) (draw : Draw fpu) (sendOk : Bool) :
    d.StepOk fpu past i ((d.connector i).start socket portman draw sendOk) := by
  constructor
  · cases sendOk with
    | true => exact ⟨⟨(d.connector i).stunServerAddress1.endpoint,rfl⟩,fun _ => nofun,nofun⟩
    | false =>
      exact clientOk_failed _ .connectionError ⟨(d.connector i).stunServerAddress1.endpoint,rfl⟩ rfl nofun
  · intro nat later _ _ x sent
    rw [mem_send sent]
    exact .psBindRequest _ _ i _ (nat.own _) (Message.type_request _ _ _)
      (Message.transactionId_request _ _ _)

end Client

section Server

open UdpServer

/-- Every endpoint of a record asked for its id, and the two clients are told apart by
their IPs. -/
structure RecordOk (sent : List Packet) (id : UInt32) (t : PsTransaction) : Prop where
  cl1Sk1 : ∃ e : Endpoint, t.cl1Sk1 = e.sockaddr ∧ Asked sent id e
  cl1Sk2 : t.cl1Sk2.sinAddr ≠ 0 → ∃ e : Endpoint, t.cl1Sk2 = e.sockaddr ∧ Asked sent id e ∧
    e.addr = t.cl1Sk1.sinAddr
  cl2Sk1 : t.cl2Sk1.sinAddr ≠ 0 → ∃ e : Endpoint, t.cl2Sk1 = e.sockaddr ∧ Asked sent id e ∧
    e.addr ≠ t.cl1Sk1.sinAddr
  cl2Sk2 : t.cl2Sk2.sinAddr ≠ 0 → t.cl2Sk1.sinAddr ≠ 0 ∧ ∃ e : Endpoint, t.cl2Sk2 = e.sockaddr ∧
    Asked sent id e ∧ e.addr = t.cl2Sk1.sinAddr

theorem RecordOk.mono {sent sent' : List Packet} {id : UInt32} {t : PsTransaction}
    (grow : sent ⊆ sent') (ok : RecordOk sent id t) : RecordOk sent' id t where
  cl1Sk1 := ok.cl1Sk1.imp fun _ rest => ⟨rest.1,rest.2.mono grow⟩
  cl1Sk2 set_ := (ok.cl1Sk2 set_).imp fun _ rest => ⟨rest.1,rest.2.1.mono grow,rest.2.2⟩
  cl2Sk1 set_ := (ok.cl2Sk1 set_).imp fun _ rest => ⟨rest.1,rest.2.1.mono grow,rest.2.2⟩
  cl2Sk2 set_ := ⟨(ok.cl2Sk2 set_).1,(ok.cl2Sk2 set_).2.imp fun _ rest => ⟨rest.1,rest.2.1.mono grow,rest.2.2⟩⟩

theorem recordOk_create {sent : List Packet} {req : PsRequest} (time : UInt64)
    (asked : Asked sent req.transactionId req.source) :
    RecordOk sent req.transactionId (.create req.source.sockaddr time) where
  cl1Sk1 := ⟨req.source,rfl,asked⟩
  cl1Sk2 set_ := absurd rfl set_
  cl2Sk1 set_ := absurd rfl set_
  cl2Sk2 set_ := absurd rfl set_

theorem recordOk_add {sent : List Packet} {req : PsRequest} {t : PsTransaction}
    (ok : RecordOk sent req.transactionId t) (asked : Asked sent req.transactionId req.source) :
    RecordOk sent req.transactionId (t.add req) := by
  cases slot : t.slot req.source.addr with
  | cl1Port2 =>
    rw [PsTransaction.add_cl1Port2 slot]
    have own := (t.slot_cl1Port2 _).mp slot
    exact ⟨ok.cl1Sk1,fun _ => ⟨req.source,rfl,asked,own.symm⟩,ok.cl2Sk1,ok.cl2Sk2⟩
  | cl2Port1 =>
    rw [PsTransaction.add_cl2Port1 slot]
    obtain ⟨other,empty⟩ := (t.slot_cl2Port1 _).mp slot
    refine ⟨ok.cl1Sk1,ok.cl1Sk2,fun _ => ⟨req.source,rfl,asked,other.symm⟩,?_⟩
    intro set_
    exact absurd empty (ok.cl2Sk2 set_).1
  | cl2Port2 =>
    rw [PsTransaction.add_cl2Port2 slot]
    obtain ⟨_,present,own⟩ := (t.slot_cl2Port2 _).mp slot
    exact ⟨ok.cl1Sk1,ok.cl1Sk2,ok.cl2Sk1,fun _ => ⟨present,req.source,rfl,asked,own.symm⟩⟩
  | third =>
    rw [PsTransaction.add_third slot]
    exact ok

theorem replies_ok {id : UInt32} {t : PsTransaction} (ok : RecordOk past.sent id t)
    (both : t.complete) (known : ∀ p ∈ past.sent, d.PacketOk fpu past p) :
    ∀ x ∈ replies t, d.PacketOk fpu past
      ⟨d.server x.socket,x.dest.endpoint,.ofMessage x.message⟩ := by
  obtain ⟨one,sk1,asked1⟩ := ok.cl1Sk1
  obtain ⟨two,sk2,asked2,near⟩ := ok.cl1Sk2 both.2
  obtain ⟨present,two',sk2',asked2',near'⟩ := ok.cl2Sk2 both.1
  obtain ⟨one',sk1',asked1',far⟩ := ok.cl2Sk1 present
  obtain ⟨i,mine,same⟩ := asked1.owner known
  obtain ⟨j,mine',same'⟩ := asked1'.owner known
  rw [sk1,Endpoint.sockaddr_sinAddr] at near far
  rw [sk1',Endpoint.sockaddr_sinAddr] at near'
  intro x member
  simp only [replies,List.mem_cons,List.not_mem_nil,or_false] at member
  rcases member with rfl | rfl
  · rw [sk1,Endpoint.sockaddr_endpoint]
    refine .psBindReply .first one i _ one' two' mine (replyMessage_type _) ?_ ?_
    · rw [replyMessage_psBindReply]
      exact ⟨sk1',sk2'⟩
    · refine ⟨near',?_,same ▸ asked1',same ▸ asked2'⟩
      rw [← d.located one i mine]
      exact far
  · rw [sk1',Endpoint.sockaddr_endpoint]
    refine .psBindReply .first one' j _ one two mine' (replyMessage_type _) ?_ ?_
    · rw [replyMessage_psBindReply]
      exact ⟨sk1,sk2⟩
    · refine ⟨near,?_,same' ▸ asked1,same' ▸ asked2⟩
      rw [← d.located one' j mine']
      exact far.symm

theorem psHandle_answers (map : PsMap) (req : PsRequest) :
    (psHandle map req).2 = [ack req] ∨ ∃ t, live map req = some t ∧ matched t req ∧
      (psHandle map req).2 = ack req :: replies (t.add req) := by
  cases alive : live map req with
  | none => exact Or.inl (by rw [psHandle_opened alive])
  | some t =>
    by_cases done : matched t req
    · exact Or.inr ⟨t,rfl,done,by rw [psHandle_matched alive done]⟩
    · exact Or.inl (by rw [psHandle_kept alive done])

end Server

section Network

/-- Everything sent so far is in order, and so are the clients and the records. -/
structure Consistent (d : ScanDeployment ι) (fpu : FloatUnit) (net : ScanNetwork ι)
    (sent : List Packet) : Prop where
  clients : ∀ i k, net.client i = some k → d.ClientOk (.of net sent) i k
  packets : ∀ p ∈ sent, d.PacketOk fpu (.of net sent) p
  flight : net.flight ⊆ sent
  records : ∀ id t, net.server.psTransactionClientMap id = some t → RecordOk sent id t

variable {net : ScanNetwork ι} {sent : List Packet}

theorem consistent_start : Consistent d fpu .start [] where
  clients i k present := absurd present (by simp [ScanNetwork.start])
  packets p member := absurd member List.not_mem_nil
  flight := List.nil_subset _
  records id t found := absurd found (by simp [ScanNetwork.start,UdpServer.init])

theorem consistent_erase (position : Nat) (before : Consistent d fpu net sent) :
    Consistent d fpu {net with flight := net.flight.eraseIdx position} sent :=
  ⟨before.clients,before.packets,fun _ member => before.flight (List.mem_of_mem_eraseIdx member),
    before.records⟩

theorem serverStep_past (r : Received) :
    Past.of net sent ≤ Past.of (d.serverStep net r).1 (sent ++ (d.serverStep net r).2) :=
  ⟨List.subset_append_left _ _,fun _ _ good => good⟩

theorem consistent_answers (r : Received)
    (answers : ∀ x ∈ (UdpServer.handle net.server r).2, d.PacketOk fpu (.of net sent)
      ⟨d.server x.socket,x.dest.endpoint,.ofMessage x.message⟩)
    (records : ∀ id t, (UdpServer.handle net.server r).1.psTransactionClientMap id = some t →
      RecordOk sent id t) (before : Consistent d fpu net sent) :
    Consistent d fpu (d.serverStep net r).1 (sent ++ (d.serverStep net r).2) := by
  have grow : Past.of net sent ≤ _ := serverStep_past (d := d) r
  refine ⟨?_,?_,?_,?_⟩
  · exact fun i k present => (before.clients i k present).mono grow
  · intro p member
    rcases List.mem_append.mp member with old | new
    · exact (before.packets p old).mono grow
    · obtain ⟨x,out,rfl⟩ := List.mem_map.mp new
      exact (answers x out).mono grow
  · intro p member
    rcases List.mem_append.mp member with old | new
    · exact List.mem_append_left _ (before.flight old)
    · exact List.mem_append_right _ new
  · exact fun id t found => (records id t found).mono grow.1

theorem consistent_request (r : FullDatagram .psBindRequest) (asked : Asked sent r.transactionId r.source)
    (before : Consistent d fpu net sent) :
    Consistent d fpu (d.serverStep net r.toReceived).1 (sent ++ (d.serverStep net r.toReceived).2) := by
  obtain ⟨map,answers⟩ := UdpServer.handle_psBindRequest net.server r
  have kept (t : PsTransaction) (alive : UdpServer.live net.server.psTransactionClientMap r.psRequest = some t) :
      RecordOk sent r.transactionId (t.add r.psRequest) :=
    recordOk_add (before.records _ t (UdpServer.live_stored alive)) asked
  have ack : d.PacketOk fpu (.of net sent)
      ⟨d.server r.socket,r.source.sockaddr.endpoint,.ofMessage UdpServer.ackMessage⟩ :=
    .ack r.socket _ _ (by simp [UdpServer.ackMessage])
  apply consistent_answers r.toReceived _ _ before
  · rw [answers]
    intro x member
    rcases psHandle_answers net.server.psTransactionClientMap r.psRequest with only | ⟨t,alive,done,all⟩
    · rw [only] at member
      rw [List.mem_singleton.mp member]
      exact ack
    · rw [all] at member
      rcases List.mem_cons.mp member with rfl | reply
      · exact ack
      · exact replies_ok (kept t alive) done.2 before.packets x reply
  · rw [map]
    apply UdpServer.psHandle_records (fun id t _ => before.records id t)
    · exact fun _ => recordOk_create _ asked
    · exact fun t alive _ => kept t alive

theorem handle_idle (s : UdpServer) (r : Received) (msg : Message) (content : r.payload = .ofMessage msg)
    (other : msg.type ≠ some .psBindRequest ∧ msg.type ≠ some .bindRequest ∧ msg.type ≠ some .heartbeat) :
    UdpServer.handle s r = ({s with msg := s.buffer r},[]) := by
  apply UdpServer.handle_quiet
  rw [UdpServer.buffer,content,Message.received_ofMessage]
  exact other

theorem consistent_idle (r : Received) (msg : Message) (content : r.payload = .ofMessage msg)
    (other : msg.type ≠ some .psBindRequest ∧ msg.type ≠ some .bindRequest ∧ msg.type ≠ some .heartbeat)
    (before : Consistent d fpu net sent) :
    Consistent d fpu (d.serverStep net r).1 (sent ++ (d.serverStep net r).2) := by
  have quiet := handle_idle net.server r msg content other
  apply consistent_answers r _ _ before
  · rw [quiet]
    exact fun _ sent => absurd sent List.not_mem_nil
  · rw [quiet]
    exact before.records

theorem consistent_server (s : ServerSocket) (p : Packet) (flown : p ∈ sent) (clock1 clock2 : UInt64)
    (fresh : Option Message) (before : Consistent d fpu net sent) :
    let r : Received := ⟨s,p.payload,p.src,clock1,clock2,fresh⟩
    Consistent d fpu (d.serverStep net r).1 (sent ++ (d.serverStep net r).2) := by
  intro r
  cases before.packets p flown with
  | psBindRequest src dst i msg from_ typed own =>
    let request : FullDatagram .psBindRequest :=
      ⟨r,by simp [r,Payload.ofMessage],by simpa [r] using typed⟩
    exact consistent_request request ⟨_,flown,rfl,by simpa using typed,request.payload_transactionId⟩ before
  | ack s dst msg typed => exact consistent_idle r msg rfl (by simp [typed]) before
  | psBindReply s dst i msg one two to_ typed => exact consistent_idle r msg rfl (by simp [typed]) before
  | clientBindRequest src dst i msg from_ typed =>
    exact consistent_idle r msg rfl (by simp [typed]) before
  | clientBindResponse src dst i j msg from_ to_ typed =>
    exact consistent_idle r msg rfl (by simp [typed]) before

variable [DecidableEq ι]

theorem past_setClient (i : ι) (nat : d.Translation i) (next : PsConnecting × List Outgoing)
    (kept : ∀ k, net.client i = some k → Succeeded k.toConnecting → next.1 = k) :
    Past.of net sent ≤ Past.of (setClient net i nat next).1 (sent ++ (setClient net i nat next).2) := by
  refine ⟨List.subset_append_left _ _,?_⟩
  rintro j e ⟨k,present,good,target⟩
  by_cases same : j = i
  · subst j
    exact ⟨next.1,by simp [setClient],kept k present good ▸ good,kept k present good ▸ target⟩
  · exact ⟨k,by simp [setClient,same,present],good,target⟩

theorem consistent_setClient (nat : d.Translation i) (next : PsConnecting × List Outgoing)
    (ok : d.StepOk fpu (.of net sent) i next)
    (kept : ∀ k, net.client i = some k → Succeeded k.toConnecting → next.1 = k)
    (before : Consistent d fpu net sent) :
    Consistent d fpu (setClient net i nat next).1 (sent ++ (setClient net i nat next).2) := by
  have grow : Past.of net sent ≤
      Past.of (setClient net i nat next).1 (sent ++ (setClient net i nat next).2) :=
    past_setClient i nat next kept
  refine ⟨?_,?_,?_,?_⟩
  · intro j k present
    simp only [setClient,Function.update_apply] at present
    split_ifs at present with same
    · cases present
      subst j
      exact ok.client.mono grow
    · exact (before.clients j k present).mono grow
  · intro p member
    rcases List.mem_append.mp member with old | new
    · exact (before.packets p old).mono grow
    · obtain ⟨x,out,rfl⟩ := List.mem_map.mp new
      refine ok.sends nat _ grow ?_ x out
      intro e good target
      exact ⟨next.1,by simp [setClient],good,target⟩
  · intro p member
    rcases List.mem_append.mp member with old | new
    · exact List.mem_append_left _ (before.flight old)
    · exact List.mem_append_right _ new
  · exact fun id t found => (before.records id t found).mono grow.1

theorem consistent_client (nat : d.Translation i) (e : PsStep fpu)
    (arrives : Arrives d fpu (.of net sent) i e.outcome) (before : Consistent d fpu net sent) :
    Consistent d fpu (d.clientStep net i nat e).1 (sent ++ (d.clientStep net i nat e).2) := by
  unfold clientStep
  cases present : net.client i with
  | none =>
    rw [List.append_nil]
    exact before
  | some k =>
    refine consistent_setClient nat _ (connect_ok k e arrives (before.clients i k present)) ?_ before
    intro l same good
    rw [present] at same
    cases same
    rw [P2pPsConnector.connect_returned _ k e .connectionSuccessful good]

def WholeAddress : d.Event fpu → Prop
  | .deliver _ _ len _ _ => 16 ≤ len
  | _ => True

theorem consistent_step (e : d.Event fpu) (whole : WholeAddress e) (before : Consistent d fpu net sent) :
    Consistent d fpu (d.step net e).1 (sent ++ (d.step net e).2) := by
  have same : Consistent d fpu net (sent ++ []) := by rwa [List.append_nil]
  cases e with
  | call i socket portman draw sendOk nat =>
    simp only [step]
    cases absent : net.client i with
    | none => exact consistent_setClient nat _ (start_ok socket portman draw sendOk) (by simp [absent]) before
    | some k => exact same
  | wait i failed e nat =>
    apply consistent_client nat _ _ before
    cases failed with
    | true => exact .error []
    | false => exact .timeout
  | deliver i position len e nat =>
    simp only [step]
    cases found : net.flight[position]? with
    | none => exact same
    | some p =>
      by_cases mine : d.owner p.dst = some i
      · have flown := before.flight (List.mem_of_getElem? found)
        simp only [mine,if_true]
        exact consistent_client nat _ (arrives_recvfrom len (before.packets p flown) flown mine whole)
          (consistent_erase position before)
      · simp only [mine,if_false]
        exact same
  | serve s position clock1 clock2 fresh =>
    simp only [step]
    cases found : net.flight[position]? with
    | none => exact same
    | some p =>
      by_cases mine : p.dst = d.server s
      · have flown := before.flight (List.mem_of_getElem? found)
        simp only [mine,if_true]
        exact consistent_server s p flown clock1 clock2 fresh (consistent_erase position before)
      · simp only [mine,if_false]
        exact same
  | lose position =>
    simp only [step,List.append_nil]
    exact consistent_erase position before

theorem consistent_run (events : List (d.Event fpu)) (whole : ∀ e ∈ events, WholeAddress e) :
    Consistent d fpu (run d.step .start events) (outputs d.step .start events) := by
  have keep (past : List (d.Event fpu)) (e : d.Event fpu)
      (before : Consistent d fpu (run d.step .start past) (outputs d.step .start past))
      (reported : WholeAddress e) :
      Consistent d fpu (d.step (run d.step .start past) e).1 (outputs d.step .start (past ++ [e])) := by
    rw [outputs_append,outputs_cons,outputs_nil,List.append_nil]
    exact consistent_step e reported before
  have all : Along d.step (fun _ e => WholeAddress e) .start events := by
    rw [along_iff]
    rintro before e after rfl
    exact whole e (by simp)
  exact history_along (fun past net => Consistent d fpu net (outputs d.step .start past))
    consistent_start keep all

/-- Every scan goes to the IP of another client with the scanning client's id, at the port
predicted from two endpoints that asked for the id from that IP. -/
theorem scans_aimed (d : ScanDeployment ι) (events : List (d.Event fpu))
    (whole : ∀ e ∈ events, WholeAddress e) (i : ι) (p : Packet)
    (sent : p ∈ outputs d.step .start events) (own : d.owner p.src = some i)
    (typed : p.payload.type = some .clientBindRequest) :
    d.Aimed fpu (outputs d.step .start events) i p.dst ∧
      ∃ j, j ≠ i ∧ d.transactionId j = d.transactionId i ∧ p.dst.addr = d.ip j := by
  have consistent := consistent_run events whole
  have other (msg : Message) (t : MessageType) (found : msg.type = some t)
      (apart : t ≠ .clientBindRequest) : (Payload.ofMessage msg).type ≠ some .clientBindRequest := by
    rw [Payload.type_ofMessage,found]
    exact fun same => apart (Option.some.inj same)
  cases consistent.packets p sent with
  | clientBindRequest src dst l msg from_ found same aimed =>
    rw [from_] at own
    cases own
    refine ⟨aimed,?_⟩
    obtain ⟨one,two,t1,t2,now,introduced,goal⟩ := aimed
    obtain ⟨j,mine,agree⟩ := introduced.first.owner consistent.packets
    have here := d.located one j mine
    refine ⟨j,?_,agree,by rw [goal,here]⟩
    rintro rfl
    exact introduced.elsewhere here
  | psBindRequest src dst i msg from_ found => exact absurd typed (other msg _ found nofun)
  | ack s dst msg found => exact absurd typed (other msg _ found nofun)
  | psBindReply s dst i msg one two to_ found => exact absurd typed (other msg _ found nofun)
  | clientBindResponse src dst i j msg from_ to_ found => exact absurd typed (other msg _ found nofun)

end Network

section Examples

def twoScanners : ScanDeployment Bool where
  owner e := if e.addr = 2 then some false else if e.addr = 3 then some true else none
  ip i := if i then 3 else 2
  server s := if s = .first then (Address.mk 1 10).endpoint else (Address.mk 1 11).endpoint
  connector _ := ⟨⟨1,10⟩,⟨1,11⟩,7,false⟩
  located := by
    intro e i
    cases i <;> grind
  apart s := by cases s <;> decide

def untranslated (i : Bool) : twoScanners.Translation i where
  outside _ := if i then ⟨3,30⟩ else ⟨2,20⟩
  own _ := by cases i <;> rfl

def joins (i : Bool) : twoScanners.Event .exact :=
  .call i .create .plain .plain true (untranslated i)

def serves (s : ServerSocket) (time : UInt64) : twoScanners.Event .exact := .serve s 0 time time none

def takes (i : Bool) (position : Nat) : twoScanners.Event .exact :=
  .deliver i position 16 (readably quiet) (untranslated i)

/-- Both exchanges of one client, then both of the other, then the scans; the request of
the first client is answered. -/
def meeting : List (twoScanners.Event .exact) :=
  [joins false,serves .first 0,takes false 0,serves .second 1,takes false 0,
    joins true,serves .first 2,takes true 0,serves .second 3,takes true 0,
    takes false 0,takes true 0,takes true 0,takes false 1]

theorem meeting_whole : ∀ e ∈ meeting, WholeAddress e := by
  intro e member
  simp only [meeting,joins,serves,takes,List.mem_cons,List.not_mem_nil,or_false] at member
  rcases member with rfl | rfl | rfl | rfl | rfl | rfl | rfl | rfl | rfl | rfl | rfl | rfl | rfl | rfl <;>
    simp [WholeAddress]

theorem meeting_aimed : ∃ p ∈ outputs twoScanners.step .start meeting, p.dst = ⟨3,30⟩ ∧
    twoScanners.Aimed .exact (outputs twoScanners.step .start meeting) false p.dst := by
  have scanned : ((outputs twoScanners.step .start meeting).any fun p =>
      twoScanners.owner p.src == some false && p.payload.type == some .clientBindRequest &&
        p.dst == ⟨3,30⟩) = true := by decide +kernel
  obtain ⟨p,sent,is⟩ := List.any_eq_true.mp scanned
  simp only [Bool.and_eq_true,beq_iff_eq] at is
  exact ⟨p,sent,is.2,(scans_aimed twoScanners meeting meeting_whole false p sent is.1.1 is.1.2).1⟩

end Examples

end P2pStun.ScanDeployment
