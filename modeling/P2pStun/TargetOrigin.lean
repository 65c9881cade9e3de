import P2pStun.ReceiveLoop

/-! Where the target address of a call comes from: the server at first, then the last reply
that was acted upon, and at a successful end the sender of the last datagram. -/
namespace P2pStun
open Runs ByteLayout

/-- A datagram is a whole `message_t`, and its sender's whole address is reported. -/
def FullLength (e : ReceiveStep) : Prop :=
  ∀ d, e.outcome = .datagram d → 56 ≤ d.payload.length ∧ 16 ≤ d.len

theorem Message.bindReply_received (m : Message) (p : Payload) (long : 24 ≤ p.length) :
    (m.received p).bindReply = (Message.zero.received p).bindReply := by
  rw [bindReply,bindReply,received,received,slice_overwrite m Message.zero p 8 16 (by decide) (by omega)]

theorem Payload.transactionId_received (m : Message) (p : Payload) (long : 12 ≤ p.length) :
    p.transactionId = some (ntohl (m.received p).transactionId) := by
  have own : p.transactionId = some (ntohl (Message.zero.received p).transactionId) := by
    rw [transactionId,if_pos long]
    rfl
  rw [own,Message.transactionId_received m p _ own]

theorem took_peerAddress (k : Connecting) (d : Incoming) (whole : 16 ≤ d.len) :
    (k.took d).socket.peerAddress = d.source.sockaddr :=
  partly_full _ _ _ _ whole

theorem heard_targetAddress (k : Connecting) (o : RecvOutcome) :
    (k.heard o).socket.targetAddress = k.socket.targetAddress := by
  cases o <;> rfl

section Ending

variable {S E : Type} (m : Machine S E Outgoing) (view : S → Connecting) (round : E → ReceiveStep)

/-- The call ends with a datagram received on the socket it leaves, whose target is the
sender: a request that carries the id or a response. -/
def EndsAtSource (id : UInt32) (s : S) (events : List E) : Prop :=
  ∃ before e d, events = before ++ [e] ∧ (round e).outcome = .datagram d ∧
    (view (run m s events)).socket.socketHandle = (view (run m s before)).socket.socketHandle ∧
    (view (run m s events)).socket.targetAddress.endpoint = d.source ∧
    ((d.payload.type = some .clientBindRequest ∧ d.payload.transactionId = some id) ∨
      d.payload.type = some .clientBindResponse)

def LeavesPeer (k next : Connecting) (e : ReceiveStep) : Prop :=
  next.socket.socketHandle = k.socket.socketHandle ∧
    ∀ d, e.outcome = .datagram d → SameHost (k.took d).socket.peerAddress next.socket.targetAddress

variable {m view round}

theorem endsAtSource_of_returns (id : UInt32)
    (answers : ∀ s e, Unconnected (view s) →
      Answers (Succeeded (view s) ∨ Accepting id (view s) (round e)) (view (m s e).1))
    (leaves : ∀ s e, Accepting id (view s) (round e) →
      LeavesPeer (view s) (view (m s e).1) (round e))
    (s : S) (start : Unconnected (view s)) (running : ¬Succeeded (view s)) (events : List E)
    (whole : ∀ e ∈ events, FullLength (round e))
    (returns : Returns m view s events .connectionSuccessful) :
    EndsAtSource m view round id s events := by
  have unconnected (past : List E) : Unconnected (view (run m s past)) :=
    history_invariant (fun _ s => Unconnected (view s)) start
      (fun past e before => (answers (run m s past) e before).1) past
  obtain ⟨ends,first⟩ := returns
  rcases List.eq_nil_or_concat' events with rfl | ⟨before,e,rfl⟩
  · exact absurd ends running
  · have succeeded : Succeeded (view (m (run m s before) e).1) := by
      rw [← run_concat]
      exact ends
    rcases (answers _ e (unconnected before)).2.mp succeeded with already | accepting
    · exact absurd already (first before e _ rfl)
    · obtain ⟨same,peer⟩ := leaves _ e accepting
      obtain ⟨_,d,found,accepts⟩ := accepting
      obtain ⟨long,reported⟩ := whole e (by simp) d found
      refine ⟨before,e,d,rfl,found,?_,?_,?_⟩
      · rw [run_concat]
        exact same
      · rw [run_concat]
        have host := peer d found
        rw [took_peerAddress _ _ reported] at host
        rw [SockaddrIn.endpoint,← host.1,← host.2]
        rfl
      · rcases accepts with ⟨typed,carries⟩ | ⟨typed,_⟩
        · refine Or.inl ⟨typed,?_⟩
          rw [Payload.transactionId_received (view (run m s before)).message _ (by omega)]
          exact congrArg some carries
        · exact Or.inr typed

end Ending

theorem handlingOf_accepting {reply : MessageType} {known : SockaddrIn → Prop} [DecidablePred known]
    {id : UInt32} {k : Connecting} {e : ReceiveStep} (request : reply ≠ .clientBindRequest)
    (response : reply ≠ .clientBindResponse) (accepting : Accepting id k e) :
    handlingOf reply known id k e.outcome = .answered ∨
      (handlingOf reply known id k e.outcome = .responded ∧ ∀ d, e.outcome = .datagram d →
        SameHost (k.took d).socket.peerAddress k.socket.targetAddress) := by
  obtain ⟨_,d,found,⟨typed,same⟩ | ⟨typed,host⟩⟩ := accepting
  · left
    simp [found,handlingOf,typed,request.symm,same]
  · right
    refine ⟨by simp [found,handlingOf,typed,response.symm,host],?_⟩
    rw [found]
    rintro _ ⟨⟩
    exact host

namespace P2pConnector

variable (c : P2pConnector)

theorem connect_leavesPeer (k : Connecting) (e : ReceiveStep)
    (accepting : Accepting c.transactionId k e) : LeavesPeer k (c.connect k e).1 e := by
  obtain ⟨n,receiving⟩ := accepting.1
  have cases : c.handling k e.outcome = .answered ∨ (c.handling k e.outcome = .responded ∧
      ∀ d, e.outcome = .datagram d → SameHost (k.took d).socket.peerAddress k.socket.targetAddress) :=
    handlingOf_accepting (by decide) (by decide) accepting
  obtain ⟨_,d,found,_⟩ := accepting
  rw [c.connect_receiving k n e receiving]
  rcases cases with answered | ⟨responded,host⟩
  · rw [answered]
    refine ⟨by rw [found]; rfl,?_⟩
    rw [found]
    rintro _ ⟨⟩
    exact ⟨rfl,rfl⟩
  · rw [responded]
    exact ⟨by rw [found]; rfl,fun d' found' => by rw [found']; exact host d' found'⟩

def acceptedReply (e : ReceiveStep) : Option SockaddrIn :=
  match e.outcome with
  | .datagram d =>
    if d.payload.type = some .bindReply ∧ d.source = c.stunServerAddress.endpoint then
      some (Message.zero.received d.payload).bindReply
    else none
  | _ => none

/-- The address of the last reply of the server, or the server's own. -/
def origin (heard : List ReceiveStep) : SockaddrIn :=
  (heard.filterMap c.acceptedReply).getLast?.getD c.stunServerAddr

theorem origin_concat (heard : List ReceiveStep) (e : ReceiveStep) :
    c.origin (heard ++ [e]) = (c.acceptedReply e).getD (c.origin heard) := by
  cases accepted : c.acceptedReply e <;> simp [origin,accepted]

theorem handling_replied (k : Connecting) (e : ReceiveStep) (whole : FullLength e) :
    (c.handling k e.outcome = .replied ∧ c.acceptedReply e = some (k.heard e.outcome).message.bindReply) ∨
      (c.handling k e.outcome ≠ .replied ∧ c.acceptedReply e = none) := by
  cases found : e.outcome with
  | timeout => exact Or.inr ⟨by simp [handling,handlingOf],by simp [acceptedReply,found]⟩
  | error => exact Or.inr ⟨by simp [handling,handlingOf],by simp [acceptedReply,found]⟩
  | datagram d =>
    obtain ⟨long,reported⟩ := whole d found
    by_cases typed : d.payload.type = some .bindReply
    · have host : SameHost (k.took d).socket.peerAddress c.stunServerAddr ↔
          d.source = c.stunServerAddress.endpoint := by
        rw [took_peerAddress k d reported,stunServerAddr,Address.sockaddr]
        cases d.source
        simp [SameHost,Address.endpoint]
      by_cases server : d.source = c.stunServerAddress.endpoint
      · refine Or.inl ⟨by simp [handling,handlingOf,typed,host,server],?_⟩
        have read : (k.heard (.datagram d)).message.bindReply = (Message.zero.received d.payload).bindReply :=
          Message.bindReply_received k.message d.payload (by omega)
        rw [read]
        simp [acceptedReply,found,typed,server]
      · exact Or.inr ⟨by simp [handling,handlingOf,typed,host,server],by simp [acceptedReply,found,server]⟩
    · refine Or.inr ⟨?_,by simp [acceptedReply,found,typed]⟩
      simp only [handling,handlingOf]
      split
      · split <;> simp
      · rename_i type is
        have other : type ≠ .bindReply := by
          rintro rfl
          exact typed is
        rw [if_neg other]
        split
        · split <;> simp
        · split <;> simp
        · simp
        · simp

theorem connect_targetAddress (k : Connecting) (e : ReceiveStep) (whole : FullLength e)
    (inside : Receiving k) (goes_on : ¬Succeeded (c.connect k e).1) :
    (c.connect k e).1.socket.targetAddress = (c.acceptedReply e).getD k.socket.targetAddress := by
  obtain ⟨n,receiving⟩ := inside
  rw [c.connect_receiving k n e receiving] at goes_on ⊢
  rcases c.handling_replied k e whole with ⟨replied,accepted⟩ | ⟨other,none⟩
  · rw [replied,accepted]
    rfl
  · rw [none]
    cases handling : c.handling k e.outcome with
    | replied => exact absurd handling other
    | answered =>
      rw [handling] at goes_on
      exact absurd (established_succeeded _) goes_on
    | silent | costs | ignored | responded => exact heard_targetAddress k e.outcome

theorem connect_no_awaitAck (k : Connecting) (n : Nat) (e : ReceiveStep) (receiving : k.progress = .receiving n)
    (second : Bool) : (c.connect k e).1.progress ≠ .awaitAck second := by
  have again (j : Connecting) (left : Nat) : (j.again left).progress ≠ .awaitAck second := by
    rw [Connecting.again]
    split <;> simp
  rw [c.connect_receiving k n e receiving]
  cases c.handling k e.outcome with
  | silent | costs | ignored | replied => exact again _ _
  | answered | responded => exact Progress.noConfusion

theorem targetAddress_origin (socket : UdpSocket) (sendOk : Bool) (events : List ReceiveStep)
    (whole : ∀ e ∈ events, FullLength e) :
    let k := run c.connect (c.start socket sendOk).1 events
    (∀ second, k.progress = .awaitAck second → events = [] ∧ k.socket.targetAddress = c.stunServerAddr) ∧
    (∀ n, k.progress = .receiving n → events ≠ [] ∧ k.socket.targetAddress = c.origin events.tail) := by
  induction events using List.reverseRecOn with
  | nil => cases sendOk <;> exact ⟨fun _ _ => ⟨rfl,rfl⟩,nofun⟩
  | append_singleton past e ih =>
    obtain ⟨waiting,looping⟩ := ih (fun f member => whole f (by simp [member]))
    simp only [run_concat]
    generalize run c.connect (c.start socket sendOk).1 past = k at waiting looping
    cases progress : k.progress with
    | returned r =>
      rw [c.connect_returned k e r progress]
      simp [progress]
    | awaitAck second =>
      obtain ⟨rfl,server⟩ := waiting second progress
      rw [c.connect_awaitAck k e second progress]
      cases e.outcome.carries with
      | false => exact ⟨nofun,nofun⟩
      | true => exact ⟨nofun,fun n _ => ⟨by simp,(heard_targetAddress k e.outcome).trans server⟩⟩
    | receiving n =>
      obtain ⟨some_past,now⟩ := looping n progress
      have inside : Receiving k := ⟨n,progress⟩
      constructor
      · intro second waits
        exact absurd waits (c.connect_no_awaitAck k n e progress second)
      · intro left goes_on
        refine ⟨by simp,?_⟩
        have unended : ¬Succeeded (c.connect k e).1 := by
          intro ended
          rw [Succeeded,goes_on] at ended
          cases ended
        rw [c.connect_targetAddress k e (whole e (by simp)) inside unended,now,
          List.tail_append_of_ne_nil some_past,origin_concat]

end P2pConnector

theorem P2pPsConnector.connect_leavesPeer {fpu : FloatUnit} (c : P2pPsConnector) (k : PsConnecting)
    (e : PsStep fpu) (accepting : Accepting c.transactionId k.toConnecting e.toReceiveStep) :
    LeavesPeer k.toConnecting (c.connect k e).1.toConnecting e.toReceiveStep := by
  obtain ⟨n,receiving⟩ := accepting.1
  have cases : c.handling k e.outcome = .answered ∨ (c.handling k e.outcome = .responded ∧
      ∀ d, e.outcome = .datagram d → SameHost (k.took d).socket.peerAddress k.socket.targetAddress) :=
    handlingOf_accepting (by decide) (by decide) accepting
  obtain ⟨_,d,found,_⟩ := accepting
  rw [c.connect_receiving k n e receiving]
  rcases cases with answered | ⟨responded,host⟩
  · rw [answered,found]
    refine ⟨rfl,?_⟩
    rw [found]
    rintro _ ⟨⟩
    exact ⟨rfl,rfl⟩
  · rw [responded,found]
    exact ⟨rfl,fun d' found' => by rw [← found,found']; exact host d' found'⟩

/-- In every run over whole datagrams the target of the plain connector's socket is the
server until a reply of it is acted upon, then the address of the last such reply, and
nothing else changes it before success. Both connectors leave the sender of their last
datagram as the target when they succeed. -/
theorem targets_legitimate (socket : UdpSocket) (sendOk : Bool)
    (c : P2pConnector) (events : List ReceiveStep) (whole : ∀ e ∈ events, FullLength e)
    (fpu : FloatUnit) (p : P2pPsConnector) (portman : PortManager) (draw : Draw fpu)
    (psEvents : List (PsStep fpu)) (psWhole : ∀ e ∈ psEvents, FullLength e.toReceiveStep) :
    (∀ n, (run c.connect (c.start socket sendOk).1 events).progress = .receiving n →
      (run c.connect (c.start socket sendOk).1 events).socket.targetAddress = c.origin events.tail) ∧
    (∀ past e rest, events = past ++ e :: rest →
      Receiving (run c.connect (c.start socket sendOk).1 past) →
      ¬Succeeded (run c.connect (c.start socket sendOk).1 (past ++ [e])) → c.acceptedReply e = none →
      (run c.connect (c.start socket sendOk).1 (past ++ [e])).socket.targetAddress =
        (run c.connect (c.start socket sendOk).1 past).socket.targetAddress) ∧
    (Returns c.connect id (c.start socket sendOk).1 events .connectionSuccessful →
      EndsAtSource c.connect id id c.transactionId (c.start socket sendOk).1 events) ∧
    (Returns p.connect (·.toConnecting) (p.start socket portman draw sendOk).1 psEvents .connectionSuccessful →
      EndsAtSource p.connect (·.toConnecting) (·.toReceiveStep) p.transactionId
        (p.start socket portman draw sendOk).1 psEvents) := by
  refine ⟨fun n looping => ((c.targetAddress_origin socket sendOk events whole).2 n looping).2,?_,?_,?_⟩
  · rintro past e rest rfl inside goes_on rejected
    rw [run_concat] at goes_on ⊢
    rw [c.connect_targetAddress _ e (whole e (by simp)) inside goes_on,rejected]
    rfl
  · obtain ⟨start,running⟩ := c.start_running socket sendOk
    exact endsAtSource_of_returns c.transactionId (fun k e => c.connect_answers k e)
      (fun k e accepting => c.connect_leavesPeer k e accepting) _ start running events whole
  · obtain ⟨start,running⟩ := p.start_running socket portman draw sendOk
    exact endsAtSource_of_returns p.transactionId (fun k e => p.connect_answers k e)
      (fun k e accepting => p.connect_leavesPeer k e accepting) _ start running psEvents psWhole

theorem fullLength_arrives (message : Message) (source : Endpoint) : FullLength (arrives message source) := by
  rintro _ ⟨⟩
  exact ⟨by simp [Incoming.whole,Payload.ofMessage],le_rfl⟩

theorem targets_legitimate_request :
    let c : P2pConnector := ⟨⟨1,10⟩,7⟩
    let p : P2pPsConnector := ⟨⟨1,10⟩,⟨1,11⟩,7,true⟩
    let start := (c.start .create true).1
    let reply := arrives ((Message.zero.setType .bindReply).setBindReply (Endpoint.sockaddr ⟨9,90⟩))
      (Address.endpoint ⟨1,10⟩)
    let psStart := (p.start .create .plain .plain true).1
    let psEvents := [readably (ackOf ⟨1,10⟩),readably (ackOf ⟨1,11⟩),readably (steadyReply ⟨1,10⟩ ⟨9,90⟩),
      readably (requestOf 7 ⟨9,90⟩)]
    (run c.connect start [ackOf ⟨1,10⟩,reply]).socket.targetAddress = c.origin [reply] ∧
      EndsAtSource p.connect (·.toConnecting) (·.toReceiveStep) 7 psStart psEvents := by
  have both := targets_legitimate .create true ⟨⟨1,10⟩,7⟩
    [ackOf ⟨1,10⟩,arrives ((Message.zero.setType .bindReply).setBindReply (Endpoint.sockaddr ⟨9,90⟩))
      (Address.endpoint ⟨1,10⟩)]
    (by simp [ackOf,fullLength_arrives]) .exact ⟨⟨1,10⟩,⟨1,11⟩,7,true⟩ .plain .plain
    [readably (ackOf ⟨1,10⟩),readably (ackOf ⟨1,11⟩),readably (steadyReply ⟨1,10⟩ ⟨9,90⟩),
      readably (requestOf 7 ⟨9,90⟩)]
    (by simp [ackOf,steadyReply,requestOf,readably,fullLength_arrives])
  exact ⟨both.1 3 (by decide +kernel),
    both.2.2.2 (returns_concat _ [_,_,_] _ _ (.receiving 1) (by decide +kernel) nofun (by decide +kernel))⟩

end P2pStun
