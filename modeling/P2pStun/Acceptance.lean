import P2pStun.P2pPsConnector

/-! Which datagram makes a call of `connect` successful, and whether it carries the
transaction id in its own bytes. -/
namespace P2pStun
open Runs

/-- A handshake message whose own bytes hold the transaction id. -/
def Presents (id : UInt32) (d : Incoming) : Prop :=
  (d.payload.type = some .clientBindRequest ∨ d.payload.type = some .clientBindResponse) ∧
    d.payload.transactionId = some id

def Accepts (id : UInt32) (k : Connecting) (d : Incoming) : Prop :=
  (d.payload.type = some .clientBindRequest ∧ ntohl (k.took d).message.transactionId = id) ∨
  (d.payload.type = some .clientBindResponse ∧
    SameHost (k.took d).socket.peerAddress k.socket.targetAddress)

/-- A request too short to hold an id, completed by what the buffer held before, or a
response from the target address without the id. -/
def AcceptsUnproven (id : UInt32) (k : Connecting) (d : Incoming) : Prop :=
  (d.payload.type = some .clientBindRequest ∧ d.payload.length < 12 ∧
    ntohl (k.took d).message.transactionId = id) ∨
  (d.payload.type = some .clientBindResponse ∧ d.payload.transactionId ≠ some id ∧
    SameHost (k.took d).socket.peerAddress k.socket.targetAddress)

theorem acceptsUnproven_iff (id : UInt32) (k : Connecting) (d : Incoming) :
    AcceptsUnproven id k d ↔ Accepts id k d ∧ ¬Presents id d := by
  constructor
  · rintro (⟨typed,short,same⟩ | ⟨typed,other,host⟩)
    · refine ⟨Or.inl ⟨typed,same⟩,?_⟩
      rintro ⟨_,own⟩
      simp [Payload.transactionId,Nat.not_le.mpr short] at own
    · exact ⟨Or.inr ⟨typed,host⟩,fun presents => other presents.2⟩
  · rintro ⟨⟨typed,same⟩ | ⟨typed,host⟩,unproven⟩
    · refine Or.inl ⟨typed,?_,same⟩
      by_contra long
      have own : d.payload.transactionId =
          some (ntohl (Message.zero.received d.payload).transactionId) := by
        simp [Payload.transactionId,Message.received,Nat.not_lt.mp long]
      have read := Message.transactionId_received k.message d.payload _ own
      rw [show (k.took d).message = k.message.received d.payload from rfl,read] at same
      rw [same] at own
      exact unproven ⟨Or.inl typed,own⟩
    · exact Or.inr ⟨typed,fun own => unproven ⟨Or.inr typed,own⟩,host⟩

def Receiving (k : Connecting) : Prop := ∃ n, k.progress = .receiving n

def Unconnected (k : Connecting) : Prop := Receiving k → k.state ≠ .connected

def Succeeded (k : Connecting) : Prop := k.progress = .returned .connectionSuccessful

theorem again_succeeded (k : Connecting) (n : Nat) (unconnected : k.state ≠ .connected) :
    ¬Succeeded (k.again n) := by
  unfold Succeeded Connecting.again
  split
  · intro same
    cases state : k.state <;> simp_all [ConnectorState.result]
  · simp

theorem again_unconnected (k : Connecting) (n : Nat) (unconnected : k.state ≠ .connected) :
    Unconnected (k.again n) := fun _ => unconnected

theorem established_succeeded (k : Connecting) : Succeeded k.established := rfl

theorem established_unconnected (k : Connecting) : Unconnected k.established := by
  rintro ⟨n,same⟩
  simp [Connecting.established] at same

def MessageAccepted (id : UInt32) (k : Connecting) : Prop :=
  (k.message.type = some .clientBindRequest ∧ ntohl k.message.transactionId = id) ∨
  (k.message.type = some .clientBindResponse ∧ SameHost k.socket.peerAddress k.socket.targetAddress)

def Answers (accepted : Prop) (k : Connecting) : Prop :=
  Unconnected k ∧ (Succeeded k ↔ accepted)

theorem answers_again {accepted : Prop} (k : Connecting) (n : Nat) (unconnected : k.state ≠ .connected)
    (rejected : ¬accepted) : Answers accepted (k.again n) :=
  ⟨again_unconnected k n unconnected,iff_of_false (again_succeeded k n unconnected) rejected⟩

theorem answers_established {accepted : Prop} (k : Connecting) (holds : accepted) :
    Answers accepted k.established :=
  ⟨established_unconnected k,iff_of_true (established_succeeded k) holds⟩

theorem answers_waiting {accepted : Prop} (k : Connecting) (second : Bool)
    (waits : k.progress = .awaitAck second) (rejected : ¬accepted) : Answers accepted k := by
  refine ⟨?_,iff_of_false ?_ rejected⟩
  · rintro ⟨n,same⟩
    simp [waits] at same
  · simp [Succeeded,waits]

theorem answers_failed {accepted : Prop} (k : Connecting) (r : ConnectResult)
    (ended : k.progress = .returned r) (failed : r ≠ .connectionSuccessful) (rejected : ¬accepted) :
    Answers accepted k := by
  refine ⟨?_,iff_of_false ?_ rejected⟩
  · rintro ⟨n,same⟩
    simp [ended] at same
  · intro same
    rw [Succeeded,ended] at same
    exact failed (by simpa using same)

theorem answers_tested {accepted test : Prop} [Decidable test] (k j : Connecting) (n : Nat)
    (meaning : accepted ↔ test) (unconnected : j.state ≠ .connected) :
    Answers accepted (if test then k.established else j.again n) := by
  split
  · rename_i holds
    exact answers_established k (meaning.mpr holds)
  · rename_i fails
    exact answers_again j n unconnected (fun holds => fails (meaning.mp holds))

theorem not_messageAccepted {id : UInt32} {k : Connecting} {type : MessageType}
    (typed : k.message.type = some type) (request : type ≠ .clientBindRequest)
    (response : type ≠ .clientBindResponse) : ¬MessageAccepted id k := by
  simp [MessageAccepted,typed,request,response]

theorem P2pConnector.onMessage_answers (c : P2pConnector) (k : Connecting) (n : Nat) (e : ReceiveStep)
    (unconnected : k.state ≠ .connected) :
    Answers (MessageAccepted c.transactionId k) (c.onMessage k n e).1 := by
  cases typed : k.message.type with
  | none =>
    rw [onMessage,typed]
    apply answers_again
    · exact unconnected
    · simp [MessageAccepted,typed]
  | some type =>
    cases type with
    | bindReply =>
      have rejected : ¬MessageAccepted c.transactionId k := not_messageAccepted typed (by decide) (by decide)
      rw [onMessage_bindReply c k n e typed]
      split
      · exact answers_again _ 3 (by simp) rejected
      · exact answers_again k n unconnected rejected
    | clientBindRequest =>
      rw [onMessage_clientBindRequest c k n e typed,apply_ite Prod.fst]
      apply answers_tested
      · simp [MessageAccepted,typed]
      · exact unconnected
    | clientBindResponse =>
      rw [onMessage_clientBindResponse c k n e typed,apply_ite Prod.fst]
      apply answers_tested
      · simp [MessageAccepted,typed]
      · exact unconnected
    | _ =>
      rw [onMessage,typed]
      exact answers_again _ _ unconnected (not_messageAccepted typed (by decide) (by decide))

def Accepting (id : UInt32) (k : Connecting) (e : ReceiveStep) : Prop :=
  Receiving k ∧ ∃ d, e.outcome = .datagram d ∧ Accepts id k d

theorem messageAccepted_took (id : UInt32) (k : Connecting) (d : Incoming) (nonempty : d.payload ≠ []) :
    MessageAccepted id (k.took d) ↔ Accepts id k d := by
  have typed : (k.took d).message.type = d.payload.type := Message.type_received _ _ nonempty
  rw [MessageAccepted,Accepts,typed]
  rfl

theorem not_accepts_empty (id : UInt32) (k : Connecting) (d : Incoming) (empty : d.payload = []) :
    ¬Accepts id k d := by
  simp [Accepts,empty,Payload.type]

theorem P2pConnector.receive_answers (c : P2pConnector) (k : Connecting) (n : Nat) (e : ReceiveStep)
    (receiving : k.progress = .receiving n) (unconnected : k.state ≠ .connected) :
    Answers (Accepting c.transactionId k e) (c.receive k n e).1 := by
  cases found : e.outcome with
  | timeout =>
    simp only [receive,found,UdpSocket.waitReceive,if_true]
    exact answers_again _ _ unconnected (by simp [Accepting,found])
  | error written =>
    simp only [receive,found,UdpSocket.waitReceive]
    exact answers_again _ _ unconnected (by simp [Accepting,found])
  | datagram d =>
    have meaning : Accepting c.transactionId k e ↔ Accepts c.transactionId k d := by
      simp [Accepting,Receiving,receiving,found]
    rw [meaning]
    by_cases empty : d.payload = []
    · simp only [receive,found,UdpSocket.waitReceive,empty]
      exact answers_again _ _ unconnected (not_accepts_empty _ k d empty)
    · rw [receive_datagram c k n e d found empty,← messageAccepted_took _ k d empty]
      exact c.onMessage_answers (k.took d) n e unconnected

theorem P2pConnector.connect_answers (c : P2pConnector) (k : Connecting) (e : ReceiveStep)
    (before : Unconnected k) :
    Answers (Succeeded k ∨ Accepting c.transactionId k e) (c.connect k e).1 := by
  unfold connect
  cases progress : k.progress with
  | awaitAck second =>
    have rejected : ¬(Succeeded k ∨ Accepting c.transactionId k e) := by
      simp [Succeeded,Accepting,Receiving,progress]
    simp only
    split
    · exact answers_failed _ _ rfl (by decide) rejected
    · exact ⟨nofun,iff_of_false nofun rejected⟩
  | receiving n =>
    have answers := c.receive_answers k n e progress (before ⟨n,progress⟩)
    have running : ¬Succeeded k := by simp [Succeeded,progress]
    simpa only [running,false_or] using answers
  | returned r =>
    have ended : ¬Accepting c.transactionId k e := by simp [Accepting,Receiving,progress]
    refine ⟨?_,by simp [ended]⟩
    rintro ⟨n,same⟩
    simp [progress] at same

namespace P2pPsConnector

variable {fpu : FloatUnit}

theorem tryStartPsConnection_state (c : P2pPsConnector) (k : PsConnecting) (r : PsBindReply)
    (e : PsStep fpu) : (c.tryStartPsConnection k r e).1.state = k.state := by
  unfold tryStartPsConnection
  simp only
  split
  · rfl
  · split
    · split
      · rfl
      · split
        · rfl
        · rfl
        · split <;> rfl
    · split <;> rfl

theorem onMessage_answers (c : P2pPsConnector) (k : PsConnecting) (n : Nat) (e : PsStep fpu)
    (unconnected : k.state ≠ .connected) :
    Answers (MessageAccepted c.transactionId k.toConnecting) (c.onMessage k n e).1.toConnecting := by
  cases typed : k.message.type with
  | none =>
    rw [onMessage,typed]
    apply answers_again
    · exact unconnected
    · simp [MessageAccepted,typed]
  | some type =>
    cases type with
    | psBindReply =>
      have rejected : ¬MessageAccepted c.transactionId k.toConnecting :=
        not_messageAccepted typed (by decide) (by decide)
      have state := c.tryStartPsConnection_state k k.message.psBindReply e
      rw [onMessage,typed]
      simp only
      split
      · exact answers_again _ n unconnected rejected
      · split
        · exact answers_failed _ _ rfl (by decide) rejected
        · split
          · exact answers_failed _ _ rfl (by decide) rejected
          · exact answers_again _ _ (state ▸ unconnected) rejected
    | clientBindRequest =>
      rw [onMessage_clientBindRequest c k n e typed,apply_ite Prod.fst,
        apply_ite PsConnecting.toConnecting]
      apply answers_tested
      · simp [MessageAccepted,typed]
      · exact unconnected
    | clientBindResponse =>
      rw [onMessage_clientBindResponse c k n e typed,apply_ite Prod.fst,
        apply_ite PsConnecting.toConnecting]
      apply answers_tested
      · simp [MessageAccepted,typed]
      · exact unconnected
    | _ =>
      rw [onMessage,typed]
      exact answers_again _ _ unconnected (not_messageAccepted typed (by decide) (by decide))

theorem receive_answers (c : P2pPsConnector) (k : PsConnecting) (n : Nat) (e : PsStep fpu)
    (receiving : k.progress = .receiving n) (unconnected : k.state ≠ .connected) :
    Answers (Accepting c.transactionId k.toConnecting e.toReceiveStep) (c.receive k n e).1.toConnecting := by
  cases found : e.outcome with
  | timeout =>
    simp only [receive,found,UdpSocket.waitReceive,if_true]
    exact answers_again _ _ unconnected (by simp [Accepting,found])
  | error written =>
    simp only [receive,found,UdpSocket.waitReceive]
    exact answers_again _ _ unconnected (by simp [Accepting,found])
  | datagram d =>
    have meaning : Accepting c.transactionId k.toConnecting e.toReceiveStep ↔
        Accepts c.transactionId k.toConnecting d := by
      simp [Accepting,Receiving,receiving,found]
    rw [meaning]
    by_cases empty : d.payload = []
    · simp only [receive,found,UdpSocket.waitReceive,empty]
      exact answers_again _ _ unconnected (not_accepts_empty _ _ d empty)
    · rw [receive_datagram c k n e d found empty,← messageAccepted_took _ k.toConnecting d empty]
      exact c.onMessage_answers {k with toConnecting := k.took d} n e unconnected

theorem secondRequest_waits (c : P2pPsConnector) (k : PsConnecting) (e : PsStep fpu) :
    (c.secondRequest k e).1.progress = .awaitAck true ∨
      (c.secondRequest k e).1.progress = .returned .connectionError := by
  unfold secondRequest
  generalize (if c.isSymNat then k.socket2.init e.helperFd else (k.socket,true)) = helper
  obtain ⟨helper,ready⟩ := helper
  cases ready with
  | false => exact Or.inr rfl
  | true =>
    simp only [not_true_eq_false,if_false]
    split
    · exact Or.inl rfl
    · exact Or.inr rfl

theorem connect_answers (c : P2pPsConnector) (k : PsConnecting) (e : PsStep fpu)
    (before : Unconnected k.toConnecting) :
    Answers (Succeeded k.toConnecting ∨ Accepting c.transactionId k.toConnecting e.toReceiveStep)
      (c.connect k e).1.toConnecting := by
  unfold connect
  cases progress : k.progress with
  | awaitAck second =>
    have rejected : ¬(Succeeded k.toConnecting ∨
        Accepting c.transactionId k.toConnecting e.toReceiveStep) := by
      simp [Succeeded,Accepting,Receiving,progress]
    cases second with
    | false =>
      simp only
      split
      · exact answers_failed _ _ rfl nofun rejected
      · rcases c.secondRequest_waits _ e with waits | failed
        · exact answers_waiting _ true waits rejected
        · exact answers_failed _ _ failed nofun rejected
    | true =>
      simp only
      split
      · exact answers_failed _ _ rfl nofun rejected
      · exact ⟨nofun,iff_of_false nofun rejected⟩
  | receiving n =>
    have answers := c.receive_answers k n e progress (before ⟨n,progress⟩)
    have running : ¬Succeeded k.toConnecting := by simp [Succeeded,progress]
    simpa only [running,false_or] using answers
  | returned r =>
    have ended : ¬Accepting c.transactionId k.toConnecting e.toReceiveStep := by simp [Accepting,Receiving,progress]
    refine ⟨?_,by simp [ended]⟩
    rintro ⟨n,same⟩
    simp [progress] at same

end P2pPsConnector

section Calls

variable {S E : Type} (m : Machine S E Outgoing) (view : S → Connecting) (round : E → ReceiveStep)

def Returns (s : S) (events : List E) (r : ConnectResult) : Prop :=
  (view (run m s events)).progress = .returned r ∧
    ∀ before e q, events = before ++ [e] → (view (run m s before)).progress ≠ .returned q

def PresentedIn (id : UInt32) (events : List E) : Prop :=
  ∃ e ∈ events, ∃ d, (round e).outcome = .datagram d ∧ Presents id d

def PartyPresents (id : UInt32) (s : S) (events : List E) : Prop :=
  Returns m view s events .connectionSuccessful → PresentedIn round id events

/-- The datagram that ends the call is not accepted on bytes of an earlier message or
for its source alone, unless the id was presented before it. -/
def ProvenOrPresented (id : UInt32) (s : S) (events : List E) : Prop :=
  ∀ before e d, events = before ++ [e] → (round e).outcome = .datagram d →
    Receiving (view (run m s before)) → AcceptsUnproven id (view (run m s before)) d →
    PresentedIn round id before

variable {m view round}

theorem returns_concat (s : S) (before : List E) (e : E) (r : ConnectResult) (running : Progress)
    (goes_on : (view (run m s before)).progress = running) (unended : ∀ q, running ≠ .returned q)
    (ends : (view (run m s (before ++ [e]))).progress = .returned r) :
    Returns m view s (before ++ [e]) r := by
  refine ⟨ends,?_⟩
  intro before' e' q split
  obtain ⟨rfl,_⟩ := List.append_inj' split rfl
  rw [goes_on]
  exact unended q

theorem partyPresents_iff (id : UInt32)
    (step : ∀ s e, Unconnected (view s) →
      Answers (Succeeded (view s) ∨ Accepting id (view s) (round e)) (view (m s e).1))
    (s : S) (start : Unconnected (view s)) (running : ¬Succeeded (view s)) (events : List E) :
    PartyPresents m view round id s events ↔ ProvenOrPresented m view round id s events := by
  have unconnected (events : List E) : Unconnected (view (run m s events)) :=
    history_invariant (fun _ s => Unconnected (view s)) start
      (fun past e before => (step (run m s past) e before).1) events
  constructor
  · rintro presents before e d rfl found receiving unproven
    obtain ⟨accepted,silent⟩ := (acceptsUnproven_iff _ _ _).mp unproven
    have ends : Succeeded (view (run m s (before ++ [e]))) := by
      rw [run_concat]
      exact (step _ e (unconnected before)).2.mpr (Or.inr ⟨receiving,d,found,accepted⟩)
    obtain ⟨f,member,d',found',shown⟩ := presents ⟨ends,by
      intro before' e' q split ended
      obtain ⟨rfl,_⟩ := List.append_inj' split rfl
      obtain ⟨n,still⟩ := receiving
      simp [still] at ended⟩
    rcases List.mem_append.mp member with earlier | last
    · exact ⟨f,earlier,d',found',shown⟩
    · rw [List.mem_singleton.mp last,found] at found'
      cases found'
      exact absurd shown silent
  · rintro proven ⟨ends,first⟩
    rcases List.eq_nil_or_concat' events with rfl | ⟨before,e,rfl⟩
    · exact absurd ends running
    · rw [run_concat] at ends
      rcases (step _ e (unconnected before)).2.mp ends with already | ⟨receiving,d,found,accepted⟩
      · exact absurd already (first before e _ rfl)
      · by_cases shown : Presents id d
        · exact ⟨e,by simp,d,found,shown⟩
        · have unproven := (acceptsUnproven_iff _ _ _).mpr ⟨accepted,shown⟩
          obtain ⟨f,member,earlier⟩ := proven before e d rfl found receiving unproven
          exact ⟨f,List.mem_append_left _ member,earlier⟩

end Calls

theorem P2pConnector.start_running (c : P2pConnector) (socket : UdpSocket) (sendOk : Bool) :
    Unconnected (c.start socket sendOk).1 ∧ ¬Succeeded (c.start socket sendOk).1 := by
  cases sendOk <;> exact ⟨nofun,nofun⟩

theorem P2pPsConnector.start_running {fpu : FloatUnit} (c : P2pPsConnector) (socket : UdpSocket)
    (portman : PortManager) (draw : Draw fpu) (sendOk : Bool) :
    Unconnected (c.start socket portman draw sendOk).1.toConnecting ∧
      ¬Succeeded (c.start socket portman draw sendOk).1.toConnecting := by
  cases sendOk <;> exact ⟨nofun,nofun⟩

/-- For both connectors a successful call has seen the id exactly when it was not
ended by a short request or a response without the id. -/
theorem connect_partyPresents_iff (socket : UdpSocket) (sendOk : Bool)
    (c : P2pConnector) (events : List ReceiveStep)
    (fpu : FloatUnit) (p : P2pPsConnector) (portman : PortManager) (draw : Draw fpu)
    (psEvents : List (PsStep fpu)) :
    (PartyPresents c.connect id id c.transactionId (c.start socket sendOk).1 events ↔
      ProvenOrPresented c.connect id id c.transactionId (c.start socket sendOk).1 events) ∧
    (PartyPresents p.connect (·.toConnecting) (·.toReceiveStep) p.transactionId
        (p.start socket portman draw sendOk).1 psEvents ↔
      ProvenOrPresented p.connect (·.toConnecting) (·.toReceiveStep) p.transactionId
        (p.start socket portman draw sendOk).1 psEvents) := by
  constructor
  · obtain ⟨start,running⟩ := c.start_running socket sendOk
    exact partyPresents_iff c.transactionId (fun k e => c.connect_answers k e) _ start running events
  · obtain ⟨start,running⟩ := p.start_running socket portman draw sendOk
    exact partyPresents_iff p.transactionId (fun k e => p.connect_answers k e) _ start running psEvents

def oneByteDatagrams : List ReceiveStep :=
  [⟨.datagram (.whole [6] ⟨1,10⟩),true,Message.zero⟩,⟨.datagram (.whole [4] ⟨9,90⟩),true,Message.zero⟩]

theorem oneByteDatagrams_not_presents :
    ¬PartyPresents (P2pConnector.connect ⟨⟨1,10⟩,7⟩) id id 7
      (P2pConnector.start ⟨⟨1,10⟩,7⟩ .create true).1 oneByteDatagrams := by
  intro presents
  have returns : Returns (P2pConnector.connect ⟨⟨1,10⟩,7⟩) id
      (P2pConnector.start ⟨⟨1,10⟩,7⟩ .create true).1 oneByteDatagrams .connectionSuccessful :=
    returns_concat _ [_] _ _ (.receiving 10) (by decide) nofun (by decide)
  obtain ⟨e,member,d,found,shown⟩ := presents returns
  have short : d.payload.length = 1 := by
    rcases List.mem_cons.mp member with rfl | member
    · cases found
      rfl
    · rw [List.mem_singleton.mp member] at found
      cases found
      rfl
  have own := shown.2
  simp [Payload.transactionId,short] at own

end P2pStun
