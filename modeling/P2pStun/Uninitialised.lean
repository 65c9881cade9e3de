import P2pStun.AckOrder

/-! The memory that is never initialised: the local message of the helper functions, of which
only the type and the id are set before all of it is sent, and the address length handed to
`recvfrom`, which decides whether it fails and how much of the sender's address is written. -/
namespace P2pStun
open Runs

/-- The addresses of the senders that a receive loop compares or takes over are the same. -/
def SameSender (reply : MessageType) (k j : Connecting) : RecvOutcome → RecvOutcome → Prop
  | .datagram d,.datagram d' =>
    d.payload.type ∈ [some reply,some .clientBindRequest,some .clientBindResponse] →
      (k.took d).socket.peerAddress = (j.took d').socket.peerAddress
  | _,_ => True

theorem sameSender_whole {reply : MessageType} (k j : Connecting) {d d' : Incoming}
    (source : d.source = d'.source) (left : 16 ≤ d.len) (right : 16 ≤ d'.len) :
    SameSender reply k j (.datagram d) (.datagram d') := by
  intro _
  rw [took_peerAddress k d left,took_peerAddress j d' right,source]

theorem SameFound.heard_message {k j : Connecting} {o o' : RecvOutcome} (found : SameFound o o')
    (buffer : j.message = k.message) : (j.heard o').message = (k.heard o).message := by
  cases o with
  | timeout => cases o' <;> first | contradiction | exact buffer
  | error written => cases o' with
    | timeout | datagram d => contradiction
    | error written' =>
      change j.message.received written' = k.message.received written
      rw [buffer,found]
  | datagram d => cases o' with
    | timeout | error => contradiction
    | datagram d' =>
      change j.message.received d'.payload = k.message.received d.payload
      rw [buffer,found.1]

theorem readingOf_sender {Reply : Type} {reply : MessageType} {content : Message → Reply}
    {k j : Connecting} {o o' : RecvOutcome} (found : SameFound o o') (buffer : j.message = k.message)
    (sender : SameSender reply k j o o') :
    readingOf reply content k o = readingOf reply content j o' := by
  have message := found.heard_message buffer
  cases o with
  | timeout | error => cases o' <;> first | contradiction | rfl
  | datagram d => cases o' with
    | timeout | error => contradiction
    | datagram d' =>
      simp only [Connecting.heard] at message
      simp only [readingOf,SameSender,message,found.1] at sender ⊢
      generalize d'.payload.type = typed at sender ⊢
      cases typed with
      | none => rfl
      | some type =>
        by_cases replies : type = reply
        · simp only [if_pos replies,sender (by simp [replies])]
        · simp only [if_neg replies]
          cases type with
          | clientBindRequest | clientBindResponse => simp only [sender (by simp)]
          | _ => rfl

namespace P2pConnector

variable (c : P2pConnector)

theorem handled_message (k : Connecting) (n : Nat) (e : ReceiveStep) (h : Handling) :
    (c.handled k n e h).1.message = k.message := by
  cases h <;> rfl

theorem connect_message {k j : Connecting} {e f : ReceiveStep} (place : j.progress = k.progress)
    (found : SameFound e.outcome f.outcome) (buffer : j.message = k.message) :
    (c.connect j f).1.message = (c.connect k e).1.message := by
  have heard := found.heard_message buffer
  cases progress : k.progress with
  | awaitAck second =>
    rw [c.connect_awaitAck k e second progress,c.connect_awaitAck j f second (place.trans progress),
      found.carries]
    cases f.outcome.carries with
    | true | false => exact heard
  | receiving n =>
    rw [c.connect_receiving k n e progress,c.connect_receiving j n f (place.trans progress),
      handled_message,handled_message,heard]
  | returned r =>
    rw [c.connect_returned k e r progress,c.connect_returned j f r (place.trans progress),buffer]

end P2pConnector

namespace P2pPsConnector

variable {fpu : FloatUnit} (c : P2pPsConnector)

theorem tryStartPsConnection_message (k : PsConnecting) (r : PsBindReply) (e : PsStep fpu) :
    (c.tryStartPsConnection k r e).1.message = k.message := by
  simp only [tryStartPsConnection]
  split
  · rfl
  · split
    · split
      · rfl
      · cases e.select with
        | timeout | error => rfl
        | ready readable =>
          dsimp only
          split <;> rfl
    · cases e.select <;> rfl

theorem handled_message (k : PsConnecting) (n : Nat) (e : PsStep fpu) (h : Handling) :
    (c.handled k n e h).1.message = k.message := by
  cases h with
  | replied =>
    simp only [handled]
    split
    · exact c.tryStartPsConnection_message k k.message.psBindReply e
    · exact c.tryStartPsConnection_message k k.message.psBindReply e
  | _ => rfl

theorem heardByHelper_message (k : PsConnecting) (o : RecvOutcome) :
    (c.heardByHelper k o).message = (k.toConnecting.heard o).message := by
  cases o with
  | timeout => rfl
  | error written => exact Message.received_take k.message written
  | datagram d => exact Message.received_take k.message d.payload

theorem secondRequest_message (k : PsConnecting) (e : PsStep fpu) :
    (c.secondRequest k e).1.message =
      if c.isSymNat = true ∧ (k.socket2.init e.helperFd).2 = false then k.message
      else k.message.request .psBindRequest c.transactionId := by
  unfold secondRequest setHelperSocket
  cases c.isSymNat with
  | false => rfl
  | true =>
    generalize k.socket2.init e.helperFd = helper
    obtain ⟨helper,ready⟩ := helper
    cases ready with
    | true | false => rfl

theorem init_ready (s : UdpSocket) (peerAddress : SockaddrIn) (fd : Option Int) :
    (({s with peerAddress := peerAddress} : UdpSocket).init fd).2 = (s.init fd).2 := by
  obtain ⟨initialized,target,peer,handle⟩ := s
  cases initialized with
  | true => rfl
  | false => cases fd <;> rfl

theorem connect_message {k j : PsConnecting} {e f : PsStep fpu} (alike : k.Alike j)
    (same : SamePsRound e f) (buffer : j.message = k.message) :
    (c.connect j f).1.message = (c.connect k e).1.message := by
  have place : j.progress = k.progress := alike.sameEnd.1.symm
  have heard := same.found.heard_message buffer
  cases progress : k.progress with
  | awaitAck second => cases second with
    | false =>
      rw [c.connect_awaitFirst k e progress,c.connect_awaitFirst j f (place.trans progress),
        same.found.carries]
      cases f.outcome.carries with
      | true =>
        have ready : ((P2pPsConnector.heard j f.outcome).socket2.init f.helperFd).2 =
            ((P2pPsConnector.heard k e.outcome).socket2.init e.helperFd).2 := by
          obtain ⟨peerAddress,peerAddress2,message,-,rfl⟩ := alike
          rw [← same.helperFd]
          exact init_ready k.socket2 peerAddress2 e.helperFd
        simp only [if_true,secondRequest_message,ready]
        split
        · exact heard
        · exact congrArg (Message.request · .psBindRequest c.transactionId) heard
      | false => exact heard
    | true =>
      rw [c.connect_awaitSecond k e progress,c.connect_awaitSecond j f (place.trans progress),
        same.found.carries]
      have helper : (c.heardByHelper j f.outcome).message = (c.heardByHelper k e.outcome).message := by
        rw [heardByHelper_message,heardByHelper_message,heard]
      cases f.outcome.carries with
      | true | false => exact helper
  | receiving n =>
    rw [c.connect_receiving k n e progress,c.connect_receiving j n f (place.trans progress),
      handled_message,handled_message]
    exact heard
  | returned r =>
    rw [c.connect_returned k e r progress,c.connect_returned j f r (place.trans progress),buffer]

end P2pPsConnector

/-- The same round but for the memory that is never initialised, and the same sender where
the loop looks at it. -/
def P2pConnector.SameInput (k j : Connecting) (e f : ReceiveStep) : Prop :=
  SameRound e f ∧ (Receiving k → SameSender .bindReply k j e.outcome f.outcome)

def P2pPsConnector.SameInput {fpu : FloatUnit} (k j : PsConnecting) (e f : PsStep fpu) : Prop :=
  SamePsRound e f ∧ (Receiving k.toConnecting →
    SameSender .psBindReply k.toConnecting j.toConnecting e.outcome f.outcome)

/-- For both connectors and two runs over the same rounds, which differ in that memory only:
where the loop finds the same senders, the calls are in the same place with the same target,
and they have sent the same bytes exactly if the contents sent along are the same. -/
theorem uninitialised_sent_iff (socket : UdpSocket) (sendOk : Bool)
    (c : P2pConnector) (events : List (ReceiveStep × ReceiveStep))
    (alike : Along (beside c.connect c.connect) (Paired P2pConnector.SameInput)
      ((c.start socket sendOk).1,(c.start socket sendOk).1) (pairs events))
    (fpu : FloatUnit) (p : P2pPsConnector) (portman : PortManager) (draw : Draw fpu)
    (psEvents : List (PsStep fpu × PsStep fpu))
    (psAlike : Along (beside p.connect p.connect) (Paired P2pPsConnector.SameInput)
      ((p.start socket portman draw sendOk).1,(p.start socket portman draw sendOk).1) (pairs psEvents)) :
    let s := (c.start socket sendOk).1
    let t := (p.start socket portman draw sendOk).1
    SameEnd (run c.connect s (events.map Prod.fst)) (run c.connect s (events.map Prod.snd)) ∧
    ((∀ done, done <+: events →
        outputs c.connect s (done.map Prod.fst) = outputs c.connect s (done.map Prod.snd)) ↔
      Along (beside c.connect c.connect) (Paired fun k _ e f => c.SentAlike k e f) (s,s) (pairs events)) ∧
    SameEnd (run p.connect t (psEvents.map Prod.fst)).toConnecting
      (run p.connect t (psEvents.map Prod.snd)).toConnecting ∧
    ((∀ done, done <+: psEvents →
        outputs p.connect t (done.map Prod.fst) = outputs p.connect t (done.map Prod.snd)) ↔
      Along (beside p.connect p.connect) (Paired fun k _ e f => p.SentAlike k e f) (t,t) (pairs psEvents)) := by
  intro s t
  have step (k j : Connecting) (e f : ReceiveStep) (now : k.Alike j ∧ j.message = k.message)
      (same : P2pConnector.SameInput k j e f) :
      ((c.connect k e).1.Alike (c.connect j f).1 ∧ (c.connect j f).1.message = (c.connect k e).1.message) ∧
        ((c.connect k e).2 = (c.connect j f).2 ↔ c.SentAlike k e f) := by
    have read : P2pConnector.ReadAlike k j e f :=
      fun inside => readingOf_sender same.1.found now.2 (same.2 inside)
    obtain ⟨next,sent⟩ := c.connect_alike now.1 same.1 read
    exact ⟨⟨next,c.connect_message now.1.sameEnd.1.symm same.1.found now.2⟩,sent⟩
  have psStep (k j : PsConnecting) (e f : PsStep fpu) (now : k.Alike j ∧ j.message = k.message)
      (same : P2pPsConnector.SameInput k j e f) :
      ((p.connect k e).1.Alike (p.connect j f).1 ∧ (p.connect j f).1.message = (p.connect k e).1.message) ∧
        ((p.connect k e).2 = (p.connect j f).2 ↔ p.SentAlike k e f) := by
    have read : P2pPsConnector.ReadAlike k j e f :=
      fun inside => readingOf_sender same.1.found now.2 (same.2 inside)
    obtain ⟨next,sent⟩ := p.connect_alike now.1 same.1 read
    exact ⟨⟨next,p.connect_message now.1 same.1 now.2⟩,sent⟩
  refine ⟨?_,?_,?_,?_⟩
  · exact (paired_related step ⟨alike_self s,rfl⟩ events alike).1.sameEnd
  · exact paired_sent_iff step ⟨alike_self s,rfl⟩ events alike
  · exact (paired_related psStep ⟨psAlike_self t,rfl⟩ psEvents psAlike).1.sameEnd
  · exact paired_sent_iff psStep ⟨psAlike_self t,rfl⟩ psEvents psAlike

def ReceiveStep.inMemory (e : ReceiveStep) (len : Nat) (stack : Message) : ReceiveStep :=
  {e with
    stack := stack
    outcome := match e.outcome with
      | .datagram d => .of (recvfrom d.payload d.source len)
      | o => o}

theorem sameRound_inMemory (e : ReceiveStep) {len len' : Nat} (alike : len < 2 ^ 31 ↔ len' < 2 ^ 31)
    (stack stack' : Message) : SameRound (e.inMemory len stack) (e.inMemory len' stack') := by
  refine ⟨?_,rfl⟩
  unfold ReceiveStep.inMemory
  cases e.outcome with
  | timeout => trivial
  | error written => exact rfl
  | datagram d =>
    dsimp only
    by_cases fits : len < 2 ^ 31
    · rw [recvfrom_ok fits,recvfrom_ok (alike.mp fits)]
      exact ⟨rfl,rfl⟩
    · rw [recvfrom_error fits,recvfrom_error fun other => fits (alike.mpr other)]
      exact rfl

theorem sameSender_inMemory {reply : MessageType} (k j : Connecting) (e : ReceiveStep) {len len' : Nat}
    (left : 16 ≤ len) (right : 16 ≤ len') (stack stack' : Message) :
    SameSender reply k j (e.inMemory len stack).outcome (e.inMemory len' stack').outcome := by
  unfold ReceiveStep.inMemory
  cases e.outcome with
  | timeout | error => trivial
  | datagram d =>
    dsimp only
    by_cases fits : len < 2 ^ 31
    · by_cases fits' : len' < 2 ^ 31
      · rw [recvfrom_ok fits,recvfrom_ok fits']
        exact sameSender_whole k j rfl left right
      · rw [recvfrom_ok fits,recvfrom_error fits']
        trivial
    · rw [recvfrom_error fits]
      trivial

theorem uninitialised_sent_same :
    let c : P2pConnector := ⟨⟨1,10⟩,7⟩
    let p : P2pPsConnector := ⟨⟨1,10⟩,⟨1,11⟩,7,false⟩
    let s := (c.start .create true).1
    let t := (p.start .create .plain .plain true).1
    let stack : Message := fun i => if i.val = 0 then 9 else 0
    let pair := fun e : ReceiveStep => (e.inMemory 16 Message.zero,e.inMemory 28 stack)
    let psPair := fun e : ReceiveStep => (readably (e.inMemory 16 Message.zero),readably (e.inMemory 28 stack))
    let events := [pair (ackOf ⟨1,10⟩),pair (requestOf 7 ⟨9,90⟩)]
    let psEvents := [psPair (ackOf ⟨1,10⟩),psPair (ackOf ⟨1,11⟩),psPair (steadyReply ⟨1,10⟩ ⟨9,90⟩)]
    SameEnd (run c.connect s (events.map Prod.fst)) (run c.connect s (events.map Prod.snd)) ∧
      outputs c.connect s (events.map Prod.fst) = outputs c.connect s (events.map Prod.snd) ∧
      outputs p.connect t (psEvents.map Prod.fst) = outputs p.connect t (psEvents.map Prod.snd) := by
  intro c p s t stack pair psPair events psEvents
  have rest : SameRest Message.zero stack := by
    intro i outside
    have later : i.val ≠ 0 := by omega
    simp only [Message.zero,stack,if_neg later]
  have input (k j : Connecting) (e : ReceiveStep) : P2pConnector.SameInput k j (pair e).1 (pair e).2 :=
    ⟨sameRound_inMemory e (by decide) _ _,fun _ => sameSender_inMemory k j e (by decide) (by decide) _ _⟩
  have psInput (k j : PsConnecting) (e : ReceiveStep) :
      P2pPsConnector.SameInput k j (psPair e).1 (psPair e).2 :=
    ⟨⟨sameRound_inMemory e (by decide) _ _,rfl,rfl,rfl,fun _ => ⟨_,rfl⟩,rfl⟩,
      fun _ => sameSender_inMemory k.toConnecting j.toConnecting e (by decide) (by decide) _ _⟩
  have sent (k : Connecting) (e : ReceiveStep) : c.SentAlike k (pair e).1 (pair e).2 := fun _ _ _ => rest
  have psSent (k : PsConnecting) (e : ReceiveStep) : p.SentAlike k (psPair e).1 (psPair e).2 := by
    intro _
    generalize p.handling k (psPair e).1.outcome = h
    cases h with
    | replied => exact fun _ _ => rest
    | answered => exact fun _ => rest
    | silent | costs | ignored | responded => trivial
  obtain ⟨ends,bytes,-,psBytes⟩ := uninitialised_sent_iff .create true c events
    ⟨input _ _ _,input _ _ _,trivial⟩ .exact p .plain .plain psEvents
    ⟨psInput _ _ _,psInput _ _ _,psInput _ _ _,trivial⟩
  exact ⟨ends,bytes.mpr ⟨sent _ _,sent _ _,trivial⟩ events List.prefix_rfl,
    psBytes.mpr ⟨psSent _ _,psSent _ _,psSent _ _,trivial⟩ psEvents List.prefix_rfl⟩

/-- A byte between the type and the id reaches the peer; a response whose sender is truncated
is not accepted, and one whose address length is refused costs an attempt. -/
theorem uninitialised_matters :
    let c : P2pConnector := ⟨⟨1,10⟩,7⟩
    let s := (c.start .create true).1
    let reply := bindReplyOf ⟨1,10⟩ ⟨9,90⟩
    let response := arrives (Message.zero.request .clientBindResponse 7) ⟨9,90⟩
    let stack : Message := fun i => if i.val = 1 then 255 else 0
    outputs c.connect s [ackOf ⟨1,10⟩,reply.inMemory 16 Message.zero] ≠
        outputs c.connect s [ackOf ⟨1,10⟩,reply.inMemory 16 stack] ∧
      (run c.connect s [ackOf ⟨1,10⟩,reply,response.inMemory 16 stack]).progress =
        .returned .connectionSuccessful ∧
      (run c.connect s [ackOf ⟨1,10⟩,reply,response.inMemory 0 stack]).progress = .receiving 3 ∧
      (run c.connect s [ackOf ⟨1,10⟩,reply,response.inMemory (2 ^ 32 - 1) stack]).progress = .receiving 2 := by
  decide +kernel

end P2pStun
