import P2pStun.ResultCauses
import P2pStun.TargetOrigin
import P2pStun.SideBySide

/-! Two calls of `connect` that stand alike: in the same place, with the same sockets, while
the last sender and the buffer may differ. They stay alike over rounds in which what is
read comes out the same, and over a round of one of them that is ignored. -/
namespace P2pStun
open Runs ByteLayout

/-- What an iteration of a receive loop reads besides the type of the message. -/
inductive Reading (Reply : Type)
  | nothing
  | reply (peerAddr : SockaddrIn) (content : Reply)
  | request (peerAddr : SockaddrIn) (transactionId : UInt32)
  | response (peerAddr : SockaddrIn)
deriving DecidableEq

section Readings

variable {Reply : Type} (reply : MessageType) (content : Message → Reply)

def readingOf (k : Connecting) : RecvOutcome → Reading Reply
  | .datagram d =>
    let peerAddr := (k.took d).socket.peerAddress
    match d.payload.type with
    | none => .nothing
    | some type =>
      if type = reply then .reply peerAddr (content (k.took d).message)
      else match type with
      | .clientBindRequest => .request peerAddr (ntohl (k.took d).message.transactionId)
      | .clientBindResponse => .response peerAddr
      | _ => .nothing
  | _ => .nothing

def SameFound : RecvOutcome → RecvOutcome → Prop
  | .timeout,.timeout => True
  | .error written,.error written' => written = written'
  | .datagram d,.datagram d' => d.payload = d'.payload ∧ d.source = d'.source
  | _,_ => False

@[simp] theorem sameFound_self (o : RecvOutcome) : SameFound o o := by
  cases o with
  | timeout => trivial
  | error written => exact rfl
  | datagram d => exact ⟨rfl,rfl⟩

theorem SameFound.carries {o o' : RecvOutcome} (found : SameFound o o') : o.carries = o'.carries := by
  cases o with
  | timeout | error => cases o' <;> first | rfl | contradiction
  | datagram d => cases o' with
    | timeout | error => contradiction
    | datagram d' => simp only [RecvOutcome.carries,found.1]

variable {reply content} {known : SockaddrIn → Prop} [DecidablePred known] {id : UInt32}
  {k j : Connecting} {o o' : RecvOutcome}

theorem handlingOf_read (found : SameFound o o')
    (target : j.socket.targetAddress = k.socket.targetAddress)
    (read : readingOf reply content k o = readingOf reply content j o') :
    handlingOf reply known id k o = handlingOf reply known id j o' ∧
      (handlingOf reply known id k o = .replied →
        content (k.heard o).message = content (j.heard o').message) ∧
      (handlingOf reply known id k o = .answered →
        (k.heard o).socket.peerAddress = (j.heard o').socket.peerAddress) := by
  cases o with
  | timeout | error => cases o' <;> first | contradiction | exact ⟨rfl,nofun,nofun⟩
  | datagram d => cases o' with
    | timeout | error => contradiction
    | datagram d' =>
      simp only [readingOf,handlingOf,Connecting.heard,found.1,target] at read ⊢
      generalize d'.payload.type = typed at read ⊢
      cases typed with
      | none =>
        by_cases empty : d'.payload = []
        · simp [empty]
        · simp [empty]
      | some type =>
        dsimp only at read ⊢
        by_cases replies : type = reply
        · rw [if_pos replies,if_pos replies] at read
          obtain ⟨peer,same⟩ := Reading.reply.inj read
          rw [if_pos replies,if_pos replies,peer,same]
          exact ⟨rfl,fun _ => rfl,fun _ => rfl⟩
        · rw [if_neg replies,if_neg replies] at read
          rw [if_neg replies,if_neg replies]
          cases type with
          | clientBindRequest =>
            obtain ⟨peer,same⟩ := Reading.request.inj read
            simp only [peer,same]
            split <;> simp
          | clientBindResponse =>
            simp only [Reading.response.inj read]
            split <;> simp
          | _ => simp

theorem received_whole (m buffer : Message) (p : Payload) (whole : 56 ≤ p.length) :
    m.received p = buffer.received p := by
  funext i
  have reached : i.val < p.length := by omega
  rw [Message.received,Message.received,overwrite_getElem m p i reached,overwrite_getElem buffer p i reached]

theorem readingOf_whole (k j : Connecting) (e : ReceiveStep) (whole : FullLength e) :
    readingOf reply content k e.outcome = readingOf reply content j e.outcome := by
  cases found : e.outcome with
  | timeout | error => rfl
  | datagram d =>
    obtain ⟨long,reported⟩ := whole d found
    have peer : (k.took d).socket.peerAddress = (j.took d).socket.peerAddress :=
      (took_peerAddress k d reported).trans (took_peerAddress j d reported).symm
    have message : (k.took d).message = (j.took d).message := received_whole k.message j.message d.payload long
    simp only [readingOf,peer,message]

end Readings

/-- The bytes besides the type and the id, which a request built over them keeps. -/
def SameRest (a b : Message) : Prop := ∀ i : Fin 56, (0 < i.val ∧ i.val < 8) ∨ 12 ≤ i.val → a i = b i

theorem request_rest (m : Message) (type : MessageType) (id : UInt32) (i : Fin 56)
    (rest : (0 < i.val ∧ i.val < 8) ∨ 12 ≤ i.val) : m.request type id i = m i := by
  rw [Message.request,Message.setTransactionId,splice_outside _ _ _ _ (by omega),Message.setType,
    splice_outside _ _ _ _ (by omega)]

theorem request_fields (a b : Message) (type : MessageType) (id : UInt32) (i : Fin 56)
    (field : ¬((0 < i.val ∧ i.val < 8) ∨ 12 ≤ i.val)) : a.request type id i = b.request type id i := by
  by_cases inside : 8 ≤ i.val ∧ i.val < 8 + 4
  · simp only [Message.request,Message.setTransactionId,splice,inside,and_self,dite_true]
  · have first : 0 ≤ i.val ∧ i.val < 0 + 1 := by omega
    simp only [Message.request,Message.setTransactionId,Message.setType,splice,inside,first,and_self,
      dite_true,dite_false]

theorem request_eq_iff (a b : Message) (type : MessageType) (id : UInt32) :
    a.request type id = b.request type id ↔ SameRest a b := by
  constructor
  · intro same i rest
    rw [← request_rest a type id i rest,same,request_rest b type id i rest]
  · intro same
    funext i
    by_cases rest : (0 < i.val ∧ i.val < 8) ∨ 12 ≤ i.val
    · rw [request_rest a type id i rest,request_rest b type id i rest]
      exact same i rest
    · exact request_fields a b type id i rest

theorem sent_eq_iff {s t : UdpSocket} (same : s.socketHandle = t.socketHandle ∧ s.targetAddress = t.targetAddress)
    (ok : Bool) (a b : Message) (type : MessageType) (id : UInt32) :
    (s.send (Payload.ofMessage (a.request type id)) ok).2 =
      (t.send (Payload.ofMessage (b.request type id)) ok).2 ↔ (ok = true → SameRest a b) := by
  cases ok with
  | false => simp [UdpSocket.send]
  | true =>
    simp only [UdpSocket.send,if_true,same.1,same.2,forall_true_left,List.cons.injEq,and_true,
      Outgoing.mk.injEq,true_and,Payload.ofMessage_injective.eq_iff,request_eq_iff]

structure SameRound (e f : ReceiveStep) : Prop where
  found : SameFound e.outcome f.outcome
  sendOk : e.sendOk = f.sendOk

theorem sameRound_self (e : ReceiveStep) : SameRound e e := ⟨sameFound_self _,rfl⟩

def Connecting.Alike (k j : Connecting) : Prop :=
  ∃ peerAddress message,
    j = {k with socket := {k.socket with peerAddress := peerAddress}, message := message}

theorem alike_self (k : Connecting) : k.Alike k := ⟨k.socket.peerAddress,k.message,rfl⟩

theorem Connecting.Alike.symm {k j : Connecting} (alike : k.Alike j) : j.Alike k := by
  obtain ⟨peerAddress,message,rfl⟩ := alike
  exact ⟨k.socket.peerAddress,k.message,rfl⟩

def SameEnd (k j : Connecting) : Prop :=
  k.progress = j.progress ∧ k.socket.targetAddress = j.socket.targetAddress

instance (k j : Connecting) : Decidable (SameEnd k j) := inferInstanceAs (Decidable (_ ∧ _))

theorem Connecting.Alike.sameEnd {k j : Connecting} (alike : k.Alike j) : SameEnd k j := by
  obtain ⟨peerAddress,message,rfl⟩ := alike
  exact ⟨rfl,rfl⟩

theorem Connecting.Alike.heard {k j : Connecting} (alike : k.Alike j) (o o' : RecvOutcome) :
    (k.heard o).Alike (j.heard o') := by
  obtain ⟨peerAddress,message,rfl⟩ := alike
  cases o <;> cases o' <;> exact ⟨_,_,rfl⟩

theorem Connecting.Alike.heard_left {k j : Connecting} (alike : k.Alike j) (o : RecvOutcome) :
    (k.heard o).Alike j := by
  obtain ⟨peerAddress,message,rfl⟩ := alike
  cases o <;> exact ⟨_,_,rfl⟩

theorem heard_state (k : Connecting) (o : RecvOutcome) : (k.heard o).state = k.state := by
  cases o <;> rfl

theorem heard_progress (k : Connecting) (o : RecvOutcome) : (k.heard o).progress = k.progress := by
  cases o <;> rfl

theorem again_same {k : Connecting} {n : Nat} (receiving : k.progress = .receiving n) (left : n ≠ 0) :
    k.again n = k := by
  rw [Connecting.again,if_neg left,← receiving]

/-- A helper function is called that builds a message in its own memory. -/
def Connecting.Builds (k : Connecting) : Handling → Prop
  | .silent => k.state = .waitingForClientReply
  | .replied | .answered => True
  | .costs | .ignored | .responded => False

namespace P2pConnector

variable (c : P2pConnector)

def reading (k : Connecting) : RecvOutcome → Reading SockaddrIn :=
  readingOf .bindReply Message.bindReply k

def ReadAlike (k j : Connecting) (e f : ReceiveStep) : Prop :=
  Receiving k → reading k e.outcome = reading j f.outcome

def SentAlike (k : Connecting) (e f : ReceiveStep) : Prop :=
  Receiving k → k.Builds (c.handling k e.outcome) → e.sendOk = true → SameRest e.stack f.stack

def Passes (k : Connecting) (e : ReceiveStep) : Prop :=
  match k.progress with
  | .awaitAck _ => False
  | .receiving n => n ≠ 0 ∧ c.handling k e.outcome = .ignored
  | .returned _ => True

theorem handled_alike {k j : Connecting} (n : Nat) {e f : ReceiveStep} (alike : k.Alike j)
    (sendOk : e.sendOk = f.sendOk) (h : Handling)
    (replied : h = .replied → k.message.bindReply = j.message.bindReply)
    (answered : h = .answered → k.socket.peerAddress = j.socket.peerAddress) :
    (c.handled k n e h).1.Alike (c.handled j n f h).1 ∧
      ((c.handled k n e h).2 = (c.handled j n f h).2 ↔
        (k.Builds h → e.sendOk = true → SameRest e.stack f.stack)) := by
  obtain ⟨peerAddress,message,rfl⟩ := alike
  cases h with
  | silent =>
    refine ⟨⟨_,_,rfl⟩,?_⟩
    by_cases state : k.state = .waitingForClientReply
    · simp only [handled,Connecting.Builds,state,if_true,← sendOk,forall_true_left]
      exact sent_eq_iff ⟨rfl,rfl⟩ e.sendOk e.stack f.stack .clientBindRequest c.transactionId
    · simp only [handled,Connecting.Builds,if_neg state]
      exact iff_of_true trivial fun waiting => absurd waiting state
  | costs | ignored => exact ⟨⟨_,_,rfl⟩,iff_of_true rfl False.elim⟩
  | replied =>
    have content := replied rfl
    dsimp only at content
    simp only [handled,content,Connecting.Builds,← sendOk,forall_true_left]
    exact ⟨⟨_,_,rfl⟩,sent_eq_iff ⟨rfl,rfl⟩ e.sendOk e.stack f.stack .clientBindRequest c.transactionId⟩
  | answered =>
    have peer := answered rfl
    dsimp only at peer
    simp only [handled,peer,Connecting.Builds,← sendOk,forall_true_left]
    exact ⟨⟨_,_,rfl⟩,sent_eq_iff ⟨rfl,rfl⟩ e.sendOk e.stack f.stack .clientBindResponse c.transactionId⟩
  | responded => exact ⟨⟨_,_,rfl⟩,iff_of_true rfl False.elim⟩

theorem connect_alike {k j : Connecting} {e f : ReceiveStep} (alike : k.Alike j)
    (same : SameRound e f) (read : ReadAlike k j e f) :
    (c.connect k e).1.Alike (c.connect j f).1 ∧
      ((c.connect k e).2 = (c.connect j f).2 ↔ c.SentAlike k e f) := by
  have place : j.progress = k.progress := by
    obtain ⟨peerAddress,message,rfl⟩ := alike
    rfl
  have heard := alike.heard e.outcome f.outcome
  cases progress : k.progress with
  | awaitAck second =>
    rw [c.connect_awaitAck k e second progress,c.connect_awaitAck j f second (place.trans progress),
      ← same.found.carries]
    have outside : c.SentAlike k e f := fun inside => by simp [Receiving,progress] at inside
    obtain ⟨peerAddress,message,as⟩ := heard
    rw [as]
    cases e.outcome.carries with
    | true | false => exact ⟨⟨_,_,rfl⟩,iff_of_true rfl outside⟩
  | receiving n =>
    have inside : Receiving k := ⟨n,progress⟩
    have target : j.socket.targetAddress = k.socket.targetAddress := by
      obtain ⟨peerAddress,message,rfl⟩ := alike
      rfl
    have kinds : c.handling k e.outcome = c.handling j f.outcome ∧ (_ → _) ∧ (_ → _) :=
      handlingOf_read same.found target (read inside)
    obtain ⟨kind,replied,answered⟩ := kinds
    obtain ⟨next,sent⟩ := c.handled_alike n heard same.sendOk (c.handling k e.outcome) replied answered
    have builds (h : Handling) : (k.heard e.outcome).Builds h ↔ k.Builds h := by
      cases h <;> simp only [Connecting.Builds,heard_state]
    rw [builds] at sent
    rw [c.connect_receiving k n e progress,c.connect_receiving j n f (place.trans progress),← kind]
    exact ⟨next,sent.trans ⟨fun agree _ => agree,fun agree => agree inside⟩⟩
  | returned r =>
    have outside : c.SentAlike k e f := fun inside => by simp [Receiving,progress] at inside
    rw [c.connect_returned k e r progress,c.connect_returned j f r (place.trans progress)]
    exact ⟨alike,iff_of_true rfl outside⟩

theorem connect_passes (k j : Connecting) (e : ReceiveStep) (alike : k.Alike j) (passes : c.Passes k e) :
    (c.connect k e).1.Alike j ∧ (c.connect k e).2 = [] := by
  unfold Passes at passes
  cases progress : k.progress with
  | awaitAck second => simp [progress] at passes
  | receiving n =>
    rw [progress] at passes
    obtain ⟨left,ignored⟩ := passes
    have same := again_same ((heard_progress k e.outcome).trans progress) left
    rw [c.connect_receiving k n e progress,ignored]
    refine ⟨?_,rfl⟩
    change ((k.heard e.outcome).again n).Alike j
    rw [same]
    exact alike.heard_left e.outcome
  | returned r =>
    rw [c.connect_returned k e r progress]
    exact ⟨alike,rfl⟩

theorem sentAlike_self (k : Connecting) (e : ReceiveStep) : c.SentAlike k e e :=
  (c.connect_alike (alike_self k) (sameRound_self e) fun _ => rfl).2.mp rfl

theorem connect_taken (k j : Connecting) (e : ReceiveStep) (alike : k.Alike j) (read : ReadAlike k j e e) :
    (c.connect k e).1.Alike (c.connect j e).1 ∧ (c.connect k e).2 = (c.connect j e).2 := by
  obtain ⟨next,sent⟩ := c.connect_alike alike (sameRound_self e) read
  exact ⟨next,sent.mpr (c.sentAlike_self k e)⟩

end P2pConnector

section Scanning

variable {fpu : FloatUnit}

def SameCall (a b : ScanCall fpu) : Prop := ∃ stack, b = {a with stack := stack}

structure SamePsRound (e f : PsStep fpu) : Prop extends SameRound e.toReceiveStep f.toReceiveStep where
  helperFd : e.helperFd = f.helperFd
  helperDraw : e.helperDraw = f.helperDraw
  timeNow : e.timeNow = f.timeNow
  scans : ∀ i, SameCall (e.scans i) (f.scans i)
  select : e.select = f.select

theorem samePsRound_self (e : PsStep fpu) : SamePsRound e e :=
  ⟨sameRound_self _,rfl,rfl,rfl,fun _ => ⟨_,rfl⟩,rfl⟩

/-- The second request is written over the buffer, which must be the same until then. -/
def PsConnecting.Alike (k j : PsConnecting) : Prop :=
  ∃ peerAddress peerAddress2 message, (k.progress = .awaitAck false → message = k.message) ∧
    j = {k with
      socket := {k.socket with peerAddress := peerAddress}
      message := message
      socket2 := {k.socket2 with peerAddress := peerAddress2}}

theorem psAlike_self (k : PsConnecting) : k.Alike k :=
  ⟨k.socket.peerAddress,k.socket2.peerAddress,k.message,fun _ => rfl,rfl⟩

theorem PsConnecting.Alike.symm {k j : PsConnecting} (alike : k.Alike j) : j.Alike k := by
  obtain ⟨peerAddress,peerAddress2,message,waiting,rfl⟩ := alike
  exact ⟨k.socket.peerAddress,k.socket2.peerAddress,k.message,fun waits => (waiting waits).symm,rfl⟩

theorem PsConnecting.Alike.sameEnd {k j : PsConnecting} (alike : k.Alike j) :
    SameEnd k.toConnecting j.toConnecting := by
  obtain ⟨peerAddress,peerAddress2,message,-,rfl⟩ := alike
  exact ⟨rfl,rfl⟩

theorem PsConnecting.Alike.again {k j : PsConnecting} (alike : k.Alike j) (n : Nat) :
    (P2pPsConnector.again k n).Alike (P2pPsConnector.again j n) := by
  have past : (k.toConnecting.again n).progress ≠ .awaitAck false := by
    rw [Connecting.again]
    split <;> simp
  obtain ⟨peerAddress,peerAddress2,message,-,rfl⟩ := alike
  exact ⟨_,_,message,fun waiting => absurd waiting past,rfl⟩

theorem PsConnecting.Alike.returned {k j : PsConnecting} (alike : k.Alike j) (r : ConnectResult) :
    PsConnecting.Alike {k with progress := .returned r} {j with progress := .returned r} := by
  obtain ⟨peerAddress,peerAddress2,message,-,rfl⟩ := alike
  exact ⟨_,_,message,Progress.noConfusion,rfl⟩

theorem PsConnecting.Alike.moved {k j : PsConnecting} (alike : k.Alike j) (state : ConnectorState)
    (progress : Progress) (past : progress ≠ .awaitAck false) :
    PsConnecting.Alike {k with state := state, progress := progress}
      {j with state := state, progress := progress} := by
  obtain ⟨peerAddress,peerAddress2,message,-,rfl⟩ := alike
  exact ⟨_,_,message,fun waits => absurd waits past,rfl⟩

theorem PsConnecting.Alike.buffer {k j : PsConnecting} (alike : k.Alike j)
    (waits : k.progress = .awaitAck false) : j.message = k.message := by
  obtain ⟨peerAddress,peerAddress2,message,waiting,rfl⟩ := alike
  exact waiting waits

theorem PsConnecting.Alike.heard {k j : PsConnecting} (alike : k.Alike j) {o o' : RecvOutcome}
    (found : SameFound o o') : (P2pPsConnector.heard k o).Alike (P2pPsConnector.heard j o') := by
  obtain ⟨peerAddress,peerAddress2,message,waiting,rfl⟩ := alike
  cases o with
  | timeout => cases o' <;> first | contradiction | exact ⟨_,_,message,waiting,rfl⟩
  | error written => cases o' with
    | timeout | datagram d => contradiction
    | error written' =>
      refine ⟨_,_,message.received written',fun waits => ?_,rfl⟩
      rw [waiting waits,← found]
      rfl
  | datagram d => cases o' with
    | timeout | error => contradiction
    | datagram d' =>
      refine ⟨_,_,message.received d'.payload,fun waits => ?_,rfl⟩
      rw [waiting waits,← found.1]
      rfl

theorem PsConnecting.Alike.heard_left {k j : PsConnecting} (alike : k.Alike j)
    (past : k.progress ≠ .awaitAck false) (o : RecvOutcome) : (P2pPsConnector.heard k o).Alike j := by
  obtain ⟨peerAddress,peerAddress2,message,-,rfl⟩ := alike
  have later : (P2pPsConnector.heard k o).progress ≠ .awaitAck false := by
    rw [P2pPsConnector.heard,heard_progress]
    exact past
  cases o with
  | timeout | error | datagram d => exact ⟨_,_,message,fun waits => absurd waits later,rfl⟩

end Scanning

namespace P2pPsConnector

variable {fpu : FloatUnit} (c : P2pPsConnector)

def reading (k : PsConnecting) : RecvOutcome → Reading PsBindReply :=
  readingOf .psBindReply Message.psBindReply k.toConnecting

def ReadAlike (k j : PsConnecting) (e f : PsStep fpu) : Prop :=
  Receiving k.toConnecting → reading k e.outcome = reading j f.outcome

def SameScans : List (ScanCall fpu) → List (ScanCall fpu) → Prop
  | call :: rest, other :: others => call.fd ≠ none →
    (call.sendOk = true → SameRest call.stack other.stack) ∧ SameScans rest others
  | _, _ => True

def HandledAlike (k : PsConnecting) (e f : PsStep fpu) : Handling → Prop
  | .replied => scanTarget fpu k.message.psBindReply e.timeNow ≠ 0 →
    if c.isSymNat then SameScans (List.ofFn e.scans) (List.ofFn f.scans)
    else e.sendOk = true → SameRest e.stack f.stack
  | .answered => e.sendOk = true → SameRest e.stack f.stack
  | .silent | .costs | .ignored | .responded => True

def SentAlike (k : PsConnecting) (e f : PsStep fpu) : Prop :=
  Receiving k.toConnecting → c.HandledAlike (heard k e.outcome) e f (c.handling k e.outcome)

def Passes (k : PsConnecting) (e : PsStep fpu) : Prop :=
  match k.progress with
  | .awaitAck _ => False
  | .receiving n => n ≠ 0 ∧ c.handling k e.outcome = .ignored
  | .returned _ => True

theorem tryConnectToClient_sent_iff (id : UInt32) (socket : UdpSocket) (ok : Bool) (a b : Message)
    (later others : List Outgoing) :
    (tryConnectToClient id socket ok a).2 ++ later = (tryConnectToClient id socket ok b).2 ++ others ↔
      (ok = true → SameRest a b) ∧ later = others := by
  cases ok with
  | false => simp [tryConnectToClient_eq,UdpSocket.send]
  | true => simp [tryConnectToClient_eq,UdpSocket.send,Payload.ofMessage_injective.eq_iff,request_eq_iff]

theorem openScanSockets_cons (addr : SockaddrIn) (basePort : UInt16) (portman : PortManager)
    (call : ScanCall fpu) (rest : List (ScanCall fpu)) (fd : Int) (created : call.fd = some fd) :
    let socket : UdpSocket := ⟨true,.zero,.zero,fd⟩
    let opened := c.openScanSockets addr basePort (socket.bindByPortman portman basePort call.draw).1 rest
    let sent := (tryConnectToClient c.transactionId (socket.setTargetAddress addr) call.sendOk call.stack).2
    c.openScanSockets addr basePort portman (call :: rest) =
      (opened.1,socket.setTargetAddress addr :: opened.2.1,sent ++ opened.2.2.1,opened.2.2.2) := by
  simp [openScanSockets,created,UdpSocket.init_create_some]

theorem openScanSockets_alike (addr : SockaddrIn) (basePort : UInt16) (portman : PortManager)
    {calls others : List (ScanCall fpu)} (same : List.Forall₂ SameCall calls others) :
    (c.openScanSockets addr basePort portman others).1 =
      (c.openScanSockets addr basePort portman calls).1 ∧
    (c.openScanSockets addr basePort portman others).2.1 =
      (c.openScanSockets addr basePort portman calls).2.1 ∧
    (c.openScanSockets addr basePort portman others).2.2.2 =
      (c.openScanSockets addr basePort portman calls).2.2.2 ∧
    ((c.openScanSockets addr basePort portman calls).2.2.1 =
      (c.openScanSockets addr basePort portman others).2.2.1 ↔ SameScans calls others) := by
  induction same generalizing portman with
  | nil => exact ⟨rfl,rfl,rfl,iff_of_true rfl trivial⟩
  | @cons call other calls others same rest ih =>
    obtain ⟨stack,rfl⟩ := same
    cases found : call.fd with
    | none => simp [openScanSockets,found,UdpSocket.init_create_none,SameScans]
    | some fd =>
      obtain ⟨ports,sockets,all,sent⟩ := ih
        ((⟨true,.zero,.zero,fd⟩ : UdpSocket).bindByPortman portman basePort call.draw).1
      rw [c.openScanSockets_cons addr basePort portman call calls fd found,
        c.openScanSockets_cons addr basePort portman ⟨some fd,call.draw,call.sendOk,stack⟩ others fd rfl]
      refine ⟨ports,congrArg (_ :: ·) sockets,all,?_⟩
      simp only [SameScans,found,tryConnectToClient_sent_iff,sent,ne_eq,reduceCtorEq,not_false_eq_true,
        forall_true_left]

theorem tryStartPsConnection_alike {k j : PsConnecting} {e f : PsStep fpu} (alike : k.Alike j)
    (same : SamePsRound e f) (r : PsBindReply) :
    (c.tryStartPsConnection k r e).1.Alike (c.tryStartPsConnection j r f).1 ∧
    (c.tryStartPsConnection j r f).2.1 = (c.tryStartPsConnection k r e).2.1 ∧
    ((c.tryStartPsConnection k r e).2.2 = (c.tryStartPsConnection j r f).2.2 ↔
      (scanTarget fpu r e.timeNow ≠ 0 →
        if c.isSymNat then SameScans (List.ofFn e.scans) (List.ofFn f.scans)
        else e.sendOk = true → SameRest e.stack f.stack)) := by
  obtain ⟨peerAddress,peerAddress2,message,waiting,rfl⟩ := alike
  have calls : List.Forall₂ SameCall (List.ofFn e.scans) (List.ofFn f.scans) := by
    rw [List.forall₂_iff_get]
    refine ⟨by simp,fun i first second => ?_⟩
    simp only [List.get_eq_getElem,List.getElem_ofFn]
    exact same.scans _
  have opened := c.openScanSockets_alike {r.addrOne with sinPort := htons (scanTarget fpu r e.timeNow)}
    k.basePort k.portman calls
  simp only [scanTarget] at opened ⊢
  simp only [tryStartPsConnection,← same.timeNow,← same.select,← same.sendOk]
  by_cases target : determineTargetPort fpu (ntohs r.addrOne.sinPort) (ntohs r.addrTwo.sinPort) r.t1 r.t2
      scanRange e.timeNow = 0
  · simp only [if_pos target]
    exact ⟨⟨_,_,_,waiting,rfl⟩,trivial,iff_of_true trivial fun other => absurd target other⟩
  · simp only [ne_eq,target,not_false_eq_true,forall_true_left,if_false]
    obtain ⟨ports,sockets,all,sent⟩ := opened
    rw [ports,sockets,all]
    split
    · split
      · exact ⟨⟨_,_,_,waiting,rfl⟩,rfl,sent⟩
      · cases e.select with
        | timeout | error => exact ⟨⟨_,_,_,waiting,rfl⟩,rfl,sent⟩
        | ready readable =>
          dsimp only
          generalize List.find? (fun s : UdpSocket => readable s.socketHandle) _ = found
          cases found with
          | none | some socket => exact ⟨⟨_,_,_,waiting,rfl⟩,rfl,sent⟩
    · have sent (s t : UdpSocket) (same : s.socketHandle = t.socketHandle ∧ s.targetAddress = t.targetAddress) :=
        sent_eq_iff same e.sendOk e.stack f.stack .clientBindRequest c.transactionId
      simp only [tryConnectToClient_eq]
      cases e.select with
      | timeout | error | ready readable => exact ⟨⟨_,_,_,waiting,rfl⟩,rfl,sent _ _ ⟨rfl,rfl⟩⟩

theorem secondRequest_alike {k j : PsConnecting} {e f : PsStep fpu} (alike : k.Alike j)
    (buffer : j.message = k.message) (same : SamePsRound e f) :
    (c.secondRequest k e).1.Alike (c.secondRequest j f).1 ∧
      (c.secondRequest k e).2 = (c.secondRequest j f).2 := by
  obtain ⟨peerAddress,peerAddress2,message,-,rfl⟩ := alike
  dsimp only at buffer
  subst buffer
  simp only [secondRequest,← same.helperFd,← same.helperDraw,← same.sendOk,setHelperSocket]
  cases c.isSymNat with
  | false =>
    cases e.sendOk with
    | true | false => exact ⟨⟨_,_,_,fun _ => rfl,rfl⟩,rfl⟩
  | true =>
    obtain ⟨connecting,⟨initialized,target,peer,handle⟩,basePort,portman⟩ := k
    cases initialized with
    | true => cases e.sendOk with
      | true | false => exact ⟨⟨_,_,_,fun _ => rfl,rfl⟩,rfl⟩
    | false => cases e.helperFd with
      | none => exact ⟨⟨_,_,_,fun _ => rfl,rfl⟩,rfl⟩
      | some fd => cases e.sendOk with
        | true | false => exact ⟨⟨_,_,_,fun _ => rfl,rfl⟩,rfl⟩

theorem handled_alike {k j : PsConnecting} (n : Nat) {e f : PsStep fpu} (alike : k.Alike j)
    (same : SamePsRound e f) (h : Handling)
    (replied : h = .replied → k.message.psBindReply = j.message.psBindReply)
    (answered : h = .answered → k.socket.peerAddress = j.socket.peerAddress) :
    (c.handled k n e h).1.Alike (c.handled j n f h).1 ∧
      ((c.handled k n e h).2 = (c.handled j n f h).2 ↔ c.HandledAlike k e f h) := by
  cases h with
  | silent | costs => exact ⟨alike.again (n - 1),iff_of_true rfl trivial⟩
  | ignored => exact ⟨alike.again n,iff_of_true rfl trivial⟩
  | replied =>
    obtain ⟨tried,success,sent⟩ := c.tryStartPsConnection_alike alike same k.message.psBindReply
    dsimp only [handled]
    rw [← replied rfl,success]
    split
    · exact ⟨tried.again 1,sent⟩
    · exact ⟨tried.returned .connectionFailed,sent⟩
  | answered =>
    have peer := answered rfl
    obtain ⟨peerAddress,peerAddress2,message,-,rfl⟩ := alike
    dsimp only at peer
    simp only [handled,peer,HandledAlike,← same.sendOk]
    exact ⟨⟨_,_,_,Progress.noConfusion,rfl⟩,
      sent_eq_iff ⟨rfl,rfl⟩ e.sendOk e.stack f.stack .clientBindResponse c.transactionId⟩
  | responded => exact ⟨alike.moved .connected (.returned _) Progress.noConfusion,iff_of_true rfl trivial⟩

theorem heardByHelper_alike {k j : PsConnecting} (alike : k.Alike j) (waits : k.progress = .awaitAck true)
    (o o' : RecvOutcome) : (c.heardByHelper k o).Alike (c.heardByHelper j o') := by
  obtain ⟨peerAddress,peerAddress2,message,-,rfl⟩ := alike
  unfold heardByHelper setHelperSocket helperSocket
  cases c.isSymNat with
  | true | false =>
    cases o <;> cases o' <;>
      exact ⟨_,_,_,fun first => absurd (waits.symm.trans first) nofun,rfl⟩

theorem connect_alike {k j : PsConnecting} {e f : PsStep fpu} (alike : k.Alike j)
    (same : SamePsRound e f) (read : ReadAlike k j e f) :
    (c.connect k e).1.Alike (c.connect j f).1 ∧
      ((c.connect k e).2 = (c.connect j f).2 ↔ c.SentAlike k e f) := by
  have place : j.progress = k.progress := by
    obtain ⟨peerAddress,peerAddress2,message,-,rfl⟩ := alike
    rfl
  have outside (waits : ∀ n, k.progress ≠ .receiving n) : c.SentAlike k e f := by
    rintro ⟨n,receiving⟩
    exact absurd receiving (waits n)
  cases progress : k.progress with
  | awaitAck second => cases second with
    | false =>
      rw [c.connect_awaitFirst k e progress,c.connect_awaitFirst j f (place.trans progress),
        ← same.found.carries]
      have heard := alike.heard same.found
      cases e.outcome.carries with
      | true =>
        have waits : (P2pPsConnector.heard k e.outcome).progress = .awaitAck false := by
          rw [P2pPsConnector.heard,heard_progress,progress]
        obtain ⟨next,sent⟩ := c.secondRequest_alike heard (heard.buffer waits) same
        exact ⟨next,iff_of_true sent (outside (by simp [progress]))⟩
      | false => exact ⟨heard.returned .connectionError,iff_of_true rfl (outside (by simp [progress]))⟩
    | true =>
      rw [c.connect_awaitSecond k e progress,c.connect_awaitSecond j f (place.trans progress),
        ← same.found.carries]
      have heard := c.heardByHelper_alike alike progress e.outcome f.outcome
      refine ⟨?_,iff_of_true rfl (outside (by simp [progress]))⟩
      cases e.outcome.carries with
      | true => exact heard.moved .waitingForStunReply (.receiving 5) Progress.noConfusion
      | false => exact heard.returned .connectionError
  | receiving n =>
    have inside : Receiving k.toConnecting := ⟨n,progress⟩
    have target : j.socket.targetAddress = k.socket.targetAddress := by
      obtain ⟨peerAddress,peerAddress2,message,-,rfl⟩ := alike
      rfl
    have kinds : c.handling k e.outcome = c.handling j f.outcome ∧ (_ → _) ∧ (_ → _) :=
      handlingOf_read same.found target (read inside)
    obtain ⟨kind,replied,answered⟩ := kinds
    obtain ⟨next,sent⟩ := c.handled_alike n (alike.heard same.found) same
      (c.handling k e.outcome) replied answered
    rw [c.connect_receiving k n e progress,c.connect_receiving j n f (place.trans progress),← kind]
    exact ⟨next,sent.trans ⟨fun agree _ => agree,fun agree => agree inside⟩⟩
  | returned r =>
    rw [c.connect_returned k e r progress,c.connect_returned j f r (place.trans progress)]
    exact ⟨alike,iff_of_true rfl (outside (by simp [progress]))⟩

theorem connect_passes (k j : PsConnecting) (e : PsStep fpu) (alike : k.Alike j) (passes : c.Passes k e) :
    (c.connect k e).1.Alike j ∧ (c.connect k e).2 = [] := by
  unfold Passes at passes
  cases progress : k.progress with
  | awaitAck second => simp [progress] at passes
  | receiving n =>
    rw [progress] at passes
    obtain ⟨left,ignored⟩ := passes
    have heard : (P2pPsConnector.heard k e.outcome).progress = .receiving n := by
      rw [P2pPsConnector.heard,heard_progress,progress]
    have past : k.progress ≠ .awaitAck false := by
      rw [progress]
      exact Progress.noConfusion
    rw [c.connect_receiving k n e progress,ignored]
    refine ⟨?_,rfl⟩
    change (P2pPsConnector.again (P2pPsConnector.heard k e.outcome) n).Alike j
    rw [P2pPsConnector.again,again_same heard left]
    exact alike.heard_left past e.outcome
  | returned r =>
    rw [c.connect_returned k e r progress]
    exact ⟨alike,rfl⟩

theorem sentAlike_self (k : PsConnecting) (e : PsStep fpu) : c.SentAlike k e e :=
  (c.connect_alike (psAlike_self k) (samePsRound_self e) fun _ => rfl).2.mp rfl

theorem connect_taken (k j : PsConnecting) (e : PsStep fpu) (alike : k.Alike j) (read : ReadAlike k j e e) :
    (c.connect k e).1.Alike (c.connect j e).1 ∧ (c.connect k e).2 = (c.connect j e).2 := by
  obtain ⟨next,sent⟩ := c.connect_alike alike (samePsRound_self e) read
  exact ⟨next,sent.mpr (c.sentAlike_self k e)⟩

end P2pPsConnector

end P2pStun
