import P2pStun.CountedRuns
import P2pStun.ReceiveLoop

/-! The statistical runners of the client. They differ in the connector their threads use. -/
namespace P2pStun
open Runs

theorem ConnectorState.result_valid (state : ConnectorState) : state.result ≠ .invalid := by
  cases state <;> decide

theorem Connecting.again_valid (k : Connecting) (n : Nat) :
    (k.again n).progress ≠ .returned .invalid := by
  rw [Connecting.again]
  split
  · exact fun equal => k.state.result_valid (Progress.returned.inj equal)
  · exact Progress.noConfusion

theorem Connecting.established_valid (k : Connecting) : k.established.progress ≠ .returned .invalid := by
  exact fun equal => ConnectorState.connected.result_valid (Progress.returned.inj equal)

namespace P2pConnector

variable (c : P2pConnector)

theorem onMessage_valid (k : Connecting) (n : Nat) (e : ReceiveStep) :
    (c.onMessage k n e).1.progress ≠ .returned .invalid := by
  simp only [onMessage,tryConnectToClient_eq,if_true]
  split
  · split <;> exact Connecting.again_valid _ _
  · split
    · exact Connecting.established_valid _
    · exact Connecting.again_valid _ _
  · split
    · exact Connecting.again_valid _ _
    · exact Connecting.established_valid _
  · exact Connecting.again_valid _ _
  · exact Connecting.again_valid _ _

theorem start_carries (socket : UdpSocket) (sendOk : Bool) :
    ∀ x ∈ (c.start socket sendOk).2, x.payload.transactionId = some c.transactionId := by
  intro x sent
  rw [mem_send sent,Payload.transactionId_ofMessage,Message.transactionId_request]

theorem start_valid (socket : UdpSocket) (sendOk : Bool) :
    (c.start socket sendOk).1.progress ≠ .returned .invalid := by
  cases sendOk <;> simp [start,UdpSocket.send]

theorem connect_valid (k : Connecting) (e : ReceiveStep) (valid : k.progress ≠ .returned .invalid) :
    (c.connect k e).1.progress ≠ .returned .invalid := by
  cases stands : k.progress with
  | returned result => simpa [connect,stands] using valid
  | awaitAck second =>
    simp only [connect,stands]
    split <;> simp
  | receiving attemptsLeft =>
    simp only [connect,stands,receive]
    split
    · exact Connecting.again_valid _ _
    · split
      · exact Connecting.again_valid _ _
      · exact c.onMessage_valid _ _ e

end P2pConnector

namespace P2pPsConnector

variable {fpu : FloatUnit} (c : P2pPsConnector)

theorem again_valid (k : PsConnecting) (n : Nat) : (again k n).progress ≠ .returned .invalid :=
  k.toConnecting.again_valid n

theorem established_valid (k : PsConnecting) : (established k).progress ≠ .returned .invalid :=
  k.toConnecting.established_valid

theorem onMessage_valid (k : PsConnecting) (n : Nat) (e : PsStep fpu) :
    (c.onMessage k n e).1.progress ≠ .returned .invalid := by
  simp only [onMessage]
  split
  · split
    · exact again_valid _ _
    · split
      · simp
      · split
        · simp
        · exact again_valid _ _
  · split
    · exact established_valid _
    · exact again_valid _ _
  · split
    · exact again_valid _ _
    · exact established_valid _
  · exact again_valid _ _
  · exact again_valid _ _

theorem start_carries (socket : UdpSocket) (portman : PortManager) (draw : Draw fpu) (sendOk : Bool) :
    ∀ x ∈ (c.start socket portman draw sendOk).2, x.payload.transactionId = some c.transactionId := by
  intro x sent
  rw [mem_send sent,Payload.transactionId_ofMessage,Message.transactionId_request]

theorem start_valid (socket : UdpSocket) (portman : PortManager) (draw : Draw fpu) (sendOk : Bool) :
    (c.start socket portman draw sendOk).1.progress ≠ .returned .invalid := by
  cases sendOk <;> simp [start,UdpSocket.send]

theorem secondRequest_valid (k : PsConnecting) (e : PsStep fpu) :
    (c.secondRequest k e).1.progress ≠ .returned .invalid := by
  simp only [secondRequest]
  split_ifs <;> cases e.sendOk <;> simp

theorem connect_valid (k : PsConnecting) (e : PsStep fpu) (valid : k.progress ≠ .returned .invalid) :
    (c.connect k e).1.progress ≠ .returned .invalid := by
  cases stands : k.progress with
  | returned result => simpa [connect,stands] using valid
  | awaitAck second =>
    cases second with
    | false =>
      simp only [connect,stands]
      split
      · simp
      · exact c.secondRequest_valid _ e
    | true =>
      simp only [connect,stands]
      split <;> simp
  | receiving attemptsLeft =>
    simp only [connect,stands,receive]
    split
    · exact again_valid _ _
    · split
      · exact again_valid _ _
      · exact c.onMessage_valid _ _ e

end P2pPsConnector

/-- `connect` is called on a new socket, whose `init` may fail. -/
def P2pConnector.callOn (c : P2pConnector) : Option Int × Bool → Connecting × List Outgoing :=
  fun (fd,sendOk) => c.start (UdpSocket.create.init fd).1 sendOk

/-- Each thread makes its connection with a new connector for the id. -/
def statisticalRunner (address : Address) : Calls P2pConnector (Option Int × Bool) Connecting ReceiveStep where
  connector i := ⟨address,i⟩
  transactionId := P2pConnector.transactionId
  start := P2pConnector.callOn
  connect := P2pConnector.connect
  progress := Connecting.progress
  made_for _ := rfl
  start_carries c _ := c.start_carries _ _
  start_valid c _ := c.start_valid _ _
  connect_valid := P2pConnector.connect_valid

def P2pPsConnector.callOn {fpu : FloatUnit} (c : P2pPsConnector) :
    Option Int × PortManager × Draw fpu × Bool → PsConnecting × List Outgoing :=
  fun (fd,portman,draw,sendOk) => c.start (UdpSocket.create.init fd).1 portman draw sendOk

/-- A round of `connect` that finds the port manager as the other threads left it. -/
def P2pPsConnector.connectShared {fpu : FloatUnit} (c : P2pPsConnector) :
    Machine PsConnecting (PortManager × PsStep fpu) Outgoing :=
  fun k (portman,e) => c.connect {k with portman := portman} e

/-- The port manager is one for all threads. -/
def statisticalRunnerPs (fpu : FloatUnit) (address1 address2 : Address) (isSymNat : Bool) :
    Calls P2pPsConnector (Option Int × PortManager × Draw fpu × Bool) PsConnecting
      (PortManager × PsStep fpu) where
  connector i := ⟨address1,address2,i,isSymNat⟩
  transactionId := P2pPsConnector.transactionId
  start := P2pPsConnector.callOn
  connect := P2pPsConnector.connectShared
  progress k := k.progress
  made_for _ := rfl
  start_carries c _ := c.start_carries _ _ _ _
  start_valid c _ := c.start_valid _ _ _ _
  connect_valid c k := fun (portman,e) => c.connect_valid {k with portman := portman} e

/-- When all threads of a runner have finished, every run has been made and counted once. -/
theorem statisticalRuns_countedOnce (fpu : FloatUnit) (address address1 address2 : Address)
    (isSymNat : Bool) (runCount : UInt32) (below : runCount.toNat < 2 ^ 31) :
    (∀ events, (∀ w, (run ((statisticalRunner address).testThreads runCount)
        Runner.initial events).workers w = .finished) →
      CountedOnce (P2pConnector.mk address) P2pConnector.transactionId P2pConnector.callOn
        P2pConnector.connect Connecting.progress runCount
        ((statisticalRunner address).testThreads runCount) events) ∧
    (∀ events, (∀ w, (run ((statisticalRunnerPs fpu address1 address2 isSymNat).testThreads runCount)
        Runner.initial events).workers w = .finished) →
      CountedOnce (P2pPsConnector.mk address1 address2 · isSymNat) P2pPsConnector.transactionId
        P2pPsConnector.callOn P2pPsConnector.connectShared (·.progress) runCount
        ((statisticalRunnerPs fpu address1 address2 isSymNat).testThreads runCount) events) :=
  ⟨countedOnce_of_finished (statisticalRunner address) runCount below,
    countedOnce_of_finished (statisticalRunnerPs fpu address1 address2 isSymNat) runCount below⟩

def twoRuns {X E : Type} (x y : X) (rounds : List E) : List (RunnerEvent (Fin 16) X E) :=
  let one : Fin 16 := ⟨3,by decide⟩
  let other : Fin 16 := ⟨8,by decide⟩
  .draw one x :: .draw other y :: rounds.map (.step one) ++ [.count other,.count one] ++
    (List.finRange 16).map (.draw · x)

instance {C : UInt32 → Type} : (worker : Worker C) → Decidable (worker = .finished)
  | .finished => isTrue rfl
  | .drawing => isFalse (by intro same; cases same)
  | .connecting _ _ => isFalse (by intro same; cases same)

theorem twoRuns_countedOnce :
    let server : Address := ⟨1,3333⟩
    let runner := (statisticalRunner server).testThreads (W := Fin 16) 2
    let runnerPs := (statisticalRunnerPs .exact server ⟨2,3333⟩ true).testThreads (W := Fin 16) 2
    let rounds := [ackOf server,requestOf 0 ⟨9,90⟩]
    let events := twoRuns (some 3,true) (some 4,false) rounds
    let eventsPs := twoRuns (some 3,PortManager.plain,.plain,true) (some 4,PortManager.plain,.plain,false)
      ((ackOf server :: rounds).map fun e => (PortManager.plain,readably e))
    CountedOnce (P2pConnector.mk server) P2pConnector.transactionId P2pConnector.callOn
        P2pConnector.connect Connecting.progress 2 runner events ∧
      CountedOnce (P2pPsConnector.mk server ⟨2,3333⟩ · true) P2pPsConnector.transactionId
        P2pPsConnector.callOn P2pPsConnector.connectShared (·.progress) 2 runnerPs eventsPs :=
  ⟨(statisticalRuns_countedOnce .exact ⟨1,3333⟩ ⟨1,3333⟩ ⟨2,3333⟩ true 2 (by decide)).1 _ (by decide),
    (statisticalRuns_countedOnce .exact ⟨1,3333⟩ ⟨1,3333⟩ ⟨2,3333⟩ true 2 (by decide)).2 _ (by decide)⟩

end P2pStun
