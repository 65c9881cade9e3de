import P2pStun.ReceiveLoop

/-! Failed sends. The result of `send` is kept in an `int` and compared with -1, which it
never is, so neither helper reports a failure. -/
namespace P2pStun
open Runs

section Iterations

variable {S E : Type} (m : Machine S E Outgoing) (view : S → Connecting) (round : E → ReceiveStep)
  (handle : S → RecvOutcome → Handling)

def Iterates (kind : Handling) (s : S) (e : E) : Prop :=
  Receiving (view s) ∧ handle s (round e).outcome = kind

/-- A call ends well by answering a request only if the answer was sent, and otherwise
keeps its target address. -/
structure AnswersHeeded (s : S) (e : E) : Prop where
  succeeded : Iterates view round handle .answered s e → Succeeded (view (m s e).1) →
    (round e).sendOk = true
  target : Iterates view round handle .answered s e → (round e).sendOk = false →
    (view (m s e).1).socket.targetAddress = (view s).socket.targetAddress

def SentWhen (kind : Handling) (s : S) (e : E) : Prop :=
  Iterates view round handle kind s e → (round e).sendOk = true

variable {m view round handle}

theorem answersHeeded_iff (s : S) (e : E)
    (ends : Iterates view round handle .answered s e → Succeeded (view (m s e).1)) :
    AnswersHeeded m view round handle s e ↔ SentWhen view round handle .answered s e := by
  constructor
  · intro heeded iterates
    exact heeded.succeeded iterates (ends iterates)
  · intro sent
    constructor
    · intro iterates _
      exact sent iterates
    · intro iterates failed
      rw [sent iterates] at failed
      exact absurd failed (by decide)

end Iterations

namespace P2pConnector

variable (c : P2pConnector)

/-- The state that waits for the other client is entered, with three attempts, only if the
request to it was sent. -/
def RequestsHeeded (k : Connecting) (e : ReceiveStep) : Prop :=
  Iterates id id c.handling .replied k e →
    (c.connect k e).1.state = .waitingForClientReply ∧ (c.connect k e).1.progress = .receiving 3 →
    e.sendOk = true

def HeedsFailures (k : Connecting) (e : ReceiveStep) : Prop :=
  AnswersHeeded c.connect id id c.handling k e ∧ c.RequestsHeeded k e

/-- The sends that answer a request with the id, or follow a `bind_reply` of the server, succeed. -/
def SendsSucceed (k : Connecting) (e : ReceiveStep) : Prop :=
  SentWhen id id c.handling .answered k e ∧ SentWhen id id c.handling .replied k e

theorem answered_succeeded (k : Connecting) (e : ReceiveStep)
    (iterates : Iterates id id c.handling .answered k e) : Succeeded (c.connect k e).1 := by
  obtain ⟨⟨n,receiving⟩,answered⟩ := iterates
  have handled : c.handling k e.outcome = .answered := answered
  rw [c.connect_receiving k n e receiving,handled]
  exact established_succeeded _

theorem replied_enters (k : Connecting) (e : ReceiveStep)
    (iterates : Iterates id id c.handling .replied k e) :
    (c.connect k e).1.state = .waitingForClientReply ∧ (c.connect k e).1.progress = .receiving 3 := by
  obtain ⟨⟨n,receiving⟩,replied⟩ := iterates
  have handled : c.handling k e.outcome = .replied := replied
  rw [c.connect_receiving k n e receiving,handled]
  exact ⟨rfl,rfl⟩

theorem heedsFailures_iff (k : Connecting) (e : ReceiveStep) :
    c.HeedsFailures k e ↔ c.SendsSucceed k e := by
  have requests : c.RequestsHeeded k e ↔ SentWhen id id c.handling .replied k e :=
    ⟨fun heeded iterates => heeded iterates (c.replied_enters k e iterates),
      fun sent iterates _ => sent iterates⟩
  exact and_congr (answersHeeded_iff k e (c.answered_succeeded k e)) requests

end P2pConnector

namespace P2pPsConnector

variable {fpu : FloatUnit} (c : P2pPsConnector)

def HeedsFailures (k : PsConnecting) (e : PsStep fpu) : Prop :=
  AnswersHeeded c.connect (·.toConnecting) (·.toReceiveStep) c.handling k e

def SendsSucceed (k : PsConnecting) (e : PsStep fpu) : Prop :=
  SentWhen (·.toConnecting) (·.toReceiveStep) c.handling .answered k e

theorem answered_succeeded (k : PsConnecting) (e : PsStep fpu)
    (iterates : Iterates (·.toConnecting) (·.toReceiveStep) c.handling .answered k e) :
    Succeeded (c.connect k e).1.toConnecting := by
  obtain ⟨⟨n,receiving⟩,answered⟩ := iterates
  rw [c.connect_receiving k n e receiving,answered]
  exact established_succeeded _

theorem heedsFailures_iff (k : PsConnecting) (e : PsStep fpu) :
    c.HeedsFailures k e ↔ c.SendsSucceed k e :=
  answersHeeded_iff k e (c.answered_succeeded k e)

end P2pPsConnector

/-- Along every run of both connectors failures are heeded exactly if there are none to heed. -/
theorem failuresHeeded_iff (socket : UdpSocket) (sendOk : Bool)
    (c : P2pConnector) (events : List ReceiveStep)
    (fpu : FloatUnit) (p : P2pPsConnector) (portman : PortManager) (draw : Draw fpu)
    (psEvents : List (PsStep fpu)) :
    (Along c.connect c.HeedsFailures (c.start socket sendOk).1 events ↔
      Along c.connect c.SendsSucceed (c.start socket sendOk).1 events) ∧
    (Along p.connect p.HeedsFailures (p.start socket portman draw sendOk).1 psEvents ↔
      Along p.connect p.SendsSucceed (p.start socket portman draw sendOk).1 psEvents) := by
  constructor
  · exact along_congr (fun _ => True) (fun _ _ _ _ => trivial)
      (fun k e _ => c.heedsFailures_iff k e) trivial events
  · exact along_congr (fun _ => True) (fun _ _ _ _ => trivial)
      (fun k e _ => p.heedsFailures_iff k e) trivial psEvents

def unsentAnswer : List ReceiveStep :=
  [ackOf ⟨1,10⟩,{requestOf 7 ⟨9,90⟩ with sendOk := false}]

theorem unsentAnswer_not_heeded :
    ¬Along (P2pConnector.connect ⟨⟨1,10⟩,7⟩) (P2pConnector.HeedsFailures ⟨⟨1,10⟩,7⟩)
      (P2pConnector.start ⟨⟨1,10⟩,7⟩ .create true).1 unsentAnswer := by
  intro heeded
  have iterates : Iterates id id (P2pConnector.handling ⟨⟨1,10⟩,7⟩) .answered
      (P2pConnector.connect ⟨⟨1,10⟩,7⟩ (P2pConnector.start ⟨⟨1,10⟩,7⟩ .create true).1 unsentAnswer[0]).1
      unsentAnswer[1] := ⟨⟨10,by decide⟩,by decide +kernel⟩
  have sent := heeded.2.1.1.succeeded iterates (P2pConnector.answered_succeeded _ _ _ iterates)
  exact absurd sent (by decide)

end P2pStun
