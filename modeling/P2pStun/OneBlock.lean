import P2pStun.PortDraws
import P2pStun.ReceiveLoop

/-! From which blocks a connection attempt of the scanning connector takes its ports. The
port zero stands for a bind that failed and for a request of a new block, so one failed
bind turns every later draw into a block of its own. -/
namespace P2pStun
open Runs

variable {fpu : FloatUnit}

def UdpSocket.managerCalls (s : UdpSocket) (basePort : UInt16) (d : Draw fpu) : List (ManagerCall fpu) :=
  if ¬s.initialized then []
  else if basePort ≠ 0 then [.assignNextFromBase basePort d] else [.assignNext d]

theorem UdpSocket.bindByPortman_manager (s : UdpSocket) (portman : PortManager) (basePort : UInt16)
    (d : Draw fpu) :
    (s.bindByPortman portman basePort d).1 = run PortManager.call portman (s.managerCalls basePort d) := by
  unfold bindByPortman managerCalls
  by_cases ready : s.initialized
  · by_cases base : basePort = 0 <;> simp [ready,base,PortManager.call]
  · simp [ready]

def DrawsFrom (basePort : UInt16) (call : ManagerCall fpu) : Prop :=
  ∃ d, call = if basePort ≠ 0 then .assignNextFromBase basePort d else .assignNext d

theorem UdpSocket.managerCalls_drawsFrom (s : UdpSocket) (basePort : UInt16) (d : Draw fpu) :
    ∀ call ∈ s.managerCalls basePort d, DrawsFrom basePort call := by
  intro call member
  refine ⟨d,?_⟩
  unfold managerCalls at member
  by_cases ready : s.initialized
  · by_cases base : basePort = 0 <;> simpa [ready,base] using member
  · simp [ready] at member

theorem UdpSocket.managerCalls_ready (s : UdpSocket) (ready : s.initialized = true) (basePort : UInt16)
    (d : Draw fpu) : s.managerCalls basePort d ≠ [] := by
  by_cases base : basePort = 0 <;> simp [managerCalls,ready,base]

namespace P2pPsConnector

variable (c : P2pPsConnector)

def scanCalls (basePort : UInt16) : List (ScanCall fpu) → List (ManagerCall fpu)
  | [] => []
  | call :: rest =>
    let (socket,ready) := UdpSocket.create.init call.fd
    if ¬ready then [] else socket.managerCalls basePort call.draw ++ scanCalls basePort rest

theorem openScanSockets_manager (addr : SockaddrIn) (basePort : UInt16) (portman : PortManager)
    (calls : List (ScanCall fpu)) :
    (c.openScanSockets addr basePort portman calls).1 =
      run PortManager.call portman (scanCalls basePort calls) := by
  induction calls generalizing portman with
  | nil => rfl
  | cons call rest ih =>
    cases found : call.fd with
    | none => simp [openScanSockets,scanCalls,found,UdpSocket.init_create_none]
    | some fd =>
      simp only [openScanSockets,scanCalls,found,UdpSocket.init_create_some,not_true_eq_false,if_false,
        run_append,← UdpSocket.bindByPortman_manager]
      exact ih _

def roundCalls (k : PsConnecting) (e : PsStep fpu) : List (ManagerCall fpu) :=
  match k.progress with
  | .awaitAck false =>
    if e.outcome.carries ∧ c.isSymNat then
      let (helper,ready) := k.socket2.init e.helperFd
      if ready then helper.managerCalls k.basePort e.helperDraw else []
    else []
  | .receiving _ => match c.handling k e.outcome with
    | .replied =>
      let r := (heard k e.outcome).message.psBindReply
      let p1 := ntohs r.addrOne.sinPort
      let p2 := ntohs r.addrTwo.sinPort
      let targetPort := determineTargetPort fpu p1 p2 r.t1 r.t2 scanRange e.timeNow
      if targetPort ≠ 0 ∧ c.isSymNat then scanCalls k.basePort (List.ofFn e.scans) else []
    | _ => []
  | _ => []

/-- The attempt as the port manager sees it. -/
def asking : Machine PsConnecting (PsStep fpu) (ManagerCall fpu) := fun k e =>
  ((c.connect k e).1,c.roundCalls k e)

theorem secondRequest_manager (k : PsConnecting) (e : PsStep fpu) :
    (c.secondRequest k e).1.portman = run PortManager.call k.portman
      (if c.isSymNat then
        if (k.socket2.init e.helperFd).2 then
          (k.socket2.init e.helperFd).1.managerCalls k.basePort e.helperDraw else []
      else []) ∧
    (c.secondRequest k e).1.basePort = k.basePort := by
  unfold secondRequest
  cases symmetric : c.isSymNat with
  | false => simp [setHelperSocket,symmetric]
  | true =>
    simp only [if_true]
    generalize k.socket2.init e.helperFd = created
    obtain ⟨helper,ready⟩ := created
    cases ready with
    | false => simp [setHelperSocket,symmetric]
    | true => simp [setHelperSocket,symmetric,UdpSocket.bindByPortman_manager]

theorem tryStartPsConnection_manager (k : PsConnecting) (r : PsBindReply) (e : PsStep fpu) :
    (c.tryStartPsConnection k r e).1.portman = run PortManager.call k.portman
      (if determineTargetPort fpu (ntohs r.addrOne.sinPort) (ntohs r.addrTwo.sinPort) r.t1 r.t2 scanRange
          e.timeNow ≠ 0 ∧ c.isSymNat then scanCalls k.basePort (List.ofFn e.scans) else []) ∧
    (c.tryStartPsConnection k r e).1.basePort = k.basePort := by
  unfold tryStartPsConnection
  simp only
  split
  · rename_i zero
    simp [zero]
  · rename_i target
    cases symmetric : c.isSymNat with
    | false =>
      simp only [Bool.false_eq_true,and_false,if_false,run_nil]
      split <;> exact ⟨rfl,rfl⟩
    | true =>
      have scanned (addr : SockaddrIn) :=
        c.openScanSockets_manager addr k.basePort k.portman (List.ofFn e.scans)
      simp only [target,ne_eq,not_false_eq_true,and_self,if_true]
      split
      · exact ⟨scanned _,rfl⟩
      · split
        · exact ⟨scanned _,rfl⟩
        · exact ⟨scanned _,rfl⟩
        · split <;> exact ⟨scanned _,rfl⟩

theorem connect_manager (k : PsConnecting) (e : PsStep fpu) :
    (c.connect k e).1.portman = run PortManager.call k.portman (c.roundCalls k e) ∧
      (c.connect k e).1.basePort = k.basePort := by
  cases progress : k.progress with
  | returned r =>
    rw [c.connect_returned k e r progress,roundCalls,progress]
    exact ⟨rfl,rfl⟩
  | awaitAck second =>
    cases second with
    | false =>
      rw [c.connect_awaitFirst k e progress,roundCalls,progress]
      cases e.outcome.carries with
      | false => exact ⟨rfl,rfl⟩
      | true =>
        have second := c.secondRequest_manager (heard k e.outcome) e
        simp only [true_and]
        exact second
    | true =>
      rw [c.connect_awaitSecond k e progress,roundCalls,progress]
      have kept (helper : UdpSocket) : (c.setHelperSocket k helper).portman = k.portman ∧
          (c.setHelperSocket k helper).basePort = k.basePort := by
        unfold setHelperSocket
        split <;> exact ⟨rfl,rfl⟩
      cases e.outcome.carries <;> exact kept _
  | receiving n =>
    rw [c.connect_receiving k n e progress,roundCalls,progress]
    cases c.handling k e.outcome with
    | replied =>
      have tried := c.tryStartPsConnection_manager (heard k e.outcome) (heard k e.outcome).message.psBindReply e
      simp only [handled]
      generalize c.tryStartPsConnection (heard k e.outcome) (heard k e.outcome).message.psBindReply e = attempt
        at tried ⊢
      split <;> exact tried
    | silent | costs | ignored | answered | responded => exact ⟨rfl,rfl⟩

theorem scanCalls_drawsFrom (basePort : UInt16) (calls : List (ScanCall fpu)) :
    ∀ call ∈ scanCalls basePort calls, DrawsFrom basePort call := by
  induction calls with
  | nil => exact fun call member => absurd member List.not_mem_nil
  | cons call rest ih =>
    cases found : call.fd with
    | none => simp [scanCalls,found,UdpSocket.init_create_none]
    | some fd =>
      simp only [scanCalls,found,UdpSocket.init_create_some,not_true_eq_false,if_false]
      exact List.forall_mem_append.mpr ⟨UdpSocket.managerCalls_drawsFrom _ _ _,ih⟩

theorem roundCalls_drawsFrom (k : PsConnecting) (e : PsStep fpu) :
    ∀ call ∈ c.roundCalls k e, DrawsFrom k.basePort call := by
  intro call member
  unfold roundCalls at member
  cases progress : k.progress with
  | returned r => simp [progress] at member
  | awaitAck second =>
    cases second with
    | true => simp [progress] at member
    | false =>
      simp only [progress] at member
      split at member
      · split at member
        · exact UdpSocket.managerCalls_drawsFrom _ _ _ call member
        · exact absurd member List.not_mem_nil
      · exact absurd member List.not_mem_nil
  | receiving n =>
    simp only [progress] at member
    split at member
    · split at member
      · exact scanCalls_drawsFrom _ _ call member
      · exact absurd member List.not_mem_nil
    · exact absurd member List.not_mem_nil

theorem outputs_drawsFrom (k : PsConnecting) (events : List (PsStep fpu)) :
    ∀ call ∈ outputs c.asking k events, DrawsFrom k.basePort call := by
  induction events generalizing k with
  | nil => exact fun call member => absurd member List.not_mem_nil
  | cons e events ih =>
    have later := ih (c.asking k e).1
    rw [show (c.asking k e).1.basePort = k.basePort from (c.connect_manager k e).2] at later
    exact List.forall_mem_append.mpr ⟨c.roundCalls_drawsFrom k e,later⟩

theorem outputs_returned (k : PsConnecting) (r : ConnectResult) (ended : k.progress = .returned r)
    (events : List (PsStep fpu)) : outputs c.asking k events = [] := by
  induction events generalizing k with
  | nil => rfl
  | cons e events ih =>
    have here : c.asking k e = (k,[]) := by
      rw [asking,c.connect_returned k e r ended,roundCalls,ended]
    rw [outputs_cons,here,ih k ended]
    rfl

/-- The calls of a whole attempt, the first one for the socket of the connection. -/
def attemptCalls (socket : UdpSocket) (portman : PortManager) (draw : Draw fpu) (sendOk : Bool)
    (events : List (PsStep fpu)) : List (ManagerCall fpu) :=
  socket.managerCalls 0 draw ++ outputs c.asking (c.start socket portman draw sendOk).1 events

theorem attemptCalls_manager (socket : UdpSocket) (portman : PortManager) (draw : Draw fpu)
    (sendOk : Bool) (events : List (PsStep fpu)) :
    (run c.connect (c.start socket portman draw sendOk).1 events).portman =
      run PortManager.call portman (c.attemptCalls socket portman draw sendOk events) := by
  rw [attemptCalls,run_append,← UdpSocket.bindByPortman_manager]
  have first : (c.start socket portman draw sendOk).1.portman = (socket.bindByPortman portman 0 draw).1 := rfl
  rw [← first]
  generalize (c.start socket portman draw sendOk).1 = k
  induction events generalizing k with
  | nil => rfl
  | cons e events ih =>
    rw [run_cons,outputs_cons,run_append,ih (c.connect k e).1,(c.connect_manager k e).1]
    rfl

end P2pPsConnector

/-- One base is taken, and everything after it from this base. -/
def OneBlock (log : List Assigned) : Prop :=
  ∃ base rest, log = .base base :: rest ∧ ∀ assigned ∈ rest, ∃ port, assigned = .fromBase base port

theorem outputs_fromBase (base : UInt16) (used : base ≠ 0) (p : PortManager) (calls : List (ManagerCall fpu))
    (all : ∀ call ∈ calls, DrawsFrom base call) :
    ∀ assigned ∈ outputs PortManager.call p calls, ∃ port, assigned = .fromBase base port := by
  induction calls generalizing p with
  | nil => exact fun assigned member => absurd member List.not_mem_nil
  | cons call calls ih =>
    obtain ⟨⟨d,rfl⟩,rest⟩ := List.forall_mem_cons.mp all
    rw [if_pos used]
    exact List.forall_mem_append.mpr ⟨fun assigned member => ⟨_,List.mem_singleton.mp member⟩,ih _ rest⟩

theorem outputs_newBase (p : PortManager) (calls : List (ManagerCall fpu))
    (all : ∀ call ∈ calls, DrawsFrom 0 call) (some_call : calls ≠ []) :
    ∃ port, Assigned.base port ∈ outputs PortManager.call p calls := by
  cases calls with
  | nil => exact absurd rfl some_call
  | cons call calls =>
    obtain ⟨d,rfl⟩ := all call (by simp)
    exact ⟨_,List.mem_append_left _ (List.mem_singleton.mpr rfl)⟩

namespace P2pPsConnector

variable (c : P2pPsConnector)

def DrawsAgain (sendOk : Bool) (events : List (PsStep fpu)) : Prop :=
  sendOk = true ∧ ∃ e rest, events = e :: rest ∧ e.outcome.carries = true ∧ e.helperFd ≠ none

theorem drawsAgain_iff (socket : UdpSocket) (portman : PortManager) (draw : Draw fpu) (sendOk : Bool)
    (events : List (PsStep fpu)) (symmetric : c.isSymNat = true) :
    outputs c.asking (c.start socket portman draw sendOk).1 events ≠ [] ↔ DrawsAgain sendOk events := by
  cases sendOk with
  | false =>
    refine iff_of_false (not_not_intro ?_) (fun again => absurd again.1 (by decide))
    exact c.outputs_returned _ .connectionError rfl events
  | true =>
    have waits : (c.start socket portman draw true).1.progress = .awaitAck false := rfl
    have created : (c.start socket portman draw true).1.socket2 = .create := rfl
    generalize (c.start socket portman draw true).1 = k at waits created
    cases events with
    | nil => exact iff_of_false (not_not_intro rfl) (by rintro ⟨_,e,rest,split,_⟩; cases split)
    | cons e rest =>
      have again : DrawsAgain true (e :: rest) ↔ e.outcome.carries = true ∧ e.helperFd ≠ none := by
        simp [DrawsAgain]
      rw [again,outputs_cons,asking,roundCalls,waits,c.connect_awaitFirst k e waits]
      simp only [symmetric,created,and_true]
      cases e.outcome.carries with
      | false =>
        refine iff_of_false (not_not_intro ?_) (fun both => absurd both.1 (by decide))
        exact c.outputs_returned _ .connectionError rfl rest
      | true =>
        cases found : e.helperFd with
        | none =>
          refine iff_of_false (not_not_intro ?_) (fun both => both.2 rfl)
          refine c.outputs_returned _ .connectionError ?_ rest
          have fresh : (heard k e.outcome).socket2 = .create := created
          simp [secondRequest,symmetric,fresh,found,UdpSocket.init_create_none]
        | some fd =>
          refine iff_of_true ?_ ⟨rfl,nofun⟩
          have asked := UdpSocket.managerCalls_ready ⟨true,.zero,.zero,fd⟩ rfl k.basePort e.helperDraw
          simp [UdpSocket.init_create_some,asked]

/-- An attempt keeps to one block exactly if its first bind succeeds, at a port that is not
zero, or is the only one. -/
theorem oneBlock_iff (socket : UdpSocket) (ready : socket.initialized = true) (portman : PortManager)
    (draw : Draw fpu) (sendOk : Bool) (events : List (PsStep fpu)) (symmetric : c.isSymNat = true) :
    OneBlock (outputs PortManager.call portman (c.attemptCalls socket portman draw sendOk events)) ↔
      (draw.bindOk = true ∧ (portman.assignNext draw).2 ≠ 0) ∨ ¬DrawsAgain sendOk events := by
  have first : socket.managerCalls 0 draw = [.assignNext draw] := by
    simp [UdpSocket.managerCalls,ready]
  have base : (c.start socket portman draw sendOk).1.basePort =
      if draw.bindOk then (portman.assignNext draw).2 else 0 := by
    simp [start,UdpSocket.bindByPortman,ready]
  have later := c.outputs_drawsFrom (c.start socket portman draw sendOk).1 events
  rw [base] at later
  rw [attemptCalls,first,← c.drawsAgain_iff socket portman draw sendOk events symmetric,not_not]
  generalize outputs c.asking (c.start socket portman draw sendOk).1 events = calls at later
  have split : outputs PortManager.call portman ([ManagerCall.assignNext draw] ++ calls) =
      Assigned.base (portman.assignNext draw).2 :: outputs PortManager.call (portman.assignNext draw).1 calls := rfl
  rw [split]
  by_cases good : draw.bindOk = true ∧ (portman.assignNext draw).2 ≠ 0
  · rw [if_pos good.1] at later
    exact iff_of_true ⟨_,_,rfl,outputs_fromBase _ good.2 _ calls later⟩ (Or.inl good)
  · have zero : (if draw.bindOk then (portman.assignNext draw).2 else 0) = 0 := by
      split
      · rename_i bound
        exact not_not.mp fun nonzero => good ⟨bound,nonzero⟩
      · rfl
    rw [zero] at later
    simp only [good,false_or]
    constructor
    · rintro ⟨first,rest,same,all⟩
      obtain ⟨_,rfl⟩ := List.cons.inj same
      by_contra some_call
      obtain ⟨port,member⟩ := outputs_newBase _ calls later some_call
      obtain ⟨other,different⟩ := all _ member
      cases different
    · rintro rfl
      exact ⟨_,[],rfl,fun assigned member => absurd member List.not_mem_nil⟩

theorem oneBlock_bound :
    let c : P2pPsConnector := ⟨⟨1,10⟩,⟨1,11⟩,7,true⟩
    let events := [readably (ackOf ⟨1,10⟩),readably (ackOf ⟨1,11⟩),readably (steadyReply ⟨1,10⟩ ⟨9,90⟩)]
    OneBlock (outputs PortManager.call .plain (c.attemptCalls ⟨true,.zero,.zero,3⟩ .plain .plain true events)) ↔
      (true = true ∧ (PortManager.plain.assignNext .plain).2 ≠ 0) ∨ ¬DrawsAgain true events :=
  oneBlock_iff ⟨⟨1,10⟩,⟨1,11⟩,7,true⟩ ⟨true,.zero,.zero,3⟩ rfl .plain .plain true
    [readably (ackOf ⟨1,10⟩),readably (ackOf ⟨1,11⟩),readably (steadyReply ⟨1,10⟩ ⟨9,90⟩)] rfl

/-- The first bind fails; the helper socket then opens a block of its own. -/
theorem unbound_not_oneBlock :
    let c : P2pPsConnector := ⟨⟨1,10⟩,⟨1,11⟩,7,true⟩
    let draw : Draw .exact := ⟨0,(0 : Rat),false⟩
    ¬OneBlock (outputs PortManager.call .plain
      (c.attemptCalls ⟨true,.zero,.zero,3⟩ .plain draw true [readably (ackOf ⟨1,10⟩)])) := by
  intro c draw one
  have again : DrawsAgain true [readably (ackOf ⟨1,10⟩)] := ⟨rfl,_,_,rfl,rfl,by simp [readably]⟩
  have some_call := (c.drawsAgain_iff ⟨true,.zero,.zero,3⟩ .plain draw true _ rfl).mpr again
  have later := c.outputs_drawsFrom (c.start ⟨true,.zero,.zero,3⟩ .plain draw true).1
    [readably (ackOf ⟨1,10⟩)]
  obtain ⟨port,member⟩ := outputs_newBase (PortManager.plain.assignNext draw).1 _ later some_call
  obtain ⟨base,rest,same,all⟩ := one
  obtain ⟨_,rfl⟩ := List.cons.inj same
  obtain ⟨other,different⟩ := all _ member
  cases different

end P2pPsConnector

end P2pStun
