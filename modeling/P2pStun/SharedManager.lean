import P2pStun.OneBlock

/-! The threads of a process share one port manager. A thread takes the rounds of its
attempt one by one and makes the calls of a round to the manager one by one, so that calls
of other threads come in between.

A whole call to the manager is one step here, although it is several atomic ones. What the
threads send does not depend on the ports at all. For the ports nothing is lost either where
there is room for all blocks: no `assign_next` finds the counter below the lowest port then,
so each takes its base by a single addition, and every call writes to the entry of its own
base only. -/
namespace P2pStun
open Runs

variable {fpu : FloatUnit} {W : Type}

/-- The calls of the last round wait in `pending`; `replies` counts the ps_bind_replies that
were acted on. -/
structure Attempt (fpu : FloatUnit) where
  connector : P2pPsConnector
  connecting : PsConnecting
  pending : List (ManagerCall fpu)
  replies : Nat

inductive ThreadStep (fpu : FloatUnit)
  | start (c : P2pPsConnector) (socket : UdpSocket) (draw : Draw fpu) (sendOk : Bool)
  | round (e : PsStep fpu)
  | call
  | leave

inductive Act
  | assigned (assigned : Assigned)
  | sent (x : Outgoing)

namespace P2pPsConnector

def actsOn (c : P2pPsConnector) (k : PsConnecting) (o : RecvOutcome) : Bool :=
  match k.progress with
  | .receiving _ => c.handling k o = .replied
  | _ => false

end P2pPsConnector

namespace Attempt

def starts (c : P2pPsConnector) (socket : UdpSocket) (portman : PortManager) (draw : Draw fpu)
    (sendOk : Bool) : Attempt fpu × List Outgoing :=
  let (connecting,out) := c.start socket portman draw sendOk
  (⟨c,connecting,[],0⟩,out)

def takes (a : Attempt fpu) (e : PsStep fpu) : Attempt fpu × List Outgoing :=
  let (connecting,out) := a.connector.connect a.connecting e
  ({a with
      connecting := connecting
      pending := a.connector.roundCalls a.connecting e
      replies := if a.connector.actsOn a.connecting e.outcome then a.replies + 1 else a.replies},out)

def finished (a : Attempt fpu) : Bool :=
  match a.connecting.progress with
  | .returned _ => a.pending.isEmpty
  | _ => false

/-- A step of a thread, if it can take it. What its rounds keep of the manager is a copy
that is not used. -/
def next (manager : PortManager) : Option (Attempt fpu) → ThreadStep fpu →
    PortManager × Option (Attempt fpu) × List Act
  | none,.start c socket draw sendOk =>
    let (a,out) := starts c socket manager draw sendOk
    let calls := socket.managerCalls 0 draw
    (run PortManager.call manager calls,some a,
      (outputs PortManager.call manager calls).map .assigned ++ out.map .sent)
  | some a,.round e =>
    if a.pending.isEmpty then
      let (a,out) := a.takes e
      (manager,some a,out.map .sent)
    else (manager,some a,[])
  | some a,.call => match a.pending with
    | [] => (manager,some a,[])
    | call :: rest =>
      let (manager,assigned) := PortManager.call manager call
      (manager,some {a with pending := rest},assigned.map .assigned)
  | some a,.leave => if a.finished then (manager,none,[]) else (manager,some a,[])
  | a,_ => (manager,a,[])

end Attempt

structure Process (W : Type) (fpu : FloatUnit) where
  manager : PortManager
  attempt : W → Option (Attempt fpu)

namespace Process

def start (manager : PortManager) : Process W fpu := ⟨manager,fun _ => none⟩

def step [DecidableEq W] : Machine (Process W fpu) (W × ThreadStep fpu) (W × Act) := fun s (w,event) =>
  let (manager,a,acts) := Attempt.next s.manager (s.attempt w) event
  (⟨manager,Function.update s.attempt w a⟩,acts.map (w,·))

end Process

/-- All that an attempt knows apart from the port manager and the port it bound. -/
def PsConnecting.protocol (k : PsConnecting) : Connecting × UdpSocket := (k.toConnecting,k.socket2)

theorem PsConnecting.eq_of_protocol {k j : PsConnecting} (same : k.protocol = j.protocol) :
    j = {k with basePort := j.basePort, portman := j.portman} := by
  obtain ⟨connecting,socket2,base,portman⟩ := k
  obtain ⟨connecting',socket2',base',portman'⟩ := j
  obtain ⟨rfl,rfl⟩ := Prod.mk.inj same
  rfl

namespace P2pPsConnector

variable (c : P2pPsConnector) (k : PsConnecting) (base : UInt16) (portman : PortManager)

theorem openScanSockets_placed (addr : SockaddrIn) (base other : UInt16) (portman manager : PortManager)
    (calls : List (ScanCall fpu)) :
    (c.openScanSockets addr base portman calls).2 = (c.openScanSockets addr other manager calls).2 := by
  induction calls generalizing portman manager with
  | nil => rfl
  | cons call rest ih =>
    have same := ih ((UdpSocket.create.init call.fd).1.bindByPortman portman base call.draw).1
      ((UdpSocket.create.init call.fd).1.bindByPortman manager other call.draw).1
    simp only [openScanSockets]
    split
    · rfl
    · simp only [same]

theorem secondRequest_placed (e : PsStep fpu) :
    (c.secondRequest {k with basePort := base, portman := portman} e).1.protocol = (c.secondRequest k e).1.protocol ∧
      (c.secondRequest {k with basePort := base, portman := portman} e).2 = (c.secondRequest k e).2 := by
  unfold secondRequest
  cases symmetric : c.isSymNat with
  | false => simp [setHelperSocket,symmetric,PsConnecting.protocol]
  | true =>
    simp only [if_true]
    generalize k.socket2.init e.helperFd = created
    obtain ⟨helper,ready⟩ := created
    cases ready <;> simp [setHelperSocket,symmetric,PsConnecting.protocol]

theorem tryStartPsConnection_placed (r : PsBindReply) (e : PsStep fpu) :
    let j := {k with basePort := base, portman := portman}
    (c.tryStartPsConnection j r e).1.protocol = (c.tryStartPsConnection k r e).1.protocol ∧
      (c.tryStartPsConnection j r e).2 = (c.tryStartPsConnection k r e).2 := by
  intro j
  unfold tryStartPsConnection
  simp only
  split
  · exact ⟨rfl,rfl⟩
  · cases symmetric : c.isSymNat with
    | false =>
      simp only [Bool.false_eq_true,if_false]
      cases e.select <;> exact ⟨rfl,rfl⟩
    | true =>
      simp only [if_true,j]
      have same := c.openScanSockets_placed {r.addrOne with
        sinPort := htons (determineTargetPort fpu (ntohs r.addrOne.sinPort) (ntohs r.addrTwo.sinPort) r.t1 r.t2
          scanRange e.timeNow)} base k.basePort portman k.portman (List.ofFn e.scans)
      generalize c.openScanSockets _ base portman (List.ofFn e.scans) = opened at same ⊢
      generalize c.openScanSockets _ k.basePort k.portman (List.ofFn e.scans) = others at same ⊢
      obtain ⟨manager,sockets,out,all⟩ := opened
      obtain ⟨_,_,_,_⟩ := others
      cases same
      cases all with
      | false => exact ⟨rfl,rfl⟩
      | true =>
        cases e.select with
        | timeout | error => exact ⟨rfl,rfl⟩
        | ready readable =>
          cases found : sockets.find? (fun s => readable s.socketHandle) <;> simp [found,PsConnecting.protocol]

theorem connect_anywhere (e : PsStep fpu) :
    let j := {k with basePort := base, portman := portman}
    (c.connect j e).1.protocol = (c.connect k e).1.protocol ∧ (c.connect j e).2 = (c.connect k e).2 := by
  intro j
  cases progress : k.progress with
  | returned r =>
    rw [c.connect_returned k e r progress,c.connect_returned j e r progress]
    exact ⟨rfl,rfl⟩
  | awaitAck second =>
    cases second with
    | false =>
      rw [c.connect_awaitFirst k e progress,c.connect_awaitFirst j e progress]
      cases e.outcome.carries with
      | false => exact ⟨rfl,rfl⟩
      | true => exact c.secondRequest_placed (heard k e.outcome) base portman e
    | true =>
      rw [c.connect_awaitSecond k e progress,c.connect_awaitSecond j e progress]
      unfold heardByHelper helperSocket setHelperSocket
      cases e.outcome.carries <;> cases c.isSymNat <;> exact ⟨rfl,rfl⟩
  | receiving n =>
    rw [c.connect_receiving k n e progress,c.connect_receiving j n e progress]
    have same : c.handling j e.outcome = c.handling k e.outcome := rfl
    rw [same]
    cases c.handling k e.outcome with
    | replied =>
      obtain ⟨after,rest⟩ := c.tryStartPsConnection_placed (heard k e.outcome) base portman
        (heard k e.outcome).message.psBindReply e
      simp only [handled]
      have placed : heard j e.outcome = {heard k e.outcome with basePort := base, portman := portman} := rfl
      rw [placed]
      generalize c.tryStartPsConnection {heard k e.outcome with basePort := base, portman := portman} _ e = tried
        at after rest ⊢
      generalize c.tryStartPsConnection (heard k e.outcome) _ e = others at after rest ⊢
      obtain ⟨i,success,out⟩ := tried
      obtain ⟨i',_,_⟩ := others
      cases rest
      rw [PsConnecting.eq_of_protocol after]
      by_cases met : success = 1
      · simp only [met,if_true,again]
        exact ⟨rfl,trivial⟩
      · simp only [met,if_false]
        exact ⟨rfl,trivial⟩
    | silent | costs | ignored | answered | responded => exact ⟨rfl,rfl⟩

theorem managerCalls_length (s : UdpSocket) (base other : UInt16) (d : Draw fpu) :
    (s.managerCalls base d).length = (s.managerCalls other d).length := by
  unfold UdpSocket.managerCalls
  split_ifs <;> rfl

theorem scanCalls_length (base other : UInt16) (calls : List (ScanCall fpu)) :
    (scanCalls base calls).length = (scanCalls other calls).length := by
  induction calls with
  | nil => rfl
  | cons call rest ih =>
    simp only [scanCalls]
    split
    · rfl
    · rw [List.length_append,List.length_append,ih,managerCalls_length _ base other]

theorem roundCalls_placed (e : PsStep fpu) :
    (c.roundCalls {k with basePort := base, portman := portman} e).length = (c.roundCalls k e).length := by
  unfold roundCalls
  cases k.progress with
  | returned r => rfl
  | awaitAck second =>
    cases second with
    | true => rfl
    | false =>
      simp only
      split
      · split
        · exact managerCalls_length _ _ _ _
        · rfl
      · rfl
  | receiving n =>
    simp only
    have same : c.handling {k with basePort := base, portman := portman} e.outcome = c.handling k e.outcome := rfl
    rw [same]
    cases c.handling k e.outcome with
    | replied =>
      have read : (heard {k with basePort := base, portman := portman} e.outcome).message =
          (heard k e.outcome).message := rfl
      simp only [read]
      split_ifs
      · exact scanCalls_length _ _ _
      · rfl
    | silent | costs | ignored | answered | responded => rfl

end P2pPsConnector

namespace Attempt

def protocol (a : Attempt fpu) : P2pPsConnector × (Connecting × UdpSocket) × Nat × Nat :=
  (a.connector,a.connecting.protocol,a.pending.length,a.replies)

theorem pending_isEmpty (a : Attempt fpu) : a.pending.isEmpty = decide (a.protocol.2.2.1 = 0) := by
  cases found : a.pending <;> simp [protocol,found]

theorem finished_eq {a b : Attempt fpu} (same : a.protocol = b.protocol) : a.finished = b.finished := by
  have progress : a.connecting.progress = b.connecting.progress :=
    congrArg (fun p => p.2.1.1.progress) same
  unfold finished
  rw [pending_isEmpty,pending_isEmpty,progress,same]

theorem takes_protocol {a b : Attempt fpu} (same : a.protocol = b.protocol) (e : PsStep fpu) :
    (a.takes e).1.protocol = (b.takes e).1.protocol ∧ (a.takes e).2 = (b.takes e).2 := by
  obtain ⟨c,k,pending,replies⟩ := a
  obtain ⟨c',j,others,replies'⟩ := b
  obtain ⟨rfl,rest⟩ := Prod.mk.inj same
  obtain ⟨known,rest⟩ := Prod.mk.inj rest
  obtain ⟨_,rfl⟩ := Prod.mk.inj rest
  have placed := PsConnecting.eq_of_protocol known
  obtain ⟨after,sent⟩ := c.connect_anywhere k j.basePort j.portman e
  have calls := c.roundCalls_placed k j.basePort j.portman e
  have acts : c.actsOn {k with basePort := j.basePort, portman := j.portman} e.outcome = c.actsOn k e.outcome :=
    rfl
  rw [← placed] at after sent calls acts
  simp only [takes,protocol,after,sent,calls,acts]
  exact ⟨trivial,trivial⟩

theorem protocol_cases {a b : Option (Attempt fpu)} (alike : a.map protocol = b.map protocol) :
    (a = none ∧ b = none) ∨ ∃ x y, a = some x ∧ b = some y ∧ x.protocol = y.protocol := by
  cases a with
  | none =>
    cases b with
    | none => exact Or.inl ⟨rfl,rfl⟩
    | some y => contradiction
  | some x =>
    cases b with
    | none => contradiction
    | some y => exact Or.inr ⟨x,y,rfl,rfl,Option.some.inj alike⟩

def sent : Act → Option Outgoing
  | .assigned _ => none
  | .sent x => some x

@[simp] theorem sent_assigned (log : List Assigned) : (log.map Act.assigned).filterMap sent = [] := by
  simp [List.filterMap_map,sent,Function.comp_def]

@[simp] theorem sent_sent (out : List Outgoing) : (out.map Act.sent).filterMap sent = out := by
  simp [List.filterMap_map,sent,Function.comp_def]

theorem next_protocol (manager other : PortManager) {a b : Option (Attempt fpu)}
    (alike : a.map protocol = b.map protocol) (event : ThreadStep fpu) :
    (next manager a event).2.1.map protocol = (next other b event).2.1.map protocol ∧
      (next manager a event).2.2.filterMap sent = (next other b event).2.2.filterMap sent := by
  rcases protocol_cases alike with ⟨rfl,rfl⟩ | ⟨x,y,rfl,rfl,same⟩
  · cases event with
    | start c socket draw sendOk =>
      simp only [next,List.filterMap_append,sent_assigned,sent_sent]
      exact ⟨rfl,rfl⟩
    | round | call | leave => exact ⟨rfl,rfl⟩
  · cases event with
    | start => exact ⟨alike,rfl⟩
    | round e =>
      obtain ⟨after,out⟩ := takes_protocol same e
      have waiting : x.pending.isEmpty = y.pending.isEmpty := by
        rw [x.pending_isEmpty,y.pending_isEmpty,same]
      simp only [next,waiting]
      split
      · simp only [Option.map_some,sent_sent,after,out]
        exact ⟨trivial,trivial⟩
      · exact ⟨alike,rfl⟩
    | call =>
      have length : x.pending.length = y.pending.length := congrArg (fun p => p.2.2.1) same
      cases mine : x.pending with
      | nil =>
        have none_there : y.pending = [] := List.eq_nil_of_length_eq_zero (by rw [← length,mine]; rfl)
        simp only [next,mine,none_there]
        exact ⟨alike,trivial⟩
      | cons call rest =>
        cases others : y.pending with
        | nil => simp [mine,others] at length
        | cons call' rest' =>
          have left : rest.length = rest'.length := by simpa [mine,others] using length
          simp only [protocol,Prod.mk.injEq] at same
          simp only [next,mine,others,sent_assigned,Option.map_some,protocol,same,left]
          exact ⟨trivial,trivial⟩
    | leave =>
      simp only [next,finished_eq same]
      split
      · exact ⟨rfl,rfl⟩
      · exact ⟨alike,rfl⟩

end Attempt

namespace Process

variable [DecidableEq W]

def sentBy (w : W) : W × Act → Option Outgoing := fun (v,act) => if v = w then Attempt.sent act else none

def AlikeFor (w : W) (s t : Process W fpu) : Prop :=
  (s.attempt w).map Attempt.protocol = (t.attempt w).map Attempt.protocol

theorem sentBy_own (w : W) (acts : List Act) :
    (acts.map (w,·)).filterMap (sentBy w) = acts.filterMap Attempt.sent := by
  simp [List.filterMap_map,sentBy,Function.comp_def]

theorem sentBy_other {w v : W} (other : v ≠ w) (acts : List Act) :
    (acts.map (v,·)).filterMap (sentBy w) = [] := by
  simp [List.filterMap_map,sentBy,Function.comp_def,other]

theorem step_own (w : W) (s t : Process W fpu) (event : ThreadStep fpu) (alike : AlikeFor w s t) :
    AlikeFor w (step s (w,event)).1 (step t (w,event)).1 ∧
      (step s (w,event)).2.filterMap (sentBy w) = (step t (w,event)).2.filterMap (sentBy w) := by
  obtain ⟨after,out⟩ := Attempt.next_protocol s.manager t.manager alike event
  simp only [AlikeFor,step,Function.update_self,sentBy_own]
  exact ⟨after,out⟩

theorem step_other {w v : W} (other : v ≠ w) (s t : Process W fpu) (event : ThreadStep fpu)
    (alike : AlikeFor w s t) :
    AlikeFor w (step s (v,event)).1 t ∧ (step s (v,event)).2.filterMap (sentBy w) = [] := by
  simp only [AlikeFor,step,Function.update_of_ne other.symm,sentBy_other other]
  exact ⟨alike,trivial⟩

theorem calls_uninterrupted (s : Process W fpu) (w : W) (a : Attempt fpu) (present : s.attempt w = some a) :
    let t := run step s (List.replicate a.pending.length (w,.call))
    t.manager = run PortManager.call s.manager a.pending ∧ t.attempt w = some {a with pending := []} := by
  obtain ⟨c,k,pending,replies⟩ := a
  induction pending generalizing s with
  | nil => exact ⟨rfl,present⟩
  | cons call rest ih =>
    have first : step s (w,.call) = (⟨(PortManager.call s.manager call).1,
        Function.update s.attempt w (some ⟨c,k,rest,replies⟩)⟩,
        ((PortManager.call s.manager call).2.map Act.assigned).map (w,·)) := by
      simp only [step,present,Attempt.next]
    rw [List.length_cons,List.replicate_succ,run_cons,first,run_cons]
    exact ih ⟨_,_⟩ (Function.update_self _ _ _)

/-- Where nothing comes in between, the round of a thread does what `connect` does with the
manager of the process. -/
theorem round_uninterrupted (s : Process W fpu) (w : W) (a : Attempt fpu) (present : s.attempt w = some a)
    (idle : a.pending = []) (e : PsStep fpu) :
    let k := (a.connector.connect {a.connecting with portman := s.manager} e).1
    let t := run step s ((w,.round e) ::
      List.replicate (a.connector.roundCalls a.connecting e).length (w,.call))
    t.manager = k.portman ∧ (t.attempt w).map (·.connecting.protocol) = some k.protocol := by
  intro k t
  have first : step s (w,.round e) =
      (⟨s.manager,Function.update s.attempt w (some (a.takes e).1)⟩,((a.takes e).2.map Act.sent).map (w,·)) := by
    simp [step,present,Attempt.next,idle]
  obtain ⟨manager,stands⟩ := calls_uninterrupted (step s (w,.round e)).1 w (a.takes e).1
    (by rw [first]; exact Function.update_self _ _ _)
  have calls : t = run step (step s (w,.round e)).1 (List.replicate (a.takes e).1.pending.length (w,.call)) := rfl
  have ours := (a.connector.connect_anywhere a.connecting a.connecting.basePort s.manager e).1
  rw [calls,manager,stands,first]
  exact ⟨(a.connector.connect_manager {a.connecting with portman := s.manager} e).1.symm,congrArg some ours.symm⟩

/-- Whatever the other threads do and whatever ports are left, the datagrams of a thread and
the stand of its attempt are those it has in a process of its own. -/
theorem threads_independent (w : W) (p q : PortManager) (events : List (W × ThreadStep fpu)) :
    let own := events.filter (fun event => decide (event.1 = w))
    (outputs step (.start p) events).filterMap (sentBy w) = (outputs step (.start q) own).filterMap (sentBy w) ∧
      ((run step (.start p) events).attempt w).map Attempt.protocol =
        ((run step (.start q) own).attempt w).map Attempt.protocol := by
  intro own
  have kept (s t : Process W fpu) (event : W × ThreadStep fpu) (is : decide (event.1 = w) = true)
      (alike : AlikeFor w s t) : AlikeFor w (step s event).1 (step t event).1 ∧
        (step s event).2.filterMap (sentBy w) = (step t event).2.filterMap (sentBy w) := by
    obtain ⟨v,event⟩ := event
    obtain rfl : v = w := of_decide_eq_true is
    exact step_own v s t event alike
  have others (s t : Process W fpu) (event : W × ThreadStep fpu) (isNot : decide (event.1 = w) = false)
      (alike : AlikeFor w s t) : AlikeFor w (step s event).1 t ∧ (step s event).2.filterMap (sentBy w) = [] :=
    step_other (of_decide_eq_false isNot) s t event.2 alike
  have start : AlikeFor w (.start p : Process W fpu) (.start q) := rfl
  obtain ⟨alike,same⟩ := run_projected _ (sentBy w) kept others start events
  exact ⟨same,alike⟩

end Process

end P2pStun
