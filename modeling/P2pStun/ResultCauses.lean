import P2pStun.ReceiveLoop

/-! Whether the result of a call names what went wrong. The scanning connector does not
note that it acted upon a reply, takes a socket it cannot create for an unpredictable port,
and both take an empty datagram for none. -/
namespace P2pStun
open Runs

/-- What has happened in a call. -/
structure History where
  /-- initial exchanges with the server that received a datagram -/
  exchanges : Nat
  unheard : Bool
  requestUnsent : Bool
  socketFailed : Bool
  actedUpon : Bool
  handshake : Bool
deriving DecidableEq

namespace History

def begun (sendOk : Bool) : History := ⟨0,false,!sendOk,false,false,false⟩

def exchange (h : History) : RecvOutcome → History
  | .datagram _ => {h with exchanges := h.exchanges + 1}
  | _ => {h with unheard := true}

/-- Each failure is returned exactly if it happened. -/
structure Reported (h : History) (exchanges : Nat) (r : ConnectResult) : Prop where
  noMatch : r = .connectionFailedNoServerMatchInTime ↔
    h.exchanges = exchanges ∧ h.handshake = false ∧ h.actedUpon = false
  failed : r = .connectionFailed ↔
    h.actedUpon = true ∧ h.handshake = false ∧ h.socketFailed = false
  error : r = .connectionError ↔
    h.socketFailed = true ∨ h.requestUnsent = true ∨ h.unheard = true

theorem reported_iff (h : History) (exchanges : Nat) (r : ConnectResult) :
    h.Reported exchanges r ↔
      (r = .connectionFailedNoServerMatchInTime ↔
        h.exchanges = exchanges ∧ h.handshake = false ∧ h.actedUpon = false) ∧
      (r = .connectionFailed ↔
        h.actedUpon = true ∧ h.handshake = false ∧ h.socketFailed = false) ∧
      (r = .connectionError ↔
        h.socketFailed = true ∨ h.requestUnsent = true ∨ h.unheard = true) :=
  ⟨fun all => ⟨all.noMatch,all.failed,all.error⟩,fun ⟨noMatch,failed,error⟩ => ⟨noMatch,failed,error⟩⟩

instance (h : History) (exchanges : Nat) (r : ConnectResult) : Decidable (h.Reported exchanges r) :=
  decidable_of_iff _ (h.reported_iff exchanges r).symm

end History

section Calls

variable {S E : Type} (m : Machine S E Outgoing) (note : History → S → E → History)

def told : Machine (S × History) E Outgoing := fun s e =>
  (((m s.1 e).1,note s.2 s.1 e),(m s.1 e).2)

variable {m note} {view : S → Connecting} {honest : S × History → E → Prop}

theorem run_told (note : History → S → E → History) (s : S × History) (events : List E) :
    (run (told m note) s events).1 = run m s.1 events := by
  simpa using run_view (m := told m note) Prod.fst id (fun _ _ => rfl) s events

def Running (k : Connecting) : Prop := ∀ r, k.progress ≠ .returned r

theorem running_honest (Inv : S × History → Prop)
    (stays : ∀ s e r, (view s).progress = .returned r → (m s e).1 = s)
    (goes_on : ∀ s e, Running (view s.1) → Inv s → Running (view (m s.1 e).1) →
      honest s e ∧ Inv (told m note s e).1)
    (s : S × History) (start : Inv s) (events : List E)
    (running : Running (view (run (told m note) s events).1)) :
    Inv (run (told m note) s events) ∧ Along (told m note) honest s events := by
  refine history_invariant (fun past t => Running (view t.1) → Inv t ∧ Along (told m note) honest s past)
    (fun _ => ⟨start,trivial⟩) ?_ events running
  intro past e earlier after
  have before : Running (view (run (told m note) s past).1) := by
    intro r ended
    refine after r ?_
    rw [show (told m note (run (told m note) s past) e).1.1 = (m (run (told m note) s past).1 e).1 from rfl,
      stays _ e r ended,ended]
  obtain ⟨invariant,honest_before⟩ := earlier before
  obtain ⟨honest_now,next⟩ := goes_on _ e before invariant after
  exact ⟨next,(along_append _ _ _).mpr ⟨honest_before,honest_now,trivial⟩⟩

/-- Where the step that ends a call is honest exactly if the result is reported, the whole
call is. -/
theorem reported_iff_along (exchanges : Nat) (Inv : S × History → Prop)
    (stays : ∀ s e r, (view s).progress = .returned r → (m s e).1 = s)
    (goes_on : ∀ s e, Running (view s.1) → Inv s → Running (view (m s.1 e).1) →
      honest s e ∧ Inv (told m note s e).1)
    (ends : ∀ s e r, Running (view s.1) → Inv s → (view (m s.1 e).1).progress = .returned r →
      ((note s.2 s.1 e).Reported exchanges r ↔ honest s e))
    (s : S × History) (start : Running (view s.1) → Inv s)
    (at_once : ∀ r, (view s.1).progress = .returned r → s.2.Reported exchanges r)
    (events : List E) (r : ConnectResult)
    (returns : Returns m view s.1 events r) :
    (run (told m note) s events).2.Reported exchanges r ↔ Along (told m note) honest s events := by
  obtain ⟨ended,first⟩ := returns
  simp only [← run_told note] at ended first
  rcases List.eq_nil_or_concat' events with rfl | ⟨before,e,rfl⟩
  · exact iff_of_true (at_once r ended) trivial
  · have running : Running (view (run (told m note) s before).1) := fun q => first before e q rfl
    have begun : Running (view s.1) := by
      intro q already
      have still : (run (told m note) s before).1 = s.1 :=
        history_invariant (fun _ (t : S × History) => t.1 = s.1) rfl
          (fun past f same => (stays _ f q (by rw [same,already])).trans same) before
      exact running q (by rw [still,already])
    obtain ⟨invariant,honest_before⟩ := running_honest Inv stays goes_on s (start begun) before running
    rw [run_concat] at ended ⊢
    have last : (told m note (run (told m note) s before) e).1.2.Reported exchanges r ↔
        honest (run (told m note) s before) e := ends _ e r running invariant ended
    rw [last,along_append,along_cons]
    exact ⟨fun now => ⟨honest_before,now,trivial⟩,fun all => all.2.1⟩

end Calls

/-- No empty datagram where the server is to be heard for the first time. -/
def HeardContent (k : Connecting) (e : ReceiveStep) : Prop :=
  (∃ second, k.progress = .awaitAck second) → ∀ d, e.outcome = .datagram d → d.payload ≠ []

theorem heardContent_waiting {k : Connecting} {second : Bool} (waits : k.progress = .awaitAck second)
    (e : ReceiveStep) : HeardContent k e ↔ ∀ d, e.outcome = .datagram d → d.payload ≠ [] :=
  ⟨fun heard => heard ⟨second,waits⟩,fun heard _ => heard⟩

theorem heardContent_receiving {k : Connecting} {n : Nat} (receiving : k.progress = .receiving n)
    (e : ReceiveStep) : HeardContent k e := by
  rintro ⟨second,waits⟩
  simp [receiving] at waits

theorem exchange_cases (o : RecvOutcome) (h : History) :
    (o.carries = true ∧ (∀ d, o = .datagram d → d.payload ≠ []) ∧
      h.exchange o = {h with exchanges := h.exchanges + 1}) ∨
    (o.carries = false ∧ (∀ d, o = .datagram d → d.payload ≠ []) ∧
      h.exchange o = {h with unheard := true}) ∨
    (o.carries = false ∧ (¬∀ d, o = .datagram d → d.payload ≠ []) ∧
      h.exchange o = {h with exchanges := h.exchanges + 1}) := by
  cases o with
  | timeout => exact Or.inr (Or.inl ⟨rfl,nofun,rfl⟩)
  | error => exact Or.inr (Or.inl ⟨rfl,nofun,rfl⟩)
  | datagram d =>
    by_cases empty : d.payload = []
    · exact Or.inr (Or.inr ⟨by simp [RecvOutcome.carries,empty],fun all => all d rfl empty,rfl⟩)
    · exact Or.inl ⟨by simp [RecvOutcome.carries,empty],by rintro _ ⟨⟩; exact empty,rfl⟩

theorem again_returned {k : Connecting} {n : Nat} {r : ConnectResult}
    (ended : (k.again n).progress = .returned r) : n = 0 ∧ r = k.state.result := by
  rw [Connecting.again] at ended
  split at ended
  · rename_i none
    exact ⟨none,(Progress.returned.inj ended).symm⟩
  · simp at ended

theorem again_running {k : Connecting} {n : Nat} (running : Running (k.again n)) :
    n ≠ 0 ∧ (k.again n).progress = .receiving n := by
  rw [Connecting.again]
  split
  · rename_i none
    exact absurd (by rw [Connecting.again,if_pos none]) (running k.state.result)
  · rename_i more
    exact ⟨more,rfl⟩

namespace P2pConnector

variable (c : P2pConnector)

def note (h : History) (k : Connecting) (e : ReceiveStep) : History :=
  match k.progress with
  | .awaitAck _ => h.exchange e.outcome
  | .receiving _ => match c.handling k e.outcome with
    | .replied => {h with actedUpon := true}
    | .answered | .responded => {h with handshake := true}
    | _ => h
  | .returned _ => h

/-- What has happened, from where the call stands. -/
def Tells (s : Connecting × History) : Prop :=
  match s.1.progress with
  | .awaitAck _ => s.2 = .begun true
  | .receiving n => n ≠ 0 ∧ ∃ acted, s.2 = ⟨1,false,false,false,acted,false⟩ ∧
      s.1.state = if acted then .waitingForClientReply else .waitingForStunReply
  | .returned _ => True

theorem again_tells (k : Connecting) (n : Nat) (acted : Bool)
    (state : k.state = if acted then .waitingForClientReply else .waitingForStunReply) :
    (∀ r, (k.again n).progress = .returned r →
      History.Reported ⟨1,false,false,false,acted,false⟩ 1 r) ∧
    (Running (k.again n) → Tells (k.again n,⟨1,false,false,false,acted,false⟩)) := by
  constructor
  · intro r ended
    obtain ⟨_,rfl⟩ := again_returned ended
    rw [state,History.reported_iff]
    cases acted <;> simp [ConnectorState.result]
  · intro running
    obtain ⟨more,receiving⟩ := again_running running
    simp only [Tells,receiving]
    exact ⟨more,acted,rfl,state⟩

/-- A step that goes on keeps the account, one that ends the call reports it unless an
empty datagram ends the initial exchange. -/
theorem connect_tells (k : Connecting) (h : History) (e : ReceiveStep) (running : Running k)
    (tells : Tells (k,h)) :
    (Running (c.connect k e).1 → HeardContent k e ∧ Tells ((c.connect k e).1,c.note h k e)) ∧
    (∀ r, (c.connect k e).1.progress = .returned r →
      ((c.note h k e).Reported 1 r ↔ HeardContent k e)) := by
  cases progress : k.progress with
  | returned r => exact absurd progress (running r)
  | awaitAck second =>
    simp only [Tells,progress] at tells
    rw [c.connect_awaitAck k e second progress,heardContent_waiting progress,note,progress,tells]
    rcases exchange_cases e.outcome (.begun true) with
      ⟨carries,heard,after⟩ | ⟨carries,heard,after⟩ | ⟨carries,unheard,after⟩
    · simp only [carries,if_true,after]
      exact ⟨fun _ => ⟨heard,by decide,false,rfl,rfl⟩,nofun⟩
    · simp only [carries,after]
      refine ⟨fun going => absurd rfl (going .connectionError),?_⟩
      rintro r ⟨⟩
      exact iff_of_true (by simp [History.reported_iff,History.begun]) heard
    · simp only [carries,after]
      refine ⟨fun going => absurd rfl (going .connectionError),?_⟩
      rintro r ⟨⟩
      exact iff_of_false (by simp [History.reported_iff,History.begun]) unheard
  | receiving n =>
    have content := heardContent_receiving progress e
    simp only [Tells,progress] at tells
    obtain ⟨more,acted,rfl,state⟩ := tells
    have kept : (k.heard e.outcome).state = k.state := by cases e.outcome <;> rfl
    have again (left : Nat) := again_tells (k.heard e.outcome) left acted (kept.trans state)
    rw [c.connect_receiving k n e progress,note,progress]
    simp only [content,true_and,iff_true]
    cases c.handling k e.outcome with
    | silent => exact ⟨(again (n - 1)).2,(again (n - 1)).1⟩
    | costs => exact ⟨(again (n - 1)).2,(again (n - 1)).1⟩
    | ignored => exact ⟨(again n).2,(again n).1⟩
    | replied =>
      have entered := again_tells ({k.heard e.outcome with
        socket := (k.heard e.outcome).socket.setTargetAddress (k.heard e.outcome).message.bindReply
        state := .waitingForClientReply}) 3 true rfl
      exact ⟨entered.2,entered.1⟩
    | answered | responded =>
      refine ⟨fun going => absurd rfl (going .connectionSuccessful),?_⟩
      rintro r ⟨⟩
      simp [History.reported_iff,ConnectorState.result]

end P2pConnector

namespace P2pPsConnector

variable {fpu : FloatUnit} (c : P2pPsConnector)

def scanTarget (fpu : FloatUnit) (r : PsBindReply) (timeNow : UInt64) : UInt16 :=
  determineTargetPort fpu (ntohs r.addrOne.sinPort) (ntohs r.addrTwo.sinPort) r.t1 r.t2 scanRange timeNow

def ScanFails (k : PsConnecting) (e : PsStep fpu) : Prop :=
  c.isSymNat = true ∧ scanTarget fpu (heard k e.outcome).message.psBindReply e.timeNow ≠ 0 ∧
    ∃ i, (e.scans i).fd = none

instance (k : PsConnecting) (e : PsStep fpu) : Decidable (c.ScanFails k e) :=
  inferInstanceAs (Decidable (_ ∧ _))

def note (h : History) (k : PsConnecting) (e : PsStep fpu) : History :=
  match k.progress with
  | .awaitAck false =>
    let h := h.exchange e.outcome
    if e.outcome.carries then
      if c.isSymNat = true ∧ e.helperFd = none then {h with socketFailed := true}
      else {h with requestUnsent := !e.sendOk}
    else h
  | .awaitAck true => h.exchange e.outcome
  | .receiving _ => match c.handling k e.outcome with
    | .replied => {h with actedUpon := true, socketFailed := decide (c.ScanFails k e)}
    | .answered | .responded => {h with handshake := true}
    | _ => h
  | .returned _ => h

def Tells (s : PsConnecting × History) : Prop :=
  match s.1.progress with
  | .awaitAck false => s.2 = .begun true ∧ s.1.socket2.initialized = false
  | .awaitAck true => s.2 = ⟨1,false,false,false,false,false⟩
  | .receiving n => n ≠ 0 ∧ s.1.state = .waitingForStunReply ∧
      ∃ acted, s.2 = ⟨2,false,false,false,acted,false⟩ ∧ (acted = true → n = 1)
  | .returned _ => True

/-- The branches that report another cause are not taken: an empty datagram, a scan whose
sockets cannot all be created, and an attempt lost after a reply was acted upon. -/
structure Honest (s : PsConnecting × History) (e : PsStep fpu) : Prop where
  content : HeardContent s.1.toConnecting e.toReceiveStep
  created : Receiving s.1.toConnecting → c.handling s.1 e.outcome = .replied → ¬c.ScanFails s.1 e
  prompt : Receiving s.1.toConnecting →
    c.handling s.1 e.outcome = .silent ∨ c.handling s.1 e.outcome = .costs → s.2.actedUpon = false

theorem openScanSockets_all (addr : SockaddrIn) (basePort : UInt16) (portman : PortManager)
    (calls : List (ScanCall fpu)) :
    (c.openScanSockets addr basePort portman calls).2.2.2 = true ↔ ∀ call ∈ calls, call.fd ≠ none := by
  induction calls generalizing portman with
  | nil => simp [openScanSockets]
  | cons call rest ih =>
    cases found : call.fd with
    | none => simp [openScanSockets,found,UdpSocket.init_create_none]
    | some fd => simp [openScanSockets,found,UdpSocket.init_create_some,ih]

theorem tryStartPsConnection_created (k : PsConnecting) (e : PsStep fpu) (r : PsBindReply)
    (success : (c.tryStartPsConnection k r e).2.1 = 1) :
    ¬(c.isSymNat = true ∧ scanTarget fpu r e.timeNow ≠ 0 ∧ ∃ i, (e.scans i).fd = none) := by
  rintro ⟨symmetric,target,i,failed⟩
  have short : ¬(c.openScanSockets {r.addrOne with sinPort := htons (scanTarget fpu r e.timeNow)}
      k.basePort k.portman (List.ofFn e.scans)).2.2.2 = true := by
    rw [openScanSockets_all]
    exact fun all => all (e.scans i) (List.mem_ofFn.mpr ⟨i,rfl⟩) failed
  simp only [scanTarget] at target short
  simp only [tryStartPsConnection,target,symmetric,short,Bool.false_eq_true,
    not_false_eq_true,if_true,if_false] at success
  exact absurd success (by decide)

theorem secondRequest_progress (k : PsConnecting) (e : PsStep fpu)
    (fresh : k.socket2.initialized = false) :
    (c.secondRequest k e).1.progress =
      if c.isSymNat = true ∧ e.helperFd = none then .returned .connectionError
      else if e.sendOk then .awaitAck true else .returned .connectionError := by
  cases symmetric : c.isSymNat with
  | false => cases sent : e.sendOk <;> simp [secondRequest,symmetric,UdpSocket.send,sent]
  | true =>
    cases found : e.helperFd with
    | none => simp [secondRequest,symmetric,UdpSocket.init,fresh,found]
    | some fd =>
      cases sent : e.sendOk <;>
        simp [secondRequest,symmetric,UdpSocket.init,fresh,found,UdpSocket.send,sent]

theorem again_tells (k : PsConnecting) (n : Nat) (acted : Bool) (state : k.state = .waitingForStunReply) :
    (∀ r, (again k n).progress = .returned r →
      (History.Reported ⟨2,false,false,false,acted,false⟩ 2 r ↔ acted = false)) ∧
    (Running (again k n).toConnecting → (acted = true → n = 1) →
      Tells (again k n,⟨2,false,false,false,acted,false⟩)) := by
  constructor
  · intro r ended
    obtain ⟨_,rfl⟩ := again_returned ended
    rw [state,History.reported_iff]
    cases acted <;> simp [ConnectorState.result]
  · intro running last
    obtain ⟨more,receiving⟩ := again_running running
    have stands : (again k n).progress = .receiving n := receiving
    simp only [Tells,stands]
    exact ⟨more,state,acted,rfl,last⟩

theorem connect_tells (k : PsConnecting) (h : History) (e : PsStep fpu) (running : Running k.toConnecting)
    (tells : Tells (k,h)) :
    (Running (c.connect k e).1.toConnecting →
      c.Honest (k,h) e ∧ Tells ((c.connect k e).1,c.note h k e)) ∧
    (∀ r, (c.connect k e).1.progress = .returned r →
      ((c.note h k e).Reported 2 r ↔ c.Honest (k,h) e)) := by
  cases progress : k.progress with
  | returned r => exact absurd progress (running r)
  | awaitAck second =>
    have honest_iff : c.Honest (k,h) e ↔ ∀ d, e.outcome = .datagram d → d.payload ≠ [] := by
      rw [← heardContent_waiting progress e.toReceiveStep]
      have outside : ¬Receiving k.toConnecting := by
        rintro ⟨n,receiving⟩
        simp [progress] at receiving
      exact ⟨fun honest => honest.content,
        fun content => ⟨content,fun inside => absurd inside outside,fun inside => absurd inside outside⟩⟩
    rw [honest_iff]
    cases second with
    | false =>
      simp only [Tells,progress] at tells
      obtain ⟨rfl,fresh⟩ := tells
      rw [c.connect_awaitFirst k e progress,note,progress]
      rcases exchange_cases e.outcome (.begun true) with
        ⟨carries,content,after⟩ | ⟨carries,content,after⟩ | ⟨carries,empty,after⟩
      · have goes := c.secondRequest_progress (heard k e.outcome) e fresh
        simp only [carries,if_true,after]
        by_cases failed : c.isSymNat = true ∧ e.helperFd = none
        · rw [if_pos failed] at goes ⊢
          refine ⟨fun going => absurd goes (going .connectionError),?_⟩
          intro r ended
          obtain rfl : ConnectResult.connectionError = r := Progress.returned.inj (goes.symm.trans ended)
          exact iff_of_true (by simp [History.reported_iff,History.begun]) content
        · rw [if_neg failed] at goes ⊢
          cases sent : e.sendOk with
          | true =>
            rw [sent,if_pos rfl] at goes
            refine ⟨fun _ => ⟨content,?_⟩,fun r ended => by simp [goes] at ended⟩
            simp only [Tells,goes]
            rfl
          | false =>
            rw [sent] at goes
            have ends : (c.secondRequest (heard k e.outcome) e).1.progress = .returned .connectionError := goes
            refine ⟨fun going => absurd ends (going .connectionError),?_⟩
            intro r ended
            obtain rfl : ConnectResult.connectionError = r := Progress.returned.inj (ends.symm.trans ended)
            exact iff_of_true (by simp [History.reported_iff,History.begun]) content
      · simp only [carries,after]
        refine ⟨fun going => absurd rfl (going .connectionError),?_⟩
        rintro r ⟨⟩
        exact iff_of_true (by simp [History.reported_iff,History.begun]) content
      · simp only [carries,after]
        refine ⟨fun going => absurd rfl (going .connectionError),?_⟩
        rintro r ⟨⟩
        exact iff_of_false (by simp [History.reported_iff,History.begun]) empty
    | true =>
      simp only [Tells,progress] at tells
      rw [c.connect_awaitSecond k e progress,note,progress,tells]
      rcases exchange_cases e.outcome ⟨1,false,false,false,false,false⟩ with
        ⟨carries,content,after⟩ | ⟨carries,content,after⟩ | ⟨carries,empty,after⟩
      · simp only [carries,if_true,after]
        exact ⟨fun _ => ⟨content,by decide,rfl,false,rfl,nofun⟩,nofun⟩
      · simp only [carries,after]
        refine ⟨fun going => absurd rfl (going .connectionError),?_⟩
        rintro r ⟨⟩
        exact iff_of_true (by simp [History.reported_iff]) content
      · simp only [carries,after]
        refine ⟨fun going => absurd rfl (going .connectionError),?_⟩
        rintro r ⟨⟩
        exact iff_of_false (by simp [History.reported_iff]) empty
  | receiving n =>
    have content : HeardContent k.toConnecting e.toReceiveStep := heardContent_receiving progress _
    have inside : Receiving k.toConnecting := ⟨n,progress⟩
    simp only [Tells,progress] at tells
    obtain ⟨more,state,acted,rfl,last⟩ := tells
    have kept : (heard k e.outcome).state = .waitingForStunReply := by
      rw [← state]
      cases e.outcome <;> rfl
    have again (left : Nat) := again_tells (heard k e.outcome) left acted kept
    rw [c.connect_receiving k n e progress,note,progress]
    cases handling : c.handling k e.outcome with
    | silent | costs =>
      have honest_iff : c.Honest (k,⟨2,false,false,false,acted,false⟩) e ↔ acted = false := by
        constructor
        · intro honest
          exact honest.prompt inside (by simp [handling])
        · intro before
          exact ⟨content,fun _ replied => by simp [handling] at replied,fun _ _ => before⟩
      rw [honest_iff]
      refine ⟨fun going => ?_,(again (n - 1)).1⟩
      have unlost : acted = false := by
        have left := (again_running going).1
        by_contra acting
        have one := last (by simpa using acting)
        omega
      exact ⟨unlost,(again (n - 1)).2 going (fun acting => by simp [unlost] at acting)⟩
    | ignored =>
      have honest : c.Honest (k,⟨2,false,false,false,acted,false⟩) e :=
        ⟨content,fun _ replied => by simp [handling] at replied,fun _ spent => by simp [handling] at spent⟩
      refine ⟨fun going => ⟨honest,(again n).2 going last⟩,?_⟩
      intro r ended
      exact absurd (again_returned ended).1 more
    | replied =>
      have honest_iff : c.Honest (k,⟨2,false,false,false,acted,false⟩) e ↔ ¬c.ScanFails k e := by
        constructor
        · intro honest
          exact honest.created inside handling
        · intro created
          exact ⟨content,fun _ _ => created,fun _ spent => by simp [handling] at spent⟩
      rw [honest_iff]
      have unchanged := c.tryStartPsConnection_state (heard k e.outcome) (heard k e.outcome).message.psBindReply e
      simp only [handled]
      split
      · rename_i success
        have created : ¬c.ScanFails k e := c.tryStartPsConnection_created _ e _ success
        have tells := again_tells _ 1 true (unchanged.trans kept)
        simp only [created,decide_false,not_false_eq_true,true_and,iff_true]
        refine ⟨fun going => tells.2 going (fun _ => rfl),?_⟩
        intro r ended
        exact absurd (again_returned ended).1 (by decide)
      · refine ⟨fun going => absurd rfl (going .connectionFailed),?_⟩
        rintro r ⟨⟩
        by_cases fails : c.ScanFails k e <;> simp [History.reported_iff,fails]
    | answered | responded =>
      have honest : c.Honest (k,⟨2,false,false,false,acted,false⟩) e :=
        ⟨content,fun _ replied => by simp [handling] at replied,fun _ spent => by simp [handling] at spent⟩
      refine ⟨fun going => absurd rfl (going .connectionSuccessful),?_⟩
      rintro r ⟨⟩
      exact iff_of_true (by simp [History.reported_iff,ConnectorState.result]) honest

end P2pPsConnector

theorem begun_reported (exchanges : Nat) (some_exchange : exchanges ≠ 0) :
    (History.begun false).Reported exchanges .connectionError := by
  simp [History.reported_iff,History.begun,Ne.symm some_exchange]

theorem P2pConnector.start_tells (c : P2pConnector) (socket : UdpSocket) (sendOk : Bool) :
    (Running (c.start socket sendOk).1 → Tells ((c.start socket sendOk).1,.begun sendOk)) ∧
    ∀ r, (c.start socket sendOk).1.progress = .returned r → (History.begun sendOk).Reported 1 r := by
  cases sendOk with
  | true => exact ⟨fun _ => rfl,nofun⟩
  | false =>
    refine ⟨fun running => absurd rfl (running .connectionError),?_⟩
    rintro r ⟨⟩
    exact begun_reported 1 (by decide)

theorem P2pPsConnector.start_tells {fpu : FloatUnit} (c : P2pPsConnector) (socket : UdpSocket)
    (portman : PortManager) (draw : Draw fpu) (sendOk : Bool) :
    (Running (c.start socket portman draw sendOk).1.toConnecting →
      Tells ((c.start socket portman draw sendOk).1,.begun sendOk)) ∧
    ∀ r, (c.start socket portman draw sendOk).1.progress = .returned r →
      (History.begun sendOk).Reported 2 r := by
  cases sendOk with
  | true => exact ⟨fun _ => ⟨rfl,rfl⟩,nofun⟩
  | false =>
    refine ⟨fun running => absurd rfl (running .connectionError),?_⟩
    rintro r ⟨⟩
    exact begun_reported 2 (by decide)

/-- For both connectors, a call that returns names what went wrong exactly if it was honest
at every step. -/
theorem connect_reported_iff (socket : UdpSocket) (sendOk : Bool)
    (c : P2pConnector) (events : List ReceiveStep) (r : ConnectResult)
    (fpu : FloatUnit) (p : P2pPsConnector) (portman : PortManager) (draw : Draw fpu)
    (psEvents : List (PsStep fpu)) (q : ConnectResult) :
    (Returns c.connect id (c.start socket sendOk).1 events r →
      ((run (told c.connect c.note) ((c.start socket sendOk).1,.begun sendOk) events).2.Reported 1 r ↔
        Along (told c.connect c.note) (fun s e => HeardContent s.1 e)
          ((c.start socket sendOk).1,.begun sendOk) events)) ∧
    (Returns p.connect (·.toConnecting) (p.start socket portman draw sendOk).1 psEvents q →
      ((run (told p.connect p.note) ((p.start socket portman draw sendOk).1,.begun sendOk) psEvents).2.Reported
          2 q ↔
        Along (told p.connect p.note) p.Honest
          ((p.start socket portman draw sendOk).1,.begun sendOk) psEvents)) := by
  constructor
  · intro returns
    obtain ⟨begins,at_once⟩ := c.start_tells socket sendOk
    exact reported_iff_along 1 P2pConnector.Tells
      (fun k e r ended => congrArg Prod.fst (c.connect_returned k e r ended))
      (fun s e running tells => (c.connect_tells s.1 s.2 e running tells).1)
      (fun s e r running tells => (c.connect_tells s.1 s.2 e running tells).2 r)
      ((c.start socket sendOk).1,.begun sendOk) begins at_once events r returns
  · intro returns
    obtain ⟨begins,at_once⟩ := p.start_tells socket portman draw sendOk
    exact reported_iff_along 2 P2pPsConnector.Tells
      (fun k e r ended => congrArg Prod.fst (p.connect_returned k e r ended))
      (fun s e running tells => (p.connect_tells s.1 s.2 e running tells).1)
      (fun s e r running tells => (p.connect_tells s.1 s.2 e running tells).2 r)
      ((p.start socket portman draw sendOk).1,.begun sendOk) begins at_once psEvents q returns

theorem connect_reported_announced :
    let c : P2pConnector := ⟨⟨1,10⟩,7⟩
    let p : P2pPsConnector := ⟨⟨1,10⟩,⟨1,11⟩,7,false⟩
    let s := (c.start .create true).1
    let t := (p.start .create .plain .plain true).1
    let events := [ackOf ⟨1,10⟩,bindReplyOf ⟨1,10⟩ ⟨9,90⟩,quiet,quiet,quiet]
    let psEvents := [readably (ackOf ⟨1,10⟩),readably (ackOf ⟨1,11⟩),readably (steadyReply ⟨1,10⟩ ⟨9,90⟩),
      readably (requestOf 7 ⟨9,90⟩)]
    (run (told c.connect c.note) (s,.begun true) events).2.Reported 1 .connectionFailed ∧
      Along (told c.connect c.note) (fun s e => HeardContent s.1 e) (s,.begun true) events ∧
      (run (told p.connect p.note) (t,.begun true) psEvents).2.Reported 2 .connectionSuccessful ∧
      Along (told p.connect p.note) p.Honest (t,.begun true) psEvents := by
  intro c p s t events psEvents
  have returns : Returns c.connect id s events .connectionFailed :=
    returns_concat _ [_,_,_,_] _ _ (.receiving 1) (by decide +kernel) nofun (by decide +kernel)
  have psReturns : Returns p.connect (·.toConnecting) t psEvents .connectionSuccessful :=
    returns_concat _ [_,_,_] _ _ (.receiving 1) (by decide +kernel) nofun (by decide +kernel)
  have reported : (run (told c.connect c.note) (s,.begun true) events).2.Reported 1 .connectionFailed := by
    decide +kernel
  have psReported : (run (told p.connect p.note) (t,.begun true) psEvents).2.Reported 2
      .connectionSuccessful := by decide +kernel
  obtain ⟨honest,psHonest⟩ := connect_reported_iff .create true c events .connectionFailed .exact p .plain .plain
    psEvents .connectionSuccessful
  exact ⟨reported,(honest returns).mp reported,psReported,(psHonest psReturns).mp psReported⟩

theorem actedUpon_not_reported :
    let c : P2pPsConnector := ⟨⟨1,10⟩,⟨1,11⟩,7,false⟩
    let start := (c.start .create .plain .plain true).1
    let events := [readably (ackOf ⟨1,10⟩),readably (ackOf ⟨1,11⟩),readably (steadyReply ⟨1,10⟩ ⟨9,90⟩),readably quiet]
    Returns c.connect (·.toConnecting) start events .connectionFailedNoServerMatchInTime ∧
      ¬(run (told c.connect c.note) (start,.begun true) events).2.Reported 2
        .connectionFailedNoServerMatchInTime := by
  constructor
  · exact returns_concat _ [_,_,_] _ _ (.receiving 1) (by decide +kernel) nofun (by decide +kernel)
  · decide +kernel

end P2pStun
