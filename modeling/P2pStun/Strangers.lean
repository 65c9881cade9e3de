import P2pStun.AckOrder

/-! Datagrams of strangers, inserted into the rounds of a call. In the receive loop an ack and
a reply or response from an unknown host are ignored; any other message costs an attempt,
and while `connect` waits for an ack any datagram is taken for it. -/
namespace P2pStun
open Runs

/-- A whole datagram without the id, from neither a server nor the target. -/
def StrangerTo (known : SockaddrIn → Prop) (id : UInt32) (k : Connecting) (e : ReceiveStep) : Prop :=
  FullLength e ∧ ∃ d, e.outcome = .datagram d ∧ ¬known d.source.sockaddr ∧
    ¬SameHost d.source.sockaddr k.socket.targetAddress ∧ d.payload.transactionId ≠ some id

def Unheeded (h : Handling) : Prop := h = .ignored ∨ h = .costs

theorem StrangerTo.carries {known : SockaddrIn → Prop} {id : UInt32} {k : Connecting} {e : ReceiveStep}
    (stranger : StrangerTo known id k e) : e.outcome.carries = true := by
  obtain ⟨whole,d,found,-⟩ := stranger
  have long := (whole d found).1
  cases content : d.payload with
  | nil => simp [content] at long
  | cons b rest => simp [found,RecvOutcome.carries,content]

theorem handlingOf_stranger {reply : MessageType} {known : SockaddrIn → Prop} [DecidablePred known]
    {id : UInt32} {k : Connecting} {e : ReceiveStep} (stranger : StrangerTo known id k e) :
    Unheeded (handlingOf reply known id k e.outcome) := by
  obtain ⟨whole,d,found,unknown,apart,without⟩ := stranger
  obtain ⟨long,reported⟩ := whole d found
  have nonempty : d.payload ≠ [] := by
    intro empty
    simp [empty] at long
  have noId : ntohl (k.took d).message.transactionId ≠ id := by
    intro same
    apply without
    rw [Payload.transactionId_received k.message d.payload (by omega)]
    exact congrArg some same
  rw [← took_peerAddress k d reported] at unknown apart
  simp only [found,handlingOf]
  cases d.payload.type with
  | none => exact Or.inr (if_neg nonempty)
  | some type =>
    by_cases replies : type = reply
    · exact Or.inl (by simp only [if_pos replies,if_neg unknown])
    · simp only [if_neg replies]
      cases type with
      | clientBindRequest => exact Or.inr (if_neg noId)
      | clientBindResponse => exact Or.inl (if_neg apart)
      | ack => exact Or.inl rfl
      | _ => exact Or.inr rfl

/-- Where a call can stand: waiting for an ack, or in the loop and not yet connected, or over. -/
structure Sound (k : Connecting) : Prop where
  placed : Placed k
  unconnected : Unconnected k

theorem Sound.alike {k j : Connecting} (sound : Sound k) (place : j.progress = k.progress)
    (state : j.state = k.state) : Sound j := by
  obtain ⟨placed,unconnected⟩ := sound
  constructor
  · rwa [Placed,Entered,place]
  · rwa [Unconnected,Receiving,place,state]

theorem Connecting.Alike.sound {k j : Connecting} (alike : k.Alike j) (sound : Sound k) : Sound j := by
  obtain ⟨peerAddress,message,rfl⟩ := alike
  exact sound.alike rfl rfl

theorem PsConnecting.Alike.sound {k j : PsConnecting} (alike : k.Alike j) (sound : Sound k.toConnecting) :
    Sound j.toConnecting := by
  obtain ⟨peerAddress,peerAddress2,message,-,rfl⟩ := alike
  exact sound.alike rfl rfl

theorem Sound.receiving {k : Connecting} (sound : Sound k) {n : Nat} (receiving : k.progress = .receiving n) :
    0 < n ∧ k.state ≠ .connected := by
  refine ⟨?_,sound.unconnected ⟨n,receiving⟩⟩
  rcases sound.placed with ⟨second,waits⟩ | ⟨m,positive,same⟩ | ⟨r,returned⟩
  · simp [receiving] at waits
  · rw [receiving] at same
    exact Progress.receiving.inj same ▸ positive
  · simp [receiving] at returned

namespace P2pConnector

variable (c : P2pConnector)

theorem start_sound (socket : UdpSocket) (sendOk : Bool) : Sound (c.start socket sendOk).1 :=
  ⟨c.run_placed socket sendOk [],(c.start_running socket sendOk).1⟩

theorem connect_sound (k : Connecting) (e : ReceiveStep) (sound : Sound k) : Sound (c.connect k e).1 :=
  ⟨c.connect_placed k e sound.placed,(c.connect_answers k e sound.unconnected).1⟩

/-- A stranger's datagram that does not pass is taken for the ack or costs an attempt,
and later rounds tell. -/
theorem passes_of_indistinct (k j : Connecting) (e : ReceiveStep) (alike : k.Alike j) (sound : Sound k)
    (stranger : StrangerTo (SameHost · c.stunServerAddr) c.transactionId k e)
    (same : Indistinct c.connect id id (c.connect k e).1 j) : c.Passes k e := by
  have place : j.progress = k.progress := alike.sameEnd.1.symm
  have apart {n : Nat} {s t : Connecting} (same : Indistinct c.connect id id s t)
      (fails : Fails n s) (lasts : Lasts n t) : False :=
    same.lasts_elim (c.probes ⟨0,0⟩) fullLength_quiet (fullLength_arrives _ _) fails lasts
  unfold Passes
  cases progress : k.progress with
  | awaitAck second =>
    refine apart same.symm (.waiting second (place.trans progress) one_pos) ⟨10,by decide,?_⟩
    rw [c.connect_awaitAck k e second progress,stranger.carries]
    rfl
  | receiving n =>
    obtain ⟨positive,unconnected⟩ := sound.receiving progress
    have unheeded : Unheeded (c.handling k e.outcome) := handlingOf_stranger stranger
    refine ⟨Nat.pos_iff_ne_zero.mp positive,unheeded.resolve_right fun costs => ?_⟩
    refine apart same ?_ ⟨n,Nat.sub_lt positive one_pos,place.trans progress⟩
    rw [c.connect_receiving k n e progress,costs]
    exact fails_again (n - 1) ((heard_state k e.outcome).trans_ne unconnected)
  | returned r => trivial

end P2pConnector

namespace P2pPsConnector

variable {fpu : FloatUnit} (c : P2pPsConnector)

theorem start_sound (socket : UdpSocket) (portman : PortManager) (draw : Draw fpu) (sendOk : Bool) :
    Sound (c.start socket portman draw sendOk).1.toConnecting :=
  ⟨c.run_placed socket portman draw sendOk [],(c.start_running socket portman draw sendOk).1⟩

theorem connect_sound (k : PsConnecting) (e : PsStep fpu) (sound : Sound k.toConnecting) :
    Sound (c.connect k e).1.toConnecting :=
  ⟨c.connect_placed k e sound.placed,(c.connect_answers k e sound.unconnected).1⟩

def acked (e : PsStep fpu) : PsStep fpu :=
  {e with toReceiveStep := ackOf c.stunServerAddress1, helperFd := some 4}

theorem secondRequest_acked (k : PsConnecting) (e : PsStep fpu) :
    (c.secondRequest k (c.acked e)).1.progress = .awaitAck true := by
  obtain ⟨connecting,⟨initialized,target,peer,handle⟩,basePort,portman⟩ := k
  cases sym : c.isSymNat with
  | false => simp [secondRequest,sym,acked,ackOf,arrives,UdpSocket.send]
  | true => cases initialized with
    | true | false => simp [secondRequest,sym,acked,ackOf,arrives,UdpSocket.init,UdpSocket.send]

theorem connect_acked (k : PsConnecting) (e : PsStep fpu) :
    (k.progress = .awaitAck false → (c.connect k (c.acked e)).1.progress = .awaitAck true) ∧
      (k.progress = .awaitAck true → (c.connect k (c.acked e)).1.progress = .receiving 5) := by
  have carries : (c.acked e).outcome.carries = true :=
    (servedBy_arrives (List.mem_singleton_self c.stunServerAddress1) (Message.type_setType _ _)).carries
  constructor
  · intro waits
    rw [c.connect_awaitFirst k _ waits,carries]
    exact c.secondRequest_acked _ e
  · intro waits
    rw [c.connect_awaitSecond k _ waits,carries]
    rfl

theorem passes_of_indistinct (k j : PsConnecting) (e : PsStep fpu) (alike : k.Alike j)
    (sound : Sound k.toConnecting)
    (stranger : StrangerTo c.FromServer c.transactionId k.toConnecting e.toReceiveStep)
    (same : Indistinct c.connect PsConnecting.toConnecting (@PsStep.toReceiveStep fpu) (c.connect k e).1 j) :
    c.Passes k e := by
  have place : j.progress = k.progress := alike.sameEnd.1.symm
  have apart {n : Nat} {s t : PsConnecting}
      (same : Indistinct c.connect PsConnecting.toConnecting (@PsStep.toReceiveStep fpu) s t)
      (fails : Fails n s.toConnecting) (lasts : Lasts n t.toConnecting) : False :=
    same.lasts_elim (c.probes e ⟨0,0⟩) fullLength_quiet (fullLength_arrives _ _) fails lasts
  have wholly : FullLength (c.acked e).toReceiveStep := fullLength_arrives _ _
  unfold Passes
  cases progress : k.progress with
  | awaitAck second => cases second with
    | false =>
      -- one more ack, or two, bring the call that has gone further into the loop
      have waits := (c.connect_acked j e).1 (place.trans progress)
      have acked := same.next wholly
      have moved : (c.connect k e).1.progress = .awaitAck true ∨
          (c.connect k e).1.progress = .returned .connectionError := by
        rw [c.connect_awaitFirst k e progress,stranger.carries]
        exact c.secondRequest_waits _ e
      rcases moved with again | ended
      · have entered := (c.connect_acked _ e).2 again
        exact apart acked.symm (.waiting true waits one_pos) ⟨5,by decide,entered⟩
      · have entered := (c.connect_acked _ e).2 waits
        have twice := acked.next wholly
        rw [c.connect_returned _ _ _ ended,c.connect_returned _ _ _ ended] at twice
        exact apart twice (.failed _ ended (by decide)) ⟨5,Nat.succ_pos 4,entered⟩
    | true =>
      refine apart same.symm (.waiting true (place.trans progress) one_pos) ⟨5,by decide,?_⟩
      rw [c.connect_awaitSecond k e progress,stranger.carries]
      rfl
  | receiving n =>
    obtain ⟨positive,unconnected⟩ := sound.receiving progress
    have unheeded : Unheeded (c.handling k e.outcome) := handlingOf_stranger stranger
    refine ⟨Nat.pos_iff_ne_zero.mp positive,unheeded.resolve_right fun costs => ?_⟩
    refine apart same ?_ ⟨n,Nat.sub_lt positive one_pos,place.trans progress⟩
    rw [c.connect_receiving k n e progress,costs]
    exact fails_again (n - 1) ((heard_state k.toConnecting e.outcome).trans_ne unconnected)
  | returned r => trivial

end P2pPsConnector

section Unmoved

variable {S E : Type} (m : Machine S E Outgoing) (view : S → Connecting) (round : E → ReceiveStep)

/-- At every point the call has the same outcome with the inserted datagrams and without
them, whatever whole datagrams come next. -/
def Unmoved (s : S) (events : List (E ⊕ E)) : Prop :=
  ∀ done, done <+: events → Indistinct m view round (run m s (done.map (Sum.elim id id)))
    (run m s (done.filterMap Sum.getLeft?))

variable {m view round} {R : S → S → Prop} {reads : S → S → E → Prop} {passes kind : S → E → Prop}

theorem unmoved_iff (symm : ∀ s t, R s t → R t s)
    (both : ∀ s t e, R s t → reads s t e → R (m s e).1 (m t e).1 ∧ (m s e).2 = (m t e).2)
    (passed : ∀ s t e, R s t → passes s e → R (m s e).1 t ∧ (m s e).2 = [])
    (ends : ∀ s t, R s t → SameEnd (view s) (view t))
    (wholly : ∀ s t e, FullLength (round e) → reads s t e)
    (sound : ∀ s t, R s t → Sound (view s) → Sound (view t))
    (keeps : ∀ s e, Sound (view s) → Sound (view (m s e).1))
    (noticed : ∀ s t e, R s t → Sound (view s) → kind s e → Indistinct m view round (m s e).1 t → passes s e)
    {s : S} (self : R s s) (start : Sound (view s)) (events : List (E ⊕ E)) :
    (Along (beside m m) (Strewn reads fun _ _ => True) (s,s) (events.map inserted) →
      Along (beside m m) (Passing passes) (s,s) (events.map inserted) → Unmoved m view round s events) ∧
    (Along (beside m m) (Strewn reads kind) (s,s) (events.map inserted) →
      (Unmoved m view round s events ↔ Along (beside m m) (Passing passes) (s,s) (events.map inserted))) := by
  have agree (s t : S) (alike : R s t ∧ Sound (view s)) : Indistinct m view round s t :=
    indistinct_of_alike both ends wholly s t alike.1
  have back (s t : S) (alike : R s t ∧ Sound (view s)) : R t s ∧ Sound (view t) :=
    ⟨symm s t alike.1,sound s t alike.1 alike.2⟩
  have taken (s t : S) (e : E) (alike : R s t ∧ Sound (view s)) (read : reads s t e) :
      (R (m s e).1 (m t e).1 ∧ Sound (view (m s e).1)) ∧ (m s e).2 = (m t e).2 := by
    obtain ⟨next,sent⟩ := both s t e alike.1 read
    exact ⟨⟨next,keeps s e alike.2⟩,sent⟩
  have stays (s t : S) (e : E) (alike : R s t ∧ Sound (view s)) (pass : passes s e) :
      (R (m s e).1 t ∧ Sound (view (m s e).1)) ∧ (m s e).2 = [] := by
    obtain ⟨next,silent⟩ := passed s t e alike.1 pass
    exact ⟨⟨next,keeps s e alike.2⟩,silent⟩
  constructor
  · exact inserted_agreed back taken stays agree ⟨self,start⟩ events
  · exact inserted_agreed_iff back taken stays agree
      (fun s t e alike => noticed s t e alike.1 alike.2) ⟨self,start⟩ events

end Unmoved

/-- For both connectors: inserted datagrams leave a call unmoved, whose other rounds read the
same without them, if they all pass. If they are strangers' they leave it so only then. -/
theorem strangers_pass_iff (socket : UdpSocket) (sendOk : Bool)
    (c : P2pConnector) (events : List (ReceiveStep ⊕ ReceiveStep))
    (fpu : FloatUnit) (p : P2pPsConnector) (portman : PortManager) (draw : Draw fpu)
    (psEvents : List (PsStep fpu ⊕ PsStep fpu)) :
    let s := (c.start socket sendOk).1
    let t := (p.start socket portman draw sendOk).1
    let strewn := fun kind => Along (beside c.connect c.connect)
      (Strewn (fun k j e => P2pConnector.ReadAlike k j e e) kind) (s,s) (events.map inserted)
    let psStrewn := fun kind => Along (beside p.connect p.connect)
      (Strewn (fun k j e => P2pPsConnector.ReadAlike k j e e) kind) (t,t) (psEvents.map inserted)
    let passing := Along (beside c.connect c.connect) (Passing c.Passes) (s,s) (events.map inserted)
    let psPassing := Along (beside p.connect p.connect) (Passing p.Passes) (t,t) (psEvents.map inserted)
    let unmoved := Unmoved c.connect id id s events
    let psUnmoved := Unmoved p.connect (·.toConnecting) (·.toReceiveStep) t psEvents
    (strewn (fun _ _ => True) → passing → unmoved) ∧
    (strewn (StrangerTo (SameHost · c.stunServerAddr) c.transactionId) → (unmoved ↔ passing)) ∧
    (psStrewn (fun _ _ => True) → psPassing → psUnmoved) ∧
    (psStrewn (fun k e => StrangerTo p.FromServer p.transactionId k.toConnecting e.toReceiveStep) →
      (psUnmoved ↔ psPassing)) := by
  intro s t strewn psStrewn passing psPassing unmoved psUnmoved
  obtain ⟨plainly,plainlyOnly⟩ := unmoved_iff (fun _ _ alike => alike.symm) c.connect_taken c.connect_passes
    (fun _ _ alike => alike.sameEnd) (fun k j e whole _ => readingOf_whole k j e whole)
    (fun _ _ alike => alike.sound) c.connect_sound c.passes_of_indistinct (alike_self s)
    (c.start_sound socket sendOk) events
  obtain ⟨scanning,scanningOnly⟩ := unmoved_iff (fun _ _ alike => alike.symm) p.connect_taken p.connect_passes
    (fun _ _ alike => alike.sameEnd)
    (fun k j e whole _ => readingOf_whole k.toConnecting j.toConnecting e.toReceiveStep whole)
    (fun _ _ alike => alike.sound) p.connect_sound p.passes_of_indistinct (psAlike_self t)
    (p.start_sound socket portman draw sendOk) psEvents
  exact ⟨plainly,plainlyOnly,scanning,scanningOnly⟩

theorem strangers_pass_ack :
    let c : P2pConnector := ⟨⟨1,10⟩,7⟩
    let p : P2pPsConnector := ⟨⟨1,10⟩,⟨1,11⟩,7,false⟩
    Unmoved c.connect id id (c.start .create true).1
        [.inl (ackOf ⟨1,10⟩),.inr (ackOf ⟨66,6⟩),.inl (requestOf 7 ⟨9,90⟩)] ∧
      Unmoved p.connect (·.toConnecting) (·.toReceiveStep) (p.start .create .plain .plain true).1
        [.inl (readably (ackOf ⟨1,10⟩)),.inl (readably (ackOf ⟨1,11⟩)),.inr (readably (ackOf ⟨66,6⟩)),
          .inl (readably (requestOf 7 ⟨9,90⟩))] := by
  intro c p
  have acks : ServedBy [⟨66,6⟩] .ack (ackOf ⟨66,6⟩) := servedBy_arrives (by decide) (by decide)
  have reads (k j : Connecting) (message : Message) (source : Endpoint) :
      P2pConnector.ReadAlike k j (arrives message source) (arrives message source) :=
    fun _ => readingOf_whole k j _ (fullLength_arrives message source)
  have psReads (k j : PsConnecting) (message : Message) (source : Endpoint) :
      P2pPsConnector.ReadAlike k j (readably (arrives message source)) (readably (arrives message source)) :=
    fun _ => readingOf_whole k.toConnecting j.toConnecting _ (fullLength_arrives message source)
  obtain ⟨plain,-,scanning,-⟩ := strangers_pass_iff .create true c
    [.inl (ackOf ⟨1,10⟩),.inr (ackOf ⟨66,6⟩),.inl (requestOf 7 ⟨9,90⟩)] .exact p .plain .plain
    [.inl (readably (ackOf ⟨1,10⟩)),.inl (readably (ackOf ⟨1,11⟩)),.inr (readably (ackOf ⟨66,6⟩)),
      .inl (readably (requestOf 7 ⟨9,90⟩))]
  have passes : c.Passes (run c.connect (c.start .create true).1 [ackOf ⟨1,10⟩]) (ackOf ⟨66,6⟩) :=
    c.passes_ack _ _ _ acks (Or.inl ⟨10,by decide,by decide +kernel⟩)
  have psPasses : p.Passes (run p.connect (p.start .create .plain .plain true).1
      [readably (ackOf ⟨1,10⟩),readably (ackOf ⟨1,11⟩)]) (readably (ackOf ⟨66,6⟩)) :=
    p.passes_ack _ _ _ acks (Or.inl ⟨5,by decide,by decide +kernel⟩)
  constructor
  · exact plain ⟨⟨rfl,reads _ _ _ _⟩,trivial,⟨rfl,reads _ _ _ _⟩,trivial⟩ ⟨trivial,passes,trivial,trivial⟩
  · exact scanning ⟨⟨rfl,psReads _ _ _ _⟩,⟨rfl,psReads _ _ _ _⟩,trivial,⟨rfl,psReads _ _ _ _⟩,trivial⟩
      ⟨trivial,trivial,psPasses,trivial,trivial⟩

theorem heartbeats_not_harmless :
    let c : P2pConnector := ⟨⟨1,10⟩,7⟩
    let s := (c.start .create true).1
    let alien := arrives (Message.zero.setType .heartbeat) ⟨66,6⟩
    let begun := [ackOf ⟨1,10⟩,bindReplyOf ⟨1,10⟩ ⟨9,90⟩]
    let last := requestOf 7 ⟨9,90⟩
    StrangerTo (SameHost · c.stunServerAddr) 7 (run c.connect s begun) alien ∧
      (run c.connect s (begun ++ [last])).progress = .returned .connectionSuccessful ∧
      (run c.connect s (begun ++ [alien,alien,alien,last])).progress = .returned .connectionFailed ∧
      ¬SameOutcome (run c.connect s (begun ++ [alien,alien,alien,last])) (run c.connect s (begun ++ [last])) := by
  refine ⟨⟨fullLength_arrives _ _,_,rfl,?_,?_,?_⟩,?_,?_,?_⟩
  · decide +kernel
  · decide +kernel
  · decide +kernel
  · decide +kernel
  · decide +kernel
  · decide +kernel

end P2pStun
