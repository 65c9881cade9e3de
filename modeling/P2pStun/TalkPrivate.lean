import P2pStun.Talk

/-! A session that addresses its partner, and to which nothing but datagrams of the partner
is on its way, stays with the partner: the server has no more business with a client that it
introduced, and other clients have none either. -/
namespace P2pStun.Deployment
open ByteLayout CStrings Runs Handshake

variable {ι : Type} {d : Deployment ι} {m m' : Matching ι} {net : Network ι} {t : TalkNetwork ι} {i j : ι}

/-- All that is on its way to the client comes from the other one. -/
def Reserved (d : Deployment ι) (flight : List Packet) (i j : ι) : Prop :=
  ∀ p ∈ flight, p.dst = d.endpoint i → p.src = d.endpoint j

theorem reserved_erase {flight : List Packet} (position : Nat) (before : d.Reserved flight i j) :
    d.Reserved (flight.eraseIdx position) i j :=
  fun p member => before p (List.mem_of_mem_eraseIdx member)

theorem source_of_partner {p : Packet} {l : ι} (ok : d.PacketOk m p) (partners : m.partner i = some j)
    (source : p.src = d.endpoint l) (mine : p.dst = d.endpoint i) : p.src = d.endpoint j := by
  have partner {a : ι} (back : m.partner a = some i) : a = j :=
    Option.some.inj ((m.symmetric a i back).symm.trans partners)
  cases ok with
  | bindRequest a s msg => exact absurd mine.symm (d.apart i s)
  | ack a s msg => exact absurd source.symm (d.apart l s)
  | bindReply a b s msg => exact absurd source.symm (d.apart l s)
  | clientBindRequest a b msg typed own back =>
    obtain rfl := d.distinct mine
    exact congrArg d.endpoint (partner back)
  | clientBindResponse a b msg typed back =>
    obtain rfl := d.distinct mine
    exact congrArg d.endpoint (partner back)

theorem answers_free {q : Packet} {s : ServerSocket} {clock1 clock2 : UInt64} {fresh : Option Message} {x : Sent}
    (flown : q ∈ net.flight) (nonempty : ∀ p ∈ net.flight, ¬Typed p → p.payload ≠ [])
    (consistent : d.Consistent m net.silent)
    (sent : x ∈ (UdpServer.handle net.server ⟨s,q.payload,q.src,clock1,clock2,fresh⟩).2) :
    ∃ a, x.dest.endpoint = d.endpoint a ∧ m.partner a = none := by
  by_cases known : Typed q
  · have there : q ∈ net.silent.flight := List.mem_filter.mpr ⟨flown,by simpa using known⟩
    have idle (msg : Message) (content : q.payload = .ofMessage msg) (other : msg.type ≠ some .psBindRequest ∧
        msg.type ≠ some .bindRequest ∧ msg.type ≠ some .heartbeat) : False := by
      rw [UdpServer.handle_quiet] at sent
      · exact List.not_mem_nil sent
      · rw [UdpServer.buffer,content,Message.received_ofMessage]
        exact other
    cases consistent.packets q there with
    | bindRequest a s' msg typed =>
      have asks : (Payload.ofMessage msg).type = some .bindRequest := by simpa using typed
      let r : FullDatagram .bindRequest :=
        ⟨⟨s,.ofMessage msg,d.endpoint a,clock1,clock2,fresh⟩,by simp [Payload.ofMessage],asks⟩
      have requester : d.endpoint a ∈ requesters net.silent.flight :=
        List.mem_filterMap.mpr ⟨_,there,if_pos asks⟩
      obtain ⟨_,free,_⟩ := consistent.asking a requester
      have sent : x ∈ (UdpServer.plainHandle net.server.transactionClientMap (d.endpoint a)).2 := by
        rw [← (UdpServer.handle_bindRequest net.server r).2]
        exact sent
      unfold UdpServer.plainHandle at sent
      cases stored : net.server.transactionClientMap 0 with
      | none =>
        rw [stored] at sent
        rw [List.mem_singleton.mp sent]
        exact ⟨a,rfl,free⟩
      | some copeer =>
        obtain ⟨b,rfl,_,free'⟩ := consistent.stored copeer stored
        rw [stored] at sent
        simp only [List.mem_cons,List.not_mem_nil,or_false] at sent
        rcases sent with rfl | rfl | rfl
        · exact ⟨a,rfl,free⟩
        · exact ⟨a,rfl,free⟩
        · exact ⟨b,rfl,free'⟩
    | ack a s' msg typed => exact (idle msg rfl (by simp [typed])).elim
    | bindReply a b s' msg typed => exact (idle msg rfl (by simp [typed])).elim
    | clientBindRequest a b msg typed => exact (idle msg rfl (by simp [typed])).elim
    | clientBindResponse a b msg typed => exact (idle msg rfl (by simp [typed])).elim
  · have stray : q.payload.type = none := by simpa [Typed] using known
    rw [UdpServer.handle_stray _ _ stray (nonempty q flown known)] at sent
    exact absurd sent List.not_mem_nil

variable [DecidableEq ι]

theorem reserved_next (e : Event ι) (nonempty : ∀ p ∈ net.flight, ¬Typed p → p.payload ≠ [])
    (before : d.Consistent m net.silent) (grow : m ≤ m') (after : d.Consistent m' (d.next net e).silent)
    (partners : m.partner i = some j) (reserved : d.Reserved net.flight i j) :
    d.Reserved (d.next net e).flight i j := by
  intro p member mine
  rcases next_sent e member with old | ⟨typed,⟨l,source⟩ | ⟨q,flown,s,clock1,clock2,fresh,x,sent,dest⟩⟩
  · exact reserved p old mine
  · have ok := after.packets p (List.mem_filter.mpr ⟨member,by simpa using typed⟩)
    exact source_of_partner ok (grow i j partners) source mine
  · obtain ⟨a,answered,free⟩ := answers_free flown nonempty before sent
    obtain rfl := d.distinct (mine.symm.trans (dest.trans answered))
    rw [free] at partners
    contradiction

/-- The session addresses its partner, and nobody else has anything on its way to it. -/
structure Private (d : Deployment ι) (t : TalkNetwork ι) (i j : ι) : Prop where
  session : ∃ s, t.session i = some s ∧ s.target = (d.endpoint j).sockaddr
  reserved : d.Reserved t.net.flight i j

theorem private_session {l : ι} {s : Session} {next : Session × List Session.Output} (present : t.session l = some s)
    (partners : m.partner i = some j) (target : l = i → next.1.target = (d.endpoint j).sockaddr)
    (sends : ∀ x, Session.Output.sent x ∈ next.2 → ∃ e, x.dest = e.sockaddr ∧ d.Toward m l e)
    (before : d.Private t i j) : d.Private (d.setSession t l next).1 i j := by
  constructor
  case session =>
    by_cases own : i = l
    · subst l
      exact ⟨next.1,Function.update_self _ _ _,target rfl⟩
    · obtain ⟨s',present',aims⟩ := before.session
      exact ⟨s',(Function.update_of_ne own _ _).trans present',aims⟩
  case reserved =>
    intro p member mine
    rcases List.mem_append.mp member with old | new
    · exact before.reserved p old mine
    · obtain ⟨x,sent,rfl⟩ := List.mem_map.mp new
      obtain ⟨o,out,found⟩ := List.mem_filterMap.mp sent
      cases o with
      | logged input => contradiction
      | sent y =>
        cases found
        obtain ⟨e,dest,a,back,_,there | ⟨socket,there⟩⟩ := sends x out
        · rw [dest,Endpoint.sockaddr_endpoint,there] at mine
          obtain rfl := d.distinct mine
          exact congrArg d.endpoint (Option.some.inj ((m.symmetric l a back).symm.trans partners))
        · rw [dest,Endpoint.sockaddr_endpoint,there] at mine
          exact absurd mine.symm (d.apart i socket)

theorem private_beat {l : ι} {s : Session} (sendOk : Bool) (present : t.session l = some s)
    (talking : d.Talking m t) (partners : m.partner i = some j) (before : d.Private t i j) :
    let next := d.setSession t l (s.step (.beat sendOk))
    d.Private next.1 i j ∧ ∀ x, (i,Session.Output.sent x) ∈ next.2 → x.dest = (d.endpoint j).sockaddr := by
  intro next
  obtain ⟨s',present',aims⟩ := before.session
  have aims (own : l = i) : s.target = (d.endpoint j).sockaddr := by
    subst l
    rw [← Option.some.inj (present'.symm.trans present)]
    exact aims
  refine ⟨private_session present partners aims ?_ before,?_⟩
  · intro x sent
    obtain ⟨handle,same⟩ := Session.beat_sent sent
    cases same
    exact (talking.sessions l s present).1
  · intro x member
    obtain ⟨out,sent,same⟩ := List.mem_map.mp member
    obtain ⟨handle,rfl⟩ := Session.beat_sent sent
    cases same
    exact aims rfl

theorem private_hear {l : ι} {s : Session} {p : Packet} (position len : Nat) (input : Bytes 254)
    (whole : ReportsWhole len)
    (present : t.session l = some s) (found : t.net.flight[position]? = some p) (mine : p.dst = d.endpoint l)
    (partners : m.partner i = some j) (before : d.Private t i j) :
    let t' := {t with net := {t.net with flight := t.net.flight.eraseIdx position}}
    let next := d.setSession t' l (s.step (.hear (recvfrom p.payload p.src len) input))
    d.Private next.1 i j ∧ ∀ x, (i,Session.Output.sent x) ∈ next.2 → x.dest = (d.endpoint j).sockaddr := by
  intro t' next
  have erased : d.Private t' i j := ⟨before.session,reserved_erase position before.reserved⟩
  refine ⟨private_session (t := t') present partners ?_ ?_ erased,?_⟩
  · rintro rfl
    rw [Session.hear_target s p.payload p.src len input whole,
      before.reserved p (List.mem_of_getElem? found) mine]
  · intro x sent
    simp [Session.step] at sent
  · intro x member
    obtain ⟨out,sent,same⟩ := List.mem_map.mp member
    rw [Session.hear_logged] at sent
    rw [List.mem_singleton.mp sent] at same
    simp at same

theorem private_step (e : TalkEvent ι) (received : Received e) (talking : d.Talking m t) (grow : m ≤ m')
    (after : d.Talking m' (d.talkStep t e).1) (partners : m.partner i = some j) (before : d.Private t i j) :
    d.Private (d.talkStep t e).1 i j ∧
      ∀ x, (i,Session.Output.sent x) ∈ (d.talkStep t e).2 → x.dest = (d.endpoint j).sockaddr := by
  have stays : d.Private t i j ∧
      ∀ x, (i,Session.Output.sent x) ∈ ([] : List (ι × Session.Output)) → x.dest = (d.endpoint j).sockaddr :=
    ⟨before,fun x member => absurd member List.not_mem_nil⟩
  have connects (e : Event ι) (after : d.Consistent m' (d.next t.net e).silent) :
      d.Private {t with net := d.next t.net e} i j ∧
        ∀ x, (i,Session.Output.sent x) ∈ ([] : List (ι × Session.Output)) → x.dest = (d.endpoint j).sockaddr :=
    ⟨⟨before.session,reserved_next e talking.nonempty talking.consistent grow after partners before.reserved⟩,stays.2⟩
  obtain ⟨s',present',aims⟩ := before.session
  cases e with
  | connecting e =>
    cases e with
    | deliver l position len sendOk stack =>
      simp only [talkStep] at after ⊢
      cases absent : t.session l with
      | none =>
        rw [absent] at after
        exact connects _ after.consistent
      | some s => exact stays
    | call | wait | serve | lose => exact connects _ after.consistent
  | talk l interfaces stack =>
    simp only [talkStep]
    cases present : t.net.client l with
    | none => exact stays
    | some k =>
      cases absent : t.session l with
      | some s => exact stays
      | none =>
        by_cases good : k.progress = .returned .connectionSuccessful
        · simp only [good,if_true]
          have other : i ≠ l := by
            rintro rfl
            rw [absent] at present'
            contradiction
          exact ⟨⟨⟨s',(Function.update_of_ne other _ _).trans present',aims⟩,before.reserved⟩,stays.2⟩
        · simp only [good,if_false]
          exact stays
  | beat l sendOk =>
    simp only [talkStep]
    cases present : t.session l with
    | none => exact stays
    | some s => exact private_beat sendOk present talking partners before
  | hear l position len input =>
    simp only [talkStep]
    cases present : t.session l with
    | none => exact stays
    | some s =>
      cases found : t.net.flight[position]? with
      | none => exact stays
      | some p =>
        by_cases mine : p.dst = d.endpoint l
        · simp only [mine,if_true]
          exact private_hear position len input received present found mine partners before
        · simp only [mine,if_false]
          exact stays
  | fail l input => exact received.elim

omit [DecidableEq ι] in
theorem partner_of_target {s : Session} (talking : d.Talking m t) (present : t.session i = some s)
    (target : s.target = (d.endpoint j).sockaddr) : m.partner i = some j := by
  obtain ⟨⟨e,aims,a,partners,_,there | ⟨socket,there⟩⟩,_⟩ := talking.sessions i s present
  · have same := Endpoint.sockaddr_injective (target.symm.trans aims)
    rw [partners,d.distinct (same.trans there)]
  · have same := Endpoint.sockaddr_injective (target.symm.trans aims)
    exact absurd (same.trans there) (d.apart j socket)

/-- A session that addresses a client, with nothing from others on its way to it, sends to
that client from then on, whatever all others do. -/
theorem talk_private (d : Deployment ι) (before after : List (TalkEvent ι))
    (received : ∀ e ∈ before ++ after, Received e) (i j : ι) (s : Session)
    (present : (run d.talkStep .start before).session i = some s) (target : s.target = (d.endpoint j).sockaddr)
    (reserved : d.Reserved (run d.talkStep .start before).net.flight i j) :
    ∀ x, (i,Session.Output.sent x) ∈ outputs d.talkStep (run d.talkStep .start before) after →
      x.dest = (d.endpoint j).sockaddr := by
  obtain ⟨m,talking,_⟩ := talking_run (d := d) fun e member => received e (List.mem_append_left _ member)
  have all : Along d.talkStep (fun _ e => Received e) (run d.talkStep .start before) after :=
    along_of_forall _ _ fun e member _ => received e (List.mem_append_right _ member)
  have kept := history_along (fun past t => ∃ m, d.Talking m t ∧ m.partner i = some j ∧ d.Private t i j ∧
      ∀ x, (i,Session.Output.sent x) ∈ outputs d.talkStep (run d.talkStep .start before) past →
        x.dest = (d.endpoint j).sockaddr)
    ⟨m,talking,partner_of_target talking present target,⟨⟨s,present,target⟩,reserved⟩,by simp⟩ ?_ all
  · obtain ⟨_,_,_,_,sends⟩ := kept
    exact sends
  · rintro past e ⟨m,talking,partners,own,sends⟩ received
    obtain ⟨m',grow,after,_⟩ := talking_step e received talking
    obtain ⟨own',new⟩ := private_step e received talking grow after partners own
    refine ⟨m',after,grow i j partners,own',?_⟩
    intro x member
    rw [outputs_append,outputs_cons,outputs_nil,List.append_nil] at member
    rcases List.mem_append.mp member with old | sent
    · exact sends x old
    · exact new x sent

def settled : List (TalkEvent Bool) := [.beat true true,.hear false 0 16 fun _ => 1,.beat false true,.beat true true]

theorem settled_private :
    let out := outputs twoClients.talkStep (run twoClients.talkStep .start strayed) settled
    transcript out = [(true,.inl (twoClients.endpoint false)),(false,.inr (greeting 3)),
      (false,.inl (twoClients.endpoint true)),(true,.inl (twoClients.endpoint false))] ∧
    ∀ x, (true,Session.Output.sent x) ∈ out → x.dest = (twoClients.endpoint false).sockaddr := by
  have addresses : ((run twoClients.talkStep .start strayed).session true).map (·.target) =
      some (twoClients.endpoint false).sockaddr := by decide +kernel
  have silence : (run twoClients.talkStep .start strayed).net.flight.length = 0 := by decide +kernel
  obtain ⟨s,present,target⟩ := Option.map_eq_some_iff.mp addresses
  refine ⟨by decide +kernel,talk_private twoClients strayed settled ?_ true false s present target ?_⟩
  · simp [strayed,settled,Received,WholeAddress,ReportsWhole]
  · rw [List.eq_nil_of_length_eq_zero silence]
    intro p member
    exact absurd member List.not_mem_nil

end P2pStun.Deployment
