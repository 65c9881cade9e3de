import P2pStun.Deliveries

/-! Plain hole punching in a network that disturbs nothing: no datagram is lost, what the
server sends to a client arrives in that order, and no client runs out of attempts. Clients
that the server hears from one after the other then connect. -/
namespace P2pStun.Deployment
open Runs Handshake

variable {ι : Type}

section Answers

variable {d : Deployment ι} {m : Matching ι} {net : Network ι} {i : ι} {p : Packet} {before after : List Packet}

/-- The server takes the request `p` of client `i`. -/
structure Asking (d : Deployment ι) (m : Matching ι) (net : Network ι) (i : ι) (p : Packet)
    (before after : List Packet) : Prop where
  consistent : d.Consistent m net
  prompt : d.Prompt m net
  split : net.flight = before ++ p :: after
  source : p.src = d.endpoint i
  typed : p.payload.type = some .bindRequest

namespace Asking

variable {sent : List Sent} (asking : Asking d m net i p before after)

include asking

theorem mem_requesters (e : Endpoint) :
    e ∈ requesters net.flight ↔ e = d.endpoint i ∨ e ∈ requesters (before ++ after) := by
  rw [asking.split,requesters_append,requesters_append,← asking.source]
  simp only [requesters,List.filterMap_cons,asking.typed,if_true,List.mem_append,List.mem_cons]
  exact or_left_comm

theorem asks : d.endpoint i ∈ requesters net.flight := (asking.mem_requesters _).mpr (Or.inl rfl)

theorem silent : d.endpoint i ∉ requesters (before ++ after) := by
  have once := asking.consistent.once
  rw [asking.split,requesters_append] at once
  have moved : (requesters (p :: after)) = d.endpoint i :: requesters after := by
    simp [requesters,asking.typed,asking.source]
  rw [moved,List.nodup_middle,List.nodup_cons] at once
  rw [requesters_append]
  exact once.1

theorem answer {flight' : List Packet} (left : flight' = before ++ after ++ d.sentByServer sent) :
    Answer d.servers net.flight flight' p before after (d.sentByServer sent) where
  split := asking.split
  left := left
  source := asking.source ▸ d.endpoint_not_server i
  other := by
    intro type between same
    have same := Option.some.inj (asking.typed.symm.trans same)
    rcases between with rfl | rfl <;> contradiction
  own := by
    intro q member
    obtain ⟨x,_,rfl⟩ := List.mem_map.mp member
    exact (d.mem_servers _).mpr ⟨x.socket,rfl⟩

theorem answered {m' : Matching ι} {net' : Network ι} {gets : ι → List (Option MessageType)}
    (clients : net'.client = net.client) (flight : net'.flight = before ++ after ++ d.sentByServer sent)
    (first : ∀ x ∈ sent, x.socket = .first ∧ x.message.type ≠ some .bindRequest)
    (mail : ∀ l, inbox d.servers (d.sentByServer sent) (d.endpoint l) = gets l)
    (waiting : ∀ l, gets l ≠ [] → net.client l ≠ none ∧ d.endpoint l ∉ requesters (before ++ after))
    (single : ∀ l, net.client l ≠ none → m'.partner l = none → d.endpoint l ∉ requesters (before ++ after) →
      net'.server.transactionClientMap 0 = some (d.endpoint l).sockaddr ∧
        ((net.stage l = some .asked ∧ inbox d.servers net.flight (d.endpoint l) ++ gets l = [some .ack]) ∨
          (net.stage l = some .listening ∧ inbox d.servers net.flight (d.endpoint l) ++ gets l = [])))
    (paired : ∀ a b, m'.partner a = some b → (m.partner a = some b ∧ gets a = []) ∨ (m.partner a = none ∧
      ((net.stage a = some .asked ∧
          inbox d.servers net.flight (d.endpoint a) ++ gets a = [some .ack,some .bindReply]) ∨
        (net.stage a = some .listening ∧
          inbox d.servers net.flight (d.endpoint a) ++ gets a = [some .bindReply])))) : d.Prompt m' net' := by
  have answer := asking.answer flight
  have still (l : ι) : net'.stage l = net.stage l := by rw [Network.stage,Network.stage,clients]
  have mail' (l : ι) : inbox d.servers net'.flight (d.endpoint l) =
      inbox d.servers net.flight (d.endpoint l) ++ gets l := by
    rw [answer.inbox_answered,mail]
  have asked : requesters net'.flight = requesters (before ++ after) := by
    have none_asks : requesters (d.sentByServer sent) = [] := by
      rw [requesters,List.filterMap_eq_nil_iff]
      intro q member
      obtain ⟨x,sent,rfl⟩ := List.mem_map.mp member
      simp [(first x sent).2]
    rw [flight,requesters_append,none_asks,List.append_nil]
  constructor
  case oneSocket =>
    intro q member s source
    rw [flight] at member
    rcases List.mem_append.mp member with old | new
    · refine asking.prompt.oneSocket q ?_ s source
      rw [asking.split]
      rcases List.mem_append.mp old with early | late
      · exact List.mem_append_left _ early
      · exact List.mem_append_right _ (List.mem_cons_of_mem _ late)
    · obtain ⟨x,sent,rfl⟩ := List.mem_map.mp new
      rw [(first x sent).1]
  case absent =>
    intro l none_there
    rw [clients] at none_there
    rw [mail',asking.prompt.absent l none_there,List.nil_append]
    by_contra answered
    exact (waiting l answered).1 none_there
  case unserved =>
    intro l member
    rw [asked] at member
    obtain ⟨stage,empty⟩ := asking.prompt.unserved l ((asking.mem_requesters _).mpr (Or.inr member))
    rw [still,mail',empty,List.nil_append]
    refine ⟨stage,?_⟩
    by_contra answered
    exact (waiting l answered).2 member
  case single =>
    intro l
    rw [clients,asked,still,mail']
    exact single l
  case paired =>
    intro a b partners agree
    rw [Partners,still,still]
    rcases paired a b partners with ⟨old,empty⟩ | ⟨free,own⟩
    · exact answer.pair_others ⟨d.endpoint_not_server a,d.endpoint_not_server b⟩ ((mail a).trans empty)
        (asking.prompt.paired a b old agree)
    · rw [← mail'] at own
      refine .introduced own fun type between flown => ?_
      obtain ⟨q,member,source,dest,_⟩ := (answer.flies_answered between (d.endpoint_not_server a)).mp flown
      have ok := asking.consistent.packets q member
      cases ok with
      | bindRequest c s msg => exact d.apart b s dest.symm
      | ack c s msg => exact d.apart a s source.symm
      | bindReply c e s msg => exact d.apart a s source.symm
      | clientBindRequest c e msg _ _ partners' =>
        rw [d.distinct source,free] at partners'
        contradiction
      | clientBindResponse c e msg _ partners' =>
        rw [d.distinct source,free] at partners'
        contradiction

variable [DecidableEq ι] {r : FullDatagram .bindRequest} (source : r.source = d.endpoint i)

omit asking in
theorem inbox_sentByServer (j : ι) (msg : Message) (rest : List Sent) (l : ι) :
    inbox d.servers (d.sentByServer (⟨.first,(d.endpoint j).sockaddr,msg⟩ :: rest)) (d.endpoint l) =
      (if l = j then [msg.type] else []) ++ inbox d.servers (d.sentByServer rest) (d.endpoint l) := by
  by_cases same : l = j
  · subst l
    simp [inbox,FromServer,servers,sentByServer]
  · have other : d.endpoint j ≠ d.endpoint l := fun reached => same (d.distinct reached).symm
    simp [inbox,FromServer,servers,sentByServer,same,other]

include source

theorem prompt_stored (empty : net.server.transactionClientMap 0 = none) :
    d.Prompt m (d.serverStep {net with flight := before ++ after} r.toReceived) := by
  obtain ⟨called,alone,_⟩ := asking.consistent.asking i asking.asks
  obtain ⟨map,sent⟩ := UdpServer.handle_bindRequest net.server r
  rw [source,UdpServer.plainHandle,empty] at map sent
  have mail (l : ι) : inbox d.servers (d.sentByServer [UdpServer.ackPlain (d.endpoint i)]) (d.endpoint l) =
      if l = i then [some .ack] else [] := by
    rw [UdpServer.ackPlain,inbox_sentByServer]
    simp [UdpServer.ackMessage,sentByServer,inbox]
  have flight : (d.serverStep {net with flight := before ++ after} r.toReceived).flight =
      before ++ after ++ d.sentByServer [UdpServer.ackPlain (d.endpoint i)] := by
    rw [serverStep,sent]
  refine asking.answered rfl flight ?_ mail ?_ ?_ ?_
  · simp [UdpServer.ackPlain,UdpServer.ackMessage]
  · intro l answered
    split_ifs at answered with same
    · subst l
      exact ⟨called,asking.silent⟩
    · contradiction
  · intro l present free served
    simp only [serverStep,map,Function.update_self]
    by_cases same : l = i
    · obtain ⟨stage,none_before⟩ := asking.prompt.unserved i asking.asks
      simp [same,stage,none_before]
    · have unserved : d.endpoint l ∉ requesters net.flight := by
        rw [asking.mem_requesters,not_or]
        exact ⟨fun same' => same (d.distinct same'),served⟩
      rw [(asking.prompt.single l present free unserved).1] at empty
      contradiction
  · intro a b partners
    have other : a ≠ i := by
      rintro rfl
      rw [alone] at partners
      contradiction
    rw [if_neg other]
    exact Or.inl ⟨partners,rfl⟩

theorem prompt_joined {j : ι} (stored : net.server.transactionClientMap 0 = some (d.endpoint j).sockaddr)
    (apart : i ≠ j) (free : m.partner i = none) (free' : m.partner j = none) (present : net.client j ≠ none) :
    d.Prompt (m.join i j apart free free') (d.serverStep {net with flight := before ++ after} r.toReceived) := by
  obtain ⟨called,_⟩ := asking.consistent.asking i asking.asks
  obtain ⟨map,sent⟩ := UdpServer.handle_bindRequest net.server r
  rw [source,UdpServer.plainHandle,stored] at map sent
  have waits : d.endpoint j ∉ requesters net.flight := fun asks => (asking.consistent.asking j asks).2.2 stored
  let answers : List Sent := [UdpServer.ackPlain (d.endpoint i),
    ⟨.first,(d.endpoint i).sockaddr,UdpServer.bindReplyMessage (d.endpoint j).sockaddr⟩,
    ⟨.first,(d.endpoint j).sockaddr,UdpServer.bindReplyMessage (d.endpoint i).sockaddr⟩]
  have mail (l : ι) : inbox d.servers (d.sentByServer answers) (d.endpoint l) =
      if l = i then [some .ack,some .bindReply] else if l = j then [some .bindReply] else [] := by
    simp only [answers]
    rw [UdpServer.ackPlain,inbox_sentByServer,inbox_sentByServer,inbox_sentByServer]
    by_cases first : l = i
    · simp [first,apart,UdpServer.ackMessage,sentByServer,inbox]
    · by_cases second : l = j
      · simp [second,apart.symm,sentByServer,inbox]
      · simp [first,second,sentByServer,inbox]
  have flight : (d.serverStep {net with flight := before ++ after} r.toReceived).flight =
      before ++ after ++ d.sentByServer answers := by
    rw [serverStep,sent]
  refine asking.answered rfl flight ?_ mail ?_ ?_ ?_
  · simp [answers,UdpServer.ackPlain,UdpServer.ackMessage]
  · intro l answered
    split_ifs at answered with first second
    · subst l
      exact ⟨called,asking.silent⟩
    · subst l
      exact ⟨present,fun asks => waits ((asking.mem_requesters _).mpr (Or.inr asks))⟩
    · contradiction
  · intro l present' alone served
    have first : l ≠ i := by
      rintro rfl
      rw [m.join_left] at alone
      contradiction
    have second : l ≠ j := by
      rintro rfl
      rw [m.join_right] at alone
      contradiction
    rw [m.join_other apart free free' first second] at alone
    have unserved : d.endpoint l ∉ requesters net.flight := by
      rw [asking.mem_requesters,not_or]
      exact ⟨fun same => first (d.distinct same),served⟩
    have held := (asking.prompt.single l present' alone unserved).1
    rw [stored,Option.some.injEq] at held
    exact absurd (d.distinct (Endpoint.sockaddr_injective held)).symm second
  · intro a b partners
    by_cases first : a = i
    · subst a
      obtain ⟨stage,none_before⟩ := asking.prompt.unserved i asking.asks
      rw [if_pos rfl,none_before]
      exact Or.inr ⟨free,Or.inl ⟨stage,rfl⟩⟩
    · by_cases second : a = j
      · subst a
        rw [if_neg first,if_pos rfl]
        refine Or.inr ⟨free',?_⟩
        obtain ⟨_,⟨stage,one⟩ | ⟨stage,none_before⟩⟩ := asking.prompt.single j present free' waits
        · exact Or.inl ⟨stage,by rw [one]; rfl⟩
        · exact Or.inr ⟨stage,by rw [none_before]; rfl⟩
      · rw [m.join_other apart free free' first second] at partners
        rw [if_neg first,if_neg second]
        exact Or.inl ⟨partners,rfl⟩

end Asking

end Answers

section Calls

variable {d : Deployment ι} {m : Matching ι} {net : Network ι} {i : ι} {k : Connecting}
variable [DecidableEq ι] {next : Connecting × List Outgoing}

theorem prompt_call (socket : UdpSocket) (absent : net.client i = none) (consistent : d.Consistent m net)
    (prompt : d.Prompt m net) : d.Prompt m (d.setClient net i ((d.connector i).start socket true)) := by
  have free := consistent.idle i absent
  have mail (l : ι) : inbox d.servers (d.setClient net i ((d.connector i).start socket true)).flight (d.endpoint l) =
      inbox d.servers net.flight (d.endpoint l) := inbox_sentBy _ i l _
  have asks (e : Endpoint) : e ∈ requesters (d.setClient net i ((d.connector i).start socket true)).flight ↔
      e ∈ requesters net.flight ∨ e = d.endpoint i := by
    simp [setClient,requesters_append,requesters_start]
  have called {l : ι} (present : net.client l ≠ none) : l ≠ i := by
    rintro rfl
    exact present absent
  constructor
  case oneSocket =>
    intro q member s source
    rcases List.mem_append.mp member with old | new
    · exact prompt.oneSocket q old s source
    · obtain ⟨x,_,rfl⟩ := List.mem_map.mp new
      exact absurd source (d.apart i s)
  case absent =>
    intro l none_there
    have other : l ≠ i := by
      rintro rfl
      simp [setClient] at none_there
    rw [mail]
    exact prompt.absent l ((client_other other net.flight).symm.trans none_there)
  case unserved =>
    intro l member
    rw [mail]
    rcases (asks _).mp member with old | new
    · rw [← (prompt.unserved l old).1]
      exact ⟨stage_other (called (consistent.asking l old).1) net.flight,(prompt.unserved l old).2⟩
    · obtain rfl := d.distinct new
      exact ⟨(stage_own net.flight).trans rfl,prompt.absent l absent⟩
  case single =>
    intro l present alone served
    rw [asks,not_or] at served
    have other : l ≠ i := fun same => served.2 (same ▸ rfl)
    have stays : (d.setClient net i ((d.connector i).start socket true)).stage l = net.stage l :=
      stage_other other net.flight
    rw [mail,stays]
    exact prompt.single l (client_other other net.flight ▸ present) alone served.1
  case paired =>
    intro a b partners agree
    have other {a b : ι} (partners : m.partner a = some b) : a ≠ i := by
      rintro rfl
      rw [free] at partners
      contradiction
    have first := other partners
    have second := other (m.symmetric a b partners)
    have stays {l : ι} (other : l ≠ i) :
        (d.setClient net i ((d.connector i).start socket true)).stage l = net.stage l :=
      stage_other other net.flight
    rw [Partners,stays first,stays second]
    refine (prompt.paired a b partners agree).frame (mail a) ?_ ?_ ?_
    · exact fun _ _ flies => flies_append.mpr (Or.inl flies)
    · exact fun _ _ flies => flies_append.mpr (Or.inl flies)
    · intro _ _ flies
      rcases flies_append.mp flies with old | new
      · exact Or.inl old
      · exact absurd (flies_sentBy new) first

theorem prompt_stays (present : net.client i = some k) (stays : next.1.stage = k.stage)
    (sends : ∀ x ∈ next.2, x.payload.type = some .clientBindRequest ∧ k.stage = some .calling)
    (prompt : d.Prompt m net) : d.Prompt m (d.setClient net i next) := by
  have own : net.stage i = k.stage := by simp [Network.stage,present]
  have still (l : ι) : (d.setClient net i next).stage l = net.stage l := by
    by_cases same : l = i
    · subst l
      exact ((stage_own net.flight).trans stays).trans own.symm
    · exact stage_other same net.flight
  have there (l : ι) : (d.setClient net i next).client l = none ↔ net.client l = none := by
    by_cases same : l = i
    · subst l
      simp [setClient,present]
    · rw [show (d.setClient net i next).client l = net.client l from client_other same net.flight]
  have mail (l : ι) : inbox d.servers (d.setClient net i next).flight (d.endpoint l) =
      inbox d.servers net.flight (d.endpoint l) := inbox_sentBy _ i l _
  have quiet : ∀ p ∈ d.sentBy i next.2, p.payload.type = some .clientBindRequest ∧ k.stage = some .calling := by
    intro p member
    obtain ⟨x,sent,rfl⟩ := List.mem_map.mp member
    exact sends x sent
  have asked : requesters (d.setClient net i next).flight = requesters net.flight := by
    have none_asks : requesters (d.sentBy i next.2) = [] := by
      rw [requesters,List.filterMap_eq_nil_iff]
      intro q member
      rw [(quiet q member).1]
      rfl
    rw [setClient,requesters_append,none_asks,List.append_nil]
  constructor
  case oneSocket =>
    intro q member s source
    rcases List.mem_append.mp member with old | new
    · exact prompt.oneSocket q old s source
    · obtain ⟨x,_,rfl⟩ := List.mem_map.mp new
      exact absurd source (d.apart i s)
  case absent =>
    intro l
    rw [there,mail]
    exact prompt.absent l
  case unserved =>
    intro l
    rw [asked,still,mail]
    exact prompt.unserved l
  case single =>
    intro l
    rw [asked,still,mail,ne_eq,there]
    exact prompt.single l
  case paired =>
    intro a b partners agree
    rw [Partners,still,still]
    refine (prompt.paired a b partners agree).frame (mail a) ?_ ?_ ?_
    · exact fun _ _ flies => flies_append.mpr (Or.inl flies)
    · exact fun _ _ flies => flies_append.mpr (Or.inl flies)
    · intro type _ flies
      rcases flies_append.mp flies with old | new
      · exact Or.inl old
      · obtain rfl := flies_sentBy new
        obtain ⟨q,member,_,_,typed⟩ := new
        obtain ⟨request,calling⟩ := quiet q member
        rw [request] at typed
        exact Or.inr ⟨(Option.some.inj typed).symm,own.trans calling⟩

theorem prompt_wait (failed sendOk : Bool) (stack : Message)
    (patient : ∀ k, net.client i = some k → k.Patient) (prompt : d.Prompt m net) :
    d.Prompt m (d.clientStep net i ⟨if failed then .error [] else .timeout,sendOk,stack⟩) := by
  unfold clientStep
  cases present : net.client i with
  | none => exact prompt
  | some k =>
    have patient := patient k present
    cases progress : k.progress with
    | awaitAck second => simp [Connecting.Patient,progress] at patient
    | returned r =>
      have same : d.setClient net i (k,[]) = net := by
        simp [setClient,sentBy,← present]
      simp only [P2pConnector.connect_returned _ _ _ r progress,same]
      exact prompt
    | receiving attemptsLeft =>
      obtain ⟨n,rfl⟩ : ∃ n, attemptsLeft = n + 2 := by
        simp only [Connecting.Patient,progress] at patient
        exact ⟨attemptsLeft - 2,by omega⟩
      obtain ⟨stays,sends⟩ := wait_patient (d.connector i) stack progress failed sendOk
      exact prompt_stays present stays sends prompt

end Calls

/-- No send of a client fails outside a wait, no client runs out of attempts, nothing is
lost, senders are reported whole, and what the server sends to a client arrives in order. -/
def Undisturbed (d : Deployment ι) (net : Network ι) : Event ι → Prop
  | .call _ _ sendOk => sendOk = true
  | .wait i _ _ _ => match net.client i with
    | none => True
    | some k => k.Patient
  | .deliver _ position len sendOk _ => sendOk = true ∧ ReportsWhole len ∧
    match net.flight[position]? with
    | none => True
    | some p => p.src = d.server .first → ∀ q ∈ net.flight.take position, q.dst = p.dst → q.src ≠ p.src
  | .serve _ _ _ _ _ => True
  | .lose _ => False

instance (d : Deployment ι) (net : Network ι) : DecidablePred (d.Undisturbed net)
  | .call _ _ sendOk => inferInstanceAs (Decidable (sendOk = true))
  | .wait i _ _ _ => match present : net.client i with
    | none => isTrue (by simp [Undisturbed,present])
    | some k => decidable_of_iff k.Patient (by simp [Undisturbed,present])
  | .deliver _ position len sendOk _ => match found : net.flight[position]? with
    | none => decidable_of_iff (sendOk = true ∧ ReportsWhole len) (by simp [Undisturbed,found])
    | some p => decidable_of_iff (sendOk = true ∧ ReportsWhole len ∧
        (p.src = d.server .first → ∀ q ∈ net.flight.take position, q.dst = p.dst → q.src ≠ p.src))
        (by simp [Undisturbed,found])
  | .serve _ _ _ _ _ => isTrue trivial
  | .lose _ => isFalse id

/-- Clients are joined two and two in the order they were heard, the last one of an odd
number is stored. -/
structure TwoAndTwo (d : Deployment ι) (m : Matching ι) (held : Option SockaddrIn) (es : List Endpoint) : Prop where
  pairs : ∀ n i j, es[2 * n]? = some (d.endpoint i) → es[2 * n + 1]? = some (d.endpoint j) → m.partner i = some j
  joined : ∀ i j, m.partner i = some j → d.endpoint i ∈ es
  last : (held = none ∧ Even es.length) ∨ ∃ past i,
    es = past ++ [d.endpoint i] ∧ Even past.length ∧ held = some (d.endpoint i).sockaddr

section Pairs

variable {d : Deployment ι} {m : Matching ι} {es : List Endpoint} {i : ι}

theorem twoAndTwo_stored (before : d.TwoAndTwo m none es) :
    d.TwoAndTwo m (some (d.endpoint i).sockaddr) (es ++ [d.endpoint i]) := by
  have even : Even es.length := by
    rcases before.last with ⟨_,even⟩ | ⟨_,_,_,_,held⟩
    · exact even
    · contradiction
  constructor
  case pairs =>
    intro n a b first second
    have bound := (List.getElem?_eq_some_iff.mp second).1
    obtain ⟨half,length⟩ := even
    simp only [List.length_append,List.length_singleton] at bound
    rw [List.getElem?_append_left (by omega)] at first second
    exact before.pairs n a b first second
  case joined => exact fun a b partners => List.mem_append_left _ (before.joined a b partners)
  case last => exact Or.inr ⟨es,i,rfl,even,rfl⟩

theorem twoAndTwo_joined [DecidableEq ι] {j : ι} (before : d.TwoAndTwo m (some (d.endpoint j).sockaddr) es)
    (apart : i ≠ j) (free : m.partner i = none) (free' : m.partner j = none) :
    d.TwoAndTwo (m.join i j apart free free') none (es ++ [d.endpoint i]) := by
  obtain ⟨past,even,rfl⟩ : ∃ past, Even past.length ∧ es = past ++ [d.endpoint j] := by
    rcases before.last with ⟨held,_⟩ | ⟨past,l,rfl,even,held⟩
    · contradiction
    · rw [d.distinct (Endpoint.sockaddr_injective (Option.some.inj held))]
      exact ⟨past,even,rfl⟩
  obtain ⟨half,length⟩ := even
  constructor
  case pairs =>
    intro n a b first second
    have bound := (List.getElem?_eq_some_iff.mp second).1
    simp only [List.length_append,List.length_singleton] at bound
    by_cases earlier : 2 * n + 1 < past.length
    · rw [List.getElem?_append_left (by simp; omega)] at first second
      exact m.le_join apart free free' a b (before.pairs n a b first second)
    · obtain rfl : n = half := by omega
      have stored : (past ++ [d.endpoint j] ++ [d.endpoint i])[2 * n]? = some (d.endpoint j) := by
        simp [length,← two_mul]
      have latest : (past ++ [d.endpoint j] ++ [d.endpoint i])[2 * n + 1]? = some (d.endpoint i) := by
        simp [length,← two_mul]
      rw [stored,Option.some.injEq] at first
      rw [latest,Option.some.injEq] at second
      rw [← d.distinct first,← d.distinct second]
      exact m.join_right apart free free'
  case joined =>
    intro a b partners
    by_cases first : a = i
    · subst a
      simp
    · by_cases second : a = j
      · subst a
        simp
      · rw [m.join_other apart free free' first second] at partners
        exact List.mem_append_left _ (before.joined a b partners)
  case last => exact Or.inl ⟨rfl,by simp [length,Nat.even_add_one,parity_simps]⟩

end Pairs

/-- What holds of an undisturbed network that heard from the clients `es`. -/
structure Told (d : Deployment ι) (m : Matching ι) (net : Network ι) (es : List Endpoint) : Prop where
  consistent : d.Consistent m net
  prompt : d.Prompt m net
  inTurn : d.TwoAndTwo m (net.server.transactionClientMap 0) es

theorem told_start (d : Deployment ι) : Told d .empty Network.start [] where
  consistent := consistent_start
  prompt := {
    oneSocket := by simp [Network.start]
    absent := fun _ _ => rfl
    unserved := by simp [Network.start,requesters]
    single := by simp [Network.start]
    paired := by simp [Matching.empty] }
  inTurn := ⟨by simp,by simp [Matching.empty],Or.inl ⟨rfl,by simp⟩⟩

section Arrived

variable {d : Deployment ι} {m : Matching ι} {net : Network ι} {es : List Endpoint}

def Reaches (d : Deployment ι) (net : Network ι) (i j : ι) : Prop :=
  ∃ k, net.client i = some k ∧ Succeeded k ∧ k.socket.targetAddress = (d.endpoint j).sockaddr

theorem connected_of_arrived (told : Told d m net es) (arrived : net.flight = []) {i j : ι}
    (partners : m.partner i = some j) (agree : d.transactionId i = d.transactionId j) :
    d.Reaches net i j := by
  have here := told.prompt.paired i j partners agree
  have there := told.prompt.paired j i (m.symmetric i j partners) agree.symm
  have connected : net.stage i = some .connected := by
    refine here.connected there ⟨by rw [arrived]; rfl,by rw [arrived]; rfl⟩ fun type => ?_
    rw [arrived]
    exact ⟨not_flies_nil,not_flies_nil⟩
  obtain ⟨k,present,stage⟩ := Option.bind_eq_some_iff.mp connected
  have good := Connecting.stage_connected.mp stage
  obtain ⟨l,partners',_,target⟩ := (told.consistent.clients i k present).succeeded good
  rw [← Option.some.inj (partners.symm.trans partners')] at target
  exact ⟨k,present,good,target⟩

end Arrived

variable [DecidableEq ι] (d : Deployment ι)

def heard (net : Network ι) : Event ι → List Endpoint
  | .serve s position _ _ _ => match net.flight[position]? with
    | none => []
    | some p => if p.dst = d.server s then [p.src] else []
  | _ => []

def hearing : Machine (Network ι) (Event ι) Endpoint := fun net e => (d.next net e,d.heard net e)

variable {d} {m : Matching ι} {net : Network ι} {es : List Endpoint}

theorem told_serve (s : ServerSocket) (position : Nat) (clock1 clock2 : UInt64) (fresh : Option Message)
    (before : Told d m net es) : ∃ m', Told d m' (d.next net (.serve s position clock1 clock2 fresh))
      (es ++ d.heard net (.serve s position clock1 clock2 fresh)) := by
  simp only [next,heard]
  cases found : net.flight[position]? with
  | none => exact ⟨m,by simpa using before⟩
  | some p =>
    by_cases mine : p.dst = d.server s
    · obtain ⟨split,erased⟩ := split_of_getElem? found
      have ok := before.consistent.packets p (List.mem_of_getElem? found)
      simp only [mine,if_true]
      cases ok with
      | bindRequest i s' msg typed =>
        have asks : (Payload.ofMessage msg).type = some .bindRequest := by simpa using typed
        have asking : Asking d m net i ⟨d.endpoint i,d.server s',.ofMessage msg⟩ (net.flight.take position)
            (net.flight.drop (position + 1)) := ⟨before.consistent,before.prompt,split,rfl,asks⟩
        obtain ⟨called,free,unstored⟩ := before.consistent.asking i asking.asks
        have left := consistent_lose position before.consistent
        have silent := erased ▸ asking.silent
        let r : FullDatagram .bindRequest :=
          ⟨⟨s,.ofMessage msg,d.endpoint i,clock1,clock2,fresh⟩,by simp [Payload.ofMessage],asks⟩
        obtain ⟨map,_⟩ := UdpServer.handle_bindRequest net.server r
        cases stored : net.server.transactionClientMap 0 with
        | none =>
          refine ⟨m,consistent_stored i r rfl called free silent stored left,?_,?_⟩
          · rw [erased]
            exact asking.prompt_stored (r := r) rfl stored
          · rw [UdpServer.plainHandle,stored] at map
            have inTurn := before.inTurn
            rw [stored] at inTurn
            have held : (UdpServer.handle net.server r.toReceived).1.transactionClientMap 0 =
                some (d.endpoint i).sockaddr := by
              simp [map,r]
            simp only [serverStep]
            exact held ▸ twoAndTwo_stored inTurn
        | some copeer =>
          obtain ⟨j,rfl,present',free'⟩ := before.consistent.stored copeer stored
          have apart : i ≠ j := by
            rintro rfl
            exact unstored stored
          refine ⟨m.join i j apart free free',
            consistent_joined i r rfl apart free free' called present' silent stored left,?_,?_⟩
          · rw [erased]
            exact asking.prompt_joined (r := r) rfl stored apart free free' present'
          · rw [UdpServer.plainHandle,stored] at map
            have inTurn := before.inTurn
            rw [stored] at inTurn
            have held : (UdpServer.handle net.server r.toReceived).1.transactionClientMap 0 = none := by
              simp [map,r]
            simp only [serverStep]
            exact held ▸ twoAndTwo_joined inTurn apart free free'
      | ack i s' msg typed => exact absurd mine (d.apart i s)
      | bindReply i j s' msg typed names partners => exact absurd mine (d.apart i s)
      | clientBindRequest i j msg typed own partners => exact absurd mine (d.apart j s)
      | clientBindResponse i j msg typed partners agree => exact absurd mine (d.apart j s)
    · simp only [mine,if_false]
      exact ⟨m,by simpa using before⟩

theorem server_clientStep (net : Network ι) (i : ι) (e : ReceiveStep) :
    (d.clientStep net i e).server = net.server := by
  unfold clientStep
  cases net.client i <;> rfl

theorem told_next (hosts : ∀ i, (d.connector i).stunServerAddress.endpoint = d.server .first) (e : Event ι)
    (undisturbed : d.Undisturbed net e) (before : Told d m net es) :
    ∃ m', Told d m' (d.next net e) (es ++ d.heard net e) := by
  cases e with
  | call i socket sendOk =>
    obtain rfl : sendOk = true := undisturbed
    simp only [next,heard,List.append_nil]
    cases absent : net.client i with
    | none =>
      exact ⟨m,consistent_call i socket true absent before.consistent,
        prompt_call socket absent before.consistent before.prompt,before.inTurn⟩
    | some k => exact ⟨m,before⟩
  | wait i failed sendOk stack =>
    simp only [next,heard,List.append_nil]
    have patient : ∀ k, net.client i = some k → k.Patient := by
      intro k present
      simpa [Undisturbed,present] using undisturbed
    refine ⟨m,consistent_client i _ (fun k _ => ?_) before.consistent,
      prompt_wait failed sendOk stack patient before.prompt,?_⟩
    · cases failed with
      | true => exact .error []
      | false => exact .timeout
    · rw [server_clientStep]
      exact before.inTurn
  | deliver i position len sendOk stack =>
    obtain ⟨rfl,whole,inOrder⟩ := undisturbed
    have reported := addressReported_of_whole (.deliver i position len true stack) whole.1 net
    have inOrder : ∀ p, net.flight[position]? = some p → p.src = d.server .first →
        ∀ q ∈ net.flight.take position, q.dst = p.dst → q.src ≠ p.src := by
      intro p found
      rwa [found] at inOrder
    refine ⟨m,consistent_deliver i position len true stack reported before.consistent,
      prompt_deliver hosts i position len stack whole inOrder before.consistent before.prompt,?_⟩
    have server : (d.next net (.deliver i position len true stack)).server = net.server := by
      simp only [next]
      split
      · rfl
      · split
        · exact server_clientStep _ i _
        · rfl
    have silent : d.heard net (.deliver i position len true stack) = [] := rfl
    rw [server,silent,List.append_nil]
    exact before.inTurn
  | serve s position clock1 clock2 fresh => exact told_serve s position clock1 clock2 fresh before
  | lose position => exact absurd undisturbed id

theorem told_run (hosts : ∀ i, (d.connector i).stunServerAddress.endpoint = d.server .first)
    {events : List (Event ι)} (undisturbed : Along d.hearing d.Undisturbed Network.start events) :
    ∃ m, Told d m (run d.hearing Network.start events) (outputs d.hearing Network.start events) := by
  refine history_along (fun past net => ∃ m, Told d m net (outputs d.hearing Network.start past))
    ⟨.empty,told_start d⟩ ?_ undisturbed
  rintro past e ⟨m,before⟩ undisturbed
  rw [outputs_append,outputs_cons,outputs_nil,List.append_nil]
  exact told_next hosts e undisturbed before

/-- In an undisturbed network, once everything has arrived, the server has heard from every
client that called, and two that it heard from one after the other with one id are connected
to each other. -/
theorem undisturbed_connected (d : Deployment ι)
    (hosts : ∀ i, (d.connector i).stunServerAddress.endpoint = d.server .first) (events : List (Event ι))
    (undisturbed : Along d.hearing d.Undisturbed Network.start events)
    (arrived : (run d.hearing Network.start events).flight = []) :
    (∀ i, (run d.hearing Network.start events).client i ≠ none →
      d.endpoint i ∈ outputs d.hearing Network.start events) ∧
    ∀ n i j, (outputs d.hearing Network.start events)[2 * n]? = some (d.endpoint i) →
      (outputs d.hearing Network.start events)[2 * n + 1]? = some (d.endpoint j) →
      d.transactionId i = d.transactionId j →
      d.Reaches (run d.hearing Network.start events) i j ∧ d.Reaches (run d.hearing Network.start events) j i := by
  obtain ⟨m,told⟩ := told_run hosts undisturbed
  constructor
  · intro i called
    cases partners : m.partner i with
    | none =>
      have silent : d.endpoint i ∉ requesters (run d.hearing Network.start events).flight := by
        rw [arrived]
        exact List.not_mem_nil
      obtain ⟨held,_⟩ := told.prompt.single i called partners silent
      rcases told.inTurn.last with ⟨nothing,_⟩ | ⟨past,l,heard,_,held'⟩
      · rw [held] at nothing
        contradiction
      · rw [held,Option.some.injEq] at held'
        rw [heard,Endpoint.sockaddr_injective held']
        simp
    | some j => exact told.inTurn.joined i j partners
  · intro n i j first second agree
    have partners := told.inTurn.pairs n i j first second
    exact ⟨connected_of_arrived told arrived partners agree,
      connected_of_arrived told arrived (m.symmetric i j partners) agree.symm⟩

def punched : List (Event Bool) :=
  [.call false .create true,.call true .create true,.serve .first 0 0 0 none,.serve .first 0 0 0 none,
    .deliver false 0 16 true Message.zero,.wait false false true Message.zero,
    .deliver true 0 16 true Message.zero,.deliver true 0 16 true Message.zero,
    .deliver false 1 16 true Message.zero,.deliver true 1 16 true Message.zero,
    .deliver false 0 16 true Message.zero]

theorem punched_connected : twoClients.Reaches (run twoClients.hearing Network.start punched) false true ∧
    twoClients.Reaches (run twoClients.hearing Network.start punched) true false :=
  (undisturbed_connected twoClients (fun _ => rfl) punched (by decide +kernel) (by decide +kernel)).2 0 false true
    (by decide +kernel) (by decide +kernel) rfl

end P2pStun.Deployment
