import P2pStun.InFlight

/-! A client takes a datagram. Nothing it needs is lost by that: it moves on with what the
datagram said, or it is connected already. -/
namespace P2pStun.Deployment
open Runs Handshake

variable {ι : Type}

/-- Client `i` is in its call of `connect` and takes the datagram `p`. -/
structure Delivery (d : Deployment ι) (m : Matching ι) (net : Network ι) (i : ι) (k : Connecting) (p : Packet)
    (before after : List Packet) : Prop where
  consistent : d.Consistent m net
  prompt : d.Prompt m net
  present : net.client i = some k
  split : net.flight = before ++ p :: after
  mine : p.dst = d.endpoint i

variable {d : Deployment ι} {m : Matching ι} {net : Network ι} {i : ι} {k : Connecting} {p : Packet}
  {before after : List Packet}

namespace Delivery

variable (del : Delivery d m net i k p before after)

include del

theorem stage_before : net.stage i = k.stage := by
  simp [Network.stage,del.present]

theorem ok : d.PacketOk m p := del.consistent.packets p (del.split ▸ by simp)

theorem asks_nothing : p.payload.type ≠ some .bindRequest := by
  have ok := del.ok
  have mine := del.mine
  intro typed
  cases ok with
  | bindRequest a s msg typed => exact d.apart i s mine.symm
  | ack a s msg typed' => simp [typed'] at typed
  | bindReply a j s msg typed' => simp [typed'] at typed
  | clientBindRequest a j msg typed' => simp [typed'] at typed
  | clientBindResponse a j msg typed' => simp [typed'] at typed

theorem quiet (msg : Message) (len : Nat) (stack : Message) (content : p.payload = .ofMessage msg)
    (whole : ReportsWhole len) :
    ∀ q ∈ d.sentBy i ((d.connector i).connect k (arrival msg p.src len stack)).2,
      q.payload.type ≠ some .bindRequest := by
  have arrives : Arrives d m i k (arrival msg p.src len stack).outcome := by
    rw [arrival,← content]
    refine arrives_recvfrom len del.ok del.mine fun a taken => ?_
    obtain ⟨_,_,same⟩ := recvfrom_taken taken
    exact reported_of_whole k a (same ▸ whole.1)
  obtain ⟨_,sends⟩ := connect_ok k (arrival msg p.src len stack) arrives (del.consistent.clients i k del.present)
  exact fun q member => (sends q member).2

theorem called : net.client i ≠ none := by
  rw [del.present]
  exact Option.some_ne_none k

theorem requesters_rest : requesters (before ++ after) = requesters net.flight := by
  rw [del.split,requesters_append,requesters_append]
  simp [requesters,del.asks_nothing]

theorem unasked_of_mail {type : Option MessageType} {rest : List (Option MessageType)}
    (mail : inbox d.servers net.flight (d.endpoint i) = type :: rest) : d.endpoint i ∉ requesters net.flight := by
  intro asks
  rw [(del.prompt.unserved i asks).2] at mail
  contradiction

theorem unasked_of_partner {j : ι} (partners : m.partner i = some j) : d.endpoint i ∉ requesters net.flight := by
  intro asks
  have free := (del.consistent.asking i asks).2.1
  rw [partners] at free
  contradiction

variable [DecidableEq ι] {next : Connecting × List Outgoing}

theorem turn : Turn d.servers net.flight (d.setClient {net with flight := before ++ after} i next).flight
    (d.endpoint i) p before after (d.sentBy i next.2) where
  split := del.split
  left := rfl
  mine := del.mine
  own := by
    intro q member
    obtain ⟨x,_,rfl⟩ := List.mem_map.mp member
    rfl
  client := d.endpoint_not_server i

theorem inbox_others {l : ι} (other : l ≠ i) :
    inbox d.servers (d.setClient {net with flight := before ++ after} i next).flight (d.endpoint l) =
      inbox d.servers net.flight (d.endpoint l) :=
  del.turn.inbox_others fun same => other (d.distinct same)

theorem leaves (quiet : ∀ q ∈ d.sentBy i next.2, q.payload.type ≠ some .bindRequest)
    (unasked : d.endpoint i ∉ requesters net.flight)
    (single : m.partner i = none → net.server.transactionClientMap 0 = some (d.endpoint i).sockaddr ∧
      ((next.1.stage = some .asked ∧ inbox d.servers (before ++ after) (d.endpoint i) = [some .ack]) ∨
        (next.1.stage = some .listening ∧ inbox d.servers (before ++ after) (d.endpoint i) = [])))
    (paired : ∀ j, m.partner i = some j → d.transactionId i = d.transactionId j → j ≠ i →
      d.Partners net i j → d.Partners net j i →
      Paired d.servers .bindReply (d.setClient {net with flight := before ++ after} i next).flight next.1.stage
          (net.stage j) (d.endpoint i) (d.endpoint j) ∧
        Paired d.servers .bindReply (d.setClient {net with flight := before ++ after} i next).flight (net.stage j)
          next.1.stage (d.endpoint j) (d.endpoint i)) :
    d.Prompt m (d.setClient {net with flight := before ++ after} i next) := by
  have turn : Turn d.servers net.flight (d.setClient {net with flight := before ++ after} i next).flight
      (d.endpoint i) p before after (d.sentBy i next.2) := del.turn
  have asked : requesters (d.setClient {net with flight := before ++ after} i next).flight =
      requesters net.flight := by
    have none_asks : requesters (d.sentBy i next.2) = [] := by
      rw [requesters,List.filterMap_eq_nil_iff]
      exact fun q member => if_neg (quiet q member)
    rw [setClient,requesters_append,none_asks,List.append_nil,del.requesters_rest]
  have both (j : ι) (partners : m.partner i = some j) (agree : d.transactionId i = d.transactionId j) :=
    paired j partners agree (fun same => m.irreflexive i (same ▸ partners)) (del.prompt.paired i j partners agree)
      (del.prompt.paired j i (m.symmetric i j partners) agree.symm)
  constructor
  case oneSocket =>
    intro q member s source
    rcases List.mem_append.mp member with old | new
    · refine del.prompt.oneSocket q ?_ s source
      rw [del.split]
      rcases List.mem_append.mp old with early | late
      · exact List.mem_append_left _ early
      · exact List.mem_append_right _ (List.mem_cons_of_mem _ late)
    · obtain ⟨x,_,rfl⟩ := List.mem_map.mp new
      exact absurd source (d.apart i s)
  case absent =>
    intro l none_there
    have other : l ≠ i := by
      rintro rfl
      simp [setClient] at none_there
    rw [client_other other] at none_there
    rw [del.inbox_others other]
    exact del.prompt.absent l none_there
  case unserved =>
    intro l member
    rw [asked] at member
    have other : l ≠ i := by
      rintro rfl
      exact unasked member
    rw [stage_other other,del.inbox_others other]
    exact del.prompt.unserved l member
  case single =>
    intro l called free served
    rw [asked] at served
    by_cases same : l = i
    · subst l
      rw [stage_own,turn.inbox_own]
      exact single free
    · rw [stage_other same,del.inbox_others same]
      refine del.prompt.single l ?_ free served
      rwa [client_other same] at called
  case paired =>
    intro a b partners agree
    by_cases first : a = i
    · subst a
      have other : b ≠ i := fun same => m.irreflexive i (same ▸ partners)
      rw [Partners,stage_own,stage_other other]
      exact (both b partners agree).1
    · by_cases second : b = i
      · subst b
        rw [Partners,stage_own,stage_other first]
        exact (both a (m.symmetric a i partners) agree.symm).2
      · rw [Partners,stage_other first,stage_other second]
        exact turn.pair_others (fun same => first (d.distinct same)) (fun same => second (d.distinct same))
          (del.prompt.paired a b partners agree)

variable (msg : Message) (len : Nat) (stack : Message)

theorem takes_ack (from_ : FromServer d.servers (d.endpoint i) p)
    (first : ∀ q ∈ before, ¬FromServer d.servers (d.endpoint i) q)
    (content : p.payload = .ofMessage msg) (typed : msg.type = some .ack) (whole : ReportsWhole len) :
    d.Prompt m (d.setClient {net with flight := before ++ after} i
      ((d.connector i).connect k (arrival msg p.src len stack))) := by
  have mail : inbox d.servers net.flight (d.endpoint i) =
      some .ack :: inbox d.servers (before ++ after) (d.endpoint i) := by
    rw [del.split,inbox_first from_ first,content,Payload.type_ofMessage,typed]
  have unasked := del.unasked_of_mail mail
  have stands := del.stage_before
  refine del.leaves (del.quiet msg len stack content whole) unasked ?_ ?_
  · intro free
    obtain ⟨stored,⟨asked,one⟩ | ⟨_,none_left⟩⟩ := del.prompt.single i del.called free unasked
    · rw [one] at mail
      obtain ⟨_,rest⟩ := List.cons.inj mail
      exact ⟨stored,Or.inr ⟨(arrival_asked _ msg p.src len stack (stands.symm.trans asked) whole).1,rest.symm⟩⟩
    · rw [none_left] at mail
      contradiction
  · intro j partners agree other here there
    have other' : d.endpoint j ≠ d.endpoint i := fun same => other (d.distinct same)
    rcases here.own with ⟨asked,two⟩ | ⟨listening,one | two⟩ | ⟨_,none_left⟩ | connected
    · obtain ⟨moved,silent⟩ := arrival_asked (d.connector i) msg p.src len stack (stands.symm.trans asked) whole
      rw [two] at mail
      obtain ⟨_,rest⟩ := List.cons.inj mail
      rw [moved]
      exact del.turn.early other' there here (Or.inl asked) (by rw [silent]; rfl) (Or.inl rest.symm)
    · rw [one] at mail
      simp at mail
    · obtain ⟨moved,silent⟩ := arrival_ack (d.connector i) msg p.src len stack (stands.symm.trans listening)
        (Or.inl rfl) typed whole
      rw [two] at mail
      obtain ⟨_,rest⟩ := List.cons.inj mail
      rw [moved]
      exact del.turn.early other' there here (Or.inr listening) (by rw [silent]; rfl) (Or.inl rest.symm)
    · rw [none_left] at mail
      contradiction
    · rw [arrival_connected (d.connector i) msg p.src len stack (stands.symm.trans connected),← stands]
      exact del.turn.connected other' there here connected

theorem takes_reply {j : ι} (server : p.src = d.server .first)
    (first : ∀ q ∈ before, ¬FromServer d.servers (d.endpoint i) q)
    (content : p.payload = .ofMessage msg) (typed : msg.type = some .bindReply)
    (names : msg.bindReply = (d.endpoint j).sockaddr) (partners : m.partner i = some j)
    (host : (d.connector i).stunServerAddress.endpoint = d.server .first) (whole : ReportsWhole len) :
    d.Prompt m (d.setClient {net with flight := before ++ after} i
      ((d.connector i).connect k (arrival msg p.src len stack))) := by
  have mail : inbox d.servers net.flight (d.endpoint i) =
      some .bindReply :: inbox d.servers (before ++ after) (d.endpoint i) := by
    rw [del.split,inbox_first (fromServer .first server del.mine) first,content,
      Payload.type_ofMessage,typed]
  have stands := del.stage_before
  refine del.leaves (del.quiet msg len stack content whole) (del.unasked_of_mail mail) ?_ ?_
  · intro free
    rw [free] at partners
    contradiction
  · intro l partners' agree other here there
    obtain rfl : j = l := Option.some.inj (partners.symm.trans partners')
    have other' : d.endpoint j ≠ d.endpoint i := fun same => other (d.distinct same)
    rcases here.own with ⟨asked,two⟩ | ⟨listening,one | two⟩ | ⟨_,none_left⟩ | connected
    · rw [two] at mail
      simp at mail
    · have known : SameHost p.src.sockaddr (d.connector i).stunServerAddr := by
        rw [server,← host]
        exact ⟨rfl,rfl⟩
      obtain ⟨moved,out⟩ := arrival_reply (d.connector i) msg p.src len stack (stands.symm.trans listening)
        typed known whole
      rw [one] at mail
      obtain ⟨_,rest⟩ := List.cons.inj mail
      rw [moved]
      refine del.turn.calls other' there here listening rest.symm ?_ ?_
      · rw [out,names]
        exact ⟨_,List.mem_singleton.mpr rfl,rfl,rfl,by simp⟩
      · rw [out]
        rintro ⟨q,member,_,_,type⟩
        rw [List.mem_singleton.mp member] at type
        simp at type
    · rw [two] at mail
      simp at mail
    · rw [none_left] at mail
      contradiction
    · rw [arrival_connected (d.connector i) msg p.src len stack (stands.symm.trans connected),← stands]
      exact del.turn.connected other' there here connected

theorem takes_punch {j : ι} (source : p.src = d.endpoint j) (content : p.payload = .ofMessage msg)
    (typed : msg.type = some .clientBindRequest) (names : ntohl msg.transactionId = d.transactionId j)
    (partners : m.partner i = some j) (whole : ReportsWhole len) :
    d.Prompt m (d.setClient {net with flight := before ++ after} i
      ((d.connector i).connect k (arrival msg p.src len stack))) := by
  have mail : inbox d.servers (before ++ after) (d.endpoint i) = inbox d.servers net.flight (d.endpoint i) := by
    rw [del.split,
      inbox_other fun from_ => d.endpoint_not_server j (source ▸ from_.1)]
  have stands := del.stage_before
  refine del.leaves (del.quiet msg len stack content whole) (del.unasked_of_partner partners) ?_ ?_
  · intro free
    rw [free] at partners
    contradiction
  · intro l partners' agree other here there
    obtain rfl : j = l := Option.some.inj (partners.symm.trans partners')
    have other' : d.endpoint j ≠ d.endpoint i := fun same => other (d.distinct same)
    have asks : Flies net.flight .clientBindRequest (d.endpoint j) (d.endpoint i) :=
      ⟨p,by rw [del.split]; simp,source,del.mine,by simp [content,typed]⟩
    have answers (stage : Stage) (running : stage = .listening ∨ stage = .calling)
        (at_ : net.stage i = some stage) :
        Paired d.servers .bindReply (d.setClient {net with flight := before ++ after} i
            ((d.connector i).connect k (arrival msg p.src len stack))).flight
          ((d.connector i).connect k (arrival msg p.src len stack)).1.stage (net.stage j) (d.endpoint i)
          (d.endpoint j) ∧
        Paired d.servers .bindReply (d.setClient {net with flight := before ++ after} i
            ((d.connector i).connect k (arrival msg p.src len stack))).flight
          (net.stage j) ((d.connector i).connect k (arrival msg p.src len stack)).1.stage (d.endpoint j)
          (d.endpoint i) := by
      obtain ⟨moved,out⟩ := arrival_punch (d.connector i) msg p.src len stack (stands.symm.trans at_) running
        typed (names.trans agree.symm) whole
      rw [moved]
      refine del.turn.answers other' there asks ?_
      rw [out]
      exact ⟨_,List.mem_singleton.mpr rfl,rfl,source,by simp⟩
    rcases here.own with ⟨asked,two⟩ | ⟨listening,_⟩ | ⟨calling,_⟩ | connected
    · obtain ⟨moved,silent⟩ := arrival_asked (d.connector i) msg p.src len stack (stands.symm.trans asked) whole
      rw [moved]
      exact del.turn.early other' there here (Or.inl asked) (by rw [silent]; rfl) (Or.inr (mail.trans two))
    · exact answers .listening (Or.inl rfl) listening
    · exact answers .calling (Or.inr rfl) calling
    · rw [arrival_connected (d.connector i) msg p.src len stack (stands.symm.trans connected),← stands]
      exact del.turn.connected other' there here connected

theorem takes_answer {j : ι} (source : p.src = d.endpoint j) (content : p.payload = .ofMessage msg)
    (typed : msg.type = some .clientBindResponse) (partners : m.partner i = some j) (whole : ReportsWhole len) :
    d.Prompt m (d.setClient {net with flight := before ++ after} i
      ((d.connector i).connect k (arrival msg p.src len stack))) := by
  have stands := del.stage_before
  refine del.leaves (del.quiet msg len stack content whole) (del.unasked_of_partner partners) ?_ ?_
  · intro free
    rw [free] at partners
    contradiction
  · intro l partners' agree other here there
    obtain rfl : j = l := Option.some.inj (partners.symm.trans partners')
    have other' : d.endpoint j ≠ d.endpoint i := fun same => other (d.distinct same)
    have answer : Flies net.flight .clientBindResponse (d.endpoint j) (d.endpoint i) :=
      ⟨p,by rw [del.split]; simp,source,del.mine,by simp [content,typed]⟩
    rcases there.together (there.answers answer) with calling | connected
    · have target : k.socket.targetAddress = p.src.sockaddr := by
        obtain ⟨n,receiving,state⟩ := Connecting.stage_receiving (stands.symm.trans calling) (Or.inr rfl)
        have standing := (del.consistent.clients i k del.present).receiving ⟨_,receiving⟩
        rw [state] at standing
        generalize aims : k.socket.targetAddress = aim at standing
        cases standing with
        | joined l joined =>
          rw [source,Option.some.inj (joined.symm.trans partners)]
      obtain ⟨moved,_⟩ := arrival_answer (d.connector i) msg p.src len stack (stands.symm.trans calling) typed
        target whole
      rw [moved]
      exact del.turn.accepts other' there answer
    · rw [arrival_connected (d.connector i) msg p.src len stack (stands.symm.trans connected),← stands]
      exact del.turn.connected other' there here connected

end Delivery

variable [DecidableEq ι]

theorem prompt_deliver (hosts : ∀ i, (d.connector i).stunServerAddress.endpoint = d.server .first)
    (i : ι) (position len : Nat) (stack : Message) (whole : ReportsWhole len)
    (inOrder : ∀ p, net.flight[position]? = some p → p.src = d.server .first →
      ∀ q ∈ net.flight.take position, q.dst = p.dst → q.src ≠ p.src)
    (consistent : d.Consistent m net) (prompt : d.Prompt m net) :
    d.Prompt m (d.next net (.deliver i position len true stack)) := by
  simp only [next]
  cases found : net.flight[position]? with
  | none => exact prompt
  | some p =>
    by_cases mine : p.dst = d.endpoint i
    · have member := List.mem_of_getElem? found
      obtain ⟨split,erased⟩ := split_of_getElem? found
      obtain ⟨k,present⟩ := Option.ne_none_iff_exists'.mp (present_of_packet consistent prompt member mine)
      have del : Delivery d m net i k p (net.flight.take position) (net.flight.drop (position + 1)) :=
        ⟨consistent,prompt,present,split,mine⟩
      have first (server : p.src = d.server .first) :
          ∀ q ∈ net.flight.take position, ¬FromServer d.servers (d.endpoint i) q := by
        intro q early from_
        obtain ⟨s,source⟩ := (d.mem_servers _).mp from_.1
        have same := prompt.oneSocket q (List.mem_of_mem_take early) s source
        exact inOrder p found server q early (from_.2.trans mine.symm) (same.trans server.symm)
      have ok := del.ok
      simp only [mine,if_true,clientStep,present,erased]
      cases ok with
      | bindRequest a s msg typed => exact absurd mine.symm (d.apart i s)
      | ack a s msg typed =>
        have server : d.server s = d.server .first := prompt.oneSocket _ member s rfl
        exact del.takes_ack msg len stack (fromServer .first server mine) (first server) rfl typed whole
      | bindReply a j s msg typed names partners =>
        have server : d.server s = d.server .first := prompt.oneSocket _ member s rfl
        exact del.takes_reply msg len stack server (first server) rfl typed names (d.distinct mine ▸ partners)
          (hosts i) whole
      | clientBindRequest a j msg typed own partners =>
        exact del.takes_punch msg len stack rfl rfl typed own (d.distinct mine ▸ m.symmetric a j partners) whole
      | clientBindResponse a j msg typed partners =>
        exact del.takes_answer msg len stack rfl rfl typed (d.distinct mine ▸ m.symmetric a j partners) whole
    · simp only [mine,if_false]
      exact prompt

end P2pStun.Deployment
