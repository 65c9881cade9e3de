import P2pStun.ScanProgress

/-! Steps of the clients of a network in which a couple looks for each other: those of the
two, and those of all others, which leave the two alone. -/
namespace P2pStun.Couple
open Runs Handshake ScanDeployment

variable {ι : Type} {d : ScanDeployment ι} {c : Couple d} {fpu : FloatUnit}
  {net : ScanNetwork ι} {es : List Bool} {flight before after : List Packet} {p : Packet} {b : Bool}

theorem requests_aside {l : ι} (nat : d.Translation l) {out : List Outgoing} (aside : c.RequestsAside flight)
    (requests : ∀ x ∈ out, x.payload.type = some .psBindRequest →
      x.dest = (d.connector l).stunServerAddr1 ∨ x.dest = (d.connector l).stunServerAddr2) :
    c.RequestsAside (flight ++ out.map nat.packet) := by
  intro q member typed b
  rcases List.mem_append.mp member with old | new
  · exact aside q old typed b
  · obtain ⟨x,sent,rfl⟩ := List.mem_map.mp new
    obtain ⟨first,second⟩ := c.configured l b
    simp only [Translation.packet]
    rcases requests x sent typed with dest | dest
    · rw [dest]
      exact first
    · rw [dest]
      exact second

theorem requests_start {l : ι} (socket : UdpSocket) (portman : PortManager) (draw : Draw fpu) (sendOk : Bool) :
    ∀ x ∈ ((d.connector l).start socket portman draw sendOk).2, x.payload.type = some .psBindRequest →
      x.dest = (d.connector l).stunServerAddr1 ∨ x.dest = (d.connector l).stunServerAddr2 := by
  intro x sent _
  rw [mem_send sent]
  exact Or.inl rfl

theorem requests_connect {l : ι} (k : PsConnecting) (e : PsStep fpu) :
    ∀ x ∈ ((d.connector l).connect k e).2, x.payload.type = some .psBindRequest →
      x.dest = (d.connector l).stunServerAddr1 ∨ x.dest = (d.connector l).stunServerAddr2 :=
  fun x sent typed => Or.inr (scan_requests e x sent typed)

theorem aside_erase (position : Nat) (aside : c.RequestsAside flight) : c.RequestsAside (flight.eraseIdx position) :=
  fun q member => aside q (List.mem_of_mem_eraseIdx member)

theorem Standing.asks_servers {called : Bool} {stage : Option Stage} {asks : List Endpoint}
    {mail : List (Option MessageType)} {count : Nat} {e : Endpoint}
    (stands : Standing (d.server .first) (d.server .second) called stage asks mail count) (member : e ∈ asks) :
    ∃ s, e = d.server s := by
  cases stands with
  | knocks => exact ⟨.first,List.mem_singleton.mp member⟩
  | asks => exact ⟨.second,List.mem_singleton.mp member⟩
  | absent | knocked | asked | listens => exact absurd member List.not_mem_nil

theorem Going.asks_servers (going : c.Going net es) {e : Endpoint} (member : e ∈ c.asks net.flight b) :
    e ∈ d.servers := by
  by_cases introduced : Introduced es
  · rw [(going.paired introduced b).1] at member
    exact absurd member List.not_mem_nil
  · rw [d.mem_servers]
    exact (going.standing introduced b).asks_servers member

theorem not_stranger {l : ι} (other : ∀ b, c.who b ≠ l) {e : Endpoint} (owner : d.owner e = some l) (b : Bool) :
    e ≠ c.home b := by
  rintro rfl
  rw [c.owner_home,Option.some.injEq] at owner
  exact other b owner

theorem foreign_sent {l : ι} (other : ∀ b, c.who b ≠ l) (nat : d.Translation l) (x : Outgoing) :
    c.Foreign (nat.packet x) := by
  have elsewhere (b : Bool) : nat.outside x ≠ c.home b := not_stranger other (nat.own x) b
  intro b
  refine ⟨fun this => elsewhere b this.1,fun this => ?_,fun this => elsewhere b this.1⟩
  obtain ⟨s,source⟩ := (d.mem_servers _).mp this.1
  have taken := nat.own x
  rw [show nat.outside x = d.server s from source,d.apart] at taken
  contradiction

theorem foreign_taken {l : ι} (other : ∀ b, c.who b ≠ l) (going : c.Going net es) (member : p ∈ net.flight)
    (owner : d.owner p.dst = some l) : c.Foreign p := by
  intro b
  refine ⟨?_,fun this => not_stranger other owner b this.2,fun this => not_stranger other owner (!b) this.2⟩
  rintro ⟨source,typed⟩
  have asked : p.dst ∈ c.asks net.flight b := by
    refine List.mem_map.mpr ⟨p,List.mem_filter.mpr ⟨member,?_⟩,rfl⟩
    simp [source,typed]
  obtain ⟨s,dest⟩ := (d.mem_servers _).mp (going.asks_servers asked)
  have free := d.apart s
  rw [← dest,owner] at free
  contradiction

variable [DecidableEq ι]

theorem going_others {l : ι} (other : ∀ b, c.who b ≠ l) (nat : d.Translation l) (next : PsConnecting × List Outgoing)
    (requests : ∀ x ∈ next.2, x.payload.type = some .psBindRequest →
      x.dest = (d.connector l).stunServerAddr1 ∨ x.dest = (d.connector l).stunServerAddr2)
    (alike : c.Alike net.flight flight) (aside : c.RequestsAside flight) (going : c.Going net es) :
    c.Going (setClient {net with flight := flight} l nat next).1 es := by
  have same (b : Bool) : (setClient {net with flight := flight} l nat next).1.client (c.who b) =
      net.client (c.who b) := Function.update_of_ne (other b) _ _
  apply going.frame
  · refine alike.trans (alike_append ?_)
    intro q member
    obtain ⟨x,_,rfl⟩ := List.mem_map.mp member
    exact foreign_sent other nat x
  · exact requests_aside nat aside requests
  · exact fun b => congrArg Option.isSome (same b)
  · intro b
    rw [stage,stage,same]
  · rfl

section Own

variable (flight : List Packet) (nat : d.Translation (c.who b)) (next : PsConnecting × List Outgoing)

theorem client_moved : (setClient {net with flight := flight} (c.who b) nat next).1.client (c.who b) = some next.1 :=
  Function.update_self _ _ _

theorem client_kept : (setClient {net with flight := flight} (c.who b) nat next).1.client (c.who !b) =
    net.client (c.who !b) := Function.update_of_ne (c.who_ne b) _ _

theorem stage_moved : c.stage (setClient {net with flight := flight} (c.who b) nat next).1 b =
    next.1.stage (d.connector (c.who b)) (c.home !b) := by
  rw [stage,client_moved]
  rfl

theorem stage_kept : c.stage (setClient {net with flight := flight} (c.who b) nat next).1 (!b) =
    c.stage net !b := by
  rw [stage,stage,client_kept]

end Own

omit [DecidableEq ι] in
theorem quiet_single {x : Outgoing} {msg : Message} {type : MessageType} (content : x.payload = .ofMessage msg)
    (typed : msg.type = some type) (other : type ≠ .psBindRequest) :
    ∀ y ∈ [x], y.payload.type ≠ some .psBindRequest := by
  intro y member
  rw [List.mem_singleton.mp member,content,Payload.type_ofMessage,typed]
  exact fun same => other (Option.some.inj same)

omit [DecidableEq ι] in
theorem asks_sent (nat : d.Translation (c.who b)) (out : List Outgoing) (a : Bool) :
    c.asks (out.map nat.packet) a =
      if a = b then (out.filter fun x => x.payload.type = some .psBindRequest).map (·.dest.endpoint) else [] := by
  have source (x : Outgoing) : (nat.packet x).src = c.home b := (c.owns b _).mp (nat.own x)
  split_ifs with same
  · subst a
    simp only [asks,List.filter_map,List.map_map]
    congr 1
    apply List.filter_congr
    intro x _
    simp only [Function.comp_apply,source,true_and]
    rfl
  · apply asks_nil
    rintro q member ⟨this,_⟩
    obtain ⟨x,_,rfl⟩ := List.mem_map.mp member
    rw [source,Bool.eq_not.mpr same] at this
    exact c.home_ne b this.symm

/-- One of the two is in its call of `connect` and takes the datagram `p`. -/
structure Taking (c : Couple d) (net : ScanNetwork ι) (es : List Bool) (b : Bool) (k : PsConnecting) (p : Packet)
    (before after : List Packet) : Prop where
  going : c.Going net es
  present : net.client (c.who b) = some k
  split : net.flight = before ++ p :: after
  mine : p.dst = c.home b

namespace Taking

variable {k : PsConnecting} (taking : Taking c net es b k p before after)

include taking

omit [DecidableEq ι] in
theorem stage_before : c.stage net b = k.stage (d.connector (c.who b)) (c.home !b) := by
  simp [stage,taking.present]

omit [DecidableEq ι] in
theorem asks_nothing : p.payload.type ≠ some .psBindRequest :=
  fun typed => taking.going.aside p (taking.split ▸ by simp) typed b taking.mine

omit [DecidableEq ι] in
theorem asks_rest (a : Bool) : c.asks (before ++ after) a = c.asks net.flight a := by
  rw [taking.split,asks_other fun this => taking.asks_nothing this.2]

omit [DecidableEq ι] in
theorem silent_of_between {type : MessageType} (between : Between type)
    (flies : Flies net.flight type (c.home !b) (c.home b)) : Introduced es := by
  by_contra apart
  have silent := taking.going.silent apart (!b) type between
  rw [Bool.not_not] at silent
  exact silent flies

variable (nat : d.Translation (c.who b)) {next : PsConnecting × List Outgoing}

theorem turn : Turn d.servers net.flight (setClient {net with flight := before ++ after} (c.who b) nat next).1.flight
    (c.home b) p before after (next.2.map nat.packet) where
  split := taking.split
  left := rfl
  mine := taking.mine
  own := by
    intro q member
    obtain ⟨x,_,rfl⟩ := List.mem_map.mp member
    exact (c.owns b _).mp (nat.own x)
  client := c.home_not_server b

theorem asks_left (a : Bool) :
    c.asks (setClient {net with flight := before ++ after} (c.who b) nat next).1.flight a =
      c.asks net.flight a ++ if a = b then (next.2.filter fun x => x.payload.type = some .psBindRequest).map
        (·.dest.endpoint) else [] := by
  rw [(taking.turn nat).left,asks_append,taking.asks_rest,asks_sent]

theorem leaves (requests : ∀ x ∈ next.2, x.payload.type = some .psBindRequest →
      x.dest = (d.connector (c.who b)).stunServerAddr1 ∨ x.dest = (d.connector (c.who b)).stunServerAddr2)
    (apart : ¬Introduced es →
      Standing (d.server .first) (d.server .second) true (next.1.stage (d.connector (c.who b)) (c.home !b))
        (c.asks net.flight b ++ (next.2.filter fun x => x.payload.type = some .psBindRequest).map (·.dest.endpoint))
        (inbox d.servers (before ++ after) (c.home b)) (es.count b) ∧
      ∀ x ∈ next.2, ∀ type, Between type → x.payload.type ≠ some type)
    (together : c.Partners net b →
      Paired d.servers .psBindReply net.flight (c.stage net !b) (c.stage net b) (c.home !b) (c.home b) →
      (∀ x ∈ next.2, x.payload.type ≠ some .psBindRequest) ∧
        Paired d.servers .psBindReply
          (setClient {net with flight := before ++ after} (c.who b) nat next).1.flight
          (next.1.stage (d.connector (c.who b)) (c.home !b)) (c.stage net !b) (c.home b) (c.home !b) ∧
        Paired d.servers .psBindReply
          (setClient {net with flight := before ++ after} (c.who b) nat next).1.flight
          (c.stage net !b) (next.1.stage (d.connector (c.who b)) (c.home !b)) (c.home !b) (c.home b)) :
    c.Going (setClient {net with flight := before ++ after} (c.who b) nat next).1 es := by
  have turn : Turn d.servers net.flight
      (setClient {net with flight := before ++ after} (c.who b) nat next).1.flight (c.home b) p before after
      (next.2.map nat.packet) := taking.turn nat
  constructor
  case aside =>
    refine requests_aside nat ?_ requests
    intro q member
    refine taking.going.aside q ?_
    rw [taking.split]
    rcases List.mem_append.mp member with early | late
    · exact List.mem_append_left _ early
    · exact List.mem_append_right _ (List.mem_cons_of_mem _ late)
  case standing =>
    intro none_yet a
    by_cases same : a = b
    · subst a
      rw [Stands,stage_moved,taking.asks_left,if_pos rfl,turn.inbox_own,client_moved]
      exact (apart none_yet).1
    · have stands := taking.going.standing none_yet a
      obtain rfl := Bool.eq_not.mpr same
      rw [Stands,stage_kept,taking.asks_left,if_neg same,List.append_nil,turn.inbox_others (c.home_ne b),
        client_kept]
      exact stands
  case silent =>
    intro none_yet a type between flies
    by_cases same : a = b
    · subst a
      rcases (turn.flies_from (c.home_ne b)).mp flies with old | ⟨q,member,_,_,typed⟩
      · exact taking.going.silent none_yet b type between old
      · obtain ⟨x,sent,rfl⟩ := List.mem_map.mp member
        exact (apart none_yet).2 x sent type between typed
    · obtain rfl := Bool.eq_not.mpr same
      rw [Bool.not_not] at flies
      have old := taking.going.silent none_yet (!b) type between
      rw [Bool.not_not] at old
      exact old (turn.flies_to (c.home_ne b) flies)
  case paired =>
    intro introduced a
    have theirs := (taking.going.paired introduced !b).2
    rw [Partners,Bool.not_not] at theirs
    obtain ⟨quiet,here,there⟩ := together (taking.going.paired introduced b).2 theirs
    have none_asks : c.asks (setClient {net with flight := before ++ after} (c.who b) nat next).1.flight a = [] := by
      rw [taking.asks_left,(taking.going.paired introduced a).1,List.nil_append]
      split_ifs
      · rw [List.filter_eq_nil_iff.mpr (by simpa using quiet),List.map_nil]
      · rfl
    refine ⟨none_asks,?_⟩
    by_cases same : a = b
    · subst a
      rw [Partners,stage_moved,stage_kept]
      exact here
    · obtain rfl := Bool.eq_not.mpr same
      rw [Partners,Bool.not_not,stage_moved,stage_kept]
      exact there
  case vacant => exact taking.going.vacant
  case filed => exact taking.going.filed

variable (e : PsStep fpu) (msg : Message) (len : Nat)

theorem takes_ack (from_ : FromServer d.servers (c.home b) p)
    (first : ∀ q ∈ before, ¬FromServer d.servers (c.home b) q) (content : p.payload = .ofMessage msg)
    (typed : msg.type = some .ack) (ok : e.sendOk = true) (whole : ReportsWhole len) :
    c.Going (setClient {net with flight := before ++ after} (c.who b) nat
      ((d.connector (c.who b)).connect k (e.gets msg p.src len))).1 es := by
  have mail : inbox d.servers net.flight (c.home b) = some .ack :: inbox d.servers (before ++ after) (c.home b) := by
    rw [taking.split,inbox_first from_ first,content,Payload.type_ofMessage,typed]
  have stands := taking.stage_before
  have cone := c.symmetric b
  refine taking.leaves nat (requests_connect k _) ?_ ?_
  · intro none_yet
    have standing := taking.going.standing none_yet b
    rw [Stands,mail] at standing
    obtain ⟨_,empty,unasked,⟨knocking,count⟩ | ⟨asked,count⟩⟩ := standing.mailed
    · obtain ⟨moved,x,m,out,dest,payload,request,_⟩ := scan_knocking e msg p.src len cone (stands.symm.trans knocking) ok whole
      have asks : x.payload.type = some .psBindRequest := by rw [payload,Payload.type_ofMessage,request]
      have second : x.dest.endpoint = d.server .second := dest ▸ (c.servers b).2
      rw [moved,out,empty,unasked,count]
      simp only [List.filter_cons,asks,decide_true,if_true,List.filter_nil,List.map_cons,List.map_nil,second,
        List.nil_append]
      refine ⟨.asks,?_⟩
      intro y member type between same
      rw [List.mem_singleton.mp member,asks] at same
      have same := Option.some.inj same
      rcases between with rfl | rfl <;> contradiction
    · obtain ⟨moved,out⟩ := scan_asked e msg p.src len cone (stands.symm.trans asked) whole
      rw [moved,out,empty,unasked,count]
      exact ⟨.listens,fun _ member => absurd member List.not_mem_nil⟩
  · intro here there
    rcases here.own with ⟨asked,two⟩ | ⟨listening,one | two⟩ | ⟨_,none_left⟩ | connected
    · obtain ⟨moved,silent⟩ := scan_asked e msg p.src len cone (stands.symm.trans asked) whole
      rw [two] at mail
      obtain ⟨_,rest⟩ := List.cons.inj mail
      rw [moved]
      exact ⟨by simp [silent],(taking.turn nat).early (c.home_ne b) there here (Or.inl asked) (by rw [silent]; rfl)
        (Or.inl rest.symm)⟩
    · rw [one] at mail
      simp at mail
    · obtain ⟨moved,silent⟩ := scan_ack e msg p.src len (stands.symm.trans listening) (Or.inl rfl) typed whole
      rw [two] at mail
      obtain ⟨_,rest⟩ := List.cons.inj mail
      rw [moved]
      exact ⟨by simp [silent],(taking.turn nat).early (c.home_ne b) there here (Or.inr listening)
        (by rw [silent]; rfl) (Or.inl rest.symm)⟩
    · rw [none_left] at mail
      contradiction
    · rw [scan_connected e msg p.src len (stands.symm.trans connected),← stands]
      exact ⟨by simp,(taking.turn nat).connected (c.home_ne b) there here connected⟩

theorem takes_reply (server : p.src ∈ d.servers) (first : ∀ q ∈ before, ¬FromServer d.servers (c.home b) q)
    (content : p.payload = .ofMessage msg) (typed : msg.type = some .psBindReply)
    (names : msg.psBindReply.addrOne = (c.home !b).sockaddr ∧ msg.psBindReply.addrTwo = (c.home !b).sockaddr)
    (selected : ∃ readable, e.select = .ready readable) (ok : e.sendOk = true) (whole : ReportsWhole len) :
    c.Going (setClient {net with flight := before ++ after} (c.who b) nat
      ((d.connector (c.who b)).connect k (e.gets msg p.src len))).1 es := by
  have mail : inbox d.servers net.flight (c.home b) =
      some .psBindReply :: inbox d.servers (before ++ after) (c.home b) := by
    rw [taking.split,inbox_first ⟨server,taking.mine⟩ first,content,Payload.type_ofMessage,typed]
  have stands := taking.stage_before
  refine taking.leaves nat (requests_connect k _) ?_ ?_
  · intro none_yet
    have standing := taking.going.standing none_yet b
    rw [Stands,mail] at standing
    exact absurd standing.mailed.1 (by decide)
  · intro here there
    rcases here.own with ⟨asked,two⟩ | ⟨listening,one | two⟩ | ⟨_,none_left⟩ | connected
    · rw [two] at mail
      simp at mail
    · have known : (d.connector (c.who b)).FromServer p.src.sockaddr := by
        obtain ⟨s,source⟩ := (d.mem_servers _).mp server
        rw [source]
        exact c.server_known b s
      obtain ⟨moved,x,m,out,dest,payload,request⟩ := scan_reply e msg p.src len (c.symmetric b)
        (stands.symm.trans listening) typed known names (c.routed !b).2 (c.home_not_second b) selected ok whole
      rw [one] at mail
      obtain ⟨_,rest⟩ := List.cons.inj mail
      rw [moved,out]
      refine ⟨quiet_single payload request (by decide),?_⟩
      refine (taking.turn nat).calls (c.home_ne b) there here listening rest.symm ?_ ?_
      · rw [out]
        exact ⟨_,List.mem_singleton.mpr rfl,(c.owns b _).mp (nat.own x),by simp [Translation.packet,dest],
          by simp [Translation.packet,payload,request]⟩
      · rw [out]
        rintro ⟨q,member,_,_,type⟩
        rw [List.mem_singleton.mp member] at type
        simp [Translation.packet,payload,request] at type
    · rw [two] at mail
      simp at mail
    · rw [none_left] at mail
      contradiction
    · rw [scan_connected e msg p.src len (stands.symm.trans connected),← stands]
      exact ⟨by simp,(taking.turn nat).connected (c.home_ne b) there here connected⟩

theorem takes_punch (source : p.src = c.home !b) (content : p.payload = .ofMessage msg)
    (typed : msg.type = some .clientBindRequest) (own : ntohl msg.transactionId = c.id) (ok : e.sendOk = true)
    (whole : ReportsWhole len) :
    c.Going (setClient {net with flight := before ++ after} (c.who b) nat
      ((d.connector (c.who b)).connect k (e.gets msg p.src len))).1 es := by
  have mail : inbox d.servers (before ++ after) (c.home b) = inbox d.servers net.flight (c.home b) := by
    rw [taking.split,inbox_other fun from_ => c.home_not_server (!b) (source ▸ from_.1)]
  have asks : Flies net.flight .clientBindRequest (c.home !b) (c.home b) :=
    ⟨p,by rw [taking.split]; simp,source,taking.mine,by simp [content,typed]⟩
  have stands := taking.stage_before
  refine taking.leaves nat (requests_connect k _) ?_ ?_
  · exact fun none_yet => absurd (taking.silent_of_between (Or.inl rfl) asks) none_yet
  · intro here there
    have answers (s : Stage) (running : s = .listening ∨ s = .calling) (at_ : c.stage net b = some s) :
        (∀ x ∈ ((d.connector (c.who b)).connect k (e.gets msg p.src len)).2,
            x.payload.type ≠ some .psBindRequest) ∧
          Paired d.servers .psBindReply
            (setClient {net with flight := before ++ after} (c.who b) nat
              ((d.connector (c.who b)).connect k (e.gets msg p.src len))).1.flight
            (((d.connector (c.who b)).connect k (e.gets msg p.src len)).1.stage (d.connector (c.who b)) (c.home !b))
            (c.stage net !b) (c.home b) (c.home !b) ∧
          Paired d.servers .psBindReply
            (setClient {net with flight := before ++ after} (c.who b) nat
              ((d.connector (c.who b)).connect k (e.gets msg p.src len))).1.flight (c.stage net !b)
            (((d.connector (c.who b)).connect k (e.gets msg p.src len)).1.stage (d.connector (c.who b)) (c.home !b))
            (c.home !b) (c.home b) := by
      obtain ⟨moved,x,m,out,dest,payload,answer⟩ := scan_punch e msg p.src len (stands.symm.trans at_) running typed
        (own.trans (c.id_who b).symm) ok whole
      rw [moved]
      refine ⟨out ▸ quiet_single payload answer (by decide),(taking.turn nat).answers (c.home_ne b) there asks ?_⟩
      rw [out]
      exact ⟨_,List.mem_singleton.mpr rfl,(c.owns b _).mp (nat.own x),
        by simp [Translation.packet,dest,source],by simp [Translation.packet,payload,answer]⟩
    rcases here.own with ⟨asked,two⟩ | ⟨listening,_⟩ | ⟨calling,_⟩ | connected
    · obtain ⟨moved,silent⟩ := scan_asked e msg p.src len (c.symmetric b) (stands.symm.trans asked) whole
      rw [moved]
      exact ⟨by simp [silent],(taking.turn nat).early (c.home_ne b) there here (Or.inl asked) (by rw [silent]; rfl)
        (Or.inr (mail.trans two))⟩
    · exact answers .listening (Or.inl rfl) listening
    · exact answers .calling (Or.inr rfl) calling
    · rw [scan_connected e msg p.src len (stands.symm.trans connected),← stands]
      exact ⟨by simp,(taking.turn nat).connected (c.home_ne b) there here connected⟩

theorem takes_answer (source : p.src = c.home !b) (content : p.payload = .ofMessage msg)
    (typed : msg.type = some .clientBindResponse) (whole : ReportsWhole len) :
    c.Going (setClient {net with flight := before ++ after} (c.who b) nat
      ((d.connector (c.who b)).connect k (e.gets msg p.src len))).1 es := by
  have answer : Flies net.flight .clientBindResponse (c.home !b) (c.home b) :=
    ⟨p,by rw [taking.split]; simp,source,taking.mine,by simp [content,typed]⟩
  have stands := taking.stage_before
  refine taking.leaves nat (requests_connect k _) ?_ ?_
  · exact fun none_yet => absurd (taking.silent_of_between (Or.inr rfl) answer) none_yet
  · intro here there
    rcases there.together (there.answers answer) with calling | connected
    · obtain ⟨moved,silent⟩ := scan_answer e msg p.src len (stands.symm.trans calling) typed source whole
      rw [moved]
      exact ⟨by simp [silent],(taking.turn nat).accepts (c.home_ne b) there answer⟩
    · rw [scan_connected e msg p.src len (stands.symm.trans connected),← stands]
      exact ⟨by simp,(taking.turn nat).connected (c.home_ne b) there here connected⟩

end Taking

omit [DecidableEq ι] in
theorem Going.apart_of_absent (going : c.Going net es) (absent : net.client (c.who b) = none) : ¬Introduced es := by
  intro introduced
  have own := (going.paired introduced b).2.own
  rw [stage,absent] at own
  simp at own

omit [DecidableEq ι] in
theorem present_of_home {sent : List Packet} (consistent : Consistent d fpu net sent) (going : c.Going net es)
    (member : p ∈ net.flight) (mine : p.dst = c.home b) : ∃ k, net.client (c.who b) = some k := by
  by_contra none_there
  have absent : net.client (c.who b) = none := Option.eq_none_iff_forall_ne_some.mpr (not_exists.mp none_there)
  have apart := going.apart_of_absent absent
  have empty : inbox d.servers net.flight (c.home b) = [] := by
    have standing := going.standing apart b
    rw [Stands,absent] at standing
    exact standing.uncalled.2.1
  have silent (type : MessageType) (between : Between type) : ¬Flies net.flight type (c.home !b) (c.home b) := by
    have silent := going.silent apart (!b) type between
    rwa [Bool.not_not] at silent
  have server (s : ServerSocket) : d.server s ∈ d.servers := (d.mem_servers _).mpr ⟨s,rfl⟩
  cases c.inbound consistent going.aside member mine with
  | ack s msg typed => exact inbox_ne_nil ⟨server s,rfl⟩ member empty
  | reply s msg typed names => exact inbox_ne_nil ⟨server s,rfl⟩ member empty
  | punch msg typed own => exact silent _ (Or.inl rfl) ⟨_,member,rfl,rfl,by simpa using typed⟩
  | answer msg typed => exact silent _ (Or.inr rfl) ⟨_,member,rfl,rfl,by simpa using typed⟩

theorem going_deliver {sent : List Packet} (l : ι) (position len : Nat) (e : PsStep fpu) (nat : d.Translation l)
    (whole : 16 ≤ len)
    (ours : ∀ b, l = c.who b → len < 2 ^ 31 ∧ e.sendOk = true ∧ ∃ readable, e.select = .ready readable)
    (inOrder : ∀ p b, net.flight[position]? = some p → p.dst = c.home b → p.src ∈ d.servers →
      ∀ q ∈ net.flight.take position, q.dst = p.dst → q.src ∉ d.servers)
    (consistent : Consistent d fpu net sent) (going : c.Going net es) :
    c.Going (d.step net (.deliver l position len e nat)).1 es := by
  simp only [step]
  cases found : net.flight[position]? with
  | none => exact going
  | some p =>
    have member := List.mem_of_getElem? found
    by_cases mine : d.owner p.dst = some l
    · simp only [mine,if_true]
      by_cases own : ∃ b, l = c.who b
      · obtain ⟨b,rfl⟩ := own
        obtain ⟨fits,ok,selected⟩ := ours b rfl
        have whole : ReportsWhole len := ⟨whole,fits⟩
        have here : p.dst = c.home b := (c.owns b _).mp mine
        obtain ⟨split,erased⟩ := split_of_getElem? found
        obtain ⟨k,present⟩ := present_of_home consistent going member here
        have taking : Taking c net es b k p (net.flight.take position) (net.flight.drop (position + 1)) :=
          ⟨going,present,split,here⟩
        have first (server : p.src ∈ d.servers) :
            ∀ q ∈ net.flight.take position, ¬FromServer d.servers (c.home b) q :=
          fun q early from_ => inOrder p b found here server q early (from_.2.trans here.symm) from_.1
        have server (s : ServerSocket) : d.server s ∈ d.servers := (d.mem_servers _).mpr ⟨s,rfl⟩
        simp only [clientStep,present,erased]
        cases c.inbound consistent going.aside member here with
        | ack s msg typed => exact taking.takes_ack nat e msg len ⟨server s,rfl⟩ (first (server s)) rfl typed ok whole
        | reply s msg typed names =>
          exact taking.takes_reply nat e msg len (server s) (first (server s)) rfl typed names selected ok whole
        | punch msg typed own => exact taking.takes_punch nat e msg len rfl rfl typed own ok whole
        | answer msg typed => exact taking.takes_answer nat e msg len rfl rfl typed whole
      · have other (b : Bool) : c.who b ≠ l := fun same => own ⟨b,same.symm⟩
        have alike := alike_erase found (foreign_taken other going member mine)
        have aside := aside_erase position going.aside
        unfold clientStep
        cases net.client l with
        | none => exact going.frame alike aside (fun _ => rfl) (fun _ => rfl) rfl
        | some k => exact going_others other nat _ (requests_connect k _) alike aside going
    · simp only [mine,if_false]
      exact going

end P2pStun.Couple