import P2pStun.ScanServing

/-! A couple in a network that leaves it in peace: the datagrams from and to the two are not
lost, and nothing fails or times out for them. What happens to all other clients does not
matter. Once their datagrams have arrived, the order in which the server heard the two
decides whether they are connected. -/
namespace P2pStun.Couple
open Runs Handshake ScanDeployment

variable {ι : Type} [DecidableEq ι] {d : ScanDeployment ι} {c : Couple d} {fpu : FloatUnit}
  {net : ScanNetwork ι} {es : List Bool}

theorem going_call (l : ι) (socket : UdpSocket) (portman : PortManager) (draw : Draw fpu) (sendOk : Bool)
    (nat : d.Translation l) (ours : ∀ b, l = c.who b → sendOk = true) (absent : net.client l = none)
    (going : c.Going net es) :
    c.Going (setClient net l nat ((d.connector l).start socket portman draw sendOk)).1 es := by
  by_cases own : ∃ b, l = c.who b
  · obtain ⟨b,rfl⟩ := own
    obtain rfl := ours b rfl
    obtain ⟨knocks,x,msg,out,dest,payload,request,_⟩ :=
      scan_start (c := d.connector (c.who b)) (c.home !b) socket portman draw
    have asks : x.payload.type = some .psBindRequest := by rw [payload,Payload.type_ofMessage,request]
    have source : (nat.packet x).src = c.home b := (c.owns b _).mp (nat.own x)
    have apart := going.apart_of_absent absent
    have silent (e : Endpoint) : inbox d.servers ([x].map nat.packet) e = [] := by
      refine inbox_sent fun q member => ?_
      rw [List.mem_singleton.mp member,source]
      exact c.home_not_server b
    have flight : (setClient net (c.who b) nat ((d.connector (c.who b)).start socket portman draw true)).1.flight =
        net.flight ++ [x].map nat.packet := by
      rw [setClient,out]
    constructor
    case aside =>
      refine requests_aside nat going.aside ?_
      exact requests_start socket portman draw true
    case standing =>
      intro _ a
      have stands := going.standing apart a
      rw [Stands,flight,asks_append,asks_sent,inbox_append,silent,List.append_nil]
      by_cases same : a = b
      · subst a
        rw [Stands,absent] at stands
        obtain ⟨unasked,empty,none_heard⟩ := stands.uncalled
        have first : x.dest.endpoint = d.server .first := dest ▸ (c.servers b).1
        rw [client_moved net.flight nat,stage_moved net.flight nat,knocks,unasked,empty,
          none_heard,if_pos rfl]
        simp only [List.filter_cons,asks,decide_true,if_true,List.filter_nil,List.map_cons,List.map_nil,first,
          List.nil_append]
        exact .knocks
      · obtain rfl := Bool.eq_not.mpr same
        rw [client_kept net.flight nat,stage_kept net.flight nat,if_neg same,List.append_nil]
        exact stands
    case silent =>
      intro _ a type between flies
      rw [flight,flies_append] at flies
      rcases flies with old | ⟨q,member,_,_,typed⟩
      · exact going.silent apart a type between old
      · rw [List.mem_singleton.mp member] at typed
        have typed := Option.some.inj (asks.symm.trans typed)
        rcases between with rfl | rfl <;> contradiction
    case paired => exact fun introduced => absurd introduced apart
    case vacant => exact going.vacant
    case filed => exact going.filed
  · have other (b : Bool) : c.who b ≠ l := fun same => own ⟨b,same.symm⟩
    exact going_others other nat _ (requests_start socket portman draw sendOk) (alike_refl _) going.aside going

theorem going_wait (l : ι) (failed : Bool) (e : PsStep fpu) (nat : d.Translation l)
    (patient : ∀ b, l = c.who b → ∀ k ∈ net.client l, k.Patient) (going : c.Going net es) :
    c.Going (d.clientStep net l nat (e.hearing (if failed then .error [] else .timeout))).1 es := by
  unfold clientStep
  cases present : net.client l with
  | none => exact going
  | some k =>
    by_cases own : ∃ b, l = c.who b
    · obtain ⟨b,rfl⟩ := own
      obtain ⟨stays,silent⟩ := scan_wait (c := d.connector (c.who b)) e (c.home !b) failed
        (patient b rfl k present)
      have still (a : Bool) : c.stage (setClient net (c.who b) nat ((d.connector (c.who b)).connect k
          (e.hearing (if failed then .error [] else .timeout)))).1 a = c.stage net a := by
        by_cases same : a = b
        · subst a
          rw [stage_moved net.flight nat,stays,stage,present]
          rfl
        · obtain rfl := Bool.eq_not.mpr same
          exact stage_kept net.flight nat _
      have called (a : Bool) : ((setClient net (c.who b) nat ((d.connector (c.who b)).connect k
          (e.hearing (if failed then .error [] else .timeout)))).1.client (c.who a)).isSome =
            (net.client (c.who a)).isSome := by
        by_cases same : a = b
        · subst a
          rw [client_moved net.flight nat,present]
          rfl
        · obtain rfl := Bool.eq_not.mpr same
          rw [client_kept net.flight nat _]
      have flight : (setClient net (c.who b) nat ((d.connector (c.who b)).connect k
          (e.hearing (if failed then .error [] else .timeout)))).1.flight = net.flight := by
        rw [setClient,silent,List.map_nil,List.append_nil]
      refine going.frame ?_ ?_ called still rfl
      · rw [flight]
        exact alike_refl _
      · rw [flight]
        exact going.aside
    · have other (b : Bool) : c.who b ≠ l := fun same => own ⟨b,same.symm⟩
      exact going_others other nat _ (requests_connect k _) (alike_refl _) going.aside going

def Selected : SelectOutcome → Prop
  | .ready _ => True
  | _ => False

instance selected_decidable : DecidablePred Selected
  | .ready _ => isTrue trivial
  | .timeout => isFalse not_false
  | .error => isFalse not_false

/-- Senders are reported whole, and for the two no send, no `select` and no `recvfrom` of a
datagram fails, no client runs out of attempts, what the servers send to one arrives in order,
their record is in time, and no datagram from or to them is lost. -/
def Undisturbed (c : Couple d) (net : ScanNetwork ι) : d.Event fpu → Prop
  | .call l _ _ _ sendOk _ => ∀ b, l = c.who b → sendOk = true
  | .wait l _ _ _ => ∀ b, l = c.who b → ∀ k ∈ net.client l, k.Patient
  | .deliver l position len e _ => 16 ≤ len ∧
    (∀ b, l = c.who b → len < 2 ^ 31 ∧ e.sendOk = true ∧ Selected e.select) ∧
    ∀ p ∈ net.flight[position]?, ∀ b, p.dst = c.home b → p.src ∈ d.servers →
      ∀ q ∈ net.flight.take position, q.dst = p.dst → q.src ∉ d.servers
  | .serve _ position clock1 _ _ => ∀ p ∈ net.flight[position]?, ∀ b, p.src = c.home b →
    ∀ t ∈ net.server.psTransactionClientMap c.id, ¬t.expired clock1
  | .lose position => ∀ p ∈ net.flight[position]?, ∀ b, p.src ≠ c.home b ∧ p.dst ≠ c.home b

instance undisturbed_decidable (c : Couple d) (net : ScanNetwork ι) :
    DecidablePred fun e : d.Event fpu => c.Undisturbed net e
  | .call l _ _ _ sendOk _ => inferInstanceAs (Decidable (∀ b, l = c.who b → sendOk = true))
  | .wait l _ _ _ => inferInstanceAs (Decidable (∀ b, l = c.who b → ∀ k ∈ net.client l, k.Patient))
  | .deliver l position len e _ => inferInstanceAs (Decidable (16 ≤ len ∧
    (∀ b, l = c.who b → len < 2 ^ 31 ∧ e.sendOk = true ∧ Selected e.select) ∧
    ∀ p ∈ net.flight[position]?, ∀ b, p.dst = c.home b → p.src ∈ d.servers →
      ∀ q ∈ net.flight.take position, q.dst = p.dst → q.src ∉ d.servers))
  | .serve _ position clock1 _ _ => inferInstanceAs (Decidable (∀ p ∈ net.flight[position]?, ∀ b,
    p.src = c.home b → ∀ t ∈ net.server.psTransactionClientMap c.id, ¬t.expired clock1))
  | .lose position => inferInstanceAs (Decidable (∀ p ∈ net.flight[position]?, ∀ b,
    p.src ≠ c.home b ∧ p.dst ≠ c.home b))

/-- The network, with those of the two the server hears from in order. -/
def hearing (c : Couple d) : Machine (ScanNetwork ι) (d.Event fpu) Bool :=
  fun net e => ((d.step net e).1,c.heard net e)

theorem going_step {sent : List Packet} (e : d.Event fpu) (undisturbed : c.Undisturbed net e)
    (consistent : Consistent d fpu net sent) (going : c.Going net es) :
    c.Going (d.step net e).1 (es ++ c.heard net e) := by
  cases e with
  | call l socket portman draw sendOk nat =>
    simp only [step,heard,List.append_nil]
    cases absent : net.client l with
    | none => exact going_call l socket portman draw sendOk nat undisturbed absent going
    | some k => exact going
  | wait l failed e nat =>
    simp only [heard,List.append_nil]
    exact going_wait l failed e nat undisturbed going
  | deliver l position len e nat =>
    obtain ⟨whole,ours,inOrder⟩ := undisturbed
    simp only [heard,List.append_nil]
    refine going_deliver l position len e nat whole ?_ (fun p b found => inOrder p found b) consistent going
    intro b same
    obtain ⟨fits,ok,selected⟩ := ours b same
    refine ⟨fits,ok,?_⟩
    cases outcome : e.select with
    | ready readable => exact ⟨readable,rfl⟩
    | timeout | error =>
      rw [outcome] at selected
      exact selected.elim
  | serve s position clock1 clock2 fresh =>
    exact going_serve s position clock1 clock2 fresh
      (fun p b t found source stored => undisturbed p found b source t stored) consistent going
  | lose position =>
    simp only [step,heard,List.append_nil]
    cases found : net.flight[position]? with
    | none =>
      rw [List.eraseIdx_of_length_le (List.getElem?_eq_none_iff.mp found)]
      exact going
    | some p =>
      have foreign : c.Foreign p := by
        intro b
        obtain ⟨source,dest⟩ := undisturbed p found b
        exact ⟨fun this => source this.1,fun this => dest this.2,fun this => source this.1⟩
      exact going.frame (alike_erase found foreign) (aside_erase position going.aside) (fun _ => rfl)
        (fun _ => rfl) rfl

theorem going_run {events : List (d.Event fpu)} (undisturbed : Along c.hearing c.Undisturbed .start events) :
    (∃ sent, Consistent d fpu (run c.hearing .start events) sent) ∧
      c.Going (run c.hearing .start events) (outputs c.hearing .start events) := by
  refine history_along (fun past net => (∃ sent, Consistent d fpu net sent) ∧
    c.Going net (outputs c.hearing .start past)) ⟨⟨[],consistent_start⟩,going_start c⟩ ?_ undisturbed
  rintro past e ⟨⟨sent,consistent⟩,going⟩ undisturbed
  have whole : WholeAddress e := by
    cases e with
    | deliver l position len e nat => exact undisturbed.1
    | call | wait | serve | lose => trivial
  refine ⟨⟨_,consistent_step e whole consistent⟩,?_⟩
  rw [outputs_append,outputs_cons,outputs_nil,List.append_nil]
  exact going_step e undisturbed consistent going

def Reaches (c : Couple d) (net : ScanNetwork ι) (b : Bool) : Prop :=
  ∃ k, net.client (c.who b) = some k ∧ Succeeded k.toConnecting ∧ k.socket.targetAddress = (c.home !b).sockaddr

def Waits (c : Couple d) (net : ScanNetwork ι) (b : Bool) : Prop :=
  ∃ k n, net.client (c.who b) = some k ∧ k.progress = .receiving (n + 1) ∧
    k.socket.targetAddress = (d.connector (c.who b)).stunServerAddr2

omit [DecidableEq ι] in
theorem waits_of_listening {b : Bool} (listening : c.stage net b = some .listening) : c.Waits net b := by
  obtain ⟨k,present,stage⟩ := Option.bind_eq_some_iff.mp listening
  obtain ⟨n,receiving,target⟩ := PsConnecting.stage_some stage
  exact ⟨k,n,present,receiving,target⟩

omit [DecidableEq ι] in
theorem reaches_of_connected {sent : List Packet} {b : Bool} (consistent : Consistent d fpu net sent)
    (connected : c.stage net b = some .connected) : c.Reaches net b := by
  obtain ⟨k,present,stage⟩ := Option.bind_eq_some_iff.mp connected
  have good := PsConnecting.stage_connected.mp stage
  refine ⟨k,present,good,?_⟩
  obtain ⟨l,e,owner,target,agree,elsewhere,_⟩ := (consistent.clients _ k present).met good
  obtain ⟨a,rfl⟩ := c.alone l (agree.trans (c.id_who b))
  have other : a ≠ b := by
    rintro rfl
    exact elsewhere rfl
  obtain rfl := Bool.eq_not.mpr other
  rw [target,(c.owns _ e).mp owner]

section Examples

def crowd : ScanDeployment (Option Bool) where
  owner e := if e = ⟨2,20⟩ then some (some false) else if e = ⟨3,30⟩ then some (some true)
    else if e.addr = 4 then some none else none
  ip
    | some b => if b then 3 else 2
    | none => 4
  server s := if s = .first then (Address.mk 1 10).endpoint else (Address.mk 1 11).endpoint
  connector
    | some _ => ⟨⟨1,10⟩,⟨1,11⟩,7,false⟩
    | none => ⟨⟨1,10⟩,⟨1,11⟩,8,true⟩
  located := by
    intro e i
    split_ifs with first second third
    · rintro ⟨⟩
      rw [first]
      rfl
    · rintro ⟨⟩
      rw [second]
      rfl
    · rintro ⟨⟩
      exact third
    · intro owned
      contradiction
  apart s := by cases s <;> decide

def pair : Couple crowd where
  who := some
  home b := if b then ⟨3,30⟩ else ⟨2,20⟩
  owns := by
    intro b e
    constructor
    · intro owned
      simp only [crowd] at owned
      split_ifs at owned with first second
      · cases owned
        exact first
      · cases owned
        exact second
      · simp at owned
    · rintro rfl
      cases b <;> decide
  symmetric _ := rfl
  servers _ := ⟨rfl,rfl⟩
  routed b := by cases b <;> decide
  agree := rfl
  alone := by
    rintro (_ | b) same
    · exact absurd same (by decide)
    · exact ⟨b,rfl⟩
  located := by decide
  apart := by decide
  configured := by decide

def homes (b : Bool) : crowd.Translation (some b) where
  outside _ := pair.home b
  own _ := pair.owner_home b

def theirs : crowd.Translation none where
  outside _ := ⟨4,40⟩
  own _ := rfl

def calls (b : Bool) : crowd.Event .exact := .call (some b) .create .plain .plain true (homes b)

def hears (s : ServerSocket) (time : UInt64) : crowd.Event .exact := .serve s 0 time time none

def gets (b : Bool) (position : Nat) : crowd.Event .exact :=
  .deliver (some b) position 16 (readably quiet) (homes b)

/-- The request of the third client is lost. The server hears the two in turn, and the
first one waits in vain once before its reply arrives. -/
def inTurn : List (crowd.Event .exact) :=
  [.call none .create .plain .plain true theirs,calls false,calls true,.lose 0,hears .first 0,hears .first 1,
    gets false 0,gets true 0,hears .second 2,hears .second 3,gets false 0,gets true 0,
    .wait (some false) false (readably quiet) (homes false),gets false 0,gets true 1,gets false 1,gets true 0]

end Examples

end P2pStun.Couple
