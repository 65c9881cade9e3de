import P2pStun.ReceiveBuffer

/-! The whole of `udp_server_t::start`: the set-up of its two sockets and its loop around
`select`, whose every round has a buffer of its own and reads the sockets that are ready. -/
namespace P2pStun
open Runs

structure SetUp where
  socket : ServerSocket → Option Int
  bind : Int → Endpoint → Int

structure Taken where
  payload : Payload
  source : Endpoint
  clock1 : UInt64
  clock2 : UInt64

/-- One round of the loop. `stack` is what its buffer holds before anything is read;
`none` stands for the error of a call. -/
structure Round where
  sigClose : Bool
  stack : Message
  select : Option (ServerSocket → Bool)
  recvfrom : ServerSocket → Option Taken

inductive Listening
  | running (server : UdpServer)
  | returned (result : Bool)

namespace UdpServer

/-- The loop over the sockets that follows `select`; it ends at the first error. -/
def readSockets (ready : ServerSocket → Bool) (recvfrom : ServerSocket → Option Taken) :
    List ServerSocket → UdpServer → UdpServer × List Sent × Bool
  | [],s => (s,[],true)
  | i :: rest,s =>
    if ready i then match recvfrom i with
      | none => (s,[],false)
      | some a =>
        let (s,sent) := handle s ⟨i,a.payload,a.source,a.clock1,a.clock2,none⟩
        let (s,more,ok) := readSockets ready recvfrom rest s
        (s,sent ++ more,ok)
    else readSockets ready recvfrom rest s

def listen : Machine Listening Round Sent := fun l e => match l with
  | .returned result => (.returned result,[])
  | .running s =>
    if e.sigClose then (.returned true,[])
    else match e.select with
      | none => (.returned false,[])
      | some ready =>
        let (s,sent,ok) := readSockets ready e.recvfrom [.first,.second] {s with msg := e.stack}
        (if ok then .running s else .returned false,sent)

def setUp (port1 port2 : UInt16) (x : SetUp) : Listening :=
  match x.socket .first with
  | none => .returned false
  | some socket1 =>
    if x.bind socket1 ⟨0,htons port1⟩ > 0 then .returned false
    else match x.socket .second with
      | none => .returned false
      | some socket2 =>
        if x.bind socket2 ⟨0,htons port2⟩ > 0 then .returned false
        else .running init

/-- The datagrams a round takes from the sockets; only the first of them meets the
buffer as the round found it. -/
def takenFrom (ready : ServerSocket → Bool) (recvfrom : ServerSocket → Option Taken) :
    List ServerSocket → Option Message → List Received
  | [],_ => []
  | i :: rest,fresh =>
    if ready i then match recvfrom i with
      | none => []
      | some a => ⟨i,a.payload,a.source,a.clock1,a.clock2,fresh⟩ :: takenFrom ready recvfrom rest none
    else takenFrom ready recvfrom rest fresh

def takenIn (l : Listening) (e : Round) : List Received :=
  match l with
  | .returned _ => []
  | .running _ =>
    if e.sigClose then []
    else match e.select with
      | none => []
      | some ready => takenFrom ready e.recvfrom [.first,.second] (some e.stack)

theorem handle_sameMaps {s t : UdpServer} (same : SameMaps s t) (d e : Received)
    (read : s.buffer d = t.buffer e) (socket : d.socket = e.socket) (source : d.source = e.source)
    (clocks : d.clock1 = e.clock1 ∧ d.clock2 = e.clock2) :
    SameMaps (handle s d).1 (handle t e).1 ∧ (handle s d).1.msg = (handle t e).1.msg ∧
      (handle s d).2 = (handle t e).2 := by
  have request : s.psRequest d = t.psRequest e := by
    rw [psRequest,psRequest,read,socket,source,clocks.1,clocks.2]
  obtain ⟨maps,sent⟩ := handle_congr same source (congrArg Message.type read) (fun _ => request)
  have msg : (handle s d).1.msg = (handle t e).1.msg := by
    unfold handle
    rw [read,same.1,same.2,request,source]
  exact ⟨maps,msg,sent⟩

theorem readSockets_taken (ready : ServerSocket → Bool) (recvfrom : ServerSocket → Option Taken)
    (sockets : List ServerSocket) (s t : UdpServer) (fresh : Option Message) (same : SameMaps s t)
    (buffer : s.msg = fresh.getD t.msg) :
    SameMaps (readSockets ready recvfrom sockets s).1
        (run handle t (takenFrom ready recvfrom sockets fresh)) ∧
      (readSockets ready recvfrom sockets s).2.1 =
        outputs handle t (takenFrom ready recvfrom sockets fresh) := by
  induction sockets generalizing s t fresh with
  | nil => exact ⟨same,rfl⟩
  | cons i rest ih =>
    cases is : ready i with
    | false =>
      simp only [readSockets,takenFrom,is,Bool.false_eq_true,if_false]
      exact ih s t fresh same buffer
    | true =>
      cases found : recvfrom i with
      | none =>
        simp only [readSockets,takenFrom,is,found,if_true]
        exact ⟨same,rfl⟩
      | some a =>
        let d : Received := ⟨i,a.payload,a.source,a.clock1,a.clock2,none⟩
        let e : Received := ⟨i,a.payload,a.source,a.clock1,a.clock2,fresh⟩
        have read : s.buffer d = t.buffer e := by
          simp only [UdpServer.buffer,d,e,Option.getD_none,buffer]
        obtain ⟨maps,msg,sent⟩ := handle_sameMaps same d e read rfl rfl ⟨rfl,rfl⟩
        obtain ⟨final,more⟩ := ih (handle s d).1 (handle t e).1 none maps msg
        simp only [readSockets,takenFrom,is,found,if_true,run_cons,outputs_cons]
        exact ⟨final,congrArg₂ (· ++ ·) sent more⟩

def Matches (l : Listening) (t : UdpServer) : Prop :=
  ∀ s, l = .running s → SameMaps s t

theorem listen_matches (l : Listening) (t : UdpServer) (e : Round) (before : Matches l t) :
    Matches (listen l e).1 (run handle t (takenIn l e)) ∧
      (listen l e).2 = outputs handle t (takenIn l e) := by
  cases l with
  | returned result => exact ⟨before,rfl⟩
  | running s =>
    cases closed : e.sigClose with
    | true =>
      simp only [listen,takenIn,closed,if_true]
      exact ⟨nofun,rfl⟩
    | false =>
      cases selected : e.select with
      | none =>
        simp only [listen,takenIn,closed,selected,Bool.false_eq_true,if_false]
        exact ⟨nofun,rfl⟩
      | some ready =>
        obtain ⟨maps,sent⟩ := readSockets_taken ready e.recvfrom [.first,.second] {s with msg := e.stack} t
          (some e.stack) (before s rfl) rfl
        simp only [listen,takenIn,closed,selected,Bool.false_eq_true,if_false]
        refine ⟨?_,sent⟩
        intro u running
        split at running
        · cases running
          exact maps
        · contradiction

/-- A `bind` that fails is not noticed: its -1 is not greater than zero. -/
theorem setUp_eq (port1 port2 : UInt16) (x : SetUp) (answers : ∀ fd e, x.bind fd e ≤ 0) :
    setUp port1 port2 x =
      if (x.socket .first).isSome ∧ (x.socket .second).isSome then .running init else .returned false := by
  cases first : x.socket .first with
  | none => simp [setUp,first]
  | some socket1 =>
    have bound1 := Int.not_lt.mpr (answers socket1 ⟨0,htons port1⟩)
    cases second : x.socket .second with
    | none => simp [setUp,first,second]
    | some socket2 =>
      have bound2 := Int.not_lt.mpr (answers socket2 ⟨0,htons port2⟩)
      simp [setUp,first,second,bound1,bound2]

def roundEnds (e : Round) : Option Bool :=
  if e.sigClose then some true
  else match e.select with
    | none => some false
    | some ready =>
      if [ServerSocket.first,.second].any (fun i => ready i && (e.recvfrom i).isNone) then some false
      else none

theorem readSockets_ok (ready : ServerSocket → Bool) (recvfrom : ServerSocket → Option Taken)
    (sockets : List ServerSocket) (s : UdpServer) :
    (readSockets ready recvfrom sockets s).2.2 =
      !sockets.any (fun i => ready i && (recvfrom i).isNone) := by
  induction sockets generalizing s with
  | nil => rfl
  | cons i rest ih =>
    cases is : ready i with
    | false => simp [readSockets,is,ih]
    | true =>
      cases found : recvfrom i with
      | none => simp [readSockets,is,found]
      | some a => simp [readSockets,is,found,ih]

theorem listen_ends (s : UdpServer) (e : Round) (result : Bool) :
    (listen (.running s) e).1 = .returned result ↔ roundEnds e = some result := by
  cases closed : e.sigClose with
  | true => simp [listen,roundEnds,closed]
  | false =>
    cases selected : e.select with
    | none => simp [listen,roundEnds,closed,selected]
    | some ready =>
      have ok := readSockets_ok ready e.recvfrom [.first,.second] {s with msg := e.stack}
      simp only [listen,roundEnds,closed,selected,Bool.false_eq_true,if_false]
      generalize [ServerSocket.first,.second].any (fun i => ready i && (e.recvfrom i).isNone) = failed at ok ⊢
      rw [ok]
      cases failed <;> simp

theorem listen_returned (result : Bool) (rounds : List Round) :
    run listen (.returned result) rounds = .returned result := by
  induction rounds with
  | nil => rfl
  | cons e rounds ih => exact ih

theorem listen_run_returned (s : UdpServer) (rounds : List Round) (result : Bool) :
    run listen (.running s) rounds = .returned result ↔ rounds.findSome? roundEnds = some result := by
  induction rounds generalizing s with
  | nil => simp
  | cons e rounds ih =>
    rw [run_cons,List.findSome?_cons]
    have ends := listen_ends s e
    cases next : (listen (.running s) e).1 with
    | returned early =>
      rw [listen_returned,(ends early).mp next]
      simp
    | running t =>
      have goes : roundEnds e = none := by
        rw [Option.eq_none_iff_forall_ne_some]
        intro early same
        exact absurd (next.symm.trans ((ends early).mpr same)) nofun
      rw [ih,goes]

/-- The datagrams that `start` sends, and its maps while it runs, are those of the server
that handles one after the other what the rounds took from the sockets. -/
theorem start_refines (port1 port2 : UInt16) (x : SetUp) (rounds : List Round) :
    let l := setUp port1 port2 x
    outputs listen l rounds = outputs handle init (expansion listen takenIn l rounds) ∧
      ∀ s, run listen l rounds = .running s →
        SameMaps s (run handle init (expansion listen takenIn l rounds)) := by
  intro l
  have start : Matches l init := by
    intro s running
    simp only [l,setUp] at running
    split at running
    · contradiction
    · split at running
      · contradiction
      · split at running
        · contradiction
        · split at running
          · contradiction
          · cases running
            exact ⟨rfl,rfl⟩
  obtain ⟨final,sent⟩ := run_expansion listen_matches start rounds
  exact ⟨sent,final⟩

/-- `start` returns false if a socket cannot be made, and otherwise what its first round
that is closed or fails makes of it. -/
theorem start_returns_iff (port1 port2 : UInt16) (x : SetUp) (answers : ∀ fd e, x.bind fd e ≤ 0)
    (rounds : List Round) (result : Bool) :
    run listen (setUp port1 port2 x) rounds = .returned result ↔
      (if (x.socket .first).isSome ∧ (x.socket .second).isSome then rounds.findSome? roundEnds
        else some false) = some result := by
  rw [setUp_eq port1 port2 x answers]
  split
  · exact listen_run_returned init rounds result
  · rw [listen_returned]
    simp

theorem unbound_returns :
    run listen (setUp 3333 3334 ⟨fun _ => some 3,fun _ _ => -1⟩)
      [⟨false,Message.zero,some (· == .first),fun _ => some ⟨[7],⟨1,10⟩,0,0⟩⟩,
        ⟨true,Message.zero,none,fun _ => none⟩] = .returned true :=
  (start_returns_iff 3333 3334 _ (fun _ _ => by simp) _ true).mpr (by decide)

end UdpServer

end P2pStun
