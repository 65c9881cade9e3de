import P2pStun.Descriptors
import P2pStun.P2pPsConnector
import Mathlib.Data.Finset.Sort

/-! Who closes the sockets of a scan. A socket is copied member by member, its
descriptor with it, and every copy that is destroyed closes it. -/
namespace P2pStun
open Runs Descriptors

namespace UdpSocket

def destroy (s : UdpSocket) : List (HandleEvent Int) :=
  if s.initialized then [.closed s.socketHandle] else []

/-- `std::swap` on a type without a move: a copy to a temporary, two copy assignments and
the temporary's end. -/
def swap (a b : UdpSocket) : UdpSocket × UdpSocket × List (HandleEvent Int) :=
  let temporary := a
  (b,temporary,temporary.destroy)

def held (s : UdpSocket) : Finset Int := if s.initialized then {s.socketHandle} else ∅

end UdpSocket

def destroyAll (sockets : List UdpSocket) : List (HandleEvent Int) := sockets.flatMap UdpSocket.destroy

structure Finished where
  inSocket : UdpSocket
  result : Int
  events : List (HandleEvent Int)

namespace P2pPsConnector

variable {fpu : FloatUnit}

def scanSockets (addr : SockaddrIn) : List (ScanCall fpu) → List UdpSocket × List (HandleEvent Int) × Bool
  | [] => ([],[],true)
  | call :: rest =>
    let temporary := UdpSocket.create
    let (socket,ready) := temporary.init call.fd
    if ¬ready then (socket :: List.replicate rest.length .create,temporary.destroy,false)
    else
      let socket := socket.setTargetAddress addr
      let (sockets,events,all) := scanSockets addr rest
      -- one use is the binding, the other the request to the client
      (socket :: sockets,temporary.destroy ++
        [.opened socket.socketHandle,.used socket.socketHandle,.used socket.socketHandle] ++ events,all)

def takeReadable (readable : Int → Bool) (inSocket : UdpSocket) :
    List UdpSocket → Option (UdpSocket × List UdpSocket × List (HandleEvent Int))
  | [] => none
  | socket :: rest =>
    if ¬readable socket.socketHandle then
      (takeReadable readable inSocket rest).map fun (taken,sockets,events) =>
        (taken,socket :: sockets,events)
    else
      let (inSocket,socket,events) := inSocket.swap socket
      some (inSocket,socket :: rest,events)

/-- The branch of `try_start_ps_connection` for a symmetric NAT, the vector's end included. -/
def scanDescriptors (inSocket : UdpSocket) (addr : SockaddrIn) (calls : List (ScanCall fpu))
    (select : SelectOutcome) : Finished :=
  let (sockets,events,all) := scanSockets addr calls
  if ¬all then ⟨inSocket,-1,events ++ destroyAll sockets⟩
  else
    let events := events ++ sockets.map fun s => .used s.socketHandle
    match select with
    | .timeout => ⟨inSocket,0,events ++ destroyAll sockets⟩
    | .error => ⟨inSocket,0,events ++ destroyAll sockets⟩
    | .ready readable =>
      match takeReadable readable inSocket sockets with
      | some (inSocket,sockets,swapped) => ⟨inSocket,1,events ++ swapped ++ destroyAll sockets⟩
      | none => ⟨inSocket,0,events ++ destroyAll sockets⟩

/-- `try_start_ps_connection`, looking at the descriptors. -/
def startPsDescriptors (c : P2pPsConnector) (inSocket : UdpSocket) (bindReply : PsBindReply)
    (e : PsStep fpu) : Finished :=
  let p1 := ntohs bindReply.addrOne.sinPort
  let p2 := ntohs bindReply.addrTwo.sinPort
  let targetPort := determineTargetPort fpu p1 p2 bindReply.t1 bindReply.t2 scanRange e.timeNow
  if targetPort = 0 then ⟨inSocket,-1,[]⟩
  else
    let addr := {bindReply.addrOne with sinPort := htons targetPort}
    if c.isSymNat then scanDescriptors inSocket addr (List.ofFn e.scans) e.select
    else
      let inSocket := inSocket.setTargetAddress addr
      let events := [.used inSocket.socketHandle,.used inSocket.socketHandle]
      match e.select with
      | .timeout => ⟨inSocket,0,events⟩
      | .error => ⟨inSocket,0,events⟩
      | .ready _ => ⟨inSocket,1,events⟩

end P2pPsConnector

def handles (sockets : List UdpSocket) : List Int :=
  (sockets.filter (·.initialized)).map (·.socketHandle)

theorem handles_cons (socket : UdpSocket) (sockets : List UdpSocket) :
    handles (socket :: sockets) =
      if socket.initialized then socket.socketHandle :: handles sockets else handles sockets := by
  cases ready : socket.initialized <;> simp [handles,ready]

theorem handles_append (front back : List UdpSocket) :
    handles (front ++ back) = handles front ++ handles back := by
  simp [handles]

theorem handles_replicate (n : Nat) : handles (List.replicate n .create) = [] := by
  simp [handles,UdpSocket.create]

theorem destroy_eq (socket : UdpSocket) : socket.destroy = (handles [socket]).map .closed := by
  cases ready : socket.initialized <;> simp [UdpSocket.destroy,handles,ready]

theorem destroyAll_eq (sockets : List UdpSocket) :
    destroyAll sockets = (handles sockets).map .closed := by
  induction sockets with
  | nil => rfl
  | cons socket sockets ih =>
    rw [← List.singleton_append,handles_append,List.map_append,← ih,← destroy_eq]
    rfl

namespace P2pPsConnector

variable {fpu : FloatUnit} (addr : SockaddrIn)

theorem scanSockets_none (call : ScanCall fpu) (rest : List (ScanCall fpu)) (failed : call.fd = none) :
    scanSockets addr (call :: rest) =
      (⟨false,.zero,.zero,-1⟩ :: List.replicate rest.length .create,[],false) := by
  simp [scanSockets,failed,UdpSocket.init,UdpSocket.create,UdpSocket.destroy]

theorem scanSockets_some (call : ScanCall fpu) (rest : List (ScanCall fpu)) (fd : Int)
    (found : call.fd = some fd) :
    scanSockets addr (call :: rest) =
      (⟨true,addr,.zero,fd⟩ :: (scanSockets addr rest).1,
        [.opened fd,.used fd,.used fd] ++ (scanSockets addr rest).2.1,(scanSockets addr rest).2.2) := by
  simp [scanSockets,found,UdpSocket.init,UdpSocket.create,UdpSocket.destroy,
    UdpSocket.setTargetAddress]

theorem handles_failed (n : Nat) :
    handles (⟨false,.zero,.zero,-1⟩ :: List.replicate n .create) = [] := by
  rw [handles_cons,handles_replicate]
  rfl

theorem along_scanSockets (calls : List (ScanCall fpu)) (held : Finset Int)
    (fresh : Along holding Fresh held (scanSockets addr calls).2.1) :
    Along holding Held held (scanSockets addr calls).2.1 ∧
      run holding held (scanSockets addr calls).2.1 =
        held ∪ (handles (scanSockets addr calls).1).toFinset ∧
      (handles (scanSockets addr calls).1).Nodup ∧
      ∀ handle ∈ handles (scanSockets addr calls).1, handle ∉ held := by
  induction calls generalizing held with
  | nil => simp [scanSockets,handles]
  | cons call rest ih =>
    cases found : call.fd with
    | none =>
      rw [scanSockets_none addr call rest found]
      simp [handles_failed]
    | some fd =>
      rw [scanSockets_some addr call rest fd found] at fresh ⊢
      obtain ⟨new,_,_,later⟩ := fresh
      obtain ⟨proper,after,distinct,absent⟩ := ih _ later
      have here : fd ∈ insert fd held := Finset.mem_insert_self fd held
      have once : fd ∉ handles (scanSockets addr rest).1 := fun member => absent fd member here
      refine ⟨⟨trivial,here,here,proper⟩,?_,?_,?_⟩
      · refine after.trans ?_
        simp [handles_cons,holding]
      · rw [handles_cons]
        exact List.nodup_cons.mpr ⟨once,distinct⟩
      · rw [handles_cons]
        refine List.forall_mem_cons.mpr ⟨new,fun other member inside => ?_⟩
        exact absent other member (Finset.mem_insert_of_mem inside)

theorem scanSockets_all (calls : List (ScanCall fpu)) :
    (scanSockets addr calls).2.2 = true ↔ ∀ call ∈ calls, call.fd.isSome := by
  induction calls with
  | nil => simp [scanSockets]
  | cons call rest ih =>
    cases found : call.fd with
    | none => simp [scanSockets_none addr call rest found,found]
    | some fd => simp [scanSockets_some addr call rest fd found,found,ih]

theorem scanSockets_eq (c : P2pPsConnector) (basePort : UInt16) (portman : PortManager)
    (calls : List (ScanCall fpu)) :
    (scanSockets addr calls).2.2 = (c.openScanSockets addr basePort portman calls).2.2.2 ∧
      ((scanSockets addr calls).2.2 = true →
        (scanSockets addr calls).1 = (c.openScanSockets addr basePort portman calls).2.1) := by
  induction calls generalizing portman with
  | nil => simp [scanSockets,openScanSockets]
  | cons call rest ih =>
    cases found : call.fd with
    | none =>
      simp [scanSockets_none addr call rest found,openScanSockets,found,UdpSocket.init,
        UdpSocket.create]
    | some fd =>
      have next := ih (UdpSocket.bindByPortman ⟨true,.zero,.zero,fd⟩ portman basePort call.draw).1
      rw [scanSockets_some addr call rest fd found]
      simp only [openScanSockets,found,UdpSocket.init,UdpSocket.create]
      exact ⟨next.1,fun all => congrArg _ (next.2 all)⟩

theorem scanSockets_initialized (calls : List (ScanCall fpu))
    (all : (scanSockets addr calls).2.2 = true) :
    ∀ socket ∈ (scanSockets addr calls).1, socket.initialized = true := by
  induction calls with
  | nil => simp [scanSockets]
  | cons call rest ih =>
    cases found : call.fd with
    | none => simp [scanSockets_none addr call rest found] at all
    | some fd =>
      rw [scanSockets_some addr call rest fd found] at all ⊢
      exact List.forall_mem_cons.mpr ⟨rfl,ih all⟩

theorem handles_of_initialized (sockets : List UdpSocket)
    (ready : ∀ socket ∈ sockets, socket.initialized = true) :
    handles sockets = sockets.map (·.socketHandle) := by
  rw [handles,List.filter_eq_self.mpr ready]

variable (readable : Int → Bool) (inSocket : UdpSocket)

theorem takeReadable_some (sockets rest : List UdpSocket) (taken : UdpSocket)
    (events : List (HandleEvent Int))
    (found : takeReadable readable inSocket sockets = some (taken,rest,events)) :
    events = inSocket.destroy ∧ sockets.find? (fun s => readable s.socketHandle) = some taken ∧
      ∃ front back, sockets = front ++ taken :: back ∧ rest = front ++ inSocket :: back := by
  induction sockets generalizing rest with
  | nil => simp [takeReadable] at found
  | cons socket sockets ih =>
    by_cases set : readable socket.socketHandle
    · simp only [takeReadable,set,not_true_eq_false,if_false,UdpSocket.swap,Option.some.injEq,
        Prod.mk.injEq] at found
      obtain ⟨rfl,rfl,rfl⟩ := found
      exact ⟨rfl,by simp [set],[],sockets,rfl,rfl⟩
    · rw [takeReadable,if_pos set] at found
      obtain ⟨⟨first,others,closes⟩,inside,equal⟩ := Option.map_eq_some_iff.mp found
      obtain ⟨rfl,rfl,rfl⟩ : first = taken ∧ socket :: others = rest ∧ closes = events := by
        simpa using equal
      obtain ⟨same,search,front,back,split,replaced⟩ := ih others inside
      refine ⟨same,by simp [set,search],socket :: front,back,?_,?_⟩
      · rw [split,List.cons_append]
      · rw [replaced,List.cons_append]

theorem takeReadable_none (sockets : List UdpSocket) :
    takeReadable readable inSocket sockets = none ↔
      sockets.find? (fun s => readable s.socketHandle) = none := by
  induction sockets with
  | nil => simp [takeReadable]
  | cons socket sockets ih =>
    by_cases set : readable socket.socketHandle
    · simp [takeReadable,set,UdpSocket.swap]
    · rw [takeReadable,if_pos set,Option.map_eq_none_iff,ih]
      simp [set]

theorem map_socketHandle (calls : List (ScanCall fpu)) (all : (scanSockets addr calls).2.2 = true) :
    (scanSockets addr calls).1.map (·.socketHandle) = calls.filterMap (·.fd) := by
  induction calls with
  | nil => rfl
  | cons call rest ih =>
    cases found : call.fd with
    | none => simp [scanSockets_none addr call rest found] at all
    | some fd =>
      rw [scanSockets_some addr call rest fd found] at all ⊢
      rw [List.map_cons,List.filterMap_cons,found,ih all]

theorem find_scanSockets (calls : List (ScanCall fpu)) (all : (scanSockets addr calls).2.2 = true) :
    (scanSockets addr calls).1.find? (fun s => readable s.socketHandle) = none ↔
      ∀ fd ∈ calls.filterMap (·.fd), ¬readable fd = true := by
  rw [List.find?_eq_none,← map_socketHandle addr calls all]
  simp

def Reached (calls : List (ScanCall fpu)) (select : SelectOutcome) : Prop :=
  (∀ call ∈ calls, call.fd.isSome) ∧
    ∃ readable, select = .ready readable ∧ ∃ fd ∈ calls.filterMap (·.fd), readable fd = true

theorem not_reached (calls : List (ScanCall fpu)) (select : SelectOutcome)
    (all : (scanSockets addr calls).2.2 = true)
    (unset : ∀ readable, select = .ready readable →
      takeReadable readable inSocket (scanSockets addr calls).1 = none) : ¬Reached calls select := by
  rintro ⟨_,readable,rfl,fd,member,set⟩
  have search := (takeReadable_none readable inSocket _).mp (unset readable rfl)
  exact (find_scanSockets addr readable calls all).mp search fd member set

theorem scanDescriptors_unset (calls : List (ScanCall fpu)) (select : SelectOutcome)
    (all : (scanSockets addr calls).2.2 = true)
    (unset : ∀ readable, select = .ready readable →
      takeReadable readable inSocket (scanSockets addr calls).1 = none) :
    scanDescriptors inSocket addr calls select =
      ⟨inSocket,0,(scanSockets addr calls).2.1 ++
        (scanSockets addr calls).1.map (fun s => .used s.socketHandle) ++
        destroyAll (scanSockets addr calls).1⟩ := by
  cases select with
  | timeout | error => simp [scanDescriptors,all]
  | ready readable => simp [scanDescriptors,all,unset readable rfl]

/-- What the branch does to descriptors: it opens those of the scan, uses some of them and
closes a list of them, which names the connection's own twice when that was exchanged. -/
theorem scanDescriptors_cases (calls : List (ScanCall fpu)) (select : SelectOutcome) :
    (∃ (result : Int) (uses : List Int), result ≠ 1 ∧ ¬Reached calls select ∧
      (∀ handle ∈ uses, handle ∈ handles (scanSockets addr calls).1) ∧
      scanDescriptors inSocket addr calls select =
        ⟨inSocket,result,(scanSockets addr calls).2.1 ++ uses.map .used ++
          (handles (scanSockets addr calls).1).map .closed⟩) ∨
    (∃ front taken back, Reached calls select ∧ taken.initialized = true ∧
      (scanSockets addr calls).1 = front ++ taken :: back ∧
      scanDescriptors inSocket addr calls select =
        ⟨taken,1,(scanSockets addr calls).2.1 ++
          (handles (scanSockets addr calls).1).map .used ++
          (handles [inSocket] ++ handles (front ++ inSocket :: back)).map .closed⟩) := by
  cases all : (scanSockets addr calls).2.2 with
  | false =>
    have short : ¬Reached calls select := by
      rintro ⟨every,_⟩
      rw [← scanSockets_all addr,all] at every
      exact absurd every (by decide)
    refine Or.inl ⟨-1,[],by decide,short,by simp,?_⟩
    simp [scanDescriptors,all,destroyAll_eq]
  | true =>
    have uses : (scanSockets addr calls).1.map (fun s => HandleEvent.used s.socketHandle) =
        (handles (scanSockets addr calls).1).map .used := by
      rw [handles_of_initialized _ (scanSockets_initialized addr calls all),List.map_map]
      rfl
    rw [← uses]
    by_cases unset : ∀ readable, select = .ready readable →
        takeReadable readable inSocket (scanSockets addr calls).1 = none
    · refine Or.inl ⟨0,_,by decide,not_reached addr inSocket calls select all unset,
        fun _ member => member,?_⟩
      rw [← uses,← destroyAll_eq]
      exact scanDescriptors_unset addr inSocket calls select all unset
    · obtain ⟨readable,rfl,took⟩ := not_forall₂.mp unset
      obtain ⟨⟨taken,rest,events⟩,took⟩ := Option.ne_none_iff_exists'.mp took
      obtain ⟨rfl,hit,front,back,split,rfl⟩ := takeReadable_some readable inSocket _ _ _ _ took
      have reached : Reached calls (.ready readable) := by
        refine ⟨(scanSockets_all addr calls).mp all,readable,rfl,?_⟩
        by_contra unset
        have search := find_scanSockets addr readable calls all
        rw [search.mpr fun fd member set => unset ⟨fd,member,set⟩] at hit
        cases hit
      have ready : taken.initialized = true := by
        refine scanSockets_initialized addr calls all taken ?_
        rw [split]
        simp
      refine Or.inr ⟨front,taken,back,reached,ready,split,?_⟩
      rw [List.map_append,← destroy_eq,← destroyAll_eq]
      simp [scanDescriptors,all,took]

/-- Looking at descriptors changes neither the result nor the socket of the connection. -/
theorem startPsDescriptors_eq (c : P2pPsConnector) (k : PsConnecting) (bindReply : PsBindReply)
    (e : PsStep fpu) :
    (c.startPsDescriptors k.socket bindReply e).inSocket =
        (c.tryStartPsConnection k bindReply e).1.socket ∧
      (c.startPsDescriptors k.socket bindReply e).result =
        (c.tryStartPsConnection k bindReply e).2.1 := by
  by_cases unpredictable : determineTargetPort fpu (ntohs bindReply.addrOne.sinPort)
      (ntohs bindReply.addrTwo.sinPort) bindReply.t1 bindReply.t2 scanRange e.timeNow = 0
  · simp [startPsDescriptors,tryStartPsConnection,unpredictable]
  simp only [startPsDescriptors,tryStartPsConnection,if_neg unpredictable]
  generalize ({bindReply.addrOne with sinPort := _} : SockaddrIn) = addr
  by_cases sym : c.isSymNat = true
  · obtain ⟨opened,same⟩ := scanSockets_eq addr c k.basePort k.portman (List.ofFn e.scans)
    simp only [scanDescriptors,if_pos sym]
    cases all : (scanSockets addr (List.ofFn e.scans)).2.2 with
    | false => simp only [← opened,all,Bool.false_eq_true,not_false_eq_true,if_true,and_self]
    | true =>
      simp only [← opened,← same all,all,not_true_eq_false,if_false]
      cases e.select with
      | timeout => exact ⟨rfl,rfl⟩
      | error => exact ⟨rfl,rfl⟩
      | ready readable =>
        cases took : takeReadable readable k.socket (scanSockets addr (List.ofFn e.scans)).1 with
        | none =>
          simp only [took,(takeReadable_none readable k.socket _).mp took,and_self]
        | some found =>
          obtain ⟨_,hit,_⟩ := takeReadable_some readable k.socket _ _ _ _ took
          simp only [took,hit,and_self]
  · simp only [if_neg sym]
    cases e.select <;> exact ⟨rfl,rfl⟩

theorem along_scan (calls : List (ScanCall fpu)) (held : Finset Int) (uses closes : List Int)
    (inside : ∀ handle ∈ uses, handle ∈ handles (scanSockets addr calls).1)
    (fresh : Along holding Fresh held
      ((scanSockets addr calls).2.1 ++ uses.map .used ++ closes.map .closed)) :
    (Along holding Held held ((scanSockets addr calls).2.1 ++ uses.map .used ++ closes.map .closed) ↔
      closes.Nodup ∧ ∀ handle ∈ closes, handle ∈ held ∪ (handles (scanSockets addr calls).1).toFinset) ∧
    run holding held ((scanSockets addr calls).2.1 ++ uses.map .used ++ closes.map .closed) =
      (held ∪ (handles (scanSockets addr calls).1).toFinset) \ closes.toFinset ∧
    (handles (scanSockets addr calls).1).Nodup ∧
      ∀ handle ∈ handles (scanSockets addr calls).1, handle ∉ held := by
  rw [along_append,along_append] at fresh
  obtain ⟨proper,after,distinct,absent⟩ := along_scanSockets addr calls held fresh.1.1
  have used : Along holding Held (held ∪ (handles (scanSockets addr calls).1).toFinset)
      (uses.map .used) := by
    refine along_used _ _ fun handle member => ?_
    exact Finset.mem_union_right _ (List.mem_toFinset.mpr (inside handle member))
  refine ⟨?_,?_,distinct,absent⟩
  · rw [along_append,along_append,run_append,after,run_used,along_closed]
    exact and_iff_right ⟨proper,used⟩
  · rw [run_append,run_append,after,run_used,run_closed]

/-- No descriptor is closed or used by one that does not hold it, none of the call's own
stays open but the connection's, and after success that one is held nowhere else. -/
def OneOwner (t : Table Int) (steps : List (Step Int)) (finished : Finished) : Prop :=
  Along table Proper t steps ∧ (run table t steps).own = finished.inSocket.held ∧
    (finished.result = 1 → finished.inSocket.initialized = true ∧
      finished.inSocket.socketHandle ∈ (run table t steps).own ∧
      finished.inSocket.socketHandle ∉ (run table t steps).others)

theorem oneOwner_of_stays (t : Table Int) (steps : List (Step Int)) (result : Int)
    (events : List (HandleEvent Int)) (calls : List (ScanCall fpu)) (uses : List Int) (other : result ≠ 1)
    (mine : t.own = inSocket.held) (apart : Disjoint t.own t.others)
    (granted : Along table Granted t steps)
    (inside : ∀ handle ∈ uses, handle ∈ handles (scanSockets addr calls).1)
    (trace : steps.filterMap ownEvent = (scanSockets addr calls).2.1 ++ uses.map .used ++
      (handles (scanSockets addr calls).1).map .closed) :
    OneOwner t steps ⟨inSocket,result,events⟩ := by
  obtain ⟨after,_,fresh,proper⟩ := along_own t steps apart granted
  rw [trace] at after fresh proper
  obtain ⟨held,rest,distinct,absent⟩ := along_scan addr calls t.own uses _ inside fresh
  refine ⟨proper.mpr (held.mpr ⟨distinct,fun handle member => ?_⟩),?_,fun success => absurd success other⟩
  · exact Finset.mem_union_right _ (List.mem_toFinset.mpr member)
  · rw [after,rest,← mine,Finset.union_sdiff_right]
    refine Finset.sdiff_eq_self_of_disjoint (Finset.disjoint_right.mpr fun handle member => ?_)
    exact absent handle (List.mem_toFinset.mp member)

theorem not_oneOwner_of_exchanged (t : Table Int) (steps : List (Step Int))
    (calls : List (ScanCall fpu)) (front back : List UdpSocket) (finished : Finished)
    (apart : Disjoint t.own t.others) (granted : Along table Granted t steps)
    (open_socket : inSocket.initialized = true)
    (trace : steps.filterMap ownEvent = (scanSockets addr calls).2.1 ++
      (handles (scanSockets addr calls).1).map .used ++
      (handles [inSocket] ++ handles (front ++ inSocket :: back)).map .closed) :
    ¬OneOwner t steps finished := by
  rintro ⟨owner,_⟩
  obtain ⟨_,_,fresh,proper⟩ := along_own t steps apart granted
  rw [trace] at fresh proper
  have held := (along_scan addr calls t.own _ _ (fun _ member => member) fresh).1
  have once := (held.mp (proper.mp owner)).1
  simp [handles_cons,handles_append,open_socket] at once

theorem oneOwner_of_exchanged (t : Table Int) (steps : List (Step Int))
    (calls : List (ScanCall fpu)) (front back : List UdpSocket) (taken : UdpSocket)
    (events : List (HandleEvent Int)) (mine : t.own = inSocket.held) (apart : Disjoint t.own t.others)
    (granted : Along table Granted t steps) (unset : inSocket.initialized = false)
    (ready : taken.initialized = true) (split : (scanSockets addr calls).1 = front ++ taken :: back)
    (trace : steps.filterMap ownEvent = (scanSockets addr calls).2.1 ++
      (handles (scanSockets addr calls).1).map .used ++
      (handles [inSocket] ++ handles (front ++ inSocket :: back)).map .closed) :
    OneOwner t steps ⟨taken,1,events⟩ := by
  have opens : handles (scanSockets addr calls).1 = handles front ++ taken.socketHandle :: handles back := by
    rw [split,handles_append,handles_cons,if_pos ready]
  have closes : handles [inSocket] ++ handles (front ++ inSocket :: back) =
      handles front ++ handles back := by
    simp [handles,unset]
  have empty : t.own = ∅ := by simp [mine,UdpSocket.held,unset]
  obtain ⟨after,unshared,fresh,proper⟩ := along_own t steps apart granted
  rw [trace,closes] at after fresh proper
  obtain ⟨held,rest,distinct,_⟩ := along_scan addr calls t.own _ _ (fun _ member => member) fresh
  have once := List.nodup_cons.mp (List.nodup_middle.mp (opens ▸ distinct))
  have left : (run table t steps).own = taken.held := by
    rw [after,rest,opens,empty,UdpSocket.held,if_pos ready]
    ext handle
    simp only [Finset.mem_sdiff,Finset.mem_union,Finset.notMem_empty,List.mem_toFinset,
      List.mem_append,List.mem_cons,Finset.mem_singleton,false_or]
    constructor
    · tauto
    · rintro rfl
      exact ⟨by tauto,fun member => once.1 (List.mem_append.mpr member)⟩
  have member : taken.socketHandle ∈ (run table t steps).own := by
    rw [left,UdpSocket.held,if_pos ready]
    exact Finset.mem_singleton_self _
  refine ⟨proper.mpr (held.mpr ⟨once.2,fun handle inside => ?_⟩),left,fun _ => ?_⟩
  · rw [opens]
    simp only [Finset.mem_union,List.mem_toFinset,List.mem_append,List.mem_cons] at inside ⊢
    tauto
  · exact ⟨ready,member,Finset.disjoint_left.mp unshared member⟩

def HandsOver (bindReply : PsBindReply) (e : PsStep fpu) : Prop :=
  determineTargetPort fpu (ntohs bindReply.addrOne.sinPort) (ntohs bindReply.addrTwo.sinPort)
      bindReply.t1 bindReply.t2 scanRange e.timeNow ≠ 0 ∧
    Reached (List.ofFn e.scans) e.select

/-- Every descriptor has one owner and is closed once exactly where the scan does not hand
over a socket to a connection that has one. -/
theorem oneOwner_iff (c : P2pPsConnector) (sym : c.isSymNat = true) (inSocket : UdpSocket)
    (bindReply : PsBindReply) (e : PsStep fpu) (t : Table Int) (steps : List (Step Int))
    (mine : t.own = inSocket.held) (apart : Disjoint t.own t.others)
    (granted : Along table Granted t steps)
    (trace : steps.filterMap ownEvent = (startPsDescriptors c inSocket bindReply e).events) :
    OneOwner t steps (startPsDescriptors c inSocket bindReply e) ↔
      ¬(inSocket.initialized = true ∧ HandsOver bindReply e) := by
  by_cases unpredictable : determineTargetPort fpu (ntohs bindReply.addrOne.sinPort)
      (ntohs bindReply.addrTwo.sinPort) bindReply.t1 bindReply.t2 scanRange e.timeNow = 0
  · have value : startPsDescriptors c inSocket bindReply e = ⟨inSocket,-1,[]⟩ := if_pos unpredictable
    obtain ⟨after,_,_,proper⟩ := along_own t steps apart granted
    rw [trace,value] at after proper
    refine iff_of_true ?_ (fun handsOver => handsOver.2.1 unpredictable)
    rw [value]
    exact ⟨proper.mpr trivial,after.trans mine,fun success => absurd (show (-1 : Int) = 1 from success) (by decide)⟩
  · have value : ∃ addr, startPsDescriptors c inSocket bindReply e =
        scanDescriptors inSocket addr (List.ofFn e.scans) e.select :=
      ⟨_,(if_neg unpredictable).trans (if_pos sym)⟩
    obtain ⟨addr,value⟩ := value
    rw [value] at trace ⊢
    obtain ⟨result,uses,other,short,inside,equal⟩ | ⟨front,taken,back,reached,ready,split,equal⟩ :=
      scanDescriptors_cases addr inSocket (List.ofFn e.scans) e.select
    · rw [equal] at trace ⊢
      exact iff_of_true (oneOwner_of_stays addr inSocket t steps result _ _ uses other mine apart granted
        inside trace) (fun handsOver => short handsOver.2.2)
    · rw [equal] at trace ⊢
      cases initialized : inSocket.initialized with
      | true =>
        exact iff_of_false (not_oneOwner_of_exchanged addr inSocket t steps _ front back _ apart granted
          initialized trace) (not_not.mpr ⟨rfl,unpredictable,reached⟩)
      | false =>
        exact iff_of_true (oneOwner_of_exchanged addr inSocket t steps _ front back taken _ mine apart
          granted initialized ready split trace) (by simp)

def scanOf (select : SelectOutcome) : PsStep .exact where
  outcome := .timeout
  sendOk := true
  stack := .zero
  helperFd := none
  helperDraw := ⟨0,(0 : ℚ),true⟩
  timeNow := 0
  scans i := ⟨some (10 + i.val),⟨0,(0 : ℚ),true⟩,true,.zero⟩
  select := select

def samePorts : PsBindReply := ⟨Endpoint.sockaddr ⟨1,htons 4000⟩,Endpoint.sockaddr ⟨1,htons 4000⟩,0,0⟩

def symmetric : P2pPsConnector := ⟨⟨8,3333⟩,⟨9,3333⟩,7,true⟩

def eventsOf (select : SelectOutcome) : List (HandleEvent Int) :=
  (startPsDescriptors symmetric ⟨true,.zero,.zero,3⟩ samePorts (scanOf select)).events

theorem ownEvent_own (events : List (HandleEvent Int)) : (events.map Step.own).filterMap ownEvent = events := by
  induction events with
  | nil => rfl
  | cons event events ih => exact congrArg _ ih

theorem oneOwner_timeout :
    OneOwner ⟨{3},{4}⟩ ((eventsOf .timeout).map .own)
      (startPsDescriptors symmetric ⟨true,.zero,.zero,3⟩ samePorts (scanOf .timeout)) :=
  (oneOwner_iff symmetric rfl ⟨true,.zero,.zero,3⟩ samePorts (scanOf .timeout) ⟨{3},{4}⟩
    ((eventsOf .timeout).map .own) rfl (by decide) (by decide +kernel) (ownEvent_own _)).mpr
    (by rintro ⟨_,_,_,_,equal,_⟩; cases equal)

def interleaved : List (Step Int) :=
  ((eventsOf (.ready (· = 10))).take 201).map .own ++ .other (.opened 3) ::
    ((eventsOf (.ready (· = 10))).drop 201).map .own

theorem exchanged_not_oneOwner :
    Along table Granted ⟨{3},{4}⟩ interleaved ∧
      interleaved.filterMap ownEvent = eventsOf (.ready (· = 10)) ∧
      (startPsDescriptors symmetric ⟨true,.zero,.zero,3⟩ samePorts (scanOf (.ready (· = 10)))).result = 1 ∧
      ¬OneOwner ⟨{3},{4}⟩ interleaved
        (startPsDescriptors symmetric ⟨true,.zero,.zero,3⟩ samePorts (scanOf (.ready (· = 10)))) :=
  ⟨by decide +kernel,by decide +kernel,by decide +kernel,
    fun owner => absurd owner.1 (by decide +kernel)⟩

end P2pPsConnector

end P2pStun
