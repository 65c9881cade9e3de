import P2pStun.SharedManager

/-! The ports that the attempts of one process bind. Each attempt has a block of its own,
and the range of a block is enough for what an attempt draws from it. -/
namespace P2pStun
open Runs Offsets

variable {fpu : FloatUnit} {W : Type}

def basesOf (log : List Assigned) : List UInt16 :=
  log.filterMap fun
    | .base port => some port
    | .fromBase _ _ => none

theorem mem_basesOf (log : List Assigned) (base : UInt16) : base ∈ basesOf log ↔ Assigned.base base ∈ log := by
  simp only [basesOf,List.mem_filterMap]
  constructor
  · rintro ⟨assigned,member,found⟩
    cases assigned with
    | base port => exact Option.some.inj found ▸ member
    | fromBase base port => contradiction
  · exact fun member => ⟨_,member,rfl⟩

def historyOf (p : PortManager) (log : List Assigned) : PortHistory := ⟨p,log.reverse⟩

theorem historyOf_bases (p : PortManager) (log : List Assigned) :
    (historyOf p log).bases = (basesOf log).reverse := by
  rw [historyOf,PortHistory.bases,List.filterMap_reverse]
  rfl

def siblingsOf (log : List Assigned) (basePort : UInt16) : Nat :=
  log.countP fun
    | .base _ => false
    | .fromBase base _ => base == basePort

theorem historyOf_siblings (p : PortManager) (log : List Assigned) (basePort : UInt16) :
    (historyOf p log).siblings basePort = siblingsOf log basePort := by
  rw [historyOf,PortHistory.siblings,List.countP_reverse]
  rfl

theorem siblingsOf_base (log : List Assigned) (basePort port : UInt16) :
    siblingsOf (log ++ [.base port]) basePort = siblingsOf log basePort := by
  simp [siblingsOf]

theorem siblingsOf_fromBase (log : List Assigned) (basePort base port : UInt16) :
    siblingsOf (log ++ [.fromBase base port]) basePort =
      siblingsOf log basePort + if base = basePort then 1 else 0 := by
  simp [siblingsOf,List.countP_cons]

theorem historyOf_ports (p : PortManager) (log : List Assigned) :
    (historyOf p log).ports = (log.map Assigned.port).reverse := by
  simp [historyOf,PortHistory.ports]

theorem historyOf_newBase (p : PortManager) (log : List Assigned) (d : Draw fpu) :
    historyOf (p.assignNext d).1 (log ++ [.base (p.assignNext d).2]) =
      (PortHistory.assign (historyOf p log) (.assignNext d)).1 := by
  simp [historyOf,PortHistory.assign]

theorem historyOf_fromBase (p : PortManager) (log : List Assigned) (basePort : UInt16) (d : Draw fpu) :
    historyOf (p.assignNextFromBase basePort d).1
        (log ++ [.fromBase basePort (p.assignNextFromBase basePort d).2]) =
      (PortHistory.assign (historyOf p log) (.assignNextFromBase basePort d)).1 := by
  simp [historyOf,PortHistory.assign]

/-- While all blocks fit above the origin, the counter is as many ranges further on. -/
structure Stacked (first : PortManager) (p : PortManager) (log : List Assigned) : Prop where
  range : p.reservedPortRangePerAlloc = first.reservedPortRangePerAlloc
  lowest : p.minPort = first.minPort
  inBlocks : InBlocks first.currentPort (historyOf p log)
  counter : p.currentPort =
    .ofNat (first.currentPort.toNat + (basesOf log).length * first.reservedPortRangePerAlloc.toNat)
  whole : ∀ base ∈ basesOf log, first.minPort ≤ base ∧
    base.toNat + first.reservedPortRangePerAlloc.toNat ≤ 65536
  drawn : ∀ base port, .fromBase base port ∈ log → .base base ∈ log ∧ base < port ∧
    port.toNat < base.toNat + first.reservedPortRangePerAlloc.toNat

namespace Stacked

variable {first p : PortManager} {log : List Assigned}

theorem initial (p : PortManager) (plain : p.simulatedNormalAllocsPerSecond = 0)
    (start : p.minPort ≤ p.currentPort) : Stacked p p [] where
  range := rfl
  lowest := rfl
  inBlocks := ⟨0,Blocks.initial p plain start⟩
  counter := by simp [basesOf]
  whole := by simp [basesOf]
  drawn := by simp

theorem newBase (stacked : Stacked first p log) (d : Draw fpu) (start : first.minPort ≤ first.currentPort)
    (positive : 0 < first.reservedPortRangePerAlloc.toNat)
    (room : first.currentPort.toNat + ((basesOf log).length + 1) * first.reservedPortRangePerAlloc.toNat ≤ 65536) :
    Stacked first (p.assignNext d).1 (log ++ [.base (p.assignNext d).2]) := by
  have lowest : first.minPort.toNat ≤ first.currentPort.toNat := start
  rw [Nat.succ_mul] at room
  have value : p.currentPort.toNat =
      first.currentPort.toNat + (basesOf log).length * first.reservedPortRangePerAlloc.toNat := by
    rw [stacked.counter,UInt16.toNat_ofNat']
    exact Nat.mod_eq_of_lt (by omega)
  have above : ¬p.currentPort < p.minPort := by
    rw [UInt16.lt_iff_toNat_lt,value,stacked.lowest]
    omega
  have port : (p.assignNext d).2 = p.currentPort := by
    simp [PortManager.assignNext,above]
  have least : first.minPort ≤ p.currentPort := by
    rw [UInt16.le_iff_toNat_le,value]
    omega
  have grown : basesOf (log ++ [.base (p.assignNext d).2]) = basesOf log ++ [p.currentPort] := by
    rw [port]
    simp [basesOf]
  constructor
  case range => exact stacked.range
  case lowest => exact stacked.lowest
  case inBlocks =>
    rw [historyOf_newBase]
    refine stacked.inBlocks.next _ _ ⟨?_,fun low => absurd low above⟩
    show (historyOf p log).bases.length < (65536 - p.minPort.toNat) / p.reservedPortRangePerAlloc.toNat
    rw [historyOf_bases,List.length_reverse,stacked.lowest,stacked.range]
    apply (Nat.le_div_iff_mul_le positive).mpr
    rw [Nat.succ_mul]
    omega
  case counter =>
    rw [p.assignNext_currentPort d,grown,port,stacked.counter,stacked.range,List.length_append,
      List.length_singleton,Nat.succ_mul,← Nat.add_assoc,
      UInt16.ofNat_add _ first.reservedPortRangePerAlloc.toNat,UInt16.ofNat_toNat]
  case whole =>
    rw [grown]
    refine List.forall_mem_append.mpr ⟨stacked.whole,List.forall_mem_singleton.mpr ⟨least,?_⟩⟩
    rw [value]
    omega
  case drawn =>
    intro base port' member
    have before : Assigned.fromBase base port' ∈ log := by simpa using member
    obtain ⟨given,inside⟩ := stacked.drawn base port' before
    exact ⟨List.mem_append_left _ given,inside⟩

theorem fromBase (stacked : Stacked first p log) (basePort : UInt16) (d : Draw fpu)
    (given : basePort ∈ basesOf log)
    (few : siblingsOf log basePort + 1 < first.reservedPortRangePerAlloc.toNat) :
    Stacked first (p.assignNextFromBase basePort d).1
      (log ++ [.fromBase basePort (p.assignNextFromBase basePort d).2]) := by
  have listed : basePort ∈ (historyOf p log).bases := by rwa [historyOf_bases,List.mem_reverse]
  obtain ⟨top,blocks⟩ := stacked.inBlocks
  obtain ⟨data,found,current⟩ := blocks.entry basePort listed
  rw [historyOf_siblings] at current
  obtain ⟨least,fits⟩ := stacked.whole basePort given
  have value : data.currentPort.toNat = basePort.toNat + (siblingsOf log basePort + 1) := by
    rw [current,UInt16.toNat_add,UInt16.toNat_ofNat']
    omega
  have unrepaired : p.minPort ≤ data.currentPort := by
    have below : first.minPort.toNat ≤ basePort.toNat := least
    rw [UInt16.le_iff_toNat_le,value,stacked.lowest]
    omega
  have result := p.assignNextFromBase_eq basePort d data found blocks.plain unrepaired
  have bases : basesOf (log ++ [.fromBase basePort (p.assignNextFromBase basePort d).2]) = basesOf log := by
    simp [basesOf]
  constructor
  case range => rw [result]; exact stacked.range
  case lowest => rw [result]; exact stacked.lowest
  case inBlocks =>
    rw [historyOf_fromBase]
    refine InBlocks.next _ _ ⟨top,blocks⟩ ⟨⟨listed,?_⟩,?_⟩
    · show (historyOf p log).siblings basePort < p.reservedPortRangePerAlloc.toNat - 1
      rw [stacked.range,historyOf_siblings]
      omega
    · intro other there
      cases found.symm.trans there
      exact unrepaired
  case counter =>
    rw [bases,result]
    exact stacked.counter
  case whole =>
    rw [bases]
    exact stacked.whole
  case drawn =>
    intro base port member
    rcases List.mem_append.mp member with before | last
    · obtain ⟨given,inside⟩ := stacked.drawn base port before
      exact ⟨List.mem_append_left _ given,inside⟩
    · cases List.mem_singleton.mp last
      refine ⟨List.mem_append_left _ ((mem_basesOf log basePort).mp given),?_,?_⟩
      · rw [result,UInt16.lt_iff_toNat_lt,value]
        omega
      · rw [result,value]
        omega

theorem distinct (stacked : Stacked first p log) : (log.map Assigned.port).Nodup := by
  obtain ⟨top,blocks⟩ := stacked.inBlocks
  have all := blocks.distinct
  rw [historyOf_ports] at all
  exact List.nodup_reverse.mp all

theorem newBase_fresh {port : UInt16} (after : Stacked first p (log ++ [.base port])) : port ∉ basesOf log := by
  intro given
  have member := List.mem_map_of_mem (f := Assigned.port) ((mem_basesOf log port).mp given)
  have all := after.distinct
  rw [List.map_append,List.map_singleton,List.nodup_append] at all
  exact all.2.2 _ member _ List.mem_cons_self rfl

end Stacked

namespace P2pPsConnector

variable (c : P2pPsConnector) (k : PsConnecting)

theorem again_progress (n : Nat) : (again k n).progress ≠ .awaitAck false := by
  unfold again Connecting.again
  split <;> exact Progress.noConfusion

theorem secondRequest_moves (e : PsStep fpu) : (c.secondRequest k e).1.progress ≠ .awaitAck false := by
  simp only [secondRequest]
  split_ifs <;> cases e.sendOk <;> simp

theorem connect_progress (e : PsStep fpu) : (c.connect k e).1.progress ≠ .awaitAck false := by
  cases progress : k.progress with
  | returned r =>
    rw [c.connect_returned k e r progress,progress]
    exact Progress.noConfusion
  | awaitAck second =>
    cases second with
    | false =>
      rw [c.connect_awaitFirst k e progress]
      cases e.outcome.carries with
      | false => exact Progress.noConfusion
      | true => exact c.secondRequest_moves _ e
    | true =>
      rw [c.connect_awaitSecond k e progress]
      cases e.outcome.carries <;> exact Progress.noConfusion
  | receiving n =>
    rw [c.connect_receiving k n e progress]
    cases c.handling k e.outcome with
    | silent | costs | ignored => exact again_progress _ _
    | answered | responded => exact Progress.noConfusion
    | replied =>
      simp only [handled]
      split
      · exact again_progress _ _
      · exact Progress.noConfusion

theorem managerCalls_few (s : UdpSocket) (basePort : UInt16) (d : Draw fpu) :
    (s.managerCalls basePort d).length ≤ 1 := by
  unfold UdpSocket.managerCalls
  split_ifs <;> simp

theorem scanCalls_few (basePort : UInt16) (calls : List (ScanCall fpu)) :
    (scanCalls basePort calls).length ≤ calls.length := by
  induction calls with
  | nil => exact Nat.le_refl 0
  | cons call rest ih =>
    have one := managerCalls_few (UdpSocket.create.init call.fd).1 basePort call.draw
    simp only [scanCalls]
    split
    · exact Nat.zero_le _
    · rw [List.length_append,List.length_cons]
      omega

theorem roundCalls_few (e : PsStep fpu) :
    (c.roundCalls k e).length ≤
      (if k.progress = .awaitAck false then 1 else 0) + if c.actsOn k e.outcome then 50 else 0 := by
  unfold roundCalls actsOn
  cases k.progress with
  | returned r => exact Nat.zero_le _
  | awaitAck second =>
    cases second with
    | true => exact Nat.zero_le _
    | false =>
      simp only
      split
      · split
        · exact managerCalls_few _ _ _
        · exact Nat.zero_le _
      · exact Nat.zero_le _
  | receiving n =>
    cases c.handling k e.outcome with
    | silent | costs | ignored | answered | responded => exact Nat.zero_le _
    | replied =>
      simp only
      split
      · have few := scanCalls_few k.basePort (List.ofFn e.scans)
        rw [List.length_ofFn] at few
        simpa using few
      · exact Nat.zero_le _

end P2pPsConnector

namespace Attempt

/-- How many ports an attempt may have drawn after its first. -/
def allowance (a : Attempt fpu) : Nat :=
  (if a.connecting.progress = .awaitAck false then 0 else 1) + 50 * a.replies

/-- A round acts on a reply only if fewer than `m` were acted on. -/
def Within (m : Nat) : Option (Attempt fpu) → ThreadStep fpu → Prop
  | some a,.round e => a.connector.actsOn a.connecting e.outcome = true → a.replies < m
  | _,_ => True

instance (m : Nat) : (a : Option (Attempt fpu)) → (event : ThreadStep fpu) → Decidable (Within m a event)
  | some _,.round _ => inferInstanceAs (Decidable (_ → _))
  | some _,.start _ _ _ _ | some _,.call | some _,.leave | none,_ => isTrue trivial

theorem takes_allowance (a : Attempt fpu) (e : PsStep fpu) :
    a.allowance + (a.takes e).1.pending.length ≤ (a.takes e).1.allowance := by
  have few := a.connector.roundCalls_few a.connecting e
  have later := a.connector.connect_progress a.connecting e
  simp only [allowance,takes,later,if_false]
  split_ifs at few ⊢ <;> omega

theorem takes_basePort (a : Attempt fpu) (e : PsStep fpu) :
    (a.takes e).1.connecting.basePort = a.connecting.basePort :=
  (a.connector.connect_manager a.connecting e).2

def assigned : Act → Option Assigned
  | .assigned x => some x
  | .sent _ => none

end Attempt

namespace Process

def assignedIn (outs : List (W × Act)) : List Assigned := outs.filterMap fun o => Attempt.assigned o.2

@[simp] theorem assignedIn_append (outs more : List (W × Act)) :
    assignedIn (outs ++ more) = assignedIn outs ++ assignedIn more :=
  List.filterMap_append

@[simp] theorem assignedIn_assigned (w : W) (log : List Assigned) :
    assignedIn ((log.map Act.assigned).map (w,·)) = log := by
  simp [assignedIn,List.filterMap_map,Function.comp_def,Attempt.assigned]

@[simp] theorem assignedIn_sent (w : W) (out : List Outgoing) : assignedIn ((out.map Act.sent).map (w,·)) = [] := by
  simp [assignedIn,List.filterMap_map,Function.comp_def,Attempt.assigned]

theorem mem_assignedIn {w : W} {outs : List (W × Act)} {x : Assigned} (member : (w,.assigned x) ∈ outs) :
    x ∈ assignedIn outs :=
  List.mem_filterMap.mpr ⟨_,member,rfl⟩

theorem basesOf_grow (outs more : List (W × Act)) :
    (basesOf (assignedIn outs)).length ≤ (basesOf (assignedIn (outs ++ more))).length := by
  rw [assignedIn_append,basesOf,basesOf,List.filterMap_append,List.length_append]
  exact Nat.le_add_right _ _

/-- An attempt has a block of its own, and draws no more from it than its replies allow. -/
structure Placed (m : Nat) (outs : List (W × Act)) (w : W) (a : Attempt fpu) : Prop where
  pending : ∀ call ∈ a.pending, DrawsFrom a.connecting.basePort call
  given : a.connecting.basePort ≠ 0 → (w,.assigned (.base a.connecting.basePort)) ∈ outs
  few : a.connecting.basePort ≠ 0 →
    siblingsOf (assignedIn outs) a.connecting.basePort + a.pending.length ≤ a.allowance
  replies : a.replies ≤ m

structure Sharing (first : PortManager) (m : Nat) (s : Process W fpu) (outs : List (W × Act)) : Prop where
  stacked : Stacked first s.manager (assignedIn outs)
  placed : ∀ w a, s.attempt w = some a → Placed m outs w a
  apart : ∀ v w a b, s.attempt v = some a → s.attempt w = some b → a.connecting.basePort ≠ 0 →
    a.connecting.basePort = b.connecting.basePort → v = w
  own : ∀ w base port, (w,.assigned (.fromBase base port)) ∈ outs → (w,.assigned (.base base)) ∈ outs

theorem Placed.mono {m : Nat} {outs more : List (W × Act)} {w : W} {a : Attempt fpu} (placed : Placed m outs w a)
    (kept : a.connecting.basePort ≠ 0 → siblingsOf (assignedIn (outs ++ more)) a.connecting.basePort =
      siblingsOf (assignedIn outs) a.connecting.basePort) : Placed m (outs ++ more) w a where
  pending := placed.pending
  given used := List.mem_append_left _ (placed.given used)
  few used := (kept used).symm ▸ placed.few used
  replies := placed.replies

theorem Placed.listed {m : Nat} {outs : List (W × Act)} {w : W} {a : Attempt fpu} (placed : Placed m outs w a)
    (used : a.connecting.basePort ≠ 0) : a.connecting.basePort ∈ basesOf (assignedIn outs) :=
  (mem_basesOf _ _).mpr (mem_assignedIn (placed.given used))

variable [DecidableEq W] {first : PortManager} {m : Nat} {s : Process W fpu} {outs : List (W × Act)}

theorem Sharing.put (before : Sharing first m s outs) (w : W) (manager : PortManager) (a : Option (Attempt fpu))
    (acts : List Act) (stacked : Stacked first manager (assignedIn (outs ++ acts.map (w,·))))
    (kept : ∀ v b, v ≠ w → s.attempt v = some b → b.connecting.basePort ≠ 0 →
      siblingsOf (assignedIn (outs ++ acts.map (w,·))) b.connecting.basePort =
        siblingsOf (assignedIn outs) b.connecting.basePort)
    (placed : ∀ x, a = some x → Placed m (outs ++ acts.map (w,·)) w x)
    (apart : ∀ x v b, a = some x → v ≠ w → s.attempt v = some b → x.connecting.basePort ≠ 0 →
      x.connecting.basePort ≠ b.connecting.basePort)
    (own : ∀ base port, .assigned (.fromBase base port) ∈ acts → (w,.assigned (.base base)) ∈ outs) :
    Sharing first m ⟨manager,Function.update s.attempt w a⟩ (outs ++ acts.map (w,·)) := by
  constructor
  case stacked => exact stacked
  case placed =>
    intro v x present
    simp only [Function.update_apply] at present
    split_ifs at present with same
    · exact same ▸ placed x present
    · exact (before.placed v x present).mono (kept v x same present)
  case apart =>
    intro v u x y here there used same
    simp only [Function.update_apply] at here there
    split_ifs at here there with mine his his
    · exact mine.trans his.symm
    · exact absurd same (apart x u y here his there used)
    · exact absurd same.symm (apart y v x there mine here (same ▸ used))
    · exact before.apart v u x y here there used same
  case own =>
    intro v base port member
    rcases List.mem_append.mp member with earlier | now
    · exact List.mem_append_left _ (before.own v base port earlier)
    · obtain ⟨act,taken,equal⟩ := List.mem_map.mp now
      obtain ⟨rfl,rfl⟩ := Prod.mk.inj equal
      exact List.mem_append_left _ (own base port taken)

theorem Sharing.put_sent (before : Sharing first m s outs) (w : W) (a : Option (Attempt fpu)) (out : List Outgoing)
    (placed : ∀ x, a = some x → Placed m outs w x)
    (apart : ∀ x v b, a = some x → v ≠ w → s.attempt v = some b → x.connecting.basePort ≠ 0 →
      x.connecting.basePort ≠ b.connecting.basePort) :
    Sharing first m ⟨s.manager,Function.update s.attempt w a⟩ (outs ++ (out.map Act.sent).map (w,·)) := by
  have same : assignedIn (outs ++ (out.map Act.sent).map (w,·)) = assignedIn outs := by
    rw [assignedIn_append,assignedIn_sent,List.append_nil]
  refine before.put w s.manager a _ (same ▸ before.stacked) (fun _ _ _ _ _ => by rw [same]) ?_ apart ?_
  · exact fun x is => (placed x is).mono fun _ => by rw [same]
  · intro base port member
    simp at member

theorem Sharing.put_base (before : Sharing first m s outs) (w : W) (d : Draw fpu) (x : Attempt fpu)
    (out : List Outgoing) (start : first.minPort ≤ first.currentPort)
    (positive : 0 < first.reservedPortRangePerAlloc.toNat)
    (room : first.currentPort.toNat +
      ((basesOf (assignedIn outs)).length + 1) * first.reservedPortRangePerAlloc.toNat ≤ 65536)
    (base : x.connecting.basePort = 0 ∨ x.connecting.basePort = (s.manager.assignNext d).2)
    (pending : ∀ call ∈ x.pending, DrawsFrom x.connecting.basePort call)
    (none_waits : x.connecting.basePort ≠ 0 → x.pending = []) (replies : x.replies ≤ m) :
    Sharing first m ⟨(s.manager.assignNext d).1,Function.update s.attempt w (some x)⟩
      (outs ++ ([Assigned.base (s.manager.assignNext d).2].map Act.assigned ++ out.map Act.sent).map (w,·)) := by
  have grown : assignedIn (outs ++
      ([Assigned.base (s.manager.assignNext d).2].map Act.assigned ++ out.map Act.sent).map (w,·)) =
        assignedIn outs ++ [.base (s.manager.assignNext d).2] := by
    rw [List.map_append,assignedIn_append,assignedIn_append,assignedIn_sent,assignedIn_assigned,List.append_nil]
  have stacked := before.stacked.newBase d start positive room
  have fresh := stacked.newBase_fresh
  have unasked : siblingsOf (assignedIn outs) (s.manager.assignNext d).2 = 0 := by
    obtain ⟨top,blocks⟩ := before.stacked.inBlocks
    rw [← historyOf_siblings s.manager]
    exact blocks.unasked _ (by rwa [historyOf_bases,List.mem_reverse])
  apply before.put
  case stacked => exact grown ▸ stacked
  case kept => exact fun _ _ _ _ _ => by rw [grown,siblingsOf_base]
  case placed =>
    intro y is
    obtain rfl := Option.some.inj is
    constructor
    case pending => exact pending
    case given =>
      intro used
      rw [base.resolve_left used]
      simp
    case few =>
      intro used
      rw [grown,siblingsOf_base,base.resolve_left used,unasked,none_waits used]
      exact Nat.zero_le _
    case replies => exact replies
  case apart =>
    intro y v b is other present used same
    obtain rfl := Option.some.inj is
    rw [base.resolve_left used] at same
    have theirs := (before.placed v b present).listed (same ▸ base.resolve_left used ▸ used)
    exact fresh (same ▸ theirs)
  case own =>
    intro port port' member
    simp at member

theorem step_idle (w : W) (event : ThreadStep fpu)
    (idle : Attempt.next s.manager (s.attempt w) event = (s.manager,s.attempt w,[])) : step s (w,event) = (s,[]) := by
  simp only [step,idle,List.map_nil,Function.update_eq_self]

theorem Sharing.step_start (before : Sharing first m s outs) (w : W) (free : s.attempt w = none)
    (c : P2pPsConnector) (socket : UdpSocket) (draw : Draw fpu) (sendOk : Bool)
    (start : first.minPort ≤ first.currentPort) (positive : 0 < first.reservedPortRangePerAlloc.toNat)
    (room : first.currentPort.toNat +
      (basesOf (assignedIn (outs ++ (step s (w,.start c socket draw sendOk)).2))).length *
        first.reservedPortRangePerAlloc.toNat ≤ 65536) :
    Sharing first m (step s (w,.start c socket draw sendOk)).1
      (outs ++ (step s (w,.start c socket draw sendOk)).2) := by
  simp only [step,free,Attempt.next] at room ⊢
  generalize begun : Attempt.starts c socket s.manager draw sendOk = a at room ⊢
  obtain ⟨x,out⟩ := a
  have own : x.connecting.basePort = (socket.bindByPortman s.manager 0 draw).2 ∧ x.pending = [] ∧ x.replies = 0 := by
    cases begun
    exact ⟨rfl,rfl,rfl⟩
  obtain ⟨base,waiting,none_yet⟩ := own
  cases ready : socket.initialized with
  | false =>
    have nothing : socket.managerCalls 0 draw = [] := by simp [UdpSocket.managerCalls,ready]
    have unbound : x.connecting.basePort = 0 := by simp [base,UdpSocket.bindByPortman,ready]
    rw [nothing]
    refine before.put_sent w (some x) out ?_ fun y v b is _ _ used => ?_
    · intro y is
      obtain rfl := Option.some.inj is
      refine ⟨by simp [waiting],fun used => absurd unbound used,fun used => absurd unbound used,?_⟩
      rw [none_yet]
      exact Nat.zero_le m
    · obtain rfl := Option.some.inj is
      exact absurd unbound used
  | true =>
    have one : socket.managerCalls 0 draw = [.assignNext draw] := by simp [UdpSocket.managerCalls,ready]
    have bound : x.connecting.basePort = 0 ∨ x.connecting.basePort = (s.manager.assignNext draw).2 := by
      cases bindOk : draw.bindOk <;> simp [base,UdpSocket.bindByPortman,ready,bindOk]
    have call : outputs PortManager.call s.manager [.assignNext draw] = [.base (s.manager.assignNext draw).2] := rfl
    rw [one,call] at room ⊢
    refine before.put_base w draw x out start positive ?_ bound (by simp [waiting]) (fun _ => waiting) ?_
    · rw [List.map_append,assignedIn_append,assignedIn_append,assignedIn_assigned,assignedIn_sent] at room
      simpa [basesOf] using room
    · rw [none_yet]
      exact Nat.zero_le m

theorem Sharing.step_round (before : Sharing first m s outs) (w : W) (a : Attempt fpu)
    (present : s.attempt w = some a) (waiting : a.pending = []) (e : PsStep fpu)
    (within : a.connector.actsOn a.connecting e.outcome = true → a.replies < m) :
    Sharing first m ⟨s.manager,Function.update s.attempt w (some (a.takes e).1)⟩
      (outs ++ ((a.takes e).2.map Act.sent).map (w,·)) := by
  have placed := before.placed w a present
  have base := a.takes_basePort e
  refine before.put_sent w (some (a.takes e).1) (a.takes e).2 ?_ ?_
  · intro x is
    obtain rfl := Option.some.inj is
    constructor
    case pending =>
      rw [base]
      exact a.connector.roundCalls_drawsFrom a.connecting e
    case given =>
      rw [base]
      exact placed.given
    case few =>
      rw [base]
      intro used
      have few := placed.few used
      have more := a.takes_allowance e
      rw [waiting,List.length_nil] at few
      omega
    case replies =>
      have most := placed.replies
      simp only [Attempt.takes]
      split
      · exact within ‹_›
      · exact most
  · intro x v b is other there used same
    obtain rfl := Option.some.inj is
    rw [base] at used same
    exact other (before.apart w v a b present there used same).symm

theorem Sharing.step_call (before : Sharing first m s outs) (w : W) (a : Attempt fpu)
    (present : s.attempt w = some a) (call : ManagerCall fpu) (rest : List (ManagerCall fpu))
    (waiting : a.pending = call :: rest) (start : first.minPort ≤ first.currentPort)
    (ranges : 2 + 50 * m ≤ first.reservedPortRangePerAlloc.toNat)
    (room : first.currentPort.toNat +
      (basesOf (assignedIn outs ++ (PortManager.call s.manager call).2)).length *
        first.reservedPortRangePerAlloc.toNat ≤ 65536) :
    Sharing first m ⟨(PortManager.call s.manager call).1,Function.update s.attempt w (some {a with pending := rest})⟩
      (outs ++ ((PortManager.call s.manager call).2.map Act.assigned).map (w,·)) := by
  have placed := before.placed w a present
  have drawsFrom := placed.pending
  rw [waiting] at drawsFrom
  obtain ⟨⟨d,rfl⟩,later⟩ := List.forall_mem_cons.mp drawsFrom
  by_cases unused : a.connecting.basePort = 0
  · -- without a base each draw opens a block
    simp only [unused,ne_eq,not_true_eq_false,if_false,PortManager.call] at room ⊢
    have opened := before.put_base w d {a with pending := rest} [] start (by omega) (by simpa [basesOf] using room)
      (Or.inl unused) later (fun used => absurd unused used) placed.replies
    rwa [List.map_nil,List.append_nil] at opened
  · simp only [ne_eq,unused,not_false_eq_true,if_true] at room ⊢
    have few := placed.few unused
    have most := placed.replies
    have allowance : a.allowance ≤ 1 + 50 * m := by
      unfold Attempt.allowance
      split <;> omega
    rw [waiting,List.length_cons] at few
    have next := before.stacked.fromBase a.connecting.basePort d (placed.listed unused) (by omega)
    have grown : assignedIn (outs ++
        (([Assigned.fromBase a.connecting.basePort
          (s.manager.assignNextFromBase a.connecting.basePort d).2].map Act.assigned).map (w,·))) =
        assignedIn outs ++ [.fromBase a.connecting.basePort
          (s.manager.assignNextFromBase a.connecting.basePort d).2] := by
      rw [assignedIn_append,assignedIn_assigned]
    apply before.put
    case stacked => exact grown ▸ next
    case kept =>
      intro v b other there used
      have different : a.connecting.basePort ≠ b.connecting.basePort := fun same =>
        other (before.apart w v a b present there unused same).symm
      simp only [PortManager.call]
      rw [grown,siblingsOf_fromBase,if_neg different,Nat.add_zero]
    case placed =>
      intro y is
      obtain rfl := Option.some.inj is
      refine ⟨later,fun used => List.mem_append_left _ (placed.given used),fun _ => ?_,placed.replies⟩
      simp only [PortManager.call]
      rw [grown,siblingsOf_fromBase,if_pos rfl]
      have same : ({a with pending := rest} : Attempt fpu).allowance = a.allowance := rfl
      rw [same]
      omega
    case apart =>
      intro y v b is other there used same
      obtain rfl := Option.some.inj is
      exact other (before.apart w v a b present there unused same).symm
    case own =>
      intro base port member
      have found : base = a.connecting.basePort := by
        simp only [PortManager.call,List.map_cons,List.map_nil,List.mem_singleton,Act.assigned.injEq,
          Assigned.fromBase.injEq] at member
        exact member.1
      exact found ▸ placed.given unused

theorem Sharing.next (before : Sharing first m s outs) (event : W × ThreadStep fpu)
    (start : first.minPort ≤ first.currentPort) (ranges : 2 + 50 * m ≤ first.reservedPortRangePerAlloc.toNat)
    (within : Attempt.Within m (s.attempt event.1) event.2)
    (room : first.currentPort.toNat + (basesOf (assignedIn (outs ++ (step s event).2))).length *
      first.reservedPortRangePerAlloc.toNat ≤ 65536) :
    Sharing first m (step s event).1 (outs ++ (step s event).2) := by
  obtain ⟨w,event⟩ := event
  have idle (same : step s (w,event) = (s,[])) : Sharing first m (step s (w,event)).1 (outs ++ (step s (w,event)).2) := by
    rw [same,List.append_nil]
    exact before
  cases present : s.attempt w with
  | none =>
    cases event with
    | start c socket draw sendOk => exact before.step_start w present c socket draw sendOk start (by omega) room
    | round | call | leave => exact idle (step_idle w _ (by rw [present]; rfl))
  | some a =>
    cases event with
    | start => exact idle (step_idle w _ (by rw [present]; rfl))
    | round e =>
      cases waiting : a.pending with
      | cons call rest => exact idle (step_idle w _ (by simp [present,Attempt.next,waiting]))
      | nil =>
        have taken : step s (w,.round e) = (⟨s.manager,Function.update s.attempt w (some (a.takes e).1)⟩,
            ((a.takes e).2.map Act.sent).map (w,·)) := by
          simp [step,present,Attempt.next,waiting]
        rw [present] at within
        rw [taken]
        exact before.step_round w a present waiting e within
    | call =>
      cases waiting : a.pending with
      | nil => exact idle (step_idle w _ (by simp [present,Attempt.next,waiting]))
      | cons call rest =>
        have made : step s (w,.call) = (⟨(PortManager.call s.manager call).1,
            Function.update s.attempt w (some {a with pending := rest})⟩,
            ((PortManager.call s.manager call).2.map Act.assigned).map (w,·)) := by
          simp [step,present,Attempt.next,waiting]
        rw [made] at room ⊢
        rw [assignedIn_append,assignedIn_assigned] at room
        exact before.step_call w a present call rest waiting start ranges room
    | leave =>
      cases ended : a.finished with
      | false => exact idle (step_idle w _ (by simp [present,Attempt.next,ended]))
      | true =>
        have gone : step s (w,.leave) = (⟨s.manager,Function.update s.attempt w none⟩,[]) := by
          simp [step,present,Attempt.next,ended]
        rw [gone]
        exact before.put_sent w none [] (by simp) (by simp)

/-- The threads of a process never bind the same port, and each keeps to the blocks it was
given, if there is room for all blocks and no attempt acts on more replies than the range
has scans for. -/
theorem ports_never_shared (manager : PortManager) (m : Nat) (plain : manager.simulatedNormalAllocsPerSecond = 0)
    (start : manager.minPort ≤ manager.currentPort)
    (ranges : 2 + 50 * m ≤ manager.reservedPortRangePerAlloc.toNat) (events : List (W × ThreadStep fpu))
    (few : Along step (fun s event => Attempt.Within m (s.attempt event.1) event.2) (.start manager) events)
    (room : manager.currentPort.toNat + (basesOf (assignedIn (outputs step (.start manager) events))).length *
      manager.reservedPortRangePerAlloc.toNat ≤ 65536) :
    let outs := outputs step (.start manager) events
    ((assignedIn outs).map Assigned.port).Nodup ∧
      ∀ w base port, (w,.assigned (.fromBase base port)) ∈ outs → (w,.assigned (.base base)) ∈ outs ∧
        base < port ∧ port.toNat < base.toNat + manager.reservedPortRangePerAlloc.toNat := by
  intro outs
  let Fits (past : List (W × ThreadStep fpu)) : Prop :=
    manager.currentPort.toNat + (basesOf (assignedIn (outputs step (.start manager) past))).length *
      manager.reservedPortRangePerAlloc.toNat ≤ 65536
  have initial : Sharing manager m (.start manager : Process W fpu) [] :=
    ⟨Stacked.initial manager plain start,by simp [Process.start],by simp [Process.start],by simp⟩
  have keep (past : List (W × ThreadStep fpu)) (event : W × ThreadStep fpu)
      (before : Fits past → Sharing manager m (run step (.start manager) past) (outputs step (.start manager) past))
      (within : Attempt.Within m ((run step (.start manager) past).attempt event.1) event.2)
      (fits : Fits (past ++ [event])) :
      Sharing manager m (step (run step (.start manager) past) event).1
        (outputs step (.start manager) (past ++ [event])) := by
    simp only [Fits,outputs_append,outputs_cons,outputs_nil,List.append_nil] at before fits ⊢
    have fewer := basesOf_grow (outputs step (.start manager) past) (step (run step (.start manager) past) event).2
    have earlier := Nat.mul_le_mul_right manager.reservedPortRangePerAlloc.toNat fewer
    exact (before (by omega)).next event start ranges within fits
  have sharing := history_along (fun past s => Fits past → Sharing manager m s (outputs step (.start manager) past))
    (fun _ => initial) keep few room
  refine ⟨sharing.stacked.distinct,fun w base port member => ⟨sharing.own w base port member,?_⟩⟩
  exact (sharing.stacked.drawn base port (mem_assignedIn member)).2

def twoThreads : List (Bool × ThreadStep .exact) :=
  let starts (id : UInt32) : ThreadStep .exact := .start ⟨⟨1,10⟩,⟨1,11⟩,id,true⟩ ⟨true,.zero,.zero,3⟩ .plain true
  let acked : ThreadStep .exact := .round (readably (ackOf ⟨1,10⟩))
  [(true,starts 0),(false,starts 1),(true,acked),(false,acked),(false,.call),(true,.call)]

theorem twoThreads_never_shared :
    let outs := outputs step (.start ⟨fun _ => none,6000,0,75,5000⟩) twoThreads
    ((assignedIn outs).map Assigned.port).Nodup ∧
      ∀ w base port, (w,.assigned (.fromBase base port)) ∈ outs → (w,.assigned (.base base)) ∈ outs ∧
        base < port ∧ port.toNat < base.toNat + (75 : UInt16).toNat := by
  exact ports_never_shared ⟨fun _ => none,6000,0,75,5000⟩ 1 rfl (by decide) (by decide) twoThreads
    (by decide +kernel) (by decide +kernel)

end Process

end P2pStun
