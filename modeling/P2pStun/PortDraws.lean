import P2pStun.PortDistinct

/-! The ports drawn from a base, over any calls of the manager without simulated
allocations: they follow the base one by one, and nothing is drawn from a port that was
never given out as a base. -/
namespace P2pStun
open Runs

inductive ManagerCall (fpu : FloatUnit)
  | assignNext (d : Draw fpu)
  | assignNextFromBase (basePort : UInt16) (d : Draw fpu)
  | setReservedPortRangePerAlloc (reservedRange : UInt16)

/-- How many ports were drawn from a base since it was last given out. -/
def drawn (basePort : UInt16) (log : List Assigned) : Option Nat :=
  log.foldl (fun count assigned => match assigned with
    | .base port => if port = basePort then some 0 else count
    | .fromBase base _ => if base = basePort then count.map (· + 1) else count) none

theorem drawn_concat (basePort : UInt16) (log : List Assigned) (assigned : Assigned) :
    drawn basePort (log ++ [assigned]) = match assigned with
      | .base port => if port = basePort then some 0 else drawn basePort log
      | .fromBase base _ => if base = basePort then (drawn basePort log).map (· + 1) else drawn basePort log := by
  simp only [drawn,List.foldl_append]
  rfl

theorem drawn_none (basePort : UInt16) (log : List Assigned) :
    drawn basePort log = none ↔ Assigned.base basePort ∉ log := by
  induction log using List.reverseRecOn with
  | nil => exact iff_of_true rfl List.not_mem_nil
  | append_singleton log assigned ih =>
    rw [drawn_concat]
    cases assigned with
    | base port =>
      by_cases same : port = basePort
      · simp [same]
      · simp [same,ih,Ne.symm same]
    | fromBase base port =>
      by_cases same : base = basePort
      · simp [same,ih]
      · simp [same,ih]

namespace PortManager

variable {fpu : FloatUnit}

def initial (currentPort reservedRange minPort : UInt16) : PortManager :=
  ⟨fun _ => none,currentPort,0,reservedRange,minPort⟩

def call : Machine PortManager (ManagerCall fpu) Assigned := fun p e => match e with
  | .assignNext d =>
    let (p,port) := p.assignNext d
    (p,[.base port])
  | .assignNextFromBase basePort d =>
    let (p,port) := p.assignNextFromBase basePort d
    (p,[.fromBase basePort port])
  | .setReservedPortRangePerAlloc reservedRange => (p.setReservedPortRangePerAlloc reservedRange,[])

theorem assignNext_minPort_le (p : PortManager) (d : Draw fpu) : p.minPort ≤ (p.assignNext d).2 := by
  simp only [assignNext]
  split_ifs with low still
  · exact UInt16.le_refl _
  · exact UInt16.not_lt.mp still
  · exact UInt16.not_lt.mp low

theorem assignNextFromBase_none (p : PortManager) (basePort : UInt16) (d : Draw fpu)
    (missing : p.portResPortMap basePort = none) : p.assignNextFromBase basePort d = (p,0) := by
  simp [assignNextFromBase,missing]

theorem assignNextFromBase_some (p : PortManager) (basePort : UInt16) (d : Draw fpu) (data : PortData)
    (found : p.portResPortMap basePort = some data) (plain : p.simulatedNormalAllocsPerSecond = 0) :
    p.assignNextFromBase basePort d =
      ({p with
          portResPortMap :=
            Function.update p.portResPortMap basePort (some ⟨data.currentPort + 1,data.timestampMs⟩)},
        if data.currentPort < p.minPort then data.currentPort + p.minPort else data.currentPort) := by
  simp [assignNextFromBase,found,simulatedOffset,plain]

end PortManager

/-- What the map holds is what was drawn: an entry for each base given out, whose counter
is as far after the base as ports were drawn from it. -/
structure Numbered (minPort : UInt16) (log : List Assigned) (p : PortManager) : Prop where
  plain : p.simulatedNormalAllocsPerSecond = 0
  lowest : p.minPort = minPort
  high : ∀ basePort n, drawn basePort log = some n → minPort ≤ basePort
  missing : ∀ basePort, drawn basePort log = none → p.portResPortMap basePort = none
  entry : ∀ basePort n, drawn basePort log = some n →
    ∃ data, p.portResPortMap basePort = some data ∧ data.currentPort = basePort + .ofNat (n + 1)

namespace Numbered

variable {fpu : FloatUnit} {minPort : UInt16} {log : List Assigned} {p : PortManager}

theorem initial (currentPort reservedRange minPort : UInt16) :
    Numbered minPort [] (.initial currentPort reservedRange minPort) where
  plain := rfl
  lowest := rfl
  high := nofun
  missing := fun _ _ => rfl
  entry := nofun

theorem assignNext (numbered : Numbered minPort log p) (d : Draw fpu) :
    Numbered minPort (log ++ [.base (p.assignNext d).2]) (p.assignNext d).1 := by
  have least : minPort ≤ (p.assignNext d).2 := numbered.lowest ▸ p.assignNext_minPort_le d
  constructor
  case plain => exact numbered.plain
  case lowest => exact numbered.lowest
  case high =>
    intro basePort n given
    rw [drawn_concat] at given
    by_cases same : (p.assignNext d).2 = basePort
    · exact same ▸ least
    · exact numbered.high basePort n (by simpa [same] using given)
  case missing =>
    intro basePort ungiven
    rw [drawn_concat] at ungiven
    by_cases same : (p.assignNext d).2 = basePort
    · simp [same] at ungiven
    · rw [p.assignNext_portResPortMap d basePort (Ne.symm same)]
      exact numbered.missing basePort (by simpa [same] using ungiven)
  case entry =>
    intro basePort n given
    rw [drawn_concat] at given
    by_cases same : (p.assignNext d).2 = basePort
    · obtain rfl : 0 = n := by simpa [same] using given
      rw [← same]
      exact p.assignNext_entry d
    · rw [p.assignNext_portResPortMap d basePort (Ne.symm same)]
      exact numbered.entry basePort n (by simpa [same] using given)

theorem assignNextFromBase (numbered : Numbered minPort log p) (basePort : UInt16) (d : Draw fpu) :
    Numbered minPort (log ++ [.fromBase basePort (p.assignNextFromBase basePort d).2])
      (p.assignNextFromBase basePort d).1 := by
  cases count : drawn basePort log with
  | none =>
    have same (other : UInt16) (port : UInt16) :
        drawn other (log ++ [.fromBase basePort port]) = drawn other log := by
      rw [drawn_concat]
      by_cases this : basePort = other
      · simp [← this,count]
      · simp [this]
    rw [p.assignNextFromBase_none basePort d (numbered.missing basePort count)]
    constructor
    case plain => exact numbered.plain
    case lowest => exact numbered.lowest
    case high => exact fun other n given => numbered.high other n (same other _ ▸ given)
    case missing => exact fun other ungiven => numbered.missing other (same other _ ▸ ungiven)
    case entry => exact fun other n given => numbered.entry other n (same other _ ▸ given)
  | some m =>
    obtain ⟨data,found,current⟩ := numbered.entry basePort m count
    rw [p.assignNextFromBase_some basePort d data found numbered.plain]
    constructor
    case plain => exact numbered.plain
    case lowest => exact numbered.lowest
    case high =>
      intro other n given
      by_cases this : basePort = other
      · exact this ▸ numbered.high basePort m count
      · exact numbered.high other n (by simpa [drawn_concat,this] using given)
    case missing =>
      intro other ungiven
      by_cases this : basePort = other
      · simp [drawn_concat,← this,count] at ungiven
      · simp only [Function.update_of_ne (Ne.symm this)]
        exact numbered.missing other (by simpa [drawn_concat,this] using ungiven)
    case entry =>
      intro other n given
      by_cases this : basePort = other
      · obtain rfl : m + 1 = n := by simpa [drawn_concat,← this,count] using given
        subst this
        refine ⟨_,Function.update_self _ _ _,?_⟩
        show data.currentPort + 1 = _
        rw [current,UInt16.ofNat_add (m + 1) 1,← UInt16.add_assoc]
        rfl
      · simp only [Function.update_of_ne (Ne.symm this)]
        exact numbered.entry other n (by simpa [drawn_concat,this] using given)

theorem call (numbered : Numbered minPort log p) (e : ManagerCall fpu) :
    Numbered minPort (log ++ (PortManager.call p e).2) (PortManager.call p e).1 := by
  cases e with
  | assignNext d => exact numbered.assignNext d
  | assignNextFromBase basePort d => exact numbered.assignNextFromBase basePort d
  | setReservedPortRangePerAlloc reservedRange =>
    rw [show (PortManager.call p (.setReservedPortRangePerAlloc reservedRange : ManagerCall fpu)).2 = [] from rfl,
      List.append_nil]
    exact {numbered with}

theorem run (currentPort reservedRange minPort : UInt16) (calls : List (ManagerCall fpu)) :
    Numbered minPort (outputs PortManager.call (.initial currentPort reservedRange minPort) calls)
      (Runs.run PortManager.call (.initial currentPort reservedRange minPort) calls) := by
  refine history_invariant (fun past p => Numbered minPort
    (outputs PortManager.call (.initial currentPort reservedRange minPort) past) p)
    (Numbered.initial currentPort reservedRange minPort) ?_ calls
  intro past e before
  rw [outputs_append]
  simpa using before.call e

theorem next_draw (numbered : Numbered minPort log p) (basePort : UInt16) (d : Draw fpu) (n : Nat)
    (count : drawn basePort log = some n) (room : basePort.toNat + (n + 1) ≤ 65535) :
    (p.assignNextFromBase basePort d).2.toNat = basePort.toNat + (n + 1) := by
  obtain ⟨data,found,current⟩ := numbered.entry basePort n count
  have least : minPort.toNat ≤ basePort.toNat := numbered.high basePort n count
  have value : data.currentPort.toNat = basePort.toNat + (n + 1) := by
    rw [current,UInt16.toNat_add,UInt16.toNat_ofNat']
    omega
  have above : ¬data.currentPort < p.minPort := by
    rw [numbered.lowest,UInt16.lt_iff_toNat_lt]
    omega
  rw [p.assignNextFromBase_some basePort d data found numbered.plain,if_neg above]
  exact value

theorem draw_zero_iff (numbered : Numbered minPort log p) (basePort : UInt16) (d : Draw fpu)
    (positive : 1 ≤ minPort) (low : minPort ≤ 32768) :
    (p.assignNextFromBase basePort d).2 = 0 ↔ Assigned.base basePort ∉ log := by
  rw [← drawn_none]
  cases count : drawn basePort log with
  | none => exact iff_of_true (by rw [p.assignNextFromBase_none basePort d (numbered.missing basePort count)]) rfl
  | some n =>
    obtain ⟨data,found,_⟩ := numbered.entry basePort n count
    refine iff_of_false ?_ (by simp)
    have some_port : 1 ≤ minPort.toNat := positive
    have half : minPort.toNat ≤ 32768 := low
    rw [p.assignNextFromBase_some basePort d data found numbered.plain,numbered.lowest,← UInt16.toNat_inj]
    by_cases under : data.currentPort < minPort
    · -- what is repaired is at least the lowest port and does not wrap
      have below : data.currentPort.toNat < minPort.toNat := under
      rw [if_pos under,UInt16.toNat_add]
      simp
      omega
    · have above : minPort.toNat ≤ data.currentPort.toNat := UInt16.not_lt.mp under
      rw [if_neg under]
      simp
      omega

end Numbered

/-- After any calls, the draws from a base since it was last given out are its successors,
and zero is drawn exactly from a port that was never given out. -/
theorem draws_consecutive (fpu : FloatUnit) (currentPort reservedRange minPort : UInt16)
    (positive : 1 ≤ minPort) (low : minPort ≤ 32768)
    (past : List (ManagerCall fpu)) (basePort : UInt16) (d : Draw fpu) :
    let log := outputs PortManager.call (.initial currentPort reservedRange minPort) past
    let p := run PortManager.call (.initial currentPort reservedRange minPort) past
    let port := (p.assignNextFromBase basePort d).2
    (∀ n, drawn basePort log = some n → basePort.toNat + (n + 1) ≤ 65535 →
      port.toNat = basePort.toNat + (n + 1)) ∧
    (port = 0 ↔ Assigned.base basePort ∉ log) := by
  have numbered := Numbered.run currentPort reservedRange minPort past
  exact ⟨fun n count room => numbered.next_draw basePort d n count room,
    numbered.draw_zero_iff basePort d positive low⟩

theorem draws_consecutive_second :
    let d : Draw .exact := ⟨0,(0 : Rat),true⟩
    let past := [.assignNext d,.assignNextFromBase 6000 d,.setReservedPortRangePerAlloc 70]
    let port := ((run PortManager.call (.initial 6000 50 5000) past).assignNextFromBase 6000 d).2
    port.toNat = (6000 : UInt16).toNat + (1 + 1) ∧
      (port = 0 ↔ Assigned.base 6000 ∉ outputs PortManager.call (.initial 6000 50 5000) past) := by
  have both := draws_consecutive .exact 6000 50 5000 (by decide) (by decide)
    [.assignNext ⟨0,(0 : Rat),true⟩,.assignNextFromBase 6000 ⟨0,(0 : Rat),true⟩,
      .setReservedPortRangePerAlloc 70] 6000 ⟨0,(0 : Rat),true⟩
  exact ⟨both.1 1 (by decide) (by decide),both.2⟩

end P2pStun
