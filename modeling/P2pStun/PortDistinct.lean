import P2pStun.Counters
import P2pStun.PortManager
import P2pStun.Runs

/-! Whether the ports a manager hands out are different. Each base has the block of the
reserved range after it; a counter below the lowest port is repaired in one way for
bases and in another for the ports after a base. -/
namespace P2pStun
open Runs Offsets

inductive PortCall (fpu : FloatUnit)
  | assignNext (d : Draw fpu)
  | assignNextFromBase (basePort : UInt16) (d : Draw fpu)

inductive Assigned
  | base (port : UInt16) | fromBase (basePort port : UInt16)
deriving DecidableEq

def Assigned.port : Assigned → UInt16
  | .base port => port
  | .fromBase _ port => port

structure PortHistory where
  manager : PortManager
  assigned : List Assigned

namespace PortHistory

variable {fpu : FloatUnit}

def assign : Machine PortHistory (PortCall fpu) UInt16 := fun h call =>
  match call with
  | .assignNext d =>
    let (manager,port) := h.manager.assignNext d
    (⟨manager,.base port :: h.assigned⟩,[port])
  | .assignNextFromBase basePort d =>
    let (manager,port) := h.manager.assignNextFromBase basePort d
    (⟨manager,.fromBase basePort port :: h.assigned⟩,[port])

def bases (h : PortHistory) : List UInt16 :=
  h.assigned.filterMap fun
    | .base port => some port
    | .fromBase _ _ => none

def siblings (h : PortHistory) (basePort : UInt16) : Nat :=
  h.assigned.countP fun
    | .base _ => false
    | .fromBase base _ => base == basePort

def ports (h : PortHistory) : List UInt16 := h.assigned.map Assigned.port

/-- The calls a client makes: bases as long as there is room, and from a base that was
returned one port fewer than its range has. -/
def Allowed (h : PortHistory) : PortCall fpu → Prop
  | .assignNext _ =>
    h.bases.length < (65536 - h.manager.minPort.toNat) / h.manager.reservedPortRangePerAlloc.toNat
  | .assignNextFromBase basePort _ =>
    basePort ∈ h.bases ∧ h.siblings basePort < h.manager.reservedPortRangePerAlloc.toNat - 1

/-- The branches that go wrong are not taken: a base whose block reaches below the lowest
port is not asked for the ports there, and where a range is longer than the ports below
the lowest, the addition before the reset does not lead past that one. -/
def Sound (h : PortHistory) : PortCall fpu → Prop
  | .assignNext _ => h.manager.currentPort < h.manager.minPort →
    h.manager.reservedPortRangePerAlloc ≤ h.manager.minPort ∨
      h.manager.currentPort.toNat + h.manager.reservedPortRangePerAlloc.toNat ≤ h.manager.minPort.toNat
  | .assignNextFromBase basePort _ =>
    ∀ data ∈ h.manager.portResPortMap basePort, h.manager.minPort ≤ data.currentPort

instance : (h : PortHistory) → (call : PortCall fpu) → Decidable (Allowed h call)
  | _,.assignNext _ => inferInstanceAs (Decidable (_ < _))
  | _,.assignNextFromBase _ _ => inferInstanceAs (Decidable (_ ∧ _))

instance : (h : PortHistory) → (call : PortCall fpu) → Decidable (Sound h call)
  | _,.assignNext _ => inferInstanceAs (Decidable (_ → _))
  | h,.assignNextFromBase basePort _ =>
    inferInstanceAs (Decidable (∀ data ∈ h.manager.portResPortMap basePort,
      h.manager.minPort ≤ data.currentPort))

@[simp] theorem bases_assignNext (h : PortHistory) (d : Draw fpu) :
    (assign h (.assignNext d)).1.bases = (h.manager.assignNext d).2 :: h.bases := rfl

@[simp] theorem siblings_assignNext (h : PortHistory) (d : Draw fpu) (base : UInt16) :
    (assign h (.assignNext d)).1.siblings base = h.siblings base := rfl

theorem siblings_fromBase (h : PortHistory) (basePort : UInt16) (d : Draw fpu) (base : UInt16) :
    (assign h (.assignNextFromBase basePort d)).1.siblings base =
      h.siblings base + if basePort = base then 1 else 0 := by
  simp [assign,siblings,List.countP_cons]

theorem ports_assign (h : PortHistory) (call : PortCall fpu) :
    (assign h call).1.ports = (assign h call).2 ++ h.ports := by
  cases call <;> rfl

theorem ports_run (h : PortHistory) (calls : List (PortCall fpu)) :
    (run assign h calls).ports = (outputs assign h calls).reverse ++ h.ports := by
  induction calls generalizing h with
  | nil => rfl
  | cons call calls ih =>
    rw [run_cons,ih,outputs_cons,ports_assign,List.reverse_append]
    have single : (assign h call).2.reverse = (assign h call).2 := by cases call <;> rfl
    rw [single,List.append_assoc]

end PortHistory

/-- How far a counter has come after `count` bases: by a range for each, or, once below the
lowest port, to it or past it and at most that many ports further. -/
def Advanced (origin lowest range : UInt16) (count top : Nat) : Prop :=
  top = count * range.toNat ∨
    (65536 + lowest.toNat ≤ origin.toNat + top ∧ top ≤ count * range.toNat + lowest.toNat)

namespace PortManager

variable {fpu : FloatUnit}

theorem assignNext_currentPort (p : PortManager) (d : Draw fpu) :
    (p.assignNext d).1.currentPort = (p.assignNext d).2 + p.reservedPortRangePerAlloc := by
  simp only [assignNext]
  split_ifs <;> rfl

theorem assignNext_portResPortMap (p : PortManager) (d : Draw fpu) (base : UInt16)
    (other : base ≠ (p.assignNext d).2) :
    (p.assignNext d).1.portResPortMap base = p.portResPortMap base :=
  Function.update_of_ne other _ _

theorem assignNext_entry (p : PortManager) (d : Draw fpu) :
    ∃ data, (p.assignNext d).1.portResPortMap (p.assignNext d).2 = some data ∧
      data.currentPort = (p.assignNext d).2 + 1 := by
  refine ⟨_,Function.update_self _ _ _,?_⟩
  split <;> rfl

theorem assignNext_start (p : PortManager) (d : Draw fpu) (origin : UInt16) (count top : Nat)
    (current : p.currentPort = place origin top) (start : p.minPort ≤ origin)
    (advanced : Advanced origin p.minPort p.reservedPortRangePerAlloc count top)
    (room : (count + 1) * p.reservedPortRangePerAlloc.toNat ≤ 65536 - p.minPort.toNat)
    (sound : p.currentPort < p.minPort → p.reservedPortRangePerAlloc ≤ p.minPort ∨
      p.currentPort.toNat + p.reservedPortRangePerAlloc.toNat ≤ p.minPort.toNat) :
    ∃ first, top ≤ first ∧ first + p.reservedPortRangePerAlloc.toNat ≤ 65536 ∧
      (p.assignNext d).2 = place origin first ∧
      Advanced origin p.minPort p.reservedPortRangePerAlloc (count + 1)
        (first + p.reservedPortRangePerAlloc.toNat) := by
  have lowest : p.minPort.toNat ≤ origin.toNat := start
  have bound := origin.toNat_lt
  have value : p.currentPort.toNat = (origin.toNat + top) % 65536 := by rw [current,toNat_place]
  have added : p.currentPort + p.reservedPortRangePerAlloc =
      place origin (top + p.reservedPortRangePerAlloc.toNat) := by
    rw [current,← place_add,UInt16.ofNat_toNat]
  rw [Nat.succ_mul] at room
  simp only [Advanced,Nat.succ_mul] at advanced ⊢
  generalize count * p.reservedPortRangePerAlloc.toNat = used at advanced room ⊢
  by_cases low : p.currentPort < p.minPort
  · have below : p.currentPort.toNat < p.minPort.toNat := low
    have short : p.reservedPortRangePerAlloc.toNat ≤ p.minPort.toNat ∨
        p.currentPort.toNat + p.reservedPortRangePerAlloc.toNat ≤ p.minPort.toNat := sound low
    have sum : (p.currentPort + p.reservedPortRangePerAlloc).toNat =
        p.currentPort.toNat + p.reservedPortRangePerAlloc.toNat := by
      rw [UInt16.toNat_add]
      exact Nat.mod_eq_of_lt (by omega)
    by_cases still : p.currentPort + p.reservedPortRangePerAlloc < p.minPort
    · -- the counter is set to the lowest port
      have under : p.currentPort.toNat + p.reservedPortRangePerAlloc.toNat < p.minPort.toNat := by
        rw [← sum]
        exact still
      refine ⟨65536 + p.minPort.toNat - origin.toNat,by omega,by omega,?_,Or.inr ⟨by omega,by omega⟩⟩
      simp only [assignNext,low,still,if_true]
      apply UInt16.toNat_inj.mp
      rw [toNat_place]
      omega
    · -- the first addition has led it there or past
      have reached : p.minPort.toNat ≤ p.currentPort.toNat + p.reservedPortRangePerAlloc.toNat := by
        rw [← sum]
        exact UInt16.not_lt.mp still
      refine ⟨top + p.reservedPortRangePerAlloc.toNat,by omega,by omega,?_,Or.inr ⟨by omega,by omega⟩⟩
      simp only [assignNext,low,still,if_true,if_false]
      exact added
  · have above : p.minPort.toNat ≤ p.currentPort.toNat := UInt16.not_lt.mp low
    refine ⟨top,le_rfl,by omega,?_,?_⟩
    · simp only [assignNext,low,if_false]
      exact current
    · rcases advanced with even | ⟨past,few⟩
      · exact Or.inl (by omega)
      · exact Or.inr ⟨by omega,by omega⟩

theorem assignNextFromBase_eq (p : PortManager) (basePort : UInt16) (d : Draw fpu) (data : PortData)
    (found : p.portResPortMap basePort = some data)
    (plain : p.simulatedNormalAllocsPerSecond = 0) (unrepaired : p.minPort ≤ data.currentPort) :
    p.assignNextFromBase basePort d =
      ({p with
          portResPortMap :=
            Function.update p.portResPortMap basePort (some ⟨data.currentPort + 1,data.timestampMs⟩)},
        data.currentPort) := by
  have above : ¬data.currentPort < p.minPort := UInt16.not_lt.mpr unrepaired
  simp [assignNextFromBase,found,simulatedOffset,plain,above]

end PortManager

/-- Each base has its block, the blocks lie one after the other before the counter, and
every port assigned is in the block of its base, at most as far as that was asked. -/
structure Blocks (origin : UInt16) (top : Nat) (h : PortHistory) : Prop where
  plain : h.manager.simulatedNormalAllocsPerSecond = 0
  start : h.manager.minPort ≤ origin
  current : h.manager.currentPort = place origin top
  advanced : Advanced origin h.manager.minPort h.manager.reservedPortRangePerAlloc h.bases.length top
  top_le : top ≤ 65536
  inside : ∀ base ∈ h.bases, offset origin base + h.manager.reservedPortRangePerAlloc.toNat ≤ top
  apart : ∀ base ∈ h.bases, ∀ other ∈ h.bases, base ≠ other →
    offset origin base + h.manager.reservedPortRangePerAlloc.toNat ≤ offset origin other ∨
      offset origin other + h.manager.reservedPortRangePerAlloc.toNat ≤ offset origin base
  entry : ∀ base ∈ h.bases, ∃ data, h.manager.portResPortMap base = some data ∧
    data.currentPort = base + .ofNat (h.siblings base + 1)
  few : ∀ base ∈ h.bases, h.siblings base < h.manager.reservedPortRangePerAlloc.toNat
  unasked : ∀ base ∉ h.bases, h.siblings base = 0
  members : ∀ port ∈ h.ports, ∃ base ∈ h.bases, ∃ k ≤ h.siblings base, port = base + .ofNat k
  distinct : h.ports.Nodup

namespace Blocks

variable {fpu : FloatUnit} {origin : UInt16} {top : Nat} {h : PortHistory}

theorem initial (p : PortManager) (plain : p.simulatedNormalAllocsPerSecond = 0)
    (start : p.minPort ≤ p.currentPort) : Blocks p.currentPort 0 ⟨p,[]⟩ where
  plain := plain
  start := start
  current := (place_zero _).symm
  advanced := Or.inl (Nat.zero_mul _).symm
  top_le := Nat.zero_le _
  inside := by simp [PortHistory.bases]
  apart := by simp [PortHistory.bases]
  entry := by simp [PortHistory.bases]
  few := by simp [PortHistory.bases]
  unasked := by simp [PortHistory.siblings]
  members := by simp [PortHistory.ports]
  distinct := List.nodup_nil

theorem offset_port (blocks : Blocks origin top h) (port : UInt16) (member : port ∈ h.ports) :
    ∃ base ∈ h.bases, ∃ k ≤ h.siblings base, offset origin port = offset origin base + k := by
  obtain ⟨base,listed,k,most,rfl⟩ := blocks.members port member
  have inside := blocks.inside base listed
  have few := blocks.few base listed
  have top_le := blocks.top_le
  exact ⟨base,listed,k,most,offset_add origin base k (by omega)⟩

theorem unused_of_top (blocks : Blocks origin top h) (port : UInt16)
    (later : top ≤ offset origin port) (positive : 0 < h.manager.reservedPortRangePerAlloc.toNat) :
    port ∉ h.bases ∧ port ∉ h.ports := by
  constructor
  · intro listed
    have inside := blocks.inside port listed
    omega
  · intro member
    obtain ⟨base,listed,k,most,same⟩ := blocks.offset_port port member
    have inside := blocks.inside base listed
    have few := blocks.few base listed
    omega

theorem unused_of_sibling (blocks : Blocks origin top h) (basePort : UInt16)
    (listed : basePort ∈ h.bases)
    (more : h.siblings basePort + 1 < h.manager.reservedPortRangePerAlloc.toNat) :
    basePort + .ofNat (h.siblings basePort + 1) ∉ h.ports := by
  intro member
  have inside := blocks.inside basePort listed
  have top_le := blocks.top_le
  have here := offset_add origin basePort (h.siblings basePort + 1) (by omega)
  obtain ⟨base,other,k,most,same⟩ := blocks.offset_port _ member
  have few := blocks.few base other
  by_cases equal : base = basePort
  · subst equal
    omega
  · have apart := blocks.apart base other basePort listed equal
    omega

theorem next_base (blocks : Blocks origin top h) (d : Draw fpu)
    (allowed : h.Allowed (.assignNext d)) (sound : h.Sound (.assignNext d)) :
    ∃ after, Blocks origin after (PortHistory.assign h (.assignNext d)).1 := by
  have positive : 0 < h.manager.reservedPortRangePerAlloc.toNat := by
    rcases Nat.eq_zero_or_pos h.manager.reservedPortRangePerAlloc.toNat with none | positive
    · simp [PortHistory.Allowed,none] at allowed
    · exact positive
  have room : (h.bases.length + 1) * h.manager.reservedPortRangePerAlloc.toNat ≤
      65536 - h.manager.minPort.toNat := (Nat.le_div_iff_mul_le positive).mp allowed
  obtain ⟨first,later,fits,port,advanced⟩ := h.manager.assignNext_start d origin h.bases.length top
    blocks.current blocks.start blocks.advanced room sound
  have here : offset origin (h.manager.assignNext d).2 = first := by
    rw [port]
    exact offset_place origin first (by omega)
  obtain ⟨unlisted,unused⟩ := blocks.unused_of_top _ (later.trans_eq here.symm) positive
  have unasked := blocks.unasked _ unlisted
  refine ⟨first + h.manager.reservedPortRangePerAlloc.toNat,?_⟩
  constructor
  case plain => exact blocks.plain
  case start => exact blocks.start
  case current =>
    show (h.manager.assignNext d).1.currentPort = _
    rw [h.manager.assignNext_currentPort d,port,← place_add,UInt16.ofNat_toNat]
  case advanced => exact advanced
  case top_le => exact fits
  case inside =>
    refine List.forall_mem_cons.mpr ⟨le_of_eq (congrArg (· + _) here),fun base listed => ?_⟩
    exact (blocks.inside base listed).trans (by omega)
  case apart =>
    have before (base : UInt16) (listed : base ∈ h.bases) :
        offset origin base + h.manager.reservedPortRangePerAlloc.toNat ≤
          offset origin (h.manager.assignNext d).2 := by
      rw [here]
      exact (blocks.inside base listed).trans later
    refine List.forall_mem_cons.mpr ⟨List.forall_mem_cons.mpr ⟨absurd rfl,?_⟩,fun base listed => ?_⟩
    · exact fun other listed _ => Or.inr (before other listed)
    · exact List.forall_mem_cons.mpr ⟨fun _ => Or.inl (before base listed),blocks.apart base listed⟩
  case entry =>
    rw [PortHistory.bases_assignNext]
    refine List.forall_mem_cons.mpr ⟨?_,fun base listed => ?_⟩
    · obtain ⟨data,found,next⟩ := h.manager.assignNext_entry d
      refine ⟨data,found,?_⟩
      rw [PortHistory.siblings_assignNext,unasked]
      exact next
    · have other : base ≠ (h.manager.assignNext d).2 := fun same => unlisted (same ▸ listed)
      obtain ⟨data,found,next⟩ := blocks.entry base listed
      exact ⟨data,(h.manager.assignNext_portResPortMap d base other).trans found,next⟩
  case few =>
    rw [PortHistory.bases_assignNext]
    refine List.forall_mem_cons.mpr ⟨?_,blocks.few⟩
    rw [PortHistory.siblings_assignNext,unasked]
    exact positive
  case unasked => exact fun base absent => blocks.unasked base fun listed => absent (List.mem_cons_of_mem _ listed)
  case members =>
    refine List.forall_mem_cons.mpr ⟨⟨_,List.mem_cons_self,0,Nat.zero_le _,(UInt16.add_zero _).symm⟩,?_⟩
    intro port member
    obtain ⟨base,listed,within⟩ := blocks.members port member
    exact ⟨base,List.mem_cons_of_mem _ listed,within⟩
  case distinct => exact List.nodup_cons.mpr ⟨unused,blocks.distinct⟩

theorem assign_fromBase (blocks : Blocks origin top h) (basePort : UInt16) (d : Draw fpu)
    (listed : basePort ∈ h.bases) (sound : h.Sound (.assignNextFromBase basePort d)) :
    ∃ data : PortData, data.currentPort = basePort + .ofNat (h.siblings basePort + 1) ∧
      PortHistory.assign h (.assignNextFromBase basePort d) =
        (⟨{h.manager with
            portResPortMap := Function.update h.manager.portResPortMap basePort
              (some ⟨data.currentPort + 1,data.timestampMs⟩)},
          .fromBase basePort data.currentPort :: h.assigned⟩,[data.currentPort]) := by
  obtain ⟨data,found,next⟩ := blocks.entry basePort listed
  have step := h.manager.assignNextFromBase_eq basePort d data found blocks.plain (sound data found)
  refine ⟨data,next,?_⟩
  simp only [PortHistory.assign,step]

theorem next_fromBase (blocks : Blocks origin top h) (basePort : UInt16) (d : Draw fpu)
    (allowed : h.Allowed (.assignNextFromBase basePort d))
    (sound : h.Sound (.assignNextFromBase basePort d)) :
    Blocks origin top (PortHistory.assign h (.assignNextFromBase basePort d)).1 := by
  obtain ⟨listed,more⟩ := allowed
  obtain ⟨data,next,result⟩ := blocks.assign_fromBase basePort d listed sound
  have unused := blocks.unused_of_sibling basePort listed (by omega)
  rw [← next] at unused
  constructor
  case plain => rw [result]; exact blocks.plain
  case start => rw [result]; exact blocks.start
  case current => rw [result]; exact blocks.current
  case advanced => rw [result]; exact blocks.advanced
  case top_le => exact blocks.top_le
  case inside => rw [result]; exact blocks.inside
  case apart => rw [result]; exact blocks.apart
  case entry =>
    intro base member
    rw [PortHistory.siblings_fromBase,result]
    by_cases equal : basePort = base
    · subst equal
      refine ⟨_,Function.update_self _ _ _,?_⟩
      rw [if_pos rfl,UInt16.ofNat_add _ 1,← UInt16.add_assoc,← next]
      rfl
    · rw [if_neg equal,Nat.add_zero]
      obtain ⟨old,kept,after⟩ := blocks.entry base member
      exact ⟨old,(Function.update_of_ne (Ne.symm equal) _ _).trans kept,after⟩
  case few =>
    intro base member
    rw [PortHistory.siblings_fromBase,result]
    have few := blocks.few base member
    by_cases equal : basePort = base
    · subst equal
      rw [if_pos rfl]
      show _ < h.manager.reservedPortRangePerAlloc.toNat
      omega
    · rw [if_neg equal]
      exact few
  case unasked =>
    intro base absent
    have equal : ¬basePort = base := fun same => absent (same ▸ listed)
    rw [PortHistory.siblings_fromBase,if_neg equal]
    exact blocks.unasked base absent
  case members =>
    intro port member
    rw [PortHistory.ports_assign,result] at member
    rcases List.mem_cons.mp member with rfl | member
    · refine ⟨basePort,listed,h.siblings basePort + 1,?_,next⟩
      rw [PortHistory.siblings_fromBase,if_pos rfl]
    · obtain ⟨base,other,k,most,same⟩ := blocks.members port member
      refine ⟨base,other,k,?_,same⟩
      rw [PortHistory.siblings_fromBase]
      omega
  case distinct =>
    rw [PortHistory.ports_assign,result]
    exact List.nodup_cons.mpr ⟨unused,blocks.distinct⟩

end Blocks

def InBlocks (origin : UInt16) (h : PortHistory) : Prop := ∃ top, Blocks origin top h

theorem InBlocks.next {fpu : FloatUnit} {origin : UInt16} (h : PortHistory) (call : PortCall fpu)
    (blocks : InBlocks origin h) (may : h.Allowed call ∧ h.Sound call) :
    InBlocks origin (PortHistory.assign h call).1 := by
  obtain ⟨top,before⟩ := blocks
  cases call with
  | assignNext d => exact before.next_base d may.1 may.2
  | assignNextFromBase basePort d => exact ⟨top,before.next_fromBase basePort d may.1 may.2⟩

namespace PortHistory

variable {fpu : FloatUnit}

/-- In a run that takes neither branch, all ports are different. -/
theorem ports_distinct (p : PortManager) (calls : List (PortCall fpu))
    (plain : p.simulatedNormalAllocsPerSecond = 0) (start : p.minPort ≤ p.currentPort)
    (allowed : Along assign Allowed ⟨p,[]⟩ calls) (sound : Along assign Sound ⟨p,[]⟩ calls) :
    (outputs assign ⟨p,[]⟩ calls).Nodup := by
  have both : Along assign (fun h call => Allowed h call ∧ Sound h call) ⟨p,[]⟩ calls :=
    (along_and _ _).mpr ⟨allowed,sound⟩
  have first : InBlocks p.currentPort ⟨p,[]⟩ := ⟨0,Blocks.initial p plain start⟩
  obtain ⟨top,blocks⟩ := run_invariant InBlocks.next first both
  have distinct := blocks.distinct
  rw [ports_run] at distinct
  simpa [ports] using distinct

def nearTop : PortManager := ⟨fun _ => none,65000,0,75,5000⟩

def nextBase : PortCall .exact := .assignNext ⟨0,(0 : ℚ),true⟩

def nextFrom (basePort : UInt16) : PortCall .exact := .assignNextFromBase basePort ⟨0,(0 : ℚ),true⟩

theorem ports_distinct_reset :
    (outputs assign ⟨nearTop,[]⟩
      (List.replicate 9 nextBase ++ List.replicate 20 (nextFrom 5000))).Nodup :=
  ports_distinct nearTop _ rfl (by decide) (by decide +kernel) (by decide +kernel)

/-- The eleventh port after the base 65525 is repaired to 5000, which is the next base. -/
theorem repaired_not_distinct :
    Along assign Allowed ⟨nearTop,[]⟩ (List.replicate 9 nextBase ++ List.replicate 11 (nextFrom 65525)) ∧
      ¬(outputs assign ⟨nearTop,[]⟩
        (List.replicate 9 nextBase ++ List.replicate 11 (nextFrom 65525))).Nodup :=
  ⟨by decide +kernel,by decide +kernel⟩

end PortHistory

end P2pStun
