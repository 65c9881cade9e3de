import P2pStun.Counters
import P2pStun.PortManager
import P2pStun.Runs

/-! The counter of the bases under concurrent calls of `assign_next`, one atomic step after
another. The counter moves on without the mutex; the mutex guards its reset. -/
namespace P2pStun
open Runs Offsets Totals

inductive ResetPhase
  | outside | belowMin | locked | comparedLow | ready | fetched
deriving DecidableEq

namespace ResetPhase

def holds : ResetPhase → Bool
  | outside | belowMin => false
  | locked | comparedLow | ready | fetched => true

def due : ResetPhase → Nat
  | outside | fetched => 0
  | belowMin | locked | comparedLow | ready => 1

end ResetPhase

structure PortCounter (T : Type) where
  currentPort : UInt16
  reservedPortRangePerAlloc : UInt16
  minPort : UInt16
  portResetMutex : Option T
  phase : T → ResetPhase
  calls : Nat

namespace PortCounter

variable {T : Type} [DecidableEq T]

def initial (currentPort reservedPortRangePerAlloc minPort : UInt16) : PortCounter T :=
  ⟨currentPort,reservedPortRangePerAlloc,minPort,none,fun _ => .outside,0⟩

def enter (s : PortCounter T) (i : T) (phase : ResetPhase) : PortCounter T :=
  {s with phase := Function.update s.phase i phase}

theorem all_enter {s : PortCounter T} {i : T} {P : ResetPhase → Prop} {phase : ResetPhase} (all : ∀ j, P (s.phase j))
    (new : P phase) (j : T) : P ((s.enter i phase).phase j) := by
  by_cases same : j = i
  · subst same
    simpa [PortCounter.enter] using new
  · simpa [PortCounter.enter,Function.update_of_ne same] using all j

/-- The next atomic step of a thread; the output is the base its call returns. -/
def assignNext : Machine (PortCounter T) T UInt16 := fun s i =>
  match s.phase i with
  | .outside =>
    let myPort := s.currentPort
    let s := {s with
      currentPort := s.currentPort + s.reservedPortRangePerAlloc
      calls := s.calls + 1}
    if myPort < s.minPort then (s.enter i .belowMin,[]) else (s,[myPort])
  | .belowMin => match s.portResetMutex with
    | none => ({s with portResetMutex := some i}.enter i .locked,[])
    | some _ => (s,[])
  | .locked => (s.enter i (if s.currentPort < s.minPort then .comparedLow else .ready),[])
  | .comparedLow => ({s with currentPort := s.minPort}.enter i .ready,[])
  | .ready =>
    ({s with currentPort := s.currentPort + s.reservedPortRangePerAlloc}.enter i .fetched,
      [s.currentPort])
  | .fetched => ({s with portResetMutex := none}.enter i .outside,[])

theorem settings_assignNext (s : PortCounter T) (i : T) :
    (s.assignNext i).1.reservedPortRangePerAlloc = s.reservedPortRangePerAlloc ∧
      (s.assignNext i).1.minPort = s.minPort := by
  cases stands : s.phase i with
  | outside =>
    simp only [assignNext,stands]
    split <;> exact ⟨rfl,rfl⟩
  | belowMin => cases mutex : s.portResetMutex <;> simp [assignNext,stands,mutex,enter]
  | locked | comparedLow | ready | fetched => simp [assignNext,stands,enter]

theorem settings_run (s : PortCounter T) (steps : List T) :
    (run assignNext s steps).reservedPortRangePerAlloc = s.reservedPortRangePerAlloc ∧
      (run assignNext s steps).minPort = s.minPort := by
  induction steps generalizing s with
  | nil => exact ⟨rfl,rfl⟩
  | cons i steps ih =>
    obtain ⟨range,lowest⟩ := settings_assignNext s i
    exact ⟨(ih _).1.trans range,(ih _).2.trans lowest⟩

/-- A call that no other thread disturbs does what the whole call does. -/
theorem alone_assignNext {fpu : FloatUnit} (s : PortCounter T) (i : T) (p : PortManager) (d : Draw fpu)
    (current : s.currentPort = p.currentPort) (lowest : s.minPort = p.minPort)
    (range : s.reservedPortRangePerAlloc = p.reservedPortRangePerAlloc)
    (stands : s.phase i = .outside) (free : s.portResetMutex = none) :
    ∃ n, outputs assignNext s (List.replicate n i) = [(p.assignNext d).2] ∧
      (run assignNext s (List.replicate n i)).currentPort = (p.assignNext d).1.currentPort ∧
      (run assignNext s (List.replicate n i)).phase i = .outside ∧
      (run assignNext s (List.replicate n i)).portResetMutex = none := by
  by_cases low : p.currentPort < p.minPort
  · by_cases still : p.currentPort + p.reservedPortRangePerAlloc < p.minPort
    · refine ⟨6,?_⟩
      simp [List.replicate,assignNext,PortManager.assignNext,enter,current,lowest,range,stands,free,low,still]
    · refine ⟨5,?_⟩
      simp [List.replicate,assignNext,PortManager.assignNext,enter,current,lowest,range,stands,free,low,still]
  · refine ⟨1,?_⟩
    simp [List.replicate,assignNext,PortManager.assignNext,current,lowest,range,stands,free,low]

def Allowed (s : PortCounter T) (i : T) : Prop :=
  s.phase i = .outside → s.calls < (65536 - s.minPort.toNat) / s.reservedPortRangePerAlloc.toNat

/-- An addition that is discarded leaves the counter below the lowest port. -/
def Sound (s : PortCounter T) (i : T) : Prop :=
  s.phase i = .outside → s.currentPort < s.minPort →
    s.currentPort.toNat + s.reservedPortRangePerAlloc.toNat < s.minPort.toNat

instance (s : PortCounter T) (i : T) : Decidable (Allowed s i) := inferInstanceAs (Decidable (_ → _))

instance (s : PortCounter T) (i : T) : Decidable (Sound s i) := inferInstanceAs (Decidable (_ → _))

end PortCounter

/-- Where the counter is after `count` bases, and what that says of the threads: it has come
by a range for each, or is below the lowest port, or has been reset. -/
inductive Standing {T : Type} (origin : UInt16) (count top : Nat) (s : PortCounter T) : Prop
  | even (same : top = count * s.reservedPortRangePerAlloc.toNat) (none : ∀ i, (s.phase i).due = 0)
  | low (ranges : count * s.reservedPortRangePerAlloc.toNat ≤ top)
      (wrapped : 65536 ≤ origin.toNat + count * s.reservedPortRangePerAlloc.toNat)
      (below : origin.toNat + top < 65536 + s.minPort.toNat) (none : ∀ i, s.phase i ≠ .ready)
  | reset (above : 65536 + s.minPort.toNat ≤ origin.toNat + top)
      (ranges : top ≤ count * s.reservedPortRangePerAlloc.toNat + s.minPort.toNat)
      (none : ∀ i, s.phase i ≠ .comparedLow)

/-- The ranges of the bases lie one after the other before the counter, and only the holder
of the mutex is past its `lock`. -/
structure Spaced {T : Type} [Fintype T] (origin : UInt16) (top : Nat) (given : List UInt16)
    (s : PortCounter T) : Prop where
  start : s.minPort ≤ origin
  current : s.currentPort = place origin top
  standing : Standing origin given.length top s
  inside : ∀ base ∈ given, offset origin base + s.reservedPortRangePerAlloc.toNat ≤ top
  apart : given.Pairwise fun base later =>
    offset origin base + s.reservedPortRangePerAlloc.toNat ≤ offset origin later
  lowest : ∀ base ∈ given, s.minPort ≤ base
  owner : ∀ i, (s.phase i).holds = true ↔ s.portResetMutex = some i
  begun : given.length + total ResetPhase.due s.phase = s.calls
  few : s.calls * s.reservedPortRangePerAlloc.toNat ≤ 65536 - s.minPort.toNat
  positive : 0 < s.calls → 0 < s.reservedPortRangePerAlloc.toNat

namespace Spaced

variable {T : Type} [Fintype T] {origin : UInt16} {top : Nat} {given : List UInt16}
  {s : PortCounter T} {i : T}

theorem initial (currentPort range minPort : UInt16) (start : minPort ≤ currentPort) :
    Spaced currentPort 0 [] (PortCounter.initial currentPort range minPort : PortCounter T) where
  start := start
  current := (place_zero _).symm
  standing := .even (Nat.zero_mul _).symm fun _ => rfl
  inside := by simp
  apart := List.Pairwise.nil
  lowest := by simp
  owner := by simp [PortCounter.initial,ResetPhase.holds]
  begun := (Nat.zero_add _).trans ((total_of_forall ResetPhase.due _ 0 fun _ => rfl).trans (Nat.mul_zero _))
  few := by simp [PortCounter.initial]
  positive := by simp [PortCounter.initial]

theorem ranges_le (spaced : Spaced origin top given s) :
    given.length * s.reservedPortRangePerAlloc.toNat ≤ 65536 - s.minPort.toNat := by
  have most : given.length ≤ s.calls := spaced.begun ▸ Nat.le_add_right _ _
  exact (Nat.mul_le_mul_right _ most).trans spaced.few

theorem top_le (spaced : Spaced origin top given s) : top ≤ 65536 := by
  have ranges := spaced.ranges_le
  have bound := s.minPort.toNat_lt
  have start : s.minPort.toNat ≤ origin.toNat := spaced.start
  cases spaced.standing with
  | even same none => omega
  | low _ _ below none => omega
  | reset above most none => omega

theorem value (spaced : Spaced origin top given s) :
    s.currentPort.toNat = (origin.toNat + top) % 65536 := by
  rw [spaced.current,toNat_place]

theorem low_of_lt (spaced : Spaced origin top given s) (low : s.currentPort < s.minPort) :
    given.length * s.reservedPortRangePerAlloc.toNat ≤ top ∧
      65536 ≤ origin.toNat + given.length * s.reservedPortRangePerAlloc.toNat ∧
      origin.toNat + top < 65536 + s.minPort.toNat ∧ ∀ i, s.phase i ≠ .ready := by
  have below : s.currentPort.toNat < s.minPort.toNat := low
  have value := spaced.value
  have top_le := spaced.top_le
  have bound := origin.toNat_lt
  have start : s.minPort.toNat ≤ origin.toNat := spaced.start
  cases spaced.standing with
  | even same none =>
    refine ⟨same.ge,by omega,by omega,fun i ready => ?_⟩
    have due := none i
    rw [ready] at due
    cases due
  | low ranges wrapped under none => exact ⟨ranges,wrapped,under,none⟩
  | reset above most none => omega

theorem standing_of_due (spaced : Spaced origin top given s) (due : (s.phase i).due = 1) :
    (given.length * s.reservedPortRangePerAlloc.toNat ≤ top ∧
        65536 ≤ origin.toNat + given.length * s.reservedPortRangePerAlloc.toNat ∧
        origin.toNat + top < 65536 + s.minPort.toNat ∧ ∀ j, s.phase j ≠ .ready) ∨
      (65536 + s.minPort.toNat ≤ origin.toNat + top ∧
        top ≤ given.length * s.reservedPortRangePerAlloc.toNat + s.minPort.toNat ∧
        ∀ j, s.phase j ≠ .comparedLow) := by
  cases spaced.standing with
  | even same none =>
    rw [none i] at due
    cases due
  | low ranges wrapped under none => exact Or.inl ⟨ranges,wrapped,under,none⟩
  | reset past most none => exact Or.inr ⟨past,most,none⟩

theorem reset_of_le (spaced : Spaced origin top given s) (high : s.minPort ≤ s.currentPort)
    (due : (s.phase i).due = 1) :
    65536 + s.minPort.toNat ≤ origin.toNat + top ∧
      top ≤ given.length * s.reservedPortRangePerAlloc.toNat + s.minPort.toNat ∧
      ∀ j, s.phase j ≠ .comparedLow := by
  have above : s.minPort.toNat ≤ s.currentPort.toNat := high
  have value := spaced.value
  have bound := origin.toNat_lt
  rcases spaced.standing_of_due due with ⟨ranges,wrapped,under,_⟩ | reset
  · omega
  · exact reset

theorem appended (spaced : Spaced origin top given s) (inside : top < 65536) :
    (∀ base ∈ given ++ [s.currentPort], offset origin base + s.reservedPortRangePerAlloc.toNat ≤
        top + s.reservedPortRangePerAlloc.toNat) ∧
      (given ++ [s.currentPort]).Pairwise fun base later =>
        offset origin base + s.reservedPortRangePerAlloc.toNat ≤ offset origin later := by
  have here : offset origin s.currentPort = top := by
    rw [spaced.current]
    exact offset_place origin top inside
  constructor
  · intro base member
    rcases List.mem_append.mp member with old | new
    · exact (spaced.inside base old).trans (Nat.le_add_right _ _)
    · rw [List.mem_singleton.mp new,here]
  · refine List.pairwise_append.mpr ⟨spaced.apart,List.pairwise_singleton _ _,?_⟩
    intro base old later new
    rw [List.mem_singleton.mp new,here]
    exact spaced.inside base old

theorem lowest_append (spaced : Spaced origin top given s) (high : s.minPort ≤ s.currentPort) :
    ∀ base ∈ given ++ [s.currentPort], s.minPort ≤ base := by
  intro base member
  rcases List.mem_append.mp member with old | new
  · exact spaced.lowest base old
  · rwa [List.mem_singleton.mp new]

theorem next_current (spaced : Spaced origin top given s) :
    s.currentPort + s.reservedPortRangePerAlloc =
      place origin (top + s.reservedPortRangePerAlloc.toNat) := by
  rw [spaced.current,← place_add,UInt16.ofNat_toNat]

theorem fetch (spaced : Spaced origin top given s) (high : s.minPort ≤ s.currentPort)
    (positive : 0 < s.reservedPortRangePerAlloc.toNat)
    (room : (s.calls + 1) * s.reservedPortRangePerAlloc.toNat ≤ 65536 - s.minPort.toNat) :
    Spaced origin (top + s.reservedPortRangePerAlloc.toNat) (given ++ [s.currentPort])
      {s with
        currentPort := s.currentPort + s.reservedPortRangePerAlloc
        calls := s.calls + 1} := by
  have value := spaced.value
  have above : s.minPort.toNat ≤ s.currentPort.toNat := high
  have bound := s.minPort.toNat_lt
  have start : s.minPort.toNat ≤ origin.toNat := spaced.start
  have begun := spaced.begun
  have most : (given.length + 1) * s.reservedPortRangePerAlloc.toNat ≤
      (s.calls + 1) * s.reservedPortRangePerAlloc.toNat := Nat.mul_le_mul_right _ (by omega)
  have length : (given ++ [s.currentPort]).length = given.length + 1 := by simp
  have standing : Standing origin (given.length + 1) (top + s.reservedPortRangePerAlloc.toNat) s ∧
      top < 65536 := by
    rw [Nat.succ_mul] at most
    cases spaced.standing with
    | even same none => exact ⟨.even (by rw [Nat.succ_mul,same]) none,by omega⟩
    | low ranges wrapped under none => omega
    | reset past few none =>
      exact ⟨.reset (by omega) (by rw [Nat.succ_mul]; omega) none,by omega⟩
  obtain ⟨inside,apart⟩ := spaced.appended standing.2
  constructor
  case start => exact spaced.start
  case current => exact spaced.next_current
  case standing =>
    rw [length]
    cases standing.1 with
    | even same none => exact .even same none
    | low ranges wrapped under none => exact .low ranges wrapped under none
    | reset past few none => exact .reset past few none
  case inside => exact inside
  case apart => exact apart
  case lowest => exact spaced.lowest_append high
  case owner => exact spaced.owner
  case begun =>
    rw [length]
    show _ + total ResetPhase.due s.phase = s.calls + 1
    omega
  case few => exact room
  case positive => exact fun _ => positive

variable [DecidableEq T]

theorem owner_update {phase : ResetPhase} {mutex : Option T} (spaced : Spaced origin top given s)
    (here : phase.holds = true ↔ mutex = some i)
    (others : ∀ j, j ≠ i → (s.portResetMutex = some j ↔ mutex = some j)) (j : T) :
    ((s.enter i phase).phase j).holds = true ↔ mutex = some j := by
  by_cases same : j = i
  · subst same
    simpa [PortCounter.enter] using here
  · rw [← others j same,← spaced.owner j]
    simp [PortCounter.enter,Function.update_of_ne same]

theorem owner_enter {phase : ResetPhase} (spaced : Spaced origin top given s)
    (same : phase.holds = (s.phase i).holds) (j : T) :
    ((s.enter i phase).phase j).holds = true ↔ s.portResetMutex = some j := by
  refine spaced.owner_update ?_ (fun _ _ => Iff.rfl) j
  rw [same]
  exact spaced.owner i

theorem total_enter (phase : ResetPhase) :
    total ResetPhase.due (s.enter i phase).phase + (s.phase i).due =
      total ResetPhase.due s.phase + phase.due :=
  total_update ResetPhase.due s.phase i phase

theorem begun_enter {phase : ResetPhase} (spaced : Spaced origin top given s)
    (same : phase.due = (s.phase i).due) :
    given.length + total ResetPhase.due (s.enter i phase).phase = s.calls := by
  have moved := total_enter (s := s) (i := i) phase
  have begun := spaced.begun
  omega

theorem standing_enter {phase : ResetPhase} {mutex : Option T} (spaced : Spaced origin top given s)
    (same : phase.due = (s.phase i).due) (unready : phase ≠ .ready) (uncompared : phase ≠ .comparedLow) :
    Standing origin given.length top ({s with portResetMutex := mutex}.enter i phase) := by
  cases spaced.standing with
  | even ranges none =>
    exact .even ranges (PortCounter.all_enter (P := (·.due = 0)) none (same.trans (none i)))
  | low ranges wrapped under none =>
    exact .low ranges wrapped under (PortCounter.all_enter (P := (· ≠ .ready)) none unready)
  | reset past few none =>
    exact .reset past few (PortCounter.all_enter (P := (· ≠ .comparedLow)) none uncompared)

theorem discard (spaced : Spaced origin top given s) (stands : s.phase i = .outside)
    (low : s.currentPort < s.minPort)
    (sound : s.currentPort.toNat + s.reservedPortRangePerAlloc.toNat < s.minPort.toNat)
    (positive : 0 < s.reservedPortRangePerAlloc.toNat)
    (room : (s.calls + 1) * s.reservedPortRangePerAlloc.toNat ≤ 65536 - s.minPort.toNat) :
    Spaced origin (top + s.reservedPortRangePerAlloc.toNat) given
      ({s with
        currentPort := s.currentPort + s.reservedPortRangePerAlloc
        calls := s.calls + 1}.enter i .belowMin) := by
  obtain ⟨ranges,wrapped,below,none⟩ := spaced.low_of_lt low
  have value := spaced.value
  have bound := s.minPort.toNat_lt
  have counted := total_enter (s := s) (i := i) .belowMin
  have begun := spaced.begun
  rw [stands] at counted
  constructor
  case start => exact spaced.start
  case current => exact spaced.next_current
  case standing =>
    refine .low (ranges.trans (Nat.le_add_right _ _)) wrapped ?_ ?_
    · show origin.toNat + (top + s.reservedPortRangePerAlloc.toNat) < 65536 + s.minPort.toNat
      omega
    · exact PortCounter.all_enter (P := (· ≠ .ready)) none (by decide)
  case inside => exact fun base member => (spaced.inside base member).trans (Nat.le_add_right _ _)
  case apart => exact spaced.apart
  case lowest => exact spaced.lowest
  case owner => exact spaced.owner_enter (by rw [stands]; rfl)
  case begun =>
    show _ + total ResetPhase.due (s.enter i .belowMin).phase = s.calls + 1
    simp only [ResetPhase.due] at counted
    omega
  case few => exact room
  case positive => exact fun _ => positive

theorem lock (spaced : Spaced origin top given s) (stands : s.phase i = .belowMin)
    (free : s.portResetMutex = none) :
    Spaced origin top given ({s with portResetMutex := some i}.enter i .locked) := by
  have here : ResetPhase.locked.holds = true ↔ some i = some i := by simp [ResetPhase.holds]
  have others (j : T) (other : j ≠ i) : s.portResetMutex = some j ↔ some i = some j := by
    simp [free,Ne.symm other]
  exact {spaced with
    standing := spaced.standing_enter (by rw [stands]; rfl) (by decide) (by decide)
    owner := spaced.owner_update here others
    begun := spaced.begun_enter (by rw [stands]; rfl)}

theorem compare (spaced : Spaced origin top given s) (stands : s.phase i = .locked) :
    Spaced origin top given
      (s.enter i (if s.currentPort < s.minPort then .comparedLow else .ready)) := by
  by_cases low : s.currentPort < s.minPort
  · rw [if_pos low]
    obtain ⟨ranges,wrapped,under,none⟩ := spaced.low_of_lt low
    exact {spaced with
      standing := .low ranges wrapped under (PortCounter.all_enter (P := (· ≠ .ready)) none (by decide))
      owner := spaced.owner_enter (by rw [stands]; rfl)
      begun := spaced.begun_enter (by rw [stands]; rfl)}
  · rw [if_neg low]
    obtain ⟨past,few,none⟩ := spaced.reset_of_le (i := i) (UInt16.not_lt.mp low) (by rw [stands]; rfl)
    exact {spaced with
      standing := .reset past few (PortCounter.all_enter (P := (· ≠ .comparedLow)) none (by decide))
      owner := spaced.owner_enter (by rw [stands]; rfl)
      begun := spaced.begun_enter (by rw [stands]; rfl)}

theorem compared_alone (spaced : Spaced origin top given s) (stands : s.phase i = .comparedLow)
    (j : T) : (s.enter i .ready).phase j ≠ .comparedLow := by
  intro compared
  have holder : s.portResetMutex = some i := (spaced.owner i).mp (by rw [stands]; rfl)
  by_cases same : j = i
  · subst same
    simp [PortCounter.enter] at compared
  · have there : s.phase j = .comparedLow := by
      simpa [PortCounter.enter,Function.update_of_ne same] using compared
    have holds := (spaced.owner j).mp (by rw [there]; rfl)
    rw [holder] at holds
    exact same (Option.some.inj holds).symm

theorem store (spaced : Spaced origin top given s) (stands : s.phase i = .comparedLow) :
    Spaced origin (65536 + s.minPort.toNat - origin.toNat) given
      ({s with currentPort := s.minPort}.enter i .ready) := by
  have bound := origin.toNat_lt
  have start : s.minPort.toNat ≤ origin.toNat := spaced.start
  have low : 65536 ≤ origin.toNat + given.length * s.reservedPortRangePerAlloc.toNat ∧
      origin.toNat + top < 65536 + s.minPort.toNat := by
    rcases spaced.standing_of_due (i := i) (by rw [stands]; rfl) with ⟨_,wrapped,under,_⟩ | ⟨_,_,none⟩
    · exact ⟨wrapped,under⟩
    · exact absurd stands (none i)
  obtain ⟨wrapped,under⟩ := low
  constructor
  case start => exact spaced.start
  case current =>
    apply UInt16.toNat_inj.mp
    rw [toNat_place]
    show s.minPort.toNat = _
    omega
  case standing =>
    refine .reset ?_ ?_ (spaced.compared_alone stands)
    · show 65536 + s.minPort.toNat ≤ _
      omega
    · show _ ≤ given.length * s.reservedPortRangePerAlloc.toNat + s.minPort.toNat
      omega
  case inside =>
    intro base member
    exact (spaced.inside base member).trans (by omega)
  case apart => exact spaced.apart
  case lowest => exact spaced.lowest
  case owner => exact spaced.owner_enter (by rw [stands]; rfl)
  case begun => exact spaced.begun_enter (by rw [stands]; rfl)
  case few => exact spaced.few
  case positive => exact spaced.positive

theorem fetchLocked (spaced : Spaced origin top given s) (stands : s.phase i = .ready) :
    Spaced origin (top + s.reservedPortRangePerAlloc.toNat) (given ++ [s.currentPort])
      ({s with currentPort := s.currentPort + s.reservedPortRangePerAlloc}.enter i .fetched) := by
  have value := spaced.value
  have bound := origin.toNat_lt
  have lowest := s.minPort.toNat_lt
  have top_le := spaced.top_le
  have begun := spaced.begun
  have counted := total_enter (s := s) (i := i) .fetched
  rw [stands] at counted
  simp only [ResetPhase.due] at counted
  have positive := spaced.positive (by omega)
  have most : (given.length + 1) * s.reservedPortRangePerAlloc.toNat ≤ 65536 - s.minPort.toNat :=
    (Nat.mul_le_mul_right _ (by omega)).trans spaced.few
  rw [Nat.succ_mul] at most
  have length : (given ++ [s.currentPort]).length = given.length + 1 := by simp
  obtain ⟨_,_,_,none⟩ | ⟨above,few,none⟩ := spaced.standing_of_due (i := i) (by rw [stands]; rfl)
  · exact absurd stands (none i)
  have high : s.minPort ≤ s.currentPort := UInt16.le_iff_toNat_le.mpr (by omega)
  obtain ⟨inside,apart⟩ := spaced.appended (by omega)
  constructor
  case start => exact spaced.start
  case current => exact spaced.next_current
  case standing =>
    rw [length]
    refine .reset ?_ ?_ (PortCounter.all_enter (P := (· ≠ .comparedLow)) none (by decide))
    · show 65536 + s.minPort.toNat ≤ _
      omega
    · show _ ≤ (given.length + 1) * s.reservedPortRangePerAlloc.toNat + s.minPort.toNat
      rw [Nat.succ_mul]
      omega
  case inside => exact inside
  case apart => exact apart
  case lowest => exact spaced.lowest_append high
  case owner => exact spaced.owner_enter (by rw [stands]; rfl)
  case begun =>
    rw [length]
    show _ + total ResetPhase.due (s.enter i .fetched).phase = s.calls
    omega
  case few => exact spaced.few
  case positive => exact spaced.positive

theorem unlock (spaced : Spaced origin top given s) (stands : s.phase i = .fetched) :
    Spaced origin top given ({s with portResetMutex := none}.enter i .outside) := by
  have holder : s.portResetMutex = some i := (spaced.owner i).mp (by rw [stands]; rfl)
  have here : ResetPhase.outside.holds = true ↔ none = some i := by simp [ResetPhase.holds]
  have others (j : T) (other : j ≠ i) : s.portResetMutex = some j ↔ none = some j := by
    simp [holder,Ne.symm other]
  exact {spaced with
    standing := spaced.standing_enter (by rw [stands]; rfl) (by decide) (by decide)
    owner := spaced.owner_update here others
    begun := spaced.begun_enter (by rw [stands]; rfl)}

end Spaced

section Steps

variable {T : Type} [Fintype T] [DecidableEq T] {origin : UInt16} {given : List UInt16}

def IsSpaced (origin : UInt16) (given : List UInt16) (s : PortCounter T) : Prop :=
  ∃ top, Spaced origin top given s

theorem IsSpaced.next {s : PortCounter T} {i : T} (spaced : IsSpaced origin given s)
    (allowed : s.Allowed i) (sound : s.Sound i) :
    IsSpaced origin (given ++ (s.assignNext i).2) (s.assignNext i).1 := by
  obtain ⟨top,spaced⟩ := spaced
  cases stands : s.phase i with
  | outside =>
    have more := allowed stands
    have positive : 0 < s.reservedPortRangePerAlloc.toNat := by
      rcases Nat.eq_zero_or_pos s.reservedPortRangePerAlloc.toNat with none | positive
      · simp [none] at more
      · exact positive
    have room : (s.calls + 1) * s.reservedPortRangePerAlloc.toNat ≤ 65536 - s.minPort.toNat :=
      (Nat.le_div_iff_mul_le positive).mp more
    by_cases low : s.currentPort < s.minPort
    · have step : s.assignNext i = ({s with
          currentPort := s.currentPort + s.reservedPortRangePerAlloc
          calls := s.calls + 1}.enter i .belowMin,[]) := by
        simp only [PortCounter.assignNext,stands,low,if_true]
      rw [step,List.append_nil]
      exact ⟨_,spaced.discard stands low (sound stands low) positive room⟩
    · have step : s.assignNext i = ({s with
          currentPort := s.currentPort + s.reservedPortRangePerAlloc
          calls := s.calls + 1},[s.currentPort]) := by
        simp only [PortCounter.assignNext,stands,low,if_false]
      rw [step]
      exact ⟨_,spaced.fetch (UInt16.not_lt.mp low) positive room⟩
  | belowMin =>
    cases mutex : s.portResetMutex with
    | some other =>
      simp only [PortCounter.assignNext,stands,mutex,List.append_nil]
      exact ⟨top,spaced⟩
    | none =>
      simp only [PortCounter.assignNext,stands,mutex,List.append_nil]
      exact ⟨top,spaced.lock stands mutex⟩
  | locked =>
    simp only [PortCounter.assignNext,stands,List.append_nil]
    exact ⟨top,spaced.compare stands⟩
  | comparedLow =>
    simp only [PortCounter.assignNext,stands,List.append_nil]
    exact ⟨_,spaced.store stands⟩
  | ready =>
    simp only [PortCounter.assignNext,stands]
    exact ⟨_,spaced.fetchLocked stands⟩
  | fetched =>
    simp only [PortCounter.assignNext,stands,List.append_nil]
    exact ⟨top,spaced.unlock stands⟩

theorem IsSpaced.run (currentPort range minPort : UInt16) (steps : List T)
    (start : minPort ≤ currentPort)
    (allowed : Along PortCounter.assignNext PortCounter.Allowed (.initial currentPort range minPort) steps)
    (sound : Along PortCounter.assignNext PortCounter.Sound (.initial currentPort range minPort) steps) :
    IsSpaced currentPort
      (outputs PortCounter.assignNext (.initial currentPort range minPort) steps)
      (Runs.run PortCounter.assignNext (.initial currentPort range minPort) steps) := by
  have both : Along PortCounter.assignNext (fun (s : PortCounter T) i => s.Allowed i ∧ s.Sound i)
      (.initial currentPort range minPort) steps := (along_and _ _).mpr ⟨allowed,sound⟩
  refine history_along (fun past s => IsSpaced currentPort
    (outputs PortCounter.assignNext (.initial currentPort range minPort) past) s)
    ⟨0,Spaced.initial currentPort range minPort start⟩ ?_ both
  intro past i before may
  rw [outputs_append]
  simpa using before.next may.1 may.2

/-- Where no discarded addition leads the counter back to the lowest port, every base is at
least that port and any two are a range apart, whatever the interleaving. -/
theorem bases_apart (currentPort range minPort : UInt16) (steps : List T)
    (start : minPort ≤ currentPort)
    (allowed : Along PortCounter.assignNext PortCounter.Allowed (.initial currentPort range minPort) steps)
    (sound : Along PortCounter.assignNext PortCounter.Sound (.initial currentPort range minPort) steps) :
    (∀ base ∈ outputs PortCounter.assignNext (.initial currentPort range minPort) steps,
        minPort ≤ base) ∧
      (outputs PortCounter.assignNext (.initial currentPort range minPort) steps).Pairwise
        fun base other => (range.toNat : Int) ≤ |(base.toNat : Int) - other.toNat| := by
  obtain ⟨top,spaced⟩ := IsSpaced.run currentPort range minPort steps start allowed sound
  obtain ⟨ranges,lowest⟩ := PortCounter.settings_run (.initial currentPort range minPort) steps
  have least := spaced.lowest
  have inside := spaced.inside
  have apart := spaced.apart
  rw [lowest] at least
  rw [ranges] at inside apart
  refine ⟨least,apart.imp_of_mem fun {base other} _ member before => ?_⟩
  exact apart_of_offset currentPort base other range.toNat before ((inside other member).trans spaced.top_le)

theorem bases_apart_reset :
    let steps := [true,true,false,true,false,true,true,true,true,false,false,false,false]
    (∀ base ∈ outputs PortCounter.assignNext (.initial 65000 600 5000) steps, 5000 ≤ base) ∧
      (outputs PortCounter.assignNext (.initial 65000 600 5000) steps).Pairwise
        fun base other => ((600 : UInt16).toNat : Int) ≤ |(base.toNat : Int) - other.toNat| :=
  bases_apart 65000 600 5000 [true,true,false,true,false,true,true,true,true,false,false,false,false]
    (by decide) (by decide) (by decide)

/-- Between the comparison of one thread and its reset, another is led past the lowest port
and a third takes its base there. -/
theorem overtaken_not_apart :
    let steps := [none,none,none,none,some true,some false,none,none]
    Along PortCounter.assignNext PortCounter.Allowed (.initial 65000 2000 5000) steps ∧
      outputs PortCounter.assignNext (.initial 65000 2000 5000) steps = [65000,5464,5000] ∧
      ¬(outputs PortCounter.assignNext (.initial 65000 2000 5000) steps).Pairwise
        fun base other => ((2000 : UInt16).toNat : Int) ≤ |(base.toNat : Int) - other.toNat| :=
  ⟨by decide,by decide,by decide⟩

end Steps

end P2pStun
