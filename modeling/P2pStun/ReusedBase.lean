import P2pStun.ReservedRange

/-! A base that is given out again. Its counter is set back and its timestamp is not, so
that the first draw from it is moved on by the allocations simulated since its last use. -/
namespace P2pStun
open Runs

/-- The timestamp of a base after calls at the times beside them: a base keeps the one it
was first given out at, and a draw under simulated allocations writes its own. -/
def stamped (simulated basePort : UInt16) (log : List (Assigned × UInt64)) : Option UInt64 :=
  log.foldl (fun stamp answer => match answer with
    | (.base port,now) => if port = basePort then some (stamp.getD now) else stamp
    | (.fromBase base _,now) => if base = basePort ∧ simulated ≠ 0 then stamp.map fun _ => now else stamp) none

namespace PortManager

variable {fpu : FloatUnit}

def timed : Machine PortManager (ManagerCall fpu) (Assigned × UInt64) := fun p e => match e with
  | .assignNext d =>
    let (p,port) := p.assignNext d
    (p,[(.base port,d.now)])
  | .assignNextFromBase basePort d =>
    let (p,port) := p.assignNextFromBase basePort d
    (p,[(.fromBase basePort port,d.now)])
  | .setReservedPortRangePerAlloc reservedRange => (p.setReservedPortRangePerAlloc reservedRange,[])

theorem run_timed (p : PortManager) (calls : List (ManagerCall fpu)) : run timed p calls = run call p calls := by
  have same := run_view (m := timed) (n := call) id id (fun s e => by cases e <;> rfl) p calls
  rwa [List.map_id] at same

def nextBase (p : PortManager) : UInt16 :=
  if p.currentPort < p.minPort then
    if p.currentPort + p.reservedPortRangePerAlloc < p.minPort then p.minPort
    else p.currentPort + p.reservedPortRangePerAlloc
  else p.currentPort

theorem assignNext_nextBase (p : PortManager) (d : Draw fpu) : (p.assignNext d).2 = p.nextBase := by
  simp only [assignNext,nextBase]
  split <;> rfl

def without (p : PortManager) (basePort : UInt16) : PortManager :=
  {p with portResPortMap := Function.update p.portResPortMap basePort none}

def givenAt (p : PortManager) (d : Draw fpu) (stamp : UInt64) : PortManager :=
  {p with
    portResPortMap := Function.update p.portResPortMap p.nextBase (some ⟨p.nextBase + 1,stamp⟩)
    currentPort := (p.assignNext d).1.currentPort}

theorem assignNext_given (p : PortManager) (d : Draw fpu) :
    (p.assignNext d).1 = p.givenAt d (p.stampAt p.nextBase d.now) := by
  have stored := p.assignNext_stamped d
  rw [assignNext_nextBase] at stored
  have map : (p.assignNext d).1.portResPortMap = Function.update p.portResPortMap p.nextBase
      (some ⟨p.nextBase + 1,p.stampAt p.nextBase d.now⟩) := by
    funext base
    by_cases same : base = p.nextBase
    · rw [same,stored,Function.update_self]
      rfl
    · rw [Function.update_of_ne same]
      exact p.assignNext_portResPortMap d base (p.assignNext_nextBase d ▸ same)
  rw [givenAt,← map]
  rfl

theorem without_given (p : PortManager) (d : Draw fpu) :
    ((p.without (p.assignNext d).2).assignNext d).1 = p.givenAt d d.now := by
  have base : (p.without p.nextBase).nextBase = p.nextBase := rfl
  have stamp : (p.without p.nextBase).stampAt p.nextBase d.now = d.now := by
    simp [stampAt,without]
  rw [assignNext_nextBase,assignNext_given,base,stamp,givenAt,givenAt,base]
  simp only [without,Function.update_idem]
  rfl

def FreshEntry (p : PortManager) (d : Draw fpu) : Prop :=
  (p.assignNext d).1.portResPortMap (p.assignNext d).2 = some ⟨(p.assignNext d).2 + 1,d.now⟩

/-- All later calls are answered as if the base had never been used before. -/
def SameLater (p : PortManager) (d : Draw fpu) : Prop :=
  ∀ calls : List (ManagerCall fpu), outputs call (p.assignNext d).1 calls =
    outputs call ((p.without (p.assignNext d).2).assignNext d).1 calls

/-- The base that is given out behaves like one that was never used. -/
structure LikeFresh (p : PortManager) (d : Draw fpu) : Prop where
  entry : p.FreshEntry d
  later : p.SameLater d

theorem freshEntry_iff (p : PortManager) (d : Draw fpu) :
    p.FreshEntry d ↔ p.stampAt p.nextBase d.now = d.now := by
  rw [FreshEntry,p.assignNext_stamped d,assignNext_nextBase,Option.some.injEq,PortData.mk.injEq]
  exact and_iff_right rfl

theorem sameLater_of_freshEntry (p : PortManager) (d : Draw fpu) (fresh : p.FreshEntry d) : p.SameLater d := by
  intro calls
  rw [freshEntry_iff] at fresh
  rw [assignNext_given,without_given,fresh]

theorem stampAt_eq_iff (p : PortManager) (basePort : UInt16) (now : UInt64) :
    p.stampAt basePort now = now ↔ (p.portResPortMap basePort).map PortData.timestampMs = none ∨
      (p.portResPortMap basePort).map PortData.timestampMs = some now := by
  rw [stampAt]
  cases p.portResPortMap basePort with
  | none => simp
  | some data => simp

theorem assignNext_timestamp (p : PortManager) (d : Draw fpu) (basePort : UInt16) :
    ((p.assignNext d).1.portResPortMap basePort).map PortData.timestampMs =
      if (p.assignNext d).2 = basePort then
        some (((p.portResPortMap basePort).map PortData.timestampMs).getD d.now)
      else (p.portResPortMap basePort).map PortData.timestampMs := by
  by_cases same : (p.assignNext d).2 = basePort
  · rw [if_pos same,← same,p.assignNext_stamped d,stampAt]
    cases p.portResPortMap (p.assignNext d).2 <;> rfl
  · rw [if_neg same,p.assignNext_portResPortMap d basePort (Ne.symm same)]

theorem assignNextFromBase_timestamp (p : PortManager) (base : UInt16) (d : Draw fpu) (basePort : UInt16) :
    ((p.assignNextFromBase base d).1.portResPortMap basePort).map PortData.timestampMs =
      if base = basePort ∧ p.simulatedNormalAllocsPerSecond ≠ 0 then
        ((p.portResPortMap basePort).map PortData.timestampMs).map fun _ => d.now
      else (p.portResPortMap basePort).map PortData.timestampMs := by
  cases found : p.portResPortMap base with
  | none =>
    rw [p.assignNextFromBase_none base d found]
    by_cases same : base = basePort
    · simp [← same,found]
    · simp [same]
  | some data =>
    by_cases same : base = basePort
    · by_cases plain : p.simulatedNormalAllocsPerSecond = 0
      · simp [assignNextFromBase,found,← same,plain]
      · simp [assignNextFromBase,found,← same,plain]
    · simp [assignNextFromBase,found,same,Function.update_of_ne (Ne.symm same)]

theorem settings_call (p : PortManager) (e : ManagerCall fpu) :
    (call p e).1.simulatedNormalAllocsPerSecond = p.simulatedNormalAllocsPerSecond ∧
      (call p e).1.minPort = p.minPort := by
  cases e with
  | assignNext d => exact ⟨rfl,rfl⟩
  | assignNextFromBase basePort d =>
    simp only [call,assignNextFromBase]
    cases p.portResPortMap basePort <;> exact ⟨rfl,rfl⟩
  | setReservedPortRangePerAlloc reservedRange => exact ⟨rfl,rfl⟩

end PortManager

theorem stamped_concat (simulated basePort : UInt16) (log : List (Assigned × UInt64))
    (assigned : Assigned) (now : UInt64) :
    stamped simulated basePort (log ++ [(assigned,now)]) = match assigned with
      | .base port =>
        if port = basePort then some ((stamped simulated basePort log).getD now)
        else stamped simulated basePort log
      | .fromBase base _ =>
        if base = basePort ∧ simulated ≠ 0 then (stamped simulated basePort log).map fun _ => now
        else stamped simulated basePort log := by
  simp only [stamped,List.foldl_append]
  cases assigned <;> rfl

structure Stamped (simulated : UInt16) (log : List (Assigned × UInt64)) (p : PortManager) : Prop where
  rate : p.simulatedNormalAllocsPerSecond = simulated
  stamp : ∀ basePort, (p.portResPortMap basePort).map PortData.timestampMs = stamped simulated basePort log

theorem Stamped.call {fpu : FloatUnit} {simulated : UInt16} {log : List (Assigned × UInt64)} {p : PortManager}
    (before : Stamped simulated log p) (e : ManagerCall fpu) :
    Stamped simulated (log ++ (p.timed e).2) (PortManager.call p e).1 := by
  refine ⟨(p.settings_call e).1.trans before.rate,fun basePort => ?_⟩
  have stamp := before.stamp basePort
  cases e with
  | assignNext d =>
    have left := p.assignNext_timestamp d basePort
    rw [stamp] at left
    exact left.trans (stamped_concat simulated basePort log (.base (p.assignNext d).2) d.now).symm
  | assignNextFromBase base d =>
    have left := p.assignNextFromBase_timestamp base d basePort
    rw [stamp,before.rate] at left
    exact left.trans
      (stamped_concat simulated basePort log (.fromBase base (p.assignNextFromBase base d).2) d.now).symm
  | setReservedPortRangePerAlloc reservedRange =>
    rw [show (p.timed (.setReservedPortRangePerAlloc reservedRange : ManagerCall fpu)).2 = [] from rfl,
      List.append_nil]
    exact stamp

theorem Stamped.run {fpu : FloatUnit} (currentPort simulated reservedRange minPort : UInt16)
    (calls : List (ManagerCall fpu)) :
    let start : PortManager := ⟨fun _ => none,currentPort,simulated,reservedRange,minPort⟩
    Stamped simulated (outputs PortManager.timed start calls) (Runs.run PortManager.call start calls) := by
  intro start
  refine history_invariant (fun past p => Stamped simulated (outputs PortManager.timed start past) p)
    ⟨rfl,fun _ => rfl⟩ ?_ calls
  intro past e before
  rw [outputs_append,PortManager.run_timed]
  simpa using before.call e

theorem Stamped.freshEntry_iff {fpu : FloatUnit} {simulated : UInt16} {log : List (Assigned × UInt64)}
    {p : PortManager} (history : Stamped simulated log p) (d : Draw fpu) :
    p.FreshEntry d ↔ stamped simulated p.nextBase log = none ∨
      stamped simulated p.nextBase log = some d.now := by
  rw [p.freshEntry_iff,p.stampAt_eq_iff,history.stamp]

structure SameCounters (p q : PortManager) : Prop where
  plain : p.simulatedNormalAllocsPerSecond = 0 ∧ q.simulatedNormalAllocsPerSecond = 0
  current : p.currentPort = q.currentPort
  range : p.reservedPortRangePerAlloc = q.reservedPortRangePerAlloc
  lowest : p.minPort = q.minPort
  counters : ∀ basePort, (p.portResPortMap basePort).map PortData.currentPort =
    (q.portResPortMap basePort).map PortData.currentPort

namespace SameCounters

variable {fpu : FloatUnit} {p q : PortManager}

theorem assignNext (same : SameCounters p q) (d : Draw fpu) :
    SameCounters (p.assignNext d).1 (q.assignNext d).1 ∧ (p.assignNext d).2 = (q.assignNext d).2 := by
  obtain ⟨plain,current,range,lowest,counters⟩ := same
  have port : (p.assignNext d).2 = (q.assignNext d).2 := by
    simp only [PortManager.assignNext_nextBase,PortManager.nextBase,current,range,lowest]
  refine ⟨⟨plain,?_,range,lowest,fun basePort => ?_⟩,port⟩
  · simp only [PortManager.assignNext,current,range,lowest]
  · by_cases this : basePort = (p.assignNext d).2
    · obtain ⟨left,inLeft,leftPort⟩ := p.assignNext_entry d
      obtain ⟨right,inRight,rightPort⟩ := q.assignNext_entry d
      rw [← port] at inRight rightPort
      rw [this,inLeft,inRight,Option.map_some,Option.map_some,leftPort,rightPort]
    · rw [p.assignNext_portResPortMap d basePort this,
        q.assignNext_portResPortMap d basePort (port ▸ this)]
      exact counters basePort

theorem assignNextFromBase (same : SameCounters p q) (base : UInt16) (d : Draw fpu) :
    SameCounters (p.assignNextFromBase base d).1 (q.assignNextFromBase base d).1 ∧
      (p.assignNextFromBase base d).2 = (q.assignNextFromBase base d).2 := by
  have counter := same.counters base
  cases left : p.portResPortMap base with
  | none =>
    have right : q.portResPortMap base = none := by simpa [left] using counter.symm
    rw [p.assignNextFromBase_none base d left,q.assignNextFromBase_none base d right]
    exact ⟨same,rfl⟩
  | some data =>
    obtain ⟨other,right,equal⟩ : ∃ other, q.portResPortMap base = some other ∧
        other.currentPort = data.currentPort := by simpa [left] using counter.symm
    rw [p.assignNextFromBase_some base d data left same.plain.1,
      q.assignNextFromBase_some base d other right same.plain.2]
    refine ⟨{same with counters := fun basePort => ?_},by rw [equal,same.lowest]⟩
    by_cases this : basePort = base
    · simp [this,equal]
    · simpa [Function.update_of_ne this] using same.counters basePort

theorem call (same : SameCounters p q) (e : ManagerCall fpu) :
    SameCounters (PortManager.call p e).1 (PortManager.call q e).1 ∧
      (PortManager.call p e).2 = (PortManager.call q e).2 := by
  cases e with
  | assignNext d =>
    obtain ⟨next,port⟩ := same.assignNext d
    exact ⟨next,congrArg (fun port => [Assigned.base port]) port⟩
  | assignNextFromBase base d =>
    obtain ⟨next,port⟩ := same.assignNextFromBase base d
    exact ⟨next,congrArg (fun port => [Assigned.fromBase base port]) port⟩
  | setReservedPortRangePerAlloc reservedRange => exact ⟨{same with range := rfl},rfl⟩

theorem outputs (same : SameCounters p q) (calls : List (ManagerCall fpu)) :
    Runs.outputs PortManager.call p calls = Runs.outputs PortManager.call q calls := by
  have shown := outputs_related some (fun p q e same => by
    obtain ⟨next,answer⟩ := SameCounters.call same e
    exact ⟨next,congrArg (List.filterMap some) answer⟩) same calls
  simpa using shown

end SameCounters

theorem repaired_apart (minPort port : UInt16) :
    ∃ k, 0 < k ∧ repaired minPort (port + .ofNat k) ≠ repaired minPort port := by
  by_contra none
  push Not at none
  have first := none 1 (by decide)
  have second := none 2 (by decide)
  simp only [repaired,← UInt16.toNat_inj] at first second
  have one : (port + .ofNat 1).toNat = (port.toNat + 1) % 65536 := by simp
  have two : (port + .ofNat 2).toNat = (port.toNat + 2) % 65536 := by simp
  have small : port.toNat < 65536 := port.toNat_lt
  split_ifs at first second with low below under <;>
    simp only [UInt16.toNat_add,one,two] at first second <;> omega

namespace PortManager

theorem sameLater_of_plain {fpu : FloatUnit} (p : PortManager) (d : Draw fpu)
    (plain : p.simulatedNormalAllocsPerSecond = 0) : p.SameLater d := by
  intro calls
  rw [assignNext_given,without_given]
  apply SameCounters.outputs
  refine ⟨⟨plain,plain⟩,rfl,rfl,rfl,fun basePort => ?_⟩
  by_cases this : basePort = p.nextBase
  · simp [givenAt,this]
  · simp [givenAt,Function.update_of_ne this]

theorem assignNextFromBase_port {fpu : FloatUnit} (p : PortManager) (basePort : UInt16) (d : Draw fpu)
    (data : PortData) (found : p.portResPortMap basePort = some data) :
    (p.assignNextFromBase basePort d).2 =
      repaired p.minPort (data.currentPort + p.simulatedOffset data.timestampMs d) := by
  simp [assignNextFromBase,found,repaired]

/-- A multiplier that makes a whole number of the simulated allocations. -/
theorem simulatedOffset_whole (p : PortManager) (old now : UInt64) (multiplier : ℚ) (bindOk : Bool) (k : Nat)
    (simulated : p.simulatedNormalAllocsPerSecond ≠ 0) (positive : 0 < multiplier)
    (whole : ((now - old).toNat : ℚ) * p.simulatedNormalAllocsPerSecond.toNat * multiplier = 1000 * k) :
    p.simulatedOffset old (⟨now,multiplier,bindOk⟩ : Draw .exact) = .ofNat k := by
  have value : (((now - old).toNat : ℚ) / (1000 : ℕ) * p.simulatedNormalAllocsPerSecond.toNat * multiplier +
      (1 : ℕ) / (2 : ℕ) : ℚ) = ((2 * k + 1 : ℕ) : ℚ) / (2 : ℕ) := by
    push_cast
    rw [div_mul_eq_mul_div,div_mul_eq_mul_div,whole]
    ring
  have taken : FloatUnit.exact.positive multiplier = true := decide_eq_true positive
  rw [simulatedOffset,if_pos simulated]
  simp only [taken]
  rw [show k = (2 * k + 1) / 2 by omega,← exact_toUInt16_div,← value]
  rfl

theorem freshEntry_of_sameLater (p : PortManager) (d : Draw .exact)
    (simulated : p.simulatedNormalAllocsPerSecond ≠ 0) (same : p.SameLater d) : p.FreshEntry d := by
  rw [freshEntry_iff]
  by_contra stale
  generalize old : p.stampAt p.nextBase d.now = stamp at stale
  have elapsed : ((d.now - stamp).toNat : ℚ) ≠ 0 := by
    intro none
    have zero : d.now - stamp = 0 := UInt64.toNat_inj.mp (by exact_mod_cast none)
    apply stale
    rw [← UInt64.sub_add_cancel d.now stamp,zero,UInt64.zero_add]
  have rate : (p.simulatedNormalAllocsPerSecond.toNat : ℚ) ≠ 0 := by
    intro none
    exact simulated (UInt16.toNat_inj.mp (by exact_mod_cast none))
  obtain ⟨k,positive,apart⟩ := repaired_apart p.minPort (p.nextBase + 1)
  -- with this multiplier the reused base skips so many ports at once, the unused one none
  let multiplier : ℚ := 1000 * k / ((d.now - stamp).toNat * p.simulatedNormalAllocsPerSecond.toNat)
  let draw : Draw .exact := ⟨d.now,multiplier,true⟩
  have some_time : 0 < multiplier := by
    have numerator : (0 : ℚ) < 1000 * k := by positivity
    have denominator : (0 : ℚ) < (d.now - stamp).toNat * p.simulatedNormalAllocsPerSecond.toNat := by positivity
    exact div_pos numerator denominator
  have moved : p.simulatedOffset stamp draw = .ofNat k := by
    apply p.simulatedOffset_whole stamp d.now multiplier true k simulated some_time
    exact mul_div_cancel₀ _ (mul_ne_zero elapsed rate)
  have unmoved : p.simulatedOffset d.now draw = .ofNat 0 := by
    apply p.simulatedOffset_whole d.now d.now multiplier true 0 simulated some_time
    simp
  have drawn := same [.assignNextFromBase p.nextBase draw]
  rw [assignNext_given,without_given,old] at drawn
  simp only [outputs_cons,outputs_nil,call,List.append_nil,List.cons.injEq,and_true,Assigned.fromBase.injEq,
    true_and] at drawn
  rw [assignNextFromBase_port _ _ _ _ (Function.update_self _ _ _),
    assignNextFromBase_port _ _ _ _ (Function.update_self _ _ _)] at drawn
  apply apart
  change repaired p.minPort (p.nextBase + 1 + p.simulatedOffset stamp draw) =
    repaired p.minPort (p.nextBase + 1 + p.simulatedOffset d.now draw) at drawn
  rw [moved,unmoved] at drawn
  simpa using drawn

end PortManager

/-- After any calls, a base is given out like a new one exactly if it is one, or was stamped
in the same millisecond. The later calls alone are answered so where nothing is simulated,
and under exact arithmetic otherwise only then. -/
theorem reusedBase_likeFresh_iff (fpu : FloatUnit) (currentPort simulated reservedRange minPort : UInt16)
    (past : List (ManagerCall fpu)) (d : Draw fpu) (exactPast : List (ManagerCall .exact)) (e : Draw .exact) :
    let start : PortManager := ⟨fun _ => none,currentPort,simulated,reservedRange,minPort⟩
    let p := run PortManager.call start past
    let q := run PortManager.call start exactPast
    let stamp := stamped simulated p.nextBase (outputs PortManager.timed start past)
    let exactStamp := stamped simulated q.nextBase (outputs PortManager.timed start exactPast)
    (p.LikeFresh d ↔ stamp = none ∨ stamp = some d.now) ∧
    (q.SameLater e ↔ simulated = 0 ∨ exactStamp = none ∨ exactStamp = some e.now) := by
  intro start p q stamp exactStamp
  have history := Stamped.run currentPort simulated reservedRange minPort past
  have exactHistory := Stamped.run currentPort simulated reservedRange minPort exactPast
  have rate : q.simulatedNormalAllocsPerSecond = simulated := exactHistory.rate
  constructor
  · rw [← history.freshEntry_iff d]
    exact ⟨PortManager.LikeFresh.entry,fun fresh => ⟨fresh,p.sameLater_of_freshEntry d fresh⟩⟩
  · rw [← exactHistory.freshEntry_iff e]
    constructor
    · intro same
      by_cases plain : simulated = 0
      · exact Or.inl plain
      · exact Or.inr (q.freshEntry_of_sameLater e (rate ▸ plain) same)
    · rintro (plain | fresh)
      · exact q.sameLater_of_plain e (rate.trans plain)
      · exact q.sameLater_of_freshEntry e fresh

/-- Five seconds after the base 5000 was given out the counter is back there: the first
draw from it is port 5006, not 5001. -/
theorem reused_not_likeFresh :
    let p := run PortManager.call ⟨fun _ => none,5000,1,32768,5000⟩
      [.assignNext (drawAt 0),.assignNext (drawAt 0)]
    let q := p.without 5000
    (p.assignNext (drawAt 5000)).2 = 5000 ∧ ¬p.LikeFresh (drawAt 5000) ∧
      ((p.assignNext (drawAt 5000)).1.assignNextFromBase 5000 (drawAt 5000)).2 = 5006 ∧
      ((q.assignNext (drawAt 5000)).1.assignNextFromBase 5000 (drawAt 5000)).2 = 5001 := by
  intro p q
  have given : (p.assignNext (drawAt 5000)).2 = 5000 := by decide +kernel
  refine ⟨given,?_,by decide +kernel,by decide +kernel⟩
  intro fresh
  have entry := fresh.entry
  rw [PortManager.FreshEntry,given] at entry
  exact absurd entry (by decide +kernel)

end P2pStun
