import P2pStun.Counters
import P2pStun.TestThreads

/-! What the threads of a runner have counted once they have finished: every id below the
limit was drawn by one thread, which made one call of `connect` for it and counted its result. -/
namespace P2pStun
open Runs Totals

section Counting

namespace Worker

variable {C : UInt32 → Type}

def overshot : Worker C → Nat
  | .finished => 1
  | _ => 0

theorem overshot_le (a : Worker C) : a.overshot ≤ 1 := by
  cases a <;> simp [overshot]

def busy : Worker C → Nat
  | .connecting _ _ => 1
  | _ => 0

def busyWith (i : UInt32) : Worker C → Nat
  | .connecting j _ => if j = i then 1 else 0
  | _ => 0

end Worker

def Runner.drawn {W : Type} {C : UInt32 → Type} (runCount : UInt32) (s : Runner W C) : Nat :=
  min s.currentTransactionId.toNat runCount.toNat

variable {W D X K E : Type} [Fintype W] {calls : Calls D X K E} {runCount : UInt32}
  {done : List (RunnerOutput D)} {s : Runner W calls.Call} {w : W}

/-- Each id drawn below the limit is given to one call, whose result has been counted once
or is still to come, and every thread that finished drew one id too many. -/
structure Counting (runCount : UInt32) (done : List (RunnerOutput D)) (s : Runner W calls.Call) : Prop where
  overshoot : s.currentTransactionId.toNat = s.drawn runCount + total Worker.overshot s.workers
  connected : ∀ i, (connectors done).countP (calls.transactionId · = i) =
    if i.toNat < s.drawn runCount then 1 else 0
  once : ∀ i, (countedResults done).countP (calls.transactionId ·.1 = i) +
    total (Worker.busyWith i) s.workers = if i.toNat < s.drawn runCount then 1 else 0
  counts : s.Counts ((countedResults done).map Prod.snd)
  results : (countedResults done).length + total Worker.busy s.workers = s.drawn runCount

namespace Counting

theorem initial (runCount : UInt32) : Counting runCount [] (Runner.initial : Runner W calls.Call) := by
  have idle (weight : Worker calls.Call → Nat) (none : weight .drawing = 0) :
      total weight (Runner.initial : Runner W calls.Call).workers = 0 :=
    (total_of_forall weight _ 0 fun _ => none).trans (Nat.mul_zero _)
  have fresh : (Runner.initial : Runner W calls.Call).drawn runCount = 0 := Nat.zero_min _
  constructor
  case overshoot => rw [idle Worker.overshot rfl,fresh]; rfl
  case connected => intro i; rw [fresh]; rfl
  case once => intro i; rw [idle (Worker.busyWith i) rfl,fresh]; rfl
  case counts => exact ⟨rfl,rfl,rfl,rfl⟩
  case results => rw [idle Worker.busy rfl,fresh]; rfl

variable [DecidableEq W]

theorem drew (before : Counting runCount done s) (idle : s.workers w = .drawing)
    (below : s.currentTransactionId < runCount) (call : calls.Call s.currentTransactionId)
    (first : List Outgoing) :
    Counting runCount (done ++ [.connect (calls.connector s.currentTransactionId) first])
      {s with
        currentTransactionId := s.currentTransactionId + 1
        workers := Function.update s.workers w (.connecting s.currentTransactionId call)} := by
  have low : s.currentTransactionId.toNat < runCount.toNat := below
  have bound := runCount.toNat_lt
  have next := toNat_succ s.currentTransactionId (by omega)
  have weighs (weight : Worker calls.Call → Nat) :=
    total_update weight s.workers w (.connecting s.currentTransactionId call)
  have same (i : UInt32) : s.currentTransactionId = i ↔ s.currentTransactionId.toNat = i.toNat :=
    UInt32.toNat_inj.symm
  have drawn : s.drawn runCount = s.currentTransactionId.toNat := Nat.min_eq_left low.le
  have after (workers : W → Worker calls.Call) : Runner.drawn runCount
      {s with currentTransactionId := s.currentTransactionId + 1, workers := workers} =
        s.currentTransactionId.toNat + 1 := by
    rw [Runner.drawn,next]
    exact Nat.min_eq_left low
  obtain ⟨overshoot,connected,once,counts,results⟩ := before
  rw [drawn] at overshoot results
  constructor
  case overshoot =>
    have overshot := weighs Worker.overshot
    simp only [idle,Worker.overshot] at overshot
    rw [after]
    dsimp only
    omega
  case connected =>
    intro i
    rw [after,connectors_connect,List.countP_append,connected i,drawn]
    simp only [List.countP_singleton,calls.made_for,decide_eq_true_eq,same]
    split_ifs <;> omega
  case once =>
    intro i
    have earlier := once i
    have busy := weighs (Worker.busyWith i)
    simp only [idle,Worker.busyWith,same] at busy
    rw [drawn] at earlier
    rw [after,countedResults_connect]
    dsimp only
    split_ifs at earlier busy ⊢ <;> omega
  case counts =>
    rw [countedResults_connect]
    exact ⟨counts.successes,counts.failures,counts.mistakes,counts.valid⟩
  case results =>
    have busy := weighs Worker.busy
    simp only [idle,Worker.busy] at busy
    rw [after,countedResults_connect]
    dsimp only
    omega

theorem ended (before : Counting runCount done s) (idle : s.workers w = .drawing)
    (reached : ¬s.currentTransactionId < runCount) (room : runCount.toNat + Fintype.card W < 2 ^ 32) :
    Counting runCount done
      {s with
        currentTransactionId := s.currentTransactionId + 1
        workers := Function.update s.workers w .finished} := by
  have high : runCount.toNat ≤ s.currentTransactionId.toNat := UInt32.not_lt.mp reached
  have weighs (weight : Worker calls.Call → Nat) := total_update weight s.workers w .finished
  have overshot := weighs Worker.overshot
  have most := total_le Worker.overshot (Function.update s.workers w .finished) Worker.overshot_le
  have drawn : s.drawn runCount = runCount.toNat := Nat.min_eq_right high
  obtain ⟨overshoot,connected,once,counts,results⟩ := before
  simp only [idle,Worker.overshot] at overshot
  rw [drawn] at overshoot
  have next := toNat_succ s.currentTransactionId (by omega)
  have after (workers : W → Worker calls.Call) : Runner.drawn runCount
      {s with currentTransactionId := s.currentTransactionId + 1, workers := workers} =
        s.drawn runCount := by
    rw [Runner.drawn,next,drawn]
    exact Nat.min_eq_right (high.trans (Nat.le_succ _))
  constructor
  case overshoot =>
    rw [after,drawn]
    dsimp only
    omega
  case connected =>
    rw [after]
    exact connected
  case once =>
    intro i
    have busy := weighs (Worker.busyWith i)
    simp only [idle,Worker.busyWith,Nat.add_zero] at busy
    rw [after,busy]
    exact once i
  case counts => exact ⟨counts.successes,counts.failures,counts.mistakes,counts.valid⟩
  case results =>
    have busy := weighs Worker.busy
    simp only [idle,Worker.busy,Nat.add_zero] at busy
    rw [after,busy]
    exact results

theorem stepped {i : UInt32} {call : calls.Call i} (before : Counting runCount done s)
    (busy : s.workers w = .connecting i call) (later : calls.Call i) :
    Counting runCount done {s with workers := Function.update s.workers w (.connecting i later)} := by
  have same (weight : Worker calls.Call → Nat)
      (alike : weight (.connecting i later) = weight (.connecting i call)) :
      total weight (Function.update s.workers w (.connecting i later)) = total weight s.workers := by
    have moved := total_update weight s.workers w (.connecting i later)
    rw [busy,alike] at moved
    exact Nat.add_right_cancel moved
  obtain ⟨overshoot,connected,once,counts,results⟩ := before
  constructor
  case overshoot =>
    rw [same Worker.overshot rfl]
    exact overshoot
  case connected => exact connected
  case once =>
    intro j
    rw [same (Worker.busyWith j) rfl]
    exact once j
  case counts => exact ⟨counts.successes,counts.failures,counts.mistakes,counts.valid⟩
  case results =>
    rw [same Worker.busy rfl]
    exact results

theorem counted {i : UInt32} {call : calls.Call i} (before : Counting runCount done s)
    (busy : s.workers w = .connecting i call) (result : ConnectResult) (valid : result ≠ .invalid) :
    Counting runCount (done ++ [.counted (calls.connector i) result])
      {s.count result with workers := Function.update s.workers w .drawing} := by
  have weighs (weight : Worker calls.Call → Nat) := total_update weight s.workers w .drawing
  have bound := runCount.toNat_lt
  have after : Runner.drawn runCount
      {s.count result with workers := Function.update s.workers w .drawing} = s.drawn runCount := by
    rw [Runner.drawn,Runner.drawn,Runner.count_currentTransactionId]
  have most : s.drawn runCount ≤ runCount.toNat := Nat.min_le_right _ _
  obtain ⟨overshoot,connected,once,counts,results⟩ := before
  have fewer := weighs Worker.busy
  rw [busy] at fewer
  simp only [Worker.busy] at fewer
  constructor
  case overshoot =>
    have overshot := weighs Worker.overshot
    rw [busy] at overshot
    simp only [Worker.overshot,Nat.add_zero] at overshot
    rw [after,overshot]
    exact (congrArg UInt32.toNat (s.count_currentTransactionId result)).trans overshoot
  case connected =>
    rw [after,connectors_counted]
    exact connected
  case once =>
    intro j
    have earlier := once j
    have less := weighs (Worker.busyWith j)
    rw [busy] at less
    simp only [Worker.busyWith,Nat.add_zero] at less
    rw [after,countedResults_counted,List.countP_append,← earlier]
    dsimp only
    simp only [List.countP_singleton,calls.made_for,decide_eq_true_eq]
    omega
  case counts =>
    rw [countedResults_counted,List.map_append]
    have more := counts.count result valid (by rw [List.length_map]; omega)
    exact ⟨more.successes,more.failures,more.mistakes,more.valid⟩
  case results =>
    rw [after,countedResults_counted,List.length_append,List.length_singleton]
    dsimp only
    omega

theorem next (before : Counting runCount done s) (event : RunnerEvent W X E)
    (room : runCount.toNat + Fintype.card W < 2 ^ 32) :
    Counting runCount (done ++ (calls.testThreads runCount s event).2)
      (calls.testThreads runCount s event).1 := by
  cases event with
  | draw w x =>
    cases idle : s.workers w with
    | drawing =>
      by_cases below : s.currentTransactionId < runCount
      · simp only [Calls.testThreads,idle,below,if_true]
        exact before.drew idle below _ _
      · simp only [Calls.testThreads,idle,below,if_false,List.append_nil]
        exact before.ended idle below room
    | connecting i call => simpa [Calls.testThreads,idle] using before
    | finished => simpa [Calls.testThreads,idle] using before
  | step w e =>
    cases busy : s.workers w with
    | drawing => simpa [Calls.testThreads,busy] using before
    | finished => simpa [Calls.testThreads,busy] using before
    | connecting i call =>
      simp only [Calls.testThreads,busy,List.append_nil]
      exact before.stepped busy _
  | count w =>
    cases busy : s.workers w with
    | drawing => simpa [Calls.testThreads,busy] using before
    | finished => simpa [Calls.testThreads,busy] using before
    | connecting i call =>
      cases reached : calls.progress call.1 with
      | awaitAck second => simpa [Calls.testThreads,busy,reached] using before
      | receiving attemptsLeft => simpa [Calls.testThreads,busy,reached] using before
      | returned result =>
        have valid : result ≠ .invalid := by
          rintro rfl
          exact calls.reached_valid call.2 reached
        simp only [Calls.testThreads,busy,reached]
        exact before.counted busy result valid

theorem run (calls : Calls D X K E) (room : runCount.toNat + Fintype.card W < 2 ^ 32)
    (events : List (RunnerEvent W X E)) :
    Counting runCount (outputs (calls.testThreads runCount) Runner.initial events)
      (Runs.run (calls.testThreads runCount) (Runner.initial : Runner W calls.Call) events) := by
  refine history_invariant (fun past s => Counting runCount
    (outputs (calls.testThreads runCount) Runner.initial past) s) (initial runCount) ?_ events
  intro past event before
  rw [outputs_append]
  simpa using before.next event room

end Counting

end Counting

/-- When the threads of a runner have finished, `connect` has been called once for each id
below the limit and for no other, by the connector that is made for it and with that id in
its first datagrams. Each of these calls has been counted once, by the thread that began it
and with the result of the rounds that this thread took for it. -/
structure CountedOnce {D X K E : Type} {C : UInt32 → Type} (connector : UInt32 → D)
    (transactionId : D → UInt32) (start : D → X → K × List Outgoing) (connect : D → Machine K E Outgoing)
    (progress : K → Progress) (runCount : UInt32)
    (runner : Machine (Runner (Fin 16) C) (RunnerEvent (Fin 16) X E) (RunnerOutput D))
    (events : List (RunnerEvent (Fin 16) X E)) : Prop where
  called : ∀ i, (connectors (outputs runner .initial events)).countP (transactionId · = i) =
    if i < runCount then 1 else 0
  started : ∀ c first, .connect c first ∈ outputs runner .initial events →
    c = connector (transactionId c) ∧ (∃ x, first = (start c x).2) ∧
      ∀ y ∈ first, y.payload.transactionId = some (transactionId c)
  counted : ∀ i, (countedResults (outputs runner .initial events)).countP (transactionId ·.1 = i) =
    if i < runCount then 1 else 0
  returned : ∀ past event rest c result, events = past ++ event :: rest →
    .counted c result ∈ (runner (run runner .initial past) event).2 →
      ∃ w x rounds, event = .count w ∧ CallOf runner start past w c x rounds ∧
        progress (run (connect c) (start c x).1 rounds) = .returned result
  counters : (run runner .initial events).Counts
    ((countedResults (outputs runner .initial events)).map Prod.snd)
  total : (run runner .initial events).successfullRuns.toNat +
    (run runner .initial events).failedRuns.toNat +
      (run runner .initial events).programmMistakes.toNat = runCount.toNat
  divisor : runCount - (run runner .initial events).programmMistakes =
    (run runner .initial events).successfullRuns + (run runner .initial events).failedRuns

theorem countedOnce_of_finished {D X K E : Type} (calls : Calls D X K E) (runCount : UInt32)
    (below : runCount.toNat < 2 ^ 31) (events : List (RunnerEvent (Fin 16) X E))
    (ended : ∀ w, (run (calls.testThreads runCount) Runner.initial events).workers w = .finished) :
    CountedOnce calls.connector calls.transactionId calls.start calls.connect calls.progress runCount
      (calls.testThreads runCount) events := by
  have room : runCount.toNat + Fintype.card (Fin 16) < 2 ^ 32 := by
    rw [Fintype.card_fin]
    omega
  obtain ⟨overshoot,connected,once,counts,results⟩ := Counting.run calls room events
  have drew : total Worker.overshot
      (run (calls.testThreads runCount) Runner.initial events).workers = 16 :=
    total_of_forall Worker.overshot _ 1 fun w => by rw [ended w]; rfl
  have idle (weight : Worker calls.Call → Nat) (none : weight .finished = 0) :
      total weight (run (calls.testThreads runCount) Runner.initial events).workers = 0 :=
    total_of_forall weight _ 0 fun w => by rw [ended w,none]
  have all : (run (calls.testThreads runCount) Runner.initial events).drawn runCount = runCount.toNat := by
    simp only [Runner.drawn] at *
    omega
  rw [idle Worker.busy rfl,all,Nat.add_zero] at results
  have sum := counts.total
  rw [List.length_map,results] at sum
  constructor
  case called =>
    intro i
    rw [connected i,all]
    rfl
  case started =>
    intro c first member
    have ⟨made,began⟩ := forall_outputs (m := calls.testThreads runCount) calls.testThreads_made
      Runner.initial events _ member
    obtain ⟨x,rfl⟩ := began
    exact ⟨made,⟨x,rfl⟩,calls.start_carries c x⟩
  case counted =>
    intro i
    have counted := once i
    rw [idle (Worker.busyWith i) rfl,all,Nat.add_zero] at counted
    rw [counted]
    rfl
  case returned =>
    intro past event rest c result _ shown
    obtain ⟨i,x,same⟩ | ⟨w,i,call,result,rfl,busy,returned,same⟩ := Calls.testThreads_outputs shown
    · cases same
    · cases same
      obtain ⟨x,rounds,began,stands⟩ := callOf_connecting calls runCount past w i call busy
      exact ⟨w,x,rounds,rfl,began,stands ▸ returned⟩
  case counters => exact counts
  case total => exact sum
  case divisor =>
    apply UInt32.toNat_inj.mp
    rw [UInt32.toNat_sub_of_le _ _ (UInt32.le_iff_toNat_le.mpr (by omega)),UInt32.toNat_add]
    omega

end P2pStun
