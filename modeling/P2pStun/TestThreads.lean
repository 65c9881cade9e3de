import P2pStun.P2pConnector

/-! The threads of a statistical runner, which draw transaction ids from one counter, make a
connection for each and count its result. A thread takes its steps in any order with the
others; the connector and its `connect` are parameters. -/
namespace P2pStun
open Runs

/-- Calls of `connect` by connectors that are made for an id. What they return is a result
that the runners count. -/
structure Calls (D X K E : Type) where
  connector : UInt32 → D
  transactionId : D → UInt32
  start : D → X → K × List Outgoing
  connect : D → Machine K E Outgoing
  progress : K → Progress
  made_for : ∀ i, transactionId (connector i) = i
  start_carries : ∀ c x, ∀ y ∈ (start c x).2, y.payload.transactionId = some (transactionId c)
  start_valid : ∀ c x, progress (start c x).1 ≠ .returned .invalid
  connect_valid : ∀ c k e, progress k ≠ .returned .invalid →
    progress (connect c k e).1 ≠ .returned .invalid

/-- A thread holds the id it has drawn and the call it makes with the connector for that id. -/
inductive Worker (C : UInt32 → Type)
  | drawing | connecting (i : UInt32) (call : C i) | finished

inductive RunnerEvent (W X E : Type)
  | draw (w : W) (x : X) | step (w : W) (e : E) | count (w : W)

namespace RunnerEvent

variable {W X E : Type} [DecidableEq W]

def thread : RunnerEvent W X E → W
  | .draw w _ => w
  | .step w _ => w
  | .count w => w

def roundOf (w : W) : RunnerEvent W X E → Option E
  | .step v e => if v = w then some e else none
  | _ => none

theorem roundOf_other {w : W} {event : RunnerEvent W X E} (other : event.thread ≠ w) :
    event.roundOf w = none := by
  cases event with
  | step v e => exact if_neg other
  | draw | count => rfl

end RunnerEvent

/-- The rounds that a thread has taken. -/
def roundsOf {W X E : Type} [DecidableEq W] (w : W) (events : List (RunnerEvent W X E)) : List E :=
  events.filterMap (·.roundOf w)

inductive RunnerOutput (D : Type)
  | connect (c : D) (first : List Outgoing) | counted (c : D) (result : ConnectResult)

structure Runner (W : Type) (C : UInt32 → Type) where
  successfullRuns : UInt32
  failedRuns : UInt32
  programmMistakes : UInt32
  currentTransactionId : UInt32
  workers : W → Worker C

theorem toNat_succ (n : UInt32) (room : n.toNat + 1 < 2 ^ 32) : (n + 1).toNat = n.toNat + 1 := by
  rw [UInt32.toNat_add]
  exact Nat.mod_eq_of_lt room

namespace Runner

variable {W : Type} {C : UInt32 → Type}

def initial : Runner W C := ⟨0,0,0,0,fun _ => .drawing⟩

def count (s : Runner W C) : ConnectResult → Runner W C
  | .connectionSuccessful => {s with successfullRuns := s.successfullRuns + 1}
  | .connectionFailedNoServerMatchInTime => {s with programmMistakes := s.programmMistakes + 1}
  | .connectionError => {s with programmMistakes := s.programmMistakes + 1}
  | .connectionFailed => {s with failedRuns := s.failedRuns + 1}
  | .invalid => s

/-- The counters are those of these results, each of which one of them counts. -/
structure Counts (results : List ConnectResult) (s : Runner W C) : Prop where
  successes : s.successfullRuns.toNat = results.count .connectionSuccessful
  failures : s.failedRuns.toNat = results.count .connectionFailed
  mistakes : s.programmMistakes.toNat =
    results.count .connectionFailedNoServerMatchInTime + results.count .connectionError
  valid : results.count .invalid = 0

theorem length_eq_counts (results : List ConnectResult) :
    results.length = results.count .connectionSuccessful + results.count .connectionFailed +
      (results.count .connectionFailedNoServerMatchInTime + results.count .connectionError) +
      results.count .invalid := by
  induction results with
  | nil => rfl
  | cons result results ih =>
    cases result <;> simp <;> omega

theorem Counts.total {results : List ConnectResult} {s : Runner W C} (counts : s.Counts results) :
    s.successfullRuns.toNat + s.failedRuns.toNat + s.programmMistakes.toNat = results.length := by
  rw [length_eq_counts,counts.successes,counts.failures,counts.mistakes,counts.valid,Nat.add_zero]

theorem Counts.count {results : List ConnectResult} {s : Runner W C} (counts : s.Counts results)
    (result : ConnectResult) (valid : result ≠ .invalid) (room : results.length + 1 < 2 ^ 32) :
    (s.count result).Counts (results ++ [result]) := by
  have total := counts.total
  obtain ⟨successes,failures,mistakes,none⟩ := counts
  cases result with
  | invalid => exact absurd rfl valid
  | connectionSuccessful =>
    have next := toNat_succ s.successfullRuns (by omega)
    constructor <;> simp [Runner.count,next,successes,failures,mistakes,none]
  | connectionFailed =>
    have next := toNat_succ s.failedRuns (by omega)
    constructor <;> simp [Runner.count,next,successes,failures,mistakes,none]
  | connectionFailedNoServerMatchInTime | connectionError =>
    have next := toNat_succ s.programmMistakes (by omega)
    constructor <;> simp [Runner.count,next,successes,failures,mistakes,none,Nat.add_right_comm,Nat.add_assoc]

@[simp] theorem count_workers (s : Runner W C) (result : ConnectResult) :
    (s.count result).workers = s.workers := by
  cases result <;> rfl

@[simp] theorem count_currentTransactionId (s : Runner W C) (result : ConnectResult) :
    (s.count result).currentTransactionId = s.currentTransactionId := by
  cases result <;> rfl

end Runner

namespace RunnerOutput

variable {D : Type}

def connector : RunnerOutput D → Option D
  | .connect c _ => some c
  | .counted _ _ => none

def result : RunnerOutput D → Option (D × ConnectResult)
  | .connect _ _ => none
  | .counted c result => some (c,result)

end RunnerOutput

def connectors {D : Type} (done : List (RunnerOutput D)) : List D := done.filterMap RunnerOutput.connector

def countedResults {D : Type} (done : List (RunnerOutput D)) : List (D × ConnectResult) :=
  done.filterMap RunnerOutput.result

section Done

variable {D : Type} (done : List (RunnerOutput D)) (c : D) (first : List Outgoing) (result : ConnectResult)

@[simp] theorem connectors_connect : connectors (done ++ [.connect c first]) = connectors done ++ [c] :=
  List.filterMap_append

@[simp] theorem connectors_counted : connectors (done ++ [.counted c result]) = connectors done :=
  List.filterMap_append.trans (List.append_nil _)

@[simp] theorem countedResults_connect :
    countedResults (done ++ [.connect c first]) = countedResults done :=
  List.filterMap_append.trans (List.append_nil _)

@[simp] theorem countedResults_counted :
    countedResults (done ++ [.counted c result]) = countedResults done ++ [(c,result)] :=
  List.filterMap_append

end Done

namespace Calls

variable {W D X K E : Type} [DecidableEq W] (calls : Calls D X K E)

def Reached (c : D) (k : K) : Prop := ∃ x es, k = run (calls.connect c) (calls.start c x).1 es

/-- Where a call of the connector for an id may stand. -/
def Call (i : UInt32) : Type := {k : K // calls.Reached (calls.connector i) k}

def begin (i : UInt32) (x : X) : calls.Call i := ⟨(calls.start (calls.connector i) x).1,x,[],rfl⟩

def next (i : UInt32) (call : calls.Call i) (e : E) : calls.Call i :=
  ⟨(calls.connect (calls.connector i) call.1 e).1,by
    obtain ⟨k,x,es,rfl⟩ := call
    exact ⟨x,es ++ [e],(run_concat _ es e).symm⟩⟩

theorem reached_valid {c : D} {k : K} (reached : calls.Reached c k) :
    calls.progress k ≠ .returned .invalid := by
  obtain ⟨x,es,rfl⟩ := reached
  have keep (k : K) (e : E) (valid : calls.progress k ≠ .returned .invalid) (_ : True) :
      calls.progress (calls.connect c k e).1 ≠ .returned .invalid := calls.connect_valid c k e valid
  exact run_invariant keep (calls.start_valid c x) (along_of_forall _ es fun _ _ _ => trivial)

/-- The loops of `test_thread_main`. -/
def testThreads (runCount : UInt32) :
    Machine (Runner W calls.Call) (RunnerEvent W X E) (RunnerOutput D) :=
  fun s event => match event with
  | .draw w x => match s.workers w with
    | .drawing =>
      let i := s.currentTransactionId
      let s := {s with currentTransactionId := i + 1}
      if i < runCount then
        ({s with workers := Function.update s.workers w (.connecting i (calls.begin i x))},
          [.connect (calls.connector i) (calls.start (calls.connector i) x).2])
      else ({s with workers := Function.update s.workers w .finished},[])
    | _ => (s,[])
  | .step w e => match s.workers w with
    | .connecting i call =>
      ({s with workers := Function.update s.workers w (.connecting i (calls.next i call e))},[])
    | _ => (s,[])
  | .count w => match s.workers w with
    | .connecting i call => match calls.progress call.1 with
      | .returned result =>
        ({s.count result with workers := Function.update s.workers w .drawing},
          [.counted (calls.connector i) result])
      | _ => (s,[])
    | _ => (s,[])

theorem connector_made (i : UInt32) :
    calls.connector i = calls.connector (calls.transactionId (calls.connector i)) := by
  rw [calls.made_for]

variable {calls} {runCount : UInt32} {s : Runner W calls.Call} {event : RunnerEvent W X E}

theorem testThreads_outputs {o : RunnerOutput D} (done : o ∈ (calls.testThreads runCount s event).2) :
    (∃ i x, o = .connect (calls.connector i) (calls.start (calls.connector i) x).2) ∨
    ∃ w i call result, event = .count w ∧ s.workers w = .connecting i call ∧
      calls.progress call.1 = .returned result ∧ o = .counted (calls.connector i) result := by
  cases event with
  | draw w x =>
    simp only [testThreads] at done
    split at done
    · split at done
      · exact .inl ⟨_,x,List.mem_singleton.mp done⟩
      · contradiction
    · contradiction
  | step w e =>
    simp only [testThreads] at done
    split at done <;> contradiction
  | count w =>
    simp only [testThreads] at done
    split at done
    · rename_i i call busy
      split at done
      · rename_i result returned
        exact .inr ⟨w,i,call,result,rfl,busy,returned,List.mem_singleton.mp done⟩
      · contradiction
    · contradiction

/-- The output shows a connector that is made for an id, and how its `connect` starts. -/
def Made (calls : Calls D X K E) : RunnerOutput D → Prop
  | .connect c first => c = calls.connector (calls.transactionId c) ∧ ∃ x, first = (calls.start c x).2
  | .counted c _ => c = calls.connector (calls.transactionId c)

theorem testThreads_made (calls : Calls D X K E) (s : Runner W calls.Call) (event : RunnerEvent W X E) :
    ∀ o ∈ (calls.testThreads runCount s event).2, calls.Made o := by
  intro o done
  obtain ⟨i,x,rfl⟩ | ⟨w,i,call,result,-,-,-,rfl⟩ := testThreads_outputs done
  · exact ⟨calls.connector_made i,x,rfl⟩
  · exact calls.connector_made i

theorem testThreads_other {w : W} (other : event.thread ≠ w) :
    (calls.testThreads runCount s event).1.workers w = s.workers w := by
  have moved (worker : Worker calls.Call) :
      Function.update s.workers event.thread worker w = s.workers w :=
    Function.update_of_ne (Ne.symm other) _ _
  cases event with
  | draw v x =>
    simp only [testThreads]
    split
    · split <;> exact moved _
    · rfl
  | step v e =>
    simp only [testThreads]
    split
    · exact moved _
    · rfl
  | count v =>
    simp only [testThreads]
    split
    · split
      · exact moved _
      · rfl
    · rfl

/-- A thread that is in a call was there before and took no round, or has just begun it, or
has taken another round of it. -/
theorem testThreads_connecting {w : W} {i : UInt32} {call : calls.Call i}
    (busy : (calls.testThreads runCount s event).1.workers w = .connecting i call) :
    (s.workers w = .connecting i call ∧ event.roundOf w = none) ∨
    (∃ x, event = .draw w x ∧ call = calls.begin i x ∧ (calls.testThreads runCount s event).2 =
      [.connect (calls.connector i) (calls.start (calls.connector i) x).2]) ∨
    ∃ earlier e, event = .step w e ∧ s.workers w = .connecting i earlier ∧
      call = calls.next i earlier e := by
  by_cases own : event.thread = w
  · subst own
    cases event with
    | draw w x =>
      cases stood : s.workers w with
      | drawing =>
        by_cases below : s.currentTransactionId < runCount
        · simp only [testThreads,stood,below,if_true,RunnerEvent.thread,Function.update_self] at busy
          cases busy
          exact .inr (.inl ⟨x,rfl,rfl,by simp only [testThreads,stood,below,if_true]⟩)
        · simp only [testThreads,stood,below,if_false,RunnerEvent.thread,Function.update_self] at busy
          contradiction
      | connecting | finished =>
        simp only [testThreads,stood,RunnerEvent.thread] at busy
        exact .inl ⟨stood.trans busy,rfl⟩
    | step w e =>
      cases stood : s.workers w with
      | connecting j earlier =>
        simp only [testThreads,stood,RunnerEvent.thread,Function.update_self] at busy
        cases busy
        exact .inr (.inr ⟨earlier,e,rfl,stood,rfl⟩)
      | drawing | finished =>
        simp only [testThreads,stood,RunnerEvent.thread] at busy
        contradiction
    | count w =>
      cases stood : s.workers w with
      | connecting j earlier =>
        cases reached : calls.progress earlier.1 with
        | returned result =>
          simp only [testThreads,stood,reached,RunnerEvent.thread,Function.update_self] at busy
          contradiction
        | awaitAck | receiving =>
          simp only [testThreads,stood,reached,RunnerEvent.thread] at busy
          exact .inl ⟨stood.trans busy,rfl⟩
      | drawing | finished =>
        simp only [testThreads,stood,RunnerEvent.thread] at busy
        contradiction
  · exact .inl ⟨(testThreads_other own).symm.trans busy,RunnerEvent.roundOf_other own⟩

end Calls

section CallOf

variable {W D X K E : Type} {C : UInt32 → Type} [DecidableEq W]
  {runner : Machine (Runner W C) (RunnerEvent W X E) (RunnerOutput D)} {start : D → X → K × List Outgoing}
  {past : List (RunnerEvent W X E)} {w : W} {c : D} {x : X} {rounds : List E}

/-- The thread began the call of `connect` with its draw, and has taken these rounds since. -/
def CallOf (runner : Machine (Runner W C) (RunnerEvent W X E) (RunnerOutput D))
    (start : D → X → K × List Outgoing) (past : List (RunnerEvent W X E)) (w : W) (c : D) (x : X)
    (rounds : List E) : Prop :=
  ∃ before since, past = before ++ .draw w x :: since ∧
    (runner (run runner .initial before) (.draw w x)).2 = [.connect c (start c x).2] ∧
    rounds = roundsOf w since

theorem CallOf.began
    (shown : (runner (run runner .initial past) (.draw w x)).2 = [.connect c (start c x).2]) :
    CallOf runner start (past ++ [.draw w x]) w c x [] :=
  ⟨past,[],rfl,shown,rfl⟩

theorem CallOf.idle {event : RunnerEvent W X E} (none : event.roundOf w = none)
    (call : CallOf runner start past w c x rounds) :
    CallOf runner start (past ++ [event]) w c x rounds := by
  obtain ⟨before,since,rfl,shown,rfl⟩ := call
  refine ⟨before,since ++ [event],by simp,shown,?_⟩
  simp [roundsOf,none]

theorem CallOf.round (e : E) (call : CallOf runner start past w c x rounds) :
    CallOf runner start (past ++ [.step w e]) w c x (rounds ++ [e]) := by
  obtain ⟨before,since,rfl,shown,rfl⟩ := call
  refine ⟨before,since ++ [.step w e],by simp,shown,?_⟩
  simp [roundsOf,RunnerEvent.roundOf]

/-- A call stands where the rounds of its thread have led it. -/
theorem callOf_connecting (calls : Calls D X K E) (runCount : UInt32) (events : List (RunnerEvent W X E)) :
    ∀ w i call, (run (calls.testThreads runCount) Runner.initial events).workers w = .connecting i call →
      ∃ x rounds, CallOf (calls.testThreads runCount) calls.start events w (calls.connector i) x rounds ∧
        call.1 = run (calls.connect (calls.connector i)) (calls.start (calls.connector i) x).1 rounds := by
  refine history_invariant (fun past (s : Runner W calls.Call) => ∀ w i call,
    s.workers w = .connecting i call → ∃ x rounds,
      CallOf (calls.testThreads runCount) calls.start past w (calls.connector i) x rounds ∧
        call.1 = run (calls.connect (calls.connector i)) (calls.start (calls.connector i) x).1 rounds) ?_ ?_ events
  · intro w i call busy
    contradiction
  · intro past event before w i call busy
    obtain ⟨stayed,none⟩ | ⟨x,rfl,rfl,shown⟩ | ⟨earlier,e,rfl,stood,rfl⟩ := Calls.testThreads_connecting busy
    · obtain ⟨x,rounds,began,stands⟩ := before w i call stayed
      exact ⟨x,rounds,began.idle none,stands⟩
    · exact ⟨x,[],.began shown,rfl⟩
    · obtain ⟨x,rounds,began,stands⟩ := before w i earlier stood
      refine ⟨x,rounds ++ [e],began.round e,?_⟩
      rw [run_concat,← stands]
      rfl

end CallOf

end P2pStun
