import Mathlib.Data.List.Induction

/-! Runs of a machine that answers each event with a new state and some outputs.
Rules for what holds along a run: of every state reached, of every step taken
under a side condition, and of the history of events that led to a state; for a machine
each of whose steps is a run of another one; and for what the steps cost in all. -/
namespace P2pStun.Runs

variable {S T E F O : Type}

abbrev Machine (S E O : Type) := S → E → S × List O

def run (m : Machine S E O) (s : S) (es : List E) : S :=
  es.foldl (fun s e => (m s e).1) s

def outputs (m : Machine S E O) : S → List E → List O
  | _, [] => []
  | s, e :: rest => (m s e).2 ++ outputs m (m s e).1 rest

/-- Every step of the run meets a condition on the state before it and the event. -/
def Along (m : Machine S E O) (ok : S → E → Prop) : S → List E → Prop
  | _, [] => True
  | s, e :: rest => ok s e ∧ Along m ok (m s e).1 rest

instance Along.decidable (m : Machine S E O) (ok : S → E → Prop) [∀ s e, Decidable (ok s e)] :
    (s : S) → (es : List E) → Decidable (Along m ok s es)
  | _, [] => inferInstanceAs (Decidable True)
  | s, e :: es =>
    haveI := Along.decidable m ok (m s e).1 es
    inferInstanceAs (Decidable (ok s e ∧ Along m ok (m s e).1 es))

variable {m : Machine S E O} {ok good : S → E → Prop}

@[simp] theorem run_nil (s : S) : run m s [] = s := rfl

@[simp] theorem run_cons (s : S) (e : E) (es : List E) : run m s (e :: es) = run m (m s e).1 es := rfl

@[simp] theorem run_append (s : S) (es fs : List E) : run m s (es ++ fs) = run m (run m s es) fs := by
  simp [run]

theorem run_concat (s : S) (es : List E) (e : E) : run m s (es ++ [e]) = (m (run m s es) e).1 := by
  simp

@[simp] theorem outputs_nil (s : S) : outputs m s [] = [] := rfl

@[simp] theorem outputs_cons (s : S) (e : E) (es : List E) :
    outputs m s (e :: es) = (m s e).2 ++ outputs m (m s e).1 es := rfl

@[simp] theorem outputs_append (s : S) (es fs : List E) :
    outputs m s (es ++ fs) = outputs m s es ++ outputs m (run m s es) fs := by
  induction es generalizing s with
  | nil => rfl
  | cons e es ih => simp [ih]

theorem forall_outputs {P : O → Prop} (each : ∀ s e, ∀ o ∈ (m s e).2, P o) (s : S) (es : List E) :
    ∀ o ∈ outputs m s es, P o := by
  induction es generalizing s with
  | nil => exact fun _ member => absurd member List.not_mem_nil
  | cons e es ih =>
    intro o member
    rcases List.mem_append.mp member with now | later
    · exact each s e o now
    · exact ih _ o later

@[simp] theorem along_nil (s : S) : Along m ok s [] := trivial

@[simp] theorem along_cons (s : S) (e : E) (es : List E) :
    Along m ok s (e :: es) ↔ ok s e ∧ Along m ok (m s e).1 es := Iff.rfl

@[simp] theorem along_append (s : S) (es fs : List E) :
    Along m ok s (es ++ fs) ↔ Along m ok s es ∧ Along m ok (run m s es) fs := by
  induction es generalizing s with
  | nil => simp
  | cons e es ih => simp [ih,and_assoc]

theorem along_iff (s : S) (es : List E) :
    Along m ok s es ↔ ∀ before e after, es = before ++ e :: after → ok (run m s before) e := by
  constructor
  · rintro all before e after rfl
    simp only [along_append,along_cons] at all
    exact all.2.1
  · intro all
    induction es generalizing s with
    | nil => trivial
    | cons e es ih =>
      refine ⟨all [] e es rfl,ih _ ?_⟩
      rintro before f after rfl
      exact all (e :: before) f after rfl

theorem along_of_forall (s : S) (es : List E) (all : ∀ e ∈ es, ∀ s, ok s e) : Along m ok s es := by
  induction es generalizing s with
  | nil => trivial
  | cons e es ih => exact ⟨all e (by simp) s,ih _ (fun f member => all f (by simp [member]))⟩

theorem run_invariant {Inv : S → Prop} (keep : ∀ s e, Inv s → ok s e → Inv (m s e).1)
    {s : S} (start : Inv s) {es : List E} (all : Along m ok s es) : Inv (run m s es) := by
  induction es generalizing s with
  | nil => exact start
  | cons e es ih => exact ih (keep s e start all.1) all.2

theorem along_of_invariant {Inv : S → Prop} (keep : ∀ s e, Inv s → ok s e → Inv (m s e).1)
    (each : ∀ s e, Inv s → ok s e → good s e) {s : S} (start : Inv s) {es : List E}
    (all : Along m ok s es) : Along m good s es := by
  induction es generalizing s with
  | nil => trivial
  | cons e es ih => exact ⟨each s e start all.1,ih (keep s e start all.1) all.2⟩

theorem along_imp (each : ∀ s e, ok s e → good s e) {s : S} {es : List E}
    (all : Along m ok s es) : Along m good s es := by
  induction es generalizing s with
  | nil => trivial
  | cons e es ih => exact ⟨each s e all.1,ih all.2⟩

theorem along_and (s : S) (es : List E) :
    Along m (fun s e => ok s e ∧ good s e) s es ↔ Along m ok s es ∧ Along m good s es := by
  induction es generalizing s with
  | nil => simp
  | cons e es ih => simp only [along_cons,ih,and_and_and_comm]

theorem along_congr (Inv : S → Prop) (keep : ∀ s e, Inv s → ok s e → Inv (m s e).1)
    (same : ∀ s e, Inv s → (good s e ↔ ok s e)) {s : S} (start : Inv s) (es : List E) :
    Along m good s es ↔ Along m ok s es := by
  constructor
  · intro all
    have kept (s : S) (e : E) (before : Inv s) (step : good s e) : Inv (m s e).1 :=
      keep s e before ((same s e before).mp step)
    exact along_of_invariant kept (fun s e before step => (same s e before).mp step) start all
  · intro all
    exact along_of_invariant keep (fun s e before step => (same s e before).mpr step) start all

theorem history_invariant (Inv : List E → S → Prop) {s : S} (start : Inv [] s)
    (keep : ∀ past e, Inv past (run m s past) → Inv (past ++ [e]) (m (run m s past) e).1)
    (es : List E) : Inv es (run m s es) := by
  induction es using List.reverseRecOn with
  | nil => exact start
  | append_singleton past e ih =>
    rw [run_concat]
    exact keep past e ih

theorem history_along (Inv : List E → S → Prop) {s : S} (start : Inv [] s)
    (keep : ∀ past e, Inv past (run m s past) → ok (run m s past) e →
      Inv (past ++ [e]) (m (run m s past) e).1)
    {es : List E} (all : Along m ok s es) : Inv es (run m s es) := by
  induction es using List.reverseRecOn with
  | nil => exact start
  | append_singleton past e ih =>
    rw [along_append] at all
    rw [run_concat]
    exact keep past e (ih all.1) all.2.1

theorem run_view {P : Type} {n : Machine T F P} (view : S → T) (event : E → F)
    (step : ∀ s e, view (m s e).1 = (n (view s) (event e)).1) (s : S) (es : List E) :
    view (run m s es) = run n (view s) (es.map event) := by
  induction es generalizing s with
  | nil => rfl
  | cons e es ih => simp [ih,step]

/-- Runs of the same events from related states stay related and look the same. -/
theorem outputs_related {R : S → S → Prop} {X : Type} (seen : O → Option X)
    (step : ∀ s t e, R s t → R (m s e).1 (m t e).1 ∧
      (m s e).2.filterMap seen = (m t e).2.filterMap seen)
    {s t : S} (start : R s t) (es : List E) :
    (outputs m s es).filterMap seen = (outputs m t es).filterMap seen := by
  induction es generalizing s t with
  | nil => rfl
  | cons e es ih =>
    obtain ⟨next,same⟩ := step s t e start
    rw [outputs_cons,outputs_cons,List.filterMap_append,List.filterMap_append,same,ih next]

def outputsOf (m : Machine S E O) (kind : E → Bool) : S → List E → List O
  | _, [] => []
  | s, e :: rest => (if kind e then (m s e).2 else []) ++ outputsOf m kind (m s e).1 rest

theorem outputsOf_concat (kind : E → Bool) (s : S) (es : List E) (e : E) :
    outputsOf m kind s (es ++ [e]) =
      outputsOf m kind s es ++ if kind e then (m (run m s es) e).2 else [] := by
  induction es generalizing s with
  | nil => simp [outputsOf]
  | cons f es ih => simp [outputsOf,ih]

/-- A run and the run of its events of one kind stay related, and answer these events
alike, if the other events only move the longer run among related states. -/
theorem run_restricted {R : S → S → Prop} (kind : E → Bool)
    (kept : ∀ s t e, kind e = true → R s t → R (m s e).1 (m t e).1 ∧ (m s e).2 = (m t e).2)
    (others : ∀ s t e, kind e = false → R s t → R (m s e).1 t) {s t : S} (start : R s t)
    (es : List E) :
    R (run m s es) (run m t (es.filter kind)) ∧
      outputsOf m kind s es = outputs m t (es.filter kind) := by
  induction es generalizing s t with
  | nil => exact ⟨start,rfl⟩
  | cons e es ih =>
    cases is : kind e with
    | true =>
      obtain ⟨next,same⟩ := kept s t e is start
      obtain ⟨final,sent⟩ := ih next
      rw [List.filter_cons_of_pos is,outputsOf,is,if_pos rfl,outputs_cons,same,sent]
      exact ⟨final,rfl⟩
    | false =>
      obtain ⟨final,sent⟩ := ih (others s t e is start)
      rw [List.filter_cons_of_neg (by simp [is]),outputsOf,is,sent]
      exact ⟨final,rfl⟩

/-- As before, where only some of the outputs are looked at and the other events show none. -/
theorem run_projected {R : S → S → Prop} {X : Type} (kind : E → Bool) (seen : O → Option X)
    (kept : ∀ s t e, kind e = true → R s t → R (m s e).1 (m t e).1 ∧
      (m s e).2.filterMap seen = (m t e).2.filterMap seen)
    (others : ∀ s t e, kind e = false → R s t → R (m s e).1 t ∧ (m s e).2.filterMap seen = [])
    {s t : S} (start : R s t) (es : List E) :
    R (run m s es) (run m t (es.filter kind)) ∧
      (outputs m s es).filterMap seen = (outputs m t (es.filter kind)).filterMap seen := by
  induction es generalizing s t with
  | nil => exact ⟨start,rfl⟩
  | cons e es ih =>
    cases is : kind e with
    | true =>
      obtain ⟨next,same⟩ := kept s t e is start
      obtain ⟨final,rest⟩ := ih next
      rw [List.filter_cons_of_pos is,outputs_cons,outputs_cons,List.filterMap_append,List.filterMap_append,
        same,rest]
      exact ⟨final,rfl⟩
    | false =>
      obtain ⟨next,silent⟩ := others s t e is start
      obtain ⟨final,rest⟩ := ih next
      rw [List.filter_cons_of_neg (by simp [is]),outputs_cons,List.filterMap_append,silent,rest]
      exact ⟨final,rfl⟩

def states (m : Machine S E O) (s : S) (es : Nat → E) (i : Nat) : S := run m s ((List.range i).map es)

@[simp] theorem states_zero (s : S) (es : Nat → E) : states m s es 0 = s := rfl

theorem states_succ (s : S) (es : Nat → E) (i : Nat) :
    states m s es (i + 1) = (m (states m s es i) (es i)).1 := by
  rw [states,List.range_succ,List.map_append,List.map_singleton,run_concat]
  rfl

theorem latest_split {kind : E → Bool} {past : List E} {e : E}
    (latest : (past.filter kind).getLast? = some e) :
    ∃ before after, past = before ++ e :: after ∧ kind e = true ∧ ∀ f ∈ after, kind f = false := by
  rw [List.getLast?_filter,List.find?_eq_some_iff_append] at latest
  obtain ⟨is,after,before,split,none_later⟩ := latest
  refine ⟨before.reverse,after.reverse,?_,is,?_⟩
  · have reversed := congrArg List.reverse split
    simpa using reversed
  · intro f member
    simpa using none_later f (List.mem_reverse.mp member)

theorem latest_refine {kind finer : E → Bool} {past : List E} {e : E}
    (latest : (past.filter kind).getLast? = some e) (is : finer e = true) :
    (past.filter (fun f => kind f && finer f)).getLast? = some e := by
  obtain ⟨before,after,rfl,coarse,none_later⟩ := latest_split latest
  have rest : after.filter (fun f => kind f && finer f) = [] := by
    rw [List.filter_eq_nil_iff]
    intro f member
    simp [none_later f member]
  rw [List.filter_append,List.filter_cons,rest]
  simp [coarse,is]

section Expansion

/-- The events of the second machine that a run of the first stands for. -/
def expansion (m : Machine S E O) (items : S → E → List F) : S → List E → List F
  | _, [] => []
  | s, e :: es => items s e ++ expansion m items (m s e).1 es

variable {n : Machine T F O} {items : S → E → List F}

@[simp] theorem expansion_nil (s : S) : expansion m items s [] = [] := rfl

@[simp] theorem expansion_cons (s : S) (e : E) (es : List E) :
    expansion m items s (e :: es) = items s e ++ expansion m items (m s e).1 es := rfl

theorem run_expansion {R : S → T → Prop}
    (step : ∀ s t e, R s t → R (m s e).1 (run n t (items s e)) ∧ (m s e).2 = outputs n t (items s e))
    {s : S} {t : T} (start : R s t) (es : List E) :
    R (run m s es) (run n t (expansion m items s es)) ∧
      outputs m s es = outputs n t (expansion m items s es) := by
  induction es generalizing s t with
  | nil => exact ⟨start,rfl⟩
  | cons e es ih =>
    obtain ⟨next,sent⟩ := step s t e start
    obtain ⟨final,rest⟩ := ih next
    rw [expansion_cons,run_append,outputs_append,outputs_cons,sent,rest]
    exact ⟨final,rfl⟩

end Expansion

section Budget

variable {cost income : S → E → Nat} {Inv : S → Prop}

def paid (m : Machine S E O) (cost : S → E → Nat) : S → List E → Nat
  | _, [] => 0
  | s, e :: es => cost s e + paid m cost (m s e).1 es

@[simp] theorem paid_nil (s : S) : paid m cost s [] = 0 := rfl

@[simp] theorem paid_cons (s : S) (e : E) (es : List E) :
    paid m cost s (e :: es) = cost s e + paid m cost (m s e).1 es := rfl

theorem paid_sent (n : Nat) (s : S) (es : List E) :
    paid m (fun s e => n * (m s e).2.length) s es = n * (outputs m s es).length := by
  induction es generalizing s with
  | nil => simp
  | cons e es ih =>
    rw [paid_cons,ih,outputs_cons,List.length_append,Nat.mul_add]

/-- What a run costs is bounded by what it is given and a potential of the state that keeps
the rest. -/
theorem paid_le (potential : S → Nat) (keep : ∀ s e, Inv s → ok s e → Inv (m s e).1)
    (step : ∀ s e, Inv s → ok s e → cost s e + potential (m s e).1 ≤ income s e + potential s)
    {s : S} (start : Inv s) {es : List E} (all : Along m ok s es) :
    paid m cost s es + potential (run m s es) ≤ paid m income s es + potential s := by
  induction es generalizing s with
  | nil => simp
  | cons e es ih =>
    have now := step s e start all.1
    have later := ih (keep s e start all.1) all.2
    rw [paid_cons,paid_cons,run_cons]
    omega

end Budget

end P2pStun.Runs
