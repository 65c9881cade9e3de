import P2pStun.Runs

/-! Two machines side by side. A move is a step of both of them, each with an event of its
own, or of one of them alone. A relation that every move keeps relates the ends of the two
runs, and what the two runs show. -/
namespace P2pStun.Runs

variable {S T E F O X : Type}

inductive Move (E F : Type)
  | both (e : E) (f : F) | left (e : E) | right (f : F)

namespace Move

def left? : Move E F → Option E
  | both e _ | left e => some e
  | right _ => none

def right? : Move E F → Option F
  | both _ f | right f => some f
  | left _ => none

def same (e : E) : Move E E := both e e

end Move

def lefts (moves : List (Move E F)) : List E := moves.filterMap Move.left?

def rights (moves : List (Move E F)) : List F := moves.filterMap Move.right?

/-- The two machines as one that keeps both states; what they send is left to their own runs. -/
def beside (m : Machine S E O) (n : Machine T F O) : Machine (S × T) (Move E F) O := fun s x =>
  match x with
  | .both e f => (((m s.1 e).1,(n s.2 f).1),[])
  | .left e => (((m s.1 e).1,s.2),[])
  | .right f => ((s.1,(n s.2 f).1),[])

variable (m : Machine S E O) (n : Machine T F O)

/-- The move keeps the relation, and what it shows is the same on both sides. -/
def Matched (R : S → T → Prop) (seen : O → Option X) (s : S) (t : T) : Move E F → Prop
  | .both e f => R (m s e).1 (n t f).1 ∧ (m s e).2.filterMap seen = (n t f).2.filterMap seen
  | .left e => R (m s e).1 t ∧ (m s e).2.filterMap seen = []
  | .right f => R s (n t f).1 ∧ (n t f).2.filterMap seen = []

def Agreed (V : S → T → Prop) (seen : O → Option X) (s : S) (t : T) (moves : List (Move E F)) : Prop :=
  V (run m s (lefts moves)) (run n t (rights moves)) ∧
    (outputs m s (lefts moves)).filterMap seen = (outputs n t (rights moves)).filterMap seen

variable {m n} {R V : S → T → Prop} {seen : O → Option X} {ok base good : S × T → Move E F → Prop}
  {s : S} {t : T}

theorem run_beside (s : S) (t : T) (moves : List (Move E F)) :
    run (beside m n) (s,t) moves = (run m s (lefts moves),run n t (rights moves)) := by
  induction moves generalizing s t with
  | nil => rfl
  | cons x moves ih => cases x with
    | both e f | left e | right f => exact ih _ _

theorem Matched.next {x : Move E F} (matched : Matched m n R seen s t x) :
    R (beside m n (s,t) x).1.1 (beside m n (s,t) x).1.2 := by
  cases x with
  | both e f | left e | right f => exact matched.1

theorem Matched.agreed_cons {x : Move E F} (matched : Matched m n R seen s t x) (moves : List (Move E F)) :
    Agreed m n V seen s t (x :: moves) ↔
      Agreed m n V seen (beside m n (s,t) x).1.1 (beside m n (s,t) x).1.2 moves := by
  cases x with
  | both e f =>
    refine and_congr Iff.rfl ?_
    change ((m s e).2 ++ outputs m (m s e).1 (lefts moves)).filterMap seen =
      ((n t f).2 ++ outputs n (n t f).1 (rights moves)).filterMap seen ↔ _
    rw [List.filterMap_append,List.filterMap_append,matched.2,List.append_cancel_left_eq]
    rfl
  | left e =>
    refine and_congr Iff.rfl ?_
    change ((m s e).2 ++ outputs m (m s e).1 (lefts moves)).filterMap seen = _ ↔ _
    rw [List.filterMap_append,matched.2,List.nil_append]
    rfl
  | right f =>
    refine and_congr Iff.rfl ?_
    change _ = ((n t f).2 ++ outputs n (n t f).1 (rights moves)).filterMap seen ↔ _
    rw [List.filterMap_append,matched.2,List.nil_append]
    rfl

theorem agreed_of_matched (step : ∀ s t x, R s t → ok (s,t) x → Matched m n R seen s t x)
    (start : R s t) {moves : List (Move E F)} (all : Along (beside m n) ok (s,t) moves) :
    Agreed m n R seen s t moves := by
  induction moves generalizing s t with
  | nil => exact ⟨start,rfl⟩
  | cons x moves ih =>
    have matched := step s t x start all.1
    exact (matched.agreed_cons moves).mpr (ih matched.next all.2)

/-- Where a move that is not good is noticed at once, the two sides agree all the way
exactly if all moves are good. -/
theorem agreed_iff (agree : ∀ s t, R s t → V s t)
    (step : ∀ s t x, R s t → base (s,t) x → good (s,t) x → Matched m n R seen s t x)
    (noticed : ∀ s t x, R s t → base (s,t) x → Agreed m n V seen s t [x] → good (s,t) x)
    (start : R s t) {moves : List (Move E F)} (all : Along (beside m n) base (s,t) moves) :
    (∀ done, done <+: moves → Agreed m n V seen s t done) ↔ Along (beside m n) good (s,t) moves := by
  constructor
  · intro agreed
    induction moves generalizing s t with
    | nil => trivial
    | cons x moves ih =>
      have now : good (s,t) x := noticed s t x start all.1 (agreed [x] (by simp))
      have matched := step s t x start all.1 now
      refine ⟨now,ih matched.next all.2 fun done before => ?_⟩
      exact (matched.agreed_cons done).mp (agreed (x :: done) (by simpa using before))
  · rintro each done ⟨rest,rfl⟩
    rw [along_append] at all each
    have both : Along (beside m n) (fun s x => base s x ∧ good s x) (s,t) done :=
      (along_and _ _).mpr ⟨all.1,each.1⟩
    have related := agreed_of_matched (fun s t x now ok => step s t x now ok.1 ok.2) start both
    exact ⟨agree _ _ related.1,related.2⟩

def exchanged (past : List E) (x y : E) (rest : List E) : List (Move E E) :=
  past.map .same ++ .left x :: .same y :: .right x :: rest.map .same

theorem lefts_same (events : List E) : lefts (events.map Move.same) = events := by
  induction events with
  | nil => rfl
  | cons e events ih => exact congrArg (e :: ·) ih

theorem rights_same (events : List E) : rights (events.map Move.same) = events := by
  induction events with
  | nil => rfl
  | cons e events ih => exact congrArg (e :: ·) ih

theorem lefts_exchanged (past : List E) (x y : E) (rest : List E) :
    lefts (exchanged past x y rest) = past ++ x :: y :: rest := by
  have before := lefts_same past
  have after := lefts_same rest
  rw [lefts] at before after
  rw [lefts,exchanged,List.filterMap_append,before]
  exact congrArg (past ++ x :: y :: ·) after

theorem rights_exchanged (past : List E) (x y : E) (rest : List E) :
    rights (exchanged past x y rest) = past ++ y :: x :: rest := by
  have before := rights_same past
  have after := rights_same rest
  rw [rights] at before after
  rw [rights,exchanged,List.filterMap_append,before]
  exact congrArg (past ++ y :: x :: ·) after

def inserted : E ⊕ E → Move E E
  | .inl e => .same e
  | .inr e => .left e

theorem lefts_inserted (events : List (E ⊕ E)) :
    lefts (events.map inserted) = events.map (Sum.elim id id) := by
  induction events with
  | nil => rfl
  | cons e events ih => cases e with
    | inl e | inr e => exact congrArg (e :: ·) ih

theorem rights_inserted (events : List (E ⊕ E)) :
    rights (events.map inserted) = events.filterMap Sum.getLeft? := by
  induction events with
  | nil => rfl
  | cons e events ih => cases e with
    | inl e => exact congrArg (e :: ·) ih
    | inr e => exact ih

section Alike

variable {reads : S → S → E → Prop} {passes : S → E → Prop} {m : Machine S E O} {R : S → S → Prop}

def TakenAlike (reads : S → S → E → Prop) (s : S × S) : Move E E → Prop
  | .both e f => e = f ∧ reads s.1 s.2 e
  | .left _ | .right _ => True

def Passing (passes : S → E → Prop) (s : S × S) : Move E E → Prop
  | .both _ _ => True
  | .left e => passes s.1 e
  | .right f => passes s.2 f

theorem passing_same (s : S × S) (events : List E) :
    Along (beside m m) (Passing passes) s (events.map .same) := by
  apply along_of_forall
  intro x member t
  obtain ⟨e,_,rfl⟩ := List.mem_map.mp member
  trivial

variable (symm : ∀ s t, R s t → R t s)
  (both : ∀ s t e, R s t → reads s t e → R (m s e).1 (m t e).1 ∧ (m s e).2 = (m t e).2)
  (passed : ∀ s t e, R s t → passes s e → R (m s e).1 t ∧ (m s e).2 = [])
include symm both passed

theorem matched_of_alike (s t : S) (x : Move E E) (alike : R s t) (taken : TakenAlike reads (s,t) x)
    (passing : Passing passes (s,t) x) : Matched m m R seen s t x := by
  cases x with
  | both e f =>
    obtain ⟨rfl,read⟩ := taken
    obtain ⟨next,sent⟩ := both s t e alike read
    exact ⟨next,congrArg (List.filterMap seen) sent⟩
  | left e =>
    obtain ⟨next,silent⟩ := passed s t e alike passing
    exact ⟨next,congrArg (List.filterMap seen) silent⟩
  | right f =>
    obtain ⟨next,silent⟩ := passed t s f (symm s t alike) passing
    exact ⟨symm _ _ next,congrArg (List.filterMap seen) silent⟩

/-- An event that passes before another one and after it may change places with it. -/
theorem exchanged_agreed (self : ∀ s, R s s) (s : S) (past : List E) (x y : E) (rest : List E)
    (before : passes (run m s past) x) (after : passes (run m s (past ++ [y])) x)
    (taken : Along (beside m m) (TakenAlike reads) (s,s) (exchanged past x y rest)) :
    Agreed m m R seen s s (exchanged past x y rest) := by
  have passing : Along (beside m m) (Passing passes) (s,s) (exchanged past x y rest) := by
    rw [run_concat] at after
    rw [exchanged,along_append,run_beside,lefts_same,rights_same]
    exact ⟨passing_same _ past,before,trivial,after,passing_same _ rest⟩
  exact agreed_of_matched
    (fun s t x alike ok => matched_of_alike symm both passed s t x alike ok.1 ok.2) (self s)
    ((along_and _ _).mpr ⟨taken,passing⟩)

def Strewn (reads : S → S → E → Prop) (kind : S → E → Prop) (s : S × S) : Move E E → Prop
  | .both e f => e = f ∧ reads s.1 s.2 e
  | .left e => kind s.1 e
  | .right _ => False

/-- If it is noticed at once that an inserted event does not pass, the run with the inserted
events agrees with the one without them all the way exactly if they all pass. -/
theorem inserted_agreed_iff {kind : S → E → Prop} {W : S → S → Prop} (agree : ∀ s t, R s t → W s t)
    (noticed : ∀ s t e, R s t → kind s e → W (m s e).1 t → passes s e) {s t : S} (start : R s t)
    (events : List (E ⊕ E)) (strewn : Along (beside m m) (Strewn reads kind) (s,t) (events.map inserted)) :
    (∀ done, done <+: events →
      W (run m s (done.map (Sum.elim id id))) (run m t (done.filterMap Sum.getLeft?))) ↔
    Along (beside m m) (Passing passes) (s,t) (events.map inserted) := by
  let nothing : O → Option O := fun _ => none
  have silent (sent : List O) : sent.filterMap nothing = [] := List.filterMap_eq_nil_iff.mpr fun _ _ => rfl
  have step (s t : S) (x : Move E E) (alike : R s t) (strewn : Strewn reads kind (s,t) x)
      (passing : Passing passes (s,t) x) : Matched m m R nothing s t x := by
    apply matched_of_alike symm both passed s t x alike _ passing
    cases x with
    | both e f => exact strewn
    | left e | right f => trivial
  have shown (s t : S) (x : Move E E) (alike : R s t) (strewn : Strewn reads kind (s,t) x)
      (agreed : Agreed m m W nothing s t [x]) : Passing passes (s,t) x := by
    cases x with
    | both e f => trivial
    | left e => exact noticed s t e alike strewn agreed.1
    | right f => exact strewn.elim
  rw [← agreed_iff agree step shown start strewn]
  constructor
  · intro all moves before
    obtain ⟨done,first,rfl⟩ := List.prefix_map_iff.mp before
    refine ⟨?_,(silent _).trans (silent _).symm⟩
    rw [lefts_inserted,rights_inserted]
    exact all done first
  · intro all done before
    have ends := (all _ (before.map inserted)).1
    rw [lefts_inserted,rights_inserted] at ends
    exact ends

theorem inserted_agreed {W : S → S → Prop} (agree : ∀ s t, R s t → W s t) {s t : S} (start : R s t)
    (events : List (E ⊕ E))
    (strewn : Along (beside m m) (Strewn reads fun _ _ => True) (s,t) (events.map inserted))
    (passing : Along (beside m m) (Passing passes) (s,t) (events.map inserted)) :
    ∀ done, done <+: events →
      W (run m s (done.map (Sum.elim id id))) (run m t (done.filterMap Sum.getLeft?)) := by
  have strewnPassing : Along (beside m m) (Strewn reads passes) (s,t) (events.map inserted) := by
    refine along_imp ?_ ((along_and _ _).mpr ⟨strewn,passing⟩)
    rintro u x ⟨is,passes⟩
    cases x with
    | both e f => exact is
    | left e => exact passes
    | right f => exact is
  exact (inserted_agreed_iff symm both passed agree (fun _ _ _ _ passes _ => passes) start events
    strewnPassing).mpr passing

end Alike

section Paired

variable {m : Machine S E O} {R : S → S → Prop} {base good : S → S → E → E → Prop}

def pairs (events : List (E × E)) : List (Move E E) := events.map fun pair => .both pair.1 pair.2

def Paired (P : S → S → E → E → Prop) (s : S × S) : Move E E → Prop
  | .both e f => P s.1 s.2 e f
  | .left _ | .right _ => False

theorem lefts_pairs (events : List (E × E)) : lefts (pairs events) = events.map Prod.fst := by
  induction events with
  | nil => rfl
  | cons pair events ih => exact congrArg (pair.1 :: ·) ih

theorem rights_pairs (events : List (E × E)) : rights (pairs events) = events.map Prod.snd := by
  induction events with
  | nil => rfl
  | cons pair events ih => exact congrArg (pair.2 :: ·) ih

variable (step : ∀ s t e f, R s t → base s t e f →
  R (m s e).1 (m t f).1 ∧ ((m s e).2 = (m t f).2 ↔ good s t e f))
include step

theorem paired_related {s t : S} (start : R s t) (events : List (E × E))
    (all : Along (beside m m) (Paired base) (s,t) (pairs events)) :
    R (run m s (events.map Prod.fst)) (run m t (events.map Prod.snd)) := by
  induction events generalizing s t with
  | nil => exact start
  | cons pair events ih => exact ih (step s t pair.1 pair.2 start all.1).1 all.2

/-- The two sides have sent the same all the way exactly if every pair is good. -/
theorem paired_sent_iff {s t : S} (start : R s t) (events : List (E × E))
    (all : Along (beside m m) (Paired base) (s,t) (pairs events)) :
    (∀ done, done <+: events → outputs m s (done.map Prod.fst) = outputs m t (done.map Prod.snd)) ↔
      Along (beside m m) (Paired good) (s,t) (pairs events) := by
  have matched (s t : S) (x : Move E E) (now : R s t) (is : Paired base (s,t) x)
      (good : Paired good (s,t) x) : Matched m m R some s t x := by
    cases x with
    | both e f =>
      obtain ⟨next,sent⟩ := step s t e f now is
      exact ⟨next,congrArg (List.filterMap some) (sent.mpr good)⟩
    | left e | right f => exact is.elim
  have noticed (s t : S) (x : Move E E) (now : R s t) (is : Paired base (s,t) x)
      (agreed : Agreed m m (fun _ _ => True) some s t [x]) : Paired good (s,t) x := by
    cases x with
    | both e f =>
      have sent : ((m s e).2 ++ []).filterMap some = ((m t f).2 ++ []).filterMap some := agreed.2
      rw [List.filterMap_some,List.filterMap_some,List.append_nil,List.append_nil] at sent
      exact (step s t e f now is).2.mp sent
    | left e | right f => exact is
  rw [← agreed_iff (fun _ _ _ => trivial) matched noticed start all]
  constructor
  · intro same moves before
    obtain ⟨done,first,rfl⟩ := List.prefix_map_iff.mp before
    refine ⟨trivial,?_⟩
    rw [← pairs,lefts_pairs,rights_pairs,same done first]
  · intro agreed done before
    have shown := (agreed (pairs done) (before.map _)).2
    rw [lefts_pairs,rights_pairs,List.filterMap_some,List.filterMap_some] at shown
    exact shown

end Paired

end P2pStun.Runs
