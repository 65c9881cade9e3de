import P2pStun.ScanCouple

/-! How far the two of a couple are. The server hears at most two requests of each; once it
has heard all four, and the last one not from the client it heard first, it introduces them. -/
namespace P2pStun.Couple
open Runs Handshake UdpServer

variable {ι : Type} {d : ScanDeployment ι} (c : Couple d) {fpu : FloatUnit}

def stage (net : ScanNetwork ι) (b : Bool) : Option Stage :=
  (net.client (c.who b)).bind (PsConnecting.stage (d.connector (c.who b)) (c.home !b))

def asks (flight : List Packet) (b : Bool) : List Endpoint :=
  (flight.filter fun p => p.src = c.home b ∧ p.payload.type = some .psBindRequest).map (·.dst)

/-- The clients whose requests the server heard, in order, are introduced to each other. -/
def Introduced (es : List Bool) : Prop := (∀ b, es.count b = 2) ∧ es.head? ≠ es.getLast?

instance introduced_decidable : DecidablePred Introduced :=
  fun es => inferInstanceAs (Decidable ((∀ b, es.count b = 2) ∧ es.head? ≠ es.getLast?))

/-- A client that is not introduced: whether it has called, its stage, its requests on their
way, the mail on its way to it, and how many requests the server has heard. -/
inductive Standing (first second : Endpoint) :
    Bool → Option Stage → List Endpoint → List (Option MessageType) → Nat → Prop
  | absent : Standing first second false none [] [] 0
  | knocks : Standing first second true (some .knocking) [first] [] 0
  | knocked : Standing first second true (some .knocking) [] [some .ack] 1
  | asks : Standing first second true (some .asked) [second] [] 1
  | asked : Standing first second true (some .asked) [] [some .ack] 2
  | listens : Standing first second true (some .listening) [] [] 2

theorem Standing.uncalled {first second : Endpoint} {stage : Option Stage} {asks : List Endpoint}
    {mail : List (Option MessageType)} {count : Nat}
    (stands : Standing first second false stage asks mail count) : asks = [] ∧ mail = [] ∧ count = 0 := by
  cases stands
  exact ⟨rfl,rfl,rfl⟩

theorem Standing.mailed {first second : Endpoint} {called : Bool} {stage : Option Stage} {asks : List Endpoint}
    {type : Option MessageType} {mail : List (Option MessageType)} {count : Nat}
    (stands : Standing first second called stage asks (type :: mail) count) :
    type = some .ack ∧ mail = [] ∧ asks = [] ∧
      ((stage = some .knocking ∧ count = 1) ∨ (stage = some .asked ∧ count = 2)) := by
  cases stands with
  | knocked => exact ⟨rfl,rfl,rfl,Or.inl ⟨rfl,rfl⟩⟩
  | asked => exact ⟨rfl,rfl,rfl,Or.inr ⟨rfl,rfl⟩⟩

theorem Standing.requested {first second : Endpoint} {called : Bool} {stage : Option Stage} {asks : List Endpoint}
    {mail : List (Option MessageType)} {count : Nat}
    (stands : Standing first second called stage asks mail count) (asking : asks ≠ []) :
    called = true ∧ asks.length = 1 ∧ mail = [] ∧
      ((stage = some .knocking ∧ count = 0) ∨ (stage = some .asked ∧ count = 1)) := by
  cases stands with
  | knocks => exact ⟨rfl,rfl,rfl,Or.inl ⟨rfl,rfl⟩⟩
  | asks => exact ⟨rfl,rfl,rfl,Or.inr ⟨rfl,rfl⟩⟩
  | absent | knocked | asked | listens => contradiction

theorem Standing.settled {first second : Endpoint} {stage : Option Stage} {count : Nat}
    (stands : Standing first second true stage [] [] count) : stage = some .listening ∧ count = 2 := by
  cases stands
  exact ⟨rfl,rfl⟩

theorem Standing.heard_twice {first second : Endpoint} {called : Bool} {stage : Option Stage} {asks : List Endpoint}
    {mail : List (Option MessageType)} {count : Nat}
    (stands : Standing first second called stage asks mail count) : count ≤ 2 ∧ (count = 2 → asks = [] ∧
      ((stage = some .asked ∧ mail = [some .ack]) ∨ (stage = some .listening ∧ mail = []))) := by
  cases stands with
  | absent | knocks | knocked | asks => exact ⟨by decide,fun twice => absurd twice (by decide)⟩
  | asked => exact ⟨le_rfl,fun _ => ⟨rfl,Or.inl ⟨rfl,rfl⟩⟩⟩
  | listens => exact ⟨le_rfl,fun _ => ⟨rfl,Or.inr ⟨rfl,rfl⟩⟩⟩

structure Filed (t : PsTransaction) (es : List Bool) (a : Bool) : Prop where
  cl1Sk1 : t.cl1Sk1 = (c.home a).sockaddr
  cl1Sk2 : t.cl1Sk2.sinAddr ≠ 0 ↔ es.count a = 2
  unopened : es.count (!a) = 0 → t.cl2Sk1.sinAddr = 0
  cl2Sk1 : es.count (!a) ≠ 0 → t.cl2Sk1 = (c.home !a).sockaddr
  cl2Sk2 : t.cl2Sk2.sinAddr ≠ 0 ↔ es.count (!a) = 2

abbrev Stands (net : ScanNetwork ι) (es : List Bool) (b : Bool) : Prop :=
  Standing (d.server .first) (d.server .second) (net.client (c.who b)).isSome (c.stage net b) (c.asks net.flight b)
    (inbox d.servers net.flight (c.home b)) (es.count b)

abbrev Partners (net : ScanNetwork ι) (b : Bool) : Prop :=
  Paired d.servers .psBindReply net.flight (c.stage net b) (c.stage net !b) (c.home b) (c.home !b)

structure Going (net : ScanNetwork ι) (es : List Bool) : Prop where
  aside : c.RequestsAside net.flight
  standing : ¬Introduced es → ∀ b, c.Stands net es b
  silent : ¬Introduced es → ∀ b type, Between type → ¬Flies net.flight type (c.home b) (c.home !b)
  paired : Introduced es → ∀ b, c.asks net.flight b = [] ∧ c.Partners net b
  vacant : es = [] ∨ Introduced es → net.server.psTransactionClientMap c.id = none
  filed : ∀ a, es.head? = some a → ¬Introduced es →
    ∃ t, net.server.psTransactionClientMap c.id = some t ∧ c.Filed t es a

theorem going_start : c.Going .start [] where
  aside p member := absurd member List.not_mem_nil
  standing _ b := .absent
  silent _ b type _ := not_flies_nil
  paired introduced := absurd introduced (by decide)
  vacant _ := rfl
  filed a first := by simp at first

section Frames

variable {flight flight' before after sent : List Packet} {p : Packet} {net net' : ScanNetwork ι} {es : List Bool}

/-- A datagram that is neither a request of one of the two, nor mail for one, nor between them. -/
def Foreign (p : Packet) : Prop :=
  ∀ b, ¬(p.src = c.home b ∧ p.payload.type = some .psBindRequest) ∧ ¬FromServer d.servers (c.home b) p ∧
    ¬(p.src = c.home b ∧ p.dst = c.home !b)

def Alike (flight flight' : List Packet) : Prop :=
  ∀ b, c.asks flight' b = c.asks flight b ∧
    inbox d.servers flight' (c.home b) = inbox d.servers flight (c.home b) ∧
    ∀ type, Between type → (Flies flight' type (c.home b) (c.home !b) ↔ Flies flight type (c.home b) (c.home !b))

variable {c}

theorem asks_append (b : Bool) : c.asks (flight ++ sent) b = c.asks flight b ++ c.asks sent b := by
  simp [asks]

theorem asks_other {b : Bool} (other : ¬(p.src = c.home b ∧ p.payload.type = some .psBindRequest)) :
    c.asks (before ++ p :: after) b = c.asks (before ++ after) b := by
  simp only [asks,List.filter_append,List.filter_cons,decide_eq_true_eq,other,if_false]

theorem asks_nil {b : Bool} (none_asks : ∀ p ∈ flight, ¬(p.src = c.home b ∧ p.payload.type = some .psBindRequest)) :
    c.asks flight b = [] := by
  rw [asks,List.filter_eq_nil_iff.mpr (by simpa using none_asks),List.map_nil]

theorem alike_refl (flight : List Packet) : c.Alike flight flight := fun _ => ⟨rfl,rfl,fun _ _ => Iff.rfl⟩

theorem Alike.trans {flight'' : List Packet} (first : c.Alike flight flight') (second : c.Alike flight' flight'') :
    c.Alike flight flight'' := fun b =>
  ⟨(second b).1.trans (first b).1,(second b).2.1.trans (first b).2.1,
    fun type between => ((second b).2.2 type between).trans ((first b).2.2 type between)⟩

theorem alike_erase {position : Nat} (found : flight[position]? = some p) (foreign : c.Foreign p) :
    c.Alike flight (flight.eraseIdx position) := by
  obtain ⟨split,erased⟩ := split_of_getElem? found
  intro b
  obtain ⟨request,mail,between⟩ := foreign b
  rw [erased]
  refine ⟨?_,?_,fun type _ => ⟨?_,?_⟩⟩
  · conv_rhs => rw [split]
    exact (asks_other request).symm
  · conv_rhs => rw [split]
    exact (inbox_other mail).symm
  · intro flies
    rw [split]
    exact flies_grow flies
  · intro flies
    rw [split] at flies
    exact flies_kept flies fun this => between ⟨this.1,this.2.1⟩

theorem alike_append (foreign : ∀ q ∈ sent, c.Foreign q) : c.Alike flight (flight ++ sent) := by
  intro b
  refine ⟨?_,?_,fun type _ => ?_⟩
  · rw [asks_append,asks_nil fun q member => (foreign q member b).1,List.append_nil]
  · rw [inbox_append,inbox_nil fun q member => (foreign q member b).2.1,List.append_nil]
  · rw [flies_append]
    refine or_iff_left ?_
    rintro ⟨q,member,source,dest,_⟩
    exact (foreign q member b).2.2 ⟨source,dest⟩

theorem Going.frame (going : c.Going net es) (alike : c.Alike net.flight net'.flight)
    (aside : c.RequestsAside net'.flight)
    (present : ∀ b, (net'.client (c.who b)).isSome = (net.client (c.who b)).isSome)
    (stays : ∀ b, c.stage net' b = c.stage net b)
    (kept : net'.server.psTransactionClientMap c.id = net.server.psTransactionClientMap c.id) : c.Going net' es where
  aside := aside
  standing apart b := by
    rw [Stands,present,stays,(alike b).1,(alike b).2.1]
    exact going.standing apart b
  silent apart b type between flies := going.silent apart b type between (((alike b).2.2 type between).mp flies)
  paired introduced b := by
    obtain ⟨none_asked,paired⟩ := going.paired introduced b
    have there := (alike !b).2.2
    rw [Bool.not_not] at there
    rw [(alike b).1,Partners,stays,stays]
    refine ⟨none_asked,paired.frame (alike b).2.1 ?_ ?_ ?_⟩
    · exact fun type between => ((alike b).2.2 type between).mpr
    · exact fun type between => (there type between).mpr
    · exact fun type between flies => Or.inl (((alike b).2.2 type between).mp flies)
  vacant none_filed := kept.trans (going.vacant none_filed)
  filed a first apart := by
    rw [kept]
    exact going.filed a first apart

end Frames

end P2pStun.Couple
