import P2pStun.Network

/-! Two parties the server introduces to each other, seen from outside: how far each has
come, what the server has on its way to it, and what the two have sent each other. A party
that takes one datagram and sends some of its own keeps what the other one needs. -/
namespace P2pStun

inductive Stage
  | knocking | asked | listening | calling | connected
deriving DecidableEq

namespace Handshake

def FromServer (servers : List Endpoint) (e : Endpoint) (p : Packet) : Prop := p.src ∈ servers ∧ p.dst = e

instance fromServer_decidable (servers : List Endpoint) (e : Endpoint) : DecidablePred (FromServer servers e) :=
  fun p => inferInstanceAs (Decidable (p.src ∈ servers ∧ p.dst = e))

/-- What the servers have on their way to an endpoint, in order. -/
def inbox (servers : List Endpoint) (flight : List Packet) (e : Endpoint) : List (Option MessageType) :=
  (flight.filter (FromServer servers e)).map (·.payload.type)

def Flies (flight : List Packet) (type : MessageType) (a b : Endpoint) : Prop :=
  ∃ p ∈ flight, p.src = a ∧ p.dst = b ∧ p.payload.type = some type

/-- A party at stage `s` and endpoint `a` that was introduced to one at `t` and `b`. What
the two send each other is not lost on them both. -/
structure Paired (servers : List Endpoint) (reply : MessageType) (flight : List Packet) (s t : Option Stage)
    (a b : Endpoint) : Prop where
  own : (s = some .asked ∧ inbox servers flight a = [some .ack,some reply]) ∨
    (s = some .listening ∧ (inbox servers flight a = [some reply] ∨
      inbox servers flight a = [some .ack,some reply])) ∨
    (s = some .calling ∧ inbox servers flight a = []) ∨ s = some .connected
  met : s = some .calling → t = some .calling →
    Flies flight .clientBindRequest a b ∨ Flies flight .clientBindRequest b a
  answered : s = some .calling → t = some .connected → Flies flight .clientBindResponse b a
  punched : Flies flight .clientBindRequest a b → s = some .calling ∨ s = some .connected
  answers : Flies flight .clientBindResponse a b → s = some .connected
  together : s = some .connected → t = some .calling ∨ t = some .connected

section Frames

variable {servers : List Endpoint} {flight before after sent : List Packet} {p : Packet} {a b : Endpoint}
  {type : MessageType}

theorem split_of_getElem? {position : Nat} (found : flight[position]? = some p) :
    flight = flight.take position ++ p :: flight.drop (position + 1) ∧
      flight.eraseIdx position = flight.take position ++ flight.drop (position + 1) := by
  obtain ⟨bound,rfl⟩ := List.getElem?_eq_some_iff.mp found
  refine ⟨?_,List.eraseIdx_eq_take_drop_succ _ _⟩
  rw [List.getElem_cons_drop bound,List.take_append_drop]

theorem inbox_append : inbox servers (flight ++ sent) a = inbox servers flight a ++ inbox servers sent a := by
  simp [inbox]

theorem inbox_nil (none_from : ∀ p ∈ flight, ¬FromServer servers a p) : inbox servers flight a = [] := by
  rw [inbox,List.filter_eq_nil_iff.mpr (by simpa using none_from),List.map_nil]

theorem inbox_ne_nil (from_ : FromServer servers a p) (member : p ∈ flight) : inbox servers flight a ≠ [] := by
  intro empty
  rw [inbox,List.map_eq_nil_iff,List.filter_eq_nil_iff] at empty
  exact empty p member (decide_eq_true from_)

theorem inbox_other (other : ¬FromServer servers a p) :
    inbox servers (before ++ p :: after) a = inbox servers (before ++ after) a := by
  simp [inbox,other]

theorem inbox_first (from_ : FromServer servers a p) (first : ∀ q ∈ before, ¬FromServer servers a q) :
    inbox servers (before ++ p :: after) a = p.payload.type :: inbox servers (before ++ after) a := by
  have nothing := inbox_nil first
  rw [inbox_append,inbox_append,nothing]
  simp [inbox,from_]

theorem inbox_sent (own : ∀ q ∈ sent, q.src ∉ servers) : inbox servers sent a = [] :=
  inbox_nil fun q member from_ => own q member from_.1

theorem flies_append : Flies (flight ++ sent) type a b ↔ Flies flight type a b ∨ Flies sent type a b := by
  simp only [Flies,List.mem_append,or_and_right,exists_or]

theorem flies_grow (flies : Flies (before ++ after) type a b) : Flies (before ++ p :: after) type a b := by
  obtain ⟨q,member,rest⟩ := flies
  refine ⟨q,?_,rest⟩
  rcases List.mem_append.mp member with early | late
  · exact List.mem_append_left _ early
  · exact List.mem_append_right _ (List.mem_cons_of_mem _ late)

theorem flies_kept (flies : Flies (before ++ p :: after) type a b)
    (other : ¬(p.src = a ∧ p.dst = b ∧ p.payload.type = some type)) : Flies (before ++ after) type a b := by
  obtain ⟨q,member,rest⟩ := flies
  refine ⟨q,?_,rest⟩
  rcases List.mem_append.mp member with early | late
  · exact List.mem_append_left _ early
  · rcases List.mem_cons.mp late with rfl | later
    · exact absurd rest other
    · exact List.mem_append_right _ later

theorem not_flies_nil : ¬Flies [] type a b := by
  rintro ⟨q,member,_⟩
  exact absurd member List.not_mem_nil

theorem not_flies_sent (other : ∀ q ∈ sent, q.src ≠ a) : ¬Flies sent type a b := by
  rintro ⟨q,member,source,_⟩
  exact other q member source

end Frames

def Between (type : MessageType) : Prop := type = .clientBindRequest ∨ type = .clientBindResponse

/-- Only the mail of the first and what they send each other count. A party that calls may
send another request. -/
theorem Paired.frame {servers : List Endpoint} {reply : MessageType} {flight flight' : List Packet}
    {s t : Option Stage} {a b : Endpoint} (paired : Paired servers reply flight s t a b)
    (mail : inbox servers flight' a = inbox servers flight a)
    (kept : ∀ type, Between type → Flies flight type a b → Flies flight' type a b)
    (kept' : ∀ type, Between type → Flies flight type b a → Flies flight' type b a)
    (new : ∀ type, Between type → Flies flight' type a b →
      Flies flight type a b ∨ (type = .clientBindRequest ∧ s = some .calling)) :
    Paired servers reply flight' s t a b := by
  constructor
  case own =>
    rw [mail]
    exact paired.own
  case met =>
    exact fun ours theirs => (paired.met ours theirs).imp (kept _ (Or.inl rfl)) (kept' _ (Or.inl rfl))
  case answered => exact fun ours theirs => kept' _ (Or.inr rfl) (paired.answered ours theirs)
  case punched =>
    intro flies
    rcases new _ (Or.inl rfl) flies with old | ⟨_,calling⟩
    · exact paired.punched old
    · exact Or.inl calling
  case answers =>
    intro flies
    rcases new _ (Or.inr rfl) flies with old | ⟨request,_⟩
    · exact paired.answers old
    · contradiction
  case together => exact paired.together

theorem Paired.introduced {servers : List Endpoint} {reply : MessageType} {flight : List Packet}
    {s t : Option Stage} {a b : Endpoint}
    (own : (s = some .asked ∧ inbox servers flight a = [some .ack,some reply]) ∨
      (s = some .listening ∧ inbox servers flight a = [some reply]))
    (silent : ∀ type, Between type → ¬Flies flight type a b) : Paired servers reply flight s t a b := by
  have early : s = some .asked ∨ s = some .listening := own.imp And.left And.left
  constructor
  case own =>
    rcases own with two | ⟨stage,one⟩
    · exact Or.inl two
    · exact Or.inr (Or.inl ⟨stage,Or.inl one⟩)
  case met | answered | together =>
    rcases early with stage | stage <;> simp [stage]
  case punched => exact fun flown => absurd flown (silent _ (Or.inl rfl))
  case answers => exact fun flown => absurd flown (silent _ (Or.inr rfl))

theorem Paired.connected {servers : List Endpoint} {reply : MessageType} {flight : List Packet}
    {s t : Option Stage} {a b : Endpoint} (here : Paired servers reply flight s t a b)
    (there : Paired servers reply flight t s b a)
    (empty : inbox servers flight a = [] ∧ inbox servers flight b = [])
    (still : ∀ type, ¬Flies flight type a b ∧ ¬Flies flight type b a) : s = some .connected := by
  have either {s t : Option Stage} {a b : Endpoint} (paired : Paired servers reply flight s t a b)
      (empty : inbox servers flight a = []) : s = some .calling ∨ s = some .connected := by
    have own := paired.own
    rw [empty] at own
    rcases own with ⟨_,mail⟩ | ⟨_,mail | mail⟩ | ⟨calling,_⟩ | connected
    · contradiction
    · contradiction
    · contradiction
    · exact Or.inl calling
    · exact Or.inr connected
  rcases either here empty.1 with ours | ours
  · rcases either there empty.2 with theirs | theirs
    · rcases here.met ours theirs with flies | flies
      · exact absurd flies (still _).1
      · exact absurd flies (still _).2
    · exact absurd (here.answered ours theirs) (still _).2
  · exact ours

/-- The party at `a` takes the datagram `p` and sends some of its own. -/
structure Turn (servers : List Endpoint) (flight flight' : List Packet) (a : Endpoint) (p : Packet)
    (before after sent : List Packet) : Prop where
  split : flight = before ++ p :: after
  left : flight' = before ++ after ++ sent
  mine : p.dst = a
  own : ∀ q ∈ sent, q.src = a
  client : a ∉ servers

namespace Turn

variable {servers : List Endpoint} {flight flight' before after sent : List Packet} {a b x y : Endpoint}
  {p : Packet} {type : MessageType} (turn : Turn servers flight flight' a p before after sent)

include turn

theorem own_client : ∀ q ∈ sent, q.src ∉ servers := fun q member => turn.own q member ▸ turn.client

theorem inbox_own : inbox servers flight' a = inbox servers (before ++ after) a := by
  rw [turn.left,inbox_append,inbox_sent turn.own_client,List.append_nil]

theorem inbox_others (other : x ≠ a) : inbox servers flight' x = inbox servers flight x := by
  have elsewhere : ¬FromServer servers x p := fun from_ => other (from_.2.symm.trans turn.mine)
  rw [turn.left,inbox_append,inbox_sent turn.own_client,List.append_nil,turn.split,inbox_other elsewhere]

theorem flies_from (other : b ≠ a) : Flies flight' type a b ↔ Flies flight type a b ∨ Flies sent type a b := by
  rw [turn.left,flies_append,turn.split]
  refine or_congr_left ⟨flies_grow,fun flies => flies_kept flies fun this => ?_⟩
  exact other (this.2.1.symm.trans turn.mine)

theorem flies_to (other : b ≠ a) (flies : Flies flight' type b a) : Flies flight type b a := by
  rw [turn.left,flies_append] at flies
  rw [turn.split]
  rcases flies with old | new
  · exact flies_grow old
  · exact absurd new (not_flies_sent fun q member same => other (same.symm.trans (turn.own q member)))

theorem flies_others (first : x ≠ a) (second : y ≠ a) : Flies flight' type x y ↔ Flies flight type x y := by
  rw [turn.left,flies_append,turn.split]
  constructor
  · rintro (old | new)
    · exact flies_grow old
    · exact absurd new (not_flies_sent fun q member same => first (same.symm.trans (turn.own q member)))
  · exact fun flies => Or.inl (flies_kept flies fun this => second (this.2.1.symm.trans turn.mine))

theorem pair_others {reply : MessageType} {s t : Option Stage} (first : x ≠ a) (second : y ≠ a)
    (paired : Paired servers reply flight s t x y) : Paired servers reply flight' s t x y :=
  paired.frame (turn.inbox_others first) (fun _ _ => (turn.flies_others first second).mpr)
    (fun _ _ => (turn.flies_others second first).mpr)
    fun _ _ flies => Or.inl ((turn.flies_others first second).mp flies)

variable {reply : MessageType} {s s' t : Option Stage}

theorem pair (other : b ≠ a) (there : Paired servers reply flight t s b a)
    (own : (s' = some .asked ∧ inbox servers (before ++ after) a = [some .ack,some reply]) ∨
      (s' = some .listening ∧ (inbox servers (before ++ after) a = [some reply] ∨
        inbox servers (before ++ after) a = [some .ack,some reply])) ∨
      (s' = some .calling ∧ inbox servers (before ++ after) a = []) ∨ s' = some .connected)
    (met : s' = some .calling → t = some .calling →
      Flies flight' .clientBindRequest a b ∨ Flies flight' .clientBindRequest b a)
    (answered : s' = some .calling → t = some .connected → Flies flight' .clientBindResponse b a)
    (answers : t = some .calling → s' = some .connected → Flies flight' .clientBindResponse a b)
    (punched : Flies flight' .clientBindRequest a b → s' = some .calling ∨ s' = some .connected)
    (answering : Flies flight' .clientBindResponse a b → s' = some .connected)
    (together : s' = some .connected → t = some .calling ∨ t = some .connected)
    (joined : t = some .connected → s' = some .calling ∨ s' = some .connected) :
    Paired servers reply flight' s' t a b ∧ Paired servers reply flight' t s' b a := by
  constructor
  · exact ⟨turn.inbox_own.symm ▸ own,met,answered,punched,answering,together⟩
  · constructor
    case own =>
      rw [turn.inbox_others other]
      exact there.own
    case met => exact fun theirs ours => (met ours theirs).symm
    case answered => exact answers
    case punched => exact fun flies => there.punched (turn.flies_to other flies)
    case answers => exact fun flies => there.answers (turn.flies_to other flies)
    case together => exact joined

variable (other : b ≠ a) (there : Paired servers reply flight t s b a)

include other there

theorem answers (asks : Flies flight .clientBindRequest b a) (answered : Flies sent .clientBindResponse a b) :
    Paired servers reply flight' (some .connected) t a b ∧
      Paired servers reply flight' t (some .connected) b a := by
  apply turn.pair other there
  case own => exact Or.inr (Or.inr (Or.inr rfl))
  case met | answered => simp
  case answers => exact fun _ _ => (turn.flies_from other).mpr (Or.inr answered)
  case punched => exact fun _ => Or.inr rfl
  case answering => exact fun _ => rfl
  case together => exact fun _ => there.punched asks
  case joined => exact fun _ => Or.inr rfl

theorem accepts (answer : Flies flight .clientBindResponse b a) :
    Paired servers reply flight' (some .connected) t a b ∧
      Paired servers reply flight' t (some .connected) b a := by
  have theirs := there.answers answer
  apply turn.pair other there
  case own => exact Or.inr (Or.inr (Or.inr rfl))
  case met | answered => simp
  case answers => simp [theirs]
  case punched => exact fun _ => Or.inr rfl
  case answering => exact fun _ => rfl
  case together => exact fun _ => Or.inr theirs
  case joined => exact fun _ => Or.inr rfl

variable (here : Paired servers reply flight s t a b)

include here

theorem early (was : s = some .asked ∨ s = some .listening) (silent : sent = [])
    (mail : inbox servers (before ++ after) a = [some reply] ∨
      inbox servers (before ++ after) a = [some .ack,some reply]) :
    Paired servers reply flight' (some .listening) t a b ∧
      Paired servers reply flight' t (some .listening) b a := by
  have unstarted : ¬(s = some .calling ∨ s = some .connected) := by
    rcases was with rfl | rfl <;> decide
  have sent_nothing {type : MessageType} (flies : Flies flight' type a b) : Flies flight type a b := by
    rcases (turn.flies_from other).mp flies with old | new
    · exact old
    · rw [silent] at new
      exact absurd new not_flies_nil
  apply turn.pair other there
  case own => exact Or.inr (Or.inl ⟨rfl,mail⟩)
  case met | answered | together => simp
  case answers => simp
  case punched => exact fun flies => absurd (here.punched (sent_nothing flies)) unstarted
  case answering => exact fun flies => absurd (Or.inr (here.answers (sent_nothing flies))) unstarted
  case joined => exact fun theirs => absurd (there.together theirs) unstarted

theorem connected (was : s = some .connected) :
    Paired servers reply flight' s t a b ∧ Paired servers reply flight' t s b a := by
  apply turn.pair other there
  case own => exact Or.inr (Or.inr (Or.inr was))
  case met | answered => simp [was]
  case answers => exact fun theirs ours => (turn.flies_from other).mpr (Or.inl (there.answered theirs ours))
  case punched => exact fun _ => Or.inr was
  case answering => exact fun _ => was
  case together => exact here.together
  case joined => exact fun _ => Or.inr was

theorem calls (was : s = some .listening) (mail : inbox servers (before ++ after) a = [])
    (called : Flies sent .clientBindRequest a b) (only : ¬Flies sent .clientBindResponse a b) :
    Paired servers reply flight' (some .calling) t a b ∧
      Paired servers reply flight' t (some .calling) b a := by
  have unstarted : ¬(s = some .calling ∨ s = some .connected) := by
    rw [was]
    decide
  apply turn.pair other there
  case own => exact Or.inr (Or.inr (Or.inl ⟨rfl,mail⟩))
  case met => exact fun _ _ => Or.inl ((turn.flies_from other).mpr (Or.inr called))
  case answered => exact fun _ theirs => absurd (there.together theirs) unstarted
  case answers | together => simp
  case punched => exact fun _ => Or.inl rfl
  case answering =>
    intro flies
    rcases (turn.flies_from other).mp flies with old | new
    · exact absurd (Or.inr (here.answers old)) unstarted
    · exact absurd new only
  case joined => exact fun _ => Or.inl rfl

end Turn

/-- The server takes the datagram `p` and sends some of its own. -/
structure Answer (servers : List Endpoint) (flight flight' : List Packet) (p : Packet)
    (before after sent : List Packet) : Prop where
  split : flight = before ++ p :: after
  left : flight' = before ++ after ++ sent
  source : p.src ∉ servers
  other : ∀ type, Between type → p.payload.type ≠ some type
  own : ∀ q ∈ sent, q.src ∈ servers

namespace Answer

variable {servers : List Endpoint} {flight flight' before after sent : List Packet} {x y : Endpoint}
  {p : Packet} {type : MessageType} (answer : Answer servers flight flight' p before after sent)

include answer

theorem inbox_answered : inbox servers flight' x = inbox servers flight x ++ inbox servers sent x := by
  rw [answer.left,inbox_append,answer.split,inbox_other fun from_ => answer.source from_.1]

theorem flies_answered (between : Between type) (client : x ∉ servers) :
    Flies flight' type x y ↔ Flies flight type x y := by
  rw [answer.left,flies_append,answer.split]
  constructor
  · rintro (old | new)
    · exact flies_grow old
    · exact absurd new (not_flies_sent fun q member same => client (same ▸ answer.own q member))
  · exact fun flies => Or.inl (flies_kept flies fun this => answer.other type between this.2.2)

theorem pair_others {reply : MessageType} {s t : Option Stage} (clients : x ∉ servers ∧ y ∉ servers)
    (nothing : inbox servers sent x = []) (paired : Paired servers reply flight s t x y) :
    Paired servers reply flight' s t x y := by
  refine paired.frame ?_ ?_ ?_ ?_
  · rw [answer.inbox_answered,nothing,List.append_nil]
  · exact fun _ between => (answer.flies_answered between clients.1).mpr
  · exact fun _ between => (answer.flies_answered between clients.2).mpr
  · exact fun _ between flies => Or.inl ((answer.flies_answered between clients.1).mp flies)

end Answer

end Handshake

end P2pStun
