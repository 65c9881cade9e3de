import P2pStun.ScanStages

/-! Two scanning clients that look for each other, each behind a translator of its own that
gives it one endpoint, among any others: what the network holds of their datagrams. -/
namespace P2pStun
open Runs Handshake UdpServer

/-- Nobody else uses their id or their IPs, and nobody takes an endpoint of theirs for a server. -/
structure Couple {ι : Type} (d : ScanDeployment ι) where
  who : Bool → ι
  home : Bool → Endpoint
  owns : ∀ b e, d.owner e = some (who b) ↔ e = home b
  symmetric : ∀ b, (d.connector (who b)).isSymNat = false
  servers : ∀ b, (d.connector (who b)).stunServerAddress1.endpoint = d.server .first ∧
    (d.connector (who b)).stunServerAddress2.endpoint = d.server .second
  routed : ∀ b, (home b).addr ≠ 0 ∧ (home b).port ≠ 0
  agree : d.transactionId (who true) = d.transactionId (who false)
  alone : ∀ l, d.transactionId l = d.transactionId (who false) → ∃ b, l = who b
  located : ∀ l b, d.ip l = d.ip (who b) → l = who b
  apart : d.ip (who true) ≠ d.ip (who false)
  configured : ∀ l b, (d.connector l).stunServerAddress1.endpoint ≠ home b ∧
    (d.connector l).stunServerAddress2.endpoint ≠ home b

def ScanDeployment.servers {ι : Type} (d : ScanDeployment ι) : List Endpoint := [d.server .first,d.server .second]

theorem ScanDeployment.mem_servers {ι : Type} (d : ScanDeployment ι) (e : Endpoint) :
    e ∈ d.servers ↔ ∃ s, e = d.server s := by
  constructor
  · intro member
    rcases List.mem_cons.mp member with first | rest
    · exact ⟨.first,first⟩
    · exact ⟨.second,List.mem_singleton.mp rest⟩
  · rintro ⟨s,rfl⟩
    cases s <;> simp [servers]

namespace Couple

variable {ι : Type} {d : ScanDeployment ι} (c : Couple d) {fpu : FloatUnit}

def id : UInt32 := d.transactionId (c.who false)

theorem id_who (b : Bool) : d.transactionId (c.who b) = c.id := by
  cases b with
  | true => exact c.agree
  | false => rfl

theorem owner_home (b : Bool) : d.owner (c.home b) = some (c.who b) := (c.owns b _).mpr rfl

theorem addr_home (b : Bool) : (c.home b).addr = d.ip (c.who b) := d.located _ _ (c.owner_home b)

theorem addr_ne (b : Bool) : (c.home !b).addr ≠ (c.home b).addr := by
  rw [c.addr_home,c.addr_home]
  cases b with
  | true => exact c.apart.symm
  | false => exact c.apart

theorem home_ne (b : Bool) : c.home (!b) ≠ c.home b := fun same => c.addr_ne b (congrArg Endpoint.addr same)

theorem home_iff (a b : Bool) : c.home a = c.home b ↔ a = b := by
  refine ⟨fun same => ?_,fun same => same ▸ rfl⟩
  by_contra other
  rw [Bool.eq_not.mpr other] at same
  exact c.home_ne b same

theorem who_ne (b : Bool) : c.who (!b) ≠ c.who b := by
  intro same
  apply c.addr_ne b
  rw [c.addr_home,c.addr_home,same]

theorem home_not_server (b : Bool) : c.home b ∉ d.servers := by
  rw [d.mem_servers]
  rintro ⟨s,same⟩
  have free := d.apart s
  rw [← same,c.owner_home] at free
  contradiction

theorem server_known (b : Bool) (s : ServerSocket) :
    (d.connector (c.who b)).FromServer (d.server s).sockaddr := by
  cases s with
  | first =>
    rw [← (c.servers b).1]
    exact Or.inr rfl
  | second =>
    rw [← (c.servers b).2]
    exact Or.inl rfl

theorem home_not_second (b : Bool) : (c.home !b).sockaddr ≠ (d.connector (c.who b)).stunServerAddr2 := by
  intro same
  refine c.home_not_server (!b) ((d.mem_servers _).mpr ⟨.second,?_⟩)
  rw [← (c.servers b).2]
  exact Endpoint.sockaddr_injective (same.trans rfl)

theorem mine_iff (b : Bool) (e : Endpoint) : d.owner e = some (c.who b) ↔ e = c.home b := c.owns b e

variable {net : ScanNetwork ι} {sent : List Packet}

theorem asked_home (consistent : ScanDeployment.Consistent d fpu net sent) {e : Endpoint}
    (asked : ScanDeployment.Asked sent c.id e) : ∃ b, e = c.home b := by
  have known : ∀ p ∈ (ScanDeployment.Past.of net sent).sent, d.PacketOk fpu (.of net sent) p := consistent.packets
  obtain ⟨l,owner,same⟩ := ScanDeployment.Asked.owner asked known
  obtain ⟨b,rfl⟩ := c.alone l same
  exact ⟨b,(c.owns b e).mp owner⟩

theorem asked_other (consistent : ScanDeployment.Consistent d fpu net sent) {e : Endpoint} {b : Bool}
    (asked : ScanDeployment.Asked sent c.id e) (elsewhere : e.addr ≠ (c.home b).addr) : e = c.home !b := by
  obtain ⟨a,rfl⟩ := c.asked_home consistent asked
  have other : a ≠ b := by
    rintro rfl
    exact elsewhere rfl
  rw [Bool.eq_not.mpr other]

inductive Inbound (b : Bool) : Packet → Prop
  | ack (s : ServerSocket) (msg : Message) (typed : msg.type = some .ack) :
      Inbound b ⟨d.server s,c.home b,.ofMessage msg⟩
  | reply (s : ServerSocket) (msg : Message) (typed : msg.type = some .psBindReply)
      (names : msg.psBindReply.addrOne = (c.home !b).sockaddr ∧ msg.psBindReply.addrTwo = (c.home !b).sockaddr) :
      Inbound b ⟨d.server s,c.home b,.ofMessage msg⟩
  | punch (msg : Message) (typed : msg.type = some .clientBindRequest) (own : ntohl msg.transactionId = c.id) :
      Inbound b ⟨c.home !b,c.home b,.ofMessage msg⟩
  | answer (msg : Message) (typed : msg.type = some .clientBindResponse) :
      Inbound b ⟨c.home !b,c.home b,.ofMessage msg⟩

def RequestsAside (flight : List Packet) : Prop :=
  ∀ p ∈ flight, p.payload.type = some .psBindRequest → ∀ b, p.dst ≠ c.home b

theorem inbound (consistent : ScanDeployment.Consistent d fpu net sent) (aside : c.RequestsAside net.flight)
    {p : Packet} (member : p ∈ net.flight) {b : Bool} (mine : p.dst = c.home b) : c.Inbound b p := by
  have ok := consistent.packets p (consistent.flight member)
  cases ok with
  | psBindRequest src dst i msg from_ typed => exact absurd mine (aside _ member (by simp [typed]) b)
  | ack s dst msg typed =>
    obtain rfl : dst = c.home b := mine
    exact .ack s msg typed
  | psBindReply s dst i msg one two to_ typed names introduced =>
    obtain rfl : dst = c.home b := mine
    rw [c.owner_home,Option.some.injEq] at to_
    subst to_
    have one_there : one = c.home !b := by
      refine c.asked_other consistent ?_ (b := b) ?_
      · rw [← c.id_who b]
        exact introduced.first
      · rw [c.addr_home]
        exact introduced.elsewhere
    have two_there : two = c.home !b := by
      refine c.asked_other consistent ?_ (b := b) ?_
      · rw [← c.id_who b]
        exact introduced.second
      · rw [introduced.together,c.addr_home]
        exact introduced.elsewhere
    rw [one_there,two_there] at names
    exact .reply s msg typed names
  | clientBindRequest src dst l msg from_ typed own aimed =>
    obtain rfl : dst = c.home b := mine
    obtain ⟨one,two,t1,t2,now,introduced,goal⟩ := aimed
    have here : one.addr = d.ip (c.who b) := by
      rw [← c.addr_home,goal]
    obtain ⟨m,owner,same⟩ := introduced.first.owner consistent.packets
    obtain rfl : m = c.who b := c.located m b ((d.located one m owner).symm.trans here)
    obtain ⟨a,rfl⟩ := c.alone l (same.symm.trans (c.id_who b))
    have other : a ≠ b := by
      rintro rfl
      exact introduced.elsewhere here
    rw [Bool.eq_not.mpr other,c.mine_iff] at from_
    rw [c.id_who] at own
    exact from_ ▸ .punch msg typed own
  | clientBindResponse src dst l j msg from_ to_ typed agree elsewhere settled =>
    obtain rfl : dst = c.home b := mine
    rw [c.owner_home,Option.some.injEq] at to_
    subst to_
    obtain ⟨a,rfl⟩ := c.alone l (agree.trans (c.id_who b))
    have other : a ≠ b := by
      rintro rfl
      exact elsewhere rfl
    rw [Bool.eq_not.mpr other,c.mine_iff] at from_
    exact from_ ▸ .answer msg typed

end Couple

end P2pStun
