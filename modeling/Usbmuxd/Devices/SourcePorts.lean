import Mathlib.Data.Finset.Card
import Mathlib.Order.Interval.Finset.Nat
import Usbmuxd.Devices.Connections

/-!
# Which source port a connection gets

`USBDevice::start_connect` counts `_nextPort` up until it is at a port that is neither
in `_conns` nor 0. The counter wraps, and passes 0 once or twice: the first time a flag
is set, the second time the loop throws. Between the two it has been everywhere, so what
it throws for is that all ports are taken (`Usbmuxd.Conns.searchPort_throws_iff`), and as
there are more ports than the test of the size lets in, this does not happen
(`Usbmuxd.Conns.searchPort_finds`).

The model of the loop has a number of turns. That it does not run out of them is said by
a relation that has none, the loop as it stands (`Usbmuxd.Conns.SearchEnds`).

The counter is shared by all calls of `start_connect`, and is looked at under `_conns_Guard`, as
is the set of ports in use. So the search may be taken for one step, and the only question is
where it ends. A port is passed over because it is in use, or because it is 0. Where the search
begins decides which port it finds, but not whether it finds one.
-/

namespace Usbmuxd

namespace Conns

/-! ### The loop -/

/-- **The `while` loop of `USBDevice::start_connect` ends**: from `_nextPort` and the flag
`didIterAllPorts` on, with `_nextPort` at the first component of the result, and without
throwing if the second is `true`. -/
inductive SearchEnds (used : BitVec 16 → Bool) : BitVec 16 → Bool → BitVec 16 × Bool → Prop
  /-- The condition of the loop is false. -/
  | found {p : BitVec 16} {did : Bool} : ¬(used p ∨ p = 0) → SearchEnds used p did (p, true)
  /-- “Failed to find available port!” -/
  | throws : SearchEnds used 0 true (0, false)
  /-- Port 0 is passed for the first time. -/
  | first {r : BitVec 16 × Bool} : SearchEnds used (0 + 1) true r → SearchEnds used 0 false r
  /-- A port that is taken is passed. -/
  | taken {p : BitVec 16} {did : Bool} {r : BitVec 16 × Bool} : used p → p ≠ 0 →
    SearchEnds used (p + 1) did r → SearchEnds used p did r

variable {used : BitVec 16 → Bool} {p q : BitVec 16} {did : Bool} {n : ℕ}

/-- **The loop ends**, with what the model of it says, after as many turns as are left at
most. -/
theorem searchPort_ends (h : turnsLeft p did ≤ n) :
    SearchEnds used p did (searchPort used n p did) := by
  induction n generalizing p did with
  | zero =>
    obtain ⟨rfl, rfl⟩ := eq_of_turnsLeft_le_zero h
    exact .throws
  | succ n ih =>
    rw [searchPort_turn]
    split_ifs with hpass hp hdid
    · obtain rfl := hp
      obtain rfl := hdid
      exact .throws
    · obtain rfl := hp
      obtain rfl : did = false := by simpa using hdid
      exact .first (ih (Nat.le_of_lt_succ (lt_of_lt_of_le turnsLeft_wrap h)))
    · exact .taken (hpass.resolve_right hp) hp
        (ih (Nat.le_of_lt_succ (lt_of_lt_of_le (turnsLeft_succ hp did) h)))
    · exact .found hpass

/-- **What the loop has seen when it throws**: every port from where it starts up to the
wrap, and every port if the flag was not set. -/
theorem SearchEnds.all_taken {r : BitVec 16 × Bool} (h : SearchEnds used p did r)
    (hr : r.2 = false) :
    (p ≠ 0 → ∀ x : BitVec 16, p.toNat ≤ x.toNat → used x = true) ∧
      (did = false → ∀ x : BitVec 16, x ≠ 0 → used x = true) := by
  induction h with
  | found hfree => cases hr
  | throws => exact ⟨fun hp => absurd rfl hp, nofun⟩
  | first _ ih =>
    refine ⟨fun hp => absurd rfl hp, fun _ x hx => (ih hr).1 (by decide) x ?_⟩
    exact Nat.one_le_iff_ne_zero.mpr (toNat_ne_zero hx)
  | @taken p did r hused hp _ ih =>
    refine ⟨fun _ x hx => ?_, (ih hr).2⟩
    rcases hx.eq_or_lt with heq | hlt
    · exact BitVec.eq_of_toNat_eq heq ▸ hused
    · -- `x` comes after `p`, so `p` is not the last port
      have hsucc : (p + 1).toNat = p.toNat + 1 := by
        have hx' := x.isLt
        rw [BitVec.toNat_add, show (1 : BitVec 16).toNat = 1 from rfl]
        omega
      have hne : p + 1 ≠ 0 := by
        intro hzero
        rw [hzero] at hsucc
        cases hsucc
      exact (ih hr).1 hne x (by omega)

/-- **The loop throws exactly when all ports are taken**, wherever it starts. Port 0 does not
count. -/
theorem searchPort_throws_iff (used : BitVec 16 → Bool) (p : BitVec 16) :
    (searchPort used enoughTurns p false).2 = false ↔ ∀ x : BitVec 16, x ≠ 0 → used x = true := by
  constructor
  · intro hthrows
    exact ((searchPort_ends (turnsLeft_le p false)).all_taken hthrows).2 rfl
  · intro htaken
    by_contra hfound
    have hfree := (searchPort_firstFrom (q := (searchPort used enoughTurns p false).1)
      (Prod.ext rfl (Bool.eq_true_of_not_eq_false hfound))).free_of
    exact absurd (htaken _ hfree.2) (by simp [hfree.1])

/-! ### The ports of a device -/

variable {d : Conns}

theorem used_iff (port : BitVec 16) : d.used port = true ↔ port ∈ d.conns :=
  AList.lookup_isSome

/-- **There are more ports than connections**, as long as the test of the size lets another
one in. -/
theorem exists_unused (h : d.conns.entries.length < 0xfff0) :
    ∃ port : BitVec 16, port ≠ 0 ∧ port ∉ d.conns := by
  have hcard : (d.conns.keys.map BitVec.toNat).toFinset.card < (Finset.Icc 1 65535).card := by
    refine lt_of_le_of_lt (List.toFinset_card_le _) ?_
    rw [List.length_map, AList.keys, List.keys, List.length_map, Nat.card_Icc]
    omega
  obtain ⟨x, hx, hnew⟩ := Finset.exists_mem_notMem_of_card_lt_card hcard
  obtain ⟨hpos, hle⟩ := Finset.mem_Icc.mp hx
  have hnat : (BitVec.ofNat 16 x).toNat = x := by
    rw [BitVec.toNat_ofNat]
    omega
  refine ⟨BitVec.ofNat 16 x, ?_, fun hmem => hnew ?_⟩
  · intro hzero
    rw [hzero] at hnat
    exact absurd hnat.symm (by simpa using Nat.ne_of_gt hpos)
  · exact List.mem_toFinset.mpr (List.mem_map.mpr ⟨_, AList.mem_keys.mp hmem, hnat⟩)

/-- The search finds a port if the test of the size has passed. -/
theorem searchPort_finds (h : d.conns.entries.length < 0xfff0) (p : BitVec 16) :
    (searchPort d.used enoughTurns p false).2 = true := by
  obtain ⟨port, hport, hnew⟩ := exists_unused h
  by_contra hthrows
  have htaken := (searchPort_throws_iff d.used p).mp (Bool.eq_false_of_not_eq_true hthrows)
  exact hnew ((used_iff port).mp (htaken port hport))

/-- **A connection gets a port of its own**, or `start_connect` throws because there is
none left. -/
structure Allocates (d : Conns) (dport : BitVec 16) (seq : BitVec 32) : Prop where
  /-- The loop ends. -/
  ends : SearchEnds d.used d.nextPort false (searchPort d.used enoughTurns d.nextPort false)
  /-- It does not throw if the test of the size has passed. -/
  finds : d.conns.entries.length < 0xfff0 →
    (searchPort d.used enoughTurns d.nextPort false).2 = true
  /-- The port found is free, the new connection is registered on it, and every other stays
  where it is. -/
  registers : ∀ port, searchPort d.used enoughTurns d.nextPort false = (port, true) →
    port ≠ 0 ∧ port ∉ d.conns ∧ (d.makeConn dport seq).conns.lookup port = some d.made ∧
      ∀ key o, d.conns.lookup key = some o → (d.makeConn dport seq).conns.lookup key = some o
  /-- The loop throws exactly when all ports are taken, -/
  throws_iff : (searchPort d.used enoughTurns d.nextPort false).2 = false ↔
    ∀ port : BitVec 16, port ≠ 0 → port ∈ d.conns
  /-- and leaves the connections alone. -/
  unchanged : (searchPort d.used enoughTurns d.nextPort false).2 = false →
    (d.makeConn dport seq).conns = d.conns

/-- Registering a connection on a port that is free replaces none, so that nobody loses his
connection by it. -/
theorem lookup_makeConn {port : BitVec 16} (dport : BitVec 16) (seq : BitVec 32)
    (h : searchPort d.used enoughTurns d.nextPort false = (port, true)) (hnew : port ∉ d.conns) :
    (d.makeConn dport seq).conns.lookup port = some d.made ∧
      ∀ key o, d.conns.lookup key = some o → (d.makeConn dport seq).conns.lookup key = some o := by
  have hconns : (d.makeConn dport seq).conns = d.conns.insert port d.made := by
    rw [makeConn, h]
  rw [hconns]
  refine ⟨AList.lookup_insert _, fun key o hkey => ?_⟩
  have hne : key ≠ port := by
    rintro rfl
    exact hnew (AList.lookup_isSome.mp (by rw [hkey]; rfl))
  rw [AList.lookup_insert_ne hne, hkey]

end Conns

/-- **Source ports are allocated without collision**, for every set of connections and
every `_nextPort`. -/
theorem source_ports_allocated (d : Conns) (dport : BitVec 16) (seq : BitVec 32) :
    d.Allocates dport seq where
  ends := Conns.searchPort_ends (Conns.turnsLeft_le _ _)
  finds := fun h => Conns.searchPort_finds h d.nextPort
  registers := by
    intro port h
    obtain ⟨hunused, hport⟩ := (Conns.searchPort_firstFrom h).free_of
    have hnew : port ∉ d.conns := by
      intro hmem
      exact absurd ((Conns.used_iff port).mpr hmem) (by simp [hunused])
    exact ⟨hport, hnew, Conns.lookup_makeConn dport seq h hnew⟩
  throws_iff := by
    rw [Conns.searchPort_throws_iff]
    exact forall₂_congr fun port _ => Conns.used_iff port
  unchanged := by
    intro h
    unfold Conns.makeConn
    split
    · next port hport =>
      rw [hport] at h
      cases h
    · rfl

end Usbmuxd
