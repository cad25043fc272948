import Mathlib.Algebra.Order.Ring.Int
import Mathlib.Data.Finset.Insert
import Mathlib.Logic.Function.Basic
import UavFanet.Library.Agreement
import UavFanet.Library.Blocks

/-! The generator of IPv4 addresses, which keeps the addresses it gave out as a list of blocks. It
answers as if it kept them as a set. -/
namespace UavFanet.Internet
open Library

/-- `Ipv4Address::Print`. -/
def dotted (addr : UInt32) : String :=
  s!"{(addr >>> 24) &&& 0xff}.{(addr >>> 16) &&& 0xff}.{(addr >>> 8) &&& 0xff}.{addr &&& 0xff}"

structure NetworkState where
  mask : UInt32
  shift : UInt32
  network : UInt32
  addr : UInt32
  addrMax : UInt32

structure Entry where
  addrLow : UInt32
  addrHigh : UInt32
  deriving DecidableEq,Repr

abbrev NetTable := Fin 32 → NetworkState

/-- How the addresses that were given out are kept. A collision is `none`. -/
structure AddressStore (S : Type) where
  empty : S
  add : UInt32 → S → Option S
  holds : UInt32 → S → Bool

/-- `Ipv4AddressGeneratorImpl`. What aborts the program is an error with its text. -/
structure AddressGenerator (S : Type) where
  m_netTable : NetTable
  m_entries : S
  m_test : Bool

/-- The loop of `MaskToIndex` over the bits that are left. -/
def maskToIndexFrom (maskBits : UInt32) : Nat → Except String (Fin 32)
  | 0 => .error "Ipv4AddressGenerator::MaskToIndex(): Impossible"
  | left+1 =>
    if maskBits &&& 1 = 0 then maskToIndexFrom (maskBits >>> 1) left
    else if legal : left+1 < 32 then .ok ⟨left+1,legal⟩
    else .error "Ipv4AddressGenerator::MaskToIndex(): Illegal Mask"

def maskToIndex (mask : UInt32) : Except String (Fin 32) := maskToIndexFrom mask 32

/-- The mask of the table's row `i`, shifted in from above. -/
def rowMask : Nat → UInt32
  | 0 => 0
  | i+1 => (rowMask i >>> 1) ||| 0x80000000

namespace NetTable

def initial : NetTable := fun i => {
  mask := rowMask i
  shift := 32-UInt32.ofNat i
  network := 1
  addr := 1
  addrMax := ~~~rowMask i }

def init (net mask addr : UInt32) (table : NetTable) : Except String NetTable := do
  if net &&& ~~~mask ≠ 0 then
    throw "Ipv4AddressGeneratorImpl::Init (): Inconsistent network and mask"
  if addr &&& mask ≠ 0 then
    throw "Ipv4AddressGeneratorImpl::Init (): Inconsistent address and mask"
  let index ← maskToIndex mask
  let row := table index
  if addr > row.addrMax then throw "Ipv4AddressGeneratorImpl::Init(): Address overflow"
  return Function.update table index { row with network := net >>> row.shift, addr }

def getNetwork (mask : UInt32) (table : NetTable) : Except String UInt32 := do
  let row := table (← maskToIndex mask)
  return row.network <<< row.shift

def nextNetwork (mask : UInt32) (table : NetTable) : Except String (UInt32 × NetTable) := do
  let index ← maskToIndex mask
  let row := table index
  let network := row.network+1
  return (network <<< row.shift,Function.update table index { row with network })

def initAddress (addr mask : UInt32) (table : NetTable) : Except String NetTable := do
  let index ← maskToIndex mask
  let row := table index
  if addr > row.addrMax then throw "Ipv4AddressGeneratorImpl::InitAddress(): Address overflow"
  return Function.update table index { row with addr }

def getAddress (mask : UInt32) (table : NetTable) : Except String UInt32 := do
  let row := table (← maskToIndex mask)
  return (row.network <<< row.shift) ||| row.addr

/-- `NextAddress` up to the call of `AddAllocated`. -/
def nextAddress (mask : UInt32) (table : NetTable) : Except String (UInt32 × NetTable) := do
  let index ← maskToIndex mask
  let row := table index
  if row.addr > row.addrMax then throw "Ipv4AddressGeneratorImpl::NextAddress(): Address overflow"
  return ((row.network <<< row.shift) ||| row.addr,
    Function.update table index { row with addr := row.addr+1 })

end NetTable

namespace Entry

def holds (addr : UInt32) (i : Entry) : Bool := addr ≥ i.addrLow && addr ≤ i.addrHigh

/-- The loop of `AddAllocated`. -/
def add (addr : UInt32) : List Entry → Option (List Entry)
  | [] => some [⟨addr,addr⟩]
  | i :: rest =>
    if i.holds addr then none
    else if addr < i.addrLow-1 then some (⟨addr,addr⟩ :: i :: rest)
    else if addr = i.addrHigh+1 then
      match rest with
      | [] => some [{ i with addrHigh := addr }]
      | j :: _ => if addr = j.addrLow then none else some ({ i with addrHigh := addr } :: rest)
    else if addr = i.addrLow-1 then some ({ i with addrLow := addr } :: rest)
    else (add addr rest).map (i :: ·)

end Entry

/-- The store of the source. -/
def entryList : AddressStore (List Entry) := {
  empty := []
  add := Entry.add
  holds addr entries := entries.any (Entry.holds addr) }

/-- What a store is for. -/
def addressSet : AddressStore (Finset UInt32) := {
  empty := ∅
  add addr given := if addr ∈ given then none else some (insert addr given)
  holds addr given := addr ∈ given }

inductive GeneratorCall where
  | init (net mask addr : UInt32)
  | getNetwork (mask : UInt32)
  | nextNetwork (mask : UInt32)
  | initAddress (addr mask : UInt32)
  | getAddress (mask : UInt32)
  | nextAddress (mask : UInt32)
  | addAllocated (addr : UInt32)
  | isAddressAllocated (addr : UInt32)
  | testMode
  | reset

inductive GeneratorAnswer where
  | done
  | address (addr : UInt32)
  | verdict (value : Bool)
  deriving DecidableEq,Repr

namespace AddressGenerator
open GeneratorAnswer

variable {S : Type} (store : AddressStore S)

def initial : AddressGenerator S := {
  m_netTable := .initial
  m_entries := store.empty
  m_test := false }

def addAllocated (addr : UInt32) (gen : AddressGenerator S) :
    Except String (AddressGenerator S × Bool) :=
  if addr = 0 then
    .error "Ipv4AddressGeneratorImpl::Add(): Allocating the broadcast address is not a good idea"
  else
    match store.add addr gen.m_entries with
    | none =>
      if gen.m_test then .ok (gen,false)
      else .error ("Ipv4AddressGeneratorImpl::Add(): Address Collision: " ++ dotted addr)
    | some m_entries => .ok ({ gen with m_entries },true)

def isAddressAllocated (addr : UInt32) (gen : AddressGenerator S) : Except String Bool :=
  if addr = 0 then
    .error "Ipv4AddressGeneratorImpl::IsAddressAllocated(): Don't check for the broadcast address..."
  else .ok (store.holds addr gen.m_entries)

def nextAddress (mask : UInt32) (gen : AddressGenerator S) :
    Except String (AddressGenerator S × UInt32) := do
  let (addr,m_netTable) ← gen.m_netTable.nextAddress mask
  let (gen,_) ← addAllocated store addr { gen with m_netTable }
  return (gen,addr)

/-- The result is `true` where the network was found free. -/
def isNetworkAllocated (addr mask : UInt32) (gen : AddressGenerator (List Entry)) :
    Except String Bool :=
  if addr ≠ addr &&& mask then
    .error ("Ipv4AddressGeneratorImpl::IsNetworkAllocated(): network address and mask don't match " ++
      dotted addr ++ " " ++ dotted mask)
  else .ok (!gen.m_entries.any fun i => addr = i.addrLow &&& mask || addr = i.addrHigh &&& mask)

def perform (gen : AddressGenerator S) :
    GeneratorCall → Except String (AddressGenerator S × GeneratorAnswer)
  | .init net mask addr => do
    return ({ gen with m_netTable := ← gen.m_netTable.init net mask addr },done)
  | .getNetwork mask => do return (gen,address (← gen.m_netTable.getNetwork mask))
  | .nextNetwork mask => do
    let (network,m_netTable) ← gen.m_netTable.nextNetwork mask
    return ({ gen with m_netTable },address network)
  | .initAddress addr mask => do
    return ({ gen with m_netTable := ← gen.m_netTable.initAddress addr mask },done)
  | .getAddress mask => do return (gen,address (← gen.m_netTable.getAddress mask))
  | .nextAddress mask => do
    let (gen,addr) ← gen.nextAddress store mask
    return (gen,address addr)
  | .addAllocated addr => do
    let (gen,added) ← gen.addAllocated store addr
    return (gen,verdict added)
  | .isAddressAllocated addr => do return (gen,verdict (← gen.isAddressAllocated store addr))
  | .testMode => return ({ gen with m_test := true },done)
  | .reset => return (.initial store,done)

end AddressGenerator
variable {S T : Type}

/-- Two stores that cannot be told apart by the addresses that the generator asks for. -/
structure AddressStore.Alike (first : AddressStore S) (second : AddressStore T)
    (same : S → T → Prop) : Prop where
  empty : same first.empty second.empty
  add : ∀ {s t addr}, addr ≠ 0 → same s t → Option.Rel same (first.add addr s) (second.add addr t)
  holds : ∀ {s t addr}, addr ≠ 0 → same s t → first.holds addr s = second.holds addr t

namespace AddressGenerator

structure Alike (same : S → T → Prop) (gen : AddressGenerator S) (other : AddressGenerator T) :
    Prop where
  m_netTable : gen.m_netTable = other.m_netTable
  m_entries : same gen.m_entries other.m_entries
  m_test : gen.m_test = other.m_test

variable {first : AddressStore S} {second : AddressStore T} {same : S → T → Prop}
  {gen : AddressGenerator S} {other : AddressGenerator T}

theorem addAllocated_agree (stores : first.Alike second same) (alike : Alike same gen other)
    (addr : UInt32) :
    Agree Eq (fun a b => Alike same a.1 b.1 ∧ a.2 = b.2) (gen.addAllocated first addr)
      (other.addAllocated second addr) := by
  unfold addAllocated
  by_cases broadcast : addr = 0
  · rw [if_pos broadcast,if_pos broadcast]
    exact .error rfl
  · rw [if_neg broadcast,if_neg broadcast]
    have added := stores.add broadcast alike.m_entries
    generalize first.add addr gen.m_entries = left,second.add addr other.m_entries = right at added
    cases added with
    | some added => exact .ok ⟨{ alike with m_entries := added },rfl⟩
    | none =>
      dsimp only
      rw [alike.m_test]
      split
      · exact .ok ⟨alike,rfl⟩
      · exact .error rfl

theorem isAddressAllocated_agree (stores : first.Alike second same) (alike : Alike same gen other)
    (addr : UInt32) :
    gen.isAddressAllocated first addr = other.isAddressAllocated second addr := by
  unfold isAddressAllocated
  split
  · rfl
  · rename_i broadcast
    rw [stores.holds broadcast alike.m_entries]

theorem nextAddress_agree (stores : first.Alike second same) (alike : Alike same gen other)
    (mask : UInt32) :
    Agree Eq (fun a b => Alike same a.1 b.1 ∧ a.2 = b.2) (gen.nextAddress first mask)
      (other.nextAddress second mask) := by
  unfold nextAddress
  rw [alike.m_netTable]
  refine .bind (.refl _) ?_
  rintro ⟨addr,table⟩ _ rfl
  have start : Alike same { gen with m_netTable := table } { other with m_netTable := table } :=
    ⟨rfl,alike.m_entries,alike.m_test⟩
  refine .bind (addAllocated_agree stores start addr) ?_
  rintro a b ⟨reached,-⟩
  exact .ok ⟨reached,rfl⟩

theorem perform_agree (stores : first.Alike second same) (alike : Alike same gen other)
    (call : GeneratorCall) :
    Agree Eq (fun a b => Alike same a.1 b.1 ∧ a.2 = b.2) (gen.perform first call)
      (other.perform second call) := by
  cases call with
  | init net mask addr =>
    unfold perform
    rw [alike.m_netTable]
    refine .bind (.refl _) fun table _ same_table => .ok ⟨?_,rfl⟩
    exact { alike with m_netTable := same_table }
  | getNetwork mask =>
    unfold perform
    rw [alike.m_netTable]
    exact .bind (.refl _) fun network _ same_network => .ok ⟨alike,congrArg _ same_network⟩
  | nextNetwork mask =>
    unfold perform
    rw [alike.m_netTable]
    refine .bind (.refl _) ?_
    rintro ⟨network,table⟩ _ rfl
    exact .ok ⟨{ alike with m_netTable := rfl },rfl⟩
  | initAddress addr mask =>
    unfold perform
    rw [alike.m_netTable]
    refine .bind (.refl _) fun table _ same_table => .ok ⟨?_,rfl⟩
    exact { alike with m_netTable := same_table }
  | getAddress mask =>
    unfold perform
    rw [alike.m_netTable]
    exact .bind (.refl _) fun addr _ same_addr => .ok ⟨alike,congrArg _ same_addr⟩
  | nextAddress mask =>
    unfold perform
    refine .bind (nextAddress_agree stores alike mask) ?_
    rintro a b ⟨reached,same_addr⟩
    exact .ok ⟨reached,congrArg _ same_addr⟩
  | addAllocated addr =>
    refine .bind (addAllocated_agree stores alike addr) fun a b reached => ?_
    exact .ok ⟨reached.1,congrArg _ reached.2⟩
  | isAddressAllocated addr =>
    dsimp only [perform]
    rw [isAddressAllocated_agree stores alike addr]
    exact .bind (.refl _) fun value _ same_value => .ok ⟨alike,congrArg _ same_value⟩
  | testMode => exact .ok ⟨⟨alike.m_netTable,alike.m_entries,rfl⟩,rfl⟩
  | reset => exact .ok ⟨⟨rfl,stores.empty,rfl⟩,rfl⟩

end AddressGenerator

namespace Entry

def block (i : Entry) : Block := { low := i.addrLow.toNat, high := i.addrHigh.toNat }

theorem block_low (i : Entry) : i.block.low = i.addrLow.toNat := rfl

theorem block_high (i : Entry) : i.block.high = i.addrHigh.toNat := rfl

/-- The entries are blocks of the addresses in the set. None of them holds the broadcast address. -/
structure Lists (entries : List Entry) (given : Finset UInt32) : Prop where
  ordered : Block.Ordered (entries.map block)
  covered : ∀ addr, Block.Covered (entries.map block) addr.toNat ↔ addr ∈ given
  broadcast : 0 ∉ given

variable {addr low high : UInt32}

theorem toNat_pos (given : addr ≠ 0) : 0 < addr.toNat :=
  Nat.pos_of_ne_zero fun zero => given (UInt32.toNat_inj.mp zero)

/-- Nothing is borrowed where a block does not start with the broadcast address. -/
theorem toNat_pred (given : low ≠ 0) : (low-1).toNat+1 = low.toNat := by
  have pos := toNat_pos given
  have one : (1 : UInt32) ≤ low := UInt32.le_iff_toNat_le.mpr pos
  rw [UInt32.toNat_sub_of_le _ _ one]
  exact Nat.sub_add_cancel pos

theorem lt_pred_iff (given : low ≠ 0) : addr < low-1 ↔ addr.toNat+1 < low.toNat := by
  rw [UInt32.lt_iff_toNat_lt,← toNat_pred given]
  omega

theorem eq_pred_iff (given : low ≠ 0) : addr = low-1 ↔ addr.toNat+1 = low.toNat := by
  rw [← UInt32.toNat_inj,← toNat_pred given]
  omega

theorem eq_succ_iff (given : addr ≠ 0) : addr = high+1 ↔ addr.toNat = high.toNat+1 := by
  rw [← UInt32.toNat_inj,UInt32.toNat_add]
  have := toNat_pos given
  have := addr.toNat_lt
  have := high.toNat_lt
  simp only [UInt32.reduceToNat]
  omega

theorem holds_iff (i : Entry) : i.holds addr = true ↔ i.block.Holds addr.toNat := by
  simp [holds,Block.Holds,block,UInt32.le_iff_toNat_le]

/-- On entries that leave the broadcast address out, the arithmetic of 32 bits is the one of the
numbers. -/
theorem add_blocks (given : addr ≠ 0) {entries : List Entry}
    (lows : ∀ i ∈ entries, i.addrLow ≠ 0) :
    (add addr entries).map (·.map block) = Block.insert addr.toNat (entries.map block) := by
  induction entries with
  | nil => rfl
  | cons i rest ih =>
    have low := lows i (List.mem_cons_self ..)
    rw [add.eq_def,List.map_cons,Block.insert.eq_def]
    simp only [holds_iff,lt_pred_iff low,eq_pred_iff low,eq_succ_iff given,block_low,block_high]
    by_cases held : i.block.Holds addr.toNat
    · simp only [held,↓reduceIte,Option.map_none]
    by_cases before : addr.toNat+1 < i.addrLow.toNat
    · simp only [held,before,↓reduceIte]
      rfl
    by_cases at_end : addr.toNat = i.addrHigh.toNat+1
    · simp only [held,before,eq_true at_end,↓reduceIte]
      cases rest with
      | nil => rfl
      | cons j others =>
        simp only [List.map_cons,block_low,← UInt32.toNat_inj]
        split
        · rfl
        · rfl
    by_cases at_start : addr.toNat+1 = i.addrLow.toNat
    · simp only [held,before,at_end,eq_true at_start,↓reduceIte]
      rfl
    · simp only [held,before,at_end,at_start,↓reduceIte]
      rw [← ih fun j later => lows j (List.mem_cons_of_mem i later),Option.map_map,Option.map_map]
      rfl

variable {entries : List Entry} {given : Finset UInt32}

theorem Lists.lows (lists : Lists entries given) : ∀ i ∈ entries, i.addrLow ≠ 0 := by
  intro i member zero
  have inside : i.block ∈ entries.map block := List.mem_map_of_mem member
  refine lists.broadcast ((lists.covered 0).mp ⟨i.block,inside,?_,Nat.zero_le _⟩)
  rw [block_low,zero]

theorem entryList_alike : entryList.Alike addressSet Lists := {
  empty := ⟨trivial,fun addr => by simp [Block.Covered,addressSet,entryList],by simp [addressSet]⟩
  add := by
    intro entries given addr broadcast lists
    have adds := Block.insert_adds (n := addr.toNat) lists.ordered
    rw [← add_blocks broadcast lists.lows] at adds
    dsimp only [entryList,addressSet]
    cases result : add addr entries with
    | none =>
      rw [result] at adds
      rw [if_pos ((lists.covered addr).mp adds)]
      exact .none
    | some after =>
      rw [result] at adds
      obtain ⟨new,ordered,numbers⟩ := adds
      rw [if_neg fun member => new ((lists.covered addr).mpr member)]
      refine .some ⟨ordered,fun other => ?_,?_⟩
      · dsimp only at numbers
        rw [numbers,UInt32.toNat_inj,Finset.mem_insert,lists.covered]
      · rw [Finset.mem_insert]
        exact fun held => held.elim (fun same => broadcast same.symm) lists.broadcast
  holds := by
    intro entries given addr broadcast lists
    dsimp only [entryList,addressSet]
    rw [Bool.eq_iff_iff,List.any_eq_true,decide_eq_true_iff,← lists.covered]
    simp only [holds_iff,Block.Covered,List.mem_map,exists_exists_and_eq_and] }

theorem Lists.nonempty (lists : Lists entries given) : ∀ i ∈ entries, i.addrLow ≤ i.addrHigh :=
  fun _ member => UInt32.le_iff_toNat_le.mpr (lists.ordered.nonempty _ (List.mem_map_of_mem member))

end Entry

theorem rowMask_testBit {i : Nat} (bound : i ≤ 32) (j : Nat) :
    (rowMask i).toNat.testBit j = (decide (32-i ≤ j) && decide (j < 32)) := by
  induction i generalizing j with
  | zero =>
    rw [rowMask,UInt32.toNat_zero,Nat.zero_testBit]
    grind
  | succ i ih =>
    rw [rowMask,UInt32.toNat_or,Nat.testBit_or,UInt32.toNat_shiftRight]
    simp only [UInt32.reduceToNat]
    rw [show (2147483648 : Nat) = 2^31 by rfl,Nat.testBit_two_pow,Nat.testBit_shiftRight,
      ih (Nat.le_of_succ_le bound)]
    grind

/-- Masking rounds down to the networks of the size that the mask leaves. -/
theorem toNat_and_rowMask {i : Nat} (bound : i ≤ 32) (addr : UInt32) :
    (addr &&& rowMask i).toNat = addr.toNat/2^(32-i)*2^(32-i) := by
  apply Nat.eq_of_testBit_eq
  intro j
  rw [UInt32.toNat_and,Nat.testBit_and,rowMask_testBit bound,Nat.testBit_mul_two_pow,
    Nat.testBit_div_two_pow]
  by_cases high : j < 32
  · grind
  · have range : addr.toNat < 2^j :=
      Nat.lt_of_lt_of_le addr.toNat_lt (Nat.pow_le_pow_right (by decide) (Nat.not_lt.mp high))
    have clear := Nat.testBit_lt_two_pow range
    grind

theorem and_rowMask_mono {i : Nat} (bound : i ≤ 32) {low high : UInt32} (le : low ≤ high) :
    low &&& rowMask i ≤ high &&& rowMask i := by
  rw [UInt32.le_iff_toNat_le,toNat_and_rowMask bound,toNat_and_rowMask bound]
  exact Nat.mul_le_mul_right _ (Nat.div_le_div_right (UInt32.le_iff_toNat_le.mp le))

/-- A block that meets a network but has no end in it has the whole network. -/
theorem Entry.holds_network {i : Nat} (bound : i ≤ 32) {block : Entry} {addr inside other : UInt32}
    (held : block.holds inside = true) (member : inside &&& rowMask i = addr)
    (low : addr ≠ block.addrLow &&& rowMask i) (high : addr ≠ block.addrHigh &&& rowMask i)
    (along : other &&& rowMask i = addr) : block.holds other = true := by
  simp only [holds,Bool.and_eq_true,decide_eq_true_eq,ge_iff_le] at held ⊢
  subst member
  refine ⟨UInt32.not_lt.mp fun before => low ?_,UInt32.not_lt.mp fun after => high ?_⟩
  · have outside := and_rowMask_mono bound (UInt32.le_of_lt before)
    rw [along] at outside
    exact UInt32.le_antisymm outside (and_rowMask_mono bound held.1)
  · have outside := and_rowMask_mono bound (UInt32.le_of_lt after)
    rw [along] at outside
    exact UInt32.le_antisymm (and_rowMask_mono bound held.2) outside

namespace AddressGenerator

/-- The generator finds a network free if no address of it was given out, and never where only a
part of it was. -/
theorem network_free {gen : AddressGenerator (List Entry)} {i : Nat} (bound : i ≤ 32)
    {addr : UInt32} {free : Bool} (nonempty : ∀ entry ∈ gen.m_entries, entry.addrLow ≤ entry.addrHigh)
    (answer : gen.isNetworkAllocated addr (rowMask i) = .ok free) :
    if free then
      (∀ a, a &&& rowMask i = addr → entryList.holds a gen.m_entries = false) ∨
        (∀ a, a &&& rowMask i = addr → entryList.holds a gen.m_entries = true)
    else ∃ a, a &&& rowMask i = addr ∧ entryList.holds a gen.m_entries = true := by
  unfold isNetworkAllocated at answer
  split at answer
  · cases answer
  obtain rfl := Except.ok.inj answer
  split
  · rename_i none_inside
    simp only [Bool.not_eq_true',List.any_eq_false,Bool.or_eq_true,decide_eq_true_eq,not_or]
      at none_inside
    by_cases meets : ∃ a, a &&& rowMask i = addr ∧ entryList.holds a gen.m_entries = true
    · obtain ⟨a,member,held⟩ := meets
      obtain ⟨entry,there,held⟩ := List.any_eq_true.mp held
      have ends := none_inside entry there
      exact .inr fun other along => List.any_eq_true.mpr
        ⟨entry,there,entry.holds_network bound held member ends.1 ends.2 along⟩
    · exact .inl fun a member => Bool.eq_false_iff.mpr fun held => meets ⟨a,member,held⟩
  · rename_i some_inside
    simp only [Bool.not_eq_true',Bool.not_eq_false,List.any_eq_true,Bool.or_eq_true,
      decide_eq_true_eq] at some_inside
    obtain ⟨entry,there,low | high⟩ := some_inside
    · exact ⟨entry.addrLow,low.symm,List.any_eq_true.mpr ⟨entry,there,by
        simp [Entry.holds,nonempty entry there]⟩⟩
    · exact ⟨entry.addrHigh,high.symm,List.any_eq_true.mpr ⟨entry,there,by
        simp [Entry.holds,nonempty entry there]⟩⟩

/-- What a run reaches from an empty generator. -/
theorem collect_alike (calls : List GeneratorCall) :
    Agree Eq (fun a b => Alike Entry.Lists a.1 b.1 ∧ a.2 = b.2)
      (collect (perform entryList) (initial entryList) calls)
      (collect (perform addressSet) (initial addressSet) calls) := by
  have start : Alike Entry.Lists (initial entryList) (initial addressSet) :=
    ⟨rfl,Entry.entryList_alike.empty,rfl⟩
  refine @collect_agree _ _ _ _ _ _ Eq (Alike Entry.Lists) _ _ ?_ calls _ _ start
  exact fun gen other alike call => perform_agree Entry.entryList_alike alike call

theorem reached_lists {calls : List GeneratorCall} {gen : AddressGenerator (List Entry)}
    {answers : List GeneratorAnswer}
    (reached : collect (perform entryList) (initial entryList) calls = .ok (gen,answers)) :
    ∃ given, Entry.Lists gen.m_entries given := by
  have agree := collect_alike calls
  rw [reached] at agree
  generalize collect (perform addressSet) (initial addressSet) calls = other at agree
  cases agree with
  | ok same => exact ⟨_,same.1.m_entries⟩

/-- In every run the generator answers, and aborts, as if it kept a set of addresses: an address
collides if and only if it was given out since the last reset. -/
theorem answers_of_set (calls : List GeneratorCall) :
    Agree Eq (fun a b => a.2 = b.2)
      (collect (perform entryList) (initial entryList) calls)
      (collect (perform addressSet) (initial addressSet) calls) := by
  have agree := collect_alike calls
  generalize collect (perform entryList) (initial entryList) calls = listed at agree ⊢
  generalize collect (perform addressSet) (initial addressSet) calls = kept at agree ⊢
  cases agree with
  | ok same => exact .ok same.2
  | error same => exact .error same

/-- The answer about a network is the negation of its documentation. A network is found free where
no address of it was given out, but also where all of them were, inside of one block. -/
theorem networks_judged {calls : List GeneratorCall} {gen : AddressGenerator (List Entry)}
    {answers : List GeneratorAnswer}
    (reached : collect (perform entryList) (initial entryList) calls = .ok (gen,answers))
    {i : Nat} (bound : i ≤ 32) {addr : UInt32} {free : Bool}
    (answer : gen.isNetworkAllocated addr (rowMask i) = .ok free) :
    if free then
      (∀ a ≠ 0, a &&& rowMask i = addr → gen.isAddressAllocated entryList a = .ok false) ∨
        (∀ a, a &&& rowMask i = addr → gen.isAddressAllocated entryList a = .ok true)
    else ∃ a, a &&& rowMask i = addr ∧ gen.isAddressAllocated entryList a = .ok true := by
  obtain ⟨given,lists⟩ := reached_lists reached
  have asked : ∀ {a held}, a ≠ 0 → entryList.holds a gen.m_entries = held →
      gen.isAddressAllocated entryList a = .ok held := by
    intro a held given_out found
    rw [isAddressAllocated,if_neg given_out,found]
  have positive : ∀ {a}, entryList.holds a gen.m_entries = true → a ≠ 0 := by
    rintro a held rfl
    obtain ⟨entry,there,inside⟩ := List.any_eq_true.mp held
    exact lists.broadcast ((lists.covered 0).mp
      ⟨entry.block,List.mem_map_of_mem there,(Entry.holds_iff entry).mp inside⟩)
  have judged := network_free bound lists.nonempty answer
  split at judged
  · rw [if_pos (by assumption)]
    refine judged.imp (fun none a given_out member => ?_) (fun all a member => ?_)
    · exact asked given_out (none a member)
    · exact asked (positive (all a member)) (all a member)
  · rw [if_neg (by assumption)]
    obtain ⟨a,member,held⟩ := judged
    exact ⟨a,member,asked (positive held) held⟩

/-- Two addresses of 10.1.1.0/24 are given out. -/
theorem networks_judged_taken : ∃ a, a &&& rowMask 24 = 0x0a010100 ∧
    ({ m_netTable := .initial, m_entries := [⟨0x0a010101,0x0a010102⟩], m_test := false } :
      AddressGenerator (List Entry)).isAddressAllocated entryList a = .ok true :=
  @networks_judged [.addAllocated 0x0a010101,.addAllocated 0x0a010102] _ _ rfl 24 (by decide)
    0x0a010100 false rfl

end AddressGenerator
end UavFanet.Internet
