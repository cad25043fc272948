import Mathlib.Data.Finset.Dedup
import Mathlib.Data.Finset.Lattice.Lemmas
import Mathlib.Data.List.Nodup
import UavFanet.AddressGenerator

/-! The addresses that the helpers hand out to interfaces, each of them once. -/
namespace UavFanet.Internet
open Library

abbrev Generator := AddressGenerator (List Entry)

/-- `Ipv4AddressHelper`, with the illegal values that it starts with. -/
structure AddressHelper where
  m_network : UInt32 := 0xffffffff
  m_mask : UInt32 := 0
  m_address : UInt32 := 0xffffffff
  m_base : UInt32 := 0xffffffff
  m_shift : UInt32 := 0
  m_max : UInt32 := 0xffffffff

namespace AddressHelper

/-- The loop of `NumAddressBits` from the bit `i` on. -/
def numAddressBitsFrom (maskbits i : UInt32) : Nat → Except String UInt32
  | 0 => .error "Ipv4AddressHelper::NumAddressBits(): Bad Mask"
  | left+1 => if maskbits &&& 1 = 0 then numAddressBitsFrom (maskbits >>> 1) (i+1) left else .ok i

def numAddressBits (maskbits : UInt32) : Except String UInt32 := numAddressBitsFrom maskbits 0 32

def setBase (network mask address : UInt32) : Except String AddressHelper := do
  if network &&& ~~~mask ≠ 0 then
    throw "Ipv4AddressHelper::SetBase(): Inconsistent network and mask"
  let m_shift ← numAddressBits mask
  if m_shift > 32 then throw "Ipv4AddressHelper::SetBase(): Unreasonable address length"
  return {
    m_network := network >>> m_shift
    m_mask := mask
    m_address := address
    m_base := address
    m_shift
    m_max := (1 <<< m_shift)-2 }

def newAddress (helper : AddressHelper) (gen : Generator) :
    Except String ((AddressHelper × Generator) × UInt32) :=
  if helper.m_address > helper.m_max then
    .error "Ipv4AddressHelper::NewAddress(): Address overflow"
  else do
    let addr := (helper.m_network <<< helper.m_shift) ||| helper.m_address
    let (gen,_) ← gen.addAllocated entryList addr
    return (({ helper with m_address := helper.m_address+1 },gen),addr)

def newNetwork (helper : AddressHelper) : AddressHelper :=
  { helper with m_network := helper.m_network+1, m_address := helper.m_base }

/-- `Assign` for as many devices. -/
def assign (helper : AddressHelper) (gen : Generator) :
    Nat → Except String ((AddressHelper × Generator) × List UInt32)
  | 0 => .ok ((helper,gen),[])
  | devices+1 => do
    let ((helper,gen),addr) ← newAddress helper gen
    let (state,rest) ← assign helper gen devices
    return (state,addr :: rest)

end AddressHelper

/-- Helpers that share the generator. -/
structure AddressPlan where
  gen : Generator := .initial entryList
  helpers : Nat → AddressHelper := fun _ => {}

inductive PlanCall where
  | setBase (helper : Nat) (network mask address : UInt32)
  | newNetwork (helper : Nat)
  | assign (helper devices : Nat)

/-- The addresses that a call hands out. -/
def AddressPlan.perform (plan : AddressPlan) : PlanCall → Except String (AddressPlan × List UInt32)
  | .setBase h network mask address => do
    let helper ← AddressHelper.setBase network mask address
    return ({ plan with helpers := Function.update plan.helpers h helper },[])
  | .newNetwork h =>
    return ({ plan with helpers := Function.update plan.helpers h (plan.helpers h).newNetwork },[])
  | .assign h devices => do
    let ((helper,gen),addrs) ← (plan.helpers h).assign plan.gen devices
    return ({ gen, helpers := Function.update plan.helpers h helper },addrs)

/-- A generator that aborts on a collision, with the addresses it gave out. -/
structure Gave (gen : Generator) (given : Finset UInt32) : Prop where
  lists : Entry.Lists gen.m_entries given
  live : gen.m_test = false

theorem Gave.initial : Gave (.initial entryList) ∅ := ⟨Entry.entryList_alike.empty,rfl⟩

variable {gen after : Generator} {given : Finset UInt32}

theorem Gave.addAllocated (gave : Gave gen given) {addr : UInt32} {added : Bool}
    (returned : gen.addAllocated entryList addr = .ok (after,added)) :
    addr ≠ 0 ∧ addr ∉ given ∧ Gave after (insert addr given) := by
  have broadcast : addr ≠ 0 := by
    rintro rfl
    cases returned
  refine ⟨broadcast,?_⟩
  have store := Entry.entryList_alike.add broadcast gave.lists
  unfold AddressGenerator.addAllocated at returned
  rw [if_neg broadcast] at returned
  dsimp only [addressSet] at store
  split at returned
  · rw [gave.live] at returned
    cases returned
  · rename_i entries grown
    cases returned
    rw [grown] at store
    split at store
    · cases store
    · rename_i fresh
      cases store with
      | some lists => exact ⟨fresh,lists,gave.live⟩

namespace AddressHelper

variable {helper last : AddressHelper}

theorem newAddress_spec (gave : Gave gen given) {addr : UInt32}
    (returned : newAddress helper gen = .ok ((last,after),addr)) :
    last = { helper with m_address := helper.m_address+1 } ∧
      addr = (helper.m_network <<< helper.m_shift) ||| helper.m_address ∧
      addr ≠ 0 ∧ addr ∉ given ∧ Gave after (insert addr given) := by
  unfold newAddress at returned
  split at returned
  · cases returned
  · obtain ⟨⟨reached,added⟩,allocated,returned⟩ := bind_success.mp returned
    cases returned
    exact ⟨rfl,rfl,gave.addAllocated allocated⟩

/-- The devices get addresses of their own, none of which was given out before. -/
theorem assign_spec (gave : Gave gen given) {devices : Nat} {addrs : List UInt32}
    (returned : assign helper gen devices = .ok ((last,after),addrs)) :
    addrs.length = devices ∧ addrs.Nodup ∧ 0 ∉ addrs ∧ (∀ a ∈ addrs, a ∉ given) ∧
      Gave after (given ∪ addrs.toFinset) := by
  induction devices generalizing helper gen given addrs with
  | zero =>
    cases returned
    simpa using gave
  | succ devices ih =>
    rw [assign] at returned
    obtain ⟨⟨⟨next,middle⟩,addr⟩,first,returned⟩ := bind_success.mp returned
    obtain ⟨⟨state,rest⟩,others,returned⟩ := bind_success.mp returned
    cases returned
    obtain ⟨-,-,broadcast,fresh,gave⟩ := newAddress_spec gave first
    obtain ⟨length,distinct,positive,new,gave⟩ := ih gave others
    refine ⟨congrArg Nat.succ length,List.nodup_cons.mpr ⟨fun again => ?_,distinct⟩,?_,?_,?_⟩
    · exact new addr again (Finset.mem_insert_self addr given)
    · rw [List.mem_cons]
      exact fun held => held.elim (fun same => broadcast same.symm) positive
    · refine List.forall_mem_cons.mpr ⟨fresh,fun a member held => ?_⟩
      exact new a member (Finset.mem_insert_of_mem held)
    · rw [List.toFinset_cons,Finset.union_insert,← Finset.insert_union]
      exact gave

end AddressHelper

namespace AddressPlan

variable {plan reached : AddressPlan}

theorem perform_spec (gave : Gave plan.gen given) {call : PlanCall} {addrs : List UInt32}
    (returned : plan.perform call = .ok (reached,addrs)) :
    addrs.Nodup ∧ 0 ∉ addrs ∧ (∀ a ∈ addrs, a ∉ given) ∧
      Gave reached.gen (given ∪ addrs.toFinset) := by
  cases call with
  | setBase h network mask address =>
    obtain ⟨helper,-,returned⟩ := bind_success.mp returned
    cases returned
    simpa using gave
  | newNetwork h =>
    cases returned
    simpa using gave
  | assign h devices =>
    obtain ⟨⟨⟨helper,gen⟩,handed⟩,assigned,returned⟩ := bind_success.mp returned
    cases returned
    exact (AddressHelper.assign_spec gave assigned).2

theorem collect_spec (gave : Gave plan.gen given) {calls : List PlanCall}
    {addrs : List (List UInt32)} (returned : collect perform plan calls = .ok (reached,addrs)) :
    addrs.flatten.Nodup ∧ 0 ∉ addrs.flatten ∧ (∀ a ∈ addrs.flatten, a ∉ given) := by
  induction calls generalizing plan given addrs with
  | nil =>
    cases returned
    simp
  | cons call rest ih =>
    obtain ⟨⟨middle,first⟩,performed,returned⟩ := bind_success.mp returned
    obtain ⟨⟨last,others⟩,collected,returned⟩ := bind_success.mp returned
    cases returned
    obtain ⟨distinct,positive,new,gave⟩ := perform_spec gave performed
    obtain ⟨rest_distinct,rest_positive,rest_new⟩ := ih gave collected
    have apart : ∀ a ∈ others.flatten, a ∉ given ∧ a ∉ first := by
      intro a member
      have outside := rest_new a member
      rw [Finset.mem_union,List.mem_toFinset,not_or] at outside
      exact outside
    rw [List.flatten_cons]
    refine ⟨List.nodup_append'.mpr ⟨distinct,rest_distinct,?_⟩,?_,?_⟩
    · exact fun a member again => (apart a again).2 member
    · rw [List.mem_append]
      exact fun held => held.elim positive rest_positive
    · intro a member
      rcases List.mem_append.mp member with first_member | later
      · exact new a first_member
      · exact (apart a later).1

/-- No two interfaces get the same address, whichever helpers they get them from, and none gets the
broadcast address. -/
theorem addresses_distinct {calls : List PlanCall} {addrs : List (List UInt32)}
    (returned : collect perform {} calls = .ok (reached,addrs)) :
    addrs.flatten.Nodup ∧ 0 ∉ addrs.flatten :=
  have spec := collect_spec Gave.initial returned
  ⟨spec.1,spec.2.1⟩

/-- Three interfaces of a network and two of the next one. -/
theorem addresses_distinct_five : ∃ reached addrs, collect perform {}
    [.setBase 0 0x0a010100 0xffffff00 1,.assign 0 3,.newNetwork 0,.assign 0 2] = .ok (reached,addrs) ∧
      addrs.flatten.Nodup ∧ 0 ∉ addrs.flatten := by
  obtain ⟨reached,addrs,returned⟩ : ∃ reached addrs, collect perform {}
    [.setBase 0 0x0a010100 0xffffff00 1,.assign 0 3,.newNetwork 0,.assign 0 2] =
      .ok (reached,addrs) := ⟨_,_,rfl⟩
  exact ⟨reached,addrs,returned,addresses_distinct returned⟩

end AddressPlan
end UavFanet.Internet
