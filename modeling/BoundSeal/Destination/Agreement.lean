import BoundSeal.Destination.Model
import BoundSeal.Lib.Block

/-!
# Where the two destination checks agree

Each check refuses a union of address blocks (`classifyIpv4_isAllowed_iff` and its
companions). Comparing the unions gives the addresses the plan-time check lets
through and the connect-time check refuses: six blocks of version 4, eight of version 6.
An address that maps a version 4 address is judged as that address by both.
-/

namespace BoundSeal

open Rust Lib

/-! ## The predicates of `std` as blocks -/

namespace Rust.Ipv4Addr

variable (ip : Ipv4Addr)

/-- Membership in the block `a.b.c.d/length`. -/
def In (a b c d length : ℕ) (ip : Ipv4Addr) : Prop := InBlock (new a b c d).bits length ip.bits

theorem in_iff (a b c d length : ℕ) : ip.In a b c d length ↔ ip.bits.toNat / 2 ^ (32 - length) =
      (a * 2 ^ 24 + b * 2 ^ 16 + c * 2 ^ 8 + d) % 2 ^ 32 / 2 ^ (32 - length) := by
  rw [In, InBlock, new, BitVec.toNat_ofNat]

theorem octet_eq (i : ℕ) : ip.octet i = ip.bits.toNat / 2 ^ (24 - 8 * i) % 256 := rfl

theorem isPrivate_iff : ip.isPrivate = true ↔
    ip.In 10 0 0 0 8 ∨ ip.In 172 16 0 0 12 ∨ ip.In 192 168 0 0 16 := by
  simp only [isPrivate, Bool.or_eq_true, Bool.and_eq_true, beq_iff_eq, decide_eq_true_eq]
  simp only [in_iff, octet_eq]
  omega

theorem isLoopback_iff : ip.isLoopback = true ↔ ip.In 127 0 0 0 8 := by
  simp only [isLoopback, beq_iff_eq, in_iff, octet_eq]
  omega

theorem isLinkLocal_iff : ip.isLinkLocal = true ↔ ip.In 169 254 0 0 16 := by
  simp only [isLinkLocal, Bool.and_eq_true, beq_iff_eq, in_iff, octet_eq]
  omega

theorem eq_broadcast_iff : ip = broadcast ↔ ip.bits.toNat = 2 ^ 32 - 1 := by
  constructor
  · rintro rfl
    decide
  · intro h
    have hbits : ip.bits = broadcast.bits := BitVec.eq_of_toNat_eq (h.trans (by decide))
    exact congrArg mk hbits

theorem isDocumentation_iff : ip.isDocumentation = true ↔
    ip.In 192 0 2 0 24 ∨ ip.In 198 51 100 0 24 ∨ ip.In 203 0 113 0 24 := by
  simp only [isDocumentation, Bool.or_eq_true, Bool.and_eq_true, beq_iff_eq, in_iff, octet_eq]
  omega

theorem isMulticast_iff : ip.isMulticast = true ↔ ip.In 224 0 0 0 4 := by
  simp only [isMulticast, Bool.and_eq_true, decide_eq_true_eq]
  simp only [in_iff, octet_eq]
  omega

end Rust.Ipv4Addr

namespace Rust.Ipv6Addr

variable (ip : Ipv6Addr)

/-- Membership in the block of the given first three segments. -/
def In (a b c length : ℕ) (ip : Ipv6Addr) : Prop := InBlock (new a b c 0 0 0 0 0).bits length ip.bits

theorem new_toNat (a b c : ℕ) (ha : a < 2 ^ 16) (hb : b < 2 ^ 16) (hc : c < 2 ^ 16) :
    (new a b c 0 0 0 0 0).bits.toNat = a * 2 ^ 112 + b * 2 ^ 96 + c * 2 ^ 80 := by
  rw [new, BitVec.toNat_ofNat, Nat.mod_eq_of_lt]
  · omega
  · omega

theorem in_iff {a b c : ℕ} (length : ℕ) (ha : a < 2 ^ 16) (hb : b < 2 ^ 16) (hc : c < 2 ^ 16) :
    ip.In a b c length ↔ ip.bits.toNat / 2 ^ (128 - length) =
      (a * 2 ^ 112 + b * 2 ^ 96 + c * 2 ^ 80) / 2 ^ (128 - length) := by
  rw [In, InBlock, new_toNat a b c ha hb hc]

theorem segment_mask_iff {mask value : BitVec 16} {length : ℕ} (hlen : length ≤ 16)
    (hmask : mask = BitVec.allOnes 16 <<< (16 - length)) (hvalue : value &&& mask = value) :
    (ip.segment 0 &&& mask == value) = true ↔ ip.In value.toNat 0 0 length := by
  have hseg : (ip.segment 0).toNat = ip.bits.toNat / 2 ^ 112 := by
    rw [segment, BitVec.toNat_ofNat, Nat.mod_eq_of_lt]
    omega
  have htest : (ip.segment 0 &&& mask == value) = true ↔ ip.segment 0 &&& mask = value &&& mask := by
    rw [beq_iff_eq, hvalue]
  have hpow : (2 : ℕ) ^ (128 - length) = 2 ^ 112 * 2 ^ (16 - length) := by
    rw [← pow_add, show 112 + (16 - length) = 128 - length by omega]
  rw [htest, hmask, and_mask_eq_iff, hseg,
    in_iff ip length value.isLt (Nat.two_pow_pos 16) (Nat.two_pow_pos 16), hpow,
    Nat.div_div_eq_div_mul, Nat.zero_mul, Nat.zero_mul, Nat.add_zero,
    ← Nat.div_div_eq_div_mul (value.toNat * 2 ^ 112), Nat.mul_div_cancel _ (Nat.two_pow_pos 112)]

theorem uniqueLocal_iff : (ip.segment 0 &&& 0xfe00 == 0xfc00) = true ↔ ip.In 0xfc00 0 0 7 :=
  ip.segment_mask_iff (by decide) (by decide) (by decide)

theorem linkLocal_iff : (ip.segment 0 &&& 0xffc0 == 0xfe80) = true ↔ ip.In 0xfe80 0 0 10 :=
  ip.segment_mask_iff (by decide) (by decide) (by decide)

theorem siteLocal_iff : (ip.segment 0 &&& 0xffc0 == 0xfec0) = true ↔ ip.In 0xfec0 0 0 10 :=
  ip.segment_mask_iff (by decide) (by decide) (by decide)

theorem multicast_iff : (ip.segment 0 &&& 0xff00 == 0xff00) = true ↔ ip.In 0xff00 0 0 8 :=
  ip.segment_mask_iff (by decide) (by decide) (by decide)

end Rust.Ipv6Addr

/-! ## What each check refuses -/

namespace Destination

variable {ip : Ipv4Addr}

theorem inIpv4Prefix_iff {a b c d length : ℕ} (h : length ≠ 0) :
    inIpv4Prefix ip (.new a b c d) length = true ↔ ip.In a b c d length := by
  rw [inIpv4Prefix, if_neg h, beq_iff_eq, and_mask_eq_iff_inBlock, Ipv4Addr.In]

theorem inIpv6Prefix_iff {ip : Ipv6Addr} {a b c length : ℕ} (h : length ≠ 0) :
    inIpv6Prefix ip (.new a b c 0 0 0 0 0) length = true ↔ ip.In a b c length := by
  rw [inIpv6Prefix, if_neg h, beq_iff_eq, and_mask_eq_iff_inBlock, Ipv6Addr.In]

/-- A branch of a classifier that refuses. -/
theorem isAllowed_ite {c : Prop} [Decidable c] {x y : DestinationClass} (hx : x.isAllowed = false) :
    (if c then x else y).isAllowed = true ↔ ¬ c ∧ y.isAllowed = true := by
  by_cases h : c
  · simp [h, hx]
  · simp [h]

/-- **The version 4 classifier refuses these blocks.** -/
theorem classifyIpv4_isAllowed_iff : (classifyIpv4 ip).isAllowed = true ↔
    ¬ (ip.In 0 0 0 0 8 ∨ ip.In 127 0 0 0 8 ∨
      (ip.In 10 0 0 0 8 ∨ ip.In 172 16 0 0 12 ∨ ip.In 192 168 0 0 16) ∨ ip.In 100 64 0 0 10 ∨
      ip.In 169 254 0 0 16 ∨ (ip.In 192 0 0 0 24 ∨ ip.In 192 88 99 0 24) ∨
      ((ip.In 192 0 2 0 24 ∨ ip.In 198 51 100 0 24) ∨ ip.In 203 0 113 0 24) ∨ ip.In 198 18 0 0 15 ∨
      ip.In 224 0 0 0 4 ∨ ip.bits.toNat = 2 ^ 32 - 1 ∨ ip.In 240 0 0 0 4) := by
  have hpublic : DestinationClass.isAllowed .public = true := rfl
  unfold classifyIpv4
  repeat rw [isAllowed_ite rfl]
  simp only [hpublic, and_true, not_or, Bool.or_eq_true, inIpv4Prefix_iff, Ipv4Addr.isLoopback_iff,
    Ipv4Addr.isPrivate_iff, Ipv4Addr.isLinkLocal_iff, Ipv4Addr.isMulticast_iff,
    Ipv4Addr.eq_broadcast_iff, ne_eq, OfNat.ofNat_ne_zero, not_false_eq_true]

/-- **The version 6 classifier refuses these blocks**, of the addresses that map none. -/
theorem classifyIpv6_isAllowed_iff {ip : Ipv6Addr} (hmapped : ip.toIpv4Mapped = none) :
    (classifyIpv6 ip).isAllowed = true ↔
      ¬ (ip.bits.toNat = 0 ∨ ip.bits.toNat = 1 ∨ ip.In 0xfc00 0 0 7 ∨ ip.In 0xfe80 0 0 10 ∨
        ip.In 0xfec0 0 0 10 ∨ ip.In 0xff00 0 0 8 ∨ ip.In 0x0100 0 0 64 ∨ ip.In 0x2001 0x0db8 0 32 ∨
        ip.In 0x2001 0x0002 0 48 ∨ (ip.In 0x2001 0x0010 0 28 ∨ ip.In 0x2001 0x0020 0 28) ∨
        (((ip.In 0x0064 0xff9b 0 96 ∨ ip.In 0x0064 0xff9b 1 48) ∨ ip.In 0x2001 0 0 23) ∨
          ip.In 0x2002 0 0 16) ∨ ip.In 0x3ffe 0 0 16) := by
  have hpublic : DestinationClass.isAllowed .public = true := rfl
  unfold classifyIpv6
  rw [hmapped]
  repeat rw [isAllowed_ite rfl]
  simp only [hpublic, and_true, not_or, Bool.or_eq_true, inIpv6Prefix_iff, ne_eq,
    OfNat.ofNat_ne_zero, not_false_eq_true, Ipv6Addr.isUnspecified, Ipv6Addr.isLoopback, beq_iff_eq,
    ip.uniqueLocal_iff, ip.linkLocal_iff, ip.siteLocal_iff, ip.multicast_iff]

end Destination

namespace Policy

/-- **The plan-time check refuses these blocks of version 4.** -/
theorem isPublicDestinationV4_iff {ip : Ipv4Addr} : isPublicDestinationV4 ip = true ↔
    ¬ ((ip.In 10 0 0 0 8 ∨ ip.In 172 16 0 0 12 ∨ ip.In 192 168 0 0 16) ∨ ip.In 127 0 0 0 8 ∨
      ip.In 169 254 0 0 16 ∨ ip.bits.toNat = 2 ^ 32 - 1 ∨
      (ip.In 192 0 2 0 24 ∨ ip.In 198 51 100 0 24 ∨ ip.In 203 0 113 0 24) ∨ ip.bits.toNat = 0 ∨
      ip.In 224 0 0 0 4) := by
  simp only [isPublicDestinationV4, Bool.and_eq_true, Bool.not_eq_true', ← Bool.not_eq_true,
    Ipv4Addr.isPrivate_iff, Ipv4Addr.isLoopback_iff, Ipv4Addr.isLinkLocal_iff, Ipv4Addr.isBroadcast,
    Ipv4Addr.eq_broadcast_iff, Ipv4Addr.isDocumentation_iff, Ipv4Addr.isUnspecified,
    Ipv4Addr.isMulticast_iff, beq_iff_eq, not_or, and_assoc]

/-- **The plan-time check refuses these blocks of version 6**, of the addresses that
map none. -/
theorem isPublicDestination_v6_iff {ip : Ipv6Addr} (hmapped : ip.toIpv4Mapped = none) :
    isPublicDestination (.v6 ip) = true ↔
      ¬ (ip.bits.toNat = 1 ∨ ip.bits.toNat = 0 ∨ ip.In 0xff00 0 0 8 ∨ ip.In 0xfc00 0 0 7 ∨
        ip.In 0xfe80 0 0 10) := by
  simp only [isPublicDestination, hmapped, Option.map_none, Option.getD_none, Bool.and_true,
    Bool.and_eq_true, Bool.not_eq_true', ← Bool.not_eq_true, Ipv6Addr.isLoopback,
    Ipv6Addr.isUnspecified, Ipv6Addr.isMulticast, beq_iff_eq, ip.uniqueLocal_iff, ip.linkLocal_iff,
    ip.multicast_iff, not_or, and_assoc]

end Policy

/-! ## The gap -/

/-- The version 4 addresses the plan-time check accepts and the connect-time check
refuses: this network, shared address space, protocol assignments, 6to4 relays,
benchmarking and the reserved class E, less the two single addresses both refuse. -/
def GapV4 (ip : Ipv4Addr) : Prop :=
  ip.bits.toNat ≠ 0 ∧ ip.bits.toNat ≠ 2 ^ 32 - 1 ∧
    (ip.In 0 0 0 0 8 ∨ ip.In 100 64 0 0 10 ∨ ip.In 192 0 0 0 24 ∨ ip.In 192 88 99 0 24 ∨
      ip.In 198 18 0 0 15 ∨ ip.In 240 0 0 0 4)

/-- The same for version 6 addresses that map none: site-local, discard-only,
documentation, NAT64 (two blocks), protocol assignments, 6to4 and 6bone. -/
def GapV6 (ip : Ipv6Addr) : Prop :=
  ip.In 0xfec0 0 0 10 ∨ ip.In 0x0100 0 0 64 ∨ ip.In 0x2001 0x0db8 0 32 ∨ ip.In 0x0064 0xff9b 0 96 ∨
    ip.In 0x0064 0xff9b 1 48 ∨ ip.In 0x2001 0 0 23 ∨ ip.In 0x2002 0 0 16 ∨ ip.In 0x3ffe 0 0 16

/-- The gap of an address; a mapped address is in it when its version 4 address is. -/
def Gap : IpAddr → Prop
  | .v4 ip => GapV4 ip
  | .v6 ip =>
    match ip.toIpv4Mapped with
    | some mapped => GapV4 mapped
    | none => GapV6 ip

section

variable {ip : Ipv4Addr}

/-- The connect-time check of version 4 is the plan-time check less the gap. -/
theorem classifyIpv4_iff_gap : (Destination.classifyIpv4 ip).isAllowed = true ↔
    Policy.isPublicDestinationV4 ip = true ∧ ¬ GapV4 ip := by
  rw [Destination.classifyIpv4_isAllowed_iff, Policy.isPublicDestinationV4_iff, GapV4]
  simp only [Ipv4Addr.in_iff]
  omega

theorem isPublicDestinationV4_of_gap (h : GapV4 ip) : Policy.isPublicDestinationV4 ip = true := by
  rw [Policy.isPublicDestinationV4_iff]
  simp only [GapV4, Ipv4Addr.in_iff] at h ⊢
  omega

end

section

variable {ip : Ipv6Addr}

theorem classifyIpv6_iff_gap (hmapped : ip.toIpv4Mapped = none) :
    (Destination.classifyIpv6 ip).isAllowed = true ↔
      Policy.isPublicDestination (.v6 ip) = true ∧ ¬ GapV6 ip := by
  rw [Destination.classifyIpv6_isAllowed_iff hmapped, Policy.isPublicDestination_v6_iff hmapped, GapV6]
  simp (disch := decide) only [Ipv6Addr.in_iff]
  omega

theorem isPublicDestination_of_gapV6 (hmapped : ip.toIpv4Mapped = none) (h : GapV6 ip) :
    Policy.isPublicDestination (.v6 ip) = true := by
  rw [Policy.isPublicDestination_v6_iff hmapped]
  simp (disch := decide) only [GapV6, Ipv6Addr.in_iff] at h ⊢
  omega

variable {mapped : Ipv4Addr}

variable (hmapped : ip.toIpv4Mapped = some mapped)

include hmapped

theorem mapped_toNat : ip.bits.toNat / 2 ^ 32 = 0xffff := by
  unfold Ipv6Addr.toIpv4Mapped at hmapped
  split at hmapped
  · assumption
  · cases hmapped

theorem not_in_of_mapped :
    ip.bits.toNat ≠ 0 ∧ ip.bits.toNat ≠ 1 ∧ ¬ ip.In 0xff00 0 0 8 ∧ ¬ ip.In 0xfc00 0 0 7 ∧
      ¬ ip.In 0xfe80 0 0 10 := by
  have hdiv := mapped_toNat hmapped
  simp (disch := decide) only [Ipv6Addr.in_iff]
  omega

theorem isPublicDestination_mapped :
    Policy.isPublicDestination (.v6 ip) = Policy.isPublicDestinationV4 mapped := by
  obtain ⟨hzero, hone, hmulticast, hunique, hlink⟩ := not_in_of_mapped hmapped
  rw [← ip.multicast_iff, Bool.not_eq_true] at hmulticast
  rw [← ip.uniqueLocal_iff, Bool.not_eq_true] at hunique
  rw [← ip.linkLocal_iff, Bool.not_eq_true] at hlink
  have hloopback : ip.isLoopback = false := beq_false_of_ne hone
  have hunspecified : ip.isUnspecified = false := beq_false_of_ne hzero
  simp only [Policy.isPublicDestination, hloopback, hunspecified, Ipv6Addr.isMulticast, hmulticast,
    hunique, hlink, hmapped, Bool.not_false, Bool.true_and, Option.map_some, Option.getD_some]

/-- And at connect time. -/
theorem classifyIpv6_mapped :
    (Destination.classifyIpv6 ip).isAllowed = (Destination.classifyIpv4 mapped).isAllowed := by
  obtain ⟨hzero, hone, -⟩ := not_in_of_mapped hmapped
  have hclass : Destination.classifyIpv6 ip =
      if (Destination.classifyIpv4 mapped).isAllowed then .public else .ipv4MappedNonPublic := by
    simp [Destination.classifyIpv6, Ipv6Addr.isUnspecified, Ipv6Addr.isLoopback, hzero, hone, hmapped]
  rw [hclass]
  split
  · next h =>
    rw [h]
    rfl
  · next h =>
    rw [Bool.not_eq_true] at h
    rw [h]
    rfl

end

/-- **The checks agree exactly outside the gap**: an address the plan-time check
accepts is accepted at connect time if and only if it lies in none of the blocks. -/
theorem isPublicDestination_agree_iff (ip : IpAddr) :
    (Policy.isPublicDestination ip = true → Destination.isPublicDestination ip = true) ↔ ¬ Gap ip := by
  cases ip with
  | v4 ip =>
    show (Policy.isPublicDestinationV4 ip = true → (Destination.classifyIpv4 ip).isAllowed = true) ↔
      ¬ GapV4 ip
    rw [classifyIpv4_iff_gap]
    exact ⟨fun h hgap => (h (isPublicDestinationV4_of_gap hgap)).2 hgap, fun h hpublic => ⟨hpublic, h⟩⟩
  | v6 ip =>
    show (Policy.isPublicDestination (.v6 ip) = true →
      (Destination.classifyIpv6 ip).isAllowed = true) ↔ ¬ Gap (.v6 ip)
    cases hmapped : ip.toIpv4Mapped with
    | none =>
      have hgap : Gap (.v6 ip) ↔ GapV6 ip := by rw [Gap, hmapped]
      rw [classifyIpv6_iff_gap hmapped, hgap]
      exact ⟨fun h hin => (h (isPublicDestination_of_gapV6 hmapped hin)).2 hin,
        fun h hpublic => ⟨hpublic, h⟩⟩
    | some mapped =>
      have hgap : Gap (.v6 ip) ↔ GapV4 mapped := by rw [Gap, hmapped]
      rw [isPublicDestination_mapped hmapped, classifyIpv6_mapped hmapped, classifyIpv4_iff_gap, hgap]
      exact ⟨fun h hin => (h (isPublicDestinationV4_of_gap hin)).2 hin, fun h hpublic => ⟨hpublic, h⟩⟩

/-- `100.64.0.1`, in the shared address space, passes at plan time only. -/
theorem sharedAddressSpace_disagree : ¬ (Policy.isPublicDestination (.v4 (.new 100 64 0 1)) = true →
      Destination.isPublicDestination (.v4 (.new 100 64 0 1)) = true) := by
  decide

end BoundSeal
