import BoundSeal.Rust.Net

/-!
# Destination classes (`nxb-destination`, and the check of `nxb-policy`)

Two functions decide whether an address may be reached. `Destination` classifies
every address and allows the class `public`; the gateway and the live backend use
it at connect time. `Policy.isPublicDestination` is a list of exclusions of its
own; plans and command-line destinations are validated with it.
-/

namespace BoundSeal

open Rust

namespace Destination

/-- `DestinationClass`. -/
inductive DestinationClass where
  | «public»
  | unspecified
  | loopback
  | «private»
  | sharedAddressSpace
  | linkLocal
  | documentation
  | benchmarking
  | protocolAssignment
  | multicast
  | reserved
  | broadcast
  | uniqueLocal
  | siteLocal
  | orchid
  | discardOnly
  | ipv4MappedNonPublic
  deriving DecidableEq, Repr

namespace DestinationClass

/-- `DestinationClass::is_allowed`. -/
def isAllowed : DestinationClass → Bool
  | .public => true
  | _ => false

/-- `DestinationClass::code`. -/
def code : DestinationClass → String
  | .public => "public"
  | .unspecified => "unspecified"
  | .loopback => "loopback"
  | .private => "private"
  | .sharedAddressSpace => "shared_address_space"
  | .linkLocal => "link_local"
  | .documentation => "documentation"
  | .benchmarking => "benchmarking"
  | .protocolAssignment => "protocol_assignment"
  | .multicast => "multicast"
  | .reserved => "reserved"
  | .broadcast => "broadcast"
  | .uniqueLocal => "unique_local"
  | .siteLocal => "site_local"
  | .orchid => "orchid"
  | .discardOnly => "discard_only"
  | .ipv4MappedNonPublic => "ipv4_mapped_non_public"

end DestinationClass

/-- `in_ipv4_prefix`. -/
def inIpv4Prefix (ip network : Ipv4Addr) (prefixLength : ℕ) : Bool :=
  let mask : BitVec 32 := if prefixLength = 0 then 0 else BitVec.allOnes 32 <<< (32 - prefixLength)
  ip.bits &&& mask == network.bits &&& mask

/-- `in_ipv6_prefix`. -/
def inIpv6Prefix (ip network : Ipv6Addr) (prefixLength : ℕ) : Bool :=
  let mask : BitVec 128 := if prefixLength = 0 then 0 else BitVec.allOnes 128 <<< (128 - prefixLength)
  ip.bits &&& mask == network.bits &&& mask

/-- `classify_ipv4`. -/
def classifyIpv4 (ip : Ipv4Addr) : DestinationClass :=
  if inIpv4Prefix ip (.new 0 0 0 0) 8 then .unspecified
  else if ip.isLoopback then .loopback
  else if ip.isPrivate then .private
  else if inIpv4Prefix ip (.new 100 64 0 0) 10 then .sharedAddressSpace
  else if ip.isLinkLocal then .linkLocal
  else if inIpv4Prefix ip (.new 192 0 0 0) 24 || inIpv4Prefix ip (.new 192 88 99 0) 24 then
    .protocolAssignment
  else if inIpv4Prefix ip (.new 192 0 2 0) 24 || inIpv4Prefix ip (.new 198 51 100 0) 24 ||
      inIpv4Prefix ip (.new 203 0 113 0) 24 then .documentation
  else if inIpv4Prefix ip (.new 198 18 0 0) 15 then .benchmarking
  else if ip.isMulticast then .multicast
  else if ip = .broadcast then .broadcast
  else if inIpv4Prefix ip (.new 240 0 0 0) 4 then .reserved
  else .public

/-- `classify_ipv6`. -/
def classifyIpv6 (ip : Ipv6Addr) : DestinationClass :=
  if ip.isUnspecified then .unspecified
  else if ip.isLoopback then .loopback
  else
    match ip.toIpv4Mapped with
    | some mapped => if (classifyIpv4 mapped).isAllowed then .public else .ipv4MappedNonPublic
    | none =>
      let first := ip.segment 0
      if first &&& 0xfe00 == 0xfc00 then .uniqueLocal
      else if first &&& 0xffc0 == 0xfe80 then .linkLocal
      else if first &&& 0xffc0 == 0xfec0 then .siteLocal
      else if first &&& 0xff00 == 0xff00 then .multicast
      else if inIpv6Prefix ip (.new 0x0100 0 0 0 0 0 0 0) 64 then .discardOnly
      else if inIpv6Prefix ip (.new 0x2001 0x0db8 0 0 0 0 0 0) 32 then .documentation
      else if inIpv6Prefix ip (.new 0x2001 0x0002 0 0 0 0 0 0) 48 then .benchmarking
      else if inIpv6Prefix ip (.new 0x2001 0x0010 0 0 0 0 0 0) 28 ||
          inIpv6Prefix ip (.new 0x2001 0x0020 0 0 0 0 0 0) 28 then .orchid
      else if inIpv6Prefix ip (.new 0x0064 0xff9b 0 0 0 0 0 0) 96 ||
          inIpv6Prefix ip (.new 0x0064 0xff9b 1 0 0 0 0 0) 48 ||
          inIpv6Prefix ip (.new 0x2001 0 0 0 0 0 0 0) 23 ||
          inIpv6Prefix ip (.new 0x2002 0 0 0 0 0 0 0) 16 then .protocolAssignment
      else if inIpv6Prefix ip (.new 0x3ffe 0 0 0 0 0 0 0) 16 then .reserved
      else .public

/-- `DestinationAssessment`. -/
structure DestinationAssessment where
  ip : IpAddr
  «class» : DestinationClass
  deriving DecidableEq, Repr

/-- `DestinationAssessment::is_allowed`. -/
def DestinationAssessment.isAllowed (assessment : DestinationAssessment) : Bool :=
  assessment.class.isAllowed

/-- `assess_destination`. -/
def assessDestination (ip : IpAddr) : DestinationAssessment :=
  ⟨ip, match ip with
    | .v4 ip => classifyIpv4 ip
    | .v6 ip => classifyIpv6 ip⟩

/-- `nxb_destination::is_public_destination`. -/
def isPublicDestination (ip : IpAddr) : Bool := (assessDestination ip).isAllowed

end Destination

namespace Policy

/-- The version 4 arm of `nxb_policy::is_public_destination`, also reached through
`is_public_destination_v4`. -/
def isPublicDestinationV4 (ip : Ipv4Addr) : Bool :=
  !ip.isPrivate && !ip.isLoopback && !ip.isLinkLocal && !ip.isBroadcast && !ip.isDocumentation &&
    !ip.isUnspecified && !ip.isMulticast

/-- `nxb_policy::is_public_destination`. -/
def isPublicDestination : IpAddr → Bool
  | .v4 ip => isPublicDestinationV4 ip
  | .v6 ip =>
    let first := ip.segment 0
    let uniqueLocal := first &&& 0xfe00 == 0xfc00
    let linkLocal := first &&& 0xffc0 == 0xfe80
    !ip.isLoopback && !ip.isUnspecified && !ip.isMulticast && !uniqueLocal && !linkLocal &&
      (ip.toIpv4Mapped.map isPublicDestinationV4).getD true

end Policy

end BoundSeal
