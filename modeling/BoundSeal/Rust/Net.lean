import BoundSeal.Rust.Collections
import BoundSeal.Rust.Text

/-!
# Rust network addresses: `std::net`

Addresses are words of 32 and 128 bits. The predicates of `std` are on their octets and
segments, and in the order of addresses version 4 comes first.
-/

namespace BoundSeal.Rust

/-- `std::net::Ipv4Addr`. -/
structure Ipv4Addr where
  bits : BitVec 32
  deriving DecidableEq, Repr

/-- `std::net::Ipv6Addr`. -/
structure Ipv6Addr where
  bits : BitVec 128
  deriving DecidableEq, Repr

/-- `std::net::IpAddr`. -/
inductive IpAddr where
  | v4 (ip : Ipv4Addr)
  | v6 (ip : Ipv6Addr)
  deriving DecidableEq, Repr

namespace Ipv4Addr

variable (ip : Ipv4Addr)

/-- `Ipv4Addr::new`. -/
def new (a b c d : ℕ) : Ipv4Addr := ⟨BitVec.ofNat 32 (a * 2 ^ 24 + b * 2 ^ 16 + c * 2 ^ 8 + d)⟩

/-- The octet at a position, counted from the left. -/
def octet (i : ℕ) : ℕ := ip.bits.toNat / 2 ^ (24 - 8 * i) % 256

/-- `Ipv4Addr::is_private`: 10/8, 172.16/12, 192.168/16. -/
def isPrivate : Bool :=
  ip.octet 0 == 10 || (ip.octet 0 == 172 && 16 ≤ ip.octet 1 && ip.octet 1 ≤ 31) ||
    (ip.octet 0 == 192 && ip.octet 1 == 168)

/-- `Ipv4Addr::is_loopback`: 127/8. -/
def isLoopback : Bool := ip.octet 0 == 127

/-- `Ipv4Addr::is_link_local`: 169.254/16. -/
def isLinkLocal : Bool := ip.octet 0 == 169 && ip.octet 1 == 254

/-- `Ipv4Addr::BROADCAST`. -/
def broadcast : Ipv4Addr := new 255 255 255 255

/-- `Ipv4Addr::is_broadcast`. -/
def isBroadcast : Bool := ip == broadcast

/-- `Ipv4Addr::is_documentation`: 192.0.2/24, 198.51.100/24, 203.0.113/24. -/
def isDocumentation : Bool :=
  (ip.octet 0 == 192 && ip.octet 1 == 0 && ip.octet 2 == 2) ||
    (ip.octet 0 == 198 && ip.octet 1 == 51 && ip.octet 2 == 100) ||
    (ip.octet 0 == 203 && ip.octet 1 == 0 && ip.octet 2 == 113)

/-- `Ipv4Addr::is_unspecified`. -/
def isUnspecified : Bool := ip.bits.toNat == 0

/-- `Ipv4Addr::is_multicast`: 224/4. -/
def isMulticast : Bool := 224 ≤ ip.octet 0 && ip.octet 0 ≤ 239

/-- The `Display` form. -/
def toString : String :=
  join "." [(ip.octet 0).repr, (ip.octet 1).repr, (ip.octet 2).repr, (ip.octet 3).repr]

end Ipv4Addr

namespace Ipv6Addr

variable (ip : Ipv6Addr)

/-- `Ipv6Addr::new`. -/
def new (a b c d e f g h : ℕ) : Ipv6Addr :=
  ⟨BitVec.ofNat 128 (a * 2 ^ 112 + b * 2 ^ 96 + c * 2 ^ 80 + d * 2 ^ 64 + e * 2 ^ 48 + f * 2 ^ 32 +
    g * 2 ^ 16 + h)⟩

/-- The segment at a position, counted from the left. -/
def segment (i : ℕ) : BitVec 16 := BitVec.ofNat 16 (ip.bits.toNat / 2 ^ (112 - 16 * i))

/-- `Ipv6Addr::is_loopback`. -/
def isLoopback : Bool := ip.bits.toNat == 1

/-- `Ipv6Addr::is_unspecified`. -/
def isUnspecified : Bool := ip.bits.toNat == 0

/-- `Ipv6Addr::is_multicast`: `ff00::/8`. -/
def isMulticast : Bool := ip.segment 0 &&& 0xff00 == 0xff00

/-- `Ipv6Addr::to_ipv4_mapped`: the address in `::ffff:0:0/96`. -/
def toIpv4Mapped : Option Ipv4Addr :=
  if ip.bits.toNat / 2 ^ 32 = 0xffff then some ⟨BitVec.ofNat 32 ip.bits.toNat⟩ else none

/-- The position and length of the first longest run of zeros from a position on. -/
def longestZeros : List ℕ → ℕ → ℕ × ℕ → ℕ × ℕ → ℕ × ℕ
  | [], _, _, best => best
  | segment :: segments, i, (start, length), best =>
    if segment = 0 then
      let current := if length = 0 then (i, 1) else (start, length + 1)
      longestZeros segments (i + 1) current (if current.2 > best.2 then current else best)
    else longestZeros segments (i + 1) (0, 0) best

/-- Hexadecimal without leading zeros. -/
def hex (n : ℕ) : String := String.ofList (Nat.toDigits 16 n)

/-- The `Display` form. -/
def toString : String :=
  match ip.toIpv4Mapped with
  | some mapped => "::ffff:" ++ mapped.toString
  | none =>
    let segments := (List.range 8).map fun i => (ip.segment i).toNat
    let (start, length) := longestZeros segments 0 (0, 0) (0, 0)
    if length > 1 then
      join ":" ((segments.take start).map hex) ++ "::" ++
        join ":" ((segments.drop (start + length)).map hex)
    else join ":" (segments.map hex)

end Ipv6Addr

namespace IpAddr

/-- The `Display` form. -/
def toString : IpAddr → String
  | .v4 ip => ip.toString
  | .v6 ip => ip.toString

/-- The rank of an address in the derived order: version 4 before version 6. -/
def rank : IpAddr → ℕ
  | .v4 ip => ip.bits.toNat
  | .v6 ip => 2 ^ 32 + ip.bits.toNat

theorem rank_injective : Function.Injective rank := by
  rintro (a | a) (b | b) h
  · exact congrArg (fun x => IpAddr.v4 ⟨x⟩) (BitVec.eq_of_toNat_eq h)
  · have ha := a.bits.isLt
    simp only [rank] at h
    omega
  · have hb := b.bits.isLt
    simp only [rank] at h
    omega
  · exact congrArg (fun x => IpAddr.v6 ⟨x⟩) (BitVec.eq_of_toNat_eq (by simpa [rank] using h))

instance : Ord IpAddr := ⟨fun a b => compare a.rank b.rank⟩

instance : Std.TransOrd IpAddr where
  eq_swap := Std.OrientedOrd.eq_swap (α := ℕ)
  isLE_trans := Std.TransOrd.isLE_trans (α := ℕ)

instance : Std.LawfulEqOrd IpAddr where
  eq_of_compare h := rank_injective (Std.LawfulEqOrd.eq_of_compare (α := ℕ) h)

/-! ## Parsing -/

/-- `char::to_digit`, 16 for a character that is no digit. -/
def digitValue (c : Char) : ℕ :=
  if '0' ≤ c ∧ c ≤ '9' then c.toNat - 48
  else if 'a' ≤ c ∧ c ≤ 'f' then c.toNat - 87
  else if 'A' ≤ c ∧ c ≤ 'F' then c.toNat - 55
  else 16

/-- `Parser::read_number` with a limit of digits: the number and the rest. -/
def readNumber (radix maxDigits bound : ℕ) (allowZeroStart : Bool) (input : List Char) :
    Option (ℕ × List Char) :=
  let digits := input.takeWhile fun c => digitValue c < radix
  let value := digits.foldl (fun n c => n * radix + digitValue c) 0
  if digits = [] ∨ digits.length > maxDigits ∨
      (!allowZeroStart && digits.head? == some '0' && digits.length > 1) ∨ value > bound then none
  else some (value, input.drop digits.length)

/-- `Parser::read_given_char`. -/
def readChar (c : Char) : List Char → Option (List Char)
  | [] => none
  | d :: input => if c = d then some input else none

/-- `Parser::read_ipv4_addr`. -/
def readIpv4 (input : List Char) : Option (Ipv4Addr × List Char) := do
  let (a, input) ← readNumber 10 3 255 false input
  let (b, input) ← readChar '.' input >>= readNumber 10 3 255 false
  let (c, input) ← readChar '.' input >>= readNumber 10 3 255 false
  let (d, input) ← readChar '.' input >>= readNumber 10 3 255 false
  pure (Ipv4Addr.new a b c d, input)

/-- The separator before group `i`. -/
def readSeparator (i : ℕ) (input : List Char) : Option (List Char) :=
  if i = 0 then some input else readChar ':' input

/-- `read_groups`: up to `room` groups from group `i` on, whether they end in an
embedded IPv4 address, and the rest. -/
def readGroups : (room i : ℕ) → List Char → List ℕ × Bool × List Char
  | 0, _, input => ([], false, input)
  | room + 1, i, input =>
    -- an embedded address takes two groups
    match if room = 0 then none else readSeparator i input >>= readIpv4 with
    | some (ip, rest) => ([ip.bits.toNat / 2 ^ 16, ip.bits.toNat % 2 ^ 16], true, rest)
    | none =>
      match readSeparator i input >>= readNumber 16 4 0xffff true with
      | some (group, rest) =>
        let (groups, embedded, rest) := readGroups room (i + 1) rest
        (group :: groups, embedded, rest)
      | none => ([], false, input)

def ofGroups (groups : List ℕ) : Ipv6Addr := ⟨BitVec.ofNat 128 (groups.foldl (fun n g => n * 2 ^ 16 + g) 0)⟩

/-- `Parser::read_ipv6_addr`. -/
def readIpv6 (input : List Char) : Option (Ipv6Addr × List Char) :=
  let (head, embedded, input) := readGroups 8 0 input
  if head.length = 8 then some (ofGroups head, input)
  else if embedded then none
  else do
    let input ← readChar ':' input >>= readChar ':'
    let (tail, _, input) := readGroups (7 - head.length) 0 input
    pure (ofGroups (head ++ List.replicate (8 - head.length - tail.length) 0 ++ tail), input)

/-- `str::parse::<IpAddr>`. -/
def parse (s : String) : Option IpAddr :=
  match readIpv4 s.toList with
  | some (ip, rest) => if rest = [] then some (.v4 ip) else none
  | none =>
    match readIpv6 s.toList with
    | some (ip, rest) => if rest = [] then some (.v6 ip) else none
    | none => none

end IpAddr

example : IpAddr.parse "192.0.2.17" = some (.v4 (Ipv4Addr.new 192 0 2 17)) := by decide +kernel

example : IpAddr.parse "2001:db8::192.0.2.17" = some (.v6 (Ipv6Addr.new 0x2001 0xdb8 0 0 0 0 0xc000 0x211)) := by
  decide +kernel

example : IpAddr.parse "app.example.com" = none := by decide +kernel

example : (IpAddr.v4 (Ipv4Addr.new 192 0 2 17)).toString = "192.0.2.17" := by decide +kernel

example : (IpAddr.v6 (Ipv6Addr.new 0x2001 0xdb8 0 0 1 0 0 1)).toString = "2001:db8::1:0:0:1" := by
  decide +kernel

end BoundSeal.Rust
