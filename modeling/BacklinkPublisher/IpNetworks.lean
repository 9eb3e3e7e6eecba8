import BacklinkPublisher.UrlSplit
import Mathlib.Tactic.Ring

set_option autoImplicit false

/-!
# IP addresses and networks

`ip_address`, `ip_network` and membership as `ipaddress` has them, with the IPv6 addresses that
stand for an IPv4 address.
-/
namespace BacklinkPublisher.IpNetworks
open FormEncoding UrlSplit

inductive IpAddress where
  | v4 (bits : BitVec 32)
  | v6 (bits : BitVec 128)
  deriving DecidableEq, Repr

def IpAddress.width : IpAddress → ℕ
  | .v4 _ => 32
  | .v6 _ => 128

def IpAddress.value : IpAddress → ℕ
  | .v4 bits => bits.toNat
  | .v6 bits => bits.toNat

/-! ## Texts -/

def ofDigits (base : ℕ) (digits : List ℕ) : ℕ := digits.foldl (fun n digit => base * n + digit) 0

def ipv4Value (s : List Char) : ℕ :=
  ofDigits 256 ((s.splitOn '.').map fun octet => Nat.ofDigitChars 10 octet 0)

def hextetValue (s : List Char) : ℕ := ofDigits 16 (s.map fun c => (hexValue c).getD 0)

/-- The eight groups of valid parts. -/
def groupValues (parts : List (List Char)) : List ℕ :=
  match skipIndices parts with
  | [] => parts.map hextetValue
  | skip :: _ =>
    let high := if parts.head? = some [] then skip - 1 else skip
    let low := if parts.getLast? = some [] then parts.length - skip - 2
      else parts.length - skip - 1
    (parts.take high).map hextetValue ++ List.replicate (8 - (high + low)) 0 ++
      (parts.drop (parts.length - low)).map hextetValue

/-- A last part in dotted decimal is added to the two empty groups that stand for it. -/
def ipv6Value (s : List Char) : ℕ :=
  let parts := (partition '%' s).1.splitOn ':'
  let dotted := if '.' ∈ parts.getLastD [] then ipv4Value (parts.getLastD []) else 0
  ofDigits 65536 (groupValues ((expandIPv4 parts).getD [])) + dotted

/-- `ip_address`, `none` where it raises. -/
def ipAddress (s : List Char) : Option IpAddress :=
  if isIPv4 s then some (.v4 (BitVec.ofNat 32 (ipv4Value s)))
  else if isIPv6 s then some (.v6 (BitVec.ofNat 128 (ipv6Value s)))
  else none

example : ipAddress "168.63.129.16".toList = some (.v4 0xa83f8110#32) := by decide

example : ipAddress "::ffff:10.0.0.1".toList = some (.v6 0xffff0a000001#128) := by decide

/-! ## Networks -/

structure Network where
  text : String
  base : IpAddress
  prefixLength : ℕ
  deriving DecidableEq, Repr

/-- `ip_network` of an address and the length of a prefix in decimal digits. -/
def ipNetwork (text : String) : Option Network :=
  let parts := partition '/' text.toList
  (ipAddress parts.1).map fun base => ⟨text, base, Nat.ofDigitChars 10 parts.2.2 0⟩

/-- `ip in net`. -/
def Network.contains (net : Network) (ip : IpAddress) : Bool :=
  ip.width = net.base.width ∧
    ip.value / 2 ^ (net.base.width - net.prefixLength) =
      net.base.value / 2 ^ (net.base.width - net.prefixLength)

/-- The shorter prefix is one of the longer. -/
def Network.overlaps (a b : Network) : Bool :=
  a.base.width = b.base.width ∧
    a.base.value / 2 ^ (a.base.width - min a.prefixLength b.prefixLength) =
      b.base.value / 2 ^ (a.base.width - min a.prefixLength b.prefixLength)

theorem div_pow_of_le {x y k m : ℕ} (le : k ≤ m) (same : x / 2 ^ k = y / 2 ^ k) :
    x / 2 ^ m = y / 2 ^ m := by
  have split : 2 ^ m = 2 ^ k * 2 ^ (m - k) := by
    rw [← pow_add]
    congr 1
    omega
  rw [split, ← Nat.div_div_eq_div_mul, ← Nat.div_div_eq_div_mul, same]

/-- Networks that share an address overlap. -/
theorem overlaps_of_contains {a b : Network} {ip : IpAddress} (left : a.contains ip = true)
    (right : b.contains ip = true) : a.overlaps b = true := by
  unfold Network.contains at left right
  rw [decide_eq_true_iff] at left right
  have widths : a.base.width = b.base.width := left.1.symm.trans right.1
  unfold Network.overlaps
  rw [decide_eq_true_iff]
  refine ⟨widths, ?_⟩
  rw [← widths] at right
  rw [← div_pow_of_le (by omega) left.2, ← div_pow_of_le (by omega) right.2]

/-! ## Addresses for addresses -/

/-- `::ffff:0:0/96` -/
def Mapped (ip : IpAddress) (a : BitVec 32) : Prop :=
  ∃ bits, ip = .v6 bits ∧ bits.toNat / 2 ^ 32 = 0xffff ∧ bits.toNat % 2 ^ 32 = a.toNat

/-- `2002::/16` -/
def SixToFour (ip : IpAddress) (a : BitVec 32) : Prop :=
  ∃ bits, ip = .v6 bits ∧ bits.toNat / 2 ^ 112 = 0x2002 ∧ bits.toNat / 2 ^ 80 % 2 ^ 32 = a.toNat

/-- `64:ff9b::/96` -/
def Nat64 (ip : IpAddress) (a : BitVec 32) : Prop :=
  ∃ bits, ip = .v6 bits ∧ bits.toNat / 2 ^ 32 = 0x64ff9b * 2 ^ 64 ∧ bits.toNat % 2 ^ 32 = a.toNat

end BacklinkPublisher.IpNetworks
