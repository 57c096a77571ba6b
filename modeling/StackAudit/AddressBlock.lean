/-!
# Blocks of network addresses

An address is a natural number of 32 or 128 bits. A block is an address with the length of a prefix:
it holds every address of the family that agrees with it on that many leading bits. The bits after
the prefix may be anything and make no difference.
-/

namespace StackAudit

/-- The two kinds of addresses. -/
inductive AddressFamily where
  | v4
  | v6
  deriving DecidableEq

namespace AddressFamily

/-- The number of bits of an address. -/
def bits : AddressFamily → Nat
  | v4 => 32
  | v6 => 128

end AddressFamily

/-- A block of addresses. -/
structure AddressBlock where
  family : AddressFamily
  /-- Any address of the block. -/
  address : Nat
  /-- The number of leading bits that all addresses of the block share. -/
  prefixLength : Nat
  deriving DecidableEq

namespace AddressBlock

/-- The number of addresses of a block. -/
def size (b : AddressBlock) : Nat := 1 <<< (b.family.bits - b.prefixLength)

/-- The first address of a block. -/
def first (b : AddressBlock) : Nat := b.address / b.size * b.size

/-- The last address of a block. -/
def last (b : AddressBlock) : Nat := b.first + (b.size - 1)

/-- An address of the family of a block is in the block. -/
def contains (b : AddressBlock) (address : Nat) : Bool :=
  b.first ≤ address && address ≤ b.last

/-- A block holds another one if both are of one family and the ends of the other are in it. -/
def holds (b other : AddressBlock) : Bool :=
  b.family = other.family && b.contains other.first && b.contains other.last

end AddressBlock

end StackAudit
