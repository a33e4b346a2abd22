import CloudEmulation.Fault
import CloudEmulation.Text.Blank
/-!
A pool of the host addresses of one network. The network, its gateway and its broadcast address are
never handed out.
-/

namespace CloudEmulation

/-- Everything below `next` and above the gateway is held. -/
structure AddressPool where
  network : Nat
  broadcast : Nat
  next : Nat
  held : List Address
  cidr : String
  deriving DecidableEq, Repr

namespace AddressPool

/-- The pool of the network that contains `address` and has `bits` leading bits. -/
def ofNetwork (address : Address) (bits : Nat) (cidr : String) : AddressPool :=
  let size := Nat.pow 2 (32 - bits)
  let network := address.number / size * size
  ⟨network, network + size - 1, network + 2, [], cidr⟩

/-- The parts before and after the first slash. -/
def halves? (cidr : List Char) : Option (List Char × List Char) :=
  match cidr.dropWhile (· ≠ '/') with
  | _ :: bits => some (cidr.takeWhile (· ≠ '/'), bits)
  | [] => none

def bits? (s : List Char) : Option Nat :=
  (Numeral.natural? s).filter fun n => 8 ≤ n && n ≤ 30

def parse? (cidr : String) : Option AddressPool := do
  let (address, bits) ← halves? cidr.toList
  let address ← Address.ofChars? (Text.trim address)
  let bits ← bits? (Text.trim bits)
  return ofNetwork address bits cidr

def parse (cidr : String) : Except Fault AddressPool :=
  match parse? cidr with
  | some p => .ok p
  | none => .error (.invalidArgument (.network cidr))

def contains (p : AddressPool) (a : Address) : Bool :=
  p.network + 1 < a.number && a.number < p.broadcast

/-- The first of `count` addresses from `next` on that nobody holds. -/
def firstFree (held : List Address) (next : Nat) : Nat → Option Address
  | 0 => none
  | count + 1 => if ⟨next⟩ ∈ held then firstFree held (next + 1) count else some ⟨next⟩

def allocate (p : AddressPool) : Except Fault Address × AddressPool :=
  match firstFree p.held p.next (p.broadcast - p.next) with
  | some a => (.ok a, { p with next := a.number + 1, held := a :: p.held })
  | none => (.error (.exhausted p.cidr), { p with next := max p.next p.broadcast })

def reserve (p : AddressPool) (a : Address) : Except Fault Unit × AddressPool :=
  if !p.contains a then (.error (.invalidArgument (.notAssignable a p.cidr)), p)
  else if a ∈ p.held then (.error (.invalidArgument (.inUse a)), p)
  else (.ok (), { p with held := a :: p.held })

/-- An address that nobody holds stays as it is. -/
def release (p : AddressPool) (a : Address) : AddressPool :=
  if a ∈ p.held then { p with next := min p.next a.number, held := p.held.filter (· ≠ a) }
  else p

def releaseAll (p : AddressPool) (addresses : List Address) : AddressPool :=
  addresses.foldl release p

/-- Allocates up to `count` addresses and stops at the first fault. -/
def drain (p : AddressPool) : Nat → List Address × Option Fault × AddressPool
  | 0 => ([], none, p)
  | count + 1 =>
    match p.allocate with
    | (.ok a, p) =>
      let (as, f, p) := drain p count
      (a :: as, f, p)
    | (.error f, p) => ([], some f, p)

end AddressPool

end CloudEmulation
