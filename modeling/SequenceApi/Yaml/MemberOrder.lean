import SequenceApi.Node.Basic
import SequenceApi.Table

/-!
# The order of members

A set shows its members in the order of their slots. A number looks for a slot where its remainder
says; if the slot is taken, it tries the next ones, and then others that further digits of it lead
to. There are at least eight slots, and at least twice as many as members if these are five or more.

## Main definitions

* `remainder?`: the number by which a member looks for its slot
* `slotOf`: the slot that a member finds
* `memberOrder`: the members in the order of their slots
-/

namespace SequenceApi.Yaml.MemberOrder

/-- Numbers are reduced by this prime. -/
def modulus : Nat := 0x1FFFFFFFFFFFFFFF

/-- A reduced number with its sign; minus one is kept for other uses. -/
def signed (negative : Bool) (n : Nat) : Int :=
  let i : Int := if negative then -(n % modulus : Nat) else (n % modulus : Nat)
  if i = -1 then -2 else i

/-- The number by which a member looks for its slot. Only truth values and numbers have one. -/
def remainder? : Scalar → Option Int
  | .bool b => some (if b then 1 else 0)
  | .int n => some (signed (n < 0) n.natAbs)
  | .float (.finite negative m e) =>
    -- The prime is one less than the power of two by 61, so that this power counts as one.
    some (signed negative (m * Binary64.power 2 (e % 61)))
  | .float (.infinite negative) => some (if negative then -314159 else 314159)
  | _ => none

/-- The slots of a set with so many members: the least power of two from eight on that is greater
than twice their number. Fewer than five members have eight. -/
def slotCount (members : Nat) : Nat :=
  if members < 5 then 8 else max 8 (Nat.pow 2 (Nat.log2 (2 * members) + 1))

/-- The first free slot, from a slot on, among so many and one more. -/
def freeFrom (taken : List Nat) (slot : Nat) : Nat → Option Nat
  | 0 => if taken.contains slot then none else some slot
  | n + 1 => if taken.contains slot then freeFrom taken (slot + 1) n else some slot

/-- The free slot that a search finds at a slot or later, where the digits that are left decide
where it goes on. The first argument bounds the number of its jumps. -/
def search (count : Nat) (taken : List Nat) : Nat → Nat → Nat → Nat
  | 0, slot, _ => slot
  | n + 1, slot, digits =>
    match freeFrom taken slot (if slot + 9 < count then 9 else 0) with
    | some free => free
    | none =>
      let digits := digits / 32
      search count taken n ((5 * slot + 1 + digits) % count) digits

/-- The slot that a member finds. -/
def slotOf (count : Nat) (taken : List Nat) (n : Int) : Nat :=
  let digits := (n % 0x10000000000000000).toNat
  search count taken (count + 16) (digits % count) digits

/-- Members with the slots that they find, one after another. -/
def slotted (count : Nat) : List Nat → List (Scalar × Int) → List (Nat × Scalar)
  | _, [] => []
  | taken, (s, n) :: rest =>
    let slot := slotOf count taken n
    (slot, s) :: slotted count (slot :: taken) rest

/-- The members of a set in the order of their slots; as they come, if one of them is no number. -/
def memberOrder (members : List Scalar) : List Scalar :=
  match members.mapM fun s => (remainder? s).map (s, ·) with
  | none => members
  | some numbered =>
    let placed := slotted (slotCount members.length) [] numbered
    (placed.mergeSort fun a b => a.1 ≤ b.1).map Prod.snd

end SequenceApi.Yaml.MemberOrder
