import EseManager.Lib.Mem
import Mathlib.Algebra.Group.Nat.Defs
import Mathlib.Data.List.Basic

/-!
# Parcels

The messages of Binder. A writer appends to a parcel and a reader takes from its front: words of four bytes, least byte first, and
runs of bytes padded to a multiple of four. The interface token that a request begins with and the binder objects flattened into
it are kept apart from its bytes, in order.

A parcel grows by asking an `Allocator` for memory, which may refuse; the parcel remembers that, and is not sent then. A pointer into
a parcel is what it points to: the bytes from it to the end of the parcel, `none` if it is null.

Reading what was written gives it back (`readInt32_bytesOfU32`, `readInplace_block`); reading from an exhausted parcel gives zero or a null
pointer.
-/

namespace Ipc

/-- `OK`, which is `NO_ERROR`. -/
def ok : Int := 0

/-- `NO_MEMORY`, that is `-ENOMEM`. -/
def noMemory : Int := -12

/-- `BAD_VALUE`, that is `-EINVAL`. -/
def badValue : Int := -22

/-- `NOT_ENOUGH_DATA`, that is `-ENODATA`. -/
def notEnoughData : Int := -61

/-- `DEAD_OBJECT`, that is `-EPIPE`. -/
def deadObject : Int := -32

/-- `UNKNOWN_TRANSACTION`, that is `-EBADMSG`. -/
def unknownTransaction : Int := -74

/-- `INT32_MAX`, the largest length of a run of bytes. -/
def int32Max : Nat := 2 ^ 31 - 1

/-- A length with its padding. -/
def padded (len : Nat) : Nat := (len + 3) / 4 * 4

theorem le_padded (len : Nat) : len ≤ padded len := by
  unfold padded
  omega

/-- Where a parcel gets its memory: whether it can grow to a size, what new memory holds, and what lies behind the end of a
parcel. -/
structure Allocator where
  grows : Nat → Bool
  fresh : Mem
  beyond : Mem

/-- Memory that never runs out, all zero. -/
def Allocator.endless : Allocator := ⟨fun _ => true, fun _ => 0, fun _ => 0⟩

/-- The memory from a pointer into a parcel on. -/
def Allocator.at (mem : Allocator) (ptr : Option (List UInt8)) : Option Mem := ptr.map (mem.beyond.write 0)

/-- A parcel with binder objects of type `β`. -/
structure Parcel (β : Type*) where
  token : Option String
  data : List UInt8
  objects : List (Option β)
  error : Int
  deriving DecidableEq, Repr

namespace Parcel

variable {β : Type*}

/-- A new parcel. -/
def empty : Parcel β := { token := none, data := [], objects := [], error := ok }

/-! ## Writing -/

/-- `writeInterfaceToken`. -/
def writeInterfaceToken (p : Parcel β) (descriptor : String) : Parcel β := { p with token := some descriptor }

/-- `writeStrongBinder`; `none` is the null binder. -/
def writeStrongBinder (p : Parcel β) (b : Option β) : Parcel β := { p with objects := p.objects ++ [b] }

/-- The room for a run of `len` bytes, with its padding. -/
def room (mem : Allocator) (len : Nat) : List UInt8 := mem.fresh.read 0 len ++ List.replicate (padded len - len) 0

/-- `writeInplace`: make room for `len` bytes, with their padding zeroed. The pointer it returns is to the bytes after those of
`p`. -/
def writeInplace (mem : Allocator) (p : Parcel β) (len : Nat) : Option (List UInt8) × Parcel β :=
  if int32Max < len then
    (none, p)
  else if mem.grows (p.data.length + padded len) = false then
    (none, { p with error := noMemory })
  else
    (some (room mem len), { p with data := p.data ++ room mem len })

/-- Store bytes at an offset of a parcel. -/
def store (p : Parcel β) (off : Nat) (bs : List UInt8) : Parcel β :=
  { p with data := p.data.take off ++ bs ++ p.data.drop (off + bs.length) }

/-- `write`: append a run of bytes. -/
def write (mem : Allocator) (p : Parcel β) (bs : List UInt8) : Int × Parcel β :=
  if int32Max < bs.length then
    (badValue, p)
  else
    match p.writeInplace mem bs.length with
    | (none, q) => (q.error, q)
    | (some _, q) => (ok, q.store p.data.length bs)

/-- `writeInt32`: append a word. -/
def writeInt32 (mem : Allocator) (p : Parcel β) (x : UInt32) : Int × Parcel β :=
  if mem.grows (p.data.length + 4) = false then
    (noMemory, { p with error := noMemory })
  else
    (ok, { p with data := p.data ++ Mem.bytesOfU32 x })

/-- `writeNoException`: the exception code zero. -/
def writeNoException (mem : Allocator) (p : Parcel β) : Int × Parcel β := p.writeInt32 mem 0

/-! ## Reading -/

/-- `checkInterface`: the parcel begins with this interface token. -/
def checkInterface (p : Parcel β) (descriptor : String) : Bool := p.token == some descriptor

/-- `readStrongBinder`. -/
def readStrongBinder (p : Parcel β) : Option β × Parcel β :=
  match p.objects with
  | [] => (none, p)
  | b :: bs => (b, { p with objects := bs })

/-- `readInt32`: the next word, zero when the parcel is exhausted. -/
def readInt32 (p : Parcel β) : UInt32 × Parcel β :=
  match p.data with
  | b₀ :: b₁ :: b₂ :: b₃ :: rest =>
    (UInt32.ofNat (b₀.toNat + 2 ^ 8 * b₁.toNat + 2 ^ 16 * b₂.toNat + 2 ^ 24 * b₃.toNat), { p with data := rest })
  | _ => (0, p)

/-- `readInplace`: a pointer to the next `len` bytes, null when the length exceeds `INT32_MAX` or the bytes left. -/
def readInplace (p : Parcel β) (len : Nat) : Option (List UInt8) × Parcel β :=
  if len ≤ int32Max ∧ len ≤ p.data.length then
    (some p.data, { p with data := p.data.drop (padded len) })
  else
    (none, p)

/-- `read`: copy the next `len` bytes out. -/
def read (p : Parcel β) (len : Nat) : Int × List UInt8 × Parcel β :=
  if int32Max < len then
    (badValue, [], p)
  else
    match p.readInplace len with
    | (none, q) => (notEnoughData, [], q)
    | (some bs, q) => (ok, bs.take len, q)

/-- `EX_HAS_REPLY_HEADER`. -/
def exHasReplyHeader : UInt32 := UInt32.ofInt (-128)

/-- `readExceptionCode`: the exception code, after a reply header if there is one. -/
def readExceptionCode (p : Parcel β) : Int × Parcel β :=
  let (code, q) := p.readInt32
  if code = exHasReplyHeader then
    let (size, _) := q.readInt32
    (0, { q with data := q.data.drop size.toNat })
  else
    (code.toInt32.toInt, q)

/-! ## What was written is read -/

/-- The memory for a run of `len` bytes is given: the length is one that a parcel takes, and the allocator does not refuse. -/
def Allocates (mem : Allocator) (len : Nat) : Prop := len ≤ int32Max ∧ ∀ n, mem.grows n = true

/-- A run of bytes with its padding. -/
def block (bs : List UInt8) : List UInt8 := bs ++ List.replicate (padded bs.length - bs.length) 0

theorem length_block (bs : List UInt8) : (block bs).length = padded bs.length := by
  have hpad := le_padded bs.length
  simp only [block, List.length_append, List.length_replicate]
  omega

theorem length_room (mem : Allocator) (len : Nat) : (room mem len).length = padded len := by
  have hpad := le_padded len
  simp only [room, List.length_append, Mem.length_read, List.length_replicate]
  omega

section

variable (token : Option String) (objects : List (Option β)) (error : Int)

theorem writeInt32_of_grows {mem : Allocator} (h : ∀ n, mem.grows n = true) (p : Parcel β) (x : UInt32) :
    p.writeInt32 mem x = (ok, { p with data := p.data ++ Mem.bytesOfU32 x }) := by
  simp [writeInt32, h]

/-- A word that was written is read back. -/
theorem readInt32_bytesOfU32 (x : UInt32) (rest : List UInt8) :
    readInt32 ⟨token, Mem.bytesOfU32 x ++ rest, objects, error⟩ = (x, ⟨token, rest, objects, error⟩) := by
  have hx := x.toNat_lt
  simp only [readInt32, Mem.bytesOfU32, List.cons_append, List.nil_append, Prod.mk.injEq, and_true]
  apply UInt32.toNat_inj.1
  simp only [UInt32.toNat_ofNat', UInt32.toNat_toUInt8, UInt32.toNat_shiftRight, UInt32.toNat_ofNat,
    Nat.shiftRight_eq_div_pow, Nat.reduceMod, Nat.reducePow]
  omega

/-- What is stored over all of a parcel takes its place. -/
theorem store_all {data bs : List UInt8} (h : data.length = bs.length) :
    store ⟨token, data, objects, error⟩ 0 bs = ⟨token, bs, objects, error⟩ := by
  simp [store, ← h]

/-- What is stored over a run of bytes takes its place. -/
theorem store_append (pre old bs post : List UInt8) (h : old.length = bs.length) :
    store ⟨token, pre ++ (old ++ post), objects, error⟩ pre.length bs = ⟨token, pre ++ (bs ++ post), objects, error⟩ := by
  simp [store, ← h, List.drop_append]

theorem writeInplace_of_allocates {mem : Allocator} {len : Nat} (h : Allocates mem len) (p : Parcel β) :
    p.writeInplace mem len = (some (room mem len), { p with data := p.data ++ room mem len }) := by
  simp [writeInplace, Nat.not_lt.2 h.1, h.2]

/-- A run of bytes that is given its memory is appended with its padding. -/
theorem write_of_allocates {mem : Allocator} {bs : List UInt8} (h : Allocates mem bs.length) (p : Parcel β) :
    p.write mem bs = (ok, { p with data := p.data ++ block bs }) := by
  have hlen := Mem.length_read mem.fresh 0 bs.length
  have hle : ¬int32Max < bs.length := Nat.not_lt.2 h.1
  simp only [write, writeInplace_of_allocates h, hle, if_false, block, room]
  rw [store_append p.token p.objects p.error p.data _ bs _ hlen]

/-- The pointer to a run of bytes with its padding points to it, and the reader goes on behind it. -/
theorem readInplace_padded {len : Nat} {bs : List UInt8} (h : len ≤ int32Max) (hbs : bs.length = padded len) (rest : List UInt8) :
    readInplace ⟨token, bs ++ rest, objects, error⟩ len = (some (bs ++ rest), ⟨token, rest, objects, error⟩) := by
  have hpad := le_padded len
  have hle : len ≤ (bs ++ rest).length := by
    rw [List.length_append]
    omega
  simp only [readInplace, h, hle, and_self, if_true, ← hbs, List.drop_left]

/-- Copying the run out gives its first bytes. -/
theorem read_padded {len : Nat} {bs : List UInt8} (h : len ≤ int32Max) (hbs : bs.length = padded len) (rest : List UInt8) :
    read ⟨token, bs ++ rest, objects, error⟩ len = (ok, bs.take len, ⟨token, rest, objects, error⟩) := by
  have hle : len ≤ bs.length := hbs ▸ le_padded len
  simp only [read, Nat.not_lt.2 h, if_false, readInplace_padded token objects error h hbs rest,
    List.take_append_of_le_length hle]

/-- A run of bytes that was written is read back. -/
theorem readInplace_block {bs : List UInt8} (h : bs.length ≤ int32Max) (rest : List UInt8) :
    readInplace ⟨token, block bs ++ rest, objects, error⟩ bs.length =
      (some (block bs ++ rest), ⟨token, rest, objects, error⟩) :=
  readInplace_padded token objects error h (length_block bs) rest

end

end Parcel

/-! ## Transactions -/

/-- `BBinder::onTransact`, which answers the codes that a stub does not know. -/
abbrev BBinder (β : Type*) := UInt32 → Parcel β → Int × Parcel β

/-- `BBinder::onTransact` refuses every code that an interface may define, and leaves the reply empty. -/
def BBinder.RefusesUserCodes {β : Type*} (base : BBinder β) : Prop :=
  ∀ code data, 1 ≤ code → code ≤ 0x00ffffff → base code data = (unknownTransaction, Parcel.empty)

/-- A `BBinder` that refuses every code. -/
def BBinder.refusing {β : Type*} : BBinder β := fun _ _ => (unknownTransaction, Parcel.empty)

/-- What comes back to the client when the server has answered with a status and a reply: a negative status, or else the error of
the reply, is the result, and there is no reply then. The status `none` is that of a server that has died. -/
def answered {β : Type*} (status : Option Int) (reply : Parcel β) : Int × Parcel β :=
  match status with
  | none => (deadObject, Parcel.empty)
  | some status =>
    if status < 0 then
      (status, Parcel.empty)
    else if reply.error < 0 then
      (reply.error, Parcel.empty)
    else
      (ok, reply)

end Ipc
