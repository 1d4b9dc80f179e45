import Mathlib

/-!
# `SqliteCore.Mem5.Init`: the state `memsys5Init` builds

`memsys5Init` (`mem0.c:86-147`) takes the heap handed to `sqlite3_config`, sizes
an atom, and splits the heap into a pool of `nBlock` atoms followed by one
control byte per atom. The carving loop (lines 130-139) then gives the pool to
the buddy free lists, largest block first. This repository's version also
fills the 32-slot table `_BlockSize` (lines 114-120) that its table-driven
`memsys5Roundup` reads.

The rest of the allocator lives in `mem5.c`, which is not under `src/`. Its
constants `LOGMAX`, `CTRL_FREE` and `sizeof(Mem5Link)` are the fields of
`Mem5Consts`, and the value `memsys5Log(sqlite3GlobalConfig.mnReq)` is the
argument `nMinLog`. `memsys5Link` is modelled by the free list it extends.

The carving loop reports what each pass saw (`CarvePass`), so that statements
about "every iteration" are statements about a list. The mutexes and the heap
pointer are left out: no modelled line reads them.
-/

set_option autoImplicit false

namespace SqliteCore.Memsys5

/-- The constants of `mem5.c` that `memsys5Init` reads. -/
structure Mem5Consts where
  /-- Log of the largest block size, in atoms. -/
  LOGMAX : Nat
  /-- The bit of a control byte that marks a free block. -/
  CTRL_FREE : Nat
  /-- `sizeof(Mem5Link)`: an atom must hold the two links of a free block. -/
  sizeofMem5Link : Nat

/-- The fields of the allocator state `mem5` that `memsys5Init` writes, and the
static table `_BlockSize`. -/
structure Mem5 where
  szAtom : Nat
  nBlock : Nat
  /-- `mem5.aCtrl - mem5.zPool`: where the control array starts in the heap. -/
  aCtrlOffset : Nat
  /-- The control byte of each atom, `mem5.aCtrl[i]`. -/
  aCtrl : Nat → Nat
  /-- The free list of blocks of `2 ^ i` atoms, head first (`-1` is `[]`). -/
  aiFreelist : Nat → List Nat
  /-- `_BlockSize[32]`, as its 32 slots. -/
  blockSize : List Int

/-- `mem5.aCtrl[i] = v`. -/
def Mem5.setCtrl (m : Mem5) (i v : Nat) : Mem5 :=
  { m with aCtrl := fun j => if j = i then v else m.aCtrl j }

/-- Modelled from the spec: `memsys5Link` (`mem5.c`) is not under `src/`. It puts
block `i` at the head of the doubly linked free list `aiFreelist[iLogsize]`; the
list is modelled by its members, head first. -/
def memsys5Link (m : Mem5) (i iLogsize : Nat) : Mem5 :=
  { m with aiFreelist := fun j => if j = iLogsize then i :: m.aiFreelist j else m.aiFreelist j }

@[simp] theorem setCtrl_aiFreelist (m : Mem5) (i v : Nat) :
    (m.setCtrl i v).aiFreelist = m.aiFreelist := rfl

@[simp] theorem setCtrl_nBlock (m : Mem5) (i v : Nat) : (m.setCtrl i v).nBlock = m.nBlock := rfl

@[simp] theorem memsys5Link_nBlock (m : Mem5) (i l : Nat) : (memsys5Link m i l).nBlock = m.nBlock :=
  rfl

/-- `memsys5Link` leaves the control bytes alone. -/
@[simp] theorem memsys5Link_aCtrl (m : Mem5) (i l : Nat) : (memsys5Link m i l).aCtrl = m.aCtrl :=
  rfl

/-! ### The atom size and `_BlockSize` -/

/-- `while( (int)sizeof(Mem5Link)>mem5.szAtom ) mem5.szAtom <<= 1` (lines 111-113),
run at most `fuel` times. From `szAtom ≥ 1` the loop stops within
`sizeof(Mem5Link)` doublings, which `memsys5AtomSize` passes as fuel. -/
def atomGrow (szLink : Nat) : Nat → Nat → Nat
  | 0, szAtom => szAtom
  | fuel + 1, szAtom => if szLink > szAtom then atomGrow szLink fuel (szAtom * 2) else szAtom

/-- `mem5.szAtom` after lines 109-113, from `nMinLog = memsys5Log(mnReq)`. -/
def memsys5AtomSize (K : Mem5Consts) (nMinLog : Nat) : Nat :=
  atomGrow K.sizeofMem5Link K.sizeofMem5Link (2 ^ nMinLog)

/-- The fill of `_BlockSize` (lines 115-120), over the slots from `i` on:
`while (size < 0x40000000) { _BlockSize[i++] = (int)size; size *= 2; }`.
Slots the loop does not reach keep their old value. A fill that ran past the
32 slots would write outside the array; `fillBlockSize_getD_of_le` shows that
from `size ≥ 1` it stops by slot 30. -/
def fillBlockSize (size : Nat) : List Int → List Int
  | [] => []
  | s :: rest => if size < 0x40000000 then (size : Int) :: fillBlockSize (size * 2) rest else s :: rest

/-! ### The carving loop -/

/-- What one pass of the carving loop saw: its `ii`, `iOffset` at the top of the
body, and `iOffset` at the `assert` of line 138. -/
structure CarvePass where
  ii : Nat
  iOffset : Nat
  iOffsetAfter : Nat
  deriving DecidableEq, Repr

/-- The loop body at `ii` (lines 132-137): with `nAlloc = 1<<ii`, a block of
`nAlloc` atoms at `iOffset` that ends within `nBlock` is marked free in its
control byte and linked, and `iOffset` moves past it. -/
def carveBody (K : Mem5Consts) (m : Mem5) (ii iOffset : Nat) : Mem5 × Nat :=
  if iOffset + 2 ^ ii ≤ m.nBlock then
    (memsys5Link (m.setCtrl iOffset (ii ||| K.CTRL_FREE)) iOffset ii, iOffset + 2 ^ ii)
  else (m, iOffset)

/-- `for(ii=LOGMAX; ii>=0; ii--)`, started at `ii`: the state after the pass at
`0`, and the passes in loop order. -/
def carveLoop (K : Mem5Consts) : Nat → Mem5 → Nat → Mem5 × List CarvePass
  | 0, m, iOffset =>
    let r := carveBody K m 0 iOffset
    (r.1, [⟨0, iOffset, r.2⟩])
  | ii + 1, m, iOffset =>
    let r := carveBody K m (ii + 1) iOffset
    let rest := carveLoop K ii r.1 r.2
    (rest.1, ⟨ii + 1, iOffset, r.2⟩ :: rest.2)

/-- The state before the carving loop (lines 104-128): the atom size, the filled
`_BlockSize`, `nBlock` atoms of pool with the control array right after them, and
empty free lists. -/
def memsys5InitPool (K : Mem5Consts) (nByte nMinLog : Nat) (m₀ : Mem5) : Mem5 :=
  let szAtom := memsys5AtomSize K nMinLog
  let nBlock := nByte / (szAtom + 1)
  { m₀ with
    szAtom := szAtom
    nBlock := nBlock
    aCtrlOffset := nBlock * szAtom
    aiFreelist := fun _ => []
    blockSize := fillBlockSize szAtom m₀.blockSize }

@[simp] theorem memsys5InitPool_szAtom (K : Mem5Consts) (nByte nMinLog : Nat) (m₀ : Mem5) :
    (memsys5InitPool K nByte nMinLog m₀).szAtom = memsys5AtomSize K nMinLog := rfl

@[simp] theorem memsys5InitPool_blockSize (K : Mem5Consts) (nByte nMinLog : Nat) (m₀ : Mem5) :
    (memsys5InitPool K nByte nMinLog m₀).blockSize = fillBlockSize (memsys5AtomSize K nMinLog) m₀.blockSize :=
  rfl

/-- `memsys5Init` (lines 87-147) on a heap of `nByte` bytes, from the static
state `m₀` (which holds `_BlockSize` and the heap bytes the control array
overlays). It returns `SQLITE_OK` in every case, so only the state and the
carving passes are returned. -/
def memsys5Init (K : Mem5Consts) (nByte nMinLog : Nat) (m₀ : Mem5) : Mem5 × List CarvePass :=
  carveLoop K K.LOGMAX (memsys5InitPool K nByte nMinLog m₀) 0

end SqliteCore.Memsys5
