import Mathlib

/-!
# `SqliteCore.Pager.Types`: the pager state that `pagerStress` and `pager_write_pagelist` touch

The fields of `struct Pager` (part 2 of the unnamed sources, lines 606-701) and
`struct PgHdr` (part 1, lines 67-92) that the two functions of `pager-imp.c`
read or write, with the constants they name.

Choices of representation:

* A page number `Pgno` is the source's `u32`, so `pgno - 1` wraps as in C.
* The database file handle `fd` is `none` while it is not open and `some data`,
  the bytes of the file, once it is: `isOpen(fd)` is `fd.isSome`.
* `pageSize` carries the spec's invariant (a power of two from 512 to 65536).
* The transient dirty list linked by `pDirty` is passed around as the Lean
  list it links. `pDirty` is kept on each page, as the pointer to the next
  page's number, because `pagerStress` clears it and `pager_write_pagelist`
  tests it.
* The `PGHDR_*` flags are the three bits the modelled lines test or change.
* `aStat` is a record of its four counters, so that `aStat[PAGER_STAT_WRITE]++`
  is an update of the field `write`.

Fields no modelled line reads (the journal and sub-journal handles, the
savepoints, the busy handler and the rest) are left out.
-/

set_option autoImplicit false

namespace SqliteCore

/-! ### Constants -/

/-- Result codes as `sqlite3.h` numbers them. An extended code keeps its primary
code in the low byte. -/
def SQLITE_OK : Nat := 0
def SQLITE_NOMEM : Nat := 7
def SQLITE_IOERR : Nat := 10
def SQLITE_FULL : Nat := 13

/-- Modelled from the spec: the lock levels of the VFS contract (§6), of which
the modelled lines name only `EXCLUSIVE_LOCK`. -/
def EXCLUSIVE_LOCK : Nat := 4

/-- The bits of `Pager.doNotSpill` (part 2, lines 437-439). -/
def SPILLFLAG_OFF : Nat := 0x01
def SPILLFLAG_ROLLBACK : Nat := 0x02
def SPILLFLAG_NOSYNC : Nat := 0x04

/-- `int aStat[4]`, whose comment lists the counters as "cache hits, misses,
writes, spills", at the indices `PAGER_STAT_HIT` .. `PAGER_STAT_SPILL` (0-3). The
counters are C `int`s; the model counts without their bound, since an increment
past `INT_MAX` is undefined in C. -/
structure PagerStat where
  hit : Nat
  miss : Nat
  write : Nat
  spill : Nat
  deriving DecidableEq, Repr

/-- A page number, `Pgno`: an unsigned 32-bit integer. -/
abbrev Pgno := UInt32

theorem Pgno.le_iff {a b : Pgno} : a ≤ b ↔ a.toNat ≤ b.toNat := Iff.rfl

theorem Pgno.lt_iff {a b : Pgno} : a < b ↔ a.toNat < b.toNat := Iff.rfl

/-- `pgno - 1` as a number, for a page number of at least 1. -/
theorem Pgno.toNat_sub_one {a : Pgno} (h : 1 ≤ a) : (a - 1).toNat = a.toNat - 1 :=
  UInt32.toNat_sub_of_le a 1 h

/-- The seven states of `Pager.eState` (part 2, lines 328-334). -/
inductive PagerState
  | OPEN | READER | WRITER_LOCKED | WRITER_CACHEMOD | WRITER_DBMOD | WRITER_FINISHED | ERROR
  deriving DecidableEq, Repr

/-! ### Pages and the pager -/

/-- The bits of `PgHdr.flags` that the modelled lines test or change. -/
structure PgFlags where
  /-- `PGHDR_DIRTY` -/
  dirty : Bool
  /-- `PGHDR_NEED_SYNC`: the journal must be synced before the page is written. -/
  needSync : Bool
  /-- `PGHDR_DONT_WRITE` -/
  dontWrite : Bool
  deriving DecidableEq, Repr

/-- A cache entry, `PgHdr`. -/
structure PgHdr where
  pgno : Pgno
  flags : PgFlags
  /-- The page image, `pData`. -/
  pData : List UInt8
  /-- The next page of the transient dirty list, `none` for `NULL`. -/
  pDirty : Option Pgno
  /-- `pageHash` (`SQLITE_CHECK_PAGES`). -/
  pageHash : UInt32
  deriving DecidableEq, Repr

/-- A pager, `struct Pager`, restricted to the fields the modelled lines use. -/
structure Pager where
  tempFile : Bool
  eState : PagerState
  eLock : Nat
  doNotSpill : Nat
  dbSize : Pgno
  dbFileSize : Pgno
  dbHintSize : Pgno
  errCode : Nat
  /-- The database file: `none` while not open, else its bytes. -/
  fd : Option (List UInt8)
  /-- `dbFileVers[16]`: bytes 24-39 of page 1 as last written. -/
  dbFileVers : List UInt8
  pageSize : Nat
  pageSize_valid : ∃ k, 9 ≤ k ∧ k ≤ 16 ∧ pageSize = 2 ^ k
  aStat : PagerStat
  /-- `pWal != 0`: the pager runs a write-ahead log. -/
  pWal : Bool
  deriving DecidableEq

/-- A page holds at least 512 bytes. -/
theorem Pager.pageSize_ge (p : Pager) : 512 ≤ p.pageSize := by
  obtain ⟨k, hk, -, h⟩ := p.pageSize_valid
  rw [h]; exact Nat.pow_le_pow_right Nat.zero_lt_two hk

/-- A page holds at most 65536 bytes. -/
theorem Pager.pageSize_le (p : Pager) : p.pageSize ≤ 65536 := by
  obtain ⟨k, -, hk, h⟩ := p.pageSize_valid
  rw [h]; exact Nat.pow_le_pow_right Nat.zero_lt_two hk

/-- `isOpen(pFd)`: the handle has methods, i.e. a file is open on it. -/
def isOpen (fd : Option (List UInt8)) : Bool := fd.isSome

/-- `pagerUseWal(pPager)` -/
def pagerUseWal (p : Pager) : Bool := p.pWal

end SqliteCore
