import SqliteCore.Pager.WritePagelist

/-!
# `SqliteCore.Pager.Stress`: `pagerStress`

`pagerStress` (`pager-imp.c:30-102`) is the callback the page cache calls under
memory pressure with a dirty page that has no outstanding reference. It refuses
the spill (lines 53-61), or writes the page out: in WAL mode as a frame of the
log (lines 66-71), in rollback mode by syncing the journal when the page or the
pager state requires it and then calling `pager_write_pagelist` on the one-page
list (lines 72-91). A spill that succeeded makes the page clean (lines 95-99),
and every result goes through `pager_error`.

The collaborators whose code is not under `src/` form the environment
`StressEnv σ`. They act on the pager fields they may change and on the rest of
the world `σ`: the journal, sub-journal and WAL files and the other cached
pages. `syncJournal` changes `eState`, `eLock` and the `PGHDR_NEED_SYNC` flags of
the cached pages (`SyncResult`); `pagerWalFrames` changes the counters and the
page image (`WalFramesResult`); the sub-journal and the journal calls change only
the world.

`pagerStress` returns what it leaves and the calls it made, in order
(`StressCall`), each with its result code and, for `syncJournal` and
`pager_write_pagelist`, the pager and the pages it was given. Statements about
what those calls saw are statements about this list.
-/

set_option autoImplicit false

namespace SqliteCore

/-! ### The collaborators -/

/-- A call `pagerStress` makes, with its result code. -/
inductive StressCall
  /-- `sqlite3JournalCreate(pPager->jfd)` -/
  | sqlite3JournalCreate (rc : Nat)
  /-- `syncJournal(pPager, 1)`, on the pager as it was at the call. -/
  | syncJournal (pPager : Pager) (rc : Nat)
  /-- `subjournalPageIfRequired(pPg)` -/
  | subjournalPageIfRequired (pPg : PgHdr) (rc : Nat)
  /-- `pagerWalFrames(pPager, pPg, 0, 0)` -/
  | pagerWalFrames (pPg : PgHdr) (rc : Nat)
  /-- `pager_write_pagelist(pPager, pPg)`, on the pager and the list it was given. -/
  | pagerWritePagelist (pPager : Pager) (pList : List PgHdr) (rc : Nat)
  /-- `sqlite3PcacheMakeClean(pPg)` -/
  | sqlite3PcacheMakeClean
  deriving DecidableEq

/-- The result code of a call; `sqlite3PcacheMakeClean` returns nothing. -/
def StressCall.rc : StressCall → Nat
  | .sqlite3JournalCreate rc | .syncJournal _ rc | .subjournalPageIfRequired _ rc
  | .pagerWalFrames _ rc | .pagerWritePagelist _ _ rc => rc
  | .sqlite3PcacheMakeClean => SQLITE_OK

/-- What `syncJournal(pPager, 1)` returns and changes: its result code, the
pager's `eState` and `eLock` afterwards, whether it cleared `PGHDR_NEED_SYNC` on
the cached pages (`sqlite3PcacheClearSyncFlags`), and the world. -/
structure SyncResult (σ : Type) where
  rc : Nat
  eState : PagerState
  eLock : Nat
  clearedSync : Bool
  world : σ

/-- What `pagerWalFrames(pPager, pPg, 0, 0)` returns and changes: its result code,
the counters `aStat` (it counts the frame as a write), the page image (which it
stamps with the change counter for page 1), and the world. -/
structure WalFramesResult (σ : Type) where
  rc : Nat
  aStat : PagerStat
  pData : List UInt8
  world : σ

/-- The collaborators of `pagerStress` that are not under `src/`. -/
structure StressEnv (σ : Type) where
  /-- Whether the build defines `SQLITE_ENABLE_BATCH_ATOMIC_WRITE`. -/
  batchAtomicWrite : Bool
  sqlite3JournalCreate : σ → Nat × σ
  syncJournal : Pager → σ → SyncResult σ
  subjournalPageIfRequired : Pager → PgHdr → σ → Nat × σ
  pagerWalFrames : Pager → PgHdr → σ → WalFramesResult σ
  /-- The collaborators of `pager_write_pagelist`. -/
  io : WriteEnv

/-- Modelled from the spec (§7): `pager_error(pPager, rc)` (`pager.c`) latches an
I/O or disk-full error, one whose primary code `rc & 0xff` is `SQLITE_IOERR` or
`SQLITE_FULL`: `errCode = rc` and the pager moves to `PAGER_ERROR`. It returns
`rc`, so only the pager is modelled. -/
def pagerError (p : Pager) (rc : Nat) : Pager :=
  if rc % 0x100 = SQLITE_IOERR ∨ rc % 0x100 = SQLITE_FULL then
    { p with errCode := rc, eState := .ERROR }
  else p

/-- Modelled from the spec (§4.4): `sqlite3PcacheMakeClean(pPg)` clears
`PGHDR_DIRTY` and `PGHDR_NEED_SYNC` and takes the page off the dirty list (the
list belongs to the cache, so only the call is recorded). -/
def sqlite3PcacheMakeClean (pg : PgHdr) : PgHdr :=
  { pg with flags := { pg.flags with dirty := false, needSync := false } }

/-- `PGHDR_NEED_SYNC` cleared, as `sqlite3PcacheClearSyncFlags` leaves every cached page. -/
def clearNeedSync (pg : PgHdr) : PgHdr := { pg with flags := { pg.flags with needSync := false } }

section
variable {σ : Type}

/-- The pager after `syncJournal`. -/
def SyncResult.pager (s : SyncResult σ) (p : Pager) : Pager := { p with eState := s.eState, eLock := s.eLock }

/-- The page after `syncJournal`. -/
def SyncResult.page (s : SyncResult σ) (pg : PgHdr) : PgHdr := if s.clearedSync then clearNeedSync pg else pg

/-- The pager after `pagerWalFrames`. -/
def WalFramesResult.pager (f : WalFramesResult σ) (p : Pager) : Pager := { p with aStat := f.aStat }

/-- The page after `pagerWalFrames`. -/
def WalFramesResult.page (f : WalFramesResult σ) (pg : PgHdr) : PgHdr := { pg with pData := f.pData }

end

/-! ### `pagerStress` -/

/-- What `pagerStress` leaves: its result code, the pager, the page, the world, and
the calls it made, in order. -/
structure StressOut (σ : Type) where
  rc : Nat
  pager : Pager
  page : PgHdr
  world : σ
  calls : List StressCall

section
variable {σ : Type}

/-- Lines 66-71, the WAL branch: `subjournalPageIfRequired`, then on success
`pagerWalFrames`. -/
def spillToWal (E : StressEnv σ) (p : Pager) (pg : PgHdr) (w : σ) : StressOut σ :=
  let s := E.subjournalPageIfRequired p pg w
  if s.1 = SQLITE_OK then
    let f := E.pagerWalFrames p pg s.2
    ⟨f.rc, f.pager p, f.page pg, f.world, [.subjournalPageIfRequired pg s.1, .pagerWalFrames pg f.rc]⟩
  else ⟨s.1, p, pg, s.2, [.subjournalPageIfRequired pg s.1]⟩

/-- Lines 88-91: `pager_write_pagelist` on the one-page list, after the calls
`calls`. The list is written in place, so the page afterwards is its first entry. -/
def spillWrite (E : StressEnv σ) (p : Pager) (pg : PgHdr) (w : σ) (calls : List StressCall) :
    Option (StressOut σ) :=
  (pagerWritePagelist E.io p [pg]).map fun o =>
    ⟨o.rc, o.pager, o.pages.headD pg, w, calls ++ [.pagerWritePagelist p [pg] o.rc]⟩

/-- Lines 82-91: `syncJournal` when the page needs a sync or the pager is still in
`PAGER_WRITER_CACHEMOD`, then, if all is well, the write. -/
def spillSyncWrite (E : StressEnv σ) (p : Pager) (pg : PgHdr) (w : σ) (calls : List StressCall) :
    Option (StressOut σ) :=
  if pg.flags.needSync = true ∨ p.eState = .WRITER_CACHEMOD then
    let s := E.syncJournal p w
    if s.rc = SQLITE_OK then spillWrite E (s.pager p) (s.page pg) s.world (calls ++ [.syncJournal p s.rc])
    else some ⟨s.rc, s.pager p, s.page pg, s.world, calls ++ [.syncJournal p s.rc]⟩
  else spillWrite E p pg w calls

/-- Lines 72-91, the rollback branch. With `SQLITE_ENABLE_BATCH_ATOMIC_WRITE` a
pager on a real file first creates the journal. If that fails, line 78 returns
`pager_error(pPager, rc)`, which is what the end of `pagerStress` returns for a
failed `rc`. -/
def spillToDb (E : StressEnv σ) (p : Pager) (pg : PgHdr) (w : σ) : Option (StressOut σ) :=
  if E.batchAtomicWrite = true ∧ p.tempFile = false then
    let j := E.sqlite3JournalCreate w
    if j.1 = SQLITE_OK then spillSyncWrite E p pg j.2 [.sqlite3JournalCreate j.1]
    else some ⟨j.1, p, pg, j.2, [.sqlite3JournalCreate j.1]⟩
  else spillSyncWrite E p pg w []

/-- Lines 94-101: a spill that succeeded makes the page clean; the result goes
through `pager_error`. -/
def stressFinish (o : StressOut σ) : StressOut σ :=
  if o.rc = SQLITE_OK then
    { o with pager := pagerError o.pager o.rc, page := sqlite3PcacheMakeClean o.page,
             calls := o.calls ++ [.sqlite3PcacheMakeClean] }
  else { o with pager := pagerError o.pager o.rc }

/-- Lines 64-92, once the spill is allowed and line 65 has cleared `pDirty`: the
WAL branch or the rollback branch. -/
def spillBody (E : StressEnv σ) (p : Pager) (pg : PgHdr) (w : σ) : Option (StressOut σ) :=
  if pagerUseWal p then some (spillToWal E p pg w) else spillToDb E p pg w

/-- `pagerStress(p, pPg)` (lines 30-102) with the world `w`. The result is `none`
only if `pager_write_pagelist` dereferences a `NULL` list, which a one-page list
never makes it do (`pagerStress_isSome`). -/
def pagerStress (E : StressEnv σ) (pPager : Pager) (pPg : PgHdr) (w : σ) : Option (StressOut σ) :=
  if pPager.errCode ≠ 0 then some ⟨SQLITE_OK, pPager, pPg, w, []⟩
  else if pPager.doNotSpill ≠ 0 ∧
      (pPager.doNotSpill &&& (SPILLFLAG_ROLLBACK ||| SPILLFLAG_OFF) ≠ 0 ∨ pPg.flags.needSync = true) then
    some ⟨SQLITE_OK, pPager, pPg, w, []⟩
  else
    (spillBody E { pPager with aStat := { pPager.aStat with spill := pPager.aStat.spill + 1 } }
      { pPg with pDirty := none } w).map stressFinish

end

/-- The two tests of lines 53-61: `pagerStress` refuses to spill `pg`. -/
def SpillRefused (p : Pager) (pg : PgHdr) : Prop :=
  p.errCode ≠ 0 ∨ (p.doNotSpill ≠ 0 ∧
    (p.doNotSpill &&& (SPILLFLAG_ROLLBACK ||| SPILLFLAG_OFF) ≠ 0 ∨ pg.flags.needSync = true))

instance (p : Pager) (pg : PgHdr) : Decidable (SpillRefused p pg) :=
  inferInstanceAs (Decidable (_ ∨ _))

end SqliteCore
