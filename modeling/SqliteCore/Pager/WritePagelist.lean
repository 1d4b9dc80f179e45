import SqliteCore.Pager.Types

/-!
# `SqliteCore.Pager.WritePagelist`: `pager_write_pagelist`

`pager_write_pagelist` (`pager-imp.c:137-217`) opens a temporary database file
that is not open yet, gives the VFS a size hint, and then writes each page of
the list that is neither beyond `dbSize` nor marked `PGHDR_DONT_WRITE`, in
list order, until a write fails.

The VFS and the other collaborators whose code is not under `src/` form the
environment `WriteEnv`: what `pagerOpentemp` returns, what the VFS reports for
the `k`-th `sqlite3OsWrite` of the call (any pattern of failures, each after
any prefix of its bytes), the codec, and `pager_write_changecounter`.

The model is the code as compiled with `NDEBUG`: the `assert`s do not stop it.
Their conditions are the predicates `WritePagelistEntry` (lines 141-144) and
`WritePagelistPage` (line 181), which `SqliteCore.Proofs.Stress` shows hold
when `pagerStress` calls in. The one dereference that can meet a `NULL`
argument outside an `assert`, `pList->pDirty` at line 161, makes the result
`none`.
-/

set_option autoImplicit false

namespace SqliteCore

/-! ### The VFS -/

/-- A result code other than `SQLITE_OK`. -/
structure ErrCode where
  rc : Nat
  ne_ok : rc ≠ SQLITE_OK
  deriving DecidableEq

/-- What the VFS reports for one `sqlite3OsWrite`: every byte written, or an
error after the first `nDone` bytes reached the file. -/
inductive WriteResult
  | ok
  | err (e : ErrCode) (nDone : Nat)
  deriving DecidableEq

/-- A call `pager_write_pagelist` makes outside the pager. -/
inductive IoEvent
  /-- `sqlite3OsFileControlHint(fd, SQLITE_FCNTL_SIZE_HINT, &szFile)` -/
  | fileControlHint (szFile : Nat)
  /-- `sqlite3OsWrite(fd, pData, iAmt, iOfst)` -/
  | write (pData : List UInt8) (iAmt iOfst : Nat)
  /-- `sqlite3BackupUpdate(pBackup, pgno, pData)` -/
  | backupUpdate (pgno : Pgno) (pData : List UInt8)
  deriving DecidableEq, Repr

/-- The collaborators of `pager_write_pagelist` that are not under `src/`. -/
structure WriteEnv where
  /-- What `pagerOpentemp` returns. -/
  pagerOpentemp : Nat
  /-- What the VFS reports for the `k`-th `sqlite3OsWrite` of the call. -/
  xWrite : Nat → WriteResult
  /-- `xCodec(pCodec, data, pgno, op)`, `none` when the pager has no codec; the
  codec answers `none` for a `NULL` result. -/
  xCodec : Option (List UInt8 → Pgno → Nat → Option (List UInt8))
  /-- `pager_write_changecounter`: the new image of page 1 from the pager and the
  old image. -/
  pagerWriteChangecounter : Pager → List UInt8 → List UInt8

/-- Modelled from the spec: the VFS `write(file, buf, n, off)` (§4.1) is not under
`src/`. The bytes land at `off`; a gap past the end of the file reads as zeros;
writing no byte leaves the file as it is. -/
def writeAt (f : List UInt8) (off : Nat) : List UInt8 → List UInt8
  | [] => f
  | b :: bs => f.take off ++ List.replicate (off - f.length) 0 ++ b :: bs ++ f.drop (off + (bs.length + 1))

/-- Modelled from the spec: `sqlite3OsWrite(fd, pData, iAmt, iOfst)` (`os.c`) hands
the first `iAmt` bytes of `pData` to the VFS write, which reports `r`. -/
def sqlite3OsWrite (r : WriteResult) (fd : Option (List UInt8)) (pData : List UInt8)
    (iAmt iOfst : Nat) : Nat × Option (List UInt8) :=
  match r with
  | .ok => (SQLITE_OK, fd.map (writeAt · iOfst (pData.take iAmt)))
  | .err e nDone => (e.rc, fd.map (writeAt · iOfst ((pData.take iAmt).take nDone)))

/-- Modelled from the spec: `pagerOpentemp(pPager, pPager->fd, pPager->vfsFlags)`
(`pager.c`) creates and opens the temporary file, which starts empty. -/
def pagerOpentemp (E : WriteEnv) (p : Pager) : Nat × Pager :=
  (E.pagerOpentemp, if E.pagerOpentemp = SQLITE_OK then { p with fd := some [] } else p)

/-- `CODEC2(P,D,N,X,E,O)` (part 2, lines 392-394): the image to write, `none` when
the codec returns `NULL`. -/
def codec2 (xCodec : Option (List UInt8 → Pgno → Nat → Option (List UInt8))) (d : List UInt8)
    (pgno : Pgno) (x : Nat) : Option (List UInt8) :=
  match xCodec with
  | none => some d
  | some f => f d pgno x

/-! ### Page hashes (lines 445-458) -/

/-- `pager_datahash(nByte, pData)`: `hash = hash*1039 + pData[i]` in `u32`. -/
def pagerDatahash (nByte : Nat) (pData : List UInt8) : UInt32 :=
  (pData.take nByte).foldl (fun hash b => hash * 1039 + b.toUInt32) 0

/-- `pager_set_pagehash(pPage)`, through `pager_pagehash(pPage)`. -/
def pagerSetPagehash (p : Pager) (pg : PgHdr) : PgHdr :=
  { pg with pageHash := pagerDatahash p.pageSize pg.pData }

/-! ### `pager_write_pagelist` -/

/-- What `pager_write_pagelist` leaves: its result code, the pager, the list with
the changes made to its pages in place, and the calls it made, in order. -/
structure WriteOut where
  rc : Nat
  pager : Pager
  pages : List PgHdr
  io : List IoEvent

/-- Lines 159-166, reached with `rc == SQLITE_OK`: the size hint. `none`: the
`NULL` list is dereferenced at line 161. -/
def pagerSizeHint (p : Pager) (pList : List PgHdr) : Option (Pager × List IoEvent) :=
  if p.dbHintSize < p.dbSize then
    match pList with
    | [] => none
    | pg :: _ =>
      if pg.pDirty.isSome || p.dbHintSize < pg.pgno then
        some ({ p with dbHintSize := p.dbSize }, [.fileControlHint (p.pageSize * p.dbSize.toNat)])
      else some (p, [])
  else some (p, [])

/-- Where page `pgno` starts in the file, `(pgno-1)*(i64)pPager->pageSize`. -/
def pageOffset (p : Pager) (pgno : Pgno) : Nat := (pgno - 1).toNat * p.pageSize

/-- Lines 188-200 for page `pgno` with image `pData`, the VFS reporting `r`: the
write, then `dbFileVers` for page 1, `dbFileSize`, and the write counter. -/
def pagerStorePage (r : WriteResult) (p : Pager) (pgno : Pgno) (pData : List UInt8) : Nat × Pager :=
  let w := sqlite3OsWrite r p.fd pData p.pageSize (pageOffset p pgno)
  (w.1, { p with
    fd := w.2
    dbFileVers := if pgno = 1 then (pData.drop 24).take 16 else p.dbFileVers
    dbFileSize := if pgno > p.dbFileSize then pgno else p.dbFileSize
    aStat := { p.aStat with write := p.aStat.write + 1 } })

/-- Whether line 177 writes the page: `pgno<=pPager->dbSize` and `DONT_WRITE` clear. -/
def pageWritten (p : Pager) (pg : PgHdr) : Bool := pg.pgno ≤ p.dbSize && !pg.flags.dontWrite

/-- `pager_write_changecounter(pList)` on page 1 (line 182). -/
def changecounterIfPage1 (E : WriteEnv) (p : Pager) (pg : PgHdr) : PgHdr :=
  if pg.pgno = 1 then { pg with pData := E.pagerWriteChangecounter p pg.pData } else pg

/-- The loop of lines 168-214 from the `k`-th write on, with `rc == SQLITE_OK`. -/
def writeLoop (E : WriteEnv) : Nat → Pager → List PgHdr → WriteOut
  | _, p, [] => ⟨SQLITE_OK, p, [], []⟩
  | k, p, pg :: rest =>
    if pageWritten p pg then
      let pg1 := changecounterIfPage1 E p pg
      match codec2 E.xCodec pg1.pData pg.pgno 6 with
      | none => ⟨SQLITE_NOMEM, p, pg1 :: rest, []⟩
      | some pData =>
        let s := pagerStorePage (E.xWrite k) p pg.pgno pData
        let ev := [.write pData p.pageSize (pageOffset p pg.pgno), .backupUpdate pg.pgno pg1.pData]
        let pg2 := pagerSetPagehash p pg1
        if s.1 = SQLITE_OK then
          let o := writeLoop E (k + 1) s.2 rest
          ⟨o.rc, o.pager, pg2 :: o.pages, ev ++ o.io⟩
        else ⟨s.1, s.2, pg2 :: rest, ev⟩
    else
      let o := writeLoop E k p rest
      ⟨o.rc, o.pager, pagerSetPagehash p pg :: o.pages, o.io⟩

/-- `pager_write_pagelist(pPager, pList)` (lines 137-217). `none`: the `NULL`
list is dereferenced at line 161. -/
def pagerWritePagelist (E : WriteEnv) (pPager : Pager) (pList : List PgHdr) : Option WriteOut :=
  let o := if isOpen pPager.fd then (SQLITE_OK, pPager) else pagerOpentemp E pPager
  if o.1 = SQLITE_OK then
    (pagerSizeHint o.2 pList).map fun h =>
      let w := writeLoop E 0 h.1 pList
      { w with io := h.2 ++ w.io }
  else some ⟨o.1, o.2, pList, []⟩

/-- The `assert`s on entry (lines 141-144): a rollback pager in `WRITER_DBMOD`
(or a temporary one) holding `EXCLUSIVE_LOCK`; if the file is not open, the list
has one page. For the `NULL` list the last condition dereferences `pList` unless
the file is open. -/
def WritePagelistEntry (p : Pager) (pList : List PgHdr) : Prop :=
  pagerUseWal p = false ∧ (p.tempFile = true ∨ p.eState = .WRITER_DBMOD) ∧ p.eLock = EXCLUSIVE_LOCK ∧
    (isOpen p.fd = true ∨ ∃ pg, pList.head? = some pg ∧ pg.pDirty = none)

/-- The `assert` of line 181 for the pages the loop writes: none needs a sync. -/
def WritePagelistPage (p : Pager) (pList : List PgHdr) : Prop :=
  ∀ pg ∈ pList, pageWritten p pg = true → pg.flags.needSync = false

end SqliteCore
